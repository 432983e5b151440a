import MarketplaceService.StorefrontSteps
import Mathlib.Data.List.Induction

/-!
The fence of a tombstone. Between the read of the row and the tombstone the
epoch of the row stands still, so no record-derived write was committed; the
delete was the record's latest event when the event stream was read, and that
was after the row; and the lease row a follower locked is still its own.
-/

namespace MarketplaceService

variable {config : FollowerConfig} {start store after : Storefront}

/-! The epoch. -/

def Storefront.writesRecord (store : Storefront) (key : RecordKey) : StorefrontAction → Bool
  | .advance id _ =>
      (store.activities.find? id).any fun activity =>
        (store.recordWrite activity).map Prod.fst == some key
  | _ => false

theorem writesRecord_of_write {id : ActivityId} {up : Bool} {activity : Activity}
    {key : RecordKey} {row : ListingRow} (found : store.activities.find? id = some activity)
    (written : store.recordWrite activity = some (key, row)) :
    store.writesRecord key (.advance id up) = true := by
  simp [Storefront.writesRecord, found, written]

theorem step_epoch {action : StorefrontAction} {key : RecordKey} {old : ListingRow}
    (stepped : store.step config action = some after)
    (present : store.rows.find? key = some old) :
    ∃ row, after.rows.find? key = some row ∧
      (row.recordEpoch = old.recordEpoch ∧ store.writesRecord key action = false ∨
        row.recordEpoch = old.recordEpoch + 1) := by
  have quiet : store.writesRecord key action = false ∨ ∃ id up activity row,
      action = .advance id up ∧ store.activities.find? id = some activity ∧
        store.recordWrite activity = some (key, row) := by
    cases wrote : store.writesRecord key action with
    | false => exact .inl rfl
    | true =>
        right
        cases action with
        | advance id up =>
            simp only [Storefront.writesRecord, Option.any_eq_true, beq_iff_eq,
              Option.map_eq_some_iff] at wrote
            obtain ⟨activity, found, ⟨_, row⟩, written, rfl⟩ := wrote
            exact ⟨id, up, activity, row, rfl, found, written⟩
        | _ => cases wrote
  -- a write that is counted happens in this very step
  have counts : ∀ id up activity row, action = .advance id up →
      store.activities.find? id = some activity → store.recordWrite activity = some (key, row) →
      ∃ row, after.rows.find? key = some row ∧ row.recordEpoch = old.recordEpoch + 1 := by
    rintro id up activity row rfl found written
    obtain ⟨same, listed, moved⟩ := Option.bind_eq_some_iff.mp stepped
    obtain rfl : activity = same := Option.some.inj (found.symm.trans listed)
    obtain ⟨⟨middle, next⟩, advanced, rfl⟩ := Option.map_eq_some_iff.mp moved
    have epoch := (recordWrite_step written).epoch old present
    refine ⟨row, ?_, epoch⟩
    have committed : middle = store.commitRecord activity := by
      unfold Storefront.recordWrite at written
      split at written
      · cases advanced
        rfl
      · cases advanced
        rfl
      · cases written
    rw [committed, Storefront.commitRecord, written]
    simp [Storefront.setActivity, Storefront.setRow]
  rcases quiet with silent | ⟨id, up, activity, row, taken, found, written⟩
  · generalize reads : after.rows.find? key = result
    have moves := step_rows stepped key
    rw [reads] at moves
    cases moves with
    | kept => exact ⟨old, present, .inl ⟨rfl, silent⟩⟩
    | @traded before row same untouched others =>
        obtain rfl : before = old := Option.some.inj (same.symm.trans present)
        exact ⟨row, rfl, .inl ⟨others.1, silent⟩⟩
    | recorded taken found written =>
        subst taken
        rw [writesRecord_of_write found written] at silent
        cases silent
    | @buried id up activity authority settle observed cursor row taken found settles proof
        buries =>
        obtain ⟨before, same, -, -, -, epoch, -⟩ := buries.before
        obtain rfl : before = old := Option.some.inj (same.symm.trans present)
        exact ⟨row, rfl, .inl ⟨epoch, silent⟩⟩
  · obtain ⟨row, reads, epoch⟩ := counts id up activity row taken found written
    exact ⟨row, reads, .inr epoch⟩

/-! The proof of a deletion, along a run. -/

/-- The activity is about to read the listing's row. -/
def Storefront.observes (store : Storefront) (id : ActivityId) (key : RecordKey) : Prop :=
  (store.activities.find? id).bind Activity.settle = some (key, .observe)

/-- The run read the row of the listing as `live`, and no record-derived write
to it was committed since; the cursor is that of a delete which was the
record's latest event after the read. -/
inductive Proven (config : FollowerConfig) (start : Storefront) (id : ActivityId)
    (key : RecordKey) (live : LiveListing) :
    List StorefrontAction → Storefront → Option Cursor → Prop
  | observed {before : List StorefrontAction} {up : Bool} {store after : Storefront}
      (ran : Runs.run (storefront config) start before = some store)
      (observes : store.observes id key)
      (read : observeLive (store.rows.find? key) = some live)
      (stepped : store.step config (.advance id up) = some after) :
      Proven config start id key live (before ++ [.advance id up]) after none
  | confirmed {labels : List StorefrontAction} {store : Storefront} {event : HomeserverEvent}
      {seen : Option Cursor} (proven : Proven config start id key live labels store seen)
      (latest : store.log.latestEvent key = some event) (deletes : event.kind = .del) :
      Proven config start id key live labels store (some event.cursor)
  | later {labels : List StorefrontAction} {store after : Storefront} {seen : Option Cursor}
      {action : StorefrontAction} (proven : Proven config start id key live labels store seen)
      (stepped : store.step config action = some after)
      (silent : store.writesRecord key action = false) :
      Proven config start id key live (labels ++ [action]) after seen

/-- A batch in reverse order starts at the newest event under its path, so the
first event of the record in it is its latest. -/
theorem latestEventIsDelete_deleted {log : EventLog} {key : RecordKey} {up : Bool}
    {cursor : Cursor} (deleted : latestEventIsDelete log key up = .deleted cursor) :
    ∃ event, log.latestEvent key = some event ∧ event.kind = .del ∧ event.cursor = cursor := by
  simp only [latestEventIsDelete] at deleted
  split at deleted
  · rename_i events answered
    have batch : events = log.backward key.1 (listingRecordPath key.2) confirmWindow := by
      unfold EventLog.answer at answered
      split at answered
      · split at answered
        · cases answered
          rfl
        · cases answered
      · cases answered
    rw [batch] at deleted
    split at deleted
    · rename_i found
      cases deleted
      exact ⟨_, EventLog.backward_latest found, rfl, rfl⟩
    · cases deleted
  · cases deleted
  · cases deleted

/-- What the phase knows: the row as it was read, and the delete that was
confirmed. -/
def SettlePhase.proof : SettlePhase → Option (LiveListing × Option Cursor)
  | .observe => none
  | .fetch observed | .events observed => some (observed, none)
  | .confirmed observed cursor | .locked observed cursor => some (observed, some cursor)

theorem step_settle {action : StorefrontAction} {id : ActivityId}
    {activity : Activity} {key : RecordKey} {settle : SettlePhase} {live : LiveListing}
    {seen : Option Cursor} (stepped : store.step config action = some after)
    (listed : after.activities.find? id = some activity)
    (settles : activity.settle = some (key, settle)) (knows : settle.proof = some (live, seen)) :
    store.activities.find? id = some activity ∨
      ∃ up before earlier, action = .advance id up ∧ store.activities.find? id = some before ∧
        before.settle = some (key, earlier) ∧ SettleStep store key earlier settle := by
  cases step_activity stepped listed with
  | kept found => exact .inl found
  | started begins =>
      cases begins with
      | register valid => cases settles
      | sync valid => cases settles
      | pass job =>
          simp only [Activity.settle, job] at settles
          cases settles
  | halted found stops => rcases stops with rfl | ⟨pass, -, rfl⟩ <;> cases settles
  | @advanced up before middle found taken moved written =>
      rcases advance_settle moved settles with rfl | ⟨earlier, settled, progress⟩
      · cases knows
      · exact .inr ⟨up, before, earlier, taken, found, settled, progress⟩

/-- While the epoch of the row stands where an activity read it, the activity's
knowledge is proven. -/
def Backing (config : FollowerConfig) (start : Storefront) (labels : List StorefrontAction)
    (store : Storefront) : Prop :=
  ∀ id activity key settle live seen, store.activities.find? id = some activity →
    activity.settle = some (key, settle) → settle.proof = some (live, seen) →
    ∃ row, store.rows.find? key = some row ∧ live.recordEpoch ≤ row.recordEpoch ∧
      (row.recordEpoch = live.recordEpoch → Proven config start id key live labels store seen)

theorem observeLive_some {row : Option ListingRow} {live : LiveListing}
    (read : observeLive row = some live) :
    ∃ known, row = some known ∧ known.isLive = true ∧
      live.generation = known.listing.generation ∧ live.recordEpoch = known.recordEpoch := by
  obtain ⟨known, present, kept⟩ := Option.bind_eq_some_iff.mp read
  obtain ⟨alive, same⟩ := Option.ite_none_right_eq_some.mp kept
  cases same
  exact ⟨known, present, alive, rfl, rfl⟩

/-- Knowledge outlives a step: either no record was written, or the epoch has
moved on. -/
theorem Backing.later {labels : List StorefrontAction} {action : StorefrontAction}
    {id : ActivityId} {key : RecordKey} {live : LiveListing} {seen : Option Cursor}
    (known : ∃ row, store.rows.find? key = some row ∧ live.recordEpoch ≤ row.recordEpoch ∧
      (row.recordEpoch = live.recordEpoch → Proven config start id key live labels store seen))
    (stepped : store.step config action = some after) :
    ∃ row, after.rows.find? key = some row ∧ live.recordEpoch ≤ row.recordEpoch ∧
      (row.recordEpoch = live.recordEpoch →
        Proven config start id key live (labels ++ [action]) after seen) := by
  obtain ⟨old, present, behind, proven⟩ := known
  obtain ⟨row, reads, moved⟩ := step_epoch stepped present
  refine ⟨row, reads, ?_, ?_⟩
  · rcases moved with ⟨same, -⟩ | more
    · rw [same]
      exact behind
    · rw [more]
      exact behind.trans (Nat.le_succ _)
  · intro standing
    rcases moved with ⟨same, silent⟩ | more
    · exact .later (proven (same ▸ standing)) stepped silent
    · rw [more] at standing
      omega

theorem Backing.step {labels : List StorefrontAction} {action : StorefrontAction}
    (backing : Backing config start labels store)
    (ran : Runs.run (storefront config) start labels = some store)
    (stepped : store.step config action = some after) :
    Backing config start (labels ++ [action]) after := by
  intro id activity key settle live seen listed settles knows
  have elsewhere : store.activities.find? id = some activity →
      ∃ row, after.rows.find? key = some row ∧ live.recordEpoch ≤ row.recordEpoch ∧
        (row.recordEpoch = live.recordEpoch →
          Proven config start id key live (labels ++ [action]) after seen) := by
    intro found
    exact Backing.later (backing id activity key settle live seen found settles knows) stepped
  rcases step_settle stepped listed settles knows with
    same | ⟨up, before, earlier, rfl, found, settled, progress⟩
  · exact elsewhere same
  cases progress with
  | @read observed _ read later =>
      obtain ⟨rfl, rfl⟩ : observed = live ∧ seen = none := by
        rcases later with rfl | rfl <;> cases knows <;> exact ⟨rfl, rfl⟩
      obtain ⟨old, present, -, -, epoch⟩ := observeLive_some read
      obtain ⟨row, reads, grown⟩ := step_epoch stepped present
      have observes : store.observes id key := by
        rw [Storefront.observes, found]
        exact settled
      refine ⟨row, reads, ?_, fun _ => .observed ran observes read stepped⟩
      rw [epoch]
      rcases grown with ⟨same, -⟩ | more
      · exact same.ge
      · exact more ▸ Nat.le_succ _
  | fetched => exact Backing.later (backing id before key _ live seen found settled knows) stepped
  | confirmed latest =>
      cases knows
      obtain ⟨row, present, behind, proven⟩ := backing id before key _ _ none found settled rfl
      obtain ⟨event, newest, deletes, rfl⟩ := latestEventIsDelete_deleted latest
      refine Backing.later ⟨row, present, behind, ?_⟩ stepped
      intro standing
      exact .confirmed (proven standing) newest deletes
  | locked => exact Backing.later (backing id before key _ live seen found settled knows) stepped

theorem run_backing (init : (storefront config).initial start) (labels : List StorefrontAction) :
    ∀ {store}, Runs.run (storefront config) start labels = some store →
      Backing config start labels store := by
  induction labels using List.reverseRecOn with
  | nil =>
      intro store ran id activity key settle live seen listed
      cases ran
      rw [init.2.2.2.2] at listed
      cases listed
  | append_singleton labels action ih =>
      intro store ran
      rw [Runs.run_append] at ran
      obtain ⟨middle, first, last⟩ := Option.bind_eq_some_iff.mp ran
      obtain ⟨after, stepped, ended⟩ := Option.bind_eq_some_iff.mp last
      cases ended
      exact (ih first).step first stepped

/-! The lease. -/

/-- The fences of the passes: each has its own, and while the lease row carries
the fence of a pass it is the row this pass took, until its deadline at least. -/
structure Fences (store : Storefront) : Prop where
  granted : ∀ id pass, store.activities.find? id = some (.pass pass) →
    ∃ lease, store.lease = some lease ∧ pass.fence ≤ lease.fence ∧
      (lease.fence = pass.fence →
        lease.holder = pass.holder ∧ pass.leaseDeadline ≤ lease.leaseUntil)
  distinct : ∀ id other pass rival, store.activities.find? id = some (.pass pass) →
    store.activities.find? other = some (.pass rival) → pass.fence = rival.fence → id = other
  locked : ∀ id pass, store.activities.find? id = some (.pass pass) → pass.locksLease = true →
    ∃ lease, store.lease = some lease ∧ lease.fence = pass.fence

theorem advancePass_identity {pass next : FollowerPass} {up : Bool}
    (advanced : (store.advancePass pass up).2 = some next) :
    next.holder = pass.holder ∧ next.fence = pass.fence ∧
      next.leaseDeadline = pass.leaseDeadline := by
  unfold Storefront.advancePass at advanced
  split at advanced
  · simp only at advanced
    split at advanced
    · cases advanced
      exact ⟨rfl, rfl, rfl⟩
    · split at advanced <;> cases advanced <;> exact ⟨rfl, rfl, rfl⟩
  · cases advanced
    exact ⟨rfl, rfl, rfl⟩
  · split at advanced <;> cases advanced <;> exact ⟨rfl, rfl, rfl⟩
  · cases advanced
    exact ⟨rfl, rfl, rfl⟩
  · cases advanced
    exact ⟨rfl, rfl, rfl⟩
  · split at advanced <;> cases advanced <;> exact ⟨rfl, rfl, rfl⟩
  · cases advanced
    exact ⟨rfl, rfl, rfl⟩
  · cases advanced
    exact ⟨rfl, rfl, rfl⟩
  · split at advanced
    · cases advanced
      exact ⟨rfl, rfl, rfl⟩
    · split at advanced <;> cases advanced <;> exact ⟨rfl, rfl, rfl⟩
  · cases advanced
    unfold batchJob
    split
    · exact ⟨rfl, rfl, rfl⟩
    · simp only
      split
      · split <;> exact ⟨rfl, rfl, rfl⟩
      · exact ⟨rfl, rfl, rfl⟩
  · cases advanced
    exact ⟨rfl, rfl, rfl⟩
  · cases advanced
    exact ⟨rfl, rfl, rfl⟩
  · split at advanced <;> cases advanced <;> exact ⟨rfl, rfl, rfl⟩
  · cases advanced

theorem settle_locks {pass : FollowerPass} {key : RecordKey} {up : Bool} {settle : SettlePhase}
    {observed : LiveListing} {cursor : Cursor}
    (stepped : (store.settle pass key up settle).2 = .next (.locked observed cursor)) :
    store.holdsLease pass = true := by
  cases settle with
  | confirmed seen named =>
      simp only [Storefront.settle] at stepped
      split at stepped
      · assumption
      · cases stepped
  | observe =>
      have progress := settle_next stepped
      cases progress with
      | read read later => rcases later with never | never <;> cases never
  | fetch observed => cases settle_next stepped
  | events observed => cases settle_next stepped
  | locked observed cursor => cases settle_next stepped

theorem revivalJob_locks {pass : FollowerPass} {key : RecordKey} {due : List RecordKey}
    {settling : SettleProgress} (job : pass.job = revivalJob key due settling)
    (locks : pass.locksLease = true) : ∃ observed cursor,
      settling = .next (.locked observed cursor) := by
  rw [FollowerPass.locksLease, job] at locks
  cases settling with
  | next phase =>
      cases phase with
      | locked observed cursor => exact ⟨observed, cursor, rfl⟩
      | _ => cases locks
  | settled outcome =>
      cases outcome with
      | tombstoned => cases locks
      | notDeleted observed => cases observed <;> cases locks
      | unsettled => cases locks
  | halt => cases locks

theorem settlingJob_locks {pass earlier : FollowerPass} {page : Batch} {listingId : String}
    {cursor : Cursor} {due : DueSellers} {settling : SettleProgress}
    (job : pass.job = settlingJob earlier store page listingId cursor due settling)
    (locks : pass.locksLease = true) : ∃ observed named,
      settling = .next (.locked observed named) := by
  rw [FollowerPass.locksLease, job] at locks
  cases settling with
  | next phase =>
      cases phase with
      | locked observed cursor => exact ⟨observed, cursor, rfl⟩
      | _ => cases locks
  | settled outcome => cases outcome <;> cases locks
  | halt => cases locks

theorem advancePass_locks {pass next : FollowerPass} {up : Bool}
    (advanced : (store.advancePass pass up).2 = some next) (locks : next.locksLease = true) :
    store.holdsLease pass = true := by
  unfold Storefront.advancePass at advanced
  split at advanced
  · simp only at advanced
    split at advanced
    · cases advanced
      cases locks
    · split at advanced <;> cases advanced <;> cases locks
  · cases advanced
    cases locks
  · split at advanced <;> cases advanced <;> cases locks
  · cases advanced
    obtain ⟨observed, cursor, progress⟩ := revivalJob_locks rfl locks
    exact settle_locks progress
  · by_cases held : store.holdsLease pass = true
    · exact held
    · rw [if_neg held] at advanced
      cases advanced
      cases locks
  · split at advanced <;> cases advanced <;> cases locks
  · by_cases early : store.now < pass.leaseDeadline
    · rw [if_pos early] at advanced
      cases advanced
      cases locks
    · rw [if_neg early] at advanced
      cases advanced
      cases locks
  · cases advanced
    cases locks
  · split at advanced
    · cases advanced
      cases locks
    · split at advanced <;> cases advanced <;> cases locks
  · cases advanced
    unfold batchJob at locks
    split at locks
    · cases locks
    · simp only at locks
      split at locks
      · split at locks <;> cases locks
      · cases locks
  · cases advanced
    obtain ⟨observed, cursor, progress⟩ := settlingJob_locks rfl locks
    exact settle_locks progress
  · by_cases held : store.holdsLease pass = true
    · exact held
    · rw [if_neg held] at advanced
      cases advanced
      cases locks
  · split at advanced <;> cases advanced <;> cases locks
  · cases advanced

theorem acquireLease_some {lease : Option Lease} {holder : ℕ} {now : Time} {seconds : ℕ}
    {taken : Lease} (acquired : acquireLease lease holder now seconds = some taken) :
    taken.holder = holder ∧ taken.leaseUntil = now + seconds ∧
      ∀ row ∈ lease, taken.fence = row.fence + 1 := by
  cases lease with
  | none =>
      cases acquired
      refine ⟨rfl, rfl, ?_⟩
      intro row present
      cases present
  | some row =>
      simp only [acquireLease] at acquired
      split at acquired
      · cases acquired
        refine ⟨rfl, rfl, ?_⟩
        rintro _ ⟨⟩
        rfl
      · cases acquired

theorem not_leaseLocked (unlocked : store.leaseLocked = false) {id : ActivityId}
    {pass : FollowerPass} (found : store.activities.find? id = some (.pass pass)) :
    pass.locksLease = false := by
  have none := List.any_eq_false.mp unlocked _ (Keyed.lookup_mem _ _ _ found)
  simpa using none

/-- The fences after a step that leaves the lease row and replaces one activity
by another of the same identity. -/
theorem Fences.kept {id : ActivityId} {middle : Storefront} {next : Activity}
    (fences : Fences store) (lease : middle.lease = store.lease)
    (same : middle.activities = store.activities)
    (identity : ∀ later, next = .pass later → ∃ pass,
      store.activities.find? id = some (.pass pass) ∧ later.holder = pass.holder ∧
        later.fence = pass.fence ∧ later.leaseDeadline = pass.leaseDeadline ∧
        (later.locksLease = true →
          ∃ lease, store.lease = some lease ∧ lease.fence = pass.fence)) :
    Fences (middle.setActivity id next) := by
  -- every pass after the step was one before it, under the same id
  have traced : ∀ other pass,
      (middle.setActivity id next).activities.find? other = some (.pass pass) →
      ∃ before, store.activities.find? other = some (.pass before) ∧
        pass.holder = before.holder ∧ pass.fence = before.fence ∧
        pass.leaseDeadline = before.leaseDeadline ∧
        (pass.locksLease = true → ∃ lease, store.lease = some lease ∧
          lease.fence = before.fence) := by
    intro other pass listed
    rw [Storefront.setActivity, Keyed.Table.find?_set, same] at listed
    by_cases here : other = id
    · rw [if_pos here] at listed
      rw [here]
      exact identity pass (Option.some.inj listed)
    · rw [if_neg here] at listed
      refine ⟨pass, listed, rfl, rfl, rfl, ?_⟩
      exact fences.locked other pass listed
  constructor
  · intro other pass listed
    obtain ⟨before, found, holder, fence, deadline, -⟩ := traced other pass listed
    rw [holder, fence, deadline]
    change ∃ row, middle.lease = some row ∧ _
    rw [lease]
    exact fences.granted other before found
  · intro first second pass rival listed present equal
    obtain ⟨before, found, -, fence, -⟩ := traced first pass listed
    obtain ⟨earlier, known, -, other, -⟩ := traced second rival present
    exact fences.distinct first second before earlier found known (fence ▸ other ▸ equal)
  · intro other pass listed locks
    obtain ⟨before, found, -, fence, -, held⟩ := traced other pass listed
    rw [fence]
    change ∃ row, middle.lease = some row ∧ _
    rw [lease]
    exact held locks

theorem Fences.acquired {id : ActivityId} {pass : FollowerPass} {lease : Lease} {leaseNow : Time}
    (fences : Fences store) (fresh : store.activities.find? id = none)
    (job : pass.job = .acquired) (unlocked : store.leaseLocked = false)
    (order : pass.started ≤ leaseNow)
    (deadline : pass.leaseDeadline = pass.started + config.leaseSeconds)
    (fence : lease.fence = pass.fence)
    (taken : acquireLease store.lease pass.holder leaseNow config.leaseSeconds = some lease) :
    Fences ({ store with lease := some lease }.setActivity id (.pass pass)) := by
  obtain ⟨holder, until_, above⟩ := acquireLease_some taken
  have older : ∀ other rival, store.activities.find? other = some (.pass rival) →
      rival.fence < lease.fence := by
    intro other rival found
    obtain ⟨row, present, behind, -⟩ := fences.granted other rival found
    have more := above row present
    omega
  have traced : ∀ other rival,
      ({ store with lease := some lease }.setActivity id (.pass pass)).activities.find? other =
        some (.pass rival) →
      other = id ∧ rival = pass ∨
        other ≠ id ∧ store.activities.find? other = some (.pass rival) := by
    intro other rival listed
    rw [Storefront.setActivity, Keyed.Table.find?_set] at listed
    by_cases here : other = id
    · rw [if_pos here] at listed
      cases listed
      exact .inl ⟨here, rfl⟩
    · rw [if_neg here] at listed
      exact .inr ⟨here, listed⟩
  constructor
  · intro other rival listed
    refine ⟨lease, rfl, ?_⟩
    rcases traced other rival listed with ⟨rfl, rfl⟩ | ⟨-, found⟩
    · refine ⟨fence.ge, fun _ => ⟨holder, ?_⟩⟩
      rw [deadline, until_]
      exact Nat.add_le_add_right order _
    · have below := older other rival found
      exact ⟨below.le, fun equal => absurd equal below.ne'⟩
  · intro first second left right listed present equal
    rcases traced first left listed with ⟨rfl, rfl⟩ | ⟨-, found⟩
    · rcases traced second right present with ⟨rfl, -⟩ | ⟨-, known⟩
      · rfl
      · have below := older second right known
        omega
    · rcases traced second right present with ⟨rfl, rfl⟩ | ⟨-, known⟩
      · have below := older first left found
        omega
      · exact fences.distinct first second left right found known equal
  · intro other rival listed locks
    rcases traced other rival listed with ⟨rfl, rfl⟩ | ⟨-, found⟩
    · rw [FollowerPass.locksLease, job] at locks
      cases locks
    · rw [not_leaseLocked unlocked found] at locks
      cases locks

theorem Fences.released {id : ActivityId} {pass : FollowerPass} (fences : Fences store)
    (found : store.activities.find? id = some (.pass pass)) :
    Fences ((store.releaseLease pass).setActivity id .ended) := by
  have traced : ∀ other rival,
      ((store.releaseLease pass).setActivity id .ended).activities.find? other =
        some (.pass rival) → other ≠ id ∧ store.activities.find? other = some (.pass rival) := by
    intro other rival listed
    rw [Storefront.setActivity, Keyed.Table.find?_set] at listed
    by_cases here : other = id
    · rw [if_pos here] at listed
      cases listed
    · rw [if_neg here] at listed
      exact ⟨here, listed⟩
  have apart : ∀ other rival, other ≠ id → store.activities.find? other = some (.pass rival) →
      rival.fence ≠ pass.fence := by
    intro other rival elsewhere present equal
    exact elsewhere (fences.distinct other id rival pass present found equal)
  have row : ∀ lease, store.lease = some lease → ∃ released,
      (store.releaseLease pass).lease = some released ∧ released.fence = lease.fence ∧
        (lease.fence ≠ pass.fence → released = lease) := by
    intro lease present
    simp only [Storefront.releaseLease, present, Option.map_some]
    split
    · rename_i own
      exact ⟨_, rfl, rfl, fun other => absurd own.2.1 other⟩
    · exact ⟨_, rfl, rfl, fun _ => rfl⟩
  constructor
  · intro other rival listed
    obtain ⟨elsewhere, present⟩ := traced other rival listed
    obtain ⟨lease, kept, behind, own⟩ := fences.granted other rival present
    obtain ⟨released, reads, fence, unchanged⟩ := row lease kept
    refine ⟨released, reads, fence ▸ behind, ?_⟩
    intro equal
    have distinct := apart other rival elsewhere present
    rw [fence] at equal
    rw [unchanged (equal ▸ distinct)]
    exact own equal
  · intro first second left right listed present equal
    exact fences.distinct first second left right (traced first left listed).2
      (traced second right present).2 equal
  · intro other rival listed locks
    obtain ⟨elsewhere, present⟩ := traced other rival listed
    obtain ⟨lease, kept, equal⟩ := fences.locked other rival present locks
    obtain ⟨released, reads, fence, -⟩ := row lease kept
    exact ⟨released, reads, fence.trans equal⟩

theorem Fences.step {action : StorefrontAction} (fences : Fences store)
    (stepped : store.step config action = some after) : Fences after := by
  cases step_inverts stepped with
  | ticked later => exact ⟨fences.granted, fences.distinct, fences.locked⟩
  | published written => exact ⟨fences.granted, fences.distinct, fences.locked⟩
  | traded => exact ⟨fences.granted, fences.distinct, fences.locked⟩
  | started fresh begins =>
      cases begins with
      | register valid =>
          refine fences.kept rfl rfl ?_
          intro later same
          cases same
      | sync valid =>
          refine fences.kept rfl rfl ?_
          intro later same
          cases same
      | pass job unlocked order deadline fence taken =>
          exact fences.acquired fresh job unlocked order deadline fence taken
  | halted found stops =>
      refine fences.kept rfl rfl ?_
      intro later same
      rcases stops with rfl | ⟨pass, rfl, rfl⟩
      · cases same
      · cases same
        refine ⟨pass, found, rfl, rfl, rfl, ?_⟩
        intro locks
        cases locks
  | advanced found moved =>
      have frame := advance_frame moved
      cases advance_tables moved with
      | command commands ends rows =>
          refine fences.kept ?_ frame.2.2 ?_
          · rw [rows]
          · intro later same
            exact absurd same (ends later)
      | @passed pass next advanced =>
          obtain ⟨holder, fence, deadline⟩ := advancePass_identity advanced
          refine fences.kept ?_ frame.2.2 ?_
          · have writes := advancePass_writes store pass ‹Bool›
            rw [advanced] at writes
            generalize (store.advancePass pass _).1 = written at writes ⊢
            cases writes <;> rfl
          · intro later same
            cases same
            refine ⟨pass, found, holder, fence, deadline, ?_⟩
            intro locks
            have held := advancePass_locks advanced locks
            simp only [Storefront.holdsLease, Bool.and_eq_true, Option.any_eq_true,
              beq_iff_eq] at held
            obtain ⟨-, lease, present, ⟨-, equal⟩, -⟩ := held
            exact ⟨lease, present, equal⟩
      | @finished pass advanced =>
          have writes := advancePass_writes store pass ‹Bool›
          rw [advanced] at writes
          generalize (store.advancePass pass _).1 = written at writes ⊢
          cases writes with
          | release job => exact fences.released found

theorem reachable_fences
    (reached : Runs.Reachable (storefront config) Runs.anyStep store) : Fences store := by
  refine Runs.invariant (storefront config) Runs.anyStep Fences ?_ ?_ reached
  · intro first begins
    have none : ∀ id, first.activities.find? id = none := by
      intro id
      rw [begins.2.2.2.2]
      rfl
    constructor
    · intro id pass found
      rw [none] at found
      cases found
    · intro id other pass rival found
      rw [none] at found
      cases found
    · intro id pass found
      rw [none] at found
      cases found
  · intro before action later fences _ stepped
    exact fences.step stepped

/-! The delete a revival superseded. -/

/-- The row was tombstoned by this delete or a later one, now or before its
last revival. -/
def ListingRow.superseded (row : ListingRow) (cursor : Cursor) : Prop :=
  ∃ later, cursor ≤ later ∧
    (row.deletedEventCursor = some later ∨ row.revivedFromCursor = some later)

theorem step_superseded {action : StorefrontAction} {key : RecordKey} {old : ListingRow}
    {cursor : Cursor} (stepped : store.step config action = some after)
    (present : store.rows.find? key = some old) (superseded : old.superseded cursor) :
    ∃ row, after.rows.find? key = some row ∧ row.superseded cursor := by
  generalize reads : after.rows.find? key = result
  have moves := step_rows stepped key
  rw [reads] at moves
  cases moves with
  | kept => exact ⟨old, present, superseded⟩
  | @traded before row same untouched others =>
      obtain rfl : before = old := Option.some.inj (same.symm.trans present)
      obtain ⟨later, above, named⟩ := superseded
      refine ⟨row, rfl, later, above, ?_⟩
      rw [others.2.1, others.2.2]
      exact named
  | @recorded id up activity row taken found written =>
      have recorded := recordWrite_step written
      refine ⟨row, rfl, ?_⟩
      obtain ⟨later, above, named⟩ := superseded
      cases alive : old.isLive with
      | true =>
          rw [ListingRow.live_evidence alive] at named
          rcases named with never | named
          · cases never
          · exact ⟨later, above, .inr ((recorded.kept old present alive).2.trans named)⟩
      | false =>
          obtain ⟨-, marker, marked, deleted, revived, -⟩ := recorded.revived old present alive
          refine ⟨marker, ?_, .inr marked⟩
          rcases named with named | named
          · exact above.trans (deleted later named)
          · exact above.trans (revived later named)
  | @buried id up activity authority settle observed named row taken found settles proof buries =>
      obtain ⟨before, same, alive, -, ahead, -, marker, -⟩ := buries.before
      obtain rfl : before = old := Option.some.inj (same.symm.trans present)
      obtain ⟨later, above, evidence⟩ := superseded
      rw [ListingRow.live_evidence alive] at evidence
      rcases evidence with never | evidence
      · cases never
      · exact ⟨row, rfl, later, above, .inr (marker.trans evidence)⟩

theorem run_superseded {key : RecordKey} {cursor : Cursor} (labels : List StorefrontAction) :
    ∀ {moment : Storefront} {old : ListingRow},
      Runs.run (storefront config) moment labels = some store →
      moment.rows.find? key = some old → old.superseded cursor →
      ∃ row, store.rows.find? key = some row ∧ row.superseded cursor := by
  induction labels with
  | nil =>
      intro moment old ran present superseded
      cases ran
      exact ⟨old, present, superseded⟩
  | cons action rest ih =>
      intro moment old ran present superseded
      obtain ⟨middle, stepped, continued⟩ := Option.bind_eq_some_iff.mp ran
      obtain ⟨row, reads, still⟩ := step_superseded stepped present superseded
      exact ih continued reads still

/-! The cursor of a seller. -/

def Storefront.eventCursor (store : Storefront) (seller : Pubky) : Option Cursor :=
  (store.cursors.find? seller).bind DeletionCursor.eventCursor

theorem recordPoll_eventCursor (store : Storefront) (seller other : Pubky)
    (cursor : Option Cursor) (polledAt : Time) :
    (store.recordPoll seller cursor polledAt).eventCursor other =
      if other = seller ∧ markerBehind (store.eventCursor seller) cursor = true then cursor
      else store.eventCursor other := by
  simp only [Storefront.recordPoll, Storefront.eventCursor, Keyed.Table.find?_set]
  by_cases here : other = seller
  · subst here
    simp only [if_true, Option.bind_some, true_and]
  · simp only [here, if_false, false_and]

theorem advancePass_eventCursor (store : Storefront) (pass : FollowerPass) (up : Bool)
    (seller : Pubky) :
    (store.advancePass pass up).1.eventCursor seller = store.eventCursor seller ∨
      ∃ cursor polledAt due, pass.job = .poll seller cursor polledAt true due ∧
        markerBehind (store.eventCursor seller) cursor = true ∧
        (store.advancePass pass up).1.eventCursor seller = cursor := by
  have writes := advancePass_writes store pass up
  generalize (store.advancePass pass up).1 = written at writes ⊢
  generalize (store.advancePass pass up).2 = next at writes
  cases writes with
  | nothing => exact .inl rfl
  | row => exact .inl rfl
  | attempt job => exact .inl rfl
  | @poll polled cursor polledAt due job =>
      rw [recordPoll_eventCursor]
      split
      · rename_i forward
        obtain ⟨rfl, behind⟩ := forward
        exact .inr ⟨cursor, polledAt, due, job, behind, rfl⟩
      · exact .inl rfl
  | release job => exact .inl rfl

theorem step_eventCursor {action : StorefrontAction}
    (stepped : store.step config action = some after) (seller : Pubky) :
    after.eventCursor seller = store.eventCursor seller ∨
      ∃ id pass cursor polledAt due, store.activities.find? id = some (.pass pass) ∧
        pass.job = .poll seller cursor polledAt true due ∧
        markerBehind (store.eventCursor seller) cursor = true ∧
        after.eventCursor seller = cursor := by
  cases step_inverts stepped with
  | ticked later => exact .inl rfl
  | published written => exact .inl rfl
  | traded => exact .inl rfl
  | started fresh begins => cases begins <;> exact .inl rfl
  | halted found stops => exact .inl rfl
  | @advanced id up activity next middle found moved =>
      cases advance_tables moved with
      | command commands ends rows =>
          left
          rw [rows]
          rfl
      | @passed pass _ advanced =>
          rcases advancePass_eventCursor store pass up seller with
            same | ⟨cursor, polledAt, due, job, behind, moved⟩
          · exact .inl same
          · exact .inr ⟨id, pass, cursor, polledAt, due, found, job, behind, moved⟩
      | @finished pass advanced =>
          rcases advancePass_eventCursor store pass up seller with
            same | ⟨cursor, polledAt, due, job, behind, moved⟩
          · exact .inl same
          · exact .inr ⟨id, pass, cursor, polledAt, due, found, job, behind, moved⟩

theorem step_cursor_forward {action : StorefrontAction}
    (stepped : store.step config action = some after) {seller : Pubky} {cursor : Cursor}
    (stored : store.eventCursor seller = some cursor) :
    ∃ later, after.eventCursor seller = some later ∧ cursor ≤ later := by
  rcases step_eventCursor stepped seller with
    same | ⟨-, -, polled, -, -, -, -, behind, moved⟩
  · exact ⟨cursor, same.trans stored, le_rfl⟩
  · rw [stored] at behind
    cases polled with
    | none => cases behind
    | some later =>
        refine ⟨later, moved, ?_⟩
        simp only [markerBehind, Option.any_some, Option.all_some, decide_eq_true_eq] at behind
        exact behind.le

theorem step_settling_lease {id : ActivityId} {up : Bool} {activity : Activity}
    {settled : RecordKey × SettlePhase}
    (stepped : store.step config (.advance id up) = some after)
    (found : store.activities.find? id = some activity)
    (settles : activity.settle = some settled) :
    after.now = store.now ∧ after.lease = store.lease := by
  obtain ⟨same, listed, moved⟩ := Option.bind_eq_some_iff.mp stepped
  obtain rfl : activity = same := Option.some.inj (found.symm.trans listed)
  obtain ⟨⟨middle, next⟩, advanced, rfl⟩ := Option.map_eq_some_iff.mp moved
  refine ⟨(advance_frame advanced).1, ?_⟩
  change middle.lease = store.lease
  cases advance_tables advanced with
  | command commands ends rows => rw [rows]
  | @passed pass _ progressed =>
      have writes := advancePass_writes store pass up
      generalize (store.advancePass pass up).1 = written at writes ⊢
      generalize (store.advancePass pass up).2 = next at writes
      cases writes with
      | release job =>
          rw [Activity.settle, job] at settles
          cases settles
      | _ => rfl
  | @finished pass progressed =>
      have writes := advancePass_writes store pass up
      rw [progressed] at writes
      generalize (store.advancePass pass up).1 = written at writes ⊢
      cases writes with
      | release job =>
          rw [Activity.settle, job] at settles
          cases settles

/-! The law. -/

/-- The run read the listing's row live in the name of this activity; the named
delete was the record's latest event at a moment after that read; and no step
since the read committed a record-derived write to the listing. -/
def Fenced (config : FollowerConfig) (start : Storefront) (labels : List StorefrontAction)
    (id : ActivityId) (key : RecordKey) (cursor : Cursor) : Prop :=
  ∃ before up between observed live, labels = before ++ .advance id up :: between ∧
    Runs.run (storefront config) start before = some observed ∧ observed.observes id key ∧
    observeLive (observed.rows.find? key) = some live ∧
    (∃ passed left moment event, between = passed ++ left ∧
      Runs.run (storefront config) observed (.advance id up :: passed) = some moment ∧
      moment.log.latestEvent key = some event ∧ event.kind = .del ∧ event.cursor = cursor) ∧
    ∀ passed action left moment, between = passed ++ action :: left →
      Runs.run (storefront config) observed (.advance id up :: passed) = some moment →
      moment.writesRecord key action = false

theorem Proven.fenced {id : ActivityId} {key : RecordKey} {live : LiveListing}
    {labels : List StorefrontAction} {seen : Option Cursor}
    (proven : Proven config start id key live labels store seen) :
    ∃ before up between observed, labels = before ++ .advance id up :: between ∧
      Runs.run (storefront config) start before = some observed ∧ observed.observes id key ∧
      observeLive (observed.rows.find? key) = some live ∧
      Runs.run (storefront config) observed (.advance id up :: between) = some store ∧
      (∀ cursor ∈ seen, ∃ passed left moment event, between = passed ++ left ∧
        Runs.run (storefront config) observed (.advance id up :: passed) = some moment ∧
        moment.log.latestEvent key = some event ∧ event.kind = .del ∧ event.cursor = cursor) ∧
      ∀ passed action left moment, between = passed ++ action :: left →
        Runs.run (storefront config) observed (.advance id up :: passed) = some moment →
        moment.writesRecord key action = false := by
  induction proven with
  | @observed before up observed after ran observes read stepped =>
      refine ⟨before, up, [], observed, rfl, ran, observes, read, ?_, ?_, ?_⟩
      · exact @Runs.run_concat _ _ _ _ _ _ [] _ rfl stepped
      · intro cursor never
        cases never
      · intro passed action left moment none
        cases passed <;> cases none
  | @confirmed labels store event seen proven latest deletes ih =>
      obtain ⟨before, up, between, observed, split, ran, observes, read, reached, -, silent⟩ := ih
      refine ⟨before, up, between, observed, split, ran, observes, read, reached, ?_, silent⟩
      rintro _ ⟨⟩
      exact ⟨between, [], store, event, (List.append_nil _).symm, reached, latest, deletes, rfl⟩
  | @later labels store after seen action proven stepped quiet ih =>
      obtain ⟨before, up, between, observed, split, ran, observes, read, reached, confirmed,
        silent⟩ := ih
      have further : Runs.run (storefront config) observed
          (.advance id up :: (between ++ [action])) = some after :=
        Runs.run_concat reached stepped
      refine ⟨before, up, between ++ [action], observed, ?_, ran, observes, read, further, ?_, ?_⟩
      · rw [split, List.append_assoc]
        rfl
      · intro cursor known
        obtain ⟨passed, left, moment, event, parts, visited, latest⟩ := confirmed cursor known
        refine ⟨passed, left ++ [action], moment, event, ?_, visited, latest⟩
        rw [parts, List.append_assoc]
      · intro passed other left moment parts visited
        rcases List.eq_nil_or_concat left with rfl | ⟨rest, last, rfl⟩
        · obtain ⟨rfl, same⟩ := List.append_inj' parts rfl
          cases same
          obtain rfl : moment = store := Option.some.inj (visited.symm.trans reached)
          exact quiet
        · rw [List.concat_eq_append, ← List.cons_append, ← List.append_assoc] at parts
          exact silent passed other rest moment (List.append_inj_left' parts rfl) visited

/-- A tombstone is written by an activity whose proof is fenced; a follower
writes it under its own lease, unexpired; no delete that the listing was ever
tombstoned by is newer; and no step moves the cursor of a seller backward. -/
theorem tombstones_are_fenced (config : FollowerConfig) (start store after : Storefront)
    (labels : List StorefrontAction) (action : StorefrontAction)
    (init : (storefront config).initial start)
    (ran : Runs.run (storefront config) start labels = some store)
    (stepped : store.step config action = some after) :
    (∀ key row deleted cursor, store.rows.find? key = some row → row.isLive = true →
      after.rows.find? key = some deleted → deleted.deletedEventCursor = some cursor →
      ∃ id up, action = .advance id up ∧ Fenced config start labels id key cursor ∧
        (∀ pass, store.activities.find? id = some (.pass pass) →
          ∃ lease, after.lease = some lease ∧ lease.holder = pass.holder ∧
            lease.fence = pass.fence ∧ after.now < lease.leaseUntil) ∧
        ∀ passed left moment dead superseded, labels = passed ++ left →
          Runs.run (storefront config) start passed = some moment →
          moment.rows.find? key = some dead → dead.deletedEventCursor = some superseded →
          superseded ≤ cursor) ∧
    ∀ seller cursor, store.eventCursor seller = some cursor →
      ∃ later, after.eventCursor seller = some later ∧ cursor ≤ later := by
  refine ⟨?_, fun seller cursor stored => step_cursor_forward stepped stored⟩
  intro key row deleted cursor present alive reads evidence
  have moves := step_rows stepped key
  rw [reads] at moves
  generalize result : (some deleted : Option ListingRow) = written at moves
  cases moves with
  | kept =>
      rw [present] at result
      cases result
      rw [ListingRow.live_evidence alive] at evidence
      cases evidence
  | @traded old _ same untouched others =>
      cases result
      obtain rfl : old = row := Option.some.inj (same.symm.trans present)
      rw [others.2.1, ListingRow.live_evidence alive] at evidence
      cases evidence
  | recorded taken found written =>
      cases result
      rw [ListingRow.live_evidence (recordWrite_step written).live] at evidence
      cases evidence
  | @buried id up activity authority settle observed named _ taken found settles proof buries =>
      cases result
      obtain rfl : named = cursor := Option.some.inj (buries.evidence.symm.trans evidence)
      obtain ⟨old, same, -, epoch, ahead, -⟩ := buries.before
      obtain rfl : old = row := Option.some.inj (same.symm.trans present)
      have knows : settle.proof = some (observed, some named) := by
        rcases proof with ⟨rfl, -⟩ | ⟨rfl, -⟩ <;> rfl
      refine ⟨id, up, taken, ?_, ?_, ?_⟩
      -- The proof that the settling write holds was gathered earlier in the run: follow it back
      -- to the read of the event.
      · obtain ⟨known, kept, -, proven⟩ :=
          run_backing init labels ran id activity key settle observed (some named) found settles
            knows
        obtain rfl : known = old := Option.some.inj (kept.symm.trans present)
        obtain ⟨before, first, between, moment, split, reached, observes, read, -, confirmed,
          silent⟩ := (proven epoch).fenced
        exact ⟨before, first, between, moment, observed, split, reached, observes, read,
          confirmed named rfl, silent⟩
      · intro pass listed
        obtain rfl : activity = .pass pass := Option.some.inj (found.symm.trans listed)
        subst taken
        obtain ⟨clock, unmoved⟩ := step_settling_lease stepped found settles
        rcases proof with ⟨-, -, synced, phase, never⟩ | ⟨-, own, identical, rfl, early⟩
        · cases never
        cases identical
        have authorized := buries.authorized
        simp only [FollowerPass.authority, DeletionAuthority.holds, Option.any_eq_true,
          Bool.and_eq_true, beq_iff_eq] at authorized
        obtain ⟨lease, held, holder, fence⟩ := authorized
        -- The pass writes under the lease it was granted, and the write is early within it.
        obtain ⟨granted, same, -, deadline⟩ :=
          (reachable_fences (Runs.reachable_of_meets (.start init)
            (Runs.meets_anyStep _ labels start) ran)).granted id pass listed
        obtain rfl : granted = lease := Option.some.inj (same.symm.trans held)
        refine ⟨granted, unmoved.trans held, holder, fence, ?_⟩
        rw [clock]
        exact early.trans_le (deadline fence).2
      · intro passed left moment dead superseded split reached known tombstoned
        rw [split, Runs.run_append, reached] at ran
        obtain ⟨kept, still, later, above, marked⟩ :=
          run_superseded left ran known ⟨superseded, le_rfl, .inl tombstoned⟩
        obtain rfl : kept = old := Option.some.inj (still.symm.trans present)
        rw [ListingRow.live_evidence alive] at marked
        rcases marked with never | marked
        · cases never
        · exact above.trans (ahead later marked)

/-! A lamp that its seller deletes and the follower tombstones. -/

def closedStorefront : Storefront :=
  { now := 0, log := .empty, rows := .empty, lease := none, cursors := .empty, checks := .empty
    activities := .empty }

def lampListing : PublicListing :=
  { terms :=
      { sellerPubky := "alice", listingRevision := 1, quantity := 5, unitPriceAmountMinor := 100
        unitPriceCurrency := "USD", unitPriceExponent := 2, shippingMinor := 0
        saleFormat := .fixedPrice, auctionStarted := false, fulfillmentMethods := [.shipping] }
    title := "Lamp"
    contentHash := "h1"
    digitalLock := none }

def lampPut (cursor : Cursor) : HomeserverEvent :=
  { kind := .put { derives := some lampListing, publishesPhysicalFulfillment := true }
    user := "alice"
    path := listingRecordPath "lamp"
    cursor := cursor }

def lampDel (cursor : Cursor) : HomeserverEvent :=
  { kind := .del, user := "alice", path := listingRecordPath "lamp", cursor := cursor }

def lampFollower : FollowerConfig := { leaseSeconds := 30, passBudget := 10 }

/-- Up to the commit of the tombstone, by the pass 2. -/
def deletedLamp : List StorefrontAction :=
  [.publish (lampPut 1), .sync 1 ("alice", "lamp"), .advance 1 true, .advance 1 true,
    .publish (lampDel 2), .acquire 2 9 0 0] ++ List.replicate 10 (.advance 2 true)

def Activity.follows (holder : ℕ) : Activity → Bool
  | .pass follower => follower.holder == holder
  | _ => false

theorem deleted_lamp_is_fenced :
    ∃ store after deleted lease,
      Runs.run (storefront lampFollower) closedStorefront deletedLamp = some store ∧
      store.step lampFollower (.advance 2 true) = some after ∧
      after.rows.find? ("alice", "lamp") = some deleted ∧ deleted.deletedEventCursor = some 2 ∧
      Fenced lampFollower closedStorefront deletedLamp 2 ("alice", "lamp") 2 ∧
      after.lease = some lease ∧ lease.holder = 9 ∧ after.now < lease.leaseUntil := by
  have runs : ∃ store ∈ Runs.run (storefront lampFollower) closedStorefront deletedLamp,
      (store.activities.find? 2).any (Activity.follows 9) = true ∧
      ∃ after ∈ store.step lampFollower (.advance 2 true),
        ∃ row ∈ store.rows.find? ("alice", "lamp"), row.isLive = true ∧
          ∃ deleted ∈ after.rows.find? ("alice", "lamp"),
            deleted.deletedEventCursor = some 2 := by
    decide +kernel
  obtain ⟨store, ran, follows, after, stepped, row, present, alive, deleted, reads, evidence⟩ :=
    runs
  obtain ⟨law, -⟩ := tombstones_are_fenced lampFollower closedStorefront store after deletedLamp
    (.advance 2 true) ⟨rfl, rfl, rfl, rfl, rfl⟩ ran stepped
  obtain ⟨_, _, taken, fenced, held, -⟩ :=
    law ("alice", "lamp") row deleted 2 present alive reads evidence
  cases taken
  rw [Option.any_eq_true] at follows
  obtain ⟨activity, listed, holds⟩ := follows
  cases activity with
  | pass pass =>
      obtain ⟨lease, named, holder, -, unexpired⟩ := held pass listed
      exact ⟨store, after, deleted, lease, ran, stepped, reads, evidence, fenced, named,
        holder.trans (beq_iff_eq.mp holds), unexpired⟩
  | _ => cases holds

end MarketplaceService
