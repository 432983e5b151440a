import MarketplaceService.ListingRows

/-!
What a step of the storefront can do, table by table: to a listing row, to the
lease, and to the proof of a deletion that an activity carries.
-/

namespace MarketplaceService

variable {store after : Storefront} {pass : FollowerPass} {up : Bool}

/-! The proof an activity carries. -/

def Job.settle : Job → Option (RecordKey × SettlePhase)
  | .revival key settle _ => some (key, settle)
  | .settling page listingId _ settle _ => some ((page.seller, listingId), settle)
  | _ => none

def Activity.settle : Activity → Option (RecordKey × SettlePhase)
  | .sync key .observe => some (key, .observe)
  | .sync key (.events observed) => some (key, .events observed)
  | .sync key (.confirmed observed cursor) => some (key, .confirmed observed cursor)
  | .pass pass => pass.job.settle
  | _ => none

/-- A step towards the proof: the row is read, then the record, then the event
stream, then the lease. -/
inductive SettleStep (store : Storefront) (key : RecordKey) : SettlePhase → SettlePhase → Prop
  | read {observed : LiveListing} {next : SettlePhase}
      (live : observeLive (store.rows.find? key) = some observed)
      (later : next = .fetch observed ∨ next = .events observed) :
      SettleStep store key .observe next
  | fetched {observed : LiveListing} : SettleStep store key (.fetch observed) (.events observed)
  | confirmed {observed : LiveListing} {cursor : Cursor} {up : Bool}
      (latest : latestEventIsDelete store.log key up = .deleted cursor) :
      SettleStep store key (.events observed) (.confirmed observed cursor)
  | locked {observed : LiveListing} {cursor : Cursor} :
      SettleStep store key (.confirmed observed cursor) (.locked observed cursor)

theorem settle_next {key : RecordKey} {settle next : SettlePhase}
    (stepped : (store.settle pass key up settle).2 = .next next) :
    SettleStep store key settle next := by
  cases settle with
  | observe =>
      simp only [Storefront.settle] at stepped
      split at stepped
      · split at stepped
        · rename_i observed live
          cases stepped
          exact .read live (.inl rfl)
        · cases stepped
      · cases stepped
  | fetch observed =>
      simp only [Storefront.settle] at stepped
      split at stepped
      · cases stepped
        exact .fetched
      · cases stepped
      · cases stepped
  | events observed =>
      simp only [Storefront.settle] at stepped
      split at stepped
      · rename_i cursor latest
        cases stepped
        exact .confirmed latest
      · cases stepped
      · cases stepped
  | confirmed observed cursor =>
      simp only [Storefront.settle] at stepped
      split at stepped
      · cases stepped
        exact .locked
      · cases stepped
  | locked observed cursor =>
      simp only [Storefront.settle] at stepped
      split at stepped
      · split at stepped
        · cases stepped
        · split at stepped
          · split at stepped <;> cases stepped
          · cases stepped
        · cases stepped
      · cases stepped

theorem revivalJob_settle {key other : RecordKey} {due : List RecordKey} {settling : SettleProgress}
    {settle : SettlePhase} (moved : (revivalJob key due settling).settle = some (other, settle)) :
    other = key ∧ settling = .next settle := by
  cases settling with
  | next next =>
      cases moved
      exact ⟨rfl, rfl⟩
  | settled outcome =>
      cases outcome with
      | tombstoned => cases moved
      | notDeleted observed => cases observed <;> cases moved
      | unsettled => cases moved
  | halt => cases moved

theorem settlingJob_settle {batch : Batch} {listingId : String} {cursor : Cursor}
    {due : DueSellers} {settling : SettleProgress} {other : RecordKey} {settle : SettlePhase}
    (moved : (settlingJob pass store batch listingId cursor due settling).settle =
      some (other, settle)) :
    other = (batch.seller, listingId) ∧ settling = .next settle := by
  cases settling with
  | next next =>
      cases moved
      exact ⟨rfl, rfl⟩
  | settled outcome => cases outcome <;> cases moved
  | halt => cases moved

theorem batchJob_settle {batch : Batch} {due : DueSellers} {key : RecordKey} {settle : SettlePhase}
    (moved : (batchJob pass store batch due).job.settle = some (key, settle)) :
    settle = .observe := by
  unfold batchJob at moved
  split at moved
  · cases moved
  · simp only at moved
    split at moved
    · split at moved
      · cases moved
      · cases moved
        rfl
    · cases moved

theorem advancePass_settle {next : FollowerPass} {key : RecordKey} {settle : SettlePhase}
    (advanced : (store.advancePass pass up).2 = some next)
    (moved : next.job.settle = some (key, settle)) :
    settle = .observe ∨
      ∃ before, pass.job.settle = some (key, before) ∧ SettleStep store key before settle := by
  unfold Storefront.advancePass at advanced
  split at advanced
  all_goals rename_i job
  · simp only at advanced
    split at advanced
    · cases advanced
      cases moved
    · split at advanced <;> cases advanced <;> cases moved
  · cases advanced
    cases moved
  · split at advanced
    · cases advanced
      cases moved
    · cases advanced
      cases moved
      exact .inl rfl
  · cases advanced
    obtain ⟨rfl, stepped⟩ := revivalJob_settle moved
    rw [job]
    exact .inr ⟨_, rfl, settle_next stepped⟩
  · cases advanced
    simp only at moved
    split at moved <;> cases moved
  · split at advanced <;> cases advanced <;> cases moved
  · cases advanced
    simp only at moved
    split at moved <;> cases moved
  · cases advanced
    cases moved
  · split at advanced
    · cases advanced
      cases moved
    · split at advanced <;> cases advanced <;> cases moved
  · cases advanced
    exact .inl (batchJob_settle moved)
  · cases advanced
    obtain ⟨rfl, stepped⟩ := settlingJob_settle moved
    rw [job]
    exact .inr ⟨_, rfl, settle_next stepped⟩
  · cases advanced
    simp only at moved
    split at moved <;> cases moved
  · split at advanced <;> cases advanced <;> cases moved
  · cases advanced

theorem advance_settle {activity next : Activity} {key : RecordKey} {settle : SettlePhase}
    (advanced : store.advance up activity = some (after, next))
    (moved : next.settle = some (key, settle)) :
    settle = .observe ∨
      ∃ before, activity.settle = some (key, before) ∧ SettleStep store key before settle := by
  cases activity with
  | register sender listingId payload phase =>
      cases phase with
      | request =>
          cases advanced
          cases moved
      | prefetch =>
          cases advanced
          cases moved
      | commit prefetched =>
          cases advanced
          cases moved
  | sync synced phase =>
      simp only [Storefront.advance] at advanced
      cases phase with
      | fetch =>
          simp only at advanced
          split at advanced
          · cases advanced
            cases moved
          · cases advanced
            cases moved
            exact .inl rfl
          · cases advanced
            cases moved
      | apply record =>
          cases advanced
          cases moved
      | observe =>
          simp only at advanced
          split at advanced
          · rename_i observed live
            cases advanced
            cases moved
            exact .inr ⟨_, rfl, .read live (.inr rfl)⟩
          · cases advanced
            cases moved
      | events observed =>
          simp only at advanced
          split at advanced
          · rename_i cursor latest
            cases advanced
            cases moved
            exact .inr ⟨_, rfl, .confirmed latest⟩
          · cases advanced
            cases moved
          · cases advanced
            cases moved
      | confirmed observed cursor =>
          simp only at advanced
          split at advanced <;> cases advanced <;> cases moved
  | pass pass =>
      simp only [Storefront.advance, Option.some.injEq, Prod.mk.injEq] at advanced
      obtain ⟨-, rfl⟩ := advanced
      split at moved
      · rename_i next advanced
        exact advancePass_settle advanced moved
      · cases moved
  | ended => cases advanced

/-! Rows. -/

inductive RowStep (store : Storefront) (action : StorefrontAction) (key : RecordKey) :
    Option ListingRow → Prop
  | kept : RowStep store action key (store.rows.find? key)
  | traded {old row : ListingRow} (present : store.rows.find? key = some old)
      (untouched : old.listing.keepsRecord row.listing = true)
      (others : row.recordEpoch = old.recordEpoch ∧
        row.deletedEventCursor = old.deletedEventCursor ∧
        row.revivedFromCursor = old.revivedFromCursor) : RowStep store action key (some row)
  | recorded {id : ActivityId} {up : Bool} {activity : Activity} {row : ListingRow}
      (taken : action = .advance id up) (found : store.activities.find? id = some activity)
      (written : store.recordWrite activity = some (key, row)) :
      RowStep store action key (some row)
  | buried {id : ActivityId} {up : Bool} {activity : Activity} {authority : DeletionAuthority}
      {settle : SettlePhase} {observed : LiveListing} {cursor : Cursor} {row : ListingRow}
      (taken : action = .advance id up) (found : store.activities.find? id = some activity)
      (settles : activity.settle = some (key, settle))
      (proof : settle = .confirmed observed cursor ∧ authority = .command ∧
          (∃ synced phase, activity = .sync synced phase) ∨
        settle = .locked observed cursor ∧ ∃ pass, activity = .pass pass ∧
          authority = pass.authority ∧ store.now < pass.leaseDeadline)
      (buries : Buried authority store.lease (store.rows.find? key) cursor observed.recordEpoch
        row) : RowStep store action key (some row)

/-- The rows after `settle_deletion` took a step. -/
theorem settle_rows (store : Storefront) (pass : FollowerPass) (key : RecordKey) (up : Bool)
    (settle : SettlePhase) :
    (store.settle pass key up settle).1 = store ∨
      ∃ observed cursor row, settle = .locked observed cursor ∧ store.now < pass.leaseDeadline ∧
        Buried pass.authority store.lease (store.rows.find? key) cursor observed.recordEpoch row ∧
        (store.settle pass key up settle) = (store.setRow key row, .settled .tombstoned) := by
  cases settle with
  | observe =>
      left
      simp only [Storefront.settle]
      split
      · split <;> rfl
      · rfl
  | fetch observed =>
      left
      simp only [Storefront.settle]
      split <;> rfl
  | events observed =>
      left
      simp only [Storefront.settle]
      split <;> rfl
  | confirmed observed cursor =>
      left
      simp only [Storefront.settle]
      split <;> rfl
  | locked observed cursor =>
      simp only [Storefront.settle]
      split
      · rename_i early
        split
        · rename_i row written
          right
          exact ⟨observed, cursor, row, rfl, early, tombstoneRow_written written, rfl⟩
        · left
          split
          · split <;> rfl
          · rfl
        · exact .inl rfl
      · exact .inl rfl

theorem advancePass_rows (store : Storefront) (pass : FollowerPass) (up : Bool) (key : RecordKey) :
    (store.advancePass pass up).1.rows.find? key = store.rows.find? key ∨
      ∃ observed cursor row, pass.job.settle = some (key, .locked observed cursor) ∧
        store.now < pass.leaseDeadline ∧
        Buried pass.authority store.lease (store.rows.find? key) cursor observed.recordEpoch row ∧
        (store.advancePass pass up).1.rows.find? key = some row := by
  have settles : ∀ settled settle, pass.job.settle = some (settled, settle) →
      (store.advancePass pass up).1 = (store.settle pass settled up settle).1 →
      (store.advancePass pass up).1.rows.find? key = store.rows.find? key ∨
      ∃ observed cursor row, pass.job.settle = some (key, .locked observed cursor) ∧
        store.now < pass.leaseDeadline ∧
        Buried pass.authority store.lease (store.rows.find? key) cursor observed.recordEpoch row ∧
        (store.advancePass pass up).1.rows.find? key = some row := by
    intro settled settle working same
    rw [same]
    rcases settle_rows store pass settled up settle with
      unchanged | ⟨observed, cursor, row, rfl, early, buries, written⟩
    · rw [unchanged]
      exact .inl rfl
    · rw [written]
      by_cases here : key = settled
      · subst here
        refine .inr ⟨observed, cursor, row, working, early, buries, ?_⟩
        simp [Storefront.setRow]
      · left
        simp [Storefront.setRow, Keyed.Table.find?_set, here]
  cases job : pass.job with
  | acquired =>
      left
      simp only [Storefront.advancePass, job]
      split
      · rfl
      · split <;> rfl
  | revivals due =>
      left
      simp only [Storefront.advancePass, job]
      cases due with
      | nil => rfl
      | cons first rest =>
          simp only
          split <;> rfl
  | revival settled settle due =>
      rw [job] at settles
      exact settles settled settle rfl (by simp only [Storefront.advancePass, job])
  | attempt attempted confirmed locked due =>
      left
      simp only [Storefront.advancePass, job]
      cases locked with
      | false => rfl
      | true =>
          simp only
          split <;> rfl
  | sellers =>
      left
      simp only [Storefront.advancePass, job]
  | following due =>
      left
      simp only [Storefront.advancePass, job]
      cases due with
      | nil => rfl
      | cons first rest =>
          simp only
          split
          · rfl
          · split <;> rfl
  | batch page due =>
      left
      simp only [Storefront.advancePass, job]
  | settling page listingId cursor settle due =>
      rw [job] at settles
      exact settles _ settle rfl (by simp only [Storefront.advancePass, job])
  | poll seller cursor polledAt locked due =>
      left
      simp only [Storefront.advancePass, job]
      cases locked with
      | false => rfl
      | true =>
          simp only
          split <;> rfl
  | releasing =>
      left
      simp only [Storefront.advancePass, job]
      rfl

theorem commitRecord_rows (store : Storefront) (activity : Activity) (key : RecordKey) :
    (store.commitRecord activity).rows.find? key = store.rows.find? key ∨
      ∃ row, store.recordWrite activity = some (key, row) ∧
        (store.commitRecord activity).rows.find? key = some row := by
  unfold Storefront.commitRecord
  split
  · rename_i written row found
    by_cases here : key = written
    · subst here
      refine .inr ⟨row, found, ?_⟩
      simp [Storefront.setRow]
    · left
      simp [Storefront.setRow, Keyed.Table.find?_set, here]
  · exact .inl rfl

theorem advance_rows {id : ActivityId} {activity next : Activity}
    (found : store.activities.find? id = some activity)
    (advanced : store.advance up activity = some (after, next)) (key : RecordKey) :
    RowStep store (.advance id up) key (after.rows.find? key) := by
  have unchanged : after.rows = store.rows →
      RowStep store (.advance id up) key (after.rows.find? key) := by
    intro same
    rw [same]
    exact .kept
  have commits : after = store.commitRecord activity →
      RowStep store (.advance id up) key (after.rows.find? key) := by
    rintro rfl
    rcases commitRecord_rows store activity key with
      same | ⟨row, written, present⟩
    · rw [same]
      exact .kept
    · rw [present]
      exact .recorded rfl found written
  cases activity with
  | register sender listingId payload phase =>
      cases phase with
      | request =>
          cases advanced
          exact unchanged rfl
      | prefetch =>
          cases advanced
          exact unchanged rfl
      | commit prefetched =>
          cases advanced
          exact commits rfl
  | sync synced phase =>
      simp only [Storefront.advance] at advanced
      cases phase with
      | fetch =>
          simp only at advanced
          split at advanced <;> cases advanced <;> exact unchanged rfl
      | apply record =>
          cases advanced
          exact commits rfl
      | observe =>
          simp only at advanced
          split at advanced <;> cases advanced <;> exact unchanged rfl
      | events observed =>
          simp only at advanced
          split at advanced <;> cases advanced <;> exact unchanged rfl
      | confirmed observed cursor =>
          simp only at advanced
          split at advanced
          · rename_i row written
            cases advanced
            by_cases here : key = synced
            · subst here
              have present : (store.setRow key row).rows.find? key = some row := by
                simp [Storefront.setRow]
              rw [present]
              exact .buried rfl found rfl (.inl ⟨rfl, rfl, _, _, rfl⟩)
                (tombstoneRow_written written)
            · have elsewhere : (store.setRow synced row).rows.find? key =
                  store.rows.find? key := by
                simp [Storefront.setRow, Keyed.Table.find?_set, here]
              rw [elsewhere]
              exact .kept
          · cases advanced
            exact unchanged rfl
          · cases advanced
            exact unchanged rfl
  | pass pass =>
      simp only [Storefront.advance, Option.some.injEq, Prod.mk.injEq] at advanced
      obtain ⟨rfl, -⟩ := advanced
      rcases advancePass_rows store pass up key with
        same | ⟨observed, cursor, row, settles, early, buries, present⟩
      · rw [same]
        exact .kept
      · rw [present]
        exact .buried rfl found settles (.inr ⟨rfl, pass, rfl, rfl, early⟩) buries
  | ended => cases advanced

theorem step_rows {config : FollowerConfig} {action : StorefrontAction}
    (stepped : store.step config action = some after) (key : RecordKey) :
    RowStep store action key (after.rows.find? key) := by
  have unchanged : after.rows = store.rows →
      RowStep store action key (after.rows.find? key) := by
    intro same
    rw [same]
    exact .kept
  have spawned : ∀ {earlier : Storefront} {id : ActivityId} {activity : Activity},
      earlier.spawn id activity = some after → after.rows = earlier.rows := by
    intro earlier id activity spawned
    unfold Storefront.spawn at spawned
    split at spawned
    · cases spawned
    · cases spawned
      rfl
  cases action with
  | tick time =>
      simp only [Storefront.step] at stepped
      split at stepped
      · cases stepped
        exact unchanged rfl
      · cases stepped
  | publish event =>
      obtain ⟨log, -, rfl⟩ := Option.map_eq_some_iff.mp stepped
      exact unchanged rfl
  | trade traded listing =>
      simp only [Storefront.step, Storefront.trade] at stepped
      split at stepped
      · cases stepped
      · rename_i row present
        split at stepped
        · rename_i untouched
          cases stepped
          by_cases here : key = traded
          · subst here
            simp only [Storefront.setRow, Keyed.Table.find?_set, if_true]
            exact .traded present untouched ⟨rfl, rfl, rfl⟩
          · simp only [Storefront.setRow, Keyed.Table.find?_set, here, if_false]
            exact .kept
        · cases stepped
  | register id sender listingId payload =>
      simp only [Storefront.step] at stepped
      split at stepped
      · exact unchanged (spawned stepped)
      · cases stepped
  | sync id synced =>
      simp only [Storefront.step] at stepped
      split at stepped
      · exact unchanged (spawned stepped)
      · cases stepped
  | acquire id holder started leaseNow =>
      simp only [Storefront.step, Storefront.acquire] at stepped
      split at stepped
      · obtain ⟨lease, -, taken⟩ := Option.bind_eq_some_iff.mp stepped
        exact unchanged (Eq.trans (spawned taken) rfl)
      · cases stepped
  | advance id up =>
      obtain ⟨activity, found, moved⟩ := Option.bind_eq_some_iff.mp stepped
      obtain ⟨⟨middle, next⟩, advanced, rfl⟩ := Option.map_eq_some_iff.mp moved
      exact advance_rows found advanced key
  | halt id =>
      simp only [Storefront.step] at stepped
      split at stepped
      · cases stepped
        exact unchanged rfl
      · cases stepped
        exact unchanged rfl
      · cases stepped

/-! The other tables. -/

inductive PassWrite (store : Storefront) (pass : FollowerPass) :
    Storefront → Option FollowerPass → Prop
  | nothing {next : FollowerPass} : PassWrite store pass store (some next)
  | row {key : RecordKey} {row : ListingRow} {next : FollowerPass} :
      PassWrite store pass (store.setRow key row) (some next)
  | attempt {key : RecordKey} {confirmed : Option ℕ} {due : List RecordKey}
      (job : pass.job = .attempt key confirmed true due) :
      PassWrite store pass (store.recordRevivalAttempt key confirmed)
        (some { pass with job := .revivals due })
  | poll {seller : Pubky} {cursor : Option Cursor} {polledAt : Time} {due : DueSellers}
      (job : pass.job = .poll seller cursor polledAt true due) :
      PassWrite store pass (store.recordPoll seller cursor polledAt)
        (some { pass with job := .following due })
  | release (job : pass.job = .releasing) : PassWrite store pass (store.releaseLease pass) none

theorem advancePass_writes (store : Storefront) (pass : FollowerPass) (up : Bool) :
    PassWrite store pass (store.advancePass pass up).1 (store.advancePass pass up).2 := by
  have settles : ∀ key settle (next : SettleProgress → FollowerPass),
      PassWrite store pass (store.settle pass key up settle).1
        (some (next (store.settle pass key up settle).2)) := by
    intro key settle next
    rcases settle_rows store pass key up settle with
      unchanged | ⟨observed, cursor, row, -, -, -, written⟩
    · rw [unchanged]
      exact .nothing
    · rw [written]
      exact .row
  cases job : pass.job with
  | acquired =>
      simp only [Storefront.advancePass, job]
      split
      · exact .nothing
      · split <;> exact .nothing
  | revivals due =>
      simp only [Storefront.advancePass, job]
      cases due with
      | nil => exact .nothing
      | cons first rest =>
          simp only
          split <;> exact .nothing
  | revival settled settle due =>
      simp only [Storefront.advancePass, job]
      exact settles settled settle fun settling => { pass with
        tombstoned := pass.tombstoned + settling.tombstones
        job := revivalJob settled due settling }
  | attempt attempted confirmed locked due =>
      simp only [Storefront.advancePass, job]
      cases locked with
      | false => exact .nothing
      | true =>
          simp only
          split
          · exact .attempt job
          · exact .nothing
  | sellers =>
      simp only [Storefront.advancePass, job]
      exact .nothing
  | following due =>
      simp only [Storefront.advancePass, job]
      cases due with
      | nil => exact .nothing
      | cons first rest =>
          simp only
          split
          · exact .nothing
          · split <;> exact .nothing
  | batch page due =>
      simp only [Storefront.advancePass, job]
      exact .nothing
  | settling page listingId cursor settle due =>
      simp only [Storefront.advancePass, job]
      exact settles _ settle fun settling => { pass with
        tombstoned := pass.tombstoned + settling.tombstones
        job := settlingJob pass store page listingId cursor due settling }
  | poll seller cursor polledAt locked due =>
      simp only [Storefront.advancePass, job]
      cases locked with
      | false => exact .nothing
      | true =>
          simp only
          split
          · exact .poll job
          · exact .nothing
  | releasing =>
      simp only [Storefront.advancePass, job]
      exact .release job

/-- The tables after an activity took a step: a pass writes as it does, and a
command at most a row. -/
inductive TableStep (store : Storefront) (up : Bool) : Activity → Storefront → Activity → Prop
  | command {activity next : Activity} {after : Storefront}
      (commands : ∀ pass, activity ≠ .pass pass) (ends : ∀ pass, next ≠ .pass pass)
      (rows : after = { store with rows := after.rows }) :
      TableStep store up activity after next
  | passed {pass : FollowerPass} {next : FollowerPass}
      (advanced : (store.advancePass pass up).2 = some next) :
      TableStep store up (.pass pass) (store.advancePass pass up).1 (.pass next)
  | finished {pass : FollowerPass} (advanced : (store.advancePass pass up).2 = none) :
      TableStep store up (.pass pass) (store.advancePass pass up).1 .ended

theorem commitRecord_tables (store : Storefront) (activity : Activity) :
    store.commitRecord activity =
      { store with rows := (store.commitRecord activity).rows } := by
  unfold Storefront.commitRecord
  split <;> rfl

theorem advance_tables {activity next : Activity}
    (advanced : store.advance up activity = some (after, next)) :
    TableStep store up activity after next := by
  cases activity with
  | register sender listingId payload phase =>
      cases phase with
      | request =>
          cases advanced
          exact .command (fun _ => by simp) (fun _ => by simp) rfl
      | prefetch =>
          cases advanced
          exact .command (fun _ => by simp) (fun _ => by simp) rfl
      | commit prefetched =>
          cases advanced
          exact .command (fun _ => by simp) (fun _ => by simp) (commitRecord_tables _ _)
  | sync synced phase =>
      simp only [Storefront.advance] at advanced
      cases phase with
      | fetch =>
          simp only at advanced
          split at advanced <;> cases advanced <;>
            exact .command (fun _ => by simp) (fun _ => by simp) rfl
      | apply record =>
          cases advanced
          exact .command (fun _ => by simp) (fun _ => by simp) (commitRecord_tables _ _)
      | observe =>
          simp only at advanced
          split at advanced <;> cases advanced <;>
            exact .command (fun _ => by simp) (fun _ => by simp) rfl
      | events observed =>
          simp only at advanced
          split at advanced <;> cases advanced <;>
            exact .command (fun _ => by simp) (fun _ => by simp) rfl
      | confirmed observed cursor =>
          simp only at advanced
          split at advanced <;> cases advanced <;>
            exact .command (fun _ => by simp) (fun _ => by simp) rfl
  | pass pass =>
      simp only [Storefront.advance, Option.some.injEq, Prod.mk.injEq] at advanced
      obtain ⟨rfl, rfl⟩ := advanced
      cases moved : (store.advancePass pass up).2 with
      | none => exact .finished moved
      | some next => exact .passed moved
  | ended => cases advanced

theorem advance_frame {activity next : Activity}
    (advanced : store.advance up activity = some (after, next)) :
    after.now = store.now ∧ after.log = store.log ∧ after.activities = store.activities := by
  have passes : ∀ pass, (store.advancePass pass up).1.now = store.now ∧
      (store.advancePass pass up).1.log = store.log ∧
      (store.advancePass pass up).1.activities = store.activities := by
    intro pass
    have writes := advancePass_writes store pass up
    generalize (store.advancePass pass up).1 = written at writes ⊢
    generalize (store.advancePass pass up).2 = next at writes
    cases writes <;> exact ⟨rfl, rfl, rfl⟩
  cases advance_tables advanced with
  | command commands ends rows =>
      rw [rows]
      exact ⟨rfl, rfl, rfl⟩
  | passed advanced => exact passes _
  | finished advanced => exact passes _

/-! Activities. -/

inductive Started (config : FollowerConfig) (store : Storefront) : Activity → Storefront → Prop
  | register {sender : Sender} {listingId : String} {payload : PublicListing}
      (valid : isValidEntityId listingId = true) :
      Started config store (.register sender listingId payload .request) store
  | sync {key : RecordKey} (valid : isValidEntityId key.2 = true) :
      Started config store (.sync key .fetch) store
  | pass {pass : FollowerPass} {lease : Lease} {leaseNow : Time} (job : pass.job = .acquired)
      (unlocked : store.leaseLocked = false) (order : pass.started ≤ leaseNow)
      (deadline : pass.leaseDeadline = pass.started + config.leaseSeconds)
      (fence : lease.fence = pass.fence)
      (acquired : acquireLease store.lease pass.holder leaseNow config.leaseSeconds =
        some lease) :
      Started config store (.pass pass) { store with lease := some lease }

inductive StorefrontStep (config : FollowerConfig) (store : Storefront) :
    StorefrontAction → Storefront → Prop
  | ticked {time : Time} (later : store.now ≤ time) :
      StorefrontStep config store (.tick time) { store with now := time }
  | published {event : HomeserverEvent} {log : EventLog}
      (written : store.log.write event = some log) :
      StorefrontStep config store (.publish event) { store with log := log }
  | traded {key : RecordKey} {listing : Listing} {row : ListingRow} :
      StorefrontStep config store (.trade key listing) (store.setRow key row)
  | started {action : StorefrontAction} {id : ActivityId} {activity : Activity}
      {middle : Storefront} (fresh : store.activities.find? id = none)
      (begins : Started config store activity middle) :
      StorefrontStep config store action (middle.setActivity id activity)
  | advanced {id : ActivityId} {up : Bool} {activity next : Activity} {middle : Storefront}
      (found : store.activities.find? id = some activity)
      (moved : store.advance up activity = some (middle, next)) :
      StorefrontStep config store (.advance id up) (middle.setActivity id next)
  | halted {id : ActivityId} {activity next : Activity}
      (found : store.activities.find? id = some activity)
      (stops : next = .ended ∨
        ∃ pass, activity = .pass pass ∧ next = .pass { pass with job := .releasing }) :
      StorefrontStep config store (.halt id) (store.setActivity id next)

theorem spawn_some {id : ActivityId} {activity : Activity}
    (spawned : store.spawn id activity = some after) :
    store.activities.find? id = none ∧ after = store.setActivity id activity := by
  unfold Storefront.spawn at spawned
  split at spawned
  · cases spawned
  · rename_i fresh
    cases spawned
    exact ⟨Option.not_isSome_iff_eq_none.mp fresh, rfl⟩

theorem step_inverts {config : FollowerConfig} {action : StorefrontAction}
    (stepped : store.step config action = some after) :
    StorefrontStep config store action after := by
  cases action with
  | tick time =>
      simp only [Storefront.step] at stepped
      split at stepped
      · rename_i later
        cases stepped
        exact .ticked later
      · cases stepped
  | publish event =>
      obtain ⟨log, written, rfl⟩ := Option.map_eq_some_iff.mp stepped
      exact .published written
  | trade traded listing =>
      simp only [Storefront.step, Storefront.trade] at stepped
      split at stepped
      · cases stepped
      · split at stepped
        · cases stepped
          exact .traded
        · cases stepped
  | register id sender listingId payload =>
      simp only [Storefront.step] at stepped
      split at stepped
      · rename_i valid
        obtain ⟨fresh, rfl⟩ := spawn_some stepped
        exact .started fresh (.register valid)
      · cases stepped
  | sync id synced =>
      simp only [Storefront.step] at stepped
      split at stepped
      · rename_i valid
        obtain ⟨fresh, rfl⟩ := spawn_some stepped
        exact .started fresh (.sync valid)
      · cases stepped
  | acquire id holder started leaseNow =>
      simp only [Storefront.step, Storefront.acquire] at stepped
      split at stepped
      · rename_i allowed
        obtain ⟨lease, acquired, spawned⟩ := Option.bind_eq_some_iff.mp stepped
        obtain ⟨fresh, rfl⟩ := spawn_some spawned
        exact .started fresh (.pass rfl allowed.2.2 allowed.1 rfl rfl acquired)
      · cases stepped
  | advance id up =>
      obtain ⟨activity, found, moved⟩ := Option.bind_eq_some_iff.mp stepped
      obtain ⟨⟨middle, next⟩, advanced, rfl⟩ := Option.map_eq_some_iff.mp moved
      exact .advanced found advanced
  | halt id =>
      simp only [Storefront.step] at stepped
      split at stepped
      · rename_i pass found
        cases stepped
        refine .halted found ?_
        split
        · exact .inl rfl
        · exact .inr ⟨pass, rfl, rfl⟩
      · rename_i activity _ found
        cases stepped
        exact .halted found (.inl rfl)
      · cases stepped

inductive ActivityTurn (config : FollowerConfig) (store : Storefront)
    (action : StorefrontAction) (id : ActivityId) (after : Storefront) (activity : Activity) : Prop
  | kept (found : store.activities.find? id = some activity)
  | started {middle : Storefront} (begins : Started config store activity middle)
  | advanced {up : Bool} {before : Activity} {middle : Storefront}
      (found : store.activities.find? id = some before) (taken : action = .advance id up)
      (moved : store.advance up before = some (middle, activity))
      (written : after = middle.setActivity id activity)
  | halted {before : Activity} (found : store.activities.find? id = some before)
      (stops : activity = .ended ∨
        ∃ pass, before = .pass pass ∧ activity = .pass { pass with job := .releasing })

theorem step_activity {config : FollowerConfig} {action : StorefrontAction} {id : ActivityId}
    {activity : Activity} (stepped : store.step config action = some after)
    (listed : after.activities.find? id = some activity) :
    ActivityTurn config store action id after activity := by
  cases step_inverts stepped with
  | ticked later => exact .kept listed
  | published written => exact .kept listed
  | traded => exact .kept listed
  | @started _ other begun middle fresh begins =>
      rw [Storefront.setActivity, Keyed.Table.find?_set] at listed
      by_cases here : id = other
      · rw [if_pos here] at listed
        cases listed
        exact .started begins
      · rw [if_neg here] at listed
        cases begins <;> exact .kept listed
  | @halted other stopped next found stops =>
      rw [Storefront.setActivity, Keyed.Table.find?_set] at listed
      by_cases here : id = other
      · subst here
        rw [if_pos rfl] at listed
        cases listed
        exact .halted found stops
      · rw [if_neg here] at listed
        exact .kept listed
  | @advanced other up before next middle found moved =>
      rw [Storefront.setActivity, Keyed.Table.find?_set, (advance_frame moved).2.2] at listed
      by_cases here : id = other
      · subst here
        rw [if_pos rfl] at listed
        cases listed
        exact .advanced found rfl moved rfl
      · rw [if_neg here] at listed
        exact .kept listed

end MarketplaceService
