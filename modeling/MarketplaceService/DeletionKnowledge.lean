import MarketplaceService.TombstoneFence

/-!
What the rows, the checks and the activities of a storefront know of the
homeserver's log: a marker names an event of the record, a confirmed delete is
not behind the marker of the row it was confirmed for, and no generation is
checked before it exists.
-/

namespace MarketplaceService

variable {config : FollowerConfig} {store after : Storefront} {action : StorefrontAction}

/-! Growth. -/

/-- A known row stays; its epoch and its generation grow, and its marker moves
only with its epoch. -/
theorem step_grows {key : RecordKey} {old : ListingRow}
    (stepped : store.step config action = some after)
    (present : store.rows.find? key = some old) :
    ∃ row, after.rows.find? key = some row ∧ old.recordEpoch ≤ row.recordEpoch ∧
      old.listing.generation ≤ row.listing.generation ∧
      (row.recordEpoch = old.recordEpoch → row.revivedFromCursor = old.revivedFromCursor) := by
  generalize reads : after.rows.find? key = result
  have moves := step_rows stepped key
  rw [reads] at moves
  cases moves with
  | kept => exact ⟨old, present, le_rfl, le_rfl, fun _ => rfl⟩
  | @traded before row same untouched others =>
      obtain rfl : before = old := Option.some.inj (same.symm.trans present)
      simp only [Listing.keepsRecord, Bool.and_eq_true, beq_iff_eq] at untouched
      exact ⟨row, rfl, others.1.ge, untouched.1.1.2.ge, fun _ => others.2.2⟩
  | @recorded id up activity row taken found written =>
      have recorded := recordWrite_step written
      have epoch := recorded.epoch old present
      refine ⟨row, rfl, epoch ▸ Nat.le_succ _, ?_, ?_⟩
      · cases alive : old.isLive with
        | true => exact (recorded.kept old present alive).1.ge
        | false => exact (recorded.revived old present alive).1 ▸ Nat.le_succ _
      · intro same
        omega
  | @buried id up activity authority settle observed named row taken found settles proof buries =>
      obtain ⟨before, same, -, -, -, epoch, marker, generation⟩ := buries.before
      obtain rfl : before = old := Option.some.inj (same.symm.trans present)
      exact ⟨row, rfl, epoch.ge, generation.ge, fun _ => marker⟩

theorem step_log (stepped : store.step config action = some after) :
    after.log = store.log ∨ ∃ event, store.log.write event = some after.log := by
  cases step_inverts stepped with
  | ticked later => exact .inl rfl
  | published written => exact .inr ⟨_, written⟩
  | traded => exact .inl rfl
  | started fresh begins => cases begins <;> exact .inl rfl
  | advanced found moved => exact .inl (advance_frame moved).2.1
  | halted found stops => exact .inl rfl

theorem step_latest {key : RecordKey} {event : HomeserverEvent}
    (stepped : store.step config action = some after)
    (latest : store.log.latestEvent key = some event) :
    ∃ later, after.log.latestEvent key = some later ∧ event.cursor ≤ later.cursor := by
  rcases step_log stepped with same | ⟨written, write⟩
  · exact ⟨event, same ▸ latest, le_rfl⟩
  · rw [EventLog.write_latest write]
    split
    · exact ⟨written, rfl,
        ((EventLog.write_events write).2 event (EventLog.latestEvent_mem latest).1).le⟩
    · exact ⟨event, latest, le_rfl⟩

/-! Chronicle. -/

def EventLog.reaches (log : EventLog) (key : RecordKey) (cursor : Cursor) : Prop :=
  ∃ event, log.latestEvent key = some event ∧ cursor ≤ event.cursor

structure Chronicle (store : Storefront) : Prop where
  markers : ∀ key row cursor, store.rows.find? key = some row →
    (row.deletedEventCursor = some cursor ∨ row.revivedFromCursor = some cursor) →
    store.log.reaches key cursor
  known : ∀ id activity key settle live seen, store.activities.find? id = some activity →
    activity.settle = some (key, settle) → settle.proof = some (live, seen) →
    ∃ row, store.rows.find? key = some row ∧ live.recordEpoch ≤ row.recordEpoch ∧
      live.generation ≤ row.listing.generation ∧
      ∀ cursor ∈ seen, store.log.reaches key cursor ∧
        (row.recordEpoch = live.recordEpoch →
          ∀ marker ∈ row.revivedFromCursor, marker ≤ cursor)
  attempts : ∀ id pass key generation locked due,
    store.activities.find? id = some (.pass pass) →
    pass.job = .attempt key (some generation) locked due →
    ∃ row, store.rows.find? key = some row ∧ generation ≤ row.listing.generation
  checked : ∀ key check generation, store.checks.find? key = some check →
    check.checkedGeneration = some generation →
    ∃ row, store.rows.find? key = some row ∧ generation ≤ row.listing.generation

theorem EventLog.reaches.step {key : RecordKey} {cursor : Cursor}
    (reaches : store.log.reaches key cursor) (stepped : store.step config action = some after) :
    after.log.reaches key cursor := by
  obtain ⟨event, latest, below⟩ := reaches
  obtain ⟨later, newest, above⟩ := step_latest stepped latest
  exact ⟨later, newest, below.trans above⟩

theorem Chronicle.markers_step (chronicle : Chronicle store)
    (stepped : store.step config action = some after) :
    ∀ key row cursor, after.rows.find? key = some row →
      (row.deletedEventCursor = some cursor ∨ row.revivedFromCursor = some cursor) →
      after.log.reaches key cursor := by
  intro key row cursor present named
  suffices known : store.log.reaches key cursor from known.step stepped
  have moves := step_rows stepped key
  rw [present] at moves
  generalize result : (some row : Option ListingRow) = written at moves
  cases moves with
  | kept => exact chronicle.markers key row cursor result.symm named
  | @traded old _ same untouched others =>
      cases result
      rw [others.2.1, others.2.2] at named
      exact chronicle.markers key old cursor same named
  | @recorded id up activity _ taken found written =>
      cases result
      have recorded := recordWrite_step written
      rw [ListingRow.live_evidence recorded.live] at named
      rcases named with never | named
      · cases never
      cases current : store.rows.find? key with
      | none =>
          rw [recorded.inserted current] at named
          cases named
      | some old =>
          cases alive : old.isLive with
          | true =>
              rw [(recorded.kept old current alive).2] at named
              exact chronicle.markers key old cursor current (.inr named)
          | false =>
              obtain ⟨-, marker, marked, -, -, source⟩ := recorded.revived old current alive
              obtain rfl : marker = cursor := Option.some.inj (marked.symm.trans named)
              exact chronicle.markers key old marker current source
  | @buried id up activity authority settle observed eventCursor _ taken found settles proof
      buries =>
      cases result
      obtain ⟨old, current, alive, -, -, -, marker, -⟩ := buries.before
      rw [buries.evidence, marker] at named
      rcases named with same | named
      · have knows : settle.proof = some (observed, some eventCursor) := by
          rcases proof with ⟨rfl, -⟩ | ⟨rfl, -⟩ <;> rfl
        obtain ⟨known, -, -, -, seen⟩ :=
          chronicle.known id activity key settle observed _ found settles knows
        cases same
        exact (seen cursor rfl).1
      · exact chronicle.markers key old cursor current (.inr named)

/-- What an activity knows outlives a step. -/
theorem Chronicle.later {key : RecordKey} {live : LiveListing} {seen : Option Cursor}
    (known : ∃ row, store.rows.find? key = some row ∧ live.recordEpoch ≤ row.recordEpoch ∧
      live.generation ≤ row.listing.generation ∧
      ∀ cursor ∈ seen, store.log.reaches key cursor ∧
        (row.recordEpoch = live.recordEpoch → ∀ marker ∈ row.revivedFromCursor, marker ≤ cursor))
    (stepped : store.step config action = some after) :
    ∃ row, after.rows.find? key = some row ∧ live.recordEpoch ≤ row.recordEpoch ∧
      live.generation ≤ row.listing.generation ∧
      ∀ cursor ∈ seen, after.log.reaches key cursor ∧
        (row.recordEpoch = live.recordEpoch →
          ∀ marker ∈ row.revivedFromCursor, marker ≤ cursor) := by
  obtain ⟨old, present, epoch, generation, confirmed⟩ := known
  obtain ⟨row, reads, grown, bred, marker⟩ := step_grows stepped present
  refine ⟨row, reads, epoch.trans grown, generation.trans bred, ?_⟩
  intro cursor named
  obtain ⟨reaches, ahead⟩ := confirmed cursor named
  refine ⟨reaches.step stepped, ?_⟩
  intro standing
  have same : row.recordEpoch = old.recordEpoch := by omega
  rw [marker same]
  exact ahead (same ▸ standing)

theorem Chronicle.known_step (chronicle : Chronicle store)
    (stepped : store.step config action = some after) :
    ∀ id activity key settle live seen, after.activities.find? id = some activity →
      activity.settle = some (key, settle) → settle.proof = some (live, seen) →
      ∃ row, after.rows.find? key = some row ∧ live.recordEpoch ≤ row.recordEpoch ∧
        live.generation ≤ row.listing.generation ∧
        ∀ cursor ∈ seen, after.log.reaches key cursor ∧
          (row.recordEpoch = live.recordEpoch →
            ∀ marker ∈ row.revivedFromCursor, marker ≤ cursor) := by
  intro id activity key settle live seen listed settles knows
  have elsewhere : store.activities.find? id = some activity → _ := fun found =>
    Chronicle.later (chronicle.known id activity key settle live seen found settles knows) stepped
  rcases step_settle stepped listed settles knows with
    same | ⟨-, before, earlier, -, found, settled, progress⟩
  · exact elsewhere same
  refine Chronicle.later ?_ stepped
  cases progress with
  | @read observed _ read later =>
      obtain ⟨rfl, rfl⟩ : observed = live ∧ seen = none := by
        rcases later with rfl | rfl <;> cases knows <;> exact ⟨rfl, rfl⟩
      obtain ⟨old, present, -, generation, epoch⟩ := observeLive_some read
      refine ⟨old, present, epoch.le, generation.le, ?_⟩
      intro cursor never
      cases never
  | fetched => exact chronicle.known id before key _ live seen found settled knows
  | confirmed latest =>
      cases knows
      obtain ⟨row, present, epoch, generation, -⟩ :=
        chronicle.known id before key _ _ none found settled rfl
      obtain ⟨event, newest, -, rfl⟩ := latestEventIsDelete_deleted latest
      refine ⟨row, present, epoch, generation, ?_⟩
      rintro _ ⟨⟩
      refine ⟨⟨event, newest, le_rfl⟩, ?_⟩
      intro _ marker named
      obtain ⟨same, equal, above⟩ := chronicle.markers key row marker present (.inr named)
      obtain rfl : same = event := Option.some.inj (equal.symm.trans newest)
      exact above
  | locked => exact chronicle.known id before key _ live seen found settled knows

/-- A settlement that ends undeleted names the generation it observed. -/
theorem settle_notDeleted {pass : FollowerPass} {key : RecordKey} {up : Bool}
    {settle : SettlePhase} {generation : ℕ}
    (ended : (store.settle pass key up settle).2 = .settled (.notDeleted (some generation))) :
    ∃ live seen, settle.proof = some (live, seen) ∧ live.generation = generation := by
  cases settle with
  | observe =>
      simp only [Storefront.settle] at ended
      split at ended
      · split at ended <;> cases ended
      · cases ended
  | fetch observed =>
      simp only [Storefront.settle] at ended
      split at ended <;> cases ended
      exact ⟨observed, none, rfl, rfl⟩
  | events observed =>
      simp only [Storefront.settle] at ended
      split at ended <;> cases ended
      exact ⟨observed, none, rfl, rfl⟩
  | confirmed observed cursor =>
      simp only [Storefront.settle] at ended
      split at ended <;> cases ended
  | locked observed cursor =>
      refine ⟨observed, some cursor, rfl, ?_⟩
      simp only [Storefront.settle] at ended
      split at ended
      · split at ended
        · cases ended
        · split at ended
          · split at ended <;> cases ended
            rfl
          · cases ended
            rfl
        · cases ended
      · cases ended

theorem revivalJob_attempt {key attempted : RecordKey} {due rest : List RecordKey}
    {settling : SettleProgress} {generation : ℕ} {locked : Bool}
    (job : revivalJob key due settling = .attempt attempted (some generation) locked rest) :
    settling = .settled (.notDeleted (some generation)) ∧ attempted = key ∧ locked = false ∧
      rest = due := by
  cases settling with
  | next phase => cases job
  | halt => cases job
  | settled outcome =>
      cases outcome with
      | tombstoned => cases job
      | unsettled => cases job
      | notDeleted observed =>
          cases observed with
          | none => cases job
          | some seen =>
              cases job
              exact ⟨rfl, rfl, rfl, rfl⟩

theorem advancePass_attempt {pass next : FollowerPass} {up : Bool} {key : RecordKey}
    {generation : ℕ} {locked : Bool} {due : List RecordKey}
    (advanced : (store.advancePass pass up).2 = some next)
    (job : next.job = .attempt key (some generation) locked due) :
    (∃ before, pass.job = .attempt key (some generation) before due) ∨
      ∃ settle live seen, pass.job = .revival key settle due ∧ settle.proof = some (live, seen) ∧
        live.generation = generation ∧
        (store.settle pass key up settle).2 = .settled (.notDeleted (some generation)) := by
  unfold Storefront.advancePass at advanced
  split at advanced
  all_goals rename_i was
  · simp only at advanced
    split at advanced
    · cases advanced
      cases job
    · split at advanced <;> cases advanced <;> cases job
  · cases advanced
    cases job
  · split at advanced <;> cases advanced <;> cases job
  · cases advanced
    obtain ⟨progress, rfl, -, rfl⟩ := revivalJob_attempt job
    obtain ⟨live, known, phase, same⟩ := settle_notDeleted progress
    exact .inr ⟨_, live, known, was, phase, same, progress⟩
  · cases advanced
    simp only at job
    split at job
    · cases job
      exact .inl ⟨false, was⟩
    · cases job
  · split at advanced <;> cases advanced <;> cases job
  · cases advanced
    simp only at job
    split at job <;> cases job
  · cases advanced
    cases job
  · split at advanced
    · cases advanced
      cases job
    · split at advanced <;> cases advanced <;> cases job
  · cases advanced
    unfold batchJob at job
    split at job
    · cases job
    · simp only at job
      split at job
      · split at job <;> cases job
      · cases job
  · cases advanced
    simp only at job
    unfold settlingJob at job
    split at job <;> cases job
  · cases advanced
    simp only at job
    split at job <;> cases job
  · split at advanced <;> cases advanced <;> cases job
  · cases advanced

/-! Passes. -/

/-- A pass after a step: the same as before, at its beginning or its end, or one
step further. -/
inductive PassStep (store : Storefront) (action : StorefrontAction) (id : ActivityId)
    (after : Storefront) (next : FollowerPass) : Prop
  | same (found : store.activities.find? id = some (.pass next))
  | acquired (job : next.job = .acquired)
  | releasing (job : next.job = .releasing)
  | advanced {pass : FollowerPass} {up : Bool}
      (found : store.activities.find? id = some (.pass pass)) (taken : action = .advance id up)
      (moved : (store.advancePass pass up).2 = some next)
      (written : after = (store.advancePass pass up).1.setActivity id (.pass next))

theorem step_pass {id : ActivityId} {next : FollowerPass}
    (stepped : store.step config action = some after)
    (listed : after.activities.find? id = some (.pass next)) :
    PassStep store action id after next := by
  cases step_activity stepped listed with
  | kept found => exact .same found
  | started begins =>
      cases begins with
      | pass job => exact .acquired job
  | halted found stops =>
      rcases stops with never | ⟨pass, -, same⟩
      · cases never
      · cases same
        exact .releasing rfl
  | advanced found taken moved written =>
      cases advance_tables moved with
      | command commands ends rows => exact absurd rfl (ends next)
      | passed progressed => exact .advanced found taken progressed written

theorem Chronicle.attempts_step (chronicle : Chronicle store)
    (stepped : store.step config action = some after) :
    ∀ id pass key generation locked due, after.activities.find? id = some (.pass pass) →
      pass.job = .attempt key (some generation) locked due →
      ∃ row, after.rows.find? key = some row ∧ generation ≤ row.listing.generation := by
  intro id next key generation locked due listed job
  suffices known : ∃ row, store.rows.find? key = some row ∧
      generation ≤ row.listing.generation by
    obtain ⟨old, present, below⟩ := known
    obtain ⟨row, reads, -, bred, -⟩ := step_grows stepped present
    exact ⟨row, reads, below.trans bred⟩
  cases step_pass stepped listed with
  | same found => exact chronicle.attempts id next key generation locked due found job
  | acquired begun =>
      rw [begun] at job
      cases job
  | releasing ends =>
      rw [ends] at job
      cases job
  | @advanced pass up found taken moved written =>
      rcases advancePass_attempt moved job with
        ⟨before, attempted⟩ | ⟨settle, live, seen, revival, phase, same, -⟩
      · exact chronicle.attempts id pass key generation before due found attempted
      · obtain ⟨row, present, -, below, -⟩ :=
          chronicle.known id (.pass pass) key settle live seen found
            (by rw [Activity.settle, revival]; rfl) phase
        exact ⟨row, present, same ▸ below⟩

theorem step_checks (stepped : store.step config action = some after) :
    after.checks = store.checks ∨
      ∃ id pass key confirmed due, store.activities.find? id = some (.pass pass) ∧
        pass.job = .attempt key confirmed true due ∧
        after.checks = (store.recordRevivalAttempt key confirmed).checks := by
  cases step_inverts stepped with
  | ticked later => exact .inl rfl
  | published written => exact .inl rfl
  | traded => exact .inl rfl
  | started fresh begins => cases begins <;> exact .inl rfl
  | halted found stops => exact .inl rfl
  | @advanced id up activity next middle found moved =>
      have passes : ∀ pass, activity = .pass pass → middle = (store.advancePass pass up).1 →
          middle.checks = store.checks ∨
          ∃ id pass key confirmed due, store.activities.find? id = some (.pass pass) ∧
            pass.job = .attempt key confirmed true due ∧
            middle.checks = (store.recordRevivalAttempt key confirmed).checks := by
        rintro pass rfl rfl
        have writes := advancePass_writes store pass up
        generalize (store.advancePass pass up).1 = written at writes ⊢
        generalize (store.advancePass pass up).2 = later at writes
        cases writes with
        | attempt job => exact .inr ⟨id, pass, _, _, _, found, job, rfl⟩
        | _ => exact .inl rfl
      cases advance_tables moved with
      | command commands ends rows =>
          left
          change middle.checks = store.checks
          rw [rows]
      | passed progressed => exact passes _ rfl rfl
      | finished progressed => exact passes _ rfl rfl

theorem recordRevivalAttempt_checked {key other : RecordKey} {confirmed : Option ℕ}
    {check : RevivalCheck} {generation : ℕ}
    (listed : (store.recordRevivalAttempt key confirmed).checks.find? other = some check)
    (checked : check.checkedGeneration = some generation) :
    (∃ earlier, store.checks.find? other = some earlier ∧
        earlier.checkedGeneration = some generation) ∨
      other = key ∧ confirmed = some generation := by
  simp only [Storefront.recordRevivalAttempt, Keyed.Table.find?_set] at listed
  by_cases here : other = key
  · subst here
    rw [if_pos rfl] at listed
    cases listed
    simp only at checked
    split at checked
    · exact .inr ⟨rfl, checked⟩
    · obtain ⟨earlier, present, same⟩ := Option.bind_eq_some_iff.mp checked
      exact .inl ⟨earlier, present, same⟩
  · rw [if_neg here] at listed
    exact .inl ⟨check, listed, checked⟩

theorem Chronicle.checked_step (chronicle : Chronicle store)
    (stepped : store.step config action = some after) :
    ∀ key check generation, after.checks.find? key = some check →
      check.checkedGeneration = some generation →
      ∃ row, after.rows.find? key = some row ∧ generation ≤ row.listing.generation := by
  intro key check generation listed checked
  suffices known : ∃ row, store.rows.find? key = some row ∧
      generation ≤ row.listing.generation by
    obtain ⟨old, present, below⟩ := known
    obtain ⟨row, reads, -, bred, -⟩ := step_grows stepped present
    exact ⟨row, reads, below.trans bred⟩
  rcases step_checks stepped with same | ⟨id, pass, attempted, confirmed, due, found, job, written⟩
  · rw [same] at listed
    exact chronicle.checked key check generation listed checked
  · rw [written] at listed
    rcases recordRevivalAttempt_checked listed checked with
      ⟨earlier, present, same⟩ | ⟨rfl, rfl⟩
    · exact chronicle.checked key earlier generation present same
    · exact chronicle.attempts id pass key generation true due found job

theorem Chronicle.step (chronicle : Chronicle store)
    (stepped : store.step config action = some after) : Chronicle after :=
  ⟨chronicle.markers_step stepped, chronicle.known_step stepped, chronicle.attempts_step stepped,
    chronicle.checked_step stepped⟩

theorem initial_chronicle (init : (storefront config).initial store) : Chronicle store := by
  obtain ⟨rows, -, -, checks, activities⟩ := init
  constructor
  · intro key row cursor present
    rw [rows] at present
    cases present
  · intro id activity key settle live seen found
    rw [activities] at found
    cases found
  · intro id pass key generation locked due found
    rw [activities] at found
    cases found
  · intro key check generation listed
    rw [checks] at listed
    cases listed

end MarketplaceService
