import MarketplaceService.DeletionFollower
import MarketplaceService.Lib.Outcome

/-!
What a write does to a listing row: a record-derived write advances the epoch
by one, a revival moves the marker to the delete it superseded, and a tombstone
passes the fence. A row is never removed.
-/

namespace MarketplaceService

variable {lease : Option Lease} {now : Time}

theorem markerBehind_self (marker : Option Cursor) : markerBehind marker marker = false := by
  cases marker with
  | none => rfl
  | some cursor => simp [markerBehind]

theorem ahead_of_not_behind {marker other : Option Cursor}
    (ahead : markerBehind marker other = false) {cursor : Cursor} (named : other = some cursor) :
    ∃ later, marker = some later ∧ cursor ≤ later := by
  subst named
  cases marker with
  | none => cases ahead
  | some later =>
      refine ⟨later, rfl, ?_⟩
      simpa [markerBehind] using ahead

/-! Record-derived writes. -/

structure RecordStep (current : Option ListingRow) (row : ListingRow) : Prop where
  live : row.isLive = true
  inserted : current = none → row.revivedFromCursor = none
  epoch : ∀ old ∈ current, row.recordEpoch = old.recordEpoch + 1
  kept : ∀ old ∈ current, old.isLive = true →
    row.listing.generation = old.listing.generation ∧
      row.revivedFromCursor = old.revivedFromCursor
  revived : ∀ old ∈ current, old.isLive = false →
    row.listing.generation = old.listing.generation + 1 ∧
      ∃ marker, row.revivedFromCursor = some marker ∧
        (∀ cursor ∈ old.deletedEventCursor, cursor ≤ marker) ∧
        (∀ cursor ∈ old.revivedFromCursor, cursor ≤ marker) ∧
        (old.deletedEventCursor = some marker ∨ old.revivedFromCursor = some marker)

/-- The row a writer hands to the triggers: live, with the marker it found, and
with a change that advances the epoch. -/
structure Submitted (current : Option ListingRow) (row : ListingRow) : Prop where
  live : row.isLive = true
  marker : row.revivedFromCursor = current.bind ListingRow.revivedFromCursor
  generation : ∀ old ∈ current, row.listing.generation =
    if old.isLive then old.listing.generation else old.listing.generation + 1
  counted : ∀ old ∈ current, old.isLive = true →
    row.record ≠ old.record ∨ row.record = old.record ∧ row.recordEpoch = old.recordEpoch + 1

theorem recordEpochTrigger_counted {old new : ListingRow}
    (counted : old.isLive = false ∧ new.isLive = true ∨ new.record ≠ old.record ∨
      new.record = old.record ∧ new.recordEpoch = old.recordEpoch + 1) :
    recordEpochTrigger old new = { new with recordEpoch := old.recordEpoch + 1 } := by
  unfold recordEpochTrigger
  rcases counted with ⟨dead, live⟩ | differs | ⟨same, advanced⟩
  · rw [if_pos (by simp [dead, live])]
  · rw [if_pos (.inr differs)]
  · split
    · rfl
    · rw [if_neg (by simp [advanced]), ← advanced]

theorem ListingRow.dead_evidence {row : ListingRow} (dead : row.isLive = false) :
    ∃ cursor, row.deletedEventCursor = some cursor := by
  have evidence := row.evidence
  unfold ListingRow.isLive at dead
  rw [← Option.not_isNone, dead] at evidence
  exact Option.isSome_iff_exists.mp evidence.symm

theorem ListingRow.live_evidence {row : ListingRow} (live : row.isLive = true) :
    row.deletedEventCursor = none := by
  have evidence := row.evidence
  unfold ListingRow.isLive at live
  rw [← Option.not_isNone, live] at evidence
  exact Option.not_isSome_iff_eq_none.mp (by rw [← evidence]; decide)

theorem deletionGuard_live {old new guarded : ListingRow} (lives : new.isLive = true)
    (marker : new.revivedFromCursor = old.revivedFromCursor)
    (passed : deletionGuard .nothing lease old new = some guarded) :
    old.isLive = true ∧ guarded = new ∨
      old.isLive = false ∧ ∃ later, guarded = { new with revivedFromCursor := some later } ∧
        (∀ cursor ∈ old.deletedEventCursor, cursor ≤ later) ∧
        (∀ cursor ∈ old.revivedFromCursor, cursor ≤ later) ∧
        (old.deletedEventCursor = some later ∨ old.revivedFromCursor = some later) := by
  rw [deletionGuard, marker, markerBehind_self, if_neg Bool.false_ne_true] at passed
  cases alive : old.isLive with
  | true =>
      simp only [alive, lives, Bool.not_true, Bool.false_and, Bool.and_false,
        Bool.false_eq_true, if_false, Option.some.injEq] at passed
      exact .inl ⟨rfl, passed.symm⟩
  | false =>
      obtain ⟨cursor, evidence⟩ := ListingRow.dead_evidence alive
      simp only [alive, lives, Bool.not_false, Bool.true_and, if_true] at passed
      refine .inr ⟨rfl, ?_⟩
      split at passed
      · rename_i behind
        refine ⟨cursor, ?_, ?_, ?_, .inl evidence⟩
        · rw [← evidence]
          exact (Option.some.inj passed).symm
        · intro other named
          exact (Option.some.inj (named.symm.trans evidence)).le
        · intro other named
          rw [named, evidence] at behind
          simp only [markerBehind, Option.any_some, Option.all_some, decide_eq_true_eq] at behind
          exact behind.le
      · rename_i ahead
        obtain ⟨later, named, after⟩ :=
          ahead_of_not_behind (Bool.eq_false_iff.mpr ahead) evidence
        refine ⟨later, ?_, ?_, ?_, .inr named⟩
        · rw [← named, ← marker]
          exact (Option.some.inj passed).symm
        · intro other same
          rw [Option.some.inj (same.symm.trans evidence)]
          exact after
        · intro other same
          exact (Option.some.inj (same.symm.trans named)).le

theorem storeRow_recorded {current : Option ListingRow} {submitted row : ListingRow}
    (written : Submitted current submitted) (stored : storeRow lease current submitted = some row) :
    RecordStep current row := by
  cases current with
  | none =>
      obtain rfl := Option.some.inj stored
      constructor
      · exact written.live
      · exact fun _ => written.marker
      · intro old present
        cases present
      · intro old present
        cases present
      · intro old present
        cases present
  | some old =>
      obtain ⟨guarded, passed, traced⟩ := Option.map_eq_some_iff.mp stored
      have generation := written.generation old rfl
      rcases deletionGuard_live written.live written.marker passed with
        ⟨alive, rfl⟩ | ⟨dead, marker, rfl, deleted, revived, named⟩
      · rw [recordEpochTrigger_counted (.inr (written.counted old rfl alive))] at traced
        subst traced
        constructor
        · exact written.live
        · intro absent
          cases absent
        · rintro _ ⟨⟩
          rfl
        · rintro _ ⟨⟩ -
          rw [if_pos alive] at generation
          exact ⟨generation, written.marker⟩
        · rintro _ ⟨⟩ dead
          cases alive.symm.trans dead
      · have lives : ({ submitted with revivedFromCursor := some marker } : ListingRow).isLive =
          true := written.live
        rw [recordEpochTrigger_counted (.inl ⟨dead, lives⟩)] at traced
        subst traced
        constructor
        · exact written.live
        · intro absent
          cases absent
        · rintro _ ⟨⟩
          rfl
        · rintro _ ⟨⟩ alive
          cases alive.symm.trans dead
        · rintro _ ⟨⟩ -
          rw [if_neg (Bool.eq_false_iff.mp dead)] at generation
          exact ⟨generation, marker, rfl, deleted, revived, named⟩

theorem applyToRow_ok {current : Option ListingRow} {payload : PublicListing} {row : ListingRow}
    (applied : applyToRow current payload now = .ok row) :
    row.isLive = true ∧ row.revivedFromCursor = current.bind ListingRow.revivedFromCursor ∧
      row.record.listingRevision = payload.terms.listingRevision ∧
      ∀ old ∈ current, row.listing.generation =
        if old.isLive then old.listing.generation else old.listing.generation + 1 := by
  obtain ⟨listing, registered, written⟩ := Outcome.bind_ok applied
  cases written
  unfold applyRegistration at registered
  simp only at registered
  split at registered
  · cases registered
    refine ⟨rfl, rfl, rfl, ?_⟩
    rintro old ⟨⟩
    have dead : old.listing.isDeleted = !old.isLive := by
      simp [Listing.isDeleted, ListingRow.isLive]
    simp only [Option.map_some, Option.any_some, Option.getD_some, dead]
    clear applied
    cases old.isLive <;> rfl
  · cases registered

theorem applyToRow_submitted {current : Option ListingRow} {payload : PublicListing}
    {row : ListingRow} (applied : applyToRow current payload now = .ok row)
    (advances : ∀ old ∈ current, old.isLive = true →
      old.listing.listingRevision < payload.terms.listingRevision) :
    Submitted current row := by
  obtain ⟨live, marker, revision, generation⟩ := applyToRow_ok applied
  refine ⟨live, marker, generation, ?_⟩
  intro old present lives
  left
  intro same
  have moved := advances old present lives
  rw [← revision, same] at moved
  exact lt_irrefl _ moved

theorem registerRow_submitted {current : Option ListingRow} {payload : PublicListing}
    {sender : Sender} {prefetched : RecordPrefetch} {row : ListingRow}
    (registered : registerRow current payload sender prefetched now = .ok row) :
    Submitted current row := by
  unfold registerRow at registered
  obtain ⟨-, registered⟩ := Outcome.guard_ok registered
  split at registered
  · cases registered
  split at registered
  · cases registered
  simp only at registered
  obtain ⟨-, registered⟩ := Outcome.guard_ok registered
  obtain ⟨-, registered⟩ := Outcome.guard_ok registered
  split at registered
  · cases registered
  obtain ⟨advances, registered⟩ := Outcome.guard_ok registered
  obtain ⟨-, applied⟩ := Outcome.guard_ok registered
  refine applyToRow_submitted applied ?_
  rintro old ⟨⟩ lives
  simpa [lives] using advances

theorem syncRow_submitted {current : Option ListingRow} {payload : PublicListing}
    {row : ListingRow} (synced : syncRow current payload now = .ok row) :
    Submitted current row := by
  cases current with
  | none =>
      refine applyToRow_submitted (Outcome.guard_ok synced).2 ?_
      intro old present
      cases present
  | some old =>
      simp only [syncRow] at synced
      have confirms : old.isLive = true → Submitted (some old) old.confirmed := by
        intro lives
        refine ⟨lives, rfl, ?_, ?_⟩
        · rintro _ ⟨⟩
          rw [if_pos lives]
          rfl
        · rintro _ ⟨⟩ -
          exact .inr ⟨rfl, rfl⟩
      split at synced
      · rename_i dead
        refine applyToRow_submitted (Outcome.guard_ok synced).2 ?_
        rintro _ ⟨⟩ lives
        rw [lives] at dead
        cases dead
      rename_i alive
      have lives : old.isLive = true := by simpa using alive
      split at synced
      · have confirmed := (Outcome.guard_ok synced).2
        cases confirmed
        exact confirms lives
      obtain ⟨-, synced⟩ := Outcome.guard_ok synced
      split at synced
      · rename_i advances
        refine applyToRow_submitted synced ?_
        rintro _ ⟨⟩ -
        exact advances
      split at synced
      · rename_i heals
        cases synced
        refine ⟨lives, rfl, ?_, ?_⟩
        · rintro _ ⟨⟩
          rw [if_pos lives]
          rfl
        · rintro _ ⟨⟩ -
          left
          intro same
          simp only [ListingRow.record, ListingRow.healed, RecordColumns.mk.injEq] at same
          obtain ⟨-, -, -, -, shipping, methods, lock⟩ := same
          rcases heals.2 with other | other | other
          · exact other shipping
          · exact other methods
          · exact other lock
      · cases synced
        exact confirms lives

theorem recordWrite_step {store : Storefront} {activity : Activity} {key : RecordKey}
    {row : ListingRow} (written : store.recordWrite activity = some (key, row)) :
    RecordStep (store.rows.find? key) row := by
  unfold Storefront.recordWrite at written
  split at written
  · simp only at written
    split at written
    · rename_i registered
      obtain ⟨stored, passed, same⟩ := Option.map_eq_some_iff.mp written
      cases same
      exact storeRow_recorded (registerRow_submitted registered) passed
    · cases written
  · simp only at written
    split at written
    · rename_i synced
      obtain ⟨stored, passed, same⟩ := Option.map_eq_some_iff.mp written
      cases same
      obtain ⟨payload, -, applied⟩ := Outcome.bind_ok synced
      exact storeRow_recorded (syncRow_submitted applied) passed
    · cases written
  · cases written

/-! Tombstones. -/

/-- A tombstone that was written passed the fence. -/
structure Buried (authority : DeletionAuthority) (lease : Option Lease)
    (current : Option ListingRow) (eventCursor : Cursor) (observedEpoch : ℕ) (row : ListingRow) :
    Prop where
  before : ∃ old, current = some old ∧ old.isLive = true ∧ old.recordEpoch = observedEpoch ∧
    (∀ marker ∈ old.revivedFromCursor, marker ≤ eventCursor) ∧
    row.recordEpoch = old.recordEpoch ∧ row.revivedFromCursor = old.revivedFromCursor ∧
    row.listing.generation = old.listing.generation
  authorized : authority.holds lease = true
  dead : row.isLive = false
  evidence : row.deletedEventCursor = some eventCursor

theorem tombstoneRow_written {authority : DeletionAuthority} {current : Option ListingRow}
    {eventCursor : Cursor} {observedEpoch : ℕ} {row : ListingRow}
    (written : tombstoneRow authority lease current eventCursor observedEpoch now =
      .written row) : Buried authority lease current eventCursor observedEpoch row := by
  cases current with
  | none => cases written
  | some old =>
      simp only [tombstoneRow] at written
      split at written
      · rename_i fenced
        simp only [tombstoneFence, Bool.and_eq_true, beq_iff_eq, Bool.not_eq_true'] at fenced
        obtain ⟨lives, epoch, ahead⟩ := fenced
        split at written
        · rename_i deleted updated
          cases written
          obtain ⟨guarded, passed, rfl⟩ := Option.map_eq_some_iff.mp updated
          have dies : (old.deleted eventCursor now).isLive = false := rfl
          have marker : (old.deleted eventCursor now).revivedFromCursor =
            old.revivedFromCursor := rfl
          rw [deletionGuard, marker, markerBehind_self, if_neg Bool.false_ne_true] at passed
          simp only [lives, dies, Bool.not_true, Bool.false_and, Bool.not_false, Bool.and_true,
            Bool.false_eq_true, if_false, if_true] at passed
          split at passed
          · cases passed
          rename_i authorized
          split at passed
          · cases passed
          split at passed
          · cases passed
          cases passed
          have trigger : recordEpochTrigger old (old.deleted eventCursor now) =
              old.deleted eventCursor now := by
            unfold recordEpochTrigger
            have unmoved : (old.deleted eventCursor now).recordEpoch ≠ old.recordEpoch + 1 :=
              Nat.ne_of_lt (Nat.lt_succ_self _)
            have same : ¬ ((!old.isLive && (old.deleted eventCursor now).isLive) = true ∨
                (old.deleted eventCursor now).record ≠ old.record) := by
              rw [dies, Bool.and_false]
              rintro (never | differs)
              · cases never
              · exact differs rfl
            rw [if_neg same, if_pos unmoved]
            rfl
          rw [trigger]
          refine ⟨⟨old, rfl, lives, epoch, ?_, rfl, rfl, rfl⟩, ?_, rfl, rfl⟩
          · intro cursor named
            obtain ⟨later, same, after⟩ := ahead_of_not_behind ahead named
            cases same
            exact after
          · simpa using authorized
        · cases written
      · cases written

end MarketplaceService
