import MarketplaceService.PickupVault

/-!
The pickup rows under re-seal passes and their writers. The pass writes a row
back without looking at the ciphertext it replaces. That is sound because no
writer ever replaces a row: a listing's versions are numbered by a counter that
outlives the rows, and an order is pinned once. What stands at a position and
version opens to the plaintext that was read there.
-/

namespace MarketplaceService

section Opened

variable (aead : Aead) (keys : RotatingKeys)

def SealedSnapshot.opened (key : OrderId × ℕ) (row : SealedSnapshot Bytes) :
    SealedSnapshot (Option Bytes) where
  listing := row.listing
  version := row.version
  snapshot := keys.openSealed aead (snapshotAad key.1 key.2 row.version) row.snapshot

def PickupVault.opened (vault : PickupVault Bytes) : PickupVault (Option Bytes) where
  details := vault.details.image fun key => keys.openSealed aead (detailsAad key.1 key.2)
  counters := vault.counters
  snapshots := vault.snapshots.image fun key row => row.opened aead keys key
  confirmed := vault.confirmed

end Opened

namespace PickupVault

variable {aead : Aead} {keys : RotatingKeys}

/-! A writer does to the opened rows what it does where nothing is sealed. -/

theorem opened_maxVersion (vault : PickupVault Bytes) (listing : ListingId) :
    (vault.opened aead keys).maxVersion listing = vault.maxVersion listing := by
  simp only [maxVersion, opened, Keyed.Table.image, List.filter_map, List.map_map]
  rfl

theorem opened_currentDetails (vault : PickupVault Bytes) (listing : ListingId) :
    (vault.opened aead keys).currentDetails listing =
      (vault.currentDetails listing).map fun current =>
        (current.1, keys.openSealed aead (detailsAad listing current.1) current.2) := by
  unfold currentDetails
  rw [opened_maxVersion,
    show (vault.opened aead keys).cleared listing = vault.cleared listing from rfl]
  split
  · rfl
  · cases vault.maxVersion listing with
    | none => rfl
    | some version =>
        simp only [Option.bind_some, opened, Keyed.Table.find?_image, Option.map_map]
        rfl

theorem opened_referenced (vault : PickupVault Bytes) (counts : OrderId → Bool)
    (key : ListingId × ℕ) :
    (vault.opened aead keys).referenced counts key = vault.referenced counts key := by
  simp only [referenced, opened, Keyed.Table.image, List.any_map]
  rfl

theorem opened_set {vault after : PickupVault Bytes} {listing : ListingId} {expectedVersion : ℕ}
    {details : Bytes} {nonce : XNonce}
    (ran : vault.set (sealedCoder aead keys) listing expectedVersion details nonce = some after) :
    (vault.opened aead keys).set plainCoder listing expectedVersion details nonce =
      some (after.opened aead keys) := by
  unfold set at ran ⊢
  obtain ⟨last, found, tail⟩ := Option.bind_eq_some_iff.mp ran
  have same : (vault.opened aead keys).lockCounterCas listing expectedVersion = some last := found
  rw [same, Option.bind_some]
  split at tail
  · cases tail
  · rename_i room
    cases tail
    have free : ¬ ((vault.opened aead keys).details.find? (listing, last + 1)).isSome = true := by
      simp only [opened, Keyed.Table.find?_image, Option.isSome_map]
      exact room
    rw [if_neg free]
    simp only [opened, Keyed.Table.image_set, sealedCoder, plainCoder, RotatingKeys.open_fresh]

theorem opened_clear {vault after : PickupVault Bytes} {listing : ListingId} {expectedVersion : ℕ}
    {live : OrderId → Bool} {now : Time}
    (ran : vault.clear listing expectedVersion live now = some after) :
    (vault.opened aead keys).clear listing expectedVersion live now =
      some (after.opened aead keys) := by
  unfold clear at ran ⊢
  obtain ⟨last, found, rfl⟩ := Option.map_eq_some_iff.mp ran
  have same : (vault.opened aead keys).lockCounterCas listing expectedVersion = some last := found
  rw [same, Option.map_some]
  refine congrArg some ?_
  simp only [opened]
  rw [Keyed.Table.image_keepRows vault.details _ _
    (fun key _ => key.1 != listing || (vault.opened aead keys).referenced live key)]
  · rfl
  · intro key row
    rw [opened_referenced]

theorem opened_pinLine {vault after : PickupVault Bytes} {order : OrderId}
    {line : ℕ × ListingId × XNonce}
    (ran : vault.pinLine (sealedCoder aead keys) order line = some after) :
    (vault.opened aead keys).pinLine plainCoder order line = some (after.opened aead keys) := by
  unfold pinLine at ran ⊢
  rw [opened_currentDetails]
  cases current : vault.currentDetails line.2.1 with
  | none =>
      simp only [current] at ran
      cases ran
      rfl
  | some found =>
      obtain ⟨version, details⟩ := found
      simp only [current] at ran
      obtain ⟨plaintext, opens, rfl⟩ := Option.map_eq_some_iff.mp ran
      have payload : keys.openSealed aead (detailsAad line.2.1 version) details = some plaintext :=
        opens
      simp only [Option.map_some, payload, plainCoder]
      refine congrArg some ?_
      simp only [opened, Keyed.Table.find?_image, Option.isSome_map]
      split
      · rfl
      · simp only [Keyed.Table.image_set]
        simp only [SealedSnapshot.opened, sealedCoder, RotatingKeys.open_fresh]

theorem opened_purgeSnapshots (vault : PickupVault Bytes) (due : OrderId → Bool) :
    (vault.opened aead keys).purgeSnapshots due = (vault.purgeSnapshots due).opened aead keys := by
  simp only [purgeSnapshots, opened]
  rw [Keyed.Table.image_keepRows vault.snapshots _ _ fun key _ => !due key.1]
  exact fun _ _ => rfl

theorem opened_purgeVersions (vault : PickupVault Bytes) :
    (vault.opened aead keys).purgeVersions = vault.purgeVersions.opened aead keys := by
  simp only [purgeVersions, opened_maxVersion, opened_referenced,
    show ∀ listing, (vault.opened aead keys).cleared listing = vault.cleared listing from
      fun _ => rfl]
  simp only [opened]
  rw [Keyed.Table.image_keepRows vault.details _ _ fun key _ =>
    vault.referenced (fun _ => true) key ||
      !(vault.cleared key.1 || (vault.maxVersion key.1).any fun latest => key.2 < latest)]
  exact fun _ _ => rfl

/-! What stands at a position. -/

section Entries

variable {π : Type}

/-- The version and the payload at a position. -/
def entry (vault : PickupVault π) (position : PickupPosition) : Option (ℕ × π) :=
  match position with
  | .details key => (vault.details.find? key).map fun details => (key.2, details)
  | .snapshot key => (vault.snapshots.find? key).map fun row => (row.version, row.snapshot)

/-- A position that a writer has filled at some time. -/
def Used (vault : PickupVault π) (position : PickupPosition) : Prop :=
  match position with
  | .details key => key.2 ≤ vault.lastVersion key.1
  | .snapshot key => key.1 ∈ vault.confirmed

/-- The counters number the versions, and a pinned order is confirmed. -/
def Sound (vault : PickupVault π) : Prop :=
  ∀ position, (vault.entry position).isSome → vault.Used position

end Entries

variable (aead keys) in
/-- What a writer may do to the rows: it deletes them, or fills a position that
was never used with a payload under the current key. -/
structure Rewrites (before after : PickupVault Bytes) : Prop where
  used : ∀ position, before.Used position → after.Used position
  entry : ∀ position version payload, after.entry position = some (version, payload) →
    before.entry position = some (version, payload) ∨
      ¬ before.Used position ∧ after.Used position ∧
        keys.opensUnderCurrent aead (position.aad version) payload = true

namespace Rewrites

variable {before middle after : PickupVault Bytes}

theorem sound (rewrites : Rewrites aead keys before after) (sound : before.Sound) :
    after.Sound := by
  intro position present
  obtain ⟨⟨version, payload⟩, found⟩ := Option.isSome_iff_exists.mp present
  rcases rewrites.entry position version payload found with stood | ⟨-, used, -⟩
  · exact rewrites.used position (sound position (by rw [stood]; rfl))
  · exact used

end Rewrites

theorem Rewrites.of_deletes {before after : PickupVault Bytes}
    (used : ∀ position, before.Used position → after.Used position)
    (deletes : ∀ position version payload, after.entry position = some (version, payload) →
      before.entry position = some (version, payload)) : Rewrites aead keys before after :=
  ⟨used, fun position version payload found => .inl (deletes position version payload found)⟩

theorem lastVersion_set (vault : PickupVault Bytes) (details : Keyed.Table (ListingId × ℕ) Bytes)
    (listing other : ListingId) (counter : PickupCounter) :
    PickupVault.lastVersion
        { vault with details := details, counters := vault.counters.set listing counter } other =
      if other = listing then counter.lastVersion else vault.lastVersion other := by
  simp only [lastVersion, Keyed.Table.find?_set]
  split <;> rfl

theorem lockCounterCas_some {vault : PickupVault Bytes} {listing : ListingId}
    {expectedVersion last : ℕ} (found : vault.lockCounterCas listing expectedVersion = some last) :
    last = vault.lastVersion listing := by
  unfold lockCounterCas at found
  split at found
  · exact (Option.some.inj found).symm
  · cases found

theorem set_rewrites {vault after : PickupVault Bytes} {listing : ListingId} {expectedVersion : ℕ}
    {details : Bytes} {nonce : XNonce}
    (ran : vault.set (sealedCoder aead keys) listing expectedVersion details nonce = some after) :
    Rewrites aead keys vault after := by
  obtain ⟨last, locked, tail⟩ := Option.bind_eq_some_iff.mp ran
  have counted := lockCounterCas_some locked
  split at tail
  · cases tail
  · cases tail
    refine ⟨fun position used => ?_, fun position version payload found => ?_⟩
    · cases position with
      | details key =>
          simp only [Used, lastVersion_set] at used ⊢
          split
          · rename_i same
            rw [same, ← counted] at used
            exact le_trans used (Nat.le_succ last)
          · exact used
      | snapshot key => exact used
    · cases position with
      | details key =>
          simp only [entry, Keyed.Table.find?_set] at found
          split at found
          · rename_i same
            subst same
            obtain ⟨rfl, rfl⟩ := Prod.mk.injEq _ _ _ _ ▸ Option.some.inj found
            refine .inr ⟨?_, ?_, RotatingKeys.opensUnderCurrent_fresh nonce⟩
            · simp only [Used, ← counted]
              exact Nat.not_succ_le_self last
            · simp only [Used, lastVersion_set, if_true, le_refl]
          · exact .inl found
      | snapshot key => exact .inl found

theorem clear_rewrites {vault after : PickupVault Bytes} {listing : ListingId}
    {expectedVersion : ℕ} {live : OrderId → Bool} {now : Time}
    (ran : vault.clear listing expectedVersion live now = some after) :
    Rewrites aead keys vault after := by
  obtain ⟨last, locked, rfl⟩ := Option.map_eq_some_iff.mp ran
  have counted := lockCounterCas_some locked
  refine .of_deletes (fun position used => ?_) fun position version payload found => ?_
  · cases position with
    | details key =>
        simp only [Used, lastVersion_set] at used ⊢
        split
        · rename_i same
          rwa [same, ← counted] at used
        · exact used
    | snapshot key => exact used
  · cases position with
    | details key =>
        simp only [entry, Keyed.Table.find?_keepRows] at found ⊢
        obtain ⟨details, stands, shape⟩ := Option.map_eq_some_iff.mp found
        rw [(Option.filter_eq_some_iff.mp stands).1]
        exact congrArg some shape
    | snapshot key => exact found

theorem purgeSnapshots_rewrites (vault : PickupVault Bytes) (due : OrderId → Bool) :
    Rewrites aead keys vault (vault.purgeSnapshots due) := by
  refine .of_deletes (fun position used => ?_) fun position version payload found => ?_
  · cases position with
    | details key => exact used
    | snapshot key => exact used
  · cases position with
    | details key => exact found
    | snapshot key =>
        simp only [entry, purgeSnapshots, Keyed.Table.find?_keepRows] at found ⊢
        obtain ⟨row, stands, shape⟩ := Option.map_eq_some_iff.mp found
        rw [(Option.filter_eq_some_iff.mp stands).1]
        exact congrArg some shape

theorem purgeVersions_rewrites (vault : PickupVault Bytes) :
    Rewrites aead keys vault vault.purgeVersions := by
  refine .of_deletes (fun position used => ?_) fun position version payload found => ?_
  · cases position with
    | details key => exact used
    | snapshot key => exact used
  · cases position with
    | details key =>
        simp only [entry, purgeVersions, Keyed.Table.find?_keepRows] at found ⊢
        obtain ⟨details, stands, shape⟩ := Option.map_eq_some_iff.mp found
        rw [(Option.filter_eq_some_iff.mp stands).1]
        exact congrArg some shape
    | snapshot key => exact found

variable (aead keys) in
/-- The lines of one confirmation, from the vault before it: only snapshots of
its order are new. -/
structure Pins (order : OrderId) (before after : PickupVault Bytes) : Prop where
  details : after.details = before.details
  counters : after.counters = before.counters
  confirmed : after.confirmed = before.confirmed
  snapshot : ∀ key row, after.snapshots.find? key = some row →
    before.snapshots.find? key = some row ∨
      key.1 = order ∧
        keys.opensUnderCurrent aead (snapshotAad key.1 key.2 row.version) row.snapshot = true

theorem pinLine_pins {vault after : PickupVault Bytes} {order : OrderId}
    {line : ℕ × ListingId × XNonce}
    (ran : vault.pinLine (sealedCoder aead keys) order line = some after) :
    Pins aead keys order vault after := by
  unfold pinLine at ran
  split at ran
  · cases ran
    exact ⟨rfl, rfl, rfl, fun _ _ found => .inl found⟩
  · obtain ⟨plaintext, -, rfl⟩ := Option.map_eq_some_iff.mp ran
    split
    · exact ⟨rfl, rfl, rfl, fun _ _ found => .inl found⟩
    · refine ⟨rfl, rfl, rfl, fun key row found => ?_⟩
      rw [Keyed.Table.find?_set] at found
      split at found
      · rename_i same
        subst same
        obtain rfl := Option.some.inj found
        exact .inr ⟨rfl, RotatingKeys.opensUnderCurrent_fresh line.2.2⟩
      · exact .inl found

theorem pinLines_sealed {order : OrderId} {lines : List (ℕ × ListingId × XNonce)} :
    ∀ {vault after : PickupVault Bytes},
      lines.foldlM (pinLine (sealedCoder aead keys) order) vault = some after →
      Pins aead keys order vault after ∧
        lines.foldlM (pinLine plainCoder order) (vault.opened aead keys) =
          some (after.opened aead keys) := by
  induction lines with
  | nil =>
      intro vault after ran
      cases ran
      exact ⟨⟨rfl, rfl, rfl, fun _ _ found => .inl found⟩, rfl⟩
  | cons line rest ih =>
      intro vault after ran
      obtain ⟨middle, first, tail⟩ := Option.bind_eq_some_iff.mp ran
      have pins := pinLine_pins first
      obtain ⟨others, plain⟩ := ih tail
      refine ⟨⟨others.details.trans pins.details, others.counters.trans pins.counters,
        others.confirmed.trans pins.confirmed, fun key row found => ?_⟩, ?_⟩
      · rcases others.snapshot key row found with stood | fresh
        · exact pins.snapshot key row stood
        · exact .inr fresh
      · rw [List.foldlM_cons, opened_pinLine first]
        exact plain

theorem pinPickupLines_sealed {vault after : PickupVault Bytes} {order : OrderId}
    {lines : List (ℕ × ListingId × XNonce)}
    (ran : vault.pinPickupLines (sealedCoder aead keys) order lines = some after) :
    Rewrites aead keys vault after ∧
      (vault.opened aead keys).pinPickupLines plainCoder order lines =
        some (after.opened aead keys) := by
  unfold pinPickupLines at ran ⊢
  split at ran
  · cases ran
  · rename_i unpinned
    obtain ⟨pins, plain⟩ := pinLines_sealed ran
    rw [if_neg (show order ∉ (vault.opened aead keys).confirmed from unpinned)]
    refine ⟨⟨fun position used => ?_, fun position version payload found => ?_⟩, plain⟩
    · cases position with
      | details key =>
          simp only [Used, lastVersion, pins.counters] at used ⊢
          exact used
      | snapshot key =>
          simp only [Used, pins.confirmed] at used ⊢
          exact List.mem_cons_of_mem _ used
    · cases position with
      | details key =>
          simp only [entry, pins.details] at found ⊢
          exact .inl found
      | snapshot key =>
          obtain ⟨row, stands, shape⟩ := Option.map_eq_some_iff.mp found
          obtain ⟨rfl, rfl⟩ := Prod.mk.injEq _ _ _ _ ▸ shape
          rcases pins.snapshot key row stands with stood | ⟨mine, fresh⟩
          · exact .inl (congrArg (Option.map _) stood)
          · refine .inr ⟨?_, ?_, fresh⟩
            · simp only [Used, mine]
              exact unpinned
            · simp only [Used, mine, pins.confirmed]
              exact List.mem_cons_self

theorem apply_sealed {vault after : PickupVault Bytes} {writer : PickupWriter}
    (ran : vault.apply (sealedCoder aead keys) writer = some after) :
    Rewrites aead keys vault after ∧
      (vault.opened aead keys).apply plainCoder writer = some (after.opened aead keys) := by
  cases writer with
  | set listing expectedVersion details nonce => exact ⟨set_rewrites ran, opened_set ran⟩
  | clear listing expectedVersion live now => exact ⟨clear_rewrites ran, opened_clear ran⟩
  | pinPickupLines order lines => exact pinPickupLines_sealed ran
  | purgeSnapshots due =>
      obtain rfl := Option.some.inj ran
      exact ⟨purgeSnapshots_rewrites _ due, congrArg some (opened_purgeSnapshots _ due)⟩
  | purgeVersions =>
      obtain rfl := Option.some.inj ran
      exact ⟨purgeVersions_rewrites _, congrArg some (opened_purgeVersions _)⟩

/-! The pass. -/

theorem mem_familyRows {vault : PickupVault Bytes} {family : PickupFamily} {row : PickupRow} :
    row ∈ vault.familyRows family ↔
      row.position.family = family ∧
        vault.entry row.position = some (row.version, row.ciphertext) := by
  obtain ⟨position, version, ciphertext⟩ := row
  cases family with
  | details =>
      simp only [familyRows, List.mem_map, PickupRow.mk.injEq]
      constructor
      · rintro ⟨⟨key, payload⟩, member, rfl, rfl, rfl⟩
        exact ⟨rfl, congrArg (Option.map _) (vault.details.mem_rows_iff.mp member)⟩
      · rintro ⟨here, found⟩
        cases position with
        | details key =>
            obtain ⟨payload, stands, shape⟩ := Option.map_eq_some_iff.mp found
            cases shape
            exact ⟨(key, _), vault.details.mem_rows_iff.mpr stands, rfl, rfl, rfl⟩
        | snapshot key => cases here
  | snapshot =>
      simp only [familyRows, List.mem_map, PickupRow.mk.injEq]
      constructor
      · rintro ⟨⟨key, payload⟩, member, rfl, rfl, rfl⟩
        exact ⟨rfl, congrArg (Option.map _) (vault.snapshots.mem_rows_iff.mp member)⟩
      · rintro ⟨here, found⟩
        cases position with
        | details key => cases here
        | snapshot key =>
            obtain ⟨payload, stands, shape⟩ := Option.map_eq_some_iff.mp found
            cases shape
            exact ⟨(key, _), vault.snapshots.mem_rows_iff.mpr stands, rfl, rfl, rfl⟩

variable (aead keys) in
/-- A row was read at this position: the position is used, and what stands there
at the version that was read opens to the same plaintext. -/
structure Held (vault : PickupVault Bytes) (family : PickupFamily) (row : PickupRow) : Prop where
  family : row.position.family = family
  version : ∀ key, row.position = .details key → row.version = key.2
  used : vault.Used row.position
  plaintext : ∀ payload, vault.entry row.position = some (row.version, payload) →
    keys.openSealed aead (row.position.aad row.version) payload =
      keys.openSealed aead (row.position.aad row.version) row.ciphertext

theorem Rewrites.keeps {before after : PickupVault Bytes}
    (rewrites : Rewrites aead keys before after) (sound : before.Sound) :
    pickupTarget.Keeps aead keys Sound (Held aead keys) before after := by
  refine ⟨rewrites.sound sound, fun family row held =>
    ⟨held.family, held.version, rewrites.used _ held.used, ?_⟩, ?_⟩
  · intro payload found
    rcases rewrites.entry row.position row.version payload found with stood | ⟨unused, -, -⟩
    · exact held.plaintext payload stood
    · exact absurd held.used unused
  · intro family row member
    obtain ⟨here, found⟩ := mem_familyRows.mp member
    rcases rewrites.entry row.position row.version row.ciphertext found with stood | ⟨-, -, fresh⟩
    · exact .inl (mem_familyRows.mpr ⟨here, stood⟩)
    · exact .inr fresh

variable (aead keys) in
/-- One row holds a new ciphertext; everything else stands. -/
structure Replaced (before after : PickupVault Bytes) (row : PickupRow) (resealed : Bytes) :
    Prop where
  used : ∀ position, after.Used position ↔ before.Used position
  entry : ∀ position, after.entry position =
    if position = row.position then some (row.version, resealed) else before.entry position
  stood : ∃ payload, before.entry row.position = some (row.version, payload)
  opened : after.opened aead keys = before.opened aead keys

theorem writeResealed_cases {vault : PickupVault Bytes} {family : PickupFamily} {row : PickupRow}
    {resealed : Bytes} (held : vault.Held aead keys family row)
    (opens : keys.openSealed aead (row.position.aad row.version) resealed =
      keys.openSealed aead (row.position.aad row.version) row.ciphertext) :
    (vault.entry row.position ≠ some (row.version, row.ciphertext) ∧
        (vault.writeResealed family row resealed).1 = vault) ∨
      Replaced aead keys vault (vault.writeResealed family row resealed).1 row resealed := by
  obtain ⟨position, version, ciphertext⟩ := row
  cases position with
  | details key =>
      cases stored : vault.details.find? key with
      | none => exact .inl ⟨by simp [entry, stored], by simp [writeResealed, stored]⟩
      | some payload =>
          right
          obtain rfl : version = key.2 := held.version key rfl
          have after : (vault.writeResealed family ⟨.details key, key.2, ciphertext⟩ resealed).1 =
              { vault with details := vault.details.set key resealed } := by
            simp [writeResealed, stored]
          have old := held.plaintext payload (by simp [entry, stored])
          rw [after]
          refine ⟨fun position => ?_, fun position => ?_, ⟨payload, by simp [entry, stored]⟩, ?_⟩
          · cases position with
            | details other => rfl
            | snapshot other => rfl
          · cases position with
            | details other =>
                simp only [entry, Keyed.Table.find?_set, PickupPosition.details.injEq]
                split
                · rename_i at_
                  subst at_
                  rfl
                · rfl
            | snapshot other => rfl
          · have kept : (vault.details.set key resealed).image
                (fun key => keys.openSealed aead (detailsAad key.1 key.2)) =
                  vault.details.image fun key => keys.openSealed aead (detailsAad key.1 key.2) :=
              Keyed.Table.image_set_same _ _ stored (opens.trans old.symm)
            simp only [opened, kept]
  | snapshot key =>
      cases stored : vault.snapshots.find? key with
      | none => exact .inl ⟨by simp [entry, stored], by simp [writeResealed, stored]⟩
      | some found =>
          by_cases same : found.version = version
          · right
            subst same
            have after : (vault.writeResealed family ⟨.snapshot key, found.version, ciphertext⟩
                resealed).1 =
                  { vault with
                    snapshots := vault.snapshots.set key { found with snapshot := resealed } } := by
              simp [writeResealed, stored]
            have old := held.plaintext found.snapshot (by simp [entry, stored])
            rw [after]
            refine ⟨fun position => ?_, fun position => ?_,
              ⟨found.snapshot, by simp [entry, stored]⟩,
              ?_⟩
            · cases position with
              | details other => rfl
              | snapshot other => rfl
            · cases position with
              | details other => rfl
              | snapshot other =>
                  simp only [entry, Keyed.Table.find?_set, PickupPosition.snapshot.injEq]
                  split
                  · rfl
                  · rfl
            · have kept : (vault.snapshots.set key { found with snapshot := resealed }).image
                  (fun key row => row.opened aead keys key) =
                    vault.snapshots.image fun key row => row.opened aead keys key :=
                Keyed.Table.image_set_same _ _ stored (by
                  simp only [SealedSnapshot.opened, SealedSnapshot.mk.injEq, true_and]
                  exact opens.trans old.symm)
              simp only [opened, kept]
          · exact .inl ⟨by simp [entry, stored, same], by simp [writeResealed, stored, same]⟩

theorem Replaced.keeps {before after : PickupVault Bytes} {family : PickupFamily} {row : PickupRow}
    {resealed : Bytes} (replaced : Replaced aead keys before after row resealed)
    (sound : before.Sound) (held : before.Held aead keys family row)
    (opens : keys.openSealed aead (row.position.aad row.version) resealed =
      keys.openSealed aead (row.position.aad row.version) row.ciphertext)
    (fresh : keys.opensUnderCurrent aead (row.position.aad row.version) resealed = true) :
    pickupTarget.Keeps aead keys Sound (Held aead keys) before after := by
  refine ⟨fun position present => ?_, fun family other read => ?_, fun family other member => ?_⟩
  · rw [replaced.used]
    rw [replaced.entry] at present
    split at present
    · rename_i here
      exact here ▸ held.used
    · exact sound position present
  · refine ⟨read.family, read.version, (replaced.used _).mpr read.used, fun payload found => ?_⟩
    rw [replaced.entry] at found
    split at found
    · rename_i here
      obtain ⟨versions, rfl⟩ := Prod.mk.injEq _ _ _ _ ▸ Option.some.inj found
      obtain ⟨old, stood⟩ := replaced.stood
      have mine := held.plaintext old stood
      have theirs := read.plaintext old (by rw [here, ← versions]; exact stood)
      rw [here, ← versions] at theirs ⊢
      exact opens.trans (mine.symm.trans theirs)
    · exact read.plaintext payload found
  · obtain ⟨here, found⟩ := mem_familyRows.mp member
    rw [replaced.entry] at found
    split at found
    · rename_i at_
      obtain ⟨versions, rfl⟩ := Prod.mk.injEq _ _ _ _ ▸ Option.some.inj found
      right
      show keys.opensUnderCurrent aead (other.position.aad other.version) other.ciphertext = true
      rw [at_, ← versions]
      exact fresh
    · exact .inl (mem_familyRows.mpr ⟨here, found⟩)

theorem familyRows_distinct (vault : PickupVault Bytes) (family : PickupFamily) :
    ((vault.familyRows family).map PickupRow.position).Nodup := by
  cases family with
  | details =>
      rw [familyRows, List.map_map]
      have distinct := vault.details.nodup.map (f := PickupPosition.details)
        fun _ _ same => PickupPosition.details.inj same
      rwa [List.map_map] at distinct
  | snapshot =>
      rw [familyRows, List.map_map]
      have distinct := vault.snapshots.nodup.map (f := PickupPosition.snapshot)
        fun _ _ same => PickupPosition.snapshot.inj same
      rwa [List.map_map] at distinct

theorem pickup_law (aead : Aead) (keys : RotatingKeys) :
    pickupTarget.Law aead keys Sound (Held aead keys)
      (fun vault writer => vault.apply (sealedCoder aead keys) writer)
      (fun vault => vault.opened aead keys)
      (fun vault writer => vault.apply plainCoder writer) where
  every family := by cases family <;> decide
  distinct vault family := familyRows_distinct vault family
  ahead vault family row _ := nofun
  read vault family row sound member := by
    obtain ⟨here, found⟩ := mem_familyRows.mp member
    refine ⟨here, fun key at_ => ?_, sound row.position (by rw [found]; rfl),
      fun payload entered => ?_⟩
    · rw [at_] at found
      obtain ⟨payload, -, shape⟩ := Option.map_eq_some_iff.mp found
      exact (Prod.mk.inj shape).1.symm
    · rw [found] at entered
      rw [(Prod.mk.inj (Option.some.inj entered)).2]
  writes sound ran := by
    obtain ⟨rewrites, plain⟩ := apply_sealed ran
    exact ⟨rewrites.keeps sound, plain⟩
  reseals := by
    intro vault family row plaintext nonce sound held stale old
    have dead : keys.opensUnderCurrent aead (row.position.aad row.version) row.ciphertext = false :=
      Bool.eq_false_iff.mpr stale
    have opens : keys.openSealed aead (row.position.aad row.version)
        (keys.sealBytes aead nonce (row.position.aad row.version) plaintext) =
          keys.openSealed aead (row.position.aad row.version) row.ciphertext := by
      rw [RotatingKeys.open_of_previous dead old, RotatingKeys.open_fresh]
    rcases writeResealed_cases held opens with ⟨changed, same⟩ | replaced
    · have unchanged : (pickupTarget.write vault family row
          (keys.sealBytes aead nonce (pickupTarget.aad row) plaintext)).1 = vault := same
      simp only [unchanged]
      exact ⟨.refl sound, trivial, fun member => changed (mem_familyRows.mp member).2⟩
    · refine ⟨replaced.keeps sound held opens (RotatingKeys.opensUnderCurrent_fresh nonce),
        replaced.opened, fun member => stale ?_⟩
      have found := (mem_familyRows.mp member).2
      have here := replaced.entry row.position
      rw [if_pos rfl] at here
      have written : row.ciphertext =
          keys.sealBytes aead nonce (row.position.aad row.version) plaintext := by
        simpa using found.symm.trans here
      show keys.opensUnderCurrent aead (row.position.aad row.version) row.ciphertext = true
      rw [written]
      exact RotatingKeys.opensUnderCurrent_fresh nonce

end PickupVault

end MarketplaceService
