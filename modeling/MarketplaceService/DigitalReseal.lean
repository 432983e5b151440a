import MarketplaceService.DigitalVault

/-!
The digital rows under re-seal passes and their writers. A writer seals what it
writes under the current key and gives a row the associated data it keeps; a
pass that still finds the ciphertext it read writes the same plaintext back.
So the opened rows are at any time those of the writers alone.
-/

namespace MarketplaceService

section Opened

variable (aead : Aead) (keys : RotatingKeys)

def SealedVersion.opened (row : SealedVersion Bytes) : SealedVersion (Option Bytes) where
  listing := row.listing
  deliverableId := row.deliverableId
  version := row.version
  kind := row.kind
  payload := keys.openSealed aead row.aad row.payload
  supersededAt := row.supersededAt

def SealedPin.opened (row : SealedPin Bytes) : SealedPin (Option Bytes) where
  order := row.order
  lineIndex := row.lineIndex
  listing := row.listing
  deliverableId := row.deliverableId
  version := row.version
  kind := row.kind
  payload := keys.openSealed aead row.aad row.payload

def SealedEmail.opened (row : SealedEmail Bytes) : SealedEmail (Option Bytes) where
  order := row.order
  buyerPubky := row.buyerPubky
  email := row.email.map (keys.openSealed aead row.aad)
  purgedAt := row.purgedAt

def DigitalVault.opened (vault : DigitalVault Bytes) : DigitalVault (Option Bytes) where
  versions := vault.versions.image fun _ row => row.opened aead keys
  counters := vault.counters
  pins := vault.pins.image fun _ row => row.opened aead keys
  emails := vault.emails.image fun _ row => row.opened aead keys
  drawn := vault.drawn

end Opened

namespace DigitalVault

variable {aead : Aead} {keys : RotatingKeys} {buyer : OrderId → Pubky}

/-! A writer does to the opened rows what it does where nothing is sealed. -/

theorem opened_pinnedByLive (vault : DigitalVault Bytes) (live : OrderId → Bool)
    (row : SealedVersion Bytes) :
    (vault.opened aead keys).pinnedByLive live (row.opened aead keys) =
      vault.pinnedByLive live row := by
  simp only [pinnedByLive, opened, Keyed.Table.image, List.any_map]
  rfl

theorem opened_supersedeVersions (vault : DigitalVault Bytes) (listing : ListingId)
    (live : OrderId → Bool) (now : Time) :
    (vault.supersedeVersions listing live now).image (fun _ row => row.opened aead keys) =
      (vault.opened aead keys).supersedeVersions listing live now := by
  unfold supersedeVersions
  rw [Keyed.Table.image_keepRows, Keyed.Table.image_mapRows]
  · rfl
  · intro id row
    by_cases current : row.listing = listing ∧ row.supersededAt = none
    · simp [SealedVersion.opened, current.1, current.2, SealedVersion.aad]
    · simp [SealedVersion.opened, current]
  · intro id row
    rw [opened_pinnedByLive]
    rfl

theorem opened_currentVersion (vault : DigitalVault Bytes) (listing : ListingId) :
    (vault.opened aead keys).currentVersion listing =
      (vault.currentVersion listing).map (SealedVersion.opened aead keys) := by
  simp only [currentVersion, opened]
  rw [Keyed.Table.search_image vault.versions (fun _ row => row.opened aead keys)
    (fun row => row.2.listing == listing && row.2.supersededAt.isNone) _ fun row => rfl]
  simp only [Option.map_map]
  rfl

theorem opened_set {vault after : DigitalVault Bytes} {listing : ListingId} {expectedVersion : ℕ}
    {kind : DigitalDeliveryKind} {deliverableId : String} {payload : Bytes} {nonce : XNonce}
    {id : ℕ+} {live : OrderId → Bool} {now : Time}
    (ran : vault.set (sealedCoder aead keys) listing expectedVersion kind deliverableId
      payload nonce
      id live now = some after) :
    (vault.opened aead keys).set plainCoder listing expectedVersion kind deliverableId payload nonce
      id live now = some (after.opened aead keys) := by
  unfold set at ran ⊢
  split at ran
  · cases ran
  · rename_i fresh
    obtain ⟨last, found, rfl⟩ := Option.map_eq_some_iff.mp ran
    have same : (vault.opened aead keys).lockCounterCas listing expectedVersion = some last := found
    rw [if_neg (show id ∉ (vault.opened aead keys).drawn .version from fresh), same,
      Option.map_some]
    refine congrArg some ?_
    simp only [opened, Keyed.Table.image_set, opened_supersedeVersions]
    simp only [SealedVersion.opened, SealedVersion.aad, sealedCoder, plainCoder,
      RotatingKeys.open_fresh]
    rfl

theorem opened_clear {vault after : DigitalVault Bytes} {listing : ListingId}
    {expectedVersion : ℕ} {live : OrderId → Bool} {now : Time}
    (ran : vault.clear listing expectedVersion live now = some after) :
    (vault.opened aead keys).clear listing expectedVersion live now =
      some (after.opened aead keys) := by
  unfold clear at ran ⊢
  obtain ⟨last, found, rfl⟩ := Option.map_eq_some_iff.mp ran
  have same : (vault.opened aead keys).lockCounterCas listing expectedVersion = some last := found
  rw [same, Option.map_some]
  refine congrArg some ?_
  simp only [opened, opened_supersedeVersions]

theorem opened_pinLine {vault after : DigitalVault Bytes} {order : OrderId} {line : PinnedLine}
    (ran : vault.pinLine (sealedCoder aead keys) order line = some after) :
    (vault.opened aead keys).pinLine plainCoder order line = some (after.opened aead keys) := by
  unfold pinLine at ran ⊢
  split at ran
  · cases ran
  · rename_i fresh
    have room : ¬ (line.id ∈ (vault.opened aead keys).drawn .pin ∨
        ((vault.opened aead keys).pins.rows.any fun pin =>
          pin.2.order == order && pin.2.lineIndex == line.lineIndex) = true) := by
      simp only [opened, Keyed.Table.image, List.any_map]
      exact fresh
    rw [if_neg room, opened_currentVersion]
    cases current : vault.currentVersion line.listing with
    | none => simp [current] at ran
    | some row =>
        simp only [current] at ran
        split at ran
        · cases ran
        · rename_i kinds
          obtain ⟨plaintext, opens, rfl⟩ := Option.map_eq_some_iff.mp ran
          have payload : (row.opened aead keys).payload = some plaintext := opens
          simp only [Option.map_some, show (row.opened aead keys).kind = row.kind from rfl, kinds,
            if_false, plainCoder, payload]
          refine congrArg some ?_
          simp only [opened, Keyed.Table.image_set]
          simp only [SealedPin.opened, SealedPin.aad, sealedCoder, RotatingKeys.open_fresh]
          rfl

theorem opened_storeDeliveryEmail {vault after : DigitalVault Bytes} {order : OrderId}
    {email : Bytes} {nonce : XNonce} {id : ℕ+}
    (addressed : ∀ id row, vault.emails.find? id = some row → row.buyerPubky = buyer row.order)
    (ran : vault.storeDeliveryEmail buyer (sealedCoder aead keys) order email nonce id =
      some after) :
    (vault.opened aead keys).storeDeliveryEmail buyer plainCoder order email nonce id =
      some (after.opened aead keys) := by
  unfold storeDeliveryEmail at ran ⊢
  have search := Keyed.Table.search_image vault.emails (fun _ row => row.opened aead keys)
    (fun row => row.2.order == order) (fun row => row.2.order == order) fun row => rfl
  simp only [show (vault.opened aead keys).emails =
    vault.emails.image fun _ row => row.opened aead keys from rfl, search]
  cases found : vault.emails.rows.find? fun row => row.2.order == order with
  | some row =>
      simp only [found, Option.some.injEq] at ran
      subst ran
      have mine : row.2.order = order := by simpa using List.find?_some found
      have present : vault.emails.find? row.1 = some row.2 :=
        vault.emails.mem_rows_iff.mp (List.mem_of_find?_eq_some found)
      have owner : row.2.buyerPubky = buyer order := mine ▸ addressed row.1 row.2 present
      refine congrArg some ?_
      simp only [opened, Keyed.Table.image_set]
      simp only [SealedEmail.opened, SealedEmail.aad, mine, owner, sealedCoder, plainCoder,
        Option.map_some, RotatingKeys.open_fresh]
  | none =>
      simp only [found] at ran
      split at ran
      · cases ran
      · rename_i fresh
        cases ran
        simp only [Option.map_none]
        rw [if_neg (show id ∉ (vault.opened aead keys).drawn .email from fresh)]
        refine congrArg some ?_
        simp only [opened, Keyed.Table.image_set]
        simp only [SealedEmail.opened, SealedEmail.aad, sealedCoder, plainCoder, Option.map_some,
          RotatingKeys.open_fresh]
        rfl

theorem opened_purgeDeliveryEmails (vault : DigitalVault Bytes) (due : OrderId → Bool)
    (now : Time) :
    (vault.opened aead keys).purgeDeliveryEmails due now =
      (vault.purgeDeliveryEmails due now).opened aead keys := by
  simp only [purgeDeliveryEmails, opened]
  rw [Keyed.Table.image_mapRows vault.emails (fun _ row => row.opened aead keys) _
    fun _ row => if row.email.isSome && due row.order then
      { row with email := none, purgedAt := some now } else row]
  intro id row
  by_cases hit : (row.email.isSome && due row.order) = true
  · have same : ((row.opened aead keys).email.isSome && due (row.opened aead keys).order) =
        true := by
      simpa [SealedEmail.opened] using hit
    rw [if_pos hit, if_pos same]
    rfl
  · have same : ¬ ((row.opened aead keys).email.isSome && due (row.opened aead keys).order) =
        true := by
      simpa [SealedEmail.opened] using hit
    rw [if_neg hit, if_neg same]

/-! What stands at an id, whatever its table. -/

section Entries

variable {π : Type}

/-- The associated data of a row and its payload. -/
def entry (vault : DigitalVault π) : SealedFamily → ℕ+ → Option (Bytes × Option π)
  | .version, id => (vault.versions.find? id).map fun row => (row.aad, some row.payload)
  | .pin, id => (vault.pins.find? id).map fun row => (row.aad, some row.payload)
  | .email, id => (vault.emails.find? id).map fun row => (row.aad, row.email)

/-- Ids come from the sequences, and an address belongs to the order's buyer. -/
structure Sound (buyer : OrderId → Pubky) (vault : DigitalVault π) : Prop where
  drawn : ∀ family id, (vault.entry family id).isSome → id ∈ vault.drawn family
  addressed : ∀ id row, vault.emails.find? id = some row → row.buyerPubky = buyer row.order

end Entries

theorem mem_familyRows {vault : DigitalVault Bytes} {family : SealedFamily} {row : SealedRow} :
    row ∈ vault.familyRows family ↔
      vault.entry family row.id = some (row.aad, some row.ciphertext) := by
  obtain ⟨id, aad, ciphertext⟩ := row
  cases family with
  | version =>
      simp only [familyRows, entry, List.mem_map, Option.map_eq_some_iff, SealedRow.mk.injEq,
        Prod.mk.injEq, Option.some.injEq, Prod.exists]
      constructor
      · rintro ⟨key, stored, member, rfl, same, payload⟩
        exact ⟨stored, vault.versions.mem_rows_iff.mp member, same, payload⟩
      · rintro ⟨stored, found, same, payload⟩
        exact ⟨id, stored, vault.versions.mem_rows_iff.mpr found, rfl, same, payload⟩
  | pin =>
      simp only [familyRows, entry, List.mem_map, Option.map_eq_some_iff, SealedRow.mk.injEq,
        Prod.mk.injEq, Option.some.injEq, Prod.exists]
      constructor
      · rintro ⟨key, stored, member, rfl, same, payload⟩
        exact ⟨stored, vault.pins.mem_rows_iff.mp member, same, payload⟩
      · rintro ⟨stored, found, same, payload⟩
        exact ⟨id, stored, vault.pins.mem_rows_iff.mpr found, rfl, same, payload⟩
  | email =>
      simp only [familyRows, entry, List.mem_filterMap, Option.map_eq_some_iff, SealedRow.mk.injEq,
        Prod.mk.injEq, Prod.exists]
      constructor
      · rintro ⟨key, stored, member, sealedEmail, present, rfl, same, payload⟩
        exact ⟨stored, vault.emails.mem_rows_iff.mp member, same, payload ▸ present⟩
      · rintro ⟨stored, found, same, present⟩
        exact ⟨id, stored, vault.emails.mem_rows_iff.mpr found, ciphertext, present, rfl, same, rfl⟩

variable (aead keys) in
def SealedNow (aad : Bytes) (payload : Option Bytes) : Prop :=
  ∀ ciphertext ∈ payload, keys.opensUnderCurrent aead aad ciphertext = true

variable (aead keys) in
/-- What a change may do to the rows: one that stays keeps its associated data,
and what is written is sealed under the current key. -/
structure Rewrites (before after : DigitalVault Bytes) : Prop where
  drawn : ∀ family, ∀ id ∈ before.drawn family, id ∈ after.drawn family
  entry : ∀ family id aad payload, after.entry family id = some (aad, payload) →
    (∃ old, before.entry family id = some (aad, old) ∧
      (payload = old ∨ SealedNow aead keys aad payload)) ∨
    id ∉ before.drawn family ∧ id ∈ after.drawn family ∧ SealedNow aead keys aad payload

theorem sealedNow_none (aad : Bytes) : SealedNow aead keys aad none := nofun

theorem sealedNow_fresh (nonce : XNonce) (aad plaintext : Bytes) :
    SealedNow aead keys aad (some (keys.sealBytes aead nonce aad plaintext)) := by
  intro ciphertext written
  cases written
  exact RotatingKeys.opensUnderCurrent_fresh nonce

namespace Rewrites

variable {before middle after : DigitalVault Bytes}

theorem refl (vault : DigitalVault Bytes) : Rewrites aead keys vault vault :=
  ⟨fun _ _ known => known, fun _ _ _ payload found => .inl ⟨payload, found, .inl rfl⟩⟩

theorem trans (first : Rewrites aead keys before middle)
    (second : Rewrites aead keys middle after) :
    Rewrites aead keys before after := by
  refine ⟨fun family id known => second.drawn family id (first.drawn family id known), ?_⟩
  intro family id aad payload found
  rcases second.entry family id aad payload found with ⟨old, stood, wrote⟩ | ⟨unseen, drawn, wrote⟩
  · rcases first.entry family id aad old stood with ⟨older, base, kept⟩ | ⟨unseen, drawn, kept⟩
    · refine .inl ⟨older, base, ?_⟩
      rcases wrote with rfl | wrote
      · exact kept
      · exact .inr wrote
    · refine .inr ⟨unseen, second.drawn family id drawn, ?_⟩
      rcases wrote with rfl | wrote
      · exact kept
      · exact wrote
  · exact .inr ⟨fun known => unseen (first.drawn family id known), drawn, wrote⟩

theorem drawn_sound (rewrites : Rewrites aead keys before after) (sound : Sound buyer before) :
    ∀ family id, (after.entry family id).isSome → id ∈ after.drawn family := by
  intro family id present
  obtain ⟨⟨aad, payload⟩, found⟩ := Option.isSome_iff_exists.mp present
  rcases rewrites.entry family id aad payload found with ⟨old, stood, -⟩ | ⟨-, drawn, -⟩
  · exact rewrites.drawn family id (sound.drawn family id (by rw [stood]; rfl))
  · exact drawn

end Rewrites

theorem mem_draw {vault : DigitalVault Bytes} {family other : SealedFamily} {id drawn : ℕ+}
    (known : drawn ∈ vault.drawn other) : drawn ∈ vault.draw family id other := by
  by_cases same : other = family
  · subst same
    simp [draw, known]
  · simp [draw, Function.update_of_ne same, known]

theorem supersedeVersions_find? {vault : DigitalVault Bytes} {listing : ListingId}
    {live : OrderId → Bool} {now : Time} {id : ℕ+} {row : SealedVersion Bytes}
    (found : (vault.supersedeVersions listing live now).find? id = some row) :
    ∃ old, vault.versions.find? id = some old ∧ row.aad = old.aad ∧ row.payload = old.payload := by
  rw [supersedeVersions, Keyed.Table.find?_keepRows, Keyed.Table.find?_mapRows,
    Option.filter_eq_some_iff] at found
  obtain ⟨old, stood, rfl⟩ := Option.map_eq_some_iff.mp found.1
  refine ⟨old, stood, ?_⟩
  split
  · exact ⟨rfl, rfl⟩
  · exact ⟨rfl, rfl⟩

theorem set_rewrites {vault after : DigitalVault Bytes} {listing : ListingId} {expectedVersion : ℕ}
    {kind : DigitalDeliveryKind} {deliverableId : String} {payload : Bytes} {nonce : XNonce}
    {id : ℕ+} {live : OrderId → Bool} {now : Time}
    (ran : vault.set (sealedCoder aead keys) listing expectedVersion kind deliverableId
      payload nonce
      id live now = some after) : Rewrites aead keys vault after := by
  unfold set at ran
  split at ran
  · cases ran
  · rename_i fresh
    obtain ⟨last, -, rfl⟩ := Option.map_eq_some_iff.mp ran
    refine ⟨fun family id known => mem_draw known, fun family other aad content found => ?_⟩
    cases family with
    | version =>
        simp only [entry, Keyed.Table.find?_set] at found
        split at found
        · rename_i same
          subst same
          obtain ⟨rfl, rfl⟩ := Prod.mk.inj (Option.some.inj found)
          exact .inr ⟨fresh, by simp [draw], sealedNow_fresh nonce _ payload⟩
        · obtain ⟨row, stands, shape⟩ := Option.map_eq_some_iff.mp found
          obtain ⟨rfl, rfl⟩ := Prod.mk.inj shape
          obtain ⟨old, stood, same, payload⟩ := supersedeVersions_find? stands
          exact .inl ⟨some old.payload, by simp [entry, stood, same], .inl (by rw [payload])⟩
    | pin => exact .inl ⟨content, found, .inl rfl⟩
    | email => exact .inl ⟨content, found, .inl rfl⟩

theorem clear_rewrites {vault after : DigitalVault Bytes} {listing : ListingId}
    {expectedVersion : ℕ} {live : OrderId → Bool} {now : Time}
    (ran : vault.clear listing expectedVersion live now = some after) :
    Rewrites aead keys vault after := by
  obtain ⟨last, -, rfl⟩ := Option.map_eq_some_iff.mp ran
  refine ⟨fun _ _ known => known, fun family id aad content found => ?_⟩
  cases family with
  | version =>
      obtain ⟨row, stands, shape⟩ := Option.map_eq_some_iff.mp found
      obtain ⟨rfl, rfl⟩ := Prod.mk.inj shape
      obtain ⟨old, stood, same, payload⟩ := supersedeVersions_find? stands
      exact .inl ⟨some old.payload, by simp [entry, stood, same], .inl (by rw [payload])⟩
  | pin => exact .inl ⟨content, found, .inl rfl⟩
  | email => exact .inl ⟨content, found, .inl rfl⟩

theorem pinLine_rewrites {vault after : DigitalVault Bytes} {order : OrderId} {line : PinnedLine}
    (ran : vault.pinLine (sealedCoder aead keys) order line = some after) :
    Rewrites aead keys vault after ∧ after.emails = vault.emails := by
  unfold pinLine at ran
  split at ran
  · cases ran
  · rename_i room
    split at ran
    · cases ran
    · split at ran
      · cases ran
      · obtain ⟨plaintext, -, rfl⟩ := Option.map_eq_some_iff.mp ran
        refine ⟨⟨fun family id known => mem_draw known, fun family id aad content found => ?_⟩, rfl⟩
        cases family with
        | version => exact .inl ⟨content, found, .inl rfl⟩
        | pin =>
            simp only [entry, Keyed.Table.find?_set] at found
            split at found
            · rename_i same
              subst same
              obtain ⟨rfl, rfl⟩ := Prod.mk.inj (Option.some.inj found)
              exact .inr ⟨fun known => room (.inl known), by simp [draw],
                sealedNow_fresh line.nonce _ _⟩
            · exact .inl ⟨content, found, .inl rfl⟩
        | email => exact .inl ⟨content, found, .inl rfl⟩

theorem storeDeliveryEmail_rewrites {vault after : DigitalVault Bytes} {order : OrderId}
    {email : Bytes} {nonce : XNonce} {id : ℕ+}
    (addressed : ∀ id row, vault.emails.find? id = some row → row.buyerPubky = buyer row.order)
    (ran : vault.storeDeliveryEmail buyer (sealedCoder aead keys) order email nonce id =
      some after) :
    Rewrites aead keys vault after ∧
      ∀ id row, after.emails.find? id = some row → row.buyerPubky = buyer row.order := by
  unfold storeDeliveryEmail at ran
  cases searched : vault.emails.rows.find? fun row => row.2.order == order with
  | some stored =>
      simp only [searched, Option.some.injEq] at ran
      subst ran
      have mine : stored.2.order = order := by simpa using List.find?_some searched
      have present : vault.emails.find? stored.1 = some stored.2 :=
        vault.emails.mem_rows_iff.mp (List.mem_of_find?_eq_some searched)
      have owner : stored.2.buyerPubky = buyer order := mine ▸ addressed stored.1 stored.2 present
      refine ⟨⟨fun _ _ known => known, fun family other aad content found => ?_⟩,
        fun other row found => ?_⟩
      · cases family with
        | version => exact .inl ⟨content, found, .inl rfl⟩
        | pin => exact .inl ⟨content, found, .inl rfl⟩
        | email =>
            simp only [entry, Keyed.Table.find?_set] at found
            split at found
            · rename_i same
              subst same
              obtain ⟨rfl, rfl⟩ := Prod.mk.inj (Option.some.inj found)
              refine .inl ⟨stored.2.email, by simp [entry, present, SealedEmail.aad], .inr ?_⟩
              simp only [SealedEmail.aad, mine, owner]
              exact sealedNow_fresh nonce _ email
            · exact .inl ⟨content, found, .inl rfl⟩
      · rw [Keyed.Table.find?_set] at found
        split at found
        · cases found
          rw [owner, mine]
        · exact addressed other row found
  | none =>
      simp only [searched] at ran
      split at ran
      · cases ran
      · rename_i fresh
        cases ran
        refine ⟨⟨fun family id known => mem_draw known, fun family other aad content found => ?_⟩,
          fun other row found => ?_⟩
        · cases family with
          | version => exact .inl ⟨content, found, .inl rfl⟩
          | pin => exact .inl ⟨content, found, .inl rfl⟩
          | email =>
              simp only [entry, Keyed.Table.find?_set] at found
              split at found
              · rename_i same
                subst same
                obtain ⟨rfl, rfl⟩ := Prod.mk.inj (Option.some.inj found)
                exact .inr ⟨fresh, by simp [draw], sealedNow_fresh nonce _ email⟩
              · exact .inl ⟨content, found, .inl rfl⟩
        · rw [Keyed.Table.find?_set] at found
          split at found
          · cases found
            rfl
          · exact addressed other row found

theorem purgeDeliveryEmails_rewrites {vault : DigitalVault Bytes} (due : OrderId → Bool)
    (now : Time)
    (addressed : ∀ id row, vault.emails.find? id = some row → row.buyerPubky = buyer row.order) :
    Rewrites aead keys vault (vault.purgeDeliveryEmails due now) ∧
      ∀ id row, (vault.purgeDeliveryEmails due now).emails.find? id = some row →
        row.buyerPubky = buyer row.order := by
  refine ⟨⟨fun _ _ known => known, fun family id aad content found => ?_⟩, fun id row found => ?_⟩
  · cases family with
    | version => exact .inl ⟨content, found, .inl rfl⟩
    | pin => exact .inl ⟨content, found, .inl rfl⟩
    | email =>
        simp only [entry, purgeDeliveryEmails, Keyed.Table.find?_mapRows, Option.map_map] at found
        obtain ⟨old, stood, shape⟩ := Option.map_eq_some_iff.mp found
        simp only [Function.comp] at shape
        split at shape
        · cases shape
          exact .inl ⟨old.email, by simp [entry, stood, SealedEmail.aad], .inr (sealedNow_none _)⟩
        · cases shape
          exact .inl ⟨old.email, by simp [entry, stood], .inl rfl⟩
  · simp only [purgeDeliveryEmails, Keyed.Table.find?_mapRows] at found
    obtain ⟨old, stood, rfl⟩ := Option.map_eq_some_iff.mp found
    split
    · exact addressed id old stood
    · exact addressed id old stood

theorem pinLines_sealed {order : OrderId} {lines : List PinnedLine} :
    ∀ {vault after : DigitalVault Bytes}, Sound buyer vault →
      lines.foldlM (pinLine (sealedCoder aead keys) order) vault = some after →
      Rewrites aead keys vault after ∧ Sound buyer after ∧
        lines.foldlM (pinLine plainCoder order) (vault.opened aead keys) =
          some (after.opened aead keys) := by
  induction lines with
  | nil =>
      intro vault after sound ran
      cases ran
      exact ⟨.refl vault, sound, rfl⟩
  | cons line rest ih =>
      intro vault after sound ran
      obtain ⟨middle, first, tail⟩ := Option.bind_eq_some_iff.mp ran
      obtain ⟨rewrites, emails⟩ := pinLine_rewrites first
      have kept : Sound buyer middle := ⟨rewrites.drawn_sound sound, emails ▸ sound.addressed⟩
      obtain ⟨others, final, plain⟩ := ih kept tail
      refine ⟨rewrites.trans others, final, ?_⟩
      rw [List.foldlM_cons, opened_pinLine first]
      exact plain

theorem apply_sealed {vault after : DigitalVault Bytes} {writer : DigitalWriter}
    (sound : Sound buyer vault)
    (ran : vault.apply buyer (sealedCoder aead keys) writer = some after) :
    Rewrites aead keys vault after ∧ Sound buyer after ∧
      (vault.opened aead keys).apply buyer plainCoder writer = some (after.opened aead keys) := by
  have whole {after : DigitalVault Bytes} (rewrites : Rewrites aead keys vault after)
      (addressed : ∀ id row, after.emails.find? id = some row → row.buyerPubky = buyer row.order) :
      Sound buyer after := ⟨rewrites.drawn_sound sound, addressed⟩
  cases writer with
  | set listing expectedVersion kind deliverableId payload nonce id live now =>
      have rewrites := set_rewrites ran
      refine ⟨rewrites, whole rewrites ?_, opened_set ran⟩
      simp only [apply, set] at ran
      split at ran
      · cases ran
      · obtain ⟨last, -, rfl⟩ := Option.map_eq_some_iff.mp ran
        exact sound.addressed
  | clear listing expectedVersion live now =>
      have rewrites : Rewrites aead keys vault after := clear_rewrites ran
      refine ⟨rewrites, whole rewrites ?_, opened_clear ran⟩
      obtain ⟨last, -, rfl⟩ := Option.map_eq_some_iff.mp ran
      exact sound.addressed
  | pinDigitalLines order lines => exact pinLines_sealed sound ran
  | storeDeliveryEmail order email nonce id now =>
      obtain ⟨rewrites, addressed⟩ := storeDeliveryEmail_rewrites sound.addressed ran
      exact ⟨rewrites, whole rewrites addressed, opened_storeDeliveryEmail sound.addressed ran⟩
  | purgeDeliveryEmails due now =>
      obtain rfl := Option.some.inj ran
      obtain ⟨rewrites, addressed⟩ :=
        @purgeDeliveryEmails_rewrites aead keys buyer _ due now sound.addressed
      exact ⟨rewrites, whole rewrites addressed,
        congrArg some (opened_purgeDeliveryEmails _ due now)⟩

/-! The pass. -/

/-- A row was read at this id: the id was given out, and what stands there now
has the associated data that was read. -/
def Held (vault : DigitalVault Bytes) (family : SealedFamily) (row : SealedRow) : Prop :=
  row.id ∈ vault.drawn family ∧
    ∀ aad payload, vault.entry family row.id = some (aad, payload) → aad = row.aad

theorem Rewrites.keeps {before after : DigitalVault Bytes}
    (rewrites : Rewrites aead keys before after) (sound : Sound buyer after) :
    digitalTarget.Keeps aead keys (Sound buyer) Held before after := by
  refine ⟨sound, fun family row held => ⟨rewrites.drawn family row.id held.1, ?_⟩, ?_⟩
  · intro aad payload found
    rcases rewrites.entry family row.id aad payload found with ⟨old, stood, -⟩ | ⟨unseen, -, -⟩
    · exact held.2 aad old stood
    · exact absurd held.1 unseen
  · intro family row member
    have found := mem_familyRows.mp member
    rcases rewrites.entry family row.id row.aad _ found with ⟨old, stood, same | sealedNow⟩ | fresh
    · exact .inl (mem_familyRows.mpr (same ▸ stood))
    · exact .inr (sealedNow row.ciphertext rfl)
    · exact .inr (fresh.2.2 row.ciphertext rfl)

/-- One row holds a new ciphertext; everything else stands. -/
structure Replaced (buyer : OrderId → Pubky) (aead : Aead) (keys : RotatingKeys)
    (before after : DigitalVault Bytes) (family : SealedFamily) (row : SealedRow)
    (resealed : Bytes) : Prop where
  drawn : after.drawn = before.drawn
  stood : before.entry family row.id = some (row.aad, some row.ciphertext)
  entry : ∀ other id, after.entry other id =
    if other = family ∧ id = row.id then some (row.aad, some resealed) else before.entry other id
  opened : after.opened aead keys = before.opened aead keys
  addressed : (∀ id row, before.emails.find? id = some row → row.buyerPubky = buyer row.order) →
    ∀ id row, after.emails.find? id = some row → row.buyerPubky = buyer row.order

theorem Replaced.rewrites {before after : DigitalVault Bytes} {family : SealedFamily}
    {row : SealedRow} {resealed : Bytes}
    (replaced : Replaced buyer aead keys before after family row resealed)
    (sealedNow : SealedNow aead keys row.aad (some resealed)) :
    Rewrites aead keys before after := by
  refine ⟨fun _ _ known => replaced.drawn ▸ known, fun other id aad payload found => ?_⟩
  rw [replaced.entry] at found
  split at found
  · rename_i here
    obtain ⟨rfl, rfl⟩ := here
    cases found
    exact .inl ⟨_, replaced.stood, .inr sealedNow⟩
  · exact .inl ⟨payload, found, .inl rfl⟩

theorem writeResealed_cases {vault : DigitalVault Bytes} {family : SealedFamily} {row : SealedRow}
    {resealed : Bytes} (held : Held vault family row)
    (opens : keys.openSealed aead row.aad resealed = keys.openSealed aead row.aad row.ciphertext) :
    (vault.entry family row.id ≠ some (row.aad, some row.ciphertext) ∧
        (vault.writeResealed family row resealed).1 = vault) ∨
      Replaced buyer aead keys vault (vault.writeResealed family row resealed).1 family row
        resealed := by
  cases family with
  | version =>
      cases stored : vault.versions.find? row.id with
      | none => exact .inl ⟨by simp [entry, stored], by simp [writeResealed, stored]⟩
      | some found =>
          have aad : found.aad = row.aad := held.2 _ (some found.payload) (by simp [entry, stored])
          -- The write asks for the ciphertext that the pass read: a row written since is left.
          by_cases same : found.payload = row.ciphertext
          · right
            have after : (vault.writeResealed .version row resealed).1 =
                { vault with
                  versions := vault.versions.set row.id { found with payload := resealed } } := by
              simp [writeResealed, stored, same]
            rw [after]
            refine ⟨rfl, by simp [entry, stored, aad, same], fun other id => ?_, ?_, id⟩
            · cases other with
              | version =>
                  simp only [entry, Keyed.Table.find?_set, true_and]
                  split
                  · exact congrArg (fun data => some (data, some resealed)) aad
                  · rfl
              | pin => rfl
              | email => rfl
            · have kept : (vault.versions.set row.id { found with payload := resealed }).image
                  (fun _ row => row.opened aead keys) =
                    vault.versions.image fun _ row => row.opened aead keys :=
                Keyed.Table.image_set_same _ _ stored (by
                  have data : SealedVersion.aad { found with payload := resealed } = row.aad := aad
                  simp only [SealedVersion.opened, data, aad, same, opens])
              simp only [opened, kept]
          · exact .inl ⟨by simp [entry, stored, same], by simp [writeResealed, stored, same]⟩
  | pin =>
      cases stored : vault.pins.find? row.id with
      | none => exact .inl ⟨by simp [entry, stored], by simp [writeResealed, stored]⟩
      | some found =>
          have aad : found.aad = row.aad := held.2 _ (some found.payload) (by simp [entry, stored])
          by_cases same : found.payload = row.ciphertext
          · right
            have after : (vault.writeResealed .pin row resealed).1 =
                { vault with
                  pins := vault.pins.set row.id { found with payload := resealed } } := by
              simp [writeResealed, stored, same]
            rw [after]
            refine ⟨rfl, by simp [entry, stored, aad, same], fun other id => ?_, ?_, id⟩
            · cases other with
              | version => rfl
              | pin =>
                  simp only [entry, Keyed.Table.find?_set, true_and]
                  split
                  · exact congrArg (fun data => some (data, some resealed)) aad
                  · rfl
              | email => rfl
            · have kept : (vault.pins.set row.id { found with payload := resealed }).image
                  (fun _ row => row.opened aead keys) =
                    vault.pins.image fun _ row => row.opened aead keys :=
                Keyed.Table.image_set_same _ _ stored (by
                  have data : SealedPin.aad { found with payload := resealed } = row.aad := aad
                  simp only [SealedPin.opened, data, aad, same, opens])
              simp only [opened, kept]
          · exact .inl ⟨by simp [entry, stored, same], by simp [writeResealed, stored, same]⟩
  | email =>
      cases stored : vault.emails.find? row.id with
      | none => exact .inl ⟨by simp [entry, stored], by simp [writeResealed, stored]⟩
      | some found =>
          have aad : found.aad = row.aad := held.2 _ found.email (by simp [entry, stored])
          by_cases same : found.email = some row.ciphertext
          · right
            have after : (vault.writeResealed .email row resealed).1 =
                { vault with
                  emails := vault.emails.set row.id { found with email := some resealed } } := by
              simp [writeResealed, stored, same]
            rw [after]
            refine ⟨rfl, by simp [entry, stored, aad, same], fun other id => ?_, ?_,
              fun addressed id other present => ?_⟩
            · cases other with
              | version => rfl
              | pin => rfl
              | email =>
                  simp only [entry, Keyed.Table.find?_set, true_and]
                  split
                  · exact congrArg (fun data => some (data, some resealed)) aad
                  · rfl
            · have kept : (vault.emails.set row.id { found with email := some resealed }).image
                  (fun _ row => row.opened aead keys) =
                    vault.emails.image fun _ row => row.opened aead keys :=
                Keyed.Table.image_set_same _ _ stored (by
                  have data : SealedEmail.aad { found with email := some resealed } = row.aad := aad
                  simp only [SealedEmail.opened, data, aad, same, Option.map_some, opens])
              simp only [opened, kept]
            · rw [Keyed.Table.find?_set] at present
              split at present
              · cases present
                exact addressed row.id found stored
              · exact addressed id other present
          · exact .inl ⟨by simp [entry, stored, same], by simp [writeResealed, stored, same]⟩

theorem familyRows_distinct (vault : DigitalVault Bytes) (family : SealedFamily) :
    ((vault.familyRows family).map SealedRow.id).Nodup := by
  cases family with
  | version =>
      rw [familyRows, List.map_map]
      exact vault.versions.nodup
  | pin =>
      rw [familyRows, List.map_map]
      exact vault.pins.nodup
  | email =>
      have kept : (vault.familyRows .email).map SealedRow.id =
          (vault.emails.rows.filter fun row => row.2.email.isSome).map Prod.fst := by
        simp only [familyRows]
        induction vault.emails.rows with
        | nil => rfl
        | cons head rest ih =>
            cases present : head.2.email with
            | none => simp [present, ih]
            | some ciphertext => simp [present, ih]
      rw [kept]
      exact vault.emails.nodup.sublist (List.filter_sublist.map Prod.fst)

theorem digital_law (buyer : OrderId → Pubky) (aead : Aead) (keys : RotatingKeys) :
    digitalTarget.Law aead keys (Sound buyer) Held
      (fun vault writer => vault.apply buyer (sealedCoder aead keys) writer)
      (fun vault => vault.opened aead keys)
      (fun vault writer => vault.apply buyer plainCoder writer) where
  every family := by cases family <;> decide
  distinct vault family := by
    have distinct := (familyRows_distinct vault family).map PNat.coe_injective
    rwa [List.map_map] at distinct
  ahead vault family row _ := by
    intro position at_
    cases at_
    exact row.id.pos
  read vault family row sound member := by
    have found := mem_familyRows.mp member
    refine ⟨sound.drawn family row.id (by rw [found]; rfl), fun aad payload entered => ?_⟩
    rw [found] at entered
    cases entered
    rfl
  writes sound ran := by
    obtain ⟨rewrites, kept, plain⟩ := apply_sealed sound ran
    exact ⟨rewrites.keeps kept, plain⟩
  reseals := by
    intro vault family row plaintext nonce sound held stale old
    have dead : keys.opensUnderCurrent aead row.aad row.ciphertext = false :=
      Bool.eq_false_iff.mpr stale
    have opens : keys.openSealed aead row.aad (keys.sealBytes aead nonce row.aad plaintext) =
        keys.openSealed aead row.aad row.ciphertext := by
      rw [RotatingKeys.open_of_previous dead old, RotatingKeys.open_fresh]
    rcases @writeResealed_cases aead keys buyer vault family row _ held opens with
      ⟨changed, same⟩ | replaced
    · have unchanged : (digitalTarget.write vault family row
          (keys.sealBytes aead nonce (digitalTarget.aad row) plaintext)).1 = vault := same
      simp only [unchanged]
      exact ⟨.refl sound, trivial, fun member => changed (mem_familyRows.mp member)⟩
    · have rewrites := replaced.rewrites (sealedNow_fresh nonce _ _)
      refine ⟨rewrites.keeps ⟨rewrites.drawn_sound sound, replaced.addressed sound.addressed⟩,
        replaced.opened, fun member => stale ?_⟩
      have found := mem_familyRows.mp member
      have here := replaced.entry family row.id
      rw [if_pos ⟨rfl, rfl⟩] at here
      have written : row.ciphertext = keys.sealBytes aead nonce row.aad plaintext := by
        simpa using found.symm.trans here
      show keys.opensUnderCurrent aead row.aad row.ciphertext = true
      rw [written]
      exact RotatingKeys.opensUnderCurrent_fresh nonce

end DigitalVault

end MarketplaceService
