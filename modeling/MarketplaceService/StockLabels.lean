import MarketplaceService.ServiceFrame

/-!
The label of a listing. Every writer of a listing's quantities writes its
label too, each with its own rule. Holds, releases, confirmations and
adjustments agree with the quantities they write. A registration that leaves
nothing available says `reserved` of a listing that is sold out, and the close
of an auction writes its label without looking at what is available.
-/

namespace MarketplaceService

/-- The label says what is left: something available, else something reserved,
else nothing. -/
structure LabelLaw (listing : Listing) : Prop where
  available : listing.state = .available ↔ 0 < listing.availableQuantity
  reserved : listing.state = .reserved ↔
    listing.availableQuantity = 0 ∧ 0 < listing.reservedQuantity
  sold : listing.state = .sold ↔ listing.availableQuantity = 0 ∧ listing.reservedQuantity = 0

theorem labelLaw_iff (listing : Listing) : LabelLaw listing ↔ listing.state = listing.label := by
  unfold Listing.label
  constructor
  · intro law
    by_cases stocked : 0 < listing.availableQuantity
    · rw [if_pos stocked]
      exact law.available.mpr stocked
    · have empty : listing.availableQuantity = 0 := by omega
      rw [if_neg stocked]
      by_cases held : 0 < listing.reservedQuantity
      · rw [if_pos held]
        exact law.reserved.mpr ⟨empty, held⟩
      · rw [if_neg held]
        exact law.sold.mpr ⟨empty, by omega⟩
  · intro label
    by_cases stocked : 0 < listing.availableQuantity
    · have some_left : listing.availableQuantity ≠ 0 := by omega
      rw [if_pos stocked] at label
      constructor <;> simp [label, stocked, some_left]
    · have empty : listing.availableQuantity = 0 := by omega
      rw [if_neg stocked] at label
      by_cases held : 0 < listing.reservedQuantity
      · have some_held : listing.reservedQuantity ≠ 0 := by omega
        rw [if_pos held] at label
        constructor <;> simp [label, empty, held, some_held]
      · have none_held : listing.reservedQuantity = 0 := by omega
        rw [if_neg held] at label
        constructor <;> simp [label, empty, none_held]

def soldOutRecord (record : ListingRecord) (listing : Listing) : Prop :=
  listing.reservedQuantity = 0 ∧ listing.soldQuantity = record.quantity ∧ 0 < record.quantity

instance (record : ListingRecord) (listing : Listing) : Decidable (soldOutRecord record listing) :=
  inferInstanceAs (Decidable (_ ∧ _ ∧ _))

/-- No registration of a sold-out listing, no close of an auction that leaves
units, no unsold close of an empty one; holds are of validated quantities. -/
def keepsLabel (sys : Sys) : Action → Prop
  | .registerListing id record _ _ =>
      ∀ listing ∈ sys.inventory.listings.find? id, ¬ soldOutRecord record listing
  | .syncListing id record =>
      ∀ listing ∈ sys.inventory.listings.find? id,
        listing.isDeleted = true ∨ listing.listingRevision < record.listingRevision →
          ¬ soldOutRecord record listing
  | .closeAuction id .. =>
      ∀ listing ∈ sys.inventory.listings.find? id, listing.availableQuantity ≤ 1
  | .closeUnsold id => ∀ listing ∈ sys.inventory.listings.find? id, 0 < listing.availableQuantity
  | .reserveInventory _ _ _ quantity _ => 0 < quantity
  | .acceptOffer award _ => 0 < award.quantity
  | _ => True

instance (sys : Sys) (action : Action) : Decidable (keepsLabel sys action) :=
  match action with
  | .registerListing id record _ _ =>
      inferInstanceAs (Decidable (∀ listing ∈ sys.inventory.listings.find? id,
        ¬ soldOutRecord record listing))
  | .syncListing id record =>
      inferInstanceAs (Decidable (∀ listing ∈ sys.inventory.listings.find? id,
        listing.isDeleted = true ∨ listing.listingRevision < record.listingRevision →
          ¬ soldOutRecord record listing))
  | .closeAuction id .. =>
      inferInstanceAs (Decidable (∀ listing ∈ sys.inventory.listings.find? id,
        listing.availableQuantity ≤ 1))
  | .closeUnsold id =>
      inferInstanceAs (Decidable (∀ listing ∈ sys.inventory.listings.find? id,
        0 < listing.availableQuantity))
  | .reserveInventory _ _ _ quantity _ => inferInstanceAs (Decidable (0 < quantity))
  | .acceptOffer award _ => inferInstanceAs (Decidable (0 < award.quantity))
  | .tick .. | .order .. | .checkout .. | .offerCheckout .. | .placeBid .. | .tombstone ..
  | .adjustInventory .. | .setDigitalVersion .. | .expireReservation .. | .expireAward ..
  | .syncDrop .. | .cancelDrop .. | .releaseDropListings .. | .transitionDrop .. =>
      inferInstanceAs (Decidable True)

structure Labels (inventory : Inventory) : Prop where
  listings : inventory.labelled
  reservations : ∀ id, ∀ reservation ∈ inventory.reservations.find? id, 0 < reservation.quantity

section Labels

variable {inventory after : Inventory} {now : Time}

theorem Labels.of_same (labels : Labels inventory) (same : SameListings inventory after) :
    Labels after := by
  obtain ⟨listings, reservations⟩ := labels
  constructor
  · intro id listing found
    rw [same.1] at found
    exact listings id listing found
  · intro id reservation found
    rw [same.2] at found
    exact reservations id reservation found

theorem Labels.setListing (labels : Labels inventory) {id : ListingId} {listing : Listing}
    (label : listing.state = listing.label) : Labels (inventory.setListing id listing) :=
  ⟨Inventory.labelled_set labels.listings label, labels.reservations⟩

theorem Labels.setReservation (labels : Labels inventory) {id : ReservationId}
    {reservation : Reservation} (positive : 0 < reservation.quantity) :
    Labels { inventory with reservations := inventory.reservations.set id reservation } := by
  refine ⟨labels.listings, ?_⟩
  intro other row found
  rw [Option.mem_def, Keyed.Table.find?_set] at found
  split at found
  · cases found
    exact positive
  · exact labels.reservations other row found

theorem Labels.writes {terms : Terms} {sold : ListingId → ℤ} (labels : Labels inventory)
    (writes : Writes terms sold inventory after) : Labels after := by
  refine ⟨writes.labelled labels.listings, ?_⟩
  intro id reservation found
  have claim := writes.frames.claims id
  rw [Inventory.claim, Inventory.claim, Option.mem_def.mp found] at claim
  obtain ⟨old, present, same⟩ := Option.map_eq_some_iff.mp claim.symm
  have quantity : old.quantity = reservation.quantity := congrArg Claim.quantity same
  rw [← quantity]
  exact labels.reservations id old present

theorem Labels.insertReservation (labels : Labels inventory) {id : ReservationId}
    {reservation : Reservation} (positive : 0 < reservation.quantity)
    (inserted : inventory.insertReservation id reservation = .ok after) : Labels after := by
  obtain ⟨-, rfl⟩ := insertReservation_ok inserted
  exact labels.setReservation positive

theorem applyRegistration_label {current : Option Listing} {record : ListingRecord}
    {listing : Listing} (fresh : ∀ old ∈ current, ¬ soldOutRecord record old)
    (applied : applyRegistration current record now = .ok listing) :
    listing.state = listing.label := by
  unfold applyRegistration at applied
  simp only at applied
  split at applied
  · rename_i enough
    cases applied
    unfold Listing.label registeredState
    simp only
    cases current with
    | none =>
        by_cases empty : record.quantity = 0
        · simp [empty]
        · have stocked : 0 < record.quantity := by omega
          simp [empty, stocked]
    | some old =>
        have unsold := fresh old rfl
        unfold soldOutRecord at unsold
        simp only [Option.map_some, Option.getD_some] at enough ⊢
        by_cases full : record.quantity = old.reservedQuantity + old.soldQuantity
        · simp only [full, if_true, Nat.sub_self, Nat.lt_irrefl, if_false]
          by_cases held : 0 < old.reservedQuantity
          · have committed : 0 < old.reservedQuantity + old.soldQuantity := by omega
            simp [held, committed]
          · have committed : ¬ 0 < old.reservedQuantity + old.soldQuantity := by omega
            simp [held, committed]
        · have stocked : 0 < record.quantity - (old.reservedQuantity + old.soldQuantity) := by omega
          simp [full, stocked]
  · cases applied

theorem holdForReservation_label {listing held : Listing} {quantity : ℕ} {unavailable : String}
    (positive : 0 < quantity)
    (ran : holdForReservation listing quantity unavailable = .ok held) :
    held.state = held.label := by
  obtain ⟨enough, rfl⟩ := holdForReservation_ok ran
  exact hold_label listing positive enough

end Labels

/-! The steps. -/

section Steps

variable {inventory after : Inventory} {now : Time}

theorem registerListing_labels {id : ListingId} {record : ListingRecord} {sender : Sender}
    {recordFound : Bool} (labels : Labels inventory)
    (fresh : ∀ listing ∈ inventory.listings.find? id, ¬ soldOutRecord record listing)
    (registered : registerListing inventory id record sender recordFound now = .ok after) :
    Labels after := by
  obtain ⟨listing, rfl, relisted⟩ := registerListing_ok registered
  apply labels.setListing
  generalize stored : inventory.listings.find? id = current at relisted fresh
  cases relisted with
  | registered format applied => exact applyRegistration_label fresh applied
  | kept => exact labels.listings id listing stored
  | @healed old =>
      have known : old.state = old.label := labels.listings id old stored
      exact known

theorem syncListing_applied {id : ListingId} {record : ListingRecord}
    (synced : syncListing inventory id record now = .ok after) :
    ∃ listing, after = inventory.setListing id listing ∧
      ((∀ old ∈ inventory.listings.find? id,
          old.isDeleted = true ∨ old.listingRevision < record.listingRevision) ∧
        applyRegistration (inventory.listings.find? id) record now = .ok listing ∨
      ∃ old ∈ inventory.listings.find? id, listing.state = old.state ∧
        listing.label = old.label) := by
  unfold syncListing at synced
  simp only at synced
  cases found : inventory.listings.find? id with
  | none =>
      simp only [found] at synced
      split at synced
      · cases synced
      · obtain ⟨listing, applied, written⟩ := Outcome.bind_ok synced
        exact ⟨listing, Outcome.pure_ok written, .inl ⟨by simp, applied⟩⟩
  | some current =>
      simp only [found] at synced
      split at synced
      · rename_i deleted
        split at synced
        · cases synced
        · obtain ⟨listing, applied, written⟩ := Outcome.bind_ok synced
          refine ⟨listing, Outcome.pure_ok written, .inl ⟨?_, applied⟩⟩
          rintro old ⟨⟩
          exact .inl deleted
      · split at synced
        · split at synced
          · cases synced
          · cases synced
            exact ⟨current, rfl, .inr ⟨current, rfl, rfl, rfl⟩⟩
        · split at synced
          · cases synced
          · split at synced
            · rename_i newer
              obtain ⟨listing, applied, written⟩ := Outcome.bind_ok synced
              refine ⟨listing, Outcome.pure_ok written, .inl ⟨?_, applied⟩⟩
              rintro old ⟨⟩
              exact .inr newer
            · split at synced
              · cases synced
                exact ⟨_, rfl, .inr ⟨current, rfl, rfl, rfl⟩⟩
              · cases synced
                exact ⟨current, rfl, .inr ⟨current, rfl, rfl, rfl⟩⟩

theorem syncListing_labels {id : ListingId} {record : ListingRecord} (labels : Labels inventory)
    (fresh : ∀ listing ∈ inventory.listings.find? id,
      listing.isDeleted = true ∨ listing.listingRevision < record.listingRevision →
        ¬ soldOutRecord record listing)
    (synced : syncListing inventory id record now = .ok after) : Labels after := by
  obtain ⟨listing, rfl, ⟨newer, applied⟩ | ⟨old, found, state, label⟩⟩ := syncListing_applied synced
  · exact labels.setListing
      (applyRegistration_label (fun old found => fresh old found (newer old found)) applied)
  · apply labels.setListing
    rw [state, label]
    exact labels.listings id old found

theorem tombstone_labels {id : ListingId} (labels : Labels inventory)
    (deleted : tombstone inventory id now = some after) : Labels after := by
  obtain ⟨listing, bindings, found, -, -, rfl⟩ := tombstone_ok deleted
  have relisted : Labels (inventory.setListing id { listing with
      deletedAt := some now
      serverRevision := listing.serverRevision + 1 }) :=
    labels.setListing (labels.listings id listing found)
  exact ⟨relisted.listings, relisted.reservations⟩

theorem adjustInventory_labels {id : ListingId} {sender : Sender} {delta : ℤ}
    (labels : Labels inventory)
    (adjusted : adjustInventory inventory id sender delta = .ok after) : Labels after := by
  obtain ⟨listing, balanced, -, -, -, -, -, rfl⟩ := adjustInventory_ok adjusted
  exact labels.setListing rfl

theorem reserveInventory_labels {key : ReservationId} {id : ListingId} {sender : Sender}
    {quantity ttlSeconds : ℕ} (labels : Labels inventory) (positive : 0 < quantity)
    (reserved : reserveInventory inventory key id sender quantity ttlSeconds now = .ok after) :
    Labels after := by
  obtain ⟨-, -, -, -, same, taken, inserted⟩ := reserveInventory_ok reserved
  have gated := labels.of_same same
  exact (gated.setListing (holdForReservation_label positive taken)).insertReservation positive
    inserted

theorem acceptOffer_labels {award : Award} (labels : Labels inventory)
    (positive : 0 < award.quantity) (accepted : acceptOffer inventory award now = .ok after) :
    Labels after := by
  obtain ⟨listing, held, -, -, taken, inserted⟩ := acceptOffer_ok accepted
  exact (labels.setListing (holdForReservation_label positive taken)).insertReservation positive
    inserted

theorem restockReservation_labels {reservation : Reservation} {state : Listing → ListingState}
    (labels : Labels inventory) (positive : 0 < reservation.quantity)
    (opens : ∀ listing : Listing, listing.state = listing.label → state listing = .available)
    (restocked : restockReservation inventory reservation state = .ok after) : Labels after := by
  obtain ⟨listing, enough, found, rfl⟩ := restockReservation_ok restocked
  apply labels.setListing
  have back : 0 < listing.availableQuantity + reservation.quantity := by omega
  have label := opens listing (labels.listings _ listing found)
  simp [Listing.label, Listing.release, back, label]

theorem expireDueReservation_labels {id : ReservationId} (labels : Labels inventory)
    (expired : expireDueReservation inventory id now = .ok after) : Labels after := by
  cases expireDueReservation_ok expired with
  | kept => exact labels
  | @lapsed reservation _ _ found _ _ _ _ _ same restocked =>
      have positive := labels.reservations id reservation found
      have lapsed : Labels { inventory with
          reservations := inventory.reservations.set id { reservation with status := .expired } } :=
        labels.setReservation positive
      exact restockReservation_labels (lapsed.of_same same) positive (fun _ _ => rfl) restocked

theorem expireDueAward_labels {award : Award} (labels : Labels inventory)
    (expired : expireDueAward inventory award = .ok after) : Labels after := by
  obtain ⟨reservation, found, -, -, -, -, restocked⟩ := expireDueAward_ok expired
  have positive := labels.reservations _ reservation found
  have lapsed : Labels { inventory with
      reservations := inventory.reservations.set award.reservationId
        { reservation with status := .expired } } := labels.setReservation positive
  refine restockReservation_labels lapsed positive ?_ restocked
  intro listing label
  by_cases empty : listing.availableQuantity = 0
  · simp [empty]
  · have stocked : 0 < listing.availableQuantity := by omega
    simp [empty, label, Listing.label, stocked]

theorem offerCheckout_labels {award : Award} {id : OrderId} {fulfillment : Fulfillment}
    {holdWindowSeconds : ℕ} {book : OrderBook} (labels : Labels inventory)
    (created : offerCheckout inventory award id fulfillment holdWindowSeconds now =
      .ok (book, after)) : Labels after := by
  cases offerCheckout_ok created with
  | @intro reservation _ found =>
      exact labels.setReservation (labels.reservations _ reservation found)

theorem closeAuction_labels {listingId : ListingId} {winner : Pubky} {priceMinor : ℕ}
    {reservation : ReservationId} {id : OrderId} {book : OrderBook} (labels : Labels inventory)
    (last : ∀ listing ∈ inventory.listings.find? listingId, listing.availableQuantity ≤ 1)
    (created : closeAuction inventory listingId winner priceMinor reservation id now =
      .ok (book, after)) : Labels after := by
  cases closeAuction_ok created with
  | @intro listing _ found _ _ _ enough inserted =>
      have one : listing.availableQuantity = 1 := by
        have most := last listing found
        omega
      have closed : Labels (inventory.setListing listingId
          { listing.hold 1 enough with state := .reserved, auctionActive := false }) :=
        labels.setListing (by simp [Listing.label, Listing.hold, one])
      exact closed.insertReservation Nat.one_pos inserted

theorem holdClaim_labels {dropId : Option DropId} {resolved : List ResolvedLine}
    (labels : Labels inventory) (held : holdClaim dropId resolved inventory = .ok after) :
    Labels after := by
  cases holdClaim_ok held with
  | nothing => exact labels
  | @claim _ claim => exact labels.setListing (hold_label _ claim.line.quantity_pos _)

theorem checkoutCreate_labels {request : CheckoutRequest} {books : List OrderBook}
    (labels : Labels inventory)
    (created : checkoutCreate inventory request now = .ok (books, after)) : Labels after := by
  obtain ⟨dropId, gated, resolved, asset, claimed, -, -, -, -, held⟩ := checkoutCreate_ok created
  exact holdClaim_labels (labels.of_same (claimDrop_ok claimed).1) held

end Steps

theorem Labels.step {references : References} {sys after : Sys} {action : Action}
    (labels : Labels sys.inventory)
    (sound : ∀ id cell, sys.cells.find? id = some cell → Sound cell)
    (keeps : keepsLabel sys action) (stepped : sys.step references action = some after) :
    Labels after.inventory := by
  have stocked {result : Except Failure Inventory}
      (written : ∀ inventory, result = .ok inventory → Labels inventory)
      (stocked : sys.setInventory result = some after) : Labels after.inventory := by
    obtain ⟨inventory, ran, rfl⟩ := Option.map_eq_some_iff.mp stocked
    exact written inventory (Outcome.toOption_some ran)
  cases action with
  | tick seconds =>
      cases stepped
      exact labels
  | order id now step =>
      obtain ⟨cell, found, -⟩ := Option.bind_eq_some_iff.mp stepped
      obtain ⟨done, -, ran⟩ := order_step found stepped
      have known := sound id cell found
      exact labels.writes ((stepCell_steps known ran).soldOn known)
  | checkout request =>
      obtain ⟨⟨books, inventory⟩, created, inserted⟩ := Option.bind_eq_some_iff.mp stepped
      rw [insert_inventory inserted]
      exact checkoutCreate_labels labels (Outcome.toOption_some created)
  | offerCheckout award order fulfillment holdWindowSeconds =>
      obtain ⟨⟨book, inventory⟩, created, inserted⟩ := Option.bind_eq_some_iff.mp stepped
      rw [insert_inventory inserted]
      exact offerCheckout_labels labels (Outcome.toOption_some created)
  | closeAuction listing winner priceMinor reservation order =>
      obtain ⟨⟨book, inventory⟩, created, inserted⟩ := Option.bind_eq_some_iff.mp stepped
      rw [insert_inventory inserted]
      exact closeAuction_labels labels keeps (Outcome.toOption_some created)
  | placeBid listing =>
      refine stocked (fun inventory ran => ?_) stepped
      obtain ⟨row, found, -, -, -, rfl⟩ := placeBid_ok ran
      exact labels.setListing (labels.listings _ row found)
  | closeUnsold listing =>
      refine stocked (fun inventory ran => ?_) stepped
      obtain ⟨row, found, -, -, rfl⟩ := closeUnsold_ok ran
      have left := keeps row found
      exact labels.setListing (by simp [Listing.label, left])
  | registerListing listing record sender recordFound =>
      exact stocked (fun _ ran => registerListing_labels labels keeps ran) stepped
  | syncListing listing record =>
      exact stocked (fun _ ran => syncListing_labels labels keeps ran) stepped
  | tombstone listing =>
      obtain ⟨inventory, deleted, rfl⟩ := Option.map_eq_some_iff.mp stepped
      exact tombstone_labels labels deleted
  | adjustInventory listing sender delta =>
      exact stocked (fun _ ran => adjustInventory_labels labels ran) stepped
  | setDigitalVersion listing kind =>
      obtain ⟨inventory, written, rfl⟩ := Option.map_eq_some_iff.mp stepped
      obtain ⟨row, found, rfl⟩ := Option.map_eq_some_iff.mp written
      exact labels.setListing (labels.listings _ row found)
  | reserveInventory reservation listing sender quantity ttlSeconds =>
      exact stocked (fun _ ran => reserveInventory_labels labels keeps ran) stepped
  | expireReservation reservation =>
      obtain ⟨-, stepped⟩ := Option.ite_none_left_eq_some.mp stepped
      exact stocked (fun _ ran => expireDueReservation_labels labels ran) stepped
  | acceptOffer award readAt =>
      obtain ⟨-, stepped⟩ := Option.ite_none_left_eq_some.mp stepped
      exact stocked (fun _ ran => acceptOffer_labels labels keeps ran) stepped
  | expireAward award => exact stocked (fun _ ran => expireDueAward_labels labels ran) stepped
  | syncDrop drop record readAt =>
      obtain ⟨-, stepped⟩ := Option.ite_none_left_eq_some.mp stepped
      exact stocked (fun _ ran => labels.of_same (syncDrop_same ran)) stepped
  | cancelDrop drop sender =>
      exact stocked (fun _ ran => labels.of_same (cancelDrop_same ran)) stepped
  | releaseDropListings drop sender =>
      exact stocked (fun _ ran => labels.of_same (releaseDropListings_same ran)) stepped
  | transitionDrop drop =>
      cases stepped
      exact labels.of_same (transitionDueDrop_same ..)

/-- In every run that keeps to the condition, every listing row has the label
of its quantities. -/
theorem listing_labels_agree (references : References) (sys : Sys)
    (reached : Runs.Reachable (marketplace references) keepsLabel sys) (id : ListingId)
    (listing : Listing) (found : sys.inventory.listings.find? id = some listing) :
    LabelLaw listing := by
  have labels : Labels sys.inventory := by
    refine Runs.invariant_under (marketplace references) keepsLabel
      (fun sys => ∀ id cell, sys.cells.find? id = some cell → Sound cell)
      (fun sys => Labels sys.inventory) (fun _ reached _ _ found => reachable_sound reached found)
      ?_ ?_ reached
    · intro sys init
      rw [show sys = emptySys from init]
      constructor
      · intro id listing found
        cases found
      · intro id reservation found
        cases found
    · intro before action after sound labels keeps stepped
      exact labels.step sound keeps stepped
  exact (labelLaw_iff listing).mpr (labels.listings id listing found)

def heldLamp : List Action :=
  lampOrder ++ sampleBind 1 .stripe none none

/-- The held lamp says `reserved`. -/
theorem held_lamp_label :
    ∃ sys, Runs.Reachable (marketplace sampleReferences) keepsLabel sys ∧
      ∃ listing ∈ sys.inventory.listings.find? "lamp",
        listing.reservedQuantity = 1 ∧ LabelLaw listing := by
  obtain ⟨sys, reached, listing, found, held⟩ :=
    @Runs.exists_reachable_of_run _ _ (marketplace sampleReferences) keepsLabel _ rfl heldLamp
      (fun sys => ∃ listing ∈ sys.inventory.listings.find? "lamp", listing.reservedQuantity = 1)
      (by decide +kernel) (by decide +kernel)
  exact ⟨sys, reached, listing, found, held,
    listing_labels_agree sampleReferences sys reached "lamp" listing found⟩

/-- The lamp is sold, and its seller publishes the record anew: nothing is
reserved, and the label says `reserved`. -/
theorem sold_lamp_says_reserved :
    ∃ sys, Runs.Reachable (marketplace sampleReferences) Runs.anyStep sys ∧
      ∃ listing ∈ sys.inventory.listings.find? "lamp", ¬ LabelLaw listing := by
  obtain ⟨sys, reached, listing, found, label, none_held⟩ :=
    Runs.exists_reachable_of_run (marketplace sampleReferences) rfl
      (heldLamp ++
        [ .order 7 10 (.verifyStripe "buyer" (some "cs_1"))
        , .order 7 10 (.applyFiat (some "cs_1") .processor)
        , .syncListing "lamp" { sampleRecord 1 "USD" 2 with listingRevision := 2 } ])
      (fun sys => ∃ listing ∈ sys.inventory.listings.find? "lamp",
        listing.state = .reserved ∧ listing.reservedQuantity = 0)
      (Runs.meets_anyStep _ _ _) (by decide +kernel)
  refine ⟨sys, reached, listing, found, ?_⟩
  intro law
  have held := (law.reserved.mp label).2
  omega

end MarketplaceService
