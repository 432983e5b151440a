import MarketplaceService.DropGate
import MarketplaceService.ServiceFrame

/-!
The delivery kind of a listing. Only the seller's delivery commands write it: a
step on an order moves quantities, a registration keeps the kind of the row it
writes over, and the other steps of the service write other columns.
-/

namespace MarketplaceService

/-- The kind of the listing's current deliverable. -/
def Inventory.versionOf (inventory : Inventory) (id : ListingId) : Option DigitalDeliveryKind :=
  (inventory.listings.find? id).bind Listing.currentVersion

def SameVersions (before after : Inventory) : Prop :=
  ∀ id, after.versionOf id = before.versionOf id

namespace SameVersions

variable {before middle after : Inventory}

theorem refl (inventory : Inventory) : SameVersions inventory inventory := fun _ => rfl

theorem trans (left : SameVersions before middle) (right : SameVersions middle after) :
    SameVersions before after := fun id => (right id).trans (left id)

theorem of_listings (same : after.listings = before.listings) : SameVersions before after := by
  intro id
  rw [Inventory.versionOf, Inventory.versionOf, same]

theorem of_plates (same : ∀ id, after.plate id = before.plate id) : SameVersions before after := by
  intro id
  have kept := congrArg (fun plate => plate.bind Plate.currentVersion) (same id)
  simp only [Inventory.plate, Option.bind_map] at kept
  exact kept

/-- A row written over keeps its kind; a new row has none. -/
theorem of_set {inventory : Inventory} {id : ListingId} {listing : Listing}
    (kept : listing.currentVersion = inventory.versionOf id) :
    SameVersions inventory (inventory.setListing id listing) := by
  intro other
  unfold Inventory.versionOf Inventory.setListing
  rw [Keyed.Table.find?_set]
  split
  · rename_i same
    rw [same, Option.bind_some, kept]
    rfl
  · rfl

theorem of_found {inventory : Inventory} {id : ListingId} {old listing : Listing}
    (found : inventory.listings.find? id = some old)
    (kept : listing.currentVersion = old.currentVersion) :
    SameVersions inventory (inventory.setListing id listing) := by
  apply of_set
  rw [kept, Inventory.versionOf, found]
  rfl

end SameVersions

section Catalog

variable {inventory after : Inventory} {now : Time}

theorem insertReservation_versions {key : ReservationId} {row : Reservation}
    (inserted : inventory.insertReservation key row = .ok after) :
    SameVersions inventory after := by
  obtain ⟨-, rfl⟩ := insertReservation_ok inserted
  exact .of_listings rfl

theorem Relisted.versions {id : ListingId} {record : ListingRecord} {listing : Listing}
    (relisted : Relisted record now (inventory.listings.find? id) listing) :
    SameVersions inventory (inventory.setListing id listing) := by
  apply SameVersions.of_set
  unfold Inventory.versionOf
  generalize inventory.listings.find? id = current at relisted
  cases relisted with
  | registered format applied => exact (applyRegistration_ok applied).version
  | kept => rfl
  | healed => rfl

theorem tombstone_versions {id : ListingId} (deleted : tombstone inventory id now = some after) :
    SameVersions inventory after := by
  obtain ⟨listing, bindings, found, -, -, rfl⟩ := tombstone_ok deleted
  have relisted := @SameVersions.of_found inventory id listing { listing with
    deletedAt := some now
    serverRevision := listing.serverRevision + 1 } found rfl
  exact relisted.trans (.of_listings rfl)

theorem adjustInventory_versions {id : ListingId} {sender : Sender} {delta : ℤ}
    (adjusted : adjustInventory inventory id sender delta = .ok after) :
    SameVersions inventory after := by
  obtain ⟨listing, balanced, found, -, -, -, -, rfl⟩ := adjustInventory_ok adjusted
  exact .of_found found rfl

theorem holdForReservation_version {listing held : Listing} {quantity : ℕ} {unavailable : String}
    (ran : holdForReservation listing quantity unavailable = .ok held) :
    held.currentVersion = listing.currentVersion := by
  obtain ⟨enough, rfl⟩ := holdForReservation_ok ran
  rfl

theorem newReservation_versions {gate : Inventory} {key : ReservationId} {id : ListingId}
    {listing held : Listing} {row : Reservation} (same : SameListings inventory gate)
    (found : inventory.listings.find? id = some listing)
    (kept : held.currentVersion = listing.currentVersion)
    (inserted : (gate.setListing id held).insertReservation key row = .ok after) :
    SameVersions inventory after := by
  have stored : gate.listings.find? id = some listing := by
    rw [same.1]
    exact found
  exact (SameVersions.of_listings same.1).trans
    ((SameVersions.of_found stored kept).trans (insertReservation_versions inserted))

theorem acceptOffer_versions {award : Award}
    (accepted : acceptOffer inventory award now = .ok after) :
    SameVersions inventory after := by
  obtain ⟨listing, held, found, -, taken, inserted⟩ := acceptOffer_ok accepted
  exact newReservation_versions ⟨rfl, rfl⟩ found (holdForReservation_version taken) inserted

theorem restockReservation_versions {reservation : Reservation} {state : Listing → ListingState}
    (restocked : restockReservation inventory reservation state = .ok after) :
    SameVersions inventory after := by
  obtain ⟨listing, enough, stored, rfl⟩ := restockReservation_ok restocked
  exact .of_found stored rfl

theorem expireDueReservation_versions {key : ReservationId}
    (expired : expireDueReservation inventory key now = .ok after) :
    SameVersions inventory after := by
  cases expireDueReservation_ok expired with
  | kept => exact .refl _
  | lapsed _ _ _ _ _ _ same restocked =>
      exact (SameVersions.of_listings same.1).trans (restockReservation_versions restocked)

theorem expireDueAward_versions {award : Award}
    (expired : expireDueAward inventory award = .ok after) : SameVersions inventory after := by
  obtain ⟨reservation, -, -, -, -, -, restocked⟩ := expireDueAward_ok expired
  refine SameVersions.trans ?_ (restockReservation_versions restocked)
  exact .of_listings rfl

theorem offerCheckout_versions {award : Award} {id : OrderId} {fulfillment : Fulfillment}
    {holdWindowSeconds : ℕ} {book : OrderBook}
    (created : offerCheckout inventory award id fulfillment holdWindowSeconds now =
      .ok (book, after)) :
    SameVersions inventory after ∧ ∀ line ∈ book.order.lines, line.digitalKind = none := by
  cases offerCheckout_ok created with
  | intro =>
      refine ⟨.of_listings rfl, ?_⟩
      intro line member
      rw [List.mem_singleton.mp member]

theorem closeAuction_versions {listingId : ListingId} {winner : Pubky} {priceMinor : ℕ}
    {reservation : ReservationId} {id : OrderId} {book : OrderBook}
    (created : closeAuction inventory listingId winner priceMinor reservation id now =
      .ok (book, after)) :
    SameVersions inventory after ∧ ∀ line ∈ book.order.lines, line.digitalKind = none := by
  cases closeAuction_ok created with
  | @intro listing _ found _ _ _ enough inserted =>
      have held := @SameVersions.of_found inventory listingId listing
        { listing.hold 1 enough with state := .reserved, auctionActive := false } found rfl
      refine ⟨held.trans (insertReservation_versions inserted), ?_⟩
      intro line member
      rw [List.mem_singleton.mp member]

theorem holdClaim_versions {dropId : Option DropId} {resolved : List ResolvedLine}
    (rows : ∀ entry ∈ resolved, inventory.listings.find? entry.line.listing = some entry.row)
    (held : holdClaim dropId resolved inventory = .ok after) : SameVersions inventory after := by
  cases holdClaim_ok held with
  | nothing => exact .refl _
  | claim => exact .of_found (rows _ (by simp)) rfl

theorem checkoutCreate_versions {request : CheckoutRequest} {books : List OrderBook}
    (created : checkoutCreate inventory request now = .ok (books, after)) :
    SameVersions inventory after ∧ ∀ book ∈ books, ∀ line ∈ book.order.lines,
      ∀ kind ∈ line.digitalKind, inventory.versionOf line.listing = some kind := by
  obtain ⟨dropId, gated, resolved, asset, claimed, ran, -, -, rfl, held⟩ :=
    checkoutCreate_ok created
  obtain ⟨same, -⟩ := claimDrop_ok claimed
  obtain ⟨-, rows⟩ := resolveLines_ok ran
  refine ⟨(SameVersions.of_listings same.1).trans
    (holdClaim_versions (fun entry member => (rows entry member).1) held), ?_⟩
  intro book member line listed kind named
  obtain ⟨⟨id, group⟩, paired, rfl⟩ := List.mem_map.mp member
  obtain ⟨entry, inside, rfl⟩ := List.mem_map.mp listed
  have stored := (rows entry (groupLines_mem (List.of_mem_zip paired).2 inside)).1
  rw [same.1] at stored
  simp only [ResolvedLine.orderLine, Option.mem_def] at named
  split at named
  · change (inventory.listings.find? entry.line.listing).bind _ = _
    rw [stored]
    exact named
  · cases named

end Catalog

/-! The steps of the service. -/

def Action.setsKind : Action → Bool
  | .setDigitalVersion .. => true
  | _ => false

theorem stepCell_versions {references : References} {inventory after : Inventory}
    {cell done : Cell} {now : Time} {action : OrderAction} (sound : Sound cell)
    (ran : stepCell references inventory cell now action = some (after, done)) :
    SameVersions inventory after :=
  .of_plates ((stepCell_steps sound ran).soldOn sound).frames.plates

theorem step_versions {references : References} {sys after : Sys} {action : Action}
    (sound : ∀ id cell, sys.cells.find? id = some cell → Sound cell)
    (other : action.setsKind = false) (stepped : sys.step references action = some after) :
    SameVersions sys.inventory after.inventory := by
  have stocked {result : Except Failure Inventory}
      (kept : ∀ inventory, result = .ok inventory → SameVersions sys.inventory inventory)
      (stocked : sys.setInventory result = some after) :
      SameVersions sys.inventory after.inventory := by
    obtain ⟨inventory, ran, rfl⟩ := Option.map_eq_some_iff.mp stocked
    exact kept inventory (Outcome.toOption_some ran)
  cases action with
  | tick seconds =>
      cases stepped
      exact .refl _
  | order id now step =>
      obtain ⟨cell, found, -⟩ := Option.bind_eq_some_iff.mp stepped
      obtain ⟨done, present, ran⟩ := order_step found stepped
      exact stepCell_versions (sound id cell found) ran
  | checkout request =>
      obtain ⟨⟨books, inventory⟩, created, inserted⟩ := Option.bind_eq_some_iff.mp stepped
      rw [insert_inventory inserted]
      exact (checkoutCreate_versions (Outcome.toOption_some created)).1
  | offerCheckout award order fulfillment holdWindowSeconds =>
      obtain ⟨⟨book, inventory⟩, created, inserted⟩ := Option.bind_eq_some_iff.mp stepped
      rw [insert_inventory inserted]
      exact (offerCheckout_versions (Outcome.toOption_some created)).1
  | closeAuction listing winner priceMinor reservation order =>
      obtain ⟨⟨book, inventory⟩, created, inserted⟩ := Option.bind_eq_some_iff.mp stepped
      rw [insert_inventory inserted]
      exact (closeAuction_versions (Outcome.toOption_some created)).1
  | placeBid listing =>
      refine stocked (fun inventory ran => ?_) stepped
      obtain ⟨row, found, -, -, -, rfl⟩ := placeBid_ok ran
      exact .of_found found rfl
  | closeUnsold listing =>
      refine stocked (fun inventory ran => ?_) stepped
      obtain ⟨row, found, -, -, rfl⟩ := closeUnsold_ok ran
      exact .of_found found rfl
  | registerListing listing record sender recordFound =>
      refine stocked (fun inventory ran => ?_) stepped
      obtain ⟨listing, rfl, relisted⟩ := registerListing_ok ran
      exact relisted.versions
  | syncListing listing record =>
      refine stocked (fun inventory ran => ?_) stepped
      obtain ⟨listing, rfl, relisted⟩ := syncListing_ok ran
      exact relisted.versions
  | tombstone listing =>
      obtain ⟨inventory, deleted, rfl⟩ := Option.map_eq_some_iff.mp stepped
      exact tombstone_versions deleted
  | adjustInventory listing sender delta =>
      exact stocked (fun _ => adjustInventory_versions) stepped
  | setDigitalVersion listing kind => cases other
  | reserveInventory reservation listing sender quantity ttlSeconds =>
      refine stocked (fun inventory ran => ?_) stepped
      obtain ⟨found, -, -, -, same, taken, inserted⟩ := reserveInventory_ok ran
      exact newReservation_versions same found (holdForReservation_version taken) inserted
  | expireReservation reservation =>
      obtain ⟨-, stepped⟩ := Option.ite_none_left_eq_some.mp stepped
      exact stocked (fun _ => expireDueReservation_versions) stepped
  | acceptOffer award readAt =>
      obtain ⟨-, stepped⟩ := Option.ite_none_left_eq_some.mp stepped
      exact stocked (fun _ => acceptOffer_versions) stepped
  | expireAward award => exact stocked (fun _ => expireDueAward_versions) stepped
  | syncDrop drop record readAt =>
      obtain ⟨-, stepped⟩ := Option.ite_none_left_eq_some.mp stepped
      exact stocked (fun _ ran => .of_listings (syncDrop_same ran).1) stepped
  | cancelDrop drop sender =>
      exact stocked (fun _ ran => .of_listings (cancelDrop_same ran).1) stepped
  | releaseDropListings drop sender =>
      exact stocked (fun _ ran => .of_listings (releaseDropListings_same ran).1) stepped
  | transitionDrop drop =>
      cases stepped
      exact .of_listings (transitionDueDrop_same ..).1

theorem added_versions {references : References} {sys after : Sys} {action : Action} {id : OrderId}
    {cell : Cell} (stepped : sys.step references action = some after)
    (absent : sys.cells.find? id = none) (present : after.cells.find? id = some cell) :
    ∀ line ∈ cell.book.order.lines, ∀ kind ∈ line.digitalKind,
      sys.inventory.versionOf line.listing = some kind := by
  have inserts {inventory : Inventory} {books : List OrderBook}
      (named : ∀ book ∈ books, ∀ line ∈ book.order.lines, ∀ kind ∈ line.digitalKind,
        sys.inventory.versionOf line.listing = some kind)
      (inserted : sys.insert inventory books = some after) :
      ∀ line ∈ cell.book.order.lines, ∀ kind ∈ line.digitalKind,
        sys.inventory.versionOf line.listing = some kind := by
    rcases insert_cells inserted present with old | ⟨-, book, member, -, rfl⟩
    · cases absent.symm.trans old
    · exact named book member
  have single {inventory : Inventory} {book : OrderBook}
      (plain : ∀ line ∈ book.order.lines, line.digitalKind = none)
      (inserted : sys.insert inventory [book] = some after) :
      ∀ line ∈ cell.book.order.lines, ∀ kind ∈ line.digitalKind,
        sys.inventory.versionOf line.listing = some kind := by
    refine inserts ?_ inserted
    intro only member line listed kind named
    rw [List.mem_singleton.mp member] at listed
    rw [plain line listed] at named
    cases named
  by_cases creates : action.creates = true
  · cases action with
    | checkout request =>
        obtain ⟨⟨books, inventory⟩, created, inserted⟩ := Option.bind_eq_some_iff.mp stepped
        exact inserts (checkoutCreate_versions (Outcome.toOption_some created)).2 inserted
    | offerCheckout award order fulfillment holdWindowSeconds =>
        obtain ⟨⟨book, inventory⟩, created, inserted⟩ := Option.bind_eq_some_iff.mp stepped
        exact single (offerCheckout_versions (Outcome.toOption_some created)).2 inserted
    | closeAuction listing winner priceMinor reservation order =>
        obtain ⟨⟨book, inventory⟩, created, inserted⟩ := Option.bind_eq_some_iff.mp stepped
        exact single (closeAuction_versions (Outcome.toOption_some created)).2 inserted
    | _ => cases creates
  · cases ordered : action.onOrder with
    | none =>
        rw [(step_beside stepped ordered (by simpa using creates)).1] at present
        cases absent.symm.trans present
    | some step =>
        cases step_cells stepped present with
        | same old => cases absent.symm.trans old
        | stepped named old moved => cases absent.symm.trans old
        | fresh fresh created =>
            -- A step of an order adds none.
            cases step_inv stepped with
            | order named found ran cells =>
                rw [cells, Keyed.Table.find?_set] at present
                split at present
                · rename_i same
                  rw [same] at absent
                  cases absent.symm.trans found
                · cases absent.symm.trans present
            | created foreign _ _ => cases foreign.symm.trans ordered
            | beside foreign _ => cases foreign.symm.trans ordered

end MarketplaceService
