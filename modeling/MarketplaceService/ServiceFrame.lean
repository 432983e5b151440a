import MarketplaceService.StockFrame
import MarketplaceService.StockLedger

/-!
What a step of the service leaves alone in the stock: closed auctions stay
closed, a reservation that no award owns ends only by a step of its order or by
the expiry sweep, and the sold columns move only by what orders buy and give
back.
-/

namespace MarketplaceService

def AuctionClosed (inventory : Inventory) (id : ListingId) : Prop :=
  ∃ listing ∈ inventory.listings.find? id, listing.auctionActive = false

/-- A write that reopens no auction, ends no reservation but those named and
adds these units to the sold columns. -/
structure Leaves (ended : ReservationId → Reservation → Prop) (sold : ListingId → ℤ)
    (before after : Inventory) : Prop where
  closed : ∀ id, AuctionClosed before id → AuctionClosed after id
  holds : ∀ id, ∀ row ∈ before.reservations.find? id, ¬ ended id row →
    after.reservations.find? id = some row
  sold : ∀ id, (after.soldOf id : ℤ) = before.soldOf id + sold id

namespace Leaves

variable {ended other : ReservationId → Reservation → Prop} {sold : ListingId → ℤ}
  {before middle after : Inventory}

theorem refl (inventory : Inventory) : Leaves ended (fun _ => 0) inventory inventory :=
  ⟨fun _ closed => closed, fun _ _ found _ => found, fun _ => by simp⟩

theorem trans (left : Leaves ended (fun _ => 0) before middle)
    (right : Leaves ended sold middle after) : Leaves ended sold before after where
  closed id shut := right.closed id (left.closed id shut)
  holds id row found kept := right.holds id row (left.holds id row found kept) kept
  sold id := by
    have first := left.sold id
    have second := right.sold id
    omega

theorem mono (leaves : Leaves ended sold before after)
    (names : ∀ id row, ended id row → other id row) : Leaves other sold before after where
  closed := leaves.closed
  holds id row found kept := leaves.holds id row found fun finished => kept (names id row finished)
  sold := leaves.sold

theorem of_same (same : SameListings before after) : Leaves ended (fun _ => 0) before after := by
  constructor
  · intro id shut
    rw [AuctionClosed, same.1]
    exact shut
  · intro id row found _
    rw [same.2]
    exact found
  · intro id
    simp [Inventory.soldOf, same.1]

theorem of_writes {terms : Terms} (writes : Writes terms sold before after)
    (names : ∀ id row, terms.reserves row → ended id row) : Leaves ended sold before after := by
  have frames := writes.frames
  refine ⟨?_, ?_, writes.soldOf⟩
  · intro id shut
    obtain ⟨listing, found, inactive⟩ := shut
    have plates := frames.plates id
    rw [Option.mem_def] at found
    rw [Inventory.plate, Inventory.plate, found, Option.map_some] at plates
    obtain ⟨moved, present, plate⟩ := Option.map_eq_some_iff.mp plates
    exact ⟨moved, present, (congrArg Plate.auctionActive plate).trans inactive⟩
  · intro id row found kept
    exact frames.reservations id row found fun own => kept (names id row own)

theorem of_listing {id : ListingId} {listing : Listing}
    (listings : after.listings = before.listings.set id listing)
    (reservations : after.reservations = before.reservations)
    (inactive : ∀ old ∈ before.listings.find? id, old.auctionActive = false →
      listing.auctionActive = false)
    (kept : listing.soldQuantity = before.soldOf id) :
    Leaves ended (fun _ => 0) before after := by
  constructor
  · intro key shut
    obtain ⟨old, found, shut⟩ := shut
    unfold AuctionClosed
    rw [listings, Keyed.Table.find?_set]
    by_cases same : key = id
    · subst same
      rw [if_pos rfl]
      exact ⟨listing, rfl, inactive old found shut⟩
    · rw [if_neg same]
      exact ⟨old, found, shut⟩
  · intro key row found _
    rw [reservations]
    exact found
  · intro key
    unfold Inventory.soldOf
    rw [listings, Keyed.Table.find?_set]
    by_cases same : key = id
    · subst same
      simp [kept, Inventory.soldOf]
    · simp [same]

theorem of_reservation {key : ReservationId} {row : Reservation}
    (listings : after.listings = before.listings)
    (reservations : after.reservations = before.reservations.set key row)
    (ends : ∀ old ∈ before.reservations.find? key, ended key old) :
    Leaves ended (fun _ => 0) before after := by
  constructor
  · intro id shut
    rw [AuctionClosed, listings]
    exact shut
  · intro id old found kept
    rw [reservations, Keyed.Table.find?_set]
    by_cases same : id = key
    · subst same
      exact absurd (ends old found) kept
    · rw [if_neg same]
      exact found
  · intro id
    simp [Inventory.soldOf, listings]

end Leaves

/-! The writes of the catalog. -/

section Catalog

variable {ended : ReservationId → Reservation → Prop} {inventory after : Inventory} {now : Time}

theorem insertReservation_leaves {key : ReservationId} {row : Reservation}
    (inserted : inventory.insertReservation key row = .ok after) :
    Leaves ended (fun _ => 0) inventory after := by
  obtain ⟨fresh, rfl⟩ := insertReservation_ok inserted
  refine .of_reservation rfl rfl ?_
  intro old found
  rw [Option.mem_def, fresh] at found
  cases found

theorem Relisted.auction {record : ListingRecord} {old listing : Listing}
    (relisted : Relisted record now (some old) listing) :
    listing.auctionActive = old.auctionActive := by
  cases relisted with
  | registered format applied => exact (applyRegistration_ok applied).auction
  | kept => rfl
  | healed => rfl

theorem Relisted.leaves {id : ListingId} {record : ListingRecord} {listing : Listing}
    (relisted : Relisted record now (inventory.listings.find? id) listing) :
    Leaves ended (fun _ => 0) inventory (inventory.setListing id listing) := by
  refine .of_listing rfl rfl ?_ ?_
  · intro old found inactive
    rw [Option.mem_def.mp found] at relisted
    rw [relisted.auction]
    exact inactive
  · unfold Inventory.soldOf
    generalize inventory.listings.find? id = current at relisted
    cases relisted with
    | registered format applied => exact (applyRegistration_ok applied).sold
    | kept => rfl
    | healed => rfl

theorem relist_leaves {id : ListingId} {old listing : Listing}
    (found : inventory.listings.find? id = some old)
    (same : listing.auctionActive = old.auctionActive)
    (sold : listing.soldQuantity = old.soldQuantity) :
    Leaves ended (fun _ => 0) inventory (inventory.setListing id listing) := by
  refine .of_listing rfl rfl ?_ ?_
  · intro stored present inactive
    obtain rfl : stored = old := Option.mem_unique present found
    exact same.trans inactive
  · simp [Inventory.soldOf, found, sold]

theorem tombstone_leaves {id : ListingId} (deleted : tombstone inventory id now = some after) :
    Leaves ended (fun _ => 0) inventory after := by
  obtain ⟨listing, bindings, found, -, -, rfl⟩ := tombstone_ok deleted
  have relisted := @relist_leaves ended inventory id listing { listing with
    deletedAt := some now
    serverRevision := listing.serverRevision + 1 } found rfl rfl
  exact relisted.trans (.of_same ⟨rfl, rfl⟩)

theorem adjustInventory_leaves {id : ListingId} {sender : Sender} {delta : ℤ}
    (adjusted : adjustInventory inventory id sender delta = .ok after) :
    Leaves ended (fun _ => 0) inventory after := by
  obtain ⟨listing, balanced, found, -, -, -, -, rfl⟩ := adjustInventory_ok adjusted
  exact relist_leaves found rfl rfl

theorem placeBid_leaves {id : ListingId} (bid : placeBid inventory id = .ok after) :
    Leaves ended (fun _ => 0) inventory after := by
  obtain ⟨listing, found, -, -, -, rfl⟩ := placeBid_ok bid
  exact relist_leaves found rfl rfl

theorem closeUnsold_leaves {id : ListingId} (closed : closeUnsold inventory id = .ok after) :
    Leaves ended (fun _ => 0) inventory after := by
  obtain ⟨listing, found, -, -, rfl⟩ := closeUnsold_ok closed
  exact .of_listing rfl rfl (fun _ _ _ => rfl) (by simp [Inventory.soldOf, found])

theorem setDigitalVersion_leaves {id : ListingId} {kind : Option DigitalDeliveryKind}
    (written : setDigitalVersion inventory id kind = some after) :
    Leaves ended (fun _ => 0) inventory after := by
  obtain ⟨listing, found, rfl⟩ := Option.map_eq_some_iff.mp written
  exact relist_leaves found rfl rfl

theorem holdForReservation_kept {listing held : Listing} {quantity : ℕ} {unavailable : String}
    (ran : holdForReservation listing quantity unavailable = .ok held) :
    held.auctionActive = listing.auctionActive ∧ held.soldQuantity = listing.soldQuantity := by
  obtain ⟨enough, rfl⟩ := holdForReservation_ok ran
  exact ⟨rfl, rfl⟩

theorem newReservation_leaves {gate : Inventory} {key : ReservationId} {id : ListingId}
    {listing held : Listing} {row : Reservation} (same : SameListings inventory gate)
    (found : inventory.listings.find? id = some listing)
    (kept : held.auctionActive = listing.auctionActive ∧
      held.soldQuantity = listing.soldQuantity)
    (inserted : (gate.setListing id held).insertReservation key row = .ok after) :
    Leaves ended (fun _ => 0) inventory after := by
  have stored : gate.listings.find? id = some listing := by
    rw [same.1]
    exact found
  exact (Leaves.of_same same).trans
    ((relist_leaves stored kept.1 kept.2).trans (insertReservation_leaves inserted))

theorem reserveInventory_leaves {key : ReservationId} {id : ListingId} {sender : Sender}
    {quantity ttlSeconds : ℕ}
    (reserved : reserveInventory inventory key id sender quantity ttlSeconds now = .ok after) :
    Leaves ended (fun _ => 0) inventory after := by
  obtain ⟨found, -, -, -, same, taken, inserted⟩ := reserveInventory_ok reserved
  exact newReservation_leaves same found (holdForReservation_kept taken) inserted

theorem acceptOffer_leaves {award : Award}
    (accepted : acceptOffer inventory award now = .ok after) :
    Leaves ended (fun _ => 0) inventory after := by
  obtain ⟨listing, held, found, -, taken, inserted⟩ := acceptOffer_ok accepted
  exact newReservation_leaves ⟨rfl, rfl⟩ found (holdForReservation_kept taken) inserted

theorem restockReservation_leaves {key : ReservationId} {reservation lapsed : Reservation}
    {gate : Inventory} {state : Listing → ListingState}
    (found : inventory.reservations.find? key = some reservation) (ends : ended key reservation)
    (same : SameListings { inventory with
      reservations := inventory.reservations.set key lapsed } gate)
    (restocked : restockReservation gate reservation state = .ok after) :
    Leaves ended (fun _ => 0) inventory after := by
  have first : Leaves ended (fun _ => 0) inventory { inventory with
      reservations := inventory.reservations.set key lapsed } := by
    refine .of_reservation rfl rfl ?_
    intro old present
    obtain rfl : old = reservation := Option.mem_unique present found
    exact ends
  refine (first.trans (.of_same same)).trans ?_
  obtain ⟨listing, enough, stored, rfl⟩ := restockReservation_ok restocked
  exact relist_leaves stored rfl rfl

theorem expireDueReservation_leaves {key : ReservationId}
    (expired : expireDueReservation inventory key now = .ok after) :
    Leaves (fun id _ => id = key) (fun _ => 0) inventory after := by
  cases expireDueReservation_ok expired with
  | kept => exact .refl _
  | lapsed found _ _ _ _ _ same restocked =>
      exact restockReservation_leaves found rfl same restocked

theorem expireDueAward_leaves {award : Award}
    (expired : expireDueAward inventory award = .ok after) :
    Leaves (fun _ row => row.offerAwardId = some award.id) (fun _ => 0) inventory after := by
  obtain ⟨reservation, found, -, owned, -, -, restocked⟩ := expireDueAward_ok expired
  exact restockReservation_leaves found owned ⟨rfl, rfl⟩ restocked

theorem offerCheckout_leaves {award : Award} {id : OrderId} {fulfillment : Fulfillment}
    {holdWindowSeconds : ℕ} {book : OrderBook}
    (created : offerCheckout inventory award id fulfillment holdWindowSeconds now =
      .ok (book, after)) :
    Leaves (fun _ row => row.offerAwardId = some award.id) (fun _ => 0) inventory after ∧
      book.order.auctionAggregateId = none := by
  cases offerCheckout_ok created with
  | @intro reservation _ found _ _ _ _ _ _ _ owned =>
      refine ⟨.of_reservation rfl rfl ?_, rfl⟩
      intro old present
      obtain rfl : old = reservation := Option.mem_unique present found
      exact owned

theorem closeAuction_leaves {listingId : ListingId} {winner : Pubky} {priceMinor : ℕ}
    {reservation : ReservationId} {id : OrderId} {book : OrderBook}
    (created : closeAuction inventory listingId winner priceMinor reservation id now =
      .ok (book, after)) :
    Leaves ended (fun _ => 0) inventory after ∧ ¬ AuctionClosed inventory listingId ∧
      AuctionClosed after listingId ∧ book.order.auctionAggregateId = some listingId ∧
      book.order.id = id := by
  cases closeAuction_ok created with
  | @intro listing _ found _ _ active enough inserted =>
      have inserts : Leaves ended (fun _ => 0) _ after := insertReservation_leaves inserted
      have closes : Leaves ended (fun _ => 0) inventory (inventory.setListing listingId
          { listing.hold 1 enough with state := .reserved, auctionActive := false }) :=
        .of_listing rfl rfl (fun _ _ _ => rfl) (by simp [Inventory.soldOf, found, Listing.hold])
      refine ⟨closes.trans inserts, ?_, ?_, rfl, rfl⟩
      · rintro ⟨old, present, inactive⟩
        obtain rfl : old = listing := Option.mem_unique present found
        rw [active] at inactive
        cases inactive
      · exact inserts.closed listingId ⟨_, Keyed.Table.find?_set_self .., rfl⟩

theorem holdClaim_leaves {dropId : Option DropId} {resolved : List ResolvedLine}
    (rows : ∀ entry ∈ resolved, inventory.listings.find? entry.line.listing = some entry.row)
    (held : holdClaim dropId resolved inventory = .ok after) :
    Leaves ended (fun _ => 0) inventory after := by
  cases holdClaim_ok held with
  | nothing => exact .refl _
  | claim => exact relist_leaves (rows _ (by simp)) rfl rfl

theorem checkoutCreate_leaves {request : CheckoutRequest} {books : List OrderBook}
    (created : checkoutCreate inventory request now = .ok (books, after)) :
    Leaves ended (fun _ => 0) inventory after ∧
      ∀ book ∈ books, book.order.auctionAggregateId = none := by
  obtain ⟨dropId, gated, resolved, asset, claimed, ran, -, -, rfl, held⟩ :=
    checkoutCreate_ok created
  obtain ⟨same, -⟩ := claimDrop_ok claimed
  obtain ⟨-, rows⟩ := resolveLines_ok ran
  refine ⟨(Leaves.of_same same).trans
    (holdClaim_leaves (fun entry member => (rows entry member).1) held), ?_⟩
  intro book member
  obtain ⟨pair, -, rfl⟩ := List.mem_map.mp member
  rfl

end Catalog

/-! The steps of the service. -/

def Action.ends (sys : Sys) (action : Action) (id : ReservationId) (row : Reservation) : Prop :=
  match action with
  | .order named _ _ => ∃ cell ∈ sys.cells.find? named, cell.book.order.terms.reserves row
  | .expireReservation key => id = key ∧ sys.protectedReservation key = false
  | .offerCheckout .. | .expireAward _ => row.offerAwardId ≠ none
  | _ => False

/-- What an order has bought of a listing, less what it gave back. -/
def Cell.soldOn (listing : ListingId) (cell : Cell) : ℤ :=
  cell.confirmedOn listing - cell.returnedOn listing

/-- What a step adds to the sold column of a listing. -/
def Action.sells (sys after : Sys) (action : Action) (listing : ListingId) : ℤ :=
  match action with
  | .order id _ _ =>
      ((after.cells.find? id).map (Cell.soldOn listing)).getD 0 -
        ((sys.cells.find? id).map (Cell.soldOn listing)).getD 0
  | _ => 0

theorem CellStep.soldOn {references : References} {inventory after : Inventory} {cell done : Cell}
    {now : Time} {action : OrderAction} (sound : Sound cell)
    (step : CellStep references now inventory cell action after done) :
    Writes cell.book.order.terms (fun listing => done.soldOn listing - cell.soldOn listing)
      inventory after := by
  have terms := (step.steady sound).terms
  obtain ⟨moved, move, tidied⟩ := step.moves
  refine move.writes.congr fun listing => ?_
  have bought : moved.boughtOn listing = done.book.standing.boughtOn listing := by
    rw [tidied.eq]
    rfl
  have given : (done.returnedOn listing : ℤ) =
      cell.returnedOn listing + linesOn listing (action.returns cell.book) := by
    rw [Cell.returnedOn, step.returned, linesOn_append]
    push_cast
    rfl
  rw [Cell.soldOn, Cell.soldOn, Cell.confirmedOn_eq, Cell.confirmedOn_eq, given, bought]
  simp only
  ring

theorem step_leaves {references : References} {sys after : Sys} {action : Action}
    (sound : ∀ id cell, sys.cells.find? id = some cell → Sound cell)
    (stepped : sys.step references action = some after) :
    Leaves (action.ends sys) (action.sells sys after) sys.inventory after.inventory := by
  have stocked {result : Except Failure Inventory}
      (leaves : ∀ inventory, result = .ok inventory →
        Leaves (action.ends sys) (fun _ => 0) sys.inventory inventory)
      (stocked : sys.setInventory result = some after) :
      Leaves (action.ends sys) (fun _ => 0) sys.inventory after.inventory := by
    obtain ⟨inventory, ran, rfl⟩ := Option.map_eq_some_iff.mp stocked
    exact leaves inventory (Outcome.toOption_some ran)
  have awarded {award : AwardId}
      (ends : ∀ id row, row.offerAwardId ≠ none → action.ends sys id row) :
      ∀ id row, row.offerAwardId = some award → action.ends sys id row := by
    intro id row owned
    apply ends
    rw [owned]
    exact Option.some_ne_none award
  cases action with
  | tick seconds =>
      cases stepped
      exact .refl _
  | order id now step =>
      obtain ⟨cell, found, -⟩ := Option.bind_eq_some_iff.mp stepped
      obtain ⟨done, present, ran⟩ := order_step found stepped
      have writes := (stepCell_steps (sound id cell found) ran).soldOn (sound id cell found)
      refine .of_writes (writes.congr fun listing => ?_) fun _ _ own => ⟨cell, found, own⟩
      simp [Action.sells, found, present]
  | checkout request =>
      obtain ⟨⟨books, inventory⟩, created, inserted⟩ := Option.bind_eq_some_iff.mp stepped
      rw [insert_inventory inserted]
      exact (checkoutCreate_leaves (Outcome.toOption_some created)).1
  | offerCheckout award order fulfillment holdWindowSeconds =>
      obtain ⟨⟨book, inventory⟩, created, inserted⟩ := Option.bind_eq_some_iff.mp stepped
      rw [insert_inventory inserted]
      exact (offerCheckout_leaves (Outcome.toOption_some created)).1.mono (awarded fun _ _ => id)
  | closeAuction listing winner priceMinor reservation order =>
      obtain ⟨⟨book, inventory⟩, created, inserted⟩ := Option.bind_eq_some_iff.mp stepped
      rw [insert_inventory inserted]
      exact (closeAuction_leaves (Outcome.toOption_some created)).1
  | placeBid listing => exact stocked (fun _ => placeBid_leaves) stepped
  | closeUnsold listing => exact stocked (fun _ => closeUnsold_leaves) stepped
  | registerListing listing record sender recordFound =>
      refine stocked (fun inventory ran => ?_) stepped
      obtain ⟨listing, rfl, relisted⟩ := registerListing_ok ran
      exact relisted.leaves
  | syncListing listing record =>
      refine stocked (fun inventory ran => ?_) stepped
      obtain ⟨listing, rfl, relisted⟩ := syncListing_ok ran
      exact relisted.leaves
  | tombstone listing =>
      obtain ⟨inventory, deleted, rfl⟩ := Option.map_eq_some_iff.mp stepped
      exact tombstone_leaves deleted
  | adjustInventory listing sender delta => exact stocked (fun _ => adjustInventory_leaves) stepped
  | setDigitalVersion listing kind =>
      obtain ⟨inventory, written, rfl⟩ := Option.map_eq_some_iff.mp stepped
      exact setDigitalVersion_leaves written
  | reserveInventory reservation listing sender quantity ttlSeconds =>
      exact stocked (fun _ => reserveInventory_leaves) stepped
  | expireReservation reservation =>
      obtain ⟨unprotected, stepped⟩ := Option.ite_none_left_eq_some.mp stepped
      refine stocked (fun inventory ran => (expireDueReservation_leaves ran).mono ?_) stepped
      intro id row named
      exact ⟨named, by simpa using unprotected⟩
  | acceptOffer award readAt =>
      obtain ⟨-, stepped⟩ := Option.ite_none_left_eq_some.mp stepped
      exact stocked (fun _ => acceptOffer_leaves) stepped
  | expireAward award =>
      exact stocked (fun _ ran => (expireDueAward_leaves ran).mono (awarded fun _ _ => id)) stepped
  | syncDrop drop record readAt =>
      obtain ⟨-, stepped⟩ := Option.ite_none_left_eq_some.mp stepped
      exact stocked (fun _ ran => .of_same (syncDrop_same ran)) stepped
  | cancelDrop drop sender => exact stocked (fun _ ran => .of_same (cancelDrop_same ran)) stepped
  | releaseDropListings drop sender =>
      exact stocked (fun _ ran => .of_same (releaseDropListings_same ran)) stepped
  | transitionDrop drop =>
      cases stepped
      exact .of_same (transitionDueDrop_same ..)

end MarketplaceService
