import MarketplaceService.AuctionHouse

/-!
What the rest of the service does to a listing under auction. No step but a
registration, a bid or a close writes what the auction reads of its listing
row, and the units a step takes out of the available column are those its
command or its order names: several of them do so without looking at the sale
format.
-/

namespace MarketplaceService

/-- What an auction reads of its listing row. -/
structure Lot where
  sellerPubky : Pubky
  listingRevision : ℕ
  unitPrice : Money
  active : Bool
deriving DecidableEq, Repr

def Listing.lot (listing : Listing) : Lot :=
  { sellerPubky := listing.sellerPubky
    listingRevision := listing.listingRevision
    unitPrice := listing.unitPrice
    active := listing.auctionActive }

def Listing.lot? (listing : Listing) : Option Lot :=
  if listing.saleFormat = .auction then some listing.lot else none

def Inventory.lotOf (inventory : Inventory) (id : ListingId) : Option Lot :=
  (inventory.listings.find? id).bind Listing.lot?

theorem lotOf_setListing {inventory : Inventory} {id : ListingId} {listing : Listing}
    (other : ListingId) :
    (inventory.setListing id listing).lotOf other =
      if other = id then listing.lot? else inventory.lotOf other := by
  unfold Inventory.lotOf Inventory.setListing
  rw [Keyed.Table.find?_set]
  by_cases here : other = id <;> simp [here]

theorem lotOf_listing {inventory : Inventory} {id : ListingId} {lot : Lot}
    (listed : inventory.lotOf id = some lot) :
    ∃ listing, inventory.listings.find? id = some listing ∧ listing.saleFormat = .auction ∧
      listing.lot = lot := by
  obtain ⟨listing, found, shown⟩ := Option.bind_eq_some_iff.mp listed
  obtain ⟨format, same⟩ := Option.ite_none_right_eq_some.mp shown
  exact ⟨listing, found, format, Option.some.inj same⟩

theorem lotOf_found {inventory : Inventory} {id : ListingId} {listing : Listing}
    (found : inventory.listings.find? id = some listing) (format : listing.saleFormat = .auction) :
    inventory.lotOf id = some listing.lot := by
  rw [Inventory.lotOf, found, Option.bind_some, Listing.lot?, if_pos format]

theorem lot?_fixed {listing : Listing} (fixed : listing.saleFormat = .fixedPrice) :
    listing.lot? = none := by
  rw [Listing.lot?, fixed]
  rfl

/-- The lots stay, and of a listing under auction no more units are taken than
asked for. -/
structure Asks (asked : ListingId → ℕ) (before after : Inventory) : Prop where
  lots : ∀ id, after.lotOf id = before.lotOf id
  available : ∀ id, (before.lotOf id).isSome = true →
    before.availableOf id ≤ after.availableOf id + asked id

namespace Asks

variable {asked : ListingId → ℕ} {before middle after inventory : Inventory}

theorem refl (inventory : Inventory) : Asks asked inventory inventory :=
  ⟨fun _ => rfl, fun _ _ => Nat.le_add_right _ _⟩

theorem trans (left : Asks (fun _ => 0) before middle) (right : Asks asked middle after) :
    Asks asked before after where
  lots id := (right.lots id).trans (left.lots id)
  available id auctioned := by
    have first := left.available id auctioned
    rw [← left.lots id] at auctioned
    exact first.trans (right.available id auctioned)

theorem of_listings (listings : after.listings = before.listings) : Asks asked before after := by
  constructor
  · intro id
    rw [Inventory.lotOf, Inventory.lotOf, listings]
  · intro id _
    rw [Inventory.availableOf, Inventory.availableOf, listings]
    exact Nat.le_add_right _ _

/-- One listing is written: its lot stays, and so many units leave it. -/
theorem of_listing {id : ListingId} {old listing : Listing}
    (found : inventory.listings.find? id = some old) (lot : listing.lot? = old.lot?)
    (available : listing.saleFormat = .auction →
      old.availableQuantity ≤ listing.availableQuantity + asked id) :
    Asks asked inventory (inventory.setListing id listing) := by
  have stored : inventory.lotOf id = old.lot? := by
    rw [Inventory.lotOf, found, Option.bind_some]
  constructor
  · intro other
    rw [lotOf_setListing]
    by_cases here : other = id
    · rw [if_pos here, here, lot, stored]
    · rw [if_neg here]
  · intro other auctioned
    rw [availableOf_setListing]
    by_cases here : other = id
    · rw [here, stored, ← lot] at auctioned
      have format : listing.saleFormat = .auction := by
        by_contra fixed
        rw [Listing.lot?, if_neg fixed] at auctioned
        cases auctioned
      rw [if_pos here, here, Inventory.availableOf, found]
      exact available format
    · rw [if_neg here]
      exact Nat.le_add_right _ _

theorem of_fixed {id : ListingId} {listing : Listing}
    (old : ∀ row ∈ inventory.listings.find? id, row.saleFormat = .fixedPrice)
    (fixed : listing.saleFormat = .fixedPrice) :
    Asks asked inventory (inventory.setListing id listing) := by
  have unlisted : inventory.lotOf id = none := by
    cases found : inventory.listings.find? id with
    | none => rw [Inventory.lotOf, found, Option.bind_none]
    | some row => rw [Inventory.lotOf, found, Option.bind_some, lot?_fixed (old row found)]
  constructor
  · intro other
    rw [lotOf_setListing]
    by_cases here : other = id
    · rw [if_pos here, here, lot?_fixed fixed, unlisted]
    · rw [if_neg here]
  · intro other auctioned
    rw [availableOf_setListing]
    by_cases here : other = id
    · rw [here, unlisted] at auctioned
      cases auctioned
    · rw [if_neg here]
      exact Nat.le_add_right _ _

end Asks

/-! The seller's side. -/

section Catalog

variable {inventory after : Inventory} {now : Time} {asked : ListingId → ℕ}

theorem applyRegistration_format {current : Option Listing} {record : ListingRecord}
    {listing : Listing} (applied : applyRegistration current record now = .ok listing) :
    listing.saleFormat = record.saleFormat :=
  (applyRegistration_ok applied).1

theorem Relisted.asks {id : ListingId} {record : ListingRecord} {listing : Listing}
    (relisted : Relisted record now (inventory.listings.find? id) listing)
    (fixed : record.saleFormat = .fixedPrice) :
    Asks asked inventory (inventory.setListing id listing) := by
  cases stored : inventory.listings.find? id with
  | none =>
      rw [stored] at relisted
      cases relisted with
      | registered format applied =>
          refine .of_fixed ?_ ((applyRegistration_format applied).trans fixed)
          intro row present
          rw [stored] at present
          cases present
  | some old =>
      rw [stored] at relisted
      cases relisted with
      | registered format applied =>
          refine .of_fixed ?_ ((applyRegistration_format applied).trans fixed)
          intro row present
          obtain rfl : row = old := Option.some.inj (present.symm.trans stored)
          exact (format row rfl).symm.trans fixed
      | kept => exact .of_listing stored rfl fun _ => Nat.le_add_right _ _
      | healed => exact .of_listing stored rfl fun _ => Nat.le_add_right _ _

theorem syncListing_auction {id : ListingId} {record : ListingRecord}
    (auction : record.saleFormat = .auction)
    (synced : syncListing inventory id record now = .ok after) :
    ∃ listing, inventory.listings.find? id = some listing ∧
      after = inventory.setListing id listing := by
  unfold syncListing at synced
  simp only [auction] at synced
  cases found : inventory.listings.find? id with
  | none =>
      simp only [found] at synced
      cases synced
  | some listing =>
      refine ⟨listing, rfl, ?_⟩
      simp only [found] at synced
      split at synced
      · simp only [ne_eq, reduceCtorEq, not_false_eq_true, or_true, if_true] at synced
        cases synced
      · split at synced
        · split at synced
          · cases synced
          · cases synced
            rfl
        · cases synced

theorem syncListing_asks {id : ListingId} {record : ListingRecord}
    (synced : syncListing inventory id record now = .ok after) : Asks asked inventory after := by
  cases format : record.saleFormat with
  | fixedPrice =>
      obtain ⟨listing, rfl, relisted⟩ := syncListing_ok synced
      exact relisted.asks format
  | auction =>
      obtain ⟨listing, found, rfl⟩ := syncListing_auction format synced
      exact .of_listing found rfl fun _ => Nat.le_add_right _ _

theorem tombstone_asks {id : ListingId} (deleted : tombstone inventory id now = some after) :
    Asks asked inventory after := by
  obtain ⟨listing, bindings, found, -, -, rfl⟩ := tombstone_ok deleted
  have relisted : Asks (fun _ => 0) inventory (inventory.setListing id { listing with
      deletedAt := some now
      serverRevision := listing.serverRevision + 1 }) :=
    .of_listing found rfl fun _ => Nat.le_refl _
  exact relisted.trans (.of_listings rfl)

theorem adjustInventory_asks {id : ListingId} {sender : Sender} {delta : ℤ}
    (adjusted : adjustInventory inventory id sender delta = .ok after)
    (names : (-delta).toNat ≤ asked id) : Asks asked inventory after := by
  obtain ⟨listing, balanced, found, -, -, -, -, rfl⟩ := adjustInventory_ok adjusted
  refine .of_listing found rfl fun _ => ?_
  simp only
  omega

theorem holdForReservation_lot {listing held : Listing} {quantity : ℕ} {unavailable : String}
    (ran : holdForReservation listing quantity unavailable = .ok held) :
    held.lot? = listing.lot? ∧
      held.availableQuantity + quantity = listing.availableQuantity := by
  obtain ⟨enough, rfl⟩ := holdForReservation_ok ran
  exact ⟨rfl, Nat.sub_add_cancel enough⟩

theorem newReservation_asks {gate : Inventory} {key : ReservationId} {id : ListingId}
    {listing held : Listing} {row : Reservation} {quantity : ℕ} {unavailable : String}
    (same : SameListings inventory gate) (found : inventory.listings.find? id = some listing)
    (taken : holdForReservation listing quantity unavailable = .ok held)
    (inserted : (gate.setListing id held).insertReservation key row = .ok after)
    (names : quantity ≤ asked id) : Asks asked inventory after := by
  have stored : gate.listings.find? id = some listing := by
    rw [same.1]
    exact found
  obtain ⟨lot, rest⟩ := holdForReservation_lot taken
  have wrote : Asks asked gate (gate.setListing id held) :=
    .of_listing stored lot fun _ => by omega
  have listings : after.listings = (gate.setListing id held).listings :=
    (insertReservation_tables inserted).1
  have first : Asks (fun _ => 0) inventory gate := .of_listings same.1
  refine first.trans ?_
  constructor
  · intro other
    rw [Inventory.lotOf, listings]
    exact wrote.lots other
  · intro other auctioned
    rw [show after.availableOf other = (gate.setListing id held).availableOf other by
      rw [Inventory.availableOf, Inventory.availableOf, listings]]
    exact wrote.available other auctioned

theorem reserveInventory_asks {key : ReservationId} {id : ListingId} {sender : Sender}
    {quantity ttlSeconds : ℕ}
    (reserved : reserveInventory inventory key id sender quantity ttlSeconds now = .ok after)
    (names : quantity ≤ asked id) : Asks asked inventory after := by
  obtain ⟨found, -, -, -, same, taken, inserted⟩ := reserveInventory_ok reserved
  exact newReservation_asks same found taken inserted names

theorem acceptOffer_asks {award : Award} (accepted : acceptOffer inventory award now = .ok after)
    (names : award.quantity ≤ asked award.listing) : Asks asked inventory after := by
  obtain ⟨listing, held, found, -, taken, inserted⟩ := acceptOffer_ok accepted
  exact newReservation_asks ⟨rfl, rfl⟩ found taken inserted names

theorem restockReservation_asks {reservation : Reservation} {gate : Inventory}
    {state : Listing → ListingState} (listings : gate.listings = inventory.listings)
    (restocked : restockReservation gate reservation state = .ok after) :
    Asks asked inventory after := by
  have first : Asks (fun _ => 0) inventory gate := .of_listings listings
  refine first.trans ?_
  obtain ⟨listing, enough, stored, rfl⟩ := restockReservation_ok restocked
  refine .of_listing stored rfl fun _ => ?_
  exact (Nat.le_add_right _ _).trans (Nat.le_add_right _ _)

theorem expireDueReservation_asks {key : ReservationId}
    (expired : expireDueReservation inventory key now = .ok after) :
    Asks asked inventory after := by
  cases expireDueReservation_ok expired with
  | kept => exact .refl _
  | lapsed _ _ _ _ _ _ same restocked => exact restockReservation_asks same.1 restocked

theorem expireDueAward_asks {award : Award} (expired : expireDueAward inventory award = .ok after) :
    Asks asked inventory after := by
  obtain ⟨reservation, -, -, -, -, -, restocked⟩ := expireDueAward_ok expired
  exact restockReservation_asks (by rfl) restocked

theorem offerCheckout_listings {award : Award} {id : OrderId} {fulfillment : Fulfillment}
    {holdWindowSeconds : ℕ} {book : OrderBook}
    (created : offerCheckout inventory award id fulfillment holdWindowSeconds now =
      .ok (book, after)) : after.listings = inventory.listings := by
  cases offerCheckout_ok created with
  | intro => rfl

theorem holdClaim_asks {dropId : Option DropId} {resolved : List ResolvedLine}
    (rows : ∀ entry ∈ resolved, inventory.listings.find? entry.line.listing = some entry.row ∧
      entry.row.saleFormat = .fixedPrice)
    (held : holdClaim dropId resolved inventory = .ok after) : Asks asked inventory after := by
  cases holdClaim_ok held with
  | nothing => exact .refl _
  | @claim _ claim =>
      obtain ⟨found, fixed⟩ := rows claim (by simp)
      refine .of_fixed ?_ fixed
      intro row present
      obtain rfl : row = claim.row := Option.some.inj (present.symm.trans found)
      exact fixed

theorem checkoutCreate_asks {request : CheckoutRequest} {books : List OrderBook}
    (created : checkoutCreate inventory request now = .ok (books, after)) :
    Asks asked inventory after := by
  obtain ⟨dropId, gated, resolved, asset, claimed, ran, -, -, -, held⟩ := checkoutCreate_ok created
  obtain ⟨same, -⟩ := claimDrop_ok claimed
  obtain ⟨-, rows⟩ := resolveLines_ok ran
  have gate : Asks (fun _ => 0) inventory gated := .of_listings same.1
  exact gate.trans (holdClaim_asks rows held)

end Catalog

/-! The steps of the service. -/

/-- The units of a listing that a step asks for, whatever its sale format. -/
def Action.asks (sys : Sys) (action : Action) (id : ListingId) : ℕ :=
  match action with
  | .order named _ step =>
      ((sys.cells.find? named).map fun cell =>
        if step.acquiresHold || step.retakes cell.book then linesOn id cell.book.order.lines
        else 0).getD 0
  | .reserveInventory _ listing _ quantity _ => if listing = id then quantity else 0
  | .acceptOffer award _ => if award.listing = id then award.quantity else 0
  | .adjustInventory listing _ delta => if listing = id then (-delta).toNat else 0
  | _ => 0

theorem lotOf_plate {before after : Inventory} {id : ListingId}
    (plate : after.plate id = before.plate id) : after.lotOf id = before.lotOf id := by
  unfold Inventory.plate at plate
  unfold Inventory.lotOf
  cases found : before.listings.find? id with
  | none =>
      rw [found, Option.map_none, Option.map_eq_none_iff] at plate
      rw [plate]
  | some listing =>
      rw [found, Option.map_some] at plate
      obtain ⟨moved, present, same⟩ := Option.map_eq_some_iff.mp plate
      rw [present, Option.bind_some, Option.bind_some]
      simp only [Listing.plate, Plate.mk.injEq] at same
      simp [Listing.lot?, Listing.lot, Listing.unitPrice, same]

theorem CellStep.asks {references : References} {inventory after : Inventory} {cell done : Cell}
    {now : Time} {step : OrderAction} (sound : Sound cell)
    (ran : stepCell references inventory cell now step = some (after, done)) (id : ListingId) :
    inventory.availableOf id ≤ after.availableOf id +
      if step.acquiresHold || step.retakes cell.book then linesOn id cell.book.order.lines
      else 0 := by
  cases (stepCell_steps sound ran).taking sound with
  | nothing restocked => exact (restocked.available id).trans (Nat.le_add_right _ _)
  | @hold held acquires single free acquired rest =>
      have available := forLines_available (acquireMove _) rfl rfl (orRollback_ok acquired) id
      have kept := rest.available id
      change held.availableOf id + linesOn id cell.book.order.lines = _ at available
      simp only [acquires, Bool.true_or, if_true]
      omega
  | @retake order result moved retakes terms deliverable unheld retaken rest holds =>
      have retaking := retakes.retakes ran
      have kept := rest.available id
      simp only [retaking, Bool.or_true, if_true]
      by_cases lowered : moved.availableOf id < inventory.availableOf id
      · obtain ⟨-, lines, left, -, -, -, split, available⟩ := reacquireStock_takes retaken lowered
        have own : order.lines = cell.book.order.lines := congrArg Terms.lines terms
        have some_lines : linesOn id lines ≤ linesOn id cell.book.order.lines := by
          rw [← own, split, linesOn_append]
          exact Nat.le_add_right _ _
        omega
      · omega

theorem step_asks {references : References} {sys after : Sys} {action : Action}
    (sound : ∀ id cell, sys.cells.find? id = some cell → Sound cell)
    (plain : action.readsFile = false) (stepped : sys.step references action = some after) :
    Asks (action.asks sys) sys.inventory after.inventory := by
  have stocked {result : Except Failure Inventory}
      (asks : ∀ inventory, result = .ok inventory →
        Asks (action.asks sys) sys.inventory inventory)
      (stocked : sys.setInventory result = some after) :
      Asks (action.asks sys) sys.inventory after.inventory := by
    obtain ⟨inventory, ran, rfl⟩ := Option.map_eq_some_iff.mp stocked
    exact asks inventory (Outcome.toOption_some ran)
  cases action with
  | tick seconds =>
      cases stepped
      exact .refl _
  | order id now step =>
      obtain ⟨cell, found, -⟩ := Option.bind_eq_some_iff.mp stepped
      obtain ⟨done, -, ran⟩ := order_step found stepped
      have known := sound id cell found
      have frames := ((stepCell_steps known ran).soldOn known).frames
      refine ⟨fun listing => lotOf_plate (frames.plates listing), fun listing _ => ?_⟩
      simp only [Action.asks, found, Option.map_some, Option.getD_some]
      exact CellStep.asks known ran listing
  | checkout request =>
      obtain ⟨⟨books, inventory⟩, created, inserted⟩ := Option.bind_eq_some_iff.mp stepped
      rw [insert_inventory inserted]
      exact checkoutCreate_asks (Outcome.toOption_some created)
  | offerCheckout award order fulfillment holdWindowSeconds =>
      obtain ⟨⟨book, inventory⟩, created, inserted⟩ := Option.bind_eq_some_iff.mp stepped
      rw [insert_inventory inserted]
      exact .of_listings (offerCheckout_listings (Outcome.toOption_some created))
  | closeAuction listing winner priceMinor reservation order => cases plain
  | placeBid listing => cases plain
  | closeUnsold listing => cases plain
  | registerListing listing record sender recordFound =>
      refine stocked (fun inventory ran => ?_) stepped
      obtain ⟨row, rfl, relisted⟩ := registerListing_ok ran
      have fixed : record.saleFormat = .fixedPrice := by
        apply fixedPrice_of_not_auction
        simpa [Action.readsFile] using plain
      exact relisted.asks fixed
  | syncListing listing record => exact stocked (fun _ => syncListing_asks) stepped
  | tombstone listing =>
      obtain ⟨inventory, deleted, rfl⟩ := Option.map_eq_some_iff.mp stepped
      exact tombstone_asks deleted
  | adjustInventory listing sender delta =>
      exact stocked (fun _ ran => adjustInventory_asks ran (by simp [Action.asks])) stepped
  | setDigitalVersion listing kind =>
      obtain ⟨inventory, written, rfl⟩ := Option.map_eq_some_iff.mp stepped
      obtain ⟨row, found, rfl⟩ := Option.map_eq_some_iff.mp written
      exact .of_listing found rfl fun _ => Nat.le_add_right _ _
  | reserveInventory reservation listing sender quantity ttlSeconds =>
      exact stocked (fun _ ran => reserveInventory_asks ran (by simp [Action.asks])) stepped
  | expireReservation reservation =>
      obtain ⟨-, stepped⟩ := Option.ite_none_left_eq_some.mp stepped
      exact stocked (fun _ => expireDueReservation_asks) stepped
  | acceptOffer award readAt =>
      obtain ⟨-, stepped⟩ := Option.ite_none_left_eq_some.mp stepped
      exact stocked (fun _ ran => acceptOffer_asks ran (by simp [Action.asks])) stepped
  | expireAward award => exact stocked (fun _ => expireDueAward_asks) stepped
  | syncDrop drop record readAt =>
      obtain ⟨-, stepped⟩ := Option.ite_none_left_eq_some.mp stepped
      exact stocked (fun _ ran => .of_listings (syncDrop_same ran).1) stepped
  | cancelDrop drop sender =>
      exact stocked (fun _ ran => .of_listings (cancelDrop_same ran).1) stepped
  | releaseDropListings drop sender =>
      exact stocked (fun _ ran => .of_listings (releaseDropListings_same ran).1) stepped
  | transitionDrop drop =>
      cases stepped
      exact .of_listings (transitionDueDrop_same ..).1

end MarketplaceService
