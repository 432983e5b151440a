import MarketplaceService.OrderCommands

/-!
The seller's side of the stock: listings (`handlers/register_listing.rs`,
`sync_listing.rs`, `listing_deletion.rs`, `inventory.rs`), drops
(`handlers/drops.rs`), and the holds that belong to no order: reservations
(`handlers/reserve_inventory.rs`, `expiry.rs`) and offer awards
(`handlers/offers.rs`, `workers.rs`). The seller's public record is an input.
-/

namespace MarketplaceService

/-! Listings. -/

/-- A validated registration: what the service reads from the seller's
record. `auctionStarted` is whether a new auction opens active. -/
structure ListingRecord where
  sellerPubky : Pubky
  listingRevision : ℕ
  quantity : ℕ
  unitPriceAmountMinor : ℕ
  unitPriceCurrency : String
  unitPriceExponent : ℕ
  shippingMinor : ℕ
  saleFormat : SaleFormat
  auctionStarted : Bool
  fulfillmentMethods : List Fulfillment
deriving DecidableEq, Repr

def revisionStale : Failure :=
  .refused .revisionConflict "The listing revision is stale."

/-- The state `apply_registration` derives from the quantities. -/
def registeredState (quantity committed : ℕ) : ListingState :=
  if quantity = committed then (if 0 < committed then .reserved else .sold) else .available

/-- `apply_registration`: reserved and sold stay, available is what the record
leaves over. A tombstoned row is revived. -/
def applyRegistration (current : Option Listing) (record : ListingRecord) (now : Time) :
    Except Failure Listing :=
  let reserved := (current.map Listing.reservedQuantity).getD 0
  let sold := (current.map Listing.soldQuantity).getD 0
  if enough : reserved + sold ≤ record.quantity then
    let reviving := current.any Listing.isDeleted
    let generation := (current.map Listing.generation).getD 0
    .ok {
      sellerPubky := (current.map Listing.sellerPubky).getD record.sellerPubky
      listingRevision := record.listingRevision
      serverRevision := (current.map Listing.serverRevision).getD 0 + 1
      state := registeredState record.quantity (reserved + sold)
      totalQuantity := record.quantity
      availableQuantity := record.quantity - (reserved + sold)
      reservedQuantity := reserved
      soldQuantity := sold
      balanced := by omega
      unitPriceAmountMinor := record.unitPriceAmountMinor
      unitPriceCurrency := record.unitPriceCurrency
      unitPriceExponent := record.unitPriceExponent
      shippingMinor := record.shippingMinor
      saleFormat := record.saleFormat
      auctionActive :=
        (current.map Listing.auctionActive).getD
          (record.saleFormat = .auction && record.auctionStarted)
      fulfillmentMethods := record.fulfillmentMethods
      generation := if reviving then generation + 1 else generation
      deletedAt := none
      recreatedAt := if reviving then some now else current.bind Listing.recreatedAt
      currentVersion := current.bind Listing.currentVersion }
  else
    .error (.refused .invariantViolation
      "Listing quantity cannot fall below committed inventory.")

def Inventory.setListing (inventory : Inventory) (id : ListingId) (listing : Listing) :
    Inventory :=
  { inventory with listings := inventory.listings.set id listing }

/-- `listing.register`. `recordFound` is whether the seller's homeserver holds
the record a revival needs. -/
def registerListing (inventory : Inventory) (id : ListingId) (record : ListingRecord)
    (sender : Sender) (recordFound : Bool) (now : Time) : Except Failure Inventory := do
  if sender.actor ≠ record.sellerPubky then
    .error (.refused .unauthorized "Only the listing seller may register inventory.")
  else
    let current := inventory.listings.find? id
    let revision := (current.map Listing.serverRevision).getD 0
    let reviving := current.any Listing.isDeleted
    if sender.expectedRevision ≠ revision ∧ !(reviving && sender.expectedRevision == 0) then
      .error revisionStale
    else if reviving ∧ (record.saleFormat ≠ .fixedPrice ∨
        current.any fun deleted => deleted.saleFormat ≠ .fixedPrice) then
      .error (.refused .invalidState
        "This listing id was deleted. Publish the auction under a new id.")
    else if reviving ∧ !recordFound then
      .error (.refused .invalidState
        "This listing was deleted. Publish its record again to re-create it.")
    else if !reviving && current.any fun listing =>
        record.listingRevision ≤ listing.listingRevision then
      .error (.refused .revisionConflict "The public listing revision must advance.")
    else if current.any fun listing => listing.saleFormat ≠ record.saleFormat then
      .error (.refused .invalidState
        "The listing sale format cannot change after registration.")
    else
      let listing ← applyRegistration current record now
      return inventory.setListing id listing

/-- `listing.sync`: an auction only confirms its record; an equal revision
heals the derived columns. -/
def syncListing (inventory : Inventory) (id : ListingId) (record : ListingRecord) (now : Time) :
    Except Failure Inventory := do
  let current := inventory.listings.find? id
  let registered ← match current with
    | none =>
        if record.saleFormat = .auction then
          .error (.refused .invalidState
            "The seller must register this auction with its private reserve authority.")
        else applyRegistration none record now
    | some listing =>
        if listing.isDeleted then
          if listing.saleFormat ≠ .fixedPrice ∨ record.saleFormat ≠ .fixedPrice then
            .error (.refused .invalidState
              "This listing id was deleted. Publish the auction under a new id.")
          else applyRegistration current record now
        else if listing.saleFormat = .auction then
          if record.saleFormat ≠ .auction ∨ listing.listingRevision < record.listingRevision then
            .error (.refused .invalidState
              "The seller must register this auction with its private reserve authority.")
          else .ok listing
        else if record.saleFormat = .auction then
          .error (.refused .invalidState
            "The seller must register this auction with its private reserve authority.")
        else if listing.listingRevision < record.listingRevision then
          applyRegistration current record now
        else if record.listingRevision = listing.listingRevision ∧
            (record.shippingMinor ≠ listing.shippingMinor ∨
              record.fulfillmentMethods ≠ listing.fulfillmentMethods) then
          .ok { listing with
            serverRevision := listing.serverRevision + 1
            shippingMinor := record.shippingMinor
            fulfillmentMethods := record.fulfillmentMethods }
        else .ok listing
  return inventory.setListing id registered

/-- `tombstone`: the bindings of the listing are released, its stock stays. -/
def tombstone (inventory : Inventory) (id : ListingId) (now : Time) : Option Inventory :=
  match inventory.listings.find? id with
  | none => none
  | some listing =>
      if listing.isDeleted then none
      else some {
        (inventory.setListing id { listing with
          deletedAt := some now
          serverRevision := listing.serverRevision + 1 }) with
        dropListings :=
          ⟨inventory.dropListings.rows.map fun row =>
              (row.1, if row.1.2 = id then { row.2 with active := false, released := true }
                else row.2), by
            rw [List.map_map]
            exact inventory.dropListings.nodup⟩ }

/-- The adjustment of `inventory.rs`: total and available move together. -/
def adjustInventory (inventory : Inventory) (id : ListingId) (sender : Sender) (delta : ℤ) :
    Except Failure Inventory :=
  match inventory.listings.find? id with
  | none => .error (.refused .notFound "The listing is not registered.")
  | some listing =>
      if listing.sellerPubky ≠ sender.actor then
        .error (.refused .unauthorized "Only the listing seller may adjust inventory.")
      else if listing.serverRevision ≠ sender.expectedRevision then
        .error (.refused .revisionConflict "The listing server revision is stale.")
      else if fits : 0 ≤ (listing.totalQuantity : ℤ) + delta ∧
          0 ≤ (listing.availableQuantity : ℤ) + delta then
        let available := ((listing.availableQuantity : ℤ) + delta).toNat
        .ok (inventory.setListing id { listing with
          totalQuantity := ((listing.totalQuantity : ℤ) + delta).toNat
          availableQuantity := available
          serverRevision := listing.serverRevision + 1
          state :=
            if 0 < available then .available
            else if 0 < listing.reservedQuantity then .reserved
            else .sold
          balanced := by
            have balance := listing.balanced
            omega })
      else
        .error (.refused .invalidState
          "The adjustment would make available inventory negative.")

/-- The listing columns of `digital_delivery.set` and `digital_delivery.clear`;
the revision stays. -/
def setDigitalVersion (inventory : Inventory) (id : ListingId)
    (kind : Option DigitalDeliveryKind) : Option Inventory :=
  (inventory.listings.find? id).map fun listing =>
    inventory.setListing id { listing with currentVersion := kind }

def activeAuction (inventory : Inventory) (id : ListingId) : Except Failure Listing :=
  match inventory.listings.find? id with
  | none => .error (.refused .notFound "The auction listing is not registered.")
  | some listing =>
      if listing.saleFormat ≠ .auction ∨ listing.auctionActive = false then
        .error (.refused .invalidState "The auction is not active.")
      else .ok listing

/-- The listing row of an accepted `auction.place_bid`: its revision advances. -/
def placeBid (inventory : Inventory) (id : ListingId) : Except Failure Inventory := do
  let listing ← activeAuction inventory id
  if listing.isDeleted then
    .error (.refused .notFound "The auction listing is not registered.")
  else
    return inventory.setListing id { listing with serverRevision := listing.serverRevision + 1 }

/-- `close_locked_auction` without a winner: nothing is reserved, and the label
is written whatever is available. -/
def closeUnsold (inventory : Inventory) (id : ListingId) : Except Failure Inventory := do
  let listing ← activeAuction inventory id
  return inventory.setListing id { listing with
    serverRevision := listing.serverRevision + 1
    state := .available
    auctionActive := false }

/-! Reservations and awards. -/

/-- The `available → reserved` write of a hold that belongs to no order. -/
def holdForReservation (listing : Listing) (quantity : ℕ) (unavailable : String) :
    Except Failure Listing :=
  if enough : quantity ≤ listing.availableQuantity then
    let held := listing.hold quantity enough
    if canTransition listingMachine listing.state held.state then .ok held
    else .error (.refused .invariantViolation "The listing cannot enter the reserved state.")
  else
    .error (.refused .insufficientInventory unavailable)

def Inventory.insertReservation (inventory : Inventory) (id : ReservationId)
    (reservation : Reservation) : Except Failure Inventory :=
  if (inventory.reservations.find? id).isSome then
    .error (.database "reservations_pkey")
  else
    .ok { inventory with reservations := inventory.reservations.set id reservation }

/-- `inventory.reserve`: a drop-bound listing is gated one unit at a time. -/
def reserveInventory (inventory : Inventory) (id : ReservationId) (listingId : ListingId)
    (sender : Sender) (quantity ttlSeconds : ℕ) (now : Time) : Except Failure Inventory :=
  match inventory.listings.find? listingId with
  | none => .error (.refused .notFound "The listing is not registered.")
  | some listing =>
      if listing.isDeleted then
        .error (.refused .notFound "The listing is not registered.")
      else if listing.sellerPubky = sender.actor then
        .error (.refused .unauthorized "A seller cannot reserve their own listing.")
      else if sender.expectedRevision ≠ listing.serverRevision then
        .error revisionStale
      else if listing.availableQuantity < quantity then
        .error (.refused .insufficientInventory "The requested quantity is unavailable.")
      else do
        let bound := lockBoundDrop inventory listingId
        let inventory ← match bound with
          | none => .ok inventory
          | some (dropId, drop) =>
              if quantity ≠ 1 then
                .error (.refused .invalidCommand
                  "A drop-bound listing can be reserved one unit at a time.")
              else enforceDropGate inventory dropId drop sender.actor 1 now
        let held ← holdForReservation listing quantity "The requested quantity is unavailable."
        (inventory.setListing listingId held).insertReservation id
          { listing := listingId
            buyerPubky := sender.actor
            quantity := quantity
            status := .active
            expiresAt := now + ttlSeconds
            dropAggregateId := bound.map Prod.fst
            offerAwardId := none }

/-- The order that keeps an auction winner's reservation from the sweep. -/
def protectsReservation (book : OrderBook) (reservation : Reservation) : Bool :=
  book.order.auctionAggregateId == some reservation.listing &&
    book.order.buyerPubky == reservation.buyerPubky &&
    book.order.paymentMethod == some .bitcoin && book.payment.adapter == .paykit &&
    (book.order.paykitRequestState == some .awaitingSellerConfirmation ||
      book.payment.state == .manualReview)

/-- The quantity of a lapsed reservation goes back to its listing; `state` is
the label the statement leaves on it. -/
def restockReservation (inventory : Inventory) (reservation : Reservation)
    (state : Listing → ListingState) : Except Failure Inventory :=
  match inventory.listings.find? reservation.listing with
  | none => .error (.database "no listing row")
  | some listing =>
      if enough : reservation.quantity ≤ listing.held .reserved then
        .ok (inventory.setListing reservation.listing
          { listing.release reservation.quantity .reserved enough with state := state listing })
      else .error (.database "no listing row")

/-- `expire_due_reservations` for one reservation no order protects. -/
def expireDueReservation (inventory : Inventory) (id : ReservationId) (now : Time) :
    Except Failure Inventory :=
  match inventory.reservations.find? id with
  | none => .ok inventory
  | some reservation =>
      if reservation.status = .active ∧ reservation.expiresAt ≤ now ∧
          reservation.offerAwardId = none then do
        let inventory := { inventory with
          reservations := inventory.reservations.set id { reservation with status := .expired } }
        let inventory ← match reservation.dropAggregateId with
          | none => .ok inventory
          | some dropId =>
              match creditDropRelease inventory dropId reservation.buyerPubky
                  reservation.quantity now with
              | (true, credited) => .ok credited
              | (false, _) => .error (.internal "could not credit drop")
        restockReservation inventory reservation fun _ => .available
      else .ok inventory

/-- An accepted offer, as its row holds it. -/
structure Award where
  id : AwardId
  reservationId : ReservationId
  listing : ListingId
  buyerPubky : Pubky
  sellerPubky : Pubky
  quantity : ℕ
  createdAt : Time
  subtotalMinor : ℕ
  shippingMinor : ℕ
  currency : String
  exponent : ℕ
  fulfillmentMethods : List Fulfillment
deriving DecidableEq, Repr

def acceptedOfferHoldSeconds : ℕ := 30 * 60

/-- `offer.accept`, the inventory side: no drop gate applies. -/
def acceptOffer (inventory : Inventory) (award : Award) (now : Time) : Except Failure Inventory :=
  match inventory.listings.find? award.listing with
  | none => .error (.refused .notFound "The offer listing is unavailable.")
  | some listing =>
      if listing.acceptsCommitmentCreatedAt award.createdAt then do
        let held ← holdForReservation listing award.quantity
          "The offered quantity is no longer available."
        (inventory.setListing award.listing held).insertReservation award.reservationId
          { listing := award.listing
            buyerPubky := award.buyerPubky
            quantity := award.quantity
            status := .active
            expiresAt := now + acceptedOfferHoldSeconds
            dropAggregateId := none
            offerAwardId := some award.id }
      else .error (.refused .notFound "The offer listing is unavailable.")

/-- `expire_due_award`: the label changes only on a listing that was empty. -/
def expireDueAward (inventory : Inventory) (award : Award) : Except Failure Inventory :=
  match inventory.reservations.find? award.reservationId with
  | none => .error (.internal "award reservation is not active")
  | some reservation =>
      if reservation.status ≠ .active ∨ reservation.offerAwardId ≠ some award.id then
        .error (.internal "award reservation is not active")
      else if reservation.listing ≠ award.listing ∨ reservation.quantity ≠ award.quantity then
        .error (.internal "award reservation does not match its locked offer")
      else
        restockReservation
          { inventory with
            reservations := inventory.reservations.set award.reservationId
              { reservation with status := .expired } }
          reservation fun listing =>
            if listing.availableQuantity = 0 then .available else listing.state

/-! Drops. -/

structure DropRecord where
  sellerPubky : Pubky
  revision : ℕ
  startsAt : Time
  endsAt : Option Time
  totalQuantity : ℕ
  perBuyerLimit : ℕ
  listingIds : List ListingId
deriving DecidableEq, Repr

/-- `insert_drop_listing_bindings`: each listing live, bound at its current
generation. -/
def insertDropListingBindings (inventory : Inventory) (dropId : DropId) (active : Bool) :
    List ListingId → Except Failure Inventory
  | [] => .ok inventory
  | id :: rest =>
      match inventory.listings.find? id with
      | none => .error (.refused .invalidCommand "The drop references unregistered listings.")
      | some listing =>
          if listing.isDeleted then
            .error (.refused .invalidCommand "The drop references unregistered listings.")
          else if active && inventory.dropListings.rows.any fun row =>
              row.1.2 == id && row.2.active && row.2.listingGeneration == listing.generation then
            .error (.database "drop_listings_one_active_per_listing")
          else
            insertDropListingBindings
              { inventory with
                dropListings := inventory.dropListings.set (dropId, id)
                  { active := active, released := false, listingGeneration := listing.generation } }
              dropId active rest

def removeBindings (inventory : Inventory) (dropId : DropId) : Inventory :=
  { inventory with
    dropListings :=
      ⟨inventory.dropListings.rows.filter fun row => row.1.1 ≠ dropId,
        (inventory.dropListings.rows.filter_sublist.map Prod.fst).nodup
          inventory.dropListings.nodup⟩ }

def effectiveState (drop : Drop) (now : Time) : DropState :=
  if isActiveState drop.state then derivedState drop.startsAt drop.endsAt now else drop.state

/-- `drop.sync`: the first sync registers, a newer record replaces the terms
of a drop still announced on server time, and its units start over. -/
def syncDrop (inventory : Inventory) (dropId : DropId) (record : DropRecord) (now : Time) :
    Except Failure Inventory :=
  let state := derivedState record.startsAt record.endsAt now
  let written (revision paid : ℕ) (fits : paid ≤ record.totalQuantity) : Drop :=
    { sellerPubky := record.sellerPubky
      revision := revision
      recordRevision := record.revision
      state := state
      startsAt := record.startsAt
      endsAt := record.endsAt
      totalQuantity := record.totalQuantity
      perBuyerLimit := record.perBuyerLimit
      remainingQuantity := record.totalQuantity
      paidQuantity := paid
      updatedAt := now
      remaining_le := Nat.le_refl _
      paid_le := fits }
  match inventory.drops.find? dropId with
  | none =>
      insertDropListingBindings
        { inventory with drops := inventory.drops.set dropId (written 1 0 (Nat.zero_le _)) }
        dropId (isActiveState state) record.listingIds
  | some drop =>
      if record.revision ≤ drop.recordRevision then
        .ok inventory
      else if effectiveState drop now ≠ .announced then
        .error (.refused .invalidState "The drop's terms are locked at launch.")
      else if fits : drop.paidQuantity ≤ record.totalQuantity then
        let replaced := { inventory with
          drops := inventory.drops.set dropId (written (drop.revision + 1) drop.paidQuantity fits) }
        insertDropListingBindings (removeBindings replaced dropId) dropId (isActiveState state)
          record.listingIds
      else .error (.database "drops_paid_quantity_check")

/-- `drop.cancel`: outstanding holds are untouched. -/
def cancelDrop (inventory : Inventory) (dropId : DropId) (sender : Sender) (now : Time) :
    Except Failure Inventory :=
  match inventory.drops.find? dropId with
  | none => .error (.refused .notFound "The drop was not found.")
  | some drop =>
      if drop.sellerPubky ≠ sender.actor then
        .error (.refused .unauthorized "Only the seller may cancel a drop.")
      else if sender.expectedRevision ≠ drop.revision then
        .error (.refused .revisionConflict "The drop revision is stale.")
      else if !isActiveState (effectiveState drop now) then
        .error (.refused .invalidState "This drop can no longer be cancelled.")
      else
        .ok (deactivateDropListingBindings
          { inventory with
            drops := inventory.drops.set dropId { drop with
              state := .endedCancelled
              revision := drop.revision + 1
              updatedAt := now } }
          dropId)

/-- `drop.release_listings`: only an ended drop lets go of its listings. -/
def releaseDropListings (inventory : Inventory) (dropId : DropId) (sender : Sender) (now : Time) :
    Except Failure Inventory :=
  match inventory.drops.find? dropId with
  | none => .error (.refused .notFound "The drop was not found.")
  | some row =>
      if row.sellerPubky ≠ sender.actor then
        .error (.refused .unauthorized "Only the seller may release a drop's listings.")
      else if sender.expectedRevision ≠ row.revision then
        .error (.refused .revisionConflict "The drop revision is stale.")
      else
        let (drop, inventory) := applyTimeTransitions inventory dropId row now
        if isActiveState drop.state then
          .error (.refused .invalidState "Listings release only after the drop ends.")
        else
          .ok { inventory with
            drops := inventory.drops.set dropId { drop with
              revision := drop.revision + 1
              updatedAt := now }
            dropListings :=
              ⟨inventory.dropListings.rows.map fun row =>
                  (row.1, if row.1.1 = dropId then { row.2 with active := false, released := true }
                    else row.2), by
                rw [List.map_map]
                exact inventory.dropListings.nodup⟩ }

/-- `transition_due_drops` for one drop. -/
def transitionDueDrop (inventory : Inventory) (dropId : DropId) (now : Time) : Inventory :=
  match inventory.drops.find? dropId with
  | none => inventory
  | some drop => (applyTimeTransitions inventory dropId drop now).2

end MarketplaceService
