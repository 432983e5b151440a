import MarketplaceService.Catalog

/-!
Where orders come from: `checkout.create` (`handlers/checkout.rs`), the
checkout of an accepted offer (`handlers/offer_checkout.rs`) and the close of a
sold auction (`handlers/auction.rs`). The ids of the new rows are inputs, since
the service draws them at random. Delivery addresses, emails and Locks sealing
are left out; `locksAuthority` says whether a Locks snapshot was written.
-/

namespace MarketplaceService

/-- `OrderRow::new_for_insert` and the sandbox payment inserted with it. -/
def newBook (order : Order) (locksAuthority : Bool) : OrderBook :=
  { order := order
    payment :=
      { revision := 1
        adapter := .sandbox
        state := .awaitingEntitlement
        confirmations := 0
        amountMinor := order.totalMinor
        currency := order.currency
        exponent := order.exponent
        manualReviewEnteredAt := none
        reviewReason := none
        resolution := none }
    receipt := none
    attempts := .empty
    outbox := []
    locks := none
    locksSnapshot := locksAuthority
    openedLines := []
    sellerConfirmation := none
    manualResolution := none
    resolveOutbox := none }

/-- The columns an INSERT leaves at their defaults. -/
def newOrder (id : OrderId) (buyer seller : Pubky) (lines : List Line) (totalMinor : ℕ)
    (currency : String) (exponent : ℕ) (fulfillment : Fulfillment) (now : Time) : Order :=
  { id := id
    auctionAggregateId := none
    dropAggregateId := none
    buyerPubky := buyer
    sellerPubky := seller
    revision := 1
    state := .pendingPayment
    lines := lines
    totalMinor := totalMinor
    currency := currency
    exponent := exponent
    fulfillment := fulfillment
    createdAt := now
    offerAwardId := none
    edition := none
    cancellationReason := none
    stockHeld := false
    holdExpiresAt := none
    holdSource := none
    externalRefund := none
    paymentMethod := none
    fiatTransactionRef := none
    fiatVerifiedBy := none
    paykitRequestReference := none
    paykitRequestState := none
    paykitDeliveryState := none
    paykitPins := none
    paykitObservedSats := none
    paykitObservation := none
    paykitBindAttempt := 0
    paykitActivationState := none
    sellerWindow := none }

/-! Checkout of fixed-price listings. -/

structure CheckoutLine where
  listing : ListingId
  quantity : ℕ
  expectedRevision : ℕ
  fulfillment : Fulfillment
  quantity_pos : 0 < quantity

instance : DecidableEq CheckoutLine := fun first second =>
  decidable_of_iff
    (first.listing = second.listing ∧ first.quantity = second.quantity ∧
      first.expectedRevision = second.expectedRevision ∧ first.fulfillment = second.fulfillment) (by
    cases first
    cases second
    simp)

structure ResolvedLine where
  line : CheckoutLine
  row : Listing
deriving DecidableEq

def resolveLine (inventory : Inventory) (buyer : Pubky) (line : CheckoutLine) :
    Except Failure ResolvedLine :=
  match inventory.listings.find? line.listing with
  | none => .error (.refused .notFound "A checkout listing is unavailable.")
  | some row =>
      if row.isDeleted then
        .error (.refused .notFound "A checkout listing is unavailable.")
      else if row.sellerPubky = buyer then
        .error (.refused .unauthorized "A buyer cannot purchase their own listing.")
      else if row.saleFormat ≠ .fixedPrice then
        .error (.refused .invalidState "Only fixed-price listings can enter checkout.")
      else if row.state = .reserved then
        .error (.refused .invalidState holdingCopy)
      else if row.state = .sold then
        .error (.refused .invalidState "This listing has sold out.")
      else if line.expectedRevision ≠ row.serverRevision then
        .error (.refused .revisionConflict "A checkout listing revision is stale.")
      else if row.availableQuantity < line.quantity then
        .error (.refused .insufficientInventory "Checkout quantity is unavailable.")
      else if line.fulfillment ∉ row.fulfillmentMethods then
        .error (.refused .invalidState
          "A checkout line's listing does not publish the chosen fulfillment method.")
      else if line.fulfillment = .digital ∧ row.currentVersion = none then
        .error (.refused .invalidState
          "The seller has not finished setting up delivery for this item.")
      else .ok { line := line, row := row }

def resolveLines (inventory : Inventory) (buyer : Pubky) :
    List CheckoutLine → Except Failure (List ResolvedLine)
  | [] => .ok []
  | line :: rest => do
      let resolved ← resolveLine inventory buyer line
      let tail ← resolveLines inventory buyer rest
      return resolved :: tail

/-- One order to be: the lines of one seller with one fulfillment choice. -/
structure CheckoutGroup where
  sellerPubky : Pubky
  fulfillment : Fulfillment
  lines : List ResolvedLine
deriving DecidableEq

def addToGroup (resolved : ResolvedLine) : List CheckoutGroup → List CheckoutGroup
  | [] =>
      [{ sellerPubky := resolved.row.sellerPubky
         fulfillment := resolved.line.fulfillment
         lines := [resolved] }]
  | group :: rest =>
      if group.sellerPubky = resolved.row.sellerPubky ∧
          group.fulfillment = resolved.line.fulfillment then
        { group with lines := group.lines ++ [resolved] } :: rest
      else group :: addToGroup resolved rest

def groupLines (lines : List ResolvedLine) : List CheckoutGroup :=
  lines.foldl (fun groups resolved => addToGroup resolved groups) []

def ResolvedLine.orderLine (resolved : ResolvedLine) : Line :=
  { listing := resolved.line.listing
    quantity := resolved.line.quantity
    digitalKind :=
      if resolved.line.fulfillment = .digital then resolved.row.currentVersion else none
    quantity_pos := resolved.line.quantity_pos }

/-- The seller's price for the group, and its flat shipping when it ships. -/
def CheckoutGroup.totalMinor (group : CheckoutGroup) : ℕ :=
  (group.lines.map fun resolved =>
      resolved.row.unitPriceAmountMinor * resolved.line.quantity).sum +
    if group.fulfillment = .shipping then
      (group.lines.map fun resolved => resolved.row.shippingMinor).sum
    else 0

def boundDrop (inventory : Inventory) (lines : List CheckoutLine) : Option (DropId × Drop) :=
  lines.findSome? fun line => lockBoundDrop inventory line.listing

structure CheckoutRequest where
  buyer : Pubky
  lines : List CheckoutLine
  orderIds : List OrderId
  locksAuthority : Bool
  dropClaimWindowSeconds : ℕ
deriving DecidableEq

def groupBook (request : CheckoutRequest) (dropId : Option DropId) (asset : String × ℕ)
    (now : Time) (id : OrderId) (group : CheckoutGroup) : OrderBook :=
  newBook
    { newOrder id request.buyer group.sellerPubky (group.lines.map ResolvedLine.orderLine)
        group.totalMinor asset.1 asset.2 group.fulfillment now with
      dropAggregateId := dropId
      stockHeld := dropId.isSome
      holdExpiresAt := dropId.map fun _ => now + request.dropClaimWindowSeconds
      holdSource := dropId.map fun _ => .dropClaim }
    request.locksAuthority

def claimDrop (inventory : Inventory) (request : CheckoutRequest) (now : Time) :
    Except Failure (Option DropId × Inventory) :=
  match boundDrop inventory request.lines with
  | none => .ok (none, inventory)
  | some (dropId, drop) =>
      match request.lines with
      | [line] =>
          if line.quantity ≠ 1 then
            .error (.refused .invalidCommand dropSingleLine)
          else do
            let gated ← enforceDropGate inventory dropId drop request.buyer 1 now
            return (some dropId, gated)
      | _ => .error (.refused .invalidCommand dropSingleLine)

def holdClaim (dropId : Option DropId) (resolved : List ResolvedLine) (inventory : Inventory) :
    Except Failure Inventory :=
  match dropId, resolved with
  | some _, [claim] =>
      if enough : claim.line.quantity ≤ claim.row.availableQuantity then
        .ok (inventory.setListing claim.line.listing (claim.row.hold claim.line.quantity enough))
      else .error (.refused .revisionConflict "A checkout listing revision is stale.")
  | some _, _ => .error (.refused .invalidCommand dropSingleLine)
  | none, _ => .ok inventory

/-- `checkout.create`: one order for each group. Only a drop claim holds
stock. -/
def checkoutCreate (inventory : Inventory) (request : CheckoutRequest) (now : Time) :
    Except Failure (List OrderBook × Inventory) := do
  let (dropId, gated) ← claimDrop inventory request now
  let resolved ← resolveLines gated request.buyer request.lines
  match resolved with
  | [] => .error (.refused .invalidCommand "Checkout aggregate identity or revision is invalid.")
  | first :: _ =>
      let asset := (first.row.unitPriceCurrency, first.row.unitPriceExponent)
      if resolved.any fun entry =>
          (entry.row.unitPriceCurrency, entry.row.unitPriceExponent) ≠ asset then
        .error (.refused .invalidCommand "One checkout may contain only one asset and exponent.")
      else
        let groups := groupLines resolved
        -- one drawn id for each order
        if request.orderIds.length ≠ groups.length then
          .error (.database "orders_pkey")
        else
          let books := List.zipWith (groupBook request dropId asset now) request.orderIds groups
          let inventory ← holdClaim dropId resolved gated
          return (books, inventory)

/-! Offers and auctions. -/

/-- The checkout of an accepted offer: the award's reservation is converted,
and the order holds its stock. -/
def offerCheckout (inventory : Inventory) (award : Award) (id : OrderId)
    (fulfillment : Fulfillment) (holdWindowSeconds : ℕ) (now : Time) :
    Except Failure (OrderBook × Inventory) :=
  match inventory.reservations.find? award.reservationId with
  | none =>
      .error (.refused .notFound
        "The inventory reserved for this accepted offer is no longer held.")
  | some reservation =>
      if reservation.status ≠ .active ∨ reservation.expiresAt ≤ now then
        .error (.refused .invalidState
          "This accepted offer's checkout window has expired. Nothing was ordered.")
      else
        match inventory.listings.find? reservation.listing with
        | none =>
            .error (.refused .notFound
              "The inventory reserved for this accepted offer is no longer held.")
        | some listing =>
            if !listing.acceptsCommitmentCreatedAt award.createdAt then
              .error (.refused .notFound "The offer listing is unavailable.")
            else if reservation.buyerPubky ≠ award.buyerPubky ∨
                reservation.listing ≠ award.listing ∨
                reservation.quantity ≠ award.quantity ∨
                reservation.offerAwardId ≠ some award.id ∨
                listing.reservedQuantity < reservation.quantity then
              .error (.refused .notFound
                "The inventory reserved for this accepted offer is no longer held.")
            else if fulfillment ∉ award.fulfillmentMethods then
              .error (.refused .invalidState
                "The accepted offer does not include the chosen fulfillment method.")
            else if positive : 0 < reservation.quantity then
              let total :=
                if fulfillment = .pickup then award.subtotalMinor
                else award.subtotalMinor + award.shippingMinor
              let line : Line :=
                { listing := award.listing
                  quantity := reservation.quantity
                  digitalKind := none
                  quantity_pos := positive }
              .ok (
                newBook
                  { newOrder id award.buyerPubky award.sellerPubky [line] total award.currency
                      award.exponent fulfillment now with
                    offerAwardId := some award.id
                    stockHeld := true
                    holdExpiresAt := some (now + holdWindowSeconds) }
                  false,
                { inventory with
                  reservations := inventory.reservations.set award.reservationId
                    { reservation with status := .converted } })
            else .error (.refused .invalidCommand "The offer checkout input is invalid.")

def auctionHoldSeconds : ℕ := 30 * 60

/-- `close_locked_auction` with a winner: one unit is reserved for the winner
and the order points at the auction. -/
def closeAuction (inventory : Inventory) (listingId : ListingId) (winner : Pubky)
    (priceMinor : ℕ) (reservationId : ReservationId) (id : OrderId) (now : Time) :
    Except Failure (OrderBook × Inventory) :=
  match inventory.listings.find? listingId with
  | none => .error (.refused .notFound "The auction listing is not registered.")
  | some listing =>
      if listing.isDeleted ∨ listing.saleFormat ≠ .auction ∨ listing.auctionActive = false then
        .error (.refused .invalidState "The auction is not active.")
      else if enough : 1 ≤ listing.availableQuantity then do
        let closed := { listing.hold 1 enough with state := .reserved, auctionActive := false }
        let written ← (inventory.setListing listingId closed).insertReservation reservationId
          { listing := listingId
            buyerPubky := winner
            quantity := 1
            status := .active
            expiresAt := now + auctionHoldSeconds
            dropAggregateId := none
            offerAwardId := none }
        let line : Line :=
          { listing := listingId, quantity := 1, digitalKind := none, quantity_pos := by decide }
        return (
          newBook
            { newOrder id winner listing.sellerPubky [line] (priceMinor + listing.shippingMinor)
                listing.unitPriceCurrency listing.unitPriceExponent .shipping now with
              auctionAggregateId := some listingId }
            false,
          written)
      else
        .error (.database "listings_available_quantity_check")

end MarketplaceService
