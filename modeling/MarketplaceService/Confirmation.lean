import MarketplaceService.Drops

/-!
The confirmation of an order (`confirm_order` in `handlers/payment.rs`), shared
by every payment rail. It takes the order its caller passes, which may be older
than the row it writes. The receipt table has one row for each order, so a
second confirmation is a database error. Pickup and digital pins are not
modelled: they copy terms and move no stock, money or label.
-/

namespace MarketplaceService

def Order.instantLines (order : Order) : List (ListingId × DigitalDeliveryKind) :=
  order.lines.filterMap fun line =>
    match line.digitalKind with
    | some kind => if kind.isInstant then some (line.listing, kind) else none
    | none => none

def Order.allLinesInstant (order : Order) : Bool :=
  !order.lines.isEmpty && order.lines.all fun line =>
    line.digitalKind.any DigitalDeliveryKind.isInstant

/-- `unpinnable`: a digital order with an instant line whose listing has no
current version of the kind the buyer paid for. -/
def unpinnable (inventory : Inventory) (order : Order) : Bool :=
  order.fulfillment == .digital && order.instantLines.any fun line =>
    (inventory.listings.find? line.1).bind Listing.currentVersion != some line.2

def sellLine (line : Line) (listing : Listing) : Except Failure Listing :=
  if enough : line.quantity ≤ listing.reservedQuantity then
    .ok (listing.sell line.quantity enough)
  else
    .error (.refused .invalidState "The reserved inventory for this order is no longer held.")

/-- The reserved to sold loop of `confirm_order`. -/
def sellLines (lines : List Line) (inventory : Inventory) : Except Failure Inventory :=
  orRollback (forLines sellLine listingMissing lines inventory)

def isWinningHold (auction : ListingId) (buyer : Pubky) (reservation : Reservation) : Bool :=
  reservation.listing == auction && reservation.buyerPubky == buyer &&
    reservation.status == .active

/-- The reservation of an auction order is converted, any other order must
hold its own stock. -/
def convertHold (inventory : Inventory) (order : Order) : Except Failure Inventory :=
  match order.auctionAggregateId with
  | none =>
      if order.stockHeld then .ok inventory
      else .error (.refused .invariantViolation
        "The reserved inventory for this order is no longer held.")
  | some auction =>
      let hit := isWinningHold auction order.buyerPubky
      if inventory.reservations.countWhere hit = 0 then
        .error (.refused .invalidState
          "The reserved inventory for this order is no longer held.")
      else
        .ok { inventory with
          reservations := inventory.reservations.updateWhere hit fun reservation =>
            { reservation with status := .converted } }

def recordEdition (inventory : Inventory) (order : Order) (now : Time) :
    Except Failure (Option ℕ × Inventory) :=
  match order.dropAggregateId with
  | none => .ok (none, inventory)
  | some dropId =>
      match recordPaidUnit inventory dropId now with
      | .error failure => .error failure
      | .ok (edition, counted) => .ok (some edition, counted)

/-- The receipt is denominated by the order's `paykit_total_sats` column: SAT
with exponent 0 when it is set, the order's own total otherwise. -/
def receiptOf (order : Order) (now : Time) : Receipt :=
  { totalMinor := order.paykitTotalSats.getD order.totalMinor
    currency := if order.paykitTotalSats.isSome then "SAT" else order.currency
    exponent := if order.paykitTotalSats.isSome then 0 else order.exponent
    merchandiseTotalMinor := order.totalMinor
    merchandiseCurrency := order.currency
    merchandiseExponent := order.exponent
    issuedAt := now }

def confirmedState (order : Order) : OrderState :=
  if order.fulfillment = .digital ∧ order.allLinesInstant then .delivered else .paid

/-- The stock side of `confirm_order`: convert the hold, count the paid unit,
move the lines to sold. -/
def confirmStock (inventory : Inventory) (order : Order) (now : Time) :
    Except Failure (Option ℕ × Inventory) := do
  let inventory ← convertHold inventory order
  let (edition, inventory) ← recordEdition inventory order now
  let inventory ← sellLines order.lines inventory
  return (edition, inventory)

/-- `confirm_order` of `order`; the row it writes is the view's. -/
def confirmOrder (view : View) (order : Order) (now : Time) : Except Failure View :=
  if !canTransition orderMachine order.state .paid then
    .error (.refused .invalidState "The order can no longer be paid.")
  else if unpinnable view.inventory order then
    .error (.refused .invalidState "The seller's digital delivery is not set up.")
  else do
    let (edition, inventory) ← confirmStock view.inventory order now
    if view.book.receipt.isSome then
      .error (.database "receipts_order_id_key")
    else
      .ok {
        inventory := inventory
        book := { view.book with
          receipt := some (receiptOf order now)
          order.revision := view.book.order.revision + 1
          order.state := confirmedState order
          order.edition := edition
          order.stockHeld := false
          order.holdExpiresAt := none } }

end MarketplaceService
