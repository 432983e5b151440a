import MarketplaceService.Schema

/-!
Inventory holds (`handlers/holds.rs`). Every movement of stock for an order is
the same loop over its lines: read the listing, check it, write it back. The
loop is `forLines`; what one line does to its listing is its argument. The loop
answers with the writes it made even when a line fails, because a failure is a
value inside an open transaction: whether the writes survive is decided by the
caller.
-/

namespace MarketplaceService

def soldOutBeforePayment : String := "The listing sold out before this payment started."

def holdingCopy : String :=
  "Another buyer's payment is holding this item. If it isn't completed in time, the item restocks."

def listingRemovedCopy : String :=
  "The seller removed this listing before this payment started."

def listingMissing : Failure :=
  .refused .invariantViolation "An order line's listing is missing."

/-- Which quantity column an order's lines occupy. -/
inductive HeldQuantity where
  | reserved
  | sold
deriving DecidableEq, Repr

def Listing.held (listing : Listing) : HeldQuantity → ℕ
  | .reserved => listing.reservedQuantity
  | .sold => listing.soldQuantity

/-! One line on one listing. -/

def Listing.hold (listing : Listing) (quantity : ℕ)
    (enough : quantity ≤ listing.availableQuantity) : Listing :=
  { listing with
    serverRevision := listing.serverRevision + 1
    state := if listing.availableQuantity = quantity then .reserved else .available
    availableQuantity := listing.availableQuantity - quantity
    reservedQuantity := listing.reservedQuantity + quantity
    balanced := by
      have balance := listing.balanced
      omega }

def Listing.release (listing : Listing) (quantity : ℕ) (column : HeldQuantity)
    (enough : quantity ≤ listing.held column) : Listing :=
  match column, enough with
  | .reserved, enough =>
      { listing with
        serverRevision := listing.serverRevision + 1
        state := .available
        availableQuantity := listing.availableQuantity + quantity
        reservedQuantity := listing.reservedQuantity - quantity
        balanced := by
          have balance := listing.balanced
          change quantity ≤ listing.reservedQuantity at enough
          omega }
  | .sold, enough =>
      { listing with
        serverRevision := listing.serverRevision + 1
        state := .available
        availableQuantity := listing.availableQuantity + quantity
        soldQuantity := listing.soldQuantity - quantity
        balanced := by
          have balance := listing.balanced
          change quantity ≤ listing.soldQuantity at enough
          omega }

/-- The confirmation of one line: reserved to sold. -/
def Listing.sell (listing : Listing) (quantity : ℕ)
    (enough : quantity ≤ listing.reservedQuantity) : Listing :=
  { listing with
    serverRevision := listing.serverRevision + 1
    state :=
      if 0 < listing.availableQuantity then .available
      else if quantity < listing.reservedQuantity then .reserved
      else .sold
    reservedQuantity := listing.reservedQuantity - quantity
    soldQuantity := listing.soldQuantity + quantity
    balanced := by
      have balance := listing.balanced
      omega }

/-! The loop over an order's lines. -/

def forLines (each : Line → Listing → Except Failure Listing) (missing : Failure) :
    List Line → Inventory → Except Failure Unit × Inventory
  | [], inventory => (.ok (), inventory)
  | line :: rest, inventory =>
      match inventory.listings.find? line.listing with
      | none => (.error missing, inventory)
      | some listing =>
          match each line listing with
          | .error failure => (.error failure, inventory)
          | .ok moved =>
              forLines each missing rest
                { inventory with listings := inventory.listings.set line.listing moved }

/-- A caller that lets the failure end its transaction: no write survives. -/
def orRollback (result : Except Failure Unit × Inventory) : Except Failure Inventory :=
  match result.1 with
  | .ok () => .ok result.2
  | .error failure => .error failure

def releaseLine (column : HeldQuantity) (line : Line) (listing : Listing) :
    Except Failure Listing :=
  if enough : line.quantity ≤ listing.held column then
    .ok (listing.release line.quantity column enough)
  else
    .error (.refused .invariantViolation
      "The inventory held by this order is no longer accounted to its listing.")

def releaseLines (column : HeldQuantity) (lines : List Line) (inventory : Inventory) :
    Except Failure Unit × Inventory :=
  forLines (releaseLine column) listingMissing lines inventory

def acquireLine (createdAt : Time) (line : Line) (listing : Listing) :
    Except Failure Listing :=
  if listing.acceptsCommitmentCreatedAt createdAt then
    if enough : line.quantity ≤ listing.availableQuantity then
      .ok (listing.hold line.quantity enough)
    else if listing.state = .reserved ∨ 0 < listing.reservedQuantity then
      .error (.refused .invalidState holdingCopy)
    else
      .error (.refused .insufficientInventory soldOutBeforePayment)
  else
    .error (.refused .notFound listingRemovedCopy)

/-- The `available → reserved` loop of `acquire_payment_hold`. -/
def acquireLines (createdAt : Time) (lines : List Line) (inventory : Inventory) :
    Except Failure Inventory :=
  orRollback (forLines (acquireLine createdAt) listingMissing lines inventory)

/-- `acquire_payment_hold`. The order is the row its caller locked, so it is
read from the view. -/
def acquirePaymentHold (view : View) (windowSeconds : ℕ) (source : HoldSource) (now : Time) :
    Except Failure View :=
  let order := view.book.order
  if order.auctionAggregateId.isSome then
    .ok view
  else if order.state ≠ .pendingPayment then
    .error (.refused .invalidState "Only an order pending payment can start a payment.")
  else if order.stockHeld then
    .ok { view with
      book.order.holdExpiresAt := some (now + windowSeconds)
      book.order.holdSource := some source }
  else
    match acquireLines order.createdAt order.lines view.inventory with
    | .error failure => .error failure
    | .ok inventory =>
        .ok { view with
          inventory := inventory
          book.order.stockHeld := true
          book.order.holdExpiresAt := some (now + windowSeconds)
          book.order.holdSource := some source }

end MarketplaceService
