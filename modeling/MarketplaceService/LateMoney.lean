import MarketplaceService.Confirmation

/-!
Money that arrives after the hold window (`bitcoin_review.rs`): the hold is
taken again step by step (drop unit, auction reservation, then line by line),
and the order completes or goes to a refund review. `reacquireHold` reports
missing stock as a value, with the writes it made so far still in the
transaction.
-/

namespace MarketplaceService

/-- Sequencing inside an open transaction: a failure keeps earlier writes. -/
def andThen {State : Type} (result : Except Failure Unit × State)
    (next : State → Except Failure Unit × State) : Except Failure Unit × State :=
  match result.1 with
  | .ok () => next result.2
  | .error failure => (.error failure, result.2)

/-- The drop debit of `reacquire_hold`. A buyer without a counter row is not
counted; a counter row past its limit is a database error. -/
def reacquireDrop (inventory : Inventory) (order : Order) (now : Time) :
    Except Failure Unit × Inventory :=
  match order.dropAggregateId with
  | none => (.ok (), inventory)
  | some dropId =>
      match inventory.drops.find? dropId with
      | none => (.error .stockUnavailable, inventory)
      | some row =>
          let (drop, inventory) := applyTimeTransitions inventory dropId row now
          if drop.remainingQuantity < order.units then
            (.error .stockUnavailable, inventory)
          else
            let debited :=
              { inventory with drops := inventory.drops.set dropId (drop.debit order.units now) }
            match inventory.dropPurchases.find? (dropId, order.buyerPubky) with
            | none => (.ok (), debited)
            | some purchase =>
                match purchase.add order.units with
                | .error failure => (.error failure, debited)
                | .ok raised =>
                    (.ok (), { debited with
                      dropPurchases :=
                        debited.dropPurchases.set (dropId, order.buyerPubky) raised })

def isLapsedHold (auction : ListingId) (buyer : Pubky) (reservation : Reservation) : Bool :=
  reservation.listing == auction && reservation.buyerPubky == buyer &&
    (reservation.status == .expired || reservation.status == .released)

/-- The auction branch of `reacquire_hold`: every lapsed reservation of the
buyer on the listing is activated again; anything but one row is refused
after the write. -/
def reacquireReservation (inventory : Inventory) (order : Order) (now : Time) :
    Except Failure Unit × Inventory :=
  match order.auctionAggregateId with
  | none => (.ok (), inventory)
  | some auction =>
      let hit := isLapsedHold auction order.buyerPubky
      let written :=
        { inventory with
          reservations := inventory.reservations.updateWhere hit fun reservation =>
            { reservation with status := .active, expiresAt := now + 3600 } }
      if inventory.reservations.countWhere hit = 1 then (.ok (), written)
      else (.error .stockUnavailable, written)

def reacquireLine (createdAt : Time) (line : Line) (listing : Listing) :
    Except Failure Listing :=
  if enough : line.quantity ≤ listing.availableQuantity then
    if listing.acceptsCommitmentCreatedAt createdAt then
      .ok (listing.hold line.quantity enough)
    else .error .stockUnavailable
  else .error .stockUnavailable

/-- `available → reserved` under the quantity guard, line by line. -/
def reacquireLines (createdAt : Time) (lines : List Line) (inventory : Inventory) :
    Except Failure Unit × Inventory :=
  forLines (reacquireLine createdAt) .stockUnavailable lines inventory

def reacquireStock (inventory : Inventory) (order : Order) (now : Time) :
    Except Failure Unit × Inventory :=
  andThen (reacquireDrop inventory order now) fun inventory =>
    andThen (reacquireReservation inventory order now) fun inventory =>
      reacquireLines order.createdAt order.lines inventory

/-- `reacquire_hold`: the hold flag is set last; the hold window stays as it
was. -/
def reacquireHold (view : View) (order : Order) (now : Time) : Except Failure Unit × View :=
  match reacquireStock view.inventory order now with
  | (.error failure, inventory) => (.error failure, { view with inventory := inventory })
  | (.ok (), inventory) =>
      if order.auctionAggregateId.isNone then
        (.ok (), { view with inventory := inventory, book.order.stockHeld := true })
      else
        (.ok (), { view with inventory := inventory })

/-- `stamp_review_reason` with target `manual_review`. -/
def stampReviewReason (view : View) (reason : ReviewReason) (now : Time) :
    Except Failure View :=
  let payment := view.book.payment
  if payment.state ∈ [.expired, .awaitingEntitlement, .manualReview, .detected] ∧
      payment.resolution = none then
    .ok { view with
      book.payment.state := .manualReview
      book.payment.revision := payment.revision + 1
      book.payment.reviewReason := some reason
      book.payment.manualReviewEnteredAt := some now }
  else
    .error (.internal "stamp review_reason")

/-- The cancellation that ends `refund_required`: conditional on the stored
row still pending. -/
def cancelPending (order : Order) (reason : String) : Order :=
  if order.state = .pendingPayment then
    { order with
      state := .cancelled
      revision := order.revision + 1
      cancellationReason := some reason
      stockHeld := false
      holdExpiresAt := none }
  else order

/-- The hold an order passed to `refund_required` still has, given back. -/
def releaseHeld (inventory : Inventory) (order : Order) (now : Time) :
    Except Failure Inventory :=
  if order.stockHeld ∧ order.auctionAggregateId = none then
    orRollback (andThen (creditOrderDrop inventory order now) fun inventory =>
      releaseLines .reserved order.lines inventory)
  else .ok inventory

/-- `refund_required`: the payment enters review, and a pending order is
cancelled with the hold it has. -/
def refundRequired (view : View) (order : Order) (reason : String) (now : Time) :
    Except Failure View := do
  let view ← stampReviewReason view .refundRequired now
  if order.state = .pendingPayment then
    let inventory ← releaseHeld view.inventory order now
    return { view with
      inventory := inventory
      book.order := cancelPending view.book.order reason }
  else
    return view

/-- `complete_late_order`: the payment is confirmed by compare-and-swap, then
the stored order is confirmed. -/
def completeLateOrder (view : View) (now : Time) : Except Failure View :=
  let payment := view.book.payment
  if payment.state ∈ [.expired, .awaitingEntitlement, .manualReview] ∧
      payment.resolution = none then do
    let book ← view.book.updatePayment { payment with
      state := .confirmed
      revision := payment.revision + 1
      reviewReason := none }
    confirmOrder { view with book := book } book.order now
  else
    .error (.internal "late payment confirm")

inductive LateMoneyOutcome where
  | completed
  | refundRequired
  | heldLateSettlement
deriving DecidableEq, Repr

/-- `apply_late_money` on the order its caller passes. Callers commit on an
outcome and roll back on a failure; missing stock is an outcome. -/
def applyLateMoney (view : View) (order : Order) (now : Time) :
    Except Failure (LateMoneyOutcome × View) :=
  if order.paykitRequestState = some .awaitingSellerConfirmation then
    .error (.internal "late money")
  else if unpinnable view.inventory order then do
    let view ← refundRequired view order "digital delivery unavailable at payment" now
    return (.refundRequired, view)
  else if order.state = .pendingPayment ∧ order.stockHeld then do
    let view ← stampReviewReason view .lateSettlement now
    return (.heldLateSettlement, view)
  else
    match reacquireHold view order now with
    | (.ok (), view) => do
        let view ← completeLateOrder view now
        return (.completed, view)
    | (.error .stockUnavailable, view) => do
        let view ← refundRequired view order "payment window elapsed" now
        return (.refundRequired, view)
    | (.error failure, _) => .error failure

end MarketplaceService
