import MarketplaceService.PaykitAttempts

/-!
The payment-window sweeps (`workers.rs`): the expiry of a held order and the
cancellation of an idle unbound checkout. The sweeps lock each candidate and
re-read its predicate before they write; a sweep over several orders is the
sequence of its orders.
-/

namespace MarketplaceService

/-- A hold without a deadline is a row from before the deadlines existed: its
release is best effort, and what a failed release wrote so far stays. -/
def tolerateLegacy (order : Order) (result : Except Failure Unit × Inventory) :
    Except Failure Inventory :=
  match result.1 with
  | .ok () => .ok result.2
  | .error failure =>
      if order.holdExpiresAt = none then .ok result.2 else .error failure

/-- The release of an unpaid order's own hold: the drop first, then the
lines, each best effort on a legacy row. -/
def releaseUnpaidHold (inventory : Inventory) (order : Order) (now : Time) :
    Except Failure Inventory := do
  let inventory ← tolerateLegacy order (creditOrderDrop inventory order now)
  tolerateLegacy order (releaseLines .reserved order.lines inventory)

/-- `expire_held_order`. Its caller says whether the payment was awaiting; the
payment then expires whatever its row holds. -/
def expireHeldOrder (view : View) (awaiting : Bool) (now : Time) : Except Failure View := do
  let order := view.book.order
  let book ←
    if awaiting then
      view.book.updatePayment { view.book.payment with
        state := .expired
        revision := view.book.payment.revision + 1 }
    else .ok view.book
  let inventory ← releaseUnpaidHold view.inventory order now
  return {
    inventory := inventory
    book := { book with
      order.state := .cancelled
      order.revision := order.revision + 1
      order.cancellationReason := some "payment window elapsed"
      order.stockHeld := false
      order.holdExpiresAt := none } }

def heldDueOrder (order : Order) (now : Time) : Bool :=
  order.state == .pendingPayment && order.stockHeld &&
    (order.holdExpiresAt.all fun deadline => deadline ≤ now) &&
    order.paykitActivationState != some .preparing &&
    order.paykitRequestState != some .awaitingSellerConfirmation

/-- `expire_due_payment_windows` for one order. -/
def expireDuePaymentWindow (view : View) (now : Time) : Except Failure View :=
  if heldDueOrder view.book.order now &&
      (view.book.payment.state == .awaitingEntitlement ||
        view.book.payment.state == .detected || view.book.payment.state == .expired) then
    expireHeldOrder view (view.book.payment.state == .awaitingEntitlement) now
  else
    .ok view

/-- `IDLE_UNBOUND_ORDER`; a drop-stamped order is left out. -/
def idleUnboundOrder (order : Order) (checkoutHoldWindowSeconds : ℕ) (now : Time) : Bool :=
  order.state == .pendingPayment && !order.stockHeld && order.paymentMethod.isNone &&
    order.auctionAggregateId.isNone && order.dropAggregateId.isNone &&
    decide (order.createdAt + checkoutHoldWindowSeconds ≤ now)

/-- `expire_idle_unbound_checkouts` for one order: no inventory moves. -/
def expireIdleUnboundCheckout (book : OrderBook) (checkoutHoldWindowSeconds : ℕ) (now : Time) :
    Except Failure OrderBook :=
  if idleUnboundOrder book.order checkoutHoldWindowSeconds now &&
      book.payment.state == .awaitingEntitlement then do
    let book ← book.updatePayment { book.payment with
      state := .expired
      revision := book.payment.revision + 1 }
    return { book with
      order.state := .cancelled
      order.revision := book.order.revision + 1
      order.cancellationReason := some "checkout idle elapsed"
      order.stockHeld := false
      order.holdExpiresAt := none }
  else
    .ok book

end MarketplaceService
