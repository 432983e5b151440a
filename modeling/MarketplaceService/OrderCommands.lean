import MarketplaceService.SellerReview

/-!
The participants' commands on an order: cancellation
(`handlers/cancellation.rs`), the sandbox rail (`advance` in
`handlers/payment.rs`), and the commands after payment
(`handlers/fulfillment.rs`, `returns.rs`, `reviews.rs`, `digital_orders.rs`),
which move the order's label and no stock. PayPal refund notifications are not
modelled.
-/

namespace MarketplaceService

/-- Who sends a command and which revision of the order they saw. -/
structure Sender where
  actor : Pubky
  expectedRevision : ℕ
deriving DecidableEq, Repr

def guardOrderAction (order : Order) (sender : Sender) : Except Failure Unit :=
  if sender.actor ≠ order.buyerPubky ∧ sender.actor ≠ order.sellerPubky then
    .error (.refused .unauthorized "Only order participants may act on it.")
  else if sender.expectedRevision ≠ order.revision then
    .error (.refused .revisionConflict "The order revision is stale.")
  else
    .ok ()

/-! Cancellation. -/

def cannotCancel : Failure :=
  .refused .invalidState "This order can no longer be cancelled."

def paykitMoneyObserved (order : Order) : Bool :=
  order.paykitRequestState.any fun state =>
    state == .detected || state == .awaitingSellerConfirmation || state == .confirmed

/-- `end_paykit_request`: the unpaid payment expires, a preparing request is
voided, and the void for Paykit is queued. -/
def endPaykitRequest (book : OrderBook) (now : Time) : Except Failure OrderBook :=
  if book.payment.adapter ≠ .paykit then
    .ok book
  else do
    let book ←
      if book.payment.state = .awaitingEntitlement then
        book.updatePayment { book.payment with
          state := .expired
          revision := book.payment.revision + 1 }
      else .ok book
    if book.order.paykitActivationState ≠ some .preparing then
      return book
    else
      match book.order.paykitPins with
      | none => return book
      | some pins => return enqueuePaykitVoid (voidPreparingRequest book now) pins now

/-- The stock an unpaid order gives back when its buyer cancels it. -/
def releasePending (inventory : Inventory) (order : Order) (now : Time) :
    Except Failure Inventory :=
  match order.auctionAggregateId with
  | some auction => releaseReservedHold inventory auction order
  | none => if order.stockHeld then releaseUnpaidHold inventory order now else .ok inventory

/-- The sold units of `lines` go back to their drop and their listings. -/
def returnSold (inventory : Inventory) (order : Order) (now : Time) : Except Failure Inventory :=
  orRollback (andThen (creditOrderDrop inventory order now) fun inventory =>
    releaseLines .sold order.lines inventory)

/-- What a cancellation request leads to: at once for an unpaid order or for
a pickup order whose buyer may leave alone, else the seller decides. -/
inductive CancelKind where
  | immediate
  | unilateral
  | requested
deriving DecidableEq, Repr

/-- `exitOpen` is whether the pickup terms changed after payment or the
withdrawal window is open. -/
def cancelKind (order : Order) (exitOpen : Bool) : CancelKind :=
  if order.state = .pendingPayment then .immediate
  else if order.fulfillment = .pickup ∧ (order.state = .paid ∨ order.state = .readyForPickup) ∧
      exitOpen then .unilateral
  else .requested

def cancelOrder (order : Order) (state : OrderState) (reason : String) : Order :=
  { order with
    revision := order.revision + 1
    state := state
    cancellationReason := some reason
    stockHeld := false
    holdExpiresAt := none }

def cancelRequest (view : View) (sender : Sender) (reason : String) (exitOpen : Bool)
    (now : Time) : Except Failure View := do
  let order := view.book.order
  guardOrderAction order sender
  if order.buyerPubky ≠ sender.actor then
    .error (.refused .unauthorized "Only the buyer may request cancellation.")
  else if order.fulfillment = .digital ∧ (order.state = .delivered ∨ order.state = .completed) then
    .error (.refused .invalidState "A delivered digital order cannot be cancelled.")
  else if order.state ∉ [.pendingPayment, .paid, .processing, .readyForPickup] then
    .error cannotCancel
  else if order.state = .pendingPayment ∧ paykitMoneyObserved order then
    .error cannotCancel
  else
    match cancelKind order exitOpen with
    | .immediate => do
        let inventory ← releasePending view.inventory order now
        let book ← endPaykitRequest view.book now
        return {
          inventory := inventory
          book := { book with order := cancelOrder book.order .cancelled reason } }
    | .unilateral => do
        let inventory ← returnSold view.inventory order now
        return {
          inventory := inventory
          book := { view.book with order := cancelOrder order .cancelled reason } }
    | .requested =>
        return { view with
          book := { view.book with order := cancelOrder order .cancelRequested reason } }

/-- `releasable_lines`: a digital order keeps the instant lines its buyer has
opened. -/
def releasableLines (book : OrderBook) : List Line :=
  if book.order.fulfillment ≠ .digital then
    book.order.lines
  else
    (book.order.lines.zipIdx.filter fun line =>
      !(line.1.digitalKind.any DigitalDeliveryKind.isInstant &&
        book.openedLines.contains line.2)).map Prod.fst

/-- `order.cancel_approve`: the releasable lines go back to stock. -/
def approveCancellation (view : View) (sender : Sender) (now : Time) : Except Failure View := do
  let order := view.book.order
  guardOrderAction order sender
  if order.sellerPubky ≠ sender.actor then
    .error (.refused .unauthorized "Only the seller may approve cancellation.")
  else if order.state ≠ .cancelRequested then
    .error (.refused .invalidState "No cancellation is pending.")
  else
    let releasable := { order with lines := releasableLines view.book }
    let inventory ← returnSold view.inventory releasable now
    return {
      inventory := inventory
      book := { view.book with
        order.revision := order.revision + 1
        order.state := .cancelled } }

/-! The sandbox rail. -/

/-- The targets `payment.sandbox_advance` admits from a payment state. -/
def sandboxTargets : PaymentState → List PaymentState
  | .awaitingEntitlement => [.detected, .confirmed, .expired, .manualReview]
  | .detected => [.confirmed, .manualReview]
  | _ => []

/-- `payment.sandbox_advance` by the buyer. -/
def advanceSandbox (view : View) (sender : Sender) (target : PaymentState) (confirmations : ℕ)
    (windowSeconds : ℕ) (now : Time) : Except Failure View := do
  let payment := view.book.payment
  if view.book.order.buyerPubky ≠ sender.actor then
    .error (.refused .unauthorized "Only the buyer may advance a sandbox payment.")
  else if payment.adapter ≠ .sandbox then
    .error (.refused .invalidState
      "A Locks-correlated payment advances only by server-side verification.")
  else if sender.expectedRevision ≠ payment.revision then
    .error (.refused .revisionConflict "The payment revision is stale.")
  else if target ∉ sandboxTargets payment.state then
    .error (.refused .invalidState "The sandbox payment transition is invalid.")
  else if target = .confirmed ∧ confirmations < 1 then
    .error (.refused .invalidCommand "Confirmed payment requires at least one confirmation.")
  else
    let view ←
      if payment.state = .awaitingEntitlement then
        acquirePaymentHold view windowSeconds .sandbox now
      else .ok view
    if target = .confirmed ∧ unpinnable view.inventory view.book.order then
      refundRequired view view.book.order "digital delivery unavailable at payment" now
    else
      let order := view.book.order
      let book ← view.book.updatePayment { payment with
        revision := payment.revision + 1
        state := target
        confirmations := confirmations
        manualReviewEnteredAt := if target = .manualReview then some now else none }
      if target = .confirmed then
        confirmOrder { view with book := book } order now
      else
        return { view with book := book }

/-! After payment. -/

/-- The commands and sweeps that move a paid order's label. -/
inductive FulfillmentStep where
  | ship
  | confirmDelivery
  | markReady
  | confirmPickup
  | markDigitalDelivered
  | complete
  | requestReturn
  | approveReturn
  | receiveReturn
deriving DecidableEq, Repr

/-- Which orders a step takes, and the label it leaves. -/
def fulfillmentTarget (order : Order) : FulfillmentStep → Option OrderState
  | .ship =>
      if order.fulfillment = .shipping ∧ (order.state = .paid ∨ order.state = .processing) then
        some .shipped
      else none
  | .confirmDelivery =>
      if order.fulfillment = .shipping ∧ order.state = .shipped then some .delivered else none
  | .markReady =>
      if order.fulfillment = .pickup ∧ order.state = .paid then some .readyForPickup else none
  | .confirmPickup =>
      if order.fulfillment = .pickup ∧ (order.state = .paid ∨ order.state = .readyForPickup) then
        some .delivered
      else none
  | .markDigitalDelivered =>
      if order.fulfillment = .digital ∧ order.state = .paid then some .delivered else none
  | .complete => if order.state = .delivered then some .completed else none
  | .requestReturn =>
      if order.fulfillment ≠ .digital ∧ (order.state = .delivered ∨ order.state = .completed) then
        some .returnRequested
      else none
  | .approveReturn => if order.state = .returnRequested then some .returnApproved else none
  | .receiveReturn => if order.state = .returnApproved then some .returnReceived else none

def advanceFulfillment (book : OrderBook) (step : FulfillmentStep) : Option OrderBook :=
  (fulfillmentTarget book.order step).map fun state =>
    { book with order.revision := book.order.revision + 1, order.state := state }

/-- `refund.record_external` by the seller. -/
def recordExternalRefund (book : OrderBook) (sender : Sender) (refund : ExternalRefund) :
    Except Failure OrderBook := do
  let order := book.order
  guardOrderAction order sender
  if order.sellerPubky ≠ sender.actor then
    .error (.refused .unauthorized "Only the seller may record a refund.")
  else if !((order.state == .returnReceived || order.state == .cancelled) ||
        (order.fulfillment == .digital &&
          (order.state == .delivered || order.state == .completed))) ||
      order.externalRefund.isSome || order.totalMinor < refund.amountMinor then
    .error (.refused .invalidState "The external refund cannot be recorded.")
  else
    book.updateOrder { order with
      revision := order.revision + 1
      state := .refundedExternal
      externalRefund := some refund }

/-- The buyer opens an instant line of a confirmed order that has not ended;
only instant lines are pinned for reading. -/
def openDigitalLine (book : OrderBook) (index : ℕ) : Option OrderBook :=
  if book.receipt.isSome ∧ book.order.state ∉ [.cancelled, .refundedExternal, .closed] ∧
      book.order.fulfillment = .digital ∧
      (book.order.lines[index]?.any fun line =>
        line.digitalKind.any DigitalDeliveryKind.isInstant) then
    some { book with openedLines := book.openedLines ++ [index] }
  else none

end MarketplaceService
