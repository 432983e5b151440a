import MarketplaceService.Expiry

/-!
The seller's decisions on a Paykit payment (`bitcoin_review.rs`): the
confirmation of an order in its seller window, the resolution of a manual
review, and the reaper of lapsed seller windows. The confirmation passes the
order it read before its transaction to `confirm_order`.
-/

namespace MarketplaceService

/-- `release_reserved_hold` of `handlers/cancellation.rs`: only a reservation
that was still active returns stock. -/
def releaseReservedHold (inventory : Inventory) (auction : ListingId) (order : Order) :
    Except Failure Inventory :=
  let hit := isWinningHold auction order.buyerPubky
  if inventory.reservations.countWhere hit = 0 then
    .ok inventory
  else
    orRollback (releaseLines .reserved order.lines { inventory with
      reservations := inventory.reservations.updateWhere hit fun reservation =>
        { reservation with status := .released } })

/-- `hold_present`: the order's own stock, or its active winning reservation. -/
def holdPresent (inventory : Inventory) (order : Order) : Bool :=
  match order.auctionAggregateId with
  | some auction =>
      decide (inventory.reservations.countWhere (isWinningHold auction order.buyerPubky) ≠ 0)
  | none => order.stockHeld

/-- The frozen amount falls back to the stored observation. -/
def coalesceObserved (order : Order) : Option ℕ :=
  order.paykitObservedSats.or (order.paykitObservation.bind Observation.observedSats)

/-- `enqueue_resolve_row` with the pins of `order`; the table holds one row
for each order. -/
def enqueueResolveRow (book : OrderBook) (order : Order) : Except Failure OrderBook :=
  match order.paykitPins with
  | none => .error (.internal "missing pin")
  | some pins =>
      if book.resolveOutbox.isSome then .error (.database "paykit_resolve_outbox_order_id_key")
      else .ok { book with resolveOutbox := some pins.invoiceId }

/-- The unlocked read of `confirm_bitcoin_payment`: by the seller, and no
confirmation recorded yet. -/
def readSellerConfirmation (book : OrderBook) (actor : Pubky) : Option Order :=
  if book.order.sellerPubky = actor ∧ book.sellerConfirmation = none then some book.order
  else none

/-- The audit row, from the observation of the order `order`. -/
def sellerConfirmationRow (order : Order) (now : Time) : SellerConfirmation :=
  { confirmedAt := now
    confirmedTxid := order.paykitObservation.bind Observation.txid
    confirmedAmountSats := order.paykitObservation.bind Observation.observedSats
    paykitObservation := order.paykitObservation }

/-- `confirm_bitcoin_payment`, its transaction, with the order read before
it: the audit row and the resolve row are written from that read. -/
def confirmBitcoinPayment (view : View) (order : Order) (now : Time) : Except Failure View :=
  if view.book.order.paykitRequestState ≠ some .awaitingSellerConfirmation then
    .error (.refused .invalidState "This order is not awaiting seller confirmation.")
  else if view.book.payment.state ≠ .awaitingEntitlement then
    .error (.internal "payment confirmation")
  else do
    let book ← view.book.updateOrder { view.book.order with
      paykitRequestState := some .confirmed
      sellerWindow := none
      paykitObservedSats := coalesceObserved view.book.order }
    let book ← book.updatePayment { book.payment with
      state := .confirmed
      revision := book.payment.revision + 1 }
    let confirmed ← confirmOrder { view with book := book } order now
    if confirmed.book.sellerConfirmation.isSome then
      .error (.database "paykit_seller_confirmations_pkey")
    else
      let book ← enqueueResolveRow { confirmed.book with
        sellerConfirmation := some (sellerConfirmationRow order now) } order
      return { confirmed with book := book }

/-- `route_one_seller_confirmation_window`: the hold stays, its deadline is
cleared, the payment enters review. -/
def routeSellerConfirmationWindow (book : OrderBook) (now : Time) : Except Failure OrderBook :=
  if book.order.paykitRequestState = some .awaitingSellerConfirmation ∧
      book.order.sellerWindow.any fun window => window.deadline ≤ now then
    if book.payment.state ≠ .awaitingEntitlement then
      .error (.internal "payment was not awaiting_entitlement")
    else do
      let book ← book.updateOrder { book.order with
        paykitRequestState := some .confirmed
        sellerWindow := none
        holdExpiresAt := none
        paykitObservedSats := coalesceObserved book.order }
      book.updatePayment { book.payment with
        state := .manualReview
        revision := book.payment.revision + 1
        manualReviewEnteredAt := some now }
  else
    .ok book

/-- The seller's resolution, or the reaper's with no resolver. -/
structure ResolutionInput where
  outcome : ResolutionOutcome
  resolutionId : ℕ
  resolvedBy : Option Pubky
  refundReference : Option String
deriving DecidableEq, Repr

def validRefundReference (value : String) : Bool :=
  value ≠ "" ∧ value.utf8ByteSize ≤ 64 ∧ value.toList.all fun char => '!' ≤ char ∧ char ≤ '~'

/-- The inputs that reach `apply_manual_review_resolution`:
`resolve_bitcoin_payment` lets the seller through, with a valid reference for
a refund and none otherwise; the seven-day reaper abandons. -/
def ResolutionInput.requested (input : ResolutionInput) (order : Order) : Bool :=
  match input.resolvedBy, input.outcome with
  | some actor, .refunded =>
      actor = order.sellerPubky && input.refundReference.any validRefundReference
  | some actor, _ => actor = order.sellerPubky && input.refundReference.isNone
  | none, .abandoned => input.refundReference.isNone
  | none, _ => false

/-- `cancel_held_order`: the hold of a pending order is given back. -/
def cancelHeldOrder (view : View) (reason : String) (now : Time) : Except Failure View := do
  let order := view.book.order
  let inventory ←
    match order.auctionAggregateId with
    | some auction => releaseReservedHold view.inventory auction order
    | none => releaseHeld view.inventory order now
  return {
    inventory := inventory
    book := { view.book with
      order.revision := order.revision + 1
      order.state := .cancelled
      order.cancellationReason := some reason
      order.stockHeld := false
      order.holdExpiresAt := none } }

/-- `apply_paid_effects`: an intact hold is consumed, a lost one reacquired. -/
def applyPaidEffects (view : View) (now : Time) : Except Failure View := do
  let order := view.book.order
  let view ←
    if order.state = .pendingPayment ∧ holdPresent view.inventory order then
      .ok view
    else if order.state = .pendingPayment ∨ order.state = .cancelled then
      match reacquireHold view order now with
      | (.ok (), reacquired) => .ok reacquired
      | (.error failure, _) => .error failure
    else
      .error (.internal "paid effects")
  confirmOrder view view.book.order now

def applyRefundedEffects (view : View) (input : ResolutionInput) (now : Time) :
    Except Failure View := do
  let observed := view.book.order.paykitObservedSats
  let view ←
    if view.book.order.state = .pendingPayment then
      cancelHeldOrder view "refunded by the seller after manual review" now
    else .ok view
  if view.book.order.state ≠ .cancelled then
    .error (.internal "refund effects")
  else
    match observed with
    | none => .error (.internal "refund requires manual confirmation")
    | some sats =>
        let book ← view.book.updateOrder { view.book.order with
          revision := view.book.order.revision + 1
          state := .refundedExternal
          externalRefund := some
            { amountMinor := sats, reference := input.refundReference.getD "" } }
        return { view with book := book }

def applyAbandonedEffects (view : View) (now : Time) : Except Failure View :=
  match view.book.order.state with
  | .pendingPayment => cancelHeldOrder view "closed after manual review" now
  | .cancelled => .ok view
  | _ => .error (.internal "abandon effects")

def manualResolutionRow (order : Order) (input : ResolutionInput) (now : Time) :
    ManualResolution :=
  { resolutionId := input.resolutionId
    outcome := input.outcome
    resolvedAt := now
    resolvedBy := input.resolvedBy
    refundReference := input.refundReference
    paykitObservation := order.paykitObservation
    paykitObservedSats := order.paykitObservedSats }

/-- `apply_manual_review_resolution`: the payment decides the winner, then
the outcome's effects, the audit row and the resolve row. -/
def applyManualReviewResolution (view : View) (input : ResolutionInput) (now : Time) :
    Except Failure View :=
  let payment := view.book.payment
  if payment.adapter ≠ .paykit ∨ payment.state ≠ .manualReview ∨ payment.resolution.isSome then
    .error (.internal "not in manual review")
  else if input.outcome = .paid ∧ payment.reviewReason = some .refundRequired then
    .error (.refused .invalidState
      "This payment cannot complete the order. Return the funds, then record the refund.")
  else if (input.outcome == .refunded) != input.refundReference.isSome then
    .error (.database "payments_resolution_check")
  else do
    let order := view.book.order
    let resolved := { view with
      book.payment.state :=
        (if input.outcome = .abandoned then .expired else .confirmed : PaymentState)
      book.payment.revision := payment.revision + 1
      book.payment.manualReviewEnteredAt := none
      book.payment.resolution := some
        { id := input.resolutionId
          outcome := input.outcome
          bySeller := input.resolvedBy
          refundReference := input.refundReference } }
    let applied ←
      match input.outcome with
      | .paid => applyPaidEffects resolved now
      | .refunded => applyRefundedEffects resolved input now
      | .abandoned => applyAbandonedEffects resolved now
    if applied.book.manualResolution.isSome then
      .error (.database "paykit_manual_resolutions_pkey")
    else
      let book ← enqueueResolveRow { applied.book with
        manualResolution := some (manualResolutionRow applied.book.order input now) } order
      return { applied with book := book }

end MarketplaceService
