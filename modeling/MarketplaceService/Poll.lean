import MarketplaceService.PaykitAttempts

/-!
The Paykit status poll (`workers.rs`). A claim reads the order in one
transaction; the remote answer arrives later and is applied in further
transactions, which recheck the payment state and the request state. Where an
answer is applied in two transactions, the function of the first one says
whether the second follows.
-/

namespace MarketplaceService

/-- `ClaimedPaykitOrder`: the order as the claim read it. -/
structure ClaimedPaykitOrder where
  paykitRequestReference : Reference
  paykitRequestState : RequestState
  paykitAllocationMode : Option AllocationMode
  pinsPresent : Bool
deriving DecidableEq, Repr

structure PaykitStatusFacts where
  allocationMode : AllocationMode
  lateSettlement : Bool
  observation : PaykitObservation
deriving DecidableEq, Repr

inductive PaykitStatusOutcome where
  | undetected
  | detected (facts : PaykitStatusFacts)
  | confirmed (amountMatched : Bool) (facts : PaykitStatusFacts)
  | notFound
  | unavailable
deriving DecidableEq, Repr

/-- The claim predicate of `claim_due_paykit_orders`. -/
def pollDue (book : OrderBook) (now : Time) : Bool :=
  book.payment.adapter == .paykit &&
    ((book.payment.state == .awaitingEntitlement &&
        (book.order.paykitRequestState == some .pending ||
          book.order.paykitRequestState == some .detected ||
          book.order.paykitRequestState == some .awaitingSellerConfirmation)) ||
      (book.payment.state == .expired && book.order.paykitRequestState == some .detected) ||
      (book.payment.state == .expired && book.order.paykitRequestState == some .pending &&
        book.order.paykitPins.any fun pins => now < pins.expiresAt + 24 * 3600))

/-- `claim_due_paykit_orders` for one order. -/
def claimPaykitOrder (book : OrderBook) (now : Time) : Option ClaimedPaykitOrder :=
  match book.order.paykitRequestReference, book.order.paykitRequestState with
  | some reference, some state =>
      if pollDue book now then
        some {
          paykitRequestReference := reference
          paykitRequestState := state
          paykitAllocationMode := book.order.paykitPins.map PaykitPins.allocationMode
          pinsPresent := book.order.paykitPins.isSome }
      else none
  | _, _ => none

/-- `freeze_paykit_observation`: the first reported amount stays. -/
def freezePaykitObservation (book : OrderBook) (observation : PaykitObservation) :
    Except Failure OrderBook :=
  match observation.observedSats with
  | none => .ok book
  | some sats =>
      if i64Max < sats then
        .error (.internal "observed sats range")
      else if book.order.paykitObservedSats.isSome then
        .ok book
      else
        book.updateOrder { book.order with paykitObservedSats := some sats }

/-- The order side of a consumed report: the request is confirmed, the seller
window closed, the observation stored and its amount frozen. -/
def consumeReport (book : OrderBook) (report : Option Observation)
    (observation : PaykitObservation) : Except Failure OrderBook := do
  let book ← book.updateOrder { book.order with
    paykitRequestState := some .confirmed
    sellerWindow := none
    paykitObservation := report.or book.order.paykitObservation }
  freezePaykitObservation book observation

def reviewAmountMismatch (book : OrderBook) (now : Time) : Except Failure OrderBook :=
  book.updatePayment { book.payment with
    state := .manualReview
    revision := book.payment.revision + 1
    reviewReason := some .amountMismatch
    manualReviewEnteredAt := some now }

/-- What an answered report leads to: nothing further, or the second
transaction that follows a refused confirmation. -/
inductive SettleResult where
  | done (view : View)
  | confirmationRefused

def observedAmountMismatch (order : Order) (observation : PaykitObservation) : Bool :=
  order.bitcoinQuotedSats.isSome &&
    observation.observedSats.any fun observed => order.paykitTotalSats != some observed

/-- The late fork of `apply_confirmed_paykit_payment`: the amounts of the
report are stored, not compared. -/
def applyLatePaykitPayment (view : View) (row : ClaimedPaykitOrder) (amountMatched : Bool)
    (observation : PaykitObservation) (now : Time) : Except Failure View :=
  if !row.pinsPresent then
    .ok view
  else do
    let report := observationJson true amountMatched observation now
    let book ← consumeReport view.book (some report) observation
    let (_, view) ← applyLateMoney { view with book := book } book.order now
    return view

/-- The on-time confirmation of `apply_confirmed_paykit_payment`. -/
def applyOnTimePaykitPayment (view : View) (amountMatched : Bool)
    (observation : PaykitObservation) (now : Time) : Except Failure SettleResult :=
  let report := observationJson true amountMatched observation now
  if !amountMatched then do
    let book ← reviewAmountMismatch view.book now
    let book ← consumeReport book none observation
    return .done { view with book := book }
  else if observedAmountMismatch view.book.order observation then do
    let book ← reviewAmountMismatch view.book now
    let book ← consumeReport book (some report) observation
    return .done { view with book := book }
  else if unpinnable view.inventory view.book.order then do
    let view ← refundRequired view view.book.order "digital delivery unavailable at payment" now
    let book ← consumeReport view.book (some report) observation
    return .done { view with book := book }
  else
    match confirmOrder view view.book.order now with
    | .error (.database constraint) => .error (.database constraint)
    | .error _ => .ok .confirmationRefused
    | .ok confirmed => do
        let book ← confirmed.book.updatePayment { confirmed.book.payment with
          state := .confirmed
          revision := confirmed.book.payment.revision + 1 }
        let book ← consumeReport book (some report) observation
        return .done { confirmed with book := book }

/-- `apply_confirmed_paykit_payment`, its first transaction. -/
def applyConfirmedPaykitPayment (view : View) (row : ClaimedPaykitOrder) (amountMatched : Bool)
    (observation : PaykitObservation) (lateSettlement : Bool) (now : Time) :
    Except Failure SettleResult :=
  if view.book.order.paykitRequestState = some .awaitingSellerConfirmation then
    .ok (.done view)
  else if view.book.payment.state = .expired ∨
      (lateSettlement ∧ view.book.payment.state = .awaitingEntitlement) then do
    let view ← applyLatePaykitPayment view row amountMatched observation now
    return .done view
  else if view.book.payment.state ≠ .awaitingEntitlement then
    .ok (.done view)
  else
    applyOnTimePaykitPayment view amountMatched observation now

/-- The second transaction after a refused confirmation. The payment is
compared and swapped; the order is written by its id alone. -/
def settleFallback (book : OrderBook) (amountMatched : Bool) (observation : PaykitObservation)
    (now : Time) : Except Failure OrderBook := do
  let report := observationJson true amountMatched observation now
  let book ←
    if book.payment.state = .awaitingEntitlement then
      book.updatePayment { book.payment with
        state := .manualReview
        revision := book.payment.revision + 1
        manualReviewEnteredAt := some now }
    else .ok book
  consumeReport book (some report) observation

/-- `mark_paykit_detected`: display only. -/
def markPaykitDetected (book : OrderBook) (row : ClaimedPaykitOrder) : OrderBook :=
  if row.paykitRequestState ≠ .detected ∧ book.order.paykitRequestState = some .pending then
    { book with order.paykitRequestState := some .detected }
  else book

def sellerConfirmationWindowSeconds : ℕ := 24 * 3600

/-- `refresh_seller_confirmation_facts`: whether the order was still inside
the seller window. -/
def refreshSellerConfirmationFacts (book : OrderBook) (report : Observation)
    (observation : PaykitObservation) : Option OrderBook :=
  if book.order.paykitRequestState = some .awaitingSellerConfirmation then
    some { book with
      order.paykitObservation := some report
      payment.confirmations := observation.confirmations.getD book.payment.confirmations }
  else none

/-- `apply_shared_manual_observation`, its transaction for an awaiting
payment: entry into the seller window, or a refresh inside it. -/
def enterSellerWindow (view : View) (report : Observation) (observation : PaykitObservation)
    (now : Time) : Except Failure View :=
  let order := view.book.order
  let deadline := now + sellerConfirmationWindowSeconds
  if order.paykitRequestState = some .pending ∨ order.paykitRequestState = some .detected then do
    let book ← view.book.updateOrder { order with
      paykitRequestState := some .awaitingSellerConfirmation
      paykitObservation := some report
      sellerWindow := some { enteredAt := now, deadline := deadline }
      holdExpiresAt :=
        if order.auctionAggregateId.isNone then some deadline else order.holdExpiresAt
      revision := order.revision + 1 }
    let book ← freezePaykitObservation book observation
    match order.auctionAggregateId with
    | none => return { view with book := book }
    | some auction =>
        return {
          book := book
          inventory := { view.inventory with
            reservations := view.inventory.reservations.updateWhere
              (isWinningHold auction order.buyerPubky)
              fun reservation => { reservation with expiresAt := deadline } } }
  else
    .ok { view with
      book := (refreshSellerConfirmationFacts view.book report observation).getD view.book }

/-- What a `shared_manual` report leads to: applied at once, or the second
transaction of a report whose payment is no longer awaiting. -/
inductive SharedResult where
  | done (view : View)
  | paymentAdvanced

/-- `apply_shared_manual_observation`, its first transaction. -/
def applySharedManualObservation (view : View) (row : ClaimedPaykitOrder)
    (confirmed amountMatched : Bool) (observation : PaykitObservation) (now : Time) :
    Except Failure SharedResult :=
  if !row.pinsPresent then
    .ok (.done view)
  else if view.book.payment.state ≠ .awaitingEntitlement then
    .ok .paymentAdvanced
  else do
    let report := observationJson confirmed amountMatched observation now
    let view ← enterSellerWindow view report observation now
    return .done view

def refreshInsideSellerWindow (book : OrderBook) (confirmed amountMatched : Bool)
    (observation : PaykitObservation) (now : Time) : OrderBook :=
  if book.payment.state = .awaitingEntitlement then
    (refreshSellerConfirmationFacts book
      (observationJson confirmed amountMatched observation now) observation).getD book
  else book

def markSharedManualDisappeared (book : OrderBook) : OrderBook :=
  match book.order.paykitObservation with
  | none => book
  | some observation =>
      if book.order.paykitRequestState = some .awaitingSellerConfirmation then
        { book with order.paykitObservation := some { observation with disappeared := true } }
      else book

def applyReportInsideSellerWindow (book : OrderBook) (outcome : PaykitStatusOutcome)
    (now : Time) : OrderBook :=
  match outcome with
  | .confirmed amountMatched facts =>
      if facts.allocationMode = .unknown then book
      else refreshInsideSellerWindow book true amountMatched facts.observation now
  | .detected facts =>
      if facts.allocationMode = .unknown then book
      else refreshInsideSellerWindow book false true facts.observation now
  | .undetected => markSharedManualDisappeared book
  | .notFound | .unavailable => book

/-- `record_paykit_delivery`: only for the attempt the claim polled. -/
def recordPaykitDelivery (book : OrderBook) (row : ClaimedPaykitOrder)
    (delivery : DeliveryState) : OrderBook :=
  if book.order.paykitRequestReference = some row.paykitRequestReference ∧
      (book.order.paykitDeliveryState = none ∨
        book.order.paykitDeliveryState = some .pending) then
    { book with order.paykitDeliveryState := some delivery }
  else book

end MarketplaceService
