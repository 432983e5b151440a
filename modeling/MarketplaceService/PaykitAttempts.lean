import MarketplaceService.LateMoney

/-!
Released Paykit attempts (`paykit_attempts.rs`, and the void of a preparing
request from `handlers/cancellation.rs`). An order carries the pins of one
attempt; an attempt it lets go of is recorded and keeps being polled. Money
confirmed on a released attempt makes that attempt the order's own again and
takes the late-money path.
-/

namespace MarketplaceService

/-- `PaykitObservation`: what Paykit reports about the money. -/
structure PaykitObservation where
  observedSats : Option ℕ
  confirmations : Option ℕ
  txid : Option String := none
deriving DecidableEq, Repr

def observationJson (confirmed amountMatched : Bool) (observation : PaykitObservation)
    (now : Time) : Observation :=
  { confirmed := confirmed
    observedSats := observation.observedSats
    confirmations := observation.confirmations
    amountMatched := amountMatched
    txid := observation.txid
    observedAt := now
    disappeared := false }

def i64Max : ℕ := 2 ^ 63 - 1

/-- `record_released_attempt`: the pins on the order row become a watched
attempt, once for each invoice. The guard of the statement is that an invoice
was prepared; the pins carry the rest. -/
def recordReleasedAttempt (book : OrderBook) (now : Time) : OrderBook :=
  match book.order.paykitPins with
  | none => book
  | some pins =>
      match book.attempts.find? pins.invoiceId with
      | some _ => book
      | none =>
          { book with
            attempts := book.attempts.set pins.invoiceId
              { reference := book.order.paykitRequestReference
                pins := pins
                releasedAt := now
                state := .watching
                detectedAt := none
                observation := none
                reviewReason := none
                closedAt := none } }

/-- Every undelivered `paykit.activate` row of the order is stamped. -/
def stampActivateRows (outbox : List OutboxRow) (now : Time) : List OutboxRow :=
  outbox.map fun row =>
    if row.kind = .paykitActivate ∧ row.deliveredAt = none then
      { row with deliveredAt := some now }
    else row

def voidPreparingRequest (book : OrderBook) (now : Time) : OrderBook :=
  let voided :=
    if book.order.paykitActivationState = some .preparing then
      recordReleasedAttempt { book with
        order.paykitActivationState := some .voided
        order.paykitRequestState := none } now
    else book
  { voided with outbox := stampActivateRows voided.outbox now }

/-- `enqueue_paykit_void` for the pins of an invoice. -/
def enqueuePaykitVoid (book : OrderBook) (pins : PaykitPins) (now : Time) : OrderBook :=
  { book with
    outbox := book.outbox ++
      [{ kind := .paykitVoid
         invoiceId := pins.invoiceId
         stackId := pins.stackId
         stackEndpoint := pins.stackEndpoint
         activationAttempt := 0
         createdAt := now
         leaseUntil := none
         deliveredAt := none }] }

/-- A `WatchedAttempt` as its claim read it. -/
structure WatchedAttempt where
  invoiceId : InvoiceId
  reference : Option Reference
  expiresAt : Time
  releasedAt : Time
  detectedAt : Option Time
deriving DecidableEq, Repr

def WatchedAttempt.pollReference (references : References) (order : OrderId)
    (attempt : WatchedAttempt) : Reference :=
  attempt.reference.getD (references.legacyOrderReference order)

/-- Whether the order row itself tracks the invoice again. -/
def trackedByOrder (order : Order) (invoice : InvoiceId) : Bool :=
  order.paykitInvoiceId == some invoice && order.paykitRequestState.isSome

/-- `claim_due_attempts` for one attempt of the order. -/
def claimAttempt (book : OrderBook) (invoice : InvoiceId) : Option WatchedAttempt :=
  match book.attempts.find? invoice with
  | none => none
  | some attempt =>
      if attempt.state = .watching ∧ !trackedByOrder book.order invoice then
        some {
          invoiceId := invoice
          reference := attempt.reference
          expiresAt := attempt.pins.expiresAt
          releasedAt := attempt.releasedAt
          detectedAt := attempt.detectedAt }
      else none

def closeAttempt (book : OrderBook) (invoice : InvoiceId) (state : AttemptState)
    (reason : Option AttemptReviewReason) (observation : Observation) (now : Time) :
    OrderBook :=
  match book.attempts.find? invoice with
  | none => book
  | some attempt =>
      { book with
        attempts := book.attempts.set invoice { attempt with
          state := state
          reviewReason := reason
          observation := some observation
          closedAt := some now } }

/-- The paid attempt becomes the order's attempt of record: its pins, its
quote, the frozen observation and the observed amount. -/
def restoreAttempt (references : References) (order : Order) (claimed : WatchedAttempt)
    (attempt : Attempt) (observation : Observation) (observed : Option ℕ) : Order :=
  { order with
    paymentMethod := some .bitcoin
    paykitPins := some attempt.pins
    paykitRequestReference :=
      some (attempt.reference.getD (claimed.pollReference references order.id))
    paykitActivationState := some .active
    paykitRequestState := some .confirmed
    paykitDeliveryState := none
    paykitObservation := some observation
    paykitObservedSats := observed
    sellerWindow := none }

def otherRail (book : OrderBook) : Bool :=
  (book.order.paymentMethod.any fun method => method != .bitcoin) ||
    !(book.payment.adapter == .paykit || book.payment.adapter == .sandbox)

def settledElsewhere (book : OrderBook) : Bool :=
  !(book.payment.state == .awaitingEntitlement || book.payment.state == .expired) ||
    book.order.paykitRequestState == some .awaitingSellerConfirmation

inductive RouteOutcome where
  | notWatching
  | handedBack
  | needsReview
  | lateMoney
deriving DecidableEq, Repr

def releaseOther (book : OrderBook) (invoice : InvoiceId) (now : Time) : OrderBook :=
  if book.order.paykitPins.isSome ∧ book.order.paykitInvoiceId ≠ some invoice then
    let recorded := recordReleasedAttempt book now
    if book.order.paykitActivationState = some .preparing then
      voidPreparingRequest recorded now
    else recorded
  else book

def observedI64 (observation : PaykitObservation) : Except Failure (Option ℕ) :=
  match observation.observedSats with
  | none => .ok none
  | some sats =>
      if sats ≤ i64Max then .ok (some sats) else .error (.internal "observed sats range")

/-- The swap of `route_released_settlement`: the other attempt is released,
the paid one restored, and the payment restated in its satoshis. -/
def swapAttempt (references : References) (book : OrderBook) (claimed : WatchedAttempt)
    (attempt : Attempt) (frozen : Observation) (observed : Option ℕ) (now : Time) :
    Except Failure OrderBook := do
  let book := releaseOther book claimed.invoiceId now
  let book ← book.updateOrder
    (restoreAttempt references book.order claimed attempt frozen observed)
  return { book with
    payment.revision := book.payment.revision + 1
    payment.adapter := .paykit
    payment.amountMinor := attempt.pins.totalSats
    payment.currency := "SAT"
    payment.exponent := 0 }

/-- `route_released_settlement`: confirmed money on a released attempt. -/
def routeReleasedSettlement (references : References) (view : View) (claimed : WatchedAttempt)
    (amountMatched : Bool) (observation : PaykitObservation) (now : Time) :
    Except Failure (RouteOutcome × View) :=
  match view.book.attempts.find? claimed.invoiceId with
  | none => .ok (.notWatching, view)
  | some attempt =>
      if attempt.state ≠ .watching then
        .ok (.notWatching, view)
      else if trackedByOrder view.book.order claimed.invoiceId then
        .ok (.handedBack, view)
      else
        let frozen := observationJson true amountMatched observation now
        if otherRail view.book || settledElsewhere view.book then
          let reason := if settledElsewhere view.book then .paymentSettled else .otherRail
          .ok (.needsReview, { view with
            book := closeAttempt view.book claimed.invoiceId .needsReview
              (some reason) frozen now })
        else do
          let observed ← observedI64 observation
          let book ← swapAttempt references view.book claimed attempt frozen observed now
          if !amountMatched then
            let book ← book.updatePayment { book.payment with
              state := .manualReview
              revision := book.payment.revision + 1
              reviewReason := some .amountMismatch
              manualReviewEnteredAt := some now }
            return (.lateMoney, { view with
              book := closeAttempt book claimed.invoiceId .lateMoney none frozen now })
          else
            let (_, view) ← applyLateMoney { view with book := book } book.order now
            return (.lateMoney, { view with
              book := closeAttempt view.book claimed.invoiceId .lateMoney none frozen now })

/-- A detection on a released attempt: the first one is dated. -/
def detectAttempt (book : OrderBook) (invoice : InvoiceId) (observation : PaykitObservation)
    (now : Time) : OrderBook :=
  match book.attempts.find? invoice with
  | none => book
  | some attempt =>
      if attempt.state = .watching then
        { book with
          attempts := book.attempts.set invoice { attempt with
            detectedAt := some (attempt.detectedAt.getD now)
            observation := some (observationJson false true observation now) } }
      else book

def observationTailSeconds : ℕ := 24 * 3600

def detectionWindowSeconds : ℕ := 7 * 24 * 3600

def closeUnpaid (book : OrderBook) (claimed : WatchedAttempt) (now : Time) : OrderBook :=
  if claimed.detectedAt = none ∧ claimed.expiresAt + observationTailSeconds ≤ now then
    match book.attempts.find? claimed.invoiceId with
    | none => book
    | some attempt =>
        if attempt.state = .watching ∧ attempt.detectedAt = none then
          { book with
            attempts := book.attempts.set claimed.invoiceId { attempt with
              state := .closedUnpaid
              closedAt := some now } }
        else book
  else book

/-- `escalate_stale_detections` for one attempt. -/
def escalateDetection (book : OrderBook) (invoice : InvoiceId) (now : Time) : OrderBook :=
  match book.attempts.find? invoice with
  | none => book
  | some attempt =>
      if attempt.state = .watching ∧
          attempt.detectedAt.any fun detected => detected + detectionWindowSeconds ≤ now then
        { book with
          attempts := book.attempts.set invoice { attempt with
            state := .needsReview
            reviewReason := some .detectedUnconfirmed
            closedAt := some now } }
      else book

end MarketplaceService
