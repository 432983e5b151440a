import MarketplaceService.PaykitAttempts

/-!
Payment methods (`payment_methods.rs`) and the Locks rail (`handlers/locks.rs`
and its verification worker): the bind of an order to a method, with phase 1 of
the Paykit protocol inside the bind transaction, and the confirmation of a
verified fiat or Locks payment. The seller's configuration, the FX quote and
Paykit's phase-1 answer are inputs of a bind.
-/

namespace MarketplaceService

def isFiatCurrency (currency : String) : Bool :=
  currency.length == 3 && currency.toList.all Char.isUpper &&
    !(currency == "SAT" || currency == "BTC" || currency == "XBT")

structure SellerConfig where
  bitcoinEnabled : Bool
  stripePaymentLink : Bool
  paypalMerchantEmail : Bool
  /-- Whether `paypal_checkout_url` accepts the order's denomination. -/
  paypalAmount : Bool
deriving DecidableEq, Repr

/-- Phase 1 of the Paykit protocol: what `create_payment_request` returned. -/
structure Phase1 where
  invoiceId : InvoiceId
  stackId : String
  stackEndpoint : String
  totalSats : ℕ
  nonceSats : ℕ
  expiresAt : Time
  prepareExpiresAt : Time
  allocationMode : AllocationMode
  addressFingerprint : String
deriving DecidableEq, Repr

/-- The inputs of a bind: `attempt` is the number reserved before the bind
transaction, `fxSats` the answer of `quote_usd`, `phase1` Paykit's answer. -/
structure BindRequest where
  actor : Pubky
  method : PaymentMethod
  config : SellerConfig
  attempt : ℕ
  fxSats : Option ℕ
  phase1 : Option Phase1
  windowSeconds : ℕ
deriving DecidableEq, Repr

def reserveBindAttempt (book : OrderBook) (actor : Pubky) : Option (ℕ × OrderBook) :=
  if book.order.buyerPubky = actor then
    let attempt := book.order.paykitBindAttempt + 1
    some (attempt, { book with order.paykitBindAttempt := attempt })
  else none

/-- What a bitcoin bind charges before the nonce, and the quote it freezes. A
bitcoin-denominated order is its own amount; a USD order is quoted, between
the minimum and the cap of `quote_sats`. -/
structure BitcoinAmount where
  sats : ℕ
  quote : Option Quote
  sats_pos : 0 < sats

def bitcoinAmount (order : Order) (fxSats : Option ℕ) : Except Failure BitcoinAmount :=
  if (order.currency = "SAT" ∧ order.exponent = 0) ∨
      (order.currency = "BTC" ∧ order.exponent = 8) then
    if positive : 0 < order.totalMinor then
      .ok { sats := order.totalMinor, quote := none, sats_pos := positive }
    else
      .error (.refused .invalidState "The Bitcoin amount must be a positive satoshi amount.")
  else if order.currency = "USD" ∧ order.exponent = 2 then
    match fxSats with
    | none => .error (.refused .invalidState "A verified FX reference is not available yet.")
    | some sats =>
        if 100000000 < sats then
          .error (.refused .invalidState "The Bitcoin amount exceeds the permitted maximum.")
        else if minimum : 1000 ≤ sats then
          .ok {
            sats := sats
            quote := some
              { quotedSats := sats, currency := order.currency, exponent := order.exponent }
            sats_pos := Nat.lt_of_lt_of_le (by decide) minimum }
        else
          .error (.refused .invalidState
            "The Bitcoin amount is below the 1,000-satoshi minimum.")
  else
    .error (.refused .invalidState
      "Bitcoin binding supports only USD/2, BTC/8, and SAT/0 orders.")

/-- The pins a prepared invoice leaves on the order, when Paykit's total is
the amount plus the nonce and its expiry the hold deadline. -/
def preparedPins (amount : BitcoinAmount) (phase1 : Phase1) (expiresAt : Time) :
    Except Failure PaykitPins :=
  if total : phase1.totalSats = amount.sats + phase1.nonceSats then
    if phase1.expiresAt = expiresAt then
      .ok {
        invoiceId := phase1.invoiceId
        stackId := phase1.stackId
        stackEndpoint := phase1.stackEndpoint
        totalSats := phase1.totalSats
        expiresAt := expiresAt
        prepareExpiresAt := phase1.prepareExpiresAt
        allocationMode := phase1.allocationMode
        addressFingerprint := phase1.addressFingerprint
        quote := amount.quote
        total_pos := by
          rw [total]
          exact Nat.add_pos_left amount.sats_pos _ }
    else
      .error (.refused .invalidState
        "The Paykit server returned an inconsistent payment expiry.")
  else
    .error (.refused .invalidState
      "The Paykit server returned an inconsistent payment total.")

/-- The statements every bind shares: the released attempt still on the order
is recorded, then the method, the reference and the request state are written.
The other Paykit columns stay as they are. -/
def bindOrder (book : OrderBook) (method : PaymentMethod) (reference : Option Reference)
    (adapter : Adapter) (now : Time) : OrderBook :=
  let book := recordReleasedAttempt book now
  { book with
    order.revision := book.order.revision + 1
    order.paymentMethod := some method
    order.paykitRequestReference := reference
    order.paykitRequestState := reference.map fun _ => .preparing
    order.paykitDeliveryState := none
    payment.revision := book.payment.revision + 1
    payment.adapter := adapter }

structure FiatMethod where
  method : PaymentMethod
  adapter : Adapter
  unconfigured : String
  notFiat : String

def stripeMethod : FiatMethod :=
  { method := .stripe
    adapter := .stripe
    unconfigured := "The seller has no Stripe payment link configured."
    notFiat := "Stripe payment requires a fiat-denominated order." }

def paypalMethod : FiatMethod :=
  { method := .paypal
    adapter := .paypal
    unconfigured := "The seller has no PayPal merchant email configured."
    notFiat := "PayPal payment requires a fiat-denominated order." }

/-- The fiat branch of a bind: the hold is acquired before the method's own
checks. `checkoutUrl` is whether the method's checkout link can carry the
order's amount. -/
def bindFiat (view : View) (fiat : FiatMethod) (configured checkoutUrl : Bool)
    (windowSeconds : ℕ) (now : Time) : Except Failure View := do
  let view ← acquirePaymentHold view windowSeconds .bind now
  if !configured then
    .error (.refused .invalidState fiat.unconfigured)
  else if !isFiatCurrency view.book.order.currency then
    .error (.refused .invalidState fiat.notFiat)
  else if !checkoutUrl then
    .error (.refused .invalidState "currency_unsupported")
  else
    return { view with book := bindOrder view.book fiat.method none fiat.adapter now }

/-- The persisted prepare of a bitcoin bind: pins, activation label, satoshi
payment and the `paykit.activate` row. -/
def persistPrepare (book : OrderBook) (pins : PaykitPins) (now : Time) : OrderBook :=
  { book with
    order.paykitPins := some pins
    order.paykitActivationState := some .preparing
    payment.amountMinor := pins.totalSats
    payment.currency := "SAT"
    payment.exponent := 0
    outbox := book.outbox ++
      [{ kind := .paykitActivate
         invoiceId := pins.invoiceId
         stackId := pins.stackId
         stackEndpoint := pins.stackEndpoint
         activationAttempt := 0
         createdAt := now
         leaseUntil := none
         deliveredAt := none }] }

def bindBitcoin (references : References) (view : View) (request : BindRequest) (now : Time) :
    Except Failure View := do
  if !request.config.bitcoinEnabled then
    .error (.refused .invalidState "The seller does not accept Bitcoin.")
  else
    let amount ← bitcoinAmount view.book.order request.fxSats
    let view ← acquirePaymentHold view request.windowSeconds .bind now
    let reference := references.attemptReference view.book.order.id request.attempt
    let book := bindOrder view.book .bitcoin (some reference) .paykit now
    let expiresAt := book.order.holdExpiresAt.getD (now + request.windowSeconds)
    match request.phase1 with
    | none =>
        .error (.refused .upstreamUnavailable "The Paykit server could not be reached; try again.")
    | some phase1 =>
        let pins ← preparedPins amount phase1 expiresAt
        return { view with book := persistPrepare book pins now }

/-- `bind_payment_method`, its transaction. -/
def bindPaymentMethod (references : References) (view : View) (request : BindRequest)
    (now : Time) : Except Failure View :=
  let order := view.book.order
  if order.buyerPubky ≠ request.actor then
    .error (.refused .unauthorized "Only the buyer may bind the payment method.")
  else
    match order.paymentMethod with
    | some bound =>
        if bound = request.method then .ok view
        else .error (.refused .invalidState "A payment method is already bound to this order.")
    | none =>
        if order.state ≠ .pendingPayment then
          .error (.refused .invalidState
            "Only an order pending payment can bind a payment method.")
        else if view.book.payment.state ≠ .awaitingEntitlement then
          .error (.refused .invalidState "The payment is no longer awaiting a method.")
        else if view.book.payment.adapter = .locks then
          .error (.refused .invalidState
            "A Locks-correlated payment advances only by server-side verification.")
        else
          match request.method with
          | .bitcoin => bindBitcoin references view request now
          | .stripe =>
              bindFiat view stripeMethod request.config.stripePaymentLink true
                request.windowSeconds now
          | .paypal =>
              bindFiat view paypalMethod request.config.paypalMerchantEmail
                request.config.paypalAmount request.windowSeconds now

/-! A verified fiat payment. -/

/-- The outcome of a confirmation transaction: committed, or refused by
`confirm_order` and rolled back, with a second transaction to follow. -/
inductive ConfirmResult where
  | done (view : View)
  | refused

def confirmAwaiting (view : View) (now : Time) : Except Failure ConfirmResult :=
  match confirmOrder view view.book.order now with
  | .error (.database constraint) => .error (.database constraint)
  | .error _ => .ok .refused
  | .ok confirmed => do
      let book ← confirmed.book.updatePayment { confirmed.book.payment with
        state := .confirmed
        revision := confirmed.book.payment.revision + 1 }
      return .done { confirmed with book := book }

/-- `apply_fiat_paid`, its first transaction. -/
def applyFiatPaid (view : View) (transactionRef : Option String) (verifiedBy : VerifiedBy)
    (now : Time) : Except Failure ConfirmResult :=
  if view.book.payment.state = .expired then do
    let (_, view) ← applyLateMoney view view.book.order now
    return .done view
  else if view.book.payment.state ≠ .awaitingEntitlement then
    .ok (.done view)
  else
    let stamped := { view with
      book.order.fiatTransactionRef := transactionRef.or view.book.order.fiatTransactionRef
      book.order.fiatVerifiedBy := some verifiedBy }
    if unpinnable view.inventory view.book.order then do
      let view ← refundRequired stamped view.book.order
        "digital delivery unavailable at payment" now
      return .done view
    else
      confirmAwaiting stamped now

/-- The second transaction after a refused confirmation: an awaiting payment
enters review. -/
def reviewAwaiting (book : OrderBook) (now : Time) : Except Failure OrderBook :=
  if book.payment.state = .awaitingEntitlement then
    book.updatePayment { book.payment with
      state := .manualReview
      revision := book.payment.revision + 1
      manualReviewEnteredAt := some now }
  else .ok book

/-! The Locks rail. -/

/-- `payment.prepare_locks`, once the seller's lock document matches. The
price of record must still be the payment's own amount. -/
def prepareLocks (view : View) (actor : Pubky) (windowSeconds : ℕ) (now : Time) :
    Except Failure View :=
  let order := view.book.order
  let payment := view.book.payment
  if order.buyerPubky ≠ actor then
    .error (.refused .unauthorized "Only the buyer may prepare the Locks payment.")
  else if view.book.locks.isSome then
    .error (.refused .invalidState "The payment already has a Locks preparation.")
  else if payment.state ≠ .awaitingEntitlement then
    .error (.refused .invalidState "Only a payment awaiting entitlement can prepare Locks.")
  else if order.state ≠ .pendingPayment then
    .error (.refused .invalidState "Only a pending order can prepare Locks.")
  else if !view.book.locksSnapshot then
    .error (.refused .invalidState
      "The order has no seller-authored Locks payment lock snapshot.")
  else if order.paymentMethod.isSome then
    .error (.refused .invalidState "The payment is already bound to a non-Locks payment rail.")
  else if payment.amountMinor ≠ order.totalMinor ∨ payment.currency ≠ order.currency ∨
      payment.exponent ≠ order.exponent then
    .error (.refused .invalidState "The checkout Locks snapshot does not match the payment.")
  else do
    let view ← acquirePaymentHold view windowSeconds .locks now
    return { view with
      book.locks := some
        { registered := false, pending := true, windowExpiresAt := now + windowSeconds }
      book.payment.revision := view.book.payment.revision + 1
      book.payment.adapter := .locks }

def registerLocks (book : OrderBook) (actor : Pubky) (now : Time) : Except Failure OrderBook :=
  if book.order.buyerPubky ≠ actor then
    .error (.refused .unauthorized "Only the buyer may register the Locks correlation.")
  else if book.payment.state ≠ .awaitingEntitlement then
    .error (.refused .invalidState
      "Only a payment awaiting entitlement can register a Locks correlation.")
  else
    match book.locks with
    | none =>
        .error (.refused .invalidState
          "Prepare the seller-authorized Locks payment before registering a bundle.")
    | some correlation =>
        if correlation.registered then
          .error (.refused .invalidState "The payment already has a registered Locks bundle.")
        else if book.order.state ≠ .pendingPayment ∨ book.order.stockHeld = false ∨
            book.order.holdExpiresAt ≠ some correlation.windowExpiresAt then
          .error (.refused .invalidState
            "The order no longer holds the prepared Locks payment window.")
        else if correlation.windowExpiresAt ≤ now then
          .error (.refused .invalidState "The Locks preparation has expired.")
        else
          .ok { book with
            locks := some { correlation with registered := true }
            payment.revision := book.payment.revision + 1
            payment.adapter := .locks }

/-- The claim predicate of the Locks verification worker. -/
def locksDue (book : OrderBook) : Bool :=
  book.locks.any fun correlation => correlation.registered && correlation.pending

def markCorrelationCompleted (book : OrderBook) : OrderBook :=
  { book with locks := book.locks.map fun correlation => { correlation with pending := false } }

/-- `apply_completed_lifecycle`, its first transaction. -/
def applyCompletedLifecycle (view : View) (now : Time) : Except Failure ConfirmResult :=
  if view.book.payment.state = .awaitingEntitlement then do
    match ← confirmAwaiting view now with
    | .refused => return .refused
    | .done view => return .done { view with book := markCorrelationCompleted view.book }
  else if view.book.payment.state = .expired then do
    let (_, view) ← applyLateMoney view view.book.order now
    return .done { view with book := markCorrelationCompleted view.book }
  else
    .ok (.done { view with book := markCorrelationCompleted view.book })

/-- `apply_manual_review` from `awaiting_entitlement`. -/
def locksReview (book : OrderBook) (now : Time) : Except Failure OrderBook := do
  let book ← reviewAwaiting book now
  return markCorrelationCompleted book

end MarketplaceService
