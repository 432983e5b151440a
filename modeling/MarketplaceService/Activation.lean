import MarketplaceService.Expiry

/-!
The two-phase Paykit activation (`workers.rs`). A worker claims an outbox row,
reads the order, asks Paykit outside any transaction and writes in a second
transaction. The row names the invoice of its bind; the writes after the answer
are conditional on the order's activation label. The expiry of a preparing
order has the same shape: lease, read of the pins, void at Paykit, write.
-/

namespace MarketplaceService

inductive PaykitCommandError where
  | prepareExpired
  | invoiceFinalized
  | unknownInvoice
  | activationTotalMismatch
  | stackIdentityMismatch
  | unexpectedRejection
  | unavailable
deriving DecidableEq, Repr

inductive ActivateAnswer where
  | activated (observing : Bool) (totalSats : ℕ)
  | error (error : PaykitCommandError)
deriving DecidableEq, Repr

inductive VoidAnswer where
  | voided
  | error (error : PaykitCommandError)
deriving DecidableEq, Repr

def stampDelivered (outbox : List OutboxRow) (row : ℕ) (now : Time) : List OutboxRow :=
  outbox.modify row fun entry => { entry with deliveredAt := some now }

/-- `claim_outbox_batch` for one row: undelivered, its lease free. -/
def claimOutboxRow (book : OrderBook) (row : ℕ) (leaseSeconds : ℕ) (now : Time) :
    Option (OutboxRow × OrderBook) :=
  match book.outbox[row]? with
  | none => none
  | some entry =>
      if entry.deliveredAt = none ∧ entry.leaseUntil.all fun lease => lease ≤ now then
        some (entry, { book with
          outbox := book.outbox.modify row fun entry =>
            { entry with leaseUntil := some (now + leaseSeconds) } })
      else none

/-- `void_prepare_effects`. The bind is released; the pins stay on the order,
and of the payment only the adapter and the amount are restored. -/
def voidPrepareEffects (view : View) (row : ℕ) (now : Time) : Except Failure View :=
  let order := view.book.order
  if order.paykitActivationState ≠ some .preparing then
    .ok { view with book.outbox := stampDelivered view.book.outbox row now }
  else do
    let book := recordReleasedAttempt view.book now
    let inventory ←
      if order.stockHeld then orRollback (releaseLines .reserved order.lines view.inventory)
      else .ok view.inventory
    return {
      inventory := inventory
      book := { book with
        order.revision := order.revision + 1
        order.paykitActivationState := some .voided
        order.paykitRequestState := none
        order.paymentMethod := none
        order.stockHeld := false
        order.holdExpiresAt := none
        payment.revision := book.payment.revision + 1
        payment.adapter := .sandbox
        payment.amountMinor := order.totalMinor
        outbox := stampDelivered book.outbox row now } }

/-- What the first transaction of `deliver_paykit_activation` does. -/
inductive BeginActivation where
  | settled (book : OrderBook)
  | send (book : OrderBook) (totalSats : ℕ)

def beginActivation (book : OrderBook) (row : ℕ) (activationAttempt : ℕ) (now : Time) :
    Except Failure BeginActivation :=
  let order := book.order
  if order.paykitActivationState ≠ some .preparing then
    .ok (.settled { book with outbox := stampDelivered book.outbox row now })
  else if order.state ≠ .pendingPayment then
    let voided := voidPreparingRequest book now
    let queued :=
      match order.paykitPins with
      | none => voided
      | some pins => enqueuePaykitVoid voided pins now
    .ok (.settled { queued with outbox := stampDelivered queued.outbox row now })
  else
    match order.paykitPins with
    | none => .error (.internal "preparing order is missing its persisted paykit pin")
    | some pins =>
        .ok (.send
          { book with
            outbox := book.outbox.modify row fun entry =>
              { entry with activationAttempt := activationAttempt + 1 } }
          pins.totalSats)

def trackInvoiceLiveAfterVoid (book : OrderBook) (invoice : InvoiceId) :
    Except Failure OrderBook :=
  if book.order.paykitInvoiceId = some invoice ∧
      book.order.paykitActivationState = some .voided ∧
      book.order.state ≠ .pendingPayment then do
    let book ← book.updateOrder { book.order with
      paykitActivationState := some .active
      paykitRequestState := some .pending }
    if book.payment.adapter = .paykit ∧ book.payment.state = .awaitingEntitlement then
      book.updatePayment { book.payment with
        state := .expired
        revision := book.payment.revision + 1 }
    else return book
  else
    .ok book

/-- The flip `preparing → active`, conditional on the label alone. -/
def flipActive (book : OrderBook) : Except Failure OrderBook :=
  book.updateOrder { book.order with
    paykitActivationState := some .active
    paykitRequestState := some .pending }

/-- What follows the answer to an activate request that named `invoice` and
asked for `totalSats`. -/
def applyActivateAnswer (view : View) (row : ℕ) (invoice : InvoiceId) (totalSats : ℕ)
    (answer : ActivateAnswer) (now : Time) : Except Failure View :=
  match answer with
  | .activated observing activatedTotal =>
      if !observing then
        .ok view
      else if activatedTotal ≠ totalSats then
        voidPrepareEffects view row now
      else do
        let book ←
          if view.book.order.paykitActivationState = some .preparing then flipActive view.book
          else trackInvoiceLiveAfterVoid view.book invoice
        return { view with
          book := { book with outbox := stampDelivered book.outbox row now } }
  | .error .unavailable => .ok view
  | .error _ => voidPrepareEffects view row now

/-- `deliver_paykit_void` after Paykit's answer: only a published invoice
changes the order. -/
def applyVoidAnswer (book : OrderBook) (row : ℕ) (invoice : InvoiceId) (answer : VoidAnswer)
    (now : Time) : Except Failure OrderBook :=
  match answer with
  | .error .unavailable => .ok book
  | .error .invoiceFinalized => do
      let book ← trackInvoiceLiveAfterVoid book invoice
      return { book with outbox := stampDelivered book.outbox row now }
  | _ => .ok { book with outbox := stampDelivered book.outbox row now }

/-! The expiry of a preparing order. -/

/-- The discovery statement of the preparing-order sweep. -/
def preparingDue (book : OrderBook) (now : Time) : Bool :=
  book.order.state == .pendingPayment && book.order.stockHeld &&
    (book.order.holdExpiresAt.all fun deadline => deadline ≤ now) &&
    book.payment.state == .awaitingEntitlement &&
    book.order.paykitActivationState == some .preparing

def leaseActivateRow (book : OrderBook) (leaseSeconds : ℕ) (now : Time) :
    Option (ℕ × OrderBook) :=
  match book.outbox.findIdx? (fun row =>
      row.kind = .paykitActivate ∧ row.deliveredAt = none) with
  | none => none
  | some row => (claimOutboxRow book row leaseSeconds now).map fun claimed => (row, claimed.2)

/-- The pins as `expire_preparing_order` reads them before the remote void. -/
structure PreparingPin where
  invoiceId : InvoiceId
  holdExpiresAt : Option Time
deriving DecidableEq, Repr

def readPreparingPin (order : Order) : Option PreparingPin :=
  order.paykitPins.map fun pins =>
    { invoiceId := pins.invoiceId, holdExpiresAt := order.holdExpiresAt }

def preparingVoidGraceSeconds : ℕ := 30 * 60

/-- `void_and_expire_preparing_order`: the ordinary expiry effects, then the
label is compared and swapped; a label that moved rolls everything back. -/
def voidAndExpirePreparingOrder (view : View) (row : ℕ) (enqueueVoidRetry : Bool) (now : Time) :
    Except Failure View := do
  let view ← expireHeldOrder view true now
  if view.book.order.paykitActivationState ≠ some .preparing then
    .error (.database "no preparing row")
  else
    let voided := recordReleasedAttempt { view.book with
      order.revision := view.book.order.revision + 1
      order.paykitActivationState := some .voided
      order.paykitRequestState := none } now
    let queued ←
      if enqueueVoidRetry then
        match voided.order.paykitPins with
        | none => .error (.internal "preparing order is missing its persisted paykit pin")
        | some pins => .ok (enqueuePaykitVoid voided pins now)
      else .ok voided
    return { view with
      book := { queued with outbox := stampDelivered queued.outbox row now } }

def applyPreparingVoidAnswer (view : View) (row : ℕ) (pin : PreparingPin) (answer : VoidAnswer)
    (now : Time) : Except Failure View :=
  match answer with
  | .error .invoiceFinalized => do
      let book ←
        if view.book.order.paykitActivationState = some .preparing then flipActive view.book
        else .ok view.book
      return { view with book := { book with outbox := stampDelivered book.outbox row now } }
  | .error .unavailable =>
      if pin.holdExpiresAt.any fun deadline => deadline + preparingVoidGraceSeconds < now then
        voidAndExpirePreparingOrder view row true now
      else
        .ok { view with
          book.outbox := view.book.outbox.modify row fun entry =>
            { entry with leaseUntil := none } }
  | _ => voidAndExpirePreparingOrder view row false now

end MarketplaceService
