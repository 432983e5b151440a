import MarketplaceService.GatewayRefunds
import MarketplaceService.Lib.DigitText

/-!
How a verified refund notification finds its order (`payment_methods/
paypal_refund.rs`). The notification is checked against the order that owns its
payment and recorded there with the order's return request, or held in
`gateway_refund_inbox` with the reason. Settling the payment stores its id and
the receiver it was verified against, and evaluates again whatever was held for
want of it. The parser refuses an amount that does not fit an `i64`; the sums
of a ledger wrap.
-/

namespace MarketplaceService

/-! Fields of a notification. -/

def asciiGraphic (c : Char) : Bool := '!' ≤ c && c ≤ '~'

def paypalTransactionId (value : String) : Option String :=
  if value ≠ "" ∧ value.utf8ByteSize ≤ 64 ∧ value.toList.all asciiGraphic then some value
  else none

def asciiLowercase (value : String) : String := String.ofList (value.toList.map Char.toLower)

def checkedI64 (value : ℕ) : Option ℕ := if value ≤ i64Max then some value else none

/-- `parse::<i64>` of a string of digits. -/
def parseDigits (digits : List Char) : Option ℕ := checkedI64 (DigitText.readDigits digits)

def parseGatewayAmountMinor (value : List Char) (exponent : ℕ) : Option ℕ := do
  let whole := value.takeWhile (· ≠ '.')
  let fraction := (value.dropWhile (· ≠ '.')).drop 1
  if whole.isEmpty || !whole.all Char.isDigit then none
  else if fraction.length ≠ exponent || !fraction.all Char.isDigit then none
  else
    let scale ← checkedI64 (10 ^ exponent)
    let whole ← parseDigits whole
    let fraction ← parseDigits fraction
    let scaled ← checkedI64 (whole * scale)
    checkedI64 (scaled + fraction)

def positiveAmount (amount : Option ℕ) : Option ℕ := amount.filter (0 < ·)

/-- A refund or reversal's `mc_gross` is negative. -/
def negativeGrossMinor (mcGross : List Char) (exponent : ℕ) : Option ℕ :=
  match mcGross with
  | '-' :: rest => positiveAmount (parseGatewayAmountMinor rest exponent)
  | _ => none

/-- A canceled reversal's `mc_gross` is the positive amount restored. -/
def positiveGrossMinor (mcGross : List Char) (exponent : ℕ) : Option ℕ :=
  positiveAmount (parseGatewayAmountMinor mcGross exponent)

def GatewayStatus.parse (value : String) : Option GatewayStatus :=
  if value = "Refunded" then some .refunded
  else if value = "Reversed" then some .reversed
  else if value = "Canceled_Reversal" then some .canceledReversal
  else none

/-- The fields of a notification that are read, all of them kept by an inbox
row. `custom` is the order id it parses to. -/
structure RefundIpn where
  paymentStatus : String
  txnId : String
  parentTxnId : String
  custom : Option OrderId
  mcGross : List Char
  mcCurrency : String
  receiverEmail : Option String
  business : Option String
  receiverId : Option String
deriving DecidableEq

/-- Either address PayPal names as the payee is the merchant's. -/
def paidToMerchant (ipn : RefundIpn) (merchantEmail : String) : Bool :=
  [ipn.receiverEmail, ipn.business].any fun address =>
    address.any fun value => asciiLowercase value == asciiLowercase merchantEmail

/-- The notification names the receiver its payment was verified against. -/
def paidToSnapshot (ipn : RefundIpn) (receiverEmail receiverId : Option String) : Bool :=
  (receiverId.any fun stored => ipn.receiverId.any fun value => value != "" && value == stored) ||
    receiverEmail.any fun email => paidToMerchant ipn email

def grossMinor (status : GatewayStatus) (mcGross : List Char) (exponent : ℕ) : Option ℕ :=
  match status with
  | .canceledReversal => positiveGrossMinor mcGross exponent
  | .refunded | .reversed => negativeGrossMinor mcGross exponent

/-! The rows. -/

inductive ReturnState where
  | requested
  | approved
  | received
  | refunded
deriving DecidableEq, Repr

structure ReturnRequest where
  state : ReturnState
  updatedAt : Time
deriving DecidableEq

def setReturnState (request : Option ReturnRequest) (state : ReturnState) (now : Time) :
    Option ReturnRequest :=
  request.map fun request => { request with state := state, updatedAt := now }

/-- An order with every column the gateway reads or writes. The replaced return
states are kept by the refund that replaced them. -/
structure GatewayOrder where
  book : OrderBook
  file : GatewayFile
  receiverEmail : Option String
  receiverId : Option String
  returnRequest : Option ReturnRequest
  fromReturnStates : Keyed.Table String (Option ReturnState)
deriving DecidableEq

inductive InboxReason where
  | missingParent
  | unknownParent
  | customMismatch
  | receiverMismatch
  | receiverUnverified
  | currencyMismatch
  | amountInvalid
deriving DecidableEq, Repr

/-- A row of `gateway_refund_inbox`, with the notification it keeps. -/
structure InboxRow where
  ipn : RefundIpn
  parentTxnId : Option String
  reason : InboxReason
  orderId : Option OrderId
  receivedAt : Time
  resolvedAt : Option Time
deriving DecidableEq

inductive RefundEffect where
  | part
  | full
  | restored
  | review
deriving DecidableEq, Repr

inductive Disposition where
  | applied (effect : RefundEffect)
  | duplicate
  | inbox (reason : InboxReason)
  | malformed
deriving DecidableEq, Repr

/-- The tables a PayPal notification reads and writes. -/
structure Desk where
  inventory : Inventory
  orders : Keyed.Table OrderId GatewayOrder
  inbox : Keyed.Table String InboxRow
deriving DecidableEq

/-! `record_on_order`, with the return request. -/

/-- The latest row that moved the order to `refunded_external`. -/
def replacedRow (rows : List LedgerRow) : Option LedgerRow :=
  rows.reverse.find? fun row => row.fromState.isSome

def restoredRow (order : Order) (file : GatewayFile) (record : GatewayRecord) :
    Option LedgerRow :=
  let rows := file.rows
  let after := (ledgerTotals rows).add record.status record.amountMinor
  if record.status = .canceledReversal ∧ order.state = .refundedExternal ∧
      after.effective < (order.totalMinor : ℤ) ∧ manualExternal order rows = false then
    replacedRow rows
  else none

def refundEffect (change : OrderChange) (restored : Option LedgerRow) : RefundEffect :=
  if change.fromState.isSome then .full
  else if restored.isSome then .restored
  else if change.review then .review
  else .part

/-- What the notification makes of the return request: a full refund ends it,
taking the refund back restores it. -/
def GatewayOrder.nextReturn (entry : GatewayOrder) (change : OrderChange)
    (restored : Option LedgerRow) (now : Time) : Option ReturnRequest :=
  if change.fromState.isSome then setReturnState entry.returnRequest .refunded now
  else
    match (restored.bind fun row => entry.fromReturnStates.find? row.refundTxnId).join with
    | some state => setReturnState entry.returnRequest state now
    | none => entry.returnRequest

def GatewayOrder.recordOnOrder (entry : GatewayOrder) (record : GatewayRecord) (now : Time) :
    Except Failure (Disposition × GatewayOrder) :=
  if entry.file.rows.any (·.refundTxnId == record.txnId) then .ok (.duplicate, entry)
  else do
    let change := orderChange entry.book.order entry.file record now
    let restored := restoredRow entry.book.order entry.file record
    let written ← MarketplaceService.recordOnOrder entry.book entry.file record now
    return (.applied (refundEffect change restored),
      { entry with
        book := written.1
        file := written.2
        returnRequest := entry.nextReturn change restored now
        fromReturnStates :=
          if change.fromState.isSome then
            entry.fromReturnStates.set record.txnId (entry.returnRequest.map ReturnRequest.state)
          else entry.fromReturnStates })

/-! Resolution of a notification. -/

/-- `InboxEntry::store`: the notification is held, or its unresolved row takes
this evaluation's reason. -/
def Desk.store (desk : Desk) (ipn : RefundIpn) (parentTxnId : Option String)
    (reason : InboxReason) (orderId : Option OrderId) (now : Time) : Disposition × Desk :=
  match desk.inbox.find? ipn.txnId with
  | none =>
      (.inbox reason,
        { desk with
          inbox := desk.inbox.set ipn.txnId
            { ipn := ipn
              parentTxnId := parentTxnId
              reason := reason
              orderId := orderId
              receivedAt := now
              resolvedAt := none } })
  | some row =>
      if row.resolvedAt = none ∧ (row.reason, row.orderId) ≠ (reason, orderId.or row.orderId) then
        (.inbox reason,
          { desk with
            inbox := desk.inbox.set ipn.txnId
              { row with reason := reason, orderId := orderId.or row.orderId } })
      else (.duplicate, desk)

def Desk.recorded (desk : Desk) (txnId : String) : Bool :=
  desk.orders.rows.any fun row => row.2.file.ledger.any (·.refundTxnId == txnId)

/-- The order that owns a verified payment. -/
def Desk.owner (desk : Desk) (payment : String) : Option (OrderId × GatewayOrder) :=
  desk.orders.rows.find? fun row => row.2.file.paypalTxnId == some payment

def Desk.resolve (desk : Desk) (txnId : String) (now : Time) : Desk :=
  match desk.inbox.find? txnId with
  | some row =>
      if row.resolvedAt = none then
        { desk with inbox := desk.inbox.set txnId { row with resolvedAt := some now } }
      else desk
  | none => desk

def Desk.recordOnOrder (desk : Desk) (orderId : OrderId) (record : GatewayRecord) (now : Time) :
    Except Failure (Disposition × Desk) :=
  match desk.orders.find? orderId with
  | none => .ok (.inbox .unknownParent, desk)
  | some entry => do
      let (disposition, written) ← entry.recordOnOrder record now
      match disposition with
      | .applied _ =>
          return (disposition,
            { desk.resolve record.txnId now with orders := desk.orders.set orderId written })
      | _ => return (disposition, desk)

def Desk.evaluate (desk : Desk) (ipn : RefundIpn) (now : Time) :
    Except Failure (Disposition × Desk) :=
  match GatewayStatus.parse ipn.paymentStatus, paypalTransactionId ipn.txnId with
  | some status, some txnId =>
      if desk.recorded txnId then .ok (.duplicate, desk)
      else
        let customOrder := ipn.custom.filter fun id => (desk.orders.find? id).isSome
        match paypalTransactionId ipn.parentTxnId with
        | none => .ok (desk.store ipn none .missingParent customOrder now)
        | some parent =>
            match desk.owner parent with
            | none => .ok (desk.store ipn (some parent) .unknownParent customOrder now)
            | some (orderId, entry) =>
                let hold := fun reason => desk.store ipn (some parent) reason (some orderId) now
                if customOrder.any (· != orderId) then .ok (hold .customMismatch)
                else if entry.receiverEmail.isNone && entry.receiverId.isNone then
                  .ok (hold .receiverUnverified)
                else if !paidToSnapshot ipn entry.receiverEmail entry.receiverId then
                  .ok (hold .receiverMismatch)
                else if ipn.mcCurrency ≠ entry.book.order.currency then
                  .ok (hold .currencyMismatch)
                else
                  match grossMinor status ipn.mcGross entry.book.order.exponent with
                  | none => .ok (hold .amountInvalid)
                  | some amount =>
                      desk.recordOnOrder orderId
                        { txnId := txnId
                          parentTxnId := parent
                          status := status
                          amountMinor := amount } now
  | _, _ => .ok (.malformed, desk)

/-! Settlement of the payment. -/

/-- The verified payment behind a `Completed` notification. -/
structure GatewayPayment where
  txnId : String
  merchantEmail : String
  receiverId : Option String
deriving DecidableEq

def Desk.storePayment (desk : Desk) (orderId : OrderId) (payment : GatewayPayment) : Desk :=
  match desk.orders.find? orderId with
  | none => desk
  | some entry =>
      if entry.file.paypalTxnId = none ∧ (desk.owner payment.txnId).isNone then
        { desk with
          orders := desk.orders.set orderId
            { entry with
              file := { entry.file with paypalTxnId := some payment.txnId }
              receiverEmail := some (asciiLowercase payment.merchantEmail)
              receiverId := payment.receiverId } }
      else desk

/-- `ORDER BY received_at, txn_id`. -/
def InboxRow.comesBefore (left right : InboxRow) : Prop :=
  left.receivedAt < right.receivedAt ∨
    left.receivedAt = right.receivedAt ∧ left.ipn.txnId ≤ right.ipn.txnId

instance : DecidableRel InboxRow.comesBefore := fun left right =>
  inferInstanceAs (Decidable (left.receivedAt < right.receivedAt ∨
    left.receivedAt = right.receivedAt ∧ left.ipn.txnId ≤ right.ipn.txnId))

def InboxRow.waitsFor (row : InboxRow) (payment : String) : Bool :=
  row.parentTxnId == some payment && row.reason == .unknownParent && row.resolvedAt.isNone

def Desk.held (desk : Desk) (payment : String) : List InboxRow :=
  ((desk.inbox.rows.map Prod.snd).filter (·.waitsFor payment)).insertionSort InboxRow.comesBefore

def Desk.evaluateAll (desk : Desk) (now : Time) : List RefundIpn → Except Failure Desk
  | [] => .ok desk
  | ipn :: rest => do
      let (_, desk) ← desk.evaluate ipn now
      desk.evaluateAll now rest

def Desk.settleVerifiedPayment (desk : Desk) (orderId : OrderId) (payment : GatewayPayment)
    (now : Time) : Except Failure Desk :=
  let stored := desk.storePayment orderId payment
  stored.evaluateAll now ((stored.held payment.txnId).map InboxRow.ipn)

/-- `apply_fiat_paid` up to the settlement: the payment is applied to the order,
in a second transaction when the first is refused. -/
def Desk.applyPaid (desk : Desk) (orderId : OrderId) (transactionRef : Option String)
    (now : Time) : Except Failure Desk :=
  match desk.orders.find? orderId with
  | none => .error (.refused .notFound "The order was not found.")
  | some entry => do
      match ← applyFiatPaid ⟨desk.inventory, entry.book⟩ transactionRef .gateway now with
      | .done view =>
          return { desk with
            inventory := view.inventory
            orders := desk.orders.set orderId { entry with book := view.book } }
      | .refused =>
          let book ← reviewAwaiting entry.book now
          return { desk with orders := desk.orders.set orderId { entry with book := book } }

/-- A verified `Completed` notification. -/
def Desk.completed (desk : Desk) (orderId : OrderId) (payment : GatewayPayment)
    (transactionRef : Option String) (now : Time) : Except Failure Desk := do
  let paid ← desk.applyPaid orderId transactionRef now
  paid.settleVerifiedPayment orderId payment now

end MarketplaceService
