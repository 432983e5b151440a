import Mathlib.Data.List.Sort
import MarketplaceService.Lib.MachineInt
import MarketplaceService.System

/-!
Verified PayPal `Refunded`, `Reversed` and `Canceled_Reversal` notifications.
Each is recorded once on the order that owns the verified payment: a row of the
order's gateway ledger, the running external refund, the reversal marks, and
the move to `refunded_external` or back. A notification that matches no order
is held in an inbox and writes no order; an order's return request, its events
and its notifications are not part of the model. The order rows are those of
the marketplace, whose steps run beside the notifications.
-/

namespace MarketplaceService

inductive GatewayStatus where
  | refunded
  | reversed
  | canceledReversal
deriving DecidableEq, Repr

/-- A row of `order_gateway_refunds`. -/
structure LedgerRow where
  refundTxnId : String
  paymentStatus : GatewayStatus
  amountMinor : ℕ
  recordedAt : Time
  fromState : Option OrderState
deriving DecidableEq

/-- The columns of an order that only the gateway writes, with its ledger. -/
structure GatewayFile where
  paypalTxnId : Option String := none
  ledger : List LedgerRow := []
  paymentReversedAt : Option Time := none
  paymentReversalCancelledAt : Option Time := none
  gatewayRefundReviewAt : Option Time := none
deriving DecidableEq

structure GatewayRecord where
  txnId : String
  parentTxnId : String
  status : GatewayStatus
  amountMinor : ℕ
deriving DecidableEq

/-- The sums of a ledger as `i64` holds them: nothing checks them for an overflow. -/
structure Totals where
  refunded : ℤ
  reversed : ℤ
  restored : ℤ
deriving DecidableEq

def Totals.add (totals : Totals) (status : GatewayStatus) (amount : ℕ) : Totals :=
  match status with
  | .refunded => { totals with refunded := MachineInt.wrap (totals.refunded + amount) }
  | .reversed => { totals with reversed := MachineInt.wrap (totals.reversed + amount) }
  | .canceledReversal => { totals with restored := MachineInt.wrap (totals.restored + amount) }

def Totals.outstandingReversal (totals : Totals) : ℤ :=
  max (MachineInt.wrap (totals.reversed - totals.restored)) 0

/-- Money PayPal returned to the buyer and did not take back. -/
def Totals.effective (totals : Totals) : ℤ :=
  MachineInt.wrap (totals.refunded + totals.outstandingReversal)

def ledgerTotals (ledger : List LedgerRow) : Totals :=
  ledger.foldl (fun totals row => totals.add row.paymentStatus row.amountMinor) ⟨0, 0, 0⟩

/-- `ORDER BY recorded_at, refund_txn_id`. -/
def LedgerRow.comesBefore (left right : LedgerRow) : Prop :=
  left.recordedAt < right.recordedAt ∨
    left.recordedAt = right.recordedAt ∧ left.refundTxnId ≤ right.refundTxnId

instance : DecidableRel LedgerRow.comesBefore := fun left right =>
  inferInstanceAs (Decidable (left.recordedAt < right.recordedAt ∨
    left.recordedAt = right.recordedAt ∧ left.refundTxnId ≤ right.refundTxnId))

def GatewayFile.rows (file : GatewayFile) : List LedgerRow :=
  file.ledger.insertionSort LedgerRow.comesBefore

def fullRefundSources : List OrderState :=
  [ .paid, .readyForPickup, .shipped, .delivered, .completed, .returnReceived, .cancelRequested
  , .cancelled, .returnRequested, .returnApproved ]

/-- The recorded refund carries a transaction id that no ledger row has. -/
def manualExternal (order : Order) (rows : List LedgerRow) : Bool :=
  order.externalRefund.any fun refund => !rows.any (·.refundTxnId == refund.reference)

def runningRefund (order : Order) (effective : ℤ) (txn : String) : Option ExternalRefund :=
  if 0 < effective then
    some { amountMinor := (min effective order.totalMinor).toNat, reference := txn }
  else none

structure OrderChange where
  state : OrderState
  externalRefund : Option ExternalRefund
  reversedAt : Option Time
  reversalCancelledAt : Option Time
  review : Bool
  fromState : Option OrderState

/-- `record_on_order` for a refund or a reversal. -/
def refundChange (order : Order) (file : GatewayFile) (record : GatewayRecord) (now : Time) :
    OrderChange :=
  let rows := file.rows
  let manual := manualExternal order rows
  let after := (ledgerTotals rows).add record.status record.amountMinor
  let full : Bool := (order.totalMinor : ℤ) ≤ after.effective
  let transition : Bool := full && !manual && fullRefundSources.contains order.state
  { state := if transition then .refundedExternal else order.state
    externalRefund :=
      if manual then order.externalRefund
      else runningRefund order after.effective record.txnId
    reversedAt :=
      if record.status = .reversed then
        if 0 < after.outstandingReversal then some (file.paymentReversedAt.getD now) else none
      else file.paymentReversedAt
    reversalCancelledAt := file.paymentReversalCancelledAt
    review := manual || decide ((order.totalMinor : ℤ) < after.effective) || (full && !transition)
    fromState := if transition then some order.state else none }

/-- The transaction a running refund is shown with after a canceled reversal. -/
def latestRefund (rows : List LedgerRow) (record : GatewayRecord) : String :=
  (((rows.reverse.find? fun row => row.paymentStatus == .refunded).or
    (rows.reverse.find? fun row => row.paymentStatus == .reversed)).map
      LedgerRow.refundTxnId).getD record.txnId

/-- `record_on_order` for a canceled reversal: the order returns to the state
that its refund replaced. -/
def restoreChange (order : Order) (file : GatewayFile) (record : GatewayRecord) (now : Time) :
    OrderChange :=
  let rows := file.rows
  let manual := manualExternal order rows
  let before := ledgerTotals rows
  let after := before.add record.status record.amountMinor
  let restoredSomething : Bool := 0 < before.outstandingReversal
  let replaced := (rows.reverse.find? fun row => row.fromState.isSome).bind LedgerRow.fromState
  let reopen : Bool := order.state == .refundedExternal && after.effective < (order.totalMinor : ℤ)
  let restored := if reopen && !manual then replaced else none
  { state := restored.getD order.state
    externalRefund :=
      if manual then order.externalRefund
      else runningRefund order after.effective (latestRefund rows record)
    reversedAt := if after.outstandingReversal = 0 then none else file.paymentReversedAt
    reversalCancelledAt :=
      if restoredSomething then some now else file.paymentReversalCancelledAt
    review := if reopen then restored.isNone else !restoredSomething
    fromState := none }

def orderChange (order : Order) (file : GatewayFile) (record : GatewayRecord) (now : Time) :
    OrderChange :=
  match record.status with
  | .refunded | .reversed => refundChange order file record now
  | .canceledReversal => restoreChange order file record now

def recordOnOrder (book : OrderBook) (file : GatewayFile) (record : GatewayRecord) (now : Time) :
    Except Failure (OrderBook × GatewayFile) := do
  let change := orderChange book.order file record now
  let book ← book.updateOrder { book.order with
    revision := book.order.revision + 1
    state := change.state
    externalRefund := change.externalRefund }
  return (book,
    { file with
      ledger := file.ledger ++
        [{ refundTxnId := record.txnId
           paymentStatus := record.status
           amountMinor := record.amountMinor
           recordedAt := now
           fromState := change.fromState }]
      paymentReversedAt := change.reversedAt
      paymentReversalCancelledAt := change.reversalCancelledAt
      gatewayRefundReviewAt :=
        if change.review then some (file.gatewayRefundReviewAt.getD now)
        else file.gatewayRefundReviewAt })

/-- What `refund.record_external` must cover: nothing, or the running sum that
PayPal already returned. A record of another origin refuses a second one. -/
def recordedMinor (order : Order) (file : GatewayFile) : Option ℕ :=
  match order.externalRefund with
  | none => some 0
  | some existing =>
      if file.ledger.any (·.refundTxnId == existing.reference) then some existing.amountMinor
      else none

/-- `refund.record_external` by the seller, on an order with a gateway ledger. -/
def recordOverGateway (book : OrderBook) (file : GatewayFile) (sender : Sender)
    (refund : ExternalRefund) : Except Failure OrderBook := do
  let order := book.order
  guardOrderAction order sender
  if order.sellerPubky ≠ sender.actor then
    .error (.refused .unauthorized "Only the seller may record a refund.")
  else if !((order.state == .returnReceived || order.state == .cancelled) ||
        (order.fulfillment == .digital &&
          (order.state == .delivered || order.state == .completed))) ||
      order.totalMinor < refund.amountMinor ||
      (recordedMinor order file).all fun recorded => refund.amountMinor < recorded then
    .error (.refused .invalidState "The external refund cannot be recorded.")
  else
    book.updateOrder { order with
      revision := order.revision + 1
      state := .refundedExternal
      externalRefund := some refund }

/-! The marketplace with its gateway. -/

structure GatewaySys where
  sys : Sys
  files : Keyed.Table OrderId GatewayFile

def GatewaySys.file (gate : GatewaySys) (id : OrderId) : GatewayFile :=
  (gate.files.find? id).getD {}

/-- A step of the marketplace, the storing of a verified payment's id, a
notification, or a refund that the seller records. -/
inductive GatewayAction where
  | service (action : Action)
  | settle (id : OrderId) (txn : String)
  | notify (id : OrderId) (now : Time) (record : GatewayRecord)
  | recordRefund (id : OrderId) (sender : Sender) (refund : ExternalRefund)
deriving DecidableEq

/-- `settle_verified_payment` is part of the transaction that applies the
payment; as a step of its own it allows more runs, not fewer. A notification
names the payment of the order it is recorded on, and each is recorded once. -/
def GatewaySys.step (references : References) (gate : GatewaySys) :
    GatewayAction → Option GatewaySys
  | .service action =>
      (gate.sys.step references action).map fun sys => { gate with sys := sys }
  | .settle id txn => do
      let cell ← gate.sys.cells.find? id
      if cell.book.order.paymentMethod = some .paypal ∧ (gate.file id).paypalTxnId = none ∧
          gate.files.rows.all fun row => row.2.paypalTxnId != some txn then
        some { gate with files := gate.files.set id { gate.file id with paypalTxnId := some txn } }
      else none
  | .notify id now record => do
      let cell ← gate.sys.cells.find? id
      if (gate.file id).paypalTxnId = some record.parentTxnId ∧
          gate.files.rows.all fun row => row.2.ledger.all (·.refundTxnId != record.txnId) then
        (recordOnOrder cell.book (gate.file id) record now).toOption.map fun written =>
          { sys := { gate.sys with cells := gate.sys.cells.set id { cell with book := written.1 } }
            files := gate.files.set id written.2 }
      else none
  | .recordRefund id sender refund => do
      let cell ← gate.sys.cells.find? id
      (recordOverGateway cell.book (gate.file id) sender refund).toOption.map fun book =>
        { gate with
          sys := { gate.sys with cells := gate.sys.cells.set id { cell with book := book } } }

def gatewayMarketplace (references : References) : Runs.System GatewaySys GatewayAction :=
  { initial := fun gate => gate = { sys := emptySys, files := .empty }
    step := fun gate action => gate.step references action }

end MarketplaceService
