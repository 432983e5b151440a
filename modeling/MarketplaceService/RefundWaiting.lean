import MarketplaceService.Lib.Outcome
import MarketplaceService.LedgerLaw

/-!
Refund notifications that come before their payment. Each waits in the inbox,
once however often it is delivered, and nothing else changes; applying the
payment to its order leaves them there, and the rows that wait for the payment
are then exactly those of the notifications seen.
-/

namespace MarketplaceService

/-! Deliveries. -/

/-- Notifications as they arrive, each with its time. -/
def Desk.deliverAll (desk : Desk) : List (RefundIpn × Time) → Except Failure Desk
  | [] => .ok desk
  | arrival :: rest => do
      let (_, desk) ← desk.evaluate arrival.1 arrival.2
      desk.deliverAll rest

/-- The notifications that come before the payment's settlement, and after. -/
structure Delivery where
  before : List (RefundIpn × Time)
  after : List (RefundIpn × Time)

/-- Exactly these notifications arrive, each any number of times. -/
def Delivery.Delivers (delivery : Delivery) (notices : List RefundIpn) : Prop :=
  ∀ ipn, ipn ∈ notices ↔ ipn ∈ (delivery.before ++ delivery.after).map Prod.fst

def Desk.deliver (desk : Desk) (orderId : OrderId) (payment : GatewayPayment)
    (transactionRef : Option String) (now : Time) (delivery : Delivery) :
    Except Failure Desk := do
  let desk ← desk.deliverAll delivery.before
  let desk ← desk.completed orderId payment transactionRef now
  desk.deliverAll delivery.after

/-- The order's rows and the unresolved inbox rows that record a transaction. -/
def Desk.recordings (desk : Desk) (txnId : String) : ℕ :=
  (desk.orders.sum fun entry => entry.file.ledger.countP (·.refundTxnId == txnId)) +
    if (desk.inbox.find? txnId).any (·.resolvedAt.isNone) then 1 else 0

def GatewayOrder.outcome (entry : GatewayOrder) : OrderState × Option ℕ × Bool :=
  (entry.book.order.state, entry.book.order.externalRefund.map ExternalRefund.amountMinor,
    entry.file.paymentReversedAt.isSome)

def Desk.outcome (desk : Desk) (orderId : OrderId) : Option (OrderState × Option ℕ × Bool) :=
  (desk.orders.find? orderId).map GatewayOrder.outcome

def Desk.customOrder (desk : Desk) (ipn : RefundIpn) : Option OrderId :=
  ipn.custom.filter fun id => (desk.orders.find? id).isSome

/-- A notification of the payment that passes the receiver, currency and amount
checks of the order. -/
structure Notice (payment : GatewayPayment) (order : Order) (ipn : RefundIpn) : Prop where
  txn : paypalTransactionId ipn.txnId = some ipn.txnId
  parent : ipn.parentTxnId = payment.txnId
  receiver : paidToSnapshot ipn (some (asciiLowercase payment.merchantEmail)) payment.receiverId =
    true
  currency : ipn.mcCurrency = order.currency
  amount : ∃ status amount, GatewayStatus.parse ipn.paymentStatus = some status ∧
    grossMinor status ipn.mcGross order.exponent = some amount

/-- Notifications of one payment, none of them delivered yet. -/
structure Notices (desk : Desk) (payment : GatewayPayment) (order : Order)
    (notices : List RefundIpn) : Prop where
  distinct : ∀ first ∈ notices, ∀ second ∈ notices, first.txnId = second.txnId → first = second
  valid : ∀ ipn ∈ notices, Notice payment order ipn
  unrecorded : ∀ ipn ∈ notices, desk.recorded ipn.txnId = false
  unheld : ∀ ipn ∈ notices, desk.inbox.find? ipn.txnId = none

/-- A payment that no order owns and no held notification names, and what
applying it makes of its order. -/
structure Settling (desk : Desk) (orderId : OrderId) (payment : GatewayPayment)
    (transactionRef : Option String) (now : Time) (paid : Desk) (entry : GatewayOrder) :
    Prop where
  named : paypalTransactionId payment.txnId = some payment.txnId
  applied : desk.applyPaid orderId transactionRef now = .ok paid
  found : paid.orders.find? orderId = some entry
  unowned : desk.owner payment.txnId = none
  unnamed : ∀ row ∈ desk.inbox.rows, row.2.waitsFor payment.txnId = false
  stored : entry.book.order.checks = true
  priced : 0 < entry.book.order.totalMinor
  unnotified : entry.file.paypalTxnId = none →
    entry.file.ledger = [] ∧ entry.file.paymentReversedAt = none

/-! Reading the tables. -/

section Tables

variable {desk : Desk} {orderId : OrderId} {txnId payment : String}

theorem Desk.recorded_iff : desk.recorded txnId = true ↔
    ∃ id entry, desk.orders.find? id = some entry ∧
      ∃ row ∈ entry.file.ledger, row.refundTxnId = txnId := by
  unfold Desk.recorded
  simp only [List.any_eq_true, beq_iff_eq]
  constructor
  · rintro ⟨row, member, hit⟩
    exact ⟨row.1, row.2, desk.orders.find?_of_mem member, hit⟩
  · rintro ⟨id, entry, found, hit⟩
    exact ⟨(id, entry), Keyed.lookup_mem id entry desk.orders.rows found, hit⟩

theorem Desk.owner_none_iff : desk.owner payment = none ↔
    ∀ id entry, desk.orders.find? id = some entry → entry.file.paypalTxnId ≠ some payment := by
  unfold Desk.owner
  simp only [List.find?_eq_none, beq_iff_eq]
  constructor
  · intro none id entry found owned
    exact none (id, entry) (Keyed.lookup_mem id entry desk.orders.rows found) owned
  · intro none row member owned
    exact none row.1 row.2 (desk.orders.find?_of_mem member) owned

theorem Desk.owner_eq {entry : GatewayOrder} (found : desk.orders.find? orderId = some entry)
    (owned : entry.file.paypalTxnId = some payment)
    (alone : ∀ id other, id ≠ orderId → desk.orders.find? id = some other →
      other.file.paypalTxnId ≠ some payment) :
    desk.owner payment = some (orderId, entry) := by
  cases search : desk.owner payment with
  | none => exact (Desk.owner_none_iff.mp search orderId entry found owned).elim
  | some row =>
      have member := List.mem_of_find?_eq_some search
      have hit : row.2.file.paypalTxnId = some payment := by
        simpa using List.find?_some search
      have present := desk.orders.find?_of_mem member
      by_cases same : row.1 = orderId
      · rw [same, found] at present
        cases present
        rw [← same]
      · exact (alone row.1 row.2 same present hit).elim

variable {ipn : RefundIpn} {parent : Option String} {reason : InboxReason}
  {named : Option OrderId} {now : Time} {row : InboxRow}

theorem Desk.store_new (absent : desk.inbox.find? ipn.txnId = none) :
    desk.store ipn parent reason named now =
      (.inbox reason,
        { desk with
          inbox := desk.inbox.set ipn.txnId
            { ipn := ipn
              parentTxnId := parent
              reason := reason
              orderId := named
              receivedAt := now
              resolvedAt := none } }) := by
  unfold Desk.store
  rw [absent]

/-- A held notification takes the new reason. -/
theorem Desk.store_moved (held : desk.inbox.find? ipn.txnId = some row)
    (unresolved : row.resolvedAt = none)
    (moves : (row.reason, row.orderId) ≠ (reason, named.or row.orderId)) :
    desk.store ipn parent reason named now =
      (.inbox reason,
        { desk with
          inbox := desk.inbox.set ipn.txnId
            { row with reason := reason, orderId := named.or row.orderId } }) := by
  unfold Desk.store
  rw [held]
  exact if_pos ⟨unresolved, moves⟩

theorem Desk.store_again (held : desk.inbox.find? ipn.txnId = some row)
    (same : (row.reason, row.orderId) = (reason, named.or row.orderId)) :
    desk.store ipn parent reason named now = (.duplicate, desk) := by
  unfold Desk.store
  rw [held]
  exact if_neg fun moves => moves.2 same

end Tables

/-! Before the payment is stored. -/

def parkedRow (base : Desk) (payment : String) (ipn : RefundIpn) (arrived : Time) : InboxRow :=
  { ipn := ipn
    parentTxnId := some payment
    reason := .unknownParent
    orderId := base.customOrder ipn
    receivedAt := arrived
    resolvedAt := none }

/-- The notifications seen so far wait in the inbox, and nothing else changed. -/
structure Awaits (base : Desk) (payment : String) (seen : List RefundIpn) (desk : Desk) : Prop where
  inventory : desk.inventory = base.inventory
  orders : desk.orders = base.orders
  parked : ∀ ipn ∈ seen, ∃ arrived,
    desk.inbox.find? ipn.txnId = some (parkedRow base payment ipn arrived)
  others : ∀ txnId, (∀ ipn ∈ seen, ipn.txnId ≠ txnId) →
    desk.inbox.find? txnId = base.inbox.find? txnId

section Waiting

variable {base desk : Desk} {payment : GatewayPayment} {order : Order}
  {notices seen : List RefundIpn} {ipn : RefundIpn} {now : Time}

theorem Desk.evaluate_unknown {status : GatewayStatus}
    (known : GatewayStatus.parse ipn.paymentStatus = some status)
    (txn : paypalTransactionId ipn.txnId = some ipn.txnId)
    (parent : paypalTransactionId ipn.parentTxnId = some payment.txnId)
    (unrecorded : desk.recorded ipn.txnId = false) (unowned : desk.owner payment.txnId = none) :
    desk.evaluate ipn now =
      .ok (desk.store ipn (some payment.txnId) .unknownParent (desk.customOrder ipn) now) := by
  unfold Desk.evaluate
  simp only [known, txn, unrecorded, parent, unowned, Bool.false_eq_true, if_false]
  rfl

theorem Awaits.evaluate (waits : Awaits base payment.txnId seen desk)
    (named : paypalTransactionId payment.txnId = some payment.txnId)
    (unowned : base.owner payment.txnId = none) (all : Notices base payment order notices)
    (within : ∀ other ∈ seen, other ∈ notices) (member : ipn ∈ notices) :
    ∃ disposition after, desk.evaluate ipn now = .ok (disposition, after) ∧
      Awaits base payment.txnId (ipn :: seen) after := by
  have valid := all.valid ipn member
  obtain ⟨status, amount, known, -⟩ := valid.amount
  have parent : paypalTransactionId ipn.parentTxnId = some payment.txnId := by
    rw [valid.parent, named]
  have unrecorded : desk.recorded ipn.txnId = false := by
    rw [← all.unrecorded ipn member]
    unfold Desk.recorded
    rw [waits.orders]
  have waiting : desk.owner payment.txnId = none := by
    rw [← unowned]
    unfold Desk.owner
    rw [waits.orders]
  have custom : desk.customOrder ipn = base.customOrder ipn := by
    unfold Desk.customOrder
    rw [waits.orders]
  rw [Desk.evaluate_unknown known valid.txn parent unrecorded waiting, custom]
  by_cases again : ipn ∈ seen
  · -- a repeated notification finds its own row and leaves it
    obtain ⟨arrived, row⟩ := waits.parked ipn again
    refine ⟨.duplicate, desk, ?_, waits.inventory, waits.orders, ?_, ?_⟩
    · rw [Desk.store_again row (by simp [parkedRow])]
    · intro other here
      rcases List.mem_cons.mp here with first | earlier
      · rw [first]
        exact ⟨arrived, row⟩
      · exact waits.parked other earlier
    · intro txnId elsewhere
      exact waits.others txnId fun other earlier =>
        elsewhere other (List.mem_cons_of_mem _ earlier)
  · have absent : desk.inbox.find? ipn.txnId = none := by
      rw [waits.others ipn.txnId fun other earlier same =>
        again (all.distinct other (within other earlier) ipn member same ▸ earlier)]
      exact all.unheld ipn member
    rw [Desk.store_new absent]
    refine ⟨_, _, rfl, waits.inventory, waits.orders, ?_, ?_⟩
    · intro other here
      rcases List.mem_cons.mp here with first | earlier
      · rw [first]
        exact ⟨now, desk.inbox.find?_set_self _ _⟩
      · obtain ⟨arrived, row⟩ := waits.parked other earlier
        have apart : other.txnId ≠ ipn.txnId := fun same =>
          again (all.distinct other (within other earlier) ipn member same ▸ earlier)
        exact ⟨arrived, by rw [← row]; exact desk.inbox.find?_set_ne _ apart⟩
    · intro txnId elsewhere
      have apart := elsewhere ipn List.mem_cons_self
      rw [← waits.others txnId fun other earlier =>
        elsewhere other (List.mem_cons_of_mem _ earlier)]
      exact desk.inbox.find?_set_ne _ apart.symm

theorem Awaits.deliverAll (waits : Awaits base payment.txnId seen desk)
    (named : paypalTransactionId payment.txnId = some payment.txnId)
    (unowned : base.owner payment.txnId = none) (all : Notices base payment order notices)
    (within : ∀ other ∈ seen, other ∈ notices) (arrivals : List (RefundIpn × Time))
    (known : ∀ arrival ∈ arrivals, arrival.1 ∈ notices) :
    ∃ after, desk.deliverAll arrivals = .ok after ∧
      Awaits base payment.txnId ((arrivals.map Prod.fst).reverse ++ seen) after := by
  induction arrivals generalizing desk seen with
  | nil => exact ⟨desk, rfl, by simpa using waits⟩
  | cons arrival rest ih =>
      obtain ⟨disposition, next, ran, stays⟩ := @Awaits.evaluate base desk payment order notices
        seen arrival.1 arrival.2 waits named unowned all within
        (known arrival List.mem_cons_self)
      obtain ⟨after, rest_ran, final⟩ := ih stays (by
        intro other here
        rcases List.mem_cons.mp here with first | earlier
        · rw [first]
          exact known arrival List.mem_cons_self
        · exact within other earlier)
        fun other here => known other (List.mem_cons_of_mem _ here)
      refine ⟨after, ?_, by simpa using final⟩
      unfold Desk.deliverAll
      rw [ran]
      exact rest_ran

end Waiting

/-! The payment is applied and stored. -/

section Settlement

variable {desk paid : Desk} {orderId : OrderId} {payment : GatewayPayment}
  {transactionRef : Option String} {now : Time} {entry : GatewayOrder} {order : Order}
  {notices seen : List RefundIpn}

theorem Desk.evaluateAll_eq (desk : Desk) (now : Time) (ipns : List RefundIpn) :
    desk.evaluateAll now ipns = desk.deliverAll (ipns.map fun ipn => (ipn, now)) := by
  induction ipns generalizing desk with
  | nil => rfl
  | cons ipn rest ih =>
      unfold Desk.evaluateAll
      rw [List.map_cons]
      unfold Desk.deliverAll
      simp only [ih]

/-- Applying the payment writes the stock and the order's own book, whatever
the inbox holds. -/
theorem Desk.applyPaid_ok (applied : desk.applyPaid orderId transactionRef now = .ok paid) :
    ∃ first inventory book, desk.orders.find? orderId = some first ∧
      paid = { desk with
        inventory := inventory
        orders := desk.orders.set orderId { first with book := book } } ∧
      ∀ inbox, ({ desk with inbox := inbox } : Desk).applyPaid orderId transactionRef now =
        .ok { paid with inbox := inbox } := by
  unfold Desk.applyPaid at applied ⊢
  cases found : desk.orders.find? orderId with
  | none => simp [found] at applied
  | some first =>
      simp only [found] at applied ⊢
      obtain ⟨result, ran, written⟩ := Outcome.bind_ok applied
      rw [ran]
      cases result with
      | done view =>
          cases Outcome.pure_ok written
          exact ⟨first, view.inventory, view.book, rfl, rfl, fun inbox => rfl⟩
      | refused =>
          obtain ⟨book, reviewed, stored⟩ := Outcome.bind_ok written
          cases Outcome.pure_ok stored
          refine ⟨first, desk.inventory, book, rfl, rfl, fun inbox => ?_⟩
          simp only [bind, Except.bind, reviewed]
          rfl

/-- What applying the payment leaves: the files, the ledgers and the inbox. -/
structure PaidFrom (desk paid : Desk) (orderId : OrderId) : Prop where
  inbox : paid.inbox = desk.inbox
  file : ∀ id entry, paid.orders.find? id = some entry →
    ∃ first, desk.orders.find? id = some first ∧ entry.file = first.file
  present : ∀ id, (paid.orders.find? id).isSome = (desk.orders.find? id).isSome

theorem Desk.applyPaid_paidFrom
    (applied : desk.applyPaid orderId transactionRef now = .ok paid) :
    PaidFrom desk paid orderId := by
  obtain ⟨first, inventory, book, found, rfl, -⟩ := Desk.applyPaid_ok applied
  refine ⟨rfl, ?_, ?_⟩
  · intro id entry here
    rw [Keyed.Table.find?_set] at here
    split at here
    · rename_i same
      cases here
      exact ⟨first, by rw [same]; exact found, rfl⟩
    · exact ⟨entry, here, rfl⟩
  · intro id
    rw [Keyed.Table.find?_set]
    split
    · rename_i same
      rw [same, found]
      rfl
    · rfl

theorem PaidFrom.unrecorded (from_desk : PaidFrom desk paid orderId) {txnId : String}
    (unrecorded : desk.recorded txnId = false) : paid.recorded txnId = false := by
  rw [Bool.eq_false_iff] at unrecorded ⊢
  rw [ne_eq, Desk.recorded_iff] at unrecorded ⊢
  rintro ⟨id, entry, found, row, member, txn⟩
  obtain ⟨first, before, file⟩ := from_desk.file id entry found
  rw [file] at member
  exact unrecorded ⟨id, first, before, row, member, txn⟩

theorem PaidFrom.unowned (from_desk : PaidFrom desk paid orderId) {txnId : String}
    (unowned : desk.owner txnId = none) : paid.owner txnId = none := by
  rw [Desk.owner_none_iff] at unowned ⊢
  intro id entry found owned
  obtain ⟨first, before, file⟩ := from_desk.file id entry found
  rw [file] at owned
  exact unowned id first before owned

theorem PaidFrom.custom (from_desk : PaidFrom desk paid orderId) (ipn : RefundIpn) :
    paid.customOrder ipn = desk.customOrder ipn := by
  unfold Desk.customOrder
  simp only [from_desk.present]

theorem PaidFrom.fresh (from_desk : PaidFrom desk paid orderId)
    (all : Notices desk payment order notices) : Notices paid payment order notices := by
  refine ⟨all.distinct, all.valid, ?_, ?_⟩
  · intro ipn member
    exact from_desk.unrecorded (all.unrecorded ipn member)
  · intro ipn member
    rw [from_desk.inbox]
    exact all.unheld ipn member

theorem Awaits.applied {waiting : Desk} (waits : Awaits desk payment.txnId seen waiting)
    (from_desk : PaidFrom desk paid orderId) :
    Awaits paid payment.txnId seen { paid with inbox := waiting.inbox } := by
  refine ⟨rfl, rfl, ?_, ?_⟩
  · intro ipn member
    obtain ⟨arrived, row⟩ := waits.parked ipn member
    refine ⟨arrived, ?_⟩
    unfold parkedRow at row ⊢
    rw [from_desk.custom]
    exact row
  · intro txnId elsewhere
    rw [from_desk.inbox]
    exact waits.others txnId elsewhere

theorem Awaits.held {waiting : Desk} (waits : Awaits desk payment.txnId seen waiting)
    (unnamed : ∀ row ∈ desk.inbox.rows, row.2.waitsFor payment.txnId = false)
    (ipn : RefundIpn) :
    ipn ∈ (waiting.held payment.txnId).map InboxRow.ipn ↔ ipn ∈ seen := by
  unfold Desk.held
  simp only [List.mem_map, List.mem_insertionSort, List.mem_filter]
  constructor
  · rintro ⟨-, ⟨⟨keyed, present, rfl⟩, waits_for⟩, rfl⟩
    have found := waiting.inbox.find?_of_mem present
    by_cases named : ∃ other ∈ seen, other.txnId = keyed.1
    · obtain ⟨other, member, key⟩ := named
      obtain ⟨arrived, row⟩ := waits.parked other member
      rw [key, found] at row
      rw [Option.some.inj row]
      exact member
    · have before := waits.others keyed.1 fun other member key => named ⟨other, member, key⟩
      rw [found] at before
      have quiet := unnamed _ (Keyed.lookup_mem _ _ _ before.symm)
      rw [waits_for] at quiet
      cases quiet
  · intro member
    obtain ⟨arrived, row⟩ := waits.parked ipn member
    refine ⟨parkedRow desk payment.txnId ipn arrived, ⟨⟨_, Keyed.lookup_mem _ _ _ row, rfl⟩, ?_⟩,
      rfl⟩
    simp [InboxRow.waitsFor, parkedRow]

end Settlement

end MarketplaceService
