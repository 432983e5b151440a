import Mathlib.Algebra.Order.BigOperators.Group.List
import Mathlib.Data.List.Dedup
import Mathlib.Data.List.Perm.Subperm
import MarketplaceService.RefundWaiting

/-!
Refund notifications in any order. Those that come before their payment wait in
the inbox; settling the payment evaluates them again, and those that come later
go to the order at once. However they are ordered and repeated, and wherever the
settlement falls among them, each ends up recorded once and the order ends up
the same, unless a refund that the seller recorded by hand carries the
transaction id of one of them: from that notification on the record passes for
the gateway's own. The sums must fit an `i64`: which of two orders wraps is up
to the delivery.
-/

namespace MarketplaceService

/-! Once the payment is stored. -/

def recordOf (payment : GatewayPayment) (order : Order) (ipn : RefundIpn) : GatewayRecord :=
  let status := (GatewayStatus.parse ipn.paymentStatus).getD .refunded
  { txnId := ipn.txnId
    parentTxnId := payment.txnId
    status := status
    amountMinor := (grossMinor status ipn.mcGross order.exponent).getD 0 }

/-- The notification names no order but the payment's. -/
def Matched (base : Desk) (orderId : OrderId) (ipn : RefundIpn) : Prop :=
  ∀ named ∈ base.customOrder ipn, named = orderId

instance (base : Desk) (orderId : OrderId) (ipn : RefundIpn) :
    Decidable (Matched base orderId ipn) :=
  inferInstanceAs (Decidable (∀ named ∈ base.customOrder ipn, named = orderId))

theorem recordedSum_perm {status : GatewayStatus} {one two : List GatewayRecord}
    (perm : one.Perm two) : recordedSum status one = recordedSum status two := by
  unfold recordedSum
  exact ((perm.filter _).map _).sum_eq

theorem recordedSum_le {status : GatewayStatus} {some all : List GatewayRecord}
    (part : some.Subperm all) : recordedSum status some ≤ recordedSum status all := by
  obtain ⟨list, perm, sublist⟩ := part
  rw [← recordedSum_perm perm]
  exact ((sublist.filter _).map _).sum_le_sum fun _ _ => Nat.zero_le _

/-- Whatever part of the notifications is recorded, its sums fit an `i64`. -/
def RefundsFit (payment : GatewayPayment) (order : Order) (notices : List RefundIpn) : Prop :=
  let sums := recordSums (notices.dedup.map (recordOf payment order))
  sums.refunded + sums.reversed ≤ i64Max ∧ sums.restored ≤ i64Max + 1

instance (payment : GatewayPayment) (order : Order) (notices : List RefundIpn) :
    Decidable (RefundsFit payment order notices) :=
  inferInstanceAs (Decidable (_ ∧ _))

theorem RefundsFit.part {payment : GatewayPayment} {order : Order}
    {notices logged : List RefundIpn} (fit : RefundsFit payment order notices)
    (once : logged.Nodup) (within : ∀ ipn ∈ logged, ipn ∈ notices) :
    (recordSums (logged.map (recordOf payment order))).Fits := by
  have part : (logged.map (recordOf payment order)).Subperm
      (notices.dedup.map (recordOf payment order)) := by
    obtain ⟨list, perm, sublist⟩ := List.Nodup.subperm once fun ipn member =>
      List.mem_dedup.mpr (within ipn member)
    exact ⟨list.map (recordOf payment order), perm.map _, sublist.map _⟩
  obtain ⟨taken, restored⟩ := fit
  have refunds := @recordedSum_le .refunded _ _ part
  have reversals := @recordedSum_le .reversed _ _ part
  have restorations := @recordedSum_le .canceledReversal _ _ part
  simp only [recordSums, i64Max] at taken restored
  constructor
  · simp only [recordSums, MachineInt.InRange, MachineInt.minimum, MachineInt.maximum]
    omega
  · simp only [recordSums, Sums.effective, Sums.outstandingReversal, MachineInt.InRange,
      MachineInt.minimum, MachineInt.maximum]
    omega

/-- A way for the order to take its notifications: it keeps what the checks
compare, records each, and ends as the ledger's sums say. -/
structure Lane (payment : GatewayPayment) (order : Order) (notices : List RefundIpn)
    (Keeps : GatewayOrder → Prop) : Prop where
  owned : ∀ entry, Keeps entry → entry.file.paypalTxnId = some payment.txnId
  email : ∀ entry, Keeps entry →
    entry.receiverEmail = some (asciiLowercase payment.merchantEmail)
  account : ∀ entry, Keeps entry → entry.receiverId = payment.receiverId
  currency : ∀ entry, Keeps entry → entry.book.order.currency = order.currency
  exponent : ∀ entry, Keeps entry → entry.book.order.exponent = order.exponent
  fit : RefundsFit payment order notices
  advances : ∀ entry ipn now, Keeps entry → ipn ∈ notices →
    (∀ row ∈ entry.file.ledger, row.refundTxnId ≠ ipn.txnId) →
    ((ledgerSums entry.file.ledger).add (recordOf payment order ipn).status
      (recordOf payment order ipn).amountMinor).Fits →
      ∃ effect after fromState,
        entry.recordOnOrder (recordOf payment order ipn) now = .ok (.applied effect, after) ∧
        Keeps after ∧ after.file.ledger =
          entry.file.ledger ++ [ledgerRow (recordOf payment order ipn) now fromState]
  agrees : ∀ one two, Keeps one → Keeps two →
    ledgerSums one.file.ledger = ledgerSums two.file.ledger → one.outcome = two.outcome

/-- The inbox row of a notification: resolved once recorded, kept for review
when another order is named, and until it is seen at most waiting. -/
structure InboxAs (orderId : OrderId) (seen matched : Prop) (held : Option InboxRow) : Prop where
  recorded : seen → matched → ∀ row, held = some row → row.resolvedAt.isSome = true
  refused : seen → ¬ matched → ∃ row, held = some row ∧ row.resolvedAt = none ∧
    row.reason = .customMismatch ∧ row.orderId = some orderId
  waiting : ¬ seen → ∀ row, held = some row →
    row.resolvedAt = none ∧ row.reason = .unknownParent

/-- The notifications seen so far stand on the order or are held for review. -/
structure Works (paid : Desk) (orderId : OrderId) (payment : GatewayPayment) (order : Order)
    (notices : List RefundIpn) (Keeps : GatewayOrder → Prop) (seen logged : List RefundIpn)
    (desk : Desk) : Prop where
  elsewhere : ∀ id, id ≠ orderId → desk.orders.find? id = paid.orders.find? id
  here : ∃ entry, desk.orders.find? orderId = some entry ∧ Keeps entry ∧
    List.Forall₂ LedgerRow.shows entry.file.ledger (logged.map (recordOf payment order))
  present : (paid.orders.find? orderId).isSome = true
  logged_iff : ∀ ipn ∈ notices, ipn ∈ logged ↔ ipn ∈ seen ∧ Matched paid orderId ipn
  within : ∀ ipn ∈ logged, ipn ∈ notices
  once : logged.Nodup
  inbox : ∀ ipn ∈ notices, InboxAs orderId (ipn ∈ seen) (Matched paid orderId ipn)
    (desk.inbox.find? ipn.txnId)

section Working

variable {paid desk : Desk} {orderId : OrderId} {payment : GatewayPayment} {order : Order}
  {notices seen logged : List RefundIpn} {Keeps : GatewayOrder → Prop} {ipn : RefundIpn}
  {now : Time}

theorem shows_mem {ledger : List LedgerRow} {records : List GatewayRecord}
    (shown : List.Forall₂ LedgerRow.shows ledger records) (txnId : String) :
    (∃ row ∈ ledger, row.refundTxnId = txnId) ↔ ∃ record ∈ records, record.txnId = txnId := by
  induction shown with
  | nil => simp
  | cons first rest ih =>
      simp only [List.exists_mem_cons_iff, ih, first.1]

theorem Works.custom (works : Works paid orderId payment order notices Keeps seen logged desk) :
    desk.customOrder ipn = paid.customOrder ipn := by
  have same : ∀ id, (desk.orders.find? id).isSome = (paid.orders.find? id).isSome := by
    intro id
    by_cases here : id = orderId
    · obtain ⟨entry, found, -⟩ := works.here
      rw [here, found, works.present]
      rfl
    · rw [works.elsewhere id here]
  unfold Desk.customOrder
  simp only [same]

/-- A notification is on some ledger exactly when it has been logged. -/
theorem Works.recorded_iff
    (works : Works paid orderId payment order notices Keeps seen logged desk)
    (all : Notices paid payment order notices) (member : ipn ∈ notices) :
    desk.recorded ipn.txnId = true ↔ ipn ∈ logged := by
  obtain ⟨entry, found, -, shown⟩ := works.here
  have mine : (∃ row ∈ entry.file.ledger, row.refundTxnId = ipn.txnId) ↔ ipn ∈ logged := by
    rw [shows_mem shown]
    simp only [List.mem_map, exists_exists_and_eq_and]
    constructor
    · rintro ⟨other, logged_other, txn⟩
      have same := all.distinct other (works.within other logged_other) ipn member txn
      rwa [← same]
    · intro here
      exact ⟨ipn, here, rfl⟩
  rw [Desk.recorded_iff, ← mine]
  constructor
  · rintro ⟨id, other, present, hit⟩
    by_cases here : id = orderId
    · rw [here, found] at present
      cases present
      exact hit
    · rw [works.elsewhere id here] at present
      have unrecorded := all.unrecorded ipn member
      rw [Desk.recorded_iff.mpr ⟨id, other, present, hit⟩] at unrecorded
      cases unrecorded
  · intro hit
    exact ⟨orderId, entry, found, hit⟩

theorem Works.owner (works : Works paid orderId payment order notices Keeps seen logged desk)
    (lane : Lane payment order notices Keeps) (unowned : paid.owner payment.txnId = none)
    {entry : GatewayOrder} (found : desk.orders.find? orderId = some entry)
    (keeps : Keeps entry) : desk.owner payment.txnId = some (orderId, entry) := by
  apply Desk.owner_eq found (lane.owned entry keeps)
  intro id other apart present
  rw [works.elsewhere id apart] at present
  exact Desk.owner_none_iff.mp unowned id other present

theorem Desk.evaluate_owned (lane : Lane payment order notices Keeps)
    (named : paypalTransactionId payment.txnId = some payment.txnId)
    (valid : Notice payment order ipn) {entry : GatewayOrder} (keeps : Keeps entry)
    (unrecorded : desk.recorded ipn.txnId = false)
    (owner : desk.owner payment.txnId = some (orderId, entry)) :
    desk.evaluate ipn now =
      if Matched desk orderId ipn then desk.recordOnOrder orderId (recordOf payment order ipn) now
      else .ok (desk.store ipn (some payment.txnId) .customMismatch (some orderId) now) := by
  obtain ⟨status, amount, known, gross⟩ := valid.amount
  have parent : paypalTransactionId ipn.parentTxnId = some payment.txnId := by
    rw [valid.parent, named]
  have mismatch : (desk.customOrder ipn).any (· != orderId) = true ↔
      ¬ Matched desk orderId ipn := by
    unfold Matched
    cases custom : desk.customOrder ipn <;> simp
  unfold Desk.evaluate
  simp only [known, valid.txn, unrecorded, parent, owner, Bool.false_eq_true, if_false]
  change (if (desk.customOrder ipn).any (· != orderId) = true then _ else _) = _
  by_cases matched : Matched desk orderId ipn
  · rw [if_neg (fun other => mismatch.mp other matched), if_pos matched]
    simp only [lane.email entry keeps, lane.account entry keeps, lane.currency entry keeps,
      lane.exponent entry keeps, valid.receiver, valid.currency, gross, Option.isNone_some,
      Bool.false_and, Bool.false_eq_true, Bool.not_true, ne_eq, not_true_eq_false, if_false]
    simp only [recordOf, known, gross, Option.getD_some]
  · rw [if_pos (mismatch.mpr matched), if_neg matched]

theorem Desk.resolve_self {txnId : String} {row : InboxRow}
    (held : (desk.resolve txnId now).inbox.find? txnId = some row) :
    row.resolvedAt.isSome = true := by
  unfold Desk.resolve at held
  cases found : desk.inbox.find? txnId with
  | none =>
      simp only [found] at held
      cases held
  | some before =>
      simp only [found] at held
      split at held
      · rw [Keyed.Table.find?_set_self] at held
        cases held
        rfl
      · rename_i resolved
        rw [found] at held
        cases held
        exact Option.isSome_iff_ne_none.mpr resolved

theorem Desk.resolve_ne {txnId other : String} (apart : other ≠ txnId) :
    (desk.resolve txnId now).inbox.find? other = desk.inbox.find? other := by
  unfold Desk.resolve
  cases found : desk.inbox.find? txnId with
  | none => rfl
  | some before =>
      simp only
      split
      · exact desk.inbox.find?_set_ne _ apart
      · rfl

/-- A notification seen before changes nothing. -/
theorem Works.again (works : Works paid orderId payment order notices Keeps seen logged desk)
    (lane : Lane payment order notices Keeps)
    (named : paypalTransactionId payment.txnId = some payment.txnId)
    (unowned : paid.owner payment.txnId = none) (all : Notices paid payment order notices)
    (member : ipn ∈ notices) (before : ipn ∈ seen) :
    desk.evaluate ipn now = .ok (.duplicate, desk) := by
  have valid := all.valid ipn member
  obtain ⟨entry, found, keeps, -⟩ := works.here
  by_cases matched : Matched paid orderId ipn
  · obtain ⟨status, amount, known, -⟩ := valid.amount
    have recorded := (works.recorded_iff all member).mpr
      ((works.logged_iff ipn member).mpr ⟨before, matched⟩)
    unfold Desk.evaluate
    simp only [known, valid.txn, recorded, if_true]
  · have unrecorded : desk.recorded ipn.txnId = false := by
      rw [Bool.eq_false_iff, ne_eq, works.recorded_iff all member, works.logged_iff ipn member]
      exact fun both => matched both.2
    have unmatched : ¬ Matched desk orderId ipn := by
      unfold Matched at matched ⊢
      rwa [works.custom]
    rw [Desk.evaluate_owned lane named valid keeps unrecorded
      (works.owner lane unowned found keeps), if_neg unmatched]
    obtain ⟨row, held, -, reason, held_order⟩ := (works.inbox ipn member).refused before matched
    rw [Desk.store_again held (by simp [reason, held_order])]

/-- A notification that names no other order is recorded. -/
theorem Works.logs (works : Works paid orderId payment order notices Keeps seen logged desk)
    (lane : Lane payment order notices Keeps)
    (named : paypalTransactionId payment.txnId = some payment.txnId)
    (unowned : paid.owner payment.txnId = none) (all : Notices paid payment order notices)
    (member : ipn ∈ notices) (unseen : ipn ∉ seen) (matched : Matched paid orderId ipn) :
    ∃ disposition after, desk.evaluate ipn now = .ok (disposition, after) ∧
      Works paid orderId payment order notices Keeps (ipn :: seen) (logged ++ [ipn]) after := by
  have valid := all.valid ipn member
  obtain ⟨entry, found, keeps, shown⟩ := works.here
  have unlogged : ipn ∉ logged := fun here =>
    unseen ((works.logged_iff ipn member).mp here).1
  have unrecorded : desk.recorded ipn.txnId = false := by
    rw [Bool.eq_false_iff, ne_eq, works.recorded_iff all member]
    exact unlogged
  have fresh : ∀ row ∈ entry.file.ledger, row.refundTxnId ≠ ipn.txnId := by
    intro row present txn
    rw [Desk.recorded_iff.mpr ⟨orderId, entry, found, row, present, txn⟩] at unrecorded
    cases unrecorded
  have once : (logged ++ [ipn]).Nodup :=
    List.Nodup.append works.once (List.nodup_singleton ipn) (by simpa using unlogged)
  have within : ∀ other ∈ logged ++ [ipn], other ∈ notices := by
    intro other here
    rcases List.mem_append.mp here with earlier | latest
    · exact works.within other earlier
    · rw [List.mem_singleton.mp latest]
      exact member
  have next : ((ledgerSums entry.file.ledger).add (recordOf payment order ipn).status
      (recordOf payment order ipn).amountMinor).Fits := by
    have more : List.Forall₂ LedgerRow.shows
        (entry.file.ledger ++ [ledgerRow (recordOf payment order ipn) now none])
        ((logged ++ [ipn]).map (recordOf payment order)) := by
      rw [List.map_append]
      exact List.rel_append shown (.cons ⟨rfl, rfl, rfl⟩ .nil)
    have fits := lane.fit.part once within
    rw [← ledgerSums_shown more, ledgerSums_snoc] at fits
    exact fits
  obtain ⟨effect, written, fromState, ran, kept, ledger⟩ :=
    lane.advances entry ipn now keeps member fresh next
  have same : Matched desk orderId ipn := by
    unfold Matched at matched ⊢
    rwa [works.custom]
  rw [Desk.evaluate_owned lane named valid keeps unrecorded
    (works.owner lane unowned found keeps), if_pos same]
  refine ⟨.applied effect, { desk.resolve ipn.txnId now with
    orders := desk.orders.set orderId written }, ?_, ?_⟩
  · unfold Desk.recordOnOrder
    simp only [found, ran]
    rfl
  · refine ⟨?_, ?_, works.present, ?_, ?_, ?_, ?_⟩
    · intro id apart
      rw [← works.elsewhere id apart]
      exact desk.orders.find?_set_ne _ apart
    · refine ⟨written, desk.orders.find?_set_self _ _, kept, ?_⟩
      rw [ledger, List.map_append]
      exact List.rel_append shown (.cons ⟨rfl, rfl, rfl⟩ .nil)
    · intro other other_member
      rw [List.mem_append, List.mem_singleton, works.logged_iff other other_member, List.mem_cons]
      constructor
      · rintro (⟨earlier, other_matched⟩ | rfl)
        · exact ⟨.inr earlier, other_matched⟩
        · exact ⟨.inl rfl, matched⟩
      · rintro ⟨rfl | earlier, other_matched⟩
        · exact .inr rfl
        · exact .inl ⟨earlier, other_matched⟩
    · exact within
    · exact once
    · intro other other_member
      by_cases this : other = ipn
      · subst this
        refine ⟨fun _ _ row held => Desk.resolve_self held, fun _ other => (other matched).elim,
          fun unseen => (unseen List.mem_cons_self).elim⟩
      · have apart : other.txnId ≠ ipn.txnId := fun txn =>
          this (all.distinct other other_member ipn member txn)
        have before := works.inbox other other_member
        rw [← @Desk.resolve_ne desk now ipn.txnId other.txnId apart] at before
        simp only [List.mem_cons, this, false_or]
        exact before

/-- A notification that names another order is held for review. -/
theorem Works.holds (works : Works paid orderId payment order notices Keeps seen logged desk)
    (lane : Lane payment order notices Keeps)
    (named : paypalTransactionId payment.txnId = some payment.txnId)
    (unowned : paid.owner payment.txnId = none) (all : Notices paid payment order notices)
    (member : ipn ∈ notices) (unseen : ipn ∉ seen) (mismatched : ¬ Matched paid orderId ipn) :
    ∃ disposition after, desk.evaluate ipn now = .ok (disposition, after) ∧
      Works paid orderId payment order notices Keeps (ipn :: seen) logged after := by
  have valid := all.valid ipn member
  obtain ⟨entry, found, keeps, shown⟩ := works.here
  have unrecorded : desk.recorded ipn.txnId = false := by
    rw [Bool.eq_false_iff, ne_eq, works.recorded_iff all member, works.logged_iff ipn member]
    exact fun both => mismatched both.2
  have unmatched : ¬ Matched desk orderId ipn := by
    unfold Matched at mismatched ⊢
    rwa [works.custom]
  rw [Desk.evaluate_owned lane named valid keeps unrecorded
    (works.owner lane unowned found keeps), if_neg unmatched]
  -- the held row, new or moved from waiting
  obtain ⟨disposition, row, stored, unresolved, reason, held_order⟩ :
      ∃ disposition row, desk.store ipn (some payment.txnId) .customMismatch (some orderId) now =
        (disposition, { desk with inbox := desk.inbox.set ipn.txnId row }) ∧
        row.resolvedAt = none ∧ row.reason = .customMismatch ∧ row.orderId = some orderId := by
    cases held : desk.inbox.find? ipn.txnId with
    | none => exact ⟨_, _, Desk.store_new held, rfl, rfl, rfl⟩
    | some row =>
        obtain ⟨unresolved, waiting⟩ := (works.inbox ipn member).waiting unseen row held
        exact ⟨_, _, Desk.store_moved held unresolved (by simp [waiting]), unresolved, rfl, rfl⟩
  rw [stored]
  refine ⟨disposition, _, rfl, works.elsewhere, ⟨entry, found, keeps, shown⟩, works.present, ?_,
    works.within, works.once, ?_⟩
  · intro other other_member
    rw [works.logged_iff other other_member, List.mem_cons]
    constructor
    · rintro ⟨earlier, matched⟩
      exact ⟨.inr earlier, matched⟩
    · rintro ⟨rfl | earlier, matched⟩
      · exact (mismatched matched).elim
      · exact ⟨earlier, matched⟩
  · intro other other_member
    by_cases this : other = ipn
    · subst this
      refine ⟨fun _ matched => (mismatched matched).elim, fun _ _ => ?_,
        fun unseen => (unseen List.mem_cons_self).elim⟩
      exact ⟨row, desk.inbox.find?_set_self _ _, unresolved, reason, held_order⟩
    · have apart : other.txnId ≠ ipn.txnId := fun txn =>
        this (all.distinct other other_member ipn member txn)
      have before := works.inbox other other_member
      rw [← desk.inbox.find?_set_ne row apart] at before
      simp only [List.mem_cons, this, false_or]
      exact before

theorem Works.seen_again
    (works : Works paid orderId payment order notices Keeps seen logged desk)
    (before : ipn ∈ seen) :
    Works paid orderId payment order notices Keeps (ipn :: seen) logged desk := by
  have same : ∀ other, other ∈ ipn :: seen ↔ other ∈ seen := by
    intro other
    rw [List.mem_cons]
    constructor
    · rintro (rfl | earlier)
      · exact before
      · exact earlier
    · exact .inr
  refine ⟨works.elsewhere, works.here, works.present, ?_, works.within, works.once, ?_⟩
  · intro other member
    rw [same]
    exact works.logged_iff other member
  · intro other member
    rw [same]
    exact works.inbox other member

theorem Works.evaluate (works : Works paid orderId payment order notices Keeps seen logged desk)
    (lane : Lane payment order notices Keeps)
    (named : paypalTransactionId payment.txnId = some payment.txnId)
    (unowned : paid.owner payment.txnId = none) (all : Notices paid payment order notices)
    (member : ipn ∈ notices) :
    ∃ disposition after logged', desk.evaluate ipn now = .ok (disposition, after) ∧
      Works paid orderId payment order notices Keeps (ipn :: seen) logged' after := by
  by_cases before : ipn ∈ seen
  · exact ⟨.duplicate, desk, logged, works.again lane named unowned all member before,
      works.seen_again before⟩
  · by_cases matched : Matched paid orderId ipn
    · obtain ⟨disposition, after, ran, stays⟩ :=
        @Works.logs _ _ _ _ _ _ _ _ _ _ now works lane named unowned all member before matched
      exact ⟨disposition, after, _, ran, stays⟩
    · obtain ⟨disposition, after, ran, stays⟩ :=
        @Works.holds _ _ _ _ _ _ _ _ _ _ now works lane named unowned all member before matched
      exact ⟨disposition, after, _, ran, stays⟩

theorem Works.deliverAll
    (works : Works paid orderId payment order notices Keeps seen logged desk)
    (lane : Lane payment order notices Keeps)
    (named : paypalTransactionId payment.txnId = some payment.txnId)
    (unowned : paid.owner payment.txnId = none) (all : Notices paid payment order notices)
    (arrivals : List (RefundIpn × Time)) (known : ∀ arrival ∈ arrivals, arrival.1 ∈ notices) :
    ∃ after logged', desk.deliverAll arrivals = .ok after ∧
      Works paid orderId payment order notices Keeps ((arrivals.map Prod.fst).reverse ++ seen)
        logged' after := by
  induction arrivals generalizing desk seen logged with
  | nil => exact ⟨desk, logged, rfl, by simpa using works⟩
  | cons arrival rest ih =>
      obtain ⟨disposition, next, next_logged, ran, stays⟩ :=
        @Works.evaluate _ _ _ _ _ _ _ _ _ arrival.1 arrival.2 works lane named unowned all
          (known arrival List.mem_cons_self)
      obtain ⟨after, logged', rest_ran, final⟩ := ih stays fun other here =>
        known other (List.mem_cons_of_mem _ here)
      refine ⟨after, logged', ?_, by simpa using final⟩
      unfold Desk.deliverAll
      rw [ran]
      exact rest_ran

theorem countP_shows {ledger : List LedgerRow} {records : List GatewayRecord}
    (shown : List.Forall₂ LedgerRow.shows ledger records) (txnId : String) :
    ledger.countP (·.refundTxnId == txnId) = records.countP (·.txnId == txnId) := by
  induction shown with
  | nil => rfl
  | cons first rest ih => simp only [List.countP_cons, ih, first.1]

theorem Desk.unrecorded_count {txnId : String} (unrecorded : desk.recorded txnId = false)
    {id : OrderId} {entry : GatewayOrder} (found : desk.orders.find? id = some entry) :
    entry.file.ledger.countP (·.refundTxnId == txnId) = 0 := by
  rw [List.countP_eq_zero]
  intro row present txn
  rw [Desk.recorded_iff.mpr ⟨id, entry, found, row, present, by simpa using txn⟩] at unrecorded
  cases unrecorded

theorem Works.recorded_once
    (works : Works paid orderId payment order notices Keeps seen logged desk)
    (all : Notices paid payment order notices) (member : ipn ∈ notices) (before : ipn ∈ seen) :
    desk.recordings ipn.txnId = 1 := by
  unfold Desk.recordings
  by_cases matched : Matched paid orderId ipn
  · have here := (works.logged_iff ipn member).mpr ⟨before, matched⟩
    have resolved : (desk.inbox.find? ipn.txnId).any (·.resolvedAt.isNone) = false := by
      cases held : desk.inbox.find? ipn.txnId with
      | none => rfl
      | some row =>
          have marked := (works.inbox ipn member).recorded before matched row held
          simpa [Option.isSome_iff_ne_none] using marked
    obtain ⟨entry, found, -, shown⟩ := works.here
    have single : entry.file.ledger.countP (·.refundTxnId == ipn.txnId) = 1 := by
      rw [countP_shows shown, List.countP_map, ← List.count_eq_one_of_mem works.once here]
      apply List.countP_congr
      intro other other_logged
      have same : other.txnId = ipn.txnId ↔ other = ipn :=
        ⟨all.distinct other (works.within other other_logged) ipn member, fun eq => by rw [eq]⟩
      simpa [recordOf] using same
    rw [resolved, Keyed.Table.sum_eq_single _ _ found, single]
    · rfl
    · intro id other apart present
      rw [works.elsewhere id apart] at present
      exact Desk.unrecorded_count (all.unrecorded ipn member) present
  · obtain ⟨row, held, unresolved, -⟩ := (works.inbox ipn member).refused before matched
    have unrecorded : desk.recorded ipn.txnId = false := by
      rw [Bool.eq_false_iff, ne_eq, works.recorded_iff all member, works.logged_iff ipn member]
      exact fun both => matched both.2
    rw [Keyed.Table.sum_eq_zero _ _ fun id entry found => Desk.unrecorded_count unrecorded found]
    simp [held, unresolved]

/-- Two ways through the same notifications end with the same order. -/
theorem Works.same_outcome {other_seen other_logged : List RefundIpn} {other : Desk}
    (works : Works paid orderId payment order notices Keeps seen logged desk)
    (others : Works paid orderId payment order notices Keeps other_seen other_logged other)
    (lane : Lane payment order notices Keeps) (complete : ∀ ipn ∈ notices, ipn ∈ seen)
    (other_complete : ∀ ipn ∈ notices, ipn ∈ other_seen) :
    desk.outcome orderId = other.outcome orderId := by
  obtain ⟨one, found, keeps, shown⟩ := works.here
  obtain ⟨two, other_found, other_keeps, other_shown⟩ := others.here
  have perm : logged.Perm other_logged := by
    rw [List.perm_ext_iff_of_nodup works.once others.once]
    intro ipn
    constructor
    · intro here
      have member := works.within ipn here
      have matched := ((works.logged_iff ipn member).mp here).2
      exact (others.logged_iff ipn member).mpr ⟨other_complete ipn member, matched⟩
    · intro here
      have member := others.within ipn here
      have matched := ((others.logged_iff ipn member).mp here).2
      exact (works.logged_iff ipn member).mpr ⟨complete ipn member, matched⟩
  have sums : ledgerSums one.file.ledger = ledgerSums two.file.ledger := by
    have records := perm.map (recordOf payment order)
    rw [ledgerSums_shown shown, ledgerSums_shown other_shown]
    simp only [recordSums, recordedSum_perm records]
  unfold Desk.outcome
  rw [found, other_found, Option.map_some, Option.map_some,
    lane.agrees one two keeps other_keeps sums]

end Working

/-! The two ways an order takes its notifications. -/

def GatewayOrder.owning (entry : GatewayOrder) (payment : GatewayPayment) : GatewayOrder :=
  { entry with
    file := { entry.file with paypalTxnId := some payment.txnId }
    receiverEmail := some (asciiLowercase payment.merchantEmail)
    receiverId := payment.receiverId }

theorem Follows.same_outcome {start one two : GatewayOrder} (first : Follows start one)
    (second : Follows start two)
    (sums : ledgerSums one.file.ledger = ledgerSums two.file.ledger) :
    one.outcome = two.outcome := by
  have amount {entry : GatewayOrder} (follows : Follows start entry) :
      entry.book.order.externalRefund.map ExternalRefund.amountMinor =
        (runningRefund start.book.order (ledgerSums entry.file.ledger).effective "").map
          ExternalRefund.amountMinor := by
    rcases follows.refund with ⟨unrecorded, nothing⟩ | ⟨row, -, running⟩
    · rw [unrecorded, nothing]
      rfl
    · rw [running]
      unfold runningRefund
      split <;> rfl
  have mark : one.file.paymentReversedAt.isSome = two.file.paymentReversedAt.isSome := by
    rw [Bool.eq_iff_iff, first.reversed, second.reversed, sums]
  unfold GatewayOrder.outcome
  rw [first.state, second.state, amount first, amount second, mark, sums]

theorem follows_lane {payment : GatewayPayment} {entry : GatewayOrder}
    {notices : List RefundIpn} (fit : RefundsFit payment entry.book.order notices)
    (stored : entry.book.order.checks = true) (priced : 0 < entry.book.order.totalMinor) :
    Lane payment entry.book.order notices (Follows (entry.owning payment)) := by
  have shape {other : GatewayOrder} (follows : Follows (entry.owning payment) other) :
      other.book.order.currency = entry.book.order.currency ∧
        other.book.order.exponent = entry.book.order.exponent := by
    obtain ⟨revision, state, refund, book⟩ := follows.order
    rw [book]
    exact ⟨rfl, rfl⟩
  refine ⟨fun other follows => follows.snapshot.2.2, fun other follows => follows.snapshot.1,
    fun other follows => follows.snapshot.2.1, fun other follows => (shape follows).1,
    fun other follows => (shape follows).2, fit, ?_, fun one two => Follows.same_outcome⟩
  intro other ipn now follows member fresh next
  exact follows.recorded next stored priced fresh

structure Stays (start entry : GatewayOrder) : Prop where
  order : ∃ revision, entry.book = { start.book with
    order := { start.book.order with revision := revision } }
  snapshot : entry.receiverEmail = start.receiverEmail ∧ entry.receiverId = start.receiverId ∧
    entry.file.paypalTxnId = start.file.paypalTxnId
  apart : ∀ row ∈ entry.file.ledger, ∀ refund ∈ start.book.order.externalRefund,
    refund.reference ≠ row.refundTxnId
  reversed : entry.file.paymentReversedAt.isSome = true ↔
    0 < (ledgerSums entry.file.ledger).outstandingReversal

section Manual

variable {start entry : GatewayOrder} {record : GatewayRecord} {now : Time}

theorem Stays.manual (stays : Stays start entry)
    (recorded : start.book.order.externalRefund.isSome = true) :
    manualExternal entry.book.order entry.file.rows = true := by
  obtain ⟨refund, shown⟩ := Option.isSome_iff_exists.mp recorded
  obtain ⟨revision, book⟩ := stays.order
  unfold manualExternal
  rw [book]
  simp only [shown, Option.any_some, Bool.not_eq_true', GatewayFile.any_rows,
    List.any_eq_false, beq_iff_eq]
  intro row member txn
  exact stays.apart row member refund shown txn.symm

theorem orderChange_manual {order : Order} {file : GatewayFile}
    (manual : manualExternal order file.rows = true) :
    (orderChange order file record now).state = order.state ∧
      (orderChange order file record now).externalRefund = order.externalRefund := by
  by_cases restores : record.status = .canceledReversal
  · rw [orderChange_restored restores]
    simp [restoreChange, manual]
  · rw [orderChange_taken restores]
    simp [refundChange, manual]

theorem Stays.recorded (stays : Stays start entry)
    (next : ((ledgerSums entry.file.ledger).add record.status record.amountMinor).Fits)
    (stored : start.book.order.checks = true)
    (shown : start.book.order.externalRefund.isSome = true)
    (other : ∀ refund ∈ start.book.order.externalRefund, refund.reference ≠ record.txnId)
    (fresh : ∀ row ∈ entry.file.ledger, row.refundTxnId ≠ record.txnId) :
    ∃ effect after fromState, entry.recordOnOrder record now = .ok (.applied effect, after) ∧
      Stays start after ∧
      after.file.ledger = entry.file.ledger ++ [ledgerRow record now fromState] := by
  obtain ⟨revision, shape⟩ := stays.order
  obtain ⟨state, refund⟩ := @orderChange_manual record now _ _ (stays.manual shown)
  have checked : ({ entry.book.order with
      revision := entry.book.order.revision + 1
      state := (orderChange entry.book.order entry.file record now).state
      externalRefund := (orderChange entry.book.order entry.file record now).externalRefund } :
        Order).checks = true := by
    rw [state, refund, shape]
    exact stored
  obtain ⟨effect, after, ran, book, snapshot, ledger, reversed, -⟩ :=
    recordOnOrder_records fresh checked
  refine ⟨effect, after, _, ran, ⟨?_, ?_, ?_, ?_⟩, ledger⟩
  · exact ⟨entry.book.order.revision + 1, by rw [book, state, refund, shape]⟩
  · obtain ⟨email, id, payment⟩ := snapshot
    rw [email, id, payment]
    exact stays.snapshot
  · intro row member
    rw [ledger] at member
    rcases List.mem_append.mp member with earlier | latest
    · exact stays.apart row earlier
    · rw [List.mem_singleton.mp latest]
      exact other
  · rw [reversed, ledger, ledgerSums_snoc]
    exact orderChange_reversed next stays.reversed

theorem Stays.same_outcome {one two : GatewayOrder} (first : Stays start one)
    (second : Stays start two)
    (sums : ledgerSums one.file.ledger = ledgerSums two.file.ledger) :
    one.outcome = two.outcome := by
  have mark : one.file.paymentReversedAt.isSome = two.file.paymentReversedAt.isSome := by
    rw [Bool.eq_iff_iff, first.reversed, second.reversed, sums]
  obtain ⟨revision, book⟩ := first.order
  obtain ⟨other, other_book⟩ := second.order
  unfold GatewayOrder.outcome
  rw [mark, book, other_book]

/-- The seller's own record keeps the order, under a reference of its own. -/
theorem stays_lane {payment : GatewayPayment} {entry : GatewayOrder} {notices : List RefundIpn}
    (fit : RefundsFit payment entry.book.order notices)
    (stored : entry.book.order.checks = true)
    (shown : entry.book.order.externalRefund.isSome = true)
    (apart : ∀ refund ∈ entry.book.order.externalRefund, ∀ ipn ∈ notices,
      refund.reference ≠ ipn.txnId) :
    Lane payment entry.book.order notices (Stays (entry.owning payment)) := by
  have shape {other : GatewayOrder} (stays : Stays (entry.owning payment) other) :
      other.book.order.currency = entry.book.order.currency ∧
        other.book.order.exponent = entry.book.order.exponent := by
    obtain ⟨revision, book⟩ := stays.order
    rw [book]
    exact ⟨rfl, rfl⟩
  refine ⟨fun other stays => stays.snapshot.2.2, fun other stays => stays.snapshot.1,
    fun other stays => stays.snapshot.2.1, fun other stays => (shape stays).1,
    fun other stays => (shape stays).2, fit, ?_, fun one two => Stays.same_outcome⟩
  intro other ipn now stays member fresh next
  exact stays.recorded next stored shown
    (fun refund recorded => apart refund recorded ipn member) fresh

end Manual

/-! Whole deliveries. -/

section Whole

variable {desk paid : Desk} {orderId : OrderId} {payment : GatewayPayment}
  {transactionRef : Option String} {now : Time} {entry : GatewayOrder} {notices : List RefundIpn}

theorem Settling.lane (settling : Settling desk orderId payment transactionRef now paid entry)
    (unpaid : entry.file.paypalTxnId = none)
    (fit : RefundsFit payment entry.book.order notices)
    (apart : ∀ refund ∈ entry.book.order.externalRefund, ∀ ipn ∈ notices,
      refund.reference ≠ ipn.txnId) :
    ∃ Keeps, Lane payment entry.book.order notices Keeps ∧ Keeps (entry.owning payment) := by
  obtain ⟨unnotified, unmarked⟩ := settling.unnotified unpaid
  cases recorded : entry.book.order.externalRefund with
  | none =>
      exact ⟨_, follows_lane fit settling.stored settling.priced,
        Follows.begin settling.priced unnotified unmarked recorded⟩
  | some refund =>
      have shown : entry.book.order.externalRefund.isSome = true := by rw [recorded]; rfl
      refine ⟨_, stays_lane fit settling.stored shown apart, ⟨_, rfl⟩, ⟨rfl, rfl, rfl⟩, ?_, ?_⟩
      · intro row member
        have empty : (entry.owning payment).file.ledger = [] := unnotified
        rw [empty] at member
        cases member
      · change entry.file.paymentReversedAt.isSome = true ↔
          0 < (ledgerSums entry.file.ledger).outstandingReversal
        rw [unnotified, unmarked]
        decide

/-- The first part of a delivery, up to where the payment has been applied. -/
theorem Settling.arrives (settling : Settling desk orderId payment transactionRef now paid entry)
    (all : Notices desk payment entry.book.order notices) (arrivals : List (RefundIpn × Time))
    (known : ∀ arrival ∈ arrivals, arrival.1 ∈ notices) :
    ∃ waiting, desk.deliverAll arrivals = .ok waiting ∧
      waiting.applyPaid orderId transactionRef now = .ok { paid with inbox := waiting.inbox } ∧
      Awaits paid payment.txnId (arrivals.map Prod.fst).reverse
        { paid with inbox := waiting.inbox } := by
  have start : Awaits desk payment.txnId [] desk := by
    refine ⟨rfl, rfl, ?_, fun txnId elsewhere => rfl⟩
    intro ipn member
    cases member
  obtain ⟨waiting, ran, waits⟩ := start.deliverAll settling.named settling.unowned all
    (by simp) arrivals known
  rw [List.append_nil] at waits
  obtain ⟨-, -, -, -, -, applied⟩ := Desk.applyPaid_ok settling.applied
  have same : waiting = { desk with inbox := waiting.inbox } := by
    obtain ⟨inventory, orders, inbox⟩ := waiting
    have stock := waits.inventory
    have rows := waits.orders
    simp only at stock rows
    rw [stock, rows]
  refine ⟨waiting, ran, ?_, waits.applied (Desk.applyPaid_paidFrom settling.applied)⟩
  conv_lhs => rw [same]
  exact applied waiting.inbox

theorem Awaits.arrived {base waiting : Desk} {seen : List RefundIpn}
    (waits : Awaits base payment.txnId seen waiting) {order : Order}
    (all : Notices base payment order notices) {ipn : RefundIpn} (member : ipn ∈ notices)
    {row : InboxRow} (held : waiting.inbox.find? ipn.txnId = some row)
    (within : ∀ other ∈ seen, other ∈ notices) :
    row.resolvedAt = none ∧ row.reason = .unknownParent := by
  by_cases before : ipn ∈ seen
  · obtain ⟨arrived, parked⟩ := waits.parked ipn before
    rw [parked] at held
    cases held
    exact ⟨rfl, rfl⟩
  · rw [waits.others ipn.txnId fun other earlier same =>
      before (all.distinct other (within other earlier) ipn member same ▸ earlier),
      all.unheld ipn member] at held
    cases held

theorem Desk.deliver_ok {delivery : Delivery} {waiting taken settled final : Desk}
    (first : desk.deliverAll delivery.before = .ok waiting)
    (applied : waiting.applyPaid orderId transactionRef now = .ok taken)
    (evaluated : (taken.storePayment orderId payment).deliverAll
      ((((taken.storePayment orderId payment).held payment.txnId).map InboxRow.ipn).map
        fun ipn => (ipn, now)) = .ok settled)
    (last : settled.deliverAll delivery.after = .ok final) :
    desk.deliver orderId payment transactionRef now delivery = .ok final := by
  have whole : waiting.completed orderId payment transactionRef now = .ok settled := by
    unfold Desk.completed
    rw [applied]
    simp only [bind, Except.bind]
    unfold Desk.settleVerifiedPayment
    rw [Desk.evaluateAll_eq]
    exact evaluated
  unfold Desk.deliver
  rw [first]
  simp only [bind, Except.bind]
  rw [whole]
  exact last

theorem Delivery.Delivers.known {delivery : Delivery} (delivers : delivery.Delivers notices) :
    (∀ arrival ∈ delivery.before, arrival.1 ∈ notices) ∧
      (∀ arrival ∈ delivery.after, arrival.1 ∈ notices) ∧
      ∀ ipn ∈ (delivery.before.map Prod.fst).reverse, ipn ∈ notices := by
  have known : ∀ arrival ∈ delivery.before ++ delivery.after, arrival.1 ∈ notices :=
    fun arrival member => (delivers arrival.1).mpr (List.mem_map_of_mem member)
  refine ⟨fun arrival member => known arrival (List.mem_append_left _ member),
    fun arrival member => known arrival (List.mem_append_right _ member), ?_⟩
  intro ipn member
  obtain ⟨arrival, present, rfl⟩ := List.mem_map.mp (List.mem_reverse.mp member)
  exact known arrival (List.mem_append_left _ present)

theorem Settling.delivered (settling : Settling desk orderId payment transactionRef now paid entry)
    (all : Notices desk payment entry.book.order notices) (unpaid : entry.file.paypalTxnId = none)
    {Keeps : GatewayOrder → Prop} (lane : Lane payment entry.book.order notices Keeps)
    (keeps : Keeps (entry.owning payment)) (delivery : Delivery)
    (delivers : delivery.Delivers notices) :
    ∃ final seen logged,
      desk.deliver orderId payment transactionRef now delivery = .ok final ∧
      Works paid orderId payment entry.book.order notices Keeps seen logged final ∧
      ∀ ipn ∈ notices, ipn ∈ seen := by
  have from_desk := Desk.applyPaid_paidFrom settling.applied
  have unowned := from_desk.unowned settling.unowned
  have fresh := from_desk.fresh all
  obtain ⟨known, later, within⟩ := delivers.known
  obtain ⟨waiting, first_ran, applied, waits⟩ := settling.arrives all delivery.before known
  -- the payment is stored before the held notifications are evaluated again
  have stores : ({ paid with inbox := waiting.inbox } : Desk).storePayment orderId payment =
      { paid with
        orders := paid.orders.set orderId (entry.owning payment)
        inbox := waiting.inbox } := by
    have nobody : ({ paid with inbox := waiting.inbox } : Desk).owner payment.txnId = none :=
      unowned
    unfold Desk.storePayment
    simp only [settling.found, unpaid, nobody, Option.isNone_none, and_self, if_true]
    rfl
  have begun : Works paid orderId payment entry.book.order notices Keeps [] []
      { paid with
        orders := paid.orders.set orderId (entry.owning payment)
        inbox := waiting.inbox } := by
    have empty : (entry.owning payment).file.ledger = [] := (settling.unnotified unpaid).1
    refine ⟨fun id apart => paid.orders.find?_set_ne _ apart,
      ⟨entry.owning payment, paid.orders.find?_set_self _ _, keeps, ?_⟩,
      by rw [settling.found]; rfl, by simp, by simp, List.nodup_nil, ?_⟩
    · rw [empty]
      exact .nil
    · intro ipn member
      exact ⟨fun seen => (List.not_mem_nil seen).elim, fun seen => (List.not_mem_nil seen).elim,
        fun _ row held => waits.arrived fresh member held within⟩
  have held_iff := waits.held (by
    rw [from_desk.inbox]
    exact settling.unnamed)
  obtain ⟨settled, settled_logged, settled_ran, works⟩ := begun.deliverAll lane settling.named
    unowned fresh
    (((({ paid with inbox := waiting.inbox } : Desk).held payment.txnId).map InboxRow.ipn).map
      fun ipn => (ipn, now)) (by
      intro arrival member
      obtain ⟨ipn, present, rfl⟩ := List.mem_map.mp member
      exact within ipn ((held_iff ipn).mp present))
  obtain ⟨final, final_logged, last_ran, done⟩ := works.deliverAll lane settling.named unowned
    fresh delivery.after later
  refine ⟨final, _, final_logged, ?_, done, ?_⟩
  · refine Desk.deliver_ok first_ran applied ?_ last_ran
    rw [stores]
    exact settled_ran
  · intro ipn member
    have arrived := (delivers ipn).mp member
    rw [List.map_append, List.mem_append] at arrived
    rcases arrived with before | after
    · have parked := (held_iff ipn).mpr (List.mem_reverse.mpr before)
      simp only [List.map_map, List.append_nil, List.mem_append, List.mem_reverse]
      obtain ⟨row, held, rfl⟩ := List.mem_map.mp parked
      exact .inr (List.mem_map.mpr ⟨row, held, rfl⟩)
    · exact List.mem_append_left _ (List.mem_reverse.mpr after)

/-- A delivery whose payment the order does not store, having one already:
every notification waits. -/
theorem Settling.stranded (settling : Settling desk orderId payment transactionRef now paid entry)
    (all : Notices desk payment entry.book.order notices) (other : entry.file.paypalTxnId ≠ none)
    (delivery : Delivery) (delivers : delivery.Delivers notices) :
    ∃ final seen,
      desk.deliver orderId payment transactionRef now delivery = .ok final ∧
      Awaits paid payment.txnId seen final ∧ (∀ ipn ∈ notices, ipn ∈ seen) := by
  have from_desk := Desk.applyPaid_paidFrom settling.applied
  have unowned := from_desk.unowned settling.unowned
  have fresh := from_desk.fresh all
  obtain ⟨known, later, within⟩ := delivers.known
  obtain ⟨waiting, first_ran, applied, waits⟩ := settling.arrives all delivery.before known
  have stores : ({ paid with inbox := waiting.inbox } : Desk).storePayment orderId payment =
      { paid with inbox := waiting.inbox } := by
    unfold Desk.storePayment
    simp only [settling.found, other, false_and, if_false]
  have held_iff := waits.held (by
    rw [from_desk.inbox]
    exact settling.unnamed)
  have replayed : ∀ arrival ∈ ((({ paid with inbox := waiting.inbox } : Desk).held
      payment.txnId).map InboxRow.ipn).map (fun ipn => (ipn, now)), arrival.1 ∈ notices := by
    intro arrival member
    obtain ⟨ipn, present, rfl⟩ := List.mem_map.mp member
    exact within ipn ((held_iff ipn).mp present)
  obtain ⟨settled, settled_ran, settled_waits⟩ := waits.deliverAll settling.named unowned fresh
    within _ replayed
  obtain ⟨final, last_ran, done⟩ := settled_waits.deliverAll settling.named unowned fresh (by
      intro ipn member
      rcases List.mem_append.mp member with again | before
      · obtain ⟨arrival, present, rfl⟩ := List.mem_map.mp (List.mem_reverse.mp again)
        exact replayed arrival present
      · exact within ipn before)
    delivery.after later
  refine ⟨final, _, ?_, done, ?_⟩
  · refine Desk.deliver_ok first_ran applied ?_ last_ran
    rw [stores]
    exact settled_ran
  · intro ipn member
    have arrived := (delivers ipn).mp member
    rw [List.map_append, List.mem_append] at arrived
    rcases arrived with before | after
    · exact List.mem_append_right _ (List.mem_append_right _ (List.mem_reverse.mpr before))
    · exact List.mem_append_left _ (List.mem_reverse.mpr after)

theorem Awaits.recorded_once {base waiting : Desk} {seen : List RefundIpn} {order : Order}
    (waits : Awaits base payment.txnId seen waiting) (all : Notices base payment order notices)
    {ipn : RefundIpn} (member : ipn ∈ notices) (before : ipn ∈ seen) :
    waiting.recordings ipn.txnId = 1 := by
  obtain ⟨arrived, held⟩ := waits.parked ipn before
  unfold Desk.recordings
  rw [waits.orders, Keyed.Table.sum_eq_zero _ _ fun id entry found =>
    Desk.unrecorded_count (all.unrecorded ipn member) found, held]
  rfl

/-- Two deliveries of the same notifications commit, record each of them once
and leave the same order. -/
def DeliveredAlike (desk : Desk) (orderId : OrderId) (payment : GatewayPayment)
    (transactionRef : Option String) (now : Time) (notices : List RefundIpn)
    (one two : Delivery) : Prop :=
  ∃ first second,
    desk.deliver orderId payment transactionRef now one = .ok first ∧
    desk.deliver orderId payment transactionRef now two = .ok second ∧
    (∀ ipn ∈ notices, first.recordings ipn.txnId = 1 ∧ second.recordings ipn.txnId = 1) ∧
    first.outcome orderId = second.outcome orderId

/-- The refund notifications of a payment may come in any order, any number of
times each, before or after the payment settles, as long as a refund that the
seller recorded by hand carries none of their transaction ids and their sums
fit an `i64`. -/
theorem refund_notices_confluent (desk paid : Desk) (orderId : OrderId)
    (payment : GatewayPayment) (transactionRef : Option String) (now : Time)
    (entry : GatewayOrder) (notices : List RefundIpn)
    (settling : Settling desk orderId payment transactionRef now paid entry)
    (all : Notices desk payment entry.book.order notices)
    (apart : ∀ refund ∈ entry.book.order.externalRefund, ∀ ipn ∈ notices,
      refund.reference ≠ ipn.txnId)
    (fit : RefundsFit payment entry.book.order notices)
    (one two : Delivery) (first_delivers : one.Delivers notices)
    (second_delivers : two.Delivers notices) :
    DeliveredAlike desk orderId payment transactionRef now notices one two := by
  have fresh := (Desk.applyPaid_paidFrom settling.applied).fresh all
  by_cases unpaid : entry.file.paypalTxnId = none
  · obtain ⟨Keeps, lane, keeps⟩ := settling.lane unpaid fit apart
    obtain ⟨first, seen, logged, ran, works, complete⟩ :=
      settling.delivered all unpaid lane keeps one first_delivers
    obtain ⟨second, other_seen, other_logged, other_ran, others, other_complete⟩ :=
      settling.delivered all unpaid lane keeps two second_delivers
    refine ⟨first, second, ran, other_ran, ?_, ?_⟩
    · intro ipn member
      exact ⟨works.recorded_once fresh member (complete ipn member),
        others.recorded_once fresh member (other_complete ipn member)⟩
    · exact works.same_outcome others lane complete other_complete
  · obtain ⟨first, seen, ran, waits, complete⟩ := settling.stranded all unpaid one first_delivers
    obtain ⟨second, other_seen, other_ran, others, other_complete⟩ :=
      settling.stranded all unpaid two second_delivers
    refine ⟨first, second, ran, other_ran, ?_, ?_⟩
    · intro ipn member
      exact ⟨waits.recorded_once fresh member (complete ipn member),
        others.recorded_once fresh member (other_complete ipn member)⟩
    · unfold Desk.outcome
      rw [waits.orders, others.orders]

end Whole

/-! A lamp whose seller confirmed the payment by hand. -/

/-- The desk before PayPal says anything of the lamp. -/
def lampDesk (state : OrderState) (refund : Option ExternalRefund) : Desk :=
  { inventory := emptySys.inventory
    orders := Keyed.Table.empty.set 1
      { returnedLamp with
        book := { returnedLamp.book with
          order := { returnedLamp.book.order with state := state, externalRefund := refund }
          payment := { returnedLamp.book.payment with state := .confirmed } }
        file := {}
        receiverEmail := none }
    inbox := .empty }

def lampPayment : GatewayPayment :=
  { txnId := "PAY", merchantEmail := "Seller@example.com", receiverId := none }

def lampRefund (txnId gross : String) : RefundIpn :=
  { paymentStatus := "Refunded"
    txnId := txnId
    parentTxnId := "PAY"
    custom := some 1
    mcGross := gross.toList
    mcCurrency := "USD"
    receiverEmail := some "seller@example.com"
    business := none
    receiverId := none }

def lampRefunds : List RefundIpn := [lampRefund "7RF61283" "-0.60", lampRefund "7RF61284" "-0.10"]

/-- Both refunds after the payment, and the second one before it. -/
def lampDeliveries : Delivery × Delivery :=
  ( { before := []
      after := [(lampRefund "7RF61283" "-0.60", 10), (lampRefund "7RF61284" "-0.10", 11)] }
  , { before := [(lampRefund "7RF61284" "-0.10", 8)]
      after := [(lampRefund "7RF61283" "-0.60", 10), (lampRefund "7RF61284" "-0.10", 11)] } )

theorem lampDeliveries_deliver : lampDeliveries.1.Delivers lampRefunds ∧
    lampDeliveries.2.Delivers lampRefunds := by
  constructor <;> intro ipn <;>
    simp [lampDeliveries, lampRefunds, or_comm, or_left_comm]

def lampEntry (state : OrderState) (refund : Option ExternalRefund) : GatewayOrder :=
  ((lampDesk state refund).orders.find? 1).getD returnedLamp

theorem lampDesk_settling (state : OrderState) (refund : Option ExternalRefund)
    (stored : (lampEntry state refund).book.order.checks = true) :
    Settling (lampDesk state refund) 1 lampPayment none 9 (lampDesk state refund)
      (lampEntry state refund) :=
  { named := by decide
    applied := rfl
    found := rfl
    unowned := rfl
    unnamed := fun row member => by cases member
    stored := stored
    priced := show 0 < 100 by decide
    unnotified := fun _ => ⟨rfl, rfl⟩ }

theorem lampRefunds_notices (state : OrderState) (refund : Option ExternalRefund) :
    Notices (lampDesk state refund) lampPayment (lampEntry state refund).book.order
      lampRefunds := by
  refine ⟨by decide, ?_, ?_, ?_⟩
  · intro ipn member
    rcases List.mem_cons.mp member with rfl | rest
    · exact ⟨by decide, rfl, by decide, rfl, .refunded, 60, by decide,
        show negativeGrossMinor "-0.60".toList 2 = some 60 by decide⟩
    · rw [List.mem_singleton.mp rest]
      exact ⟨by decide, rfl, by decide, rfl, .refunded, 10, by decide,
        show negativeGrossMinor "-0.10".toList 2 = some 10 by decide⟩
  · intro ipn member
    rfl
  · intro ipn member
    rfl

theorem paid_lamp_refunds_alike :
    DeliveredAlike (lampDesk .paid none) 1 lampPayment none 9 lampRefunds lampDeliveries.1
      lampDeliveries.2 :=
  refund_notices_confluent (lampDesk .paid none) (lampDesk .paid none) 1 lampPayment none 9
    (lampEntry .paid none) lampRefunds (lampDesk_settling .paid none (by decide))
    (lampRefunds_notices .paid none) (by intro refund recorded; cases recorded) (by decide)
    lampDeliveries.1 lampDeliveries.2 lampDeliveries_deliver.1 lampDeliveries_deliver.2

/-- The seller closed the lamp's refund under PayPal's own transaction id. The
second refund then replaces the seller's record when it comes after the first,
and not when it comes before. -/
theorem adopted_record_depends_on_order :
    (lampEntry .refundedExternal (some ⟨60, "7RF61283"⟩)).book.order.checks = true ∧
      lampDeliveries.1.Delivers lampRefunds ∧ lampDeliveries.2.Delivers lampRefunds ∧
      Notices (lampDesk .refundedExternal (some ⟨60, "7RF61283"⟩)) lampPayment
        (lampEntry .refundedExternal (some ⟨60, "7RF61283"⟩)).book.order lampRefunds ∧
      ¬ DeliveredAlike (lampDesk .refundedExternal (some ⟨60, "7RF61283"⟩)) 1 lampPayment none 9
        lampRefunds lampDeliveries.1 lampDeliveries.2 := by
  refine ⟨by decide, lampDeliveries_deliver.1, lampDeliveries_deliver.2,
    lampRefunds_notices _ _, ?_⟩
  rintro ⟨first, second, ran, other_ran, -, same⟩
  have replaced : ((lampDesk .refundedExternal (some ⟨60, "7RF61283"⟩)).deliver 1 lampPayment none 9
      lampDeliveries.1).toOption.bind (·.outcome 1) =
        some (.refundedExternal, some 70, false) := by decide
  have kept : ((lampDesk .refundedExternal (some ⟨60, "7RF61283"⟩)).deliver 1 lampPayment none 9
      lampDeliveries.2).toOption.bind (·.outcome 1) =
        some (.refundedExternal, some 60, false) := by decide
  rw [ran] at replaced
  rw [other_ran] at kept
  have one : first.outcome 1 = some (.refundedExternal, some 70, false) := replaced
  have two : second.outcome 1 = some (.refundedExternal, some 60, false) := kept
  rw [one, two] at same
  simp at same

end MarketplaceService
