import Mathlib.Data.List.Induction
import MarketplaceService.Lib.Outcome
import MarketplaceService.RefundInbox

/-!
What the gateway's ledger says of its order. Whatever the order in which the
notifications are recorded, the order is refunded exactly while the ledger's
effective refund covers its total, its return request and its running refund
follow, and a reversal stands exactly while more was reversed than restored.
A canceled reversal finds the state it restores on some earlier row; every such
row kept the state the order started from.
-/

namespace MarketplaceService

/-! Reading the ledger. -/

theorem GatewayFile.rows_perm (file : GatewayFile) : file.rows.Perm file.ledger :=
  List.perm_insertionSort LedgerRow.comesBefore file.ledger

@[simp]
theorem GatewayFile.mem_rows {file : GatewayFile} {row : LedgerRow} :
    row ∈ file.rows ↔ row ∈ file.ledger :=
  file.rows_perm.mem_iff

theorem GatewayFile.any_rows (file : GatewayFile) (hit : LedgerRow → Bool) :
    file.rows.any hit = file.ledger.any hit := by
  rw [Bool.eq_iff_iff]
  simp only [List.any_eq_true, GatewayFile.mem_rows]

/-- What a ledger adds up to. -/
structure Sums where
  refunded : ℕ
  reversed : ℕ
  restored : ℕ

def Sums.add (sums : Sums) (status : GatewayStatus) (amount : ℕ) : Sums :=
  match status with
  | .refunded => { sums with refunded := sums.refunded + amount }
  | .reversed => { sums with reversed := sums.reversed + amount }
  | .canceledReversal => { sums with restored := sums.restored + amount }

def Sums.outstandingReversal (sums : Sums) : ℕ := sums.reversed - sums.restored

def Sums.effective (sums : Sums) : ℕ := sums.refunded + sums.outstandingReversal

def ledgerSums (ledger : List LedgerRow) : Sums :=
  ledger.foldl (fun sums row => sums.add row.paymentStatus row.amountMinor) ⟨0, 0, 0⟩

theorem Sums.add_comm (sums : Sums) (first second : GatewayStatus) (left right : ℕ) :
    (sums.add first left).add second right = (sums.add second right).add first left := by
  cases first <;> cases second <;> simp only [Sums.add, Nat.add_right_comm]

theorem ledgerSums_perm {rows ledger : List LedgerRow} (perm : rows.Perm ledger) :
    ledgerSums rows = ledgerSums ledger := by
  have : RightCommutative fun (sums : Sums) (row : LedgerRow) =>
      sums.add row.paymentStatus row.amountMinor :=
    ⟨fun sums first second => sums.add_comm _ _ _ _⟩
  exact perm.foldl_eq _

@[simp]
theorem ledgerSums_snoc (ledger : List LedgerRow) (row : LedgerRow) :
    ledgerSums (ledger ++ [row]) = (ledgerSums ledger).add row.paymentStatus row.amountMinor := by
  simp only [ledgerSums, List.foldl_append, List.foldl_cons, List.foldl_nil]

/-! The sums as `i64` holds them. -/

def Sums.totals (sums : Sums) : Totals :=
  { refunded := MachineInt.wrap sums.refunded
    reversed := MachineInt.wrap sums.reversed
    restored := MachineInt.wrap sums.restored }

@[simp]
theorem Sums.totals_add (sums : Sums) (status : GatewayStatus) (amount : ℕ) :
    sums.totals.add status amount = (sums.add status amount).totals := by
  cases status <;> simp [Totals.add, Sums.add, Sums.totals, MachineInt.wrap_wrap_add]

theorem ledgerTotals_eq (ledger : List LedgerRow) :
    ledgerTotals ledger = (ledgerSums ledger).totals := by
  induction ledger using List.reverseRecOn with
  | nil => simp [ledgerTotals, ledgerSums, Sums.totals, MachineInt.wrap]
  | append_singleton ledger row ih =>
      rw [ledgerSums_snoc, ← Sums.totals_add, ← ih]
      simp only [ledgerTotals, List.foldl_append, List.foldl_cons, List.foldl_nil]

@[simp]
theorem GatewayFile.totals_rows (file : GatewayFile) :
    ledgerTotals file.rows = (ledgerSums file.ledger).totals := by
  rw [ledgerTotals_eq, ledgerSums_perm file.rows_perm]

/-- The differences that the code takes are `i64` values: what it adds on the way may wrap. -/
structure Sums.Fits (sums : Sums) : Prop where
  net : MachineInt.InRange ((sums.reversed : ℤ) - sums.restored)
  returned : MachineInt.InRange sums.effective

instance (sums : Sums) : Decidable sums.Fits :=
  decidable_of_iff (MachineInt.InRange ((sums.reversed : ℤ) - sums.restored) ∧
    MachineInt.InRange sums.effective) ⟨fun both => ⟨both.1, both.2⟩, fun fits => ⟨fits.1, fits.2⟩⟩

theorem Sums.Fits.outstandingReversal {sums : Sums} (fits : sums.Fits) :
    sums.totals.outstandingReversal = (sums.outstandingReversal : ℕ) := by
  have net : MachineInt.wrap (MachineInt.wrap sums.reversed - MachineInt.wrap sums.restored) =
      (sums.reversed : ℤ) - sums.restored := by
    rw [MachineInt.wrap_wrap_sub, MachineInt.wrap_of_inRange fits.net]
  simp only [Totals.outstandingReversal, Sums.totals, net, Sums.outstandingReversal]
  omega

theorem Sums.Fits.effective {sums : Sums} (fits : sums.Fits) :
    sums.totals.effective = (sums.effective : ℕ) := by
  rw [Totals.effective, fits.outstandingReversal, Sums.totals, MachineInt.wrap_wrap_add]
  exact MachineInt.wrap_of_inRange (by simpa [Sums.effective] using fits.returned)

theorem runningRefund_cast (order : Order) (effective : ℕ) (txn : String) :
    runningRefund order effective txn =
      if 0 < effective then
        some { amountMinor := min effective order.totalMinor, reference := txn }
      else none := by
  have capped : (min (effective : ℤ) order.totalMinor).toNat = min effective order.totalMinor := by
    omega
  simp only [runningRefund, Int.natCast_pos, capped]

/-! Sums as a notification moves them. -/

section Sums

variable {sums : Sums} {status : GatewayStatus} {amount : ℕ}

theorem Sums.effective_le_of_taken (taken : status ≠ .canceledReversal) :
    sums.effective ≤ (sums.add status amount).effective := by
  cases status with
  | refunded =>
      simp only [Sums.add, Sums.effective, Sums.outstandingReversal]
      omega
  | reversed =>
      simp only [Sums.add, Sums.effective, Sums.outstandingReversal]
      omega
  | canceledReversal => exact (taken rfl).elim

theorem Sums.effective_le_of_restored :
    (sums.add .canceledReversal amount).effective ≤ sums.effective := by
  simp only [Sums.add, Sums.effective, Sums.outstandingReversal]
  omega

/-- Money was returned only if a refund or a reversal was recorded. -/
theorem ledgerSums_effective_pos {ledger : List LedgerRow}
    (returned : 0 < (ledgerSums ledger).effective) :
    ∃ row ∈ ledger, row.paymentStatus = .refunded ∨ row.paymentStatus = .reversed := by
  induction ledger using List.reverseRecOn with
  | nil => simp [ledgerSums, Sums.effective, Sums.outstandingReversal] at returned
  | append_singleton ledger row ih =>
      cases status : row.paymentStatus with
      | refunded => exact ⟨row, by simp, .inl status⟩
      | reversed => exact ⟨row, by simp, .inr status⟩
      | canceledReversal =>
          rw [ledgerSums_snoc, status] at returned
          obtain ⟨other, member, taken⟩ :=
            ih (Nat.lt_of_lt_of_le returned Sums.effective_le_of_restored)
          exact ⟨other, by simp [member], taken⟩

end Sums

/-- The transaction shown after a canceled reversal is on the ledger. -/
theorem latestRefund_mem {rows : List LedgerRow} {record : GatewayRecord}
    (taken : ∃ row ∈ rows, row.paymentStatus = .refunded ∨ row.paymentStatus = .reversed) :
    ∃ row ∈ rows, latestRefund rows record = row.refundTxnId := by
  unfold latestRefund
  cases refund : rows.reverse.find? fun row => row.paymentStatus == .refunded with
  | some row =>
      have member := List.mem_of_find?_eq_some refund
      exact ⟨row, List.mem_reverse.mp member, by simp⟩
  | none =>
      cases reversal : rows.reverse.find? fun row => row.paymentStatus == .reversed with
      | some row =>
          have member := List.mem_of_find?_eq_some reversal
          exact ⟨row, List.mem_reverse.mp member, by simp⟩
      | none =>
          obtain ⟨row, member, status⟩ := taken
          rw [List.find?_eq_none] at refund reversal
          have stands := List.mem_reverse.mpr member
          rcases status with refunded | reversed
          · exact absurd (by simpa using refunded) (refund row stands)
          · exact absurd (by simpa using reversed) (reversal row stands)

/-- The recorded refund is the gateway's own. -/
theorem manualExternal_false {order : Order} {rows : List LedgerRow}
    (own : ∀ refund ∈ order.externalRefund, ∃ row ∈ rows, refund.reference = row.refundTxnId) :
    manualExternal order rows = false := by
  unfold manualExternal
  cases recorded : order.externalRefund with
  | none => rfl
  | some refund =>
      obtain ⟨row, member, reference⟩ := own refund recorded
      simp only [Option.any_some, Bool.not_eq_false', List.any_eq_true]
      exact ⟨row, member, by simpa using reference.symm⟩

/-! The order beside its ledger. -/

def GatewayOrder.covered (start : GatewayOrder) (sums : Sums) : Prop :=
  start.book.order.state ∈ fullRefundSources ∧ start.book.order.totalMinor ≤ sums.effective

instance (start : GatewayOrder) (sums : Sums) : Decidable (start.covered sums) :=
  inferInstanceAs (Decidable (_ ∧ _))

/-- What recording has made of an order that started with an empty ledger and
no recorded refund. -/
structure Follows (start entry : GatewayOrder) : Prop where
  order : ∃ revision state refund, entry.book = { start.book with
    order := { start.book.order with
      revision := revision
      state := state
      externalRefund := refund } }
  snapshot : entry.receiverEmail = start.receiverEmail ∧ entry.receiverId = start.receiverId ∧
    entry.file.paypalTxnId = start.file.paypalTxnId
  fits : (ledgerSums entry.file.ledger).Fits
  state : entry.book.order.state =
    if start.covered (ledgerSums entry.file.ledger) then .refundedExternal
    else start.book.order.state
  replaced : ∀ row ∈ entry.file.ledger, ∀ state ∈ row.fromState,
    state = start.book.order.state ∧
      entry.fromReturnStates.find? row.refundTxnId =
        some (start.returnRequest.map ReturnRequest.state)
  moved : start.covered (ledgerSums entry.file.ledger) →
    ∃ row ∈ entry.file.ledger, row.fromState.isSome = true
  refund : entry.book.order.externalRefund = none ∧
      (ledgerSums entry.file.ledger).effective = 0 ∨
    ∃ row ∈ entry.file.ledger, entry.book.order.externalRefund =
      runningRefund start.book.order (ledgerSums entry.file.ledger).effective row.refundTxnId
  reversed : entry.file.paymentReversedAt.isSome = true ↔
    0 < (ledgerSums entry.file.ledger).outstandingReversal
  returned : entry.returnRequest.map ReturnRequest.state =
    if start.covered (ledgerSums entry.file.ledger) then
      start.returnRequest.map fun _ => .refunded
    else start.returnRequest.map ReturnRequest.state

section Recording

variable {start entry : GatewayOrder} {record : GatewayRecord} {now : Time}

theorem Follows.own (follows : Follows start entry) :
    manualExternal entry.book.order entry.file.rows = false := by
  apply manualExternal_false
  intro refund recorded
  rcases follows.refund with ⟨unrecorded, -⟩ | ⟨row, member, running⟩
  · rw [unrecorded] at recorded
    cases recorded
  · refine ⟨row, GatewayFile.mem_rows.mpr member, ?_⟩
    rw [running] at recorded
    unfold runningRefund at recorded
    split at recorded
    · cases recorded
      rfl
    · cases recorded

theorem Follows.total (follows : Follows start entry) :
    entry.book.order.totalMinor = start.book.order.totalMinor := by
  obtain ⟨revision, state, refund, shape⟩ := follows.order
  rw [shape]

theorem refundedExternal_not_source : OrderState.refundedExternal ∉ fullRefundSources := by
  decide

theorem Follows.refund_state (follows : Follows start entry)
    (next : ((ledgerSums entry.file.ledger).add record.status record.amountMinor).Fits)
    (taken : record.status ≠ .canceledReversal) :
    (refundChange entry.book.order entry.file record now).state =
        (if start.covered ((ledgerSums entry.file.ledger).add record.status record.amountMinor)
          then .refundedExternal else start.book.order.state) ∧
      (refundChange entry.book.order entry.file record now).fromState =
        if start.covered ((ledgerSums entry.file.ledger).add record.status record.amountMinor) ∧
            ¬ start.covered (ledgerSums entry.file.ledger)
          then some start.book.order.state else none := by
  have grows := @Sums.effective_le_of_taken (ledgerSums entry.file.ledger) record.status
    record.amountMinor taken
  have state := follows.state
  simp only [refundChange, follows.own, follows.total, GatewayFile.totals_rows, Sums.totals_add,
    next.effective, Int.ofNat_le]
  by_cases before : start.covered (ledgerSums entry.file.ledger)
  · -- already covered: the order has left the states a refund moves
    have after : start.covered
        ((ledgerSums entry.file.ledger).add record.status record.amountMinor) :=
      ⟨before.1, before.2.trans grows⟩
    rw [if_pos before] at state
    simp [state, refundedExternal_not_source, before, after]
  · rw [if_neg before] at state
    by_cases after : start.covered
        ((ledgerSums entry.file.ledger).add record.status record.amountMinor)
    · simp [state, before, after, after.1, after.2]
    · by_cases source : start.book.order.state ∈ fullRefundSources
      · have short : ¬ start.book.order.totalMinor ≤
            ((ledgerSums entry.file.ledger).add record.status record.amountMinor).effective :=
          fun full => after ⟨source, full⟩
        simp [state, after, short]
      · simp [state, after, source]

/-- A row whose move is taken back kept the order's first state. -/
theorem Follows.restoredRow_some (follows : Follows start entry)
    (next : ((ledgerSums entry.file.ledger).add record.status record.amountMinor).Fits)
    {row : LedgerRow}
    (restored : restoredRow entry.book.order entry.file record = some row) :
    row ∈ entry.file.ledger ∧ row.fromState = some start.book.order.state ∧
      ¬ start.covered ((ledgerSums entry.file.ledger).add record.status record.amountMinor) := by
  unfold restoredRow at restored
  simp only [GatewayFile.totals_rows, Sums.totals_add, next.effective, Int.ofNat_lt] at restored
  split at restored
  · rename_i reopens
    have member := GatewayFile.mem_rows.mp
      (List.mem_reverse.mp (List.mem_of_find?_eq_some restored))
    have moved := List.find?_some restored
    obtain ⟨state, kept⟩ := Option.isSome_iff_exists.mp moved
    have first := (follows.replaced row member state kept).1
    refine ⟨member, by rw [kept, first], fun covers => ?_⟩
    have short := reopens.2.2.1
    rw [follows.total] at short
    exact absurd covers.2 (Nat.not_le_of_lt short)
  · cases restored

/-- Where no move is taken back, the order stays as covered as it was. -/
theorem Follows.restoredRow_none (follows : Follows start entry)
    (next : ((ledgerSums entry.file.ledger).add record.status record.amountMinor).Fits)
    (restores : record.status = .canceledReversal)
    (unrestored : restoredRow entry.book.order entry.file record = none) :
    start.covered ((ledgerSums entry.file.ledger).add record.status record.amountMinor) ↔
      start.covered (ledgerSums entry.file.ledger) := by
  have shrinks := @Sums.effective_le_of_restored (ledgerSums entry.file.ledger)
    record.amountMinor
  rw [← restores] at shrinks
  constructor
  · intro covers
    exact ⟨covers.1, covers.2.trans shrinks⟩
  · intro covers
    refine ⟨covers.1, ?_⟩
    by_contra short
    have state := follows.state
    rw [if_pos covers] at state
    obtain ⟨row, member, moved⟩ := follows.moved covers
    unfold restoredRow at unrestored
    rw [if_pos ⟨restores, state, by
      rw [follows.total, GatewayFile.totals_rows, Sums.totals_add, next.effective]
      omega, follows.own⟩] at unrestored
    unfold replacedRow at unrestored
    rw [List.find?_eq_none] at unrestored
    exact unrestored row (List.mem_reverse.mpr (GatewayFile.mem_rows.mpr member)) moved

/-- A canceled reversal takes the move back when the total is no longer covered. -/
theorem Follows.restore_state (follows : Follows start entry)
    (next : ((ledgerSums entry.file.ledger).add record.status record.amountMinor).Fits)
    (restores : record.status = .canceledReversal) :
    (restoreChange entry.book.order entry.file record now).state =
      if start.covered ((ledgerSums entry.file.ledger).add record.status record.amountMinor)
        then .refundedExternal else start.book.order.state := by
  have reads : (restoreChange entry.book.order entry.file record now).state =
      ((restoredRow entry.book.order entry.file record).bind LedgerRow.fromState).getD
        entry.book.order.state := by
    simp only [restoreChange, restoredRow, replacedRow, follows.own, restores, Bool.not_false,
      Bool.and_true, Bool.and_eq_true, beq_iff_eq, decide_eq_true_eq, true_and, and_true]
    split <;> rfl
  rw [reads]
  cases restored : restoredRow entry.book.order entry.file record with
  | some row =>
      obtain ⟨-, kept, uncovered⟩ := follows.restoredRow_some next restored
      rw [if_neg uncovered]
      simp [kept]
  | none =>
      have same := follows.restoredRow_none next restores restored
      simp only [Option.bind_none, Option.getD_none, follows.state, same]

theorem orderChange_taken {order : Order} {file : GatewayFile}
    (taken : record.status ≠ .canceledReversal) :
    orderChange order file record now = refundChange order file record now := by
  unfold orderChange
  cases status : record.status with
  | refunded | reversed => rfl
  | canceledReversal => exact (taken status).elim

theorem orderChange_restored {order : Order} {file : GatewayFile}
    (restores : record.status = .canceledReversal) :
    orderChange order file record now = restoreChange order file record now := by
  unfold orderChange
  rw [restores]

theorem Follows.change_state (follows : Follows start entry)
    (next : ((ledgerSums entry.file.ledger).add record.status record.amountMinor).Fits) :
    (orderChange entry.book.order entry.file record now).state =
      if start.covered ((ledgerSums entry.file.ledger).add record.status record.amountMinor)
        then .refundedExternal else start.book.order.state := by
  by_cases restores : record.status = .canceledReversal
  · rw [orderChange_restored restores]
    exact follows.restore_state next restores
  · rw [orderChange_taken restores]
    exact (follows.refund_state next restores).1

theorem Follows.running (follows : Follows start entry) (effective : ℤ) (txn : String) :
    runningRefund entry.book.order effective txn =
      runningRefund start.book.order effective txn := by
  unfold runningRefund
  rw [follows.total]

theorem Follows.change_refund (follows : Follows start entry)
    (next : ((ledgerSums entry.file.ledger).add record.status record.amountMinor).Fits) :
    (orderChange entry.book.order entry.file record now).externalRefund = none ∧
        ((ledgerSums entry.file.ledger).add record.status record.amountMinor).effective = 0 ∨
      ∃ txn, (txn = record.txnId ∨ ∃ row ∈ entry.file.ledger, txn = row.refundTxnId) ∧
        (orderChange entry.book.order entry.file record now).externalRefund =
          runningRefund start.book.order
            ((ledgerSums entry.file.ledger).add record.status record.amountMinor).effective
            txn := by
  have returned := next.effective
  unfold orderChange
  cases status : record.status with
  | refunded =>
      rw [status] at returned
      refine .inr ⟨record.txnId, .inl rfl, ?_⟩
      simp [refundChange, follows.own, follows.running, status, returned]
  | reversed =>
      rw [status] at returned
      refine .inr ⟨record.txnId, .inl rfl, ?_⟩
      simp [refundChange, follows.own, follows.running, status, returned]
  | canceledReversal =>
      rw [status] at returned
      simp only [restoreChange, follows.own, follows.running, status, GatewayFile.totals_rows,
        Sums.totals_add, returned, Bool.false_eq_true, if_false]
      rcases Nat.eq_zero_or_pos ((ledgerSums entry.file.ledger).add .canceledReversal
        record.amountMinor).effective with nothing | positive
      · exact .inl ⟨by simp [runningRefund, nothing], nothing⟩
      · have before := ledgerSums_effective_pos
          (Nat.lt_of_lt_of_le positive Sums.effective_le_of_restored)
        obtain ⟨row, member, shown⟩ := @latestRefund_mem entry.file.rows record
          (by simpa only [GatewayFile.mem_rows] using before)
        exact .inr ⟨_, .inr ⟨row, GatewayFile.mem_rows.mp member, shown⟩, rfl⟩

theorem orderChange_reversed {order : Order} {file : GatewayFile}
    (next : ((ledgerSums file.ledger).add record.status record.amountMinor).Fits)
    (before : file.paymentReversedAt.isSome = true ↔
      0 < (ledgerSums file.ledger).outstandingReversal) :
    (orderChange order file record now).reversedAt.isSome = true ↔
      0 < ((ledgerSums file.ledger).add record.status record.amountMinor).outstandingReversal := by
  have outstanding := next.outstandingReversal
  unfold orderChange
  cases status : record.status with
  | refunded =>
      simpa [refundChange, status, Sums.add, Sums.outstandingReversal] using before
  | reversed =>
      rw [status] at outstanding
      simp only [refundChange, status, GatewayFile.totals_rows, Sums.totals_add, outstanding,
        Int.natCast_pos, if_true]
      split
      · simpa
      · rename_i nothing
        simpa using nothing
  | canceledReversal =>
      rw [status] at outstanding
      simp only [restoreChange, status, GatewayFile.totals_rows, Sums.totals_add, outstanding,
        Int.natCast_eq_zero]
      split
      · rename_i nothing
        simp [nothing]
      · rename_i standing
        have positive : 0 < (ledgerSums file.ledger).outstandingReversal := by
          simp only [Sums.add, Sums.outstandingReversal] at standing ⊢
          omega
        simp only [before.mpr positive, true_iff]
        omega

theorem Follows.change_from (follows : Follows start entry)
    (next : ((ledgerSums entry.file.ledger).add record.status record.amountMinor).Fits)
    {state : OrderState}
    (moved : (orderChange entry.book.order entry.file record now).fromState = some state) :
    state = start.book.order.state ∧
      start.covered ((ledgerSums entry.file.ledger).add record.status record.amountMinor) ∧
      ¬ start.covered (ledgerSums entry.file.ledger) := by
  by_cases restores : record.status = .canceledReversal
  · rw [orderChange_restored restores] at moved
    cases moved
  · rw [orderChange_taken restores, (follows.refund_state next restores).2] at moved
    split at moved
    · rename_i crossed
      cases moved
      exact ⟨rfl, crossed⟩
    · cases moved

theorem Follows.change_crosses (follows : Follows start entry)
    (next : ((ledgerSums entry.file.ledger).add record.status record.amountMinor).Fits)
    (covers : start.covered
      ((ledgerSums entry.file.ledger).add record.status record.amountMinor))
    (uncovered : ¬ start.covered (ledgerSums entry.file.ledger)) :
    (orderChange entry.book.order entry.file record now).fromState =
      some start.book.order.state := by
  by_cases restores : record.status = .canceledReversal
  · have shrinks := @Sums.effective_le_of_restored (ledgerSums entry.file.ledger)
      record.amountMinor
    rw [← restores] at shrinks
    exact (uncovered ⟨covers.1, covers.2.trans shrinks⟩).elim
  · rw [orderChange_taken restores, (follows.refund_state next restores).2,
      if_pos ⟨covers, uncovered⟩]

theorem Follows.change_returned (follows : Follows start entry)
    (next : ((ledgerSums entry.file.ledger).add record.status record.amountMinor).Fits) :
    (entry.nextReturn (orderChange entry.book.order entry.file record now)
        (restoredRow entry.book.order entry.file record) now).map ReturnRequest.state =
      if start.covered ((ledgerSums entry.file.ledger).add record.status record.amountMinor)
        then start.returnRequest.map fun _ => .refunded
        else start.returnRequest.map ReturnRequest.state := by
  have before := follows.returned
  have present : entry.returnRequest.isSome = start.returnRequest.isSome := by
    have sizes := congrArg Option.isSome before
    split at sizes <;> simpa using sizes
  unfold GatewayOrder.nextReturn
  cases moved : (orderChange entry.book.order entry.file record now).fromState with
  | some state =>
      obtain ⟨-, covers, -⟩ := follows.change_from next moved
      rw [if_pos covers]
      cases request : entry.returnRequest <;> cases first : start.returnRequest <;>
        simp_all [setReturnState]
  | none =>
      simp only [Option.isSome_none, Bool.false_eq_true, if_false]
      cases restored : restoredRow entry.book.order entry.file record with
      | some row =>
          obtain ⟨member, kept, uncovered⟩ := follows.restoredRow_some next restored
          have replaced := (follows.replaced row member _ kept).2
          rw [if_neg uncovered]
          simp only [Option.bind_some, replaced, Option.join_some]
          cases request : entry.returnRequest <;> cases first : start.returnRequest <;>
            simp_all [setReturnState]
      | none =>
          simp only [Option.bind_none, Option.join_none, before]
          have same : start.covered
              ((ledgerSums entry.file.ledger).add record.status record.amountMinor) ↔
              start.covered (ledgerSums entry.file.ledger) := by
            by_cases restores : record.status = .canceledReversal
            · exact follows.restoredRow_none next restores restored
            · have grows := @Sums.effective_le_of_taken (ledgerSums entry.file.ledger)
                record.status record.amountMinor restores
              constructor
              · intro covers
                by_contra uncovered
                rw [follows.change_crosses next covers uncovered] at moved
                cases moved
              · intro covers
                exact ⟨covers.1, covers.2.trans grows⟩
          simp only [same]

theorem Order.checks_refunded {order : Order} (stored : order.checks = true) (revision : ℕ)
    (state : OrderState) {refund : Option ExternalRefund}
    (within : ∀ recorded ∈ refund, 0 < recorded.amountMinor ∧
      recorded.amountMinor ≤ order.totalMinor) :
    ({ order with revision := revision, state := state, externalRefund := refund } :
      Order).checks = true := by
  simp only [Order.checks, Bool.and_eq_true] at stored ⊢
  refine ⟨⟨stored.1.1, ?_⟩, stored.2⟩
  rw [Option.all_eq_true]
  intro recorded shown
  have bounds := within recorded shown
  simp only [Bool.and_eq_true, decide_eq_true_eq]
  exact ⟨bounds.1, bounds.2.trans (le_max_left _ _)⟩

theorem runningRefund_within {order : Order} (priced : 0 < order.totalMinor) {effective : ℕ}
    {txn : String} {recorded : ExternalRefund}
    (shown : recorded ∈ runningRefund order effective txn) :
    0 < recorded.amountMinor ∧ recorded.amountMinor ≤ order.totalMinor := by
  rw [runningRefund_cast] at shown
  split at shown
  · rename_i positive
    cases shown
    exact ⟨lt_min positive priced, min_le_right _ _⟩
  · cases shown

def ledgerRow (record : GatewayRecord) (now : Time) (fromState : Option OrderState) : LedgerRow :=
  { refundTxnId := record.txnId
    paymentStatus := record.status
    amountMinor := record.amountMinor
    recordedAt := now
    fromState := fromState }

theorem recordOnOrder_records {entry : GatewayOrder}
    (fresh : ∀ row ∈ entry.file.ledger, row.refundTxnId ≠ record.txnId)
    (checked : ({ entry.book.order with
      revision := entry.book.order.revision + 1
      state := (orderChange entry.book.order entry.file record now).state
      externalRefund := (orderChange entry.book.order entry.file record now).externalRefund } :
        Order).checks = true) :
    ∃ effect after, entry.recordOnOrder record now = .ok (.applied effect, after) ∧
      after.book = { entry.book with
        order := { entry.book.order with
          revision := entry.book.order.revision + 1
          state := (orderChange entry.book.order entry.file record now).state
          externalRefund :=
            (orderChange entry.book.order entry.file record now).externalRefund } } ∧
      (after.receiverEmail = entry.receiverEmail ∧ after.receiverId = entry.receiverId ∧
        after.file.paypalTxnId = entry.file.paypalTxnId) ∧
      after.file.ledger = entry.file.ledger ++ [ledgerRow record now
        (orderChange entry.book.order entry.file record now).fromState] ∧
      after.file.paymentReversedAt =
        (orderChange entry.book.order entry.file record now).reversedAt ∧
      after.returnRequest = entry.nextReturn
        (orderChange entry.book.order entry.file record now)
        (restoredRow entry.book.order entry.file record) now ∧
      after.fromReturnStates =
        if (orderChange entry.book.order entry.file record now).fromState.isSome then
          entry.fromReturnStates.set record.txnId (entry.returnRequest.map ReturnRequest.state)
        else entry.fromReturnStates := by
  have unrecorded : entry.file.rows.any (·.refundTxnId == record.txnId) = false := by
    rw [GatewayFile.any_rows, Bool.eq_false_iff]
    simpa using fresh
  have observed : entry.book.order.keepsObserved { entry.book.order with
      revision := entry.book.order.revision + 1
      state := (orderChange entry.book.order entry.file record now).state
      externalRefund := (orderChange entry.book.order entry.file record now).externalRefund } =
        true := by
    simp [Order.keepsObserved]
  unfold GatewayOrder.recordOnOrder MarketplaceService.recordOnOrder OrderBook.updateOrder
  simp only [unrecorded, observed, checked, Bool.false_eq_true, Bool.not_true, if_false]
  exact ⟨_, _, rfl, rfl, ⟨rfl, rfl, rfl⟩, rfl, rfl, rfl, rfl⟩

/-- One more notification keeps the order beside its ledger. -/
theorem Follows.recorded (follows : Follows start entry)
    (next : ((ledgerSums entry.file.ledger).add record.status record.amountMinor).Fits)
    (stored : start.book.order.checks = true) (priced : 0 < start.book.order.totalMinor)
    (fresh : ∀ row ∈ entry.file.ledger, row.refundTxnId ≠ record.txnId) :
    ∃ effect after fromState, entry.recordOnOrder record now = .ok (.applied effect, after) ∧
      Follows start after ∧
      after.file.ledger = entry.file.ledger ++ [ledgerRow record now fromState] := by
  obtain ⟨revision, state, refund, shape⟩ := follows.order
  have checked : ({ entry.book.order with
      revision := entry.book.order.revision + 1
      state := (orderChange entry.book.order entry.file record now).state
      externalRefund := (orderChange entry.book.order entry.file record now).externalRefund } :
        Order).checks = true := by
    have within : ∀ recorded ∈
        (orderChange entry.book.order entry.file record now).externalRefund,
        0 < recorded.amountMinor ∧ recorded.amountMinor ≤ start.book.order.totalMinor := by
      intro recorded shown
      rcases @Follows.change_refund start entry record now follows next with
        ⟨unrecorded, -⟩ | ⟨txn, -, running⟩
      · rw [unrecorded] at shown
        cases shown
      · rw [running] at shown
        exact runningRefund_within priced shown
    have written := Order.checks_refunded stored (entry.book.order.revision + 1)
      (orderChange entry.book.order entry.file record now).state within
    rw [shape] at written ⊢
    exact written
  obtain ⟨effect, after, ran, book, snapshot, ledger, reversed, returned, states⟩ :=
    recordOnOrder_records fresh checked
  have sums : ledgerSums after.file.ledger =
      (ledgerSums entry.file.ledger).add record.status record.amountMinor := by
    rw [ledger, ledgerSums_snoc]
    rfl
  refine ⟨effect, after, _, ran, ?_, ledger⟩
  refine ⟨?_, ?_, by rw [sums]; exact next, ?_, ?_, ?_, ?_, ?_, ?_⟩
  · exact ⟨_, _, _, by rw [book, shape]⟩
  · obtain ⟨email, id, payment⟩ := snapshot
    rw [email, id, payment]
    exact follows.snapshot
  · rw [sums, book]
    exact follows.change_state next
  · intro row member state kept
    rw [ledger] at member
    rcases List.mem_append.mp member with earlier | latest
    · have replaced := follows.replaced row earlier state kept
      refine ⟨replaced.1, ?_⟩
      rw [states]
      split
      · rw [Keyed.Table.find?_set_ne _ _ (fresh row earlier)]
        exact replaced.2
      · exact replaced.2
    · rw [List.mem_singleton] at latest
      subst latest
      obtain ⟨first, -, uncovered⟩ := follows.change_from next kept
      have before := follows.returned
      rw [if_neg uncovered] at before
      have moves : (orderChange entry.book.order entry.file record now).fromState.isSome = true :=
        Option.isSome_iff_exists.mpr ⟨state, kept⟩
      rw [states, if_pos moves]
      exact ⟨first, by rw [← before]; exact Keyed.Table.find?_set_self _ _ _⟩
  · intro covers
    rw [sums] at covers
    by_cases before : start.covered (ledgerSums entry.file.ledger)
    · obtain ⟨row, member, moved⟩ := follows.moved before
      exact ⟨row, by rw [ledger]; exact List.mem_append_left _ member, moved⟩
    · refine ⟨ledgerRow record now
        (orderChange entry.book.order entry.file record now).fromState, by simp [ledger], ?_⟩
      exact Option.isSome_iff_exists.mpr ⟨_, follows.change_crosses next covers before⟩
  · rw [sums, ledger, book]
    rcases @Follows.change_refund start entry record now follows next with
      nothing | ⟨txn, source, running⟩
    · exact .inl nothing
    · refine .inr ?_
      rcases source with own | ⟨row, member, shown⟩
      · exact ⟨ledgerRow record now _, List.mem_append_right _ (List.mem_singleton_self _),
          by rw [running, own]; rfl⟩
      · exact ⟨row, List.mem_append_left _ member, by rw [running, shown]⟩
  · rw [sums, reversed]
    exact orderChange_reversed next follows.reversed
  · rw [sums, returned]
    exact follows.change_returned next

end Recording

/-! Sequences of notifications. -/

def GatewayOrder.recordAll (entry : GatewayOrder) :
    List (GatewayRecord × Time) → Except Failure GatewayOrder
  | [] => .ok entry
  | notice :: rest => do
      let (_, written) ← entry.recordOnOrder notice.1 notice.2
      written.recordAll rest

/-- What the notifications of one kind returned or restored. -/
def recordedSum (status : GatewayStatus) (records : List GatewayRecord) : ℕ :=
  ((records.filter (·.status == status)).map GatewayRecord.amountMinor).sum

def effectiveRefund (records : List GatewayRecord) : ℕ :=
  recordedSum .refunded records +
    (recordedSum .reversed records - recordedSum .canceledReversal records)

def LedgerRow.shows (row : LedgerRow) (record : GatewayRecord) : Prop :=
  row.refundTxnId = record.txnId ∧ row.paymentStatus = record.status ∧
    row.amountMinor = record.amountMinor

theorem ledgerSums_of_shows {ledger : List LedgerRow} {records : List GatewayRecord}
    (shown : List.Forall₂ LedgerRow.shows ledger records) (sums : Sums) :
    ledger.foldl (fun sums row => sums.add row.paymentStatus row.amountMinor) sums =
      ⟨sums.refunded + recordedSum .refunded records,
        sums.reversed + recordedSum .reversed records,
        sums.restored + recordedSum .canceledReversal records⟩ := by
  induction shown generalizing sums with
  | nil => simp [recordedSum]
  | @cons row record ledger records first rest ih =>
      obtain ⟨-, status, amount⟩ := first
      rw [List.foldl_cons, ih, status, amount]
      cases kind : record.status <;> simp [recordedSum, Sums.add, kind, Nat.add_assoc]

/-- What a sequence of notifications adds up to. -/
def recordSums (records : List GatewayRecord) : Sums :=
  { refunded := recordedSum .refunded records
    reversed := recordedSum .reversed records
    restored := recordedSum .canceledReversal records }

theorem ledgerSums_shown {ledger : List LedgerRow} {records : List GatewayRecord}
    (shown : List.Forall₂ LedgerRow.shows ledger records) :
    ledgerSums ledger = recordSums records := by
  unfold ledgerSums
  rw [ledgerSums_of_shows shown]
  simp only [Nat.zero_add, recordSums]

theorem effective_of_shows {ledger : List LedgerRow} {records : List GatewayRecord}
    (shown : List.Forall₂ LedgerRow.shows ledger records) :
    (ledgerSums ledger).effective = effectiveRefund records ∧
      (ledgerSums ledger).outstandingReversal =
        recordedSum .reversed records - recordedSum .canceledReversal records := by
  rw [ledgerSums_shown shown]
  exact ⟨rfl, rfl⟩

theorem Follows.begin {start : GatewayOrder} (priced : 0 < start.book.order.totalMinor)
    (unnotified : start.file.ledger = []) (unmarked : start.file.paymentReversedAt = none)
    (unrecorded : start.book.order.externalRefund = none) : Follows start start := by
  have nothing : (ledgerSums start.file.ledger).effective = 0 := by
    rw [unnotified]
    rfl
  have uncovered : ¬ start.covered (ledgerSums start.file.ledger) := by
    intro covers
    have full := covers.2
    rw [nothing] at full
    omega
  refine ⟨⟨_, _, _, rfl⟩, ⟨rfl, rfl, rfl⟩, by rw [unnotified]; decide,
    by rw [if_neg uncovered], ?_, fun covers => (uncovered covers).elim,
    .inl ⟨unrecorded, nothing⟩, ?_, by rw [if_neg uncovered]⟩
  · intro row member
    rw [unnotified] at member
    cases member
  · rw [unmarked, unnotified]
    decide

/-- After each of the notifications the sums fit an `i64`. -/
def SumsFit : Sums → List GatewayRecord → Prop
  | _, [] => True
  | sums, record :: rest =>
      (sums.add record.status record.amountMinor).Fits ∧
        SumsFit (sums.add record.status record.amountMinor) rest

theorem Follows.recordAll {start entry : GatewayOrder} (follows : Follows start entry)
    (stored : start.book.order.checks = true) (priced : 0 < start.book.order.totalMinor)
    (notices : List (GatewayRecord × Time))
    (distinct : (notices.map fun notice => notice.1.txnId).Nodup)
    (fresh : ∀ notice ∈ notices, ∀ row ∈ entry.file.ledger,
      row.refundTxnId ≠ notice.1.txnId)
    (fit : SumsFit (ledgerSums entry.file.ledger) (notices.map Prod.fst)) :
    ∃ after rows, entry.recordAll notices = .ok after ∧ Follows start after ∧
      after.file.ledger = entry.file.ledger ++ rows ∧
      List.Forall₂ LedgerRow.shows rows (notices.map Prod.fst) := by
  induction notices generalizing entry with
  | nil => exact ⟨entry, [], rfl, follows, by simp, .nil⟩
  | cons notice rest ih =>
      simp only [List.map_cons, List.nodup_cons] at distinct
      obtain ⟨effect, written, fromState, ran, kept, ledger⟩ :=
        @Follows.recorded start entry notice.1 notice.2 follows fit.1 stored priced
          (fresh notice List.mem_cons_self)
      have later : SumsFit (ledgerSums written.file.ledger) (rest.map Prod.fst) := by
        rw [ledger, ledgerSums_snoc]
        exact fit.2
      obtain ⟨after, rows, rest_ran, stays, appended, shown⟩ := ih kept distinct.2 (by
        intro other member row present
        rw [ledger] at present
        rcases List.mem_append.mp present with earlier | latest
        · exact fresh other (List.mem_cons_of_mem _ member) row earlier
        · rw [List.mem_singleton.mp latest]
          intro same
          exact distinct.1 (List.mem_map.mpr ⟨other, member, same.symm⟩)) later
      refine ⟨after, ledgerRow notice.1 notice.2 fromState :: rows, ?_, stays, ?_, ?_⟩
      · unfold GatewayOrder.recordAll
        rw [ran]
        exact rest_ran
      · rw [appended, ledger, List.append_assoc]
        rfl
      · exact .cons ⟨rfl, rfl, rfl⟩ shown

structure LedgerLaw (start : GatewayOrder) (records : List GatewayRecord)
    (after : GatewayOrder) : Prop where
  state : after.book.order.state =
    if start.book.order.totalMinor ≤ effectiveRefund records then .refundedExternal
    else start.book.order.state
  returned : after.returnRequest.map ReturnRequest.state =
    if start.book.order.totalMinor ≤ effectiveRefund records then
      start.returnRequest.map fun _ => .refunded
    else start.returnRequest.map ReturnRequest.state
  unreturned : effectiveRefund records = 0 → after.book.order.externalRefund = none
  refund : 0 < effectiveRefund records → ∃ row ∈ after.file.ledger,
    after.book.order.externalRefund = some
      { amountMinor := min (effectiveRefund records) start.book.order.totalMinor
        reference := row.refundTxnId }
  reversed : after.file.paymentReversedAt.isSome = true ↔
    recordedSum .canceledReversal records < recordedSum .reversed records

theorem Follows.law {start after : GatewayOrder} (follows : Follows start after)
    (source : start.book.order.state ∈ fullRefundSources) {records : List GatewayRecord}
    (shown : List.Forall₂ LedgerRow.shows after.file.ledger records) :
    LedgerLaw start records after := by
  obtain ⟨effective, outstanding⟩ := effective_of_shows shown
  have covers : start.covered (ledgerSums after.file.ledger) ↔
      start.book.order.totalMinor ≤ effectiveRefund records := by
    unfold GatewayOrder.covered
    rw [effective]
    exact and_iff_right source
  have refund := follows.refund
  rw [effective] at refund
  refine ⟨?_, ?_, ?_, ?_, ?_⟩
  · simp only [follows.state, covers]
  · simp only [follows.returned, covers]
  · intro nothing
    rcases refund with ⟨unrecorded, -⟩ | ⟨row, -, running⟩
    · exact unrecorded
    · rw [running, nothing]
      rfl
  · intro returned
    rcases refund with ⟨-, nothing⟩ | ⟨row, member, running⟩
    · omega
    · exact ⟨row, member, by rw [running, runningRefund_cast, if_pos returned]⟩
  · rw [follows.reversed, outstanding]
    omega

/-- An order whose payment is confirmed follows its gateway's ledger: through
any sequence of refunds, reversals and canceled reversals whose sums fit an
`i64`, each recorded at any time, it is refunded exactly while they cover its
total, and is otherwise as it was. -/
theorem refund_ledger_law (start : GatewayOrder)
    (source : start.book.order.state ∈ fullRefundSources)
    (stored : start.book.order.checks = true) (priced : 0 < start.book.order.totalMinor)
    (unnotified : start.file.ledger = []) (unmarked : start.file.paymentReversedAt = none)
    (unrecorded : start.book.order.externalRefund = none)
    (notices : List (GatewayRecord × Time))
    (distinct : (notices.map fun notice => notice.1.txnId).Nodup)
    (fit : SumsFit ⟨0, 0, 0⟩ (notices.map Prod.fst)) :
    ∃ after, start.recordAll notices = .ok after ∧
      LedgerLaw start (notices.map Prod.fst) after := by
  obtain ⟨after, rows, ran, follows, ledger, shown⟩ :=
    (Follows.begin priced unnotified unmarked unrecorded).recordAll stored priced notices distinct
      (by
        intro notice member row present
        rw [unnotified] at present
        cases present)
      (by
        rw [unnotified]
        exact fit)
  rw [unnotified, List.nil_append] at ledger
  exact ⟨after, ran, follows.law source (ledger ▸ shown)⟩

/-- A lamp that came back to its seller, before PayPal says anything. -/
def returnedLamp : GatewayOrder :=
  { book := newBook {
      newOrder 1 "buyer" "seller" [⟨"lamp", 1, none, Nat.one_pos⟩] 100 "USD" 2 .shipping 0 with
      state := .returnReceived
      paymentMethod := some .paypal } false
    file := { paypalTxnId := some "PAY" }
    receiverEmail := some "seller@example.com"
    receiverId := none
    returnRequest := some { state := .received, updatedAt := 7 }
    fromReturnStates := .empty }

/-- A partial refund, a reversal that covers the rest, and its cancellation. -/
def returnedLampNotices : List (GatewayRecord × Time) :=
  [ ({ txnId := "R1", parentTxnId := "PAY", status := .refunded, amountMinor := 40 }, 10)
  , ({ txnId := "R2", parentTxnId := "PAY", status := .reversed, amountMinor := 60 }, 11)
  , ({ txnId := "R3", parentTxnId := "PAY", status := .canceledReversal, amountMinor := 60 }, 11) ]

theorem returned_lamp_restored :
    effectiveRefund (returnedLampNotices.map Prod.fst) = 40 ∧
      ∃ after, returnedLamp.recordAll returnedLampNotices = .ok after ∧
        LedgerLaw returnedLamp (returnedLampNotices.map Prod.fst) after :=
  ⟨by decide, refund_ledger_law returnedLamp (by decide) (by decide) (by decide) rfl rfl rfl
    returnedLampNotices (by decide) ⟨by decide, by decide, by decide, trivial⟩⟩

/-- Two refunds that the parser takes, the second of one minor unit. -/
def largestRefundNotices : List (GatewayRecord × Time) :=
  [ ({ txnId := "R1", parentTxnId := "PAY", status := .refunded, amountMinor := i64Max }, 10)
  , ({ txnId := "R2", parentTxnId := "PAY", status := .refunded, amountMinor := 1 }, 11) ]

/-- Their sum wraps below zero, and the refunded order shows no refund. -/
theorem largest_refund_disappears :
    returnedLamp.book.order.state ∈ fullRefundSources ∧
      returnedLamp.book.order.checks = true ∧ 0 < returnedLamp.book.order.totalMinor ∧
      returnedLamp.file.ledger = [] ∧ returnedLamp.book.order.externalRefund = none ∧
      (largestRefundNotices.map fun notice => notice.1.txnId).Nodup ∧
      (∀ notice ∈ largestRefundNotices, 0 < notice.1.amountMinor ∧
        notice.1.amountMinor ≤ i64Max) ∧
      ∃ after, returnedLamp.recordAll largestRefundNotices = .ok after ∧
        after.book.order.externalRefund = none ∧
        ¬ LedgerLaw returnedLamp (largestRefundNotices.map Prod.fst) after := by
  refine ⟨by decide, by decide, by decide, rfl, rfl, by decide, by decide, ?_⟩
  obtain ⟨after, ran, unrecorded⟩ :
      ∃ after ∈ (returnedLamp.recordAll largestRefundNotices).toOption,
        after.book.order.externalRefund = none := by
    decide +kernel
  refine ⟨after, Outcome.toOption_some ran, unrecorded, fun law => ?_⟩
  obtain ⟨row, -, shown⟩ := law.refund (by decide)
  rw [unrecorded] at shown
  cases shown

end MarketplaceService
