import MarketplaceService.LateCompletion
import MarketplaceService.Simulation

/-!
The amount law of Paykit reports. An on-time report compares its amounts before
it confirms. The late fork stands in front of the comparison, so a late report
of the wrong amount completes the order whenever its stock can be taken again.
-/

namespace MarketplaceService

/-- A report of a wrong amount did no more than it may: no receipt, no paid
state, and the payment in review or as it was. -/
structure AmountKept (view after : View) : Prop where
  receipt : after.book.receipt = view.book.receipt
  state : after.book.order.state = view.book.order.state ∨ after.book.order.state = .cancelled
  payment : after.book.payment.state = view.book.payment.state ∨
    after.book.payment.state = .manualReview

theorem AmountKept.refl (view : View) : AmountKept view view := ⟨rfl, .inl rfl, .inl rfl⟩

/-- The late fork is taken on an order without its hold, and the stock is free
again. -/
structure TakesStockLate (view : View) (row : ClaimedPaykitOrder) (lateSettlement : Bool) :
    Prop where
  outside : view.book.order.paykitRequestState ≠ some .awaitingSellerConfirmation
  late : view.book.payment.state = .expired ∨
    lateSettlement = true ∧ view.book.payment.state = .awaitingEntitlement
  pinned : row.pinsPresent = true
  deliverable : unpinnable view.inventory view.book.order = false
  unheld : ¬ (view.book.order.state = .pendingPayment ∧ view.book.order.stockHeld = true)
  stock : Retakeable view.inventory view.book.order

section Late

variable {view after : View} {now : Time}

theorem stampReviewReason_kept {reason : ReviewReason}
    (stamped : stampReviewReason view reason now = .ok after) : AmountKept view after := by
  obtain ⟨-, -, rfl⟩ := stampReviewReason_ok stamped
  exact ⟨rfl, .inl rfl, .inr rfl⟩

theorem refundRequired_kept {order : Order} {reason : String}
    (routed : refundRequired view order reason now = .ok after) : AmountKept view after := by
  obtain ⟨-, -, book, -⟩ := refundRequired_ok routed
  refine ⟨by rw [book], ?_, .inr (by rw [book]; rfl)⟩
  rw [book]
  by_cases pending : order.state = .pendingPayment
  · simp only [pending, if_true]
    unfold cancelPending
    split
    · exact .inr rfl
    · exact .inl rfl
  · simp only [pending, if_false]
    exact .inl trivial

theorem applyLateMoney_kept_iff {outcome : LateMoneyOutcome}
    (applied : applyLateMoney view view.book.order now = .ok (outcome, after)) :
    AmountKept view after ↔
      ¬ (unpinnable view.inventory view.book.order = false ∧
        ¬ (view.book.order.state = .pendingPayment ∧ view.book.order.stockHeld = true) ∧
        Retakeable view.inventory view.book.order) := by
  obtain ⟨-, routes⟩ := applyLateMoney_ok applied
  rcases routes with ⟨-, undeliverable, routed⟩ | ⟨-, -, pending, stocked, stamped⟩ |
    ⟨deliverable, unheld, result, held, ran, ends⟩
  · refine iff_of_true (refundRequired_kept routed) ?_
    rintro ⟨deliverable, -⟩
    rw [undeliverable] at deliverable
    cases deliverable
  · refine iff_of_true (stampReviewReason_kept stamped) ?_
    exact fun completes => completes.2.1 ⟨pending, stocked⟩
  · obtain ⟨stock, book⟩ := reacquireHold_book ran
    have retakes : result = .ok () ↔ Retakeable view.inventory view.book.order := by
      rw [← reacquireStock_ok_iff view.inventory view.book.order now, stock]
    rcases ends with ⟨-, taken, completed⟩ | ⟨-, lost, routed⟩
    · refine iff_of_false ?_ fun refused => refused ⟨deliverable, unheld, retakes.mp taken⟩
      intro kept
      obtain ⟨-, -, -, confirmed⟩ := completeLateOrder_ok completed
      obtain ⟨-, -, unpaid, edition, inventory, -, rfl⟩ := confirmOrder_ok confirmed
      have receipt : held.book.receipt = view.book.receipt := by
        rcases book with ⟨-, -, same⟩ | ⟨-, same⟩ <;> rw [same]
      have none_before : view.book.receipt = none := receipt.symm.trans unpaid
      have issued := kept.receipt
      rw [none_before] at issued
      cases issued
    · have same : held.book = view.book := by
        rcases book with ⟨taken, -⟩ | ⟨-, same⟩
        · rw [lost] at taken
          cases taken
        · exact same
      have kept := refundRequired_kept routed
      refine iff_of_true ⟨?_, ?_, ?_⟩ ?_
      · rw [← same]
        exact kept.receipt
      · rw [← same]
        exact kept.state
      · rw [← same]
        exact kept.payment
      · rintro ⟨-, -, retakeable⟩
        have taken := retakes.mpr retakeable
        rw [lost] at taken
        cases taken

theorem consumeReport_kept {book consumed : OrderBook} {report : Option Observation}
    {observation : PaykitObservation} (ran : consumeReport book report observation = .ok consumed) :
    consumed.receipt = book.receipt ∧ consumed.order.state = book.order.state ∧
      consumed.payment = book.payment := by
  obtain ⟨stored, observed, rfl, -⟩ := consumeReport_ok ran
  exact ⟨rfl, rfl, rfl⟩

end Late

theorem applyOnTimePaykitPayment_mismatch {view : View} {amountMatched : Bool}
    {observation : PaykitObservation} {now : Time} {result : SettleResult}
    (mismatch : amountMatched = false ∨
      observedAmountMismatch view.book.order observation = true)
    (ran : applyOnTimePaykitPayment view amountMatched observation now = .ok result) :
    ∃ after, result = .done after ∧ AmountKept view after := by
  have reviews {report : Option Observation} {book reviewed : OrderBook}
      (first : reviewAmountMismatch view.book now = .ok reviewed)
      (second : consumeReport reviewed report observation = .ok book) :
      AmountKept view { view with book := book } := by
    obtain ⟨rfl, -⟩ := updatePayment_ok first
    obtain ⟨receipt, state, payment⟩ := consumeReport_kept second
    refine ⟨receipt, .inl state, .inr ?_⟩
    rw [payment]
  unfold applyOnTimePaykitPayment at ran
  simp only at ran
  split at ran
  · obtain ⟨reviewed, first, rest⟩ := Outcome.bind_ok ran
    obtain ⟨book, second, written⟩ := Outcome.bind_ok rest
    cases Outcome.pure_ok written
    exact ⟨_, rfl, reviews first second⟩
  · rename_i matched
    have differs : observedAmountMismatch view.book.order observation = true :=
      mismatch.resolve_left fun unmatched => matched (by simp [unmatched])
    rw [if_pos differs] at ran
    obtain ⟨reviewed, first, rest⟩ := Outcome.bind_ok ran
    obtain ⟨book, second, written⟩ := Outcome.bind_ok rest
    cases Outcome.pure_ok written
    exact ⟨_, rfl, reviews first second⟩

/-- A committed report of a wrong amount keeps to the amount law exactly when
the late fork does not take the order's stock again. -/
theorem amount_law_kept_iff (view : View) (row : ClaimedPaykitOrder) (amountMatched late : Bool)
    (observation : PaykitObservation) (now : Time) (result : SettleResult)
    (mismatch : amountMatched = false ∨
      observedAmountMismatch view.book.order observation = true)
    (committed : applyConfirmedPaykitPayment view row amountMatched observation late now =
      .ok result) :
    ∃ after, result = .done after ∧
      (AmountKept view after ↔ ¬ TakesStockLate view row late) := by
  unfold applyConfirmedPaykitPayment at committed
  split at committed
  · rename_i window
    cases committed
    exact ⟨view, rfl, iff_of_true (.refl view) fun takes => takes.outside window⟩
  · rename_i outside
    split at committed
    · rename_i open_payment
      obtain ⟨after, ran, written⟩ := Outcome.bind_ok committed
      cases Outcome.pure_ok written
      refine ⟨after, rfl, ?_⟩
      unfold applyLatePaykitPayment at ran
      split at ran
      · rename_i unpinned
        cases ran
        refine iff_of_true (.refl view) fun takes => ?_
        simp [takes.pinned] at unpinned
      · rename_i pinned
        obtain ⟨book, consumed, rest⟩ := Outcome.bind_ok ran
        obtain ⟨⟨outcome, settled⟩, applied, same⟩ := Outcome.bind_ok rest
        cases Outcome.pure_ok same
        have law := applyLateMoney_kept_iff applied
        obtain ⟨stored, observed, rfl, -⟩ := consumeReport_ok consumed
        constructor
        · intro kept takes
          refine law.mp ⟨kept.receipt, kept.state, kept.payment⟩ ?_
          exact ⟨takes.deliverable, takes.unheld, takes.stock⟩
        · intro free
          have kept := law.mpr fun completes =>
            free ⟨outside, open_payment, by simpa using pinned, completes.1, completes.2.1,
              completes.2.2⟩
          exact ⟨kept.receipt, kept.state, kept.payment⟩
    · rename_i on_time
      have unlate : ¬ TakesStockLate view row late := fun takes => on_time takes.late
      split at committed
      · cases committed
        exact ⟨view, rfl, iff_of_true (.refl view) unlate⟩
      · obtain ⟨after, done, kept⟩ := applyOnTimePaykitPayment_mismatch mismatch committed
        exact ⟨after, done, iff_of_true kept unlate⟩

/-- 4000 sats of 5000, on time: the payment is reviewed. -/
theorem wrong_amount_on_time_reviewed :
    ∃ sys, Runs.Reachable (marketplace sampleReferences) Runs.anyStep sys ∧
      ∃ cell ∈ sys.cells.find? 7, ∃ after,
        applyConfirmedPaykitPayment ⟨sys.inventory, cell.book⟩ (pendingClaim 1) false
          { observedSats := some 4000, confirmations := some 3 } false 20 = .ok (.done after) ∧
        AmountKept ⟨sys.inventory, cell.book⟩ after := by
  obtain ⟨sys, reached, cell, found, awaiting, answered⟩ :=
    Runs.exists_reachable_of_run (marketplace sampleReferences) rfl polledLamp
      (fun sys => ∃ cell ∈ sys.cells.find? 7,
        cell.book.payment.state = .awaitingEntitlement ∧
        (applyConfirmedPaykitPayment ⟨sys.inventory, cell.book⟩ (pendingClaim 1) false
          { observedSats := some 4000, confirmations := some 3 } false 20).toOption.isSome = true)
      (Runs.meets_anyStep _ _ _) (by decide +kernel)
  obtain ⟨result, committed⟩ := Option.isSome_iff_exists.mp answered
  have committed := Outcome.toOption_some committed
  obtain ⟨after, rfl, law⟩ :=
    amount_law_kept_iff _ (pendingClaim 1) false false _ 20 result (.inl rfl) committed
  refine ⟨sys, reached, cell, found, after, committed, law.mpr ?_⟩
  intro takes
  rcases takes.late with expired | ⟨late, -⟩
  · simp [awaiting] at expired
  · cases late

/-- The window of the lamp expires and releases it; 4000 sats of 5000 then take
it again, confirm the payment and issue a receipt. -/
theorem wrong_amount_late_completes :
    ∃ sys, Runs.Reachable (marketplace sampleReferences) Runs.anyStep sys ∧
      ∃ cell ∈ sys.cells.find? 7, ∃ after ∈ sys.step sampleReferences
          (.order 7 700 (.applyPoll (pendingClaim 1) (.confirmed false
            { allocationMode := .exclusive
              lateSettlement := false
              observation := { observedSats := some 4000, confirmations := some 3 } }))),
        ∃ done ∈ after.cells.find? 7,
          cell.book.order.paykitTotalSats = some 5000 ∧ cell.book.receipt = none ∧
          done.book.receipt.isSome = true ∧ done.book.order.state = .paid ∧
          done.book.payment.state = .confirmed :=
  Runs.exists_reachable_of_run (marketplace sampleReferences) rfl
    (polledLamp ++ [.order 7 600 .expireWindow])
    _ (Runs.meets_anyStep _ _ _) (by decide +kernel)

end MarketplaceService
