import MarketplaceService.Lib.Outcome
import MarketplaceService.LineLoops

/-!
What a decided payment leaves of its order's rows. Every rail ends in one of a
few writes: the payment enters review, the order is cancelled with it, or the
order is confirmed with a receipt. The lemmas say which rows a committed
confirmation, refund route or late-money fork has written; the stock side of
them is treated elsewhere.
-/

namespace MarketplaceService

def Payment.moved (payment : Payment) (state : PaymentState) (reason : Option ReviewReason)
    (entered : Option Time) : Payment :=
  { payment with
    state := state
    revision := payment.revision + 1
    reviewReason := reason
    manualReviewEnteredAt := entered }

def Order.confirmed (row : Order) (state : OrderState) (edition : Option ℕ) : Order :=
  { row with
    revision := row.revision + 1
    state := state
    edition := edition
    stockHeld := false
    holdExpiresAt := none }

theorem confirmOrder_ok {view after : View} {order : Order} {now : Time}
    (confirmed : confirmOrder view order now = .ok after) :
    canTransition orderMachine order.state .paid = true ∧
      unpinnable view.inventory order = false ∧ view.book.receipt = none ∧
      ∃ edition inventory, confirmStock view.inventory order now = .ok (edition, inventory) ∧
        after = ⟨inventory, { view.book with
          receipt := some (receiptOf order now)
          order := view.book.order.confirmed (confirmedState order) edition }⟩ := by
  unfold confirmOrder at confirmed
  by_cases payable : canTransition orderMachine order.state .paid = true
  · by_cases undeliverable : unpinnable view.inventory order = true
    · simp [payable, undeliverable] at confirmed
    · simp only [payable, undeliverable, Bool.not_true, Bool.false_eq_true, if_false] at confirmed
      obtain ⟨⟨edition, inventory⟩, stocked, written⟩ := Outcome.bind_ok confirmed
      cases receipted : view.book.receipt with
      | some receipt => simp [receipted] at written
      | none =>
          simp only [receipted, Option.isSome_none, Bool.false_eq_true, if_false] at written
          cases written
          exact ⟨payable, by simpa using undeliverable, rfl, edition, inventory, stocked, rfl⟩
  · simp [payable] at confirmed

theorem stampReviewReason_ok {view after : View} {reason : ReviewReason} {now : Time}
    (stamped : stampReviewReason view reason now = .ok after) :
    view.book.payment.state ∈
        [PaymentState.expired, .awaitingEntitlement, .manualReview, .detected] ∧
      view.book.payment.resolution = none ∧
      after = { view with
        book.payment := view.book.payment.moved .manualReview (some reason) (some now) } := by
  unfold stampReviewReason at stamped
  simp only at stamped
  split at stamped
  · rename_i opened
    cases stamped
    exact ⟨opened.1, opened.2, rfl⟩
  · cases stamped

/-- The refund route: the payment is in review, and an order passed as pending
is cancelled unless its row has moved on. -/
theorem refundRequired_ok {view after : View} {order : Order} {reason : String} {now : Time}
    (routed : refundRequired view order reason now = .ok after) :
    view.book.payment.state ∈
        [PaymentState.expired, .awaitingEntitlement, .manualReview, .detected] ∧
      view.book.payment.resolution = none ∧
      after.book = { view.book with
        payment := view.book.payment.moved .manualReview (some .refundRequired) (some now)
        order :=
          if order.state = .pendingPayment then cancelPending view.book.order reason
          else view.book.order } ∧
      (order.state = .pendingPayment ∧
          releaseHeld view.inventory order now = .ok after.inventory ∨
        order.state ≠ .pendingPayment ∧ after.inventory = view.inventory) := by
  unfold refundRequired at routed
  obtain ⟨stamp, stamped, rest⟩ := Outcome.bind_ok routed
  obtain ⟨opened, unresolved, rfl⟩ := stampReviewReason_ok stamped
  by_cases pending : order.state = .pendingPayment
  · simp only [pending, if_true] at rest
    obtain ⟨inventory, released, written⟩ := Outcome.bind_ok rest
    cases Outcome.pure_ok written
    exact ⟨opened, unresolved, by simp [pending], .inl ⟨pending, released⟩⟩
  · simp only [pending, if_false] at rest
    cases Outcome.pure_ok rest
    exact ⟨opened, unresolved, by simp [pending], .inr ⟨pending, rfl⟩⟩

theorem reacquireHold_book {view after : View} {order : Order} {now : Time}
    {result : Except Failure Unit} (ran : reacquireHold view order now = (result, after)) :
    reacquireStock view.inventory order now = (result, after.inventory) ∧
      (result = .ok () ∧ order.auctionAggregateId = none ∧
          after.book = { view.book with order.stockHeld := true } ∨
        (result = .ok () → order.auctionAggregateId.isSome) ∧ after.book = view.book) := by
  unfold reacquireHold at ran
  cases stock : reacquireStock view.inventory order now with
  | mk outcome inventory =>
      cases outcome with
      | error failure =>
          simp only [stock, Prod.mk.injEq] at ran
          obtain ⟨rfl, rfl⟩ := ran
          exact ⟨rfl, .inr ⟨by simp, rfl⟩⟩
      | ok done =>
          cases auctioned : order.auctionAggregateId with
          | none =>
              simp only [stock, auctioned, Option.isNone_none, if_true, Prod.mk.injEq] at ran
              obtain ⟨rfl, rfl⟩ := ran
              exact ⟨rfl, .inl ⟨rfl, rfl, rfl⟩⟩
          | some auction =>
              simp only [stock, auctioned, Option.isNone_some, Bool.false_eq_true, if_false,
                Prod.mk.injEq] at ran
              obtain ⟨rfl, rfl⟩ := ran
              exact ⟨rfl, .inr ⟨by simp, rfl⟩⟩

theorem completeLateOrder_ok {view after : View} {now : Time}
    (completed : completeLateOrder view now = .ok after) :
    view.book.payment.state ∈ [PaymentState.expired, .awaitingEntitlement, .manualReview] ∧
      view.book.payment.resolution = none ∧ view.book.payment.manualReviewEnteredAt = none ∧
      confirmOrder { view with
        book.payment := view.book.payment.moved .confirmed none none } view.book.order now =
          .ok after := by
  unfold completeLateOrder at completed
  simp only at completed
  split at completed
  · rename_i opened
    obtain ⟨book, updated, confirmed⟩ := Outcome.bind_ok completed
    obtain ⟨rfl, checked⟩ := updatePayment_ok updated
    have unentered : view.book.payment.manualReviewEnteredAt = none := by
      simpa using ((Payment.checks_iff _).mp checked).1
    refine ⟨opened.1, opened.2, unentered, ?_⟩
    simpa [Payment.moved, unentered] using confirmed
  · cases completed

/-- How `apply_late_money` decides: refund without a deliverable, hold for a
pending order that still has its stock, completion on retaken stock, refund
without it. -/
theorem applyLateMoney_ok {view after : View} {order : Order} {now : Time}
    {outcome : LateMoneyOutcome} (applied : applyLateMoney view order now = .ok (outcome, after)) :
    order.paykitRequestState ≠ some .awaitingSellerConfirmation ∧
      ((outcome = .refundRequired ∧ unpinnable view.inventory order = true ∧
          refundRequired view order "digital delivery unavailable at payment" now = .ok after) ∨
        (outcome = .heldLateSettlement ∧ unpinnable view.inventory order = false ∧
          order.state = .pendingPayment ∧ order.stockHeld = true ∧
          stampReviewReason view .lateSettlement now = .ok after) ∨
        (unpinnable view.inventory order = false ∧
          ¬ (order.state = .pendingPayment ∧ order.stockHeld = true) ∧
          ∃ result held, reacquireHold view order now = (result, held) ∧
            (outcome = .completed ∧ result = .ok () ∧ completeLateOrder held now = .ok after ∨
              outcome = .refundRequired ∧ result = .error .stockUnavailable ∧
                refundRequired held order "payment window elapsed" now = .ok after))) := by
  unfold applyLateMoney at applied
  by_cases awaiting : order.paykitRequestState = some .awaitingSellerConfirmation
  · simp [awaiting] at applied
  · refine ⟨awaiting, ?_⟩
    by_cases undeliverable : unpinnable view.inventory order = true
    · simp only [awaiting, undeliverable, if_true, if_false] at applied
      obtain ⟨routed, ran, written⟩ := Outcome.bind_ok applied
      cases Outcome.pure_ok written
      exact .inl ⟨rfl, undeliverable, ran⟩
    · have deliverable : unpinnable view.inventory order = false := by simpa using undeliverable
      by_cases held : order.state = .pendingPayment ∧ order.stockHeld = true
      · simp only [awaiting, deliverable, held, if_false, Bool.false_eq_true] at applied
        obtain ⟨stamp, ran, written⟩ := Outcome.bind_ok applied
        cases Outcome.pure_ok written
        exact .inr (.inl ⟨rfl, deliverable, held.1, held.2, ran⟩)
      · simp only [awaiting, deliverable, held, if_false, Bool.false_eq_true] at applied
        refine .inr (.inr ⟨deliverable, held, ?_⟩)
        cases retaken : reacquireHold view order now with
        | mk result stocked =>
            rw [retaken] at applied
            cases result with
            | ok done =>
                obtain ⟨finished, ran, written⟩ := Outcome.bind_ok applied
                cases Outcome.pure_ok written
                exact ⟨_, _, rfl, .inl ⟨rfl, rfl, ran⟩⟩
            | error failure =>
                cases failure with
                | stockUnavailable =>
                    obtain ⟨routed, ran, written⟩ := Outcome.bind_ok applied
                    cases Outcome.pure_ok written
                    exact ⟨_, _, rfl, .inr ⟨rfl, rfl, ran⟩⟩
                | refused kind message => cases applied
                | internal step => cases applied
                | database constraint => cases applied

end MarketplaceService
