import MarketplaceService.DropGate
import MarketplaceService.RefundedOrders
import MarketplaceService.ServiceFrame
import MarketplaceService.VerifiedMoney

/-!
The revision of an order across its transactions. No function of the payment,
the expiry, the activation, the review or the refunds writes a smaller one, and
no step of the service takes an order away: the order that a later state holds
under an id is the earlier one with a revision that is the same or more.
-/

namespace MarketplaceService

section Writers

variable {references : References} {view after : View} {book written : OrderBook} {order : Order}
  {now : Time} {observation : PaykitObservation} {report : Option Observation}

/-! One row. -/

@[grind →]
theorem updateOrder_revision (ran : book.updateOrder order = .ok written) :
    written.order.revision = order.revision := by
  rw [(updateOrder_ok ran).1]

@[grind →]
theorem updatePayment_revision {payment : Payment}
    (ran : book.updatePayment payment = .ok written) :
    written.order.revision = book.order.revision := by
  rw [(updatePayment_ok ran).1]

@[grind =]
theorem recordReleasedAttempt_revision :
    (recordReleasedAttempt book now).order.revision = book.order.revision := by
  unfold recordReleasedAttempt
  split
  · rfl
  · split <;> rfl

@[grind =]
theorem voidPreparingRequest_revision :
    (voidPreparingRequest book now).order.revision = book.order.revision := by
  unfold voidPreparingRequest
  dsimp only
  split
  · exact recordReleasedAttempt_revision
  · rfl

@[grind =]
theorem enqueuePaykitVoid_revision {pins : PaykitPins} :
    (enqueuePaykitVoid book pins now).order.revision = book.order.revision := rfl

@[grind =]
theorem closeAttempt_revision {invoice : InvoiceId} {state : AttemptState}
    {reason : Option AttemptReviewReason} {seen : Observation} :
    (closeAttempt book invoice state reason seen now).order.revision = book.order.revision := by
  unfold closeAttempt
  split <;> rfl

@[grind →]
theorem enqueueResolveRow_revision (ran : enqueueResolveRow book order = .ok written) :
    book.order.revision ≤ written.order.revision := by
  simp only [enqueueResolveRow] at ran
  grind

/-! Confirmation and late money. -/

@[grind →]
theorem acquirePaymentHold_revision {windowSeconds : ℕ} {source : HoldSource}
    (ran : acquirePaymentHold view windowSeconds source now = .ok after) :
    view.book.order.revision ≤ after.book.order.revision := by
  simp only [acquirePaymentHold] at ran
  grind

@[grind →]
theorem confirmOrder_revision (ran : confirmOrder view order now = .ok after) :
    view.book.order.revision ≤ after.book.order.revision := by
  simp only [confirmOrder, bind, Except.bind] at ran
  grind

@[grind →]
theorem stampReviewReason_revision {reason : ReviewReason}
    (ran : stampReviewReason view reason now = .ok after) :
    view.book.order.revision ≤ after.book.order.revision := by
  simp only [stampReviewReason] at ran
  grind

@[grind →]
theorem refundRequired_revision {reason : String}
    (ran : refundRequired view order reason now = .ok after) :
    view.book.order.revision ≤ after.book.order.revision := by
  simp only [refundRequired, cancelPending, bind, Except.bind, pure, Except.pure] at ran
  grind

@[grind →]
theorem completeLateOrder_revision (ran : completeLateOrder view now = .ok after) :
    view.book.order.revision ≤ after.book.order.revision := by
  simp only [completeLateOrder, bind, Except.bind] at ran
  grind

@[grind =]
theorem reacquireHold_revision :
    (reacquireHold view order now).2.book.order.revision = view.book.order.revision := by
  unfold reacquireHold
  split
  · rfl
  · split <;> rfl

@[grind →]
theorem applyLateMoney_revision {outcome : LateMoneyOutcome × View}
    (ran : applyLateMoney view order now = .ok outcome) :
    view.book.order.revision ≤ outcome.2.book.order.revision := by
  have reacquired := @reacquireHold_revision view order now
  simp only [applyLateMoney, bind, Except.bind, pure, Except.pure] at ran
  grind

@[grind →]
theorem confirmAwaiting_revision (ran : confirmAwaiting view now = .ok (.done after)) :
    view.book.order.revision ≤ after.book.order.revision := by
  simp only [confirmAwaiting, bind, Except.bind, pure, Except.pure] at ran
  grind

/-! Binds and the fiat and Locks rails. -/

@[grind =]
theorem bindOrder_revision {method : PaymentMethod} {reference : Option Reference}
    {adapter : Adapter} :
    (bindOrder book method reference adapter now).order.revision = book.order.revision + 1 :=
  congrArg (· + 1) recordReleasedAttempt_revision

@[grind =]
theorem persistPrepare_revision {pins : PaykitPins} :
    (persistPrepare book pins now).order.revision = book.order.revision := rfl

@[grind →]
theorem bindFiat_revision {fiat : FiatMethod} {configured checkoutUrl : Bool} {windowSeconds : ℕ}
    (ran : bindFiat view fiat configured checkoutUrl windowSeconds now = .ok after) :
    view.book.order.revision ≤ after.book.order.revision := by
  simp only [bindFiat, bind, Except.bind, pure, Except.pure] at ran
  grind

@[grind →]
theorem bindBitcoin_revision {request : BindRequest}
    (ran : bindBitcoin references view request now = .ok after) :
    view.book.order.revision ≤ after.book.order.revision := by
  unfold bindBitcoin at ran
  obtain ⟨-, ran⟩ := Outcome.guard_ok ran
  obtain ⟨amount, -, ran⟩ := Outcome.bind_ok ran
  obtain ⟨held, acquired, ran⟩ := Outcome.bind_ok ran
  dsimp only at ran
  split at ran
  · cases ran
  · obtain ⟨pins, -, ran⟩ := Outcome.bind_ok ran
    cases ran
    have same := acquirePaymentHold_revision acquired
    rw [persistPrepare_revision, bindOrder_revision]
    omega

theorem bindPaymentMethod_revision {request : BindRequest}
    (ran : bindPaymentMethod references view request now = .ok after) :
    view.book.order.revision ≤ after.book.order.revision := by
  simp only [bindPaymentMethod] at ran
  grind

theorem applyFiatPaid_revision {transactionRef : Option String} {verifiedBy : VerifiedBy}
    (ran : applyFiatPaid view transactionRef verifiedBy now = .ok (.done after)) :
    view.book.order.revision ≤ after.book.order.revision := by
  simp only [applyFiatPaid, bind, Except.bind, pure, Except.pure] at ran
  grind

@[grind →]
theorem reviewAwaiting_revision (ran : reviewAwaiting book now = .ok written) :
    book.order.revision ≤ written.order.revision := by
  simp only [reviewAwaiting] at ran
  grind

theorem prepareLocks_revision {actor : Pubky} {windowSeconds : ℕ}
    (ran : prepareLocks view actor windowSeconds now = .ok after) :
    view.book.order.revision ≤ after.book.order.revision := by
  simp only [prepareLocks, bind, Except.bind, pure, Except.pure] at ran
  grind

theorem registerLocks_revision {actor : Pubky} (ran : registerLocks book actor now = .ok written) :
    book.order.revision ≤ written.order.revision := by
  simp only [registerLocks] at ran
  grind

theorem applyCompletedLifecycle_revision
    (ran : applyCompletedLifecycle view now = .ok (.done after)) :
    view.book.order.revision ≤ after.book.order.revision := by
  simp only [applyCompletedLifecycle, markCorrelationCompleted, bind, Except.bind, pure,
    Except.pure] at ran
  grind

theorem locksReview_revision (ran : locksReview book now = .ok written) :
    book.order.revision ≤ written.order.revision := by
  simp only [locksReview, markCorrelationCompleted, bind, Except.bind, pure, Except.pure] at ran
  grind

/-! Status reports. -/

@[grind →]
theorem consumeReport_revision (ran : consumeReport book report observation = .ok written) :
    book.order.revision ≤ written.order.revision := by
  simp only [consumeReport, freezePaykitObservation, bind, Except.bind] at ran
  grind

@[grind →]
theorem applyOnTimePaykitPayment_revision {amountMatched : Bool}
    (ran : applyOnTimePaykitPayment view amountMatched observation now = .ok (.done after)) :
    view.book.order.revision ≤ after.book.order.revision := by
  simp only [applyOnTimePaykitPayment, reviewAmountMismatch, bind, Except.bind, pure,
    Except.pure] at ran
  grind

@[grind →]
theorem applyLatePaykitPayment_revision {row : ClaimedPaykitOrder} {amountMatched : Bool}
    (ran : applyLatePaykitPayment view row amountMatched observation now = .ok after) :
    view.book.order.revision ≤ after.book.order.revision := by
  simp only [applyLatePaykitPayment, bind, Except.bind, pure, Except.pure] at ran
  grind

theorem applyConfirmedPaykitPayment_revision {row : ClaimedPaykitOrder}
    {amountMatched lateSettlement : Bool}
    (ran : applyConfirmedPaykitPayment view row amountMatched observation lateSettlement now =
      .ok (.done after)) :
    view.book.order.revision ≤ after.book.order.revision := by
  simp only [applyConfirmedPaykitPayment, bind, Except.bind, pure, Except.pure] at ran
  grind

theorem settleFallback_revision {amountMatched : Bool}
    (ran : settleFallback book amountMatched observation now = .ok written) :
    book.order.revision ≤ written.order.revision := by
  simp only [settleFallback, bind, Except.bind] at ran
  grind

theorem markPaykitDetected_revision {row : ClaimedPaykitOrder} :
    book.order.revision ≤ (markPaykitDetected book row).order.revision := by
  unfold markPaykitDetected
  split <;> rfl

theorem refreshInsideSellerWindow_revision {confirmed amountMatched : Bool} :
    book.order.revision ≤
      (refreshInsideSellerWindow book confirmed amountMatched observation now).order.revision := by
  unfold refreshInsideSellerWindow refreshSellerConfirmationFacts
  split
  · split <;> rfl
  · rfl

theorem markSharedManualDisappeared_revision :
    book.order.revision ≤ (markSharedManualDisappeared book).order.revision := by
  unfold markSharedManualDisappeared
  split
  · rfl
  · split <;> rfl

theorem applyReportInsideSellerWindow_revision {outcome : PaykitStatusOutcome} :
    book.order.revision ≤ (applyReportInsideSellerWindow book outcome now).order.revision := by
  unfold applyReportInsideSellerWindow
  split
  · split
    · rfl
    · exact refreshInsideSellerWindow_revision
  · split
    · rfl
    · exact refreshInsideSellerWindow_revision
  · exact markSharedManualDisappeared_revision
  · rfl
  · rfl

@[grind →]
theorem freezePaykitObservation_revision
    (ran : freezePaykitObservation book observation = .ok written) :
    book.order.revision ≤ written.order.revision := by
  simp only [freezePaykitObservation] at ran
  grind

@[grind →]
theorem enterSellerWindow_revision {seen : Observation}
    (ran : enterSellerWindow view seen observation now = .ok after) :
    view.book.order.revision ≤ after.book.order.revision := by
  simp only [enterSellerWindow, refreshSellerConfirmationFacts, bind, Except.bind, pure,
    Except.pure] at ran
  grind

theorem applySharedManualObservation_revision {row : ClaimedPaykitOrder}
    {confirmed amountMatched : Bool}
    (ran : applySharedManualObservation view row confirmed amountMatched observation now =
      .ok (.done after)) :
    view.book.order.revision ≤ after.book.order.revision := by
  simp only [applySharedManualObservation, bind, Except.bind, pure, Except.pure] at ran
  grind

/-! Expiry and activation. -/

@[grind →]
theorem expireHeldOrder_revision {awaiting : Bool}
    (ran : expireHeldOrder view awaiting now = .ok after) :
    view.book.order.revision ≤ after.book.order.revision := by
  simp only [expireHeldOrder, bind, Except.bind, pure, Except.pure] at ran
  grind

theorem expireDuePaymentWindow_revision (ran : expireDuePaymentWindow view now = .ok after) :
    view.book.order.revision ≤ after.book.order.revision := by
  simp only [expireDuePaymentWindow] at ran
  grind

theorem expireIdleUnboundCheckout_revision {windowSeconds : ℕ}
    (ran : expireIdleUnboundCheckout book windowSeconds now = .ok written) :
    book.order.revision ≤ written.order.revision := by
  simp only [expireIdleUnboundCheckout, bind, Except.bind, pure, Except.pure] at ran
  grind

@[grind →]
theorem voidPrepareEffects_revision {row : ℕ} (ran : voidPrepareEffects view row now = .ok after) :
    view.book.order.revision ≤ after.book.order.revision := by
  simp only [voidPrepareEffects, bind, Except.bind, pure, Except.pure] at ran
  grind

@[grind →]
theorem trackInvoiceLiveAfterVoid_revision {invoice : InvoiceId}
    (ran : trackInvoiceLiveAfterVoid book invoice = .ok written) :
    book.order.revision ≤ written.order.revision := by
  simp only [trackInvoiceLiveAfterVoid, bind, Except.bind, pure, Except.pure] at ran
  grind

theorem applyActivateAnswer_revision {row totalSats : ℕ} {invoice : InvoiceId}
    {answer : ActivateAnswer}
    (ran : applyActivateAnswer view row invoice totalSats answer now = .ok after) :
    view.book.order.revision ≤ after.book.order.revision := by
  simp only [applyActivateAnswer, flipActive, bind, Except.bind, pure, Except.pure] at ran
  grind

theorem applyVoidAnswer_revision {row : ℕ} {invoice : InvoiceId} {answer : VoidAnswer}
    (ran : applyVoidAnswer book row invoice answer now = .ok written) :
    book.order.revision ≤ written.order.revision := by
  simp only [applyVoidAnswer, bind, Except.bind, pure, Except.pure] at ran
  grind

@[grind →]
theorem voidAndExpirePreparingOrder_revision {row : ℕ} {enqueueVoidRetry : Bool}
    (ran : voidAndExpirePreparingOrder view row enqueueVoidRetry now = .ok after) :
    view.book.order.revision ≤ after.book.order.revision := by
  simp only [voidAndExpirePreparingOrder, bind, Except.bind, pure, Except.pure] at ran
  grind

theorem applyPreparingVoidAnswer_revision {row : ℕ} {pin : PreparingPin} {answer : VoidAnswer}
    (ran : applyPreparingVoidAnswer view row pin answer now = .ok after) :
    view.book.order.revision ≤ after.book.order.revision := by
  simp only [applyPreparingVoidAnswer, flipActive, bind, Except.bind, pure, Except.pure] at ran
  grind

@[grind →]
theorem claimOutboxRow_revision {row leaseSeconds : ℕ} {claimed : OutboxRow × OrderBook}
    (ran : claimOutboxRow book row leaseSeconds now = some claimed) :
    book.order.revision ≤ claimed.2.order.revision := by
  simp only [claimOutboxRow] at ran
  grind

theorem leaseActivateRow_revision {leaseSeconds : ℕ} {leased : ℕ × OrderBook}
    (ran : leaseActivateRow book leaseSeconds now = some leased) :
    book.order.revision ≤ leased.2.order.revision := by
  unfold leaseActivateRow at ran
  split at ran
  · cases ran
  · obtain ⟨claimed, leased, rfl⟩ := Option.map_eq_some_iff.mp ran
    exact claimOutboxRow_revision leased

theorem sendActivate_revision {row : ℕ} {entry : OutboxRow} {effect : Effect}
    (ran : sendActivate view row entry now = some effect) :
    view.book.order.revision ≤ effect.view.book.order.revision := by
  obtain ⟨-, ran⟩ := Option.ite_none_right_eq_some.mp ran
  obtain ⟨begun, started, rfl⟩ := Option.map_eq_some_iff.mp ran
  have started := Outcome.toOption_some started
  simp only [beginActivation] at started
  cases begun with
  | settled book =>
      change _ ≤ book.order.revision
      grind
  | send book totalSats =>
      change _ ≤ book.order.revision
      grind

/-! Released attempts. -/

@[grind →]
theorem swapAttempt_revision {claimed : WatchedAttempt} {attempt : Attempt} {frozen : Observation}
    {observed : Option ℕ}
    (ran : swapAttempt references book claimed attempt frozen observed now = .ok written) :
    book.order.revision ≤ written.order.revision := by
  simp only [swapAttempt, releaseOther, restoreAttempt, bind, Except.bind, pure, Except.pure] at ran
  grind

theorem routeReleasedSettlement_revision {claimed : WatchedAttempt} {amountMatched : Bool}
    {routed : RouteOutcome × View}
    (ran : routeReleasedSettlement references view claimed amountMatched observation now =
      .ok routed) :
    view.book.order.revision ≤ routed.2.book.order.revision := by
  unfold routeReleasedSettlement at ran
  split at ran
  · cases ran
    rfl
  · split at ran
    · cases ran
      rfl
    · split at ran
      · cases ran
        rfl
      · dsimp only at ran
        split at ran
        · cases ran
          exact closeAttempt_revision.ge
        · obtain ⟨observed, -, ran⟩ := Outcome.bind_ok ran
          obtain ⟨book, swapped, ran⟩ := Outcome.bind_ok ran
          have same := swapAttempt_revision swapped
          split at ran
          · obtain ⟨reviewed, updated, ran⟩ := Outcome.bind_ok ran
            cases ran
            exact same.trans (closeAttempt_revision.trans (updatePayment_revision updated)).ge
          · obtain ⟨outcome, late, ran⟩ := Outcome.bind_ok ran
            cases ran
            exact same.trans ((applyLateMoney_revision late).trans closeAttempt_revision.ge)

theorem detectAttempt_revision {invoice : InvoiceId} :
    book.order.revision ≤ (detectAttempt book invoice observation now).order.revision := by
  unfold detectAttempt
  split
  · rfl
  · split <;> rfl

theorem closeUnpaid_revision {claimed : WatchedAttempt} :
    book.order.revision ≤ (closeUnpaid book claimed now).order.revision := by
  unfold closeUnpaid
  split
  · split
    · rfl
    · split <;> rfl
  · rfl

theorem escalateDetection_revision {invoice : InvoiceId} :
    book.order.revision ≤ (escalateDetection book invoice now).order.revision := by
  unfold escalateDetection
  split
  · rfl
  · split <;> rfl

/-! The commands of the parties. -/

@[grind →]
theorem endPaykitRequest_revision (ran : endPaykitRequest book now = .ok written) :
    book.order.revision ≤ written.order.revision := by
  simp only [endPaykitRequest, bind, Except.bind, pure, Except.pure] at ran
  grind

theorem cancelRequest_revision {sender : Sender} {reason : String} {exitOpen : Bool}
    (ran : cancelRequest view sender reason exitOpen now = .ok after) :
    view.book.order.revision ≤ after.book.order.revision := by
  simp only [cancelRequest, cancelOrder, bind, Except.bind, pure, Except.pure] at ran
  grind

theorem approveCancellation_revision {sender : Sender}
    (ran : approveCancellation view sender now = .ok after) :
    view.book.order.revision ≤ after.book.order.revision := by
  simp only [approveCancellation, bind, Except.bind, pure, Except.pure] at ran
  grind

theorem advanceSandbox_revision {sender : Sender} {target : PaymentState}
    {confirmations windowSeconds : ℕ}
    (ran : advanceSandbox view sender target confirmations windowSeconds now = .ok after) :
    view.book.order.revision ≤ after.book.order.revision := by
  unfold advanceSandbox at ran
  simp only at ran
  obtain ⟨-, ran⟩ := Outcome.guard_ok ran
  obtain ⟨-, ran⟩ := Outcome.guard_ok ran
  obtain ⟨-, ran⟩ := Outcome.guard_ok ran
  obtain ⟨-, ran⟩ := Outcome.guard_ok ran
  obtain ⟨-, ran⟩ := Outcome.guard_ok ran
  have tail (held : View) (payment : Payment)
      (rest : (if target = .confirmed ∧ unpinnable held.inventory held.book.order = true then
          refundRequired held held.book.order "digital delivery unavailable at payment" now
        else do
          let book ← held.book.updatePayment payment
          if target = .confirmed then
            confirmOrder { held with book := book } held.book.order now
          else
            pure { held with book := book }) = .ok after) :
      held.book.order.revision ≤ after.book.order.revision := by
    split at rest
    · exact refundRequired_revision rest
    · obtain ⟨book, updated, rest⟩ := Outcome.bind_ok rest
      rw [← updatePayment_revision updated]
      split at rest
      · exact confirmOrder_revision rest
      · cases rest
        rfl
  split at ran
  · obtain ⟨held, acquired, rest⟩ := Outcome.bind_ok ran
    exact (acquirePaymentHold_revision acquired).trans (tail held _ rest)
  · obtain ⟨held, same, rest⟩ := Outcome.bind_ok ran
    cases same
    exact tail view _ rest

theorem recordExternalRefund_revision {sender : Sender} {refund : ExternalRefund}
    (ran : recordExternalRefund book sender refund = .ok written) :
    book.order.revision ≤ written.order.revision := by
  simp only [recordExternalRefund, bind, Except.bind] at ran
  grind

theorem confirmBitcoinPayment_revision (ran : confirmBitcoinPayment view order now = .ok after) :
    view.book.order.revision ≤ after.book.order.revision := by
  simp only [confirmBitcoinPayment, bind, Except.bind, pure, Except.pure] at ran
  grind

theorem routeSellerConfirmationWindow_revision
    (ran : routeSellerConfirmationWindow book now = .ok written) :
    book.order.revision ≤ written.order.revision := by
  simp only [routeSellerConfirmationWindow, bind, Except.bind] at ran
  grind

@[grind →]
theorem cancelHeldOrder_revision {reason : String}
    (ran : cancelHeldOrder view reason now = .ok after) :
    view.book.order.revision ≤ after.book.order.revision := by
  simp only [cancelHeldOrder, bind, Except.bind, pure, Except.pure] at ran
  grind

@[grind →]
theorem applyPaidEffects_revision (ran : applyPaidEffects view now = .ok after) :
    view.book.order.revision ≤ after.book.order.revision := by
  have reacquired := @reacquireHold_revision view view.book.order now
  simp only [applyPaidEffects, bind, Except.bind] at ran
  grind

@[grind →]
theorem applyRefundedEffects_revision {input : ResolutionInput}
    (ran : applyRefundedEffects view input now = .ok after) :
    view.book.order.revision ≤ after.book.order.revision := by
  simp only [applyRefundedEffects, bind, Except.bind, pure, Except.pure] at ran
  grind

@[grind →]
theorem applyAbandonedEffects_revision (ran : applyAbandonedEffects view now = .ok after) :
    view.book.order.revision ≤ after.book.order.revision := by
  simp only [applyAbandonedEffects] at ran
  grind

theorem applyManualReviewResolution_revision {input : ResolutionInput}
    (ran : applyManualReviewResolution view input now = .ok after) :
    view.book.order.revision ≤ after.book.order.revision := by
  simp only [applyManualReviewResolution, bind, Except.bind, pure, Except.pure] at ran
  grind

end Writers

/-! The transactions of an order. -/

section Transactions

variable {references : References} {view : View} {now : Time} {effect : Effect}

theorem ofView_revision {result : Except Failure View}
    (kept : ∀ after, result = .ok after → view.book.order.revision ≤ after.book.order.revision)
    (ran : Effect.ofView result = some effect) :
    view.book.order.revision ≤ effect.view.book.order.revision :=
  kept _ (Effect.ofView_some ran).1

theorem ofBook_revision {result : Except Failure OrderBook}
    (kept : ∀ book, result = .ok book → view.book.order.revision ≤ book.order.revision)
    (ran : Effect.ofBook view result = some effect) :
    view.book.order.revision ≤ effect.view.book.order.revision := by
  obtain ⟨book, written, same, -⟩ := Effect.ofBook_some ran
  rw [same]
  exact kept book written

theorem ofConfirm_revision {refused : Message} {result : Except Failure ConfirmResult}
    (kept : ∀ after, result = .ok (.done after) →
      view.book.order.revision ≤ after.book.order.revision)
    (ran : Effect.ofConfirm view refused result = some effect) :
    view.book.order.revision ≤ effect.view.book.order.revision := by
  rcases Effect.ofConfirm_some ran with ⟨done, applied, rfl, -⟩ | ⟨same, -⟩
  · exact kept _ applied
  · rw [same]

theorem read_revision {message : Option Message} (ran : Effect.read view message = some effect) :
    view.book.order.revision ≤ effect.view.book.order.revision := by
  obtain ⟨sent, -, same, -⟩ := Effect.read_some ran
  rw [same]

theorem settleConfirmed_revision {row : ClaimedPaykitOrder} {amountMatched late : Bool}
    {observation : PaykitObservation}
    (ran : settleConfirmed view row amountMatched observation late now = some effect) :
    view.book.order.revision ≤ effect.view.book.order.revision := by
  rcases Effect.ofSettle_some ran with ⟨done, applied, rfl, -⟩ | ⟨-, same, -⟩
  · exact applyConfirmedPaykitPayment_revision applied
  · rw [same]

theorem observeShared_revision {row : ClaimedPaykitOrder} {confirmed amountMatched : Bool}
    {observation : PaykitObservation}
    (ran : observeShared view row confirmed amountMatched observation now = some effect) :
    view.book.order.revision ≤ effect.view.book.order.revision := by
  rcases Effect.ofShared_some ran with ⟨done, applied, rfl, -⟩ | ⟨same, -⟩
  · exact applySharedManualObservation_revision applied
  · rw [same]

theorem written_revision {book : OrderBook} (kept : view.book.order.revision ≤ book.order.revision)
    (ran : Effect.ofBook view (.ok book) = some effect) :
    view.book.order.revision ≤ effect.view.book.order.revision := by
  refine ofBook_revision (fun written same => ?_) ran
  cases same
  exact kept

theorem applyPaykitStatusOutcome_revision {row : ClaimedPaykitOrder}
    {outcome : PaykitStatusOutcome}
    (ran : applyPaykitStatusOutcome view row outcome now = some effect) :
    view.book.order.revision ≤ effect.view.book.order.revision := by
  unfold applyPaykitStatusOutcome at ran
  split at ran
  · exact written_revision applyReportInsideSellerWindow_revision ran
  · split at ran
    · split at ran
      · exact settleConfirmed_revision ran
      · split at ran
        · exact observeShared_revision ran
        · exact settleConfirmed_revision ran
        · exact written_revision le_rfl ran
    · split at ran
      · exact written_revision markPaykitDetected_revision ran
      · split at ran
        · exact observeShared_revision ran
        · exact written_revision markPaykitDetected_revision ran
        · exact written_revision le_rfl ran
    · split at ran
      · exact written_revision markSharedManualDisappeared_revision ran
      · exact written_revision le_rfl ran
    · exact written_revision le_rfl ran
    · exact written_revision le_rfl ran

theorem transact_revision {action : OrderAction}
    (ran : transact references view now action = some effect) :
    view.book.order.revision ≤ effect.view.book.order.revision := by
  cases action with
  | reserveBind actor =>
      obtain ⟨reserved, taken, rfl⟩ := Option.map_eq_some_iff.mp ran
      obtain ⟨-, taken⟩ := Option.ite_none_right_eq_some.mp taken
      cases taken
      exact le_rfl
  | bind request => exact ofView_revision (fun _ => bindPaymentMethod_revision) ran
  | claimPoll => exact read_revision ran
  | recordDelivery row delivery =>
      cases ran
      change view.book.order.revision ≤ (recordPaykitDelivery view.book row delivery).order.revision
      unfold recordPaykitDelivery
      split <;> rfl
  | applyPoll row outcome => exact applyPaykitStatusOutcome_revision ran
  | settleRefused row amountMatched observation =>
      exact ofBook_revision (fun _ => settleFallback_revision) ran
  | settleAdvanced row confirmed amountMatched observation =>
      change settleAdvanced view row confirmed amountMatched observation now = some effect at ran
      unfold settleAdvanced at ran
      split at ran
      · exact settleConfirmed_revision ran
      · exact written_revision markPaykitDetected_revision ran
  | claimOutbox row leaseSeconds =>
      obtain ⟨claimed, taken, rfl⟩ := Option.map_eq_some_iff.mp ran
      exact claimOutboxRow_revision taken
  | sendActivate row entry => exact sendActivate_revision ran
  | answerActivate row invoice totalSats answer =>
      exact ofView_revision (fun _ => applyActivateAnswer_revision) ran
  | sendVoid row entry =>
      obtain ⟨-, same⟩ := Option.ite_none_right_eq_some.mp ran
      cases same
      exact le_rfl
  | answerVoid row invoice answer => exact ofBook_revision (fun _ => applyVoidAnswer_revision) ran
  | leasePreparing leaseSeconds =>
      obtain ⟨-, ran⟩ := Option.ite_none_right_eq_some.mp ran
      obtain ⟨leased, taken, rfl⟩ := Option.map_eq_some_iff.mp ran
      exact leaseActivateRow_revision taken
  | sendPreparingVoid row => exact read_revision ran
  | answerPreparingVoid row pin answer =>
      exact ofView_revision (fun _ => applyPreparingVoidAnswer_revision) ran
  | claimReleased invoice => exact read_revision ran
  | routeReleased claimed amountMatched observation =>
      obtain ⟨routed, taken, rfl⟩ := Option.map_eq_some_iff.mp ran
      exact routeReleasedSettlement_revision (Outcome.toOption_some taken)
  | detectReleased claimed observation => exact written_revision detectAttempt_revision ran
  | closeReleased claimed => exact written_revision closeUnpaid_revision ran
  | escalateReleased invoice => exact written_revision escalateDetection_revision ran
  | verifyStripe actor session => exact read_revision ran
  | verifyPaypal transactionRef verifiedBy => exact read_revision ran
  | applyFiat transactionRef verifiedBy =>
      exact ofConfirm_revision (fun _ => applyFiatPaid_revision) ran
  | reviewFiat => exact ofBook_revision (fun _ => reviewAwaiting_revision) ran
  | prepareLocks actor windowSeconds => exact ofView_revision (fun _ => prepareLocks_revision) ran
  | registerLocks actor => exact ofBook_revision (fun _ => registerLocks_revision) ran
  | claimLocks => exact read_revision ran
  | applyLocks => exact ofConfirm_revision (fun _ => applyCompletedLifecycle_revision) ran
  | reviewLocks => exact ofBook_revision (fun _ => locksReview_revision) ran
  | advanceSandbox sender target confirmations windowSeconds =>
      exact ofView_revision (fun _ => advanceSandbox_revision) ran
  | expireWindow => exact ofView_revision (fun _ => expireDuePaymentWindow_revision) ran
  | expireIdle windowSeconds =>
      exact ofBook_revision (fun _ => expireIdleUnboundCheckout_revision) ran
  | cancel sender reason exitOpen => exact ofView_revision (fun _ => cancelRequest_revision) ran
  | approveCancel sender => exact ofView_revision (fun _ => approveCancellation_revision) ran
  | fulfill step =>
      obtain ⟨book, advanced, rfl⟩ := Option.map_eq_some_iff.mp ran
      obtain ⟨state, -, rfl⟩ := Option.map_eq_some_iff.mp advanced
      exact Nat.le_succ _
  | recordRefund sender refund => exact ofBook_revision (fun _ => recordExternalRefund_revision) ran
  | openLine index =>
      obtain ⟨book, opened, rfl⟩ := Option.map_eq_some_iff.mp ran
      obtain ⟨-, same⟩ := Option.ite_none_right_eq_some.mp opened
      cases same
      exact le_rfl
  | readSellerConfirm actor => exact read_revision ran
  | confirmBitcoin order => exact ofView_revision (fun _ => confirmBitcoinPayment_revision) ran
  | routeSellerWindow => exact ofBook_revision (fun _ => routeSellerConfirmationWindow_revision) ran
  | resolveReview input =>
      obtain ⟨-, ran⟩ := Option.ite_none_right_eq_some.mp ran
      exact ofView_revision (fun _ => applyManualReviewResolution_revision) ran

end Transactions

/-! The orders that a step creates. -/

def Action.orderIds : Action → List OrderId
  | .checkout request => request.orderIds
  | .offerCheckout _ id _ _ => [id]
  | .closeAuction _ _ _ _ id => [id]
  | _ => []

def GatewayAction.orderIds : GatewayAction → List OrderId
  | .service action => action.orderIds
  | _ => []

theorem checkoutCreate_ids {inventory after : Inventory} {request : CheckoutRequest} {now : Time}
    {books : List OrderBook} (created : checkoutCreate inventory request now = .ok (books, after)) :
    ∀ book ∈ books, book.order.id ∈ request.orderIds := by
  obtain ⟨dropId, gated, resolved, asset, -, -, -, -, rfl, -⟩ := checkoutCreate_ok created
  intro book member
  obtain ⟨pair, zipped, rfl⟩ := List.mem_map.mp member
  exact (List.of_mem_zip zipped).1

theorem offerCheckout_id {inventory after : Inventory} {award : Award} {id : OrderId}
    {fulfillment : Fulfillment} {holdWindowSeconds : ℕ} {now : Time} {book : OrderBook}
    (created : offerCheckout inventory award id fulfillment holdWindowSeconds now =
      .ok (book, after)) : book.order.id = id := by
  cases offerCheckout_ok created with
  | intro => rfl

theorem step_drawn {references : References} {sys after : Sys} {action : Action}
    (stepped : sys.step references action = some after) {id : OrderId} {done : Cell}
    (found : after.cells.find? id = some done) :
    id ∈ action.orderIds ∨ ∃ cell, sys.cells.find? id = some cell := by
  have inserted {inventory : Inventory} {books : List OrderBook}
      (drawn : ∀ book ∈ books, book.order.id ∈ action.orderIds)
      (written : sys.insert inventory books = some after) :
      id ∈ action.orderIds ∨ ∃ cell, sys.cells.find? id = some cell := by
    rcases insert_cells written found with old | ⟨-, book, member, rfl, -⟩
    · exact .inr ⟨done, old⟩
    · exact .inl (drawn book member)
  cases action with
  | order other now step =>
      obtain ⟨cell, present, ran⟩ := Option.bind_eq_some_iff.mp stepped
      obtain ⟨⟨inventory, written⟩, -, rfl⟩ := Option.map_eq_some_iff.mp ran
      by_cases same : id = other
      · subst same
        exact .inr ⟨cell, present⟩
      · rw [Keyed.Table.find?_set_ne _ _ same] at found
        exact .inr ⟨done, found⟩
  | checkout request =>
      obtain ⟨⟨books, inventory⟩, created, written⟩ := Option.bind_eq_some_iff.mp stepped
      exact inserted (checkoutCreate_ids (Outcome.toOption_some created)) written
  | offerCheckout award order fulfillment holdWindowSeconds =>
      obtain ⟨⟨book, inventory⟩, created, written⟩ := Option.bind_eq_some_iff.mp stepped
      have named := offerCheckout_id (Outcome.toOption_some created)
      exact inserted (by simp [Action.orderIds, named]) written
  | closeAuction listing winner priceMinor reservation order =>
      obtain ⟨⟨book, inventory⟩, created, written⟩ := Option.bind_eq_some_iff.mp stepped
      obtain ⟨-, -, -, -, named⟩ :=
        @closeAuction_leaves (fun _ _ => False) _ _ _ _ _ _ _ _ _ (Outcome.toOption_some created)
      exact inserted (by simp [Action.orderIds, named]) written
  | _ =>
      rw [(step_beside stepped rfl rfl).1] at found
      exact .inr ⟨done, found⟩

/-! The steps of the service. -/

/-- Every order stays, with a revision that is the same or more, and only the
orders with drawn ids are new. -/
structure OrdersAdvance (drawn : OrderId → Prop) (before after : Sys) : Prop where
  stays : ∀ id cell, before.cells.find? id = some cell → ∃ done, after.cells.find? id = some done ∧
    cell.book.order.revision ≤ done.book.order.revision
  fresh : ∀ id done, after.cells.find? id = some done →
    drawn id ∨ ∃ cell, before.cells.find? id = some cell

theorem OrdersAdvance.written {drawn : OrderId → Prop} {before after : Sys} {id : OrderId}
    {cell done : Cell} (found : before.cells.find? id = some cell)
    (cells : after.cells = before.cells.set id done)
    (advanced : cell.book.order.revision ≤ done.book.order.revision) :
    OrdersAdvance drawn before after := by
  constructor
  · intro other old present
    rw [cells, Keyed.Table.find?_set]
    split
    · rename_i same
      subst same
      obtain rfl : old = cell := Option.some.inj (present.symm.trans found)
      exact ⟨done, rfl, advanced⟩
    · exact ⟨old, present, le_rfl⟩
  · intro other last present
    rw [cells, Keyed.Table.find?_set] at present
    split at present
    · rename_i same
      subst same
      exact .inr ⟨cell, found⟩
    · exact .inr ⟨last, present⟩

theorem step_orders {references : References} {sys after : Sys} {action : Action}
    (stepped : sys.step references action = some after) :
    OrdersAdvance (· ∈ action.orderIds) sys after := by
  constructor
  · intro id cell found
    obtain ⟨done, present, same | ⟨now, step, rfl, ran⟩⟩ := step_keeps stepped found
    · exact ⟨done, present, by rw [same]⟩
    · obtain ⟨effect, transacted, -, rfl⟩ := stepCell_transacts ran
      exact ⟨_, present, transact_revision transacted⟩
  · exact fun id done found => step_drawn stepped found

theorem gateway_orders {references : References} {gate after : GatewaySys} {action : GatewayAction}
    (stepped : gate.step references action = some after) :
    OrdersAdvance (· ∈ action.orderIds) gate.sys after.sys := by
  cases gateway_step_inv stepped with
  | @service step named ran files =>
      subst named
      exact step_orders ran
  | settled named found paypal same files =>
      rw [same]
      exact ⟨fun _ cell present => ⟨cell, present, le_rfl⟩,
        fun _ done present => .inr ⟨done, present⟩⟩
  | notified named found owned ran same files =>
      obtain ⟨state, refund, from_state, -, stored, -⟩ := recordOnOrder_ok ran
      rw [same]
      refine .written found rfl ?_
      rw [stored]
      exact Nat.le_succ _
  | recorded named found ran same files =>
      obtain ⟨-, stored⟩ := recordOverGateway_ok ran
      rw [same]
      refine .written found rfl ?_
      rw [stored]
      exact Nat.le_succ _

end MarketplaceService
