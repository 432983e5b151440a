import MarketplaceService.PaymentSteps
import MarketplaceService.SettlementAttribution

/-!
Money that a rail has verified secures the payment: it is settled, waits for
the seller, or waits for the second transaction of a confirmation that was
refused. A secured payment stays so, unless it lapses between the two
transactions of a refused confirmation.
-/

namespace MarketplaceService

def Message.isRefusal : Message → Bool
  | .confirmationRefused .. | .fiatRefused | .locksRefused => true
  | _ => false

/-- The payment awaits the second transaction of a refused confirmation. -/
def Cell.refusalOpen (cell : Cell) : Bool :=
  cell.book.payment.state == .awaitingEntitlement && cell.inFlight.any Message.isRefusal

/-- The payment is settled, or a seller or the reaper resolved it, or it waits
for the seller or for the second transaction of a refused confirmation. -/
def Cell.secured (cell : Cell) : Prop :=
  cell.book.payment.state = .confirmed ∨ cell.book.payment.state = .manualReview ∨
    cell.book.payment.resolution.isSome = true ∨ cell.inWindow ∨ cell.refusalOpen = true

/-- The transactions that apply verified money of the matching amount to the
order's own binding. -/
def OrderAction.verifiesMoney : OrderAction → Bool
  | .applyFiat .. | .reviewFiat | .applyLocks | .reviewLocks | .settleRefused .. => true
  | .applyPoll _ (.confirmed amountMatched facts) =>
      amountMatched && (facts.lateSettlement || facts.allocationMode != .unknown)
  | .settleAdvanced _ confirmed amountMatched _ => confirmed && amountMatched
  | _ => false

/-- The step lets an awaiting payment lapse: a sweep finds the order's window or
its idle checkout due, or a pending Paykit order is cancelled. -/
def OrderAction.lapsesPayment (action : OrderAction) (book : OrderBook) (now : Time) : Bool :=
  match action with
  | .expireWindow => heldDueOrder book.order now
  | .expireIdle checkoutHoldWindowSeconds =>
      idleUnboundOrder book.order checkoutHoldWindowSeconds now
  | .cancel .. => book.payment.adapter == .paykit && book.order.state == .pendingPayment
  | _ => false

/-- No payment lapses between the two transactions of a refused
confirmation. -/
def RefusalKept (now : Time) (cell : Cell) (action : OrderAction) : Prop :=
  cell.refusalOpen = true → action.lapsesPayment cell.book now = false

instance (now : Time) (cell : Cell) (action : OrderAction) :
    Decidable (RefusalKept now cell action) :=
  inferInstanceAs (Decidable (_ → _))

section Messages

variable {references : References} {inventory after : Inventory} {cell done : Cell} {now : Time}
  {action : OrderAction}

theorem stepCell_transacts
    (stepped : stepCell references inventory cell now action = some (after, done)) :
    ∃ effect, transact references ⟨inventory, cell.book⟩ now action = some effect ∧
      after = effect.view.inventory ∧ done = cell.after action effect := by
  unfold stepCell at stepped
  obtain ⟨-, stepped⟩ := Option.ite_none_right_eq_some.mp stepped
  obtain ⟨effect, ran, same⟩ := Option.map_eq_some_iff.mp stepped
  cases same
  exact ⟨effect, ran, rfl, rfl⟩

theorem Cell.after_sent {effect : Effect} {message : Message} (sent : message ∈ effect.sent) :
    message ∈ (cell.after action effect).inFlight :=
  List.mem_append_right _ sent

theorem Cell.after_inFlight {effect : Effect} {message : Message}
    (present : message ∈ (cell.after action effect).inFlight) :
    message ∈ cell.inFlight ∨ message ∈ effect.sent := by
  rcases List.mem_append.mp present with waiting | sent
  · left
    split at waiting
    · exact waiting
    · exact List.mem_of_mem_erase waiting
  · exact .inr sent

/-- A message in flight stays until a step applies it. -/
theorem Cell.after_waits {effect : Effect} {message : Message} (waiting : message ∈ cell.inFlight)
    (other : action.consumes ≠ some message) :
    message ∈ (cell.after action effect).inFlight := by
  apply List.mem_append_left
  cases spent : action.consumes with
  | none => exact waiting
  | some consumed =>
      have differs : message ≠ consumed := fun same => other (spent.trans (congrArg some same.symm))
      exact (List.mem_erase_of_ne differs).mpr waiting

theorem Cell.refusalOpen_iff (cell : Cell) :
    cell.refusalOpen = true ↔ cell.book.payment.state = .awaitingEntitlement ∧
      ∃ message ∈ cell.inFlight, message.isRefusal = true := by
  simp [Cell.refusalOpen]

theorem Sound.refusal_bound (sound : Sound cell) {message : Message}
    (waiting : message ∈ cell.inFlight) (refusal : message.isRefusal = true) :
    cell.book.standing.adapter ≠ .sandbox ∧
      cell.book.standing.activation ≠ some .preparing := by
  have coherent := sound.coherent
  have backed := sound.backed message waiting
  have bound {adapter : Adapter} (same : cell.book.standing.adapter = adapter)
      (real : adapter ≠ .sandbox) (other : adapter ≠ .paykit) :
      cell.book.standing.adapter ≠ .sandbox ∧
        cell.book.standing.activation ≠ some .preparing := by
    refine ⟨fun sandbox => real (same.symm.trans sandbox), fun preparing => other ?_⟩
    exact same.symm.trans (coherent.bitcoin.mp (coherent.preparing preparing).1)
  cases message with
  | confirmationRefused row amountMatched observation =>
      obtain ⟨method, active⟩ := backed
      refine ⟨?_, ?_⟩
      · rw [coherent.bitcoin.mp method]
        simp
      · rw [active]
        simp
  | fiatRefused =>
      rcases backed with method | method
      · exact bound (coherent.stripe.mp method) (by simp) (by simp)
      · exact bound (coherent.paypal.mp method) (by simp) (by simp)
  | locksRefused => exact bound (coherent.locks.mp backed) (by simp) (by simp)
  | _ => cases refusal

end Messages

/-! What each rail's transaction leaves. -/

section Rails

variable {view after : View} {now : Time}

def Payment.isSettled (payment : Payment) : Prop :=
  payment.state = .manualReview ∨ payment.state = .confirmed

theorem applyLateMoney_settles {outcome : LateMoneyOutcome}
    (applied : applyLateMoney view view.book.order now = .ok (outcome, after)) :
    after.book.payment.isSettled :=
  (applyLateMoney_moves applied).decided.payment

theorem confirmAwaiting_settles (ran : confirmAwaiting view now = .ok (.done after)) :
    after.book.payment.isSettled := by
  have settled := confirmAwaiting_moves ran
  exact settled.decided.payment

def Payment.Answered (before after : Payment) : Prop :=
  after.isSettled ∨
    before.state ≠ .awaitingEntitlement ∧ before.state ≠ .expired ∧ after.state = before.state

theorem applyFiatPaid_answers {transactionRef : Option String} {verifiedBy : VerifiedBy}
    {result : ConfirmResult}
    (applied : applyFiatPaid view transactionRef verifiedBy now = .ok result) :
    match result with
    | .refused => view.book.payment.state = .awaitingEntitlement
    | .done after => view.book.payment.Answered after.book.payment := by
  unfold applyFiatPaid at applied
  split at applied
  · obtain ⟨⟨outcome, settled⟩, late, written⟩ := Outcome.bind_ok applied
    cases Outcome.pure_ok written
    exact .inl (applyLateMoney_settles late)
  · rename_i unexpired
    split at applied
    · rename_i advanced
      cases applied
      exact .inr ⟨advanced, unexpired, rfl⟩
    · rename_i awaiting
      rw [not_not] at awaiting
      simp only at applied
      split at applied
      · obtain ⟨routed, ran, written⟩ := Outcome.bind_ok applied
        cases Outcome.pure_ok written
        obtain ⟨-, -, book, -⟩ := refundRequired_ok ran
        refine .inl (.inl ?_)
        rw [book]
        rfl
      · cases result with
        | refused => exact awaiting
        | done after => exact .inl (confirmAwaiting_settles applied)

theorem applyCompletedLifecycle_answers {result : ConfirmResult}
    (applied : applyCompletedLifecycle view now = .ok result) :
    match result with
    | .refused => view.book.payment.state = .awaitingEntitlement
    | .done after => view.book.payment.Answered after.book.payment := by
  unfold applyCompletedLifecycle at applied
  split at applied
  · rename_i awaiting
    obtain ⟨confirmed, ran, written⟩ := Outcome.bind_ok applied
    cases confirmed with
    | refused =>
        cases Outcome.pure_ok written
        exact awaiting
    | done settled =>
        cases Outcome.pure_ok written
        have answered : settled.book.payment.isSettled := confirmAwaiting_settles ran
        exact .inl answered
  · rename_i advanced
    split at applied
    · obtain ⟨⟨outcome, settled⟩, late, written⟩ := Outcome.bind_ok applied
      cases Outcome.pure_ok written
      have answered : settled.book.payment.isSettled := applyLateMoney_settles late
      exact .inl answered
    · rename_i unexpired
      cases applied
      exact .inr ⟨advanced, unexpired, rfl⟩

theorem consumeReport_payment {book consumed : OrderBook} {report : Option Observation}
    {observation : PaykitObservation} (ran : consumeReport book report observation = .ok consumed) :
    consumed.payment = book.payment := by
  obtain ⟨stored, observed, rfl, -⟩ := consumeReport_ok ran
  rfl

theorem applyOnTimePaykitPayment_settles {amountMatched : Bool} {observation : PaykitObservation}
    (applied : applyOnTimePaykitPayment view amountMatched observation now = .ok (.done after)) :
    after.book.payment.isSettled := by
  have reviewed {report : Option Observation}
      (ran : (do
        let reviewed ← reviewAmountMismatch view.book now
        let consumed ← consumeReport reviewed report observation
        return SettleResult.done { view with book := consumed }) = .ok (.done after)) :
      after.book.payment.isSettled := by
    obtain ⟨reviewed, first, rest⟩ := Outcome.bind_ok ran
    obtain ⟨consumed, second, written⟩ := Outcome.bind_ok rest
    cases Outcome.pure_ok written
    rw [Payment.isSettled, consumeReport_payment second]
    obtain ⟨rfl, -⟩ := updatePayment_ok first
    exact .inl rfl
  unfold applyOnTimePaykitPayment at applied
  simp only at applied
  split at applied
  · exact reviewed applied
  · split at applied
    · exact reviewed applied
    · split at applied
      · obtain ⟨routed, first, rest⟩ := Outcome.bind_ok applied
        obtain ⟨consumed, second, written⟩ := Outcome.bind_ok rest
        cases Outcome.pure_ok written
        obtain ⟨-, -, book, -⟩ := refundRequired_ok first
        rw [Payment.isSettled, consumeReport_payment second, book]
        exact .inl rfl
      · split at applied
        · cases applied
        · cases applied
        · obtain ⟨paid, first, rest⟩ := Outcome.bind_ok applied
          obtain ⟨consumed, second, written⟩ := Outcome.bind_ok rest
          cases Outcome.pure_ok written
          rw [Payment.isSettled, consumeReport_payment second]
          obtain ⟨rfl, -⟩ := updatePayment_ok first
          exact .inr rfl

theorem applyConfirmedPaykitPayment_answers {row : ClaimedPaykitOrder} {amountMatched late : Bool}
    {observation : PaykitObservation} {result : SettleResult} (pinned : row.pinsPresent = true)
    (applied : applyConfirmedPaykitPayment view row amountMatched observation late now =
      .ok result) :
    match result with
    | .confirmationRefused => view.book.payment.state = .awaitingEntitlement
    | .done after => view.book.payment.Answered after.book.payment ∨
        after = view ∧ view.book.order.paykitRequestState = some .awaitingSellerConfirmation := by
  unfold applyConfirmedPaykitPayment at applied
  split at applied
  · rename_i inside
    cases applied
    exact .inr ⟨rfl, inside⟩
  · split at applied
    · obtain ⟨settled, ran, written⟩ := Outcome.bind_ok applied
      cases Outcome.pure_ok written
      unfold applyLatePaykitPayment at ran
      simp only [pinned, Bool.not_true, Bool.false_eq_true, if_false] at ran
      obtain ⟨consumed, -, rest⟩ := Outcome.bind_ok ran
      obtain ⟨⟨outcome, completed⟩, late, written⟩ := Outcome.bind_ok rest
      cases Outcome.pure_ok written
      have answered : completed.book.payment.isSettled := applyLateMoney_settles late
      exact .inl (.inl answered)
    · rename_i on_time
      rw [not_or] at on_time
      split at applied
      · rename_i advanced
        cases applied
        exact .inl (.inr ⟨advanced, on_time.1, rfl⟩)
      · rename_i awaiting
        cases result with
        | confirmationRefused => exact not_not.mp awaiting
        | done after => exact .inl (.inl (applyOnTimePaykitPayment_settles applied))

theorem enterSellerWindow_inside {report : Observation} {observation : PaykitObservation}
    {request : RequestState} (sent : view.book.order.paykitRequestState = some request)
    (open_request : request ≠ .preparing ∧ request ≠ .confirmed)
    (ran : enterSellerWindow view report observation now = .ok after) :
    after.book.order.paykitRequestState = some .awaitingSellerConfirmation := by
  unfold enterSellerWindow at ran
  simp only at ran
  split at ran
  · obtain ⟨opened, first, rest⟩ := Outcome.bind_ok ran
    obtain ⟨rfl, -⟩ := updateOrder_ok first
    obtain ⟨seen, froze, written⟩ := Outcome.bind_ok rest
    obtain ⟨observed, rfl, -⟩ := freezePaykitObservation_ok froze
    split at written
    · cases Outcome.pure_ok written
      rfl
    · cases Outcome.pure_ok written
      rfl
  · rename_i waited
    have inside : view.book.order.paykitRequestState = some .awaitingSellerConfirmation := by
      rw [sent] at waited ⊢
      cases request with
      | preparing => exact absurd rfl open_request.1
      | confirmed => exact absurd rfl open_request.2
      | pending => exact absurd (.inl rfl) waited
      | detected => exact absurd (.inr rfl) waited
      | awaitingSellerConfirmation => rfl
    cases ran
    unfold refreshSellerConfirmationFacts
    rw [if_pos inside]
    exact inside

theorem reviewAwaiting_reviews {book reviewed : OrderBook}
    (awaiting : book.payment.state = .awaitingEntitlement)
    (ran : reviewAwaiting book now = .ok reviewed) : reviewed.payment.isSettled := by
  unfold reviewAwaiting at ran
  rw [if_pos awaiting] at ran
  obtain ⟨rfl, -⟩ := updatePayment_ok ran
  exact .inl rfl

theorem second_settles {references : References} {action : OrderAction} {effect : Effect}
    {message : Message} (awaiting : view.book.payment.state = .awaitingEntitlement)
    (applies : action.consumes = some message) (refusal : message.isRefusal = true)
    (ran : transact references view now action = some effect) :
    effect.view.book.payment.isSettled := by
  cases action with
  | settleRefused row amountMatched observation =>
      obtain ⟨book, settled, rfl⟩ := Option.map_eq_some_iff.mp ran
      have done := Outcome.toOption_some settled
      unfold settleFallback at done
      rw [if_pos awaiting] at done
      obtain ⟨reviewed, first, second⟩ := Outcome.bind_ok done
      rw [Payment.isSettled, consumeReport_payment second]
      obtain ⟨rfl, -⟩ := updatePayment_ok first
      exact .inl rfl
  | reviewFiat =>
      obtain ⟨book, settled, rfl⟩ := Option.map_eq_some_iff.mp ran
      exact reviewAwaiting_reviews awaiting (Outcome.toOption_some settled)
  | reviewLocks =>
      obtain ⟨book, settled, rfl⟩ := Option.map_eq_some_iff.mp ran
      have done := Outcome.toOption_some settled
      unfold locksReview at done
      obtain ⟨reviewed, first, written⟩ := Outcome.bind_ok done
      cases Outcome.pure_ok written
      have answered : reviewed.payment.isSettled := reviewAwaiting_reviews awaiting first
      exact answered
  | _ =>
      cases applies
      all_goals cases refusal

/-- A confirmation is refused for an awaiting payment, and nothing is
written. -/
theorem refusal_sent {references : References} {action : OrderAction} {effect : Effect}
    {message : Message} (ran : transact references view now action = some effect)
    (sent : message ∈ effect.sent) (refusal : message.isRefusal = true) :
    effect.view.book.payment.state = .awaitingEntitlement := by
  have refused {waits : Message} {result : Except Failure ConfirmResult}
      (answers : result = .ok .refused → view.book.payment.state = .awaitingEntitlement)
      (ran : Effect.ofConfirm view waits result = some effect) :
      effect.view.book.payment.state = .awaitingEntitlement := by
    obtain ⟨answer, settled, rfl⟩ := Option.map_eq_some_iff.mp ran
    cases answer with
    | refused => exact answers (Outcome.toOption_some settled)
    | done after => cases sent
  have sends := transact_sends ran sent
  generalize stored : effect.view = after at sends
  cases sends with
  | confirmationRefused claim awaiting => exact awaiting
  | fiatRefused =>
      rw [← stored]
      exact refused (fun ran => applyFiatPaid_answers ran) ran
  | locksRefused =>
      rw [← stored]
      exact refused (fun ran => applyCompletedLifecycle_answers ran) ran
  | stripePaid verified =>
      obtain ⟨transactionRef, rfl, -⟩ := verifyStripe_ok verified
      cases refusal
  | paypalPaid verified =>
      rw [(verifyPaypal_ok verified).1] at refusal
      cases refusal
  | _ => cases refusal

/-- A claim was read from the order, with its pins and the state of its request,
or comes from the message that the step applies. -/
theorem Sends.claimed {action : OrderAction} {message : Message} {row : ClaimedPaykitOrder}
    (coherent : Coherent view.book.standing) (sends : Sends now view action after message)
    (named : message.claim = some row) :
    (row.pinsPresent = true ∧ after = view ∧
        view.book.order.paykitRequestState = some row.paykitRequestState) ∨
      ∃ spent ∈ action.consumes, spent.claim = some row := by
  cases sends with
  | polled claimed =>
      cases named
      have bound := (claimPaykitOrder_backed coherent claimed).1
      unfold claimPaykitOrder at claimed
      split at claimed
      · rename_i reference state named request
        obtain ⟨-, same⟩ := Option.ite_none_right_eq_some.mp claimed
        cases same
        exact .inl ⟨coherent.pinned bound, rfl, request⟩
      · cases claimed
  | @delivered polled delivery after => exact .inr ⟨.polled polled, rfl, named⟩
  | @confirmationRefused action refused amountMatched observation claim awaiting =>
      cases named
      right
      cases action <;> first | exact ⟨_, rfl, claim⟩ | cases claim
  | @paymentAdvanced polled outcome confirmed amountMatched observation =>
      exact .inr ⟨.polled polled, rfl, named⟩
  | stripePaid verified =>
      obtain ⟨transactionRef, rfl, -⟩ := verifyStripe_ok verified
      cases named
  | paypalPaid verified =>
      rw [(verifyPaypal_ok verified).1] at named
      cases named
  | _ => cases named

end Rails

/-! The cell after a step. -/

/-- A message tells of money that secured the payment: a refused confirmation,
or a claim that was made inside the seller window. -/
def Message.tellsMoney (message : Message) : Prop :=
  message.isRefusal = true ∨
    ∃ row ∈ message.claim, row.paykitRequestState = .awaitingSellerConfirmation

/-- What a cell keeps beside its soundness: only the sandbox marks a payment
detected, an activated request was sent, and a message under way carries the
pins of its claim and tells of no money that did not secure the payment. -/
structure Owed (cell : Cell) : Prop where
  detected : cell.book.payment.state = .detected → cell.book.payment.adapter = .sandbox
  sent : cell.book.standing.Sent
  pinned : ∀ message ∈ cell.inFlight, ∀ row ∈ message.claim, row.pinsPresent = true
  told : ∀ message ∈ cell.inFlight, message.tellsMoney → cell.secured

section Steps

variable {references : References} {inventory after : Inventory} {cell done : Cell} {now : Time}
  {action : OrderAction}

theorem CellStep.paymentStep (step : CellStep references now inventory cell action after done)
    (sound : Sound cell) :
    PaymentStep cell.book.standing action done.book.standing := by
  obtain ⟨moved, move, tidied⟩ := step.moves
  have same := tidied.eq
  cases move.paymentStep sound.coherent with
  | kept payment adapter =>
      rw [same]
      exact .kept payment adapter
  | lapsed awaiting expired lapses =>
      rw [same]
      exact .lapsed awaiting expired lapses
  | settled unsettled settled =>
      rw [same]
      exact .settled unsettled settled
  | resolved review resolved closed =>
      rw [same]
      exact .resolved review resolved closed
  | sandbox sandbox kept unsettled =>
      rw [same]
      exact .sandbox sandbox kept unsettled

theorem CellStep.confirmed_stays (step : CellStep references now inventory cell action after done)
    (sound : Sound cell) (confirmed : cell.book.payment.state = .confirmed) :
    done.book.payment.state = .confirmed := by
  have paid : cell.book.standing.payment = .confirmed := confirmed
  cases step.paymentStep sound with
  | kept same adapter => exact same.trans paid
  | lapsed awaiting expired lapses => cases paid.symm.trans awaiting
  | settled unsettled settled => exact absurd paid unsettled.1
  | resolved review resolved closed => cases paid.symm.trans review
  | sandbox sandbox adapter unsettled =>
      rcases unsettled with same | same <;> cases paid.symm.trans same

theorem CellStep.resolved_kept (step : CellStep references now inventory cell action after done)
    (sound : Sound cell) (resolved : cell.book.payment.resolution.isSome = true) :
    done.book.payment.resolution.isSome = true := by
  obtain ⟨moved, move, tidied⟩ := step.moves
  have kept : moved.resolved = true := by
    cases move.decision sound.coherent with
    | undecided same => exact same.resolved.trans resolved
    | confirmed window awaiting confirmed pinned =>
        cases confirmed
        exact resolved
    | resolved review resolved pinned => rfl
  exact (congrArg Standing.resolved tidied.eq).trans kept

theorem Cell.secured_of_settled (settled : done.book.payment.isSettled) : done.secured := by
  rcases settled with review | confirmed
  · exact .inr (.inl review)
  · exact .inl confirmed

/-- A confirmation that is refused leaves its second transaction. -/
theorem Cell.secured_of_refusal {effect : Effect} {message : Message}
    (ran : transact references ⟨inventory, cell.book⟩ now action = some effect)
    (sent : message ∈ effect.sent) (refusal : message.isRefusal = true) :
    (cell.after action effect).secured := by
  have awaiting := refusal_sent ran sent refusal
  exact .inr (.inr (.inr (.inr ((Cell.refusalOpen_iff _).mpr
    ⟨awaiting, message, Cell.after_sent sent, refusal⟩))))

theorem lapsesPayment_of_lapsed (unsettled : cell.book.payment.state ≠ .expired)
    (lapsed : done.book.payment.state = .expired) (lapses : Lapses cell.book.standing action)
    (bound : cell.book.standing.activation ≠ some .preparing)
    (stepped : stepCell references inventory cell now action = some (after, done)) :
    action.lapsesPayment cell.book now = true := by
  obtain ⟨effect, ran, -, rfl⟩ := stepCell_transacts stepped
  -- A sweep that finds the order not due leaves its rows.
  have idle (same : effect.view.book = cell.book) {due : Prop} : due := by
    have kept := congrArg (fun book : OrderBook => book.payment.state) same
    exact absurd (kept.symm.trans lapsed) unsettled
  cases lapses with
  | window =>
      by_contra undue
      change Effect.ofView (expireDuePaymentWindow _ now) = some effect at ran
      rw [expireDuePaymentWindow, if_neg (by simp_all [OrderAction.lapsesPayment])] at ran
      cases ran
      exact idle rfl
  | @idle checkoutHoldWindowSeconds =>
      by_contra undue
      change Option.map _ (expireIdleUnboundCheckout _ _ now).toOption = some effect at ran
      rw [expireIdleUnboundCheckout, if_neg (by simp_all [OrderAction.lapsesPayment])] at ran
      cases ran
      exact idle rfl
  | cancel paykit pending =>
      have adapter : cell.book.payment.adapter = .paykit := paykit
      have state : cell.book.order.state = .pendingPayment := pending
      simp [OrderAction.lapsesPayment, adapter, state]
  | preparing preparing => exact absurd preparing bound

/-- A step keeps a payment secured, unless it lets it lapse between the two
transactions of a refused confirmation. -/
theorem Cell.secured_step (sound : Sound cell) (secured : cell.secured)
    (kept : RefusalKept now cell action)
    (stepped : stepCell references inventory cell now action = some (after, done)) :
    done.secured := by
  have step := stepCell_steps sound stepped
  have payment := step.paymentStep sound
  rcases secured with confirmed | review | resolved | inside | refusal
  · exact .inl (step.confirmed_stays sound confirmed)
  · have reviewed : cell.book.standing.payment = .manualReview := review
    cases payment with
    | kept same adapter => exact .inr (.inl (same.trans reviewed))
    | lapsed awaiting expired lapses =>
        rw [reviewed] at awaiting
        cases awaiting
    | settled unsettled settled => exact absurd reviewed unsettled.2
    | resolved review resolved closed => exact .inr (.inr (.inl resolved))
    | sandbox sandbox adapter unsettled =>
        rcases unsettled with same | same <;> rw [reviewed] at same <;> cases same
  · exact .inr (.inr (.inl (step.resolved_kept sound resolved)))
  · obtain ⟨moved, move, tidied⟩ := step.moves
    have settled (same : moved.payment = .manualReview ∨ moved.payment = .confirmed) :
        done.secured := by
      apply Cell.secured_of_settled
      rw [Payment.isSettled, show done.book.payment.state = moved.payment from
        congrArg Standing.payment tidied.eq]
      exact same
    have waits (same : moved.request = some .awaitingSellerConfirmation) : done.secured :=
      .inr (.inr (.inr (.inl ((congrArg Standing.request tidied.eq).trans same))))
    cases move.inside sound.coherent step.speaks inside with
    | kept => exact waits inside
    | refreshed rail amount => exact waits inside
    | confirmed confirmed =>
        cases confirmed
        exact settled (.inr rfl)
    | lapsed opened due => exact settled (.inl rfl)
    | refused fallback settles => exact settled settles.decided.payment
  · obtain ⟨awaiting, message, waiting, refused⟩ := cell.refusalOpen_iff.mp refusal
    have bound := sound.refusal_bound waiting refused
    cases payment with
    | settled unsettled settled => exact Cell.secured_of_settled settled
    | resolved review resolved closed =>
        have opened : cell.book.standing.payment = .awaitingEntitlement := awaiting
        rw [opened] at review
        cases review
    | sandbox sandbox adapter unsettled => exact absurd sandbox bound.1
    | lapsed opened expired lapses =>
        have unsettled : cell.book.payment.state ≠ .expired := by
          intro expired
          cases expired.symm.trans awaiting
        have lapsing := lapsesPayment_of_lapsed unsettled expired lapses bound.2 stepped
        rw [kept refusal] at lapsing
        cases lapsing
    | kept same adapter =>
        have open_payment : done.book.payment.state = .awaitingEntitlement :=
          Eq.trans same awaiting
        by_cases applied : action.consumes = some message
        · obtain ⟨effect, ran, -, rfl⟩ := stepCell_transacts stepped
          exact Cell.secured_of_settled (second_settles awaiting applied refused ran)
        · obtain ⟨effect, -, -, rfl⟩ := stepCell_transacts stepped
          refine .inr (.inr (.inr (.inr ?_)))
          exact (Cell.refusalOpen_iff _).mpr
            ⟨open_payment, message, Cell.after_waits waiting applied, refused⟩

theorem Owed.step (owed : Owed cell) (sound : Sound cell) (kept : RefusalKept now cell action)
    (stepped : stepCell references inventory cell now action = some (after, done)) : Owed done := by
  have step := stepCell_steps sound stepped
  have secured (secured : cell.secured) : done.secured :=
    Cell.secured_step sound secured kept stepped
  refine ⟨?_, ?_, ?_, ?_⟩
  · intro detected
    cases step.paymentStep sound with
    | kept payment adapter =>
        have was : cell.book.standing.payment = .detected := payment.symm.trans detected
        exact (adapter was).trans (owed.detected was)
    | lapsed awaiting expired lapses => cases expired.symm.trans detected
    | settled unsettled settled =>
        rcases settled with same | same <;> cases same.symm.trans detected
    | resolved review resolved closed =>
        rcases closed with same | same <;> cases same.symm.trans detected
    | sandbox sandbox kept unsettled => exact kept
  · obtain ⟨moved, move, tidied⟩ := step.moves
    have sent := move.sent owed.sent
    rw [tidied.eq]
    exact sent
  · intro message present row named
    rcases step.sends message present with old | sends
    · exact owed.pinned message old row named
    · rcases sends.claimed sound.coherent named with ⟨pinned, -⟩ | ⟨spent, consumed, claim⟩
      · exact pinned
      · exact owed.pinned spent (step.consumed spent consumed) row claim
  · intro message present tells
    rcases step.sends message present with old | sends
    · exact secured (owed.told message old tells)
    · rcases tells with refusal | ⟨row, named, waited⟩
      · obtain ⟨effect, ran, rfl, rfl⟩ := stepCell_transacts stepped
        rcases Cell.after_inFlight present with old | sent
        · exact secured (owed.told message old (.inl refusal))
        · exact Cell.secured_of_refusal ran sent refusal
      · rcases sends.claimed sound.coherent named with ⟨-, same, request⟩ | ⟨spent, consumed, claim⟩
        · have inside : cell.inWindow := request.trans (congrArg some waited)
          exact secured (.inr (.inr (.inr (.inl inside))))
        · exact secured (owed.told spent (step.consumed spent consumed) (.inr ⟨row, claim, waited⟩))

theorem Fresh.owed {book : OrderBook} (fresh : Fresh book) : Owed (newCell book) := by
  obtain ⟨held, start⟩ := fresh.standing
  have same : (newCell book).book.standing = book.order.terms.start held := start
  refine ⟨?_, ?_, ?_, ?_⟩
  · intro detected
    have state : (newCell book).book.payment.state = .awaitingEntitlement :=
      congrArg Standing.payment same
    rw [state] at detected
    cases detected
  · intro active
    rw [same] at active
    cases active
  · intro message waiting
    cases waiting
  · intro message waiting
    cases waiting

theorem reachable_owed {sys : Sys}
    (reached : Runs.Reachable (marketplace references) (eachOrderAt RefusalKept) sys) {id : OrderId}
    (found : sys.cells.find? id = some cell) : Sound cell ∧ Owed cell := by
  refine cells_invariant Owed (fun book fresh => fresh.owed) ?_ reached found
  intro sys id now action cell inventory done found meets sound owed ran
  exact owed.step sound (eachOrderAt_order meets found) ran

/-! Money applied. -/

/-- The payment is secured, or the second transaction of a matching report is
under way. -/
def Cell.honoured (cell : Cell) : Prop :=
  cell.secured ∨ ∃ row observation, .paymentAdvanced row true true observation ∈ cell.inFlight

theorem Owed.answered (owed : Owed cell) (bound : cell.book.payment.adapter ≠ .sandbox)
    (answered : cell.book.payment.Answered done.book.payment) : done.secured := by
  rcases answered with settled | ⟨advanced, unexpired, same⟩
  · exact Cell.secured_of_settled settled
  · cases state : cell.book.payment.state with
    | awaitingEntitlement => exact absurd state advanced
    | expired => exact absurd state unexpired
    | detected => exact absurd (owed.detected state) bound
    | confirmed => exact .inl (same.trans state)
    | manualReview => exact .inr (.inl (same.trans state))

theorem Sound.claim_bound (sound : Sound cell) {message : Message} {row : ClaimedPaykitOrder}
    (waiting : message ∈ cell.inFlight) (named : message.claim = some row) :
    cell.book.order.paymentMethod = some .bitcoin ∧ cell.book.payment.adapter ≠ .sandbox := by
  have backed := sound.backed message waiting
  have bound : cell.book.standing.method = some .bitcoin := by
    cases message <;> first | exact backed.1 | cases named
  refine ⟨bound, ?_⟩
  have paykit : cell.book.payment.adapter = .paykit := sound.coherent.bitcoin.mp bound
  rw [paykit]
  simp

theorem Owed.confirms (owed : Owed cell) {effect : Effect} {waits : Message}
    {result : Except Failure ConfirmResult}
    (ran : transact references ⟨inventory, cell.book⟩ now action = some effect)
    (confirms : Effect.ofConfirm ⟨inventory, cell.book⟩ waits result = some effect)
    (refusal : waits.isRefusal = true) (bound : cell.book.payment.adapter ≠ .sandbox)
    (answers : ∀ view, result = .ok (.done view) →
      cell.book.payment.Answered view.book.payment) :
    (cell.after action effect).secured := by
  rcases Effect.ofConfirm_some confirms with ⟨view, ended, same, -⟩ | ⟨-, sent⟩
  · apply owed.answered bound
    have answered := answers view ended
    rw [← same] at answered
    exact answered
  · apply Cell.secured_of_refusal ran _ refusal
    rw [sent]
    exact List.mem_singleton_self waits

theorem Owed.settles (owed : Owed cell) {effect : Effect} {row : ClaimedPaykitOrder}
    {amountMatched late : Bool} {observation : PaykitObservation}
    (ran : transact references ⟨inventory, cell.book⟩ now action = some effect)
    (settles : settleConfirmed ⟨inventory, cell.book⟩ row amountMatched observation late now =
      some effect)
    (bound : cell.book.payment.adapter ≠ .sandbox) (pinned : row.pinsPresent = true) :
    (cell.after action effect).secured := by
  rcases Effect.ofSettle_some settles with ⟨view, ended, same, -⟩ | ⟨-, -, sent⟩
  · rcases applyConfirmedPaykitPayment_answers pinned ended with answered | ⟨kept, inside⟩
    · apply owed.answered bound
      rw [← same] at answered
      exact answered
    · subst kept
      refine .inr (.inr (.inr (.inl ?_)))
      rw [Cell.inWindow, Cell.after, same]
      exact inside
  · have refused : .confirmationRefused row amountMatched observation ∈ effect.sent := by
      rw [sent]
      exact List.mem_singleton_self _
    exact Cell.secured_of_refusal ran refused rfl

/-- The first transaction of a matching report of a shared request: the payment
waits for the seller, or its second transaction is under way. -/
theorem Owed.observes (owed : Owed cell) (sound : Sound cell) {effect : Effect}
    {row : ClaimedPaykitOrder} {observation : PaykitObservation}
    (waiting : .polled row ∈ cell.inFlight)
    (observed : observeShared ⟨inventory, cell.book⟩ row true true observation now = some effect) :
    (cell.after action effect).honoured := by
  obtain ⟨result, ended, same⟩ := Option.map_eq_some_iff.mp observed
  have ran := Outcome.toOption_some ended
  unfold applySharedManualObservation at ran
  rw [owed.pinned _ waiting row rfl] at ran
  simp only [Bool.not_true, Bool.false_eq_true, if_false] at ran
  split at ran
  · cases ran
    right
    refine ⟨row, observation, Cell.after_sent ?_⟩
    rw [← same]
    exact List.mem_singleton_self _
  · rename_i awaiting
    rw [not_not] at awaiting
    obtain ⟨entered, first, written⟩ := Outcome.bind_ok ran
    cases Outcome.pure_ok written
    left
    refine .inr (.inr (.inr (.inl ?_)))
    rw [Cell.inWindow, Cell.after, ← same]
    have backed := sound.backed _ waiting
    obtain ⟨-, -, some_request, unconfirmed⟩ := sound.coherent.open_payment backed.1 awaiting
    obtain ⟨request, sent⟩ := Option.isSome_iff_exists.mp some_request
    refine enterSellerWindow_inside sent ⟨?_, ?_⟩ first
    · rintro rfl
      exact owed.sent backed.2 sent
    · rintro rfl
      exact unconfirmed sent

theorem verified_honoured (owed : Owed cell) (sound : Sound cell)
    (kept : RefusalKept now cell action)
    (verifies : action.verifiesMoney = true)
    (stepped : stepCell references inventory cell now action = some (after, done)) :
    done.honoured := by
  have consumed := (stepCell_steps sound stepped).consumed
  have secured (secured : cell.secured) : done.honoured :=
    .inl (Cell.secured_step sound secured kept stepped)
  obtain ⟨effect, ran, rfl, rfl⟩ := stepCell_transacts stepped
  cases action with
  | applyFiat transactionRef verifiedBy =>
      left
      refine owed.confirms ran ran rfl ?_ fun view ended => applyFiatPaid_answers ended
      have backed := sound.backed _ (consumed _ rfl)
      intro sandbox
      have adapter : cell.book.standing.adapter = .sandbox := sandbox
      have stripe (bound : cell.book.standing.method = some .stripe) : False := by
        rw [sound.coherent.stripe.mp bound] at adapter
        cases adapter
      have paypal (bound : cell.book.standing.method = some .paypal) : False := by
        rw [sound.coherent.paypal.mp bound] at adapter
        cases adapter
      cases verifiedBy with
      | processor => exact stripe backed.1
      | _ => exact paypal backed
  | reviewFiat => exact secured (owed.told _ (consumed _ rfl) (.inl rfl))
  | applyLocks =>
      left
      refine owed.confirms ran ran rfl ?_ fun view ended => applyCompletedLifecycle_answers ended
      have locks : cell.book.payment.adapter = .locks :=
        sound.coherent.locks.mp (sound.backed _ (consumed _ rfl))
      rw [locks]
      simp
  | reviewLocks => exact secured (owed.told _ (consumed _ rfl) (.inl rfl))
  | settleRefused row amountMatched observation =>
      exact secured (owed.told _ (consumed _ rfl) (.inl rfl))
  | settleAdvanced row confirmed amountMatched observation =>
      obtain ⟨rfl, rfl⟩ := Bool.and_eq_true_iff.mp verifies
      have waiting := consumed _ rfl
      exact .inl (owed.settles ran ran (sound.claim_bound waiting rfl).2
        (owed.pinned _ waiting row rfl))
  | applyPoll row outcome =>
      have waiting := consumed _ rfl
      by_cases waited : row.paykitRequestState = .awaitingSellerConfirmation
      · exact secured (owed.told _ waiting (.inr ⟨row, rfl, waited⟩))
      · have answered : applyPaykitStatusOutcome _ row outcome now = some effect := ran
        unfold applyPaykitStatusOutcome at answered
        rw [if_neg waited] at answered
        have bound := (sound.claim_bound waiting rfl).2
        have pinned := owed.pinned _ waiting row rfl
        cases outcome with
        | confirmed amountMatched facts =>
            simp only at answered
            split at answered
            · exact .inl (owed.settles ran answered bound pinned)
            · rename_i on_time
              split at answered
              · obtain ⟨rfl, -⟩ := Bool.and_eq_true_iff.mp verifies
                exact owed.observes sound waiting answered
              · exact .inl (owed.settles ran answered bound pinned)
              · rename_i mode
                simp [OrderAction.verifiesMoney, on_time, mode] at verifies
        | _ => cases verifies
  | _ => cases verifies

end Steps

end MarketplaceService
