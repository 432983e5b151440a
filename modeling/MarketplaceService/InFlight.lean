import MarketplaceService.Simulation

/-!
Messages in flight. A message remembers what its sender read, and is applied
after any number of other steps. `Sends` says where each message comes from;
`Backed` says what a message may still rely on when it arrives: the order is
bound to the rail the message speaks for.
-/

namespace MarketplaceService

/-! Where messages come from. -/

def OrderAction.claim : OrderAction → Option ClaimedPaykitOrder
  | .applyPoll row _ => some row
  | .settleRefused row _ _ => some row
  | .settleAdvanced row _ _ _ => some row
  | _ => none

inductive Sends (now : Time) (view : View) : OrderAction → View → Message → Prop
  | bindReserved {actor : Pubky} {after : View} {attempt : ℕ} :
      Sends now view (.reserveBind actor) after (.bindReserved attempt)
  | polled {row : ClaimedPaykitOrder} (claimed : claimPaykitOrder view.book now = some row) :
      Sends now view .claimPoll view (.polled row)
  | delivered {row : ClaimedPaykitOrder} {delivery : DeliveryState} {after : View} :
      Sends now view (.recordDelivery row delivery) after (.polled row)
  | confirmationRefused {action : OrderAction} {row : ClaimedPaykitOrder} {amountMatched : Bool}
      {observation : PaykitObservation} (claim : action.claim = some row)
      (awaiting : view.book.payment.state = .awaitingEntitlement) :
      Sends now view action view (.confirmationRefused row amountMatched observation)
  | paymentAdvanced {row : ClaimedPaykitOrder} {outcome : PaykitStatusOutcome}
      {confirmed amountMatched : Bool} {observation : PaykitObservation} :
      Sends now view (.applyPoll row outcome) view
        (.paymentAdvanced row confirmed amountMatched observation)
  | claimedRow {row leaseSeconds : ℕ} {entry : OutboxRow} {after : View}
      (stored : entry ∈ view.book.outbox) (undelivered : entry.deliveredAt = none) :
      Sends now view (.claimOutbox row leaseSeconds) after (.claimedRow row entry)
  | activateSent {row totalSats : ℕ} {entry : OutboxRow} {after : View}
      (activates : entry.kind = .paykitActivate) :
      Sends now view (.sendActivate row entry) after
        (.activateSent row entry.invoiceId totalSats)
  | voidSent {row : ℕ} {entry : OutboxRow} :
      Sends now view (.sendVoid row entry) view (.voidSent row entry.invoiceId)
  | preparingLeased {row leaseSeconds : ℕ} {after : View}
      (due : preparingDue view.book now = true) :
      Sends now view (.leasePreparing leaseSeconds) after (.preparingLeased row)
  | preparingVoidSent {row : ℕ} {pin : PreparingPin}
      (read : readPreparingPin view.book.order = some pin) :
      Sends now view (.sendPreparingVoid row) view (.preparingVoidSent row pin)
  | attemptPolled {invoice : InvoiceId} {claimed : WatchedAttempt} :
      Sends now view (.claimReleased invoice) view (.attemptPolled claimed)
  | stripePaid {actor : Pubky} {session : Option String} {message : Message}
      (verified : verifyStripe view.book actor session = some message) :
      Sends now view (.verifyStripe actor session) view message
  | paypalPaid {transactionRef : Option String} {verifiedBy : VerifiedBy} {message : Message}
      (verified : verifyPaypal view.book transactionRef verifiedBy = some message) :
      Sends now view (.verifyPaypal transactionRef verifiedBy) view message
  | fiatRefused {transactionRef : Option String} {verifiedBy : VerifiedBy} :
      Sends now view (.applyFiat transactionRef verifiedBy) view .fiatRefused
  | locksClaimed (registered : view.book.locks.isSome = true) :
      Sends now view .claimLocks view .locksClaimed
  | locksRefused : Sends now view .applyLocks view .locksRefused
  | sellerConfirming {actor : Pubky} :
      Sends now view (.readSellerConfirm actor) view (.sellerConfirming view.book.order)

section Sending

variable {references : References} {now : Time} {view : View} {action : OrderAction}

theorem applyConfirmedPaykitPayment_refused {row : ClaimedPaykitOrder} {amountMatched late : Bool}
    {observation : PaykitObservation}
    (refused : applyConfirmedPaykitPayment view row amountMatched observation late now =
      .ok .confirmationRefused) : view.book.payment.state = .awaitingEntitlement := by
  unfold applyConfirmedPaykitPayment at refused
  split at refused
  · cases refused
  · split at refused
    · obtain ⟨done, -, written⟩ := Outcome.bind_ok refused
      cases written
    · split at refused
      · cases refused
      · rename_i awaiting
        exact not_not.mp awaiting

theorem settleConfirmed_sends {row : ClaimedPaykitOrder} {amountMatched late : Bool}
    {observation : PaykitObservation} {effect : Effect} {message : Message}
    (claim : action.claim = some row)
    (ran : settleConfirmed view row amountMatched observation late now = some effect)
    (sent : message ∈ effect.sent) : Sends now view action effect.view message := by
  rcases Effect.ofSettle_some ran with ⟨done, -, -, silent⟩ | ⟨answer, same, refused⟩
  · simp [silent] at sent
  · rw [refused] at sent
    rw [List.mem_singleton.mp sent, same]
    exact .confirmationRefused claim (applyConfirmedPaykitPayment_refused answer)

theorem applyPaykitStatusOutcome_sends {row : ClaimedPaykitOrder} {outcome : PaykitStatusOutcome}
    {effect : Effect} {message : Message}
    (ran : applyPaykitStatusOutcome view row outcome now = some effect)
    (sent : message ∈ effect.sent) :
    Sends now view (.applyPoll row outcome) effect.view message := by
  have silent {result : Except Failure OrderBook}
      (ran : Effect.ofBook view result = some effect) :
      Sends now view (.applyPoll row outcome) effect.view message := by
    obtain ⟨book, -, -, none_sent⟩ := Effect.ofBook_some ran
    simp [none_sent] at sent
  have settles {amountMatched late : Bool} {observation : PaykitObservation}
      (ran : settleConfirmed view row amountMatched observation late now = some effect) :
      Sends now view (.applyPoll row outcome) effect.view message :=
    settleConfirmed_sends rfl ran sent
  have observes {confirmed amountMatched : Bool} {observation : PaykitObservation}
      (ran : observeShared view row confirmed amountMatched observation now = some effect) :
      Sends now view (.applyPoll row outcome) effect.view message := by
    rcases Effect.ofShared_some ran with ⟨done, -, -, none_sent⟩ | ⟨same, advanced⟩
    · simp [none_sent] at sent
    · rw [advanced] at sent
      rw [List.mem_singleton.mp sent, same]
      exact .paymentAdvanced
  unfold applyPaykitStatusOutcome at ran
  split at ran
  · exact silent ran
  · cases outcome with
    | confirmed amountMatched facts =>
        simp only at ran
        split at ran
        · exact settles ran
        · split at ran
          · exact observes ran
          · exact settles ran
          · exact silent ran
    | detected facts =>
        simp only at ran
        split at ran
        · exact silent ran
        · split at ran
          · exact observes ran
          · exact silent ran
          · exact silent ran
    | undetected =>
        simp only at ran
        split at ran <;> exact silent ran
    | notFound => exact silent ran
    | unavailable => exact silent ran

section Steps

variable {effect : Effect} {message : Message}

theorem Effect.read_sends {read : Option Message} (ran : Effect.read view read = some effect)
    (sent : message ∈ effect.sent) : read = some message ∧ effect.view = view := by
  obtain ⟨only, named, same, all_sent⟩ := Effect.read_some ran
  rw [all_sent] at sent
  rw [List.mem_singleton.mp sent]
  exact ⟨named, same⟩

theorem Effect.ofConfirm_sends {refused : Message} {result : Except Failure ConfirmResult}
    (ran : Effect.ofConfirm view refused result = some effect) (sent : message ∈ effect.sent) :
    message = refused ∧ effect.view = view := by
  rcases Effect.ofConfirm_some ran with ⟨done, -, -, silent⟩ | ⟨same, all_sent⟩
  · simp [silent] at sent
  · rw [all_sent] at sent
    exact ⟨List.mem_singleton.mp sent, same⟩

theorem claimOutbox_sends {row leaseSeconds : ℕ}
    (ran : transact references view now (.claimOutbox row leaseSeconds) = some effect)
    (sent : message ∈ effect.sent) :
    Sends now view (.claimOutbox row leaseSeconds) effect.view message := by
  obtain ⟨⟨entry, book⟩, claimed, rfl⟩ := Option.map_eq_some_iff.mp ran
  rw [List.mem_singleton.mp sent]
  unfold claimOutboxRow at claimed
  split at claimed
  · cases claimed
  · rename_i stored found
    obtain ⟨free, taken⟩ := Option.ite_none_right_eq_some.mp claimed
    cases taken
    exact .claimedRow (List.mem_of_getElem? found) free.1

theorem sendActivate_sends {row : ℕ} {entry : OutboxRow}
    (ran : transact references view now (.sendActivate row entry) = some effect)
    (sent : message ∈ effect.sent) :
    Sends now view (.sendActivate row entry) effect.view message := by
  simp only [transact, sendActivate] at ran
  obtain ⟨activates, ran⟩ := Option.ite_none_right_eq_some.mp ran
  obtain ⟨begun, -, rfl⟩ := Option.map_eq_some_iff.mp ran
  cases begun with
  | settled book => simp at sent
  | send book totalSats =>
      rw [List.mem_singleton.mp sent]
      exact .activateSent activates

theorem sendVoid_sends {row : ℕ} {entry : OutboxRow}
    (ran : transact references view now (.sendVoid row entry) = some effect)
    (sent : message ∈ effect.sent) : Sends now view (.sendVoid row entry) effect.view message := by
  obtain ⟨-, ran⟩ := Option.ite_none_right_eq_some.mp ran
  cases ran
  rw [List.mem_singleton.mp sent]
  exact .voidSent

theorem leasePreparing_sends {leaseSeconds : ℕ}
    (ran : transact references view now (.leasePreparing leaseSeconds) = some effect)
    (sent : message ∈ effect.sent) :
    Sends now view (.leasePreparing leaseSeconds) effect.view message := by
  obtain ⟨due, ran⟩ := Option.ite_none_right_eq_some.mp ran
  obtain ⟨leased, -, rfl⟩ := Option.map_eq_some_iff.mp ran
  rw [List.mem_singleton.mp sent]
  exact .preparingLeased due

theorem claimLocks_sends (ran : transact references view now .claimLocks = some effect)
    (sent : message ∈ effect.sent) : Sends now view .claimLocks effect.view message := by
  obtain ⟨read, same⟩ := Effect.read_sends ran sent
  obtain ⟨due, named⟩ := Option.ite_none_right_eq_some.mp read
  cases named
  rw [same]
  refine .locksClaimed ?_
  unfold locksDue at due
  cases correlated : view.book.locks with
  | none => simp [correlated] at due
  | some correlation => rfl

theorem readSellerConfirm_sends {actor : Pubky}
    (ran : transact references view now (.readSellerConfirm actor) = some effect)
    (sent : message ∈ effect.sent) :
    Sends now view (.readSellerConfirm actor) effect.view message := by
  obtain ⟨read, same⟩ := Effect.read_sends ran sent
  obtain ⟨order, read_order, rfl⟩ := Option.map_eq_some_iff.mp read
  unfold readSellerConfirmation at read_order
  obtain ⟨-, named⟩ := Option.ite_none_right_eq_some.mp read_order
  cases named
  rw [same]
  exact .sellerConfirming

/-- Every message a step sends is one of `Sends`. -/
theorem transact_sends (ran : transact references view now action = some effect)
    (sent : message ∈ effect.sent) : Sends now view action effect.view message := by
  -- most steps commit and send nothing
  have silent (none_sent : effect.sent = []) : Sends now view action effect.view message := by
    simp [none_sent] at sent
  have views {result : Except Failure View} (ran : Effect.ofView result = some effect) :
      Sends now view action effect.view message := silent (Effect.ofView_some ran).2
  have books {result : Except Failure OrderBook} (ran : Effect.ofBook view result = some effect) :
      Sends now view action effect.view message := by
    obtain ⟨book, -, -, none_sent⟩ := Effect.ofBook_some ran
    exact silent none_sent
  cases action with
  | reserveBind actor =>
      obtain ⟨reserved, -, rfl⟩ := Option.map_eq_some_iff.mp ran
      rw [List.mem_singleton.mp sent]
      exact .bindReserved
  | bind request => exact views ran
  | claimPoll =>
      obtain ⟨read, same⟩ := Effect.read_sends ran sent
      obtain ⟨row, claimed, rfl⟩ := Option.map_eq_some_iff.mp read
      rw [same]
      exact .polled claimed
  | recordDelivery row delivery =>
      cases ran
      rw [List.mem_singleton.mp sent]
      exact .delivered
  | applyPoll row outcome => exact applyPaykitStatusOutcome_sends ran sent
  | settleRefused row amountMatched observation => exact books ran
  | settleAdvanced row confirmed amountMatched observation =>
      simp only [transact, settleAdvanced] at ran
      split at ran
      · exact settleConfirmed_sends rfl ran sent
      · exact books ran
  | claimOutbox row leaseSeconds => exact claimOutbox_sends ran sent
  | sendActivate row entry => exact sendActivate_sends ran sent
  | answerActivate row invoice totalSats answer => exact views ran
  | sendVoid row entry => exact sendVoid_sends ran sent
  | answerVoid row invoice answer => exact books ran
  | leasePreparing leaseSeconds => exact leasePreparing_sends ran sent
  | sendPreparingVoid row =>
      obtain ⟨read, same⟩ := Effect.read_sends ran sent
      obtain ⟨pin, pinned, rfl⟩ := Option.map_eq_some_iff.mp read
      rw [same]
      exact .preparingVoidSent pinned
  | answerPreparingVoid row pin answer => exact views ran
  | claimReleased invoice =>
      obtain ⟨read, same⟩ := Effect.read_sends ran sent
      obtain ⟨claimed, -, rfl⟩ := Option.map_eq_some_iff.mp read
      rw [same]
      exact .attemptPolled
  | routeReleased claimed amountMatched observation =>
      obtain ⟨routed, -, rfl⟩ := Option.map_eq_some_iff.mp ran
      exact silent rfl
  | detectReleased claimed observation => exact books ran
  | closeReleased claimed => exact books ran
  | escalateReleased invoice => exact books ran
  | verifyStripe actor session =>
      obtain ⟨read, same⟩ := Effect.read_sends ran sent
      rw [same]
      exact .stripePaid read
  | verifyPaypal transactionRef verifiedBy =>
      obtain ⟨read, same⟩ := Effect.read_sends ran sent
      rw [same]
      exact .paypalPaid read
  | applyFiat transactionRef verifiedBy =>
      obtain ⟨rfl, same⟩ := Effect.ofConfirm_sends ran sent
      rw [same]
      exact .fiatRefused
  | reviewFiat => exact books ran
  | prepareLocks actor windowSeconds => exact views ran
  | registerLocks actor => exact books ran
  | claimLocks => exact claimLocks_sends ran sent
  | applyLocks =>
      obtain ⟨rfl, same⟩ := Effect.ofConfirm_sends ran sent
      rw [same]
      exact .locksRefused
  | reviewLocks => exact books ran
  | advanceSandbox sender target confirmations windowSeconds => exact views ran
  | expireWindow => exact views ran
  | expireIdle window => exact books ran
  | cancel sender reason exitOpen => exact views ran
  | approveCancel sender => exact views ran
  | fulfill step =>
      obtain ⟨book, -, rfl⟩ := Option.map_eq_some_iff.mp ran
      exact silent rfl
  | recordRefund sender refund => exact books ran
  | openLine index =>
      obtain ⟨book, -, rfl⟩ := Option.map_eq_some_iff.mp ran
      exact silent rfl
  | readSellerConfirm actor => exact readSellerConfirm_sends ran sent
  | confirmBitcoin order => exact views ran
  | routeSellerWindow => exact books ran
  | resolveReview input => exact views (Option.ite_none_right_eq_some.mp ran).2

end Steps

end Sending

/-! What a message relies on. -/

/-- What no later step takes back. -/
structure Steady (before after : Standing) : Prop where
  terms : after.terms = before.terms
  locks : before.locks = true → after.locks = true
  closed : before.payment ≠ .awaitingEntitlement → after.payment ≠ .awaitingEntitlement
  fiat : before.method = some .stripe ∨ before.method = some .paypal →
    after.method = before.method
  polled : before.method = some .bitcoin → before.activation = some .active →
    after.method = some .bitcoin ∧ after.activation = some .active

namespace Steady

variable {first second third : Standing}

theorem refl (standing : Standing) : Steady standing standing :=
  ⟨rfl, id, id, fun _ => rfl, fun bound active => ⟨bound, active⟩⟩

theorem trans (left : Steady first second) (right : Steady second third) : Steady first third where
  terms := right.terms.trans left.terms
  locks locked := right.locks (left.locks locked)
  closed paid := right.closed (left.closed paid)
  fiat bound := by
    have same := left.fiat bound
    rw [right.fiat (by rw [same]; exact bound), same]
  polled bound active := by
    obtain ⟨method, activation⟩ := left.polled bound active
    exact right.polled method activation

/-- A write of the order's state, its hold, its receipt or a later payment
state. -/
theorem of_frame {before after : Standing} (terms : after.terms = before.terms)
    (locks : after.locks = before.locks)
    (closed : before.payment ≠ .awaitingEntitlement → after.payment ≠ .awaitingEntitlement)
    (method : after.method = before.method) (activation : after.activation = before.activation) :
    Steady before after :=
  ⟨terms, fun locked => locks.trans locked, closed, fun _ => method,
    fun bound active => ⟨method.trans bound, activation.trans active⟩⟩

theorem tidied {before after : Standing} (tidied : before.Tidied after) : Steady before after := by
  rw [← tidied.same]
  exact .of_frame rfl rfl id rfl rfl

end Steady

theorem Acquire.steady {inventory after : Inventory} {standing done : Standing}
    (acquired : Acquire inventory standing after done) : Steady standing done := by
  obtain ⟨held, rfl, -, -⟩ := acquired.frame
  exact .of_frame rfl rfl id rfl rfl

theorem Decided.steady {before after : Standing} (decided : Decided before after) :
    Steady before after := by
  have payment := decided.payment
  obtain ⟨state, held, paid, receipt, rfl, -⟩ := decided
  refine .of_frame rfl rfl ?_ rfl rfl
  rintro - awaiting
  rcases payment with reviewed | confirmed
  · rw [awaiting] at reviewed
    cases reviewed
  · rw [awaiting] at confirmed
    cases confirmed

theorem Standing.lapse_frame (standing : Standing) :
    ∃ payment, standing.lapse = standing.pay payment ∧ payment ≠ .awaitingEntitlement ∧
      (payment = standing.payment ∨ payment = .expired) := by
  unfold Standing.lapse
  split
  · exact ⟨.expired, rfl, by simp, .inr rfl⟩
  · rename_i advanced
    exact ⟨standing.payment, rfl, advanced, .inl rfl⟩

theorem Standing.endRequest_cases (standing : Standing) :
    ∃ payment, (payment = standing.payment ∨ payment = .expired) ∧
      (standing.endRequest = standing.pay payment ∨
        standing.activation = some .preparing ∧
          standing.endRequest = (standing.pay payment).dropRequest) := by
  obtain ⟨payment, same, -, lapsed⟩ := standing.lapse_frame
  unfold Standing.endRequest
  split
  · split
    · rename_i preparing
      exact ⟨payment, lapsed, .inr ⟨preparing.1, by rw [same]⟩⟩
    · exact ⟨payment, lapsed, .inl same⟩
  · exact ⟨standing.payment, .inl rfl, .inl rfl⟩

theorem Standing.lapse_steady (standing : Standing) : Steady standing standing.lapse := by
  obtain ⟨payment, same, advanced, -⟩ := standing.lapse_frame
  rw [same]
  exact .of_frame rfl rfl (fun _ => advanced) rfl rfl

theorem Standing.dropRequest_steady {standing : Standing}
    (preparing : standing.activation = some .preparing) :
    Steady standing standing.dropRequest := by
  refine ⟨rfl, id, id, fun _ => rfl, ?_⟩
  intro _ active
  rw [preparing] at active
  cases active

theorem Standing.restore_steady {standing : Standing} (pins : PaykitPins) (reference : Reference)
    (seen : Option Observation) (observed : Option ℕ)
    (unbound : standing.method = none ∨ standing.method = some .bitcoin) :
    Steady standing (standing.restore pins reference seen observed) := by
  refine ⟨rfl, id, id, ?_, fun _ _ => ⟨rfl, rfl⟩⟩
  rintro (bound | bound) <;> rcases unbound with other | other <;>
    rw [bound] at other <;> cases other

theorem Resolve.steady {now : Time} {inventory after : Inventory} {standing done : Standing}
    (resolved : Resolve now inventory standing after done) :
    Steady standing { done with resolved := true } := by
  rcases resolved.outcome with decided | ⟨payment, state, held, refund, rfl, paid, -, -⟩
  · have kept := decided.steady
    exact ⟨kept.terms, kept.locks, kept.closed, kept.fiat, kept.polled⟩
  · have closed : payment ≠ .awaitingEntitlement := by
      rcases paid with rfl | rfl <;> simp
    exact .of_frame rfl rfl (fun _ => closed) rfl rfl

theorem Move.steady {references : References} {now : Time} {inventory after : Inventory}
    {standing done : Standing} {action : OrderAction} {returned : List Line}
    (coherent : Coherent standing)
    (move : Move references now inventory standing action returned after done) :
    Steady standing done := by
  cases move with
  | stay => exact .refl _
  | bindFiat known chosen unbound pending awaiting other acquired =>
      obtain ⟨held, rfl, -, -⟩ := acquired.frame
      exact ⟨rfl, id, id, by simp [unbound], by simp [unbound]⟩
  | bindBitcoin chosen prepared unbound pending awaiting other acquired =>
      obtain ⟨held, rfl, -, -⟩ := acquired.frame
      exact ⟨rfl, id, id, by simp [unbound], by simp [unbound]⟩
  | activate answer preparing => exact ⟨rfl, id, id, fun _ => rfl, fun bound _ => ⟨bound, rfl⟩⟩
  | track answer current voided settled =>
      rw [(coherent.tracked settled).1]
      exact ⟨rfl, id, id, fun _ => rfl, fun bound _ => ⟨bound, rfl⟩⟩
  | voidPrepare answer voids shows_row preparing released =>
      have bound := (coherent.preparing preparing).1
      exact ⟨rfl, id, id, by simp [bound], by simp [preparing]⟩
  | dropRequest preparing settled => exact standing.dropRequest_steady preparing
  | expirePreparing answer shows_row preparing released =>
      have closes : Steady standing ((standing.pay .expired).close .cancelled) :=
        .of_frame rfl rfl (by simp [Standing.pay, Standing.close]) rfl rfl
      exact closes.trans (Standing.dropRequest_steady preparing)
  | expireHeld shows_row pending held settled outside open_payment released =>
      refine standing.lapse_steady.trans ?_
      exact .of_frame rfl rfl id rfl rfl
  | expireIdle pending free unbound single unstamped awaiting =>
      exact .of_frame rfl rfl (by simp [Standing.pay, Standing.close]) rfl rfl
  | cancelPending shows_row pending outside released =>
      have ends : Steady standing standing.endRequest := by
        unfold Standing.endRequest
        split
        · split
          · rename_i preparing
            obtain ⟨payment, same, -⟩ := standing.lapse_frame
            refine standing.lapse_steady.trans (Standing.dropRequest_steady ?_)
            rw [same]
            exact preparing.1
          · exact standing.lapse_steady
        · exact .refl _
      refine ends.trans ?_
      exact .of_frame rfl rfl id rfl rfl
  | cancelPaid shows_row paid returned => exact .of_frame rfl rfl id rfl rfl
  | requestCancel paid => exact .of_frame rfl rfl id rfl rfl
  | approveCancel shows_row requested releasable returned => exact .of_frame rfl rfl id rfl rfl
  | fulfil command paid ended ready label recorded => exact .of_frame rfl rfl id rfl rfl
  | settle rail awaiting settled => exact settled.decided.steady
  | late rail money expired late => exact late.decided.steady
  | settlePoll rail awaiting gate settled froze =>
      refine settled.decided.steady.trans ?_
      exact .of_frame rfl rfl id rfl rfl
  | @latePoll _ _ _ seen observed rail money open_payment outside froze late =>
      have reports : Steady standing (standing.report seen observed) := .of_frame rfl rfl id rfl rfl
      exact reports.trans late.decided.steady
  | fallback advanced froze => exact .of_frame rfl rfl id rfl rfl
  | confirmSeller window awaiting confirmed froze first queued pinned =>
      refine confirmed.decided.steady.trans ?_
      exact .of_frame rfl rfl id rfl rfl
  | windowLapsed request awaiting opened due froze =>
      exact .of_frame rfl rfl (by simp [Standing.pay, Standing.report]) rfl rfl
  | resolve paykit review unresolved resolved first queued pinned =>
      exact resolved.steady.trans (.of_frame rfl rfl id rfl rfl)
  | @routeMismatch _ _ _ pins reference seen observed watching unbound paykit open_payment outside
      untracked unresolved froze =>
      refine (Standing.restore_steady pins reference seen observed unbound).trans ?_
      exact .of_frame rfl rfl (by simp [Standing.pay]) rfl rfl
  | routeLate watching unbound paykit open_payment outside untracked froze swapped late =>
      have restored := (Standing.restore_steady _ _ _ _ unbound).trans (.tidied swapped)
      exact restored.trans late.decided.steady
  | detect rail pending => exact .of_frame rfl rfl id rfl rfl
  | refresh rail request amount => exact .of_frame rfl rfl id rfl rfl
  | enterWindow rail entry reported awaiting froze first extended =>
      exact .of_frame rfl rfl id rfl rfl
  | @sandbox _ target _ _ _ held on_sandbox target_ok unconfirmed acquired =>
      have kept : Steady standing held := by
        rcases acquired with taken | ⟨-, rfl⟩
        · exact taken.steady
        · exact .refl _
      refine kept.trans (.of_frame rfl rfl (fun _ => ?_) rfl rfl)
      rintro rfl
      cases paid : standing.payment <;> simp [paid, sandboxTargets] at target_ok
  | sandboxSettle on_sandbox open_payment acquired settled =>
      rcases acquired with taken | ⟨-, rfl⟩
      · exact taken.steady.trans settled.decided.steady
      · exact settled.decided.steady
  | prepareLocks unbound unlocked pending awaiting priced acquired =>
      refine acquired.steady.trans ?_
      exact ⟨rfl, fun _ => rfl, id, fun _ => rfl, fun bound active => ⟨bound, active⟩⟩
  | registerLocks locks => exact .of_frame rfl rfl id rfl rfl

/-- What a message may rely on when it arrives. -/
def Backed (standing : Standing) : Message → Prop
  | .polled _ | .confirmationRefused .. | .paymentAdvanced .. =>
      standing.method = some .bitcoin ∧ standing.activation = some .active
  | .fiatPaid transactionRef .processor =>
      standing.method = some .stripe ∧
        (transactionRef = none → standing.payment ≠ .awaitingEntitlement)
  | .fiatPaid _ _ => standing.method = some .paypal
  | .fiatRefused => standing.method = some .stripe ∨ standing.method = some .paypal
  | .locksClaimed | .locksRefused => standing.locks = true
  | .sellerConfirming order => order.terms = standing.terms
  | .preparingLeased _ | .preparingVoidSent .. => standing.terms.auction = none
  | _ => True

theorem Backed.steady {before after : Standing} {message : Message}
    (backed : Backed before message) (steady : Steady before after) : Backed after message := by
  cases message with
  | polled row => exact steady.polled backed.1 backed.2
  | confirmationRefused row amountMatched observation => exact steady.polled backed.1 backed.2
  | paymentAdvanced row confirmed amountMatched observation =>
      exact steady.polled backed.1 backed.2
  | fiatPaid transactionRef verifiedBy =>
      cases verifiedBy with
      | processor =>
          obtain ⟨bound, evidence⟩ := backed
          exact ⟨(steady.fiat (.inl bound)).trans bound,
            fun absent => steady.closed (evidence absent)⟩
      | gateway => exact (steady.fiat (.inr backed)).trans backed
      | seller => exact (steady.fiat (.inr backed)).trans backed
  | fiatRefused =>
      change after.method = some .stripe ∨ after.method = some .paypal
      rw [steady.fiat backed]
      exact backed
  | locksClaimed => exact steady.locks backed
  | locksRefused => exact steady.locks backed
  | sellerConfirming order => exact Eq.trans backed steady.terms.symm
  | bindReserved attempt => trivial
  | claimedRow row entry => trivial
  | activateSent row invoice totalSats => trivial
  | voidSent row invoice => trivial
  | preparingLeased row => exact (congrArg Terms.auction steady.terms).trans backed
  | preparingVoidSent row pin => exact (congrArg Terms.auction steady.terms).trans backed
  | attemptPolled claimed => trivial

theorem speaks_of_backed {standing : Standing} {action : OrderAction}
    (backed : ∀ message ∈ action.consumes, Backed standing message) : Speaks action standing := by
  unfold Speaks
  cases action with
  | applyFiat transactionRef verifiedBy =>
      have paid := backed (.fiatPaid transactionRef verifiedBy) rfl
      cases verifiedBy with
      | processor => exact .inl paid.1
      | gateway => exact .inr paid
      | seller => exact .inr paid
  | reviewFiat => exact backed .fiatRefused rfl
  | applyLocks => exact backed .locksClaimed rfl
  | reviewLocks => exact backed .locksRefused rfl
  | applyPoll row outcome => exact backed (.polled row) rfl
  | settleRefused row amountMatched observation =>
      exact backed (.confirmationRefused row amountMatched observation) rfl
  | settleAdvanced row confirmed amountMatched observation =>
      exact backed (.paymentAdvanced row confirmed amountMatched observation) rfl
  | _ => trivial

theorem claimPaykitOrder_backed {book : OrderBook} {now : Time} {row : ClaimedPaykitOrder}
    (coherent : Coherent book.standing) (claimed : claimPaykitOrder book now = some row) :
    book.standing.method = some .bitcoin ∧ book.standing.activation = some .active ∧
      book.order.paykitRequestReference = some row.paykitRequestReference := by
  unfold claimPaykitOrder at claimed
  split at claimed
  · rename_i reference state referenced requested
    obtain ⟨due, named⟩ := Option.ite_none_right_eq_some.mp claimed
    cases named
    have bound : book.standing.method = some .bitcoin := by
      apply coherent.bitcoin.mpr
      simp only [pollDue, Bool.and_eq_true, beq_iff_eq] at due
      exact due.1
    refine ⟨bound, coherent.active bound state requested ?_, referenced⟩
    rintro rfl
    simp [pollDue, requested] at due
  · cases claimed

theorem verifyStripe_ok {book : OrderBook} {actor : Pubky} {session : Option String}
    {message : Message} (verified : verifyStripe book actor session = some message) :
    ∃ transactionRef, message = .fiatPaid transactionRef .processor ∧
      book.order.paymentMethod = some .stripe ∧
      (transactionRef = none ∧ book.payment.state ≠ .awaitingEntitlement ∨
        transactionRef = session ∧ session.isSome = true ∧
          book.payment.state = .awaitingEntitlement) := by
  unfold verifyStripe at verified
  obtain ⟨bound, verified⟩ := Option.ite_none_right_eq_some.mp verified
  split at verified
  · rename_i closed
    cases verified
    exact ⟨none, rfl, bound.2, .inl ⟨rfl, closed⟩⟩
  · rename_i awaiting
    obtain ⟨id, rfl, rfl⟩ := Option.map_eq_some_iff.mp verified
    exact ⟨some id, rfl, bound.2, .inr ⟨rfl, rfl, not_not.mp awaiting⟩⟩

theorem verifyPaypal_ok {book : OrderBook} {transactionRef : Option String}
    {verifiedBy : VerifiedBy} {message : Message}
    (verified : verifyPaypal book transactionRef verifiedBy = some message) :
    message = .fiatPaid transactionRef verifiedBy ∧
      book.order.paymentMethod = some .paypal ∧ verifiedBy ≠ .processor := by
  obtain ⟨bound, same⟩ := Option.ite_none_right_eq_some.mp verified
  exact ⟨(Option.some.inj same).symm, bound⟩

theorem Sends.backed {now : Time} {view after : View} {action : OrderAction} {message : Message}
    (coherent : Coherent view.book.standing)
    (consumed : ∀ old ∈ action.consumes, Backed view.book.standing old)
    (kept : Steady view.book.standing after.book.standing)
    (sends : Sends now view action after message) : Backed after.book.standing message := by
  cases sends with
  | bindReserved => trivial
  | polled claimed =>
      obtain ⟨bound, active, -⟩ := claimPaykitOrder_backed coherent claimed
      exact ⟨bound, active⟩
  | @delivered row delivery after =>
      have claim : Backed view.book.standing (.polled row) := consumed _ rfl
      exact claim.steady kept
  | @confirmationRefused action row amountMatched observation claim awaiting =>
      have speaks := speaks_of_backed consumed
      have rail : action.rail = some .poll := by
        cases action <;> first | rfl | cases claim
      simp only [Speaks, rail] at speaks
      exact speaks
  | @paymentAdvanced row outcome confirmed amountMatched observation =>
      have claim : Backed view.book.standing (.polled row) := consumed _ rfl
      exact claim
  | claimedRow stored undelivered => trivial
  | activateSent activates => trivial
  | voidSent => trivial
  | preparingLeased due =>
      simp only [preparingDue, Bool.and_eq_true] at due
      have single : view.book.standing.terms.auction = none := (coherent.held due.1.1.1.2).2
      exact (congrArg Terms.auction kept.terms).trans single
  | @preparingVoidSent row pin read =>
      have lease : Backed view.book.standing (.preparingLeased row) := consumed _ rfl
      exact lease
  | attemptPolled => trivial
  | stripePaid verified =>
      obtain ⟨transactionRef, rfl, bound, closed | paid⟩ := verifyStripe_ok verified
      · exact ⟨bound, fun _ => closed.2⟩
      · obtain ⟨rfl, found, -⟩ := paid
        refine ⟨bound, fun unnamed => ?_⟩
        rw [unnamed] at found
        cases found
  | @paypalPaid transactionRef verifiedBy message verified =>
      obtain ⟨rfl, bound, other⟩ := verifyPaypal_ok verified
      cases verifiedBy with
      | processor => exact absurd rfl other
      | gateway => exact bound
      | seller => exact bound
  | fiatRefused => exact speaks_of_backed consumed
  | locksClaimed registered => exact registered
  | locksRefused => exact speaks_of_backed consumed
  | sellerConfirming => exact rfl

/-! Sound cells. -/

structure Sound (cell : Cell) : Prop where
  coherent : Coherent cell.book.standing
  backed : ∀ message ∈ cell.inFlight, Backed cell.book.standing message

/-- What a step of a sound cell is: a move that speaks for the order's rail,
which consumes and sends messages. -/
structure CellStep (references : References) (now : Time) (inventory : Inventory) (cell : Cell)
    (action : OrderAction) (after : Inventory) (done : Cell) : Prop where
  consumed : ∀ message ∈ action.consumes, message ∈ cell.inFlight
  speaks : Speaks action cell.book.standing
  moves : Moves references now ⟨inventory, cell.book⟩ action ⟨after, done.book⟩
  sends : ∀ message ∈ done.inFlight, message ∈ cell.inFlight ∨
    Sends now ⟨inventory, cell.book⟩ action ⟨after, done.book⟩ message
  everPinned : done.everPinned = cell.everPinned ++ done.book.order.paykitInvoiceId.toList
  stripeMatched : done.stripeMatched = (cell.stripeMatched || action.findsSession cell.book)
  returned : done.returned = cell.returned ++ action.returns cell.book

theorem stepCell_steps {references : References} {inventory after : Inventory} {cell done : Cell}
    {now : Time} {action : OrderAction} (sound : Sound cell)
    (stepped : stepCell references inventory cell now action = some (after, done)) :
    CellStep references now inventory cell action after done := by
  unfold stepCell at stepped
  obtain ⟨present, stepped⟩ := Option.ite_none_right_eq_some.mp stepped
  obtain ⟨effect, ran, same⟩ := Option.map_eq_some_iff.mp stepped
  cases same
  have consumed : ∀ message ∈ action.consumes, message ∈ cell.inFlight := by
    intro message named
    simp only [Option.mem_def] at named
    simpa [named] using present
  have backed (message : Message) (named : message ∈ action.consumes) :
      Backed cell.book.standing message := sound.backed message (consumed message named)
  refine ⟨consumed, speaks_of_backed backed, ?_, ?_, rfl, rfl, rfl⟩
  · refine transact_moves ?_ ran
    rintro order rfl
    exact backed (.sellerConfirming order) rfl
  · intro message member
    rcases List.mem_append.mp member with old | new
    · left
      cases named : action.consumes with
      | none =>
          simp only [named] at old
          exact old
      | some spent =>
          simp only [named] at old
          exact List.mem_of_mem_erase old
    · exact .inr (transact_sends ran new)

theorem CellStep.steady {references : References} {inventory after : Inventory} {cell done : Cell}
    {now : Time} {action : OrderAction} (sound : Sound cell)
    (step : CellStep references now inventory cell action after done) :
    Steady cell.book.standing done.book.standing := by
  obtain ⟨moved, move, tidied⟩ := step.moves
  exact (move.steady sound.coherent).trans (.tidied tidied)

theorem Coherent.tidied {standing tidy : Standing} (coherent : Coherent standing)
    (tidied : standing.Tidied tidy) : Coherent tidy := by
  rw [← tidied.same] at coherent
  exact ⟨coherent.bitcoin, coherent.stripe, coherent.paypal, coherent.locks, coherent.pinned,
    coherent.preparing, coherent.active, coherent.open_payment, coherent.window, coherent.idle,
    coherent.receipt, coherent.held⟩

theorem CellStep.sound {references : References} {inventory after : Inventory} {cell done : Cell}
    {now : Time} {action : OrderAction} (sound : Sound cell)
    (step : CellStep references now inventory cell action after done) : Sound done := by
  have kept := step.steady sound
  constructor
  · obtain ⟨moved, move, tidied⟩ := step.moves
    exact (move.coherent sound.coherent step.speaks).tidied tidied
  · intro message member
    rcases step.sends message member with old | new
    · exact (sound.backed message old).steady kept
    · refine new.backed sound.coherent ?_ kept
      intro spent named
      exact sound.backed spent (step.consumed spent named)

end MarketplaceService
