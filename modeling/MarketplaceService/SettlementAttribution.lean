import MarketplaceService.RailSteps

/-!
Attribution of status reports. A claim of the poll names the reference it asks
about, and the writes after the answer do not compare it. They need not: the
reference of a polled order changes only when the money of another attempt is
routed to it, and then the payment is decided and a report changes nothing. The
exception is the second transaction of a refused confirmation, which writes the
order by its id alone.
-/

namespace MarketplaceService

/-- The payment of the order has been decided for good. -/
structure Superseded (standing : Standing) : Prop where
  bound : standing.method = some .bitcoin
  consumed : standing.request = some .confirmed
  decided : standing.payment = .manualReview ∨ standing.payment = .confirmed ∨
    standing.payment = .expired ∧ standing.resolved = true

namespace Superseded

variable {standing : Standing}

theorem closed (superseded : Superseded standing) :
    standing.payment ≠ .awaitingEntitlement := by
  rcases superseded.decided with same | same | ⟨same, -⟩ <;> simp [same]

theorem resolved (superseded : Superseded standing)
    (open_payment : standing.payment = .awaitingEntitlement ∨ standing.payment = .expired) :
    standing.resolved = true := by
  have expired := open_payment.resolve_left superseded.closed
  rcases superseded.decided with same | same | ⟨-, resolved⟩
  · rw [expired] at same
    cases same
  · rw [expired] at same
    cases same
  · exact resolved

theorem relabelled (superseded : Superseded standing) (state : OrderState) (held : Bool)
    (refund : Option ExternalRefund) :
    Superseded { standing with state := state, held := held, refund := refund } :=
  ⟨superseded.bound, superseded.consumed, superseded.decided⟩

theorem lapsed (superseded : Superseded standing) : standing.lapse = standing :=
  if_neg superseded.closed

end Superseded

theorem Move.superseded {references : References} {now : Time} {inventory after : Inventory}
    {standing done : Standing} {action : OrderAction} {returned : List Line}
    (coherent : Coherent standing) (superseded : Superseded standing)
    (speaks : Speaks action standing)
    (move : Move references now inventory standing action returned after done) :
    Superseded done := by
  have bound := superseded.bound
  have closed := superseded.closed
  have unprepared := coherent.settled_activation closed
  have active := coherent.active bound .confirmed superseded.consumed (by simp)
  have paykit := coherent.bitcoin.mp bound
  have awaits (awaiting : standing.payment = .awaitingEntitlement) : Superseded done :=
    absurd awaiting closed
  have unbinds (unbound : standing.method = none) : Superseded done := by
    rw [unbound] at bound
    cases bound
  have off_sandbox (sandbox : standing.adapter = .sandbox) : Superseded done := by
    rw [paykit] at sandbox
    cases sandbox
  have unresolved (open_payment : standing.payment = .awaitingEntitlement ∨
      standing.payment = .expired) (unresolved : standing.resolved = false) : Superseded done := by
    rw [superseded.resolved open_payment] at unresolved
    cases unresolved
  cases move with
  | stay => exact superseded
  | bindFiat known chosen unbound pending awaiting unlocked acquired => exact unbinds unbound
  | bindBitcoin chosen prepared unbound pending awaiting unlocked acquired => exact unbinds unbound
  | activate answer preparing => exact absurd preparing unprepared
  | track answer current voided settled =>
      rw [active] at voided
      cases voided
  | voidPrepare answer voids shows_row preparing released => exact absurd preparing unprepared
  | dropRequest preparing settled => exact absurd preparing unprepared
  | expirePreparing answer shows_row preparing released => exact absurd preparing unprepared
  | expireHeld shows_row pending held settled outside open_payment released =>
      rw [superseded.lapsed]
      exact superseded.relabelled _ _ _
  | expireIdle pending free unbound single unstamped awaiting => exact unbinds unbound
  | cancelPending shows_row pending outside released =>
      have ended : standing.endRequest = standing := by
        unfold Standing.endRequest
        rw [if_pos paykit, if_neg fun preparing => unprepared preparing.1, superseded.lapsed]
      rw [ended]
      exact superseded.relabelled _ _ _
  | cancelPaid shows_row paid returned => exact superseded.relabelled _ _ _
  | requestCancel paid => exact superseded.relabelled _ _ _
  | approveCancel shows_row requested releasable returned => exact superseded.relabelled _ _ _
  | fulfil command paid ended ready label recorded => exact superseded.relabelled _ _ _
  | settle rail awaiting settled => exact awaits awaiting
  | late rail money expired late => exact absurd bound (coherent.spoken_method speaks rail)
  | settlePoll rail awaiting gate settled froze => exact awaits awaiting
  | latePoll rail money open_payment outside froze late =>
      exact unresolved open_payment late.unresolved
  | fallback advanced froze => exact ⟨bound, rfl, superseded.decided⟩
  | confirmSeller window awaiting confirmed froze first queued pinned => exact awaits awaiting
  | windowLapsed request awaiting opened due froze => exact awaits awaiting
  | resolve on_paykit review open_review resolved first queued pinned =>
      rcases resolved.outcome with decided | ⟨payment, state, held, refund, rfl, paid, -⟩
      · have payment := decided.payment
        obtain ⟨state, held, paid, receipt, rfl, -⟩ := decided
        exact ⟨bound, superseded.consumed, payment.imp_right .inl⟩
      · refine ⟨bound, superseded.consumed, .inr ?_⟩
        exact paid.imp_right fun expired => ⟨expired, rfl⟩
  | routeMismatch watching unbound on_paykit open_payment outside untracked open_review froze =>
      exact unresolved open_payment open_review
  | routeLate watching unbound on_paykit open_payment outside untracked froze swapped late =>
      have open_review := late.unresolved
      rw [swapped.eq] at open_review
      exact unresolved open_payment open_review
  | detect rail pending =>
      rw [superseded.consumed] at pending
      cases pending
  | refresh rail request amount =>
      rw [superseded.consumed] at request
      cases request
  | enterWindow rail entry reported awaiting froze first extended => exact awaits awaiting
  | sandbox on_sandbox target_ok unconfirmed acquired => exact off_sandbox on_sandbox
  | sandboxSettle on_sandbox open_payment acquired settled => exact off_sandbox on_sandbox
  | prepareLocks unbound unlocked pending awaiting priced acquired => exact unbinds unbound
  | registerLocks locks =>
      rw [coherent.locks.mp locks] at paykit
      cases paykit

/-! The reference of a polled order. -/

theorem Move.rerouted {references : References} {now : Time} {inventory after : Inventory}
    {standing done : Standing} {returned : List Line} {claimed : WatchedAttempt}
    {amountMatched : Bool} {observation : PaykitObservation}
    (move : Move references now inventory standing
      (.routeReleased claimed amountMatched observation) returned after done) :
    done = standing ∨ Superseded done ∧
      (standing.payment = .awaitingEntitlement ∨ standing.payment = .expired) := by
  cases move with
  | stay => exact .inl rfl
  | routeMismatch watching unbound paykit open_payment outside untracked unresolved froze =>
      exact .inr ⟨⟨rfl, rfl, .inl rfl⟩, open_payment⟩
  | @routeLate _ _ pins reference _ restored done _ _ watching unbound paykit open_payment outside
      untracked froze swapped late =>
      have method : restored.method = some .bitcoin := by
        rw [swapped.eq]
        rfl
      have request : restored.request = some .confirmed := by
        rw [swapped.eq]
        rfl
      have payment := late.decided.payment
      obtain ⟨state, held, paid, receipt, rfl, -⟩ := late.decided
      exact .inr ⟨⟨method, request, payment.imp_right .inl⟩, open_payment⟩
  | activate answer preparing => cases answer
  | track answer current voided settled => cases answer
  | voidPrepare answer voids shows_row preparing released => cases answer
  | expirePreparing answer shows_row preparing released => cases answer
  | fulfil command paid ended ready label recorded =>
      rcases command with ⟨step, named⟩ | ⟨sender, refund, named⟩ <;> cases named
  | settle rail awaiting settled => rcases rail with named | named <;> cases named
  | late rail money expired late => rcases rail with named | named <;> cases named
  | settlePoll rail awaiting gate settled froze => cases rail
  | latePoll rail money open_payment outside froze late => cases rail
  | detect rail pending => cases rail
  | refresh rail request amount => cases rail
  | enterWindow rail entry reported awaiting froze first extended => cases rail

theorem CellStep.reference {references : References} {inventory after : Inventory}
    {cell done : Cell} {now : Time} {action : OrderAction} (sound : Sound cell)
    (bound : cell.book.standing.method = some .bitcoin)
    (active : cell.book.standing.activation = some .active)
    (step : CellStep references now inventory cell action after done) :
    done.book.standing.reference = cell.book.standing.reference ∨
      Superseded done.book.standing ∧
        (∃ claimed amountMatched observation,
          action = .routeReleased claimed amountMatched observation) ∧
        (cell.book.standing.payment = .awaitingEntitlement ∨
          cell.book.standing.payment = .expired) := by
  have unbinds (unbound : cell.book.standing.method = none) : False := by
    rw [unbound] at bound
    cases bound
  have prepares (preparing : cell.book.standing.activation = some .preparing) : False := by
    rw [active] at preparing
    cases preparing
  obtain ⟨target, rail, same⟩ := step.railStep sound
  rw [same.reference]
  cases rail with
  | same => exact .inl rfl
  | bindFiat known chosen unbound pending unlocked => exact absurd unbound unbinds
  | bindBitcoin chosen prepared unbound pending unlocked => exact absurd unbound unbinds
  | activate answer preparing => exact absurd preparing prepares
  | track answer current voided settled => exact .inl rfl
  | voidPrepare answer preparing => exact absurd preparing prepares
  | dropRequest preparing ended => exact absurd preparing prepares
  | prepareLocks unbound pending priced => exact absurd unbound unbinds
  | restore unbound open_payment untracked =>
      obtain ⟨moved, move, tidied⟩ := step.moves
      rcases move.rerouted with rfl | ⟨superseded, open_payment⟩
      · rw [← same.reference, tidied.eq]
        exact .inl rfl
      · refine .inr ⟨?_, ⟨_, _, _, rfl⟩, open_payment⟩
        rw [tidied.eq]
        exact ⟨superseded.bound, superseded.consumed, superseded.decided⟩

/-! Along a run. -/

def Message.claim : Message → Option ClaimedPaykitOrder
  | .polled row => some row
  | .confirmationRefused row _ _ => some row
  | .paymentAdvanced row _ _ _ => some row
  | _ => none

def Message.refusedClaim : Message → Option ClaimedPaykitOrder
  | .confirmationRefused row _ _ => some row
  | _ => none

/-- A claim under way is about the current reference, or comes too late to
change anything. -/
structure Traced (cell : Cell) : Prop where
  claims : ∀ message ∈ cell.inFlight, ∀ row ∈ message.claim,
    cell.book.standing.reference = some row.paykitRequestReference ∨
      Superseded cell.book.standing
  refused : ∀ message ∈ cell.inFlight, ∀ row ∈ message.refusedClaim,
    cell.book.standing.reference = some row.paykitRequestReference

/-- Whether a step routes the money of a released attempt. -/
def OrderAction.routes : OrderAction → Bool
  | .routeReleased .. => true
  | _ => false

/-- No released attempt is routed into an open payment between the two
transactions of a refused confirmation. -/
def routedApart : Sys → Action → Prop :=
  eachOrder fun cell action =>
    action.routes = true →
    cell.book.payment.state = .awaitingEntitlement ∨ cell.book.payment.state = .expired →
      ∀ message ∈ cell.inFlight, message.refusedClaim = none

instance : ∀ sys action, Decidable (routedApart sys action) :=
  fun sys action => inferInstanceAs (Decidable (eachOrder _ sys action))

theorem Message.claim_of_refused {message : Message} {row : ClaimedPaykitOrder}
    (refused : message.refusedClaim = some row) : message.claim = some row := by
  cases message <;> first | exact refused | cases refused

theorem Backed.of_claim {standing : Standing} {message : Message} {row : ClaimedPaykitOrder}
    (backed : Backed standing message) (claim : message.claim = some row) :
    standing.method = some .bitcoin ∧ standing.activation = some .active := by
  cases message <;> first | exact backed | cases claim

/-- Where a claim comes from: the order as it was read, or the message that the
step consumes. A refused confirmation was that of an awaiting payment. -/
theorem Sends.claim {now : Time} {view after : View} {action : OrderAction} {message : Message}
    {row : ClaimedPaykitOrder} (coherent : Coherent view.book.standing)
    (sends : Sends now view action after message) (named : message.claim = some row) :
    (view.book.standing.reference = some row.paykitRequestReference ∧ after = view ∧
        message.refusedClaim = none) ∨
      (∃ spent ∈ action.consumes, spent.claim = some row) ∧
        (message.refusedClaim = none ∨
          after = view ∧ view.book.standing.payment = .awaitingEntitlement) := by
  cases sends with
  | polled claimed =>
      cases named
      exact .inl ⟨(claimPaykitOrder_backed coherent claimed).2.2, rfl, rfl⟩
  | @delivered polled delivery after => exact .inr ⟨⟨.polled polled, rfl, named⟩, .inl rfl⟩
  | @confirmationRefused action refused amountMatched observation claim awaiting =>
      cases named
      refine .inr ⟨?_, .inr ⟨rfl, awaiting⟩⟩
      cases action <;> first | exact ⟨_, rfl, claim⟩ | cases claim
  | @paymentAdvanced polled outcome confirmed amountMatched observation =>
      exact .inr ⟨⟨.polled polled, rfl, named⟩, .inl rfl⟩
  | stripePaid verified =>
      obtain ⟨transactionRef, rfl, -⟩ := verifyStripe_ok verified
      cases named
  | paypalPaid verified =>
      rw [(verifyPaypal_ok verified).1] at named
      cases named
  | _ => cases named

theorem Fresh.traced {book : OrderBook} : Traced (newCell book) := by
  constructor
  · intro message member
    cases member
  · intro message member
    cases member

theorem CellStep.traced {references : References} {inventory after : Inventory}
    {cell done : Cell} {now : Time} {action : OrderAction} (sound : Sound cell)
    (traced : Traced cell)
    (apart : action.routes = true →
      cell.book.payment.state = .awaitingEntitlement ∨ cell.book.payment.state = .expired →
        ∀ message ∈ cell.inFlight, message.refusedClaim = none)
    (step : CellStep references now inventory cell action after done) : Traced done := by
  -- a claim that was traced before the step is traced after it
  have kept {message : Message} {row : ClaimedPaykitOrder} (member : message ∈ cell.inFlight)
      (named : message.claim = some row) :
      done.book.standing.reference = some row.paykitRequestReference ∨
        Superseded done.book.standing := by
    rcases traced.claims message member row named with same | superseded
    · obtain ⟨bound, active⟩ := (sound.backed message member).of_claim named
      rcases step.reference sound bound active with unchanged | ⟨superseded, -⟩
      · exact .inl (unchanged.trans same)
      · exact .inr superseded
    · obtain ⟨moved, move, tidied⟩ := step.moves
      have still := move.superseded sound.coherent superseded step.speaks
      right
      rw [tidied.eq]
      exact ⟨still.bound, still.consumed, still.decided⟩
  constructor
  · intro message member row named
    rcases step.sends message member with old | new
    · exact kept old named
    · rcases new.claim sound.coherent named with ⟨current, same, -⟩ | ⟨⟨spent, consumed, claim⟩, -⟩
      · left
        rw [show done.book = cell.book from congrArg View.book same]
        exact current
      · exact kept (step.consumed spent consumed) claim
  · intro message member row refused
    have named := Message.claim_of_refused refused
    rcases step.sends message member with old | new
    · obtain ⟨bound, active⟩ := (sound.backed message old).of_claim named
      rcases step.reference sound bound active with
        unchanged | ⟨-, ⟨claimed, amountMatched, observation, rfl⟩, open_payment⟩
      · exact unchanged.trans (traced.refused message old row refused)
      · have absent := apart rfl open_payment message old
        rw [absent] at refused
        cases refused
    · rcases new.claim sound.coherent named with
        ⟨-, -, absent⟩ | ⟨⟨spent, consumed, claim⟩, absent | ⟨same, awaiting⟩⟩
      · rw [absent] at refused
        cases refused
      · rw [absent] at refused
        cases refused
      · rw [show done.book = cell.book from congrArg View.book same]
        rcases traced.claims spent (step.consumed spent consumed) row claim with
          current | superseded
        · exact current
        · exact absurd awaiting superseded.closed

/-! A claim that comes too late. -/

section TooLate

variable {view : View} {now : Time} {row : ClaimedPaykitOrder}

theorem Superseded.request (superseded : Superseded view.book.standing) :
    view.book.order.paykitRequestState = some .confirmed := superseded.consumed

theorem applyReportInsideSellerWindow_superseded (superseded : Superseded view.book.standing)
    (outcome : PaykitStatusOutcome) :
    applyReportInsideSellerWindow view.book outcome now = view.book := by
  have closed : view.book.payment.state ≠ .awaitingEntitlement := superseded.closed
  have request := superseded.request
  have refreshed (confirmed amountMatched : Bool) (observation : PaykitObservation) :
      refreshInsideSellerWindow view.book confirmed amountMatched observation now = view.book :=
    if_neg closed
  have disappeared : markSharedManualDisappeared view.book = view.book := by
    unfold markSharedManualDisappeared
    split
    · rfl
    · exact if_neg (by simp [request])
  cases outcome with
  | confirmed amountMatched facts =>
      simp only [applyReportInsideSellerWindow, refreshed, ite_self]
  | detected facts => simp only [applyReportInsideSellerWindow, refreshed, ite_self]
  | undetected => exact disappeared
  | notFound => rfl
  | unavailable => rfl

theorem markPaykitDetected_superseded (superseded : Superseded view.book.standing) :
    markPaykitDetected view.book row = view.book := by
  refine if_neg ?_
  rw [superseded.request]
  simp

theorem applyConfirmedPaykitPayment_superseded {amountMatched late : Bool}
    {observation : PaykitObservation} {after : View} (superseded : Superseded view.book.standing)
    (applied : applyConfirmedPaykitPayment view row amountMatched observation late now =
      .ok (.done after)) : after = view := by
  have closed : view.book.payment.state ≠ .awaitingEntitlement := superseded.closed
  unfold applyConfirmedPaykitPayment at applied
  rw [if_neg (by simp [superseded.request])] at applied
  split at applied
  · rename_i open_payment
    have expired : view.book.payment.state = .expired := by
      rcases open_payment with expired | ⟨-, awaiting⟩
      · exact expired
      · exact absurd awaiting closed
    obtain ⟨done, ran, written⟩ := Outcome.bind_ok applied
    cases written
    unfold applyLatePaykitPayment at ran
    split at ran
    · cases ran
      rfl
    · obtain ⟨book, consumed, rest⟩ := Outcome.bind_ok ran
      obtain ⟨⟨outcome, settled⟩, late, -⟩ := Outcome.bind_ok rest
      have unresolved := (applyLateMoney_moves late).unresolved
      change book.standing.resolved = false at unresolved
      obtain ⟨seen, observed, standing, -⟩ := consumeReport_standing consumed
      rw [standing] at unresolved
      rw [show (view.book.standing.report seen observed).resolved = true from
        superseded.resolved (.inr expired)] at unresolved
      cases unresolved
  · cases applied
    rfl

theorem settleConfirmed_superseded {amountMatched late : Bool} {observation : PaykitObservation}
    {effect : Effect} (superseded : Superseded view.book.standing)
    (ran : settleConfirmed view row amountMatched observation late now = some effect) :
    effect.view = view := by
  rcases Effect.ofSettle_some ran with ⟨done, applied, rfl, -⟩ | ⟨-, same, -⟩
  · exact applyConfirmedPaykitPayment_superseded superseded applied
  · exact same

theorem observeShared_superseded {confirmed amountMatched : Bool}
    {observation : PaykitObservation} {effect : Effect} (superseded : Superseded view.book.standing)
    (ran : observeShared view row confirmed amountMatched observation now = some effect) :
    effect.view = view := by
  have closed : view.book.payment.state ≠ .awaitingEntitlement := superseded.closed
  rcases Effect.ofShared_some ran with ⟨done, applied, rfl, -⟩ | ⟨same, -⟩
  · unfold applySharedManualObservation at applied
    split at applied
    · cases applied
      rfl
    · cases applied
  · exact same

/-- A claim on a decided payment writes nothing, but for the second transaction
of a refused confirmation. -/
theorem transact_superseded {references : References} {action : OrderAction} {effect : Effect}
    (superseded : Superseded view.book.standing) (claim : action.claim = some row)
    (first : ∀ refused amountMatched observation,
      action ≠ .settleRefused refused amountMatched observation)
    (ran : transact references view now action = some effect) : effect.view = view := by
  have books {book : OrderBook} (same : book = view.book)
      (ran : Effect.ofBook view (.ok book) = some effect) : effect.view = view := by
    cases ran
    rw [same]
  cases action with
  | applyPoll polled outcome =>
      change applyPaykitStatusOutcome view polled outcome now = some effect at ran
      unfold applyPaykitStatusOutcome at ran
      split at ran
      · exact books (applyReportInsideSellerWindow_superseded superseded outcome) ran
      · have detected := @markPaykitDetected_superseded view polled superseded
        cases outcome with
        | confirmed amountMatched facts =>
            simp only at ran
            split at ran
            · exact settleConfirmed_superseded superseded ran
            · split at ran
              · exact observeShared_superseded superseded ran
              · exact settleConfirmed_superseded superseded ran
              · exact books rfl ran
        | detected facts =>
            simp only at ran
            split at ran
            · exact books detected ran
            · split at ran
              · exact observeShared_superseded superseded ran
              · exact books detected ran
              · exact books rfl ran
        | undetected =>
            simp only at ran
            split at ran
            · exact books
                (@applyReportInsideSellerWindow_superseded view now superseded .undetected)
                ran
            · exact books rfl ran
        | notFound => exact books rfl ran
        | unavailable => exact books rfl ran
  | settleRefused refused amountMatched observation =>
      exact absurd rfl (first refused amountMatched observation)
  | settleAdvanced polled confirmed amountMatched observation =>
      simp only [transact, settleAdvanced] at ran
      split at ran
      · exact settleConfirmed_superseded superseded ran
      · exact books (markPaykitDetected_superseded superseded) ran
  | _ => cases claim

end TooLate

/-- The order of a report's claim: in every run that routes no released attempt
between the two transactions of a refused confirmation, a status report changes
rows only when the order's reference at commit is the one it was asked for. -/
theorem status_report_settles_its_reference (references : References) {sys after : Sys}
    (reached : Runs.Reachable (marketplace references) routedApart sys) {id : OrderId}
    {now : Time} {action : OrderAction} {row : ClaimedPaykitOrder} {cell done : Cell}
    (found : sys.cells.find? id = some cell)
    (stepped : sys.step references (.order id now action) = some after)
    (later : after.cells.find? id = some done) (report : action.claim = some row)
    (changed : done.book ≠ cell.book ∨ after.inventory ≠ sys.inventory) :
    done.book.order.paykitRequestReference = some row.paykitRequestReference := by
  obtain ⟨sound, traced⟩ := cells_invariant Traced (fun _ _ => Fresh.traced)
    (fun present meets sound traced ran =>
      (stepCell_steps sound ran).traced sound traced (eachOrder_order meets present))
    reached found
  obtain ⟨next, named, ran⟩ := order_step found stepped
  obtain rfl : next = done := Option.some.inj (named.symm.trans later)
  have step := stepCell_steps sound ran
  obtain ⟨message, consumes, claim⟩ : ∃ message, action.consumes = some message ∧
      message.claim = some row := by
    cases action <;> first | exact ⟨_, rfl, report⟩ | cases report
  have member := step.consumed message consumes
  have kept (current : cell.book.standing.reference = some row.paykitRequestReference) :
      next.book.standing.reference = some row.paykitRequestReference := by
    obtain ⟨bound, active⟩ := (sound.backed message member).of_claim claim
    rcases step.reference sound bound active with
      unchanged | ⟨-, ⟨claimed, amountMatched, observation, rfl⟩, -⟩
    · exact unchanged.trans current
    · cases report
  rcases traced.claims message member row claim with current | superseded
  · exact kept current
  · by_cases second : ∃ refused amountMatched observation,
        action = .settleRefused refused amountMatched observation
    · obtain ⟨refused, amountMatched, observation, rfl⟩ := second
      cases consumes
      exact kept (traced.refused _ member row claim)
    · obtain ⟨-, ran⟩ := Option.ite_none_right_eq_some.mp ran
      obtain ⟨effect, committed, written⟩ := Option.map_eq_some_iff.mp ran
      obtain ⟨stock, rows⟩ := Prod.mk.inj written
      have same : effect.view = ⟨sys.inventory, cell.book⟩ := by
        refine @transact_superseded ⟨sys.inventory, cell.book⟩ now row references action effect
          superseded report ?_ committed
        intro refused amountMatched observation named
        exact second ⟨refused, amountMatched, observation, named⟩
      rcases changed with book | inventory
      · exact absurd (rows ▸ congrArg View.book same) book
      · exact absurd (stock ▸ congrArg View.inventory same) inventory

theorem confirmed_report_settles_bound_attempt :
    ∃ sys, Runs.Reachable (marketplace sampleReferences) routedApart sys ∧
      ∃ cell ∈ sys.cells.find? 7, ∃ after ∈ sys.step sampleReferences
          (.order 7 20 (.applyPoll (pendingClaim 1) confirmedReport)),
        ∃ done ∈ after.cells.find? 7, done.book.receipt.isSome = true ∧
          done.book.order.paykitRequestReference =
            some (sampleReferences.attemptReference 7 1) := by
  obtain ⟨sys, reached, cell, found, after, stepped, done, later, unpaid, paid⟩ :=
    Runs.exists_reachable_of_run (marketplace sampleReferences) rfl
      polledLamp
      (fun sys => ∃ cell ∈ sys.cells.find? 7, ∃ after ∈ sys.step sampleReferences
          (.order 7 20 (.applyPoll (pendingClaim 1) confirmedReport)),
        ∃ done ∈ after.cells.find? 7,
          cell.book.receipt = none ∧ done.book.receipt.isSome = true)
      (show Runs.Meets _ routedApart _ _ by decide +kernel) (by decide +kernel)
  refine ⟨sys, reached, cell, found, after, stepped, done, later, paid, ?_⟩
  refine status_report_settles_its_reference sampleReferences reached found stepped later
    rfl (.inl ?_)
  intro same
  rw [same, unpaid] at paid
  cases paid

def wonAuction : List Action :=
  [ .registerListing "lamp"
      { sampleRecord 1 "USD" 2 with saleFormat := .auction, auctionStarted := true }
      ⟨"seller", 0⟩ false
  , .closeAuction "lamp" "buyer" 2500 1 7 ]

/-- The winner's first attempt is voided and the second polled. The reservation
lapses, so the confirmation of the second attempt is refused; before its second
transaction, money of another amount arrives on the first attempt and is routed
to the order. The report of the second attempt then freezes its amount on the
first. -/
theorem refused_report_freezes_other_attempt :
    ∃ sys, Runs.Reachable (marketplace sampleReferences) Runs.anyStep sys ∧
      ∃ cell ∈ sys.cells.find? 7, ∃ after ∈ sys.step sampleReferences
          (.order 7 2000 (.settleRefused (pendingClaim 2) true
            { observedSats := some 5000, confirmations := some 3 })),
        ∃ done ∈ after.cells.find? 7,
          done.book.order.paykitRequestReference =
            some (sampleReferences.attemptReference 7 1) ∧
          sampleReferences.attemptReference 7 1 ≠ sampleReferences.attemptReference 7 2 ∧
          cell.book.order.paykitObservedSats = none ∧
          done.book.order.paykitObservedSats = some 5000 :=
  Runs.exists_reachable_of_run (marketplace sampleReferences) rfl
    (wonAuction ++ bitcoinBind 1 1 ++ activateRequest 0 1 ++
      [.order 7 0 (.answerActivate 0 1 5000 (.error .prepareExpired))] ++
      bitcoinBind 2 2 ++ activateRequest 1 2 ++
      [ .order 7 0 (.answerActivate 1 2 5000 (.activated true 5000))
      , .order 7 0 .claimPoll
      , .tick 2000
      , .expireReservation 1
      , .order 7 2000 (.applyPoll (pendingClaim 2) confirmedReport)
      , .order 7 2000 (.claimReleased 1)
      , .order 7 2000 (.routeReleased
          { invoiceId := 1
            reference := some (sampleReferences.attemptReference 7 1)
            expiresAt := 600
            releasedAt := 0
            detectedAt := none }
          false { observedSats := none, confirmations := none }) ])
    _ (Runs.meets_anyStep _ _ _) (by decide +kernel)

end MarketplaceService
