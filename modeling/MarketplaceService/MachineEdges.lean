import MarketplaceService.RefundedOrders

/-!
The state columns of an order and of its payment against the machines of
`state_machines.rs`. The updates write the columns directly, so the machines
are compared with the moves: each move follows an edge of the payment machine,
and an edge of the order machine or one of the two pairs of edges that a single
transaction takes. An order released on its page is `paid` and `delivered` in
the receipt transaction; a pending order whose review ends in a refund is
cancelled and refunded in the transaction that resolves it.
-/

namespace MarketplaceService

inductive OrderTurn (action : OrderAction) (before after : Standing) : Prop
  | edge (named : canTransition orderMachine before.state after.state = true)
  | deliveredAtOnce (first : (before.state, .paid) ∈ orderMachine)
      (second : (.paid, after.state) ∈ orderMachine) (delivered : after.state = .delivered)
      (unpaid : before.receipt = none) (paid : after.receipt.isSome = true)
      (digital : before.terms.fulfillment = .digital)
      (instant : ∀ line ∈ before.terms.lines, line.digitalKind.any DigitalDeliveryKind.isInstant)
  | refundResolved {input : ResolutionInput} (resolution : action = .resolveReview input)
      (first : (before.state, .cancelled) ∈ orderMachine)
      (second : (.cancelled, after.state) ∈ orderMachine)
      (refunded : after.state = .refundedExternal) (recorded : after.refund.isSome = true)

/-- What one step writes in the two state columns. -/
structure Turn (action : OrderAction) (before after : Standing) : Prop where
  order : OrderTurn action before after
  payment : canTransition paymentMachine before.payment after.payment = true

theorem canTransition_refl {State : Type} [DecidableEq State] (machine : List (State × State))
    (state : State) : canTransition machine state state = true := by
  simp [canTransition]

theorem canTransition_of_mem {State : Type} [DecidableEq State] {machine : List (State × State)}
    {before after : State} (edge : (before, after) ∈ machine) :
    canTransition machine before after = true := by
  simp [canTransition, edge]

section Turns

variable {inventory after : Inventory} {standing done : Standing} {now : Time}
  {action : OrderAction}

/-- A step that writes neither column. -/
theorem Turn.still (state : done.state = standing.state)
    (payment : done.payment = standing.payment) : Turn action standing done := by
  constructor
  · apply OrderTurn.edge
    rw [state]
    exact canTransition_refl ..
  · rw [payment]
    exact canTransition_refl ..

theorem Turn.relabel {start last : Standing} (turn : Turn action standing done)
    (first : standing.state = start.state ∧ standing.payment = start.payment ∧
      standing.receipt = start.receipt ∧ standing.terms = start.terms)
    (second : last.state = done.state ∧ last.payment = done.payment ∧
      last.receipt = done.receipt ∧ last.refund = done.refund) : Turn action start last := by
  obtain ⟨state, payment, receipt, terms⟩ := first
  obtain ⟨state', payment', receipt', refund'⟩ := second
  constructor
  · cases turn.order with
    | edge named =>
        apply OrderTurn.edge
        rw [← state, state']
        exact named
    | deliveredAtOnce first second delivered unpaid paid digital instant =>
        rw [state] at first
        rw [receipt] at unpaid
        rw [terms] at digital instant
        rw [← state'] at second delivered
        rw [← receipt'] at paid
        exact .deliveredAtOnce first second delivered unpaid paid digital instant
    | refundResolved resolution first second refunded recorded =>
        rw [state] at first
        rw [← state'] at second refunded
        rw [← refund'] at recorded
        exact .refundResolved resolution first second refunded recorded
  · rw [← payment, payment']
    exact turn.payment

theorem Standing.reviewable.edge (reviewable : standing.reviewable) :
    canTransition paymentMachine standing.payment .manualReview = true := by
  obtain ⟨open_payment, -⟩ := reviewable
  generalize standing.payment = payment at open_payment
  cases payment <;> first | decide | simp at open_payment

theorem Refund.turn (routed : Refund now inventory standing after done) :
    Turn action standing done := by
  cases routed with
  | cancelled shows_row open_payment pending released =>
      refine ⟨.edge ?_, open_payment.edge⟩
      rw [pending]
      rfl
  | kept open_payment settled =>
      exact ⟨.edge (canTransition_refl ..), open_payment.edge⟩

theorem confirmedState_cases (order : Order) :
    confirmedState order = .paid ∨
      confirmedState order = .delivered ∧ order.fulfillment = .digital ∧
        ∀ line ∈ order.lines, line.digitalKind.any DigitalDeliveryKind.isInstant := by
  unfold confirmedState
  split
  · rename_i released
    obtain ⟨digital, instant⟩ := released
    simp only [Order.allLinesInstant, Bool.and_eq_true, List.all_eq_true] at instant
    exact .inr ⟨rfl, digital, instant.2⟩
  · exact .inl rfl

/-- The states without a receipt are those that `paid` has an edge from. -/
theorem unpaidStates_payable {state : OrderState} (unpaid : state ∈ unpaidStates) :
    (state, .paid) ∈ orderMachine := by
  simp only [unpaidStates, List.mem_cons, List.not_mem_nil, or_false] at unpaid
  rcases unpaid with rfl | rfl | rfl <;> decide

/-- The order is `paid` on its way, whether it stays so or not. -/
theorem Confirm.turn {order : Order} (confirmed : Confirm now order inventory standing after done)
    (unpaid_state : standing.receipt = none → standing.state ∈ unpaidStates)
    (open_payment : canTransition paymentMachine standing.payment .confirmed = true) :
    Turn action standing done := by
  cases confirmed with
  | intro terms payable deliverable unpaid stocked =>
      have first := unpaidStates_payable (unpaid_state unpaid)
      refine ⟨?_, open_payment⟩
      rcases confirmedState_cases order with paid | ⟨delivered, digital, instant⟩
      · apply OrderTurn.edge
        rw [show (standing.confirm order.paykitPins (confirmedState order)).state = .paid from paid]
        exact canTransition_of_mem first
      · have label : (standing.confirm order.paykitPins (confirmedState order)).state =
            .delivered :=
          delivered
        refine .deliveredAtOnce first ?_ label unpaid rfl ?_ ?_
        · rw [label]
          decide
        · rw [← terms]
          exact digital
        · rw [← terms]
          exact instant

theorem Retake.turn (retaken : Retake now inventory standing after done)
    (unpaid_state : standing.receipt = none → standing.state ∈ unpaidStates)
    (open_payment : canTransition paymentMachine standing.payment .confirmed = true) :
    Turn action standing done := by
  cases retaken with
  | intro shows_row reacquired stored confirmed => exact confirmed.turn unpaid_state open_payment

theorem Late.turn (late : Late now inventory standing after done)
    (unpaid_state : standing.receipt = none → standing.state ∈ unpaidStates)
    (open_payment : canTransition paymentMachine standing.payment .confirmed = true) :
    Turn action standing done := by
  cases late with
  | undeliverable routed => exact routed.turn
  | held reviewable pending held => exact ⟨.edge (canTransition_refl ..), reviewable.edge⟩
  | completed unheld unresolved retaken => exact retaken.turn unpaid_state open_payment
  | lost shows_row deliverable unheld failed routed => exact routed.turn

theorem Settle.turn (settled : Settle now inventory standing after done)
    (unpaid_state : standing.receipt = none → standing.state ∈ unpaidStates)
    (open_payment : standing.payment = .awaitingEntitlement ∨ standing.payment = .detected) :
    Turn action standing done := by
  cases settled with
  | confirmed shows_row confirmed =>
      apply confirmed.turn unpaid_state
      rcases open_payment with same | same <;> rw [same] <;> rfl
  | refunded routed => exact routed.turn
  | reviewed =>
      refine ⟨.edge (canTransition_refl ..), ?_⟩
      rcases open_payment with same | same <;> rw [same] <;> rfl

theorem Resolve.turn {input : ResolutionInput}
    (resolved : Resolve now inventory standing after done)
    (unpaid_state : standing.receipt = none → standing.state ∈ unpaidStates)
    (review : standing.payment = .manualReview) :
    Turn (.resolveReview input) standing done := by
  have open_payment : canTransition paymentMachine standing.payment .confirmed = true := by
    rw [review]
    rfl
  cases resolved with
  | intact shows_row pending present confirmed => exact confirmed.turn unpaid_state open_payment
  | retaken shows_row open_order lost retaken => exact retaken.turn unpaid_state open_payment
  | gaveBack shows_row pending closed released =>
      cases closed with
      | refunded refund =>
          refine ⟨.refundResolved rfl ?_ ?_ rfl rfl, open_payment⟩
          · rw [pending]
            decide
          · change (OrderState.cancelled, OrderState.refundedExternal) ∈ orderMachine
            decide
      | abandoned =>
          refine ⟨.edge ?_, ?_⟩
          · rw [pending]
            rfl
          · rw [review]
            rfl
  | closed cancelled closed =>
      cases closed with
      | refunded refund =>
          refine ⟨.edge ?_, open_payment⟩
          rw [cancelled]
          rfl
      | abandoned =>
          refine ⟨.edge ?_, ?_⟩
          · rw [cancelled]
            rfl
          · rw [review]
            rfl

theorem Standing.lapse_edge (standing : Standing) :
    canTransition paymentMachine standing.payment standing.lapse.payment = true := by
  unfold Standing.lapse
  split
  · rename_i awaiting
    rw [awaiting]
    rfl
  · exact canTransition_refl ..

theorem Standing.endRequest_edge (standing : Standing) :
    canTransition paymentMachine standing.payment standing.endRequest.payment = true := by
  unfold Standing.endRequest
  split
  · split
    · exact standing.lapse_edge
    · exact standing.lapse_edge
  · exact canTransition_refl ..

theorem sandboxTargets_edge {payment target : PaymentState}
    (admitted : target ∈ sandboxTargets payment) :
    canTransition paymentMachine payment target = true := by
  revert admitted
  cases payment <;> cases target <;> decide

/-- An order that was never confirmed is in a state without a receipt. -/
def Standing.labelled (standing : Standing) : Prop :=
  standing.receipt = none → standing.state ∈ unpaidStates

theorem Move.turn {references : References} {returned : List Line} (coherent : Coherent standing)
    (labelled : standing.labelled)
    (other : (∀ step, action ≠ .fulfill step) ∧
      ∀ sender refund, action ≠ .recordRefund sender refund)
    (move : Move references now inventory standing action returned after done) :
    Turn action standing done := by
  cases move with
  | stay => exact .still rfl rfl
  | bindFiat known chosen unbound pending awaiting unlocked acquired =>
      obtain ⟨hold, rfl, -, -⟩ := acquired.frame
      exact .still rfl rfl
  | bindBitcoin chosen prepared unbound pending awaiting unlocked acquired =>
      obtain ⟨hold, rfl, -, -⟩ := acquired.frame
      exact .still rfl rfl
  | activate answer preparing => exact .still rfl rfl
  | track answer current voided settled =>
      split
      · obtain ⟨payment, same, -, -⟩ := standing.activate.lapse_frame
        refine ⟨.edge ?_, standing.activate.lapse_edge⟩
        rw [same]
        exact canTransition_refl ..
      · exact .still rfl rfl
  | voidPrepare answer voids shows_row preparing released => exact .still rfl rfl
  | dropRequest preparing settled => exact .still rfl rfl
  | expirePreparing answer shows_row preparing released leased =>
      -- a preparing request belongs to a pending order that awaits its payment
      obtain ⟨bound, awaiting, -⟩ := coherent.preparing preparing
      obtain ⟨pending, -⟩ := coherent.open_payment bound awaiting
      refine ⟨.edge ?_, ?_⟩
      · rw [pending]
        rfl
      · rw [awaiting]
        rfl
  | expireHeld shows_row pending held settled outside open_payment released =>
      refine ⟨.edge ?_, standing.lapse_edge⟩
      rw [pending]
      rfl
  | expireIdle pending free unbound single unstamped awaiting =>
      refine ⟨.edge ?_, ?_⟩
      · rw [pending]
        rfl
      · rw [awaiting]
        rfl
  | cancelPending shows_row pending outside released =>
      refine ⟨.edge ?_, standing.endRequest_edge⟩
      rw [pending]
      rfl
  | cancelPaid shows_row paid returned =>
      refine ⟨.edge ?_, canTransition_refl ..⟩
      rcases paid with same | same <;> rw [same] <;> rfl
  | requestCancel paid =>
      refine ⟨.edge ?_, canTransition_refl ..⟩
      rcases paid with same | same | same <;> rw [same] <;> rfl
  | approveCancel shows_row requested releasable returned =>
      refine ⟨.edge ?_, canTransition_refl ..⟩
      rw [requested]
      rfl
  | fulfil command paid ended ready label recorded =>
      rcases command with ⟨step, named⟩ | ⟨sender, refund, named⟩
      · exact absurd named (other.1 step)
      · exact absurd named (other.2 sender refund)
  | settle rail awaiting settled => exact settled.turn labelled (.inl awaiting)
  | late rail money expired late =>
      apply late.turn labelled
      rw [expired]
      rfl
  | settlePoll rail awaiting gate settled froze =>
      exact (settled.turn labelled (.inl awaiting)).relabel
        ⟨rfl, rfl, rfl, rfl⟩ ⟨rfl, rfl, rfl, rfl⟩
  | latePoll rail money open_payment outside froze late flagged =>
      refine (late.turn labelled ?_).relabel ⟨rfl, rfl, rfl, rfl⟩ ⟨rfl, rfl, rfl, rfl⟩
      change canTransition paymentMachine standing.payment .confirmed = true
      rcases open_payment with same | same <;> rw [same] <;> rfl
  | fallback advanced froze => exact .still rfl rfl
  | confirmSeller window awaiting confirmed froze first queued pinned =>
      refine (confirmed.turn labelled ?_).relabel ⟨rfl, rfl, rfl, rfl⟩ ⟨rfl, rfl, rfl, rfl⟩
      rw [awaiting]
      rfl
  | windowLapsed request awaiting opened due froze =>
      refine ⟨.edge (canTransition_refl ..), ?_⟩
      rw [awaiting]
      rfl
  | resolve paykit review unresolved resolved first queued pinned =>
      exact (resolved.turn labelled review).relabel ⟨rfl, rfl, rfl, rfl⟩ ⟨rfl, rfl, rfl, rfl⟩
  | routeMismatch watching unbound paykit open_payment outside untracked unresolved froze =>
      refine ⟨.edge (canTransition_refl ..), ?_⟩
      rcases open_payment with same | same <;> rw [same] <;> rfl
  | routeLate watching unbound paykit open_payment outside untracked froze swapped late =>
      have same := swapped.eq
      have kept : _ ∧ _ ∧ _ ∧ _ :=
        ⟨congrArg Standing.state same, congrArg Standing.payment same,
          congrArg Standing.receipt same, congrArg Standing.terms same⟩
      refine (late.turn ?_ ?_).relabel kept ⟨rfl, rfl, rfl, rfl⟩
      · intro unpaid
        rw [kept.1]
        exact labelled (kept.2.2.1.symm.trans unpaid)
      · rw [kept.2.1]
        change canTransition paymentMachine standing.payment .confirmed = true
        rcases open_payment with same | same <;> rw [same] <;> rfl
  | detect rail pending => exact .still rfl rfl
  | refresh rail request amount => exact .still rfl rfl
  | enterWindow rail entry reported awaiting froze first extended => exact .still rfl rfl
  | sandbox sandbox target_ok unconfirmed acquired =>
      have open_payment := sandboxTargets_edge target_ok
      rcases acquired with acquired | ⟨-, rfl⟩
      · obtain ⟨hold, rfl, -, -⟩ := acquired.frame
        exact ⟨.edge (canTransition_refl ..), open_payment⟩
      · exact ⟨.edge (canTransition_refl ..), open_payment⟩
  | sandboxSettle sandbox open_payment acquired settled =>
      rcases acquired with acquired | ⟨-, rfl⟩
      · obtain ⟨hold, rfl, -, -⟩ := acquired.frame
        exact (settled.turn labelled open_payment).relabel ⟨rfl, rfl, rfl, rfl⟩ ⟨rfl, rfl, rfl, rfl⟩
      · exact settled.turn labelled open_payment
  | prepareLocks unbound unlocked pending awaiting priced acquired =>
      obtain ⟨hold, rfl, -, -⟩ := acquired.frame
      exact .still rfl rfl
  | registerLocks locks => exact .still rfl rfl

end Turns

/-! The labels after payment. -/

theorem fulfillmentTarget_edge {order : Order} {step : FulfillmentStep} {state : OrderState}
    (target : fulfillmentTarget order step = some state) :
    canTransition orderMachine order.state state = true := by
  have guarded {guard : Prop} [Decidable guard] {label : OrderState}
      (taken : (if guard then some label else none) = some state) : guard ∧ state = label := by
    obtain ⟨holds, same⟩ := Option.ite_none_right_eq_some.mp taken
    exact ⟨holds, (Option.some.inj same).symm⟩
  cases step with
  | ship =>
      obtain ⟨⟨-, same | same⟩, rfl⟩ := guarded target <;> rw [same] <;> rfl
  | confirmDelivery =>
      obtain ⟨⟨-, same⟩, rfl⟩ := guarded target
      rw [same]
      rfl
  | markReady =>
      obtain ⟨⟨-, same⟩, rfl⟩ := guarded target
      rw [same]
      rfl
  | confirmPickup =>
      obtain ⟨⟨-, same | same⟩, rfl⟩ := guarded target <;> rw [same] <;> rfl
  | markDigitalDelivered =>
      obtain ⟨⟨-, same⟩, rfl⟩ := guarded target
      rw [same]
      rfl
  | complete =>
      obtain ⟨same, rfl⟩ := guarded target
      rw [same]
      rfl
  | requestReturn =>
      obtain ⟨⟨-, same | same⟩, rfl⟩ := guarded target <;> rw [same] <;> rfl
  | approveReturn =>
      obtain ⟨same, rfl⟩ := guarded target
      rw [same]
      rfl
  | receiveReturn =>
      obtain ⟨same, rfl⟩ := guarded target
      rw [same]
      rfl

theorem refundable_edge {state : OrderState}
    (source : state ∈ [OrderState.returnReceived, .cancelled, .delivered, .completed]) :
    (state, .refundedExternal) ∈ orderMachine := by
  simp only [List.mem_cons, List.not_mem_nil, or_false] at source
  rcases source with rfl | rfl | rfl | rfl <;> decide

theorem recordExternalRefund_edge {book done : OrderBook} {sender : Sender}
    {refund : ExternalRefund} (ran : recordExternalRefund book sender refund = .ok done) :
    (book.order.state, done.order.state) ∈ orderMachine ∧ done.payment = book.payment := by
  unfold recordExternalRefund at ran
  obtain ⟨-, -, rest⟩ := Outcome.bind_ok ran
  split at rest
  · cases rest
  · split at rest
    · cases rest
    · rename_i refundable
      obtain ⟨rfl, -⟩ := updateOrder_ok rest
      refine ⟨refundable_edge ?_, rfl⟩
      rw [Bool.or_eq_true, Bool.or_eq_true, not_or, not_or] at refundable
      exact refundSources_of_allowed refundable.1.1

theorem stepCell_turn {references : References} {now : Time} {inventory after : Inventory}
    {cell done : Cell} {action : OrderAction} (recorded : Recorded cell)
    (stepped : stepCell references inventory cell now action = some (after, done)) :
    Turn action cell.book.standing done.book.standing := by
  by_cases other : (∀ step, action ≠ .fulfill step) ∧
      ∀ sender refund, action ≠ .recordRefund sender refund
  · have step := stepCell_steps recorded.sound stepped
    obtain ⟨moved, move, tidied⟩ := step.moves
    have labelled : cell.book.standing.labelled := by
      intro unpaid
      exact recorded.unpaid (Option.map_eq_none_iff.mp unpaid)
    refine (move.turn recorded.sound.coherent labelled other).relabel ⟨rfl, rfl, rfl, rfl⟩ ?_
    have standing := tidied.eq
    exact ⟨(congrArg Standing.state standing).trans rfl,
      (congrArg Standing.payment standing).trans rfl,
      (congrArg Standing.receipt standing).trans rfl, (congrArg Standing.refund standing).trans rfl⟩
  · obtain ⟨effect, ran, -, rfl⟩ := stepCell_transacts stepped
    cases action with
    | fulfill step =>
        obtain ⟨book, advanced, rfl⟩ := Option.map_eq_some_iff.mp ran
        obtain ⟨state, target, rfl⟩ := Option.map_eq_some_iff.mp advanced
        exact ⟨.edge (fulfillmentTarget_edge target), canTransition_refl ..⟩
    | recordRefund sender refund =>
        obtain ⟨book, refunded, rfl⟩ := Option.map_eq_some_iff.mp ran
        obtain ⟨edge, payment⟩ := recordExternalRefund_edge (Outcome.toOption_some refunded)
        refine ⟨.edge (canTransition_of_mem edge), ?_⟩
        change canTransition paymentMachine _ book.payment.state = true
        rw [payment]
        exact canTransition_refl ..
    | _ => simp at other

/-! The gateway. -/

def RefundEdge (before after : OrderState) : Prop :=
  (before, after) ∈ orderMachine ∧ (before = .refundedExternal ∨ after = .refundedExternal)

theorem fullRefundSources_edge {state : OrderState} (source : state ∈ fullRefundSources) :
    RefundEdge state .refundedExternal ∧ RefundEdge .refundedExternal state := by
  refine ⟨⟨?_, .inr rfl⟩, ⟨?_, .inl rfl⟩⟩ <;> revert source <;> cases state <;> decide

/-- What a step of the marketplace or its gateway writes in the columns of an
order. -/
inductive GatewayTurn (action : GatewayAction) (id : OrderId) (before after : OrderBook) : Prop
  | own {now : Time} {step : OrderAction} (named : action = .service (.order id now step))
      (turn : Turn step before.standing after.standing)
  | still (same : after = before)
  | refund {revision : ℕ} {state : OrderState} {refund : Option ExternalRefund}
      (gateway : ∀ step, action ≠ .service step)
      (written : after = { before with order := { before.order with
        revision := revision, state := state, externalRefund := refund } })
      (edge : state = before.order.state ∨ RefundEdge before.order.state state)

theorem gateway_turn {references : References} {gate after : GatewaySys} {action : GatewayAction}
    {id : OrderId} {cell : Cell} (kept : GatewayKept gate)
    (stepped : gate.step references action = some after)
    (found : gate.sys.cells.find? id = some cell) :
    ∃ done, after.sys.cells.find? id = some done ∧ GatewayTurn action id cell.book done.book := by
  cases gateway_step_inv stepped with
  | service named ran files =>
      obtain ⟨done, present, rfl | ⟨now, step, own, moved⟩⟩ := step_keeps ran found
      · exact ⟨done, present, .still rfl⟩
      · refine ⟨done, present, .own (named.trans (congrArg _ own)) ?_⟩
        exact stepCell_turn (kept.orders id cell found).1 moved
  | settled named stored paypal same files =>
      refine ⟨cell, ?_, .still rfl⟩
      rw [same]
      exact found
  | @notified own now record row written named stored owned ran same files =>
      by_cases here : id = own
      · subst here
        obtain rfl := Option.some.inj (found.symm.trans stored)
        obtain ⟨-, remembers, -⟩ := kept.orders id cell found
        obtain ⟨state, refund, from_state, relabels, book, -⟩ := recordOnOrder_ok ran
        refine ⟨{ cell with book := written.1 }, ?_, .refund ?_ book ?_⟩
        · rw [same]
          exact Keyed.Table.find?_set_self ..
        · rintro step rfl
          cases named
        · cases relabels with
          | kept => exact .inl rfl
          | refunded source status => exact .inr (fullRefundSources_edge source).1
          | restored member replaced was status =>
              rw [was]
              exact .inr (fullRefundSources_edge (remembers _ member _ replaced).1).2
      · refine ⟨cell, ?_, .still rfl⟩
        rw [same]
        exact (Keyed.Table.find?_set_ne _ _ here).trans found
  | @recorded own sender refund row book named stored ran same files =>
      by_cases here : id = own
      · subst here
        obtain rfl := Option.some.inj (found.symm.trans stored)
        obtain ⟨source, written⟩ := recordOverGateway_ok ran
        refine ⟨{ cell with book := book }, ?_, .refund ?_ written (.inr ⟨?_, .inr rfl⟩)⟩
        · rw [same]
          exact Keyed.Table.find?_set_self ..
        · rintro step rfl
          cases named
        · exact refundable_edge source
      · refine ⟨cell, ?_, .still rfl⟩
        rw [same]
        exact (Keyed.Table.find?_set_ne _ _ here).trans found

/-! Committed transactions. -/

/-- A transaction is one step, or the settlement of a verified PayPal payment:
the payment is applied, its id stored unless the order has one, and the
notifications held for it recorded, all in one commit. -/
inductive Transaction where
  | one (action : GatewayAction)
  | settlement (id : OrderId) (now : Time) (applied : OrderAction) (stored : Option String)
      (held : List (OrderId × GatewayRecord))
deriving DecidableEq

/-- The transactions that settle a payment: its application, and the review of
one that the order refused. -/
def OrderAction.appliesPaypal : OrderAction → Bool
  | .applyFiat _ .gateway | .reviewFiat => true
  | _ => false

def Transaction.steps : Transaction → List GatewayAction
  | .one action => [action]
  | .settlement id now applied stored held =>
      .service (.order id now applied) ::
        (stored.toList.map (.settle id) ++ held.map fun row => .notify row.1 now row.2)

def Transaction.commit (references : References) (gate : GatewaySys) (transaction : Transaction) :
    Option GatewaySys :=
  match transaction with
  | .settlement _ _ applied _ _ =>
      if applied.appliesPaypal then
        Runs.run (gatewayMarketplace references) gate transaction.steps
      else none
  | .one _ => Runs.run (gatewayMarketplace references) gate transaction.steps

def commits (references : References) : Runs.System GatewaySys Transaction :=
  { initial := (gatewayMarketplace references).initial
    step := fun gate transaction => transaction.commit references gate }

/-- A state that no edge of the machine leaves. -/
def terminal {State : Type} (machine : List (State × State)) (state : State) : Prop :=
  ∀ next, (state, next) ∉ machine

/-- The change that a committed transaction makes of an order's state. -/
inductive Conforms (before after : OrderBook) : Transaction → Prop
  | edge {action : GatewayAction}
      (named : canTransition orderMachine before.order.state after.order.state = true) :
      Conforms before after (.one action)
  | step {id : OrderId} {now : Time} {step : OrderAction}
      (turn : OrderTurn step before.standing after.standing) :
      Conforms before after (.one (.service (.order id now step)))
  | settlement {id : OrderId} {now : Time} {applied : OrderAction} {stored : Option String}
      {held : List (OrderId × GatewayRecord)} {middle : OrderBook}
      (turn : OrderTurn applied before.standing middle.standing)
      (recorded : Relation.ReflTransGen RefundEdge middle.order.state after.order.state) :
      Conforms before after (.settlement id now applied stored held)

/-- The machine's states that no transition produces. -/
def Unused (state : OrderState) : Prop := state = .processing ∨ state = .closed

/-- What a committed transaction writes in the two state columns of an order. -/
structure FollowsMachines (transaction : Transaction) (before after : OrderBook) : Prop where
  order : Conforms before after transaction
  payment : canTransition paymentMachine before.payment.state after.payment.state = true
  terminal : terminal orderMachine before.order.state → after.order.state = before.order.state
  used : ¬ Unused after.order.state

theorem terminal_edge {State : Type} [DecidableEq State] {machine : List (State × State)}
    {before after : State} (ended : terminal machine before)
    (edge : canTransition machine before after = true) : after = before := by
  simp only [canTransition, Bool.or_eq_true, beq_iff_eq, List.contains_iff_mem] at edge
  rcases edge with same | member
  · exact same.symm
  · exact absurd member (ended after)

theorem unused_edge {before after : OrderState}
    (edge : canTransition orderMachine before after = true) (unused : Unused after) :
    Unused before := by
  rcases unused with rfl | rfl <;> revert edge <;> cases before <;> simp [Unused] <;> decide

section Turns

variable {before after : Standing} {action : OrderAction}

theorem OrderTurn.terminal (turn : OrderTurn action before after)
    (ended : terminal orderMachine before.state) : after.state = before.state := by
  cases turn with
  | edge named => exact terminal_edge ended named
  | deliveredAtOnce first _ _ _ _ _ _ => exact absurd first (ended _)
  | refundResolved _ first _ _ _ => exact absurd first (ended _)

theorem OrderTurn.unused (turn : OrderTurn action before after) (unused : Unused after.state) :
    Unused before.state := by
  cases turn with
  | edge named => exact unused_edge named unused
  | deliveredAtOnce first second delivered _ _ _ _ =>
      rw [delivered] at unused
      rcases unused with same | same <;> cases same
  | refundResolved _ first second refunded _ =>
      rw [refunded] at unused
      rcases unused with same | same <;> cases same

theorem refundEdges_terminal {first last : OrderState}
    (recorded : Relation.ReflTransGen RefundEdge first last) (ended : terminal orderMachine first) :
    last = first := by
  induction recorded with
  | refl => rfl
  | tail _ edge ih =>
      rw [ih] at edge
      exact absurd edge.1 (ended _)

end Turns

section Runs

variable {references : References} {gate after : GatewaySys} {id : OrderId} {cell : Cell}

theorem run_refunds {labels : List GatewayAction} (kept : GatewayKept gate)
    (foreign : ∀ label ∈ labels, ∀ now step, label ≠ .service (.order id now step))
    (ran : Runs.run (gatewayMarketplace references) gate labels = some after)
    (found : gate.sys.cells.find? id = some cell) :
    ∃ done, after.sys.cells.find? id = some done ∧ done.book.payment = cell.book.payment ∧
      Relation.ReflTransGen RefundEdge cell.book.order.state done.book.order.state := by
  induction labels generalizing gate cell with
  | nil =>
      cases ran
      exact ⟨cell, found, rfl, .refl⟩
  | cons label rest ih =>
      obtain ⟨middle, stepped, tail⟩ := Option.bind_eq_some_iff.mp ran
      obtain ⟨next, present, turn⟩ := gateway_turn kept stepped found
      have others : ∀ label ∈ rest, ∀ now step, label ≠ .service (.order id now step) :=
        fun label member => foreign label (List.mem_cons_of_mem _ member)
      obtain ⟨done, stored, payment, recorded⟩ := ih (kept.step stepped) others tail present
      refine ⟨done, stored, ?_⟩
      cases turn with
      | own named turn => exact absurd named (foreign label (List.mem_cons_self ..) _ _)
      | still same =>
          rw [same] at payment recorded
          exact ⟨payment, recorded⟩
      | refund gateway written edge =>
          rw [written] at payment recorded
          refine ⟨payment, ?_⟩
          rcases edge with same | edge
          · rw [← same]
            exact recorded
          · exact .head edge recorded

/-- The orders of a reachable state. -/
structure Conforming (gate : GatewaySys) : Prop where
  kept : GatewayKept gate
  used : ∀ id cell, gate.sys.cells.find? id = some cell → ¬ Unused cell.book.order.state

theorem GatewayTurn.unused {action : GatewayAction} {before after : OrderBook}
    (turn : GatewayTurn action id before after) (unused : Unused after.order.state) :
    Unused before.order.state := by
  cases turn with
  | own named turn => exact turn.order.unused unused
  | still same =>
      rw [same] at unused
      exact unused
  | refund gateway written edge =>
      rw [written] at unused
      rcases edge with same | edge
      · rw [← same]
        exact unused
      · exact unused_edge (canTransition_of_mem edge.1) unused

theorem added_pending {action : GatewayAction} {done : Cell}
    (stepped : gate.step references action = some after)
    (absent : gate.sys.cells.find? id = none) (present : after.sys.cells.find? id = some done) :
    done.book.order.state = .pendingPayment := by
  cases gateway_step_inv stepped with
  | service named ran files =>
      cases step_cells ran present with
      | same old => cases absent.symm.trans old
      | stepped named old moved => cases absent.symm.trans old
      | fresh fresh created =>
          obtain ⟨held, start⟩ := fresh.standing
          rw [created]
          exact congrArg Standing.state start
  | settled named stored paypal same files =>
      rw [same] at present
      cases absent.symm.trans present
  | @notified own now record row written named stored owned ran same files =>
      have differs : id ≠ own := by
        rintro rfl
        cases absent.symm.trans stored
      rw [same] at present
      cases absent.symm.trans ((Keyed.Table.find?_set_ne _ _ differs).symm.trans present)
  | @recorded own sender refund row book named stored ran same files =>
      have differs : id ≠ own := by
        rintro rfl
        cases absent.symm.trans stored
      rw [same] at present
      cases absent.symm.trans ((Keyed.Table.find?_set_ne _ _ differs).symm.trans present)

theorem Conforming.step {action : GatewayAction} (conforming : Conforming gate)
    (stepped : gate.step references action = some after) : Conforming after := by
  refine ⟨conforming.kept.step stepped, ?_⟩
  intro id done present unused
  cases found : gate.sys.cells.find? id with
  | none =>
      rw [added_pending stepped found present] at unused
      rcases unused with same | same <;> cases same
  | some cell =>
      obtain ⟨next, stored, turn⟩ := gateway_turn conforming.kept stepped found
      obtain rfl := Option.some.inj (present.symm.trans stored)
      exact conforming.used id cell found (turn.unused unused)

theorem Conforming.run {labels : List GatewayAction} (conforming : Conforming gate)
    (ran : Runs.run (gatewayMarketplace references) gate labels = some after) :
    Conforming after := by
  induction labels generalizing gate with
  | nil =>
      cases ran
      exact conforming
  | cons label rest ih =>
      obtain ⟨middle, stepped, tail⟩ := Option.bind_eq_some_iff.mp ran
      exact ih (conforming.step stepped) tail

theorem commit_runs {transaction : Transaction}
    (committed : transaction.commit references gate = some after) :
    Runs.run (gatewayMarketplace references) gate transaction.steps = some after := by
  cases transaction with
  | one action => exact committed
  | settlement id now applied stored held =>
      exact (Option.ite_none_right_eq_some.mp committed).2

theorem reachable_conforming
    (reached : Runs.Reachable (commits references) Runs.anyStep gate) : Conforming gate := by
  refine Runs.invariant (commits references) Runs.anyStep Conforming ?_ ?_ reached
  · intro gate init
    have empty : gate = { sys := emptySys, files := .empty } := init
    refine ⟨@reachable_gatewayKept references gate Runs.anyStep (.start init), ?_⟩
    intro id cell found
    rw [empty] at found
    cases found
  · intro before transaction after conforming _ committed
    exact conforming.run (commit_runs committed)

theorem GatewayTurn.follows {action : GatewayAction} {before after : OrderBook}
    (turn : GatewayTurn action id before after) (used : ¬ Unused before.order.state) :
    FollowsMachines (.one action) before after := by
  have unused : ¬ Unused after.order.state := fun label => used (turn.unused label)
  cases turn with
  | own named turn =>
      subst named
      exact ⟨.step turn.order, turn.payment, turn.order.terminal, unused⟩
  | still same =>
      rw [same]
      exact ⟨.edge (canTransition_refl ..), canTransition_refl .., fun _ => rfl, used⟩
  | @refund revision state refund gateway written edge =>
      have named : canTransition orderMachine before.order.state after.order.state = true := by
        rw [written]
        rcases edge with same | edge
        · rw [show state = before.order.state from same]
          exact canTransition_refl ..
        · exact canTransition_of_mem edge.1
      refine ⟨.edge named, ?_, fun ended => terminal_edge ended named, unused⟩
      rw [written]
      exact canTransition_refl ..

/-- The settlement of a PayPal payment: the payment's own turn, then refunds. -/
theorem settlement_follows {now : Time} {own : OrderId} {applied : OrderAction}
    {stored : Option String} {held : List (OrderId × GatewayRecord)} (conforming : Conforming gate)
    (ran : Runs.run (gatewayMarketplace references) gate
      (Transaction.settlement own now applied stored held).steps = some after)
    (found : gate.sys.cells.find? id = some cell) :
    ∃ done, after.sys.cells.find? id = some done ∧
      FollowsMachines (.settlement own now applied stored held) cell.book done.book := by
  obtain ⟨paid, stepped, tail⟩ := Option.bind_eq_some_iff.mp ran
  change gate.step references (.service (.order own now applied)) = some paid at stepped
  obtain ⟨middle, present, first⟩ := gateway_turn conforming.kept stepped found
  have turn : Turn applied cell.book.standing middle.book.standing := by
    cases first with
    | own named turn =>
        cases named
        exact turn
    | still same =>
        rw [same]
        exact .still rfl rfl
    | refund gateway written edge => exact absurd rfl (gateway _)
  have foreign : ∀ label ∈ stored.toList.map (GatewayAction.settle own) ++
      held.map (fun row => GatewayAction.notify row.1 now row.2),
      ∀ time step, label ≠ .service (.order id time step) := by
    intro label member time step
    rcases List.mem_append.mp member with listed | listed
    · obtain ⟨txn, -, rfl⟩ := List.mem_map.mp listed
      exact GatewayAction.noConfusion
    · obtain ⟨row, -, rfl⟩ := List.mem_map.mp listed
      exact GatewayAction.noConfusion
  obtain ⟨done, last, payment, recorded⟩ :=
    run_refunds (conforming.kept.step stepped) foreign tail present
  refine ⟨done, last, .settlement turn.order recorded, ?_, ?_, ?_⟩
  · rw [payment]
    exact turn.payment
  · intro ended
    have same := turn.order.terminal ended
    change terminal orderMachine cell.book.order.state at ended
    change middle.book.order.state = cell.book.order.state at same
    rw [← same] at ended
    exact (refundEdges_terminal recorded ended).trans same
  · exact (conforming.run ran).used id done last

end Runs

/-- Every committed transaction follows the machines: the payment an edge, the
order an edge, one of the two pairs of edges, or, when it settles a PayPal
payment, such a turn and then refund edges. -/
theorem commits_follow_machines (references : References) (gate : GatewaySys)
    (reached : Runs.Reachable (commits references) Runs.anyStep gate) (transaction : Transaction)
    (after : GatewaySys) (committed : transaction.commit references gate = some after)
    (id : OrderId) (cell : Cell) (found : gate.sys.cells.find? id = some cell) :
    ∃ done, after.sys.cells.find? id = some done ∧
      FollowsMachines transaction cell.book done.book := by
  have conforming := reachable_conforming reached
  have ran := commit_runs committed
  cases transaction with
  | one action =>
      obtain ⟨middle, stepped, tail⟩ := Option.bind_eq_some_iff.mp ran
      cases tail
      obtain ⟨done, present, turn⟩ := gateway_turn conforming.kept stepped found
      exact ⟨done, present, turn.follows (conforming.used id cell found)⟩
  | settlement own now applied stored held => exact settlement_follows conforming ran found

/-- The lamp bound to PayPal, its payment on the way. -/
def paypalLamp : List Transaction :=
  (lampOrder ++ sampleBind 1 .paypal none none ++
    [Action.order 7 10 (.verifyPaypal (some "payment") .gateway)]).map fun action =>
      .one (.service action)

/-- The settlement of the lamp's payment, with its refund held. -/
def refundedSettlement : Transaction :=
  .settlement 7 10 (.applyFiat (some "payment") .gateway) (some "payment")
    [(7, { txnId := "refund", parentTxnId := "payment", status := .refunded, amountMinor := 2500 })]

/-- The lamp is paid and refunded in one commit. -/
theorem held_refund_follows_payment :
    ∃ gate, Runs.Reachable (commits sampleReferences) Runs.anyStep gate ∧
      ∃ cell, gate.sys.cells.find? 7 = some cell ∧ cell.book.order.state = .pendingPayment ∧
        ∃ after, refundedSettlement.commit sampleReferences gate = some after ∧
          (∃ done ∈ after.sys.cells.find? 7, done.book.order.state = .refundedExternal) ∧
          ∃ done, after.sys.cells.find? 7 = some done ∧
            FollowsMachines refundedSettlement cell.book done.book := by
  obtain ⟨gate, reached, cell, found, pending, after, committed, refunded⟩ :=
    Runs.exists_reachable_of_run (commits sampleReferences) rfl paypalLamp
      (fun gate => ∃ cell ∈ gate.sys.cells.find? 7, cell.book.order.state = .pendingPayment ∧
        ∃ after ∈ refundedSettlement.commit sampleReferences gate,
          ∃ done ∈ after.sys.cells.find? 7, done.book.order.state = .refundedExternal)
      (Runs.meets_anyStep _ _ _) (by decide +kernel)
  exact ⟨gate, reached, cell, found, pending, after, committed, refunded,
    commits_follow_machines sampleReferences gate reached refundedSettlement after committed 7 cell
      found⟩

/-- A book sold as a file, and order 7 for it on its way to be paid. -/
def fileOrder : List Transaction :=
  ([ Action.registerListing "book" { sampleRecord 1 "USD" 2 with fulfillmentMethods := [.digital] }
      ⟨"seller", 0⟩ false
   , .setDigitalVersion "book" (some .file)
   , .checkout
      { buyer := "buyer"
        lines :=
          [{ listing := "book"
             quantity := 1
             expectedRevision := 1
             fulfillment := .digital
             quantity_pos := Nat.one_pos }]
        orderIds := [7]
        locksAuthority := false
        dropClaimWindowSeconds := 600 } ] ++ sampleBind 1 .paypal none none ++
    [Action.order 7 10 (.verifyPaypal (some "payment") .gateway)]).map fun action =>
      .one (.service action)

/-- The book goes from `pending_payment` to `delivered` in one commit; the
machine has no such edge. -/
theorem file_is_delivered_from_pending :
    ∃ gate, Runs.Reachable (commits sampleReferences) Runs.anyStep gate ∧
      ∃ cell ∈ gate.sys.cells.find? 7, ∃ after ∈ (Transaction.one (.service (.order 7 10
          (.applyFiat (some "payment") .gateway)))).commit sampleReferences gate,
        ∃ done ∈ after.sys.cells.find? 7,
          cell.book.order.state = .pendingPayment ∧ done.book.order.state = .delivered ∧
            canTransition orderMachine cell.book.order.state done.book.order.state = false :=
  Runs.exists_reachable_of_run (commits sampleReferences) rfl fileOrder
    (fun gate => ∃ cell ∈ gate.sys.cells.find? 7, ∃ after ∈ (Transaction.one (.service (.order 7 10
        (.applyFiat (some "payment") .gateway)))).commit sampleReferences gate,
      ∃ done ∈ after.sys.cells.find? 7,
        cell.book.order.state = .pendingPayment ∧ done.book.order.state = .delivered ∧
          canTransition orderMachine cell.book.order.state done.book.order.state = false)
    (Runs.meets_anyStep _ _ _) (by decide +kernel)

end MarketplaceService
