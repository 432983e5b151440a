import MarketplaceService.RailSteps

/-!
The denomination of receipts. `confirm_order` takes it from the Paykit pins on
the order, if there are any. A void leaves the pins on the order, and of the
payment row it restores the amount only, so an order that is paid on another
rail after a void gets a receipt in SAT. It does not when the pins left on the
order say the same as its total.
-/

namespace MarketplaceService

def Standing.receiptCharge (standing : Standing) : Charge :=
  (standing.pins.map PaykitPins.charge).getD standing.terms.charge

/-- The row of a payment charges what its rail asks for. -/
structure Charged (standing : Standing) : Prop where
  paykit : standing.adapter = .paykit → standing.charge = standing.receiptCharge
  other : standing.adapter ≠ .paykit → standing.receiptCharge = standing.terms.charge →
    standing.charge = standing.terms.charge

def Receipted (standing : Standing) : Prop :=
  ∀ charge ∈ standing.receipt, charge = standing.receiptCharge ∧
    (standing.adapter ≠ .paykit → standing.receiptCharge = standing.terms.charge)

section Rails

variable {references : References} {standing target : Standing} {action : OrderAction}

theorem SameRail.receiptCharge (same : SameRail standing target) :
    target.receiptCharge = standing.receiptCharge := by
  unfold Standing.receiptCharge
  rw [same.pins, same.terms]

theorem SameRail.charged (same : SameRail standing target) (charged : Charged standing) :
    Charged target := by
  constructor
  · intro paykit
    rw [same.charge, same.receiptCharge]
    exact charged.paykit (same.adapter ▸ paykit)
  · intro other agree
    rw [same.charge, same.terms]
    rw [same.receiptCharge, same.terms] at agree
    exact charged.other (same.adapter ▸ other) agree

theorem RailStep.charged (coherent : Coherent standing) (charged : Charged standing)
    (step : RailStep references standing action target) : Charged target := by
  -- an order without a method is not on Paykit
  have unpaykit (unbound : standing.method = none) : standing.adapter ≠ .paykit := by
    intro paykit
    have bound := coherent.bitcoin.mpr paykit
    rw [unbound] at bound
    cases bound
  cases step with
  | same => exact charged
  | bindFiat known chosen unbound pending unlocked =>
      refine ⟨?_, fun _ => charged.other (unpaykit unbound)⟩
      intro paykit
      rcases known with rfl | rfl <;> cases paykit
  | bindBitcoin chosen prepared unbound pending unlocked =>
      exact ⟨fun _ => rfl, fun other => absurd rfl other⟩
  | activate answer preparing => exact ⟨charged.paykit, charged.other⟩
  | track answer current voided settled => exact ⟨charged.paykit, charged.other⟩
  | voidPrepare answer preparing =>
      have paykit := coherent.bitcoin.mp (coherent.preparing preparing).1
      constructor
      · intro back
        cases back
      intro _ agree
      -- the currency and the exponent are still those of the pins
      have same : standing.charge = standing.terms.charge := (charged.paykit paykit).trans agree
      change { standing.charge with amountMinor := standing.terms.totalMinor } =
        standing.terms.charge
      rw [same]
      rfl
  | dropRequest preparing ended => exact ⟨charged.paykit, charged.other⟩
  | restore unbound open_payment untracked =>
      exact ⟨fun _ => rfl, fun other => absurd rfl other⟩
  | prepareLocks unbound pending priced =>
      constructor
      · intro paykit
        cases paykit
      · exact fun _ _ => priced

theorem RailStep.receipted (coherent : Coherent standing)
    (paid : standing.receipt.isSome = true)
    (step : RailStep references standing action target) :
    target.receiptCharge = standing.receiptCharge ∧ target.adapter = standing.adapter ∧
      target.terms = standing.terms := by
  obtain ⟨confirmed, settled⟩ := coherent.receipt paid
  have prepares (preparing : standing.activation = some .preparing) : False := by
    have awaiting := (coherent.preparing preparing).2.1
    rw [confirmed] at awaiting
    cases awaiting
  cases step with
  | same => exact ⟨rfl, rfl, rfl⟩
  | bindFiat known chosen unbound pending unlocked => exact absurd pending settled
  | bindBitcoin chosen prepared unbound pending unlocked => exact absurd pending settled
  | activate answer preparing => exact absurd preparing prepares
  | track answer current voided ended => exact ⟨rfl, rfl, rfl⟩
  | voidPrepare answer preparing => exact absurd preparing prepares
  | dropRequest preparing ended => exact absurd preparing prepares
  | restore unbound open_payment untracked =>
      rw [confirmed] at open_payment
      rcases open_payment with same | same <;> cases same
  | prepareLocks unbound pending priced => exact absurd pending settled

end Rails

/-! Where a receipt comes from. -/

/-- The receipt is the one before, or says what the pins and the total say. -/
def Issues (before after : Standing) : Prop :=
  after.receipt = before.receipt ∨ after.receipt = some before.receiptCharge

section Issuing

variable {now : Time} {inventory after : Inventory} {standing done : Standing}

theorem Acquire.receipt (acquired : Acquire inventory standing after done) :
    done.receipt = standing.receipt := by
  obtain ⟨held, rfl, -, -⟩ := acquired.frame
  rfl

theorem Refund.issues (routed : Refund now inventory standing after done) :
    Issues standing done := by
  cases routed with
  | cancelled shows_row open_payment pending released => exact .inl rfl
  | kept open_payment settled => exact .inl rfl

theorem Confirm.issues {order : Order} (pins : order.paykitPins = standing.pins)
    (confirmed : Confirm now order inventory standing after done) : Issues standing done := by
  cases confirmed with
  | intro terms payable deliverable unpaid stocked =>
      right
      unfold Standing.receiptCharge
      rw [← pins]
      rfl

theorem Retake.issues (retaken : Retake now inventory standing after done) :
    Issues standing done := by
  cases retaken with
  | @intro order row taken after done shows_row reacquired stored confirmed =>
      refine confirmed.issues ?_
      rw [stored, ← shows_row.pins]
      split <;> rfl

theorem Late.issues (late : Late now inventory standing after done) : Issues standing done := by
  cases late with
  | undeliverable routed => exact routed.issues
  | held open_payment pending held => exact .inl rfl
  | completed unheld unresolved retaken => exact retaken.issues
  | lost shows_row deliverable unheld failed routed => exact routed.issues

theorem Settle.issues (settled : Settle now inventory standing after done) :
    Issues standing done := by
  cases settled with
  | confirmed shows_row confirmed => exact confirmed.issues shows_row.pins
  | refunded routed => exact routed.issues
  | reviewed => exact .inl rfl

theorem Resolve.issues (resolved : Resolve now inventory standing after done) :
    Issues standing done := by
  cases resolved with
  | intact shows_row pending present confirmed => exact confirmed.issues shows_row.pins
  | retaken shows_row open_order lost retaken => exact retaken.issues
  | gaveBack shows_row pending closed released => exact .inl rfl
  | closed cancelled closed => exact .inl rfl

end Issuing

/-- The steps whose confirmation is not one of Paykit. -/
def OrderAction.paysOutright : OrderAction → Bool
  | .applyFiat .. | .applyLocks => true
  | .advanceSandbox _ .confirmed _ _ => true
  | _ => false

/-- The steps that record a refused confirmation of a fiat or Locks payment. -/
def OrderAction.reviews : OrderAction → Bool
  | .reviewFiat | .reviewLocks => true
  | _ => false

theorem OrderAction.pays_or_reviews {action : OrderAction}
    (rail : action.rail = some .fiat ∨ action.rail = some .locks) :
    action.paysOutright = true ∨ action.reviews = true := by
  cases action <;> first | exact .inl rfl | exact .inr rfl | skip
  all_goals rcases rail with named | named <;> cases named

inductive MoveIssues (action : OrderAction) (standing done : Standing) : Prop
  | kept (receipt : done.receipt = standing.receipt)
  | outright (outright : action.paysOutright = true ∨ action.reviews = true)
      (receipt : done.receipt = some done.receiptCharge)
      (open_payment : standing.payment = .awaitingEntitlement ∨ standing.payment = .detected ∨
        standing.payment = .expired)
      (agree : standing.receiptCharge = done.receiptCharge)
  | paykit (receipt : done.receipt = some done.receiptCharge) (paykit : done.adapter = .paykit)
  | snapshot {order : Order} (confirms : action = .confirmBitcoin order)
      (receipt : order.paykitPins = standing.pins → done.receipt = some done.receiptCharge)
      (paykit : done.adapter = .paykit)

theorem Move.issues {references : References} {now : Time} {inventory after : Inventory}
    {standing done : Standing} {action : OrderAction} {returned : List Line}
    (coherent : Coherent standing) (speaks : Speaks action standing)
    (move : Move references now inventory standing action returned after done) :
    MoveIssues action standing done := by
  -- a decision on Paykit about a standing with the same rail as the last one
  have on_paykit {before : Standing} (rail : SameRail before done) (issues : Issues before done)
      (receipt : before.receipt = standing.receipt) (paykit : before.adapter = .paykit) :
      MoveIssues action standing done := by
    rcases issues with same | issued
    · exact .kept (same.trans receipt)
    · exact .paykit (issued.trans (by rw [rail.receiptCharge])) (rail.adapter.trans paykit)
  have off_paykit {before : Standing} (rail : SameRail before done) (issues : Issues before done)
      (same : SameRail standing before) (receipt : before.receipt = standing.receipt)
      (open_payment : standing.payment = .awaitingEntitlement ∨ standing.payment = .detected ∨
        standing.payment = .expired)
      (outright : action.paysOutright = true ∨ action.reviews = true) :
      MoveIssues action standing done := by
    rcases issues with unchanged | issued
    · exact .kept (unchanged.trans receipt)
    · exact .outright outright (issued.trans (by rw [rail.receiptCharge])) open_payment
        (same.trans rail).receiptCharge.symm
  cases move with
  | settle rail awaiting settled =>
      exact off_paykit settled.decided.sameRail settled.issues (.refl _) rfl (.inl awaiting)
        (OrderAction.pays_or_reviews rail)
  | late rail money expired late =>
      exact off_paykit late.decided.sameRail late.issues (.refl _) rfl (.inr (.inr expired))
        (OrderAction.pays_or_reviews rail)
  | sandboxSettle on_sandbox open_payment acquired settled =>
      have opened : standing.payment = .awaitingEntitlement ∨ standing.payment = .detected ∨
          standing.payment = .expired := open_payment.imp_right .inl
      rcases acquired with taken | ⟨-, rfl⟩
      · exact off_paykit settled.decided.sameRail settled.issues taken.sameRail taken.receipt opened
          (.inl rfl)
      · exact off_paykit settled.decided.sameRail settled.issues (.refl _) rfl opened (.inl rfl)
  | @settlePoll _ _ paid seen observed rail awaiting gate settled froze =>
      simp only [Speaks, rail] at speaks
      have issued : Issues standing (paid.report seen observed) := settled.issues
      exact on_paykit (settled.decided.sameRail.trans (paid.report_sameRail _ _)) issued rfl
        (coherent.bitcoin.mp speaks.1)
  | latePoll rail money open_payment outside froze late =>
      simp only [Speaks, rail] at speaks
      exact on_paykit late.decided.sameRail late.issues rfl (coherent.bitcoin.mp speaks.1)
  | @confirmSeller order _ paid window awaiting confirmed froze first queued pinned =>
      have rail : SameRail standing { paid.report standing.sighting.observation
          standing.coalesced with
            ruling.confirmation := some (sellerConfirmationRow order now)
            ruling.outbox := order.paykitInvoiceId } :=
        confirmed.decided.sameRail.trans (.beside rfl)
      have paykit := coherent.bitcoin.mp (coherent.window window).1
      refine .snapshot rfl (fun pins => ?_) (rail.adapter.trans paykit)
      rw [rail.receiptCharge]
      rcases confirmed.issues pins with same | issued
      · exact absurd same (by cases confirmed; simp [Standing.confirm, *])
      · exact issued
  | @resolve _ _ decided row paykit review unresolved resolved first queued pinned =>
      have issued : Issues standing { decided with
          resolved := true
          ruling.resolution := some row
          ruling.outbox := standing.invoice } := resolved.issues
      have rail : SameRail standing { decided with
          resolved := true
          ruling.resolution := some row
          ruling.outbox := standing.invoice } := by
        rcases resolved.outcome with outcome | ⟨payment, state, held, refund, rfl, -⟩
        · exact outcome.sameRail.trans (.beside rfl)
        · exact .beside rfl
      exact on_paykit rail issued rfl paykit
  | @routeLate _ _ pins reference _ restored _ _ _ watching unbound paykit open_payment outside
      untracked froze swapped late =>
      have same := swapped.eq
      refine on_paykit late.decided.sameRail late.issues ?_ ?_ <;> rw [same] <;> rfl
  | bindFiat known chosen unbound pending awaiting unlocked acquired =>
      exact .kept acquired.receipt
  | bindBitcoin chosen prepared unbound pending awaiting unlocked acquired =>
      exact .kept acquired.receipt
  | track answer current voided settled =>
      rw [(coherent.tracked settled).1]
      exact .kept rfl
  | expireHeld shows_row pending held settled outside open_payment released =>
      obtain ⟨payment, same, -⟩ := standing.lapse_frame
      rw [same]
      exact .kept rfl
  | cancelPending shows_row pending outside released =>
      obtain ⟨payment, -, same | ⟨-, same⟩⟩ := standing.endRequest_cases <;> rw [same] <;>
        exact .kept rfl
  | sandbox on_sandbox target_ok unconfirmed acquired =>
      rcases acquired with taken | ⟨-, rfl⟩
      · exact .kept taken.receipt
      · exact .kept rfl
  | prepareLocks unbound unlocked pending awaiting priced acquired =>
      exact .kept acquired.receipt
  | _ => exact .kept rfl

/-- The second transaction of a refused confirmation issues nothing. -/
theorem reviewAwaiting_receipt {book reviewed : OrderBook} {now : Time}
    (ran : reviewAwaiting book now = .ok reviewed) : reviewed.receipt = book.receipt := by
  rcases Outcome.ite_ok ran with ⟨-, updated⟩ | ⟨-, rfl⟩
  · obtain ⟨rfl, -⟩ := updatePayment_ok updated
    rfl
  · rfl

theorem transact_reviews {references : References} {view : View} {now : Time}
    {action : OrderAction} {effect : Effect} (reviews : action.reviews = true)
    (ran : transact references view now action = some effect) :
    effect.view.book.receipt = view.book.receipt := by
  cases action with
  | reviewFiat =>
      obtain ⟨book, reviewed, written, -⟩ := Effect.ofBook_some ran
      rw [written]
      exact reviewAwaiting_receipt reviewed
  | reviewLocks =>
      obtain ⟨book, marked, written, -⟩ := Effect.ofBook_some ran
      obtain ⟨reviewed, first, same⟩ := Outcome.bind_ok marked
      cases Outcome.pure_ok same
      rw [written]
      change reviewed.receipt = view.book.receipt
      exact reviewAwaiting_receipt first
  | _ => cases reviews

/-! Along a run. -/

/-- The pins left on an order say what its total says. -/
def PinsAgree (order : Order) : Prop :=
  ∀ pins ∈ order.paykitPins, pins.charge = order.terms.charge

instance (order : Order) : Decidable (PinsAgree order) :=
  inferInstanceAs (Decidable (∀ pins ∈ order.paykitPins, pins.charge = order.terms.charge))

/-- The order row that the seller's confirmation was given before its
transaction. -/
def OrderAction.snapshot : OrderAction → Option Order
  | .confirmBitcoin order => some order
  | _ => none

/-- No open payment is confirmed outside Paykit over pins that disagree, and no
seller confirms with a row whose pins were replaced. -/
def denominationKept : Sys → Action → Prop :=
  eachOrder fun cell action =>
    (action.paysOutright = true →
      cell.book.payment.state ∈ [PaymentState.awaitingEntitlement, .detected, .expired] →
        PinsAgree cell.book.order) ∧
    ∀ order ∈ action.snapshot, order.paykitPins = cell.book.order.paykitPins

instance : ∀ sys action, Decidable (denominationKept sys action) :=
  fun sys action => inferInstanceAs (Decidable (eachOrder _ sys action))

theorem PinsAgree.receiptCharge {book : OrderBook} (agree : PinsAgree book.order) :
    book.standing.receiptCharge = book.standing.terms.charge := by
  change (book.order.paykitPins.map PaykitPins.charge).getD book.order.terms.charge =
    book.order.terms.charge
  cases pinned : book.order.paykitPins with
  | none => rfl
  | some pins => exact agree pins pinned

structure Denominated (cell : Cell) : Prop where
  charged : Charged cell.book.standing
  receipted : Receipted cell.book.standing

theorem Fresh.denominated {book : OrderBook} (fresh : Fresh book) : Denominated (newCell book) := by
  obtain ⟨⟨held, start⟩, -⟩ := fresh
  constructor
  · change Charged book.standing
    rw [start]
    exact ⟨fun _ => rfl, fun _ _ => rfl⟩
  · change Receipted book.standing
    rw [start]
    intro charge issued
    cases issued

theorem stepCell_issues {references : References} {inventory after : Inventory} {cell done : Cell}
    {now : Time} {action : OrderAction} (sound : Sound cell)
    (ran : stepCell references inventory cell now action = some (after, done)) :
    MoveIssues action cell.book.standing done.book.standing ∧
      (action.reviews = true → done.book.standing.receipt = cell.book.standing.receipt) := by
  have step := stepCell_steps sound ran
  constructor
  · obtain ⟨moved, move, tidied⟩ := step.moves
    have rail := SameRail.tidied tidied
    have receipt : done.book.standing.receipt = moved.receipt := by rw [tidied.eq]
    cases move.issues sound.coherent step.speaks with
    | kept same => exact .kept (receipt.trans same)
    | outright outright issued open_payment agree =>
        refine .outright outright ?_ open_payment (agree.trans rail.receiptCharge.symm)
        rw [receipt, issued, ← rail.receiptCharge]
    | paykit issued paykit =>
        refine .paykit ?_ (rail.adapter.trans paykit)
        rw [receipt, issued, ← rail.receiptCharge]
    | snapshot confirms issued paykit =>
        refine .snapshot confirms (fun pins => ?_) (rail.adapter.trans paykit)
        rw [receipt, issued pins, ← rail.receiptCharge]
  · intro reviews
    obtain ⟨-, ran⟩ := Option.ite_none_right_eq_some.mp ran
    obtain ⟨effect, committed, written⟩ := Option.map_eq_some_iff.mp ran
    rw [← (Prod.mk.inj written).2]
    exact congrArg (Option.map Receipt.charge) (transact_reviews reviews committed)

theorem Denominated.step {references : References} {inventory after : Inventory} {cell done : Cell}
    {now : Time} {action : OrderAction} (denominated : Denominated cell) (sound : Sound cell)
    (agree : action.paysOutright = true →
      cell.book.payment.state ∈ [PaymentState.awaitingEntitlement, .detected, .expired] →
        PinsAgree cell.book.order)
    (current : ∀ order ∈ action.snapshot, order.paykitPins = cell.book.order.paykitPins)
    (ran : stepCell references inventory cell now action = some (after, done)) :
    Denominated done := by
  obtain ⟨target, rail, same⟩ := (stepCell_steps sound ran).railStep sound
  obtain ⟨issues, reviewed⟩ := stepCell_issues sound ran
  refine ⟨same.charged (rail.charged sound.coherent denominated.charged), ?_⟩
  -- an issued receipt stays with its rail
  have keeps (receipt : done.book.standing.receipt = cell.book.standing.receipt) :
      Receipted done.book.standing := by
    intro charge issued
    rw [receipt] at issued
    obtain ⟨charges, adapter, terms⟩ :=
      rail.receipted sound.coherent (Option.isSome_iff_exists.mpr ⟨charge, issued⟩)
    rw [same.receiptCharge, same.adapter, same.terms, charges, adapter, terms]
    exact denominated.receipted charge issued
  have on_paykit (issued : done.book.standing.receipt = some done.book.standing.receiptCharge)
      (paykit : done.book.standing.adapter = .paykit) : Receipted done.book.standing := by
    intro charge named
    rw [issued] at named
    exact ⟨(Option.some.inj named).symm, fun other => absurd paykit other⟩
  cases issues with
  | kept receipt => exact keeps receipt
  | outright outright issued open_payment charges =>
      rcases outright with pays | reviews
      · intro charge named
        rw [issued] at named
        refine ⟨(Option.some.inj named).symm, fun _ => ?_⟩
        have listed : cell.book.payment.state ∈
            [PaymentState.awaitingEntitlement, .detected, .expired] := by
          simp only [List.mem_cons, List.not_mem_nil, or_false]
          exact open_payment
        have steady := (stepCell_steps sound ran).steady sound
        rw [← charges, steady.terms]
        exact (agree pays listed).receiptCharge
      · exact keeps (reviewed reviews)
  | paykit issued paykit => exact on_paykit issued paykit
  | snapshot confirms issued paykit =>
      refine on_paykit (issued (current _ ?_)) paykit
      rw [confirms]
      rfl

/-- In every run that confirms nothing outside Paykit over pins that disagree,
a receipt and the payment row say what the rail of the payment asked for: the
pins on Paykit, the order's own total elsewhere. -/
theorem receipt_denominates_paid_rail (references : References) {sys : Sys}
    (reached : Runs.Reachable (marketplace references) denominationKept sys) {id : OrderId}
    {cell : Cell} (found : sys.cells.find? id = some cell) {receipt : Receipt}
    (issued : cell.book.receipt = some receipt) :
    cell.book.payment.charge = receipt.charge ∧
    (cell.book.payment.adapter = .paykit →
      ∃ pins, cell.book.order.paykitPins = some pins ∧ receipt.charge = pins.charge) ∧
    (cell.book.payment.adapter ≠ .paykit → receipt.charge = cell.book.order.terms.charge) := by
  obtain ⟨sound, denominated⟩ := cells_invariant Denominated (fun _ => Fresh.denominated)
    (fun present meets sound denominated ran => by
      obtain ⟨agree, current⟩ := eachOrder_order meets present
      exact denominated.step sound agree current ran) reached found
  have named : cell.book.standing.receipt = some receipt.charge :=
    congrArg (Option.map Receipt.charge) issued
  obtain ⟨charge, agree⟩ := denominated.receipted receipt.charge named
  refine ⟨?_, ?_, fun other => charge.trans (agree other)⟩
  · by_cases paykit : cell.book.standing.adapter = .paykit
    · exact (denominated.charged.paykit paykit).trans charge.symm
    · have total := agree paykit
      exact (denominated.charged.other paykit total).trans (total.symm.trans charge.symm)
  · intro paykit
    have pinned := sound.coherent.pinned (sound.coherent.bitcoin.mpr paykit)
    obtain ⟨pins, pinned⟩ := Option.isSome_iff_exists.mp pinned
    refine ⟨pins, pinned, ?_⟩
    rw [charge, Standing.receiptCharge, pinned]
    rfl

/-- A lamp paid through Paykit: 5000 sats on the receipt and on the payment. -/
theorem paykit_lamp_receipt_in_sats :
    ∃ sys, Runs.Reachable (marketplace sampleReferences) denominationKept sys ∧
      ∃ cell ∈ sys.cells.find? 7, ∃ receipt ∈ cell.book.receipt,
        receipt.charge = { amountMinor := 5000, currency := "SAT", exponent := 0 } ∧
          cell.book.payment.charge = receipt.charge := by
  obtain ⟨sys, reached, cell, found, receipt, issued, charge⟩ :=
    Runs.exists_reachable_of_run (marketplace sampleReferences) rfl
      (polledLamp ++ [.order 7 20 (.applyPoll (pendingClaim 1) confirmedReport)])
      (fun sys => ∃ cell ∈ sys.cells.find? 7, ∃ receipt ∈ cell.book.receipt,
        receipt.charge = { amountMinor := 5000, currency := "SAT", exponent := 0 })
      (show Runs.Meets _ denominationKept _ _ by decide +kernel) (by decide +kernel)
  exact ⟨sys, reached, cell, found, receipt, issued, charge,
    (receipt_denominates_paid_rail sampleReferences reached found issued).1⟩

/-- The Bitcoin bind of the lamp is voided and the buyer pays 25 dollars through
Stripe: the receipt says 5000 sats, the payment row 2500 sats. -/
theorem stripe_lamp_receipt_in_sats :
    ∃ sys, Runs.Reachable (marketplace sampleReferences) Runs.anyStep sys ∧
      ∃ cell ∈ sys.cells.find? 7, cell.book.payment.adapter = .stripe ∧
        cell.book.order.terms.charge =
          { amountMinor := 2500, currency := "USD", exponent := 2 } ∧
        cell.book.payment.charge = { amountMinor := 2500, currency := "SAT", exponent := 0 } ∧
        ∃ receipt ∈ cell.book.receipt,
          receipt.charge = { amountMinor := 5000, currency := "SAT", exponent := 0 } :=
  Runs.exists_reachable_of_run (marketplace sampleReferences) rfl
    (lampOrder ++ bitcoinBind 1 1 ++ activateRequest 0 1 ++
      [.order 7 0 (.answerActivate 0 1 5000 (.error .prepareExpired))] ++
      sampleBind 2 .stripe none none ++
      [ .order 7 10 (.verifyStripe "buyer" (some "cs_1"))
      , .order 7 10 (.applyFiat (some "cs_1") .processor) ])
    _ (Runs.meets_anyStep _ _ _) (by decide +kernel)

end MarketplaceService
