import MarketplaceService.RailSteps

/-!
Attribution in the activation protocol. An answer of Paykit is applied on the
order's label alone, and a second Bitcoin bind sets the label again, so an
answer about an earlier invoice can settle the request of a later one. It
cannot when each Bitcoin bind finds no exchange about another invoice open.
-/

namespace MarketplaceService

def Message.exchange : Message → Option InvoiceId
  | .claimedRow _ entry => if entry.kind = .paykitActivate then some entry.invoiceId else none
  | .activateSent _ invoice _ => some invoice
  | .preparingVoidSent _ pin => some pin.invoiceId
  | _ => none

def Cell.openExchanges (cell : Cell) : List InvoiceId :=
  (cell.book.outbox.filter fun row =>
      row.kind = .paykitActivate ∧ row.deliveredAt = none).map OutboxRow.invoiceId ++
    cell.inFlight.filterMap Message.exchange

theorem Cell.mem_openExchanges (cell : Cell) (invoice : InvoiceId) :
    invoice ∈ cell.openExchanges ↔
      invoice ∈ cell.book.standing.due ∨ ∃ message ∈ cell.inFlight,
        message.exchange = some invoice := by
  simp [Cell.openExchanges, OrderBook.standing, activateDue, and_assoc]

def bindsAlone : Sys → Action → Prop :=
  eachOrder fun cell action => cell.book.order.paymentMethod = none →
    ∀ invoice ∈ action.prepares, ∀ pending ∈ cell.openExchanges, pending = invoice

instance : ∀ sys action, Decidable (bindsAlone sys action) :=
  fun sys action => inferInstanceAs (Decidable (eachOrder _ sys action))

/-! The preparing label. -/

theorem RailStep.preparing_from {references : References} {standing target : Standing}
    {action : OrderAction} (step : RailStep references standing action target)
    (preparing : target.activation = some .preparing) (coherent : Coherent standing) :
    standing.activation = some .preparing ∧ target.invoice = standing.invoice ∧
        target.due ⊆ standing.due ∨
      ∃ invoice, action.prepares = some invoice ∧ standing.method = none ∧
        target.invoice = some invoice ∧ target.due ⊆ insert invoice standing.due := by
  cases step with
  | same => exact .inl ⟨preparing, rfl, subset_rfl⟩
  | bindFiat known chosen unbound pending unlocked =>
      exact absurd preparing (coherent.unprepared (by simp [unbound]))
  | @bindBitcoin request pins chosen prepared unbound pending unlocked =>
      refine .inr ⟨pins.invoiceId, ?_, unbound, rfl, subset_rfl⟩
      simp only [OrderAction.prepares, chosen, if_true]
      exact prepared
  | activate answer was_preparing => cases preparing
  | track answer current voided settled => cases preparing
  | voidPrepare answer was_preparing => cases preparing
  | dropRequest was_preparing ended => cases preparing
  | restore unbound open_payment untracked => cases preparing
  | prepareLocks unbound pending priced => exact .inl ⟨preparing, rfl, subset_rfl⟩

/-- What ends the preparing label: an answer that settles a preparing request,
a cancellation, or the money of another attempt. -/
theorem RailStep.preparing_to {references : References} {standing target : Standing}
    {action : OrderAction} (step : RailStep references standing action target)
    (coherent : Coherent standing) (preparing : standing.activation = some .preparing)
    (ended : target.activation ≠ some .preparing) :
    (∃ invoice, action.answersPrepare = some invoice) ∨
      (∃ sender reason exitOpen, action = .cancel sender reason exitOpen) ∨
      ∃ claimed amountMatched observation,
        action = .routeReleased claimed amountMatched observation ∧
          standing.invoice ≠ some claimed.invoiceId := by
  obtain ⟨bound, awaiting, request⟩ := coherent.preparing preparing
  cases step with
  | same => exact absurd preparing ended
  | bindFiat known chosen unbound pending unlocked =>
      rw [unbound] at bound
      cases bound
  | bindBitcoin chosen prepared unbound pending unlocked => exact absurd rfl ended
  | activate answer was_preparing => exact .inl ⟨_, answer⟩
  | track answer current voided settled =>
      rw [preparing] at voided
      cases voided
  | voidPrepare answer was_preparing => exact .inl ⟨_, answer⟩
  | dropRequest was_preparing by_whom => exact by_whom.imp_right .inl
  | restore unbound open_payment untracked =>
      refine .inr (.inr ⟨_, _, _, rfl, fun named => untracked ⟨named, ?_⟩⟩)
      rw [request]
      rfl
  | prepareLocks unbound pending priced => exact absurd preparing ended

theorem Move.answer_cases {references : References} {now : Time} {inventory after : Inventory}
    {standing done : Standing} {action : OrderAction} {returned : List Line} {invoice : InvoiceId}
    (answer : action.answersAbout = some invoice)
    (move : Move references now inventory standing action returned after done) :
    done = standing ∨ standing.invoice = some invoice ∨
      action.answersPrepare = some invoice ∧ standing.activation = some .preparing := by
  have silent {rail : Rail} (named : action.rail = some rail) : False := by
    cases action <;> first | (cases answer; done) | cases named
  have prepared {other : InvoiceId} (named : action.answersPrepare = some other)
      (preparing : standing.activation = some .preparing) :
      action.answersPrepare = some invoice ∧ standing.activation = some .preparing := by
    have same := OrderAction.answersAbout_of_prepare named
    rw [answer] at same
    cases same
    exact ⟨named, preparing⟩
  cases move with
  | stay => exact .inl rfl
  | activate named preparing => exact .inr (.inr (prepared named preparing))
  | track named current voided settled =>
      rw [answer] at named
      cases named
      exact .inr (.inl current)
  | voidPrepare named voids shows_row preparing released =>
      exact .inr (.inr (prepared named preparing))
  | expirePreparing named shows_row preparing released =>
      exact .inr (.inr (prepared named preparing))
  | fulfil command paid ended ready label recorded =>
      rcases command with ⟨step, rfl⟩ | ⟨sender, refund, rfl⟩ <;> cases answer
  | settle rail awaiting settled => exact rail.elim (absurd · silent) (absurd · silent)
  | late rail money expired late => exact rail.elim (absurd · silent) (absurd · silent)
  | settlePoll rail awaiting gate settled froze => exact absurd rail silent
  | latePoll rail money open_payment outside froze late => exact absurd rail silent
  | detect rail pending => exact absurd rail silent
  | refresh rail request amount => exact absurd rail silent
  | enterWindow rail entry reported awaiting froze first extended => exact absurd rail silent
  | _ => cases answer

/-! Along a run. -/

/-- While the order prepares a request, every open exchange is about it. -/
def Attributed (cell : Cell) : Prop :=
  cell.book.standing.activation = some .preparing →
    ∀ invoice ∈ cell.openExchanges, cell.book.standing.invoice = some invoice

theorem Fresh.attributed {book : OrderBook} (fresh : Fresh book) : Attributed (newCell book) := by
  obtain ⟨⟨held, start⟩, -⟩ := fresh
  intro preparing
  change book.standing.activation = some .preparing at preparing
  rw [start] at preparing
  cases preparing

theorem Sends.exchange {now : Time} {view after : View} {action : OrderAction} {message : Message}
    {invoice : InvoiceId} (sends : Sends now view action after message)
    (named : message.exchange = some invoice) :
    invoice ∈ view.book.standing.due ∨ (∃ spent ∈ action.consumes, spent.exchange = some invoice) ∨
      after = view ∧ view.book.standing.invoice = some invoice := by
  cases sends with
  | @claimedRow row leaseSeconds entry after stored undelivered =>
      obtain ⟨activates, same⟩ := Option.ite_none_right_eq_some.mp named
      exact .inl ⟨entry, stored, activates, undelivered, Option.some.inj same⟩
  | @activateSent row totalSats entry after activates =>
      refine .inr (.inl ⟨.claimedRow row entry, rfl, ?_⟩)
      simp only [Message.exchange, activates, if_true]
      exact named
  | preparingVoidSent read =>
      obtain ⟨pins, pinned, rfl⟩ := Option.map_eq_some_iff.mp read
      refine .inr (.inr ⟨rfl, ?_⟩)
      rw [← named]
      exact congrArg (Option.map PaykitPins.invoiceId) pinned
  | stripePaid verified =>
      obtain ⟨transactionRef, rfl, -⟩ := verifyStripe_ok verified
      cases named
  | paypalPaid verified =>
      rw [(verifyPaypal_ok verified).1] at named
      cases named
  | _ => cases named

theorem CellStep.attributed {references : References} {inventory after : Inventory}
    {cell done : Cell} {now : Time} {action : OrderAction} (sound : Sound cell)
    (attributed : Attributed cell)
    (alone : cell.book.order.paymentMethod = none → ∀ invoice ∈ action.prepares,
      ∀ pending ∈ cell.openExchanges, pending = invoice)
    (step : CellStep references now inventory cell action after done) : Attributed done := by
  intro preparing invoice member
  obtain ⟨target, rail, same⟩ := step.railStep sound
  rw [same.activation] at preparing
  rw [same.invoice]
  -- an exchange that is open after the step was open before, or is about the pins
  have origin : invoice ∈ cell.openExchanges ∨ invoice ∈ target.due ∨
      (done.book = cell.book ∧ cell.book.standing.invoice = some invoice) := by
    rcases (done.mem_openExchanges invoice).mp member with due | ⟨message, inFlight, named⟩
    · exact .inr (.inl (same.due due))
    · rcases step.sends message inFlight with old | new
      · exact .inl ((cell.mem_openExchanges invoice).mpr (.inr ⟨message, old, named⟩))
      · rcases new.exchange named with due | ⟨spent, consumed, about⟩ | ⟨kept, pinned⟩
        · exact .inl ((cell.mem_openExchanges invoice).mpr (.inl due))
        · exact .inl ((cell.mem_openExchanges invoice).mpr
            (.inr ⟨spent, step.consumed spent consumed, about⟩))
        · exact .inr (.inr ⟨congrArg View.book kept, pinned⟩)
  rcases rail.preparing_from preparing sound.coherent with
    ⟨was_preparing, pinned, due⟩ | ⟨bound, prepares, unbound, pinned, due⟩
  · rw [pinned]
    rcases origin with open_before | queued | ⟨-, current⟩
    · exact attributed was_preparing invoice open_before
    · exact attributed was_preparing invoice
        ((cell.mem_openExchanges invoice).mpr (.inl (due queued)))
    · exact current
  · rw [pinned]
    have alone := alone unbound bound prepares
    rcases origin with open_before | queued | ⟨kept, -⟩
    · rw [alone invoice open_before]
    · rcases due queued with rfl | queued
      · rfl
      · rw [alone invoice ((cell.mem_openExchanges invoice).mpr (.inl queued))]
    · have still : cell.book.standing.activation = some .preparing := by
        rw [← kept, same.activation, preparing]
      exact absurd still (sound.coherent.unprepared
        (show cell.book.standing.method ≠ some .bitcoin by simp [unbound]))

/-- In every run whose Bitcoin binds find no exchange about another invoice
open, the label `preparing` ends by an answer about the current invoice, by a
cancellation, or by the money of another attempt; and an answer about another
invoice changes neither the activation state nor the hold nor the method. -/
theorem activation_answers_attributed (references : References) {sys after : Sys}
    (reached : Runs.Reachable (marketplace references) bindsAlone sys) {id : OrderId}
    {now : Time} {action : OrderAction} {cell done : Cell}
    (found : sys.cells.find? id = some cell)
    (stepped : sys.step references (.order id now action) = some after)
    (later : after.cells.find? id = some done) :
    (cell.book.order.paykitActivationState = some .preparing →
      done.book.order.paykitActivationState ≠ some .preparing →
        (∃ invoice, action.answersPrepare = some invoice ∧
          cell.book.order.paykitInvoiceId = some invoice) ∨
        (∃ sender reason exitOpen, action = .cancel sender reason exitOpen) ∨
        ∃ claimed amountMatched observation,
          action = .routeReleased claimed amountMatched observation ∧
            cell.book.order.paykitInvoiceId ≠ some claimed.invoiceId) ∧
    ∀ invoice, action.answersAbout = some invoice →
      cell.book.order.paykitInvoiceId ≠ some invoice →
        done.book.order.paykitActivationState = cell.book.order.paykitActivationState ∧
        done.book.order.stockHeld = cell.book.order.stockHeld ∧
        done.book.order.paymentMethod = cell.book.order.paymentMethod := by
  obtain ⟨sound, attributed⟩ := cells_invariant Attributed (fun _ => Fresh.attributed)
    (fun present meets sound attributed ran =>
      (stepCell_steps sound ran).attributed sound attributed (eachOrder_order meets present))
    reached found
  obtain ⟨next, named, ran⟩ := order_step found stepped
  obtain rfl : next = done := Option.some.inj (named.symm.trans later)
  have step := stepCell_steps sound ran
  -- an answer is about an exchange that is open before it
  have about (invoice : InvoiceId) (answer : action.answersPrepare = some invoice) :
      invoice ∈ cell.openExchanges := by
    apply (cell.mem_openExchanges invoice).mpr
    right
    cases action with
    | answerActivate row other totalSats reply =>
        exact ⟨_, step.consumed _ rfl, answer⟩
    | answerPreparingVoid row pin reply => exact ⟨_, step.consumed _ rfl, answer⟩
    | _ => cases answer
  constructor
  · intro preparing ended
    obtain ⟨target, rail, same⟩ := step.railStep sound
    have ended_rail : target.activation ≠ some .preparing := by
      rw [← same.activation]
      exact ended
    rcases rail.preparing_to sound.coherent preparing ended_rail with ⟨invoice, answer⟩ | other
    · exact .inl ⟨invoice, answer, attributed preparing invoice (about invoice answer)⟩
    · exact .inr other
  · intro invoice answer other
    obtain ⟨moved, move, tidied⟩ := step.moves
    have same : moved = cell.book.standing := by
      rcases move.answer_cases answer with same | current | ⟨settles, preparing⟩
      · exact same
      · exact absurd current other
      · exact absurd (attributed preparing invoice (about invoice settles)) other
    have kept := tidied.eq
    rw [same] at kept
    exact ⟨congrArg Standing.activation kept, congrArg Standing.held kept,
      congrArg Standing.method kept⟩

/-- Paykit refuses invoice 1, and activates invoice 2, which the order is bound to
then. -/
theorem activation_of_bound_invoice :
    ∃ sys, Runs.Reachable (marketplace sampleReferences) bindsAlone sys ∧
      ∃ cell ∈ sys.cells.find? 7, ∃ after ∈ sys.step sampleReferences
          (.order 7 0 (.answerActivate 1 2 5000 (.activated true 5000))),
        ∃ done ∈ after.cells.find? 7,
          done.book.order.paykitActivationState = some .active ∧
          cell.book.order.paykitInvoiceId = some 2 := by
  obtain ⟨sys, reached, cell, found, after, stepped, done, later, preparing, active⟩ :=
    Runs.exists_reachable_of_run (marketplace sampleReferences) rfl
      reboundRequest
      (fun sys => ∃ cell ∈ sys.cells.find? 7, ∃ after ∈ sys.step sampleReferences
          (.order 7 0 (.answerActivate 1 2 5000 (.activated true 5000))),
        ∃ done ∈ after.cells.find? 7,
          cell.book.order.paykitActivationState = some .preparing ∧
          done.book.order.paykitActivationState = some .active)
      (show Runs.Meets _ bindsAlone _ _ by decide +kernel) (by decide +kernel)
  refine ⟨sys, reached, cell, found, after, stepped, done, later, active, ?_⟩
  have attributed := (activation_answers_attributed sampleReferences reached found stepped later).1
    preparing (by simp [active])
  rcases attributed with ⟨invoice, answer, current⟩ | ⟨sender, reason, exitOpen, named⟩ |
    ⟨claimed, amountMatched, observation, named, -⟩
  · cases answer
    exact current
  · cases named
  · cases named

/-- The refusal of one of two requests voids the bind, the order is bound again
with invoice 2, and the answer to the other request, about invoice 1, turns
invoice 2 active. -/
theorem stale_answer_activates_next_invoice :
    ∃ sys, Runs.Reachable (marketplace sampleReferences) Runs.anyStep sys ∧
      ∃ cell ∈ sys.cells.find? 7, ∃ after ∈ sys.step sampleReferences
          (.order 7 90 (.answerActivate 0 1 5000 (.activated true 5000))),
        ∃ done ∈ after.cells.find? 7,
          cell.book.order.paykitInvoiceId = some 2 ∧
          cell.book.order.paykitActivationState = some .preparing ∧
          done.book.order.paykitInvoiceId = some 2 ∧
          done.book.order.paykitActivationState = some .active :=
  Runs.exists_reachable_of_run (marketplace sampleReferences) rfl
    (doubledRequest ++ bitcoinBind 2 2)
    _ (Runs.meets_anyStep _ _ _) (by decide +kernel)

end MarketplaceService
