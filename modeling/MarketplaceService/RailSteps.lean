import MarketplaceService.Cells

/-!
The rail of an order: its method, its Paykit attempt and what the payment row
charges. Few moves touch it, and `RailStep` lists them with the guards they
were taken under; every other move only reads it.
-/

namespace MarketplaceService

inductive RailStep (references : References) (standing : Standing) : OrderAction → Standing → Prop
  | same {action : OrderAction} : RailStep references standing action standing
  | bindFiat {request : BindRequest} {fiat : FiatMethod}
      (known : fiat = stripeMethod ∨ fiat = paypalMethod) (chosen : request.method = fiat.method)
      (unbound : standing.method = none) (pending : standing.state = .pendingPayment)
      (unlocked : standing.adapter ≠ .locks) :
      RailStep references standing (.bind request) (standing.bind fiat.method none fiat.adapter)
  | bindBitcoin {request : BindRequest} {pins : PaykitPins} (chosen : request.method = .bitcoin)
      (prepared : request.phase1.map Phase1.invoiceId = some pins.invoiceId)
      (unbound : standing.method = none) (pending : standing.state = .pendingPayment)
      (unlocked : standing.adapter ≠ .locks) :
      RailStep references standing (.bind request)
        ((standing.bind .bitcoin
          (some (references.attemptReference standing.terms.id request.attempt)) .paykit).prepare
            pins)
  | activate {action : OrderAction} {invoice : InvoiceId}
      (answer : action.answersPrepare = some invoice)
      (preparing : standing.activation = some .preparing) :
      RailStep references standing action standing.activate
  | track {action : OrderAction} {invoice : InvoiceId}
      (answer : action.answersAbout = some invoice) (current : standing.invoice = some invoice)
      (voided : standing.activation = some .voided) (settled : standing.state ≠ .pendingPayment) :
      RailStep references standing action standing.activate
  | voidPrepare {action : OrderAction} {invoice : InvoiceId}
      (answer : action.answersPrepare = some invoice)
      (preparing : standing.activation = some .preparing) :
      RailStep references standing action standing.voidPrepare
  | dropRequest {action : OrderAction} (preparing : standing.activation = some .preparing)
      (ended : (∃ invoice, action.answersPrepare = some invoice) ∨
        ∃ sender reason exitOpen, action = .cancel sender reason exitOpen) :
      RailStep references standing action standing.dropRequest
  | restore {claimed : WatchedAttempt} {amountMatched : Bool} {observation : PaykitObservation}
      {pins : PaykitPins} {reference : Reference} {seen : Option Observation}
      {observed : Option ℕ}
      (unbound : standing.method = none ∨ standing.method = some .bitcoin)
      (open_payment : standing.payment = .awaitingEntitlement ∨ standing.payment = .expired)
      (untracked : ¬ (standing.invoice = some claimed.invoiceId ∧ standing.request.isSome = true)) :
      RailStep references standing (.routeReleased claimed amountMatched observation)
        (standing.restore pins reference seen observed)
  | prepareLocks {actor : Pubky} {windowSeconds : ℕ} (unbound : standing.method = none)
      (pending : standing.state = .pendingPayment)
      (priced : standing.charge = standing.terms.charge) :
      RailStep references standing (.prepareLocks actor windowSeconds)
        { standing with locks := true, adapter := .locks }

/-- Two standings with the same rail, up to attempt rows that were added and
activate rows that were delivered. -/
structure SameRail (before after : Standing) : Prop where
  terms : after.terms = before.terms
  method : after.method = before.method
  reference : after.reference = before.reference
  activation : after.activation = before.activation
  pins : after.pins = before.pins
  adapter : after.adapter = before.adapter
  charge : after.charge = before.charge
  locks : after.locks = before.locks
  watched : before.watched ⊆ after.watched
  due : after.due ⊆ before.due

namespace SameRail

variable {first second third : Standing}

theorem refl (standing : Standing) : SameRail standing standing :=
  ⟨rfl, rfl, rfl, rfl, rfl, rfl, rfl, rfl, subset_rfl, subset_rfl⟩

theorem trans (left : SameRail first second) (right : SameRail second third) :
    SameRail first third :=
  ⟨right.terms.trans left.terms, right.method.trans left.method,
    right.reference.trans left.reference, right.activation.trans left.activation,
    right.pins.trans left.pins, right.adapter.trans left.adapter, right.charge.trans left.charge,
    right.locks.trans left.locks, left.watched.trans right.watched, right.due.trans left.due⟩

theorem tidied (tidied : first.Tidied second) : SameRail first second := by
  have same := tidied.eq
  refine ⟨?_, ?_, ?_, ?_, ?_, ?_, ?_, ?_, tidied.watched, tidied.due⟩ <;> rw [same]

theorem invoice (same : SameRail first second) : second.invoice = first.invoice := by
  unfold Standing.invoice
  rw [same.pins]

theorem beside (same : second = { first with
      state := second.state
      held := second.held
      request := second.request
      payment := second.payment
      resolved := second.resolved
      receipt := second.receipt
      refund := second.refund
      sighting := second.sighting
      ruling := second.ruling }) : SameRail first second := by
  constructor <;> rw [same]

end SameRail

theorem Decided.sameRail {before after : Standing} (decided : Decided before after) :
    SameRail before after := by
  obtain ⟨state, held, payment, receipt, rfl, -⟩ := decided
  exact .beside rfl

theorem Acquire.sameRail {inventory after : Inventory} {standing done : Standing}
    (acquired : Acquire inventory standing after done) : SameRail standing done := by
  obtain ⟨held, rfl, -, -⟩ := acquired.frame
  exact .beside rfl

theorem Standing.report_sameRail (standing : Standing) (seen : Option Observation)
    (observed : Option ℕ) : SameRail standing (standing.report seen observed) :=
  .beside rfl

theorem Standing.pay_sameRail (standing : Standing) (payment : PaymentState) :
    SameRail standing (standing.pay payment) :=
  .beside rfl

theorem Standing.close_sameRail (standing : Standing) (state : OrderState) :
    SameRail standing (standing.close state) :=
  .beside rfl

theorem Move.railStep {references : References} {now : Time} {inventory after : Inventory}
    {standing done : Standing} {action : OrderAction} {returned : List Line}
    (coherent : Coherent standing)
    (move : Move references now inventory standing action returned after done) :
    ∃ target, RailStep references standing action target ∧ SameRail target done := by
  have beside (same : SameRail standing done) :
      ∃ target, RailStep references standing action target ∧ SameRail target done :=
    ⟨standing, .same, same⟩
  cases move with
  | stay => exact beside (.refl _)
  | bindFiat known chosen unbound pending awaiting unlocked acquired =>
      obtain ⟨held, rfl, -, -⟩ := acquired.frame
      exact ⟨_, .bindFiat known chosen unbound pending unlocked,
        .beside rfl⟩
  | bindBitcoin chosen prepared unbound pending awaiting unlocked acquired =>
      obtain ⟨held, rfl, -, -⟩ := acquired.frame
      exact ⟨_, .bindBitcoin chosen prepared unbound pending unlocked, .beside rfl⟩
  | activate answer preparing => exact ⟨_, .activate answer preparing, .refl _⟩
  | track answer current voided settled =>
      rw [(coherent.tracked settled).1]
      exact ⟨_, .track answer current voided settled, .refl _⟩
  | voidPrepare answer voids shows_row preparing released =>
      exact ⟨_, .voidPrepare answer preparing, .refl _⟩
  | dropRequest preparing settled =>
      obtain ⟨bound, awaiting, -⟩ := coherent.preparing preparing
      exact absurd (coherent.open_payment bound awaiting).1 settled
  | expirePreparing answer shows_row preparing released =>
      exact ⟨_, .dropRequest preparing (.inl ⟨_, answer⟩), .beside rfl⟩
  | expireHeld shows_row pending held settled outside open_payment released =>
      obtain ⟨payment, same, -⟩ := standing.lapse_frame
      rw [same]
      exact ⟨standing, .same, (standing.pay_sameRail payment).trans (Standing.close_sameRail _ _)⟩
  | expireIdle pending free unbound single unstamped awaiting =>
      exact beside ((standing.pay_sameRail .expired).trans (Standing.close_sameRail _ _))
  | cancelPending shows_row pending outside released =>
      obtain ⟨payment, -, same | ⟨preparing, same⟩⟩ := standing.endRequest_cases
      · rw [same]
        exact ⟨standing, .same, (standing.pay_sameRail payment).trans (Standing.close_sameRail _ _)⟩
      · rw [same]
        exact ⟨_, .dropRequest preparing (.inr ⟨_, _, _, rfl⟩), .beside rfl⟩
  | cancelPaid shows_row paid returned => exact beside (standing.close_sameRail _)
  | requestCancel paid => exact beside (standing.close_sameRail _)
  | approveCancel shows_row requested releasable returned => exact beside (.beside rfl)
  | fulfil command paid ended ready label recorded => exact beside (.beside rfl)
  | settle rail awaiting settled => exact beside settled.decided.sameRail
  | late rail money expired late => exact beside late.decided.sameRail
  | settlePoll rail awaiting gate settled froze =>
      exact beside (settled.decided.sameRail.trans (Standing.report_sameRail _ _ _))
  | latePoll rail money open_payment outside froze late =>
      exact beside ((standing.report_sameRail _ _).trans late.decided.sameRail)
  | fallback advanced froze => exact beside (standing.report_sameRail _ _)
  | confirmSeller window awaiting confirmed froze first queued pinned =>
      exact beside (confirmed.decided.sameRail.trans (.beside rfl))
  | windowLapsed request awaiting opened due froze =>
      exact beside ((standing.pay_sameRail _).trans (Standing.report_sameRail _ _ _))
  | resolve paykit review unresolved resolved first queued pinned =>
      rcases resolved.outcome with decided | ⟨payment, state, held, refund, rfl, -⟩
      · exact beside (decided.sameRail.trans (.beside rfl))
      · exact beside (.beside rfl)
  | routeMismatch watching unbound paykit open_payment outside untracked unresolved froze =>
      exact ⟨_, .restore unbound open_payment untracked, Standing.pay_sameRail _ _⟩
  | routeLate watching unbound paykit open_payment outside untracked froze swapped late =>
      exact ⟨_, .restore unbound open_payment untracked,
        (SameRail.tidied swapped).trans late.decided.sameRail⟩
  | detect rail pending => exact beside (.beside rfl)
  | refresh rail request amount => exact beside (.beside rfl)
  | enterWindow rail entry reported awaiting froze first extended => exact beside (.beside rfl)
  | sandbox sandbox target_ok unconfirmed acquired =>
      rcases acquired with taken | ⟨-, rfl⟩
      · exact beside (taken.sameRail.trans (Standing.pay_sameRail _ _))
      · exact beside (Standing.pay_sameRail _ _)
  | sandboxSettle sandbox open_payment acquired settled =>
      rcases acquired with taken | ⟨-, rfl⟩
      · exact beside (taken.sameRail.trans settled.decided.sameRail)
      · exact beside settled.decided.sameRail
  | prepareLocks unbound unlocked pending awaiting priced acquired =>
      obtain ⟨held, rfl, -, -⟩ := acquired.frame
      exact ⟨_, .prepareLocks unbound pending priced, .beside rfl⟩
  | registerLocks locks =>
      have same := coherent.locks.mp locks
      have kept : { standing with adapter := .locks } = standing := by rw [← same]
      rw [kept]
      exact ⟨standing, .same, .refl _⟩

theorem CellStep.railStep {references : References} {inventory after : Inventory}
    {cell done : Cell} {now : Time} {action : OrderAction} (sound : Sound cell)
    (step : CellStep references now inventory cell action after done) :
    ∃ target, RailStep references cell.book.standing action target ∧
      SameRail target done.book.standing := by
  obtain ⟨moved, move, tidied⟩ := step.moves
  obtain ⟨target, rail, same⟩ := move.railStep sound.coherent
  exact ⟨target, rail, same.trans (.tidied tidied)⟩

end MarketplaceService
