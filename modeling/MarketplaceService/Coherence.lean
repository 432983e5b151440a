import MarketplaceService.Standing

/-!
The coherence of an order's labels, kept by every move. The writes after an
answer look at one label or at none; what makes them safe is how the labels
hang together: the method with the adapter, the request with the activation,
an open Paykit payment with a pending order that has its stock.
-/

namespace MarketplaceService

structure Coherent (standing : Standing) : Prop where
  bitcoin : standing.method = some .bitcoin ↔ standing.adapter = .paykit
  stripe : standing.method = some .stripe ↔ standing.adapter = .stripe
  paypal : standing.method = some .paypal ↔ standing.adapter = .paypal
  locks : standing.locks = true ↔ standing.adapter = .locks
  pinned : standing.method = some .bitcoin → standing.pins.isSome = true
  preparing : standing.activation = some .preparing →
    standing.method = some .bitcoin ∧ standing.payment = .awaitingEntitlement ∧
      standing.request = some .preparing
  active : standing.method = some .bitcoin → ∀ request ∈ standing.request, request ≠ .preparing →
    standing.activation = some .active
  open_payment : standing.method = some .bitcoin → standing.payment = .awaitingEntitlement →
    standing.state = .pendingPayment ∧ (standing.terms.auction = none → standing.held = true) ∧
      standing.request.isSome = true ∧ standing.request ≠ some .confirmed
  window : standing.request = some .awaitingSellerConfirmation →
    standing.method = some .bitcoin ∧ standing.payment = .awaitingEntitlement
  idle : standing.state = .pendingPayment → standing.method ≠ some .bitcoin →
    standing.request = none ∧ standing.activation ≠ some .active
  receipt : standing.receipt.isSome = true →
    standing.payment = .confirmed ∧ standing.state ≠ .pendingPayment
  held : standing.held = true →
    standing.state = .pendingPayment ∧ standing.terms.auction = none

def Speaks (action : OrderAction) (standing : Standing) : Prop :=
  match action.rail with
  | some .fiat => standing.method = some .stripe ∨ standing.method = some .paypal
  | some .locks => standing.locks = true
  | some .poll => standing.method = some .bitcoin ∧ standing.activation = some .active
  | none => True

namespace Coherent

variable {standing : Standing}

theorem beside (coherent : Coherent standing) (refund : Option ExternalRefund)
    (sighting : Sighting) (ruling : Ruling) :
    Coherent { standing with refund := refund, sighting := sighting, ruling := ruling } :=
  ⟨coherent.bitcoin, coherent.stripe, coherent.paypal, coherent.locks, coherent.pinned,
    coherent.preparing, coherent.active, coherent.open_payment, coherent.window, coherent.idle,
    coherent.receipt, coherent.held⟩

theorem unpaid (coherent : Coherent standing) (open_payment : standing.payment ≠ .confirmed) :
    standing.receipt = none := by
  cases paid : standing.receipt with
  | none => rfl
  | some charge => exact absurd (coherent.receipt (by simp [paid])).1 open_payment

theorem unpaid_pending (coherent : Coherent standing)
    (pending : standing.state = .pendingPayment) : standing.receipt = none := by
  cases paid : standing.receipt with
  | none => rfl
  | some charge => exact absurd pending (coherent.receipt (by simp [paid])).2

theorem unheld (coherent : Coherent standing) (settled : standing.state ≠ .pendingPayment) :
    standing.held = false := by
  by_contra held
  exact settled (coherent.held (by simpa using held)).1

theorem settled_activation (coherent : Coherent standing)
    (closed : standing.payment ≠ .awaitingEntitlement) :
    standing.activation ≠ some .preparing :=
  fun preparing => closed (coherent.preparing preparing).2.1

theorem spoken_method (coherent : Coherent standing) {action : OrderAction}
    (speaks : Speaks action standing)
    (rail : action.rail = some .fiat ∨ action.rail = some .locks) :
    standing.method ≠ some .bitcoin := by
  intro bound
  rcases rail with named | named
  · simp [Speaks, named, bound] at speaks
  · simp only [Speaks, named] at speaks
    have adapter := coherent.locks.mp speaks
    rw [coherent.bitcoin.mp bound] at adapter
    cases adapter

theorem unlocked (coherent : Coherent standing) (other : standing.adapter ≠ .locks) :
    standing.locks = false := by
  by_contra locked
  exact other (coherent.locks.mp (by simpa using locked))

theorem unprepared (coherent : Coherent standing) (other : standing.method ≠ some .bitcoin) :
    standing.activation ≠ some .preparing :=
  fun preparing => other (coherent.preparing preparing).1

theorem not_window (coherent : Coherent standing)
    (closed : standing.payment ≠ .awaitingEntitlement) :
    standing.request ≠ some .awaitingSellerConfirmation :=
  fun window => closed (coherent.window window).2

end Coherent

/-! The parts of a move on a coherent order. -/

/-- The hold flag alone may be set. -/
theorem Acquire.frame {inventory after : Inventory} {standing done : Standing}
    (acquired : Acquire inventory standing after done) :
    ∃ held, done = { standing with held := held } ∧
      (standing.terms.auction = none → held = true) ∧
      (held = true → standing.held = true ∨
        standing.terms.auction = none ∧ standing.state = .pendingPayment) := by
  cases acquired with
  | auction auctioned =>
      refine ⟨standing.held, rfl, ?_, fun held => .inl held⟩
      intro single
      simp [single] at auctioned
  | kept single pending held => exact ⟨standing.held, rfl, fun _ => held, fun held => .inl held⟩
  | taken single pending free acquired =>
      exact ⟨true, rfl, fun _ => rfl, fun _ => .inr ⟨single, pending⟩⟩

def Decided (before after : Standing) : Prop :=
  ∃ state held payment receipt,
    after = { before with state := state, held := held, payment := payment, receipt := receipt } ∧
      (payment = .manualReview ∧ receipt = before.receipt ∨
        payment = .confirmed ∧ state ≠ .pendingPayment) ∧
      (held = true → before.held = true ∧ state = before.state) ∧
      (state = .pendingPayment → before.state = .pendingPayment)

theorem Decided.payment {before after : Standing} (decided : Decided before after) :
    after.payment = .manualReview ∨ after.payment = .confirmed := by
  obtain ⟨state, held, payment, receipt, rfl, answer, -⟩ := decided
  rcases answer with ⟨reviewed, -⟩ | ⟨confirmed, -⟩
  · exact .inl reviewed
  · exact .inr confirmed

theorem confirmedState_ne_pending (order : Order) : confirmedState order ≠ .pendingPayment := by
  unfold confirmedState
  split <;> simp

theorem Refund.decided {now : Time} {inventory after : Inventory} {standing done : Standing}
    (routed : Refund now inventory standing after done) : Decided standing done := by
  cases routed with
  | cancelled shows_row open_payment pending released =>
      exact ⟨.cancelled, false, .manualReview, standing.receipt, rfl, .inl ⟨rfl, rfl⟩, by simp,
        by simp⟩
  | kept open_payment settled =>
      exact ⟨standing.state, standing.held, .manualReview, standing.receipt, rfl,
        .inl ⟨rfl, rfl⟩, fun held => ⟨held, rfl⟩, id⟩

theorem Confirm.decided {now : Time} {order : Order} {inventory after : Inventory}
    {standing done : Standing} (confirmed : Confirm now order inventory standing after done) :
    Decided standing done := by
  cases confirmed with
  | intro terms payable deliverable unpaid stocked =>
      have moved := confirmedState_ne_pending order
      exact ⟨confirmedState order, false, .confirmed, _, rfl, .inr ⟨rfl, moved⟩, by simp,
        fun pending => absurd pending moved⟩

theorem Retake.decided {now : Time} {inventory after : Inventory} {standing done : Standing}
    (retaken : Retake now inventory standing after done) : Decided standing done := by
  cases retaken with
  | intro shows_row reacquired stored confirmed => exact confirmed.decided

theorem Late.decided {now : Time} {inventory after : Inventory} {standing done : Standing}
    (late : Late now inventory standing after done) : Decided standing done := by
  cases late with
  | undeliverable routed => exact routed.decided
  | held open_payment pending held =>
      exact ⟨standing.state, standing.held, .manualReview, standing.receipt, rfl,
        .inl ⟨rfl, rfl⟩, fun held => ⟨held, rfl⟩, id⟩
  | completed unheld unresolved retaken => exact retaken.decided
  | lost shows_row deliverable unheld failed routed => exact routed.decided

theorem Refund.unresolved {now : Time} {inventory after : Inventory} {standing done : Standing}
    (routed : Refund now inventory standing after done) : standing.resolved = false := by
  cases routed with
  | cancelled shows_row open_payment pending released => exact open_payment.2
  | kept open_payment settled => exact open_payment.2

theorem Late.unresolved {now : Time} {inventory after : Inventory} {standing done : Standing}
    (late : Late now inventory standing after done) : standing.resolved = false := by
  cases late with
  | undeliverable routed => exact routed.unresolved
  | held open_payment pending held => exact open_payment.2
  | completed unheld unresolved retaken => exact unresolved
  | lost shows_row deliverable unheld failed routed => exact routed.unresolved

theorem Settle.decided {now : Time} {inventory after : Inventory} {standing done : Standing}
    (settled : Settle now inventory standing after done) : Decided standing done := by
  cases settled with
  | confirmed shows_row confirmed => exact confirmed.decided
  | refunded routed => exact routed.decided
  | reviewed =>
      exact ⟨standing.state, standing.held, .manualReview, standing.receipt, rfl,
        .inl ⟨rfl, rfl⟩, fun held => ⟨held, rfl⟩, id⟩

theorem Resolve.outcome {now : Time} {inventory after : Inventory} {standing done : Standing}
    (resolved : Resolve now inventory standing after done) :
    Decided standing done ∨
      ∃ payment state held refund, done =
          { standing with payment := payment, state := state, held := held, refund := refund } ∧
        (payment = .confirmed ∨ payment = .expired) ∧ state ≠ .pendingPayment ∧
        (held = true → standing.held = true ∧ standing.state = .cancelled) := by
  cases resolved with
  | intact shows_row pending present confirmed => exact .inl confirmed.decided
  | retaken shows_row open_order lost retaken => exact .inl retaken.decided
  | gaveBack shows_row pending closed released =>
      refine .inr ⟨_, _, false, _, rfl, ?_⟩
      cases closed <;> simp [Standing.close, Standing.pay]
  | closed cancelled closed =>
      refine .inr ⟨_, _, standing.held, _, rfl, ?_⟩
      cases closed <;> simp [Standing.pay, cancelled]

theorem Coherent.decided {standing done : Standing} (coherent : Coherent standing)
    (decided : Decided standing done) (unpaid : standing.receipt = none)
    (settled : standing.activation ≠ some .preparing)
    (outside : standing.request ≠ some .awaitingSellerConfirmation) : Coherent done := by
  obtain ⟨state, held, payment, receipt, rfl, answer, keeps, pending⟩ := decided
  have closed : payment ≠ .awaitingEntitlement := by
    rcases answer with ⟨rfl, -⟩ | ⟨rfl, -⟩ <;> simp
  refine ⟨coherent.bitcoin, coherent.stripe, coherent.paypal, coherent.locks, coherent.pinned,
    fun preparing => absurd preparing settled, coherent.active, fun _ awaiting =>
      absurd awaiting closed, fun window => absurd window outside, ?_, ?_, ?_⟩
  · intro still unbound
    exact coherent.idle (pending still) unbound
  · intro paid
    rcases answer with ⟨-, rfl⟩ | confirmed
    · simp [unpaid] at paid
    · exact confirmed
  · intro still
    obtain ⟨was, same⟩ := keeps still
    have before := coherent.held was
    exact ⟨same.trans before.1, before.2⟩

/-- An order whose Paykit attempt was reported paid, before its payment is
decided. -/
structure Reported (standing : Standing) : Prop where
  method : standing.method = some .bitcoin
  adapter : standing.adapter = .paykit
  locks : standing.locks = false
  pins : standing.pins.isSome = true
  request : standing.request = some .confirmed
  activation : standing.activation = some .active
  unpaid : standing.receipt = none
  held : standing.held = true →
    standing.state = .pendingPayment ∧ standing.terms.auction = none

theorem Reported.decided {standing done : Standing} (reported : Reported standing)
    (decided : Decided standing done) : Coherent done := by
  obtain ⟨method, adapter, locks, pins, request, activation, unpaid, held⟩ := reported
  obtain ⟨state, hold, payment, receipt, rfl, answer, keeps, -⟩ := decided
  have closed : payment ≠ .awaitingEntitlement := by
    rcases answer with ⟨rfl, -⟩ | ⟨rfl, -⟩ <;> simp
  refine ⟨by simp [method, adapter], by simp [method, adapter], by simp [method, adapter],
    by simp [locks, adapter], fun _ => pins, by simp [activation], fun _ _ _ _ => activation,
    fun _ awaiting => absurd awaiting closed, by simp [request],
    fun _ unbound => absurd method unbound, ?_, ?_⟩
  · intro paid
    rcases answer with ⟨-, rfl⟩ | confirmed
    · simp [unpaid] at paid
    · exact confirmed
  · intro still
    obtain ⟨was, same⟩ := keeps still
    exact ⟨same.trans (held was).1, (held was).2⟩

theorem Reported.tidied {standing tidy : Standing} (reported : Reported standing)
    (tidied : standing.Tidied tidy) : Reported tidy := by
  rw [← tidied.same] at reported
  exact ⟨reported.method, reported.adapter, reported.locks, reported.pins, reported.request,
    reported.activation, reported.unpaid, reported.held⟩

theorem Decided.report {standing done : Standing} {seen : Option Observation}
    {observed : Option ℕ} (decided : Decided standing done) :
    Decided (standing.report seen observed) (done.report seen observed) := by
  obtain ⟨state, held, payment, receipt, rfl, answer, keeps, pending⟩ := decided
  exact ⟨state, held, payment, receipt, rfl, answer, keeps, pending⟩

theorem Coherent.reported {standing : Standing} {seen : Option Observation}
    {observed : Option ℕ} (coherent : Coherent standing)
    (bound : standing.method = some .bitcoin) (active : standing.activation = some .active)
    (open_payment : standing.payment ≠ .confirmed) :
    Reported (standing.report seen observed) := by
  have adapter := coherent.bitcoin.mp bound
  refine ⟨bound, adapter, ?_, coherent.pinned bound, rfl, active, coherent.unpaid open_payment,
    coherent.held⟩
  exact coherent.unlocked (by simp [adapter])

theorem Coherent.restored {standing : Standing} {seen : Option Observation}
    {observed : Option ℕ} (coherent : Coherent standing)
    (paykit : standing.adapter = .paykit ∨ standing.adapter = .sandbox)
    (open_payment : standing.payment ≠ .confirmed) (pins : PaykitPins) (reference : Reference) :
    Reported (standing.restore pins reference seen observed) := by
  refine ⟨rfl, rfl, ?_, rfl, rfl, rfl, coherent.unpaid open_payment, coherent.held⟩
  apply coherent.unlocked
  rcases paykit with same | same <;> simp [same]

/-! One lemma for each kind of write. -/

namespace Coherent

variable {standing : Standing}

/-- The hold an order has after `acquire_payment_hold`. -/
theorem acquired (coherent : Coherent standing) {inventory after : Inventory} {done : Standing}
    (taken : Acquire inventory standing after done) : Coherent done := by
  obtain ⟨hold, rfl, single, origin⟩ := taken.frame
  refine ⟨coherent.bitcoin, coherent.stripe, coherent.paypal, coherent.locks, coherent.pinned,
    coherent.preparing, coherent.active, ?_, coherent.window, coherent.idle, coherent.receipt, ?_⟩
  · intro bound awaiting
    obtain ⟨pending, -, request, unconfirmed⟩ := coherent.open_payment bound awaiting
    exact ⟨pending, single, request, unconfirmed⟩
  · intro held
    rcases origin held with was | ⟨alone, pending⟩
    · exact coherent.held was
    · exact ⟨pending, alone⟩

theorem boundFiat (coherent : Coherent standing) {fiat : FiatMethod}
    (known : fiat = stripeMethod ∨ fiat = paypalMethod) (unbound : standing.method = none)
    (pending : standing.state = .pendingPayment) (other : standing.adapter ≠ .locks) :
    Coherent (standing.bind fiat.method none fiat.adapter) := by
  have unlocked := coherent.unlocked other
  have idle := coherent.idle pending (by simp [unbound])
  have unprepared := coherent.unprepared (by simp [unbound])
  rcases known with rfl | rfl
  all_goals
    refine ⟨?_, ?_, ?_, ?_, ?_, ?_, ?_, ?_, ?_, ?_, coherent.receipt, coherent.held⟩ <;>
      simp [Standing.bind, Standing.release, stripeMethod, paypalMethod, unlocked, idle, unprepared]

theorem prepared (coherent : Coherent standing) (pending : standing.state = .pendingPayment)
    (awaiting : standing.payment = .awaitingEntitlement) (other : standing.adapter ≠ .locks)
    (stocked : standing.terms.auction = none → standing.held = true) (reference : Reference)
    (pins : PaykitPins) :
    Coherent ((standing.bind .bitcoin (some reference) .paykit).prepare pins) := by
  have unlocked := coherent.unlocked other
  refine ⟨?_, ?_, ?_, ?_, ?_, ?_, ?_, ?_, ?_, ?_, coherent.receipt, coherent.held⟩ <;>
    simp [Standing.bind, Standing.release, Standing.prepare, unlocked, awaiting, pending]
  exact stocked

theorem activated (coherent : Coherent standing)
    (preparing : standing.activation = some .preparing) : Coherent standing.activate := by
  obtain ⟨bound, awaiting, -⟩ := coherent.preparing preparing
  obtain ⟨pending, stocked, -, -⟩ := coherent.open_payment bound awaiting
  refine ⟨coherent.bitcoin, coherent.stripe, coherent.paypal, coherent.locks, coherent.pinned,
    ?_, ?_, ?_, ?_, ?_, coherent.receipt, coherent.held⟩ <;>
    simp [Standing.activate, bound, pending]
  exact fun _ => stocked

/-- A voided invoice of a closed order that turns out live: the payment of a
Paykit order has lapsed before. -/
theorem tracked (coherent : Coherent standing) (settled : standing.state ≠ .pendingPayment) :
    (if standing.adapter = .paykit then standing.activate.lapse else standing.activate) =
        standing.activate ∧ Coherent standing.activate := by
  have closed : standing.method = some .bitcoin → standing.payment ≠ .awaitingEntitlement :=
    fun bound awaiting => settled (coherent.open_payment bound awaiting).1
  constructor
  · by_cases paykit : standing.adapter = .paykit
    · rw [if_pos paykit]
      exact if_neg (closed (coherent.bitcoin.mpr paykit))
    · rw [if_neg paykit]
  · refine ⟨coherent.bitcoin, coherent.stripe, coherent.paypal, coherent.locks, coherent.pinned,
      by simp [Standing.activate], by simp [Standing.activate],
      fun bound awaiting => absurd awaiting (closed bound), by simp [Standing.activate],
      fun pending => absurd pending settled, coherent.receipt, coherent.held⟩

theorem voided (coherent : Coherent standing) (preparing : standing.activation = some .preparing) :
    Coherent standing.voidPrepare := by
  obtain ⟨bound, awaiting, -⟩ := coherent.preparing preparing
  have unlocked := coherent.unlocked (by simp [coherent.bitcoin.mp bound])
  refine ⟨?_, ?_, ?_, ?_, ?_, ?_, ?_, ?_, ?_, ?_, coherent.receipt, ?_⟩ <;>
    simp [Standing.voidPrepare, Standing.release, unlocked]

theorem closed (coherent : Coherent standing) (payment : PaymentState) (state : OrderState)
    (ended : state ≠ .pendingPayment)
    (outside : standing.request ≠ some .awaitingSellerConfirmation)
    (lapsed : standing.method = some .bitcoin → payment ≠ .awaitingEntitlement)
    (unprepared : standing.activation ≠ some .preparing) (unpaid : standing.receipt = none) :
    Coherent ((standing.pay payment).close state) := by
  refine ⟨coherent.bitcoin, coherent.stripe, coherent.paypal, coherent.locks, coherent.pinned,
    fun preparing => absurd preparing unprepared, coherent.active,
    fun bound awaiting => absurd awaiting (lapsed bound), fun window => absurd window outside,
    fun pending => absurd pending ended, ?_, by simp [Standing.close]⟩
  intro paid
  simp [Standing.close, Standing.pay, unpaid] at paid

theorem dropped (coherent : Coherent standing) (preparing : standing.activation = some .preparing)
    {payment : PaymentState} {state : OrderState} (ended : state ≠ .pendingPayment)
    (lapsed : payment ≠ .awaitingEntitlement) :
    Coherent ((standing.pay payment).close state).dropRequest := by
  obtain ⟨bound, awaiting, -⟩ := coherent.preparing preparing
  have unpaid := coherent.unpaid (show standing.payment ≠ .confirmed by simp [awaiting])
  refine ⟨coherent.bitcoin, coherent.stripe, coherent.paypal, coherent.locks, coherent.pinned,
    ?_, ?_, fun _ still => absurd still lapsed, ?_, ?_, ?_, ?_⟩ <;>
    simp [Standing.dropRequest, Standing.release, Standing.close, Standing.pay, unpaid, ended]

theorem cancelled (coherent : Coherent standing) (pending : standing.state = .pendingPayment)
    (outside : standing.request ≠ some .awaitingSellerConfirmation) :
    Coherent (standing.endRequest.close .cancelled) := by
  have unpaid := coherent.unpaid_pending pending
  unfold Standing.endRequest Standing.lapse
  by_cases paykit : standing.adapter = .paykit
  · rw [if_pos paykit]
    have bound := coherent.bitcoin.mpr paykit
    by_cases preparing : standing.activation = some .preparing
    · have awaiting := (coherent.preparing preparing).2.1
      have pinned := coherent.pinned bound
      rw [if_pos ⟨preparing, pinned⟩, if_pos awaiting]
      exact coherent.dropped preparing (by simp) (by simp)
    · rw [if_neg fun both => preparing both.1]
      by_cases awaiting : standing.payment = .awaitingEntitlement
      · rw [if_pos awaiting]
        exact coherent.closed _ _ (by simp) outside (by simp) preparing unpaid
      · rw [if_neg awaiting]
        exact coherent.closed standing.payment .cancelled (by simp) outside (fun _ => awaiting)
          preparing unpaid
  · rw [if_neg paykit]
    have other : standing.method ≠ some .bitcoin := fun bound => paykit (coherent.bitcoin.mp bound)
    exact coherent.closed standing.payment .cancelled (by simp) outside
      (fun bound => absurd bound other) (coherent.unprepared other) unpaid

theorem relabelled (coherent : Coherent standing) (paid : standing.state ≠ .pendingPayment)
    {state : OrderState} (label : state ≠ .pendingPayment) (refund : Option ExternalRefund) :
    Coherent { standing with state := state, refund := refund } := by
  have unheld : standing.held ≠ true := fun held => paid (coherent.held held).1
  refine ⟨coherent.bitcoin, coherent.stripe, coherent.paypal, coherent.locks, coherent.pinned,
    coherent.preparing, coherent.active, ?_, coherent.window, fun pending => absurd pending label,
    fun paid => ⟨(coherent.receipt paid).1, label⟩, fun held => absurd held unheld⟩
  intro bound awaiting
  exact absurd (coherent.open_payment bound awaiting).1 paid

theorem relabelled_closed (coherent : Coherent standing) (paid : standing.state ≠ .pendingPayment)
    {state : OrderState} (label : state ≠ .pendingPayment) : Coherent (standing.close state) := by
  have same : standing.close state = { standing with state := state } := by
    unfold Standing.close
    rw [← coherent.unheld paid]
  rw [same]
  exact coherent.relabelled paid label standing.refund

theorem reportedClosed {seen : Option Observation} {observed : Option ℕ}
    (coherent : Coherent standing) (bound : standing.method = some .bitcoin)
    (active : standing.activation = some .active)
    (closed : standing.payment ≠ .awaitingEntitlement) :
    Coherent (standing.report seen observed) := by
  refine ⟨coherent.bitcoin, coherent.stripe, coherent.paypal, coherent.locks, coherent.pinned,
    by simp [Standing.report, active], fun _ _ _ _ => active,
    fun _ awaiting => absurd awaiting closed, by simp [Standing.report],
    fun _ unbound => absurd bound unbound, coherent.receipt, coherent.held⟩

theorem detected (coherent : Coherent standing) (pending : standing.request = some .pending) :
    Coherent { standing with request := some .detected } := by
  have unprepared : standing.activation ≠ some .preparing := by
    intro preparing
    have request := (coherent.preparing preparing).2.2
    rw [pending] at request
    cases request
  refine ⟨coherent.bitcoin, coherent.stripe, coherent.paypal, coherent.locks, coherent.pinned,
    fun preparing => absurd preparing unprepared, ?_, ?_, by simp, ?_, coherent.receipt,
    coherent.held⟩
  · intro bound _ _ _
    exact coherent.active bound .pending pending (by simp)
  · intro bound awaiting
    obtain ⟨state, stocked, -, -⟩ := coherent.open_payment bound awaiting
    exact ⟨state, stocked, rfl, by simp⟩
  · intro state unbound
    have idle := (coherent.idle state unbound).1
    rw [pending] at idle
    cases idle

theorem entered (coherent : Coherent standing) (bound : standing.method = some .bitcoin)
    (active : standing.activation = some .active)
    (awaiting : standing.payment = .awaitingEntitlement) (sighting : Sighting) :
    Coherent { standing with
      request := some .awaitingSellerConfirmation
      sighting := sighting } := by
  obtain ⟨state, stocked, -, -⟩ := coherent.open_payment bound awaiting
  refine ⟨coherent.bitcoin, coherent.stripe, coherent.paypal, coherent.locks, coherent.pinned,
    by simp [active], fun _ _ _ _ => active, fun _ _ => ⟨state, stocked, rfl, by simp⟩,
    fun _ => ⟨bound, awaiting⟩, fun _ unbound => absurd bound unbound, coherent.receipt,
    coherent.held⟩

/-- A payment outside Paykit moves without a receipt. -/
theorem advanced (coherent : Coherent standing) (other : standing.method ≠ some .bitcoin)
    (payment : PaymentState) (unpaid : standing.receipt = none) :
    Coherent (standing.pay payment) := by
  have unprepared := coherent.unprepared other
  refine ⟨coherent.bitcoin, coherent.stripe, coherent.paypal, coherent.locks, coherent.pinned,
    fun preparing => absurd preparing unprepared, coherent.active,
    fun bound => absurd bound other, fun window => absurd (coherent.window window).1 other,
    coherent.idle, ?_, coherent.held⟩
  intro paid
  simp [Standing.pay, unpaid] at paid

theorem sandboxHeld (coherent : Coherent standing) {inventory after : Inventory} {done : Standing}
    (sandbox : standing.adapter = .sandbox) (open_payment : standing.payment ≠ .confirmed)
    (acquired : Acquire inventory standing after done ∨ after = inventory ∧ done = standing) :
    Coherent done ∧ done.method ≠ some .bitcoin ∧ done.receipt = none := by
  have other : standing.method ≠ some .bitcoin := by
    intro bound
    rw [coherent.bitcoin.mp bound] at sandbox
    cases sandbox
  have unpaid := coherent.unpaid open_payment
  rcases acquired with taken | ⟨-, rfl⟩
  · have held := coherent.acquired taken
    obtain ⟨hold, rfl, -, -⟩ := taken.frame
    exact ⟨held, other, unpaid⟩
  · exact ⟨coherent, other, unpaid⟩

theorem locked (coherent : Coherent standing) (unbound : standing.method = none) :
    Coherent { standing with locks := true, adapter := .locks } := by
  have unprepared := coherent.unprepared (by simp [unbound])
  refine ⟨by simp [unbound], by simp [unbound], by simp [unbound], by simp, by simp [unbound],
    fun preparing => absurd preparing unprepared, by simp [unbound], by simp [unbound], ?_,
    coherent.idle, coherent.receipt, coherent.held⟩
  intro window
  have bound := (coherent.window window).1
  rw [unbound] at bound
  cases bound

theorem resolved (coherent : Coherent standing) {inventory after : Inventory} {now : Time}
    {done : Standing} (paykit : standing.adapter = .paykit)
    (review : standing.payment = .manualReview)
    (outcome : Resolve now inventory standing after done) (ruling : Ruling) :
    Coherent { done with resolved := true, ruling := ruling } := by
  have unprepared := coherent.settled_activation (by simp [review])
  have outside := coherent.not_window (by simp [review])
  have unpaid := coherent.unpaid (by simp [review])
  have bound := coherent.bitcoin.mpr paykit
  rcases outcome.outcome with decided | ⟨payment, state, held, refund, rfl, paid, ended, kept⟩
  · have done_coherent := coherent.decided decided unpaid unprepared outside
    exact ⟨done_coherent.bitcoin, done_coherent.stripe, done_coherent.paypal, done_coherent.locks,
      done_coherent.pinned, done_coherent.preparing, done_coherent.active,
      done_coherent.open_payment, done_coherent.window, done_coherent.idle, done_coherent.receipt,
      done_coherent.held⟩
  · have closed : payment ≠ .awaitingEntitlement := by
      rcases paid with rfl | rfl <;> simp
    refine ⟨coherent.bitcoin, coherent.stripe, coherent.paypal, coherent.locks, coherent.pinned,
      fun preparing => absurd preparing unprepared, coherent.active,
      fun _ awaiting => absurd awaiting closed, fun window => absurd window outside,
      fun pending => absurd pending ended, by simp [unpaid], ?_⟩
    intro still
    obtain ⟨was, cancelled⟩ := kept still
    have pending := (coherent.held was).1
    rw [cancelled] at pending
    cases pending

end Coherent

theorem Move.coherent {references : References} {now : Time} {inventory after : Inventory}
    {standing done : Standing} {action : OrderAction} {returned : List Line}
    (coherent : Coherent standing) (speaks : Speaks action standing)
    (move : Move references now inventory standing action returned after done) :
    Coherent done := by
  cases move with
  | stay => exact coherent
  | bindFiat known chosen unbound pending awaiting other acquired =>
      have held := coherent.acquired acquired
      obtain ⟨hold, rfl, -, -⟩ := acquired.frame
      exact held.boundFiat known unbound pending other
  | bindBitcoin chosen prepared unbound pending awaiting other acquired =>
      have held := coherent.acquired acquired
      obtain ⟨hold, rfl, stocked, -⟩ := acquired.frame
      exact held.prepared pending awaiting other stocked _ _
  | activate answer preparing => exact coherent.activated preparing
  | track answer current voided settled =>
      obtain ⟨same, active⟩ := coherent.tracked settled
      rw [same]
      exact active
  | voidPrepare answer voids shows_row preparing released => exact coherent.voided preparing
  | dropRequest preparing settled =>
      -- A request is prepared on a pending order only, so this branch is never reached.
      obtain ⟨bound, awaiting, -⟩ := coherent.preparing preparing
      exact absurd (coherent.open_payment bound awaiting).1 settled
  | expirePreparing answer shows_row preparing released =>
      exact coherent.dropped preparing (by simp) (by simp)
  | expireHeld shows_row pending held settled outside open_payment released =>
      have unpaid := coherent.unpaid (show standing.payment ≠ .confirmed by
        rcases open_payment with same | same | same <;> simp [same])
      unfold Standing.lapse
      split
      · exact coherent.closed _ _ (by simp) outside (by simp) settled unpaid
      · rename_i lapsed
        exact coherent.closed standing.payment .cancelled (by simp) outside (fun _ => lapsed)
          settled unpaid
  | expireIdle pending free unbound single unstamped awaiting =>
      have idle := coherent.idle pending (by simp [unbound])
      exact coherent.closed _ _ (by simp) (by simp [idle]) (by simp)
        (coherent.unprepared (by simp [unbound])) (coherent.unpaid (by simp [awaiting]))
  | cancelPending shows_row pending outside released => exact coherent.cancelled pending outside
  | cancelPaid shows_row paid returned =>
      apply coherent.relabelled_closed
      · rcases paid with same | same <;> simp [same]
      · simp
  | requestCancel paid =>
      apply coherent.relabelled_closed
      · rcases paid with same | same | same <;> simp [same]
      · simp
  | approveCancel shows_row requested releasable returned =>
      exact coherent.relabelled (by simp [requested]) (by simp) standing.refund
  | fulfil command paid ended ready label recorded =>
      refine coherent.relabelled ?_ ?_ _
      · rintro pending
        simp [pending] at paid
      · rintro rfl
        simp at label
  | settle rail awaiting settled =>
      have other := coherent.spoken_method speaks rail
      exact coherent.decided settled.decided (coherent.unpaid (by simp [awaiting]))
        (coherent.unprepared other)
        fun window => other (coherent.window window).1
  | late rail money expired late =>
      have unprepared := coherent.settled_activation (by simp [expired])
      exact coherent.decided late.decided (coherent.unpaid (by simp [expired])) unprepared
        (coherent.not_window (by simp [expired]))
  | settlePoll rail awaiting gate settled froze =>
      simp only [Speaks, rail] at speaks
      exact (coherent.reported speaks.1 speaks.2 (by simp [awaiting])).decided
        settled.decided.report
  | latePoll rail money open_payment outside froze late =>
      simp only [Speaks, rail] at speaks
      have unconfirmed : standing.payment ≠ .confirmed := by
        rcases open_payment with same | same <;> simp [same]
      exact (coherent.reported speaks.1 speaks.2 unconfirmed).decided late.decided
  | fallback advanced froze =>
      simp only [Speaks, OrderAction.rail] at speaks
      exact coherent.reportedClosed speaks.1 speaks.2 advanced
  | confirmSeller window awaiting confirmed froze first queued pinned =>
      have bound := (coherent.window window).1
      have active := coherent.active bound _ window (by simp)
      have decided := @Decided.report _ _ standing.sighting.observation standing.coalesced
        confirmed.decided
      exact ((coherent.reported bound active (by simp [awaiting])).decided decided).beside _ _ _
  | windowLapsed request awaiting opened due froze =>
      have bound := (coherent.window request).1
      have active := coherent.active bound _ request (by simp)
      have review : Settle now inventory standing inventory (standing.pay .manualReview) :=
        .reviewed
      exact (coherent.reported bound active (by simp [awaiting])).decided review.decided.report
  | resolve paykit review unresolved resolved first queued pinned =>
      exact coherent.resolved paykit review resolved _
  | @routeMismatch _ _ _ pins reference seen observed watching unbound paykit open_payment outside
      untracked unresolved froze =>
      have unconfirmed : standing.payment ≠ .confirmed := by
        rcases open_payment with same | same <;> simp [same]
      have review : Settle now inventory (standing.restore pins reference seen observed) inventory
          ((standing.restore pins reference seen observed).pay .manualReview) := .reviewed
      exact (coherent.restored paykit unconfirmed pins reference).decided review.decided
  | @routeLate _ _ pins reference _ _ _ seen observed watching unbound paykit open_payment outside
      untracked froze swapped late =>
      have unconfirmed : standing.payment ≠ .confirmed := by
        rcases open_payment with same | same <;> simp [same]
      have reported : Reported (standing.restore pins reference seen observed) :=
        coherent.restored paykit unconfirmed pins reference
      exact (reported.tidied swapped).decided late.decided
  | detect rail pending => exact coherent.detected pending
  | refresh rail request amount => exact coherent.beside _ _ _
  | enterWindow rail entry reported awaiting froze first extended =>
      simp only [Speaks, rail] at speaks
      exact coherent.entered speaks.1 speaks.2 awaiting _
  | sandbox sandbox target_ok unconfirmed acquired =>
      have open_payment : standing.payment ≠ .confirmed := by
        intro confirmed
        simp [confirmed, sandboxTargets] at target_ok
      obtain ⟨held, other, unpaid⟩ := coherent.sandboxHeld sandbox open_payment acquired
      exact held.advanced other _ unpaid
  | sandboxSettle sandbox open_payment acquired settled =>
      have unconfirmed : standing.payment ≠ .confirmed := by
        rcases open_payment with same | same <;> simp [same]
      obtain ⟨held, other, unpaid⟩ := coherent.sandboxHeld sandbox unconfirmed acquired
      refine held.decided settled.decided unpaid (held.unprepared other) ?_
      exact fun window => other (held.window window).1
  | prepareLocks unbound unlocked pending awaiting priced acquired =>
      have held := coherent.acquired acquired
      obtain ⟨hold, rfl, -, -⟩ := acquired.frame
      exact held.locked unbound
  | registerLocks locks =>
      have same := coherent.locks.mp locks
      have kept : { standing with adapter := .locks } = standing := by rw [← same]
      rw [kept]
      exact coherent

end MarketplaceService
