import MarketplaceService.Cells

/-!
Evidence on the Stripe rail. `verify_fiat_payment` looks a session up only while
the payment awaits it; for any other payment it goes on to `apply_fiat_paid`
without one, which is meant to change nothing. On an expired payment it enters
the late-money path instead. Without such a step every order that is paid
through Stripe had a session that matched.
-/

namespace MarketplaceService

def Standing.paid (standing : Standing) : Prop :=
  standing.receipt.isSome = true ∨ standing.payment = .confirmed

theorem Standing.paid_of_same {before after : Standing} (receipt : after.receipt = before.receipt)
    (payment : after.payment = .confirmed → before.payment = .confirmed) (paid : after.paid) :
    before.paid := by
  rcases paid with receipted | confirmed
  · exact .inl (receipt ▸ receipted)
  · exact .inr (payment confirmed)

theorem Decided.method {before after : Standing} (decided : Decided before after) :
    after.method = before.method := by
  obtain ⟨state, held, payment, receipt, rfl, -⟩ := decided
  rfl

theorem Move.stripe_paid {references : References} {now : Time} {inventory after : Inventory}
    {standing done : Standing} {action : OrderAction} {returned : List Line}
    (coherent : Coherent standing) (speaks : Speaks action standing)
    (other : action.rail ≠ some .fiat)
    (move : Move references now inventory standing action returned after done)
    (bound : done.method = some .stripe) (paid : done.paid) :
    standing.method = some .stripe ∧ standing.paid := by
  -- most moves keep the method and the receipt, and confirm nothing
  have kept (method : done.method = standing.method) (receipt : done.receipt = standing.receipt)
      (payment : done.payment = .confirmed → standing.payment = .confirmed) :
      standing.method = some .stripe ∧ standing.paid :=
    ⟨method.symm.trans bound, Standing.paid_of_same receipt payment paid⟩
  have not_bitcoin (method : done.method = some .bitcoin) :
      standing.method = some .stripe ∧ standing.paid := by
    rw [method] at bound
    cases bound
  have not_confirmed {payment : PaymentState}
      (lapsed : payment = standing.payment ∨ payment = .expired)
      (confirmed : payment = .confirmed) :
      standing.payment = .confirmed := by
    rcases lapsed with same | expired
    · exact same ▸ confirmed
    · rw [expired] at confirmed
      cases confirmed
  cases move with
  | stay => exact ⟨bound, paid⟩
  | bindFiat known chosen unbound pending awaiting unlocked acquired =>
      obtain ⟨held, rfl, -, -⟩ := acquired.frame
      have unpaid := coherent.unpaid_pending pending
      rcases paid with receipted | confirmed
      · simp [Standing.bind, Standing.release, unpaid] at receipted
      · simp [Standing.bind, Standing.release, awaiting] at confirmed
  | bindBitcoin chosen prepared unbound pending awaiting unlocked acquired => exact not_bitcoin rfl
  | activate answer preparing => exact kept rfl rfl id
  | track answer current voided settled =>
      rw [(coherent.tracked settled).1] at kept
      exact kept rfl rfl id
  | voidPrepare answer voids shows_row preparing released => cases bound
  | dropRequest preparing settled => exact kept rfl rfl id
  | expirePreparing answer shows_row preparing released =>
      exact kept rfl rfl fun confirmed => by cases confirmed
  | expireHeld shows_row pending held settled outside open_payment released =>
      obtain ⟨payment, same, -, lapsed⟩ := standing.lapse_frame
      rw [same] at kept
      exact kept rfl rfl (not_confirmed lapsed)
  | expireIdle pending free unbound single unstamped awaiting =>
      exact kept rfl rfl fun confirmed => by cases confirmed
  | cancelPending shows_row pending outside released =>
      obtain ⟨payment, lapsed, same | ⟨-, same⟩⟩ := standing.endRequest_cases
      · rw [same] at kept
        exact kept rfl rfl (not_confirmed lapsed)
      · rw [same] at kept
        exact kept rfl rfl (not_confirmed lapsed)
  | cancelPaid shows_row was_paid returned => exact kept rfl rfl id
  | requestCancel was_paid => exact kept rfl rfl id
  | approveCancel shows_row requested releasable returned => exact kept rfl rfl id
  | fulfil command was_paid ended ready label recorded => exact kept rfl rfl id
  | settle rail awaiting settled =>
      have locks := rail.resolve_left other
      simp only [Speaks, locks] at speaks
      rw [settled.decided.method] at bound
      have adapter := coherent.locks.mp speaks
      rw [coherent.stripe.mp bound] at adapter
      cases adapter
  | late rail money expired late =>
      have locks := rail.resolve_left other
      simp only [Speaks, locks] at speaks
      rw [late.decided.method] at bound
      have adapter := coherent.locks.mp speaks
      rw [coherent.stripe.mp bound] at adapter
      cases adapter
  | settlePoll rail awaiting gate settled froze =>
      simp only [Speaks, rail] at speaks
      exact not_bitcoin (settled.decided.method.trans speaks.1)
  | latePoll rail money open_payment outside froze late =>
      simp only [Speaks, rail] at speaks
      exact not_bitcoin (late.decided.method.trans speaks.1)
  | fallback advanced froze => exact kept rfl rfl id
  | confirmSeller window awaiting confirmed froze first queued pinned =>
      exact not_bitcoin (confirmed.decided.method.trans (coherent.window window).1)
  | windowLapsed request awaiting opened due froze => exact not_bitcoin (coherent.window request).1
  | resolve paykit review unresolved resolved first queued pinned =>
      have on_bitcoin := coherent.bitcoin.mpr paykit
      rcases resolved.outcome with decided | ⟨payment, state, held, refund, rfl, -⟩
      · exact not_bitcoin (decided.method.trans on_bitcoin)
      · exact not_bitcoin on_bitcoin
  | routeMismatch watching unbound paykit open_payment outside untracked unresolved froze =>
      exact not_bitcoin rfl
  | routeLate watching unbound paykit open_payment outside untracked froze swapped late =>
      refine not_bitcoin (late.decided.method.trans ?_)
      exact congrArg Standing.method swapped.same
  | detect rail pending => exact kept rfl rfl id
  | refresh rail request amount => exact kept rfl rfl id
  | enterWindow rail entry reported awaiting froze first extended => exact kept rfl rfl id
  | sandbox sandbox target_ok unconfirmed acquired =>
      rcases acquired with taken | ⟨-, rfl⟩
      · obtain ⟨held, rfl, -, -⟩ := taken.frame
        exact kept rfl rfl fun confirmed => absurd confirmed unconfirmed
      · exact kept rfl rfl fun confirmed => absurd confirmed unconfirmed
  | sandboxSettle sandbox open_payment acquired settled =>
      have method : done.method = standing.method := by
        rw [settled.decided.method]
        rcases acquired with taken | ⟨-, rfl⟩
        · obtain ⟨held, rfl, -, -⟩ := taken.frame
          rfl
        · rfl
      rw [method] at bound
      rw [coherent.stripe.mp bound] at sandbox
      cases sandbox
  | prepareLocks unbound unlocked pending awaiting priced acquired =>
      obtain ⟨held, rfl, -, -⟩ := acquired.frame
      exact kept rfl rfl id
  | registerLocks locks => exact kept rfl rfl id

/-! Evidence along a run. -/

/-- Every sign of Stripe money has a session behind it. -/
structure Evidenced (cell : Cell) : Prop where
  paid : cell.book.standing.method = some .stripe → cell.book.standing.paid →
    cell.stripeMatched = true
  verified : ∀ session, .fiatPaid (some session) .processor ∈ cell.inFlight →
    cell.stripeMatched = true
  refused : .fiatRefused ∈ cell.inFlight → cell.book.standing.method = some .stripe →
    cell.stripeMatched = true

/-- A verification without a session is not applied to an expired payment. -/
def verifiedInTime : Sys → Action → Prop :=
  eachOrder fun cell action =>
    action = .applyFiat none .processor → cell.book.payment.state ≠ .expired

instance : ∀ sys action, Decidable (verifiedInTime sys action) :=
  fun sys action => inferInstanceAs (Decidable (eachOrder _ sys action))

/-- A verification without a session changes nothing but on an expired
payment. -/
theorem applyFiatPaid_advanced {view : View} {transactionRef : Option String}
    {verifiedBy : VerifiedBy} {now : Time} (closed : view.book.payment.state ≠ .awaitingEntitlement)
    (unexpired : view.book.payment.state ≠ .expired) :
    applyFiatPaid view transactionRef verifiedBy now = .ok (.done view) := by
  unfold applyFiatPaid
  rw [if_neg unexpired, if_pos closed]

theorem transact_unverified {references : References} {view : View} {now : Time} {effect : Effect}
    (closed : view.book.payment.state ≠ .awaitingEntitlement)
    (unexpired : view.book.payment.state ≠ .expired)
    (ran : transact references view now (.applyFiat none .processor) = some effect) :
    effect.view = view ∧ effect.sent = [] := by
  simp only [transact, applyFiatPaid_advanced closed unexpired, Effect.ofConfirm,
    Except.toOption, Option.map_some, Option.some.injEq] at ran
  rw [← ran]
  exact ⟨rfl, rfl⟩

/-- A fiat answer that speaks for Stripe rests on a session, or it is the
verification without one. -/
theorem Evidenced.consumes {cell : Cell} (evidenced : Evidenced cell) (sound : Sound cell)
    {action : OrderAction} (consumed : ∀ message ∈ action.consumes, message ∈ cell.inFlight)
    (fiat : action.rail = some .fiat) (bound : cell.book.standing.method = some .stripe) :
    cell.stripeMatched = true ∨ action = .applyFiat none .processor := by
  cases action with
  | applyFiat transactionRef verifiedBy =>
      have arrived := consumed _ rfl
      cases verifiedBy with
      | processor =>
          cases transactionRef with
          | none => exact .inr rfl
          | some session => exact .inl (evidenced.verified session arrived)
      | gateway =>
          have paypal := sound.backed _ arrived
          rw [show cell.book.standing.method = some .paypal from paypal] at bound
          cases bound
      | seller =>
          have paypal := sound.backed _ arrived
          rw [show cell.book.standing.method = some .paypal from paypal] at bound
          cases bound
  | reviewFiat => exact .inl (evidenced.refused (consumed _ rfl) bound)
  | _ => cases fiat

theorem stepCell_unverified {references : References} {inventory after : Inventory}
    {cell done : Cell} {now : Time} (sound : Sound cell)
    (unexpired : cell.book.payment.state ≠ .expired)
    (ran : stepCell references inventory cell now (.applyFiat none .processor) =
      some (after, done)) :
    after = inventory ∧ done.book = cell.book ∧
      (∀ message ∈ done.inFlight, message ∈ cell.inFlight) ∧
      done.stripeMatched = cell.stripeMatched := by
  unfold stepCell at ran
  obtain ⟨present, ran⟩ := Option.ite_none_right_eq_some.mp ran
  obtain ⟨effect, answered, same⟩ := Option.map_eq_some_iff.mp ran
  cases same
  have arrived : .fiatPaid none .processor ∈ cell.inFlight := by
    simpa [OrderAction.consumes] using present
  have closed := (sound.backed _ arrived).2 rfl
  obtain ⟨same_view, silent⟩ := transact_unverified closed unexpired answered
  refine ⟨by rw [same_view], by simp [Cell.after, same_view], ?_, ?_⟩
  · intro message member
    simp only [Cell.after, OrderAction.consumes, silent, List.append_nil] at member
    exact List.mem_of_mem_erase member
  · simp [Cell.after, OrderAction.findsSession]

theorem Sends.findsSession {now : Time} {view after : View} {action : OrderAction}
    {session : String}
    (sends : Sends now view action after (.fiatPaid (some session) .processor)) :
    action.findsSession view.book = true := by
  cases sends with
  | stripePaid verified =>
      obtain ⟨transactionRef, other, -, closed | paid⟩ := verifyStripe_ok verified
      · obtain ⟨rfl, -⟩ := closed
        cases other
      · simp [OrderAction.findsSession, paid.2.1, paid.2.2]
  | paypalPaid verified =>
      obtain ⟨named, -, other⟩ := verifyPaypal_ok verified
      cases named
      exact absurd rfl other

theorem Sends.refuses {now : Time} {view after : View} {action : OrderAction}
    (sends : Sends now view action after .fiatRefused) :
    after = view ∧ action.rail = some .fiat := by
  cases sends with
  | stripePaid verified =>
      obtain ⟨transactionRef, other, -⟩ := verifyStripe_ok verified
      cases other
  | paypalPaid verified => cases (verifyPaypal_ok verified).1
  | fiatRefused => exact ⟨rfl, rfl⟩

theorem Evidenced.step {references : References} {inventory after : Inventory} {cell done : Cell}
    {now : Time} {action : OrderAction} (evidenced : Evidenced cell) (sound : Sound cell)
    (in_time : action = .applyFiat none .processor → cell.book.payment.state ≠ .expired)
    (ran : stepCell references inventory cell now action = some (after, done)) :
    Evidenced done := by
  by_cases unverified : action = .applyFiat none .processor
  · subst unverified
    obtain ⟨-, same, inFlight, matched⟩ := stepCell_unverified sound (in_time rfl) ran
    refine ⟨?_, ?_, ?_⟩
    · rw [same, matched]
      exact evidenced.paid
    · intro session member
      rw [matched]
      exact evidenced.verified session (inFlight _ member)
    · intro member
      rw [same, matched]
      exact evidenced.refused (inFlight _ member)
  have step := stepCell_steps sound ran
  have steady := step.steady sound
  have later (matched : cell.stripeMatched = true) : done.stripeMatched = true := by
    rw [step.stripeMatched, matched, Bool.true_or]
  have answered (fiat : action.rail = some .fiat)
      (bound : cell.book.standing.method = some .stripe) : done.stripeMatched = true :=
    later ((evidenced.consumes sound step.consumed fiat bound).resolve_right unverified)
  constructor
  · intro bound paid
    by_cases fiat : action.rail = some .fiat
    · have speaks := step.speaks
      simp only [Speaks, fiat] at speaks
      exact answered fiat ((steady.fiat speaks).symm.trans bound)
    · obtain ⟨moved, move, tidied⟩ := step.moves
      rw [tidied.eq] at bound paid
      obtain ⟨was_bound, was_paid⟩ :=
        move.stripe_paid sound.coherent step.speaks fiat bound paid
      exact later (evidenced.paid was_bound was_paid)
  · intro session member
    rcases step.sends _ member with old | new
    · exact later (evidenced.verified session old)
    · rw [step.stripeMatched, new.findsSession, Bool.or_true]
  · intro member bound
    rcases step.sends _ member with old | new
    · have was_bound := steady.fiat (sound.backed _ old)
      exact later (evidenced.refused old (was_bound.symm.trans bound))
    · obtain ⟨same, fiat⟩ := new.refuses
      have same_book : done.book = cell.book := congrArg View.book same
      rw [same_book] at bound
      exact answered fiat bound

theorem Fresh.evidenced {book : OrderBook} (fresh : Fresh book) : Evidenced (newCell book) := by
  obtain ⟨⟨held, start⟩, -⟩ := fresh
  constructor
  · intro bound
    change book.standing.method = some .stripe at bound
    rw [start] at bound
    cases bound
  · intro session member
    cases member
  · intro member
    cases member

/-- In every run whose verifications without a session meet no expired payment,
an order is paid through Stripe only after a session matched, and a
verification of a payment that no longer awaits one moves nothing. -/
theorem stripe_paid_only_on_evidence (references : References) {sys : Sys}
    (reached : Runs.Reachable (marketplace references) verifiedInTime sys) {id : OrderId}
    {cell : Cell} (found : sys.cells.find? id = some cell) :
    (cell.book.order.paymentMethod = some .stripe →
      (cell.book.receipt.isSome = true ∨ cell.book.payment.state = .confirmed) →
        cell.stripeMatched = true) ∧
    ∀ (now : Time) (action : OrderAction) (after : Sys),
      ((∃ actor session, action = .verifyStripe actor session) ∨
        action = .applyFiat none .processor) →
      cell.book.payment.state ≠ .awaitingEntitlement →
      verifiedInTime sys (.order id now action) →
      sys.step references (.order id now action) = some after →
      after.inventory = sys.inventory ∧
        ∃ done, after.cells.find? id = some done ∧ done.book = cell.book := by
  obtain ⟨sound, evidenced⟩ := cells_invariant Evidenced (fun _ => Fresh.evidenced)
    (fun present meets sound evidenced ran =>
      evidenced.step sound (eachOrder_order meets present) ran) reached found
  constructor
  · intro bound paid
    refine evidenced.paid bound ?_
    simpa [Standing.paid, OrderBook.standing] using paid
  · intro now action after verifies closed in_time stepped
    obtain ⟨done, later, ran⟩ := order_step found stepped
    have same : after.inventory = sys.inventory ∧ done.book = cell.book := by
      rcases verifies with ⟨actor, session, rfl⟩ | rfl
      · obtain ⟨-, ran⟩ := Option.ite_none_right_eq_some.mp ran
        obtain ⟨effect, read, named⟩ := Option.map_eq_some_iff.mp ran
        obtain ⟨message, -, same, -⟩ := Effect.read_some read
        obtain ⟨stock, rows⟩ := Prod.mk.inj named
        rw [← stock, ← rows]
        exact ⟨congrArg View.inventory same, congrArg View.book same⟩
      · obtain ⟨stock, book, -⟩ := stepCell_unverified sound (eachOrder_order in_time found rfl) ran
        exact ⟨stock, book⟩
    exact ⟨same.1, done, later, same.2⟩

theorem stripe_lamp_paid_on_session :
    ∃ sys, Runs.Reachable (marketplace sampleReferences) verifiedInTime sys ∧
      ∃ cell ∈ sys.cells.find? 7, cell.book.receipt.isSome = true ∧ cell.stripeMatched = true := by
  obtain ⟨sys, reached, cell, found, bound, paid⟩ :=
    Runs.exists_reachable_of_run (marketplace sampleReferences) rfl
      (lampOrder ++ sampleBind 1 .stripe none none ++
        [ .order 7 10 (.verifyStripe "buyer" (some "cs_1"))
        , .order 7 10 (.applyFiat (some "cs_1") .processor) ])
      (fun sys => ∃ cell ∈ sys.cells.find? 7,
        cell.book.order.paymentMethod = some .stripe ∧ cell.book.receipt.isSome = true)
      (show Runs.Meets _ verifiedInTime _ _ by decide +kernel) (by decide +kernel)
  have evidence := (stripe_paid_only_on_evidence sampleReferences reached found).1
  exact ⟨sys, reached, cell, found, paid, evidence bound (.inl paid)⟩

/-- The window expires and releases the lamp; a verification without a session
then takes the lamp again, confirms the payment and issues a receipt. -/
theorem stripe_lamp_paid_without_session :
    ∃ sys, Runs.Reachable (marketplace sampleReferences) Runs.anyStep sys ∧
      ∃ cell ∈ sys.cells.find? 7, cell.book.order.paymentMethod = some .stripe ∧
        cell.book.order.state = .paid ∧ cell.book.receipt.isSome = true ∧
          cell.book.payment.state = .confirmed ∧ cell.stripeMatched = false :=
  Runs.exists_reachable_of_run (marketplace sampleReferences) rfl
    (lampOrder ++ sampleBind 1 .stripe none none ++
      [ .order 7 600 .expireWindow
      , .order 7 700 (.verifyStripe "buyer" none)
      , .order 7 700 (.applyFiat none .processor) ])
    _ (Runs.meets_anyStep _ _ _) (by decide +kernel)

end MarketplaceService
