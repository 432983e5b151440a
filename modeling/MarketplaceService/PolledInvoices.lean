import MarketplaceService.WatchedInvoices

/-!
Who polls a prepared invoice. A covered invoice is asked about by the order
poller, which reads requests of Paykit payments only, or by the poller of
released attempts, which leaves a tracked invoice to the order poller. The two
fit together as long as an order has a request only while it is bound to
Bitcoin. The one write that breaks this gives an invoice Paykit reports
published back to an order that has been bound elsewhere in the meantime.
-/

namespace MarketplaceService

/-- One of the two pollers claims the invoice. -/
def OrderBook.Polled (book : OrderBook) (invoice : InvoiceId) (now : Time) : Prop :=
  book.order.paykitInvoiceId = some invoice ∧ (claimPaykitOrder book now).isSome = true ∨
    (claimAttempt book invoice).isSome = true

/-- The order still prepares the invoice: the outbox worker and the sweep of
preparing orders have it, and nobody can have paid it. -/
def OrderBook.Preparing (book : OrderBook) (invoice : InvoiceId) : Prop :=
  book.order.paykitInvoiceId = some invoice ∧
    book.order.paykitActivationState = some .preparing

/-- No money is waited for: the attempt has been closed, its money has been
taken, or the tail after its expiry is over. -/
inductive OrderBook.Over (book : OrderBook) (invoice : InvoiceId) (now : Time) : Prop
  | closed {attempt : Attempt} (found : book.attempts.find? invoice = some attempt)
      (ended : attempt.state ≠ .watching)
  | reported (current : book.order.paykitInvoiceId = some invoice)
      (paykit : book.payment.adapter = .paykit)
      (confirmed : book.order.paykitRequestState = some .confirmed)
  | lapsed {pins : PaykitPins} (current : book.order.paykitPins = some pins)
      (named : pins.invoiceId = invoice) (paykit : book.payment.adapter = .paykit)
      (expired : book.payment.state = .expired)
      (unseen : book.order.paykitRequestState = some .pending)
      (tail : pins.expiresAt + 24 * 3600 ≤ now)

/-- An invoice reported published goes back to its closed order only while the
order is bound to Bitcoin. -/
def retracksBound : Sys → Action → Prop :=
  eachOrder fun cell action => ∀ invoice ∈ action.findsLive,
    cell.book.order.paykitInvoiceId = some invoice →
      cell.book.order.paykitActivationState = some .voided →
        cell.book.order.state ≠ .pendingPayment →
          cell.book.order.paymentMethod = some .bitcoin

instance : ∀ sys action, Decidable (retracksBound sys action) :=
  fun sys action => inferInstanceAs (Decidable (eachOrder _ sys action))

structure Followed (standing : Standing) : Prop where
  bound : standing.request.isSome = true → standing.method = some .bitcoin
  referenced : standing.method = some .bitcoin → standing.reference.isSome = true
  preparing : standing.request = some .preparing → standing.activation = some .preparing
  decided : standing.method = some .bitcoin →
    standing.payment = .awaitingEntitlement ∨ standing.payment = .expired ∨
      standing.activation = some .active ∧ standing.request = some .confirmed

namespace Followed

variable {standing after : Standing}

theorem unrequested (followed : Followed standing) (other : standing.method ≠ some .bitcoin) :
    standing.request = none := by
  cases requested : standing.request with
  | none => rfl
  | some request => exact absurd (followed.bound (by simp [requested])) other

/-- The payment may only lapse. -/
theorem of_same (followed : Followed standing) (method : after.method = standing.method)
    (reference : after.reference = standing.reference)
    (request : after.request = standing.request)
    (activation : after.activation = standing.activation)
    (payment : after.payment = standing.payment ∨ after.payment = .expired) :
    Followed after := by
  constructor
  · rw [request, method]
    exact followed.bound
  · rw [method, reference]
    exact followed.referenced
  · rw [request, activation]
    exact followed.preparing
  · rw [method, request, activation]
    intro bound
    rcases payment with same | expired
    · rw [same]
      exact followed.decided bound
    · exact .inr (.inl expired)

theorem of_unbound (other : after.method ≠ some .bitcoin) (request : after.request = none) :
    Followed after := by
  refine ⟨?_, fun bound => absurd bound other, ?_, fun bound => absurd bound other⟩
  · simp [request]
  · simp [request]

theorem of_confirmed (method : after.method = some .bitcoin)
    (reference : after.reference.isSome = true) (request : after.request = some .confirmed)
    (activation : after.activation = some .active) : Followed after :=
  ⟨fun _ => method, fun _ => reference, by simp [request],
    fun _ => .inr (.inr ⟨activation, request⟩)⟩

theorem of_open (followed : Followed standing) (method : after.method = standing.method)
    (reference : after.reference = standing.reference) (bound : standing.method = some .bitcoin)
    (unprepared : after.request ≠ some .preparing)
    (payment : after.payment = .awaitingEntitlement ∨ after.payment = .expired) :
    Followed after := by
  refine ⟨fun _ => method.trans bound, ?_, fun preparing => absurd preparing unprepared, ?_⟩
  · rw [reference]
    exact fun _ => followed.referenced bound
  · exact fun _ => payment.imp_right .inl

/-- Money that is not Paykit's. -/
theorem decidedUnbound (followed : Followed standing) (other : standing.method ≠ some .bitcoin)
    (decided : Decided standing after) : Followed after := by
  obtain ⟨state, held, payment, receipt, rfl, -⟩ := decided
  exact .of_unbound other (followed.unrequested other)

theorem decidedReport (followed : Followed standing) {seen : Option Observation}
    {observed : Option ℕ} (bound : standing.method = some .bitcoin)
    (active : standing.activation = some .active)
    (decided : Decided (standing.report seen observed) after) : Followed after := by
  obtain ⟨state, held, payment, receipt, rfl, -⟩ := decided
  exact .of_confirmed bound (followed.referenced bound) rfl active

end Followed

theorem Move.followed {references : References} {now : Time} {inventory after : Inventory}
    {standing done : Standing} {action : OrderAction} {returned : List Line}
    (coherent : Coherent standing) (speaks : Speaks action standing)
    (retracks : ∀ invoice ∈ action.findsLive, standing.invoice = some invoice →
      standing.activation = some .voided → standing.state ≠ .pendingPayment →
        standing.method = some .bitcoin)
    (followed : Followed standing)
    (move : Move references now inventory standing action returned after done) :
    Followed done := by
  -- a report is applied to a bound and active request
  have polled (rail : action.rail = some .poll) :
      standing.method = some .bitcoin ∧ standing.activation = some .active := by
    simp only [Speaks, rail] at speaks
    exact speaks
  have sandboxed (sandbox : standing.adapter = .sandbox) : standing.method ≠ some .bitcoin := by
    intro bound
    rw [coherent.bitcoin.mp bound] at sandbox
    cases sandbox
  have window (request : standing.request = some .awaitingSellerConfirmation) :
      standing.method = some .bitcoin ∧ standing.activation = some .active := by
    have bound := (coherent.window request).1
    exact ⟨bound, coherent.active bound _ request (by simp)⟩
  cases move with
  | stay => exact followed
  | bindFiat known chosen unbound pending awaiting unlocked acquired =>
      refine .of_unbound ?_ rfl
      rcases known with rfl | rfl <;> simp [Standing.bind, stripeMethod, paypalMethod]
  | bindBitcoin chosen prepared unbound pending awaiting unlocked acquired =>
      obtain ⟨held, rfl, -, -⟩ := acquired.frame
      exact ⟨fun _ => rfl, fun _ => rfl, fun _ => rfl, fun _ => .inl awaiting⟩
  | activate answer preparing =>
      obtain ⟨bound, awaiting, -⟩ := coherent.preparing preparing
      exact followed.of_open rfl rfl bound (by simp [Standing.activate]) (.inl awaiting)
  | track answer current voided settled live =>
      rw [(coherent.tracked settled).1]
      have bound := retracks _ live current voided settled
      refine followed.of_open rfl rfl bound (by simp [Standing.activate]) ?_
      rcases followed.decided bound with awaiting | expired | ⟨active, -⟩
      · exact .inl awaiting
      · exact .inr expired
      · rw [voided] at active
        cases active
  | voidPrepare answer voids shows_row preparing released =>
      exact .of_unbound (by simp [Standing.voidPrepare]) rfl
  | dropRequest preparing settled =>
      obtain ⟨bound, awaiting, -⟩ := coherent.preparing preparing
      exact followed.of_open rfl rfl bound (by simp [Standing.dropRequest]) (.inl awaiting)
  | expirePreparing answer shows_row preparing released =>
      obtain ⟨bound, -, -⟩ := coherent.preparing preparing
      exact followed.of_open rfl rfl bound (by simp [Standing.dropRequest]) (.inr rfl)
  | expireHeld shows_row pending held settled outside open_payment released =>
      obtain ⟨payment, same, -, lapsed⟩ := standing.lapse_frame
      rw [same]
      exact followed.of_same rfl rfl rfl rfl lapsed
  | expireIdle pending free unbound single unstamped awaiting =>
      exact followed.of_same rfl rfl rfl rfl (.inr rfl)
  | cancelPending shows_row pending outside released =>
      obtain ⟨payment, lapsed, same | ⟨preparing, same⟩⟩ := standing.endRequest_cases
      · rw [same]
        exact followed.of_same rfl rfl rfl rfl lapsed
      · rw [same]
        obtain ⟨bound, awaiting, -⟩ := coherent.preparing preparing
        rw [awaiting] at lapsed
        exact followed.of_open rfl rfl bound (by simp [Standing.close, Standing.dropRequest]) lapsed
  | cancelPaid shows_row paid returned => exact followed.of_same rfl rfl rfl rfl (.inl rfl)
  | requestCancel paid => exact followed.of_same rfl rfl rfl rfl (.inl rfl)
  | approveCancel shows_row requested releasable returned =>
      exact followed.of_same rfl rfl rfl rfl (.inl rfl)
  | fulfil command paid ended ready label recorded =>
      exact followed.of_same rfl rfl rfl rfl (.inl rfl)
  | settle rail awaiting settled =>
      exact followed.decidedUnbound (coherent.spoken_method speaks rail) settled.decided
  | late rail money expired late =>
      exact followed.decidedUnbound (coherent.spoken_method speaks rail) late.decided
  | settlePoll rail awaiting gate settled froze =>
      exact followed.decidedReport (polled rail).1 (polled rail).2 settled.decided.report
  | latePoll rail money open_payment outside froze late =>
      exact followed.decidedReport (polled rail).1 (polled rail).2 late.decided
  | fallback advanced froze =>
      exact .of_confirmed speaks.1 (followed.referenced speaks.1) rfl speaks.2
  | confirmSeller request awaiting confirmed froze first queued pinned =>
      obtain ⟨bound, active⟩ := window request
      obtain ⟨state, held, payment, receipt, rfl, -⟩ := confirmed.decided
      exact .of_confirmed bound (followed.referenced bound) rfl active
  | windowLapsed request awaiting opened due froze =>
      obtain ⟨bound, active⟩ := window request
      exact .of_confirmed bound (followed.referenced bound) rfl active
  | resolve paykit review unresolved resolved first queued pinned =>
      have bound := coherent.bitcoin.mpr paykit
      have taken : standing.activation = some .active ∧ standing.request = some .confirmed := by
        simpa [review] using followed.decided bound
      rcases resolved.outcome with ⟨state, held, payment, receipt, rfl, -⟩ |
        ⟨payment, state, held, refund, rfl, -⟩
      · exact .of_confirmed bound (followed.referenced bound) taken.2 taken.1
      · exact .of_confirmed bound (followed.referenced bound) taken.2 taken.1
  | routeMismatch watching unbound paykit open_payment outside untracked unresolved froze =>
      exact .of_confirmed rfl rfl rfl rfl
  | routeLate watching unbound paykit open_payment outside untracked froze swapped late =>
      obtain ⟨state, held, payment, receipt, rfl, -⟩ := late.decided
      rw [swapped.eq]
      exact .of_confirmed rfl rfl rfl rfl
  | detect rail pending =>
      refine followed.of_open rfl rfl (polled rail).1 (by simp) ?_
      rcases followed.decided (polled rail).1 with awaiting | expired | ⟨-, confirmed⟩
      · exact .inl awaiting
      · exact .inr expired
      · rw [pending] at confirmed
        cases confirmed
  | refresh rail request amount => exact followed.of_same rfl rfl rfl rfl (.inl rfl)
  | enterWindow rail entry reported awaiting froze first extended =>
      exact followed.of_open rfl rfl (polled rail).1 (by simp) (.inl awaiting)
  | sandbox sandbox target_ok unconfirmed acquired =>
      have other := sandboxed sandbox
      rcases acquired with taken | ⟨-, rfl⟩
      · obtain ⟨held, rfl, -, -⟩ := taken.frame
        exact .of_unbound other (followed.unrequested other)
      · exact .of_unbound other (followed.unrequested other)
  | sandboxSettle sandbox open_payment acquired settled =>
      have other := sandboxed sandbox
      rcases acquired with taken | ⟨-, rfl⟩
      · obtain ⟨held, rfl, -, -⟩ := taken.frame
        have kept : Followed { standing with held := held } :=
          followed.of_same rfl rfl rfl rfl (.inl rfl)
        exact kept.decidedUnbound other settled.decided
      · exact followed.decidedUnbound other settled.decided
  | prepareLocks unbound unlocked pending awaiting priced acquired =>
      obtain ⟨held, rfl, -, -⟩ := acquired.frame
      exact followed.of_same rfl rfl rfl rfl (.inl rfl)
  | registerLocks locks => exact followed.of_same rfl rfl rfl rfl (.inl rfl)

/-! Along a run. -/

theorem Fresh.followed {book : OrderBook} (fresh : Fresh book) :
    Followed (newCell book).book.standing := by
  obtain ⟨⟨held, start⟩, -⟩ := fresh
  change Followed book.standing
  rw [start]
  exact .of_unbound (by simp [Terms.start]) rfl

theorem CellStep.followed {references : References} {inventory after : Inventory}
    {cell done : Cell} {now : Time} {action : OrderAction} (sound : Sound cell)
    (retracks : ∀ invoice ∈ action.findsLive, cell.book.order.paykitInvoiceId = some invoice →
      cell.book.order.paykitActivationState = some .voided →
        cell.book.order.state ≠ .pendingPayment → cell.book.order.paymentMethod = some .bitcoin)
    (followed : Followed cell.book.standing)
    (step : CellStep references now inventory cell action after done) :
    Followed done.book.standing := by
  obtain ⟨moved, move, tidied⟩ := step.moves
  have kept := move.followed sound.coherent step.speaks retracks followed
  rw [tidied.eq]
  exact kept.of_same rfl rfl rfl rfl (.inl rfl)

/-! The two pollers. -/

theorem Followed.tracked_polled {book : OrderBook} {invoice : InvoiceId}
    (followed : Followed book.standing) (coherent : Coherent book.standing)
    (current : book.order.paykitInvoiceId = some invoice)
    (requested : book.order.paykitRequestState.isSome = true) (now : Time) :
    book.Polled invoice now ∨ book.Preparing invoice ∨ book.Over invoice now := by
  obtain ⟨request, requested⟩ := Option.isSome_iff_exists.mp requested
  have bound : book.standing.method = some .bitcoin :=
    followed.bound (Option.isSome_of_eq_some requested)
  have paykit : book.payment.adapter = .paykit := coherent.bitcoin.mp bound
  obtain ⟨reference, referenced⟩ := Option.isSome_iff_exists.mp (followed.referenced bound)
  change book.order.paykitRequestReference = some reference at referenced
  obtain ⟨pins, pinned, named⟩ := Option.map_eq_some_iff.mp current
  have claims (due : pollDue book now = true) : book.Polled invoice now := by
    refine .inl ⟨current, ?_⟩
    simp [claimPaykitOrder, referenced, requested, due]
  have payment (open_request : request ≠ .confirmed) :
      book.payment.state = .awaitingEntitlement ∨ book.payment.state = .expired := by
    rcases followed.decided bound with awaiting | expired | ⟨-, confirmed⟩
    · exact .inl awaiting
    · exact .inr expired
    · exact absurd (Option.some.inj (requested.symm.trans confirmed)) open_request
  cases request with
  | preparing => exact .inr (.inl ⟨current, followed.preparing requested⟩)
  | pending =>
      rcases payment (by simp) with awaiting | expired
      · exact .inl (claims (by simp [pollDue, paykit, awaiting, requested]))
      · by_cases tail : now < pins.expiresAt + 24 * 3600
        · exact .inl (claims (by simp [pollDue, paykit, expired, requested, pinned, tail]))
        · exact .inr (.inr (.lapsed pinned named paykit expired requested (not_lt.mp tail)))
  | detected =>
      rcases payment (by simp) with awaiting | expired
      · exact .inl (claims (by simp [pollDue, paykit, awaiting, requested]))
      · exact .inl (claims (by simp [pollDue, paykit, expired, requested]))
  | confirmed => exact .inr (.inr (.reported current paykit requested))
  | awaitingSellerConfirmation =>
      have awaiting : book.payment.state = .awaitingEntitlement := (coherent.window requested).2
      exact .inl (claims (by simp [pollDue, paykit, awaiting, requested]))

theorem released_polled {book : OrderBook} {invoice : InvoiceId} {attempt : Attempt}
    (found : book.attempts.find? invoice = some attempt)
    (untracked : trackedByOrder book.order invoice = false) (now : Time) :
    book.Polled invoice now ∨ book.Over invoice now := by
  by_cases watching : attempt.state = .watching
  · refine .inl (.inr ?_)
    simp [claimAttempt, found, watching, untracked]
  · exact .inr (.closed found watching)

/-- Every invoice a bind ever persisted on an order is its current invoice with
a live request, or has a released-attempt row; and at any time one of the
pollers claims it, unless it is still being prepared or no money of it is
waited for. -/
theorem prepared_invoice_stays_watched (references : References) {sys : Sys}
    (reached : Runs.Reachable (marketplace references) retracksBound sys) {id : OrderId}
    {cell : Cell} (found : sys.cells.find? id = some cell) {invoice : InvoiceId}
    (persisted : invoice ∈ cell.everPinned) :
    (cell.book.order.paykitInvoiceId = some invoice ∧
        cell.book.order.paykitRequestState.isSome = true ∨
      (cell.book.attempts.find? invoice).isSome = true) ∧
    ∀ now, cell.book.Polled invoice now ∨ cell.book.Preparing invoice ∨
      cell.book.Over invoice now := by
  obtain ⟨sound, covered, followed⟩ := cells_invariant
    (fun cell => Covered cell ∧ Followed cell.book.standing)
    (fun _ fresh => ⟨fresh.covered, fresh.followed⟩)
    (fun present meets sound known ran =>
      have step := stepCell_steps sound ran
      ⟨step.covered sound known.1, step.followed sound (eachOrder_order meets present) known.2⟩)
    reached found
  have covers := covered.ever invoice persisted
  refine ⟨covers, fun now => ?_⟩
  by_cases tracked : trackedByOrder cell.book.order invoice = true
  · simp only [trackedByOrder, Bool.and_eq_true, beq_iff_eq] at tracked
    exact followed.tracked_polled sound.coherent tracked.1 tracked.2 now
  · rcases covers with ⟨current, requested⟩ | row
    · refine absurd ?_ tracked
      simp only [trackedByOrder, Bool.and_eq_true, beq_iff_eq]
      exact ⟨current, requested⟩
    · obtain ⟨attempt, stored⟩ := Option.isSome_iff_exists.mp row
      exact (released_polled stored (by simpa using tracked) now).imp_right .inr

/-- Paykit refuses to activate invoice 1 and the buyer binds again; the order
is cancelled while invoice 2 is prepared, and invoice 2 turns out published.
Both invoices are polled. -/
theorem rebound_invoices_stay_watched :
    ∃ sys, Runs.Reachable (marketplace sampleReferences) retracksBound sys ∧
      ∃ cell ∈ sys.cells.find? 7, cell.book.order.state = .cancelled ∧
        cell.book.order.paykitRequestState = some .pending ∧
        ∀ invoice ∈ [1, 2], cell.book.Polled invoice 90 ∨ cell.book.Preparing invoice ∨
          cell.book.Over invoice 90 := by
  obtain ⟨sys, reached, cell, found, persisted, closed, pending⟩ :=
    Runs.exists_reachable_of_run (marketplace sampleReferences) rfl
      (reboundRequest ++
        [ .order 7 60 (.cancel ⟨"buyer", 4⟩ "not needed" false)
        , .order 7 80 (.answerActivate 1 2 5000 (.activated true 5000)) ])
      (fun sys => ∃ cell ∈ sys.cells.find? 7, (∀ invoice ∈ [1, 2], invoice ∈ cell.everPinned) ∧
        cell.book.order.state = .cancelled ∧
        cell.book.order.paykitRequestState = some .pending)
      (show Runs.Meets _ retracksBound _ _ by decide +kernel) (by decide +kernel)
  refine ⟨sys, reached, cell, found, closed, pending, fun invoice member => ?_⟩
  exact (prepared_invoice_stays_watched sampleReferences reached found
    (persisted invoice member)).2 90

theorem unpolled_of_other_rail {book : OrderBook} {invoice : InvoiceId} {attempt : Attempt}
    (tracked : trackedByOrder book.order invoice = true) (other : book.payment.adapter ≠ .paykit)
    (active : book.order.paykitActivationState = some .active)
    (found : book.attempts.find? invoice = some attempt) (watching : attempt.state = .watching)
    (now : Time) :
    ¬ book.Polled invoice now ∧ ¬ book.Preparing invoice ∧ ¬ book.Over invoice now := by
  refine ⟨?_, ?_, ?_⟩
  · rintro (⟨-, claimed⟩ | claimed)
    · simp only [claimPaykitOrder, pollDue, beq_eq_false_iff_ne.mpr other, Bool.false_and,
        Bool.false_eq_true, if_false] at claimed
      split at claimed <;> cases claimed
    · simp [claimAttempt, found, tracked] at claimed
  · rintro ⟨-, preparing⟩
    rw [active] at preparing
    cases preparing
  · rintro (⟨stored, ended⟩ | ⟨-, paykit, -⟩ | ⟨-, -, paykit, -⟩)
    · rw [found] at stored
      cases stored
      exact ended watching
    · exact other paykit
    · exact other paykit

/-- Two workers ask Paykit to activate invoice 1. The refusal of one request
voids the bind, the buyer chooses Stripe and cancels, and the answer to the
other request reports the invoice published: the order tracks it again, with a
Stripe payment. -/
theorem live_invoice_unpolled :
    ∃ sys, Runs.Reachable (marketplace sampleReferences) Runs.anyStep sys ∧
      ∃ cell ∈ sys.cells.find? 7, 1 ∈ cell.everPinned ∧
        cell.book.order.paykitRequestState = some .pending ∧
        (∃ pins ∈ cell.book.order.paykitPins, pins.invoiceId = 1 ∧ 95 < pins.expiresAt) ∧
        ∀ now, ¬ cell.book.Polled 1 now ∧ ¬ cell.book.Preparing 1 ∧ ¬ cell.book.Over 1 now := by
  obtain ⟨sys, reached, cell, found, persisted, pending, pins, tracked, other, active, attempt,
      stored, watching⟩ :=
    Runs.exists_reachable_of_run (marketplace sampleReferences) rfl
      (doubledRequest ++ sampleBind 2 .stripe none none ++
        [ .order 7 90 (.cancel ⟨"buyer", 4⟩ "not needed" false)
        , .order 7 95 (.answerActivate 0 1 5000 (.activated true 5000)) ])
      (fun sys => ∃ cell ∈ sys.cells.find? 7, 1 ∈ cell.everPinned ∧
        cell.book.order.paykitRequestState = some .pending ∧
        (∃ pins ∈ cell.book.order.paykitPins, pins.invoiceId = 1 ∧ 95 < pins.expiresAt) ∧
        trackedByOrder cell.book.order 1 = true ∧ cell.book.payment.adapter ≠ .paykit ∧
        cell.book.order.paykitActivationState = some .active ∧
        ∃ attempt ∈ cell.book.attempts.find? 1, attempt.state = .watching)
      (Runs.meets_anyStep _ _ _) (by decide +kernel)
  exact ⟨sys, reached, cell, found, persisted, pending, pins,
    unpolled_of_other_rail tracked other active stored watching⟩

end MarketplaceService
