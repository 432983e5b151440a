import MarketplaceService.Coherence

/-!
Every committed step of the service on an order is a move of its standing.
Each transaction has one lemma that says which move it makes; the moves carry
all later arguments, so nothing after this module unfolds a transaction.
-/

namespace MarketplaceService

/-! Bookkeeping columns. -/

theorem Standing.Tidied.refl (standing : Standing) : standing.Tidied standing :=
  ⟨rfl, subset_rfl, subset_rfl⟩

theorem activateDue_modify {outbox : List OutboxRow} {row : ℕ} {change : OutboxRow → OutboxRow}
    (keeps : ∀ entry, (change entry).kind = entry.kind ∧
      (change entry).invoiceId = entry.invoiceId ∧
      ((change entry).deliveredAt = none → entry.deliveredAt = none)) :
    activateDue (outbox.modify row change) ⊆ activateDue outbox := by
  rintro invoice ⟨entry, member, activates, undelivered, named⟩
  obtain ⟨index, found⟩ := List.mem_iff_getElem?.mp member
  rw [List.getElem?_modify] at found
  obtain ⟨stored, present, rfl⟩ := Option.map_eq_some_iff.mp found
  refine ⟨stored, List.mem_iff_getElem?.mpr ⟨index, present⟩, ?_⟩
  by_cases here : row = index
  · simp only [here, if_true] at activates undelivered named
    have same := keeps stored
    exact ⟨same.1 ▸ activates, same.2.2 undelivered, same.2.1 ▸ named⟩
  · simp only [here, if_false] at activates undelivered named
    exact ⟨activates, undelivered, named⟩

theorem activateDue_stampDelivered (outbox : List OutboxRow) (row : ℕ) (now : Time) :
    activateDue (stampDelivered outbox row now) ⊆ activateDue outbox :=
  activateDue_modify fun _ => ⟨rfl, rfl, by simp⟩

theorem activateDue_stampActivateRows (outbox : List OutboxRow) (now : Time) :
    activateDue (stampActivateRows outbox now) ⊆ activateDue outbox := by
  rintro invoice ⟨entry, member, activates, undelivered, named⟩
  obtain ⟨stored, present, rfl⟩ := List.mem_map.mp member
  by_cases stamped : stored.kind = .paykitActivate ∧ stored.deliveredAt = none
  · simp [stamped] at undelivered
  · simp only [stamped, if_false] at activates undelivered named
    exact ⟨stored, present, activates, undelivered, named⟩

theorem activateDue_append_void {outbox : List OutboxRow} {entry : OutboxRow}
    (voids : entry.kind = .paykitVoid) : activateDue (outbox ++ [entry]) ⊆ activateDue outbox := by
  rintro invoice ⟨row, member, activates, undelivered, named⟩
  rcases List.mem_append.mp member with old | new
  · exact ⟨row, old, activates, undelivered, named⟩
  · rw [List.mem_singleton.mp new, voids] at activates
    cases activates

/-- The pins on the row get an attempt row; nothing else changes. -/
theorem recordReleasedAttempt_eq (book : OrderBook) (now : Time) :
    ∃ attempts, recordReleasedAttempt book now = { book with attempts := attempts } ∧
      ∀ invoice, (attempts.find? invoice).isSome = true ↔
        (book.attempts.find? invoice).isSome = true ∨
          book.order.paykitInvoiceId = some invoice := by
  unfold recordReleasedAttempt Order.paykitInvoiceId
  cases pinned : book.order.paykitPins with
  | none => exact ⟨book.attempts, rfl, by simp⟩
  | some pins =>
      simp only
      cases found : book.attempts.find? pins.invoiceId with
      | some attempt =>
          refine ⟨book.attempts, rfl, ?_⟩
          intro invoice
          constructor
          · exact .inl
          · rintro (present | same)
            · exact present
            · simp only [Option.map_some, Option.some.injEq] at same
              simp [← same, found]
      | none =>
          refine ⟨_, rfl, ?_⟩
          intro invoice
          rw [Keyed.Table.find?_set]
          by_cases here : invoice = pins.invoiceId
          · simp [here]
          · have other : pins.invoiceId ≠ invoice := fun same => here same.symm
            simp [here, other]

/-! The parts of a move. -/

theorem OrderBook.shows_row (book : OrderBook) : book.order.Shows book.standing :=
  ⟨rfl, rfl, rfl, rfl⟩

theorem acquirePaymentHold_moves {view after : View} {windowSeconds : ℕ} {source : HoldSource}
    {now : Time} (held : acquirePaymentHold view windowSeconds source now = .ok after) :
    Acquire view.inventory view.book.standing after.inventory after.book.standing ∧
      ∃ stockHeld deadline origin, after.book = { view.book with
        order.stockHeld := stockHeld
        order.holdExpiresAt := deadline
        order.holdSource := origin } := by
  unfold acquirePaymentHold at held
  simp only at held
  by_cases auctioned : view.book.order.auctionAggregateId.isSome = true
  · rw [if_pos auctioned] at held
    cases held
    exact ⟨.auction auctioned, _, _, _, rfl⟩
  · rw [if_neg auctioned] at held
    have single : view.book.order.auctionAggregateId = none := by simpa using auctioned
    by_cases pending : view.book.order.state = .pendingPayment
    · rw [if_neg (not_not.mpr pending)] at held
      by_cases stocked : view.book.order.stockHeld = true
      · rw [if_pos stocked] at held
        cases held
        exact ⟨.kept single pending stocked, _, _, _, rfl⟩
      · rw [if_neg stocked] at held
        split at held
        · cases held
        · rename_i taken acquired
          cases held
          have free : view.book.order.stockHeld = false := by simpa using stocked
          exact ⟨.taken single pending free acquired, _, _, _, rfl⟩
    · rw [if_pos pending] at held
      cases held

theorem refundRequired_moves {view after : View} {order : Order} {reason : String} {now : Time}
    (routed : refundRequired view order reason now = .ok after)
    (shows_row : order.Shows view.book.standing) :
    Refund now view.inventory view.book.standing after.inventory after.book.standing := by
  obtain ⟨opened, unresolved, book, stock⟩ := refundRequired_ok routed
  have reviewable : view.book.standing.reviewable := ⟨opened, by
    simp [OrderBook.standing, unresolved]⟩
  rw [book]
  rcases stock with ⟨pending, released⟩ | ⟨settled, same⟩
  · have stored : view.book.order.state = .pendingPayment := shows_row.state.symm.trans pending
    have cancelled := Refund.cancelled shows_row reviewable stored released
    simp only [pending, if_true, cancelPending, stored]
    exact cancelled
  · have stored : view.book.standing.state ≠ .pendingPayment := by
      rw [← shows_row.state]
      exact settled
    rw [same]
    simp only [settled, if_false]
    exact .kept reviewable stored

theorem confirmOrder_moves {view after : View} {order : Order} {now : Time} (payment : Payment)
    (confirmed : confirmOrder view order now = .ok after)
    (terms : order.terms = view.book.order.terms) (paid : payment.state = .confirmed)
    (kept : payment.adapter = view.book.payment.adapter ∧
      payment.resolution = view.book.payment.resolution ∧
      payment.charge = view.book.payment.charge) :
    Confirm now order view.inventory view.book.standing after.inventory
        { after.book with payment := payment }.standing ∧
      after.book = { view.book with
        order := after.book.order
        receipt := after.book.receipt } ∧
      after.book.payment = view.book.payment := by
  obtain ⟨payable, deliverable, unpaid, edition, inventory, stocked, rfl⟩ :=
    confirmOrder_ok confirmed
  refine ⟨?_, rfl, rfl⟩
  have moved : Confirm now order view.inventory view.book.standing inventory
      (view.book.standing.confirm order.paykitPins (confirmedState order)) :=
    .intro terms payable deliverable (by simp [OrderBook.standing, unpaid]) stocked
  have same : ({ view.book with
      payment := payment
      receipt := some (receiptOf order now)
      order := view.book.order.confirmed (confirmedState order) edition } : OrderBook).standing =
      view.book.standing.confirm order.paykitPins (confirmedState order) := by
    have denominated : (receiptOf order now).charge =
        (order.paykitPins.map PaykitPins.charge).getD view.book.standing.terms.charge := by
      change _ = (order.paykitPins.map PaykitPins.charge).getD view.book.order.terms.charge
      rw [← terms]
      cases pinned : order.paykitPins with
      | none => simp [receiptOf, Receipt.charge, Order.paykitTotalSats, pinned, Terms.charge,
          Order.terms]
      | some pins => simp [receiptOf, Receipt.charge, Order.paykitTotalSats, pinned,
          PaykitPins.charge]
    simp only [OrderBook.standing, Standing.confirm, Order.confirmed, paid, kept.1, kept.2.1,
      kept.2.2, Option.map_some]
    rw [denominated]
    rfl
  rw [← same] at moved
  exact moved

theorem Confirm.of_same {now : Time} {order : Order} {inventory after : Inventory}
    {standing other done : Standing} (confirmed : Confirm now order inventory standing after done)
    (terms : other.terms = standing.terms) (receipt : other.receipt = standing.receipt)
    (same : ∀ pins state, other.confirm pins state = standing.confirm pins state) :
    Confirm now order inventory other after done := by
  cases confirmed with
  | intro agrees payable deliverable unpaid stocked =>
      rw [← same]
      exact .intro (agrees.trans terms.symm) payable deliverable (receipt.trans unpaid) stocked

theorem Confirm.unmark {now : Time} {order : Order} {inventory after : Inventory}
    {standing other done : Standing} {mark : Standing → Standing}
    (confirmed : Confirm now order inventory other after done)
    (terms : standing.terms = other.terms) (receipt : standing.receipt = other.receipt)
    (same : ∀ pins state, mark (standing.confirm pins state) = other.confirm pins state) :
    ∃ plain, Confirm now order inventory standing after plain ∧ mark plain = done := by
  cases confirmed with
  | intro agrees payable deliverable unpaid stocked =>
      exact ⟨_, .intro (agrees.trans terms.symm) payable deliverable (receipt.trans unpaid)
        stocked, same _ _⟩

theorem Retake.unmark {now : Time} {inventory after : Inventory} {standing other done : Standing}
    {mark : Standing → Standing} (retaken : Retake now inventory other after done)
    (rows : ∀ order : Order, order.Shows other → order.Shows standing)
    (terms : standing.terms = other.terms) (receipt : standing.receipt = other.receipt)
    (same : ∀ pins state, mark (standing.confirm pins state) = other.confirm pins state) :
    ∃ plain, Retake now inventory standing after plain ∧ mark plain = done := by
  cases retaken with
  | intro shows_row reacquired stored confirmed =>
      obtain ⟨plain, confirm, marked⟩ := confirmed.unmark terms receipt same
      exact ⟨plain, .intro (rows _ shows_row) reacquired stored confirm, marked⟩

theorem OrderBook.with_payment (book : OrderBook) {payment : Payment}
    (same : book.payment = payment) : { book with payment := payment } = book := by
  rw [← same]

/-- The confirmation of an order whose stock `reacquire_hold` has retaken. -/
theorem retaken_moves {view held after : View} {order : Order} {now : Time} {payment : Payment}
    (shows_row : order.Shows view.book.standing)
    (ran : reacquireHold view order now = (.ok (), held))
    (confirmed : confirmOrder { held with book.payment := payment } held.book.order now =
      .ok after)
    (same_row : order = view.book.order)
    (paid : payment.state = .confirmed)
    (kept : payment.adapter = view.book.payment.adapter ∧
      payment.resolution = view.book.payment.resolution ∧
      payment.charge = view.book.payment.charge) :
    Retake now view.inventory view.book.standing after.inventory after.book.standing := by
  subst same_row
  obtain ⟨stock, written⟩ := reacquireHold_book ran
  have moved (row : Order) (stored : held.book = { view.book with order := row })
      (terms : row.terms = view.book.order.terms)
      (flag : row = if view.book.order.auctionAggregateId = none then
        { view.book.order with stockHeld := true } else view.book.order)
      (free : ∀ pins state, view.book.standing.confirm pins state =
        ({ view.book with order := row, payment := payment } : OrderBook).standing.confirm
          pins state) :
      Retake now view.inventory view.book.standing after.inventory after.book.standing := by
    rw [stored] at confirmed
    obtain ⟨confirm, -, untouched⟩ := confirmOrder_moves payment confirmed rfl paid ⟨rfl, rfl, rfl⟩
    rw [after.book.with_payment untouched] at confirm
    refine .intro shows_row stock flag (confirm.of_same ?_ rfl free)
    exact terms.symm
  have same_payment (row : Order) (terms : row.terms = view.book.order.terms)
      (labels : row.paymentMethod = view.book.order.paymentMethod ∧
        row.paykitRequestReference = view.book.order.paykitRequestReference ∧
        row.paykitRequestState = view.book.order.paykitRequestState ∧
        row.paykitActivationState = view.book.order.paykitActivationState ∧
        row.paykitPins = view.book.order.paykitPins ∧
        row.externalRefund = view.book.order.externalRefund ∧
        row.sighting = view.book.order.sighting)
      (pins : Option PaykitPins) (state : OrderState) :
      view.book.standing.confirm pins state =
        ({ view.book with order := row, payment := payment } : OrderBook).standing.confirm
          pins state := by
    obtain ⟨method, reference, request, activation, pinned, refund, sighting⟩ := labels
    simp [OrderBook.standing, OrderBook.ruling, Standing.confirm, kept.1, kept.2.1, kept.2.2,
      terms, method, reference, request, activation, pinned, refund, sighting]
  rcases written with ⟨-, single, book⟩ | ⟨auctioned, book⟩
  · refine moved { view.book.order with stockHeld := true } book rfl (by rw [if_pos single]) ?_
    exact same_payment _ rfl ⟨rfl, rfl, rfl, rfl, rfl, rfl, rfl⟩
  · have several : view.book.order.auctionAggregateId ≠ none := by
      have present := auctioned rfl
      intro single
      simp [single] at present
    refine moved view.book.order book rfl (by rw [if_neg several]) ?_
    exact same_payment _ rfl ⟨rfl, rfl, rfl, rfl, rfl, rfl, rfl⟩

theorem applyLateMoney_moves {view after : View} {now : Time} {outcome : LateMoneyOutcome}
    (applied : applyLateMoney view view.book.order now = .ok (outcome, after)) :
    Late now view.inventory view.book.standing after.inventory after.book.standing := by
  obtain ⟨-, routes⟩ := applyLateMoney_ok applied
  rcases routes with ⟨-, -, routed⟩ | ⟨-, -, pending, stocked, stamped⟩ |
    ⟨deliverable, unheld, result, held, ran, ends⟩
  · exact .undeliverable (refundRequired_moves routed view.book.shows_row)
  · obtain ⟨opened, unresolved, rfl⟩ := stampReviewReason_ok stamped
    exact .held ⟨opened, by simp [OrderBook.standing, unresolved]⟩ pending stocked
  · rcases ends with ⟨-, rfl, completed⟩ | ⟨-, rfl, routed⟩
    · obtain ⟨-, unresolved, -, confirmed⟩ := completeLateOrder_ok completed
      have written := (reacquireHold_book ran).2
      have payment : held.book.payment = view.book.payment := by
        rcases written with ⟨-, -, book⟩ | ⟨-, book⟩ <;> rw [book]
      rw [payment] at confirmed unresolved
      exact .completed unheld (by simp [OrderBook.standing, unresolved])
        (retaken_moves view.book.shows_row ran confirmed rfl rfl ⟨rfl, rfl, rfl⟩)
    · obtain ⟨stock, written⟩ := reacquireHold_book ran
      have book : held.book = view.book := by
        rcases written with ⟨done, -⟩ | ⟨-, book⟩
        · cases done
        · exact book
      have shows_row : view.book.order.Shows held.book.standing := by
        rw [book]
        exact view.book.shows_row
      have moved := refundRequired_moves routed shows_row
      rw [book] at moved
      exact .lost view.book.shows_row deliverable unheld stock moved

/-! Transactions. -/

/-- A committed step is a move, up to bookkeeping. -/
def Moves (references : References) (now : Time) (view : View) (action : OrderAction)
    (after : View) : Prop :=
  ∃ done, Move references now view.inventory view.book.standing action
      (action.returns view.book) after.inventory done ∧ done.Tidied after.book.standing

section Transactions

variable {references : References} {now : Time} {view after : View} {action : OrderAction}

theorem Moves.of_move
    (move : Move references now view.inventory view.book.standing action
      (action.returns view.book) after.inventory after.book.standing) :
    Moves references now view action after :=
  ⟨_, move, .refl _⟩

theorem Moves.stay (returns : action.returns view.book = [])
    (inventory : after.inventory = view.inventory)
    (standing : view.book.standing.Tidied after.book.standing) :
    Moves references now view action after := by
  refine ⟨view.book.standing, ?_, standing⟩
  rw [returns, inventory]
  exact .stay

theorem returns_of_rail {rail : Rail} (named : action.rail = some rail) (book : OrderBook) :
    action.returns book = [] := by
  cases action <;> first | rfl | cases named

theorem confirmAwaiting_moves {result : ConfirmResult}
    (ran : confirmAwaiting view now = .ok result) :
    match result with
    | .refused => True
    | .done after =>
        Settle now view.inventory view.book.standing after.inventory after.book.standing := by
  unfold confirmAwaiting at ran
  cases confirmed : confirmOrder view view.book.order now with
  | error failure =>
      rw [confirmed] at ran
      cases failure with
      | database constraint => cases ran
      | refused kind message =>
          cases ran
          trivial
      | stockUnavailable =>
          cases ran
          trivial
      | internal step =>
          cases ran
          trivial
  | ok confirmedView =>
      rw [confirmed] at ran
      obtain ⟨book, updated, written⟩ := Outcome.bind_ok ran
      cases Outcome.pure_ok written
      obtain ⟨rfl, -⟩ := updatePayment_ok updated
      have untouched : confirmedView.book.payment = view.book.payment := by
        obtain ⟨-, -, -, edition, inventory, -, rfl⟩ := confirmOrder_ok confirmed
        rfl
      obtain ⟨moved, -, -⟩ := confirmOrder_moves { confirmedView.book.payment with
        state := .confirmed
        revision := confirmedView.book.payment.revision + 1 } confirmed rfl rfl
        (by rw [untouched]; exact ⟨rfl, rfl, rfl⟩)
      exact .confirmed view.book.shows_row moved

/-! Fiat and Locks. -/

/-- What a fork on an awaiting or expired payment amounts to. -/
theorem Moves.of_settle (rail : action.rail = some .fiat ∨ action.rail = some .locks)
    (awaiting : view.book.payment.state = .awaitingEntitlement)
    (settled : Settle now view.inventory view.book.standing after.inventory after.book.standing) :
    Moves references now view action after := by
  apply Moves.of_move
  have returns : action.returns view.book = [] := by
    rcases rail with named | named <;> exact returns_of_rail named _
  rw [returns]
  exact .settle rail awaiting settled

theorem Moves.of_late (rail : action.rail = some .fiat ∨ action.rail = some .locks)
    (money : action.appliesMoney = true)
    (expired : view.book.payment.state = .expired)
    (late : Late now view.inventory view.book.standing after.inventory after.book.standing) :
    Moves references now view action after := by
  apply Moves.of_move
  have returns : action.returns view.book = [] := by
    rcases rail with named | named <;> exact returns_of_rail named _
  rw [returns]
  exact .late rail money expired late

theorem applyFiatPaid_moves {transactionRef : Option String} {verifiedBy : VerifiedBy}
    (applied : applyFiatPaid view transactionRef verifiedBy now = .ok (.done after)) :
    Moves references now view (.applyFiat transactionRef verifiedBy) after := by
  unfold applyFiatPaid at applied
  split at applied
  · rename_i expired
    obtain ⟨⟨outcome, settled⟩, late, written⟩ := Outcome.bind_ok applied
    cases Outcome.pure_ok written
    exact .of_late (.inl rfl) rfl expired (applyLateMoney_moves late)
  · split at applied
    · cases applied
      exact .stay rfl rfl (.refl _)
    · rename_i awaiting
      have awaits : view.book.payment.state = .awaitingEntitlement := by simpa using awaiting
      simp only at applied
      split at applied
      · obtain ⟨refunded, routed, written⟩ := Outcome.bind_ok applied
        cases Outcome.pure_ok written
        have moved := refundRequired_moves routed ⟨rfl, rfl, rfl, rfl⟩
        exact .of_settle (.inl rfl) awaits (.refunded moved)
      · exact .of_settle (.inl rfl) awaits (confirmAwaiting_moves applied)

theorem reviewAwaiting_settles {book reviewed : OrderBook} (inventory : Inventory)
    (ran : reviewAwaiting book now = .ok reviewed) :
    reviewed = book ∨ book.payment.state = .awaitingEntitlement ∧
      Settle now inventory book.standing inventory reviewed.standing := by
  unfold reviewAwaiting at ran
  rcases Outcome.ite_ok ran with ⟨awaiting, updated⟩ | ⟨-, same⟩
  · obtain ⟨rfl, -⟩ := updatePayment_ok updated
    exact .inr ⟨awaiting, .reviewed⟩
  · exact .inl same

theorem reviewAwaiting_moves {book : OrderBook}
    (ran : reviewAwaiting view.book now = .ok book) :
    Moves references now view .reviewFiat { view with book := book } := by
  rcases reviewAwaiting_settles view.inventory ran with rfl | ⟨awaiting, settled⟩
  · exact .stay rfl rfl (.refl _)
  · exact .of_settle (.inl rfl) awaiting settled

theorem markCorrelationCompleted_standing (book : OrderBook) :
    (markCorrelationCompleted book).standing = book.standing := by
  simp [markCorrelationCompleted, OrderBook.standing, OrderBook.ruling]

theorem applyCompletedLifecycle_moves
    (applied : applyCompletedLifecycle view now = .ok (.done after)) :
    Moves references now view .applyLocks after := by
  unfold applyCompletedLifecycle at applied
  split at applied
  · rename_i awaiting
    obtain ⟨result, ran, written⟩ := Outcome.bind_ok applied
    have moved := confirmAwaiting_moves ran
    cases result with
    | refused => cases Outcome.pure_ok written
    | done settled =>
        cases Outcome.pure_ok written
        refine .of_settle (.inr rfl) awaiting ?_
        rw [markCorrelationCompleted_standing]
        exact moved
  · split at applied
    · rename_i expired
      obtain ⟨⟨outcome, settled⟩, late, written⟩ := Outcome.bind_ok applied
      cases Outcome.pure_ok written
      refine .of_late (.inr rfl) rfl expired ?_
      rw [markCorrelationCompleted_standing]
      exact applyLateMoney_moves late
    · cases applied
      refine .stay rfl rfl ?_
      rw [markCorrelationCompleted_standing]
      exact .refl _

theorem locksReview_moves {book : OrderBook} (ran : locksReview view.book now = .ok book) :
    Moves references now view .reviewLocks { view with book := book } := by
  unfold locksReview at ran
  obtain ⟨reviewed, first, written⟩ := Outcome.bind_ok ran
  cases Outcome.pure_ok written
  rcases reviewAwaiting_settles view.inventory first with rfl | ⟨awaiting, settled⟩
  · refine .stay rfl rfl ?_
    rw [markCorrelationCompleted_standing]
    exact .refl _
  · refine .of_settle (.inr rfl) awaiting ?_
    rw [markCorrelationCompleted_standing]
    exact settled

theorem prepareLocks_moves {actor : Pubky} {windowSeconds : ℕ}
    (prepared : prepareLocks view actor windowSeconds now = .ok after) :
    Moves references now view (.prepareLocks actor windowSeconds) after := by
  unfold prepareLocks at prepared
  simp only at prepared
  obtain ⟨-, prepared⟩ := Outcome.guard_ok prepared
  obtain ⟨unlocked, prepared⟩ := Outcome.guard_ok prepared
  obtain ⟨awaiting, prepared⟩ := Outcome.guard_ok prepared
  obtain ⟨pending, prepared⟩ := Outcome.guard_ok prepared
  obtain ⟨-, prepared⟩ := Outcome.guard_ok prepared
  obtain ⟨unbound, prepared⟩ := Outcome.guard_ok prepared
  obtain ⟨priced, prepared⟩ := Outcome.guard_ok prepared
  obtain ⟨held, acquired, written⟩ := Outcome.bind_ok prepared
  cases Outcome.pure_ok written
  obtain ⟨taken, stockHeld, deadline, origin, book⟩ := acquirePaymentHold_moves acquired
  simp only [not_or, not_not] at priced
  have charged : view.book.standing.charge = view.book.standing.terms.charge := by
    simp [OrderBook.standing, Payment.charge, Terms.charge, Order.terms, priced]
  apply Moves.of_move
  exact .prepareLocks (by simpa [OrderBook.standing] using unbound)
    (by simpa [OrderBook.standing] using unlocked) (not_not.mp pending) (not_not.mp awaiting)
    charged taken

theorem registerLocks_moves {actor : Pubky} {book : OrderBook}
    (registered : registerLocks view.book actor now = .ok book) :
    Moves references now view (.registerLocks actor) { view with book := book } := by
  unfold registerLocks at registered
  obtain ⟨-, registered⟩ := Outcome.guard_ok registered
  obtain ⟨-, registered⟩ := Outcome.guard_ok registered
  cases correlated : view.book.locks with
  | none => simp [correlated] at registered
  | some correlation =>
      simp only [correlated] at registered
      obtain ⟨-, registered⟩ := Outcome.guard_ok registered
      obtain ⟨-, registered⟩ := Outcome.guard_ok registered
      obtain ⟨-, registered⟩ := Outcome.guard_ok registered
      cases registered
      have locked : view.book.standing.locks = true := by
        simp [OrderBook.standing, correlated]
      have same : ({ view.book with
          locks := some { correlation with registered := true }
          payment.revision := view.book.payment.revision + 1
          payment.adapter := .locks } : OrderBook).standing =
          { view.book.standing with adapter := .locks } := by
        simp [OrderBook.standing, OrderBook.ruling, correlated, Payment.charge]
      apply Moves.of_move
      change Move references now view.inventory view.book.standing _ [] view.inventory _
      rw [same]
      exact .registerLocks locked

/-! The Paykit poll. -/

theorem Order.checks_observed {order : Order} (checked : order.checks = true) :
    ∀ sats ∈ order.paykitObservedSats, 0 < sats := by
  intro sats frozen
  simp only [Option.mem_def] at frozen
  simp only [Order.checks, frozen, Option.all_some, Bool.and_eq_true, decide_eq_true_eq] at checked
  exact checked.1.1.1

theorem freezePaykitObservation_ok {book frozen : OrderBook} {observation : PaykitObservation}
    (ran : freezePaykitObservation book observation = .ok frozen) :
    ∃ observed, frozen = { book with order.paykitObservedSats := observed } ∧
      observed = book.order.paykitObservedSats.or observation.observedSats ∧
      (observed = book.order.paykitObservedSats ∨ ∀ sats ∈ observed, 0 < sats) := by
  unfold freezePaykitObservation at ran
  split at ran
  · rename_i unseen
    cases ran
    exact ⟨_, rfl, by simp [unseen], .inl rfl⟩
  · rename_i sats seen
    obtain ⟨-, ran⟩ := Outcome.guard_ok ran
    split at ran
    · rename_i present
      cases ran
      obtain ⟨before, frozen⟩ := Option.isSome_iff_exists.mp present
      exact ⟨_, rfl, by simp [frozen], .inl rfl⟩
    · rename_i absent
      obtain ⟨rfl, -, checked⟩ := updateOrder_ok ran
      have none_before : book.order.paykitObservedSats = none := by simpa using absent
      exact ⟨some sats, rfl, by simp [none_before, seen], .inr (Order.checks_observed checked)⟩

theorem freezes_of_frozen {book frozen : OrderBook} {observation : PaykitObservation}
    (checked : ∀ sats ∈ book.order.paykitObservedSats, 0 < sats)
    (ran : freezePaykitObservation book observation = .ok frozen) :
    ∃ observed, frozen = { book with order.paykitObservedSats := observed } ∧
      observed = book.order.paykitObservedSats.or observation.observedSats ∧
      book.standing.Freezes observed := by
  obtain ⟨observed, rfl, same, positive⟩ := freezePaykitObservation_ok ran
  refine ⟨observed, rfl, same, ?_, ?_⟩
  · intro sats before
    rw [same, show book.order.paykitObservedSats = some sats from before]
    rfl
  · rcases positive with unchanged | positive
    · rw [unchanged]
      exact checked
    · exact positive

theorem consumeReport_ok {book consumed : OrderBook} {report : Option Observation}
    {observation : PaykitObservation} (ran : consumeReport book report observation = .ok consumed) :
    ∃ stored observed, consumed = { book with
        order.paykitRequestState := some .confirmed
        order.sellerWindow := none
        order.paykitObservation := stored
        order.paykitObservedSats := observed } ∧
      book.standing.Freezes observed := by
  unfold consumeReport at ran
  obtain ⟨written, updated, frozen⟩ := Outcome.bind_ok ran
  obtain ⟨rfl, -, checked⟩ := updateOrder_ok updated
  obtain ⟨observed, rfl, -, froze⟩ := freezes_of_frozen (Order.checks_observed checked) frozen
  exact ⟨_, observed, rfl, froze.kept, froze.positive⟩

theorem consumeReport_standing {book consumed : OrderBook} {report : Option Observation}
    {observation : PaykitObservation} (ran : consumeReport book report observation = .ok consumed) :
    ∃ stored observed, consumed.standing = book.standing.report stored observed ∧
      book.standing.Freezes observed := by
  obtain ⟨stored, observed, rfl, froze⟩ := consumeReport_ok ran
  exact ⟨stored, observed, rfl, froze⟩

theorem Decided.sighting {before after : Standing} (decided : Decided before after) :
    after.sighting = before.sighting := by
  obtain ⟨state, held, payment, receipt, rfl, -⟩ := decided
  rfl

theorem Standing.Freezes.of_sighting {standing other : Standing} {observed : Option ℕ}
    (froze : other.Freezes observed) (same : other.sighting = standing.sighting) :
    standing.Freezes observed := by
  refine ⟨?_, froze.positive⟩
  rw [← same]
  exact froze.kept

theorem reviewAmountMismatch_settles {book reviewed : OrderBook} (inventory : Inventory)
    (ran : reviewAmountMismatch book now = .ok reviewed) :
    Settle now inventory book.standing inventory reviewed.standing := by
  obtain ⟨rfl, -⟩ := updatePayment_ok ran
  exact .reviewed

theorem applyOnTimePaykitPayment_moves {amountMatched : Bool} {observation : PaykitObservation}
    (rail : action.rail = some .poll)
    (outside : view.book.order.paykitRequestState ≠ some .awaitingSellerConfirmation)
    (awaiting : view.book.payment.state = .awaitingEntitlement)
    (applied : applyOnTimePaykitPayment view amountMatched observation now = .ok (.done after)) :
    Moves references now view action after := by
  have poll {settled : View} {report : Option Observation} {book : OrderBook}
      (decided : Settle now view.inventory view.book.standing settled.inventory
        settled.book.standing)
      (consumed : consumeReport settled.book report observation = .ok book) :
      Moves references now view action { settled with book := book } := by
    apply Moves.of_move
    rw [returns_of_rail rail]
    obtain ⟨seen, observed, standing, froze⟩ := consumeReport_standing consumed
    change Move references now view.inventory view.book.standing action [] settled.inventory
      book.standing
    rw [standing]
    exact .settlePoll rail awaiting (.inl outside) decided
      (froze.of_sighting decided.decided.sighting)
  unfold applyOnTimePaykitPayment at applied
  simp only at applied
  split at applied
  · obtain ⟨reviewed, mismatch, rest⟩ := Outcome.bind_ok applied
    obtain ⟨book, consumed, written⟩ := Outcome.bind_ok rest
    cases Outcome.pure_ok written
    have decided := reviewAmountMismatch_settles view.inventory mismatch
    exact @poll ⟨view.inventory, reviewed⟩ _ _ decided consumed
  · split at applied
    · obtain ⟨reviewed, mismatch, rest⟩ := Outcome.bind_ok applied
      obtain ⟨book, consumed, written⟩ := Outcome.bind_ok rest
      cases Outcome.pure_ok written
      have decided := reviewAmountMismatch_settles view.inventory mismatch
      exact @poll ⟨view.inventory, reviewed⟩ _ _ decided consumed
    · split at applied
      · obtain ⟨routed, refunded, rest⟩ := Outcome.bind_ok applied
        obtain ⟨book, consumed, written⟩ := Outcome.bind_ok rest
        cases Outcome.pure_ok written
        exact poll (.refunded (refundRequired_moves refunded view.book.shows_row)) consumed
      · cases confirmed : confirmOrder view view.book.order now with
        | error failure =>
            rw [confirmed] at applied
            cases failure <;> cases applied
        | ok confirmedView =>
            simp only [confirmed] at applied
            obtain ⟨paid, updated, rest⟩ := Outcome.bind_ok applied
            obtain ⟨book, consumed, written⟩ := Outcome.bind_ok rest
            cases Outcome.pure_ok written
            obtain ⟨rfl, -⟩ := updatePayment_ok updated
            have untouched : confirmedView.book.payment = view.book.payment := by
              obtain ⟨-, -, -, edition, inventory, -, rfl⟩ := confirmOrder_ok confirmed
              rfl
            obtain ⟨moved, -, -⟩ := confirmOrder_moves { confirmedView.book.payment with
              state := .confirmed
              revision := confirmedView.book.payment.revision + 1 } confirmed rfl rfl
              (by rw [untouched]; exact ⟨rfl, rfl, rfl⟩)
            exact @poll ⟨confirmedView.inventory, { confirmedView.book with
              payment := { confirmedView.book.payment with
                state := .confirmed
                revision := confirmedView.book.payment.revision + 1 } }⟩ _ _
              (.confirmed view.book.shows_row moved) consumed

theorem applyConfirmedPaykitPayment_moves {row : ClaimedPaykitOrder} {amountMatched late : Bool}
    {observation : PaykitObservation} (rail : action.rail = some .poll)
    (money : row.pinsPresent = true → action.appliesMoney = true)
    (flagged : late = true → action.reportsLate = true)
    (applied : applyConfirmedPaykitPayment view row amountMatched observation late now =
      .ok (.done after)) :
    Moves references now view action after := by
  have returns := returns_of_rail rail view.book
  unfold applyConfirmedPaykitPayment at applied
  split at applied
  · cases applied
    exact .stay returns rfl (.refl _)
  · rename_i outside
    split at applied
    · rename_i open_payment
      obtain ⟨settled, ran, written⟩ := Outcome.bind_ok applied
      cases Outcome.pure_ok written
      unfold applyLatePaykitPayment at ran
      split at ran
      · cases ran
        exact .stay returns rfl (.refl _)
      · rename_i pinned
        have pins : row.pinsPresent = true := by simpa using pinned
        simp only at ran
        obtain ⟨book, consumed, rest⟩ := Outcome.bind_ok ran
        obtain ⟨⟨outcome, last⟩, decided, done⟩ := Outcome.bind_ok rest
        cases Outcome.pure_ok done
        have moved := applyLateMoney_moves decided
        obtain ⟨seen, observed, standing, froze⟩ := consumeReport_standing consumed
        rw [standing] at moved
        apply Moves.of_move
        rw [returns]
        rcases open_payment with expired | ⟨late_report, awaiting⟩
        · refine .latePoll rail (money pins) (.inr expired) outside froze moved fun awaiting => ?_
          rw [show view.book.standing.payment = .expired from expired] at awaiting
          cases awaiting
        · exact .latePoll rail (money pins) (.inl awaiting) outside froze moved
            fun _ => flagged late_report
    · split at applied
      · cases applied
        exact .stay returns rfl (.refl _)
      · rename_i awaiting
        exact applyOnTimePaykitPayment_moves rail outside (not_not.mp awaiting) applied

theorem settleFallback_moves {row : ClaimedPaykitOrder} {amountMatched : Bool}
    {observation : PaykitObservation} {book : OrderBook}
    (ran : settleFallback view.book amountMatched observation now = .ok book) :
    Moves references now view (.settleRefused row amountMatched observation)
      { view with book := book } := by
  unfold settleFallback at ran
  apply Moves.of_move
  change Move references now view.inventory view.book.standing _ [] view.inventory book.standing
  simp only at ran
  split at ran
  · rename_i awaiting
    obtain ⟨reviewed, updated, consumed⟩ := Outcome.bind_ok ran
    obtain ⟨rfl, -⟩ := updatePayment_ok updated
    obtain ⟨seen, observed, standing, froze⟩ := consumeReport_standing consumed
    rw [standing]
    exact .settlePoll rfl awaiting (.inr rfl) .reviewed (froze.of_sighting rfl)
  · rename_i advanced
    obtain ⟨same, kept, consumed⟩ := Outcome.bind_ok ran
    cases kept
    obtain ⟨seen, observed, standing, froze⟩ := consumeReport_standing consumed
    rw [standing]
    exact .fallback advanced froze

theorem markPaykitDetected_moves {row : ClaimedPaykitOrder} (rail : action.rail = some .poll) :
    Moves references now view action { view with book := markPaykitDetected view.book row } := by
  unfold markPaykitDetected
  by_cases seen : row.paykitRequestState ≠ .detected ∧
      view.book.order.paykitRequestState = some .pending
  · rw [if_pos seen]
    apply Moves.of_move
    rw [returns_of_rail rail]
    exact .detect rail seen.2
  · rw [if_neg seen]
    exact .stay (returns_of_rail rail view.book) rfl (.refl _)

theorem refreshSellerConfirmationFacts_moves {report : Observation}
    {observation : PaykitObservation} (rail : action.rail = some .poll)
    (amount : action.reportedSats = some report.observedSats) :
    Moves references now view action { view with
      book := (refreshSellerConfirmationFacts view.book report observation).getD view.book } := by
  unfold refreshSellerConfirmationFacts
  split
  · rename_i request
    apply Moves.of_move
    rw [returns_of_rail rail]
    exact .refresh rail request (.inl amount)
  · exact .stay (returns_of_rail rail view.book) rfl (.refl _)

theorem enterSellerWindow_moves {report : Observation} {observation : PaykitObservation}
    (rail : action.rail = some .poll) (entry : action.entersWindow = some report.amountMatched)
    (amount : action.reportedSats = some report.observedSats)
    (reports : report.observedSats = observation.observedSats)
    (awaiting : view.book.payment.state = .awaitingEntitlement)
    (entered : enterSellerWindow view report observation now = .ok after) :
    Moves references now view action after := by
  have returns := returns_of_rail rail view.book
  unfold enterSellerWindow at entered
  simp only at entered
  split at entered
  · rename_i reported
    obtain ⟨stamped, updated, rest⟩ := Outcome.bind_ok entered
    obtain ⟨frozen, freeze, last⟩ := Outcome.bind_ok rest
    obtain ⟨observed, standing, first, froze⟩ : ∃ observed,
        frozen.standing = { view.book.standing with
          request := some .awaitingSellerConfirmation
          sighting :=
            { observation := some report
              observed := observed
              window := some
                { enteredAt := now, deadline := now + sellerConfirmationWindowSeconds } } } ∧
        observed = view.book.standing.sighting.observed.or report.observedSats ∧
        view.book.standing.Freezes observed := by
      obtain ⟨rfl, -, checked⟩ := updateOrder_ok updated
      obtain ⟨observed, rfl, first, froze⟩ :=
        freezes_of_frozen (Order.checks_observed checked) freeze
      rw [← reports] at first
      exact ⟨observed, rfl, first, froze.kept, froze.positive⟩
    apply Moves.of_move
    rw [returns]
    cases auctioned : view.book.order.auctionAggregateId with
    | none =>
        simp only [auctioned] at last
        cases Outcome.pure_ok last
        simp only [standing]
        refine .enterWindow rail entry reported awaiting froze first ?_
        simp [Terms.extend, OrderBook.standing, Order.terms, auctioned]
    | some auction =>
        simp only [auctioned] at last
        cases Outcome.pure_ok last
        simp only [standing]
        refine .enterWindow rail entry reported awaiting froze first ?_
        simp [Terms.extend, OrderBook.standing, Order.terms, auctioned]
  · cases entered
    exact refreshSellerConfirmationFacts_moves rail amount

theorem applySharedManualObservation_moves {row : ClaimedPaykitOrder}
    {confirmed amountMatched : Bool} {observation : PaykitObservation}
    (rail : action.rail = some .poll) (entry : action.entersWindow = some amountMatched)
    (amount : action.reportedSats = some observation.observedSats)
    (applied : applySharedManualObservation view row confirmed amountMatched observation now =
      .ok (.done after)) :
    Moves references now view action after := by
  unfold applySharedManualObservation at applied
  split at applied
  · cases applied
    exact .stay (returns_of_rail rail _) rfl (.refl _)
  · split at applied
    · cases applied
    · rename_i awaiting
      simp only at applied
      obtain ⟨entered, ran, written⟩ := Outcome.bind_ok applied
      cases Outcome.pure_ok written
      exact enterSellerWindow_moves rail entry amount rfl (not_not.mp awaiting) ran

theorem markSharedManualDisappeared_moves (rail : action.rail = some .poll)
    (gone : action.reportsGone = true) :
    Moves references now view action
      { view with book := markSharedManualDisappeared view.book } := by
  have returns := returns_of_rail rail view.book
  unfold markSharedManualDisappeared
  split
  · exact .stay returns rfl (.refl _)
  · rename_i observation stored
    split
    · rename_i request
      apply Moves.of_move
      rw [returns]
      exact .refresh rail request (.inr ⟨gone, observation, stored, rfl⟩)
    · exact .stay returns rfl (.refl _)

theorem refreshInsideSellerWindow_moves {confirmed amountMatched : Bool}
    {observation : PaykitObservation} (rail : action.rail = some .poll)
    (amount : action.reportedSats = some observation.observedSats) :
    Moves references now view action { view with
      book := refreshInsideSellerWindow view.book confirmed amountMatched observation now } := by
  unfold refreshInsideSellerWindow
  split
  · exact refreshSellerConfirmationFacts_moves rail amount
  · exact .stay (returns_of_rail rail view.book) rfl (.refl _)

theorem applyReportInsideSellerWindow_moves {row : ClaimedPaykitOrder}
    {outcome : PaykitStatusOutcome} :
    Moves references now view (.applyPoll row outcome)
      { view with book := applyReportInsideSellerWindow view.book outcome now } := by
  have stays : Moves references now view (.applyPoll row outcome) view :=
    .stay rfl rfl (.refl _)
  unfold applyReportInsideSellerWindow
  cases outcome with
  | confirmed amountMatched facts =>
      simp only
      split
      · exact stays
      · exact refreshInsideSellerWindow_moves rfl rfl
  | detected facts =>
      simp only
      split
      · exact stays
      · exact refreshInsideSellerWindow_moves rfl rfl
  | undetected => exact markSharedManualDisappeared_moves rfl rfl
  | notFound => exact stays
  | unavailable => exact stays

/-! Activation. -/

theorem returns_of_answer {invoice : InvoiceId} (answer : action.answersAbout = some invoice)
    (book : OrderBook) : action.returns book = [] := by
  cases action <;> first | rfl | cases answer

theorem OrderAction.answersAbout_of_prepare {invoice : InvoiceId}
    (answer : action.answersPrepare = some invoice) : action.answersAbout = some invoice := by
  cases action <;> first | exact answer | cases answer

theorem stampDelivered_tidied (book : OrderBook) (row : ℕ) (now : Time) :
    book.standing.Tidied { book with outbox := stampDelivered book.outbox row now }.standing :=
  ⟨rfl, subset_rfl, activateDue_stampDelivered book.outbox row now⟩

theorem Moves.stamped {inventory : Inventory} {book : OrderBook} {row : ℕ}
    (move : Moves references now view action ⟨inventory, book⟩) :
    Moves references now view action
      ⟨inventory, { book with outbox := stampDelivered book.outbox row now }⟩ := by
  obtain ⟨done, moved, tidied⟩ := move
  refine ⟨done, moved, ?_⟩
  exact ⟨tidied.same, tidied.watched,
    (activateDue_stampDelivered book.outbox row now).trans tidied.due⟩

theorem voidPrepareEffects_moves {row : ℕ} {invoice : InvoiceId}
    (answer : action.answersPrepare = some invoice) (voids : action.voidsPrepare = true)
    (voided : voidPrepareEffects view row now = .ok after) :
    Moves references now view action after := by
  have returns := returns_of_answer (OrderAction.answersAbout_of_prepare answer) view.book
  unfold voidPrepareEffects at voided
  simp only at voided
  split at voided
  · cases voided
    exact .stay returns rfl (stampDelivered_tidied view.book row now)
  · rename_i preparing
    obtain ⟨attempts, recorded, keys⟩ := recordReleasedAttempt_eq view.book now
    rw [recorded] at voided
    have moved (inventory : Inventory)
        (released : (if view.book.order.stockHeld then
          orRollback (releaseLines .reserved view.book.order.lines view.inventory)
          else .ok view.inventory) = .ok inventory) :
        Move references now view.inventory view.book.standing action [] inventory
          view.book.standing.voidPrepare :=
      .voidPrepare answer voids view.book.shows_row (not_not.mp preparing) released
    split at voided
    · rename_i held
      obtain ⟨inventory, released, written⟩ := Outcome.bind_ok voided
      cases Outcome.pure_ok written
      have move := moved inventory (by rw [if_pos held]; exact released)
      rw [← returns] at move
      refine ⟨_, move, rfl, ?_,
        activateDue_stampDelivered view.book.outbox row now⟩
      exact fun invoice watched => (keys invoice).mpr watched
    · rename_i free
      obtain ⟨inventory, same, written⟩ := Outcome.bind_ok voided
      cases Outcome.pure_ok written
      have move := moved inventory (by rw [if_neg free]; exact same)
      rw [← returns] at move
      refine ⟨_, move, rfl, ?_,
        activateDue_stampDelivered view.book.outbox row now⟩
      exact fun invoice watched => (keys invoice).mpr watched

theorem flipActive_standing {book flipped : OrderBook} (ran : flipActive book = .ok flipped) :
    flipped.standing = book.standing.activate := by
  obtain ⟨rfl, -⟩ := updateOrder_ok ran
  rfl

theorem trackInvoiceLiveAfterVoid_moves {invoice : InvoiceId} {book : OrderBook}
    (answer : action.answersAbout = some invoice) (live : action.findsLive = some invoice)
    (tracked : trackInvoiceLiveAfterVoid view.book invoice = .ok book) :
    Moves references now view action { view with book := book } := by
  have returns := returns_of_answer answer view.book
  unfold trackInvoiceLiveAfterVoid at tracked
  split at tracked
  · rename_i lost
    obtain ⟨current, voided, settled⟩ := lost
    obtain ⟨active, updated, rest⟩ := Outcome.bind_ok tracked
    obtain ⟨rfl, -⟩ := updateOrder_ok updated
    have move := @Move.track references now view.inventory view.book.standing action invoice
      answer current voided settled live
    apply Moves.of_move
    rw [returns]
    split at rest
    · rename_i open_payment
      obtain ⟨rfl, -⟩ := updatePayment_ok rest
      have paykit : view.book.standing.adapter = .paykit := open_payment.1
      have awaiting : view.book.standing.activate.payment = .awaitingEntitlement := open_payment.2
      rw [if_pos paykit, Standing.lapse, if_pos awaiting] at move
      exact move
    · rename_i closed
      cases Outcome.pure_ok rest
      by_cases paykit : view.book.standing.adapter = .paykit
      · have advanced : ¬ view.book.standing.activate.payment = .awaitingEntitlement :=
          fun awaiting => closed ⟨paykit, awaiting⟩
        rw [if_pos paykit, Standing.lapse, if_neg advanced] at move
        exact move
      · rw [if_neg paykit] at move
        exact move
  · cases tracked
    exact .stay returns rfl (.refl _)

theorem activated_moves {invoice : InvoiceId} {book : OrderBook}
    (answer : action.answersPrepare = some invoice)
    (preparing : view.book.order.paykitActivationState = some .preparing)
    (flipped : flipActive view.book = .ok book) :
    Moves references now view action { view with book := book } := by
  apply Moves.of_move
  rw [returns_of_answer (OrderAction.answersAbout_of_prepare answer)]
  change Move references now view.inventory view.book.standing action [] view.inventory
    book.standing
  rw [flipActive_standing flipped]
  exact .activate answer preparing

theorem applyActivateAnswer_moves {row totalSats : ℕ} {invoice : InvoiceId}
    {answer : ActivateAnswer}
    (applied : applyActivateAnswer view row invoice totalSats answer now = .ok after) :
    Moves references now view (.answerActivate row invoice totalSats answer) after := by
  have stays : Moves references now view (.answerActivate row invoice totalSats answer) view :=
    .stay rfl rfl (.refl _)
  have voids (refused : (OrderAction.answerActivate row invoice totalSats answer).voidsPrepare =
      true) (voided : voidPrepareEffects view row now = .ok after) :
      Moves references now view (.answerActivate row invoice totalSats answer) after :=
    @voidPrepareEffects_moves references now view after
      (.answerActivate row invoice totalSats answer)
      row invoice rfl refused voided
  unfold applyActivateAnswer at applied
  cases answer with
  | activated observing activatedTotal =>
      simp only at applied
      split at applied
      · cases applied
        exact stays
      · rename_i observed
        split at applied
        · rename_i other
          refine voids ?_ applied
          simp only [Bool.not_eq_true', Bool.not_eq_false] at observed
          simp [OrderAction.voidsPrepare, observed, other]
        · rename_i same
          split at applied
          · rename_i preparing
            obtain ⟨book, flipped, written⟩ := Outcome.bind_ok applied
            cases Outcome.pure_ok written
            exact Moves.stamped
              (@activated_moves references now view _ invoice book rfl preparing flipped)
          · obtain ⟨book, tracked, written⟩ := Outcome.bind_ok applied
            cases Outcome.pure_ok written
            have live : (OrderAction.answerActivate row invoice totalSats
                (.activated observing activatedTotal)).findsLive = some invoice := by
              simp only [Bool.not_eq_true', Bool.not_eq_false] at observed
              exact if_pos ⟨observed, not_not.mp same⟩
            exact Moves.stamped (@trackInvoiceLiveAfterVoid_moves references now view _ invoice book
              rfl live tracked)
  | error failure =>
      cases failure with
      | unavailable =>
          cases applied
          exact stays
      | prepareExpired => exact voids rfl applied
      | invoiceFinalized => exact voids rfl applied
      | unknownInvoice => exact voids rfl applied
      | activationTotalMismatch => exact voids rfl applied
      | stackIdentityMismatch => exact voids rfl applied
      | unexpectedRejection => exact voids rfl applied

theorem applyVoidAnswer_moves {row : ℕ} {invoice : InvoiceId} {answer : VoidAnswer}
    {book : OrderBook} (applied : applyVoidAnswer view.book row invoice answer now = .ok book) :
    Moves references now view (.answerVoid row invoice answer) { view with book := book } := by
  have stamps : Moves references now view (.answerVoid row invoice answer)
      { view with book := { view.book with outbox := stampDelivered view.book.outbox row now } } :=
    .stay rfl rfl (stampDelivered_tidied view.book row now)
  unfold applyVoidAnswer at applied
  cases answer with
  | voided =>
      cases applied
      exact stamps
  | error failure =>
      cases failure with
      | unavailable =>
          cases applied
          exact .stay rfl rfl (.refl _)
      | invoiceFinalized =>
          obtain ⟨live, tracked, written⟩ := Outcome.bind_ok applied
          cases Outcome.pure_ok written
          exact Moves.stamped (@trackInvoiceLiveAfterVoid_moves references now view _ invoice live
            rfl rfl tracked)
      | prepareExpired =>
          cases applied
          exact stamps
      | unknownInvoice =>
          cases applied
          exact stamps
      | activationTotalMismatch =>
          cases applied
          exact stamps
      | stackIdentityMismatch =>
          cases applied
          exact stamps
      | unexpectedRejection =>
          cases applied
          exact stamps

/-! Expiry. -/

theorem expireHeldOrder_ok {awaiting : Bool}
    (expired : expireHeldOrder view awaiting now = .ok after) :
    releaseUnpaidHold view.inventory view.book.order now = .ok after.inventory ∧
      after.book = { view.book with
        payment :=
          if awaiting then { view.book.payment with
            state := .expired
            revision := view.book.payment.revision + 1 }
          else view.book.payment
        order.state := .cancelled
        order.revision := view.book.order.revision + 1
        order.cancellationReason := some "payment window elapsed"
        order.stockHeld := false
        order.holdExpiresAt := none } := by
  unfold expireHeldOrder at expired
  simp only at expired
  cases awaiting with
  | true =>
      simp only [if_true] at expired
      obtain ⟨book, updated, rest⟩ := Outcome.bind_ok expired
      obtain ⟨inventory, released, written⟩ := Outcome.bind_ok rest
      obtain ⟨rfl, -⟩ := updatePayment_ok updated
      cases Outcome.pure_ok written
      exact ⟨released, rfl⟩
  | false =>
      simp only [Bool.false_eq_true, if_false] at expired
      obtain ⟨book, same, rest⟩ := Outcome.bind_ok expired
      obtain ⟨inventory, released, written⟩ := Outcome.bind_ok rest
      cases same
      cases Outcome.pure_ok written
      exact ⟨released, rfl⟩

theorem expireDuePaymentWindow_moves (expired : expireDuePaymentWindow view now = .ok after) :
    Moves references now view .expireWindow after := by
  unfold expireDuePaymentWindow at expired
  split at expired
  · rename_i due
    simp only [heldDueOrder, Bool.and_eq_true, Bool.or_eq_true, beq_iff_eq, bne_iff_ne] at due
    obtain ⟨⟨⟨⟨⟨pending, held⟩, -⟩, settled⟩, outside⟩, open_payment⟩ := due
    obtain ⟨released, book⟩ := expireHeldOrder_ok expired
    have move := @Move.expireHeld references now view.inventory view.book.standing
      view.book.order after.inventory view.book.shows_row pending held settled outside
      (by rcases open_payment with (awaiting | detected) | lapsed
          · exact .inl awaiting
          · exact .inr (.inl detected)
          · exact .inr (.inr lapsed)) released
    apply Moves.of_move
    change Move references now view.inventory view.book.standing _ [] after.inventory _
    rw [book]
    by_cases awaiting : view.book.payment.state = .awaitingEntitlement
    · have lapse : view.book.standing.lapse = view.book.standing.pay .expired :=
        if_pos awaiting
      rw [lapse] at move
      simp only [awaiting, beq_self_eq_true, if_true]
      exact move
    · have lapse : view.book.standing.lapse = view.book.standing := if_neg awaiting
      rw [lapse] at move
      have other : (view.book.payment.state == .awaitingEntitlement) = false := by
        simpa using awaiting
      simp only [other, Bool.false_eq_true, if_false]
      exact move
  · cases expired
    exact .stay rfl rfl (.refl _)

theorem expireIdleUnboundCheckout_moves {window : ℕ} {book : OrderBook}
    (expired : expireIdleUnboundCheckout view.book window now = .ok book) :
    Moves references now view (.expireIdle window) { view with book := book } := by
  unfold expireIdleUnboundCheckout at expired
  split at expired
  · rename_i due
    simp only [idleUnboundOrder, Bool.and_eq_true, beq_iff_eq, Bool.not_eq_true',
      Option.isNone_iff_eq_none, decide_eq_true_eq] at due
    obtain ⟨⟨⟨⟨⟨⟨pending, free⟩, unbound⟩, single⟩, unstamped⟩, -⟩, awaiting⟩ := due
    obtain ⟨lapsed, updated, written⟩ := Outcome.bind_ok expired
    obtain ⟨rfl, -⟩ := updatePayment_ok updated
    cases Outcome.pure_ok written
    apply Moves.of_move
    exact .expireIdle pending free unbound single unstamped awaiting
  · cases expired
    exact .stay rfl rfl (.refl _)

theorem voidAndExpirePreparingOrder_moves {row : ℕ} {enqueue : Bool} {invoice : InvoiceId}
    (answer : action.answersPrepare = some invoice) (leased : action.answersLease = true)
    (voided : voidAndExpirePreparingOrder view row enqueue now = .ok after) :
    Moves references now view action after := by
  unfold voidAndExpirePreparingOrder at voided
  obtain ⟨expired, ran, rest⟩ := Outcome.bind_ok voided
  obtain ⟨released, book⟩ := expireHeldOrder_ok ran
  obtain ⟨preparing, rest⟩ := Outcome.guard_ok rest
  have labelled : view.book.order.paykitActivationState = some .preparing := by
    have same : expired.book.order.paykitActivationState =
        view.book.order.paykitActivationState := by rw [book]
    rw [← same]
    exact not_not.mp preparing
  simp only at rest
  have move := @Move.expirePreparing references now view.inventory view.book.standing action
    invoice view.book.order expired.inventory answer view.book.shows_row labelled released leased
  rw [← returns_of_answer (OrderAction.answersAbout_of_prepare answer) view.book] at move
  obtain ⟨attempts, recorded, keys⟩ := recordReleasedAttempt_eq { expired.book with
    order.revision := expired.book.order.revision + 1
    order.paykitActivationState := some .voided
    order.paykitRequestState := none } now
  rw [recorded] at rest
  have watched : ((view.book.standing.pay .expired).close .cancelled).dropRequest.watched ⊆
      { invoice | (attempts.find? invoice).isSome = true } := by
    intro other member
    apply (keys other).mpr
    rw [book]
    exact member
  have tidied (outbox : List OutboxRow) (due : activateDue outbox ⊆ activateDue view.book.outbox) :
      ((view.book.standing.pay .expired).close .cancelled).dropRequest.Tidied
        ({ expired.book with
          order.revision := expired.book.order.revision + 1
          order.paykitActivationState := some .voided
          order.paykitRequestState := none
          attempts := attempts
          outbox := outbox } : OrderBook).standing := by
    rw [book]
    exact ⟨rfl, watched, due⟩
  have same_outbox : expired.book.outbox = view.book.outbox := by rw [book]
  cases enqueue with
  | true =>
      simp only [if_true] at rest
      split at rest
      · cases rest
      · obtain ⟨queued, same, written⟩ := Outcome.bind_ok rest
        cases same
        cases Outcome.pure_ok written
        refine ⟨_, move, tidied _ ?_⟩
        apply (activateDue_stampDelivered _ _ _).trans
        rw [same_outbox]
        exact activateDue_append_void rfl
  | false =>
      simp only [Bool.false_eq_true, if_false] at rest
      obtain ⟨queued, same, written⟩ := Outcome.bind_ok rest
      cases same
      cases Outcome.pure_ok written
      refine ⟨_, move, tidied _ ?_⟩
      apply (activateDue_stampDelivered _ _ _).trans
      rw [same_outbox]

theorem applyPreparingVoidAnswer_moves {row : ℕ} {pin : PreparingPin} {answer : VoidAnswer}
    (applied : applyPreparingVoidAnswer view row pin answer now = .ok after) :
    Moves references now view (.answerPreparingVoid row pin answer) after := by
  have voids {enqueue : Bool}
      (voided : voidAndExpirePreparingOrder view row enqueue now = .ok after) :
      Moves references now view (.answerPreparingVoid row pin answer) after :=
    @voidAndExpirePreparingOrder_moves references now view after _ row enqueue pin.invoiceId rfl rfl
      voided
  unfold applyPreparingVoidAnswer at applied
  cases answer with
  | voided => exact voids applied
  | error failure =>
      cases failure with
      | invoiceFinalized =>
          simp only at applied
          split at applied
          · rename_i preparing
            obtain ⟨book, flipped, written⟩ := Outcome.bind_ok applied
            cases Outcome.pure_ok written
            exact Moves.stamped (@activated_moves references now view _ pin.invoiceId book rfl
              preparing
              flipped)
          · obtain ⟨book, same, written⟩ := Outcome.bind_ok applied
            cases same
            cases Outcome.pure_ok written
            exact .stay rfl rfl (stampDelivered_tidied view.book row now)
      | unavailable =>
          simp only at applied
          split at applied
          · exact voids applied
          · cases applied
            refine .stay rfl rfl ⟨rfl, subset_rfl, ?_⟩
            exact activateDue_modify fun _ => ⟨rfl, rfl, id⟩
      | prepareExpired => exact voids applied
      | unknownInvoice => exact voids applied
      | activationTotalMismatch => exact voids applied
      | stackIdentityMismatch => exact voids applied
      | unexpectedRejection => exact voids applied

/-! Binding. -/

theorem bindOrder_tidied (book : OrderBook) (method : PaymentMethod) (reference : Option Reference)
    (adapter : Adapter) :
    (book.standing.bind method reference adapter).Tidied
        (bindOrder book method reference adapter now).standing ∧
      (bindOrder book method reference adapter now).outbox = book.outbox := by
  obtain ⟨attempts, recorded, keys⟩ := recordReleasedAttempt_eq book now
  unfold bindOrder
  simp only [recorded]
  exact ⟨⟨rfl, fun invoice watched => (keys invoice).mpr watched, subset_rfl⟩, trivial⟩

theorem bindFiat_moves {request : BindRequest} {fiat : FiatMethod} {configured checkoutUrl : Bool}
    (known : fiat = stripeMethod ∨ fiat = paypalMethod) (chosen : request.method = fiat.method)
    (unbound : view.book.order.paymentMethod = none)
    (pending : view.book.order.state = .pendingPayment)
    (awaiting : view.book.payment.state = .awaitingEntitlement)
    (unlocked : view.book.payment.adapter ≠ .locks)
    (bound : bindFiat view fiat configured checkoutUrl request.windowSeconds now = .ok after) :
    Moves references now view (.bind request) after := by
  unfold bindFiat at bound
  obtain ⟨held, acquired, rest⟩ := Outcome.bind_ok bound
  obtain ⟨-, rest⟩ := Outcome.guard_ok rest
  obtain ⟨-, rest⟩ := Outcome.guard_ok rest
  obtain ⟨-, rest⟩ := Outcome.guard_ok rest
  cases Outcome.pure_ok rest
  obtain ⟨taken, -⟩ := acquirePaymentHold_moves acquired
  exact ⟨_, .bindFiat known chosen unbound pending awaiting unlocked taken,
    (bindOrder_tidied held.book fiat.method none fiat.adapter).1⟩

theorem preparedPins_invoice {amount : BitcoinAmount} {phase1 : Phase1} {expiresAt : Time}
    {pins : PaykitPins} (prepared : preparedPins amount phase1 expiresAt = .ok pins) :
    pins.invoiceId = phase1.invoiceId := by
  unfold preparedPins at prepared
  split at prepared
  · split at prepared
    · cases prepared
      rfl
    · cases prepared
  · cases prepared

theorem bindBitcoin_moves {request : BindRequest} (chosen : request.method = .bitcoin)
    (unbound : view.book.order.paymentMethod = none)
    (pending : view.book.order.state = .pendingPayment)
    (awaiting : view.book.payment.state = .awaitingEntitlement)
    (unlocked : view.book.payment.adapter ≠ .locks)
    (bound : bindBitcoin references view request now = .ok after) :
    Moves references now view (.bind request) after := by
  unfold bindBitcoin at bound
  obtain ⟨-, bound⟩ := Outcome.guard_ok bound
  obtain ⟨amount, -, bound⟩ := Outcome.bind_ok bound
  obtain ⟨held, acquired, bound⟩ := Outcome.bind_ok bound
  obtain ⟨taken, stockHeld, deadline, origin, book⟩ := acquirePaymentHold_moves acquired
  have same_id : held.book.order.id = view.book.order.id := by rw [book]
  cases answered : request.phase1 with
  | none => simp [answered] at bound
  | some phase1 =>
      simp only [answered] at bound
      obtain ⟨pins, prepared, written⟩ := Outcome.bind_ok bound
      cases Outcome.pure_ok written
      obtain ⟨tidied, outbox⟩ := @bindOrder_tidied now held.book .bitcoin
        (some (references.attemptReference held.book.order.id request.attempt)) .paykit
      rw [same_id] at tidied outbox
      have named : request.phase1.map Phase1.invoiceId = some pins.invoiceId := by
        rw [answered, preparedPins_invoice prepared]
        rfl
      have move := @Move.bindBitcoin references now view.inventory view.book.standing request pins
        held.inventory held.book.standing chosen named unbound pending awaiting unlocked taken
      refine ⟨_, move, ?_⟩
      rw [same_id]
      generalize bindOrder held.book .bitcoin
        (some (references.attemptReference view.book.order.id request.attempt)) .paykit now =
          bound_book at tidied outbox ⊢
      refine ⟨?_, tidied.watched, ?_⟩
      · have same := tidied.same
        rw [Standing.mk.injEq] at same ⊢
        obtain ⟨terms, state, held_same, method, reference, request_same, activation, pins_same,
          adapter, payment, resolved, charge, receipt, refund, sighting, ruling, locks, -, -⟩ :=
        same
        exact ⟨terms, state, held_same, method, reference, request_same, rfl, rfl, adapter, payment,
          resolved, rfl, receipt, refund, sighting, ruling, locks, rfl, rfl⟩
      · rintro invoice ⟨row, member, activates, undelivered, named⟩
        rcases List.mem_append.mp member with old | new
        · rw [outbox] at old
          exact .inr ⟨row, old, activates, undelivered, named⟩
        · rw [List.mem_singleton.mp new] at named
          exact .inl named.symm

theorem bindPaymentMethod_moves {request : BindRequest}
    (bound : bindPaymentMethod references view request now = .ok after) :
    Moves references now view (.bind request) after := by
  unfold bindPaymentMethod at bound
  simp only at bound
  obtain ⟨-, bound⟩ := Outcome.guard_ok bound
  cases method : view.book.order.paymentMethod with
  | some carried =>
      simp only [method] at bound
      split at bound
      · cases bound
        exact .stay rfl rfl (.refl _)
      · cases bound
  | none =>
      simp only [method] at bound
      obtain ⟨pending, bound⟩ := Outcome.guard_ok bound
      obtain ⟨awaiting, bound⟩ := Outcome.guard_ok bound
      obtain ⟨unlocked, bound⟩ := Outcome.guard_ok bound
      cases chosen : request.method with
      | bitcoin =>
          simp only [chosen] at bound
          exact bindBitcoin_moves chosen method (not_not.mp pending) (not_not.mp awaiting) unlocked
            bound
      | stripe =>
          simp only [chosen] at bound
          exact bindFiat_moves (.inl rfl) chosen method (not_not.mp pending) (not_not.mp awaiting)
            unlocked bound
      | paypal =>
          simp only [chosen] at bound
          exact bindFiat_moves (.inr rfl) chosen method (not_not.mp pending) (not_not.mp awaiting)
            unlocked bound

/-! The outbox. -/

/-- `void_preparing_request` on a book: the request is let go if it was
preparing, and the activate rows are stamped in any case. -/
theorem voidPreparingRequest_eq (book : OrderBook)
    (preparing : book.order.paykitActivationState = some .preparing) :
    ∃ attempts, voidPreparingRequest book now = { book with
        attempts := attempts
        order.paykitActivationState := some .voided
        order.paykitRequestState := none
        outbox := stampActivateRows book.outbox now } ∧
      ∀ invoice, (attempts.find? invoice).isSome = true ↔
        (book.attempts.find? invoice).isSome = true ∨
          book.order.paykitInvoiceId = some invoice := by
  obtain ⟨attempts, recorded, keys⟩ := recordReleasedAttempt_eq { book with
    order.paykitActivationState := some .voided
    order.paykitRequestState := none } now
  refine ⟨attempts, ?_, keys⟩
  unfold voidPreparingRequest
  simp only [preparing, if_true, recorded]

theorem sendActivate_moves {row : ℕ} {entry : OutboxRow} {effect : Effect}
    (sent : sendActivate view row entry now = some effect) :
    Moves references now view (.sendActivate row entry) effect.view := by
  unfold sendActivate at sent
  split at sent
  · obtain ⟨begun, ran, written⟩ := Option.map_eq_some_iff.mp sent
    have began := Outcome.toOption_some ran
    unfold beginActivation at began
    simp only at began
    split at began
    · cases began
      simp only at written
      subst written
      exact .stay rfl rfl (stampDelivered_tidied view.book row now)
    · rename_i preparing
      have labelled := not_not.mp preparing
      split at began
      · rename_i settled
        cases began
        simp only at written
        subst written
        obtain ⟨attempts, voided, keys⟩ := @voidPreparingRequest_eq now view.book labelled
        refine ⟨_, .dropRequest labelled settled, ?_⟩
        have due : activateDue (stampActivateRows view.book.outbox now) ⊆
            activateDue view.book.outbox := activateDue_stampActivateRows view.book.outbox now
        have watched : view.book.standing.dropRequest.watched ⊆
            { invoice | (attempts.find? invoice).isSome = true } :=
          fun invoice member => (keys invoice).mpr member
        rw [voided]
        cases view.book.order.paykitPins with
        | none => exact ⟨rfl, watched, (activateDue_stampDelivered _ _ _).trans due⟩
        | some pins =>
            refine ⟨rfl, watched, (activateDue_stampDelivered _ _ _).trans ?_⟩
            exact (activateDue_append_void rfl).trans due
      · cases pinned : view.book.order.paykitPins with
        | none => simp [pinned] at began
        | some pins =>
            simp only [pinned] at began
            cases began
            simp only at written
            subst written
            refine .stay rfl rfl ⟨rfl, subset_rfl, ?_⟩
            exact activateDue_modify fun _ => ⟨rfl, rfl, id⟩
  · cases sent

theorem claimOutboxRow_moves {row leaseSeconds : ℕ} {entry : OutboxRow} {book : OrderBook}
    (returns : action.returns view.book = [])
    (claimed : claimOutboxRow view.book row leaseSeconds now = some (entry, book)) :
    Moves references now view action { view with book := book } := by
  unfold claimOutboxRow at claimed
  split at claimed
  · cases claimed
  · split at claimed
    · cases claimed
      refine .stay returns rfl ⟨rfl, subset_rfl, ?_⟩
      exact activateDue_modify fun _ => ⟨rfl, rfl, id⟩
    · cases claimed

/-! Released attempts. -/

theorem attempts_tidied (book : OrderBook) (invoice : InvoiceId) (row : Attempt) :
    book.standing.Tidied { book with attempts := book.attempts.set invoice row }.standing := by
  refine ⟨rfl, ?_, subset_rfl⟩
  intro other member
  change ((book.attempts.set invoice row).find? other).isSome = true
  rw [Keyed.Table.find?_set]
  by_cases here : other = invoice
  · simp [here]
  · rw [if_neg here]
    exact member

theorem closeAttempt_tidied (book : OrderBook) (invoice : InvoiceId) (state : AttemptState)
    (reason : Option AttemptReviewReason) (observation : Observation) :
    book.standing.Tidied (closeAttempt book invoice state reason observation now).standing := by
  unfold closeAttempt
  split
  · exact .refl _
  · rename_i attempt found
    exact attempts_tidied book _ _

theorem Standing.Tidied.trans {first second third : Standing} (left : first.Tidied second)
    (right : second.Tidied third) : first.Tidied third := by
  refine ⟨?_, left.watched.trans right.watched, right.due.trans left.due⟩
  have outer := left.same
  have inner := right.same
  rw [← inner] at outer
  exact outer

theorem detectAttempt_tidied (book : OrderBook) (invoice : InvoiceId)
    (observation : PaykitObservation) :
    book.standing.Tidied (detectAttempt book invoice observation now).standing := by
  unfold detectAttempt
  split
  · exact .refl _
  · rename_i attempt found
    split
    · exact attempts_tidied book _ _
    · exact .refl _

theorem closeUnpaid_tidied (book : OrderBook) (claimed : WatchedAttempt) :
    book.standing.Tidied (closeUnpaid book claimed now).standing := by
  unfold closeUnpaid
  split
  · split
    · exact .refl _
    · rename_i attempt found
      split
      · exact attempts_tidied book _ _
      · exact .refl _
  · exact .refl _

theorem escalateDetection_tidied (book : OrderBook) (invoice : InvoiceId) :
    book.standing.Tidied (escalateDetection book invoice now).standing := by
  unfold escalateDetection
  split
  · exact .refl _
  · rename_i attempt found
    split
    · exact attempts_tidied book _ _
    · exact .refl _

theorem releaseOther_eq (book : OrderBook) (invoice : InvoiceId) :
    ∃ attempts outbox activation request, releaseOther book invoice now = { book with
        attempts := attempts
        outbox := outbox
        order.paykitActivationState := activation
        order.paykitRequestState := request } ∧
      (∀ other, (book.attempts.find? other).isSome = true ∨
        book.order.paykitInvoiceId = some other ∧ other ≠ invoice →
          (attempts.find? other).isSome = true) ∧
      activateDue outbox ⊆ activateDue book.outbox := by
  unfold releaseOther
  by_cases other : book.order.paykitPins.isSome = true ∧ book.order.paykitInvoiceId ≠ some invoice
  · rw [if_pos other]
    obtain ⟨attempts, recorded, keys⟩ := recordReleasedAttempt_eq book now
    simp only [recorded]
    by_cases preparing : book.order.paykitActivationState = some .preparing
    · obtain ⟨again, voided, kept⟩ :=
        @voidPreparingRequest_eq now { book with attempts := attempts } preparing
      rw [if_pos preparing, voided]
      refine ⟨again, _, _, _, rfl, ?_, activateDue_stampActivateRows book.outbox now⟩
      intro named known
      apply (kept named).mpr
      rcases known with present | ⟨current, -⟩
      · exact .inl ((keys named).mpr (.inl present))
      · exact .inr current
    · rw [if_neg preparing]
      refine ⟨attempts, book.outbox, _, _, rfl, ?_, subset_rfl⟩
      intro named known
      apply (keys named).mpr
      rcases known with present | ⟨current, -⟩
      · exact .inl present
      · exact .inr current
  · rw [if_neg other]
    refine ⟨book.attempts, book.outbox, _, _, rfl, ?_, subset_rfl⟩
    rintro named (present | ⟨current, ne⟩)
    · exact present
    · exfalso
      apply other
      have pinned : book.order.paykitPins.isSome = true := by
        by_contra none_pinned
        have empty : book.order.paykitPins = none := by simpa using none_pinned
        simp [Order.paykitInvoiceId, empty] at current
      refine ⟨pinned, ?_⟩
      rw [current]
      intro same
      exact ne (Option.some.inj same)

theorem swapAttempt_tidied {book swapped : OrderBook} {claimed : WatchedAttempt}
    {attempt : Attempt} {frozen : Observation} {observed : Option ℕ}
    (watching : (book.attempts.find? claimed.invoiceId).isSome = true)
    (ran : swapAttempt references book claimed attempt frozen observed now = .ok swapped) :
    ∃ reference, (book.standing.restore attempt.pins reference (some frozen) observed).Tidied
        swapped.standing ∧
      book.standing.Freezes observed ∧
      swapped.payment.state = book.payment.state ∧
      swapped.payment.resolution = book.payment.resolution := by
  unfold swapAttempt at ran
  simp only at ran
  obtain ⟨attempts, outbox, activation, request, released, keys, due⟩ :=
    @releaseOther_eq now book claimed.invoiceId
  rw [released] at ran
  obtain ⟨updated, wrote, written⟩ := Outcome.bind_ok ran
  obtain ⟨rfl, kept, checked⟩ := updateOrder_ok wrote
  cases Outcome.pure_ok written
  have froze : book.standing.Freezes observed := by
    refine ⟨?_, Order.checks_observed checked⟩
    intro sats before
    have present : book.order.paykitObservedSats = some sats := before
    simpa [Order.keepsObserved, restoreAttempt, present] using kept
  refine ⟨_, ⟨rfl, ?_, due⟩, froze, rfl, rfl⟩
  intro other member
  rcases member with present | current
  · exact keys other (.inl present)
  · by_cases same : other = claimed.invoiceId
    · apply keys other
      rw [same]
      exact .inl watching
    · exact keys other (.inr ⟨current, same⟩)

theorem routeReleasedSettlement_moves {claimed : WatchedAttempt} {amountMatched : Bool}
    {observation : PaykitObservation} {outcome : RouteOutcome}
    (routed : routeReleasedSettlement references view claimed amountMatched observation now =
      .ok (outcome, after)) :
    Moves references now view (.routeReleased claimed amountMatched observation) after := by
  unfold routeReleasedSettlement at routed
  cases found : view.book.attempts.find? claimed.invoiceId with
  | none =>
      simp only [found] at routed
      cases routed
      exact .stay rfl rfl (.refl _)
  | some attempt =>
      simp only [found] at routed
      split at routed
      · cases routed
        exact .stay rfl rfl (.refl _)
      · split at routed
        · cases routed
          exact .stay rfl rfl (.refl _)
        · rename_i untracked
          split at routed
          · cases routed
            exact .stay rfl rfl (closeAttempt_tidied view.book _ _ _ _)
          · rename_i open_rail
            simp only [otherRail, settledElsewhere, Bool.or_eq_true, not_or, Bool.not_eq_true',
              Bool.not_eq_false, beq_iff_eq] at open_rail
            obtain ⟨⟨rail, adapter⟩, open_payment, outside⟩ := open_rail
            have watching : claimed.invoiceId ∈ view.book.standing.watched := by
              change (view.book.attempts.find? claimed.invoiceId).isSome = true
              simp [found]
            have unbound : view.book.standing.method = none ∨
                view.book.standing.method = some .bitcoin := by
              change view.book.order.paymentMethod = none ∨
                view.book.order.paymentMethod = some .bitcoin
              cases method : view.book.order.paymentMethod with
              | none => exact .inl rfl
              | some carried =>
                  rw [method] at rail
                  exact .inr (by simpa using rail)
            have free : ¬ (view.book.standing.invoice = some claimed.invoiceId ∧
                view.book.standing.request.isSome = true) := by
              rintro ⟨current, live⟩
              have named : view.book.order.paykitInvoiceId = some claimed.invoiceId := current
              have requested : view.book.order.paykitRequestState.isSome = true := live
              apply untracked
              simp [trackedByOrder, named, requested]
            obtain ⟨observed, -, routed⟩ := Outcome.bind_ok routed
            obtain ⟨book, swapped, routed⟩ := Outcome.bind_ok routed
            obtain ⟨reference, tidied, froze, state, resolution⟩ :=
              swapAttempt_tidied watching swapped
            split at routed
            · obtain ⟨reviewed, updated, written⟩ := Outcome.bind_ok routed
              cases Outcome.pure_ok written
              obtain ⟨rfl, checked⟩ := updatePayment_ok updated
              have unresolved : view.book.standing.resolved = false := by
                have reviewable := ((Payment.checks_iff _).mp checked).2
                simp only [ne_eq, not_true_eq_false, or_false] at reviewable
                rw [resolution] at reviewable
                simp [OrderBook.standing, reviewable]
              have move := @Move.routeMismatch references now view.inventory view.book.standing
                claimed amountMatched observation attempt.pins reference
                (some (observationJson true amountMatched observation now)) observed watching
                unbound adapter open_payment outside free unresolved froze
              refine ⟨_, move, ?_⟩
              have reviewed : ((view.book.standing.restore attempt.pins reference
                  (some (observationJson true amountMatched observation now)) observed).pay
                  .manualReview).Tidied (book.standing.pay .manualReview) := by
                refine ⟨?_, tidied.watched, tidied.due⟩
                rw [← tidied.same]
                rfl
              exact reviewed.trans (closeAttempt_tidied { book with payment := { book.payment with
                state := .manualReview
                revision := book.payment.revision + 1
                reviewReason := some .amountMismatch
                manualReviewEnteredAt := some now } } _ _ _ _)
            · rename_i matched
              obtain rfl : amountMatched = true := by simpa using matched
              obtain ⟨⟨late, settled⟩, applied, written⟩ := Outcome.bind_ok routed
              cases Outcome.pure_ok written
              have moved := applyLateMoney_moves applied
              exact ⟨_, .routeLate watching unbound adapter open_payment outside free froze tidied
                moved, closeAttempt_tidied _ _ _ _ _⟩

/-! Cancellation and the labels after payment. -/

theorem dropped_tidied {book ended : OrderBook}
    (ran : (if book.order.paykitActivationState ≠ some .preparing then pure book
      else match book.order.paykitPins with
        | none => pure book
        | some pins => pure (enqueuePaykitVoid (voidPreparingRequest book now) pins now)) =
      (.ok ended : Except Failure OrderBook)) :
    (if book.standing.activation = some .preparing ∧ book.standing.pins.isSome = true then
      book.standing.dropRequest else book.standing).Tidied ended.standing := by
  split at ran
  · rename_i settled
    cases Outcome.pure_ok ran
    rw [if_neg fun both => settled both.1]
    exact .refl _
  · rename_i preparing
    have labelled := not_not.mp preparing
    cases pinned : book.order.paykitPins with
    | none =>
        simp only [pinned] at ran
        cases Outcome.pure_ok ran
        have absent : ¬ (book.standing.activation = some .preparing ∧
            book.standing.pins.isSome = true) := by
          rintro ⟨-, present⟩
          change book.order.paykitPins.isSome = true at present
          simp [pinned] at present
        rw [if_neg absent]
        exact .refl _
    | some pins =>
        simp only [pinned] at ran
        cases Outcome.pure_ok ran
        have present : book.standing.pins.isSome = true := by
          change book.order.paykitPins.isSome = true
          simp [pinned]
        rw [if_pos ⟨labelled, present⟩]
        obtain ⟨attempts, voided, keys⟩ := @voidPreparingRequest_eq now book labelled
        rw [voided]
        refine ⟨rfl, fun invoice member => (keys invoice).mpr member, ?_⟩
        exact (activateDue_append_void rfl).trans (activateDue_stampActivateRows book.outbox now)

theorem endPaykitRequest_tidied {book ended : OrderBook}
    (ran : endPaykitRequest book now = .ok ended) :
    book.standing.endRequest.Tidied ended.standing := by
  unfold endPaykitRequest at ran
  unfold Standing.endRequest Standing.lapse
  split at ran
  · rename_i other
    cases ran
    rw [if_neg (show ¬ book.standing.adapter = .paykit from other)]
    exact .refl _
  · rename_i paykit
    rw [if_pos (show book.standing.adapter = .paykit from not_not.mp paykit)]
    simp only at ran
    split at ran
    · rename_i awaiting
      obtain ⟨lapsed, updated, rest⟩ := Outcome.bind_ok ran
      obtain ⟨rfl, -⟩ := updatePayment_ok updated
      rw [if_pos (show book.standing.payment = .awaitingEntitlement from awaiting)]
      exact dropped_tidied rest
    · rename_i advanced
      obtain ⟨same, kept, rest⟩ := Outcome.bind_ok ran
      cases kept
      rw [if_neg (show ¬ book.standing.payment = .awaitingEntitlement from advanced)]
      exact dropped_tidied rest

theorem Standing.Tidied.close {before tidy : Standing} (tidied : before.Tidied tidy)
    (state : OrderState) : (before.close state).Tidied (tidy.close state) := by
  refine ⟨?_, tidied.watched, tidied.due⟩
  rw [← tidied.same]
  rfl

theorem cancelRequest_moves {sender : Sender} {reason : String} {exitOpen : Bool}
    (cancelled : cancelRequest view sender reason exitOpen now = .ok after) :
    Moves references now view (.cancel sender reason exitOpen) after := by
  unfold cancelRequest at cancelled
  simp only at cancelled
  obtain ⟨-, -, cancelled⟩ := Outcome.bind_ok cancelled
  obtain ⟨-, cancelled⟩ := Outcome.guard_ok cancelled
  obtain ⟨-, cancelled⟩ := Outcome.guard_ok cancelled
  obtain ⟨listed, cancelled⟩ := Outcome.guard_ok cancelled
  obtain ⟨unseen, cancelled⟩ := Outcome.guard_ok cancelled
  have labels := not_not.mp listed
  unfold cancelKind at cancelled
  have returned : (OrderAction.cancel sender reason exitOpen).returns view.book =
      if cancelKind view.book.order exitOpen = .unilateral then view.book.order.lines else [] := rfl
  unfold cancelKind at returned
  by_cases pending : view.book.order.state = .pendingPayment
  · simp only [pending, if_true] at cancelled
    simp only [pending, if_true, reduceCtorEq, if_false] at returned
    obtain ⟨inventory, released, rest⟩ := Outcome.bind_ok cancelled
    obtain ⟨ended, ran, written⟩ := Outcome.bind_ok rest
    cases Outcome.pure_ok written
    have outside : view.book.standing.request ≠ some .awaitingSellerConfirmation := by
      intro window
      have labelled : view.book.order.paykitRequestState =
          some .awaitingSellerConfirmation := window
      simp [pending, paykitMoneyObserved, labelled] at unseen
    have move := @Move.cancelPending references now view.inventory view.book.standing sender reason
      exitOpen view.book.order inventory view.book.shows_row pending outside released
    rw [← returned] at move
    exact ⟨_, move, (endPaykitRequest_tidied ran).close .cancelled⟩
  · simp only [pending, if_false] at cancelled returned
    by_cases leaves : view.book.order.fulfillment = .pickup ∧
        (view.book.order.state = .paid ∨ view.book.order.state = .readyForPickup) ∧ exitOpen = true
    · simp only [leaves, and_self, if_true] at cancelled
      rw [if_pos leaves, if_pos rfl] at returned
      obtain ⟨inventory, gave, written⟩ := Outcome.bind_ok cancelled
      cases Outcome.pure_ok written
      have move := @Move.cancelPaid references now view.inventory view.book.standing sender reason
        exitOpen view.book.order inventory view.book.shows_row leaves.2.1 gave
      have lines : view.book.standing.terms.lines = view.book.order.lines := rfl
      rw [lines, ← returned] at move
      exact ⟨_, move, .refl _⟩
    · simp only [leaves, if_false] at cancelled
      rw [if_neg leaves, if_neg (by simp)] at returned
      cases Outcome.pure_ok cancelled
      apply Moves.of_move
      rw [returned]
      refine .requestCancel ?_
      simp only [List.mem_cons, List.not_mem_nil, or_false, pending, false_or] at labels
      exact labels

theorem releasableLines_releasable (book : OrderBook) :
    Releasable book.order.terms (releasableLines book) := by
  unfold releasableLines
  split
  · exact ⟨List.Sublist.refl _, fun line member _ => member⟩
  · rename_i digital
    constructor
    · have filtered := (book.order.lines.zipIdx.filter_sublist (p := fun line =>
        !(line.1.digitalKind.any DigitalDeliveryKind.isInstant &&
          book.openedLines.contains line.2))).map Prod.fst
      rwa [List.zipIdx_map_fst] at filtered
    · intro line member kept
      have deferred : line.digitalKind.any DigitalDeliveryKind.isInstant = false := by
        rcases kept with other | deferred
        · exact absurd (not_not.mp digital) other
        · exact deferred
      have indexed : line ∈ book.order.lines.zipIdx.map Prod.fst := by
        rw [List.zipIdx_map_fst]
        exact member
      obtain ⟨pair, paired, rfl⟩ := List.mem_map.mp indexed
      refine List.mem_map.mpr ⟨pair, List.mem_filter.mpr ⟨paired, ?_⟩, rfl⟩
      simp [deferred]

theorem approveCancellation_moves {sender : Sender}
    (approved : approveCancellation view sender now = .ok after) :
    Moves references now view (.approveCancel sender) after := by
  unfold approveCancellation at approved
  simp only at approved
  obtain ⟨-, -, approved⟩ := Outcome.bind_ok approved
  obtain ⟨-, approved⟩ := Outcome.guard_ok approved
  obtain ⟨requested, approved⟩ := Outcome.guard_ok approved
  obtain ⟨inventory, returned, written⟩ := Outcome.bind_ok approved
  cases Outcome.pure_ok written
  apply Moves.of_move
  exact .approveCancel view.book.shows_row (not_not.mp requested)
    (releasableLines_releasable view.book) returned

theorem fulfillmentTarget_labels {order : Order} {step : FulfillmentStep} {state : OrderState}
    (target : fulfillmentTarget order step = some state) :
    order.state ∉ [OrderState.pendingPayment, .cancelRequested, .refundedExternal] ∧
      order.state ≠ .cancelled ∧ (state = .readyForPickup → order.fulfillment = .pickup) ∧
      state ∈ [OrderState.readyForPickup, .shipped, .delivered, .completed,
        .returnRequested, .returnApproved, .returnReceived, .refundedExternal] ∧
      state ≠ .refundedExternal := by
  cases step
  all_goals
    simp only [fulfillmentTarget] at target
    obtain ⟨taken, named⟩ := Option.ite_none_right_eq_some.mp target
    cases named
    simp only [List.mem_cons, List.not_mem_nil, or_false]
    grind

theorem advanceFulfillment_moves {step : FulfillmentStep} {book : OrderBook}
    (advanced : advanceFulfillment view.book step = some book) :
    Moves references now view (.fulfill step) { view with book := book } := by
  unfold advanceFulfillment at advanced
  obtain ⟨state, target, rfl⟩ := Option.map_eq_some_iff.mp advanced
  obtain ⟨paid, open_order, pickup, label, unrefunded⟩ := fulfillmentTarget_labels target
  apply Moves.of_move
  refine .fulfil (.inl ⟨step, rfl⟩) paid (fun cancelled => absurd cancelled open_order) pickup
    label ?_
  rw [if_neg unrefunded]
  rfl

theorem recordExternalRefund_moves {sender : Sender} {refund : ExternalRefund} {book : OrderBook}
    (recorded : recordExternalRefund view.book sender refund = .ok book) :
    Moves references now view (.recordRefund sender refund) { view with book := book } := by
  unfold recordExternalRefund at recorded
  simp only at recorded
  obtain ⟨-, -, recorded⟩ := Outcome.bind_ok recorded
  obtain ⟨-, recorded⟩ := Outcome.guard_ok recorded
  obtain ⟨open_order, recorded⟩ := Outcome.guard_ok recorded
  obtain ⟨rfl, -⟩ := updateOrder_ok recorded
  have paid : view.book.standing.state ∉
      [OrderState.pendingPayment, .cancelRequested, .refundedExternal] := by
    change view.book.order.state ∉ _
    intro listed
    simp only [List.mem_cons, List.not_mem_nil, or_false] at listed
    rcases listed with same | same | same <;> simp [same] at open_order
  have unrecorded : view.book.order.externalRefund = none := by
    by_contra present
    have recorded_before := Option.isSome_iff_ne_none.mpr present
    simp [recorded_before] at open_order
  apply Moves.of_move
  exact .fulfil (.inr ⟨sender, refund, rfl⟩) paid (fun _ => rfl) (by simp) (by simp)
    (by rw [if_pos rfl]; exact ⟨unrecorded, rfl⟩)

/-! The sandbox rail. -/

theorem advanceSandbox_moves {sender : Sender} {target : PaymentState}
    {confirmations windowSeconds : ℕ}
    (advanced : advanceSandbox view sender target confirmations windowSeconds now = .ok after) :
    Moves references now view (.advanceSandbox sender target confirmations windowSeconds)
      after := by
  unfold advanceSandbox at advanced
  simp only at advanced
  obtain ⟨-, advanced⟩ := Outcome.guard_ok advanced
  obtain ⟨sandbox, advanced⟩ := Outcome.guard_ok advanced
  obtain ⟨-, advanced⟩ := Outcome.guard_ok advanced
  obtain ⟨targeted, advanced⟩ := Outcome.guard_ok advanced
  obtain ⟨-, advanced⟩ := Outcome.guard_ok advanced
  have on_sandbox : view.book.standing.adapter = .sandbox := not_not.mp sandbox
  have listed : target ∈ sandboxTargets view.book.standing.payment := not_not.mp targeted
  -- both branches of the hold end in the same tail
  have tail (held : View)
      (acquired : Acquire view.inventory view.book.standing held.inventory held.book.standing ∨
        held.inventory = view.inventory ∧ held.book.standing = view.book.standing)
      (charged : held.book.payment = view.book.payment)
      (rest : (if target = .confirmed ∧ unpinnable held.inventory held.book.order = true then
          refundRequired held held.book.order "digital delivery unavailable at payment" now
        else do
          let book ← held.book.updatePayment { view.book.payment with
            revision := view.book.payment.revision + 1
            state := target
            confirmations := confirmations
            manualReviewEnteredAt := if target = .manualReview then some now else none }
          if target = .confirmed then
            confirmOrder { held with book := book } held.book.order now
          else
            pure { held with book := book }) = .ok after) :
      Moves references now view (.advanceSandbox sender target confirmations windowSeconds)
        after := by
    have open_payment : target = .confirmed → view.book.standing.payment = .awaitingEntitlement ∨
        view.book.standing.payment = .detected := by
      rintro rfl
      cases state : view.book.standing.payment <;> simp [state, sandboxTargets] at listed ⊢
    apply Moves.of_move
    change Move references now view.inventory view.book.standing _ [] _ _
    split at rest
    · rename_i undeliverable
      obtain ⟨rfl, -⟩ := undeliverable
      exact .sandboxSettle on_sandbox (open_payment rfl) acquired
        (.refunded (refundRequired_moves rest held.book.shows_row))
    · obtain ⟨book, updated, rest⟩ := Outcome.bind_ok rest
      obtain ⟨rfl, -⟩ := updatePayment_ok updated
      split at rest
      · rename_i confirming
        subst confirming
        obtain ⟨confirm, -, untouched⟩ := confirmOrder_moves { view.book.payment with
          revision := view.book.payment.revision + 1
          state := .confirmed
          confirmations := confirmations
          manualReviewEnteredAt :=
            if PaymentState.confirmed = .manualReview then some now else none } rest rfl rfl
          ⟨rfl, rfl, rfl⟩
        rw [after.book.with_payment untouched] at confirm
        have settled : Settle now held.inventory held.book.standing after.inventory
            after.book.standing := by
          refine .confirmed held.book.shows_row (confirm.of_same rfl rfl ?_)
          intro pins state
          simp [OrderBook.standing, OrderBook.ruling, Standing.confirm, charged, Payment.charge]
        exact .sandboxSettle on_sandbox (open_payment rfl) acquired settled
      · rename_i unconfirmed
        cases Outcome.pure_ok rest
        have moved := @Move.sandbox references now view.inventory view.book.standing sender target
          confirmations windowSeconds held.inventory held.book.standing on_sandbox listed
          unconfirmed
          acquired
        have same : ({ held.book with payment := { view.book.payment with
            revision := view.book.payment.revision + 1
            state := target
            confirmations := confirmations
            manualReviewEnteredAt := if target = .manualReview then some now else none } } :
            OrderBook).standing = held.book.standing.pay target := by
          simp [OrderBook.standing, OrderBook.ruling, Standing.pay, charged, Payment.charge]
        simp only [same]
        exact moved
  split at advanced
  · obtain ⟨held, acquired, rest⟩ := Outcome.bind_ok advanced
    obtain ⟨taken, stockHeld, deadline, origin, book⟩ := acquirePaymentHold_moves acquired
    exact tail held (.inl taken) (by rw [book]) rest
  · obtain ⟨held, kept, rest⟩ := Outcome.bind_ok advanced
    cases kept
    exact tail view (.inr ⟨rfl, rfl⟩) rfl rest

/-! The seller's decisions. -/

theorem enqueueResolveRow_ok {book queued : OrderBook} {order : Order}
    (ran : enqueueResolveRow book order = .ok queued) :
    order.paykitPins.isSome = true ∧ book.resolveOutbox = none ∧
      queued = { book with resolveOutbox := order.paykitInvoiceId } := by
  unfold enqueueResolveRow at ran
  split at ran
  · cases ran
  · rename_i pins pinned
    obtain ⟨first, ran⟩ := Outcome.guard_ok ran
    cases ran
    refine ⟨by rw [pinned]; rfl, by simpa using first, ?_⟩
    simp [Order.paykitInvoiceId, pinned]

/-- The frozen amount that a decision of the seller window leaves. -/
theorem freezes_coalesced {book : OrderBook} {order : Order} (checked : order.checks = true)
    (stored : order.paykitObservedSats = coalesceObserved book.order) :
    book.standing.Freezes book.standing.coalesced := by
  constructor
  · intro sats frozen
    have before : book.order.paykitObservedSats = some sats := frozen
    change coalesceObserved book.order = some sats
    unfold coalesceObserved
    rw [before]
    rfl
  · have positive := Order.checks_observed checked
    rw [stored] at positive
    exact positive

theorem confirmBitcoinPayment_moves {order : Order}
    (terms : order.terms = view.book.order.terms)
    (confirmed : confirmBitcoinPayment view order now = .ok after) :
    Moves references now view (.confirmBitcoin order) after := by
  unfold confirmBitcoinPayment at confirmed
  obtain ⟨window, confirmed⟩ := Outcome.guard_ok confirmed
  obtain ⟨awaiting, confirmed⟩ := Outcome.guard_ok confirmed
  obtain ⟨reported, updated, confirmed⟩ := Outcome.bind_ok confirmed
  obtain ⟨rfl, -, checked⟩ := updateOrder_ok updated
  have froze : view.book.standing.Freezes view.book.standing.coalesced :=
    freezes_coalesced checked rfl
  obtain ⟨paid, decided, confirmed⟩ := Outcome.bind_ok confirmed
  obtain ⟨rfl, -⟩ := updatePayment_ok decided
  obtain ⟨done, ran, confirmed⟩ := Outcome.bind_ok confirmed
  obtain ⟨first, confirmed⟩ := Outcome.guard_ok confirmed
  obtain ⟨queued, enqueued, written⟩ := Outcome.bind_ok confirmed
  cases Outcome.pure_ok written
  obtain ⟨confirm, book, untouched⟩ := confirmOrder_moves { view.book.payment with
    state := .confirmed
    revision := view.book.payment.revision + 1 } ran terms rfl ⟨rfl, rfl, rfl⟩
  rw [done.book.with_payment untouched] at confirm
  obtain ⟨plain, seller, same⟩ := @Confirm.unmark _ _ _ _ view.book.standing _ _
    (fun standing => standing.report view.book.standing.sighting.observation
      view.book.standing.coalesced) confirm rfl rfl fun _ _ => rfl
  obtain ⟨pinned, unqueued, rfl⟩ := enqueueResolveRow_ok enqueued
  have ruled : done.book.ruling = view.book.ruling := by rw [book]; rfl
  have unconfirmed : view.book.standing.ruling.confirmation = none := by
    change view.book.ruling.confirmation = none
    rw [← ruled]
    exact Option.not_isSome_iff_eq_none.mp first
  have unresolved : view.book.standing.ruling.outbox = none := by
    change view.book.ruling.outbox = none
    rw [← ruled]
    exact unqueued
  have resolution : done.book.manualResolution = view.book.manualResolution :=
    congrArg Ruling.resolution ruled
  apply Moves.of_move
  have move := @Move.confirmSeller references now view.inventory view.book.standing order
    done.inventory plain (not_not.mp window) (not_not.mp awaiting) seller froze unconfirmed
    unresolved pinned
  have standing : ({ done.book with
      sellerConfirmation := some (sellerConfirmationRow order now)
      resolveOutbox := order.paykitInvoiceId } : OrderBook).standing =
      { done.book.standing with
        ruling.confirmation := some (sellerConfirmationRow order now)
        ruling.outbox := order.paykitInvoiceId } := rfl
  rw [standing, ← same]
  exact move

theorem routeSellerConfirmationWindow_moves {book : OrderBook}
    (routed : routeSellerConfirmationWindow view.book now = .ok book) :
    Moves references now view .routeSellerWindow { view with book := book } := by
  unfold routeSellerConfirmationWindow at routed
  split at routed
  · rename_i lapsed
    obtain ⟨awaiting, routed⟩ := Outcome.guard_ok routed
    obtain ⟨reported, updated, decided⟩ := Outcome.bind_ok routed
    obtain ⟨rfl, -, checked⟩ := updateOrder_ok updated
    obtain ⟨rfl, -⟩ := updatePayment_ok decided
    obtain ⟨window, opened, due⟩ := (Option.any_eq_true _ _).mp lapsed.2
    apply Moves.of_move
    exact .windowLapsed lapsed.1 (not_not.mp awaiting) opened (of_decide_eq_true due)
      (freezes_coalesced checked rfl)
  · cases routed
    exact .stay rfl rfl (.refl _)

theorem cancelHeldOrder_ok {reason : String}
    (cancelled : cancelHeldOrder view reason now = .ok after) :
    cancelledHold view.inventory view.book.order now = .ok after.inventory ∧
      after.book = { view.book with
        order.revision := view.book.order.revision + 1
        order.state := .cancelled
        order.cancellationReason := some reason
        order.stockHeld := false
        order.holdExpiresAt := none } := by
  unfold cancelHeldOrder at cancelled
  simp only at cancelled
  unfold cancelledHold
  cases auctioned : view.book.order.auctionAggregateId with
  | none =>
      simp only [auctioned] at cancelled
      obtain ⟨inventory, released, written⟩ := Outcome.bind_ok cancelled
      cases Outcome.pure_ok written
      exact ⟨released, by rw [← auctioned]⟩
  | some auction =>
      simp only [auctioned] at cancelled
      obtain ⟨inventory, released, written⟩ := Outcome.bind_ok cancelled
      cases Outcome.pure_ok written
      exact ⟨released, by rw [← auctioned]⟩

/-- The mark a resolution leaves on the payment. -/
def Standing.resolve (standing : Standing) : Standing := { standing with resolved := true }

structure ResolvedPayment (view resolved : View) (state : PaymentState) : Prop where
  inventory : resolved.inventory = view.inventory
  order : resolved.book.order = view.book.order
  standing : resolved.book.standing = (view.book.standing.pay state).resolve

theorem applyPaidEffects_moves {resolved : View}
    (applied : applyPaidEffects resolved now = .ok after)
    (payment : ResolvedPayment view resolved .confirmed) :
    ∃ plain, Resolve now view.inventory view.book.standing after.inventory plain ∧
      plain.resolve = after.book.standing := by
  have pays : resolved.book.payment.state = .confirmed :=
    congrArg Standing.payment payment.standing
  have terms : view.book.standing.terms = resolved.book.standing.terms := by
    rw [payment.standing]
    rfl
  have receipt : view.book.standing.receipt = resolved.book.standing.receipt := by
    rw [payment.standing]
    rfl
  have marked (pins : Option PaykitPins) (state : OrderState) :
      (view.book.standing.confirm pins state).resolve =
        resolved.book.standing.confirm pins state := by
    rw [payment.standing]
    rfl
  unfold applyPaidEffects at applied
  simp only at applied
  split at applied
  · rename_i intact
    obtain ⟨same, kept, ran⟩ := Outcome.bind_ok applied
    cases kept
    obtain ⟨confirm, -, untouched⟩ := confirmOrder_moves resolved.book.payment ran rfl pays
      ⟨rfl, rfl, rfl⟩
    rw [after.book.with_payment untouched] at confirm
    obtain ⟨plain, confirmed, same⟩ := confirm.unmark terms receipt marked
    rw [payment.order, payment.inventory] at confirmed intact
    exact ⟨plain, .intact view.book.shows_row intact.1 intact.2 confirmed, same⟩
  · rename_i lost
    split at applied
    · rename_i open_order
      cases reacquired : reacquireHold resolved resolved.book.order now with
      | mk outcome held =>
          simp only [reacquired] at applied
          cases outcome with
          | error failure =>
              obtain ⟨_, failed, -⟩ := Outcome.bind_ok applied
              cases failed
          | ok done =>
              obtain ⟨same, kept, ran⟩ := Outcome.bind_ok applied
              cases kept
              have unpaid : held.book.payment = resolved.book.payment := by
                rcases (reacquireHold_book reacquired).2 with ⟨-, -, book⟩ | ⟨-, book⟩ <;> rw [book]
              have paid : confirmOrder { held with book.payment := resolved.book.payment }
                  held.book.order now = .ok after := by
                rw [← unpaid]
                exact ran
              have retaken := retaken_moves resolved.book.shows_row reacquired paid rfl pays
                ⟨rfl, rfl, rfl⟩
              have rows (order : Order) (shown : order.Shows resolved.book.standing) :
                  order.Shows view.book.standing := by
                rw [payment.standing] at shown
                exact ⟨shown.terms, shown.state, shown.held, shown.pins⟩
              obtain ⟨plain, retake, same⟩ := retaken.unmark rows terms receipt marked
              rw [payment.order] at lost open_order
              rw [payment.inventory] at lost retake
              exact ⟨plain, .retaken view.book.shows_row open_order lost retake, same⟩
    · obtain ⟨_, failed, -⟩ := Outcome.bind_ok applied
      cases failed

theorem applyRefundedEffects_moves {resolved : View} {input : ResolutionInput}
    (applied : applyRefundedEffects resolved input now = .ok after)
    (payment : ResolvedPayment view resolved .confirmed) :
    ∃ plain, Resolve now view.inventory view.book.standing after.inventory plain ∧
      plain.resolve = after.book.standing := by
  unfold applyRefundedEffects at applied
  simp only at applied
  split at applied
  · rename_i pending
    obtain ⟨cancelled, ran, rest⟩ := Outcome.bind_ok applied
    obtain ⟨released, book⟩ := cancelHeldOrder_ok ran
    obtain ⟨-, rest⟩ := Outcome.guard_ok rest
    split at rest
    · cases rest
    · rename_i sats frozen
      obtain ⟨refunded, updated, written⟩ := Outcome.bind_ok rest
      cases Outcome.pure_ok written
      obtain ⟨rfl, -⟩ := updateOrder_ok updated
      rw [payment.order] at pending
      rw [payment.order, payment.inventory] at released
      refine ⟨_, .gaveBack view.book.shows_row pending
        (.refunded { amountMinor := sats, reference := input.refundReference.getD "" })
        released, ?_⟩
      have same (refund : Option ExternalRefund) :
          ({ (view.book.standing.pay .confirmed).close .refundedExternal with
            refund := refund } : Standing).resolve =
          { resolved.book.standing.close .refundedExternal with refund := refund } := by
        rw [payment.standing]
        rfl
      rw [same, book]
      rfl
  · rename_i settled
    obtain ⟨same, kept, rest⟩ := Outcome.bind_ok applied
    cases kept
    obtain ⟨cancelled, rest⟩ := Outcome.guard_ok rest
    split at rest
    · cases rest
    · rename_i sats frozen
      obtain ⟨refunded, updated, written⟩ := Outcome.bind_ok rest
      cases Outcome.pure_ok written
      obtain ⟨rfl, -⟩ := updateOrder_ok updated
      have closed : view.book.order.state = .cancelled := by
        rw [← payment.order]
        exact not_not.mp cancelled
      have moved := @Resolve.closed now view.inventory view.book.standing _ _ _ closed
        (.refunded { amountMinor := sats, reference := input.refundReference.getD "" })
      refine ⟨_, by rw [payment.inventory]; exact moved, ?_⟩
      have same (refund : Option ExternalRefund) : ({ view.book.standing.pay .confirmed with
          state := .refundedExternal, refund := refund } : Standing).resolve =
          { resolved.book.standing with state := .refundedExternal, refund := refund } := by
        rw [payment.standing]
        rfl
      rw [same]
      rfl

theorem applyAbandonedEffects_moves {resolved : View}
    (applied : applyAbandonedEffects resolved now = .ok after)
    (payment : ResolvedPayment view resolved .expired) :
    ∃ plain, Resolve now view.inventory view.book.standing after.inventory plain ∧
      plain.resolve = after.book.standing := by
  unfold applyAbandonedEffects at applied
  split at applied
  · rename_i pending
    obtain ⟨released, book⟩ := cancelHeldOrder_ok applied
    rw [payment.order] at pending
    rw [payment.order, payment.inventory] at released
    refine ⟨_, .gaveBack view.book.shows_row pending .abandoned released, ?_⟩
    have same : ({ (view.book.standing.pay .expired).close .cancelled with
        refund := view.book.standing.refund } : Standing).resolve =
        resolved.book.standing.close .cancelled := by
      rw [payment.standing]
      rfl
    rw [same, book]
    rfl
  · rename_i cancelled
    cases applied
    rw [payment.order] at cancelled
    refine ⟨_, by rw [payment.inventory]; exact .closed cancelled .abandoned, ?_⟩
    rw [payment.standing]
    have state : view.book.standing.state = .cancelled := cancelled
    simp only [Standing.resolve, Standing.pay, ← state]
  · cases applied

/-- The outcome's effects write neither audit row. -/
theorem Resolve.ruling {standing done : Standing} {inventory last : Inventory}
    (outcome : Resolve now inventory standing last done) : done.ruling = standing.ruling := by
  rcases outcome.outcome with ⟨state, held, payment, receipt, rfl, -⟩ |
    ⟨payment, state, held, refund, rfl, -⟩ <;> rfl

theorem applyManualReviewResolution_moves {input : ResolutionInput}
    (resolved : applyManualReviewResolution view input now = .ok after) :
    Moves references now view (.resolveReview input) after := by
  unfold applyManualReviewResolution at resolved
  simp only at resolved
  obtain ⟨open_review, resolved⟩ := Outcome.guard_ok resolved
  obtain ⟨-, resolved⟩ := Outcome.guard_ok resolved
  obtain ⟨-, resolved⟩ := Outcome.guard_ok resolved
  simp only [not_or, not_not, Bool.not_eq_true] at open_review
  obtain ⟨paykit, review, unresolved⟩ := open_review
  have finish (applied : View)
      (effects : ∃ plain, Resolve now view.inventory view.book.standing applied.inventory plain ∧
        plain.resolve = applied.book.standing) {book : OrderBook} {row : ManualResolution}
      (first : applied.book.manualResolution = none)
      (queued : enqueueResolveRow { applied.book with manualResolution := some row }
        view.book.order = .ok book) :
      Moves references now view (.resolveReview input) { applied with book := book } := by
    obtain ⟨plain, outcome, same⟩ := effects
    obtain ⟨pinned, unqueued, rfl⟩ := enqueueResolveRow_ok queued
    have ruled : applied.book.standing.ruling = view.book.standing.ruling := by
      rw [← same]
      exact outcome.ruling
    apply Moves.of_move
    have move := @Move.resolve references now view.inventory view.book.standing input
      applied.inventory plain row paykit review unresolved outcome
      ((congrArg Ruling.resolution ruled).symm.trans first)
      ((congrArg Ruling.outbox ruled).symm.trans unqueued) pinned
    have standing : ({ applied.book with
        manualResolution := some row
        resolveOutbox := view.book.order.paykitInvoiceId } : OrderBook).standing =
        { applied.book.standing with
          ruling.resolution := some row
          ruling.outbox := view.book.order.paykitInvoiceId } := rfl
    rw [standing, ← same]
    exact move
  cases decided : input.outcome with
  | paid =>
      simp only [decided] at resolved
      obtain ⟨applied, ran, rest⟩ := Outcome.bind_ok resolved
      obtain ⟨first, rest⟩ := Outcome.guard_ok rest
      obtain ⟨book, queued, written⟩ := Outcome.bind_ok rest
      cases Outcome.pure_ok written
      exact finish applied (applyPaidEffects_moves ran ⟨rfl, rfl, rfl⟩) (by simpa using first)
        queued
  | refunded =>
      simp only [decided] at resolved
      obtain ⟨applied, ran, rest⟩ := Outcome.bind_ok resolved
      obtain ⟨first, rest⟩ := Outcome.guard_ok rest
      obtain ⟨book, queued, written⟩ := Outcome.bind_ok rest
      cases Outcome.pure_ok written
      exact finish applied (applyRefundedEffects_moves ran ⟨rfl, rfl, rfl⟩)
        (by simpa using first) queued
  | abandoned =>
      simp only [decided] at resolved
      obtain ⟨applied, ran, rest⟩ := Outcome.bind_ok resolved
      obtain ⟨first, rest⟩ := Outcome.guard_ok rest
      obtain ⟨book, queued, written⟩ := Outcome.bind_ok rest
      cases Outcome.pure_ok written
      exact finish applied (applyAbandonedEffects_moves ran ⟨rfl, rfl, rfl⟩)
        (by simpa using first) queued

/-! Steps. -/

theorem Effect.ofView_some {result : Except Failure View} {effect : Effect}
    (ran : Effect.ofView result = some effect) : result = .ok effect.view ∧ effect.sent = [] := by
  obtain ⟨done, ended, rfl⟩ := Option.map_eq_some_iff.mp ran
  exact ⟨Outcome.toOption_some ended, rfl⟩

theorem Effect.ofBook_some {result : Except Failure OrderBook} {effect : Effect}
    (ran : Effect.ofBook view result = some effect) :
    ∃ book, result = .ok book ∧ effect.view = { view with book := book } ∧ effect.sent = [] := by
  obtain ⟨book, ended, rfl⟩ := Option.map_eq_some_iff.mp ran
  exact ⟨book, Outcome.toOption_some ended, rfl, rfl⟩

theorem Effect.ofConfirm_some {refused : Message} {result : Except Failure ConfirmResult}
    {effect : Effect} (ran : Effect.ofConfirm view refused result = some effect) :
    (∃ done, result = .ok (.done done) ∧ effect.view = done ∧ effect.sent = []) ∨
      effect.view = view ∧ effect.sent = [refused] := by
  obtain ⟨outcome, ended, rfl⟩ := Option.map_eq_some_iff.mp ran
  cases outcome with
  | done settled => exact .inl ⟨settled, Outcome.toOption_some ended, rfl, rfl⟩
  | refused => exact .inr ⟨rfl, rfl⟩

theorem Effect.ofSettle_some {refused : Message} {result : Except Failure SettleResult}
    {effect : Effect} (ran : Effect.ofSettle view refused result = some effect) :
    (∃ done, result = .ok (.done done) ∧ effect.view = done ∧ effect.sent = []) ∨
      result = .ok .confirmationRefused ∧ effect.view = view ∧ effect.sent = [refused] := by
  obtain ⟨outcome, ended, rfl⟩ := Option.map_eq_some_iff.mp ran
  cases outcome with
  | done settled => exact .inl ⟨settled, Outcome.toOption_some ended, rfl, rfl⟩
  | confirmationRefused => exact .inr ⟨Outcome.toOption_some ended, rfl, rfl⟩

theorem Effect.ofShared_some {advanced : Message} {result : Except Failure SharedResult}
    {effect : Effect} (ran : Effect.ofShared view advanced result = some effect) :
    (∃ done, result = .ok (.done done) ∧ effect.view = done ∧ effect.sent = []) ∨
      effect.view = view ∧ effect.sent = [advanced] := by
  obtain ⟨outcome, ended, rfl⟩ := Option.map_eq_some_iff.mp ran
  cases outcome with
  | done settled => exact .inl ⟨settled, Outcome.toOption_some ended, rfl, rfl⟩
  | paymentAdvanced => exact .inr ⟨rfl, rfl⟩

theorem Effect.read_some {message : Option Message} {effect : Effect}
    (ran : Effect.read view message = some effect) :
    ∃ sent, message = some sent ∧ effect.view = view ∧ effect.sent = [sent] := by
  obtain ⟨sent, named, rfl⟩ := Option.map_eq_some_iff.mp ran
  exact ⟨sent, named, rfl, rfl⟩

theorem settleConfirmed_moves {row : ClaimedPaykitOrder} {amountMatched late : Bool}
    {observation : PaykitObservation} {effect : Effect} (rail : action.rail = some .poll)
    (money : row.pinsPresent = true → action.appliesMoney = true)
    (flagged : late = true → action.reportsLate = true)
    (ran : settleConfirmed view row amountMatched observation late now = some effect) :
    Moves references now view action effect.view := by
  rcases Effect.ofSettle_some ran with ⟨done, applied, rfl, -⟩ | ⟨-, same, -⟩
  · exact applyConfirmedPaykitPayment_moves rail money flagged applied
  · rw [same]
    exact .stay (returns_of_rail rail _) rfl (.refl _)

theorem observeShared_moves {row : ClaimedPaykitOrder} {confirmed amountMatched : Bool}
    {observation : PaykitObservation} {effect : Effect} (rail : action.rail = some .poll)
    (entry : action.entersWindow = some amountMatched)
    (amount : action.reportedSats = some observation.observedSats)
    (ran : observeShared view row confirmed amountMatched observation now = some effect) :
    Moves references now view action effect.view := by
  rcases Effect.ofShared_some ran with ⟨done, applied, rfl, -⟩ | ⟨same, -⟩
  · exact applySharedManualObservation_moves rail entry amount applied
  · rw [same]
    exact .stay (returns_of_rail rail _) rfl (.refl _)

theorem Moves.kept_book {book : OrderBook} {effect : Effect}
    (returns : action.returns view.book = [])
    (ran : Effect.ofBook view (.ok book) = some effect)
    (tidied : view.book.standing.Tidied book.standing) :
    Moves references now view action effect.view := by
  obtain ⟨written, same, moved, -⟩ := Effect.ofBook_some ran
  cases same
  rw [moved]
  exact .stay returns rfl tidied

theorem applyPaykitStatusOutcome_moves {row : ClaimedPaykitOrder} {outcome : PaykitStatusOutcome}
    {effect : Effect} (ran : applyPaykitStatusOutcome view row outcome now = some effect) :
    Moves references now view (.applyPoll row outcome) effect.view := by
  have writes {book : OrderBook} (ran : Effect.ofBook view (.ok book) = some effect)
      (moves : Moves references now view (.applyPoll row outcome) { view with book := book }) :
      Moves references now view (.applyPoll row outcome) effect.view := by
    obtain ⟨written, same, moved, -⟩ := Effect.ofBook_some ran
    cases same
    rw [moved]
    exact moves
  have stays : Moves references now view (.applyPoll row outcome) view :=
    .stay rfl rfl (.refl _)
  unfold applyPaykitStatusOutcome at ran
  split at ran
  · exact writes ran applyReportInsideSellerWindow_moves
  · rename_i outside
    cases outcome with
    | confirmed amountMatched facts =>
        simp only at ran
        split at ran
        · rename_i late
          refine settleConfirmed_moves rfl ?_ (fun _ => late) ran
          simp [OrderAction.appliesMoney, outside, late]
        · rename_i on_time
          split at ran
          · rename_i shared
            refine observeShared_moves rfl ?_ rfl ran
            simp [OrderAction.entersWindow, outside, on_time, shared]
          · rename_i exclusive
            refine settleConfirmed_moves rfl ?_ (by simp) ran
            simp [OrderAction.appliesMoney, outside, exclusive]
          · exact writes ran stays
    | detected facts =>
        simp only at ran
        split at ran
        · exact writes ran (markPaykitDetected_moves rfl)
        · rename_i on_time
          split at ran
          · rename_i shared
            refine observeShared_moves rfl ?_ rfl ran
            simp [OrderAction.entersWindow, outside, on_time, shared]
          · exact writes ran (markPaykitDetected_moves rfl)
          · exact writes ran stays
    | undetected =>
        simp only at ran
        split at ran
        · exact writes ran (markSharedManualDisappeared_moves rfl rfl)
        · exact writes ran stays
    | notFound => exact writes ran stays
    | unavailable => exact writes ran stays

theorem settleAdvanced_moves {row : ClaimedPaykitOrder} {confirmed amountMatched : Bool}
    {observation : PaykitObservation} {effect : Effect}
    (ran : settleAdvanced view row confirmed amountMatched observation now = some effect) :
    Moves references now view (.settleAdvanced row confirmed amountMatched observation)
      effect.view := by
  unfold settleAdvanced at ran
  split at ran
  · rename_i reported
    refine settleConfirmed_moves rfl ?_ (by simp) ran
    simp [OrderAction.appliesMoney, reported]
  · obtain ⟨written, same, moved, -⟩ := Effect.ofBook_some ran
    cases same
    rw [moved]
    exact markPaykitDetected_moves rfl

/-- Every step of an order is a move of its standing. A seller's confirmation
carries the order it read, which must be a row of this order. -/
theorem transact_moves {effect : Effect}
    (terms : ∀ order, action = .confirmBitcoin order → order.terms = view.book.order.terms)
    (ran : transact references view now action = some effect) :
    Moves references now view action effect.view := by
  have reads {message : Option Message} (ran : Effect.read view message = some effect)
      (returns : action.returns view.book = []) : Moves references now view action effect.view := by
    obtain ⟨sent, -, same, -⟩ := Effect.read_some ran
    rw [same]
    exact .stay returns rfl (.refl _)
  have books {result : Except Failure OrderBook}
      (ran : Effect.ofBook view result = some effect)
      (moves : ∀ book, result = .ok book →
        Moves references now view action { view with book := book }) :
      Moves references now view action effect.view := by
    obtain ⟨book, ended, same, -⟩ := Effect.ofBook_some ran
    rw [same]
    exact moves book ended
  cases action with
  | reserveBind actor =>
      obtain ⟨reserved, taken, rfl⟩ := Option.map_eq_some_iff.mp ran
      unfold reserveBindAttempt at taken
      split at taken
      · cases taken
        exact .stay rfl rfl (.refl _)
      · cases taken
  | bind request => exact bindPaymentMethod_moves (Effect.ofView_some ran).1
  | claimPoll => exact reads ran rfl
  | recordDelivery row delivery =>
      cases ran
      refine .stay rfl rfl ?_
      simp only [recordPaykitDelivery]
      split <;> exact .refl _
  | applyPoll row outcome => exact applyPaykitStatusOutcome_moves ran
  | settleRefused row amountMatched observation =>
      exact books ran fun _ => settleFallback_moves
  | settleAdvanced row confirmed amountMatched observation => exact settleAdvanced_moves ran
  | claimOutbox row leaseSeconds =>
      obtain ⟨⟨entry, book⟩, claimed, rfl⟩ := Option.map_eq_some_iff.mp ran
      exact claimOutboxRow_moves rfl claimed
  | sendActivate row entry => exact sendActivate_moves ran
  | answerActivate row invoice totalSats answer =>
      exact applyActivateAnswer_moves (Effect.ofView_some ran).1
  | sendVoid row entry =>
      simp only [transact] at ran
      split at ran
      · cases ran
        exact .stay rfl rfl (.refl _)
      · cases ran
  | answerVoid row invoice answer => exact books ran fun _ => applyVoidAnswer_moves
  | leasePreparing leaseSeconds =>
      simp only [transact] at ran
      split at ran
      · obtain ⟨⟨row, book⟩, leased, rfl⟩ := Option.map_eq_some_iff.mp ran
        unfold leaseActivateRow at leased
        split at leased
        · cases leased
        · obtain ⟨⟨entry, written⟩, claimed, same⟩ := Option.map_eq_some_iff.mp leased
          cases same
          exact claimOutboxRow_moves rfl claimed
      · cases ran
  | sendPreparingVoid row => exact reads ran rfl
  | answerPreparingVoid row pin answer =>
      exact applyPreparingVoidAnswer_moves (Effect.ofView_some ran).1
  | claimReleased invoice => exact reads ran rfl
  | routeReleased claimed amountMatched observation =>
      obtain ⟨⟨outcome, routed⟩, ended, rfl⟩ := Option.map_eq_some_iff.mp ran
      exact routeReleasedSettlement_moves (Outcome.toOption_some ended)
  | detectReleased claimed observation =>
      exact .kept_book rfl ran (detectAttempt_tidied view.book _ _)
  | closeReleased claimed => exact .kept_book rfl ran (closeUnpaid_tidied view.book _)
  | escalateReleased invoice => exact .kept_book rfl ran (escalateDetection_tidied view.book _)
  | verifyStripe actor session => exact reads ran rfl
  | verifyPaypal transactionRef verifiedBy => exact reads ran rfl
  | applyFiat transactionRef verifiedBy =>
      rcases Effect.ofConfirm_some ran with ⟨done, applied, rfl, -⟩ | ⟨same, -⟩
      · exact applyFiatPaid_moves applied
      · rw [same]
        exact .stay rfl rfl (.refl _)
  | reviewFiat => exact books ran fun _ => reviewAwaiting_moves
  | prepareLocks actor windowSeconds => exact prepareLocks_moves (Effect.ofView_some ran).1
  | registerLocks actor => exact books ran fun _ => registerLocks_moves
  | claimLocks => exact reads ran rfl
  | applyLocks =>
      rcases Effect.ofConfirm_some ran with ⟨done, applied, rfl, -⟩ | ⟨same, -⟩
      · exact applyCompletedLifecycle_moves applied
      · rw [same]
        exact .stay rfl rfl (.refl _)
  | reviewLocks => exact books ran fun _ => locksReview_moves
  | advanceSandbox sender target confirmations windowSeconds =>
      exact advanceSandbox_moves (Effect.ofView_some ran).1
  | expireWindow => exact expireDuePaymentWindow_moves (Effect.ofView_some ran).1
  | expireIdle window => exact books ran fun _ => expireIdleUnboundCheckout_moves
  | cancel sender reason exitOpen => exact cancelRequest_moves (Effect.ofView_some ran).1
  | approveCancel sender => exact approveCancellation_moves (Effect.ofView_some ran).1
  | fulfill step =>
      obtain ⟨book, advanced, rfl⟩ := Option.map_eq_some_iff.mp ran
      exact advanceFulfillment_moves advanced
  | recordRefund sender refund => exact books ran fun _ => recordExternalRefund_moves
  | openLine index =>
      obtain ⟨book, opened, rfl⟩ := Option.map_eq_some_iff.mp ran
      unfold openDigitalLine at opened
      split at opened
      · cases opened
        exact .stay rfl rfl (.refl _)
      · cases opened
  | readSellerConfirm actor => exact reads ran rfl
  | confirmBitcoin order =>
      exact confirmBitcoinPayment_moves (terms order rfl) (Effect.ofView_some ran).1
  | routeSellerWindow => exact books ran fun _ => routeSellerConfirmationWindow_moves
  | resolveReview input =>
      obtain ⟨-, ran⟩ := Option.ite_none_right_eq_some.mp ran
      exact applyManualReviewResolution_moves (Effect.ofView_some ran).1

end Transactions

end MarketplaceService
