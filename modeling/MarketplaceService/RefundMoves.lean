import MarketplaceService.Confirmations

/-!
Money and recorded refunds, move by move. Nothing in `confirm_order` asks for
the refund: the machine has an edge from `refunded_external` to `paid` for
canceled reversals, and any money that finds the stock of such an order
completes it. A move keeps the refund, records one, or issues the receipt.
-/

namespace MarketplaceService

def OrderBook.refunded (book : OrderBook) : Prop :=
  book.order.state = .refundedExternal ∨ book.order.externalRefund.isSome = true

instance (book : OrderBook) : Decidable book.refunded := inferInstanceAs (Decidable (_ ∨ _))

/-- The step brings money to an open payment on time. -/
def OrderAction.settlesOnTime (book : OrderBook) : OrderAction → Bool
  | .applyFiat .. | .applyLocks => book.payment.state == .awaitingEntitlement
  | .advanceSandbox _ .confirmed _ _ =>
      book.payment.adapter == .sandbox &&
        (book.payment.state == .awaitingEntitlement || book.payment.state == .detected)
  | _ => false

instance (inventory : Inventory) (order : Order) : Decidable (Confirmable inventory order) :=
  inferInstanceAs (Decidable ((_ → _) ∧ (∀ auction ∈ order.auctionAggregateId,
      inventory.reservations.countWhere (isWinningHold auction order.buyerPubky) ≠ 0) ∧
    (∀ dropId ∈ order.dropAggregateId,
      ∃ drop ∈ inventory.drops.find? dropId, drop.paidQuantity + 1 ≤ drop.totalQuantity) ∧
    ∀ line ∈ order.lines, ∃ listing ∈ inventory.listings.find? line.listing,
      linesOn line.listing order.lines ≤ listing.reservedQuantity))

/-- The step brings money that finds the order deliverable and its stock
there: late, to be taken again, or on time, still held. -/
def OrderAction.findsStock (inventory : Inventory) (book : OrderBook) (action : OrderAction) :
    Prop :=
  unpinnable inventory book.order = false ∧
    (action.entersLate book = true ∧ book.payment.resolution = none ∧
        ¬ (book.order.state = .pendingPayment ∧ book.order.stockHeld = true) ∧
        Retakeable inventory book.order ∨
      action.settlesOnTime book = true ∧ Confirmable inventory book.order)

instance (inventory : Inventory) (book : OrderBook) (action : OrderAction) :
    Decidable (action.findsStock inventory book) :=
  inferInstanceAs (Decidable (_ ∧ (_ ∧ _ ∧ _ ∧ _ ∨ _ ∧ _)))

/-! What a confirmation of a refunded order finds. -/

section Rows

variable {inventory after : Inventory} {order other : Order} {now : Time}
  {standing done : Standing}

theorem unpinnable_of_terms (terms : order.terms = other.terms) :
    unpinnable inventory order = unpinnable inventory other := by
  simp only [Order.terms, Terms.mk.injEq] at terms
  obtain ⟨-, -, -, -, -, lines, -, -, -, fulfillment, -⟩ := terms
  unfold unpinnable Order.instantLines
  rw [lines, fulfillment]

theorem Retakeable.of_terms (terms : order.terms = other.terms)
    (retakes : Retakeable inventory order) : Retakeable inventory other := by
  simp only [Order.terms, Terms.mk.injEq] at terms
  obtain ⟨-, auction, drop, buyer, -, lines, -, -, -, -, created⟩ := terms
  unfold Retakeable DropRetakeable LinesRetakeable Order.units at retakes ⊢
  rw [← auction, ← drop, ← buyer, ← lines, ← created]
  exact retakes

theorem Confirmable.of_terms (terms : order.terms = other.terms)
    (held : order.stockHeld = other.stockHeld) (confirms : Confirmable inventory order) :
    Confirmable inventory other := by
  simp only [Order.terms, Terms.mk.injEq] at terms
  obtain ⟨-, auction, drop, buyer, -, lines, -, -, -, -, -⟩ := terms
  unfold Confirmable at confirms ⊢
  rw [← auction, ← drop, ← buyer, ← lines, ← held]
  exact confirms

theorem Confirm.confirmable (confirmed : Confirm now order inventory standing after done) :
    unpinnable inventory order = false ∧ Confirmable inventory order := by
  cases confirmed with
  | intro terms payable deliverable unpaid stocked =>
      exact ⟨deliverable, (confirmStock_ok_iff inventory order now).mp ⟨_, stocked⟩⟩

theorem Retake.retakeable (retaken : Retake now inventory standing after done) :
    ∃ order : Order, order.Shows standing ∧ unpinnable inventory order = false ∧
      Retakeable inventory order := by
  cases retaken with
  | @intro order row taken _ _ shows_row reacquired stored confirmed =>
      have terms : row.terms = order.terms := by
        rw [stored]
        split <;> rfl
      refine ⟨order, shows_row, ?_, ?_⟩
      · rw [← reacquireStock_unpinnable reacquired, ← unpinnable_of_terms terms]
        exact confirmed.confirmable.1
      · rw [← reacquireStock_ok_iff inventory order now, reacquired]

/-- Late money that issues a receipt takes the stock again. -/
theorem Late.finds (late : Late now inventory standing after done)
    (unpaid : standing.receipt = none) (paid : done.receipt.isSome = true) :
    ¬ (standing.state = .pendingPayment ∧ standing.held = true) ∧ standing.resolved = false ∧
      ∃ order : Order, order.Shows standing ∧ unpinnable inventory order = false ∧
        Retakeable inventory order := by
  have routed {middle : Inventory} (refunded : Refund now middle standing after done) : False := by
    cases refunded with
    | cancelled shows_row open_payment pending released =>
        rw [show ((standing.pay .manualReview).close .cancelled).receipt = standing.receipt from
            rfl,
          unpaid] at paid
        cases paid
    | kept open_payment settled =>
        rw [show (standing.pay .manualReview).receipt = standing.receipt from rfl, unpaid] at paid
        cases paid
  cases late with
  | undeliverable refunded => exact (routed refunded).elim
  | held open_payment pending held =>
      rw [show (standing.pay .manualReview).receipt = standing.receipt from rfl, unpaid] at paid
      cases paid
  | completed unheld unresolved retaken => exact ⟨unheld, unresolved, retaken.retakeable⟩
  | lost shows_row deliverable unheld failed refunded => exact (routed refunded).elim

theorem Settle.finds (settled : Settle now inventory standing after done)
    (unpaid : standing.receipt = none) (paid : done.receipt.isSome = true) :
    ∃ order : Order, order.Shows standing ∧ unpinnable inventory order = false ∧
      Confirmable inventory order := by
  cases settled with
  | @confirmed order _ _ shows_row confirmed => exact ⟨order, shows_row, confirmed.confirmable⟩
  | refunded routed =>
      cases routed with
      | cancelled shows_row open_payment pending released =>
          rw [show ((standing.pay .manualReview).close .cancelled).receipt = standing.receipt
            from rfl, unpaid] at paid
          cases paid
      | kept open_payment settled =>
          rw [show (standing.pay .manualReview).receipt = standing.receipt from rfl, unpaid] at paid
          cases paid
  | reviewed =>
      rw [show (standing.pay .manualReview).receipt = standing.receipt from rfl, unpaid] at paid
      cases paid

end Rows

/-- A recorded refund stands in the order's state, beside its receipt, or comes
from PayPal. -/
def Standing.Marked (standing : Standing) : Prop :=
  standing.refund.isSome = true → standing.state = .refundedExternal ∨
    standing.receipt.isSome = true ∨ standing.method = some .paypal

section Moves

variable {references : References} {now : Time} {inventory after : Inventory}
  {standing done : Standing} {action : OrderAction} {returned : List Line}

theorem Decided.beside (decided : Decided standing done) :
    done.refund = standing.refund ∧ done.method = standing.method := by
  obtain ⟨state, held, payment, receipt, rfl, -⟩ := decided
  exact ⟨rfl, rfl⟩

theorem Refund.label (routed : Refund now inventory standing after done)
    (refunded : standing.state = .refundedExternal) : done.state = .refundedExternal := by
  cases routed with
  | cancelled shows_row open_payment pending released =>
      rw [pending] at refunded
      cases refunded
  | kept open_payment settled => exact refunded

/-- Late money leaves `refunded_external` with a receipt only. -/
theorem Late.label (late : Late now inventory standing after done)
    (unissued : done.receipt.isSome = true → standing.receipt.isSome = true)
    (refunded : standing.state = .refundedExternal) : done.state = .refundedExternal := by
  cases late with
  | undeliverable routed => exact routed.label refunded
  | held open_payment pending held => exact refunded
  | completed unheld unresolved retaken =>
      cases retaken with
      | intro shows_row reacquired stored confirmed =>
          cases confirmed with
          | intro terms payable deliverable unpaid stocked =>
              have paid := unissued rfl
              rw [unpaid] at paid
              cases paid
  | lost shows_row deliverable unheld failed routed => exact routed.label refunded

theorem Settle.label (settled : Settle now inventory standing after done)
    (unissued : done.receipt.isSome = true → standing.receipt.isSome = true)
    (refunded : standing.state = .refundedExternal) : done.state = .refundedExternal := by
  cases settled with
  | confirmed shows_row confirmed =>
      cases confirmed with
      | intro terms payable deliverable unpaid stocked =>
          have paid := unissued rfl
          rw [unpaid] at paid
          cases paid
  | refunded routed => exact routed.label refunded
  | reviewed => exact refunded

/-- Where a receipt comes from: late money that takes the stock again, money on
time for stock that is held, or money for an order that is still open. -/
inductive Finds (inventory : Inventory) (standing : Standing) : OrderAction → Prop
  | late {action : OrderAction} {order : Order} (entered : EntersLate standing action)
      (unheld : ¬ (standing.state = .pendingPayment ∧ standing.held = true))
      (unresolved : standing.resolved = false) (terms : order.terms = standing.terms)
      (deliverable : unpinnable inventory order = false)
      (retakes : Retakeable inventory order) : Finds inventory standing action
  | onTime {action : OrderAction} {order : Order}
      (rail : action.rail = some .fiat ∨ action.rail = some .locks)
      (awaiting : standing.payment = .awaitingEntitlement) (shows_row : order.Shows standing)
      (deliverable : unpinnable inventory order = false)
      (confirms : Confirmable inventory order) : Finds inventory standing action
  | sandbox {sender : Sender} {confirmations windowSeconds : ℕ} {order : Order}
      (sandbox : standing.adapter = .sandbox)
      (open_payment : standing.payment = .awaitingEntitlement ∨ standing.payment = .detected)
      (shows_row : order.Shows standing) (deliverable : unpinnable inventory order = false)
      (confirms : Confirmable inventory order) :
      Finds inventory standing (.advanceSandbox sender .confirmed confirmations windowSeconds)
  | opened {action : OrderAction}
      (open_order : standing.state = .pendingPayment ∨ standing.state = .cancelled)
      (other : standing.method ≠ some .paypal) : Finds inventory standing action

inductive RefundMove (inventory : Inventory) (standing : Standing) (action : OrderAction)
    (done : Standing) : Prop
  | kept (receipt : done.receipt = standing.receipt) (refund : done.refund = standing.refund)
      (method : standing.method = some .paypal → done.method = some .paypal)
      (label : standing.state = .refundedExternal → done.state = .refundedExternal)
  | recorded (receipt : done.receipt = standing.receipt) (label : done.state = .refundedExternal)
  | issued (unpaid : standing.receipt = none) (paid : done.receipt.isSome = true)
      (finds : Finds inventory standing action)

theorem RefundMove.marked (moved : RefundMove inventory standing action done)
    (marked : standing.Marked) : done.Marked := by
  intro recorded
  cases moved with
  | kept receipt refund method label =>
      rw [refund] at recorded
      rcases marked recorded with refunded | paid | paypal
      · exact .inl (label refunded)
      · rw [receipt]
        exact .inr (.inl paid)
      · exact .inr (.inr (method paypal))
  | recorded receipt label => exact .inl label
  | issued unpaid paid finds => exact .inr (.inl paid)

theorem RefundMove.of_receipts {lines : List Line} (receipts : Receipts standing done lines)
    (refund : done.refund = standing.refund) (method : done.method = standing.method)
    (label : done.receipt = standing.receipt → standing.state = .refundedExternal →
      done.state = .refundedExternal)
    (finds : standing.receipt = none → done.receipt.isSome = true →
      Finds inventory standing action) : RefundMove inventory standing action done := by
  have paypal (bound : standing.method = some .paypal) : done.method = some .paypal :=
    method.trans bound
  cases receipts with
  | issued unpaid paid => exact .issued unpaid paid (finds unpaid paid)
  | kept same _ => exact .kept same refund paypal (label same)
  | gaveBack same _ _ _ => exact .kept same refund paypal (label same)

theorem Settle.refundMove (settled : Settle now inventory standing after done)
    (finds : standing.receipt = none → done.receipt.isSome = true →
      Finds inventory standing action) : RefundMove inventory standing action done := by
  obtain ⟨refund, method⟩ := settled.decided.beside
  refine .of_receipts settled.receipts refund method ?_ finds
  intro same refunded
  refine settled.label ?_ refunded
  rw [same]
  exact id

theorem Late.refundMove {other : Standing} (late : Late now inventory standing after done)
    (receipt : standing.receipt = other.receipt) (refund : standing.refund = other.refund)
    (method : other.method = some .paypal → standing.method = some .paypal)
    (state : standing.state = other.state)
    (finds : standing.receipt = none → done.receipt.isSome = true →
      Finds inventory other action) : RefundMove inventory other action done := by
  obtain ⟨recorded, bound⟩ := late.decided.beside
  have kept (same : done.receipt = standing.receipt) :
      RefundMove inventory other action done := by
    refine .kept (same.trans receipt) (recorded.trans refund)
      (fun paypal => bound.trans (method paypal)) fun refunded => ?_
    refine late.label ?_ (state.trans refunded)
    rw [same]
    exact id
  cases late.receipts with
  | issued unpaid paid => exact .issued (receipt.symm.trans unpaid) paid (finds unpaid paid)
  | kept same _ => exact kept same
  | gaveBack same _ _ _ => exact kept same

theorem Coherent.adapter_paypal (coherent : Coherent standing) {adapter : Adapter}
    (named : standing.adapter = adapter) (other : adapter ≠ .paypal) :
    standing.method ≠ some .paypal := by
  intro bound
  exact other (named.symm.trans (coherent.paypal.mp bound))

theorem RefundMove.of_same (receipt : done.receipt = standing.receipt)
    (refund : done.refund = standing.refund) (method : done.method = standing.method)
    (state : done.state = standing.state) : RefundMove inventory standing action done :=
  .kept receipt refund method.trans state.trans

theorem RefundMove.of_unrefunded (receipt : done.receipt = standing.receipt)
    (refund : done.refund = standing.refund)
    (method : standing.method = some .paypal → done.method = some .paypal)
    (unrefunded : standing.state ≠ .refundedExternal) :
    RefundMove inventory standing action done :=
  .kept receipt refund method fun refunded => absurd refunded unrefunded

theorem RefundMove.relabel {last : Standing} (moved : RefundMove inventory standing action done)
    (receipt : last.receipt = done.receipt) (refund : last.refund = done.refund)
    (method : last.method = done.method) (state : last.state = done.state) :
    RefundMove inventory standing action last := by
  cases moved with
  | kept same kept bound label =>
      exact .kept (receipt.trans same) (refund.trans kept)
        (fun paypal => method.trans (bound paypal)) fun refunded => state.trans (label refunded)
  | recorded same label => exact .recorded (receipt.trans same) (state.trans label)
  | issued unpaid paid finds =>
      rw [← receipt] at paid
      exact .issued unpaid paid finds

theorem Confirm.refundMove {order : Order} {middle stocked : Inventory}
    (confirmed : Confirm now order middle standing stocked done)
    (finds : Finds inventory standing action) : RefundMove inventory standing action done := by
  cases confirmed with
  | intro terms payable deliverable unpaid stocked => exact .issued unpaid rfl finds

theorem Closes.refundMove {payment : PaymentState} {state : OrderState}
    {refund : Option ExternalRefund} (closed : Closes standing payment state refund)
    (unrefunded : standing.state ≠ .refundedExternal) (receipt : done.receipt = standing.receipt)
    (recorded : done.refund = refund) (method : done.method = standing.method)
    (label : done.state = state) : RefundMove inventory standing action done := by
  cases closed with
  | refunded refund => exact .recorded receipt label
  | abandoned => exact .of_unrefunded receipt recorded method.trans unrefunded

theorem Resolve.refundMove (other : standing.method ≠ some .paypal)
    (resolved : Resolve now inventory standing after done) :
    RefundMove inventory standing action done := by
  cases resolved with
  | intact shows_row pending present confirmed =>
      exact confirmed.refundMove (.opened (.inl pending) other)
  | retaken shows_row open_order lost retaken =>
      cases retaken with
      | intro shows_row reacquired stored confirmed =>
          exact confirmed.refundMove (.opened open_order other)
  | gaveBack shows_row pending closed released =>
      exact closed.refundMove (by simp [pending]) rfl rfl rfl rfl
  | closed cancelled closed => exact closed.refundMove (by simp [cancelled]) rfl rfl rfl rfl

/-- A cancelled request keeps what PayPal was bound to. -/
theorem RefundMove.of_ended (pending : standing.state = .pendingPayment) :
    RefundMove inventory standing action (standing.endRequest.close .cancelled) := by
  obtain ⟨payment, -, same | ⟨preparing, same⟩⟩ := standing.endRequest_cases
  · rw [same]
    exact .of_unrefunded rfl rfl id (by simp [pending])
  · rw [same]
    exact .of_unrefunded rfl rfl id (by simp [pending])

theorem Late.refundMove_polled {seen : Option Observation} {observed : Option ℕ}
    (coherent : Coherent standing) (speaks : Speaks action standing)
    (rail : action.rail = some .poll) (money : action.appliesMoney = true)
    (open_payment : standing.payment = .awaitingEntitlement ∨ standing.payment = .expired)
    (late : Late now inventory (standing.report seen observed) after done) :
    RefundMove inventory standing action done := by
  refine late.refundMove rfl rfl id rfl fun unpaid paid => ?_
  rcases open_payment with awaiting | expired
  · unfold Speaks at speaks
    rw [rail] at speaks
    exact .opened (.inl (coherent.open_payment speaks.1 awaiting).1) (by simp [speaks.1])
  · obtain ⟨unheld, unresolved, order, shows_row, deliverable, retakes⟩ := late.finds unpaid paid
    exact .late (.expired rail money expired) unheld unresolved shows_row.terms deliverable retakes

theorem Settle.refundMove_acquired {middle : Inventory} {held : Standing} {sender : Sender}
    {confirmations windowSeconds : ℕ} (coherent : Coherent standing)
    (sandbox : standing.adapter = .sandbox)
    (open_payment : standing.payment = .awaitingEntitlement ∨ standing.payment = .detected)
    (acquired : Acquire inventory standing middle held ∨ middle = inventory ∧ held = standing)
    (settled : Settle now middle held after done) :
    RefundMove inventory standing
      (.advanceSandbox sender .confirmed confirmations windowSeconds) done := by
  have direct {stocked : Inventory} (settled : Settle now inventory standing stocked done) :
      RefundMove inventory standing
        (.advanceSandbox sender .confirmed confirmations windowSeconds) done := by
    refine settled.refundMove fun unpaid paid => ?_
    obtain ⟨order, shows_row, deliverable, confirms⟩ := settled.finds unpaid paid
    exact .sandbox sandbox open_payment shows_row deliverable confirms
  rcases acquired with taken | ⟨rfl, rfl⟩
  · cases taken with
    | auction auctioned => exact direct settled
    | kept single pending held => exact direct settled
    | taken single pending free acquired =>
        obtain ⟨refund, method⟩ := settled.decided.beside
        refine .of_receipts (settled.receipts.relabel ⟨rfl, rfl, rfl⟩ ⟨rfl, rfl⟩) refund method ?_
          fun _ _ => .opened (.inl pending) (coherent.adapter_paypal sandbox (by simp))
        intro _ refunded
        cases pending.symm.trans refunded
  · exact direct settled

theorem Move.refundMove (coherent : Coherent standing) (speaks : Speaks action standing)
    (move : Move references now inventory standing action returned after done) :
    RefundMove inventory standing action done := by
  cases move with
  | stay => exact .of_same rfl rfl rfl rfl
  | bindFiat known chosen unbound pending awaiting unlocked acquired =>
      obtain ⟨held, rfl, -, -⟩ := acquired.frame
      exact .of_unrefunded rfl rfl (by simp [unbound]) (by simp [pending])
  | bindBitcoin chosen prepared unbound pending awaiting unlocked acquired =>
      obtain ⟨held, rfl, -, -⟩ := acquired.frame
      exact .of_unrefunded rfl rfl (by simp [unbound]) (by simp [pending])
  | activate answer preparing => exact .of_same rfl rfl rfl rfl
  | track answer current voided settled =>
      obtain ⟨payment, same, -, -⟩ := standing.activate.lapse_frame
      split
      · rw [same]
        exact .of_same rfl rfl rfl rfl
      · exact .of_same rfl rfl rfl rfl
  | voidPrepare answer voids shows_row preparing released =>
      obtain ⟨bound, -⟩ := coherent.preparing preparing
      exact .kept rfl rfl (by simp [bound]) id
  | dropRequest preparing settled => exact .of_same rfl rfl rfl rfl
  | expirePreparing answer shows_row preparing released =>
      have pending := (coherent.open_payment (coherent.preparing preparing).1
        (coherent.preparing preparing).2.1).1
      exact .of_unrefunded rfl rfl id (by simp [pending])
  | expireHeld shows_row pending held settled outside open_payment released =>
      obtain ⟨payment, same, -, -⟩ := standing.lapse_frame
      rw [same]
      exact .of_unrefunded rfl rfl id (by simp [pending])
  | expireIdle pending free unbound single unstamped awaiting =>
      exact .of_unrefunded rfl rfl id (by simp [pending])
  | cancelPending shows_row pending outside released => exact .of_ended pending
  | cancelPaid shows_row paid returned =>
      refine .of_unrefunded rfl rfl id ?_
      rcases paid with same | same <;> simp [same]
  | requestCancel paid =>
      refine .of_unrefunded rfl rfl id ?_
      rcases paid with same | same | same <;> simp [same]
  | approveCancel shows_row requested releasable returned =>
      exact .of_unrefunded rfl rfl id (by simp [requested])
  | @fulfil _ state refund command paid ended ready label recorded =>
      by_cases refunded : state = .refundedExternal
      · exact .recorded rfl refunded
      · rw [if_neg refunded] at recorded
        refine .of_unrefunded rfl recorded id fun was => ?_
        simp [was] at paid
  | settle rail awaiting settled =>
      refine settled.refundMove fun unpaid paid => ?_
      obtain ⟨order, shows_row, deliverable, confirms⟩ := settled.finds unpaid paid
      exact .onTime rail awaiting shows_row deliverable confirms
  | late rail money expired late =>
      refine late.refundMove rfl rfl id rfl fun unpaid paid => ?_
      obtain ⟨unheld, unresolved, order, shows_row, deliverable, retakes⟩ := late.finds unpaid paid
      have entered : EntersLate standing action := by
        rcases rail with named | named <;> exact .expired named money expired
      exact .late entered unheld unresolved shows_row.terms deliverable retakes
  | settlePoll rail awaiting gate settled froze =>
      unfold Speaks at speaks
      rw [rail] at speaks
      have pending := (coherent.open_payment speaks.1 awaiting).1
      refine (settled.refundMove fun _ _ => ?_).relabel rfl rfl rfl rfl
      exact .opened (.inl pending) (by simp [speaks.1])
  | latePoll rail money open_payment outside froze late =>
      exact late.refundMove_polled coherent speaks rail money open_payment
  | fallback advanced froze => exact .of_same rfl rfl rfl rfl
  | confirmSeller window awaiting confirmed froze first queued pinned =>
      obtain ⟨bound, -⟩ := coherent.window window
      have pending := (coherent.open_payment bound awaiting).1
      refine (confirmed.refundMove ?_).relabel rfl rfl rfl rfl
      exact .opened (.inl pending) (by simp [bound])
  | windowLapsed request awaiting opened due froze => exact .of_same rfl rfl rfl rfl
  | resolve paykit review unresolved resolved first queued pinned =>
      exact (resolved.refundMove (coherent.adapter_paypal paykit (by simp))).relabel rfl rfl rfl rfl
  | routeMismatch watching unbound paykit open_payment outside untracked unresolved froze =>
      refine .kept rfl rfl ?_ id
      rcases unbound with bound | bound <;> simp [bound]
  | @routeLate claimed observation pins reference _ restored _ seen observed watching unbound paykit
      open_payment outside untracked froze swapped late =>
      have same := swapped.eq
      refine late.refundMove (by rw [same]; rfl) (by rw [same]; rfl) ?_ (by rw [same]; rfl)
        fun unpaid paid => ?_
      · rcases unbound with bound | bound <;> simp [bound]
      · obtain ⟨unheld, unresolved, order, shows_row, deliverable, retakes⟩ :=
          late.finds unpaid paid
        rw [same] at unheld unresolved
        have terms : order.terms = standing.terms := by
          rw [shows_row.terms, same]
          rfl
        exact .late (.released unbound paykit open_payment outside untracked) unheld unresolved
          terms deliverable retakes
  | detect rail pending => exact .of_same rfl rfl rfl rfl
  | refresh rail request amount => exact .of_same rfl rfl rfl rfl
  | enterWindow rail entry reported awaiting froze first extended => exact .of_same rfl rfl rfl rfl
  | sandbox sandbox target_ok unconfirmed acquired =>
      rcases acquired with taken | ⟨-, rfl⟩
      · obtain ⟨held, rfl, -, -⟩ := taken.frame
        exact .of_same rfl rfl rfl rfl
      · exact .of_same rfl rfl rfl rfl
  | sandboxSettle sandbox open_payment acquired settled =>
      exact settled.refundMove_acquired coherent sandbox open_payment acquired
  | prepareLocks unbound unlocked pending awaiting priced acquired =>
      obtain ⟨held, rfl, -, -⟩ := acquired.frame
      exact .of_same rfl rfl rfl rfl
  | registerLocks locks => exact .of_same rfl rfl rfl rfl

end Moves

end MarketplaceService
