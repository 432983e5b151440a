import MarketplaceService.ReleasedMoney
import MarketplaceService.Rulings
import MarketplaceService.StockLedger

/-!
The ways out of a manual review. A review that is neither paid nor answered is
abandoned by the seller or by the reaper, or closed by the seller's refund. Both
need an order that is still pending or cancelled, and the refund needs an
observed amount that the order row accepts as a refund.
-/

namespace MarketplaceService

/-- Every abandonment and every refund that its callers let through commits. -/
def ReviewCloses (view : View) : Prop :=
  ∀ (input : ResolutionInput) (now : Time), input.requested view.book.order = true →
    input.outcome = .abandoned ∨ input.outcome = .refunded →
      ∃ after, applyManualReviewResolution view input now = .ok after

/-- The hold of a pending order is accounted to the rows it is given back
to. -/
def HoldReturnable (inventory : Inventory) (order : Order) : Prop :=
  match order.auctionAggregateId with
  | none => HeldReturnable inventory order
  | some auction =>
      inventory.reservations.countWhere (isWinningHold auction order.buyerPubky) ≠ 0 →
        ∀ line ∈ order.lines, ∃ listing ∈ inventory.listings.find? line.listing,
          linesOn line.listing order.lines ≤ listing.reservedQuantity

/-- The rows that a way out of the review needs. -/
structure ReviewClosable (view : View) : Prop where
  unrefunded : view.book.order.state ≠ .refundedExternal
  observed : ∃ sats ∈ view.book.order.paykitObservedSats,
    sats ≤ max view.book.order.totalMinor
      (view.book.order.paykitTotalSats.getD view.book.order.totalMinor)
  hold : view.book.order.state = .pendingPayment →
    HoldReturnable view.inventory view.book.order

/-! The hold. -/

theorem releaseReservedHold_ok_iff (inventory : Inventory) (auction : ListingId) (order : Order) :
    (∃ after, releaseReservedHold inventory auction order = .ok after) ↔
      (inventory.reservations.countWhere (isWinningHold auction order.buyerPubky) ≠ 0 →
        ∀ line ∈ order.lines, ∃ listing ∈ inventory.listings.find? line.listing,
          linesOn line.listing order.lines ≤ listing.reservedQuantity) := by
  unfold releaseReservedHold
  by_cases none_held :
      inventory.reservations.countWhere (isWinningHold auction order.buyerPubky) = 0
  · simp [none_held]
  · simp only [none_held, if_false, ne_eq, not_false_eq_true, forall_const]
    rw [orRollback_ok_iff]
    have completes := @forLines_completes _ listingMissing releaseReservedMove order.lines
      { inventory with
        reservations := inventory.reservations.updateWhere
          (isWinningHold auction order.buyerPubky) fun reservation =>
            { reservation with status := .released } }
    simpa [releaseLines, releaseReservedMove] using completes

theorem cancelledHold_ok_iff (inventory : Inventory) (order : Order) (now : Time) :
    (∃ after, cancelledHold inventory order now = .ok after) ↔ HoldReturnable inventory order := by
  unfold cancelledHold HoldReturnable
  cases auctioned : order.auctionAggregateId with
  | none => exact releaseHeld_ok_iff inventory order now
  | some auction => exact releaseReservedHold_ok_iff inventory auction order

theorem cancelHeldOrder_ok_iff (view : View) (reason : String) (now : Time) :
    (∃ after, cancelHeldOrder view reason now = .ok after) ↔
      HoldReturnable view.inventory view.book.order := by
  rw [← cancelledHold_ok_iff view.inventory view.book.order now]
  constructor
  · rintro ⟨after, cancelled⟩
    exact ⟨after.inventory, (cancelHeldOrder_ok cancelled).1⟩
  · rintro ⟨inventory, released⟩
    unfold cancelledHold at released
    unfold cancelHeldOrder
    cases auctioned : view.book.order.auctionAggregateId with
    | none =>
        simp only [auctioned] at released
        simp [auctioned, released, bind, Except.bind, pure, Except.pure]
    | some auction =>
        simp only [auctioned] at released
        simp [auctioned, released, bind, Except.bind, pure, Except.pure]

/-! The effects of the two outcomes. -/

/-- A payment under review as the runs leave it: nothing was ruled on it, its
order was never paid, and what was seen of the money is in order. -/
structure OpenReview (book : OrderBook) : Prop where
  paykit : book.payment.adapter = .paykit
  review : book.payment.state = .manualReview
  unresolved : book.payment.resolution = none
  unruled : book.manualResolution = none
  unqueued : book.resolveOutbox = none
  pinned : book.order.paykitPins.isSome = true
  unpaid : book.order.state ∈ unpaidStates
  sighted : Sighted book.standing

def OrderBook.unruled (book : OrderBook) : Prop :=
  book.manualResolution = none ∧ book.resolveOutbox = none

theorem applyAbandonedEffects_ok_iff (view : View) (now : Time)
    (unpaid : view.book.order.state ∈ unpaidStates) (unruled : view.book.unruled) :
    (∃ after, applyAbandonedEffects view now = .ok after ∧ after.book.unruled) ↔
      view.book.order.state ≠ .refundedExternal ∧
        (view.book.order.state = .pendingPayment →
          HoldReturnable view.inventory view.book.order) := by
  unfold applyAbandonedEffects
  simp only [unpaidStates, List.mem_cons, List.not_mem_nil, or_false] at unpaid
  rcases unpaid with pending | cancelled | refunded
  · rw [pending, ← cancelHeldOrder_ok_iff view "closed after manual review" now]
    simp only [ne_eq, reduceCtorEq, not_false_eq_true, forall_const, true_and]
    constructor
    · rintro ⟨after, applied, -⟩
      exact ⟨after, applied⟩
    · rintro ⟨after, applied⟩
      refine ⟨after, applied, ?_⟩
      rw [OrderBook.unruled, (cancelHeldOrder_ok applied).2]
      exact unruled
  · simp [cancelled, unruled]
  · simp [refunded]

theorem refundRow_ok_iff {book : OrderBook} {sats : ℕ} {reference : String}
    (pinned : book.order.paykitPins.isSome = true)
    (observed : ∀ sats ∈ book.order.paykitObservedSats, 0 < sats)
    (window : (book.order.paykitRequestState.all fun state =>
      (state == .awaitingSellerConfirmation) == book.order.sellerWindow.isSome) = true)
    (frozen : book.order.paykitObservedSats = some sats) :
    (∃ after, book.updateOrder { book.order with
      revision := book.order.revision + 1
      state := .refundedExternal
      externalRefund := some { amountMinor := sats, reference := reference } } = .ok after) ↔
      sats ≤ max book.order.totalMinor
        (book.order.paykitTotalSats.getD book.order.totalMinor) := by
  rw [updateOrder_ok_iff]
  have kept : book.order.keepsObserved { book.order with
      revision := book.order.revision + 1
      state := .refundedExternal
      externalRefund := some { amountMinor := sats, reference := reference } } = true := by
    simp [Order.keepsObserved]
  have seen : (book.order.paykitObservedSats.all fun sats => decide (0 < sats) &&
      book.order.paykitPins.isSome) = true := by
    rw [Option.all_eq_true]
    intro sats stored
    simp [observed sats stored, pinned]
  simp only [kept, true_and, Order.checks, Bool.and_eq_true, seen, window]
  simp [observed sats frozen, Order.paykitTotalSats]

/-- The row of the order lets a refund be recorded on it. -/
structure Refundable (order : Order) : Prop where
  pinned : order.paykitPins.isSome = true
  observed : ∀ sats ∈ order.paykitObservedSats, 0 < sats
  window : (order.paykitRequestState.all fun state =>
    (state == .awaitingSellerConfirmation) == order.sellerWindow.isSome) = true

theorem applyRefundedEffects_ok_iff (view : View) (input : ResolutionInput) (now : Time)
    (unpaid : view.book.order.state ∈ unpaidStates) (unruled : view.book.unruled)
    (refundable : Refundable view.book.order) :
    (∃ after, applyRefundedEffects view input now = .ok after ∧ after.book.unruled) ↔
      ReviewClosable view := by
  obtain ⟨pinned, observed, window⟩ := refundable
  constructor
  · rintro ⟨after, applied, -⟩
    unfold applyRefundedEffects at applied
    simp only at applied
    split at applied
    · rename_i pending
      obtain ⟨closed, ran, rest⟩ := Outcome.bind_ok applied
      have book := (cancelHeldOrder_ok ran).2
      obtain ⟨-, rest⟩ := Outcome.guard_ok rest
      split at rest
      · cases rest
      · rename_i sats frozen
        obtain ⟨row, updated, -⟩ := Outcome.bind_ok rest
        have fits := (@refundRow_ok_iff closed.book sats (input.refundReference.getD "")
          (by rw [book]; exact pinned) (by rw [book]; exact observed) (by rw [book]; exact window)
          (by rw [book]; exact frozen)).mp ⟨row, updated⟩
        rw [book] at fits
        exact ⟨by simp [pending], ⟨sats, frozen, fits⟩, fun _ =>
          (cancelHeldOrder_ok_iff view _ now).mp ⟨closed, ran⟩⟩
    · rename_i settled
      obtain ⟨same, kept, rest⟩ := Outcome.bind_ok applied
      cases kept
      obtain ⟨cancelled, rest⟩ := Outcome.guard_ok rest
      have closed := not_not.mp cancelled
      split at rest
      · cases rest
      · rename_i sats frozen
        obtain ⟨row, updated, -⟩ := Outcome.bind_ok rest
        have fits := (refundRow_ok_iff pinned observed window frozen).mp ⟨row, updated⟩
        exact ⟨by simp [closed], ⟨sats, frozen, fits⟩, fun pending => absurd pending settled⟩
  · rintro ⟨unrefunded, ⟨sats, frozen, fits⟩, hold⟩
    simp only [Option.mem_def] at frozen
    unfold applyRefundedEffects
    simp only [unpaidStates, List.mem_cons, List.not_mem_nil, or_false] at unpaid
    rcases unpaid with pending | cancelled | refunded
    · obtain ⟨closed, ran⟩ := (cancelHeldOrder_ok_iff view
        "refunded by the seller after manual review" now).mpr (hold pending)
      have book := (cancelHeldOrder_ok ran).2
      have state : closed.book.order.state = .cancelled := by rw [book]
      obtain ⟨row, updated⟩ := (@refundRow_ok_iff closed.book sats (input.refundReference.getD "")
        (by rw [book]; exact pinned) (by rw [book]; exact observed) (by rw [book]; exact window)
        (by rw [book]; exact frozen)).mpr (by rw [book]; exact fits)
      refine ⟨{ closed with book := row }, ?_, ?_⟩
      · simp [pending, ran, state, frozen, updated, bind, Except.bind, pure, Except.pure]
      · rw [OrderBook.unruled, (updateOrder_ok updated).1, book]
        exact unruled
    · obtain ⟨row, updated⟩ := (@refundRow_ok_iff view.book sats (input.refundReference.getD "")
        pinned observed window frozen).mpr fits
      refine ⟨{ view with book := row }, ?_, ?_⟩
      · simp only [frozen] at updated
        simp [cancelled, frozen, updated, bind, Except.bind, pure, Except.pure]
      · rw [OrderBook.unruled, (updateOrder_ok updated).1]
        exact unruled
    · exact absurd refunded unrefunded

/-! The resolution. -/

theorem enqueueResolveRow_total {book : OrderBook} {order : Order}
    (pinned : order.paykitPins.isSome = true) (unqueued : book.resolveOutbox = none) :
    ∃ queued, enqueueResolveRow book order = .ok queued := by
  obtain ⟨pins, present⟩ := Option.isSome_iff_exists.mp pinned
  simp [enqueueResolveRow, present, unqueued]

/-- The payment row of a resolution, before its effects. -/
def resolvedView (view : View) (input : ResolutionInput) : View :=
  { view with
    book.payment.state :=
      (if input.outcome = .abandoned then .expired else .confirmed : PaymentState)
    book.payment.revision := view.book.payment.revision + 1
    book.payment.manualReviewEnteredAt := none
    book.payment.resolution := some
      { id := input.resolutionId
        outcome := input.outcome
        bySeller := input.resolvedBy
        refundReference := input.refundReference } }

/-- The two audit rows after the effects of an outcome. -/
def writeRuling (order : Order) (input : ResolutionInput) (now : Time) (applied : View) :
    Except Failure View :=
  if applied.book.manualResolution.isSome = true then
    .error (.database "paykit_manual_resolutions_pkey")
  else
    enqueueResolveRow { applied.book with
      manualResolution := some (manualResolutionRow applied.book.order input now) } order >>=
        fun book => pure { applied with book := book }

theorem writeRuling_ok_iff {effects : Except Failure View} {order : Order}
    {input : ResolutionInput} {now : Time} (pinned : order.paykitPins.isSome = true) :
    (∃ after, (effects >>= writeRuling order input now) = .ok after) ↔
      ∃ applied, effects = .ok applied ∧ applied.book.unruled := by
  constructor
  · rintro ⟨after, ran⟩
    obtain ⟨applied, effect, ran⟩ := Outcome.bind_ok ran
    obtain ⟨first, ran⟩ := Outcome.guard_ok ran
    obtain ⟨queued, enqueued, -⟩ := Outcome.bind_ok ran
    exact ⟨applied, effect, by simpa using first, (enqueueResolveRow_ok enqueued).2.1⟩
  · rintro ⟨applied, rfl, first, unqueued⟩
    obtain ⟨queued, enqueued⟩ := @enqueueResolveRow_total
      { applied.book with
        manualResolution := some (manualResolutionRow applied.book.order input now) }
      order pinned unqueued
    simp [writeRuling, first, enqueued, bind, Except.bind, pure, Except.pure]

theorem abandonment_eq {view : View} {input : ResolutionInput} (now : Time)
    (review : OpenReview view.book) (abandoned : input.outcome = .abandoned)
    (unreferenced : input.refundReference = none) :
    applyManualReviewResolution view input now =
      (applyAbandonedEffects (resolvedView view input) now >>=
        writeRuling view.book.order input now) := by
  have reviewed := review.review
  unfold applyManualReviewResolution
  simp only [abandoned]
  rw [if_neg (by simp [review.paykit, reviewed, review.unresolved]), if_neg (by simp),
    if_neg (by simp [unreferenced])]
  rw [resolvedView, abandoned]
  rfl

theorem refund_eq {view : View} {input : ResolutionInput} (now : Time)
    (review : OpenReview view.book) (refunded : input.outcome = .refunded)
    (referenced : input.refundReference.isSome = true) :
    applyManualReviewResolution view input now =
      (applyRefundedEffects (resolvedView view input) input now >>=
        writeRuling view.book.order input now) := by
  have reviewed := review.review
  unfold applyManualReviewResolution
  simp only [refunded]
  rw [if_neg (by simp [review.paykit, reviewed, review.unresolved]), if_neg (by simp),
    if_neg (by simp [referenced])]
  rw [resolvedView, refunded]
  rfl

/-- A review under a row whose window columns agree lets a refund be recorded. -/
theorem OpenReview.refundable {book : OrderBook} (review : OpenReview book) :
    Refundable book.order := by
  refine ⟨review.pinned, review.sighted.positive, ?_⟩
  have window := review.sighted.window
  change book.order.sellerWindow.isSome = true ↔
    book.order.paykitRequestState = some .awaitingSellerConfirmation at window
  cases request : book.order.paykitRequestState with
  | none => rfl
  | some state =>
      rw [request] at window
      by_cases waiting : state = .awaitingSellerConfirmation
      · simp [waiting, window.mpr (by rw [waiting])]
      · have closed : book.order.sellerWindow = none := by simpa [waiting] using window
        simp [waiting, closed]

theorem review_abandons_iff {view : View} {input : ResolutionInput} (now : Time)
    (review : OpenReview view.book) (abandoned : input.outcome = .abandoned)
    (unreferenced : input.refundReference = none) :
    (∃ after, applyManualReviewResolution view input now = .ok after) ↔
      view.book.order.state ≠ .refundedExternal ∧
        (view.book.order.state = .pendingPayment →
          HoldReturnable view.inventory view.book.order) := by
  rw [abandonment_eq now review abandoned unreferenced, writeRuling_ok_iff review.pinned]
  exact applyAbandonedEffects_ok_iff (resolvedView view input) now review.unpaid
    ⟨review.unruled, review.unqueued⟩

theorem review_refunds_iff {view : View} {input : ResolutionInput} (now : Time)
    (review : OpenReview view.book) (refunded : input.outcome = .refunded)
    (referenced : input.refundReference.isSome = true) :
    (∃ after, applyManualReviewResolution view input now = .ok after) ↔ ReviewClosable view := by
  rw [refund_eq now review refunded referenced, writeRuling_ok_iff review.pinned,
    applyRefundedEffects_ok_iff (resolvedView view input) input now review.unpaid
      ⟨review.unruled, review.unqueued⟩ review.refundable]
  exact ⟨fun ⟨unrefunded, observed, hold⟩ => ⟨unrefunded, observed, hold⟩,
    fun ⟨unrefunded, observed, hold⟩ => ⟨unrefunded, observed, hold⟩⟩

def sellerRefund (order : Order) : ResolutionInput :=
  { outcome := .refunded
    resolutionId := 0
    resolvedBy := some order.sellerPubky
    refundReference := some "r" }

theorem sellerRefund_requested (order : Order) : (sellerRefund order).requested order = true := by
  have valid : validRefundReference "r" = true := by decide +kernel
  simp [sellerRefund, ResolutionInput.requested, valid]

theorem requested_reference {input : ResolutionInput} {order : Order}
    (requested : input.requested order = true) :
    (input.outcome = .abandoned → input.refundReference = none) ∧
      (input.outcome = .refunded → input.refundReference.isSome = true) := by
  unfold ResolutionInput.requested at requested
  constructor
  · intro abandoned
    cases who : input.resolvedBy <;> simp_all
  · intro refunded
    cases who : input.resolvedBy with
    | none => simp_all
    | some actor =>
        cases reference : input.refundReference <;> simp_all

theorem openReview_closes_iff {view : View} (review : OpenReview view.book) :
    ReviewCloses view ↔ ReviewClosable view := by
  constructor
  · intro closes
    have refunded := closes (sellerRefund view.book.order) 0 (sellerRefund_requested _) (.inr rfl)
    exact (review_refunds_iff 0 review rfl rfl).mp refunded
  · intro closable input now requested outcome
    obtain ⟨unreferenced, referenced⟩ := requested_reference requested
    rcases outcome with abandoned | refunded
    · exact (review_abandons_iff now review abandoned (unreferenced abandoned)).mpr
        ⟨closable.unrefunded, closable.hold⟩
    · exact (review_refunds_iff now review refunded (referenced refunded)).mpr closable

/-! Over every run. -/

theorem reachable_openReview {references : References} {allowed : Sys → Action → Prop} {sys : Sys}
    (reached : Runs.Reachable (marketplace references) allowed sys) {id : OrderId} {cell : Cell}
    (found : sys.cells.find? id = some cell) (paykit : cell.book.payment.adapter = .paykit)
    (review : cell.book.payment.state = .manualReview) : OpenReview cell.book := by
  have coherent := (reachable_sound reached found).coherent
  obtain ⟨ruled, sighted⟩ := reachable_ruled reached found
  have unruled := ruled.unruled (by simp [show cell.book.standing.payment = _ from review])
    (by simp [show cell.book.standing.payment = _ from review])
  have unresolved : cell.book.payment.resolution = none := by
    have none_ruled : cell.book.standing.ruling.resolution.isSome ≠ true := by simp [unruled]
    have open_payment : cell.book.standing.resolved ≠ true :=
      fun resolved => none_ruled (ruled.resolution.mpr resolved)
    simpa [OrderBook.standing] using open_payment
  have unpaid : cell.book.order.state ∈ unpaidStates := by
    by_contra paid
    have receipt := ((reachable_givenBack reached found).paid paid).1
    have confirmed := (coherent.receipt receipt).1
    rw [show cell.book.standing.payment = .manualReview from review] at confirmed
    cases confirmed
  exact
    { paykit := paykit
      review := review
      unresolved := unresolved
      unruled := congrArg Ruling.resolution unruled
      unqueued := congrArg Ruling.outbox unruled
      pinned := coherent.pinned (coherent.bitcoin.mpr paykit)
      unpaid := unpaid
      sighted := sighted }

/-- In every reachable state a review is closed by every abandonment and every
refund exactly when its rows let it. -/
theorem manual_review_closes_iff (references : References) (sys : Sys)
    (reached : Runs.Reachable (marketplace references) Runs.anyStep sys) (id : OrderId)
    (cell : Cell)
    (found : sys.cells.find? id = some cell) (paykit : cell.book.payment.adapter = .paykit)
    (review : cell.book.payment.state = .manualReview) :
    ReviewCloses ⟨sys.inventory, cell.book⟩ ↔ ReviewClosable ⟨sys.inventory, cell.book⟩ :=
  openReview_closes_iff (reachable_openReview reached found paykit review)

/-- A lamp whose money came after it expired and was reserved for another. -/
def reviewedLamp : List Action :=
  polledLamp ++
  [ .order 7 600 .expireWindow
  , .reserveInventory 1 "lamp" ⟨"other", 3⟩ 1 600
  , .order 7 700 (.applyPoll (pendingClaim 1) confirmedReport) ]

theorem reviewed_lamp_closes :
    ∃ sys, Runs.Reachable (marketplace sampleReferences) Runs.anyStep sys ∧
      ∃ cell ∈ sys.cells.find? 7, cell.book.payment.state = .manualReview ∧
        ReviewCloses ⟨sys.inventory, cell.book⟩ := by
  obtain ⟨sys, reached, cell, found, paykit, review, cancelled, sats, observed, fits⟩ :=
    Runs.exists_reachable_of_run (marketplace sampleReferences) rfl reviewedLamp
      (fun sys => ∃ cell ∈ sys.cells.find? 7, cell.book.payment.adapter = .paykit ∧
        cell.book.payment.state = .manualReview ∧ cell.book.order.state = .cancelled ∧
        ∃ sats ∈ cell.book.order.paykitObservedSats,
          sats ≤ max cell.book.order.totalMinor
            (cell.book.order.paykitTotalSats.getD cell.book.order.totalMinor))
      (Runs.meets_anyStep _ _ _) (by decide +kernel)
  refine ⟨sys, reached, cell, found, review, ?_⟩
  refine (manual_review_closes_iff sampleReferences sys reached 7 cell found paykit review).mpr ?_
  refine ⟨?_, ⟨sats, observed, fits⟩, ?_⟩
  · simp [cancelled]
  · intro pending
    simp [cancelled] at pending

/-- The seller records a refund of the cancelled order while its payment is
under review: no abandonment and no refund closes the review then. -/
theorem refunded_order_keeps_review_open :
    ∃ sys, Runs.Reachable (marketplace sampleReferences) Runs.anyStep sys ∧
      ∃ cell ∈ sys.cells.find? 7, cell.book.payment.adapter = .paykit ∧
        cell.book.payment.state = .manualReview ∧ cell.book.payment.resolution = none ∧
        cell.book.order.paykitPins.isSome = true ∧
        ∀ (input : ResolutionInput) (now : Time), input.requested cell.book.order = true →
          input.outcome = .abandoned ∨ input.outcome = .refunded →
            ¬ ∃ after, applyManualReviewResolution ⟨sys.inventory, cell.book⟩ input now =
              .ok after := by
  obtain ⟨sys, reached, cell, found, paykit, review, refunded⟩ :=
    Runs.exists_reachable_of_run (marketplace sampleReferences) rfl
      (reviewedLamp ++ [.order 7 700 (.recordRefund ⟨"seller", 3⟩ ⟨2500, "bank"⟩)])
      (fun sys => ∃ cell ∈ sys.cells.find? 7, cell.book.payment.adapter = .paykit ∧
        cell.book.payment.state = .manualReview ∧ cell.book.order.state = .refundedExternal)
      (Runs.meets_anyStep _ _ _) (by decide +kernel)
  have open_review := reachable_openReview reached found paykit review
  refine ⟨sys, reached, cell, found, paykit, review, open_review.unresolved, open_review.pinned, ?_⟩
  intro input now requested outcome closed
  obtain ⟨unreferenced, referenced⟩ := requested_reference requested
  rcases outcome with abandons | refunds
  · exact ((@review_abandons_iff ⟨sys.inventory, cell.book⟩ _ now open_review abandons
      (unreferenced abandons)).mp closed).1 refunded
  · exact ((@review_refunds_iff ⟨sys.inventory, cell.book⟩ _ now open_review refunds
      (referenced refunds)).mp closed).unrefunded refunded

end MarketplaceService
