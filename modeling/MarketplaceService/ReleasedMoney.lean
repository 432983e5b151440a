import MarketplaceService.LateCompletion
import MarketplaceService.Simulation

/-!
Money on a released Paykit attempt. Routing it writes the attempt back over the
order row and enters the late-money code, so what earlier attempts, reviews and
counters left in the rows decides whether the transaction can commit. A
refusal leaves the rows as they were, and the next poll meets it again.
-/

namespace MarketplaceService

/-- The money was accounted for: the invoice went back to the order's own
poller, or its attempt is closed for late money or for review. -/
def MoneyKept (references : References) (view : View) (claimed : WatchedAttempt)
    (amountMatched : Bool) (observation : PaykitObservation) (now : Time) : Prop :=
  ∃ outcome after,
    routeReleasedSettlement references view claimed amountMatched observation now =
        .ok (outcome, after) ∧
      (outcome = .handedBack ∧ trackedByOrder view.book.order claimed.invoiceId = true ∧
          after = view ∨
        ∃ closed ∈ after.book.attempts.find? claimed.invoiceId,
          closed.state = .lateMoney ∨ closed.state = .needsReview)

/-- The order row can take the paid attempt back: the observed amount agrees
with a frozen one and is not zero, and a recorded refund stays within the
attempt's amount. -/
structure RowAccepts (order : Order) (attempt : Attempt) (observed : Option ℕ) : Prop where
  frozen : order.paykitObservedSats = none ∨ order.paykitObservedSats = observed
  positive : ∀ sats ∈ observed, 0 < sats
  refund : ∀ refund ∈ order.externalRefund, 0 < refund.amountMinor ∧
    refund.amountMinor ≤ max order.totalMinor attempt.pins.totalSats

/-- The rows let the money of a released attempt be routed. -/
structure Routable (view : View) (attempt : Attempt) (amountMatched : Bool)
    (observation : PaykitObservation) : Prop where
  row : RowAccepts view.book.order attempt observation.observedSats
  unresolved : view.book.payment.resolution = none
  late : amountMatched = true → LateSettles view

/-! The swap. -/

theorem updateOrder_ok_iff (book : OrderBook) (order : Order) :
    (∃ after, book.updateOrder order = .ok after) ↔
      book.order.keepsObserved order = true ∧ order.checks = true := by
  constructor
  · rintro ⟨after, updated⟩
    exact (updateOrder_ok updated).2
  · rintro ⟨kept, checked⟩
    simp [OrderBook.updateOrder, kept, checked]

theorem updatePayment_ok_iff (book : OrderBook) (payment : Payment) :
    (∃ after, book.updatePayment payment = .ok after) ↔ payment.checks = true := by
  constructor
  · rintro ⟨after, updated⟩
    exact (updatePayment_ok updated).2
  · intro checked
    simp [OrderBook.updatePayment, checked]

variable {references : References} {view : View} {claimed : WatchedAttempt} {attempt : Attempt}
  {now : Time}

theorem restoreAttempt_accepted (order : Order) (frozen : Observation) (observed : Option ℕ) :
    (order.keepsObserved (restoreAttempt references order claimed attempt frozen observed) = true ∧
      (restoreAttempt references order claimed attempt frozen observed).checks = true) ↔
      RowAccepts order attempt observed := by
  have kept : order.keepsObserved
      (restoreAttempt references order claimed attempt frozen observed) = true ↔
        (order.paykitObservedSats = none ∨ order.paykitObservedSats = observed) := by
    simp only [Order.keepsObserved, restoreAttempt, Bool.or_eq_true, Option.isNone_iff_eq_none,
      beq_iff_eq]
    rw [@eq_comm _ observed]
  have checked : (restoreAttempt references order claimed attempt frozen observed).checks = true ↔
      (∀ sats ∈ observed, 0 < sats) ∧ ∀ refund ∈ order.externalRefund, 0 < refund.amountMinor ∧
        refund.amountMinor ≤ max order.totalMinor attempt.pins.totalSats := by
    simp [Order.checks, restoreAttempt, Order.paykitTotalSats, Option.all_eq_true]
  rw [kept, checked]
  constructor
  · intro accepted
    exact ⟨accepted.1, accepted.2.1, accepted.2.2⟩
  · intro accepts
    exact ⟨accepts.frozen, accepts.positive, accepts.refund⟩

/-- The swap commits exactly when the order row takes the attempt back, and
writes nothing that late money reads but the request state. -/
theorem swapAttempt_ok_iff (book : OrderBook) (frozen : Observation) (observed : Option ℕ) :
    (∃ swapped, swapAttempt references book claimed attempt frozen observed now = .ok swapped) ↔
      RowAccepts book.order attempt observed := by
  obtain ⟨attempts, outbox, activation, request, released, -⟩ :=
    @releaseOther_eq now book claimed.invoiceId
  have mapped {step : Except Failure OrderBook} {next : OrderBook → OrderBook} :
      (∃ swapped, (do let book ← step; return next book) =
        (.ok swapped : Except Failure OrderBook)) ↔
        ∃ after, step = .ok after := by
    cases step <;> simp [bind, Except.bind, pure, Except.pure]
  unfold swapAttempt
  simp only [released]
  rw [mapped, updateOrder_ok_iff]
  refine (restoreAttempt_accepted _ frozen observed).trans ?_
  exact ⟨fun accepts => ⟨accepts.frozen, accepts.positive, accepts.refund⟩,
    fun accepts => ⟨accepts.frozen, accepts.positive, accepts.refund⟩⟩

/-- What late money reads of the swapped rows is what it reads of the rows
before, with the request confirmed. -/
theorem swapAttempt_lateSettles {book : OrderBook} {frozen : Observation} {observed : Option ℕ}
    (swapped : swapAttempt references view.book claimed attempt frozen observed now = .ok book)
    (outside : view.book.order.paykitRequestState ≠ some .awaitingSellerConfirmation) :
    LateSettles { view with book := book } ↔ LateSettles view := by
  obtain ⟨attempts, outbox, activation, request, released, -⟩ :=
    @releaseOther_eq now view.book claimed.invoiceId
  unfold swapAttempt at swapped
  simp only [released] at swapped
  obtain ⟨updated, wrote, written⟩ := Outcome.bind_ok swapped
  obtain ⟨rfl, -⟩ := updateOrder_ok wrote
  cases Outcome.pure_ok written
  constructor
  · rintro ⟨-, opened, unresolved, refundable, limit, completes⟩
    exact ⟨outside, opened, unresolved, refundable, limit, completes⟩
  · rintro ⟨-, opened, unresolved, refundable, limit, completes⟩
    exact ⟨by simp [restoreAttempt], opened, unresolved, refundable, limit, completes⟩

/-! Closing the attempt. -/

theorem MoneyKept.of_closed {amountMatched : Bool} {observation : PaykitObservation}
    {outcome : RouteOutcome} {inventory : Inventory} {book : OrderBook} {state : AttemptState}
    {reason : Option AttemptReviewReason} {frozen : Observation}
    (routed : routeReleasedSettlement references view claimed amountMatched observation now =
      .ok (outcome, ⟨inventory, closeAttempt book claimed.invoiceId state reason frozen now⟩))
    (present : (book.attempts.find? claimed.invoiceId).isSome = true)
    (closed : state = .lateMoney ∨ state = .needsReview) :
    MoneyKept references view claimed amountMatched observation now := by
  obtain ⟨attempt, found⟩ := Option.isSome_iff_exists.mp present
  refine ⟨outcome, _, routed, .inr ?_⟩
  unfold closeAttempt
  simp only [found]
  exact ⟨_, Keyed.Table.find?_set_self .., closed⟩

theorem applyLateMoney_watched {after : View} {outcome : LateMoneyOutcome}
    (applied : applyLateMoney view view.book.order now = .ok (outcome, after))
    (present : (view.book.attempts.find? claimed.invoiceId).isSome = true) :
    (after.book.attempts.find? claimed.invoiceId).isSome = true := by
  obtain ⟨state, held, payment, receipt, standing, -⟩ := (applyLateMoney_moves applied).decided
  have watched : after.book.standing.watched = view.book.standing.watched := by rw [standing]
  have member : claimed.invoiceId ∈ view.book.standing.watched := present
  rw [← watched] at member
  exact member

theorem swapAttempt_watched {book swapped : OrderBook} {frozen : Observation}
    {observed : Option ℕ}
    (ran : swapAttempt references book claimed attempt frozen observed now = .ok swapped)
    (present : (book.attempts.find? claimed.invoiceId).isSome = true) :
    (swapped.attempts.find? claimed.invoiceId).isSome = true := by
  obtain ⟨reference, tidied, -⟩ := swapAttempt_tidied present ran
  have member : claimed.invoiceId ∈
      (book.standing.restore attempt.pins reference (some frozen) observed).watched := .inl present
  exact tidied.watched member

/-! Routing. -/

/-- Money on an attempt of an order that is free to take it. -/
theorem route_swap_eq {amountMatched : Bool} {observation : PaykitObservation}
    (found : view.book.attempts.find? claimed.invoiceId = some attempt)
    (watching : attempt.state = .watching)
    (range : ∀ sats ∈ observation.observedSats, sats ≤ i64Max)
    (untracked : trackedByOrder view.book.order claimed.invoiceId = false)
    (rail : otherRail view.book = false) (unsettled : settledElsewhere view.book = false) :
    routeReleasedSettlement references view claimed amountMatched observation now = (do
      let book ← swapAttempt references view.book claimed attempt
        (observationJson true amountMatched observation now) observation.observedSats now
      if !amountMatched then
        let book ← book.updatePayment { book.payment with
          state := .manualReview
          revision := book.payment.revision + 1
          reviewReason := some .amountMismatch
          manualReviewEnteredAt := some now }
        return (.lateMoney, { view with
          book := closeAttempt book claimed.invoiceId .lateMoney none
            (observationJson true amountMatched observation now) now })
      else
        let (_, view) ← applyLateMoney { view with book := book } book.order now
        return (.lateMoney, { view with
          book := closeAttempt view.book claimed.invoiceId .lateMoney none
            (observationJson true amountMatched observation now) now })) := by
  have observed : observedI64 observation = .ok observation.observedSats := by
    unfold observedI64
    cases sats : observation.observedSats with
    | none => rfl
    | some amount => simp [range amount sats]
  unfold routeReleasedSettlement
  simp only [found, watching, untracked, rail, unsettled, observed]
  rfl

theorem amountReview_ok_iff (book : OrderBook) :
    (∃ after, book.updatePayment { book.payment with
      state := .manualReview
      revision := book.payment.revision + 1
      reviewReason := some .amountMismatch
      manualReviewEnteredAt := some now } = .ok after) ↔ book.payment.resolution = none := by
  rw [updatePayment_ok_iff, Payment.checks_iff]
  simp

theorem moneyKept_iff_routable {amountMatched : Bool} {observation : PaykitObservation}
    (found : view.book.attempts.find? claimed.invoiceId = some attempt)
    (watching : attempt.state = .watching)
    (range : ∀ sats ∈ observation.observedSats, sats ≤ i64Max)
    (untracked : trackedByOrder view.book.order claimed.invoiceId = false)
    (rail : otherRail view.book = false) (unsettled : settledElsewhere view.book = false) :
    MoneyKept references view claimed amountMatched observation now ↔
      Routable view attempt amountMatched observation := by
  have present : (view.book.attempts.find? claimed.invoiceId).isSome = true := by simp [found]
  have outside : view.book.order.paykitRequestState ≠ some .awaitingSellerConfirmation := by
    intro window
    simp [settledElsewhere, window] at unsettled
  have routes := @route_swap_eq references view claimed attempt now amountMatched observation
    found watching range untracked rail unsettled
  have accepts := @swapAttempt_ok_iff references claimed attempt now view.book
    (observationJson true amountMatched observation now) observation.observedSats
  cases ran : swapAttempt references view.book claimed attempt
      (observationJson true amountMatched observation now) observation.observedSats now with
  | error failure =>
      refine iff_of_false ?_ fun routable => ?_
      · rintro ⟨outcome, after, routed, -⟩
        simp only [routes, ran] at routed
        cases routed
      · obtain ⟨swapped, wrote⟩ := accepts.mpr routable.row
        rw [ran] at wrote
        cases wrote
  | ok book =>
      have row := accepts.mp ⟨book, ran⟩
      have swapped_present := swapAttempt_watched ran present
      obtain ⟨-, -, -, -, resolution⟩ := swapAttempt_tidied present ran
      cases amountMatched with
      | false =>
          have reviews : routeReleasedSettlement references view claimed false observation now = (do
              let book ← book.updatePayment { book.payment with
                state := .manualReview
                revision := book.payment.revision + 1
                reviewReason := some .amountMismatch
                manualReviewEnteredAt := some now }
              return (.lateMoney, { view with
                book := closeAttempt book claimed.invoiceId .lateMoney none
                  (observationJson true false observation now) now })) := by
            rw [routes, ran]
            rfl
          have recorded := @amountReview_ok_iff now book
          rw [resolution] at recorded
          constructor
          · rintro ⟨outcome, after, routed, -⟩
            rw [reviews] at routed
            obtain ⟨reviewed, wrote, -⟩ := Outcome.bind_ok routed
            exact ⟨row, recorded.mp ⟨reviewed, wrote⟩, by simp⟩
          · rintro ⟨-, unresolved, -⟩
            obtain ⟨reviewed, wrote⟩ := recorded.mpr unresolved
            rw [wrote] at reviews
            refine .of_closed reviews ?_ (.inl rfl)
            obtain ⟨rfl, -⟩ := updatePayment_ok wrote
            exact swapped_present
      | true =>
          have settles_late : routeReleasedSettlement references view claimed true observation now =
              (do
                let (_, after) ← applyLateMoney { view with book := book } book.order now
                return (.lateMoney, { after with
                  book := closeAttempt after.book claimed.invoiceId .lateMoney none
                    (observationJson true true observation now) now })) := by
            rw [routes, ran]
            rfl
          have applies := applyLateMoney_ok_iff { view with book := book } now
          rw [swapAttempt_lateSettles ran outside] at applies
          constructor
          · rintro ⟨outcome, after, routed, -⟩
            rw [settles_late] at routed
            obtain ⟨result, applied, -⟩ := Outcome.bind_ok routed
            have settles := applies.mp ⟨result, applied⟩
            exact ⟨row, settles.unresolved, fun _ => settles⟩
          · rintro ⟨-, -, settles⟩
            obtain ⟨⟨late, after⟩, applied⟩ := applies.mpr (settles rfl)
            have kept := applyLateMoney_watched applied swapped_present
            simp only at applied
            rw [applied] at settles_late
            exact .of_closed settles_late kept (.inl rfl)

/-- Confirmed money on a watched attempt is kept exactly when the order tracks
the invoice again, another rail or a settled payment sends it to review, or the
rows let it be routed. -/
theorem released_money_kept_iff (references : References) (view : View) (claimed : WatchedAttempt)
    (attempt : Attempt) (amountMatched : Bool) (observation : PaykitObservation) (now : Time)
    (found : view.book.attempts.find? claimed.invoiceId = some attempt)
    (watching : attempt.state = .watching)
    (range : ∀ sats ∈ observation.observedSats, sats ≤ i64Max) :
    MoneyKept references view claimed amountMatched observation now ↔
      trackedByOrder view.book.order claimed.invoiceId = true ∨ otherRail view.book = true ∨
        settledElsewhere view.book = true ∨
        Routable view attempt amountMatched observation := by
  by_cases tracked : trackedByOrder view.book.order claimed.invoiceId = true
  · refine iff_of_true ⟨.handedBack, view, ?_, .inl ⟨rfl, tracked, rfl⟩⟩ (.inl tracked)
    unfold routeReleasedSettlement
    simp [found, watching, tracked]
  have untracked : trackedByOrder view.book.order claimed.invoiceId = false := by
    simpa using tracked
  by_cases elsewhere : otherRail view.book = true ∨ settledElsewhere view.book = true
  · have present : (view.book.attempts.find? claimed.invoiceId).isSome = true := by simp [found]
    refine iff_of_true ?_ ?_
    · have routed : routeReleasedSettlement references view claimed amountMatched observation now =
          .ok (.needsReview, ⟨view.inventory, closeAttempt view.book claimed.invoiceId .needsReview
            (some (if settledElsewhere view.book then .paymentSettled else .otherRail))
            (observationJson true amountMatched observation now) now⟩) := by
        unfold routeReleasedSettlement
        simp [found, watching, untracked, elsewhere]
      exact .of_closed routed present (.inr rfl)
    · rcases elsewhere with other | settled
      · exact .inr (.inl other)
      · exact .inr (.inr (.inl settled))
  rw [not_or] at elsewhere
  have rail : otherRail view.book = false := by simpa using elsewhere.1
  have unsettled : settledElsewhere view.book = false := by simpa using elsewhere.2
  rw [moneyKept_iff_routable found watching range untracked rail unsettled]
  simp [untracked, rail, unsettled]

/-- The lamp's first attempt, voided before it was active. -/
def voidedLamp : List Action :=
  lampOrder ++ bitcoinBind 1 1 ++ activateRequest 0 1 ++
    [.order 7 0 (.answerActivate 0 1 5000 (.error .prepareExpired))]

/-- The released first attempt of order 7 as its poll claims it. -/
def releasedClaim : WatchedAttempt :=
  { invoiceId := 1
    reference := some (sampleReferences.attemptReference 7 1)
    expiresAt := 600
    releasedAt := 0
    detectedAt := none }

/-- 4000 sats of 5000 on the voided attempt are kept for review. -/
theorem released_lamp_money_kept :
    ∃ sys, Runs.Reachable (marketplace sampleReferences) Runs.anyStep sys ∧
      ∃ cell ∈ sys.cells.find? 7,
        MoneyKept sampleReferences ⟨sys.inventory, cell.book⟩ releasedClaim false
          { observedSats := some 4000, confirmations := some 3 } 20 := by
  obtain ⟨sys, reached, cell, stored, attempt, found, watching, unseen, unrefunded, unresolved⟩ :=
    Runs.exists_reachable_of_run (marketplace sampleReferences) rfl voidedLamp
      (fun sys => ∃ cell ∈ sys.cells.find? 7, ∃ attempt ∈ cell.book.attempts.find? 1,
        attempt.state = .watching ∧ cell.book.order.paykitObservedSats = none ∧
        cell.book.order.externalRefund = none ∧ cell.book.payment.resolution = none)
      (Runs.meets_anyStep _ _ _) (by decide +kernel)
  refine ⟨sys, reached, cell, stored, ?_⟩
  refine (released_money_kept_iff sampleReferences ⟨sys.inventory, cell.book⟩ releasedClaim attempt
    false { observedSats := some 4000, confirmations := some 3 } 20 found watching ?_).mpr
      (.inr (.inr (.inr ⟨⟨.inl unseen, ?_, ?_⟩, unresolved, ?_⟩)))
  · simp [i64Max]
  · simp
  · simp [unrefunded]
  · simp

/-- The buyer binds again, pays the second invoice short and the seller abandons
the review: the payment is expired and resolved. From then on no report of
money on the first invoice can be routed, at any time. -/
theorem abandoned_review_loses_released_money :
    ∃ sys, Runs.Reachable (marketplace sampleReferences) Runs.anyStep sys ∧
      ∃ cell ∈ sys.cells.find? 7, ∃ attempt ∈ cell.book.attempts.find? 1,
        attempt.state = .watching ∧
        cell.book.order.paykitObservedSats = some 4000 ∧
        ∀ claimed : WatchedAttempt, claimed.invoiceId = 1 → ∀ amountMatched observation now,
          (∀ sats ∈ observation.observedSats, sats ≤ i64Max) →
            ¬ MoneyKept sampleReferences ⟨sys.inventory, cell.book⟩ claimed amountMatched
              observation now := by
  obtain ⟨sys, reached, cell, stored, attempt, found, watching, frozen, resolved, untracked, rail,
      unsettled⟩ :=
    Runs.exists_reachable_of_run (marketplace sampleReferences) rfl
      (voidedLamp ++ bitcoinBind 2 2 ++ activateRequest 1 2 ++
        [ .order 7 0 (.answerActivate 1 2 5000 (.activated true 5000))
        , .order 7 0 .claimPoll
        , .order 7 20 (.applyPoll (pendingClaim 2) (.confirmed false
            { allocationMode := .exclusive
              lateSettlement := false
              observation := { observedSats := some 4000, confirmations := some 3 } }))
        , .order 7 30 (.resolveReview
            { outcome := .abandoned
              resolutionId := 1
              resolvedBy := some "seller"
              refundReference := none }) ])
      (fun sys => ∃ cell ∈ sys.cells.find? 7, ∃ attempt ∈ cell.book.attempts.find? 1,
        attempt.state = .watching ∧ cell.book.order.paykitObservedSats = some 4000 ∧
        cell.book.payment.resolution ≠ none ∧
        trackedByOrder cell.book.order 1 = false ∧ otherRail cell.book = false ∧
        settledElsewhere cell.book = false)
      (Runs.meets_anyStep _ _ _) (by decide +kernel)
  refine ⟨sys, reached, cell, stored, attempt, found, watching, frozen, ?_⟩
  intro claimed invoice amountMatched observation now range kept
  rw [← invoice] at found untracked
  have routable := (@moneyKept_iff_routable sampleReferences ⟨sys.inventory, cell.book⟩ claimed
    attempt now amountMatched observation found watching range untracked rail unsettled).mp kept
  exact resolved routable.unresolved

end MarketplaceService
