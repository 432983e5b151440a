import MarketplaceService.LateCompletion
import MarketplaceService.Lib.Outcome
import MarketplaceService.Settlement
import MarketplaceService.System

/-!
The fork of late money, against the stock that decides it. `apply_late_money`
asks the order's own flag whether the hold is still there; the review code asks
`hold_present`, which knows that an auction order holds through its
reservation. The two are compared here for every order.
-/

namespace MarketplaceService

/-- The outcome that the stock asks for: review while the hold is there,
completion while the stock can be taken again, a refund otherwise. -/
def lateFork (inventory : Inventory) (order : Order) : LateMoneyOutcome :=
  if order.state = .pendingPayment ∧ holdPresent inventory order = true then .heldLateSettlement
  else if DropRetakeable inventory order ∧ LinesRetakeable inventory order then .completed
  else .refundRequired

/-- The flag and the reservation of an auction order agree: the flag is set as
long as its reservation is active, and stock that can be taken again comes with
one lapsed reservation. -/
structure ForkByStock (inventory : Inventory) (order : Order) : Prop where
  held : ∀ auction ∈ order.auctionAggregateId, order.state = .pendingPayment →
    (order.stockHeld = true ↔
      inventory.reservations.countWhere (isWinningHold auction order.buyerPubky) ≠ 0)
  lapsed : ∀ auction ∈ order.auctionAggregateId,
    ¬ (order.state = .pendingPayment ∧ order.stockHeld = true) →
      DropRetakeable inventory order → LinesRetakeable inventory order →
        inventory.reservations.countWhere (isLapsedHold auction order.buyerPubky) = 1

theorem applyLateMoney_outcome {view after : View} {now : Time} {outcome : LateMoneyOutcome}
    (deliverable : unpinnable view.inventory view.book.order = false)
    (applied : applyLateMoney view view.book.order now = .ok (outcome, after)) :
    outcome =
      if view.book.order.state = .pendingPayment ∧ view.book.order.stockHeld = true then
        .heldLateSettlement
      else if Retakeable view.inventory view.book.order then .completed
      else .refundRequired := by
  obtain ⟨-, answer⟩ := applyLateMoney_ok applied
  rcases answer with ⟨-, undeliverable, -⟩ | ⟨rfl, -, pending, held, -⟩ | ⟨-, unheld, rest⟩
  · rw [deliverable] at undeliverable
    cases undeliverable
  · rw [if_pos ⟨pending, held⟩]
  · rw [if_neg unheld]
    obtain ⟨result, taken, ran, answer⟩ := rest
    obtain ⟨stock, -⟩ := reacquireHold_book ran
    have takes := reacquireStock_ok_iff view.inventory view.book.order now
    rw [stock] at takes
    rcases answer with ⟨rfl, completed, -⟩ | ⟨rfl, lost, -⟩
    · rw [if_pos (takes.mp completed)]
    · rw [if_neg]
      intro again
      have done := takes.mpr again
      rw [lost] at done
      cases done

/-- The flag decides as the stock does exactly when the two agree. -/
theorem fork_by_flag_iff (inventory : Inventory) (order : Order) :
    (if order.state = .pendingPayment ∧ order.stockHeld = true then
        LateMoneyOutcome.heldLateSettlement
      else if Retakeable inventory order then .completed
      else .refundRequired) = lateFork inventory order ↔ ForkByStock inventory order := by
  unfold lateFork
  cases auctioned : order.auctionAggregateId with
  | none =>
      have present : holdPresent inventory order = order.stockHeld := by
        unfold holdPresent
        rw [auctioned]
      have retakes : Retakeable inventory order ↔
          DropRetakeable inventory order ∧ LinesRetakeable inventory order := by
        simp [Retakeable, auctioned]
      rw [present]
      simp only [retakes, true_iff]
      constructor <;> simp [auctioned]
  | some auction =>
      have present : holdPresent inventory order = true ↔
          inventory.reservations.countWhere (isWinningHold auction order.buyerPubky) ≠ 0 := by
        unfold holdPresent
        rw [auctioned]
        simp
      have retakes : Retakeable inventory order ↔ DropRetakeable inventory order ∧
          inventory.reservations.countWhere (isLapsedHold auction order.buyerPubky) = 1 ∧
          LinesRetakeable inventory order := by
        simp [Retakeable, auctioned]
      have agrees : ForkByStock inventory order ↔
          (order.state = .pendingPayment →
            (order.stockHeld = true ↔ holdPresent inventory order = true)) ∧
          (¬ (order.state = .pendingPayment ∧ order.stockHeld = true) →
            DropRetakeable inventory order → LinesRetakeable inventory order →
            inventory.reservations.countWhere (isLapsedHold auction order.buyerPubky) = 1) := by
        constructor
        · intro fork
          refine ⟨?_, fork.lapsed auction auctioned⟩
          rw [present]
          exact fork.held auction auctioned
        · rintro ⟨held, lapsed⟩
          rw [present] at held
          constructor <;> intro other same <;>
            obtain rfl : auction = other := Option.some.inj (auctioned.symm.trans same)
          · exact held
          · exact lapsed
      rw [agrees]
      simp only [retakes]
      by_cases pending : order.state = .pendingPayment <;>
        by_cases flag : order.stockHeld = true <;>
        by_cases hold : holdPresent inventory order = true <;>
        by_cases drop : DropRetakeable inventory order <;>
        by_cases lines : LinesRetakeable inventory order <;>
        by_cases lapsed :
          inventory.reservations.countWhere (isLapsedHold auction order.buyerPubky) = 1 <;>
        simp [pending, flag, hold, drop, lines, lapsed]

/-- Late money on a deliverable order takes the branch its stock asks for
exactly when it settles at all and the flag agrees with the reservation. -/
theorem late_fork_by_stock_iff (view : View) (now : Time)
    (deliverable : unpinnable view.inventory view.book.order = false) :
    (∃ after, applyLateMoney view view.book.order now =
        .ok (lateFork view.inventory view.book.order, after)) ↔
      LateSettles view ∧ ForkByStock view.inventory view.book.order := by
  rw [← applyLateMoney_ok_iff view now, ← fork_by_flag_iff]
  constructor
  · rintro ⟨after, applied⟩
    exact ⟨⟨_, applied⟩, (applyLateMoney_outcome deliverable applied).symm⟩
  · rintro ⟨⟨⟨outcome, after⟩, applied⟩, agrees⟩
    refine ⟨after, ?_⟩
    rw [applied, applyLateMoney_outcome deliverable applied, agrees]

def expiredLamp : List Action :=
  lampOrder ++ sampleBind 1 .stripe none none ++ [.order 7 600 .expireWindow]

theorem late_fork_of_expired_lamp :
    ∃ sys, Runs.Reachable (marketplace sampleReferences) Runs.anyStep sys ∧
      ∃ cell ∈ sys.cells.find? 7, cell.book.payment.state = .expired ∧
        LateSettles ⟨sys.inventory, cell.book⟩ ∧ ForkByStock sys.inventory cell.book.order := by
  obtain ⟨sys, reached, cell, found, expired, deliverable, result, applied, fork⟩ :=
    Runs.exists_reachable_of_run (marketplace sampleReferences) rfl expiredLamp
      (fun sys => ∃ cell ∈ sys.cells.find? 7, cell.book.payment.state = .expired ∧
        unpinnable sys.inventory cell.book.order = false ∧
        ∃ result ∈ (applyLateMoney ⟨sys.inventory, cell.book⟩ cell.book.order 700).toOption,
          result.1 = lateFork sys.inventory cell.book.order)
      (Runs.meets_anyStep _ _ _) (by decide +kernel)
  refine ⟨sys, reached, cell, found, expired, ?_⟩
  refine (late_fork_by_stock_iff ⟨sys.inventory, cell.book⟩ 700 deliverable).mp ⟨result.2, ?_⟩
  rw [Outcome.toOption_some applied, ← fork]

def wonLamp : List Action :=
  [ .registerListing "lamp"
      { sampleRecord 1 "USD" 2 with saleFormat := .auction, auctionStarted := true }
      ⟨"seller", 0⟩ false
  , .closeAuction "lamp" "buyer" 2500 1 7 ] ++
  bitcoinBind 1 1 ++ activateRequest 0 1 ++
  [ .order 7 0 (.answerActivate 0 1 5000 (.activated true 5000))
  , .order 7 10 .claimPoll ]

/-- Late money for a lamp the buyer still holds is sent to a refund. -/
theorem late_money_refunds_held_auction :
    ∃ sys, Runs.Reachable (marketplace sampleReferences) Runs.anyStep sys ∧
      ∃ cell ∈ sys.cells.find? 7, cell.book.payment.state = .awaitingEntitlement ∧
        unpinnable sys.inventory cell.book.order = false ∧
        cell.book.order.paykitRequestState ≠ some .awaitingSellerConfirmation ∧
        cell.book.order.state = .pendingPayment ∧
        holdPresent sys.inventory cell.book.order = true ∧
        ∃ result ∈ (applyLateMoney ⟨sys.inventory, cell.book⟩ cell.book.order 700).toOption,
          result.1 = .refundRequired ∧ result.1 ≠ lateFork sys.inventory cell.book.order := by
  obtain ⟨sys, reached, refunded⟩ :=
    Runs.exists_reachable_of_run (marketplace sampleReferences) rfl wonLamp
      (fun sys => ∃ cell ∈ sys.cells.find? 7, cell.book.payment.state = .awaitingEntitlement ∧
        unpinnable sys.inventory cell.book.order = false ∧
        cell.book.order.paykitRequestState ≠ some .awaitingSellerConfirmation ∧
        cell.book.order.state = .pendingPayment ∧
        holdPresent sys.inventory cell.book.order = true ∧
        ∃ result ∈ (applyLateMoney ⟨sys.inventory, cell.book⟩ cell.book.order 700).toOption,
          result.1 = .refundRequired ∧ result.1 ≠ lateFork sys.inventory cell.book.order)
      (Runs.meets_anyStep _ _ _) (by decide +kernel)
  exact ⟨sys, reached, refunded⟩

end MarketplaceService
