import MarketplaceService.DropCounts
import MarketplaceService.Settlement
import MarketplaceService.System

/-!
Late money on lost stock. `reacquire_hold` writes step by step and reports
missing stock as a value, and `apply_late_money` commits on it: what was
written before the failing step stays. The stock is untouched exactly when the
first step that would write is the one that fails.
-/

namespace MarketplaceService

/-- Every quantity, counter and status that a hold moves is the same. -/
structure StockKept (before after : Inventory) : Prop where
  listings : ∀ id, (after.listings.find? id).map
      (fun listing => (listing.availableQuantity, listing.reservedQuantity,
        listing.soldQuantity, listing.state)) =
    (before.listings.find? id).map fun listing =>
      (listing.availableQuantity, listing.reservedQuantity, listing.soldQuantity, listing.state)
  remaining : ∀ id, (after.drops.find? id).map Drop.remainingQuantity =
    (before.drops.find? id).map Drop.remainingQuantity
  purchases : ∀ key, (after.dropPurchases.find? key).map DropPurchase.quantity =
    (before.dropPurchases.find? key).map DropPurchase.quantity
  reservations : ∀ id, (after.reservations.find? id).map Reservation.status =
    (before.reservations.find? id).map Reservation.status

theorem StockKept.refl (inventory : Inventory) : StockKept inventory inventory :=
  ⟨fun _ => rfl, fun _ => rfl, fun _ => rfl, fun _ => rfl⟩

theorem StockKept.trans_iff {before middle after : Inventory} (first : StockKept before middle) :
    StockKept before after ↔ StockKept middle after := by
  constructor <;> intro kept
  · exact ⟨fun id => (kept.listings id).trans (first.listings id).symm,
      fun id => (kept.remaining id).trans (first.remaining id).symm,
      fun key => (kept.purchases key).trans (first.purchases key).symm,
      fun id => (kept.reservations id).trans (first.reservations id).symm⟩
  · exact ⟨fun id => (kept.listings id).trans (first.listings id),
      fun id => (kept.remaining id).trans (first.remaining id),
      fun key => (kept.purchases key).trans (first.purchases key),
      fun id => (kept.reservations id).trans (first.reservations id)⟩

/-- Counters read through `countsOf` and the purchase rows are enough. -/
theorem StockKept.of_counts {before after : Inventory} (same : SameListings before after)
    (counts : ∀ id, after.countsOf id = before.countsOf id)
    (purchases : ∀ key, (after.dropPurchases.find? key).map DropPurchase.quantity =
      (before.dropPurchases.find? key).map DropPurchase.quantity) : StockKept before after := by
  refine ⟨by simp [same.1], ?_, purchases, by simp [same.2]⟩
  intro id
  have remaining := congrArg (Option.map Counts.remaining) (counts id)
  simpa [Inventory.countsOf, Drop.counts, Function.comp_def] using remaining

/-! The steps of `reacquire_hold`. -/

/-- The listing of the line takes the order's commitment and has the units. -/
def Takeable (inventory : Inventory) (createdAt : Time) (line : Line) : Prop :=
  ∃ listing ∈ inventory.listings.find? line.listing,
    listing.acceptsCommitmentCreatedAt createdAt = true ∧
      line.quantity ≤ listing.availableQuantity

instance (inventory : Inventory) (createdAt : Time) (line : Line) :
    Decidable (Takeable inventory createdAt line) :=
  inferInstanceAs (Decidable (∃ listing ∈ inventory.listings.find? line.listing,
    listing.acceptsCommitmentCreatedAt createdAt = true ∧
      line.quantity ≤ listing.availableQuantity))

/-- The first step of `reacquire_hold` that would write is the one that fails:
the drop, the auction reservation, or the first line. -/
def LostBeforeWrite (inventory : Inventory) (order : Order) : Prop :=
  DropLacks inventory order ∨
    (order.dropAggregateId = none ∨ order.lines = []) ∧
      match order.auctionAggregateId with
      | some auction =>
          inventory.reservations.countWhere (isLapsedHold auction order.buyerPubky) = 0
      | none => ∃ line ∈ order.lines.head?, ¬ Takeable inventory order.createdAt line

instance (inventory : Inventory) (order : Order) : Decidable (LostBeforeWrite inventory order) := by
  unfold LostBeforeWrite
  cases order.auctionAggregateId <;> infer_instance

theorem units_pos {order : Order} (some_line : order.lines ≠ []) : 0 < order.units := by
  obtain ⟨line, rest, split⟩ := List.exists_cons_of_ne_nil some_line
  have positive := line.quantity_pos
  simp only [Order.units, split, List.map_cons, List.sum_cons]
  omega

/-- The auction reservation: nothing without an auction; otherwise every lapsed
reservation of the buyer is active afterwards, and only one is a success. -/
theorem reacquireReservation_cases (inventory : Inventory) (order : Order) (now : Time)
    {result : Except Failure Unit} {after : Inventory}
    (ran : reacquireReservation inventory order now = (result, after)) :
    after.listings = inventory.listings ∧ after.drops = inventory.drops ∧
      after.dropPurchases = inventory.dropPurchases ∧
      match order.auctionAggregateId with
      | none => result = .ok () ∧ after = inventory
      | some auction =>
          let hit := isLapsedHold auction order.buyerPubky
          (result = .ok () ↔ inventory.reservations.countWhere hit = 1) ∧
            after.reservations = inventory.reservations.updateWhere hit
              fun reservation =>
                { reservation with status := .active, expiresAt := now + 3600 } := by
  unfold reacquireReservation at ran
  cases auctioned : order.auctionAggregateId with
  | none =>
      simp only [auctioned, Prod.mk.injEq] at ran
      obtain ⟨rfl, rfl⟩ := ran
      simp
  | some auction =>
      simp only [auctioned] at ran
      split at ran
      · rename_i one
        simp only [Prod.mk.injEq] at ran
        obtain ⟨rfl, rfl⟩ := ran
        simp [one]
      · rename_i several
        simp only [Prod.mk.injEq] at ran
        obtain ⟨rfl, rfl⟩ := ran
        simp [several]

theorem statuses_changed (inventory : Inventory) (auction : ListingId) (buyer : Pubky)
    (now : Time) {after : Inventory}
    (written : after.reservations =
      inventory.reservations.updateWhere (isLapsedHold auction buyer)
        fun reservation => { reservation with status := .active, expiresAt := now + 3600 })
    (lapsed : inventory.reservations.countWhere (isLapsedHold auction buyer) ≠ 0) :
    ¬ StockKept inventory after := by
  intro kept
  obtain ⟨id, reservation, found, met⟩ :=
    (Keyed.Table.countWhere_ne_zero_iff _ _).mp lapsed
  have same := kept.reservations id
  rw [written, Keyed.Table.find?_updateWhere, found] at same
  simp only [Option.map_some, met, if_true, Option.some.injEq] at same
  simp [isLapsedHold, ← same] at met

/-- A loop whose first line can be taken has moved that line's listing. -/
theorem listings_changed (createdAt : Time) (inventory after : Inventory) (line : Line)
    (rest : List Line) {failure : Failure}
    (stopped : reacquireLines createdAt (line :: rest) inventory = (.error failure, after))
    (takeable : Takeable inventory createdAt line) : ¬ StockKept inventory after := by
  intro kept
  obtain ⟨listing, found, accepts, enough⟩ := takeable
  obtain ⟨taken, last, tail, split, ran, refuses⟩ := forLines_stop stopped
  cases taken with
  | nil =>
      -- stopped at the first line, which it could have taken
      simp only [List.nil_append, List.cons.injEq] at split
      obtain ⟨rfl, rfl⟩ := split
      simp only [forLines, Prod.mk.injEq, true_and] at ran
      obtain ⟨moved, stepped⟩ :=
        ((reacquireMove createdAt).takes line listing).mpr ⟨accepts, enough⟩
      exact refuses listing moved (by rw [← ran, found]) stepped
  | cons head others =>
      simp only [List.cons_append, List.cons.injEq] at split
      obtain ⟨rfl, rfl⟩ := split
      have shifted := forLines_shifted (reacquireMove createdAt) ran line.listing
      rw [found] at shifted
      obtain ⟨final, present, moves⟩ := shifted
      have same := kept.listings line.listing
      rw [found, present] at same
      simp only [Option.map_some, Option.some.injEq, Prod.mk.injEq] at same
      have reserved := moves.reserved
      have positive := linesOn_pos (List.mem_cons_self : line ∈ line :: others)
      simp only [reacquireMove, one_mul] at reserved
      omega

theorem reacquireLines_first {createdAt : Time} {inventory : Inventory} {line : Line}
    {rest : List Line} (lost : ¬ Takeable inventory createdAt line) :
    (reacquireLines createdAt (line :: rest) inventory).2 = inventory := by
  simp only [reacquireLines, forLines]
  cases found : inventory.listings.find? line.listing with
  | none => rfl
  | some listing =>
      cases stepped : reacquireLine createdAt line listing with
      | error failure => simp [stepped]
      | ok moved =>
          have takes := ((reacquireMove createdAt).takes line listing).mp ⟨moved, stepped⟩
          exact absurd ⟨listing, found, takes.1, takes.2⟩ lost

/-! The law. -/

/-- Committed on missing stock: the rows are those the failed `reacquire_hold`
left, since the order has no hold to give back. -/
theorem applyLateMoney_lost {view after : View} {order : Order} {now : Time}
    (committed : applyLateMoney view order now = .ok (.refundRequired, after))
    (deliverable : unpinnable view.inventory order = false) :
    after.inventory = (reacquireStock view.inventory order now).2 := by
  obtain ⟨-, routes⟩ := applyLateMoney_ok committed
  rcases routes with ⟨-, undeliverable, -⟩ | ⟨other, -⟩ | ⟨-, unheld, result, held, ran, ends⟩
  · rw [deliverable] at undeliverable
    cases undeliverable
  · cases other
  · obtain ⟨stock, -⟩ := reacquireHold_book ran
    rw [stock]
    rcases ends with ⟨other, -⟩ | ⟨-, -, routed⟩
    · cases other
    · obtain ⟨-, -, -, released⟩ := refundRequired_ok routed
      rcases released with ⟨pending, gave⟩ | ⟨-, same⟩
      · -- a pending order that held its stock would have been kept for the seller
        have nothing : ¬ (order.stockHeld = true ∧ order.auctionAggregateId = none) :=
          fun both => unheld ⟨pending, both.1⟩
        unfold releaseHeld at gave
        rw [if_neg nothing] at gave
        exact (Except.ok.inj gave).symm
      · exact same

/-- The lines after the drop and the reservation: untouched exactly when the
first line is the one that cannot be taken. -/
theorem lines_kept_iff {inventory after : Inventory} {createdAt : Time} {lines : List Line}
    (lost : reacquireLines createdAt lines inventory = (.error .stockUnavailable, after)) :
    StockKept inventory after ↔ ∃ line ∈ lines.head?, ¬ Takeable inventory createdAt line := by
  cases lines with
  | nil => simp [reacquireLines, forLines] at lost
  | cons line rest =>
      constructor
      · intro kept
        refine ⟨line, rfl, ?_⟩
        intro takeable
        exact listings_changed createdAt inventory after line rest lost takeable kept
      · rintro ⟨first, head, untaken⟩
        cases head
        have same : (reacquireLines createdAt (line :: rest) inventory).2 = inventory :=
          reacquireLines_first untaken
        rw [lost] at same
        simp only at same
        rw [same]
        exact StockKept.refl _

theorem reservation_and_lines_kept_iff {inventory after : Inventory} {order : Order} {now : Time}
    (lost : andThen (reacquireReservation inventory order now)
        (fun inventory => reacquireLines order.createdAt order.lines inventory) =
      (.error .stockUnavailable, after)) :
    StockKept inventory after ↔
      match order.auctionAggregateId with
      | some auction =>
          inventory.reservations.countWhere (isLapsedHold auction order.buyerPubky) = 0
      | none => ∃ line ∈ order.lines.head?, ¬ Takeable inventory order.createdAt line := by
  cases ran : reacquireReservation inventory order now with
  | mk result middle =>
      have cases_of := reacquireReservation_cases inventory order now ran
      cases auctioned : order.auctionAggregateId with
      | none =>
          simp only [auctioned] at cases_of
          obtain ⟨-, -, -, rfl, rfl⟩ := cases_of
          simp only [ran, andThen] at lost
          exact lines_kept_iff lost
      | some auction =>
          simp only [auctioned] at cases_of
          obtain ⟨listings, drops, purchases, succeeds, written⟩ := cases_of
          -- whatever the lines do, the reservations stay as this step wrote them
          have reservations : after.reservations = middle.reservations := by
            simp only [ran, andThen] at lost
            cases result with
            | error failure =>
                simp only [Prod.mk.injEq] at lost
                rw [lost.2]
            | ok done => exact (forLines_frame lost).1
          constructor
          · intro kept
            by_contra lapsed
            exact statuses_changed inventory auction order.buyerPubky now
              (reservations.trans written) lapsed kept
          · intro none_lapsed
            have failed : result ≠ .ok () := by
              intro done
              have one := succeeds.mp done
              omega
            cases result with
            | ok done => exact absurd rfl failed
            | error failure =>
                simp only [ran, andThen, Prod.mk.injEq] at lost
                obtain ⟨-, rfl⟩ := lost
                refine ⟨by simp [listings], by simp [drops], by simp [purchases], ?_⟩
                intro id
                rw [written, Keyed.Table.find?_updateWhere]
                cases found : inventory.reservations.find? id with
                | none => rfl
                | some reservation =>
                    have unmet : isLapsedHold auction order.buyerPubky reservation = false := by
                      by_contra met
                      have counted := (Keyed.Table.countWhere_ne_zero_iff
                        inventory.reservations _).mpr
                          ⟨id, reservation, found, by simpa using met⟩
                      exact counted none_lapsed
                    simp [unmet]

/-- A failed `reacquire_hold` has moved no stock exactly when its first writing
step is the one that failed. -/
theorem reacquireStock_kept_iff {inventory after : Inventory} {order : Order} {now : Time}
    (lost : reacquireStock inventory order now = (.error .stockUnavailable, after)) :
    StockKept inventory after ↔ LostBeforeWrite inventory order := by
  unfold reacquireStock at lost
  cases ran : reacquireDrop inventory order now with
  | mk result middle =>
      obtain ⟨same, split⟩ := reacquireDrop_cases inventory order now ran
      rcases split with ⟨unstamped, rfl, rfl⟩ | ⟨lacks, rfl, purchases, counts⟩ |
          ⟨dropId, drop, stamped, found, enough, available, debited, -, counters⟩
      · simp only [ran, andThen] at lost
        have rest := reservation_and_lines_kept_iff lost
        have present : ¬ DropLacks middle order := by
          rintro ⟨dropId, stamped, -⟩
          rw [unstamped] at stamped
          cases stamped
        simp only [LostBeforeWrite, unstamped, true_or, true_and, present, false_or]
        exact rest
      · simp only [ran, andThen, Prod.mk.injEq] at lost
        obtain ⟨-, rfl⟩ := lost
        exact ⟨fun _ => .inl lacks, fun _ => .of_counts same counts (by simp [purchases])⟩
      · have plenty : ¬ DropLacks inventory order := by
          rintro ⟨other, named, lacks⟩
          rw [stamped] at named
          cases named
          have short := lacks drop found
          omega
        cases result with
        | error failure =>
            simp only [ran, andThen, Prod.mk.injEq] at lost
            exact absurd lost.1 available
        | ok done =>
            simp only [ran, andThen] at lost
            -- the drop's counter is never written again
            have drops : after.drops = middle.drops := by
              revert lost
              cases again : reacquireReservation middle order now with
              | mk outcome inventory₂ =>
                  have kept := (reacquireReservation_cases middle order now again).2.1
                  cases outcome with
                  | error failure =>
                      simp only [Prod.mk.injEq]
                      rintro ⟨-, rfl⟩
                      exact kept
                  | ok done =>
                      intro lost
                      exact (forLines_frame lost).2.1.trans kept
            by_cases empty : order.lines = []
            · -- no unit was debited: the reservation decides
              have units : order.units = 0 := by simp [Order.units, empty]
              have moved : StockKept inventory middle := by
                refine .of_counts same ?_ (by simpa [units] using counters)
                intro id
                rw [debited id]
                by_cases here : id = dropId
                · simp [here, units, Inventory.countsOf, found, Drop.counts]
                · simp [here]
              have after_drop : andThen (reacquireReservation middle order now)
                  (fun inventory => reacquireLines order.createdAt order.lines inventory) =
                  (.error .stockUnavailable, after) := by
                simpa only [andThen] using lost
              rw [moved.trans_iff, reservation_and_lines_kept_iff after_drop]
              simp only [LostBeforeWrite, plenty, false_or, empty, or_true, true_and]
              cases auctioned : order.auctionAggregateId with
              | none => simp
              | some auction => simp [same.2]
            · have positive := units_pos empty
              have changed : ¬ StockKept inventory after := by
                intro kept
                have counted := congrArg (Option.map Counts.remaining) (debited dropId)
                have unmoved := kept.remaining dropId
                rw [drops, found] at unmoved
                simp only [Inventory.countsOf, if_true, Option.map_map, Option.map_some] at counted
                simp only [Function.comp_def, Drop.counts] at counted
                rw [unmoved] at counted
                simp only [Option.map_some, Option.some.injEq] at counted
                omega
              simp only [changed, LostBeforeWrite, plenty, stamped, empty, reduceCtorEq, or_self,
                false_and]

/-- Late money on lost stock leaves every quantity, counter and reservation as
it was exactly when the first step that would write is the one that fails. -/
theorem late_money_on_lost_stock_kept_iff (view after : View) (order : Order) (now : Time)
    (committed : applyLateMoney view order now = .ok (.refundRequired, after))
    (deliverable : unpinnable view.inventory order = false)
    (lost : (reacquireHold view order now).1 = .error .stockUnavailable) :
    StockKept view.inventory after.inventory ↔ LostBeforeWrite view.inventory order := by
  have left := applyLateMoney_lost committed deliverable
  have failed : reacquireStock view.inventory order now =
      (.error .stockUnavailable, after.inventory) := by
    rw [left]
    unfold reacquireHold at lost
    cases ran : reacquireStock view.inventory order now with
    | mk outcome inventory =>
        cases outcome with
        | error failure =>
            simp only [ran, Except.error.injEq] at lost
            simp [lost]
        | ok done =>
            simp only [ran] at lost
            split at lost <;> cases lost
  exact reacquireStock_kept_iff failed

/-- A lamp and a vase in one order that expired unpaid; another buyer has
reserved one of them since. -/
def lostLine (taken : ListingId) : List Action :=
  [ .registerListing "lamp" (sampleRecord 1 "USD" 2) ⟨"seller", 0⟩ false
  , .registerListing "vase" (sampleRecord 1 "USD" 2) ⟨"seller", 0⟩ false
  , sampleCheckout ["lamp", "vase"] 1 ] ++
  sampleBind 1 .stripe none none ++
  [ .order 7 600 .expireWindow
  , .reserveInventory 1 taken ⟨"other", 3⟩ 1 600 ]

theorem late_money_on_lost_lamp_kept :
    ∃ sys, Runs.Reachable (marketplace sampleReferences) Runs.anyStep sys ∧
      ∃ cell ∈ sys.cells.find? 7, cell.book.order.lines.length = 2 ∧
        ∃ late ∈ (applyLateMoney ⟨sys.inventory, cell.book⟩ cell.book.order 700).toOption,
          late.1 = .refundRequired ∧ StockKept sys.inventory late.2.inventory := by
  obtain ⟨sys, reached, cell, found, lines, late, committed, refund, deliverable, lost, first⟩ :=
    Runs.exists_reachable_of_run (marketplace sampleReferences) rfl (lostLine "lamp")
      (fun sys => ∃ cell ∈ sys.cells.find? 7, cell.book.order.lines.length = 2 ∧
        ∃ late ∈ (applyLateMoney ⟨sys.inventory, cell.book⟩ cell.book.order 700).toOption,
          late.1 = .refundRequired ∧ unpinnable sys.inventory cell.book.order = false ∧
          (reacquireHold ⟨sys.inventory, cell.book⟩ cell.book.order 700).1 =
            .error .stockUnavailable ∧
          LostBeforeWrite sys.inventory cell.book.order)
      (Runs.meets_anyStep _ _ _) (by decide +kernel)
  refine ⟨sys, reached, cell, found, lines, late, committed, refund, ?_⟩
  have answered : applyLateMoney ⟨sys.inventory, cell.book⟩ cell.book.order 700 =
      .ok (.refundRequired, late.2) := by
    rw [← refund]
    revert committed
    cases applyLateMoney ⟨sys.inventory, cell.book⟩ cell.book.order 700 with
    | error failure => simp [Except.toOption]
    | ok outcome => simp [Except.toOption]
  exact (late_money_on_lost_stock_kept_iff _ _ _ _ answered deliverable lost).mpr first

/-- The lamp stays reserved for an order that is cancelled and to be refunded. -/
theorem late_money_keeps_taken_line :
    ∃ sys, Runs.Reachable (marketplace sampleReferences) Runs.anyStep sys ∧
      ∃ cell ∈ sys.cells.find? 7,
        ∃ late ∈ (applyLateMoney ⟨sys.inventory, cell.book⟩ cell.book.order 700).toOption,
          late.1 = .refundRequired ∧ unpinnable sys.inventory cell.book.order = false ∧
          (reacquireHold ⟨sys.inventory, cell.book⟩ cell.book.order 700).1 =
            .error .stockUnavailable ∧
          ¬ StockKept sys.inventory late.2.inventory := by
  obtain ⟨sys, reached, cell, found, late, committed, refund, deliverable, lost, moved⟩ :=
    Runs.exists_reachable_of_run (marketplace sampleReferences) rfl (lostLine "vase")
      (fun sys => ∃ cell ∈ sys.cells.find? 7,
        ∃ late ∈ (applyLateMoney ⟨sys.inventory, cell.book⟩ cell.book.order 700).toOption,
          late.1 = .refundRequired ∧ unpinnable sys.inventory cell.book.order = false ∧
          (reacquireHold ⟨sys.inventory, cell.book⟩ cell.book.order 700).1 =
            .error .stockUnavailable ∧
          ((late.2.inventory.listings.find? "lamp").map fun listing =>
              (listing.availableQuantity, listing.reservedQuantity, listing.soldQuantity,
                listing.state)) ≠
            (sys.inventory.listings.find? "lamp").map fun listing =>
              (listing.availableQuantity, listing.reservedQuantity, listing.soldQuantity,
                listing.state))
      (Runs.meets_anyStep _ _ _) (by decide +kernel)
  exact ⟨sys, reached, cell, found, late, committed, refund, deliverable, lost,
    fun kept => moved (kept.listings "lamp")⟩

end MarketplaceService
