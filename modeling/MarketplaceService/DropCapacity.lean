import MarketplaceService.DropFlows

/-!
The capacity of a drop. A hold takes its units out of `remaining_quantity`, a
confirmation counts one in `paid_quantity`, and a release puts them back, so
what is left, what is paid and what is held unpaid stay within the total. A
paid order that is cancelled gives its unit back to `remaining_quantity` but
stays counted in `paid_quantity`: the unit is sold a second time.
-/

namespace MarketplaceService

/-! The capacity over whole runs. -/

namespace Cell

/-- The units of a drop that a stamped pending order accounts for. -/
def ownedOf (dropId : DropId) (cell : Cell) : ℕ :=
  if cell.book.order.dropAggregateId = some dropId then cell.book.standing.owned else 0

/-- The units of a drop that a stamped order holds unpaid. -/
def heldOf (dropId : DropId) (cell : Cell) : ℕ :=
  if cell.book.order.dropAggregateId = some dropId ∧ cell.book.order.stockHeld = true ∧
      cell.book.order.state = .pendingPayment then
    cell.book.order.units
  else 0

theorem heldOf_le (dropId : DropId) (cell : Cell) : cell.heldOf dropId ≤ cell.ownedOf dropId := by
  unfold heldOf ownedOf
  by_cases held : cell.book.order.dropAggregateId = some dropId ∧
      cell.book.order.stockHeld = true ∧ cell.book.order.state = .pendingPayment
  · have label : cell.book.standing.state = .pendingPayment := held.2.2
    rw [if_pos held, if_pos held.1, Standing.owned, if_pos label]
    exact Nat.le_refl _
  · rw [if_neg held]
    exact Nat.zero_le _

end Cell

/-- What is left, paid, reserved and asked for by pending orders fits the
drop, and nothing is before the drop has started. -/
structure Capacity (sys : Sys) : Prop where
  room : ∀ id, ∀ counts ∈ sys.inventory.countsOf id,
    counts.unheld + sys.inventory.reservedUnits id + sys.cells.sum (Cell.ownedOf id) ≤ counts.total
  claims : ∀ key, ∀ row ∈ sys.inventory.reservations.find? key, ∀ dropId ∈ row.dropAggregateId,
    (sys.inventory.limitOf (dropId, row.buyerPubky)).isSome = true
  counters : ∀ key, (sys.inventory.limitOf key).isSome = true →
    ∃ terms ∈ sys.inventory.dropTerms key.1, terms.startsAt ≤ sys.clock
  begun : ∀ id, 0 < sys.inventory.paidOf id →
    ∃ terms ∈ sys.inventory.dropTerms id, terms.startsAt ≤ sys.clock

section Capacity

variable {sys after : Sys}

theorem Capacity.of_stamps (capacity : Capacity sys)
    (terms : TermsStep sys.clock sys.inventory after.inventory)
    (stamps : Stamps sys.inventory after.inventory) :
    ∀ key, ∀ row ∈ after.inventory.reservations.find? key, ∀ dropId ∈ row.dropAggregateId,
      (after.inventory.limitOf (dropId, row.buyerPubky)).isSome = true := by
  intro key row found dropId stamped
  rcases stamps key row found with old | counted
  · obtain ⟨before, present, same⟩ := Option.map_eq_some_iff.mp old
    have buyer : before.buyerPubky = row.buyerPubky := congrArg Claim.buyerPubky same
    have stamp : before.dropAggregateId = row.dropAggregateId := congrArg Claim.dropAggregateId same
    rw [← buyer]
    exact terms.rows _ (capacity.claims key before present dropId (stamp ▸ stamped))
  · exact counted dropId stamped

theorem Capacity.of_rows (capacity : Capacity sys)
    (terms : TermsStep sys.clock sys.inventory after.inventory) (clock : sys.clock ≤ after.clock)
    (key : DropId × Pubky) (counted : (after.inventory.limitOf key).isSome = true) :
    ∃ row ∈ after.inventory.dropTerms key.1, row.startsAt ≤ after.clock := by
  obtain ⟨limit, known⟩ := Option.isSome_iff_exists.mp counted
  obtain ⟨row, old, begins⟩ : ∃ row ∈ sys.inventory.dropTerms key.1, row.startsAt ≤ sys.clock := by
    rcases terms.limits key limit known with old | ⟨row, old, begins, -⟩
    · exact capacity.counters key (Option.isSome_iff_exists.mpr ⟨limit, old⟩)
    · exact ⟨row, old, begins⟩
  exact ⟨row, terms.drops key.1 row old begins, begins.trans clock⟩

/-- What a transaction gives to a drop, the pending orders no longer account
for. -/
theorem Capacity.flowed {stamp : Option DropId} {gain : ℤ} (capacity : Capacity sys)
    (terms : TermsStep sys.clock sys.inventory after.inventory) (clock : sys.clock ≤ after.clock)
    (flow : DropFlow stamp gain sys.inventory after.inventory)
    (stamps : Stamps sys.inventory after.inventory)
    (started : ∀ dropId ∈ stamp, ∃ row ∈ sys.inventory.dropTerms dropId, row.startsAt ≤ sys.clock)
    (owned : ∀ id, (after.cells.sum (Cell.ownedOf id) : ℤ) ≤
      sys.cells.sum (Cell.ownedOf id) - if stamp = some id then gain else 0) : Capacity after := by
  refine ⟨?_, capacity.of_stamps terms stamps, capacity.of_rows terms clock, ?_⟩
  · intro id counts known
    rw [Option.mem_def] at known
    have total := flow.totals id
    rw [known, Option.map_some] at total
    obtain ⟨before, present, same⟩ := Option.map_eq_some_iff.mp total.symm
    have fits := capacity.room id before present
    have units := flow.units id
    have share := owned id
    rw [Inventory.unheldOf, Inventory.unheldOf, known, present] at units
    simp only [Option.map_some, Option.getD_some] at units
    omega
  · intro id paid
    have old : ∃ row ∈ sys.inventory.dropTerms id, row.startsAt ≤ sys.clock := by
      by_cases stamped : stamp = some id
      · exact started id stamped
      · rw [flow.paid id stamped] at paid
        exact capacity.begun id paid
    obtain ⟨row, known, begins⟩ := old
    exact ⟨row, terms.drops id row known begins, begins.trans clock⟩

theorem Capacity.unstarted (capacity : Capacity sys) (books : DropBooks sys) {id : DropId}
    (fresh : ∀ drop ∈ sys.inventory.drops.find? id, sys.clock < drop.startsAt) :
    sys.inventory.reservedUnits id = 0 ∧ sys.cells.sum (Cell.ownedOf id) = 0 ∧
      sys.inventory.paidOf id = 0 := by
  have unbegun (terms : DropTerms) (known : sys.inventory.dropTerms id = some terms) :
      ¬ terms.startsAt ≤ sys.clock := by
    obtain ⟨drop, found, rfl⟩ := Option.map_eq_some_iff.mp known
    exact not_le.mpr (fresh drop found)
  have uncounted (buyer : Pubky) : (sys.inventory.limitOf (id, buyer)).isSome ≠ true := by
    intro counted
    obtain ⟨terms, present, begins⟩ := capacity.counters (id, buyer) counted
    exact unbegun terms present begins
  refine ⟨?_, ?_, ?_⟩
  · apply Keyed.Table.sum_eq_zero
    intro key row found
    unfold Reservation.heldOf
    split
    · rename_i held
      exact absurd (capacity.claims key row found id held.2) (uncounted _)
    · rfl
  · apply Keyed.Table.sum_eq_zero
    intro key cell found
    unfold Cell.ownedOf
    split
    · rename_i stamped
      exact absurd (books key cell found id stamped).2 (uncounted _)
    · rfl
  · by_contra paid
    obtain ⟨terms, present, begins⟩ := capacity.begun id (Nat.pos_of_ne_zero paid)
    exact unbegun terms present begins

/-- New orders without a stamp. -/
theorem insert_owned {inventory : Inventory} {books : List OrderBook}
    (unstamped : ∀ book ∈ books, book.order.dropAggregateId = none)
    (inserted : sys.insert inventory books = some after) (id : DropId) :
    after.cells.sum (Cell.ownedOf id) = sys.cells.sum (Cell.ownedOf id) := by
  have sums := insert_sums (Cell.ownedOf id) inserted
  have nothing : (books.map fun book => (newCell book).ownedOf id) = books.map fun _ => 0 := by
    apply List.map_congr_left
    intro book member
    simp [Cell.ownedOf, newCell, unstamped book member]
  rw [nothing] at sums
  simpa using sums

/-- A transaction beside the pending stamped orders. -/
theorem Capacity.balanced (capacity : Capacity sys)
    (terms : TermsStep sys.clock sys.inventory after.inventory) (clock : sys.clock ≤ after.clock)
    (balances : Balances sys.inventory after.inventory)
    (owned : ∀ id, after.cells.sum (Cell.ownedOf id) = sys.cells.sum (Cell.ownedOf id)) :
    Capacity after := by
  refine capacity.flowed terms clock balances.flow balances.stamps ?_ ?_
  · intro dropId stamped
    cases stamped
  · intro id
    rw [owned id]
    simp

theorem Capacity.claimed {request : CheckoutRequest} {books : List OrderBook}
    {inventory : Inventory} (capacity : Capacity sys)
    (terms : TermsStep sys.clock sys.inventory after.inventory) (clock : sys.clock ≤ after.clock)
    (fresh : ∀ book ∈ books, Fresh book)
    (hold : CheckoutHold sys.inventory request sys.clock books inventory)
    (inserted : sys.insert inventory books = some after) : Capacity after := by
  have written := insert_inventory inserted
  cases hold with
  | nothing same unstamped =>
      refine capacity.balanced terms clock ?_ (insert_owned unstamped inserted)
      rw [written, same]
      exact .of_tables rfl rfl
  | @claim line dropId drop gated listing moved bound gate found shifted stored stamped single =>
      have row := lockBoundDrop_found bound
      obtain ⟨enough, begins, same, counts, -⟩ := enforceDropGate_ok row gate
      have debit : DropFlow (some dropId) (-1) sys.inventory gated := by
        refine .of_counts same row counts rfl ?_
        simp only [Counts.unheld, Drop.counts]
        omega
      have listed : DropFlow (some dropId) 0 gated inventory := by
        rw [stored]
        exact .of_tables rfl rfl
      refine capacity.flowed terms clock (written ▸ debit.trans listed) ?_ ?_ ?_
      · rw [written, stored]
        exact .of_same same.2
      · intro id named
        cases named
        exact ⟨drop.terms, by simp [Inventory.dropTerms, row], begins⟩
      · intro id
        have sums := insert_sums (Cell.ownedOf id) inserted
        obtain ⟨book, rfl⟩ := List.length_eq_one_iff.mp single
        obtain ⟨named, -, only, lines, one⟩ := stamped book (by simp)
        obtain ⟨held, start⟩ := (fresh book (by simp)).standing
        have owned : (newCell book).ownedOf id = if dropId = id then 1 else 0 := by
          have units : book.standing.owned = 1 := by
            rw [start]
            simp [Standing.owned, Terms.start, Terms.units, Order.terms, lines, one]
          simp only [Cell.ownedOf, newCell, named, Option.some.injEq, units]
        rw [List.map_singleton, List.sum_singleton, owned] at sums
        by_cases here : dropId = id
        · simp only [here, if_true] at sums ⊢
          omega
        · have elsewhere : some dropId ≠ some id := fun same => here (Option.some.inj same)
          rw [if_neg here] at sums
          rw [if_neg elsewhere]
          omega

/-- A `drop.sync` with a newer record of a drop that has started by the time of
its commit has read a time by which it had started, and is refused. -/
def syncsInTime (sys : Sys) (action : Action) : Prop :=
  ∀ sync ∈ action.syncOf, ∀ drop ∈ sys.inventory.drops.find? sync.1,
    drop.recordRevision < sync.2.1.revision → drop.startsAt ≤ sys.clock →
      drop.startsAt ≤ sync.2.2

instance (sys : Sys) (action : Action) : Decidable (syncsInTime sys action) :=
  inferInstanceAs (Decidable (∀ sync ∈ action.syncOf,
    ∀ drop ∈ sys.inventory.drops.find? sync.1, _ → _ → _))

theorem syncsInTime.written {dropId : DropId} {record : DropRecord} {readAt : Time}
    {inventory : Inventory} (inTime : syncsInTime sys (.syncDrop dropId record readAt))
    (synced : syncDrop sys.inventory dropId record readAt = .ok inventory) :
    inventory = sys.inventory ∨
      ∀ drop ∈ sys.inventory.drops.find? dropId, sys.clock < drop.startsAt := by
  refine (syncDrop_found synced).imp_right fun found drop known => ?_
  obtain ⟨newer, later⟩ := found drop known
  by_contra started
  exact absurd (inTime _ rfl drop known newer (not_lt.mp started)) (not_le.mpr later)

theorem step_termsInTime {references : References} {action : Action}
    (sound : ∀ id cell, sys.cells.find? id = some cell → Sound cell)
    (inTime : syncsInTime sys action) (stepped : sys.step references action = some after) :
    TermsStep sys.clock sys.inventory after.inventory := by
  cases synced : action.syncOf with
  | none =>
      have terms := step_dropTerms sound stepped
      rwa [Action.readAt, synced] at terms
  | some sync =>
      obtain ⟨id, record, readAt, rfl⟩ : ∃ id record readAt,
          action = .syncDrop id record readAt := by
        cases action <;> cases synced
        exact ⟨_, _, _, rfl⟩
      obtain ⟨-, stepped⟩ := Option.ite_none_left_eq_some.mp stepped
      obtain ⟨inventory, ran, rfl⟩ := Option.map_eq_some_iff.mp stepped
      have ran := Outcome.toOption_some ran
      exact syncDrop_termsStep ran (inTime.written ran)

theorem Capacity.synced {dropId : DropId} {record : DropRecord} {readAt : Time}
    {inventory : Inventory} (capacity : Capacity sys) (books : DropBooks sys)
    (fresh : ∀ drop ∈ sys.inventory.drops.find? dropId, sys.clock < drop.startsAt)
    (terms : TermsStep sys.clock sys.inventory inventory)
    (synced : syncDrop sys.inventory dropId record readAt = .ok inventory) :
    Capacity { sys with inventory := inventory } := by
  have same := syncDrop_same synced
  obtain ⟨others, written⟩ := syncDrop_counts synced
  have reserved (id : DropId) : inventory.reservedUnits id = sys.inventory.reservedUnits id := by
    rw [Inventory.reservedUnits, same.2, Inventory.reservedUnits]
  have counts (id : DropId) (unwritten : inventory.countsOf id = sys.inventory.countsOf id) :
      inventory.paidOf id = sys.inventory.paidOf id := by
    rw [Inventory.paidOf, Inventory.paidOf, unwritten]
  have kept (id : DropId) (unwritten : inventory.countsOf id = sys.inventory.countsOf id) :
      ∀ counts ∈ inventory.countsOf id,
        counts.unheld + inventory.reservedUnits id + sys.cells.sum (Cell.ownedOf id) ≤
          counts.total := by
    intro counts known
    rw [unwritten] at known
    rw [reserved]
    exact capacity.room id counts known
  have claims := @Capacity.of_stamps sys { sys with inventory := inventory } capacity terms
    (.of_same same.2)
  have counters := @Capacity.of_rows sys { sys with inventory := inventory } capacity terms
    (Nat.le_refl _)
  have begun (id : DropId) (paid : inventory.paidOf id = sys.inventory.paidOf id)
      (some_paid : 0 < inventory.paidOf id) :
      ∃ terms ∈ inventory.dropTerms id, terms.startsAt ≤ sys.clock := by
    rw [paid] at some_paid
    obtain ⟨row, known, begins⟩ := capacity.begun id some_paid
    exact ⟨row, terms.drops id row known begins, begins⟩
  rcases written with unwritten | ⟨started, known, full, paid⟩
  · have all (id : DropId) : inventory.countsOf id = sys.inventory.countsOf id := by
      by_cases here : id = dropId
      · rw [here]
        exact unwritten
      · exact others id here
    exact ⟨fun id => kept id (all id), claims, counters, fun id => begun id (counts id (all id))⟩
  · obtain ⟨none_reserved, none_owned, none_paid⟩ := capacity.unstarted books fresh
    refine ⟨?_, claims, counters, ?_⟩
    · intro id row present
      by_cases here : id = dropId
      · subst here
        obtain rfl : row = started := Option.mem_unique present known
        simp only at present ⊢
        rw [reserved, none_reserved, none_owned, Counts.unheld, paid, none_paid]
        omega
      · exact kept id (others id here) row present
    · intro id some_paid
      by_cases here : id = dropId
      · subst here
        have nothing : inventory.paidOf id = 0 := by
          rw [Inventory.paidOf, Option.mem_def.mp known, Option.map_some, Option.getD_some, paid,
            none_paid]
        simp only [nothing] at some_paid
        cases some_paid
      · exact begun id (counts id (others id here)) some_paid

/-- No paid cancellation gives a drop unit back, no late payment of an auction
order brings back a lapsed reservation of a drop unit, and no sync starts the
units of a drop over that has started. -/
def keepsPaidUnits (sys : Sys) (action : Action) : Prop :=
  eachOrder (fun cell step =>
    (cell.book.order.dropAggregateId.isSome = true → step.returns cell.book = []) ∧
      (step.retakes cell.book = true → lapsedUnstamped sys.inventory cell.book.order)) sys action ∧
    syncsInTime sys action

instance (sys : Sys) (action : Action) : Decidable (keepsPaidUnits sys action) :=
  inferInstanceAs (Decidable (eachOrder _ sys action ∧ syncsInTime sys action))

theorem lapsedUnstamped.of_terms {inventory : Inventory} {order other : Order}
    (unstamped : lapsedUnstamped inventory order) (terms : other.terms = order.terms) :
    lapsedUnstamped inventory other := by
  simp only [Order.terms, Terms.mk.injEq] at terms
  obtain ⟨-, auction, -, buyer, -⟩ := terms
  unfold lapsedUnstamped
  rw [auction, buyer]
  exact unstamped

theorem reachable_singleUnit {references : References} {allowed : Sys → Action → Prop}
    (reached : Runs.Reachable (marketplace references) allowed sys) {id : OrderId} {cell : Cell}
    (found : sys.cells.find? id = some cell) : cell.book.order.terms.singleUnit := by
  have alone : cell.book.standing.terms.drop.isSome = true →
      cell.book.standing.terms.auction = none := by
    refine (cells_invariant (fun cell => cell.book.standing.terms.drop.isSome = true →
      cell.book.standing.terms.auction = none) ?_ ?_ reached found).2
    · intro book fresh
      exact fresh.stamped
    · intro sys id now action cell inventory done found _ sound known ran
      rw [((stepCell_steps sound ran).steady sound).terms]
      exact known
  intro stamped
  refine ⟨?_, alone stamped⟩
  obtain ⟨dropId, named⟩ := Option.isSome_iff_exists.mp stamped
  obtain ⟨only, lines, one⟩ := (reachable_dropBooks reached id cell found dropId named).1
  simp [Terms.units, Order.terms, lines, one]

theorem Capacity.order_step {references : References} {id : OrderId} {now : Time}
    {action : OrderAction} {cell done : Cell} {inventory : Inventory} (capacity : Capacity sys)
    (books : DropBooks sys) (found : sys.cells.find? id = some cell) (sound : Sound cell)
    (single : cell.book.order.terms.singleUnit)
    (keeps : cell.book.order.dropAggregateId.isSome = true → action.returns cell.book = [])
    (unstamped : action.retakes cell.book = true →
      lapsedUnstamped sys.inventory cell.book.order)
    (ran : stepCell references sys.inventory cell now action = some (inventory, done)) :
    Capacity { sys with inventory := inventory, cells := sys.cells.set id done } := by
  have step := stepCell_steps sound ran
  have terms := (step.steady sound).terms
  obtain ⟨moved, move, tidied⟩ := step.moves
  have flows : cell.book.standing.Flows done.book.standing sys.inventory inventory := by
    refine (move.flows sound.coherent single keeps fun retakes order same => ?_).relabel
      ⟨rfl, rfl⟩ ?_
    · refine (unstamped (Retakes.retakes ?_ ran)).of_terms same
      cases retakes with
      | late entered => exact .late entered
      | reported rail money flagged => exact .reported rail money flagged
      | ruled unpaid paid =>
          refine .ruled unpaid ?_
          rw [tidied.eq]
          exact paid
    · rw [tidied.eq]
      exact ⟨rfl, rfl⟩
  refine @Capacity.flowed sys { sys with inventory := inventory, cells := sys.cells.set id done }
    _ _ capacity (.of_same (step.taking sound).sameTerms) (Nat.le_refl _) flows ?_ ?_ ?_
  · intro key row present
    have claim := (step.soldOn sound).frames.claims key
    left
    rw [← claim, Inventory.claim, Option.mem_def.mp present, Option.map_some]
  · intro dropId stamped
    exact capacity.counters _ (books id cell found dropId stamped).2
  · intro other
    have share := sys.cells.sum_set_of_find? (Cell.ownedOf other) done found
    have stamp : done.book.order.dropAggregateId = cell.book.standing.terms.drop :=
      congrArg Terms.drop terms
    have own : cell.book.order.dropAggregateId = cell.book.standing.terms.drop := rfl
    rw [Cell.ownedOf, Cell.ownedOf, stamp, own] at share
    simp only at share ⊢
    split at share
    · rename_i here
      rw [if_pos here]
      omega
    · rename_i elsewhere
      rw [if_neg elsewhere]
      omega

theorem Capacity.step {references : References} {action : Action} (capacity : Capacity sys)
    (books : DropBooks sys) (sound : ∀ id cell, sys.cells.find? id = some cell → Sound cell)
    (single : ∀ id cell, sys.cells.find? id = some cell → cell.book.order.terms.singleUnit)
    (keeps : keepsPaidUnits sys action) (stepped : sys.step references action = some after) :
    Capacity after := by
  have terms := step_termsInTime sound keeps.2 stepped
  have clock := step_clock stepped
  -- Catalog steps move units between the columns of one row, and a new unstamped order owns none
  -- of a drop; the two remaining kinds of step are the order's own and the claim.
  have stocked {result : Except Failure Inventory}
      (balances : ∀ inventory, result = .ok inventory → Balances sys.inventory inventory)
      (stocked : sys.setInventory result = some after) : Capacity after := by
    obtain ⟨inventory, ran, rfl⟩ := Option.map_eq_some_iff.mp stocked
    exact capacity.balanced terms clock (balances inventory (Outcome.toOption_some ran))
      fun _ => rfl
  have created {book : OrderBook} {inventory : Inventory}
      (balances : Balances sys.inventory inventory)
      (unstamped : book.order.dropAggregateId = none)
      (inserted : sys.insert inventory [book] = some after) : Capacity after := by
    refine capacity.balanced terms clock ?_ (insert_owned ?_ inserted)
    · rw [insert_inventory inserted]
      exact balances
    · intro only member
      rw [List.mem_singleton.mp member]
      exact unstamped
  cases action with
  | tick seconds =>
      cases stepped
      exact capacity.balanced terms clock (.of_tables rfl rfl) fun _ => rfl
  | order id now step =>
      obtain ⟨cell, found, stepped⟩ := Option.bind_eq_some_iff.mp stepped
      obtain ⟨⟨inventory, done⟩, ran, rfl⟩ := Option.map_eq_some_iff.mp stepped
      obtain ⟨returns, unstamped⟩ := eachOrder_order keeps.1 found
      exact capacity.order_step books found (sound id cell found) (single id cell found) returns
        unstamped ran
  | checkout request =>
      obtain ⟨⟨books, inventory⟩, created, inserted⟩ := Option.bind_eq_some_iff.mp stepped
      have ran := Outcome.toOption_some created
      exact capacity.claimed terms clock (checkoutCreate_fresh ran)
        (checkoutCreate_hold ran) inserted
  | offerCheckout award order fulfillment holdWindowSeconds =>
      obtain ⟨⟨book, inventory⟩, ran, inserted⟩ := Option.bind_eq_some_iff.mp stepped
      have made := Outcome.toOption_some ran
      exact created (offerCheckout_balances made) (offerCheckout_terms made).2 inserted
  | closeAuction listing winner priceMinor reservation order =>
      obtain ⟨⟨book, inventory⟩, ran, inserted⟩ := Option.bind_eq_some_iff.mp stepped
      have made := Outcome.toOption_some ran
      exact created (closeAuction_balances made) (closeAuction_terms made).2 inserted
  | placeBid listing =>
      refine stocked (fun inventory ran => ?_) stepped
      obtain ⟨row, -, -, -, -, rfl⟩ := placeBid_ok ran
      exact .of_tables rfl rfl
  | closeUnsold listing =>
      refine stocked (fun inventory ran => ?_) stepped
      obtain ⟨row, -, -, -, rfl⟩ := closeUnsold_ok ran
      exact .of_tables rfl rfl
  | registerListing listing record sender recordFound =>
      refine stocked (fun inventory ran => ?_) stepped
      obtain ⟨row, rfl, -⟩ := registerListing_ok ran
      exact .of_tables rfl rfl
  | syncListing listing record =>
      refine stocked (fun inventory ran => ?_) stepped
      obtain ⟨row, rfl, -⟩ := syncListing_ok ran
      exact .of_tables rfl rfl
  | tombstone listing =>
      obtain ⟨inventory, deleted, rfl⟩ := Option.map_eq_some_iff.mp stepped
      exact capacity.balanced terms clock (tombstone_balances deleted) fun _ => rfl
  | adjustInventory listing sender delta =>
      exact stocked (fun _ ran => adjustInventory_balances ran) stepped
  | setDigitalVersion listing kind =>
      obtain ⟨inventory, written, rfl⟩ := Option.map_eq_some_iff.mp stepped
      obtain ⟨row, -, rfl⟩ := Option.map_eq_some_iff.mp written
      exact capacity.balanced terms clock (.of_tables rfl rfl) fun _ => rfl
  | reserveInventory reservation listing sender quantity ttlSeconds =>
      exact stocked (fun _ ran => reserveInventory_balances ran) stepped
  | expireReservation reservation =>
      obtain ⟨-, stepped⟩ := Option.ite_none_left_eq_some.mp stepped
      exact stocked (fun _ ran => expireDueReservation_balances ran) stepped
  | acceptOffer award readAt =>
      obtain ⟨-, stepped⟩ := Option.ite_none_left_eq_some.mp stepped
      exact stocked (fun _ ran => acceptOffer_balances ran) stepped
  | expireAward award => exact stocked (fun _ ran => expireDueAward_balances ran) stepped
  | syncDrop drop record readAt =>
      obtain ⟨-, stepped⟩ := Option.ite_none_left_eq_some.mp stepped
      obtain ⟨inventory, ran, rfl⟩ := Option.map_eq_some_iff.mp stepped
      have ran := Outcome.toOption_some ran
      rcases keeps.2.written ran with same | fresh
      · rw [same]
        exact capacity
      · exact capacity.synced books fresh terms ran
  | cancelDrop drop sender => exact stocked (fun _ ran => cancelDrop_balances ran) stepped
  | releaseDropListings drop sender =>
      exact stocked (fun _ ran => releaseDropListings_balances ran) stepped
  | transitionDrop drop =>
      cases stepped
      exact capacity.balanced terms clock (transitionDueDrop_balances ..) fun _ => rfl

theorem reachable_capacity {references : References}
    (reached : Runs.Reachable (marketplace references) keepsPaidUnits sys) : Capacity sys := by
  refine Runs.invariant_under (marketplace references) keepsPaidUnits
    (fun sys => DropBooks sys ∧ ∀ id cell, sys.cells.find? id = some cell →
      Sound cell ∧ cell.book.order.terms.singleUnit) Capacity ?_ ?_ ?_ reached
  · intro sys reached
    refine ⟨reachable_dropBooks reached, fun id cell found => ?_⟩
    exact ⟨reachable_sound reached found, reachable_singleUnit reached found⟩
  · intro sys init
    rw [show sys = emptySys from init]
    refine ⟨?_, ?_, ?_, ?_⟩
    · intro id counts known
      cases known
    · intro key row found
      cases found
    · intro key counted
      cases counted
    · intro id paid
      cases paid
  · intro before action after known capacity keeps stepped
    exact capacity.step known.1 (fun id cell found => (known.2 id cell found).1)
      (fun id cell found => (known.2 id cell found).2) keeps stepped

end Capacity

/-- A drop's paid units and the unpaid holds fit its total, and a confirmation
of an order that holds its unit, or takes it again, can be counted. -/
structure DropFits (sys : Sys) (dropId : DropId) (drop : Drop) : Prop where
  held : drop.paidQuantity + (sys.cells.sum (Cell.heldOf dropId) +
    sys.inventory.reservations.sum (Reservation.heldOf dropId)) ≤ drop.totalQuantity
  confirmed : ∀ id cell, sys.cells.find? id = some cell →
    cell.book.order.dropAggregateId = some dropId → cell.book.order.stockHeld = true → ∀ now,
      ∃ counted, recordPaidUnit sys.inventory dropId now = .ok counted
  retaken : ∀ id cell, sys.cells.find? id = some cell →
    cell.book.order.dropAggregateId = some dropId → ∀ now taken,
      reacquireStock sys.inventory cell.book.order now = (.ok (), taken) →
        ∃ counted, recordPaidUnit taken dropId now = .ok counted

/-- In every run that keeps to the condition, every drop has room for what it
has promised. -/
theorem drop_capacity_kept (references : References) (sys : Sys)
    (reached : Runs.Reachable (marketplace references) keepsPaidUnits sys) (dropId : DropId)
    (drop : Drop) (found : sys.inventory.drops.find? dropId = some drop) :
    DropFits sys dropId drop := by
  have counts : sys.inventory.countsOf dropId = some drop.counts := by
    rw [Inventory.countsOf, found, Option.map_some]
  have room := (reachable_capacity reached).room dropId drop.counts counts
  have holds := sys.cells.sum_le_sum (Cell.heldOf dropId) (Cell.ownedOf dropId)
    fun _ cell _ => cell.heldOf_le dropId
  simp only [Counts.unheld, Drop.counts, Inventory.reservedUnits] at room
  refine ⟨by omega, ?_, ?_⟩
  · intro id cell present stamped held now
    apply (recordPaidUnit_ok_iff _ _ _).mpr
    refine ⟨drop, found, ?_⟩
    have pending := ((reachable_sound reached present).coherent.held held).1
    have one := (reachable_singleUnit reached present (by
      rw [show cell.book.order.terms.drop = some dropId from stamped]
      rfl)).1
    have share := sys.cells.le_sum_of_find? (Cell.ownedOf dropId) present
    have owned : cell.ownedOf dropId = 1 := by
      rw [Cell.ownedOf, if_pos stamped, Standing.owned, if_pos pending]
      exact one
    omega
  · intro id cell present stamped now taken reacquired
    apply (recordPaidUnit_ok_iff _ _ _).mpr
    have one := (reachable_singleUnit reached present (by
      rw [show cell.book.order.terms.drop = some dropId from stamped]
      rfl)).1
    have units : cell.book.order.units = 1 := one
    obtain ⟨debited, debit, rest⟩ := andThen_ok reacquired
    obtain ⟨reserved, again, lines⟩ := andThen_ok rest
    have kept := (reacquireReservation_cases debited _ now again).2.1
    have tables : taken.drops = debited.drops := (forLines_frame lines).2.1.trans kept
    -- an order with a stamp debited the drop it names
    obtain ⟨-, ⟨none_stamped, -⟩ | ⟨-, failed, -⟩ |
        ⟨named, row, stamp, stored, enough, -, counted, -⟩⟩ :=
      reacquireDrop_cases sys.inventory _ now debit
    · rw [stamped] at none_stamped
      cases none_stamped
    · cases failed
    · rw [stamped] at stamp
      cases stamp
      obtain rfl : row = drop := Option.some.inj (stored.symm.trans found)
      have written := counted dropId
      rw [if_pos rfl, Inventory.countsOf, ← tables] at written
      obtain ⟨last, last_found, same⟩ := Option.map_eq_some_iff.mp written
      simp only [Drop.counts, Counts.mk.injEq] at same
      exact ⟨last, last_found, by omega⟩

def lampClaim (order revision : ℕ) : Action :=
  .checkout
    { buyer := "buyer"
      lines :=
        [ { listing := "lamp"
            quantity := 1
            expectedRevision := revision
            fulfillment := .shipping
            quantity_pos := Nat.one_pos } ]
      orderIds := [order]
      locksAuthority := false
      dropClaimWindowSeconds := 600 }

def paidLamp : List Action :=
  [ .registerListing "lamp" (sampleRecord 2 "USD" 2) ⟨"seller", 0⟩ false
  , .syncDrop "drop"
      { sellerPubky := "seller"
        revision := 1
        startsAt := 100
        endsAt := none
        totalQuantity := 2
        perBuyerLimit := 2
        listingIds := ["lamp"] } 0
  , .tick 100
  , lampClaim 7 1 ] ++
  sampleBind 1 .stripe none none ++
  [ .order 7 110 (.verifyStripe "buyer" (some "cs_1"))
  , .order 7 110 (.applyFiat (some "cs_1") .processor) ]

/-- The second lamp is claimed: one unit paid, one held, no third. -/
theorem second_lamp_fits :
    ∃ sys, Runs.Reachable (marketplace sampleReferences) keepsPaidUnits sys ∧
      ∃ drop ∈ sys.inventory.drops.find? "drop", drop.paidQuantity = 1 ∧
        sys.cells.sum (Cell.heldOf "drop") = 1 ∧ DropFits sys "drop" drop := by
  obtain ⟨sys, reached, drop, found, paid, held⟩ :=
    @Runs.exists_reachable_of_run _ _ (marketplace sampleReferences) keepsPaidUnits _ rfl
      (paidLamp ++ [lampClaim 8 3])
      (fun sys => ∃ drop ∈ sys.inventory.drops.find? "drop", drop.paidQuantity = 1 ∧
        sys.cells.sum (Cell.heldOf "drop") = 1)
      (by decide +kernel) (by decide +kernel)
  exact ⟨sys, reached, drop, found, paid, held,
    drop_capacity_kept sampleReferences sys reached "drop" drop found⟩

/-- The paid order is cancelled and both lamps are claimed: one unit paid and
two held, of a drop of two. -/
theorem cancelled_lamp_sold_again :
    ∃ sys, Runs.Reachable (marketplace sampleReferences) Runs.anyStep sys ∧
      ∃ drop ∈ sys.inventory.drops.find? "drop", ¬ DropFits sys "drop" drop := by
  obtain ⟨sys, reached, drop, found, total, paid, held⟩ :=
    Runs.exists_reachable_of_run (marketplace sampleReferences) rfl
      (paidLamp ++
        [ .order 7 120 (.cancel ⟨"buyer", 3⟩ "changed my mind" false)
        , .order 7 130 (.approveCancel ⟨"seller", 4⟩)
        , lampClaim 8 4
        , lampClaim 9 5 ])
      (fun sys => ∃ drop ∈ sys.inventory.drops.find? "drop", drop.totalQuantity = 2 ∧
        drop.paidQuantity = 1 ∧ sys.cells.sum (Cell.heldOf "drop") = 2)
      (Runs.meets_anyStep _ _ _) (by decide +kernel)
  refine ⟨sys, reached, drop, found, ?_⟩
  intro fits
  have within := fits.held
  omega

end MarketplaceService
