import MarketplaceService.LateFork
import MarketplaceService.ServiceFrame
import MarketplaceService.VerifiedMoney

/-!
One confirmation for each order. The units in a listing's sold column are those
of the orders with a receipt, less what their cancellations gave back; a
receipt is issued once, by the step that moves the order's units, and a
confirmed payment stays confirmed. Money that a rail verified for the order's
binding is never forgotten, unless the payment lapses between the two
transactions of a refused confirmation.
-/

namespace MarketplaceService

/-! The sold columns against the receipts. -/

/-- The units sold of each listing are those of the orders with a receipt, less
what they gave back. -/
def SoldByReceipts (sys : Sys) : Prop :=
  ∀ listing, sys.inventory.soldOf listing + sys.cells.sum (Cell.returnedOn listing) =
    sys.cells.sum (Cell.confirmedOn listing)

theorem Fresh.unsold {book : OrderBook} (fresh : Fresh book) (listing : ListingId) :
    (newCell book).confirmedOn listing = 0 := by
  obtain ⟨held, start⟩ := fresh.standing
  rw [Cell.confirmedOn_eq, show (newCell book).book = book from rfl, start]
  simp [Standing.boughtOn, Terms.start]

theorem Action.sells_foreign {sys after : Sys} {action : Action} (foreign : action.onOrder = none)
    (listing : ListingId) : action.sells sys after listing = 0 := by
  cases action <;> first | rfl | cases foreign

theorem SoldByReceipts.step {references : References} {sys after : Sys} {action : Action}
    (sold : SoldByReceipts sys) (sound : ∀ id cell, sys.cells.find? id = some cell → Sound cell)
    (stepped : sys.step references action = some after) : SoldByReceipts after := by
  intro listing
  have before := sold listing
  have moved := (step_leaves sound stepped).sold listing
  cases step_inv stepped with
  | @order id now step cell done named found ran cells =>
      have confirmed := sys.cells.sum_set_of_find? (Cell.confirmedOn listing) done found
      have returned := sys.cells.sum_set_of_find? (Cell.returnedOn listing) done found
      have present : after.cells.find? id = some done := by
        rw [cells, Keyed.Table.find?_set_self]
      rw [named] at moved
      simp only [Action.sells, found, present, Option.map_some, Option.getD_some,
        Cell.soldOn] at moved
      rw [cells]
      omega
  | @created books inventory foreign fresh inserted =>
      rw [Action.sells_foreign foreign] at moved
      have confirmed := insert_sums (Cell.confirmedOn listing) inserted
      have returned := insert_sums (Cell.returnedOn listing) inserted
      have unsold : (books.map fun book => (newCell book).confirmedOn listing).sum = 0 := by
        rw [List.map_congr_left fun book member => (fresh book member).unsold listing]
        simp
      have kept : (books.map fun book => (newCell book).returnedOn listing).sum = 0 := by
        simp [Cell.returnedOn, newCell]
      omega
  | beside foreign cells =>
      rw [Action.sells_foreign foreign] at moved
      rw [cells]
      omega

theorem reachable_soldByReceipts {references : References} {allowed : Sys → Action → Prop}
    {sys : Sys} (reached : Runs.Reachable (marketplace references) allowed sys) :
    SoldByReceipts sys := by
  refine Runs.invariant_under (marketplace references) allowed
    (fun sys => ∀ id cell, sys.cells.find? id = some cell → Sound cell) SoldByReceipts
    (fun _ reached _ _ found => reachable_sound reached found) ?_ ?_ reached
  · intro sys init listing
    rw [show sys = emptySys from init]
    rfl
  · intro before action after sound sold _ stepped
    exact sold.step sound stepped

/-! Receipts, step by step. -/

structure IssuesReceipt (sys : Sys) (action : Action) (after : Sys) (id : OrderId)
    (cell done : Cell) : Prop where
  own : ∃ now step, action = .order id now step
  unpaid : cell.book.receipt = none
  paid : done.book.receipt.isSome = true
  confirmed : done.book.payment.state = .confirmed
  moved : ∀ listing, after.inventory.soldOf listing =
    sys.inventory.soldOf listing + linesOn listing cell.book.order.lines

/-- What every step keeps to: a receipt stays as it was issued, a new order has
none, the sold columns grow by receipts only, and a confirmed payment stays. -/
structure ConfirmationLaw (sys : Sys) (action : Action) (after : Sys) : Prop where
  receipts : ∀ id cell, sys.cells.find? id = some cell →
    ∃ done, after.cells.find? id = some done ∧
      (done.book.receipt.map Receipt.charge = cell.book.receipt.map Receipt.charge ∨
        IssuesReceipt sys action after id cell done)
  created : ∀ id done, after.cells.find? id = some done → sys.cells.find? id = none →
    done.book.receipt = none
  sold : ∀ listing, sys.inventory.soldOf listing < after.inventory.soldOf listing →
    ∃ id cell done, sys.cells.find? id = some cell ∧ after.cells.find? id = some done ∧
      IssuesReceipt sys action after id cell done
  confirmed : ∀ id cell, sys.cells.find? id = some cell →
    cell.book.payment.state = .confirmed →
      ∃ done, after.cells.find? id = some done ∧ done.book.payment.state = .confirmed

section Steps

variable {references : References} {sys after : Sys} {id : OrderId} {now : Time}
  {step : OrderAction} {cell done : Cell}

theorem order_receipts (sound : ∀ id cell, sys.cells.find? id = some cell → Sound cell)
    (found : sys.cells.find? id = some cell)
    (stepped : sys.step references (.order id now step) = some after)
    (present : after.cells.find? id = some done)
    (ran : stepCell references sys.inventory cell now step = some (after.inventory, done)) :
    (done.book.receipt.map Receipt.charge = cell.book.receipt.map Receipt.charge ∧
        ∀ listing, after.inventory.soldOf listing ≤ sys.inventory.soldOf listing) ∨
      IssuesReceipt sys (.order id now step) after id cell done := by
  have own := stepCell_steps (sound id cell found) ran
  have terms := (own.steady (sound id cell found)).terms
  have coherent := (own.sound (sound id cell found)).coherent
  have moved (listing : ListingId) := (step_leaves sound stepped).sold listing
  simp only [Action.sells, found, present, Option.map_some, Option.getD_some, Cell.soldOn,
    Cell.confirmedOn_eq] at moved
  have given (listing : ListingId) : done.returnedOn listing =
      cell.returnedOn listing + linesOn listing (step.returns cell.book) := by
    rw [Cell.returnedOn, own.returned, linesOn_append]
    rfl
  obtain ⟨after_move, move, tidied⟩ := own.moves
  have receipt : done.book.standing.receipt = after_move.receipt :=
    (congrArg Standing.receipt tidied.eq).trans rfl
  have kept (same : after_move.receipt = cell.book.standing.receipt) :
      done.book.receipt.map Receipt.charge = cell.book.receipt.map Receipt.charge ∧
        ∀ listing, after.inventory.soldOf listing ≤ sys.inventory.soldOf listing := by
    have charge := receipt.trans same
    refine ⟨charge, fun listing => ?_⟩
    have delta := moved listing
    have bought : done.book.standing.boughtOn listing = cell.book.standing.boughtOn listing := by
      rw [Standing.boughtOn, Standing.boughtOn, charge, terms]
    rw [bought, given listing] at delta
    omega
  generalize lines : step.returns cell.book = returned at move given
  cases move.receipts with
  | kept same state => exact .inl (kept same)
  | gaveBack same paid cancelled sublist => exact .inl (kept same)
  | issued unpaid paid =>
      right
      have some_receipt : done.book.standing.receipt.isSome = true := by
        rw [receipt]
        exact paid
      refine ⟨⟨now, step, rfl⟩, Option.map_eq_none_iff.mp unpaid, ?_,
        (coherent.receipt some_receipt).1, fun listing => ?_⟩
      · exact Option.isSome_map.symm.trans some_receipt
      · have delta := moved listing
        have before : cell.book.standing.boughtOn listing = 0 := by
          simp [Standing.boughtOn, unpaid]
        have bought : done.book.standing.boughtOn listing =
            linesOn listing cell.book.order.lines := by
          rw [Standing.boughtOn, if_pos some_receipt, terms]
          rfl
        have nothing : done.returnedOn listing = cell.returnedOn listing := given listing
        rw [before, bought, nothing] at delta
        omega

theorem confirmationLaw (sound : ∀ id cell, sys.cells.find? id = some cell → Sound cell)
    {action : Action} (stepped : sys.step references action = some after) :
    ConfirmationLaw sys action after := by
  refine ⟨?_, ?_, ?_, ?_⟩
  · intro id cell found
    obtain ⟨done, present, rfl | ⟨now, step, rfl, ran⟩⟩ := step_keeps stepped found
    · exact ⟨done, present, .inl rfl⟩
    · rcases order_receipts sound found stepped present ran with ⟨same, -⟩ | issues
      · exact ⟨done, present, .inl same⟩
      · exact ⟨done, present, .inr issues⟩
  · intro id done present absent
    cases step_cells stepped present with
    | same found => cases absent.symm.trans found
    | @fresh book fresh created =>
        obtain ⟨held, start⟩ := fresh.standing
        rw [created]
        exact Option.map_eq_none_iff.mp (congrArg Standing.receipt start)
    | stepped named found ran => cases absent.symm.trans found
  · intro listing grows
    cases step_inv stepped with
    | @order id now step cell done named found ran cells =>
        subst named
        have present : after.cells.find? id = some done := by
          rw [cells, Keyed.Table.find?_set_self]
        rcases order_receipts sound found stepped present ran with ⟨-, shrinks⟩ | issues
        · exact absurd (shrinks listing) (Nat.not_le.mpr grows)
        · exact ⟨id, cell, done, found, present, issues⟩
    | created foreign fresh inserted =>
        have moved := (step_leaves sound stepped).sold listing
        rw [Action.sells_foreign foreign] at moved
        omega
    | beside foreign cells =>
        have moved := (step_leaves sound stepped).sold listing
        rw [Action.sells_foreign foreign] at moved
        omega
  · intro id cell found confirmed
    obtain ⟨done, present, rfl | ⟨now, step, rfl, ran⟩⟩ := step_keeps stepped found
    · exact ⟨done, present, confirmed⟩
    · refine ⟨done, present, ?_⟩
      exact (stepCell_steps (sound id cell found) ran).confirmed_stays (sound id cell found)
        confirmed

theorem Cell.honoured_step (sound : Sound cell) (owed : Owed cell) {inventory stocked : Inventory}
    (honoured : cell.honoured) (kept : RefusalKept now cell step)
    (ran : stepCell references inventory cell now step = some (stocked, done)) :
    done.honoured := by
  rcases honoured with secured | ⟨row, observation, waiting⟩
  · exact .inl (Cell.secured_step sound secured kept ran)
  · by_cases applied : step.consumes = some (.paymentAdvanced row true true observation)
    · have verifies : step.verifiesMoney = true := by
        cases step <;> cases applied
        rfl
      exact verified_honoured owed sound kept verifies ran
    · obtain ⟨effect, -, -, rfl⟩ := stepCell_transacts ran
      exact .inr ⟨row, observation, Cell.after_waits waiting applied⟩

theorem Cell.honoured_expired (sound : Sound cell) (honoured : cell.honoured)
    (expired : cell.book.payment.state = .expired) :
    cell.book.payment.resolution.isSome = true ∨
      ∃ row observation, .paymentAdvanced row true true observation ∈ cell.inFlight := by
  rcases honoured with secured | under_way
  · left
    rcases secured with confirmed | review | resolved | inside | refusal
    · cases expired.symm.trans confirmed
    · cases expired.symm.trans review
    · exact resolved
    · cases expired.symm.trans (sound.coherent.window inside).2
    · cases expired.symm.trans (cell.refusalOpen_iff.mp refusal).1
  · exact .inr under_way

end Steps

/-- In a run in which no payment lapses between the two transactions of a
refused confirmation, each order is confirmed at most once, and money that was
applied is honoured from then on. -/
theorem one_confirmation_per_order (references : References) (sys : Sys)
    (reached : Runs.Reachable (marketplace references) (eachOrderAt RefusalKept) sys) :
    SoldByReceipts sys ∧
    (∀ action after, sys.step references action = some after →
      ConfirmationLaw sys action after) ∧
    ∀ id now step after, step.verifiesMoney = true →
      eachOrderAt RefusalKept sys (.order id now step) →
      sys.step references (.order id now step) = some after →
      ∀ labels later, Runs.Meets (marketplace references) (eachOrderAt RefusalKept) after labels →
        Runs.run (marketplace references) after labels = some later →
        ∃ done, later.cells.find? id = some done ∧ done.honoured ∧
          (done.book.payment.state = .expired → done.book.payment.resolution.isSome = true ∨
            ∃ row observation, .paymentAdvanced row true true observation ∈ done.inFlight) := by
  refine ⟨reachable_soldByReceipts reached, fun action after stepped =>
    confirmationLaw (fun _ _ found => reachable_sound reached found) stepped, ?_⟩
  intro id now step after verifies guarded stepped labels later meets ran
  have applied : ∃ done, after.cells.find? id = some done ∧ done.honoured := by
    obtain ⟨cell, found, -⟩ := Option.bind_eq_some_iff.mp stepped
    obtain ⟨done, present, ran⟩ := order_step found stepped
    obtain ⟨sound, owed⟩ := reachable_owed reached found
    exact ⟨done, present,
      verified_honoured owed sound (eachOrderAt_order guarded found) verifies ran⟩
  have mid := Runs.Reachable.next reached guarded stepped
  have kept : ∃ done, later.cells.find? id = some done ∧ done.honoured := by
    refine @Runs.kept_by_run _ _ (marketplace references) (eachOrderAt RefusalKept)
      (fun sys => ∃ done, sys.cells.find? id = some done ∧ done.honoured) ?_ labels after later mid
      applied meets ran
    intro before action next prior held allowed stepped
    obtain ⟨cell, found, honoured⟩ := held
    obtain ⟨done, present, rfl | ⟨now, step, rfl, ran⟩⟩ := step_keeps stepped found
    · exact ⟨done, present, honoured⟩
    · obtain ⟨sound, owed⟩ := reachable_owed prior found
      exact ⟨done, present,
        Cell.honoured_step sound owed honoured (eachOrderAt_order allowed found) ran⟩
  obtain ⟨done, present, honoured⟩ := kept
  have sound := (reachable_owed (Runs.reachable_of_meets mid meets ran) present).1
  exact ⟨done, present, honoured, done.honoured_expired sound honoured⟩

/-- The winner's reservation lapsed, and the confirmation of the money is
refused. -/
def refusedLamp : List Action :=
  wonLamp ++ [ .tick 2000, .expireReservation 1 ]

/-- A sweep finds nothing due before the second transaction runs. -/
def refusedSettlement : List Action :=
  [ .order 7 2000 .expireWindow
  , .order 7 2000 (.settleRefused (pendingClaim 1) true
      { observedSats := some 5000, confirmations := some 3 }) ]

/-- The second transaction puts the refused payment in review. -/
theorem refused_lamp_reviewed :
    ∃ sys, Runs.Reachable (marketplace sampleReferences) (eachOrderAt RefusalKept) sys ∧
      SoldByReceipts sys ∧
      ∃ after, sys.step sampleReferences
          (.order 7 2000 (.applyPoll (pendingClaim 1) confirmedReport)) = some after ∧
        ConfirmationLaw sys (.order 7 2000 (.applyPoll (pendingClaim 1) confirmedReport)) after ∧
        ∃ later, Runs.run (marketplace sampleReferences) after refusedSettlement = some later ∧
          ∃ done, later.cells.find? 7 = some done ∧ done.honoured := by
  obtain ⟨sys, reached, guarded, after, stepped, meets, runs⟩ :=
    @Runs.exists_reachable_of_run _ _ (marketplace sampleReferences) (eachOrderAt RefusalKept) _ rfl
      refusedLamp
      (fun sys => eachOrderAt RefusalKept sys
          (.order 7 2000 (.applyPoll (pendingClaim 1) confirmedReport)) ∧
        ∃ after ∈ sys.step sampleReferences
          (.order 7 2000 (.applyPoll (pendingClaim 1) confirmedReport)),
        Runs.Meets (marketplace sampleReferences) (eachOrderAt RefusalKept) after
          refusedSettlement ∧
        (Runs.run (marketplace sampleReferences) after refusedSettlement).isSome = true)
      (by decide +kernel) (by decide +kernel)
  obtain ⟨later, ran⟩ := Option.isSome_iff_exists.mp runs
  obtain ⟨sold, law, honours⟩ := one_confirmation_per_order sampleReferences sys reached
  obtain ⟨done, present, honoured, -⟩ :=
    honours 7 2000 _ after rfl guarded stepped _ later meets ran
  exact ⟨sys, reached, sold, after, stepped, law _ after stepped, later, ran, done, present,
    honoured⟩

/-- The buyer cancels between the two transactions: the money was verified, and
the payment ends expired, with nothing under way. -/
theorem cancelled_refusal_forgets_money :
    ∃ sys, Runs.Reachable (marketplace sampleReferences) Runs.anyStep sys ∧
      (OrderAction.applyPoll (pendingClaim 1) confirmedReport).verifiesMoney = true ∧
      ∃ after, sys.step sampleReferences
          (.order 7 2000 (.applyPoll (pendingClaim 1) confirmedReport)) = some after ∧
        ∃ later, Runs.run (marketplace sampleReferences) after
            [ .order 7 2000 (.cancel ⟨"buyer", 2⟩ "changed my mind" false)
            , .order 7 2000 (.settleRefused (pendingClaim 1) true
                { observedSats := some 5000, confirmations := some 3 }) ] = some later ∧
          ∃ done, later.cells.find? 7 = some done ∧ done.book.payment.state = .expired ∧
            done.book.payment.resolution = none ∧ done.inFlight = [] := by
  obtain ⟨sys, reached, after, stepped, later, ran, done, present, forgotten⟩ :=
    Runs.exists_reachable_of_run (marketplace sampleReferences) rfl refusedLamp
      (fun sys => ∃ after ∈ sys.step sampleReferences
          (.order 7 2000 (.applyPoll (pendingClaim 1) confirmedReport)),
        ∃ later ∈ Runs.run (marketplace sampleReferences) after
            [ .order 7 2000 (.cancel ⟨"buyer", 2⟩ "changed my mind" false)
            , .order 7 2000 (.settleRefused (pendingClaim 1) true
                { observedSats := some 5000, confirmations := some 3 }) ],
          ∃ done ∈ later.cells.find? 7, done.book.payment.state = .expired ∧
            done.book.payment.resolution = none ∧ done.inFlight = [])
      (Runs.meets_anyStep _ _ _) (by decide +kernel)
  exact ⟨sys, reached, rfl, after, stepped, later, ran, done, present, forgotten⟩

end MarketplaceService
