import MarketplaceService.AuctionOrders
import MarketplaceService.LateFork
import MarketplaceService.SellerAudit

/-!
The law of the seller window over whole runs. An order enters the window on a
report of matching money that is on time, keeps its stock while it is inside,
and leaves by the seller's confirmation or by the reaper after the deadline.
Three steps break the law: a report whose amount did not match opens the window
all the same, an auction order enters it without its reservation, and the second
transaction of a refused confirmation closes a window that opened in between.
-/

namespace MarketplaceService

/-- An active reservation of the order's buyer on its auctioned listing, which
no award owns. -/
def Reservation.holdsFor (order : Order) (row : Reservation) : Prop :=
  order.auctionAggregateId = some row.listing ∧ row.buyerPubky = order.buyerPubky ∧
    row.status = .active ∧ row.offerAwardId = none

instance (order : Order) (row : Reservation) : Decidable (row.holdsFor order) := by
  unfold Reservation.holdsFor
  infer_instance

def ReservationHeld (inventory : Inventory) (order : Order) : Prop :=
  order.auctionAggregateId = none ∨
    ∃ entry ∈ inventory.reservations.rows, entry.2.holdsFor order

instance (inventory : Inventory) (order : Order) : Decidable (ReservationHeld inventory order) :=
  inferInstanceAs (Decidable (_ ∨ _))

def StockHeld (inventory : Inventory) (order : Order) : Prop :=
  (order.auctionAggregateId = none → order.stockHeld = true) ∧ ReservationHeld inventory order

def OrderAction.opensWindow (action : OrderAction) (book : OrderBook) : Bool :=
  action.entersWindow.isSome && book.payment.state == .awaitingEntitlement &&
    (book.order.paykitRequestState == some .pending ||
      book.order.paykitRequestState == some .detected)

/-- A report that opens the window brings matching money and finds the
reservation of an auction order; no confirmation that was refused before the
window opened is settled inside it. -/
def WindowGuard (inventory : Inventory) (cell : Cell) (action : OrderAction) : Prop :=
  (action.opensWindow cell.book = true →
    action.entersWindow = some true ∧ ReservationHeld inventory cell.book.order) ∧
  (cell.book.order.paykitRequestState = some .awaitingSellerConfirmation →
    action.isFallback = false)

instance (inventory : Inventory) (cell : Cell) (action : OrderAction) :
    Decidable (WindowGuard inventory cell action) := by
  unfold WindowGuard
  infer_instance

def windowGuarded (sys : Sys) (action : Action) : Prop :=
  eachOrder (WindowGuard sys.inventory) sys action

instance (sys : Sys) (action : Action) : Decidable (windowGuarded sys action) :=
  inferInstanceAs (Decidable (eachOrder _ sys action))

/-! The law. -/

def PaykitStatusOutcome.matchesOnTime : PaykitStatusOutcome → Bool
  | .confirmed amountMatched facts => amountMatched && !facts.lateSettlement
  | .detected facts => !facts.lateSettlement
  | _ => false

/-- The step is the seller's confirmation, or the reaper once the deadline of
the window has passed. -/
def ClosesWindow (cell : Cell) (now : Time) (step : OrderAction) : Prop :=
  (∃ order, step = .confirmBitcoin order) ∨
    step = .routeSellerWindow ∧
      ∃ window ∈ cell.book.order.sellerWindow, window.deadline ≤ now

structure Waits (before after : Cell) : Prop where
  inside : after.inWindow
  unpaid : after.book.receipt = none
  payment : after.book.payment.state = before.book.payment.state
  state : after.book.order.state = before.book.order.state
  held : after.book.order.stockHeld = before.book.order.stockHeld

structure WindowLaw (sys : Sys) (action : Action) (after : Sys) : Prop where
  entry : ∀ id done, after.cells.find? id = some done → done.inWindow →
    (∃ cell ∈ sys.cells.find? id, cell.inWindow) ∨
      ∃ now row outcome, action = .order id now (.applyPoll row outcome) ∧
        outcome.matchesOnTime = true
  inside : ∀ id cell, sys.cells.find? id = some cell → cell.inWindow →
    ∃ done, after.cells.find? id = some done ∧
      (Waits cell done ∨ ∃ now step, action = .order id now step ∧ ClosesWindow cell now step)

theorem entersWindow_report {action : OrderAction} (entry : action.entersWindow = some true) :
    ∃ row outcome, action = .applyPoll row outcome ∧ outcome.matchesOnTime = true := by
  unfold OrderAction.entersWindow at entry
  split at entry
  · rename_i row amountMatched facts
    obtain ⟨⟨-, onTime, -⟩, matched⟩ := Option.ite_none_right_eq_some.mp entry
    exact ⟨row, _, rfl, by simpa [PaykitStatusOutcome.matchesOnTime, onTime] using matched⟩
  · rename_i row facts
    obtain ⟨⟨-, onTime, -⟩, -⟩ := Option.ite_none_right_eq_some.mp entry
    exact ⟨row, _, rfl, by simpa [PaykitStatusOutcome.matchesOnTime] using onTime⟩
  · cases entry

section Steps

variable {references : References} {now : Time} {inventory after : Inventory} {cell done : Cell}
  {action : OrderAction}

theorem Fresh.outside {book : OrderBook} (fresh : Fresh book) : ¬ (newCell book).inWindow := by
  obtain ⟨⟨held, start⟩, -⟩ := fresh
  have unsent : book.order.paykitRequestState = none := congrArg Standing.request start
  intro inside
  exact absurd (unsent.symm.trans inside) (by simp)

theorem Sound.unpaid_inside (sound : Sound cell) (inside : cell.inWindow) :
    cell.book.receipt = none := by
  have awaiting := (sound.coherent.window inside).2
  have unpaid : cell.book.standing.receipt = none := by
    apply sound.coherent.unpaid
    rw [awaiting]
    simp
  exact Option.map_eq_none_iff.mp unpaid

theorem tidied_request {moved : Standing} (tidied : moved.Tidied done.book.standing) :
    done.book.order.paykitRequestState = moved.request :=
  congrArg Standing.request tidied.eq

/-- A step that writes nothing of the order but what was seen. -/
theorem Waits.of_tidied {moved : Standing} {seen : Option Observation} (sound : Sound cell)
    (inside : cell.inWindow)
    (same : moved = { cell.book.standing with sighting.observation := seen })
    (tidied : moved.Tidied done.book.standing) : Waits cell done := by
  subst same
  refine ⟨(tidied_request tidied).trans inside, ?_, congrArg Standing.payment tidied.eq,
    congrArg Standing.state tidied.eq, congrArg Standing.held tidied.eq⟩
  have kept : done.book.standing.receipt = none :=
    (congrArg Standing.receipt tidied.eq).trans
      (Option.map_eq_none_iff.mpr (sound.unpaid_inside inside))
  exact Option.map_eq_none_iff.mp kept

theorem CellStep.opens (step : CellStep references now inventory cell action after done)
    (guarded : WindowGuard inventory cell action) (outside : ¬ cell.inWindow)
    (inside : done.inWindow) :
    action.entersWindow = some true ∧ ReservationHeld inventory cell.book.order ∧
      after = cell.book.order.terms.extend (now + sellerConfirmationWindowSeconds) inventory := by
  obtain ⟨moved, move, tidied⟩ := step.moves
  have opened : moved.request = some .awaitingSellerConfirmation := by
    rw [← tidied_request tidied]
    exact inside
  have closed : cell.book.standing.request ≠ some .awaitingSellerConfirmation := outside
  cases move.enters closed opened with
  | intro entry reported awaiting froze first =>
      have opens : action.opensWindow cell.book = true := by
        have open_payment : cell.book.payment.state = .awaitingEntitlement := awaiting
        have request : cell.book.order.paykitRequestState = some .pending ∨
            cell.book.order.paykitRequestState = some .detected := reported
        simp [OrderAction.opensWindow, entry, open_payment, request]
      obtain ⟨matched, present⟩ := guarded.1 opens
      exact ⟨matched, present, rfl⟩

theorem CellStep.waits (step : CellStep references now inventory cell action after done)
    (sound : Sound cell) (guarded : WindowGuard inventory cell action) (inside : cell.inWindow) :
    after = inventory ∧ Waits cell done ∨ ¬ done.inWindow ∧ ClosesWindow cell now action := by
  obtain ⟨moved, move, tidied⟩ := step.moves
  have left (closed : moved.request = some .confirmed) : ¬ done.inWindow := by
    intro waits
    rw [Cell.inWindow, tidied_request tidied, closed] at waits
    cases waits
  cases move.inside sound.coherent step.speaks inside with
  | kept => exact .inl ⟨rfl, .of_tidied sound inside rfl tidied⟩
  | refreshed rail amount => exact .inl ⟨rfl, .of_tidied sound inside rfl tidied⟩
  | confirmed confirmed =>
      exact .inr ⟨left rfl, .inl ⟨_, rfl⟩⟩
  | lapsed opened due => exact .inr ⟨left rfl, .inr ⟨rfl, _, opened, due⟩⟩
  | refused fallback settled =>
      rw [guarded.2 inside] at fallback
      cases fallback

end Steps

/-! Auction orders keep their reservation inside the window. -/

theorem ReservationHeld.of_order {inventory : Inventory} {order other : Order}
    (terms : other.terms = order.terms) (held : ReservationHeld inventory order) :
    ReservationHeld inventory other := by
  have auction : other.auctionAggregateId = order.auctionAggregateId := congrArg Terms.auction terms
  have buyer : other.buyerPubky = order.buyerPubky := congrArg Terms.buyer terms
  unfold ReservationHeld Reservation.holdsFor at held ⊢
  rw [auction, buyer]
  exact held

theorem ReservationHeld.extended {inventory : Inventory} {order : Order} (deadline : Time)
    (held : ReservationHeld inventory order) :
    ReservationHeld (order.terms.extend deadline inventory) order := by
  rcases held with single | ⟨entry, member, holds⟩
  · exact .inl single
  · refine .inr ?_
    unfold Terms.extend
    have auctioned : order.terms.auction = some entry.2.listing := holds.1
    simp only [auctioned]
    have hit : isWinningHold entry.2.listing order.terms.buyer entry.2 = true := by
      have buyer : entry.2.buyerPubky = order.terms.buyer := holds.2.1
      simp [isWinningHold, buyer, holds.2.2.1]
    refine ⟨(entry.1, { entry.2 with expiresAt := deadline }), ?_, holds⟩
    apply Keyed.lookup_mem
    change Keyed.Table.find? _ entry.1 = _
    rw [Keyed.Table.find?_updateWhere, inventory.reservations.find?_of_mem member, Option.map_some,
      if_pos hit]

def WindowsHeld (sys : Sys) : Prop :=
  ∀ id cell, sys.cells.find? id = some cell → cell.inWindow →
    ReservationHeld sys.inventory cell.book.order

theorem ReservationHeld.beside {references : References} {sys after : Sys} {action : Action}
    {id : OrderId} {cell : Cell}
    (sound : ∀ id cell, sys.cells.find? id = some cell → Sound cell) (auctions : AuctionsOnce sys)
    (stepped : sys.step references action = some after) (found : sys.cells.find? id = some cell)
    (inside : cell.inWindow) (foreign : ∀ now step, action ≠ .order id now step)
    (held : ReservationHeld sys.inventory cell.book.order) :
    ReservationHeld after.inventory cell.book.order := by
  rcases held with single | ⟨⟨key, row⟩, member, auctioned, buyer, active, unowned⟩
  · exact .inl single
  · have stored := sys.inventory.reservations.find?_of_mem member
    have kept : ¬ action.ends sys key row := by
      intro ends
      unfold Action.ends at ends
      split at ends
      · rename_i other now step
        obtain ⟨rival, present, own⟩ := ends
        have same := auctions.once id cell other rival found present row.listing auctioned own.1
        subst same
        exact foreign now step rfl
      · obtain ⟨rfl, unprotected⟩ := ends
        have bound := (sound id cell found).coherent.window inside
        have adapter := (sound id cell found).coherent.bitcoin.mp bound.1
        have guards : protectsReservation cell.book row = true := by
          have method : cell.book.order.paymentMethod = some .bitcoin := bound.1
          have paykit : cell.book.payment.adapter = .paykit := adapter
          have window : cell.book.order.paykitRequestState =
            some .awaitingSellerConfirmation := inside
          have owner : cell.book.order.buyerPubky = row.buyerPubky := buyer.symm
          simp [protectsReservation, auctioned, owner, method, paykit, window]
        have protects : sys.protectedReservation key = true := by
          unfold Sys.protectedReservation
          rw [stored, Option.any_some, List.any_eq_true]
          exact ⟨(id, cell), Keyed.lookup_mem _ _ _ found, guards⟩
        rw [protects] at unprotected
        cases unprotected
      · exact ends unowned
      · exact ends unowned
      · exact ends
    exact .inr ⟨(key, row), Keyed.lookup_mem _ _ _ ((step_leaves sound stepped).holds key row
      stored kept), auctioned, buyer, active, unowned⟩

theorem WindowsHeld.step {references : References} {sys after : Sys} {action : Action}
    (held : WindowsHeld sys) (sound : ∀ id cell, sys.cells.find? id = some cell → Sound cell)
    (auctions : AuctionsOnce sys) (guarded : windowGuarded sys action)
    (stepped : sys.step references action = some after) : WindowsHeld after := by
  intro id done present inside
  cases step_cells stepped present with
  | fresh fresh created =>
      rw [created] at inside
      exact absurd inside fresh.outside
  | @stepped now step cell named found ran =>
      subst named
      have step := stepCell_steps (sound id cell found) ran
      have guard := eachOrder_order guarded found
      have terms := (step.steady (sound id cell found)).terms
      by_cases was : cell.inWindow
      · rcases step.waits (sound id cell found) guard was with ⟨same, -⟩ | ⟨left, -⟩
        · rw [same]
          exact (held id cell found was).of_order terms
        · exact absurd inside left
      · obtain ⟨-, present, extended⟩ := step.opens guard was inside
        rw [extended]
        exact (present.extended _).of_order terms
  | same found =>
      by_cases own : ∃ now step, action = .order id now step
      · obtain ⟨now, step, rfl⟩ := own
        obtain ⟨kept, stored, ran⟩ := order_step found stepped
        obtain rfl : kept = done := Option.some.inj (stored.symm.trans present)
        have step := stepCell_steps (sound id kept found) ran
        rcases step.waits (sound id kept found) (eachOrder_order guarded found) inside with
          ⟨same, -⟩ | ⟨left, -⟩
        · rw [same]
          exact held id kept found inside
        · exact absurd inside left
      · exact (held id done found inside).beside sound auctions stepped found inside
          fun now step named => own ⟨now, step, named⟩

theorem reachable_windowsHeld {references : References} {sys : Sys}
    (reached : Runs.Reachable (marketplace references) windowGuarded sys) : WindowsHeld sys := by
  refine Runs.invariant_under (marketplace references) windowGuarded
    (fun sys => (∀ id cell, sys.cells.find? id = some cell → Sound cell) ∧ AuctionsOnce sys)
    WindowsHeld (fun _ reached =>
      ⟨fun _ _ found => reachable_sound reached found, reachable_auctionsOnce reached⟩)
    ?_ ?_ reached
  · intro sys init id cell found
    rw [show sys = emptySys from init] at found
    cases found
  · intro before action after known held guarded stepped
    exact held.step known.1 known.2 guarded stepped

/-- In a run of guarded steps, the orders in their windows hold their stock,
and each step opens, keeps and closes windows by the law. -/
theorem seller_window_law (references : References) (sys : Sys)
    (reached : Runs.Reachable (marketplace references) windowGuarded sys) :
    (∀ id cell, sys.cells.find? id = some cell → cell.inWindow →
      StockHeld sys.inventory cell.book.order) ∧
    ∀ action after, windowGuarded sys action → sys.step references action = some after →
      WindowLaw sys action after := by
  have sound (id : OrderId) (cell : Cell) (found : sys.cells.find? id = some cell) : Sound cell :=
    reachable_sound reached found
  refine ⟨?_, ?_⟩
  · intro id cell found inside
    have coherent := (sound id cell found).coherent
    obtain ⟨bound, awaiting⟩ := coherent.window inside
    exact ⟨(coherent.open_payment bound awaiting).2.1,
      reachable_windowsHeld reached id cell found inside⟩
  · intro action after guarded stepped
    constructor
    · intro id done present inside
      cases step_cells stepped present with
      | same found => exact .inl ⟨done, found, inside⟩
      | fresh fresh created =>
          rw [created] at inside
          exact absurd inside fresh.outside
      | @stepped now step cell named found ran =>
          by_cases was : cell.inWindow
          · exact .inl ⟨cell, found, was⟩
          · rw [named] at guarded
            obtain ⟨entry, -⟩ := (stepCell_steps (sound id cell found) ran).opens
              (eachOrder_order guarded found) was inside
            obtain ⟨row, outcome, rfl, matched⟩ := entersWindow_report entry
            exact .inr ⟨now, row, outcome, named, matched⟩
    · intro id cell found inside
      obtain ⟨done, present, rfl | ⟨now, step, named, ran⟩⟩ := step_keeps stepped found
      · exact ⟨done, present, .inl
          ⟨inside, (sound id done found).unpaid_inside inside, rfl, rfl, rfl⟩⟩
      · refine ⟨done, present, ?_⟩
        rw [named] at guarded
        rcases (stepCell_steps (sound id cell found) ran).waits (sound id cell found)
          (eachOrder_order guarded found) inside with ⟨-, waits⟩ | ⟨-, closes⟩
        · exact .inl waits
        · exact .inr ⟨now, step, named, closes⟩

/-- The winner of the lamp waits for the seller, past the end of the auction's
hold. -/
theorem won_lamp_waits :
    ∃ sys, Runs.Reachable (marketplace sampleReferences) windowGuarded sys ∧
      ∃ cell ∈ sys.cells.find? 7, cell.inWindow ∧
        cell.book.order.auctionAggregateId = some "lamp" ∧
        StockHeld sys.inventory cell.book.order ∧
        ∃ after, sys.step sampleReferences (.order 7 90000 .routeSellerWindow) = some after ∧
          WindowLaw sys (.order 7 90000 .routeSellerWindow) after := by
  obtain ⟨sys, reached, guarded, cell, found, inside, auctioned, runs⟩ :=
    @Runs.exists_reachable_of_run _ _ (marketplace sampleReferences) windowGuarded _ rfl
      (wonLamp ++
        [ .order 7 20 (.applyPoll (pendingClaim 1) (sharedReport "first"))
        , .tick 2000 ])
      (fun sys => windowGuarded sys (.order 7 90000 .routeSellerWindow) ∧
        ∃ cell ∈ sys.cells.find? 7, cell.inWindow ∧
          cell.book.order.auctionAggregateId = some "lamp" ∧
          (sys.step sampleReferences (.order 7 90000 .routeSellerWindow)).isSome = true)
      (by decide +kernel) (by decide +kernel)
  obtain ⟨after, stepped⟩ := Option.isSome_iff_exists.mp runs
  obtain ⟨held, law⟩ := seller_window_law sampleReferences sys reached
  exact ⟨sys, reached, cell, found, inside, auctioned, held 7 cell found inside, after, stepped,
    law _ after guarded stepped⟩

/-- A confirmed report of the wrong amount opens the window. -/
theorem mismatched_report_opens_window :
    ∃ sys, Runs.Reachable (marketplace sampleReferences) Runs.anyStep sys ∧
      ∃ facts after, sys.step sampleReferences
          (.order 7 20 (.applyPoll (pendingClaim 1) (.confirmed false facts))) = some after ∧
        ¬ WindowLaw sys (.order 7 20 (.applyPoll (pendingClaim 1) (.confirmed false facts)))
          after := by
  obtain ⟨sys, reached, cell, found, outside, after, stepped, done, present, inside⟩ :=
    Runs.exists_reachable_of_run (marketplace sampleReferences) rfl polledLamp
      (fun sys => ∃ cell ∈ sys.cells.find? 7, ¬ cell.inWindow ∧
        ∃ after ∈ sys.step sampleReferences
            (.order 7 20 (.applyPoll (pendingClaim 1) (.confirmed false
              { allocationMode := .sharedManual
                lateSettlement := false
                observation := { observedSats := some 1, confirmations := some 3 } }))),
          ∃ done ∈ after.cells.find? 7, done.inWindow)
      (Runs.meets_anyStep _ _ _) (by decide +kernel)
  refine ⟨sys, reached, _, after, stepped, ?_⟩
  intro law
  rcases law.entry 7 done present inside with
    ⟨old, stored, was⟩ | ⟨now, row, outcome, named, matched⟩
  · obtain rfl : old = cell := Option.mem_unique stored found
    exact outside was
  · cases named
    cases matched

end MarketplaceService
