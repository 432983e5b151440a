import MarketplaceService.AuctionClosing
import MarketplaceService.ListingRevisions
import MarketplaceService.OfferAwards
import MarketplaceService.OrderRevisions

/-!
What the runs of the service keep, whatever commands, workers and answers they
interleave. An order changes by its own transactions only, each of them a move of
its standing, and the rows of the service stay with what they have committed to.
-/

namespace MarketplaceService

def Action.transactionOf (id : OrderId) : Action → Option (Time × OrderAction)
  | .order other now step => if other = id then some (now, step) else none
  | _ => none

theorem transactionOf_foreign {action : Action} (foreign : action.onOrder = none) (id : OrderId) :
    action.transactionOf id = none := by
  cases action <;> first | rfl | cases foreign

/-- A transaction of an order, on the stock it found. -/
structure OwnTurn where
  inventory : Inventory
  now : Time
  action : OrderAction

/-- The transactions of an order in a run, each on the stock of the service at its commit. -/
def ownTurns (references : References) (id : OrderId) : Sys → List Action → List OwnTurn
  | _, [] => []
  | sys, action :: rest =>
      ((action.transactionOf id).map fun own => OwnTurn.mk sys.inventory own.1 own.2).toList ++
        match sys.step references action with
        | some after => ownTurns references id after rest
        | none => []

/-- An order and what its transactions make of it: `stepCell` of one after the other, each of
them a move of the order's standing. -/
inductive Walks (references : References) (start : Cell) : List OwnTurn → Cell → Prop
  | rest : Walks references start [] start
  | next {earlier : List OwnTurn} {cell done : Cell} {turn : OwnTurn} {after : Inventory}
      (walked : Walks references start earlier cell)
      (ran : stepCell references turn.inventory cell turn.now turn.action = some (after, done))
      (moved : CellStep references turn.now turn.inventory cell turn.action after done) :
      Walks references start (earlier ++ [turn]) done

theorem Walks.steady {references : References} {start done : Cell} {turns : List OwnTurn}
    (walks : Walks references start turns done) (sound : Sound start) :
    Sound done ∧ Steady start.book.standing done.book.standing := by
  induction walks with
  | rest => exact ⟨sound, .refl _⟩
  | next _ _ moved ih => exact ⟨moved.sound ih.1, ih.2.trans (moved.steady ih.1)⟩

section Steps

variable {references : References} {sys after : Sys} {action : Action} {id : OrderId} {cell : Cell}

theorem step_turn (stepped : sys.step references action = some after)
    (found : sys.cells.find? id = some cell) :
    ∃ done, after.cells.find? id = some done ∧
      (action.transactionOf id = none ∧ done = cell ∨
        ∃ now step, action.transactionOf id = some (now, step) ∧
          stepCell references sys.inventory cell now step = some (after.inventory, done)) := by
  cases step_inv stepped with
  | @order other now step before done named present ran cells =>
      subst named
      by_cases same : other = id
      · subst same
        obtain rfl := Option.some.inj (found.symm.trans present)
        exact ⟨done, by rw [cells, Keyed.Table.find?_set_self],
          .inr ⟨now, step, if_pos rfl, ran⟩⟩
      · exact ⟨cell, by rw [cells, Keyed.Table.find?_set_ne _ _ (Ne.symm same), found],
          .inl ⟨if_neg same, rfl⟩⟩
  | created foreign fresh inserted =>
      exact ⟨cell, insert_keeps inserted found, .inl ⟨transactionOf_foreign foreign id, rfl⟩⟩
  | beside foreign cells =>
      exact ⟨cell, by rw [cells, found], .inl ⟨transactionOf_foreign foreign id, rfl⟩⟩

theorem step_silent (stepped : sys.step references action = some after)
    (absent : sys.cells.find? id = none) : action.transactionOf id = none := by
  cases step_inv stepped with
  | @order other now step before done named present ran cells =>
      subst named
      refine if_neg ?_
      rintro rfl
      rw [absent] at present
      cases present
  | created foreign => exact transactionOf_foreign foreign id
  | beside foreign => exact transactionOf_foreign foreign id

theorem ownTurns_concat {labels : List Action} :
    ∀ {start : Sys}, Runs.run (marketplace references) start labels = some sys →
      ownTurns references id start (labels ++ [action]) = ownTurns references id start labels ++
        ((action.transactionOf id).map fun own => OwnTurn.mk sys.inventory own.1 own.2).toList := by
  induction labels with
  | nil =>
      intro start ran
      cases ran
      simp only [ownTurns, List.nil_append]
      split <;> simp
  | cons first rest ih =>
      intro start ran
      obtain ⟨middle, stepped, ran⟩ := Option.bind_eq_some_iff.mp ran
      have stepped : start.step references first = some middle := stepped
      simp only [List.cons_append, ownTurns, stepped, ih ran, List.append_assoc]

theorem ownTurns_labels {labels : List Action} :
    ∀ {start : Sys}, Runs.run (marketplace references) start labels = some sys →
      (ownTurns references id start labels).map (fun turn => (turn.now, turn.action)) =
        labels.filterMap (Action.transactionOf id) := by
  induction labels with
  | nil => exact fun _ => rfl
  | cons first rest ih =>
      intro start ran
      obtain ⟨middle, stepped, ran⟩ := Option.bind_eq_some_iff.mp ran
      have stepped : start.step references first = some middle := stepped
      simp only [ownTurns, stepped, List.map_append, ih ran]
      cases own : first.transactionOf id <;> simp [own]

theorem Walks.step {start : Cell} {labels : List Action} {first : Sys}
    (ran : Runs.run (marketplace references) first labels = some sys)
    (walked : Walks references start (ownTurns references id first labels) cell)
    (sound : ∀ id cell, sys.cells.find? id = some cell → Sound cell)
    (stepped : sys.step references action = some after) (found : sys.cells.find? id = some cell) :
    ∃ done, after.cells.find? id = some done ∧
      Walks references start (ownTurns references id first (labels ++ [action])) done := by
  obtain ⟨done, present, ⟨silent, rfl⟩ | ⟨now, step, own, moved⟩⟩ := step_turn stepped found
  · refine ⟨done, present, ?_⟩
    rwa [ownTurns_concat ran, silent, Option.map_none, Option.toList_none, List.append_nil]
  · refine ⟨done, present, ?_⟩
    rw [ownTurns_concat ran, own]
    exact .next walked moved (stepCell_steps (sound id cell found) moved)

end Steps

section Lives

variable {references : References} {sys after : Sys} {id : OrderId} {cell : Cell}

theorem run_concat_some {labels : List Action} {action : Action}
    (ran : Runs.run (marketplace references) sys (labels ++ [action]) = some after) :
    ∃ middle, Runs.run (marketplace references) sys labels = some middle ∧
      middle.step references action = some after := by
  rw [Runs.run_append] at ran
  obtain ⟨middle, before, ran⟩ := Option.bind_eq_some_iff.mp ran
  obtain ⟨last, stepped, same⟩ := Option.bind_eq_some_iff.mp ran
  cases same
  exact ⟨middle, before, stepped⟩

theorem run_sound {labels : List Action}
    (reached : Runs.Reachable (marketplace references) Runs.anyStep sys)
    (ran : Runs.run (marketplace references) sys labels = some after) :
    ∀ id cell, after.cells.find? id = some cell → Sound cell := fun _ _ found =>
  reachable_sound (Runs.reachable_of_meets reached (Runs.meets_anyStep ..) ran) found

theorem run_walks (reached : Runs.Reachable (marketplace references) Runs.anyStep sys)
    (found : sys.cells.find? id = some cell) (labels : List Action) :
    ∀ {after : Sys}, Runs.run (marketplace references) sys labels = some after →
      ∃ done, after.cells.find? id = some done ∧
        Walks references cell (ownTurns references id sys labels) done := by
  induction labels using List.reverseRecOn with
  | nil =>
      intro after ran
      cases ran
      exact ⟨cell, found, .rest⟩
  | append_singleton earlier action ih =>
      intro after ran
      obtain ⟨middle, before, stepped⟩ := run_concat_some ran
      obtain ⟨done, present, walked⟩ := ih before
      exact walked.step before (run_sound reached before) stepped present

/-- The orders of a run: none before it is made, and then its own transactions. -/
structure Lives (references : References) (labels : List Action) (sys : Sys) : Prop where
  ran : Runs.run (marketplace references) emptySys labels = some sys
  silent : ∀ id, sys.cells.find? id = none → ownTurns references id emptySys labels = []
  walks : ∀ id cell, sys.cells.find? id = some cell → ∃ book, Fresh book ∧
    Walks references (newCell book) (ownTurns references id emptySys labels) cell

theorem Lives.step {labels : List Action} {action : Action} (lives : Lives references labels sys)
    (sound : ∀ id cell, sys.cells.find? id = some cell → Sound cell)
    (stepped : sys.step references action = some after) :
    Lives references (labels ++ [action]) after := by
  have quiet {id : OrderId} (absent : sys.cells.find? id = none) :
      ownTurns references id emptySys (labels ++ [action]) = [] := by
    rw [ownTurns_concat lives.ran, lives.silent id absent, step_silent stepped absent]
    rfl
  constructor
  · exact Runs.run_concat lives.ran stepped
  · intro id absent
    cases found : sys.cells.find? id with
    | none => exact quiet found
    | some cell =>
        obtain ⟨done, present, -⟩ := step_keeps stepped found
        rw [absent] at present
        cases present
  · intro id last present
    cases found : sys.cells.find? id with
    | none =>
        rw [quiet found]
        cases step_cells stepped present with
        | same old => rw [found] at old; cases old
        | @fresh book fresh created => exact ⟨book, fresh, created ▸ .rest⟩
        | stepped _ old => rw [found] at old; cases old
    | some cell =>
        obtain ⟨book, fresh, walked⟩ := lives.walks id cell found
        obtain ⟨done, stored, walks⟩ := walked.step lives.ran sound stepped found
        obtain rfl := Option.some.inj (stored.symm.trans present)
        exact ⟨book, fresh, walks⟩

theorem run_lives (labels : List Action) :
    ∀ {sys : Sys}, Runs.run (marketplace references) emptySys labels = some sys →
      Lives references labels sys := by
  induction labels using List.reverseRecOn with
  | nil =>
      intro sys ran
      cases ran
      refine ⟨rfl, fun _ _ => rfl, ?_⟩
      intro id cell found
      cases found
  | append_singleton earlier action ih =>
      intro sys ran
      obtain ⟨middle, before, stepped⟩ := run_concat_some ran
      exact (ih before).step (run_sound (.start rfl) before) stepped

/-- An order of a run is what its own transactions made of a fresh order: each on the stock it
found, in their order, and nothing else of the run. -/
theorem order_walks {labels : List Action}
    (ran : Runs.run (marketplace references) emptySys labels = some sys)
    (found : sys.cells.find? id = some cell) :
    ∃ book, Fresh book ∧
      Walks references (newCell book) (ownTurns references id emptySys labels) cell :=
  (run_lives labels ran).walks id cell found

theorem expired_lamp_walks :
    ∃ sys ∈ Runs.run (marketplace sampleReferences) emptySys expiredLamp,
      ∃ cell ∈ sys.cells.find? 7, cell.book.order.state = .cancelled ∧ ∃ book, Fresh book ∧
        Walks sampleReferences (newCell book) (ownTurns sampleReferences 7 emptySys expiredLamp)
          cell := by
  obtain ⟨sys, ran, cell, found, ended⟩ : ∃ sys ∈ Runs.run (marketplace sampleReferences) emptySys
      expiredLamp, ∃ cell ∈ sys.cells.find? 7, cell.book.order.state = .cancelled := by
    decide +kernel
  exact ⟨sys, ran, cell, found, ended, order_walks ran found⟩

/-! The rail of an order. -/

/-- The order waits for the rail, or was paid over it. -/
def Standing.boundTo (standing : Standing) : Rail → Prop
  | .fiat => standing.method = some .stripe ∨ standing.method = some .paypal
  | .locks => standing.locks = true
  | .poll => standing.method = some .bitcoin ∧ standing.activation = some .active

theorem Steady.boundTo {before done : Standing} (steady : Steady before done) {rail : Rail}
    (bound : before.boundTo rail) : done.boundTo rail := by
  cases rail with
  | fiat =>
      change done.method = some .stripe ∨ done.method = some .paypal
      rw [steady.fiat bound]
      exact bound
  | locks => exact steady.locks bound
  | poll => exact steady.polled bound.1 bound.2

def Adapter.rail : Adapter → Option Rail
  | .stripe | .paypal => some .fiat
  | .locks => some .locks
  | .paykit => some .poll
  | .sandbox => none

theorem Coherent.rail {standing : Standing} (coherent : Coherent standing) {rail : Rail}
    (bound : standing.boundTo rail) : standing.adapter.rail = some rail := by
  cases rail with
  | fiat =>
      rcases bound with stripe | paypal
      · rw [coherent.stripe.mp stripe]
        rfl
      · rw [coherent.paypal.mp paypal]
        rfl
  | locks =>
      rw [coherent.locks.mp bound]
      rfl
  | poll =>
      rw [coherent.bitcoin.mp bound.1]
      rfl

theorem Walks.rails {start done : Cell} {turns : List OwnTurn} {rail : Rail}
    (walks : Walks references start turns done) (sound : Sound start)
    (bound : start.book.standing.boundTo rail) :
    ∀ turn ∈ turns, ∀ other ∈ turn.action.rail, other = rail := by
  induction walks with
  | rest => exact fun _ member => absurd member List.not_mem_nil
  | @next earlier cell done turn after walked ran moved ih =>
      intro other_turn member other applied
      rcases List.mem_append.mp member with old | new
      · exact ih other_turn old other applied
      · obtain rfl := List.mem_singleton.mp new
        obtain ⟨known, steady⟩ := walked.steady sound
        have speaks := moved.speaks
        rw [Speaks, Option.mem_def.mp applied] at speaks
        have again : cell.book.standing.boundTo other := by cases other <;> exact speaks
        have same := known.coherent.rail (steady.boundTo bound)
        rw [known.coherent.rail again] at same
        exact Option.some.inj same

/-- Once an order is bound to a rail, no money or settlement answer of another rail is ever
applied to it: the answers that `OrderAction.rail` names. -/
theorem bound_rail_settles {labels : List Action} {rail : Rail}
    (reached : Runs.Reachable (marketplace references) Runs.anyStep sys)
    (ran : Runs.run (marketplace references) sys labels = some after)
    (found : sys.cells.find? id = some cell) (bound : cell.book.standing.boundTo rail) :
    ∀ transaction ∈ labels.filterMap (Action.transactionOf id),
      ∀ other ∈ transaction.2.rail, other = rail := by
  obtain ⟨done, -, walks⟩ := run_walks reached found labels ran
  intro transaction member
  rw [← ownTurns_labels ran] at member
  obtain ⟨turn, own, rfl⟩ := List.mem_map.mp member
  exact walks.rails (reachable_sound reached found) bound turn own

theorem polled_lamp_settles :
    ∃ sys, Runs.Reachable (marketplace sampleReferences) Runs.anyStep sys ∧
      ∃ labels : List Action, (Runs.run (marketplace sampleReferences) sys labels).isSome = true ∧
        labels ≠ [] ∧ ∀ transaction ∈ labels.filterMap (Action.transactionOf 7),
          ∀ other ∈ transaction.2.rail, other = Rail.poll := by
  obtain ⟨sys, reached, cell, found, method, active, after, ran, -⟩ :=
    Runs.exists_reachable_of_run (marketplace sampleReferences) rfl polledLamp
      (fun sys => ∃ cell ∈ sys.cells.find? 7, cell.book.standing.method = some .bitcoin ∧
        cell.book.standing.activation = some .active ∧
          ∃ after ∈ Runs.run (marketplace sampleReferences) sys
            [.order 7 10 (.applyPoll (pendingClaim 1) confirmedReport)], True)
      (Runs.meets_anyStep _ _ _) (by decide +kernel)
  exact ⟨sys, reached, _, by rw [Option.mem_def.mp ran]; rfl, List.cons_ne_nil _ _,
    bound_rail_settles reached ran found ⟨method, active⟩⟩

end Lives

/-! What stays. -/

/-- The rows of a later state of the service. -/
structure Retains (before after : Sys) : Prop where
  clock : before.clock ≤ after.clock
  orders : ∀ id cell, before.cells.find? id = some cell → ∃ done, after.cells.find? id = some done ∧
    Steady cell.book.standing done.book.standing ∧
      cell.book.order.revision ≤ done.book.order.revision
  listings : ∀ id listing, before.inventory.listings.find? id = some listing →
    ∃ done, after.inventory.listings.find? id = some done ∧
      listing.serverRevision ≤ done.serverRevision
  closed : ∀ id, AuctionClosed before.inventory id → AuctionClosed after.inventory id
  claims : ∀ id claim,
    before.inventory.claim id = some claim → after.inventory.claim id = some claim

namespace Retains

variable {references : References} {before middle after : Sys}

theorem refl (sys : Sys) : Retains sys sys :=
  ⟨le_rfl, fun _ cell found => ⟨cell, found, .refl _, le_rfl⟩,
    fun _ listing found => ⟨listing, found, le_rfl⟩, fun _ closed => closed,
    fun _ _ claimed => claimed⟩

theorem trans (first : Retains before middle) (second : Retains middle after) :
    Retains before after where
  clock := first.clock.trans second.clock
  orders id cell found := by
    obtain ⟨done, present, steady, revision⟩ := first.orders id cell found
    obtain ⟨last, ends, later, more⟩ := second.orders id done present
    exact ⟨last, ends, steady.trans later, revision.trans more⟩
  listings id listing found := by
    obtain ⟨done, present, revision⟩ := first.listings id listing found
    obtain ⟨last, ends, more⟩ := second.listings id done present
    exact ⟨last, ends, revision.trans more⟩
  closed id shut := second.closed id (first.closed id shut)
  claims id claim claimed := second.claims id claim (first.claims id claim claimed)

theorem step {action : Action}
    (sound : ∀ id cell, before.cells.find? id = some cell → Sound cell)
    (stepped : before.step references action = some after) : Retains before after where
  clock := step_clock stepped
  orders id cell found := by
    obtain ⟨done, present, revision⟩ := (step_orders stepped).stays id cell found
    obtain ⟨same, stored, kept⟩ := step_keeps stepped found
    obtain rfl := Option.some.inj (present.symm.trans stored)
    refine ⟨done, present, ?_, revision⟩
    rcases kept with rfl | ⟨now, step, -, ran⟩
    · exact .refl _
    · exact (stepCell_steps (sound id cell found) ran).steady (sound id cell found)
  listings := (step_listings sound stepped).stays
  closed := (step_leaves sound stepped).closed
  claims id claim claimed := by
    obtain ⟨row, found, rfl⟩ := Option.map_eq_some_iff.mp claimed
    obtain ⟨done, present, turn⟩ := step_hold sound stepped found
    rw [Inventory.claim, present, Option.map_some]
    cases turn with
    | auctioned _ _ same => rw [same]
    | _ => rfl

end Retains

section Runs

variable {references : References} {sys after : Sys} {labels : List Action}

theorem Retains.run (reached : Runs.Reachable (marketplace references) Runs.anyStep sys)
    (ran : Runs.run (marketplace references) sys labels = some after) : Retains sys after := by
  refine @Runs.kept_by_run _ _ (marketplace references) Runs.anyStep (Retains sys) ?_ labels sys
    after reached (.refl sys) (Runs.meets_anyStep ..) ran
  intro before action next prior retains _ stepped
  exact retains.trans (.step (fun _ _ found => reachable_sound prior found) stepped)

/-- A run takes away no order, listing or reservation and nothing they have committed to. -/
theorem run_retains (reached : Runs.Reachable (marketplace references) Runs.anyStep sys)
    (ran : Runs.run (marketplace references) sys labels = some after) : Retains sys after :=
  .run reached ran

theorem held_lamp_retains :
    ∃ sys, Runs.Reachable (marketplace sampleReferences) Runs.anyStep sys ∧
      ∃ after ∈ Runs.run (marketplace sampleReferences) sys [.order 7 600 .expireWindow],
        Retains sys after := by
  obtain ⟨sys, reached, after, ran, -⟩ :=
    Runs.exists_reachable_of_run (marketplace sampleReferences) rfl
      (lampOrder ++ sampleBind 1 .stripe none none)
      (fun sys => ∃ after ∈ Runs.run (marketplace sampleReferences) sys
        [.order 7 600 .expireWindow], True)
      (Runs.meets_anyStep _ _ _) (by decide +kernel)
  exact ⟨sys, reached, after, ran, run_retains reached ran⟩

/-- An auction that has an order stays closed, and no run makes another order of it. -/
theorem auction_sells_once {id : OrderId} {cell : Cell} {auction : ListingId}
    (reached : Runs.Reachable (marketplace references) Runs.anyStep sys)
    (ran : Runs.run (marketplace references) sys labels = some after)
    (found : sys.cells.find? id = some cell)
    (sold : cell.book.order.auctionAggregateId = some auction) :
    AuctionClosed after.inventory auction ∧
      ∀ other stored, after.cells.find? other = some stored →
        stored.book.order.auctionAggregateId = some auction → other = id := by
  have once := reachable_auctionsOnce (Runs.reachable_of_meets reached (Runs.meets_anyStep ..) ran)
  obtain ⟨done, present, steady, -⟩ := (Retains.run reached ran).orders id cell found
  have same : done.book.order.auctionAggregateId = some auction :=
    (congrArg Terms.auction steady.terms).trans sold
  refine ⟨once.closed id done present auction same, ?_⟩
  intro other stored known points
  exact once.once id done other stored present known auction same points

/-- The winner cancels, which frees the lamp, and its seller publishes it again. -/
def forsakenLamp : List Action :=
  [ .order 7 20 (.cancel ⟨"buyer", 2⟩ "not needed" false)
  , .tick 2000
  , .registerListing "lamp"
      { sampleRecord 1 "USD" 2 with
        listingRevision := 2, saleFormat := .auction, auctionStarted := true } ⟨"seller", 3⟩ true ]

theorem won_lamp_sells_once :
    ∃ sys, Runs.Reachable (marketplace sampleReferences) Runs.anyStep sys ∧
      ∃ after ∈ Runs.run (marketplace sampleReferences) sys forsakenLamp,
        (after.cells.find? 7).map (·.book.order.state) = some .cancelled ∧
        AuctionClosed after.inventory "lamp" ∧
        ∀ other stored, after.cells.find? other = some stored →
          stored.book.order.auctionAggregateId = some "lamp" → other = 7 := by
  obtain ⟨sys, reached, cell, found, sold, after, ran, cancelled⟩ :=
    Runs.exists_reachable_of_run (marketplace sampleReferences) rfl wonLamp
      (fun sys => ∃ cell ∈ sys.cells.find? 7,
        cell.book.order.auctionAggregateId = some "lamp" ∧
          ∃ after ∈ Runs.run (marketplace sampleReferences) sys forsakenLamp,
            (after.cells.find? 7).map (·.book.order.state) = some .cancelled)
      (Runs.meets_anyStep _ _ _) (by decide +kernel)
  exact ⟨sys, reached, after, ran, cancelled, auction_sells_once reached ran found sold⟩

end Runs

/-- The service of an auction house makes the steps of a marketplace, and every auction has the
file that fits its listing: the same status and assets, the listing's reserve, and its bids
numbered from one. -/
theorem auction_house_catalogued {references : References} {allowed : House → HouseAction → Prop}
    {house : House} (reached : Runs.Reachable (auctionHouse references) allowed house) :
    Runs.Reachable (marketplace references) Runs.anyStep house.sys ∧ Catalogued house :=
  ⟨house_reachable reached, reachable_catalogued reached⟩

theorem ended_lamp_catalogued :
    ∃ house, Runs.Reachable (auctionHouse sampleReferences) Runs.anyStep house ∧
      (house.lotOf "lamp").isSome = true ∧ Catalogued house := by
  obtain ⟨house, reached, listed⟩ :=
    Runs.exists_reachable_of_run (auctionHouse sampleReferences) rfl endedLamp
      (fun house => (house.lotOf "lamp").isSome = true) (Runs.meets_anyStep _ _ _)
      (by decide +kernel)
  exact ⟨house, reached, listed, (auction_house_catalogued reached).2⟩

end MarketplaceService
