import MarketplaceService.ServiceFrame

/-!
One order per auction. Closing an auction ends it for good: no registration,
sync or deletion makes it active again. So the order of a closed auction is the
only one that touches its buyer's reservation on the listing.
-/

namespace MarketplaceService

theorem new_order_auction {references : References} {sys after : Sys} {action : Action}
    {id : OrderId} {cell : Cell} {auction : ListingId}
    (stepped : sys.step references action = some after) (absent : sys.cells.find? id = none)
    (found : after.cells.find? id = some cell)
    (auctioned : cell.book.order.auctionAggregateId = some auction) :
    ¬ AuctionClosed sys.inventory auction ∧ AuctionClosed after.inventory auction ∧
      ∃ winner priceMinor reservation,
        action = .closeAuction auction winner priceMinor reservation id := by
  have created {inventory : Inventory} {books : List OrderBook}
      (inserted : sys.insert inventory books = some after) :
      ∃ book ∈ books, book.order.id = id ∧ book.order.auctionAggregateId = some auction := by
    rcases insert_cells inserted found with old | ⟨-, book, member, named, rfl⟩
    · rw [absent] at old
      cases old
    · exact ⟨book, member, named, auctioned⟩
  have kept {impossible : Prop} (same : after.cells.find? id = sys.cells.find? id) :
      impossible := by
    rw [same, absent] at found
    cases found
  have stocked {result : Except Failure Inventory} {impossible : Prop}
      (stocked : sys.setInventory result = some after) : impossible := by
    obtain ⟨inventory, -, rfl⟩ := Option.map_eq_some_iff.mp stocked
    exact kept rfl
  cases action with
  | tick seconds =>
      cases stepped
      exact kept rfl
  | order other now step =>
      obtain ⟨before, present, stepped⟩ := Option.bind_eq_some_iff.mp stepped
      obtain ⟨⟨inventory, done⟩, ran, rfl⟩ := Option.map_eq_some_iff.mp stepped
      rw [Keyed.Table.find?_set] at found
      split at found
      · rename_i same
        subst same
        rw [absent] at present
        cases present
      · rw [absent] at found
        cases found
  | checkout request =>
      obtain ⟨⟨books, inventory⟩, ran, inserted⟩ := Option.bind_eq_some_iff.mp stepped
      obtain ⟨book, member, -, points⟩ := created inserted
      rw [(@checkoutCreate_leaves (fun _ _ => False) _ _ _ _ _
        (Outcome.toOption_some ran)).2 book member] at points
      cases points
  | offerCheckout award order fulfillment holdWindowSeconds =>
      obtain ⟨⟨book, inventory⟩, ran, inserted⟩ := Option.bind_eq_some_iff.mp stepped
      obtain ⟨only, member, -, points⟩ := created inserted
      rw [List.mem_singleton.mp member,
        (offerCheckout_leaves (Outcome.toOption_some ran)).2] at points
      cases points
  | closeAuction listing winner priceMinor reservation order =>
      obtain ⟨⟨book, inventory⟩, ran, inserted⟩ := Option.bind_eq_some_iff.mp stepped
      obtain ⟨only, member, named, points⟩ := created inserted
      obtain ⟨-, active, closed, points_at, numbered⟩ :=
        @closeAuction_leaves (fun _ _ => False) _ _ _ _ _ _ _ _ _ (Outcome.toOption_some ran)
      rw [List.mem_singleton.mp member] at named points
      obtain rfl : listing = auction := Option.some.inj (points_at.symm.trans points)
      rw [insert_inventory inserted]
      exact ⟨active, closed, winner, priceMinor, reservation, by rw [← named, numbered]⟩
  | placeBid listing => exact stocked stepped
  | closeUnsold listing => exact stocked stepped
  | registerListing listing record sender recordFound => exact stocked stepped
  | syncListing listing record => exact stocked stepped
  | tombstone listing =>
      obtain ⟨inventory, -, rfl⟩ := Option.map_eq_some_iff.mp stepped
      exact kept rfl
  | adjustInventory listing sender delta => exact stocked stepped
  | setDigitalVersion listing kind =>
      obtain ⟨inventory, -, rfl⟩ := Option.map_eq_some_iff.mp stepped
      exact kept rfl
  | reserveInventory reservation listing sender quantity ttlSeconds => exact stocked stepped
  | expireReservation reservation =>
      obtain ⟨-, stepped⟩ := Option.ite_none_left_eq_some.mp stepped
      exact stocked stepped
  | acceptOffer award readAt =>
      obtain ⟨-, stepped⟩ := Option.ite_none_left_eq_some.mp stepped
      exact stocked stepped
  | expireAward award => exact stocked stepped
  | syncDrop drop record readAt =>
      obtain ⟨-, stepped⟩ := Option.ite_none_left_eq_some.mp stepped
      exact stocked stepped
  | cancelDrop drop sender => exact stocked stepped
  | releaseDropListings drop sender => exact stocked stepped
  | transitionDrop drop =>
      cases stepped
      exact kept rfl

/-! One order per auction. -/

structure AuctionsOnce (sys : Sys) : Prop where
  closed : ∀ id cell, sys.cells.find? id = some cell →
    ∀ auction ∈ cell.book.order.auctionAggregateId, AuctionClosed sys.inventory auction
  once : ∀ id cell other stored, sys.cells.find? id = some cell →
    sys.cells.find? other = some stored → ∀ auction ∈ cell.book.order.auctionAggregateId,
      auction ∈ stored.book.order.auctionAggregateId → other = id

theorem stepCell_terms {references : References} {inventory after : Inventory} {cell done : Cell}
    {now : Time} {action : OrderAction} (sound : Sound cell)
    (stepped : stepCell references inventory cell now action = some (after, done)) :
    done.book.order.terms = cell.book.order.terms :=
  ((stepCell_steps sound stepped).steady sound).terms

theorem step_terms {references : References} {sys after : Sys} {action : Action} {id : OrderId}
    {cell done : Cell} (sound : ∀ id cell, sys.cells.find? id = some cell → Sound cell)
    (stepped : sys.step references action = some after) (found : sys.cells.find? id = some cell)
    (present : after.cells.find? id = some done) :
    done.book.order.terms = cell.book.order.terms := by
  obtain ⟨kept, stored, rest⟩ := step_keeps stepped found
  obtain rfl : kept = done := Option.some.inj (stored.symm.trans present)
  rcases rest with rfl | ⟨now, step, -, ran⟩
  · rfl
  · exact stepCell_terms (sound id cell found) ran

theorem AuctionsOnce.step {references : References} {sys after : Sys} {action : Action}
    (auctions : AuctionsOnce sys) (sound : ∀ id cell, sys.cells.find? id = some cell → Sound cell)
    (stepped : sys.step references action = some after) : AuctionsOnce after := by
  have leaves := step_leaves sound stepped
  have same {id : OrderId} {cell done : Cell} (found : sys.cells.find? id = some cell)
      (present : after.cells.find? id = some done) :
      done.book.order.auctionAggregateId = cell.book.order.auctionAggregateId :=
    congrArg Terms.auction (step_terms sound stepped found present)
  constructor
  · intro id done present auction auctioned
    cases found : sys.cells.find? id with
    | none => exact (new_order_auction stepped found present auctioned).2.1
    | some cell =>
        rw [same found present] at auctioned
        exact leaves.closed auction (auctions.closed id cell found auction auctioned)
  · intro id done other rival present stored auction auctioned points
    -- an old order's auction is closed, so no new order points at it
    cases found : sys.cells.find? id with
    | none =>
        obtain ⟨active, -, winner, priceMinor, reservation, named⟩ :=
          new_order_auction stepped found present auctioned
        cases known : sys.cells.find? other with
        | none =>
            obtain ⟨-, -, _, _, _, again⟩ := new_order_auction stepped known stored points
            rw [named] at again
            cases again
            rfl
        | some cell =>
            rw [same known stored] at points
            exact absurd (auctions.closed other cell known auction points) active
    | some cell =>
        rw [same found present] at auctioned
        have shut := auctions.closed id cell found auction auctioned
        cases known : sys.cells.find? other with
        | none => exact absurd shut (new_order_auction stepped known stored points).1
        | some old =>
            rw [same known stored] at points
            exact auctions.once id cell other old found known auction auctioned points

theorem reachable_auctionsOnce {references : References} {allowed : Sys → Action → Prop} {sys : Sys}
    (reached : Runs.Reachable (marketplace references) allowed sys) : AuctionsOnce sys := by
  refine Runs.invariant_under (marketplace references) allowed
    (fun sys => ∀ id cell, sys.cells.find? id = some cell → Sound cell) AuctionsOnce
    (fun _ reached _ _ found => reachable_sound reached found) ?_ ?_ reached
  · intro sys init
    rw [show sys = emptySys from init]
    constructor
    · intro id cell found
      cases found
    · intro id cell other stored found
      cases found
  · intro before action after sound auctions _ stepped
    exact auctions.step sound stepped

end MarketplaceService
