import MarketplaceService.CatalogSteps
import MarketplaceService.InFlight

/-!
From one order to the whole service. An order enters the service as a fresh
book and then changes only by steps of its own cell, so what a fresh cell has
and each step of a sound cell keeps holds of every cell of every run.
-/

namespace MarketplaceService

/-- The standing an INSERT leaves. -/
def Terms.start (terms : Terms) (held : Bool) : Standing :=
  { terms := terms
    state := .pendingPayment
    held := held
    method := none
    reference := none
    request := none
    activation := none
    pins := none
    adapter := .sandbox
    payment := .awaitingEntitlement
    resolved := false
    charge := terms.charge
    receipt := none
    refund := none
    sighting := { observation := none, observed := none, window := none }
    ruling := { confirmation := none, resolution := none, outbox := none }
    locks := false
    watched := ∅
    due := ∅ }

/-- A book before any step of its order. -/
structure Fresh (book : OrderBook) : Prop where
  standing : ∃ held, book.standing = book.order.terms.start held
  held : book.order.stockHeld = true → book.order.auctionAggregateId = none
  stamped : book.order.dropAggregateId.isSome = true → book.order.auctionAggregateId = none

theorem Fresh.of_new {order : Order} {locksAuthority held : Bool}
    (start : { (newBook order locksAuthority).standing with watched := ∅, due := ∅ } =
      order.terms.start held)
    (single : order.stockHeld = true → order.auctionAggregateId = none)
    (stamped : order.dropAggregateId.isSome = true → order.auctionAggregateId = none) :
    Fresh (newBook order locksAuthority) := by
  have tidy : (newBook order locksAuthority).standing =
      { (newBook order locksAuthority).standing with watched := ∅, due := ∅ } := by
    simp [OrderBook.standing, newBook, activateDue]
  exact ⟨⟨held, tidy.trans start⟩, single, stamped⟩

theorem checkoutCreate_fresh {inventory after : Inventory} {request : CheckoutRequest} {now : Time}
    {books : List OrderBook} (created : checkoutCreate inventory request now = .ok (books, after)) :
    ∀ book ∈ books, Fresh book := by
  obtain ⟨dropId, gated, resolved, asset, -, -, -, -, rfl, -⟩ := checkoutCreate_ok created
  intro book member
  obtain ⟨pair, -, rfl⟩ := List.mem_map.mp member
  exact .of_new rfl (fun _ => rfl) fun _ => rfl

theorem offerCheckout_fresh {inventory after : Inventory} {award : Award} {id : OrderId}
    {fulfillment : Fulfillment} {holdWindowSeconds now : ℕ} {book : OrderBook}
    (created : offerCheckout inventory award id fulfillment holdWindowSeconds now =
      .ok (book, after)) : Fresh book := by
  cases offerCheckout_ok created with
  | intro => exact .of_new rfl (fun _ => rfl) fun _ => rfl

theorem closeAuction_fresh {inventory after : Inventory} {listing : ListingId} {winner : Pubky}
    {priceMinor : ℕ} {reservation : ReservationId} {id : OrderId} {now : Time} {book : OrderBook}
    (created : closeAuction inventory listing winner priceMinor reservation id now =
      .ok (book, after)) : Fresh book := by
  cases closeAuction_ok created with
  | intro => exact .of_new rfl (fun held => by cases held) fun stamped => by cases stamped

/-! Steps of the service, seen from one order. -/

theorem insert_inventory {inventory : Inventory} {books : List OrderBook} :
    ∀ {sys after : Sys}, sys.insert inventory books = some after → after.inventory = inventory := by
  induction books with
  | nil =>
      intro sys after inserted
      cases inserted
      rfl
  | cons book rest ih =>
      intro sys after inserted
      unfold Sys.insert at inserted
      obtain ⟨-, inserted⟩ := Option.ite_none_left_eq_some.mp inserted
      exact ih inserted

theorem insert_cells {inventory : Inventory} {books : List OrderBook} :
    ∀ {sys after : Sys}, sys.insert inventory books = some after →
      ∀ {id : OrderId} {cell : Cell}, after.cells.find? id = some cell →
        sys.cells.find? id = some cell ∨
          sys.cells.find? id = none ∧ ∃ book ∈ books, book.order.id = id ∧ cell = newCell book := by
  induction books with
  | nil =>
      intro sys after inserted id cell found
      cases inserted
      exact .inl found
  | cons book rest ih =>
      intro sys after inserted id cell found
      unfold Sys.insert at inserted
      obtain ⟨fresh, inserted⟩ := Option.ite_none_left_eq_some.mp inserted
      rcases ih inserted found with old | ⟨absent, other, member, named, rfl⟩
      · rw [Keyed.Table.find?_set] at old
        split at old
        · rename_i same
          cases old
          exact .inr ⟨by simpa [same] using fresh, book, List.mem_cons_self, same.symm, rfl⟩
        · exact .inl old
      · rw [Keyed.Table.find?_set] at absent
        split at absent
        · cases absent
        · exact .inr ⟨absent, other, List.mem_cons_of_mem book member, named, rfl⟩

theorem insert_keeps {inventory : Inventory} {books : List OrderBook} :
    ∀ {sys after : Sys}, sys.insert inventory books = some after →
      ∀ {id : OrderId} {cell : Cell}, sys.cells.find? id = some cell →
        after.cells.find? id = some cell := by
  induction books with
  | nil =>
      intro sys after inserted id cell found
      cases inserted
      exact found
  | cons book rest ih =>
      intro sys after inserted id cell found
      unfold Sys.insert at inserted
      obtain ⟨fresh, inserted⟩ := Option.ite_none_left_eq_some.mp inserted
      apply ih inserted
      rw [Keyed.Table.find?_set]
      split
      · rename_i same
        rw [← same, found] at fresh
        exact absurd rfl fresh
      · exact found

def Action.onOrder : Action → Option (OrderId × Time × OrderAction)
  | .order id now action => some (id, now, action)
  | _ => none

inductive ServiceStep (references : References) (sys : Sys) (action : Action) (after : Sys) : Prop
  | order {id : OrderId} {now : Time} {step : OrderAction} {cell done : Cell}
      (named : action = .order id now step) (found : sys.cells.find? id = some cell)
      (ran : stepCell references sys.inventory cell now step = some (after.inventory, done))
      (cells : after.cells = sys.cells.set id done)
  | created {books : List OrderBook} {inventory : Inventory} (foreign : action.onOrder = none)
      (fresh : ∀ book ∈ books, Fresh book) (inserted : sys.insert inventory books = some after)
  | beside (foreign : action.onOrder = none) (cells : after.cells = sys.cells)

theorem step_inv {references : References} {sys after : Sys} {action : Action}
    (stepped : sys.step references action = some after) :
    ServiceStep references sys action after := by
  have beside {result : Except Failure Inventory} (foreign : action.onOrder = none)
      (stocked : sys.setInventory result = some after) :
      ServiceStep references sys action after := by
    obtain ⟨inventory, -, rfl⟩ := Option.map_eq_some_iff.mp stocked
    exact .beside foreign rfl
  have single {book : OrderBook} {inventory : Inventory} (foreign : action.onOrder = none)
      (fresh : Fresh book) (inserted : sys.insert inventory [book] = some after) :
      ServiceStep references sys action after := by
    refine .created foreign ?_ inserted
    intro only member
    rw [List.mem_singleton.mp member]
    exact fresh
  cases action with
  | tick seconds =>
      cases stepped
      exact .beside rfl rfl
  | order id now step =>
      obtain ⟨cell, found, stepped⟩ := Option.bind_eq_some_iff.mp stepped
      obtain ⟨⟨inventory, done⟩, ran, rfl⟩ := Option.map_eq_some_iff.mp stepped
      exact .order rfl found ran rfl
  | checkout request =>
      obtain ⟨⟨books, inventory⟩, created, inserted⟩ := Option.bind_eq_some_iff.mp stepped
      exact .created rfl (checkoutCreate_fresh (Outcome.toOption_some created)) inserted
  | offerCheckout award order fulfillment holdWindowSeconds =>
      obtain ⟨⟨book, inventory⟩, created, inserted⟩ := Option.bind_eq_some_iff.mp stepped
      exact single rfl (offerCheckout_fresh (Outcome.toOption_some created)) inserted
  | closeAuction listing winner priceMinor reservation order =>
      obtain ⟨⟨book, inventory⟩, created, inserted⟩ := Option.bind_eq_some_iff.mp stepped
      exact single rfl (closeAuction_fresh (Outcome.toOption_some created)) inserted
  | placeBid listing => exact beside rfl stepped
  | closeUnsold listing => exact beside rfl stepped
  | registerListing listing record sender recordFound => exact beside rfl stepped
  | syncListing listing record => exact beside rfl stepped
  | tombstone listing =>
      obtain ⟨inventory, -, rfl⟩ := Option.map_eq_some_iff.mp stepped
      exact .beside rfl rfl
  | adjustInventory listing sender delta => exact beside rfl stepped
  | setDigitalVersion listing kind =>
      obtain ⟨inventory, -, rfl⟩ := Option.map_eq_some_iff.mp stepped
      exact .beside rfl rfl
  | reserveInventory reservation listing sender quantity ttlSeconds => exact beside rfl stepped
  | expireReservation reservation =>
      obtain ⟨-, stepped⟩ := Option.ite_none_left_eq_some.mp stepped
      exact beside rfl stepped
  | acceptOffer award readAt =>
      obtain ⟨-, stepped⟩ := Option.ite_none_left_eq_some.mp stepped
      exact beside rfl stepped
  | expireAward award => exact beside rfl stepped
  | syncDrop drop record readAt =>
      obtain ⟨-, stepped⟩ := Option.ite_none_left_eq_some.mp stepped
      exact beside rfl stepped
  | cancelDrop drop sender => exact beside rfl stepped
  | releaseDropListings drop sender => exact beside rfl stepped
  | transitionDrop drop =>
      cases stepped
      exact .beside rfl rfl

inductive CellOrigin (references : References) (sys : Sys) (action : Action) (after : Sys)
    (id : OrderId) (cell : Cell) : Prop
  | same (found : sys.cells.find? id = some cell)
  | fresh {book : OrderBook} (fresh : Fresh book) (created : cell = newCell book)
  | stepped {now : Time} {step : OrderAction} {before : Cell} (named : action = .order id now step)
      (found : sys.cells.find? id = some before)
      (ran : stepCell references sys.inventory before now step = some (after.inventory, cell))

theorem step_cells {references : References} {sys after : Sys} {action : Action} {id : OrderId}
    {cell : Cell} (stepped : sys.step references action = some after)
    (found : after.cells.find? id = some cell) :
    CellOrigin references sys action after id cell := by
  cases step_inv stepped with
  | order named present ran cells =>
      rw [cells, Keyed.Table.find?_set] at found
      split at found
      · rename_i same
        cases found
        subst same
        exact .stepped named present ran
      · exact .same found
  | created foreign fresh inserted =>
      rcases insert_cells inserted found with old | ⟨-, book, member, -, rfl⟩
      · exact .same old
      · exact .fresh (fresh book member) rfl
  | beside foreign cells =>
      rw [cells] at found
      exact .same found

theorem order_step {references : References} {sys after : Sys} {id : OrderId} {now : Time}
    {action : OrderAction} {cell : Cell} (found : sys.cells.find? id = some cell)
    (stepped : sys.step references (.order id now action) = some after) :
    ∃ done, after.cells.find? id = some done ∧
      stepCell references sys.inventory cell now action = some (after.inventory, done) := by
  obtain ⟨before, present, stepped⟩ := Option.bind_eq_some_iff.mp stepped
  obtain ⟨⟨inventory, done⟩, ran, rfl⟩ := Option.map_eq_some_iff.mp stepped
  obtain rfl : before = cell := Option.some.inj (present.symm.trans found)
  exact ⟨done, Keyed.Table.find?_set_self _ _ _, ran⟩

theorem step_keeps {references : References} {sys after : Sys} {action : Action} {id : OrderId}
    {cell : Cell} (stepped : sys.step references action = some after)
    (found : sys.cells.find? id = some cell) :
    ∃ done, after.cells.find? id = some done ∧
      (done = cell ∨ ∃ now step, action = .order id now step ∧
        stepCell references sys.inventory cell now step = some (after.inventory, done)) := by
  cases step_inv stepped with
  | @order other now step before done named present ran cells =>
      by_cases same : id = other
      · subst same
        obtain rfl : before = cell := Option.some.inj (present.symm.trans found)
        exact ⟨done, by rw [cells, Keyed.Table.find?_set_self], .inr ⟨now, step, named, ran⟩⟩
      · refine ⟨cell, ?_, .inl rfl⟩
        rw [cells, Keyed.Table.find?_set_ne _ _ same]
        exact found
  | created foreign fresh inserted => exact ⟨cell, insert_keeps inserted found, .inl rfl⟩
  | beside foreign cells =>
      rw [cells]
      exact ⟨cell, found, .inl rfl⟩

/-! Invariants of cells. -/

theorem Terms.start_coherent (terms : Terms) (held : Bool)
    (single : held = true → terms.auction = none) : Coherent (terms.start held) := by
  constructor <;> simp [Terms.start]
  intro held
  exact single held

theorem Fresh.sound {book : OrderBook} (fresh : Fresh book) : Sound (newCell book) := by
  obtain ⟨⟨held, start⟩, single, -⟩ := fresh
  constructor
  · change Coherent book.standing
    rw [start]
    apply Terms.start_coherent
    rintro rfl
    exact single (congrArg Standing.held start)
  · intro message member
    cases member

/-- What `Reachable` says of the cells: a property of fresh cells that each
allowed step of a sound cell keeps. -/
theorem cells_invariant {references : References} {allowed : Sys → Action → Prop}
    (holds : Cell → Prop) (base : ∀ book, Fresh book → holds (newCell book))
    (keep : ∀ {sys : Sys} {id : OrderId} {now : Time} {action : OrderAction} {cell : Cell}
      {inventory : Inventory} {done : Cell}, sys.cells.find? id = some cell →
      allowed sys (.order id now action) → Sound cell → holds cell →
      stepCell references sys.inventory cell now action = some (inventory, done) → holds done)
    {sys : Sys} (reached : Runs.Reachable (marketplace references) allowed sys) {id : OrderId}
    {cell : Cell} (found : sys.cells.find? id = some cell) : Sound cell ∧ holds cell := by
  refine Runs.invariant (marketplace references) allowed
    (fun sys => ∀ id cell, sys.cells.find? id = some cell → Sound cell ∧ holds cell)
    ?_ ?_ reached id cell found
  · intro sys init id cell found
    rw [show sys = emptySys from init] at found
    cases found
  · intro before action after known meets stepped id cell found
    cases step_cells stepped found with
    | same old => exact known id cell old
    | @fresh book fresh created =>
        rw [created]
        exact ⟨fresh.sound, base book fresh⟩
    | stepped named old ran =>
        obtain ⟨sound, held⟩ := known id _ old
        rw [named] at meets
        exact ⟨(stepCell_steps sound ran).sound sound, keep old meets sound held ran⟩

theorem reachable_sound {references : References} {allowed : Sys → Action → Prop} {sys : Sys}
    (reached : Runs.Reachable (marketplace references) allowed sys) {id : OrderId} {cell : Cell}
    (found : sys.cells.find? id = some cell) : Sound cell :=
  (cells_invariant (fun _ => True) (fun _ _ => trivial) (fun _ _ _ _ _ => trivial) reached
    found).1

def eachOrderAt (guard : Time → Cell → OrderAction → Prop) (sys : Sys) (action : Action) : Prop :=
  ∀ step ∈ action.onOrder, ∀ cell ∈ sys.cells.find? step.1, guard step.2.1 cell step.2.2

instance (guard : Time → Cell → OrderAction → Prop)
    [∀ now cell action, Decidable (guard now cell action)] (sys : Sys) (action : Action) :
    Decidable (eachOrderAt guard sys action) :=
  inferInstanceAs (Decidable (∀ step ∈ action.onOrder, ∀ cell ∈ sys.cells.find? step.1,
    guard step.2.1 cell step.2.2))

theorem eachOrderAt_order {guard : Time → Cell → OrderAction → Prop} {sys : Sys} {id : OrderId}
    {now : Time} {action : OrderAction} {cell : Cell}
    (meets : eachOrderAt guard sys (.order id now action))
    (found : sys.cells.find? id = some cell) : guard now cell action :=
  meets (id, now, action) rfl cell found

/-- A condition that does not depend on the time. -/
def eachOrder (guard : Cell → OrderAction → Prop) : Sys → Action → Prop :=
  eachOrderAt fun _ => guard

instance (guard : Cell → OrderAction → Prop) [∀ cell action, Decidable (guard cell action)]
    (sys : Sys) (action : Action) : Decidable (eachOrder guard sys action) :=
  inferInstanceAs (Decidable (eachOrderAt _ sys action))

theorem eachOrder_order {guard : Cell → OrderAction → Prop} {sys : Sys} {id : OrderId} {now : Time}
    {action : OrderAction} {cell : Cell} (meets : eachOrder guard sys (.order id now action))
    (found : sys.cells.find? id = some cell) : guard cell action :=
  eachOrderAt_order meets found

end MarketplaceService
