import MarketplaceService.CatalogPostings
import MarketplaceService.Cells
import MarketplaceService.Receipts
import Mathlib.Algebra.BigOperators.Ring.Finset

/-!
The stock ledger of a whole run. The columns of a fixed-price listing add up to
what the orders and the reservations account for: the reserved column to the
holds of pending orders and the active reservations, the sold column to the
confirmed orders less what cancelled ones gave back. Every transaction keeps
this but one, late money that takes an order's first line and misses another.
-/

namespace MarketplaceService

namespace Cell

/-- The units of a listing that a pending order holds. -/
def heldOn (id : ListingId) (cell : Cell) : ℕ :=
  if cell.book.order.stockHeld = true ∧ cell.book.order.state = .pendingPayment then
    linesOn id cell.book.order.lines
  else 0

def confirmedOn (id : ListingId) (cell : Cell) : ℕ :=
  if cell.book.receipt.isSome = true then linesOn id cell.book.order.lines else 0

/-- The units of a listing that a cancelled paid order gave back. -/
def returnedOn (id : ListingId) (cell : Cell) : ℕ := linesOn id cell.returned

def keptOn (id : ListingId) (cell : Cell) : ℕ := cell.confirmedOn id - cell.returnedOn id

theorem heldOn_eq {cell : Cell} (coherent : Coherent cell.book.standing) (id : ListingId) :
    cell.heldOn id = cell.book.standing.heldOn id := by
  unfold heldOn Standing.heldOn
  by_cases held : cell.book.order.stockHeld = true
  · have pending : cell.book.order.state = .pendingPayment := (coherent.held held).1
    simp [held, pending, OrderBook.standing, Order.terms]
  · simp [held, OrderBook.standing]

theorem confirmedOn_eq (cell : Cell) (id : ListingId) :
    cell.confirmedOn id = cell.book.standing.boughtOn id := by
  simp [confirmedOn, Standing.boughtOn, OrderBook.standing, Order.terms]

end Cell

/-! The ledger. -/

/-- The columns of the fixed-price listings are what the orders and the
reservations account for. -/
structure Ledger (sys : Sys) : Prop where
  placed : ∀ id cell, sys.cells.find? id = some cell →
    Placed sys.inventory cell.book.order.terms
  reserved : ∀ id, Counted sys.inventory id →
    sys.inventory.reservedOf id = sys.cells.sum (Cell.heldOn id) + sys.inventory.activeOn id
  sold : ∀ id, Counted sys.inventory id →
    sys.inventory.soldOf id + sys.cells.sum (Cell.returnedOn id) =
      sys.cells.sum (Cell.confirmedOn id)

theorem Ledger.posted {sys : Sys} {inventory : Inventory} (ledger : Ledger sys)
    (posted : Posted (fun _ => 0) (fun _ => 0) sys.inventory inventory) :
    Ledger { sys with inventory := inventory } := by
  refine ⟨?_, ?_, ?_⟩
  · intro id cell found
    exact (ledger.placed id cell found).posted posted
  · intro id counted
    have before := ledger.reserved id (posted.counted counted)
    have moved := posted.reserved id counted
    simp only at moved ⊢
    omega
  · intro id counted
    have before := ledger.sold id (posted.counted counted)
    have moved := posted.sold id counted
    simp only at moved ⊢
    omega

theorem Ledger.order_posted {sys : Sys} {inventory : Inventory} {id : OrderId} {cell done : Cell}
    (ledger : Ledger sys) (found : sys.cells.find? id = some cell)
    (coherent : Coherent cell.book.standing) (after : Coherent done.book.standing)
    (terms : done.book.standing.terms = cell.book.standing.terms) {lines : List Line}
    (returned : done.returned = cell.returned ++ lines)
    (posts : Posts cell.book.standing done.book.standing lines sys.inventory inventory) :
    Ledger { sys with inventory := inventory, cells := sys.cells.set id done } := by
  refine ⟨?_, ?_, ?_⟩
  · intro other stored present
    simp only [Keyed.Table.find?_set] at present
    split at present
    · cases present
      have placed := ledger.placed id cell found
      rw [show cell.book.order.terms = done.book.order.terms from terms.symm] at placed
      exact placed.posted posts
    · exact (ledger.placed other stored present).posted posts
  · intro listing counted
    have before := ledger.reserved listing (posts.counted counted)
    have moved := posts.reserved listing counted
    have share := sys.cells.sum_set_of_find? (Cell.heldOn listing) done found
    rw [Cell.heldOn_eq coherent, Cell.heldOn_eq after] at share
    simp only at moved ⊢
    omega
  · intro listing counted
    have before := ledger.sold listing (posts.counted counted)
    have moved := posts.sold listing counted
    have bought := sys.cells.sum_set_of_find? (Cell.confirmedOn listing) done found
    rw [Cell.confirmedOn_eq, Cell.confirmedOn_eq] at bought
    have given := sys.cells.sum_set_of_find? (Cell.returnedOn listing) done found
    have more : done.returnedOn listing = cell.returnedOn listing + linesOn listing lines := by
      rw [Cell.returnedOn, returned, linesOn_append]
      rfl
    simp only at moved ⊢
    omega

theorem insert_sums {inventory : Inventory} {books : List OrderBook} (measure : Cell → ℕ) :
    ∀ {sys after : Sys}, sys.insert inventory books = some after →
      after.cells.sum measure =
        sys.cells.sum measure + (books.map fun book => measure (newCell book)).sum := by
  induction books with
  | nil =>
      intro sys after inserted
      cases inserted
      rfl
  | cons book rest ih =>
      intro sys after inserted
      unfold Sys.insert at inserted
      obtain ⟨fresh, inserted⟩ := Option.ite_none_left_eq_some.mp inserted
      have total := ih inserted
      have absent : sys.cells.find? book.order.id = none := by simpa using fresh
      rw [sys.cells.sum_set_of_fresh measure (newCell book) absent] at total
      rw [total, List.map_cons, List.sum_cons]
      omega

theorem Ledger.inserted {sys after : Sys} {inventory : Inventory} {books : List OrderBook}
    (ledger : Ledger sys) (fresh : ∀ book ∈ books, Fresh book)
    (posted : Posted (fun id => (books.map fun book => book.standing.heldOn id).sum) (fun _ => 0)
      sys.inventory inventory)
    (placed : ∀ book ∈ books, Placed inventory book.order.terms)
    (inserted : sys.insert inventory books = some after) : Ledger after := by
  have same := insert_inventory inserted
  refine ⟨?_, ?_, ?_⟩
  · intro id cell found
    rw [same]
    rcases insert_cells inserted found with old | ⟨-, book, member, -, rfl⟩
    · exact (ledger.placed id cell old).posted posted
    · exact placed book member
  · intro id counted
    rw [same] at counted ⊢
    have before := ledger.reserved id (posted.counted counted)
    have moved := posted.reserved id counted
    have shares : (books.map fun book => (newCell book).heldOn id) =
        books.map fun book => book.standing.heldOn id :=
      List.map_congr_left fun book member => Cell.heldOn_eq (fresh book member).sound.coherent id
    have total := insert_sums (Cell.heldOn id) inserted
    rw [shares] at total
    have cast : ((books.map fun book => book.standing.heldOn id).sum : ℕ) =
        (books.map fun book => (book.standing.heldOn id : ℤ)).sum := by
      rw [Nat.cast_list_sum, List.map_map]
      rfl
    omega
  · intro id counted
    rw [same] at counted ⊢
    have before := ledger.sold id (posted.counted counted)
    have moved := posted.sold id counted
    have nothing : ∀ book ∈ books, (newCell book).confirmedOn id = 0 := by
      intro book member
      obtain ⟨held, start⟩ := (fresh book member).standing
      rw [Cell.confirmedOn_eq, show (newCell book).book = book from rfl, start]
      simp [Standing.boughtOn, Terms.start]
    have bought := insert_sums (Cell.confirmedOn id) inserted
    have given := insert_sums (Cell.returnedOn id) inserted
    have unpaid : (books.map fun book => (newCell book).confirmedOn id).sum = 0 := by
      rw [List.map_congr_left nothing]
      simp
    have none_back : (books.map fun book => (newCell book).returnedOn id).sum = 0 := by
      simp [Cell.returnedOn, newCell]
    omega

/-! The steps of the service. -/

/-- The step brings money to `apply_late_money`. -/
def OrderAction.entersLate (book : OrderBook) : OrderAction → Bool
  | .routeReleased claimed amountMatched _ =>
      amountMatched && !trackedByOrder book.order claimed.invoiceId && !otherRail book &&
        !settledElsewhere book
  | action => action.rail.isSome && action.appliesMoney && book.payment.state == .expired

theorem EntersLate.entersLate {book : OrderBook} {action : OrderAction}
    (late : EntersLate book.standing action) : action.entersLate book = true := by
  cases late with
  | @expired action rail named money expired =>
      have lapsed : book.payment.state = .expired := expired
      unfold OrderAction.entersLate
      split
      · cases named
      · rw [named, money, lapsed]
        rfl
  | released unbound paykit open_payment outside untracked =>
      simp only [OrderBook.standing, Standing.invoice]
        at unbound paykit open_payment outside untracked
      simp only [OrderAction.entersLate, trackedByOrder, otherRail, settledElsewhere,
        Order.paykitInvoiceId, Bool.true_and, Bool.and_eq_true, Bool.not_eq_true',
        Bool.or_eq_false_iff, Bool.and_eq_false_iff, beq_eq_false_iff_ne, Bool.not_eq_false',
        Bool.or_eq_true, beq_iff_eq]
      refine ⟨⟨?_, ?_, paykit⟩, open_payment, outside⟩
      · by_contra tracked
        rw [not_or, not_not, Bool.not_eq_false] at tracked
        exact untracked tracked
      · rcases unbound with none_bound | bitcoin
        · simp [none_bound]
        · simp [bitcoin]

/-- The order a late payment finds without its hold can be taken whole or not
at all. -/
def wholeStock (inventory : Inventory) (book : OrderBook) : Prop :=
  unpinnable inventory book.order = false →
    ¬ (book.order.state = .pendingPayment ∧ book.order.stockHeld = true) →
      book.payment.resolution = none → ¬ TakesPart inventory book.order

instance (inventory : Inventory) (book : OrderBook) : Decidable (wholeStock inventory book) :=
  inferInstanceAs (Decidable (_ → _ → _ → _))

def takesWhole (sys : Sys) (action : Action) : Prop :=
  eachOrder (fun cell step => step.entersLate cell.book = true →
    wholeStock sys.inventory cell.book) sys action

instance (sys : Sys) (action : Action) : Decidable (takesWhole sys action) :=
  inferInstanceAs (Decidable (eachOrder _ sys action))

/-- Rows on the same terms are taken again alike. -/
theorem TakesPart.of_terms {inventory : Inventory} {order other : Order}
    (terms : order.terms = other.terms) (takes : TakesPart inventory order) :
    TakesPart inventory other := by
  simp only [Order.terms, Terms.mk.injEq] at terms
  obtain ⟨-, auction, drop, buyer, -, lines, -, -, -, -, created⟩ := terms
  unfold TakesPart DropRetakeable LinesRetakeable Order.units at takes ⊢
  rw [← auction, ← drop, ← buyer, ← lines, ← created]
  exact takes

theorem WholeStock.of_book {inventory : Inventory} {book : OrderBook}
    (whole : wholeStock inventory book) : WholeStock inventory book.standing := by
  intro order shows_row deliverable unheld unresolved takes
  have terms : order.terms = book.order.terms := shows_row.terms
  refine whole ?_ unheld ?_ (takes.of_terms terms)
  · simp only [Order.terms, Terms.mk.injEq] at terms
    obtain ⟨-, -, -, -, -, lines, -, -, -, fulfillment, -⟩ := terms
    unfold unpinnable Order.instantLines at deliverable ⊢
    rw [← lines, ← fulfillment]
    exact deliverable
  · exact Option.not_isSome_iff_eq_none.mp (by simpa [OrderBook.standing] using unresolved)

theorem Ledger.order_posts {references : References} {sys : Sys} {inventory : Inventory}
    {id : OrderId} {now : Time} {action : OrderAction} {cell done : Cell} (ledger : Ledger sys)
    (found : sys.cells.find? id = some cell) (sound : Sound cell)
    (whole : action.entersLate cell.book = true → wholeStock sys.inventory cell.book)
    (ran : stepCell references sys.inventory cell now action = some (inventory, done)) :
    Posts cell.book.standing done.book.standing (action.returns cell.book) sys.inventory
      inventory := by
  have step := stepCell_steps sound ran
  obtain ⟨moved, move, tidied⟩ := step.moves
  have accounted : cell.book.standing.held = true →
      Accounted sys.inventory cell.book.standing.terms.lines := by
    intro held listing counted
    have share := sys.cells.le_sum_of_find? (Cell.heldOn listing) found
    rw [Cell.heldOn_eq sound.coherent, Standing.heldOn, if_pos held] at share
    have total := ledger.reserved listing counted
    omega
  have posts := move.posts sound.coherent step.speaks (ledger.placed id cell found) accounted
    fun late => .of_book (whole late.entersLate)
  refine posts.relabel ⟨rfl, rfl, rfl⟩ ?_
  rw [tidied.eq]
  exact ⟨rfl, rfl, rfl⟩

theorem Ledger.order_step {references : References} {sys : Sys} {inventory : Inventory}
    {id : OrderId} {now : Time} {action : OrderAction} {cell done : Cell} (ledger : Ledger sys)
    (found : sys.cells.find? id = some cell) (sound : Sound cell)
    (whole : action.entersLate cell.book = true → wholeStock sys.inventory cell.book)
    (ran : stepCell references sys.inventory cell now action = some (inventory, done)) :
    Ledger { sys with inventory := inventory, cells := sys.cells.set id done } := by
  have step := stepCell_steps sound ran
  exact ledger.order_posted found sound.coherent (step.sound sound).coherent
    (step.steady sound).terms step.returned (ledger.order_posts found sound whole ran)

theorem Ledger.step {references : References} {sys after : Sys} {action : Action}
    (ledger : Ledger sys) (sound : ∀ id cell, sys.cells.find? id = some cell → Sound cell)
    (whole : takesWhole sys action) (stepped : sys.step references action = some after) :
    Ledger after := by
  have stocked {result : Except Failure Inventory}
      (posted : ∀ inventory, result = .ok inventory →
        Posted (fun _ => 0) (fun _ => 0) sys.inventory inventory)
      (stocked : sys.setInventory result = some after) : Ledger after := by
    obtain ⟨inventory, ran, rfl⟩ := Option.map_eq_some_iff.mp stocked
    exact ledger.posted (posted inventory (Outcome.toOption_some ran))
  have single {book : OrderBook} {inventory : Inventory} (fresh : Fresh book)
      (posted : Posted (fun id => book.standing.heldOn id) (fun _ => 0) sys.inventory inventory)
      (placed : Placed inventory book.order.terms)
      (inserted : sys.insert inventory [book] = some after) : Ledger after := by
    refine ledger.inserted ?_ (posted.congr (by simp) (by simp)) ?_ inserted
    · intro only member
      rw [List.mem_singleton.mp member]
      exact fresh
    · intro only member
      rw [List.mem_singleton.mp member]
      exact placed
  cases action with
  | tick seconds =>
      cases stepped
      exact ⟨ledger.placed, ledger.reserved, ledger.sold⟩
  | order id now step =>
      obtain ⟨cell, found, stepped⟩ := Option.bind_eq_some_iff.mp stepped
      obtain ⟨⟨inventory, done⟩, ran, rfl⟩ := Option.map_eq_some_iff.mp stepped
      exact ledger.order_step found (sound id cell found) (eachOrder_order whole found) ran
  | checkout request =>
      obtain ⟨⟨books, inventory⟩, created, inserted⟩ := Option.bind_eq_some_iff.mp stepped
      have ran := Outcome.toOption_some created
      obtain ⟨posted, placed⟩ := checkoutCreate_posted ran
      exact ledger.inserted (checkoutCreate_fresh ran) posted placed inserted
  | offerCheckout award order fulfillment holdWindowSeconds =>
      obtain ⟨⟨book, inventory⟩, created, inserted⟩ := Option.bind_eq_some_iff.mp stepped
      have ran := Outcome.toOption_some created
      obtain ⟨posted, placed⟩ := offerCheckout_posted ran
      exact single (offerCheckout_fresh ran) posted placed inserted
  | closeAuction listing winner priceMinor reservation order =>
      obtain ⟨⟨book, inventory⟩, created, inserted⟩ := Option.bind_eq_some_iff.mp stepped
      have ran := Outcome.toOption_some created
      obtain ⟨posted, placed⟩ := closeAuction_posted ran
      exact single (closeAuction_fresh ran) posted placed inserted
  | placeBid listing => exact stocked (fun _ => placeBid_posted) stepped
  | closeUnsold listing => exact stocked (fun _ => closeUnsold_posted) stepped
  | registerListing listing record sender recordFound =>
      exact stocked (fun _ => registerListing_posted) stepped
  | syncListing listing record => exact stocked (fun _ => syncListing_posted) stepped
  | tombstone listing =>
      obtain ⟨inventory, deleted, rfl⟩ := Option.map_eq_some_iff.mp stepped
      exact ledger.posted (tombstone_posted deleted)
  | adjustInventory listing sender delta => exact stocked (fun _ => adjustInventory_posted) stepped
  | setDigitalVersion listing kind =>
      obtain ⟨inventory, written, rfl⟩ := Option.map_eq_some_iff.mp stepped
      exact ledger.posted (setDigitalVersion_posted written)
  | reserveInventory reservation listing sender quantity ttlSeconds =>
      exact stocked (fun _ => reserveInventory_posted) stepped
  | expireReservation reservation =>
      obtain ⟨-, stepped⟩ := Option.ite_none_left_eq_some.mp stepped
      exact stocked (fun _ => expireDueReservation_posted) stepped
  | acceptOffer award readAt =>
      obtain ⟨-, stepped⟩ := Option.ite_none_left_eq_some.mp stepped
      exact stocked (fun _ => acceptOffer_posted) stepped
  | expireAward award => exact stocked (fun _ => expireDueAward_posted) stepped
  | syncDrop drop record readAt =>
      obtain ⟨-, stepped⟩ := Option.ite_none_left_eq_some.mp stepped
      exact stocked (fun _ ran => .of_same (syncDrop_same ran)) stepped
  | cancelDrop drop sender => exact stocked (fun _ ran => .of_same (cancelDrop_same ran)) stepped
  | releaseDropListings drop sender =>
      exact stocked (fun _ ran => .of_same (releaseDropListings_same ran)) stepped
  | transitionDrop drop =>
      cases stepped
      exact ledger.posted (.of_same (transitionDueDrop_same ..))

theorem reachable_ledger {references : References} {sys : Sys}
    (reached : Runs.Reachable (marketplace references) takesWhole sys) : Ledger sys := by
  refine Runs.invariant_under (marketplace references) takesWhole
    (fun sys => ∀ id cell, sys.cells.find? id = some cell → Sound cell) Ledger
    (fun _ reached _ _ found => reachable_sound reached found) ?_ ?_ reached
  · intro sys init
    rw [show sys = emptySys from init]
    refine ⟨?_, ?_, ?_⟩
    · intro id cell found
      cases found
    · intro id _
      rfl
    · intro id _
      rfl
  · intro before action after sound ledger whole stepped
    exact ledger.step sound whole stepped

theorem reachable_givenBack {references : References} {allowed : Sys → Action → Prop} {sys : Sys}
    (reached : Runs.Reachable (marketplace references) allowed sys) {id : OrderId} {cell : Cell}
    (found : sys.cells.find? id = some cell) : GivenBack cell.book.standing cell.returned := by
  refine (cells_invariant (fun cell => GivenBack cell.book.standing cell.returned) ?_ ?_ reached
    found).2
  · intro book fresh
    obtain ⟨held, start⟩ := fresh.standing
    refine ⟨?_, fun some_line => absurd rfl some_line, List.nil_sublist _⟩
    intro paid
    rw [show (newCell book).book = book from rfl, start] at paid
    simp [Terms.start, unpaidStates] at paid
  · intro sys id now action cell inventory done found _ sound given ran
    have step := stepCell_steps sound ran
    obtain ⟨moved, move, tidied⟩ := step.moves
    rw [step.returned]
    refine given.step (step.steady sound).terms (move.receipts.relabel ⟨rfl, rfl, rfl⟩ ?_)
    rw [tidied.eq]
    exact ⟨rfl, rfl⟩

theorem GivenBack.within {cell : Cell} (given : GivenBack cell.book.standing cell.returned)
    (id : ListingId) : cell.returnedOn id ≤ cell.confirmedOn id := by
  rw [Cell.confirmedOn_eq, Standing.boughtOn, Cell.returnedOn]
  by_cases nothing : cell.returned = []
  · simp [nothing]
  · rw [if_pos (given.bought nothing)]
    exact linesOn_sublist id given.lines

/-- The columns of a listing against the orders and the reservations. -/
structure Balanced (sys : Sys) (id : ListingId) (listing : Listing) : Prop where
  total : listing.availableQuantity + listing.reservedQuantity + listing.soldQuantity =
    listing.totalQuantity
  reserved : listing.reservedQuantity =
    sys.cells.sum (Cell.heldOn id) + sys.inventory.reservations.sum (Reservation.activeOn id)
  sold : listing.soldQuantity = sys.cells.sum (Cell.keptOn id)

theorem fixed_price_stock_balanced (references : References) (sys : Sys)
    (reached : Runs.Reachable (marketplace references) takesWhole sys) (id : ListingId)
    (listing : Listing) (found : sys.inventory.listings.find? id = some listing)
    (fixed : listing.saleFormat = .fixedPrice) : Balanced sys id listing := by
  have ledger := reachable_ledger reached
  have counted : Counted sys.inventory id := by
    intro stored present
    obtain rfl : stored = listing := Option.mem_unique present found
    exact fixed
  have reserved := ledger.reserved id counted
  have sold := ledger.sold id counted
  rw [Inventory.reservedOf, found, Option.map_some, Option.getD_some] at reserved
  rw [Inventory.soldOf, found, Option.map_some, Option.getD_some] at sold
  refine ⟨listing.balanced, reserved, ?_⟩
  have splits := sys.cells.sum_add_of_rows (Cell.keptOn id) (Cell.returnedOn id)
    (Cell.confirmedOn id) ?_
  · omega
  · intro row member
    have given := reachable_givenBack reached (sys.cells.find?_of_mem member)
    exact Nat.sub_add_cancel (given.within id)

def lateLamp : List Action :=
  lampOrder ++ sampleBind 1 .stripe none none ++
  [ .order 7 600 .expireWindow
  , .order 7 700 (.verifyStripe "buyer" none)
  , .order 7 700 (.applyFiat none .processor) ]

theorem late_lamp_balanced :
    ∃ sys, Runs.Reachable (marketplace sampleReferences) takesWhole sys ∧
      ∃ listing ∈ sys.inventory.listings.find? "lamp",
        listing.soldQuantity = 1 ∧ Balanced sys "lamp" listing := by
  obtain ⟨sys, reached, listing, found, sold, fixed⟩ :=
    @Runs.exists_reachable_of_run _ _ (marketplace sampleReferences) takesWhole _ rfl lateLamp
      (fun sys => ∃ listing ∈ sys.inventory.listings.find? "lamp",
        listing.soldQuantity = 1 ∧ listing.saleFormat = .fixedPrice)
      (by decide +kernel) (by decide +kernel)
  exact ⟨sys, reached, listing, found, sold,
    fixed_price_stock_balanced sampleReferences sys reached "lamp" listing found fixed⟩

/-- Late money for the lamp and the vase takes the lamp and misses the vase:
the lamp stays reserved for no one. -/
theorem late_money_leaves_lamp_reserved :
    ∃ sys, Runs.Reachable (marketplace sampleReferences) Runs.anyStep sys ∧
      ∃ listing ∈ sys.inventory.listings.find? "lamp",
        listing.saleFormat = .fixedPrice ∧ listing.deletedAt = none ∧
          listing.recreatedAt = none ∧ ¬ Balanced sys "lamp" listing := by
  obtain ⟨sys, reached, listing, found, fixed, live, original, unbalanced⟩ :=
    Runs.exists_reachable_of_run (marketplace sampleReferences) rfl
      (lostLine "vase" ++
        [ .order 7 700 (.verifyStripe "buyer" none)
        , .order 7 700 (.applyFiat none .processor) ])
      (fun sys => ∃ listing ∈ sys.inventory.listings.find? "lamp",
        listing.saleFormat = .fixedPrice ∧ listing.deletedAt = none ∧
          listing.recreatedAt = none ∧
          listing.reservedQuantity ≠ sys.cells.sum (Cell.heldOn "lamp") +
            sys.inventory.reservations.sum (Reservation.activeOn "lamp"))
      (Runs.meets_anyStep _ _ _) (by decide +kernel)
  exact ⟨sys, reached, listing, found, fixed, live, original,
    fun balanced => unbalanced balanced.reserved⟩

end MarketplaceService
