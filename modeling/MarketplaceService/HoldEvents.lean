import MarketplaceService.Confirmations
import MarketplaceService.StockLedger

/-!
The hold of a fixed-price order over whole runs. A step of the order acquires its
hold, releases it, turns it into a sale, or takes the stock and sells it at once,
and each of these moves the order's own lines. The hold stands or not after every
event, so that an acquisition is followed by one release or one sale.
-/

namespace MarketplaceService

inductive HoldEvent where
  | acquired
  | released
  | converted
  | retaken
  | kept
deriving DecidableEq, Repr

namespace HoldEvent

/-- How often the event adds the order's lines to the reserved column. -/
def reserves : HoldEvent → ℤ
  | .acquired => 1
  | .released | .converted => -1
  | .retaken | .kept => 0

/-- How often the event adds the order's lines to the sold column. -/
def sells : HoldEvent → ℕ
  | .converted | .retaken => 1
  | .acquired | .released | .kept => 0

/-- Whether the hold stands after the event; none where the event does not fit. -/
def advance : Bool → HoldEvent → Option Bool
  | false, .acquired => some true
  | true, .released => some false
  | true, .converted => some false
  | false, .retaken => some false
  | held, .kept => some held
  | _, _ => none

theorem count_acquired {events : List HoldEvent} {held last : Bool}
    (replayed : events.foldlM advance held = some last) :
    events.count .acquired + held.toNat =
      events.count .released + events.count .converted + last.toNat := by
  induction events generalizing held with
  | nil =>
      cases replayed
      simp
  | cons event rest ih =>
      obtain ⟨middle, first, replayed⟩ := Option.bind_eq_some_iff.mp replayed
      have later := ih replayed
      cases event <;> cases held <;> cases first <;> simp_all <;> omega

theorem count_sales {events : List HoldEvent} (unsold : (events.map sells).sum = 0) :
    events.count .converted = 0 ∧ events.count .retaken = 0 := by
  induction events with
  | nil => exact ⟨rfl, rfl⟩
  | cons event rest ih =>
      rw [List.map_cons, List.sum_cons] at unsold
      obtain ⟨converted, retaken⟩ := ih (by omega)
      cases event <;> simp_all [sells]

end HoldEvent

def holdEvent (before after : OrderBook) : HoldEvent :=
  match before.order.stockHeld, after.order.stockHeld,
    before.receipt.isNone && after.receipt.isSome with
  | false, true, _ => .acquired
  | true, false, false => .released
  | true, false, true => .converted
  | false, false, true => .retaken
  | _, _, _ => .kept

def holdEventAt (id : OrderId) (before after : Sys) : HoldEvent :=
  match before.cells.find? id, after.cells.find? id with
  | some cell, some done => holdEvent cell.book done.book
  | none, some done => if done.book.order.stockHeld then .acquired else .kept
  | _, none => .kept

def holdEvents (references : References) (id : OrderId) : Sys → List Action → List HoldEvent
  | _, [] => []
  | sys, action :: rest =>
      match sys.step references action with
      | some after => holdEventAt id sys after :: holdEvents references id after rest
      | none => []

def heldAt (sys : Sys) (id : OrderId) : Bool :=
  (sys.cells.find? id).any fun cell => cell.book.order.stockHeld

def soldAt (sys : Sys) (id : OrderId) : Bool :=
  (sys.cells.find? id).any fun cell => cell.book.receipt.isSome

/-! One step. -/

section Steps

variable {references : References} {sys after : Sys} {action : Action} {id : OrderId}
  {cell done : Cell}

theorem holdEvent_advances (sound : Sound done)
    (kept : cell.book.receipt.isSome = true → done.book.receipt.isSome = true) :
    (holdEvent cell.book done.book).advance cell.book.order.stockHeld =
        some done.book.order.stockHeld ∧
      (holdEvent cell.book done.book).sells + cell.book.receipt.isSome.toNat =
        done.book.receipt.isSome.toNat := by
  have ends : done.book.receipt.isSome = true → done.book.order.stockHeld = false := by
    intro issued
    have receipt := sound.coherent.receipt (by simpa [OrderBook.standing] using issued)
    exact sound.coherent.unheld receipt.2
  unfold holdEvent
  cases held : cell.book.order.stockHeld <;> cases later : done.book.order.stockHeld <;>
    cases before : cell.book.receipt <;> cases issued : done.book.receipt <;>
    simp_all [HoldEvent.advance, HoldEvent.sells]

theorem holdEvent_shares (sound : Sound done)
    (kept : cell.book.receipt.isSome = true → done.book.receipt.isSome = true)
    (terms : done.book.standing.terms = cell.book.standing.terms) (listing : ListingId) :
    (done.book.standing.heldOn listing : ℤ) - cell.book.standing.heldOn listing =
        (holdEvent cell.book done.book).reserves * linesOn listing cell.book.order.lines ∧
      (done.book.standing.boughtOn listing : ℤ) - cell.book.standing.boughtOn listing =
        (holdEvent cell.book done.book).sells * linesOn listing cell.book.order.lines := by
  obtain ⟨advances, sells⟩ := holdEvent_advances sound kept
  have lines : done.book.standing.terms.lines = cell.book.order.lines := congrArg Terms.lines terms
  have before : cell.book.standing.terms.lines = cell.book.order.lines := rfl
  have first : cell.book.standing.held = cell.book.order.stockHeld := rfl
  have last : done.book.standing.held = done.book.order.stockHeld := rfl
  have unpaid : cell.book.standing.receipt.isSome = cell.book.receipt.isSome := Option.isSome_map
  have paid : done.book.standing.receipt.isSome = done.book.receipt.isSome := Option.isSome_map
  unfold Standing.heldOn Standing.boughtOn
  rw [lines, before, first, last, unpaid, paid]
  generalize holdEvent cell.book done.book = event at advances sells
  cases event <;> cases held : cell.book.order.stockHeld <;>
    cases later : done.book.order.stockHeld <;> cases issued : cell.book.receipt.isSome <;>
    cases receipt : done.book.receipt.isSome <;>
    simp_all [HoldEvent.advance, HoldEvent.sells, HoldEvent.reserves]

theorem step_holdEvent (sound : ∀ id cell, sys.cells.find? id = some cell → Sound cell)
    (later : ∀ id cell, after.cells.find? id = some cell → Sound cell)
    (stepped : sys.step references action = some after) :
    (holdEventAt id sys after).advance (heldAt sys id) = some (heldAt after id) ∧
      (holdEventAt id sys after).sells + (soldAt sys id).toNat = (soldAt after id).toNat := by
  have law := confirmationLaw sound stepped
  unfold holdEventAt heldAt soldAt
  cases found : sys.cells.find? id with
  | some cell =>
      obtain ⟨done, present, receipts⟩ := law.receipts id cell found
      have kept : cell.book.receipt.isSome = true → done.book.receipt.isSome = true := by
        rcases receipts with same | issues
        · intro issued
          rw [← Option.isSome_map, same, Option.isSome_map]
          exact issued
        · exact fun _ => issues.paid
      rw [present]
      exact holdEvent_advances (later id done present) kept
  | none =>
      cases present : after.cells.find? id with
      | none => exact ⟨rfl, rfl⟩
      | some done =>
          have unpaid := law.created id done present found
          cases held : done.book.order.stockHeld <;>
            simp [held, unpaid, HoldEvent.advance, HoldEvent.sells]

end Steps

theorem run_holdEvents {references : References} {allowed : Sys → Action → Prop} {id : OrderId}
    {labels : List Action} : ∀ {sys after : Sys},
    Runs.Reachable (marketplace references) allowed sys →
    Runs.Meets (marketplace references) allowed sys labels →
    Runs.run (marketplace references) sys labels = some after →
    (holdEvents references id sys labels).foldlM HoldEvent.advance (heldAt sys id) =
        some (heldAt after id) ∧
      ((holdEvents references id sys labels).map HoldEvent.sells).sum + (soldAt sys id).toNat =
        (soldAt after id).toNat := by
  induction labels with
  | nil =>
      intro sys after _ _ ran
      cases ran
      exact ⟨rfl, Nat.zero_add _⟩
  | cons label rest ih =>
      intro sys after reached meets ran
      obtain ⟨middle, stepped, ran⟩ := Option.bind_eq_some_iff.mp ran
      have next := Runs.Reachable.next reached meets.1 stepped
      obtain ⟨advances, sells⟩ := @step_holdEvent references sys middle label id
        (fun _ _ found => reachable_sound reached found)
        (fun _ _ found => reachable_sound next found) stepped
      obtain ⟨later, total⟩ := ih next (meets.2 middle stepped) ran
      have stepped : sys.step references label = some middle := stepped
      constructor
      · simp only [holdEvents, stepped, List.foldlM_cons, advances]
        exact later
      · simp only [holdEvents, stepped, List.map_cons, List.sum_cons]
        omega

/-! What an event moves. -/

/-- The columns of a fixed-price listing before and after an event of an order with
these lines, of which a cancelled sale gives some back. -/
structure HoldPosting (lines given : List Line) (event : HoldEvent) (id : ListingId)
    (before after : Listing) : Prop where
  available : (after.availableQuantity : ℤ) = before.availableQuantity -
    (event.reserves + event.sells) * linesOn id lines + linesOn id given
  reserved : (after.reservedQuantity : ℤ) = before.reservedQuantity +
    event.reserves * linesOn id lines
  sold : (after.soldQuantity : ℤ) = before.soldQuantity + event.sells * linesOn id lines -
    linesOn id given
  total : after.totalQuantity = before.totalQuantity

namespace Writes

variable {terms : Terms} {sold : ListingId → ℤ} {before after : Inventory}

theorem reservations_of_single (writes : Writes terms sold before after)
    (single : terms.auction = none) : after.reservations = before.reservations := by
  induction writes with
  | same same => exact same.2
  | @reservations inventory hit change own kept =>
      have missed (row : Reservation) : hit row = false := by
        by_contra met
        have reserved := own row (by simpa using met)
        rw [Terms.reserves, single] at reserved
        cases reserved.1
      simp [Keyed.Table.updateWhere, missed]
  | moved move unsold plates labels revisions ran => exact (forLines_frame ran).1
  | sold ran => exact (forLines_frame ran).1
  | returned ran => exact (forLines_frame ran).1
  | trans _ _ first second => exact second.trans first

theorem totals (writes : Writes terms sold before after) (id : ListingId) :
    (after.listings.find? id).map Listing.totalQuantity =
      (before.listings.find? id).map Listing.totalQuantity := by
  have looped {each : Line → Listing → Except Failure Listing} {missing : Failure}
      {lines : List Line} {before after : Inventory} (move : LineMove each)
      (ran : forLines each missing lines before = (.ok (), after)) :
      (after.listings.find? id).map Listing.totalQuantity =
        (before.listings.find? id).map Listing.totalQuantity := by
    have shifted := forLines_shifted move ran id
    cases found : before.listings.find? id with
    | none => rw [shifted.missing found]
    | some listing =>
        obtain ⟨moved, present, shift⟩ := shifted.found found
        rw [present]
        exact congrArg some shift.total
  induction writes with
  | same same => rw [same.1]
  | reservations own kept => rfl
  | @moved each missing lines before after result move unsold plates labels revisions ran =>
      cases result with
      | ok done => exact looped move ran
      | error failure =>
          obtain ⟨taken, line, rest, -, done, -⟩ := forLines_stop ran
          exact looped move done
  | sold ran => exact looped sellMove ran
  | returned ran => exact looped releaseSoldMove ran
  | trans _ _ first second => exact second.trans first

end Writes

theorem order_step_posts {references : References} {sys after : Sys} {id : OrderId} {now : Time}
    {step : OrderAction} {cell done : Cell} (ledger : Ledger sys)
    (found : sys.cells.find? id = some cell) (sound : Sound cell)
    (whole : step.entersLate cell.book = true → wholeStock sys.inventory cell.book)
    (single : cell.book.order.auctionAggregateId = none)
    (ran : stepCell references sys.inventory cell now step = some (after.inventory, done)) :
    ∃ given, done.returned = cell.returned ++ given ∧
      (given ≠ [] → holdEvent cell.book done.book = .kept) ∧
      ∀ listing before, sys.inventory.listings.find? listing = some before →
        before.saleFormat = .fixedPrice → ∃ moved,
          after.inventory.listings.find? listing = some moved ∧
          HoldPosting cell.book.order.lines given (holdEvent cell.book done.book) listing
            before moved := by
  have own := stepCell_steps sound ran
  have terms := (own.steady sound).terms
  have posts := ledger.order_posts found sound whole ran
  obtain ⟨end_move, move, tidied⟩ := own.moves
  have writes := move.writes
  have reservations := writes.reservations_of_single single
  have receipt : done.book.standing.receipt = end_move.receipt :=
    (congrArg Standing.receipt tidied.eq).trans rfl
  have state : done.book.standing.state = end_move.state :=
    (congrArg Standing.state tidied.eq).trans rfl
  have receipts := move.receipts
  have returned := own.returned
  generalize step.returns cell.book = given at receipts returned posts writes
  have kept : cell.book.receipt.isSome = true → done.book.receipt.isSome = true := by
    have before : cell.book.standing.receipt.isSome = cell.book.receipt.isSome := Option.isSome_map
    have later : done.book.standing.receipt.isSome = done.book.receipt.isSome := Option.isSome_map
    rw [← before, ← later, receipt]
    intro issued
    cases receipts with
    | issued unpaid paid => exact paid
    | kept same unpaid => rw [same]; exact issued
    | gaveBack same paid cancelled sublist => rw [same]; exact issued
  refine ⟨given, returned, ?_, ?_⟩
  · intro some_line
    cases receipts with
    | issued unpaid paid => exact absurd rfl some_line
    | kept same unpaid => exact absurd rfl some_line
    | gaveBack same paid cancelled sublist =>
        have before : cell.book.order.stockHeld = false := by
          refine sound.coherent.unheld fun pending => paid ?_
          rw [pending]
          decide
        have later : done.book.order.stockHeld = false := by
          refine (own.sound sound).coherent.unheld ?_
          rw [state, cancelled]
          decide
        have charge : done.book.receipt.map Receipt.charge =
            cell.book.receipt.map Receipt.charge := receipt.trans same
        have issued := congrArg Option.isSome charge
        rw [Option.isSome_map, Option.isSome_map] at issued
        unfold holdEvent
        rw [before, later, issued]
        cases cell.book.receipt <;> rfl
  · intro listing before stored fixed
    have plates := writes.frames.plates listing
    have totals := writes.totals listing
    rw [Inventory.plate, Inventory.plate, stored, Option.map_some] at plates
    obtain ⟨moved, present, plate⟩ := Option.map_eq_some_iff.mp plates
    have format : moved.saleFormat = .fixedPrice := (congrArg Plate.saleFormat plate).trans fixed
    rw [stored, present, Option.map_some, Option.map_some, Option.some.injEq] at totals
    have counted : Counted after.inventory listing := by
      intro other same
      obtain rfl : other = moved := Option.mem_unique same present
      exact format
    have reserved := posts.reserved listing counted
    have sold := posts.sold listing counted
    have active : after.inventory.activeOn listing = sys.inventory.activeOn listing := by
      rw [Inventory.activeOn, Inventory.activeOn, reservations]
    simp only [Inventory.reservedOf, Inventory.soldOf, stored, present, Option.map_some,
      Option.getD_some, active] at reserved sold
    obtain ⟨held, bought⟩ := holdEvent_shares (own.sound sound) kept terms listing
    have first := before.balanced
    have last := moved.balanced
    have sum := add_mul (holdEvent cell.book done.book).reserves
      (holdEvent cell.book done.book).sells (linesOn listing cell.book.order.lines : ℤ)
    exact ⟨moved, present, by omega, by omega, by omega, totals⟩

/-! The law. -/

/-- The hold of an order along a run: every event fits the one before, an acquisition
is released or converted unless it stands, and an order that ends cancelled without a
sale has released what it acquired. -/
structure HoldLaw (events : List HoldEvent) (book : OrderBook) : Prop where
  fits : events.foldlM HoldEvent.advance false = some book.order.stockHeld
  acquired : events.count .acquired =
    events.count .released + events.count .converted + book.order.stockHeld.toNat
  sold : (events.map HoldEvent.sells).sum = book.receipt.isSome.toNat
  cancelled : book.order.state = .cancelled → book.receipt = none →
    events.count .acquired = events.count .released ∧ events.count .converted = 0 ∧
      events.count .retaken = 0

def StepPosts (before after : Sys) (cell done : Cell) : Prop :=
  ∃ given, done.returned = cell.returned ++ given ∧
    (given ≠ [] → holdEvent cell.book done.book = .kept) ∧
    ∀ listing row, before.inventory.listings.find? listing = some row →
      row.saleFormat = .fixedPrice → ∃ moved,
        after.inventory.listings.find? listing = some moved ∧
        HoldPosting cell.book.order.lines given (holdEvent cell.book done.book) listing row moved

theorem run_holdLaw {references : References} {allowed : Sys → Action → Prop}
    {labels : List Action} {sys : Sys} {id : OrderId} {cell : Cell}
    (meets : Runs.Meets (marketplace references) allowed emptySys labels)
    (ran : Runs.run (marketplace references) emptySys labels = some sys)
    (found : sys.cells.find? id = some cell) :
    HoldLaw (holdEvents references id emptySys labels) cell.book := by
  have start : Runs.Reachable (marketplace references) allowed emptySys := .start rfl
  obtain ⟨fits, total⟩ := @run_holdEvents references allowed id labels _ _ start meets ran
  have held : heldAt sys id = cell.book.order.stockHeld := by
    rw [heldAt, found, Option.any_some]
  have sold : soldAt sys id = cell.book.receipt.isSome := by
    rw [soldAt, found, Option.any_some]
  rw [held] at fits
  rw [sold] at total
  have acquired := HoldEvent.count_acquired fits
  have sound := reachable_sound (Runs.reachable_of_meets start meets ran) found
  refine ⟨fits, acquired, total, fun cancelled unpaid => ?_⟩
  have released : cell.book.order.stockHeld = false := by
    refine sound.coherent.unheld ?_
    rw [show cell.book.standing.state = .cancelled from cancelled]
    decide
  have unsold : ((holdEvents references id emptySys labels).map HoldEvent.sells).sum = 0 := by
    rw [unpaid] at total
    exact total
  obtain ⟨converted, retaken⟩ := HoldEvent.count_sales unsold
  rw [released, converted] at acquired
  exact ⟨acquired, converted, retaken⟩

/-- In a run in which no late money takes a part of its order, each hold is released or
sold once, and each step of a fixed-price order moves its own lines as its event says. -/
theorem holds_released_once (references : References) (labels : List Action) (sys : Sys)
    (meets : Runs.Meets (marketplace references) takesWhole emptySys labels)
    (ran : Runs.run (marketplace references) emptySys labels = some sys) :
    (∀ id cell, sys.cells.find? id = some cell → cell.book.order.auctionAggregateId = none →
      HoldLaw (holdEvents references id emptySys labels) cell.book) ∧
    (∀ id now step after cell, takesWhole sys (.order id now step) →
      sys.step references (.order id now step) = some after →
      sys.cells.find? id = some cell → cell.book.order.auctionAggregateId = none →
      ∃ done, after.cells.find? id = some done ∧ StepPosts sys after cell done) ∧
    ∀ id listing, sys.inventory.listings.find? id = some listing →
      listing.saleFormat = .fixedPrice →
      listing.reservedQuantity = sys.cells.sum (Cell.heldOn id) +
        sys.inventory.reservations.sum (Reservation.activeOn id) := by
  have reached := Runs.reachable_of_meets (.start rfl) meets ran
  have ledger := reachable_ledger reached
  refine ⟨fun id cell found _ => run_holdLaw meets ran found, ?_, ?_⟩
  · intro id now step after cell whole stepped found single
    obtain ⟨done, present, ran⟩ := order_step found stepped
    exact ⟨done, present, order_step_posts ledger found (reachable_sound reached found)
      (eachOrder_order whole found) single ran⟩
  · intro id listing found fixed
    have reserved := ledger.reserved id fun other same => by
      obtain rfl : other = listing := Option.mem_unique same found
      exact fixed
    rw [Inventory.reservedOf, found, Option.map_some, Option.getD_some] at reserved
    exact reserved

/-- A lamp is bound, expires, and is bought late: one release, then a sale. -/
theorem late_lamp_released_once :
    ∃ sys, Runs.run (marketplace sampleReferences) emptySys lateLamp = some sys ∧
      ∃ cell ∈ sys.cells.find? 7,
        HoldLaw (holdEvents sampleReferences 7 emptySys lateLamp) cell.book ∧
        (holdEvents sampleReferences 7 emptySys lateLamp).filter (· ≠ .kept) =
          [.acquired, .released, .retaken] := by
  have single : ∃ sys ∈ Runs.run (marketplace sampleReferences) emptySys lateLamp,
      ∃ cell ∈ sys.cells.find? 7, cell.book.order.auctionAggregateId = none := by
    decide +kernel
  obtain ⟨sys, ran, cell, found, single⟩ := single
  have law := (holds_released_once sampleReferences lateLamp sys (by decide +kernel) ran).1 7 cell
    found single
  exact ⟨sys, ran, cell, found, law, by decide +kernel⟩

/-- Late money takes the lamp, misses the vase, and leaves the lamp reserved for an
order that is cancelled and holds nothing. -/
theorem late_money_never_releases_lamp :
    ∃ sys, Runs.Reachable (marketplace sampleReferences) Runs.anyStep sys ∧
      ∃ after ∈ sys.step sampleReferences (.order 7 700 (.applyFiat none .processor)),
        ∃ cell ∈ sys.cells.find? 7, ∃ done ∈ after.cells.find? 7,
          cell.book.order.auctionAggregateId = none ∧
          done.book.order.state = .cancelled ∧ done.book.receipt = none ∧
          done.book.order.stockHeld = false ∧ done.returned = [] ∧
          ∃ row ∈ sys.inventory.listings.find? "lamp",
            ∃ moved ∈ after.inventory.listings.find? "lamp",
              row.saleFormat = .fixedPrice ∧ linesOn "lamp" cell.book.order.lines = 1 ∧
              moved.reservedQuantity = row.reservedQuantity + 1 ∧
                ¬ StepPosts sys after cell done := by
  obtain ⟨sys, reached, after, stepped, cell, found, done, present, single, cancelled, unpaid,
      free, kept, event, row, stored, moved, written, fixed, lines, taken⟩ :=
    Runs.exists_reachable_of_run (marketplace sampleReferences) rfl
      (lostLine "vase" ++ [ .order 7 700 (.verifyStripe "buyer" none) ])
      (fun sys => ∃ after ∈ sys.step sampleReferences (.order 7 700 (.applyFiat none .processor)),
        ∃ cell ∈ sys.cells.find? 7, ∃ done ∈ after.cells.find? 7,
          cell.book.order.auctionAggregateId = none ∧
          done.book.order.state = .cancelled ∧ done.book.receipt = none ∧
          done.book.order.stockHeld = false ∧ done.returned = [] ∧
          holdEvent cell.book done.book = .kept ∧
          ∃ row ∈ sys.inventory.listings.find? "lamp",
            ∃ moved ∈ after.inventory.listings.find? "lamp",
              row.saleFormat = .fixedPrice ∧ linesOn "lamp" cell.book.order.lines = 1 ∧
              moved.reservedQuantity = row.reservedQuantity + 1)
      (Runs.meets_anyStep _ _ _) (by decide +kernel)
  refine ⟨sys, reached, after, stepped, cell, found, done, present, single, cancelled, unpaid,
    free, kept, row, stored, moved, written, fixed, lines, taken, ?_⟩
  rintro ⟨given, -, -, posts⟩
  obtain ⟨other, same, posting⟩ := posts "lamp" row stored fixed
  obtain rfl : other = moved := Option.mem_unique same written
  have reserved := posting.reserved
  rw [event, lines, taken, HoldEvent.reserves] at reserved
  omega

end MarketplaceService
