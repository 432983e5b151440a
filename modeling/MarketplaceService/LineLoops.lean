import MarketplaceService.LateMoney
import Mathlib.Tactic.Ring

/-!
What a loop over an order's lines does to the stock. A loop either takes every
line or stops at the first one it cannot take, with the lines before it
written. A completed loop shifts each listing's columns by the units its lines
ask for; and whether a loop completes can be read off the columns before it.
-/

namespace MarketplaceService

/-! Lines on a listing. -/

@[simp]
theorem linesOn_nil (id : ListingId) : linesOn id [] = 0 := rfl

theorem linesOn_cons (id : ListingId) (line : Line) (rest : List Line) :
    linesOn id (line :: rest) =
      (if line.listing = id then line.quantity else 0) + linesOn id rest := by
  by_cases same : line.listing = id
  · simp [linesOn, same]
  · simp [linesOn, same]

theorem linesOn_append (id : ListingId) (left right : List Line) :
    linesOn id (left ++ right) = linesOn id left + linesOn id right := by
  simp [linesOn]

theorem linesOn_sublist (id : ListingId) {part lines : List Line} (within : part.Sublist lines) :
    linesOn id part ≤ linesOn id lines := by
  induction within with
  | slnil => exact Nat.le_refl _
  | cons line _ ih =>
      rw [linesOn_cons]
      omega
  | cons_cons line _ ih =>
      rw [linesOn_cons, linesOn_cons]
      omega

theorem linesOn_pos {line : Line} {lines : List Line} (member : line ∈ lines) :
    0 < linesOn line.listing lines := by
  induction lines with
  | nil => simp at member
  | cons head rest ih =>
      rw [linesOn_cons]
      rcases List.mem_cons.mp member with here | there
      · subst here
        have positive := line.quantity_pos
        simp only [if_true]
        omega
      · have positive := ih there
        omega

theorem linesOn_eq_zero {id : ListingId} {lines : List Line}
    (absent : ∀ line ∈ lines, line.listing ≠ id) : linesOn id lines = 0 := by
  induction lines with
  | nil => rfl
  | cons head rest ih =>
      rw [linesOn_cons, if_neg (absent head (by simp)),
        ih fun line member => absent line (by simp [member])]

/-! A failure that ends the transaction. -/

theorem orRollback_ok {result : Except Failure Unit × Inventory} {after : Inventory}
    (ran : orRollback result = .ok after) : result = (.ok (), after) := by
  obtain ⟨outcome, written⟩ := result
  cases outcome with
  | error failure => cases ran
  | ok done =>
      cases ran
      rfl

theorem orRollback_ok_iff (result : Except Failure Unit × Inventory) :
    (∃ after, orRollback result = .ok after) ↔ result.1 = .ok () := by
  obtain ⟨outcome, inventory⟩ := result
  cases outcome <;> simp [orRollback]

/-! The shift of a listing's columns. -/

/-- The reserved and sold columns moved by these amounts, available by what is
left over, and the listing's terms kept. -/
structure Shifted (reserved sold : ℤ) (before after : Listing) : Prop where
  available : (after.availableQuantity : ℤ) = before.availableQuantity - reserved - sold
  reserved : (after.reservedQuantity : ℤ) = before.reservedQuantity + reserved
  sold : (after.soldQuantity : ℤ) = before.soldQuantity + sold
  total : after.totalQuantity = before.totalQuantity
  saleFormat : after.saleFormat = before.saleFormat
  deletedAt : after.deletedAt = before.deletedAt
  recreatedAt : after.recreatedAt = before.recreatedAt
  currentVersion : after.currentVersion = before.currentVersion

theorem Shifted.refl (listing : Listing) : Shifted 0 0 listing listing := by
  constructor <;> simp

theorem Shifted.trans {r₁ s₁ r₂ s₂ : ℤ} {first second third : Listing}
    (left : Shifted r₁ s₁ first second) (right : Shifted r₂ s₂ second third) :
    Shifted (r₁ + r₂) (s₁ + s₂) first third where
  available := by rw [right.available, left.available]; ring
  reserved := by rw [right.reserved, left.reserved]; ring
  sold := by rw [right.sold, left.sold]; ring
  total := right.total.trans left.total
  saleFormat := right.saleFormat.trans left.saleFormat
  deletedAt := right.deletedAt.trans left.deletedAt
  recreatedAt := right.recreatedAt.trans left.recreatedAt
  currentVersion := right.currentVersion.trans left.currentVersion

theorem Shifted.accepts {r s : ℤ} {before after : Listing} (shifted : Shifted r s before after)
    (createdAt : Time) :
    after.acceptsCommitmentCreatedAt createdAt = before.acceptsCommitmentCreatedAt createdAt := by
  simp [Listing.acceptsCommitmentCreatedAt, Listing.isDeleted, shifted.deletedAt,
    shifted.recreatedAt]

theorem hold_shifted (listing : Listing) (quantity : ℕ)
    (enough : quantity ≤ listing.availableQuantity) :
    Shifted quantity 0 listing (listing.hold quantity enough) := by
  constructor <;> simp [Listing.hold]
  omega

theorem release_reserved_shifted (listing : Listing) (quantity : ℕ)
    (enough : quantity ≤ listing.held .reserved) :
    Shifted (-quantity) 0 listing (listing.release quantity .reserved enough) := by
  change quantity ≤ listing.reservedQuantity at enough
  constructor <;> simp [Listing.release]
  omega

theorem release_sold_shifted (listing : Listing) (quantity : ℕ)
    (enough : quantity ≤ listing.held .sold) :
    Shifted 0 (-quantity) listing (listing.release quantity .sold enough) := by
  change quantity ≤ listing.soldQuantity at enough
  constructor <;> simp [Listing.release]
  omega

theorem sell_shifted (listing : Listing) (quantity : ℕ)
    (enough : quantity ≤ listing.reservedQuantity) :
    Shifted (-quantity) quantity listing (listing.sell quantity enough) := by
  constructor <;> simp [Listing.sell]
  omega

/-- The same for a row that may be missing; none is added or removed. -/
def ShiftedAt (reserved sold : ℤ) (before after : Option Listing) : Prop :=
  match before with
  | none => after = none
  | some listing => ∃ moved, after = some moved ∧ Shifted reserved sold listing moved

theorem ShiftedAt.found {r s : ℤ} {before after : Option Listing} {listing : Listing}
    (shifted : ShiftedAt r s before after) (found : before = some listing) :
    ∃ moved, after = some moved ∧ Shifted r s listing moved := by
  subst found
  exact shifted

theorem ShiftedAt.missing {r s : ℤ} {before after : Option Listing}
    (shifted : ShiftedAt r s before after) (missing : before = none) : after = none := by
  subst missing
  exact shifted

/-! One loop. -/

/-- What a loop does with one line: it needs the listing ready and enough units
in a column, and it shifts the columns by multiples of the quantity. -/
structure LineMove (each : Line → Listing → Except Failure Listing) where
  column : Listing → ℕ
  ready : Listing → Prop
  reserved : ℤ
  sold : ℤ
  takes : ∀ line listing, (∃ moved, each line listing = .ok moved) ↔
    ready listing ∧ line.quantity ≤ column listing
  shifts : ∀ line listing moved, each line listing = .ok moved →
    Shifted (reserved * line.quantity) (sold * line.quantity) listing moved
  draws : ∀ line listing moved, each line listing = .ok moved →
    column moved + line.quantity = column listing
  keeps : ∀ line listing moved, each line listing = .ok moved → (ready moved ↔ ready listing)

section Loop

variable {each : Line → Listing → Except Failure Listing} {missing : Failure}

theorem forLines_other (lines : List Line) (inventory : Inventory) :
    (forLines each missing lines inventory).2 =
      { inventory with listings := (forLines each missing lines inventory).2.listings } := by
  induction lines generalizing inventory with
  | nil => rfl
  | cons line rest ih =>
      simp only [forLines]
      cases found : inventory.listings.find? line.listing with
      | none => rfl
      | some listing =>
          simp only
          cases stepped : each line listing with
          | error failure => rfl
          | ok moved =>
              simp only
              rw [ih]

theorem forLines_frame {lines : List Line} {inventory after : Inventory}
    {result : Except Failure Unit}
    (ran : forLines each missing lines inventory = (result, after)) :
    after.reservations = inventory.reservations ∧ after.drops = inventory.drops ∧
      after.dropPurchases = inventory.dropPurchases ∧
      after.dropListings = inventory.dropListings := by
  have other := @forLines_other each missing lines inventory
  rw [ran] at other
  simp only at other
  rw [other]
  exact ⟨rfl, rfl, rfl, rfl⟩

theorem forLines_stop {lines : List Line} {inventory after : Inventory} {failure : Failure}
    (stopped : forLines each missing lines inventory = (.error failure, after)) :
    ∃ taken line rest, lines = taken ++ line :: rest ∧
      forLines each missing taken inventory = (.ok (), after) ∧
      ∀ listing moved, after.listings.find? line.listing = some listing →
        each line listing ≠ .ok moved := by
  induction lines generalizing inventory with
  | nil => simp [forLines] at stopped
  | cons line rest ih =>
      simp only [forLines] at stopped
      cases found : inventory.listings.find? line.listing with
      | none =>
          simp only [found, Prod.mk.injEq] at stopped
          exact ⟨[], line, rest, rfl, by simp [forLines, stopped.2], by simp [← stopped.2, found]⟩
      | some listing =>
          cases stepped : each line listing with
          | error reason =>
              simp only [found, stepped, Prod.mk.injEq] at stopped
              refine ⟨[], line, rest, rfl, by simp [forLines, stopped.2], ?_⟩
              intro row moved present taken
              rw [← stopped.2, found] at present
              cases present
              rw [stepped] at taken
              cases taken
          | ok moved =>
              simp only [found, stepped] at stopped
              obtain ⟨taken, last, tail, split, ran, refuses⟩ := ih stopped
              refine ⟨line :: taken, last, tail, by simp [split], ?_, refuses⟩
              simp only [forLines, found, stepped]
              exact ran

theorem forLines_shifted (move : LineMove each) {lines : List Line} {inventory after : Inventory}
    (done : forLines each missing lines inventory = (.ok (), after)) (id : ListingId) :
    ShiftedAt (move.reserved * linesOn id lines) (move.sold * linesOn id lines)
      (inventory.listings.find? id) (after.listings.find? id) := by
  unfold ShiftedAt
  induction lines generalizing inventory with
  | nil =>
      simp only [forLines, Prod.mk.injEq, true_and] at done
      subst done
      cases found : inventory.listings.find? id with
      | none => rfl
      | some listing => exact ⟨listing, rfl, by simpa using Shifted.refl listing⟩
  | cons line rest ih =>
      simp only [forLines] at done
      cases found : inventory.listings.find? line.listing with
      | none => simp [found] at done
      | some listing =>
          cases stepped : each line listing with
          | error reason => simp [found, stepped] at done
          | ok moved =>
              simp only [found, stepped] at done
              have tail := ih done
              have first := move.shifts line listing moved stepped
              by_cases same : line.listing = id
              · subst same
                simp only [Keyed.Table.find?_set_self] at tail
                obtain ⟨last, at_last, shifted⟩ := tail
                rw [found]
                refine ⟨last, at_last, ?_⟩
                have both := first.trans shifted
                rw [linesOn_cons, if_pos rfl]
                push_cast
                rwa [mul_add, mul_add]
              · have other : id ≠ line.listing := fun eq => same eq.symm
                simp only [Keyed.Table.find?_set_ne _ _ other] at tail
                rw [linesOn_cons, if_neg same, Nat.zero_add]
                exact tail

/-- Whether a loop completes is decided by the stock before it: every listing
it names is there, ready, and has the units of all lines on it. -/
theorem forLines_completes (move : LineMove each) (lines : List Line) (inventory : Inventory) :
    (forLines each missing lines inventory).1 = .ok () ↔
      ∀ line ∈ lines, ∃ listing, inventory.listings.find? line.listing = some listing ∧
        move.ready listing ∧ linesOn line.listing lines ≤ move.column listing := by
  induction lines generalizing inventory with
  | nil => simp [forLines]
  | cons line rest ih =>
      simp only [forLines]
      cases found : inventory.listings.find? line.listing with
      | none =>
          simp only [reduceCtorEq, false_iff]
          intro all
          obtain ⟨listing, present, _⟩ := all line (by simp)
          rw [found] at present
          cases present
      | some listing =>
          cases stepped : each line listing with
          | error reason =>
              simp only [stepped, reduceCtorEq, false_iff]
              intro all
              obtain ⟨row, present, ready, enough⟩ := all line (by simp)
              rw [found] at present
              cases present
              rw [linesOn_cons, if_pos rfl] at enough
              have takes := (move.takes line listing).mpr ⟨ready, by omega⟩
              obtain ⟨moved, taken⟩ := takes
              rw [stepped] at taken
              cases taken
          | ok moved =>
              have drawn := move.draws line listing moved stepped
              have kept := move.keeps line listing moved stepped
              have takes := (move.takes line listing).mp ⟨moved, stepped⟩
              simp only [stepped]
              rw [ih]
              constructor
              · intro all
                have own : linesOn line.listing rest ≤ move.column moved := by
                  by_cases again : ∃ later ∈ rest, later.listing = line.listing
                  · obtain ⟨later, member, same⟩ := again
                    obtain ⟨row, present, _, enough⟩ := all later member
                    rw [same, Keyed.Table.find?_set_self] at present
                    cases present
                    rwa [same] at enough
                  · have none_left : linesOn line.listing rest = 0 :=
                      linesOn_eq_zero fun later member same => again ⟨later, member, same⟩
                    omega
                intro later member
                by_cases same : later.listing = line.listing
                · refine ⟨listing, by rw [same, found], takes.1, ?_⟩
                  rw [same, linesOn_cons, if_pos rfl]
                  omega
                · rcases List.mem_cons.mp member with here | there
                  · exact absurd (by rw [here]) same
                  · obtain ⟨row, present, ready, enough⟩ := all later there
                    rw [Keyed.Table.find?_set_ne _ _ same] at present
                    refine ⟨row, present, ready, ?_⟩
                    rw [linesOn_cons, if_neg fun eq => same eq.symm, Nat.zero_add]
                    exact enough
              · intro all later member
                by_cases same : later.listing = line.listing
                · obtain ⟨row, present, ready, enough⟩ := all line (by simp)
                  rw [found] at present
                  cases present
                  rw [linesOn_cons, if_pos rfl] at enough
                  refine ⟨moved, by rw [same, Keyed.Table.find?_set_self], kept.mpr ready, ?_⟩
                  rw [same]
                  omega
                · obtain ⟨row, present, ready, enough⟩ :=
                    all later (List.mem_cons_of_mem _ member)
                  refine ⟨row, by rw [Keyed.Table.find?_set_ne _ _ same, present], ready, ?_⟩
                  rw [linesOn_cons, if_neg fun eq => same eq.symm, Nat.zero_add] at enough
                  exact enough

end Loop

/-! The four loops of the service. -/

theorem reacquireLine_ok {createdAt : Time} {line : Line} {listing moved : Listing}
    (taken : reacquireLine createdAt line listing = .ok moved) :
    ∃ enough, moved = listing.hold line.quantity enough := by
  unfold reacquireLine at taken
  split at taken
  · split at taken <;> cases taken
    exact ⟨_, rfl⟩
  · cases taken

theorem acquireLine_ok {createdAt : Time} {line : Line} {listing moved : Listing}
    (taken : acquireLine createdAt line listing = .ok moved) :
    ∃ enough, moved = listing.hold line.quantity enough := by
  unfold acquireLine at taken
  split at taken
  · split at taken
    · cases taken
      exact ⟨_, rfl⟩
    · split at taken <;> cases taken
  · cases taken

theorem sellLine_ok {line : Line} {listing moved : Listing}
    (taken : sellLine line listing = .ok moved) :
    ∃ enough, moved = listing.sell line.quantity enough := by
  unfold sellLine at taken
  split at taken <;> cases taken
  exact ⟨_, rfl⟩

theorem releaseLine_ok {column : HeldQuantity} {line : Line} {listing moved : Listing}
    (taken : releaseLine column line listing = .ok moved) :
    ∃ enough, moved = listing.release line.quantity column enough := by
  unfold releaseLine at taken
  split at taken
  · rename_i enough
    cases taken
    exact ⟨enough, rfl⟩
  · cases taken

def reacquireMove (createdAt : Time) : LineMove (reacquireLine createdAt) where
  column := Listing.availableQuantity
  ready := fun listing => listing.acceptsCommitmentCreatedAt createdAt = true
  reserved := 1
  sold := 0
  takes := by
    intro line listing
    unfold reacquireLine
    by_cases enough : line.quantity ≤ listing.availableQuantity
    · by_cases accepts : listing.acceptsCommitmentCreatedAt createdAt = true <;>
        simp [enough, accepts]
    · simp [enough]
  shifts := by
    intro line listing moved taken
    obtain ⟨enough, rfl⟩ := reacquireLine_ok taken
    simpa using hold_shifted listing line.quantity enough
  draws := by
    intro line listing moved taken
    obtain ⟨enough, rfl⟩ := reacquireLine_ok taken
    simp only [Listing.hold]
    omega
  keeps := by
    intro line listing moved taken
    obtain ⟨enough, rfl⟩ := reacquireLine_ok taken
    rfl

def acquireMove (createdAt : Time) : LineMove (acquireLine createdAt) where
  column := Listing.availableQuantity
  ready := fun listing => listing.acceptsCommitmentCreatedAt createdAt = true
  reserved := 1
  sold := 0
  takes := by
    intro line listing
    unfold acquireLine
    by_cases accepts : listing.acceptsCommitmentCreatedAt createdAt = true
    · by_cases enough : line.quantity ≤ listing.availableQuantity
      · simp [enough, accepts]
      · simp only [accepts, enough, if_true, dif_neg, not_false_eq_true, and_false, iff_false]
        rintro ⟨moved, taken⟩
        split at taken <;> cases taken
    · simp [accepts]
  shifts := by
    intro line listing moved taken
    obtain ⟨enough, rfl⟩ := acquireLine_ok taken
    simpa using hold_shifted listing line.quantity enough
  draws := by
    intro line listing moved taken
    obtain ⟨enough, rfl⟩ := acquireLine_ok taken
    simp only [Listing.hold]
    omega
  keeps := by
    intro line listing moved taken
    obtain ⟨enough, rfl⟩ := acquireLine_ok taken
    rfl

def sellMove : LineMove sellLine where
  column := Listing.reservedQuantity
  ready := fun _ => True
  reserved := -1
  sold := 1
  takes := by
    intro line listing
    unfold sellLine
    by_cases enough : line.quantity ≤ listing.reservedQuantity <;> simp [enough]
  shifts := by
    intro line listing moved taken
    obtain ⟨enough, rfl⟩ := sellLine_ok taken
    simpa using sell_shifted listing line.quantity enough
  draws := by
    intro line listing moved taken
    obtain ⟨enough, rfl⟩ := sellLine_ok taken
    simp only [Listing.sell]
    omega
  keeps := by
    intro line listing moved _
    rfl

def releaseReservedMove : LineMove (releaseLine .reserved) where
  column := Listing.reservedQuantity
  ready := fun _ => True
  reserved := -1
  sold := 0
  takes := by
    intro line listing
    unfold releaseLine
    change _ ↔ True ∧ line.quantity ≤ listing.held .reserved
    by_cases enough : line.quantity ≤ listing.held .reserved <;> simp [enough]
  shifts := by
    intro line listing moved taken
    obtain ⟨enough, rfl⟩ := releaseLine_ok taken
    simpa using release_reserved_shifted listing line.quantity enough
  draws := by
    intro line listing moved taken
    obtain ⟨enough, rfl⟩ := releaseLine_ok taken
    change line.quantity ≤ listing.reservedQuantity at enough
    simp only [Listing.release]
    omega
  keeps := by
    intro line listing moved _
    rfl

def releaseSoldMove : LineMove (releaseLine .sold) where
  column := Listing.soldQuantity
  ready := fun _ => True
  reserved := 0
  sold := -1
  takes := by
    intro line listing
    unfold releaseLine
    change _ ↔ True ∧ line.quantity ≤ listing.held .sold
    by_cases enough : line.quantity ≤ listing.held .sold <;> simp [enough]
  shifts := by
    intro line listing moved taken
    obtain ⟨enough, rfl⟩ := releaseLine_ok taken
    simpa using release_sold_shifted listing line.quantity enough
  draws := by
    intro line listing moved taken
    obtain ⟨enough, rfl⟩ := releaseLine_ok taken
    change line.quantity ≤ listing.soldQuantity at enough
    simp only [Listing.release]
    omega
  keeps := by
    intro line listing moved _
    rfl

end MarketplaceService
