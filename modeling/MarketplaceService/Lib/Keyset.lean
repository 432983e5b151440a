import Mathlib.Data.List.Sort
import Mathlib.Order.Defs.LinearOrder

/-!
Keyset pages. A page is the first rows past a position, ascending by key; the
next page starts past the key of its last row. The module says what a page
holds and what it leaves for the next one, and what a walk over the pages of a
table that changes under it has seen at its end; it knows nothing about what a
row is.
-/

namespace Keyset

universe u v
variable {α : Type u} {κ : Type v} [LinearOrder κ]

def Past (after : Option κ) (key : κ) : Prop := ∀ position ∈ after, position < key

instance (after : Option κ) (key : κ) : Decidable (Past after key) :=
  match after with
  | none => .isTrue (by simp [Past])
  | some position => decidable_of_iff (position < key) (by simp [Past])

/-- The first `limit` rows past a position. -/
def page (key : α → κ) (after : Option κ) (limit : ℕ) (rows : List α) : List α :=
  ((rows.filter fun row => Past after (key row)).insertionSort fun a b => key a ≤ key b).take limit

variable {key : α → κ} {after : Option κ} {limit : ℕ} {rows : List α}

theorem mem_page {row : α} (listed : row ∈ page key after limit rows) :
    row ∈ rows ∧ Past after (key row) := by
  have sorted := List.mem_of_mem_take listed
  rw [List.mem_insertionSort, List.mem_filter] at sorted
  exact ⟨sorted.1, of_decide_eq_true sorted.2⟩

instance keyTotal : Std.Total (fun a b : α => key a ≤ key b) :=
  ⟨fun a b => le_total (key a) (key b)⟩

instance keyTrans : IsTrans α (fun a b : α => key a ≤ key b) :=
  ⟨fun _ _ _ first second => le_trans first second⟩

theorem page_pairwise :
    (page key after limit rows).Pairwise fun a b => key a ≤ key b :=
  (List.pairwise_insertionSort _ _).sublist (List.take_sublist _ _)

theorem page_le_last {row last : α} (listed : row ∈ page key after limit rows)
    (ends : (page key after limit rows).getLast? = some last) : key row ≤ key last := by
  obtain ⟨front, shape⟩ := List.getLast?_eq_some_iff.mp ends
  have ordered : (page key after limit rows).Pairwise fun a b => key a ≤ key b := page_pairwise
  rw [shape] at listed ordered
  rcases List.mem_append.mp listed with early | final
  · exact (List.pairwise_append.mp ordered).2.2 row early last (List.mem_singleton_self last)
  · rw [List.mem_singleton.mp final]

theorem page_covers {row : α} (positive : 0 < limit) (present : row ∈ rows)
    (past : Past after (key row)) :
    row ∈ page key after limit rows ∨
      ∃ last, (page key after limit rows).getLast? = some last ∧ key last ≤ key row := by
  set sorted := (rows.filter fun row => Past after (key row)).insertionSort
    fun a b => key a ≤ key b with sorted_eq
  have member : row ∈ sorted := by
    rw [sorted_eq, List.mem_insertionSort, List.mem_filter]
    exact ⟨present, decide_eq_true past⟩
  have ordered : sorted.Pairwise fun a b => key a ≤ key b := List.pairwise_insertionSort _ _
  rw [← List.take_append_drop limit sorted] at member ordered
  rcases List.mem_append.mp member with listed | left
  · exact .inl listed
  · right
    have full : limit < sorted.length := by
      by_contra short
      rw [List.drop_eq_nil_of_le (Nat.le_of_not_lt short)] at left
      cases left
    have nonempty : sorted.take limit ≠ [] := by
      intro empty
      have length := congrArg List.length empty
      rw [List.length_take, Nat.min_eq_left full.le, List.length_nil] at length
      omega
    refine ⟨(sorted.take limit).getLast nonempty, List.getLast?_eq_getLast_of_ne_nil nonempty, ?_⟩
    exact (List.pairwise_append.mp ordered).2.2 _ (List.getLast_mem nonempty) row left

theorem page_whole {row : α} (short : (page key after limit rows).length < limit)
    (present : row ∈ rows) (past : Past after (key row)) : row ∈ page key after limit rows := by
  unfold page at short ⊢
  rw [List.length_take] at short
  rw [List.take_of_length_le (by omega), List.mem_insertionSort, List.mem_filter]
  exact ⟨present, decide_eq_true past⟩

theorem page_nil {row : α} (positive : 0 < limit) (empty : page key after limit rows = [])
    (present : row ∈ rows) : ¬ Past after (key row) := by
  intro past
  rcases page_covers positive present past with listed | ⟨last, ends, -⟩
  · rw [empty] at listed
    cases listed
  · rw [empty] at ends
    cases ends

/-! Walks. -/

/-- One read of a walk: the rows that the table holds then, the position and the
limit. -/
structure Read (α : Type u) (κ : Type v) where
  rows : List α
  after : Option κ
  limit : ℕ

namespace Read

def fetched (key : α → κ) (read : Read α κ) : List α :=
  page key read.after (read.limit + 1) read.rows

def items (key : α → κ) (read : Read α κ) : List α := (read.fetched key).take read.limit

/-- The position past the items, if more was fetched. -/
def next (key : α → κ) (read : Read α κ) : Option κ :=
  if read.limit < (read.fetched key).length then (read.items key).getLast?.map key else none

variable {read : Read α κ}

theorem items_eq_page : read.items key = page key read.after read.limit read.rows := by
  unfold items fetched page
  rw [List.take_take, Nat.min_eq_left (Nat.le_succ _)]

theorem items_le_next {row : α} {position : κ} (listed : row ∈ read.items key)
    (next : read.next key = some position) : key row ≤ position := by
  obtain ⟨-, next⟩ := Option.ite_none_right_eq_some.mp next
  obtain ⟨last, ends, rfl⟩ := Option.map_eq_some_iff.mp next
  rw [items_eq_page] at listed ends
  exact page_le_last listed ends

theorem after_lt_next {position : κ} (next : read.next key = some position) :
    Past read.after position := by
  obtain ⟨-, next⟩ := Option.ite_none_right_eq_some.mp next
  obtain ⟨last, ends, rfl⟩ := Option.map_eq_some_iff.mp next
  rw [items_eq_page] at ends
  exact (mem_page (List.mem_of_getLast? ends)).2

theorem leaves {row : α} (positive : 0 < read.limit) (present : row ∈ read.rows)
    (distinct : ∀ other ∈ read.rows, key other = key row → other = row)
    (past : Past read.after (key row)) :
    row ∈ read.items key ∨ ∃ position, read.next key = some position ∧ position < key row := by
  by_cases listed : row ∈ read.items key
  · exact .inl listed
  right
  have more : read.limit < (read.fetched key).length := by
    -- without one more row the items are all that stands past the position
    by_contra short
    have fetched : row ∈ read.fetched key :=
      page_whole (by unfold fetched at short; omega) present past
    rw [← List.take_of_length_le (Nat.le_of_not_lt short)] at fetched
    exact listed fetched
  rw [items_eq_page] at listed
  rcases page_covers positive present past with member | ⟨last, ends, le⟩
  · exact absurd member listed
  · refine ⟨key last, ?_, lt_of_le_of_ne le ?_⟩
    · rw [next, if_pos more, items_eq_page, ends, Option.map_some]
    · intro same
      have member := List.mem_of_getLast? ends
      rw [distinct last (mem_page member).1 same] at member
      exact listed member

end Read

/-- The second read goes on where the first one ended. -/
def Follows (key : α → κ) (first second : Read α κ) : Prop :=
  ∃ position, first.next key = some position ∧ second.after = some position

/-- The second read starts at or past the position that the first one left. -/
def Behind (key : α → κ) (first second : Read α κ) : Prop :=
  ∃ position, first.next key = some position ∧ ∃ later, second.after = some later ∧ position ≤ later

theorem Follows.behind {first second : Read α κ} (follows : Follows key first second) :
    Behind key first second := by
  obtain ⟨position, left, taken⟩ := follows
  exact ⟨position, left, position, taken, le_rfl⟩

instance behindTrans : IsTrans (Read α κ) (Behind key) where
  trans first second third := by
    rintro ⟨position, left, later, taken, le⟩ ⟨next, ends, last, started, more⟩
    have past := Read.after_lt_next ends later taken
    exact ⟨position, left, last, started, le.trans (past.le.trans more)⟩

/-- No two reads of a walk show keys out of order: what is shown again stands
under a greater key. -/
theorem shown_again {reads : List (Read α κ)} (walk : reads.IsChain (Follows key)) :
    reads.Pairwise fun first second => ∀ row ∈ first.items key, ∀ later ∈ second.items key,
      key row < key later := by
  have behind : reads.Pairwise (Behind key) :=
    List.isChain_iff_pairwise.mp (walk.imp fun _ _ follows => follows.behind)
  refine behind.imp ?_
  rintro first second ⟨position, left, start, taken, le⟩ row listed later shown
  rw [Read.items_eq_page] at shown
  have past := (mem_page shown).2 start taken
  exact (Read.items_le_next listed left).trans_lt (le.trans_lt past)

theorem walk_shows {ι : Type*} {identity : α → ι} {wanted : ι} {reads : List (Read α κ)}
    (walk : reads.IsChain (Follows key)) (positive : ∀ read ∈ reads, 0 < read.limit)
    (distinct : ∀ read ∈ reads, ∀ row ∈ read.rows, ∀ other ∈ read.rows,
      key other = key row → other = row)
    (stays : ∀ read ∈ reads, ∃ row ∈ read.rows, identity row = wanted)
    (advances : reads.IsChain fun first second => ∀ row ∈ first.rows, ∀ later ∈ second.rows,
      identity row = wanted → identity later = wanted → key row ≤ key later)
    (starts : ∀ first ∈ reads.head?, ∀ row ∈ first.rows, identity row = wanted →
      Past first.after (key row))
    (ends : ∃ last, reads.getLast? = some last ∧ last.next key = none) :
    ∃ read ∈ reads, ∃ row ∈ read.items key, identity row = wanted := by
  induction reads with
  | nil =>
      obtain ⟨last, found, -⟩ := ends
      cases found
  | cons read rest ih =>
      obtain ⟨row, present, named⟩ := stays read (List.mem_cons_self ..)
      have past := starts read rfl row present named
      rcases read.leaves (positive read (List.mem_cons_self ..)) present
        (distinct read (List.mem_cons_self ..) row present) past with
        listed | ⟨position, left, below⟩
      · exact ⟨read, List.mem_cons_self .., row, listed, named⟩
      cases rest with
      | nil =>
          obtain ⟨last, found, finished⟩ := ends
          obtain rfl : read = last := by simpa using found
          rw [left] at finished
          cases finished
      | cons second tail =>
          rw [List.isChain_cons_cons] at walk advances
          obtain ⟨reached, ending, finished⟩ := ends
          rw [List.getLast?_cons_cons] at ending
          have shown := ih walk.2
            (fun other member => positive other (List.mem_cons_of_mem _ member))
            (fun other member => distinct other (List.mem_cons_of_mem _ member))
            (fun other member => stays other (List.mem_cons_of_mem _ member)) advances.2 ?_
            ⟨reached, ending, finished⟩
          · obtain ⟨other, member, shown⟩ := shown
            exact ⟨other, List.mem_cons_of_mem _ member, shown⟩
          · -- the key is no less than it was when the first read left it behind its end
            intro first same later found called
            cases same
            obtain ⟨start, ended, taken⟩ := walk.1
            obtain rfl : position = start := Option.some.inj (left.symm.trans ended)
            rw [taken]
            intro place at_
            cases at_
            exact below.trans_le (advances.1 row present later found named called)

end Keyset
