import Mathlib.Algebra.GroupWithZero.Nat
import Mathlib.Algebra.Order.BigOperators.Group.List
import Mathlib.Algebra.Order.Group.Nat
import Mathlib.Data.List.Nodup

/-!
Keyed tables. A table keeps its rows as a list and carries the proof that no
key has two rows, so a keyed read or write addresses one row at most. The
module gives the read-after-write rules and the rules for sums over all rows;
it knows nothing about what a row holds.
-/

namespace Keyed

universe u v
variable {K : Type u} {V : Type v} [DecidableEq K]

def lookup (key : K) : List (K × V) → Option V
  | [] => none
  | (k, row) :: rest => if k = key then some row else lookup key rest

def put (key : K) (row : V) : List (K × V) → List (K × V)
  | [] => [(key, row)]
  | (k, old) :: rest =>
      if k = key then (k, row) :: rest else (k, old) :: put key row rest

theorem put_keys (key : K) (row : V) (rows : List (K × V)) :
    (put key row rows).map Prod.fst =
      if key ∈ rows.map Prod.fst then rows.map Prod.fst
      else rows.map Prod.fst ++ [key] := by
  induction rows with
  | nil => simp [put]
  | cons head rest ih =>
      obtain ⟨k, old⟩ := head
      by_cases same : k = key
      · simp [put, same]
      · have other : key ≠ k := fun eq => same eq.symm
        by_cases hit : key ∈ rest.map Prod.fst
        · simp only [put, same, if_false, List.map_cons, ih, hit, if_true, List.mem_cons,
            or_true]
        · simp only [put, same, if_false, List.map_cons, ih, hit, List.mem_cons, other,
            or_self, List.cons_append]

theorem put_nodup (key : K) (row : V) (rows : List (K × V))
    (unique : (rows.map Prod.fst).Nodup) :
    ((put key row rows).map Prod.fst).Nodup := by
  rw [put_keys]
  by_cases hit : key ∈ rows.map Prod.fst
  · rwa [if_pos hit]
  · rw [if_neg hit]
    exact List.Nodup.append unique (List.nodup_singleton key) (by simpa using hit)

theorem lookup_put (key other : K) (row : V) (rows : List (K × V)) :
    lookup other (put key row rows) =
      if other = key then some row else lookup other rows := by
  induction rows with
  | nil =>
      by_cases same : other = key
      · simp [put, lookup, same]
      · have rev : key ≠ other := fun eq => same eq.symm
        simp [put, lookup, same, rev]
  | cons head rest ih =>
      obtain ⟨k, old⟩ := head
      by_cases hit : k = key
      · subst hit
        by_cases same : other = k
        · simp [put, lookup, same]
        · have rev : k ≠ other := fun eq => same eq.symm
          simp [put, lookup, same, rev]
      · by_cases found : k = other
        · subst found
          simp [put, lookup, hit]
        · simp [put, lookup, hit, found, ih]

theorem scan_put_of_miss {hit : K × V → Bool} {key : K} (row : V) (rows : List (K × V))
    (miss : ∀ value, hit (key, value) = false) :
    (put key row rows).find? hit = rows.find? hit := by
  induction rows with
  | nil => simp [put, miss]
  | cons head rest ih =>
      obtain ⟨k, old⟩ := head
      by_cases same : k = key
      · simp [put, same, miss]
      · simp only [put, same, if_false, List.find?_cons, ih]

theorem scan_put_of_none {hit : K × V → Bool} {key : K} {row : V} {rows : List (K × V)}
    (fresh : rows.find? hit = none) (stops : hit (key, row) = true) :
    (put key row rows).find? hit = some (key, row) := by
  induction rows with
  | nil => simp [put, stops]
  | cons head rest ih =>
      obtain ⟨k, old⟩ := head
      rw [List.find?_cons] at fresh
      split at fresh
      · cases fresh
      · rename_i past
        by_cases same : k = key
        · simp [put, same, stops]
        · simp only [put, same, if_false, List.find?_cons, past, ih fresh]

theorem lookup_none_iff (key : K) (rows : List (K × V)) :
    lookup key rows = none ↔ key ∉ rows.map Prod.fst := by
  induction rows with
  | nil => simp [lookup]
  | cons head rest ih =>
      obtain ⟨k, row⟩ := head
      by_cases same : k = key
      · simp [lookup, same]
      · have rev : key ≠ k := fun eq => same eq.symm
        simp [lookup, same, rev, ih]

theorem lookup_mem (key : K) (row : V) (rows : List (K × V))
    (found : lookup key rows = some row) : (key, row) ∈ rows := by
  induction rows with
  | nil => simp [lookup] at found
  | cons head rest ih =>
      obtain ⟨k, old⟩ := head
      by_cases same : k = key
      · simp [lookup, same] at found
        simp [same, found]
      · simp [lookup, same] at found
        exact List.mem_cons_of_mem _ (ih found)

theorem lookup_of_mem (key : K) (row : V) (rows : List (K × V))
    (unique : (rows.map Prod.fst).Nodup) (member : (key, row) ∈ rows) :
    lookup key rows = some row := by
  induction rows with
  | nil => simp at member
  | cons head rest ih =>
      obtain ⟨k, old⟩ := head
      simp only [List.map_cons, List.nodup_cons] at unique
      rcases List.mem_cons.mp member with here | there
      · cases here
        simp [lookup]
      · have present : key ∈ rest.map Prod.fst :=
          List.mem_map.mpr ⟨(key, row), there, rfl⟩
        have other : k ≠ key := by
          intro same
          exact unique.1 (same ▸ present)
        simp [lookup, other, ih unique.2 there]

def total (measure : V → ℕ) (rows : List (K × V)) : ℕ :=
  (rows.map fun row => measure row.2).sum

theorem sum_put_of_lookup (measure : V → ℕ) {key : K} {old : V} (row : V)
    (rows : List (K × V)) (found : lookup key rows = some old) :
    total measure (put key row rows) + measure old = total measure rows + measure row := by
  induction rows with
  | nil => simp [lookup] at found
  | cons head rest ih =>
      obtain ⟨k, r⟩ := head
      by_cases same : k = key
      · simp only [lookup, same, if_true, Option.some.injEq] at found
        subst found
        simp only [total, put, same, if_true, List.map_cons, List.sum_cons]
        omega
      · simp only [lookup, same, if_false] at found
        have tail := ih found
        simp only [total, put, same, if_false, List.map_cons, List.sum_cons] at tail ⊢
        omega

theorem sum_put_of_fresh (measure : V → ℕ) {key : K} (row : V) (rows : List (K × V))
    (fresh : lookup key rows = none) :
    total measure (put key row rows) = total measure rows + measure row := by
  induction rows with
  | nil => simp [total, put]
  | cons head rest ih =>
      obtain ⟨k, r⟩ := head
      by_cases same : k = key
      · simp [lookup, same] at fresh
      · simp only [lookup, same, if_false] at fresh
        have tail := ih fresh
        simp only [total, put, same, if_false, List.map_cons, List.sum_cons] at tail ⊢
        omega

omit [DecidableEq K] in
theorem le_total_of_mem (measure : V → ℕ) (row : K × V) (rows : List (K × V))
    (member : row ∈ rows) : measure row.2 ≤ total measure rows := by
  induction rows with
  | nil => simp at member
  | cons head rest ih =>
      simp only [total, List.map_cons, List.sum_cons]
      rcases List.mem_cons.mp member with here | there
      · subst here
        omega
      · have tail := ih there
        simp only [total] at tail
        omega

/-- A keyed table: its rows, and the proof that keys do not repeat. -/
structure Table (K : Type u) (V : Type v) where
  rows : List (K × V)
  nodup : (rows.map Prod.fst).Nodup
deriving DecidableEq

namespace Table

def empty : Table K V := ⟨[], List.nodup_nil⟩

def find? (table : Table K V) (key : K) : Option V := lookup key table.rows

def set (table : Table K V) (key : K) (row : V) : Table K V :=
  ⟨put key row table.rows, put_nodup key row table.rows table.nodup⟩

/-- The guarded multi-row update: every row that meets `hit` is rewritten. -/
def updateWhere (table : Table K V) (hit : V → Bool) (change : V → V) : Table K V :=
  ⟨table.rows.map fun row => (row.1, if hit row.2 then change row.2 else row.2), by
    rw [List.map_map]
    exact table.nodup⟩

def mapRows (table : Table K V) (change : K → V → V) : Table K V :=
  ⟨table.rows.map fun row => (row.1, change row.1 row.2), by
    rw [List.map_map]
    exact table.nodup⟩

/-- The rows whose keys are not kept are deleted. -/
def keep (table : Table K V) (kept : K → Bool) : Table K V :=
  ⟨table.rows.filter fun row => kept row.1,
    table.nodup.sublist (List.filter_sublist.map Prod.fst)⟩

def countWhere (table : Table K V) (hit : V → Bool) : ℕ :=
  table.rows.countP fun row => hit row.2

def sum (table : Table K V) (measure : V → ℕ) : ℕ := total measure table.rows

@[simp]
theorem find?_empty (key : K) : (empty : Table K V).find? key = none := rfl

@[simp]
theorem find?_set_self (table : Table K V) (key : K) (row : V) :
    (table.set key row).find? key = some row := by
  simp [find?, set, lookup_put]

theorem find?_set_ne (table : Table K V) {key other : K} (row : V) (ne : other ≠ key) :
    (table.set key row).find? other = table.find? other := by
  simp [find?, set, lookup_put, ne]

theorem find?_set (table : Table K V) (key other : K) (row : V) :
    (table.set key row).find? other =
      if other = key then some row else table.find? other :=
  lookup_put key other row table.rows

theorem find?_updateWhere (table : Table K V) (hit : V → Bool) (change : V → V) (key : K) :
    (table.updateWhere hit change).find? key =
      (table.find? key).map fun row => if hit row then change row else row := by
  change lookup key (table.rows.map _) = (lookup key table.rows).map _
  induction table.rows with
  | nil => rfl
  | cons head rest ih =>
      obtain ⟨k, row⟩ := head
      by_cases same : k = key
      · simp [lookup, same]
      · simpa [lookup, same] using ih

theorem find?_mapRows (table : Table K V) (change : K → V → V) (key : K) :
    (table.mapRows change).find? key = (table.find? key).map (change key) := by
  simp only [find?, mapRows]
  generalize table.rows = rows
  induction rows with
  | nil => rfl
  | cons head rest ih =>
      obtain ⟨k, row⟩ := head
      by_cases same : k = key
      · subst same
        simp [lookup]
      · simpa [lookup, same] using ih

theorem find?_keep (table : Table K V) (kept : K → Bool) (key : K) :
    (table.keep kept).find? key = if kept key then table.find? key else none := by
  simp only [find?, keep]
  generalize table.rows = rows
  induction rows with
  | nil => simp [lookup]
  | cons head rest ih =>
      obtain ⟨k, row⟩ := head
      by_cases same : k = key
      · subst same
        cases holds : kept k with
        | true => simp [lookup, holds]
        | false => simpa [lookup, holds] using ih
      · cases holds : kept k with
        | true => simpa [lookup, holds, same] using ih
        | false => simpa [lookup, holds, same] using ih

theorem countWhere_ne_zero_iff (table : Table K V) (hit : V → Bool) :
    table.countWhere hit ≠ 0 ↔ ∃ key row, table.find? key = some row ∧ hit row = true := by
  simp only [countWhere, ne_eq, List.countP_eq_zero, not_forall, not_not]
  constructor
  · rintro ⟨row, member, met⟩
    exact ⟨row.1, row.2, lookup_of_mem row.1 row.2 table.rows table.nodup member, met⟩
  · rintro ⟨key, row, found, met⟩
    exact ⟨(key, row), lookup_mem key row table.rows found, met⟩

omit [DecidableEq K] in
@[simp]
theorem sum_empty (measure : V → ℕ) : (empty : Table K V).sum measure = 0 := rfl

theorem sum_set_of_find? (table : Table K V) (measure : V → ℕ) {key : K} {old : V} (row : V)
    (found : table.find? key = some old) :
    (table.set key row).sum measure + measure old = table.sum measure + measure row :=
  sum_put_of_lookup measure row table.rows found

theorem sum_set_of_fresh (table : Table K V) (measure : V → ℕ) {key : K} (row : V)
    (fresh : table.find? key = none) :
    (table.set key row).sum measure = table.sum measure + measure row :=
  sum_put_of_fresh measure row table.rows fresh

omit [DecidableEq K] in
theorem sum_updateWhere_of_same (table : Table K V) (hit : V → Bool) (change : V → V)
    (measure : V → ℕ) (same : ∀ row, hit row = true → measure (change row) = measure row) :
    (table.updateWhere hit change).sum measure = table.sum measure := by
  simp only [sum, total, updateWhere, List.map_map]
  congr 1
  refine List.map_congr_left fun row _ => ?_
  by_cases met : hit row.2 = true
  · simp [met, same row.2 met]
  · simp [met]

theorem sum_updateWhere_le (table : Table K V) (hit : V → Bool) (change : V → V)
    (measure : V → ℕ)
    (lowers : ∀ key row, table.find? key = some row → hit row = true →
      measure (change row) ≤ measure row) :
    (table.updateWhere hit change).sum measure ≤ table.sum measure := by
  simp only [sum, total, updateWhere, List.map_map]
  apply List.sum_le_sum
  intro row member
  have found := lookup_of_mem row.1 row.2 table.rows table.nodup member
  by_cases met : hit row.2 = true
  · simpa [met] using lowers row.1 row.2 found met
  · simp [met]

theorem sum_le_sum (table : Table K V) (small large : V → ℕ)
    (below : ∀ key row, table.find? key = some row → small row ≤ large row) :
    table.sum small ≤ table.sum large := by
  apply List.sum_le_sum
  intro row member
  exact below row.1 row.2 (lookup_of_mem row.1 row.2 table.rows table.nodup member)

theorem sum_eq_zero (table : Table K V) (measure : V → ℕ)
    (nothing : ∀ key row, table.find? key = some row → measure row = 0) :
    table.sum measure = 0 := by
  have bound := table.sum_le_sum measure (fun _ => 0)
    fun key row found => (nothing key row found).le
  have zeros : table.sum (fun _ => 0) = 0 := by simp [sum, total]
  omega

theorem sum_eq_single (table : Table K V) (measure : V → ℕ) {key : K} {row : V}
    (found : table.find? key = some row)
    (nothing : ∀ other kept, other ≠ key → table.find? other = some kept → measure kept = 0) :
    table.sum measure = measure row := by
  obtain ⟨rows, nodup⟩ := table
  simp only [sum, find?] at found nothing ⊢
  induction rows with
  | nil => cases found
  | cons head rest ih =>
      obtain ⟨k, first⟩ := head
      simp only [List.map_cons, List.nodup_cons] at nodup
      by_cases same : k = key
      · subst same
        simp only [lookup, if_true, Option.some.injEq] at found
        have zeros : total measure rest = 0 := by
          apply List.sum_eq_zero
          intro share member
          obtain ⟨kept, present, rfl⟩ := List.mem_map.mp member
          have key : kept.1 ∈ rest.map Prod.fst := List.mem_map_of_mem present
          have apart : kept.1 ≠ k := fun eq => nodup.1 (eq ▸ key)
          apply nothing kept.1 kept.2 apart
          rw [lookup, if_neg apart.symm]
          exact lookup_of_mem kept.1 kept.2 rest nodup.2 present
        simp only [total, List.map_cons, List.sum_cons, found] at zeros ⊢
        omega
      · rw [lookup, if_neg same] at found
        have alone : measure first = 0 := nothing k first same (by simp [lookup])
        have tail := ih nodup.2 found (by
          intro other kept apart present
          by_cases head : k = other
          · subst head
            have key : k ∈ rest.map Prod.fst :=
              List.mem_map.mpr ⟨(k, kept), lookup_mem k kept rest present, rfl⟩
            exact (nodup.1 key).elim
          · exact nothing other kept apart (by rw [lookup, if_neg head]; exact present))
        simp only [total, List.map_cons, List.sum_cons] at tail ⊢
        omega

theorem le_sum_of_find? (table : Table K V) (measure : V → ℕ) {key : K} {row : V}
    (found : table.find? key = some row) : measure row ≤ table.sum measure :=
  le_total_of_mem measure (key, row) table.rows (lookup_mem key row table.rows found)

omit [DecidableEq K] in
theorem sum_add_of_rows (table : Table K V) (left right whole : V → ℕ)
    (splits : ∀ row ∈ table.rows, left row.2 + right row.2 = whole row.2) :
    table.sum left + table.sum right = table.sum whole := by
  unfold sum
  generalize table.rows = rows at splits
  induction rows with
  | nil => rfl
  | cons row rest ih =>
      have first := splits row List.mem_cons_self
      have others := ih fun other member => splits other (List.mem_cons_of_mem row member)
      simp only [total, List.map_cons, List.sum_cons] at others ⊢
      omega

theorem find?_of_mem (table : Table K V) {row : K × V} (member : row ∈ table.rows) :
    table.find? row.1 = some row.2 :=
  lookup_of_mem row.1 row.2 table.rows table.nodup member

end Table

end Keyed
