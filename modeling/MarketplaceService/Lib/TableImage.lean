import MarketplaceService.Lib.Table

/-!
Images of keyed tables. A table whose rows are read through a function keeps its
keys, and keyed writes, rewrites and deletions commute with the reading.
-/

namespace Keyed.Table

universe u v w
variable {K : Type u} {V : Type v} {W : Type w} [DecidableEq K]

/-- Every row is read through a function, with its key known. -/
def image (table : Table K V) (read : K → V → W) : Table K W :=
  ⟨table.rows.map fun row => (row.1, read row.1 row.2), by
    rw [List.map_map]
    exact table.nodup⟩

def keepRows (table : Table K V) (kept : K → V → Bool) : Table K V :=
  ⟨table.rows.filter fun row => kept row.1 row.2,
    table.nodup.sublist (List.filter_sublist.map Prod.fst)⟩

theorem mem_rows_iff (table : Table K V) {key : K} {row : V} :
    (key, row) ∈ table.rows ↔ table.find? key = some row :=
  ⟨lookup_of_mem key row table.rows table.nodup, lookup_mem key row table.rows⟩

theorem find?_image (table : Table K V) (read : K → V → W) (key : K) :
    (table.image read).find? key = (table.find? key).map (read key) := by
  simp only [find?, image]
  generalize table.rows = rows
  induction rows with
  | nil => rfl
  | cons head rest ih =>
      obtain ⟨k, row⟩ := head
      by_cases same : k = key
      · subst same
        simp [lookup]
      · simpa [lookup, same] using ih

theorem find?_keepRows (table : Table K V) (kept : K → V → Bool) (key : K) :
    (table.keepRows kept).find? key = (table.find? key).filter (kept key) := by
  cases found : table.find? key with
  | none =>
      rw [Option.filter_none]
      cases left : (table.keepRows kept).find? key with
      | none => rfl
      | some row =>
          have member := List.mem_of_mem_filter ((table.keepRows kept).mem_rows_iff.mpr left)
          rw [table.mem_rows_iff, found] at member
          cases member
  | some row =>
      have member := table.mem_rows_iff.mpr found
      cases holds : kept key row with
      | true =>
          rw [Option.filter_some_pos holds]
          exact (table.keepRows kept).mem_rows_iff.mp (List.mem_filter.mpr ⟨member, holds⟩)
      | false =>
          rw [Option.filter_some_neg (by simp [holds])]
          cases left : (table.keepRows kept).find? key with
          | none => rfl
          | some other =>
              have stays := List.mem_filter.mp ((table.keepRows kept).mem_rows_iff.mpr left)
              have same : table.find? key = some other := table.mem_rows_iff.mp stays.1
              rw [found, Option.some.injEq] at same
              subst same
              rw [holds] at stays
              cases stays.2

theorem put_image (read : K → V → W) (key : K) (row : V) (rows : List (K × V)) :
    (put key row rows).map (fun entry => (entry.1, read entry.1 entry.2)) =
      put key (read key row) (rows.map fun entry => (entry.1, read entry.1 entry.2)) := by
  induction rows with
  | nil => rfl
  | cons head rest ih =>
      obtain ⟨k, old⟩ := head
      by_cases same : k = key
      · subst same
        simp [put]
      · simp [put, same, ih]

theorem put_eq_self {key : K} {row : V} {rows : List (K × V)} (found : lookup key rows = some row) :
    put key row rows = rows := by
  induction rows with
  | nil => cases found
  | cons head rest ih =>
      obtain ⟨k, old⟩ := head
      by_cases same : k = key
      · simp only [lookup, same, if_true, Option.some.injEq] at found
        simp [put, same, found]
      · simp only [lookup, same, if_false] at found
        simp [put, same, ih found]

/-- Writing what stands there changes nothing. -/
theorem set_eq_self (table : Table K V) {key : K} {row : V} (found : table.find? key = some row) :
    table.set key row = table := by
  obtain ⟨rows, nodup⟩ := table
  simp only [set, mk.injEq]
  exact put_eq_self found

theorem image_set (table : Table K V) (read : K → V → W) (key : K) (row : V) :
    (table.set key row).image read = (table.image read).set key (read key row) := by
  simp only [image, set, mk.injEq]
  exact put_image read key row table.rows

theorem image_set_same (table : Table K V) (read : K → V → W) {key : K} {old row : V}
    (found : table.find? key = some old) (same : read key row = read key old) :
    (table.set key row).image read = table.image read := by
  rw [image_set, same]
  apply set_eq_self
  rw [find?_image, found, Option.map_some]

omit [DecidableEq K] in
theorem image_mapRows (table : Table K V) (read : K → V → W) (change : K → V → V)
    (changed : K → W → W)
    (agrees : ∀ key row, read key (change key row) = changed key (read key row)) :
    (table.mapRows change).image read = (table.image read).mapRows changed := by
  simp only [image, mapRows, mk.injEq, List.map_map]
  exact List.map_congr_left fun row _ => by simp [agrees]

omit [DecidableEq K] in
theorem image_keepRows (table : Table K V) (read : K → V → W) (kept : K → V → Bool)
    (keeps : K → W → Bool) (agrees : ∀ key row, keeps key (read key row) = kept key row) :
    (table.keepRows kept).image read = (table.image read).keepRows keeps := by
  simp only [image, keepRows, mk.injEq, List.filter_map]
  refine congrArg (List.map _) (List.filter_congr fun row _ => ?_)
  exact (agrees row.1 row.2).symm

omit [DecidableEq K] in
theorem search_image (table : Table K V) (read : K → V → W) (hit : K × V → Bool)
    (meets : K × W → Bool) (agrees : ∀ row, meets (row.1, read row.1 row.2) = hit row) :
    (table.image read).rows.find? meets =
      (table.rows.find? hit).map fun row => (row.1, read row.1 row.2) := by
  simp only [image, List.find?_map]
  have same : (meets ∘ fun row : K × V => (row.1, read row.1 row.2)) = hit := funext agrees
  rw [same]

end Keyed.Table
