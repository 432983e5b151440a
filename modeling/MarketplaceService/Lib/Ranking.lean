import Mathlib.Data.List.Induction
import Mathlib.Data.List.Sort

/-!
Standings by key. Of a list of entries each key keeps the entry that comes
first among its own, and the kept entries are sorted by the same order. The
module says who stands first and who stands second; it knows nothing about what
an entry is.
-/

namespace Ranking

universe u v
variable {α : Type u} {κ : Type v} [DecidableEq κ]

/-- One entry more: its key's representative, or a new one. -/
def represent (key : α → κ) (first : α → α → Prop) [DecidableRel first] (entry : α) :
    List α → List α
  | [] => [entry]
  | current :: rest =>
      if key current = key entry then
        (if first current entry then current else entry) :: rest
      else current :: represent key first entry rest

def representatives (key : α → κ) (first : α → α → Prop) [DecidableRel first]
    (entries : List α) : List α :=
  entries.foldl (fun kept entry => represent key first entry kept) []

def ranked (key : α → κ) (first : α → α → Prop) [DecidableRel first] (entries : List α) :
    List α :=
  (representatives key first entries).insertionSort first

variable {key : α → κ} {first : α → α → Prop} [DecidableRel first]

theorem represent_keys (entry : α) (kept : List α) :
    (represent key first entry kept).map key =
      if key entry ∈ kept.map key then kept.map key else kept.map key ++ [key entry] := by
  induction kept with
  | nil => simp [represent]
  | cons current rest ih =>
      by_cases same : key current = key entry
      · by_cases ahead : first current entry <;> simp [represent, same, ahead]
      · have other : key entry ≠ key current := fun eq => same eq.symm
        by_cases hit : key entry ∈ rest.map key
        · simp only [represent, same, if_false, List.map_cons, ih, hit, if_true, List.mem_cons,
            or_true]
        · simp only [represent, same, if_false, List.map_cons, ih, hit, List.mem_cons, other,
            or_self, List.cons_append]

theorem represent_nodup (entry : α) {kept : List α} (distinct : (kept.map key).Nodup) :
    ((represent key first entry kept).map key).Nodup := by
  rw [represent_keys]
  by_cases hit : key entry ∈ kept.map key
  · rwa [if_pos hit]
  · rw [if_neg hit]
    exact List.Nodup.append distinct (List.nodup_singleton _) (by simpa using hit)

theorem represent_mem {entry other : α} {kept : List α}
    (member : other ∈ represent key first entry kept) : other = entry ∨ other ∈ kept := by
  induction kept with
  | nil => exact .inl (List.mem_singleton.mp member)
  | cons current rest ih =>
      unfold represent at member
      split at member
      · rcases List.mem_cons.mp member with same | tail
        · split at same
          · exact .inr (by simp [same])
          · exact .inl same
        · exact .inr (List.mem_cons_of_mem _ tail)
      · rcases List.mem_cons.mp member with rfl | tail
        · exact .inr (by simp)
        · rcases ih tail with same | before
          · exact .inl same
          · exact .inr (List.mem_cons_of_mem _ before)

section Order

variable [Std.Total first] [IsTrans α first]

omit [DecidableRel first] [IsTrans α first] in
theorem first_refl (entry : α) : first entry entry :=
  (total_of first entry entry).elim id id

omit [IsTrans α first] in
theorem represent_behind {entry other : α} {kept : List α}
    (covered : other = entry ∨ other ∈ kept) :
    ∃ standing ∈ represent key first entry kept, key standing = key other ∧
      first standing other := by
  induction kept with
  | nil =>
      obtain rfl : other = entry := by simpa using covered
      exact ⟨other, by simp [represent], rfl, first_refl _⟩
  | cons current rest ih =>
      by_cases same : key current = key entry
      · by_cases ahead : first current entry
        · rcases covered with rfl | covered
          · exact ⟨current, by simp [represent, same, ahead], same, ahead⟩
          · exact ⟨other, by simpa [represent, same, ahead] using covered, rfl, first_refl _⟩
        · have behind : first entry current := (total_of first entry current).resolve_right ahead
          rcases covered with rfl | covered
          · exact ⟨other, by simp [represent, same, ahead], rfl, first_refl _⟩
          · rcases List.mem_cons.mp covered with rfl | tail
            · exact ⟨entry, by simp [represent, same, ahead], same.symm, behind⟩
            · exact ⟨other, by simp [represent, same, ahead, tail], rfl, first_refl _⟩
      · have unfolded : represent key first entry (current :: rest) =
            current :: represent key first entry rest := by
          simp [represent, same]
        rw [unfolded]
        rcases covered with rfl | covered
        · obtain ⟨standing, member, held⟩ := ih (.inl rfl)
          exact ⟨standing, List.mem_cons_of_mem _ member, held⟩
        · rcases List.mem_cons.mp covered with rfl | tail
          · exact ⟨other, by simp, rfl, first_refl _⟩
          · obtain ⟨standing, member, held⟩ := ih (.inr tail)
            exact ⟨standing, List.mem_cons_of_mem _ member, held⟩

/-- What holds of the representatives, over all entries. -/
structure Represents (key : α → κ) (first : α → α → Prop) (entries kept : List α) : Prop where
  distinct : (kept.map key).Nodup
  among : ∀ standing ∈ kept, standing ∈ entries
  covers : ∀ entry ∈ entries, ∃ standing ∈ kept, key standing = key entry ∧ first standing entry

theorem represents (entries : List α) :
    Represents key first entries (representatives key first entries) := by
  induction entries using List.reverseRecOn with
  | nil => exact ⟨List.nodup_nil, fun _ member => member, fun _ member => by cases member⟩
  | append_singleton entries last ih =>
      have unfolded : representatives key first (entries ++ [last]) =
          represent key first last (representatives key first entries) := by
        simp [representatives, List.foldl_append]
      rw [unfolded]
      refine ⟨represent_nodup last ih.distinct, ?_, ?_⟩
      · intro standing member
        rcases represent_mem member with rfl | before
        · simp
        · exact List.mem_append_left _ (ih.among standing before)
      · intro entry member
        rcases List.mem_append.mp member with before | here
        · obtain ⟨held, kept, same, ahead⟩ := ih.covers entry before
          obtain ⟨standing, present, key_eq, further⟩ :=
            @represent_behind _ _ _ key first _ _ last held _ (.inr kept)
          exact ⟨standing, present, key_eq.trans same, trans_of first further ahead⟩
        · obtain rfl : entry = last := List.mem_singleton.mp here
          exact represent_behind (.inl rfl)

inductive Standings (key : α → κ) (first : α → α → Prop) (entries : List α) : List α → Prop
  | empty (none : entries = []) : Standings key first entries []
  | alone {leader : α} (member : leader ∈ entries)
      (leads : ∀ entry ∈ entries, key entry = key leader ∧ first leader entry) :
      Standings key first entries [leader]
  | led {leader runnerUp : α} {rest : List α} (member : leader ∈ entries)
      (second : runnerUp ∈ entries) (apart : key runnerUp ≠ key leader)
      (leads : ∀ entry ∈ entries, first leader entry)
      (follows : ∀ entry ∈ entries, key entry ≠ key leader → first runnerUp entry) :
      Standings key first entries (leader :: runnerUp :: rest)

theorem standings (entries : List α) : Standings key first entries (ranked key first entries) := by
  have known := @represents _ _ _ key first _ _ _ entries
  have sorted : (ranked key first entries).Pairwise first := List.pairwise_insertionSort first _
  have same : (ranked key first entries).Perm (representatives key first entries) :=
    List.perm_insertionSort first _
  have distinct : ((ranked key first entries).map key).Nodup :=
    (same.map key).nodup_iff.mpr known.distinct
  have among : ∀ standing ∈ ranked key first entries, standing ∈ entries :=
    fun standing member => known.among standing (same.mem_iff.mp member)
  have covers : ∀ entry ∈ entries, ∃ standing ∈ ranked key first entries,
      key standing = key entry ∧ first standing entry := by
    intro entry member
    obtain ⟨standing, kept, held⟩ := known.covers entry member
    exact ⟨standing, same.mem_iff.mpr kept, held⟩
  cases list : ranked key first entries with
  | nil =>
      refine .empty (List.eq_nil_iff_forall_not_mem.mpr fun entry member => ?_)
      obtain ⟨standing, kept, -⟩ := covers entry member
      rw [list] at kept
      cases kept
  | cons leader others =>
      rw [list] at sorted distinct among covers
      have leads : ∀ entry ∈ entries, first leader entry := by
        intro entry member
        obtain ⟨standing, kept, -, ahead⟩ := covers entry member
        rcases List.mem_cons.mp kept with rfl | behind
        · exact ahead
        · exact trans_of first (List.rel_of_pairwise_cons sorted behind) ahead
      cases others with
      | nil =>
          refine .alone (among leader (by simp)) fun entry member => ⟨?_, leads entry member⟩
          obtain ⟨standing, kept, same_key, -⟩ := covers entry member
          obtain rfl : standing = leader := List.mem_singleton.mp kept
          exact same_key.symm
      | cons runnerUp rest =>
          have apart : key runnerUp ≠ key leader := by
            intro eq
            simp [eq] at distinct
          refine .led (among leader (by simp)) (among runnerUp (by simp)) apart leads ?_
          intro entry member other
          obtain ⟨standing, kept, same_key, ahead⟩ := covers entry member
          rcases List.mem_cons.mp kept with rfl | behind
          · exact absurd same_key.symm other
          · rcases List.mem_cons.mp behind with rfl | further
            · exact ahead
            · exact trans_of first
                (List.rel_of_pairwise_cons (List.pairwise_cons.mp sorted).2 further) ahead

end Order

/-! The entry at an index of a sorted list. -/

section Sorted

universe w
variable {β : Type w} [LinearOrder β] {rank : α → β} {entries : List α} {middle : α}

theorem sorted_below (sorted : entries.Pairwise fun left right => rank left ≤ rank right) :
    ∀ {index : ℕ}, entries[index]? = some middle →
      entries.countP (fun entry => rank entry < rank middle) ≤ index := by
  induction entries with
  | nil => exact fun found => by cases found
  | cons head rest ih =>
      intro index found
      obtain ⟨ahead, tail⟩ := List.pairwise_cons.mp sorted
      cases index with
      | zero =>
          cases found
          rw [Nat.le_zero, List.countP_eq_zero]
          intro entry member
          rw [decide_eq_true_eq, not_lt]
          obtain rfl | later := List.mem_cons.mp member
          · exact le_refl _
          · exact ahead entry later
      | succ index =>
          have below := ih tail found
          rw [List.countP_cons]
          split <;> omega

theorem sorted_above (sorted : entries.Pairwise fun left right => rank left ≤ rank right) :
    ∀ {index : ℕ}, entries[index]? = some middle →
      entries.countP (fun entry => rank middle < rank entry) + index < entries.length := by
  induction entries with
  | nil => exact fun found => by cases found
  | cons head rest ih =>
      intro index found
      obtain ⟨ahead, tail⟩ := List.pairwise_cons.mp sorted
      cases index with
      | zero =>
          cases found
          rw [List.countP_cons_of_neg (by simp)]
          exact Nat.lt_succ_of_le List.countP_le_length
      | succ index =>
          have above := ih tail found
          have low : rank head ≤ rank middle := ahead middle (List.mem_of_getElem? found)
          rw [List.countP_cons_of_neg (by simpa using low), List.length_cons]
          omega

end Sorted

end Ranking
