import Mathlib.Data.List.DropRight
import Mathlib.Data.String.Basic

/-!
The operations of `str` on which normal forms rest: trimming by the Unicode
property `White_Space`, the ASCII case of a text, and the texts around a mark.
-/

namespace Text

def isWhitespace (char : Char) : Bool :=
  (decide (0x09 ≤ char.toNat) && decide (char.toNat ≤ 0x0D)) || char.toNat == 0x20 ||
    char.toNat == 0x85 || char.toNat == 0xA0 || char.toNat == 0x1680 ||
    (decide (0x2000 ≤ char.toNat) && decide (char.toNat ≤ 0x200A)) || char.toNat == 0x2028 ||
    char.toNat == 0x2029 || char.toNat == 0x202F || char.toNat == 0x205F || char.toNat == 0x3000

def trim (text : String) : String :=
  String.ofList ((text.toList.dropWhile isWhitespace).rdropWhile isWhitespace)

/-- What remains after both ends are trimmed starts and ends with no such
character. -/
theorem dropWhile_trimmed (pred : Char → Bool) (chars : List Char) :
    ((chars.dropWhile pred).rdropWhile pred).dropWhile pred =
      (chars.dropWhile pred).rdropWhile pred := by
  rw [List.dropWhile_eq_self_iff]
  intro nonempty
  have first := List.IsPrefix.getElem (List.rdropWhile_prefix pred (chars.dropWhile pred)) nonempty
  have long : 0 < (chars.dropWhile pred).length :=
    lt_of_lt_of_le nonempty (List.rdropWhile_prefix pred _).length_le
  rw [first]
  have head := List.head?_dropWhile_not pred chars
  rw [List.head?_eq_getElem?, List.getElem?_eq_getElem long] at head
  simpa using head

@[simp]
theorem trim_trim (text : String) : trim (trim text) = trim text := by
  unfold trim
  rw [String.toList_ofList, dropWhile_trimmed, List.rdropWhile_idempotent]

/-- `char::to_ascii_uppercase`. -/
def upperChar (char : Char) : Char :=
  if 97 ≤ char.toNat ∧ char.toNat ≤ 122 then Char.ofNat (char.toNat - 32) else char

/-- `char::to_ascii_lowercase`. -/
def lowerChar (char : Char) : Char :=
  if 65 ≤ char.toNat ∧ char.toNat ≤ 90 then Char.ofNat (char.toNat + 32) else char

def toAsciiUppercase (text : String) : String := String.ofList (text.toList.map upperChar)

def toAsciiLowercase (text : String) : String := String.ofList (text.toList.map lowerChar)

def eqIgnoreAsciiCase (left right : String) : Bool :=
  toAsciiLowercase left == toAsciiLowercase right

/-- `str::split_once`: the texts before and after the first occurrence. -/
def splitOnce (mark : List Char) : List Char → Option (List Char × List Char)
  | [] => if mark = [] then some ([], []) else none
  | char :: rest =>
      if mark.isPrefixOf (char :: rest) then some ([], (char :: rest).drop mark.length)
      else (splitOnce mark rest).map fun (before, after) => (char :: before, after)

def stripSuffix (suffix text : List Char) : Option (List Char) :=
  if suffix.isSuffixOf text then some (text.take (text.length - suffix.length)) else none

/-- No occurrence starts in a text without the first character of the mark. -/
theorem splitOnce_skip {mark before : List Char} {first : Char} (after : List Char)
    (starts : mark.head? = some first) (free : first ∉ before) :
    splitOnce mark (before ++ after) =
      (splitOnce mark after).map fun (left, right) => (before ++ left, right) := by
  obtain ⟨tail, rfl⟩ := List.head?_eq_some_iff.mp starts
  induction before with
  | nil => simp
  | cons char rest ih =>
      obtain ⟨other, later⟩ := not_or.mp (mt List.mem_cons.mpr free)
      rw [List.cons_append, splitOnce, List.isPrefixOf_cons_cons, beq_false_of_ne other,
        Bool.false_and, if_neg Bool.false_ne_true, ih later, Option.map_map]
      rfl

theorem splitOnce_append {mark before : List Char} {first : Char} (after : List Char)
    (starts : mark.head? = some first) (free : first ∉ before) :
    splitOnce mark (before ++ (mark ++ after)) = some (before, after) := by
  have here : splitOnce mark (mark ++ after) = some ([], after) := by
    obtain ⟨tail, rfl⟩ := List.head?_eq_some_iff.mp starts
    rw [List.cons_append, splitOnce, ← List.cons_append,
      if_pos (List.isPrefixOf_iff_prefix.mpr (List.prefix_append _ _)), List.drop_left]
  rw [splitOnce_skip _ starts free, here]
  simp

theorem splitOnce_free {mark text : List Char} {first : Char} (starts : mark.head? = some first)
    (free : first ∉ text) : splitOnce mark text = none := by
  have skipped := splitOnce_skip [] starts free
  obtain ⟨tail, rfl⟩ := List.head?_eq_some_iff.mp starts
  rwa [List.append_nil] at skipped

theorem stripSuffix_append (text suffix : List Char) :
    stripSuffix suffix (text ++ suffix) = some text := by
  unfold stripSuffix
  rw [if_pos (List.isSuffixOf_iff_suffix.mpr (List.suffix_append _ _)), List.length_append,
    Nat.add_sub_cancel, List.take_left]

end Text
