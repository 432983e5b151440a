import Mathlib.Data.List.TakeWhile
import Mathlib.Data.Rat.Defs
import Mathlib.Tactic.Ring
import Mathlib.Data.Rat.Cast.Order

/-!
Decimal texts as lists of characters. `readDigits` is the number that a text of
digits spells, `pad` the zero-padded digits of a number, and `decimalValue` the
rational number that a text with at most one point denotes.
-/

namespace DigitText

def readDigits (text : List Char) : ℕ := Nat.ofDigitChars 10 text 0

def pad (width number : ℕ) : List Char := (Nat.toDigits 10 number).leftpad width '0'

/-- The parts before and after the first mark; without one the second is empty. -/
def parts (mark : Char) (text : List Char) : List Char × List Char :=
  (text.takeWhile (· ≠ mark), (text.dropWhile (· ≠ mark)).drop 1)

/-- The digits of the text as one number, over ten to the number of digits after
the point. -/
def decimalValue (text : List Char) : ℚ :=
  readDigits (text.filter (· ≠ '.')) / 10 ^ ((text.dropWhile (· ≠ '.')).drop 1).length

theorem readDigits_append (first second : List Char) :
    readDigits (first ++ second) = readDigits first * 10 ^ second.length + readDigits second := by
  unfold readDigits
  rw [Nat.ofDigitChars_append, Nat.ofDigitChars_eq_ofDigitChars_zero, Nat.mul_comm]

theorem readDigits_lt (text : List Char) (digits : text.all Char.isDigit = true) :
    readDigits text < 10 ^ text.length := by
  induction text with
  | nil => decide
  | cons head rest ih =>
      rw [List.all_cons, Bool.and_eq_true] at digits
      have low : readDigits [head] ≤ 9 := by
        have range := digits.1
        simp only [Char.isDigit, Bool.and_eq_true, decide_eq_true_eq] at range
        simp only [readDigits, Nat.ofDigitChars_cons, Nat.ofDigitChars_nil]
        have top : head.toNat ≤ 57 := range.2
        have zero : '0'.toNat = 48 := rfl
        omega
      calc readDigits (head :: rest)
          = readDigits [head] * 10 ^ rest.length + readDigits rest := readDigits_append [head] rest
        _ < readDigits [head] * 10 ^ rest.length + 10 ^ rest.length :=
            Nat.add_lt_add_left (ih digits.2) _
        _ = (readDigits [head] + 1) * 10 ^ rest.length := by ring
        _ ≤ 10 * 10 ^ rest.length := Nat.mul_le_mul_right _ (by omega)
        _ = 10 ^ (head :: rest).length := by rw [List.length_cons, pow_succ, Nat.mul_comm]

theorem pad_all (width number : ℕ) : (pad width number).all Char.isDigit = true := by
  rw [List.all_eq_true]
  intro char member
  unfold pad List.leftpad at member
  obtain zero | digit := List.mem_append.mp member
  · rw [(List.mem_replicate.mp zero).2]
    rfl
  · exact Nat.isDigit_of_mem_toDigits (by decide) (by decide) digit

theorem pad_ne_nil (width number : ℕ) : pad width number ≠ [] := by
  unfold pad List.leftpad
  simp

@[simp]
theorem readDigits_pad (width number : ℕ) : readDigits (pad width number) = number := by
  unfold pad List.leftpad readDigits
  rw [Nat.ofDigitChars_append, Nat.ofDigitChars_replicate_zero, Nat.mul_zero,
    Nat.ofDigitChars_ten_toDigits]

theorem pad_length (width number : ℕ) :
    (pad width number).length = max width (Nat.toDigits 10 number).length := by
  unfold pad
  rw [List.length_leftpad]

theorem pad_length_of_lt {width number : ℕ} (wide : 0 < width) (fits : number < 10 ^ width) :
    (pad width number).length = width := by
  rw [pad_length, max_eq_left]
  exact (Nat.length_toDigits_le_iff (by decide) wide).mpr fits

theorem mark_not_mem_of_all {text : List Char} {mark : Char} (digits : text.all Char.isDigit = true)
    (other : mark.isDigit = false) : mark ∉ text := by
  intro member
  have digit := List.all_eq_true.mp digits mark member
  rw [other] at digit
  cases digit

theorem parts_append {mark : Char} {first : List Char} (second : List Char)
    (free : mark ∉ first) : parts mark (first ++ mark :: second) = (first, second) := by
  have pass : ∀ char ∈ first, decide (char ≠ mark) = true := by
    intro char member
    rw [decide_eq_true_eq]
    rintro rfl
    exact free member
  unfold parts
  rw [List.takeWhile_append_of_pos pass, List.dropWhile_append_of_pos pass]
  simp

theorem parts_of_not_mem {mark : Char} {text : List Char} (free : mark ∉ text) :
    parts mark text = (text, []) := by
  have pass : ∀ char ∈ text, decide (char ≠ mark) = true := by
    intro char member
    rw [decide_eq_true_eq]
    rintro rfl
    exact free member
  unfold parts
  rw [List.takeWhile_eq_self_iff.mpr pass, List.dropWhile_eq_nil_iff.mpr pass]
  rfl

/-- The text without its point is its two parts. -/
theorem filter_parts {text : List Char} (digits : (parts '.' text).2.all Char.isDigit = true) :
    text.filter (· ≠ '.') = (parts '.' text).1 ++ (parts '.' text).2 := by
  have keep : ∀ char ∈ text.takeWhile (· ≠ '.'), decide (char ≠ '.') = true :=
    fun char member => @List.mem_takeWhile_imp _ (fun char => decide (char ≠ '.')) text char member
  have rest : (text.dropWhile (· ≠ '.')).filter (· ≠ '.') = (text.dropWhile (· ≠ '.')).drop 1 := by
    have head := List.head?_dropWhile_not (fun char => decide (char ≠ '.')) text
    cases found : text.dropWhile (· ≠ '.') with
    | nil => rfl
    | cons point fraction =>
        rw [found] at head
        have dot : point = '.' := by simpa using head
        have all : fraction.all Char.isDigit = true := by
          rw [parts, found] at digits
          exact digits
        rw [List.filter_cons_of_neg (by simp [dot]), List.drop_one, List.tail_cons,
          List.filter_eq_self]
        intro char member
        rw [decide_eq_true_eq]
        rintro rfl
        exact mark_not_mem_of_all all rfl member
  conv_lhs => rw [← @List.takeWhile_append_dropWhile _ (fun char => decide (char ≠ '.')) text]
  rw [List.filter_append, List.filter_eq_self.mpr keep, rest]
  rfl

/-- A text whose parts are digits denotes the whole number and the fraction
together, scaled down by the length of the fraction. -/
theorem decimalValue_parts {text whole fraction : List Char}
    (split : parts '.' text = (whole, fraction))
    (fractionDigits : fraction.all Char.isDigit = true) :
    decimalValue text * 10 ^ fraction.length =
      (readDigits whole * 10 ^ fraction.length + readDigits fraction : ℕ) := by
  have nonzero : (10 : ℚ) ^ fraction.length ≠ 0 := pow_ne_zero _ (by norm_num)
  have kept := @filter_parts text (by rw [split]; exact fractionDigits)
  have tail : (text.dropWhile (· ≠ '.')).drop 1 = fraction := congrArg Prod.snd split
  rw [split] at kept
  unfold decimalValue
  rw [kept, tail, readDigits_append, div_mul_cancel₀ _ nonzero]

end DigitText
