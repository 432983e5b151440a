import Mathlib.Data.List.Induction
import Mathlib.Tactic.Positivity
import Mathlib.Tactic.Ring

/-!
Base 32 in the Crockford alphabet, on byte strings as big-endian numbers. What is
encoded is padded with zero bits to whole digits, and decoding drops the bits of
an unfinished byte. Decoding takes either case, and reads `I`, `L` and `O` as the
digits that they look like.
-/

namespace Base32

/-- A byte string by its length and its big-endian number. -/
structure Bytes where
  length : ℕ
  value : ℕ
  fits : value < 256 ^ length
deriving DecidableEq

def number (digits : List ℕ) : ℕ := digits.foldl (fun total digit => total * 32 + digit) 0

/-- So many digits of a number. -/
def digitsOf : ℕ → ℕ → List ℕ
  | 0, _ => []
  | width + 1, value => digitsOf width (value / 32) ++ [value % 32]

def crockford : List Char := "0123456789ABCDEFGHJKMNPQRSTVWXYZ".toList

def digitChar (digit : ℕ) : Char := crockford.getD digit '0'

def digitValue (char : Char) : Option ℕ :=
  let upper := if 'a' ≤ char ∧ char ≤ 'z' then Char.ofNat (char.toNat - 32) else char
  match upper with
  | 'O' => some 0
  | 'I' => some 1
  | 'L' => some 1
  | other => crockford.idxOf? other

def encodedLength (length : ℕ) : ℕ := (8 * length + 4) / 5

def encode (bytes : Bytes) : List Char :=
  let width := encodedLength bytes.length
  (digitsOf width (bytes.value * 2 ^ (5 * width - 8 * bytes.length))).map digitChar

theorem number_append (digits : List ℕ) (digit : ℕ) :
    number (digits ++ [digit]) = number digits * 32 + digit := by
  simp only [number, List.foldl_append, List.foldl_cons, List.foldl_nil]

theorem number_lt (digits : List ℕ) (small : ∀ digit ∈ digits, digit < 32) :
    number digits < 32 ^ digits.length := by
  induction digits using List.reverseRecOn with
  | nil => decide
  | append_singleton rest digit ih =>
      have low := small digit (by simp)
      have before := ih fun other member => small other (List.mem_append_left _ member)
      rw [number_append, List.length_append, List.length_singleton, pow_succ]
      calc number rest * 32 + digit < number rest * 32 + 32 := by omega
        _ = (number rest + 1) * 32 := by ring
        _ ≤ 32 ^ rest.length * 32 := Nat.mul_le_mul_right 32 before

theorem digitsOf_length (width value : ℕ) : (digitsOf width value).length = width := by
  induction width generalizing value with
  | zero => rfl
  | succ width ih => rw [digitsOf, List.length_append, ih, List.length_singleton]

theorem digitsOf_lt (width value : ℕ) : ∀ digit ∈ digitsOf width value, digit < 32 := by
  induction width generalizing value with
  | zero => exact nofun
  | succ width ih =>
      intro digit member
      rcases List.mem_append.mp member with earlier | last
      · exact ih _ digit earlier
      · rw [List.mem_singleton.mp last]
        exact Nat.mod_lt _ (by decide)

theorem number_digitsOf {width value : ℕ} (fits : value < 32 ^ width) :
    number (digitsOf width value) = value := by
  induction width generalizing value with
  | zero =>
      have none : value = 0 := by simpa using fits
      rw [none]
      rfl
  | succ width ih =>
      have smaller : value / 32 < 32 ^ width := by
        rw [Nat.div_lt_iff_lt_mul (by decide)]
        rwa [pow_succ] at fits
      rw [digitsOf, number_append, ih smaller]
      omega

theorem digitValue_digitChar {digit : ℕ} (small : digit < 32) :
    digitValue (digitChar digit) = some digit := by
  revert digit
  decide

theorem digitValue_lt {char : Char} {digit : ℕ} (read : digitValue char = some digit) :
    digit < 32 := by
  unfold digitValue at read
  simp only at read
  split at read
  case h_4 =>
    have listed : crockford.findIdx? (· == _) = some digit := read
    obtain ⟨short, -, -⟩ := List.findIdx?_eq_some_iff_getElem.mp listed
    exact short
  all_goals
    rw [← Option.some.inj read]
    decide

theorem mapM_digitValue {digits : List ℕ} (small : ∀ digit ∈ digits, digit < 32) :
    (digits.map digitChar).mapM digitValue = some digits := by
  induction digits with
  | nil => rfl
  | cons digit rest ih =>
      rw [List.map_cons, List.mapM_cons, digitValue_digitChar (small digit List.mem_cons_self),
        ih fun other member => small other (List.mem_cons_of_mem _ member)]
      rfl

theorem mapM_lt {text : List Char} {digits : List ℕ} (read : text.mapM digitValue = some digits) :
    ∀ digit ∈ digits, digit < 32 := by
  induction text generalizing digits with
  | nil =>
      cases read
      exact nofun
  | cons char rest ih =>
      rw [List.mapM_cons] at read
      cases first : digitValue char with
      | none => simp [first] at read
      | some digit =>
          cases others : rest.mapM digitValue with
          | none => simp [first, others] at read
          | some tail =>
              simp only [first, others] at read
              cases read
              intro other member
              rcases List.mem_cons.mp member with rfl | later
              · exact digitValue_lt first
              · exact ih others other later

theorem dropped_fits {digits : List ℕ} (small : ∀ digit ∈ digits, digit < 32) :
    number digits / 2 ^ (5 * digits.length - 8 * (5 * digits.length / 8)) <
      256 ^ (5 * digits.length / 8) := by
  have bound := number_lt digits small
  rw [Nat.div_lt_iff_lt_mul (by positivity)]
  calc number digits < 32 ^ digits.length := bound
    _ = 2 ^ (5 * digits.length) := by rw [show 32 = 2 ^ 5 by rfl, ← pow_mul]
    _ = 256 ^ (5 * digits.length / 8) *
        2 ^ (5 * digits.length - 8 * (5 * digits.length / 8)) := by
      rw [show 256 = 2 ^ 8 by rfl, ← pow_mul, ← pow_add]
      congr 1
      omega

def decode (text : List Char) : Option Bytes :=
  match read : text.mapM digitValue with
  | some digits => some ⟨5 * digits.length / 8, _, dropped_fits (mapM_lt read)⟩
  | none => none

theorem decode_encode (bytes : Bytes) : decode (encode bytes) = some bytes := by
  obtain ⟨length, value, fits⟩ := bytes
  have read := mapM_digitValue (digitsOf_lt (encodedLength length)
    (value * 2 ^ (5 * encodedLength length - 8 * length)))
  have wide : 8 * length ≤ 5 * encodedLength length ∧
      5 * encodedLength length < 8 * length + 8 := by
    unfold encodedLength
    omega
  have room : value * 2 ^ (5 * encodedLength length - 8 * length) <
      32 ^ encodedLength length := by
    have whole : 32 ^ encodedLength length =
        256 ^ length * 2 ^ (5 * encodedLength length - 8 * length) := by
      rw [show 256 = 2 ^ 8 by rfl, show 32 = 2 ^ 5 by rfl, ← pow_mul, ← pow_mul, ← pow_add]
      congr 1
      omega
    rw [whole]
    exact Nat.mul_lt_mul_of_pos_right fits (by positivity)
  have size : 5 * encodedLength length / 8 = length := by omega
  unfold decode encode
  simp only
  split
  case h_1 digits found =>
    rw [read] at found
    cases found
    simp only [digitsOf_length, number_digitsOf room, size, Option.some.injEq, Bytes.mk.injEq,
      true_and]
    exact Nat.mul_div_cancel _ (by positivity)
  case h_2 found =>
    rw [read] at found
    cases found

theorem encode_length (bytes : Bytes) : (encode bytes).length = encodedLength bytes.length := by
  simp only [encode, List.length_map, digitsOf_length]

theorem encode_alphabet (bytes : Bytes) : ∀ char ∈ encode bytes, char ∈ crockford := by
  have listed : ∀ digit < 32, digitChar digit ∈ crockford := by decide
  intro char member
  obtain ⟨digit, among, rfl⟩ := List.mem_map.mp member
  exact listed digit (digitsOf_lt _ _ digit among)

end Base32
