import MarketplaceService.GatewayAmounts
import MarketplaceService.Lib.Ranking
import MarketplaceService.ResolveDelivery
import Mathlib.Algebra.Order.Floor.Div
import Mathlib.Algebra.Order.Floor.Semiring
import Mathlib.Data.Rat.Floor
import Mathlib.Tactic.Positivity
import Mathlib.Tactic.GCongr

/-!
Rates and quotes of the USD reference (`fx.rs`): the decimal rate with its
checked comparisons, the median of the reference samples, and the conversion of
a total into satoshis. Every product is checked on 128 bits.
-/

namespace MarketplaceService

open DigitText

def rateMinUsd : ℕ := 10000
def rateMaxUsd : ℕ := 1000000
def maxQuoteSats : ℕ := 100000000
def minQuoteSats : ℕ := 1000
def referenceMinSamples : ℕ := 3

/-- `checked_pow`, `checked_mul` and `checked_add` on 128 bits. -/
def checkedU128 (value : ℕ) : Option ℕ := if value < 2 ^ 128 then some value else none

/-- `str::parse::<u128>`. -/
def parseU128 (text : List Char) : Option ℕ :=
  let value := match text with
    | '+' :: digits => headerDigits digits
    | digits => headerDigits digits
  value.bind checkedU128

structure Decimal where
  mantissa : ℕ
  scale : ℕ
deriving DecidableEq, Repr

namespace Decimal

def parse (value : String) : Option Decimal :=
  let (whole, fraction) := parts '.' value.toList
  if 8 < fraction.length ∨ 38 < whole.length then none
  else if whole = [] ∨ ¬ whole.all Char.isDigit ∨ ¬ fraction.all Char.isDigit then none
  else (parseU128 (whole ++ fraction)).map fun mantissa => ⟨mantissa, fraction.length⟩

def widened (decimal : Decimal) (scale : ℕ) : Option ℕ :=
  if scale < decimal.scale then none
  else (checkedU128 (10 ^ (scale - decimal.scale))).bind fun factor =>
    checkedU128 (decimal.mantissa * factor)

def cmp (left right : Decimal) : Option Ordering :=
  let scale := max left.scale right.scale
  (left.widened scale).bind fun leftValue =>
    (right.widened scale).map fun rightValue => compare leftValue rightValue

/-- An unwidenable value is out of bounds. -/
def inBounds (decimal : Decimal) : Bool :=
  match decimal.cmp ⟨rateMinUsd, 0⟩, decimal.cmp ⟨rateMaxUsd, 0⟩ with
  | some low, some high => low != .lt && high != .gt
  | _, _ => false

def toStringValue (decimal : Decimal) : String :=
  if decimal.scale = 0 then String.ofList (Nat.toDigits 10 decimal.mantissa)
  else
    let digits := pad (decimal.scale + 1) decimal.mantissa
    let split := digits.length - decimal.scale
    String.ofList (digits.take split ++ '.' :: digits.drop split)

end Decimal

/-- `sort_by` is stable; two values that do not compare count as equal. -/
def median (rates : List Decimal) : Option Decimal :=
  if rates.length < referenceMinSamples then none
  else
    let scale := (rates.map Decimal.scale).foldr max 0
    if rates.all (fun rate => (rate.widened scale).isSome) then
      (rates.mergeSort fun left right => ((left.cmp right).getD .eq).isLE)[rates.length / 2]?
    else none

inductive FxError where
  | malformed
  | missingReference
  | stale
  | future
  | outOfBounds
  | deviationExceeded
  | overflow
  | belowMinimum
  | capExceeded
deriving DecidableEq, Repr

/-- `ok_or(FxError::Overflow)`. -/
def orOverflow : Option ℕ → Except FxError ℕ
  | some value => .ok value
  | none => .error .overflow

def quoteSats (totalMinor exponent : ℤ) (rate : Decimal) : Except FxError ℕ := do
  let total ← orOverflow (if totalMinor < 0 then none else some totalMinor.toNat)
  let exponent ← orOverflow (if exponent < 0 then none else some exponent.toNat)
  let fiatScale ← orOverflow (checkedU128 (10 ^ exponent))
  let rateScale ← orOverflow (checkedU128 (10 ^ rate.scale))
  let numerator ← orOverflow
    ((checkedU128 (total * 100000000)).bind fun value => checkedU128 (value * rateScale))
  let denominator ← orOverflow (checkedU128 (fiatScale * rate.mantissa))
  if denominator = 0 then .error .overflow
  else
    let raised ← orOverflow (checkedU128 (numerator + (denominator - 1)))
    let sats := raised / denominator
    if sats = 0 then .error .belowMinimum
    else if sats < minQuoteSats then .error .belowMinimum
    else if maxQuoteSats < sats then .error .capExceeded
    else if 2 ^ 64 ≤ sats then .error .overflow
    else .ok sats

/-! Decimal rates. -/

namespace Decimal

/-- The number a decimal stands for. -/
def value (decimal : Decimal) : ℚ := decimal.mantissa / 10 ^ decimal.scale

end Decimal

theorem headerDigits_of_digits {text : List Char} (some? : text ≠ [])
    (digits : text.all Char.isDigit = true) : headerDigits text = some (readDigits text) :=
  if_pos ⟨some?, digits⟩

theorem parseU128_digits {text : List Char} (some? : text ≠ [])
    (digits : text.all Char.isDigit = true) : parseU128 text = checkedU128 (readDigits text) := by
  unfold parseU128
  split
  · exact absurd digits (by simp)
  · rw [headerDigits_of_digits some? digits]
    rfl

/-- What an accepted text is read as. -/
theorem Decimal.parse_ok {text : String} {decimal : Decimal}
    (parsed : Decimal.parse text = some decimal) :
    decimal.scale ≤ 8 ∧ decimal.mantissa < 2 ^ 128 ∧
      decimal.mantissa < 10 ^ (38 + decimal.scale) := by
  unfold Decimal.parse at parsed
  generalize parts '.' text.toList = pair at parsed
  obtain ⟨whole, fraction⟩ := pair
  dsimp only at parsed
  obtain ⟨short, parsed⟩ := Option.ite_none_left_eq_some.mp parsed
  obtain ⟨shape, parsed⟩ := Option.ite_none_left_eq_some.mp parsed
  obtain ⟨mantissa, read, rfl⟩ := Option.map_eq_some_iff.mp parsed
  simp only [not_or, not_not, not_lt] at short shape
  have digits : (whole ++ fraction).all Char.isDigit = true := by
    rw [List.all_append, shape.2.1, shape.2.2]
    rfl
  rw [parseU128_digits (by simp [shape.1]) digits] at read
  obtain ⟨fits, same⟩ := Option.ite_none_right_eq_some.mp read
  cases same
  refine ⟨short.1, fits, (readDigits_lt _ digits).trans_le ?_⟩
  rw [List.length_append]
  exact Nat.pow_le_pow_right (by decide) (Nat.add_le_add_right short.2 _)

theorem Decimal.parse_of_shape {text : String} {whole fraction : List Char}
    (split : parts '.' text.toList = (whole, fraction)) (wholeSome : whole ≠ [])
    (wholeDigits : whole.all Char.isDigit = true)
    (fractionDigits : fraction.all Char.isDigit = true)
    (wholeShort : whole.length ≤ 38) (fractionShort : fraction.length ≤ 8)
    (fits : readDigits (whole ++ fraction) < 2 ^ 128) :
    Decimal.parse text = some ⟨readDigits (whole ++ fraction), fraction.length⟩ := by
  have digits : (whole ++ fraction).all Char.isDigit = true := by
    rw [List.all_append, wholeDigits, fractionDigits]
    rfl
  unfold Decimal.parse
  rw [split]
  dsimp only
  rw [if_neg (by omega), if_neg (by simp [wholeSome, wholeDigits, fractionDigits]),
    parseU128_digits (by simp [wholeSome]) digits, checkedU128, if_pos fits]
  rfl

theorem Decimal.parse_toStringValue {decimal : Decimal} (short : decimal.scale ≤ 8)
    (fits : decimal.mantissa < 2 ^ 128) (bounded : decimal.mantissa < 10 ^ (38 + decimal.scale)) :
    Decimal.parse decimal.toStringValue = some decimal := by
  obtain ⟨mantissa, scale⟩ := decimal
  dsimp only at short fits bounded
  unfold Decimal.toStringValue
  dsimp only
  by_cases zero : scale = 0
  · subst zero
    rw [if_pos rfl]
    have split : parts '.' (String.ofList (Nat.toDigits 10 mantissa)).toList =
        (Nat.toDigits 10 mantissa, []) := by
      rw [String.toList_ofList, parts_of_not_mem (mark_not_mem_of_all (toDigits_all _) rfl)]
    have read : readDigits (Nat.toDigits 10 mantissa ++ []) = mantissa := by
      rw [List.append_nil, readDigits, Nat.ofDigitChars_ten_toDigits]
    have length : (Nat.toDigits 10 mantissa).length ≤ 38 :=
      (Nat.length_toDigits_le_iff (by decide) (by decide)).mpr bounded
    rw [Decimal.parse_of_shape split Nat.toDigits_ne_nil (toDigits_all _) rfl length (by decide)
      (read.trans_lt fits), read]
    rfl
  · rw [if_neg zero]
    generalize written : pad (scale + 1) mantissa = digits
    have all : digits.all Char.isDigit = true := written ▸ pad_all _ _
    have length : digits.length = max (scale + 1) (Nat.toDigits 10 mantissa).length :=
      written ▸ pad_length _ _
    have bound : (Nat.toDigits 10 mantissa).length ≤ 38 + scale :=
      (Nat.length_toDigits_le_iff (by decide) (by omega)).mpr bounded
    have parted := List.take_append_drop (digits.length - scale) digits
    have both := all
    rw [← parted, List.all_append, Bool.and_eq_true] at both
    have split : parts '.' (String.ofList (digits.take (digits.length - scale) ++
        '.' :: digits.drop (digits.length - scale))).toList =
        (digits.take (digits.length - scale), digits.drop (digits.length - scale)) := by
      rw [String.toList_ofList, parts_append _ (mark_not_mem_of_all both.1 rfl)]
    have wholeLength : (digits.take (digits.length - scale)).length = digits.length - scale := by
      rw [List.length_take]
      omega
    have fractionLength : (digits.drop (digits.length - scale)).length = scale := by
      rw [List.length_drop]
      omega
    have read : readDigits (digits.take (digits.length - scale) ++
        digits.drop (digits.length - scale)) = mantissa := by
      rw [parted, ← written, readDigits_pad]
    have wholeSome : digits.take (digits.length - scale) ≠ [] := by
      rw [← List.length_pos_iff, wholeLength]
      omega
    rw [Decimal.parse_of_shape split wholeSome both.1 both.2 (by omega) (by omega)
      (read.trans_lt fits), read, fractionLength]

theorem Decimal.widened_le {decimal : Decimal} {scale wide : ℕ} (own : decimal.scale ≤ scale)
    (narrow : scale ≤ wide) (fits : (decimal.widened wide).isSome = true) :
    decimal.widened scale = some (decimal.mantissa * 10 ^ (scale - decimal.scale)) := by
  obtain ⟨value, widened⟩ := Option.isSome_iff_exists.mp fits
  obtain ⟨-, widened⟩ := Option.ite_none_left_eq_some.mp widened
  obtain ⟨factor, power, product⟩ := Option.bind_eq_some_iff.mp widened
  obtain ⟨powerFits, same⟩ := Option.ite_none_right_eq_some.mp power
  cases same
  obtain ⟨productFits, -⟩ := Option.ite_none_right_eq_some.mp product
  have smaller : 10 ^ (scale - decimal.scale) ≤ 10 ^ (wide - decimal.scale) :=
    Nat.pow_le_pow_right (by decide) (by omega)
  refine (if_neg own.not_gt).trans ?_
  refine Option.bind_eq_some_iff.mpr ⟨_, if_pos (smaller.trans_lt powerFits), ?_⟩
  exact if_pos ((Nat.mul_le_mul_left _ smaller).trans_lt productFits)

theorem Decimal.value_widened (decimal : Decimal) {scale : ℕ} (own : decimal.scale ≤ scale) :
    ((decimal.mantissa * 10 ^ (scale - decimal.scale) : ℕ) : ℚ) = decimal.value * 10 ^ scale := by
  have nonzero : (10 : ℚ) ^ decimal.scale ≠ 0 := pow_ne_zero _ (by norm_num)
  rw [Decimal.value, div_mul_eq_mul_div, eq_div_iff nonzero]
  push_cast
  rw [mul_assoc, ← pow_add, Nat.sub_add_cancel own]

theorem Decimal.cmp_isLE {left right : Decimal} {wide : ℕ} (leftOwn : left.scale ≤ wide)
    (rightOwn : right.scale ≤ wide) (leftFits : (left.widened wide).isSome = true)
    (rightFits : (right.widened wide).isSome = true) :
    ((left.cmp right).getD .eq).isLE = decide (left.value ≤ right.value) := by
  have narrow : max left.scale right.scale ≤ wide := max_le leftOwn rightOwn
  have positive : (0 : ℚ) < 10 ^ max left.scale right.scale := by positivity
  unfold Decimal.cmp
  dsimp only
  rw [left.widened_le (le_max_left _ _) narrow leftFits,
    right.widened_le (le_max_right _ _) narrow rightFits, Option.bind_some, Option.map_some,
    Option.getD_some, Bool.eq_iff_iff, decide_eq_true_eq, Nat.isLE_compare,
    ← @Nat.cast_le ℚ, left.value_widened (le_max_left _ _),
    right.value_widened (le_max_right _ _)]
  exact mul_le_mul_iff_of_pos_right positive

theorem scale_le_widest {rates : List Decimal} {rate : Decimal} (member : rate ∈ rates) :
    rate.scale ≤ (rates.map Decimal.scale).foldr max 0 := by
  induction rates with
  | nil => cases member
  | cons head rest ih =>
      rw [List.map_cons, List.foldr_cons]
      obtain rfl | later := List.mem_cons.mp member
      · exact le_max_left _ _
      · exact (ih later).trans (le_max_right _ _)

/-- The median is a sample with at most half of the samples on either side. -/
theorem median_ok {rates : List Decimal} {middle : Decimal} (found : median rates = some middle) :
    middle ∈ rates ∧
      2 * rates.countP (fun rate => rate.value < middle.value) ≤ rates.length ∧
      2 * rates.countP (fun rate => middle.value < rate.value) ≤ rates.length := by
  unfold median at found
  obtain ⟨-, found⟩ := Option.ite_none_left_eq_some.mp found
  obtain ⟨wide, found⟩ := Option.ite_none_right_eq_some.mp found
  rw [List.all_eq_true] at wide
  have same := @List.map_mergeSort _ _ (fun left right => ((left.cmp right).getD .eq).isLE)
    (fun left right => decide (left.value ≤ right.value)) id rates
    (fun left inLeft right inRight => Decimal.cmp_isLE (scale_le_widest inLeft)
      (scale_le_widest inRight) (wide left inLeft) (wide right inRight))
  rw [List.map_id, List.map_id] at same
  rw [same] at found
  have sorted := @List.pairwise_mergeSort _ (fun left right : Decimal =>
      decide (left.value ≤ right.value))
    (fun a b c first second => by
      rw [decide_eq_true_eq] at first second ⊢
      exact first.trans second)
    (fun a b => by
      rw [Bool.or_eq_true, decide_eq_true_eq, decide_eq_true_eq]
      exact le_total _ _) rates
  have ordered := sorted.imp fun le => of_decide_eq_true le
  have perm := List.mergeSort_perm rates fun left right => decide (left.value ≤ right.value)
  have below := Ranking.sorted_below ordered found
  have above := Ranking.sorted_above ordered found
  rw [perm.countP_eq] at below above
  rw [perm.length_eq] at above
  exact ⟨perm.mem_iff.mp (List.mem_of_getElem? found), by omega, by omega⟩

theorem Decimal.inBounds_mantissa {rate : Decimal} (short : rate.scale ≤ 8)
    (fits : rate.mantissa < 2 ^ 128) (bounded : rate.inBounds = true) :
    rateMinUsd * 10 ^ rate.scale ≤ rate.mantissa ∧
      rate.mantissa ≤ rateMaxUsd * 10 ^ rate.scale := by
  have power : 10 ^ rate.scale ≤ 10 ^ 8 := Nat.pow_le_pow_right (by decide) short
  have own : rate.widened rate.scale = some rate.mantissa := by
    rw [Decimal.widened, if_neg (lt_irrefl _), Nat.sub_self, pow_zero]
    refine Option.bind_eq_some_iff.mpr ⟨1, rfl, ?_⟩
    rw [Nat.mul_one]
    exact if_pos fits
  have bound {limit : ℕ} (small : limit ≤ rateMaxUsd) :
      (⟨limit, 0⟩ : Decimal).widened rate.scale = some (limit * 10 ^ rate.scale) := by
    rw [Decimal.widened, if_neg (Nat.not_lt_zero _), Nat.sub_zero]
    refine Option.bind_eq_some_iff.mpr ⟨_, if_pos (power.trans_lt (by decide)), if_pos ?_⟩
    exact (Nat.mul_le_mul small power).trans_lt (by decide)
  have compared {limit : ℕ} (small : limit ≤ rateMaxUsd) :
      rate.cmp ⟨limit, 0⟩ = some (compare rate.mantissa (limit * 10 ^ rate.scale)) := by
    rw [Decimal.cmp]
    dsimp only
    rw [Nat.max_zero, own, bound small]
    rfl
  unfold Decimal.inBounds at bounded
  rw [compared (by decide), compared (le_refl _)] at bounded
  simp only [Bool.and_eq_true, bne_iff_ne, ne_eq, Nat.compare_eq_lt, Nat.compare_eq_gt,
    not_lt] at bounded
  exact bounded

/-- The exact number of satoshis of a total in cents. -/
def exactSats (total : ℤ) (rate : Decimal) : ℕ :=
  ⌈(total * 10 ^ 8 * 10 ^ rate.scale : ℚ) / (10 ^ 2 * rate.mantissa)⌉₊

/-- A number of satoshis against the documented range. -/
def ranged (sats : ℕ) : Except FxError ℕ :=
  if sats < minQuoteSats then .error .belowMinimum
  else if maxQuoteSats < sats then .error .capExceeded
  else .ok sats

theorem checkedU128_eq {value : ℕ} (fits : value < 2 ^ 128) : checkedU128 value = some value :=
  if_pos fits

@[simp]
theorem orOverflow_bind (value : ℕ) (next : ℕ → Except FxError ℕ) :
    (orOverflow (some value) >>= next) = next value := rfl

/-- Rounding up by adding the denominator less one. -/
theorem raised_div {numerator denominator : ℕ} (positive : 0 < denominator) :
    (numerator + (denominator - 1)) / denominator = ⌈(numerator : ℚ) / denominator⌉₊ := by
  have cast : (0 : ℚ) < denominator := by exact_mod_cast positive
  rw [← Nat.add_sub_assoc positive, ← Nat.ceilDiv_eq_add_pred_div]
  refine eq_of_forall_ge_iff fun bound => ?_
  rw [ceilDiv_le_iff_le_mul positive, Nat.ceil_le, div_le_iff₀ cast, mul_comm]
  exact_mod_cast Iff.rfl

/-- No product overflows for a rate within its bounds, and the quote is the exact
number of satoshis in its range. -/
theorem quoteSats_eq {total : ℕ} {rate : Decimal} (fits : total < 2 ^ 63) (short : rate.scale ≤ 8)
    (low : rateMinUsd * 10 ^ rate.scale ≤ rate.mantissa)
    (high : rate.mantissa ≤ rateMaxUsd * 10 ^ rate.scale) :
    quoteSats total 2 rate = ranged (exactSats total rate) := by
  have power : 10 ^ rate.scale ≤ 10 ^ 8 := Nat.pow_le_pow_right (by decide) short
  have positive : 0 < 10 ^ 2 * rate.mantissa := by
    have base : 0 < rateMinUsd * 10 ^ rate.scale :=
      Nat.mul_pos (by decide) (Nat.pow_pos (by decide))
    exact Nat.mul_pos (by decide) (base.trans_le low)
  have mantissa : rate.mantissa ≤ 10 ^ 14 :=
    high.trans ((Nat.mul_le_mul_left _ power).trans (by decide))
  have widened : total * 100000000 < 2 ^ 90 := by
    calc total * 100000000 < 2 ^ 63 * 100000000 := Nat.mul_lt_mul_of_pos_right fits (by decide)
      _ < 2 ^ 90 := by decide
  have numerator : total * 100000000 * 10 ^ rate.scale < 2 ^ 120 := by
    calc total * 100000000 * 10 ^ rate.scale ≤ total * 100000000 * 10 ^ 8 :=
          Nat.mul_le_mul_left _ power
      _ < 2 ^ 90 * 10 ^ 8 := Nat.mul_lt_mul_of_pos_right widened (by decide)
      _ < 2 ^ 120 := by decide
  have denominator : 10 ^ 2 * rate.mantissa < 2 ^ 120 :=
    (Nat.mul_le_mul_left _ mantissa).trans_lt (by decide)
  have large : (2 : ℕ) ^ 120 + 2 ^ 120 ≤ 2 ^ 128 := by decide
  have sats := @raised_div (total * 100000000 * 10 ^ rate.scale) _ positive
  have exact : exactSats total rate =
      ⌈((total * 100000000 * 10 ^ rate.scale : ℕ) : ℚ) / (10 ^ 2 * rate.mantissa : ℕ)⌉₊ := by
    unfold exactSats
    push_cast
    norm_num
  unfold quoteSats
  rw [if_neg (Int.natCast_nonneg total).not_gt, if_neg (by decide), Int.toNat_natCast,
    show (2 : ℤ).toNat = 2 from rfl, orOverflow_bind, orOverflow_bind,
    checkedU128_eq (show 10 ^ 2 < 2 ^ 128 by decide), orOverflow_bind,
    checkedU128_eq (power.trans_lt (show 10 ^ 8 < 2 ^ 128 by decide)), orOverflow_bind,
    checkedU128_eq (widened.trans (by decide : 2 ^ 90 < 2 ^ 128)), Option.bind_some,
    checkedU128_eq (by omega), orOverflow_bind, checkedU128_eq (by omega), orOverflow_bind,
    if_neg positive.ne', checkedU128_eq (by omega), orOverflow_bind]
  dsimp only
  rw [sats, ← exact]
  unfold ranged
  by_cases small : exactSats total rate < minQuoteSats
  · rw [if_pos small, if_pos small]
    split <;> rfl
  · have nonzero : exactSats total rate ≠ 0 := by
      intro zero
      rw [zero] at small
      exact small (by decide)
    rw [if_neg nonzero, if_neg small, if_neg small]
    by_cases cap : maxQuoteSats < exactSats total rate
    · rw [if_pos cap, if_pos cap]
    · have word : ¬ 2 ^ 64 ≤ exactSats total rate := by
        simp only [maxQuoteSats] at cap
        omega
      rw [if_neg cap, if_neg cap, if_neg word]

/-- One quote is no higher than another: too little comes before every quote, too
much after it. -/
def QuoteLE : Except FxError ℕ → Except FxError ℕ → Prop
  | .ok sats, .ok other => sats ≤ other
  | .error .belowMinimum, .ok _ => True
  | .ok _, .error .capExceeded => True
  | .error .belowMinimum, .error .capExceeded => True
  | .error reason, .error other => reason = other
  | _, _ => False

theorem ranged_mono {sats other : ℕ} (le : sats ≤ other) :
    QuoteLE (ranged sats) (ranged other) := by
  unfold ranged
  by_cases low : sats < minQuoteSats
  · rw [if_pos low]
    split
    · rfl
    · split <;> trivial
  · rw [if_neg low, if_neg (show ¬ other < minQuoteSats by omega)]
    by_cases cap : maxQuoteSats < sats
    · rw [if_pos cap, if_pos (show maxQuoteSats < other by omega)]
      rfl
    · rw [if_neg cap]
      split
      · trivial
      · exact le

theorem exactSats_mono {total more : ℤ} (rate : Decimal) (le : total ≤ more) :
    exactSats total rate ≤ exactSats more rate := by
  unfold exactSats
  have cast : (total : ℚ) ≤ more := by exact_mod_cast le
  refine Nat.ceil_mono (div_le_div_of_nonneg_right ?_ (by positivity))
  exact mul_le_mul_of_nonneg_right (mul_le_mul_of_nonneg_right cast (by positivity))
    (by positivity)

theorem exactSats_value (total : ℤ) (rate : Decimal) :
    exactSats total rate = ⌈(total * 10 ^ 8 : ℚ) / (10 ^ 2 * rate.value)⌉₊ := by
  have nonzero : (10 : ℚ) ^ rate.scale ≠ 0 := pow_ne_zero _ (by norm_num)
  unfold exactSats Decimal.value
  rw [← mul_div_mul_right (total * 10 ^ 8 : ℚ) (10 ^ 2 * (rate.mantissa / 10 ^ rate.scale)) nonzero,
    mul_assoc (10 ^ 2 : ℚ), div_mul_cancel₀ _ nonzero]

theorem exactSats_anti {total : ℤ} {rate higher : Decimal} (nonnegative : 0 ≤ total)
    (positive : 0 < rate.mantissa) (le : rate.value ≤ higher.value) :
    exactSats total higher ≤ exactSats total rate := by
  have cast : (0 : ℚ) ≤ total := by exact_mod_cast nonnegative
  have value : 0 < rate.value := div_pos (by exact_mod_cast positive) (by positivity)
  rw [exactSats_value, exactSats_value]
  exact Nat.ceil_mono (div_le_div_of_nonneg_left (by positivity) (by positivity)
    (mul_le_mul_of_nonneg_left le (by positivity)))

theorem widest_le {rates : List Decimal} {bound : ℕ} (all : ∀ rate ∈ rates, rate.scale ≤ bound) :
    (rates.map Decimal.scale).foldr max 0 ≤ bound := by
  induction rates with
  | nil => exact Nat.zero_le bound
  | cons head rest ih =>
      rw [List.map_cons, List.foldr_cons]
      exact max_le (all head List.mem_cons_self)
        (ih fun rate member => all rate (List.mem_cons_of_mem head member))

theorem median_isSome {rates : List Decimal} (enough : referenceMinSamples ≤ rates.length)
    (sampled : ∀ rate ∈ rates, ∃ text, Decimal.parse text = some rate ∧ rate.inBounds = true) :
    (median rates).isSome = true := by
  have widest : (rates.map Decimal.scale).foldr max 0 ≤ 8 := by
    refine widest_le fun rate member => ?_
    obtain ⟨text, parsed, -⟩ := sampled rate member
    exact (Decimal.parse_ok parsed).1
  have wide : rates.all (fun rate =>
      (rate.widened ((rates.map Decimal.scale).foldr max 0)).isSome) = true := by
    rw [List.all_eq_true]
    intro rate member
    obtain ⟨text, parsed, bounded⟩ := sampled rate member
    obtain ⟨short, fits, -⟩ := Decimal.parse_ok parsed
    have high := (Decimal.inBounds_mantissa short fits bounded).2
    have own := scale_le_widest member
    generalize (rates.map Decimal.scale).foldr max 0 = scale at widest own
    have factor : 10 ^ (scale - rate.scale) ≤ 10 ^ 8 :=
      Nat.pow_le_pow_right (by decide) (by omega)
    have product : rate.mantissa * 10 ^ (scale - rate.scale) ≤ 10 ^ 14 := by
      calc rate.mantissa * 10 ^ (scale - rate.scale)
          ≤ rateMaxUsd * 10 ^ rate.scale * 10 ^ (scale - rate.scale) :=
            Nat.mul_le_mul_right _ high
        _ = rateMaxUsd * 10 ^ scale := by rw [mul_assoc, ← pow_add, Nat.add_sub_cancel' own]
        _ ≤ rateMaxUsd * 10 ^ 8 :=
            Nat.mul_le_mul_left _ (Nat.pow_le_pow_right (by decide) widest)
        _ = 10 ^ 14 := rfl
    rw [Decimal.widened, if_neg own.not_gt, checkedU128_eq (factor.trans_lt (by decide)),
      Option.bind_some, checkedU128_eq (product.trans_lt (by decide))]
    rfl
  have middle : rates.length / 2 < rates.length := by
    simp only [referenceMinSamples] at enough
    omega
  unfold median
  rw [if_neg enough.not_gt, if_pos wide, List.getElem?_eq_getElem (by rwa [List.length_mergeSort])]
  rfl

/-- The rates and quotes of the USD reference. -/
theorem fx_quotes_exact (text : String) (rate : Decimal)
    (accepted : Decimal.parse text = some rate) :
    -- The text of an accepted rate reads back as the rate.
    Decimal.parse rate.toStringValue = some rate ∧
    -- A quote is the exact ceiling or the error of its range; it grows with the
    -- total and falls with the rate.
    (rate.inBounds = true → ∀ total : ℤ, 0 ≤ total → total < 2 ^ 63 →
      quoteSats total 2 rate =
        ranged ⌈(total * 10 ^ 8 * 10 ^ rate.scale : ℚ) / (10 ^ 2 * rate.mantissa)⌉₊ ∧
      (∀ more, total ≤ more → more < 2 ^ 63 →
        QuoteLE (quoteSats total 2 rate) (quoteSats more 2 rate)) ∧
      ∀ other higher, Decimal.parse other = some higher → higher.inBounds = true →
        rate.value ≤ higher.value → QuoteLE (quoteSats total 2 higher) (quoteSats total 2 rate)) ∧
    -- The median is a sample in the middle, and reference samples have one.
    (∀ rates middle, median rates = some middle → middle ∈ rates ∧
      2 * rates.countP (fun sample => sample.value < middle.value) ≤ rates.length ∧
      2 * rates.countP (fun sample => middle.value < sample.value) ≤ rates.length) ∧
    ∀ rates : List Decimal, referenceMinSamples ≤ rates.length →
      (∀ sample ∈ rates, ∃ source, Decimal.parse source = some sample ∧ sample.inBounds = true) →
      (median rates).isSome = true := by
  obtain ⟨short, fits, bounded⟩ := Decimal.parse_ok accepted
  have quoted {source : String} {sample : Decimal} (parsed : Decimal.parse source = some sample)
      (inside : sample.inBounds = true) {total : ℤ} (nonnegative : 0 ≤ total)
      (word : total < 2 ^ 63) :
      0 < sample.mantissa ∧ quoteSats total 2 sample = ranged (exactSats total sample) := by
    obtain ⟨scale, mantissa, -⟩ := Decimal.parse_ok parsed
    obtain ⟨low, high⟩ := Decimal.inBounds_mantissa scale mantissa inside
    obtain ⟨cents, rfl⟩ := Int.eq_ofNat_of_zero_le nonnegative
    refine ⟨(Nat.mul_pos (by decide) (Nat.pow_pos (by decide))).trans_le low, ?_⟩
    exact quoteSats_eq (by exact_mod_cast word) scale low high
  refine ⟨Decimal.parse_toStringValue short fits bounded, ?_, fun rates middle => median_ok,
    fun rates => median_isSome⟩
  intro inside total nonnegative word
  obtain ⟨positive, quote⟩ := quoted accepted inside nonnegative word
  refine ⟨quote, ?_, ?_⟩
  · intro more le moreWord
    rw [quote, (quoted accepted inside (nonnegative.trans le) moreWord).2]
    exact ranged_mono (exactSats_mono rate le)
  · intro other higher parsed higherInside le
    rw [quote, (quoted parsed higherInside nonnegative word).2]
    exact ranged_mono (exactSats_anti nonnegative positive le)

/-- At 77197.5 dollars a bitcoin, ten dollars are 12954 satoshis. -/
theorem ten_dollars_quoted :
    ∃ rate, Decimal.parse "77197.5" = some rate ∧ rate.inBounds = true ∧
      Decimal.parse rate.toStringValue = some rate ∧ quoteSats 1000 2 rate = .ok 12954 ∧
      QuoteLE (quoteSats 1000 2 rate) (quoteSats 2000 2 rate) := by
  have law := fx_quotes_exact "77197.5" ⟨771975, 1⟩ (by decide)
  have more := (law.2.1 (by decide) 1000 (by decide) (by decide)).2.1 2000 (by decide) (by decide)
  exact ⟨⟨771975, 1⟩, by decide, by decide, law.1, by decide, more⟩

end MarketplaceService
