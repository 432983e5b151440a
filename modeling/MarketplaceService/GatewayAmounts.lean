import MarketplaceService.RefundInbox
import Mathlib.Tactic.NormNum

/-!
Money texts of the PayPal gateway (`payment_methods.rs`): the query of the
checkout URL with the amount the buyer is asked for, and the parser of the
amounts that notifications carry. Both fix the number of fraction digits by the
exponent of the order; at exponent zero the checkout still prints one.
-/

namespace MarketplaceService

open DigitText

/-- The columns of the order that the checkout URL is made from. -/
structure PaypalOrder where
  id : String
  totalMinor : ℤ
  currency : String
  exponent : ℤ
deriving DecidableEq, Repr

/-- The format `{}` of an `i64`. -/
def intText (number : ℤ) : List Char :=
  if number < 0 then '-' :: Nat.toDigits 10 number.natAbs else Nat.toDigits 10 number.natAbs

/-- The format `{:0width$}` of an `i64`. -/
def paddedText (width : ℕ) (number : ℤ) : List Char :=
  if number < 0 then '-' :: pad (width - 1) number.natAbs else pad width number.natAbs

/-- The amount of the checkout URL; division and remainder truncate. -/
def paypalAmount (totalMinor : ℤ) (exponent : ℕ) : List Char :=
  let scale : ℤ := 10 ^ exponent
  intText (totalMinor.tdiv scale) ++ '.' :: paddedText exponent (totalMinor.tmod scale)

def trimEndSlashes (origin : String) : String :=
  String.ofList (origin.toList.reverse.dropWhile (fun char => char == '/')).reverse

/-- The query of `paypal_checkout_url`. -/
def paypalCheckoutQuery (merchantEmail : String) (order : PaypalOrder)
    (returnOrigin notifyOrigin : Option String) : Except String (List (String × String)) :=
  if order.exponent < 0 ∨ 4 < order.exponent then
    .error "the order currency exponent is outside PayPal's supported range"
  else
    let amount := String.ofList (paypalAmount order.totalMinor order.exponent.toNat)
    let returns := match returnOrigin with
      | none => []
      | some origin =>
          let ordersUrl := trimEndSlashes origin ++ "/marketplace/orders"
          [("return", ordersUrl), ("cancel_return", ordersUrl)]
    let notifies := match notifyOrigin with
      | none => []
      | some origin => [("notify_url", trimEndSlashes origin ++ "/v0/paypal/ipn")]
    .ok ([("cmd", "_xclick"), ("business", merchantEmail), ("item_name", "Order " ++ order.id),
      ("amount", amount), ("currency_code", order.currency), ("custom", order.id),
      ("no_shipping", "1"), ("no_note", "1")] ++ returns ++ notifies)

/-- `parse_gateway_amount_minor` at an exponent of any sign. -/
def gatewayAmountMinor (value : String) (exponent : ℤ) : Option ℤ :=
  if exponent < 0 then none
  else (parseGatewayAmountMinor value.toList exponent.toNat).map Int.ofNat

/-! Texts of digits. -/

theorem checkedI64_some {value result : ℕ} (checked : checkedI64 value = some result) :
    value ≤ i64Max ∧ value = result := by
  obtain ⟨fits, same⟩ := Option.ite_none_right_eq_some.mp checked
  exact ⟨fits, Option.some.inj same⟩

/-- What an accepted text spells: the digits before and after the point, as many
after it as the exponent says. -/
theorem parseGatewayAmountMinor_ok {value : List Char} {exponent amount : ℕ}
    (parsed : parseGatewayAmountMinor value exponent = some amount) :
    ∃ whole fraction, parts '.' value = (whole, fraction) ∧
      fraction.all Char.isDigit = true ∧ exponent = fraction.length ∧
      amount = readDigits whole * 10 ^ fraction.length + readDigits fraction := by
  unfold parseGatewayAmountMinor at parsed
  dsimp only at parsed
  split at parsed
  · cases parsed
  split at parsed
  · cases parsed
  rename_i fractionShape
  simp only [Bool.or_eq_true, decide_eq_true_eq, Bool.not_eq_true', not_or, not_not,
    Bool.not_eq_false] at fractionShape
  obtain ⟨scale, scaleFits, parsed⟩ := Option.bind_eq_some_iff.mp parsed
  obtain ⟨wholeValue, wholeRead, parsed⟩ := Option.bind_eq_some_iff.mp parsed
  obtain ⟨fractionValue, fractionRead, parsed⟩ := Option.bind_eq_some_iff.mp parsed
  obtain ⟨scaled, scaledFits, parsed⟩ := Option.bind_eq_some_iff.mp parsed
  obtain ⟨-, rfl⟩ := checkedI64_some scaleFits
  obtain ⟨-, rfl⟩ := checkedI64_some wholeRead
  obtain ⟨-, rfl⟩ := checkedI64_some fractionRead
  obtain ⟨-, rfl⟩ := checkedI64_some scaledFits
  obtain ⟨-, rfl⟩ := checkedI64_some parsed
  refine ⟨_, _, rfl, fractionShape.2, fractionShape.1.symm, ?_⟩
  rw [fractionShape.1]

theorem parseGatewayAmountMinor_of_shape {value whole fraction : List Char}
    (split : parts '.' value = (whole, fraction)) (wholeSome : whole ≠ [])
    (wholeDigits : whole.all Char.isDigit = true)
    (fractionDigits : fraction.all Char.isDigit = true)
    (short : fraction.length ≤ 4)
    (fits : readDigits whole * 10 ^ fraction.length + readDigits fraction ≤ i64Max) :
    parseGatewayAmountMinor value fraction.length =
      some (readDigits whole * 10 ^ fraction.length + readDigits fraction) := by
  have scaleFits : 10 ^ fraction.length ≤ i64Max :=
    (Nat.pow_le_pow_right (by decide) short).trans (by decide)
  have scaledFits : readDigits whole * 10 ^ fraction.length ≤ i64Max :=
    (Nat.le_add_right _ _).trans fits
  have wholeFits : readDigits whole ≤ i64Max :=
    (Nat.le_mul_of_pos_right _ (Nat.pow_pos (by decide))).trans scaledFits
  have fractionFits : readDigits fraction ≤ i64Max := (Nat.le_add_left _ _).trans fits
  unfold parseGatewayAmountMinor
  obtain ⟨first, second⟩ := Prod.mk.inj split
  rw [first, second, if_neg (by simp [wholeSome, wholeDigits]), if_neg (by simp [fractionDigits])]
  refine Option.bind_eq_some_iff.mpr ⟨_, if_pos scaleFits, ?_⟩
  refine Option.bind_eq_some_iff.mpr ⟨_, if_pos wholeFits, ?_⟩
  refine Option.bind_eq_some_iff.mpr ⟨_, if_pos fractionFits, ?_⟩
  refine Option.bind_eq_some_iff.mpr ⟨_, if_pos scaledFits, ?_⟩
  exact if_pos fits

theorem paypalCheckoutQuery_amount {merchantEmail : String} {order : PaypalOrder}
    {returnOrigin notifyOrigin : Option String} {pairs : List (String × String)}
    (accepted : paypalCheckoutQuery merchantEmail order returnOrigin notifyOrigin = .ok pairs) :
    0 ≤ order.exponent ∧ order.exponent ≤ 4 ∧
      pairs.lookup "amount" =
        some (String.ofList (paypalAmount order.totalMinor order.exponent.toNat)) := by
  unfold paypalCheckoutQuery at accepted
  split at accepted
  · cases accepted
  · rename_i range
    cases accepted
    exact ⟨by omega, by omega, rfl⟩

theorem paypalAmount_parts (total exponent : ℕ) :
    parts '.' (paypalAmount total exponent) =
      (Nat.toDigits 10 (total / 10 ^ exponent), pad exponent (total % 10 ^ exponent)) := by
  have whole : (total : ℤ).tdiv (10 ^ exponent) = ((total / 10 ^ exponent : ℕ) : ℤ) := by
    rw [Int.tdiv_eq_ediv_of_nonneg (Int.natCast_nonneg total)]
    push_cast
    rfl
  have fraction : (total : ℤ).tmod (10 ^ exponent) = ((total % 10 ^ exponent : ℕ) : ℤ) := by
    rw [Int.tmod_eq_emod_of_nonneg (Int.natCast_nonneg total)]
    push_cast
    rfl
  have free : '.' ∉ Nat.toDigits 10 (total / 10 ^ exponent) := by
    intro member
    cases Nat.isDigit_of_mem_toDigits (by decide) (by decide) member
  unfold paypalAmount
  dsimp only
  rw [whole, fraction, intText, if_neg (Int.natCast_nonneg _).not_gt, paddedText,
    if_neg (Int.natCast_nonneg _).not_gt, Int.natAbs_natCast, Int.natAbs_natCast,
    parts_append _ free]

theorem toDigits_all (number : ℕ) : (Nat.toDigits 10 number).all Char.isDigit = true :=
  List.all_eq_true.mpr fun _ member => Nat.isDigit_of_mem_toDigits (by decide) (by decide) member

theorem parse_paypalAmount (total exponent : ℕ) (fits : total ≤ i64Max) (short : exponent ≤ 4) :
    parseGatewayAmountMinor (paypalAmount total exponent) exponent = some total ↔
      exponent ≠ 0 := by
  have split := paypalAmount_parts total exponent
  constructor
  · rintro parsed rfl
    -- A width of zero still prints the remainder `0`.
    obtain ⟨whole, fraction, same, -, length, -⟩ := parseGatewayAmountMinor_ok parsed
    cases split.symm.trans same
    rw [pow_zero, Nat.mod_one] at length
    cases length
  · intro wide
    have length : (pad exponent (total % 10 ^ exponent)).length = exponent :=
      pad_length_of_lt (Nat.pos_of_ne_zero wide) (Nat.mod_lt _ (Nat.pow_pos (by decide)))
    have value : readDigits (Nat.toDigits 10 (total / 10 ^ exponent)) *
          10 ^ (pad exponent (total % 10 ^ exponent)).length +
        readDigits (pad exponent (total % 10 ^ exponent)) = total := by
      rw [length, readDigits_pad, readDigits, Nat.ofDigitChars_ten_toDigits]
      exact Nat.div_add_mod' total (10 ^ exponent)
    have parsed := parseGatewayAmountMinor_of_shape split Nat.toDigits_ne_nil (toDigits_all _)
      (pad_all _ _) (length.trans_le short) (value.trans_le fits)
    rw [value, length] at parsed
    exact parsed

/-- The amount that a PayPal checkout asks for is recognized exactly when the
order's currency has fraction digits; whatever the parser accepts denotes the
amount it returns. -/
theorem paypal_amounts_read_back (merchantEmail : String) (order : PaypalOrder)
    (returnOrigin notifyOrigin : Option String) (pairs : List (String × String))
    (nonnegative : 0 ≤ order.totalMinor) (fits : order.totalMinor < 2 ^ 63)
    (accepted : paypalCheckoutQuery merchantEmail order returnOrigin notifyOrigin = .ok pairs) :
    ((pairs.lookup "amount").bind (fun amount => gatewayAmountMinor amount order.exponent) =
        some order.totalMinor ↔ order.exponent ≠ 0) ∧
    ∀ text exponent amount, gatewayAmountMinor text exponent = some amount →
      0 ≤ exponent ∧ decimalValue text.toList * 10 ^ exponent.toNat = amount := by
  constructor
  · obtain ⟨low, high, asked⟩ := paypalCheckoutQuery_amount accepted
    obtain ⟨total, totalIs⟩ := Int.eq_ofNat_of_zero_le nonnegative
    obtain ⟨exponent, exponentIs⟩ := Int.eq_ofNat_of_zero_le low
    have bound : total ≤ i64Max := by
      rw [totalIs] at fits
      exact Nat.le_sub_one_of_lt (by exact_mod_cast fits)
    rw [asked, Option.bind_some, gatewayAmountMinor, if_neg low.not_gt, String.toList_ofList,
      totalIs, exponentIs, Int.toNat_natCast, Int.natCast_ne_zero]
    rw [← parse_paypalAmount total exponent bound (by omega)]
    constructor
    · intro parsed
      obtain ⟨amount, parsed, same⟩ := Option.map_eq_some_iff.mp parsed
      rw [parsed, Int.ofNat_inj.mp same]
    · intro parsed
      rw [parsed]
      rfl
  · intro text exponent amount parsed
    obtain ⟨positive, parsed⟩ := Option.ite_none_left_eq_some.mp parsed
    obtain ⟨read, accepted, rfl⟩ := Option.map_eq_some_iff.mp parsed
    obtain ⟨whole, fraction, split, fractionDigits, length, rfl⟩ :=
      parseGatewayAmountMinor_ok accepted
    refine ⟨not_lt.mp positive, ?_⟩
    rw [length, decimalValue_parts split fractionDigits]
    rfl

def dollarOrder (totalMinor : ℤ) : PaypalOrder := ⟨"lamp", totalMinor, "USD", 2⟩
def yenOrder (totalMinor : ℤ) : PaypalOrder := ⟨"lamp", totalMinor, "JPY", 0⟩

theorem dollar_amount_reads_back :
    ∃ pairs, paypalCheckoutQuery "seller@shop" (dollarOrder 14796) none none = .ok pairs ∧
      pairs.lookup "amount" = some "147.96" ∧
      (pairs.lookup "amount").bind (fun amount => gatewayAmountMinor amount 2) =
        some 14796 :=
  ⟨_, rfl, by decide, (paypal_amounts_read_back "seller@shop" (dollarOrder 14796) none none _
    (by decide) (by decide) rfl).1.mpr (by decide)⟩

/-- An order of 500 yen is asked for as `500.0`, which the parser refuses. -/
theorem yen_amount_is_refused :
    ∃ pairs, paypalCheckoutQuery "seller@shop" (yenOrder 500) none none = .ok pairs ∧
      pairs.lookup "amount" = some "500.0" ∧ gatewayAmountMinor "500.0" 0 = none :=
  ⟨_, rfl, rfl, by decide⟩

end MarketplaceService
