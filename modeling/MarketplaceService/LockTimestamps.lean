import MarketplaceService.Lib.CalendarTime

/-!
The RFC 3339 adapter of content locks: a strict shape in front of the reader, and a
printer that trims the fraction. The fraction of a leap second is printed with the
second in front of it, as ten digits of which nine are read back.
-/

namespace MarketplaceService.ContentLocks

open CalendarTime

def asBytes (text : List Char) : List UInt8 := text.flatMap String.utf8EncodeChar

def strictShape (text : List Char) : Bool :=
  let bytes := asBytes text
  decide (20 ≤ bytes.length) && bytes[4]? == some '-'.toUInt8 && bytes[7]? == some '-'.toUInt8 &&
    bytes[10]? == some 'T'.toUInt8 && bytes[13]? == some ':'.toUInt8 &&
    bytes[16]? == some ':'.toUInt8 && text.getLast? != some 'z'

/-- `trim_end_matches('0')`. -/
def trimEndZeros (text : List Char) : List Char := text.rdropWhile fun char => char == '0'

/-- `format!(".{:09}", _)`, trimmed. -/
def trimmedFraction (nanos : ℕ) : List Char := trimEndZeros ('.' :: DigitText.pad 9 nanos)

def serialize (value : OffsetDateTime) : List Char :=
  if value.offset = 0 then
    if value.time.nanos = 0 then secondsText value.time ++ ['Z']
    else secondsText value.time ++ trimmedFraction value.time.nanos ++ ['Z']
  else if value.time.nanos = 0 then secondsText value.time ++ offsetText value.offset
  else secondsText value.time ++ trimmedFraction value.time.nanos ++ offsetText value.offset

def deserialize (text : List Char) : Option OffsetDateTime :=
  if strictShape text then parseFromRfc3339 text else none

/-! The fraction. -/

/-- What the printed fraction reads as. -/
def rereadNanos (nanos : ℕ) : ℕ := if nanos < nanosOfSecond then nanos else nanos / 10

theorem rereadNanos_lt {nanos : ℕ} (inside : nanos < 2 * nanosOfSecond) :
    rereadNanos nanos < nanosOfSecond := by
  unfold rereadNanos nanosOfSecond at *
  split <;> omega

theorem trimmedFraction_cons (nanos : ℕ) :
    trimmedFraction nanos = '.' :: trimEndZeros (DigitText.pad 9 nanos) := by
  unfold trimmedFraction trimEndZeros List.rdropWhile
  rw [List.reverse_cons, List.dropWhile_append]
  cases left : (DigitText.pad 9 nanos).reverse.dropWhile fun char => char == '0' with
  | nil => rfl
  | cons head rest => simp

theorem trimEndZeros_append (text : List Char) :
    ∃ zeros, trimEndZeros text ++ List.replicate zeros '0' = text := by
  have trimmed : text.rtakeWhile (fun char => char == '0') =
      List.replicate (text.rtakeWhile fun char => char == '0').length '0' := by
    rw [List.eq_replicate_iff]
    refine ⟨rfl, fun char member => ?_⟩
    simpa using List.mem_rtakeWhile_imp member
  exact ⟨_, by rw [← trimmed]; exact List.rdropWhile_append_rtakeWhile⟩

theorem readDigits_trimmed (text : List Char) (long : 9 ≤ text.length) :
    DigitText.readDigits ((trimEndZeros text).take 9) *
        10 ^ (9 - ((trimEndZeros text).take 9).length) =
      DigitText.readDigits (text.take 9) := by
  obtain ⟨zeros, whole⟩ := trimEndZeros_append text
  have total := congrArg List.length whole
  rw [List.length_append, List.length_replicate] at total
  have taken : text.take 9 = (trimEndZeros text).take 9 ++
      List.replicate (9 - ((trimEndZeros text).take 9).length) '0' := by
    conv_lhs => rw [← whole, List.take_append, List.take_replicate]
    rw [List.length_take]
    congr 2
    omega
  have nothing (count : ℕ) : DigitText.readDigits (List.replicate count '0') = 0 := by
    unfold DigitText.readDigits
    rw [Nat.ofDigitChars_replicate_zero, Nat.mul_zero]
  rw [taken, DigitText.readDigits_append, nothing, List.length_replicate, Nat.add_zero]

theorem readDigits_nine {nanos : ℕ} (inside : nanos < 2 * nanosOfSecond) :
    DigitText.readDigits ((DigitText.pad 9 nanos).take 9) = rereadNanos nanos := by
  have own := DigitText.readDigits_pad 9 nanos
  unfold rereadNanos
  unfold nanosOfSecond at *
  split
  case isTrue short =>
    rw [List.take_of_length_le (DigitText.pad_length_of_lt (by decide) short).le, own]
  case isFalse leap =>
    have long : (DigitText.pad 9 nanos).length = 10 := by
      rw [DigitText.pad_length]
      have ten := (Nat.length_toDigits_le_iff (n := nanos) (show 1 < 10 by decide)
        (show 0 < 10 by decide)).mpr (by omega)
      have nine := mt (Nat.length_toDigits_le_iff (n := nanos) (show 1 < 10 by decide)
        (show 0 < 9 by decide)).mp (by omega)
      omega
    have last := DigitText.readDigits_lt ((DigitText.pad 9 nanos).drop 9) (by
      rw [List.all_eq_true]
      intro char member
      exact List.all_eq_true.mp (DigitText.pad_all 9 nanos) char (List.mem_of_mem_drop member))
    have parts := DigitText.readDigits_append ((DigitText.pad 9 nanos).take 9)
      ((DigitText.pad 9 nanos).drop 9)
    rw [List.take_append_drop, own, List.length_drop, long] at parts
    rw [List.length_drop, long] at last
    omega

theorem scanFraction_trimmed {nanos : ℕ} {zone : List Char} (started : nanos ≠ 0)
    (inside : nanos < 2 * nanosOfSecond)
    (stops : ∀ char, zone.head? = some char → char.isDigit = false) :
    scanFraction (trimmedFraction nanos ++ zone) = some (rereadNanos nanos, zone) := by
  obtain ⟨zeros, whole⟩ := trimEndZeros_append (DigitText.pad 9 nanos)
  have own := DigitText.readDigits_pad 9 nanos
  have digits : (trimEndZeros (DigitText.pad 9 nanos)).all Char.isDigit = true := by
    have all := DigitText.pad_all 9 nanos
    rw [← whole, List.all_append, Bool.and_eq_true] at all
    exact all.1
  have nonempty : trimEndZeros (DigitText.pad 9 nanos) ≠ [] := by
    intro empty
    rw [← whole, empty, List.nil_append, DigitText.readDigits, Nat.ofDigitChars_replicate_zero,
      Nat.mul_zero] at own
    exact started own.symm
  have long : 9 ≤ (DigitText.pad 9 nanos).length := by
    rw [DigitText.pad_length]
    exact le_max_left _ _
  rw [trimmedFraction_cons, List.cons_append]
  change scanNanosecond _ = _
  rw [scanNanosecond_digits nonempty digits stops, readDigits_trimmed _ long,
    readDigits_nine inside]

/-! The shape. -/

def isAscii (char : Char) : Bool := decide (char.val ≤ 127)

theorem asBytes_ascii {text : List Char} (ascii : ∀ char ∈ text, isAscii char = true) :
    asBytes text = text.map fun char => char.val.toUInt8 := by
  unfold asBytes
  induction text with
  | nil => rfl
  | cons char rest ih =>
      obtain ⟨own, others⟩ := List.forall_mem_cons.mp ascii
      rw [List.flatMap_cons, ih others, List.map_cons, String.utf8EncodeChar_eq_singleton
        (Char.utf8Size_eq_one_iff.mpr (of_decide_eq_true own)), List.singleton_append]

theorem isAscii_of_isDigit {char : Char} (digit : char.isDigit = true) : isAscii char = true := by
  simp only [Char.isDigit, Bool.and_eq_true, decide_eq_true_eq] at digit
  have top : char.val ≤ 57 := digit.2
  exact decide_eq_true (UInt32.le_trans top (by decide))

theorem asBytes_length_pos {text : List Char} (nonempty : text ≠ []) :
    1 ≤ (asBytes text).length := by
  obtain ⟨char, rest, rfl⟩ := List.exists_cons_of_ne_nil nonempty
  unfold asBytes
  rw [List.flatMap_cons, List.length_append, String.length_utf8EncodeChar]
  have wide := char.utf8Size_pos
  omega

/-- A date and a time take nineteen characters. -/
theorem secondsText_chars {time : DateTime} (plain : 0 ≤ time.year ∧ time.year ≤ 9999) :
    ∃ a b c d e f g h i j k l m n, secondsText time =
        [a, b, c, d, '-', e, f, '-', g, h, 'T', i, j, ':', k, l, ':', m, n] ∧
      ∀ char ∈ secondsText time, isAscii char = true := by
  have two {number : ℕ} (fits : number < 100) :
      ∃ first second, DigitText.pad 2 number = [first, second] :=
    List.length_eq_two.mp (DigitText.pad_length_of_lt (by decide) fits)
  have digits (width number : ℕ) : ∀ char ∈ DigitText.pad width number, isAscii char = true :=
    fun char member =>
      isAscii_of_isDigit (List.all_eq_true.mp (DigitText.pad_all width number) char member)
  have date := time.dateInside
  have clock := time.timeInside
  have fraction := time.nanosInside
  have days : daysIn time.year time.month ≤ 31 := by
    unfold daysIn
    split_ifs <;> omega
  have leap : time.nanos / nanosOfSecond < 2 := by
    rw [Nat.div_lt_iff_lt_mul (by decide)]
    omega
  obtain ⟨a, b, c, d, year⟩ := List.length_eq_four.mp
    (DigitText.pad_length_of_lt (show 0 < 4 by decide) (show time.year.toNat < 10 ^ 4 by omega))
  obtain ⟨e, f, month⟩ := two (show time.month < 100 by omega)
  obtain ⟨g, h, day⟩ := two (show time.day < 100 by omega)
  obtain ⟨i, j, hour⟩ := two (show time.hour < 100 by omega)
  obtain ⟨k, l, minute⟩ := two (show time.minute < 100 by omega)
  obtain ⟨m, n, second⟩ := two (show time.second + time.nanos / nanosOfSecond < 100 by omega)
  refine ⟨a, b, c, d, e, f, g, h, i, j, k, l, m, n, ?_, ?_⟩
  · unfold secondsText yearText
    rw [if_pos plain, year, month, day, hour, minute, second]
    rfl
  · unfold secondsText yearText
    rw [if_pos plain]
    simp only [List.forall_mem_append, List.forall_mem_cons]
    exact ⟨digits _ _, rfl, digits _ _, rfl, digits _ _, rfl, digits _ _, rfl, digits _ _, rfl,
      digits _ _⟩

theorem strictShape_text {time : DateTime} {rest : List Char} {last : Char}
    (plain : 0 ≤ time.year ∧ time.year ≤ 9999) (ends : rest.getLast? = some last)
    (strict : last ≠ 'z') : strictShape (secondsText time ++ rest) = true := by
  obtain ⟨a, b, c, d, e, f, g, h, i, j, k, l, m, n, whole, ascii⟩ := secondsText_chars plain
  have nonempty : rest ≠ [] := by
    rintro rfl
    cases ends
  have more := asBytes_length_pos nonempty
  have bytes : asBytes (secondsText time ++ rest) =
      (secondsText time).map (fun char => char.val.toUInt8) ++ asBytes rest := by
    rw [← asBytes_ascii ascii]
    exact List.flatMap_append
  have long : 20 ≤ (asBytes (secondsText time ++ rest)).length := by
    rw [bytes, List.length_append, List.length_map, whole]
    simp only [List.length_cons, List.length_nil]
    omega
  have final : (secondsText time ++ rest).getLast? = some last := by
    rw [List.getLast?_append, ends]
    rfl
  have apart : (some last != some 'z') = true := by simpa using strict
  unfold strictShape
  simp only [final, apart, Bool.and_true, decide_eq_true long, Bool.true_and]
  rw [bytes, whole]
  rfl

/-! What is printed is read back, but for the fraction of a leap second. -/

/-- The value that the printed text reads as. -/
def reread (value : OffsetDateTime) : OffsetDateTime :=
  value.withFraction (rereadNanos value.time.nanos)
    (rereadNanos_lt (by
      have inside := value.time.nanosInside
      omega))

theorem offsetText_last (offset : ℤ) :
    ∃ last, (offsetText offset).getLast? = some last ∧ last.isDigit = true := by
  have digits := DigitText.pad_all 2 (offset.natAbs % 60)
  have last := List.getLast?_eq_some_getLast (DigitText.pad_ne_nil 2 (offset.natAbs % 60))
  refine ⟨_, ?_, List.all_eq_true.mp digits _ (List.getLast_mem (DigitText.pad_ne_nil 2 _))⟩
  unfold offsetText
  rw [List.append_cons, ← List.cons_append, List.getLast?_append, last]
  rfl

theorem serialize_parts (value : OffsetDateTime) :
    ∃ fraction zone last, serialize value = secondsText value.time ++ (fraction ++ zone) ∧
      scanFraction (fraction ++ zone) = some (rereadNanos value.time.nanos, zone) ∧
      scanOffset zone = some (value.offset, []) ∧ zone.getLast? = some last ∧ last ≠ 'z' := by
  have inside : value.time.nanos < 2 * nanosOfSecond := by
    have fraction := value.time.nanosInside
    omega
  have fraction {zone : List Char} (stops : ∀ char, zone.head? = some char → char.isDigit = false)
      (plain : scanFraction zone = some (0, zone)) :
      scanFraction ((if value.time.nanos = 0 then [] else trimmedFraction value.time.nanos) ++
        zone) = some (rereadNanos value.time.nanos, zone) := by
    split
    case isTrue zero => rw [zero]; exact plain
    case isFalse started => exact scanFraction_trimmed started inside stops
  by_cases utc : value.offset = 0
  · refine ⟨if value.time.nanos = 0 then [] else trimmedFraction value.time.nanos, ['Z'], 'Z', ?_,
      fraction (by intro char first; cases first; rfl) rfl, by rw [utc]; rfl, rfl, by decide⟩
    unfold serialize
    split_ifs <;> simp only [List.nil_append, List.append_assoc]
  · have read := scanOffset_text value.offsetInside
    obtain ⟨last, ends, digit⟩ := offsetText_last value.offset
    refine ⟨if value.time.nanos = 0 then [] else trimmedFraction value.time.nanos,
      offsetText value.offset, last, ?_, fraction ?_ ?_, read, ends, ?_⟩
    · unfold serialize
      split_ifs <;> simp only [List.nil_append, List.append_assoc]
    · intro char first
      unfold offsetText at first
      cases first
      split <;> rfl
    · unfold offsetText
      split <;> rfl
    · rintro rfl
      cases digit

theorem deserialize_serialize {value : OffsetDateTime}
    (plain : 0 ≤ value.time.year ∧ value.time.year ≤ 9999) :
    deserialize (serialize value) = some (reread value) := by
  obtain ⟨fraction, zone, last, whole, read, offset, ends, strict⟩ := serialize_parts value
  have final : (fraction ++ zone).getLast? = some last := by
    rw [List.getLast?_append, ends]
    rfl
  unfold deserialize
  rw [whole, if_pos (strictShape_text plain final strict), ← List.append_assoc]
  exact parseFromRfc3339_text plain _ read offset

/-- No leap second, or one whose fraction is the same in nine digits as in ten. -/
def Steady (value : OffsetDateTime) : Prop :=
  value.time.nanos < nanosOfSecond ∨ value.time.nanos = 1111111111

instance (value : OffsetDateTime) : Decidable (Steady value) := inferInstanceAs (Decidable (_ ∨ _))

theorem reread_of_steady {value : OffsetDateTime} (steady : Steady value) :
    reread value = value := by
  have same : value.time.nanos / nanosOfSecond * nanosOfSecond + rereadNanos value.time.nanos =
      value.time.nanos := by
    unfold Steady rereadNanos at *
    unfold nanosOfSecond at *
    split <;> omega
  simp only [reread, OffsetDateTime.withFraction, DateTime.withFraction, same]

/-- A leap second comes back as another one. -/
theorem steady_of_instant {value : OffsetDateTime}
    (same : (reread value).instant = value.instant) : Steady value := by
  have inside := value.time.nanosInside
  have nanos : value.time.nanos / nanosOfSecond * nanosOfSecond + rereadNanos value.time.nanos =
      value.time.nanos := congrArg (fun instant => instant.2.2) same
  unfold Steady rereadNanos at *
  unfold nanosOfSecond at *
  split at nanos
  case isTrue short => exact .inl short
  case isFalse leap =>
    have one : value.time.nanos / 1000000000 = 1 := by omega
    omega

theorem deserialize_year {text : List Char} {value : OffsetDateTime}
    (read : deserialize text = some value) :
    0 ≤ value.time.year ∧ value.time.year ≤ 9999 := by
  unfold deserialize at read
  split at read
  case isTrue => exact parseFromRfc3339_year read
  case isFalse => cases read

end MarketplaceService.ContentLocks
