import MarketplaceService.Lib.DigitText
import Mathlib.Data.Int.Notation
import Mathlib.Data.List.DropRight

/-!
Dates with a time of day, as `chrono` keeps, prints and reads them. A leap second
is second 59 with a fraction of a second or more, and is printed as second 60.
-/

namespace CalendarTime

def isLeapYear (year : ℤ) : Bool :=
  year % 4 == 0 && (year % 100 != 0 || year % 400 == 0)

def daysIn (year : ℤ) (month : ℕ) : ℕ :=
  if month = 2 then (if isLeapYear year then 29 else 28)
  else if month = 4 ∨ month = 6 ∨ month = 9 ∨ month = 11 then 30 else 31

def nanosOfSecond : ℕ := 1000000000

/-- `DateTime<Utc>`. -/
structure DateTime where
  year : ℤ
  month : ℕ
  day : ℕ
  hour : ℕ
  minute : ℕ
  second : ℕ
  nanos : ℕ
  yearInside : -262143 ≤ year ∧ year ≤ 262142
  dateInside : 1 ≤ month ∧ month ≤ 12 ∧ 1 ≤ day ∧ day ≤ daysIn year month
  timeInside : hour < 24 ∧ minute < 60 ∧ second < 60
  nanosInside : nanos < nanosOfSecond ∨ second = 59 ∧ nanos < 2 * nanosOfSecond
deriving DecidableEq

def DateTime.units (time : DateTime) : List ℤ :=
  [time.year, time.month, time.day, time.hour, time.minute, time.second, time.nanos]

/-- `SecondsFormat`, the two that are used. -/
inductive SecondsFormat where
  | millis
  | autoSi
deriving DecidableEq

def DateTime.truncated (time : DateTime) : SecondsFormat → DateTime
  | .millis =>
      { time with
        nanos := time.nanos / 1000000 * 1000000
        nanosInside := by
          have inside := time.nanosInside
          unfold nanosOfSecond at *
          omega }
  | .autoSi => time

def yearText (year : ℤ) : List Char :=
  if 0 ≤ year ∧ year ≤ 9999 then DigitText.pad 4 year.toNat
  else (if year < 0 then '-' else '+') :: DigitText.pad 4 year.natAbs

def fractionText (format : SecondsFormat) (nanos : ℕ) : List Char :=
  match format with
  | .millis => '.' :: DigitText.pad 3 (nanos / 1000000)
  | .autoSi =>
      if nanos = 0 then []
      else if nanos % 1000000 = 0 then '.' :: DigitText.pad 3 (nanos / 1000000)
      else if nanos % 1000 = 0 then '.' :: DigitText.pad 6 (nanos / 1000)
      else '.' :: DigitText.pad 9 nanos

/-- `to_rfc3339_opts(_, true)`. -/
def rfc3339 (format : SecondsFormat) (time : DateTime) : String :=
  String.ofList (yearText time.year ++ '-' :: (DigitText.pad 2 time.month ++
    '-' :: (DigitText.pad 2 time.day ++ 'T' :: (DigitText.pad 2 time.hour ++
    ':' :: (DigitText.pad 2 time.minute ++
    ':' :: (DigitText.pad 2 (time.second + time.nanos / nanosOfSecond) ++
      fractionText format (time.nanos % nanosOfSecond) ++ ['Z']))))))

theorem rfc3339_truncated (format : SecondsFormat) (time : DateTime) :
    rfc3339 format (time.truncated format) = rfc3339 format time := by
  cases format with
  | autoSi => rfl
  | millis =>
      have second : time.nanos / 1000000 * 1000000 / nanosOfSecond =
          time.nanos / nanosOfSecond := by
        unfold nanosOfSecond
        omega
      have fraction : time.nanos / 1000000 * 1000000 % nanosOfSecond / 1000000 =
          time.nanos % nanosOfSecond / 1000000 := by
        unfold nanosOfSecond
        omega
      simp only [rfc3339, DateTime.truncated, fractionText, second, fraction]

/-! Reading. -/

/-- `scan::number` of a fixed width. -/
def scanNumber (width : ℕ) (text : List Char) : Option (ℕ × List Char) :=
  if (text.take width).length = width ∧ (text.take width).all Char.isDigit = true then
    some (DigitText.readDigits (text.take width), text.drop width)
  else none

/-- `scan::char`, for one of the characters. -/
def scanChar (accepted : List Char) : List Char → Option (List Char)
  | [] => none
  | char :: rest => if char ∈ accepted then some rest else none

/-- `scan::nanosecond`: nine digits count, and more are passed over. -/
def scanNanosecond (text : List Char) : Option (ℕ × List Char) :=
  let digits := text.takeWhile Char.isDigit
  if digits = [] then none
  else some (DigitText.readDigits (digits.take 9) * 10 ^ (9 - (digits.take 9).length),
    text.dropWhile Char.isDigit)

def scanFraction : List Char → Option (ℕ × List Char)
  | '.' :: rest => scanNanosecond rest
  | text => some (0, text)

/-- The units below the year, as they are written. -/
structure Clock where
  month : ℕ
  day : ℕ
  hour : ℕ
  minute : ℕ
  second : ℕ
  nanos : ℕ

/-- What follows the year, up to the offset. -/
def scanClock (text : List Char) : Option (Clock × List Char) := do
  let text ← scanChar ['-'] text
  let (month, text) ← scanNumber 2 text
  let text ← scanChar ['-'] text
  let (day, text) ← scanNumber 2 text
  let text ← scanChar ['t', 'T', ' '] text
  let (hour, text) ← scanNumber 2 text
  let text ← scanChar [':'] text
  let (minute, text) ← scanNumber 2 text
  let text ← scanChar [':'] text
  let (second, text) ← scanNumber 2 text
  let (nanos, text) ← scanFraction text
  some (⟨month, day, hour, minute, second, nanos⟩, text)

def Clock.toDateTime (clock : Clock) (year : ℤ) : Option DateTime :=
  let second := if clock.second = 60 then 59 else clock.second
  let nanos := if clock.second = 60 then clock.nanos + nanosOfSecond else clock.nanos
  if inside : (-262143 ≤ year ∧ year ≤ 262142) ∧
      (1 ≤ clock.month ∧ clock.month ≤ 12 ∧ 1 ≤ clock.day ∧
        clock.day ≤ daysIn year clock.month) ∧
      (clock.hour < 24 ∧ clock.minute < 60 ∧ second < 60) ∧
      (nanos < nanosOfSecond ∨ second = 59 ∧ nanos < 2 * nanosOfSecond) then
    some ⟨year, clock.month, clock.day, clock.hour, clock.minute, second, nanos,
      inside.1, inside.2.1, inside.2.2.1, inside.2.2.2⟩
  else none

def DateTime.clock (time : DateTime) : Clock :=
  ⟨time.month, time.day, time.hour, time.minute, time.second + time.nanos / nanosOfSecond,
    time.nanos % nanosOfSecond⟩

theorem scanNumber_pad {width number : ℕ} (rest : List Char) (wide : 0 < width)
    (fits : number < 10 ^ width) :
    scanNumber width (DigitText.pad width number ++ rest) = some (number, rest) := by
  have long := DigitText.pad_length_of_lt wide fits
  unfold scanNumber
  rw [List.take_left' long, List.drop_left' long, DigitText.readDigits_pad,
    if_pos ⟨long, DigitText.pad_all width number⟩]

theorem scanChar_cons {char : Char} {accepted : List Char} (rest : List Char)
    (listed : char ∈ accepted) : scanChar accepted (char :: rest) = some rest :=
  if_pos listed

/-- A run of digits ends where something else starts. -/
theorem span_digits {digits rest : List Char} (all : digits.all Char.isDigit = true)
    (stops : ∀ char, rest.head? = some char → char.isDigit = false) :
    (digits ++ rest).takeWhile Char.isDigit = digits ∧
      (digits ++ rest).dropWhile Char.isDigit = rest := by
  have every := List.all_eq_true.mp all
  rw [List.takeWhile_append_of_pos every, List.dropWhile_append_of_pos every]
  cases rest with
  | nil => simp
  | cons char tail =>
      have stop := stops char rfl
      rw [List.takeWhile_cons, List.dropWhile_cons, stop]
      simp

theorem scanNanosecond_digits {digits rest : List Char} (nonempty : digits ≠ [])
    (all : digits.all Char.isDigit = true)
    (stops : ∀ char, rest.head? = some char → char.isDigit = false) :
    scanNanosecond (digits ++ rest) =
      some (DigitText.readDigits (digits.take 9) * 10 ^ (9 - (digits.take 9).length), rest) := by
  obtain ⟨taken, dropped⟩ := span_digits all stops
  unfold scanNanosecond
  simp only [taken, dropped, if_neg nonempty]

/-- The text of a clock whose fraction reads as `nanos`. -/
theorem scanClock_text (time : DateTime) {fraction rest : List Char} {nanos : ℕ}
    (read : scanFraction (fraction ++ rest) = some (nanos, rest)) :
    scanClock ('-' :: (DigitText.pad 2 time.month ++
      '-' :: (DigitText.pad 2 time.day ++ 'T' :: (DigitText.pad 2 time.hour ++
      ':' :: (DigitText.pad 2 time.minute ++
      ':' :: (DigitText.pad 2 (time.second + time.nanos / nanosOfSecond) ++
        (fraction ++ rest))))))) =
      some ({ time.clock with nanos := nanos }, rest) := by
  have date := time.dateInside
  have clock := time.timeInside
  have month : time.month < 10 ^ 2 := by omega
  have day : time.day < 10 ^ 2 := by
    have bound : daysIn time.year time.month ≤ 31 := by
      unfold daysIn
      split_ifs <;> omega
    omega
  have second : time.second + time.nanos / nanosOfSecond < 10 ^ 2 := by
    have leap : time.nanos / nanosOfSecond < 2 := by
      rw [Nat.div_lt_iff_lt_mul (by decide)]
      have inside := time.nanosInside
      omega
    omega
  unfold scanClock
  simp only [Option.bind_eq_bind, Option.bind_some,
    scanChar_cons _ (show '-' ∈ ['-'] by decide), scanNumber_pad _ (by decide) month,
    scanNumber_pad _ (by decide) day, scanChar_cons _ (show 'T' ∈ ['t', 'T', ' '] by decide),
    scanNumber_pad _ (by decide) (show time.hour < 10 ^ 2 by omega),
    scanChar_cons _ (show ':' ∈ [':'] by decide),
    scanNumber_pad _ (by decide) (show time.minute < 10 ^ 2 by omega),
    scanNumber_pad _ (by decide) second, read]
  rfl

def DateTime.withFraction (time : DateTime) (nanos : ℕ) (inside : nanos < nanosOfSecond) :
    DateTime :=
  { time with
    nanos := time.nanos / nanosOfSecond * nanosOfSecond + nanos
    nanosInside := by
      have fraction := time.nanosInside
      unfold nanosOfSecond at *
      omega }

theorem withFraction_own (time : DateTime)
    (inside : time.nanos % nanosOfSecond < nanosOfSecond) :
    time.withFraction (time.nanos % nanosOfSecond) inside = time := by
  have own : time.nanos / nanosOfSecond * nanosOfSecond + time.nanos % nanosOfSecond =
      time.nanos := Nat.div_add_mod' _ _
  simp only [DateTime.withFraction, own]

theorem toDateTime_clock (time : DateTime) {nanos : ℕ} (inside : nanos < nanosOfSecond) :
    ({ time.clock with nanos := nanos } : Clock).toDateTime time.year =
      some (time.withFraction nanos inside) := by
  have clock := time.timeInside
  have fraction := time.nanosInside
  by_cases leap : time.nanos < nanosOfSecond
  · have whole : time.nanos / nanosOfSecond = 0 := Nat.div_eq_of_lt leap
    have second : time.second ≠ 60 := by omega
    unfold Clock.toDateTime DateTime.clock
    simp only [whole, Nat.add_zero, if_neg second]
    rw [dif_pos ⟨time.yearInside, time.dateInside, time.timeInside, .inl inside⟩]
    simp only [DateTime.withFraction, whole, Nat.zero_mul, Nat.zero_add]
  · have last : time.second = 59 ∧ time.nanos < 2 * nanosOfSecond := by omega
    have whole : time.nanos / nanosOfSecond = 1 :=
      Nat.div_eq_of_lt_le (by omega) (by omega)
    have bound : nanos + nanosOfSecond < 2 * nanosOfSecond := by omega
    unfold Clock.toDateTime DateTime.clock
    simp only [whole, last.1, Nat.reduceAdd, if_true]
    rw [dif_pos ⟨time.yearInside, time.dateInside, ⟨clock.1, clock.2.1, by decide⟩,
      .inr ⟨trivial, bound⟩⟩]
    simp only [DateTime.withFraction, whole, last.1, Nat.one_mul, Nat.add_comm]

/-! Times in UTC. -/

/-- A year of four digits, or of any number of digits behind a sign. -/
def scanYear : List Char → Option (ℤ × List Char)
  | '+' :: rest =>
      some (DigitText.readDigits (rest.takeWhile Char.isDigit), rest.dropWhile Char.isDigit)
  | '-' :: rest =>
      some (-DigitText.readDigits (rest.takeWhile Char.isDigit), rest.dropWhile Char.isDigit)
  | text => (scanNumber 4 text).map fun (year, rest) => (↑year, rest)

/-- A text that ends in `Z`. -/
def readUtc (text : String) : Option DateTime := do
  let (year, text) ← scanYear text.toList
  let (clock, text) ← scanClock text
  if text = ['Z'] then clock.toDateTime year else none

theorem scanYear_text (year : ℤ) (rest : List Char)
    (stops : ∀ char, rest.head? = some char → char.isDigit = false) :
    scanYear (yearText year ++ rest) = some (year, rest) := by
  have signed := span_digits (DigitText.pad_all 4 year.natAbs) stops
  unfold yearText
  split
  case isTrue plain =>
    have scanned := scanNumber_pad rest (show 0 < 4 by decide)
      (show year.toNat < 10 ^ 4 by omega)
    have whole : ((year.toNat : ℕ) : ℤ) = year := Int.toNat_of_nonneg plain.1
    have digit : ∀ char ∈ (DigitText.pad 4 year.toNat ++ rest).head?, char.isDigit = true := by
      intro char first
      cases digits : DigitText.pad 4 year.toNat with
      | nil => exact absurd digits (DigitText.pad_ne_nil 4 year.toNat)
      | cons head tail =>
          rw [digits, List.cons_append, List.head?_cons, Option.mem_some_iff] at first
          have all := DigitText.pad_all 4 year.toNat
          rw [digits, List.all_cons, Bool.and_eq_true] at all
          rw [← first]
          exact all.1
    unfold scanYear
    split
    case h_1 other same => exact absurd (digit '+' (by rw [same]; rfl)) (by decide)
    case h_2 other same => exact absurd (digit '-' (by rw [same]; rfl)) (by decide)
    case h_3 =>
      rw [scanned]
      exact congrArg (fun year => some (year, rest)) whole
  case isFalse =>
    by_cases negative : year < 0
    · rw [if_pos negative, List.cons_append]
      unfold scanYear
      simp only [signed.1, signed.2, DigitText.readDigits_pad,
        Option.some.injEq, Prod.mk.injEq, and_true]
      omega
    · rw [if_neg negative, List.cons_append]
      unfold scanYear
      simp only [signed.1, signed.2, DigitText.readDigits_pad,
        Option.some.injEq, Prod.mk.injEq, and_true]
      omega

theorem scanFraction_text (format : SecondsFormat) {nanos : ℕ} (inside : nanos < nanosOfSecond) :
    scanFraction (fractionText format nanos ++ ['Z']) =
      some (match format with
        | .millis => nanos / 1000000 * 1000000
        | .autoSi => nanos, ['Z']) := by
  have digits (width number : ℕ) (wide : 0 < width) (narrow : width ≤ 9)
      (fits : number < 10 ^ width) :
      scanFraction (('.' :: DigitText.pad width number) ++ ['Z']) =
        some (number * 10 ^ (9 - width), ['Z']) := by
    have long := DigitText.pad_length_of_lt wide fits
    change scanNanosecond (DigitText.pad width number ++ ['Z']) = _
    rw [scanNanosecond_digits (DigitText.pad_ne_nil width number)
      (DigitText.pad_all width number) (by
        intro char first
        cases first
        rfl),
      List.take_of_length_le (by rw [long]; exact narrow), DigitText.readDigits_pad, long]
  unfold nanosOfSecond at inside
  cases format with
  | millis => exact digits 3 (nanos / 1000000) (by decide) (by decide) (by omega)
  | autoSi =>
      unfold fractionText
      simp only
      split
      case isTrue zero =>
        rw [zero]
        rfl
      case isFalse =>
        split
        case isTrue whole =>
          rw [digits 3 (nanos / 1000000) (by decide) (by decide) (by omega)]
          simp only [Option.some.injEq, Prod.mk.injEq, and_true]
          omega
        case isFalse =>
          split
          case isTrue whole =>
            rw [digits 6 (nanos / 1000) (by decide) (by decide) (by omega)]
            simp only [Option.some.injEq, Prod.mk.injEq, and_true]
            omega
          case isFalse =>
            rw [digits 9 nanos (by decide) (by decide) (by omega)]
            simp

theorem readUtc_rfc3339 (format : SecondsFormat) (time : DateTime) :
    readUtc (rfc3339 format time) = some (time.truncated format) := by
  have inside : time.nanos % nanosOfSecond < nanosOfSecond := Nat.mod_lt _ (by decide)
  have read := scanClock_text time (scanFraction_text format inside)
  unfold readUtc rfc3339
  rw [String.toList_ofList]
  simp only [List.append_assoc]
  rw [scanYear_text _ _ (by
    intro char first
    cases first
    rfl)]
  simp only [Option.bind_eq_bind, Option.bind_some, read, if_true]
  cases format with
  | autoSi => rw [toDateTime_clock time inside, withFraction_own]; rfl
  | millis =>
      have kept : time.nanos % nanosOfSecond / 1000000 * 1000000 < nanosOfSecond := by
        unfold nanosOfSecond at *
        omega
      have same : time.nanos / nanosOfSecond * nanosOfSecond +
          time.nanos % nanosOfSecond / 1000000 * 1000000 = time.nanos / 1000000 * 1000000 := by
        unfold nanosOfSecond
        omega
      rw [toDateTime_clock time kept]
      simp only [DateTime.withFraction, DateTime.truncated, same]

/-! Times with an offset. -/

/-- `DateTime<FixedOffset>`, by its local time; the offset is in minutes. -/
structure OffsetDateTime where
  time : DateTime
  offset : ℤ
  offsetInside : -1440 < offset ∧ offset < 1440
deriving DecidableEq

/-- Days since the first of January of year 1, of the proleptic calendar. -/
def dayNumber (year : ℤ) (month day : ℕ) : ℤ :=
  365 * (year - 1) + (year - 1) / 4 - (year - 1) / 100 + (year - 1) / 400 +
    ((List.range month).tail.map (daysIn year)).sum + day - 1

/-- The minute in UTC, its second, and the nanoseconds of that, by which times are equal. -/
def OffsetDateTime.instant (value : OffsetDateTime) : ℤ × ℕ × ℕ :=
  ((dayNumber value.time.year value.time.month value.time.day * 24 + value.time.hour) * 60 +
    value.time.minute - value.offset, value.time.second, value.time.nanos)

/-- `%Y-%m-%dT%H:%M:%S`. -/
def secondsText (time : DateTime) : List Char :=
  yearText time.year ++ '-' :: (DigitText.pad 2 time.month ++
    '-' :: (DigitText.pad 2 time.day ++ 'T' :: (DigitText.pad 2 time.hour ++
    ':' :: (DigitText.pad 2 time.minute ++
    ':' :: DigitText.pad 2 (time.second + time.nanos / nanosOfSecond)))))

/-- An offset, as `FixedOffset` is displayed. -/
def offsetText (offset : ℤ) : List Char :=
  (if offset < 0 then '-' else '+') ::
    (DigitText.pad 2 (offset.natAbs / 60) ++ ':' :: DigitText.pad 2 (offset.natAbs % 60))

/-- `scan::timezone_offset` with a colon, in minutes. -/
def scanOffset : List Char → Option (ℤ × List Char)
  | [] => none
  | sign :: text =>
      if sign ∈ ['Z', 'z'] then some (0, text)
      else if sign ∈ ['+', '-', '−'] then do
        let (hours, text) ← scanNumber 2 text
        let text ← scanChar [':'] text
        let (minutes, text) ← scanNumber 2 text
        if minutes < 60 then
          let size : ℤ := hours * 60 + minutes
          some (if sign = '+' then size else -size, text)
        else none
      else none

def parseFromRfc3339 (text : List Char) : Option OffsetDateTime := do
  let (year, text) ← scanNumber 4 text
  let (clock, text) ← scanClock text
  let (offset, text) ← scanOffset text
  if inside : -1440 < offset ∧ offset < 1440 then
    if text = [] then (clock.toDateTime year).map fun time => ⟨time, offset, inside⟩ else none
  else none

theorem scanOffset_text {offset : ℤ} (inside : -1440 < offset ∧ offset < 1440) :
    scanOffset (offsetText offset) = some (offset, []) := by
  have hours := scanNumber_pad (':' :: DigitText.pad 2 (offset.natAbs % 60))
    (show 0 < 2 by decide) (show offset.natAbs / 60 < 10 ^ 2 by omega)
  have minutes := scanNumber_pad [] (show 0 < 2 by decide)
    (show offset.natAbs % 60 < 10 ^ 2 by omega)
  rw [List.append_nil] at minutes
  have short : offset.natAbs % 60 < 60 := Nat.mod_lt _ (by decide)
  have size : ((offset.natAbs / 60 : ℕ) : ℤ) * 60 + ((offset.natAbs % 60 : ℕ) : ℤ) =
      offset.natAbs := by omega
  have read (sign : Char) (zulu : sign ∉ ['Z', 'z']) (signed : sign ∈ ['+', '-', '−']) :
      scanOffset (sign :: (DigitText.pad 2 (offset.natAbs / 60) ++
        ':' :: DigitText.pad 2 (offset.natAbs % 60))) =
      some (if sign = '+' then (offset.natAbs : ℤ) else -offset.natAbs, []) := by
    unfold scanOffset
    simp only [if_neg zulu, if_pos signed, hours, Option.bind_eq_bind, Option.bind_some,
      scanChar_cons _ (show ':' ∈ [':'] by decide), minutes, if_pos short, size]
  unfold offsetText
  by_cases negative : offset < 0
  · rw [if_pos negative, read '-' (by decide) (by decide), if_neg (by decide)]
    simp only [Option.some.injEq, Prod.mk.injEq, and_true]
    omega
  · rw [if_neg negative, read '+' (by decide) (by decide), if_pos rfl]
    simp only [Option.some.injEq, Prod.mk.injEq, and_true]
    omega

theorem toDateTime_year {clock : Clock} {year : ℤ} {time : DateTime}
    (made : clock.toDateTime year = some time) : time.year = year := by
  simp only [Clock.toDateTime, Option.dite_none_right_eq_some, Option.some.injEq] at made
  obtain ⟨-, rfl⟩ := made
  rfl

theorem parseFromRfc3339_year {text : List Char} {value : OffsetDateTime}
    (read : parseFromRfc3339 text = some value) :
    0 ≤ value.time.year ∧ value.time.year ≤ 9999 := by
  unfold parseFromRfc3339 at read
  simp only [Option.bind_eq_bind, Option.bind_eq_some_iff] at read
  obtain ⟨⟨year, rest⟩, scanned, ⟨clock, after⟩, -, ⟨offset, last⟩, -, read⟩ := read
  have small : year < 10 ^ 4 := by
    unfold scanNumber at scanned
    split at scanned
    case isFalse => cases scanned
    case isTrue digits =>
      cases scanned
      have bound := DigitText.readDigits_lt (text.take 4) digits.2
      rwa [digits.1] at bound
  split at read
  case isFalse => cases read
  case isTrue =>
    split at read
    case isFalse => cases read
    case isTrue =>
      obtain ⟨time, made, rfl⟩ := Option.map_eq_some_iff.mp read
      rw [toDateTime_year made]
      omega

def OffsetDateTime.withFraction (value : OffsetDateTime) (nanos : ℕ)
    (inside : nanos < nanosOfSecond) : OffsetDateTime :=
  { value with time := value.time.withFraction nanos inside }

theorem parseFromRfc3339_text {value : OffsetDateTime} {fraction zone : List Char} {nanos : ℕ}
    (plain : 0 ≤ value.time.year ∧ value.time.year ≤ 9999) (inside : nanos < nanosOfSecond)
    (read : scanFraction (fraction ++ zone) = some (nanos, zone))
    (offset : scanOffset zone = some (value.offset, [])) :
    parseFromRfc3339 (secondsText value.time ++ fraction ++ zone) =
      some (value.withFraction nanos inside) := by
  have clock := scanClock_text value.time read
  have year := fun rest => scanNumber_pad rest (show 0 < 4 by decide)
    (show value.time.year.toNat < 10 ^ 4 by omega)
  have whole : ((value.time.year.toNat : ℕ) : ℤ) = value.time.year :=
    Int.toNat_of_nonneg plain.1
  unfold parseFromRfc3339 secondsText yearText
  rw [if_pos plain]
  simp only [List.append_assoc, List.cons_append, year, Option.bind_eq_bind, Option.bind_some,
    clock, offset, dif_pos value.offsetInside, if_true, whole, toDateTime_clock value.time inside,
    Option.map_some]
  rfl

end CalendarTime
