import MarketplaceService.Lib.CalendarTime
import MarketplaceService.ResolveDelivery
import Mathlib.Algebra.Order.Ring.Int
import Mathlib.Tactic.Ring

/-!
The schedule of a `paykit.resolve` retry on the instants of `chrono`
(`resolve_delivery.rs`): nanoseconds in a bounded range, where an addition past
the end panics; on an attempt counter of 32 bits, where the increment of the
largest value is refused by the database; and on the instants of a
`TIMESTAMPTZ` column, whole microseconds that the driver counts from 2000.

The header is the endpoint's and may be any text; `httpDate` is `chrono`'s
reading of an HTTP date.
-/

namespace MarketplaceService

open CalendarTime (nanosOfSecond)

def firstNano : ℤ := -8334601228800000000000
def lastNano : ℤ := lastInstant * nanosOfSecond + 999999999

/-- `DateTime<Utc>`, in nanoseconds. -/
structure Instant where
  nanos : ℤ
  low : firstNano ≤ nanos
  high : nanos ≤ lastNano
deriving DecidableEq

/-- The longest `chrono::Duration` in seconds, `i64::MAX` milliseconds. -/
def durationMaxSeconds : ℤ := (2 ^ 63 - 1) / 1000

/-- `self + chrono::Duration::seconds(seconds)`; missing when it panics. -/
def Instant.addSeconds (start : Instant) (seconds : ℤ) : Option Instant :=
  if room : -durationMaxSeconds ≤ seconds ∧ seconds ≤ durationMaxSeconds ∧
      firstNano ≤ start.nanos + seconds * nanosOfSecond ∧
      start.nanos + seconds * nanosOfSecond ≤ lastNano then
    some ⟨start.nanos + seconds * nanosOfSecond, room.2.2.1, room.2.2.2⟩
  else none

/-- The due instant of the header. The outer value is missing when the addition
panics, the inner one for a malformed header. -/
def headerDueAt (httpDate : String → Option Instant) (header : String) (now : Instant) :
    Option (Option Instant) :=
  match parseI64 (Text.trim header).toList with
  | some seconds => (now.addSeconds (max seconds 0)).map some
  | none => some (httpDate (Text.trim header))

/-- `retry_after.and_then(..)`. -/
def floorDueAt (httpDate : String → Option Instant) (retryAfter : Option String) (now : Instant) :
    Option (Option Instant) :=
  match retryAfter with
  | some header => headerDueAt httpDate header now
  | none => some none

/-- The backoff, or a floor past it. -/
def nextAttempt (backoffDueAt : Instant) : Option Instant → Instant
  | some dueAt => if backoffDueAt.nanos < dueAt.nanos then dueAt else backoffDueAt
  | none => backoffDueAt

/-- The start of 2000, from which the driver counts. -/
def postgresEpoch : ℤ := 946684800 * nanosOfSecond

/-- The first instant of the column, in microseconds from 2000. The last one is
past the last instant of `chrono`. -/
def firstStoredMicros : ℤ := -211813488000000000

/-- The instant that a `TIMESTAMPTZ` column keeps of one that is bound to it,
`num_microseconds` from 2000; missing when the column refuses it. -/
def storedNanos (nanos : ℤ) : Option ℤ :=
  let micros := (nanos - postgresEpoch).tdiv 1000
  if firstStoredMicros ≤ micros then some (postgresEpoch + micros * 1000) else none

inductive RetryOutcome where
  | panicked
  /-- The increment of `attempt_count` or an instant is out of range. -/
  | refused
  | terminated
  /-- The row keeps `next` as its `next_attempt_at`. -/
  | retried (next : ℤ)
deriving DecidableEq

def backoffSeconds (attemptCount : Int32) : ℤ := resolveBackoffSeconds attemptCount.toInt.toNat

def scheduleRetryAt (httpDate : String → Option Instant) (attemptCount : Int32)
    (retryAfter : Option String) (now deadline : Instant) : RetryOutcome :=
  match now.addSeconds (backoffSeconds attemptCount) with
  | none => .panicked
  | some backoffDueAt =>
      match floorDueAt httpDate retryAfter now with
      | none => .panicked
      | some due =>
          let next := nextAttempt backoffDueAt due
          if attemptCount = Int32.maxValue then .refused
          else if deadline.nanos ≤ next.nanos then
            if (storedNanos deadline.nanos).isSome then .terminated else .refused
          else
            match (storedNanos now.nanos).bind fun _ => storedNanos next.nanos with
            | some kept => .retried kept
            | none => .refused

/-- The instant a well-formed header asks for, in unbounded nanoseconds. -/
def askedNanos (httpDate : String → Option Instant) (retryAfter : Option String) (now : Instant) :
    Option ℤ :=
  retryAfter.bind fun header =>
    match parseI64 (Text.trim header).toList with
    | some seconds => some (now.nanos + max seconds 0 * nanosOfSecond)
    | none => (httpDate (Text.trim header)).map Instant.nanos

def laterNanos (httpDate : String → Option Instant) (attemptCount : Int32)
    (retryAfter : Option String) (now : Instant) : ℤ :=
  let backoff := now.nanos + backoffSeconds attemptCount * nanosOfSecond
  max backoff ((askedNanos httpDate retryAfter now).getD backoff)

/-- The row is terminated at or past the deadline, and before it gets its next
attempt no earlier than the backoff and the header ask for. -/
def RetryLaw (httpDate : String → Option Instant) (attemptCount : Int32)
    (retryAfter : Option String) (now deadline : Instant) : Prop :=
  match scheduleRetryAt httpDate attemptCount retryAfter now deadline with
  | .panicked | .refused => False
  | .terminated => deadline.nanos ≤ laterNanos httpDate attemptCount retryAfter now
  | .retried next =>
      now.nanos + backoffSeconds attemptCount * nanosOfSecond ≤ next ∧
      next < deadline.nanos ∧
      (∀ asked ∈ askedNanos httpDate retryAfter now, asked ≤ next) ∧
      laterNanos httpDate attemptCount retryAfter now < deadline.nanos

/-- The column has room for the instant. -/
def Storable (nanos : ℤ) : Prop := postgresEpoch + firstStoredMicros * 1000 < nanos + 1000

instance (nanos : ℤ) : Decidable (Storable nanos) := inferInstanceAs (Decidable (_ < _))

/-- Counting in microseconds moves the instant neither back nor to the deadline:
it is a whole microsecond, or it lies before 2000, where it is moved on, and the
next one comes before the deadline. -/
def KeptWhole (nanos deadline : ℤ) : Prop :=
  1000 ∣ nanos ∨ nanos < postgresEpoch ∧ nanos + -nanos % 1000 < deadline

/-- The counter can be incremented, neither addition leaves the range, and the
instants that are written fit their columns. -/
structure RetryFits (httpDate : String → Option Instant) (attemptCount : Int32)
    (retryAfter : Option String) (now deadline : Instant) : Prop where
  counted : attemptCount ≠ Int32.maxValue
  backoff : now.nanos + backoffSeconds attemptCount * nanosOfSecond ≤ lastNano
  header : ∀ header ∈ retryAfter, ∀ seconds ∈ parseI64 (Text.trim header).toList,
    now.nanos + max seconds 0 * nanosOfSecond ≤ lastNano
  terminates : deadline.nanos ≤ laterNanos httpDate attemptCount retryAfter now →
    Storable deadline.nanos
  retries : laterNanos httpDate attemptCount retryAfter now < deadline.nanos →
    Storable now.nanos ∧
      KeptWhole (laterNanos httpDate attemptCount retryAfter now) deadline.nanos

/-! The column. -/

theorem storedNanos_eq (nanos : ℤ) :
    storedNanos nanos =
      if Storable nanos then
        some (if nanos < postgresEpoch then nanos + -nanos % 1000 else nanos - nanos % 1000)
      else none := by
  unfold storedNanos Storable
  dsimp only
  rcases lt_or_ge nanos postgresEpoch with early | late
  · have micros : (nanos - postgresEpoch).tdiv 1000 = -((postgresEpoch - nanos) / 1000) := by
      rw [← neg_sub, Int.neg_tdiv, Int.tdiv_eq_ediv_of_nonneg (by omega)]
    rw [micros, if_pos early]
    refine if_congr ?_ (congrArg some ?_) rfl
    · omega
    · simp only [postgresEpoch, nanosOfSecond]
      omega
  · have micros : (nanos - postgresEpoch).tdiv 1000 = (nanos - postgresEpoch) / 1000 :=
      Int.tdiv_eq_ediv_of_nonneg (by omega)
    rw [micros, if_neg (not_lt.mpr late)]
    refine if_congr ?_ (congrArg some ?_) rfl
    · simp only [firstStoredMicros]
      omega
    · simp only [postgresEpoch, nanosOfSecond]
      omega

theorem storedNanos_isSome {nanos : ℤ} : (storedNanos nanos).isSome = true ↔ Storable nanos := by
  rw [storedNanos_eq]
  split
  · rename_i room
    exact iff_of_true rfl room
  · rename_i full
    exact iff_of_false Bool.false_ne_true full

/-- The column keeps an instant at or after the one bound and before the
deadline. -/
theorem storedNanos_kept {nanos kept deadline : ℤ} (stored : storedNanos nanos = some kept)
    (before : nanos < deadline) : nanos ≤ kept ∧ kept < deadline ↔ KeptWhole nanos deadline := by
  rw [storedNanos_eq] at stored
  obtain ⟨-, stored⟩ := Option.ite_none_right_eq_some.mp stored
  cases stored
  unfold KeptWhole
  split <;> omega

/-! The schedule. -/

/-- A forward addition that stays in the range. -/
theorem addSeconds_inside (start : Instant) {seconds : ℤ} (forward : 0 ≤ seconds)
    (inside : start.nanos + seconds * nanosOfSecond ≤ lastNano) :
    ∃ later, start.addSeconds seconds = some later ∧
      later.nanos = start.nanos + seconds * nanosOfSecond := by
  have low := start.low
  have room : -durationMaxSeconds ≤ seconds ∧ seconds ≤ durationMaxSeconds ∧
      firstNano ≤ start.nanos + seconds * nanosOfSecond ∧
      start.nanos + seconds * nanosOfSecond ≤ lastNano := by
    simp only [firstNano, lastNano, lastInstant, nanosOfSecond, durationMaxSeconds] at *
    omega
  exact ⟨_, dif_pos room, rfl⟩

theorem addSeconds_outside (start : Instant) {seconds : ℤ}
    (outside : ¬ start.nanos + seconds * nanosOfSecond ≤ lastNano) :
    start.addSeconds seconds = none :=
  dif_neg fun room => outside room.2.2.2

theorem backoffSeconds_nonneg (attemptCount : Int32) : 0 ≤ backoffSeconds attemptCount :=
  Int.natCast_nonneg _

/-- Without a panic the header's due instant is the one it asks for. -/
theorem floorDueAt_inside (httpDate : String → Option Instant) (retryAfter : Option String)
    (now : Instant) (fits : ∀ header ∈ retryAfter, ∀ seconds ∈ parseI64 (Text.trim header).toList,
      now.nanos + max seconds 0 * nanosOfSecond ≤ lastNano) :
    ∃ due, floorDueAt httpDate retryAfter now = some due ∧
      due.map Instant.nanos = askedNanos httpDate retryAfter now := by
  cases retryAfter with
  | none => exact ⟨none, rfl, rfl⟩
  | some header =>
      dsimp only [askedNanos, floorDueAt, headerDueAt, Option.bind_some]
      cases read : parseI64 (Text.trim header).toList with
      | none => exact ⟨_, rfl, rfl⟩
      | some seconds =>
          obtain ⟨later, added, nanos⟩ :=
            addSeconds_inside now (le_max_right seconds 0) (fits header rfl seconds read)
          refine ⟨some later, ?_, ?_⟩
          · dsimp only
            rw [added]
            rfl
          · rw [Option.map_some, nanos]

theorem headerDueAt_outside {httpDate : String → Option Instant} {header : String} {now : Instant}
    {seconds : ℤ} (read : parseI64 (Text.trim header).toList = some seconds)
    (outside : ¬ now.nanos + max seconds 0 * nanosOfSecond ≤ lastNano) :
    headerDueAt httpDate header now = none := by
  rw [headerDueAt, read]
  dsimp only
  rw [addSeconds_outside now outside]
  rfl

/-- The later instant, chosen as the code does. -/
theorem next_nanos (backoffDueAt : Instant) (due : Option Instant) :
    (nextAttempt backoffDueAt due).nanos =
      max backoffDueAt.nanos ((due.map Instant.nanos).getD backoffDueAt.nanos) := by
  cases due with
  | none => exact (max_self _).symm
  | some dueAt =>
      dsimp only [nextAttempt, Option.map_some, Option.getD_some]
      split
      · rename_i later
        exact (max_eq_right later.le).symm
      · rename_i earlier
        exact (max_eq_left (not_lt.mp earlier)).symm

/-- Without a panic the later instant decides. -/
theorem scheduleRetryAt_inside {httpDate : String → Option Instant} {attemptCount : Int32}
    {retryAfter : Option String} {now deadline : Instant} (counted : attemptCount ≠ Int32.maxValue)
    (backoff : now.nanos + backoffSeconds attemptCount * nanosOfSecond ≤ lastNano)
    (header : ∀ header ∈ retryAfter, ∀ seconds ∈ parseI64 (Text.trim header).toList,
      now.nanos + max seconds 0 * nanosOfSecond ≤ lastNano) :
    scheduleRetryAt httpDate attemptCount retryAfter now deadline =
      if deadline.nanos ≤ laterNanos httpDate attemptCount retryAfter now then
        if (storedNanos deadline.nanos).isSome then .terminated else .refused
      else
        match (storedNanos now.nanos).bind fun _ =>
          storedNanos (laterNanos httpDate attemptCount retryAfter now) with
        | some kept => .retried kept
        | none => .refused := by
  obtain ⟨backoffDueAt, added, nanos⟩ :=
    addSeconds_inside now (backoffSeconds_nonneg attemptCount) backoff
  obtain ⟨due, read, asked⟩ := floorDueAt_inside httpDate retryAfter now header
  have later := next_nanos backoffDueAt due
  rw [asked, nanos] at later
  change _ = laterNanos httpDate attemptCount retryAfter now at later
  unfold scheduleRetryAt
  rw [added]
  dsimp only
  rw [read]
  dsimp only
  rw [if_neg counted, later]

theorem now_le_later (httpDate : String → Option Instant) (attemptCount : Int32)
    (retryAfter : Option String) (now : Instant) :
    now.nanos ≤ laterNanos httpDate attemptCount retryAfter now := by
  have forward := backoffSeconds_nonneg attemptCount
  refine le_trans ?_ (le_max_left _ _)
  simp only [nanosOfSecond]
  omega

theorem retryLaw_inside {httpDate : String → Option Instant} {attemptCount : Int32}
    {retryAfter : Option String} {now deadline : Instant} (counted : attemptCount ≠ Int32.maxValue)
    (backoff : now.nanos + backoffSeconds attemptCount * nanosOfSecond ≤ lastNano)
    (header : ∀ header ∈ retryAfter, ∀ seconds ∈ parseI64 (Text.trim header).toList,
      now.nanos + max seconds 0 * nanosOfSecond ≤ lastNano) :
    RetryLaw httpDate attemptCount retryAfter now deadline ↔
      RetryFits httpDate attemptCount retryAfter now deadline := by
  have scheduled := @scheduleRetryAt_inside httpDate _ _ _ deadline counted backoff header
  unfold RetryLaw
  rw [scheduled]
  rcases le_or_gt deadline.nanos (laterNanos httpDate attemptCount retryAfter now) with past | room
  · rw [if_pos past]
    by_cases storable : Storable deadline.nanos
    · rw [if_pos (storedNanos_isSome.mpr storable)]
      exact iff_of_true past ⟨counted, backoff, header, fun _ => storable,
        fun before => absurd past (not_le.mpr before)⟩
    · rw [if_neg (fun kept => storable (storedNanos_isSome.mp kept))]
      exact iff_of_false id fun fits => storable (fits.terminates past)
  · rw [if_neg (not_le.mpr room)]
    by_cases storable : Storable now.nanos
    · have late : Storable (laterNanos httpDate attemptCount retryAfter now) := by
        have forward := now_le_later httpDate attemptCount retryAfter now
        unfold Storable at storable ⊢
        omega
      obtain ⟨began, started⟩ := Option.isSome_iff_exists.mp (storedNanos_isSome.mpr storable)
      obtain ⟨kept, stored⟩ := Option.isSome_iff_exists.mp (storedNanos_isSome.mpr late)
      rw [started, Option.bind_some, stored]
      dsimp only
      have whole := storedNanos_kept stored room
      constructor
      · rintro ⟨backed, before, asked, -⟩
        have reached : laterNanos httpDate attemptCount retryAfter now ≤ kept := by
          refine max_le backed ?_
          cases wanted : askedNanos httpDate retryAfter now with
          | none => exact backed
          | some instant => exact asked instant wanted
        exact ⟨counted, backoff, header, fun past => absurd past (not_le.mpr room),
          fun _ => ⟨storable, whole.mp ⟨reached, before⟩⟩⟩
      · intro fits
        obtain ⟨reached, before⟩ := whole.mpr (fits.retries room).2
        refine ⟨(le_max_left _ _).trans reached, before, ?_, room⟩
        intro asked present
        refine le_trans ?_ reached
        rw [laterNanos, Option.mem_def.mp present]
        exact le_max_right _ _
    · have refused : storedNanos now.nanos = none := by
        rw [← Option.not_isSome_iff_eq_none]
        exact fun kept => storable (storedNanos_isSome.mp kept)
      rw [refused]
      exact iff_of_false id fun fits => storable (fits.retries room).1

/-- The schedule meets its law exactly when the counter can be incremented,
neither addition leaves the range of instants, and the instants that are written
fit their columns. -/
theorem retry_schedule_law (httpDate : String → Option Instant) (attemptCount : Int32)
    (retryAfter : Option String) (now deadline : Instant) :
    RetryLaw httpDate attemptCount retryAfter now deadline ↔
      RetryFits httpDate attemptCount retryAfter now deadline := by
  by_cases backoff : now.nanos + backoffSeconds attemptCount * nanosOfSecond ≤ lastNano
  · by_cases header : ∀ header ∈ retryAfter, ∀ seconds ∈ parseI64 (Text.trim header).toList,
        now.nanos + max seconds 0 * nanosOfSecond ≤ lastNano
    · by_cases counted : attemptCount = Int32.maxValue
      · -- Both additions stay in range, and only the counter fails.
        refine iff_of_false (fun law => ?_) fun fits => fits.counted counted
        obtain ⟨backoffDueAt, added, -⟩ :=
          addSeconds_inside now (backoffSeconds_nonneg attemptCount) backoff
        obtain ⟨due, read, -⟩ := floorDueAt_inside httpDate retryAfter now header
        unfold RetryLaw scheduleRetryAt at law
        rw [added] at law
        dsimp only at law
        rw [read] at law
        dsimp only at law
        rw [if_pos counted] at law
        exact law
      · exact retryLaw_inside counted backoff header
    · refine iff_of_false (fun law => ?_) fun fits => header fits.header
      obtain ⟨backoffDueAt, added, -⟩ :=
        addSeconds_inside now (backoffSeconds_nonneg attemptCount) backoff
      push Not at header
      obtain ⟨text, given, seconds, read, outside⟩ := header
      cases given
      unfold RetryLaw scheduleRetryAt at law
      rw [added] at law
      dsimp only at law
      rw [floorDueAt, headerDueAt_outside read outside.not_ge] at law
      exact law
  · refine iff_of_false (fun law => ?_) fun fits => backoff fits.backoff
    unfold RetryLaw scheduleRetryAt at law
    rw [addSeconds_outside now backoff] at law
    exact law

def epochStart : Instant := ⟨0, by decide, by decide⟩
def anHourLater : Instant := ⟨3600 * nanosOfSecond, by decide, by decide⟩

/-- A header with the largest integer panics on the first attempt. -/
theorem largest_header_panics :
    scheduleRetryAt (fun _ => none) 0 (some "9223372036854775807") epochStart anHourLater =
        .panicked ∧
      ¬ RetryLaw (fun _ => none) 0 (some "9223372036854775807") epochStart anHourLater := by
  have panics : scheduleRetryAt (fun _ => none) 0 (some "9223372036854775807") epochStart
      anHourLater = .panicked := by decide +kernel
  refine ⟨panics, fun law => ?_⟩
  rw [RetryLaw, panics] at law
  exact law

/-! The schedule of the delivery model, in whole seconds. -/

def RetryOutcome.statements (row : ClaimedResolveRow) (now : Time) :
    RetryOutcome → Option (List ResolveStatement)
  | .panicked | .refused => none
  | .terminated => some (stampTerminal row .deliveryDeadlineExceeded none row.deliveryDeadline)
  | .retried next => some [.scheduleRetry row.id now (next / nanosOfSecond).toNat]

section Seconds

variable {config : ResolveConfig} {row : ClaimedResolveRow} {now : Time}
  {httpDate : String → Option Instant} {attemptCount : Int32} {start deadline : Instant}

theorem storedNanos_seconds (seconds : ℕ) :
    storedNanos (seconds * nanosOfSecond) = some ((seconds : ℤ) * nanosOfSecond) := by
  rw [storedNanos_eq, if_pos]
  · refine congrArg some ?_
    split <;> (simp only [nanosOfSecond]; omega)
  · simp only [Storable, postgresEpoch, firstStoredMicros, nanosOfSecond]
    omega

theorem whole_seconds_fit (starts : start.nanos = now * nanosOfSecond) (seconds : ℤ) :
    start.nanos + seconds * nanosOfSecond ≤ lastNano ↔ now + seconds ≤ lastInstant := by
  rw [starts, lastNano]
  simp only [nanosOfSecond]
  omega

theorem retryAfterDueAt_agrees (starts : start.nanos = now * nanosOfSecond)
    (dates : ∀ text, (httpDate text).map Instant.nanos =
      (config.httpDate text).map fun seconds => seconds * (nanosOfSecond : ℤ)) (header : String) :
    (headerDueAt httpDate header start).map (fun due => due.map Instant.nanos) =
      (retryAfterDueAt config header now).map
        fun due => due.map fun seconds => seconds * (nanosOfSecond : ℤ) := by
  unfold headerDueAt retryAfterDueAt
  dsimp only
  cases parseI64 (Text.trim header).toList with
  | none => exact congrArg some (dates _)
  | some seconds =>
      dsimp only
      have fits := whole_seconds_fit starts (max seconds 0)
      by_cases inside : (now : ℤ) + max seconds 0 ≤ lastInstant
      · obtain ⟨later, added, nanos⟩ :=
          addSeconds_inside start (le_max_right seconds 0) (fits.mpr inside)
        rw [added, if_pos inside]
        simp only [Option.map_some, nanos, starts]
        rw [add_mul]
      · rw [addSeconds_outside start (fun nanos => inside (fits.mp nanos)), if_neg inside]
        rfl

theorem retryFloor_agrees (starts : start.nanos = now * nanosOfSecond)
    (dates : ∀ text, (httpDate text).map Instant.nanos =
      (config.httpDate text).map fun seconds => seconds * (nanosOfSecond : ℤ))
    (retryAfter : Option String) :
    (floorDueAt httpDate retryAfter start).map (fun due => due.map Instant.nanos) =
      (retryFloor config retryAfter now).map
        fun due => due.map fun seconds => seconds * (nanosOfSecond : ℤ) := by
  cases retryAfter with
  | none => rfl
  | some header => exact retryAfterDueAt_agrees starts dates header

theorem nextAttempt_agrees {backoffDueAt : Instant} {backoff : Time} {due : Option Instant}
    {floor : Option ℤ} (nanos : backoffDueAt.nanos = backoff * nanosOfSecond)
    (same : due.map Instant.nanos = floor.map fun seconds => seconds * (nanosOfSecond : ℤ)) :
    (nextAttempt backoffDueAt due).nanos = laterDue backoff floor * nanosOfSecond := by
  rw [next_nanos, same, nanos]
  cases floor with
  | none => exact max_self _
  | some seconds =>
      simp only [Option.map_some, Option.getD_some, nanosOfSecond, laterDue]
      split <;> omega

/-- On whole seconds, and with a counter that can be incremented, the delivery
model schedules as the code does. -/
theorem scheduleRetry_agrees (retryAfter : Option String)
    (starts : start.nanos = now * nanosOfSecond)
    (ends : deadline.nanos = row.deliveryDeadline * nanosOfSecond)
    (counted : attemptCount.toInt = row.attemptCount) (room : attemptCount ≠ Int32.maxValue)
    (dates : ∀ text, (httpDate text).map Instant.nanos =
      (config.httpDate text).map fun seconds => seconds * (nanosOfSecond : ℤ)) :
    scheduleRetry config row retryAfter now =
      (scheduleRetryAt httpDate attemptCount retryAfter start deadline).statements row now := by
  have backoff : backoffSeconds attemptCount = resolveBackoffSeconds row.attemptCount := by
    rw [backoffSeconds, counted, Int.toNat_natCast]
  have fits := whole_seconds_fit starts (backoffSeconds attemptCount)
  rw [backoff, ← Nat.cast_add] at fits
  unfold scheduleRetry scheduleRetryAt
  by_cases inside : ((now + resolveBackoffSeconds row.attemptCount : ℕ) : ℤ) ≤ lastInstant
  · obtain ⟨backoffDueAt, added, nanos⟩ :=
      addSeconds_inside start (backoffSeconds_nonneg attemptCount)
        (by rw [backoff]; exact fits.mpr inside)
    have whole : backoffDueAt.nanos =
        (now + resolveBackoffSeconds row.attemptCount : ℕ) * nanosOfSecond := by
      rw [nanos, starts, backoff]
      push_cast
      ring
    have floors := retryFloor_agrees starts dates retryAfter
    dsimp only
    rw [added, if_pos inside]
    cases read : floorDueAt httpDate retryAfter start with
    | none =>
        rw [read] at floors
        rw [Option.map_eq_none_iff.mp floors.symm]
        rfl
    | some due =>
        rw [read] at floors
        obtain ⟨floor, present, same⟩ := Option.map_eq_some_iff.mp floors.symm
        have next := nextAttempt_agrees whole same.symm
        have within : deadline.nanos ≤ (nextAttempt backoffDueAt due).nanos ↔
            row.deliveryDeadline ≤
              laterDue (now + resolveBackoffSeconds row.attemptCount) floor := by
          rw [next, ends, mul_le_mul_iff_of_pos_right (by decide : (0 : ℤ) < nanosOfSecond)]
          exact Int.ofNat_le
        rw [present]
        simp only [Option.map_some, if_neg room, within]
        split
        · rw [ends, storedNanos_seconds]
          rfl
        · rw [starts, next, storedNanos_seconds, Option.bind_some, storedNanos_seconds]
          simp only [RetryOutcome.statements]
          rw [Int.mul_ediv_cancel _ (by decide), Int.toNat_natCast]
  · dsimp only
    rw [if_neg inside, addSeconds_outside start (by rwa [backoff, fits])]
    rfl

end Seconds

end MarketplaceService
