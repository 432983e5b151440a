import MarketplaceService.Lib.CalendarTime
import MarketplaceService.Lib.Run
import MarketplaceService.Lib.Table
import Mathlib.Algebra.Order.Ring.Int
import Mathlib.Tactic.Common

/-!
The circuit breaker of the address search (`address_search.rs`).

Lookups hold their ticket while the upstream call is under way, so a result can
arrive long after the breaker has moved on. The run keeps every outstanding
ticket; results and drops come in any order. An instant is a number of
nanoseconds, and a panic of `clamp` is `none`.

`turns` and `turn` count the changes of the generation; the code has only the
wrapping counter.
-/

namespace MarketplaceService

open CalendarTime (nanosOfSecond)

def breakerFailureThreshold : ℕ := 3
def breakerBaseSeconds : ℤ := 10
def breakerMaxSeconds : ℤ := 60
def throttleMaxSeconds : ℤ := 600
def failureRetryAfterSeconds : ℕ := 2
def probeRetryAfterSeconds : ℕ := 1

structure Breaker where
  generation : UInt64
  failures : ℕ
  openUntil : Option ℤ
  nextCooldownSeconds : ℤ
  probing : Bool
deriving DecidableEq, Repr

namespace Breaker

def closed (generation : UInt64) : Breaker where
  generation := generation
  failures := 0
  openUntil := none
  nextCooldownSeconds := breakerBaseSeconds
  probing := false

def secondsLeft (span : ℤ) : ℕ := (max (span.tdiv nanosOfSecond) 1).toNat

def remaining (breaker : Breaker) (now : ℤ) : Option ℕ :=
  (breaker.openUntil.filter (fun stop => now < stop)).map (fun stop => secondsLeft (stop - now))

/-- `saturating_add(1)` on 32 bits. -/
def countFailure (breaker : Breaker) : Breaker :=
  { breaker with failures := min (breaker.failures + 1) (2 ^ 32 - 1) }

def openFor (breaker : Breaker) (now seconds : ℤ) : Breaker × ℕ :=
  let stop := now + seconds * nanosOfSecond
  let reopening : Bool := breaker.openUntil.all (fun current => current ≤ now)
  let after :=
    if breaker.openUntil.all (fun current => current < stop) then
      { breaker with
        openUntil := some stop
        generation := breaker.generation + 1
        probing := false
        nextCooldownSeconds :=
          if reopening then min (breaker.nextCooldownSeconds * 2) breakerMaxSeconds
          else breaker.nextCooldownSeconds }
    else breaker
  (after, (after.remaining now).getD 1)

end Breaker

inductive LookupFailure where
  | throttled (retryAfterSeconds : Option UInt64)
  | unavailable
deriving DecidableEq, Repr

structure BreakerTicket where
  generation : UInt64
  probe : Bool
deriving DecidableEq, Repr

/-- `i64::try_from(seconds).unwrap_or(THROTTLE_MAX_SECONDS)`. -/
def throttleSeconds (seconds : UInt64) : ℤ :=
  if seconds.toNat < 2 ^ 63 then seconds.toNat else throttleMaxSeconds

/-- `Ord::clamp`, which panics on an empty range. -/
def clampSeconds (value low high : ℤ) : Option ℤ :=
  if low ≤ high then some (max low (min value high)) else none

namespace Breaker

def settle (breaker : Breaker) (ticket : BreakerTicket) : Breaker :=
  if ticket.probe && breaker.generation == ticket.generation then
    { breaker with probing := false }
  else breaker

/-- The ticket, or the seconds after which to try again. -/
def admitBreaker (breaker : Breaker) (now : ℤ) : Except ℕ (Breaker × BreakerTicket) :=
  match breaker.openUntil with
  | none => .ok (breaker, ⟨breaker.generation, false⟩)
  | some stop =>
      if now < stop then .error (secondsLeft (stop - now))
      else if breaker.probing then .error probeRetryAfterSeconds
      else .ok ({ breaker with probing := true }, ⟨breaker.generation, true⟩)

def recordSuccess (breaker : Breaker) (ticket : BreakerTicket) : Breaker :=
  let current := ticket.generation == breaker.generation
  let settled := breaker.settle ticket
  if current then
    match settled.openUntil with
    | none => { settled with failures := 0 }
    | some _ => if ticket.probe then closed (settled.generation + 1) else settled
  else settled

def recordFailure (breaker : Breaker) (now : ℤ) (failure : LookupFailure)
    (ticket : BreakerTicket) : Option (Breaker × ℕ) :=
  let current := ticket.generation == breaker.generation
  let wasProbe := ticket.probe && current
  let settled := breaker.settle ticket
  match failure with
  | .throttled retryAfterSeconds =>
      let counted := settled.countFailure
      (clampSeconds ((retryAfterSeconds.map throttleSeconds).getD 0)
        counted.nextCooldownSeconds throttleMaxSeconds).map (counted.openFor now)
  | .unavailable =>
      match settled.remaining now with
      | some seconds => some (settled, seconds)
      | none =>
          if !current then some (settled, failureRetryAfterSeconds)
          else
            let counted := settled.countFailure
            if wasProbe || breakerFailureThreshold ≤ counted.failures then
              some (counted.openFor now counted.nextCooldownSeconds)
            else some (counted, failureRetryAfterSeconds)

end Breaker

structure LiveTicket where
  ticket : BreakerTicket
  turn : ℕ
deriving DecidableEq, Repr

structure BreakerRun where
  breaker : Breaker
  tickets : Keyed.Table ℕ LiveTicket
  clock : ℤ
  turns : ℕ

inductive BreakerEvent where
  | lookup (id : ℕ)
  | success (id : ℕ)
  | failure (id : ℕ) (failure : LookupFailure)
  | drop (id : ℕ)
deriving DecidableEq, Repr

namespace BreakerRun

def withBreaker (run : BreakerRun) (now : ℤ) (breaker : Breaker) : BreakerRun :=
  { run with
    breaker := breaker
    clock := now
    turns := if breaker.generation = run.breaker.generation then run.turns else run.turns + 1 }

def settled (live : LiveTicket) : LiveTicket :=
  { live with ticket := { live.ticket with probe := false } }

def stepAt (run : BreakerRun) (now : ℤ) : BreakerEvent → Option BreakerRun
  | .lookup id =>
      match run.tickets.find? id with
      | some _ => none
      | none =>
          match run.breaker.admitBreaker now with
          | .error _ => some { run with clock := now }
          | .ok (breaker, ticket) =>
              some { run with
                breaker := breaker
                tickets := run.tickets.set id ⟨ticket, run.turns⟩
                clock := now }
  | .success id =>
      (run.tickets.find? id).map fun live =>
        { run.withBreaker now (run.breaker.recordSuccess live.ticket) with
          tickets := run.tickets.set id (settled live) }
  | .failure id failure =>
      (run.tickets.find? id).bind fun live =>
        (run.breaker.recordFailure now failure live.ticket).map fun outcome =>
          { run.withBreaker now outcome.1 with tickets := run.tickets.set id (settled live) }
  | .drop id =>
      (run.tickets.find? id).map fun live =>
        { run with
          breaker := run.breaker.settle live.ticket
          tickets := run.tickets.keep (fun other => other != id)
          clock := now }

def step (run : BreakerRun) (label : ℤ × BreakerEvent) : Option BreakerRun :=
  if run.clock ≤ label.1 then run.stepAt label.1 label.2 else none

end BreakerRun

/-- Every run starts with a closed breaker at some instant. -/
def addressBreaker : Runs.System BreakerRun (ℤ × BreakerEvent) where
  initial run := run.breaker = Breaker.closed 0 ∧ run.tickets = .empty ∧ run.turns = 0
  step := BreakerRun.step

/-! What one call does to the breaker. -/

namespace Breaker

@[simp]
theorem settle_generation (breaker : Breaker) (ticket : BreakerTicket) :
    (breaker.settle ticket).generation = breaker.generation := by
  unfold settle
  split <;> rfl

@[simp]
theorem settle_openUntil (breaker : Breaker) (ticket : BreakerTicket) :
    (breaker.settle ticket).openUntil = breaker.openUntil := by
  unfold settle
  split <;> rfl

@[simp]
theorem settle_nextCooldownSeconds (breaker : Breaker) (ticket : BreakerTicket) :
    (breaker.settle ticket).nextCooldownSeconds = breaker.nextCooldownSeconds := by
  unfold settle
  split <;> rfl

theorem settle_of_stale {breaker : Breaker} {ticket : BreakerTicket}
    (stale : ticket.generation ≠ breaker.generation) : breaker.settle ticket = breaker := by
  unfold settle
  rw [if_neg]
  simp only [Bool.and_eq_true, beq_iff_eq]
  exact fun current => stale current.2.symm

/-- The next cooldown lies between the first one and the longest one. -/
def Cooled (breaker : Breaker) : Prop :=
  breakerBaseSeconds ≤ breaker.nextCooldownSeconds ∧
    breaker.nextCooldownSeconds ≤ breakerMaxSeconds

/-- What a result reported by a ticket can make of the breaker. -/
inductive Moved (breaker : Breaker) (ticket : BreakerTicket) : Breaker → Prop
  | stayed (failures : ℕ) : Moved breaker ticket { breaker.settle ticket with failures := failures }
  | opened (failures : ℕ) (stop cooldown : ℤ)
      (longer : ∀ current ∈ breaker.openUntil, current < stop)
      (doubled : cooldown = breaker.nextCooldownSeconds ∨
        cooldown = min (breaker.nextCooldownSeconds * 2) breakerMaxSeconds) :
      Moved breaker ticket
        { generation := breaker.generation + 1
          failures := failures
          openUntil := some stop
          nextCooldownSeconds := cooldown
          probing := false }
  | closed (probe : ticket.probe = true) (current : ticket.generation = breaker.generation) :
      Moved breaker ticket (Breaker.closed (breaker.generation + 1))

theorem moved_openFor (breaker : Breaker) (ticket : BreakerTicket) (now seconds : ℤ) :
    Moved breaker ticket ((breaker.settle ticket).countFailure.openFor now seconds).1 := by
  unfold openFor countFailure
  dsimp only
  split
  · rename_i longer
    rw [settle_openUntil] at longer
    rw [settle_generation, settle_nextCooldownSeconds]
    refine .opened _ _ _ ?_ ?_
    · intro current present
      rw [Option.all_eq_true] at longer
      exact of_decide_eq_true (longer current present)
    · split
      · exact .inr rfl
      · exact .inl rfl
  · exact Moved.stayed _

theorem recordSuccess_moved (breaker : Breaker) (ticket : BreakerTicket) :
    Moved breaker ticket (breaker.recordSuccess ticket) := by
  unfold recordSuccess
  dsimp only
  split
  · rename_i current
    rw [beq_iff_eq] at current
    split
    · exact .stayed 0
    · split
      · rename_i probe
        rw [settle_generation]
        exact .closed probe current
      · exact .stayed (breaker.settle ticket).failures
  · exact .stayed (breaker.settle ticket).failures

/-- A result is recorded without a panic. -/
theorem recordFailure_moved {breaker : Breaker} (cooled : breaker.Cooled) (now : ℤ)
    (failure : LookupFailure) (ticket : BreakerTicket) :
    ∃ outcome, breaker.recordFailure now failure ticket = some outcome ∧
      Moved breaker ticket outcome.1 := by
  unfold recordFailure
  cases failure with
  | throttled retryAfterSeconds =>
      have room : (breaker.settle ticket).countFailure.nextCooldownSeconds ≤
          throttleMaxSeconds := by
        show (breaker.settle ticket).nextCooldownSeconds ≤ throttleMaxSeconds
        rw [settle_nextCooldownSeconds]
        exact cooled.2.trans (by decide)
      dsimp only
      rw [clampSeconds, if_pos room]
      exact ⟨_, rfl, moved_openFor _ _ _ _⟩
  | unavailable =>
      dsimp only
      cases (breaker.settle ticket).remaining now with
      | some seconds => exact ⟨_, rfl, .stayed (breaker.settle ticket).failures⟩
      | none =>
          dsimp only
          split
          · exact ⟨_, rfl, .stayed (breaker.settle ticket).failures⟩
          · split
            · exact ⟨_, rfl, moved_openFor _ _ _ _⟩
            · exact ⟨_, rfl, .stayed _⟩

theorem Moved.cooled {breaker after : Breaker} {ticket : BreakerTicket} (cooled : breaker.Cooled)
    (moved : Moved breaker ticket after) : after.Cooled := by
  obtain ⟨low, high⟩ := cooled
  simp only [breakerBaseSeconds, breakerMaxSeconds] at low high
  cases moved with
  | stayed failures =>
      refine ⟨?_, ?_⟩
      · rwa [settle_nextCooldownSeconds]
      · rwa [settle_nextCooldownSeconds]
  | opened failures stop cooldown longer doubled =>
      simp only [Cooled, breakerBaseSeconds, breakerMaxSeconds] at doubled ⊢
      omega
  | closed =>
      exact ⟨le_refl breakerBaseSeconds, show breakerBaseSeconds ≤ breakerMaxSeconds by decide⟩

theorem recordSuccess_of_stale {breaker : Breaker} {ticket : BreakerTicket}
    (stale : ticket.generation ≠ breaker.generation) :
    breaker.recordSuccess ticket = breaker := by
  simp [recordSuccess, settle_of_stale stale, stale]

theorem recordFailure_of_stale {breaker : Breaker} {ticket : BreakerTicket} (now : ℤ)
    (stale : ticket.generation ≠ breaker.generation) :
    ∃ seconds, breaker.recordFailure now .unavailable ticket = some (breaker, seconds) := by
  unfold recordFailure
  dsimp only
  rw [settle_of_stale stale]
  cases breaker.remaining now with
  | some seconds => exact ⟨seconds, rfl⟩
  | none => exact ⟨failureRetryAfterSeconds, by simp [stale]⟩

end Breaker

/-! The outstanding tickets. -/

theorem generation_succ_ne (generation : UInt64) : generation + 1 ≠ generation := by
  intro same
  have sizes := congrArg UInt64.toNat same
  have bound := generation.toNat_lt
  simp only [UInt64.toNat_add] at sizes
  simp at sizes
  omega

/-- The wrapping counter tells the turns of a run shorter than its period apart. -/
theorem turn_inj {turn other : ℕ} (small : turn < 2 ^ 64) (otherSmall : other < 2 ^ 64)
    (same : UInt64.ofNat turn = UInt64.ofNat other) : turn = other := by
  have sizes := congrArg UInt64.toNat same
  rwa [UInt64.toNat_ofNat_of_lt' small, UInt64.toNat_ofNat_of_lt' otherSmall] at sizes

namespace BreakerRun

def Probes (run : BreakerRun) (id turn : ℕ) : Prop :=
  ∃ live, run.tickets.find? id = some live ∧ live.ticket.probe = true ∧ live.turn = turn

structure Sound (run : BreakerRun) : Prop where
  counted : run.breaker.generation = UInt64.ofNat run.turns
  issued : ∀ id live, run.tickets.find? id = some live →
    live.ticket.generation = UInt64.ofNat live.turn ∧ live.turn ≤ run.turns
  single : ∀ id other turn, run.Probes id turn → run.Probes other turn → id = other
  held : run.breaker.probing = true ↔ ∃ id, run.Probes id run.turns
  due : ∀ id, run.Probes id run.turns → ∃ stop ∈ run.breaker.openUntil, stop ≤ run.clock
  cooled : run.breaker.Cooled

theorem Sound.initial {run : BreakerRun} (init : addressBreaker.initial run) : run.Sound := by
  obtain ⟨breaker, tickets, turns⟩ := init
  have none (id turn : ℕ) : ¬ run.Probes id turn := by
    rintro ⟨live, present, -⟩
    rw [tickets] at present
    cases present
  constructor
  · rw [breaker, turns]
    rfl
  · intro id live present
    rw [tickets] at present
    cases present
  · intro id other turn probes
    exact absurd probes (none id turn)
  · rw [breaker]
    constructor
    · intro probing
      cases probing
    · rintro ⟨id, probes⟩
      exact absurd probes (none id _)
  · intro id probes
    exact absurd probes (none id _)
  · rw [breaker]
    exact ⟨le_refl breakerBaseSeconds, show breakerBaseSeconds ≤ breakerMaxSeconds by decide⟩

theorem Sound.current_iff {run : BreakerRun} (sound : run.Sound) (short : run.turns < 2 ^ 64)
    {id : ℕ} {live : LiveTicket} (present : run.tickets.find? id = some live) :
    live.ticket.generation = run.breaker.generation ↔ live.turn = run.turns := by
  obtain ⟨generation, before⟩ := sound.issued id live present
  rw [generation, sound.counted]
  constructor
  · exact turn_inj (before.trans_lt short) short
  · intro same
    rw [same]

/-- The outstanding tickets after one of them was settled: it is gone, or it no
longer holds the probe. -/
structure Released (before after : BreakerRun) (id : ℕ) : Prop where
  probes : ∀ other turn, after.Probes other turn ↔ other ≠ id ∧ before.Probes other turn
  kept : ∀ other live, after.tickets.find? other = some live →
    ∃ was, before.tickets.find? other = some was ∧
      was.ticket.generation = live.ticket.generation ∧ was.turn = live.turn

theorem released_set {before after : BreakerRun} {id : ℕ} {live : LiveTicket}
    (present : before.tickets.find? id = some live)
    (tickets : after.tickets = before.tickets.set id (settled live)) :
    Released before after id := by
  constructor
  · intro other turn
    unfold Probes
    rw [tickets]
    by_cases here : other = id
    · subst here
      rw [Keyed.Table.find?_set_self]
      constructor
      · rintro ⟨found, same, probe, -⟩
        cases same
        cases probe
      · rintro ⟨ne, -⟩
        exact absurd rfl ne
    · rw [Keyed.Table.find?_set_ne _ _ here]
      exact ⟨fun probes => ⟨here, probes⟩, fun probes => probes.2⟩
  · intro other found
    rw [tickets]
    by_cases here : other = id
    · subst here
      rw [Keyed.Table.find?_set_self]
      intro same
      cases same
      exact ⟨live, present, rfl, rfl⟩
    · rw [Keyed.Table.find?_set_ne _ _ here]
      exact fun same => ⟨found, same, rfl, rfl⟩

theorem released_keep {before after : BreakerRun} {id : ℕ}
    (tickets : after.tickets = before.tickets.keep (fun other => other != id)) :
    Released before after id := by
  have found (other : ℕ) : after.tickets.find? other =
      if other ≠ id then before.tickets.find? other else none := by
    rw [tickets, Keyed.Table.find?_keep]
    simp only [bne_iff_ne]
  constructor
  · intro other turn
    unfold Probes
    rw [found]
    by_cases here : other = id
    · simp [here]
    · simp [here]
  · intro other live same
    rw [found] at same
    obtain ⟨-, same⟩ := Option.ite_none_right_eq_some.mp same
    exact ⟨live, same, rfl, rfl⟩

theorem Sound.settled_held {run after : BreakerRun} (sound : run.Sound)
    (short : run.turns < 2 ^ 64) {id : ℕ} {live : LiveTicket}
    (present : run.tickets.find? id = some live) (released : Released run after id) :
    (run.breaker.settle live.ticket).probing = true ↔ ∃ other, after.Probes other run.turns := by
  have current := sound.current_iff short present
  unfold Breaker.settle
  split
  · rename_i holds
    rw [Bool.and_eq_true, beq_iff_eq] at holds
    have probes : run.Probes id run.turns := ⟨live, present, holds.1, current.mp holds.2.symm⟩
    constructor
    · intro probing
      cases probing
    · rintro ⟨other, held⟩
      obtain ⟨ne, held⟩ := (released.probes other run.turns).mp held
      exact absurd (sound.single other id run.turns held probes) ne
  · rename_i free
    rw [Bool.and_eq_true, beq_iff_eq] at free
    rw [sound.held]
    constructor
    · rintro ⟨other, held⟩
      refine ⟨other, (released.probes other run.turns).mpr ⟨?_, held⟩⟩
      rintro rfl
      obtain ⟨found, same, probe, turn⟩ := held
      obtain rfl := Option.some.inj (present.symm.trans same)
      exact free ⟨probe, (current.mpr turn).symm⟩
    · rintro ⟨other, held⟩
      exact ⟨other, ((released.probes other run.turns).mp held).2⟩

/-- A result or a drop keeps the invariant. -/
theorem Sound.moved {run after : BreakerRun} (sound : run.Sound) {id : ℕ} {live : LiveTicket}
    (present : run.tickets.find? id = some live) (released : Released run after id)
    (moved : Breaker.Moved run.breaker live.ticket after.breaker)
    (turns : after.turns =
      if after.breaker.generation = run.breaker.generation then run.turns else run.turns + 1)
    (later : run.clock ≤ after.clock) (short : after.turns < 2 ^ 64) : after.Sound := by
  have single : ∀ one other turn, after.Probes one turn → after.Probes other turn → one = other :=
    fun one other turn first second => sound.single one other turn
      ((released.probes one turn).mp first).2 ((released.probes other turn).mp second).2
  have cooled := moved.cooled sound.cooled
  have issued (reached : run.turns ≤ after.turns) : ∀ other found,
      after.tickets.find? other = some found →
        found.ticket.generation = UInt64.ofNat found.turn ∧ found.turn ≤ after.turns := by
    intro other found same
    obtain ⟨was, before, generation, turn⟩ := released.kept other found same
    obtain ⟨stamped, early⟩ := sound.issued other was before
    rw [← generation, ← turn]
    exact ⟨stamped, early.trans reached⟩
  have turned (generation : after.breaker.generation = run.breaker.generation + 1)
      (free : after.breaker.probing = false) : after.Sound := by
    rw [generation, if_neg (generation_succ_ne _)] at turns
    -- Every outstanding ticket was admitted before this turn.
    have none (other : ℕ) : ¬ after.Probes other after.turns := by
      intro held
      obtain ⟨found, same, -, turn⟩ := ((released.probes other _).mp held).2
      have early := (sound.issued other found same).2
      omega
    refine ⟨?_, issued (by omega), single, ?_, fun other held => absurd held (none other), cooled⟩
    · rw [generation, sound.counted, turns]
      exact (UInt64.ofNat_add run.turns 1).symm
    · rw [free]
      exact ⟨fun probing => absurd probing Bool.false_ne_true,
        fun ⟨other, held⟩ => absurd held (none other)⟩
  generalize written : after.breaker = breaker at moved
  cases moved with
  | stayed failures =>
      rw [written, Breaker.settle_generation, if_pos rfl] at turns
      rw [turns] at short
      refine ⟨?_, issued turns.ge, single, ?_, ?_, cooled⟩
      · rw [written, turns, Breaker.settle_generation]
        exact sound.counted
      · rw [written, turns]
        exact sound.settled_held short present released
      · intro other held
        rw [turns] at held
        obtain ⟨stop, shut, past⟩ := sound.due other ((released.probes other _).mp held).2
        rw [written, Breaker.settle_openUntil]
        exact ⟨stop, shut, past.trans later⟩
  | opened failures stop cooldown longer doubled =>
      exact turned (by rw [written]) (by rw [written])
  | closed probe current =>
      exact turned (by rw [written]; rfl) (by rw [written]; rfl)

/-- What an admission can do. -/
theorem admit_cases (breaker : Breaker) (now : ℤ) :
    (∃ seconds, breaker.admitBreaker now = .error seconds) ∨
    (breaker.openUntil = none ∧
      breaker.admitBreaker now = .ok (breaker, ⟨breaker.generation, false⟩)) ∨
    (∃ stop ∈ breaker.openUntil, stop ≤ now ∧ breaker.probing = false ∧
      breaker.admitBreaker now =
        .ok ({ breaker with probing := true }, ⟨breaker.generation, true⟩)) := by
  unfold Breaker.admitBreaker
  cases shut : breaker.openUntil with
  | none => exact .inr (.inl ⟨rfl, rfl⟩)
  | some stop =>
      dsimp only
      split
      · exact .inl ⟨_, rfl⟩
      · rename_i past
        cases probing : breaker.probing with
        | true => exact .inl ⟨_, rfl⟩
        | false => exact .inr (.inr ⟨stop, rfl, not_lt.mp past, rfl, rfl⟩)

theorem probes_admitted {run after : BreakerRun} {id : ℕ} {live : LiveTicket}
    (fresh : run.tickets.find? id = none) (tickets : after.tickets = run.tickets.set id live)
    (other turn : ℕ) : after.Probes other turn ↔
      run.Probes other turn ∨ (other = id ∧ live.ticket.probe = true ∧ live.turn = turn) := by
  unfold Probes
  rw [tickets]
  by_cases here : other = id
  · subst here
    simp [Keyed.Table.find?_set_self, fresh]
  · simp [Keyed.Table.find?_set_ne _ _ here, here]

/-- A new ticket; it holds the probe only when the cooldown is over and nobody
else holds it. -/
theorem Sound.issue {run after : BreakerRun} (sound : run.Sound) {id : ℕ} {probe : Bool}
    (fresh : run.tickets.find? id = none)
    (tickets : after.tickets = run.tickets.set id ⟨⟨run.breaker.generation, probe⟩, run.turns⟩)
    (breaker : after.breaker = { run.breaker with probing := run.breaker.probing || probe })
    (turns : after.turns = run.turns) (later : run.clock ≤ after.clock)
    (free : probe = true → run.breaker.probing = false ∧
      ∃ stop ∈ run.breaker.openUntil, stop ≤ after.clock) : after.Sound := by
  have probes := probes_admitted fresh tickets
  have alone (holds : probe = true) (other : ℕ) : ¬ run.Probes other run.turns := by
    intro held
    have taken := sound.held.mpr ⟨other, held⟩
    rw [(free holds).1] at taken
    cases taken
  constructor
  · rw [breaker, turns]
    exact sound.counted
  · intro other live present
    rw [tickets, Keyed.Table.find?_set] at present
    rw [turns]
    split at present
    · cases present
      exact ⟨sound.counted, le_refl _⟩
    · exact sound.issued other live present
  · intro one other turn first second
    obtain first | ⟨rfl, holds, rfl⟩ := (probes one turn).mp first
    · obtain second | ⟨rfl, holds, rfl⟩ := (probes other turn).mp second
      · exact sound.single one other turn first second
      · exact absurd first (alone holds one)
    · obtain second | ⟨rfl, -, -⟩ := (probes other _).mp second
      · exact absurd second (alone holds other)
      · rfl
  · rw [breaker, turns]
    simp only [probes, Bool.or_eq_true, sound.held, exists_or, exists_eq_left, and_true]
  · intro other held
    rw [turns] at held
    rw [breaker]
    obtain held | ⟨-, holds, -⟩ := (probes other run.turns).mp held
    · obtain ⟨stop, shut, past⟩ := sound.due other held
      exact ⟨stop, shut, past.trans later⟩
    · exact (free holds).2
  · rw [breaker]
    exact sound.cooled

theorem Sound.admitted {run after : BreakerRun} (sound : run.Sound) {id : ℕ} {now : ℤ}
    (later : run.clock ≤ now) (stepped : run.stepAt now (.lookup id) = some after) :
    after.Sound := by
  rw [stepAt] at stepped
  split at stepped
  · cases stepped
  rename_i fresh
  obtain ⟨seconds, refused⟩ | ⟨shut, admitted⟩ | ⟨stop, shut, past, free, admitted⟩ :=
    admit_cases run.breaker now
  · rw [refused] at stepped
    cases stepped
    refine ⟨sound.counted, sound.issued, sound.single, sound.held, ?_, sound.cooled⟩
    intro other held
    obtain ⟨stop, shut, past⟩ := sound.due other held
    exact ⟨stop, shut, past.trans later⟩
  · rw [admitted] at stepped
    cases stepped
    exact sound.issue fresh rfl (by simp) rfl later nofun
  · rw [admitted] at stepped
    cases stepped
    exact sound.issue fresh rfl (by simp) rfl later (fun _ => ⟨free, stop, shut, past⟩)

theorem withBreaker_turns (run : BreakerRun) (now : ℤ) (breaker : Breaker) :
    run.turns ≤ (run.withBreaker now breaker).turns := by
  unfold withBreaker
  dsimp only
  split <;> omega

/-- The invariant holds after every step, as long as the counter did not wrap. -/
theorem Sound.step {run after : BreakerRun} {label : ℤ × BreakerEvent}
    (sound : run.turns < 2 ^ 64 → run.Sound) (stepped : run.step label = some after)
    (short : after.turns < 2 ^ 64) : after.Sound := by
  obtain ⟨now, event⟩ := label
  obtain ⟨later, stepped⟩ := Option.ite_none_right_eq_some.mp stepped
  cases event with
  | lookup id =>
      have same : after.turns = run.turns := by
        rw [stepAt] at stepped
        grind
      exact (sound (same ▸ short)).admitted later stepped
  | success id =>
      obtain ⟨live, present, rfl⟩ := Option.map_eq_some_iff.mp stepped
      have sound := sound ((withBreaker_turns run now _).trans_lt short)
      exact sound.moved present (released_set present rfl)
        (Breaker.recordSuccess_moved run.breaker live.ticket) rfl later short
  | failure id failure =>
      obtain ⟨live, present, recorded⟩ := Option.bind_eq_some_iff.mp stepped
      obtain ⟨outcome, failed, rfl⟩ := Option.map_eq_some_iff.mp recorded
      have sound := sound ((withBreaker_turns run now _).trans_lt short)
      obtain ⟨found, same, moved⟩ :=
        Breaker.recordFailure_moved sound.cooled now failure live.ticket
      obtain rfl := Option.some.inj (failed.symm.trans same)
      exact sound.moved present (released_set present rfl) moved rfl later short
  | drop id =>
      obtain ⟨live, present, rfl⟩ := Option.map_eq_some_iff.mp stepped
      refine (sound short).moved present (released_keep rfl)
        (.stayed (run.breaker.settle live.ticket).failures) ?_ later short
      exact (if_pos (Breaker.settle_generation _ _)).symm

theorem reachable_sound {run : BreakerRun}
    (reached : Runs.Reachable addressBreaker Runs.anyStep run) (short : run.turns < 2 ^ 64) :
    run.Sound :=
  Runs.invariant addressBreaker Runs.anyStep (fun run => run.turns < 2 ^ 64 → run.Sound)
    (fun _ init _ => Sound.initial init) (fun _ _ _ sound _ stepped => Sound.step sound stepped)
    reached short

theorem Sound.probes_iff {run : BreakerRun} (sound : run.Sound) (short : run.turns < 2 ^ 64)
    (id : ℕ) : run.Probes id run.turns ↔
      ∃ live, run.tickets.find? id = some live ∧ live.ticket.probe = true ∧
        live.ticket.generation = run.breaker.generation := by
  constructor
  · rintro ⟨live, present, probe, turn⟩
    exact ⟨live, present, probe, (sound.current_iff short present).mpr turn⟩
  · rintro ⟨live, present, probe, current⟩
    exact ⟨live, present, probe, (sound.current_iff short present).mp current⟩

/-- Nobody is admitted during the cooldown. -/
theorem admit_open {breaker : Breaker} {now stop : ℤ} (shut : stop ∈ breaker.openUntil)
    (early : now < stop) : ∃ seconds, breaker.admitBreaker now = .error seconds := by
  unfold Breaker.admitBreaker
  rw [Option.mem_def.mp shut]
  exact ⟨_, if_pos early⟩

/-- After the cooldown one lookup is admitted, as the probe. -/
theorem admit_halfOpen {breaker : Breaker} {now stop : ℤ} (shut : stop ∈ breaker.openUntil)
    (past : stop ≤ now) : breaker.admitBreaker now =
      if breaker.probing then .error probeRetryAfterSeconds
      else .ok ({ breaker with probing := true }, ⟨breaker.generation, true⟩) := by
  unfold Breaker.admitBreaker
  rw [Option.mem_def.mp shut]
  exact if_neg (not_lt.mpr past)

theorem Sound.free {run : BreakerRun} (sound : run.Sound)
    (none : ∀ id, ¬ run.Probes id run.turns) : run.breaker.probing = false := by
  cases probing : run.breaker.probing with
  | false => rfl
  | true =>
      obtain ⟨id, held⟩ := sound.held.mp probing
      exact absurd held (none id)

theorem Sound.lengthened {run : BreakerRun} (sound : run.Sound) (short : run.turns < 2 ^ 64)
    {id : ℕ} {live : LiveTicket} {after : Breaker} {now stop : ℤ}
    (present : run.tickets.find? id = some live) (later : run.clock ≤ now)
    (moved : Breaker.Moved run.breaker live.ticket after) (shut : stop ∈ run.breaker.openUntil)
    (early : now < stop) : ∃ next ∈ after.openUntil, stop ≤ next := by
  cases moved with
  | stayed failures =>
      refine ⟨stop, ?_, le_refl _⟩
      rw [Breaker.settle_openUntil]
      exact shut
  | opened failures next cooldown longer doubled => exact ⟨next, rfl, (longer stop shut).le⟩
  | closed probe current =>
      -- The probe was admitted after the cooldown, which has not changed since.
      obtain ⟨past, same, elapsed⟩ :=
        sound.due id ((sound.probes_iff short id).mpr ⟨live, present, probe, current⟩)
      obtain rfl := Option.some.inj (Option.mem_def.mp shut ▸ Option.mem_def.mp same)
      omega

theorem Sound.step_lengthened {run after : BreakerRun} (sound : run.Sound)
    (short : run.turns < 2 ^ 64) {label : ℤ × BreakerEvent} (stepped : run.step label = some after)
    {stop : ℤ} (shut : stop ∈ run.breaker.openUntil) (early : label.1 < stop) :
    ∃ next ∈ after.breaker.openUntil, stop ≤ next := by
  obtain ⟨now, event⟩ := label
  obtain ⟨later, stepped⟩ := Option.ite_none_right_eq_some.mp stepped
  cases event with
  | lookup id =>
      obtain ⟨seconds, refused⟩ := admit_open shut early
      dsimp only at stepped refused
      rw [stepAt, refused] at stepped
      split at stepped
      · cases stepped
      · cases stepped
        exact ⟨stop, shut, le_refl _⟩
  | success id =>
      obtain ⟨live, present, rfl⟩ := Option.map_eq_some_iff.mp stepped
      exact sound.lengthened short present later (Breaker.recordSuccess_moved _ _) shut early
  | failure id failure =>
      obtain ⟨live, present, recorded⟩ := Option.bind_eq_some_iff.mp stepped
      obtain ⟨outcome, failed, rfl⟩ := Option.map_eq_some_iff.mp recorded
      obtain ⟨found, same, moved⟩ :=
        Breaker.recordFailure_moved sound.cooled now failure live.ticket
      obtain rfl := Option.some.inj (failed.symm.trans same)
      exact sound.lengthened short present later moved shut early
  | drop id =>
      obtain ⟨live, present, rfl⟩ := Option.map_eq_some_iff.mp stepped
      exact sound.lengthened short present later
        (.stayed (run.breaker.settle live.ticket).failures) shut early

end BreakerRun

open BreakerRun in
/-- The breaker in every state a run reaches before its counter wraps. -/
theorem address_breaker_law (run : BreakerRun)
    (reached : Runs.Reachable addressBreaker Runs.anyStep run) (short : run.turns < 2 ^ 64) :
    -- Nobody is admitted during the cooldown.
    (∀ now stop, stop ∈ run.breaker.openUntil → now < stop →
      ∃ seconds, run.breaker.admitBreaker now = .error seconds) ∧
    -- Each generation has at most one outstanding probe.
    (∀ id other live found, run.tickets.find? id = some live →
      run.tickets.find? other = some found → live.ticket.probe = true →
      found.ticket.probe = true → live.ticket.generation = found.ticket.generation →
      id = other) ∧
    -- After the cooldown a lookup is admitted exactly when the current
    -- generation has no outstanding probe, and then it is the probe.
    (∀ now stop, stop ∈ run.breaker.openUntil → stop ≤ now →
      (run.breaker.admitBreaker now = .error probeRetryAfterSeconds ∧
        ∃ id live, run.tickets.find? id = some live ∧ live.ticket.probe = true ∧
          live.ticket.generation = run.breaker.generation) ∨
      (run.breaker.admitBreaker now =
          .ok ({ run.breaker with probing := true }, ⟨run.breaker.generation, true⟩) ∧
        ∀ id live, run.tickets.find? id = some live → live.ticket.probe = true →
          live.ticket.generation ≠ run.breaker.generation)) ∧
    -- A dropped probe leaves its place to the next lookup.
    (∀ id live now after, run.tickets.find? id = some live → live.ticket.probe = true →
      live.ticket.generation = run.breaker.generation →
      run.step (now, .drop id) = some after → ∀ later, now ≤ later →
        after.breaker.admitBreaker later =
          .ok ({ after.breaker with probing := true }, ⟨after.breaker.generation, true⟩)) ∧
    -- A success or an unavailability of an older generation changes nothing.
    (∀ id live now, run.tickets.find? id = some live → live.turn < run.turns →
      run.breaker.recordSuccess live.ticket = run.breaker ∧
      ∃ seconds, run.breaker.recordFailure now .unavailable live.ticket =
        some (run.breaker, seconds)) ∧
    -- A cooldown that is not over is neither shortened nor cleared.
    (∀ label after stop, run.step label = some after → stop ∈ run.breaker.openUntil →
      label.1 < stop → ∃ next ∈ after.breaker.openUntil, stop ≤ next) ∧
    -- The next cooldown stays in its bounds, and no failure panics.
    breakerBaseSeconds ≤ run.breaker.nextCooldownSeconds ∧
    run.breaker.nextCooldownSeconds ≤ breakerMaxSeconds ∧
    ∀ id live now failure, run.tickets.find? id = some live →
      (run.breaker.recordFailure now failure live.ticket).isSome = true := by
  have sound := BreakerRun.reachable_sound reached short
  refine ⟨fun now stop => admit_open, ?_, ?_, ?_, ?_,
    fun label after stop stepped => sound.step_lengthened short stepped, sound.cooled.1,
    sound.cooled.2, ?_⟩
  · intro id other live found present also probe otherProbe same
    have turn : live.turn = found.turn := by
      obtain ⟨first, early⟩ := sound.issued id live present
      obtain ⟨second, otherEarly⟩ := sound.issued other found also
      exact turn_inj (early.trans_lt short) (otherEarly.trans_lt short)
        (first.symm.trans (same.trans second))
    exact sound.single id other found.turn ⟨live, present, probe, turn⟩
      ⟨found, also, otherProbe, rfl⟩
  · intro now stop shut past
    rw [admit_halfOpen shut past]
    cases probing : run.breaker.probing with
    | true =>
        obtain ⟨id, held⟩ := sound.held.mp probing
        exact .inl ⟨rfl, id, (sound.probes_iff short id).mp held⟩
    | false =>
        refine .inr ⟨rfl, fun id live present probe current => ?_⟩
        have held := (sound.probes_iff short id).mpr ⟨live, present, probe, current⟩
        have taken := sound.held.mpr ⟨id, held⟩
        rw [probing] at taken
        cases taken
  · intro id live now after present probe current stepped later following
    have held := (sound.probes_iff short id).mpr ⟨live, present, probe, current⟩
    obtain ⟨stop, shut, past⟩ := sound.due id held
    obtain ⟨onward, dropped⟩ := Option.ite_none_right_eq_some.mp stepped
    obtain ⟨found, same, written⟩ := Option.map_eq_some_iff.mp dropped
    obtain rfl := Option.some.inj (present.symm.trans same)
    have released : Released run after id := released_keep (by rw [← written])
    have turns : after.turns = run.turns := by rw [← written]
    have free : after.breaker.probing = false := by
      refine (Sound.step (fun _ => sound) stepped (turns ▸ short)).free fun other holds => ?_
      obtain ⟨ne, holds⟩ := (released.probes other after.turns).mp holds
      exact ne (sound.single other id run.turns (turns ▸ holds) held)
    have still : stop ∈ after.breaker.openUntil := by
      rw [← written, Breaker.settle_openUntil]
      exact shut
    rw [admit_halfOpen still (past.trans (onward.trans following)), free]
    rfl
  · intro id live now present older
    have stale : live.ticket.generation ≠ run.breaker.generation :=
      fun current => older.ne ((sound.current_iff short present).mp current)
    exact ⟨Breaker.recordSuccess_of_stale stale, Breaker.recordFailure_of_stale now stale⟩
  · intro id live now failure present
    obtain ⟨outcome, recorded, -⟩ :=
      Breaker.recordFailure_moved sound.cooled now failure live.ticket
    rw [recorded]
    rfl

/-- Two lookups are under way when the first sees a 429: the breaker opens for
ten seconds, and the success of the second leaves it open. -/
theorem throttled_lookup_opens :
    ∃ run, Runs.Reachable addressBreaker Runs.anyStep run ∧ run.turns < 2 ^ 64 ∧
      run.breaker.openUntil = some (10 * nanosOfSecond) ∧
      (∃ seconds, run.breaker.admitBreaker (3 * nanosOfSecond) = .error seconds) ∧
      ∃ live, run.tickets.find? 1 = some live ∧ live.turn < run.turns ∧
        run.breaker.recordSuccess live.ticket = run.breaker := by
  obtain ⟨run, reached, short, shut, live, present, older⟩ :=
    @Runs.exists_reachable_of_run _ _ addressBreaker Runs.anyStep
      ⟨Breaker.closed 0, .empty, 0, 0⟩ ⟨rfl, rfl, rfl⟩
      [(0, .lookup 0), (0, .lookup 1), (0, .failure 0 (.throttled none))]
      (fun run => run.turns < 2 ^ 64 ∧ run.breaker.openUntil = some (10 * nanosOfSecond) ∧
        ∃ live ∈ run.tickets.find? 1, live.turn < run.turns)
      (Runs.meets_anyStep _ _ _) (by decide +kernel)
  obtain ⟨refuses, -, -, -, stale, -⟩ := address_breaker_law run reached short
  exact ⟨run, reached, short, shut, refuses _ _ shut (by decide), live, present, older,
    (stale 1 live 0 present older).1⟩

end MarketplaceService
