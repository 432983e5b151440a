import Mathlib.Logic.Basic

/-!
Reading a computation that may fail backwards: what a sequence of steps did,
given that all of them succeeded.
-/

namespace Outcome

universe u v
variable {E : Type u} {A B : Type v}

theorem bind_ok {step : Except E A} {next : A → Except E B} {result : B}
    (ran : (step >>= next) = .ok result) : ∃ value, step = .ok value ∧ next value = .ok result := by
  cases step with
  | error failure => cases ran
  | ok value => exact ⟨value, rfl, ran⟩

theorem pure_ok {value result : A} (ran : (pure value : Except E A) = .ok result) :
    result = value := by
  cases ran
  rfl

theorem toOption_some {step : Except E A} {value : A} (ran : step.toOption = some value) :
    step = .ok value := by
  cases step with
  | error failure => cases ran
  | ok result =>
      cases ran
      rfl

theorem guard_ok {refused : Prop} [Decidable refused] {failure : E} {rest : Except E A}
    {result : A} (ran : (if refused then .error failure else rest) = .ok result) :
    ¬ refused ∧ rest = .ok result := by
  by_cases fired : refused
  · rw [if_pos fired] at ran
    cases ran
  · rw [if_neg fired] at ran
    exact ⟨fired, ran⟩

/-- A step taken only when it is needed either ran or changed nothing. -/
theorem ite_ok {needed : Prop} [Decidable needed] {step : Except E A} {kept result : A}
    (ran : (if needed then step else .ok kept) = .ok result) :
    needed ∧ step = .ok result ∨ ¬ needed ∧ result = kept := by
  by_cases taken : needed
  · rw [if_pos taken] at ran
    exact .inl ⟨taken, ran⟩
  · rw [if_neg taken] at ran
    cases ran
    exact .inr ⟨taken, rfl⟩

/-- Two computations that agree up to their values fail alike or both succeed. -/
theorem agree_cases {first : Except E A} {second : Except E B}
    (agreed : first.map (fun _ => ()) = second.map fun _ => ()) :
    (∃ failure, first = .error failure ∧ second = .error failure) ∨
      ∃ one two, first = .ok one ∧ second = .ok two := by
  cases first with
  | error failure =>
      cases second with
      | error other =>
          cases agreed
          exact .inl ⟨failure, rfl, rfl⟩
      | ok two => cases agreed
  | ok one =>
      cases second with
      | error other => cases agreed
      | ok two => exact .inr ⟨one, two, rfl, rfl⟩

end Outcome
