import Mathlib.Logic.Basic

/-!
Labelled transition systems whose steps are partial functions. `Reachable`
restricts the steps of a run by a condition on the state before the step and
its label; the unrestricted runs are those of the condition that always holds.
A run given as a list of labels is a computation, so a concrete run can be
evaluated.
-/

namespace Runs

universe u v
variable {State : Type u} {Label : Type v}

structure System (State : Type u) (Label : Type v) where
  initial : State → Prop
  step : State → Label → Option State

inductive Reachable (system : System State Label) (allowed : State → Label → Prop) :
    State → Prop
  | start {state : State} (init : system.initial state) : Reachable system allowed state
  | next {before after : State} {label : Label} (prior : Reachable system allowed before)
      (meets : allowed before label) (stepped : system.step before label = some after) :
      Reachable system allowed after

def anyStep (_ : State) (_ : Label) : Prop := True

/-- The invariant rule: what holds initially and is kept by each allowed step
holds in every state such a run reaches. -/
theorem invariant (system : System State Label) (allowed : State → Label → Prop)
    (holds : State → Prop) (base : ∀ state, system.initial state → holds state)
    (keep : ∀ before label after, holds before → allowed before label →
      system.step before label = some after → holds after)
    {state : State} (reached : Reachable system allowed state) : holds state := by
  induction reached with
  | start init => exact base _ init
  | next _ meets stepped ih => exact keep _ _ _ ih meets stepped

/-- The invariant rule with an invariant that is already established: `keep`
may use `known` before the step. -/
theorem invariant_under (system : System State Label) (allowed : State → Label → Prop)
    (known holds : State → Prop)
    (established : ∀ state, Reachable system allowed state → known state)
    (base : ∀ state, system.initial state → holds state)
    (keep : ∀ before label after, known before → holds before → allowed before label →
      system.step before label = some after → holds after)
    {state : State} (reached : Reachable system allowed state) : holds state := by
  induction reached with
  | start init => exact base _ init
  | next prior meets stepped ih => exact keep _ _ _ (established _ prior) ih meets stepped

def run (system : System State Label) (state : State) : List Label → Option State
  | [] => some state
  | label :: rest => (system.step state label).bind fun after => run system after rest

theorem run_step {system : System State Label} {before middle after : State} {label : Label}
    {rest : List Label} (stepped : system.step before label = some middle)
    (ran : run system middle rest = some after) :
    run system before (label :: rest) = some after := by
  rw [run, stepped]
  exact ran

theorem run_append (system : System State Label) (first second : List Label) :
    ∀ state, run system state (first ++ second) =
      (run system state first).bind fun middle => run system middle second := by
  induction first with
  | nil => exact fun _ => rfl
  | cons label rest ih =>
      intro state
      simp only [List.cons_append, run]
      cases system.step state label with
      | none => rfl
      | some after => exact ih after

theorem run_concat {system : System State Label} {state before after : State}
    {labels : List Label} {label : Label} (ran : run system state labels = some before)
    (stepped : system.step before label = some after) :
    run system state (labels ++ [label]) = some after := by
  rw [run_append, ran, Option.bind_some, run, stepped]
  rfl

/-- The run given by `labels` meets `allowed` at each of its steps. -/
def Meets (system : System State Label) (allowed : State → Label → Prop) :
    State → List Label → Prop
  | _, [] => True
  | state, label :: rest =>
      allowed state label ∧ ∀ after ∈ system.step state label, Meets system allowed after rest

def Meets.decide (system : System State Label) (allowed : State → Label → Prop)
    [∀ state label, Decidable (allowed state label)] :
    ∀ (labels : List Label) (state : State), Decidable (Meets system allowed state labels)
  | [], _ => .isTrue trivial
  | label :: rest, state =>
      have (after : State) : Decidable (Meets system allowed after rest) :=
        Meets.decide system allowed rest after
      inferInstanceAs (Decidable (allowed state label ∧
        ∀ after ∈ system.step state label, Meets system allowed after rest))

instance (system : System State Label) (allowed : State → Label → Prop)
    [∀ state label, Decidable (allowed state label)] (state : State) (labels : List Label) :
    Decidable (Meets system allowed state labels) :=
  Meets.decide system allowed labels state

theorem reachable_of_meets {system : System State Label} {allowed : State → Label → Prop}
    {labels : List Label} : ∀ {before after : State}, Reachable system allowed before →
      Meets system allowed before labels → run system before labels = some after →
      Reachable system allowed after := by
  induction labels with
  | nil =>
      intro before after prior _ ran
      cases ran
      exact prior
  | cons label rest ih =>
      intro before after prior meets ran
      obtain ⟨middle, stepped, tail⟩ := Option.bind_eq_some_iff.mp ran
      exact ih (.next prior meets.1 stepped) (meets.2 middle stepped) tail

theorem kept_by_run {system : System State Label} {allowed : State → Label → Prop}
    {holds : State → Prop}
    (keep : ∀ before label after, Reachable system allowed before → holds before →
      allowed before label → system.step before label = some after → holds after)
    {labels : List Label} : ∀ {before after : State}, Reachable system allowed before →
      holds before → Meets system allowed before labels → run system before labels = some after →
      holds after := by
  induction labels with
  | nil =>
      intro before after _ held _ ran
      cases ran
      exact held
  | cons label rest ih =>
      intro before after prior held meets ran
      obtain ⟨middle, stepped, tail⟩ := Option.bind_eq_some_iff.mp ran
      exact ih (.next prior meets.1 stepped) (keep before label middle prior held meets.1 stepped)
        (meets.2 middle stepped) tail

theorem meets_anyStep (system : System State Label) (labels : List Label) :
    ∀ state, Meets system anyStep state labels := by
  induction labels with
  | nil => exact fun _ => trivial
  | cons label rest ih => exact fun _ => ⟨trivial, fun after _ => ih after⟩

/-- A concrete run that ends in a state with a checkable property shows that a
state with this property is reached. -/
theorem exists_reachable_of_run (system : System State Label) {allowed : State → Label → Prop}
    {start : State} (init : system.initial start) (labels : List Label) (found : State → Prop)
    (meets : Meets system allowed start labels)
    (ran : ∃ state ∈ run system start labels, found state) :
    ∃ state, Reachable system allowed state ∧ found state := by
  obtain ⟨state, ended, holds⟩ := ran
  exact ⟨state, reachable_of_meets (.start init) meets ended, holds⟩

end Runs
