import Mathlib.Data.List.Basic

/-!
Two runs of a machine that answers each request. What one observer is answered
in a run is the answers to the requests it sees. Two runs are compared side by
side, request by request: where a relation of the two states is kept by each
pair of steps and makes the seen answers equal, the observer is answered the
same in both.
-/

namespace Unwinding

variable {State Request Response : Type*} (serve : State → Request → State × Response)

/-- The state after some requests, and their answers. -/
def run (state : State) : List Request → State × List Response
  | [] => (state, [])
  | request :: rest =>
      ((run (serve state request).1 rest).1,
        (serve state request).2 :: (run (serve state request).1 rest).2)

/-- The answers to the requests that are seen. -/
def observed (seen : Request → Bool) (requests : List Request) (responses : List Response) :
    List Response :=
  ((requests.zip responses).filter fun pair => seen pair.1).map Prod.snd

/-- Two runs side by side, each pair of steps being allowed. -/
def Meets (allowed : State → State → Request → Request → Prop) :
    State → State → List (Request × Request) → Prop
  | _, _, [] => True
  | left, right, pair :: rest =>
      allowed left right pair.1 pair.2 ∧
        Meets allowed (serve left pair.1).1 (serve right pair.2).1 rest

variable {serve}

theorem observed_cons (seen : Request → Bool) (request : Request) (requests : List Request)
    (response : Response) (responses : List Response) :
    observed seen (request :: requests) (response :: responses) =
      if seen request then response :: observed seen requests responses
      else observed seen requests responses := by
  unfold observed
  rw [List.zip_cons_cons, List.filter_cons]
  cases seen request <;> rfl

/-- A relation that each pair of steps keeps, and under which the seen answers
are equal, carries over whole runs. -/
theorem unwinding {allowed : State → State → Request → Request → Prop}
    {alike : State → State → Prop} {seen : Request → Bool}
    (step : ∀ left right one two, alike left right → allowed left right one two →
      alike (serve left one).1 (serve right two).1 ∧ seen one = seen two ∧
        (seen one = true → (serve left one).2 = (serve right two).2)) :
    ∀ (pairs : List (Request × Request)) (left right : State), alike left right →
      Meets serve allowed left right pairs →
      alike (run serve left (pairs.map Prod.fst)).1 (run serve right (pairs.map Prod.snd)).1 ∧
        observed seen (pairs.map Prod.fst) (run serve left (pairs.map Prod.fst)).2 =
          observed seen (pairs.map Prod.snd) (run serve right (pairs.map Prod.snd)).2 := by
  intro pairs
  induction pairs with
  | nil =>
      intro left right related _
      exact ⟨related, rfl⟩
  | cons pair rest ih =>
      intro left right related met
      obtain ⟨kept, sight, answers⟩ := step left right pair.1 pair.2 related met.1
      obtain ⟨final, tail⟩ := ih _ _ kept met.2
      refine ⟨final, ?_⟩
      simp only [List.map_cons, run, observed_cons]
      rw [← sight, tail]
      by_cases shown : seen pair.1 = true
      · rw [if_pos shown, if_pos shown, answers shown]
      · rw [if_neg shown, if_neg shown]

end Unwinding
