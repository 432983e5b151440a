import Mathlib.Algebra.Group.Int.Defs
import Mathlib.Algebra.Group.Nat.Defs
import Mathlib.Data.Int.Basic

/-!
Signed 64-bit arithmetic as release builds do it: a result outside the range is
taken modulo `2 ^ 64`.
-/

namespace MachineInt

def minimum : ℤ := -2 ^ 63

def maximum : ℤ := 2 ^ 63 - 1

def InRange (value : ℤ) : Prop := minimum ≤ value ∧ value ≤ maximum

instance (value : ℤ) : Decidable (InRange value) :=
  inferInstanceAs (Decidable (minimum ≤ value ∧ value ≤ maximum))

/-- The 64-bit value of an integer. -/
def wrap (value : ℤ) : ℤ := value.bmod (2 ^ 64)

def saturate (value : ℤ) : ℤ := max minimum (min maximum value)

theorem wrap_inRange (value : ℤ) : InRange (wrap value) := by
  have low := Int.le_bmod (x := value) (m := 2 ^ 64) (by decide)
  have high := Int.bmod_lt (x := value) (m := 2 ^ 64) (by decide)
  unfold InRange wrap minimum maximum
  omega

theorem wrap_of_inRange {value : ℤ} (inside : InRange value) : wrap value = value := by
  unfold InRange minimum maximum at inside
  unfold wrap
  exact Int.bmod_eq_of_le (by omega) (by omega)

theorem wrap_wrap_add (first second : ℤ) : wrap (wrap first + second) = wrap (first + second) :=
  Int.bmod_add_bmod ..

theorem wrap_wrap_sub (first second : ℤ) :
    wrap (wrap first - wrap second) = wrap (first - second) :=
  (Int.sub_bmod first second (2 ^ 64)).symm

/-- The 64-bit value is right exactly in the range. -/
theorem wrap_eq_iff (value : ℤ) : wrap value = value ↔ InRange value :=
  ⟨fun same => same ▸ wrap_inRange value, wrap_of_inRange⟩

end MachineInt
