import Mathlib.Algebra.Order.Round
import Mathlib.Data.Rat.Floor
import Mathlib.Tactic.Linarith

/-!
# Rounding half to even

A rational is rounded to the nearest integer; of two nearest integers the even
one is taken.
-/

namespace TurningGood.Foundation

/-- The nearest integer, and the even one of two. -/
def roundHalfEven (value : ℚ) : ℤ :=
  if Int.fract value < 1 / 2 then
    ⌊value⌋
  else if 1 / 2 < Int.fract value then
    ⌊value⌋ + 1
  else if ⌊value⌋ % 2 = 0 then
    ⌊value⌋
  else
    ⌊value⌋ + 1

theorem roundHalfEven_near (value : ℚ) : (roundHalfEven value : ℚ) ≤ value + 1 / 2 ∧
      value - 1 / 2 ≤ roundHalfEven value := by
  have parts := Int.floor_add_fract value
  have below := Int.fract_nonneg value
  have above := Int.fract_lt_one value
  rw [roundHalfEven]
  split_ifs with small large even
  · constructor <;> linarith
  · push_cast
    constructor <;> linarith
  · constructor <;> linarith
  · push_cast
    constructor <;> linarith

end TurningGood.Foundation
