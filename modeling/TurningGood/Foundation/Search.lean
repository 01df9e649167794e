import Mathlib.Order.Defs.LinearOrder
import Mathlib.Algebra.Order.Group.Nat
import Mathlib.Tactic.SplitIfs

/-!
# Bounded search

The first number from a start that satisfies a test, looked for a limited
number of steps.  The result is the least such number, and there is none
exactly when the whole range fails the test.
-/

namespace TurningGood.Foundation

variable {test : Nat → Bool}

variable {steps start : Nat}

/-- The first number from `start` that passes, within `steps` steps. -/
def firstFrom (test : Nat → Bool) : Nat → Nat → Option Nat
  | 0, _ => none
  | steps + 1, start =>
    if test start then some start else firstFrom test steps (start + 1)

theorem firstFrom_eq_some {found : Nat} (search : firstFrom test steps start = some found) :
    start ≤ found ∧ found < start + steps ∧ test found = true ∧
      ∀ earlier, start ≤ earlier → earlier < found →
        test earlier = false := by
  induction steps generalizing start with
  | zero => cases search
  | succ steps induction =>
    simp only [firstFrom] at search
    split_ifs at search with passes
    · rw [Option.some.injEq] at search
      subst found
      exact ⟨le_rfl, by omega, passes, fun _ _ _ => by omega⟩
    · rcases induction search with ⟨low, high, hit, first⟩
      refine ⟨by omega, by omega, hit, ?_⟩
      intro earlier from' before
      rcases Nat.eq_or_lt_of_le from' with same | later
      · exact same ▸ eq_false_of_ne_true passes
      · exact first earlier later before

theorem firstFrom_eq_none_iff : firstFrom test steps start = none ↔
      ∀ number, start ≤ number → number < start + steps →
        test number = false := by
  induction steps generalizing start with
  | zero =>
    refine ⟨fun _ number low high => by omega, fun _ => rfl⟩
  | succ steps induction =>
    simp only [firstFrom]
    split_ifs with passes
    · constructor
      · intro found
        cases found
      · intro fails
        have failed := fails start le_rfl (by omega)
        rw [passes] at failed
        cases failed
    · rw [induction]
      constructor
      · intro fails number low high
        rcases Nat.eq_or_lt_of_le low with same | later
        · exact same ▸ eq_false_of_ne_true passes
        · exact fails number later (by omega)
      · intro fails number low high
        exact fails number (by omega) (by omega)

theorem firstFrom_isSome_iff (test : Nat → Bool) (steps start : Nat) :
    (firstFrom test steps start).isSome ↔ ∃ number, start ≤ number ∧ number < start + steps ∧
        test number = true := by
  rw [← not_iff_not, Bool.not_eq_true, Option.isSome_eq_false_iff,
    Option.isNone_iff_eq_none, firstFrom_eq_none_iff]
  constructor
  · rintro fails ⟨number, low, high, passes⟩
    rw [fails number low high] at passes
    cases passes
  · intro missing number low high
    by_contra passes
    exact missing ⟨number, low, high, by simpa using passes⟩

theorem firstFrom_of_later {later found : Nat} (search : firstFrom test steps start = some found)
    (notBefore : start ≤ later) (upTo : later ≤ found) :
    firstFrom test steps later = some found := by
  rcases firstFrom_eq_some search with ⟨_, high, hit, first⟩
  have some := (firstFrom_isSome_iff test steps later).mpr
    ⟨found, upTo, by omega, hit⟩
  rcases Option.isSome_iff_exists.mp some with ⟨other, again⟩
  rcases firstFrom_eq_some again with ⟨low, _, otherHit, otherFirst⟩
  have same : other = found := by
    rcases Nat.lt_trichotomy other found with less | same | more
    · have fails := first other (by omega) less
      rw [otherHit] at fails
      cases fails
    · exact same
    · have fails := otherFirst found upTo more
      rw [hit] at fails
      cases fails
  rw [again, same]

end TurningGood.Foundation
