import Mathlib.Logic.Basic

/-!
# Results that may fail

What is done behind a result, and what a result is changed to, is successful
only if the result is.
-/

namespace TurningGood.Foundation

universe u v w

variable {Failure : Type u} {First : Type v} {Second : Type w}

theorem bind_eq_ok {first : Except Failure First}
    {next : First → Except Failure Second} {result : Second} :
    first.bind next = .ok result ↔
      ∃ value, first = .ok value ∧ next value = .ok result := by
  cases first with
  | error text => exact iff_of_false nofun (fun ⟨_, ended, _⟩ => nomatch ended)
  | ok value =>
    constructor
    · exact fun ended => ⟨value, rfl, ended⟩
    · rintro ⟨_, same, ended⟩
      cases same
      exact ended

theorem map_eq_ok {first : Except Failure First} {change : First → Second}
    {result : Second} :
    first.map change = .ok result ↔
      ∃ value, first = .ok value ∧ change value = result := by
  cases first with
  | error text => exact iff_of_false nofun (fun ⟨_, ended, _⟩ => nomatch ended)
  | ok value =>
    simp only [Except.map, Except.ok.injEq, exists_eq_left']

end TurningGood.Foundation
