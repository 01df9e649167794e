import Mathlib.Algebra.BigOperators.Group.List.Basic

/-!
# Running totals

A list of rows, each with an amount of its own and a total.  The totals run
when each of them is the sum of the amounts up to its row.  A row that is
added behind keeps them running exactly if its total is the last total and
its own amount.
-/

namespace TurningGood.Foundation

universe u v

variable {Row : Type u} {Amount : Type v} [AddMonoid Amount]
variable {amount total : Row → Amount}

variable (amount total) in
/-- The total of each row is the sum of the amounts up to it. -/
def RunningTotals (rows : List Row) : Prop := ∀ front row back, rows = front ++ row :: back →
    total row = (front.map amount).sum + amount row

variable (total) in
/-- The total of the last row. -/
def lastTotal (rows : List Row) : Amount := (rows.getLast?.map total).getD 0

theorem runningTotals_nil : RunningTotals amount total [] := by
  intro front row back same
  exact absurd same.symm (List.append_ne_nil_of_right_ne_nil _ nofun)

@[simp]
theorem lastTotal_concat (rows : List Row) (row : Row) :
    lastTotal total (rows ++ [row]) = total row := by
  unfold lastTotal
  rw [List.getLast?_concat]
  rfl

theorem RunningTotals.lastTotal_eq
    {rows : List Row} (running : RunningTotals amount total rows) :
    lastTotal total rows = (rows.map amount).sum := by
  rcases List.eq_nil_or_concat rows with rfl | ⟨front, row, rfl⟩
  · rfl
  · rw [List.concat_eq_append] at running ⊢
    rw [lastTotal_concat, running front row [] rfl, List.map_append,
      List.sum_append, List.map_singleton, List.sum_singleton]

theorem runningTotals_concat_iff
    {rows : List Row} {row : Row}
    (running : RunningTotals amount total rows) :
    RunningTotals amount total (rows ++ [row]) ↔
      total row = lastTotal total rows + amount row := by
  rw [running.lastTotal_eq]
  constructor
  · intro longer
    exact longer rows row [] rfl
  · intro added front later back same
    rcases List.eq_nil_or_concat back with rfl | ⟨middle, last, rfl⟩
    · rcases List.append_inj' same rfl with ⟨rfl, one⟩
      cases one
      exact added
    · rw [List.concat_eq_append, ← List.cons_append, ← List.append_assoc] at same
      rcases List.append_inj' same rfl with ⟨earlier, -⟩
      exact running front later middle earlier

end TurningGood.Foundation
