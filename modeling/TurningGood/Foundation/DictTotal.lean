import Mathlib.Algebra.GroupWithZero.Nat
import TurningGood.Foundation.Dict

/-!
# Totals over a dictionary

A weight of the values adds up to a total.  An assignment changes the total
by the weight of the one value that it replaces, so a family of holders can
be accounted for while one of them changes.
-/

namespace TurningGood.Foundation.Dict

universe u v

variable {Key : Type u} {Value : Type v}

/-- The sum of the weights of all values. -/
def total (weight : Value → Nat) (dict : Dict Key Value) : Nat :=
  (dict.entries.map fun entry => weight entry.2).sum

section Assignment

variable [DecidableEq Key]

theorem total_insert (weight : Value → Nat) (dict : Dict Key Value) (key : Key) (value : Value) :
    (dict.insert key value).total weight + ((dict.get? key).map weight).getD 0 =
      dict.total weight + weight value := by
  have entriesBalance : ∀ entries : List (Key × Value),
      ((insertEntries key value entries).map fun entry => weight entry.2).sum +
          ((lookupEntries key entries).map weight).getD 0 =
        (entries.map fun entry => weight entry.2).sum + weight value := by
    intro entries
    induction entries with
    | nil => simp [insertEntries, lookupEntries]
    | cons entry rest induction =>
      by_cases same : entry.1 = key
      · simp only [insertEntries, lookupEntries, same, if_true,
          List.map_cons, List.sum_cons, Option.map_some,
          Option.getD_some]
        omega
      · simp only [insertEntries, lookupEntries, same, if_false, List.map_cons, List.sum_cons]
        omega
  exact entriesBalance dict.entries

theorem total_insert_of_get? (weight : Value → Nat) {dict : Dict Key Value}
    {key : Key} {old : Value} (found : dict.get? key = some old)
    (value : Value) :
    (dict.insert key value).total weight + weight old =
      dict.total weight + weight value := by
  have balance := total_insert weight dict key value
  rwa [found] at balance

theorem total_insert_of_new (weight : Value → Nat) {dict : Dict Key Value}
    {key : Key} (fresh : dict.get? key = none) (value : Value) :
    (dict.insert key value).total weight =
      dict.total weight + weight value := by
  have balance := total_insert weight dict key value
  rwa [fresh] at balance

theorem total_le_total
    {light heavy : Value → Nat} (dict : Dict Key Value)
    (pointwise : ∀ key value, dict.get? key = some value → light value ≤ heavy value) :
    dict.total light ≤ dict.total heavy := by
  have entriesLess : ∀ entries : List (Key × Value),
      (∀ entry ∈ entries, light entry.2 ≤ heavy entry.2) →
      (entries.map fun entry => light entry.2).sum ≤
        (entries.map fun entry => heavy entry.2).sum := by
    intro entries smaller
    induction entries with
    | nil => exact Nat.le_refl 0
    | cons entry rest induction =>
      have head := smaller entry List.mem_cons_self
      have tail := induction fun other member =>
        smaller other (List.mem_cons_of_mem entry member)
      simp only [List.map_cons, List.sum_cons]
      omega
  apply entriesLess
  intro entry member
  exact pointwise entry.1 entry.2 ((mem_entries_iff dict entry.1 entry.2).mp member)

end Assignment

end TurningGood.Foundation.Dict
