import Mathlib.Algebra.GroupWithZero.Nat
import Mathlib.Data.List.Basic
import Mathlib.Data.List.Forall2

/-!
# Lists that are paired position by position

Two lists are related when their items are, position by position.  One
position of both may change, and both may grow.  A weight of the items of one
list adds up to its sum, and bounds how many items of the other one pass a
test.
-/

namespace TurningGood.Foundation

universe u v

variable {First : Type u} {Second : Type v}
variable {related : First → Second → Prop}
variable {firsts : List First} {seconds : List Second}

variable {first : First}

theorem forall₂_getElem? (paired : List.Forall₂ related firsts seconds)
    {index : Nat} (found : firsts[index]? = some first) :
    ∃ second, seconds[index]? = some second ∧ related first second := by
  induction paired generalizing index with
  | nil => cases found
  | cons pair _ induction =>
    cases index with
    | zero =>
      cases found
      exact ⟨_, rfl, pair⟩
    | succ index => exact induction found

theorem forall₂_set (paired : List.Forall₂ related firsts seconds)
    {second : Second} (pair : related first second) (index : Nat) :
    List.Forall₂ related (firsts.set index first)
      (seconds.set index second) := by
  induction paired generalizing index with
  | nil => exact .nil
  | cons old rest induction =>
    cases index with
    | zero => exact .cons pair rest
    | succ index => exact .cons old (induction index)

theorem forall₂_replicate {second : Second} (pair : related first second)
    {items : List First} (copies : ∀ item ∈ items, item = first) :
    List.Forall₂ related items (List.replicate items.length second) := by
  induction items with
  | nil => exact .nil
  | cons item rest induction =>
    rw [List.forall_mem_cons] at copies
    rw [List.length_cons, List.replicate_succ, copies.1]
    exact .cons pair (induction copies.2)

theorem countP_le_sum_of_forall₂ (paired : List.Forall₂ related firsts seconds)
    {test : First → Bool} {weight : Second → Nat}
    (weighs : ∀ first second, related first second → test first = true →
      1 ≤ weight second) :
    firsts.countP test ≤ (seconds.map weight).sum := by
  induction paired with
  | nil => exact Nat.le_refl _
  | @cons first second _ _ pair _ induction =>
    rw [List.countP_cons, List.map_cons, List.sum_cons]
    split_ifs with passes
    · have one := weighs first second pair passes
      omega
    · omega

theorem sum_eq_zero_of_forall₂ (paired : List.Forall₂ related firsts seconds)
    {test : First → Prop} {weight : Second → Nat}
    (weightless : ∀ first second, related first second → test first →
      weight second = 0)
    (all : ∀ first ∈ firsts, test first) :
    (seconds.map weight).sum = 0 := by
  induction paired with
  | nil => rfl
  | @cons first second _ _ pair _ induction =>
    rw [List.forall_mem_cons] at all
    rw [List.map_cons, List.sum_cons, weightless first second pair all.1,
      induction all.2]

theorem sum_map_set {items : List First} {weight : First → Nat}
    {index : Nat} {old : First} (found : items[index]? = some old)
    (new : First) :
    ((items.set index new).map weight).sum + weight old = (items.map weight).sum + weight new := by
  induction items generalizing index with
  | nil => cases found
  | cons item rest induction =>
    cases index with
    | zero =>
      cases found
      simp only [List.set_cons_zero, List.map_cons, List.sum_cons]
      omega
    | succ index =>
      have later := @induction index found
      simp only [List.set_cons_succ, List.map_cons, List.sum_cons]
      omega

end TurningGood.Foundation
