import TurningGood.Foundation.Dict
import Mathlib.Algebra.Order.BigOperators.Group.List
import Mathlib.Algebra.Order.Ring.Nat
import Mathlib.Data.List.Sort

/-!
# Collecting items under keys

Items that arrive mixed are collected in a dictionary: each one is combined
with what its key has collected so far.  The items of one key are collected
as if they had arrived alone, an item that changes nothing does not matter,
an item that goes elsewhere is missing, and a dictionary whose keys are the
first numbers lists them in order.
-/

namespace TurningGood.Foundation

universe u v w

namespace Dict

variable {Key : Type u} {Value : Type v} {Item : Type w} [DecidableEq Key]
variable (key : Item → Key) (initial : Value)
variable (combine : Value → Item → Value)

/-- Combine an item with what its key has collected, in place. -/
def collect (dict : Dict Key Value) (item : Item) : Dict Key Value :=
  dict.insert (key item) (combine ((dict.get? (key item)).getD initial) item)

/-- Collect a list of items. -/
def collectAll (dict : Dict Key Value) (items : List Item) :
    Dict Key Value :=
  items.foldl (collect key initial combine) dict

@[simp]
theorem collectAll_nil (dict : Dict Key Value) :
    collectAll key initial combine dict [] = dict := rfl

@[simp]
theorem collectAll_cons (dict : Dict Key Value) (item : Item) (items : List Item) :
    collectAll key initial combine dict (item :: items) = collectAll key initial combine
        (collect key initial combine dict item) items := rfl

theorem collectAll_append (dict : Dict Key Value) (front back : List Item) :
    collectAll key initial combine dict (front ++ back) = collectAll key initial combine
        (collectAll key initial combine dict front) back :=
  List.foldl_append

theorem getD_collectAll (dict : Dict Key Value) (items : List Item) (query : Key) :
    ((collectAll key initial combine dict items).get? query).getD initial =
      (items.filter fun item => key item = query).foldl combine
        ((dict.get? query).getD initial) := by
  induction items generalizing dict with
  | nil => rfl
  | cons item rest induction =>
    rw [collectAll_cons, induction, collect, get?_insert]
    by_cases same : key item = query
    · subst same
      simp
    · simp [same, Ne.symm same]

theorem mem_keys_collectAll (dict : Dict Key Value) (items : List Item) (query : Key) :
    query ∈ (collectAll key initial combine dict items).keys ↔
      query ∈ dict.keys ∨ ∃ item ∈ items, key item = query := by
  induction items generalizing dict with
  | nil => simp
  | cons item rest induction =>
    have inserted : query ∈ (collect key initial combine dict item).keys ↔
        query ∈ dict.keys ∨ key item = query := by
      rw [mem_keys_iff, mem_keys_iff, collect]
      by_cases same : query = key item
      · simp [same]
      · simp [get?_insert_of_ne _ _ same, Ne.symm same]
    rw [collectAll_cons, induction, inserted, or_assoc]
    simp only [List.mem_cons, exists_eq_or_imp]

end Dict

theorem foldl_filter_of_neutral
    {Value : Type v} {Item : Type w}
    (combine : Value → Item → Value) (matters : Item → Bool)
    (neutral : ∀ item, matters item = false → ∀ value, combine value item = value)
    (items : List Item) (value : Value) :
    (items.filter matters).foldl combine value =
      items.foldl combine value := by
  induction items generalizing value with
  | nil => rfl
  | cons item rest induction =>
    cases important : matters item with
    | true => simp [important, induction]
    | false => simp [important, induction, neutral item important]

theorem insertionSort_eq_range
    {numbers : List Nat} (nodup : numbers.Nodup) {count : Nat}
    (members : ∀ number, number ∈ numbers ↔ number < count) :
    numbers.insertionSort (· ≤ ·) = List.range count := by
  have perm : (numbers.insertionSort (· ≤ ·)).Perm (List.range count) := by
    refine (List.perm_insertionSort _ numbers).trans ?_
    rw [List.perm_ext_iff_of_nodup nodup List.nodup_range]
    simpa using members
  exact perm.eq_of_pairwise' (List.pairwise_insertionSort _ numbers) List.pairwise_le_range

end TurningGood.Foundation
