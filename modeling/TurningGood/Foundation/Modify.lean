import Mathlib.Data.List.Basic

/-!
# Changing one position of a list

What a change at one position leaves of a search and of a count, when the
change keeps what the test asks for.
-/

namespace TurningGood.Foundation

universe u

variable {Item : Type u}

variable {test : Item → Bool} {change : Item → Item} {index : Nat}

theorem findIdx?_modify (same : ∀ item, test (change item) = test item)
    (items : List Item) (index : Nat) :
    (items.modify index change).findIdx? test = items.findIdx? test := by
  induction items generalizing index with
  | nil => rw [List.modify_nil]
  | cons item rest induction =>
    cases index with
    | zero => simp only [List.modify_zero_cons, List.findIdx?_cons, same]
    | succ index =>
      simp only [List.modify_succ_cons, List.findIdx?_cons, induction]

variable {items : List Item}

theorem find?_modify (found : items.findIdx? test = some index)
    (keeps : ∀ item, test item = true → test (change item) = true) :
    (items.modify index change).find? test = (items.find? test).map change := by
  induction items generalizing index with
  | nil => cases found
  | cons first rest induction =>
    rw [List.findIdx?_cons] at found
    cases passes : test first with
    | true =>
      rw [passes, if_pos rfl] at found
      cases found
      rw [List.modify_zero_cons, List.find?_cons_of_pos passes,
        List.find?_cons_of_pos (keeps first passes)]
      rfl
    | false =>
      rw [passes, if_neg Bool.false_ne_true] at found
      rcases Option.map_eq_some_iff.mp found with ⟨later, behind, rfl⟩
      rw [List.modify_succ_cons, List.find?_cons, List.find?_cons, passes]
      exact induction behind

theorem find?_modify_other {other : Item → Bool} (found : items.findIdx? test = some index)
    (misses : ∀ item, test item = true → other item = false ∧ other (change item) = false) :
    (items.modify index change).find? other = items.find? other := by
  induction items generalizing index with
  | nil => cases found
  | cons first rest induction =>
    rw [List.findIdx?_cons] at found
    cases passes : test first with
    | true =>
      rw [passes, if_pos rfl] at found
      cases found
      rw [List.modify_zero_cons, List.find?_cons, List.find?_cons,
        (misses first passes).1, (misses first passes).2]
    | false =>
      rw [passes, if_neg Bool.false_ne_true] at found
      rcases Option.map_eq_some_iff.mp found with ⟨later, behind, rfl⟩
      rw [List.modify_succ_cons, List.find?_cons, List.find?_cons, induction behind]

theorem map_modify_of_keeps {Field : Type*} {field : Item → Field}
    (keeps : ∀ item, field (change item) = field item) (items : List Item)
    (index : Nat) :
    (items.modify index change).map field = items.map field := by
  induction items generalizing index with
  | nil => rw [List.modify_nil]
  | cons item rest induction =>
    cases index with
    | zero => rw [List.modify_zero_cons, List.map_cons, List.map_cons, keeps]
    | succ index =>
      rw [List.modify_succ_cons, List.map_cons, List.map_cons, induction]

theorem countP_modify_add
    {test : Item → Bool} (change : Item → Item)
    {items : List Item} {index : Nat} {item : Item}
    (found : items[index]? = some item) :
    (items.modify index change).countP test +
        (if test item then 1 else 0) =
      items.countP test + (if test (change item) then 1 else 0) := by
  induction items generalizing index with
  | nil => cases found
  | cons first rest later =>
    cases index with
    | zero =>
      cases found
      simp only [List.modify_zero_cons, List.countP_cons]
      omega
    | succ index =>
      have later := @later index found
      simp only [List.modify_succ_cons, List.countP_cons]
      omega

theorem getElem?_of_findIdx? (found : items.findIdx? test = some index) :
    ∃ item, items[index]? = some item ∧ test item = true := by
  rw [List.findIdx?_eq_some_iff_getElem] at found
  rcases found with ⟨inside, passes, -⟩
  exact ⟨items[index], List.getElem?_eq_getElem inside, passes⟩

end TurningGood.Foundation
