import Mathlib.Data.List.Sort
import Mathlib.Data.Prod.Lex
import Mathlib.Data.String.Basic

/-!
# Positions in a sorted list

A position is a number with a text that breaks ties.  The second part of the
module is about any sorted list: a test that stays true once it is true holds
exactly from the first item that passes it, so that dropping the items before
that one selects by the test.
-/

namespace TurningGood.Foundation

variable {left right : Nat × String}

/-! ## Positions -/

/-- Pairs are compared by number and then by text. -/
def Precedes (left right : Nat × String) : Prop :=
  left.1 < right.1 ∨ (left.1 = right.1 ∧ left.2 ≤ right.2)

instance : DecidableRel Precedes := fun _ _ => inferInstanceAs (Decidable (_ ∨ _))

theorem precedes_iff_toLex (left right : Nat × String) :
    Precedes left right ↔ toLex left ≤ toLex right :=
  Prod.Lex.toLex_le_toLex.symm

instance : Std.Total Precedes := ⟨fun left right => by
    simp only [precedes_iff_toLex]
    exact le_total _ _⟩

instance : IsTrans (Nat × String) Precedes := ⟨fun left middle right => by
    simp only [precedes_iff_toLex]
    exact le_trans⟩

theorem Precedes.refl (position : Nat × String) :
    Precedes position position :=
  .inr ⟨rfl, le_rfl⟩

theorem Precedes.trans {middle : Nat × String} (first : Precedes left middle)
    (second : Precedes middle right) : Precedes left right := by
  rw [precedes_iff_toLex] at first second ⊢
  exact first.trans second

theorem Precedes.antisymm (forward : Precedes left right)
    (backward : Precedes right left) : left = right := by
  rw [precedes_iff_toLex] at forward backward
  exact toLex.injective (forward.antisymm backward)

theorem precedes_of_not (later : ¬ Precedes left right) :
    Precedes right left := by
  rw [precedes_iff_toLex] at later ⊢
  exact le_of_lt (not_le.mp later)

variable {α : Type*} {relation : α → α → Prop}

variable {items : List α}

theorem drop_findIdx_eq_filter (test : α → Bool)
    (sorted : items.Pairwise relation) (stays : ∀ earlier later, relation earlier later →
        test earlier = true → test later = true) :
    items.drop (items.findIdx test) = items.filter test := by
  induction items with
  | nil => rfl
  | cons item rest induction =>
    rw [List.pairwise_cons] at sorted
    rw [List.findIdx_cons]
    cases passes : test item with
    | true =>
      have all : ∀ other ∈ rest, test other = true :=
        fun other member => stays item other (sorted.1 other member) passes
      simp [passes, List.filter_eq_self.mpr all]
    | false =>
      simp only [cond_false, List.drop_succ_cons]
      rw [List.filter_cons_of_neg (by simp [passes]), induction sorted.2]

theorem mem_drop_max {first second : Nat} {item : α} :
    item ∈ items.drop (max first second) ↔
      item ∈ items.drop first ∧ item ∈ items.drop second := by
  constructor
  · intro member
    exact ⟨List.drop_subset_drop_left items (le_max_left _ _) member,
      List.drop_subset_drop_left items (le_max_right _ _) member⟩
  · rintro ⟨fromFirst, fromSecond⟩
    rcases max_choice first second with same | same
    · rw [same]
      exact fromFirst
    · rw [same]
      exact fromSecond

theorem drop_succ_of_findIdx? {test : α → Bool} {index : Nat}
    (found : items.findIdx? test = some index) :
    ∃ before item, items = before ++ item :: items.drop (index + 1) ∧
      test item = true := by
  induction items generalizing index with
  | nil => cases found
  | cons item rest induction =>
    rw [List.findIdx?_cons] at found
    split_ifs at found with passes
    · cases found
      exact ⟨[], item, rfl, passes⟩
    · rcases Option.map_eq_some_iff.mp found with ⟨earlier, inRest, rfl⟩
      rcases induction inRest with ⟨before, hit, split, passesHit⟩
      refine ⟨item :: before, hit, ?_, passesHit⟩
      rw [List.drop_succ_cons, List.cons_append, ← split]

end TurningGood.Foundation
