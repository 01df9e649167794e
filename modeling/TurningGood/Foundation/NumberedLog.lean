import Mathlib.Data.List.Basic

/-!
# Numbered logs

The items of a log carry their places, counted from one.  Selecting the items
with a number above a cursor is then the same as dropping as many items as the
cursor says, also from a window that still holds the items behind the cursor.
-/

namespace TurningGood.Foundation

variable {α : Type*} {number : α → Nat}

/-- The items of a log carry their places. -/
def Numbered (number : α → Nat) (log : List α) : Prop :=
  ∀ index item, log[index]? = some item → number item = index + 1

variable {log : List α} {item : α}

theorem Numbered.append (numbered : Numbered number log) (next : number item = log.length + 1) :
    Numbered number (log ++ [item]) := by
  intro index other found
  rcases Nat.lt_trichotomy index log.length with less | rfl | more
  · rw [List.getElem?_append_left less] at found
    exact numbered index other found
  · rw [List.getElem?_concat_length, Option.some.injEq] at found
    rw [← found, next]
  · have outside : (log ++ [item])[index]? = none := by
      rw [List.getElem?_eq_none_iff, List.length_append, List.length_singleton]
      omega
    rw [outside] at found
    cases found

theorem Numbered.le_of_mem_take (numbered : Numbered number log) {count : Nat}
    (member : item ∈ log.take count) : number item ≤ count := by
  rcases List.getElem?_of_mem member with ⟨index, found⟩
  rw [List.getElem?_take] at found
  split_ifs at found with inside
  rw [numbered index item found]
  omega

theorem Numbered.lt_of_mem_drop (numbered : Numbered number log) {count : Nat}
    (member : item ∈ log.drop count) : count < number item := by
  rcases List.getElem?_of_mem member with ⟨index, found⟩
  rw [List.getElem?_drop] at found
  rw [numbered _ item found]
  omega

theorem Numbered.filter_window (numbered : Numbered number log)
    {start cursor : Nat} (held : start ≤ cursor) :
    (log.drop start).filter (fun item => cursor < number item) =
      log.drop cursor := by
  have split : log.drop start =
      (log.drop start).take (cursor - start) ++ log.drop cursor := by
    conv_lhs => rw [← List.take_append_drop (cursor - start) (log.drop start)]
    rw [List.drop_drop, Nat.add_sub_cancel' held]
  rw [split, List.filter_append, List.filter_eq_nil_iff.mpr,
    List.nil_append, List.filter_eq_self.mpr]
  · intro item member
    rw [decide_eq_true_iff]
    exact numbered.lt_of_mem_drop member
  · intro item member
    rw [decide_eq_true_iff, Nat.not_lt]
    refine numbered.le_of_mem_take ?_
    rw [List.take_drop, Nat.add_sub_cancel' held] at member
    exact List.mem_of_mem_drop member

end TurningGood.Foundation
