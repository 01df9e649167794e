import TurningGood.Foundation.Dict

/-!
# Views of a dictionary

A view shows the entries that pass a test.  A change of an entry that is
shown before and after is a change of the view; one of an entry that is not
shown leaves the view as it is.
-/

namespace TurningGood.Foundation.Dict

universe u v

variable {Key : Type u} {Value : Type v}

theorem filter_comm (dict : Dict Key Value) (first second : Key → Value → Bool) :
    (dict.filter first).filter second = (dict.filter second).filter first := by
  apply Dict.ext
  simp only [filter, List.filter_filter]
  congr 1
  funext entry
  exact Bool.and_comm _ _

variable {dict : Dict Key Value} {keep : Key → Value → Bool}

theorem filter_eq_self (all : ∀ entry ∈ dict.entries, keep entry.1 entry.2 = true) :
    dict.filter keep = dict := by
  apply Dict.ext
  exact List.filter_eq_self.mpr all

variable [DecidableEq Key]

variable {key : Key} {value : Value}

theorem get?_filter_eq_some : (dict.filter keep).get? key = some value ↔
      dict.get? key = some value ∧ keep key value = true := by
  rw [get?_filter, Option.filter_eq_some_iff]

theorem filter_insert_of_kept (before : ∀ old, dict.get? key = some old → keep key old = true)
    (after : keep key value = true) :
    (dict.insert key value).filter keep = (dict.filter keep).insert key value := by
  have onEntries : ∀ entries : List (Key × Value),
      (∀ entry ∈ entries, entry.1 = key → keep entry.1 entry.2 = true) →
      (insertEntries key value entries).filter (fun entry => keep entry.1 entry.2) =
        insertEntries key value (entries.filter fun entry => keep entry.1 entry.2) := by
    intro entries shown
    induction entries with
    | nil => simp [insertEntries, after]
    | cons entry rest induction =>
      rw [List.forall_mem_cons] at shown
      by_cases same : entry.1 = key
      · have here := shown.1 same
        subst same
        simp [insertEntries, after, here]
      · rw [insertEntries, if_neg same]
        cases kept : keep entry.1 entry.2 with
        | true => simp [kept, insertEntries, same, induction shown.2]
        | false => simp [kept, induction shown.2]
  apply Dict.ext
  apply onEntries
  rintro ⟨other, old⟩ member rfl
  exact before old ((dict.mem_entries_iff _ _).mp member)

theorem filter_insert_of_dropped (before : ∀ old, dict.get? key = some old → keep key old = false)
    (after : keep key value = false) :
    (dict.insert key value).filter keep = dict.filter keep := by
  have onEntries : ∀ entries : List (Key × Value),
      (∀ entry ∈ entries, entry.1 = key → keep entry.1 entry.2 = false) →
      (insertEntries key value entries).filter (fun entry => keep entry.1 entry.2) =
        entries.filter fun entry => keep entry.1 entry.2 := by
    intro entries hidden
    induction entries with
    | nil => simp [insertEntries, after]
    | cons entry rest induction =>
      rw [List.forall_mem_cons] at hidden
      by_cases same : entry.1 = key
      · have here := hidden.1 same
        subst same
        simp [insertEntries, after, here]
      · rw [insertEntries, if_neg same, List.filter_cons, List.filter_cons, induction hidden.2]
  apply Dict.ext
  apply onEntries
  rintro ⟨other, old⟩ member rfl
  exact before old ((dict.mem_entries_iff _ _).mp member)

end TurningGood.Foundation.Dict
