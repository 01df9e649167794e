import Mathlib.Data.List.Basic

/-!
# Justified histories

A history grows at its end.  It is justified when every event of it is
justified by the events before, so that only what an event adds to a history
has to be looked at.
-/

namespace TurningGood.Foundation

variable {Event : Type*} {justifies : List Event → Event → Prop}

/-- Every event of the history is justified by the events before it. -/
def Justified (justifies : List Event → Event → Prop) (history : List Event) : Prop :=
  ∀ before event after, history = before ++ event :: after → justifies before event

namespace Justified

theorem nil : Justified justifies [] := by
  intro before event after split
  cases before with
  | nil => cases split
  | cons first rest => cases split

theorem concat {history : List Event} {event : Event} (justified : Justified justifies history)
    (last : justifies history event) :
    Justified justifies (history ++ [event]) := by
  intro before middle after split
  rcases List.eq_nil_or_concat after with rfl | ⟨front, final, rfl⟩
  · rcases List.append_inj' split rfl with ⟨rfl, same⟩
    cases same
    exact last
  · rw [List.concat_eq_append, ← List.cons_append, ← List.append_assoc] at split
    exact justified before middle front (List.append_inj' split rfl).1

end Justified

end TurningGood.Foundation
