import Mathlib.Data.List.Basic

/-!
# Traces that end once

A trace starts with an opening event.  One closing event ends it, and what is
barred after the end does not follow it; other events may.  A trace is open
before its closing event and closed with it.
-/

namespace TurningGood.Foundation

variable {α : Type*}

/-- Which events open a trace, close it, and may not follow the end. -/
structure TraceRules (α : Type*) where
  opens : α → Bool
  closes : α → Bool
  barred : α → Bool

namespace TraceRules

variable (rules : TraceRules α)

variable {event : α} {events : List α}

/-- The trace has begun and has not been closed. -/
structure Open (events : List α) : Prop where
  opened : ∃ first ∈ events.head?, rules.opens first = true
  unclosed : ∀ event ∈ events, rules.closes event = false

/-- One closing event stands behind an open trace. -/
def Closed (events : List α) : Prop := ∃ before last after,
    events = before ++ last :: after ∧ rules.Open before ∧ rules.closes last = true ∧
      ∀ event ∈ after, rules.closes event = false ∧ rules.barred event = false

/-- The order that open and closed traces keep. -/
structure Ordered (events : List α) : Prop where
  opened : ∀ first ∈ events.head?, rules.opens first = true
  closedOnce : events.countP rules.closes ≤ 1
  quietAfterEnd : events.Pairwise fun earlier later =>
      rules.closes earlier = true → rules.barred later = false

variable {rules}

/-! ## Growth -/

theorem Open.singleton (opens : rules.opens event = true)
    (unclosed : rules.closes event = false) : rules.Open [event] where
  opened := ⟨event, rfl, opens⟩
  unclosed := by
    intro other member
    rw [List.mem_singleton.mp member]
    exact unclosed

theorem Open.ne_nil (isOpen : rules.Open events) : events ≠ [] := by
  rintro rfl
  rcases isOpen.opened with ⟨_, absent, _⟩
  cases absent

theorem head?_append_of_ne_nil (nonempty : events ≠ []) (more : List α) :
    (events ++ more).head? = events.head? := by
  cases events with
  | nil => exact absurd rfl nonempty
  | cons first rest => rfl

theorem Open.append (isOpen : rules.Open events) (unclosed : rules.closes event = false) :
    rules.Open (events ++ [event]) where
  opened := by
    rw [head?_append_of_ne_nil isOpen.ne_nil]
    exact isOpen.opened
  unclosed := by
    intro other member
    rcases List.mem_append.mp member with old | new
    · exact isOpen.unclosed other old
    · rw [List.mem_singleton.mp new]
      exact unclosed

theorem Open.close (isOpen : rules.Open events)
    (closes : rules.closes event = true) : rules.Closed (events ++ [event]) :=
  ⟨events, event, [], rfl, isOpen, closes, nofun⟩

theorem Closed.append (closed : rules.Closed events) (unclosed : rules.closes event = false)
    (allowed : rules.barred event = false) :
    rules.Closed (events ++ [event]) := by
  rcases closed with ⟨before, last, after, rfl, isOpen, closes, quiet⟩
  refine ⟨before, last, after ++ [event], ?_, isOpen, closes, ?_⟩
  · rw [List.append_assoc, List.cons_append]
  · intro other member
    rcases List.mem_append.mp member with old | new
    · exact quiet other old
    · rw [List.mem_singleton.mp new]
      exact ⟨unclosed, allowed⟩

theorem Open.remove {front back : List α} (isOpen : rules.Open (front ++ event :: back))
    (unopened : rules.opens event = false) :
    rules.Open (front ++ back) where
  opened := by
    cases front with
    | nil =>
      rcases isOpen.opened with ⟨first, same, opens⟩
      cases same
      rw [unopened] at opens
      cases opens
    | cons first rest => exact isOpen.opened
  unclosed := by
    intro other member
    apply isOpen.unclosed
    rcases List.mem_append.mp member with before | behind
    · exact List.mem_append_left _ before
    · exact List.mem_append_right _ (List.mem_cons_of_mem _ behind)

theorem Closed.remove {front back : List α} (closed : rules.Closed (front ++ event :: back))
    (unopened : rules.opens event = false)
    (unclosed : rules.closes event = false) : rules.Closed (front ++ back) := by
  rcases closed with ⟨before, last, after, split, isOpen, closes, quiet⟩
  rcases List.append_eq_append_iff.mp split with ⟨middle, rfl, tail⟩ | ⟨middle, rfl, tail⟩
  · cases middle with
    | nil =>
      rcases List.cons.inj tail with ⟨rfl, rfl⟩
      rw [unclosed] at closes
      cases closes
    | cons _ middle =>
      rcases List.cons.inj tail with ⟨rfl, rfl⟩
      refine ⟨front ++ middle, last, after, ?_, ?_, closes, quiet⟩
      · rw [List.append_assoc]
        rfl
      · exact isOpen.remove unopened
  · cases middle with
    | nil =>
      rcases List.cons.inj tail with ⟨rfl, rfl⟩
      rw [unclosed] at closes
      cases closes
    | cons _ middle =>
      rcases List.cons.inj tail with ⟨rfl, rfl⟩
      refine ⟨before, last, middle ++ back, ?_, isOpen, closes, ?_⟩
      · rw [List.append_assoc, List.cons_append]
      · intro other member
        apply quiet
        rcases List.mem_append.mp member with inner | behind
        · exact List.mem_append_left _ inner
        · exact List.mem_append_right _ (List.mem_cons_of_mem _ behind)

theorem Ordered.nil : rules.Ordered ([] : List α) where
  opened := nofun
  closedOnce := Nat.zero_le 1
  quietAfterEnd := List.Pairwise.nil

theorem Open.countP_eq_zero (isOpen : rules.Open events) :
    events.countP rules.closes = 0 := by
  rw [List.countP_eq_zero]
  intro event member closes
  rw [isOpen.unclosed event member] at closes
  cases closes

theorem Open.ordered (isOpen : rules.Open events) : rules.Ordered events where
  opened := by
    intro first present
    rcases isOpen.opened with ⟨other, found, opens⟩
    rw [Option.mem_unique present found]
    exact opens
  closedOnce := isOpen.countP_eq_zero ▸ Nat.zero_le 1
  quietAfterEnd := by
    rw [List.pairwise_iff_forall_sublist]
    intro earlier later included closes
    have member : earlier ∈ events :=
      included.subset List.mem_cons_self
    rw [isOpen.unclosed earlier member] at closes
    cases closes

theorem Closed.countP_eq_one (closed : rules.Closed events) :
    events.countP rules.closes = 1 := by
  rcases closed with ⟨before, last, after, rfl, isOpen, closes, quiet⟩
  have behind : after.countP rules.closes = 0 := by
    rw [List.countP_eq_zero]
    intro event member again
    rw [(quiet event member).1] at again
    cases again
  rw [List.countP_append, List.countP_cons_of_pos closes, isOpen.countP_eq_zero, behind]

theorem Closed.ordered (closed : rules.Closed events) : rules.Ordered events where
  opened := by
    rcases closed with ⟨before, last, after, rfl, isOpen, _, _⟩
    rw [head?_append_of_ne_nil isOpen.ne_nil]
    exact isOpen.ordered.opened
  closedOnce := Nat.le_of_eq closed.countP_eq_one
  quietAfterEnd := by
    rcases closed with ⟨before, last, after, rfl, isOpen, closes, quiet⟩
    rw [List.pairwise_append, List.pairwise_cons]
    refine ⟨isOpen.ordered.quietAfterEnd, ⟨?_, ?_⟩, ?_⟩
    · exact fun event member _ => (quiet event member).2
    · rw [List.pairwise_iff_forall_sublist]
      intro earlier later included again
      have member : earlier ∈ after :=
        included.subset List.mem_cons_self
      rw [(quiet earlier member).1] at again
      cases again
    · intro earlier member _ _ again
      rw [isOpen.unclosed earlier member] at again
      cases again

theorem Ordered.ofBeginning {beginning : List α}
    (ordered : rules.Ordered events) (included : beginning <+: events) :
    rules.Ordered beginning where
  opened := by
    rcases included with ⟨rest, rfl⟩
    intro first present
    apply ordered.opened
    cases beginning with
    | nil => cases present
    | cons head tail => exact present
  closedOnce := Nat.le_trans included.sublist.countP_le ordered.closedOnce
  quietAfterEnd := ordered.quietAfterEnd.sublist included.sublist

end TraceRules
end TurningGood.Foundation
