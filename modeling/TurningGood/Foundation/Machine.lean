import Mathlib.Tactic.SplitIfs

/-!
# Labelled machines and their guarded runs

A machine has initial states and a partial step function; a label carries
every choice that the environment makes (which task is resumed, how an
awaited call ends, what the clock says).  A run is guarded when every step
of it meets a condition on the state before the step and on the label.

The two rules of this module carry all run results of the development.  An
invariant of guarded runs is preserved step by step, and a concrete list of
labels that evaluates to a state exhibits that state as reached.
-/

namespace TurningGood.Foundation

universe u v

/-- A state machine whose steps are partial functions of a label. -/
structure Machine (State : Type u) (Label : Type v) where
  initial : State → Prop
  step : State → Label → Option State

namespace Machine

variable {State : Type u} {Label : Type v}

/-- The states at the end of the runs all of whose steps meet `guard`. -/
inductive Reaches
    (machine : Machine State Label)
    (guard : State → Label → Prop) : State → Prop where
  | start {state : State}
      (initial : machine.initial state) : Reaches machine guard state
  | next {state target : State} {label : Label}
      (earlier : Reaches machine guard state)
      (allowed : guard state label)
      (stepped : machine.step state label = some target) :
      Reaches machine guard target

/-- The states at the end of unrestricted runs. -/
def Reachable (machine : Machine State Label) (state : State) : Prop :=
  machine.Reaches (fun _ _ => True) state

theorem Reaches.invariant
    {machine : Machine State Label}
    {guard : State → Label → Prop}
    {holds : State → Prop}
    (initially : ∀ state, machine.initial state → holds state)
    (preserved : ∀ state label target, machine.Reaches guard state → holds state →
        guard state label →
        machine.step state label = some target →
        holds target)
    {state : State}
    (reached : machine.Reaches guard state) :
    holds state := by
  induction reached with
  | start initial => exact initially _ initial
  | next earlier allowed stepped induction =>
    exact preserved _ _ _ earlier induction allowed stepped

theorem Reaches.mono
    {machine : Machine State Label}
    {guard weaker : State → Label → Prop}
    (weakens : ∀ state label, guard state label → weaker state label)
    {state : State}
    (reached : machine.Reaches guard state) :
    machine.Reaches weaker state := by
  induction reached with
  | start initial => exact .start initial
  | next _ allowed stepped induction =>
    exact .next induction (weakens _ _ allowed) stepped

theorem Reaches.reachable
    {machine : Machine State Label}
    {guard : State → Label → Prop}
    {state : State}
    (reached : machine.Reaches guard state) :
    machine.Reachable state :=
  reached.mono (fun _ _ _ => trivial)

/-- Evaluate a list of labels, one step after another. -/
def run (machine : Machine State Label) : State → List Label → Option State
  | state, [] => some state
  | state, label :: rest =>
    (machine.step state label).bind fun target =>
      machine.run target rest

theorem run_append (machine : Machine State Label) (state : State) (labels more : List Label) :
    machine.run state (labels ++ more) = (machine.run state labels).bind fun target =>
        machine.run target more := by
  induction labels generalizing state with
  | nil => rfl
  | cons label rest induction =>
    simp only [List.cons_append, run]
    cases machine.step state label with
    | none => rfl
    | some target => exact induction target

theorem length_le_rank
    {machine : Machine State Label} {rank : State → Nat}
    (lowers : ∀ state label target, machine.step state label = some target →
        rank target < rank state)
    {labels : List Label} {state target : State}
    (evaluated : machine.run state labels = some target) :
    labels.length ≤ rank state := by
  induction labels generalizing state with
  | nil => exact Nat.zero_le _
  | cons label rest induction =>
    rcases Option.bind_eq_some_iff.mp evaluated with ⟨middle, stepped, finished⟩
    exact Nat.succ_le_of_lt (Nat.lt_of_le_of_lt (induction finished) (lowers _ _ _ stepped))

/-- Evaluate a list of labels, refusing the steps that miss the guard. -/
def runGuarded (machine : Machine State Label) (guard : State → Label → Prop)
    [∀ state label, Decidable (guard state label)] :
    State → List Label → Option State
  | state, [] => some state
  | state, label :: rest =>
    if guard state label then
      (machine.step state label).bind fun target =>
        machine.runGuarded guard target rest
    else
      none

theorem Reachable.run
    {machine : Machine State Label}
    {labels : List Label} {state target : State}
    (reached : machine.Reachable state)
    (evaluated : machine.run state labels = some target) :
    machine.Reachable target := by
  induction labels generalizing state with
  | nil =>
    simp only [Machine.run, Option.some.injEq] at evaluated
    exact evaluated ▸ reached
  | cons label rest induction =>
    simp only [Machine.run, Option.bind_eq_some_iff] at evaluated
    rcases evaluated with ⟨middle, stepped, finished⟩
    exact induction (.next reached trivial stepped) finished

theorem Reaches.runGuarded
    {machine : Machine State Label}
    {guard : State → Label → Prop}
    [∀ state label, Decidable (guard state label)]
    {labels : List Label} {state target : State}
    (reached : machine.Reaches guard state)
    (evaluated : machine.runGuarded guard state labels = some target) :
    machine.Reaches guard target := by
  induction labels generalizing state with
  | nil =>
    simp only [Machine.runGuarded, Option.some.injEq] at evaluated
    exact evaluated ▸ reached
  | cons label rest induction =>
    simp only [Machine.runGuarded] at evaluated
    split_ifs at evaluated with allowed
    rcases Option.bind_eq_some_iff.mp evaluated with ⟨middle, stepped, finished⟩
    exact induction (.next reached allowed stepped) finished

end Machine

end TurningGood.Foundation
