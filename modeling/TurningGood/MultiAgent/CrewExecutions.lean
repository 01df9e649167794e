import TurningGood.MultiAgent.ParentCancellation
import TurningGood.Foundation.PairedLists

/-!
# What a step does to the executions of a run

A step of a delegation lets at most one execution of its crew go on.  The
others keep their points; the worker of one may end, all may be told to stop,
and the strategy may add executions that have not begun.
-/

namespace TurningGood.MultiAgent

open TurningGood.Foundation

/-- An execution that does not go on. -/
structure Execution.Unmoved (before after : Execution) : Prop where
  point : after.point = before.point
  task : after.task = before.task ∨ (before.task.isSome = true ∧ ∀ task ∈ after.task, task.Settled)

namespace Execution

theorem Unmoved.refl (execution : Execution) :
    Unmoved execution execution := ⟨rfl, .inl rfl⟩

theorem cancel_unmoved (execution : Execution) :
    Unmoved execution execution.cancel := by
  rw [cancel]
  split_ifs
  · exact .refl execution
  · exact ⟨rfl, .inl rfl⟩

theorem Unmoved.taskSettled {before after : Execution}
    (unmoved : Unmoved before after) (sound : before.TaskSettled) :
    after.TaskSettled := by
  constructor
  · intro unstarted
    rw [unmoved.point] at unstarted
    have nothing := sound.unstarted unstarted
    rcases unmoved.task with same | ⟨some_, -⟩
    · rw [same, nothing]
    · rw [nothing] at some_
      cases some_
  · rw [unmoved.point]
    rcases unmoved.task with same | ⟨-, settled⟩
    · rw [same]
      exact sound.settled
    · exact fun _ _ => settled

theorem resume_before
    {policy : ResultPolicy} {nodeId role : String}
    {execution target : Execution} {eventError : Option String}
    {resumption : Resumption}
    (stepped : execution.resume policy nodeId role eventError resumption = some target)
    (before : target.point.beforeStart = true) :
    execution.task = target.task ∧ ((execution.point = .created ∧ target.point = .acquiringRun) ∨
        (execution.point = .acquiringRun ∧ target.point = .acquiringGlobal) ∨
        (execution.point = .acquiringGlobal ∧
          target.point = .reportingStart)) := by
  cases interrupted : execution.interrupted with
  | true =>
    cases resumption with
    | interrupted written =>
      rw [resume] at stepped
      · cases resumed : execution.point <;> rw [interrupt, resumed] at stepped <;> cases stepped <;>
          cases before
      · exact interrupted
    | _ =>
      simp only [resume, interrupted] at stepped
      cases stepped
  | false =>
    simp only [resume, interrupted] at stepped
    split at stepped
    · next here =>
        split at stepped
        · cases stepped
          cases before
        · cases stepped
          exact ⟨rfl, .inl ⟨here, rfl⟩⟩
    · next here =>
        cases stepped
        exact ⟨rfl, .inr (.inl ⟨here, rfl⟩)⟩
    · next here =>
        cases stepped
        exact ⟨rfl, .inr (.inr ⟨here, rfl⟩)⟩
    · cases stepped
      cases before
    · cases stepped
      cases before
    · split at stepped
      · cases stepped
      · split at stepped
        · cases stepped
          cases before
        · split at stepped
          · cases stepped
            cases before
          · cases stepped
            cases before
    · cases stepped
      cases before
    · cases stepped
      cases before
    · rcases Option.map_eq_some_iff.mp stepped with ⟨ended, ceased, rfl⟩
      cases before
    · cases stepped
      cases before
    · split at stepped
      · cases stepped
      · cases stepped
        cases before
    · cases stepped

end Execution

namespace Crew

variable {policy : ResultPolicy}

/-- Executions that have not begun are added. -/
def Grows (before after : List Execution) : Prop :=
  ∃ added, after = before ++ added ∧ ∀ execution ∈ added, execution = {}

theorem Grows.refl (executions : List Execution) :
    Grows executions executions :=
  ⟨[], (List.append_nil _).symm, fun _ member => nomatch member⟩

theorem advance_grows (crew : Crew) (nodes : List MultiAgentNode) (blocked : Bool) :
    Grows crew.executions (crew.advance nodes blocked).executions := by
  rw [advance]
  split
  · exact .refl _
  · split_ifs
    · exact .refl _
    · exact ⟨[{}], rfl, fun execution member =>
        List.mem_singleton.mp member⟩

theorem advanceFrom_grows (crew : Crew) (nodes : List MultiAgentNode) (node : MultiAgentNode) :
    Grows crew.executions (crew.advanceFrom policy nodes node).executions := by
  rw [advanceFrom]
  split
  · exact advance_grows ..
  · split
    · exact advance_grows ..
    · split
      · exact advance_grows ..
      · exact .refl _

theorem settle_grows (crew : Crew) (execution : Execution) :
    Grows crew.executions (crew.settle policy execution).executions := by
  rw [settle]
  split
  · exact advanceFrom_grows ..
  · exact .refl _
  · exact .refl _

theorem start_grows (run : MultiAgentRun) :
    Grows [] (Crew.start run).executions := by
  rw [start]
  split
  · refine ⟨_, (List.nil_append _).symm, ?_⟩
    intro execution member
    rcases List.mem_map.mp member with ⟨role, -, rfl⟩
    rfl
  · exact advance_grows ..

theorem reported_grows {crew after : Crew} {outcome : SinkOutcome}
    (stepped : crew.reported outcome = some after) :
    Grows crew.executions after.executions := by
  rw [reported] at stepped
  split at stepped
  · split_ifs at stepped
    · cases stepped
      exact .refl _
    · cases stepped
      exact advance_grows ..
  · cases stepped

end Crew

/-! ## The executions of a delegation -/

/-- The calls of `_run_worker`. -/
def Delegation.executions (delegation : Delegation) : List Execution :=
  delegation.crew.elim [] Crew.executions

/-- No execution goes on, and some that have not begun are added. -/
def KeepsPoints (before after : List Execution) : Prop :=
  ∃ kept, List.Forall₂ Execution.Unmoved before kept ∧ Crew.Grows kept after

theorem forall₂_unmoved_refl (executions : List Execution) :
    List.Forall₂ Execution.Unmoved executions executions :=
  List.forall₂_same.mpr fun execution _ => .refl execution

theorem KeepsPoints.of_grows {before after : List Execution}
    (grows : Crew.Grows before after) : KeepsPoints before after :=
  ⟨before, forall₂_unmoved_refl before, grows⟩

theorem Crew.interruptAll_keepsPoints (crew : Crew) :
    KeepsPoints crew.executions crew.interruptAll.executions := by
  refine ⟨_, ?_, .refl _⟩
  show List.Forall₂ Execution.Unmoved crew.executions (crew.executions.map Execution.cancel)
  rw [List.forall₂_map_right_iff, List.forall₂_same]
  exact fun execution _ => execution.cancel_unmoved

theorem Crew.cancelParent_keepsPoints {crew after : Crew}
    (stepped : crew.cancelParent = some after) :
    KeepsPoints crew.executions after.executions := by
  rw [cancelParent] at stepped
  split at stepped
  · cases stepped
    exact crew.interruptAll_keepsPoints
  · split_ifs at stepped
    cases stepped
    exact crew.interruptAll_keepsPoints
  · cases stepped
    exact .of_grows (.refl _)
  · cases stepped
  · cases stepped

/-- The execution at a position goes on. -/
structure GoesOn (policy : ResultPolicy) (index : Nat)
    (before after : List Execution) (execution target : Execution) :
    Prop where
  present : before[index]? = some execution
  stepped : ∃ nodeId role eventError resumption,
    execution.resume policy nodeId role eventError resumption = some target
  grows : Crew.Grows (before.set index target) after

theorem GoesOn.reached {policy : ResultPolicy} {index : Nat}
    {before after : List Execution} {execution target : Execution}
    (goesOn : GoesOn policy index before after execution target) :
    after[index]? = some target := by
  rcases goesOn.grows with ⟨added, rfl, -⟩
  obtain ⟨within, -⟩ := List.getElem?_eq_some_iff.mp goesOn.present
  rw [List.getElem?_append_left (by rw [List.length_set]; exact within),
    List.getElem?_set_self within]

namespace Delegation

variable {policy : ResultPolicy} {filter : EventFilter}
variable {runId parentRequestId : String} {delegation target : Delegation}

/-- The label lets an execution go on. -/
def resumedIndex : DelegationLabel → Option Nat
  | .crew (.resume index _) => some index
  | _ => none

theorem step_goesOn {index : Nat} {label : DelegationLabel}
    (resumes : resumedIndex label = some index)
    (stepped : delegation.step policy filter runId parentRequestId label = some target) :
    ∃ execution after, GoesOn policy index delegation.executions target.executions execution
        after := by
  cases label with
  | turn label => cases resumes
  | crew label =>
    cases label with
    | resume position resumption =>
      cases resumes
      rcases Option.bind_eq_some_iff.mp stepped with ⟨crew, launched, stepped⟩
      rcases Option.bind_eq_some_iff.mp stepped with ⟨turn, -, stepped⟩
      rcases Option.bind_eq_some_iff.mp stepped with ⟨resumed, crewStepped, same⟩
      cases same
      rcases Option.bind_eq_some_iff.mp crewStepped with ⟨execution, present, crewStepped⟩
      rcases Option.bind_eq_some_iff.mp crewStepped with ⟨role, -, crewStepped⟩
      rcases Option.bind_eq_some_iff.mp crewStepped with ⟨after, went, same⟩
      cases same
      refine ⟨execution, after, ?_, ⟨_, _, _, _, went⟩, ?_⟩
      · rw [executions, launched]
        exact present
      · rw [executions, launched]
        exact Crew.settle_grows _ _
    | _ => cases resumes

theorem step_keepsPoints {label : DelegationLabel} (elsewhere : resumedIndex label = none)
    (stepped : delegation.step policy filter runId parentRequestId label = some target) :
    KeepsPoints delegation.executions target.executions := by
  cases label with
  | turn label =>
    rw [step, turnStep] at stepped
    split_ifs at stepped
    rcases Option.map_eq_some_iff.mp stepped with ⟨turn, -, rfl⟩
    apply KeepsPoints.of_grows
    rw [executions, executions]
    cases delegation.crew with
    | some crew => exact .refl _
    | none =>
      dsimp only [launch]
      split
      · exact Crew.start_grows _
      · exact .refl _
  | crew label =>
    rcases Option.bind_eq_some_iff.mp stepped with ⟨crew, launched, stepped⟩
    have before : delegation.executions = crew.executions := by
      rw [executions, launched]
      rfl
    rw [before]
    cases label with
    | resume index resumption => cases elsewhere
    | reported outcome =>
      rcases Option.bind_eq_some_iff.mp stepped with ⟨current, -, stepped⟩
      rcases Option.bind_eq_some_iff.mp stepped with ⟨turn, -, stepped⟩
      rcases Option.bind_eq_some_iff.mp stepped with ⟨after, went, same⟩
      cases same
      exact .of_grows (Crew.reported_grows went)
    | taskEnds index ended =>
      rcases Option.map_eq_some_iff.mp stepped with ⟨after, went, rfl⟩
      rcases Crew.taskEnds_cases went with ⟨execution, ceased, present, ends, rfl⟩
      rcases Execution.taskEnds_spec ends with ⟨point, -, some_, settled⟩
      refine ⟨_, ?_, .refl _⟩
      have paired := forall₂_set
        (forall₂_unmoved_refl crew.executions)
        (⟨point, .inr ⟨some_, settled⟩⟩ : Execution.Unmoved execution ceased) index
      obtain ⟨within, same⟩ := List.getElem?_eq_some_iff.mp present
      rwa [← same, List.set_getElem_self] at paired
    | cancelParent =>
      rcases Option.map_eq_some_iff.mp stepped with ⟨after, went, rfl⟩
      exact Crew.cancelParent_keepsPoints went
    | strategyEnds stopRequested deadlineExpired budgetError =>
      replace stepped : delegation.strategyEnds filter runId
        parentRequestId crew stopRequested deadlineExpired budgetError =
          some target := stepped
      rw [strategyEnds] at stepped
      split at stepped
      · cases stepped
      · rcases Option.map_eq_some_iff.mp stepped with ⟨turn, -, rfl⟩
        exact .of_grows (.refl _)
      · rcases Option.map_eq_some_iff.mp stepped with ⟨turn, -, rfl⟩
        exact .of_grows (.refl _)

end Delegation

end TurningGood.MultiAgent
