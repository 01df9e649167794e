import Mathlib.Algebra.GroupWithZero.Nat
import TurningGood.MultiAgent.CrewExecutions

/-!
# The calls of the two strategies

A call of `_run_fanout` or `_run_sequential` that nobody cancels makes steps
of its workers and of its own, and nothing else reaches it but the failures of
events.  Beside the crew, a call of `_run_sequential` keeps the content for
the next worker, and hands it to the next execution that it awaits.

Every step lowers a rank, and a call that has not ended can make a step: so a
call returns, with one terminal node for each task.
-/

namespace TurningGood.MultiAgent

open TurningGood.Foundation

/-! ## Calls -/

/-- A call of `_run_fanout` or `_run_sequential`. -/
structure StrategyCall where
  crew : Crew
  /-- `dependency_content` of `_run_sequential` -/
  dependencyContent : Option String
  /-- the `dependency_content` that each `_run_worker` was called with -/
  arguments : List (Option String)
  deriving DecidableEq

/-- What happens in a call. -/
inductive StrategyLabel where
  /-- an execution goes on; the run may have failed to report an event -/
  | resume (eventError : Option String) (index : Nat)
      (resumption : Resumption)
  | reported (outcome : SinkOutcome)
  | taskEnds (index : Nat) (ended : WorkerEnd)

namespace StrategyCall

variable (policy : ResultPolicy) (call : StrategyCall)

/-- The call begins; the executions that it begins with depend on nothing. -/
def start (run : MultiAgentRun) : StrategyCall where
  crew := Crew.start run
  dependencyContent := none
  arguments := (Crew.start run).executions.map fun _ => none

/--
`dependency_content` when an execution has gone on: a worker that succeeded
leaves its content to a worker behind it.
-/
def nextDependency (target : Execution) : Option String :=
  match call.crew.parent, target.point with
  | .executing nodes, .returned node =>
    if node.status ≠ .completed ∨ node.content.isNone ∨
        call.crew.roles.length ≤ nodes.length + 1 then
      call.dependencyContent
    else
      policy.buildDependency node
  | _, _ => call.dependencyContent

/-- The crew goes on, and new executions get the content. -/
def follow (crew : Crew) (dependencyContent : Option String) : StrategyCall where
  crew := crew
  dependencyContent := dependencyContent
  arguments := call.arguments ++ (crew.executions.drop call.crew.executions.length).map
        fun _ => dependencyContent

/-- One step of a call. -/
def step : StrategyLabel → Option StrategyCall
  | .resume eventError index resumption => do
    let execution ← call.crew.executions[index]?
    let role ← call.crew.roles[index]?
    let target ←
      execution.resume policy (workerId index) role eventError resumption
    return call.follow ((call.crew.replace index execution target).settle policy target)
      (call.nextDependency policy target)
  | .reported outcome =>
    (call.crew.reported outcome).map fun crew =>
      call.follow crew call.dependencyContent
  | .taskEnds index ended =>
    (call.crew.taskEnds index ended).map fun crew =>
      call.follow crew call.dependencyContent

end StrategyCall

/-- The calls of the strategy of a run. -/
def strategyCalls (policy : ResultPolicy) (run : MultiAgentRun) :
    Machine StrategyCall StrategyLabel where
  initial call := call = .start run
  step call label := call.step policy label

/-! ## Every call ends -/

/-- The steps that an execution has left at a point, at most. -/
def Point.rank : Point → Nat
  | .created => 8
  | .acquiringRun => 7
  | .acquiringGlobal => 6
  | .reportingStart => 5
  | .working => 3
  | .dismissing _ => 2
  | .reportingEnd _ => 1
  | .returned _ | .raised => 0

/-- The steps that the worker of an execution has left. -/
def Execution.workerRank (execution : Execution) : Nat :=
  if (execution.task.bind WorkerTask.ended).isSome then 0 else 1

/-- The steps that an execution and its worker have left, at most. -/
def Execution.rank (execution : Execution) : Nat := execution.point.rank + execution.workerRank

/-- The steps that a call has left beside those of its executions. -/
def Crew.parentRank (crew : Crew) : Nat :=
  match crew.parent with
  | .gathering => 0
  | .executing nodes => 10 * (crew.roles.length - (nodes.length + 1)) + 1
  | .reporting nodes _ _ => 10 * (crew.roles.length - nodes.length) + 1
  | .collected _ | .raised => 0

/-- The steps that a crew has left, at most. -/
def Crew.rank (crew : Crew) : Nat := (crew.executions.map Execution.rank).sum + crew.parentRank

namespace Execution

variable {policy : ResultPolicy} {nodeId role : String}
  {execution target : Execution}

theorem workerRank_cancelTask (execution : Execution) :
    execution.cancelTask.workerRank = execution.workerRank := by
  unfold workerRank cancelTask
  cases execution.task with
  | none => rfl
  | some task =>
    simp only [Option.map_some, Option.bind_some]
    split_ifs <;> rfl

theorem rank_of_beforeStart (before : execution.point.beforeStart = true) :
    5 ≤ execution.point.rank := by
  cases here : execution.point with
  | created | acquiringRun | acquiringGlobal | reportingStart => decide
  | working | dismissing _ | reportingEnd _ | returned _ | raised =>
    rw [here] at before
    cases before

theorem rank_of_running (running : execution.ended = false) : 1 ≤ execution.point.rank := by
  cases here : execution.point with
  | created | acquiringRun | acquiringGlobal | reportingStart | working =>
    decide
  | dismissing _ => exact Nat.le_succ 1
  | reportingEnd _ => exact Nat.le_refl 1
  | returned _ | raised =>
    rw [Execution.ended, here] at running
    cases running

theorem goTo_rank {point : Point} (later : point.rank < execution.point.rank) :
    (execution.goTo point).rank < execution.rank :=
  Nat.add_lt_add_right later _

theorem resume_rank {eventError : Option String} {resumption : Resumption}
    (stepped : execution.resume policy nodeId role eventError resumption = some target) :
    target.rank < execution.rank := by
  cases before : target.point.beforeStart with
  | true =>
    rcases resume_before stepped before with ⟨same, moves⟩
    have sameWorker : target.workerRank = execution.workerRank := by
      unfold workerRank
      rw [same]
    apply Nat.add_lt_add_of_lt_of_le _ sameWorker.le
    rcases moves with ⟨here, there⟩ | ⟨here, there⟩ | ⟨here, there⟩
    · rw [here, there]
      decide
    · rw [here, there]
      decide
    · rw [here, there]
      decide
  | false =>
    have resumed := resume_resumed stepped
    have running := rank_of_running resumed.running
    cases resumed with
    | raises interrupted outside _ => exact goTo_rank running
    | dismisses failure error working =>
      show 2 + execution.cancelTask.workerRank < _
      rw [workerRank_cancelTask, Execution.rank, working]
      exact Nat.add_lt_add_right (by decide) _
    | dismissed result waiting =>
      apply goTo_rank
      rw [waiting]
      exact Nat.lt_succ_self 1
    | waits point uninterrupted early after =>
      rw [goTo_point, after] at before
      cases before
    | returnsEarly error uninterrupted early => exact goTo_rank running
    | refused refusal uninterrupted early =>
      apply goTo_rank
      have bound := rank_of_beforeStart early
      show 1 < execution.point.rank
      omega
    | starts uninterrupted reporting =>
      show 3 + 1 < execution.point.rank + execution.workerRank
      rw [reporting]
      exact Nat.lt_of_lt_of_le (by decide) (Nat.le_add_right 5 _)
    | tooLate uninterrupted reporting =>
      apply goTo_rank
      rw [reporting]
      show 1 < 5
      decide
    | finishes stopRequested ended uninterrupted working ceased =>
      apply goTo_rank
      rw [working]
      show 1 < 3
      decide
    | returns node uninterrupted reporting => exact goTo_rank running

theorem taskEnds_rank {ended : WorkerEnd} (ceased : execution.taskEnds ended = some target) :
    target.rank < execution.rank := by
  unfold taskEnds at ceased
  split at ceased
  · next cancelRequested running =>
      cases ceased
      apply Nat.add_lt_add_of_le_of_lt (Nat.le_refl _)
      unfold workerRank
      rw [running]
      exact Nat.zero_lt_one
  · cases ceased

end Execution

namespace Crew

variable {policy : ResultPolicy} {crew : Crew}

theorem advance_rank (nodes : List MultiAgentNode) (blocked : Bool) :
    (crew.advance nodes blocked).rank ≤ (crew.executions.map Execution.rank).sum +
        10 * (crew.roles.length - nodes.length) := by
  unfold advance
  cases found : crew.roles[nodes.length]? with
  | none => exact Nat.add_le_add_left (Nat.zero_le _) _
  | some role =>
    obtain ⟨within, -⟩ := List.getElem?_eq_some_iff.mp found
    cases blocked with
    | true =>
      apply Nat.add_le_add_left
      show 10 * (crew.roles.length - (nodes ++ [_]).length) + 1 ≤ _
      rw [List.length_append, List.length_singleton]
      omega
    | false =>
      show ((crew.executions ++ [({} : Execution)]).map Execution.rank).sum +
          (10 * (crew.roles.length - (nodes.length + 1)) + 1) ≤ _
      rw [List.map_append, List.sum_append]
      show _ + 9 + (10 * (crew.roles.length - (nodes.length + 1)) + 1) ≤ _
      omega

theorem advanceFrom_rank (nodes : List MultiAgentNode) (node : MultiAgentNode) :
    (crew.advanceFrom policy nodes node).rank ≤ (crew.executions.map Execution.rank).sum +
        10 * (crew.roles.length - (nodes.length + 1)) := by
  have onward := @advance_rank crew (nodes ++ [node])
  rw [List.length_append, List.length_singleton] at onward
  unfold advanceFrom
  dsimp only
  split_ifs with unsuccessful
  · exact onward true
  · split
    · exact onward false
    · next role found =>
        obtain ⟨within, -⟩ := List.getElem?_eq_some_iff.mp found
        split
        · exact onward false
        · apply Nat.add_le_add_left
          show 10 * (crew.roles.length - (nodes ++ [node] ++ [_]).length) + 1 ≤ _
          rw [List.length_append, List.length_append] at *
          simp only [List.length_singleton] at *
          omega

theorem settle_rank (execution : Execution) : (crew.settle policy execution).rank ≤ crew.rank := by
  unfold settle
  split
  · next nodes node executing returned =>
      apply (advanceFrom_rank nodes node).trans
      apply Nat.add_le_add_left
      rw [parentRank, executing]
      exact Nat.le_succ _
  · exact Nat.add_le_add_left (Nat.zero_le _) _
  · exact Nat.le_refl _

theorem sum_set_rank {executions : List Execution} {index : Nat}
    {execution target : Execution}
    (present : executions[index]? = some execution)
    (lower : target.rank < execution.rank) :
    ((executions.set index target).map Execution.rank).sum <
      (executions.map Execution.rank).sum := by
  induction executions generalizing index with
  | nil => cases present
  | cons first rest induction =>
    cases index with
    | zero =>
      cases present
      exact Nat.add_lt_add_right lower _
    | succ index => exact Nat.add_lt_add_left (induction present) _

end Crew

theorem StrategyCall.step_rank {policy : ResultPolicy}
    {call target : StrategyCall} {label : StrategyLabel}
    (stepped : call.step policy label = some target) :
    target.crew.rank < call.crew.rank := by
  cases label with
  | resume eventError index resumption =>
    rcases Option.bind_eq_some_iff.mp stepped with ⟨execution, present, stepped⟩
    rcases Option.bind_eq_some_iff.mp stepped with ⟨role, -, stepped⟩
    rcases Option.bind_eq_some_iff.mp stepped with ⟨after, went, same⟩
    cases same
    have lower := Crew.sum_set_rank present (Execution.resume_rank went)
    apply (Crew.settle_rank after).trans_lt
    exact Nat.add_lt_add_right lower _
  | reported outcome =>
    rcases Option.map_eq_some_iff.mp stepped with ⟨crew, went, rfl⟩
    rw [Crew.reported] at went
    split at went
    · next nodes current interrupted reporting =>
        have before : call.crew.parentRank =
            10 * (call.crew.roles.length - nodes.length) + 1 := by
          rw [Crew.parentRank, reporting]
        split_ifs at went
        · cases went
          apply Nat.add_lt_add_left
          show 0 < call.crew.parentRank
          rw [before]
          exact Nat.succ_pos _
        · cases went
          apply (Crew.advance_rank nodes true).trans_lt
          rw [Crew.rank, before]
          omega
    · cases went
  | taskEnds index ended =>
    rcases Option.map_eq_some_iff.mp stepped with ⟨crew, went, rfl⟩
    rcases Crew.taskEnds_cases went with ⟨execution, after, present, ceased, rfl⟩
    have lower := Crew.sum_set_rank present (Execution.taskEnds_rank ceased)
    exact Nat.add_lt_add_right lower _

end TurningGood.MultiAgent
