import TurningGood.MultiAgent.WorkerExecution

/-!
# The workers of a delegated run

`_run_fanout` makes one task of each `_run_worker` and gathers them,
`_run_sequential` calls them one after another in the task of the parent turn.
A cancellation of the parent turn reaches all executions of a fan-out, and the
one that a pipeline awaits.

Together with the coordinator they are one machine: the nodes that `delegate`
collects are those of the executions, and the events of the executions are
those that its sink is called with.
-/

namespace TurningGood.MultiAgent

open TurningGood.Foundation

/-! ## The two strategies -/

/-- What the parent turn awaits in its strategy. -/
inductive CrewParent where
  /-- `asyncio.gather` -/
  | gathering
  /-- the last execution, after these nodes -/
  | executing (nodes : List MultiAgentNode)
  /-- the event of the last of these nodes, which was not executed -/
  | reporting (nodes : List MultiAgentNode) (current : MultiAgentNode)
      (interrupted : Bool)
  | collected (nodes : List MultiAgentNode)
  | raised
  deriving DecidableEq

/--
The workers of a run.  `cancelled` records that the parent turn was cancelled
in its strategy, and `startedLate` that a worker was started after that.
-/
structure Crew where
  run : MultiAgentRun
  roles : List String
  executions : List Execution
  parent : CrewParent
  cancelled : Bool := false
  startedLate : Bool := false
  deriving DecidableEq

namespace Crew

variable (policy : ResultPolicy) (crew : Crew)

variable {index : Nat}

/-- `_run_sequential` goes on after these nodes. -/
def advance (nodes : List MultiAgentNode) (blocked : Bool) : Crew :=
  match crew.roles[nodes.length]? with
  | none => { crew with parent := .collected nodes }
  | some role =>
    if blocked then
      let node :=
        cancelledNode (workerId nodes.length) role "前序 Worker 未成功"
      { crew with parent := .reporting (nodes ++ [node]) node false }
    else
      { crew with
        executions := crew.executions ++ [{}]
        parent := .executing nodes }

/-- `_run_sequential` after an executed node. -/
def advanceFrom (nodes : List MultiAgentNode) (node : MultiAgentNode) :
    Crew :=
  let nodes := nodes ++ [node]
  if node.status ≠ .completed ∨ node.content.isNone then
    crew.advance nodes true
  else
    match crew.roles[nodes.length]? with
    | none => crew.advance nodes false
    | some role =>
      match policy.buildDependency node with
      | some _ => crew.advance nodes false
      | none =>
        let failed :=
          failedNode (workerId nodes.length) role
            resultContextExceededError resultContextExceededCode
        { crew with parent := .reporting (nodes ++ [failed]) failed false }

/-- The strategy of a run begins. -/
def start (run : MultiAgentRun) : Crew :=
  let roles := run.nodes.map MultiAgentNode.role
  match run.strategy with
  | .fanOutFanIn =>
    { run, roles
      executions := roles.map fun _ => {}
      parent := .gathering }
  | .pipeline =>
    Crew.advance
      { run, roles, executions := [], parent := .executing [] } [] false

/-- The parent turn goes on after an execution of its own task has ended. -/
def settle (execution : Execution) : Crew :=
  match crew.parent, execution.point with
  | .executing nodes, .returned node => crew.advanceFrom policy nodes node
  | .executing _, .raised => { crew with parent := .raised }
  | _, _ => crew

/-- An execution of the crew has gone on. -/
def replace (index : Nat) (execution target : Execution) : Crew :=
  { crew with
    executions := crew.executions.set index target
    startedLate := crew.startedLate ||
        (crew.cancelled && decide (execution.point ≠ Point.working) &&
          decide (target.point = Point.working)) }

/-- The execution of a task goes on. -/
def resume (eventError : Option String) (index : Nat)
    (resumption : Resumption) : Option Crew := do
  let execution ← crew.executions[index]?
  let role ← crew.roles[index]?
  let target ←
    execution.resume policy (workerId index) role eventError resumption
  return (crew.replace index execution target).settle policy target

/-- The node that was not executed and whose event is awaited. -/
def reportedNode? : Option MultiAgentNode :=
  match crew.parent with
  | .reporting _ current _ => some current
  | _ => none

/-- The event of a node that was not executed is awaited no longer. -/
def reported (outcome : SinkOutcome) : Option Crew :=
  match crew.parent with
  | .reporting nodes _ interrupted =>
    if outcome.isCancelled ≠ interrupted then none
    else if interrupted then some { crew with parent := .raised }
    else some (crew.advance nodes true)
  | _ => none

/-- The task of a worker ends. -/
def taskEnds (index : Nat) (ended : WorkerEnd) : Option Crew := do
  let execution ← crew.executions[index]?
  let target ← execution.taskEnds ended
  return { crew with executions := crew.executions.set index target }

/-- All executions are told to stop. -/
def interruptAll : Crew :=
  { crew with
    cancelled := true
    executions := crew.executions.map Execution.cancel }

/-- The parent turn is cancelled while it awaits its workers. -/
def cancelParent : Option Crew :=
  match crew.parent with
  | .gathering => some crew.interruptAll
  | .executing _ =>
    if crew.executions.getLast?.any (·.point ≠ .created) then
      some crew.interruptAll
    else
      none
  | .reporting nodes current _ =>
    some
      { crew with
        cancelled := true
        parent := .reporting nodes current true }
  | .collected _ | .raised => none

/-- The node with which an execution has returned. -/
def returnedNode? (execution : Execution) : Option MultiAgentNode :=
  match execution.point with
  | .returned node => some node
  | _ => none

/--
How the strategy has ended, if it has: a gathering that was cancelled raises
when the first of its executions does, or when all of them have ended.
-/
def result? : Option (Option (List MultiAgentNode)) :=
  match crew.parent with
  | .gathering =>
    if crew.cancelled then
      if crew.executions.any (·.point = .raised) ∨
          crew.executions.all Execution.ended then
        some none
      else
        none
    else
      (crew.executions.mapM returnedNode?).map some
  | .executing _ | .reporting _ _ _ => none
  | .collected nodes => some (some nodes)
  | .raised => some none

variable {policy crew}

theorem resume_cases {eventError : Option String} {resumption : Resumption}
    {after : Crew} (stepped :
      crew.resume policy eventError index resumption = some after) :
    ∃ execution role target, crew.executions[index]? = some execution ∧
        crew.roles[index]? = some role ∧
        execution.Resumed policy (workerId index) role target ∧
        after = (crew.replace index execution target).settle policy target := by
  unfold Crew.resume at stepped
  rcases Option.bind_eq_some_iff.mp stepped with ⟨execution, at_, stepped⟩
  rcases Option.bind_eq_some_iff.mp stepped with ⟨role, named, stepped⟩
  rcases Option.bind_eq_some_iff.mp stepped with ⟨target, resumed, same⟩
  cases same
  exact ⟨execution, role, target, at_, named, Execution.resume_resumed resumed, rfl⟩

theorem taskEnds_cases {ended : WorkerEnd} {after : Crew}
    (stepped : crew.taskEnds index ended = some after) :
    ∃ execution target, crew.executions[index]? = some execution ∧
        execution.taskEnds ended = some target ∧
        after =
          { crew with executions := crew.executions.set index target } := by
  unfold Crew.taskEnds at stepped
  rcases Option.bind_eq_some_iff.mp stepped with ⟨execution, at_, stepped⟩
  rcases Option.bind_eq_some_iff.mp stepped with ⟨target, ceased, same⟩
  cases same
  exact ⟨execution, target, at_, ceased, rfl⟩

theorem settle_eq_self
    {execution : Execution}
    (elsewhere : ∀ nodes, crew.parent ≠ .executing nodes) :
    crew.settle policy execution = crew := by
  unfold Crew.settle
  split
  · next executing _ => exact absurd executing (elsewhere _)
  · next executing _ => exact absurd executing (elsewhere _)
  · rfl

theorem forall_set {holds : Execution → Prop} {executions : List Execution}
    {target : Execution} (all : ∀ execution ∈ executions, holds execution)
    (one : holds target) :
    ∀ execution ∈ executions.set index target, holds execution := by
  intro execution member
  rcases List.mem_or_eq_of_mem_set member with old | rfl
  · exact all execution old
  · exact one

end Crew

/-! ## The system -/

/-- A parent turn with the tasks of its request and its workers. -/
structure Delegation where
  turn : DelegatedTurn
  roles : List String
  crew : Option Crew

/-- What the workers and the parent turn do in the strategy. -/
inductive CrewLabel where
  | resume (index : Nat) (resumption : Resumption)
  | reported (outcome : SinkOutcome)
  | taskEnds (index : Nat) (ended : WorkerEnd)
  | cancelParent
  /-- `delegate` goes on after its strategy -/
  | strategyEnds (stopRequested deadlineExpired budgetError : Bool)
  deriving DecidableEq

/-- What happens next. -/
inductive DelegationLabel where
  | turn (label : DelegateLabel)
  | crew (label : CrewLabel)
  deriving DecidableEq

namespace Delegation

variable (policy : ResultPolicy) (filter : EventFilter)
variable (runId parentRequestId : String) (delegation : Delegation)

/-- The workers start when `delegate` awaits its strategy. -/
def launch (turn : DelegatedTurn) : Option Crew → Option Crew
  | none =>
    match turn.thread with
    | .delegating run .working => some (Crew.start run)
    | _ => none
  | some crew => some crew

/-- The tasks of an accepted request. -/
def acceptedRoles : DelegateLabel → List String
  | .invoke (some request) =>
    if delegation.turn.accepted then delegation.roles else request.roles
  | _ => delegation.roles

/-- The turn does something that the workers do not decide. -/
def turnStep (label : DelegateLabel) : Option Delegation :=
  if label.isOfCrew then none
  else
    (delegation.turn.step filter runId parentRequestId label).map fun turn =>
      { turn
        roles := delegation.acceptedRoles label
        crew := launch turn delegation.crew }

/-- The event of a worker, during the strategy or after it. -/
def emitNode (crew : Crew) (node : MultiAgentNode) (outcome : SinkOutcome) :
    Option DelegatedTurn :=
  if delegation.turn.workingRun.isSome then
    delegation.turn.step filter runId parentRequestId (.workerEvent node outcome)
  else
    match crew.parent with
    | .raised =>
      delegation.turn.step filter runId parentRequestId (.orphanEvent node outcome)
    | _ => none

/-- The turn after the awaited event of an execution. -/
def afterEmission (crew : Crew) (index : Nat) (resumption : Resumption) :
    Option DelegatedTurn := do
  let execution ← crew.executions[index]?
  let role ← crew.roles[index]?
  match execution.emission (workerId index) role resumption with
  | none => return delegation.turn
  | some (node, outcome) =>
    delegation.emitNode filter runId parentRequestId crew node outcome

/-- `delegate` goes on with what its strategy has made. -/
def strategyEnds (crew : Crew) (stopRequested deadlineExpired budgetError : Bool) :
    Option Delegation :=
  match crew.result? with
  | none => none
  | some (some nodes) =>
    (delegation.turn.step filter runId parentRequestId
        (.collected nodes stopRequested deadlineExpired budgetError)).map
      fun turn =>
        { delegation with
          turn
          crew := some { crew with parent := .collected nodes } }
  | some none =>
    (delegation.turn.step filter runId parentRequestId .workersCancelled).map fun turn =>
        { delegation with
          turn
          crew := some { crew with parent := .raised } }

/-- A step of the workers, or of the parent turn in the strategy. -/
def crewStep (crew : Crew) : CrewLabel → Option Delegation
  | .resume index resumption => do
    let turn ←
      delegation.afterEmission filter runId parentRequestId crew index resumption
    let resumed ←
      crew.resume policy turn.records.eventError index resumption
    return { delegation with turn, crew := some resumed }
  | .reported outcome => do
    let current ← crew.reportedNode?
    let turn ←
      delegation.emitNode filter runId parentRequestId crew current outcome
    let crew ← crew.reported outcome
    return { delegation with turn, crew := some crew }
  | .taskEnds index ended =>
    (crew.taskEnds index ended).map fun crew =>
      { delegation with crew := some crew }
  | .cancelParent =>
    crew.cancelParent.map fun crew =>
      { delegation with crew := some crew }
  | .strategyEnds stopRequested deadlineExpired budgetError =>
    delegation.strategyEnds filter runId parentRequestId crew
      stopRequested deadlineExpired budgetError

/-- One step of the system. -/
def step : DelegationLabel → Option Delegation
  | .turn label => delegation.turnStep filter runId parentRequestId label
  | .crew label =>
    delegation.crew.bind fun crew =>
      delegation.crewStep policy filter runId parentRequestId crew label

end Delegation

/-- The delegations of the parent turns whose run is named `runId`. -/
def delegations (policy : ResultPolicy) (filter : EventFilter) (runId parentRequestId : String) :
    Machine Delegation DelegationLabel where
  initial delegation := (delegatedTurns filter runId parentRequestId).initial delegation.turn ∧
      delegation.roles = [] ∧ delegation.crew = none
  step delegation label := delegation.step policy filter runId parentRequestId label

end TurningGood.MultiAgent
