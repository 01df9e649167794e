import TurningGood.Foundation.Machine
import TurningGood.MultiAgent.Events

/-!
# One delegated run of the coordinator

The loop of a parent turn hands a request to its invocation of the delegate
tool, which starts a run of workers through the coordinator.  The run is
reported by events to a sink that persists them; a sink that raises makes
the coordinator end the run with another event.  The invocation learns the
run only when `delegate` returns, and the exits of the loop finish the run
through it.

What the workers do is a choice of the environment, as far as the run does
not depend on it: which node events they emit, with which nodes they end,
and what the clock and the token counts say.
-/

namespace TurningGood.MultiAgent

open TurningGood.Foundation

/-! ## Requests, calls of the sink and threads -/

/-- `MultiAgentRequest` with the roles of its tasks. -/
structure MultiAgentRequest where
  strategy : Strategy
  roles : List String
  deriving DecidableEq, Repr

/--
How a call of the event sink ends.  A sink that raises, or that is cancelled
while it is awaited, may have written the trace row before.
-/
inductive SinkOutcome where
  | delivered
  | raised (written : Bool)
  | cancelled (written : Bool)
  deriving DecidableEq, Repr

namespace SinkOutcome

/-- The trace row was written. -/
def written : SinkOutcome → Bool
  | delivered => true
  | raised written | cancelled written => written

/-- The call of the sink was cancelled. -/
def isCancelled : SinkOutcome → Bool
  | cancelled _ => true
  | delivered | raised _ => false

end SinkOutcome

/-- The outcome that the loop hands to the coordinator. -/
inductive ParentOutcome where
  | completed
  | failed
  | cancelled
  | timedOut
  deriving DecidableEq, Repr

/-- The status and the error of a finalized run. -/
def ParentOutcome.mapping : ParentOutcome → RunStatus × Option String
  | completed => (.completed, none)
  | failed => (.failed, some "父 Agent synthesis 失败")
  | cancelled => (.cancelled, some "用户已停止协作")
  | timedOut => (.timedOut, some "Multi-Agent Run 已超时")

/-- Where `delegate` awaits something. -/
inductive DelegatePoint where
  | queued
  | nodes (current : MultiAgentNode) (rest : List MultiAgentNode)
  | started
  | working
  | concluding
  | failing
  deriving DecidableEq, Repr

/-- What the parent turn awaits, with the run of the awaited call. -/
inductive Thread where
  | loop
  | delegating (run : MultiAgentRun) (point : DelegatePoint)
  | checking (run : MultiAgentRun)
  | finalizing (run : MultiAgentRun) (failing : Bool)
  | left
  deriving DecidableEq, Repr

/-- What the coordinator keeps in its tables for one run. -/
structure RunRecords where
  requestEntry : Option MultiAgentRun := none
  runKey : Bool := false
  deadline : Bool := false
  eventError : Option String := none
  terminalNodes : List String := []
  terminalRun : Bool := false
  deriving DecidableEq, Repr

/--
A parent turn with its delegated run.  The list of terminal calls records
the terminal events of the run that were handed to the sink.
-/
structure DelegatedTurn where
  records : RunRecords
  accepted : Bool
  knownRun : Bool
  thread : Thread
  orphans : Option MultiAgentRun
  waitingEvents : List MultiAgentRun
  returned : Option RunStatus
  log : List TraceRow
  terminalCalls : List (RunStatus × SinkOutcome)
  deriving DecidableEq

/-! ## Runs -/

namespace MultiAgentRun

/-- `_finish`. -/
def finish (run : MultiAgentRun) (status : RunStatus) (error : Option String) : MultiAgentRun :=
  { run with status, error }

/-- The run that `delegate` creates for a request. -/
def create (runId parentRequestId : String) (request : MultiAgentRequest) : MultiAgentRun where
  runId := runId
  parentRequestId := parentRequestId
  strategy := request.strategy
  status := .queued
  nodes := request.roles.mapIdx fun index role =>
    { nodeId := s!"worker-{index + 1}", role, status := .queued }

/-- `_first_error`. -/
def firstError (nodes : List MultiAgentNode) : String :=
  ((nodes.filterMap (·.error)).find? (· ≠ "")).getD "Multi-Agent Worker 全部失败"

/-- `_first_error_code`. -/
def firstErrorCode (nodes : List MultiAgentNode) : Option String :=
  (nodes.filterMap (·.errorCode)).find? (· ≠ "")

end MultiAgentRun

/-- The error of a run whose events cannot be persisted. -/
def eventPersistenceError : String := "Multi-Agent 事件持久化失败"

/-- `RESULT_CONTEXT_EXCEEDED_CODE`. -/
def resultContextExceededCode : String := "result_context_exceeded"

/-- `RESULT_CONTEXT_EXCEEDED_ERROR`. -/
def resultContextExceededError : String := "Worker 结果超出上下文限制"

/-- What the collected nodes make of a run. -/
inductive Conclusion where
  | carriesOn (run : MultiAgentRun)
  | ends (run : MultiAgentRun)
  deriving DecidableEq, Repr

/-- The decision of `delegate` after its workers. -/
def conclude (run : MultiAgentRun) (nodes : List MultiAgentNode)
    (stopRequested deadlineExpired budgetError : Bool) : Conclusion :=
  let run :=
    if budgetError then
      { run with
        errorCode := some resultContextExceededCode
        error := some resultContextExceededError }
    else
      run
  if stopRequested then
    .ends (run.finish .cancelled (some "用户已停止协作"))
  else if deadlineExpired then
    .ends (run.finish .timedOut (some "Multi-Agent Run 已超时"))
  else if budgetError then
    .ends (run.finish .failed (some resultContextExceededError))
  else if (¬ ∃ node ∈ nodes, node.status = .completed) ∨
      (run.strategy ≠ .fanOutFanIn ∧ ∃ node ∈ nodes, node.status ≠ .completed) then
    .ends ({ run with
          errorCode := MultiAgentRun.firstErrorCode nodes <|> run.errorCode
        }.finish .failed (some (MultiAgentRun.firstError nodes)))
  else
    .carriesOn run

theorem conclude_spec (run : MultiAgentRun) (nodes : List MultiAgentNode)
    (stopRequested deadlineExpired budgetError : Bool) :
    match conclude run nodes stopRequested deadlineExpired budgetError with
    | .carriesOn after =>
      after.runId = run.runId ∧ after.status = run.status
    | .ends after =>
      after.runId = run.runId ∧ after.status.isTerminal = true := by
  cases budgetError <;> simp only [conclude, if_true, if_false, Bool.false_eq_true] <;>
    split_ifs <;> exact ⟨rfl, rfl⟩

namespace RunRecords

variable (records : RunRecords)

/-- The first failure of the sink is kept. -/
def noteEventError : RunRecords :=
  { records with
    eventError := some (records.eventError.getD eventPersistenceError) }

/-- What a call of the sink with an event of the run changes. -/
def settleRun (run : MultiAgentRun) : SinkOutcome → RunRecords
  | .delivered =>
    { records with
      terminalRun := records.terminalRun || run.status.isTerminal }
  | .raised _ => records.noteEventError
  | .cancelled _ => records

/-- What a call of the sink with an event of a node changes. -/
def settleNode (node : MultiAgentNode) : SinkOutcome → RunRecords
  | .delivered =>
    { records with
      terminalNodes :=
        if node.status.isTerminal then
          node.nodeId :: records.terminalNodes
        else
          records.terminalNodes }
  | .raised _ => records.noteEventError
  | .cancelled _ => records

theorem settleRun_delivered_of_active {run : MultiAgentRun}
    (active : run.status.isTerminal = false) :
    records.settleRun run .delivered = records := by
  simp [settleRun, active]

theorem settleNode_delivered_of_active {node : MultiAgentNode}
    (active : node.status.isTerminal = false) :
    records.settleNode node .delivered = records := by
  simp [settleNode, active]

end RunRecords

namespace DelegatedTurn

section Events

variable (filter : EventFilter) (turn : DelegatedTurn)

/-- `_remember`. -/
def remember (run : MultiAgentRun) : DelegatedTurn :=
  { turn with records := { turn.records with requestEntry := some run } }

/-- The rows that a call of the sink leaves in the trace. -/
def writtenRows (row : TraceRow) (outcome : SinkOutcome) : List TraceRow :=
  if outcome.written then [row] else []

/-- `_emit` knows that the terminal event of the run was persisted. -/
def skipsRun (run : MultiAgentRun) : Bool := run.status.isTerminal && turn.records.terminalRun

/-- `_emit` of an event of the run. -/
def emitRun (run : MultiAgentRun) (outcome : SinkOutcome) : DelegatedTurn :=
  if turn.skipsRun run then
    turn
  else
    { turn with
      records := turn.records.settleRun run outcome
      log := turn.log ++ writtenRows (runRow filter run (runEventByStatus run.status)) outcome
      terminalCalls := turn.terminalCalls ++
        if run.status.isTerminal then [(run.status, outcome)] else [] }

/-- What `_emit` returns for an event of the run; nothing if cancelled. -/
def emitRunResult (run : MultiAgentRun) (outcome : SinkOutcome) :
    Option Bool :=
  if turn.skipsRun run then
    some true
  else
    match outcome with
    | .delivered => some true
    | .raised _ => some false
    | .cancelled _ => none

/-- `_emit` of an event of a node. -/
def emitNode (run : MultiAgentRun) (node : MultiAgentNode)
    (outcome : SinkOutcome) : DelegatedTurn :=
  if node.status.isTerminal ∧ node.nodeId ∈ turn.records.terminalNodes then
    turn
  else
    { turn with
      records := turn.records.settleNode node outcome
      log := turn.log ++ writtenRows (nodeRow filter run node) outcome }

end Events

/-! ## Calls of the coordinator -/

section Calls

variable (turn : DelegatedTurn)

/-- `_finish_event_failure` up to its event. -/
def failedRun (run : MultiAgentRun) : MultiAgentRun :=
  { run with errorCode := some "event_persistence_failed" }.finish .failed
    (some (turn.records.eventError.getD eventPersistenceError))

/-- `delegate` ends its run because of its events. -/
def delegateFails (run : MultiAgentRun) : DelegatedTurn :=
  { turn.remember (turn.failedRun run) with
    thread := .delegating (turn.failedRun run) .failing }

/-- `delegate` returns its run to the invocation. -/
def delegateReturns (run : MultiAgentRun) : DelegatedTurn :=
  { turn with
    knownRun := true
    thread := .loop
    returned :=
      if run.status.isTerminal then some run.status else turn.returned }

/-- `delegate` is cancelled; the invocation does not learn the run. -/
def delegateCancelled : DelegatedTurn :=
  { turn with thread := .loop }

/-- The events of the queued nodes, and then that of the started run. -/
def awaitNodes (run : MultiAgentRun) : List MultiAgentNode → DelegatedTurn
  | node :: rest =>
    { turn with thread := .delegating run (.nodes node rest) }
  | [] =>
    if turn.records.eventError.isSome then
      turn.delegateFails run
    else
      let started := { run with status := .running }
      { turn.remember started with thread := .delegating started .started }

/-- `delegate` up to its first event. -/
def delegate (run : MultiAgentRun) : DelegatedTurn :=
  { turn with
    accepted := true
    records := { turn.records with
      requestEntry := some run, runKey := true, deadline := true }
    thread := .delegating run .queued }

/-- `delegate` after its workers. -/
def collect (run : MultiAgentRun) (nodes : List MultiAgentNode)
    (stopRequested deadlineExpired budgetError : Bool) : DelegatedTurn :=
  if turn.records.eventError.isSome then
    turn.delegateFails { run with nodes }
  else
    match conclude { run with nodes } nodes
        stopRequested deadlineExpired budgetError with
    | .carriesOn run => (turn.remember run).delegateReturns run
    | .ends run =>
      { turn.remember run with thread := .delegating run .concluding }

/-- `_release_run_runtime_state`. -/
def release : DelegatedTurn :=
  { turn with records := {} }

/-- The turn is over, with what `finalize` returned. -/
def finalizeReturns (run : MultiAgentRun) : DelegatedTurn :=
  { turn with thread := .left, returned := some run.status }

/-- The turn is over without a result of `finalize`. -/
def leave : DelegatedTurn :=
  { turn with thread := .left }

/-- `finalize` of a known run up to its event. -/
def finalize (run : MultiAgentRun) (outcome : ParentOutcome)
    (deadlineExpired : Bool) : DelegatedTurn :=
  if run.status.isTerminal then
    turn.release.finalizeReturns run
  else
    let outcome :=
      if outcome = .completed ∧ turn.records.deadline ∧ deadlineExpired then
        .timedOut
      else
        outcome
    let final := run.finish outcome.mapping.1 outcome.mapping.2
    { turn.remember final with thread := .finalizing final false }

theorem finalize_of_ended {run : MultiAgentRun}
    (ended : run.status.isTerminal = true) (outcome : ParentOutcome)
    (deadlineExpired : Bool) :
    turn.finalize run outcome deadlineExpired =
      turn.release.finalizeReturns run :=
  if_pos ended

theorem finalize_of_active {run : MultiAgentRun}
    (active : run.status.isTerminal = false) (outcome : ParentOutcome)
    (deadlineExpired : Bool) :
    ∃ decided : ParentOutcome, turn.finalize run outcome deadlineExpired =
        { turn.remember
            (run.finish decided.mapping.1 decided.mapping.2) with
          thread := .finalizing (run.finish decided.mapping.1 decided.mapping.2) false } := by
  refine ⟨if outcome = .completed ∧ turn.records.deadline ∧
    deadlineExpired then .timedOut else outcome, ?_⟩
  rw [finalize, if_neg (by rw [active]; exact Bool.false_ne_true)]

/-- `finish_parent_turn`, by which the loop leaves. -/
def finishParentTurn (outcome : ParentOutcome) (deadlineExpired : Bool) : DelegatedTurn :=
  match turn.knownRun, turn.records.runKey, turn.records.requestEntry with
  | true, true, some run => turn.finalize run outcome deadlineExpired
  | _, _, _ => turn.leave

/-- `check_parent_synthesis` up to its event, if there is one. -/
def checkParentContext (exceeded : Bool) : DelegatedTurn :=
  match turn.knownRun, turn.records.runKey, turn.records.requestEntry with
  | true, true, some run =>
    if run.status.isTerminal ∨ ¬ exceeded then
      turn
    else
      let failed :=
        { run with errorCode := some resultContextExceededCode }.finish
          .failed (some resultContextExceededError)
      { turn.remember failed with thread := .checking failed }
  | _, _, _ => turn

/-- `set_waiting` up to its event, if there is one. -/
def setWaiting (waiting : Bool) : DelegatedTurn :=
  match turn.knownRun, turn.records.runKey, turn.records.requestEntry with
  | true, true, some run =>
    let status := if waiting then .waiting else .running
    if run.status.isTerminal ∨ run.status = status then
      turn
    else
      { turn.remember { run with status } with
        waitingEvents := turn.waitingEvents ++ [{ run with status }] }
  | _, _, _ => turn

/-- The invocation recovers the run of a `delegate` that raised. -/
def delegateRaises (run : MultiAgentRun) : DelegatedTurn :=
  { turn with
    knownRun := turn.records.requestEntry.isSome
    thread := .loop
    orphans := some run }

end Calls

end DelegatedTurn

/-! ## The machine -/

/-- What happens next. -/
inductive DelegateLabel where
  | otherRow (row : TraceRow)
  | invoke (request : Option MultiAgentRequest)
  | emitted (outcome : SinkOutcome)
  | workerEvent (node : MultiAgentNode) (outcome : SinkOutcome)
  | collected (nodes : List MultiAgentNode)
      (stopRequested deadlineExpired budgetError : Bool)
  | workersRaise
  | workersCancelled
  | orphanEvent (node : MultiAgentNode) (outcome : SinkOutcome)
  | setWaiting (waiting : Bool)
  | waitingEmitted (index : Nat) (outcome : SinkOutcome)
  | checkContext (exceeded : Bool)
  | finish (outcome : ParentOutcome) (deadlineExpired : Bool)
  | leaveUnfinished
  deriving DecidableEq

namespace DelegatedTurn

variable (filter : EventFilter) (turn : DelegatedTurn)

/-- The awaited event of the run is emitted, and `delegate` goes on. -/
def delegateEmitted (run : MultiAgentRun) (outcome : SinkOutcome) :
    DelegatePoint → Option DelegatedTurn
  | .queued =>
    let emitted := turn.emitRun filter run outcome
    some <|
      if (turn.emitRunResult run outcome).isNone then
        emitted.delegateCancelled
      else if emitted.records.eventError.isSome then
        emitted.delegateFails run
      else
        emitted.awaitNodes run run.nodes
  | .nodes node rest =>
    let emitted := turn.emitNode filter run node outcome
    some <|
      if outcome.isCancelled then
        emitted.delegateCancelled
      else
        emitted.awaitNodes run rest
  | .started =>
    let emitted := turn.emitRun filter run outcome
    some <|
      if (turn.emitRunResult run outcome).isNone then
        emitted.delegateCancelled
      else if emitted.records.eventError.isSome then
        emitted.delegateFails run
      else
        { emitted with thread := .delegating run .working }
  | .working => none
  | .concluding =>
    let emitted := turn.emitRun filter run outcome
    match turn.emitRunResult run outcome with
    | none => some emitted.delegateCancelled
    | some false => some (emitted.delegateFails run)
    | some true => some (emitted.delegateReturns run)
  | .failing =>
    let emitted := turn.emitRun filter run outcome
    match turn.emitRunResult run outcome with
    | none => some emitted.delegateCancelled
    | some _ => some (emitted.delegateReturns run)

/-- The awaited event is emitted, and the parent turn goes on. -/
def emitted (outcome : SinkOutcome) : Option DelegatedTurn :=
  match turn.thread with
  | .loop | .left => none
  | .delegating run point => turn.delegateEmitted filter run outcome point
  | .checking run =>
    let emitted := turn.emitRun filter run outcome
    match turn.emitRunResult run outcome with
    | none => some emitted.leave
    | some _ => some { emitted with thread := .loop }
  | .finalizing run false =>
    let emitted := turn.emitRun filter run outcome
    match turn.emitRunResult run outcome with
    | none => some emitted.leave
    | some false =>
      some { emitted.remember (emitted.failedRun run) with
        thread := .finalizing (emitted.failedRun run) true }
    | some true => some (emitted.release.finalizeReturns run)
  | .finalizing run true =>
    let emitted := turn.emitRun filter run outcome
    match turn.emitRunResult run outcome with
    | none => some emitted.leave
    | some _ => some (emitted.finalizeReturns run)

/-- The run of the workers that are executing. -/
def workingRun : Option MultiAgentRun :=
  match turn.thread with
  | .delegating run .working => some run
  | _ => none

/-- The step of one parent turn with the run named by the coordinator. -/
def step (runId parentRequestId : String) : DelegateLabel → Option DelegatedTurn
  | .otherRow row =>
    if (RunsReader.eventOf row).all (·.1 ≠ runId) then
      some { turn with log := turn.log ++ [row] }
    else
      none
  | .invoke request =>
    if turn.thread = .loop then
      match turn.accepted, request with
      | false, some request =>
        some (turn.delegate (.create runId parentRequestId request))
      | _, _ => some turn
    else
      none
  | .emitted outcome => turn.emitted filter outcome
  | .workerEvent node outcome =>
    turn.workingRun.map fun run => turn.emitNode filter run node outcome
  | .collected nodes stopRequested deadlineExpired budgetError =>
    turn.workingRun.map fun run =>
      turn.collect run nodes stopRequested deadlineExpired budgetError
  | .workersRaise => turn.workingRun.map turn.delegateRaises
  | .workersCancelled =>
    turn.workingRun.map fun run =>
      { turn.delegateCancelled with orphans := some run }
  | .orphanEvent node outcome =>
    turn.orphans.map fun run => turn.emitNode filter run node outcome
  | .setWaiting waiting =>
    if turn.thread = .loop then some (turn.setWaiting waiting) else none
  | .waitingEmitted index outcome =>
    turn.waitingEvents[index]?.map fun run =>
      { turn with
        waitingEvents := turn.waitingEvents.eraseIdx index
      }.emitRun filter run outcome
  | .checkContext exceeded =>
    if turn.thread = .loop then
      some (turn.checkParentContext exceeded)
    else
      none
  | .finish outcome deadlineExpired =>
    if turn.thread = .loop then
      some (turn.finishParentTurn outcome deadlineExpired)
    else
      none
  | .leaveUnfinished =>
    if turn.thread = .loop then some turn.leave else none

/-- A parent turn at its start, with what the trace holds already. -/
def start (log : List TraceRow) : DelegatedTurn where
  records := {}
  accepted := false
  knownRun := false
  thread := .loop
  orphans := none
  waitingEvents := []
  returned := none
  log := log
  terminalCalls := []

end DelegatedTurn

/--
The parent turns whose run is named `runId`, a name that no row of the trace
mentions.
-/
def delegatedTurns (filter : EventFilter) (runId parentRequestId : String) :
    Machine DelegatedTurn DelegateLabel where
  initial turn := runId ≠ "" ∧ ∃ log, turn = .start log ∧
      ∀ row ∈ log, (RunsReader.eventOf row).all (·.1 ≠ runId)
  step turn label := turn.step filter runId parentRequestId label

namespace DelegatedTurn

/-! ## What the events leave alone -/

/-- Two states that differ at most in what an event changes. -/
structure Beside (turn target : DelegatedTurn) : Prop where
  accepted : target.accepted = turn.accepted
  knownRun : target.knownRun = turn.knownRun
  thread : target.thread = turn.thread
  orphans : target.orphans = turn.orphans
  waitingEvents : target.waitingEvents = turn.waitingEvents
  returned : target.returned = turn.returned
  requestEntry : target.records.requestEntry = turn.records.requestEntry
  runKey : target.records.runKey = turn.records.runKey
  deadline : target.records.deadline = turn.records.deadline

section Beside

variable (filter : EventFilter) (turn : DelegatedTurn)

theorem emitRun_beside (run : MultiAgentRun) (outcome : SinkOutcome) :
    turn.Beside (turn.emitRun filter run outcome) := by
  rw [emitRun]
  split
  · constructor <;> rfl
  · cases outcome <;> constructor <;> rfl

theorem emitNode_beside (run : MultiAgentRun) (node : MultiAgentNode) (outcome : SinkOutcome) :
    turn.Beside (turn.emitNode filter run node outcome) := by
  rw [emitNode]
  split_ifs
  · constructor <;> rfl
  · cases outcome <;> constructor <;> rfl

theorem emitNode_terminalCalls (run : MultiAgentRun)
    (node : MultiAgentNode) (outcome : SinkOutcome) :
    (turn.emitNode filter run node outcome).terminalCalls =
      turn.terminalCalls := by
  rw [emitNode]
  split_ifs <;> rfl

theorem emitRun_terminalCalls_of_active {run : MultiAgentRun}
    (active : run.status.isTerminal = false) (outcome : SinkOutcome) :
    (turn.emitRun filter run outcome).terminalCalls =
      turn.terminalCalls := by
  rw [emitRun, skipsRun, active]
  exact List.append_nil _

theorem emitNode_terminalRun (run : MultiAgentRun) (node : MultiAgentNode) (outcome : SinkOutcome) :
    (turn.emitNode filter run node outcome).records.terminalRun =
      turn.records.terminalRun := by
  rw [emitNode]
  split_ifs
  · rfl
  · cases outcome <;> rfl

theorem emitRun_terminalRun_of_active {run : MultiAgentRun}
    (active : run.status.isTerminal = false) (outcome : SinkOutcome) :
    (turn.emitRun filter run outcome).records.terminalRun =
      turn.records.terminalRun := by
  rw [emitRun, skipsRun, active]
  cases outcome with
  | delivered =>
    change (_ || run.status.isTerminal) = _
    rw [active, Bool.or_false]
  | raised => rfl
  | cancelled => rfl

end Beside

end DelegatedTurn

end TurningGood.MultiAgent
