import TurningGood.MultiAgent.UnknownRun

/-!
# One worker of a run

`_run_worker` waits for two slots, reports the running node, starts the task
of its worker, watches it until it ends, is stopped or runs out of time, and
reports the terminal node.  A `CancelledError` that is thrown into it leaves
it everywhere but at the two awaits of `_await_worker_result`, where it
becomes a node of the run.

What an execution finds when it is resumed (slots, clocks, stop requests) is a
choice of the environment.
-/

namespace TurningGood.MultiAgent

open TurningGood.Foundation

/-! ## Results of workers -/

/-- The statuses of a result without content. -/
inductive FailureStatus where
  | failed
  | timedOut
  | cancelled
  | interrupted
  deriving DecidableEq, Repr

/-- The status of a node with such a result. -/
def FailureStatus.status : FailureStatus → RunStatus
  | failed => .failed
  | timedOut => .timedOut
  | cancelled => .cancelled
  | interrupted => .interrupted

/-- `WorkerResult`, with a content or with an error. -/
inductive WorkerResult where
  | completed (content : String)
  | unsuccessful (failure : FailureStatus) (error : String)
  deriving DecidableEq, Repr

/-- The status of a result. -/
def WorkerResult.status : WorkerResult → RunStatus
  | completed _ => .completed
  | unsuccessful failure _ => failure.status

/-- How the task of a worker ends. -/
inductive WorkerEnd where
  | returned (result : WorkerResult)
  /-- something else than a `WorkerResult` was returned -/
  | invalid
  | raised
  | cancelled
  deriving DecidableEq, Repr

/-- What the coordinator makes of contents and errors. -/
structure ResultPolicy where
  sanitizeContent : String → String
  safeError : String → String
  countTokens : String → Nat
  workerResultTokenLimit : Nat

/-- `INVALID_RESULT_ERROR`. -/
def invalidResultError : String := "Worker 结果格式无效"

/-- `WORKER_DEPENDENCY_MAX_CHARS`. -/
def workerDependencyMaxChars : Nat := 12000

/-- `WORKER_DEPENDENCY_MAX_TOKENS`. -/
def workerDependencyMaxTokens : Nat := 6000

namespace ResultPolicy

variable (policy : ResultPolicy)

/-- `_normalize_worker_result`, for a `WorkerResult`. -/
def normalizeResult : WorkerResult → WorkerResult × Option String
  | .unsuccessful failure error =>
    (.unsuccessful failure (policy.safeError error), none)
  | .completed content =>
    let clean := policy.sanitizeContent content
    if Text.strip clean = "" then
      (.unsuccessful .failed invalidResultError, some resultContextExceededCode)
    else if policy.countTokens clean > policy.workerResultTokenLimit then
      (.unsuccessful .failed resultContextExceededError, some resultContextExceededCode)
    else
      (.completed clean, none)

/-- `_normalize_worker_result` of what `_await_worker_result` returns. -/
def normalizeWorkerResult : WorkerEnd → WorkerResult × Option String
  | .returned result => policy.normalizeResult result
  | .invalid =>
    (.unsuccessful .failed invalidResultError, some resultContextExceededCode)
  | .raised =>
    policy.normalizeResult (.unsuccessful .failed "Worker 执行失败")
  | .cancelled =>
    policy.normalizeResult (.unsuccessful .cancelled "Worker 已取消")

/-- `_build_dependency`: the content for the next worker, if it fits. -/
def buildDependency (node : MultiAgentNode) : Option String := node.content.filter fun content =>
    decide (content.length ≤ workerDependencyMaxChars) &&
      decide (policy.countTokens content ≤ workerDependencyMaxTokens)

end ResultPolicy

/-! ## Nodes -/

/-- The id of the node of a task. -/
def workerId (index : Nat) : String := s!"worker-{index + 1}"

/-- The node of a normalized result. -/
def resultNode (nodeId role : String) (result : WorkerResult × Option String) : MultiAgentNode :=
  match result with
  | (.completed content, errorCode) =>
    { nodeId, role, status := .completed, content := some content,
      errorCode }
  | (.unsuccessful failure error, errorCode) =>
    { nodeId, role, status := failure.status, error := some error,
      errorCode }

/-- `_cancelled_node`. -/
def cancelledNode (nodeId role error : String) : MultiAgentNode :=
  resultNode nodeId role (.unsuccessful .cancelled error, none)

/-- `_failed_node`. -/
def failedNode (nodeId role error errorCode : String) : MultiAgentNode :=
  resultNode nodeId role (.unsuccessful .failed error, some errorCode)

/-- `_timed_out_node`. -/
def timedOutNode (nodeId role : String) : MultiAgentNode :=
  resultNode nodeId role (.unsuccessful .timedOut "Worker 执行超时", none)

/-- `_event_failure_node`. -/
def eventFailureNode (nodeId role error : String) : MultiAgentNode :=
  failedNode nodeId role error "event_persistence_failed"

/-- Why a worker gets no slot. -/
inductive Refusal where
  | stopRequested
  | deadline
  /-- neither holds any more when it is looked at again -/
  | unavailable
  deriving DecidableEq, Repr

/-- `_terminal_before_start`. -/
def terminalBeforeStart (nodeId role : String) : Refusal → MultiAgentNode
  | .stopRequested => cancelledNode nodeId role "用户已停止协作"
  | .deadline => timedOutNode nodeId role
  | .unavailable => cancelledNode nodeId role "Worker 未取得执行槽位"

/-- A stop request that arrives with a completed result cancels it. -/
def stopCompleted (stopRequested : Bool) (result : WorkerResult × Option String) :
    WorkerResult × Option String :=
  match result.1, stopRequested with
  | .completed _, true => (.unsuccessful .cancelled "用户已停止协作", none)
  | _, _ => result

/-! ## Executions -/

/-- Where `_run_worker` is. -/
inductive Point where
  /-- its task has not run yet -/
  | created
  | acquiringRun
  | acquiringGlobal
  /-- the event of the running node is awaited -/
  | reportingStart
  /-- `asyncio.wait` for the task of the worker -/
  | working
  /-- `_cancel_worker_task`, before this result -/
  | dismissing (result : WorkerResult)
  /-- the event of the terminal node is awaited -/
  | reportingEnd (node : MultiAgentNode)
  | returned (node : MultiAgentNode)
  /-- a `CancelledError` has left `_run_worker` -/
  | raised
  deriving DecidableEq

/-- Before its slots are taken and reported, an execution has no worker. -/
def Point.beforeStart : Point → Bool
  | .created | .acquiringRun | .acquiringGlobal | .reportingStart => true
  | _ => false

/-- The task that runs a worker. -/
structure WorkerTask where
  cancelRequested : Bool
  ended : Option WorkerEnd
  deriving DecidableEq

/-- The task has ended or was told to. -/
def WorkerTask.Settled (task : WorkerTask) : Prop :=
  task.ended.isSome = true ∨ task.cancelRequested = true

/-- A call of `_run_worker`. -/
structure Execution where
  point : Point := .created
  /-- a `CancelledError` will be thrown at the awaited point -/
  interrupted : Bool := false
  task : Option WorkerTask := none
  deriving DecidableEq

/-- What an execution meets when it goes on. -/
inductive Resumption where
  | begun
  | acquired
  | refused (refusal : Refusal)
  /-- the running node is reported; there may be no time left -/
  | started (outcome : SinkOutcome) (timeLeft : Bool)
  | stopRequested
  | timedOut
  | finished (stopRequested : Bool)
  | dismissed
  | reported (outcome : SinkOutcome)
  /-- a `CancelledError`; the row of an awaited event may be written -/
  | interrupted (written : Bool)
  deriving DecidableEq

namespace Execution

variable (policy : ResultPolicy) (nodeId role : String)
variable (execution : Execution)

variable {target : Execution}

/-- `_run_worker` has ended. -/
def ended : Bool :=
  match execution.point with
  | .returned _ | .raised => true
  | _ => false

/-- `_await_worker_result` is running. -/
def awaitsWorker : Bool :=
  match execution.point with
  | .working | .dismissing _ => true
  | _ => false

/-- The execution goes on to a point. -/
def goTo (point : Point) : Execution :=
  { execution with point := point, interrupted := false }

/-- `_cancel_worker_task` up to its wait. -/
def cancelTask : Execution :=
  { execution with
    task := execution.task.map fun task =>
      if task.ended.isSome then task
      else { task with cancelRequested := true } }

/-- The terminal node of a result is reported. -/
def report (result : WorkerResult × Option String) : Execution :=
  execution.goTo (.reportingEnd (resultNode nodeId role result))

/-- The task of the worker is watched no longer. -/
def dismiss (result : WorkerResult) : Execution := execution.cancelTask.goTo (.dismissing result)

/-- A `CancelledError` is thrown. -/
def interrupt : Option Execution :=
  match execution.point with
  | .created | .acquiringRun | .acquiringGlobal | .reportingStart
  | .reportingEnd _ => some (execution.goTo .raised)
  | .working =>
    some (execution.dismiss (.unsuccessful .cancelled "Worker 已取消"))
  | .dismissing result =>
    some (execution.report nodeId role (policy.normalizeResult result))
  | .returned _ | .raised => none

/-- The event that is awaited, with the outcome of its call. -/
def emission (resumption : Resumption) :
    Option (MultiAgentNode × SinkOutcome) :=
  let node? : Option MultiAgentNode :=
    match execution.point with
    | .reportingStart => some { nodeId, role, status := .running }
    | .reportingEnd node => some node
    | _ => none
  match node?, resumption with
  | some node, .started outcome _ | some node, .reported outcome =>
    some (node, outcome)
  | some node, .interrupted written => some (node, .cancelled written)
  | _, _ => none

/--
The execution goes on; `eventError` is the failure that the coordinator has
noted for the run.
-/
def resume (eventError : Option String) (resumption : Resumption) :
    Option Execution :=
  match execution.interrupted, resumption with
  | true, .interrupted _ => execution.interrupt policy nodeId role
  | true, _ => none
  | false, resumption =>
    match execution.point, resumption with
    | .created, .begun =>
      match eventError with
      | some error =>
        some (execution.goTo (.returned (eventFailureNode nodeId role error)))
      | none => some (execution.goTo .acquiringRun)
    | .acquiringRun, .acquired => some (execution.goTo .acquiringGlobal)
    | .acquiringGlobal, .acquired => some (execution.goTo .reportingStart)
    | .acquiringRun, .refused refusal
    | .acquiringGlobal, .refused refusal =>
      some (execution.goTo (.reportingEnd (terminalBeforeStart nodeId role refusal)))
    | .reportingStart, .started outcome timeLeft =>
      if outcome.isCancelled then none
      else
        match eventError with
        | some error =>
          some (execution.goTo (.returned (eventFailureNode nodeId role error)))
        | none =>
          if timeLeft then
            some { execution.goTo .working with
              task := some ⟨false, none⟩ }
          else
            some (execution.goTo (.reportingEnd (timedOutNode nodeId role)))
    | .working, .stopRequested =>
      some (execution.dismiss (.unsuccessful .cancelled "用户已停止协作"))
    | .working, .timedOut =>
      some (execution.dismiss (.unsuccessful .timedOut "Worker 执行超时"))
    | .working, .finished stopRequested =>
      (execution.task.bind WorkerTask.ended).map fun ended =>
        execution.report nodeId role (stopCompleted stopRequested
            (policy.normalizeWorkerResult ended))
    | .dismissing result, .dismissed =>
      some (execution.report nodeId role (policy.normalizeResult result))
    | .reportingEnd node, .reported outcome =>
      if outcome.isCancelled then none
      else some (execution.goTo (.returned node))
    | _, _ => none

/-- The task of the worker ends. -/
def taskEnds (ended : WorkerEnd) : Option Execution :=
  match execution.task with
  | some ⟨cancelRequested, none⟩ =>
    some { execution with task := some ⟨cancelRequested, some ended⟩ }
  | _ => none

/-- The execution is told to stop. -/
def cancel : Execution :=
  if execution.ended then execution
  else { execution with interrupted := true }

@[simp]
theorem goTo_point (point : Point) : (execution.goTo point).point = point := rfl

@[simp]
theorem goTo_task (point : Point) : (execution.goTo point).task = execution.task := rfl

/-- What an execution can become in one step. -/
inductive Resumed : Execution → Prop where
  /-- a `CancelledError` leaves `_run_worker` -/
  | raises
      (interrupted : execution.interrupted = true)
      (outside : execution.awaitsWorker = false)
      (running : execution.ended = false) :
      Resumed (execution.goTo .raised)
  /-- the wait for the worker is cut off, also by a `CancelledError` -/
  | dismisses (failure : FailureStatus) (error : String)
      (working : execution.point = .working) :
      Resumed (execution.dismiss (.unsuccessful failure error))
  | dismissed (result : WorkerResult)
      (waiting : execution.point = .dismissing result) :
      Resumed (execution.report nodeId role (policy.normalizeResult result))
  | waits (point : Point)
      (uninterrupted : execution.interrupted = false)
      (before : execution.point.beforeStart = true)
      (after : point.beforeStart = true) :
      Resumed (execution.goTo point)
  | returnsEarly (error : String)
      (uninterrupted : execution.interrupted = false)
      (before : execution.point.beforeStart = true) :
      Resumed (execution.goTo (.returned (eventFailureNode nodeId role error)))
  | refused (refusal : Refusal)
      (uninterrupted : execution.interrupted = false)
      (before : execution.point.beforeStart = true) :
      Resumed (execution.goTo (.reportingEnd (terminalBeforeStart nodeId role refusal)))
  | starts
      (uninterrupted : execution.interrupted = false)
      (reporting : execution.point = .reportingStart) :
      Resumed
        { execution.goTo .working with task := some ⟨false, none⟩ }
  | tooLate
      (uninterrupted : execution.interrupted = false)
      (reporting : execution.point = .reportingStart) :
      Resumed (execution.goTo (.reportingEnd (timedOutNode nodeId role)))
  | finishes (stopRequested : Bool) (ended : WorkerEnd)
      (uninterrupted : execution.interrupted = false)
      (working : execution.point = .working)
      (ceased : execution.task.bind WorkerTask.ended = some ended) :
      Resumed (execution.report nodeId role
        (stopCompleted stopRequested (policy.normalizeWorkerResult ended)))
  | returns (node : MultiAgentNode)
      (uninterrupted : execution.interrupted = false)
      (reporting : execution.point = .reportingEnd node) :
      Resumed (execution.goTo (.returned node))

variable {policy nodeId role execution}

theorem interrupt_resumed (interrupted : execution.interrupted = true)
    (stepped : execution.interrupt policy nodeId role = some target) :
    Resumed policy nodeId role execution target := by
  cases here : execution.point with
  | created | acquiringRun | acquiringGlobal | reportingStart
  | reportingEnd _ =>
    rw [interrupt, here] at stepped
    cases stepped
    apply Resumed.raises interrupted
    · rw [awaitsWorker, here]
    · rw [Execution.ended, here]
  | working =>
    rw [interrupt, here] at stepped
    cases stepped
    exact .dismisses _ _ here
  | dismissing result =>
    rw [interrupt, here] at stepped
    cases stepped
    exact .dismissed result here
  | returned _ | raised =>
    rw [interrupt, here] at stepped
    cases stepped

theorem resume_resumed {eventError : Option String} {resumption : Resumption}
    (stepped : execution.resume policy nodeId role eventError resumption =
        some target) : Resumed policy nodeId role execution target := by
  cases interrupted : execution.interrupted with
  | true =>
    cases resumption with
    | interrupted written =>
      rw [resume] at stepped
      · exact interrupt_resumed interrupted stepped
      · exact interrupted
    | _ =>
      simp only [resume, interrupted] at stepped
      cases stepped
  | false =>
    simp only [resume, interrupted] at stepped
    split at stepped
    · next here =>
        have before : execution.point.beforeStart = true := by
          rw [here]
          rfl
        split at stepped
        · cases stepped
          exact .returnsEarly _ interrupted before
        · cases stepped
          exact .waits _ interrupted before rfl
    · next here =>
        cases stepped
        exact .waits _ interrupted (by rw [here]; rfl) rfl
    · next here =>
        cases stepped
        exact .waits _ interrupted (by rw [here]; rfl) rfl
    · next here =>
        cases stepped
        exact .refused _ interrupted (by rw [here]; rfl)
    · next here =>
        cases stepped
        exact .refused _ interrupted (by rw [here]; rfl)
    · next here =>
        split at stepped
        · cases stepped
        · split at stepped
          · cases stepped
            exact .returnsEarly _ interrupted (by rw [here]; rfl)
          · split at stepped
            · cases stepped
              exact .starts interrupted here
            · cases stepped
              exact .tooLate interrupted here
    · next here =>
        cases stepped
        exact .dismisses _ _ here
    · next here =>
        cases stepped
        exact .dismisses _ _ here
    · next here =>
        rcases Option.map_eq_some_iff.mp stepped with ⟨ended, ceased, rfl⟩
        exact .finishes _ ended interrupted here ceased
    · next here =>
        cases stepped
        exact .dismissed _ here
    · next here =>
        split at stepped
        · cases stepped
        · cases stepped
          exact .returns _ interrupted here
    · cases stepped

theorem Resumed.running (resumed : Resumed policy nodeId role execution target) :
    execution.ended = false := by
  cases resumed with
  | raises _ _ running => exact running
  | dismisses _ _ here | dismissed _ here | starts _ here | tooLate _ here
  | finishes _ _ _ here _ | returns _ _ here =>
    rw [Execution.ended, here]
  | waits _ _ before _ | returnsEarly _ _ before | refused _ _ before =>
    cases here : execution.point with
    | created | acquiringRun | acquiringGlobal | reportingStart
    | working | dismissing _ | reportingEnd _ =>
      rw [Execution.ended, here]
    | returned _ | raised =>
      rw [here] at before
      cases before

end Execution

end TurningGood.MultiAgent
