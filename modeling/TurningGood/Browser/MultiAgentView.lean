import TurningGood.MultiAgent.Events

/-!
# The multi-agent view of the browser

The browser keeps a view of every run of workers.  The view is built from
the events of the run that a turn has received, is merged with what a
snapshot of the server has shown, and rejects what is not the public shape
of an event or of a summary.

Statuses and strategies arrive as texts and are kept once they are known;
durations and usages are numbers that are only copied, and are left out.
-/

namespace TurningGood.Browser

open TurningGood.MultiAgent (RunStatus Strategy)

/-! ## Texts that arrive -/

/-- What `trim` removes from the ends of a text. -/
def isTrimmed (char : Char) : Bool :=
  let code := char.toNat
  (9 ≤ code && code ≤ 13) || code == 32 || code == 0xA0 ||
    code == 0x1680 || (0x2000 ≤ code && code ≤ 0x200A) ||
    code == 0x2028 || code == 0x2029 || code == 0x202F ||
    code == 0x205F || code == 0x3000 || code == 0xFEFF

/-- `textOrNull`; what is no text arrives as nothing. -/
def textOrNull (value : Option String) : Option String :=
  value.filter fun text => text.toList.any (!isTrimmed ·)

/-- `runStatuses.has`. -/
def runStatus? (value : Option String) : Option RunStatus :=
  match value with
  | some "queued" => some .queued
  | some "running" => some .running
  | some "waiting" => some .waiting
  | some "completed" => some .completed
  | some "failed" => some .failed
  | some "timed_out" => some .timedOut
  | some "cancelled" => some .cancelled
  | some "interrupted" => some .interrupted
  | _ => none

/-- `nodeStatuses.has`. -/
def nodeStatus? (value : Option String) : Option RunStatus :=
  (runStatus? value).filter (· ≠ .waiting)

/-- `strategies.has`. -/
def strategy? (value : Option String) : Option Strategy :=
  match value with
  | some "fan_out_fan_in" => some .fanOutFanIn
  | some "pipeline" => some .pipeline
  | _ => none

/-- A text that counts as true. -/
def truthy (value : Option String) : Option String := value.filter (· ≠ "")

theorem truthy_eq_some {value : Option String} {text : String} :
    truthy value = some text ↔ value = some text ∧ text ≠ "" := by
  simp [truthy, Option.filter_eq_some_iff]

theorem truthy_of_ne {text : String} (present : text ≠ "") :
    truthy (some text) = some text :=
  truthy_eq_some.mpr ⟨rfl, present⟩

@[simp]
theorem truthy_none : truthy none = none := rfl

@[simp]
theorem truthy_empty : truthy (some "") = none := rfl

@[simp]
theorem runStatus?_text (status : RunStatus) :
    runStatus? (some status.text) = some status := by
  cases status <;> rfl

@[simp]
theorem strategy?_text (strategy : Strategy) :
    strategy? (some strategy.text) = some strategy := by
  cases strategy <;> rfl

theorem nodeStatus?_text {status : RunStatus} (notWaiting : status ≠ .waiting) :
    nodeStatus? (some status.text) = some status := by
  simp [nodeStatus?, notWaiting]

/-- `MultiAgentNodeView`. -/
structure MultiAgentNodeView where
  nodeId : String
  role : String
  status : RunStatus
  content : Option String
  errorCode : Option String
  error : Option String
  deriving DecidableEq, Repr

/-- `MultiAgentRunSummary`. -/
structure MultiAgentRunSummary where
  runId : String
  parentRequestId : Option String
  strategy : Strategy
  status : RunStatus
  isPartial : Bool
  nodes : List MultiAgentNodeView
  errorCode : Option String
  error : Option String
  deriving DecidableEq, Repr

/-- `MULTI_AGENT_EVENT_TYPES`, by what the view does with them. -/
inductive MultiAgentEventType where
  | runStarted
  | nodeUpdated
  | runCompleted
  | runFailed
  | runCancelled
  deriving DecidableEq, Repr

/-- `MultiAgentEventPayload`, as far as its fields are texts. -/
structure MultiAgentEventPayload where
  runId : Option String := none
  nodeId : Option String := none
  taskLabel : Option String := none
  strategy : Option String := none
  status : Option String := none
  errorCode : Option String := none
  error : Option String := none
  deriving DecidableEq, Repr

/-- `MultiAgentEvent`. -/
structure MultiAgentEvent where
  type : MultiAgentEventType
  payload : MultiAgentEventPayload
  deriving DecidableEq, Repr

/-- `isFanoutPartial`. -/
def isFanoutPartial (run : MultiAgentRunSummary) : Bool :=
  run.strategy == .fanOutFanIn && run.nodes.any (·.status == .completed) &&
    run.nodes.any fun node =>
      node.status.isTerminal && node.status != .completed

/-! ## Building a view from events -/

/-- `isSafePayload`, with the run and the strategy that it finds. -/
def safePayload? (payload : MultiAgentEventPayload) :
    Option (String × Strategy) :=
  (truthy payload.runId).bind fun runId =>
    (strategy? payload.strategy).map fun strategy => (runId, strategy)

/-- `createRun`. -/
def createRun (runId : String) (strategy : Strategy)
    (payload : MultiAgentEventPayload) : MultiAgentRunSummary where
  runId
  parentRequestId := none
  strategy
  status := (runStatus? payload.status).getD .queued
  isPartial := false
  nodes := []
  errorCode := textOrNull payload.errorCode
  error := textOrNull payload.error

/-- The locals of `buildMultiAgentRunView`. -/
structure ViewBuilder where
  run : Option MultiAgentRunSummary := none
  terminalNodes : List String := []
  runTerminal : Bool := false
  deriving DecidableEq, Repr

/-- The view of a node that an event reports. -/
def reportedNode (nodeId : String) (status : RunStatus)
    (payload : MultiAgentEventPayload) : MultiAgentNodeView where
  nodeId
  role := (textOrNull payload.taskLabel).getD nodeId
  status
  content := none
  errorCode := textOrNull payload.errorCode
  error := textOrNull payload.error

/-- Put a node in its place, or behind the others. -/
def putNode (nodes : List MultiAgentNodeView) (node : MultiAgentNodeView) :
    List MultiAgentNodeView :=
  match nodes.findIdx? (·.nodeId = node.nodeId) with
  | none => nodes ++ [node]
  | some index =>
    nodes.modify index fun earlier =>
      { node with content := earlier.content }

namespace ViewBuilder

/-- `updateNode`. -/
def updateNode (builder : ViewBuilder) (run : MultiAgentRunSummary)
    (payload : MultiAgentEventPayload) : ViewBuilder :=
  match truthy payload.nodeId, nodeStatus? payload.status with
  | some nodeId, some status =>
    if nodeId ∈ builder.terminalNodes then
      { builder with run := some run }
    else
      { builder with
        run := some { run with
          nodes := putNode run.nodes (reportedNode nodeId status payload) }
        terminalNodes :=
          if status.isTerminal then
            nodeId :: builder.terminalNodes
          else
            builder.terminalNodes }
  | _, _ => { builder with run := some run }

/-- What an event of the run itself changes. -/
def updateRun (builder : ViewBuilder) (run : MultiAgentRunSummary)
    (payload : MultiAgentEventPayload) : ViewBuilder :=
  match builder.runTerminal, runStatus? payload.status with
  | false, some status =>
    let updated :=
      { run with
        status
        errorCode := textOrNull payload.errorCode
        error := textOrNull payload.error }
    { builder with
      run := some { updated with isPartial := isFanoutPartial updated }
      runTerminal := status.isTerminal }
  | _, _ => { builder with run := some run }

/-- One round of the loop of `buildMultiAgentRunView`. -/
def readEvent (builder : ViewBuilder) (event : MultiAgentEvent) :
    ViewBuilder :=
  match safePayload? event.payload with
  | none => builder
  | some (runId, strategy) =>
    let run := builder.run.getD (createRun runId strategy event.payload)
    if runId ≠ run.runId then
      builder
    else if event.type = .nodeUpdated then
      builder.updateNode run event.payload
    else
      builder.updateRun run event.payload

end ViewBuilder

/-- `buildMultiAgentRunView`. -/
def buildMultiAgentRunView (events : List MultiAgentEvent) :
    Option MultiAgentRunSummary :=
  (events.foldl ViewBuilder.readEvent {}).run.map fun run =>
    { run with isPartial := isFanoutPartial run }

/-- `mergeMultiAgentRunView`. -/
def mergeMultiAgentRunView (current : List MultiAgentRunSummary)
    (next : MultiAgentRunSummary) : List MultiAgentRunSummary :=
  match current.findIdx? (·.runId = next.runId) with
  | none => current ++ [next]
  | some index =>
    current.modify index fun previous =>
      if previous.status.isTerminal then previous
      else
        { next with
          parentRequestId := (truthy next.parentRequestId).or previous.parentRequestId }

/-- `mergeAuthoritativeMultiAgentRunView`. -/
def mergeAuthoritativeMultiAgentRunView
    (current : List MultiAgentRunSummary) (next : MultiAgentRunSummary) :
    List MultiAgentRunSummary :=
  match current.findIdx? (·.runId = next.runId) with
  | none => current ++ [next]
  | some index => current.modify index fun _ => next

/-- A node of a summary as it arrives. -/
structure RawNode where
  nodeId : Option String
  role : Option String
  status : Option String
  content : Option String
  errorCode : Option String
  error : Option String
  deriving DecidableEq, Repr

/-- A summary as it arrives. -/
structure RawRun where
  runId : Option String
  parentRequestId : Option String
  strategy : Option String
  status : Option String
  nodes : List RawNode
  errorCode : Option String
  error : Option String
  deriving DecidableEq, Repr

/-- `normalizeNode`. -/
def normalizeNode (value : RawNode) : Option MultiAgentNodeView :=
  (truthy value.nodeId).bind fun nodeId =>
    (nodeStatus? value.status).map fun status =>
      { nodeId
        role := (textOrNull value.role).getD nodeId
        status
        content := textOrNull value.content
        errorCode := textOrNull value.errorCode
        error := textOrNull value.error }

/-- `normalizeMultiAgentRunSummary`. -/
def normalizeMultiAgentRunSummary (value : RawRun) :
    Option MultiAgentRunSummary :=
  (truthy value.runId).bind fun runId =>
    (strategy? value.strategy).bind fun strategy =>
      (runStatus? value.status).map fun status =>
        let run : MultiAgentRunSummary :=
          { runId
            parentRequestId := textOrNull value.parentRequestId
            strategy
            status
            isPartial := false
            nodes := value.nodes.filterMap normalizeNode
            errorCode := textOrNull value.errorCode
            error := textOrNull value.error }
        { run with isPartial := isFanoutPartial run }

end TurningGood.Browser
