import TurningGood.Foundation.Dict
import TurningGood.Foundation.Text

/-!
# Multi-agent events and the runs read from them

A run of workers is reported by events, each of which becomes a row of the
trace of its session.  The view of a run is read from the rows: the first
terminal event of a run decides its status, and later ones are ignored.

Durations are numbers that are only copied, and the usage of a run is added
to its view from another file; both are left out.
-/

namespace TurningGood.MultiAgent

open TurningGood.Foundation

variable {later : List String}

/-! ## Runs and their events -/

/-- `RUN_STATUSES`. -/
inductive RunStatus where
  | queued
  | running
  | waiting
  | completed
  | failed
  | timedOut
  | cancelled
  | interrupted
  deriving DecidableEq, Repr

namespace RunStatus

/-- The text of a status. -/
def text : RunStatus → String
  | queued => "queued"
  | running => "running"
  | waiting => "waiting"
  | completed => "completed"
  | failed => "failed"
  | timedOut => "timed_out"
  | cancelled => "cancelled"
  | interrupted => "interrupted"

/-- The terminal statuses, of a run and of a node. -/
def isTerminal : RunStatus → Bool
  | queued | running | waiting => false
  | completed | failed | timedOut | cancelled | interrupted => true

end RunStatus

/-- The type of the event that reports a started run. -/
def runStarted : String := "multi_agent.run.started"

/-- `_NODE_UPDATED_EVENT`. -/
def nodeUpdated : String := "multi_agent.node.updated"

/-- `run_terminal_events`. -/
def runTerminalEvents : List String :=
  ["multi_agent.run.completed", "multi_agent.run.failed",
    "multi_agent.run.cancelled"]

/-- `MULTI_AGENT_EVENT_TYPES`. -/
def multiAgentEventTypes : List String :=
  runStarted :: nodeUpdated :: runTerminalEvents

/-- `_RUN_EVENT_BY_STATUS`. -/
def runEventByStatus : RunStatus → String
  | .queued | .running | .waiting => runStarted
  | .completed => "multi_agent.run.completed"
  | .failed | .timedOut | .interrupted => "multi_agent.run.failed"
  | .cancelled => "multi_agent.run.cancelled"

/-- `Strategy`. -/
inductive Strategy where
  | fanOutFanIn
  | pipeline
  deriving DecidableEq, Repr

/-- The value of a strategy. -/
def Strategy.text : Strategy → String
  | fanOutFanIn => "fan_out_fan_in"
  | pipeline => "pipeline"

/-- `MultiAgentNode` with the content of its result. -/
structure MultiAgentNode where
  nodeId : String
  role : String
  status : RunStatus
  content : Option String := none
  error : Option String := none
  errorCode : Option String := none
  deriving DecidableEq, Repr

/-- `MultiAgentRun`. -/
structure MultiAgentRun where
  runId : String
  parentRequestId : String
  strategy : Strategy
  status : RunStatus
  nodes : List MultiAgentNode
  error : Option String := none
  errorCode : Option String := none
  deriving DecidableEq, Repr

/-- The metadata of a trace row, as far as its fields are texts. -/
structure EventMetadata where
  runId : Option String := none
  parentRequestId : Option String := none
  nodeId : Option String := none
  taskLabel : Option String := none
  strategy : Option String := none
  status : Option String := none
  errorCode : Option String := none
  error : Option String := none
  content : Option String := none
  deriving DecidableEq, Repr

/-- A row of the trace of a session. -/
structure TraceRow where
  state : String
  event : String
  metadata : Option EventMetadata
  deriving DecidableEq, Repr

/-- How the texts of an event are made safe. -/
structure EventFilter where
  safeTaskLabel : String → String
  safeError : String → String

section Payload

variable (filter : EventFilter)

/-- The row of an event without a node. -/
def runRow (run : MultiAgentRun) (eventType : String) : TraceRow where
  state := "MULTI_AGENT"
  event := eventType
  metadata := some {
    runId := run.runId
    parentRequestId := run.parentRequestId
    taskLabel := filter.safeTaskLabel "multi_agent"
    strategy := run.strategy.text
    status := run.status.text
    errorCode := run.errorCode
    error := (run.error.filter (· ≠ "")).map filter.safeError }

/-- The row of a node event. -/
def nodeRow (run : MultiAgentRun) (node : MultiAgentNode) : TraceRow where
  state := "MULTI_AGENT"
  event := nodeUpdated
  metadata := some {
    runId := run.runId
    parentRequestId := run.parentRequestId
    nodeId := node.nodeId
    taskLabel := filter.safeTaskLabel node.role
    strategy := run.strategy.text
    status := node.status.text
    errorCode := node.errorCode
    error := (node.error.filter (· ≠ "")).map filter.safeError
    content :=
      if node.status = .completed then node.content else none }

end Payload

/-! ## Reading the runs -/

/-- The view of a node. -/
structure NodeView where
  nodeId : String
  role : String
  status : String
  content : Option String
  errorCode : Option String
  error : Option String
  deriving DecidableEq, Repr

/-- The view of a run. -/
structure RunView where
  runId : String
  status : String
  strategy : String
  nodes : List NodeView
  errorCode : Option String
  error : Option String
  parentRequestId : Option String
  deriving DecidableEq, Repr

/-- The locals of `read_multi_agent_runs`. -/
structure RunsReader where
  runs : Dict String RunView
  terminalRuns : List String
  terminalNodes : List (String × String)
  deriving DecidableEq

/-- The texts of the terminal statuses. -/
def terminalStatuses : List String :=
  ["completed", "failed", "timed_out", "cancelled", "interrupted"]

/-- `isinstance(value, str) and value`. -/
def nonempty (value : Option String) : Option String :=
  value.filter (· ≠ "")

/-- The view of a run that is seen for the first time. -/
def newRunView (runId : String) (metadata : EventMetadata) : RunView where
  runId := runId
  status := "queued"
  strategy := metadata.strategy.getD ""
  nodes := []
  errorCode := none
  error := none
  parentRequestId := nonempty metadata.parentRequestId

namespace RunView

variable (view : RunView) (metadata : EventMetadata)

/-- What a started event changes. -/
def readStarted : RunView :=
  { view with
    status := (nonempty metadata.status).getD view.status
    strategy := metadata.strategy.getD view.strategy }

/-- What a terminal event changes. -/
def readTerminal : RunView :=
  { view with
    status := (nonempty metadata.status).getD view.status
    errorCode := metadata.errorCode
    error := metadata.error }

/-- What a node event changes in the view of its node. -/
def readNodeView (node : NodeView) : NodeView :=
  { node with
    status := (nonempty metadata.status).getD node.status
    role := metadata.taskLabel.getD node.role
    content := metadata.content <|> node.content
    errorCode := metadata.errorCode <|> node.errorCode
    error := (metadata.error.map fun error =>
      String.ofList (error.toList.take 256)) <|> node.error }

/-- What a node event changes. -/
def readNode (nodeId : String) : RunView :=
  let nodes :=
    if view.nodes.any (·.nodeId = nodeId) then
      view.nodes
    else
      view.nodes ++ [{
        nodeId
        role := metadata.taskLabel.getD nodeId
        status := "queued"
        content := none
        errorCode := none
        error := none }]
  { view with
    nodes := nodes.map fun node =>
      if node.nodeId = nodeId then readNodeView metadata node else node }

end RunView

namespace RunsReader

variable (reader : RunsReader)

/-- Put the view of a run back. -/
def putRun (runId : String) (view : RunView) : RunsReader :=
  { reader with runs := reader.runs.insert runId view }

/-- A started event, which a terminal run ignores. -/
def readStarted (runId : String) (view : RunView)
    (metadata : EventMetadata) : RunsReader :=
  if runId ∈ reader.terminalRuns then
    reader.putRun runId view
  else
    reader.putRun runId (view.readStarted metadata)

/-- A node event, which a terminal node ignores. -/
def readNode (runId : String) (view : RunView)
    (metadata : EventMetadata) : RunsReader :=
  match nonempty metadata.nodeId with
  | none => reader.putRun runId view
  | some nodeId =>
    if (runId, nodeId) ∈ reader.terminalNodes then
      reader.putRun runId view
    else
      { reader.putRun runId (view.readNode metadata nodeId) with
        terminalNodes :=
          if metadata.status.any (terminalStatuses.contains ·) then
            (runId, nodeId) :: reader.terminalNodes
          else
            reader.terminalNodes }

/-- A terminal event; only the first one of a run counts. -/
def readTerminal (runId : String) (view : RunView)
    (metadata : EventMetadata) : RunsReader :=
  if runId ∉ reader.terminalRuns ∧
      metadata.status.any (terminalStatuses.contains ·) then
    { reader.putRun runId (view.readTerminal metadata) with
      terminalRuns := runId :: reader.terminalRuns }
  else
    reader.putRun runId view

/-- The fields of a row that reports an event of a run. -/
def eventOf (row : TraceRow) : Option (String × EventMetadata) :=
  if row.state = "MULTI_AGENT" ∧ row.event ∈ multiAgentEventTypes then
    row.metadata.bind fun metadata =>
      (nonempty metadata.runId).map fun runId => (runId, metadata)
  else
    none

/-- One round of the loop of `read_multi_agent_runs`. -/
def readRow (row : TraceRow) : RunsReader :=
  match eventOf row with
  | none => reader
  | some (runId, metadata) =>
    let view := (reader.runs.get? runId).getD (newRunView runId metadata)
    if row.event = runStarted then
      reader.readStarted runId view metadata
    else if row.event = nodeUpdated then
      reader.readNode runId view metadata
    else
      reader.readTerminal runId view metadata

end RunsReader

/-- The locals after all rows. -/
def readRows (rows : List TraceRow) : RunsReader :=
  rows.foldl RunsReader.readRow
    { runs := Dict.empty, terminalRuns := [], terminalNodes := [] }

/-- `read_multi_agent_runs`. -/
def readMultiAgentRuns (rows : List TraceRow) (limit : Option Int) :
    List RunView :=
  match limit with
  | none => (readRows rows).runs.values
  | some limit =>
    if limit ≤ 0 then
      []
    else
      Text.lastItems limit.toNat (readRows rows).runs.values

/-! ## The status that is read -/

/-- The status with which a row ends a run, for the reader. -/
def terminalStatusOf (runId : String) (row : TraceRow) : Option String :=
  match RunsReader.eventOf row with
  | none => none
  | some (owner, metadata) =>
    if owner = runId ∧ row.event ∈ runTerminalEvents then
      metadata.status.filter (terminalStatuses.contains ·)
    else
      none

/-- The statuses with which the rows end a run. -/
def terminalEventsOf (runId : String) (rows : List TraceRow) :
    List String :=
  rows.filterMap (terminalStatusOf runId)

@[simp]
theorem terminalEventsOf_append (runId : String) (front back : List TraceRow) :
    terminalEventsOf runId (front ++ back) =
      terminalEventsOf runId front ++ terminalEventsOf runId back :=
  List.filterMap_append

variable {event : String}

theorem ne_runStarted_of_terminal (terminal : event ∈ runTerminalEvents) :
    event ≠ runStarted := by
  rintro rfl
  exact absurd terminal (by decide)

theorem ne_nodeUpdated_of_terminal (terminal : event ∈ runTerminalEvents) :
    event ≠ nodeUpdated := by
  rintro rfl
  exact absurd terminal (by decide)

theorem mem_runTerminalEvents (known : event ∈ multiAgentEventTypes)
    (notStarted : event ≠ runStarted) (notNode : event ≠ nodeUpdated) :
    event ∈ runTerminalEvents := by
  rw [multiAgentEventTypes, List.mem_cons, List.mem_cons] at known
  rcases known with started | node | terminal
  · exact absurd started notStarted
  · exact absurd node notNode
  · exact terminal

theorem nonempty_of_terminal {status : String}
    (terminal : terminalStatuses.contains status = true) :
    nonempty (some status) = some status := by
  have present : status ≠ "" := by
    rintro rfl
    exact absurd terminal (by decide)
  simp [nonempty, present]

variable {runId : String}

theorem terminalStatusOf_eq_none {row : TraceRow} (notTerminal : row.event ∉ runTerminalEvents) :
    terminalStatusOf runId row = none := by
  rw [terminalStatusOf]
  cases RunsReader.eventOf row with
  | none => rfl
  | some found => exact if_neg fun ended => notTerminal ended.2

section Rows

variable (filter : EventFilter)

theorem runEventByStatus_known (status : RunStatus) :
    runEventByStatus status ∈ multiAgentEventTypes := by
  cases status <;> decide

theorem runEventByStatus_terminal (status : RunStatus) :
    runEventByStatus status ∈ runTerminalEvents ↔
      status.isTerminal = true := by
  cases status <;> decide

theorem terminalStatuses_text (status : RunStatus) :
    terminalStatuses.contains status.text = status.isTerminal := by
  cases status <;> decide

theorem terminalStatusOf_runRow
    {run : MultiAgentRun} (named : run.runId ≠ "") :
    terminalStatusOf run.runId (runRow filter run (runEventByStatus run.status)) =
      if run.status.isTerminal then some run.status.text else none := by
  have event : RunsReader.eventOf
      (runRow filter run (runEventByStatus run.status)) =
        (runRow filter run (runEventByStatus run.status)).metadata.map
          fun metadata => (run.runId, metadata) := by
    rw [RunsReader.eventOf]
    simp only [runRow, runEventByStatus_known, and_self, if_true]
    simp [nonempty, named]
  rw [terminalStatusOf, event]
  simp only [runRow, Option.map_some, runEventByStatus_terminal, true_and,
    Option.filter_some, terminalStatuses_text]
  split_ifs <;> rfl

theorem terminalStatusOf_nodeRow (runId : String) (run : MultiAgentRun) (node : MultiAgentNode) :
    terminalStatusOf runId (nodeRow filter run node) = none :=
  terminalStatusOf_eq_none fun terminal =>
    ne_nodeUpdated_of_terminal terminal rfl

end Rows

/-! ## What a row does to the reader -/

namespace RunsReader

variable {reader : RunsReader} {row : TraceRow}

/-- The view that an event of a run is read into. -/
def viewFor (reader : RunsReader) (runId : String)
    (metadata : EventMetadata) : RunView :=
  (reader.runs.get? runId).getD (newRunView runId metadata)

/-- What a row does when it does not end its run, or the run has ended. -/
structure Keeps (reader target : RunsReader) (row : TraceRow)
    (runId : String) (before after : RunView) : Prop where
  runs : target.runs = reader.runs.insert runId after
  named : after.runId = before.runId
  terminalRuns : target.terminalRuns = reader.terminalRuns
  status : runId ∈ reader.terminalRuns → after.status = before.status
  late : terminalStatusOf runId row ≠ none → runId ∈ reader.terminalRuns

/-- What a row does when it is the first to end its run. -/
structure Ends (reader target : RunsReader) (row : TraceRow)
    (runId : String) (before after : RunView) : Prop where
  runs : target.runs = reader.runs.insert runId after
  named : after.runId = before.runId
  first : runId ∉ reader.terminalRuns
  terminalRuns : target.terminalRuns = runId :: reader.terminalRuns
  status : terminalStatusOf runId row = some after.status

variable {runId : String}

theorem keeps_putRun {view : RunView} (late : terminalStatusOf runId row ≠ none →
      runId ∈ reader.terminalRuns) :
    Keeps reader (reader.putRun runId view) row runId view view where
  runs := rfl
  named := rfl
  terminalRuns := rfl
  status := fun _ => rfl
  late := late

theorem readRow_of_none (noEvent : eventOf row = none) :
    reader.readRow row = reader := by
  rw [readRow, noEvent]

theorem known_of_eventOf {found : String × EventMetadata}
    (event : eventOf row = some found) : row.event ∈ multiAgentEventTypes := by
  rw [eventOf] at event
  split_ifs at event with known
  exact known.2

theorem readStarted_keeps (view : RunView) (metadata : EventMetadata)
    (started : row.event = runStarted) :
    ∃ after, Keeps reader (reader.readStarted runId view metadata)
        row runId view after := by
  have notTerminal : terminalStatusOf runId row = none :=
    terminalStatusOf_eq_none fun terminal =>
      ne_runStarted_of_terminal terminal started
  rw [readStarted]
  split_ifs with before
  · exact ⟨view, keeps_putRun fun ended => absurd notTerminal ended⟩
  · exact ⟨view.readStarted metadata, rfl, rfl, rfl, fun ended => absurd ended before,
      fun ended => absurd notTerminal ended⟩

theorem readNode_keeps (view : RunView) (metadata : EventMetadata)
    (node : row.event = nodeUpdated) :
    ∃ after, Keeps reader (reader.readNode runId view metadata)
        row runId view after := by
  have late : terminalStatusOf runId row ≠ none →
      runId ∈ reader.terminalRuns := fun ended =>
    absurd (terminalStatusOf_eq_none fun terminal =>
      ne_nodeUpdated_of_terminal terminal node) ended
  rw [readNode]
  cases nonempty metadata.nodeId with
  | none => exact ⟨view, keeps_putRun late⟩
  | some nodeId =>
    dsimp only
    split_ifs with before
    · exact ⟨view, keeps_putRun late⟩
    all_goals
      exact ⟨view.readNode metadata nodeId, rfl, rfl, rfl, fun _ => rfl, late⟩

variable {metadata : EventMetadata}

theorem readTerminal_reads (view : RunView) (event : eventOf row = some (runId, metadata))
    (terminal : row.event ∈ runTerminalEvents) :
    ∃ after, Keeps reader (reader.readTerminal runId view metadata) row runId view after ∨
        Ends reader (reader.readTerminal runId view metadata)
          row runId view after := by
  have ends : terminalStatusOf runId row =
      metadata.status.filter (terminalStatuses.contains ·) := by
    rw [terminalStatusOf, event]
    exact if_pos ⟨rfl, terminal⟩
  rw [readTerminal]
  split_ifs with first
  · rcases first with ⟨first, known⟩
    obtain ⟨status, present, known⟩ := (Option.any_eq_true _ _).mp known
    refine ⟨view.readTerminal metadata, .inr ⟨rfl, rfl, first, rfl, ?_⟩⟩
    rw [ends, present, RunView.readTerminal]
    dsimp only
    rw [present, nonempty_of_terminal known, Option.getD_some]
    exact Option.filter_some_pos known
  · refine ⟨view, .inl (keeps_putRun fun ended => ?_)⟩
    by_contra before
    apply ended
    rw [ends, Option.filter_eq_none_iff]
    intro status present known
    exact first
      ⟨before, (Option.any_eq_true _ _).mpr ⟨status, present, known⟩⟩

theorem readRow_reads (reader : RunsReader) (event : eventOf row = some (runId, metadata)) :
    ∃ after, Keeps reader (reader.readRow row) row runId (reader.viewFor runId metadata) after ∨
        Ends reader (reader.readRow row) row runId (reader.viewFor runId metadata) after := by
  have unfolded : reader.readRow row =
      if row.event = runStarted then
        reader.readStarted runId (reader.viewFor runId metadata) metadata
      else if row.event = nodeUpdated then
        reader.readNode runId (reader.viewFor runId metadata) metadata
      else
        reader.readTerminal runId (reader.viewFor runId metadata) metadata := by
    rw [readRow, event]
    rfl
  rw [unfolded]
  split_ifs with started node
  · rcases readStarted_keeps _ metadata started with ⟨after, keeps⟩
    exact ⟨after, .inl keeps⟩
  · rcases readNode_keeps _ metadata node with ⟨after, keeps⟩
    exact ⟨after, .inl keeps⟩
  · exact readTerminal_reads _ event (mem_runTerminalEvents (known_of_eventOf event) started node)

/-- Every view is kept under the name of its run. -/
def Keyed (reader : RunsReader) : Prop :=
  ∀ runId view, reader.runs.get? runId = some view → view.runId = runId

/-- A run that has not ended for the reader. -/
def Open (reader : RunsReader) (runId : String) : Prop :=
  runId ∉ reader.terminalRuns

/-- The reader has seen the end of a run and keeps its status. -/
structure Decided
    (reader : RunsReader) (runId status : String) : Prop where
  terminal : runId ∈ reader.terminalRuns
  viewed :
    ∃ view, reader.runs.get? runId = some view ∧ view.status = status

theorem Keyed.viewFor (keyed : reader.Keyed) (runId : String) (metadata : EventMetadata) :
    (reader.viewFor runId metadata).runId = runId := by
  rw [RunsReader.viewFor]
  cases present : reader.runs.get? runId with
  | none => rfl
  | some view => exact keyed runId view present

theorem Keyed.insert {target : RunsReader} (keyed : reader.Keyed)
    {view : RunView} (named : view.runId = runId)
    (runs : target.runs = reader.runs.insert runId view) : target.Keyed := by
  intro query found present
  rw [runs, Dict.get?_insert] at present
  split_ifs at present with same
  · cases present
    exact named.trans same.symm
  · exact keyed query found present

theorem Keyed.readRow (keyed : reader.Keyed) (row : TraceRow) : (reader.readRow row).Keyed := by
  cases event : eventOf row with
  | none =>
    rw [readRow_of_none event]
    exact keyed
  | some found =>
    rcases readRow_reads reader event with ⟨after, keeps | ends⟩
    · exact keyed.insert (keeps.named.trans (keyed.viewFor _ _)) keeps.runs
    · exact keyed.insert (ends.named.trans (keyed.viewFor _ _)) ends.runs

theorem terminalStatusOf_of_ne {other : String}
    (event : eventOf row = some (other, metadata)) (ne : other ≠ runId) :
    terminalStatusOf runId row = none := by
  rw [terminalStatusOf, event]
  exact if_neg fun ended => ne ended.1

theorem Decided.readRow {status : String} (decided : reader.Decided runId status) (row : TraceRow) :
    (reader.readRow row).Decided runId status := by
  cases event : eventOf row with
  | none =>
    rw [readRow_of_none event]
    exact decided
  | some found =>
    rcases decided with ⟨terminal, view, present, status⟩
    rcases readRow_reads reader event with ⟨after, keeps | ends⟩
    · refine ⟨keeps.terminalRuns ▸ terminal, ?_⟩
      rw [keeps.runs, Dict.get?_insert]
      split_ifs with same
      · refine ⟨after, rfl, ?_⟩
        have before : reader.viewFor found.1 found.2 = view := by
          rw [viewFor, ← same, present, Option.getD_some]
        rw [keeps.status (same ▸ terminal), before, status]
      · exact ⟨view, present, status⟩
    · have other : runId ≠ found.1 := by
        rintro rfl
        exact ends.first terminal
      refine ⟨ends.terminalRuns ▸ List.mem_cons_of_mem _ terminal, ?_⟩
      rw [ends.runs, Dict.get?_insert_of_ne _ _ other]
      exact ⟨view, present, status⟩

theorem Open.readRow (unended : reader.Open runId) (noEnd : terminalStatusOf runId row = none) :
    (reader.readRow row).Open runId := by
  cases event : eventOf row with
  | none =>
    rw [readRow_of_none event]
    exact unended
  | some found =>
    rcases readRow_reads reader event with ⟨after, keeps | ends⟩
    · rw [Open, keeps.terminalRuns]
      exact unended
    · rw [Open, ends.terminalRuns, List.mem_cons]
      rintro (same | before)
      · have ended := ends.status
        rw [← same, noEnd] at ended
        cases ended
      · exact unended before

theorem Open.decided {status : String} (unended : reader.Open runId)
    (ended : terminalStatusOf runId row = some status) :
    (reader.readRow row).Decided runId status := by
  cases event : eventOf row with
  | none =>
    rw [terminalStatusOf, event] at ended
    cases ended
  | some found =>
    have same : found.1 = runId := by
      by_contra ne
      rw [terminalStatusOf_of_ne event ne] at ended
      cases ended
    rcases readRow_reads reader event with ⟨after, keeps | ends⟩
    · refine absurd (keeps.late ?_) (same ▸ unended)
      rw [same, ended]
      exact Option.some_ne_none status
    · refine ⟨?_, after, ?_, ?_⟩
      · rw [ends.terminalRuns, same]
        exact List.mem_cons_self
      · rw [ends.runs, same, Dict.get?_insert_self]
      · have first := ends.status
        rw [same, ended] at first
        exact (Option.some.inj first).symm

end RunsReader

/-! ## The status of a view -/

variable {reader : RunsReader}

theorem decided_foldl (rows : List TraceRow) {status : String}
    (decided : reader.Decided runId status) :
    (rows.foldl RunsReader.readRow reader).Decided runId status := by
  induction rows generalizing reader with
  | nil => exact decided
  | cons row rest induction => exact induction (decided.readRow row)

theorem keyed_foldl (rows : List TraceRow) (keyed : reader.Keyed) :
    (rows.foldl RunsReader.readRow reader).Keyed := by
  induction rows generalizing reader with
  | nil => exact keyed
  | cons row rest induction => exact induction (keyed.readRow row)

variable {rows : List TraceRow}

theorem foldl_decided {status : String} (unended : reader.Open runId)
    (ends : terminalEventsOf runId rows = status :: later) :
    (rows.foldl RunsReader.readRow reader).Decided runId status := by
  induction rows generalizing reader with
  | nil => cases ends
  | cons row rest induction =>
    cases ended : terminalStatusOf runId row with
    | none =>
      rw [terminalEventsOf, List.filterMap_cons_none ended] at ends
      exact induction (unended.readRow ended) ends
    | some found =>
      rw [terminalEventsOf, List.filterMap_cons_some ended] at ends
      obtain ⟨same, -⟩ := List.cons.inj ends
      exact decided_foldl rest (unended.decided (same ▸ ended))

theorem readRows_decided {status : String} (ends : terminalEventsOf runId rows = status :: later) :
    (readRows rows).Decided runId status :=
  foldl_decided (by simp [RunsReader.Open]) ends

theorem readRows_keyed (rows : List TraceRow) : (readRows rows).Keyed := by
  apply keyed_foldl
  intro runId view present
  rw [Dict.get?_empty] at present
  cases present

theorem readMultiAgentRuns_subset (rows : List TraceRow) (limit : Option Int) :
    readMultiAgentRuns rows limit ⊆ (readRows rows).runs.values := by
  cases limit with
  | none => exact List.Subset.refl _
  | some limit =>
    rw [readMultiAgentRuns]
    split_ifs
    · exact List.nil_subset _
    · exact Text.lastItems_subset _ _

theorem status_of_view {status : String} (ends : terminalEventsOf runId rows = status :: later)
    {limit : Option Int} {view : RunView}
    (member : view ∈ readMultiAgentRuns rows limit)
    (named : view.runId = runId) : view.status = status := by
  have present := readMultiAgentRuns_subset rows limit member
  rw [Dict.mem_values_iff] at present
  rcases present with ⟨key, present⟩
  have same := readRows_keyed rows key view present
  rcases (readRows_decided ends).viewed with ⟨decided, found, agrees⟩
  rw [← named, same, present] at found
  cases found
  exact agrees

theorem view_of_ended {status : String} (ends : terminalEventsOf runId rows = status :: later) :
    ∃ view ∈ readMultiAgentRuns rows none,
      view.runId = runId ∧ view.status = status := by
  rcases (readRows_decided ends).viewed with ⟨view, found, agrees⟩
  refine ⟨view, ?_, readRows_keyed rows runId view found, agrees⟩
  rw [readMultiAgentRuns, Dict.mem_values_iff]
  exact ⟨runId, found⟩

end TurningGood.MultiAgent
