import TurningGood.Browser.MultiAgentView
import TurningGood.MultiAgent.ReportedRun

/-!
# The view that is rebuilt from live events

The browser builds the view of a run from the events that it has received
live.  The first of them creates the view with the status that it reports,
even if that is the status of a node; of the later ones the events of the run
decide its status, and the events of a node the status of that node.
-/

namespace TurningGood.Browser

open TurningGood.Foundation
open TurningGood.MultiAgent (RunStatus Strategy MultiAgentNode RunIdentity
  Report EventFilter EventMetadata runStatuses nodeStatuses decided settle
  runStarted nodeUpdated)

variable {reports : List Report}

/-! ## The events of the reports -/

/-- The type of the event that reports a status of the run. -/
def runEventType : RunStatus → MultiAgentEventType
  | .queued | .running | .waiting => .runStarted
  | .completed => .runCompleted
  | .failed | .timedOut | .interrupted => .runFailed
  | .cancelled => .runCancelled

/-- The type of the event of a report. -/
def reportType : Report → MultiAgentEventType
  | .run status _ _ => runEventType status
  | .node _ => .nodeUpdated

/-- The texts of the types. -/
def MultiAgentEventType.text : MultiAgentEventType → String
  | runStarted => MultiAgent.runStarted
  | nodeUpdated => MultiAgent.nodeUpdated
  | runCompleted => "multi_agent.run.completed"
  | runFailed => "multi_agent.run.failed"
  | runCancelled => "multi_agent.run.cancelled"

/-- `MULTI_AGENT_LIVE_EVENT_FIELDS` of the metadata of a row. -/
def livePayload (metadata : EventMetadata) : MultiAgentEventPayload where
  runId := metadata.runId
  nodeId := metadata.nodeId
  taskLabel := metadata.taskLabel
  strategy := metadata.strategy
  status := metadata.status
  errorCode := metadata.errorCode
  error := metadata.error

section Events

variable (filter : EventFilter) (identity : RunIdentity)

/-- The event of a report. -/
def reportEvent (report : Report) : MultiAgentEvent where
  type := reportType report
  payload := livePayload (report.metadata filter identity)

theorem safePayload?_report (report : Report) :
    safePayload? (reportEvent filter identity report).payload =
      some (identity.runId, identity.strategy) := by
  have named := truthy_of_ne identity.named
  cases report <;> simp [safePayload?, reportEvent, livePayload, Report.metadata, named]

theorem runStatus?_report (report : Report) :
    runStatus? (reportEvent filter identity report).payload.status =
      some report.status := by
  cases report <;> simp [reportEvent, livePayload, Report.metadata, Report.status]

end Events

/-- The status that some nodes show for one of them. -/
def nodeStatusIn (nodes : List MultiAgentNodeView) (nodeId : String) :
    Option RunStatus :=
  (nodes.find? (·.nodeId = nodeId)).map MultiAgentNodeView.status

theorem putNode_nil (node : MultiAgentNodeView) : putNode [] node = [node] := rfl

theorem putNode_cons (first : MultiAgentNodeView)
    (rest : List MultiAgentNodeView) (node : MultiAgentNodeView) :
    putNode (first :: rest) node =
      if first.nodeId = node.nodeId then
        { node with content := first.content } :: rest
      else
        first :: putNode rest node := by
  rw [putNode, List.findIdx?_cons]
  by_cases same : first.nodeId = node.nodeId
  · simp [same]
  · simp only [same, decide_false, Bool.false_eq_true, if_false, putNode]
    cases rest.findIdx? (·.nodeId = node.nodeId) with
    | none => rfl
    | some index => rfl

theorem nodeStatusIn_putNode (nodes : List MultiAgentNodeView)
    (node : MultiAgentNodeView) (query : String) :
    nodeStatusIn (putNode nodes node) query =
      if query = node.nodeId then some node.status
      else nodeStatusIn nodes query := by
  induction nodes with
  | nil =>
    rw [putNode_nil, nodeStatusIn, List.find?_singleton]
    by_cases own : query = node.nodeId
    · simp [own]
    · simp [own, Ne.symm own, nodeStatusIn]
  | cons first rest induction =>
    simp only [nodeStatusIn] at induction ⊢
    rw [putNode_cons]
    by_cases same : first.nodeId = node.nodeId
    · rw [if_pos same, List.find?_cons, List.find?_cons, same]
      by_cases own : query = node.nodeId
      · simp [own]
      · simp [own, Ne.symm own]
    · rw [if_neg same, List.find?_cons, List.find?_cons]
      by_cases found : first.nodeId = query
      · have other : query ≠ node.nodeId := found ▸ same
        simp [found, other]
      · simp only [found, decide_false, induction]

/-! ## The rebuilt view -/

/-- The status that a view rebuilt from some events shows. -/
def rebuiltStatus : List Report → RunStatus
  | [] => .queued
  | first :: rest =>
    (decided (runStatuses (first :: rest))).getD first.status

theorem rebuiltStatus_of_ne_nil (some_ : reports ≠ []) : rebuiltStatus reports =
      (decided (runStatuses reports)).getD (reports.head some_).status := by
  cases reports with
  | nil => exact absurd rfl some_
  | cons first rest => rfl

/-- What a summary shows of the events that it was rebuilt from. -/
structure Rebuilt (identity : RunIdentity) (reports : List Report)
    (summary : MultiAgentRunSummary) : Prop where
  runId : summary.runId = identity.runId
  status : summary.status = rebuiltStatus reports
  nodes : ∀ nodeId, nodeStatusIn summary.nodes nodeId = decided (nodeStatuses nodeId reports)

/-- What the builder knows after some events. -/
structure Building (identity : RunIdentity) (reports : List Report)
    (builder : ViewBuilder) : Prop where
  run : reports ≠ [] → ∃ summary, builder.run = some summary ∧ Rebuilt identity reports summary
  fresh : reports = [] → builder.run = none
  ended : builder.runTerminal = (decided (runStatuses reports)).any RunStatus.isTerminal
  stopped : ∀ nodeId, nodeId ∈ builder.terminalNodes ↔
    (decided (nodeStatuses nodeId reports)).any RunStatus.isTerminal = true

section Building

variable {filter : EventFilter} {identity : RunIdentity}
  {reports : List Report} {builder : ViewBuilder}

variable (filter) in
/-- The view that the next event is read into. -/
theorem Building.current (building : Building identity reports builder) (report : Report) :
    ∃ summary, builder.run.getD (createRun identity.runId identity.strategy
        (reportEvent filter identity report).payload) = summary ∧
      summary.runId = identity.runId ∧
      summary.status = (decided (runStatuses reports)).getD
        ((reports ++ [report]).head (by simp)).status ∧
      ∀ nodeId, nodeStatusIn summary.nodes nodeId =
        decided (nodeStatuses nodeId reports) := by
  cases reports with
  | nil =>
    rw [building.fresh rfl, Option.getD_none]
    refine ⟨_, rfl, rfl, ?_, fun nodeId => rfl⟩
    simp only [createRun, runStatus?_report, Option.getD_some]
    rfl
  | cons first rest =>
    rcases building.run (List.cons_ne_nil _ _) with ⟨summary, present, rebuilt⟩
    rw [present, Option.getD_some]
    exact ⟨summary, rfl, rebuilt.runId, rebuilt.status, rebuilt.nodes⟩

theorem head_append_status (reports : List Report) (report : Report) :
    rebuiltStatus (reports ++ [report]) = (decided (runStatuses (reports ++ [report]))).getD
        ((reports ++ [report]).head (by simp)).status :=
  rebuiltStatus_of_ne_nil (by simp)

theorem Building.readRun (building : Building identity reports builder)
    (status : RunStatus) (error errorCode : Option String) :
    Building identity (reports ++ [.run status error errorCode]) (builder.readEvent
        (reportEvent filter identity (.run status error errorCode))) := by
  rcases building.current filter (.run status error errorCode)
    with ⟨summary, current, named, shown, nodes⟩
  have other : (reportEvent filter identity
      (.run status error errorCode)).type ≠ .nodeUpdated := by
    cases status <;> exact MultiAgentEventType.noConfusion
  have stopped : ∀ nodeId, nodeId ∈ builder.terminalNodes ↔
      (decided (nodeStatuses nodeId (reports ++ [.run status error errorCode]))).any
          RunStatus.isTerminal = true := by
    intro nodeId
    rw [MultiAgent.nodeStatuses_run]
    exact building.stopped nodeId
  have read : builder.readEvent
      (reportEvent filter identity (.run status error errorCode)) =
        builder.updateRun summary (reportEvent filter identity
            (.run status error errorCode)).payload := by
    rw [ViewBuilder.readEvent, safePayload?_report]
    dsimp only
    rw [current, if_neg (not_not_intro named.symm), if_neg other]
  have reported := runStatus?_report filter identity
    (.run status error errorCode)
  rw [read, ViewBuilder.updateRun, reported]
  cases closed : builder.runTerminal with
  | true =>
    have terminal := building.ended.symm.trans closed
    have same := MultiAgent.decided_run_of_terminal terminal status error
      errorCode
    refine ⟨fun _ => ⟨summary, rfl, named, ?_, ?_⟩, ?_, ?_, stopped⟩
    · rw [shown, head_append_status, same]
    · intro nodeId
      rw [nodes, MultiAgent.nodeStatuses_run]
    · intro nothing
      exact absurd nothing (by simp)
    · rw [same, ← building.ended]
      exact closed.symm
  | false =>
    have active := building.ended.symm.trans closed
    have last := MultiAgent.decided_run_of_active active status error
      errorCode
    refine ⟨fun _ => ⟨_, rfl, named, ?_, ?_⟩, ?_, ?_, stopped⟩
    · rw [head_append_status, last]
      rfl
    · intro nodeId
      rw [MultiAgent.nodeStatuses_run]
      exact nodes nodeId
    · intro nothing
      exact absurd nothing (by simp)
    · rw [last]
      rfl

theorem Building.readNode (building : Building identity reports builder)
    {found : MultiAgentNode} (valid : (Report.node found).Valid) :
    Building identity (reports ++ [.node found])
      (builder.readEvent (reportEvent filter identity (.node found))) := by
  rcases building.current filter (.node found) with ⟨summary, current, named, shown, nodes⟩
  have read : builder.readEvent
      (reportEvent filter identity (.node found)) = builder.updateNode summary
          (reportEvent filter identity (.node found)).payload := by
    rw [ViewBuilder.readEvent, safePayload?_report]
    dsimp only
    rw [current, if_neg (not_not_intro named.symm)]
    exact if_pos rfl
  have status : summary.status =
      rebuiltStatus (reports ++ [.node found]) := by
    rw [shown, head_append_status, MultiAgent.runStatuses_node]
  have ended : builder.runTerminal =
      (decided (runStatuses (reports ++ [.node found]))).any
        RunStatus.isTerminal := by
    rw [MultiAgent.runStatuses_node]
    exact building.ended
  have named' : truthy (reportEvent filter identity
      (.node found)).payload.nodeId = some found.nodeId :=
    truthy_of_ne valid.1
  have reported : nodeStatus? (reportEvent filter identity
      (.node found)).payload.status = some found.status :=
    nodeStatus?_text valid.2
  rw [read, ViewBuilder.updateNode, named', reported]
  dsimp only
  by_cases late : found.nodeId ∈ builder.terminalNodes
  · rw [if_pos late]
    have same := MultiAgent.decided_node_of_terminal
      ((building.stopped found.nodeId).mp late)
    refine ⟨fun _ => ⟨summary, rfl, named, status, ?_⟩, ?_, ended, ?_⟩
    · intro nodeId
      rw [nodes, same]
    · intro nothing
      exact absurd nothing (by simp)
    · intro nodeId
      rw [same]
      exact building.stopped nodeId
  · rw [if_neg late]
    have last := MultiAgent.decided_node_of_active (Bool.eq_false_iff.mpr
      fun terminal => late ((building.stopped found.nodeId).mpr terminal))
    refine ⟨fun _ => ⟨_, rfl, named, status, ?_⟩, ?_, ended, ?_⟩
    · intro nodeId
      rw [last, nodeStatusIn_putNode, nodes]
      rfl
    · intro nothing
      exact absurd nothing (by simp)
    · intro nodeId
      dsimp only
      rw [last]
      by_cases own : nodeId = found.nodeId
      · subst own
        rw [if_pos rfl, Option.any_some]
        cases found.status.isTerminal with
        | true =>
          rw [if_pos rfl]
          exact iff_of_true List.mem_cons_self rfl
        | false =>
          rw [if_neg Bool.false_ne_true]
          exact iff_of_false late Bool.false_ne_true
      · rw [if_neg own, ← building.stopped nodeId]
        split_ifs
        · simp [own]
        · exact Iff.rfl

end Building

variable (filter : EventFilter) (identity : RunIdentity)

theorem building (valid : ∀ report ∈ reports, report.Valid) :
    Building identity reports ((reports.map (reportEvent filter identity)).foldl
        ViewBuilder.readEvent {}) := by
  induction reports using List.reverseRecOn with
  | nil =>
    refine ⟨fun some_ => absurd rfl some_, fun _ => rfl, rfl, ?_⟩
    intro nodeId
    exact iff_of_false List.not_mem_nil Bool.false_ne_true
  | append_singleton reports report induction =>
    rw [List.forall_mem_append, List.forall_mem_singleton] at valid
    rw [List.map_append, List.map_singleton, List.foldl_append, List.foldl_cons, List.foldl_nil]
    cases report with
    | run status error errorCode =>
      exact (induction valid.1).readRun status error errorCode
    | node found => exact (induction valid.1).readNode valid.2

theorem buildMultiAgentRunView_rebuilt
    (valid : ∀ report ∈ reports, report.Valid) (some_ : reports ≠ []) :
    ∃ summary, buildMultiAgentRunView (reports.map (reportEvent filter identity)) = some summary ∧
      Rebuilt identity reports summary := by
  rcases (building filter identity valid).run some_ with ⟨summary, present, rebuilt⟩
  rw [buildMultiAgentRunView, present]
  exact ⟨_, rfl, rebuilt.runId, rebuilt.status, rebuilt.nodes⟩

end TurningGood.Browser
