import TurningGood.MultiAgent.RunViews

/-!
# What the events of one run show

The events of a run report statuses, of the run itself and of its nodes.  Of
the statuses of one of them the first terminal one counts, or else the last
one.  The view that the server reads from the rows of a run shows just
these.
-/

namespace TurningGood.MultiAgent

open TurningGood.Foundation

variable {current : Option RunStatus}

/-! ## The status that counts -/

/-- A terminal status stays; any other one is replaced. -/
def settle (current : Option RunStatus) (next : RunStatus) :
    Option RunStatus :=
  if current.any RunStatus.isTerminal then current else some next

/-- The first terminal status, or else the last one. -/
def decided (statuses : List RunStatus) : Option RunStatus :=
  statuses.foldl settle none

@[simp]
theorem decided_nil : decided [] = none := rfl

@[simp]
theorem decided_append_singleton (statuses : List RunStatus)
    (next : RunStatus) :
    decided (statuses ++ [next]) = settle (decided statuses) next := by
  simp only [decided, List.foldl_append, List.foldl_cons, List.foldl_nil]

theorem settle_of_terminal
    (terminal : current.any RunStatus.isTerminal = true) (next : RunStatus) :
    settle current next = current :=
  if_pos terminal

theorem settle_of_active (active : current.any RunStatus.isTerminal = false)
    (next : RunStatus) : settle current next = some next := by
  rw [settle, active]
  rfl

theorem foldl_settle_of_terminal
    (terminal : current.any RunStatus.isTerminal = true)
    (statuses : List RunStatus) : statuses.foldl settle current = current := by
  induction statuses with
  | nil => rfl
  | cons next rest induction =>
    rw [List.foldl_cons, settle_of_terminal terminal, induction]

theorem decided_append (front back : List RunStatus) :
    decided (front ++ back) = back.foldl settle (decided front) :=
  List.foldl_append

theorem decided_append_of_active {front back : List RunStatus}
    (active : (decided front).any RunStatus.isTerminal = false)
    (some_ : back ≠ []) : decided (front ++ back) = decided back := by
  cases back with
  | nil => exact absurd rfl some_
  | cons next rest =>
    rw [decided_append, List.foldl_cons, settle_of_active active]
    rfl

theorem decided_any_isTerminal (statuses : List RunStatus) :
    (decided statuses).any RunStatus.isTerminal =
      statuses.any RunStatus.isTerminal := by
  induction statuses using List.reverseRecOn with
  | nil => rfl
  | append_singleton statuses next induction =>
    rw [decided_append_singleton, List.any_append, ← induction]
    cases terminal : (decided statuses).any RunStatus.isTerminal with
    | true => rw [settle_of_terminal terminal, terminal, Bool.true_or]
    | false =>
      rw [settle_of_active terminal, Bool.false_or]
      simp

theorem decided_append_of_terminal {front : List RunStatus}
    (terminal : (decided front).any RunStatus.isTerminal = true)
    (back : List RunStatus) : decided (front ++ back) = decided front := by
  rw [decided_append, foldl_settle_of_terminal terminal]

theorem decided_eq_none {statuses : List RunStatus} :
    decided statuses = none ↔ statuses = [] := by
  constructor
  · intro nothing
    induction statuses using List.reverseRecOn with
    | nil => rfl
    | append_singleton statuses next induction =>
      rw [decided_append_singleton, settle] at nothing
      split_ifs at nothing with terminal
      rw [nothing] at terminal
      cases terminal
  · rintro rfl
    rfl

/-! ## The events of one run -/

/-- The run that events report. -/
structure RunIdentity where
  runId : String
  parentRequestId : String
  strategy : Strategy
  named : runId ≠ ""
  asked : parentRequestId ≠ ""

/-- What an event of a run reports. -/
inductive Report where
  | run (status : RunStatus) (error errorCode : Option String)
  | node (node : MultiAgentNode)
  deriving DecidableEq, Repr

namespace Report

/-- The nodes have names, and statuses of nodes. -/
def Valid : Report → Prop
  | .run _ _ _ => True
  | .node found => found.nodeId ≠ "" ∧ found.status ≠ .waiting

instance (report : Report) : Decidable report.Valid := by
  cases report <;> unfold Valid <;> infer_instance

/-- The status that is reported. -/
def status : Report → RunStatus
  | .run status _ _ => status
  | .node found => found.status

/-- The status of the run. -/
def runStatus? : Report → Option RunStatus
  | .run status _ _ => some status
  | .node _ => none

/-- The status of a node. -/
def nodeStatus? (nodeId : String) : Report → Option RunStatus
  | .run _ _ _ => none
  | .node found => if found.nodeId = nodeId then some found.status else none

/-- The run as it is when it reports. -/
def reportedRun (identity : RunIdentity) (status : RunStatus)
    (error errorCode : Option String) : MultiAgentRun where
  runId := identity.runId
  parentRequestId := identity.parentRequestId
  strategy := identity.strategy
  status
  nodes := []
  error
  errorCode

/-- The row of an event. -/
def row (filter : EventFilter) (identity : RunIdentity) :
    Report → TraceRow
  | .run status error errorCode =>
    runRow filter (reportedRun identity status error errorCode)
      (runEventByStatus status)
  | .node found =>
    nodeRow filter (reportedRun identity .running none none) found

end Report

/-- The statuses of the run that are reported. -/
def runStatuses (reports : List Report) : List RunStatus :=
  reports.filterMap Report.runStatus?

/-- The statuses of a node that are reported. -/
def nodeStatuses (nodeId : String) (reports : List Report) :
    List RunStatus :=
  reports.filterMap (Report.nodeStatus? nodeId)

/-- The status of the run that counts for the server. -/
def shownStatus (reports : List Report) : RunStatus :=
  (decided (runStatuses reports)).getD .queued

@[simp]
theorem runStatuses_append (front back : List Report) :
    runStatuses (front ++ back) = runStatuses front ++ runStatuses back :=
  List.filterMap_append

@[simp]
theorem nodeStatuses_append (nodeId : String) (front back : List Report) :
    nodeStatuses nodeId (front ++ back) =
      nodeStatuses nodeId front ++ nodeStatuses nodeId back :=
  List.filterMap_append

/-- The status that a view shows of a node. -/
def nodeStatusOf (view : RunView) (nodeId : String) : Option String :=
  (view.nodes.find? (·.nodeId = nodeId)).map NodeView.status

theorem find?_map_node (nodes : List NodeView)
    {change : NodeView → NodeView}
    (same : ∀ node, (change node).nodeId = node.nodeId) (nodeId : String) :
    (nodes.map change).find? (·.nodeId = nodeId) =
      (nodes.find? (·.nodeId = nodeId)).map change := by
  rw [List.find?_map]
  simp only [Function.comp_def, same]

theorem nodeStatusOf_readNode {view : RunView} {metadata : EventMetadata}
    {status : String} (reported : nonempty metadata.status = some status)
    (nodeId query : String) :
    nodeStatusOf (view.readNode metadata nodeId) query =
      if query = nodeId then some status else nodeStatusOf view query := by
  have kept : ∀ node : NodeView,
      (if node.nodeId = nodeId then RunView.readNodeView metadata node
        else node).nodeId = node.nodeId := by
    intro node
    split_ifs <;> rfl
  simp only [nodeStatusOf, RunView.readNode, find?_map_node _ kept,
    Option.map_map]
  by_cases same : query = nodeId
  · subst same
    rw [if_pos rfl]
    have present : ∃ node,
        ((if view.nodes.any (·.nodeId = query) then view.nodes
          else view.nodes ++ [{
            nodeId := query
            role := metadata.taskLabel.getD query
            status := "queued"
            content := none
            errorCode := none
            error := none }]).find? (·.nodeId = query)) = some node ∧
          node.nodeId = query := by
      split_ifs with known
      · cases found : view.nodes.find? (·.nodeId = query) with
        | none =>
          rw [List.find?_eq_none] at found
          rcases List.any_eq_true.mp known with ⟨node, member, same⟩
          exact absurd same (found node member)
        | some node =>
          exact ⟨node, rfl, by simpa using List.find?_some found⟩
      · have missing : view.nodes.find? (·.nodeId = query) = none := by
          rw [List.find?_eq_none]
          intro node member same
          exact known (List.any_eq_true.mpr ⟨node, member, same⟩)
        rw [List.find?_append, missing]
        rw [List.find?_cons_of_pos (by simp), Option.none_or]
        exact ⟨_, rfl, rfl⟩
    rcases present with ⟨node, found, named⟩
    rw [found]
    simp [named, RunView.readNodeView, reported]
  · rw [if_neg same]
    have others : ((if view.nodes.any (·.nodeId = nodeId) then view.nodes
        else view.nodes ++ [{
          nodeId
          role := metadata.taskLabel.getD nodeId
          status := "queued"
          content := none
          errorCode := none
          error := none }]).find? (·.nodeId = query)) =
        view.nodes.find? (·.nodeId = query) := by
      split_ifs
      · rfl
      · rw [List.find?_append]
        simp [Ne.symm same]
    rw [others]
    cases found : view.nodes.find? (·.nodeId = query) with
    | none => rfl
    | some node =>
      have named : node.nodeId = query := by
        simpa using List.find?_some found
      simp [named, same]

/-! ## The view that the server reads -/

section Server

variable {filter : EventFilter} {identity : RunIdentity}

theorem nonempty_text (status : RunStatus) :
    nonempty (some status.text) = some status.text := by
  cases status <;> decide

/-- The metadata of an event. -/
def Report.metadata (filter : EventFilter) (identity : RunIdentity) :
    Report → EventMetadata
  | .run status error errorCode => {
      runId := identity.runId
      parentRequestId := identity.parentRequestId
      taskLabel := filter.safeTaskLabel "multi_agent"
      strategy := identity.strategy.text
      status := status.text
      errorCode
      error := (error.filter (· ≠ "")).map filter.safeError }
  | .node found => {
      runId := identity.runId
      parentRequestId := identity.parentRequestId
      nodeId := found.nodeId
      taskLabel := filter.safeTaskLabel found.role
      strategy := identity.strategy.text
      status := found.status.text
      errorCode := found.errorCode
      error := (found.error.filter (· ≠ "")).map filter.safeError
      content := if found.status = .completed then found.content else none }

theorem eventOf_row (report : Report) :
    RunsReader.eventOf (report.row filter identity) =
      some (identity.runId, report.metadata filter identity) := by
  have named : nonempty (some identity.runId) = some identity.runId := by
    simp [nonempty, identity.named]
  cases report with
  | run status error errorCode =>
    rw [RunsReader.eventOf, if_pos ⟨rfl, runEventByStatus_known status⟩]
    simp only [Report.row, runRow, Report.reportedRun, Option.bind_some,
      named, Option.map_some, Report.metadata]
  | node found =>
    have known : nodeUpdated ∈ multiAgentEventTypes := by decide
    rw [RunsReader.eventOf, if_pos ⟨rfl, known⟩]
    simp only [Report.row, nodeRow, Report.reportedRun, Option.bind_some,
      named, Option.map_some, Report.metadata]

theorem readRow_run (reader : RunsReader) (status : RunStatus)
    (error errorCode : Option String) :
    reader.readRow
        ((Report.run status error errorCode).row filter identity) =
      if status.isTerminal then
        reader.readTerminal identity.runId
          (reader.viewFor identity.runId
            ((Report.run status error errorCode).metadata filter identity))
          ((Report.run status error errorCode).metadata filter identity)
      else
        reader.readStarted identity.runId
          (reader.viewFor identity.runId
            ((Report.run status error errorCode).metadata filter identity))
          ((Report.run status error errorCode).metadata filter identity) := by
  rw [RunsReader.readRow, eventOf_row]
  dsimp only [RunsReader.viewFor, Report.row, runRow]
  cases status <;> rfl

theorem readRow_node (reader : RunsReader) (found : MultiAgentNode) :
    reader.readRow ((Report.node found).row filter identity) =
      reader.readNode identity.runId
        (reader.viewFor identity.runId
          ((Report.node found).metadata filter identity))
        ((Report.node found).metadata filter identity) := by
  rw [RunsReader.readRow, eventOf_row]
  rfl

/-- The view is one of the run, and its nodes have names and statuses. -/
structure Formed (identity : RunIdentity) (view : RunView) : Prop where
  runId : view.runId = identity.runId
  parentRequestId :
    view.parentRequestId = some identity.parentRequestId
  strategy : view.strategy = identity.strategy.text
  nodes : ∀ node ∈ view.nodes, node.nodeId ≠ "" ∧
    ∃ status : RunStatus, status ≠ .waiting ∧ node.status = status.text

namespace Formed

variable {view : RunView} (report : Report)

theorem newRunView :
    Formed identity (newRunView identity.runId
      (report.metadata filter identity)) where
  runId := rfl
  parentRequestId := by
    cases report <;>
      simp [MultiAgent.newRunView, Report.metadata, nonempty, identity.asked]
  strategy := by cases report <;> rfl
  nodes := by
    intro node member
    cases member

theorem readStarted (formed : Formed identity view) :
    Formed identity
      (view.readStarted (report.metadata filter identity)) :=
  { formed with
    strategy := by cases report <;> rfl }

theorem readTerminal (formed : Formed identity view) :
    Formed identity
      (view.readTerminal (report.metadata filter identity)) :=
  { formed with }

theorem readNode (formed : Formed identity view) {found : MultiAgentNode}
    (valid : (Report.node found).Valid) :
    Formed identity
      (view.readNode ((Report.node found).metadata filter identity)
        found.nodeId) :=
  { formed with
    nodes := by
      have reported : nonempty
          ((Report.node found).metadata filter identity).status =
            some found.status.text := nonempty_text found.status
      intro node member
      rw [RunView.readNode] at member
      rcases List.mem_map.mp member with ⟨before, inside, rfl⟩
      by_cases own : before.nodeId = found.nodeId
      · rw [if_pos own]
        refine ⟨own ▸ valid.1, found.status, valid.2, ?_⟩
        rw [RunView.readNodeView, reported]
        rfl
      · rw [if_neg own]
        split_ifs at inside
        · exact formed.nodes before inside
        · rcases List.mem_append.mp inside with earlier | added
          · exact formed.nodes before earlier
          · rw [List.mem_singleton.mp added] at own
            exact absurd rfl own }

end Formed

/-- A view shows what counts of some reports. -/
structure ShowsReports (identity : RunIdentity) (view : RunView)
    (reports : List Report) : Prop where
  formed : Formed identity view
  status : view.status = (shownStatus reports).text
  nodes : ∀ nodeId, nodeStatusOf view nodeId =
    (decided (nodeStatuses nodeId reports)).map RunStatus.text

/-- What the reader knows of the run after some of its events. -/
structure ServerShows (identity : RunIdentity) (reports : List Report)
    (reader : RunsReader) : Prop where
  keys : reader.runs.keys =
    if reports = [] then [] else [identity.runId]
  view : ∀ view, reader.runs.get? identity.runId = some view →
    ShowsReports identity view reports
  ended : identity.runId ∈ reader.terminalRuns ↔
    (decided (runStatuses reports)).any RunStatus.isTerminal = true
  stopped : ∀ nodeId, (identity.runId, nodeId) ∈ reader.terminalNodes ↔
    (decided (nodeStatuses nodeId reports)).any RunStatus.isTerminal = true

namespace ServerShows

variable {reports : List Report} {reader : RunsReader}

variable (filter) in
/-- The view that the next event is read into. -/
theorem viewFor (shows_ : ServerShows identity reports reader)
    (report : Report) :
    ShowsReports identity (reader.viewFor identity.runId
      (report.metadata filter identity)) reports := by
  rw [RunsReader.viewFor]
  cases present : reader.runs.get? identity.runId with
  | some view => exact shows_.view view present
  | none =>
    have nothing : reports = [] := by
      by_contra some_
      rw [Dict.get?_eq_none_iff, shows_.keys, if_neg some_] at present
      exact present List.mem_cons_self
    subst nothing
    exact ⟨Formed.newRunView report, rfl, fun nodeId => rfl⟩

theorem keys_insert (shows_ : ServerShows identity reports reader)
    (report : Report) (view : RunView) :
    (reader.runs.insert identity.runId view).keys =
      if reports ++ [report] = [] then [] else [identity.runId] := by
  rw [if_neg (by simp)]
  by_cases nothing : reports = []
  · have empty := shows_.keys
    rw [if_pos nothing] at empty
    rw [Dict.keys, Dict.insert, Dict.insertEntries_keys, ← Dict.keys, empty]
    rfl
  · have single := shows_.keys
    rw [if_neg nothing] at single
    rw [Dict.keys_insert_of_mem (by rw [single]; exact List.mem_cons_self),
      single]

theorem put (shows_ : ServerShows identity reports reader)
    {report : Report} {after : RunView} {target : RunsReader}
    (runs : target.runs = reader.runs.insert identity.runId after)
    (view : ShowsReports identity after (reports ++ [report]))
    (ended : identity.runId ∈ target.terminalRuns ↔
      (decided (runStatuses (reports ++ [report]))).any
        RunStatus.isTerminal = true)
    (stopped : ∀ nodeId, (identity.runId, nodeId) ∈ target.terminalNodes ↔
      (decided (nodeStatuses nodeId (reports ++ [report]))).any
        RunStatus.isTerminal = true) :
    ServerShows identity (reports ++ [report]) target where
  keys := runs ▸ shows_.keys_insert report after
  view := by
    intro found present
    rw [runs, Dict.get?_insert_self] at present
    cases present
    exact view
  ended := ended
  stopped := stopped

end ServerShows

theorem nodeStatuses_run (nodeId : String) (reports : List Report)
    (status : RunStatus) (error errorCode : Option String) :
    nodeStatuses nodeId (reports ++ [.run status error errorCode]) =
      nodeStatuses nodeId reports := by
  simp [nodeStatuses, Report.nodeStatus?]

theorem runStatuses_run (reports : List Report)
    (status : RunStatus) (error errorCode : Option String) :
    runStatuses (reports ++ [.run status error errorCode]) =
      runStatuses reports ++ [status] := by
  simp [runStatuses, Report.runStatus?]

theorem runStatuses_node (reports : List Report) (found : MultiAgentNode) :
    runStatuses (reports ++ [.node found]) = runStatuses reports := by
  simp [runStatuses, Report.runStatus?]

theorem nodeStatuses_node (nodeId : String) (reports : List Report)
    (found : MultiAgentNode) :
    nodeStatuses nodeId (reports ++ [.node found]) =
      nodeStatuses nodeId reports ++
        if found.nodeId = nodeId then [found.status] else [] := by
  rw [nodeStatuses, List.filterMap_append, ← nodeStatuses]
  simp only [List.filterMap_cons, List.filterMap_nil, Report.nodeStatus?]
  split_ifs <;> rfl

section Decided

variable {reports : List Report}

theorem decided_run_of_terminal
    (terminal :
      (decided (runStatuses reports)).any RunStatus.isTerminal = true)
    (status : RunStatus) (error errorCode : Option String) :
    decided (runStatuses (reports ++ [.run status error errorCode])) =
      decided (runStatuses reports) := by
  rw [runStatuses_run, decided_append_singleton, settle_of_terminal terminal]

theorem decided_run_of_active
    (active :
      (decided (runStatuses reports)).any RunStatus.isTerminal = false)
    (status : RunStatus) (error errorCode : Option String) :
    decided (runStatuses (reports ++ [.run status error errorCode])) =
      some status := by
  rw [runStatuses_run, decided_append_singleton, settle_of_active active]

theorem decided_node_of_terminal {found : MultiAgentNode}
    (terminal : (decided (nodeStatuses found.nodeId reports)).any
      RunStatus.isTerminal = true) (nodeId : String) :
    decided (nodeStatuses nodeId (reports ++ [.node found])) =
      decided (nodeStatuses nodeId reports) := by
  rw [nodeStatuses_node]
  split_ifs with own
  · rw [decided_append_singleton]
    exact settle_of_terminal (own ▸ terminal) _
  · rw [List.append_nil]

theorem decided_node_of_active {found : MultiAgentNode}
    (active : (decided (nodeStatuses found.nodeId reports)).any
      RunStatus.isTerminal = false) (nodeId : String) :
    decided (nodeStatuses nodeId (reports ++ [.node found])) =
      if nodeId = found.nodeId then some found.status
      else decided (nodeStatuses nodeId reports) := by
  rw [nodeStatuses_node]
  by_cases own : found.nodeId = nodeId
  · subst own
    rw [if_pos rfl, if_pos rfl, decided_append_singleton,
      settle_of_active active]
  · rw [if_neg own, if_neg (Ne.symm own), List.append_nil]

end Decided

namespace ServerShows

variable {reports : List Report} {reader : RunsReader}

theorem readRun (shows_ : ServerShows identity reports reader)
    (status : RunStatus) (error errorCode : Option String) :
    ServerShows identity (reports ++ [.run status error errorCode])
      (reader.readRow
        ((Report.run status error errorCode).row filter identity)) := by
  have before := shows_.viewFor filter (.run status error errorCode)
  have stopped : ∀ nodeId, (identity.runId, nodeId) ∈ reader.terminalNodes ↔
      (decided (nodeStatuses nodeId
        (reports ++ [.run status error errorCode]))).any
          RunStatus.isTerminal = true := by
    intro nodeId
    rw [nodeStatuses_run]
    exact shows_.stopped nodeId
  have nodes : ∀ nodeId, nodeStatusOf (reader.viewFor identity.runId
      ((Report.run status error errorCode).metadata filter identity))
        nodeId =
      (decided (nodeStatuses nodeId
        (reports ++ [.run status error errorCode]))).map RunStatus.text := by
    intro nodeId
    rw [before.nodes, nodeStatuses_run]
  have reported : nonempty
      ((Report.run status error errorCode).metadata filter identity).status =
        some status.text := nonempty_text status
  by_cases terminal :
      (decided (runStatuses reports)).any RunStatus.isTerminal = true
  · -- A run that has ended shows what it did.
    have known := shows_.ended.mpr terminal
    have same := decided_run_of_terminal terminal status error errorCode
    have read : reader.readRow
        ((Report.run status error errorCode).row filter identity) =
          reader.putRun identity.runId (reader.viewFor identity.runId
            ((Report.run status error errorCode).metadata
              filter identity)) := by
      rw [readRow_run, RunsReader.readTerminal, RunsReader.readStarted,
        if_pos known, if_neg (not_and_of_not_left _ (not_not_intro known)),
        ite_self]
    rw [read]
    refine shows_.put rfl ⟨before.formed, ?_, nodes⟩ ?_ stopped
    · rw [before.status, shownStatus, shownStatus, same]
    · rw [same]
      exact shows_.ended
  · have unknown : identity.runId ∉ reader.terminalRuns :=
      fun member => terminal (shows_.ended.mp member)
    have last := decided_run_of_active (Bool.eq_false_iff.mpr terminal)
      status error errorCode
    rw [readRow_run]
    cases ends : status.isTerminal with
    | true =>
      have first : identity.runId ∉ reader.terminalRuns ∧
          ((Report.run status error errorCode).metadata filter
            identity).status.any (terminalStatuses.contains ·) = true := by
        refine ⟨unknown, ?_⟩
        simp only [Report.metadata, Option.any_some,
          terminalStatuses_text, ends]
      rw [if_pos rfl, RunsReader.readTerminal, if_pos first]
      refine shows_.put rfl
        ⟨before.formed.readTerminal _, ?_, nodes⟩ ?_ stopped
      · rw [RunView.readTerminal, reported, shownStatus, last]
        rfl
      · rw [last, Option.any_some, ends]
        exact iff_of_true List.mem_cons_self rfl
    | false =>
      rw [if_neg Bool.false_ne_true, RunsReader.readStarted,
        if_neg unknown]
      refine shows_.put rfl
        ⟨before.formed.readStarted _, ?_, nodes⟩ ?_ stopped
      · rw [RunView.readStarted, reported, shownStatus, last]
        rfl
      · rw [last, Option.any_some, ends]
        exact iff_of_false unknown Bool.false_ne_true

theorem readNode (shows_ : ServerShows identity reports reader)
    {found : MultiAgentNode} (valid : (Report.node found).Valid) :
    ServerShows identity (reports ++ [.node found])
      (reader.readRow ((Report.node found).row filter identity)) := by
  have before := shows_.viewFor filter (.node found)
  have status : ∀ view : RunView,
      view.status = (reader.viewFor identity.runId
        ((Report.node found).metadata filter identity)).status →
      view.status = (shownStatus (reports ++ [.node found])).text := by
    intro view same
    rw [same, before.status, shownStatus, shownStatus, runStatuses_node]
  have ended : identity.runId ∈ reader.terminalRuns ↔
      (decided (runStatuses (reports ++ [.node found]))).any
        RunStatus.isTerminal = true := by
    rw [runStatuses_node]
    exact shows_.ended
  have present : nonempty
      ((Report.node found).metadata filter identity).nodeId =
        some found.nodeId := by
    simp [Report.metadata, nonempty, valid.1]
  have reported : nonempty
      ((Report.node found).metadata filter identity).status =
        some found.status.text := nonempty_text found.status
  rw [readRow_node, RunsReader.readNode, present]
  dsimp only
  by_cases late : (identity.runId, found.nodeId) ∈ reader.terminalNodes
  · -- A node that has ended shows what it did.
    rw [if_pos late]
    have same := decided_node_of_terminal
      ((shows_.stopped found.nodeId).mp late)
    refine shows_.put rfl ⟨before.formed, status _ rfl, ?_⟩ ended ?_
    · intro nodeId
      rw [before.nodes, same]
    · intro nodeId
      rw [same]
      exact shows_.stopped nodeId
  · rw [if_neg late]
    have last := decided_node_of_active (Bool.eq_false_iff.mpr
      fun terminal => late ((shows_.stopped found.nodeId).mpr terminal))
    refine shows_.put rfl
      ⟨before.formed.readNode valid, status _ rfl, ?_⟩ ended ?_
    · intro nodeId
      rw [nodeStatusOf_readNode reported, last, before.nodes]
      split_ifs <;> rfl
    · intro nodeId
      have ends : ((Report.node found).metadata filter identity).status.any
          (terminalStatuses.contains ·) = found.status.isTerminal := by
        simp only [Report.metadata, Option.any_some, terminalStatuses_text]
      dsimp only
      rw [ends, last]
      by_cases own : nodeId = found.nodeId
      · subst own
        rw [if_pos rfl, Option.any_some]
        cases found.status.isTerminal with
        | true =>
          rw [if_pos rfl]
          exact iff_of_true List.mem_cons_self rfl
        | false =>
          rw [if_neg Bool.false_ne_true]
          exact iff_of_false late Bool.false_ne_true
      · rw [if_neg own, ← shows_.stopped nodeId]
        split_ifs
        · simp [own]
        · exact Iff.rfl

end ServerShows

/-- The rows of some reports. -/
def rowsOf (filter : EventFilter) (identity : RunIdentity)
    (reports : List Report) : List TraceRow :=
  reports.map (Report.row filter identity)

variable (filter identity) in
/-- What the reader knows of the run after all rows. -/
theorem readRows_serverShows {reports : List Report}
    (valid : ∀ report ∈ reports, report.Valid) :
    ServerShows identity reports
      (readRows (rowsOf filter identity reports)) := by
  induction reports using List.reverseRecOn with
  | nil =>
    refine ⟨rfl, ?_, ?_, ?_⟩
    · intro view present
      cases present
    · exact iff_of_false List.not_mem_nil Bool.false_ne_true
    · intro nodeId
      exact iff_of_false List.not_mem_nil Bool.false_ne_true
  | append_singleton reports report induction =>
    rw [List.forall_mem_append, List.forall_mem_singleton] at valid
    rw [rowsOf, List.map_append, List.map_singleton,
      readRows_append_singleton, ← rowsOf]
    cases report with
    | run status error errorCode =>
      exact (induction valid.1).readRun status error errorCode
    | node found => exact (induction valid.1).readNode valid.2

variable (filter identity) in
/-- The server reads one view of the run, which shows what counts. -/
theorem readMultiAgentRuns_shows {reports : List Report}
    (valid : ∀ report ∈ reports, report.Valid) (some_ : reports ≠ []) :
    ∃ view,
      readMultiAgentRuns (rowsOf filter identity reports) (some 20) =
        [view] ∧
      ShowsReports identity view reports := by
  have shows_ := readRows_serverShows filter identity valid
  have keys := shows_.keys
  rw [if_neg some_] at keys
  rcases List.map_eq_singleton_iff.mp keys with ⟨⟨key, view⟩, entries, rfl⟩
  refine ⟨view, ?_, shows_.view view ?_⟩
  · have values : (readRows (rowsOf filter identity reports)).runs.values =
        [view] := by
      rw [Dict.values, entries]
      rfl
    rw [readMultiAgentRuns, values]
    rfl
  · rw [← Dict.mem_entries_iff, entries]
    exact List.mem_singleton_self _

variable (filter identity) in
/-- Without rows the server reads no run. -/
theorem readMultiAgentRuns_nil :
    readMultiAgentRuns (rowsOf filter identity []) (some 20) = [] := rfl

end Server

end TurningGood.MultiAgent
