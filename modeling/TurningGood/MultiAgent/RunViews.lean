import TurningGood.MultiAgent.Events
import Mathlib.Data.List.Induction
import Mathlib.Tactic.ByContra

/-!
# The views of the runs

One pass over the rows of a trace builds the views.  An event of a run does
one of four things to the reader; from these four follow what the reader
knows of the nodes, that a view shows an end exactly if the reader has seen
one, and which views a list of rows leaves alone.
-/

namespace TurningGood.MultiAgent

open TurningGood.Foundation

variable {rows : List TraceRow}

/-- The row is an event of a node. -/
structure ReportsNode (row : TraceRow) (runId nodeId : String)
    (metadata : EventMetadata) : Prop where
  event : RunsReader.eventOf row = some (runId, metadata)
  updated : row.event = nodeUpdated
  named : nonempty metadata.nodeId = some nodeId

namespace RunsReader

theorem metadata_of_eventOf {row : TraceRow} {runId : String}
    {metadata : EventMetadata}
    (event : eventOf row = some (runId, metadata)) :
    row.metadata = some metadata ∧ nonempty metadata.runId = some runId := by
  rw [eventOf] at event
  split_ifs at event
  rcases Option.bind_eq_some_iff.mp event with ⟨data, same, named⟩
  rcases Option.map_eq_some_iff.mp named with ⟨owner, named, equal⟩
  cases equal
  exact ⟨same, named⟩

/-- All that an event of a run can do to the reader. -/
inductive RowRead (reader : RunsReader) (row : TraceRow) (runId : String)
    (metadata : EventMetadata) : RunsReader → Prop where
  | kept
      (late : ∀ nodeId, ReportsNode row runId nodeId metadata →
        (runId, nodeId) ∈ reader.terminalNodes) :
      RowRead reader row runId metadata (reader.putRun runId (reader.viewFor runId metadata))
  | started
      (event : row.event = runStarted)
      (active : runId ∉ reader.terminalRuns) :
      RowRead reader row runId metadata (reader.putRun runId
          ((reader.viewFor runId metadata).readStarted metadata))
  | node
      {nodeId : String}
      (reports : ReportsNode row runId nodeId metadata)
      (live : (runId, nodeId) ∉ reader.terminalNodes) :
      RowRead reader row runId metadata
        { reader.putRun runId
            ((reader.viewFor runId metadata).readNode metadata nodeId) with
          terminalNodes :=
            if metadata.status.any (terminalStatuses.contains ·) then
              (runId, nodeId) :: reader.terminalNodes
            else
              reader.terminalNodes }
  | ended
      (event : row.event ∈ runTerminalEvents)
      (terminal : metadata.status.any (terminalStatuses.contains ·) = true) :
      RowRead reader row runId metadata
        { reader.putRun runId
            ((reader.viewFor runId metadata).readTerminal metadata) with
          terminalRuns := runId :: reader.terminalRuns }

theorem readRow_read (reader : RunsReader) {row : TraceRow}
    {runId : String} {metadata : EventMetadata}
    (event : eventOf row = some (runId, metadata)) :
    RowRead reader row runId metadata (reader.readRow row) := by
  have unfolded : reader.readRow row =
      if row.event = runStarted then
        reader.readStarted runId (reader.viewFor runId metadata) metadata
      else if row.event = nodeUpdated then
        reader.readNode runId (reader.viewFor runId metadata) metadata
      else
        reader.readTerminal runId (reader.viewFor runId metadata) metadata := by
    rw [readRow, event]
    rfl
  rw [unfolded]
  split_ifs with started updated
  · have other : row.event ≠ nodeUpdated := by
      rw [started]
      decide
    rw [readStarted]
    split_ifs with closed
    · exact .kept fun nodeId reports => absurd reports.updated other
    · exact .started started closed
  · rw [readNode]
    cases named : nonempty metadata.nodeId with
    | none =>
      apply RowRead.kept
      intro nodeId reports
      rw [reports.named] at named
      cases named
    | some nodeId =>
      dsimp only
      split
      · rename_i late
        apply RowRead.kept
        intro found reports
        rw [reports.named] at named
        cases named
        exact late
      · rename_i live
        exact .node ⟨event, updated, named⟩ live
  · rw [readTerminal]
    split_ifs with first
    · exact .ended (mem_runTerminalEvents (known_of_eventOf event) started updated)
        first.2
    · exact .kept fun nodeId reports => absurd reports.updated updated

end RunsReader

theorem readRows_append_singleton (rows : List TraceRow) (row : TraceRow) :
    readRows (rows ++ [row]) = (readRows rows).readRow row := by
  simp only [readRows, List.foldl_append, List.foldl_cons, List.foldl_nil]

/-! ## The nodes of the views -/

/-- What the reader knows of the nodes after some rows. -/
structure NodesRead (rows : List TraceRow) (reader : RunsReader) : Prop where
  reported : ∀ runId view node, reader.runs.get? runId = some view → node ∈ view.nodes →
    ∃ row ∈ rows, ∃ metadata, ReportsNode row runId node.nodeId metadata
  frozen : ∀ row ∈ rows, ∀ runId nodeId metadata, ReportsNode row runId nodeId metadata →
    metadata.status.any (terminalStatuses.contains ·) = true →
    (runId, nodeId) ∈ reader.terminalNodes
  ended : ∀ runId view node, reader.runs.get? runId = some view → node ∈ view.nodes →
    (runId, node.nodeId) ∈ reader.terminalNodes →
    terminalStatuses.contains node.status = true

theorem RunView.mem_readNode {view : RunView} {metadata : EventMetadata}
    {nodeId : String} {node : NodeView}
    (member : node ∈ (view.readNode metadata nodeId).nodes) :
    (node ∈ view.nodes ∧ node.nodeId ≠ nodeId) ∨ node.nodeId = nodeId ∧
        (metadata.status.any (terminalStatuses.contains ·) = true →
          terminalStatuses.contains node.status = true) := by
  simp only [RunView.readNode] at member
  rcases List.mem_map.mp member with ⟨before, inside, rfl⟩
  by_cases same : before.nodeId = nodeId
  · right
    rw [if_pos same]
    refine ⟨same, fun terminal => ?_⟩
    obtain ⟨status, present, known⟩ := (Option.any_eq_true _ _).mp terminal
    simp only [RunView.readNodeView, present, nonempty_of_terminal known, Option.getD_some]
    exact known
  · left
    rw [if_neg same]
    refine ⟨?_, same⟩
    split_ifs at inside
    · exact inside
    · rcases List.mem_append.mp inside with earlier | added
      · exact earlier
      · rw [List.mem_singleton.mp added] at same
        exact absurd rfl same

namespace NodesRead

variable {rows : List TraceRow} {reader : RunsReader}

variable {runId : String} {metadata : EventMetadata}

theorem of_viewFor {node : NodeView} (member : node ∈ (reader.viewFor runId metadata).nodes) :
    ∃ view, reader.runs.get? runId = some view ∧ node ∈ view.nodes := by
  rw [RunsReader.viewFor] at member
  cases present : reader.runs.get? runId with
  | none =>
    rw [present] at member
    cases member
  | some view =>
    rw [present] at member
    exact ⟨view, rfl, member⟩

theorem quiet (read : NodesRead rows reader) {row : TraceRow}
    {target : RunsReader} {after : RunView}
    (event : RunsReader.eventOf row = some (runId, metadata))
    (runs : target.runs = reader.runs.insert runId after)
    (nodes : after.nodes = (reader.viewFor runId metadata).nodes)
    (terminalNodes : target.terminalNodes = reader.terminalNodes)
    (late : ∀ nodeId, ReportsNode row runId nodeId metadata →
      (runId, nodeId) ∈ reader.terminalNodes) :
    NodesRead (rows ++ [row]) target := by
  have before : ∀ query view node,
      target.runs.get? query = some view → node ∈ view.nodes →
      ∃ earlier, reader.runs.get? query = some earlier ∧
        node ∈ earlier.nodes := by
    intro query view node present member
    rw [runs, Dict.get?_insert] at present
    split_ifs at present with same
    · cases present
      rw [nodes] at member
      exact same ▸ of_viewFor member
    · exact ⟨view, present, member⟩
  refine ⟨?_, ?_, ?_⟩
  · intro query view node present member
    rcases before query view node present member with ⟨earlier, was, inside⟩
    rcases read.reported query earlier node was inside with ⟨row, inRows, rest⟩
    exact ⟨row, List.mem_append_left _ inRows, rest⟩
  · intro found inRows query nodeId data reports terminal
    rw [terminalNodes]
    rcases List.mem_append.mp inRows with earlier | last
    · exact read.frozen found earlier query nodeId data reports terminal
    · rw [List.mem_singleton.mp last] at reports
      have same := reports.event
      rw [event] at same
      cases same
      exact late nodeId reports
  · intro query view node present member terminal
    rw [terminalNodes] at terminal
    rcases before query view node present member with ⟨earlier, was, inside⟩
    exact read.ended query earlier node was inside terminal

theorem node (read : NodesRead rows reader) {row : TraceRow} {nodeId : String}
    (reports : ReportsNode row runId nodeId metadata)
    (live : (runId, nodeId) ∉ reader.terminalNodes) :
    NodesRead (rows ++ [row])
      { reader.putRun runId
          ((reader.viewFor runId metadata).readNode metadata nodeId) with
        terminalNodes :=
          if metadata.status.any (terminalStatuses.contains ·) then
            (runId, nodeId) :: reader.terminalNodes
          else
            reader.terminalNodes } := by
  have grown : ∀ key, key ∈ reader.terminalNodes →
      key ∈ (if metadata.status.any (terminalStatuses.contains ·) then
        (runId, nodeId) :: reader.terminalNodes
      else reader.terminalNodes) := by
    intro key member
    split_ifs
    · exact List.mem_cons_of_mem _ member
    · exact member
  refine ⟨?_, ?_, ?_⟩
  · intro query view node present member
    simp only [RunsReader.putRun, Dict.get?_insert] at present
    split_ifs at present with same
    · cases present
      subst same
      rcases RunView.mem_readNode member with ⟨inside, -⟩ | ⟨own, -⟩
      · rcases of_viewFor inside with ⟨earlier, was, inside⟩
        rcases read.reported _ earlier node was inside with ⟨row, inRows, rest⟩
        exact ⟨row, List.mem_append_left _ inRows, rest⟩
      · rw [own]
        exact ⟨row, List.mem_append_right _ List.mem_cons_self, _, reports⟩
    · rcases read.reported query view node present member with ⟨row, inRows, rest⟩
      exact ⟨row, List.mem_append_left _ inRows, rest⟩
  · intro found inRows query other data otherReports terminal
    rcases List.mem_append.mp inRows with earlier | last
    · exact grown _ (read.frozen found earlier query other data otherReports terminal)
    · rw [List.mem_singleton.mp last] at otherReports
      have same := otherReports.event
      rw [reports.event] at same
      cases same
      have sameNode := otherReports.named
      rw [reports.named] at sameNode
      cases sameNode
      dsimp only
      rw [if_pos terminal]
      exact List.mem_cons_self
  · intro query view node present member terminal
    have shrunk : (query, node.nodeId) ≠ (runId, nodeId) →
        (query, node.nodeId) ∈ reader.terminalNodes := by
      intro other
      dsimp only at terminal
      split_ifs at terminal
      · rcases List.mem_cons.mp terminal with same | before
        · exact absurd same other
        · exact before
      · exact terminal
    simp only [RunsReader.putRun, Dict.get?_insert] at present
    split_ifs at present with same
    · cases present
      subst same
      rcases RunView.mem_readNode member with ⟨inside, other⟩ | ⟨own, ends⟩
      · rcases of_viewFor inside with ⟨earlier, was, inside⟩
        apply read.ended _ earlier node was inside
        exact shrunk fun equal => other (Prod.ext_iff.mp equal).2
      · apply ends
        by_contra active
        dsimp only at terminal
        rw [if_neg active, own] at terminal
        exact live terminal
    · apply read.ended query view node present member
      exact shrunk fun equal => same (Prod.ext_iff.mp equal).1

theorem readRow (read : NodesRead rows reader) (row : TraceRow) :
    NodesRead (rows ++ [row]) (reader.readRow row) := by
  cases event : RunsReader.eventOf row with
  | none =>
    rw [RunsReader.readRow_of_none event]
    refine ⟨?_, ?_, read.ended⟩
    · intro runId view node present member
      rcases read.reported runId view node present member with ⟨found, inRows, rest⟩
      exact ⟨found, List.mem_append_left _ inRows, rest⟩
    · intro found inRows runId nodeId metadata reports terminal
      rcases List.mem_append.mp inRows with earlier | last
      · exact read.frozen found earlier runId nodeId metadata reports terminal
      · rw [List.mem_singleton.mp last] at reports
        rw [reports.event] at event
        cases event
  | some found =>
    have read' := RunsReader.readRow_read reader event
    generalize reader.readRow row = target at read' ⊢
    cases read' with
    | kept late => exact read.quiet event rfl rfl rfl late
    | started started active =>
      refine read.quiet event rfl ?_ rfl ?_
      · rfl
      · intro nodeId reports
        rw [reports.updated] at started
        exact absurd started (by decide)
    | node reports live => exact read.node reports live
    | ended terminal =>
      refine read.quiet event rfl ?_ rfl ?_
      · rfl
      · intro nodeId reports
        exact absurd reports.updated (ne_nodeUpdated_of_terminal terminal)

end NodesRead

theorem readRows_nodesRead (rows : List TraceRow) :
    NodesRead rows (readRows rows) := by
  induction rows using List.reverseRecOn with
  | nil =>
    constructor
    · intro runId view node present
      cases present
    · intro row member
      cases member
    · intro runId view node present
      cases present
  | append_singleton rows row induction =>
    rw [readRows_append_singleton]
    exact induction.readRow row

/-! ## The statuses of the views -/

/-- A started event does not report an end. -/
def StartsActive (row : TraceRow) : Prop :=
  row.event = runStarted → ∀ metadata, row.metadata = some metadata →
    metadata.status.any (terminalStatuses.contains ·) = false

/-- A run shows an end exactly if the reader has seen one. -/
structure StatusesRead (reader : RunsReader) : Prop where
  viewed : ∀ runId ∈ reader.terminalRuns, runId ∈ reader.runs.keys
  status : ∀ runId view, reader.runs.get? runId = some view →
    (terminalStatuses.contains view.status = true ↔ runId ∈ reader.terminalRuns)

namespace StatusesRead

variable {reader : RunsReader}

theorem viewFor (read : StatusesRead reader) (runId : String) (metadata : EventMetadata) :
    terminalStatuses.contains (reader.viewFor runId metadata).status = true ↔
      runId ∈ reader.terminalRuns := by
  rw [RunsReader.viewFor]
  cases present : reader.runs.get? runId with
  | none =>
    have absent : runId ∉ reader.terminalRuns := fun ended =>
      (Dict.get?_eq_none_iff _ _).mp present (read.viewed runId ended)
    simp only [Option.getD_none, absent, iff_false, newRunView]
    decide
  | some view => exact read.status runId view present

theorem put (read : StatusesRead reader) {target : RunsReader}
    {runId : String} {after : RunView}
    (runs : target.runs = reader.runs.insert runId after)
    (others : ∀ query, query ≠ runId → (query ∈ target.terminalRuns ↔ query ∈ reader.terminalRuns))
    (own : terminalStatuses.contains after.status = true ↔ runId ∈ target.terminalRuns) :
    StatusesRead target := by
  constructor
  · intro query ended
    rw [runs, Dict.mem_keys_iff, Dict.get?_insert]
    split_ifs with same
    · exact ⟨after, rfl⟩
    · exact (Dict.mem_keys_iff _ _).mp (read.viewed query ((others query same).mp ended))
  · intro query view present
    rw [runs, Dict.get?_insert] at present
    split_ifs at present with same
    · cases present
      rw [same]
      exact own
    · rw [others query same]
      exact read.status query view present

theorem readRow (read : StatusesRead reader) {row : TraceRow}
    (active : (RunsReader.eventOf row).isSome → StartsActive row) :
    StatusesRead (reader.readRow row) := by
  cases event : RunsReader.eventOf row with
  | none =>
    rw [RunsReader.readRow_of_none event]
    exact read
  | some found =>
    have row' := RunsReader.readRow_read reader event
    generalize reader.readRow row = target at row' ⊢
    cases row' with
    | kept late =>
      exact read.put rfl (fun _ _ => Iff.rfl) (read.viewFor _ _)
    | started started open_ =>
      refine read.put rfl (fun _ _ => Iff.rfl) ?_
      have quiet := active (by rw [event]; rfl) started found.2
        (RunsReader.metadata_of_eventOf event).1
      simp only [RunView.readStarted]
      cases given : nonempty found.2.status with
      | none =>
        rw [Option.getD_none]
        exact read.viewFor _ _
      | some status =>
        have same := (Option.filter_eq_some_iff.mp given).1
        rw [same, Option.any_some] at quiet
        simp only [Option.getD_some, quiet, Bool.false_eq_true, false_iff]
        exact open_
    | node reports live =>
      exact read.put rfl (fun _ _ => Iff.rfl) (read.viewFor _ _)
    | ended event terminal =>
      refine read.put rfl ?_ ?_
      · intro query other
        simp [other]
      · obtain ⟨status, present, known⟩ := (Option.any_eq_true _ _).mp terminal
        simp only [RunView.readTerminal, present,
          nonempty_of_terminal known, Option.getD_some, known, true_iff]
        exact List.mem_cons_self

end StatusesRead

theorem readRows_statusesRead (active : ∀ row ∈ rows,
      (RunsReader.eventOf row).isSome → StartsActive row) :
    StatusesRead (readRows rows) := by
  induction rows using List.reverseRecOn with
  | nil =>
    constructor
    · intro runId ended
      cases ended
    · intro runId view present
      cases present
  | append_singleton rows row induction =>
    rw [List.forall_mem_append, List.forall_mem_singleton] at active
    rw [readRows_append_singleton]
    exact (induction active.1).readRow active.2

theorem readRows_open {runId : String} (unended : terminalEventsOf runId rows = []) :
    (readRows rows).Open runId := by
  induction rows using List.reverseRecOn with
  | nil => exact List.not_mem_nil
  | append_singleton rows row induction =>
    rw [terminalEventsOf_append, List.append_eq_nil_iff] at unended
    rcases unended with ⟨earlier, last⟩
    rw [terminalEventsOf, List.filterMap_eq_nil_iff] at last
    rw [readRows_append_singleton]
    exact (induction earlier).readRow (last row List.mem_cons_self)

theorem foldl_readRow_other {runId : String} (others : ∀ row ∈ rows, ∃ other metadata,
      RunsReader.eventOf row = some (other, metadata) ∧ other ≠ runId)
    (reader : RunsReader) :
    (rows.foldl RunsReader.readRow reader).runs.get? runId =
      reader.runs.get? runId := by
  induction rows generalizing reader with
  | nil => rfl
  | cons row rest induction =>
    rw [List.forall_mem_cons] at others
    rcases others with ⟨⟨other, metadata, event, ne⟩, later⟩
    rw [List.foldl_cons, induction later]
    have read := RunsReader.readRow_read reader event
    generalize reader.readRow row = target at read ⊢
    cases read with
    | kept => exact Dict.get?_insert_of_ne _ _ ne.symm
    | started => exact Dict.get?_insert_of_ne _ _ ne.symm
    | node => exact Dict.get?_insert_of_ne _ _ ne.symm
    | ended => exact Dict.get?_insert_of_ne _ _ ne.symm

theorem foldl_readRow_keys (reader : RunsReader)
    (known : ∀ row ∈ rows, ∃ runId ∈ reader.runs.keys, ∃ metadata,
      RunsReader.eventOf row = some (runId, metadata)) :
    (rows.foldl RunsReader.readRow reader).runs.keys =
      reader.runs.keys := by
  induction rows generalizing reader with
  | nil => rfl
  | cons row rest induction =>
    rw [List.forall_mem_cons] at known
    rcases known with ⟨⟨runId, present, metadata, event⟩, later⟩
    have same : (reader.readRow row).runs.keys = reader.runs.keys := by
      have read := RunsReader.readRow_read reader event
      generalize reader.readRow row = target at read ⊢
      cases read with
      | kept => exact Dict.keys_insert_of_mem present _
      | started => exact Dict.keys_insert_of_mem present _
      | node => exact Dict.keys_insert_of_mem present _
      | ended => exact Dict.keys_insert_of_mem present _
    rw [List.foldl_cons, induction, same]
    rw [same]
    exact later

end TurningGood.MultiAgent
