import TurningGood.Foundation.KeyedFold
import TurningGood.MultiAgent.DelegatedRun
import TurningGood.MultiAgent.RunViews
import Mathlib.Tactic.ByContra

/-!
# The recovery of interrupted runs

After a restart of the gateway, the runs without an end in the trace of
their session are closed: each of their nodes whose last event is not an end
gets one, and then the run itself.  The recovery groups the rows by their
runs; the view of the runs is read in one pass over all rows.  Both decide
on their own what an end is.

Two facts relate them.  A node that the view shows has an event, hence the
recovery has seen it; and a node whose last event is an end has stopped in
the view at its first end.
-/

namespace TurningGood.MultiAgent

open TurningGood.Foundation

variable {row : TraceRow} {rows group : List TraceRow} {runId nodeId : String}
  {metadata : EventMetadata}

/-! ## The recovery of one session -/

/-- The run of a row with the row, if it reports an event of a run. -/
def runItem? (row : TraceRow) : Option (String × TraceRow) :=
  (RunsReader.eventOf row).map fun event => (event.1, row)

/-- `grouped`: the rows of each run. -/
def groupedRows (rows : List TraceRow) : Dict String (List TraceRow) :=
  Dict.collectAll Prod.fst [] (fun group item => group ++ [item.2])
    Dict.empty (rows.filterMap runItem?)

/-- The row is the end of its run. -/
def isEnd (row : TraceRow) : Bool :=
  runTerminalEvents.contains row.event &&
    row.metadata.any fun metadata =>
      metadata.status.any (terminalStatuses.contains ·)

/-- The node of a row with the metadata of the row. -/
def nodeItem? (row : TraceRow) : Option (String × EventMetadata) :=
  row.metadata.bind fun metadata =>
    (nonempty metadata.nodeId).map fun nodeId => (nodeId, metadata)

/-- `latest_nodes`. -/
def latestNodes (rows : List TraceRow) : Dict String EventMetadata :=
  Dict.collectAll Prod.fst {} (fun _ item => item.2)
    Dict.empty (rows.filterMap nodeItem?)

/-- The metadata of the last row that has some. -/
def lastMetadata (rows : List TraceRow) : EventMetadata :=
  (rows.reverse.findSome? TraceRow.metadata).getD {}

/-- The error of an interrupted run and of its nodes. -/
def interruptedError : String := "Gateway 重启导致 Run 中断"

/-- `_recovery_trace_row`. -/
def recoveryTraceRow (runId : String) (nodeId : Option String)
    (previous : EventMetadata) : TraceRow where
  state := "MULTI_AGENT"
  event :=
    if nodeId.isSome then nodeUpdated else "multi_agent.run.failed"
  metadata := some {
    runId
    nodeId
    taskLabel :=
      if nodeId.isSome then previous.taskLabel else some "multi_agent"
    strategy := some (previous.strategy.getD "")
    status := RunStatus.interrupted.text
    errorCode := "gateway_restart"
    error := interruptedError }

/-- The row for a node, unless its last event is an end. -/
def nodeAddition? (runId : String) (node : String × EventMetadata) :
    Option TraceRow :=
  if node.2.status.any (terminalStatuses.contains ·) then none
  else some (recoveryTraceRow runId (some node.1) node.2)

/-- What is appended for a run without an end. -/
def runAdditions (run : String × List TraceRow) : List TraceRow :=
  (latestNodes run.2).entries.filterMap (nodeAddition? run.1) ++
    [recoveryTraceRow run.1 none (lastMetadata run.2)]

/-- The runs without an end, with their rows. -/
def openRuns (rows : List TraceRow) : List (String × List TraceRow) :=
  (groupedRows rows).entries.filter fun run => !run.2.any isEnd

/-- `additions`. -/
def recoveryAdditions (rows : List TraceRow) : List TraceRow :=
  (openRuns rows).flatMap runAdditions

/-- A session directory: whether its session can be read, and its traces. -/
structure TracedSession where
  readable : Bool
  traces : List TraceRow
  deriving DecidableEq, Repr

namespace TracedSession

variable (session : TracedSession)

/-- The runs of a session that are recovered. -/
def recovered : List String :=
  if session.readable then (openRuns session.traces).map Prod.fst else []

/-- The session after its additions were appended. -/
def recover : TracedSession :=
  if session.readable then
    { session with
      traces := session.traces ++ recoveryAdditions session.traces }
  else session

end TracedSession

/-- `recover_interrupted_runs`. -/
def recoverInterruptedRuns (sessions : List TracedSession) :
    List String × List TracedSession :=
  (sessions.flatMap TracedSession.recovered,
    sessions.map TracedSession.recover)

/-- The rows of a log that several runs write, among other rows. -/
inductive Emitted : TraceRow → Prop where
  | run (filter : EventFilter) (run : MultiAgentRun) :
      Emitted (runRow filter run (runEventByStatus run.status))
  | node (filter : EventFilter) (run : MultiAgentRun)
      (node : MultiAgentNode) :
      Emitted (nodeRow filter run node)
  | other {row : TraceRow} (foreign : RunsReader.eventOf row = none) :
      Emitted row

/-- Only an event of a node names a node. -/
def NamesNodes (row : TraceRow) : Prop :=
  ∀ node, nodeItem? row = some node →
    (RunsReader.eventOf row).isSome → row.event = nodeUpdated

theorem Emitted.namesNodes (emitted : Emitted row) : NamesNodes row := by
  intro node found known
  cases emitted with
  | run filter run => simp [nodeItem?, runRow, nonempty] at found
  | node => rfl
  | other foreign =>
    rw [foreign] at known
    cases known

theorem Emitted.startsActive (emitted : Emitted row)
    (known : (RunsReader.eventOf row).isSome) : StartsActive row := by
  intro started metadata found
  cases emitted with
  | run filter run =>
    cases found
    simp only [runRow] at started
    simp only [Option.any_some, terminalStatuses_text]
    cases active : run.status.isTerminal with
    | false => rfl
    | true =>
      exact absurd started (ne_runStarted_of_terminal ((runEventByStatus_terminal _).mpr active))
  | node => exact absurd started (by simp [nodeRow]; decide)
  | other foreign =>
    rw [foreign] at known
    cases known

/-! ## What the recovery finds -/

theorem mem_runItems : (runId, row) ∈ rows.filterMap runItem? ↔ row ∈ rows ∧
        ∃ metadata, RunsReader.eventOf row = some (runId, metadata) := by
  simp only [List.mem_filterMap, runItem?, Option.map_eq_some_iff, Prod.mk.injEq, Prod.exists]
  constructor
  · rintro ⟨row, inRows, owner, metadata, event, rfl, rfl⟩
    exact ⟨inRows, metadata, event⟩
  · rintro ⟨inRows, metadata, event⟩
    exact ⟨row, inRows, runId, metadata, event, rfl, rfl⟩

theorem mem_keys_groupedRows : runId ∈ (groupedRows rows).keys ↔ ∃ row ∈ rows, ∃ metadata,
        RunsReader.eventOf row = some (runId, metadata) := by
  rw [groupedRows, Dict.mem_keys_collectAll]
  constructor
  · rintro (impossible | ⟨item, member, rfl⟩)
    · cases impossible
    · exact ⟨item.2, mem_runItems.mp member⟩
  · rintro ⟨row, event⟩
    exact .inr ⟨(runId, row), mem_runItems.mpr event, rfl⟩

theorem mem_group (found : (groupedRows rows).get? runId = some group) : row ∈ group ↔ row ∈ rows ∧
        ∃ metadata, RunsReader.eventOf row = some (runId, metadata) := by
  have collected := Dict.getD_collectAll Prod.fst []
    (fun group (item : String × TraceRow) => group ++ [item.2])
    Dict.empty (rows.filterMap runItem?) runId
  have sameGroup : group =
      ((rows.filterMap runItem?).filter
        fun item => item.1 = runId).map Prod.snd := by
    rw [groupedRows] at found
    rw [found] at collected
    rw [List.map_eq_flatMap, List.flatMap_def]
    simpa [List.foldl_append_eq_append] using collected
  rw [sameGroup, ← mem_runItems]
  simp only [List.mem_map, List.mem_filter, decide_eq_true_eq]
  constructor
  · rintro ⟨item, ⟨member, rfl⟩, rfl⟩
    exact member
  · intro member
    exact ⟨_, ⟨member, rfl⟩, rfl⟩

theorem isEnd_iff (event : RunsReader.eventOf row = some (runId, metadata)) :
    isEnd row = true ↔ ∃ status, terminalStatusOf runId row = some status := by
  have present := (RunsReader.metadata_of_eventOf event).1
  simp only [isEnd, terminalStatusOf, event, present, Bool.and_eq_true,
    List.contains_iff_mem, true_and]
  by_cases terminal : row.event ∈ runTerminalEvents
  · simp only [terminal, true_and, if_true, Option.any_some,
      Option.any_eq_true, Option.filter_eq_some_iff]
  · simp only [terminal, false_and, if_false, false_iff, not_exists]
    exact fun status impossible => by cases impossible

theorem mem_openRuns (member : (runId, group) ∈ openRuns rows) :
    (groupedRows rows).get? runId = some group ∧
      terminalEventsOf runId rows = [] := by
  rw [openRuns, List.mem_filter, Dict.mem_entries_iff] at member
  rcases member with ⟨found, unended⟩
  refine ⟨found, ?_⟩
  rw [terminalEventsOf, List.filterMap_eq_nil_iff]
  intro row inRows
  cases ended : terminalStatusOf runId row with
  | none => rfl
  | some status =>
    exfalso
    cases event : RunsReader.eventOf row with
    | none =>
      rw [terminalStatusOf, event] at ended
      cases ended
    | some own =>
      have same : own.1 = runId := by
        by_contra other
        rw [RunsReader.terminalStatusOf_of_ne event other] at ended
        cases ended
      have event' : RunsReader.eventOf row = some (runId, own.2) := by
        rw [event, ← same]
      have inside := (mem_group found).mpr ⟨inRows, _, event'⟩
      have isEnd' := (isEnd_iff event').mpr ⟨status, ended⟩
      rw [Bool.not_eq_true', List.any_eq_false] at unended
      exact unended row inside isEnd'

theorem ended_of_not_open (known : runId ∈ (groupedRows rows).keys)
    (closed : runId ∉ (openRuns rows).map Prod.fst) :
    terminalEventsOf runId rows ≠ [] := by
  rcases (Dict.mem_keys_iff _ _).mp known with ⟨group, found⟩
  have hasEnd : group.any isEnd = true := by
    by_contra unended
    apply closed
    apply List.mem_map_of_mem (f := Prod.fst) (a := (runId, group))
    rw [openRuns, List.mem_filter, Dict.mem_entries_iff]
    exact ⟨found, by simpa using unended⟩
  rcases List.any_eq_true.mp hasEnd with ⟨row, inside, ends⟩
  rcases (mem_group found).mp inside with ⟨inRows, metadata, event⟩
  rcases (isEnd_iff event).mp ends with ⟨status, ended⟩
  apply List.ne_nil_of_mem
  exact List.mem_filterMap.mpr ⟨row, inRows, ended⟩

theorem foldl_replace_mem {Key Value : Type} (items : List (Key × Value))
    (start : Value) (present : items ≠ []) :
    ∃ item ∈ items, items.foldl (fun _ item => item.2) start = item.2 := by
  induction items using List.reverseRecOn with
  | nil => exact absurd rfl present
  | append_singleton rest last _ =>
    refine ⟨last, List.mem_append_right _ List.mem_cons_self, ?_⟩
    simp only [List.foldl_append, List.foldl_cons, List.foldl_nil]

theorem latestNodes_get? (inRows : row ∈ rows) (named : nodeItem? row = some (nodeId, metadata)) :
    ∃ latest, (latestNodes rows).get? nodeId = some latest ∧
      ∃ other ∈ rows, nodeItem? other = some (nodeId, latest) := by
  have item : (nodeId, metadata) ∈ rows.filterMap nodeItem? :=
    List.mem_filterMap.mpr ⟨row, inRows, named⟩
  have known : nodeId ∈ (latestNodes rows).keys := by
    rw [latestNodes, Dict.mem_keys_collectAll]
    exact .inr ⟨_, item, rfl⟩
  rcases (Dict.mem_keys_iff _ _).mp known with ⟨latest, found⟩
  refine ⟨latest, found, ?_⟩
  have collected := Dict.getD_collectAll Prod.fst {}
    (fun _ (item : String × EventMetadata) => item.2)
    Dict.empty (rows.filterMap nodeItem?) nodeId
  rw [latestNodes] at found
  rw [found, Option.getD_some] at collected
  have present : (rows.filterMap nodeItem?).filter
      (fun item => decide (item.1 = nodeId)) ≠ [] := by
    apply List.ne_nil_of_mem (a := (nodeId, metadata))
    exact List.mem_filter.mpr ⟨item, by simp⟩
  rcases foldl_replace_mem _ ((Dict.empty.get? nodeId).getD {}) present with
    ⟨⟨key, value⟩, member, last⟩
  rw [last] at collected
  rw [List.mem_filter, decide_eq_true_eq] at member
  rcases member with ⟨member, rfl⟩
  rcases List.mem_filterMap.mp member with ⟨other, inRows, named⟩
  exact ⟨other, inRows, by rw [named, collected]⟩

/-! ## The rows that are appended -/

/-- The metadata of an appended row. -/
def recoveryMetadata (runId : String) (nodeId : Option String)
    (previous : EventMetadata) : EventMetadata :=
  ((recoveryTraceRow runId nodeId previous).metadata).getD {}

theorem eventOf_recoveryTraceRow (named : runId ≠ "") (nodeId : Option String)
    (previous : EventMetadata) :
    RunsReader.eventOf (recoveryTraceRow runId nodeId previous) =
      some (runId, recoveryMetadata runId nodeId previous) := by
  have known : (recoveryTraceRow runId nodeId previous).event ∈
      multiAgentEventTypes := by
    cases nodeId with
    | none =>
      exact (by decide : "multi_agent.run.failed" ∈ multiAgentEventTypes)
    | some nodeId =>
      exact (by decide : nodeUpdated ∈ multiAgentEventTypes)
  rw [RunsReader.eventOf, if_pos ⟨rfl, known⟩]
  simp [recoveryTraceRow, recoveryMetadata, nonempty, named]

theorem recoveryMetadata_terminal (runId : String)
    (nodeId : Option String) (previous : EventMetadata) :
    (recoveryMetadata runId nodeId previous).status.any (terminalStatuses.contains ·) = true := by
  simp only [recoveryMetadata, recoveryTraceRow, Option.getD_some,
    Option.any_some, terminalStatuses_text]
  rfl

theorem terminalStatusOf_recoveryTraceRow (named : runId ≠ "") (previous : EventMetadata) :
    ∃ status, terminalStatusOf runId (recoveryTraceRow runId none previous) =
      some status := by
  apply (isEnd_iff (eventOf_recoveryTraceRow named none previous)).mp
  have event : runTerminalEvents.contains
      (recoveryTraceRow runId none previous).event = true := by
    simp only [recoveryTraceRow]
    decide
  rw [isEnd, event, Bool.true_and]
  exact recoveryMetadata_terminal runId none previous

theorem reportsNode_recoveryTraceRow (named : runId ≠ "")
    (namedNode : nodeId ≠ "") (previous : EventMetadata) :
    ReportsNode (recoveryTraceRow runId (some nodeId) previous)
      runId nodeId (recoveryMetadata runId (some nodeId) previous) := by
  refine ⟨eventOf_recoveryTraceRow named _ previous, rfl, ?_⟩
  simp [recoveryMetadata, recoveryTraceRow, nonempty, namedNode]

theorem named_of_eventOf
    (event : RunsReader.eventOf row = some (runId, metadata)) : runId ≠ "" := by
  have named := (RunsReader.metadata_of_eventOf event).2
  simpa using (Option.filter_eq_some_iff.mp named).2

theorem named_of_nodeItem (item : nodeItem? row = some (nodeId, metadata)) :
    row.metadata = some metadata ∧
      nonempty metadata.nodeId = some nodeId ∧ nodeId ≠ "" := by
  rcases Option.bind_eq_some_iff.mp item with ⟨data, present, named⟩
  rcases Option.map_eq_some_iff.mp named with ⟨found, named, same⟩
  cases same
  refine ⟨present, named, ?_⟩
  simpa using (Option.filter_eq_some_iff.mp named).2

theorem named_of_openRuns (member : (runId, group) ∈ openRuns rows) :
    runId ∈ (groupedRows rows).keys ∧ runId ≠ "" := by
  have found := (mem_openRuns member).1
  have known := (Dict.mem_keys_iff _ _).mpr ⟨group, found⟩
  refine ⟨known, ?_⟩
  rcases mem_keys_groupedRows.mp known with ⟨row, -, metadata, event⟩
  exact named_of_eventOf event

theorem mem_recoveryAdditions (member : row ∈ recoveryAdditions rows) :
    ∃ runId group nodeId previous, (runId, group) ∈ openRuns rows ∧
        row = recoveryTraceRow runId nodeId previous := by
  rcases List.mem_flatMap.mp member with ⟨⟨runId, group⟩, open_, inside⟩
  rcases List.mem_append.mp inside with node | last
  · rcases List.mem_filterMap.mp node with ⟨entry, -, added⟩
    simp only [nodeAddition?] at added
    split_ifs at added
    cases added
    exact ⟨runId, group, _, _, open_, rfl⟩
  · exact ⟨runId, group, _, _, open_, List.mem_singleton.mp last⟩

/-! ## The views after the recovery -/

/-- The log of a session after its additions. -/
def recoveredRows (rows : List TraceRow) : List TraceRow :=
  rows ++ recoveryAdditions rows

theorem readRows_recoveredRows (rows : List TraceRow) : readRows (recoveredRows rows) =
      (recoveryAdditions rows).foldl RunsReader.readRow (readRows rows) := by
  rw [readRows, recoveredRows, List.foldl_append, ← readRows]

theorem mem_keys_readRows (rows : List TraceRow) (runId : String) :
    runId ∈ (readRows rows).runs.keys ↔ runId ∈ (groupedRows rows).keys := by
  rw [mem_keys_groupedRows]
  induction rows using List.reverseRecOn with
  | nil => simp [readRows, Dict.keys, Dict.empty]
  | append_singleton rows row induction =>
    have split : (∃ other ∈ rows ++ [row], ∃ metadata,
          RunsReader.eventOf other = some (runId, metadata)) ↔
        (∃ other ∈ rows, ∃ metadata, RunsReader.eventOf other = some (runId, metadata)) ∨
        ∃ metadata, RunsReader.eventOf row = some (runId, metadata) := by
      simp only [List.mem_append, List.mem_singleton, or_and_right, exists_or, exists_eq_left]
    rw [split, ← induction, readRows_append_singleton]
    cases event : RunsReader.eventOf row with
    | none =>
      rw [RunsReader.readRow_of_none event]
      simp
    | some found =>
      have inserted : ∀ view : RunView,
          runId ∈ ((readRows rows).runs.insert found.1 view).keys ↔
            runId ∈ (readRows rows).runs.keys ∨ found.1 = runId := by
        intro view
        rw [Dict.mem_keys_iff, Dict.mem_keys_iff]
        by_cases same : runId = found.1
        · simp [same]
        · simp [Dict.get?_insert_of_ne _ _ same, Ne.symm same]
      have own : (∃ metadata, some found = some (runId, metadata)) ↔
          found.1 = runId := by
        constructor
        · rintro ⟨metadata, same⟩
          cases same
          rfl
        · rintro rfl
          exact ⟨found.2, rfl⟩
      rw [own]
      have read := RunsReader.readRow_read (readRows rows) event
      generalize (readRows rows).readRow row = target at read ⊢
      cases read with
      | kept => exact inserted _
      | started => exact inserted _
      | node => exact inserted _
      | ended => exact inserted _

section Recovered

variable {rows : List TraceRow}

variable {runId : String}

theorem eventOf_additions {row : TraceRow} (member : row ∈ recoveryAdditions rows) :
    ∃ runId ∈ (openRuns rows).map Prod.fst, ∃ metadata,
      RunsReader.eventOf row = some (runId, metadata) := by
  rcases mem_recoveryAdditions member with ⟨runId, group, nodeId, previous, open_, rfl⟩
  exact ⟨runId, List.mem_map_of_mem (f := Prod.fst) open_, _,
    eventOf_recoveryTraceRow (named_of_openRuns open_).2 _ _⟩

theorem known_of_open (member : runId ∈ (openRuns rows).map Prod.fst) :
    runId ∈ (groupedRows rows).keys := by
  rcases List.mem_map.mp member with ⟨⟨runId, group⟩, open_, rfl⟩
  exact (named_of_openRuns open_).1

theorem keys_recoveredRows : (readRows (recoveredRows rows)).runs.keys =
      (readRows rows).runs.keys := by
  rw [readRows_recoveredRows]
  apply foldl_readRow_keys
  intro row member
  rcases eventOf_additions member with ⟨runId, open_, event⟩
  exact ⟨runId, (mem_keys_readRows _ _).mpr (known_of_open open_), event⟩

theorem get?_recoveredRows_of_closed (closed : runId ∉ (openRuns rows).map Prod.fst) :
    (readRows (recoveredRows rows)).runs.get? runId = (readRows rows).runs.get? runId := by
  rw [readRows_recoveredRows]
  apply foldl_readRow_other
  intro row member
  rcases eventOf_additions member with ⟨other, open_, metadata, event⟩
  exact ⟨other, metadata, event, fun same => closed (same ▸ open_)⟩

theorem ended_recoveredRows (known : runId ∈ (groupedRows rows).keys) :
    terminalEventsOf runId (recoveredRows rows) ≠ [] := by
  rw [recoveredRows, terminalEventsOf_append]
  by_cases open_ : runId ∈ (openRuns rows).map Prod.fst
  · rcases List.mem_map.mp open_ with ⟨⟨runId, group⟩, member, rfl⟩
    have named := (named_of_openRuns member).2
    rcases terminalStatusOf_recoveryTraceRow named (lastMetadata group) with ⟨status, ended⟩
    apply List.append_ne_nil_of_right_ne_nil
    apply List.ne_nil_of_mem (a := status)
    refine List.mem_filterMap.mpr ⟨_, ?_, ended⟩
    apply List.mem_flatMap.mpr
    exact ⟨_, member, List.mem_append_right _ List.mem_cons_self⟩
  · exact List.append_ne_nil_of_left_ne_nil (ended_of_not_open known open_) _

theorem nodes_recoveredRows (names : ∀ row ∈ rows, NamesNodes row)
    (open_ : runId ∈ (openRuns rows).map Prod.fst) {view : RunView} (present :
      (readRows (recoveredRows rows)).runs.get? runId = some view)
    {node : NodeView} (member : node ∈ view.nodes) :
    terminalStatuses.contains node.status = true := by
  have read := readRows_nodesRead (recoveredRows rows)
  apply read.ended runId view node present member
  rcases read.reported runId view node present member with ⟨row, inRows, metadata, reports⟩
  rcases List.mem_append.mp inRows with earlier | added
  · rcases List.mem_map.mp open_ with ⟨⟨runId, group⟩, isOpen, rfl⟩
    dsimp only at reports
    have inGroup := (mem_group (mem_openRuns isOpen).1).mpr
      ⟨earlier, metadata, reports.event⟩
    have item : nodeItem? row = some (node.nodeId, metadata) := by
      rw [nodeItem?, (RunsReader.metadata_of_eventOf reports.event).1,
        Option.bind_some, reports.named, Option.map_some]
    -- The last event of the node decides whether a row is appended.
    rcases latestNodes_get? inGroup item with ⟨latest, found, other, otherInGroup, otherItem⟩
    rcases (mem_group (mem_openRuns isOpen).1).mp otherInGroup with
      ⟨otherInRows, otherMetadata, otherEvent⟩
    rcases named_of_nodeItem otherItem with ⟨same, named, nonempty⟩
    rw [(RunsReader.metadata_of_eventOf otherEvent).1] at same
    cases same
    cases terminal : latest.status.any (terminalStatuses.contains ·) with
    | true =>
      have updated := names other otherInRows _ otherItem
        (by rw [otherEvent]; rfl)
      exact read.frozen other (List.mem_append_left _ otherInRows) _ _ _
        ⟨otherEvent, updated, named⟩ terminal
    | false =>
      refine read.frozen _ (List.mem_append_right _ ?_) _ _ _
        (reportsNode_recoveryTraceRow (named_of_openRuns isOpen).2 nonempty latest)
        (recoveryMetadata_terminal _ _ _)
      apply List.mem_flatMap.mpr
      refine ⟨_, isOpen, List.mem_append_left _ ?_⟩
      refine List.mem_filterMap.mpr ⟨_, (Dict.mem_entries_iff _ _ _).mpr found, ?_⟩
      rw [nodeAddition?, if_neg (by rw [terminal]; exact Bool.false_ne_true)]
  · refine read.frozen row inRows _ _ _ reports ?_
    rcases mem_recoveryAdditions added with ⟨other, group, nodeId, previous, isOpen, rfl⟩
    have same := reports.event
    rw [eventOf_recoveryTraceRow (named_of_openRuns isOpen).2] at same
    cases same
    exact recoveryMetadata_terminal _ _ _

end Recovered

/-! ## The recovery closes what is open -/

/-- How a run is shown after the recovery that closed the named runs. -/
structure ClosesRun (recovered : List String)
    (before after : RunView) : Prop where
  named : after.runId = before.runId
  terminal : terminalStatuses.contains after.status = true
  nodes : before.runId ∈ recovered → ∀ node ∈ after.nodes,
    terminalStatuses.contains node.status = true
  kept : terminalStatuses.contains before.status = true → after = before

theorem recoveredRows_closes (emitted : ∀ row ∈ rows, Emitted row) (limit : Option Int) :
    List.Forall₂ (ClosesRun ((openRuns rows).map Prod.fst)) (readMultiAgentRuns rows limit)
      (readMultiAgentRuns (recoveredRows rows) limit) := by
  have statuses := readRows_statusesRead
    fun row member => (emitted row member).startsActive
  have views : List.Forall₂ (ClosesRun ((openRuns rows).map Prod.fst))
      (readRows rows).runs.values
      (readRows (recoveredRows rows)).runs.values := by
    apply Dict.forall₂_values keys_recoveredRows.symm
    intro runId before after was present
    have named := readRows_keyed rows runId before was
    have known : runId ∈ (groupedRows rows).keys :=
      (mem_keys_readRows _ _).mp ((Dict.mem_keys_iff _ _).mpr ⟨before, was⟩)
    constructor
    · rw [named, readRows_keyed _ runId after present]
    · rcases List.exists_cons_of_ne_nil (ended_recoveredRows known) with ⟨status, later, ends⟩
      rcases (readRows_decided ends).viewed with ⟨view, found, agrees⟩
      rw [present] at found
      cases found
      rw [agrees]
      have member : status ∈ terminalEventsOf runId (recoveredRows rows) := by
        rw [ends]
        exact List.mem_cons_self
      rcases List.mem_filterMap.mp member with ⟨row, -, ended⟩
      rw [terminalStatusOf] at ended
      split at ended
      · cases ended
      · split_ifs at ended
        simpa using (Option.filter_eq_some_iff.mp ended).2
    · rw [named]
      intro open_ node member
      exact nodes_recoveredRows (fun row inRows => (emitted row inRows).namesNodes)
        open_ present member
    · intro terminal
      have ended := (statuses.status runId before was).mp terminal
      have closed : runId ∉ (openRuns rows).map Prod.fst := by
        intro open_
        rcases List.mem_map.mp open_ with ⟨⟨runId, group⟩, isOpen, rfl⟩
        exact readRows_open (mem_openRuns isOpen).2 ended
      rw [get?_recoveredRows_of_closed closed, was] at present
      exact (Option.some.inj present).symm
  cases limit with
  | none => exact views
  | some limit =>
    simp only [readMultiAgentRuns]
    split_ifs
    · exact .nil
    · simp only [Text.lastItems, views.length_eq]
      exact List.forall₂_drop _ views

theorem openRuns_recoveredRows (rows : List TraceRow) :
    openRuns (recoveredRows rows) = [] := by
  rw [List.eq_nil_iff_forall_not_mem]
  rintro ⟨runId, group⟩ member
  have unended := (mem_openRuns member).2
  have known := (named_of_openRuns member).1
  rw [← mem_keys_readRows, keys_recoveredRows, mem_keys_readRows] at known
  exact ended_recoveredRows known unended

theorem recoveryAdditions_recoveredRows (rows : List TraceRow) :
    recoveryAdditions (recoveredRows rows) = [] := by
  rw [recoveryAdditions, openRuns_recoveredRows, List.flatMap_nil]

theorem TracedSession.recover_recover (session : TracedSession) : session.recover.recovered = [] ∧
      session.recover.recover = session.recover := by
  rcases session with ⟨readable, traces⟩
  cases readable with
  | false => exact ⟨rfl, rfl⟩
  | true =>
    have nothing := recoveryAdditions_recoveredRows traces
    have closed := openRuns_recoveredRows traces
    rw [recoveredRows] at nothing closed
    constructor
    · simp [recover, recovered, closed]
    · simp [recover, nothing]

/--
For every content of the session directories whose traces are written by
runs, in any order and cut anywhere: after the recovery every run that is
shown has ended, so have the nodes of the recovered runs, what had ended
before is shown as before, and a second recovery returns no run and changes
nothing.
-/
theorem recoverInterruptedRuns_closes (sessions : List TracedSession)
    (emitted : ∀ session ∈ sessions, ∀ row ∈ session.traces, Emitted row)
    (limit : Option Int) :
    List.Forall₂ (fun before after : TracedSession =>
          before.readable = true →
          List.Forall₂ (ClosesRun before.recovered) (readMultiAgentRuns before.traces limit)
            (readMultiAgentRuns after.traces limit))
        sessions (recoverInterruptedRuns sessions).2 ∧
      recoverInterruptedRuns (recoverInterruptedRuns sessions).2 =
        ([], (recoverInterruptedRuns sessions).2) := by
  constructor
  · rw [recoverInterruptedRuns, List.forall₂_map_right_iff, List.forall₂_same]
    intro session member readable
    have closes := recoveredRows_closes (emitted session member) limit
    simpa only [TracedSession.recovered, TracedSession.recover, readable,
      if_true, recoveredRows] using closes
  · simp only [recoverInterruptedRuns, Prod.mk.injEq,
      List.flatMap_eq_nil_iff, List.map_map, List.mem_map,
      forall_exists_index, and_imp, forall_apply_eq_imp_iff₂]
    constructor
    · intro session member
      exact session.recover_recover.1
    · apply List.map_congr_left
      intro session member
      exact session.recover_recover.2

/-- Runs that write into one trace; the first one is cut off. -/
def interleavedTraces : List TraceRow :=
  let filter : EventFilter := { safeTaskLabel := id, safeError := id }
  let node : MultiAgentNode :=
    { nodeId := "worker_1", role := "查资料", status := .running }
  let cut : MultiAgentRun :=
    { runId := "cut", parentRequestId := "request-1",
      strategy := .fanOutFanIn, status := .running, nodes := [node] }
  let done : MultiAgentRun :=
    { runId := "done", parentRequestId := "request-2",
      strategy := .pipeline, status := .completed, nodes := [] }
  [runRow filter cut (runEventByStatus cut.status),
    nodeRow filter cut { node with status := .completed },
    runRow filter done (runEventByStatus done.status),
    nodeRow filter cut { node with nodeId := "worker_2" }]

theorem interleavedTraces_emitted : ∀ row ∈ interleavedTraces, Emitted row := by
  simp only [interleavedTraces, List.forall_mem_cons]
  refine ⟨.run _ _, .node _ _ _, .run _ _, .node _ _ _, ?_⟩
  intro row member
  cases member

theorem recoverInterruptedRuns_closes_interleaved : recoverInterruptedRuns
        (recoverInterruptedRuns [⟨true, interleavedTraces⟩]).2 =
      ([], (recoverInterruptedRuns [⟨true, interleavedTraces⟩]).2) := by
  have emitted : ∀ session ∈ [TracedSession.mk true interleavedTraces],
      ∀ row ∈ session.traces, Emitted row := by
    intro session member
    rw [List.mem_singleton.mp member]
    exact interleavedTraces_emitted
  exact (recoverInterruptedRuns_closes _ emitted none).2

example :
    (recoverInterruptedRuns [⟨true, interleavedTraces⟩]).1 = ["cut"] := by
  decide

namespace DelegatedTurn

/-- The rows of the trace are those from before, or rows of events. -/
def AddsEmitted (turn target : DelegatedTurn) : Prop :=
  ∀ row ∈ target.log, row ∈ turn.log ∨ Emitted row

section Events

variable (filter : EventFilter) (turn : DelegatedTurn)

end Events

/-- Every row of the trace of a turn that names its run is emitted. -/
def OwnEmitted (runId : String) (turn : DelegatedTurn) : Prop :=
  ∀ row ∈ turn.log,
    (RunsReader.eventOf row).all (·.1 ≠ runId) = true ∨ Emitted row

end DelegatedTurn

end TurningGood.MultiAgent
