import TurningGood.MultiAgent.Events
import TurningGood.Sessions.StoredRows

/-!
# The rows that a recovery appends

After a restart, every run in the traces of a session that has no end is
marked as interrupted, with those of its nodes that have no end either.  The
rows are looked up as dictionaries; a row that is none, and a value in a set
look-up that cannot be hashed, raise.

Neither occurs among the rows of traces, and what is appended are rows of
traces again, which can be encoded if the earlier ones could.
-/

namespace TurningGood.Sessions.JsonlStore

open TurningGood.Foundation
open TurningGood.MultiAgent (multiAgentEventTypes runTerminalEvents)

variable {row : Json} {runId : CodePoints} {rows : List Json}

/-! ## The recovery of one session -/

/-- `terminal_statuses`. -/
def terminalStatuses : List String :=
  ["completed", "failed", "timed_out", "cancelled", "interrupted"]

/-- `value in texts`, which raises for a list and a dictionary. -/
def isMember? (value : Option Json) (texts : List String) : Option Bool :=
  match value with
  | some (.array _) | some (.object _) => none
  | some (.string text) => some ((texts.map literal).contains text)
  | _ => some false

/-- The run of a row, if it is the row of a multi-agent event. -/
def runOf? : Json → Option (Option CodePoints)
  | .object members =>
    let row := Json.object members
    if row.string? "state" = some (literal "MULTI_AGENT") then
      (isMember? (row.field? "event") multiAgentEventTypes).map fun known =>
          if known then
            ((row.field? "metadata").bind fun metadata =>
              metadata.string? "run_id").filter (· ≠ [])
          else none
    else some none
  | _ => none

/-- `grouped`: the rows of each run. -/
def groupRows (grouped : Dict CodePoints (List Json)) :
    List Json → Option (Dict CodePoints (List Json))
  | [] => some grouped
  | row :: rest =>
    (runOf? row).bind fun run =>
      match run with
      | none => groupRows grouped rest
      | some runId =>
        groupRows (grouped.insert runId ((grouped.get? runId).getD [] ++ [row])) rest

/-- The row is the end of its run. -/
def isEnd? (row : Json) : Option Bool :=
  (isMember? (row.field? "event") runTerminalEvents).bind fun ends =>
    if ends then
      match row.field? "metadata" with
      | some (.object members) =>
        isMember? ((Json.object members).field? "status") terminalStatuses
      | _ => some false
    else some false

/-- Some row is the end of its run. -/
def hasEnd? : List Json → Option Bool
  | [] => some false
  | row :: rest =>
    (isEnd? row).bind fun ends => if ends then some true else hasEnd? rest

/-- The node of a row, with its metadata. -/
def nodeOf? (row : Json) : Option (CodePoints × Json) :=
  (row.field? "metadata").bind fun metadata =>
    ((metadata.string? "node_id").filter (· ≠ [])).map fun nodeId =>
      (nodeId, metadata)

/-- `latest_nodes`. -/
def latestNodes (rows : List Json) : Dict CodePoints Json :=
  (rows.filterMap nodeOf?).foldl (fun nodes entry => nodes.insert entry.1 entry.2) .empty

/-- `row["metadata"]`, if it is a dictionary. -/
def objectMetadata? (row : Json) : Option Json :=
  match row.field? "metadata" with
  | some (.object members) => some (.object members)
  | _ => none

/-- The metadata of the last row that has some. -/
def lastMetadata (rows : List Json) : Json :=
  (rows.reverse.findSome? objectMetadata?).getD (.object [])

/-- `_recovery_trace_row`. -/
def recoveryTraceRow (runId : CodePoints) (nodeId : Option CodePoints) (previous : Json) : Json :=
  let error := Json.string (literal "Gateway 重启导致 Run 中断")
  .ofFields [("turn_id", .string (literal "recovery-" ++ runId)),
      ("state", .string (literal "MULTI_AGENT")),
      ("duration_ms", .number (.finite ['0', '.', '0'] (by decide))),
      ("event", .string (literal
        (if nodeId.isSome then "multi_agent.node.updated"
          else "multi_agent.run.failed"))),
      ("error", error),
      ("metadata", .ofFields [("run_id", .string runId), ("node_id", optionalText nodeId),
          ("task_label",
            if nodeId.isSome then (previous.field? "task_label").getD .null
            else .string (literal "multi_agent")),
          ("strategy", (previous.field? "strategy").getD (.string [])),
          ("status", .string (literal "interrupted")),
          ("duration_ms", (previous.field? "duration_ms").getD .null),
          ("usage", .null),
          ("error_code", .string (literal "gateway_restart")),
          ("error", error)])]

/-- The rows for the nodes that have not ended. -/
def nodeAdditions (runId : CodePoints) : List (CodePoints × Json) → Option (List Json)
  | [] => some []
  | (nodeId, metadata) :: rest =>
    (isMember? (metadata.field? "status") terminalStatuses).bind
      fun ended => (nodeAdditions runId rest).map fun others =>
        if ended then others
        else recoveryTraceRow runId (some nodeId) metadata :: others

/-- The runs that have not ended, with the rows that are appended. -/
def interruptions : List (CodePoints × List Json) → Option (List (CodePoints × List Json))
  | [] => some []
  | (runId, rows) :: rest =>
    (hasEnd? rows).bind fun ended =>
      if ended then interruptions rest
      else (nodeAdditions runId (latestNodes rows).entries).bind
        fun nodes => (interruptions rest).map fun others =>
          (runId, nodes ++ [recoveryTraceRow runId none (lastMetadata rows)]) :: others

/-- The runs that are recovered from traces, with what is appended. -/
def recoveredRuns (traces : List Json) :
    Option (List (CodePoints × List Json)) :=
  (groupRows .empty traces).bind fun grouped => interruptions grouped.entries

/-- `additions`. -/
def recoveryRows (traces : List Json) : Option (List Json) :=
  (recoveredRuns traces).map fun runs => runs.flatMap (·.2)

/-! ## What the rows of a run are -/

/-- Metadata whose status is a text, if there is one. -/
structure AgentMetadata (metadata : Json) : Prop where
  proper : metadata.Proper
  encodable : metadata.Encodable
  status : ∀ value, metadata.field? "status" = some value → ∃ text, value = .string text

/-- A row of a multi-agent event. -/
structure AgentRow (row : Json) : Prop where
  event : ∃ text, row.field? "event" = some (.string text)
  metadata : ∀ metadata, row.field? "metadata" = some metadata → AgentMetadata metadata

theorem isMember?_of_text {value : Option Json}
    (isText : ∀ found, value = some found → ∃ text, found = .string text)
    (texts : List String) : ∃ member, isMember? value texts = some member := by
  cases value with
  | none => exact ⟨false, rfl⟩
  | some found =>
    rcases isText found rfl with ⟨text, rfl⟩
    exact ⟨_, rfl⟩

theorem AgentRow.isMember? (agent : AgentRow row) (texts : List String) :
    ∃ member, isMember? (row.field? "event") texts = some member := by
  rcases agent.event with ⟨text, same⟩
  rw [same]
  exact ⟨_, rfl⟩

theorem scalar_of_string? {value : Json} {name : String} {text : CodePoints}
    (encodable : value.Encodable) (found : value.string? name = some text) :
    IsScalarText text := by
  have field := Json.text?_eq_some.mp found
  exact Json.encodable_string.mp (encodable.get? field)

theorem TraceRow.runOf? (trace : TraceRow row) (encodable : row.Encodable) :
    ∃ run, runOf? row = some run ∧
      ∀ runId, run = some runId → IsScalarText runId ∧ AgentRow row := by
  rcases trace.isObject with ⟨members, rfl⟩
  rw [JsonlStore.runOf?]
  by_cases state : (Json.object members).string? "state" = some (literal "MULTI_AGENT")
  · rcases trace.event with ⟨text, same⟩
    simp only [if_pos state, same, JsonlStore.isMember?, Option.map_some]
    refine ⟨_, rfl, ?_⟩
    intro runId found
    have agent : AgentRow (.object members) := by
      refine ⟨trace.event, fun metadata field => ?_⟩
      exact ⟨trace.proper.get? field, encodable.get? field,
        fun value => trace.status metadata value state field⟩
    refine ⟨?_, agent⟩
    split at found
    · have inside := (Option.filter_eq_some_iff.mp found).1
      rcases Option.bind_eq_some_iff.mp inside with ⟨metadata, field, text⟩
      exact scalar_of_string? (encodable.get? field) text
    · cases found
  · exact ⟨none, if_neg state, fun runId impossible => nomatch impossible⟩

/-- What is known of the rows of each run. -/
def Grouped (entries : List (CodePoints × List Json)) : Prop :=
  ∀ entry ∈ entries, IsScalarText entry.1 ∧ ∀ row ∈ entry.2, AgentRow row

theorem Grouped.insert {grouped : Dict CodePoints (List Json)}
    (known : Grouped grouped.entries) (scalar : IsScalarText runId)
    (agent : AgentRow row) :
    Grouped (grouped.insert runId ((grouped.get? runId).getD [] ++ [row])).entries := by
  intro entry member
  have found := ((grouped.insert runId _).mem_entries_iff _ _).mp member
  rw [Dict.get?_insert] at found
  split at found
  · rename_i same
    rcases entry with ⟨key, rows⟩
    dsimp only at same found
    subst same
    cases found
    refine ⟨scalar, ?_⟩
    rw [List.forall_mem_append, List.forall_mem_singleton]
    refine ⟨?_, agent⟩
    cases earlier : grouped.get? key with
    | none => exact fun other inside => by cases inside
    | some rows => exact (known _ ((grouped.mem_entries_iff _ _).mpr earlier)).2
  · exact known _ ((grouped.mem_entries_iff _ _).mpr found)

theorem groupRows_of_traces {traces : List Json}
    (each : ∀ row ∈ traces, TraceRow row ∧ row.Encodable)
    {grouped : Dict CodePoints (List Json)}
    (known : Grouped grouped.entries) :
    ∃ target, groupRows grouped traces = some target ∧
      Grouped target.entries := by
  induction traces generalizing grouped with
  | nil => exact ⟨grouped, rfl, known⟩
  | cons row rest induction =>
    rw [List.forall_mem_cons] at each
    rcases each with ⟨⟨trace, encodable⟩, later⟩
    rcases trace.runOf? encodable with ⟨run, found, agent⟩
    rw [groupRows, found, Option.bind_some]
    cases run with
    | none => exact induction later known
    | some runId =>
      rcases agent runId rfl with ⟨scalar, isAgent⟩
      exact induction later (known.insert scalar isAgent)

theorem AgentRow.isEnd? (agent : AgentRow row) : ∃ ends, isEnd? row = some ends := by
  rcases agent.isMember? runTerminalEvents with ⟨ends, same⟩
  rw [JsonlStore.isEnd?, same, Option.bind_some]
  cases ends with
  | false => exact ⟨false, rfl⟩
  | true =>
    rw [if_pos rfl]
    split
    · rename_i members field
      exact isMember?_of_text (agent.metadata _ field).status _
    · exact ⟨false, rfl⟩

theorem hasEnd?_of_agents (agents : ∀ row ∈ rows, AgentRow row) :
    ∃ ends, hasEnd? rows = some ends := by
  induction rows with
  | nil => exact ⟨false, rfl⟩
  | cons row rest induction =>
    rw [List.forall_mem_cons] at agents
    rcases agents.1.isEnd? with ⟨ends, same⟩
    rw [hasEnd?, same, Option.bind_some]
    cases ends with
    | true => exact ⟨true, rfl⟩
    | false => exact induction agents.2

/-- What is known of the latest metadata of each node. -/
def Latest (entries : List (CodePoints × Json)) : Prop :=
  ∀ entry ∈ entries, IsScalarText entry.1 ∧ AgentMetadata entry.2

theorem latestNodes_of_agents (agents : ∀ row ∈ rows, AgentRow row) :
    Latest (latestNodes rows).entries := by
  have entries : Latest (rows.filterMap nodeOf?) := by
    intro entry member
    rcases List.mem_filterMap.mp member with ⟨row, inside, found⟩
    rcases Option.bind_eq_some_iff.mp found with ⟨metadata, field, node⟩
    rcases Option.map_eq_some_iff.mp node with ⟨nodeId, text, rfl⟩
    have agent := (agents row inside).metadata metadata field
    exact ⟨scalar_of_string? agent.encodable (Option.filter_eq_some_iff.mp text).1, agent⟩
  suffices folded : ∀ (items : List (CodePoints × Json))
      (nodes : Dict CodePoints Json), Latest items → Latest nodes.entries →
      Latest (items.foldl (fun nodes entry => nodes.insert entry.1 entry.2) nodes).entries from
    folded _ _ entries fun entry member => nomatch member
  intro items
  induction items with
  | nil => exact fun nodes _ known => known
  | cons item rest induction =>
    intro nodes latest known
    unfold Latest at latest
    rw [List.forall_mem_cons] at latest
    apply induction _ latest.2
    intro entry member
    have found := ((nodes.insert item.1 item.2).mem_entries_iff _ _).mp member
    rw [Dict.get?_insert] at found
    split at found
    · rename_i same
      rcases entry with ⟨key, metadata⟩
      cases found
      cases same
      exact latest.1
    · exact known _ ((nodes.mem_entries_iff _ _).mpr found)

theorem lastMetadata_of_agents (agents : ∀ row ∈ rows, AgentRow row) :
    AgentMetadata (lastMetadata rows) := by
  rw [lastMetadata]
  cases found : rows.reverse.findSome? objectMetadata? with
  | none =>
    refine ⟨⟨List.nodup_nil, trivial⟩, ?_, fun value field => nomatch field⟩
    exact Json.encodable_object.mpr fun member inside => nomatch inside
  | some metadata =>
    rcases List.exists_of_findSome?_eq_some found with ⟨row, member, same⟩
    rw [objectMetadata?] at same
    split at same
    · rename_i members field
      cases same
      exact (agents row (List.mem_reverse.mp member)).metadata _ field
    · cases same

theorem AgentMetadata.getD {metadata : Json}
    (agent : AgentMetadata metadata) (name : String) (standIn : Json)
    (proper : standIn.Proper) (encodable : standIn.Encodable) :
    ((metadata.field? name).getD standIn).Proper ∧
      ((metadata.field? name).getD standIn).Encodable := by
  cases found : metadata.field? name with
  | none => exact ⟨proper, encodable⟩
  | some value =>
    exact ⟨agent.proper.get? found, agent.encodable.get? found⟩

theorem recoveryTraceRow_sound {nodeId : Option CodePoints} {previous : Json}
    (scalar : IsScalarText runId)
    (scalarNode : ∀ text, nodeId = some text → IsScalarText text)
    (agent : AgentMetadata previous) :
    TraceRow (recoveryTraceRow runId nodeId previous) ∧
      (recoveryTraceRow runId nodeId previous).Encodable := by
  have label : (if nodeId.isSome then
        (previous.field? "task_label").getD .null
      else Json.string (literal "multi_agent")).Proper ∧
      (if nodeId.isSome then (previous.field? "task_label").getD .null
      else Json.string (literal "multi_agent")).Encodable := by
    split
    · exact agent.getD _ .null trivial Json.encodable_null
    · exact ⟨trivial, Json.encodable_string.mpr (isScalarText_literal _)⟩
  have empty : Json.Encodable (.string []) :=
    Json.encodable_string.mpr fun point member => nomatch member
  have strategy := agent.getD "strategy" (.string []) trivial empty
  have duration := agent.getD "duration_ms" .null trivial Json.encodable_null
  have node : (optionalText nodeId).Encodable := by
    cases nodeId with
    | none => exact Json.encodable_null
    | some text => exact Json.encodable_string.mpr (scalarNode text rfl)
  have run : Json.Encodable (.string runId) :=
    Json.encodable_string.mpr scalar
  have turn : Json.Encodable (.string (literal "recovery-" ++ runId)) :=
    Json.encodable_string.mpr (isScalarText_append.mpr ⟨isScalarText_literal _, scalar⟩)
  have text (value : String) : Json.Encodable (.string (literal value)) :=
    Json.encodable_string.mpr (isScalarText_literal value)
  constructor
  · constructor
    · apply Json.proper_ofFields (by simp only [List.map_cons]; decide)
      simp only [List.forall_mem_cons]
      refine ⟨trivial, trivial, trivial, trivial, trivial, ?_, by simp⟩
      apply Json.proper_ofFields (by simp only [List.map_cons]; decide)
      simp only [List.forall_mem_cons]
      exact ⟨trivial, optionalText_proper _, label.1, strategy.1, trivial,
        duration.1, trivial, trivial, trivial, by simp⟩
    · exact ⟨_, rfl⟩
    · exact ⟨_, Json.field?_ofFields _ _⟩
    · intro metadata value _ field status
      rw [recoveryTraceRow, Json.field?_ofFields] at field
      cases field
      rw [Json.field?_ofFields] at status
      cases status
      exact ⟨_, rfl⟩
  · rw [recoveryTraceRow, Json.encodable_ofFields]
    simp only [List.forall_mem_cons]
    refine ⟨turn, text _, Json.encodable_number _, text _, text _, ?_,
      by simp⟩
    rw [Json.encodable_ofFields]
    simp only [List.forall_mem_cons]
    exact ⟨run, node, label.2, strategy.2, text _, duration.2,
      Json.encodable_null, text _, text _, by simp⟩

/-- The rows of a session that is recovered. -/
def SoundRows (rows : List Json) : Prop := ∀ row ∈ rows, TraceRow row ∧ row.Encodable

theorem nodeAdditions_sound (scalar : IsScalarText runId)
    {nodes : List (CodePoints × Json)} (latest : Latest nodes) :
    ∃ rows, nodeAdditions runId nodes = some rows ∧ SoundRows rows := by
  induction nodes with
  | nil => exact ⟨[], rfl, fun row member => nomatch member⟩
  | cons node rest induction =>
    unfold Latest at latest induction
    rw [List.forall_mem_cons] at latest
    rcases latest with ⟨⟨scalarNode, agent⟩, later⟩
    rcases isMember?_of_text agent.status terminalStatuses with ⟨ended, same⟩
    rcases induction later with ⟨others, found, sound⟩
    rw [nodeAdditions, same, Option.bind_some, found, Option.map_some]
    cases ended with
    | true => exact ⟨others, rfl, sound⟩
    | false =>
      refine ⟨_, rfl, ?_⟩
      intro row member
      rcases List.mem_cons.mp member with rfl | inside
      · apply recoveryTraceRow_sound scalar _ agent
        intro text isNode
        cases isNode
        exact scalarNode
      · exact sound row inside

theorem interruptions_sound {entries : List (CodePoints × List Json)} (grouped : Grouped entries) :
    ∃ runs, interruptions entries = some runs ∧ ∀ run ∈ runs, SoundRows run.2 := by
  induction entries with
  | nil => exact ⟨[], rfl, fun run member => nomatch member⟩
  | cons entry rest induction =>
    unfold Grouped at grouped induction
    rw [List.forall_mem_cons] at grouped
    rcases grouped with ⟨⟨scalar, agents⟩, later⟩
    rcases induction later with ⟨others, found, sound⟩
    rcases hasEnd?_of_agents agents with ⟨ended, same⟩
    rw [interruptions, same, Option.bind_some]
    cases ended with
    | true => exact ⟨others, found, sound⟩
    | false =>
      rcases nodeAdditions_sound scalar (latestNodes_of_agents agents)
        with ⟨nodes, added, soundNodes⟩
      simp only [Bool.false_eq_true, if_false, added, Option.bind_some, found, Option.map_some]
      refine ⟨_, rfl, ?_⟩
      rw [List.forall_mem_cons]
      refine ⟨?_, sound⟩
      intro row member
      rcases List.mem_append.mp member with inNodes | last
      · exact soundNodes row inNodes
      · rw [List.mem_singleton.mp last]
        exact recoveryTraceRow_sound scalar (fun text impossible => nomatch impossible)
          (lastMetadata_of_agents agents)

theorem recoveryRows_sound {traces : List Json} (sound : SoundRows traces) :
    ∃ rows, recoveryRows traces = some rows ∧ SoundRows rows := by
  have nothing : Grouped (Dict.empty : Dict CodePoints (List Json)).entries :=
    fun entry member => nomatch member
  rcases groupRows_of_traces sound nothing with ⟨grouped, found, known⟩
  rcases interruptions_sound known with ⟨runs, interrupted, each⟩
  refine ⟨runs.flatMap (·.2), ?_, ?_⟩
  · rw [recoveryRows, recoveredRuns, found, Option.bind_some, interrupted, Option.map_some]
  · intro row member
    rcases List.mem_flatMap.mp member with ⟨run, inside, isRow⟩
    exact each run inside row isRow

end TurningGood.Sessions.JsonlStore
