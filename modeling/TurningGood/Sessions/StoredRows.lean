import TurningGood.Sessions.StoredSession

/-!
# Traces, tool calls and token usage as they are stored

The metadata of a multi-agent trace is cleaned before it is written: a field
is kept if it is allowed and has the right type.  Hence a row of
`turn_traces.jsonl` always has an event that is a text, and the status of a
multi-agent row is a text if there is one.
-/

namespace TurningGood.Sessions.JsonlStore

open TurningGood.Foundation

variable (conversions : Conversions)

/-! ## Cleaned metadata -/

/-- `str.isspace` for one code point. -/
def isSpacePoint : CodePoint → Bool
  | .scalar char => Text.isSpace char
  | .surrogate _ => false

/-- `" ".join(text.split())`. -/
def joinWords (text : CodePoints) : CodePoints := List.intercalate (literal " ")
    ((text.splitOnP isSpacePoint).filter (· ≠ []))

/-- `[A-Za-z0-9]`. -/
def isAlphanumeric : CodePoint → Bool
  | .scalar char => char.isAlphanum
  | .surrogate _ => false

/-- `[A-Za-z0-9][A-Za-z0-9_.:-]{0,127}`. -/
def isRequestId : CodePoints → Bool
  | [] => false
  | first :: rest =>
    isAlphanumeric first && decide (rest.length ≤ 127) &&
      rest.all fun point => isAlphanumeric point || (literal "_.:-").contains point

/-- How an allowed field of the metadata is cleaned. -/
inductive MetadataRule where
  | requestId
  | label
  | node
  | content
  | usage
  | duration
  deriving DecidableEq

/-- `allowed`, with the rule of each field. -/
def allowedMetadata : List (String × MetadataRule) :=
  [("run_id", .label), ("node_id", .node), ("parent_request_id", .requestId),
    ("task_label", .label), ("strategy", .label), ("status", .label),
    ("duration_ms", .duration), ("usage", .usage), ("error_code", .label),
    ("error", .label), ("content", .content)]

/-- `int(value)` for the numbers among the named fields. -/
def usageFields (value : Json) : List String → Option (List (String × Json))
  | [] => some []
  | name :: rest =>
    match value.field? name with
    | some (.number number) =>
      (if number.isInteger then some number
        else conversions.truncate number).bind fun integer =>
          (usageFields value rest).map ((name, .number integer) :: ·)
    | _ => usageFields value rest

/-- The value that a field is cleaned to, if it is kept. -/
def cleanField : MetadataRule → Option Json → Option (Option Json)
  | .requestId, some (.string text) =>
    some (if isRequestId (joinWords text) then
      some (.string (joinWords text)) else none)
  | .label, some (.string text) =>
    some (some (.string ((joinWords text).take 256)))
  | .node, none | .node, some .null => some (some .null)
  | .node, some (.string text) => some (some (.string (text.take 128)))
  | .content, some (.string text) => some (some (.string (joinWords text)))
  | .usage, some (.object members) =>
    (usageFields conversions (.object members)
      ["input_tokens", "output_tokens", "turn_total_tokens"]).map
        fun fields => some (.ofFields fields)
  | .duration, some (.number number) =>
    (conversions.nonNegative number).map fun duration =>
      some (.number duration)
  | _, _ => some none

/-- The fields that are kept of those with a rule. -/
def cleanFields (metadata : Json) : List (String × MetadataRule) → Option (List (String × Json))
  | [] => some []
  | (name, rule) :: rest =>
    (cleanField conversions rule (metadata.field? name)).bind fun cleaned =>
      (cleanFields metadata rest).map fun others =>
        match cleaned with
        | none => others
        | some value => (name, value) :: others

/-- `_safe_multi_agent_metadata`. -/
def safeMultiAgentMetadata (metadata : JsonRow) : Option Json :=
  (cleanFields conversions metadata.json allowedMetadata).map Json.ofFields

/-! ## Rows -/

/-- `StateTrace`. -/
structure StateTrace where
  turnId : CodePoints
  state : CodePoints
  durationMs : JsonNumber
  event : CodePoints
  error : Option CodePoints
  metadata : JsonRow

/-- A text, or nothing. -/
def optionalText : Option CodePoints → Json
  | none => .null
  | some text => .string text

/-- `_trace_to_dict`. -/
def traceToDict (trace : StateTrace) : Option Json :=
  (if trace.state = literal "MULTI_AGENT" then
      safeMultiAgentMetadata conversions trace.metadata
    else some trace.metadata.json).map fun metadata =>
      .ofFields [("turn_id", .string trace.turnId), ("state", .string trace.state),
          ("duration_ms", .number trace.durationMs),
          ("event", .string trace.event),
          ("error", optionalText trace.error), ("metadata", metadata)]

/-- `ToolCallRecord`. -/
structure ToolCallRecord where
  turnId : CodePoints
  toolCallId : CodePoints
  toolName : CodePoints
  args : JsonRow
  content : CodePoints
  error : Option CodePoints
  durationMs : JsonNumber
  createdAt : CodePoints

/-- `_tool_call_to_dict`. -/
def toolCallToDict (record : ToolCallRecord) : Json := .ofFields
    [("turn_id", .string record.turnId), ("tool_call_id", .string record.toolCallId),
      ("tool_name", .string record.toolName), ("args", record.args.json),
      ("content", .string record.content),
      ("error", optionalText record.error),
      ("duration_ms", .number record.durationMs),
      ("created_at", .string record.createdAt)]

/-- The part of a usage that belongs to a run. -/
structure UsageScope where
  runId : CodePoints
  nodeId : Option CodePoints
  agentId : CodePoints
  scope : CodePoints

/-- The usage of a turn, whose total has been added up. -/
structure TokenUsage where
  turnId : CodePoints
  inputTokens : JsonNumber
  outputTokens : JsonNumber
  turnTotalTokens : JsonNumber
  totalTokens : JsonNumber
  compacted : JsonNumber
  scope : Option UsageScope

/-- The row of `save_true_token_usage`. -/
def tokenUsageToDict (usage : TokenUsage) : Json := .ofFields
    ([("turn_id", .string usage.turnId), ("input_tokens", .number usage.inputTokens),
      ("output_tokens", .number usage.outputTokens),
      ("turn_total_tokens", .number usage.turnTotalTokens),
      ("total_tokens", .number usage.totalTokens),
      ("compacted", .number usage.compacted)] ++
    match usage.scope with
    | none => []
    | some scope =>
      [("run_id", .string scope.runId), ("node_id", optionalText scope.nodeId),
        ("agent_id", .string scope.agentId),
        ("scope", .string scope.scope)])

/-! ## Rows are objects with different keys -/

theorem optionalText_proper (text : Option CodePoints) : (optionalText text).Proper := by
  cases text with
  | none => trivial
  | some text => trivial

variable {conversions}

theorem usageFields_names {value : Json} {names : List String}
    {fields : List (String × Json)}
    (read : usageFields conversions value names = some fields) :
    (fields.map (·.1)).Sublist names ∧ ∀ field ∈ fields, field.2.Proper := by
  induction names generalizing fields with
  | nil =>
    cases read
    exact ⟨List.Sublist.refl [], fun field member => nomatch member⟩
  | cons name rest induction =>
    rw [usageFields] at read
    split at read
    · rcases Option.bind_eq_some_iff.mp read with ⟨integer, -, more⟩
      rcases Option.map_eq_some_iff.mp more with ⟨others, found, rfl⟩
      rcases induction found with ⟨sublist, proper⟩
      refine ⟨sublist.cons_cons name, ?_⟩
      rw [List.forall_mem_cons]
      exact ⟨trivial, proper⟩
    · rcases induction read with ⟨sublist, proper⟩
      exact ⟨sublist.cons name, proper⟩

theorem cleanField_proper {rule : MetadataRule} {value : Option Json}
    {cleaned : Json}
    (kept : cleanField conversions rule value = some (some cleaned)) :
    cleaned.Proper := by
  rw [cleanField.eq_def] at kept
  split at kept
  · split at kept
    · cases kept
      trivial
    · cases kept
  · cases kept
    trivial
  · cases kept
    trivial
  · cases kept
    trivial
  · cases kept
    trivial
  · cases kept
    trivial
  · rcases Option.map_eq_some_iff.mp kept with ⟨fields, read, same⟩
    cases same
    rcases usageFields_names read with ⟨sublist, proper⟩
    exact Json.proper_ofFields (sublist.nodup (by decide)) proper
  · rcases Option.map_eq_some_iff.mp kept with ⟨duration, -, same⟩
    cases same
    trivial
  · cases kept

theorem cleanField_label {value : Option Json} {cleaned : Json}
    (kept : cleanField conversions .label value = some (some cleaned)) :
    ∃ text, cleaned = .string text := by
  rw [cleanField.eq_def] at kept
  split at kept
  all_goals first | contradiction | skip
  · cases kept
    exact ⟨_, rfl⟩
  · cases kept

theorem cleanFields_kept {metadata : Json}
    {rules : List (String × MetadataRule)} {fields : List (String × Json)}
    (read : cleanFields conversions metadata rules = some fields) :
    (fields.map (·.1)).Sublist (rules.map (·.1)) ∧
      ∀ field ∈ fields, ∃ rule value, (field.1, rule) ∈ rules ∧
        cleanField conversions rule value = some (some field.2) := by
  induction rules generalizing fields with
  | nil =>
    cases read
    exact ⟨List.Sublist.refl [], fun field member => nomatch member⟩
  | cons entry rest induction =>
    rcases entry with ⟨name, rule⟩
    rw [cleanFields] at read
    rcases Option.bind_eq_some_iff.mp read with ⟨cleaned, kept, more⟩
    rcases Option.map_eq_some_iff.mp more with ⟨others, found, rfl⟩
    rcases induction found with ⟨sublist, each⟩
    have later : ∀ field ∈ others, ∃ other value,
        (field.1, other) ∈ (name, rule) :: rest ∧
          cleanField conversions other value = some (some field.2) := by
      intro field member
      rcases each field member with ⟨other, value, inside, same⟩
      exact ⟨other, value, List.mem_cons_of_mem _ inside, same⟩
    cases cleaned with
    | none => exact ⟨sublist.cons name, later⟩
    | some value =>
      refine ⟨sublist.cons_cons name, ?_⟩
      rw [List.forall_mem_cons]
      exact ⟨⟨rule, _, List.mem_cons_self, kept⟩, later⟩

theorem safeMultiAgentMetadata_proper {metadata : JsonRow} {clean : Json}
    (read : safeMultiAgentMetadata conversions metadata = some clean) :
    clean.Proper := by
  rcases Option.map_eq_some_iff.mp read with ⟨fields, found, rfl⟩
  rcases cleanFields_kept found with ⟨sublist, each⟩
  apply Json.proper_ofFields (sublist.nodup (by decide))
  intro field member
  rcases each field member with ⟨rule, value, -, kept⟩
  exact cleanField_proper kept

theorem safeMultiAgentMetadata_status {metadata : JsonRow} {clean value : Json}
    (read : safeMultiAgentMetadata conversions metadata = some clean)
    (found : clean.field? "status" = some value) :
    ∃ text, value = .string text := by
  rcases Option.map_eq_some_iff.mp read with ⟨fields, cleaned, rfl⟩
  rw [Json.field?_ofFields] at found
  rcases Option.map_eq_some_iff.mp found with ⟨field, first, rfl⟩
  have member := List.mem_of_find?_eq_some first
  have named : field.1 = "status" := by
    simpa using List.find?_some first
  rcases (cleanFields_kept cleaned).2 field member with ⟨rule, origin, inside, kept⟩
  have rules : ∀ entry ∈ allowedMetadata,
      entry.1 = "status" → entry.2 = .label := by
    decide
  have label : rule = .label := rules _ inside named
  subst label
  exact cleanField_label kept

/-- What the readers of a row of `turn_traces.jsonl` rely on. -/
structure TraceRow (row : Json) : Prop where
  proper : row.Proper
  isObject : ∃ members, row = .object members
  event : ∃ text, row.field? "event" = some (.string text)
  status : ∀ metadata value, row.string? "state" = some (literal "MULTI_AGENT") →
    row.field? "metadata" = some metadata →
    metadata.field? "status" = some value →
    ∃ text, value = .string text

theorem traceToDict_traceRow {trace : StateTrace} {row : Json}
    (written : traceToDict conversions trace = some row) :
    TraceRow row := by
  rcases Option.map_eq_some_iff.mp written with ⟨metadata, made, rfl⟩
  have proper : metadata.Proper := by
    split at made
    · exact safeMultiAgentMetadata_proper made
    · cases made
      exact trace.metadata.proper
  constructor
  · apply Json.proper_ofFields (by simp only [List.map_cons]; decide)
    simp only [List.forall_mem_cons]
    exact ⟨trivial, trivial, trivial, trivial, optionalText_proper _, proper,
      by simp⟩
  · exact ⟨_, rfl⟩
  · exact ⟨trace.event, Json.field?_ofFields _ _⟩
  · intro found value state same status
    have agent : trace.state = literal "MULTI_AGENT" := by
      rw [Json.string?, Json.field?_ofFields] at state
      exact Option.some.inj state
    rw [Json.field?_ofFields] at same
    cases Option.some.inj (same.symm.trans rfl : some found = some metadata)
    rw [if_pos agent] at made
    exact safeMultiAgentMetadata_status made status

theorem toolCallToDict_proper (record : ToolCallRecord) : (toolCallToDict record).Proper := by
  apply Json.proper_ofFields (by simp only [List.map_cons]; decide)
  simp only [List.forall_mem_cons]
  exact ⟨trivial, trivial, trivial, record.args.proper, trivial,
    optionalText_proper _, trivial, trivial, by simp⟩

theorem tokenUsageToDict_proper (usage : TokenUsage) : (tokenUsageToDict usage).Proper := by
  rw [tokenUsageToDict]
  cases usage.scope with
  | none =>
    apply Json.proper_ofFields (by
      simp only [List.map_cons, List.map_append]; decide)
    simp only [List.forall_mem_append, List.forall_mem_cons]
    exact ⟨⟨trivial, trivial, trivial, trivial, trivial, trivial, by simp⟩,
      by simp⟩
  | some scope =>
    apply Json.proper_ofFields (by
      simp only [List.map_cons, List.map_append]; decide)
    simp only [List.forall_mem_append, List.forall_mem_cons]
    exact ⟨⟨trivial, trivial, trivial, trivial, trivial, trivial, by simp⟩,
      trivial, optionalText_proper _, trivial, trivial, by simp⟩

end TurningGood.Sessions.JsonlStore
