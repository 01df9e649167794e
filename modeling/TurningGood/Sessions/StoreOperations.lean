import Mathlib.Data.List.Lex
import Mathlib.Order.Nat
import TurningGood.Foundation.TwoRuns
import TurningGood.MultiAgent.Events
import TurningGood.Sessions.StoreWrites

/-!
# The calls of the session store

The calls that read, write and remove sessions, as actions on the files of
the store.  A directory is looked up again by every access.  A write that
meets a text that cannot be encoded stops there and raises.

The directory name of a session is its quoted id.  Quoting changes neither
the empty text nor the names of the directory itself and its parent, so a
call that removes the directory of such an id removes the files of the store
altogether.
-/

namespace TurningGood.Sessions.JsonlStore

open TurningGood.Foundation TurningGood.Foundation.Action

/-- How a call fails. -/
inductive Failure where
  | permission (text : String)
  | value (text : String)
  | raised
  deriving DecidableEq, Repr

/-- A call of the store. -/
abbrev StoreAction := Action SessionFiles Failure

variable (conversions : Conversions)

/-- A time as `utc_now_iso` writes it, with the second of its directory. -/
structure Moment where
  text : CodePoints
  second : Nat
  aware : conversions.isAware text = true

/-- `ChannelRoute`; the session ids of routes are derived, never empty. -/
structure ChannelRoute where
  principalId : CodePoints
  channel : CodePoints
  conversationId : CodePoints
  sessionId : CodePoints
  named : sessionId ≠ []

/-- What is read, or that reading it raises. -/
def orRaise {α : Type} : Option α → Except Failure α
  | some value => .ok value
  | none => .error .raised

/-- `_session_dir`; a surrogate cannot be quoted. -/
def sessionDir (sessionId : CodePoints) : StoreAction DirName :=
  reading fun files =>
    if (Utf8.scalars? sessionId).isSome then
      .ok (findSessionDir conversions files sessionId)
    else .error .raised

/-- `load_session`. -/
def load (sessionId : CodePoints) :
    StoreAction (Option (StoredSession conversions)) := do
  let name ← sessionDir conversions sessionId
  reading fun files => .ok (sessionIn conversions files name)

/-- `_read_jsonl` for a file of rows of a session. -/
def readJsonl (sessionId : CodePoints) (kind : RecordKind) :
    StoreAction (List Json) := do
  let name ← sessionDir conversions sessionId
  reading fun files => orRaise (JsonLines.readJsonl (recordsIn files name kind))

variable {conversions} in
/-- Write a file as far as its text can be encoded. -/
def writeFile (write : FileWrite conversions) : StoreAction Unit := do
  modify fun files => changeDir files write.name (write.put write.bytes)
  if write.encodable then pure () else throw .raised

/-- `_append_jsonl_rows` for a file of rows of a session. -/
def appendJsonlRows (sessionId : CodePoints) (kind : RecordKind)
    (rows : List Json) : StoreAction Unit := do
  let name ← sessionDir conversions sessionId
  if rows.isEmpty then pure ()
  else writeFile (FileWrite.append name kind rows : FileWrite conversions)

/-- `_write_session`. -/
def writeSession (session : StoredSession conversions) :
    StoreAction Unit := do
  let name ← sessionDir conversions session.id
  writeFile (.snapshot name session)

/-! ## Sessions -/

/-- `has_session_record`; a text that is not UTF-8 raises. -/
def hasSessionRecord (sessionId : CodePoints) :
    List SessionDir → Except Failure Bool
  | [] => .ok false
  | dir :: rest =>
    match dir.session with
    | none => hasSessionRecord sessionId rest
    | some bytes =>
      match Utf8.decode? bytes with
      | none => .error .raised
      | some chars =>
        if (Json.loads (textOf (JsonLines.universalNewlines chars))).bind
            (Json.string? "id") = some sessionId then
          .ok true
        else hasSessionRecord sessionId rest

/-- The session that is created for a route. -/
def sessionFor (route : ChannelRoute) (now : Moment conversions) :
    StoredSession conversions where
  id := route.sessionId
  userId := route.principalId
  channel := route.channel
  principalId := route.principalId
  conversationId := route.conversationId
  title := route.sessionId
  summary := []
  pinned := false
  archived := false
  uncompactedHistory := []
  createdAt := now.text
  updatedAt := now.text
  named := route.named
  timed := ⟨now.aware, now.aware⟩

/-- `create_session`. -/
def createSession (route : ChannelRoute) (now : Moment conversions) :
    StoreAction (StoredSession conversions) := do
  writeFile (.snapshot (.created now.second route.sessionId)
    (sessionFor conversions route now))
  return sessionFor conversions route now

/-- Quoting the id gives the name of the directory or of its parent. -/
def namesRoot (sessionId : CodePoints) : Bool :=
  sessionId = [] ∨ sessionId = literal "." ∨ sessionId = literal ".."

/-- `clear_session`. -/
def clearSession (sessionId : CodePoints) : StoreAction Unit := do
  let name ← sessionDir conversions sessionId
  modify fun files =>
    if name = .legacy sessionId ∧ namesRoot sessionId then .empty
    else files.erase name

/-- The session of a directory is older than the deadline. -/
def isExpired (beforeDeadline : CodePoints → Bool) (dir : SessionDir) :
    Bool :=
  (dir.read conversions).any fun session => beforeDeadline session.updatedAt

/-- `cleanup_expired_sessions`, which removes sessions of all principals. -/
def cleanupExpiredSessions (retentionDays : Int)
    (beforeDeadline : CodePoints → Bool) : StoreAction Nat := do
  if retentionDays ≤ 0 then return 0
  let removed ← reading fun files => .ok
    (files.entries.countP fun entry =>
      isExpired conversions beforeDeadline entry.2)
  modify fun files =>
    files.filter fun _ dir => !isExpired conversions beforeDeadline dir
  return removed

/-- The number of a code point, by which texts are compared. -/
def pointValue : CodePoint → Nat
  | .scalar char => char.toNat
  | .surrogate offset => 0xD800 + offset.val

/-- Sorted by the last update, and then with the pinned ones in front. -/
def sortSessions (sessions : List (StoredSession conversions)) :
    List (StoredSession conversions) :=
  (sessions.mergeSort fun first second =>
    decide (second.updatedAt.map pointValue ≤
      first.updatedAt.map pointValue)).mergeSort fun first second =>
        first.pinned || !second.pinned

/-- `list_sessions` for a principal. -/
def listSessions (principalId : CodePoints) :
    StoreAction (List (StoredSession conversions)) :=
  reading fun files => .ok (sortSessions conversions
    ((files.entries.filterMap fun entry => entry.2.read conversions).filter
      fun session => session.principalId = principalId))

variable {conversions} in
/-- The session with the time of a change. -/
def touched (now : Moment conversions) (session : StoredSession conversions) :
    StoredSession conversions :=
  { session with
    updatedAt := now.text
    timed := ⟨session.timed.1, now.aware⟩ }

/-- A changed session is written with the time of the change. -/
def updateSession (sessionId : CodePoints) (now : Moment conversions)
    (change : StoredSession conversions → StoredSession conversions) :
    StoreAction (Option (StoredSession conversions)) := do
  match ← load conversions sessionId with
  | none => return none
  | some session =>
    writeSession conversions (touched now (change session))
    return some (touched now (change session))

/-- `update_summary`. -/
def updateSummary (sessionId summary : CodePoints)
    (now : Moment conversions) : StoreAction Unit := do
  let _ ← updateSession conversions sessionId now
    fun session => { session with summary := summary }
  return ()

/-- `update_uncompacted_history`. -/
def updateUncompactedHistory (sessionId : CodePoints)
    (history : List (HistoryItem conversions)) (now : Moment conversions) :
    StoreAction Unit := do
  let _ ← updateSession conversions sessionId now
    fun session => { session with uncompactedHistory := history }
  return ()

/-- `update_session_metadata`. -/
def updateSessionMetadata (sessionId : CodePoints)
    (title : Option CodePoints) (pinned archived : Option Bool)
    (now : Moment conversions) :
    StoreAction (Option (StoredSession conversions)) :=
  updateSession conversions sessionId now fun session =>
    { session with
      title := title.getD session.title
      pinned := pinned.getD session.pinned
      archived := archived.getD session.archived }

/-- `_touch_session`. -/
def touchSession (sessionId : CodePoints) (now : Moment conversions) :
    StoreAction Unit := do
  let _ ← updateSession conversions sessionId now id
  return ()

/-- `save_message`. -/
def saveMessage (sessionId : CodePoints) (record : StoredMessage conversions)
    (now : Moment conversions) : StoreAction (StoredMessage conversions) := do
  appendJsonlRows conversions sessionId .messages
    [(messageToDict conversions record).json]
  touchSession conversions sessionId now
  return record

/-- The messages of rows. -/
def messagesOf (rows : List Json) : StoreAction (List LoadedMessage) :=
  reading fun _ => orRaise (rows.mapM (dictToMessage conversions))

/-- `all_messages`. -/
def readAllMessages (sessionId : CodePoints) :
    StoreAction (List LoadedMessage) := do
  let rows ← readJsonl conversions sessionId .messages
  messagesOf conversions rows

/-- `rows[-limit:]`. -/
def lastRows (limit : Int) (rows : List Json) : List Json :=
  if 0 < limit then Text.lastItems limit.toNat rows
  else rows.drop (-limit).toNat

/-- `recent_messages`. -/
def recentMessages (sessionId : CodePoints) (limit : Int) :
    StoreAction (List LoadedMessage) := do
  let rows ← readJsonl conversions sessionId .messages
  messagesOf conversions (lastRows limit rows)

/-! ## Traces -/

/-- `save_turn_traces`: all traces go to the session of the first one. -/
def saveTurnTraces (traces : List (CodePoints × StateTrace)) :
    StoreAction Unit :=
  match traces with
  | [] => pure ()
  | first :: _ => do
    let rows ← reading fun _ => orRaise
      (traces.mapM fun trace => traceToDict conversions trace.2)
    appendJsonlRows conversions first.1 .turnTraces rows

/-- A text of a file, which has no surrogates. -/
def plainText (text : CodePoints) : Option String :=
  (Utf8.scalars? text).map String.ofList

/-- A field of a row that is a text. -/
def textField (name : String) (row : Json) : Option String :=
  (row.string? name).bind plainText

/-- The metadata of a row, as far as the fields are texts. -/
def eventMetadata (metadata : Json) : MultiAgent.EventMetadata where
  runId := textField "run_id" metadata
  parentRequestId := textField "parent_request_id" metadata
  nodeId := textField "node_id" metadata
  taskLabel := textField "task_label" metadata
  strategy := textField "strategy" metadata
  status := textField "status" metadata
  errorCode := textField "error_code" metadata
  error := textField "error" metadata
  content := textField "content" metadata

/-- A row of the trace of a session; only objects are metadata. -/
def traceRow (row : Json) : MultiAgent.TraceRow where
  state := (textField "state" row).getD ""
  event := (textField "event" row).getD ""
  metadata :=
    match row.field? "metadata" with
    | some (.object members) => some (eventMetadata (.object members))
    | _ => none

/-- The tokens that are summed up for a run. -/
structure UsageSummary where
  worker : List Int
  total : List Int
  deriving DecidableEq, Repr

/-- `int(row.get(name, 0))`. -/
def integerField (name : String) (row : Json) : Option Int :=
  match row.field? name with
  | none => some 0
  | some value => integer? conversions value

/-- One row of `_multi_agent_usage_summary`. -/
def addUsage (runId : String) (summary : UsageSummary) (row : Json) :
    Option UsageSummary :=
  if textField "run_id" row = some runId ∧
      (textField "scope" row = some "worker" ∨
        textField "scope" row = some "parent") then
    (["input_tokens", "output_tokens", "turn_total_tokens"].mapM fun name =>
      integerField conversions name row).map fun values =>
        { worker :=
            if textField "scope" row = some "worker" then
              List.zipWith (· + ·) summary.worker values
            else summary.worker
          total := List.zipWith (· + ·) summary.total values }
  else some summary

/-- `_multi_agent_usage_summary`. -/
def usageSummary (rows : List Json) (runId : String) : Option UsageSummary :=
  rows.foldlM (addUsage conversions runId) ⟨[0, 0, 0], [0, 0, 0]⟩

/-- `read_multi_agent_runs`. -/
def readRuns (sessionId : CodePoints) (limit : Int) :
    StoreAction (List (MultiAgent.RunView × UsageSummary)) :=
  if limit ≤ 0 then pure []
  else do
    let traces ← readJsonl conversions sessionId .turnTraces
    let views := MultiAgent.readMultiAgentRuns (traces.map traceRow) limit
    if views.isEmpty then return []
    let usage ← readJsonl conversions sessionId .trueTokenUsage
    reading fun _ => orRaise (views.mapM fun view =>
      (usageSummary conversions usage view.runId).map fun summary =>
        (view, summary))

/-! ## Token usage and tool calls -/

/-- How numbers are written, and values are shown in texts. -/
structure Formats where
  /-- The text of an `int` in JSON. -/
  number : Int → JsonNumber
  /-- The text of a value in an f-string. -/
  shown : Json → CodePoints
  /-- The text of an `int` in an f-string. -/
  count : Int → CodePoints
  /-- `f"{float(value):.3f}"`. -/
  duration : Json → Option CodePoints
  /-- `bool(value)`. -/
  truth : Json → Bool

/-- The arguments of a usage that belongs to a run. -/
structure ScopeArguments where
  runId : Option CodePoints
  nodeId : Option CodePoints
  agentId : Option CodePoints
  scope : CodePoints

/-- The usage that is given to `save_true_token_usage`. -/
structure UsageArguments where
  inputTokens : JsonNumber
  outputTokens : JsonNumber
  turnTotalTokens : JsonNumber
  totalTokens : JsonNumber
  compacted : JsonNumber
  scope : Option ScopeArguments

/-- `_safe_identifier`. -/
def safeIdentifier (field : String) :
    Option CodePoints → Except Failure CodePoints
  | none => .error (.value (field ++ " 必须是非空字符串"))
  | some value =>
    if joinWords value = [] then
      .error (.value (field ++ " 必须是非空字符串"))
    else if isRequestId (joinWords value) then .ok (joinWords value)
    else .error (.value (field ++ " 包含不安全字符"))

/-- `_safe_optional_identifier`. -/
def safeOptionalIdentifier :
    Option CodePoints → Except Failure (Option CodePoints)
  | none => .ok none
  | some value => (safeIdentifier "node_id" (some value)).map some

/-- The part of a row that belongs to a run. -/
def usageScope (arguments : ScopeArguments) : Except Failure UsageScope := do
  if arguments.scope ≠ literal "worker" ∧
      arguments.scope ≠ literal "parent" then
    throw (.value "token usage scope 必须是 worker 或 parent")
  let runId ← safeIdentifier "run_id" arguments.runId
  let nodeId ← safeOptionalIdentifier arguments.nodeId
  let agentId ← safeIdentifier "agent_id" arguments.agentId
  return { runId, nodeId, agentId, scope := arguments.scope }

/-- The total of the last row. -/
def lastTotal (rows : List Json) : Option Int :=
  match rows.getLast? with
  | none => some 0
  | some row => integerField conversions "total_tokens" row

/-- `last_total_tokens`. -/
def lastTotalTokens (sessionId : CodePoints) : StoreAction Int := do
  let rows ← readJsonl conversions sessionId .trueTokenUsage
  reading fun _ => orRaise (lastTotal conversions rows)

variable (formats : Formats)

/-- `save_true_token_usage`. -/
def saveTrueTokenUsage (turnId sessionId : CodePoints)
    (usage : UsageArguments) : StoreAction Unit := do
  let row (totalTokens : JsonNumber) (scope : Option UsageScope) : Json :=
    tokenUsageToDict
      { turnId
        inputTokens := usage.inputTokens
        outputTokens := usage.outputTokens
        turnTotalTokens := usage.turnTotalTokens
        totalTokens
        compacted := usage.compacted
        scope }
  match usage.scope with
  | none =>
    appendJsonlRows conversions sessionId .trueTokenUsage
      [row usage.totalTokens none]
  | some arguments =>
    let scope ← reading fun _ => usageScope arguments
    let previous ← lastTotalTokens conversions sessionId
    appendJsonlRows conversions sessionId .trueTokenUsage
      [row (formats.number (previous + usage.turnTotalTokens.toInt))
        (some scope)]

/-- `save_tool_calls`. -/
def saveToolCalls (sessionId : CodePoints) (records : List ToolCallRecord) :
    StoreAction Unit :=
  if records.isEmpty then pure ()
  else appendJsonlRows conversions sessionId .toolCalls
    (records.map toolCallToDict)

/-- A tool call that has been read. -/
structure LoadedToolCall where
  turnId : Json
  toolCallId : Json
  toolName : Json
  args : Json
  content : Json
  error : Json
  duration : CodePoints
  createdAt : Json

/-- `_dict_to_tool_call`. -/
def dictToToolCall (row : Json) : Option LoadedToolCall := do
  let turnId ← row.field? "turn_id"
  let toolCallId ← row.field? "tool_call_id"
  let toolName ← row.field? "tool_name"
  let duration ← formats.duration
    ((row.field? "duration_ms").getD (.number (formats.number 0)))
  return {
    turnId, toolCallId, toolName, duration
    args := (row.field? "args").getD (.object [])
    content := (row.field? "content").getD (.string [])
    error := (row.field? "error").getD .null
    createdAt := (row.field? "created_at").getD (.string []) }

/-- `all_tool_calls`. -/
def allToolCalls (sessionId : CodePoints) :
    StoreAction (List LoadedToolCall) := do
  let rows ← readJsonl conversions sessionId .toolCalls
  reading fun _ => orRaise (rows.mapM (dictToToolCall formats))

end TurningGood.Sessions.JsonlStore
