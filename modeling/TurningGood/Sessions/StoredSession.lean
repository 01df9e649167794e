import TurningGood.Foundation.JsonFields

/-!
# Sessions and messages as they are stored

The store writes a session as one object to `session.json`, and messages as
rows of `messages.jsonl`.  The reader of sessions checks the type of every
field and returns nothing for a file that it cannot read; the reader of rows
raises.

A session that was written is read back, since a session carries the checks
that its reader makes.
-/

namespace TurningGood.Foundation

namespace JsonNumber

/-- A number without fraction and exponent, which is read as an `int`. -/
def isInteger : JsonNumber → Bool
  | .finite lexeme _ =>
    !lexeme.contains '.' && !lexeme.contains 'e' && !lexeme.contains 'E'
  | .nan | .infinity | .negativeInfinity => false

/-- The value of decimal digits. -/
def digitsValue (digits : List Char) : Nat :=
  digits.foldl (fun value digit => 10 * value + (digit.toNat - 48)) 0

/-- The value of a number without fraction and exponent. -/
def toInt : JsonNumber → Int
  | .finite ('-' :: digits) _ => -digitsValue digits
  | .finite digits _ => digitsValue digits
  | .nan | .infinity | .negativeInfinity => 0

end JsonNumber

end TurningGood.Foundation

namespace TurningGood.Sessions.JsonlStore

open TurningGood.Foundation

/-- What the store calls on the values that it reads and writes. -/
structure Conversions where
  /-- The tokenizer, which refuses some texts. -/
  encode : CodePoints → Option (List Nat)
  /-- `datetime.fromisoformat` reads the text, and finds a time zone. -/
  isAware : CodePoints → Bool
  /-- `int(value)`, for what is not an integer. -/
  toInteger : Json → Option Int
  /-- `int(value)`, for a number. -/
  truncate : JsonNumber → Option JsonNumber
  /-- `max(0.0, float(value))`. -/
  nonNegative : JsonNumber → Option JsonNumber

variable (conversions : Conversions)

/-- `count_content_tokens`. -/
def countContentTokens (content : CodePoints) : Option Nat :=
  if content = [] then some 0
  else (conversions.encode content).map fun tokens => max 1 tokens.length

/-- `int(value)`. -/
def integer? : Json → Option Int
  | .number number =>
    if number.isInteger then some number.toInt
    else conversions.toInteger (.number number)
  | value => conversions.toInteger value

/-- What `save_message` writes, whose tokens have been counted. -/
structure StoredMessage where
  id : CodePoints
  role : CodePoints
  content : CodePoints
  tokenCount : JsonNumber
  createdAt : CodePoints
  metadata : JsonRow
  integral : tokenCount.isInteger = true
  counted : (countContentTokens conversions content).isSome = true

/-- `_message_to_dict`. -/
def messageToDict (record : StoredMessage conversions) : JsonRow :=
  .ofFields [("id", .string record.id), ("role", .string record.role),
      ("content", .string record.content),
      ("token_count", .number record.tokenCount),
      ("created_at", .string record.createdAt),
      ("metadata", record.metadata.json)]
    (by simp only [List.map_cons, List.map_nil]; decide)
    (by
      simp only [List.forall_mem_cons]
      exact ⟨trivial, trivial, trivial, trivial, trivial,
        record.metadata.proper, by simp⟩)

/-- A message that has been read. -/
structure LoadedMessage where
  id : Json
  sessionId : Json
  role : Json
  content : CodePoints
  name : Json
  toolCallId : Json
  tokenCount : Int
  createdAt : Json
  metadata : Json

/-- `_dict_to_message`, for a row whose content is a text. -/
def dictToMessage (row : Json) : Option LoadedMessage := (row.field? "role").bind fun role =>
    (row.string? "content").bind fun content =>
      (countContentTokens conversions content).bind fun counted =>
        (match row.field? "token_count" with
          | none => some (counted : Int)
          | some value => integer? conversions value).map fun tokenCount =>
            { id := (row.field? "id").getD (.string [])
              sessionId := (row.field? "session_id").getD (.string [])
              role := role
              content := content
              name := (row.field? "name").getD .null
              toolCallId := (row.field? "tool_call_id").getD .null
              tokenCount := tokenCount
              createdAt := (row.field? "created_at").getD (.string [])
              metadata := (row.field? "metadata").getD (.object []) }

theorem dictToMessage_messageToDict (record : StoredMessage conversions) :
    ∃ message, dictToMessage conversions (messageToDict _ record).json =
        some message ∧
      message.id = .string record.id ∧
      message.role = .string record.role ∧
      message.content = record.content ∧
      message.tokenCount = record.tokenCount.toInt ∧
      message.createdAt = .string record.createdAt ∧
      message.metadata = record.metadata.json := by
  rcases Option.isSome_iff_exists.mp record.counted with ⟨counted, same⟩
  have read : integer? conversions (.number record.tokenCount) =
      some record.tokenCount.toInt :=
    if_pos record.integral
  refine ⟨⟨.string record.id, .string [], .string record.role,
    record.content, .null, .null, record.tokenCount.toInt,
    .string record.createdAt, record.metadata.json⟩, ?_, rfl, rfl, rfl, rfl,
    rfl, rfl⟩
  simp only [dictToMessage, messageToDict, Json.string?, JsonRow.field?_ofFields]
  change ((countContentTokens conversions record.content).bind fun counted =>
    (integer? conversions (.number record.tokenCount)).map fun tokenCount =>
      (⟨.string record.id, .string [], .string record.role, record.content,
        .null, .null, tokenCount, .string record.createdAt,
        record.metadata.json⟩ : LoadedMessage)) = _
  rw [same, read]
  rfl

/-! ## Sessions -/

/-- A message of the window, as far as a session keeps it. -/
structure HistoryItem where
  role : CodePoints
  content : CodePoints
  counted : (countContentTokens conversions content).isSome = true
  deriving DecidableEq

/-- A session that its reader accepts. -/
structure StoredSession where
  id : CodePoints
  userId : CodePoints
  channel : CodePoints
  principalId : CodePoints
  conversationId : CodePoints
  title : CodePoints
  summary : CodePoints
  pinned : Bool
  archived : Bool
  uncompactedHistory : List (HistoryItem conversions)
  createdAt : CodePoints
  updatedAt : CodePoints
  named : id ≠ []
  timed : conversions.isAware createdAt = true ∧
    conversions.isAware updatedAt = true

/-- `_context_message_to_dict`. -/
def contextMessageToDict (record : HistoryItem conversions) : JsonRow :=
  .ofFields [("role", .string record.role), ("content", .string record.content)]
    (by simp only [List.map_cons, List.map_nil]; decide)
    (by
      simp only [List.forall_mem_cons]
      exact ⟨trivial, trivial, by simp⟩)

/-- The list of the messages of the window. -/
def historyToList (history : List (HistoryItem conversions)) : Json :=
  .array (history.map fun record =>
    (contextMessageToDict conversions record).json)

theorem historyToList_proper (history : List (HistoryItem conversions)) :
    (historyToList conversions history).Proper := by
  rw [historyToList, Json.Proper, Json.properItems_iff, List.forall_mem_map]
  exact fun record _ => (contextMessageToDict conversions record).proper

/-- `_session_to_dict`. -/
def sessionToDict (session : StoredSession conversions) : JsonRow :=
  .ofFields [("id", .string session.id), ("user_id", .string session.userId),
      ("channel", .string session.channel),
      ("principal_id", .string session.principalId),
      ("conversation_id", .string session.conversationId),
      ("title", .string session.title), ("summary", .string session.summary),
      ("pinned", .bool session.pinned), ("archived", .bool session.archived),
      ("uncompacted_history", historyToList conversions session.uncompactedHistory),
      ("created_at", .string session.createdAt),
      ("updated_at", .string session.updatedAt)]
    (by simp only [List.map_cons, List.map_nil]; decide)
    (by
      simp only [List.forall_mem_cons]
      exact ⟨trivial, trivial, trivial, trivial, trivial, trivial, trivial,
        trivial, trivial, historyToList_proper conversions _, trivial,
        trivial, by simp⟩)

/-- A field that is a `bool`. -/
def bool? (name : String) (payload : Json) : Option Bool :=
  match payload.field? name with
  | some (.bool value) => some value
  | _ => none

/-- A message of the window, checked and read. -/
def historyItem? (item : Json) : Option (HistoryItem conversions) :=
  (item.string? "role").bind fun role =>
    (item.string? "content").bind fun content =>
      if counted : (countContentTokens conversions content).isSome = true then
        (dictToMessage conversions item).map fun _ => ⟨role, content, counted⟩
      else none

/-- The messages of the window, checked and read. -/
def historyItems? : Json → Option (List (HistoryItem conversions))
  | .array items => items.mapM (historyItem? conversions)
  | _ => none

/-- The checks of `_read_session_file`, and `_dict_to_session`. -/
def dictToSession (payload : Json) :
    Option (StoredSession conversions) := do
  let id ← payload.string? "id"
  let userId ← payload.string? "user_id"
  let channel ← payload.string? "channel"
  let principalId ← payload.string? "principal_id"
  let conversationId ← payload.string? "conversation_id"
  let title ← payload.string? "title"
  let summary ← payload.string? "summary"
  let createdAt ← payload.string? "created_at"
  let updatedAt ← payload.string? "updated_at"
  let pinned ← bool? "pinned" payload
  let archived ← bool? "archived" payload
  let history ← payload.field? "uncompacted_history"
  let uncompactedHistory ← historyItems? conversions history
  if named : id ≠ [] then
    if timed : conversions.isAware createdAt = true ∧
        conversions.isAware updatedAt = true then
      some ⟨id, userId, channel, principalId, conversationId, title, summary,
        pinned, archived, uncompactedHistory, createdAt, updatedAt, named,
        timed⟩
    else none
  else none

/-- `_read_session_file`, for the bytes of a file. -/
def readSessionFile (bytes : List UInt8) :
    Option (StoredSession conversions) :=
  (Utf8.decode? bytes).bind fun chars =>
    (Json.loads (textOf (JsonLines.universalNewlines chars))).bind (dictToSession conversions)

theorem historyItem?_contextMessageToDict (record : HistoryItem conversions) :
    historyItem? conversions (contextMessageToDict conversions record).json =
      some record := by
  rcases Option.isSome_iff_exists.mp record.counted with ⟨counted, same⟩
  simp only [historyItem?, dictToMessage, contextMessageToDict, Json.string?,
    JsonRow.field?_ofFields]
  change (if counted :
      (countContentTokens conversions record.content).isSome = true then
    (((countContentTokens conversions record.content).bind fun counted =>
      (some (counted : Int)).map fun tokenCount =>
        (⟨.string [], .string [], .string record.role, record.content,
          .null, .null, tokenCount, .string [], .object []⟩ : LoadedMessage)).map fun _ =>
      (⟨record.role, record.content, counted⟩ : HistoryItem conversions))
    else none) = some record
  rw [dif_pos record.counted, same]
  rfl

theorem historyItems?_historyToList (history : List (HistoryItem conversions)) :
    historyItems? conversions (historyToList conversions history) =
      some history := by
  rw [historyToList, historyItems?]
  induction history with
  | nil => rfl
  | cons record rest induction =>
    rw [List.map_cons, List.mapM_cons, historyItem?_contextMessageToDict]
    change Option.bind _ _ = _
    rw [induction]
    rfl

theorem dictToSession_sessionToDict (session : StoredSession conversions) :
    dictToSession conversions (sessionToDict conversions session).json =
      some session := by
  have history := historyItems?_historyToList conversions
    session.uncompactedHistory
  simp only [dictToSession, sessionToDict, Json.string?, bool?, JsonRow.field?_ofFields]
  change (historyItems? conversions (historyToList conversions
    session.uncompactedHistory)).bind _ = _
  rw [history, Option.bind_some, dif_pos session.named, dif_pos session.timed]

theorem readSessionFile_of_line {session : StoredSession conversions}
    {line : List Char}
    (isLine : JsonLines.IsLine (sessionToDict conversions session) line) :
    readSessionFile conversions (Utf8.encodeChars line) = some session := by
  have noReturn : ∀ char ∈ line, char ≠ '\r' := by
    rintro char member rfl
    exact absurd (isLine.printed _ member) (by decide)
  rw [readSessionFile, Utf8.decode?_encodeChars, Option.bind_some,
    JsonLines.universalNewlines_of_printed noReturn, isLine.loads,
    Option.bind_some, dictToSession_sessionToDict]

theorem readSessionFile_of_cut {session : StoredSession conversions}
    {line : List Char}
    (isLine : JsonLines.IsLine (sessionToDict conversions session) line)
    {count : Nat} (shorter : count < (Utf8.encodeChars line).length) :
    readSessionFile conversions ((Utf8.encodeChars line).take count) =
      none := by
  have refused := JsonLines.loads_of_cut isLine shorter
  rw [readSessionFile]
  cases decoded : Utf8.decode? ((Utf8.encodeChars line).take count) with
  | none => rfl
  | some chars =>
    rw [decoded, Option.bind_some] at refused
    rw [Option.bind_some, refused]
    rfl

end TurningGood.Sessions.JsonlStore
