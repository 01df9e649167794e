import Mathlib.Tactic.SplitIfs

/-!
# Messages of a session and what a reload keeps of them

A context message is written to `session.json` with its role and content
only.  Reading it back fills the missing keys with defaults, so every
reloaded context message carries the empty id.  The rows of `messages.jsonl`
keep all fields.
-/

namespace TurningGood.Sessions

/-- `count_content_tokens`, for the tokenizer `encode`. -/
def countContentTokens (encode : String → List Nat) (content : String) :
    Nat :=
  if content = "" then 0 else max 1 (encode content).length

/-- A message of a conversation. -/
structure MessageRecord where
  id : String
  sessionId : String
  role : String
  content : String
  tokenCount : Nat
  createdAt : String
  deriving DecidableEq, Repr

/-- What a message says: its role and its content. -/
structure Utterance where
  role : String
  content : String
  deriving DecidableEq, Repr

def MessageRecord.utterance (record : MessageRecord) : Utterance := ⟨record.role, record.content⟩

/-- A JSON object of a message; all keys but two may be missing. -/
structure MessageRow where
  id : Option String
  sessionId : Option String
  role : String
  content : String
  tokenCount : Option Nat
  createdAt : Option String
  deriving DecidableEq, Repr

/-- `_context_message_to_dict`: only the role and the content are written. -/
def contextMessageToDict (record : MessageRecord) : MessageRow where
  id := none
  sessionId := none
  role := record.role
  content := record.content
  tokenCount := none
  createdAt := none

/-- `_message_to_dict`: the row of `messages.jsonl`. -/
def messageToDict (record : MessageRecord) : MessageRow where
  id := some record.id
  sessionId := none
  role := record.role
  content := record.content
  tokenCount := some record.tokenCount
  createdAt := some record.createdAt

/-- `_dict_to_message`: missing keys are filled with defaults. -/
def dictToMessage (encode : String → List Nat) (row : MessageRow) : MessageRecord where
  id := row.id.getD ""
  sessionId := row.sessionId.getD ""
  role := row.role
  content := row.content
  tokenCount := row.tokenCount.getD (countContentTokens encode row.content)
  createdAt := row.createdAt.getD ""

variable (encode : String → List Nat)

/-! ## The two files of a session -/

/-- The part of a `Session` that the context of a turn is built from. -/
structure Session where
  summary : String
  uncompactedHistory : List MessageRecord
  deriving DecidableEq, Repr

/-- The same part of `session.json`. -/
structure SessionFile where
  summary : String
  uncompactedHistory : List MessageRow
  deriving DecidableEq, Repr

/-- `_session_to_dict`. -/
def sessionToDict (session : Session) : SessionFile where
  summary := session.summary
  uncompactedHistory := session.uncompactedHistory.map contextMessageToDict

/-- `_dict_to_session`. -/
def dictToSession (file : SessionFile) : Session where
  summary := file.summary
  uncompactedHistory := file.uncompactedHistory.map (dictToMessage encode)

/-- What the rows of a list of messages say. -/
def utterances (records : List MessageRecord) : List Utterance :=
  records.map MessageRecord.utterance

@[simp]
theorem utterances_append (records more : List MessageRecord) :
    utterances (records ++ more) = utterances records ++ utterances more :=
  List.map_append

/-- `build_session_context`: an empty snapshot falls back to all messages. -/
def buildSessionContext (session : Session) (fullHistory : List MessageRecord) :
    List MessageRecord :=
  if session.uncompactedHistory ≠ [] ∨ session.summary ≠ "" then
    session.uncompactedHistory
  else
    fullHistory

end TurningGood.Sessions
