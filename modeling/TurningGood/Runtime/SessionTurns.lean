import TurningGood.Foundation.Machine
import TurningGood.Memory.ShortTerm

/-!
# Turns and compactions of one session

A turn reads the two files of its session, awaits the model, may await a
summary, and writes its own snapshot back; the session lock keeps turns apart.
A catalog compaction reads the session, awaits a summary and writes its result
without taking that lock.  The only guard against a turn is the check of the
Web coordinator when the compaction is registered.

Some fields are no part of the program.  `summarySource` follows the stored
summary and lists the messages that it was made from, `completed` lists the
messages of the turns that were saved, and a compaction remembers which turns
were saved when it read the session.
-/

namespace TurningGood.Runtime

open TurningGood.Foundation TurningGood.Sessions TurningGood.Memory

/-! ## The compact state -/

/-- What the run of the agent leaves in the context of a turn. -/
structure TurnOutcome where
  consumedGuidance : List String
  finalContent : String
  cancelled : Bool
  deriving DecidableEq, Repr

/-- The context of a turn after its session is loaded and its input built. -/
structure TurnContext where
  inboundId : String
  inboundCreatedAt : String
  content : String
  session : Session
  uncompactedHistory : List MessageRecord
  summarySource : List Utterance
  deriving DecidableEq, Repr

/-- The messages of a turn: its input, the guidance and the answer. -/
def turnUtterances (content : String) (outcome : TurnOutcome) :
    List Utterance :=
  (content :: outcome.consumedGuidance).map (fun text => ⟨"user", text⟩) ++
    if outcome.finalContent ≠ "" ∨ outcome.cancelled = false then
      [⟨"assistant", outcome.finalContent⟩]
    else
      []

variable (encode : String → List Nat) (memory : ShortTermMemory)

/-- A new message record with the given id. -/
def newMessage (sessionId now id : String) (utterance : Utterance) : MessageRecord where
  id := id
  sessionId := sessionId
  role := utterance.role
  content := utterance.content
  tokenCount := countContentTokens encode utterance.content
  createdAt := now

/-- `build_virtual_history`, with the new ids. -/
def buildVirtualHistory (sessionId now : String) (ids : List String) (context : TurnContext)
    (outcome : TurnOutcome) : List MessageRecord :=
  context.uncompactedHistory ++ List.zipWith (newMessage encode sessionId now) ids
      (turnUtterances context.content outcome)

/-- The records that `save` appends: the input keeps its id and time. -/
def savedMessages (sessionId now : String) (ids : List String) (context : TurnContext)
    (outcome : TurnOutcome) : List MessageRecord :=
  newMessage encode sessionId context.inboundCreatedAt context.inboundId
      ⟨"user", context.content⟩ ::
    List.zipWith (newMessage encode sessionId now) ids (turnUtterances context.content outcome).tail

theorem utterances_newMessages (sessionId now : String) {ids : List String} {said : List Utterance}
    (lengths : ids.length = said.length) :
    utterances (List.zipWith (newMessage encode sessionId now) ids said) =
      said := by
  induction said generalizing ids with
  | nil =>
    rw [List.zipWith_nil_right]
    rfl
  | cons utterance rest induction =>
    cases ids with
    | nil => simp at lengths
    | cons id others =>
      have tail := induction (Nat.succ.inj lengths)
      simp only [utterances] at tail
      simp only [List.zipWith_cons_cons, utterances, List.map_cons, tail]
      rfl

theorem utterances_buildVirtualHistory
    (sessionId now : String) {ids : List String} {context : TurnContext}
    {outcome : TurnOutcome}
    (lengths : ids.length = (turnUtterances context.content outcome).length) :
    utterances (buildVirtualHistory encode sessionId now ids context outcome) =
      utterances context.uncompactedHistory ++
        turnUtterances context.content outcome := by
  rw [buildVirtualHistory, utterances_append, utterances_newMessages encode sessionId now lengths]

/-- What is done with a history before a summary is awaited. -/
inductive CompactDecision where
  | keep (history : List MessageRecord)
  | summarise (plan : CompactionPlan)
  deriving DecidableEq, Repr

/-- The messages that stay in the uncompacted history. -/
def CompactDecision.stored : CompactDecision → List MessageRecord
  | .keep history => history
  | .summarise plan => plan.recentWindow

/-- The messages that the new summary is made from. -/
def CompactDecision.summarised : CompactDecision → List MessageRecord
  | .keep _ => []
  | .summarise plan => plan.compactSource

/-- The decision of the `compact` state. -/
def compactDecision (history : List MessageRecord) (force : Bool) :
    CompactDecision :=
  let plan := memory.planCompaction history force
  if plan.shouldCompact = false then
    .keep history
  else if plan.compactSource = [] then
    .keep history
  else
    .summarise plan

/-- The decision of `compact_session`, which forces the plan. -/
def compactSessionDecision (history : List MessageRecord) :
    CompactDecision :=
  let plan := memory.planCompaction history true
  if plan.compactSource = [] then
    .keep history
  else
    .summarise plan

theorem compactSessionDecision_eq (history : List MessageRecord) :
    compactSessionDecision memory history =
      compactDecision memory history true := by
  have forced : (memory.planCompaction history true).shouldCompact = true :=
    rfl
  simp only [compactSessionDecision, compactDecision, forced, Bool.true_eq_false, if_false]

/-! ## The state of a session -/

/-- Where the turn that holds the session lock stands. -/
inductive TurnStage where
  | run
  | compact (outcome : TurnOutcome) (plan : CompactionPlan)
  | save (outcome : TurnOutcome)
  deriving DecidableEq, Repr

/-- The turn that holds the session lock. -/
structure Turn where
  context : TurnContext
  stage : TurnStage
  deriving DecidableEq, Repr

/-- Where the task of a catalog compaction stands. -/
inductive CatalogCompaction where
  | registered
  | summarising (session : Session) (summarySource : List Utterance)
      (completed : List Utterance) (plan : CompactionPlan)
  | finished
  deriving DecidableEq, Repr

/-- The kinds of catalog actions, as far as their registration goes. -/
inductive CatalogAction where
  | compact
  | session
  | global
  deriving DecidableEq, Repr

/-- The files of a session and the tasks that work on it. -/
structure SessionState where
  sessionId : String
  file : SessionFile
  messageRows : List MessageRow
  control : Option String
  catalogActions : List String
  turn : Option Turn
  compaction : Option CatalogCompaction
  summarySource : List Utterance
  completed : List Utterance
  deriving DecidableEq, Repr

namespace SessionState

variable (state : SessionState)

/-- `update_summary`: read the file, set the summary, write it. -/
def updateSummary (file : SessionFile) (summary : String) : SessionFile :=
  sessionToDict { dictToSession encode file with summary := summary }

/-- `update_uncompacted_history`. -/
def updateUncompactedHistory (file : SessionFile) (history : List MessageRecord) : SessionFile :=
  sessionToDict
    { dictToSession encode file with uncompactedHistory := history }

/-- `all_messages`. -/
def allMessages : List MessageRecord := state.messageRows.map (dictToMessage encode)

/-- The history that a context built from the files now would hold. -/
def loadedHistory : List MessageRecord :=
  buildSessionContext (dictToSession encode state.file) (state.allMessages encode)

/-- `dispatch` of the coordinator's `send`: there is a control. -/
def dispatch (request : String) : SessionState :=
  { state with control := some request }

/-- `deliver`: the terminal of a request removes its control. -/
def deliver (request : String) : SessionState :=
  if state.control = some request then
    { state with control := none }
  else
    state

/-- A turn takes the session lock, loads the session and builds its input. -/
def beginTurn (inboundId createdAt content : String) : Option SessionState :=
  if state.turn = none ∧ state.control ≠ none then
    some { state with
      turn := some
        { context :=
            { inboundId := inboundId
              inboundCreatedAt := createdAt
              content := content
              session := dictToSession encode state.file
              uncompactedHistory := state.loadedHistory encode
              summarySource := state.summarySource }
          stage := .run } }
  else
    none

/-- The run returns, and the `compact` state goes up to its first await. -/
def runReturned (outcome : TurnOutcome) (ids : List String) (now : String)
    (force : Bool) : Option SessionState :=
  match state.turn with
  | some ⟨context, .run⟩ =>
    if ids.length = (turnUtterances context.content outcome).length then
      let history :=
        buildVirtualHistory encode state.sessionId now ids context outcome
      match compactDecision memory history force with
      | .keep history =>
        some { state with
          turn := some
            { context :=
                { context with
                  session :=
                    { context.session with
                      uncompactedHistory := history } }
              stage := .save outcome } }
      | .summarise plan =>
        some { state with turn := some ⟨context, .compact outcome plan⟩ }
    else
      none
  | _ => none

/-- The summary of a turn arrives; an error ends the turn without a save. -/
def summaryReturned (reply : SummaryReply) : Option SessionState :=
  match state.turn with
  | some ⟨context, .compact outcome plan⟩ =>
    match compact context.session.summary plan.compactSource
        (fun _ => reply) with
    | .ok summary =>
      some { state with
        turn := some
          { context :=
              { context with
                session := ⟨summary, plan.recentWindow⟩
                summarySource := context.summarySource ++ utterances plan.compactSource }
            stage := .save outcome } }
    | .error _ => some { state with turn := none }
  | _ => none

/-- The `save` state writes the turn and releases the lock. -/
def saveTurn (ids : List String) (now : String) : Option SessionState :=
  match state.turn with
  | some ⟨context, .save outcome⟩ =>
    let said := turnUtterances context.content outcome
    if ids.length + 1 = said.length then
      let records :=
        savedMessages encode state.sessionId now ids context outcome
      let summarised :=
        updateSummary encode state.file context.session.summary
      some { state with
        messageRows := state.messageRows ++ records.map messageToDict
        file := updateUncompactedHistory encode summarised context.session.uncompactedHistory
        turn := none
        summarySource := context.summarySource
        completed := state.completed ++ said }
    else
      none
  | _ => none

/-- An error, a rejection or a cancellation ends the turn unsaved. -/
def turnFailed : Option SessionState :=
  if state.turn = none then
    none
  else
    some { state with turn := none }

/-- `begin_catalog_action`, exclusive for the actions of a session. -/
def beginCatalogAction (request : String) (action : CatalogAction) :
    SessionState :=
  if action ≠ .global ∧
      (state.control ≠ none ∨ state.catalogActions ≠ []) then
    state
  else
    { state with
      catalogActions := request :: state.catalogActions
      compaction :=
        if action = .compact then some .registered else state.compaction }

/-- `finish_catalog_action`. -/
def finishCatalogAction (request : String) : SessionState :=
  { state with
    catalogActions := state.catalogActions.filter (· ≠ request) }

/-- `compact_session` reads the session and plans. -/
def loadCompaction : Option SessionState :=
  match state.compaction with
  | some .registered =>
    match compactSessionDecision memory (state.loadedHistory encode) with
    | .keep history =>
      some { state with
        file := updateUncompactedHistory encode state.file history
        compaction := some .finished }
    | .summarise plan =>
      some { state with
        compaction := some (.summarising (dictToSession encode state.file)
            state.summarySource state.completed plan) }
  | _ => none

/-- The summary of `compact_session` arrives and the result is written. -/
def compactionReturned (reply : SummaryReply) : Option SessionState :=
  match state.compaction with
  | some (.summarising session summarySource _ plan) =>
    match compact session.summary plan.compactSource (fun _ => reply) with
    | .ok summary =>
      some { state with
        file := updateUncompactedHistory encode
            (updateSummary encode state.file summary) plan.recentWindow
        compaction := some .finished
        summarySource := summarySource ++ utterances plan.compactSource }
    | .error _ => some { state with compaction := some .finished }
  | _ => none

/-- The compaction times out or is cancelled. -/
def compactionFailed : Option SessionState :=
  if state.compaction = none then
    none
  else
    some { state with compaction := some .finished }

end SessionState

/-- What can happen to a session next. -/
inductive SessionEvent where
  | dispatch (request : String)
  | deliver (request : String)
  | beginTurn (inboundId createdAt content : String)
  | runReturned (outcome : TurnOutcome) (ids : List String) (now : String)
      (force : Bool)
  | summaryReturned (reply : SummaryReply)
  | saveTurn (ids : List String) (now : String)
  | turnFailed
  | beginCatalogAction (request : String) (action : CatalogAction)
  | finishCatalogAction (request : String)
  | loadCompaction
  | compactionReturned (reply : SummaryReply)
  | compactionFailed
  deriving DecidableEq, Repr

/-- One step of a session. -/
def SessionState.step (state : SessionState) : SessionEvent → Option SessionState
  | .dispatch request => some (state.dispatch request)
  | .deliver request => some (state.deliver request)
  | .beginTurn inboundId createdAt content =>
    state.beginTurn encode inboundId createdAt content
  | .runReturned outcome ids now force =>
    state.runReturned encode memory outcome ids now force
  | .summaryReturned reply => state.summaryReturned reply
  | .saveTurn ids now => state.saveTurn encode ids now
  | .turnFailed => state.turnFailed
  | .beginCatalogAction request action =>
    some (state.beginCatalogAction request action)
  | .finishCatalogAction request => some (state.finishCatalogAction request)
  | .loadCompaction => state.loadCompaction encode memory
  | .compactionReturned reply => state.compactionReturned encode reply
  | .compactionFailed => state.compactionFailed

/-- A session on disk that nothing works on. -/
def SessionState.atRest (sessionId : String) (file : SessionFile)
    (messageRows : List MessageRow) : SessionState where
  sessionId := sessionId
  file := file
  messageRows := messageRows
  control := none
  catalogActions := []
  turn := none
  compaction := none
  summarySource := []
  completed := []

/-- The turns and compactions of a session, from any files on disk. -/
def sessionMachine : Machine SessionState SessionEvent where
  initial state := ∃ sessionId file messageRows,
      state = SessionState.atRest sessionId file messageRows
  step := SessionState.step encode memory

end TurningGood.Runtime
