import TurningGood.Browser.MultiAgentView
import TurningGood.Foundation.Dict

/-!
# The session state of the browser

A session page keeps its messages, the turns with the events they received,
the messages that a retry has hidden and the actions that wait for the
server.  Every change is an action that is applied to the state; an event of
the server is one of these actions.

An instant that the page reads from its clock is an argument.  Metadata and
payloads keep the fields that the state reads or writes; what is no text
there arrives as nothing.
-/

namespace TurningGood.Browser

open TurningGood.Foundation

/-! ## Messages, turns and actions -/

/-- The roles of messages. -/
inductive Role where
  | user
  | assistant
  deriving DecidableEq, Repr

/-- How far a message of the user has come. -/
inductive Delivery where
  | sending
  | sent
  | failed
  deriving DecidableEq, Repr

/-- The metadata of a message. -/
structure MessageMetadata where
  networkFailure : Bool := false
  retryActionId : Option String := none
  retryContent : Option String := none
  error : Option String := none
  attachments : List String := []
  deriving DecidableEq, Repr

/-- `ChatMessage`. -/
structure ChatMessage where
  id : String
  role : Role
  content : String
  createdAt : String
  metadata : MessageMetadata := {}
  delivery : Option Delivery := none
  clientActionId : Option String := none
  requestId : Option String := none
  deriving DecidableEq, Repr

/-- The types of the events that the state tells apart. -/
inductive EventType where
  | sessionSnapshot
  | responseDelta
  | responseCompleted
  | responseError
  | guidancePending
  | taskQueued
  | taskRunning
  | taskStopping
  | taskCompleted
  | taskFailed
  | taskCancelled
  | taskStatus
  | multiAgent (type : MultiAgentEventType)
  | other (name : String)
  deriving DecidableEq, Repr

/-- The payload of an event. -/
structure EventPayload where
  content : String := ""
  kind : String := ""
  state : String := ""
  items : List String := []
  multiAgentRuns : Option (List RawRun) := none
  run : MultiAgentEventPayload := {}
  deriving DecidableEq, Repr

/-- `TaskEvent`. -/
structure TaskEvent where
  eventId : Option Nat
  sessionId : String
  requestId : String
  type : EventType
  payload : EventPayload := {}
  createdAt : Option String := none
  deriving DecidableEq, Repr

/-- `TurnStatus`. -/
inductive TurnStatus where
  | queued
  | running
  | stopping
  | completed
  | failed
  | cancelled
  | interrupted
  deriving DecidableEq, Repr

/-- `TurnState.kind`. -/
inductive TurnKind where
  | chat
  | catalog
  deriving DecidableEq, Repr

/-- `TurnState`. -/
structure TurnState where
  requestId : String
  kind : TurnKind
  status : TurnStatus
  events : List TaskEvent
  guidanceCount : Nat
  startedAt : String
  finishedAt : Option String
  multiAgentRuns : Option (List MultiAgentRunSummary) := none
  deriving DecidableEq, Repr

/-- `PendingActionKind`. -/
inductive PendingActionKind where
  | message
  | guidance
  | stop
  | approval
  deriving DecidableEq, Repr

/-- `PendingActionInput`. -/
structure PendingActionInput where
  id : String
  kind : PendingActionKind
  content : String
  sessionId : Option String
  createdAt : String
  attachments : List String := []
  requestId : Option String := none
  error : Option String := none
  deriving DecidableEq, Repr

/-- `PendingAction`. -/
structure PendingAction extends PendingActionInput where
  status : Delivery
  deriving DecidableEq, Repr

/-- `SessionState`. -/
structure SessionState where
  messages : List ChatMessage
  turns : Dict String TurnState
  hiddenMessageIds : List String
  pendingActions : Dict String PendingAction
  pendingDraft : String
  running : Bool
  deriving DecidableEq

/-- `SessionAction`. -/
inductive SessionAction where
  | sessionReset (messages : List ChatMessage)
      (turns : Dict String TurnState) (hiddenMessageIds : List String)
  | historyLoaded (messages : List ChatMessage)
  | messageOptimistic (action : PendingActionInput)
  | actionRetry (actionId : String) (retry : Option PendingActionInput)
  | actionAccepted (actionId sessionId requestId : String)
  | actionFailed (actionId message : String)
  | connectionLost
  | draftPending (content : String)
  | eventReceived (event : TaskEvent)

/-- `createSessionState`. -/
def createSessionState : SessionState where
  messages := []
  turns := .empty
  hiddenMessageIds := []
  pendingActions := .empty
  pendingDraft := ""
  running := false

/-! ## History -/

/-- `hideRetriedHistory` behind a user message that is hidden or not. -/
def hideRetriedFrom (hidden : List String) : Bool → List ChatMessage → List ChatMessage
  | _, [] => []
  | hideAssistant, message :: rest =>
    match message.role with
    | .user =>
      if message.id ∈ hidden then hideRetriedFrom hidden true rest
      else message :: hideRetriedFrom hidden false rest
    | .assistant =>
      if message.id ∈ hidden ∨ hideAssistant then
        hideRetriedFrom hidden hideAssistant rest
      else
        message :: hideRetriedFrom hidden hideAssistant rest

/-- `hideRetriedHistory`. -/
def hideRetriedHistory (messages : List ChatMessage)
    (hiddenMessageIds : List String) : List ChatMessage :=
  hideRetriedFrom hiddenMessageIds false messages

/-- `mergePersistedMessage`. -/
def mergePersistedMessage (persisted cached : ChatMessage) : ChatMessage :=
  { persisted with
    requestId := (truthy cached.requestId).or persisted.requestId
    clientActionId := (truthy cached.clientActionId).or persisted.clientActionId }

/-- The test by which a loaded message is found for a local one. -/
def sameText (message item : ChatMessage) : Bool :=
  item.role == message.role && item.content == message.content

/-- A local message that is kept when it is not found. -/
def isLocal (message : ChatMessage) : Bool :=
  (truthy message.clientActionId).isSome || message.metadata.networkFailure

/-- The loop of `mergeHistory`: the loaded messages and the local ones. -/
def mergeLocal : List ChatMessage → List ChatMessage → List ChatMessage × List ChatMessage
  | [], remaining => (remaining, [])
  | message :: rest, remaining =>
    match remaining.findIdx? (sameText message) with
    | some index =>
      mergeLocal rest (remaining.modify index (mergePersistedMessage · message))
    | none =>
      let merged := mergeLocal rest remaining
      (merged.1,
        if isLocal message then message :: merged.2 else merged.2)

/-- `mergeHistory`. -/
def mergeHistory (current loaded : List ChatMessage) : List ChatMessage :=
  (mergeLocal current loaded).1 ++ (mergeLocal current loaded).2

/-! ## Assistant messages -/

/-- The last position that passes a test. -/
def lastIndex? {Item : Type} (test : Item → Bool) : List Item → Option Nat
  | [] => none
  | item :: rest =>
    match lastIndex? test rest with
    | some index => some (index + 1)
    | none => if test item then some 0 else none

/-- A message of the assistant in a turn. -/
def isAssistantOf (requestId : String) (message : ChatMessage) : Bool :=
  message.role == .assistant && message.requestId == some requestId

/-- `latestAssistantIndex`. -/
def latestAssistantIndex (messages : List ChatMessage) (requestId : String) : Option Nat :=
  lastIndex? (isAssistantOf requestId) messages

/-- `temporaryAssistant`. -/
def temporaryAssistant (now requestId content : String) : ChatMessage where
  id := "assistant-" ++ requestId
  role := .assistant
  content
  createdAt := now
  requestId := some requestId

/-- `clearNetworkFailure`. -/
def clearNetworkFailure (message : ChatMessage) (requestId : String) :
    ChatMessage :=
  { message with
    metadata := { message.metadata with
      networkFailure := false, retryActionId := none, retryContent := none }
    requestId := some requestId }

/-- `appendAssistantDelta`. -/
def appendAssistantDelta (now : String) (messages : List ChatMessage)
    (requestId delta : String) : List ChatMessage :=
  match latestAssistantIndex messages requestId with
  | some index =>
    messages.modify index fun item =>
      { clearNetworkFailure item requestId with
        content :=
          if item.metadata.networkFailure then delta
          else item.content ++ delta }
  | none => messages ++ [temporaryAssistant now requestId delta]

/-- `completeAssistant`. -/
def completeAssistant (now : String) (messages : List ChatMessage)
    (requestId content : String) : List ChatMessage :=
  match latestAssistantIndex messages requestId with
  | some index =>
    messages.modify index fun item =>
      { clearNetworkFailure item requestId with
        content :=
          if item.metadata.networkFailure then content
          else if item.content ≠ "" then item.content
          else content }
  | none =>
    if content ≠ "" then
      messages ++ [temporaryAssistant now requestId content]
    else messages

/-- `isTurnRunning`. -/
def isTurnRunning : TurnStatus → Bool
  | .queued | .running | .stopping => true
  | .completed | .failed | .cancelled | .interrupted => false

/-- The text that stands for an answer that was cut off. -/
def networkFailureText : String := "网络连接失败"

/-- `networkFailureMessage`. -/
def networkFailureMessage (now requestId : String) (user : ChatMessage)
    (previous : Option ChatMessage) : ChatMessage where
  id := ((truthy (previous.map ChatMessage.id)).getD ("assistant-" ++ requestId))
  role := .assistant
  content := networkFailureText
  createdAt := ((truthy (previous.map ChatMessage.createdAt)).getD now)
  metadata := {
    networkFailure := true
    retryActionId := user.clientActionId
    retryContent := some user.content }
  requestId := some requestId

/-- A message of the user in a turn. -/
def isUserOf (requestId : String) (message : ChatMessage) : Bool :=
  message.role == .user && message.requestId == some requestId

/-- `interruptAssistantMessage`. -/
def interruptAssistantMessage (now : String) (messages : List ChatMessage) (requestId : String) :
    List ChatMessage :=
  match messages.reverse.find? (isUserOf requestId) with
  | none => messages
  | some user =>
    if (truthy user.clientActionId).isNone then
      messages
    else
      match latestAssistantIndex messages requestId with
      | none =>
        messages ++ [networkFailureMessage now requestId user none]
      | some index =>
        messages.modify index fun item =>
          networkFailureMessage now requestId user (some item)

/-- `interruptRunningTurns`. -/
def interruptRunningTurns (now : String) (state : SessionState) :
    SessionState :=
  let requestIds :=
    (state.turns.values.filter (isTurnRunning ·.status)).map TurnState.requestId
  if requestIds = [] then
    { state with running := false }
  else
    { state with
      turns := state.turns.mapEntries fun requestId turn =>
        if requestId ∈ requestIds then
          { turn with status := .interrupted, finishedAt := some now }
        else turn
      messages := requestIds.foldl (interruptAssistantMessage now) state.messages
      running := false }

/-! ## Multi-agent runs of the turns -/

/-- The event for the view of the runs, if it is one of theirs. -/
def multiAgentEvent? (event : TaskEvent) : Option MultiAgentEvent :=
  match event.type with
  | .multiAgent type => some { type, payload := event.payload.run }
  | _ => none

/-- The events of one run among the events of a turn. -/
def runEvents (runId : String) (events : List TaskEvent) :
    List MultiAgentEvent :=
  (events.filterMap multiAgentEvent?).filter (·.payload.runId = some runId)

/-- `current.length ? current : undefined`. -/
def presentRuns (current : List MultiAgentRunSummary) :
    Option (List MultiAgentRunSummary) :=
  if current = [] then none else some current

/-- `multiAgentRunsFromEvent`. -/
def multiAgentRunsFromEvent (current : List MultiAgentRunSummary)
    (events : List TaskEvent) (event : TaskEvent) :
    Option (List MultiAgentRunSummary) :=
  match multiAgentEvent? event with
  | none => presentRuns current
  | some found =>
    match truthy found.payload.runId with
    | none => presentRuns current
    | some runId =>
      match buildMultiAgentRunView (runEvents runId events) with
      | none => some current
      | some next => some (mergeMultiAgentRunView current next)

/-- `isActiveMultiAgentRun`. -/
def isActiveMultiAgentRun (run : MultiAgentRunSummary) : Bool := !run.status.isTerminal

/-- `findRunRequestId`. -/
def findRunRequestId (turns : Dict String TurnState) (runId : String) :
    Option String :=
  (turns.values.find? fun turn =>
    (turn.multiAgentRuns.getD []).any (·.runId = runId)).map TurnState.requestId

/-- `createSnapshotTurn`. -/
def createSnapshotTurn (now requestId : String) (event : TaskEvent) : TurnState where
  requestId
  kind := .chat
  status := .completed
  events := []
  guidanceCount := 0
  startedAt := (truthy event.createdAt).getD now
  finishedAt := some ((truthy event.createdAt).getD now)

/-- A snapshot of an idle session closes the runs that it does not list. -/
def dropInactive (runIds : List String) (turn : TurnState) : TurnState :=
  { turn with
    multiAgentRuns := turn.multiAgentRuns.map fun runs =>
      runs.filter fun run =>
        runIds.contains run.runId || !isActiveMultiAgentRun run }

/-- One round of the loop of `restoreMultiAgentSnapshot`. -/
def restoreRun (now : String) (event : TaskEvent)
    (turns : Dict String TurnState) (run : MultiAgentRunSummary) :
    Dict String TurnState :=
  let requestId :=
    ((truthy run.parentRequestId).or (truthy (findRunRequestId turns run.runId))).getD
        ("multi-agent:" ++ run.runId)
  let current :=
    (turns.get? requestId).getD (createSnapshotTurn now requestId event)
  turns.insert requestId
    { current with
      multiAgentRuns := some (mergeAuthoritativeMultiAgentRunView
          (current.multiAgentRuns.getD []) run) }

/-- `restoreMultiAgentSnapshot`. -/
def restoreMultiAgentSnapshot (now : String) (state : SessionState)
    (event : TaskEvent) : SessionState :=
  match event.payload.multiAgentRuns with
  | none => state
  | some rawRuns =>
    let runs := rawRuns.filterMap normalizeMultiAgentRunSummary
    let turns :=
      if event.payload.state = "idle" then
        state.turns.mapValues (dropInactive (runs.map (·.runId)))
      else state.turns
    { state with turns := runs.foldl (restoreRun now event) turns }

/-- `eventStatus`. -/
def eventStatus (type : EventType) (current : TurnStatus) : TurnStatus :=
  match type with
  | .taskQueued => .queued
  | .taskRunning => .running
  | .taskStopping => .stopping
  | .taskCompleted => .completed
  | .taskFailed => .failed
  | .taskCancelled => .cancelled
  | _ => if current = .interrupted then .running else current

/-- `isGuidanceStatus`. -/
def isGuidanceStatus (event : TaskEvent) : Bool :=
  event.type == .taskStatus && event.payload.content == "已加入运行中引导"

/-- `isDuplicateEvent`. -/
def isDuplicateEvent (turn : Option TurnState) (event : TaskEvent) : Bool := event.eventId.isSome &&
    turn.any fun turn => turn.events.any (·.eventId == event.eventId)

/-- `appendTurnEvent`. -/
def appendTurnEvent (now : String) (current : Option TurnState) (event : TaskEvent) : TurnState :=
  let status := eventStatus event.type
    ((current.map TurnState.status).getD .queued)
  let events := (current.map TurnState.events).getD [] ++ [event]
  { requestId := event.requestId
    kind :=
      if event.type = .taskQueued ∧ event.payload.kind = "catalog" then
        .catalog
      else (current.map TurnState.kind).getD .chat
    status
    events
    guidanceCount := (current.map TurnState.guidanceCount).getD 0 +
      if isGuidanceStatus event then 1 else 0
    startedAt := (truthy (current.map TurnState.startedAt)).getD ((truthy event.createdAt).getD now)
    finishedAt :=
      if isTurnRunning status then none
      else some ((truthy event.createdAt).getD now)
    multiAgentRuns := multiAgentRunsFromEvent
      ((current.bind TurnState.multiAgentRuns).getD []) events event }

/-- What an event of a turn does to the messages. -/
def applyResponse (now : String) (messages : List ChatMessage)
    (event : TaskEvent) : List ChatMessage :=
  match event.type with
  | .responseDelta =>
    appendAssistantDelta now messages event.requestId event.payload.content
  | .responseCompleted =>
    completeAssistant now messages event.requestId event.payload.content
  | .responseError =>
    completeAssistant now messages event.requestId
      (if event.payload.content ≠ "" then event.payload.content
        else "请求失败")
  | _ => messages

/-- `applyTaskEvent`. -/
def applyTaskEvent (now : String) (state : SessionState) (event : TaskEvent) : SessionState :=
  if event.type = .sessionSnapshot then
    let snapshotState :=
      if event.payload.state = "idle" then interruptRunningTurns now state
      else state
    restoreMultiAgentSnapshot now
      { snapshotState with
        running := event.payload.state = "running" ∨ event.payload.state = "stopping" }
      event
  else if event.requestId = "" then
    state
  else if isDuplicateEvent (state.turns.get? event.requestId) event then
    state
  else
    let turn :=
      appendTurnEvent now (state.turns.get? event.requestId) event
    let applied := { state with
      messages := applyResponse now state.messages event
      turns := state.turns.insert event.requestId turn }
    if event.type = .guidancePending then
      { applied with
        pendingDraft := "\n".intercalate event.payload.items
        running := false }
    else
      { applied with running := isTurnRunning turn.status }

/-! ## Actions of the user -/

/-- `addOptimisticMessage`. -/
def addOptimisticMessage (state : SessionState) (input : PendingActionInput) : SessionState :=
  let message : ChatMessage :=
    { id := "client-" ++ input.id
      role := .user
      content := input.content
      createdAt := input.createdAt
      metadata := { attachments := input.attachments }
      delivery := some .sending
      clientActionId := some input.id }
  { state with
    messages := state.messages ++ [message]
    pendingActions := state.pendingActions.insert input.id
      { input with status := .sending } }

/-- What a receipt changes in a message. -/
def acceptMessage (actionId requestId : String) (item : ChatMessage) :
    ChatMessage :=
  if item.clientActionId = some actionId then
    { item with delivery := some .sent, requestId := some requestId }
  else if item.metadata.retryActionId = some actionId then
    clearNetworkFailure item requestId
  else item

/-- `acceptAction`. -/
def acceptAction (state : SessionState) (actionId sessionId requestId : String) : SessionState :=
  match state.pendingActions.get? actionId with
  | none => state
  | some pending =>
    { state with
      messages := state.messages.map (acceptMessage actionId requestId)
      pendingActions := state.pendingActions.insert actionId
        { pending with
          status := .sent
          sessionId := some sessionId
          requestId := some requestId } }

/-- `failAction`. -/
def failAction (state : SessionState) (actionId message : String) :
    SessionState :=
  match state.pendingActions.get? actionId with
  | none => state
  | some pending =>
    if pending.status ≠ .sending then
      state
    else
      { state with
        messages := state.messages.map fun item =>
          if item.clientActionId = some actionId then
            { item with
              delivery := some .failed
              metadata := { item.metadata with error := some message } }
          else item
        pendingActions := state.pendingActions.insert actionId
          { pending with status := .failed, error := some message } }

/-- `findRetryAssistantIndex`. -/
def findRetryAssistantIndex (messages : List ChatMessage)
    (requestId : Option String) (actionId : String) : Option Nat :=
  lastIndex? (fun message => message.role == .assistant && (message.requestId == requestId ||
        message.metadata.retryActionId == some actionId)) messages

/-- The failed answer of a retry with the message that it answers. -/
def retriedAnswer (messages : List ChatMessage)
    (requestId : Option String) (actionId : String) : List String :=
  match findRetryAssistantIndex messages requestId actionId with
  | none => []
  | some index =>
    ((messages[index]?).map ChatMessage.id).toList ++
      (((messages.take index).reverse.find? (·.role = .user)).map ChatMessage.id).toList

/-- The messages of the retried action and of its turn. -/
def retriedMessages (messages : List ChatMessage)
    (requestId : Option String) (actionId : String) : List String :=
  (messages.filter fun message =>
    message.clientActionId == some actionId ||
      (message.role == .user && (truthy requestId).isSome &&
        message.requestId == requestId)).map ChatMessage.id

/-- The answers behind a hidden user message, up to the next one. -/
def answersOfHidden (hidden : List String) : Bool → List ChatMessage → List String
  | _, [] => []
  | behind, message :: rest =>
    match message.role with
    | .user => answersOfHidden hidden (message.id ∈ hidden) rest
    | .assistant =>
      if behind then
        message.id :: answersOfHidden (message.id :: hidden) behind rest
      else answersOfHidden hidden behind rest

/-- `retryHiddenMessageIds`. -/
def retryHiddenMessageIds (messages : List ChatMessage)
    (pending : PendingAction) (actionId : String) : List String :=
  let hidden :=
    retriedAnswer messages pending.requestId actionId ++
      retriedMessages messages pending.requestId actionId
  hidden ++ answersOfHidden hidden false messages

/-- `retryAction`. -/
def retryAction (state : SessionState) (actionId : String)
    (retry : Option PendingActionInput) : SessionState :=
  let pending? := (state.pendingActions.get? actionId).or
    (retry.map fun input => { input with status := .sent })
  match pending? with
  | none => state
  | some pending =>
    if pending.status = .sending then
      state
    else
      let hidden := retryHiddenMessageIds state.messages pending actionId
      { state with
        messages := (state.messages.filter fun item =>
            item.role ≠ .assistant ∨ item.id ∉ hidden).map fun item =>
          if item.clientActionId = some actionId ∨
              (item.role = .user ∧ item.id ∈ hidden) then
            { item with
              clientActionId := some actionId
              delivery := some .sending
              metadata := { item.metadata with error := none } }
          else item
        turns :=
          match truthy pending.requestId with
          | none => state.turns
          | some requestId => state.turns.erase requestId
        hiddenMessageIds := (state.hiddenMessageIds ++ hidden).eraseDups
        pendingActions := state.pendingActions.insert actionId
          { pending with status := .sending, error := none } }

/-- `applySessionAction`. -/
def applySessionAction (now : String) (state : SessionState) : SessionAction → SessionState
  | .sessionReset messages turns hiddenMessageIds =>
    { createSessionState with messages, turns, hiddenMessageIds }
  | .historyLoaded messages =>
    { state with
      messages := mergeHistory state.messages (hideRetriedHistory messages state.hiddenMessageIds) }
  | .draftPending content => { state with pendingDraft := content }
  | .messageOptimistic action => addOptimisticMessage state action
  | .actionRetry actionId retry => retryAction state actionId retry
  | .actionAccepted actionId sessionId requestId =>
    acceptAction state actionId sessionId requestId
  | .actionFailed actionId message => failAction state actionId message
  | .connectionLost => interruptRunningTurns now state
  | .eventReceived event => applyTaskEvent now state event

end TurningGood.Browser
