import Mathlib.Data.Finset.Basic
import TurningGood.Proactive.ReviewSaves

/-!
# Observations and skill drafts

The manager of the skill evolution distils observations from the completed
turns of a session, and makes skill drafts from groups of observations.  Both
hold one lock, across the calls of the model that they await, so that at most
one of them is in progress; between two awaits it runs undisturbed.  A call
that is cancelled, or that an exception leaves, ends where it awaits.

What the calls did is logged in order: what was asked and stored for which
batch of messages, which boundaries were marked, and which observations the
drafts were made from.
-/

namespace TurningGood.Proactive

open TurningGood.Foundation

/-! ## Observations and the snapshot -/

/-- `OBSERVATION_KINDS`. -/
def observationKinds : List String :=
  ["workflow", "tool_procedure", "failure_recovery", "interaction_protocol"]

/-- `Observation`. -/
structure Observation where
  id : String
  createdAt : String
  kind : String
  observation : String
  sourceSessionId : String
  sourceMessageIds : List String
  deriving DecidableEq, Repr

/-- `_observation_from_dict`, with the check of the kind. -/
def observationFromDict (payload : Observation) :
    Except String Observation :=
  if payload.sourceMessageIds = [] ∨ "" ∈ payload.sourceMessageIds then
    .error "skill.json Observation 来源无效"
  else
    (boundedText payload.id "Observation id" 200).bind fun id =>
      (boundedText payload.createdAt "Observation created_at" 100).bind fun createdAt =>
          (boundedText payload.kind "Observation kind" 80).bind fun kind =>
            (boundedText payload.observation "Observation observation" 2000).bind fun observation =>
                (boundedText payload.sourceSessionId
                  "Observation source_session_id" 200).bind fun sourceSessionId =>
                      if kind ∈ observationKinds then
                        .ok { id, createdAt, kind, observation,
                              sourceSessionId,
                              sourceMessageIds := payload.sourceMessageIds }
                      else
                        .error ("无效的 Observation kind：" ++ kind)

/-- The content of `skill.json`. -/
structure SkillState where
  observations : List Observation
  nextRunAt : Option Nat
  usage : UsageTotals
  deriving DecidableEq, Repr

/-- `_default_state`. -/
def SkillState.default : SkillState where
  observations := []
  nextRunAt := none
  usage := ⟨0, 0, 0, 0⟩

/-- `_state`. -/
def loadSkillState : Option SkillState → Except String SkillState
  | none => .ok .default
  | some written =>
    (loadAll observationFromDict written.observations).map
      fun observations => { written with observations }

/-- The settings of the skill evolution, and the counter of tokens. -/
structure SkillSettings where
  turnInterval : Nat
  observationLimit : Nat
  reviewWindowLimit : Nat
  batchLimit : Nat
  batchesPerKind : Nat
  countTokens : String → Nat
  turnIntervalPositive : 0 < turnInterval

/-- A run is due a day behind the last one. -/
def skillRefresh : Nat := 86400000000

/-! ## Turns of a session -/

/-- A message, and whether its metadata say that it is incomplete. -/
structure TurnMessage where
  message : ReviewMessage
  incomplete : Bool
  deriving DecidableEq, Repr

/-- The messages of one completed turn. -/
abbrev Turn := List TurnMessage

/-- The loop of `_completed_turns`, with the users that are pending. -/
def completedTurnsLoop : List TurnMessage → List TurnMessage → List Turn
  | [], _ => []
  | next :: rest, pendingUsers =>
    if next.message.role = "user" then
      completedTurnsLoop rest (pendingUsers ++ [next])
    else if next.message.role ≠ "assistant" ∨ pendingUsers = [] then
      completedTurnsLoop rest pendingUsers
    else if next.incomplete then
      completedTurnsLoop rest []
    else
      (pendingUsers ++ [next]) :: completedTurnsLoop rest []

/-- `_completed_turns`. -/
def completedTurns (messages : List TurnMessage) : List Turn := completedTurnsLoop messages []

/-- `_turns_through_assistant`. -/
def turnsThroughAssistant (turns : List Turn) (assistantMessageId : Option String) : List Turn :=
  match assistantMessageId with
  | none => turns
  | some id =>
    match turns.findIdx? fun turn =>
        turn.getLast?.any fun last => last.message.id == id with
    | some index => turns.take (index + 1)
    | none => []

/-- The turns that a call of `maybe_observe` sees in a session. -/
def observedTurns (messages : List TurnMessage) (assistantMessageId : Option String) : List Turn :=
  turnsThroughAssistant (completedTurns (messages.filter fun entry =>
      decide entry.message.Reviewable)) assistantMessageId

/-- `_message_batches`, which cuts as the batches of a review are cut. -/
def messageBatches (messages : List TurnMessage) (tokenLimit : Nat) :
    Except String (List ReviewBatch) :=
  batches (messages.map TurnMessage.message) tokenLimit

/-- The ids of the messages of a batch. -/
def ReviewBatch.ids (batch : ReviewBatch) : List String := batch.messages.map ReviewMessage.id

/-- The number of turns is one at which an observation is due. -/
def dueByInterval (settings : SkillSettings) (turns : List Turn) : Bool :=
  turns.length % settings.turnInterval == 0

/-- The messages of which a boundary is observed. -/
def observedSource (settings : SkillSettings) (turns : List Turn) :
    List TurnMessage :=
  let count := if dueByInterval settings turns then settings.turnInterval
    else 1
  (turns.drop (turns.length - count)).flatten

/-! ## Replies -/

/-- The entry of a reply; `none` stands for a value of another type. -/
structure ObservationEntry where
  kind : String
  observation : Option String
  sourceMessageIds : Option (List String)
  deriving DecidableEq, Repr

/-- `_sentence_count`. -/
def sentenceCount (text : String) : Nat :=
  max 1 (text.toList.filter fun char => char ∈ ".。!?！？".toList).length

/-- `_parse_observation`, for an entry with the right fields. -/
def parseObservation (texts : ReviewTexts) (settings : SkillSettings)
    (sessionId : String) (allowedIds : List String)
    (entry : ObservationEntry) (draw moment : Nat) :
    Except String Observation :=
  (boundedValue entry.observation "observation" 2000).bind fun text =>
    if entry.kind ∉ observationKinds ∨
        settings.observationLimit < settings.countTokens text ∨
        3 < sentenceCount text then
      .error "Observation 不符合质量边界"
    else
      match entry.sourceMessageIds with
      | none | some [] => .error "Observation 必须包含来源"
      | some (first :: rest) =>
        if ∃ id ∈ first :: rest, id ∉ allowedIds then
          .error "Observation 来源不属于当前会话范围"
        else
          .ok {
            id := texts.newId draw
            createdAt := texts.isoText moment
            kind := entry.kind
            observation := text
            sourceSessionId := sessionId
            sourceMessageIds := first :: rest }

/-- What comes of asking for an observation. -/
inductive ObservationReply where
  /-- the call raises or fails, or its reply cannot be read -/
  | failed (usage : LLMUsage)
  /-- the reply has no observation -/
  | nothing (usage : LLMUsage)
  | entry (usage : LLMUsage) (entry : ObservationEntry) (draw moment : Nat)

/-- What comes of asking for a signal; `none` stands for no answer. -/
structure SignalReply where
  usage : LLMUsage
  answer : Option Bool

/-- What reading the sources of a group of observations gives. -/
inductive SourceRead where
  | fits
  | unfit
  /-- a message is missing -/
  | missing
  | raised
  deriving DecidableEq, Repr

/-- A candidate of a reply; `none` stands for no list of texts. -/
structure RawCandidate where
  observationIds : Option (List String)
  sources : SourceRead
  deriving DecidableEq, Repr

/-- What comes of asking for candidates. -/
inductive SelectionReply where
  /-- a source is missing, so that nothing is asked -/
  | sourcesMissing
  /-- the call raises or fails, or its reply cannot be read -/
  | failed (usage : LLMUsage)
  | candidates (usage : LLMUsage) (raw : List RawCandidate)

/-- What comes of generating a draft and of creating it. -/
inductive DraftReply where
  /-- a source is missing, so that nothing is asked -/
  | sourcesMissing
  /-- no draft is generated, or `create_draft` refuses it -/
  | none (usage : LLMUsage)
  /-- `create_draft` raises what the run does not expect -/
  | raised (usage : LLMUsage)
  | created (usage : LLMUsage) (name : String)

/-- The loop of `_select_candidates`; `none` if an exception leaves it. -/
def normalizedCandidates (allowed : List String) : List RawCandidate → Option (List (List String))
  | [] => some []
  | candidate :: rest =>
    match candidate.observationIds with
    | none | some [] => normalizedCandidates allowed rest
    | some (first :: others) =>
      let ids := (first :: others).eraseDups
      if ids ⊆ allowed then
        match candidate.sources with
        | .fits => (normalizedCandidates allowed rest).map (ids :: ·)
        | .unfit => normalizedCandidates allowed rest
        | .missing => some []
        | .raised => Option.none
      else
        normalizedCandidates allowed rest

/-- Observations are taken by time and id. -/
def Observation.Before (left right : Observation) : Prop :=
  left.createdAt < right.createdAt ∨ left.createdAt = right.createdAt ∧ left.id ≤ right.id

instance : DecidableRel Observation.Before := fun _ _ => inferInstanceAs (Decidable (_ ∨ _))

/-- The loop of `_observation_batches`. -/
def observationBatchesLoop (countTokens : String → Nat) (tokenLimit : Nat) :
    List Observation → List (List Observation) → List Observation → Nat → List (List Observation)
  | [], batches, [], _ => batches
  | [], batches, current, _ => batches ++ [current]
  | next :: rest, batches, current, tokens =>
    let size := countTokens next.observation
    if current ≠ [] ∧ tokenLimit < tokens + size then
      observationBatchesLoop countTokens tokenLimit rest (batches ++ [current]) [next] size
    else
      observationBatchesLoop countTokens tokenLimit rest batches (current ++ [next]) (tokens + size)

/-- `_observation_batches`. -/
def observationBatches (settings : SkillSettings)
    (observations : List Observation) : List (List Observation) :=
  observationBatchesLoop settings.countTokens settings.batchLimit
    (observations.insertionSort Observation.Before) [] [] 0

/-- The batches of a run, kind by kind. -/
def evolutionPlan (settings : SkillSettings)
    (observations : List Observation) : List (List Observation) :=
  ((observations.map Observation.kind).dedup.insertionSort (· ≤ ·)).flatMap fun kind =>
      (observationBatches settings
        (observations.filter (·.kind = kind))).take settings.batchesPerKind

/-! ## The manager -/

/-- The boundary of a session that a call of `maybe_observe` works on. -/
structure ObserveCall where
  sessionId : String
  turns : List Turn
  deriving DecidableEq, Repr

/-- The number of completed turns. -/
def ObserveCall.completedTurns (call : ObserveCall) : Nat := call.turns.length

/-- A run of the evolution, with the observations that it has used. -/
structure EvolutionRun where
  state : SkillState
  consumed : List String

/-- The call that holds the lock, and what it awaits. -/
inductive SkillCall where
  /-- the answer on the first of the batches, whether there is a signal -/
  | signal (call : ObserveCall) (state : SkillState)
      (batches : List ReviewBatch)
  /-- the observation of the first batch -/
  | observing (call : ObserveCall) (state : SkillState)
      (batch : ReviewBatch) (rest : List ReviewBatch)
  /-- the candidates of the first batch -/
  | selecting (run : EvolutionRun) (batch : List Observation)
      (rest : List (List Observation))
  /-- the draft of the first candidate -/
  | drafting (run : EvolutionRun) (candidate : List String)
      (candidates : List (List String)) (rest : List (List Observation))

/-- What the calls did. -/
inductive SkillEvent where
  /-- the model was asked to observe a batch of a boundary -/
  | asked (call : ObserveCall) (ids : List String)
  | stored (call : ObserveCall) (ids : List String)
      (observation : Observation)
  /-- a batch was processed, with or without an observation -/
  | processed (call : ObserveCall) (ids : List String)
  | marked (call : ObserveCall)
  /-- a draft was created from the observations with these ids -/
  | created (name : String) (ids : List String)
  deriving DecidableEq, Repr

/-- The manager with its file. -/
structure SkillManager where
  file : Option SkillState
  observedBoundaries : Dict String Nat
  checkedSignalBoundaries : Dict String Nat
  completedObservationBatches : Finset (String × List String)
  call : Option SkillCall
  log : List SkillEvent

namespace SkillManager

variable (texts : ReviewTexts) (settings : SkillSettings) (manager : SkillManager)

/-- `_save_state`. -/
def save (state : SkillState) : SkillManager :=
  { manager with file := some state }

/-- The call that held the lock has ended. -/
def released : SkillManager :=
  { manager with call := none }

/-- Log an event. -/
def note (event : SkillEvent) : SkillManager :=
  { manager with log := manager.log ++ [event] }

/-- Every batch is processed: the boundary is marked. -/
def markObserved (call : ObserveCall) : SkillManager :=
  { manager with
    observedBoundaries := manager.observedBoundaries.insert call.sessionId call.completedTurns
    checkedSignalBoundaries :=
      manager.checkedSignalBoundaries.insert call.sessionId call.completedTurns
    completedObservationBatches := manager.completedObservationBatches.filter fun key =>
        key.1 ≠ call.sessionId
    call := none
    log := manager.log ++ [.marked call] }

/-- Go on to the next batch that is not yet processed. -/
def observeNext (call : ObserveCall) (state : SkillState) : List ReviewBatch → SkillManager
  | [] => manager.markObserved call
  | batch :: rest =>
    if (call.sessionId, batch.ids) ∈
        manager.completedObservationBatches then
      observeNext call state rest
    else
      { manager with
        call := some (.observing call state batch rest)
        log := manager.log ++ [.asked call batch.ids] }

/-- The part of `maybe_observe` behind the signal. -/
def beginObserving (call : ObserveCall) : SkillManager :=
  if manager.observedBoundaries.get? call.sessionId =
      some call.completedTurns then
    manager.released
  else
    match loadSkillState manager.file with
    | .error _ => manager.released
    | .ok state =>
      match messageBatches (observedSource settings call.turns)
          settings.reviewWindowLimit with
      | .error _ => manager.released
      | .ok batches => manager.observeNext call state batches

/-- The messages of the users in the last turn. -/
def signalMessages (turns : List Turn) : List TurnMessage :=
  (turns.getLast?.getD []).filter fun entry =>
    decide (entry.message.role = "user")

/-- The check of the signal has found none. -/
def signalAbsent (call : ObserveCall) : SkillManager :=
  { manager with
    checkedSignalBoundaries :=
      manager.checkedSignalBoundaries.insert call.sessionId call.completedTurns
    call := none }

/-- `maybe_observe` up to its first call of the model. -/
def maybeObserve (sessionId : String) (messages : List TurnMessage)
    (explicitSignal : Bool) (assistantMessageId : Option String) :
    SkillManager :=
  let call : ObserveCall :=
    ⟨sessionId, observedTurns messages assistantMessageId⟩
  if call.completedTurns = 0 then
    manager
  else if explicitSignal ∨ dueByInterval settings call.turns then
    manager.beginObserving settings call
  else if manager.checkedSignalBoundaries.get? sessionId =
      some call.completedTurns then
    manager
  else
    match loadSkillState manager.file with
    | .error _ => manager
    | .ok state =>
      match messageBatches (signalMessages call.turns)
          settings.reviewWindowLimit with
      | .error _ => manager
      | .ok [] => manager.signalAbsent call
      | .ok (batch :: rest) =>
        { manager with call := some (.signal call state (batch :: rest)) }

/-- The answer on a signal. -/
def signalAnswered (call : ObserveCall) (state : SkillState)
    (batches : List ReviewBatch) (reply : SignalReply) : SkillManager :=
  let used := { state with usage := state.usage.add reply.usage }
  let saved := manager.save used
  match reply.answer with
  | none => saved.released
  | some true =>
    { saved with
      checkedSignalBoundaries := saved.checkedSignalBoundaries.insert call.sessionId
          call.completedTurns }.beginObserving settings call
  | some false =>
    match batches with
    | _ :: next :: rest =>
      { saved with call := some (.signal call used (next :: rest)) }
    | _ => saved.signalAbsent call

/-- A batch is processed. -/
def batchProcessed (call : ObserveCall) (batch : ReviewBatch) :
    SkillManager :=
  { manager with
    completedObservationBatches :=
      insert (call.sessionId, batch.ids) manager.completedObservationBatches
    log := manager.log ++ [.processed call batch.ids] }

/-- The reply on a batch. -/
def observationAnswered (call : ObserveCall) (state : SkillState)
    (batch : ReviewBatch) (rest : List ReviewBatch) :
    ObservationReply → SkillManager
  | .failed usage =>
    (manager.save { state with usage := state.usage.add usage }).released
  | .nothing usage =>
    let used := { state with usage := state.usage.add usage }
    ((manager.save used).batchProcessed call batch).observeNext call used rest
  | .entry usage entry draw moment =>
    let used := { state with usage := state.usage.add usage }
    match parseObservation texts settings call.sessionId batch.ids entry
        draw moment with
    | .error _ => (manager.save used).released
    | .ok observation =>
      let added :=
        { used with
          observations := used.observations ++ [observation] }
      ((((manager.save used).save added).note
        (.stored call batch.ids observation)).batchProcessed call batch).observeNext call added rest

/-- The next run is a day behind this one. -/
def finishEvolution (run : EvolutionRun) (finishedAt : Nat) : SkillManager := (manager.save
    { run.state with
      nextRunAt := some (finishedAt + skillRefresh) }).released

/--
Go on to the next candidate without a used observation, to the next batch
when none is left, and to the end of the run behind the last batch.
-/
def evolveNext (run : EvolutionRun) (finishedAt : Nat)
    (rest : List (List Observation)) : List (List String) → SkillManager
  | [] =>
    match rest with
    | [] => manager.finishEvolution run finishedAt
    | batch :: later =>
      { manager with call := some (.selecting run batch later) }
  | candidate :: candidates =>
    if ∃ id ∈ candidate, id ∈ run.consumed then
      evolveNext run finishedAt rest candidates
    else
      { manager with
        call := some (.drafting run candidate candidates rest) }

/-- `run_evolution` up to its first call of the model. -/
def runEvolution (finishedAt : Nat) : SkillManager :=
  match loadSkillState manager.file with
  | .error _ => manager
  | .ok state =>
    manager.evolveNext ⟨state, []⟩ finishedAt (evolutionPlan settings state.observations) []

/-- The reply on the candidates of a batch. -/
def selectionAnswered (run : EvolutionRun) (batch : List Observation)
    (rest : List (List Observation)) (finishedAt : Nat) :
    SelectionReply → SkillManager
  | .sourcesMissing => manager.evolveNext run finishedAt rest []
  | .failed usage =>
    let used := { run.state with usage := run.state.usage.add usage }
    (manager.save used).evolveNext { run with state := used } finishedAt
      rest []
  | .candidates usage raw =>
    let used := { run.state with usage := run.state.usage.add usage }
    match normalizedCandidates (batch.map Observation.id) raw with
    | none => (manager.save used).released
    | some candidates =>
      (manager.save used).evolveNext { run with state := used }
        finishedAt rest candidates

/-- The reply on the draft of a candidate, and the creation of the draft. -/
def draftAnswered (run : EvolutionRun) (candidate : List String)
    (candidates : List (List String)) (rest : List (List Observation))
    (finishedAt : Nat) : DraftReply → SkillManager
  | .sourcesMissing => manager.evolveNext run finishedAt rest candidates
  | .none usage =>
    let used := { run.state with usage := run.state.usage.add usage }
    (manager.save used).evolveNext { run with state := used } finishedAt
      rest candidates
  | .raised usage =>
    (manager.save
      { run.state with usage := run.state.usage.add usage }).released
  | .created usage name =>
    let used := { run.state with usage := run.state.usage.add usage }
    let left :=
      { used with
        observations := used.observations.filter fun observation =>
          observation.id ∉ candidate }
    (((manager.save used).note (.created name candidate)).save
      left).evolveNext ⟨left, run.consumed ++ candidate⟩ finishedAt rest candidates

/-- The next run is moved, as far as the file can be read. -/
def reschedule (moment : Nat) : SkillManager :=
  match loadSkillState manager.file with
  | .error _ => manager
  | .ok state =>
    manager.save { state with nextRunAt := some (moment + skillRefresh) }

/-- `initialize_schedule`, which does not take the lock. -/
def initializeSchedule (now : Nat) : SkillManager :=
  match loadSkillState manager.file with
  | .error _ => manager
  | .ok state =>
    if ∃ deadline ∈ state.nextRunAt, now < deadline then manager
    else manager.reschedule now

end SkillManager

/-- A step of the manager. -/
inductive SkillLabel where
  | maybeObserve (sessionId : String) (messages : List TurnMessage)
      (explicitSignal : Bool) (assistantMessageId : Option String)
  | signalAnswered (reply : SignalReply)
  | observationAnswered (reply : ObservationReply)
  | runEvolution (finishedAt : Nat)
  | selectionAnswered (reply : SelectionReply) (finishedAt : Nat)
  | draftAnswered (reply : DraftReply) (finishedAt : Nat)
  /-- the call is cancelled, or what it awaits raises -/
  | interrupted
  | deferAfterFailure (now : Nat)
  | initializeSchedule (now : Nat)
  /-- the process starts again -/
  | restart

/-- A manager that was just started. -/
def SkillManager.started (file : Option SkillState) (log : List SkillEvent) : SkillManager where
  file := file
  observedBoundaries := .empty
  checkedSignalBoundaries := .empty
  completedObservationBatches := ∅
  call := none
  log := log

/-- One step; a call begins only when no other call holds the lock. -/
def SkillManager.step (texts : ReviewTexts) (settings : SkillSettings)
    (manager : SkillManager) : SkillLabel → Option SkillManager
  | .maybeObserve sessionId messages explicitSignal assistantMessageId =>
    match manager.call with
    | none => some (manager.maybeObserve settings sessionId messages
        explicitSignal assistantMessageId)
    | some _ => none
  | .signalAnswered reply =>
    match manager.call with
    | some (.signal call state batches) =>
      some (manager.signalAnswered settings call state batches reply)
    | _ => none
  | .observationAnswered reply =>
    match manager.call with
    | some (.observing call state batch rest) =>
      some (manager.observationAnswered texts settings call state batch rest reply)
    | _ => none
  | .runEvolution finishedAt =>
    match manager.call with
    | none => some (manager.runEvolution settings finishedAt)
    | some _ => none
  | .selectionAnswered reply finishedAt =>
    match manager.call with
    | some (.selecting run batch rest) =>
      some (manager.selectionAnswered run batch rest finishedAt reply)
    | _ => none
  | .draftAnswered reply finishedAt =>
    match manager.call with
    | some (.drafting run candidate candidates rest) =>
      some (manager.draftAnswered run candidate candidates rest finishedAt reply)
    | _ => none
  | .interrupted =>
    match manager.call with
    | some _ => some manager.released
    | none => none
  | .deferAfterFailure now =>
    match manager.call with
    | none => some (manager.reschedule now)
    | some _ => none
  | .initializeSchedule now => some (manager.initializeSchedule now)
  | .restart => some (.started manager.file manager.log)

/-- The skill evolution, from no file on. -/
def skillEvolution (texts : ReviewTexts) (settings : SkillSettings) :
    Machine SkillManager SkillLabel where
  initial manager := manager = .started none []
  step := SkillManager.step texts settings

end TurningGood.Proactive
