import TurningGood.Browser.ShownAnswer
import TurningGood.Foundation.Machine

/-!
# The answer after reconnects

A page receives the events of an accepted turn in order: pieces of the
answer among other events, the end of the answer, and the end of the turn.
When the connection is lost, the answer of a running turn is replaced by a
notice, and the server sends the events behind the cursor of the client.

What the page then shows depends on the last loss that met the running turn
only.  The first piece behind it replaces the notice, and the text from
before is gone; the full text of the completed answer is used only where no
text is there yet.
-/

namespace TurningGood.Browser

open TurningGood.Foundation

variable {event : TaskEvent} {type : EventType}

/-- Events that change no message and end no turn. -/
def EventType.isQuiet : EventType → Bool
  | .sessionSnapshot | .responseDelta | .responseCompleted
  | .responseError | .taskCompleted | .taskFailed | .taskCancelled => false
  | _ => true

/-- The events that end a turn. -/
def EventType.endsTurn : EventType → Bool
  | .taskCompleted | .taskFailed | .taskCancelled => true
  | _ => false

/-- The number of an event. -/
def eventNumber (event : TaskEvent) : Nat := event.eventId.getD 0

/-- The events of one turn, in the order in which the server numbers them. -/
structure AnswerLog where
  requestId : String
  before : List TaskEvent
  answer : TaskEvent
  after : List TaskEvent
  ending : TaskEvent
  named : requestId ≠ ""
  progress : ∀ event ∈ before, event.type = .responseDelta ∨ event.type.isQuiet = true
  answers : answer.type = .responseCompleted ∨ answer.type = .responseError
  quiet : ∀ event ∈ after, event.type.isQuiet = true
  ends : ending.type.endsTurn = true
  own : ∀ event ∈ before ++ answer :: (after ++ [ending]),
    event.requestId = requestId ∧ event.eventId.isSome = true
  increasing : (before ++ answer :: (after ++ [ending])).Pairwise
      fun earlier later => eventNumber earlier < eventNumber later

/-- All events of the turn. -/
def AnswerLog.events (log : AnswerLog) : List TaskEvent :=
  log.before ++ log.answer :: (log.after ++ [log.ending])

/-! ## The client -/

/-- The state of the page, and the number of the last event it received. -/
structure SessionClient where
  state : SessionState
  lastEventId : Nat
  deriving DecidableEq

/-- A lost connection that is restored, or the next event. -/
inductive ReplayLabel where
  | lost (now : String)
  | received (now : String)
  deriving DecidableEq, Repr

/-- The events that the server sends to a client. -/
def AnswerLog.behind (log : AnswerLog) (client : SessionClient) :
    List TaskEvent :=
  log.events.filter (client.lastEventId < eventNumber ·)

/-- The page consumes an event, and the socket remembers its number. -/
def SessionClient.receive (client : SessionClient) (now : String)
    (event : TaskEvent) : SessionClient where
  state := applySessionAction now client.state (.eventReceived event)
  lastEventId := eventNumber event

/-- A turn that was accepted and of which no event was received. -/
structure AcceptedTurn (log : AnswerLog) (client : SessionClient) :
    Prop where
  noTurn : client.state.turns.get? log.requestId = none
  others : ∀ key turn, client.state.turns.get? key = some turn → turn.requestId ≠ log.requestId
  unanswered : answerMessage log.requestId client.state.messages = none
  answerable : Answerable log.requestId client.state.messages
  fresh : ∀ event ∈ log.events, client.lastEventId < eventNumber event

/-- The client of one turn, with reconnects at any time. -/
def replays (log : AnswerLog) : Machine SessionClient ReplayLabel where
  initial := AcceptedTurn log
  step client
    | .lost now => some { client with
        state := applySessionAction now client.state .connectionLost }
    | .received now =>
      (log.behind client).head?.map (client.receive now)

/-- The page after the events without any disconnect. -/
def undisturbed (log : AnswerLog) (now : String) (state : SessionState) :
    SessionState :=
  log.events.foldl (fun state event => applySessionAction now state (.eventReceived event)) state

/-- The text that a turn shows as its answer, if it shows one. -/
def answerContent (requestId : String) (state : SessionState) :
    Option String :=
  (answerMessage requestId state.messages).map ChatMessage.content

/-! ## What a run of the client amounts to -/

/-- How many events were received, and after how many the last loss met the
running turn. -/
structure Progress where
  received : Nat
  cut : Option Nat
  deriving DecidableEq, Repr

/-- The progress after a label. -/
def Progress.next (length : Nat) (progress : Progress) : ReplayLabel → Progress
  | .received _ => { progress with received := progress.received + 1 }
  | .lost _ =>
    if 0 < progress.received ∧ progress.received < length then
      { progress with cut := some progress.received }
    else progress

/-- The progress after all labels. -/
def progressOf (log : AnswerLog) (labels : List ReplayLabel) : Progress :=
  labels.foldl (Progress.next log.events.length) ⟨0, none⟩

/-- The text that the end of an answer brings. -/
def answerText (event : TaskEvent) : String :=
  if event.type = .responseError ∧ event.payload.content = "" then "请求失败"
  else event.payload.content

/-- The pieces of an answer, put together. -/
def deltaText : List TaskEvent → String
  | [] => ""
  | event :: rest =>
    if event.type = .responseDelta then
      event.payload.content ++ deltaText rest
    else deltaText rest

/-- Whether there is a piece of an answer. -/
def hasDelta (events : List TaskEvent) : Bool := events.any (·.type = .responseDelta)

/-- The text that the answer has without any disconnect. -/
def fullText (log : AnswerLog) : String :=
  if deltaText log.before ≠ "" then deltaText log.before
  else answerText log.answer

/--
The last loss that met the running turn left the answer as it would be.
Before the end of the answer: no text had arrived, or all of it, and the end
brings that text again; and there is an answer at all.  Behind it: the
answer is the notice itself.
-/
def KeepsAnswer (log : AnswerLog) : Option Nat → Prop
  | none => True
  | some cut =>
    if cut ≤ log.before.length then
      (hasDelta log.before = true ∨ answerText log.answer ≠ "") ∧
        (deltaText (log.before.take cut) = "" ∨ deltaText (log.before.drop cut) = "" ∧
            answerText log.answer = deltaText (log.before.take cut))
    else
      fullText log = networkFailureText

instance (log : AnswerLog) (cut : Option Nat) :
    Decidable (KeepsAnswer log cut) := by
  unfold KeepsAnswer
  split <;> infer_instance

/-- What an event does to the answer. -/
def ShownAnswer.receive (answer : ShownAnswer) (event : TaskEvent) :
    ShownAnswer :=
  match event.type with
  | .responseDelta => answer.append event.payload.content
  | .responseCompleted | .responseError => answer.complete (answerText event)
  | _ => answer

/-- What events do to the answer. -/
def ShownAnswer.receiveAll (answer : ShownAnswer) (events : List TaskEvent) : ShownAnswer :=
  events.foldl ShownAnswer.receive answer

/-- The answer that is shown at some progress. -/
def answerAt (log : AnswerLog) (progress : Progress) : ShownAnswer :=
  match progress.cut with
  | none => ShownAnswer.absent.receiveAll (log.events.take progress.received)
  | some cut =>
    ShownAnswer.cutOff.receiveAll ((log.events.take progress.received).drop cut)

/-- A page after a new send of the user and its receipt. -/
def sendAccepted (now : String) (state : SessionState)
    (input : PendingActionInput) (sessionId requestId : String) :
    SessionState :=
  applySessionAction now (applySessionAction now state (.messageOptimistic input))
    (.actionAccepted input.id sessionId requestId)

/-! ## One event, one loss -/

theorem Shows.applyResponse {requestId : String} {messages : List ChatMessage}
    {answer : ShownAnswer} (shows_ : Shows requestId messages answer)
    (now : String) (own : event.requestId = requestId) :
    Shows requestId (applyResponse now messages event) (answer.receive event) := by
  rw [Browser.applyResponse, ShownAnswer.receive, own, answerText]
  cases type : event.type with
  | responseDelta => exact shows_.appendDelta now _
  | responseCompleted =>
    simp only [reduceCtorEq, false_and, if_false]
    exact shows_.complete now _
  | responseError =>
    by_cases empty : event.payload.content = ""
    · simp only [empty, ne_eq, not_true_eq_false, and_self, if_true, if_false]
      exact shows_.complete now _
    · simp only [empty, ne_eq, not_false_eq_true, and_false, if_true, if_false]
      exact shows_.complete now _
  | _ => exact shows_

theorem Answerable.applyResponse {requestId : String}
    {messages : List ChatMessage}
    (answerable : Answerable requestId messages) (now : String)
    (event : TaskEvent) :
    Answerable requestId (applyResponse now messages event) := by
  rw [Browser.applyResponse]
  split
  · exact answerable.appendDelta now _ _
  · exact answerable.complete now _ _
  · exact answerable.complete now _ _
  · exact answerable

/-- The turns that a lost connection meets. -/
def runningIds (state : SessionState) : List String :=
  (state.turns.values.filter (isTurnRunning ·.status)).map TurnState.requestId

theorem interruptRunningTurns_messages (now : String) (state : SessionState) :
    (interruptRunningTurns now state).messages =
      (runningIds state).foldl (interruptAssistantMessage now)
        state.messages := by
  rw [interruptRunningTurns, ← runningIds]
  split_ifs with nothing
  · rw [nothing]
    rfl
  · rfl

theorem interruptRunningTurns_get? (now : String) (state : SessionState) (key : String) :
    (interruptRunningTurns now state).turns.get? key = (state.turns.get? key).map fun turn =>
        if key ∈ runningIds state then
          { turn with status := .interrupted, finishedAt := some now }
        else turn := by
  rw [interruptRunningTurns, ← runningIds]
  split
  · rename_i nothing
    rw [nothing]
    simp
  · rw [Dict.get?_mapEntries]

/-- The turns of a page, seen from one turn of which events were received. -/
structure TurnAt (log : AnswerLog) (turns : Dict String TurnState)
    (progress : Progress) : Prop where
  others : ∀ key turn, turns.get? key = some turn → key ≠ log.requestId →
    turn.requestId ≠ log.requestId
  unstarted : progress.received = 0 → turns.get? log.requestId = none
  started : 0 < progress.received → ∃ turn,
    turns.get? log.requestId = some turn ∧ turn.requestId = log.requestId ∧
      turn.events = log.events.take progress.received ∧
      (progress.received < log.events.length →
        isTurnRunning turn.status = true ∨ turn.status = .interrupted ∧
            progress.cut = some progress.received) ∧
      (progress.received = log.events.length → isTurnRunning turn.status = false)

variable {log : AnswerLog} {progress : Progress}

theorem TurnAt.mem_runningIds {state : SessionState} (at_ : TurnAt log state.turns progress) :
    log.requestId ∈ runningIds state ↔ ∃ turn, state.turns.get? log.requestId = some turn ∧
        isTurnRunning turn.status = true := by
  rw [runningIds, List.mem_map]
  constructor
  · rintro ⟨turn, member, named⟩
    rw [List.mem_filter, Dict.mem_values_iff] at member
    rcases member with ⟨⟨key, present⟩, running⟩
    have same : key = log.requestId := by
      by_contra other
      exact at_.others key turn present other named
    exact ⟨turn, same ▸ present, running⟩
  · rintro ⟨turn, present, running⟩
    have positive : 0 < progress.received := by
      by_contra zero
      rw [at_.unstarted (by omega)] at present
      cases present
    rcases at_.started positive with ⟨found, inTurns, named, -⟩
    rw [present] at inTurns
    cases inTurns
    exact ⟨turn, List.mem_filter.mpr ⟨(Dict.mem_values_iff _ _).mpr ⟨_, present⟩, running⟩, named⟩

/-- What is known of a client at some progress. -/
structure Follows (log : AnswerLog) (client : SessionClient)
    (progress : Progress) : Prop where
  received : progress.received ≤ log.events.length
  cut : ∀ cut, progress.cut = some cut → 0 < cut ∧ cut ≤ progress.received ∧ cut < log.events.length
  turns : TurnAt log client.state.turns progress
  answerable : Answerable log.requestId client.state.messages
  behind : log.behind client = log.events.drop progress.received
  shows_ : Shows log.requestId client.state.messages (answerAt log progress)

variable {client : SessionClient}

theorem AcceptedTurn.follows (accepted : AcceptedTurn log client) :
    Follows log client ⟨0, none⟩ where
  received := Nat.zero_le _
  cut := fun cut impossible => nomatch impossible
  turns := {
    others := fun key turn present _ => accepted.others key turn present
    unstarted := fun _ => accepted.noTurn
    started := fun positive => absurd positive (Nat.lt_irrefl 0) }
  answerable := accepted.answerable
  behind := by
    rw [AnswerLog.behind, List.drop_zero, List.filter_eq_self]
    intro event member
    exact decide_eq_true (accepted.fresh event member)
  shows_ := .absent accepted.unanswered

theorem answerAt_cut (log : AnswerLog) (received : Nat) :
    answerAt log ⟨received, some received⟩ = .cutOff := by
  rw [answerAt]
  dsimp only
  rw [List.drop_eq_nil_of_le (List.length_take_le _ _)]
  rfl

theorem Follows.lost (follows : Follows log client progress) (now : String) : Follows log
      { client with
        state := applySessionAction now client.state .connectionLost }
      (progress.next log.events.length (.lost now)) := by
  have target : applySessionAction now client.state .connectionLost =
      interruptRunningTurns now client.state := rfl
  have met := follows.turns.mem_runningIds
  rcases @interrupt_all _ now (runningIds client.state) _ _ follows.shows_
    follows.answerable with ⟨shown, answerable⟩
  rw [← interruptRunningTurns_messages] at shown answerable
  by_cases between : 0 < progress.received ∧ progress.received < log.events.length
  · have next : progress.next log.events.length (.lost now) =
        ⟨progress.received, some progress.received⟩ := by
      rw [Progress.next, if_pos between]
    rcases follows.turns.started between.1 with ⟨turn, present, named, events, running, -⟩
    rw [next]
    refine ⟨follows.received, ?_, ?_, answerable, follows.behind, ?_⟩
    · intro cut same
      cases same
      exact ⟨between.1, Nat.le_refl _, between.2⟩
    · refine ⟨?_, fun zero => absurd zero (Nat.ne_of_gt between.1), fun _ => ?_⟩
      · intro key other present' ne
        rw [target, interruptRunningTurns_get?, Option.map_eq_some_iff] at present'
        rcases present' with ⟨earlier, was, rfl⟩
        have kept := follows.turns.others key earlier was ne
        split_ifs <;> exact kept
      · rw [target, interruptRunningTurns_get?, present, Option.map_some]
        refine ⟨_, rfl, ?_, ?_, ?_, fun done =>
          absurd done (Nat.ne_of_lt between.2)⟩
        · split_ifs <;> exact named
        · split_ifs <;> exact events
        · intro _
          right
          refine ⟨?_, rfl⟩
          rcases running between.2 with isRunning | ⟨interrupted, -⟩
          · rw [if_pos (met.mpr ⟨turn, present, isRunning⟩)]
          · split_ifs
            · rfl
            · exact interrupted
    · rw [answerAt_cut, target]
      rcases running between.2 with isRunning | ⟨-, already⟩
      · rw [if_pos (met.mpr ⟨turn, present, isRunning⟩)] at shown
        exact shown
      · have cutOff : answerAt log progress = .cutOff := by
          rcases progress with ⟨received, cut⟩
          dsimp only at already
          rw [already]
          exact answerAt_cut log received
        rw [cutOff, ite_self] at shown
        exact shown
  · have next : progress.next log.events.length (.lost now) = progress := by
      rw [Progress.next, if_neg between]
    have unmet : log.requestId ∉ runningIds client.state := by
      rw [met]
      rintro ⟨turn, present, running⟩
      have positive : 0 < progress.received := by
        by_contra zero
        rw [follows.turns.unstarted (by omega)] at present
        cases present
      rcases follows.turns.started positive with ⟨found, same, -, -, -, stopped⟩
      rw [present] at same
      cases same
      have bounded := follows.received
      rw [stopped (by omega)] at running
      cases running
    have same : ∀ key, (interruptRunningTurns now client.state).turns.get?
        key = (client.state.turns.get? key).map fun turn =>
          if key ∈ runningIds client.state then
            { turn with status := .interrupted, finishedAt := some now }
          else turn := interruptRunningTurns_get? now client.state
    have own := same log.requestId
    simp only [if_neg unmet, Option.map_id_fun', id_eq] at own
    rw [next]
    refine ⟨follows.received, follows.cut, ?_, answerable, follows.behind, ?_⟩
    · refine ⟨?_, ?_, ?_⟩
      · intro key other present ne
        rw [target, same, Option.map_eq_some_iff] at present
        rcases present with ⟨earlier, was, rfl⟩
        have kept := follows.turns.others key earlier was ne
        split_ifs <;> exact kept
      · intro zero
        rw [target, own]
        exact follows.turns.unstarted zero
      · intro positive
        rw [target, own]
        exact follows.turns.started positive
    · rw [if_neg unmet] at shown
      exact shown

/-! ## The next event -/

theorem EventType.endsTurn_of_quiet (quiet : type.isQuiet = true) :
    type.endsTurn = false := by
  cases type <;> first | rfl | cases quiet

namespace AnswerLog

variable {log : AnswerLog}

variable {index : Nat} {event : TaskEvent}

theorem endsTurn_getElem? (present : log.events[index]? = some event) :
    (index + 1 < log.events.length ∧ event.type.endsTurn = false) ∨
      (index + 1 = log.events.length ∧ event.type.endsTurn = true) := by
  have whole : log.events =
      (log.before ++ log.answer :: log.after) ++ [log.ending] := by
    simp [events]
  have inner : ∀ event ∈ log.before ++ log.answer :: log.after,
      event.type.endsTurn = false := by
    intro event member
    rcases List.mem_append.mp member with early | late
    · rcases log.progress event early with delta | quiet
      · rw [delta]
        rfl
      · exact EventType.endsTurn_of_quiet quiet
    · rcases List.mem_cons.mp late with rfl | quiet
      · rcases log.answers with completed | error
        · rw [completed]
          rfl
        · rw [error]
          rfl
      · exact EventType.endsTurn_of_quiet (log.quiet event quiet)
  rw [whole, List.length_append, List.length_singleton]
  rw [whole] at present
  rcases Nat.lt_trichotomy index
    (log.before ++ log.answer :: log.after).length with less | same | more
  · rw [List.getElem?_append_left less] at present
    exact .inl ⟨by omega, inner event (List.mem_of_getElem? present)⟩
  · subst same
    rw [List.getElem?_concat_length] at present
    cases present
    exact .inr ⟨rfl, log.ends⟩
  · have inside := (List.getElem?_eq_some_iff.mp present).1
    rw [List.length_append, List.length_singleton] at inside
    omega

theorem type_ne_snapshot (member : event ∈ log.events) :
    event.type ≠ .sessionSnapshot := by
  intro snapshot
  rcases List.mem_append.mp member with early | late
  · rcases log.progress event early with delta | quiet
    · rw [snapshot] at delta
      cases delta
    · rw [snapshot] at quiet
      cases quiet
  · rcases List.mem_cons.mp late with rfl | rest
    · rcases log.answers with completed | error
      · rw [snapshot] at completed
        cases completed
      · rw [snapshot] at error
        cases error
    · rcases List.mem_append.mp rest with quiet | last
      · have isQuiet := log.quiet event quiet
        rw [snapshot] at isQuiet
        cases isQuiet
      · have ends := log.ends
        rw [← List.mem_singleton.mp last, snapshot] at ends
        cases ends

theorem split_at (present : log.events[index]? = some event) : log.events =
      log.events.take index ++ event :: log.events.drop (index + 1) := by
  rcases List.getElem?_eq_some_iff.mp present with ⟨inside, same⟩
  rw [← same, ← List.drop_eq_getElem_cons inside, List.take_append_drop]

theorem numbers_at (present : log.events[index]? = some event) :
    (∀ earlier ∈ log.events.take index, eventNumber earlier < eventNumber event) ∧
    ∀ later ∈ log.events.drop (index + 1),
      eventNumber event < eventNumber later := by
  have increasing : log.events.Pairwise fun earlier later =>
    eventNumber earlier < eventNumber later := log.increasing
  rw [split_at present, List.pairwise_append, List.pairwise_cons] at increasing
  exact ⟨fun earlier member =>
    increasing.2.2 earlier member event List.mem_cons_self,
    increasing.2.1.1⟩

theorem behind_at (present : log.events[index]? = some event)
    {client : SessionClient} (cursor : client.lastEventId = eventNumber event) :
    log.behind client = log.events.drop (index + 1) := by
  rcases numbers_at present with ⟨smaller, larger⟩
  rw [behind, cursor]
  conv => lhs; rw [split_at present]
  rw [List.filter_append, List.filter_cons_of_neg (by simp),
    List.filter_eq_nil_iff.mpr, List.nil_append, List.filter_eq_self]
  · intro later member
    exact decide_eq_true (larger later member)
  · intro earlier member
    have less := smaller earlier member
    simp only [decide_eq_true_eq]
    omega

end AnswerLog

theorem eventStatus_running {status : TurnStatus} (stays : type.endsTurn = false)
    (running : isTurnRunning status = true ∨ status = .interrupted) :
    isTurnRunning (eventStatus type status) = true := by
  have other : isTurnRunning
      (if status = .interrupted then .running else status) = true := by
    split_ifs with interrupted
    · rfl
    · exact running.resolve_right interrupted
  cases type <;> first | rfl | exact other | cases stays

theorem eventStatus_ended (status : TurnStatus) (ends : type.endsTurn = true) :
    isTurnRunning (eventStatus type status) = false := by
  cases type <;> first | rfl | cases ends

theorem applyTaskEvent_fresh (now : String) (state : SessionState)
    (noSnapshot : event.type ≠ .sessionSnapshot)
    (named : event.requestId ≠ "")
    (fresh : isDuplicateEvent (state.turns.get? event.requestId) event = false) :
    (applyTaskEvent now state event).messages = applyResponse now state.messages event ∧
      (applyTaskEvent now state event).turns = state.turns.insert event.requestId
          (appendTurnEvent now (state.turns.get? event.requestId) event) := by
  rw [applyTaskEvent, if_neg noSnapshot, if_neg named, fresh]
  simp only [Bool.false_eq_true, if_false]
  split_ifs <;> exact ⟨rfl, rfl⟩

theorem ShownAnswer.receiveAll_append_singleton (answer : ShownAnswer)
    (events : List TaskEvent) (event : TaskEvent) :
    answer.receiveAll (events ++ [event]) = (answer.receiveAll events).receive event := by
  simp only [receiveAll, List.foldl_append, List.foldl_cons, List.foldl_nil]

theorem answerAt_succ (present : log.events[progress.received]? = some event)
    (cut : ∀ cut, progress.cut = some cut → cut ≤ progress.received) :
    answerAt log ⟨progress.received + 1, progress.cut⟩ = (answerAt log progress).receive event := by
  have taken : log.events.take (progress.received + 1) =
      log.events.take progress.received ++ [event] := by
    rw [List.take_add_one, present]
    rfl
  rw [answerAt, answerAt]
  dsimp only
  cases position : progress.cut with
  | none =>
    dsimp only
    rw [taken, ShownAnswer.receiveAll_append_singleton]
  | some found =>
    dsimp only
    have inside := (List.getElem?_eq_some_iff.mp present).1
    have short : found ≤ (log.events.take progress.received).length := by
      rw [List.length_take]
      have bounded := cut found position
      omega
    rw [taken, List.drop_append_of_le_length short, ShownAnswer.receiveAll_append_singleton]

theorem Follows.next (follows : Follows log client progress)
    (first : (log.behind client).head? = some event) :
    log.events[progress.received]? = some event := by
  rw [follows.behind, List.head?_drop] at first
  exact first

theorem Follows.receive (follows : Follows log client progress)
    (present : log.events[progress.received]? = some event) (now : String) :
    Follows log (client.receive now event) (progress.next log.events.length (.received now)) := by
  have inside := (List.getElem?_eq_some_iff.mp present).1
  have member := List.mem_of_getElem? present
  have own := (log.own event member).1
  have numbers := AnswerLog.numbers_at present
  -- The turn knows the numbers of the earlier events only.
  have fresh : isDuplicateEvent
      (client.state.turns.get? event.requestId) event = false := by
    rw [own, isDuplicateEvent]
    by_cases zero : progress.received = 0
    · rw [follows.turns.unstarted zero]
      simp
    · rcases follows.turns.started (by omega) with
        ⟨turn, inTurns, -, events, -⟩
      rw [inTurns, Option.any_some, Bool.and_eq_false_iff]
      right
      rw [List.any_eq_false, events]
      intro earlier before same
      have less := numbers.1 earlier before
      rw [beq_iff_eq] at same
      rw [eventNumber, eventNumber, same] at less
      exact Nat.lt_irrefl _ less
  rcases applyTaskEvent_fresh now client.state
    (AnswerLog.type_ne_snapshot member) (own.symm ▸ log.named) fresh with
    ⟨messages, turns⟩
  rw [own] at turns
  have target : (client.receive now event).state =
      applyTaskEvent now client.state event := rfl
  constructor
  · exact inside
  · intro cut found
    rcases follows.cut cut found with ⟨positive, bounded, less⟩
    exact ⟨positive, Nat.le_succ_of_le bounded, less⟩
  · rw [target, turns]
    refine ⟨?_, fun zero => absurd zero (Nat.succ_ne_zero _), fun _ => ?_⟩
    · intro key turn found ne
      rw [Dict.get?_insert_of_ne _ _ ne] at found
      exact follows.turns.others key turn found ne
    · refine ⟨_, Dict.get?_insert_self _ _ _, own, ?_, ?_, ?_⟩
      · have taken : log.events.take (progress.received + 1) =
            log.events.take progress.received ++ [event] := by
          rw [List.take_add_one, present]
          rfl
        simp only [Progress.next, taken, appendTurnEvent]
        congr 1
        by_cases zero : progress.received = 0
        · rw [follows.turns.unstarted zero, zero]
          rfl
        · rcases follows.turns.started (by omega) with
            ⟨turn, inTurns, -, events, -⟩
          rw [inTurns]
          exact events
      · intro more
        left
        rcases AnswerLog.endsTurn_getElem? present with ⟨-, stays⟩ | ⟨last, -⟩
        · apply eventStatus_running stays
          by_cases zero : progress.received = 0
          · rw [follows.turns.unstarted zero]
            exact .inl rfl
          · rcases follows.turns.started (by omega) with
              ⟨turn, inTurns, -, -, running, -⟩
            rw [inTurns]
            rcases running inside with isRunning | ⟨interrupted, -⟩
            · exact .inl isRunning
            · exact .inr interrupted
        · exact absurd more (by simp only [Progress.next]; omega)
      · intro done
        rcases AnswerLog.endsTurn_getElem? present with ⟨more, -⟩ | ⟨-, ends⟩
        · exact absurd done (by simp only [Progress.next]; omega)
        · exact eventStatus_ended _ ends
  · rw [target, messages]
    exact follows.answerable.applyResponse now event
  · exact AnswerLog.behind_at present rfl
  · rw [target, messages]
    have after := follows.shows_.applyResponse now own
    rw [← answerAt_succ present fun cut found => (follows.cut cut found).2.1] at after
    exact after

theorem follows_run {start : SessionClient}
    (accepted : AcceptedTurn log start) {labels : List ReplayLabel}
    (ran : (replays log).run start labels = some client) :
    Follows log client (progressOf log labels) := by
  induction labels using List.reverseRecOn generalizing client with
  | nil =>
    cases ran
    exact accepted.follows
  | append_singleton labels label induction =>
    rw [Machine.run_append, Option.bind_eq_some_iff] at ran
    rcases ran with ⟨middle, earlier, stepped⟩
    have follows := induction earlier
    simp only [Machine.run, Option.bind_fun_some] at stepped
    rw [progressOf, List.foldl_append, ← progressOf, List.foldl_cons, List.foldl_nil]
    cases label with
    | lost now =>
      cases stepped
      exact follows.lost now
    | received now =>
      rcases Option.map_eq_some_iff.mp stepped with ⟨event, first, rfl⟩
      exact follows.receive (follows.next first) now

theorem follows_undisturbed {start : SessionClient}
    (accepted : AcceptedTurn log start) (now : String) :
    ∃ client : SessionClient, client.state = undisturbed log now start.state ∧
        Follows log client ⟨log.events.length, none⟩ := by
  suffices each : ∀ count ≤ log.events.length, ∃ client : SessionClient,
      client.state = (log.events.take count).foldl (fun state event =>
          applySessionAction now state (.eventReceived event)) start.state ∧
        Follows log client ⟨count, none⟩ by
    have whole := each log.events.length (Nat.le_refl _)
    rwa [List.take_length] at whole
  intro count
  induction count with
  | zero => exact fun _ => ⟨start, rfl, accepted.follows⟩
  | succ count induction =>
    intro bounded
    rcases induction (by omega) with ⟨client, same, follows⟩
    have inside : count < log.events.length := by omega
    have present : log.events[count]? = some log.events[count] :=
      List.getElem?_eq_getElem inside
    refine ⟨client.receive now log.events[count], ?_, follows.receive present now⟩
    rw [List.take_add_one, present, Option.toList_some, List.foldl_append, ← same]
    rfl

/-! ## The answer at the end -/

theorem ShownAnswer.receiveAll_append (answer : ShownAnswer) (front back : List TaskEvent) :
    answer.receiveAll (front ++ back) = (answer.receiveAll front).receiveAll back :=
  List.foldl_append

theorem ShownAnswer.receiveAll_quiet (answer : ShownAnswer)
    {events : List TaskEvent}
    (quiet : ∀ event ∈ events, event.type.isQuiet = true ∨ event.type.endsTurn = true) :
    answer.receiveAll events = answer := by
  induction events with
  | nil => rfl
  | cons event rest induction =>
    rw [List.forall_mem_cons] at quiet
    have same : answer.receive event = answer := by
      rw [receive]
      rcases quiet.1 with isQuiet | ends
      · cases type : event.type <;> first | rfl | (rw [type] at isQuiet; cases isQuiet)
      · cases type : event.type <;> first | rfl | (rw [type] at ends; cases ends)
    rw [receiveAll, List.foldl_cons, same]
    exact induction quiet.2

theorem deltaText_append (front back : List TaskEvent) :
    deltaText (front ++ back) = deltaText front ++ deltaText back := by
  induction front with
  | nil => simp [deltaText]
  | cons event rest induction =>
    simp only [List.cons_append, deltaText, induction]
    split_ifs
    · rw [String.append_assoc]
    · rfl

variable {events : List TaskEvent}

theorem deltaText_of_no_delta (none : hasDelta events = false) :
    deltaText events = "" := by
  induction events with
  | nil => rfl
  | cons event rest induction =>
    rw [hasDelta, List.any_cons, Bool.or_eq_false_iff] at none
    rw [deltaText, if_neg (by simpa using none.1)]
    exact induction none.2

theorem ShownAnswer.receiveAll_shown (progress : ∀ event ∈ events,
      event.type = .responseDelta ∨ event.type.isQuiet = true) (text : String) :
    (ShownAnswer.shown text).receiveAll events =
      .shown (text ++ deltaText events) := by
  induction events generalizing text with
  | nil => simp [receiveAll, deltaText]
  | cons event rest induction =>
    rw [List.forall_mem_cons] at progress
    rw [receiveAll, List.foldl_cons, ← receiveAll]
    by_cases delta : event.type = .responseDelta
    · have received : (ShownAnswer.shown text).receive event =
          .shown (text ++ event.payload.content) := by
        rw [receive, delta]
        rfl
      rw [received, induction progress.2, deltaText, if_pos delta, String.append_assoc]
    · have isQuiet := progress.1.resolve_left delta
      have received : (ShownAnswer.shown text).receive event =
          .shown text := by
        have single := @ShownAnswer.receiveAll_quiet (.shown text)
          [event] (by
            rw [List.forall_mem_singleton]
            exact .inl isQuiet)
        exact single
      rw [received, induction progress.2, deltaText, if_neg delta]

theorem ShownAnswer.receiveAll_empty (progress : ∀ event ∈ events,
      event.type = .responseDelta ∨ event.type.isQuiet = true)
    {answer : ShownAnswer} (empty : answer = .absent ∨ answer = .cutOff) :
    answer.receiveAll events =
      if hasDelta events then .shown (deltaText events) else answer := by
  induction events with
  | nil => rfl
  | cons event rest induction =>
    rw [List.forall_mem_cons] at progress
    rw [receiveAll, List.foldl_cons, ← receiveAll]
    by_cases delta : event.type = .responseDelta
    · have received : answer.receive event =
          .shown event.payload.content := by
        rw [receive, delta]
        rcases empty with rfl | rfl <;> rfl
      rw [received, ShownAnswer.receiveAll_shown progress.2, deltaText,
        if_pos delta, if_pos (by simp [hasDelta, delta])]
    · have isQuiet := progress.1.resolve_left delta
      have received : answer.receive event = answer := by
        have single := @ShownAnswer.receiveAll_quiet answer [event] (by
          rw [List.forall_mem_singleton]
          exact .inl isQuiet)
        exact single
      have others : hasDelta (event :: rest) = hasDelta rest := by
        simp [hasDelta, delta]
      rw [received, induction progress.2, others, deltaText, if_neg delta]

section Content

variable {log : AnswerLog}

theorem receiveAll_rest (answer : ShownAnswer) :
    answer.receiveAll (log.answer :: (log.after ++ [log.ending])) =
      answer.complete (answerText log.answer) := by
  have received : answer.receive log.answer =
      answer.complete (answerText log.answer) := by
    rw [ShownAnswer.receive]
    rcases log.answers with completed | error
    · rw [completed]
    · rw [error]
  rw [ShownAnswer.receiveAll, List.foldl_cons, received,
    ← ShownAnswer.receiveAll, ShownAnswer.receiveAll_quiet]
  intro event member
  rcases List.mem_append.mp member with quiet | last
  · exact .inl (log.quiet event quiet)
  · rw [List.mem_singleton.mp last]
    exact .inr log.ends

theorem content_undisturbed : (ShownAnswer.absent.receiveAll log.events).content =
      if hasDelta log.before = true ∨ answerText log.answer ≠ "" then
        some (fullText log)
      else none := by
  rw [AnswerLog.events, ShownAnswer.receiveAll_append, receiveAll_rest,
    ShownAnswer.receiveAll_empty log.progress (.inl rfl)]
  cases delta : hasDelta log.before with
  | true =>
    simp only [if_true, true_or]
    rfl
  | false =>
    have noText := deltaText_of_no_delta delta
    simp only [Bool.false_eq_true, if_false, false_or,
      ShownAnswer.complete, fullText, noText, ne_eq, not_true_eq_false]
    split_ifs <;> rfl

theorem content_cut {cut : Nat} (early : cut ≤ log.before.length) :
    (ShownAnswer.cutOff.receiveAll (log.events.drop cut)).content =
      some (if deltaText (log.before.drop cut) ≠ "" then
        deltaText (log.before.drop cut)
      else answerText log.answer) := by
  have progress : ∀ event ∈ log.before.drop cut,
      event.type = .responseDelta ∨ event.type.isQuiet = true :=
    fun event member => log.progress event (List.mem_of_mem_drop member)
  rw [AnswerLog.events, List.drop_append_of_le_length early,
    ShownAnswer.receiveAll_append, receiveAll_rest,
    ShownAnswer.receiveAll_empty progress (.inr rfl)]
  cases delta : hasDelta (log.before.drop cut) with
  | true => rfl
  | false =>
    rw [deltaText_of_no_delta delta]
    rfl

theorem content_cut_late {cut : Nat} (late : log.before.length < cut) :
    (ShownAnswer.cutOff.receiveAll (log.events.drop cut)).content =
      some networkFailureText := by
  rw [ShownAnswer.receiveAll_quiet]
  · rfl
  · intro event member
    have split : log.events.drop cut =
        (log.after ++ [log.ending]).drop (cut - log.before.length - 1) := by
      rw [AnswerLog.events, List.drop_append,
        List.drop_eq_nil_of_le (Nat.le_of_lt late), List.nil_append]
      obtain ⟨rest, same⟩ : ∃ rest, cut - log.before.length = rest + 1 :=
        ⟨cut - log.before.length - 1, by omega⟩
      rw [same, List.drop_succ_cons, Nat.add_sub_cancel]
    rw [split] at member
    rcases List.mem_append.mp (List.mem_of_mem_drop member) with quiet | last
    · exact .inl (log.quiet event quiet)
    · rw [List.mem_singleton.mp last]
      exact .inr log.ends

theorem append_eq_right_iff (front back : String) :
    front ++ back = back ↔ front = "" := by
  constructor
  · intro same
    have lists := congrArg String.toList same
    rw [String.toList_append, List.append_left_eq_self] at lists
    exact String.toList_inj.mp lists
  · rintro rfl
    exact String.empty_append

theorem append_eq_empty {front back : String}
    (empty : front ++ back = "") : front = "" ∧ back = "" := by
  have lists := congrArg String.toList empty
  rw [String.toList_append] at lists
  have parts := List.append_eq_nil_iff.mp lists
  exact ⟨String.toList_inj.mp parts.1, String.toList_inj.mp parts.2⟩

theorem cutText_eq_fullText_iff (cut : Nat) :
    (if deltaText (log.before.drop cut) ≠ "" then
        deltaText (log.before.drop cut)
      else answerText log.answer) = fullText log ↔
      deltaText (log.before.take cut) = "" ∨ deltaText (log.before.drop cut) = "" ∧
          answerText log.answer = deltaText (log.before.take cut) := by
  have whole : deltaText log.before =
      deltaText (log.before.take cut) ++ deltaText (log.before.drop cut) := by
    rw [← deltaText_append, List.take_append_drop]
  rw [fullText, whole]
  generalize deltaText (log.before.take cut) = front
  generalize deltaText (log.before.drop cut) = back
  by_cases noBack : back = ""
  · subst noBack
    by_cases noFront : front = ""
    · simp [noFront]
    · simp [noFront]
  · have some_ : front ++ back ≠ "" :=
      fun empty => noBack (append_eq_empty empty).2
    rw [if_pos noBack, if_pos some_, eq_comm, append_eq_right_iff]
    simp [noBack]

end Content

/--
For every log of an accepted turn and every run of the client that consumes
it, with connections lost anywhere: the answer is the one without any
disconnect exactly if the last loss that met the running turn keeps it.
-/
theorem replayed_answer_iff (log : AnswerLog) {start client : SessionClient}
    (accepted : AcceptedTurn log start) {labels : List ReplayLabel}
    (ran : (replays log).run start labels = some client)
    (consumed : log.behind client = []) (now : String) :
    answerContent log.requestId client.state =
        answerContent log.requestId (undisturbed log now start.state) ↔
      KeepsAnswer log (progressOf log labels).cut := by
  have follows := follows_run accepted ran
  have whole : (progressOf log labels).received = log.events.length := by
    have nothing := follows.behind.symm.trans consumed
    rw [List.drop_eq_nil_iff] at nothing
    exact Nat.le_antisymm follows.received nothing
  rcases follows_undisturbed accepted now with ⟨calm, same, calmFollows⟩
  rw [← same, answerContent, answerContent, follows.shows_.content, calmFollows.shows_.content]
  have calmAnswer : answerAt log ⟨log.events.length, none⟩ =
      ShownAnswer.absent.receiveAll log.events := by
    rw [answerAt]
    dsimp only
    rw [List.take_length]
  rw [calmAnswer, content_undisturbed, answerAt, whole, List.take_length]
  cases cut : (progressOf log labels).cut with
  | none =>
    dsimp only
    rw [content_undisturbed]
    simp [KeepsAnswer]
  | some lost =>
    dsimp only
    rw [KeepsAnswer]
    by_cases early : lost ≤ log.before.length
    · rw [content_cut early, if_pos early]
      by_cases present : hasDelta log.before = true ∨ answerText log.answer ≠ ""
      · rw [if_pos present, Option.some.injEq, cutText_eq_fullText_iff]
        exact (and_iff_right present).symm
      · rw [if_neg present]
        simp [present]
    · rw [content_cut_late (Nat.lt_of_not_le early), if_neg early]
      by_cases present : hasDelta log.before = true ∨ answerText log.answer ≠ ""
      · rw [if_pos present, Option.some.injEq, eq_comm]
      · rw [if_neg present]
        have noAnswer : fullText log = "" := by
          rw [not_or, Bool.not_eq_true, not_not] at present
          rw [fullText, deltaText_of_no_delta present.1, present.2]
          exact ite_self _
        rw [noAnswer]
        simp [networkFailureText]

/-! ## An answer that loses its beginning -/

/-- The page of a user who has sent a question that was accepted. -/
def askedPage : SessionClient where
  state := [.messageOptimistic
        { id := "question", kind := .message, content := "现在几点",
          sessionId := some "session-1", createdAt := "2026-07-27" },
      .actionAccepted "question" "session-1" "turn-1"].foldl
        (applySessionAction "2026-07-27") createSessionState
  lastEventId := 0

/-- An event of the turn. -/
def turnEvent (eventId : Nat) (type : EventType) (content : String) : TaskEvent where
  eventId := some eventId
  sessionId := "session-1"
  requestId := "turn-1"
  type
  payload := { content }

/-- Two pieces of an answer and its full text. -/
def spokenAnswer : AnswerLog where
  requestId := "turn-1"
  before := [turnEvent 1 .taskRunning "",
    turnEvent 2 .responseDelta "现在是 ", turnEvent 3 .responseDelta "20:10。"]
  answer := turnEvent 4 .responseCompleted "现在是 20:10。"
  after := []
  ending := turnEvent 5 .taskCompleted ""
  named := by decide
  progress := by decide
  answers := .inl rfl
  quiet := by decide
  ends := rfl
  own := by decide
  increasing := by decide

theorem askedPage_accepted : AcceptedTurn spokenAnswer askedPage where
  noTurn := rfl
  others := fun key turn present => nomatch present
  unanswered := by decide
  answerable := ⟨_, rfl, by decide⟩
  fresh := by decide

/-- A run that loses the connection once, after some events. -/
def lossyRun (received : Nat) : List ReplayLabel :=
  List.replicate received (.received "later") ++ .lost "later" ::
    List.replicate (5 - received) (.received "later")

/-- The page after a run that loses the connection once. -/
def lossyPage (received : Nat) : SessionClient :=
  ((replays spokenAnswer).run askedPage (lossyRun received)).getD askedPage

/-- A loss behind all pieces leaves the answer as it is. -/
theorem replayed_answer_iff_behind :
    answerContent "turn-1" (lossyPage 3).state = answerContent "turn-1"
        (undisturbed spokenAnswer "now" askedPage.state) := by
  have ran : (replays spokenAnswer).run askedPage (lossyRun 3) =
      some (lossyPage 3) := rfl
  have keeps : KeepsAnswer spokenAnswer
      (progressOf spokenAnswer (lossyRun 3)).cut := by decide
  exact (replayed_answer_iff spokenAnswer askedPage_accepted ran rfl "now").mpr keeps

/-- A loss between the pieces takes the beginning of the answer away. -/
theorem replayed_answer_loses_text :
    (replays spokenAnswer).run askedPage (lossyRun 2) = some (lossyPage 2) ∧
      spokenAnswer.behind (lossyPage 2) = [] ∧
      answerContent "turn-1" (lossyPage 2).state = some "20:10。" ∧
      answerContent "turn-1" (undisturbed spokenAnswer "now" askedPage.state) =
        some "现在是 20:10。" := by
  refine ⟨rfl, rfl, ?_, ?_⟩
  · decide
  · decide

end TurningGood.Browser
