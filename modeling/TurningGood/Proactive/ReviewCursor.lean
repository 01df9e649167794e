import TurningGood.Foundation.Dict
import TurningGood.Foundation.Machine
import TurningGood.Proactive.ReviewWindow

/-!
# The cursors of the reviews over whole runs

Breakbeat and Dream read the messages of each session behind a cursor of
their own, review them batch by batch, and move the cursor behind every batch
that succeeded.  A user message carries the time at which it was received but
is stored when its turn ends, so a queued message may be stored behind a
cursor that has passed it in the meantime.

A message is created, and stored in a later step.  The successful reviews and
the moves of the cursors are recorded beside the program's own state.
-/

namespace TurningGood.Proactive

open TurningGood.Foundation

/-! ## Reviewers -/

/-- The two services that review messages. -/
inductive Reviewing where
  | breakbeat
  | dream
  deriving DecidableEq, Repr

/-- The frozen window of one session, and the batches still to be reviewed. -/
structure ActiveReview where
  sessionId : String
  before : Option ReviewCursor
  messages : List ReviewMessage
  selection : ReviewSelection
  remaining : List ReviewBatch
  deriving DecidableEq

/-- A run that holds the lock of its service. -/
structure ReviewRun where
  now : Nat
  current : Option ReviewMessage
  sessions : List String
  active : Option ActiveReview
  deriving DecidableEq

/-- A move of a cursor, with the cursor that its window was selected by. -/
structure CursorMove where
  sessionId : String
  now : Nat
  before : Option ReviewCursor
  previous : Option ReviewCursor
  cursor : ReviewCursor
  deriving DecidableEq

/-- `BreakbeatManager` or `DreamManager`, as far as it reviews. -/
structure Reviewer where
  cursors : Dict String ReviewCursor
  run : Option ReviewRun
  reviewed : List ReviewMessage
  moves : List CursorMove
  deriving DecidableEq

/-- `breakbeat_refresh_minutes`, `dream_refresh_hours` and the token limit. -/
structure ReviewSettings where
  refresh : Reviewing → Nat
  tokenLimit : Nat

/-- The messages ever created, those still to be stored, and those stored. -/
structure ReviewSystem where
  created : List ReviewMessage
  unsaved : List ReviewMessage
  stored : List ReviewMessage
  breakbeat : Reviewer
  dream : Reviewer
  deriving DecidableEq

namespace ReviewSystem

variable (settings : ReviewSettings) (system : ReviewSystem)

def reviewer : Reviewing → Reviewer
  | .breakbeat => system.breakbeat
  | .dream => system.dream

def setReviewer (reviewing : Reviewing) (reviewer : Reviewer) :
    ReviewSystem :=
  match reviewing with
  | .breakbeat => { system with breakbeat := reviewer }
  | .dream => { system with dream := reviewer }

/-- `_messages_for`. -/
def messagesFor (sessionId : String) (current : Option ReviewMessage) :
    List ReviewMessage :=
  let messages :=
    system.stored.filter fun message => message.sessionId = sessionId
  match current with
  | none => messages
  | some current =>
    if current.sessionId = sessionId ∧
        ∀ message ∈ messages, message.id ≠ current.id then
      messages ++ [current]
    else
      messages

end ReviewSystem

namespace Reviewer

variable (reviewer : Reviewer)

/-- `_advance_cursor` of a run, with the messages that were reviewed. -/
def advanceCursor (run : ReviewRun) (active : ActiveReview) (cursor : ReviewCursor)
    (messages : List ReviewMessage) : Reviewer :=
  { reviewer with
    cursors := reviewer.cursors.insert active.sessionId cursor
    reviewed := reviewer.reviewed ++ messages
    moves := reviewer.moves ++ [⟨active.sessionId, run.now, active.before,
          reviewer.cursors.get? active.sessionId, cursor⟩] }

/-- Continue a run with another window, or with none. -/
def withActive (run : ReviewRun) (active : Option ActiveReview) : Reviewer :=
  { reviewer with run := some { run with active := active } }

/-- The run ends. -/
def stop : Reviewer :=
  { reviewer with run := none }

/-- The lock is taken for the sessions that are not archived. -/
def start (now : Nat) (sessions : List String) (current : Option ReviewMessage) : Option Reviewer :=
  if reviewer.run = none then
    some { reviewer with run := some ⟨now, current, sessions, none⟩ }
  else
    none

/-- Freeze the window of the next session; an error ends the run. -/
def select (system : ReviewSystem) (refresh tokenLimit : Nat) :
    Option Reviewer :=
  match reviewer.run with
  | some ⟨now, current, sessionId :: sessions, none⟩ =>
    let messages := system.messagesFor sessionId current
    let cursor := reviewer.cursors.get? sessionId
    match selectReviewWindow messages cursor now refresh tokenLimit with
    | .ok selection =>
      some (reviewer.withActive ⟨now, current, sessions, none⟩
        (some ⟨sessionId, cursor, messages, selection, selection.batches⟩))
    | .error _ => some reviewer.stop
  | _ => none

/-- `_review_selection` without batches moves the cursor and is done. -/
def passEmpty : Option Reviewer :=
  match reviewer.run with
  | some run =>
    match run.active with
    | some active =>
      if active.selection.batches = [] then
        match active.selection.advanceCursor with
        | none => some (reviewer.withActive run none)
        | some cursor =>
          some ((reviewer.advanceCursor run active cursor []).withActive run none)
      else
        none
    | none => none
  | none => none

/-- The window without its first batch, unless it was the last one. -/
def nextBatches (active : ActiveReview) (rest : List ReviewBatch) :
    Option ActiveReview :=
  if rest = [] then none else some { active with remaining := rest }

/-- A batch was reviewed and the cursor moves behind it. -/
def batchReviewed : Option Reviewer :=
  match reviewer.run with
  | some run =>
    match run.active with
    | some active =>
      match active.remaining with
      | batch :: rest =>
        some ((reviewer.advanceCursor run active batch.cursor
          batch.messages).withActive run (nextBatches active rest))
      | [] => none
    | none => none
  | none => none

/-- A batch failed, and the rest of its session is left. -/
def batchFailed : Option Reviewer :=
  match reviewer.run with
  | some run =>
    match run.active with
    | some active =>
      if active.remaining = [] then
        none
      else
        some (reviewer.withActive run none)
    | none => none
  | none => none

end Reviewer

/-- What can happen next; a run stops at its end, by an error or cancelled. -/
inductive ReviewEvent where
  | create (message : ReviewMessage)
  | save (message : ReviewMessage)
  | forget (sessionId : String)
  | restart
  | start
      (reviewing : Reviewing) (now : Nat) (sessions : List String)
      (current : Option ReviewMessage)
  | select (reviewing : Reviewing)
  | passEmpty (reviewing : Reviewing)
  | batchReviewed (reviewing : Reviewing)
  | batchFailed (reviewing : Reviewing)
  | stop (reviewing : Reviewing)
  deriving DecidableEq, Repr

namespace ReviewSystem

variable (settings : ReviewSettings) (system : ReviewSystem)

/-- One service takes a step of its own. -/
def onReviewer (reviewing : Reviewing)
    (action : Reviewer → Option Reviewer) : Option ReviewSystem :=
  (action (system.reviewer reviewing)).map (system.setReviewer reviewing)

def step : ReviewEvent → Option ReviewSystem
  | .create message =>
    some { system with
      created := message :: system.created
      unsaved := message :: system.unsaved }
  | .save message =>
    if message ∈ system.unsaved then
      some { system with
        unsaved := system.unsaved.erase message
        stored := system.stored ++ [message] }
    else
      none
  | .forget sessionId =>
    some { system with
      stored := system.stored.filter fun message =>
          message.sessionId ≠ sessionId }
  | .restart =>
    some { system with
      unsaved := []
      breakbeat := system.breakbeat.stop
      dream := system.dream.stop }
  | .start reviewing now sessions current =>
    if ∀ message ∈ current, message ∈ system.unsaved then
      system.onReviewer reviewing fun reviewer =>
        reviewer.start now sessions current
    else
      none
  | .select reviewing =>
    system.onReviewer reviewing fun reviewer =>
      reviewer.select system (settings.refresh reviewing) settings.tokenLimit
  | .passEmpty reviewing => system.onReviewer reviewing Reviewer.passEmpty
  | .batchReviewed reviewing =>
    system.onReviewer reviewing Reviewer.batchReviewed
  | .batchFailed reviewing =>
    system.onReviewer reviewing Reviewer.batchFailed
  | .stop reviewing =>
    system.onReviewer reviewing fun reviewer => some reviewer.stop

end ReviewSystem

/-- A reviewer without cursors. -/
def Reviewer.fresh : Reviewer where
  cursors := Dict.empty
  run := none
  reviewed := []
  moves := []

/-- The runs of both services from empty stores. -/
def reviewMachine (settings : ReviewSettings) : Machine ReviewSystem ReviewEvent where
  initial system := system = ⟨[], [], [], .fresh, .fresh⟩
  step := ReviewSystem.step settings

end TurningGood.Proactive
