import TurningGood.Proactive.ReviewIsolation
import TurningGood.Proactive.ReviewState

/-!
# What the reviewers write

A reviewer writes its snapshot when its schedule is initialized or deferred,
when an item is completed or deleted, and at many points of a run: behind
every model call, for new items, for every move of a cursor, and at the end.
A run works on the state that it loaded when it took the lock.  Any write may
fail, and a run may be cancelled wherever it waits.

The cursors take the ids of the messages as they are, and new items take the
id of the session.  The reader accepts only short texts, so the next load
returns what was written as long as these ids are such texts.
-/

namespace TurningGood.Proactive

open TurningGood.Foundation

/-! ## Runs in progress -/

/-- A run that holds the lock, with the state that it changes. -/
structure SavingRun where
  state : ReviewState
  now : Nat
  current : Option ReviewMessage
  /-- the sessions still to be reviewed, without the archived ones -/
  sessions : List String
  active : Option (String × List ReviewBatch)
  /-- an exception has left the loop -/
  failed : Bool

/-- A reviewer, its file, and every state that it has written. -/
structure SavingReviewer where
  file : Option SnapshotFile
  /-- `_next_run_at` of Breakbeat -/
  nextRunAt : Option Nat
  run : Option SavingRun
  written : List ReviewState

/-- An action of the model's answer; `none` stands for no text. -/
structure ReviewAction where
  todo : Option String
  deadline : Option (Option String)
  /-- the drawn id and the moment of the new item -/
  draw : Nat
  moment : Nat

/-- What the executor returns for a batch. -/
inductive BatchAnswer where
  /-- the call fails, or its answer cannot be parsed -/
  | failed (usage : LLMUsage)
  | reviewed (usage : LLMUsage) (actions : List ReviewAction)

/-- The actions of an answer. -/
def BatchAnswer.actions : BatchAnswer → List ReviewAction
  | .failed _ => []
  | .reviewed _ actions => actions

/-- A step of a reviewer; `writes` says how many writes of it succeed. -/
inductive SaveLabel where
  | readDeadline
  | initializeSchedule (now writes : Nat)
  | defer (now writes : Nat)
  | deleteItem (id : String) (writes : Nat)
  | completeItem (id : String) (moment writes : Nat)
  | start (sessions : List String) (current : Option ReviewMessage)
      (now finishedAt : Nat)
  | select (messages : List ReviewMessage) (writes : Nat)
  | batch (answer : BatchAnswer) (writes : Nat)
  /-- the loop has ended, or an exception has left it -/
  | finish (finishedAt writes : Nat)
  | cancel

/-- `_bounded_text`, for a value that need not be a text. -/
def boundedValue (value : Option String) (label : String) (maximum : Nat) :
    Except String String :=
  match value with
  | none => .error (label ++ " 无效")
  | some text => boundedText text label maximum

/-- `_deadline`, for a value that need not be a text. -/
def deadlineValue (value : Option (Option String)) :
    Except String (Option String) :=
  match value with
  | none => .error "deadline 无效"
  | some value => deadline value

/-- The loop of `_apply_actions`: the items, and how many are new. -/
def applyActions (texts : ReviewTexts) (sessionId : String) :
    List ReviewAction → List BreakbeatItem → Nat → Except String (List BreakbeatItem × Nat)
  | [], items, created => .ok (items, created)
  | action :: rest, items, created =>
    (boundedValue action.todo "todo" 1000).bind fun todo =>
      if texts.todoKey todo ∈
          (items.filter (·.status = "in_progress")).map fun item => texts.todoKey item.todo then
        applyActions texts sessionId rest items created
      else
        (deadlineValue action.deadline).bind fun deadline =>
          let item : BreakbeatItem :=
            { id := texts.newId action.draw
              todo
              deadline
              sourceSessionId := sessionId
              status := "in_progress"
              createdAt := texts.isoText action.moment
              updatedAt := texts.isoText action.moment }
          applyActions texts sessionId rest (items ++ [item]) (created + 1)

/-- `_item_by_id`. -/
def itemById (items : List BreakbeatItem) (id : String) :
    Option BreakbeatItem :=
  items.find? (·.id = id)

/-- `_messages_for`, for the messages that were read. -/
def messagesWith (messages : List ReviewMessage) (sessionId : String)
    (current : Option ReviewMessage) : List ReviewMessage :=
  match current with
  | none => messages
  | some current =>
    if current.sessionId = sessionId ∧
        ∀ message ∈ messages, message.id ≠ current.id then
      messages ++ [current]
    else
      messages

/--
The window from a stored cursor.  A time that cannot be read raises unless
nothing lies behind the message of the cursor.
-/
def selectStored (texts : ReviewTexts) (limits : ReviewLimits)
    (messages : List ReviewMessage) (cursor : Option StoredCursor)
    (now : Nat) : Except String ReviewSelection :=
  match cursor with
  | none =>
    selectReviewWindow messages none now limits.refresh limits.tokenLimit
  | some cursor =>
    match texts.readTime cursor.createdAt with
    | some (moment, _) =>
      selectReviewWindow messages (some ⟨cursor.messageId, moment⟩) now
        limits.refresh limits.tokenLimit
    | none =>
      if ∀ newest ∈ (reviewSource messages now).getLast?,
          newest.id = cursor.messageId then
        .ok ⟨[], some ⟨cursor.messageId, 0⟩, false⟩
      else
        .error "Invalid isoformat string"

/-- The stored cursor behind a message. -/
def storedCursor (texts : ReviewTexts) (cursor : ReviewCursor) : StoredCursor where
  messageId := cursor.messageId
  createdAt := texts.isoText cursor.createdAt

/-- The cursor that a window without batches moves to. -/
def passedCursor (texts : ReviewTexts) (before : Option StoredCursor)
    (selection : ReviewSelection) : Option StoredCursor :=
  match selection.advanceCursor with
  | none => none
  | some cursor =>
    if before.map (·.messageId) = some cursor.messageId then
      before
    else
      some (storedCursor texts cursor)

namespace SavingReviewer

/-! ## Writes -/

/-- Write states, one after another. -/
def write (service : SavingReviewer) (states : List ReviewState) :
    SavingReviewer :=
  { service with
    file := (states.getLast?.map saveState).or service.file
    written := service.written ++ states }

/--
A step of a run that writes states and then goes on.  A write that fails
leaves the loop with the state that it could not write.
-/
def persist (service : SavingReviewer) (run next : SavingRun)
    (states : List ReviewState) (writes : Nat) : SavingReviewer :=
  let saved := service.write (states.take writes)
  match states[writes]? with
  | none => { saved with run := some next }
  | some unwritten =>
    { saved with
      run := some { run with state := unwritten, failed := true } }

/-- The state with its next run, `refresh` behind a moment. -/
def scheduled (texts : ReviewTexts) (limits : ReviewLimits)
    (state : ReviewState) (moment : Nat) : ReviewState :=
  { state with nextRunAt := some (texts.isoText (moment + limits.refresh)) }

/-- `next_run_at`. -/
def deadline? (texts : ReviewTexts) (reviewing : Reviewing)
    (service : SavingReviewer) : Except String (Option Nat) :=
  match reviewing, service.nextRunAt with
  | .breakbeat, some moment => .ok (some moment)
  | _, _ =>
    (loadState texts reviewing service.file).map fun state =>
      match state.nextRunAt.bind texts.readTime with
      | some (moment, true) => some moment
      | _ => none

/-- What Breakbeat remembers of a deadline. -/
def remember (reviewing : Reviewing) (service : SavingReviewer)
    (deadline : Option Nat) : SavingReviewer :=
  match reviewing with
  | .breakbeat => { service with nextRunAt := deadline.or service.nextRunAt }
  | .dream => service

/-- Load the state, change it, and write it; an error changes nothing. -/
def edit (texts : ReviewTexts) (reviewing : Reviewing) (service : SavingReviewer) (writes : Nat)
    (change : ReviewState → Option ReviewState) : SavingReviewer :=
  match loadState texts reviewing service.file with
  | .error _ => service
  | .ok state => service.write (((change state).toList).take writes)

/-- `initialize_schedule`; it does not take the lock. -/
def initializeSchedule (texts : ReviewTexts) (reviewing : Reviewing)
    (limits : ReviewLimits) (service : SavingReviewer) (now writes : Nat) :
    SavingReviewer :=
  match service.deadline? texts reviewing with
  | .error _ => service
  | .ok deadline =>
    let read := service.remember reviewing deadline
    if ∃ moment ∈ deadline, now < moment then
      read
    else
      read.edit texts reviewing writes fun state =>
        some (scheduled texts limits state now)

/-- The changed items of `complete_item`. -/
def completed (texts : ReviewTexts) (state : ReviewState) (id : String)
    (moment : Nat) : Option ReviewState :=
  match itemById state.items id with
  | none => none
  | some item =>
    if item.status = "completed" then
      none
    else
      let completed :=
        { item with
          status := "completed", updatedAt := texts.isoText moment }
      some { state with
        items := state.items.map fun candidate =>
          if candidate.id = item.id then completed else candidate }

/-- The changed items of `delete_item`. -/
def deleted (state : ReviewState) (id : String) : Option ReviewState :=
  (itemById state.items id).map fun item =>
    { state with
      items := state.items.filter fun candidate => candidate.id ≠ item.id }

/-! ## The steps of a run -/

/-- The run takes the lock and loads the state. -/
def start (texts : ReviewTexts) (reviewing : Reviewing)
    (limits : ReviewLimits) (service : SavingReviewer)
    (sessions : List String) (current : Option ReviewMessage)
    (now finishedAt : Nat) : SavingReviewer :=
  match loadState texts reviewing service.file with
  | .error _ =>
    service.remember reviewing (some (finishedAt + limits.refresh))
  | .ok state =>
    { service with run := some ⟨state, now, current, sessions, none, false⟩ }

/-- The window of the next session is selected. -/
def select (texts : ReviewTexts) (limits : ReviewLimits)
    (service : SavingReviewer) (run : SavingRun) (sessionId : String)
    (sessions : List String) (messages : List ReviewMessage)
    (writes : Nat) : SavingReviewer :=
  let before := run.state.cursors.get? sessionId
  match selectStored texts limits
      (messagesWith messages sessionId run.current) before run.now with
  | .error _ => { service with run := some { run with failed := true } }
  | .ok selection =>
    let next := { run with sessions }
    if selection.batches = [] then
      match passedCursor texts before selection with
      | none => { service with run := some next }
      | some cursor =>
        let moved :=
          { run.state with
            cursors := run.state.cursors.insert sessionId cursor }
        service.persist run { next with state := moved } [moved] writes
    else
      { service with
        run := some { next with
          active := some (sessionId, selection.batches) } }

/-- The states that a batch writes, and whether its session goes on. -/
def batchStates (texts : ReviewTexts) (reviewing : Reviewing)
    (state : ReviewState) (sessionId : String) (batch : ReviewBatch) :
    BatchAnswer → List ReviewState × Bool
  | .failed usage =>
    ([{ state with usage := state.usage.add usage }], false)
  | .reviewed usage actions =>
    let used := { state with usage := state.usage.add usage }
    let move (before : ReviewState) : ReviewState :=
      { before with
        cursors := before.cursors.insert sessionId (storedCursor texts batch.cursor) }
    match reviewing with
    | .dream => ([used, move used], true)
    | .breakbeat =>
      match applyActions texts sessionId actions state.items 0 with
      | .error _ => ([used], false)
      | .ok (items, created) =>
        if created = 0 then
          ([used, move used], true)
        else
          let added := { used with items }
          ([used, added, move added], true)

/-- The batches that are left of a session, unless it is done. -/
def remaining (goesOn : Bool) (sessionId : String)
    (rest : List ReviewBatch) : Option (String × List ReviewBatch) :=
  if goesOn ∧ rest ≠ [] then some (sessionId, rest) else none

/-- A batch is reviewed, or ends the review of its session. -/
def reviewBatch (texts : ReviewTexts) (reviewing : Reviewing)
    (service : SavingReviewer) (run : SavingRun) (sessionId : String)
    (batch : ReviewBatch) (rest : List ReviewBatch) (answer : BatchAnswer)
    (writes : Nat) : SavingReviewer :=
  let (states, goesOn) :=
    batchStates texts reviewing run.state sessionId batch answer
  let next :=
    { run with
      state := states.getLast?.getD run.state
      active := remaining goesOn sessionId rest }
  service.persist run next states writes

/-- The end of a run; Dream writes only what did not fail. -/
def finish (texts : ReviewTexts) (reviewing : Reviewing)
    (limits : ReviewLimits) (service : SavingReviewer) (run : SavingRun)
    (finishedAt writes : Nat) : SavingReviewer :=
  let ended := { service with run := none }
  if run.failed ∧ reviewing = .dream then
    ended
  else
    (ended.remember reviewing (some (finishedAt + limits.refresh))).write
      ([scheduled texts limits run.state finishedAt].take writes)

/-- One step. -/
def step (texts : ReviewTexts) (reviewing : Reviewing)
    (limits : ReviewLimits) (service : SavingReviewer) :
    SaveLabel → Option SavingReviewer
  | .readDeadline =>
    match service.deadline? texts reviewing with
    | .error _ => some service
    | .ok deadline => some (service.remember reviewing deadline)
  | .initializeSchedule now writes =>
    if now + limits.refresh < texts.limit then
      some (service.initializeSchedule texts reviewing limits now writes)
    else
      none
  | .defer now writes =>
    if service.run.isNone ∧ reviewing = .dream ∧
        now + limits.refresh < texts.limit then
      some (service.edit texts reviewing writes fun state =>
        some (scheduled texts limits state now))
    else
      none
  | .deleteItem id writes =>
    if service.run.isNone ∧ reviewing = .breakbeat then
      some (service.edit texts reviewing writes fun state =>
        deleted state id)
    else
      none
  | .completeItem id moment writes =>
    if service.run.isNone ∧ reviewing = .breakbeat ∧
        moment < texts.limit then
      some (service.edit texts reviewing writes fun state =>
        completed texts state id moment)
    else
      none
  | .start sessions current now finishedAt =>
    if service.run.isNone ∧ finishedAt + limits.refresh < texts.limit then
      some (service.start texts reviewing limits sessions current now finishedAt)
    else
      none
  | .select messages writes =>
    match service.run with
    | some ⟨state, now, current, sessionId :: sessions, none, false⟩ =>
      if ∀ message ∈ messagesWith messages sessionId current,
          message.createdAt < texts.limit then
        some (service.select texts limits ⟨state, now, current, sessionId :: sessions, none, false⟩
          sessionId sessions messages writes)
      else
        none
    | _ => none
  | .batch answer writes =>
    match service.run with
    | some ⟨state, now, current, sessions,
        some (sessionId, batch :: rest), false⟩ =>
        if ∀ action ∈ answer.actions, action.moment < texts.limit then
          some (service.reviewBatch texts reviewing ⟨state, now, current, sessions,
              some (sessionId, batch :: rest), false⟩
            sessionId batch rest answer writes)
        else
          none
    | _ => none
  | .finish finishedAt writes =>
    match service.run with
    | some run =>
      if (run.failed ∨ run.sessions = [] ∧ run.active = none) ∧
          finishedAt + limits.refresh < texts.limit then
        some (service.finish texts reviewing limits run finishedAt writes)
      else
        none
    | none => none
  | .cancel =>
    if service.run.isSome then some { service with run := none } else none

end SavingReviewer

/-- The operations of a reviewer, above any file. -/
def reviewSaves (texts : ReviewTexts) (reviewing : Reviewing)
    (limits : ReviewLimits) : Machine SavingReviewer SaveLabel where
  initial service := service.nextRunAt = none ∧ service.run = none ∧ service.written = []
  step := SavingReviewer.step texts reviewing limits

/-! ## Readable states -/

section Readable

variable
    {texts : ReviewTexts}
    {limits : ReviewLimits}

theorem selectReviewWindow_from
    {messages : List ReviewMessage} {cursor : Option ReviewCursor}
    {now refresh tokenLimit : Nat} {selection : ReviewSelection}
    (selected : selectReviewWindow messages cursor now refresh tokenLimit = .ok selection) :
    (∀ batch ∈ selection.batches, ∀ message ∈ batch.messages, message ∈ messages) ∧
      ∀ next ∈ selection.advanceCursor, some next = cursor ∨
        ∃ message ∈ messages, next = message.cursorFor := by
  have read {record : ReviewMessage} (member : record ∈
      reviewSource messages now) : record ∈ messages :=
    (mem_reviewSource_iff.mp member).1
  simp only [selectReviewWindow] at selected
  split at selected
  · contradiction
  split at selected
  · contradiction
  split at selected
  · cases selected
    exact ⟨(by rintro _ ⟨⟩), fun next same => .inl same.symm⟩
  · next newest last =>
      have newestRead := read (List.mem_of_getLast? last)
      split at selected
      · cases selected
        exact ⟨(by rintro _ ⟨⟩), fun next same => .inl same.symm⟩
      split at selected
      · cases selected
        refine ⟨(by rintro _ ⟨⟩), fun next same => .inr ⟨newest, newestRead, ?_⟩⟩
        exact (Option.some.inj same).symm
      · next lastSelected taken =>
          have lastRead :=
            read (List.mem_of_mem_drop (List.mem_of_getLast? taken))
          cases packed : batches ((reviewSource messages now).drop
                  (selectedStart (reviewSource messages now) cursor now refresh)) tokenLimit with
          | error text =>
            rw [packed] at selected
            cases selected
          | ok result =>
            rw [packed] at selected
            cases selected
            constructor
            · intro batch member message inside
              have whole := (batches_eq_ok packed).1
              have flat := List.mem_flatMap.mpr ⟨batch, member, inside⟩
              rw [whole] at flat
              exact read (List.mem_of_mem_drop flat)
            · intro next same
              cases same
              split
              · exact .inr ⟨newest, newestRead, rfl⟩
              · exact .inr ⟨lastSelected, lastRead, rfl⟩

theorem selectStored_from
    {messages : List ReviewMessage} {cursor : Option StoredCursor}
    {now : Nat} {selection : ReviewSelection}
    (selected : selectStored texts limits messages cursor now = .ok selection) :
    (∀ batch ∈ selection.batches, ∀ message ∈ batch.messages, message ∈ messages) ∧
      ∀ next ∈ selection.advanceCursor, cursor.map (·.messageId) = some next.messageId ∨
          ∃ message ∈ messages, next = message.cursorFor := by
  cases cursor with
  | none =>
    rcases selectReviewWindow_from selected with ⟨taken, advanced⟩
    refine ⟨taken, fun next same => .inr ?_⟩
    rcases advanced next same with kept | moved
    · contradiction
    · exact moved
  | some cursor =>
    simp only [selectStored] at selected
    split at selected
    · rcases selectReviewWindow_from selected with ⟨taken, advanced⟩
      refine ⟨taken, fun next same => ?_⟩
      rcases advanced next same with kept | moved
      · cases kept
        exact .inl rfl
      · exact .inr moved
    · split at selected
      · cases selected
        refine ⟨nofun, fun next same => .inl ?_⟩
        cases same
        rfl
      · contradiction

theorem storedCursor_readable {cursor : ReviewCursor} (short : ShortText 200 cursor.messageId)
    (inside : cursor.createdAt < texts.limit) :
    (storedCursor texts cursor).Readable :=
  ⟨short, texts.isoText_short cursor.createdAt inside⟩

namespace ReviewState.Readable

variable {state : ReviewState}

theorem used (readable : state.Readable texts) (usage : LLMUsage) :
    ({ state with usage := state.usage.add usage } :
      ReviewState).Readable texts :=
  ⟨readable.items, readable.cursors, readable.nextRunAt⟩

theorem moved (readable : state.Readable texts) (sessionId : String)
    {cursor : StoredCursor} (read : cursor.Readable) :
    ({ state with cursors := state.cursors.insert sessionId cursor } :
      ReviewState).Readable texts := by
  refine ⟨readable.items, ?_, readable.nextRunAt⟩
  intro other member
  rcases (Dict.mem_values_iff _ _).mp member with ⟨key, found⟩
  rw [Dict.get?_insert] at found
  split at found
  · cases found
    exact read
  · exact readable.cursors other ((Dict.mem_values_iff _ _).mpr ⟨key, found⟩)

theorem withItems (readable : state.Readable texts) {items : List BreakbeatItem}
    (read : ∀ item ∈ items, item.Readable) :
    ({ state with items } : ReviewState).Readable texts :=
  ⟨read, readable.cursors, readable.nextRunAt⟩

theorem scheduled (readable : state.Readable texts) {moment : Nat}
    (inside : moment + limits.refresh < texts.limit) :
    (SavingReviewer.scheduled texts limits state moment).Readable texts :=
  ⟨readable.items, readable.cursors, nextRunText_isoText texts inside⟩

theorem deleted (readable : state.Readable texts) {id : String} {after : ReviewState}
    (changed : SavingReviewer.deleted state id = some after) :
    after.Readable texts := by
  rcases Option.map_eq_some_iff.mp changed with ⟨item, _, rfl⟩
  exact readable.withItems fun other member =>
    readable.items other (List.mem_filter.mp member).1

theorem completed (readable : state.Readable texts) {id : String} {moment : Nat}
    (inside : moment < texts.limit) {after : ReviewState}
    (changed : SavingReviewer.completed texts state id moment = some after) :
    after.Readable texts := by
  simp only [SavingReviewer.completed] at changed
  split at changed
  · contradiction
  · next item found =>
      split_ifs at changed
      cases changed
      apply readable.withItems
      intro other member
      rcases List.mem_map.mp member with ⟨candidate, listed, rfl⟩
      have itemRead := readable.items item (List.mem_of_find?_eq_some found)
      split_ifs
      · exact { itemRead with
          status := .inr rfl
          updatedAt := texts.isoText_short moment inside }
      · exact readable.items candidate listed

end ReviewState.Readable

theorem applyActions_items
    {sessionId : String} {actions : List ReviewAction}
    (moments : ∀ action ∈ actions, action.moment < texts.limit)
    {items after : List BreakbeatItem} {created total : Nat}
    (applied : applyActions texts sessionId actions items created = .ok (after, total)) :
    created ≤ total ∧ ∀ item ∈ after, item ∈ items ∨
        created < total ∧ (ShortText 200 sessionId → item.Readable) := by
  induction actions generalizing items created with
  | nil =>
    cases applied
    exact ⟨le_rfl, fun item member => .inl member⟩
  | cons action rest induction =>
    have moment := moments action List.mem_cons_self
    have others := fun other member =>
      moments other (List.mem_cons_of_mem _ member)
    simp only [applyActions, bind_eq_ok] at applied
    rcases applied with ⟨todo, bounded, applied⟩
    have todoShort : ShortText 1000 todo := by
      cases value : action.todo with
      | none => simp only [value, boundedValue, reduceCtorEq] at bounded
      | some text =>
        rw [value] at bounded
        exact (boundedText_eq_ok_iff.mp bounded).2
    split_ifs at applied with known
    · exact induction others applied
    · rcases bind_eq_ok.mp applied with ⟨due, checked, applied⟩
      have dueRead : ∀ text ∈ due, Text.strip text ≠ "" := by
        cases value : action.deadline with
        | none => simp only [value, deadlineValue, reduceCtorEq] at checked
        | some given =>
          rw [value] at checked
          exact (deadline_eq_ok_iff.mp checked).2
      rcases induction others applied with ⟨grown, each⟩
      refine ⟨Nat.le_of_succ_le grown, fun item member => ?_⟩
      rcases each item member with earlier | ⟨_, readable⟩
      · rcases List.mem_append.mp earlier with old | new
        · exact .inl old
        · rw [List.mem_singleton] at new
          refine .inr ⟨grown, fun short => ?_⟩
          have time := texts.isoText_short action.moment moment
          rw [new]
          exact ⟨.inl rfl, texts.newId_short action.draw, todoShort, dueRead, short, time, time⟩
      · exact .inr ⟨grown, readable⟩

/-- The message that an empty window moves the cursor to has a short id. -/
def windowNamed (texts : ReviewTexts) (limits : ReviewLimits) (run : SavingRun) (sessionId : String)
    (messages : List ReviewMessage) : Prop :=
  match selectStored texts limits
      (messagesWith messages sessionId run.current)
      (run.state.cursors.get? sessionId) run.now with
  | .error _ => True
  | .ok selection =>
    match selection.batches,
        passedCursor texts (run.state.cursors.get? sessionId) selection with
    | [], some cursor => ShortText 200 cursor.messageId
    | _, _ => True

instance (texts : ReviewTexts) (limits : ReviewLimits) (run : SavingRun)
    (sessionId : String) (messages : List ReviewMessage) :
    Decidable (windowNamed texts limits run sessionId messages) := by
  rw [windowNamed]
  split
  · infer_instance
  · split <;> infer_instance

/--
The last message of a reviewed batch has a short id, and so has the session
when the batch creates an item.
-/
def batchNamed (texts : ReviewTexts) (reviewing : Reviewing)
    (run : SavingRun) (sessionId : String) (batch : ReviewBatch) :
    BatchAnswer → Prop
  | .failed _ => True
  | .reviewed _ actions =>
    match reviewing with
    | .dream => ShortText 200 batch.cursor.messageId
    | .breakbeat =>
      match applyActions texts sessionId actions run.state.items 0 with
      | .error _ => True
      | .ok (_, created) =>
        ShortText 200 batch.cursor.messageId ∧ (created ≠ 0 → ShortText 200 sessionId)

instance (texts : ReviewTexts) (reviewing : Reviewing) (run : SavingRun)
    (sessionId : String) (batch : ReviewBatch) (answer : BatchAnswer) :
    Decidable (batchNamed texts reviewing run sessionId batch answer) := by
  cases answer with
  | failed usage => exact .isTrue trivial
  | reviewed usage actions =>
    simp only [batchNamed]
    cases reviewing with
    | dream => infer_instance
    | breakbeat =>
      dsimp only
      split <;> infer_instance

namespace SavingReviewer

variable {states : List ReviewState} {sessionId : String}

/--
The condition of a step: the message to which a cursor moves, and the session
of a new item, have ids that are stripped, not blank, and not longer than
200 characters.
-/
def Named (texts : ReviewTexts) (reviewing : Reviewing)
    (limits : ReviewLimits) (service : SavingReviewer) :
    SaveLabel → Prop
  | .select messages _ =>
    match service.run with
    | some run =>
      ∀ sessionId ∈ run.sessions.head?, windowNamed texts limits run sessionId messages
    | none => True
  | .batch answer _ =>
    match service.run with
    | some run =>
      match run.active with
      | some (sessionId, batch :: _) =>
        batchNamed texts reviewing run sessionId batch answer
      | _ => True
    | none => True
  | _ => True

/-! ## The invariant -/

/-- What a run works on can be read, and its batches have times to write. -/
structure RunSound (texts : ReviewTexts) (run : SavingRun) : Prop where
  state : run.state.Readable texts
  active : ∀ active ∈ run.active, ∀ batch ∈ active.2, batch.cursor.createdAt < texts.limit

/-- Everything that was written can be read as it was written. -/
structure Sound (texts : ReviewTexts) (service : SavingReviewer) :
    Prop where
  written : ∀ state ∈ service.written, state.Readable texts
  run : ∀ run ∈ service.run, RunSound texts run

variable
    {reviewing : Reviewing}
    {service : SavingReviewer}

theorem Sound.write (sound : service.Sound texts)
    (readable : ∀ state ∈ states, state.Readable texts) :
    (service.write states).Sound texts := by
  refine ⟨?_, sound.run⟩
  intro state member
  rcases List.mem_append.mp member with old | new
  · exact sound.written state old
  · exact readable state new

variable {run : SavingRun}

theorem Sound.persist (sound : service.Sound texts) {next : SavingRun}
    (runSound : RunSound texts run) (nextSound : RunSound texts next)
    (readable : ∀ state ∈ states, state.Readable texts) (writes : Nat) :
    (service.persist run next states writes).Sound texts := by
  have saved : (service.write (states.take writes)).Sound texts :=
    sound.write fun state member =>
      readable state (List.mem_of_mem_take member)
  simp only [SavingReviewer.persist]
  cases unwritten : states[writes]? with
  | none =>
    refine ⟨saved.written, ?_⟩
    intro other same
    cases same
    exact nextSound
  | some state =>
    refine ⟨saved.written, ?_⟩
    intro other same
    cases same
    exact ⟨readable state (List.mem_of_getElem? unwritten), runSound.active⟩

theorem Sound.edit (sound : service.Sound texts) (writes : Nat)
    {change : ReviewState → Option ReviewState}
    (readable : ∀ state after, state.Readable texts → change state = some after →
        after.Readable texts) :
    (service.edit texts reviewing writes change).Sound texts := by
  simp only [SavingReviewer.edit]
  cases loaded : loadState texts reviewing service.file with
  | error text => exact sound
  | ok state =>
    apply sound.write
    intro after member
    have listed := List.mem_of_mem_take member
    rw [Option.mem_toList] at listed
    exact readable state after (loadState_readable loaded) listed

theorem Sound.remember (sound : service.Sound texts) (deadline : Option Nat) :
    (service.remember reviewing deadline).Sound texts := by
  cases reviewing with
  | breakbeat => exact ⟨sound.written, sound.run⟩
  | dream => exact sound

theorem Sound.initializeSchedule (sound : service.Sound texts) {now : Nat}
    (inside : now + limits.refresh < texts.limit) (writes : Nat) :
    (service.initializeSchedule texts reviewing limits now writes).Sound
      texts := by
  simp only [SavingReviewer.initializeSchedule]
  split
  · exact sound
  · split
    · exact sound.remember _
    · apply (sound.remember _).edit
      intro state after readable changed
      cases changed
      exact readable.scheduled inside

theorem Sound.select (sound : service.Sound texts)
    (held : service.run = some run) (sessions : List String)
    {messages : List ReviewMessage} (inside :
      ∀ message ∈ messagesWith messages sessionId run.current, message.createdAt < texts.limit)
    (named : windowNamed texts limits run sessionId messages) (writes : Nat) :
    (service.select texts limits run sessionId sessions messages writes).Sound texts := by
  have runSound := sound.run run held
  simp only [SavingReviewer.select]
  simp only [windowNamed] at named
  cases selected : selectStored texts limits (messagesWith messages sessionId run.current)
      (run.state.cursors.get? sessionId) run.now with
  | error text =>
    refine ⟨sound.written, ?_⟩
    intro other same
    cases same
    exact ⟨runSound.state, runSound.active⟩
  | ok selection =>
    rcases selectStored_from selected with ⟨taken, advanced⟩
    simp only [selected] at named
    dsimp only
    by_cases empty : selection.batches = []
    · rw [if_pos empty]
      rw [empty] at named
      cases passed : passedCursor texts (run.state.cursors.get? sessionId) selection with
      | none =>
        refine ⟨sound.written, ?_⟩
        intro other same
        cases same
        exact ⟨runSound.state, runSound.active⟩
      | some cursor =>
        simp only [passed] at named
        have read : cursor.Readable := by
          simp only [passedCursor] at passed
          cases advance : selection.advanceCursor with
          | none => simp only [advance, reduceCtorEq] at passed
          | some next =>
            simp only [advance] at passed
            split at passed
            · exact runSound.state.cursors cursor
                ((Dict.mem_values_iff _ _).mpr ⟨sessionId, passed⟩)
            · next different =>
                cases passed
                rcases advanced next advance with kept | ⟨message, listed, rfl⟩
                · exact absurd kept different
                · exact storedCursor_readable named (inside message listed)
        have moved := runSound.state.moved sessionId read
        have nextSound : RunSound texts
            { run with
              sessions
              state :=
                { run.state with
                  cursors :=
                    run.state.cursors.insert sessionId cursor } } :=
          ⟨moved, runSound.active⟩
        refine sound.persist runSound nextSound ?_ writes
        intro state member
        rw [List.mem_singleton.mp member]
        exact moved
    · rw [if_neg empty]
      refine ⟨sound.written, ?_⟩
      intro other same
      cases same
      refine ⟨runSound.state, ?_⟩
      intro active same batch member
      cases same
      exact inside _ (taken batch member _ (List.getLast_mem batch.nonempty))

theorem batchStates_readable (runSound : RunSound texts run)
    {batch : ReviewBatch} (inside : batch.cursor.createdAt < texts.limit)
    {answer : BatchAnswer}
    (moments : ∀ action ∈ answer.actions, action.moment < texts.limit)
    (named : batchNamed texts reviewing run sessionId batch answer) :
    ∀ state ∈ (batchStates texts reviewing run.state sessionId batch
        answer).1, state.Readable texts := by
  have readable := runSound.state
  cases answer with
  | failed usage =>
    intro state member
    rw [List.mem_singleton.mp member]
    exact readable.used usage
  | reviewed usage actions =>
    have used := readable.used usage
    cases reviewing with
    | dream =>
      have cursor := storedCursor_readable named inside
      intro state member
      simp only [batchStates, List.mem_cons, List.not_mem_nil, or_false] at member
      rcases member with rfl | rfl
      · exact used
      · exact used.moved sessionId cursor
    | breakbeat =>
      simp only [batchNamed] at named
      simp only [batchStates]
      cases applied : applyActions texts sessionId actions run.state.items 0 with
      | error text =>
        intro state member
        rw [List.mem_singleton.mp member]
        exact used
      | ok result =>
        rcases result with ⟨items, created⟩
        simp only [applied] at named
        have cursor := storedCursor_readable named.1 inside
        dsimp only
        by_cases none : created = 0
        · rw [if_pos none]
          intro state member
          simp only [List.mem_cons, List.not_mem_nil, or_false] at member
          rcases member with rfl | rfl
          · exact used
          · exact used.moved sessionId cursor
        · rw [if_neg none]
          have read : ∀ item ∈ items, item.Readable := by
            intro item member
            rcases (applyActions_items moments applied).2 item member with old | ⟨_, new⟩
            · exact readable.items item old
            · exact new (named.2 none)
          have added := used.withItems read
          intro state member
          simp only [List.mem_cons, List.not_mem_nil, or_false] at member
          rcases member with rfl | rfl | rfl
          · exact used
          · exact added
          · exact added.moved sessionId cursor

theorem readable_getLast {state : ReviewState} (readable : state.Readable texts)
    (all : ∀ state ∈ states, state.Readable texts) :
    (states.getLast?.getD state).Readable texts := by
  cases last : states.getLast? with
  | none => exact readable
  | some after => exact all after (List.mem_of_getLast? last)

theorem Sound.reviewBatch (sound : service.Sound texts)
    (held : service.run = some run) {batch : ReviewBatch}
    {rest : List ReviewBatch}
    (active : run.active = some (sessionId, batch :: rest))
    {answer : BatchAnswer}
    (moments : ∀ action ∈ answer.actions, action.moment < texts.limit)
    (named : batchNamed texts reviewing run sessionId batch answer)
    (writes : Nat) :
    (service.reviewBatch texts reviewing run sessionId batch rest answer writes).Sound texts := by
  have runSound := sound.run run held
  have times := runSound.active _ active
  have readable :=
    batchStates_readable runSound (times batch List.mem_cons_self) moments named
  refine sound.persist runSound ⟨?_, ?_⟩ readable writes
  · exact readable_getLast runSound.state readable
  · intro next same later member
    simp only [remaining, Option.mem_def, Option.ite_none_right_eq_some] at same
    rcases same with ⟨_, left⟩
    cases left
    exact times later (List.mem_cons_of_mem _ member)

theorem Sound.finish (sound : service.Sound texts)
    (held : service.run = some run) {finishedAt : Nat}
    (inside : finishedAt + limits.refresh < texts.limit) (writes : Nat) :
    (service.finish texts reviewing limits run finishedAt writes).Sound
      texts := by
  have ended : ({ service with run := none } : SavingReviewer).Sound
      texts := ⟨sound.written, nofun⟩
  simp only [SavingReviewer.finish]
  split
  · exact ended
  · apply (ended.remember _).write
    intro state member
    have listed := List.mem_of_mem_take member
    rw [List.mem_singleton.mp listed]
    exact (sound.run run held).state.scheduled inside

theorem Sound.next
    {target : SavingReviewer} {label : SaveLabel}
    (sound : service.Sound texts)
    (named : Named texts reviewing limits service label)
    (stepped : step texts reviewing limits service label = some target) :
    target.Sound texts := by
  cases label with
  | readDeadline =>
    simp only [SavingReviewer.step] at stepped
    split at stepped
    · cases stepped
      exact sound
    · cases stepped
      exact sound.remember _
  | initializeSchedule now writes =>
    simp only [SavingReviewer.step] at stepped
    split at stepped
    · next inside =>
        cases stepped
        exact sound.initializeSchedule inside writes
    · contradiction
  | defer now writes =>
    simp only [SavingReviewer.step] at stepped
    split at stepped
    · next allowed =>
        cases stepped
        apply sound.edit
        intro state after readable changed
        cases changed
        exact readable.scheduled allowed.2.2
    · contradiction
  | deleteItem id writes =>
    simp only [SavingReviewer.step] at stepped
    split at stepped
    · cases stepped
      exact sound.edit writes fun state after readable changed =>
        readable.deleted changed
    · contradiction
  | completeItem id moment writes =>
    simp only [SavingReviewer.step] at stepped
    split at stepped
    · next allowed =>
        cases stepped
        exact sound.edit writes fun state after readable changed =>
          readable.completed allowed.2.2 changed
    · contradiction
  | start sessions current now finishedAt =>
    simp only [SavingReviewer.step] at stepped
    split at stepped
    · cases stepped
      simp only [SavingReviewer.start]
      cases loaded : loadState texts reviewing service.file with
      | error text => exact sound.remember _
      | ok state =>
        refine ⟨sound.written, ?_⟩
        intro run same
        cases same
        exact ⟨loadState_readable loaded, nofun⟩
    · contradiction
  | select messages writes =>
    simp only [SavingReviewer.step] at stepped
    split at stepped
    · next state now current sessionId sessions held =>
        split at stepped
        · next inside =>
            cases stepped
            simp only [Named, held] at named
            exact sound.select held sessions inside (named sessionId rfl) writes
        · contradiction
    · contradiction
  | batch answer writes =>
    simp only [SavingReviewer.step] at stepped
    split at stepped
    · next state now current sessions sessionId batch rest held =>
        split at stepped
        · next moments =>
            cases stepped
            simp only [Named, held] at named
            exact sound.reviewBatch held rfl moments named writes
        · contradiction
    · contradiction
  | finish finishedAt writes =>
    simp only [SavingReviewer.step] at stepped
    split at stepped
    · next run held =>
        split at stepped
        · next allowed =>
            cases stepped
            exact sound.finish held allowed.2 writes
        · contradiction
    · contradiction
  | cancel =>
    simp only [SavingReviewer.step] at stepped
    split at stepped
    · cases stepped
      exact ⟨sound.written, nofun⟩
    · contradiction

/--
In every run in which the cursors move to messages with short ids, and items
are made in sessions with short ids, every written state is read back as it
was written.
-/
theorem saveRuns_readBack (texts : ReviewTexts) (reviewing : Reviewing) (limits : ReviewLimits)
    {service : SavingReviewer}
    (reached : (reviewSaves texts reviewing limits).Reaches
        (Named texts reviewing limits) service) :
    ∀ state ∈ service.written,
      loadState texts reviewing (some (saveState state)) = .ok state := by
  have sound : service.Sound texts := by
    refine reached.invariant ?_ ?_
    · rintro start ⟨_, free, nothing⟩
      refine ⟨?_, ?_⟩
      · rw [nothing]
        exact nofun
      · rw [free]
        exact nofun
    · intro before label target _ kept named stepped
      exact kept.next named stepped
  intro state member
  exact (loadState_saveState_iff texts reviewing state).mpr (sound.written state member)

end SavingReviewer

end Readable

/-! ## Two runs of Dream -/

/-- The first two moments of 1970 as texts. -/
def sampleIsoText (moment : Nat) : String :=
  if moment = 0 then
    "1970-01-01T00:00:00+00:00"
  else
    "1970-01-01T00:00:00.000001+00:00"

/-- Texts for these two moments. -/
def sampleTexts : ReviewTexts where
  limit := 2
  isoText := sampleIsoText
  readTime text :=
    if text = sampleIsoText 0 then
      some (0, true)
    else if text = sampleIsoText 1 then
      some (1, true)
    else
      none
  newId _ := "breakbeat_00000000-0000-4000-8000-000000000000"
  todoKey := Text.lower
  isoText_short := by decide
  readTime_isoText := by decide
  readTime_lt := by
    intro text moment aware read
    split_ifs at read
    · cases read
      decide
    · cases read
      decide
  newId_short := fun _ => by decide

theorem momentLimits_positive : 0 < 10 := by decide

/-- A window of one moment. -/
def momentLimits : ReviewLimits where
  refresh := 1
  tokenLimit := 10
  refreshPositive := Nat.one_pos
  tokenLimitPositive := momentLimits_positive

/-- A run over one session with one message of the given id. -/
def oneMessageRun (id : String) : List SaveLabel :=
  [.start ["session"] none 0 0, .select [⟨id, "session", "user", 1, 0⟩] 0,
    .batch (.reviewed ⟨1, 1, 2⟩ []) 2,
    .finish 0 1]

/-- A reviewer without a file. -/
def emptyReviewer : SavingReviewer where
  file := none
  nextRunAt := none
  run := none
  written := []

theorem emptyReviewer_initial
    (texts : ReviewTexts) (reviewing : Reviewing) (limits : ReviewLimits) :
    (reviewSaves texts reviewing limits).initial emptyReviewer :=
  ⟨rfl, rfl, rfl⟩

namespace SavingReviewer

instance (texts : ReviewTexts) (reviewing : Reviewing)
    (limits : ReviewLimits) (service : SavingReviewer)
    (label : SaveLabel) :
    Decidable (Named texts reviewing limits service label) := by
  cases label with
  | select messages writes =>
    simp only [Named]
    split <;> infer_instance
  | batch answer writes =>
    simp only [Named]
    split
    · split <;> infer_instance
    · infer_instance
  | _ => exact .isTrue trivial

theorem saveRuns_readBack_sample : ∃ service, (reviewSaves sampleTexts .dream momentLimits).Reaches
        (Named sampleTexts .dream momentLimits) service ∧
      (service.written.map fun state => state.cursors.keys) = [[], ["session"], ["session"]] ∧
      ∀ state ∈ service.written, loadState sampleTexts .dream (some (saveState state)) =
          .ok state := by
  have evaluated :
      (reviewSaves sampleTexts .dream momentLimits).runGuarded
        (Named sampleTexts .dream momentLimits) emptyReviewer
        (oneMessageRun "message") = some _ := rfl
  have reached := Machine.Reaches.runGuarded
    (.start (emptyReviewer_initial _ _ _)) evaluated
  exact ⟨_, reached, rfl, saveRuns_readBack sampleTexts .dream momentLimits reached⟩

/-- Behind a message with an id of 201 characters, the file is refused. -/
theorem saved_not_readable : ¬ ∀ (texts : ReviewTexts) (reviewing : Reviewing)
      (limits : ReviewLimits) (service : SavingReviewer),
      (reviewSaves texts reviewing limits).Reachable service →
      ∀ state ∈ service.written, loadState texts reviewing (some (saveState state)) =
          .ok state := by
  intro readBack
  have evaluated :
      (reviewSaves sampleTexts .dream momentLimits).run emptyReviewer
        (oneMessageRun (String.ofList (List.replicate 201 'x'))) =
          some _ := rfl
  have reached := Machine.Reachable.run
    (.start (emptyReviewer_initial _ _ _)) evaluated
  have loaded := readBack sampleTexts .dream momentLimits _ reached _
    (List.mem_cons_of_mem _ List.mem_cons_self)
  have cursors :=
    ((loadState_saveState_iff _ _ _).mp loaded).cursors _ List.mem_cons_self
  have short : (String.ofList (List.replicate 201 'x')).length ≤ 200 :=
    cursors.1.2.2
  rw [String.length_ofList, List.length_replicate] at short
  omega

end SavingReviewer

end TurningGood.Proactive
