import TurningGood.Proactive.ReviewCursor

/-!
# What the cursors of the reviews leave behind

A message at or before a cursor was reviewed, or it was older than the refresh
window while the cursor was not fresh.  This holds in runs in which a cursor
never moves past a message that its window did not see: one that is still to
be stored, one that was stored since, or one at the time of a cursor whose own
message is missing.
-/

namespace TurningGood.Proactive

open TurningGood.Foundation

variable {system : ReviewSystem} {refresh tokenLimit : Nat}
  {message : ReviewMessage} {target : Reviewer}

/-- A cursor moved past the message, which was too old for its window. -/
def SkippedBy (moves : List CursorMove) (refresh : Nat) (message : ReviewMessage) : Prop :=
  ∃ move ∈ moves, move.sessionId = message.sessionId ∧ message.AtOrBefore move.cursor ∧
      (∀ previous ∈ move.previous, ¬ message.AtOrBefore previous) ∧
      cursorIsFresh move.before move.now refresh = false ∧
      message.createdAt < move.now - refresh

/--
Every stored message at or before the cursor of its session was reviewed or
skipped, no message that is still to be stored lies behind the cursor, and no
message was reviewed twice.
-/
structure CursorSound
    (settings : ReviewSettings) (system : ReviewSystem)
    (reviewing : Reviewing) : Prop where
  covered : ∀ sessionId cursor, (system.reviewer reviewing).cursors.get? sessionId = some cursor →
      ∀ message ∈ system.stored, message.sessionId = sessionId →
        message.Reviewable → message.AtOrBefore cursor →
          message ∈ (system.reviewer reviewing).reviewed ∨
            SkippedBy (system.reviewer reviewing).moves (settings.refresh reviewing) message
  ahead : ∀ sessionId cursor, (system.reviewer reviewing).cursors.get? sessionId = some cursor →
      ∀ message ∈ system.unsaved, message.sessionId = sessionId →
        message.Reviewable → message.AtOrBefore cursor → message.id = cursor.messageId
  once : (system.reviewer reviewing).reviewed.Nodup

/-! ## The condition -/

/-- The window has the message, and can tell the cursor apart from it. -/
def ActiveReview.Sees (active : ActiveReview) (message : ReviewMessage) :
    Prop :=
  message ∈ active.messages ∧ ∀ before ∈ active.before,
      (∃ record ∈ active.messages, record.id = before.messageId) ∨
        message.createdAt ≠ before.createdAt

instance (active : ActiveReview) (message : ReviewMessage) :
    Decidable (active.Sees message) :=
  inferInstanceAs (Decidable (_ ∧ ∀ before ∈ active.before, (∃ record ∈ _, _) ∨ _))

/-- A cursor that moves from one position to another passes the message. -/
def Passes (previous : Option ReviewCursor) (cursor : ReviewCursor)
    (message : ReviewMessage) : Prop :=
  message.AtOrBefore cursor ∧ ∀ earlier ∈ previous, ¬ message.AtOrBefore earlier

instance (previous : Option ReviewCursor) (cursor : ReviewCursor)
    (message : ReviewMessage) : Decidable (Passes previous cursor message) :=
  inferInstanceAs (Decidable (_ ∧ ∀ earlier ∈ previous, ¬ _))

/--
The cursor passes no stored message that its window does not see, and no
message that is still to be stored but its own.
-/
def MovesSoundly (system : ReviewSystem) (reviewer : Reviewer) (active : ActiveReview)
    (cursor : ReviewCursor) : Prop :=
  (∀ message ∈ system.stored, message.sessionId = active.sessionId → message.Reviewable →
      Passes (reviewer.cursors.get? active.sessionId) cursor message → active.Sees message) ∧
    ∀ message ∈ system.unsaved, message.sessionId = active.sessionId →
      message.Reviewable → message.AtOrBefore cursor → message.id = cursor.messageId

instance (system : ReviewSystem) (reviewer : Reviewer)
    (active : ActiveReview) (cursor : ReviewCursor) :
    Decidable (MovesSoundly system reviewer active cursor) :=
  inferInstanceAs (Decidable ((∀ message ∈ system.stored, _ → _ → _ → _) ∧
      ∀ message ∈ system.unsaved, _ → _ → _ → _))

/-- The window that a run works on. -/
def Reviewer.active (reviewer : Reviewer) : Option ActiveReview :=
  reviewer.run.bind ReviewRun.active

/-- The message lies behind the cursor of its session. -/
def ReviewMessage.Behind (message : ReviewMessage) (reviewer : Reviewer) :
    Prop :=
  message.Reviewable → ∀ cursor ∈ reviewer.cursors.get? message.sessionId,
      ¬ message.AtOrBefore cursor

instance (message : ReviewMessage) (reviewer : Reviewer) :
    Decidable (message.Behind reviewer) :=
  inferInstanceAs (Decidable (_ → ∀ cursor ∈ _, ¬ _))

/--
A message is created with a new id and behind the cursors of its session, and
a cursor moves soundly.
-/
def KeepsOrder (system : ReviewSystem) : ReviewEvent → Prop
  | .create message =>
    message.id ∉ system.created.map ReviewMessage.id ∧
      message.Behind system.breakbeat ∧ message.Behind system.dream
  | .passEmpty reviewing =>
    ∀ active ∈ (system.reviewer reviewing).active, ∀ cursor ∈ active.selection.advanceCursor,
        MovesSoundly system (system.reviewer reviewing) active cursor
  | .batchReviewed reviewing =>
    ∀ active ∈ (system.reviewer reviewing).active, ∀ batch ∈ active.remaining.head?,
        MovesSoundly system (system.reviewer reviewing) active batch.cursor
  | _ => True

instance (system : ReviewSystem) (event : ReviewEvent) :
    Decidable (KeepsOrder system event) :=
  match event with
  | .create _ => inferInstanceAs (Decidable (_ ∧ _ ∧ _))
  | .passEmpty _ =>
    inferInstanceAs (Decidable (∀ active ∈ _, ∀ cursor ∈ _, MovesSoundly _ _ _ _))
  | .batchReviewed _ =>
    inferInstanceAs (Decidable (∀ active ∈ _, ∀ batch ∈ _, MovesSoundly _ _ _ _))
  | .save _ | .forget _ | .restart | .start _ _ _ _ | .select _
  | .batchFailed _ | .stop _ => inferInstanceAs (Decidable True)

/-! ## The invariant -/

/-- The messages have different ids and are stored once. -/
structure Recorded (system : ReviewSystem) : Prop where
  distinct : (system.created.map ReviewMessage.id).Nodup
  created : ∀ message ∈ system.unsaved ++ system.stored, message ∈ system.created
  once : (system.unsaved ++ system.stored).Nodup

/-- The cursor stands at a message that was created in its session. -/
def Origin (system : ReviewSystem) (sessionId : String) (cursor : ReviewCursor) : Prop :=
  ∃ message ∈ system.created, message.sessionId = sessionId ∧ message.Reviewable ∧
      message.cursorFor = cursor

/-- What the cursors have left behind. -/
structure CursorsSound
    (system : ReviewSystem) (refresh : Nat) (reviewer : Reviewer) :
    Prop where
  origin : ∀ sessionId cursor, reviewer.cursors.get? sessionId = some cursor →
      Origin system sessionId cursor
  covered : ∀ message ∈ system.unsaved ++ system.stored, ∀ cursor,
      reviewer.cursors.get? message.sessionId = some cursor →
      message.Reviewable → message.AtOrBefore cursor →
        message ∈ reviewer.reviewed ∨ SkippedBy reviewer.moves refresh message
  ahead : ∀ message ∈ system.unsaved, ∀ cursor,
      reviewer.cursors.get? message.sessionId = some cursor →
      message.Reviewable → message.AtOrBefore cursor → message.id = cursor.messageId
  behind : ∀ message ∈ reviewer.reviewed, ∃ cursor,
      reviewer.cursors.get? message.sessionId = some cursor ∧ message.AtOrBefore cursor
  once : reviewer.reviewed.Nodup

/-- The cursor after some batches of a window. -/
def cursorAfter (before : Option ReviewCursor) (done : List ReviewBatch) :
    Option ReviewCursor :=
  match done.getLast? with
  | none => before
  | some batch => some batch.cursor

/-- A window is what its service selected from messages of its session. -/
structure ActiveSound
    (system : ReviewSystem) (refresh tokenLimit : Nat)
    (reviewer : Reviewer) (now : Nat) (active : ActiveReview) : Prop where
  selected : selectReviewWindow active.messages active.before now refresh
      tokenLimit = .ok active.selection
  messages : ∀ message ∈ active.messages,
      message ∈ system.created ∧ message.sessionId = active.sessionId
  distinct : (active.messages.map ReviewMessage.id).Nodup
  origin : ∀ cursor ∈ active.before, Origin system active.sessionId cursor
  place : ∃ done, active.selection.batches = done ++ active.remaining ∧
      reviewer.cursors.get? active.sessionId = cursorAfter active.before done

/-- What holds of a run. -/
structure RunSound
    (system : ReviewSystem) (refresh tokenLimit : Nat)
    (reviewer : Reviewer) (run : ReviewRun) : Prop where
  current : ∀ message ∈ run.current, message ∈ system.created
  active : ∀ active ∈ run.active, ActiveSound system refresh tokenLimit reviewer run.now active

/-- What holds of a service in every state. -/
structure ReviewerSound
    (system : ReviewSystem) (refresh tokenLimit : Nat)
    (reviewer : Reviewer) : Prop where
  cursors : CursorsSound system refresh reviewer
  run : ∀ run, reviewer.run = some run → RunSound system refresh tokenLimit reviewer run

/-- What holds in every state. -/
structure ReviewsSound
    (settings : ReviewSettings) (system : ReviewSystem) : Prop where
  recorded : Recorded system
  reviewer : ∀ reviewing, ReviewerSound system (settings.refresh reviewing) settings.tokenLimit
        (system.reviewer reviewing)

theorem Origin.mono {target : ReviewSystem} {sessionId : String}
    {cursor : ReviewCursor} (origin : Origin system sessionId cursor)
    (kept : ∀ message ∈ system.created, message ∈ target.created) :
    Origin target sessionId cursor := by
  rcases origin with ⟨message, member, spec⟩
  exact ⟨message, kept message member, spec⟩

variable {reviewer : Reviewer}

theorem ReviewerSound.of_messages {target : ReviewSystem}
    (sound : ReviewerSound system refresh tokenLimit reviewer)
    (kept : ∀ message ∈ system.created, message ∈ target.created) (pool :
      ∀ message ∈ target.unsaved ++ target.stored,
        message ∈ system.unsaved ++ system.stored ∨ message.Behind reviewer) (waiting :
      ∀ message ∈ target.unsaved, message ∈ system.unsaved ∨ message.Behind reviewer) :
    ReviewerSound target refresh tokenLimit reviewer := by
  refine ⟨⟨?_, ?_, ?_, sound.cursors.behind, sound.cursors.once⟩, ?_⟩
  · intro sessionId cursor found
    exact (sound.cursors.origin sessionId cursor found).mono kept
  · intro message member cursor found reviewable before
    rcases pool message member with old | behind
    · exact sound.cursors.covered message old cursor found reviewable before
    · exact absurd before (behind reviewable cursor found)
  · intro message member cursor found reviewable before
    rcases waiting message member with old | behind
    · exact sound.cursors.ahead message old cursor found reviewable before
    · exact absurd before (behind reviewable cursor found)
  · intro run running
    rcases sound.run run running with ⟨current, active⟩
    refine ⟨fun message member => kept message (current message member), ?_⟩
    intro window member
    rcases active window member with ⟨selected, messages, distinct, origin, place⟩
    exact ⟨selected, fun message inside =>
        ⟨kept message (messages message inside).1, (messages message inside).2⟩,
      distinct, fun cursor before => (origin cursor before).mono kept, place⟩

theorem ReviewerSound.stop (sound : ReviewerSound system refresh tokenLimit reviewer) :
    ReviewerSound system refresh tokenLimit reviewer.stop :=
  ⟨⟨sound.cursors.origin, sound.cursors.covered, sound.cursors.ahead,
      sound.cursors.behind, sound.cursors.once⟩,
    fun _ running => by cases running⟩

theorem CursorsSound.withActive (sound : CursorsSound system refresh reviewer)
    (run : ReviewRun) (active : Option ActiveReview) :
    CursorsSound system refresh (reviewer.withActive run active) :=
  ⟨sound.origin, sound.covered, sound.ahead, sound.behind, sound.once⟩

theorem ReviewerSound.leave (run : ReviewRun) (cursors : CursorsSound system refresh reviewer)
    (current : ∀ message ∈ run.current, message ∈ system.created) :
    ReviewerSound system refresh tokenLimit (reviewer.withActive run none) := by
  refine ⟨cursors.withActive run none, ?_⟩
  intro other same
  cases same
  exact ⟨current, by simp⟩

theorem ReviewMessage.AtOrBefore.trans {earlier later : ReviewCursor}
    (before : message.AtOrBefore earlier)
    (moved : Precedes earlier.position later.position) :
    message.AtOrBefore later :=
  Precedes.trans before moved

theorem SkippedBy.mono {moves later : List CursorMove} (skipped : SkippedBy moves refresh message) :
    SkippedBy (moves ++ later) refresh message := by
  rcases skipped with ⟨move, member, spec⟩
  exact ⟨move, List.mem_append_left later member, spec⟩

theorem advanceCursor_sound {active : ActiveReview} {cursor : ReviewCursor}
    (run : ReviewRun) (messages : List ReviewMessage)
    (sound : CursorsSound system refresh reviewer)
    (origin : Origin system active.sessionId cursor) (forward :
      ∀ previous ∈ reviewer.cursors.get? active.sessionId,
        Precedes previous.position cursor.position) (taken :
      ∀ message ∈ messages, message.sessionId = active.sessionId ∧
        Passes (reviewer.cursors.get? active.sessionId) cursor message)
    (distinct : messages.Nodup) (passed : ∀ message ∈ system.unsaved ++ system.stored,
        message.sessionId = active.sessionId → message.Reviewable →
        Passes (reviewer.cursors.get? active.sessionId) cursor message →
          message ∈ messages ∨ (cursorIsFresh active.before run.now refresh = false ∧
              message.createdAt < run.now - refresh)) (ahead :
      ∀ message ∈ system.unsaved, message.sessionId = active.sessionId →
        message.Reviewable → message.AtOrBefore cursor → message.id = cursor.messageId) :
    CursorsSound system refresh (reviewer.advanceCursor run active cursor messages) := by
  have lookup : ∀ sessionId target,
      (reviewer.advanceCursor run active cursor messages).cursors.get? sessionId = some target →
        (sessionId = active.sessionId ∧ target = cursor) ∨
          reviewer.cursors.get? sessionId = some target := by
    intro sessionId target found
    have inserted : (reviewer.cursors.insert active.sessionId cursor).get?
        sessionId = some target := found
    rw [Dict.get?_insert] at inserted
    split_ifs at inserted with same
    · exact .inl ⟨same, (Option.some.inj inserted).symm⟩
    · exact .inr inserted
  refine ⟨?_, ?_, ?_, ?_, ?_⟩
  · intro sessionId target found
    rcases lookup sessionId target found with ⟨rfl, rfl⟩ | old
    · exact origin
    · exact sound.origin sessionId target old
  · intro message member target found reviewable before
    have either : message ∈ reviewer.reviewed ∨
        SkippedBy reviewer.moves refresh message →
        message ∈ reviewer.reviewed ++ messages ∨
          SkippedBy (reviewer.advanceCursor run active cursor messages).moves
            refresh message :=
      Or.imp (List.mem_append_left messages) SkippedBy.mono
    rcases lookup message.sessionId target found with ⟨same, rfl⟩ | old
    · by_cases earlier : ∃ previous ∈ reviewer.cursors.get? active.sessionId,
            message.AtOrBefore previous
      · rcases earlier with ⟨previous, stood, reached⟩
        rw [← same] at stood
        exact either (sound.covered message member previous stood reviewable reached)
      · have passes : Passes (reviewer.cursors.get? active.sessionId)
            target message :=
          ⟨before, fun previous stood reached =>
            earlier ⟨previous, stood, reached⟩⟩
        rcases passed message member same reviewable passes with new | ⟨stale, old⟩
        · exact .inl (List.mem_append_right _ new)
        · exact .inr ⟨_, List.mem_append_right _ List.mem_cons_self,
            same.symm, before, passes.2, stale, old⟩
    · exact either (sound.covered message member target old reviewable before)
  · intro message member target found reviewable before
    rcases lookup message.sessionId target found with ⟨same, rfl⟩ | old
    · exact ahead message member same reviewable before
    · exact sound.ahead message member target old reviewable before
  · have here : (reviewer.advanceCursor run active cursor
        messages).cursors.get? active.sessionId = some cursor :=
      Dict.get?_insert_self _ _ _
    have elsewhere : ∀ sessionId, sessionId ≠ active.sessionId →
        (reviewer.advanceCursor run active cursor messages).cursors.get?
          sessionId = reviewer.cursors.get? sessionId :=
      fun sessionId other => Dict.get?_insert_of_ne _ _ other
    intro message member
    rcases List.mem_append.mp member with old | new
    · rcases sound.behind message old with ⟨previous, found, reached⟩
      by_cases same : message.sessionId = active.sessionId
      · rw [same] at found ⊢
        exact ⟨cursor, here, reached.trans (forward previous found)⟩
      · exact ⟨previous, (elsewhere _ same).trans found, reached⟩
    · rcases taken message new with ⟨same, passes⟩
      rw [same]
      exact ⟨cursor, here, passes.1⟩
  · refine List.nodup_append.mpr ⟨sound.once, distinct, ?_⟩
    rintro message old other new rfl
    rcases sound.behind message old with ⟨previous, found, reached⟩
    rcases taken message new with ⟨same, passes⟩
    rw [same] at found
    exact passes.2 previous found reached

/-! ## What a window knows -/

section Window

variable {system : ReviewSystem} {refresh tokenLimit now : Nat}
  {reviewer : Reviewer} {active : ActiveReview}

variable {message : ReviewMessage} {batch : ReviewBatch}
  {rest done : List ReviewBatch}

theorem Recorded.eq_of_id (recorded : Recorded system) {left right : ReviewMessage}
    (leftCreated : left ∈ system.created)
    (rightCreated : right ∈ system.created)
    (same : left.id = right.id) : left = right :=
  List.inj_on_of_nodup_map recorded.distinct leftCreated rightCreated same

theorem ActiveSound.selects (sound : ActiveSound system refresh tokenLimit reviewer now active) :
    Selects active.messages active.before now refresh tokenLimit
      active.selection :=
  selectReviewWindow_selects sound.distinct sound.selected

theorem ActiveSound.ordered (sound : ActiveSound system refresh tokenLimit reviewer now active) :
    Ordered (reviewSource active.messages now) :=
  reviewSource_ordered now sound.distinct

theorem ActiveSound.before_origin (recorded : Recorded system)
    (sound : ActiveSound system refresh tokenLimit reviewer now active)
    {before : ReviewCursor} (stood : active.before = some before) :
    ∀ record ∈ reviewSource active.messages now, record.id = before.messageId →
        record.createdAt = before.createdAt := by
  intro record member same
  rcases sound.origin before stood with ⟨origin, created, _, _, rfl⟩
  have present := (mem_reviewSource_iff.mp member).1
  rw [recorded.eq_of_id (sound.messages record present).1 created same]
  rfl

theorem ActiveSound.behind_before (recorded : Recorded system)
    (sound : ActiveSound system refresh tokenLimit reviewer now active)
    (member : message ∈ unread (reviewSource active.messages now) active.before) :
    ∀ before ∈ active.before, ¬ message.AtOrBefore before := by
  intro before stood
  have stood : active.before = some before := stood
  rw [stood] at member
  exact not_atOrBefore_of_unread sound.ordered (sound.before_origin recorded stood) member

theorem ActiveSound.unread_of_sees (recorded : Recorded system)
    (sound : ActiveSound system refresh tokenLimit reviewer now active)
    (sees : active.Sees message) (reviewable : message.Reviewable)
    (present : message.createdAt ≤ now)
    (later : ∀ before ∈ active.before, ¬ message.AtOrBefore before) :
    message ∈ unread (reviewSource active.messages now) active.before := by
  have source : message ∈ reviewSource active.messages now :=
    mem_reviewSource_iff.mpr ⟨sees.1, reviewable, present⟩
  cases stood : active.before with
  | none => exact source
  | some before =>
    refine mem_unread sound.ordered (sound.before_origin recorded stood)
      source ?_ (later before stood)
    rcases sees.2 before stood with ⟨record, read, same⟩ | different
    · by_cases early : record.createdAt ≤ now
      · left
        rcases sound.origin before stood with ⟨origin, created, _, originReviewable, rfl⟩
        have equal := recorded.eq_of_id (sound.messages record read).1
          created same
        refine ⟨record, mem_reviewSource_iff.mpr ⟨read, ?_, early⟩, same⟩
        rw [equal]
        exact originReviewable
      · right
        rcases sound.origin before stood with ⟨origin, created, _, _, rfl⟩
        have equal := recorded.eq_of_id (sound.messages record read).1
          created same
        rw [equal] at early
        intro atOnce
        have sameTime : message.createdAt = origin.createdAt := atOnce
        exact early (sameTime ▸ present)
    · exact .inr different

theorem ActiveSound.of_unread (sound : ActiveSound system refresh tokenLimit reviewer now active)
    (member : message ∈ unread (reviewSource active.messages now) active.before) :
    message ∈ system.created ∧ message.sessionId = active.sessionId ∧
      message.Reviewable ∧ message.createdAt ≤ now := by
  rcases mem_reviewSource_iff.mp (List.mem_of_mem_drop member) with ⟨read, reviewable, present⟩
  exact ⟨(sound.messages message read).1, (sound.messages message read).2, reviewable, present⟩

theorem Ordered.of_block
    {before block after : List ReviewMessage}
    (ordered : Ordered (before ++ (block ++ after)))
    (nonempty : block ≠ []) :
    (∀ message ∈ block, Precedes message.position (block.getLast nonempty).position) ∧
      (∀ earlier ∈ before, ∀ message ∈ block, ¬ Precedes message.position earlier.position) ∧
      ∀ later ∈ after, ¬ Precedes later.position (block.getLast nonempty).position := by
  rw [Ordered, List.pairwise_append, List.pairwise_append] at ordered
  rcases ordered with ⟨_, ⟨inner, _, outer⟩, across⟩
  refine ⟨?_, ?_, ?_⟩
  · intro message member
    have whole := List.dropLast_append_getLast nonempty
    rw [← whole, List.pairwise_append] at inner
    rw [← whole, List.mem_append, List.mem_singleton] at member
    rcases member with early | rfl
    · exact (inner.2.2 message early _ List.mem_cons_self).1
    · exact Precedes.refl _
  · intro earlier early message member
    exact (across earlier early message (List.mem_append_left after member)).2
  · intro later late
    exact (outer _ (List.getLast_mem nonempty) later late).2

/-! ## A batch that was reviewed -/

theorem ActiveSound.blocks (sound : ActiveSound system refresh tokenLimit reviewer now active)
    (remaining : active.remaining = batch :: rest)
    (place : active.selection.batches = done ++ active.remaining) :
    active.selection.messages = done.flatMap ReviewBatch.messages ++
          (batch.messages ++ rest.flatMap ReviewBatch.messages) ∧
      Ordered (done.flatMap ReviewBatch.messages ++
          (batch.messages ++ rest.flatMap ReviewBatch.messages)) := by
  have split : active.selection.messages =
      done.flatMap ReviewBatch.messages ++
        (batch.messages ++ rest.flatMap ReviewBatch.messages) := by
    rw [ReviewSelection.messages, place, remaining, List.flatMap_append, List.flatMap_cons]
  refine ⟨split, ?_⟩
  rw [← split]
  exact sound.ordered.sublist (sound.selects.suffix.sublist.trans (List.drop_sublist _ _))

theorem cursorAfter_append (before : Option ReviewCursor) (done : List ReviewBatch)
    (batch : ReviewBatch) :
    cursorAfter before (done ++ [batch]) = some batch.cursor := by
  simp [cursorAfter]

theorem ActiveSound.done_before {previous : ReviewCursor}
    (ordered : Ordered (done.flatMap ReviewBatch.messages))
    (after : cursorAfter active.before done = some previous) :
    ∀ message ∈ done.flatMap ReviewBatch.messages,
      message.AtOrBefore previous := by
  rcases List.eq_nil_or_concat done with rfl | ⟨earlier, last, rfl⟩
  · simp
  · rw [List.concat_eq_append] at ordered after ⊢
    rw [cursorAfter_append, Option.some.injEq] at after
    subst previous
    rw [List.flatMap_append, List.flatMap_singleton] at ordered ⊢
    intro message member
    rcases List.mem_append.mp member with early | late
    · rw [Ordered, List.pairwise_append] at ordered
      exact (ordered.2.2 message early _ (List.getLast_mem last.nonempty)).1
    · have block : Ordered (earlier.flatMap ReviewBatch.messages ++
          (last.messages ++ [])) := by
        rw [List.append_nil]
        exact ordered
      exact (block.of_block last.nonempty).1 message late

theorem ActiveSound.batch_passes (recorded : Recorded system)
    (sound : ActiveSound system refresh tokenLimit reviewer now active)
    (remaining : active.remaining = batch :: rest)
    (place : active.selection.batches = done ++ active.remaining) :
    ∀ message ∈ batch.messages, message ∈ unread (reviewSource active.messages now) active.before ∧
        Passes (cursorAfter active.before done) batch.cursor message := by
  rcases sound.blocks remaining place with ⟨split, ordered⟩
  have block := ordered.of_block batch.nonempty
  intro message member
  have isUnread :
      message ∈ unread (reviewSource active.messages now) active.before := by
    refine sound.selects.suffix.subset ?_
    rw [split]
    exact List.mem_append_right _ (List.mem_append_left _ member)
  refine ⟨isUnread, block.1 message member, ?_⟩
  rcases List.eq_nil_or_concat done with rfl | ⟨earlier, last, rfl⟩
  · exact sound.behind_before recorded isUnread
  · rw [List.concat_eq_append] at block ⊢
    rw [cursorAfter_append]
    rintro previous ⟨⟩
    refine block.2.1 _ ?_ message member
    rw [List.flatMap_append, List.flatMap_singleton]
    exact List.mem_append_right _ (List.getLast_mem last.nonempty)

theorem ActiveSound.passed_by_batch (recorded : Recorded system)
    (sound : ActiveSound system refresh tokenLimit reviewer now active)
    (remaining : active.remaining = batch :: rest)
    (place : active.selection.batches = done ++ active.remaining)
    (sees : active.Sees message) (reviewable : message.Reviewable) (passes :
      Passes (cursorAfter active.before done) batch.cursor message) :
    message ∈ batch.messages ∨ (cursorIsFresh active.before now refresh = false ∧
        message.createdAt < now - refresh) := by
  rcases sound.blocks remaining place with ⟨split, ordered⟩
  have block := ordered.of_block batch.nonempty
  have doneOrdered : Ordered (done.flatMap ReviewBatch.messages) :=
    ordered.sublist (List.sublist_append_left _ _)
  have last := sound.batch_passes recorded remaining place _
    (List.getLast_mem batch.nonempty)
  have present : message.createdAt ≤ now := by
    have lastPresent := (sound.of_unread last.1).2.2.2
    rcases passes.1 with less | ⟨same, _⟩
    · exact (le_of_lt less).trans lastPresent
    · exact same.le.trans lastPresent
  have later : ∀ before ∈ active.before, ¬ message.AtOrBefore before := by
    intro before stood reached
    rcases List.eq_nil_or_concat done with rfl | ⟨earlier, final, rfl⟩
    · exact passes.2 before stood reached
    · rw [List.concat_eq_append, cursorAfter_append] at passes
      refine passes.2 final.cursor rfl (reached.trans ?_)
      refine precedes_of_not (sound.behind_before recorded ?_ before stood)
      refine sound.selects.suffix.subset ?_
      rw [split, List.concat_eq_append, List.flatMap_append, List.flatMap_singleton]
      exact List.mem_append_left _ (List.mem_append_right _ (List.getLast_mem final.nonempty))
  have isUnread := sound.unread_of_sees recorded sees reviewable present later
  rcases sound.selects.complete message isUnread with taken | skipped
  · rw [split, List.mem_append, List.mem_append] at taken
    rcases taken with early | here | late
    · cases after : cursorAfter active.before done with
      | none =>
        rcases List.eq_nil_or_concat done with rfl | ⟨earlier, final, rfl⟩
        · cases early
        · rw [List.concat_eq_append, cursorAfter_append] at after
          cases after
      | some previous =>
        have reached :=
          ActiveSound.done_before doneOrdered after message early
        exact absurd reached (passes.2 previous after)
    · exact .inl here
    · exact absurd passes.1 (block.2.2 message late)
  · exact .inr skipped

end Window

theorem batchReviewed_sound (recorded : Recorded system)
    (sound : ReviewerSound system refresh tokenLimit reviewer) (safe :
      ∀ active ∈ reviewer.active, ∀ batch ∈ active.remaining.head?,
        MovesSoundly system reviewer active batch.cursor)
    (reviewed : reviewer.batchReviewed = some target) :
    ReviewerSound system refresh tokenLimit target := by
  unfold Reviewer.batchReviewed at reviewed
  split at reviewed
  case h_2 => cases reviewed
  case h_1 run running =>
    split at reviewed
    case h_2 => cases reviewed
    case h_1 active window =>
      split at reviewed
      case h_2 => cases reviewed
      case h_1 batch rest remaining =>
        cases reviewed
        have runSound := sound.run run running
        have activeSound := runSound.active active window
        rcases activeSound.place with ⟨done, place, stands⟩
        have safe := safe active
          (by rw [Reviewer.active, running]; exact window) batch
          (by rw [remaining]; rfl)
        have passes := activeSound.batch_passes recorded remaining place
        have last := passes _ (List.getLast_mem batch.nonempty)
        have lastCreated := activeSound.of_unread last.1
        have block : Ordered batch.messages :=
          (activeSound.blocks remaining place).2.sublist
            ((List.sublist_append_left _ _).trans (List.sublist_append_right _ _))
        have cursors : CursorsSound system refresh
            (reviewer.advanceCursor run active batch.cursor batch.messages) := by
          refine advanceCursor_sound run batch.messages sound.cursors
            ⟨_, lastCreated.1, lastCreated.2.1, lastCreated.2.2.1, rfl⟩
            ?_ ?_ ?_ ?_ safe.2
          · intro previous stood
            rw [stands] at stood
            exact precedes_of_not (last.2.2 previous stood)
          · intro message member
            rw [stands]
            exact ⟨(activeSound.of_unread (passes message member).1).2.1, (passes message member).2⟩
          · refine block.imp ?_
            rintro left right ⟨before, after⟩ rfl
            exact after before
          · intro message member same reviewable passed
            rcases List.mem_append.mp member with waiting | stored
            · have own := safe.2 message waiting same reviewable passed.1
              have equal := recorded.eq_of_id
                (recorded.created message member) lastCreated.1 own
              rw [equal]
              exact .inl (List.getLast_mem batch.nonempty)
            · have sees := safe.1 message stored same reviewable passed
              rw [stands] at passed
              exact activeSound.passed_by_batch recorded remaining place sees reviewable passed
        refine ⟨cursors.withActive run _, ?_⟩
        intro other same
        cases same
        refine ⟨runSound.current, ?_⟩
        intro next member
        unfold Reviewer.nextBatches at member
        split_ifs at member
        · cases member
        · cases member
          refine ⟨activeSound.selected, activeSound.messages,
            activeSound.distinct, activeSound.origin, done ++ [batch], ?_, ?_⟩
          · rw [place, remaining]
            simp
          · rw [cursorAfter_append]
            exact Dict.get?_insert_self _ _ _

theorem passEmpty_sound (recorded : Recorded system)
    (sound : ReviewerSound system refresh tokenLimit reviewer) (safe :
      ∀ active ∈ reviewer.active, ∀ cursor ∈ active.selection.advanceCursor,
        MovesSoundly system reviewer active cursor)
    (passed : reviewer.passEmpty = some target) :
    ReviewerSound system refresh tokenLimit target := by
  unfold Reviewer.passEmpty at passed
  split at passed
  case h_2 => cases passed
  case h_1 run running =>
    split at passed
    case h_2 => cases passed
    case h_1 active window =>
      split_ifs at passed with empty
      have runSound := sound.run run running
      have activeSound := runSound.active active window
      have safe := safe active
        (by rw [Reviewer.active, running]; exact window)
      have stands :
          reviewer.cursors.get? active.sessionId = active.before := by
        rcases activeSound.place with ⟨done, place, stands⟩
        rw [empty, eq_comm, List.append_eq_nil_iff] at place
        rw [place.1] at stands
        exact stands
      split at passed
      case h_1 none =>
        cases passed
        exact ReviewerSound.leave run sound.cursors runSound.current
      case h_2 cursor advance =>
        cases passed
        refine ReviewerSound.leave run ?_ runSound.current
        have safe := safe cursor advance
        rcases activeSound.selects.advance empty with same | ⟨newest, unread, moved⟩
        · rw [advance] at same
          refine advanceCursor_sound run [] sound.cursors
            (activeSound.origin cursor same.symm) ?_ (by simp) List.nodup_nil
            ?_ safe.2
          · intro previous stood
            rw [stands, ← same] at stood
            cases stood
            exact Precedes.refl _
          · intro message _ _ _ passes
            rw [stands, ← same] at passes
            exact absurd passes.1 (passes.2 cursor rfl)
        · rw [advance] at moved
          cases moved
          have created := activeSound.of_unread unread
          have ahead := activeSound.behind_before recorded unread
          have nothing : active.selection.messages = [] := by
            rw [ReviewSelection.messages, empty]
            rfl
          have skipped := activeSound.selects.complete
          rw [nothing] at skipped
          refine advanceCursor_sound run [] sound.cursors
            ⟨newest, created.1, created.2.1, created.2.2.1, rfl⟩ ?_ (by simp)
            List.nodup_nil ?_ safe.2
          · intro previous stood
            rw [stands] at stood
            exact precedes_of_not (ahead previous stood)
          · intro message member same reviewable passes
            rcases List.mem_append.mp member with waiting | stored
            · have own := safe.2 message waiting same reviewable passes.1
              have equal := recorded.eq_of_id
                (recorded.created message member) created.1 own
              rw [equal]
              exact skipped newest unread
            · have sees := safe.1 message stored same reviewable passes
              rw [stands] at passes
              have present : message.createdAt ≤ run.now := by
                rcases passes.1 with less | ⟨atOnce, _⟩
                · exact (le_of_lt less).trans created.2.2.2
                · exact atOnce.le.trans created.2.2.2
              exact skipped message
                (activeSound.unread_of_sees recorded sees reviewable present passes.2)

theorem Recorded.stored_distinct (recorded : Recorded system) :
    (system.stored.map ReviewMessage.id).Nodup := by
  refine List.Nodup.map_on ?_ (List.nodup_append.mp recorded.once).2.1
  intro left leftMember right rightMember same
  exact recorded.eq_of_id (recorded.created left (List.mem_append_right _ leftMember))
    (recorded.created right (List.mem_append_right _ rightMember)) same

theorem messagesFor_spec (recorded : Recorded system) (sessionId : String)
    {current : Option ReviewMessage}
    (created : ∀ message ∈ current, message ∈ system.created) :
    (∀ message ∈ system.messagesFor sessionId current,
        message ∈ system.created ∧ message.sessionId = sessionId) ∧
      ((system.messagesFor sessionId current).map ReviewMessage.id).Nodup := by
  have members : ∀ message ∈ system.stored.filter
      (fun message => message.sessionId = sessionId),
      message ∈ system.created ∧ message.sessionId = sessionId := by
    intro message member
    rw [List.mem_filter, decide_eq_true_iff] at member
    exact ⟨recorded.created message (List.mem_append_right _ member.1), member.2⟩
  have distinct : ((system.stored.filter
      (fun message => message.sessionId = sessionId)).map ReviewMessage.id).Nodup :=
    recorded.stored_distinct.sublist (List.filter_sublist.map _)
  unfold ReviewSystem.messagesFor
  cases current with
  | none => exact ⟨members, distinct⟩
  | some current =>
    dsimp only
    split_ifs with fresh
    · refine ⟨?_, ?_⟩
      · intro message member
        rcases List.mem_append.mp member with old | new
        · exact members message old
        · rw [List.mem_singleton] at new
          subst message
          exact ⟨created current rfl, fresh.1⟩
      · rw [List.map_append, List.nodup_append]
        refine ⟨distinct, by simp, ?_⟩
        intro left leftMember right rightMember same
        rcases List.mem_map.mp leftMember with ⟨message, old, rfl⟩
        rw [List.map_singleton, List.mem_singleton] at rightMember
        exact fresh.2 message old (same.trans rightMember)
    · exact ⟨members, distinct⟩

theorem select_sound (recorded : Recorded system)
    (sound : ReviewerSound system refresh tokenLimit reviewer)
    (selected : reviewer.select system refresh tokenLimit = some target) :
    ReviewerSound system refresh tokenLimit target := by
  unfold Reviewer.select at selected
  split at selected
  case h_2 => cases selected
  case h_1 now current sessionId sessions running =>
    have runSound := sound.run _ running
    dsimp only at selected
    split at selected
    case h_2 =>
      cases selected
      exact sound.stop
    case h_1 selection window =>
      cases selected
      refine ⟨sound.cursors.withActive _ _, ?_⟩
      intro run same
      cases same
      refine ⟨runSound.current, ?_⟩
      rintro active ⟨⟩
      have read := messagesFor_spec recorded sessionId runSound.current
      exact ⟨window, read.1, read.2, sound.cursors.origin sessionId, [], rfl, rfl⟩

theorem batchFailed_sound (sound : ReviewerSound system refresh tokenLimit reviewer)
    (failed : reviewer.batchFailed = some target) :
    ReviewerSound system refresh tokenLimit target := by
  unfold Reviewer.batchFailed at failed
  split at failed
  case h_2 => cases failed
  case h_1 run running =>
    split at failed
    case h_2 => cases failed
    case h_1 =>
      split_ifs at failed
      cases failed
      exact ReviewerSound.leave run sound.cursors (sound.run run running).current

theorem start_sound {now : Nat} {sessions : List String}
    {current : Option ReviewMessage}
    (sound : ReviewerSound system refresh tokenLimit reviewer)
    (created : ∀ message ∈ current, message ∈ system.created)
    (started : reviewer.start now sessions current = some target) :
    ReviewerSound system refresh tokenLimit target := by
  unfold Reviewer.start at started
  split_ifs at started
  cases started
  exact ReviewerSound.leave ⟨now, current, sessions, none⟩ sound.cursors created

theorem setReviewer_messages (system : ReviewSystem) (reviewing : Reviewing) (reviewer : Reviewer) :
    (system.setReviewer reviewing reviewer).created = system.created ∧
      (system.setReviewer reviewing reviewer).unsaved = system.unsaved ∧
      (system.setReviewer reviewing reviewer).stored = system.stored := by
  cases reviewing <;> exact ⟨rfl, rfl, rfl⟩

theorem reviewer_setReviewer (system : ReviewSystem) (reviewing other : Reviewing)
    (reviewer : Reviewer) :
    (system.setReviewer reviewing reviewer).reviewer other =
      if other = reviewing then reviewer else system.reviewer other := by
  cases reviewing <;> cases other <;> rfl

theorem ReviewsSound.onReviewer {settings : ReviewSettings}
    {target : ReviewSystem} {reviewing : Reviewing}
    {action : Reviewer → Option Reviewer}
    (sound : ReviewsSound settings system) (keeps :
      ∀ after, action (system.reviewer reviewing) = some after →
        ReviewerSound system (settings.refresh reviewing) settings.tokenLimit after)
    (stepped : system.onReviewer reviewing action = some target) :
    ReviewsSound settings target := by
  rcases Option.map_eq_some_iff.mp stepped with ⟨after, acted, rfl⟩
  rcases setReviewer_messages system reviewing after with ⟨created, unsaved, stored⟩
  refine ⟨⟨?_, ?_, ?_⟩, ?_⟩
  · rw [created]
    exact sound.recorded.distinct
  · rw [created, unsaved, stored]
    exact sound.recorded.created
  · rw [unsaved, stored]
    exact sound.recorded.once
  · intro other
    rw [reviewer_setReviewer]
    split_ifs with same
    · rw [same]
      refine (keeps after acted).of_messages ?_ ?_ ?_
      · rw [created]
        exact fun _ => id
      · rw [unsaved, stored]
        exact fun _ => .inl
      · rw [unsaved]
        exact fun _ => .inl
    · refine (sound.reviewer other).of_messages ?_ ?_ ?_
      · rw [created]
        exact fun _ => id
      · rw [unsaved, stored]
        exact fun _ => .inl
      · rw [unsaved]
        exact fun _ => .inl

theorem save_perm {unsaved : List ReviewMessage} (stored : List ReviewMessage)
    (member : message ∈ unsaved) :
    (unsaved.erase message ++ (stored ++ [message])).Perm (unsaved ++ stored) := by
  have moved : (unsaved.erase message ++ (stored ++ [message])).Perm
      (message :: (unsaved.erase message ++ stored)) := by
    rw [← List.append_assoc]
    exact List.perm_append_singleton _ _
  exact moved.trans ((List.perm_cons_erase member).symm.append_right stored)

theorem reviewStep_sound {settings : ReviewSettings} {target : ReviewSystem}
    {event : ReviewEvent} (sound : ReviewsSound settings system)
    (keeps : KeepsOrder system event)
    (stepped : system.step settings event = some target) :
    ReviewsSound settings target := by
  have recorded := sound.recorded
  cases event with
  | create message =>
    cases stepped
    rcases keeps with ⟨fresh, breakbeat, dream⟩
    have behind : ∀ reviewing, message.Behind (system.reviewer reviewing) := by
      rintro (_ | _)
      · exact breakbeat
      · exact dream
    have absent : message ∉ system.unsaved ++ system.stored :=
      fun member => fresh (List.mem_map_of_mem (recorded.created message member))
    refine ⟨⟨?_, ?_, ?_⟩, ?_⟩
    · exact List.nodup_cons.mpr ⟨fresh, recorded.distinct⟩
    · intro other member
      rcases List.mem_cons.mp member with rfl | old
      · exact List.mem_cons_self
      · exact List.mem_cons_of_mem _ (recorded.created other old)
    · exact List.nodup_cons.mpr ⟨absent, recorded.once⟩
    · intro reviewing
      refine (sound.reviewer reviewing).of_messages ?_ ?_ ?_
      · exact fun _ => List.mem_cons_of_mem message
      · intro other member
        rcases List.mem_cons.mp member with rfl | old
        · exact .inr (behind reviewing)
        · exact .inl old
      · intro other member
        rcases List.mem_cons.mp member with rfl | old
        · exact .inr (behind reviewing)
        · exact .inl old
  | save message =>
    simp only [ReviewSystem.step] at stepped
    split_ifs at stepped with member
    cases stepped
    have moved := save_perm system.stored member
    refine ⟨⟨recorded.distinct, ?_, moved.nodup_iff.mpr recorded.once⟩, ?_⟩
    · exact fun other inside =>
        recorded.created other (moved.mem_iff.mp inside)
    · intro reviewing
      exact (sound.reviewer reviewing).of_messages (fun _ => id)
        (fun other inside => .inl (moved.mem_iff.mp inside))
        fun other inside => .inl (List.mem_of_mem_erase inside)
  | forget sessionId =>
    cases stepped
    have fewer : (system.unsaved ++ system.stored.filter fun message =>
        message.sessionId ≠ sessionId).Sublist (system.unsaved ++ system.stored) :=
      List.Sublist.append_left List.filter_sublist _
    refine ⟨⟨recorded.distinct, ?_, recorded.once.sublist fewer⟩, ?_⟩
    · exact fun other inside =>
        recorded.created other (fewer.subset inside)
    · intro reviewing
      exact (sound.reviewer reviewing).of_messages (fun _ => id)
        (fun other inside => .inl (fewer.subset inside)) fun _ => .inl
  | restart =>
    cases stepped
    have fewer : ([] ++ system.stored).Sublist
        (system.unsaved ++ system.stored) :=
      List.Sublist.append_right (List.nil_sublist _) _
    refine ⟨⟨recorded.distinct, ?_, recorded.once.sublist fewer⟩, ?_⟩
    · exact fun other inside =>
        recorded.created other (fewer.subset inside)
    · rintro (_ | _)
      · exact (sound.reviewer .breakbeat).stop.of_messages (fun _ => id)
          (fun other inside => .inl (fewer.subset inside)) (by simp)
      · exact (sound.reviewer .dream).stop.of_messages (fun _ => id)
          (fun other inside => .inl (fewer.subset inside)) (by simp)
  | start reviewing now sessions current =>
    simp only [ReviewSystem.step] at stepped
    split_ifs at stepped with waiting
    refine sound.onReviewer ?_ stepped
    intro after started
    refine start_sound (sound.reviewer reviewing) ?_ started
    exact fun message member => recorded.created message
      (List.mem_append_left _ (waiting message member))
  | select reviewing =>
    simp only [ReviewSystem.step] at stepped
    refine sound.onReviewer ?_ stepped
    exact fun _ => select_sound recorded (sound.reviewer reviewing)
  | passEmpty reviewing =>
    exact sound.onReviewer (fun _ => passEmpty_sound recorded (sound.reviewer reviewing) keeps)
      stepped
  | batchReviewed reviewing =>
    exact sound.onReviewer (fun _ =>
        batchReviewed_sound recorded (sound.reviewer reviewing) keeps)
      stepped
  | batchFailed reviewing =>
    exact sound.onReviewer (fun _ => batchFailed_sound (sound.reviewer reviewing)) stepped
  | stop reviewing =>
    simp only [ReviewSystem.step] at stepped
    refine sound.onReviewer ?_ stepped
    rintro after ⟨⟩
    exact (sound.reviewer reviewing).stop

theorem fresh_reviewerSound (system : ReviewSystem) (refresh limit : Nat) :
    ReviewerSound system refresh limit .fresh :=
  ⟨⟨by rintro sessionId cursor ⟨⟩, by rintro message _ cursor ⟨⟩,
      by rintro message _ cursor ⟨⟩, by rintro message ⟨⟩, List.nodup_nil⟩,
    by rintro run ⟨⟩⟩

/--
In every run that meets the condition, each stored message at or before a
cursor of either service was reviewed or was too old for a window whose cursor
was not fresh, no message still to be stored lies behind a cursor, and no
message is in two successful reviews.
-/
theorem reviewRuns_cursorSound
    {settings : ReviewSettings} {system : ReviewSystem}
    (reached : (reviewMachine settings).Reaches KeepsOrder system)
    (reviewing : Reviewing) : CursorSound settings system reviewing := by
  have sound : ReviewsSound settings system := by
    refine reached.invariant ?_ ?_
    · rintro _ rfl
      refine ⟨⟨List.nodup_nil, by simp, List.nodup_nil⟩, ?_⟩
      rintro (_ | _)
      · exact fresh_reviewerSound _ _ _
      · exact fresh_reviewerSound _ _ _
    · intro earlier event target _ sound keeps stepped
      exact reviewStep_sound sound keeps stepped
  have cursors := (sound.reviewer reviewing).cursors
  refine ⟨?_, ?_, cursors.once⟩
  · rintro sessionId cursor found message member rfl reviewable before
    exact cursors.covered message (List.mem_append_right _ member) cursor found reviewable before
  · rintro sessionId cursor found message member rfl reviewable before
    exact cursors.ahead message member cursor found reviewable before

/-- A window of ten moments, and batches of at most ten tokens. -/
def smallSettings : ReviewSettings where
  refresh _ := 10
  tokenLimit := 10

/-- A message of one token in the session `s`. -/
def smallMessage (id role : String) (createdAt : Nat) : ReviewMessage where
  id := id
  sessionId := "s"
  role := role
  tokenCount := 1
  createdAt := createdAt

/-- A turn is asked at one and answered at three, and asked again at two. -/
def queuedQuestion : List ReviewEvent :=
  [.create (smallMessage "a" "user" 1), .create (smallMessage "c" "user" 2),
    .save (smallMessage "a" "user" 1),
    .create (smallMessage "b" "assistant" 3),
    .save (smallMessage "b" "assistant" 3)]

/-- A review before the queued question is stored leaves it behind. -/
theorem queued_question_never_reviewed : ∃ system,
      (reviewMachine smallSettings).run ⟨[], [], [], .fresh, .fresh⟩ (queuedQuestion ++
            [.start .breakbeat 4 ["s"] none, .select .breakbeat, .batchReviewed .breakbeat,
              .save (smallMessage "c" "user" 2)]) = some system ∧
        ¬ CursorSound smallSettings system .breakbeat := by
  refine ⟨_, rfl, fun sound => ?_⟩
  have covered := sound.covered "s" ⟨"b", 3⟩ (by rfl)
    (smallMessage "c" "user" 2) (by decide) rfl (by decide) (by decide)
  rcases covered with reviewed | ⟨move, member, _, _, _, _, old⟩
  · exact absurd reviewed (by decide)
  · have windows : ∀ move ∈ [(⟨"s", 4, none, none, ⟨"b", 3⟩⟩ : CursorMove)],
        move.now - 10 ≤ 0 := by decide
    exact absurd (windows move member) (by
      have created : 2 < move.now - 10 := old
      omega)

/-- A review after it is stored covers it. -/
theorem stored_question_reviewed : ∃ system,
      (reviewMachine smallSettings).run ⟨[], [], [], .fresh, .fresh⟩
          (queuedQuestion ++ [.save (smallMessage "c" "user" 2),
              .start .breakbeat 4 ["s"] none, .select .breakbeat,
              .batchReviewed .breakbeat]) = some system ∧
        smallMessage "c" "user" 2 ∈ system.breakbeat.reviewed ∧
        CursorSound smallSettings system .breakbeat := by
  refine ⟨_, rfl, by decide, ?_⟩
  have evaluated :
      (reviewMachine smallSettings).runGuarded KeepsOrder ⟨[], [], [], .fresh, .fresh⟩
          (queuedQuestion ++ [.save (smallMessage "c" "user" 2),
              .start .breakbeat 4 ["s"] none, .select .breakbeat,
              .batchReviewed .breakbeat]) = some _ := rfl
  exact reviewRuns_cursorSound (.runGuarded (.start rfl) evaluated) .breakbeat

end TurningGood.Proactive
