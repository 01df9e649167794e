import Mathlib.Algebra.GroupWithZero.Nat
import TurningGood.Foundation.Positions

/-!
# The review window

A review reads a frozen list of messages and a cursor, which is the position
of a message in the order of creation and id.  It takes the messages behind
the cursor, leaves out those before the refresh window when the cursor itself
is older than that window, and packs the rest into batches within a token
limit.
-/

namespace TurningGood.Proactive

open TurningGood.Foundation

variable {tokenLimit : Nat}

/-! ## Messages and cursors -/

/-- A `MessageRecord`, with its time in microseconds of UTC. -/
structure ReviewMessage where
  id : String
  sessionId : String
  role : String
  tokenCount : Nat
  createdAt : Nat
  deriving DecidableEq, Repr

/-- `ReviewCursor`. -/
structure ReviewCursor where
  messageId : String
  createdAt : Nat
  deriving DecidableEq, Repr

/-- Where a cursor stands among the messages. -/
def ReviewCursor.position (cursor : ReviewCursor) : Nat × String :=
  (cursor.createdAt, cursor.messageId)

namespace ReviewMessage

/-- The messages of the user and of the assistant are reviewed. -/
def Reviewable (message : ReviewMessage) : Prop :=
  message.role = "user" ∨ message.role = "assistant"

instance (message : ReviewMessage) : Decidable message.Reviewable :=
  inferInstanceAs (Decidable (_ ∨ _))

/-- The key by which messages are sorted. -/
def position (message : ReviewMessage) : Nat × String := (message.createdAt, message.id)

/-- `_cursor_for`. -/
def cursorFor (message : ReviewMessage) : ReviewCursor where
  messageId := message.id
  createdAt := message.createdAt

/-- The message lies at or before a cursor. -/
def AtOrBefore (message : ReviewMessage) (cursor : ReviewCursor) : Prop :=
  Precedes message.position cursor.position

instance (message : ReviewMessage) (cursor : ReviewCursor) :
    Decidable (message.AtOrBefore cursor) :=
  inferInstanceAs (Decidable (Precedes _ _))

end ReviewMessage

/-- `ReviewBatch`, which is never empty. -/
structure ReviewBatch where
  messages : List ReviewMessage
  nonempty : messages ≠ []
  deriving DecidableEq

/-- The cursor behind a batch. -/
def ReviewBatch.cursor (batch : ReviewBatch) : ReviewCursor :=
  (batch.messages.getLast batch.nonempty).cursorFor

/-- `ReviewSelection`. -/
structure ReviewSelection where
  batches : List ReviewBatch
  advanceCursor : Option ReviewCursor
  skippedBefore : Bool
  deriving DecidableEq

/-- The messages of all batches. -/
def ReviewSelection.messages (selection : ReviewSelection) :
    List ReviewMessage :=
  selection.batches.flatMap ReviewBatch.messages

/-! ## Selection -/

/-- The batch of the messages collected so far, if there are any. -/
def closeBatch (current : List ReviewMessage) : List ReviewBatch :=
  if nonempty : current ≠ [] then [⟨current, nonempty⟩] else []

/-- The loop of `_batches`. -/
def batchesLoop (tokenLimit : Nat) :
    List ReviewMessage → List ReviewBatch → List ReviewMessage → Nat →
      Except String (List ReviewBatch)
  | [], batches, current, _ => .ok (batches ++ closeBatch current)
  | record :: rest, batches, current, currentTokens =>
    if tokenLimit < record.tokenCount then
      .error "单条消息超过主动审阅 token 上限"
    else if current ≠ [] ∧
        tokenLimit < currentTokens + record.tokenCount then
      batchesLoop tokenLimit rest (batches ++ closeBatch current) [record] record.tokenCount
    else
      batchesLoop tokenLimit rest batches (current ++ [record]) (currentTokens + record.tokenCount)

/-- `_batches`. -/
def batches (messages : List ReviewMessage) (tokenLimit : Nat) :
    Except String (List ReviewBatch) :=
  batchesLoop tokenLimit messages [] [] 0

/-- `_first_at_or_after`. -/
def firstAtOrAfter (messages : List ReviewMessage) (threshold : Nat) (strict : Bool) :
    Nat :=
  messages.findIdx fun record =>
    if strict then
      decide (threshold < record.createdAt)
    else
      decide (threshold ≤ record.createdAt)

/-- `_unread_start`. -/
def unreadStart (messages : List ReviewMessage) (cursor : Option ReviewCursor) : Nat :=
  match cursor with
  | none => 0
  | some cursor =>
    match messages.findIdx? fun record => record.id == cursor.messageId with
    | some index => index + 1
    | none => firstAtOrAfter messages cursor.createdAt true

/-- The messages that a review at a moment may read, in their order. -/
def reviewSource (messages : List ReviewMessage) (now : Nat) :
    List ReviewMessage :=
  (messages.filter fun record =>
    decide (record.Reviewable ∧ record.createdAt ≤ now)).insertionSort
      fun left right => Precedes left.position right.position

/-- The cursor is not older than the refresh window. -/
def cursorIsFresh (cursor : Option ReviewCursor) (now refresh : Nat) : Bool :=
  match cursor with
  | none => false
  | some cursor => decide (now - refresh ≤ cursor.createdAt)

/-- The index from which a review selects. -/
def selectedStart (source : List ReviewMessage) (cursor : Option ReviewCursor)
    (now refresh : Nat) : Nat :=
  if cursorIsFresh cursor now refresh then
    unreadStart source cursor
  else
    max (unreadStart source cursor) (firstAtOrAfter source (now - refresh) false)

/-- `select_review_window`. -/
def selectReviewWindow (messages : List ReviewMessage) (cursor : Option ReviewCursor)
    (now refresh tokenLimit : Nat) : Except String ReviewSelection :=
  if tokenLimit = 0 then
    .error "token_limit 必须大于 0"
  else if refresh = 0 then
    .error "refresh 必须大于 0"
  else
    let source := reviewSource messages now
    match source.getLast? with
    | none => .ok ⟨[], cursor, false⟩
    | some newest =>
      if source.length ≤ unreadStart source cursor then
        .ok ⟨[], cursor, false⟩
      else
        let start := selectedStart source cursor now refresh
        let skippedBefore := decide (unreadStart source cursor < start)
        let selected := source.drop start
        match selected.getLast? with
        | none =>
          .ok ⟨[], some newest.cursorFor, !cursorIsFresh cursor now refresh⟩
        | some last => do
          let batches ← batches selected tokenLimit
          let advanceRecord := if skippedBefore then newest else last
          return ⟨batches, some advanceRecord.cursorFor, skippedBefore⟩

theorem closeBatch_messages (current : List ReviewMessage) :
    (closeBatch current).flatMap ReviewBatch.messages = current := by
  unfold closeBatch
  split_ifs with empty
  · simp
  · rw [not_not] at empty
    rw [empty]
    rfl

/-- The tokens of a list of messages. -/
def totalTokens (messages : List ReviewMessage) : Nat := (messages.map ReviewMessage.tokenCount).sum

theorem closeBatch_within {current : List ReviewMessage}
    (within : totalTokens current ≤ tokenLimit) :
    ∀ batch ∈ closeBatch current,
      totalTokens batch.messages ≤ tokenLimit := by
  unfold closeBatch
  split_ifs
  · simpa using within
  · simp

variable {messages : List ReviewMessage}

theorem batchesLoop_eq_ok {closed packed : List ReviewBatch}
    {current : List ReviewMessage} {currentTokens : Nat}
    (counted : currentTokens = totalTokens current)
    (fits : currentTokens ≤ tokenLimit)
    (within : ∀ batch ∈ closed, totalTokens batch.messages ≤ tokenLimit)
    (finished : batchesLoop tokenLimit messages closed current currentTokens = .ok packed) :
    packed.flatMap ReviewBatch.messages =
        closed.flatMap ReviewBatch.messages ++ (current ++ messages) ∧
      ∀ batch ∈ packed, totalTokens batch.messages ≤ tokenLimit := by
  induction messages generalizing closed current currentTokens with
  | nil =>
    cases finished
    rw [counted] at fits
    refine ⟨?_, ?_⟩
    · rw [List.flatMap_append, closeBatch_messages, List.append_nil]
    · intro batch member
      rcases List.mem_append.mp member with old | new
      · exact within batch old
      · exact closeBatch_within fits batch new
  | cons record rest induction =>
    simp only [batchesLoop] at finished
    split_ifs at finished with large full
    · rw [counted] at fits
      have others := induction (by simp [totalTokens]) (by omega)
        (by
          intro batch member
          rcases List.mem_append.mp member with old | new
          · exact within batch old
          · exact closeBatch_within fits batch new)
        finished
      refine ⟨?_, others.2⟩
      rw [others.1, List.flatMap_append, closeBatch_messages]
      simp
    · have room : currentTokens + record.tokenCount ≤ tokenLimit := by
        rw [not_and_or, not_not] at full
        rcases full with empty | small
        · rw [empty] at counted
          rw [counted]
          simp only [totalTokens, List.map_nil, List.sum_nil]
          omega
        · omega
      have others := induction (by simp [totalTokens, counted]) room
        within finished
      refine ⟨?_, others.2⟩
      rw [others.1]
      simp

theorem batches_eq_ok {packed : List ReviewBatch}
    (finished : batches messages tokenLimit = .ok packed) :
    packed.flatMap ReviewBatch.messages = messages ∧
      ∀ batch ∈ packed, totalTokens batch.messages ≤ tokenLimit := by
  have spec := batchesLoop_eq_ok (by rfl) (Nat.zero_le _) (by simp) finished
  simpa using spec

/-! ## The source of a review -/

/-- Sorted by position, and no two messages at one position. -/
def Ordered (messages : List ReviewMessage) : Prop := messages.Pairwise fun left right =>
    Precedes left.position right.position ∧ ¬ Precedes right.position left.position

theorem mem_reviewSource_iff {now : Nat} {record : ReviewMessage} :
    record ∈ reviewSource messages now ↔
      record ∈ messages ∧ record.Reviewable ∧ record.createdAt ≤ now := by
  unfold reviewSource
  rw [(List.perm_insertionSort _ _).mem_iff, List.mem_filter, decide_eq_true_iff]

instance : Std.Total fun left right : ReviewMessage =>
    Precedes left.position right.position :=
  ⟨fun left right =>
    (inferInstance : Std.Total Precedes).total left.position right.position⟩

instance : IsTrans ReviewMessage fun left right =>
    Precedes left.position right.position :=
  ⟨fun _ _ _ => Precedes.trans⟩

theorem reviewSource_ordered (now : Nat) (distinct : (messages.map ReviewMessage.id).Nodup) :
    Ordered (reviewSource messages now) := by
  have sorted := List.pairwise_insertionSort
    (fun left right : ReviewMessage =>
      Precedes left.position right.position)
    (messages.filter fun record =>
      decide (record.Reviewable ∧ record.createdAt ≤ now))
  have ids : ((reviewSource messages now).map ReviewMessage.id).Nodup := by
    unfold reviewSource
    rw [((List.perm_insertionSort _ _).map _).nodup_iff]
    exact distinct.sublist (List.filter_sublist.map _)
  rw [List.Nodup, List.pairwise_map] at ids
  refine (sorted.and ids).imp ?_
  rintro left right ⟨before, different⟩
  refine ⟨before, fun after => different ?_⟩
  exact congrArg Prod.snd (before.antisymm after)

/-- The messages from the first unread one on. -/
def unread (source : List ReviewMessage) (cursor : Option ReviewCursor) :
    List ReviewMessage :=
  source.drop (unreadStart source cursor)

/-- The cursor can be told apart from the message at its time. -/
def Locates (source : List ReviewMessage) (cursor : ReviewCursor)
    (message : ReviewMessage) : Prop :=
  (∃ record ∈ source, record.id = cursor.messageId) ∨ message.createdAt ≠ cursor.createdAt

variable {source : List ReviewMessage}

theorem Ordered.of_split {before after : List ReviewMessage}
    {record : ReviewMessage} (ordered : Ordered source)
    (split : source = before ++ record :: after) :
    (∀ earlier ∈ before, Precedes earlier.position record.position) ∧
      ∀ later ∈ after, ¬ Precedes later.position record.position := by
  rw [Ordered, split, List.pairwise_append, List.pairwise_cons] at ordered
  exact ⟨fun earlier member =>
      (ordered.2.2 earlier member record List.mem_cons_self).1,
    fun later member => (ordered.2.1.1 later member).2⟩

variable {cursor : ReviewCursor}

theorem unread_of_found {index : Nat} (ordered : Ordered source) (origin :
      ∀ record ∈ source, record.id = cursor.messageId →
        record.createdAt = cursor.createdAt) (found :
      source.findIdx? (fun record => record.id == cursor.messageId) = some index) :
    ∀ message ∈ source,
      message ∈ source.drop (index + 1) ↔ ¬ message.AtOrBefore cursor := by
  rcases drop_succ_of_findIdx? found with ⟨before, record, split, hit⟩
  rw [beq_iff_eq] at hit
  have present : record ∈ source := by
    rw [split]
    exact List.mem_append_right _ List.mem_cons_self
  have place : record.position = cursor.position := by
    rw [ReviewMessage.position, hit, origin record present hit]
    rfl
  have sides := ordered.of_split split
  rw [place] at sides
  intro message member
  constructor
  · exact sides.2 message
  · intro later
    rw [split, List.mem_append, List.mem_cons] at member
    rcases member with early | same | late
    · exact absurd (sides.1 message early) later
    · refine absurd ?_ later
      rw [same, ReviewMessage.AtOrBefore, place]
      exact Precedes.refl _
    · exact late

theorem unread_of_missing (ordered : Ordered source) : ∀ message ∈ source,
      message ∈ source.drop (firstAtOrAfter source cursor.createdAt true) ↔
        cursor.createdAt < message.createdAt := by
  have selected := drop_findIdx_eq_filter
    (fun record => decide (cursor.createdAt < record.createdAt)) ordered
    (by
      intro earlier later before passes
      rw [decide_eq_true_iff] at passes ⊢
      rcases before.1 with less | ⟨same, _⟩
      · exact passes.trans less
      · have equal : earlier.createdAt = later.createdAt := same
        omega)
  intro message member
  unfold firstAtOrAfter
  simp only [if_true, selected, List.mem_filter, member, true_and, decide_eq_true_iff]

theorem not_atOrBefore_of_unread (ordered : Ordered source) (origin :
      ∀ record ∈ source, record.id = cursor.messageId →
        record.createdAt = cursor.createdAt) {message : ReviewMessage}
    (member : message ∈ unread source (some cursor)) :
    ¬ message.AtOrBefore cursor := by
  have present := List.mem_of_mem_drop member
  unfold unread unreadStart at member
  cases found : source.findIdx? (fun record => record.id == cursor.messageId) with
  | some index =>
    simp only [found] at member
    exact (unread_of_found ordered origin found message present).mp member
  | none =>
    simp only [found] at member
    have later := (unread_of_missing ordered message present).mp member
    rintro (less | ⟨same, _⟩)
    · exact Nat.lt_asymm later less
    · exact Nat.ne_of_gt later same

theorem mem_unread (ordered : Ordered source) (origin :
      ∀ record ∈ source, record.id = cursor.messageId →
        record.createdAt = cursor.createdAt) {message : ReviewMessage}
    (member : message ∈ source) (locates : Locates source cursor message)
    (later : ¬ message.AtOrBefore cursor) :
    message ∈ unread source (some cursor) := by
  unfold unread unreadStart
  cases found : source.findIdx? (fun record => record.id == cursor.messageId) with
  | some index =>
    simp only [found]
    exact (unread_of_found ordered origin found message member).mpr later
  | none =>
    simp only [found]
    refine (unread_of_missing ordered message member).mpr ?_
    rcases locates with ⟨record, present, same⟩ | different
    · rw [List.findIdx?_eq_none_iff] at found
      exact absurd (found record present) (by simp [same])
    · rcases Nat.lt_trichotomy message.createdAt cursor.createdAt with less | equal | more
      · exact absurd (.inl less) later
      · exact absurd equal different
      · exact more

/-- A selection takes all unread messages but those it may skip. -/
structure Selects
    (messages : List ReviewMessage) (cursor : Option ReviewCursor)
    (now refresh tokenLimit : Nat) (selection : ReviewSelection) : Prop where
  suffix : selection.messages <:+ unread (reviewSource messages now) cursor
  complete : ∀ message ∈ unread (reviewSource messages now) cursor,
      message ∈ selection.messages ∨ (cursorIsFresh cursor now refresh = false ∧
          message.createdAt < now - refresh)
  within : ∀ batch ∈ selection.batches, totalTokens batch.messages ≤ tokenLimit
  advance : selection.batches = [] → selection.advanceCursor = cursor ∨
        ∃ newest ∈ unread (reviewSource messages now) cursor,
          selection.advanceCursor = some newest.cursorFor

theorem mem_firstAtOrAfter (ordered : Ordered source) (threshold : Nat) :
    ∀ message ∈ source, message ∈ source.drop (firstAtOrAfter source threshold false) ↔
        threshold ≤ message.createdAt := by
  have selected := drop_findIdx_eq_filter
    (fun record => decide (threshold ≤ record.createdAt)) ordered
    (by
      intro earlier later before passes
      rw [decide_eq_true_iff] at passes ⊢
      rcases before.1 with less | ⟨same, _⟩
      · exact passes.trans (le_of_lt less)
      · have equal : earlier.createdAt = later.createdAt := same
        omega)
  intro message member
  unfold firstAtOrAfter
  simp only [Bool.false_eq_true, if_false, selected, List.mem_filter, member,
    true_and, decide_eq_true_iff]

theorem selectedStart_spec (ordered : Ordered source)
    (cursor : Option ReviewCursor) (now refresh : Nat) :
    source.drop (selectedStart source cursor now refresh) <:+ unread source cursor ∧
      ∀ message ∈ unread source cursor,
        message ∈ source.drop (selectedStart source cursor now refresh) ∨
          (cursorIsFresh cursor now refresh = false ∧
            message.createdAt < now - refresh) := by
  unfold selectedStart
  split_ifs with fresh
  · exact ⟨List.suffix_refl _, fun message member => .inl member⟩
  · refine ⟨?_, fun message member => ?_⟩
    · exact List.drop_suffix_drop_left source (le_max_left _ _)
    · rw [mem_drop_max, mem_firstAtOrAfter ordered (now - refresh) message
        (List.mem_of_mem_drop member)]
      rcases Nat.lt_or_ge message.createdAt (now - refresh) with old | recent
      · exact .inr ⟨eq_false_of_ne_true fresh, old⟩
      · exact .inl ⟨member, recent⟩

theorem selectReviewWindow_selects {cursor : Option ReviewCursor}
    {now refresh : Nat} {selection : ReviewSelection}
    (distinct : (messages.map ReviewMessage.id).Nodup) (selected :
      selectReviewWindow messages cursor now refresh tokenLimit = .ok selection) :
    Selects messages cursor now refresh tokenLimit selection := by
  have ordered := reviewSource_ordered now distinct
  have spec := selectedStart_spec ordered cursor now refresh
  unfold selectReviewWindow at selected
  split_ifs at selected
  dsimp only at selected
  split at selected
  case h_1 none =>
    cases selected
    rw [List.getLast?_eq_none_iff] at none
    have nothing : unread (reviewSource messages now) cursor = [] := by
      rw [unread, none, List.drop_nil]
    refine ⟨List.nil_suffix, ?_, by simp, fun _ => .inl rfl⟩
    rw [nothing]
    simp
  case h_2 newest last =>
    by_cases allRead : (reviewSource messages now).length ≤
          unreadStart (reviewSource messages now) cursor
    · rw [if_pos allRead] at selected
      cases selected
      have nothing : unread (reviewSource messages now) cursor = [] :=
        List.drop_eq_nil_of_le allRead
      refine ⟨List.nil_suffix, ?_, by simp, fun _ => .inl rfl⟩
      rw [nothing]
      simp
    · have newestUnread :
          newest ∈ unread (reviewSource messages now) cursor := by
        refine List.mem_of_getLast? ?_
        rw [unread, List.getLast?_drop, if_neg allRead]
        exact last
      rw [if_neg allRead] at selected
      split at selected
      case h_1 none =>
        cases selected
        rw [List.getLast?_eq_none_iff] at none
        rw [none] at spec
        refine ⟨List.nil_suffix, ?_, by simp,
          fun _ => .inr ⟨newest, newestUnread, rfl⟩⟩
        intro message member
        exact spec.2 message member
      case h_2 record lastSelected =>
        cases packed : batches ((reviewSource messages now).drop
                (selectedStart (reviewSource messages now) cursor now refresh)) tokenLimit with
        | error error =>
          rw [packed] at selected
          cases selected
        | ok result =>
          rw [packed] at selected
          cases selected
          have whole := batches_eq_ok packed
          rw [← whole.1] at spec
          refine ⟨spec.1, spec.2, whole.2, ?_⟩
          · intro empty
            dsimp only at empty
            rw [empty] at whole
            have none := whole.1.symm
            rw [List.flatMap_nil] at none
            rw [none] at lastSelected
            cases lastSelected

end TurningGood.Proactive
