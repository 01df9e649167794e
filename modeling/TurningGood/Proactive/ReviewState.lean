import TurningGood.Foundation.Fallible
import TurningGood.Foundation.Text
import TurningGood.Proactive.CronManager
import TurningGood.Proactive.ReviewCursor

/-!
# The snapshots of the reviewers

Breakbeat keeps its items, its cursors, the next run and its usage in one
file, and Dream keeps the same without items.  The texts are written as they
are; the reader strips them, and refuses those that are blank or too long.

Times are moments as elsewhere.  How a moment is written, and how a text is
read as a moment, is a parameter with what the reader relies on.
-/

namespace TurningGood.Proactive

open TurningGood.Foundation

/-! ## Texts -/

/-- Stripped, not blank, and not longer than `maximum`. -/
def ShortText (maximum : Nat) (text : String) : Prop :=
  Text.strip text = text ∧ text ≠ "" ∧ text.length ≤ maximum

instance (maximum : Nat) (text : String) :
    Decidable (ShortText maximum text) :=
  inferInstanceAs (Decidable (_ ∧ _ ∧ _))

/-- `_bounded_text`, for a value that is a text. -/
def boundedText (value label : String) (maximum : Nat) :
    Except String String :=
  if Text.strip value = "" ∨ maximum < (Text.strip value).length then
    .error (label ++ " 无效")
  else
    .ok (Text.strip value)

theorem boundedText_eq_ok_iff
    {value label text : String} {maximum : Nat} :
    boundedText value label maximum = .ok text ↔
      Text.strip value = text ∧ ShortText maximum text := by
  simp only [boundedText, ShortText]
  split_ifs with refused
  · apply iff_of_false nofun
    rintro ⟨rfl, _, nonempty, short⟩
    rcases refused with blank | long
    · exact nonempty blank
    · omega
  · rw [not_or, Nat.not_lt] at refused
    rw [Except.ok.injEq]
    constructor
    · rintro rfl
      exact ⟨rfl, Text.strip_strip value, refused⟩
    · exact And.left

/-- `_deadline`, for a text or `None`. -/
def deadline (value : Option String) : Except String (Option String) :=
  match value with
  | none => .ok none
  | some text =>
    if Text.strip text = "" then .error "deadline 无效" else .ok (some text)

theorem deadline_eq_ok_iff {value loaded : Option String} : deadline value = .ok loaded ↔
      value = loaded ∧ ∀ text ∈ loaded, Text.strip text ≠ "" := by
  cases value with
  | none =>
    simp only [deadline, Except.ok.injEq]
    constructor
    · rintro rfl
      exact ⟨rfl, nofun⟩
    · exact And.left
  | some text =>
    simp only [deadline]
    split_ifs with blank
    · apply iff_of_false nofun
      rintro ⟨rfl, nonblank⟩
      exact nonblank text rfl blank
    · rw [Except.ok.injEq]
      constructor
      · rintro rfl
        refine ⟨rfl, ?_⟩
        intro found same
        cases same
        exact blank
      · exact And.left

/--
Moments and new ids as texts: `isoformat` in UTC, `fromisoformat` with
whether the text has an offset, `new_id`, and the key that `_todo_key` makes.
-/
structure ReviewTexts where
  /-- the moments are those before this one -/
  limit : Nat
  isoText : Nat → String
  readTime : String → Option (Nat × Bool)
  newId : Nat → String
  todoKey : String → String
  isoText_short : ∀ moment < limit, ShortText 100 (isoText moment)
  readTime_isoText : ∀ moment < limit, readTime (isoText moment) = some (moment, true)
  readTime_lt : ∀ text moment aware, readTime text = some (moment, aware) → moment < limit
  newId_short : ∀ draw, ShortText 200 (newId draw)

/-- `_next_run_at`, for a text or `None`. -/
def nextRunText (texts : ReviewTexts) (value : Option String) :
    Except String (Option String) :=
  match value with
  | none => .ok none
  | some text =>
    match texts.readTime text with
    | none => .error "Invalid isoformat string"
    | some (_, false) => .error "next_run_at 必须包含 UTC offset"
    | some (moment, true) => .ok (some (texts.isoText moment))

theorem nextRunText_isoText (texts : ReviewTexts) {moment : Nat} (inside : moment < texts.limit) :
    nextRunText texts (some (texts.isoText moment)) =
      .ok (some (texts.isoText moment)) := by
  simp only [nextRunText, texts.readTime_isoText moment inside]

theorem nextRunText_again {texts : ReviewTexts}
    {value loaded : Option String}
    (read : nextRunText texts value = .ok loaded) :
    nextRunText texts loaded = .ok loaded := by
  cases value with
  | none =>
    cases read
    rfl
  | some text =>
    simp only [nextRunText] at read
    cases time : texts.readTime text with
    | none => simp only [time, reduceCtorEq] at read
    | some found =>
      rcases found with ⟨moment, aware⟩
      cases aware with
      | false => simp only [time, reduceCtorEq] at read
      | true =>
        simp only [time, Except.ok.injEq] at read
        subst read
        exact nextRunText_isoText texts (texts.readTime_lt text moment true time)

/-! ## Snapshots -/

/-- `ReviewCursor`, with the time as it is written. -/
structure StoredCursor where
  messageId : String
  createdAt : String
deriving DecidableEq

/-- `BreakbeatItem`. -/
structure BreakbeatItem where
  id : String
  todo : String
  deadline : Option String
  sourceSessionId : String
  status : String
  createdAt : String
  updatedAt : String
deriving DecidableEq

/-- The state of a reviewer; Dream has no items. -/
structure ReviewState where
  items : List BreakbeatItem
  cursors : Dict String StoredCursor
  nextRunAt : Option String
  usage : UsageTotals
deriving DecidableEq

/-- A file with the fields of a snapshot, or with something else. -/
inductive SnapshotFile where
  | snapshot (state : ReviewState)
  | invalid

/-- `_default_state`. -/
def defaultState : ReviewState where
  items := []
  cursors := .empty
  nextRunAt := none
  usage := ⟨0, 0, 0, 0⟩

/-- The payload of `_save_state`. -/
def saveState (state : ReviewState) : SnapshotFile := .snapshot state

/-- `_cursor_from_dict`. -/
def cursorFromDict (cursor : StoredCursor) : Except String StoredCursor :=
  (boundedText cursor.messageId "message_id" 200).bind fun messageId =>
    (boundedText cursor.createdAt "created_at" 100).map fun createdAt =>
      ⟨messageId, createdAt⟩

/-- `_item_from_dict`. -/
def itemFromDict (item : BreakbeatItem) : Except String BreakbeatItem :=
  if item.status ≠ "in_progress" ∧ item.status ≠ "completed" then
    .error "Breakbeat status 无效"
  else
    (boundedText item.id "id" 200).bind fun id =>
      (boundedText item.todo "todo" 1000).bind fun todo =>
        (Proactive.deadline item.deadline).bind fun deadline =>
          (boundedText item.sourceSessionId "source_session_id" 200).bind fun sourceSessionId =>
              (boundedText item.createdAt "created_at" 100).bind fun createdAt =>
                  (boundedText item.updatedAt "updated_at" 100).map fun updatedAt =>
                      { id, todo, deadline, sourceSessionId,
                        status := item.status, createdAt, updatedAt }

/-- Load every entry; the first error is the result. -/
def loadAll {α β : Type} (load : α → Except String β) : List α → Except String (List β)
  | [] => .ok []
  | first :: rest =>
    (load first).bind fun loaded =>
      (loadAll load rest).map (loaded :: ·)

/-- The cursor of an entry as it is read, if it is. -/
def strippedCursor (cursor : StoredCursor) : StoredCursor where
  messageId := Text.strip cursor.messageId
  createdAt := Text.strip cursor.createdAt

/-- The cursors of a snapshot. -/
def loadCursors (cursors : Dict String StoredCursor) :
    Except String (Dict String StoredCursor) :=
  (loadAll cursorFromDict cursors.values).map fun _ =>
    cursors.mapValues strippedCursor

/-- `_state`. -/
def loadState (texts : ReviewTexts) (reviewing : Reviewing) :
    Option SnapshotFile → Except String ReviewState
  | none => .ok defaultState
  | some .invalid =>
    match reviewing with
    | .breakbeat => .error "breakbeat.json 必须是 object"
    | .dream => .error "dream.json 必须是 object"
  | some (.snapshot state) =>
    (nextRunText texts state.nextRunAt).bind fun nextRunAt =>
      (loadCursors state.cursors).bind fun cursors =>
        (loadAll itemFromDict state.items).map fun items =>
          { items, cursors, nextRunAt, usage := state.usage }

/-! ## What is read as it was written -/

/-- A cursor that the reader takes as it is. -/
def StoredCursor.Readable (cursor : StoredCursor) : Prop :=
  ShortText 200 cursor.messageId ∧ ShortText 100 cursor.createdAt

/-- An item that the reader takes as it is. -/
structure BreakbeatItem.Readable (item : BreakbeatItem) : Prop where
  status : item.status = "in_progress" ∨ item.status = "completed"
  id : ShortText 200 item.id
  todo : ShortText 1000 item.todo
  deadline : ∀ text ∈ item.deadline, Text.strip text ≠ ""
  sourceSessionId : ShortText 200 item.sourceSessionId
  createdAt : ShortText 100 item.createdAt
  updatedAt : ShortText 100 item.updatedAt

/-- A state that is read as it was written. -/
structure ReviewState.Readable (texts : ReviewTexts) (state : ReviewState) :
    Prop where
  items : ∀ item ∈ state.items, item.Readable
  cursors : ∀ cursor ∈ state.cursors.values, cursor.Readable
  nextRunAt : nextRunText texts state.nextRunAt = .ok state.nextRunAt

section Loading

theorem loadAll_eq_ok_iff {α β : Type} {load : α → Except String β}
    {entries : List α} {loaded : List β} :
    loadAll load entries = .ok loaded ↔ List.Forall₂ (fun entry result => load entry = .ok result)
        entries loaded := by
  induction entries generalizing loaded with
  | nil =>
    simp only [loadAll, Except.ok.injEq, List.forall₂_nil_left_iff]
    exact eq_comm
  | cons first rest induction =>
    simp only [loadAll, bind_eq_ok, map_eq_ok, induction, List.forall₂_cons_left_iff]
    constructor
    · rintro ⟨value, ended, others, each, rfl⟩
      exact ⟨value, others, ended, each, rfl⟩
    · rintro ⟨value, others, ended, each, rfl⟩
      exact ⟨value, ended, others, each, rfl⟩

theorem cursorFromDict_eq_ok_iff {cursor loaded : StoredCursor} :
    cursorFromDict cursor = .ok loaded ↔
      strippedCursor cursor = loaded ∧ loaded.Readable := by
  simp only [cursorFromDict, bind_eq_ok, map_eq_ok, boundedText_eq_ok_iff,
    strippedCursor, StoredCursor.Readable]
  constructor
  · rintro ⟨_, ⟨rfl, shortId⟩, _, ⟨rfl, shortTime⟩, rfl⟩
    exact ⟨rfl, shortId, shortTime⟩
  · rintro ⟨rfl, shortId, shortTime⟩
    exact ⟨_, ⟨rfl, shortId⟩, _, ⟨rfl, shortTime⟩, rfl⟩

theorem itemFromDict_readable {item loaded : BreakbeatItem}
    (ended : itemFromDict item = .ok loaded) : loaded.Readable := by
  simp only [itemFromDict] at ended
  split_ifs at ended with status
  simp only [bind_eq_ok, map_eq_ok, boundedText_eq_ok_iff, deadline_eq_ok_iff] at ended
  rcases ended with ⟨_, ⟨rfl, id⟩, _, ⟨rfl, todo⟩, _, ⟨rfl, deadline⟩, _,
    ⟨rfl, source⟩, _, ⟨rfl, created⟩, _, ⟨rfl, updated⟩, rfl⟩
  rw [not_and_or, not_not, not_not] at status
  exact ⟨status, id, todo, deadline, source, created, updated⟩

theorem itemFromDict_self_iff {item : BreakbeatItem} :
    itemFromDict item = .ok item ↔ item.Readable := by
  constructor
  · exact itemFromDict_readable
  · intro readable
    simp only [itemFromDict]
    rw [if_neg (by
      rw [not_and_or, not_not, not_not]
      exact readable.status)]
    simp only [bind_eq_ok, map_eq_ok, boundedText_eq_ok_iff, deadline_eq_ok_iff]
    exact ⟨_, ⟨readable.id.1, readable.id⟩, _,
      ⟨readable.todo.1, readable.todo⟩, _, ⟨rfl, readable.deadline⟩, _,
      ⟨readable.sourceSessionId.1, readable.sourceSessionId⟩, _,
      ⟨readable.createdAt.1, readable.createdAt⟩, _,
      ⟨readable.updatedAt.1, readable.updatedAt⟩, rfl⟩

theorem loadAll_self_iff {α : Type} {load : α → Except String α}
    {entries : List α} :
    loadAll load entries = .ok entries ↔ ∀ entry ∈ entries, load entry = .ok entry := by
  rw [loadAll_eq_ok_iff, List.forall₂_same]

variable {cursors : Dict String StoredCursor}

theorem loadCursors_eq_ok_iff {loaded : Dict String StoredCursor} :
    loadCursors cursors = .ok loaded ↔
      (∀ cursor ∈ cursors.values, (strippedCursor cursor).Readable) ∧
        cursors.mapValues strippedCursor = loaded := by
  simp only [loadCursors, map_eq_ok, loadAll_eq_ok_iff, cursorFromDict_eq_ok_iff]
  constructor
  · rintro ⟨results, each, rfl⟩
    refine ⟨?_, rfl⟩
    intro cursor member
    rcases List.getElem_of_mem member with ⟨index, inside, rfl⟩
    have found := each.get inside (each.length_eq ▸ inside)
    simp only [List.get_eq_getElem] at found
    rw [found.1]
    exact found.2
  · rintro ⟨readable, rfl⟩
    refine ⟨cursors.values.map strippedCursor, ?_, rfl⟩
    rw [List.forall₂_map_right_iff, List.forall₂_same]
    exact fun cursor member => ⟨rfl, readable cursor member⟩

theorem strippedCursor_of_readable {cursor : StoredCursor}
    (readable : cursor.Readable) : strippedCursor cursor = cursor := by
  rw [strippedCursor, readable.1.1, readable.2.1]

theorem loadCursors_self_iff : loadCursors cursors = .ok cursors ↔
      ∀ cursor ∈ cursors.values, cursor.Readable := by
  rw [loadCursors_eq_ok_iff]
  constructor
  · rintro ⟨readable, same⟩ cursor member
    rcases List.mem_map.mp member with ⟨entry, listed, rfl⟩
    have entries : cursors.entries.map
          (fun entry => (entry.1, strippedCursor entry.2)) =
        cursors.entries.map id := by
      rw [List.map_id]
      exact congrArg Dict.entries same
    have kept : strippedCursor entry.2 = entry.2 :=
      congrArg Prod.snd (List.map_inj_left.mp entries entry listed)
    rw [← kept]
    exact readable entry.2 member
  · intro readable
    have stripped : ∀ entry ∈ cursors.entries,
        (entry.1, strippedCursor entry.2) = entry := by
      intro entry listed
      rw [strippedCursor_of_readable (readable entry.2 (List.mem_map_of_mem listed))]
    constructor
    · intro cursor member
      rw [strippedCursor_of_readable (readable cursor member)]
      exact readable cursor member
    · apply Dict.ext
      exact (List.map_congr_left stripped).trans (List.map_id _)

theorem loadCursors_readable {loaded : Dict String StoredCursor}
    (ended : loadCursors cursors = .ok loaded) :
    ∀ cursor ∈ loaded.values, cursor.Readable := by
  rcases loadCursors_eq_ok_iff.mp ended with ⟨readable, rfl⟩
  intro cursor member
  rw [Dict.values, Dict.mapValues, List.map_map] at member
  rcases List.mem_map.mp member with ⟨entry, listed, rfl⟩
  exact readable entry.2 (List.mem_map_of_mem listed)

theorem loadState_saveState_iff
    (texts : ReviewTexts) (reviewing : Reviewing) (state : ReviewState) :
    loadState texts reviewing (some (saveState state)) = .ok state ↔
      state.Readable texts := by
  simp only [loadState, saveState, bind_eq_ok, map_eq_ok]
  constructor
  · rintro ⟨nextRunAt, next, cursors, loaded, items, each, same⟩
    cases state
    cases same
    exact ⟨fun item member =>
        itemFromDict_self_iff.mp (loadAll_self_iff.mp each item member),
      loadCursors_self_iff.mp loaded, next⟩
  · intro readable
    exact ⟨state.nextRunAt, readable.nextRunAt, state.cursors,
      loadCursors_self_iff.mpr readable.cursors, state.items,
      loadAll_self_iff.mpr fun item member =>
        itemFromDict_self_iff.mpr (readable.items item member), rfl⟩

theorem loadState_readable
    {texts : ReviewTexts} {reviewing : Reviewing}
    {file : Option SnapshotFile} {state : ReviewState}
    (loaded : loadState texts reviewing file = .ok state) :
    state.Readable texts := by
  cases file with
  | none =>
    cases loaded
    exact ⟨nofun, nofun, rfl⟩
  | some content =>
    cases content with
    | invalid => cases reviewing <;> cases loaded
    | snapshot written =>
      simp only [loadState, bind_eq_ok, map_eq_ok] at loaded
      rcases loaded with ⟨_, next, _, cursors, _, items, rfl⟩
      refine ⟨?_, loadCursors_readable cursors, nextRunText_again next⟩
      intro item member
      have each := loadAll_eq_ok_iff.mp items
      rcases List.getElem_of_mem member with ⟨index, inside, rfl⟩
      have found := each.get (each.length_eq ▸ inside) inside
      exact itemFromDict_readable found

end Loading

end TurningGood.Proactive
