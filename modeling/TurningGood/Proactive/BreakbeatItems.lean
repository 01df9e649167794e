import TurningGood.Proactive.ReviewSaves

/-!
# The items of Breakbeat

A batch adds items whose keys no item in progress has; the user completes
items and deletes them.  Over all that is ever written, ids stay unique and
completed items stay completed.

A batch that fails leaves the saved items and the cursor of its session
alone, as long as no write fails behind the write of its usage.  When one
does, the run goes on to its end with what the batch had changed, and writes
it there.
-/

namespace TurningGood.Proactive

open TurningGood.Foundation

/-! ## Items and snapshots -/

/-- The keys of the items in progress. -/
def openKeys (texts : ReviewTexts) (items : List BreakbeatItem) :
    List String :=
  (items.filter (·.status = "in_progress")).map fun item => texts.todoKey item.todo

/-- No two open items share their key, no two items their id. -/
structure ItemsSound (texts : ReviewTexts) (items : List BreakbeatItem) :
    Prop where
  keys : (openKeys texts items).Nodup
  ids : (items.map BreakbeatItem.id).Nodup
  stripped : ∀ item ∈ items, Text.strip item.id = item.id ∧ Text.strip item.todo = item.todo

/-- What is completed before is completed after, if it is still there. -/
def StaysCompleted (before after : ReviewState) : Prop :=
  ∀ item ∈ before.items, item.status = "completed" →
    ∀ other ∈ after.items, other.id = item.id → other.status = "completed"

/-- A snapshot that may be written behind others. -/
structure Continues (texts : ReviewTexts) (before : List ReviewState)
    (state : ReviewState) : Prop where
  sound : ItemsSound texts state.items
  stays : ∀ old ∈ before, StaysCompleted old state

/-- Snapshots that were written one after another. -/
structure WrittenSound (texts : ReviewTexts) (written : List ReviewState) :
    Prop where
  sound : ∀ state ∈ written, ItemsSound texts state.items
  ordered : written.Pairwise StaysCompleted

section Items

variable {texts : ReviewTexts}

variable {state : ReviewState} {before : List ReviewState}
  {item : BreakbeatItem} {reviewing : Reviewing}

theorem ItemsSound.staysCompleted (sound : ItemsSound texts state.items) :
    StaysCompleted state state := by
  intro item member completed other listed same
  have equal := List.inj_on_of_nodup_map sound.ids listed member same
  rw [equal]
  exact completed

theorem Continues.of_items {next : ReviewState} (continues : Continues texts before state)
    (same : next.items = state.items) : Continues texts before next := by
  refine ⟨?_, ?_⟩
  · rw [same]
    exact continues.sound
  · intro old member item listed completed other after
    rw [same] at after
    exact continues.stays old member item listed completed other after

theorem Continues.written (continues : Continues texts before state) :
    Continues texts (before ++ [state]) state := by
  refine ⟨continues.sound, ?_⟩
  intro old member
  rcases List.mem_append.mp member with earlier | itself
  · exact continues.stays old earlier
  · rw [List.mem_singleton.mp itself]
    exact continues.sound.staysCompleted

variable {written : List ReviewState}

theorem WrittenSound.append (sound : WrittenSound texts written)
    (continues : Continues texts written state) :
    WrittenSound texts (written ++ [state]) := by
  refine ⟨?_, ?_⟩
  · intro other member
    rcases List.mem_append.mp member with earlier | last
    · exact sound.sound other earlier
    · rw [List.mem_singleton.mp last]
      exact continues.sound
  · rw [List.pairwise_append]
    refine ⟨sound.ordered, List.pairwise_singleton _ _, ?_⟩
    intro old member last final
    rw [List.mem_singleton.mp final]
    exact continues.stays old member

theorem WrittenSound.take {states : List ReviewState}
    (sound : WrittenSound texts (written ++ states)) (count : Nat) :
    WrittenSound texts (written ++ states.take count) := by
  have fewer := (List.take_sublist count states).append_left written
  exact ⟨fun state member => sound.sound state (fewer.subset member), sound.ordered.sublist fewer⟩

theorem WrittenSound.continues (sound : WrittenSound texts (before ++ [state])) :
    Continues texts before state := by
  refine ⟨sound.sound state (List.mem_append_right _ List.mem_cons_self), ?_⟩
  intro old member
  exact (List.pairwise_append.mp sound.ordered).2.2 old member state List.mem_cons_self

theorem WrittenSound.takeOne (sound : WrittenSound texts written)
    {change : Option ReviewState}
    (continues : ∀ state ∈ change, Continues texts written state)
    (writes : Nat) :
    WrittenSound texts (written ++ change.toList.take writes) := by
  apply WrittenSound.take
  cases change with
  | none =>
    rw [Option.toList_none, List.append_nil]
    exact sound
  | some state => exact sound.append (continues state rfl)

/-- The item of an action. -/
def newItem (texts : ReviewTexts) (sessionId : String)
    (action : ReviewAction) (todo : String) (deadline : Option String) :
    BreakbeatItem where
  id := texts.newId action.draw
  todo := todo
  deadline := deadline
  sourceSessionId := sessionId
  status := "in_progress"
  createdAt := texts.isoText action.moment
  updatedAt := texts.isoText action.moment

theorem ItemsSound.append {items : List BreakbeatItem}
    (sound : ItemsSound texts items) (isOpen : item.status = "in_progress")
    (unknown : texts.todoKey item.todo ∉ openKeys texts items)
    (unused : item.id ∉ items.map BreakbeatItem.id)
    (stripped : Text.strip item.id = item.id ∧ Text.strip item.todo = item.todo) :
    ItemsSound texts (items ++ [item]) := by
  refine ⟨?_, ?_, ?_⟩
  · have keys := sound.keys.concat unknown
    rw [List.concat_eq_append] at keys
    rw [openKeys, List.filter_append, List.map_append,
      List.filter_cons_of_pos (by simpa using isOpen)]
    exact keys
  · have ids := sound.ids.concat unused
    rw [List.concat_eq_append] at ids
    rw [List.map_append]
    exact ids
  · intro other member
    rcases List.mem_append.mp member with old | new
    · exact sound.stripped other old
    · rw [List.mem_singleton.mp new]
      exact stripped

theorem applyActions_adds {sessionId : String}
    {actions : List ReviewAction} {items after : List BreakbeatItem}
    {created total : Nat} (sound : ItemsSound texts items)
    (distinct : (actions.map fun action =>
      texts.newId action.draw).Nodup)
    (unused : ∀ action ∈ actions, texts.newId action.draw ∉ items.map BreakbeatItem.id)
    (applied : applyActions texts sessionId actions items created = .ok (after, total)) :
    ItemsSound texts after ∧ ∃ added, after = items ++ added ∧ ∀ item ∈ added, ∃ action ∈ actions,
        item.id = texts.newId action.draw := by
  induction actions generalizing items created with
  | nil =>
    cases applied
    exact ⟨sound, [], (List.append_nil _).symm, nofun⟩
  | cons action rest induction =>
    rw [List.map_cons, List.nodup_cons] at distinct
    have laterUnused := fun other member =>
      unused other (List.mem_cons_of_mem _ member)
    simp only [applyActions, bind_eq_ok] at applied
    rcases applied with ⟨todo, bounded, applied⟩
    split_ifs at applied with known
    · rcases induction sound distinct.2 laterUnused applied with ⟨afterSound, added, grown, drawn⟩
      refine ⟨afterSound, added, grown, ?_⟩
      intro item member
      rcases drawn item member with ⟨drawer, listed, same⟩
      exact ⟨drawer, List.mem_cons_of_mem _ listed, same⟩
    · rcases bind_eq_ok.mp applied with ⟨due, -, applied⟩
      have todoStripped : Text.strip todo = todo := by
        cases value : action.todo with
        | none => simp only [value, boundedValue, reduceCtorEq] at bounded
        | some text =>
          rw [value] at bounded
          exact (boundedText_eq_ok_iff.mp bounded).2.1
      have withNew : ItemsSound texts
          (items ++ [newItem texts sessionId action todo due]) :=
        sound.append rfl known (unused action List.mem_cons_self)
          ⟨(texts.newId_short action.draw).1, todoStripped⟩
      have stillUnused : ∀ other ∈ rest, texts.newId other.draw ∉
          (items ++ [newItem texts sessionId action todo due]).map
            BreakbeatItem.id := by
        intro other member used
        rw [List.map_append, List.mem_append, List.map_singleton, List.mem_singleton] at used
        rcases used with old | new
        · exact laterUnused other member old
        · exact distinct.1 (List.mem_map.mpr ⟨other, member, new⟩)
      rcases induction withNew distinct.2 stillUnused applied with ⟨afterSound, added, grown, drawn⟩
      refine ⟨afterSound, newItem texts sessionId action todo due :: added, ?_, ?_⟩
      · rw [grown, List.append_assoc]
        rfl
      · intro item member
        rcases List.mem_cons.mp member with rfl | later
        · exact ⟨action, List.mem_cons_self, rfl⟩
        · rcases drawn item later with ⟨drawer, listed, same⟩
          exact ⟨drawer, List.mem_cons_of_mem _ listed, same⟩

theorem Continues.applied (continues : Continues texts before state)
    {sessionId : String} {actions : List ReviewAction}
    {items : List BreakbeatItem} {created total : Nat}
    (distinct : (actions.map fun action =>
      texts.newId action.draw).Nodup)
    (unused : ∀ action ∈ actions, ∀ old ∈ before ++ [state],
      texts.newId action.draw ∉ old.items.map BreakbeatItem.id)
    (applied : applyActions texts sessionId actions state.items created = .ok (items, total)) :
    Continues texts (before ++ [state]) { state with items } := by
  rcases applyActions_adds continues.sound distinct (fun action member => unused action member state
      (List.mem_append_right _ List.mem_cons_self)) applied with
    ⟨sound, added, grown, drawn⟩
  refine ⟨sound, ?_⟩
  intro old earlier item member completed other after same
  rw [grown] at after
  rcases List.mem_append.mp after with kept | new
  · exact continues.written.stays old earlier item member completed other kept same
  · rcases drawn other new with ⟨action, listed, id⟩
    refine absurd ?_ (unused action listed old earlier)
    rw [← id, same]
    exact List.mem_map_of_mem member

theorem Continues.deleted {after : ReviewState}
    (continues : Continues texts before state) {id : String}
    (changed : SavingReviewer.deleted state id = some after) :
    Continues texts before after := by
  rcases Option.map_eq_some_iff.mp changed with ⟨item, -, rfl⟩
  have fewer : (state.items.filter fun candidate =>
      candidate.id ≠ item.id).Sublist state.items := List.filter_sublist
  refine ⟨⟨?_, ?_, ?_⟩, ?_⟩
  · exact continues.sound.keys.sublist ((fewer.filter _).map _)
  · exact continues.sound.ids.sublist (fewer.map _)
  · exact fun other member =>
      continues.sound.stripped other (fewer.subset member)
  · intro old member done listed completed other kept
    exact continues.stays old member done listed completed other (fewer.subset kept)

/-- What the completion of an item makes of each item. -/
def closeItem (texts : ReviewTexts) (item : BreakbeatItem) (moment : Nat)
    (candidate : BreakbeatItem) : BreakbeatItem :=
  if candidate.id = item.id then
    { item with status := "completed", updatedAt := texts.isoText moment }
  else
    candidate

theorem closeItem_id (item : BreakbeatItem) (moment : Nat) (candidate : BreakbeatItem) :
    (closeItem texts item moment candidate).id = candidate.id := by
  rw [closeItem]
  split_ifs with chosen
  · exact chosen.symm
  · rfl

theorem closeItem_cases (item : BreakbeatItem) (moment : Nat) (candidate : BreakbeatItem) :
    (closeItem texts item moment candidate).status = "completed" ∨
      closeItem texts item moment candidate = candidate := by
  rw [closeItem]
  split_ifs
  · exact .inl rfl
  · exact .inr rfl

theorem openKeys_closeItem (item : BreakbeatItem) (moment : Nat) (items : List BreakbeatItem) :
    (openKeys texts (items.map (closeItem texts item moment))).Sublist (openKeys texts items) := by
  induction items with
  | nil => exact List.Sublist.refl _
  | cons candidate rest induction =>
    rw [openKeys, openKeys] at induction
    rw [openKeys, openKeys, List.map_cons, List.filter_cons, List.filter_cons]
    rcases closeItem_cases item moment candidate with closed | same
    · have shut : decide ((closeItem texts item moment candidate).status =
          "in_progress") = false := by
        rw [closed]
        decide
      rw [shut, if_neg Bool.false_ne_true]
      split_ifs
      · exact induction.cons _
      · exact induction
    · rw [same]
      split_ifs
      · exact induction.cons_cons _
      · exact induction

theorem Continues.completed {after : ReviewState}
    (continues : Continues texts before state) {id : String} {moment : Nat}
    (changed : SavingReviewer.completed texts state id moment =
      some after) : Continues texts before after := by
  rw [SavingReviewer.completed] at changed
  split at changed
  · contradiction
  · next item found =>
      split_ifs at changed
      cases changed
      have member := List.mem_of_find?_eq_some found
      have sound := continues.sound
      show Continues texts before
        { state with items := state.items.map (closeItem texts item moment) }
      refine ⟨⟨?_, ?_, ?_⟩, ?_⟩
      · exact sound.keys.sublist (openKeys_closeItem item moment state.items)
      · have ids : BreakbeatItem.id ∘ closeItem texts item moment =
            BreakbeatItem.id := funext (closeItem_id item moment)
        rw [List.map_map, ids]
        exact sound.ids
      · intro other listed
        rcases List.mem_map.mp listed with ⟨candidate, held, rfl⟩
        rw [closeItem]
        split_ifs
        · exact sound.stripped item member
        · exact sound.stripped candidate held
      · intro old earlier done listed completed other after same
        rcases List.mem_map.mp after with ⟨candidate, held, rfl⟩
        rcases @closeItem_cases texts item moment candidate with closed | kept
        · exact closed
        · rw [kept] at same ⊢
          exact continues.stays old earlier done listed completed candidate held same

/-! ## What is read back -/

/-- The items that are read have the ids, todos and states of the written. -/
def SameFace (item loaded : BreakbeatItem) : Prop :=
  loaded.id = item.id ∧ loaded.todo = item.todo ∧ loaded.status = item.status

theorem itemFromDict_face {loaded : BreakbeatItem}
    (stripped : Text.strip item.id = item.id ∧ Text.strip item.todo = item.todo)
    (ended : itemFromDict item = .ok loaded) : SameFace item loaded := by
  rw [itemFromDict] at ended
  split_ifs at ended
  simp only [bind_eq_ok, map_eq_ok, boundedText_eq_ok_iff, deadline_eq_ok_iff] at ended
  rcases ended with ⟨_, ⟨rfl, -⟩, _, ⟨rfl, -⟩, _, ⟨-, -⟩, _, ⟨-, -⟩, _, ⟨-, -⟩, _, ⟨-, -⟩, rfl⟩
  exact ⟨stripped.1, stripped.2, rfl⟩

theorem sameFaces_keys {items loaded : List BreakbeatItem}
    (faces : List.Forall₂ SameFace items loaded) :
    loaded.map BreakbeatItem.id = items.map BreakbeatItem.id ∧
      openKeys texts loaded = openKeys texts items := by
  induction faces with
  | nil => exact ⟨rfl, rfl⟩
  | cons same rest induction =>
    rcases same with ⟨id, todo, status⟩
    rcases induction with ⟨ids, keys⟩
    rw [openKeys, openKeys] at keys
    refine ⟨?_, ?_⟩
    · rw [List.map_cons, List.map_cons, id, ids]
    · rw [openKeys, openKeys, List.filter_cons, List.filter_cons, status]
      split_ifs
      · rw [List.map_cons, List.map_cons, todo, keys]
      · exact keys

theorem loadState_faces {loaded : ReviewState} (sound : ItemsSound texts state.items)
    (read : loadState texts reviewing (some (saveState state)) =
      .ok loaded) : List.Forall₂ SameFace state.items loaded.items := by
  simp only [loadState, saveState, bind_eq_ok, map_eq_ok] at read
  rcases read with ⟨_, -, _, -, items, each, rfl⟩
  have pairs := loadAll_eq_ok_iff.mp each
  rw [List.forall₂_iff_get] at pairs ⊢
  refine ⟨pairs.1, ?_⟩
  intro index inside insideLoaded
  exact itemFromDict_face (sound.stripped _ (List.get_mem _ _)) (pairs.2 index inside insideLoaded)

theorem exists_face {items loaded : List BreakbeatItem}
    (faces : List.Forall₂ SameFace items loaded) (member : item ∈ loaded) :
    ∃ written ∈ items, SameFace written item := by
  rcases List.getElem_of_mem member with ⟨index, inside, rfl⟩
  have bound : index < items.length := by
    rw [faces.length_eq]
    exact inside
  exact ⟨items[index], List.getElem_mem bound, faces.get bound inside⟩

theorem Continues.loaded {loaded : ReviewState} (continues : Continues texts before state)
    (read : loadState texts reviewing (some (saveState state)) =
      .ok loaded) : Continues texts before loaded := by
  have faces := loadState_faces continues.sound read
  have same := @sameFaces_keys texts _ _ faces
  refine ⟨⟨?_, ?_, ?_⟩, ?_⟩
  · rw [same.2]
    exact continues.sound.keys
  · rw [same.1]
    exact continues.sound.ids
  · intro item member
    rcases exists_face faces member with ⟨written, listed, id, todo, -⟩
    rw [id, todo]
    exact continues.sound.stripped written listed
  · intro old earlier done listed completed other member equal
    rcases exists_face faces member with ⟨written, held, id, -, status⟩
    rw [status]
    exact continues.stays old earlier done listed completed written held (id.symm.trans equal)

theorem StaysCompleted.of_read {loaded next : ReviewState}
    (stays : StaysCompleted state next) (sound : ItemsSound texts state.items)
    (read : loadState texts reviewing (some (saveState state)) =
      .ok loaded) : StaysCompleted loaded next := by
  intro item member completed other after same
  rcases exists_face (loadState_faces sound read) member with ⟨written, listed, id, -, status⟩
  exact stays written listed (status.symm.trans completed) other after (same.trans id)

end Items

/-! ## Runs of Breakbeat -/

/-- A step of Breakbeat; a call that a run awaits may raise. -/
inductive BreakbeatLabel where
  | saves (label : SaveLabel)
  | raised

/-- Breakbeat, from no file on. -/
def breakbeatRuns (texts : ReviewTexts) (limits : ReviewLimits) :
    Machine SavingReviewer BreakbeatLabel where
  initial service := service = emptyReviewer
  step service
    | .saves label => service.step texts .breakbeat limits label
    | .raised =>
      match service.run with
      | some ⟨state, now, current, sessions, active, false⟩ =>
        some { service with
          run := some ⟨state, now, current, sessions, active, true⟩ }
      | _ => none

/-- The ids that an answer draws are new. -/
def DrawsFresh (texts : ReviewTexts) (service : SavingReviewer) : BreakbeatLabel → Prop
  | .saves (.batch answer _) =>
    (answer.actions.map fun action => texts.newId action.draw).Nodup ∧ ∀ action ∈ answer.actions,
        ∀ old ∈ service.written ++ service.run.toList.map SavingRun.state,
          texts.newId action.draw ∉ old.items.map BreakbeatItem.id
  | _ => True

/-- No write of a batch fails behind the write of its usage. -/
def SavesWhole : BreakbeatLabel → Prop
  | .saves (.batch _ writes) => writes = 0 ∨ 3 ≤ writes
  | _ => True

/-- The session whose batch a step reports as failed. -/
def failedBatch (texts : ReviewTexts) (service : SavingReviewer) : BreakbeatLabel → Option String
  | .saves (.batch answer writes) =>
    match service.run with
    | some ⟨state, _, _, _, some (sessionId, batch :: _), false⟩ =>
      let states := SavingReviewer.batchStates texts .breakbeat state
        sessionId batch answer
      if states.2 = true ∧ states.1.length ≤ writes then none
      else some sessionId
    | _ => none
  | .raised => (service.run.bind SavingRun.active).map Prod.fst
  | _ => none

/-- The snapshot in the file. -/
def SavingReviewer.persisted (service : SavingReviewer) : ReviewState :=
  match service.file with
  | some (.snapshot state) => state
  | _ => defaultState

/-- The items that the next reader finds. -/
def SavingReviewer.itemsRead (service : SavingReviewer) :
    Except String (List BreakbeatItem) :=
  loadAll itemFromDict service.persisted.items

/-- The cursor of a session that the next reader finds. -/
def SavingReviewer.cursorRead (service : SavingReviewer)
    (sessionId : String) : Option (Except String StoredCursor) :=
  (service.persisted.cursors.get? sessionId).map cursorFromDict

/--
A step leaves the saved items and the saved cursor of a session, and neither
changes them in the state that its run will write later.
-/
structure LeavesBatch (service target : SavingReviewer)
    (sessionId : String) : Prop where
  items : target.itemsRead = service.itemsRead
  cursor : target.cursorRead sessionId = service.cursorRead sessionId
  run : ∃ before ∈ service.run, ∃ after ∈ target.run, after.state.items = before.state.items ∧
      after.state.cursors.get? sessionId = before.state.cursors.get? sessionId

namespace SavingReviewer

variable {texts : ReviewTexts} {limits : ReviewLimits}
  {service : SavingReviewer}

variable {state : ReviewState} {states : List ReviewState}

/-- Two snapshots of which the next reader finds the same. -/
structure ReadAlike (saved state : ReviewState) : Prop where
  items : loadAll itemFromDict saved.items = loadAll itemFromDict state.items
  cursors : ∀ sessionId, (saved.cursors.get? sessionId).map cursorFromDict =
      (state.cursors.get? sessionId).map cursorFromDict

theorem ReadAlike.refl (state : ReviewState) : ReadAlike state state := ⟨rfl, fun _ => rfl⟩

/-- What every run of Breakbeat keeps. -/
structure Kept (texts : ReviewTexts) (service : SavingReviewer) :
    Prop where
  sound : WrittenSound texts service.written
  file : service.file = service.written.getLast?.map saveState
  run : ∀ run ∈ service.run, Continues texts service.written run.state
  alike : ∀ run ∈ service.run, run.failed = false → ReadAlike service.persisted run.state

theorem Kept.loaded (kept : service.Kept texts)
    (read : loadState texts .breakbeat service.file = .ok state) :
    Continues texts service.written state := by
  rw [kept.file] at read
  cases last : service.written.getLast? with
  | none =>
    rw [last] at read
    cases read
    rw [List.getLast?_eq_none_iff] at last
    rw [last]
    exact ⟨⟨List.nodup_nil, List.nodup_nil, nofun⟩, nofun⟩
  | some written =>
    rw [last] at read
    rcases List.getLast?_eq_some_iff.mp last with ⟨before, whole⟩
    have sound := kept.sound
    rw [whole] at sound ⊢
    exact sound.continues.written.loaded read

theorem cursorFromDict_stripped {cursor : StoredCursor} (fits : (strippedCursor cursor).Readable) :
    cursorFromDict (strippedCursor cursor) = cursorFromDict cursor := by
  have raw : cursorFromDict cursor = .ok (strippedCursor cursor) :=
    cursorFromDict_eq_ok_iff.mpr ⟨rfl, fits⟩
  have again : strippedCursor (strippedCursor cursor) =
      strippedCursor cursor := strippedCursor_of_readable fits
  rw [raw]
  exact cursorFromDict_eq_ok_iff.mpr ⟨again, fits⟩

theorem alike_of_loaded (read : loadState texts .breakbeat service.file = .ok state) :
    ReadAlike service.persisted state := by
  have readable := loadState_readable read
  have itemsAgain : loadAll itemFromDict state.items = .ok state.items :=
    loadAll_self_iff.mpr fun item member =>
      itemFromDict_self_iff.mpr (readable.items item member)
  match file : service.file with
  | none =>
    rw [file] at read
    cases read
    rw [SavingReviewer.persisted, file]
    exact ReadAlike.refl _
  | some .invalid =>
    rw [file] at read
    cases read
  | some (.snapshot written) =>
    have persisted : service.persisted = written := by
      rw [SavingReviewer.persisted, file]
    rw [file] at read
    simp only [loadState, bind_eq_ok, map_eq_ok] at read
    rcases read with ⟨_, -, cursors, loadedCursors, items, each, rfl⟩
    rcases loadCursors_eq_ok_iff.mp loadedCursors with ⟨stripped, rfl⟩
    rw [persisted]
    refine ⟨?_, ?_⟩
    · rw [each, itemsAgain]
    · intro sessionId
      rw [Dict.get?_mapValues, Option.map_map]
      apply Option.map_congr
      intro cursor found
      have listed : cursor ∈ written.cursors.values :=
        (Dict.mem_values_iff _ _).mpr ⟨sessionId, Option.mem_def.mp found⟩
      have fits := stripped cursor listed
      rw [Function.comp_apply, cursorFromDict_stripped fits]

theorem write_nil (service : SavingReviewer) : service.write [] = service := by
  rw [write, List.append_nil]
  rfl

theorem write_persisted (service : SavingReviewer) (states : List ReviewState) :
    (service.write states).persisted =
      states.getLast?.getD service.persisted := by
  rw [SavingReviewer.persisted, write]
  cases states.getLast? with
  | none => rfl
  | some state => rfl

theorem write_file (matched : service.file =
      service.written.getLast?.map saveState) (states : List ReviewState) :
    (service.write states).file = (service.write states).written.getLast?.map saveState := by
  simp only [write]
  rw [List.getLast?_append, matched]
  cases states.getLast? with
  | none => rfl
  | some state => rfl

theorem continues_getLast {written : List ReviewState}
    (whole : WrittenSound texts (written ++ states))
    (continues : Continues texts written state) :
    Continues texts (written ++ states) (states.getLast?.getD state) := by
  cases last : states.getLast? with
  | none =>
    rw [List.getLast?_eq_none_iff.mp last, List.append_nil]
    exact continues
  | some final =>
    rcases List.getLast?_eq_some_iff.mp last with ⟨before, rfl⟩
    rw [← List.append_assoc] at whole ⊢
    exact whole.continues.written

theorem continues_unwritten {written : List ReviewState} {writes : Nat}
    (whole : WrittenSound texts (written ++ states))
    (unwritten : states[writes]? = some state) :
    Continues texts (written ++ states.take writes) state := by
  have upTo := whole.take (writes + 1)
  rw [List.take_add_one, unwritten, Option.toList_some, ← List.append_assoc] at upTo
  exact upTo.continues

variable {run : SavingRun}

theorem Kept.persist (kept : service.Kept texts) {next : SavingRun} (held : service.run = some run)
    (whole : WrittenSound texts (service.written ++ states))
    (after : next.state = states.getLast?.getD run.state)
    (goesOn : next.failed = run.failed) (writes : Nat) :
    (service.persist run next states writes).Kept texts := by
  have file := write_file kept.file (states.take writes)
  have continues := kept.run run held
  simp only [SavingReviewer.persist]
  cases unwritten : states[writes]? with
  | none =>
    have all : states.take writes = states :=
      List.take_of_length_le (List.getElem?_eq_none_iff.mp unwritten)
    rw [all] at file ⊢
    refine ⟨whole, file, ?_, ?_⟩
    · rintro _ ⟨rfl⟩
      rw [after]
      exact continues_getLast whole continues
    · rintro _ ⟨rfl⟩ running
      have saved := write_persisted service states
      show ReadAlike (service.write states).persisted next.state
      rw [saved, after]
      cases states.getLast? with
      | none => exact kept.alike run held (goesOn ▸ running)
      | some state => exact ReadAlike.refl state
  | some state =>
    refine ⟨whole.take writes, file, ?_, ?_⟩
    · rintro _ ⟨rfl⟩
      exact continues_unwritten whole unwritten
    · rintro _ ⟨rfl⟩ running
      cases running

theorem Kept.writeIdle (kept : service.Kept texts) (idle : service.run = none)
    (whole : WrittenSound texts (service.written ++ states)) :
    (service.write states).Kept texts := by
  refine ⟨whole, write_file kept.file states, ?_, ?_⟩
  · intro run held
    exact absurd (idle.symm.trans held) nofun
  · intro run held
    exact absurd (idle.symm.trans held) nofun

theorem Kept.edit (kept : service.Kept texts) (idle : service.run = none) (writes : Nat)
    {change : ReviewState → Option ReviewState}
    (goesOn : ∀ state after, Continues texts service.written state →
      change state = some after → Continues texts service.written after) :
    (service.edit texts .breakbeat writes change).Kept texts := by
  simp only [SavingReviewer.edit]
  cases read : loadState texts .breakbeat service.file with
  | error text => exact kept
  | ok state =>
    apply kept.writeIdle idle
    apply kept.sound.takeOne
    exact fun after changed => goesOn state after (kept.loaded read) changed

theorem Kept.readStays (kept : service.Kept texts) {next : ReviewState}
    (read : loadState texts .breakbeat service.file = .ok state)
    (continues : Continues texts service.written next) :
    StaysCompleted state next := by
  rw [kept.file] at read
  cases last : service.written.getLast? with
  | none =>
    rw [last] at read
    cases read
    exact nofun
  | some written =>
    rw [last] at read
    have member := List.mem_of_getLast? last
    exact (continues.stays written member).of_read (kept.sound.sound written member) read

theorem Kept.editSchedule (kept : service.Kept texts) (now writes : Nat) :
    (service.edit texts .breakbeat writes fun state =>
      some (scheduled texts limits state now)).Kept texts := by
  simp only [SavingReviewer.edit]
  cases read : loadState texts .breakbeat service.file with
  | error text => exact kept
  | ok state =>
    have loaded : Continues texts service.written
        (scheduled texts limits state now) :=
      (kept.loaded read).of_items rfl
    have alike := alike_of_loaded read
    simp only [Option.toList_some]
    rcases writes.eq_zero_or_pos with rfl | written
    · rw [List.take_zero, write_nil]
      exact kept
    · rw [List.take_of_length_le written]
      refine ⟨kept.sound.append loaded, write_file kept.file _, ?_, ?_⟩
      · intro run held
        have continues := kept.run run held
        refine ⟨continues.sound, ?_⟩
        intro old member
        rcases List.mem_append.mp member with earlier | last
        · exact continues.stays old earlier
        · rw [List.mem_singleton.mp last]
          have stays := kept.readStays read continues
          exact stays
      · intro run held running
        have before := kept.alike run held running
        rw [write_persisted]
        exact ⟨alike.items.symm.trans before.items,
          fun sessionId => (alike.cursors sessionId).symm.trans (before.cursors sessionId)⟩

theorem Kept.remember (kept : service.Kept texts) (deadline : Option Nat) :
    (service.remember .breakbeat deadline).Kept texts :=
  ⟨kept.sound, kept.file, kept.run, kept.alike⟩

theorem Kept.released (kept : service.Kept texts) :
    ({ service with run := none } : SavingReviewer).Kept texts :=
  ⟨kept.sound, kept.file, nofun, nofun⟩

theorem Kept.goesOn (kept : service.Kept texts) {next : SavingRun}
    (held : service.run = some run) (same : next.state = run.state)
    (running : next.failed = false → run.failed = false) :
    ({ service with run := some next } : SavingReviewer).Kept texts := by
  refine ⟨kept.sound, kept.file, ?_, ?_⟩
  · rintro _ ⟨rfl⟩
    rw [same]
    exact kept.run run held
  · rintro _ ⟨rfl⟩ unfailed
    rw [same]
    exact kept.alike run held (running unfailed)

theorem Kept.start (kept : service.Kept texts) (sessions : List String)
    (current : Option ReviewMessage) (now finishedAt : Nat) :
    (service.start texts .breakbeat limits sessions current now finishedAt).Kept texts := by
  simp only [SavingReviewer.start]
  cases read : loadState texts .breakbeat service.file with
  | error text => exact kept.remember _
  | ok state =>
    refine ⟨kept.sound, kept.file, ?_, ?_⟩
    · rintro _ ⟨rfl⟩
      exact kept.loaded read
    · rintro _ ⟨rfl⟩ _
      exact alike_of_loaded read

theorem Kept.select (kept : service.Kept texts) (held : service.run = some run) (sessionId : String)
    (sessions : List String) (messages : List ReviewMessage) (writes : Nat) :
    (service.select texts limits run sessionId sessions messages writes).Kept texts := by
  simp only [SavingReviewer.select]
  split
  · exact kept.goesOn held rfl (by rintro ⟨⟩)
  · split
    · split
      · exact kept.goesOn held rfl id
      · next cursor _ =>
          have whole : WrittenSound texts (service.written ++ [{ run.state with
              cursors := run.state.cursors.insert sessionId cursor }]) :=
            kept.sound.append ((kept.run run held).of_items rfl)
          apply kept.persist held whole
          · rfl
          · rfl
    · exact kept.goesOn held rfl id

theorem batchStates_sound {before : List ReviewState} (sound : WrittenSound texts before)
    (continues : Continues texts before state) (sessionId : String)
    (batch : ReviewBatch) {answer : BatchAnswer}
    (distinct : (answer.actions.map fun action =>
      texts.newId action.draw).Nodup)
    (unused : ∀ action ∈ answer.actions, ∀ old ∈ before ++ [state],
      texts.newId action.draw ∉ old.items.map BreakbeatItem.id) :
    WrittenSound texts (before ++
      (batchStates texts .breakbeat state sessionId batch answer).1) := by
  cases answer with
  | failed usage => exact sound.append (continues.of_items rfl)
  | reviewed usage actions =>
    have used : Continues texts before
        { state with usage := state.usage.add usage } :=
      continues.of_items rfl
    have usedSound := sound.append used
    simp only [batchStates]
    cases applied : applyActions texts sessionId actions state.items 0 with
    | error text => exact usedSound
    | ok result =>
      rcases result with ⟨items, created⟩
      dsimp only
      split_ifs
      · have moved : Continues texts _ { state with
            usage := state.usage.add usage
            cursors := state.cursors.insert sessionId (storedCursor texts batch.cursor) } :=
          used.written.of_items rfl
        have movedSound := usedSound.append moved
        rw [List.append_assoc] at movedSound
        exact movedSound
      · have unusedUsed : ∀ action ∈ actions, ∀ old ∈ before ++
            [{ state with usage := state.usage.add usage }],
            texts.newId action.draw ∉ old.items.map BreakbeatItem.id := by
          intro action listed old member
          rcases List.mem_append.mp member with earlier | last
          · exact unused action listed old (List.mem_append_left _ earlier)
          · rw [List.mem_singleton.mp last]
            exact unused action listed state (List.mem_append_right _ List.mem_cons_self)
        have added := used.applied distinct unusedUsed applied
        have addedSound := usedSound.append added
        have moved : Continues texts _ { state with
            items
            usage := state.usage.add usage
            cursors := state.cursors.insert sessionId (storedCursor texts batch.cursor) } :=
          added.written.of_items rfl
        have movedSound := addedSound.append moved
        simp only [List.append_assoc] at movedSound
        exact movedSound

theorem Kept.reviewBatch (kept : service.Kept texts)
    (held : service.run = some run) (sessionId : String) (batch : ReviewBatch)
    (rest : List ReviewBatch) {answer : BatchAnswer} (writes : Nat)
    (fresh : DrawsFresh texts service (.saves (.batch answer writes))) :
    (service.reviewBatch texts .breakbeat run sessionId batch rest answer writes).Kept texts := by
  rw [DrawsFresh, held] at fresh
  have whole := batchStates_sound kept.sound (kept.run run held) sessionId
    batch fresh.1 fresh.2
  apply kept.persist held whole
  · rfl
  · rfl

theorem Kept.finish (kept : service.Kept texts)
    (held : service.run = some run) (finishedAt writes : Nat) :
    (service.finish texts .breakbeat limits run finishedAt writes).Kept
      texts := by
  simp only [SavingReviewer.finish]
  rw [if_neg (by simp)]
  have ended := kept.released.remember
    (some (finishedAt + limits.refresh))
  apply ended.writeIdle rfl
  apply WrittenSound.take
  apply ended.sound.append
  exact (kept.run run held).of_items rfl

theorem Kept.next (kept : service.Kept texts) {label : BreakbeatLabel}
    {target : SavingReviewer} (fresh : DrawsFresh texts service label)
    (stepped : (breakbeatRuns texts limits).step service label =
      some target) : target.Kept texts := by
  cases label with
  | raised =>
    simp only [breakbeatRuns] at stepped
    split at stepped
    · next held =>
        cases stepped
        exact kept.goesOn held rfl nofun
    · contradiction
  | saves label =>
    replace stepped : step texts .breakbeat limits service label =
      some target := stepped
    cases label with
    | readDeadline =>
      simp only [SavingReviewer.step] at stepped
      split at stepped
      · cases stepped
        exact kept
      · cases stepped
        exact kept.remember _
    | initializeSchedule now writes =>
      simp only [SavingReviewer.step, Option.ite_none_right_eq_some] at stepped
      rcases stepped with ⟨-, ⟨rfl⟩⟩
      simp only [SavingReviewer.initializeSchedule]
      split
      · exact kept
      · split
        · exact kept.remember _
        · exact (kept.remember _).editSchedule now writes
    | defer now writes =>
      simp [SavingReviewer.step] at stepped
    | deleteItem id writes =>
      simp only [SavingReviewer.step, Option.ite_none_right_eq_some] at stepped
      rcases stepped with ⟨⟨idle, -⟩, ⟨rfl⟩⟩
      exact kept.edit (Option.isNone_iff_eq_none.mp idle) writes
        fun state after continues changed => continues.deleted changed
    | completeItem id moment writes =>
      simp only [SavingReviewer.step, Option.ite_none_right_eq_some] at stepped
      rcases stepped with ⟨⟨idle, -⟩, ⟨rfl⟩⟩
      exact kept.edit (Option.isNone_iff_eq_none.mp idle) writes
        fun state after continues changed => continues.completed changed
    | start sessions current now finishedAt =>
      simp only [SavingReviewer.step, Option.ite_none_right_eq_some] at stepped
      rcases stepped with ⟨-, ⟨rfl⟩⟩
      exact kept.start sessions current now finishedAt
    | select messages writes =>
      simp only [SavingReviewer.step] at stepped
      split at stepped
      · next state now current sessionId sessions held =>
          rw [Option.ite_none_right_eq_some] at stepped
          rcases stepped with ⟨-, ⟨rfl⟩⟩
          exact kept.select held sessionId sessions messages writes
      · contradiction
    | batch answer writes =>
      simp only [SavingReviewer.step] at stepped
      split at stepped
      · next state now current sessions sessionId batch rest held =>
          rw [Option.ite_none_right_eq_some] at stepped
          rcases stepped with ⟨-, ⟨rfl⟩⟩
          exact kept.reviewBatch held sessionId batch rest writes fresh
      · contradiction
    | finish finishedAt writes =>
      simp only [SavingReviewer.step] at stepped
      split at stepped
      · next run held =>
          rw [Option.ite_none_right_eq_some] at stepped
          rcases stepped with ⟨-, ⟨rfl⟩⟩
          exact kept.finish held finishedAt writes
      · contradiction
    | cancel =>
      simp only [SavingReviewer.step, Option.ite_none_right_eq_some] at stepped
      rcases stepped with ⟨-, ⟨rfl⟩⟩
      exact kept.released

theorem kept_of_reaches (reached : (breakbeatRuns texts limits).Reaches (DrawsFresh texts)
      service) : service.Kept texts := by
  apply reached.invariant
  · rintro _ rfl
    exact ⟨⟨nofun, List.Pairwise.nil⟩, rfl, nofun, nofun⟩
  · exact fun _ _ _ _ kept fresh stepped => kept.next fresh stepped

/-! ## Batches that fail -/

theorem batchStates_head (state : ReviewState) (sessionId : String)
    (batch : ReviewBatch) (answer : BatchAnswer) :
    ∃ used rest, (batchStates texts .breakbeat state sessionId batch answer).1 =
        used :: rest ∧ rest.length ≤ 2 ∧
      used.items = state.items ∧ used.cursors = state.cursors ∧
      ((batchStates texts .breakbeat state sessionId batch answer).2 =
        false → rest = []) := by
  cases answer with
  | failed usage => exact ⟨_, _, rfl, by simp, rfl, rfl, fun _ => rfl⟩
  | reviewed usage actions =>
    simp only [batchStates]
    split
    · exact ⟨_, _, rfl, by simp, rfl, rfl, fun _ => rfl⟩
    · split
      · exact ⟨_, _, rfl, by simp, rfl, rfl, (by rintro ⟨⟩)⟩
      · exact ⟨_, _, rfl, by simp, rfl, rfl, (by rintro ⟨⟩)⟩

theorem Kept.leavesBatch (kept : service.Kept texts)
    {label : BreakbeatLabel} {target : SavingReviewer} {sessionId : String}
    (saves : SavesWhole label)
    (stepped : (breakbeatRuns texts limits).step service label = some target)
    (failed : failedBatch texts service label = some sessionId) :
    LeavesBatch service target sessionId := by
  cases label with
  | raised =>
    simp only [breakbeatRuns] at stepped
    split at stepped
    · next state now current sessions active held =>
        cases stepped
        exact ⟨rfl, rfl, _, held, _, rfl, rfl, rfl⟩
    · contradiction
  | saves label =>
    replace stepped : step texts .breakbeat limits service label =
      some target := stepped
    cases label with
    | batch answer writes =>
      simp only [SavingReviewer.step] at stepped
      split at stepped
      · next state now current sessions visited batch rest held =>
          rw [Option.ite_none_right_eq_some] at stepped
          rcases stepped with ⟨-, ⟨rfl⟩⟩
          simp only [failedBatch, held] at failed
          split_ifs at failed with whole
          cases failed
          have alike := kept.alike _ held rfl
          rcases @batchStates_head texts state sessionId batch answer with
            ⟨used, later, states, short, items, cursors, alone⟩
          rw [states] at whole
          simp only [SavingReviewer.reviewBatch, SavingReviewer.persist, states]
          rcases saves with rfl | all
          · -- The write of the usage fails.
            refine ⟨rfl, rfl, _, held, _, rfl, items, ?_⟩
            exact congrArg (fun cursors => Dict.get? cursors sessionId) cursors
          · -- No write fails, so that the answer was refused.
            have refused : (batchStates texts .breakbeat state
                sessionId batch answer).2 = false := by
              rw [← Bool.not_eq_true]
              intro accepted
              apply whole
              rw [List.length_cons]
              exact ⟨accepted, by omega⟩
            rw [alone refused, List.take_of_length_le
              (by simp only [List.length_singleton]; omega),
              List.getElem?_eq_none (by
                simp only [List.length_singleton]; omega)]
            refine ⟨?_, ?_, _, held, _, rfl, items, ?_⟩
            · show loadAll itemFromDict used.items = _
              rw [items]
              exact alike.items.symm
            · show (used.cursors.get? sessionId).map cursorFromDict = _
              rw [cursors]
              exact (alike.cursors sessionId).symm
            · exact congrArg (fun cursors => Dict.get? cursors sessionId) cursors
      · contradiction
    | _ => cases failed

end SavingReviewer

/--
Whatever Breakbeat does: in every snapshot that it writes no two open items
share their key and no two items their id, and what one snapshot shows as
completed no later one shows as open.  A batch that is reported as failed
leaves the saved items and the cursor of its session, if no write of it fails
behind the write of its usage.
-/
theorem breakbeat_items {texts : ReviewTexts} {limits : ReviewLimits}
    {service : SavingReviewer}
    (reached : (breakbeatRuns texts limits).Reaches (DrawsFresh texts) service) :
    (∀ state ∈ service.written, (openKeys texts state.items).Nodup ∧
        (state.items.map BreakbeatItem.id).Nodup) ∧
      service.written.Pairwise StaysCompleted ∧
      ∀ (label : BreakbeatLabel) (target : SavingReviewer) (sessionId : String),
        (breakbeatRuns texts limits).step service label = some target →
        failedBatch texts service label = some sessionId →
        SavesWhole label → LeavesBatch service target sessionId := by
  have kept := SavingReviewer.kept_of_reaches reached
  refine ⟨?_, kept.sound.ordered, ?_⟩
  · intro state member
    have sound := kept.sound.sound state member
    exact ⟨sound.keys, sound.ids⟩
  · intro label target sessionId stepped failed saves
    exact kept.leavesBatch saves stepped failed

instance (texts : ReviewTexts) (service : SavingReviewer)
    (label : BreakbeatLabel) : Decidable (DrawsFresh texts service label) :=
  match label with
  | .saves (.batch _ _) => inferInstanceAs (Decidable (_ ∧ _))
  | .saves .readDeadline | .saves (.initializeSchedule _ _)
  | .saves (.defer _ _) | .saves (.deleteItem _ _)
  | .saves (.completeItem _ _ _) | .saves (.start _ _ _ _)
  | .saves (.select _ _) | .saves (.finish _ _) | .saves .cancel
  | .raised => .isTrue trivial

/-- An answer that asks twice for the same item. -/
def milkTwice : BatchAnswer := .reviewed ⟨1, 1, 2⟩
    [⟨some "Buy milk", some none, 0, 0⟩, ⟨some " buy MILK ", some none, 1, 0⟩]

/-- A run up to its first batch. -/
def milkRun : List BreakbeatLabel := [.saves (.start ["session"] none 0 0),
    .saves (.select [⟨"message", "session", "user", 1, 0⟩] 0)]

/-- Texts for two moments, with an id for each draw. -/
def numberedTexts : ReviewTexts :=
  { sampleTexts with
    newId := fun draw => if draw = 0 then "breakbeat_0" else "breakbeat_1"
    newId_short := fun draw => by
      split_ifs
      · decide
      · decide }

theorem breakbeat_items_milk : ∃ service, (breakbeatRuns numberedTexts momentLimits).Reaches
        (DrawsFresh numberedTexts) service ∧
      (service.written.map fun state => state.items.length) = [0, 1, 1, 1] ∧
      (∀ state ∈ service.written, (openKeys numberedTexts state.items).Nodup ∧
          (state.items.map BreakbeatItem.id).Nodup) ∧
      service.written.Pairwise StaysCompleted ∧
      ∀ (label : BreakbeatLabel) (target : SavingReviewer) (sessionId : String),
        (breakbeatRuns numberedTexts momentLimits).step service label = some target →
        failedBatch numberedTexts service label = some sessionId →
        SavesWhole label → LeavesBatch service target sessionId := by
  have evaluated :
      (breakbeatRuns numberedTexts momentLimits).runGuarded (DrawsFresh numberedTexts) emptyReviewer
        (milkRun ++ [.saves (.batch milkTwice 3), .saves (.finish 0 1)]) =
          some _ := rfl
  have reached := Machine.Reaches.runGuarded (.start rfl) evaluated
  exact ⟨_, reached, rfl, breakbeat_items reached⟩

/--
When the write of the new item fails, the batch is reported as failed, and
the end of its run writes the item.
-/
theorem failedBatch_keeps_item : ¬ ∀ (texts : ReviewTexts) (limits : ReviewLimits)
        (service failed after : SavingReviewer) (label : BreakbeatLabel)
        (sessionId : String) (finishedAt writes : Nat),
      (breakbeatRuns texts limits).Reaches (DrawsFresh texts) service →
      DrawsFresh texts service label →
      (breakbeatRuns texts limits).step service label = some failed →
      failedBatch texts service label = some sessionId →
      (breakbeatRuns texts limits).step failed (.saves (.finish finishedAt writes)) = some after →
      after.itemsRead = service.itemsRead := by
  intro leaves
  have evaluated :
      (breakbeatRuns numberedTexts momentLimits).runGuarded
        (DrawsFresh numberedTexts) emptyReviewer milkRun = some _ := rfl
  have reached := Machine.Reaches.runGuarded (.start rfl) evaluated
  have same := leaves numberedTexts momentLimits _ _ _
    (.saves (.batch milkTwice 1)) "session" 0 1 reached (by decide) rfl rfl
    rfl
  have counted := congrArg (fun read : Except String (List BreakbeatItem) =>
    read.toOption.map List.length) same
  exact absurd counted (by decide)

end TurningGood.Proactive
