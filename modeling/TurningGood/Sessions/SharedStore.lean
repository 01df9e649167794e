import TurningGood.Foundation.DictViews
import TurningGood.Sessions.StoreOperations

/-!
# A store that several principals share

Two stores look alike to a principal when they differ in the directories of
foreign sessions only.  A call about a session that is not foreign has the
same result in both stores, leaves stores that look alike, and touches no
foreign directory.
-/

namespace TurningGood.Sessions.JsonlStore

open TurningGood.Foundation TurningGood.Foundation.Action

variable (conversions : Conversions) (principalId : CodePoints)

variable {left right files : SessionFiles} {name : DirName}
  {sessionId : CodePoints} {starts : SessionFiles × SessionFiles}
  {change : SessionDir → SessionDir}

/-! ## Foreign directories -/

/-- The directory has a session of another principal. -/
def isForeign (dir : SessionDir) : Bool :=
  (dir.read conversions).any fun session => session.principalId ≠ principalId

/-- The files without the directories of foreign sessions. -/
def ownView (files : SessionFiles) : SessionFiles :=
  files.filter fun _ dir => !isForeign conversions principalId dir

/-- The id of a foreign session. -/
def ForeignId (files : SessionFiles) (sessionId : CodePoints) : Prop :=
  ∃ name session, sessionIn conversions files name = some session ∧
    session.id = sessionId ∧ session.principalId ≠ principalId

/-- The directories of foreign sessions are as before. -/
def Untouched (before after : SessionFiles) : Prop :=
  ∀ name dir, before.get? name = some dir → isForeign conversions principalId dir = true →
    after.get? name = some dir

/--
Two stores that look alike to the principal, with the foreign directories
that each of them had at first.
-/
structure Alike (starts : SessionFiles × SessionFiles)
    (left right : SessionFiles) : Prop where
  leftPlaced : Placed conversions left
  rightPlaced : Placed conversions right
  view : ownView conversions principalId left =
    ownView conversions principalId right
  leftKept : Untouched conversions principalId starts.1 left
  rightKept : Untouched conversions principalId starts.2 right

/-- In addition, the id is not foreign in either of the stores. -/
structure AlikeAt (starts : SessionFiles × SessionFiles)
    (sessionId : CodePoints) (left right : SessionFiles) : Prop
    extends Alike conversions principalId starts left right where
  leftOwn : ¬ ForeignId conversions principalId left sessionId
  rightOwn : ¬ ForeignId conversions principalId right sessionId

/-- In addition, this is the directory of the id, in both stores. -/
structure LocatedAt (starts : SessionFiles × SessionFiles)
    (sessionId : CodePoints) (name : DirName) (left right : SessionFiles) :
    Prop extends AlikeAt conversions principalId starts sessionId left right
    where
  onLeft : findSessionDir conversions left sessionId = name
  onRight : findSessionDir conversions right sessionId = name
  same : left.get? name = right.get? name
  shown : isForeign conversions principalId ((left.get? name).getD {}) = false

variable {conversions principalId}

theorem isForeign_iff {dir : SessionDir} : isForeign conversions principalId dir = true ↔
      ∃ session, dir.read conversions = some session ∧
        session.principalId ≠ principalId := by
  rw [isForeign]
  cases dir.read conversions with
  | none => simp
  | some session => simp

theorem get?_of_view (view : ownView conversions principalId left =
      ownView conversions principalId right) {dir : SessionDir}
    (found : left.get? name = some dir)
    (own : isForeign conversions principalId dir = false) :
    right.get? name = some dir := by
  have shown : (ownView conversions principalId left).get? name =
      some dir := by
    rw [ownView, Dict.get?_filter_eq_some, own]
    exact ⟨found, rfl⟩
  rw [view, ownView, Dict.get?_filter_eq_some] at shown
  exact shown.1

theorem sessionIn_of_view (view : ownView conversions principalId left =
      ownView conversions principalId right)
    {session : StoredSession conversions}
    (found : sessionIn conversions left name = some session)
    (own : session.principalId = principalId) :
    sessionIn conversions right name = some session := by
  rcases Option.bind_eq_some_iff.mp found with ⟨dir, present, read⟩
  have notForeign : isForeign conversions principalId dir = false := by
    rw [isForeign, read, Option.any_some, own]
    simp
  rw [sessionIn, get?_of_view view present notForeign]
  exact read

theorem get?_eq_of_view (view : ownView conversions principalId left =
      ownView conversions principalId right)
    (onLeft : isForeign conversions principalId
      ((left.get? name).getD {}) = false)
    (onRight : isForeign conversions principalId
      ((right.get? name).getD {}) = false) :
    left.get? name = right.get? name := by
  cases atLeft : left.get? name with
  | some dir =>
    rw [atLeft] at onLeft
    exact (get?_of_view view atLeft onLeft).symm
  | none =>
    cases atRight : right.get? name with
    | none => rfl
    | some dir =>
      rw [atRight] at onRight
      have back := get?_of_view view.symm atRight onRight
      rw [atLeft] at back
      cases back

theorem isForeign_getD (foreign : isForeign conversions principalId
      ((files.get? name).getD {}) = true) :
    ∃ session, sessionIn conversions files name = some session ∧
      session.principalId ≠ principalId := by
  rcases isForeign_iff.mp foreign with ⟨session, read, other⟩
  rw [read_getD] at read
  exact ⟨session, read, other⟩

theorem isForeign_getD_of_session
    (own : ∀ session, sessionIn conversions files name = some session →
      session.principalId = principalId) :
    isForeign conversions principalId ((files.get? name).getD {}) =
      false := by
  rw [← Bool.not_eq_true]
  intro foreign
  rcases isForeign_getD foreign with ⟨session, found, other⟩
  exact other (own session found)

theorem own_of_not_foreignId (own : ¬ ForeignId conversions principalId files sessionId)
    {session : StoredSession conversions}
    (found : sessionIn conversions files name = some session)
    (named : session.id = sessionId) : session.principalId = principalId := by
  by_contra other
  exact own ⟨name, session, found, named, other⟩

theorem Placed.shown (placed : Placed conversions files)
    (own : ¬ ForeignId conversions principalId files sessionId) :
    isForeign conversions principalId
      ((files.get? (findSessionDir conversions files sessionId)).getD {}) =
        false := by
  apply isForeign_getD_of_session
  intro session found
  have loaded : loadSession conversions files sessionId = some session := found
  exact own_of_not_foreignId own found (placed.loadSession_eq_some loaded).1

theorem AlikeAt.located (alike : AlikeAt conversions principalId starts sessionId left right) :
    LocatedAt conversions principalId starts sessionId
      (findSessionDir conversions left sessionId) left right := by
  have found : findSessionDir conversions right sessionId =
      findSessionDir conversions left sessionId := by
    by_cases located : ∃ name session, sessionIn conversions left name = some session ∧
          session.id = sessionId
    · rcases located with ⟨name, session, found, rfl⟩
      have own := own_of_not_foreignId alike.leftOwn found rfl
      rw [alike.leftPlaced.findSessionDir_of_located found]
      exact alike.rightPlaced.findSessionDir_of_located (sessionIn_of_view alike.view found own)
    · have onLeft : ∀ name session,
          sessionIn conversions left name = some session →
            session.id ≠ sessionId := fun name session found same =>
        located ⟨name, session, found, same⟩
      rw [findSessionDir_of_absent onLeft]
      apply findSessionDir_of_absent
      intro name session found same
      have own := own_of_not_foreignId alike.rightOwn found same
      exact onLeft name session (sessionIn_of_view alike.view.symm found own) same
  have shown := alike.leftPlaced.shown alike.leftOwn
  have other := alike.rightPlaced.shown alike.rightOwn
  rw [found] at other
  exact
    { alike with
      onLeft := rfl
      onRight := found
      same := get?_eq_of_view alike.view shown other
      shown := shown }

theorem LocatedAt.sessionIn_eq
    (located : LocatedAt conversions principalId starts sessionId name left
      right) :
    sessionIn conversions left name = sessionIn conversions right name := by
  rw [sessionIn, sessionIn, located.same]

/-! ## Changes of directories that are not foreign -/

theorem Placed.changeDir {files : SessionFiles} (placed : Placed conversions files) (name : DirName)
    {change : SessionDir → SessionDir}
    (after : ∀ session, (change ((files.get? name).getD {})).read conversions = some session →
      (∃ second, name = .created second session.id) ∧ ∀ other found, other ≠ name →
          sessionIn conversions files other = some found →
          found.id ≠ session.id) :
    Placed conversions (changeDir files name change) := by
  constructor
  · intro other session located
    by_cases same : other = name
    · subst same
      rw [sessionIn_changeDir_self] at located
      exact (after session located).1
    · rw [sessionIn_changeDir_of_ne files same] at located
      exact placed.named other session located
  · intro first second session found located again equal
    by_cases atFirst : first = name
    · by_cases atSecond : second = name
      · rw [atFirst, atSecond]
      · subst atFirst
        rw [sessionIn_changeDir_self] at located
        rw [sessionIn_changeDir_of_ne files atSecond] at again
        exact absurd equal.symm ((after session located).2 second found atSecond again)
    · rw [sessionIn_changeDir_of_ne files atFirst] at located
      by_cases atSecond : second = name
      · subst atSecond
        rw [sessionIn_changeDir_self] at again
        exact absurd equal ((after found again).2 first session atFirst located)
      · rw [sessionIn_changeDir_of_ne files atSecond] at again
        exact placed.unique first second session found located again equal

theorem Placed.of_removed {target : SessionFiles} (placed : Placed conversions files)
    (removed : ∀ name dir, target.get? name = some dir →
      files.get? name = some dir) : Placed conversions target := by
  have before : ∀ name session, sessionIn conversions target name =
      some session → sessionIn conversions files name = some session := by
    intro name session located
    rcases Option.bind_eq_some_iff.mp located with ⟨dir, present, read⟩
    rw [sessionIn, removed name dir present]
    exact read
  constructor
  · exact fun name session located =>
      placed.named name session (before name session located)
  · exact fun first second session found located again =>
      placed.unique first second session found (before _ _ located)
        (before _ _ again)

theorem foreignId_of_changeDir (after : isForeign conversions principalId
      (change ((files.get? name).getD {})) = false)
    (foreign : ForeignId conversions principalId
      (changeDir files name change) sessionId) :
    ForeignId conversions principalId files sessionId := by
  rcases foreign with ⟨other, session, located, named, notOwn⟩
  by_cases same : other = name
  · subst same
    rw [sessionIn_changeDir_self] at located
    have impossible := isForeign_iff.mpr ⟨session, located, notOwn⟩
    rw [after] at impossible
    cases impossible
  · rw [sessionIn_changeDir_of_ne files same] at located
    exact ⟨other, session, located, named, notOwn⟩

theorem ownView_changeDir (before : isForeign conversions principalId
      ((files.get? name).getD {}) = false)
    (after : isForeign conversions principalId
      (change ((files.get? name).getD {})) = false) :
    ownView conversions principalId (changeDir files name change) =
      (ownView conversions principalId files).insert name
        (change ((files.get? name).getD {})) := by
  apply Dict.filter_insert_of_kept
  · intro old found
    rw [found, Option.getD_some] at before
    rw [before]
    rfl
  · rw [after]
    rfl

theorem Untouched.changeDir {start : SessionFiles}
    (kept : Untouched conversions principalId start files)
    (change : SessionDir → SessionDir)
    (before : isForeign conversions principalId
      ((files.get? name).getD {}) = false) :
    Untouched conversions principalId start (changeDir files name change) := by
  intro other dir found foreign
  have present := kept other dir found foreign
  have different : other ≠ name := by
    rintro rfl
    rw [present, Option.getD_some, foreign] at before
    cases before
  rw [JsonlStore.changeDir, Dict.get?_insert_of_ne _ _ different]
  exact present

theorem Alike.changeDir (alike : Alike conversions principalId starts left right)
    (same : left.get? name = right.get? name)
    (before : isForeign conversions principalId
      ((left.get? name).getD {}) = false)
    (after : isForeign conversions principalId
      (change ((left.get? name).getD {})) = false)
    (leftPlaced : Placed conversions (changeDir left name change))
    (rightPlaced : Placed conversions (changeDir right name change)) :
    Alike conversions principalId starts
      (changeDir left name change) (changeDir right name change) := by
  have beforeRight := before
  have afterRight := after
  rw [same] at beforeRight afterRight
  have view : ownView conversions principalId
      (JsonlStore.changeDir left name change) = ownView conversions principalId
          (JsonlStore.changeDir right name change) := by
    rw [ownView_changeDir before after, ownView_changeDir beforeRight afterRight, alike.view, same]
  exact
    { leftPlaced
      rightPlaced
      view
      leftKept := alike.leftKept.changeDir change before
      rightKept := alike.rightKept.changeDir change beforeRight }

theorem LocatedAt.changeDir (located : LocatedAt conversions principalId starts sessionId name left
      right) (after : isForeign conversions principalId
      (change ((left.get? name).getD {})) = false)
    (leftPlaced : Placed conversions (changeDir left name change))
    (rightPlaced : Placed conversions (changeDir right name change)) :
    AlikeAt conversions principalId starts sessionId
      (changeDir left name change) (changeDir right name change) := by
  have afterRight := after
  rw [located.same] at afterRight
  exact
    { located.toAlike.changeDir located.same located.shown after leftPlaced
        rightPlaced with
      leftOwn := fun foreign =>
        located.leftOwn (foreignId_of_changeDir after foreign)
      rightOwn := fun foreign =>
        located.rightOwn (foreignId_of_changeDir afterRight foreign) }

/-! ## Calls about an id that is not foreign -/

section Calls

variable {starts : SessionFiles × SessionFiles} {sessionId : CodePoints}

variable {name : DirName} {session : StoredSession conversions}
  {dir : SessionDir} {now : Moment conversions}

theorem agrees_sessionDir_and (known : SessionFiles → SessionFiles → Prop) :
    Agrees (Alike conversions principalId starts)
      (fun left right =>
        AlikeAt conversions principalId starts sessionId left right ∧
          known left right)
      (sessionDir conversions sessionId)
      (fun name left right =>
        LocatedAt conversions principalId starts sessionId name left right ∧
          known left right) := by
  rintro left right ⟨alike, holds⟩
  have located := alike.located
  simp only [sessionDir, perform_reading, located.onRight]
  by_cases quoted : (Utf8.scalars? sessionId).isSome = true
  · rw [if_pos quoted]
    exact ⟨trivial, located, holds⟩
  · rw [if_neg quoted]
    exact ⟨trivial, alike.toAlike⟩

theorem agrees_sessionDir : Agrees (Alike conversions principalId starts)
      (AlikeAt conversions principalId starts sessionId)
      (sessionDir conversions sessionId)
      (LocatedAt conversions principalId starts sessionId) :=
  (agrees_sessionDir_and fun _ _ => True).weaken
    (fun _ _ alike => ⟨alike, trivial⟩) fun _ _ _ located => located.1

theorem agrees_readingAt {Value : Type}
    {read : SessionFiles → Except Failure Value}
    (same : ∀ left right : SessionFiles,
      left.get? name = right.get? name → read left = read right) :
    Agrees (Alike conversions principalId starts)
      (LocatedAt conversions principalId starts sessionId name)
      (reading read)
      (fun value left right =>
        LocatedAt conversions principalId starts sessionId name left right ∧
          read left = .ok value) :=
  agrees_reading (fun left right located => same left right located.same)
    fun _ _ located => located.toAlike

theorem agrees_load : Agrees (Alike conversions principalId starts)
      (AlikeAt conversions principalId starts sessionId)
      (load conversions sessionId)
      (fun session left right =>
        AlikeAt conversions principalId starts sessionId left right ∧
          loadSession conversions left sessionId = session ∧
          loadSession conversions right sessionId = session) := by
  apply agrees_sessionDir.bind
  intro name
  apply (agrees_readingAt ?_).weaken (fun _ _ located => located) ?_
  · intro left right same
    rw [sessionIn, sessionIn, same]
  · rintro session left right ⟨located, found⟩
    cases found
    refine ⟨located.toAlikeAt, ?_, ?_⟩
    · rw [loadSession, located.onLeft]
    · rw [loadSession, located.onRight, located.sessionIn_eq]

theorem agrees_readJsonl {kind : RecordKind} : Agrees (Alike conversions principalId starts)
      (AlikeAt conversions principalId starts sessionId)
      (readJsonl conversions sessionId kind)
      (fun _ => AlikeAt conversions principalId starts sessionId) := by
  apply agrees_sessionDir.bind
  intro name
  apply (agrees_readingAt ?_).weaken (fun _ _ located => located)
  · exact fun rows left right after => after.1.toAlikeAt
  · intro left right same
    rw [recordsIn, recordsIn, same]

theorem agrees_computed {Value : Type} {result : Except Failure Value} :
    Agrees (Alike conversions principalId starts)
      (AlikeAt conversions principalId starts sessionId)
      (reading fun _ => result)
      (fun _ => AlikeAt conversions principalId starts sessionId) := by
  apply (agrees_reading ?_ ?_).weaken (fun _ _ alike => alike)
  · exact fun value left right after => after.1
  · exact fun left right alike => rfl
  · exact fun left right alike => alike.toAlike

theorem agrees_writeFile {write : FileWrite conversions}
    {pre post : SessionFiles → SessionFiles → Prop}
    (weaker : ∀ left right, post left right → Alike conversions principalId starts left right)
    (related : ∀ left right, pre left right →
      post (changeDir left write.name (write.put write.bytes))
        (changeDir right write.name (write.put write.bytes))) :
    Agrees (Alike conversions principalId starts) pre (writeFile write)
      (fun _ => post) := by
  have changed : Agrees (Alike conversions principalId starts) pre
      (modify fun files => changeDir files write.name (write.put write.bytes) : StoreAction Unit)
      (fun _ => post) := agrees_modify related
  apply changed.bind
  intro _
  split
  · exact agrees_pure fun left right holds => holds
  · exact agrees_throw weaker

theorem agrees_writeFileAt {write : FileWrite conversions}
    {pre : SessionFiles → SessionFiles → Prop} (target : write.name = name)
    (located : ∀ left right, pre left right →
      LocatedAt conversions principalId starts sessionId name left right)
    (after : ∀ left right, pre left right → isForeign conversions principalId
        (write.put write.bytes ((left.get? name).getD {})) = false ∧
      Placed conversions (changeDir left name (write.put write.bytes)) ∧
      Placed conversions (changeDir right name (write.put write.bytes))) :
    Agrees (Alike conversions principalId starts) pre (writeFile write)
      (fun _ => AlikeAt conversions principalId starts sessionId) := by
  subst target
  apply agrees_writeFile fun left right alike => alike.toAlike
  intro left right related
  rcases after left right related with ⟨own, leftPlaced, rightPlaced⟩
  exact (located left right related).changeDir own leftPlaced rightPlaced

theorem agrees_appendJsonlRows {kind : RecordKind} {rows : List Json} :
    Agrees (Alike conversions principalId starts)
      (AlikeAt conversions principalId starts sessionId)
      (appendJsonlRows conversions sessionId kind rows)
      (fun _ => AlikeAt conversions principalId starts sessionId) := by
  apply agrees_sessionDir.bind
  intro name
  split
  · exact agrees_pure fun left right located => located.toAlikeAt
  · have target : (FileWrite.append name kind rows :
        FileWrite conversions).name = name := rfl
    apply agrees_writeFileAt target fun left right located => located
    intro left right located
    have kept : ∀ files : SessionFiles, Placed conversions files →
        Placed conversions (changeDir files name
          ((FileWrite.append name kind rows : FileWrite conversions).put
            (FileWrite.append name kind rows :
              FileWrite conversions).bytes)) := by
      intro files placed
      apply placed.changeDir
      intro session read
      change ((files.get? name).getD {}).read conversions = _ at read
      rw [read_getD] at read
      refine ⟨placed.named name session read, ?_⟩
      exact fun other found different present same =>
        different (placed.unique other name found session present read same)
    exact ⟨located.shown, kept left located.leftPlaced, kept right located.rightPlaced⟩

theorem read_snapshot {found : StoredSession conversions}
    (read : ((FileWrite.snapshot name session).put
      (FileWrite.snapshot name session).bytes dir).read conversions =
        some found) : found = session := by
  have written : ∀ bytes : List UInt8,
      ((FileWrite.snapshot name session).put bytes dir).read conversions =
        readSessionFile conversions bytes := fun _ => rfl
  rw [written] at read
  cases encodable : (FileWrite.snapshot name session).encodable with
  | true =>
    rw [readSessionFile_of_complete encodable] at read
    exact (Option.some.inj read).symm
  | false =>
    have stopped := readSessionFile_of_stopped
      (Or.inr ⟨rfl, encodable⟩ : _ ∨ (FileWrite.snapshot name session).bytes.length = _ ∧ _)
    rw [List.take_length, read] at stopped
    cases stopped

theorem isForeign_snapshot (own : session.principalId = principalId) :
    isForeign conversions principalId
      ((FileWrite.snapshot name session).put
        (FileWrite.snapshot name session).bytes dir) = false := by
  rw [← Bool.not_eq_true]
  intro foreign
  rcases isForeign_iff.mp foreign with ⟨found, read, other⟩
  rw [read_snapshot read] at other
  exact other own

theorem agrees_writeSession {loaded : StoredSession conversions}
    (named : session.id = loaded.id)
    (principal : session.principalId = loaded.principalId) :
    Agrees (Alike conversions principalId starts)
      (fun left right =>
        AlikeAt conversions principalId starts sessionId left right ∧
          loadSession conversions left sessionId = some loaded ∧
          loadSession conversions right sessionId = some loaded)
      (writeSession conversions session)
      (fun _ => AlikeAt conversions principalId starts sessionId) := by
  intro left right related
  rcases related with ⟨alike, onLeft, onRight⟩
  have asked : session.id = sessionId :=
    named.trans (alike.leftPlaced.loadSession_eq_some onLeft).1
  have own : session.principalId = principalId :=
    principal.trans (own_of_not_foreignId alike.leftOwn onLeft
      (alike.leftPlaced.loadSession_eq_some onLeft).1)
  subst asked
  have replaced : ∀ files : SessionFiles, Placed conversions files →
      loadSession conversions files session.id = some loaded →
      Placed conversions (changeDir files
        (findSessionDir conversions files session.id)
        ((FileWrite.snapshot (findSessionDir conversions files session.id)
          session).put (FileWrite.snapshot
            (findSessionDir conversions files session.id) session).bytes)) := by
    intro files placed found
    apply placed.changeDir
    intro written read
    rw [read_snapshot read]
    have same := (placed.loadSession_eq_some found).1
    refine ⟨?_, fun other other' different present equal => different ?_⟩
    · rcases placed.named _ loaded found with ⟨second, equal⟩
      exact ⟨second, equal.trans (congrArg _ same)⟩
    · exact placed.unique other _ other' loaded present found (equal.trans same.symm)
  apply Agrees.bind (agrees_sessionDir_and fun first second =>
    loadSession conversions first session.id = some loaded ∧
      loadSession conversions second session.id = some loaded) ?_ left right
    ⟨alike, onLeft, onRight⟩
  intro name
  have target : (FileWrite.snapshot name session).name = name := rfl
  apply agrees_writeFileAt target
  · exact fun first second related => related.1
  · rintro first second ⟨located, atFirst, atSecond⟩
    have leftPlaced := replaced first located.leftPlaced atFirst
    have rightPlaced := replaced second located.rightPlaced atSecond
    rw [located.onLeft] at leftPlaced
    rw [located.onRight] at rightPlaced
    exact ⟨isForeign_snapshot own, leftPlaced, rightPlaced⟩

theorem agrees_updateSession
    {change : StoredSession conversions → StoredSession conversions}
    (named : ∀ session, (change session).id = session.id)
    (principal : ∀ session, (change session).principalId = session.principalId) :
    Agrees (Alike conversions principalId starts)
      (AlikeAt conversions principalId starts sessionId)
      (updateSession conversions sessionId now change)
      (fun _ => AlikeAt conversions principalId starts sessionId) := by
  apply agrees_load.bind
  intro session
  cases session with
  | none => exact agrees_pure fun left right after => after.1
  | some session =>
    have sameId : (touched now (change session)).id = session.id :=
      named session
    have samePrincipal : (touched now (change session)).principalId =
        session.principalId := principal session
    apply (agrees_writeSession sameId samePrincipal).bind
    exact fun _ => agrees_pure fun left right alike => alike

theorem agrees_updateSummary {summary : CodePoints} : Agrees (Alike conversions principalId starts)
      (AlikeAt conversions principalId starts sessionId)
      (updateSummary conversions sessionId summary now)
      (fun _ => AlikeAt conversions principalId starts sessionId) := by
  rw [updateSummary]
  apply Agrees.bind
  · apply agrees_updateSession
    · exact fun session => rfl
    · exact fun session => rfl
  · exact fun _ => agrees_pure fun left right alike => alike

theorem agrees_updateUncompactedHistory
    {history : List (HistoryItem conversions)} :
    Agrees (Alike conversions principalId starts)
      (AlikeAt conversions principalId starts sessionId)
      (updateUncompactedHistory conversions sessionId history now)
      (fun _ => AlikeAt conversions principalId starts sessionId) := by
  rw [updateUncompactedHistory]
  apply Agrees.bind
  · apply agrees_updateSession
    · exact fun session => rfl
    · exact fun session => rfl
  · exact fun _ => agrees_pure fun left right alike => alike

theorem agrees_updateSessionMetadata {title : Option CodePoints}
    {pinned archived : Option Bool} :
    Agrees (Alike conversions principalId starts)
      (AlikeAt conversions principalId starts sessionId)
      (updateSessionMetadata conversions sessionId title pinned archived now)
      (fun _ => AlikeAt conversions principalId starts sessionId) :=
  agrees_updateSession (fun _ => rfl) fun _ => rfl

theorem agrees_touchSession : Agrees (Alike conversions principalId starts)
      (AlikeAt conversions principalId starts sessionId)
      (touchSession conversions sessionId now)
      (fun _ => AlikeAt conversions principalId starts sessionId) := by
  rw [touchSession]
  apply Agrees.bind
  · apply agrees_updateSession
    · exact fun session => rfl
    · exact fun session => rfl
  · exact fun _ => agrees_pure fun left right alike => alike

theorem agrees_saveMessage {record : StoredMessage conversions} :
    Agrees (Alike conversions principalId starts)
      (AlikeAt conversions principalId starts sessionId)
      (saveMessage conversions sessionId record now)
      (fun _ => AlikeAt conversions principalId starts sessionId) := by
  apply agrees_appendJsonlRows.bind
  intro _
  apply agrees_touchSession.bind
  exact fun _ => agrees_pure fun left right alike => alike

theorem agrees_recentMessages {limit : Int} : Agrees (Alike conversions principalId starts)
      (AlikeAt conversions principalId starts sessionId)
      (recentMessages conversions sessionId limit)
      (fun _ => AlikeAt conversions principalId starts sessionId) :=
  agrees_readJsonl.bind fun _ => agrees_computed

theorem agrees_saveToolCalls {records : List ToolCallRecord} :
    Agrees (Alike conversions principalId starts)
      (AlikeAt conversions principalId starts sessionId)
      (saveToolCalls conversions sessionId records)
      (fun _ => AlikeAt conversions principalId starts sessionId) := by
  rw [saveToolCalls]
  split
  · exact agrees_pure fun left right alike => alike
  · exact agrees_appendJsonlRows

theorem agrees_readAllMessages : Agrees (Alike conversions principalId starts)
      (AlikeAt conversions principalId starts sessionId)
      (readAllMessages conversions sessionId)
      (fun _ => AlikeAt conversions principalId starts sessionId) :=
  agrees_readJsonl.bind fun _ => agrees_computed

theorem agrees_readRuns {limit : Int} : Agrees (Alike conversions principalId starts)
      (AlikeAt conversions principalId starts sessionId)
      (readRuns conversions sessionId limit)
      (fun _ => AlikeAt conversions principalId starts sessionId) := by
  rw [readRuns]
  split
  · exact agrees_pure fun left right alike => alike
  · apply agrees_readJsonl.bind
    intro traces
    dsimp only
    split
    · exact agrees_pure fun left right alike => alike
    · exact agrees_readJsonl.bind fun _ => agrees_computed

theorem agrees_lastTotalTokens : Agrees (Alike conversions principalId starts)
      (AlikeAt conversions principalId starts sessionId)
      (lastTotalTokens conversions sessionId)
      (fun _ => AlikeAt conversions principalId starts sessionId) :=
  agrees_readJsonl.bind fun _ => agrees_computed

theorem agrees_saveTrueTokenUsage {formats : Formats} {turnId : CodePoints}
    {usage : UsageArguments} :
    Agrees (Alike conversions principalId starts)
      (AlikeAt conversions principalId starts sessionId)
      (saveTrueTokenUsage conversions formats turnId sessionId usage)
      (fun _ => AlikeAt conversions principalId starts sessionId) := by
  rw [saveTrueTokenUsage]
  split
  · exact agrees_appendJsonlRows
  · apply agrees_computed.bind
    intro scope
    apply agrees_lastTotalTokens.bind
    exact fun _ => agrees_appendJsonlRows

theorem agrees_saveTurnTraces {trace : CodePoints × StateTrace}
    {rest : List (CodePoints × StateTrace)} :
    Agrees (Alike conversions principalId starts)
      (AlikeAt conversions principalId starts trace.1)
      (saveTurnTraces conversions (trace :: rest))
      (fun _ => AlikeAt conversions principalId starts trace.1) :=
  agrees_computed.bind fun _ => agrees_appendJsonlRows

theorem agrees_allToolCalls {formats : Formats} : Agrees (Alike conversions principalId starts)
      (AlikeAt conversions principalId starts sessionId)
      (allToolCalls conversions formats sessionId)
      (fun _ => AlikeAt conversions principalId starts sessionId) :=
  agrees_readJsonl.bind fun _ => agrees_computed

theorem agrees_listSessions : Agrees (Alike conversions principalId starts)
      (Alike conversions principalId starts)
      (listSessions conversions principalId)
      (fun _ => Alike conversions principalId starts) := by
  have fromView : ∀ files : SessionFiles,
      (files.entries.filterMap fun entry =>
          entry.2.read conversions).filter
        (fun session => decide (session.principalId = principalId)) =
      ((ownView conversions principalId files).entries.filterMap fun entry =>
          entry.2.read conversions).filter
        fun session => decide (session.principalId = principalId) := by
    intro files
    rw [ownView, Dict.filter, List.filterMap_filter]
    induction files.entries with
    | nil => rfl
    | cons entry rest induction =>
      rw [List.filterMap_cons, List.filterMap_cons]
      cases read : entry.2.read conversions with
      | none => simpa [isForeign, read] using induction
      | some session =>
        by_cases own : session.principalId = principalId
        · simpa [isForeign, read, own] using induction
        · simpa [isForeign, read, own] using induction
  apply (agrees_reading ?_ fun _ _ alike => alike).weaken
    (fun _ _ alike => alike) fun _ _ _ after => after.1
  intro left right alike
  rw [fromView left, fromView right, alike.view]

theorem agrees_clearSession (plain : namesRoot sessionId = false) :
    Agrees (Alike conversions principalId starts)
      (AlikeAt conversions principalId starts sessionId)
      (clearSession conversions sessionId)
      (fun _ => Alike conversions principalId starts) := by
  apply agrees_sessionDir.bind
  intro name
  apply agrees_modify
  intro left right located
  have erased : ∀ files : SessionFiles, ∀ other dir,
      (files.erase name).get? other = some dir →
      other ≠ name ∧ files.get? other = some dir := by
    intro files other dir found
    rw [Dict.get?_erase] at found
    split at found
    · cases found
    · rename_i different
      exact ⟨different, found⟩
  have placed : ∀ files : SessionFiles, Placed conversions files →
      Placed conversions (files.erase name) := fun files placed =>
    placed.of_removed fun other dir found => (erased files other dir found).2
  have kept : ∀ start files : SessionFiles,
      Untouched conversions principalId start files →
      isForeign conversions principalId ((files.get? name).getD {}) = false →
      Untouched conversions principalId start (files.erase name) := by
    intro start files kept own other dir found foreign
    have present := kept other dir found foreign
    have different : other ≠ name := by
      rintro rfl
      rw [present, Option.getD_some, foreign] at own
      cases own
    rw [Dict.get?_erase_of_ne _ different]
    exact present
  have shown := located.shown
  rw [located.same] at shown
  simp only [plain, Bool.false_eq_true, and_false, if_false]
  exact
    { leftPlaced := placed left located.leftPlaced
      rightPlaced := placed right located.rightPlaced
      view := by
        rw [ownView, ownView, Dict.erase, Dict.erase, Dict.filter_comm, Dict.filter_comm right]
        exact congrArg (Dict.filter · _) located.view
      leftKept := kept _ _ located.leftKept located.shown
      rightKept := kept _ _ located.rightKept shown }

theorem hasSessionRecord_skip {rest : List SessionDir} (read : dir.read conversions = some session)
    (other : session.id ≠ sessionId) :
    hasSessionRecord sessionId (dir :: rest) =
      hasSessionRecord sessionId rest := by
  rcases Option.bind_eq_some_iff.mp read with ⟨bytes, present, accepted⟩
  rcases Option.bind_eq_some_iff.mp accepted with ⟨chars, decoded, parsed⟩
  rcases Option.bind_eq_some_iff.mp parsed with ⟨payload, loaded, checked⟩
  rcases Option.bind_eq_some_iff.mp checked with ⟨id, named, more⟩
  have same : session.id = id := by
    -- the other fields are read in front of the session
    iterate 12 rcases Option.bind_eq_some_iff.mp more with ⟨_, -, more⟩
    split at more
    · split at more
      · cases more
        rfl
      · cases more
    · cases more
  rw [hasSessionRecord, present]
  dsimp only
  rw [decoded]
  dsimp only
  rw [loaded, Option.bind_some, named, if_neg]
  rw [← same]
  exact fun equal => other (Option.some.inj equal)

theorem hasSessionRecord_ownView {files : SessionFiles}
    (own : ¬ ForeignId conversions principalId files sessionId) :
    hasSessionRecord sessionId files.values = hasSessionRecord sessionId
        (ownView conversions principalId files).values := by
  have onEntries : ∀ entries : List (DirName × SessionDir),
      (∀ entry ∈ entries, ∀ session, entry.2.read conversions = some session →
        session.principalId ≠ principalId → session.id ≠ sessionId) →
      hasSessionRecord sessionId (entries.map Prod.snd) =
        hasSessionRecord sessionId ((entries.filter fun entry =>
          !isForeign conversions principalId entry.2).map Prod.snd) := by
    intro entries others
    induction entries with
    | nil => rfl
    | cons entry rest induction =>
      rw [List.forall_mem_cons] at others
      have same := induction others.2
      cases foreign : isForeign conversions principalId entry.2 with
      | true =>
        rcases isForeign_iff.mp foreign with ⟨session, read, notOwn⟩
        have skipped := others.1 session read notOwn
        simp only [List.filter_cons, foreign, Bool.not_true,
          Bool.false_eq_true, if_false, List.map_cons]
        rw [hasSessionRecord_skip read skipped, same]
      | false =>
        simp only [List.filter_cons, foreign, Bool.not_false, if_true, List.map_cons]
        rw [hasSessionRecord, hasSessionRecord, same]
  apply onEntries
  intro entry member session read notOwn named
  have located := (sessionIn_of_mem member).trans read
  exact own ⟨entry.1, session, located, named, notOwn⟩

theorem agrees_createSession {route : ChannelRoute} (principal : route.principalId = principalId) :
    Agrees (Alike conversions principalId starts)
      (fun left right =>
        AlikeAt conversions principalId starts route.sessionId left right ∧
          loadSession conversions left route.sessionId = none ∧
          loadSession conversions right route.sessionId = none)
      (createSession conversions route now)
      (fun _ => Alike conversions principalId starts) := by
  have absent : ∀ files : SessionFiles, Placed conversions files →
      loadSession conversions files route.sessionId = none →
      ∀ other found, sessionIn conversions files other = some found →
        found.id ≠ route.sessionId := by
    intro files placed missing other found located same
    have loaded := placed.loadSession_of_located located
    rw [same, missing] at loaded
    cases loaded
  have shown : ∀ files : SessionFiles, Placed conversions files →
      loadSession conversions files route.sessionId = none →
      isForeign conversions principalId
        ((files.get? (.created now.second route.sessionId)).getD {}) =
          false := by
    intro files placed missing
    apply isForeign_getD_of_session
    intro session located
    rcases placed.named _ _ located with ⟨second, same⟩
    exact absurd (DirName.created.inj same).2.symm (absent files placed missing _ session located)
  have placed : ∀ (session : StoredSession conversions)
      (files : SessionFiles), session.id = route.sessionId →
      Placed conversions files →
      loadSession conversions files route.sessionId = none →
      Placed conversions (changeDir files
        (.created now.second route.sessionId)
        ((FileWrite.snapshot (.created now.second route.sessionId) session).put (FileWrite.snapshot
            (.created now.second route.sessionId) session).bytes)) := by
    intro session files named sound missing
    apply sound.changeDir
    intro written read
    rw [read_snapshot read, named]
    exact ⟨⟨now.second, rfl⟩, fun other found _ present =>
      absent files sound missing other found present⟩
  have weaker : ∀ left right,
      Alike conversions principalId starts left right →
        Alike conversions principalId starts left right :=
    fun _ _ alike => alike
  have written : Agrees (Alike conversions principalId starts)
      (fun left right =>
        AlikeAt conversions principalId starts route.sessionId left right ∧
          loadSession conversions left route.sessionId = none ∧
          loadSession conversions right route.sessionId = none)
      (writeFile (.snapshot (.created now.second route.sessionId)
        (sessionFor conversions route now)))
      (fun _ => Alike conversions principalId starts) := by
    apply agrees_writeFile weaker
    rintro left right ⟨alike, onLeft, onRight⟩
    have before := shown left alike.leftPlaced onLeft
    have other := shown right alike.rightPlaced onRight
    have same := get?_eq_of_view alike.view before other
    exact alike.toAlike.changeDir same before (isForeign_snapshot principal)
      (placed _ left rfl alike.leftPlaced onLeft)
      (placed _ right rfl alike.rightPlaced onRight)
  exact written.bind fun _ => agrees_pure weaker

end Calls

end TurningGood.Sessions.JsonlStore
