import TurningGood.Sessions.StoreWrites

/-!
# Writes of the session store that fail

In every run whose failing writes end safely, the sessions stay where they
are found, and the rows can be read.  What was stored then survives a further
failing write exactly if no session that could be read was being overwritten,
and rows were cut off between two of them.
-/

namespace TurningGood.Sessions.JsonlStore

open TurningGood.Foundation

variable {conversions : Conversions}

variable {files after target : SessionFiles} {name : DirName}
  {kind : RecordKind} {count : Nat}

/-! ## Steps -/

variable {call : StoreWrite conversions}

theorem Sound.extends_failed (sound : Sound conversions files)
    {write : FileWrite conversions} {ending : Ending}
    (planned : fileWrite conversions files call = some write)
    (incomplete : ending ≠ .complete)
    (performed : perform files write ending = some after)
    (safe : SafeEnding files write ending) :
    Extends conversions files after := by
  cases ending with
  | complete => exact absurd rfl incomplete
  | notOpened =>
    cases performed
    constructor
    · intro name
      exact sessionIn_changeDir_of_kept files _ (read_getD files _) name
    · intro name kind rows _ are
      have kept : ∀ dir : SessionDir, (id dir).records = dir.records :=
        fun _ => rfl
      rw [recordsIn_changeDir_of_kept files _ kept]
      exact ⟨[], by rw [List.append_nil]; exact are⟩
  | cut count =>
    cases write with
    | snapshot name session =>
      rcases sessionIn_of_stopped files performed with ⟨here, others, records⟩
      constructor
      · intro other
        by_cases same : other = name
        · subst same
          rw [here]
          exact safe.symm
        · exact others other same
      · intro other kind rows _ are
        rw [records]
        exact ⟨[], by rw [List.append_nil]; exact are⟩
    | append name kind rows =>
      rw [perform] at performed
      split at performed
      · cases performed
        exact extends_appendedRows (sound.appended planned).1 safe
      · cases performed

theorem Sound.extends_complete (sound : Sound conversions files)
    {rows : List Json} (planned : fileWrite conversions files call =
      some (.append name kind rows)) (performed : perform files
      (FileWrite.append name kind rows : FileWrite conversions) .complete =
        some after) : Extends conversions files after := by
  rw [perform] at performed
  split at performed
  · cases performed
    have whole : JsonLines.CutsBetweenRows rows
        (JsonLines.appendedBytes rows).length :=
      ⟨rows.length, by rw [List.take_length]⟩
    have extended : Extends conversions files (changeDir files name
        fun dir => dir.append kind ((JsonLines.appendedBytes rows).take
          (JsonLines.appendedBytes rows).length)) :=
      extends_appendedRows (sound.appended planned).1 (.inr whole)
    rw [List.take_length] at extended
    exact extended
  · cases performed

theorem Sound.of_kept (sound : Sound conversions files) (kept : ∀ name session,
      sessionIn conversions target name = some session →
        sessionIn conversions files name = some session)
    (records : ∀ name kind, recordsIn target name kind = none ∨
      recordsIn target name kind = recordsIn files name kind) :
    Sound conversions target := by
  constructor
  · constructor
    · exact fun name session located =>
        sound.named name session (kept name session located)
    · exact fun name other session found located again =>
        sound.unique name other session found (kept _ _ located) (kept _ _ again)
  · intro name kind read
    rcases records name kind with gone | same
    · rw [gone]
      exact ⟨[], fun row member => (nomatch member), JsonLines.holds_nil⟩
    · rw [same]
      exact sound.rows name kind read

theorem Sound.of_removed (sound : Sound conversions files)
    (removed : ∀ name, target.get? name = none ∨
      target.get? name = files.get? name) : Sound conversions target := by
  apply sound.of_kept
  · intro name session located
    rcases removed name with gone | same
    · rw [sessionIn, gone] at located
      cases located
    · rw [sessionIn, same] at located
      exact located
  · intro name kind
    rcases removed name with gone | same
    · rw [recordsIn, gone]
      exact .inl rfl
    · rw [recordsIn, same]
      exact .inr rfl

theorem Sound.step (sound : Sound conversions files)
    {label : StoreLabel conversions} (safe : SafeLabel files label)
    (stepped : storeStep conversions files label = some target) :
    Sound conversions target := by
  cases label with
  | clearSession sessionId =>
    cases stepped
    apply sound.of_removed
    intro name
    rw [Dict.get?_erase]
    split
    · exact .inl rfl
    · exact .inr rfl
  | clearMatching predicate =>
    cases stepped
    apply sound.of_removed
    intro name
    rw [Dict.get?_filter]
    cases files.get? name with
    | none => exact .inl rfl
    | some dir =>
      rw [Option.filter_some]
      split
      · exact .inr rfl
      · exact .inl rfl
  | write call ending =>
    rcases Option.bind_eq_some_iff.mp stepped with ⟨write, planned, performed⟩
    have safeEnding := safe call ending write rfl planned
    by_cases complete : ending = .complete
    · subst complete
      cases write with
      | append name kind rows =>
        exact (sound.extends_complete planned performed).sound sound
      | snapshot name session =>
        rw [perform] at performed
        split at performed
        · rename_i encodable
          cases performed
          exact sound.snapshot_complete planned encodable
        · cases performed
    · exact (sound.extends_failed planned complete performed safeEnding).sound sound

theorem sound_empty : Sound conversions Dict.empty where
  named _ _ located := nomatch located
  unique _ _ _ _ located := nomatch located
  rows _ _ _ := ⟨[], fun _ member => (nomatch member), JsonLines.holds_nil⟩

theorem reaches_complete (reached : (sessionStore conversions).Reaches SafeLabel files)
    {write : FileWrite conversions}
    (planned : fileWrite conversions files call = some write)
    (performed : perform files write .complete = some target) :
    (sessionStore conversions).Reaches SafeLabel target := by
  have stepped : storeStep conversions files (.write call .complete) =
      some target := by
    rw [storeStep, planned, Option.bind_some, performed]
  have safe : SafeLabel files (StoreLabel.write call .complete) := by
    intro call ending write same _
    cases same
    trivial
  exact .next reached safe stepped

theorem sound_of_reaches (reached : (sessionStore conversions).Reaches SafeLabel files) :
    Sound conversions files := by
  apply reached.invariant
  · rintro files rfl
    exact sound_empty
  · intro files label target _ sound safe stepped
    exact sound.step safe stepped

theorem extends_completeAll {later : List (StoreWrite conversions)}
    (sound : Sound conversions files)
    (appends : ∀ call ∈ later, call.isAppend = true)
    (completed : completeAll conversions files later = some target) :
    Extends conversions files target := by
  induction later generalizing files with
  | nil =>
    cases completed
    exact .refl _
  | cons call rest induction =>
    rw [List.forall_mem_cons] at appends
    rw [completeAll] at completed
    split at completed
    · exact induction sound appends.2 completed
    · rename_i write planned
      rcases Option.bind_eq_some_iff.mp completed with ⟨middle, performed, more⟩
      rcases fileWrite_of_isAppend appends.1 planned with ⟨name, kind, rows, rfl⟩
      have first := sound.extends_complete planned performed
      exact first.trans (induction (first.sound sound) appends.2 more)

/-! ## Writes that fail unsafely -/

variable {session : StoredSession conversions}

theorem not_survives_of_torn_session (sound : Sound conversions files)
    (planned : fileWrite conversions files call =
      some (.snapshot name session))
    (failed : perform files (.snapshot name session) (.cut count) =
      some after) (overwritten : sessionIn conversions files name ≠ none) :
    ¬ Survives conversions files after
      (perform files (.snapshot name session) .complete) := by
  intro survives
  rcases (sound.snapshot planned).2 with ⟨absent, -⟩ | ⟨loaded, located, same⟩
  · exact overwritten absent
  rcases sessionIn_of_stopped files failed with ⟨here, others, records⟩
  have kept : ∀ other found,
      sessionIn conversions after other = some found →
        other ≠ name ∧ sessionIn conversions files other = some found := by
    intro other found again
    have different : other ≠ name := by
      rintro rfl
      rw [here] at again
      cases again
    exact ⟨different, (others other different).symm.trans again⟩
  have soundAfter : Sound conversions after :=
    sound.of_kept (fun other found again => (kept other found again).2)
      fun other kind => .inr (records other kind)
  have lost : loadSession conversions after session.id = none := by
    apply soundAfter.loadSession_of_absent
    intro other found again equal
    rcases kept other found again with ⟨different, before⟩
    exact different (sound.unique _ _ _ _ before located (equal.trans same.symm))
  rcases survives.session session.id with before | ⟨target, completed, after⟩
  · rw [lost, ← same, sound.loadSession_of_located located] at before
    cases before
  · rw [perform] at completed
    split at completed
    · rename_i encodable
      cases completed
      have written := sessionIn_snapshot files name session
        (FileWrite.snapshot name session).bytes
      rw [readSessionFile_of_complete encodable] at written
      have loads := (sound.snapshot_complete planned
        encodable).loadSession_of_located written
      rw [lost] at after
      cases after.trans loads
    · cases completed

theorem exists_append (conversions : Conversions) (sessionId : CodePoints)
    (read : kind ≠ .toolCalls) :
    ∃ (call : StoreWrite conversions) (row : JsonRow),
      call.isAppend = true ∧ (JsonLines.line? row.json).isSome = true ∧
        ∀ files, fileWrite conversions files call =
          some (.append (findSessionDir conversions files sessionId) kind
            [row.json]) := by
  let zero : JsonNumber := .finite ['0'] (by decide)
  have number := Json.encodable_number zero
  have blank : Json.Encodable (.string []) :=
    Json.encodable_string.mpr fun point member => nomatch member
  have object : Json.Encodable (.object []) :=
    Json.encodable_object.mpr fun point member => nomatch member
  cases kind with
  | messages =>
    let record : StoredMessage conversions :=
      { id := [], role := [], content := [], tokenCount := zero,
        createdAt := [], metadata := ⟨[], ⟨List.nodup_nil, trivial⟩⟩,
        integral := rfl, counted := rfl }
    refine ⟨.saveMessage sessionId record, messageToDict conversions record,
      rfl, ?_, fun files => rfl⟩
    apply (Json.encodable_iff_line? _).mpr
    apply Json.encodable_ofFields.mpr
    simp only [List.forall_mem_cons]
    exact ⟨blank, blank, blank, number, blank, object, by simp⟩
  | turnTraces =>
    let trace : StateTrace :=
      { turnId := [], state := [], durationMs := zero, event := [],
        error := none, metadata := ⟨[], ⟨List.nodup_nil, trivial⟩⟩ }
    have written : traceToDict conversions trace =
        some (.ofFields [("turn_id", .string []), ("state", .string []),
            ("duration_ms", .number zero), ("event", .string []),
            ("error", .null), ("metadata", .object [])]) := rfl
    have traceRow := traceToDict_traceRow written
    rcases jsonRow_of_proper traceRow.proper traceRow.isObject with ⟨row, same⟩
    refine ⟨.saveTurnTraces sessionId [trace], row, rfl, ?_, ?_⟩
    · rw [same, Json.encodable_iff_line?, Json.encodable_ofFields]
      simp only [List.forall_mem_cons]
      exact ⟨blank, blank, number, blank, Json.encodable_null, object,
        by simp⟩
    · intro files
      rw [same]
      rfl
  | trueTokenUsage =>
    let usage : TokenUsage :=
      { turnId := [], inputTokens := zero, outputTokens := zero,
        turnTotalTokens := zero, totalTokens := zero, compacted := zero,
        scope := none }
    rcases jsonRow_of_proper (tokenUsageToDict_proper usage) ⟨_, rfl⟩ with ⟨row, same⟩
    refine ⟨.saveTrueTokenUsage sessionId usage, row, rfl, ?_, ?_⟩
    · rw [same, Json.encodable_iff_line?, tokenUsageToDict, Json.encodable_ofFields]
      simp only [List.forall_mem_append, List.forall_mem_cons]
      exact ⟨⟨blank, number, number, number, number, number, by simp⟩,
        fun field member => (nomatch member)⟩
    · intro files
      rw [same]
      rfl
  | toolCalls => exact absurd rfl read

theorem Kept.readRows_isSome (kept : Kept conversions files target)
    (sound : Sound conversions files) (sessionId : CodePoints)
    (read : kind ≠ .toolCalls) :
    readRows conversions target sessionId kind ≠ none := by
  intro lost
  rcases (Extends.refl files).readRows sound sessionId read with
    ⟨rows, more, readable, first, -⟩
  cases kind with
  | messages =>
    have loaded : (allMessages conversions files sessionId).isSome =
        true := by
      rw [allMessages, first, Option.bind_some]
      apply isSome_mapM
      rw [List.forall_mem_map]
      exact fun row member =>
        readable row (List.mem_append_left more member)
    rcases Option.isSome_iff_exists.mp loaded with ⟨messages, same⟩
    rcases kept.messages sessionId messages same with ⟨others, found⟩
    rw [allMessages, lost] at found
    cases found
  | turnTraces =>
    rcases kept.turnTraces sessionId _ first with ⟨others, found⟩
    rw [allTurnTraces, lost] at found
    cases found
  | trueTokenUsage =>
    rcases kept.trueTokenUsage sessionId _ first with ⟨others, found⟩
    rw [allTrueTokenUsage, lost] at found
    cases found
  | toolCalls => exact read rfl

theorem sessionIn_append (files : SessionFiles) (name : DirName)
    (kind : RecordKind) (bytes : List UInt8) (other : DirName) :
    sessionIn conversions (changeDir files name
      fun dir => dir.append kind bytes) other =
        sessionIn conversions files other := by
  apply sessionIn_changeDir_of_kept
  rw [read_append, read_getD]

theorem recordsIn_append (files : SessionFiles) (name : DirName)
    (kind : RecordKind) (bytes : List UInt8) :
    recordsIn (changeDir files name fun dir => dir.append kind bytes)
      name kind = some ((recordsIn files name kind).getD [] ++ bytes) := by
  rw [recordsIn_changeDir_self, SessionDir.append]
  simp only [Function.update_self, records_getD]

theorem readRows_of_torn (sound : Sound conversions files)
    (sessionId : CodePoints) (read : kind ≠ .toolCalls) {added : List JsonRow}
    (within : count ≤ (JsonLines.appendedBytes (added.map JsonRow.json)).length)
    (torn : ¬ JsonLines.CutsBetweenRows (added.map JsonRow.json) count) :
    ∃ (later : List (StoreWrite conversions)) (target : SessionFiles),
      (∀ call ∈ later, call.isAppend = true) ∧
      completeAll conversions (changeDir files
          (findSessionDir conversions files sessionId) fun dir =>
            dir.append kind ((JsonLines.appendedBytes
              (added.map JsonRow.json)).take count)) later = some target ∧
      readRows conversions target sessionId kind = none := by
  rcases exists_append conversions sessionId read with
    ⟨next, row, appends, encodable, plans⟩
  rcases sound.rows (findSessionDir conversions files sessionId) kind read
    with ⟨rows, are⟩
  have result := are.2.torn within torn encodable
  generalize (JsonLines.appendedBytes (added.map JsonRow.json)).take count = bytes at result ⊢
  generalize here : findSessionDir conversions files sessionId = name
    at result ⊢
  have sessions : ∀ other, sessionIn conversions (changeDir files name
      fun dir => dir.append kind bytes) other =
        sessionIn conversions files other :=
    sessionIn_append files name kind bytes
  have held := recordsIn_append files name kind bytes
  have found := (sound.findSessionDir_congr sessions sessionId).trans here
  generalize changeDir files name (fun dir => dir.append kind bytes) = after
    at sessions held found ⊢
  rcases result with now | later
  · refine ⟨[], after, fun call member => (nomatch member), rfl, ?_⟩
    rw [readRows, found, held]
    exact now
  · have whole : ([row.json].all fun row =>
        (JsonLines.line? row).isSome) = true := by
      rw [List.all_cons, encodable]
      rfl
    have performed : perform after
        (FileWrite.append name kind [row.json] : FileWrite conversions)
          .complete = some (changeDir after name fun dir =>
            dir.append kind (JsonLines.appendedBytes [row.json])) :=
      if_pos whole
    refine ⟨[next], changeDir after name fun dir =>
      dir.append kind (JsonLines.appendedBytes [row.json]), ?_, ?_, ?_⟩
    · rw [List.forall_mem_singleton]
      exact appends
    · rw [completeAll, plans, found]
      change (perform after (FileWrite.append name kind [row.json] :
        FileWrite conversions) .complete).bind _ = _
      rw [performed]
      rfl
    · have placed : Placed conversions after := by
        constructor
        · intro other session
          rw [sessions]
          exact sound.named other session
        · intro first second session again
          rw [sessions, sessions]
          exact sound.unique first second session again
      have still := placed.findSessionDir_congr
        (sessionIn_append after name kind (JsonLines.appendedBytes [row.json])) sessionId
      rw [readRows, still, found, recordsIn_append, held, Option.getD_some]
      exact later

theorem not_survives_of_torn_rows (sound : Sound conversions files)
    {rows : List Json} (planned : fileWrite conversions files call =
      some (.append name kind rows)) (failed : perform files
      (FileWrite.append name kind rows : FileWrite conversions)
        (.cut count) = some after) (read : kind ≠ .toolCalls)
    (torn : ¬ JsonLines.CutsBetweenRows rows count)
    (completed : Option SessionFiles) :
    ¬ SurvivesAfterwards conversions files after completed := by
  intro survives
  rcases sound.appended planned with ⟨⟨added, rfl, -⟩, sessionId, rfl⟩
  rw [perform] at failed
  split at failed
  · rename_i stopped
    cases failed
    have within : count ≤
        (JsonLines.appendedBytes (added.map JsonRow.json)).length := by
      rcases stopped with shorter | ⟨same, -⟩
      · exact shorter.le
      · exact same.le
    rcases readRows_of_torn sound sessionId read within torn with
      ⟨later, target, appends, completes, lost⟩
    exact (survives later target appends completes).rows.readRows_isSome sound sessionId read lost
  · cases failed

/--
In the files of any run whose failing writes end safely: what was stored
survives a write that does not complete exactly if that one ends safely.
-/
theorem survives_iff_safeEnding
    {files after : SessionFiles} {call : StoreWrite conversions}
    {write : FileWrite conversions} {ending : Ending}
    (reached : (sessionStore conversions).Reaches SafeLabel files)
    (planned : fileWrite conversions files call = some write)
    (incomplete : ending ≠ .complete)
    (performed : perform files write ending = some after) :
    SurvivesAfterwards conversions files after
        (perform files write .complete) ↔
      SafeEnding files write ending := by
  have sound := sound_of_reaches reached
  constructor
  · intro survives
    cases ending with
    | complete => trivial
    | notOpened => trivial
    | cut count =>
      cases write with
      | snapshot name session =>
        by_contra overwritten
        have nothing : ∀ call ∈ ([] : List (StoreWrite conversions)),
            call.isAppend = true := fun call member => nomatch member
        exact not_survives_of_torn_session sound planned performed
          overwritten (survives [] after nothing rfl)
      | append name kind rows =>
        by_contra torn
        rw [SafeEnding, not_or] at torn
        exact not_survives_of_torn_rows sound planned performed torn.1 torn.2 _ survives
  · intro safe later target appends completes
    have failed := sound.extends_failed planned incomplete performed safe
    have extended := failed.trans
      (extends_completeAll (failed.sound sound) appends completes)
    exact extended.survives sound _

/-! ## A session that is lost -/

theorem perform_snapshot_complete (files : SessionFiles)
    (encodable : (FileWrite.snapshot name session).encodable = true) :
    perform files (.snapshot name session) .complete =
      some (changeDir files name ((FileWrite.snapshot name session).put
        (FileWrite.snapshot name session).bytes)) :=
  if_pos encodable

theorem perform_snapshot_cut (files : SessionFiles)
    (encodable : (FileWrite.snapshot name session).encodable = true) :
    perform files (.snapshot name session) (.cut 0) = some (changeDir files name
        ((FileWrite.snapshot name session).put [])) := by
  have nonempty : 0 < (FileWrite.snapshot name session).bytes.length := by
    rcases Option.isSome_iff_exists.mp encodable with ⟨line, written⟩
    have isLine :
        JsonLines.IsLine (sessionToDict conversions session) line := written
    rcases isLine.begins with ⟨rest, rfl⟩
    rw [FileWrite.bytes, written, List.length_pos_iff]
    intro empty
    cases Utf8.encodeChars_eq_nil.mp empty
  exact if_pos (.inl nonempty)

theorem Sound.fileWrite_update (sound : Sound conversions files)
    {before : StoredSession conversions}
    (located : sessionIn conversions files name = some before)
    (same : session.id = before.id) :
    fileWrite conversions files (.updateSession before.id session) =
      some (.snapshot name session) := by
  have known : hasId conversions session.id
      (loadSession conversions files before.id) = true :=
    hasId_iff.mpr ⟨before, sound.loadSession_of_located located, same.symm⟩
  rw [fileWrite, if_pos known, same, sound.findSessionDir_of_located located]

theorem encodable_of_literals (name : DirName)
    (texts : ∀ text ∈ [session.id, session.userId, session.channel,
      session.principalId, session.conversationId, session.title,
      session.summary, session.createdAt, session.updatedAt],
      ∃ value, text = literal value) (empty : session.uncompactedHistory = []) :
    (FileWrite.snapshot name session).encodable = true := by
  have text : ∀ value : CodePoints, (∃ chars, value = literal chars) →
      Json.Encodable (.string value) := by
    rintro value ⟨chars, rfl⟩
    exact Json.encodable_string.mpr (isScalarText_literal chars)
  have flag (value : Bool) : Json.Encodable (.bool value) := by
    cases value <;> exact isScalarText_textOf _
  simp only [List.forall_mem_cons] at texts
  rcases texts with ⟨id, user, channel, principal, conversation, title,
    summary, created, updated, -⟩
  rw [FileWrite.encodable, Json.encodable_iff_line?]
  apply Json.encodable_ofFields.mpr
  simp only [List.forall_mem_cons, historyToList, empty]
  exact ⟨text _ id, text _ user, text _ channel, text _ principal,
    text _ conversation, text _ title, text _ summary, flag _, flag _,
    isScalarText_textOf _, text _ created, text _ updated, by simp⟩

/-- Conversions that agree with the real ones on the session below. -/
def plainConversions : Conversions where
  encode content := some (content.map fun _ => 0)
  isAware text := decide (text = literal "2026-01-01T00:00:00+00:00")
  toInteger _ := none
  truncate number := some number
  nonNegative number := some number

/-- A new session. -/
def newSession : StoredSession plainConversions where
  id := literal "s"
  userId := literal "u"
  channel := literal "web"
  principalId := literal "u"
  conversationId := literal "s"
  title := literal "s"
  summary := literal ""
  pinned := false
  archived := false
  uncompactedHistory := []
  createdAt := literal "2026-01-01T00:00:00+00:00"
  updatedAt := literal "2026-01-01T00:00:00+00:00"
  named := by decide
  timed := by decide

/-- The session with a title. -/
def titledSession : StoredSession plainConversions :=
  { newSession with title := literal "Plan" }

/-- The directory of the session. -/
def newName : DirName := .created 0 newSession.id

/-- The files after the session has been created. -/
def newFiles : SessionFiles := changeDir .empty newName ((FileWrite.snapshot newName newSession).put
    (FileWrite.snapshot newName newSession).bytes)

/-- The files when nothing of the titled session has been written. -/
def tornFiles : SessionFiles := changeDir newFiles newName
    ((FileWrite.snapshot newName titledSession).put [])

theorem encodable_newSession : (FileWrite.snapshot newName newSession).encodable = true := by
  apply encodable_of_literals _ _ rfl
  simp only [List.forall_mem_cons]
  exact ⟨⟨_, rfl⟩, ⟨_, rfl⟩, ⟨_, rfl⟩, ⟨_, rfl⟩, ⟨_, rfl⟩, ⟨_, rfl⟩,
    ⟨_, rfl⟩, ⟨_, rfl⟩, ⟨_, rfl⟩, by simp⟩

theorem encodable_titledSession : (FileWrite.snapshot newName titledSession).encodable = true := by
  apply encodable_of_literals _ _ rfl
  simp only [List.forall_mem_cons]
  exact ⟨⟨_, rfl⟩, ⟨_, rfl⟩, ⟨_, rfl⟩, ⟨_, rfl⟩, ⟨_, rfl⟩, ⟨_, rfl⟩,
    ⟨_, rfl⟩, ⟨_, rfl⟩, ⟨_, rfl⟩, by simp⟩

theorem reaches_newFiles : (sessionStore plainConversions).Reaches SafeLabel newFiles := by
  have planned : fileWrite plainConversions Dict.empty
      (.createSession 0 newSession) =
        some (.snapshot newName newSession) := rfl
  exact reaches_complete (.start rfl) planned (perform_snapshot_complete _ encodable_newSession)

theorem located_newSession :
    sessionIn plainConversions newFiles newName = some newSession :=
  (sessionIn_snapshot _ _ _ _).trans (readSessionFile_of_complete encodable_newSession)

theorem fileWrite_titledSession : fileWrite plainConversions newFiles
        (.updateSession newSession.id titledSession) =
      some (.snapshot newName titledSession) :=
  (sound_of_reaches reaches_newFiles).fileWrite_update located_newSession rfl

theorem perform_titledSession : perform newFiles (.snapshot newName titledSession) (.cut 0) =
      some tornFiles :=
  perform_snapshot_cut newFiles encodable_titledSession

/--
The write of a title that is stopped behind the opened file: the session was
there before, would be there with the title, and is gone.
-/
theorem torn_session_is_lost : (sessionStore plainConversions).Reachable newFiles ∧
      fileWrite plainConversions newFiles (.updateSession newSession.id titledSession) =
        some (.snapshot newName titledSession) ∧
      perform newFiles (.snapshot newName titledSession) (.cut 0) = some tornFiles ∧
      loadSession plainConversions newFiles newSession.id = some newSession ∧
      ¬ Survives plainConversions newFiles tornFiles
        (perform newFiles (.snapshot newName titledSession) .complete) := by
  have sound := sound_of_reaches reaches_newFiles
  have overwritten : sessionIn plainConversions newFiles newName ≠ none := by
    rw [located_newSession]
    exact nofun
  exact ⟨reaches_newFiles.reachable, fileWrite_titledSession,
    perform_titledSession, sound.loadSession_of_located located_newSession,
    not_survives_of_torn_session sound fileWrite_titledSession perform_titledSession overwritten⟩

/-- The condition of the write that is stopped behind the opened file. -/
theorem survives_iff_safeEnding_titledSession :
    SurvivesAfterwards plainConversions newFiles tornFiles
        (perform newFiles (.snapshot newName titledSession) .complete) ↔
      SafeEnding newFiles (.snapshot newName titledSession) (.cut 0) :=
  survives_iff_safeEnding reaches_newFiles fileWrite_titledSession nofun perform_titledSession

end TurningGood.Sessions.JsonlStore
