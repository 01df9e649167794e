import TurningGood.Sessions.RunRecovery

/-!
# The files of the sessions and their readers

Every session has a directory with a file for the session and files of rows.
A directory is found by reading the sessions of all directories; if there is
none with the id, the old name stands in.  The readers of rows raise when a
row cannot be read, and so does the recovery of the interrupted runs, which
goes through all sessions.
-/

namespace TurningGood.Sessions.JsonlStore

open TurningGood.Foundation

variable {sessionId : CodePoints}

/-! ## Directories -/

/-- The files of rows in the directory of a session. -/
inductive RecordKind where
  | messages
  | turnTraces
  | trueTokenUsage
  | toolCalls
  deriving DecidableEq

/-- The names of directories: `quote(id)`, and `_new_session_dir`. -/
inductive DirName where
  | legacy (sessionId : CodePoints)
  | created (stamp : Nat) (sessionId : CodePoints)
  deriving DecidableEq

/-- The files in a directory, as far as they exist. -/
structure SessionDir where
  session : Option (List UInt8) := none
  records : RecordKind → Option (List UInt8) := fun _ => none

/-- `sessions_dir`. -/
abbrev SessionFiles := Dict DirName SessionDir

variable (conversions : Conversions)

/-- The session that is read in a directory. -/
def SessionDir.read (dir : SessionDir) :
    Option (StoredSession conversions) :=
  dir.session.bind (readSessionFile conversions)

/-- The session that is read in the directory with a name. -/
def sessionIn (files : SessionFiles) (name : DirName) :
    Option (StoredSession conversions) :=
  (files.get? name).bind (SessionDir.read conversions)

/-- A file of rows in the directory with a name. -/
def recordsIn (files : SessionFiles) (name : DirName) (kind : RecordKind) :
    Option (List UInt8) :=
  (files.get? name).bind (·.records kind)

/-- The id of the session is the wanted one. -/
def hasId (sessionId : CodePoints) (session : Option (StoredSession conversions)) : Bool :=
  session.any fun found => found.id = sessionId

/-- `_find_session_dir`. -/
def findSessionDir (files : SessionFiles) (sessionId : CodePoints) :
    DirName :=
  if hasId conversions sessionId
      (sessionIn conversions files (.legacy sessionId)) then
    .legacy sessionId
  else
    match files.entries.find? fun entry =>
        hasId conversions sessionId (entry.2.read conversions) with
    | some entry => entry.1
    | none => .legacy sessionId

/-- `load_session`. -/
def loadSession (files : SessionFiles) (sessionId : CodePoints) :
    Option (StoredSession conversions) :=
  sessionIn conversions files (findSessionDir conversions files sessionId)

/-- The rows of a file of a session. -/
def readRows (files : SessionFiles) (sessionId : CodePoints)
    (kind : RecordKind) : Option (List Json) :=
  JsonLines.readJsonl (recordsIn files (findSessionDir conversions files sessionId) kind)

/-- `all_messages`. -/
def allMessages (files : SessionFiles) (sessionId : CodePoints) :
    Option (List LoadedMessage) :=
  (readRows conversions files sessionId .messages).bind fun rows =>
    rows.mapM (dictToMessage conversions)

/-- `all_turn_traces`. -/
def allTurnTraces (files : SessionFiles) (sessionId : CodePoints) :
    Option (List Json) :=
  readRows conversions files sessionId .turnTraces

/-- `all_true_token_usage`. -/
def allTrueTokenUsage (files : SessionFiles) (sessionId : CodePoints) :
    Option (List Json) :=
  readRows conversions files sessionId .trueTokenUsage

/-- A file of rows in a directory, written behind what it holds. -/
def SessionDir.append (dir : SessionDir) (kind : RecordKind) (bytes : List UInt8) : SessionDir :=
  { dir with
    records := Function.update dir.records kind (some ((dir.records kind).getD [] ++ bytes)) }

/-- One turn of the loop of `recover_interrupted_runs`. -/
def recoverDir (dir : SessionDir) :
    Option (SessionDir × List CodePoints) :=
  match dir.read conversions with
  | none => some (dir, [])
  | some _ =>
    (JsonLines.readJsonl (dir.records .turnTraces)).bind fun traces =>
      (recoveredRuns traces).bind fun runs =>
        let additions := runs.flatMap (·.2)
        if additions.all fun row => (JsonLines.line? row).isSome then
          some (if additions = [] then dir else
            dir.append .turnTraces (JsonLines.appendedBytes additions),
            runs.map (·.1))
        else none

/-- `recover_interrupted_runs`: the directories that it leaves. -/
def recoverInterruptedRuns (files : SessionFiles) :
    Option (List (DirName × SessionDir × List CodePoints)) :=
  files.entries.mapM fun entry =>
    (recoverDir conversions entry.2).map fun result => (entry.1, result)

/-! ## Sound files -/

variable {conversions}

/-- What the readers of a row rely on. -/
def Readable (conversions : Conversions) (kind : RecordKind) (row : Json) :
    Prop :=
  match kind with
  | .messages => (dictToMessage conversions row).isSome = true
  | .turnTraces => TraceRow row
  | .trueTokenUsage | .toolCalls => True

/-- The rows of a file can be read. -/
def RowsAre (conversions : Conversions) (kind : RecordKind)
    (file : Option (List UInt8)) (rows : List JsonRow) : Prop :=
  (∀ row ∈ rows, Readable conversions kind row.json) ∧
    JsonLines.Holds (file.getD []) rows

/--
Every session lies in the directory that was created for it, and there is no
other one with its id.
-/
structure Placed (conversions : Conversions) (files : SessionFiles) :
    Prop where
  named : ∀ name session, sessionIn conversions files name = some session →
    ∃ stamp, name = .created stamp session.id
  unique : ∀ name other session found, sessionIn conversions files name = some session →
    sessionIn conversions files other = some found →
    session.id = found.id → name = other

/-- In addition, all files of rows, but those of tool calls, can be read. -/
structure Sound (conversions : Conversions) (files : SessionFiles) : Prop
    extends Placed conversions files where
  rows : ∀ name kind, kind ≠ .toolCalls →
    ∃ rows, RowsAre conversions kind (recordsIn files name kind) rows

theorem readJsonl_of_holds {file : Option (List UInt8)}
    {rows : List JsonRow} (holds : JsonLines.Holds (file.getD []) rows) :
    JsonLines.readJsonl file = some (rows.map JsonRow.json) := by
  have read := holds.readJsonl
  cases file with
  | some bytes => exact read
  | none =>
    have empty : JsonLines.readJsonl (some []) = some [] := by
      have decoded := Utf8.decode?_encodeChars []
      rw [Utf8.encodeChars_nil] at decoded
      rw [JsonLines.readJsonl, decoded]
      rfl
    exact empty.symm.trans read

theorem hasId_iff {session : Option (StoredSession conversions)} :
    hasId conversions sessionId session = true ↔
      ∃ found, session = some found ∧ found.id = sessionId := by
  cases session with
  | none => simp [hasId]
  | some found => simp [hasId]

variable {files : SessionFiles}

theorem sessionIn_of_mem {entry : DirName × SessionDir} (member : entry ∈ files.entries) :
    sessionIn conversions files entry.1 = entry.2.read conversions := by
  rw [sessionIn, (files.mem_entries_iff _ _).mp member]
  rfl

variable {session : StoredSession conversions}

theorem Placed.findSessionDir_of_located (placed : Placed conversions files)
    {name : DirName}
    (located : sessionIn conversions files name = some session) :
    findSessionDir conversions files session.id = name := by
  rw [findSessionDir]
  split
  · rename_i old
    rcases hasId_iff.mp old with ⟨found, same, equal⟩
    exact placed.unique _ _ _ _ same located equal
  · split
    · rename_i entry first
      have passed := List.find?_some first
      rcases hasId_iff.mp passed with ⟨found, same, equal⟩
      rw [← sessionIn_of_mem (List.mem_of_find?_eq_some first)] at same
      exact placed.unique _ _ _ _ same located equal
    · rename_i absent
      rcases Option.bind_eq_some_iff.mp located with ⟨dir, present, read⟩
      have member := (files.mem_entries_iff _ _).mpr present
      have refused := List.find?_eq_none.mp absent _ member
      exact absurd (hasId_iff.mpr ⟨session, read, rfl⟩) refused

theorem findSessionDir_of_absent (absent : ∀ name session,
      sessionIn conversions files name = some session →
        session.id ≠ sessionId) :
    findSessionDir conversions files sessionId = .legacy sessionId := by
  rw [findSessionDir]
  split
  · rfl
  · split
    · rename_i entry first
      have passed := List.find?_some first
      rcases hasId_iff.mp passed with ⟨found, same, equal⟩
      rw [← sessionIn_of_mem (List.mem_of_find?_eq_some first)] at same
      exact absurd equal (absent _ _ same)
    · rfl

theorem Placed.loadSession_of_located (placed : Placed conversions files)
    {name : DirName}
    (located : sessionIn conversions files name = some session) :
    loadSession conversions files session.id = some session := by
  rw [loadSession, placed.findSessionDir_of_located located, located]

theorem Placed.loadSession_of_absent (placed : Placed conversions files)
    (absent : ∀ name session, sessionIn conversions files name = some session →
        session.id ≠ sessionId) :
    loadSession conversions files sessionId = none := by
  rw [loadSession, findSessionDir_of_absent absent]
  cases located : sessionIn conversions files (.legacy sessionId) with
  | none => rfl
  | some session =>
    rcases placed.named _ _ located with ⟨stamp, impossible⟩
    cases impossible

theorem Placed.loadSession_eq_some (placed : Placed conversions files)
    (loaded : loadSession conversions files sessionId = some session) :
    session.id = sessionId ∧ sessionIn conversions files
        (findSessionDir conversions files sessionId) = some session := by
  refine ⟨?_, loaded⟩
  by_contra other
  have absent : ∀ name found,
      sessionIn conversions files name = some found →
        found.id ≠ sessionId := by
    intro name found located same
    have again := placed.loadSession_of_located located
    rw [same, loaded] at again
    cases again
    exact other same
  rw [placed.loadSession_of_absent absent] at loaded
  cases loaded

theorem Placed.findSessionDir_congr {target : SessionFiles} (placed : Placed conversions files)
    (sessions : ∀ name, sessionIn conversions target name =
      sessionIn conversions files name) (sessionId : CodePoints) :
    findSessionDir conversions target sessionId =
      findSessionDir conversions files sessionId := by
  by_cases located : ∃ name session, sessionIn conversions files name = some session ∧
        session.id = sessionId
  · rcases located with ⟨name, session, found, rfl⟩
    rw [placed.findSessionDir_of_located found]
    have again : Placed conversions target := by
      constructor
      · intro other session
        rw [sessions]
        exact placed.named other session
      · intro first second session found
        rw [sessions, sessions]
        exact placed.unique first second session found
    exact again.findSessionDir_of_located ((sessions name).trans found)
  · have absent : ∀ name session,
        sessionIn conversions files name = some session →
          session.id ≠ sessionId := fun name session found same =>
      located ⟨name, session, found, same⟩
    rw [findSessionDir_of_absent absent]
    apply findSessionDir_of_absent
    intro name session found
    exact absent name session ((sessions name).symm.trans found)

theorem isSome_mapM {α β : Type*} {read : α → Option β} {items : List α}
    (each : ∀ item ∈ items, (read item).isSome = true) :
    (items.mapM read).isSome = true := by
  induction items with
  | nil => rfl
  | cons item rest induction =>
    rw [List.forall_mem_cons] at each
    rcases Option.isSome_iff_exists.mp each.1 with ⟨first, found⟩
    rcases Option.isSome_iff_exists.mp (induction each.2) with ⟨others, same⟩
    rw [List.mapM_cons, found]
    change Option.isSome (Option.bind (rest.mapM read) _) = true
    rw [same]
    rfl

theorem Sound.recoverInterruptedRuns (sound : Sound conversions files) :
    (recoverInterruptedRuns conversions files).isSome = true := by
  have each : ∀ entry ∈ files.entries,
      (recoverDir conversions entry.2).isSome = true := by
    intro entry member
    rw [recoverDir]
    split
    · rfl
    · rcases sound.rows entry.1 .turnTraces (by decide) with ⟨rows, are⟩
      have file : recordsIn files entry.1 .turnTraces =
          entry.2.records .turnTraces := by
        rw [recordsIn, (files.mem_entries_iff _ _).mp member]
        rfl
      rw [file] at are
      have soundRows : SoundRows (rows.map JsonRow.json) := by
        unfold SoundRows
        rw [List.forall_mem_map]
        exact fun row inside => ⟨are.1 row inside, are.2.encodable row inside⟩
      rcases recoveryRows_sound soundRows with ⟨additions, made, encodable⟩
      rcases Option.map_eq_some_iff.mp made with ⟨runs, found, rfl⟩
      rw [readJsonl_of_holds are.2, Option.bind_some, found, Option.bind_some]
      have all : ((runs.flatMap (·.2)).all fun row =>
          (JsonLines.line? row).isSome) = true := by
        rw [List.all_eq_true]
        intro row inside
        exact (Json.encodable_iff_line? row).mpr (encodable row inside).2
      simp only [all, if_true]
      rfl
  apply isSome_mapM
  intro entry member
  rw [Option.isSome_map]
  exact each entry member

end TurningGood.Sessions.JsonlStore
