import TurningGood.Foundation.Machine
import TurningGood.Sessions.SessionFiles

/-!
# Writes of the session store

A session is written over the old one in place, and rows are appended.  A
write may be cut off behind any byte, and it stops by itself at a text that
cannot be encoded.

A write that only continues files of rows leaves every session and every row
where it was; a session that is written as a whole is read in the directory
that was created for it.
-/

namespace TurningGood.Sessions.JsonlStore

open TurningGood.Foundation

variable (conversions : Conversions)

variable {files target : SessionFiles} {kind : RecordKind} {count : Nat}

/-! ## Writes -/

/-- The calls of the store that write a file. -/
inductive StoreWrite where
  | createSession (stamp : Nat) (session : StoredSession conversions)
  | updateSession (sessionId : CodePoints)
      (session : StoredSession conversions)
  | saveMessage (sessionId : CodePoints) (record : StoredMessage conversions)
  | saveTurnTraces (sessionId : CodePoints) (traces : List StateTrace)
  | saveTrueTokenUsage (sessionId : CodePoints) (usage : TokenUsage)
  | saveToolCalls (sessionId : CodePoints) (records : List ToolCallRecord)
  | recoverRuns (name : DirName)

/-- What is written, and where. -/
inductive FileWrite where
  | snapshot (name : DirName) (session : StoredSession conversions)
  | append (name : DirName) (kind : RecordKind) (rows : List Json)

/-- `_append_jsonl_rows`, which does nothing without rows. -/
def appendRows (name : DirName) (kind : RecordKind) (rows : List Json) :
    Option (FileWrite conversions) :=
  if rows = [] then none else some (.append name kind rows)

/--
The write of a call, if there is one.  A session is created when none is
loaded, and updated when it is.
-/
def fileWrite (files : SessionFiles) : StoreWrite conversions → Option (FileWrite conversions)
  | .createSession stamp session =>
    if (loadSession conversions files session.id).isNone then
      some (.snapshot (.created stamp session.id) session)
    else none
  | .updateSession sessionId session =>
    if hasId conversions session.id
        (loadSession conversions files sessionId) then
      some (.snapshot (findSessionDir conversions files session.id) session)
    else none
  | .saveMessage sessionId record =>
    appendRows conversions (findSessionDir conversions files sessionId)
      .messages [(messageToDict conversions record).json]
  | .saveTurnTraces sessionId traces =>
    (traces.mapM (traceToDict conversions)).bind
      (appendRows conversions (findSessionDir conversions files sessionId)
        .turnTraces)
  | .saveTrueTokenUsage sessionId usage =>
    appendRows conversions (findSessionDir conversions files sessionId)
      .trueTokenUsage [tokenUsageToDict usage]
  | .saveToolCalls sessionId records =>
    appendRows conversions (findSessionDir conversions files sessionId)
      .toolCalls (records.map toolCallToDict)
  | .recoverRuns name =>
    (sessionIn conversions files name).bind fun _ =>
      (JsonLines.readJsonl (recordsIn files name .turnTraces)).bind
        fun traces => (recoveryRows traces).bind (appendRows conversions name .turnTraces)

namespace FileWrite

variable {conversions}

/-- The directory of a write. -/
def name : FileWrite conversions → DirName
  | snapshot name _ => name
  | append name _ _ => name

/-- The bytes that are written when nothing stops the write from outside. -/
def bytes : FileWrite conversions → List UInt8
  | snapshot _ session =>
    match JsonLines.line? (sessionToDict conversions session).json with
    | some line => Utf8.encodeChars line
    | none => []
  | append _ _ rows => JsonLines.appendedBytes rows

/-- All that is written can be encoded. -/
def encodable : FileWrite conversions → Bool
  | snapshot _ session =>
    (JsonLines.line? (sessionToDict conversions session).json).isSome
  | append _ _ rows => rows.all fun row => (JsonLines.line? row).isSome

/-- The directory with the bytes that have been written. -/
def put (write : FileWrite conversions) (written : List UInt8)
    (dir : SessionDir) : SessionDir :=
  match write with
  | snapshot _ _ => { dir with session := some written }
  | append _ kind _ => dir.append kind written

end FileWrite

/-- How a write ends. -/
inductive Ending where
  | complete
  | notOpened
  | cut (count : Nat)
  deriving DecidableEq

/-- A directory that is made if it is missing, and changed. -/
def changeDir (files : SessionFiles) (name : DirName)
    (change : SessionDir → SessionDir) : SessionFiles :=
  files.insert name (change ((files.get? name).getD {}))

variable {conversions}

/-- The files behind a write that ends in this way. -/
def perform (files : SessionFiles) (write : FileWrite conversions) :
    Ending → Option SessionFiles
  | .complete =>
    if write.encodable then
      some (changeDir files write.name (write.put write.bytes))
    else none
  | .notOpened => some (changeDir files write.name id)
  | .cut count =>
    if count < write.bytes.length ∨
        (count = write.bytes.length ∧ write.encodable = false) then
      some (changeDir files write.name (write.put (write.bytes.take count)))
    else none

variable (conversions)

/-- What happens to the files. -/
inductive StoreLabel where
  | write (call : StoreWrite conversions) (ending : Ending)
  | clearSession (sessionId : CodePoints)
  | clearMatching (predicate : StoredSession conversions → Bool)

/-- The step of a label. -/
def storeStep (files : SessionFiles) : StoreLabel conversions → Option SessionFiles
  | .write call ending =>
    (fileWrite conversions files call).bind fun write =>
      perform files write ending
  | .clearSession sessionId =>
    some (files.erase (findSessionDir conversions files sessionId))
  | .clearMatching predicate =>
    some (files.filter fun _ dir => !(dir.read conversions).any predicate)

/-- The store, from the time when it has no sessions. -/
def sessionStore : Machine SessionFiles (StoreLabel conversions) where
  initial files := files = Dict.empty
  step := storeStep conversions

/-! ## Surviving a failed write -/

/-- The call appends rows. -/
def StoreWrite.isAppend {conversions : Conversions} :
    StoreWrite conversions → Bool
  | .createSession .. | .updateSession .. => false
  | .saveMessage .. | .saveTurnTraces .. | .saveTrueTokenUsage ..
  | .saveToolCalls .. | .recoverRuns .. => true

/-- The files after calls whose writes complete. -/
def completeAll (files : SessionFiles) : List (StoreWrite conversions) → Option SessionFiles
  | [] => some files
  | call :: rest =>
    match fileWrite conversions files call with
    | none => completeAll files rest
    | some write =>
      (perform files write .complete).bind fun target =>
        completeAll target rest

/-- What the readers returned is still returned, in front of other rows. -/
structure Kept (before after : SessionFiles) : Prop where
  messages : ∀ sessionId rows, allMessages conversions before sessionId = some rows →
    ∃ more, allMessages conversions after sessionId = some (rows ++ more)
  turnTraces : ∀ sessionId rows, allTurnTraces conversions before sessionId = some rows →
    ∃ more, allTurnTraces conversions after sessionId = some (rows ++ more)
  trueTokenUsage : ∀ sessionId rows, allTrueTokenUsage conversions before sessionId = some rows →
    ∃ more, allTrueTokenUsage conversions after sessionId = some (rows ++ more)

/--
Every session is loaded as before or after the write, the rows are still
returned, and the recovery does not raise.
-/
structure Survives (before after : SessionFiles)
    (completed : Option SessionFiles) : Prop where
  session : ∀ sessionId, loadSession conversions after sessionId =
        loadSession conversions before sessionId ∨
      ∃ target, completed = some target ∧ loadSession conversions after sessionId =
          loadSession conversions target sessionId
  rows : Kept conversions before after
  recovery : (recoverInterruptedRuns conversions after).isSome = true

/-- What was stored survives a write, also when rows are appended later. -/
def SurvivesAfterwards (before after : SessionFiles) (completed : Option SessionFiles) : Prop :=
  ∀ later target, (∀ call ∈ later, call.isAppend = true) →
    completeAll conversions after later = some target →
    Survives conversions before target completed

variable {conversions}

/--
The condition on a write that does not complete: a file that is cut off does
not hold a session that was read before, and rows are cut off between two of
them, unless they are tool calls, which none of the readers reads.
-/
def SafeEnding (files : SessionFiles) (write : FileWrite conversions) :
    Ending → Prop
  | .complete | .notOpened => True
  | .cut count =>
    match write with
    | .snapshot name _ => sessionIn conversions files name = none
    | .append _ kind rows =>
      kind = .toolCalls ∨ JsonLines.CutsBetweenRows rows count

/-- All writes of a run that do not complete end safely. -/
def SafeLabel (files : SessionFiles) (label : StoreLabel conversions) :
    Prop :=
  ∀ call ending write, label = .write call ending → fileWrite conversions files call = some write →
    SafeEnding files write ending

/-! ## Changed directories -/

theorem sessionIn_changeDir_self (files : SessionFiles) (name : DirName)
    (change : SessionDir → SessionDir) :
    sessionIn conversions (changeDir files name change) name =
      (change ((files.get? name).getD {})).read conversions := by
  rw [sessionIn, changeDir, Dict.get?_insert_self]
  rfl

variable {name : DirName}

theorem sessionIn_changeDir_of_ne (files : SessionFiles) {other : DirName}
    (different : other ≠ name) (change : SessionDir → SessionDir) :
    sessionIn conversions (changeDir files name change) other =
      sessionIn conversions files other := by
  rw [sessionIn, changeDir, Dict.get?_insert_of_ne _ _ different]
  rfl

theorem recordsIn_changeDir_self (files : SessionFiles) (name : DirName)
    (change : SessionDir → SessionDir) (kind : RecordKind) :
    recordsIn (changeDir files name change) name kind =
      (change ((files.get? name).getD {})).records kind := by
  rw [recordsIn, changeDir, Dict.get?_insert_self]
  rfl

theorem recordsIn_changeDir_of_ne (files : SessionFiles) {other : DirName}
    (different : other ≠ name) (change : SessionDir → SessionDir)
    (kind : RecordKind) :
    recordsIn (changeDir files name change) other kind =
      recordsIn files other kind := by
  rw [recordsIn, changeDir, Dict.get?_insert_of_ne _ _ different]
  rfl

theorem read_getD (files : SessionFiles) (name : DirName) :
    SessionDir.read conversions ((files.get? name).getD {}) =
      sessionIn conversions files name := by
  rw [sessionIn]
  cases files.get? name <;> rfl

theorem records_getD (files : SessionFiles) (name : DirName) (kind : RecordKind) :
    ((files.get? name).getD {}).records kind = recordsIn files name kind := by
  rw [recordsIn]
  cases files.get? name <;> rfl

theorem recordsIn_changeDir_of_kept (files : SessionFiles) (name : DirName)
    {change : SessionDir → SessionDir}
    (kept : ∀ dir, (change dir).records = dir.records) (other : DirName)
    (kind : RecordKind) :
    recordsIn (changeDir files name change) other kind =
      recordsIn files other kind := by
  by_cases same : other = name
  · subst same
    rw [recordsIn_changeDir_self, kept, records_getD]
  · exact recordsIn_changeDir_of_ne files same change kind

theorem sessionIn_changeDir_of_kept (files : SessionFiles) (name : DirName)
    {change : SessionDir → SessionDir}
    (kept : (change ((files.get? name).getD {})).read conversions =
      sessionIn conversions files name) (other : DirName) :
    sessionIn conversions (changeDir files name change) other =
      sessionIn conversions files other := by
  by_cases same : other = name
  · subst same
    rw [sessionIn_changeDir_self, kept]
  · exact sessionIn_changeDir_of_ne files same change

/-! ## Files that have only got further rows -/

/-- The sessions are the same, and the rows have been continued. -/
structure Extends (conversions : Conversions)
    (files target : SessionFiles) : Prop where
  sessions : ∀ name, sessionIn conversions target name =
    sessionIn conversions files name
  rows : ∀ name kind rows, kind ≠ .toolCalls →
    RowsAre conversions kind (recordsIn files name kind) rows →
    ∃ more, RowsAre conversions kind (recordsIn target name kind) (rows ++ more)

theorem Extends.refl (files : SessionFiles) : Extends conversions files files where
  sessions _ := rfl
  rows name kind rows _ are := ⟨[], by rw [List.append_nil]; exact are⟩

theorem Extends.trans {middle : SessionFiles}
    (first : Extends conversions files middle)
    (second : Extends conversions middle target) :
    Extends conversions files target where
  sessions name := (second.sessions name).trans (first.sessions name)
  rows name kind rows read are := by
    rcases first.rows name kind rows read are with ⟨more, between⟩
    rcases second.rows name kind _ read between with ⟨others, behind⟩
    rw [List.append_assoc] at behind
    exact ⟨more ++ others, behind⟩

theorem Extends.sound (extended : Extends conversions files target)
    (sound : Sound conversions files) : Sound conversions target where
  named name session located :=
    sound.named name session ((extended.sessions name).symm.trans located)
  unique name other session found located second := sound.unique name other session found
      ((extended.sessions name).symm.trans located)
      ((extended.sessions other).symm.trans second)
  rows name kind read := by
    rcases sound.rows name kind read with ⟨rows, are⟩
    rcases extended.rows name kind rows read are with ⟨more, continued⟩
    exact ⟨rows ++ more, continued⟩

theorem Extends.loadSession (extended : Extends conversions files target)
    (sound : Sound conversions files) (sessionId : CodePoints) :
    loadSession conversions target sessionId =
      loadSession conversions files sessionId := by
  rw [JsonlStore.loadSession, sound.findSessionDir_congr extended.sessions, extended.sessions]
  rfl

theorem Extends.readRows (extended : Extends conversions files target)
    (sound : Sound conversions files) (sessionId : CodePoints)
    (read : kind ≠ .toolCalls) :
    ∃ rows more : List JsonRow, (∀ row ∈ rows ++ more, Readable conversions kind row.json) ∧
      readRows conversions files sessionId kind =
        some (rows.map JsonRow.json) ∧
      readRows conversions target sessionId kind =
        some ((rows ++ more).map JsonRow.json) := by
  rcases sound.rows (JsonlStore.findSessionDir conversions files sessionId)
    kind read with ⟨rows, are⟩
  rcases extended.rows _ kind rows read are with ⟨more, continued⟩
  refine ⟨rows, more, continued.1, readJsonl_of_holds are.2, ?_⟩
  rw [JsonlStore.readRows, sound.findSessionDir_congr extended.sessions]
  exact readJsonl_of_holds continued.2

theorem Extends.kept (extended : Extends conversions files target)
    (sound : Sound conversions files) : Kept conversions files target := by
  have same : ∀ sessionId kind rows, kind ≠ .toolCalls →
      JsonlStore.readRows conversions files sessionId kind = some rows →
      ∃ more, JsonlStore.readRows conversions target sessionId kind =
        some (rows ++ more) := by
    intro sessionId kind rows read found
    rcases extended.readRows sound sessionId read with
      ⟨before, more, -, first, second⟩
    rw [first] at found
    cases found
    rw [List.map_append] at second
    exact ⟨_, second⟩
  constructor
  · intro sessionId messages found
    rcases extended.readRows sound sessionId
      (show RecordKind.messages ≠ .toolCalls by decide) with
      ⟨before, more, readable, first, second⟩
    rw [allMessages, first, Option.bind_some] at found
    have others : ((more.map JsonRow.json).mapM
        (dictToMessage conversions)).isSome = true := by
      apply isSome_mapM
      rw [List.forall_mem_map]
      exact fun row member =>
        readable row (List.mem_append_right before member)
    rcases Option.isSome_iff_exists.mp others with ⟨rest, loaded⟩
    refine ⟨rest, ?_⟩
    rw [allMessages, second, Option.bind_some, List.map_append, List.mapM_append, found, loaded]
    rfl
  · exact fun sessionId rows => same sessionId _ rows (by decide)
  · exact fun sessionId rows => same sessionId _ rows (by decide)

theorem Extends.survives (extended : Extends conversions files target)
    (sound : Sound conversions files) (completed : Option SessionFiles) :
    Survives conversions files target completed where
  session sessionId := .inl (extended.loadSession sound sessionId)
  rows := extended.kept sound
  recovery := (extended.sound sound).recoverInterruptedRuns

/-! ## Appended rows -/

/-- Rows that the readers of a file accept. -/
def AppendedRows (conversions : Conversions) (kind : RecordKind)
    (rows : List Json) : Prop :=
  ∃ added : List JsonRow, rows = added.map JsonRow.json ∧
    ∀ row ∈ added, Readable conversions kind row.json

theorem jsonRow_of_proper {row : Json} (proper : row.Proper)
    (isObject : ∃ members, row = .object members) :
    ∃ made : JsonRow, made.json = row := by
  rcases isObject with ⟨members, rfl⟩
  exact ⟨⟨members, proper⟩, rfl⟩

variable {rows : List Json}

theorem appendedRows_of_each (each : ∀ row ∈ rows, row.Proper ∧ (∃ members, row = .object members) ∧
      Readable conversions kind row) : AppendedRows conversions kind rows := by
  induction rows with
  | nil => exact ⟨[], rfl, fun row member => nomatch member⟩
  | cons row rest induction =>
    rw [List.forall_mem_cons] at each
    rcases each with ⟨⟨proper, isObject, readable⟩, later⟩
    rcases induction later with ⟨added, rfl, all⟩
    rcases jsonRow_of_proper proper isObject with ⟨made, rfl⟩
    refine ⟨made :: added, rfl, ?_⟩
    rw [List.forall_mem_cons]
    exact ⟨readable, all⟩

theorem appendedRows_of_traces (each : ∀ row ∈ rows, TraceRow row) :
    AppendedRows conversions .turnTraces rows :=
  appendedRows_of_each fun row member =>
    ⟨(each row member).proper, (each row member).isObject, each row member⟩

theorem forall_of_mapM {α β : Type*} {read : α → Option β}
    {holds : β → Prop}
    (each : ∀ item value, read item = some value → holds value)
    {items : List α} {values : List β}
    (found : items.mapM read = some values) :
    ∀ value ∈ values, holds value := by
  induction items generalizing values with
  | nil =>
    cases found
    exact fun value member => nomatch member
  | cons item rest induction =>
    rw [List.mapM_cons] at found
    rcases Option.bind_eq_some_iff.mp found with ⟨first, same, more⟩
    rcases Option.bind_eq_some_iff.mp more with ⟨others, rest, equal⟩
    cases equal
    rw [List.forall_mem_cons]
    exact ⟨each item first same, induction rest⟩

theorem appendRows_eq_some {write : FileWrite conversions}
    (planned : appendRows conversions name kind rows = some write) :
    write = .append name kind rows := by
  rw [appendRows] at planned
  split at planned
  · cases planned
  · exact (Option.some.inj planned).symm

variable {call : StoreWrite conversions}

theorem fileWrite_of_isAppend {write : FileWrite conversions}
    (appends : call.isAppend = true)
    (planned : fileWrite conversions files call = some write) :
    ∃ name kind rows, write = .append name kind rows := by
  cases call with
  | createSession => cases appends
  | updateSession => cases appends
  | saveMessage => exact ⟨_, _, _, appendRows_eq_some planned⟩
  | saveTrueTokenUsage => exact ⟨_, _, _, appendRows_eq_some planned⟩
  | saveToolCalls => exact ⟨_, _, _, appendRows_eq_some planned⟩
  | saveTurnTraces =>
    rcases Option.bind_eq_some_iff.mp planned with ⟨made, -, same⟩
    exact ⟨_, _, _, appendRows_eq_some same⟩
  | recoverRuns =>
    rcases Option.bind_eq_some_iff.mp planned with ⟨session, -, more⟩
    rcases Option.bind_eq_some_iff.mp more with ⟨traces, -, rest⟩
    rcases Option.bind_eq_some_iff.mp rest with ⟨made, -, same⟩
    exact ⟨_, _, _, appendRows_eq_some same⟩

theorem Sound.appended (sound : Sound conversions files)
    (planned : fileWrite conversions files call =
      some (.append name kind rows)) :
    AppendedRows conversions kind rows ∧
      ∃ sessionId, findSessionDir conversions files sessionId = name := by
  cases call with
  | createSession stamp session =>
    rw [fileWrite] at planned
    split at planned <;> cases planned
  | updateSession sessionId session =>
    rw [fileWrite] at planned
    split at planned <;> cases planned
  | saveMessage sessionId record =>
    cases appendRows_eq_some planned
    refine ⟨⟨[messageToDict conversions record], rfl, ?_⟩, sessionId, rfl⟩
    rw [List.forall_mem_singleton]
    rcases dictToMessage_messageToDict conversions record with
      ⟨message, read, -⟩
    rw [Readable, read]
    rfl
  | saveTurnTraces sessionId traces =>
    rcases Option.bind_eq_some_iff.mp planned with ⟨made, written, same⟩
    cases appendRows_eq_some same
    refine ⟨appendedRows_of_traces ?_, sessionId, rfl⟩
    exact forall_of_mapM (fun trace row => traceToDict_traceRow) written
  | saveTrueTokenUsage sessionId usage =>
    cases appendRows_eq_some planned
    refine ⟨appendedRows_of_each ?_, sessionId, rfl⟩
    rw [List.forall_mem_singleton]
    exact ⟨tokenUsageToDict_proper usage, ⟨_, rfl⟩, trivial⟩
  | saveToolCalls sessionId records =>
    cases appendRows_eq_some planned
    refine ⟨appendedRows_of_each ?_, sessionId, rfl⟩
    rw [List.forall_mem_map]
    exact fun record _ =>
      ⟨toolCallToDict_proper record, ⟨_, rfl⟩, trivial⟩
  | recoverRuns found =>
    rcases Option.bind_eq_some_iff.mp planned with ⟨session, located, more⟩
    rcases Option.bind_eq_some_iff.mp more with ⟨traces, read, rest⟩
    rcases Option.bind_eq_some_iff.mp rest with ⟨made, recovered, same⟩
    cases appendRows_eq_some same
    refine ⟨appendedRows_of_traces ?_, session.id, sound.findSessionDir_of_located located⟩
    rcases sound.rows name .turnTraces (by decide) with ⟨held, are⟩
    rw [readJsonl_of_holds are.2] at read
    cases read
    have soundRows : SoundRows (held.map JsonRow.json) := by
      unfold SoundRows
      rw [List.forall_mem_map]
      exact fun row inside =>
        ⟨are.1 row inside, are.2.encodable row inside⟩
    rcases recoveryRows_sound soundRows with ⟨again, equal, each⟩
    rw [equal] at recovered
    cases recovered
    exact fun row member => (each row member).1

theorem read_append (dir : SessionDir) (kind : RecordKind) (bytes : List UInt8) :
    (dir.append kind bytes).read conversions = dir.read conversions := rfl

theorem extends_append {bytes : List UInt8} (continued : kind ≠ .toolCalls → ∀ rows,
      RowsAre conversions kind (recordsIn files name kind) rows →
      ∃ more, RowsAre conversions kind
        (some ((recordsIn files name kind).getD [] ++ bytes))
        (rows ++ more)) :
    Extends conversions files
      (changeDir files name fun dir => dir.append kind bytes) where
  sessions other := by
    apply sessionIn_changeDir_of_kept
    rw [read_append, read_getD]
  rows other asked rows read are := by
    have unchanged : recordsIn (changeDir files name
          fun dir => dir.append kind bytes) other asked =
          recordsIn files other asked → ∃ more,
        RowsAre conversions asked (recordsIn (changeDir files name
          fun dir => dir.append kind bytes) other asked) (rows ++ more) := by
      intro same
      rw [same]
      exact ⟨[], by rw [List.append_nil]; exact are⟩
    by_cases here : other = name
    · subst here
      by_cases same : asked = kind
      · subst same
        rw [recordsIn_changeDir_self, SessionDir.append]
        simp only [Function.update_self, records_getD]
        exact continued read rows are
      · apply unchanged
        rw [recordsIn_changeDir_self, SessionDir.append]
        simp only [Function.update_of_ne same, records_getD]
    · exact unchanged (recordsIn_changeDir_of_ne files here _ asked)

theorem extends_appendedRows (added : AppendedRows conversions kind rows)
    (between : kind = .toolCalls ∨ JsonLines.CutsBetweenRows rows count) :
    Extends conversions files (changeDir files name fun dir =>
      dir.append kind ((JsonLines.appendedBytes rows).take count)) := by
  apply extends_append
  intro read held are
  rcases added with ⟨made, rfl, readable⟩
  rcases are.2.append_take (between.resolve_left read) with ⟨whole, holds⟩
  refine ⟨JsonLines.encodableRows (made.take whole), ?_, holds⟩
  rw [List.forall_mem_append]
  refine ⟨are.1, fun row member => readable row ?_⟩
  apply List.take_subset whole made
  exact List.takeWhile_subset _ member

/-! ## Rewritten sessions -/

variable {session : StoredSession conversions}

theorem Sound.snapshot (sound : Sound conversions files)
    (planned : fileWrite conversions files call =
      some (.snapshot name session)) :
    (∃ stamp, name = .created stamp session.id) ∧ ((sessionIn conversions files name = none ∧
          ∀ other found, sessionIn conversions files other = some found →
            found.id ≠ session.id) ∨
        ∃ loaded, sessionIn conversions files name = some loaded ∧
          loaded.id = session.id) := by
  cases call with
  | createSession stamp made =>
    rw [fileWrite] at planned
    split at planned
    · rename_i fresh
      cases planned
      have absent : ∀ other found,
          sessionIn conversions files other = some found →
            found.id ≠ session.id := by
        intro other found located same
        have loaded := sound.loadSession_of_located located
        rw [same] at loaded
        rw [loaded] at fresh
        cases fresh
      refine ⟨⟨stamp, rfl⟩, .inl ⟨?_, absent⟩⟩
      cases located : sessionIn conversions files (.created stamp session.id) with
      | none => rfl
      | some found =>
        rcases sound.named _ _ located with ⟨other, same⟩
        exact absurd (DirName.created.inj same).2.symm (absent _ _ located)
    · cases planned
  | updateSession sessionId changed =>
    rw [fileWrite] at planned
    split at planned
    · rename_i known
      cases planned
      rcases hasId_iff.mp known with ⟨loaded, found, same⟩
      rcases sound.loadSession_eq_some found with ⟨equal, located⟩
      have asked : sessionId = session.id := equal.symm.trans same
      subst asked
      rcases sound.named _ _ located with ⟨stamp, named⟩
      refine ⟨⟨stamp, ?_⟩, .inr ⟨loaded, located, equal⟩⟩
      rw [named, equal]
    · cases planned
  | saveMessage | saveTrueTokenUsage | saveToolCalls | saveTurnTraces
  | recoverRuns =>
    rcases fileWrite_of_isAppend rfl planned with ⟨_, _, _, impossible⟩
    cases impossible

theorem readSessionFile_nil : readSessionFile conversions [] = none := by
  have decoded := Utf8.decode?_encodeChars []
  rw [Utf8.encodeChars_nil] at decoded
  rw [readSessionFile, decoded]
  rfl

theorem readSessionFile_of_stopped
    (stopped : count < (FileWrite.snapshot name session).bytes.length ∨
      (count = (FileWrite.snapshot name session).bytes.length ∧
        (FileWrite.snapshot name session).encodable = false)) :
    readSessionFile conversions
      ((FileWrite.snapshot name session).bytes.take count) = none := by
  rw [FileWrite.bytes, FileWrite.encodable] at *
  cases written : JsonLines.line? (sessionToDict conversions session).json with
  | none =>
    rw [List.take_nil]
    exact readSessionFile_nil
  | some line =>
    rw [written] at stopped
    rcases stopped with shorter | ⟨-, impossible⟩
    · exact readSessionFile_of_cut conversions written shorter
    · cases impossible

theorem readSessionFile_of_complete
    (encodable : (FileWrite.snapshot name session).encodable = true) :
    readSessionFile conversions (FileWrite.snapshot name session).bytes =
      some session := by
  rw [FileWrite.encodable] at encodable
  rcases Option.isSome_iff_exists.mp encodable with ⟨line, written⟩
  rw [FileWrite.bytes, written]
  exact readSessionFile_of_line conversions written

theorem sessionIn_snapshot (files : SessionFiles) (name : DirName)
    (session : StoredSession conversions) (bytes : List UInt8) :
    sessionIn conversions (changeDir files name
      ((FileWrite.snapshot name session).put bytes)) name =
        readSessionFile conversions bytes := by
  rw [sessionIn_changeDir_self]
  rfl

theorem recordsIn_snapshot (files : SessionFiles) (name : DirName)
    (session : StoredSession conversions) (bytes : List UInt8)
    (other : DirName) (kind : RecordKind) :
    recordsIn (changeDir files name ((FileWrite.snapshot name session).put bytes)) other kind =
        recordsIn files other kind := by
  have kept : ∀ dir : SessionDir,
      ((FileWrite.snapshot name session).put bytes dir).records =
        dir.records := fun _ => rfl
  exact recordsIn_changeDir_of_kept files name kept other kind

theorem Sound.snapshot_complete (sound : Sound conversions files)
    (planned : fileWrite conversions files call =
      some (.snapshot name session))
    (encodable : (FileWrite.snapshot name session).encodable = true) :
    Sound conversions (changeDir files name
      ((FileWrite.snapshot name session).put (FileWrite.snapshot name session).bytes)) := by
  rcases sound.snapshot planned with ⟨named, before⟩
  have here := sessionIn_snapshot files name session
    (FileWrite.snapshot name session).bytes
  rw [readSessionFile_of_complete encodable] at here
  have others : ∀ other found, other ≠ name →
      sessionIn conversions (changeDir files name
        ((FileWrite.snapshot name session).put
          (FileWrite.snapshot name session).bytes)) other = some found →
      sessionIn conversions files other = some found ∧
        found.id ≠ session.id := by
    intro other found different located
    rw [sessionIn_changeDir_of_ne files different] at located
    refine ⟨located, fun same => ?_⟩
    rcases before with ⟨-, absent⟩ | ⟨loaded, held, equal⟩
    · exact absent other found located same
    · exact different (sound.unique _ _ _ _ located held (same.trans equal.symm))
  refine ⟨⟨?_, ?_⟩, ?_⟩
  · intro other found located
    by_cases same : other = name
    · subst same
      rw [here] at located
      cases located
      exact named
    · exact sound.named other found (others other found same located).1
  · intro first second found other located again equal
    by_cases atFirst : first = name
    · by_cases atSecond : second = name
      · rw [atFirst, atSecond]
      · subst atFirst
        rw [here] at located
        cases located
        exact absurd equal.symm (others second other atSecond again).2
    · by_cases atSecond : second = name
      · subst atSecond
        rw [here] at again
        cases again
        exact absurd equal (others first found atFirst located).2
      · exact sound.unique _ _ _ _ (others _ _ atFirst located).1
          (others _ _ atSecond again).1 equal
  · intro other kind read
    rw [recordsIn_snapshot]
    exact sound.rows other kind read

theorem sessionIn_of_stopped (files : SessionFiles) {after : SessionFiles}
    (failed : perform files (.snapshot name session) (.cut count) = some after) :
    sessionIn conversions after name = none ∧
      (∀ other, other ≠ name → sessionIn conversions after other =
        sessionIn conversions files other) ∧
      ∀ other kind, recordsIn after other kind =
        recordsIn files other kind := by
  rw [perform] at failed
  split at failed
  · rename_i stopped
    cases failed
    refine ⟨?_, ?_, ?_⟩
    · exact (sessionIn_snapshot files name session _).trans (readSessionFile_of_stopped stopped)
    · exact fun other different =>
        sessionIn_changeDir_of_ne files different _
    · exact fun other kind =>
        recordsIn_snapshot files name session _ other kind
  · cases failed

end TurningGood.Sessions.JsonlStore
