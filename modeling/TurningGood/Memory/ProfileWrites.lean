import TurningGood.Foundation.Fallible
import TurningGood.Foundation.JsonFields
import TurningGood.Memory.ProfileFiles

/-!
# Writes of the profile, whole or not at all

Writing one file either succeeds, and then the file holds the text and no
temporary file is left, or fails, and then the other file is as it was.  What
restoring brings back are the texts that were read: a file with a carriage
return is not what it was, and the temporary file of a file that was missing
stays where the failure left it.
-/

namespace TurningGood.Memory

open TurningGood.Foundation TurningGood.Sessions

variable {file : ProfileFile} {disk : ProfileDisk}
  {previous : Option CodePoints} {fates : WriteFates}
  {files : ProfileFile → Option (List UInt8)} {memory : ProfileMemory}
  {snapshot : ProfileMemorySnapshot}

namespace RenderedFates

/-- Whether writing a file fails. -/
def fails (fates : RenderedFates) (encodable : Bool) : Bool :=
  fates.directoryFails || fates.temporary ≠ .done || !encodable ||
    match fates.replace with
    | .done => false
    | .refused => true
    | .blocked => fates.direct ≠ .done || fates.unlinkFails

/-- Whether a write that fails leaves its temporary file. -/
def leavesTemporary (fates : RenderedFates) (encodable : Bool) : Bool :=
  !fates.directoryFails && fates.temporary ≠ .refused && (fates.temporary ≠ .done || !encodable ||
      match fates.replace with
      | .done => false
      | .refused => fates.unlinkFails
      | .blocked => fates.direct ≠ .done || fates.unlinkFails)

end RenderedFates

/-- What writing one file does to the directory. -/
structure Rendered (fates : RenderedFates) (file : ProfileFile)
    (content : CodePoints) (before after : ProfileDisk) (ok : Bool) :
    Prop where
  outcome : ok = !fates.fails (Utf8.encode? content).isSome
  otherFile : ∀ other, other ≠ file → after.files other = before.files other
  otherTemporary : ∀ other, other ≠ file → after.temporaries other = before.temporaries other
  written : ok = true → after.files file = Utf8.encode? content
  moved : ok = true → after.temporaries file = none
  left : ok = false → before.temporaries file = none → (after.temporaries file = none ↔
      fates.leavesTemporary (Utf8.encode? content).isSome = false)

theorem rendered_moveRendered {fates : RenderedFates} {content : CodePoints}
    {bytes : List UInt8} (disk : ProfileDisk)
    (started : fates.directoryFails = false)
    (temporary : fates.temporary = .done)
    (encoded : Utf8.encode? content = some bytes) :
    let moved := moveRendered fates file content
      (disk.setTemporary file (some bytes))
    Rendered fates file content disk moved.1 moved.2 := by
  cases replace : fates.replace with
  | done =>
    constructor <;> simp_all [moveRendered, ProfileDisk.replaceFile,
        ProfileDisk.setFile, ProfileDisk.setTemporary,
        RenderedFates.fails]
  | refused =>
    cases unlink : fates.unlinkFails <;> constructor <;>
      simp_all [moveRendered, ProfileDisk.unlinkTemporary,
        ProfileDisk.setTemporary, RenderedFates.fails,
        RenderedFates.leavesTemporary]
  | blocked =>
    cases direct : fates.direct <;> cases unlink : fates.unlinkFails <;> constructor <;>
      simp_all [moveRendered, WriteFate.write, ProfileDisk.unlinkTemporary, ProfileDisk.setFile,
        ProfileDisk.setTemporary, RenderedFates.fails,
        RenderedFates.leavesTemporary]

theorem rendered_writeRenderedFile (fates : RenderedFates)
    (file : ProfileFile) (content : CodePoints) (disk : ProfileDisk) :
    Rendered fates file content disk (writeRenderedFile fates file content disk).1
      (writeRenderedFile fates file content disk).2 := by
  unfold writeRenderedFile
  split
  · next directoryFails =>
      constructor <;> simp [directoryFails, RenderedFates.fails, RenderedFates.leavesTemporary]
  · next started =>
      cases temporary : fates.temporary <;> cases encoded : Utf8.encode? content
      case done.some bytes =>
        exact rendered_moveRendered disk (by simpa using started) temporary
          encoded
      -- The write of the temporary file fails.
      all_goals
        constructor <;> simp_all [WriteFate.write, ProfileDisk.setTemporary,
            RenderedFates.fails, RenderedFates.leavesTemporary]

/-! ## Contents -/

theorem mem_of_mem_stripPoints {point : CodePoint} {content : CodePoints}
    (member : point ∈ stripPoints content) : point ∈ content :=
  (List.dropWhile_sublist _).subset ((List.rdropWhile_prefix _ _).subset member)

theorem dropWhile_stripPoints (content : CodePoints) :
    (stripPoints content).dropWhile JsonlStore.isSpacePoint =
      stripPoints content := by
  have begins : stripPoints content <+:
      content.dropWhile JsonlStore.isSpacePoint :=
    List.rdropWhile_prefix _ _
  rw [List.dropWhile_eq_self_iff]
  intro nonempty
  rw [begins.getElem nonempty]
  exact List.dropWhile_get_zero_not _ content (nonempty.trans_le begins.length_le)

theorem stripPoints_rendered (content : CodePoints) :
    stripPoints (rendered content) = stripPoints content := by
  unfold rendered
  split
  · next empty =>
      rw [empty]
      rfl
  · next nonempty =>
      have front : (stripPoints content ++ [CodePoint.scalar '\n']).dropWhile
          JsonlStore.isSpacePoint =
            stripPoints content ++ [CodePoint.scalar '\n'] := by
        rw [List.dropWhile_append, dropWhile_stripPoints, if_neg]
        simpa using nonempty
      rw [stripPoints, front, List.rdropWhile_concat_pos _ _ _ rfl]
      exact List.rdropWhile_idempotent _ _

theorem mem_rendered {content : CodePoints} : CodePoint.scalar '\r' ∈ rendered content ↔
      .scalar '\r' ∈ stripPoints content := by
  rw [rendered, List.mem_append]
  constructor
  · rintro (member | member)
    · exact member
    · split at member
      · cases member
      · cases List.mem_singleton.mp member
  · exact Or.inl

theorem mem_textOf {char : Char} {chars : List Char} :
    CodePoint.scalar char ∈ textOf chars ↔ char ∈ chars := by
  constructor
  · intro member
    rcases List.mem_map.mp member with ⟨other, inside, same⟩
    cases same
    exact inside
  · exact List.mem_map_of_mem

theorem universalNewlines_eq_self_iff {chars : List Char} :
    JsonLines.universalNewlines chars = chars ↔ '\r' ∉ chars := by
  constructor
  · intro same
    rw [← same]
    exact Text.notMem_universalNewlines chars
  · intro plain
    apply JsonLines.universalNewlines_of_printed
    rintro char member rfl
    exact plain member

theorem readFile_of_written {content : CodePoints} (encodable :
      (Utf8.encode? (rendered content)).isSome = true)
    (onDisk : disk.files file = Utf8.encode? (rendered content)) :
    ∃ text, readFile disk file = .ok text ∧ (text = stripPoints content ↔
        .scalar '\r' ∉ stripPoints content) := by
  rcases Option.isSome_iff_exists.mp encodable with ⟨bytes, encoded⟩
  rcases Option.map_eq_some_iff.mp encoded with ⟨chars, scalars, rfl⟩
  have written := Utf8.textOf_of_scalars? scalars
  refine ⟨stripPoints (textOf (JsonLines.universalNewlines chars)), ?_, ?_⟩
  · rw [readFile, onDisk, encoded]
    simp only [readText, Utf8.decode?_encodeChars]
    rfl
  · constructor
    · intro same
      rw [← same]
      intro member
      exact Text.notMem_universalNewlines chars (mem_textOf.mp (mem_of_mem_stripPoints member))
    · intro plain
      rw [← mem_rendered, ← written, mem_textOf, ← universalNewlines_eq_self_iff] at plain
      rw [plain, written, stripPoints_rendered]

/-- A file, if there is one, has no carriage returns. -/
def IsPlainFile (bytes : Option (List UInt8)) : Prop :=
  ∀ chars, bytes = some (Utf8.encodeChars chars) → '\r' ∉ chars

theorem encode?_textOf (chars : List Char) :
    Utf8.encode? (textOf chars) = some (Utf8.encodeChars chars) := by
  rw [Utf8.encode?, Utf8.scalars?_textOf]
  rfl

theorem readRawFile_eq_ok (read : readRawFile disk file = .ok previous) :
    (disk.files file = none ∧ previous = none) ∨
      ∃ chars, disk.files file = some (Utf8.encodeChars chars) ∧
        previous = some (textOf (JsonLines.universalNewlines chars)) := by
  unfold readRawFile at read
  cases onDisk : disk.files file with
  | none =>
    rw [onDisk] at read
    cases read
    exact Or.inl ⟨rfl, rfl⟩
  | some bytes =>
    rw [onDisk] at read
    rcases map_eq_ok.mp read with ⟨text, readable, rfl⟩
    unfold readText at readable
    cases decoded : Utf8.decode? bytes with
    | none =>
      rw [decoded] at readable
      cases readable
    | some chars =>
      rw [decoded] at readable
      cases readable
      rw [← Utf8.encodeChars_of_decode? decoded]
      exact Or.inr ⟨chars, rfl, rfl⟩

theorem encode_previous_iff (read : readRawFile disk file = .ok previous) :
    previous.bind Utf8.encode? = disk.files file ↔
      IsPlainFile (disk.files file) := by
  rcases readRawFile_eq_ok read with ⟨missing, rfl⟩ | ⟨chars, onDisk, rfl⟩
  · rw [missing]
    exact iff_of_true rfl nofun
  · rw [onDisk, Option.bind_some, encode?_textOf, Option.some_inj]
    constructor
    · intro same others sameFile
      cases Utf8.encodeChars_injective (Option.some.inj sameFile)
      exact universalNewlines_eq_self_iff.mp (Utf8.encodeChars_injective same)
    · intro plain
      rw [universalNewlines_eq_self_iff.mpr (plain chars rfl)]

theorem readPrevious_eq_ok {previous : ProfileFile → Option CodePoints}
    (read : readPrevious disk = .ok previous) (file : ProfileFile) :
    readRawFile disk file = .ok (previous file) := by
  unfold readPrevious at read
  rcases bind_eq_ok.mp read with ⟨soul, readSoul, read⟩
  rcases bind_eq_ok.mp read with ⟨user, readUser, read⟩
  cases read
  cases file with
  | soul => exact readSoul
  | user => exact readUser

/-- Nothing that restores the files fails. -/
def WriteFates.Restores (fates : WriteFates) : Prop :=
  ∀ file, (fates.restoring file).fails true = false ∧ fates.removalFails file = false

/-- One file is back at the text that was read. -/
structure RestoredFile (file : ProfileFile) (previous : Option CodePoints)
    (before after : ProfileDisk) : Prop where
  content : after.files file = previous.bind Utf8.encode?
  leftover : after.temporaries file =
    if previous.isSome then none else before.temporaries file
  otherFile : ∀ other, other ≠ file → after.files other = before.files other
  otherTemporary : ∀ other, other ≠ file → after.temporaries other = before.temporaries other

theorem restoreFile_spec (restores : fates.Restores) (file : ProfileFile)
    (encodable : ∀ content, previous = some content →
      (Utf8.encode? content).isSome = true) (disk : ProfileDisk) :
    (restoreFile fates file previous disk).2 = true ∧ RestoredFile file previous disk
        (restoreFile fates file previous disk).1 := by
  cases previous with
  | none =>
    rw [restoreFile, (restores file).2]
    refine ⟨rfl, ?_, rfl, ?_, fun _ _ => rfl⟩
    · exact Function.update_self file none disk.files
    · intro other differs
      exact Function.update_of_ne differs none disk.files
  | some content =>
    have spec := rendered_writeRenderedFile (fates.restoring file) file
      content disk
    have done :
        (restoreFile fates file (some content) disk).2 = true := by
      rw [restoreFile, spec.outcome, encodable content rfl, (restores file).1]
      rfl
    exact ⟨done, spec.written done, spec.moved done, spec.otherFile, spec.otherTemporary⟩

theorem restoreFiles_spec (restores : fates.Restores)
    {previous : ProfileFile → Option CodePoints}
    (encodable : ∀ file content, previous file = some content →
      (Utf8.encode? content).isSome = true) (disk : ProfileDisk) :
    (restoreFiles fates previous disk).2 = .raised ∧ ∀ file,
        (restoreFiles fates previous disk).1.files file = (previous file).bind Utf8.encode? ∧
          (restoreFiles fates previous disk).1.temporaries file =
            if (previous file).isSome then none
            else disk.temporaries file := by
  have differs : ProfileFile.soul ≠ .user := nofun
  rcases soul : restoreFile fates .soul (previous .soul) disk with ⟨middle, soulDone⟩
  have soulSpec := restoreFile_spec restores .soul (encodable .soul) disk
  rw [soul] at soulSpec
  rcases soulSpec with ⟨rfl, soulBack⟩
  rcases user : restoreFile fates .user (previous .user) middle with ⟨after, userDone⟩
  have userSpec := restoreFile_spec restores .user (encodable .user) middle
  rw [user] at userSpec
  rcases userSpec with ⟨rfl, userBack⟩
  have ended : restoreFiles fates previous disk = (after, .raised) := by
    rw [restoreFiles, soul]
    simp only [user]
  rw [ended]
  refine ⟨rfl, fun file => ?_⟩
  cases file with
  | soul =>
    exact ⟨(userBack.otherFile .soul differs).trans soulBack.content,
      (userBack.otherTemporary .soul differs).trans soulBack.leftover⟩
  | user =>
    refine ⟨userBack.content, userBack.leftover.trans ?_⟩
    rw [soulBack.otherTemporary .user differs.symm]

/-! ## The whole write -/

/-- Whether what is written for a file can be encoded. -/
def encodable (snapshot : ProfileMemorySnapshot) (file : ProfileFile) :
    Bool :=
  (Utf8.encode? (rendered (snapshot.content file))).isSome

/-- Whether writing a file of a snapshot fails. -/
def WriteFates.failsAt (fates : WriteFates)
    (snapshot : ProfileMemorySnapshot) (file : ProfileFile) : Bool :=
  (fates.writing file).fails (encodable snapshot file)

/-- The file whose write fails, if one does. -/
def WriteFates.failing? (fates : WriteFates)
    (snapshot : ProfileMemorySnapshot) : Option ProfileFile :=
  if fates.failsAt snapshot .soul then some .soul
  else if fates.failsAt snapshot .user then some .user
  else none

/--
A write that raises leaves the files byte for byte and no temporary file, and
after one that returns the stripped snapshot is read.
-/
def AllOrNothing (memory : ProfileMemory) (fates : WriteFates) (snapshot : ProfileMemorySnapshot)
    (files : ProfileFile → Option (List UInt8)) : Prop :=
  let result := memory.write fates snapshot (.settled files)
  (result.2 = .raised → result.1 = .settled files) ∧ (result.2 = .returned →
      memory.read result.1 = .ok snapshot.stripped)

/--
What a write needs once the candidate was accepted and both files were read.
If it succeeds, the stripped contents have no carriage return and are within
the limits as well; if it fails, the files have none, and a file that was
missing is not the one whose failure leaves a temporary file.
-/
def Spared (memory : ProfileMemory) (fates : WriteFates) (snapshot : ProfileMemorySnapshot)
    (files : ProfileFile → Option (List UInt8)) : Prop :=
  match fates.failing? snapshot with
  | none =>
    (∀ file, .scalar '\r' ∉ stripPoints (snapshot.content file)) ∧
      memory.validate snapshot.stripped = .ok ()
  | some file =>
    (∀ other, IsPlainFile (files other)) ∧ (files file = none →
        (fates.writing file).leavesTemporary (encodable snapshot file) = false)

theorem rendered_writeFile (fates : WriteFates)
    (snapshot : ProfileMemorySnapshot) (file : ProfileFile)
    (disk : ProfileDisk) :
    Rendered (fates.writing file) file (rendered (snapshot.content file)) disk
      (writeFile fates file (snapshot.content file) disk).1
      (writeFile fates file (snapshot.content file) disk).2 :=
  rendered_writeRenderedFile _ _ _ _

theorem encodable_previous (read : readRawFile disk file = .ok previous)
    (content : CodePoints) (same : previous = some content) :
    (Utf8.encode? content).isSome = true := by
  rcases readRawFile_eq_ok read with ⟨-, rfl⟩ | ⟨chars, -, rfl⟩
  · cases same
  · cases same
    rw [encode?_textOf]
    rfl

theorem isSome_previous (read : readRawFile disk file = .ok previous) :
    previous.isSome = false ↔ disk.files file = none := by
  rcases readRawFile_eq_ok read with ⟨missing, rfl⟩ | ⟨chars, onDisk, rfl⟩
  · exact iff_of_true rfl missing
  · rw [onDisk]
    exact iff_of_false nofun nofun

theorem restored_eq_settled_iff (restores : fates.Restores)
    {previous : ProfileFile → Option CodePoints}
    (read : readPrevious (.settled files) = .ok previous)
    {failed : ProfileFile} {leaves : Bool}
    (others : ∀ other, other ≠ failed → disk.temporaries other = none)
    (left : disk.temporaries failed = none ↔ leaves = false) :
    (restoreFiles fates previous disk).1 = .settled files ↔
      (∀ other, IsPlainFile (files other)) ∧ (files failed = none → leaves = false) := by
  have each := readPrevious_eq_ok read
  have back := (restoreFiles_spec restores
    (fun file => encodable_previous (each file)) disk).2
  have plain : ∀ file, (previous file).bind Utf8.encode? = files file ↔
      IsPlainFile (files file) := fun file => encode_previous_iff (each file)
  have known : ∀ file, (previous file).isSome = false ↔
      files file = none := fun file => isSome_previous (each file)
  constructor
  · intro same
    constructor
    · intro other
      rw [← plain, ← (back other).1, same]
      rfl
    · intro missing
      have gone := (back failed).2
      rw [same, (known failed).mpr missing, if_neg Bool.false_ne_true] at gone
      exact left.mp gone.symm
  · rintro ⟨allPlain, clean⟩
    apply ProfileDisk.ext
    · funext file
      rw [(back file).1]
      exact (plain file).mpr (allPlain file)
    · funext file
      rw [(back file).2]
      split
      · rfl
      · next unknown =>
          have missing := (known file).mp (Bool.not_eq_true _ ▸ unknown)
          by_cases same : file = failed
          · rw [same] at missing ⊢
            exact left.mpr (clean missing)
          · exact others file same

theorem allOrNothing_of_restored (restores : fates.Restores)
    {previous : ProfileFile → Option CodePoints}
    (read : readPrevious (.settled files) = .ok previous)
    {failed : ProfileFile} {leaves : Bool}
    (others : ∀ other, other ≠ failed → disk.temporaries other = none)
    (left : disk.temporaries failed = none ↔ leaves = false)
    (ended : memory.write fates snapshot (.settled files) = restoreFiles fates previous disk) :
    AllOrNothing memory fates snapshot files ↔ (∀ other, IsPlainFile (files other)) ∧
        (files failed = none → leaves = false) := by
  rw [← restored_eq_settled_iff restores read others left, AllOrNothing, ended]
  have raised := (restoreFiles_spec restores
    (fun file => encodable_previous (readPrevious_eq_ok read file)) disk).1
  constructor
  · intro both
    exact both.1 raised
  · intro same
    refine ⟨fun _ => same, fun returned => ?_⟩
    rw [raised] at returned
    cases returned

theorem read_written_iff (encodes : ∀ file, encodable snapshot file = true)
    (onDisk : ∀ file, disk.files file = Utf8.encode? (rendered (snapshot.content file))) :
    memory.read disk = .ok snapshot.stripped ↔
      (∀ file, .scalar '\r' ∉ stripPoints (snapshot.content file)) ∧
        memory.validate snapshot.stripped = .ok () := by
  rcases readFile_of_written (encodes .soul) (onDisk .soul) with ⟨soul, readSoul, soulPlain⟩
  rcases readFile_of_written (encodes .user) (onDisk .user) with ⟨user, readUser, userPlain⟩
  have read : memory.read disk =
      (memory.validate ⟨soul, user⟩).map fun _ => ⟨soul, user⟩ := by
    unfold ProfileMemory.read
    rw [readSoul, readUser]
    rfl
  rw [read, map_eq_ok]
  constructor
  · rintro ⟨_, valid, same⟩
    have sameSoul : soul = stripPoints snapshot.soul :=
      congrArg ProfileMemorySnapshot.soul same
    have sameUser : user = stripPoints snapshot.user :=
      congrArg ProfileMemorySnapshot.user same
    constructor
    · intro file
      cases file with
      | soul => exact soulPlain.mp sameSoul
      | user => exact userPlain.mp sameUser
    · rw [← same]
      exact valid
  · rintro ⟨plain, valid⟩
    have sameSoul : soul = stripPoints snapshot.soul :=
      soulPlain.mpr (plain .soul)
    have sameUser : user = stripPoints snapshot.user :=
      userPlain.mpr (plain .user)
    rw [sameSoul, sameUser]
    exact ⟨(), valid, rfl⟩

theorem allOrNothing_iff_spared (memory : ProfileMemory)
    (restores : fates.Restores) {previous : ProfileFile → Option CodePoints}
    (valid : memory.validate snapshot = .ok ())
    (read : readPrevious (.settled files) = .ok previous) :
    AllOrNothing memory fates snapshot files ↔
      Spared memory fates snapshot files := by
  have differs : ProfileFile.soul ≠ .user := nofun
  have soulSpec :=
    rendered_writeFile fates snapshot .soul (.settled files)
  rcases soul : writeFile fates .soul snapshot.soul (.settled files) with ⟨middle, soulDone⟩
  change Rendered _ _ _ _ (writeFile fates .soul snapshot.soul (.settled files)).1
    (writeFile fates .soul snapshot.soul (.settled files)).2 at soulSpec
  rw [soul] at soulSpec
  unfold Spared WriteFates.failing?
  cases soulFails : fates.failsAt snapshot .soul with
  | true =>
    have stopped : soulDone = false :=
      soulSpec.outcome.trans (congrArg not soulFails)
    have ended : memory.write fates snapshot (.settled files) =
        restoreFiles fates previous middle := by
      rw [ProfileMemory.write, valid, read]
      simp only [soul, stopped]
    rw [if_pos rfl]
    exact allOrNothing_of_restored restores read
      (fun other different => soulSpec.otherTemporary other different)
      (soulSpec.left stopped rfl) ended
  | false =>
    have goesOn : soulDone = true :=
      soulSpec.outcome.trans (congrArg not soulFails)
    have userSpec := rendered_writeFile fates snapshot .user middle
    rcases user : writeFile fates .user snapshot.user middle with ⟨after, userDone⟩
    change Rendered _ _ _ _ (writeFile fates .user snapshot.user middle).1
      (writeFile fates .user snapshot.user middle).2 at userSpec
    rw [user] at userSpec
    have userClean : middle.temporaries .user = none :=
      soulSpec.otherTemporary .user differs.symm
    rw [if_neg Bool.false_ne_true]
    cases userFails : fates.failsAt snapshot .user with
    | true =>
      have stopped : userDone = false :=
        userSpec.outcome.trans (congrArg not userFails)
      have ended : memory.write fates snapshot (.settled files) =
          restoreFiles fates previous after := by
        rw [ProfileMemory.write, valid, read]
        simp only [soul, goesOn, user, stopped]
      rw [if_pos rfl]
      apply allOrNothing_of_restored restores read _ (userSpec.left stopped userClean) ended
      intro other different
      cases other with
      | soul =>
        exact (userSpec.otherTemporary .soul differs).trans (soulSpec.moved goesOn)
      | user => exact absurd rfl different
    | false =>
      have finished : userDone = true :=
        userSpec.outcome.trans (congrArg not userFails)
      have ended : memory.write fates snapshot (.settled files) =
          (after, .returned) := by
        rw [ProfileMemory.write, valid, read]
        simp only [soul, goesOn, user, finished]
      have encodes : ∀ file, encodable snapshot file = true := by
        intro file
        have succeeds : fates.failsAt snapshot file = false := by
          cases file with
          | soul => exact soulFails
          | user => exact userFails
        unfold WriteFates.failsAt RenderedFates.fails at succeeds
        simp_all
      have onDisk : ∀ file, after.files file =
          Utf8.encode? (rendered (snapshot.content file)) := by
        intro file
        cases file with
        | soul =>
          exact (userSpec.otherFile .soul differs).trans (soulSpec.written goesOn)
        | user => exact userSpec.written finished
      rw [if_neg Bool.false_ne_true, ← read_written_iff encodes onDisk, AllOrNothing, ended]
      exact ⟨fun both => both.2 rfl, fun same => ⟨nofun, fun _ => same⟩⟩

theorem allOrNothing_of_refused (ended : memory.write fates snapshot (.settled files) =
      (.settled files, .raised)) :
    AllOrNothing memory fates snapshot files := by
  rw [AllOrNothing, ended]
  exact ⟨fun _ => rfl, nofun⟩

/--
A write of the profile is all or nothing exactly if it is spared, once the
candidate is accepted and the files can be read.
-/
theorem profileWrite_allOrNothing_iff (memory : ProfileMemory)
    {fates : WriteFates} (restores : fates.Restores)
    (snapshot : ProfileMemorySnapshot)
    (files : ProfileFile → Option (List UInt8)) :
    AllOrNothing memory fates snapshot files ↔ (memory.validate snapshot = .ok () →
        (∃ previous, readPrevious (.settled files) = .ok previous) →
        Spared memory fates snapshot files) := by
  cases valid : memory.validate snapshot with
  | error text =>
    apply iff_of_true
    · apply allOrNothing_of_refused
      rw [ProfileMemory.write, valid]
    · intro same
      cases same
  | ok accepted =>
    cases read : readPrevious (.settled files) with
    | error text =>
      apply iff_of_true
      · apply allOrNothing_of_refused
        rw [ProfileMemory.write, valid, read]
      · rintro _ ⟨previous, same⟩
        cases same
    | ok previous =>
      rw [allOrNothing_iff_spared memory restores valid read]
      exact ⟨fun spared _ _ => spared, fun spared => spared rfl ⟨previous, rfl⟩⟩

/-- A memory in which a code point is a token. -/
def pointMemory : ProfileMemory where
  encodedLength content := .ok content.length
  soulProfileTokenLimit := 10
  userProfileTokenLimit := 10
  profileTotalTokenLimit := 20

/-- Everything that a write does succeeds. -/
def smoothFates : RenderedFates where
  directoryFails := false
  temporary := .done
  replace := .done
  direct := .done
  unlinkFails := false

/-- The file of the user may not be replaced, once. -/
def userRefused : WriteFates where
  writing
    | .soul => smoothFates
    | .user => { smoothFates with replace := .refused }
  restoring _ := smoothFates
  removalFails _ := false

theorem userRefused_restores : userRefused.Restores := fun _ => ⟨rfl, rfl⟩

/-- The snapshot that is written in place of the files. -/
def nextSnapshot : ProfileMemorySnapshot where
  soul := literal "c"
  user := literal "d"

/-- A file with a Windows line end, and a missing one. -/
def windowsFiles : ProfileFile → Option (List UInt8)
  | .soul => some (Utf8.encodeChars ['a', '\r', '\n', 'b'])
  | .user => none

theorem profileWrite_allOrNothing_iff_missing : userRefused.Restores ∧
      (AllOrNothing pointMemory userRefused nextSnapshot (fun _ => none) ↔
        (pointMemory.validate nextSnapshot = .ok () → (∃ previous,
            readPrevious (.settled fun _ => none) = .ok previous) →
          Spared pointMemory userRefused nextSnapshot fun _ => none)) :=
  ⟨userRefused_restores, profileWrite_allOrNothing_iff pointMemory userRefused_restores
      nextSnapshot fun _ => none⟩

/-- The file that was not to be written comes back with another line end. -/
theorem profileWrite_losesLineEnd : userRefused.Restores ∧
      ¬ AllOrNothing pointMemory userRefused nextSnapshot windowsFiles := by
  refine ⟨userRefused_restores, ?_⟩
  have soul : readRawFile (.settled windowsFiles) .soul =
      .ok (some (textOf ['a', '\n', 'b'])) := by
    change (readText (Utf8.encodeChars ['a', '\r', '\n', 'b'])).map some = _
    rw [readText, Utf8.decode?_encodeChars]
    rfl
  have read : readPrevious (.settled windowsFiles) = .ok fun
      | .soul => some (textOf ['a', '\n', 'b'])
      | .user => none := by
    rw [readPrevious, soul]
    rfl
  rw [allOrNothing_iff_spared pointMemory userRefused_restores rfl read]
  rintro ⟨plain, -⟩
  exact plain .soul ['a', '\r', '\n', 'b'] rfl (by decide)

end TurningGood.Memory
