import TurningGood.Foundation.TextLines
import TurningGood.Foundation.WholeFiles
import TurningGood.Sessions.StoredRows
import Mathlib.Logic.Function.Basic

/-!
# The profile files

`ProfileMemory` keeps two files within token limits.  A candidate is checked
as a whole; each file is then written to a temporary file beside it, which is
moved onto it, or the file is written directly when it may not be replaced.
When something fails, both files are written again from the texts that were
read before, in which all line ends are line feeds.
-/

namespace TurningGood.Memory

open TurningGood.Foundation TurningGood.Sessions

/-- The two files of the profile. -/
inductive ProfileFile where
  | soul
  | user
  deriving DecidableEq, Repr

/-- The name of a file. -/
def ProfileFile.name : ProfileFile → String
  | soul => "SOUL.md"
  | user => "USER.md"

/-- `ProfileMemorySnapshot`. -/
structure ProfileMemorySnapshot where
  soul : CodePoints
  user : CodePoints
  deriving DecidableEq

namespace ProfileMemorySnapshot

/-- The content that belongs in a file. -/
def content (snapshot : ProfileMemorySnapshot) : ProfileFile → CodePoints
  | .soul => snapshot.soul
  | .user => snapshot.user

end ProfileMemorySnapshot

/-- The directory of the profile: its files and their temporary files. -/
@[ext]
structure ProfileDisk where
  files : ProfileFile → Option (List UInt8)
  temporaries : ProfileFile → Option (List UInt8)

/-- A directory without temporary files. -/
def ProfileDisk.settled (files : ProfileFile → Option (List UInt8)) : ProfileDisk where
  files := files
  temporaries _ := none

/-! ## Contents -/

/-- `content.strip()`. -/
def stripPoints (content : CodePoints) : CodePoints :=
  (content.dropWhile JsonlStore.isSpacePoint).rdropWhile JsonlStore.isSpacePoint

/-- Every content of a snapshot, stripped. -/
def ProfileMemorySnapshot.stripped (snapshot : ProfileMemorySnapshot) : ProfileMemorySnapshot where
  soul := stripPoints snapshot.soul
  user := stripPoints snapshot.user

/-- `content.strip() + ("\n" if content.strip() else "")`. -/
def rendered (content : CodePoints) : CodePoints := stripPoints content ++
    (if stripPoints content = [] then [] else [.scalar '\n'])

/-- `path.read_text(encoding="utf-8")`, with uniform line ends. -/
def readText (bytes : List UInt8) : Except String CodePoints :=
  match Utf8.decode? bytes with
  | some chars => .ok (textOf (JsonLines.universalNewlines chars))
  | none => .error "UnicodeDecodeError"

/-- `_read_raw_file`. -/
def readRawFile (disk : ProfileDisk) (file : ProfileFile) :
    Except String (Option CodePoints) :=
  match disk.files file with
  | none => .ok none
  | some bytes => (readText bytes).map some

/-- `_read_file`. -/
def readFile (disk : ProfileDisk) (file : ProfileFile) :
    Except String CodePoints :=
  match disk.files file with
  | none => .ok []
  | some bytes => (readText bytes).map stripPoints

/-- `ProfileMemory`: the tokenizer and the limits of the settings. -/
structure ProfileMemory where
  /-- `len(TOKEN_ENCODING.encode(content))`, which may raise. -/
  encodedLength : CodePoints → Except String Nat
  soulProfileTokenLimit : Int
  userProfileTokenLimit : Int
  profileTotalTokenLimit : Int

namespace ProfileMemory

/-- `count_content_tokens`. -/
def countContentTokens (memory : ProfileMemory) (content : CodePoints) :
    Except String Nat :=
  if content = [] then
    .ok 0
  else
    (memory.encodedLength content).map (max 1)

/-- `_validate`. -/
def validate (memory : ProfileMemory) (snapshot : ProfileMemorySnapshot) :
    Except String Unit := do
  let soulTokens ← memory.countContentTokens snapshot.soul
  let userTokens ← memory.countContentTokens snapshot.user
  if memory.soulProfileTokenLimit < soulTokens then
    throw ("SOUL.md 超过 " ++ toString memory.soulProfileTokenLimit ++ " tokens 限制")
  if memory.userProfileTokenLimit < userTokens then
    throw ("USER.md 超过 " ++ toString memory.userProfileTokenLimit ++ " tokens 限制")
  if memory.profileTotalTokenLimit < (soulTokens + userTokens : Nat) then
    throw ("长期记忆超过 " ++ toString memory.profileTotalTokenLimit ++ " tokens 限制")

/-- `read`. -/
def read (memory : ProfileMemory) (disk : ProfileDisk) :
    Except String ProfileMemorySnapshot := do
  let soul ← readFile disk .soul
  let user ← readFile disk .user
  memory.validate ⟨soul, user⟩
  return ⟨soul, user⟩

end ProfileMemory

/-! ## Writing -/

/-- What a file system does while one file is written. -/
structure RenderedFates where
  /-- Making the directory fails. -/
  directoryFails : Bool
  temporary : WriteFate
  replace : ReplaceFate
  /-- The direct write of a file that may not be replaced. -/
  direct : WriteFate
  /-- Removing the temporary file fails. -/
  unlinkFails : Bool

namespace ProfileDisk

/-- Change a file. -/
def setFile (disk : ProfileDisk) (file : ProfileFile) (bytes : Option (List UInt8)) : ProfileDisk :=
  { disk with files := Function.update disk.files file bytes }

/-- Change the temporary file of a file. -/
def setTemporary (disk : ProfileDisk) (file : ProfileFile)
    (bytes : Option (List UInt8)) : ProfileDisk :=
  { disk with temporaries := Function.update disk.temporaries file bytes }

/-- `temporary.unlink(missing_ok=True)`. -/
def unlinkTemporary (disk : ProfileDisk) (file : ProfileFile) (fails : Bool) : ProfileDisk :=
  if fails then disk else disk.setTemporary file none

/-- `os.replace(temporary, path)`. -/
def replaceFile (disk : ProfileDisk) (file : ProfileFile) : ProfileDisk :=
  (disk.setFile file (disk.temporaries file)).setTemporary file none

end ProfileDisk

/-- The bytes of a text go to the temporary file and are moved from there. -/
def moveRendered (fates : RenderedFates) (file : ProfileFile)
    (content : CodePoints) (disk : ProfileDisk) : ProfileDisk × Bool :=
  match fates.replace with
  | .done => (disk.replaceFile file, true)
  | .refused => (disk.unlinkTemporary file fates.unlinkFails, false)
  | .blocked =>
    match fates.direct.write (Utf8.encode? content) (disk.files file) with
    | (bytes, false) => (disk.setFile file bytes, false)
    | (bytes, true) =>
      ((disk.setFile file bytes).unlinkTemporary file fates.unlinkFails, !fates.unlinkFails)

/--
`_write_rendered_file`: the directory afterwards, and whether nothing was
raised.
-/
def writeRenderedFile (fates : RenderedFates) (file : ProfileFile)
    (content : CodePoints) (disk : ProfileDisk) : ProfileDisk × Bool :=
  if fates.directoryFails then
    (disk, false)
  else
    match fates.temporary.write (Utf8.encode? content)
        (disk.temporaries file) with
    | (bytes, false) => (disk.setTemporary file bytes, false)
    | (bytes, true) =>
      moveRendered fates file content (disk.setTemporary file bytes)

/-- What a file system does while a snapshot is written. -/
structure WriteFates where
  writing : ProfileFile → RenderedFates
  restoring : ProfileFile → RenderedFates
  /-- Removing a file that was missing before fails. -/
  removalFails : ProfileFile → Bool

/-- Bring one file back to the text that was read before. -/
def restoreFile (fates : WriteFates) (file : ProfileFile)
    (previous : Option CodePoints) (disk : ProfileDisk) :
    ProfileDisk × Bool :=
  match previous with
  | none =>
    if fates.removalFails file then (disk, false)
    else (disk.setFile file none, true)
  | some content =>
    writeRenderedFile (fates.restoring file) file content disk

/-- How a write ends. -/
inductive WriteEnd where
  | returned
  | raised
  /-- An exception was raised while the files were restored. -/
  | unrestored
  deriving DecidableEq, Repr

/-- Restore both files after a failure, which is raised again. -/
def restoreFiles (fates : WriteFates)
    (previous : ProfileFile → Option CodePoints) (disk : ProfileDisk) :
    ProfileDisk × WriteEnd :=
  match restoreFile fates .soul (previous .soul) disk with
  | (disk, false) => (disk, .unrestored)
  | (disk, true) =>
    match restoreFile fates .user (previous .user) disk with
    | (disk, false) => (disk, .unrestored)
    | (disk, true) => (disk, .raised)

/-- `_write_file`. -/
def writeFile (fates : WriteFates) (file : ProfileFile)
    (content : CodePoints) (disk : ProfileDisk) : ProfileDisk × Bool :=
  writeRenderedFile (fates.writing file) file (rendered content) disk

/-- The texts of both files before the write. -/
def readPrevious (disk : ProfileDisk) :
    Except String (ProfileFile → Option CodePoints) := do
  let soul ← readRawFile disk .soul
  let user ← readRawFile disk .user
  return fun
    | .soul => soul
    | .user => user

namespace ProfileMemory

/-- `write`: the directory afterwards, and how the call ends. -/
def write (memory : ProfileMemory) (fates : WriteFates)
    (snapshot : ProfileMemorySnapshot) (disk : ProfileDisk) :
    ProfileDisk × WriteEnd :=
  match memory.validate snapshot, readPrevious disk with
  | .error _, _ | .ok _, .error _ => (disk, .raised)
  | .ok _, .ok previous =>
    match writeFile fates .soul snapshot.soul disk with
    | (disk, false) => restoreFiles fates previous disk
    | (disk, true) =>
      match writeFile fates .user snapshot.user disk with
      | (disk, false) => restoreFiles fates previous disk
      | (disk, true) => (disk, .returned)

end ProfileMemory

end TurningGood.Memory
