import TurningGood.Foundation.Dict
import TurningGood.Foundation.TextLines

/-!
# Skill drafts

A draft is a directory with a file `SKILL.md`: a header between two lines of
dashes, and the instructions behind it.  The creator renders the file from a
name, a description and instructions; the validator reads it back with rules
of its own for lines, comments, indentation, quotes and JSON.
-/

namespace TurningGood.Skills

open TurningGood.Foundation
open TurningGood.Foundation.Text

/-- A value of one line; JSON stands for the lists and objects that it reads. -/
inductive MetaScalar where
  | text (chars : List Char)
  | json (value : Json)

/-- A value of the header. -/
inductive MetaValue where
  | scalar (value : MetaScalar)
  | mapping (entries : Dict String MetaScalar)

/-- The value as a text, `isinstance(value, str)`. -/
def MetaValue.text? : MetaValue → Option (List Char)
  | .scalar (.text chars) => some chars
  | _ => none

/-- `_split_pair`. -/
def splitPair (line : List Char) : Except String (List Char × List Char) :=
  match splitFirst ':' line with
  | none => .error "frontmatter 格式无效"
  | some (key, value) =>
    if stripChars key = [] then
      .error "frontmatter 键不能为空"
    else
      .ok (stripChars key, stripChars value)

/-- The quotes of a quoted value. -/
def isQuote (char : Char) : Bool := char == '"' || char == '\''

/-- `_parse_value`. -/
def parseValue (value : List Char) : Except String MetaScalar :=
  match value with
  | [] => .ok (.text [])
  | first :: rest =>
    if isQuote first then
      if rest.getLast? = some first then
        .ok (.text rest.dropLast)
      else
        .error "frontmatter 引号未闭合"
    else if first = '[' ∨ first = '{' then
      match Json.loads (textOf value) with
      | some json => .ok (.json json)
      | none => .error "frontmatter JSON 值无效"
    else
      .ok (.text value)

/-! ## The header -/

/--
The header as far as it is read, and the key and the entries of the mapping
to which indented lines belong.
-/
structure MetaReader where
  parsed : Dict String MetaValue
  currentMapping : Option (String × Dict String MetaScalar)

/-- Nothing is read yet. -/
def MetaReader.start : MetaReader where
  parsed := .empty
  currentMapping := none

/-- The body of the loop of `_parse_mapping`. -/
def MetaReader.readLine (reader : MetaReader) (rawLine : List Char) :
    Except String MetaReader :=
  if stripChars rawLine = [] ∨
      (rawLine.dropWhile isSpace).head? = some '#' then
    .ok reader
  else if rawLine.head? = some ' ' ∨ rawLine.head? = some '\t' then
    match reader.currentMapping with
    | none => .error "frontmatter 缩进无效"
    | some (name, entries) =>
      (splitPair (stripChars rawLine)).bind fun pair =>
        (parseValue pair.2).map fun value =>
          let grown := entries.insert (String.ofList pair.1) value
          { parsed := reader.parsed.insert name (.mapping grown)
            currentMapping := some (name, grown) }
  else
    (splitPair rawLine).bind fun pair =>
      let key := String.ofList pair.1
      if pair.2 = [] then
        .ok {
          parsed := reader.parsed.insert key (.mapping .empty)
          currentMapping := some (key, .empty) }
      else
        (parseValue pair.2).map fun value =>
          { parsed := reader.parsed.insert key (.scalar value)
            currentMapping := none }

/-- The loop of `_parse_mapping`. -/
def MetaReader.readLines (reader : MetaReader) : List (List Char) → Except String MetaReader
  | [] => .ok reader
  | rawLine :: rest =>
    (reader.readLine rawLine).bind fun next => next.readLines rest

/-- `_parse_mapping`. -/
def parseMapping (lines : List (List Char)) :
    Except String (Dict String MetaValue) :=
  (MetaReader.start.readLines lines).map MetaReader.parsed

/-- The line ends that `lstrip("\r\n")` drops. -/
def isLineEnd (char : Char) : Bool := char == '\r' || char == '\n'

/-- `_parse`. -/
def parseSkill (content : List Char) :
    Except String (Dict String MetaValue × List Char) :=
  if "---\n".toList.isPrefixOf content then
    match cutAt "\n---".toList (content.drop 4) with
    | none => .error "SKILL.md frontmatter 未结束"
    | some (rawMetadata, rest) =>
      (parseMapping (splitLines rawMetadata)).map fun parsed =>
        (parsed, rest.dropWhile isLineEnd)
  else
    .error "SKILL.md 缺少 frontmatter"

/-- `SkillManifest`, but for the path. -/
structure SkillManifest where
  name : String
  description : String
  body : String
  extraMetadata : Dict String MetaValue

/-- The characters that a name may begin with. -/
def isNameStart (char : Char) : Bool := ('a' ≤ char && char ≤ 'z') || ('0' ≤ char && char ≤ '9')

/-- `_NAME_PATTERN.fullmatch(name)`. -/
def isName (name : List Char) : Bool :=
  match name with
  | [] => false
  | first :: rest =>
    isNameStart first && rest.all fun char => isNameStart char || char == '-'

/-- A directory that holds a `SKILL.md`. -/
structure SkillDirectory where
  name : String
  /-- the characters of `SKILL.md` as they were written -/
  content : List Char

/-- `SkillValidator.validate`, for a directory with a `SKILL.md`. -/
def SkillDirectory.validate (directory : SkillDirectory) :
    Except String SkillManifest :=
  (parseSkill (JsonLines.universalNewlines directory.content)).bind fun parsed =>
      match (parsed.1.get? "name").bind MetaValue.text? with
      | none => .error "frontmatter 缺少 name"
      | some name =>
        if stripChars name = [] then
          .error "frontmatter 缺少 name"
        else if ¬ isName name then
          .error "name 仅支持小写字母、数字和连字符"
        else if directory.name ≠ String.ofList name then
          .error "目录名必须与 name 一致"
        else
          match (parsed.1.get? "description").bind MetaValue.text? with
          | none => .error "frontmatter 缺少 description"
          | some description =>
            if stripChars description = [] then
              .error "frontmatter 缺少 description"
            else if stripChars parsed.2 = [] then
              .error "SKILL.md 正文不能为空"
            else
              .ok {
                name := String.ofList name
                description := String.ofList (stripChars description)
                body := String.ofList (stripChars parsed.2)
                extraMetadata := (parsed.1.erase "name").erase "description" }

/-- `_render`. -/
def renderSkill (name description instructions : List Char) : List Char :=
  "---\nname: ".toList ++ name ++ "\ndescription: ".toList ++ description ++
    "\n---\n\n".toList ++ stripChars instructions ++ ['\n']

/-- The parts of a path, without empty ones and dots. -/
def pathParts (path : List Char) : List (List Char) :=
  (path.splitOn '/').filter fun part => part ≠ [] ∧ part ≠ ['.']

/-- The name of the directory `.drafts / name`. -/
def draftDirectoryName (name : List Char) : String :=
  match (pathParts name).getLast? with
  | some last => String.ofList last
  | none => if name.head? = some '/' then "" else ".drafts"

/-- What the creation of a draft meets in the file system. -/
structure DraftPlace where
  /-- the name is that of a skill, or of a path in the directory of skills -/
  taken : Bool
  /-- the path of the draft exists -/
  existing : Bool
  /-- the directory or the file cannot be written -/
  failure : Option String

/-- `create_draft`, with `SkillCreator.create`: the draft that is left. -/
def createDraft (place : DraftPlace) (name description instructions : String) :
    Except String SkillDirectory :=
  if place.taken then
    .error ("Skill 已存在：" ++ name)
  else if place.existing then
    .error ("Skill 草稿已存在：" ++ name)
  else
    match place.failure with
    | some message => .error message
    | none =>
      let draft : SkillDirectory :=
        { name := draftDirectoryName name.toList
          content := renderSkill name.toList description.toList instructions.toList }
      draft.validate.map fun _ => draft

end TurningGood.Skills
