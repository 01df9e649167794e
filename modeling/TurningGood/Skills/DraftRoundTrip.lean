import TurningGood.Foundation.Fallible
import TurningGood.Skills.SkillDraft

/-!
# What is read back from a draft

The creator renders the texts without any quoting, and the validator reads
lines.  A text that the header is read to have has at most the ink of the
line it was read from, less than all of it if the line has a key; so the
description is read back only from its own line, and only if that line has
all of it.
-/

namespace TurningGood.Skills

open TurningGood.Foundation
open TurningGood.Foundation.Text

variable {line chars : List Char}

/-! ## Pairs and values -/

theorem splitPair_eq_ok {pair : List Char × List Char} (split : splitPair line = .ok pair) :
    ∃ key value, line = key ++ ':' :: value ∧
      pair = (stripChars key, stripChars value) := by
  rw [splitPair] at split
  split at split
  · cases split
  · next key value found =>
      split_ifs at split
      cases split
      exact ⟨key, value, (splitFirst_eq_some_iff.mp found).1, rfl⟩

theorem splitPair_of_key {key : List Char} (noColon : ':' ∉ key)
    (inked : stripChars key ≠ []) (value : List Char) :
    splitPair (key ++ ':' :: value) =
      .ok (stripChars key, stripChars value) := by
  rw [splitPair, splitFirst_eq_some_iff.mpr ⟨rfl, noColon⟩]
  exact if_neg inked

theorem splitPair_ink {pair : List Char × List Char} (split : splitPair line = .ok pair) :
    (ink pair.2).length < (ink line).length := by
  rcases splitPair_eq_ok split with ⟨key, value, rfl, rfl⟩
  have colon : ink (':' :: value) = ':' :: ink value := rfl
  rw [ink_stripChars, ink_append, colon, List.length_append, List.length_cons]
  omega

theorem parseValue_plain {first : Char} {rest : List Char}
    (unquoted : isQuote first = false) (noList : first ≠ '[')
    (noObject : first ≠ '{') :
    parseValue (first :: rest) = .ok (.text (first :: rest)) := by
  simp only [parseValue, unquoted, noList, noObject, Bool.false_eq_true, or_self, if_false]

theorem parseValue_quoted {first : Char} {rest : List Char}
    (quoted : isQuote first = true)
    (parsed : parseValue (first :: rest) = .ok (.text chars)) :
    (ink chars).length < (ink (first :: rest)).length := by
  simp only [parseValue, quoted, if_true] at parsed
  split_ifs at parsed
  cases parsed
  have inked : isSpace first = false := by
    rcases Bool.or_eq_true_iff.mp quoted with double | single
    · rw [beq_iff_eq.mp double]
      rfl
    · rw [beq_iff_eq.mp single]
      rfl
  have whole : ink (first :: rest) = first :: ink rest :=
    List.filter_cons_of_pos (by simp [inked])
  rw [whole, List.length_cons]
  exact Nat.lt_succ_of_le (ink_length_le (List.dropLast_sublist rest))

theorem parseValue_unquoted {value : List Char}
    (unquoted : ∀ first ∈ value.head?, isQuote first = false)
    (parsed : parseValue value = .ok (.text chars)) : chars = value := by
  cases value with
  | nil =>
    cases parsed
    rfl
  | cons first rest =>
    have plain := unquoted first rfl
    simp only [parseValue, plain, Bool.false_eq_true, if_false] at parsed
    split_ifs at parsed
    · split at parsed
      · cases parsed
      · cases parsed
    · cases parsed
      rfl

theorem parseValue_ink {value : List Char} (parsed : parseValue value = .ok (.text chars)) :
    (ink chars).length ≤ (ink value).length := by
  cases value with
  | nil =>
    cases parsed
    rfl
  | cons first rest =>
    cases quoted : isQuote first with
    | true => exact (parseValue_quoted quoted parsed).le
    | false =>
      have plain : ∀ other ∈ (first :: rest).head?,
          isQuote other = false := by
        rintro other same
        cases same
        exact quoted
      rw [parseValue_unquoted plain parsed]

/-- The text under a key. -/
def textUnder (parsed : Dict String MetaValue) (key : String) :
    Option (List Char) :=
  (parsed.get? key).bind MetaValue.text?

theorem readLine_textUnder {reader next : MetaReader}
    (read : reader.readLine line = .ok next) {key : String}
    (found : textUnder next.parsed key = some chars) :
    textUnder reader.parsed key = some chars ∨ (ink chars).length < (ink line).length := by
  rw [MetaReader.readLine] at read
  split_ifs at read with skipped indented
  · cases read
    exact .inl found
  · split at read
    · cases read
    · next name entries _ =>
        rcases bind_eq_ok.mp read with ⟨pair, -, read⟩
        rcases map_eq_ok.mp read with ⟨value, -, rfl⟩
        rw [textUnder, Dict.get?_insert] at found
        split_ifs at found
        · cases found
        · exact .inl found
  · rcases bind_eq_ok.mp read with ⟨pair, split, read⟩
    dsimp only at read
    split_ifs at read
    · cases read
      rw [textUnder, Dict.get?_insert] at found
      split_ifs at found
      · cases found
      · exact .inl found
    · rcases map_eq_ok.mp read with ⟨value, parsed, rfl⟩
      rw [textUnder, Dict.get?_insert] at found
      split_ifs at found
      · cases value with
        | json value => cases found
        | text text =>
          cases found
          exact .inr ((parseValue_ink parsed).trans_lt (splitPair_ink split))
      · exact .inl found

theorem readLines_textUnder {reader final : MetaReader}
    {lines : List (List Char)} (read : reader.readLines lines = .ok final)
    {key : String} (found : textUnder final.parsed key = some chars) :
    textUnder reader.parsed key = some chars ∨
      ∃ line ∈ lines, (ink chars).length < (ink line).length := by
  induction lines generalizing reader with
  | nil =>
    cases read
    exact .inl found
  | cons line rest induction =>
    rcases bind_eq_ok.mp read with ⟨next, first, later⟩
    rcases induction later with there | ⟨other, member, less⟩
    · rcases readLine_textUnder first there with before | less
      · exact .inl before
      · exact .inr ⟨line, List.mem_cons_self, less⟩
    · exact .inr ⟨other, List.mem_cons_of_mem _ member, less⟩

theorem readLines_blank {lines : List (List Char)}
    (blank : ∀ line ∈ lines, stripChars line = []) (reader : MetaReader) :
    reader.readLines lines = .ok reader := by
  induction lines with
  | nil => rfl
  | cons line rest induction =>
    rw [MetaReader.readLines, MetaReader.readLine, if_pos (.inl (blank line List.mem_cons_self))]
    exact induction fun other member =>
      blank other (List.mem_cons_of_mem _ member)

theorem readLine_key (reader : MetaReader) {first : Char}
    {others : List Char} (noColon : ':' ∉ first :: others)
    (stripped : stripChars (first :: others) = first :: others)
    (inked : isSpace first = false) (noComment : first ≠ '#')
    (text : List Char) :
    reader.readLine (first :: others ++ ':' :: text) =
      if stripChars text = [] then
        .ok {
          parsed := reader.parsed.insert (String.ofList (first :: others))
            (.mapping .empty)
          currentMapping := some (String.ofList (first :: others), .empty) }
      else
        (parseValue (stripChars text)).map fun value =>
          { parsed := reader.parsed.insert (String.ofList (first :: others))
              (.scalar value)
            currentMapping := none } := by
  have begins : (first :: others ++ ':' :: text).head? = some first := rfl
  have whole : (first :: others ++ ':' :: text).dropWhile isSpace =
      first :: others ++ ':' :: text :=
    List.dropWhile_cons_of_neg (by simp [inked])
  have present : stripChars (first :: others ++ ':' :: text) ≠ [] := by
    rw [Ne, stripChars_eq_nil_iff, ink_eq_nil_iff]
    intro blank
    rw [blank first List.mem_cons_self] at inked
    cases inked
  have noIndent : first ≠ ' ' ∧ first ≠ '\t' := by
    constructor
    · rintro rfl
      cases inked
    · rintro rfl
      cases inked
  rw [MetaReader.readLine, if_neg, if_neg, splitPair_of_key noColon]
  · simp only [Except.bind, stripped]
  · rw [stripped]
    exact List.cons_ne_nil _ _
  · rw [begins, Option.some.injEq, Option.some.injEq, not_or]
    exact noIndent
  · rw [whole, begins, Option.some.injEq, not_or]
    exact ⟨present, noComment⟩

theorem isName_inked {name : List Char} (valid : isName name = true) :
    ∀ char ∈ name, isSpace char = false ∧ isLineBreak char = false := by
  have bounds : ∀ char : Char, (isNameStart char || char == '-') = true →
      0x21 ≤ char.toNat ∧ char.toNat ≤ 0x7A := by
    intro char inside
    simp only [isNameStart, Bool.or_eq_true, Bool.and_eq_true,
      decide_eq_true_eq, beq_iff_eq] at inside
    rcases inside with (⟨low, high⟩ | ⟨low, high⟩) | rfl
    · exact ⟨(show 0x21 ≤ 'a'.toNat by decide).trans low,
        high⟩
    · exact ⟨(show 0x21 ≤ '0'.toNat by decide).trans low,
        (show char.toNat ≤ '9'.toNat from high).trans (by decide)⟩
    · decide
  have listed : ∀ char ∈ name,
      (isNameStart char || char == '-') = true := by
    cases name with
    | nil => exact nofun
    | cons first rest =>
      rw [isName, Bool.and_eq_true, List.all_eq_true] at valid
      intro char member
      rcases List.mem_cons.mp member with rfl | later
      · rw [valid.1]
        rfl
      · exact valid.2 char later
  intro char member
  have inside := bounds char (listed char member)
  simp only [isSpace, isLineBreak, Bool.or_eq_false_iff,
    Bool.and_eq_false_iff, decide_eq_false_iff_not, beq_eq_false_iff_ne]
  omega

theorem parseValue_name {name : List Char} (valid : isName name = true) :
    parseValue name = .ok (.text name) := by
  cases name with
  | nil => cases valid
  | cons first rest =>
    rw [isName, Bool.and_eq_true] at valid
    have start := valid.1
    apply parseValue_plain
    · rw [isQuote, Bool.or_eq_false_iff, beq_eq_false_iff_ne, beq_eq_false_iff_ne]
      constructor
      · rintro rfl
        cases start
      · rintro rfl
        cases start
    · rintro rfl
      cases start
    · rintro rfl
      cases start

/-- The header when the name is read. -/
def namedReader (name : List Char) : MetaReader where
  parsed := Dict.empty.insert "name" (.scalar (.text name))
  currentMapping := none

theorem readLine_name {name : List Char} (valid : isName name = true) :
    MetaReader.start.readLine ("name: ".toList ++ name) =
      .ok (namedReader name) := by
  have inked := isName_inked valid
  have alone : stripChars (' ' :: name) = name := by
    have blank : ∀ char ∈ [' '], isSpace char = true :=
      List.all_eq_true.mp rfl
    rw [← List.singleton_append, stripChars_blank_append blank]
    exact stripChars_of_inked fun char member => (inked char member).1
  have present : name ≠ [] := by
    rintro rfl
    cases valid
  have read := @readLine_key .start 'n' "ame".toList
    (by decide) rfl rfl (by decide) (' ' :: name)
  rw [alone, if_neg present, parseValue_name valid] at read
  exact read

theorem readLine_description (reader : MetaReader) (line : List Char) :
    reader.readLine ("description: ".toList ++ line) =
      if stripChars line = [] then
        .ok {
          parsed := reader.parsed.insert "description" (.mapping .empty)
          currentMapping := some ("description", .empty) }
      else
        (parseValue (stripChars line)).map fun value =>
          { parsed := reader.parsed.insert "description" (.scalar value)
            currentMapping := none } := by
  have blank : ∀ char ∈ [' '], isSpace char = true :=
      List.all_eq_true.mp rfl
  have alone : stripChars (' ' :: line) = stripChars line :=
    stripChars_blank_append blank line
  have read := @readLine_key reader 'd' "escription".toList
    (by decide) rfl rfl (by decide)
    (' ' :: line)
  rw [alone] at read
  exact read

/-! ## The file -/

/-- What the file has in front of the description. -/
def renderedHead (name : List Char) : List Char :=
  "---\nname: ".toList ++ name ++ "\ndescription: ".toList

/-- What the file has behind the header. -/
def renderedTail (instructions : List Char) : List Char := '\n' :: '\n' ::
    JsonLines.universalNewlines (stripChars instructions ++ ['\n'])

theorem renderSkill_uniform {name : List Char} (valid : isName name = true)
    (description instructions : List Char) :
    ∃ front, JsonLines.universalNewlines (renderSkill name description instructions) =
        renderedHead name ++ (front ++
          ("\n---".toList ++ renderedTail instructions)) ∧
        firstLine front = firstLine description ∧
        ink front = ink description := by
  have noReturn : '\r' ∉ renderedHead name := by
    intro member
    rcases List.mem_append.mp member with inFront | behind
    · rcases List.mem_append.mp inFront with dashes | inName
      · revert dashes
        decide
      · have inked := (isName_inked valid _ inName).1
        cases inked
    · revert behind
      decide
  rcases universalNewlines_append_newline description
    ("---\n\n".toList ++ (stripChars instructions ++ ['\n'])) with
      ⟨front, uniform, sameLine, sameInk⟩
  refine ⟨front, ?_, sameLine, sameInk⟩
  have dashes : '\r' ∉ "---\n\n".toList := by decide
  rw [universalNewlines_append dashes] at uniform
  have rendered : renderSkill name description instructions =
      renderedHead name ++ (description ++ ("\n---\n\n".toList ++
        (stripChars instructions ++ ['\n']))) := by
    unfold renderSkill renderedHead
    simp only [List.append_assoc]
  rw [rendered, universalNewlines_append noReturn]
  exact congrArg (renderedHead name ++ ·) uniform

theorem drop_renderedHead (name rest : List Char) :
    (renderedHead name ++ rest).drop 4 = ("name: ".toList ++ name) ++ '\n' ::
        ("description: ".toList ++ rest) := by
  unfold renderedHead
  rw [List.append_assoc, List.append_assoc, List.append_assoc]
  rfl

theorem isPrefixOf_renderedHead (name rest : List Char) :
    "---\n".toList.isPrefixOf (renderedHead name ++ rest) = true := by
  unfold renderedHead
  rw [List.append_assoc, List.append_assoc]
  rfl

theorem cut_header {name : List Char} (valid : isName name = true) (rest : List Char) :
    cutAt "\n---".toList (("name: ".toList ++ name) ++ '\n' ::
        ("description: ".toList ++ rest)) =
      (cutAt "\n---".toList rest).map fun found =>
        (("name: ".toList ++ name) ++ '\n' :: ("description: ".toList ++ found.1), found.2) := by
  have front : '\n' ∉ "name: ".toList ++ name := by
    intro member
    rcases List.mem_append.mp member with key | inName
    · revert key
      decide
    · have inked := (isName_inked valid _ inName).1
      cases inked
  have key : '\n' ∉ "description: ".toList := by decide
  have elsewhere : ¬ "\n---".toList <+:
      '\n' :: ("description: ".toList ++ rest) := by
    intro begins
    have second := (List.cons_prefix_cons.mp begins).2
    have dash := (List.cons_prefix_cons.mp second).1
    revert dash
    decide
  have skipKey := @cutAt_append_of_notMem _ "---".toList _ key rest
  have skipName := @cutAt_append_of_notMem _ "---".toList _ front
    ('\n' :: ("description: ".toList ++ rest))
  have skipEnd := cutAt_cons elsewhere
  have marker : "\n---".toList = '\n' :: "---".toList := rfl
  rw [marker] at skipEnd ⊢
  rw [skipName, skipEnd, skipKey, Option.map_map, Option.map_map]
  rfl

theorem cut_dashes (front back : List Char) : ∃ found,
      cutAt "\n---".toList (front ++ ("\n---".toList ++ back)) =
          some found ∧
        (found.1 = front ∨ ∃ rest, front = found.1 ++ '\n' :: rest) := by
  have marker : "\n---".toList = '\n' :: "---".toList := rfl
  rw [marker]
  exact cutAt_append front back

theorem cut_line {blank : List Char} (noFeed : '\n' ∉ line)
    (noDash : '-' ∉ blank) (back : List Char) :
    cutAt "\n---".toList (line ++ blank ++ ("\n---".toList ++ back)) =
      some (line ++ blank, back) := by
  have marker : "\n---".toList = '\n' :: '-' :: "--".toList := rfl
  rw [marker, List.append_assoc, cutAt_append_of_notMem noFeed,
    cutAt_append_of_second (by decide) noDash]
  rfl

theorem unbroken_of_any (unbroken : line.any isLineBreak = false) :
    ∀ char ∈ line, isLineBreak char = false :=
  fun char member =>
    Bool.eq_false_iff.mpr (List.any_eq_false.mp unbroken char member)

theorem parseSkill_rendered {name : List Char} (valid : isName name = true)
    {rest : List Char} {found : List Char × List Char}
    (cut : cutAt "\n---".toList rest = some found) :
    ∃ more, parseSkill (renderedHead name ++ rest) = (((namedReader name).readLine
          ("description: ".toList ++ firstLine found.1)).bind fun next => next.readLines more).map
              (fun reader => (reader.parsed, found.2.dropWhile isLineEnd)) ∧
      ∀ line ∈ more, line.Sublist (behindFirstLine found.1) := by
  have nameKey : ∀ char ∈ "name: ".toList,
      isLineBreak char = false :=
    unbroken_of_any rfl
  have nameLine : ∀ char ∈ "name: ".toList ++ name,
      isLineBreak char = false := by
    intro char member
    rcases List.mem_append.mp member with key | inName
    · exact nameKey char key
    · exact (isName_inked valid char inName).2
  have key : ∀ char ∈ "description: ".toList,
      isLineBreak char = false :=
    unbroken_of_any rfl
  have present : "description: ".toList ++ found.1 ≠ [] :=
    List.cons_ne_nil _ _
  rcases splitLines_begins present with ⟨more, lines, inside⟩
  rw [firstLine_append key] at lines
  rw [behindFirstLine_append key] at inside
  refine ⟨more, ?_, inside⟩
  rw [parseSkill, if_pos (isPrefixOf_renderedHead name rest),
    drop_renderedHead, cut_header valid, cut]
  simp only [Option.map_some, parseMapping,
    splitLines_append_newline nameLine, lines, MetaReader.readLines,
    readLine_name valid, Except.bind]
  cases (namedReader name).readLine ("description: ".toList ++ firstLine found.1) with
  | error message => rfl
  | ok next =>
    dsimp only
    cases next.readLines more with
    | error message => rfl
    | ok final => rfl

theorem validate_eq_ok {directory : SkillDirectory}
    {manifest : SkillManifest} (valid : directory.validate = .ok manifest) :
    ∃ parsed body name description,
      parseSkill (JsonLines.universalNewlines directory.content) = .ok (parsed, body) ∧
        textUnder parsed "name" = some name ∧ isName name = true ∧
        textUnder parsed "description" = some description ∧
        manifest =
          { name := String.ofList name
            description := String.ofList (stripChars description)
            body := String.ofList (stripChars body)
            extraMetadata := (parsed.erase "name").erase "description" } := by
  rw [SkillDirectory.validate] at valid
  rcases bind_eq_ok.mp valid with ⟨⟨parsed, body⟩, read, valid⟩
  dsimp only at valid
  split at valid
  · cases valid
  · next name named =>
      split at valid
      · cases valid
      · split at valid
        · cases valid
        · next validName =>
            split at valid
            · cases valid
            · split at valid
              · cases valid
              · next description described =>
                  split_ifs at valid
                  cases valid
                  exact ⟨parsed, body, name, description, read, named,
                    not_not.mp validName, described, rfl⟩

theorem parseSkill_body {content body : List Char}
    {parsed : Dict String MetaValue}
    (read : parseSkill content = .ok (parsed, body)) :
    body.Sublist content := by
  rw [parseSkill] at read
  split_ifs at read
  · split at read
    · cases read
    · next rawMetadata rest cut =>
        rcases map_eq_ok.mp read with ⟨_, -, same⟩
        cases same
        have whole := cutAt_eq_some cut
        apply (List.dropWhile_sublist isLineEnd).trans
        apply List.Sublist.trans _ (List.drop_sublist 4 content)
        rw [whole]
        exact List.sublist_append_right _ _

/-! ## The round trip -/

/-- Texts that a draft keeps. -/
structure PlainDraft (name description instructions : String) : Prop where
  name : isName name.toList = true
  oneLine : stripChars (firstLine description.toList) = stripChars description.toList
  unquoted : ∀ first ∈ (stripChars description.toList).head?,
    isQuote first = false
  noReturn : '\r' ∉ stripChars instructions.toList

theorem description_of_read {name : List Char} (valid : isName name = true)
    {description instructions body : List Char}
    {parsed : Dict String MetaValue}
    (read : parseSkill (JsonLines.universalNewlines
      (renderSkill name description instructions)) = .ok (parsed, body))
    (described : textUnder parsed "description" = some chars)
    (same : stripChars chars = stripChars description) :
    stripChars (firstLine description) = stripChars description ∧
      ∀ first ∈ (stripChars description).head?, isQuote first = false := by
  have sameInk : ink chars = ink description := by
    rw [← ink_stripChars, same, ink_stripChars]
  rcases renderSkill_uniform valid description instructions with
    ⟨front, uniform, frontLine, frontInk⟩
  have feed : isLineBreak '\n' = true := rfl
  rcases cut_dashes front (renderedTail instructions) with ⟨found, cut, place⟩
  have foundLine : firstLine found.1 = firstLine description := by
    rcases place with whole | ⟨rest, before⟩
    · rw [whole, frontLine]
    · rw [← frontLine, before, firstLine_append_break feed]
  have foundInk : (ink found.1).length ≤ (ink description).length := by
    rw [← frontInk]
    rcases place with whole | ⟨rest, before⟩
    · rw [whole]
    · rw [before]
      exact ink_length_le (List.sublist_append_left _ _)
  rcases parseSkill_rendered valid cut with ⟨more, parsedAs, inside⟩
  rw [uniform, parsedAs, foundLine] at read
  rcases map_eq_ok.mp read with ⟨final, lines, pair⟩
  cases pair
  rcases bind_eq_ok.mp lines with ⟨next, first, later⟩
  have there : textUnder next.parsed "description" = some chars := by
    rcases readLines_textUnder later described with there | ⟨line, member, less⟩
    · exact there
    · have part := (inside line member).trans (List.dropWhile_sublist _)
      have bound := ink_length_le part
      rw [sameInk] at less
      omega
  rw [readLine_description] at first
  split_ifs at first with blank
  · cases first
    rw [textUnder, Dict.get?_insert_self] at there
    cases there
  · rcases map_eq_ok.mp first with ⟨value, parsedValue, rfl⟩
    rw [textUnder, Dict.get?_insert_self] at there
    cases value with
    | json value => cases there
    | text text =>
      cases there
      have lineInk : (ink (firstLine description)).length ≤
          (ink description).length :=
        ink_length_le (List.takeWhile_sublist _)
      have unquoted : ∀ first ∈ (stripChars (firstLine description)).head?,
          isQuote first = false := by
        intro first begins
        cases quoted : isQuote first with
        | false => rfl
        | true =>
          rcases List.head?_eq_some_iff.mp begins with ⟨rest, whole⟩
          rw [whole] at parsedValue
          have less := parseValue_quoted quoted parsedValue
          rw [← whole, ink_stripChars, sameInk] at less
          omega
      have kept := parseValue_unquoted unquoted parsedValue
      rw [kept, stripChars_stripChars] at same
      rw [← same]
      exact ⟨rfl, unquoted⟩

theorem stripChars_renderedTail {instructions : List Char}
    (noReturn : '\r' ∉ stripChars instructions) :
    stripChars ((renderedTail instructions).dropWhile isLineEnd) =
      stripChars instructions := by
  have lineEnds : ∀ char, isLineEnd char = true → isSpace char = true := by
    intro char isEnd
    rcases Bool.or_eq_true_iff.mp isEnd with isReturn | isFeed
    · rw [beq_iff_eq.mp isReturn]
      rfl
    · rw [beq_iff_eq.mp isFeed]
      rfl
  have feeds : ∀ char ∈ ['\n', '\n'], isSpace char = true :=
    List.all_eq_true.mp rfl
  have feed : ∀ char ∈ ['\n'], isSpace char = true :=
    List.all_eq_true.mp rfl
  have uniform := universalNewlines_append noReturn ['\n']
  rw [stripChars_dropWhile lineEnds, renderedTail, uniform]
  calc stripChars ('\n' :: '\n' :: (stripChars instructions ++ ['\n']))
      = stripChars (stripChars instructions ++ ['\n']) := stripChars_blank_append feeds _
    _ = stripChars (stripChars instructions) := stripChars_append_blank feed _
    _ = stripChars instructions := stripChars_stripChars instructions

theorem validate_of_plain {name description instructions : String}
    (plain : PlainDraft name description instructions)
    {directory : SkillDirectory}
    (rendered : directory.content = renderSkill name.toList description.toList instructions.toList)
    {manifest : SkillManifest} (valid : directory.validate = .ok manifest) :
    manifest =
      { name := name
        description := strip description
        body := strip instructions
        extraMetadata := .empty } := by
  rcases validate_eq_ok valid with ⟨parsed, body, readName, chars, read, named, _, described, rfl⟩
  rcases renderSkill_uniform plain.name description.toList
    instructions.toList with ⟨front, uniform, frontLine, frontInk⟩
  rw [rendered, uniform] at read
  have lineInk : ink (firstLine front) = ink front := by
    rw [frontInk, frontLine, ← ink_stripChars, plain.oneLine, ink_stripChars]
  have blank : ∀ char ∈ behindFirstLine front, isSpace char = true := by
    have whole := ink_append (firstLine front) (behindFirstLine front)
    rw [firstLine_append_behind, lineInk] at whole
    exact ink_eq_nil_iff.mp (List.self_eq_append_right.mp whole)
  have noFeed : '\n' ∉ firstLine front := by
    intro member
    have passed := List.mem_takeWhile_imp member
    cases passed
  have noDash : '-' ∉ behindFirstLine front := by
    intro member
    cases blank _ member
  have cut := cut_line noFeed noDash (renderedTail instructions.toList)
  rw [firstLine_append_behind] at cut
  rcases parseSkill_rendered plain.name cut with ⟨more, parsedAs, inside⟩
  have blankLines : ∀ line ∈ more, stripChars line = [] := by
    intro line member
    rw [stripChars_eq_nil_iff, ink_eq_nil_iff]
    exact fun char inLine => blank char ((inside line member).subset inLine)
  rw [parsedAs, frontLine] at read
  rcases map_eq_ok.mp read with ⟨final, lines, pair⟩
  rcases bind_eq_ok.mp lines with ⟨next, first, later⟩
  rw [readLines_blank blankLines] at later
  cases later
  cases pair
  rw [readLine_description, plain.oneLine] at first
  split_ifs at first with empty
  · cases first
    rw [textUnder, Dict.get?_insert_self] at described
    cases described
  · rcases map_eq_ok.mp first with ⟨value, parsedValue, rfl⟩
    rw [textUnder, Dict.get?_insert_self] at described
    cases value with
    | json value => cases described
    | text text =>
      cases described
      have kept := parseValue_unquoted plain.unquoted parsedValue
      have sameName : readName = name.toList := by
        rw [textUnder, Dict.get?_insert_of_ne _ _ (by decide)] at named
        exact (Option.some.inj named).symm
      have sameBody := stripChars_renderedTail plain.noReturn
      rw [sameName, sameBody, kept, stripChars_stripChars, String.ofList_toList]
      rfl

/-- A draft that was created is read as its texts exactly if they are plain. -/
theorem draft_roundTrip_iff {place : DraftPlace}
    {name description instructions : String} {draft : SkillDirectory}
    (created : createDraft place name description instructions = .ok draft) :
    draft.validate = .ok {
          name := name
          description := strip description
          body := strip instructions
          extraMetadata := .empty } ↔
      PlainDraft name description instructions := by
  rw [createDraft] at created
  split_ifs at created
  split at created
  · cases created
  · rcases map_eq_ok.mp created with ⟨manifest, valid, rfl⟩
    constructor
    · intro read
      rcases validate_eq_ok read with
        ⟨parsed, body, readName, chars, parsedAs, _, isValid, described, same⟩
      rw [SkillManifest.mk.injEq] at same
      rcases same with ⟨rfl, sameDescription, sameBody, -⟩
      have nameList : (String.ofList readName).toList = readName :=
        String.toList_ofList
      rw [← nameList] at isValid
      have bodyChars : stripChars instructions.toList = stripChars body :=
        String.ofList_injective sameBody
      have described' := description_of_read isValid parsedAs described
        (String.ofList_injective sameDescription).symm
      refine ⟨isValid, described'.1, described'.2, ?_⟩
      rw [bodyChars]
      intro member
      apply notMem_universalNewlines _
      exact (parseSkill_body parsedAs).subset ((stripChars_sublist body).subset member)
    · intro plain
      rw [valid, validate_of_plain plain rfl valid]

/-- The draft of a greeting. -/
def greetingDraft (description : String) : SkillDirectory where
  name := "greet"
  content := renderSkill "greet".toList description.toList "Greet.".toList

theorem draft_roundTrip_iff_greeting :
    createDraft ⟨false, false, none⟩ "greet" "Say hello" "Greet." =
        .ok (greetingDraft "Say hello") ∧
      ((greetingDraft "Say hello").validate =
          .ok ⟨"greet", strip "Say hello", strip "Greet.", .empty⟩ ↔
        PlainDraft "greet" "Say hello" "Greet.") := by
  have created :
      createDraft ⟨false, false, none⟩ "greet" "Say hello" "Greet." =
        .ok (greetingDraft "Say hello") := rfl
  exact ⟨created, draft_roundTrip_iff created⟩

/-- A description in quotes is read back without them. -/
theorem quotedDescription_not_kept :
    createDraft ⟨false, false, none⟩ "greet" "\"Say hello\"" "Greet." =
        .ok (greetingDraft "\"Say hello\"") ∧
      (greetingDraft "\"Say hello\"").validate ≠
        .ok ⟨"greet", strip "\"Say hello\"", strip "Greet.", .empty⟩ := by
  have read : (greetingDraft "\"Say hello\"").validate =
      .ok ⟨"greet", "Say hello", "Greet.", .empty⟩ := rfl
  refine ⟨rfl, ?_⟩
  rw [read]
  intro same
  have description := congrArg SkillManifest.description
    (Except.ok.inj same)
  exact absurd description (by decide)

end TurningGood.Skills
