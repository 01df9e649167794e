import TurningGood.Foundation.JsonRoundTrip
import TurningGood.Foundation.Text
import Mathlib.Data.List.TakeWhile

/-!
# Files of JSON rows

A row is an object that is written on a line of its own, encoded in UTF-8.
Rows are appended; an append may be cut off between any two bytes, and it
stops by itself in front of a row that cannot be encoded.

The rows of a file stay readable, whatever is appended next, exactly if the
cut lies behind a whole line.
-/

namespace TurningGood.Foundation

/-! ## Characters of written values -/

namespace Json

/-- No control character. -/
def Printed (text : CodePoints) : Prop := ∀ char, .scalar char ∈ text → 0x20 ≤ char.toNat

theorem Printed.append {front back : CodePoints} (first : Printed front)
    (second : Printed back) : Printed (front ++ back) := by
  intro char member
  rcases List.mem_append.mp member with inFront | inBack
  · exact first char inFront
  · exact second char inBack

theorem Printed.cons {first : Char} {rest : CodePoints}
    (printed : 0x20 ≤ first.toNat) (others : Printed rest) :
    Printed (.scalar first :: rest) := by
  intro char member
  rcases List.mem_cons.mp member with same | later
  · cases same
    exact printed
  · exact others char later

theorem printed_textOf {chars : List Char} (printed : ∀ char ∈ chars, 0x20 ≤ char.toNat) :
    Printed (textOf chars) := by
  intro char member
  rcases List.mem_map.mp member with ⟨other, inside, same⟩
  cases same
  exact printed char inside

theorem printed_of_all {chars : List Char}
    (printed : chars.all (fun char => decide (0x20 ≤ char.toNat)) = true) :
    ∀ char ∈ chars, 0x20 ≤ char.toNat :=
  fun char member => of_decide_eq_true (List.all_eq_true.mp printed char member)

theorem printed_hexDigit : ∀ value, value < 16 → 0x20 ≤ (hexDigit value).toNat := by
  decide

theorem printed_escape (point : CodePoint) : Printed (escape point) := by
  cases point with
  | surrogate offset =>
    intro char member
    cases List.mem_singleton.mp member
  | scalar char =>
    apply printed_textOf
    rw [escapeChar]
    split_ifs with _ _ _ _ _ _ _ control
    · exact printed_of_all rfl
    · exact printed_of_all rfl
    · exact printed_of_all rfl
    · exact printed_of_all rfl
    · exact printed_of_all rfl
    · exact printed_of_all rfl
    · exact printed_of_all rfl
    · have first := printed_hexDigit (char.toNat / 16) (by omega)
      have second := printed_hexDigit (char.toNat % 16) (by omega)
      simp only [List.forall_mem_cons, first, second, List.not_mem_nil,
        false_implies, implies_true]
      decide
    · simp only [List.forall_mem_cons]
      exact ⟨Nat.not_lt.mp control, by simp⟩

theorem printed_dumpsString (text : CodePoints) :
    Printed (dumpsString text) := by
  apply Printed.cons (by decide)
  apply Printed.append
  · intro char member
    rcases List.mem_flatMap.mp member with ⟨point, -, inside⟩
    exact printed_escape point char inside
  · exact Printed.cons (by decide) fun char member => by cases member

theorem printed_numberChar {char : Char} (numeric : JsonNumber.isNumberChar char = true) :
    0x20 ≤ char.toNat := by
  simp only [JsonNumber.isNumberChar, JsonNumber.isDigit, Bool.or_eq_true,
    Bool.and_eq_true, decide_eq_true_eq] at numeric
  rcases numeric with ((((⟨low, -⟩ | rfl) | rfl) | rfl) | rfl) | rfl
  · have zero : ('0' : Char).toNat ≤ char.toNat := low
    exact Nat.le_trans (by decide) zero
  all_goals decide

theorem printed_dumpsNumber (value : JsonNumber) :
    Printed (dumpsNumber value) := by
  cases value with
  | nan | infinity | negativeInfinity =>
    apply printed_textOf
    exact printed_of_all rfl
  | finite lexeme valid =>
    apply printed_textOf
    intro char member
    exact printed_numberChar (all_isNumberChar valid char member)

theorem printed_separator : Printed (textOf [',', ' ']) := printed_textOf (printed_of_all rfl)

theorem printed_colon : Printed (textOf [':', ' ']) := printed_textOf (printed_of_all rfl)

mutual

theorem printed_dumps : (value : Json) → Printed value.dumps
  | .null => printed_textOf (printed_of_all rfl)
  | .bool true => printed_textOf (printed_of_all rfl)
  | .bool false => printed_textOf (printed_of_all rfl)
  | .number value => printed_dumpsNumber value
  | .string text => printed_dumpsString text
  | .array [] => printed_textOf (printed_of_all rfl)
  | .array (item :: rest) =>
    .cons (by decide) ((printed_dumps item).append (printed_dumpsItems rest))
  | .object [] => printed_textOf (printed_of_all rfl)
  | .object ((key, value) :: rest) =>
    .cons (by decide) ((printed_dumpsString key).append
      (printed_colon.append ((printed_dumps value).append (printed_dumpsMembers rest))))

theorem printed_dumpsItems : (rest : List Json) → Printed (dumpsItems rest)
  | [] => .cons (by decide) fun _ member => by cases member
  | item :: rest =>
    printed_separator.append ((printed_dumps item).append (printed_dumpsItems rest))

theorem printed_dumpsMembers : (rest : List (CodePoints × Json)) → Printed (dumpsMembers rest)
  | [] => .cons (by decide) fun _ member => by cases member
  | (key, value) :: rest =>
    printed_separator.append ((printed_dumpsString key).append (printed_colon.append
        ((printed_dumps value).append (printed_dumpsMembers rest))))

end

end Json

/-! ## Rows and lines -/

/-- An object with different keys, such as a dictionary that is written. -/
structure JsonRow where
  members : List (CodePoints × Json)
  proper : (Json.object members).Proper

namespace JsonRow

/-- The object of a row. -/
def json (row : JsonRow) : Json := .object row.members

end JsonRow

namespace JsonLines

variable {row : JsonRow} {line rest : List Char} {rows : List JsonRow}
  {lines : List (List Char)}

/-- `line.strip()` on every line, without the empty ones. -/
def rowTexts (chars : List Char) : List (List Char) :=
  ((chars.splitOnP (· = '\n')).map Text.stripChars).filter (· ≠ [])

/-- The line ends that reading a text file makes uniform. -/
def universalNewlines : List Char → List Char
  | '\r' :: '\n' :: rest => '\n' :: universalNewlines rest
  | '\r' :: rest => '\n' :: universalNewlines rest
  | char :: rest => char :: universalNewlines rest
  | [] => []

/-- The rows of a text. -/
def readText (chars : List Char) : Option (List Json) :=
  (rowTexts (universalNewlines chars)).mapM fun text =>
    Json.loads (textOf text)

/-- `_read_jsonl`, where a missing file has no rows. -/
def readJsonl : Option (List UInt8) → Option (List Json)
  | none => some []
  | some bytes => (Utf8.decode? bytes).bind readText

/-- The line of a value without its end, if it can be encoded. -/
def line? (value : Json) : Option (List Char) := Utf8.scalars? value.dumps

/-- The lines of the rows in front of one that cannot be encoded. -/
def encodableLines : List Json → List (List Char)
  | [] => []
  | row :: rest =>
    match line? row with
    | none => []
    | some line => line :: encodableLines rest

/-- Lines with their ends. -/
def joinLines (lines : List (List Char)) : List Char := lines.flatMap (· ++ ['\n'])

/-- The bytes that an append writes when nothing stops it from outside. -/
def appendedBytes (rows : List Json) : List UInt8 :=
  Utf8.encodeChars (joinLines (encodableLines rows))

theorem joinLines_cons (line : List Char) (rest : List (List Char)) :
    joinLines (line :: rest) = line ++ '\n' :: joinLines rest := by
  simp [joinLines]

theorem joinLines_append (front back : List (List Char)) :
    joinLines (front ++ back) = joinLines front ++ joinLines back :=
  List.flatMap_append

/-! ## Lines of rows -/

/-- A line is a written row. -/
def IsLine (row : JsonRow) (line : List Char) : Prop := line? row.json = some line

theorem IsLine.textOf (isLine : IsLine row line) :
    TurningGood.Foundation.textOf line = row.json.dumps :=
  Utf8.textOf_of_scalars? isLine

theorem IsLine.printed (isLine : IsLine row line) : ∀ char ∈ line, 0x20 ≤ char.toNat := by
  intro char member
  apply Json.printed_dumps row.json char
  rw [← isLine.textOf]
  exact List.mem_map.mpr ⟨char, member, rfl⟩

theorem IsLine.begins (isLine : IsLine row line) : ∃ rest, line = '{' :: rest := by
  have written := isLine.textOf
  have brace : ∃ tail, row.json.dumps = .scalar '{' :: tail := by
    rw [JsonRow.json]
    cases row.members with
    | nil => exact ⟨_, rfl⟩
    | cons member others => exact ⟨_, rfl⟩
  rcases brace with ⟨tail, same⟩
  rw [same] at written
  cases line with
  | nil => cases written
  | cons first rest =>
    have head := (List.cons.inj written).1
    cases head
    exact ⟨rest, rfl⟩

theorem IsLine.ends (isLine : IsLine row line) : line.getLast? = some '}' := by
  have written := isLine.textOf
  rcases Json.dumps_object_ends row.members with ⟨front, same⟩
  rw [JsonRow.json, same] at written
  have last := congrArg List.getLast? written
  rw [List.getLast?_concat, TurningGood.Foundation.textOf, List.getLast?_map] at last
  rcases Option.map_eq_some_iff.mp last with ⟨char, found, same⟩
  cases same
  exact found

theorem stripChars_of_ends {first last : Char}
    (front : Text.isSpace first = false)
    (ends : (first :: rest).getLast? = some last)
    (back : Text.isSpace last = false) :
    Text.stripChars (first :: rest) = first :: rest := by
  have kept : (first :: rest).dropWhile Text.isSpace = first :: rest := by
    rw [List.dropWhile_cons_of_neg (by rw [front]; exact Bool.false_ne_true)]
  rw [Text.stripChars, kept]
  have reversed : (first :: rest).reverse =
      last :: (first :: rest).dropLast.reverse := by
    conv_lhs => rw [← List.dropLast_append_getLast? last ends]
    rw [List.reverse_append, List.reverse_singleton, List.singleton_append]
  rw [reversed, List.dropWhile_cons_of_neg
    (by rw [back]; exact Bool.false_ne_true), ← reversed,
    List.reverse_reverse]

theorem IsLine.stripChars (isLine : IsLine row line) :
    Text.stripChars line = line := by
  have ends := isLine.ends
  rcases isLine.begins with ⟨rest, rfl⟩
  exact stripChars_of_ends (by decide) ends (by decide)

theorem IsLine.loads (isLine : IsLine row line) :
    Json.loads (TurningGood.Foundation.textOf line) = some row.json := by
  rw [isLine.textOf]
  exact Json.loads_dumps row.proper

theorem stripChars_prefix (first : Char) (rest : List Char)
    (front : Text.isSpace first = false) :
    Text.stripChars (first :: rest) <+: first :: rest ∧
      Text.stripChars (first :: rest) ≠ [] := by
  have kept : (first :: rest).dropWhile Text.isSpace = first :: rest := by
    rw [List.dropWhile_cons_of_neg (by rw [front]; exact Bool.false_ne_true)]
  have stripped : Text.stripChars (first :: rest) =
      (first :: rest).rdropWhile Text.isSpace := by
    rw [Text.stripChars, kept]
    rfl
  rw [stripped]
  refine ⟨List.rdropWhile_prefix _ _, ?_⟩
  intro empty
  rw [List.rdropWhile_eq_nil_iff] at empty
  have space := empty first List.mem_cons_self
  rw [front] at space
  cases space

theorem IsLine.loads_cut {piece : List Char} (isLine : IsLine row line)
    (begins : piece <+: line) (nonempty : piece ≠ []) (shorter : piece ≠ line) :
    Text.stripChars piece ≠ [] ∧ Json.loads
        (TurningGood.Foundation.textOf (Text.stripChars piece)) = none := by
  obtain ⟨rest, rfl⟩ : ∃ rest, piece = '{' :: rest := by
    rcases isLine.begins with ⟨tail, rfl⟩
    cases piece with
    | nil => exact absurd rfl nonempty
    | cons first rest =>
      rw [(List.cons_prefix_cons.mp begins).1]
      exact ⟨rest, rfl⟩
  rcases stripChars_prefix '{' rest (by decide) with
    ⟨stripped, present⟩
  refine ⟨present, Json.loads_of_cut_object row.proper ?_ ?_⟩
  · change TurningGood.Foundation.textOf _ <+: row.json.dumps
    rw [← isLine.textOf]
    exact (stripped.trans begins).map CodePoint.scalar
  · intro same
    change TurningGood.Foundation.textOf _ = row.json.dumps at same
    rw [← isLine.textOf] at same
    have lengths := congrArg List.length same
    rw [TurningGood.Foundation.textOf, TurningGood.Foundation.textOf,
      List.length_map, List.length_map] at lengths
    have whole := begins.length_le
    have part := stripped.length_le
    exact shorter (begins.eq_of_length (by omega))

/-! ## Files of rows -/

/-- Lines of rows. -/
abbrev AreLines (rows : List JsonRow) (lines : List (List Char)) : Prop :=
  List.Forall₂ IsLine rows lines

/-- The bytes are those of the rows. -/
def Holds (bytes : List UInt8) (rows : List JsonRow) : Prop :=
  ∃ lines, AreLines rows lines ∧ bytes = Utf8.encodeChars (joinLines lines)

theorem universalNewlines_of_printed {chars : List Char} (noReturn : ∀ char ∈ chars, char ≠ '\r') :
    universalNewlines chars = chars := by
  induction chars with
  | nil => rfl
  | cons first rest induction =>
    have here := noReturn first List.mem_cons_self
    have later := induction fun char member =>
      noReturn char (List.mem_cons_of_mem _ member)
    rw [universalNewlines.eq_def]
    split
    · rename_i same
      exact absurd (List.cons.inj same).1 here
    · rename_i same
      exact absurd (List.cons.inj same).1 here
    · rename_i char tail _ _ same
      rcases List.cons.inj same with ⟨rfl, rfl⟩
      rw [later]
    · rename_i same
      cases same

theorem AreLines.printed (areLines : AreLines rows lines) :
    ∀ line ∈ lines, ∀ char ∈ line, 0x20 ≤ char.toNat := by
  induction areLines with
  | nil =>
    intro line member
    cases member
  | cons isLine _ induction =>
    intro line member
    rcases List.mem_cons.mp member with rfl | later
    · exact isLine.printed
    · exact induction line later

theorem splitOnP_joinLines (printed : ∀ line ∈ lines, ∀ char ∈ line, 0x20 ≤ char.toNat)
    (rest : List Char) :
    (joinLines lines ++ rest).splitOnP (· = '\n') =
      lines ++ rest.splitOnP (· = '\n') := by
  induction lines with
  | nil => rfl
  | cons line others induction =>
    have here : ∀ char ∈ line, decide (char = '\n') = false := by
      intro char member
      apply decide_eq_false
      rintro rfl
      exact absurd (printed line List.mem_cons_self _ member) (by decide)
    rw [joinLines_cons, List.append_assoc, List.cons_append,
      List.splitOnP_append_cons_of_forall_mem here '\n' (by decide),
      induction fun other member =>
        printed other (List.mem_cons_of_mem _ member),
      List.cons_append]

theorem splitOnP_of_printed (printed : ∀ char ∈ rest, 0x20 ≤ char.toNat) :
    rest.splitOnP (· = '\n') = [rest] := by
  apply List.splitOnP_eq_singleton
  intro char member
  apply decide_eq_false
  rintro rfl
  exact absurd (printed _ member) (by decide)

theorem rowTexts_joinLines (areLines : AreLines rows lines)
    (printed : ∀ char ∈ rest, 0x20 ≤ char.toNat) :
    rowTexts (joinLines lines ++ rest) =
      lines ++ [Text.stripChars rest].filter (· ≠ []) := by
  rw [rowTexts, splitOnP_joinLines areLines.printed,
    splitOnP_of_printed printed, List.map_append, List.filter_append,
    List.map_singleton]
  congr 1
  induction areLines with
  | nil => rfl
  | cons isLine _ induction =>
    rename_i row line rows lines _
    have present : line ≠ [] := by
      rcases isLine.begins with ⟨tail, rfl⟩
      exact List.cons_ne_nil _ _
    rw [List.map_cons, isLine.stripChars, List.filter_cons_of_pos
      (by simpa using present), induction]

theorem joinLines_noReturn (areLines : AreLines rows lines)
    (printed : ∀ char ∈ rest, 0x20 ≤ char.toNat) :
    ∀ char ∈ joinLines lines ++ rest, char ≠ '\r' := by
  rintro char member rfl
  rcases List.mem_append.mp member with inLines | inRest
  · rcases List.mem_flatMap.mp inLines with ⟨line, inside, found⟩
    rcases List.mem_append.mp found with inLine | ending
    · exact absurd (areLines.printed line inside _ inLine) (by decide)
    · exact absurd (List.mem_singleton.mp ending) (by decide)
  · exact absurd (printed _ inRest) (by decide)

theorem mapM_loads (areLines : AreLines rows lines) :
    lines.mapM (fun text => Json.loads (textOf text)) =
      some (rows.map JsonRow.json) := by
  induction areLines with
  | nil => rfl
  | cons isLine _ induction =>
    rw [List.mapM_cons, isLine.loads]
    change Option.bind _ _ = _
    rw [induction]
    rfl

theorem Holds.readJsonl {bytes : List UInt8} (holds : Holds bytes rows) :
    readJsonl (some bytes) = some (rows.map JsonRow.json) := by
  rcases holds with ⟨lines, areLines, rfl⟩
  have nothing : ∀ char ∈ ([] : List Char), 0x20 ≤ char.toNat := by
    intro char member
    cases member
  have noReturn := joinLines_noReturn areLines nothing
  have texts := rowTexts_joinLines areLines nothing
  rw [List.append_nil] at noReturn texts
  rw [JsonLines.readJsonl, Utf8.decode?_encodeChars, Option.bind_some,
    readText, universalNewlines_of_printed noReturn, texts]
  change (lines ++ []).mapM _ = _
  rw [List.append_nil]
  exact mapM_loads areLines

end JsonLines

end TurningGood.Foundation
