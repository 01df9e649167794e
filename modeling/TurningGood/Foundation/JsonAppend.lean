import TurningGood.Foundation.JsonLines
import Mathlib.Data.List.Forall2

/-!
# Appends to files of rows that are cut off

A file of rows stays a file of rows if an append to it is cut off between
two rows.  Any other cut leaves bytes that cannot be read, at the latest when
the next row has been appended.
-/

namespace TurningGood.Foundation.JsonLines

variable {rows more : List JsonRow} {lines : List (List Char)}
  {bytes : List UInt8} {count : Nat} {row : JsonRow} {line : List Char}

/-! ## Appended rows -/

/-- The rows in front of one that cannot be encoded. -/
def encodableRows (rows : List JsonRow) : List JsonRow :=
  rows.takeWhile fun row => (line? row.json).isSome

theorem areLines_encodable (rows : List JsonRow) :
    AreLines (encodableRows rows) (encodableLines (rows.map JsonRow.json)) := by
  induction rows with
  | nil => exact .nil
  | cons row rest induction =>
    rw [encodableRows, List.map_cons, encodableLines]
    cases written : line? row.json with
    | none =>
      rw [List.takeWhile_cons_of_neg (by simp [written])]
      exact .nil
    | some line =>
      rw [List.takeWhile_cons_of_pos (by simp [written])]
      exact .cons written induction

theorem encodableLines_take (count : Nat) (rows : List Json) :
    encodableLines (rows.take count) = (encodableLines rows).take count := by
  induction rows generalizing count with
  | nil => simp [encodableLines]
  | cons row rest induction =>
    cases count with
    | zero => simp [encodableLines]
    | succ count =>
      rw [List.take_succ_cons, encodableLines, encodableLines]
      cases line? row with
      | none => rfl
      | some line =>
        simp only
        rw [induction, List.take_succ_cons]

theorem AreLines.append {others : List (List Char)}
    (first : AreLines rows lines) (second : AreLines more others) :
    AreLines (rows ++ more) (lines ++ others) :=
  List.rel_append first second

theorem AreLines.take (areLines : AreLines rows lines) (count : Nat) :
    AreLines (rows.take count) (lines.take count) :=
  List.forall₂_take count areLines

theorem Holds.append (holds : Holds bytes rows) (more : List JsonRow) :
    Holds (bytes ++ appendedBytes (more.map JsonRow.json)) (rows ++ encodableRows more) := by
  rcases holds with ⟨lines, areLines, rfl⟩
  refine ⟨lines ++ encodableLines (more.map JsonRow.json),
    areLines.append (areLines_encodable more), ?_⟩
  rw [appendedBytes, joinLines_append, Utf8.encodeChars_append]

theorem holds_nil : Holds [] [] := ⟨[], .nil, rfl⟩

/-- The bytes that were written are those of whole rows. -/
def CutsBetweenRows (rows : List Json) (count : Nat) : Prop :=
  ∃ whole, count = (appendedBytes (rows.take whole)).length

theorem appendedBytes_take_begins (rows : List Json) (whole : Nat) :
    appendedBytes (rows.take whole) <+: appendedBytes rows := by
  rw [appendedBytes, appendedBytes, encodableLines_take]
  refine ⟨Utf8.encodeChars (joinLines ((encodableLines rows).drop whole)), ?_⟩
  rw [← Utf8.encodeChars_append, ← joinLines_append, List.take_append_drop]

theorem Holds.append_take (holds : Holds bytes rows)
    (between : CutsBetweenRows (more.map JsonRow.json) count) :
    ∃ whole, Holds (bytes ++ (appendedBytes (more.map JsonRow.json)).take count)
        (rows ++ encodableRows (more.take whole)) := by
  rcases between with ⟨whole, rfl⟩
  refine ⟨whole, ?_⟩
  rw [← List.prefix_iff_eq_take.mp (appendedBytes_take_begins _ whole), ← List.map_take]
  exact holds.append (more.take whole)

/-! ## Other cuts -/

theorem prefix_joinLines {text : List Char} (begins : text <+: joinLines lines) :
    (∃ whole, text = joinLines (lines.take whole)) ∨
      ∃ whole line piece, lines[whole]? = some line ∧ piece ≠ [] ∧
        piece <+: line ∧ text = joinLines (lines.take whole) ++ piece := by
  induction lines generalizing text with
  | nil =>
    refine .inl ⟨0, ?_⟩
    exact List.prefix_nil.mp begins
  | cons line rest induction =>
    rw [joinLines_cons] at begins
    rcases List.prefix_or_prefix_of_prefix begins
      (List.prefix_append line ('\n' :: joinLines rest)) with
      within | behind
    · cases text with
      | nil => exact .inl ⟨0, rfl⟩
      | cons first tail =>
        exact .inr ⟨0, line, first :: tail, rfl, List.cons_ne_nil _ _,
          within, rfl⟩
    · rcases behind with ⟨tail, rfl⟩
      have tailBegins := (List.prefix_append_right_inj line).mp begins
      cases tail with
      | nil =>
        rw [List.append_nil]
        cases line with
        | nil => exact .inl ⟨0, rfl⟩
        | cons first others =>
          exact .inr ⟨0, first :: others, first :: others, rfl,
            List.cons_ne_nil _ _, List.prefix_rfl, rfl⟩
      | cons char tail =>
        rcases List.cons_prefix_cons.mp tailBegins with ⟨rfl, later⟩
        rcases induction later with ⟨whole, rfl⟩ |
          ⟨whole, other, piece, found, nonempty, inside, rfl⟩
        · refine .inl ⟨whole + 1, ?_⟩
          rw [List.take_succ_cons, joinLines_cons]
        · refine .inr ⟨whole + 1, other, piece, found, nonempty, inside, ?_⟩
          rw [List.take_succ_cons, joinLines_cons, List.append_assoc, List.cons_append]

theorem mapM_eq_none_of_mem {α β : Type*} {read : α → Option β}
    {items : List α} {item : α} (member : item ∈ items)
    (refused : read item = none) : items.mapM read = none := by
  induction items with
  | nil => cases member
  | cons first rest induction =>
    rw [List.mapM_cons]
    rcases List.mem_cons.mp member with rfl | later
    · rw [refused]
      rfl
    · rw [induction later]
      cases read first <;> rfl

theorem readText_eq_none {chars : List Char} {text : List Char}
    (noReturn : ∀ char ∈ chars, char ≠ '\r')
    (member : text ∈ rowTexts chars)
    (refused : Json.loads (textOf text) = none) :
    readText chars = none := by
  rw [readText, universalNewlines_of_printed noReturn]
  exact mapM_eq_none_of_mem member refused

theorem readText_of_cut (areLines : AreLines rows lines) {piece : List Char}
    (isLine : IsLine row line) (begins : piece <+: line)
    (nonempty : piece ≠ []) (shorter : piece ≠ line) :
    readText (joinLines lines ++ piece) = none := by
  have printed : ∀ char ∈ piece, 0x20 ≤ char.toNat := fun char member =>
    isLine.printed char (begins.subset member)
  rcases isLine.loads_cut begins nonempty shorter with ⟨present, refused⟩
  apply readText_eq_none (joinLines_noReturn areLines printed) _ refused
  rw [rowTexts_joinLines areLines printed]
  apply List.mem_append_right
  exact List.mem_filter.mpr ⟨List.mem_singleton_self _, by simpa using present⟩

theorem readText_of_joined (areLines : AreLines rows lines) {next : JsonRow}
    {other : List Char} (isLine : IsLine row line)
    (isOther : IsLine next other) :
    readText (joinLines lines ++ (line ++ joinLines [other])) = none := by
  have nothing : ∀ char ∈ ([] : List Char), 0x20 ≤ char.toNat := by
    intro char member
    cases member
  have together : joinLines lines ++ (line ++ joinLines [other]) =
      joinLines (lines ++ [line ++ other]) ++ [] := by
    rw [joinLines_append, List.append_nil]
    simp only [joinLines, List.flatMap_singleton, List.append_assoc]
  have printed : ∀ text ∈ lines ++ [line ++ other], ∀ char ∈ text,
      0x20 ≤ char.toNat := by
    intro text member char inside
    rcases List.mem_append.mp member with earlier | same
    · exact areLines.printed text earlier char inside
    · rw [List.mem_singleton.mp same] at inside
      rcases List.mem_append.mp inside with first | second
      · exact isLine.printed char first
      · exact isOther.printed char second
  have stripped : Text.stripChars (line ++ other) = line ++ other := by
    have last : (line ++ other).getLast? = some '}' := by
      rw [List.getLast?_append, isOther.ends]
      rfl
    rcases isLine.begins with ⟨tail, rfl⟩
    exact stripChars_of_ends (by decide) last (by decide)
  have refused : Json.loads (textOf (line ++ other)) = none := by
    rcases isOther.begins with ⟨tail, rfl⟩
    rw [textOf, List.map_append, ← textOf, isLine.textOf]
    exact Json.loads_behind_object row.proper (by decide) _
  rw [together]
  apply readText_eq_none _ _ refused
  · intro char member same
    subst same
    rw [List.append_nil] at member
    rcases List.mem_flatMap.mp member with ⟨text, inside, found⟩
    rcases List.mem_append.mp found with inText | ending
    · exact absurd (printed text inside _ inText) (by decide)
    · exact absurd (List.mem_singleton.mp ending) (by decide)
  · rw [rowTexts, splitOnP_joinLines printed, splitOnP_of_printed nothing]
    apply List.mem_filter.mpr
    constructor
    · refine List.mem_map.mpr ⟨line ++ other, ?_, stripped⟩
      apply List.mem_append_left
      exact List.mem_append_right _ (List.mem_singleton_self _)
    · rcases isLine.begins with ⟨tail, rfl⟩
      rfl

theorem Holds.torn (holds : Holds bytes rows)
    (within : count ≤ (appendedBytes (more.map JsonRow.json)).length)
    (torn : ¬ CutsBetweenRows (more.map JsonRow.json) count) {next : JsonRow}
    (encodable : (line? next.json).isSome = true) :
    JsonLines.readJsonl (some (bytes ++
        (appendedBytes (more.map JsonRow.json)).take count)) = none ∨
      JsonLines.readJsonl (some (bytes ++ (appendedBytes (more.map JsonRow.json)).take count ++
          appendedBytes [next.json])) = none := by
  rcases holds with ⟨lines, areLines, rfl⟩
  rcases Option.isSome_iff_exists.mp encodable with ⟨nextLine, isNext⟩
  cases decoded : Utf8.decode? (Utf8.encodeChars (joinLines lines) ++
      (appendedBytes (more.map JsonRow.json)).take count) with
  | none =>
    left
    rw [JsonLines.readJsonl, decoded]
    rfl
  | some chars =>
    rcases Utf8.decode?_append decoded with ⟨text, rfl, encoded⟩
    have begins : text <+:
        joinLines (encodableLines (more.map JsonRow.json)) := by
      apply Utf8.prefix_of_encodeChars
      rw [encoded]
      exact List.take_prefix _ _
    have written : (Utf8.encodeChars text).length = count := by
      rw [encoded, List.length_take, Nat.min_eq_left within]
    rcases prefix_joinLines begins with ⟨whole, rfl⟩ |
      ⟨whole, line, piece, found, nonempty, inside, rfl⟩
    · refine absurd ⟨whole, ?_⟩ torn
      rw [appendedBytes, encodableLines_take]
      exact written.symm
    · have wholeLines := areLines.append
        ((areLines_encodable more).take whole)
      obtain ⟨row, isLine⟩ : ∃ row, IsLine row line := by
        have all := areLines_encodable more
        rcases List.getElem?_eq_some_iff.mp found with ⟨bound, same⟩
        have shorter : whole < (encodableRows more).length := by
          rw [all.length_eq]
          exact bound
        refine ⟨(encodableRows more)[whole], ?_⟩
        rw [← same]
        exact all.get shorter bound
      by_cases complete : piece = line
      · right
        subst complete
        have appended : appendedBytes [next.json] =
            Utf8.encodeChars (joinLines [nextLine]) := by
          rw [appendedBytes, encodableLines, isNext]
          rfl
        have refused :=
          readText_of_joined wholeLines isLine isNext
        rw [joinLines_append] at refused
        rw [JsonLines.readJsonl, ← encoded, appended,
          ← Utf8.encodeChars_append, ← Utf8.encodeChars_append,
          Utf8.decode?_encodeChars, Option.bind_some]
        simpa only [List.append_assoc] using refused
      · left
        have refused := readText_of_cut wholeLines isLine inside nonempty
          complete
        rw [JsonLines.readJsonl, decoded, Option.bind_some]
        rw [joinLines_append, List.append_assoc] at refused
        exact refused

theorem loads_of_cut (isLine : IsLine row line) (shorter : count < (Utf8.encodeChars line).length) :
    (Utf8.decode? ((Utf8.encodeChars line).take count)).bind
      (fun chars => Json.loads (textOf (universalNewlines chars))) =
        none := by
  cases decoded : Utf8.decode? ((Utf8.encodeChars line).take count) with
  | none => rfl
  | some chars =>
    have encoded := Utf8.encodeChars_of_decode? decoded
    have begins : chars <+: line := by
      apply Utf8.prefix_of_encodeChars
      rw [encoded]
      exact List.take_prefix _ _
    have noReturn : ∀ char ∈ chars, char ≠ '\r' := by
      rintro char member rfl
      exact absurd (isLine.printed _ (begins.subset member)) (by decide)
    rw [Option.bind_some, universalNewlines_of_printed noReturn]
    apply Json.loads_of_cut_object row.proper
    · change _ <+: row.json.dumps
      rw [← isLine.textOf]
      exact begins.map CodePoint.scalar
    · intro same
      change _ = row.json.dumps at same
      rw [← isLine.textOf] at same
      have whole := Utf8.scalars?_textOf chars
      rw [same, Utf8.scalars?_textOf] at whole
      cases whole
      have lengths := congrArg List.length encoded
      rw [List.length_take] at lengths
      omega

end TurningGood.Foundation.JsonLines
