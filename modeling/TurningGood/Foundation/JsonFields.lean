import TurningGood.Foundation.JsonAppend
import Mathlib.Data.List.Nodup

/-!
# Fields of objects

The fields of a dictionary by their names, what they inherit from the
dictionary, and which dictionaries can be encoded.
-/

namespace TurningGood.Foundation

/-- The text of a literal. -/
def literal (text : String) : CodePoints := textOf text.toList

theorem literal_injective : Function.Injective literal := by
  intro first second same
  apply String.toList_injective
  apply List.map_injective_iff.mpr _ same
  intro left right equal
  cases equal
  rfl

/-- A text without surrogates. -/
def IsScalarText (text : CodePoints) : Prop := ∀ point ∈ text, point.scalar?.isSome = true

theorem isScalarText_textOf (chars : List Char) :
    IsScalarText (textOf chars) := by
  intro point member
  rcases List.mem_map.mp member with ⟨char, -, rfl⟩
  rfl

theorem isScalarText_literal (text : String) :
    IsScalarText (literal text) :=
  isScalarText_textOf text.toList

theorem isScalarText_append {front back : CodePoints} : IsScalarText (front ++ back) ↔
      IsScalarText front ∧ IsScalarText back :=
  List.forall_mem_append

theorem isScalarText_cons {point : CodePoint} {rest : CodePoints} : IsScalarText (point :: rest) ↔
      point.scalar?.isSome = true ∧ IsScalarText rest :=
  List.forall_mem_cons

theorem scalars?_isSome_iff (text : CodePoints) :
    (Utf8.scalars? text).isSome = true ↔ IsScalarText text := by
  induction text with
  | nil => exact ⟨fun _ point member => (nomatch member), fun _ => rfl⟩
  | cons point rest induction =>
    rw [isScalarText_cons, ← induction, Utf8.scalars?, List.mapM_cons]
    change Option.isSome (point.scalar?.bind fun first =>
      (Utf8.scalars? rest).bind fun others =>
        some (first :: others)) = true ↔ _
    cases point.scalar? <;> cases Utf8.scalars? rest <;> simp

namespace Json

variable {value field : Json} {key : CodePoints}

/-! ## Fields -/

/-- `value.get(key)` for a key that is given by its name. -/
def field? (name : String) (value : Json) : Option Json := value.get? (literal name)

/-- The text of a value, if it is a `str`. -/
def text? : Option Json → Option CodePoints
  | some (.string text) => some text
  | _ => none

/-- A field that is a `str`. -/
def string? (name : String) (value : Json) : Option CodePoints := text? (value.field? name)

theorem text?_eq_some {value : Option Json} {text : CodePoints} :
    text? value = some text ↔ value = some (.string text) := by
  constructor
  · intro found
    rcases value with - | value
    · cases found
    · cases value <;> cases found
      rfl
  · rintro rfl
    rfl

theorem mem_of_get? (found : value.get? key = some field) :
    ∃ members, value = .object members ∧ (key, field) ∈ members := by
  cases value with
  | object members =>
    refine ⟨members, rfl, ?_⟩
    rcases Option.map_eq_some_iff.mp found with ⟨member, first, rfl⟩
    have same : member.1 = key := by
      simpa using List.find?_some first
    rw [← same]
    exact List.mem_of_find?_eq_some first
  | null | bool | number | string | array => cases found

theorem properMembers_iff {members : List (CodePoints × Json)} :
    ProperMembers members ↔ ∀ member ∈ members, member.2.Proper := by
  induction members with
  | nil => simp [ProperMembers]
  | cons member rest induction =>
    rw [ProperMembers, List.forall_mem_cons, induction]

theorem properItems_iff {items : List Json} :
    ProperItems items ↔ ∀ item ∈ items, item.Proper := by
  induction items with
  | nil => simp [ProperItems]
  | cons item rest induction =>
    rw [ProperItems, List.forall_mem_cons, induction]

theorem Proper.get? (proper : value.Proper)
    (found : value.get? key = some field) : field.Proper := by
  rcases mem_of_get? found with ⟨members, rfl, member⟩
  rw [Proper] at proper
  exact properMembers_iff.mp proper.2 _ member

/-! ## Encodable values -/

/-- A value whose text can be encoded. -/
def Encodable (value : Json) : Prop := IsScalarText value.dumps

theorem encodable_iff_line? (value : Json) :
    (JsonLines.line? value).isSome = true ↔ value.Encodable :=
  scalars?_isSome_iff value.dumps

theorem isScalarText_dumpsString (text : CodePoints) :
    IsScalarText (dumpsString text) ↔ IsScalarText text := by
  have quote : IsScalarText [.scalar '"'] := isScalarText_textOf ['"']
  have escaped : ∀ point : CodePoint,
      IsScalarText (escape point) ↔ point.scalar?.isSome = true := by
    intro point
    cases point with
    | scalar char =>
      exact ⟨fun _ => rfl, fun _ => isScalarText_textOf _⟩
    | surrogate offset => exact List.forall_mem_singleton
  have body : IsScalarText (text.flatMap escape) ↔ IsScalarText text := by
    constructor
    · intro scalar point member
      apply (escaped point).mp
      intro other inside
      exact scalar other (List.mem_flatMap.mpr ⟨point, member, inside⟩)
    · intro scalar point member
      rcases List.mem_flatMap.mp member with ⟨origin, inside, found⟩
      exact (escaped origin).mpr (scalar origin inside) point found
  rw [dumpsString, isScalarText_cons, isScalarText_append, body]
  exact ⟨fun scalar => scalar.2.1, fun scalar => ⟨rfl, scalar, quote⟩⟩

theorem isScalarText_dumpsMembers (rest : List (CodePoints × Json)) :
    IsScalarText (dumpsMembers rest) ↔
      ∀ member ∈ rest, IsScalarText member.1 ∧ member.2.Encodable := by
  induction rest with
  | nil =>
    exact ⟨fun _ member inside => (nomatch inside), fun _ => isScalarText_textOf ['\x7d']⟩
  | cons member others induction =>
    rw [dumpsMembers, isScalarText_append, isScalarText_append,
      isScalarText_append, isScalarText_append, isScalarText_dumpsString,
      induction, List.forall_mem_cons, Encodable]
    have separator := isScalarText_textOf [',', ' ']
    have colon := isScalarText_textOf [':', ' ']
    exact ⟨fun scalar => ⟨⟨scalar.2.1, scalar.2.2.2.1⟩, scalar.2.2.2.2⟩,
      fun scalar => ⟨separator, scalar.1.1, colon, scalar.1.2, scalar.2⟩⟩

theorem encodable_object {members : List (CodePoints × Json)} : (object members).Encodable ↔
      ∀ member ∈ members, IsScalarText member.1 ∧ member.2.Encodable := by
  cases members with
  | nil =>
    exact ⟨fun _ member inside => (nomatch inside), fun _ => isScalarText_textOf ['\x7b', '\x7d']⟩
  | cons member rest =>
    rw [Encodable, dumps, isScalarText_cons, isScalarText_append,
      isScalarText_append, isScalarText_append, isScalarText_dumpsString,
      isScalarText_dumpsMembers, List.forall_mem_cons, Encodable]
    have colon := isScalarText_textOf [':', ' ']
    exact ⟨fun scalar => ⟨⟨scalar.2.1, scalar.2.2.2.1⟩, scalar.2.2.2.2⟩,
      fun scalar => ⟨rfl, scalar.1.1, colon, scalar.1.2, scalar.2⟩⟩

theorem encodable_string {text : CodePoints} : (string text).Encodable ↔ IsScalarText text :=
  isScalarText_dumpsString text

theorem encodable_null : Encodable .null := isScalarText_textOf _

theorem encodable_number (value : JsonNumber) : (number value).Encodable := by
  cases value with
  | nan | infinity | negativeInfinity => exact isScalarText_textOf _
  | finite lexeme valid => exact isScalarText_textOf lexeme

theorem Encodable.get? (encodable : value.Encodable)
    (found : value.get? key = some field) : field.Encodable := by
  rcases mem_of_get? found with ⟨members, rfl, member⟩
  exact (encodable_object.mp encodable _ member).2

/-! ## Objects whose keys are given by their names -/

/-- A dictionary whose keys are given by their names. -/
def ofFields (fields : List (String × Json)) : Json :=
  .object (fields.map fun field : String × Json => (literal field.1, field.2))

theorem field?_ofFields (fields : List (String × Json)) (name : String) :
    (ofFields fields).field? name =
      (fields.find? fun field => decide (field.1 = name)).map (·.2) := by
  rw [ofFields, field?, Json.get?, List.find?_map, Option.map_map]
  have same : ((fun member : CodePoints × Json =>
        decide (member.1 = literal name)) ∘
          fun field : String × Json => (literal field.1, field.2)) =
      fun field => decide (field.1 = name) := by
    funext field
    exact decide_eq_decide.mpr literal_injective.eq_iff
  rw [same]
  rfl

theorem proper_ofFields {fields : List (String × Json)} (different : (fields.map (·.1)).Nodup)
    (proper : ∀ field ∈ fields, field.2.Proper) :
    (ofFields fields).Proper := by
  rw [ofFields, Proper, properMembers_iff, List.map_map, List.forall_mem_map]
  refine ⟨?_, proper⟩
  have keys := List.Nodup.map literal_injective different
  rw [List.map_map] at keys
  exact keys

theorem encodable_ofFields {fields : List (String × Json)} :
    (ofFields fields).Encodable ↔ ∀ field ∈ fields, field.2.Encodable := by
  rw [ofFields, encodable_object, List.forall_mem_map]
  exact forall₂_congr fun field _ =>
    and_iff_right (isScalarText_literal field.1)

end Json

namespace JsonRow

/-- A row whose keys are given by their names. -/
def ofFields (fields : List (String × Json)) (different : (fields.map (·.1)).Nodup)
    (proper : ∀ field ∈ fields, field.2.Proper) : JsonRow where
  members := fields.map fun field : String × Json =>
    (literal field.1, field.2)
  proper := Json.proper_ofFields different proper

theorem field?_ofFields {fields : List (String × Json)}
    {different : (fields.map (·.1)).Nodup}
    {proper : ∀ field ∈ fields, field.2.Proper} (name : String) :
    (ofFields fields different proper).json.field? name =
      (fields.find? fun field => decide (field.1 = name)).map (·.2) :=
  Json.field?_ofFields fields name

end JsonRow

theorem JsonLines.Holds.encodable {bytes : List UInt8}
    {rows : List JsonRow} (holds : JsonLines.Holds bytes rows) :
    ∀ row ∈ rows, row.json.Encodable := by
  rcases holds with ⟨lines, areLines, -⟩
  intro row member
  induction areLines with
  | nil => cases member
  | cons isLine _ induction =>
    rcases List.mem_cons.mp member with rfl | later
    · apply (Json.encodable_iff_line? _).mp
      rw [isLine]
      rfl
    · exact induction later

end TurningGood.Foundation
