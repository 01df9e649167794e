import Mathlib.Data.List.Basic

/-!
# Code points and UTF-8

A `str` is a list of code points, among which lone surrogates may occur.
Only texts of scalar values can be encoded; what is decoded consists of
scalar values.  A text that was cut within its encoding is either refused
when it is decoded, or a prefix of the text.
-/

namespace TurningGood.Foundation

/-- A code point of a `str`. -/
inductive CodePoint where
  | scalar (char : Char)
  | surrogate (offset : Fin 2048)
  deriving DecidableEq, Repr

/-- A `str`. -/
abbrev CodePoints := List CodePoint

namespace CodePoint

/-- The scalar value of a code point. -/
def scalar? : CodePoint → Option Char
  | scalar char => some char
  | surrogate _ => none

/-- The code point with a number. -/
def ofNat (number : Nat) : CodePoint :=
  if within : 0xD800 ≤ number ∧ number < 0xE000 then
    surrogate ⟨number - 0xD800, by omega⟩
  else
    scalar (Char.ofNat number)

end CodePoint

/-- A text of scalar values. -/
def textOf (chars : List Char) : CodePoints := chars.map .scalar

namespace Utf8

variable {chars : List Char}

/-- The bytes of scalar values. -/
def encodeChars (chars : List Char) : List UInt8 := chars.flatMap String.utf8EncodeChar

/-- The scalar values of a text, if it has no other code points. -/
def scalars? (text : CodePoints) : Option (List Char) := text.mapM CodePoint.scalar?

/-- `str.encode`, which refuses surrogates. -/
def encode? (text : CodePoints) : Option (List UInt8) := (scalars? text).map encodeChars

/-- `bytes.decode`. -/
def decode? (bytes : List UInt8) : Option (List Char) :=
  bytes.toByteArray.utf8Decode?.map Array.toList

@[simp]
theorem encodeChars_nil : encodeChars [] = [] := rfl

@[simp]
theorem encodeChars_append (front back : List Char) :
    encodeChars (front ++ back) = encodeChars front ++ encodeChars back :=
  List.flatMap_append

theorem toByteArray_encodeChars (chars : List Char) :
    (encodeChars chars).toByteArray = chars.utf8Encode := rfl

@[simp]
theorem decode?_encodeChars (chars : List Char) :
    decode? (encodeChars chars) = some chars := by
  rw [decode?, toByteArray_encodeChars, List.utf8Decode?_utf8Encode]
  rfl

theorem encodeChars_injective : Function.Injective encodeChars := by
  intro first second same
  have decoded := congrArg decode? same
  rw [decode?_encodeChars, decode?_encodeChars] at decoded
  exact Option.some.inj decoded

theorem encodeChars_eq_nil : encodeChars chars = [] ↔ chars = [] := by
  constructor
  · intro empty
    exact encodeChars_injective empty
  · rintro rfl
    rfl

theorem encodeChars_of_decode? {bytes : List UInt8}
    (decoded : decode? bytes = some chars) : encodeChars chars = bytes := by
  rcases Option.map_eq_some_iff.mp decoded with ⟨array, found, rfl⟩
  have valid : bytes.toByteArray.utf8Decode?.isSome = true := by
    rw [found]
    rfl
  apply List.toByteArray_inj.mp
  rw [toByteArray_encodeChars]
  calc
    array.toList.utf8Encode = (bytes.toByteArray.utf8Decode?.get valid).toList.utf8Encode := by
      simp only [found, Option.get_some]
    _ = bytes.toByteArray := ByteArray.utf8Encode_get_utf8Decode?

theorem prefix_of_encodeChars {front whole : List Char}
    (begins : encodeChars front <+: encodeChars whole) : front <+: whole := by
  rcases begins with ⟨rest, same⟩
  apply List.isPrefix_of_utf8Encode_append_eq_utf8Encode rest.toByteArray
  rw [← toByteArray_encodeChars, ← toByteArray_encodeChars, ← same, List.toByteArray_append]

theorem decode?_append {front whole : List Char} {bytes : List UInt8}
    (decoded : decode? (encodeChars front ++ bytes) = some whole) :
    ∃ rest, whole = front ++ rest ∧ encodeChars rest = bytes := by
  have encoded := encodeChars_of_decode? decoded
  have begins : encodeChars front <+: encodeChars whole :=
    ⟨bytes, encoded.symm⟩
  rcases prefix_of_encodeChars begins with ⟨rest, rfl⟩
  rw [encodeChars_append] at encoded
  exact ⟨rest, rfl, List.append_cancel_left encoded⟩

@[simp]
theorem scalars?_textOf (chars : List Char) :
    scalars? (textOf chars) = some chars := by
  induction chars with
  | nil => rfl
  | cons char rest induction =>
    rw [textOf, List.map_cons, scalars?, List.mapM_cons]
    change (scalars? (textOf rest)).bind _ = _
    rw [induction]
    rfl

theorem textOf_of_scalars? {text : CodePoints}
    (scalars : scalars? text = some chars) : textOf chars = text := by
  induction text generalizing chars with
  | nil =>
    cases scalars
    rfl
  | cons point rest induction =>
    rw [scalars?, List.mapM_cons] at scalars
    cases point with
    | surrogate offset => cases scalars
    | scalar char =>
      change (scalars? rest).bind _ = _ at scalars
      rcases Option.bind_eq_some_iff.mp scalars with ⟨tail, found, same⟩
      cases same
      rw [textOf, List.map_cons]
      congr 1
      exact induction found

end Utf8

end TurningGood.Foundation
