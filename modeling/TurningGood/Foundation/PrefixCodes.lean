import Mathlib.Algebra.Group.Nat.Defs
import Mathlib.Data.List.Basic

/-!
# Codes that are read from the front

In a prefix code no encoding begins another one, so that a value can be read
from the front of a text and what follows it is left.  Encodings of one length
are such a code, as is a header with a body whose size the header names.
Encodings of a prefix code can be written one behind the other.
-/

namespace TurningGood.Foundation

variable {Value Other Symbol : Type*}

/--
Two values whose encodings begin one text are the same, and so is what follows
them.  The relation says which encodings a value has.
-/
def PrefixCode (writes : Value → List Symbol → Prop) : Prop :=
  ∀ (first second : Value) (one two rest others : List Symbol),
    writes first one → writes second two → one ++ rest = two ++ others →
      first = second ∧ rest = others

namespace PrefixCode

variable {writes : Value → List Symbol → Prop}

theorem of_length {size : Nat} (length : ∀ value text, writes value text → text.length = size)
    (injective : ∀ first second text,
      writes first text → writes second text → first = second) :
    PrefixCode writes := by
  intro first second one two rest others wroteOne wroteTwo same
  have sizes : one.length = two.length := by
    rw [length first one wroteOne, length second two wroteTwo]
  rcases List.append_inj same sizes with ⟨rfl, sameRest⟩
  exact ⟨injective first second one wroteOne wroteTwo, sameRest⟩

theorem framed {header : Nat → List Symbol → Prop}
    (headers : PrefixCode header) {body : Value → List Symbol}
    (injective : Function.Injective body) :
    PrefixCode fun (value : Value) text =>
      ∃ head, header (body value).length head ∧ text = head ++ body value := by
  rintro first second one two rest others ⟨head, wroteOne, rfl⟩
    ⟨otherHead, wroteTwo, rfl⟩ same
  rw [List.append_assoc, List.append_assoc] at same
  rcases headers _ _ head otherHead _ _ wroteOne wroteTwo same with ⟨sizes, bodies⟩
  rcases List.append_inj bodies sizes with ⟨sameBody, sameRest⟩
  exact ⟨injective sameBody, sameRest⟩

theorem flatten (code : PrefixCode writes) {first second : List Value}
    {one two : List (List Symbol)}
    (wroteOne : List.Forall₂ writes first one)
    (wroteTwo : List.Forall₂ writes second two)
    (sizes : first.length = second.length)
    (same : one.flatten = two.flatten) : first = second := by
  induction wroteOne generalizing second two with
  | nil => exact (List.eq_nil_of_length_eq_zero sizes.symm).symm
  | @cons value text values texts wrote later induction =>
    cases wroteTwo with
    | nil => cases sizes
    | @cons other otherText others otherTexts wroteOther after =>
      rw [List.flatten_cons, List.flatten_cons] at same
      rcases code value other text otherText _ _ wrote wroteOther same with ⟨sameValue, sameRest⟩
      rw [sameValue, induction after (Nat.succ.inj sizes) sameRest]

end PrefixCode

/-- `int.to_bytes(width, "big")`, for a number that fits. -/
def bigEndian : Nat → Nat → List UInt8
  | 0, _ => []
  | width + 1, number =>
    bigEndian width (number / 256) ++ [UInt8.ofNat (number % 256)]

@[simp]
theorem length_bigEndian (width number : Nat) : (bigEndian width number).length = width := by
  induction width generalizing number with
  | zero => rfl
  | succ width induction =>
    rw [bigEndian, List.length_append, induction]
    rfl

theorem bigEndian_injective {width first second : Nat}
    (firstFits : first < 256 ^ width) (secondFits : second < 256 ^ width)
    (same : bigEndian width first = bigEndian width second) :
    first = second := by
  induction width generalizing first second with
  | zero =>
    rw [Nat.pow_zero] at firstFits secondFits
    omega
  | succ width induction =>
    rw [bigEndian, bigEndian] at same
    have sizes : (bigEndian width (first / 256)).length =
        (bigEndian width (second / 256)).length := by
      rw [length_bigEndian, length_bigEndian]
    rcases List.append_inj same sizes with ⟨high, low⟩
    have quotients : first / 256 = second / 256 := by
      apply induction _ _ high
      · exact Nat.div_lt_of_lt_mul (by rw [Nat.pow_succ] at firstFits; omega)
      · exact Nat.div_lt_of_lt_mul (by rw [Nat.pow_succ] at secondFits; omega)
    have digits := congrArg UInt8.toNat (List.cons.inj low).1
    have remainders : first % 256 = second % 256 := by
      rw [UInt8.toNat_ofNat', UInt8.toNat_ofNat'] at digits
      omega
    rw [← Nat.div_add_mod first 256, quotients, remainders,
      Nat.div_add_mod]

end TurningGood.Foundation
