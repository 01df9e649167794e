import Mathlib.Data.List.DropRight

/-!
# Texts and slices

The operations on `str` that the sources use and that Lean's `String` does
not have in the same form, and the slice that keeps the last items of a list.
-/

namespace TurningGood.Foundation.Text

variable {α : Type*}

/-- `str.isspace` for one character. -/
def isSpace (char : Char) : Bool :=
  let code := char.toNat
  (0x9 ≤ code && code ≤ 0xD) || (0x1C ≤ code && code ≤ 0x20) ||
    code == 0x85 || code == 0xA0 || code == 0x1680 ||
    (0x2000 ≤ code && code ≤ 0x200A) || code == 0x2028 ||
    code == 0x2029 || code == 0x202F || code == 0x205F || code == 0x3000

/-- `str.strip` on a list of characters. -/
def stripChars (chars : List Char) : List Char :=
  ((chars.dropWhile isSpace).reverse.dropWhile isSpace).reverse

/-- `str.strip`. -/
def strip (text : String) : String := String.ofList (stripChars text.toList)

/-- `str.lower`, as far as ASCII letters are concerned. -/
def lower (text : String) : String := String.ofList (text.toList.map Char.toLower)

/-- `str.isascii() and str.isdecimal()`: a nonempty text of digits. -/
def isAsciiDecimal (text : String) : Bool := !text.toList.isEmpty &&
    text.toList.all fun char => '0' ≤ char && char ≤ '9'

theorem dropWhile_stripChars (chars : List Char) :
    (stripChars chars).dropWhile isSpace = stripChars chars := by
  have isPrefix : stripChars chars <+: chars.dropWhile isSpace :=
    List.rdropWhile_prefix isSpace (chars.dropWhile isSpace)
  rw [List.dropWhile_eq_self_iff]
  intro nonempty
  rw [isPrefix.getElem nonempty]
  exact List.dropWhile_get_zero_not isSpace chars (nonempty.trans_le isPrefix.length_le)

theorem stripChars_stripChars (chars : List Char) :
    stripChars (stripChars chars) = stripChars chars := by
  have front := dropWhile_stripChars chars
  rw [stripChars, front, stripChars, List.reverse_reverse, List.dropWhile_idempotent]

theorem strip_strip (text : String) : strip (strip text) = strip text := by
  simp only [strip, String.toList_ofList, stripChars_stripChars]

/-- `str.split()`: the words between white space. -/
def splitWords (chars : List Char) : List (List Char) :=
  (chars.splitOnP isSpace).filter fun word => word ≠ []

/-- `str.split(separator, 1)`, when the separator occurs. -/
def splitFirst (separator : Char) (chars : List Char) :
    Option (List Char × List Char) :=
  if separator ∈ chars then
    some (chars.takeWhile (· ≠ separator), (chars.dropWhile (· ≠ separator)).tail)
  else
    none

theorem splitFirst_eq_some_iff {separator : Char}
    {text front back : List Char} :
    splitFirst separator text = some (front, back) ↔
      text = front ++ separator :: back ∧ separator ∉ front := by
  rw [splitFirst]
  constructor
  · intro found
    split at found
    · rename_i present
      cases found
      have others : separator ∉ text.takeWhile (· ≠ separator) := by
        intro member
        have passed := List.mem_takeWhile_imp member
        simp at passed
      refine ⟨?_, others⟩
      have whole := List.takeWhile_append_dropWhile (p := (· ≠ separator))
        (l := text)
      have rest : text.dropWhile (· ≠ separator) ≠ [] := by
        intro nothing
        rw [List.dropWhile_eq_nil_iff] at nothing
        have passed := nothing separator present
        simp at passed
      have first := List.head_dropWhile_not (· ≠ separator) rest
      rw [decide_eq_false_iff_not, not_not] at first
      have split := List.cons_head_tail rest
      rw [first] at split
      rw [split]
      exact whole.symm
    · cases found
  · rintro ⟨rfl, absent⟩
    have present : separator ∈ front ++ separator :: back := by simp
    have all : ∀ char ∈ front, decide (char ≠ separator) = true := by
      intro char member
      rw [decide_eq_true_iff]
      rintro rfl
      exact absent member
    rw [if_pos present, List.takeWhile_append_of_pos all, List.dropWhile_append_of_pos all]
    simp

theorem splitFirst_eq_none_iff {separator : Char} {text : List Char} :
    splitFirst separator text = none ↔ separator ∉ text := by
  rw [splitFirst]
  split <;> simp_all

/-- The code points of the zeros of the decimal digit systems. -/
def decimalZeros : List Nat := [0x30, 0x660, 0x6F0, 0x7C0, 0x966, 0x9E6, 0xA66, 0xAE6, 0xB66, 0xBE6,
    0xC66, 0xCE6, 0xD66, 0xDE6, 0xE50, 0xED0, 0xF20, 0x1040, 0x1090,
    0x17E0, 0x1810, 0x1946, 0x19D0, 0x1A80, 0x1A90, 0x1B50, 0x1BB0,
    0x1C40, 0x1C50, 0xA620, 0xA8D0, 0xA900, 0xA9D0, 0xA9F0, 0xAA50,
    0xABF0, 0xFF10, 0x104A0, 0x10D30, 0x11066, 0x110F0, 0x11136, 0x111D0,
    0x112F0, 0x11450, 0x114D0, 0x11650, 0x116C0, 0x11730, 0x118E0,
    0x11950, 0x11C50, 0x11D50, 0x11DA0, 0x11F50, 0x16A60, 0x16AC0,
    0x16B50, 0x1D7CE, 0x1D7D8, 0x1D7E2, 0x1D7EC, 0x1D7F6, 0x1E140,
    0x1E2F0, 0x1E4F0, 0x1E950, 0x1FBF0]

/-- The value of a decimal digit. -/
def digitValue? (char : Char) : Option Nat :=
  decimalZeros.findSome? fun first =>
    if first ≤ char.toNat ∧ char.toNat < first + 10 then
      some (char.toNat - first)
    else
      none

/-- `int(text)` for a nonempty text of decimal digits. -/
def parseDecimal (chars : List Char) : Option Nat :=
  if chars = [] then
    none
  else
    chars.foldlM (fun value char => (digitValue? char).map (value * 10 + ·)) 0

/-- The last `count` items of a list, `items[-count:]` for a positive count. -/
def lastItems {α : Type*} (count : Nat) (items : List α) : List α :=
  items.drop (items.length - count)

theorem lastItems_subset (count : Nat) (items : List α) :
    lastItems count items ⊆ items :=
  List.drop_subset _ _

theorem lastItems_length_le (count : Nat) (items : List α) :
    (lastItems count items).length ≤ count := by
  simp only [lastItems, List.length_drop]
  omega

theorem mem_lastItems_append_singleton {count : Nat} (positive : 0 < count)
    (items : List α) (last : α) : last ∈ lastItems count (items ++ [last]) := by
  have within : (items ++ [last]).length - count ≤ items.length := by
    rw [List.length_append, List.length_singleton]
    omega
  rw [lastItems, List.drop_append_of_le_length within]
  exact List.mem_append_right _ List.mem_cons_self

theorem lastItems_drop {count skipped : Nat} {items : List α}
    (early : skipped ≤ items.length - count) :
    lastItems count (items.drop skipped) = lastItems count items := by
  simp only [lastItems, List.length_drop, List.drop_drop]
  congr 1
  omega

theorem lastItems_append (count : Nat) (items more : List α) :
    lastItems count (lastItems count items ++ more) =
      lastItems count (items ++ more) := by
  have within : items.length - count ≤ items.length := Nat.sub_le _ _
  have joined :
      lastItems count items ++ more = (items ++ more).drop (items.length - count) := by
    rw [List.drop_append_of_le_length within, lastItems]
  rw [joined]
  apply lastItems_drop
  rw [List.length_append]
  omega

end TurningGood.Foundation.Text
