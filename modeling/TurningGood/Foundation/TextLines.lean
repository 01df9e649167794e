import TurningGood.Foundation.JsonLines

/-!
# Lines and ink

The lines of a text end at more characters than the line feed.  Its ink are
the characters that are not white space: stripping a text and reading it with
uniform line ends keep the ink, and what is read from a part of a text has no
more ink than the text.
-/

namespace TurningGood.Foundation.Text

variable {char : Char} {front chars blank marker : List Char}

/-! ## Lines -/

/-- The characters at which `str.splitlines` ends a line. -/
def isLineBreak (char : Char) : Bool :=
  let code := char.toNat
  (0xA ≤ code && code ≤ 0xD) || (0x1C ≤ code && code ≤ 0x1E) ||
    code == 0x85 || code == 0x2028 || code == 0x2029

/-- The loop of `str.splitlines`, with the line that has begun. -/
def splitLinesLoop : List Char → List Char → List (List Char)
  | [], [] => []
  | [], first :: rest => [first :: rest]
  | '\r' :: '\n' :: rest, current => current :: splitLinesLoop rest []
  | char :: rest, current =>
    if isLineBreak char then current :: splitLinesLoop rest []
    else splitLinesLoop rest (current ++ [char])

/-- `str.splitlines`. -/
def splitLines (chars : List Char) : List (List Char) := splitLinesLoop chars []

/-- The first line of a text, without its end. -/
def firstLine (chars : List Char) : List Char := chars.takeWhile fun char => !isLineBreak char

/-- The text from the end of its first line on. -/
def behindFirstLine (chars : List Char) : List Char := chars.dropWhile fun char => !isLineBreak char

theorem firstLine_append_behind (chars : List Char) :
    firstLine chars ++ behindFirstLine chars = chars :=
  List.takeWhile_append_dropWhile

theorem firstLine_cons_break (isBreak : isLineBreak char = true)
    (rest : List Char) : firstLine (char :: rest) = [] :=
  List.takeWhile_cons_of_neg (by simp [isBreak])

theorem firstLine_cons (noBreak : isLineBreak char = false) (rest : List Char) :
    firstLine (char :: rest) = char :: firstLine rest :=
  List.takeWhile_cons_of_pos (by simp [noBreak])

theorem behindFirstLine_cons_break (isBreak : isLineBreak char = true)
    (rest : List Char) : behindFirstLine (char :: rest) = char :: rest :=
  List.dropWhile_cons_of_neg (by simp [isBreak])

theorem behindFirstLine_cons (noBreak : isLineBreak char = false) (rest : List Char) :
    behindFirstLine (char :: rest) = behindFirstLine rest :=
  List.dropWhile_cons_of_pos (by simp [noBreak])

theorem firstLine_append (noBreak : ∀ char ∈ front, isLineBreak char = false)
    (rest : List Char) : firstLine (front ++ rest) = front ++ firstLine rest :=
  List.takeWhile_append_of_pos (by simpa using noBreak)

theorem behindFirstLine_append
    (noBreak : ∀ char ∈ front, isLineBreak char = false) (rest : List Char) :
    behindFirstLine (front ++ rest) = behindFirstLine rest :=
  List.dropWhile_append_of_pos (by simpa using noBreak)

theorem firstLine_append_break (isBreak : isLineBreak char = true) (front rest : List Char) :
    firstLine (front ++ char :: rest) = firstLine front := by
  induction front with
  | nil => exact firstLine_cons_break isBreak rest
  | cons first others induction =>
    cases broken : isLineBreak first with
    | true =>
      rw [List.cons_append, firstLine_cons_break broken, firstLine_cons_break broken]
    | false =>
      rw [List.cons_append, firstLine_cons broken, firstLine_cons broken, induction]

theorem sublist_of_mem_splitLinesLoop {current line : List Char}
    (member : line ∈ splitLinesLoop chars current) :
    line.Sublist (current ++ chars) := by
  fun_induction splitLinesLoop chars current with
  | case1 => cases member
  | case2 first rest =>
    rw [List.mem_singleton.mp member]
    exact List.sublist_append_left _ _
  | case3 current rest induction =>
    rcases List.mem_cons.mp member with rfl | later
    · exact List.sublist_append_left _ _
    · apply (induction later).trans
      rw [List.nil_append]
      exact ((List.sublist_cons_self _ _).trans
        (List.sublist_cons_self _ _)).trans (List.sublist_append_right _ _)
  | case4 current char rest _ isBreak induction =>
    rcases List.mem_cons.mp member with rfl | later
    · exact List.sublist_append_left _ _
    · apply (induction later).trans
      rw [List.nil_append]
      exact (List.sublist_cons_self _ _).trans (List.sublist_append_right _ _)
  | case5 current char rest _ noBreak induction =>
    have inside := induction member
    rwa [List.append_assoc, List.singleton_append] at inside

theorem splitLinesLoop_begins {current : List Char} (nonempty : current ++ chars ≠ []) :
    ∃ more, splitLinesLoop chars current = (current ++ firstLine chars) :: more ∧
        ∀ line ∈ more, line.Sublist (behindFirstLine chars) := by
  fun_induction splitLinesLoop chars current with
  | case1 => exact absurd rfl nonempty
  | case2 first rest => exact ⟨[], by simp [firstLine], nofun⟩
  | case3 current rest _ =>
    rw [firstLine_cons_break rfl, behindFirstLine_cons_break rfl]
    refine ⟨_, by rw [List.append_nil], ?_⟩
    intro line member
    have inside := sublist_of_mem_splitLinesLoop member
    exact inside.trans ((List.sublist_cons_self _ _).trans (List.sublist_cons_self _ _))
  | case4 current char rest _ isBreak _ =>
    rw [firstLine_cons_break isBreak, behindFirstLine_cons_break isBreak]
    refine ⟨_, by rw [List.append_nil], ?_⟩
    intro line member
    have inside := sublist_of_mem_splitLinesLoop member
    exact inside.trans (List.sublist_cons_self _ _)
  | case5 current char rest _ noBreak induction =>
    rw [Bool.not_eq_true] at noBreak
    rw [firstLine_cons noBreak, behindFirstLine_cons noBreak]
    have begins := induction (by simp)
    rwa [List.append_assoc, List.singleton_append] at begins

theorem splitLines_begins (nonempty : chars ≠ []) :
    ∃ more, splitLines chars = firstLine chars :: more ∧
      ∀ line ∈ more, line.Sublist (behindFirstLine chars) :=
  splitLinesLoop_begins nonempty

theorem splitLines_append_newline {line : List Char}
    (noBreak : ∀ char ∈ line, isLineBreak char = false) (rest : List Char) :
    splitLines (line ++ '\n' :: rest) = line :: splitLines rest := by
  have loop : ∀ current,
      splitLinesLoop (line ++ '\n' :: rest) current = (current ++ line) :: splitLines rest := by
    induction line with
    | nil =>
      intro current
      rw [List.append_nil]
      exact splitLinesLoop.eq_4 _ _ _ nofun
    | cons first others induction =>
      intro current
      have here := noBreak first List.mem_cons_self
      have later := induction fun char member =>
        noBreak char (List.mem_cons_of_mem _ member)
      have differs : first ≠ '\r' := by
        rintro rfl
        cases here
      rw [List.cons_append, splitLinesLoop.eq_4 _ _ _
        fun _ same => absurd same differs, if_neg (by simp [here]), later,
        List.append_assoc, List.singleton_append]
  exact loop []

/-! ## Ink -/

/-- The characters of a text that are not white space. -/
def ink (chars : List Char) : List Char := chars.filter fun char => !isSpace char

theorem ink_append (front back : List Char) :
    ink (front ++ back) = ink front ++ ink back :=
  List.filter_append _ _

theorem ink_sublist {part : List Char} (inside : part.Sublist chars) :
    (ink part).Sublist (ink chars) :=
  inside.filter _

theorem ink_length_le {part : List Char} (inside : part.Sublist chars) :
    (ink part).length ≤ (ink chars).length :=
  (ink_sublist inside).length_le

theorem ink_eq_nil_iff :
    ink chars = [] ↔ ∀ char ∈ chars, isSpace char = true := by
  rw [ink, List.filter_eq_nil_iff]
  simp only [Bool.not_eq_true', Bool.not_eq_false]

theorem ink_dropWhile (chars : List Char) :
    ink (chars.dropWhile isSpace) = ink chars := by
  induction chars with
  | nil => rfl
  | cons first rest induction =>
    cases blank : isSpace first with
    | true =>
      rw [List.dropWhile_cons_of_pos blank, induction]
      exact (List.filter_cons_of_neg (by simp [blank])).symm
    | false => rw [List.dropWhile_cons_of_neg (by simp [blank])]

theorem ink_stripChars (chars : List Char) :
    ink (stripChars chars) = ink chars := by
  have behind := ink_dropWhile (chars.dropWhile isSpace).reverse
  rw [stripChars, ink, List.filter_reverse]
  rw [ink, ink, List.filter_reverse] at behind
  rw [behind, List.reverse_reverse]
  exact ink_dropWhile chars

theorem stripChars_sublist (chars : List Char) : (stripChars chars).Sublist chars :=
  (List.rdropWhile_prefix isSpace _).sublist.trans (List.dropWhile_sublist isSpace)

theorem stripChars_eq_nil_iff : stripChars chars = [] ↔ ink chars = [] := by
  constructor
  · intro stripped
    rw [← ink_stripChars, stripped]
    rfl
  · intro blank
    have all : ∀ char ∈ stripChars chars, isSpace char = true :=
      fun char member =>
        ink_eq_nil_iff.mp blank char ((stripChars_sublist chars).subset member)
    rw [← dropWhile_stripChars, List.dropWhile_eq_nil_iff]
    exact all

theorem stripChars_of_inked (inked : ∀ char ∈ chars, isSpace char = false) :
    stripChars chars = chars := by
  have whole : ink chars = chars := by
    rw [ink, List.filter_eq_self]
    intro char member
    rw [inked char member]
    rfl
  apply (stripChars_sublist chars).eq_of_length_le
  calc chars.length
      = (ink (stripChars chars)).length := by rw [ink_stripChars, whole]
    _ ≤ (stripChars chars).length := List.length_filter_le _ _

theorem dropWhile_append_of_blank
    (isBlank : ∀ char ∈ blank, isSpace char = true) (rest : List Char) :
    (blank ++ rest).dropWhile isSpace = rest.dropWhile isSpace := by
  rw [List.dropWhile_append, if_pos]
  rw [List.isEmpty_iff, List.dropWhile_eq_nil_iff]
  exact isBlank

theorem stripChars_blank_append (isBlank : ∀ char ∈ blank, isSpace char = true) (rest : List Char) :
    stripChars (blank ++ rest) = stripChars rest := by
  rw [stripChars, dropWhile_append_of_blank isBlank, ← stripChars]

theorem stripChars_dropWhile {blank : Char → Bool}
    (isBlank : ∀ char, blank char = true → isSpace char = true)
    (chars : List Char) :
    stripChars (chars.dropWhile blank) = stripChars chars := by
  have dropped : ∀ char ∈ chars.takeWhile blank, isSpace char = true :=
    fun char member => isBlank char (List.mem_takeWhile_imp member)
  have whole := stripChars_blank_append dropped (chars.dropWhile blank)
  rw [List.takeWhile_append_dropWhile] at whole
  exact whole.symm

theorem stripChars_append_blank
    (isBlank : ∀ char ∈ blank, isSpace char = true) (chars : List Char) :
    stripChars (chars ++ blank) = stripChars chars := by
  have turned : ∀ char ∈ blank.reverse, isSpace char = true :=
    fun char member => isBlank char (List.mem_reverse.mp member)
  cases begins : chars.dropWhile isSpace with
  | nil =>
    have all := List.dropWhile_eq_nil_iff.mp begins
    have front := stripChars_blank_append all blank
    have back := stripChars_blank_append isBlank []
    have alone := stripChars_blank_append all []
    rw [List.append_nil] at back alone
    rw [front, back, alone]
  | cons first rest =>
    rw [stripChars, stripChars, List.dropWhile_append, begins,
      List.isEmpty_cons, if_neg (by decide), List.reverse_append,
      dropWhile_append_of_blank turned]

/-! ## The first occurrence of a marker -/

/-- What is before and behind the first occurrence of a marker. -/
def cutAt (marker : List Char) : List Char → Option (List Char × List Char)
  | [] => none
  | char :: rest =>
    if marker.isPrefixOf (char :: rest) then
      some ([], (char :: rest).drop marker.length)
    else
      (cutAt marker rest).map fun found => (char :: found.1, found.2)

theorem cutAt_here (nonempty : marker ≠ []) (back : List Char) :
    cutAt marker (marker ++ back) = some ([], back) := by
  cases marker with
  | nil => exact absurd rfl nonempty
  | cons first others =>
    rw [List.cons_append, cutAt, if_pos, ← List.cons_append, List.drop_left]
    rw [List.isPrefixOf_iff_prefix, ← List.cons_append]
    exact List.prefix_append _ _

theorem cutAt_cons {rest : List Char} (absent : ¬ marker <+: char :: rest) :
    cutAt marker (char :: rest) =
      (cutAt marker rest).map fun found => (char :: found.1, found.2) := by
  rw [cutAt, if_neg]
  rwa [List.isPrefixOf_iff_prefix]

theorem cutAt_append_of_notMem {first : Char} {others front : List Char}
    (absent : first ∉ front) (rest : List Char) :
    cutAt (first :: others) (front ++ rest) =
      (cutAt (first :: others) rest).map fun found =>
        (front ++ found.1, found.2) := by
  induction front with
  | nil => exact Option.map_id'.symm
  | cons char front induction =>
    have differs : ¬ first :: others <+: char :: (front ++ rest) := by
      intro begins
      rw [(List.cons_prefix_cons.mp begins).1] at absent
      exact absent List.mem_cons_self
    rw [List.cons_append, cutAt_cons differs,
      induction fun member => absent (List.mem_cons_of_mem _ member),
      Option.map_map]
    rfl

theorem cutAt_append_of_second {first second : Char} {others : List Char}
    (differs : first ≠ second) (absent : second ∉ front) (back : List Char) :
    cutAt (first :: second :: others)
        (front ++ (first :: second :: others ++ back)) =
      some (front, back) := by
  induction front with
  | nil => exact cutAt_here (List.cons_ne_nil _ _) back
  | cons char front induction =>
    have later := induction fun member =>
      absent (List.mem_cons_of_mem _ member)
    have elsewhere : ¬ first :: second :: others <+:
        char :: (front ++ (first :: second :: others ++ back)) := by
      intro begins
      have behind := (List.cons_prefix_cons.mp begins).2
      cases front with
      | nil => exact differs (List.cons_prefix_cons.mp behind).1.symm
      | cons next rest =>
        apply absent
        rw [(List.cons_prefix_cons.mp behind).1]
        exact List.mem_cons_of_mem _ List.mem_cons_self
    rw [List.cons_append, cutAt_cons elsewhere, later]
    rfl

theorem cutAt_append {first : Char} {others : List Char}
    (front back : List Char) :
    ∃ found, cutAt (first :: others) (front ++ (first :: others ++ back)) =
        some found ∧
      (found.1 = front ∨ ∃ rest, front = found.1 ++ first :: rest) := by
  induction front with
  | nil => exact ⟨_, cutAt_here (List.cons_ne_nil _ _) back, .inl rfl⟩
  | cons char front induction =>
    rw [List.cons_append, cutAt]
    split_ifs with begins
    · have same := (List.cons_prefix_cons.mp
        (List.isPrefixOf_iff_prefix.mp begins)).1
      exact ⟨_, rfl, .inr ⟨front, by rw [same]; rfl⟩⟩
    · rcases induction with ⟨found, later, place⟩
      rw [later]
      refine ⟨_, rfl, ?_⟩
      rcases place with whole | ⟨rest, before⟩
      · exact .inl (congrArg (char :: ·) whole)
      · exact .inr ⟨rest, congrArg (char :: ·) before⟩

theorem cutAt_eq_some {found : List Char × List Char} (cut : cutAt marker chars = some found) :
    chars = found.1 ++ marker ++ found.2 := by
  induction chars generalizing found with
  | nil => cases cut
  | cons char rest induction =>
    rw [cutAt] at cut
    split_ifs at cut with begins
    · cases cut
      rcases List.isPrefixOf_iff_prefix.mp begins with ⟨back, same⟩
      rw [← same, List.nil_append, List.drop_left]
    · rcases Option.map_eq_some_iff.mp cut with ⟨later, found, rfl⟩
      rw [induction found]
      rfl

section Newlines

open JsonLines

theorem universalNewlines_cons {char : Char} (noReturn : char ≠ '\r') (rest : List Char) :
    universalNewlines (char :: rest) = char :: universalNewlines rest :=
  universalNewlines.eq_3 _ _ (fun _ same => absurd same noReturn) noReturn

theorem universalNewlines_return {rest : List Char} (single : ∀ behind, rest ≠ '\n' :: behind) :
    universalNewlines ('\r' :: rest) = '\n' :: universalNewlines rest :=
  universalNewlines.eq_2 _ single

theorem notMem_universalNewlines (chars : List Char) : '\r' ∉ universalNewlines chars := by
  fun_induction universalNewlines chars with
  | case1 rest induction =>
    exact List.not_mem_cons_of_ne_of_not_mem nofun induction
  | case2 rest _ induction =>
    exact List.not_mem_cons_of_ne_of_not_mem nofun induction
  | case3 char rest _ differs induction =>
    exact List.not_mem_cons_of_ne_of_not_mem (Ne.symm differs) induction
  | case4 => exact List.not_mem_nil

theorem universalNewlines_append {front : List Char} (noReturn : '\r' ∉ front) (rest : List Char) :
    universalNewlines (front ++ rest) = front ++ universalNewlines rest := by
  induction front with
  | nil => rfl
  | cons first others induction =>
    rw [List.cons_append, universalNewlines_cons (List.ne_of_not_mem_cons noReturn).symm,
      induction (List.not_mem_of_not_mem_cons noReturn)]
    rfl

theorem universalNewlines_append_newline (chars rest : List Char) : ∃ front,
      universalNewlines (chars ++ '\n' :: rest) = front ++ '\n' :: universalNewlines rest ∧
        firstLine front = firstLine chars ∧ ink front = ink chars := by
  fun_induction universalNewlines chars with
  | case1 others induction =>
    rcases induction with ⟨front, uniform, -, sameInk⟩
    refine ⟨'\n' :: front, ?_, rfl, sameInk⟩
    exact congrArg ('\n' :: ·) uniform
  | case2 others single induction =>
    cases others with
    | nil => exact ⟨[], rfl, rfl, rfl⟩
    | cons next behind =>
      rcases induction with ⟨front, uniform, -, sameInk⟩
      refine ⟨'\n' :: front, ?_, rfl, sameInk⟩
      rw [List.cons_append, universalNewlines_return, uniform]
      · rfl
      · intro later same
        exact single behind (by rw [(List.cons.inj same).1])
  | case3 char others _ noReturn induction =>
    rcases induction with ⟨front, uniform, sameLine, sameInk⟩
    refine ⟨char :: front, ?_, ?_, ?_⟩
    · rw [List.cons_append, universalNewlines_cons noReturn, uniform]
      rfl
    · cases isBreak : isLineBreak char with
      | true =>
        rw [firstLine_cons_break isBreak, firstLine_cons_break isBreak]
      | false =>
        rw [firstLine_cons isBreak, firstLine_cons isBreak, sameLine]
    · rw [ink, ink, List.filter_cons, List.filter_cons, ← ink, ← ink, sameInk]
  | case4 => exact ⟨[], rfl, rfl, rfl⟩

end Newlines

end TurningGood.Foundation.Text
