import TurningGood.Channels.WeixinEvents
import TurningGood.Foundation.GreedySplits
import TurningGood.Foundation.Utf8

/-!
# Chunks of a Weixin message

A message is sent in chunks of a bounded number of bytes.  Characters are
taken one by one, a chunk is closed when the next character does not fit any
more, and no character is cut.
-/

namespace TurningGood.Channels

open TurningGood.Foundation

variable {text : CodePoints} {maxBytes : Nat} {character : CodePoint}
  {chunks : List CodePoints}

/-- What `split_utf8_chunks` raises. -/
inductive ChunkError where
  | valueError (message : String)
  /-- a lone surrogate cannot be encoded -/
  | unicodeEncodeError
  deriving DecidableEq, Repr

/-- The length of `character.encode("utf-8")`. -/
def encodedSize? (character : CodePoint) : Option Nat := (Utf8.encode? [character]).map List.length

/-- The loop of `split_utf8_chunks`. -/
def splitLoop (maxBytes : Nat) : CodePoints → List CodePoints → CodePoints → Nat →
      Except ChunkError (List CodePoints)
  | [], chunks, current, _ =>
    .ok (if current ≠ [] then chunks ++ [current] else chunks)
  | character :: text, chunks, current, currentBytes =>
    match encodedSize? character with
    | none => .error .unicodeEncodeError
    | some size =>
      if maxBytes < size then
        .error (.valueError "max_bytes 小于单个 UTF-8 字符")
      else if current ≠ [] ∧ maxBytes < currentBytes + size then
        splitLoop maxBytes text (chunks ++ [current]) [character] size
      else
        splitLoop maxBytes text chunks (current ++ [character]) (currentBytes + size)

/-- `split_utf8_chunks`, for a text of any code points. -/
def splitCodePoints (text : CodePoints) (maxBytes : Int) :
    Except ChunkError (List CodePoints) :=
  if maxBytes ≤ 0 then
    .error (.valueError "max_bytes 必须大于 0")
  else if text = [] then
    .ok []
  else
    splitLoop maxBytes.toNat text [] [] 0

/-- The bytes that a character takes. -/
def characterBytes (character : CodePoint) : Nat := (encodedSize? character).getD 0

theorem pieceWeight_textOf (chars : List Char) :
    pieceWeight characterBytes (textOf chars) = (Utf8.encodeChars chars).length := by
  induction chars with
  | nil => rfl
  | cons char rest induction =>
    change pieceWeight characterBytes (.scalar char :: textOf rest) = _
    rw [pieceWeight_cons, induction]
    change _ = (Utf8.encodeChars ([char] ++ rest)).length
    rw [Utf8.encodeChars_append, List.length_append]
    rfl

theorem exists_encode? (encodable : ∀ character ∈ text, encodedSize? character ≠ none) :
    ∃ bytes, Utf8.encode? text = some bytes ∧
      bytes.length = pieceWeight characterBytes text := by
  have scalars : ∃ chars, textOf chars = text := by
    induction text with
    | nil => exact ⟨[], rfl⟩
    | cons character rest induction =>
      rcases induction fun other member =>
        encodable other (List.mem_cons_of_mem _ member) with ⟨chars, same⟩
      cases character with
      | surrogate offset =>
        exact absurd rfl (encodable (.surrogate offset) List.mem_cons_self)
      | scalar char =>
        refine ⟨char :: chars, ?_⟩
        rw [← same]
        rfl
  rcases scalars with ⟨chars, rfl⟩
  refine ⟨Utf8.encodeChars chars, ?_, (pieceWeight_textOf chars).symm⟩
  rw [Utf8.encode?, Utf8.scalars?_textOf]
  rfl

/-! ## The loop -/

/-- A character that `split_utf8_chunks` refuses. -/
def Refused (maxBytes : Nat) (character : CodePoint) : Prop :=
  ∀ size, encodedSize? character = some size → maxBytes < size

theorem not_refused_iff : ¬Refused maxBytes character ↔
      encodedSize? character = some (characterBytes character) ∧
        characterBytes character ≤ maxBytes := by
  unfold Refused characterBytes
  cases encodedSize? character <;> simp

/-- What the loop leads to, with the text that it has seen and the rest. -/
def Splits (maxBytes : Nat) (seen text : CodePoints) : Except ChunkError (List CodePoints) → Prop
  | .ok chunks =>
    GreedySplit characterBytes maxBytes (seen ++ text) chunks ∧
      ∀ character ∈ text, ¬Refused maxBytes character
  | .error _ => ∃ character ∈ text, Refused maxBytes character

theorem Splits.taken {seen : CodePoints}
    {outcome : Except ChunkError (List CodePoints)}
    (taken : ¬Refused maxBytes character)
    (later : Splits maxBytes (seen ++ [character]) text outcome) :
    Splits maxBytes seen (character :: text) outcome := by
  cases outcome with
  | ok chunks =>
    rcases later with ⟨split, others⟩
    rw [List.append_assoc] at split
    exact ⟨split, List.forall_mem_cons.mpr ⟨taken, others⟩⟩
  | error failure =>
    rcases later with ⟨other, member, refused⟩
    exact ⟨other, List.mem_cons_of_mem _ member, refused⟩

theorem splitLoop_refused (refused : Refused maxBytes character)
    (text current : CodePoints) (chunks : List CodePoints)
    (currentBytes : Nat) :
    ∃ failure, splitLoop maxBytes (character :: text) chunks current currentBytes =
        .error failure := by
  cases measured : encodedSize? character with
  | none => exact ⟨_, by rw [splitLoop, measured]⟩
  | some size =>
    have large := refused size measured
    exact ⟨_, by simp only [splitLoop, measured, if_pos large]; rfl⟩

theorem splitLoop_taken (taken : ¬Refused maxBytes character)
    (text : CodePoints) {current : CodePoints} (begun : current ≠ [])
    (chunks : List CodePoints) :
    splitLoop maxBytes (character :: text) chunks current (pieceWeight characterBytes current) =
      if maxBytes <
          pieceWeight characterBytes current + characterBytes character then
        splitLoop maxBytes text (chunks ++ [current]) [character]
          (pieceWeight characterBytes [character])
      else
        splitLoop maxBytes text chunks (current ++ [character])
          (pieceWeight characterBytes (current ++ [character])) := by
  rcases not_refused_iff.mp taken with ⟨measured, fits⟩
  simp only [splitLoop, measured, if_neg (Nat.not_lt.mpr fits), begun, ne_eq,
    not_false_eq_true, true_and, pieceWeight_append, pieceWeight_cons,
    pieceWeight_nil, Nat.add_zero]

theorem splitLoop_spec {seen current : CodePoints}
    (split : GreedySplit characterBytes maxBytes seen (chunks ++ [current])) :
    Splits maxBytes seen text (splitLoop maxBytes text chunks current
        (pieceWeight characterBytes current)) := by
  induction text generalizing seen current chunks with
  | nil =>
    have begun : current ≠ [] := split.nonempty current (by simp)
    rw [splitLoop, if_pos begun]
    exact ⟨by rwa [List.append_nil], by simp⟩
  | cons character rest induction =>
    have begun : current ≠ [] := split.nonempty current (by simp)
    by_cases refused : Refused maxBytes character
    · rcases splitLoop_refused refused rest current chunks _ with ⟨failure, failed⟩
      rw [failed]
      exact ⟨character, by simp, refused⟩
    · have fits := (not_refused_iff.mp refused).2
      rw [splitLoop_taken refused rest begun chunks]
      split_ifs with full
      · exact Splits.taken refused (induction (split.begin full fits))
      · exact Splits.taken refused (induction (split.extend (Nat.not_lt.mp full)))

/-! ## Chunks -/

theorem splitCodePoints_splits {maxBytes : Int} (positive : 0 < maxBytes) :
    Splits maxBytes.toNat [] text (splitCodePoints text maxBytes) := by
  unfold splitCodePoints
  rw [if_neg (Int.not_le.mpr positive)]
  cases text with
  | nil => exact ⟨.nil, by simp⟩
  | cons character rest =>
    rw [if_neg (List.cons_ne_nil character rest)]
    by_cases refused : Refused maxBytes.toNat character
    · rcases splitLoop_refused refused rest [] [] 0 with ⟨failure, failed⟩
      rw [failed]
      exact ⟨character, by simp, refused⟩
    · rcases not_refused_iff.mp refused with ⟨measured, fits⟩
      have first : splitLoop maxBytes.toNat (character :: rest) [] [] 0 =
          splitLoop maxBytes.toNat rest [] [character]
            (pieceWeight characterBytes [character]) := by
        simp [splitLoop, measured, Nat.not_lt.mpr fits]
      rw [first]
      exact Splits.taken refused (splitLoop_spec (.singleton fits))

theorem Splits.encode? (splits : Splits maxBytes [] text (.ok chunks))
    {piece : CodePoints} (part : ∀ character ∈ piece, character ∈ text) :
    ∃ bytes, Utf8.encode? piece = some bytes ∧
      bytes.length = pieceWeight characterBytes piece := by
  apply exists_encode?
  intro character member none
  have measured := (not_refused_iff.mp
    (splits.2 character (part character member))).1
  rw [none] at measured
  cases measured

theorem Splits.mem (splits : Splits maxBytes [] text (.ok chunks))
    {chunk : CodePoints} (member : chunk ∈ chunks)
    (inside : character ∈ chunk) : character ∈ text := by
  have whole : chunks.flatten = text := splits.1.whole
  rw [← whole]
  exact List.mem_flatten.mpr ⟨chunk, member, inside⟩

/-- A chunk has no room for the first character of the next one. -/
def CannotTake (maxBytes : Int) (chunk next : CodePoints) : Prop :=
  ∃ first, next.head? = some first ∧
    ∃ bytes, Utf8.encode? (chunk ++ [first]) = some bytes ∧
      maxBytes < bytes.length

theorem Splits.cannotTake {maxBytes : Int} (positive : 0 < maxBytes)
    (splits : Splits maxBytes.toNat [] text (.ok chunks)) :
    chunks.IsChain (CannotTake maxBytes) := by
  apply splits.1.filled.imp_of_mem_imp
  intro chunk next member nextMember full
  cases begins : next with
  | nil => exact absurd begins (splits.1.nonempty next nextMember)
  | cons first rest =>
    have part : ∀ character ∈ chunk ++ [first], character ∈ text := by
      intro character inside
      rcases List.mem_append.mp inside with within | last
      · exact splits.mem member within
      · apply splits.mem nextMember
        rw [begins, List.mem_singleton.mp last]
        exact List.mem_cons_self
    rcases splits.encode? part with ⟨bytes, encoded, size⟩
    refine ⟨first, rfl, bytes, encoded, ?_⟩
    have large := full first (by rw [begins]; rfl)
    rw [pieceWeight_append, pieceWeight_cons, pieceWeight_nil] at size
    omega

theorem refused_iff {maxBytes : Int} (positive : 0 < maxBytes) :
    Refused maxBytes.toNat character ↔ Utf8.encode? [character] = none ∨
        ∃ bytes, Utf8.encode? [character] = some bytes ∧
          maxBytes < bytes.length := by
  unfold Refused encodedSize?
  cases Utf8.encode? [character] with
  | none => simp
  | some bytes =>
    simp only [Option.map_some, Option.some.injEq, forall_eq',
      reduceCtorEq, false_or, exists_eq_left']
    omega

/--
Chunks are the text in its order, within the bound, and so few as no split at
characters can be fewer.  The function raises if some character is longer than
the bound, or has no encoding.
-/
theorem splitCodePoints_minimal (text : CodePoints) (maxBytes : Int) (positive : 0 < maxBytes) :
    (∀ chunks, splitCodePoints text maxBytes = .ok chunks → chunks.flatten = text ∧
      (∀ chunk ∈ chunks, chunk ≠ [] ∧ ∃ bytes, Utf8.encode? chunk = some bytes ∧
          bytes.length ≤ maxBytes) ∧
      chunks.IsChain (CannotTake maxBytes) ∧
      ∀ others : List CodePoints, others.flatten = text →
        (∀ other ∈ others, ∀ bytes, Utf8.encode? other = some bytes → bytes.length ≤ maxBytes) →
        chunks.length ≤ others.length) ∧
    ((∃ failure, splitCodePoints text maxBytes = .error failure) ↔
      ∃ character ∈ text, Utf8.encode? [character] = none ∨
          ∃ bytes, Utf8.encode? [character] = some bytes ∧
            maxBytes < bytes.length) := by
  have splits := @splitCodePoints_splits text _ positive
  constructor
  · intro chunks returned
    rw [returned] at splits
    refine ⟨splits.1.whole, ?_, splits.cannotTake positive, ?_⟩
    · intro chunk member
      rcases splits.encode? fun _ inside => splits.mem member inside with ⟨bytes, encoded, size⟩
      have within := splits.1.within chunk member
      exact ⟨splits.1.nonempty chunk member, bytes, encoded, by omega⟩
    · intro others whole within
      apply splits.1.length_le _ whole
      intro other member
      have part : ∀ character ∈ other, character ∈ text := by
        intro character inside
        rw [← whole]
        exact List.mem_flatten.mpr ⟨other, member, inside⟩
      rcases splits.encode? part with ⟨bytes, encoded, size⟩
      have short := within other member bytes encoded
      omega
  · cases outcome : splitCodePoints text maxBytes with
    | ok chunks =>
      rw [outcome] at splits
      constructor
      · rintro ⟨failure, raised⟩
        cases raised
      · rintro ⟨character, member, raises⟩
        exact absurd (refused_iff positive |>.mpr raises) (splits.2 character member)
    | error failure =>
      rw [outcome] at splits
      rcases splits with ⟨character, member, refused⟩
      constructor
      · intro
        exact ⟨character, member, (refused_iff positive).mp refused⟩
      · intro
        exact ⟨failure, rfl⟩

/-- Characters of one to four bytes, in chunks of at most five. -/
theorem splitCodePoints_minimal_five : splitCodePoints (textOf ['é', '世', 'a', '🙂', 'b']) 5 =
        .ok [textOf ['é', '世'], textOf ['a', '🙂'], textOf ['b']] ∧
      ∀ others : List CodePoints, others.flatten = textOf ['é', '世', 'a', '🙂', 'b'] →
        (∀ other ∈ others, ∀ bytes, Utf8.encode? other = some bytes → bytes.length ≤ (5 : Int)) →
        3 ≤ others.length := by
  have computed :
      splitCodePoints (textOf ['é', '世', 'a', '🙂', 'b']) 5 =
        .ok [textOf ['é', '世'], textOf ['a', '🙂'], textOf ['b']] := rfl
  have minimal :=
    splitCodePoints_minimal (textOf ['é', '世', 'a', '🙂', 'b']) 5
      (by decide)
  exact ⟨computed, (minimal.1 _ computed).2.2.2⟩

/-- A lone surrogate raises, though no character is longer than the bound. -/
theorem splitCodePoints_surrogate : (∃ failure, splitCodePoints [.surrogate 0] 4 = .error failure) ∧
      ¬∃ character ∈ [CodePoint.surrogate 0],
        ∃ bytes, Utf8.encode? [character] = some bytes ∧ (4 : Int) < bytes.length := by
  constructor
  · exact ⟨.unicodeEncodeError, rfl⟩
  · rintro ⟨character, member, bytes, encoded, -⟩
    rw [List.mem_singleton.mp member] at encoded
    cases encoded

end TurningGood.Channels
