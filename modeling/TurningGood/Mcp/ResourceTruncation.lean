import Mathlib.Data.List.Basic

/-!
# Resources cut to a number of tokens

`McpManager` keeps the first and the last tokens of a resource that is too
long, and appends a notice.  The notice counts, too: what it leaves of the
limit is the budget of the two ends.  The last tokens are taken with a negative
slice, which takes everything when there is no budget.

The hook for the results of tools splits in the same way, but looks at the
budget first.
-/

namespace TurningGood.Mcp

variable {Item : Type*}

/-- `items[start:]`, where a negative start counts from the end. -/
def sliceFrom {Item : Type*} (items : List Item) (start : Int) : List Item :=
  if start < 0 then
    items.drop (items.length + start).toNat
  else
    items.drop start.toNat

theorem sliceFrom_neg (items : List Item) {size : Nat} (positive : 0 < size) :
    sliceFrom items (-size) = items.drop (items.length - size) := by
  rw [sliceFrom, if_pos (by omega)]
  congr 1
  omega

/-- The two ends that the splits take, `tokens[:head] + tokens[-tail:]`. -/
def headAndTail {Item : Type*} (tokens : List Item) (budget : Nat) :
    List Item :=
  let headSize := budget / 2
  let tailSize := budget - headSize
  tokens.take headSize ++ sliceFrom tokens (-tailSize)

/-- What is kept are two ends of so many tokens. -/
def KeepsEnds {Item : Type*} (tokens kept : List Item) (budget : Nat) : Prop :=
  ∃ head dropped tail, tokens = head ++ dropped ++ tail ∧
    head.length + tail.length = budget ∧ kept = head ++ tail

theorem headAndTail_keepsEnds {tokens : List Item} {budget : Nat}
    (positive : 0 < budget) (fits : budget ≤ tokens.length) :
    KeepsEnds tokens (headAndTail tokens budget) budget := by
  have tailPositive : 0 < budget - budget / 2 := by omega
  refine ⟨tokens.take (budget / 2), (tokens.drop (budget / 2)).take (tokens.length - budget),
      tokens.drop (tokens.length - (budget - budget / 2)), ?_, ?_, ?_⟩
  · have ends : budget / 2 + (tokens.length - budget) =
        tokens.length - (budget - budget / 2) := by omega
    rw [← List.take_add, ends, List.take_append_drop]
  · rw [List.length_take, List.length_drop]
    omega
  · rw [headAndTail, sliceFrom_neg tokens tailPositive]

theorem headAndTail_zero (tokens : List Item) :
    headAndTail tokens 0 = tokens := rfl

/-! ## Resources -/

/-- `TOKEN_ENCODING`: decoding undoes encoding, and nothing has no tokens. -/
structure Tokenizer (Token : Type*) where
  encode : String → List Token
  decode : List Token → String
  decode_encode : ∀ content, decode (encode content) = content
  encode_empty : encode "" = []

namespace Tokenizer

variable {Token : Type*} (tokenizer : Tokenizer Token)

theorem decode_nil : tokenizer.decode [] = "" := by
  rw [← tokenizer.encode_empty, tokenizer.decode_encode]

end Tokenizer

/-- The notice behind a resource that was cut. -/
def resourceNotice : String := "\n\n[MCP Resource 内容已截断]"

variable {Token : Type*}

/-- `_truncate_resource`. -/
def truncateResource (tokenizer : Tokenizer Token) (content : String) (limit : Nat) : String :=
  let tokens := tokenizer.encode content
  if tokens.length ≤ limit then
    content
  else
    let noticeTokens := tokenizer.encode resourceNotice
    let budget := limit - noticeTokens.length
    tokenizer.decode (headAndTail tokens budget) ++ resourceNotice

/--
What truncation is for: a content within the limit stays, and of another one
two ends are left that have room beside the notice.
-/
def ResourceWithin (tokenizer : Tokenizer Token) (content : String)
    (limit : Nat) (result : String) : Prop :=
  if (tokenizer.encode content).length ≤ limit then
    result = content
  else
    ∃ kept, KeepsEnds (tokenizer.encode content) kept
          (limit - (tokenizer.encode resourceNotice).length) ∧
        result = tokenizer.decode kept ++ resourceNotice

theorem truncateResource_noBudget (tokenizer : Tokenizer Token)
    {content : String} {limit : Nat}
    (long : limit < (tokenizer.encode content).length)
    (small : limit ≤ (tokenizer.encode resourceNotice).length) :
    truncateResource tokenizer content limit = content ++ resourceNotice := by
  have none : limit - (tokenizer.encode resourceNotice).length = 0 :=
    Nat.sub_eq_zero_of_le small
  simp only [truncateResource, if_neg (Nat.not_le.mpr long), none,
    headAndTail_zero, tokenizer.decode_encode]

theorem not_resourceWithin (tokenizer : Tokenizer Token)
    {content : String} {limit : Nat}
    (long : limit < (tokenizer.encode content).length)
    (small : limit ≤ (tokenizer.encode resourceNotice).length) :
    ¬ResourceWithin tokenizer content limit (truncateResource tokenizer content limit) := by
  rw [truncateResource_noBudget tokenizer long small, ResourceWithin, if_neg (Nat.not_le.mpr long)]
  rintro ⟨kept, ⟨head, dropped, tail, -, sizes, rfl⟩, same⟩
  rw [Nat.sub_eq_zero_of_le small] at sizes
  rcases Nat.add_eq_zero_iff.mp sizes with ⟨noHead, noTail⟩
  have empty : content = "" := by
    rw [List.eq_nil_of_length_eq_zero noHead, List.eq_nil_of_length_eq_zero noTail, List.append_nil,
      tokenizer.decode_nil, String.append_left_inj] at same
    exact same
  rw [empty, tokenizer.encode_empty] at long
  exact Nat.not_lt_zero limit long

/--
Truncation keeps the limit exactly if the content is within it or the notice
leaves something of it.
-/
theorem truncateResource_within_iff (tokenizer : Tokenizer Token) (content : String) (limit : Nat) :
    ResourceWithin tokenizer content limit (truncateResource tokenizer content limit) ↔
      (tokenizer.encode content).length ≤ limit ∨
        (tokenizer.encode resourceNotice).length < limit := by
  constructor
  · intro within
    by_contra neither
    rcases not_or.mp neither with ⟨long, small⟩
    exact not_resourceWithin tokenizer (Nat.not_le.mp long) (Nat.not_lt.mp small) within
  · intro admitted
    rw [ResourceWithin, truncateResource]
    split_ifs with short
    · rfl
    · have room := admitted.resolve_left short
      refine ⟨_, headAndTail_keepsEnds ?_ ?_, rfl⟩
      · exact Nat.sub_pos_of_lt room
      · omega

/-- One token for each character. -/
def characterTokens : Tokenizer Char where
  encode := String.toList
  decode := String.ofList
  decode_encode _ := String.ofList_toList
  encode_empty := rfl

/-- A resource of two tokens is returned whole under a limit of one. -/
theorem truncateResource_whole : ¬ResourceWithin characterTokens "ab" 1
      (truncateResource characterTokens "ab" 1) :=
  not_resourceWithin characterTokens (by decide) (by decide)

/-- The strategies of `_truncate_tokens`. -/
inductive TruncationStrategy where
  | tail
  | headTail
  deriving DecidableEq, Repr

/-- What `_truncate_tokens` keeps of a result. -/
def keptTokens {Item : Type*} (tokens : List Item) (budget : Nat) : TruncationStrategy → List Item
  | .tail => if budget ≠ 0 then sliceFrom tokens (-budget) else []
  | .headTail => if budget ≠ 0 then headAndTail tokens budget else []

end TurningGood.Mcp
