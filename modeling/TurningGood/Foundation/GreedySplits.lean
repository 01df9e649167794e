import Mathlib.Algebra.GroupWithZero.Nat
import Mathlib.Data.List.Chain

/-!
# Splitting a list into pieces of bounded weight

The items of a list are put into pieces, in their order, and every piece is
filled before the next one is begun.  Such a split has no more pieces than any
other split of the list into pieces that keep the bound.
-/

namespace TurningGood.Foundation

variable {Item : Type*}

variable {limit : Nat}

/-- The weight of a piece is the sum of what its items weigh. -/
def pieceWeight (weight : Item → Nat) (piece : List Item) : Nat := (piece.map weight).sum

@[simp]
theorem pieceWeight_nil (weight : Item → Nat) : pieceWeight weight [] = 0 := rfl

@[simp]
theorem pieceWeight_cons (weight : Item → Nat) (item : Item) (piece : List Item) :
    pieceWeight weight (item :: piece) =
      weight item + pieceWeight weight piece := by
  simp [pieceWeight]

@[simp]
theorem pieceWeight_append (weight : Item → Nat) (front back : List Item) :
    pieceWeight weight (front ++ back) =
      pieceWeight weight front + pieceWeight weight back := by
  simp [pieceWeight]

/-- The piece has no room for the first item of the next one. -/
def NoRoom (weight : Item → Nat) (limit : Nat) (piece next : List Item) : Prop :=
  ∀ item ∈ next.head?, limit < pieceWeight weight piece + weight item

/-- A split into nonempty pieces within the bound, each of them filled. -/
structure GreedySplit
    (weight : Item → Nat)
    (limit : Nat)
    (items : List Item)
    (pieces : List (List Item)) : Prop where
  whole : pieces.flatten = items
  nonempty : ∀ piece ∈ pieces, piece ≠ []
  within : ∀ piece ∈ pieces, pieceWeight weight piece ≤ limit
  filled : pieces.IsChain (NoRoom weight limit)

namespace GreedySplit

variable {weight : Item → Nat} {limit : Nat} {items : List Item}
  {pieces : List (List Item)} {piece : List Item} {item : Item}

theorem nil : GreedySplit weight limit [] [] := by
  constructor <;> simp

theorem singleton (fits : weight item ≤ limit) :
    GreedySplit weight limit [item] [[item]] := by
  constructor <;> simp [fits]

theorem extend (split : GreedySplit weight limit items (pieces ++ [piece]))
    (room : pieceWeight weight piece + weight item ≤ limit) :
    GreedySplit weight limit (items ++ [item]) (pieces ++ [piece ++ [item]]) := by
  have begun : piece ≠ [] := split.nonempty piece (by simp)
  constructor
  · rw [← split.whole]
    simp
  · intro other member
    rcases List.mem_append.mp member with earlier | last
    · exact split.nonempty other (List.mem_append_left _ earlier)
    · rw [List.mem_singleton.mp last]
      simp
  · intro other member
    rcases List.mem_append.mp member with earlier | last
    · exact split.within other (List.mem_append_left _ earlier)
    · rw [List.mem_singleton.mp last]
      simpa using room
  · rcases List.isChain_append.mp split.filled with ⟨before, -, between⟩
    apply List.isChain_append.mpr
    refine ⟨before, .singleton _, ?_⟩
    intro other last next first
    cases first
    -- what the piece begins with is as before
    have same : (piece ++ [item]).head? = piece.head? :=
      List.head?_append_of_ne_nil piece begun
    intro begins member
    rw [same] at member
    exact between other last piece rfl begins member

theorem begin (split : GreedySplit weight limit items (pieces ++ [piece]))
    (full : limit < pieceWeight weight piece + weight item)
    (fits : weight item ≤ limit) :
    GreedySplit weight limit (items ++ [item]) (pieces ++ [piece] ++ [[item]]) := by
  constructor
  · rw [← split.whole]
    simp
  · intro other member
    rcases List.mem_append.mp member with earlier | last
    · exact split.nonempty other earlier
    · rw [List.mem_singleton.mp last]
      simp
  · intro other member
    rcases List.mem_append.mp member with earlier | last
    · exact split.within other earlier
    · rw [List.mem_singleton.mp last]
      simpa using fits
  · apply List.isChain_append.mpr
    refine ⟨split.filled, .singleton _, ?_⟩
    intro other last next first
    rw [List.getLast?_concat] at last
    cases last
    cases first
    intro begins member
    cases member
    exact full

end GreedySplit

variable {weight : Item → Nat}

theorem noRoom_flatten {piece : List Item} {rest : List (List Item)}
    (nonempty : ∀ other ∈ piece :: rest, other ≠ [])
    (filled : (piece :: rest).IsChain (NoRoom weight limit)) :
    NoRoom weight limit piece rest.flatten := by
  cases rest with
  | nil => exact fun _ none => nomatch none
  | cons next later =>
    have begun : next ≠ [] := nonempty next (by simp)
    intro item first
    rw [List.flatten_cons, List.head?_append_of_ne_nil next begun] at first
    exact (List.isChain_cons_cons.mp filled).1 item first

theorem length_le_of_filled {left : List Item}
    {pieces others : List (List Item)}
    (nonempty : ∀ piece ∈ pieces, piece ≠ [])
    (filled : pieces.IsChain (NoRoom weight limit))
    (within : ∀ other ∈ others, pieceWeight weight other ≤ limit)
    (same : others.flatten = left ++ pieces.flatten) :
    pieces.length ≤ others.length := by
  induction others generalizing left pieces with
  | nil =>
    have none : pieces.flatten = [] :=
      (List.append_eq_nil_iff.mp same.symm).2
    cases pieces with
    | nil => exact Nat.le_refl 0
    | cons piece rest =>
      rw [List.flatten_cons, List.append_eq_nil_iff] at none
      exact absurd none.1 (nonempty piece (by simp))
  | cons other others induction =>
    cases pieces with
    | nil => exact Nat.zero_le _
    | cons piece rest =>
      rw [List.flatten_cons, List.flatten_cons, ← List.append_assoc] at same
      have reached : ∃ remaining,
          others.flatten = remaining ++ rest.flatten := by
        rcases List.append_eq_append_iff.mp same with ⟨passed, -, ahead⟩ | ⟨passed, far, ahead⟩
        · exact ⟨passed, ahead⟩
        · cases passed with
          | nil => exact ⟨[], ahead.symm⟩
          | cons first after => ?_
          -- the piece would contain a filled one and what follows it
          have follows : first ∈ rest.flatten.head? := by
            rw [ahead]
            rfl
          have within := within other (by simp)
          have full := noRoom_flatten nonempty filled first follows
          rw [far] at within
          simp only [pieceWeight_append, pieceWeight_cons] at within
          omega
      rcases reached with ⟨remaining, same⟩
      apply Nat.succ_le_succ
      apply induction _ _ _ same
      · intro next member
        exact nonempty next (List.mem_cons_of_mem _ member)
      · exact filled.tail
      · intro next member
        exact within next (List.mem_cons_of_mem _ member)

theorem GreedySplit.length_le {items : List Item}
    {pieces others : List (List Item)}
    (split : GreedySplit weight limit items pieces)
    (within : ∀ other ∈ others, pieceWeight weight other ≤ limit)
    (whole : others.flatten = items) : pieces.length ≤ others.length := by
  apply @length_le_of_filled _ _ _ [] _ _ split.nonempty split.filled within
  rw [whole, split.whole]
  rfl

end TurningGood.Foundation
