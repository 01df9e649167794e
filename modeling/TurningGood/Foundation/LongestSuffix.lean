import Mathlib.Algebra.BigOperators.Group.List.Basic
import Mathlib.Algebra.GroupWithZero.Nat
import Mathlib.Data.List.Infix
import Mathlib.Data.List.Perm.Basic
import Mathlib.Tactic.SplitIfs

/-!
# The longest suffix of a list within a weight limit

Weighted blocks are collected from the end of a list as long as their total
weight stays within a limit.  With natural weights this greedy walk finds the
longest suffix that fits.  The second part splits a list into a sublist and
the items whose keys do not occur in it, and says exactly when these two
parts are the whole list.
-/

namespace TurningGood.Foundation

variable {α κ : Type*}

/-- `kept` is the longest suffix of `blocks` whose weight is in the limit. -/
structure IsLongestSuffix
    (weight : α → Nat) (limit : Nat) (blocks kept : List α) : Prop where
  isSuffix : kept <:+ blocks
  fits : (kept.map weight).sum ≤ limit
  longest : ∀ other, other <:+ blocks → (other.map weight).sum ≤ limit → other.length ≤ kept.length

variable {kept other : List α}

theorem IsLongestSuffix.unique {weight : α → Nat} {limit : Nat}
    {blocks : List α} (first : IsLongestSuffix weight limit blocks kept)
    (second : IsLongestSuffix weight limit blocks other) : kept = other := by
  have shorter := second.longest kept first.isSuffix first.fits
  have longer := first.longest other second.isSuffix second.fits
  have suffix :=
    List.suffix_of_suffix_length_le first.isSuffix second.isSuffix shorter
  exact suffix.eq_of_length (le_antisymm shorter longer)

/-- Take blocks from a reversed list while they fit behind `kept`. -/
def collectBack (weight : α → Nat) (limit : Nat) : List α → List α → List α
  | [], kept => kept
  | block :: earlier, kept =>
    if weight block + (kept.map weight).sum ≤ limit then
      collectBack weight limit earlier (block :: kept)
    else
      kept

theorem cons_suffix_of_longer {earlier : List α} {block : α}
    (suffix : other <:+ earlier ++ block :: kept)
    (longer : kept.length < other.length) : block :: kept <:+ other := by
  refine List.suffix_of_suffix_length_le (List.suffix_append earlier (block :: kept)) suffix ?_
  exact Nat.succ_le_of_lt longer

theorem weight_le_of_suffix (weight : α → Nat) (suffix : kept <:+ other) :
    (kept.map weight).sum ≤ (other.map weight).sum := by
  rcases suffix with ⟨front, rfl⟩
  rw [List.map_append, List.sum_append]
  exact Nat.le_add_left _ _

theorem collectBack_isLongestSuffix {weight : α → Nat} {limit : Nat}
    {reversed : List α} (fits : (kept.map weight).sum ≤ limit) :
    IsLongestSuffix weight limit (reversed.reverse ++ kept)
      (collectBack weight limit reversed kept) := by
  induction reversed generalizing kept with
  | nil =>
    refine ⟨List.suffix_rfl, fits, ?_⟩
    intro other suffix _
    exact suffix.length_le
  | cons block earlier induction =>
    rw [List.reverse_cons, List.append_assoc, List.singleton_append]
    simp only [collectBack]
    split_ifs with room
    · exact induction (by simpa using room)
    · refine ⟨?_, fits, ?_⟩
      · exact (List.suffix_cons block kept).trans (List.suffix_append _ _)
      · intro other suffix otherFits
        by_contra longer
        have contains :=
          cons_suffix_of_longer suffix (not_le.mp longer)
        have heavier := weight_le_of_suffix weight contains
        rw [List.map_cons, List.sum_cons] at heavier
        exact room (heavier.trans otherFits)

variable [DecidableEq κ]

/-- The items of a list that carry a key of `window`. -/
def sharingKeys (key : α → κ) (items window : List α) : List α :=
  items.filter fun item => key item ∈ window.map key

/-- The items of a list that carry no key of `window`. -/
def withoutKeys (key : α → κ) (items window : List α) : List α :=
  items.filter fun item => key item ∉ window.map key

variable {key : α → κ} {items window : List α}

theorem sublist_sharingKeys (sub : window.Sublist items) :
    window.Sublist (sharingKeys key items window) := by
  have all : window.filter (fun item => key item ∈ window.map key) =
      window := by
    rw [List.filter_eq_self]
    intro item member
    exact decide_eq_true (List.mem_map_of_mem member)
  have filtered :=
    sub.filter (fun item => decide (key item ∈ window.map key))
  rw [all] at filtered
  exact filtered

theorem withoutKeys_append_sharingKeys (key : α → κ) (items window : List α) :
    (withoutKeys key items window ++ sharingKeys key items window).Perm
      items := by
  have split := List.filter_append_perm
    (fun item => decide (key item ∈ window.map key)) items
  have swapped := List.perm_append_comm.trans split
  simpa only [withoutKeys, sharingKeys, decide_not] using swapped

theorem withoutKeys_append_perm_iff (sub : window.Sublist items) :
    (withoutKeys key items window ++ window).Perm items ↔
      sharingKeys key items window = window := by
  have whole := withoutKeys_append_sharingKeys key items window
  constructor
  · intro partitioned
    have lengths := partitioned.length_eq.trans whole.length_eq.symm
    rw [List.length_append, List.length_append] at lengths
    exact ((sublist_sharingKeys sub).eq_of_length (by omega)).symm
  · intro exact
    rw [exact] at whole
    exact whole

theorem sharingKeys_eq_of_nodup (distinct : (items.map key).Nodup)
    (sub : window.Sublist items) : sharingKeys key items window = window := by
  have sharedDistinct :
      ((sharingKeys key items window).map key).Nodup :=
    distinct.sublist (List.filter_sublist.map key)
  have within :
      (sharingKeys key items window).map key ⊆ window.map key := by
    intro shared member
    rcases List.mem_map.mp member with ⟨item, kept, rfl⟩
    exact of_decide_eq_true (List.mem_filter.mp kept).2
  have lengths := (List.subperm_of_subset sharedDistinct within).length_le
  rw [List.length_map, List.length_map] at lengths
  exact ((sublist_sharingKeys sub).eq_of_length_le lengths).symm

end TurningGood.Foundation
