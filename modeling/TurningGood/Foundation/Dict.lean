import Mathlib.Data.List.Nodup
import Mathlib.Data.List.Lattice

/-!
# Insertion-ordered dictionaries

A dictionary keeps its entries in the order in which their keys were first
inserted.  Assigning to a key that is present replaces the value where it
stands; a new key goes to the end.  The entries carry the proof that no key
occurs twice, so that looking a key up and listing the entries agree.
-/

namespace TurningGood.Foundation

universe u v w

/-- A finite map whose entries stay in insertion order. -/
@[ext]
structure Dict (Key : Type u) (Value : Type v) where
  entries : List (Key × Value)
  nodupKeys : (entries.map Prod.fst).Nodup

namespace Dict

variable {Key : Type u} {Value : Type v}

instance [DecidableEq Key] [DecidableEq Value] :
    DecidableEq (Dict Key Value) :=
  fun left right =>
    decidable_of_iff (left.entries = right.entries) Dict.ext_iff.symm

/-- The dictionary without entries. -/
def empty : Dict Key Value where
  entries := []
  nodupKeys := List.nodup_nil

/-- The keys in insertion order. -/
def keys (dict : Dict Key Value) : List Key := dict.entries.map Prod.fst

/-- The values in the insertion order of their keys. -/
def values (dict : Dict Key Value) : List Value := dict.entries.map Prod.snd

section Lookup

variable [DecidableEq Key]

variable {key : Key}

/-- Find the value of a key in a list of entries. -/
def lookupEntries (key : Key) : List (Key × Value) → Option Value
  | [] => none
  | entry :: rest =>
    if entry.1 = key then some entry.2 else lookupEntries key rest

/-- The value stored under a key. -/
def get? (dict : Dict Key Value) (key : Key) : Option Value := lookupEntries key dict.entries

/-- Whether a key is present. -/
def contains (dict : Dict Key Value) (key : Key) : Bool := (dict.get? key).isSome

theorem lookupEntries_eq_none_iff (key : Key) (entries : List (Key × Value)) :
    lookupEntries key entries = none ↔
      key ∉ entries.map Prod.fst := by
  induction entries with
  | nil => simp [lookupEntries]
  | cons entry rest induction =>
    by_cases same : entry.1 = key
    · simp [lookupEntries, same]
    · simp [lookupEntries, same, induction, Ne.symm same]

theorem lookupEntries_mem {value : Value} {entries : List (Key × Value)}
    (found : lookupEntries key entries = some value) :
    (key, value) ∈ entries := by
  induction entries with
  | nil => simp [lookupEntries] at found
  | cons entry rest induction =>
    by_cases same : entry.1 = key
    · simp only [lookupEntries, same, if_true, Option.some.injEq] at found
      subst key
      subst value
      exact List.mem_cons_self
    · simp only [lookupEntries, same, if_false] at found
      exact List.mem_cons_of_mem entry (induction found)

theorem lookupEntries_of_mem {value : Value} {entries : List (Key × Value)}
    (nodup : (entries.map Prod.fst).Nodup) (member : (key, value) ∈ entries) :
    lookupEntries key entries = some value := by
  induction entries with
  | nil => simp at member
  | cons entry rest induction =>
    simp only [List.map_cons, List.nodup_cons] at nodup
    rcases List.mem_cons.mp member with head | tail
    · subst head
      simp [lookupEntries]
    · have other : entry.1 ≠ key := by
        intro same
        exact nodup.1 (same ▸ List.mem_map_of_mem (f := Prod.fst) tail)
      simpa [lookupEntries, other] using induction nodup.2 tail

theorem mem_entries_iff (dict : Dict Key Value) (key : Key) (value : Value) :
    (key, value) ∈ dict.entries ↔ dict.get? key = some value :=
  ⟨lookupEntries_of_mem dict.nodupKeys, lookupEntries_mem⟩

theorem get?_eq_none_iff (dict : Dict Key Value) (key : Key) :
    dict.get? key = none ↔ key ∉ dict.keys :=
  lookupEntries_eq_none_iff key dict.entries

theorem mem_keys_iff (dict : Dict Key Value) (key : Key) :
    key ∈ dict.keys ↔ ∃ value, dict.get? key = some value := by
  rw [← not_iff_not, ← get?_eq_none_iff, not_exists, Option.eq_none_iff_forall_ne_some]

theorem mem_values_iff (dict : Dict Key Value) (value : Value) :
    value ∈ dict.values ↔ ∃ key, dict.get? key = some value := by
  simp only [values, List.mem_map, Prod.exists, exists_eq_right, mem_entries_iff]

@[simp]
theorem get?_empty (key : Key) : (empty : Dict Key Value).get? key = none := rfl

@[simp]
theorem contains_iff (dict : Dict Key Value) (key : Key) :
    dict.contains key = true ↔ ∃ value, dict.get? key = some value := by
  simp [contains, Option.isSome_iff_exists]

theorem contains_congr {left right : Dict Key Value} (same : left.get? key = right.get? key) :
    left.contains key = right.contains key := by
  simp only [contains, same]

theorem forall₂_values
    {Other : Type w} {related : Value → Other → Prop}
    {left : Dict Key Value} {right : Dict Key Other}
    (same : left.keys = right.keys)
    (each : ∀ key value other, left.get? key = some value → right.get? key = some other →
      related value other) :
    List.Forall₂ related left.values right.values := by
  have lengths : left.entries.length = right.entries.length := by
    simpa only [keys, List.length_map] using congrArg List.length same
  rw [List.forall₂_iff_get]
  refine ⟨by simpa only [values, List.length_map] using lengths, ?_⟩
  intro index inLeft inRight
  simp only [values, List.length_map] at inLeft inRight
  have aligned : left.entries[index].1 = right.entries[index].1 := by
    have found := congrArg (fun list => list[index]?) same
    simpa [keys, inLeft, inRight] using found
  simp only [values, List.get_eq_getElem, List.getElem_map]
  apply each left.entries[index].1
  · exact (left.mem_entries_iff _ _).mp (List.getElem_mem inLeft)
  · rw [aligned]
    exact (right.mem_entries_iff _ _).mp (List.getElem_mem inRight)

end Lookup

/-! ## Assignment -/

section Insert

variable [DecidableEq Key]

variable {key : Key}

/-- Replace the value of a present key in place, or append a new key. -/
def insertEntries (key : Key) (value : Value) : List (Key × Value) → List (Key × Value)
  | [] => [(key, value)]
  | entry :: rest =>
    if entry.1 = key then
      (key, value) :: rest
    else
      entry :: insertEntries key value rest

theorem insertEntries_keys (key : Key) (value : Value) (entries : List (Key × Value)) :
    (insertEntries key value entries).map Prod.fst =
      if key ∈ entries.map Prod.fst then
        entries.map Prod.fst
      else
        entries.map Prod.fst ++ [key] := by
  induction entries with
  | nil => simp [insertEntries]
  | cons entry rest induction =>
    by_cases same : entry.1 = key
    · simp [insertEntries, same]
    · simp only [insertEntries, same, if_false, List.map_cons,
        induction, List.mem_cons, Ne.symm same, false_or]
      split_ifs <;> rfl

/-- `dict[key] = value`. -/
def insert (dict : Dict Key Value) (key : Key) (value : Value) : Dict Key Value where
  entries := insertEntries key value dict.entries
  nodupKeys := by
    rw [insertEntries_keys]
    split_ifs with present
    · exact dict.nodupKeys
    · rw [List.nodup_append]
      refine ⟨dict.nodupKeys, List.nodup_singleton key, ?_⟩
      intro left leftMember right rightMember
      rw [List.mem_singleton] at rightMember
      subst right
      exact fun equal => present (equal ▸ leftMember)

theorem lookupEntries_insertEntries (key query : Key) (value : Value)
    (entries : List (Key × Value)) :
    lookupEntries query (insertEntries key value entries) =
      if query = key then some value
      else lookupEntries query entries := by
  induction entries with
  | nil =>
    simp only [insertEntries, lookupEntries, eq_comm]
  | cons entry rest induction =>
    by_cases same : entry.1 = key
    · by_cases asked : query = key
      · subst asked
        simp [insertEntries, lookupEntries, same]
      · have other : key ≠ query := Ne.symm asked
        simp [insertEntries, lookupEntries, same, asked, other]
    · simp only [insertEntries, same, if_false, lookupEntries, induction]
      by_cases asked : query = key
      · subst asked
        simp [same]
      · simp [asked]

theorem get?_insert (dict : Dict Key Value) (key query : Key) (value : Value) :
    (dict.insert key value).get? query =
      if query = key then some value else dict.get? query :=
  lookupEntries_insertEntries key query value dict.entries

@[simp]
theorem get?_insert_self (dict : Dict Key Value) (key : Key) (value : Value) :
    (dict.insert key value).get? key = some value := by
  simp [get?_insert]

theorem keys_insert_of_mem {dict : Dict Key Value} (present : key ∈ dict.keys)
    (value : Value) : (dict.insert key value).keys = dict.keys := by
  rw [keys, insert, insertEntries_keys]
  exact if_pos present

theorem get?_insert_of_ne (dict : Dict Key Value) {query : Key}
    (value : Value) (other : query ≠ key) :
    (dict.insert key value).get? query = dict.get? query := by
  simp [get?_insert, other]

theorem contains_insert {dict : Dict Key Value} (assigned : Key)
    (value : Value) (present : dict.contains key = true) :
    (dict.insert assigned value).contains key = true := by
  rw [contains, get?_insert]
  split_ifs
  · rfl
  · exact present

/-- `dict.update(other)`: the entries of `other` win. -/
def update (dict other : Dict Key Value) : Dict Key Value := other.entries.foldl
    (fun current entry => current.insert entry.1 entry.2) dict

theorem get?_foldl_insert (entries : List (Key × Value)) (dict : Dict Key Value) (query : Key)
    (nodup : (entries.map Prod.fst).Nodup) :
    (entries.foldl (fun current entry => current.insert entry.1 entry.2) dict).get? query =
      (lookupEntries query entries).or (dict.get? query) := by
  induction entries generalizing dict with
  | nil => rfl
  | cons entry rest induction =>
    simp only [List.map_cons, List.nodup_cons] at nodup
    rw [List.foldl_cons, induction _ nodup.2, get?_insert]
    by_cases same : entry.1 = query
    · have absent : lookupEntries query rest = none :=
        (lookupEntries_eq_none_iff query rest).mpr (same ▸ nodup.1)
      simp [lookupEntries, same, absent]
    · simp [lookupEntries, same, Ne.symm same]

theorem get?_update (dict other : Dict Key Value) (query : Key) :
    (dict.update other).get? query = (other.get? query).or (dict.get? query) :=
  get?_foldl_insert other.entries dict query other.nodupKeys

end Insert

/-! ## Removal -/

/-- Keep the entries that pass a test. -/
def filter (dict : Dict Key Value) (keep : Key → Value → Bool) : Dict Key Value where
  entries := dict.entries.filter fun entry => keep entry.1 entry.2
  nodupKeys := dict.nodupKeys.sublist (List.filter_sublist.map Prod.fst)

/-- Change every value where it stands. -/
def mapValues (dict : Dict Key Value) (change : Value → Value) : Dict Key Value where
  entries := dict.entries.map fun entry => (entry.1, change entry.2)
  nodupKeys := by
    simpa only [List.map_map, Function.comp_def] using dict.nodupKeys

theorem get?_mapValues [DecidableEq Key]
    (dict : Dict Key Value) (change : Value → Value) (key : Key) :
    (dict.mapValues change).get? key = (dict.get? key).map change := by
  have entriesMap : ∀ entries : List (Key × Value),
      lookupEntries key (entries.map fun entry => (entry.1, change entry.2)) =
        (lookupEntries key entries).map change := by
    intro entries
    induction entries with
    | nil => rfl
    | cons entry rest induction =>
      by_cases same : entry.1 = key
      · simp [lookupEntries, same]
      · simp [lookupEntries, same, induction]
  exact entriesMap dict.entries

/-- Change every value where it stands, by its key. -/
def mapEntries (dict : Dict Key Value) (change : Key → Value → Value) : Dict Key Value where
  entries := dict.entries.map fun entry => (entry.1, change entry.1 entry.2)
  nodupKeys := by
    simpa only [List.map_map, Function.comp_def] using dict.nodupKeys

theorem get?_mapEntries [DecidableEq Key]
    (dict : Dict Key Value) (change : Key → Value → Value) (key : Key) :
    (dict.mapEntries change).get? key = (dict.get? key).map (change key) := by
  have entriesMap : ∀ entries : List (Key × Value),
      lookupEntries key (entries.map fun entry => (entry.1, change entry.1 entry.2)) =
        (lookupEntries key entries).map (change key) := by
    intro entries
    induction entries with
    | nil => rfl
    | cons entry rest induction =>
      by_cases same : entry.1 = key
      · subst same
        simp [lookupEntries]
      · simp [lookupEntries, same, induction]
  exact entriesMap dict.entries

section Erase

variable [DecidableEq Key]

/-- `dict.pop(key, None)`. -/
def erase (dict : Dict Key Value) (key : Key) : Dict Key Value :=
  dict.filter fun query _ => query ≠ key

theorem get?_filter (dict : Dict Key Value) (keep : Key → Value → Bool) (key : Key) :
    (dict.filter keep).get? key = (dict.get? key).filter (keep key) := by
  apply Option.ext
  intro value
  rw [← mem_entries_iff, Option.filter_eq_some_iff, ← mem_entries_iff]
  simp [filter]

theorem get?_erase (dict : Dict Key Value) (key query : Key) : (dict.erase key).get? query =
      if query = key then none else dict.get? query := by
  rw [erase, get?_filter]
  by_cases same : query = key
  · simp [same]
  · cases dict.get? query <;> simp [same]

@[simp]
theorem get?_erase_self (dict : Dict Key Value) (key : Key) : (dict.erase key).get? key = none := by
  simp [get?_erase]

theorem get?_erase_of_ne (dict : Dict Key Value) {key query : Key} (other : query ≠ key) :
    (dict.erase key).get? query = dict.get? query := by
  simp [get?_erase, other]

theorem contains_erase_of_ne
    {dict : Dict Key Value} {key query : Key}
    (other : query ≠ key) (present : dict.contains query = true) :
    (dict.erase key).contains query = true := by
  rw [contains_congr (get?_erase_of_ne dict other)]
  exact present

end Erase

end Dict

end TurningGood.Foundation
