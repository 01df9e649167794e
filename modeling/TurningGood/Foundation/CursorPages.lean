import Mathlib.Algebra.Order.Group.Multiset
import Mathlib.Data.List.Sort
import Mathlib.Data.Multiset.Filter
import Mathlib.Tactic.Abel

/-!
# Pages behind a position

The records of a file are shown in pages, those with the largest keys first.
A page begins with the records whose keys are below the key of the last record
of the page before it; records that have this key, too, are not shown any
more.  The file may grow between two pages.

When the file ends, every record of its beginning has been shown once if and
only if no page ended among records of the beginning that have one key.
-/

namespace TurningGood.Foundation

variable {Record Key : Type*} [LinearOrder Key] (key : Record → Key)

variable {limit : Nat}

/-- The first record is shown before the second one. -/
def Newer (left right : Record) : Prop := key right ≤ key left

instance : DecidableRel (Newer key) := fun left right =>
  inferInstanceAs (Decidable (key right ≤ key left))

instance : Std.Total (Newer key) := ⟨fun left right => le_total (key right) (key left)⟩

instance : IsTrans Record (Newer key) := ⟨fun _ _ _ one two => le_trans two one⟩

/-- The records with the largest keys first; equal keys stay in order. -/
def newestFirst (records : List Record) : List Record := records.insertionSort (Newer key)

theorem newestFirst_perm (records : List Record) : (newestFirst key records).Perm records :=
  List.perm_insertionSort _ records

theorem newestFirst_sorted (records : List Record) :
    (newestFirst key records).Pairwise (Newer key) :=
  List.pairwise_insertionSort _ records

theorem filter_newestFirst (records : List Record) (shared : Key) :
    (newestFirst key records).filter (fun record => key record = shared) =
      records.filter fun record => key record = shared := by
  have kept : (records.filter fun record => key record = shared).Sublist
      (newestFirst key records) := by
    apply List.sublist_insertionSort _ List.filter_sublist
    apply List.pairwise_of_forall_mem_list
    intro left one right two
    have first := of_decide_eq_true (List.mem_filter.mp one).2
    have second := of_decide_eq_true (List.mem_filter.mp two).2
    exact le_of_eq (second.trans first.symm)
  have sublist := kept.filter fun record => key record = shared
  rw [List.filter_filter] at sublist
  simp only [Bool.and_self] at sublist
  apply (sublist.eq_of_length _).symm
  exact ((newestFirst_perm key records).filter _).length_eq.symm

/-- A record that is shown behind a position. -/
def isBehind (before : Option Key) (record : Record) : Bool :=
  before.all fun position => key record < position

/-- What the pages behind a position show, if the file does not grow. -/
def visible (before : Option Key) (file : List Record) : List Record :=
  (newestFirst key file).filter (isBehind key before)

/--
The pages of a reader: before each request the next batch has been appended to
the file.  There is no result when there are more pages than batches.
-/
def pagesOf (limit : Nat) : Option Key → List Record → List (List Record) →
      Option (List (List Record))
  | _, _, [] => none
  | before, file, batch :: batches =>
    let shown := visible key before (file ++ batch)
    let items := shown.take limit
    match items.getLast? with
    | none => some [items]
    | some last =>
      if items.length < shown.length then
        (pagesOf limit (some (key last)) (file ++ batch) batches).map (items :: ·)
      else
        some [items]

/--
No page ends among the records of the beginning that have one key: those that
share the key of the last record on a page are on the page.
-/
def TiesKept (limit : Nat) (beginning : List Record) :
    Option Key → List Record → List (List Record) → Prop
  | _, _, [] => True
  | before, file, batch :: batches =>
    let shown := visible key before (file ++ batch)
    let items := shown.take limit
    ∀ last ∈ items.getLast?, items.length < shown.length →
      (beginning.filter fun record => key record = key last).length ≤
          (items.filter fun record => key record = key last).length ∧
        TiesKept limit beginning (some (key last)) (file ++ batch) batches

theorem visible_perm (before : Option Key) (file : List Record) :
    (visible key before file).Perm (file.filter (isBehind key before)) :=
  (newestFirst_perm key file).filter _

theorem visible_sorted (before : Option Key) (file : List Record) :
    (visible key before file).Pairwise (Newer key) :=
  (newestFirst_sorted key file).sublist List.filter_sublist

/-! ## The end of a page -/

section PageEnd

variable {key}

variable {record : Record}

theorem isBehind_some {position : Key} :
    isBehind key (some position) record = true ↔ key record < position := by
  simp [isBehind]

variable {before : Option Key} {file : List Record} {limit : Nat}
  {last : Record}

theorem isBehind_of_last (shown : isBehind key before last = true)
    (behind : isBehind key (some (key last)) record = true) :
    isBehind key before record = true := by
  cases before with
  | none => rfl
  | some position =>
    exact isBehind_some.mpr (lt_trans (isBehind_some.mp behind) (isBehind_some.mp shown))

variable (ends : last ∈ ((visible key before file).take limit).getLast?)

include ends

theorem mem_visible_of_last : last ∈ visible key before file :=
  List.mem_of_mem_take (List.mem_of_getLast? ends)

theorem isBehind_last : isBehind key before last = true :=
  (List.mem_filter.mp (mem_visible_of_last ends)).2

theorem last_le (member : record ∈ (visible key before file).take limit) :
    key last ≤ key record := by
  have sorted := (visible_sorted key before file).sublist
    (List.take_sublist limit _)
  rcases List.getLast?_eq_some_iff.mp ends with ⟨front, page⟩
  rw [page] at sorted member
  rcases List.mem_append.mp member with earlier | same
  · exact (List.pairwise_append.mp sorted).2.2 record earlier last (by simp)
  · rw [List.mem_singleton.mp same]

theorem le_last (member : record ∈ (visible key before file).drop limit) :
    key record ≤ key last := by
  have sorted := visible_sorted key before file
  rw [← List.take_append_drop limit (visible key before file)] at sorted
  exact (List.pairwise_append.mp sorted).2.2 last (List.mem_of_getLast? ends) record member

theorem filter_larger : ((visible key before file).take limit).filter
        (fun record => key last < key record) =
      (visible key before file).filter
        fun record => key last < key record := by
  have none : ((visible key before file).drop limit).filter
      (fun record => key last < key record) = [] := by
    apply List.filter_eq_nil_iff.mpr
    intro record member larger
    exact not_lt_of_ge (le_last ends member) (of_decide_eq_true larger)
  conv_rhs => rw [← List.take_append_drop limit (visible key before file)]
  rw [List.filter_append, none, List.append_nil]

theorem filter_last_isPrefix : ((visible key before file).take limit).filter
        (fun record => key record = key last) <+:
      file.filter fun record => key record = key last := by
  have whole : (visible key before file).filter
      (fun record => key record = key last) =
        file.filter fun record => key record = key last := by
    rw [visible, List.filter_filter, ← filter_newestFirst key file (key last)]
    apply List.filter_congr
    intro record member
    by_cases same : key record = key last
    · have shown := isBehind_last ends
      simp only [isBehind] at shown ⊢
      rw [same, shown]
      simp
    · simp [same]
  rw [← whole]
  exact (List.take_prefix limit _).filter _

theorem filter_later : ((visible key before file).take limit).filter
      (isBehind key (some (key last))) = [] := by
  apply List.filter_eq_nil_iff.mpr
  intro record member later
  exact not_lt_of_ge (last_le ends member) (isBehind_some.mp later)

theorem filter_behind_last (records : List Record) :
    (records.filter (isBehind key before)).filter (isBehind key (some (key last))) =
      records.filter (isBehind key (some (key last))) := by
  rw [List.filter_filter]
  apply List.filter_congr
  intro record member
  rw [Bool.and_eq_left_iff_imp]
  exact isBehind_of_last (isBehind_last ends)

theorem length_behind_lt : (file.filter (isBehind key (some (key last)))).length <
      (file.filter (isBehind key before)).length := by
  rw [← filter_behind_last ends, List.length_filter_lt_length_iff_exists]
  refine ⟨last, ?_, ?_⟩
  · exact (visible_perm key before file).mem_iff.mp (mem_visible_of_last ends)
  · rw [isBehind_some]
    exact lt_irrefl (key last)

end PageEnd

theorem visible_append (before : Option Key) (first second : List Record) :
    (visible key before (first ++ second) : Multiset Record) =
      first.filter (isBehind key before) +
        second.filter (isBehind key before) := by
  rw [Multiset.coe_add, ← List.filter_append]
  exact Multiset.coe_eq_coe.mpr (visible_perm key before _)

variable {before : Option Key} {file : List Record}
  {batches pages : List (List Record)}

theorem isBehind_of_mem_pages (finished : pagesOf key limit before file batches = some pages)
    {record : Record} (member : record ∈ pages.flatten) :
    isBehind key before record = true := by
  induction batches generalizing before file pages with
  | nil => cases finished
  | cons batch batches induction =>
    have ofPage : ∀ other ∈ (visible key before (file ++ batch)).take limit,
        isBehind key before other = true := by
      intro other shown
      exact (List.mem_filter.mp (List.mem_of_mem_take shown)).2
    simp only [pagesOf] at finished
    split at finished
    · cases finished
      rw [List.flatten_singleton] at member
      exact ofPage record member
    · next last ends =>
        split_ifs at finished with more
        · rcases Option.map_eq_some_iff.mp finished with ⟨later, after, rfl⟩
          rw [List.flatten_cons] at member
          rcases List.mem_append.mp member with page | behind
          · exact ofPage record page
          · exact isBehind_of_last (isBehind_last ends) (induction after behind)
        · cases finished
          rw [List.flatten_singleton] at member
          exact ofPage record member

theorem pages_sorted (finished : pagesOf key limit before file batches = some pages) :
    pages.flatten.Pairwise (Newer key) := by
  induction batches generalizing before file pages with
  | nil => cases finished
  | cons batch batches induction =>
    have ofPage : ((visible key before (file ++ batch)).take limit).Pairwise
        (Newer key) :=
      (visible_sorted key before _).sublist (List.take_sublist limit _)
    simp only [pagesOf] at finished
    split at finished
    · cases finished
      rwa [List.flatten_singleton]
    · next last ends =>
        split_ifs at finished with more
        · rcases Option.map_eq_some_iff.mp finished with ⟨later, after, rfl⟩
          rw [List.flatten_cons]
          apply List.pairwise_append.mpr
          refine ⟨ofPage, induction after, ?_⟩
          intro left onPage right behind
          have below := isBehind_some.mp
            (isBehind_of_mem_pages key after behind)
          exact le_of_lt (lt_of_lt_of_le below (last_le ends onPage))
        · cases finished
          rwa [List.flatten_singleton]

theorem pagesOf_isSome (enough : (file.filter (isBehind key before)).length +
      batches.flatten.length < batches.length) :
    ∃ pages, pagesOf key limit before file batches = some pages := by
  induction batches generalizing before file with
  | nil => exact absurd enough (Nat.not_lt_zero _)
  | cons batch batches induction =>
    simp only [pagesOf]
    split
    · exact ⟨_, rfl⟩
    · next last ends =>
        split_ifs with more
        · have fewer := length_behind_lt ends
          have grown : ((file ++ batch).filter
              (isBehind key before)).length ≤ (file.filter (isBehind key before)).length +
                  batch.length := by
            rw [List.filter_append, List.length_append]
            exact Nat.add_le_add_left (List.length_filter_le _ batch) _
          rw [List.flatten_cons, List.length_append, List.length_cons] at enough
          have remaining :
              ((file ++ batch).filter (isBehind key (some (key last)))).length +
                batches.flatten.length < batches.length := by
            omega
          rcases induction remaining with ⟨later, after⟩
          exact ⟨_, by rw [after]; rfl⟩
        · exact ⟨_, rfl⟩

/-! ## Completeness -/

theorem filter_parts (records : Multiset Record) (position : Key) :
    records.filter (fun record => position < key record) +
        records.filter (fun record => key record = position) +
        records.filter (fun record => key record < position) =
      records := by
  have upper : records.filter (fun record => position < key record) +
      records.filter (fun record => key record = position) =
        records.filter fun record => ¬key record < position := by
    rw [Multiset.filter_add_filter]
    have none : records.filter (fun record =>
        position < key record ∧ key record = position) = 0 := by
      apply Multiset.filter_eq_nil.mpr
      rintro record - ⟨larger, same⟩
      exact absurd same (ne_of_gt larger)
    rw [none, Multiset.add_zero]
    apply Multiset.filter_congr
    intro record member
    rw [not_lt, le_iff_lt_or_eq]
    exact or_congr Iff.rfl eq_comm
  rw [upper, Multiset.add_comm, Multiset.filter_add_not]

section Completeness

variable {key}

theorem coe_filter (condition : Record → Bool) (records : List Record) :
    (records.filter condition : Multiset Record) =
      (records : Multiset Record).filter fun record => condition record := by
  simp

theorem filter_behind (records : List Record) (position : Key) :
    (records.filter (isBehind key (some position)) : Multiset Record) =
      (records : Multiset Record).filter fun record =>
        key record < position := by
  rw [coe_filter]
  exact Multiset.filter_congr fun record _ => isBehind_some

variable {before : Option Key} {first second : List Record} {limit : Nat}
  {last : Record}
  (ends :
    last ∈ ((visible key before (first ++ second)).take limit).getLast?)

include ends

theorem same_of_behind (records : List Record) :
    (records.filter (isBehind key before) : Multiset Record).filter
        (fun record => key record = key last) =
      records.filter fun record => key record = key last := by
  rw [coe_filter, Multiset.filter_filter]
  apply Multiset.filter_congr
  intro record member
  constructor
  · exact And.left
  · intro same
    have shown := isBehind_last ends
    simp only [isBehind] at shown ⊢
    rw [same]
    exact ⟨rfl, shown⟩

theorem parts_of_behind (records : List Record) :
    (records.filter (isBehind key before) : Multiset Record) =
      (records.filter (isBehind key before) : Multiset Record).filter
          (fun record => key last < key record) +
        (records.filter fun record => key record = key last) +
        records.filter (isBehind key (some (key last))) := by
  have parts := filter_parts key
    (records.filter (isBehind key before) : Multiset Record) (key last)
  rw [same_of_behind ends, ← filter_behind, filter_behind_last ends] at parts
  exact parts.symm

theorem larger_of_page :
    ((visible key before (first ++ second)).take limit :
        Multiset Record).filter (fun record => key last < key record) =
      (first.filter (isBehind key before) : Multiset Record).filter
          (fun record => key last < key record) +
        (second.filter (isBehind key before) : Multiset Record).filter
          fun record => key last < key record := by
  rw [← Multiset.filter_add, ← visible_append]
  exact congrArg (fun records : List Record => (records : Multiset Record)) (filter_larger ends)

theorem page_parts :
    ((visible key before (first ++ second)).take limit : Multiset Record) =
      ((visible key before (first ++ second)).take limit :
          Multiset Record).filter (fun record => key last < key record) +
        (((visible key before (first ++ second)).take limit).filter
          fun record => key record = key last) := by
  have parts := filter_parts key
    ((visible key before (first ++ second)).take limit : Multiset Record)
    (key last)
  rw [← filter_behind, filter_later ends] at parts
  exact parts.symm.trans (Multiset.add_zero _)

theorem page_of_kept (kept :
      (first.filter fun record => key record = key last).length ≤
        (((visible key before (first ++ second)).take limit).filter
          fun record => key record = key last).length) :
    ∃ others : Multiset Record, others + second.filter (isBehind key (some (key last))) ≤
          second.filter (isBehind key before) ∧
        ((visible key before (first ++ second)).take limit :
            Multiset Record) +
            first.filter (isBehind key (some (key last))) =
          first.filter (isBehind key before) + others := by
  -- the records with the last key on the page are those of the first part
  -- and some of the second one
  have begins := filter_last_isPrefix ends
  rw [List.filter_append] at begins
  have ties : ∃ more, more <+:
      second.filter (fun record => key record = key last) ∧
        ((visible key before (first ++ second)).take limit).filter
            (fun record => key record = key last) =
          first.filter (fun record => key record = key last) ++ more := by
    have within := List.prefix_of_prefix_length_le
      (List.prefix_append _ _) begins kept
    rcases within with ⟨more, same⟩
    refine ⟨more, ?_, same.symm⟩
    rw [← same] at begins
    exact (List.prefix_append_right_inj _).mp begins
  rcases ties with ⟨more, part, same⟩
  refine ⟨(second.filter (isBehind key before) : Multiset Record).filter
    (fun record => key last < key record) + more, ?_, ?_⟩
  · apply le_of_le_of_eq _ (parts_of_behind ends second).symm
    have fewer : (more : Multiset Record) ≤
        second.filter fun record => key record = key last :=
      Multiset.coe_le.mpr part.sublist.subperm
    gcongr
  · rw [page_parts ends, larger_of_page ends, same, ← Multiset.coe_add]
    conv_rhs => rw [parts_of_behind ends first]
    abel

theorem kept_of_page {later others : Multiset Record}
    (below : ∀ record ∈ later, key record < key last)
    (whole :
      ((visible key before (first ++ second)).take limit :
          Multiset Record) + later =
        first.filter (isBehind key before) + others) :
    (first.filter fun record => key record = key last).length ≤
        (((visible key before (first ++ second)).take limit).filter
          fun record => key record = key last).length ∧
      later = first.filter (isBehind key (some (key last))) +
        others.filter fun record => key record < key last := by
  constructor
  · have equal := congrArg
      (Multiset.filter fun record => key record = key last) whole
    rw [Multiset.filter_add, Multiset.filter_add, Multiset.filter_eq_nil.mpr fun record member =>
        ne_of_lt (below record member)] at equal
    have sizes := congrArg Multiset.card equal
    rw [same_of_behind ends, add_zero, Multiset.card_add] at sizes
    exact (Nat.le_add_right _ _).trans_eq sizes.symm
  · have smaller := congrArg
      (Multiset.filter fun record => key record < key last) whole
    rw [Multiset.filter_add, Multiset.filter_add,
      Multiset.filter_eq_self.mpr below, ← filter_behind, filter_later ends,
      ← filter_behind, filter_behind_last ends] at smaller
    exact (Multiset.zero_add later).symm.trans smaller

theorem smaller_le {batch : List Record} {others rest : Multiset Record}
    {second : List Record}
    (part : others ≤ second.filter (isBehind key before) + (batch + rest)) :
    others.filter (fun record => key record < key last) ≤
      (second ++ batch).filter (isBehind key (some (key last))) + rest := by
  have smaller := Multiset.filter_le_filter
    (fun record => key record < key last) part
  rw [Multiset.filter_add, Multiset.filter_add, ← filter_behind,
    ← filter_behind, filter_behind_last ends, ← add_assoc,
    Multiset.coe_add, ← List.filter_append] at smaller
  apply smaller.trans
  gcongr
  exact Multiset.filter_le _ rest

end Completeness

theorem complete_iff_tiesKept (positive : 0 < limit)
    {first second : List Record} (finished :
      pagesOf key limit before (first ++ second) batches = some pages) :
    (∃ others : Multiset Record, others ≤ second.filter (isBehind key before) + batches.flatten ∧
        (pages.flatten : Multiset Record) =
          first.filter (isBehind key before) + others) ↔
      TiesKept key limit first before (first ++ second) batches := by
  induction batches generalizing before second pages with
  | nil => cases finished
  | cons batch batches induction =>
    have grown : (second ++ batch).filter (isBehind key before) ≤
        (second.filter (isBehind key before) : Multiset Record) + batch := by
      rw [List.filter_append, ← Multiset.coe_add]
      gcongr
      exact Multiset.coe_le.mpr List.filter_sublist.subperm
    have whole : ∀ items,
        items = visible key before (first ++ second ++ batch) →
          ∃ others : Multiset Record, others ≤ second.filter (isBehind key before) +
                (batch :: batches).flatten ∧
              ([items].flatten : Multiset Record) =
                first.filter (isBehind key before) + others := by
      rintro items rfl
      refine ⟨(second ++ batch).filter (isBehind key before), ?_, ?_⟩
      · rw [List.flatten_cons, ← Multiset.coe_add, ← add_assoc]
        exact grown.trans (Multiset.le_add_right _ _)
      · rw [List.flatten_singleton, List.append_assoc, visible_append]
    rw [List.append_assoc] at whole
    simp only [pagesOf, List.append_assoc] at finished
    simp only [TiesKept, List.append_assoc]
    split at finished
    · next ended =>
        cases finished
        simp only [ended, Option.not_mem_none, false_implies, implies_true, iff_true]
        apply whole
        have none := List.getLast?_eq_none_iff.mp ended
        rw [none]
        cases List.take_eq_nil_iff.mp none with
        | inl zero => exact absurd zero (Nat.ne_of_gt positive)
        | inr empty => exact empty.symm
    · next last ends =>
        split_ifs at finished with more
        · rcases Option.map_eq_some_iff.mp finished with ⟨later, after, rfl⟩
          simp only [ends, Option.mem_some_iff, forall_eq', List.flatten_cons, ← Multiset.coe_add]
          constructor
          · rintro ⟨others, part, same⟩ -
            have below : ∀ record ∈ (later.flatten : Multiset Record),
                key record < key last := fun record member =>
              isBehind_some.mp (isBehind_of_mem_pages key after member)
            rcases kept_of_page ends below same with ⟨kept, rest⟩
            refine ⟨kept, (induction after).mp ⟨_, ?_, rest⟩⟩
            exact smaller_le ends part
          · intro ties
            rcases ties more with ⟨kept, next⟩
            rcases page_of_kept ends kept with ⟨others, part, same⟩
            rcases (induction after).mpr next with ⟨more, fewer, rest⟩
            refine ⟨others + more, ?_, ?_⟩
            · calc
                others + more ≤ others + ((second ++ batch).filter
                      (isBehind key (some (key last))) +
                        batches.flatten) := by gcongr
                _ ≤ (second ++ batch).filter (isBehind key before) +
                    batches.flatten := by
                  rw [← add_assoc]
                  gcongr
                _ ≤ _ := by
                  rw [← add_assoc]
                  gcongr
            · rw [rest, ← add_assoc, same, add_assoc]
        · cases finished
          simp only [ends, Option.mem_some_iff, forall_eq', more, false_implies, iff_true]
          apply whole
          rw [List.length_take] at more
          exact List.take_of_length_le (by omega)

end TurningGood.Foundation
