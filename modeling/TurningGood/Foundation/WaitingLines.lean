import Mathlib.Data.List.Nodup
import Mathlib.Data.List.Pairwise
import Mathlib.Logic.Function.Basic

/-!
# Waiting lines that are served one item at a time

Accepted items are kept apart by a key.  An item starts at once when nothing
of its key is under way, and else joins the line of its key; lines are only
shortened at the front, by starting the first item, or removed as a whole.

Whatever the order of these operations, no item starts twice, the items of a
key start in the order of acceptance, and every accepted item has started,
waits in its line, or was removed.
-/

namespace TurningGood.Foundation

universe u v w

/-- What the lines read of an item. -/
class Routed (Item : Type u) (Key : outParam (Type v)) where
  key : Item → Key
  /-- the position in the order of acceptance -/
  serial : Item → Nat

/-- The lines by key, with the history of acceptances. -/
structure WaitingLines
    (Item : Type u) (Key : Type v) (Reason : Type w) where
  accepted : List Item
  started : List Item
  waiting : Key → List Item
  removed : List (Item × Reason)

namespace WaitingLines

open Routed

variable {Item : Type u} {Key : Type v} {Reason : Type w}
variable [DecidableEq Key] [Routed Item Key]

/-- The items of one key, in order. -/
def onKey (key : Key) (items : List Item) : List Item :=
  items.filter fun item => Routed.key item = key

@[simp]
theorem onKey_append (key : Key) (left right : List Item) :
    onKey key (left ++ right) = onKey key left ++ onKey key right :=
  List.filter_append _ _

variable {item : Item}

theorem onKey_singleton_of_eq {key : Key} (same : Routed.key item = key) :
    onKey key [item] = [item] := by
  simp [onKey, same]

theorem onKey_singleton_of_ne {key : Key} (other : Routed.key item ≠ key) :
    onKey key [item] = [] := by
  simp [onKey, other]

theorem mem_onKey_iff {key : Key} {items : List Item} :
    item ∈ onKey key items ↔ item ∈ items ∧ Routed.key item = key := by
  simp [onKey]

/-- An accepted item joins the line of its key. -/
def join (lines : WaitingLines Item Key Reason) (item : Item) :
    WaitingLines Item Key Reason :=
  { lines with
    accepted := lines.accepted ++ [item]
    waiting := Function.update lines.waiting (key item) (lines.waiting (key item) ++ [item]) }

/-- An accepted item starts at once. -/
def start (lines : WaitingLines Item Key Reason) (item : Item) :
    WaitingLines Item Key Reason :=
  { lines with
    accepted := lines.accepted ++ [item]
    started := lines.started ++ [item] }

/-- The first item of a line starts, leaving `rest`. -/
def startNext (lines : WaitingLines Item Key Reason)
    (item : Item) (rest : List Item) : WaitingLines Item Key Reason :=
  { lines with
    started := lines.started ++ [item]
    waiting := Function.update lines.waiting (key item) rest }

/-- A whole line is removed. -/
def removeLine (lines : WaitingLines Item Key Reason)
    (key : Key) (reason : Reason) : WaitingLines Item Key Reason :=
  { lines with
    waiting := Function.update lines.waiting key []
    removed := lines.removed ++ (lines.waiting key).map fun item => (item, reason) }

/-- All lines are removed; `items` lists what they held. -/
def removeAll (lines : WaitingLines Item Key Reason) (items : List Item) (reason : Reason) :
    WaitingLines Item Key Reason :=
  { lines with
    waiting := fun _ => []
    removed := lines.removed ++ items.map fun item => (item, reason) }

/-! ## Soundness -/

/-- Nothing is lost, repeated or overtaken. -/
structure Sound (lines : WaitingLines Item Key Reason) : Prop where
  serials : lines.accepted.map serial = List.range lines.accepted.length
  ordered : ∀ key, (onKey key lines.started ++ lines.waiting key).Sublist (onKey key lines.accepted)
  accounted : ∀ item ∈ lines.accepted,
    item ∈ lines.started ∨ item ∈ lines.waiting (Routed.key item) ∨
      ∃ reason, (item, reason) ∈ lines.removed
  removedApart : ∀ item reason, (item, reason) ∈ lines.removed →
    item ∈ lines.accepted ∧ item ∉ lines.started ∧ item ∉ lines.waiting (Routed.key item)

section Consequences

variable {lines : WaitingLines Item Key Reason}

variable {item : Item}

theorem Sound.accepted_nodup (sound : lines.Sound) :
    lines.accepted.Nodup := by
  apply List.Nodup.of_map serial
  rw [sound.serials]
  exact List.nodup_range

theorem Sound.accepted_increasing (sound : lines.Sound) :
    lines.accepted.Pairwise (fun left right => serial left < serial right) := by
  have whole : (lines.accepted.map serial).Pairwise (· < ·) := by
    rw [sound.serials]
    exact List.pairwise_lt_range
  exact List.pairwise_map.mp whole

theorem Sound.mem_waiting (sound : lines.Sound) {query : Key} (waits : item ∈ lines.waiting query) :
    item ∈ lines.accepted ∧ key item = query :=
  mem_onKey_iff.mp ((sound.ordered query).subset (List.mem_append_right _ waits))

theorem Sound.mem_started (sound : lines.Sound) (begun : item ∈ lines.started) :
    item ∈ lines.accepted :=
  (mem_onKey_iff.mp ((sound.ordered (key item)).subset
      (List.mem_append_left _ (mem_onKey_iff.mpr ⟨begun, rfl⟩)))).1

theorem Sound.started_ordered (sound : lines.Sound) (query : Key) :
    (onKey query lines.started).Sublist (onKey query lines.accepted) :=
  (List.sublist_append_left _ _).trans (sound.ordered query)

theorem Sound.started_lt_waiting (sound : lines.Sound) {earlier later : Item}
    (begun : earlier ∈ lines.started)
    (waits : later ∈ lines.waiting (key earlier)) :
    serial earlier < serial later := by
  have increasing :=
    (sound.accepted_increasing.sublist (List.filter_sublist (p := fun item =>
        decide (key item = key earlier)))).sublist (sound.ordered (key earlier))
  rw [List.pairwise_append] at increasing
  exact increasing.2.2 earlier (mem_onKey_iff.mpr ⟨begun, rfl⟩) later waits

theorem Sound.waiting_not_started (sound : lines.Sound) {query : Key}
    (waits : item ∈ lines.waiting query) : item ∉ lines.started := by
  intro begun
  have same := (sound.mem_waiting waits).2
  exact Nat.lt_irrefl _ (sound.started_lt_waiting begun (same.symm ▸ waits))

theorem Sound.started_nodup [DecidableEq Item] (sound : lines.Sound) :
    lines.started.Nodup := by
  rw [List.nodup_iff_count_le_one]
  intro item
  have whole :
      (onKey (key item) lines.started).count item =
        lines.started.count item :=
    List.count_filter (by simp)
  rw [← whole]
  exact List.nodup_iff_count_le_one.mp (sound.accepted_nodup.sublist
      ((sound.started_ordered (key item)).trans List.filter_sublist))
    item

end Consequences

/-! ## The operations keep the lines sound -/

section Preservation

variable {lines : WaitingLines Item Key Reason}

variable {item : Item}

theorem serials_append (sound : lines.Sound) (fresh : serial item = lines.accepted.length) :
    (lines.accepted ++ [item]).map serial =
      List.range (lines.accepted ++ [item]).length := by
  simp [sound.serials, fresh, List.range_succ]

theorem fresh_not_accepted (sound : lines.Sound)
    (fresh : serial item = lines.accepted.length) : item ∉ lines.accepted := by
  intro member
  have inRange : serial item ∈ lines.accepted.map serial :=
    List.mem_map_of_mem member
  rw [sound.serials, List.mem_range, fresh] at inRange
  exact Nat.lt_irrefl _ inRange

theorem Sound.join (sound : lines.Sound) (fresh : serial item = lines.accepted.length) :
    (lines.join item).Sound where
  serials := serials_append sound fresh
  ordered := by
    intro query
    simp only [WaitingLines.join, onKey_append]
    by_cases same : key item = query
    · subst query
      rw [Function.update_self, onKey_singleton_of_eq rfl, ← List.append_assoc]
      exact (sound.ordered _).append (List.Sublist.refl _)
    · rw [Function.update_of_ne (Ne.symm same), onKey_singleton_of_ne same, List.append_nil]
      exact sound.ordered query
  accounted := by
    intro other member
    simp only [WaitingLines.join]
    rcases List.mem_append.mp member with old | new
    · rcases sound.accounted other old with begun | waits | gone
      · exact Or.inl begun
      · refine Or.inr (Or.inl ?_)
        by_cases same : key other = key item
        · rw [same] at waits
          rw [same, Function.update_self]
          exact List.mem_append_left _ waits
        · rwa [Function.update_of_ne same]
      · exact Or.inr (Or.inr gone)
    · rw [List.mem_singleton] at new
      subst other
      rw [Function.update_self]
      exact Or.inr (Or.inl (List.mem_append_right _ List.mem_cons_self))
  removedApart := by
    intro other reason gone
    rcases sound.removedApart other reason gone with ⟨known, notBegun, notWaiting⟩
    refine ⟨List.mem_append_left _ known, notBegun, ?_⟩
    simp only [WaitingLines.join]
    by_cases same : key other = key item
    · rw [same, Function.update_self, List.mem_append, List.mem_singleton]
      rintro (waits | rfl)
      · exact notWaiting (same.symm ▸ waits)
      · exact fresh_not_accepted sound fresh known
    · rwa [Function.update_of_ne same]

theorem Sound.start (sound : lines.Sound) (fresh : serial item = lines.accepted.length)
    (empty : lines.waiting (key item) = []) :
    (lines.start item).Sound where
  serials := serials_append sound fresh
  ordered := by
    intro query
    simp only [WaitingLines.start, onKey_append]
    by_cases same : key item = query
    · subst query
      have ordered := sound.ordered (key item)
      rw [empty, List.append_nil] at ordered ⊢
      exact ordered.append (List.Sublist.refl _)
    · rw [onKey_singleton_of_ne same, List.append_nil, List.append_nil]
      exact sound.ordered query
  accounted := by
    intro other member
    rcases List.mem_append.mp member with old | new
    · exact (sound.accounted other old).imp_left (List.mem_append_left _)
    · exact Or.inl (List.mem_append_right _ new)
  removedApart := by
    intro other reason gone
    rcases sound.removedApart other reason gone with ⟨known, notBegun, notWaiting⟩
    refine ⟨List.mem_append_left _ known, ?_, notWaiting⟩
    simp only [WaitingLines.start, List.mem_append, List.mem_singleton]
    rintro (begun | rfl)
    · exact notBegun begun
    · exact fresh_not_accepted sound fresh known

theorem Sound.startNext (sound : lines.Sound) {rest : List Item}
    (front : lines.waiting (key item) = item :: rest) :
    (lines.startNext item rest).Sound where
  serials := sound.serials
  ordered := by
    intro query
    simp only [WaitingLines.startNext, onKey_append]
    by_cases same : key item = query
    · subst query
      have ordered := sound.ordered (key item)
      rw [front] at ordered
      rw [Function.update_self, onKey_singleton_of_eq rfl, List.append_assoc]
      exact ordered
    · rw [Function.update_of_ne (Ne.symm same), onKey_singleton_of_ne same, List.append_nil]
      exact sound.ordered query
  accounted := by
    intro other member
    simp only [WaitingLines.startNext]
    rcases sound.accounted other member with begun | waits | gone
    · exact Or.inl (List.mem_append_left _ begun)
    · by_cases same : key other = key item
      · rw [same, front] at waits
        rcases List.mem_cons.mp waits with rfl | later
        · exact Or.inl (List.mem_append_right _ List.mem_cons_self)
        · rw [same, Function.update_self]
          exact Or.inr (Or.inl later)
      · rw [Function.update_of_ne same]
        exact Or.inr (Or.inl waits)
    · exact Or.inr (Or.inr gone)
  removedApart := by
    intro other reason gone
    rcases sound.removedApart other reason gone with ⟨known, notBegun, notWaiting⟩
    simp only [WaitingLines.startNext]
    refine ⟨known, ?_, ?_⟩
    · rw [List.mem_append, List.mem_singleton]
      rintro (begun | rfl)
      · exact notBegun begun
      · exact notWaiting (front ▸ List.mem_cons_self)
    · by_cases same : key other = key item
      · rw [same, Function.update_self]
        intro waits
        rw [same, front] at notWaiting
        exact notWaiting (List.mem_cons_of_mem _ waits)
      · rwa [Function.update_of_ne same]

theorem Sound.removeLine (sound : lines.Sound) (query : Key) (reason : Reason) :
    (lines.removeLine query reason).Sound where
  serials := sound.serials
  ordered := by
    intro other
    simp only [WaitingLines.removeLine]
    by_cases same : other = query
    · subst other
      rw [Function.update_self, List.append_nil]
      exact sound.started_ordered query
    · rw [Function.update_of_ne same]
      exact sound.ordered other
  accounted := by
    intro item member
    simp only [WaitingLines.removeLine]
    rcases sound.accounted item member with begun | waits | gone
    · exact Or.inl begun
    · by_cases same : key item = query
      · rw [same] at waits
        exact Or.inr (Or.inr ⟨reason, List.mem_append_right _ (List.mem_map_of_mem waits)⟩)
      · rw [Function.update_of_ne same]
        exact Or.inr (Or.inl waits)
    · rcases gone with ⟨why, gone⟩
      exact Or.inr (Or.inr ⟨why, List.mem_append_left _ gone⟩)
  removedApart := by
    intro item why gone
    simp only [WaitingLines.removeLine] at gone ⊢
    rcases List.mem_append.mp gone with old | new
    · rcases sound.removedApart item why old with ⟨known, notBegun, notWaiting⟩
      refine ⟨known, notBegun, ?_⟩
      by_cases same : key item = query
      · rw [same, Function.update_self]
        exact List.not_mem_nil
      · rwa [Function.update_of_ne same]
    · rcases List.mem_map.mp new with ⟨other, waits, equal⟩
      cases equal
      have known := sound.mem_waiting waits
      refine ⟨known.1, sound.waiting_not_started waits, ?_⟩
      rw [known.2, Function.update_self]
      exact List.not_mem_nil

theorem Sound.removeAll (sound : lines.Sound) {items : List Item}
    (listed : ∀ item, item ∈ items ↔ item ∈ lines.waiting (Routed.key item))
    (reason : Reason) : (lines.removeAll items reason).Sound where
  serials := sound.serials
  ordered := by
    intro query
    simp only [WaitingLines.removeAll, List.append_nil]
    exact sound.started_ordered query
  accounted := by
    intro item member
    simp only [WaitingLines.removeAll]
    rcases sound.accounted item member with begun | waits | gone
    · exact Or.inl begun
    · exact Or.inr (Or.inr ⟨reason, List.mem_append_right _
          (List.mem_map_of_mem ((listed item).mpr waits))⟩)
    · rcases gone with ⟨why, gone⟩
      exact Or.inr (Or.inr ⟨why, List.mem_append_left _ gone⟩)
  removedApart := by
    intro item why gone
    simp only [WaitingLines.removeAll] at gone ⊢
    rcases List.mem_append.mp gone with old | new
    · have apart := sound.removedApart item why old
      exact ⟨apart.1, apart.2.1, List.not_mem_nil⟩
    · rcases List.mem_map.mp new with ⟨other, member, equal⟩
      cases equal
      have waits := (listed item).mp member
      exact ⟨(sound.mem_waiting waits).1, sound.waiting_not_started waits, List.not_mem_nil⟩

end Preservation

end WaitingLines

end TurningGood.Foundation
