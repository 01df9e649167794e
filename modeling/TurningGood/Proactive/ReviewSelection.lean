import Mathlib.Data.List.Chain
import TurningGood.Proactive.ReviewWindow

/-!
# What a review selects

The messages that a review may read are sorted by time and id.  The unread
ones are those behind the message of the cursor; if this message is not among
them, they are those with a later time.  A review takes the unread messages,
without those before the refresh window unless the cursor is fresh, in
batches that are filled as far as the limit admits.
-/

namespace TurningGood.Proactive

open TurningGood.Foundation

variable {eligible : List ReviewMessage}

/-- The batch has no room for the first message of the next one. -/
def Full (tokenLimit : Nat) (batch next : ReviewBatch) : Prop :=
  tokenLimit < totalTokens batch.messages + (next.messages.head next.nonempty).tokenCount

/-- Every batch has been filled before the next one was begun. -/
def Greedy (tokenLimit : Nat) (batches : List ReviewBatch) : Prop :=
  batches.IsChain (Full tokenLimit)

theorem closeBatch_of_ne {current : List ReviewMessage}
    (nonempty : current ≠ []) : closeBatch current = [⟨current, nonempty⟩] :=
  dif_pos nonempty

theorem batchesLoop_greedy {tokenLimit : Nat} {messages : List ReviewMessage}
    {closed packed : List ReviewBatch} {current : List ReviewMessage}
    {currentTokens : Nat} (counted : currentTokens = totalTokens current)
    (begun : current = [] → closed = [])
    (greedy : Greedy tokenLimit (closed ++ closeBatch current))
    (finished : batchesLoop tokenLimit messages closed current currentTokens =
        .ok packed) : Greedy tokenLimit packed := by
  induction messages generalizing closed current currentTokens with
  | nil =>
    cases finished
    exact greedy
  | cons record rest induction =>
    simp only [batchesLoop] at finished
    split_ifs at finished with large full
    · rcases full with ⟨nonempty, ceased⟩
      apply induction (by simp [totalTokens])
        (fun none => absurd none (by simp)) ?_ finished
      rw [closeBatch_of_ne nonempty] at greedy ⊢
      rw [closeBatch_of_ne (List.cons_ne_nil record []), List.append_assoc]
      apply List.isChain_append.mpr
      rcases List.isChain_append.mp greedy with ⟨before, -, between⟩
      refine ⟨before, ?_, between⟩
      apply List.isChain_pair.mpr
      rw [Full, ← counted]
      exact ceased
    · apply induction ?_ ?_ ?_ finished
      · rw [counted]
        simp [totalTokens]
      · exact fun none => absurd none (by simp)
      · by_cases empty : current = []
        · rw [begun empty, empty, List.nil_append, List.nil_append,
            closeBatch_of_ne (List.cons_ne_nil record [])]
          exact List.isChain_singleton _
        · have extended : current ++ [record] ≠ [] := by simp
          rw [closeBatch_of_ne empty] at greedy
          rw [closeBatch_of_ne extended]
          rcases List.isChain_append.mp greedy with ⟨before, -, between⟩
          apply List.isChain_append.mpr
          refine ⟨before, List.isChain_singleton _, ?_⟩
          intro batch last next first
          have full := between batch last ⟨current, empty⟩ rfl
          cases first
          rw [Full] at full ⊢
          simpa [List.head_append_of_ne_nil empty] using full

/-! ## Unread messages -/

/-- The eligible messages that begin behind the cursor. -/
def StartsBehind (eligible : List ReviewMessage) : Option ReviewCursor → List ReviewMessage → Prop
  | none, rest => rest = eligible
  | some cursor, rest =>
    (∃ before record, eligible = before ++ record :: rest ∧ record.id = cursor.messageId ∧
      ∀ earlier ∈ before, earlier.id ≠ cursor.messageId) ∨
    ((∀ record ∈ eligible, record.id ≠ cursor.messageId) ∧ ∃ before, eligible = before ++ rest ∧
        (∀ earlier ∈ before, earlier.createdAt ≤ cursor.createdAt) ∧
        ∀ later ∈ rest, cursor.createdAt < later.createdAt)

/-- The messages that are left when those before a time are skipped. -/
def SkipsBefore (threshold : Nat) (messages rest : List ReviewMessage) :
    Prop :=
  ∃ skipped, messages = skipped ++ rest ∧ (∀ earlier ∈ skipped, earlier.createdAt < threshold) ∧
    ∀ later ∈ rest, threshold ≤ later.createdAt

/-- Sorted by time and id. -/
def Sorted (messages : List ReviewMessage) : Prop :=
  messages.Pairwise fun left right => Precedes left.position right.position

/-- What a selection is, for the messages that the review may read. -/
structure SelectsUnread (eligible : List ReviewMessage)
    (cursor : Option ReviewCursor) (now refresh tokenLimit : Nat)
    (selection : ReviewSelection) : Prop where
  messages : ∃ rest, StartsBehind eligible cursor rest ∧
    (if cursorIsFresh cursor now refresh then selection.messages = rest
      else SkipsBefore (now - refresh) rest selection.messages) ∧
    selection.advanceCursor =
      if rest = [] then cursor
      else eligible.getLast?.map ReviewMessage.cursorFor
  within : ∀ batch ∈ selection.batches,
    batch.messages ≠ [] ∧ totalTokens batch.messages ≤ tokenLimit
  greedy : Greedy tokenLimit selection.batches

theorem reviewSource_sorted (messages : List ReviewMessage) (now : Nat) :
    Sorted (reviewSource messages now) :=
  List.pairwise_insertionSort _ _

theorem reviewSource_perm (messages : List ReviewMessage) (now : Nat) :
    (reviewSource messages now).Perm (messages.filter fun record =>
      decide (record.Reviewable ∧ record.createdAt ≤ now)) :=
  List.perm_insertionSort _ _

theorem Sorted.divides {messages : List ReviewMessage}
    (sorted : Sorted messages) (threshold : Nat) (strict : Bool) :
    (∀ earlier ∈ messages.take (firstAtOrAfter messages threshold strict),
        if strict then earlier.createdAt ≤ threshold
        else earlier.createdAt < threshold) ∧
      ∀ later ∈ messages.drop (firstAtOrAfter messages threshold strict),
        if strict then threshold < later.createdAt
        else threshold ≤ later.createdAt := by
  rw [firstAtOrAfter]
  constructor
  · intro earlier member
    rcases List.mem_take_iff_getElem.mp member with ⟨index, inside, rfl⟩
    have missed := List.not_of_lt_findIdx (by omega :
      index < messages.findIdx fun record =>
        if strict then decide (threshold < record.createdAt)
        else decide (threshold ≤ record.createdAt))
    cases strict with
    | true => simpa using missed
    | false => simpa using missed
  · rw [drop_findIdx_eq_filter _ sorted]
    · intro later member
      have passed := (List.mem_filter.mp member).2
      cases strict with
      | true => simpa using passed
      | false => simpa using passed
    · intro earlier later before passed
      have ordered : earlier.createdAt ≤ later.createdAt := by
        rcases before with less | ⟨same, -⟩
        · exact Nat.le_of_lt less
        · exact Nat.le_of_eq same
      cases strict with
      | true =>
        simp only [if_true, decide_eq_true_eq] at passed ⊢
        omega
      | false =>
        simp only [Bool.false_eq_true, if_false, decide_eq_true_eq] at passed ⊢
        omega

theorem Sorted.startsBehind (sorted : Sorted eligible) (cursor : Option ReviewCursor) :
    StartsBehind eligible cursor (unread eligible cursor) := by
  cases cursor with
  | none => exact List.drop_zero
  | some cursor =>
    rw [unread, unreadStart, StartsBehind]
    cases found : eligible.findIdx? fun record => record.id == cursor.messageId with
    | some index =>
      rcases List.findIdx?_eq_some_iff_getElem.mp found with ⟨inside, hit, missed⟩
      refine .inl ⟨eligible.take index, eligible[index], ?_, ?_, ?_⟩
      · dsimp only
        rw [List.getElem_cons_drop, List.take_append_drop]
      · exact beq_iff_eq.mp hit
      · intro earlier member same
        rcases List.mem_take_iff_getElem.mp member with ⟨place, before, rfl⟩
        exact missed place (by omega) (beq_iff_eq.mpr same)
    | none =>
      have absent := List.findIdx?_eq_none_iff.mp found
      have sides := sorted.divides cursor.createdAt true
      refine .inr ⟨?_, _, (List.take_append_drop _ _).symm, ?_, ?_⟩
      · intro record member same
        exact absurd (absent record member) (by simp [same])
      · simpa using sides.1
      · simpa using sides.2

theorem Sorted.skipsBefore (sorted : Sorted eligible) (unreadFrom threshold : Nat) :
    SkipsBefore threshold (eligible.drop unreadFrom) (eligible.drop
        (max unreadFrom (firstAtOrAfter eligible threshold false))) := by
  have sides := sorted.divides threshold false
  simp only [Bool.false_eq_true, if_false] at sides
  rcases Nat.le_total (firstAtOrAfter eligible threshold false) unreadFrom with before | behind
  · rw [Nat.max_eq_left before]
    refine ⟨[], rfl, nofun, ?_⟩
    intro later member
    exact sides.2 later (List.drop_subset_drop_left eligible before member)
  · rw [Nat.max_eq_right behind]
    refine ⟨(eligible.take (firstAtOrAfter eligible threshold false)).drop
      unreadFrom, ?_, ?_, sides.2⟩
    · have whole := List.take_append_drop
        (firstAtOrAfter eligible threshold false - unreadFrom)
        (eligible.drop unreadFrom)
      rw [List.drop_drop, Nat.add_sub_cancel' behind] at whole
      rw [List.drop_take]
      exact whole.symm
    · exact fun earlier member => sides.1 earlier (List.mem_of_mem_drop member)

theorem Sorted.selectedStart_spec (sorted : Sorted eligible)
    (cursor : Option ReviewCursor) (now refresh : Nat) :
    if cursorIsFresh cursor now refresh then
      eligible.drop (selectedStart eligible cursor now refresh) = unread eligible cursor
    else SkipsBefore (now - refresh) (unread eligible cursor)
      (eligible.drop (selectedStart eligible cursor now refresh)) := by
  rw [selectedStart]
  split
  · rfl
  · exact sorted.skipsBefore _ _

theorem SkipsBefore.nothing (threshold : Nat) :
    SkipsBefore threshold [] [] :=
  ⟨[], rfl, nofun, nofun⟩

/--
A selection that is returned takes the messages that the review may read,
sorted by time and id, from behind the cursor, and not before the window
unless the cursor is fresh, in greedy batches within the limit.  The cursor
moves to the last message that the review may read, if one is unread.
-/
theorem selectReviewWindow_selectsUnread {messages : List ReviewMessage}
    {cursor : Option ReviewCursor} {now refresh tokenLimit : Nat}
    {selection : ReviewSelection}
    (selected : selectReviewWindow messages cursor now refresh tokenLimit = .ok selection) :
    ∃ eligible : List ReviewMessage, eligible.Perm (messages.filter fun record =>
        decide (record.Reviewable ∧ record.createdAt ≤ now)) ∧
      Sorted eligible ∧
      SelectsUnread eligible cursor now refresh tokenLimit selection := by
  have sorted := reviewSource_sorted messages now
  refine ⟨_, reviewSource_perm messages now, sorted, ?_⟩
  rw [selectReviewWindow] at selected
  generalize reviewSource messages now = eligible at *
  split_ifs at selected
  have behind := sorted.startsBehind cursor
  have taken := sorted.selectedStart_spec cursor now refresh
  have nothing : unread eligible cursor = [] →
      SelectsUnread eligible cursor now refresh tokenLimit ⟨[], cursor, false⟩ := by
    intro none
    rw [none] at behind
    refine ⟨⟨[], behind, ?_, rfl⟩, (by rintro _ ⟨⟩), List.isChain_nil⟩
    split
    · rfl
    · exact SkipsBefore.nothing _
  dsimp only at selected
  split at selected
  case h_1 none =>
    cases selected
    apply nothing
    rw [List.getLast?_eq_none_iff] at none
    rw [unread, none, List.drop_nil]
  case h_2 newest last =>
    by_cases allRead : eligible.length ≤ unreadStart eligible cursor
    · rw [if_pos allRead] at selected
      cases selected
      exact nothing (List.drop_eq_nil_of_le allRead)
    · have someUnread : unread eligible cursor ≠ [] := by
        rw [unread, ne_eq, List.drop_eq_nil_iff]
        exact allRead
      rw [if_neg allRead] at selected
      split at selected
      case h_1 none =>
        cases selected
        rw [List.getLast?_eq_none_iff] at none
        rw [none] at taken
        refine ⟨⟨_, behind, taken, ?_⟩, (by rintro _ ⟨⟩), List.isChain_nil⟩
        rw [if_neg someUnread, last]
        rfl
      case h_2 record lastSelected =>
        cases packed : batches (eligible.drop (selectedStart eligible cursor now refresh))
              tokenLimit with
        | error error =>
          rw [packed] at selected
          cases selected
        | ok result =>
          rw [packed] at selected
          cases selected
          have whole := batches_eq_ok packed
          have newestSelected : record = newest := by
            rw [List.getLast?_drop] at lastSelected
            split_ifs at lastSelected
            exact Option.some.inj (lastSelected.symm.trans last)
          refine ⟨⟨_, behind, ?_, ?_⟩, ?_, ?_⟩
          · rw [ReviewSelection.messages, whole.1]
            exact taken
          · rw [if_neg someUnread, last, newestSelected, ite_self]
            rfl
          · exact fun batch member =>
              ⟨batch.nonempty, whole.2 batch member⟩
          · apply batchesLoop_greedy rfl (fun _ => rfl) ?_ packed
            exact List.isChain_nil

/-- Four messages of which two share their time, out of order. -/
def sharedTime : List ReviewMessage := [⟨"d", "s", "assistant", 3, 70⟩, ⟨"c", "s", "user", 2, 60⟩,
    ⟨"b", "s", "tool", 2, 50⟩, ⟨"a", "s", "user", 4, 50⟩]

theorem selectReviewWindow_selectsUnread_sharedTime : ∃ selection,
      selectReviewWindow sharedTime (some ⟨"a", 50⟩) 80 40 4 = .ok selection ∧
        ∃ eligible : List ReviewMessage, eligible.Perm (sharedTime.filter fun record =>
            decide (record.Reviewable ∧ record.createdAt ≤ 80)) ∧
          Sorted eligible ∧
          SelectsUnread eligible (some ⟨"a", 50⟩) 80 40 4 selection :=
  ⟨⟨[⟨[⟨"c", "s", "user", 2, 60⟩], by simp⟩,
        ⟨[⟨"d", "s", "assistant", 3, 70⟩], by simp⟩],
      some ⟨"d", 70⟩, false⟩,
    by decide +kernel,
    selectReviewWindow_selectsUnread (by decide +kernel)⟩

/--
Once the message of the cursor is removed, a message at its time is not
selected, although its id puts it behind the cursor.
-/
theorem sameTime_not_selected : ¬ ∀ (messages : List ReviewMessage) (cursor : ReviewCursor)
        (now refresh tokenLimit : Nat) (selection : ReviewSelection),
      selectReviewWindow messages (some cursor) now refresh tokenLimit = .ok selection →
      ∀ record ∈ messages, record.Reviewable → record.createdAt ≤ now →
        ¬ record.AtOrBefore cursor → now - refresh ≤ record.createdAt →
        record ∈ selection.messages := by
  intro everyUnread
  have missed := everyUnread [⟨"b", "s", "user", 1, 50⟩] ⟨"a", 50⟩ 80 40 4
    ⟨[], some ⟨"a", 50⟩, false⟩ (by decide +kernel)
    ⟨"b", "s", "user", 1, 50⟩ (by simp) (.inl rfl) (by decide)
    (by decide +kernel) (by decide)
  cases missed

end TurningGood.Proactive
