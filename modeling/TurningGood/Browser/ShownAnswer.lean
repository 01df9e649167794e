import TurningGood.Browser.SessionState
import Mathlib.Data.List.Induction

/-!
# The answer that a turn shows

Of the messages of a turn the last one of the assistant is its answer.  It
is absent, shown with a text, or cut off, when the text is replaced by a
notice.  A piece of the answer, its end and a lost connection change the
answer in their own way, and leave the answers of other turns alone.
-/

namespace TurningGood.Browser

open TurningGood.Foundation

/-! ## The last item that passes a test -/

section Last

variable {Item : Type} {test : Item → Bool}

variable {index : Nat}

/-- The last item that passes a test. -/
def lastItem? (test : Item → Bool) (items : List Item) : Option Item :=
  (lastIndex? test items).bind (items[·]?)

theorem lastIndex?_append_singleton (items : List Item) (item : Item) :
    lastIndex? test (items ++ [item]) =
      if test item then some items.length else lastIndex? test items := by
  induction items with
  | nil => simp [lastIndex?]
  | cons first rest induction =>
    simp only [List.cons_append, lastIndex?, induction, List.length_cons]
    split_ifs <;> rfl

variable {items : List Item}

theorem lastIndex?_spec (found : lastIndex? test items = some index) :
    ∃ item, items[index]? = some item ∧ test item = true := by
  induction items generalizing index with
  | nil => cases found
  | cons first rest induction =>
    rw [lastIndex?] at found
    cases later : lastIndex? test rest with
    | some position =>
      rw [later] at found
      cases found
      exact induction later
    | none =>
      rw [later] at found
      split_ifs at found with passes
      cases found
      exact ⟨first, rfl, passes⟩

variable {change : Item → Item}

theorem lastIndex?_modify (same : ∀ item, items[index]? = some item →
      test (change item) = test item) :
    lastIndex? test (items.modify index change) = lastIndex? test items := by
  induction items generalizing index with
  | nil => rw [List.modify_nil]
  | cons first rest induction =>
    cases index with
    | zero =>
      rw [List.modify_zero_cons, lastIndex?, lastIndex?, same first rfl]
    | succ index =>
      rw [List.modify_succ_cons, lastIndex?, lastIndex?,
        induction fun item found => same item found]

theorem lastItem?_of_lastIndex? (found : lastIndex? test items = some index) :
    ∃ item, items[index]? = some item ∧ test item = true ∧
      lastItem? test items = some item := by
  rcases lastIndex?_spec found with ⟨item, present, passes⟩
  refine ⟨item, present, passes, ?_⟩
  rw [lastItem?, found, Option.bind_some, present]

theorem lastItem?_eq_none :
    lastItem? test items = none ↔ lastIndex? test items = none := by
  cases found : lastIndex? test items with
  | none => simp [lastItem?, found]
  | some index =>
    rcases lastItem?_of_lastIndex? found with ⟨item, -, -, last⟩
    simp [last]

theorem lastItem?_append_singleton (items : List Item) (item : Item) :
    lastItem? test (items ++ [item]) =
      if test item then some item else lastItem? test items := by
  rw [lastItem?, lastIndex?_append_singleton]
  split_ifs with passes
  · simp
  · rw [lastItem?]
    cases found : lastIndex? test items with
    | none => rfl
    | some index =>
      rcases lastIndex?_spec found with ⟨last, present, -⟩
      have inside := (List.getElem?_eq_some_iff.mp present).1
      rw [Option.bind_some, Option.bind_some, List.getElem?_append_left inside]

theorem lastItem?_modify_self {item : Item} (found : lastIndex? test items = some index)
    (present : items[index]? = some item) (passes : test (change item) = true) :
    lastItem? test (items.modify index change) = some (change item) := by
  have before : test item = true := by
    rcases lastIndex?_spec found with ⟨other, same, passed⟩
    rw [present] at same
    cases same
    exact passed
  have position : lastIndex? test (items.modify index change) =
      some index := by
    rw [← found]
    apply lastIndex?_modify
    intro other same
    rw [present] at same
    cases same
    rw [passes, before]
  rw [lastItem?, position, Option.bind_some, List.getElem?_modify_eq, present]
  rfl

theorem find?_reverse (items : List Item) :
    items.reverse.find? test = lastItem? test items := by
  induction items using List.reverseRecOn with
  | nil => rfl
  | append_singleton rest item induction =>
    rw [lastItem?_append_singleton, List.reverse_append,
      List.reverse_singleton, List.singleton_append, List.find?_cons,
      induction]
    cases test item <;> rfl

theorem lastItem?_modify_other (fails : ∀ item, items[index]? = some item →
      test item = false ∧ test (change item) = false) :
    lastItem? test (items.modify index change) = lastItem? test items := by
  have position : lastIndex? test (items.modify index change) =
      lastIndex? test items := by
    apply lastIndex?_modify
    intro item present
    rw [(fails item present).1, (fails item present).2]
  rw [lastItem?, lastItem?, position]
  cases found : lastIndex? test items with
  | none => rfl
  | some last =>
    rcases lastIndex?_spec found with ⟨item, present, passes⟩
    have elsewhere : index ≠ last := by
      rintro rfl
      rw [(fails item present).1] at passes
      cases passes
    rw [Option.bind_some, Option.bind_some, List.getElem?_modify_ne _ _ elsewhere]

end Last

/-! ## The answer of a turn -/

/-- What a turn shows as its answer. -/
inductive ShownAnswer where
  | absent
  | shown (text : String)
  | cutOff
  deriving DecidableEq, Repr

namespace ShownAnswer

/-- A piece of the answer arrives. -/
def append (delta : String) : ShownAnswer → ShownAnswer
  | absent | cutOff => shown delta
  | shown text => shown (text ++ delta)

/-- The answer is complete. -/
def complete (content : String) : ShownAnswer → ShownAnswer
  | absent => if content ≠ "" then shown content else absent
  | cutOff => shown content
  | shown text => shown (if text ≠ "" then text else content)

/-- The text of the answer, if there is a message for it. -/
def content : ShownAnswer → Option String
  | absent => none
  | shown text => some text
  | cutOff => some networkFailureText

end ShownAnswer

/-- The answer of a turn among the messages. -/
def answerMessage (requestId : String) (messages : List ChatMessage) :
    Option ChatMessage :=
  lastItem? (isAssistantOf requestId) messages

/-- The messages show an answer. -/
inductive Shows (requestId : String) (messages : List ChatMessage) :
    ShownAnswer → Prop where
  | absent (missing : answerMessage requestId messages = none) :
      Shows requestId messages .absent
  | shown {message : ChatMessage}
      (last : answerMessage requestId messages = some message)
      (intact : message.metadata.networkFailure = false) :
      Shows requestId messages (.shown message.content)
  | cutOff {message : ChatMessage}
      (last : answerMessage requestId messages = some message)
      (failed : message.metadata.networkFailure = true)
      (notice : message.content = networkFailureText) :
      Shows requestId messages .cutOff

/-- The message of the user that a turn answers, with its action. -/
def Answerable (requestId : String) (messages : List ChatMessage) : Prop :=
  ∃ user, messages.reverse.find? (isUserOf requestId) = some user ∧
    (truthy user.clientActionId).isSome

namespace Shows

variable {requestId : String} {messages : List ChatMessage}
variable {answer : ShownAnswer}

variable {message : ChatMessage}

theorem content (shows_ : Shows requestId messages answer) :
    (answerMessage requestId messages).map ChatMessage.content =
      answer.content := by
  cases shows_ with
  | absent missing => rw [missing]; rfl
  | shown last intact => rw [last]; rfl
  | cutOff last failed notice => rw [last, Option.map_some, notice]; rfl

theorem of_same {target : List ChatMessage} (shows_ : Shows requestId messages answer)
    (same : answerMessage requestId target = answerMessage requestId messages) :
    Shows requestId target answer := by
  cases shows_ with
  | absent missing => exact .absent (same.trans missing)
  | shown last intact => exact .shown (same.trans last) intact
  | cutOff last failed notice =>
    exact .cutOff (same.trans last) failed notice

theorem latestIndex_none (missing : answerMessage requestId messages = none) :
    latestAssistantIndex messages requestId = none :=
  lastItem?_eq_none.mp missing

theorem latestIndex_some (last : answerMessage requestId messages = some message) :
    ∃ index, latestAssistantIndex messages requestId = some index ∧
      messages[index]? = some message := by
  cases found : latestAssistantIndex messages requestId with
  | none =>
    rw [answerMessage, lastItem?_eq_none.mpr found] at last
    cases last
  | some index =>
    rcases lastItem?_of_lastIndex? found with ⟨item, present, -, same⟩
    rw [answerMessage, same] at last
    cases last
    exact ⟨index, rfl, present⟩

theorem modified {index : Nat} {change : ChatMessage → ChatMessage}
    (found : latestAssistantIndex messages requestId = some index)
    (present : messages[index]? = some message)
    (stays : isAssistantOf requestId (change message) = true) :
    answerMessage requestId (messages.modify index change) =
      some (change message) :=
  lastItem?_modify_self found present stays

theorem isAssistantOf_temporary (now content : String) :
    isAssistantOf requestId (temporaryAssistant now requestId content) =
      true := by
  simp [isAssistantOf, temporaryAssistant]

theorem isAssistantOf_of_last (last : answerMessage requestId messages = some message) :
    message.role = .assistant ∧ message.requestId = some requestId := by
  rcases latestIndex_some last with ⟨index, found, present⟩
  rcases lastIndex?_spec found with ⟨item, same, passes⟩
  rw [present] at same
  cases same
  simpa [isAssistantOf] using passes

theorem appended (isAnswer : isAssistantOf requestId message = true) :
    answerMessage requestId (messages ++ [message]) = some message := by
  rw [answerMessage, lastItem?_append_singleton, if_pos isAnswer]

theorem rewritten {index : Nat} (last : answerMessage requestId messages = some message)
    (found : latestAssistantIndex messages requestId = some index)
    (present : messages[index]? = some message) (text : ChatMessage → String) :
    Shows requestId (messages.modify index fun item =>
        { clearNetworkFailure item requestId with content := text item })
      (.shown (text message)) := by
  have role := (isAssistantOf_of_last last).1
  exact .shown (modified found present
      (by simp [isAssistantOf, clearNetworkFailure, role])) rfl

theorem appendDelta (shows_ : Shows requestId messages answer) (now delta : String) :
    Shows requestId (appendAssistantDelta now messages requestId delta) (answer.append delta) := by
  rw [appendAssistantDelta]
  cases shows_ with
  | absent missing =>
    rw [latestIndex_none missing]
    exact .shown (appended (isAssistantOf_temporary now delta)) rfl
  | shown last intact =>
    rcases latestIndex_some last with ⟨index, found, present⟩
    have after := rewritten last found present fun item =>
      if item.metadata.networkFailure then delta else item.content ++ delta
    rw [intact] at after
    rw [found]
    exact after
  | cutOff last failed notice =>
    rcases latestIndex_some last with ⟨index, found, present⟩
    have after := rewritten last found present fun item =>
      if item.metadata.networkFailure then delta else item.content ++ delta
    rw [failed] at after
    rw [found]
    exact after

theorem complete (shows_ : Shows requestId messages answer) (now content : String) :
    Shows requestId (completeAssistant now messages requestId content)
      (answer.complete content) := by
  rw [completeAssistant]
  cases shows_ with
  | absent missing =>
    rw [latestIndex_none missing, ShownAnswer.complete]
    dsimp only
    split_ifs
    · exact .shown (appended (isAssistantOf_temporary now content)) rfl
    · exact .absent missing
  | shown last intact =>
    rcases latestIndex_some last with ⟨index, found, present⟩
    have after := rewritten last found present fun item =>
      if item.metadata.networkFailure then content
      else if item.content ≠ "" then item.content else content
    rw [intact] at after
    rw [found]
    exact after
  | cutOff last failed notice =>
    rcases latestIndex_some last with ⟨index, found, present⟩
    have after := rewritten last found present fun item =>
      if item.metadata.networkFailure then content
      else if item.content ≠ "" then item.content else content
    rw [failed] at after
    rw [found]
    exact after

theorem isAssistantOf_failure {now other : String} {user : ChatMessage}
    {previous : Option ChatMessage} :
    isAssistantOf requestId (networkFailureMessage now other user previous) =
        decide (other = requestId) := by
  simp [isAssistantOf, networkFailureMessage, Bool.beq_eq_decide_eq]

theorem interrupt (answerable : Answerable requestId messages) (now : String) :
    Shows requestId (interruptAssistantMessage now messages requestId)
      .cutOff := by
  rcases answerable with ⟨user, found, acted⟩
  have isAnswer : ∀ previous, isAssistantOf requestId
      (networkFailureMessage now requestId user previous) = true := by
    intro previous
    rw [isAssistantOf_failure]
    exact decide_eq_true rfl
  rw [interruptAssistantMessage, found]
  dsimp only
  rw [if_neg (by
    rw [Option.isNone_eq_false_iff.mpr acted]
    exact Bool.false_ne_true)]
  cases position : latestAssistantIndex messages requestId with
  | none => exact .cutOff (appended (isAnswer none)) rfl rfl
  | some index =>
    rcases lastItem?_of_lastIndex? position with ⟨item, present, -, last⟩
    exact .cutOff (modified position present (isAnswer (some item))) rfl rfl

theorem interrupt_other {other : String} (ne : other ≠ requestId) (now : String) :
    answerMessage requestId (interruptAssistantMessage now messages other) =
      answerMessage requestId messages := by
  have notAnswer : ∀ user previous, isAssistantOf requestId
      (networkFailureMessage now other user previous) = false := by
    intro user previous
    rw [isAssistantOf_failure]
    exact decide_eq_false ne
  rw [interruptAssistantMessage]
  split
  · rfl
  · split_ifs
    · rfl
    · split
      · rw [answerMessage, lastItem?_append_singleton, notAnswer]
        rfl
      · rename_i index found
        apply lastItem?_modify_other
        intro item present
        rcases lastIndex?_spec found with ⟨same, inPlace, passes⟩
        rw [present] at inPlace
        cases inPlace
        refine ⟨?_, notAnswer _ _⟩
        simp only [isAssistantOf, Bool.and_eq_true, beq_iff_eq] at passes
        simp [isAssistantOf, passes.2, ne]

end Shows

/-! ## The message of the user -/

namespace Answerable

variable {requestId : String} {messages : List ChatMessage}

theorem of_same (answerable : Answerable requestId messages)
    {target : List ChatMessage}
    (same : lastItem? (isUserOf requestId) target = lastItem? (isUserOf requestId) messages) :
    Answerable requestId target := by
  rcases answerable with ⟨user, found, acted⟩
  rw [find?_reverse] at found
  exact ⟨user, by rw [find?_reverse, same, found], acted⟩

theorem append_assistant {message : ChatMessage} (isAssistant : message.role = .assistant) :
    lastItem? (isUserOf requestId) (messages ++ [message]) =
      lastItem? (isUserOf requestId) messages := by
  rw [lastItem?_append_singleton]
  simp [isUserOf, isAssistant]

theorem modify_assistant {other : String} {index : Nat}
    {change : ChatMessage → ChatMessage}
    (found : latestAssistantIndex messages other = some index)
    (stays : ∀ item, item.role = .assistant → (change item).role = .assistant) :
    lastItem? (isUserOf requestId) (messages.modify index change) =
      lastItem? (isUserOf requestId) messages := by
  apply lastItem?_modify_other
  intro item present
  rcases lastIndex?_spec found with ⟨same, inPlace, passes⟩
  rw [present] at inPlace
  cases inPlace
  simp only [isAssistantOf, Bool.and_eq_true, beq_iff_eq] at passes
  simp [isUserOf, passes.1, stays item passes.1]

theorem appendDelta (answerable : Answerable requestId messages) (now other delta : String) :
    Answerable requestId (appendAssistantDelta now messages other delta) := by
  apply answerable.of_same
  rw [appendAssistantDelta]
  split
  · rename_i index found
    exact modify_assistant found fun item role => role
  · exact append_assistant rfl

theorem complete (answerable : Answerable requestId messages) (now other content : String) :
    Answerable requestId (completeAssistant now messages other content) := by
  apply answerable.of_same
  rw [completeAssistant]
  split
  · rename_i index found
    exact modify_assistant found fun item role => role
  · split_ifs
    · exact append_assistant rfl
    · rfl

theorem interrupt (answerable : Answerable requestId messages) (now other : String) :
    Answerable requestId (interruptAssistantMessage now messages other) := by
  apply answerable.of_same
  rw [interruptAssistantMessage]
  split
  · rfl
  · split_ifs
    · rfl
    · split
      · exact append_assistant rfl
      · rename_i index found
        exact modify_assistant found fun item _ => rfl

end Answerable

theorem interrupt_all {requestId now : String} {requestIds : List String}
    {messages : List ChatMessage} {answer : ShownAnswer}
    (shows_ : Shows requestId messages answer)
    (answerable : Answerable requestId messages) :
    Shows requestId (requestIds.foldl (interruptAssistantMessage now) messages)
        (if requestId ∈ requestIds then .cutOff else answer) ∧
      Answerable requestId (requestIds.foldl (interruptAssistantMessage now) messages) := by
  induction requestIds generalizing messages answer with
  | nil => exact ⟨by simpa using shows_, answerable⟩
  | cons first rest induction =>
    rw [List.foldl_cons]
    by_cases same : first = requestId
    · subst same
      rcases induction (Shows.interrupt answerable now)
        (answerable.interrupt now first) with ⟨shown, still⟩
      refine ⟨?_, still⟩
      rw [ite_self] at shown
      rw [if_pos List.mem_cons_self]
      exact shown
    · rcases induction (shows_.of_same (Shows.interrupt_other same now))
        (answerable.interrupt now first) with ⟨shown, still⟩
      refine ⟨?_, still⟩
      simpa [List.mem_cons, Ne.symm same] using shown

end TurningGood.Browser
