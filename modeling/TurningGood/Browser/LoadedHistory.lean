import TurningGood.Browser.SessionState
import TurningGood.Foundation.Modify

/-!
# Loading the history of a session

The messages of the browser and those of the server have different names,
so a local message is found in the history by its role and its text: it is
merged into the first entry that has both.  Several local messages can be
merged into one entry, and an entry can get the action of a send that has
not written it.

What the merge does to the entries is followed message by message; counted
are the messages that carry the action and the text of a send.
-/

namespace TurningGood.Browser

open TurningGood.Foundation

variable {actionId : String}

/-! ## The entries of the server -/

/-- `_message_dict`. -/
structure HistoryEntry where
  id : String
  role : Role
  content : String
  createdAt : String
  metadata : MessageMetadata := {}
  deriving DecidableEq, Repr

/-- The message that the browser gets for an entry. -/
def HistoryEntry.toMessage (entry : HistoryEntry) : ChatMessage where
  id := entry.id
  role := entry.role
  content := entry.content
  createdAt := entry.createdAt
  metadata := entry.metadata

/-- The entries that a page shows. -/
def visibleEntries (state : SessionState) (entries : List HistoryEntry) :
    List ChatMessage :=
  hideRetriedHistory (entries.map HistoryEntry.toMessage) state.hiddenMessageIds

/-- The entry that absorbs each local message, as the merge goes on. -/
def mergeTargets : List ChatMessage → List ChatMessage → List (Option Nat)
  | [], _ => []
  | message :: rest, remaining =>
    match remaining.findIdx? (sameText message) with
    | some index =>
      some index :: mergeTargets rest
          (remaining.modify index (mergePersistedMessage · message))
    | none => none :: mergeTargets rest remaining

/-- A local message of the user whose action was not accepted. -/
def isUnsent (message : ChatMessage) : Bool :=
  message.role == .user && (truthy message.clientActionId).isSome &&
    (message.delivery == some .sending || message.delivery == some .failed)

/-- A message of the user with a client action and a text. -/
def carries (actionId content : String) (message : ChatMessage) : Bool :=
  message.role == .user && message.clientActionId == some actionId &&
    message.content == content

/--
What loading a history leaves.  `sentBy` is the client action whose send
wrote an entry, which the browser is not told.
-/
structure KeepsUnsent (sentBy : String → Option String)
    (state target : SessionState) (entries : List HistoryEntry) : Prop where
  /-- An unsent message is there as often as before: exactly once. -/
  kept : ∀ message ∈ state.messages, isUnsent message = true →
    ∀ actionId, message.clientActionId = some actionId →
      target.messages.countP (carries actionId message.content) =
        state.messages.countP (carries actionId message.content)
  /-- No entry absorbs two local messages. -/
  single : ∀ index, (mergeTargets state.messages (visibleEntries state entries)).count
      (some index) ≤ 1
  /-- An entry is bound to the action of its own send only. -/
  own : ∀ (index : Nat) (entry message : ChatMessage),
    (visibleEntries state entries)[index]? = some entry →
    target.messages[index]? = some message →
    ∀ actionId, truthy message.clientActionId = some actionId →
      sentBy entry.id = some actionId

/--
When the texts identify the messages: no two local messages have the role
and the text for which an entry is the first one, and a local message with
an action has those of an entry only if its send wrote the first such entry.
-/
structure TextsIdentify (sentBy : String → Option String)
    (state : SessionState) (entries : List HistoryEntry) : Prop where
  single : ∀ index, state.messages.countP (fun message =>
        (visibleEntries state entries).findIdx? (sameText message) = some index) ≤ 1
  own : ∀ message ∈ state.messages,
    ∀ actionId, truthy message.clientActionId = some actionId →
    ∀ (index : Nat) (entry : ChatMessage),
      (visibleEntries state entries).findIdx? (sameText message) = some index →
      (visibleEntries state entries)[index]? = some entry →
      sentBy entry.id = some actionId

theorem sameText_mergePersistedMessage (message cached : ChatMessage) (item : ChatMessage) :
    sameText message (mergePersistedMessage item cached) =
      sameText message item := rfl

theorem findIdx?_merged (message cached : ChatMessage)
    (remaining : List ChatMessage) (index : Nat) :
    (remaining.modify index (mergePersistedMessage · cached)).findIdx? (sameText message) =
      remaining.findIdx? (sameText message) :=
  findIdx?_modify (sameText_mergePersistedMessage message cached) remaining index

theorem mergeTargets_eq_map (current loaded : List ChatMessage) : mergeTargets current loaded =
      current.map fun message => loaded.findIdx? (sameText message) := by
  induction current generalizing loaded with
  | nil => rfl
  | cons message rest induction =>
    rw [mergeTargets, List.map_cons]
    cases found : loaded.findIdx? (sameText message) with
    | none => rw [induction]
    | some index =>
      simp only [induction, findIdx?_merged]

theorem mergeLocal_getElem? (current loaded : List ChatMessage) (index : Nat) :
    (mergeLocal current loaded).1[index]? = loaded[index]?.map fun entry =>
        (current.filter fun message =>
          loaded.findIdx? (sameText message) = some index).foldl
            mergePersistedMessage entry := by
  induction current generalizing loaded with
  | nil => simp [mergeLocal]
  | cons message rest induction =>
    rw [mergeLocal]
    cases found : loaded.findIdx? (sameText message) with
    | none => simp [induction, found]
    | some target =>
      simp only [induction, findIdx?_merged, List.getElem?_modify]
      by_cases same : target = index
      · subst same
        simp [found, Option.map_map, Function.comp_def]
      · simp [found, same]

theorem mergeLocal_length (current loaded : List ChatMessage) :
    (mergeLocal current loaded).1.length = loaded.length := by
  induction current generalizing loaded with
  | nil => rfl
  | cons message rest induction =>
    rw [mergeLocal]
    cases loaded.findIdx? (sameText message) with
    | none => exact induction loaded
    | some index => rw [induction, List.length_modify]

variable {content : String}

theorem carries_mergePersistedMessage (named : actionId ≠ "")
    {item message : ChatMessage} (same : sameText message item = true)
    (other : carries actionId content item = false) :
    carries actionId content (mergePersistedMessage item message) =
      carries actionId content message := by
  simp only [sameText, Bool.and_eq_true, beq_iff_eq] at same
  simp only [carries, mergePersistedMessage, same.1, same.2] at other ⊢
  cases cached : message.clientActionId with
  | none =>
    rw [truthy_none, Option.none_or, other]
    simp
  | some found =>
    by_cases empty : found = ""
    · subst empty
      rw [truthy_empty, Option.none_or, other]
      simp [named.symm]
    · rw [truthy_of_ne empty, Option.some_or]

theorem isLocal_of_carries (named : actionId ≠ "") {message : ChatMessage}
    (carried : carries actionId content message = true) :
    isLocal message = true := by
  simp only [carries, Bool.and_eq_true, beq_iff_eq] at carried
  rw [isLocal, carried.1.2, truthy_of_ne named]
  rfl

theorem countP_mergeLocal (named : actionId ≠ "")
    {current loaded : List ChatMessage}
    (single : ∀ index, (mergeTargets current loaded).count (some index) ≤ 1)
    (fresh : ∀ index item, some index ∈ mergeTargets current loaded → loaded[index]? = some item →
      carries actionId content item = false) :
    (mergeLocal current loaded).1.countP (carries actionId content) +
        (mergeLocal current loaded).2.countP (carries actionId content) =
      loaded.countP (carries actionId content) +
        current.countP (carries actionId content) := by
  induction current generalizing loaded with
  | nil => rfl
  | cons message rest induction =>
    rw [mergeTargets] at single fresh
    rw [mergeLocal]
    cases found : loaded.findIdx? (sameText message) with
    | none =>
      simp only [found, List.count_cons, List.mem_cons] at single fresh
      have later := @induction loaded
        (fun index => by have := single index; simp at this; exact this)
        (fun index item member => fresh index item (.inr member))
      cases keeps : isLocal message with
      | true =>
        simp only [if_true, List.countP_cons]
        omega
      | false =>
        have absent : carries actionId content message = false := by
          rw [← Bool.not_eq_true]
          intro carried
          rw [isLocal_of_carries named carried] at keeps
          cases keeps
        simp only [Bool.false_eq_true, if_false, List.countP_cons, absent]
        omega
    | some target =>
      simp only [found, List.count_cons, List.mem_cons] at single fresh
      rcases getElem?_of_findIdx? found with ⟨item, present, same⟩
      have counted := @countP_modify_add _ (carries actionId content)
        (mergePersistedMessage · message) loaded target item present
      have absent := fresh target item (.inl rfl) present
      rw [carries_mergePersistedMessage named same absent] at counted
      have later := @induction
        (loaded.modify target (mergePersistedMessage · message))
        (fun index => by have := single index; omega)
        (by
          intro index other member inside
          have elsewhere : target ≠ index := by
            rintro rfl
            have counts := single target
            have again : 0 < (mergeTargets rest (loaded.modify target
                (mergePersistedMessage · message))).count (some target) :=
              List.count_pos_iff.mpr member
            simp only [beq_self_eq_true, if_true] at counts
            omega
          rw [List.getElem?_modify_ne _ _ elsewhere] at inside
          exact fresh index other (.inr member) inside)
      simp only [List.countP_cons, absent] at counted ⊢
      simp only [Bool.false_eq_true, if_false] at counted
      omega

theorem hideRetriedFrom_subset (hidden : List String) (hideAssistant : Bool)
    (messages : List ChatMessage) :
    hideRetriedFrom hidden hideAssistant messages ⊆ messages := by
  induction messages generalizing hideAssistant with
  | nil => exact List.Subset.refl _
  | cons message rest induction =>
    have skipped : ∀ hides,
        hideRetriedFrom hidden hides rest ⊆ message :: rest := fun hides =>
      List.subset_cons_of_subset message (induction hides)
    have shown : ∀ hides,
        message :: hideRetriedFrom hidden hides rest ⊆ message :: rest :=
      fun hides => List.cons_subset_cons message (induction hides)
    rw [hideRetriedFrom]
    split <;> split
    · exact skipped _
    · exact shown _
    · exact skipped _
    · exact shown _

theorem visibleEntries_unbound {state : SessionState}
    {entries : List HistoryEntry} {index : Nat} {entry : ChatMessage}
    (present : (visibleEntries state entries)[index]? = some entry) :
    entry.clientActionId = none := by
  have member := hideRetriedFrom_subset _ _ _
    (List.mem_of_getElem? present)
  rcases List.mem_map.mp member with ⟨found, -, rfl⟩
  rfl

theorem clientActionId_foldl {messages : List ChatMessage}
    {entry : ChatMessage} (unbound : entry.clientActionId = none)
    (bound : truthy (messages.foldl mergePersistedMessage entry).clientActionId = some actionId) :
    ∃ message ∈ messages, truthy message.clientActionId = some actionId := by
  induction messages using List.reverseRecOn with
  | nil =>
    rw [List.foldl_nil, unbound, truthy_none] at bound
    cases bound
  | append_singleton rest last induction =>
    simp only [List.foldl_append, List.foldl_cons, List.foldl_nil, mergePersistedMessage] at bound
    cases own : truthy last.clientActionId with
    | some found =>
      have present := (truthy_eq_some.mp own).2
      rw [own, Option.some_or, truthy_of_ne present] at bound
      exact ⟨last, List.mem_append_right _ List.mem_cons_self, own.trans bound⟩
    | none =>
      rw [own, Option.none_or] at bound
      rcases induction bound with ⟨message, member, carried⟩
      exact ⟨message, List.mem_append_left _ member, carried⟩

/-! ## When a load keeps the unsent messages -/

section Load

variable {sentBy : String → Option String} {now : String}
variable {state : SessionState} {entries : List HistoryEntry}

theorem historyLoaded_messages : (applySessionAction now state
      (.historyLoaded (entries.map HistoryEntry.toMessage))).messages =
      mergeHistory state.messages (visibleEntries state entries) := rfl

theorem mergeHistory_getElem? {current loaded : List ChatMessage}
    {index : Nat} {entry : ChatMessage}
    (present : loaded[index]? = some entry) :
    (mergeHistory current loaded)[index]? = some ((current.filter fun message =>
        loaded.findIdx? (sameText message) = some index).foldl
          mergePersistedMessage entry) := by
  have inside : index < (mergeLocal current loaded).1.length := by
    rw [mergeLocal_length]
    exact (List.getElem?_eq_some_iff.mp present).1
  rw [mergeHistory, List.getElem?_append_left inside, mergeLocal_getElem?, present, Option.map_some]

theorem count_mergeTargets (current loaded : List ChatMessage) (index : Nat) :
    (mergeTargets current loaded).count (some index) = current.countP fun message =>
        loaded.findIdx? (sameText message) = some index := by
  rw [mergeTargets_eq_map, List.count, List.countP_map]
  apply List.countP_congr
  intro message member
  simp

theorem TextsIdentify.keepsUnsent (identify : TextsIdentify sentBy state entries) :
    KeepsUnsent sentBy state (applySessionAction now state
        (.historyLoaded (entries.map HistoryEntry.toMessage))) entries := by
  have single : ∀ index,
      (mergeTargets state.messages (visibleEntries state entries)).count (some index) ≤ 1 := by
    intro index
    rw [count_mergeTargets]
    exact identify.single index
  constructor
  · intro message member unsent actionId bound
    have named : actionId ≠ "" := by
      rintro rfl
      simp [isUnsent, bound] at unsent
    have unbound : ∀ item ∈ visibleEntries state entries,
        carries actionId message.content item = false := by
      intro item inside
      rcases List.getElem?_of_mem inside with ⟨index, present⟩
      simp [carries, visibleEntries_unbound present]
    have counted := @countP_mergeLocal actionId message.content named
      state.messages (visibleEntries state entries) single fun index item target present =>
        unbound item (List.mem_of_getElem? present)
    have nothing : (visibleEntries state entries).countP
        (carries actionId message.content) = 0 := by
      rw [List.countP_eq_zero]
      intro item inside
      rw [unbound item inside]
      exact Bool.false_ne_true
    rw [historyLoaded_messages, mergeHistory, List.countP_append]
    omega
  · exact single
  · intro index entry message present found actionId bound
    rw [historyLoaded_messages, mergeHistory_getElem? present] at found
    cases found
    rcases clientActionId_foldl (visibleEntries_unbound present) bound with
      ⟨cached, member, carried⟩
    rw [List.mem_filter, decide_eq_true_eq] at member
    exact identify.own cached member.1 actionId carried index entry member.2 present

theorem KeepsUnsent.textsIdentify (keeps : KeepsUnsent sentBy state (applySessionAction now state
        (.historyLoaded (entries.map HistoryEntry.toMessage))) entries) :
    TextsIdentify sentBy state entries := by
  have single : ∀ index,
      state.messages.countP (fun message =>
          (visibleEntries state entries).findIdx? (sameText message) =
            some index) ≤ 1 := by
    intro index
    rw [← count_mergeTargets]
    exact keeps.single index
  refine ⟨single, ?_⟩
  intro message member actionId carried index entry found present
  -- Only this message is merged into the entry, which gets its action.
  have alone : (state.messages.filter fun message =>
      decide ((visibleEntries state entries).findIdx? (sameText message) =
        some index)) = [message] := by
    have inside : message ∈ state.messages.filter fun message =>
        decide ((visibleEntries state entries).findIdx? (sameText message) =
          some index) :=
      List.mem_filter.mpr ⟨member, by simpa using found⟩
    have short := single index
    rw [List.countP_eq_length_filter] at short
    generalize state.messages.filter _ = absorbed at inside short ⊢
    cases absorbed with
    | nil => cases inside
    | cons first rest =>
      have nothing : rest = [] := by
        apply List.eq_nil_of_length_eq_zero
        simp only [List.length_cons] at short
        omega
      subst nothing
      rw [List.mem_singleton.mp inside]
  have merged := @mergeHistory_getElem? state.messages _ index entry present
  rw [alone] at merged
  apply keeps.own index entry _ present merged
  simp only [List.foldl_cons, List.foldl_nil, mergePersistedMessage]
  rw [carried, Option.some_or]
  exact truthy_of_ne (truthy_eq_some.mp carried).2

/--
Loading a history keeps every unsent message, lets an entry absorb one local
message at most, and binds it to the action of its own send only, exactly
when the texts identify the messages.
-/
theorem historyLoaded_keepsUnsent_iff (sentBy : String → Option String) (now : String)
    (state : SessionState) (entries : List HistoryEntry) :
    KeepsUnsent sentBy state (applySessionAction now state
          (.historyLoaded (entries.map HistoryEntry.toMessage))) entries ↔
      TextsIdentify sentBy state entries :=
  ⟨KeepsUnsent.textsIdentify, TextsIdentify.keepsUnsent⟩

end Load

/-- Three sends of one text, of which the server has accepted the first. -/
def repeatedSends : SessionState :=
  let send (actionId : String) : PendingActionInput :=
    { id := actionId, kind := .message, content := "继续",
      sessionId := some "session-1", createdAt := "2026-07-27" }
  [.messageOptimistic (send "first"),
    .actionAccepted "first" "session-1" "turn-1",
    .messageOptimistic (send "second"),
    .actionFailed "second" "连接尚未建立",
    .messageOptimistic (send "third"),
    .actionFailed "third" "连接尚未建立"].foldl
      (applySessionAction "2026-07-27") createSessionState

/-- The history with the message that was accepted. -/
def acceptedHistory : List HistoryEntry :=
  [{ id := "user-1", role := .user, content := "继续",
     createdAt := "2026-07-27" }]

/-- All three messages become one, and the second action is gone. -/
theorem historyLoaded_loses_unsent : (applySessionAction "2026-07-27" repeatedSends
        (.historyLoaded (acceptedHistory.map
          HistoryEntry.toMessage))).messages.map ChatMessage.clientActionId =
      [some "third"] ∧
    ¬ KeepsUnsent (fun _ => some "first") repeatedSends
      (applySessionAction "2026-07-27" repeatedSends
        (.historyLoaded (acceptedHistory.map HistoryEntry.toMessage)))
      acceptedHistory := by
  constructor
  · decide
  · intro keeps
    have absorbed := keeps.single 0
    revert absorbed
    decide

end TurningGood.Browser
