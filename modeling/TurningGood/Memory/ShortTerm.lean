import TurningGood.Foundation.LongestSuffix
import TurningGood.Foundation.Text
import TurningGood.Sessions.Message

/-!
# Planning a compaction of the short-term memory

The recent window is collected from the newest complete turns, and the source
of the summary is found by comparing ids.  The window is the longest run of
newest complete turns within the limit; the source and the window are the
whole input exactly when no other message carries an id of the window.
-/

namespace TurningGood.Memory

open TurningGood.Foundation TurningGood.Sessions

variable {messages : List MessageRecord}

/-- `CompactionPlan`. -/
structure CompactionPlan where
  shouldCompact : Bool
  compactSource : List MessageRecord
  recentWindow : List MessageRecord
  compactedMessageCount : Nat
  compactedTokenCount : Nat
  rawWindowMessageCount : Nat
  rawWindowTokenCount : Nat
  deriving DecidableEq, Repr

/-- `ShortTermMemory`: the two limits of the planner. -/
structure ShortTermMemory where
  compactTokenThreshold : Nat
  recentWindowTokenLimit : Nat
  deriving DecidableEq, Repr

/-- `count_tokens`. -/
def countTokens (messages : List MessageRecord) : Nat := (messages.map MessageRecord.tokenCount).sum

/-- `complete_turns`: user messages with the assistant's answers. -/
def completeTurns : List MessageRecord → List (List MessageRecord)
  | current :: following :: rest =>
    if current.role = "user" ∧ following.role = "assistant" then
      [current, following] :: completeTurns rest
    else
      completeTurns (following :: rest)
  | _ => []

/-- The loop of `recent_window` over the reversed turns. -/
def recentWindowLoop (limit : Nat) :
    List (List MessageRecord) → List MessageRecord → Nat → List MessageRecord
  | [], selected, _ => selected
  | turn :: earlier, selected, total =>
    let turnTokens := countTokens turn
    if limit < turnTokens then
      selected
    else if limit < total + turnTokens then
      selected
    else
      recentWindowLoop limit earlier (turn ++ selected) (total + turnTokens)

namespace ShortTermMemory

variable (memory : ShortTermMemory)

/-- `should_compact`. -/
def shouldCompact (messages : List MessageRecord) : Bool :=
  memory.compactTokenThreshold < countTokens messages

/-- `recent_window`. -/
def recentWindow (messages : List MessageRecord) : List MessageRecord :=
  recentWindowLoop memory.recentWindowTokenLimit (completeTurns messages).reverse [] 0

/-- `plan_compaction`. -/
def planCompaction (messages : List MessageRecord) (force : Bool) :
    CompactionPlan :=
  if !force && !memory.shouldCompact messages then
    { shouldCompact := false
      compactSource := []
      recentWindow := messages
      compactedMessageCount := 0
      compactedTokenCount := 0
      rawWindowMessageCount := messages.length
      rawWindowTokenCount := countTokens messages }
  else
    let recentWindow := memory.recentWindow messages
    let recentIds := recentWindow.map MessageRecord.id
    let compactSource := messages.filter fun item => item.id ∉ recentIds
    { shouldCompact := true
      compactSource := compactSource
      recentWindow := recentWindow
      compactedMessageCount := compactSource.length
      compactedTokenCount := countTokens compactSource
      rawWindowMessageCount := recentWindow.length
      rawWindowTokenCount := countTokens recentWindow }

end ShortTermMemory

/-- The parts of an LLM response that a summary is taken from. -/
structure SummaryReply where
  content : String
  totalTokens : Option Nat
  deriving DecidableEq, Repr

/-- A message of a prompt. -/
structure PromptMessage where
  role : String
  content : String
  deriving DecidableEq, Repr

/-- `summary_messages`: the prompt quotes every message of the source. -/
def summaryMessages (existingSummary : String) (messages : List MessageRecord) :
    List PromptMessage :=
  let source := "\n".intercalate
    (messages.map fun item => item.role ++ ": " ++ item.content)
  let userContent :=
    "请基于已有摘要和待压缩会话片段，生成新的会话摘要。\n" ++
    "要求：只保留对后续对话有用的事实、偏好、约定、未完成事项和关键上下文；" ++
    "去掉寒暄、重复内容和无意义细节；直接输出摘要正文。\n\n" ++
    "已有摘要：\n" ++
    (if existingSummary = "" then "无" else existingSummary) ++ "\n\n" ++
    "待压缩会话片段：\n" ++ source
  [⟨"system", "你是 Turning Good Agent 的短期记忆摘要器。"⟩, ⟨"user", userContent⟩]

/-- `ShortTermMemory.compact`: the new summary, or the error of the reply. -/
def compact (existingSummary : String) (messages : List MessageRecord)
    (complete : List PromptMessage → SummaryReply) : Except String String :=
  if messages = [] then
    .ok existingSummary
  else
    let response := complete (summaryMessages existingSummary messages)
    if response.totalTokens.getD 0 = 0 then
      .error "摘要 LLM 响应缺少 usage，无法保存压缩结果。"
    else
      let summary := Text.strip response.content
      if summary = "" then
        .error "摘要 LLM 响应为空，无法保存压缩结果。"
      else
        .ok summary

theorem countTokens_append (messages more : List MessageRecord) : countTokens (messages ++ more) =
      countTokens messages + countTokens more := by
  simp only [countTokens, List.map_append, List.sum_append]

theorem countTokens_flatten (turns : List (List MessageRecord)) :
    countTokens turns.flatten = (turns.map countTokens).sum := by
  induction turns with
  | nil => rfl
  | cons turn rest induction =>
    rw [List.flatten_cons, countTokens_append, induction, List.map_cons, List.sum_cons]

theorem completeTurns_flatten_sublist (messages : List MessageRecord) :
    (completeTurns messages).flatten.Sublist messages := by
  induction messages using completeTurns.induct with
  | case1 current following rest roles induction =>
    rw [completeTurns, if_pos roles, List.flatten_cons]
    exact (List.Sublist.refl [current, following]).append induction
  | case2 current following rest roles induction =>
    rw [completeTurns, if_neg roles]
    exact induction.cons current
  | case3 messages short =>
    rw [completeTurns.eq_def]
    split
    · exact absurd rfl (short _ _ _)
    · exact List.nil_sublist _

/-- The newest complete turns of `messages` that fit into `limit`. -/
def NewestTurns (limit : Nat) (messages : List MessageRecord)
    (kept : List (List MessageRecord)) : Prop :=
  IsLongestSuffix countTokens limit (completeTurns messages) kept

theorem recentWindowLoop_eq_collectBack (limit : Nat) (reversed kept : List (List MessageRecord)) :
    recentWindowLoop limit reversed kept.flatten (countTokens kept.flatten) =
      (collectBack countTokens limit reversed kept).flatten := by
  induction reversed generalizing kept with
  | nil => rfl
  | cons turn earlier induction =>
    have further := induction (turn :: kept)
    rw [List.flatten_cons, countTokens_append] at further
    have total := countTokens_flatten kept
    simp only [recentWindowLoop, collectBack]
    split_ifs with tooLong tooMuch fits fits
    · omega
    · rfl
    · omega
    · rfl
    · rw [Nat.add_comm (countTokens kept.flatten), further]
    · omega

theorem recentWindow_newestTurns (memory : ShortTermMemory) (messages : List MessageRecord) :
    ∃ kept, NewestTurns memory.recentWindowTokenLimit messages kept ∧
        memory.recentWindow messages = kept.flatten := by
  refine ⟨collectBack countTokens memory.recentWindowTokenLimit
    (completeTurns messages).reverse [], ?_, ?_⟩
  · have longest :
        IsLongestSuffix countTokens memory.recentWindowTokenLimit
          ((completeTurns messages).reverse.reverse ++ [])
          (collectBack countTokens memory.recentWindowTokenLimit
            (completeTurns messages).reverse []) :=
      collectBack_isLongestSuffix (Nat.zero_le _)
    rw [List.reverse_reverse, List.append_nil] at longest
    exact longest
  · exact recentWindowLoop_eq_collectBack _ _ []

theorem NewestTurns.flatten_sublist {limit : Nat}
    {kept : List (List MessageRecord)}
    (newest : NewestTurns limit messages kept) :
    kept.flatten.Sublist messages := by
  rcases newest.isSuffix with ⟨front, split⟩
  have whole := completeTurns_flatten_sublist messages
  rw [← split, List.flatten_append] at whole
  exact (List.sublist_append_right _ _).trans whole

theorem recentWindow_sublist (memory : ShortTermMemory) (messages : List MessageRecord) :
    (memory.recentWindow messages).Sublist messages := by
  rcases recentWindow_newestTurns memory messages with ⟨kept, newest, equal⟩
  exact equal ▸ newest.flatten_sublist

theorem recentWindow_fits (memory : ShortTermMemory) (messages : List MessageRecord) :
    countTokens (memory.recentWindow messages) ≤
      memory.recentWindowTokenLimit := by
  rcases recentWindow_newestTurns memory messages with ⟨kept, newest, equal⟩
  rw [equal, countTokens_flatten]
  exact newest.fits

/--
No message outside the newest complete turns that fit into the limit carries
the id of a message in these turns.
-/
def ShortTermMemory.NoSharedId (memory : ShortTermMemory) (messages : List MessageRecord) : Prop :=
  ∀ kept, NewestTurns memory.recentWindowTokenLimit messages kept →
    sharingKeys MessageRecord.id messages kept.flatten = kept.flatten

theorem noSharedId_iff_recentWindow (memory : ShortTermMemory) (messages : List MessageRecord) :
    memory.NoSharedId messages ↔ sharingKeys MessageRecord.id messages
          (memory.recentWindow messages) =
        memory.recentWindow messages := by
  rcases recentWindow_newestTurns memory messages with ⟨kept, newest, equal⟩
  rw [equal]
  constructor
  · intro separate
    exact separate kept newest
  · intro separate other otherNewest
    rw [otherNewest.unique newest]
    exact separate

instance (memory : ShortTermMemory) (messages : List MessageRecord) :
    Decidable (memory.NoSharedId messages) :=
  decidable_of_iff _ (noSharedId_iff_recentWindow memory messages).symm

theorem noSharedId_of_nodup (memory : ShortTermMemory)
    (distinct : (messages.map MessageRecord.id).Nodup) :
    memory.NoSharedId messages :=
  fun _ newest => sharingKeys_eq_of_nodup distinct newest.flatten_sublist

theorem planCompaction_of_shouldCompact {memory : ShortTermMemory}
    {force : Bool} (compacts :
      (memory.planCompaction messages force).shouldCompact = true) :
    (memory.planCompaction messages force).recentWindow = memory.recentWindow messages ∧
      (memory.planCompaction messages force).compactSource =
        withoutKeys MessageRecord.id messages (memory.recentWindow messages) := by
  unfold ShortTermMemory.planCompaction at compacts ⊢
  split_ifs at compacts ⊢ with unforced
  exact ⟨rfl, rfl⟩

theorem planCompaction_perm_iff {memory : ShortTermMemory} {force : Bool}
    (compacts : (memory.planCompaction messages force).shouldCompact = true) :
    ((memory.planCompaction messages force).compactSource ++
          (memory.planCompaction messages force).recentWindow).Perm
        messages ↔
      memory.NoSharedId messages := by
  rcases planCompaction_of_shouldCompact compacts with ⟨window, source⟩
  rw [window, source, noSharedId_iff_recentWindow]
  exact withoutKeys_append_perm_iff (recentWindow_sublist memory messages)

end TurningGood.Memory
