import Mathlib.Tactic.ByContra
import TurningGood.Runtime.AgentLoop
import TurningGood.Runtime.ToolGate

/-!
# Calls and results in the messages to the model

Every message list that the loop sends is made of plain messages and of
blocks: an assistant message with tool calls, and right after it one tool
message for each call, with the ids in the same order.  A rejected attachment
rewrites a message of the last block in its place; everything else is added
behind the block.
-/

namespace TurningGood.Runtime

open TurningGood.Llm

/-! ## Paired lists -/

/-- The call that a tool message answers. -/
def ChatMessage.toolCallId? : ChatMessage → Option String
  | .plain _ _ => none
  | .requests _ _ _ => none
  | .tool toolCallId _ _ => some toolCallId

/-- One tool message for each call, in the order of the calls. -/
def Answers (calls : List RequestedCall) (results : List ChatMessage) :
    Prop :=
  results.map ChatMessage.toolCallId? = calls.map fun call => some call.id

/-- Plain messages, and tool calls with their results right after them. -/
inductive Paired : List ChatMessage → Prop where
  | nil : Paired []
  | plain {role : Role} {content : String} {rest : List ChatMessage}
      (paired : Paired rest) : Paired (.plain role content :: rest)
  | requests {content : String} {calls : List RequestedCall}
      {reasoningContent : Option String}
      {results rest : List ChatMessage}
      (answers : Answers calls results)
      (paired : Paired rest) :
      Paired (.requests content calls reasoningContent :: (results ++ rest))

/-- A message that belongs to no tool call. -/
def ChatMessage.IsPlain (message : ChatMessage) : Prop :=
  ∃ role content, message = .plain role content

theorem Paired.append
    {first second : List ChatMessage}
    (paired : Paired first) (pairedSecond : Paired second) :
    Paired (first ++ second) := by
  induction paired with
  | nil => exact pairedSecond
  | plain _ induction => exact .plain induction
  | requests answers _ induction =>
    rw [List.cons_append, List.append_assoc]
    exact .requests answers induction

theorem paired_of_plain
    {messages : List ChatMessage}
    (plain : ∀ message ∈ messages, message.IsPlain) :
    Paired messages := by
  induction messages with
  | nil => exact .nil
  | cons head rest induction =>
    rcases plain head List.mem_cons_self with ⟨role, content, rfl⟩
    apply Paired.plain
    apply induction
    intro message member
    exact plain message (List.mem_cons_of_mem _ member)

section Results

variable {Tool Args : Type}

variable {config : LoopConfig Tool Args} {position : Nat}
  {messages : List ChatMessage}

theorem flushOrdinary_length {cut : Option Failure}
    {ordinary : List (ToolCall Args × CallOutcomes Args)}
    {records : List (ToolRecord Args × Bool)}
    (flushed : flushOrdinary config cut ordinary = .ok records) :
    records.length = ordinary.length := by
  unfold flushOrdinary at flushed
  split at flushed
  · next empty =>
      cases flushed
      rw [List.isEmpty_iff.mp empty]
      rfl
  · split at flushed
    · cases flushed
    · split at flushed
      · cases flushed
      · next all result =>
          cases flushed
          have sound :=
            executeCallsFrom_sound (noSlots config.runner config.context) ordinary
          rw [List.length_map]
          exact (sound.records all result).1.length_eq.symm

variable {calls : List (ToolCall Args)}

theorem executeParentCalls_length {outcomes : RoundOutcomes Args}
    {ordinary : List (ToolCall Args × CallOutcomes Args)}
    {visible visibleAfter : Option Bool}
    {executed : List (ToolRecord Args × Bool)} (ended :
      executeParentCalls config outcomes position calls ordinary visible =
        .ok (executed, visibleAfter)) :
    executed.length = ordinary.length + calls.length := by
  induction calls generalizing position ordinary visible executed with
  | nil =>
    unfold executeParentCalls at ended
    cases flushed : flushOrdinary config (outcomes.batchCut position) ordinary with
    | error failure =>
      rw [flushed] at ended
      cases ended
    | ok records =>
      rw [flushed] at ended
      cases ended
      exact flushOrdinary_length flushed
  | cons call rest induction =>
    have delegated {flushed : List (ToolRecord Args × Bool)}
        {record : ToolRecord Args × Bool} {now : Option Bool}
        (length : flushed.length = ordinary.length)
        (later : (executeParentCalls config outcomes (position + 1) rest [] now).map
            (fun later => (flushed ++ record :: later.1, later.2)) = .ok (executed, visibleAfter)) :
        executed.length = ordinary.length + (call :: rest).length := by
      cases restEnded : executeParentCalls config outcomes (position + 1) rest [] now with
      | error failure =>
        rw [restEnded] at later
        cases later
      | ok more =>
        rw [restEnded] at later
        cases later
        have restLength := induction restEnded
        simp only [List.length_append, List.length_cons, List.length_nil] at restLength ⊢
        omega
    unfold executeParentCalls at ended
    split at ended
    · have length := induction ended
      simp only [List.length_append, List.length_cons, List.length_nil] at length ⊢
      omega
    · split at ended
      · cases ended
      · next flushed flushEnded =>
          have length := flushOrdinary_length flushEnded
          split at ended
          · split at ended
            · cases ended
            · exact delegated length ended
          · exact delegated length ended

theorem attachedMessages_plain {allowSystem : Bool}
    {attached : List AttachmentMessage}
    (allowed : attachedMessages allowSystem attached = some messages) :
    ∀ message ∈ messages, message.IsPlain := by
  induction attached generalizing messages with
  | nil =>
    cases allowed
    intro message member
    cases member
  | cons head rest induction =>
    unfold attachedMessages at allowed
    split at allowed
    · next role content _ _ =>
        rcases Option.map_eq_some_iff.mp allowed with ⟨more, rest, rfl⟩
        intro message member
        rcases List.mem_cons.mp member with rfl | later
        · exact ⟨role, content, rfl⟩
        · exact induction rest message later
    · cases allowed

theorem validateContextAttachment_plain {countTokens : String → Int}
    {attachment : ContextAttachment} {usedTokens tokenLimit : Int} (valid :
      validateContextAttachment countTokens attachment usedTokens
        tokenLimit = .ok messages) : ∀ message ∈ messages, message.IsPlain := by
  unfold validateContextAttachment at valid
  split at valid
  · cases valid
  · split at valid
    · cases valid
    · split at valid
      · cases valid
      · next allowed =>
          split at valid
          · cases valid
          · split at valid
            · cases valid
            · cases valid
              exact attachedMessages_plain allowed

theorem check_plain {manager : AttachmentManager} {settings : LoopSettings}
    {countTokens : String → Int} {attachment : Option Attachment}
    {record : ToolRecord Args} {working : List ChatMessage} (accepted :
      manager.check settings countTokens attachment record working =
        .ok messages) : ∀ message ∈ messages, message.IsPlain := by
  unfold AttachmentManager.check at accepted
  split at accepted
  · cases accepted
    intro message member
    cases member
  · cases accepted
  · dsimp only at accepted
    split at accepted
    · cases accepted
    · next valid =>
        split at accepted
        · cases accepted
        · split at accepted
          · cases accepted
          · cases accepted
            exact validateContextAttachment_plain valid

theorem Answers.set {calls : List RequestedCall} {results : List ChatMessage}
    (answers : Answers calls results) {message : ChatMessage} (same :
      ∀ old, results[position]? = some old → message.toolCallId? = old.toolCallId?) :
    Answers calls (results.set position message) := by
  unfold Answers at answers ⊢
  rw [← answers, List.map_set]
  apply List.ext_getElem?
  intro index
  rw [List.getElem?_set]
  split
  · next here =>
      subst here
      split
      · next within =>
          rw [List.length_map] at within
          have present := List.getElem?_eq_getElem within
          rw [List.getElem?_map, present, same _ present]
          rfl
      · next outside =>
          rw [List.getElem?_eq_none (Nat.not_lt.mp outside)]
  · rfl

theorem attachResults_shape (config : LoopConfig Tool Args)
    {calls : List RequestedCall} {base block tail : List ChatMessage}
    {results : List (ToolCall Args × ToolRecord Args)}
    {manager : AttachmentManager} (answers : Answers calls block)
    (plain : ∀ message ∈ tail, message.IsPlain) (placed : ∀ index call record,
        results[index]? = some (call, record) →
        ∃ message, block[position + index]? = some message ∧ message.toolCallId? = some call.id) :
    ∃ blockAfter tailAfter, (attachResults config base.length position results manager
          (base ++ (block ++ tail))).2.1 =
          base ++ (blockAfter ++ tailAfter) ∧
        Answers calls blockAfter ∧
        ∀ message ∈ tailAfter, message.IsPlain := by
  induction results generalizing block tail position manager with
  | nil => exact ⟨block, tail, rfl, answers, plain⟩
  | cons head rest induction =>
    rcases head with ⟨call, record⟩
    rcases placed 0 call record rfl with ⟨message, present, answered⟩
    rw [Nat.add_zero] at present
    have within : position < block.length := by
      by_contra outside
      rw [List.getElem?_eq_none (Nat.not_lt.mp outside)] at present
      cases present
    unfold attachResults
    split
    · next error rejected =>
        have rewritten :
            (base ++ (block ++ tail)).set (base.length + position) (toolResultMessage call
                  { record with
                    error := some error
                    content := "本轮上下文附件被拒绝：" ++ error }) =
              base ++ (block.set position (toolResultMessage call
                  { record with
                    error := some error
                    content := "本轮上下文附件被拒绝：" ++ error }) ++
                tail) := by
          rw [List.set_append_right _ _ (Nat.le_add_right _ _),
            Nat.add_sub_cancel_left, List.set_append_left _ _ within]
        dsimp only
        rw [rewritten]
        apply induction
        · apply answers.set
          intro old presentOld
          rw [present] at presentOld
          cases presentOld
          rw [answered]
          rfl
        · exact plain
        · intro index later laterRecord at_
          rcases placed (index + 1) later laterRecord at_ with ⟨other, presentOther, answeredOther⟩
          refine ⟨other, ?_, answeredOther⟩
          rw [List.getElem?_set_ne (by omega), Nat.add_assoc,
            Nat.add_comm 1 index]
          exact presentOther
    · next messages accepted =>
        dsimp only
        rw [List.append_assoc, List.append_assoc]
        apply induction answers
        · intro message member
          rcases List.mem_append.mp member with old | new
          · exact plain message old
          · exact check_plain accepted message new
        · intro index later laterRecord at_
          rcases placed (index + 1) later laterRecord at_ with ⟨other, presentOther, answeredOther⟩
          refine ⟨other, ?_, answeredOther⟩
          rw [Nat.add_assoc, Nat.add_comm 1 index]
          exact presentOther

/-! ## A round -/

/-- What was sent is paired. -/
def SentPaired (state : LoopState Args) : Prop := ∀ request ∈ state.requests, Paired request

variable {state : LoopState Args}

theorem applyTurnControl_paired (control : Control) (paired : Paired state.working) :
    Paired (applyTurnControl state control).2.working := by
  unfold applyTurnControl
  split
  · exact paired
  · apply paired.append
    apply paired_of_plain
    intro message member
    rcases List.mem_map.mp member with ⟨text, -, rfl⟩
    exact ⟨_, _, rfl⟩

theorem applyTurnControl_requests (state : LoopState Args) (control : Control) :
    (applyTurnControl state control).2.requests = state.requests := by
  unfold applyTurnControl
  split <;> rfl

theorem answers_toolMessages (config : LoopConfig Tool Args)
    {records : List (ToolRecord Args)}
    (length : records.length = calls.length) :
    Answers (calls.map fun call =>
        { id := call.id
          name := call.name
          arguments := config.dumpArguments call.args })
      ((calls.zip records).map fun (call, record) =>
        toolResultMessage call record) := by
  unfold Answers
  rw [List.map_map, List.map_map]
  have ids :
      (calls.zip records).map (fun result => some result.1.id) =
        calls.map fun call => some call.id := by
    induction calls generalizing records with
    | nil => rfl
    | cons call rest induction =>
      cases records with
      | nil => cases length
      | cons record more =>
        rw [List.zip_cons_cons, List.map_cons, List.map_cons, induction (Nat.succ.inj length)]
  exact ids

theorem addResults_paired {base : List ChatMessage} {content : String}
    {reasoningContent : Option String}
    {executed : List (ToolRecord Args × Bool)} (paired : Paired base) (working :
      state.working = base ++ [assistantToolMessage config content calls reasoningContent])
    (length : executed.length = calls.length) :
    Paired (addResults config state calls executed).working := by
  have lengths : (executed.map Prod.fst).length = calls.length := by
    rw [List.length_map, length]
  have answers := answers_toolMessages config lengths
  have placed :
      ∀ index call record, (calls.zip (executed.map Prod.fst))[index]? = some (call, record) →
        ∃ message, ((calls.zip (executed.map Prod.fst)).map fun (call, record) =>
              toolResultMessage call record)[0 + index]? = some message ∧
            message.toolCallId? = some call.id := by
    intro index call record at_
    refine ⟨toolResultMessage call record, ?_, rfl⟩
    rw [Nat.zero_add, List.getElem?_map, at_]
    rfl
  have noneAttached : ∀ message ∈ ([] : List ChatMessage), message.IsPlain := by
    intro message member
    cases member
  rcases attachResults_shape config answers noneAttached placed with
    ⟨blockAfter, tailAfter, shape, answersAfter, plain⟩
  rw [List.append_nil] at shape
  unfold addResults
  dsimp only
  rw [shape, working, List.append_assoc]
  apply paired.append
  have block :
      Paired (assistantToolMessage config content calls reasoningContent ::
          (blockAfter ++ tailAfter)) :=
    Paired.requests answersAfter (paired_of_plain plain)
  exact block

theorem afterReply_paired (config : LoopConfig Tool Args)
    (outcomes : RoundOutcomes Args) (response : LLMResponse Args)
    (paired : Paired state.working) :
    (afterReply config state outcomes response).1.requests = state.requests ∧
      ((afterReply config state outcomes response).2 = none →
        Paired (afterReply config state outcomes response).1.working) := by
  unfold afterReply
  split
  · split
    · exact ⟨rfl, fun continues => by cases continues⟩
    · split
      · exact ⟨rfl, fun continues => by cases continues⟩
      · exact ⟨rfl, fun continues => by cases continues⟩
  · dsimp only
    split
    · exact ⟨rfl, fun continues => by cases continues⟩
    · split
      · exact ⟨rfl, fun continues => by cases continues⟩
      · next executed visible ended =>
          have length := executeParentCalls_length ended
          rw [List.length_nil, Nat.zero_add] at length
          split
          · exact ⟨applyTurnControl_requests _ _,
                fun continues => by cases continues⟩
          · refine ⟨applyTurnControl_requests _ _, fun _ => ?_⟩
            apply applyTurnControl_paired
            exact addResults_paired paired rfl length

theorem round_paired (config : LoopConfig Tool Args)
    (outcomes : RoundOutcomes Args) (sent : SentPaired state)
    (paired : Paired state.working) :
    SentPaired (round config state outcomes).1 ∧ ((round config state outcomes).2 = none →
        Paired (round config state outcomes).1.working) := by
  have pairedNow := applyTurnControl_paired outcomes.before paired
  have sentNow : SentPaired (applyTurnControl state outcomes.before).2 := by
    unfold SentPaired
    rw [applyTurnControl_requests]
    exact sent
  have sentAfter :
      SentPaired (applyTurnControl state outcomes.before).2.send := by
    intro request member
    rcases List.mem_append.mp member with earlier | last
    · exact sentNow request earlier
    · rw [List.mem_singleton] at last
      subst last
      exact pairedNow
  unfold round
  dsimp only
  split
  · exact ⟨sentNow, fun continues => by cases continues⟩
  · split
    · exact ⟨sentNow, fun continues => by cases continues⟩
    · split
      · exact ⟨sentAfter, fun continues => by cases continues⟩
      · next response _ =>
          let answered :=
            { (applyTurnControl state outcomes.before).2.send with
              usage := addUsage (applyTurnControl state outcomes.before).2.send.usage
                response.usage }
          have pairedAnswered : Paired answered.working := pairedNow
          rcases afterReply_paired config outcomes response pairedAnswered
            with ⟨requests, pairedAfter⟩
          refine ⟨?_, pairedAfter⟩
          unfold SentPaired
          rw [requests]
          exact sentAfter

theorem finalAnswer_paired (final : FinalOutcomes Args)
    (sent : SentPaired state) (paired : Paired state.working) :
    SentPaired (finalAnswer state final).1 := by
  have pairedNow :
      Paired (state.working ++ [.plain .system toolRoundLimitSummaryPrompt]) :=
    paired.append (.plain .nil)
  have sentAfter :
      ∀ request ∈ state.requests ++ [state.working ++ [.plain .system toolRoundLimitSummaryPrompt]],
        Paired request := by
    intro request member
    rcases List.mem_append.mp member with earlier | last
    · exact sent request earlier
    · rw [List.mem_singleton] at last
      subst last
      exact pairedNow
  unfold finalAnswer
  dsimp only
  split
  · exact sent
  · split
    · exact sentAfter
    · split
      · exact sentAfter
      · exact sentAfter

theorem runRounds_paired (config : LoopConfig Tool Args)
    (rounds : Nat → RoundOutcomes Args) (final : FinalOutcomes Args)
    (left index : Nat) (sent : SentPaired state)
    (paired : Paired state.working) :
    SentPaired (runRounds config rounds final left index state).1 := by
  induction left generalizing index state with
  | zero => exact finalAnswer_paired final sent paired
  | succ left induction =>
    have after := round_paired config (rounds index) sent paired
    unfold runRounds
    split
    · next later ended same =>
        rw [same] at after
        exact after.1
    · next later same =>
        rw [same] at after
        exact induction (index + 1) after.1 (after.2 rfl)

end Results

/-- A turn whose tokens are not counted. -/
def sampleConfig : LoopConfig Unit String where
  runner := sampleRunner
  context := ⟨false, false, none⟩
  settings :=
    { maxToolRounds := 3
      maxToolCallsPerRound := 2
      maxContextTokens := 8000
      mcpTokenLimit := 1000
      maxLoadedSkillsPerTurn := 1
      maxSkillTokens := 1000
      maxLoadedSkillTokensPerTurn := 1000 }
  persistToolCalls := true
  countTokens _ := 0
  dumpArguments args := args

/-- A reply with these calls. -/
def sampleReply (content : String) (calls : List (ToolCall String)) : LLMResponse String where
  content := content
  toolCalls := calls
  usage := { inputTokens := 1, outputTokens := 1, totalTokens := 2 }
  protocolError := none
  reasoningContent := none

/-- The first round calls a tool and the delegation, the second one none. -/
def sampleRound (index : Nat) : RoundOutcomes String where
  before := ⟨false, []⟩
  expiredBefore := false
  contextErrorBefore := none
  completion := .ok
      (if index = 0 then
        sampleReply "" [⟨"call-1", "read_file", "README.md"⟩,
            ⟨"call-2", delegateMultiAgentName, ""⟩,
            ⟨"call-3", "read_file", "LICENSE"⟩]
      else
        sampleReply "done" [])
  stopAfterReply := false
  calls _ :=
    { precheck := { policy := none, validation := .verdict none }
      beforeHooks := fun _ => .returned none
      recheck := { policy := none, validation := .verdict none }
      toolRun := .ok ⟨"text", ⟨none, none⟩, some .malformed⟩
      afterHooks := fun _ _ => none }
  delegations _ := .error .cancelled
  batchCut _ := none
  after := ⟨false, ["shorter"]⟩
  expiredAfter := false
  contextErrorAfter := none

end TurningGood.Runtime
