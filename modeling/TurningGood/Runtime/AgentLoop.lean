import TurningGood.Foundation.Text
import TurningGood.Runtime.AttachmentManager

/-!
# The loop between model and tools

`AgentLoop.run` sends its message list to the model, executes the tool calls
of the reply, adds their results, attachments and guidance to the list, and
asks again, until a reply calls no tool or the rounds are used up.

What the loop meets in a round (stop requests, guidance, deadlines, the
reply, the ends of the calls) are the outcomes of that round.  The lists that
are sent to the model are kept in the order of the requests.
-/

namespace TurningGood.Runtime

open TurningGood.Llm
open TurningGood.Foundation.Text

/-! ## What the loop meets -/

/-- Why an awaited part of a turn does not return. -/
inductive Failure where
  | cancelled
  | timedOut
  | raised (message : String)
deriving DecidableEq

/-- What the channel says at a safe point. -/
structure Control where
  stopRequested : Bool
  guidance : List String

/-- Everything that one round of the loop meets. -/
structure RoundOutcomes (Args : Type) where
  before : Control
  expiredBefore : Bool
  contextErrorBefore : Option String
  completion : Except Failure (LLMResponse Args)
  stopAfterReply : Bool
  /-- the outcomes of the call at a position -/
  calls : Nat → CallOutcomes Args
  /-- the content of a delegation, and whether its schema stays visible -/
  delegations : Nat → Except Failure (String × Bool)
  /-- the batch before a position is cut off -/
  batchCut : Nat → Option Failure
  after : Control
  expiredAfter : Bool
  contextErrorAfter : Option String

/-- What the final answer without tools meets. -/
structure FinalOutcomes (Args : Type) where
  expired : Bool
  completion : Except Failure (LLMResponse Args)
  stopRequested : Bool

/-- What the loop has of its turn. -/
structure LoopConfig (Tool Args : Type) where
  runner : ToolCallRunner Tool Args
  context : RunContext
  settings : LoopSettings
  persistToolCalls : Bool
  countTokens : String → Int
  /-- `json.dumps` of the arguments of a call -/
  dumpArguments : Args → String

/-- The variables of `run`. -/
structure LoopState (Args : Type) where
  working : List ChatMessage
  toolRecords : List (ToolRecord Args)
  usage : LLMUsage
  consumedGuidance : List String
  attachments : AttachmentManager
  /-- `is_schema_visible`, if the turn may delegate -/
  schemaVisible : Option Bool
  /-- the message lists that were sent to the model -/
  requests : List (List ChatMessage)

/-- How `run` has ended. -/
inductive LoopEnd where
  | finished (finalContent : String) (cancelled : Bool) (outcome : String)
  | failed (failure : Failure)
deriving DecidableEq

section Loop

variable {Tool Args : Type}

/-! ## Messages -/

/-- `DELEGATE_MULTI_AGENT_NAME`. -/
def delegateMultiAgentName : String := "delegate_multi_agent"

/-- `_assistant_tool_message`. -/
def assistantToolMessage (config : LoopConfig Tool Args) (content : String)
    (calls : List (ToolCall Args)) (reasoningContent : Option String) :
    ChatMessage :=
  .requests content (calls.map fun call =>
      { id := call.id
        name := call.name
        arguments := config.dumpArguments call.args })
    (if isTruthy reasoningContent then reasoningContent else none)

/-- `_tool_result_message`. -/
def toolResultMessage (call : ToolCall Args) (record : ToolRecord Args) :
    ChatMessage :=
  .tool call.id call.name record.content

/-- The message for a text of guidance. -/
def guidanceMessage (text : String) : ChatMessage := .plain .user
    ("【用户正在引导当前任务】\n" ++ "用户在任务执行中补充了以下方向。请在系统约束和安全审批不变的前提下调整后续计划；" ++ "不要重复已经完成的操作。\n\n" ++ text)

/-- `TOOL_ROUND_LIMIT_SUMMARY_PROMPT`. -/
def toolRoundLimitSummaryPrompt : String :=
  "工具调用轮数已达到上限。请基于当前对话和已有工具结果，总结本次任务已经完成的处理结果。" ++ "不要继续调用工具，不要只说明达到上限。只能输出自然语言最终答案。"

/-- `_tool_round_limit_fallback`. -/
def toolRoundLimitFallback (toolRecords : List (ToolRecord Args)) : String :=
  let names := ", ".intercalate (toolRecords.map ToolRecord.toolName)
  "工具调用轮数已达到上限，已完成 " ++ toString toolRecords.length ++
    " 次工具调用（" ++ (if names = "" then "无" else names) ++ "）。" ++
    "模型未能生成最终总结，可使用 /tools 查看本轮完整工具结果。"

/-- The record of a call of the delegation tool. -/
def delegateRecord (call : ToolCall Args) (content : String)
    (error : Option String) : ToolRecord Args where
  toolName := call.name
  args := call.args
  content := content
  error := error
  toolCallId := call.id

/-- `flush_ordinary`. -/
def flushOrdinary (config : LoopConfig Tool Args) (cut : Option Failure)
    (ordinary : List (ToolCall Args × CallOutcomes Args)) :
    Except Failure (List (ToolRecord Args × Bool)) :=
  if ordinary.isEmpty then .ok []
  else
    match cut with
    | some failure => .error failure
    | none =>
      match (config.runner.executeCalls config.context ordinary).result
          with
      | .error message => .error (.raised message)
      | .ok records => .ok (records.map fun record => (record, true))

/-- `_execute_parent_calls`, from the call at a position on. -/
def executeParentCalls (config : LoopConfig Tool Args) (outcomes : RoundOutcomes Args) :
    Nat → List (ToolCall Args) → List (ToolCall Args × CallOutcomes Args) → Option Bool →
      Except Failure (List (ToolRecord Args × Bool) × Option Bool)
  | position, [], ordinary, visible =>
    (flushOrdinary config (outcomes.batchCut position) ordinary).map
      fun records => (records, visible)
  | position, call :: rest, ordinary, visible =>
    if call.name ≠ delegateMultiAgentName then
      executeParentCalls config outcomes (position + 1) rest
        (ordinary ++ [(call, outcomes.calls position)]) visible
    else
      match flushOrdinary config (outcomes.batchCut position)
          ordinary with
      | .error failure => .error failure
      | .ok flushed =>
        if visible = some true then
          match outcomes.delegations position with
          | .error failure => .error failure
          | .ok (content, visibleAfter) =>
            (executeParentCalls config outcomes (position + 1) rest [] (some visibleAfter)).map
              fun later =>
                (flushed ++ (delegateRecord call content none, false) :: later.1, later.2)
        else
          (executeParentCalls config outcomes (position + 1) rest [] visible).map fun later =>
              (flushed ++ (delegateRecord call "当前父回合不允许 delegate_multi_agent 调用。"
                      (some "当前父回合不允许委派"),
                    false) :: later.1,
                later.2)

/--
The attachments of the results, from a position on: a rejected one rewrites
the message of its call, the others are added to the end.
-/
def attachResults (config : LoopConfig Tool Args) (start : Nat) :
    Nat → List (ToolCall Args × ToolRecord Args) → AttachmentManager → List ChatMessage →
      AttachmentManager × List ChatMessage × List (ToolRecord Args)
  | _, [], manager, working => (manager, working, [])
  | position, (call, record) :: rest, manager, working =>
    match manager.check config.settings config.countTokens
        record.contextAttachment record working with
    | .error error =>
      let rejected :=
        { record with
          error := some error
          content := "本轮上下文附件被拒绝：" ++ error }
      let later := attachResults config start (position + 1) rest
        manager
        (working.set (start + position) (toolResultMessage call rejected))
      (later.1, later.2.1, rejected :: later.2.2)
    | .ok messages =>
      let later := attachResults config start (position + 1) rest
        (manager.commit record.contextAttachment record)
        (working ++ messages)
      (later.1, later.2.1, record :: later.2.2)

/-! ## A round -/

/-- The texts of guidance that are not blank. -/
def guidanceTexts (guidance : List String) : List String := (guidance.map strip).filter (· ≠ "")

/-- `_apply_turn_control`: whether to stop, and the state. -/
def applyTurnControl (state : LoopState Args) (control : Control) :
    Bool × LoopState Args :=
  if control.stopRequested then (true, state)
  else
    (false,
      { state with
        consumedGuidance := state.consumedGuidance ++ guidanceTexts control.guidance
        working := state.working ++ (guidanceTexts control.guidance).map guidanceMessage })

/-- The checks of the delegation at a safe point. -/
def checkDelegation (state : LoopState Args) (expired : Bool)
    (contextError : Option String) : Option LoopEnd :=
  if state.schemaVisible.isNone then none
  else if expired then
    some (.finished "Multi-Agent 协作已超时。" false "timed_out")
  else
    contextError.map fun error => .finished error false "failed"

/-- How `run` goes on after a failure. -/
def afterFailure : Failure → LoopEnd
  | .timedOut => .finished "Multi-Agent 协作已超时。" false "timed_out"
  | .cancelled => .failed .cancelled
  | .raised message => .failed (.raised message)

/-- `LLMUsage.add`. -/
def addUsage (left right : LLMUsage) : LLMUsage where
  inputTokens := left.inputTokens + right.inputTokens
  outputTokens := left.outputTokens + right.outputTokens
  totalTokens := left.totalTokens + right.totalTokens

/-- The list is sent to the model. -/
def LoopState.send (state : LoopState Args) : LoopState Args :=
  { state with requests := state.requests ++ [state.working] }

/-- The records and messages of the executed calls. -/
def addResults (config : LoopConfig Tool Args) (state : LoopState Args)
    (calls : List (ToolCall Args))
    (executed : List (ToolRecord Args × Bool)) : LoopState Args :=
  let results := calls.zip (executed.map Prod.fst)
  let toolMessages := results.map fun (call, record) =>
    toolResultMessage call record
  let attached := attachResults config state.working.length 0 results
    state.attachments (state.working ++ toolMessages)
  let persisted := (attached.2.2.zip (executed.map Prod.snd)).filter
    fun (_, persist) => config.persistToolCalls && persist
  { state with
    attachments := attached.1
    working := attached.2.1
    toolRecords := state.toolRecords ++ persisted.map Prod.fst }

/-- A round after the reply of the model. -/
def afterReply (config : LoopConfig Tool Args) (state : LoopState Args)
    (outcomes : RoundOutcomes Args) (response : LLMResponse Args) :
    LoopState Args × Option LoopEnd :=
  if response.toolCalls.isEmpty then
    if outcomes.stopAfterReply then
      (state, some (.finished response.content true "cancelled"))
    else if strip response.content = "" then
      (state, some (.failed (.raised "模型返回了空响应。")))
    else
      (state, some (.finished response.content false "completed"))
  else
    let calls :=
      response.toolCalls.take config.settings.maxToolCallsPerRound
    let asked :=
      { state with
        working := state.working ++ [assistantToolMessage config response.content calls
            response.reasoningContent] }
    if outcomes.stopAfterReply then
      (asked, some (.finished response.content true "cancelled"))
    else
      match executeParentCalls config outcomes 0 calls []
          asked.schemaVisible with
      | .error failure => (asked, some (afterFailure failure))
      | .ok (executed, visible) =>
        let added :=
          addResults config { asked with schemaVisible := visible } calls
            executed
        let controlled := applyTurnControl added outcomes.after
        if controlled.1 then
          (controlled.2, some (.finished response.content true "cancelled"))
        else
          (controlled.2, checkDelegation controlled.2 outcomes.expiredAfter
              outcomes.contextErrorAfter)

/-- One round of the loop; without an end the next round follows. -/
def round (config : LoopConfig Tool Args) (state : LoopState Args)
    (outcomes : RoundOutcomes Args) : LoopState Args × Option LoopEnd :=
  let controlled := applyTurnControl state outcomes.before
  if controlled.1 then
    (controlled.2, some (.finished "" true "cancelled"))
  else
    match checkDelegation controlled.2 outcomes.expiredBefore
        outcomes.contextErrorBefore with
    | some ended => (controlled.2, some ended)
    | none =>
      let sent := controlled.2.send
      match outcomes.completion with
      | .error failure => (sent, some (afterFailure failure))
      | .ok response =>
        afterReply config
          { sent with usage := addUsage sent.usage response.usage }
          outcomes response

/-- The final answer, after the last round. -/
def finalAnswer (state : LoopState Args) (outcomes : FinalOutcomes Args) :
    LoopState Args × LoopEnd :=
  let prompted :=
    { state with
      working := state.working ++ [.plain .system toolRoundLimitSummaryPrompt] }
  if prompted.schemaVisible.isSome ∧ outcomes.expired then
    (prompted, .finished "Multi-Agent 协作已超时。" false "timed_out")
  else
    let sent := prompted.send
    match outcomes.completion with
    | .error failure => (sent, afterFailure failure)
    | .ok summary =>
      let answered :=
        { sent with usage := addUsage sent.usage summary.usage }
      if outcomes.stopRequested then
        (answered, .finished "" true "cancelled")
      else
        let content := strip summary.content
        (answered, .finished
            (if isTruthy summary.protocolError ∨
                ¬ summary.toolCalls.isEmpty ∨ content = "" then
              toolRoundLimitFallback answered.toolRecords
            else content)
            false "completed")

/-- The rounds that are left, and the final answer. -/
def runRounds (config : LoopConfig Tool Args)
    (rounds : Nat → RoundOutcomes Args) (final : FinalOutcomes Args) :
    Nat → Nat → LoopState Args → LoopState Args × LoopEnd
  | 0, _, state => finalAnswer state final
  | left + 1, index, state =>
    match round config state (rounds index) with
    | (later, some ended) => (later, ended)
    | (later, none) =>
      runRounds config rounds final left (index + 1) later

/-- `AgentLoop.run`. -/
def run (config : LoopConfig Tool Args)
    (rounds : Nat → RoundOutcomes Args) (final : FinalOutcomes Args)
    (messages : List ChatMessage) (toolSchemaTokens : Int)
    (schemaVisible : Option Bool) : LoopState Args × LoopEnd :=
  runRounds config rounds final config.settings.maxToolRounds 0
    { working := messages
      toolRecords := []
      usage := { inputTokens := 0, outputTokens := 0, totalTokens := 0 }
      consumedGuidance := []
      attachments := { toolSchemaTokens := toolSchemaTokens }
      schemaVisible := schemaVisible
      requests := [] }

end Loop

end TurningGood.Runtime
