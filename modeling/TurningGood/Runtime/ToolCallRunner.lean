import TurningGood.Llm.OpenAICompatible
import TurningGood.Tools.ToolRegistry

/-!
# The runner of tool calls

`ToolCallRunner.execute_calls` takes the calls of a reply one after the
other.  Calls of parallel tools are collected and run together, the others
run alone after those before them.

What a call meets on its way (the answers of the hooks and of the user, the
security checks, the end of the tool) is its own list of outcomes.  The
calls that run at the same time, and everything else that happens meanwhile,
are seen through these outcomes only, and the semaphore of a batch only
delays its calls.
-/

namespace TurningGood.Runtime

open TurningGood.Llm
open TurningGood.Tools

/-! ## Tools and records -/

/-- A message of an attachment; a content that is no text is `none`. -/
structure AttachmentMessage where
  role : String
  content : Option String
deriving DecidableEq

/-- `ContextAttachment`. -/
structure ContextAttachment where
  source : String
  messages : List AttachmentMessage
  tokenCount : Int
  kind : String
  verified : Bool
deriving DecidableEq

/-- What a tool attaches to its result. -/
inductive Attachment where
  | context (attachment : ContextAttachment)
  /-- another object -/
  | malformed
deriving DecidableEq

/-- The metadata that `AttachmentManager` reads, where they have the type. -/
structure SkillMetadata where
  loadedSkillName : Option String
  loadedSkillTokenCount : Option Int
deriving DecidableEq

/-- The record of a call, without its duration. -/
structure ToolRecord (Args : Type) where
  toolName : String
  args : Args
  content : String
  error : Option String
  toolCallId : String := ""
  contextAttachment : Option Attachment := none
  metadata : Option SkillMetadata := none
deriving DecidableEq

/-- `ToolResult`. -/
structure ToolResult where
  content : String
  metadata : SkillMetadata
  contextAttachment : Option Attachment
deriving DecidableEq

/-- `if text:` for a text or `None`. -/
def isTruthy (text : Option String) : Bool := text.any (· ≠ "")

/-- What the runner reads of the tools and of their input schemas. -/
structure ToolInterface (Tool Args : Type) where
  name : Tool → String
  parallelSafe : Tool → Bool
  approvalRequired : Tool → Bool
  /-- `cast_args` and `validate_args`: an exception, or the errors -/
  normalize : Tool → Args → Except String (Args × List String)
  /-- every error has a text -/
  errors_nonempty : ∀ tool args normalized errors,
      normalize tool args = .ok (normalized, errors) → "" ∉ errors

/-! ## Hooks -/

/-- A registered hook. -/
inductive Hook (Tool : Type) where
  /-- `ToolPermissionHook` with its names and its registry -/
  | permission (approvalRequiredTools : List String)
      (tools : Option (ToolRegistry Tool))
  | other

/-- How the coroutine of a hook, or the approval it asks for, ends. -/
inductive HookOutcome where
  | returned (reason : Option String)
  | raised
deriving DecidableEq

/-- What the channel and the settings of a turn say. -/
structure RunContext where
  autoApproveTools : Bool
  /-- the channel has `request_tool_approval` -/
  supportsApproval : Bool
  allowedToolNames : Option (List String)

/-- How the body of `security.validate_tool_call` ends. -/
inductive ValidationOutcome where
  | verdict (error : Option String)
  /-- a `KeyError`, a `PermissionError`, an `OSError` or a `ValueError` -/
  | caught (message : String)
  /-- another exception -/
  | uncaught (message : String)
deriving DecidableEq

/-- What the security check of a call meets. -/
structure PrecheckOutcomes where
  /-- `worker_path_policy.validate`, for a tool with a policy -/
  policy : Option (Except String (Option String))
  validation : ValidationOutcome

/-- `security.validate_tool_call`. -/
def ValidationOutcome.validateToolCall : ValidationOutcome → Except String (Option String)
  | .verdict error => .ok error
  | .caught message => .ok (some message)
  | .uncaught message => .error message

/-- `ToolExecutor.precheck`. -/
def PrecheckOutcomes.check (outcomes : PrecheckOutcomes) :
    Except String (Option String) :=
  match outcomes.policy with
  | some (.error message) => .error message
  | some (.ok error) =>
    if isTruthy error then .ok error
    else outcomes.validation.validateToolCall
  | none => outcomes.validation.validateToolCall

/-- Everything that a call meets on its way. -/
structure CallOutcomes (Args : Type) where
  /-- `executor.precheck`, before the hooks -/
  precheck : PrecheckOutcomes
  /-- the outcome of `before_tool_call` of each hook, in their order -/
  beforeHooks : Nat → HookOutcome
  /-- `precheck` again, in `executor.run` -/
  recheck : PrecheckOutcomes
  toolRun : Except String ToolResult
  /-- the update of the record by each hook, unless it fails -/
  afterHooks : Nat → ToolRecord Args → Option (ToolRecord Args)

section Runner

variable {Tool Args : Type}

/-- `needs_approval` of a permission hook. -/
def needsApproval (interface : ToolInterface Tool Args) (approvalRequiredTools : List String)
    (tools : Option (ToolRegistry Tool)) (name : String) : Bool :=
  approvalRequiredTools.contains name ||
    ((tools.bind fun registry => registry.get? name).any interface.approvalRequired)

/-- The reason when a channel cannot ask. -/
def approvalUnsupported : String := "当前 Channel 不支持工具审批。"

/-- `before_tool_call` of a hook; `none` for an exception. -/
def Hook.beforeToolCall (interface : ToolInterface Tool Args)
    (context : RunContext) (name : String) (outcome : HookOutcome) :
    Hook Tool → Option (Option String)
  | .permission approvalRequiredTools tools =>
    if context.autoApproveTools then some none
    else if ¬ needsApproval interface approvalRequiredTools tools name then
      some none
    else if ¬ context.supportsApproval then some (some approvalUnsupported)
    else
      match outcome with
      | .returned reason => some reason
      | .raised => some (some approvalUnsupported)
  | .other =>
    match outcome with
    | .returned reason => some reason
    | .raised => none

/-- `run_before_tool_call`, from the hook at a position on. -/
def runBeforeToolCall (interface : ToolInterface Tool Args) (context : RunContext) (name : String)
    (outcomes : Nat → HookOutcome) :
    Nat → List (Hook Tool) → Option String
  | _, [] => none
  | position, hook :: rest =>
    match hook.beforeToolCall interface context name
        (outcomes position) with
    | some (some reason) =>
      if reason ≠ "" then some reason
      else
        runBeforeToolCall interface context name outcomes (position + 1) rest
    | some none | none =>
      runBeforeToolCall interface context name outcomes (position + 1) rest

/-- `run_after_tool_call`, from the hook at a position on. -/
def runAfterToolCall (updates : Nat → ToolRecord Args → Option (ToolRecord Args)) :
    Nat → List (Hook Tool) → ToolRecord Args → ToolRecord Args
  | _, [], record => record
  | position, _ :: rest, record =>
    runAfterToolCall updates (position + 1) rest ((updates position record).getD record)

/-! ## One call -/

/-- `PreparedToolCall`. -/
structure PreparedToolCall (Tool Args : Type) where
  call : ToolCall Args
  tool : Option Tool
  validationError : Option String
  blockedReason : Option String := none

/-- `tool_names`. -/
def sortedNames (tools : ToolRegistry Tool) : List String :=
  tools.tools.keys.mergeSort fun left right => decide (left ≤ right)

/-- `ToolRegistry.prepare_call`; the arguments of a call are an object. -/
def prepareRegistered (interface : ToolInterface Tool Args)
    (tools : ToolRegistry Tool) (name : String) (args : Args) :
    Except String (Option Tool × Args × Option String) :=
  match tools.get? name with
  | none =>
    .ok (none, args, some ("未知工具：" ++ name ++ "。可用工具：" ++ ", ".intercalate (sortedNames tools)))
  | some tool =>
    match interface.normalize tool args with
    | .error message => .error message
    | .ok (normalized, errors) =>
      .ok (some tool, normalized,
          if errors.isEmpty then none
          else some ("；".intercalate errors))

/-- `ToolCallRunner`. -/
structure ToolCallRunner (Tool Args : Type) where
  interface : ToolInterface Tool Args
  tools : ToolRegistry Tool
  hooks : List (Hook Tool)
  parallelToolCallsEnabled : Bool

namespace ToolCallRunner

variable (runner : ToolCallRunner Tool Args)

/-- `_prepare_call`. -/
def prepareCall (context : RunContext) (call : ToolCall Args) :
    Except String (PreparedToolCall Tool Args) :=
  if context.allowedToolNames.any fun names => !names.contains call.name then
    .ok
      { call := call
        tool := none
        validationError := none
        blockedReason := some "当前 Channel 不允许调用该工具" }
  else
    match prepareRegistered runner.interface runner.tools call.name
        call.args with
    | .error message => .error message
    | .ok (tool, args, validationError) =>
      .ok
        { call := { call with args := args }
          tool := tool
          validationError := validationError }

/-- `_is_parallel_safe`. -/
def isParallelSafe (prepared : PreparedToolCall Tool Args) : Bool :=
  runner.parallelToolCallsEnabled && prepared.validationError.isNone &&
    prepared.tool.any runner.interface.parallelSafe

/-- `_finalize`. -/
def finalize (outcomes : CallOutcomes Args) (call : ToolCall Args)
    (record : ToolRecord Args) : ToolRecord Args :=
  runAfterToolCall outcomes.afterHooks 0 runner.hooks
    { record with toolCallId := call.id }

/-- `_error_record`. -/
def errorRecord (call : ToolCall Args) (content error : String) : ToolRecord Args where
  toolName := call.name
  args := call.args
  content := content
  error := some error

/-- How the handling of a call has ended. -/
structure Handled (Args : Type) where
  /-- `tool.run` was called -/
  started : Bool
  result : Except String (ToolRecord Args)

/-- A call that is answered without its tool. -/
def refused (outcomes : CallOutcomes Args) (call : ToolCall Args)
    (content error : String) : Handled Args where
  started := false
  result := .ok (runner.finalize outcomes call (errorRecord call content error))

/-- `executor.run`: exceptions become records. -/
def executorRun (outcomes : CallOutcomes Args) (tool : Tool)
    (args : Args) : Bool × ToolRecord Args :=
  let name := runner.interface.name tool
  let failed (error : String) : ToolRecord Args :=
    { toolName := name
      args := args
      content := "工具 " ++ name ++ " 执行失败：" ++ error
      error := some error
      metadata := some { loadedSkillName := none, loadedSkillTokenCount := none } }
  match outcomes.recheck.check with
  | .error message => (false, failed message)
  | .ok securityError =>
    if isTruthy securityError then
      (false,
        { failed (securityError.getD "") with
          content := "工具 " ++ name ++ " 安全检查失败：" ++ securityError.getD "" })
    else
      match outcomes.toolRun with
      | .error message => (true, failed message)
      | .ok result =>
        (true,
          { toolName := name
            args := args
            content := result.content
            error := none
            contextAttachment := result.contextAttachment
            metadata := some result.metadata })

/-- `_execute_prepared`. -/
def executePrepared (context : RunContext) (prepared : PreparedToolCall Tool Args)
    (outcomes : CallOutcomes Args) : Handled Args :=
  let call := prepared.call
  if isTruthy prepared.blockedReason then
    let reason := prepared.blockedReason.getD ""
    runner.refused outcomes call ("工具 " ++ call.name ++ " 被当前 Channel 策略阻止：" ++ reason) reason
  else if isTruthy prepared.validationError then
    let error := prepared.validationError.getD ""
    runner.refused outcomes call ("工具 " ++ call.name ++ " 参数错误：" ++ error) error
  else
    match prepared.tool with
    | none => { started := false, result := .error "AssertionError" }
    | some tool =>
      match outcomes.precheck.check with
      | .error message => { started := false, result := .error message }
      | .ok securityError =>
        if isTruthy securityError then
          let error := securityError.getD ""
          runner.refused outcomes call ("工具 " ++ call.name ++ " 安全检查失败：" ++ error) error
        else
          match runBeforeToolCall runner.interface context call.name
              outcomes.beforeHooks 0 runner.hooks with
          | some reason =>
            runner.refused outcomes call ("工具 " ++ call.name ++ " 被 Hook 阻止：" ++ reason) reason
          | none =>
            let ran := runner.executorRun outcomes tool call.args
            { started := ran.1
              result := .ok (runner.finalize outcomes call ran.2) }

/-! ## All calls of a reply -/

/-- A call with its outcomes, and as it was prepared. -/
structure Slot (Tool Args : Type) where
  call : ToolCall Args
  outcomes : CallOutcomes Args
  prepared : PreparedToolCall Tool Args

/-- The tools that were started, and the records or an exception. -/
structure CallsRun (Tool Args : Type) where
  started : List (Slot Tool Args)
  result : Except String (List (ToolRecord Args))

/-- One part of a run after another, unless the first one raises. -/
def CallsRun.andThen (first second : CallsRun Tool Args) :
    CallsRun Tool Args :=
  match first.result with
  | .error message => { started := first.started, result := .error message }
  | .ok records =>
    { started := first.started ++ second.started
      result := second.result.map fun more => records ++ more }

/-- The results of `asyncio.gather`, or an exception. -/
def gather : List (Except String (ToolRecord Args)) → Except String (List (ToolRecord Args))
  | [] => .ok []
  | .error message :: _ => .error message
  | .ok record :: rest => (gather rest).map fun more => record :: more

/--
`_execute_parallel_batch`, or the handling of one call.  The other calls of
a batch go on when one raises.
-/
def runSlots (context : RunContext) (slots : List (Slot Tool Args)) : CallsRun Tool Args where
  started := slots.filter fun slot =>
    (runner.executePrepared context slot.prepared slot.outcomes).started
  result := gather (slots.map fun slot =>
    (runner.executePrepared context slot.prepared slot.outcomes).result)

/-- The loop of `execute_calls`, with the calls that wait for their batch. -/
def executeCallsFrom (context : RunContext) (parallelBatch : List (Slot Tool Args)) :
    List (ToolCall Args × CallOutcomes Args) → CallsRun Tool Args
  | [] => runner.runSlots context parallelBatch
  | (call, outcomes) :: rest =>
    match runner.prepareCall context call with
    | .error message => { started := [], result := .error message }
    | .ok prepared =>
      let slot : Slot Tool Args :=
        { call := call, outcomes := outcomes, prepared := prepared }
      if runner.isParallelSafe prepared then
        executeCallsFrom context (parallelBatch ++ [slot]) rest
      else
        ((runner.runSlots context parallelBatch).andThen (runner.runSlots context [slot])).andThen
          (executeCallsFrom context [] rest)

/-- `execute_calls`. -/
def executeCalls (context : RunContext) (calls : List (ToolCall Args × CallOutcomes Args)) :
    CallsRun Tool Args :=
  runner.executeCallsFrom context [] calls

end ToolCallRunner

end Runner

end TurningGood.Runtime
