import Mathlib.Algebra.Ring.Int.Defs
import TurningGood.Runtime.ToolCallRunner

/-!
# Attachments of tool results

A tool may attach messages to its result, for the current turn only.
`AttachmentManager` checks their format and roles and keeps the budgets of
the turn.  Tokens are counted by a parameter.
-/

namespace TurningGood.Runtime

open TurningGood.Llm

/-- The role of a message that belongs to no tool call. -/
inductive Role where
  | system
  | user
  | assistant
deriving DecidableEq

/-- The text of a role. -/
def Role.text : Role → String
  | .system => "system"
  | .user => "user"
  | .assistant => "assistant"

/-- A tool call of an assistant message, with its arguments as text. -/
structure RequestedCall where
  id : String
  name : String
  arguments : String
deriving DecidableEq

/-- A message that is sent to the model. -/
inductive ChatMessage where
  | plain (role : Role) (content : String)
  /-- an assistant message with `tool_calls` -/
  | requests (content : String) (calls : List RequestedCall)
      (reasoningContent : Option String)
  | tool (toolCallId name content : String)
deriving DecidableEq

/-- `message.get("content", "")`. -/
def ChatMessage.content : ChatMessage → String
  | .plain _ content => content
  | .requests content _ _ => content
  | .tool _ _ content => content

/-! ## Settings and budgets -/

/-- The settings that the loop and the attachments read. -/
structure LoopSettings where
  maxToolRounds : Nat
  maxToolCallsPerRound : Nat
  maxContextTokens : Int
  mcpTokenLimit : Int
  maxLoadedSkillsPerTurn : Nat
  maxSkillTokens : Int
  maxLoadedSkillTokensPerTurn : Int

/-- `AttachmentManager`. -/
structure AttachmentManager where
  toolSchemaTokens : Int
  mcpTokens : Int := 0
  skillNames : List String := []
  skillTokens : Int := 0

/-- The role of an attached message, where it is allowed. -/
def attachedRole (allowSystem : Bool) (role : String) : Option Role :=
  if role = "user" then some .user
  else if role = "assistant" then some .assistant
  else if allowSystem ∧ role = "system" then some .system
  else none

/-- Only verified skills may attach system messages. -/
def ContextAttachment.allowsSystem (attachment : ContextAttachment) : Bool :=
  attachment.kind = "skill" && attachment.verified && Tools.startsWith attachment.source "skill:"

/-- The messages of an attachment, if all of them are allowed. -/
def attachedMessages (allowSystem : Bool) : List AttachmentMessage → Option (List ChatMessage)
  | [] => some []
  | message :: rest =>
    match attachedRole allowSystem message.role, message.content with
    | some role, some content =>
      (attachedMessages allowSystem rest).map fun more =>
        .plain role content :: more
    | _, _ => none

/-- `validate_context_attachment`: the messages, or the error. -/
def validateContextAttachment (countTokens : String → Int)
    (attachment : ContextAttachment) (usedTokens tokenLimit : Int) :
    Except String (List ChatMessage) :=
  if attachment.kind ≠ "mcp" ∧ attachment.kind ≠ "skill" then
    .error "本轮上下文附件类型无效"
  else if attachment.tokenCount < 0 then
    .error "本轮上下文附件格式无效"
  else
    match attachedMessages attachment.allowsSystem attachment.messages with
    | none => .error "本轮上下文附件只允许 user 或 assistant 文本消息"
    | some messages =>
      if (messages.map fun message => countTokens message.content).sum ≠
          attachment.tokenCount then
        .error "本轮上下文附件 token 计数不一致"
      else if usedTokens + attachment.tokenCount > tokenLimit then
        .error ("本轮上下文附件总量超过 " ++ toString tokenLimit ++ " tokens 限制")
      else
        .ok messages

namespace AttachmentManager

variable {Args : Type}

/-- `_validate_skill`. -/
def validateSkill (manager : AttachmentManager) (settings : LoopSettings)
    (record : ToolRecord Args) (attachment : ContextAttachment) :
    Option String :=
  match record.metadata with
  | none => some "Skill 附件缺少加载元数据"
  | some metadata =>
    match metadata.loadedSkillName with
    | none => some "Skill 附件来源无效"
    | some name =>
      if attachment.source ≠ "skill:" ++ name then
        some "Skill 附件来源无效"
      else
        match metadata.loadedSkillTokenCount with
        | none => some "Skill 附件 token 元数据无效"
        | some bodyTokens =>
          if bodyTokens < 0 then some "Skill 附件 token 元数据无效"
          else if manager.skillNames.length ≥
              settings.maxLoadedSkillsPerTurn then
            some ("本轮最多加载 " ++ toString settings.maxLoadedSkillsPerTurn ++ " 个 Skill")
          else if bodyTokens > settings.maxSkillTokens then
            some ("单个 Skill 超过 " ++ toString settings.maxSkillTokens ++ " tokens 限制")
          else if manager.skillTokens + bodyTokens >
              settings.maxLoadedSkillTokensPerTurn then
            some ("本轮已加载 Skill 总量超过 " ++ toString settings.maxLoadedSkillTokensPerTurn ++
                " tokens 限制")
          else none

/-- `_validate_context_budget`. -/
def validateContextBudget (manager : AttachmentManager)
    (settings : LoopSettings) (countTokens : String → Int)
    (attachment : ContextAttachment) (working : List ChatMessage) :
    Option String :=
  let messageTokens :=
    (working.map fun message => countTokens message.content).sum
  if messageTokens + manager.toolSchemaTokens + attachment.tokenCount >
      settings.maxContextTokens then
    some ("追加附件后上下文超过 " ++ toString settings.maxContextTokens ++ " tokens 限制")
  else
    none

/-- `check`: the messages to attach, or the error. -/
def check (manager : AttachmentManager) (settings : LoopSettings)
    (countTokens : String → Int) (attachment : Option Attachment)
    (record : ToolRecord Args) (working : List ChatMessage) :
    Except String (List ChatMessage) :=
  match attachment with
  | none => .ok []
  | some .malformed => .error "本轮上下文附件格式无效"
  | some (.context attachment) =>
    let isMcp := attachment.kind = "mcp"
    match validateContextAttachment countTokens attachment
        (if isMcp then manager.mcpTokens else 0)
        (if isMcp then settings.mcpTokenLimit
          else settings.maxContextTokens) with
    | .error error => .error error
    | .ok messages =>
      match (if attachment.kind = "skill" then
          manager.validateSkill settings record attachment
        else none) with
      | some error => .error error
      | none =>
        match manager.validateContextBudget settings countTokens
            attachment working with
        | some error => .error error
        | none => .ok messages

/-- The budgets after `commit`. -/
def commit (manager : AttachmentManager) (attachment : Option Attachment)
    (record : ToolRecord Args) : AttachmentManager :=
  match attachment with
  | some (.context attachment) =>
    if attachment.kind = "mcp" then
      { manager with
        mcpTokens := manager.mcpTokens + attachment.tokenCount }
    else
      let metadata := record.metadata
      { manager with
        skillNames := manager.skillNames ++ [(metadata.bind SkillMetadata.loadedSkillName).getD ""]
        skillTokens := manager.skillTokens +
          (metadata.bind SkillMetadata.loadedSkillTokenCount).getD 0 }
  | _ => manager

end AttachmentManager

end TurningGood.Runtime
