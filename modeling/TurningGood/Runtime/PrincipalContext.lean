import Mathlib.Algebra.Ring.Int.Defs
import Mathlib.Data.List.DropRight
import TurningGood.Sessions.StoreOperations

/-!
# The sessions of a principal

The manager answers slash commands and passes the other calls on to the
store.  A principal gets a reader, which checks that a session belongs to the
principal before it passes a call on.  The calls check this in different
ways: most refuse a missing session like one of another principal, while a
session may be missing when it is created and when a command is handled.
-/

namespace TurningGood.Runtime

open TurningGood.Foundation TurningGood.Foundation.Action
open TurningGood.Sessions.JsonlStore

/-- The store, and `auto_approve_tools` if the manager has settings. -/
structure ManagerState where
  files : SessionFiles
  autoApprove : Option Bool

/-- A call of the manager. -/
abbrev ManagerAction := Action ManagerState Failure

/-- A call of the store as a call of the manager. -/
def onFiles {Value : Type} (action : StoreAction Value) :
    ManagerAction Value :=
  ExceptT.mk fun state =>
    ((perform action state.files).1,
      { state with files := (perform action state.files).2 })

variable (conversions : Conversions) (formats : Formats)

/-! ## `SessionManager` -/

namespace SessionManager

/-- `load_or_create`. -/
def loadOrCreate (route : ChannelRoute) (now : Moment conversions) :
    StoreAction (StoredSession conversions) := do
  match ← load conversions route.sessionId with
  | some session =>
    if session.principalId = route.principalId ∧
        session.channel = route.channel ∧
        session.conversationId = route.conversationId then
      return session
    else throw (.value "existing session route 不一致")
  | none =>
    let recorded ← reading fun files =>
      hasSessionRecord route.sessionId files.values
    if recorded then throw (.value "existing session 缺少有效 route")
    else createSession conversions route now

/-- `COMMANDS`. -/
def commands : List (String × String) := [("/history", "查看当前会话的完整历史消息"),
    ("/context", "查看当前会注入模型的会话上下文"),
    ("/tools", "查看当前会话的工具调用记录"),
    ("/approve", "查看或设置全局工具自动审批"),
    ("/clear", "清空当前会话的消息和摘要"),
    ("/new", "开始一个新会话，CLI 会切换到新的 session"),
    ("/exit", "退出当前 CLI 会话")]

/-- `"\n".join(lines)`. -/
def joinLines (lines : List CodePoints) : CodePoints := List.intercalate (literal "\n") lines

/-- `command_help`. -/
def commandHelp : CodePoints := joinLines (commands.map fun command =>
    literal command.1 ++ literal "：" ++ literal command.2)

/-- A message, as the views show it. -/
structure ShownMessage where
  role : CodePoints
  content : CodePoints
  tokenCount : Int

/-- A message of the full history. -/
def shownMessage (message : LoadedMessage) : ShownMessage where
  role := formats.shown message.role
  content := message.content
  tokenCount := message.tokenCount

variable {conversions} in
/-- A message of the window, whose tokens are counted when it is read. -/
def shownItem (item : HistoryItem conversions) : ShownMessage where
  role := item.role
  content := item.content
  tokenCount := (countContentTokens conversions item.content).get item.counted

/-- `f"{item.role}: {item.content}"`. -/
def messageLine (message : ShownMessage) : CodePoints :=
  message.role ++ literal ": " ++ message.content

/-- The answer to `/history`. -/
def historyView (messages : List LoadedMessage) : CodePoints :=
  if messages.isEmpty then literal "暂无历史消息。"
  else joinLines (messages.map fun message =>
    messageLine (shownMessage formats message))

/-- The history that `build_session_context` chooses. -/
def contextHistory (session : StoredSession conversions)
    (messages : List LoadedMessage) : List ShownMessage :=
  if session.uncompactedHistory ≠ [] ∨ session.summary ≠ [] then
    session.uncompactedHistory.map shownItem
  else messages.map (shownMessage formats)

/-- The lines of `context_view`. -/
def contextLines (session : StoredSession conversions)
    (messages : List LoadedMessage) : List CodePoints :=
  let history := contextHistory conversions formats session messages
  [literal "会话摘要：" ++
      (if session.summary = [] then literal "无" else session.summary),
    literal "完整历史消息数：" ++ formats.count messages.length,
    literal "未压缩历史消息数：" ++ formats.count history.length,
    literal "未压缩历史token数：" ++ formats.count (history.map ShownMessage.tokenCount).sum] ++
  if history.isEmpty then []
  else literal "未压缩历史：" :: history.map messageLine

/-- `context_view`. -/
def contextView (sessionId : CodePoints) : StoreAction CodePoints := do
  match ← load conversions sessionId with
  | none => return literal "当前会话暂无上下文。"
  | some session =>
    let messages ← readAllMessages conversions sessionId
    return joinLines (contextLines conversions formats session messages)

/-- The lines of a tool call. -/
def toolLines (item : LoadedToolCall) : List CodePoints :=
  [formats.shown item.createdAt ++ literal " turn=" ++
      formats.shown item.turnId ++ literal " tool=" ++
      formats.shown item.toolName ++ literal " tool_call_id=" ++
      formats.shown item.toolCallId,
    literal "args: " ++ formats.shown item.args,
    literal "result: " ++ formats.shown item.content,
    literal "error: " ++
      (if formats.truth item.error then formats.shown item.error
        else literal "无"),
    literal "duration_ms: " ++ item.duration]

/-- `tools_view`. -/
def toolsView (sessionId : CodePoints) : StoreAction CodePoints := do
  let records ← allToolCalls conversions formats sessionId
  if records.isEmpty then return literal "暂无工具调用记录。"
  else return joinLines (records.flatMap (toolLines formats))

/-- `auto_approve_status`. -/
def autoApproveStatus (autoApprove : Option Bool) : CodePoints := literal "全局工具自动审批：" ++
    (if autoApprove = some true then literal "已开启" else literal "已关闭") ++
    literal "。"

/-- `update_auto_approve_tools`, if the manager has settings. -/
def updateAutoApprove (enabled : Bool) : ManagerAction Unit := modify fun state =>
    { state with autoApprove := state.autoApprove.map fun _ => enabled }

/-- `text.strip()`. -/
def strip (text : CodePoints) : CodePoints := (text.dropWhile isSpacePoint).rdropWhile isSpacePoint

/-- `/approve`, with and without an argument. -/
def handleApprove (command : CodePoints) : ManagerAction CodePoints :=
  if command = literal "/approve" then
    reading fun state => .ok (autoApproveStatus state.autoApprove)
  else if command = literal "/approve on" then do
    updateAutoApprove true
    return literal "已开启全局工具自动审批。\n审批类工具将不再逐次确认；安全检查仍然生效。"
  else if command = literal "/approve off" then do
    updateAutoApprove false
    return literal "已关闭全局工具自动审批。\n审批类工具将恢复逐次确认。"
  else return literal "用法：/approve [on|off]"

/-- The answer to a command, which begins with a slash. -/
def answerCommand (sessionId command : CodePoints) :
    ManagerAction CodePoints :=
  if command = literal "/history" then onFiles do
    let records ← readAllMessages conversions sessionId
    return historyView formats records
  else if command = literal "/context" then
    onFiles (contextView conversions formats sessionId)
  else if command = literal "/tools" then
    onFiles (toolsView conversions formats sessionId)
  else if (literal "/approve").isPrefixOf command then handleApprove command
  else if command = literal "/clear" then onFiles do
    clearSession conversions sessionId
    return literal "当前会话已清空。"
  else if command = literal "/new" then return literal "已开始新会话。"
  else if command = literal "/exit" then return literal "再见。"
  else return literal "未知命令：" ++ command ++ literal "\n可用命令：\n" ++ commandHelp

/-- `handle_inbound_command`; other messages get no answer. -/
def handleInboundCommand (sessionId content : CodePoints) :
    ManagerAction (Option CodePoints) :=
  if (literal "/").isPrefixOf (strip content) then do
    let answer ← answerCommand conversions formats sessionId (strip content)
    return some answer
  else return none

end SessionManager

/-! ## `PrincipalSessionReader` -/

/-- `PrincipalSessionReader`. -/
structure PrincipalSessionReader where
  principalId : CodePoints
  allowGlobalApproval : Bool
  named : principalId ≠ []

/-- What an operation returns. -/
inductive Reply where
  | nothing
  | session (session : Option (StoredSession conversions))
  | sessions (sessions : List (StoredSession conversions))
  | messages (messages : List LoadedMessage)
  | saved (record : StoredMessage conversions)
  | answer (text : Option CodePoints)
  | runs (views : List (MultiAgent.RunView × UsageSummary))
  | number (value : Int)

/-- A call of the reader. -/
inductive Operation where
  | listSessions
  | allMessages (sessionId : CodePoints)
  | loadOrCreate (route : ChannelRoute) (now : Moment conversions)
  | handleInboundCommand (sessionId : CodePoints) (route : ChannelRoute)
      (content : CodePoints)
  | handleCommand (session : StoredSession conversions)
      (route : ChannelRoute) (content : CodePoints)
  | recentMessages (sessionId : CodePoints) (limit : Int)
  | updateSessionMetadata (sessionId : CodePoints)
      (title : Option CodePoints) (pinned archived : Option Bool)
      (now : Moment conversions)
  | cleanupExpiredSessions (retentionDays : Int)
      (beforeDeadline : CodePoints → Bool)
  | updateSummary (sessionId summary : CodePoints) (now : Moment conversions)
  | updateUncompactedHistory (sessionId : CodePoints)
      (history : List (HistoryItem conversions)) (now : Moment conversions)
  | saveMessage (sessionId : CodePoints) (record : StoredMessage conversions)
      (now : Moment conversions)
  | saveToolCalls (sessionId : CodePoints) (records : List ToolCallRecord)
  | saveTrueTokenUsage (turnId sessionId : CodePoints)
      (usage : UsageArguments)
  | readMultiAgentRuns (sessionId : CodePoints) (limit : Int)
  | saveTurnTraces (traces : List (CodePoints × StateTrace))
  | lastTotalTokens (sessionId : CodePoints)

namespace PrincipalSessionReader

variable (reader : PrincipalSessionReader)

/-- `_validate_route`. -/
def validateRoute (route : ChannelRoute) : ManagerAction Unit :=
  if route.principalId ≠ reader.principalId then
    throw (.permission "route 不属于当前主体")
  else pure ()

/-- The session, if it belongs to the principal; otherwise the text. -/
def owned (refusal : String) (sessionId : CodePoints) :
    StoreAction (StoredSession conversions) := do
  match ← load conversions sessionId with
  | some session =>
    if session.principalId = reader.principalId then return session
    else throw (.permission refusal)
  | none => throw (.permission refusal)

/-- `_require_session`. -/
def requireSession (sessionId : CodePoints) :
    StoreAction (StoredSession conversions) :=
  reader.owned conversions "不能访问其它主体的 session" sessionId

/-- A call of the store behind `_require_session`. -/
def behind {Value : Type} (sessionId : CodePoints)
    (action : StoreAction Value) : StoreAction Value := do
  let _ ← reader.requireSession conversions sessionId
  action

/-- `_require_session` for the sessions of all traces. -/
def requireAll : List (CodePoints × StateTrace) → StoreAction Unit
  | [] => pure ()
  | trace :: rest => do
    let _ ← reader.requireSession conversions trace.1
    requireAll rest

/-- `save_turn_traces`. -/
def saveTurnTraces (traces : List (CodePoints × StateTrace)) :
    StoreAction Unit := do
  reader.requireAll conversions traces
  Sessions.JsonlStore.saveTurnTraces conversions traces

/-- `all_messages`, with a refusal of its own. -/
def allMessages (sessionId : CodePoints) :
    StoreAction (List LoadedMessage) := do
  let _ ← reader.owned conversions "不能读取其它主体的 session" sessionId
  readAllMessages conversions sessionId

/-- `handle_inbound_command`; a missing session is not refused. -/
def handleInboundCommand (sessionId : CodePoints) (route : ChannelRoute)
    (content : CodePoints) : ManagerAction (Option CodePoints) := do
  reader.validateRoute route
  if !reader.allowGlobalApproval ∧
      (literal "/approve").isPrefixOf (SessionManager.strip content) then
    throw (.permission "非 Owner 不能修改全局工具自动审批")
  else do
    let session ← onFiles (load conversions sessionId)
    if session.any fun session => session.principalId ≠ reader.principalId then
      throw (.permission "不能操作其它主体的 session")
    else
      SessionManager.handleInboundCommand conversions formats sessionId content

/-- `handle_command`, which checks the session that it is given. -/
def handleCommand (session : StoredSession conversions)
    (route : ChannelRoute) (content : CodePoints) :
    ManagerAction (Option CodePoints) :=
  if session.principalId ≠ reader.principalId then
    throw (.permission "不能操作其它主体的 session")
  else do
    reader.validateRoute route
    SessionManager.handleInboundCommand conversions formats session.id content

/-- `load_or_create`. -/
def loadOrCreate (route : ChannelRoute) (now : Moment conversions) :
    ManagerAction (StoredSession conversions) := do
  reader.validateRoute route
  onFiles (SessionManager.loadOrCreate conversions route now)

/-- An operation of the reader. -/
def operate : Operation conversions → ManagerAction (Reply conversions)
  | .listSessions => onFiles do
      return .sessions (← listSessions conversions reader.principalId)
  | .allMessages sessionId => onFiles do
      return .messages (← reader.allMessages conversions sessionId)
  | .loadOrCreate route now => do
    return .session (some (← reader.loadOrCreate conversions route now))
  | .handleInboundCommand sessionId route content => do
    return .answer (← reader.handleInboundCommand conversions formats
      sessionId route content)
  | .handleCommand session route content => do
    return .answer (← reader.handleCommand conversions formats session route
      content)
  | .recentMessages sessionId limit => onFiles do
      return .messages (← reader.behind conversions sessionId
        (recentMessages conversions sessionId limit))
  | .updateSessionMetadata sessionId title pinned archived now => onFiles do
      return .session (← reader.behind conversions sessionId
        (updateSessionMetadata conversions sessionId title pinned archived
          now))
  | .cleanupExpiredSessions retentionDays beforeDeadline => onFiles do
      return .number (← cleanupExpiredSessions conversions retentionDays
        beforeDeadline)
  | .updateSummary sessionId summary now => onFiles do
      reader.behind conversions sessionId
        (updateSummary conversions sessionId summary now)
      return .nothing
  | .updateUncompactedHistory sessionId history now => onFiles do
      reader.behind conversions sessionId
        (updateUncompactedHistory conversions sessionId history now)
      return .nothing
  | .saveMessage sessionId record now => onFiles do
      return .saved (← reader.behind conversions sessionId
        (saveMessage conversions sessionId record now))
  | .saveToolCalls sessionId records => onFiles do
      reader.behind conversions sessionId
        (saveToolCalls conversions sessionId records)
      return .nothing
  | .saveTrueTokenUsage turnId sessionId usage => onFiles do
      reader.behind conversions sessionId
        (saveTrueTokenUsage conversions formats turnId sessionId usage)
      return .nothing
  | .readMultiAgentRuns sessionId limit => onFiles do
      return .runs (← reader.behind conversions sessionId
        (readRuns conversions sessionId limit))
  | .saveTurnTraces traces => onFiles do
      reader.saveTurnTraces conversions traces
      return .nothing
  | .lastTotalTokens sessionId => onFiles do
      return .number (← reader.behind conversions sessionId
        (lastTotalTokens conversions sessionId))

end PrincipalSessionReader

end TurningGood.Runtime
