import TurningGood.Browser.AnswerReplay
import TurningGood.Browser.LoadedHistory
import TurningGood.Browser.MultiAgentView
import TurningGood.Browser.RebuiltRunView
import TurningGood.Browser.RunViewAgreement
import TurningGood.Browser.RunViewFeed
import TurningGood.Browser.SessionState
import TurningGood.Browser.ShownAnswer
import TurningGood.Browser.SocketClient
import TurningGood.Channels.Feishu
import TurningGood.Channels.FeishuConnection
import TurningGood.Channels.FeishuSupervision
import TurningGood.Channels.ImCoordinator
import TurningGood.Channels.InboundOnce
import TurningGood.Channels.Registry
import TurningGood.Channels.RegistryInvariant
import TurningGood.Channels.RegistryOperations
import TurningGood.Channels.RegistryProgress
import TurningGood.Channels.RegistryRuns
import TurningGood.Channels.RegistryStages
import TurningGood.Channels.WeixinBinding
import TurningGood.Channels.WeixinChanges
import TurningGood.Channels.WeixinChunks
import TurningGood.Channels.WeixinEdits
import TurningGood.Channels.WeixinEpochs
import TurningGood.Channels.WeixinEvents
import TurningGood.Channels.WeixinPolling
import TurningGood.Channels.WeixinSenders
import TurningGood.Channels.WeixinTransport
import TurningGood.Foundation.ClosedTrace
import TurningGood.Foundation.CursorPages
import TurningGood.Foundation.Dict
import TurningGood.Foundation.DictTotal
import TurningGood.Foundation.DictViews
import TurningGood.Foundation.Fallible
import TurningGood.Foundation.FifoService
import TurningGood.Foundation.GreedySplits
import TurningGood.Foundation.Histories
import TurningGood.Foundation.Json
import TurningGood.Foundation.JsonAppend
import TurningGood.Foundation.JsonFields
import TurningGood.Foundation.JsonLines
import TurningGood.Foundation.JsonRoundTrip
import TurningGood.Foundation.KeyedFold
import TurningGood.Foundation.LongestSuffix
import TurningGood.Foundation.Machine
import TurningGood.Foundation.Modify
import TurningGood.Foundation.NumberedLog
import TurningGood.Foundation.PairedLists
import TurningGood.Foundation.Positions
import TurningGood.Foundation.PrefixCodes
import TurningGood.Foundation.Rounding
import TurningGood.Foundation.RunningTotals
import TurningGood.Foundation.Search
import TurningGood.Foundation.Text
import TurningGood.Foundation.TextLines
import TurningGood.Foundation.TwoRuns
import TurningGood.Foundation.Utf8
import TurningGood.Foundation.WaitingLines
import TurningGood.Foundation.WholeFiles
import TurningGood.Gateway.ChannelFrame
import TurningGood.Gateway.HostReload
import TurningGood.Gateway.LiveGateway
import TurningGood.Gateway.RouteBlocks
import TurningGood.Gateway.RouteOrder
import TurningGood.Gateway.RuntimeLifetime
import TurningGood.Gateway.RuntimeSupervisor
import TurningGood.Gateway.SessionIds
import TurningGood.Gateway.SlotAccounting
import TurningGood.Gateway.StoppedApprovals
import TurningGood.Gateway.TurnControl
import TurningGood.Gateway.Turns
import TurningGood.Llm.OpenAICompatible
import TurningGood.Mcp.Manager
import TurningGood.Mcp.RequestCompletion
import TurningGood.Mcp.ResourceTruncation
import TurningGood.Mcp.ServerWorker
import TurningGood.Memory.ProfileFiles
import TurningGood.Memory.ProfileWrites
import TurningGood.Memory.ShortTerm
import TurningGood.MultiAgent.CrewExecutions
import TurningGood.MultiAgent.DelegatedRun
import TurningGood.MultiAgent.DelegationLifecycle
import TurningGood.MultiAgent.Events
import TurningGood.MultiAgent.InterruptedRuns
import TurningGood.MultiAgent.ParentCancellation
import TurningGood.MultiAgent.PersistedProjection
import TurningGood.MultiAgent.ReportedRun
import TurningGood.MultiAgent.RunViews
import TurningGood.MultiAgent.StrategyCalls
import TurningGood.MultiAgent.StrategyInvariant
import TurningGood.MultiAgent.StrategyResults
import TurningGood.MultiAgent.StrategyRuns
import TurningGood.MultiAgent.UnknownRun
import TurningGood.MultiAgent.WorkerCrew
import TurningGood.MultiAgent.WorkerExecution
import TurningGood.MultiAgent.WorkerFleet
import TurningGood.MultiAgent.WorkerSlots
import TurningGood.Observability.TokenLedger
import TurningGood.Proactive.BreakbeatItems
import TurningGood.Proactive.CronCrashes
import TurningGood.Proactive.CronDelays
import TurningGood.Proactive.CronJobMoves
import TurningGood.Proactive.CronManager
import TurningGood.Proactive.CronMeaning
import TurningGood.Proactive.CronMissedFirings
import TurningGood.Proactive.CronOneShot
import TurningGood.Proactive.CronOwnership
import TurningGood.Proactive.CronRebuild
import TurningGood.Proactive.CronRestart
import TurningGood.Proactive.CronRunDue
import TurningGood.Proactive.CronSnapshot
import TurningGood.Proactive.IncidentHistory
import TurningGood.Proactive.IncidentMonitor
import TurningGood.Proactive.ProactiveService
import TurningGood.Proactive.ReviewCoverage
import TurningGood.Proactive.ReviewCursor
import TurningGood.Proactive.ReviewIsolation
import TurningGood.Proactive.ReviewSaves
import TurningGood.Proactive.ReviewSchedule
import TurningGood.Proactive.ReviewSelection
import TurningGood.Proactive.ReviewState
import TurningGood.Proactive.ReviewWindow
import TurningGood.Proactive.Scheduler
import TurningGood.Proactive.SchedulerPace
import TurningGood.Proactive.SkillBoundaries
import TurningGood.Proactive.SkillEvidence
import TurningGood.Proactive.SkillEvolution
import TurningGood.Runtime.AgentLoop
import TurningGood.Runtime.AttachmentBudgets
import TurningGood.Runtime.AttachmentManager
import TurningGood.Runtime.CompactionInterleaving
import TurningGood.Runtime.CompactionPartition
import TurningGood.Runtime.MessagePairing
import TurningGood.Runtime.PrincipalContext
import TurningGood.Runtime.PrincipalIsolation
import TurningGood.Runtime.SessionTurns
import TurningGood.Runtime.ToolCallRunner
import TurningGood.Runtime.ToolGate
import TurningGood.Sessions.FailedWrites
import TurningGood.Sessions.Message
import TurningGood.Sessions.RunRecovery
import TurningGood.Sessions.SessionFiles
import TurningGood.Sessions.SharedStore
import TurningGood.Sessions.StoreOperations
import TurningGood.Sessions.StoreWrites
import TurningGood.Sessions.StoredRows
import TurningGood.Sessions.StoredSession
import TurningGood.Skills.DraftRoundTrip
import TurningGood.Skills.SkillDraft
import TurningGood.Tools.ArgumentCasts
import TurningGood.Tools.ArgumentSchemas
import TurningGood.Tools.ExecMoves
import TurningGood.Tools.ExecSessions
import TurningGood.Tools.ExecSlots
import TurningGood.Tools.ToolRegistry
import TurningGood.Web.AttachmentSends
import TurningGood.Web.Attachments
import TurningGood.Web.EventHub
import TurningGood.Web.Guidance
import TurningGood.Web.ToolCallPages
import TurningGood.Web.TurnCalls
import TurningGood.Web.TurnDeliveries
import TurningGood.Web.TurnEvents
import TurningGood.Web.TurnProtocol
import TurningGood.Web.TurnRuns
import TurningGood.Web.TurnSends
