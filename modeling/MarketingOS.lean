import MarketingOS.Base.Machine
import MarketingOS.Base.Transaction
import MarketingOS.Base.ClaimOnce
import MarketingOS.Base.ReceiptOnce
import MarketingOS.Base.Table
import MarketingOS.Base.Dict
import MarketingOS.Base.Upsert
import MarketingOS.Base.Regex
import MarketingOS.Base.StableSort
import MarketingOS.Base.SlidingWindow
import MarketingOS.Base.EpochTokens
import MarketingOS.Base.GrantLedger
import MarketingOS.Base.Digits
import MarketingOS.Base.Json
import MarketingOS.Core.Environment
import MarketingOS.Core.Exceptions
import MarketingOS.Core.Text
import MarketingOS.Core.RateLimit
import MarketingOS.Models.Values
import MarketingOS.Models.Enums
import MarketingOS.Models.Rows
import MarketingOS.Models.RowWrites
import MarketingOS.Models.PlatformInsight
import MarketingOS.Models.Intelligence
import MarketingOS.Models.Integration
import MarketingOS.Models.ReportEmailLog
import MarketingOS.Models.AutoPlanGenerationLog
import MarketingOS.Models.Dashboard
import MarketingOS.Repositories.PlatformInsight
import MarketingOS.Schemas.Common
import MarketingOS.Schemas.Plan
import MarketingOS.Schemas.Client
import MarketingOS.Utils.DownloadLink
import MarketingOS.Services.Audit
import MarketingOS.Services.PlatformInsight
import MarketingOS.Services.Integration
import MarketingOS.Services.ReportEmail
import MarketingOS.Services.ClientRollup
import MarketingOS.Services.Upload
import MarketingOS.Services.Intelligence.Ingestion
import MarketingOS.Services.Intelligence.History
import MarketingOS.Services.Intelligence.Directives
import MarketingOS.Services.Intelligence.Reconcile
import MarketingOS.Services.Intelligence.Orchestrator
import MarketingOS.Services.Intelligence.Extraction
import MarketingOS.Services.Intelligence.Service
import MarketingOS.Services.Intelligence.Context
import MarketingOS.Services.Dashboard
import MarketingOS.Services.JobQueue
import MarketingOS.Services.BuildPipeline
import MarketingOS.Services.Plan
import MarketingOS.Services.PlanGeneration
import MarketingOS.Services.Calendar
import MarketingOS.Services.Scheduler
import MarketingOS.Services.Client
import MarketingOS.Services.Proposal.Execution
import MarketingOS.Services.Proposal.Staging
import MarketingOS.Services.Proposal.Lifecycle
import MarketingOS.Services.Proposal.Race
import MarketingOS.Verif.OperationFrames
import MarketingOS.Verif.Approval
import MarketingOS.Verif.Terminal
import MarketingOS.Verif.DryRun
import MarketingOS.Verif.ProposalRace
import MarketingOS.Verif.ProposalLifecycle
import MarketingOS.Verif.Staleness
import MarketingOS.Verif.ApprovalRun
import MarketingOS.Verif.PlanRanges
import MarketingOS.Verif.JobQueueSafety
import MarketingOS.Verif.BuildOwnership
import MarketingOS.Verif.NoLostChange
import MarketingOS.Verif.BulkUpserts
import MarketingOS.Verif.Dismissal
import MarketingOS.Verif.IntegrationRetry
import MarketingOS.Verif.ReportDelivery
import MarketingOS.Verif.IncrementalBuild
import MarketingOS.Verif.Reconciliation
import MarketingOS.Verif.CapabilityFlags
import MarketingOS.Verif.ProfileVersions
import MarketingOS.Verif.StoredFlags
import MarketingOS.Verif.ReviewGate
import MarketingOS.Verif.CapabilityNet
import MarketingOS.Verif.MonthlyDrafts
import MarketingOS.Verif.MemoryRateLimit
import MarketingOS.Verif.SharedRateLimit
import MarketingOS.Verif.RateLimit
import MarketingOS.Verif.ClientRollups
import MarketingOS.Verif.DashboardCache
import MarketingOS.Verif.WithdrawnRules
import MarketingOS.Verif.DownloadLinks
import MarketingOS.Verif.ApproverRecord
import MarketingOS.Ai.Handlers
import MarketingOS.Models.RowConstraints
import MarketingOS.Verif.StagedWrites
import MarketingOS.Verif.EarlierCalls
import MarketingOS.Verif.FreshProposal
import MarketingOS.Verif.ClientIsolation
import MarketingOS.Base.Redaction
import MarketingOS.Core.Middleware
import MarketingOS.Verif.AuditRedaction
import MarketingOS.Base.Base64
import MarketingOS.Base.Fields
import MarketingOS.Services.OAuthState
import MarketingOS.Verif.OAuthStates
import MarketingOS.Verif.ApproverDiff
import MarketingOS.Repositories.Plan
import MarketingOS.Ai.Scope
import MarketingOS.Verif.TaskScope
import MarketingOS.Core.Security
import MarketingOS.Services.Auth
import MarketingOS.Verif.Sessions
import MarketingOS.Ai.CommandAgent
import MarketingOS.Verif.StreamedTurn
import MarketingOS.Services.PlanDraft
import MarketingOS.Verif.PlanDrafts
import MarketingOS.Verif.Coalescing
import MarketingOS.Verif.BodyReplay
import MarketingOS.Verif.OpposingRules
import MarketingOS.Services.Intelligence.Chunking
import MarketingOS.Verif.ChunkWindows
import MarketingOS.Utils.Web
import MarketingOS.Verif.PinnedRequests
import MarketingOS.Base.Grouping
import MarketingOS.Integrations.OpenRouter
import MarketingOS.Verif.StreamedCalls
import MarketingOS.Services.Alert
import MarketingOS.Verif.AlertReconcile
import MarketingOS.Models.Days
import MarketingOS.Ai.Parsers
import MarketingOS.Ai.PlanGeneration
import MarketingOS.Verif.UsablePlans
import MarketingOS.Services.PlanLinks
import MarketingOS.Verif.AcceptedPatches
import MarketingOS.Verif.LinkOrder
import MarketingOS.Verif.UrgentRequests
import MarketingOS.Base.Pattern
import MarketingOS.Base.Traverse
import MarketingOS.Utils.Page
import MarketingOS.Verif.PageParsing
import MarketingOS.Integrations.Answers
import MarketingOS.Integrations.Meta
import MarketingOS.Verif.CompletePulls
import MarketingOS.Integrations.GoogleAds
import MarketingOS.Verif.HonestLeads
import MarketingOS.Services.UploadStorage
import MarketingOS.Verif.StoredObjects
import MarketingOS.Services.DemoData
import MarketingOS.Verif.DemoSeeding
import MarketingOS.Base.Csv
import MarketingOS.Services.AnalyticsImport
import MarketingOS.Verif.CsvImports
import MarketingOS.Base.Pull
import MarketingOS.Integrations.Requests
import MarketingOS.Integrations.DailyPulls
import MarketingOS.Services.ProviderSync
import MarketingOS.Verif.PullFailures
import MarketingOS.Verif.FailureClasses
import MarketingOS.Ai.ToolArguments
import MarketingOS.Ai.ToolHandlers
import MarketingOS.Verif.CorpusCap
import MarketingOS.Verif.SignedLinks
import MarketingOS.Base.Backlog
import MarketingOS.Services.NotificationEmail
import MarketingOS.Verif.DigestBacklog
import MarketingOS.Services.DeliveryIssues
import MarketingOS.Verif.OpenIssues
import MarketingOS.Verif.RecommendationKeys
import MarketingOS.Verif.ToolEscapes
import MarketingOS.Verif.MalformedCalls
import MarketingOS.Utils.Slug
import MarketingOS.Schemas.Onboarding
import MarketingOS.Ai.BrandExtraction
import MarketingOS.Services.Onboarding
import MarketingOS.Services.ClientDiscovery
import MarketingOS.Verif.FoundFields
import MarketingOS.Verif.AutoFill
import MarketingOS.Services.Compliance
import MarketingOS.Services.Conversation
import MarketingOS.Services.Knowledge
import MarketingOS.Verif.KnowledgeChanges
import MarketingOS.Services.KnowledgePipeline
import MarketingOS.Verif.CurrentKnowledge
import MarketingOS.Base.DbSession
import MarketingOS.Services.SyncSession
import MarketingOS.Verif.SyncOutcome
import MarketingOS.Verif.SweepIsolation
import MarketingOS.Services.SupportTicket
import MarketingOS.Base.Noninterference
import MarketingOS.Verif.VisibleTickets
import MarketingOS.Verif.TicketPrivacy
import MarketingOS.Verif.TicketHistory
import MarketingOS.Base.TtlCache
import MarketingOS.Base.TtlInvalidation
import MarketingOS.Ai.ModelRouter
import MarketingOS.Services.AiModelRoute
import MarketingOS.Verif.CurrentRoutes
