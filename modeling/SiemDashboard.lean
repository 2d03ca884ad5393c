import SiemDashboard.Routes.PlaybookRoutes
import SiemDashboard.Scripts.RunPlaybookExecutorOnce
import SiemDashboard.Engines.PassRefinement
import SiemDashboard.Verification.ApprovalLifecycle
import SiemDashboard.Verification.BudgetAccounting
import SiemDashboard.Verification.CircuitBreaker
import SiemDashboard.Verification.QueueApproval
import SiemDashboard.Verification.QueueAttempts
import SiemDashboard.Verification.TerminalStatus
import SiemDashboard.Verification.ApprovalGate
import SiemDashboard.Verification.SuccessHonesty
import SiemDashboard.Verification.ValidatorAgreement
import SiemDashboard.Verification.RegistryAgreement
import SiemDashboard.Verification.BlockRenewal
import SiemDashboard.Verification.DecisionOutcomes
import SiemDashboard.Verification.NotificationDedup
import SiemDashboard.Lib.Csv
import SiemDashboard.Verification.IncidentResolution
import SiemDashboard.Verification.LocationCache
import SiemDashboard.Verification.ValidationTotal
import SiemDashboard.Verification.BriefingLeases
import SiemDashboard.Verification.BriefingWindows
import SiemDashboard.Verification.ReconEnrollment
import SiemDashboard.Verification.AutomatedPath
import SiemDashboard.Verification.ThreadStates
import SiemDashboard.Verification.WorkspaceRecords
import SiemDashboard.Verification.WorkspaceOwnership
import SiemDashboard.Verification.AzureAgreement
import SiemDashboard.Verification.AzurePolling
import SiemDashboard.Verification.SigmaConditions
import SiemDashboard.Verification.SyslogTimestamps
import SiemDashboard.Verification.TemporaryRules
import SiemDashboard.Verification.ReconNotifications
import SiemDashboard.Verification.DeadLetterLifecycle
import SiemDashboard.Verification.PaidGate
import SiemDashboard.Verification.StepTrail
import SiemDashboard.Verification.RateLimiting
import SiemDashboard.Verification.ReputationAccounting
import SiemDashboard.Verification.MetadataRedaction
import SiemDashboard.Verification.DeliveryOutcomes
import SiemDashboard.Verification.TriggerMatching
import SiemDashboard.Verification.BindingResolution
import SiemDashboard.Verification.BriefingCoverage
import SiemDashboard.Verification.WebhookTarget
import SiemDashboard.Verification.SubmissionCompletion
import SiemDashboard.Verification.ForwardBranches
import SiemDashboard.Verification.OutcomeTrail
import SiemDashboard.Verification.DeadLetterCapture
import SiemDashboard.Verification.ChainBounds
import SiemDashboard.Verification.LeaseExclusion
import SiemDashboard.Verification.BriefingDelivery
import SiemDashboard.Verification.RepoCitations
import SiemDashboard.Verification.RepoRefresh
import SiemDashboard.Verification.CooldownSuppression
import SiemDashboard.Verification.BriefingDedup
import SiemDashboard.Verification.BriefingSelection
import SiemDashboard.Verification.PlannerPackets
import SiemDashboard.Verification.PlanContracts
import SiemDashboard.Verification.SigmaAcceptance
import SiemDashboard.Verification.PfsenseDelivery
import SiemDashboard.Verification.DetectionRuns
