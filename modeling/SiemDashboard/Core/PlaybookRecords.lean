import SiemDashboard.Lib.Python
import SiemDashboard.Lib.Tables

/-!
# Records of the playbook subsystem

The rows of `playbook_definitions`, `playbook_executions`, `approval_requests`,
`soar_response_outcome_events` and `soar_dead_letters`, and the entries of an execution's
`steps_log`, as the executor and its stores read and write them.

* **Identities and time** — `seconds`, `WorkerId`, `LeaseDuration`.
* **Executions** — `ExecutionStatus`, `LogEntry`, `Execution`, `PlaybookDefinition`.
* **Approvals** — `ApprovalRequest`.
* **Trail and dead letters** — `OutcomeEvent`, `DeadLetter`.
* **The database** — `Db`.
-/

namespace SiemDashboard

open Python Tables

/-! ## Identities and time -/

/-- `timedelta(seconds=n)`; times and durations are in microseconds. -/
def seconds (n : Nat) : Int := n * 1000000

/-- `timedelta(minutes=n)`. -/
def minutes (n : Int) : Int := n * 60000000

/-- A worker id as `_resolve_worker_id` and the store's `(lease_owner or "").strip()` leave it:
    stripped and not blank. -/
structure WorkerId where
  name : String
  stripped : strip name = name
  nonempty : name ≠ ""
deriving DecidableEq

/-- The id a raw owner text stands for; `none` when it is blank. -/
def WorkerId.ofString? (raw : String) : Option WorkerId :=
  if h : strip raw = "" then none
  else some ⟨strip raw, strip_strip raw, h⟩

/-- A lease duration in seconds, at least one as `_coerce_lease_duration` ensures. -/
structure LeaseDuration where
  seconds : Nat
  pos : 1 ≤ seconds
deriving DecidableEq

/-- When a lease taken or extended at `now` expires. -/
def LeaseDuration.expiry (d : LeaseDuration) (now : Int) : Int := now + SiemDashboard.seconds d.seconds

/-! ## Executions -/

/-- `_VALID_EXECUTION_STATUSES`. -/
inductive ExecutionStatus where
  | pending
  | running
  | awaitingApproval
  | success
  | failed
  | abandoned
  | permanentlyFailed
  | notActioned
deriving DecidableEq, Repr

namespace ExecutionStatus

/-- `_TERMINAL_EXECUTION_STATUSES` (the executor's `TERMINAL_STATUSES`). -/
def isTerminal : ExecutionStatus → Bool
  | success | failed | abandoned | permanentlyFailed | notActioned => true
  | pending | running | awaitingApproval => false

/-- The statuses of the partial unique index on (playbook, alert). -/
def isActive (status : ExecutionStatus) : Bool := !status.isTerminal

def text : ExecutionStatus → String
  | pending => "pending"
  | running => "running"
  | awaitingApproval => "awaiting_approval"
  | success => "success"
  | failed => "failed"
  | abandoned => "abandoned"
  | permanentlyFailed => "permanently_failed"
  | notActioned => "not_actioned"

end ExecutionStatus

/-- The `status` of a `steps_log` entry. -/
inductive EntryStatus where
  | success
  | failed
  | skipped
  | awaitingApproval
  | approved
  | denied
  | expired
  | resumed
deriving DecidableEq, Repr

def EntryStatus.text : EntryStatus → String
  | success => "success"
  | failed => "failed"
  | skipped => "skipped"
  | awaitingApproval => "awaiting_approval"
  | approved => "approved"
  | denied => "denied"
  | expired => "expired"
  | resumed => "resumed"

/-- The `event` of a `steps_log` entry. -/
inductive EntryEvent where
  | approvalRequested
  | approvalApproved
  | approvalDenied
  | approvalExpired
  | approvalResumed
  | branchEvaluated
  | playbookTriggered
  | skippedByBranch
  | skippedAfterApprovalGate
  | notificationDeliveryAlreadyDelivered
  | notificationPolicySuppressed
deriving DecidableEq, Repr

/-- The `mode` of a `steps_log` entry. -/
inductive EntryMode where
  | simulation
  | real
  | internal
  | readOnly
deriving DecidableEq, Repr

def EntryMode.text : EntryMode → String
  | simulation => "simulation"
  | real => "real"
  | internal => "internal"
  | readOnly => "read_only"

/-- The codes the response command service answers a playbook's request with. -/
inductive ResponseErrorCode where
  | invalidIndicator
  | validationNoTarget
  | protectedTarget
  | protectedTargetConfigInvalid
deriving DecidableEq, Repr

/-- The `code` of a failed entry's `error`. -/
inductive StepErrorCode where
  | definitionNotFound
  | missingApprovalGate
  | missingApprovalRequest
  | invalidResumeDefinition
  | invalidStep
  | missingAction
  | unsupportedAction
  | simulationException
  | invalidBranch
  | branchTargetNotFound
  | branchContextMissing
  | branchConditionInvalid
  | bindingAlertContextMissing
  | bindingAlertNotFound
  | bindingFieldMissing
  | invalidTriggerPlaybookParams
  | invalidTriggerPlaybookTarget
  | triggerPlaybookNotFound
  | triggerPlaybookDisabled
  | chainDepthExceeded
  | chainCycleDetected
  | triggerPlaybookAlertContextMissing
  | invalidEnrichContextParams
  | enrichContextFailed
  | adapterSimulationFailed
  | circuitBreakerInvalid
  | circuitBreakerOpen
  | blocklistTrackingFailed
  | responseCommandFailed
  | response (code : ResponseErrorCode)
deriving DecidableEq, Repr

namespace StepErrorCode

def text : StepErrorCode → String
  | definitionNotFound => "definition_not_found"
  | missingApprovalGate => "missing_approval_gate"
  | missingApprovalRequest => "missing_approval_request"
  | invalidResumeDefinition => "invalid_resume_definition"
  | invalidStep => "invalid_step"
  | missingAction => "missing_action"
  | unsupportedAction => "unsupported_action"
  | simulationException => "simulation_exception"
  | invalidBranch => "invalid_branch"
  | branchTargetNotFound => "branch_target_not_found"
  | branchContextMissing => "branch_context_missing"
  | branchConditionInvalid => "branch_condition_invalid"
  | bindingAlertContextMissing => "binding_alert_context_missing"
  | bindingAlertNotFound => "binding_alert_not_found"
  | bindingFieldMissing => "binding_field_missing"
  | invalidTriggerPlaybookParams => "invalid_trigger_playbook_params"
  | invalidTriggerPlaybookTarget => "invalid_trigger_playbook_target"
  | triggerPlaybookNotFound => "trigger_playbook_not_found"
  | triggerPlaybookDisabled => "trigger_playbook_disabled"
  | chainDepthExceeded => "chain_depth_exceeded"
  | chainCycleDetected => "chain_cycle_detected"
  | triggerPlaybookAlertContextMissing => "trigger_playbook_alert_context_missing"
  | invalidEnrichContextParams => "invalid_enrich_context_params"
  | enrichContextFailed => "enrich_context_failed"
  | adapterSimulationFailed => "adapter_simulation_failed"
  | circuitBreakerInvalid => "circuit_breaker_invalid"
  | circuitBreakerOpen => "circuit_breaker_open"
  | blocklistTrackingFailed => "blocklist_tracking_failed"
  | responseCommandFailed => "response_command_failed"
  | response .invalidIndicator => "invalid_indicator"
  | response .validationNoTarget => "validation_no_target"
  | response .protectedTarget => "protected_target"
  | response .protectedTargetConfigInvalid => "protected_target_config_invalid"

end StepErrorCode

/-- The `error` object of a failed entry. -/
structure StepError where
  code : StepErrorCode
  message : Json

/-- An entry of `steps_log`.  The keys that some function reads back are fields; `extra` holds the
    remaining ones as written. -/
structure LogEntry where
  stepIndex : Option Nat
  action : Json
  status : EntryStatus
  event : Option EntryEvent
  mode : EntryMode
  skipped : Bool
  startedAt : Option Int
  completedAt : Option Int
  approvalRequestId : Option Nat
  message : Json
  output : Json
  error : Option StepError
  extra : List (String × Json)

/-- A row of `playbook_definitions`; `steps` is the list `_definition_row_to_dict` returns. -/
structure PlaybookDefinition where
  id : String
  steps : List Json
  enabled : Bool

/-- A row of `playbook_executions`. -/
structure Execution where
  id : Nat
  playbookId : String
  alertId : Option Nat
  incidentId : Option Nat
  status : ExecutionStatus
  startedAt : Option Int
  completedAt : Option Int
  lastCompletedStep : Option Int
  stepsLog : List LogEntry
  createdAt : Int
  attemptCount : Nat
  maxAttempts : Nat
  failureReason : Option String
  leaseOwner : Option WorkerId
  leaseAcquiredAt : Option Int
  leaseHeartbeatAt : Option Int
  leaseExpiresAt : Option Int
  recoveryCount : Nat
  decisionId : Option Nat
  soarCorrelationId : Option String
  parentExecutionId : Option Nat
  chainDepth : Nat

/-- `DEFAULT_PLAYBOOK_EXECUTION_MAX_ATTEMPTS`, the column's default. -/
def defaultMaxAttempts : Nat := 3

/-! ## Approvals -/

/-- `APPROVAL_STATUSES`. -/
inductive ApprovalStatus where
  | pending
  | approved
  | denied
  | expired
deriving DecidableEq, Repr

namespace ApprovalStatus

def text : ApprovalStatus → String
  | pending => "pending"
  | approved => "approved"
  | denied => "denied"
  | expired => "expired"

/-- The statuses of the partial unique index on (execution, step). -/
def isActive : ApprovalStatus → Bool
  | pending | approved => true
  | denied | expired => false

end ApprovalStatus

/-- A row of `approval_requests`. -/
structure ApprovalRequest where
  id : Nat
  playbookExecutionId : Option Nat
  playbookStepIndex : Option Nat
  status : ApprovalStatus
  action : String
  riskLevel : String
  requestReason : Json
  decisionComment : Option String
  approvedBy : Option Nat
  decidedBy : Option Nat
  createdAt : Int
  decidedAt : Option Int
  expiresAt : Int

/-! ## Trail and dead letters -/

/-- The idempotency keys of playbook outcome events, one constructor for each format. -/
inductive OutcomeKey where
  | running (executionId : Nat)
  | resumed (executionId approvalRequestId : Nat)
  | notification (executionId : Nat) (stepIndex deliveryId : Option Nat)
  | step (executionId stepIndex : Nat) (state : String)
  | awaitingApproval (executionId stepIndex approvalRequestId : Nat)
  | approvalDecision (event : String) (executionId approvalRequestId : Nat)
  | terminal (label : String) (executionId : Nat)
  | pending (executionId : Nat)
  | manualTriggered (executionId : Nat)
  | chained (executionId : Nat)
  | retried (executionId : Nat)
  | abandoned (executionId : Nat)
  | permanentlyFailed (executionId : Nat)
deriving DecidableEq

/-- A row of `soar_response_outcome_events`. -/
structure OutcomeEvent where
  decisionId : Nat
  soarCorrelationId : String
  eventType : String
  executionMode : String
  executionState : String
  externalExecuted : Bool
  trackingRecorded : Bool
  simulated : Bool
  executionActor : String
  reasonCode : Option String
  outcomeSummary : String
  playbookExecutionId : Option Nat
  playbookStepIndex : Option Nat
  approvalRequestId : Option Nat
  notificationDeliveryAttemptId : Option Nat
  provider : Option String
  adapterName : Option String
  idempotencyKey : OutcomeKey

/-- A row of `soar_response_decisions`, as far as the trail reads it. -/
structure Decision where
  id : Nat
  soarCorrelationId : String

/-- The `status` of a dead letter. -/
inductive DeadLetterStatus where
  | «open»
  | retrying
  | retried
  | dismissed
deriving DecidableEq, Repr

/-- The statuses of the partial unique index on the dead letter's source. -/
def DeadLetterStatus.isActive : DeadLetterStatus → Bool
  | .open | .retrying => true
  | .retried | .dismissed => false

/-- A row of `soar_dead_letters`. -/
structure DeadLetter where
  id : Nat
  sourceType : String
  sourceId : Nat
  executionId : Option Nat
  incidentId : Option Nat
  alertId : Option Nat
  playbookId : Option String
  stepIndex : Option Nat
  actionName : Option String
  failureClass : String
  errorMessage : String
  retryable : Bool
  status : DeadLetterStatus
  firstFailedAt : Int
  lastFailedAt : Int

/-! ## The database -/

/-- The tables the playbook subsystem reads and writes. -/
structure Db where
  executions : Table Execution Execution.id
  definition? : String → Option PlaybookDefinition
  approvals : Table ApprovalRequest ApprovalRequest.id
  decisions : Table Decision Decision.id
  outcomes : List OutcomeEvent
  deadLetters : Table DeadLetter DeadLetter.id

/-- The execution with the given id. -/
abbrev Db.execution? (db : Db) (id : Nat) : Option Execution := db.executions.row? id

end SiemDashboard
