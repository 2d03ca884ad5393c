import SiemDashboard.Engines.StepEntries

/-!
# Outcome events of a playbook execution

The `_append_…_outcome_event` functions of `engines/playbook_step_executor.py`.  Each appends one
event to the trail of the execution's decision, and none when the execution has no decision.

* **Classification** — the mode and reason code of a step's event, and of a notification delivery.
* **Events** — running, resumed, awaiting approval, approval decisions, steps, notification
  deliveries, terminal states, operator lifecycle changes.
-/

namespace SiemDashboard.StepExecutor

open Atomic Python PlaybookRegistry ResponseOutcomes

/-! ## Classification -/

/-- `_canonical_playbook_reason_code`. -/
def canonicalPlaybookReasonCode (entry : LogEntry) : String :=
  match entry.error with
  | none => "provider_error"
  | some error =>
    match error.code with
    | .unsupportedAction => "unsupported_action"
    | .invalidStep | .missingAction => "policy_blocked"
    | _ => "provider_error"

/-- What `_playbook_step_outcome_classification` returns. -/
structure StepClassification where
  executionMode : String
  simulated : Bool
  reasonCode : Option String
  summaryPrefix : String

section

variable (py : Python)

/-- `_playbook_step_outcome_classification`. -/
def playbookStepOutcomeClassification (entry : LogEntry) : StepClassification :=
  let action := strip (py.str (entry.action.orElse (.str "")))
  let failureReason := if entry.status = .success then none else some (canonicalPlaybookReasonCode entry)
  if action = "enrich_context" || entry.mode = .readOnly ||
      (entry.output.dictOrEmpty.get "read_only").truthy then
    ⟨"read_only", false, failureReason, "Read-only"⟩
  else if internalPlaybookActions.contains action || entry.mode = .internal then
    let reason :=
      if entry.status = .success && action = "require_approval" then some "approval_required"
      else failureReason
    ⟨"internal", false, reason, "Internal"⟩
  else if entry.status = .failed && (entry.error.map (·.code) = some .unsupportedAction ||
      !knownPlaybookActions.contains action) then
    ⟨"internal", false, some "unsupported_action", "Unsupported"⟩
  else if entry.mode = .simulation then
    ⟨"simulation", true,
      if entry.status = .success then some "simulation_mode" else failureReason, "Simulation"⟩
  else if entry.mode = .real then ⟨"real", false, failureReason, "Real"⟩
  else ⟨"internal", false, failureReason, "Internal"⟩

/-- `str(value or default).strip().lower()` -/
def normalizedText (value : Json) (default : String) : String :=
  lower (strip (py.str (value.orElse (.str default))))

/-- `_notification_delivery_has_real_evidence`. -/
def notificationDeliveryHasRealEvidence (attempt : Json) : Bool :=
  let metadata := (attempt.get "metadata").orElse (.obj [])
  let isTrue (key : String) := match metadata.get key with
    | .bool b => b
    | _ => false
  (attempt.get "mode").isOneOf ["real"] && (attempt.get "status").isOneOf ["success"] &&
    isTrue "executed" &&
    (match metadata.get "simulated" with
      | .bool b => !b
      | _ => false) &&
    (normalizedText py (metadata.get "adapter_mode") "" = "real" ||
      [ "provider_success", "provider_success_evidence", "provider_delivery_confirmed",
        "delivery_confirmed" ].any isTrue)

/-- What `_map_notification_delivery_outcome` returns. -/
structure DeliveryOutcome where
  executionMode : String
  executionState : String
  externalExecuted : Bool
  simulated : Bool
  reasonCode : Option String
  summary : String

/-- `_map_notification_delivery_outcome`. -/
def mapNotificationDeliveryOutcome (attempt : Json) : DeliveryOutcome :=
  let status := normalizedText py (attempt.get "status") "failed"
  let provider := py.str ((attempt.get "provider").orElse (.str "notification provider"))
  let teams := lower (strip provider) = "teams" || (attempt.get "action").isOneOf ["notify_teams"]
  let mode := if teams then "simulation" else normalizedText py (attempt.get "mode") "simulation"
  let evidence := !teams && notificationDeliveryHasRealEvidence py attempt
  let shownMode := if mode = "real" then "real" else "simulation"
  if status = "blocked" then
    ⟨shownMode, "blocked", false, mode ≠ "real", some "policy_blocked",
      s!"Notification delivery to {provider} was blocked; no real execution was confirmed."⟩
  else if status = "failed" || status = "timeout" then
    ⟨shownMode, "failed", false, mode ≠ "real",
      some (if status = "timeout" then "adapter_unavailable" else "provider_error"),
      s!"Notification delivery to {provider} {status}; no real execution was confirmed."⟩
  else if mode = "real" && status = "success" && evidence then
    ⟨"real", "succeeded", true, false, none,
      s!"Notification delivery to {provider} succeeded with explicit real execution evidence."⟩
  else if mode = "real" && status = "success" then
    ⟨"simulation", "succeeded", false, true, some "simulation_mode",
      (s!"Notification delivery to {provider} reported success without complete real execution " ++
        "evidence; recorded as simulated.")⟩
  else
    ⟨"simulation", if status = "success" then "succeeded" else "failed", false, true,
      some "simulation_mode", s!"Simulated notification delivery to {provider} {status}."⟩

end

/-! ## Events -/

/-- What the callers of `_append_playbook_execution_outcome_event` pass. -/
structure EventArgs where
  eventType : String
  executionState : String
  summary : String
  idempotencyKey : OutcomeKey
  playbookStepIndex : Option Nat := none
  approvalRequestId : Option Nat := none
  notificationDeliveryAttemptId : Option Nat := none
  executionActor : String := "playbook_worker"
  reasonCode : Option String := none
  executionMode : String := "internal"
  simulated : Bool := false
  externalExecuted : Bool := false
  provider : Option String := none
  adapterName : Option String := none

/-- The event appended for an execution under a decision. -/
def EventArgs.outcome (args : EventArgs) (execution : Execution) (decisionId : Nat) :
    OutcomeArgs where
  decisionId := decisionId
  eventType := args.eventType
  executionMode := args.executionMode
  executionState := args.executionState
  simulated := args.simulated
  externalExecuted := args.externalExecuted
  trackingRecorded := false
  executionActor := args.executionActor
  reasonCode := args.reasonCode
  outcomeSummary := args.summary
  playbookExecutionId := some execution.id
  playbookStepIndex := args.playbookStepIndex
  approvalRequestId := args.approvalRequestId
  notificationDeliveryAttemptId := args.notificationDeliveryAttemptId
  provider := args.provider
  adapterName := args.adapterName
  idempotencyKey := args.idempotencyKey

/-- The decision an execution is linked to; a link needs a correlation id besides. -/
def linkedDecision? (execution : Execution) : Option Nat :=
  match execution.decisionId, execution.soarCorrelationId with
  | some decisionId, some correlationId => if correlationId = "" then none else some decisionId
  | _, _ => none

/-- `_append_playbook_execution_outcome_event`. -/
def appendPlaybookExecutionOutcomeEvent (execution : Execution) (args : EventArgs) :
    Prog (Option OutcomeEvent) :=
  match linkedDecision? execution with
  | some decisionId => issue (.appendOutcome (args.outcome execution decisionId))
  | none => return none

/-- `_append_playbook_running_outcome_event`. -/
def appendPlaybookRunningOutcomeEvent (execution : Execution) : Prog (Option OutcomeEvent) :=
  appendPlaybookExecutionOutcomeEvent execution
    { eventType := "running"
      executionState := "running"
      summary := s!"Playbook worker claimed playbook execution {execution.id}."
      idempotencyKey := .running execution.id }

/-- `_append_playbook_resumed_outcome_event`. -/
def appendPlaybookResumedOutcomeEvent (execution : Execution) (request : ApprovalRequest) :
    Prog (Option OutcomeEvent) :=
  appendPlaybookExecutionOutcomeEvent execution
    { eventType := "resumed"
      executionState := "running"
      summary := "Playbook execution resumed after approval."
      idempotencyKey := .resumed execution.id request.id
      playbookStepIndex := request.playbookStepIndex
      approvalRequestId := some request.id
      reasonCode := some "approval_required" }

/-- `_append_playbook_awaiting_approval_outcome_event`. -/
def appendPlaybookAwaitingApprovalOutcomeEvent (execution : Execution) (request : ApprovalRequest)
    (stepIndex : Nat) (summary : String) : Prog (Option OutcomeEvent) :=
  appendPlaybookExecutionOutcomeEvent execution
    { eventType := "awaiting_approval"
      executionState := "awaiting_approval"
      summary := summary
      idempotencyKey := .awaitingApproval execution.id stepIndex request.id
      playbookStepIndex := some stepIndex
      approvalRequestId := some request.id
      reasonCode := some "approval_required" }

/-- `_append_playbook_approval_decision_outcome_event`. -/
def appendPlaybookApprovalDecisionOutcomeEvent (execution : Execution) (request : ApprovalRequest)
    (eventType executionState summary : String) : Prog (Option OutcomeEvent) :=
  appendPlaybookExecutionOutcomeEvent execution
    { eventType := eventType
      executionState := executionState
      summary := summary
      idempotencyKey := .approvalDecision eventType execution.id request.id
      playbookStepIndex := request.playbookStepIndex
      approvalRequestId := some request.id
      executionActor := "approval_service"
      reasonCode := some
        (match request.status with
          | .denied => "approval_denied"
          | .expired => "approval_expired"
          | _ => "approval_required") }

/-- `_playbook_terminal_idempotency_label`. -/
def playbookTerminalIdempotencyLabel (eventType : String) : String :=
  if eventType = "succeeded" then "success" else eventType

def terminalEvent (executionId : Nat) (executionState eventType summary : String) :
    EventArgs where
  eventType := eventType
  executionState := executionState
  summary := summary
  idempotencyKey := .terminal (playbookTerminalIdempotencyLabel eventType) executionId

/-- `_append_playbook_terminal_outcome_event`. -/
def appendPlaybookTerminalOutcomeEvent (execution : Execution)
    (executionState eventType summary : String) : Prog (Option OutcomeEvent) :=
  appendPlaybookExecutionOutcomeEvent execution
    (terminalEvent execution.id executionState eventType summary)

/-- `try_append_playbook_lifecycle_outcome_event`. -/
def tryAppendPlaybookLifecycleOutcomeEvent (execution : Execution)
    (eventType executionState summary : String) (idempotencyKey : OutcomeKey)
    (executionActor : String) (reasonCode : Option String) : Prog (Option OutcomeEvent) :=
  appendPlaybookExecutionOutcomeEvent execution
    { eventType := eventType
      executionState := executionState
      summary := summary
      idempotencyKey := idempotencyKey
      executionActor := executionActor
      reasonCode := reasonCode }

section

variable (py : Python)

/-- A text column of a delivery attempt. -/
def attemptText? (attempt : Json) (key : String) : Option String :=
  (attempt.get key).str?

/-- An id or index column of a delivery attempt. -/
def attemptNat? (attempt : Json) (key : String) : Option Nat :=
  (attempt.get key).int?.map Int.toNat

/-- `_append_notification_delivery_outcome_event`. -/
def appendNotificationDeliveryOutcomeEvent (execution : Execution) (attempt : Json) :
    Prog (Option OutcomeEvent) :=
  let mapped := mapNotificationDeliveryOutcome py attempt
  let stepIndex := attemptNat? attempt "playbook_step_index"
  let deliveryId := attemptNat? attempt "id"
  appendPlaybookExecutionOutcomeEvent execution
    { eventType := "notification_delivery"
      executionState := mapped.executionState
      summary := mapped.summary
      idempotencyKey := .notification execution.id stepIndex deliveryId
      playbookStepIndex := stepIndex
      notificationDeliveryAttemptId := deliveryId
      executionActor := "adapter"
      reasonCode := mapped.reasonCode
      executionMode := mapped.executionMode
      simulated := mapped.simulated
      externalExecuted := mapped.externalExecuted
      provider := attemptText? attempt "provider"
      adapterName := attemptText? attempt "adapter_name" }

/-- The actions whose outcome other events report. -/
def isGateOrAdapterAction : Json → Bool
  | .str action => action = "require_approval" || (adapterAction? action).isSome
  | _ => false

/-- `_append_non_adapter_playbook_step_outcome_event`. -/
def appendNonAdapterPlaybookStepOutcomeEvent (execution : Execution) (entry : LogEntry) :
    Prog (Option OutcomeEvent) :=
  if isGateOrAdapterAction entry.action then return none
  else
    match entry.stepIndex, entry.status with
    | some stepIndex, .success => append stepIndex "succeeded" "step_succeeded"
    | some stepIndex, .failed => append stepIndex "failed" "step_failed"
    | _, _ => return none
where
  append (stepIndex : Nat) (executionState eventType : String) : Prog (Option OutcomeEvent) :=
    let classification := playbookStepOutcomeClassification py entry
    appendPlaybookExecutionOutcomeEvent execution
      { eventType := eventType
        executionState := executionState
        summary := py.str (entry.message.orElse
          (.str s!"{classification.summaryPrefix} playbook step {stepIndex} {entry.status.text}."))
        idempotencyKey := .step execution.id stepIndex executionState
        playbookStepIndex := some stepIndex
        reasonCode := classification.reasonCode
        executionMode := classification.executionMode
        simulated := classification.simulated }

end

end SiemDashboard.StepExecutor
