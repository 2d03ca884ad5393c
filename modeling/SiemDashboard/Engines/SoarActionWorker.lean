import SiemDashboard.Core.QueueStatements

/-!
# SOAR action worker

`engines/soar_action_worker.py`: a worker claims one queued action at a time, holds it at the
approval gate, and dispatches it.

* **Policy** — `approvalRequiredActions`, `canonicalQueueActions`.
* **Outcome events** — `queueOutcomeClassification`, `canonicalWorkerReasonCode`,
  `appendRunningOutcomeEvent`, `appendWorkerOutcomeEvent`.
* **Approval gate** — `handleApprovalGate`.
* **Passes** — `runAction` (the body of the `try`), `handleRaised` (its handlers),
  `processNextAction`, `processBatch`.
-/

namespace SiemDashboard.SoarActionWorker

open Atomic ResponseActionQueueStore ApprovalRequests

/-- A program of the worker; what it raises ends the pass. -/
abbrev WorkerProg := ExceptT Raised (Program QueueReply)

/-- Issue a statement. -/
abbrev issue (q : QueueStmt) : Program QueueReply (QueueReply q) := call q

/-! ## Policy -/

/-- `APPROVAL_REQUIRED_ACTIONS`. -/
def approvalRequiredActions : List String := ["block_ip"]

/-- `CANONICAL_QUEUE_ACTIONS`. -/
def canonicalQueueActions : List String := ["block_ip", "monitor", "flag_high_priority"]

/-- `_INTERNAL_QUEUE_ACTIONS`. -/
def internalQueueActions : List String := ["monitor", "flag_high_priority", "escalate"]

/-- `action_requires_approval`. -/
def actionRequiresApproval (action : String) : Bool := approvalRequiredActions.contains action

/-! ## Outcome events -/

/-- What `_queue_outcome_classification` returns. -/
structure Classification where
  executionMode : String
  simulated : Bool
  trackingRecorded : Bool
  reasonCode : Option String

/-- `_queue_outcome_classification`. -/
def queueOutcomeClassification (action executionState : String) (reasonCode : Option String) :
    Classification :=
  let normalizedAction := Python.strip action
  let normalizedReason := (reasonCode.map Python.strip).filter (· ≠ "")
  if normalizedReason.any ["approval_required", "approval_denied", "approval_expired"].contains then
    ⟨"internal", false, false, normalizedReason⟩
  else if normalizedAction = "block_ip" then
    let succeeded : Bool := executionState = "succeeded"
    let reason :=
      if normalizedReason = none ∨ normalizedReason = some "simulation_mode" then
        if succeeded then some "tracking_only" else none
      else normalizedReason
    ⟨"tracking_only", false, succeeded, reason⟩
  else if internalQueueActions.contains normalizedAction then
    ⟨"internal", false, false, normalizedReason.filter (· ≠ "simulation_mode")⟩
  else
    ⟨"simulation", executionState = "succeeded", false,
      some (normalizedReason.getD "simulation_mode")⟩

/-- `_canonical_worker_reason_code`. -/
def canonicalWorkerReasonCode (code : String) : String :=
  if ["approval_required", "approval_pending"].contains code then "approval_required"
  else if code = "approval_denied" then "approval_denied"
  else if code = "approval_expired" then "approval_expired"
  else if code = "unsupported_action" then "unsupported_action"
  else if ["adapter_unavailable", "adapter_timeout", "timeout", "retryable_error"].contains code then
    "adapter_unavailable"
  else if ["protected_target", "protected_target_config_invalid", "policy_disabled",
      "validation_missing_alert_id", "validation_no_target", "validation_null_source_ip",
      "validation_invalid_ip_format", "validation_private_ip"].contains code then
    "policy_blocked"
  else if ["simulated_block_ip", "simulated_flag_high_priority", "simulated_monitor"].contains
      code then
    "simulation_mode"
  else "provider_error"

/-- The decision and correlation id of a row that is linked to a decision. -/
def linkage (row : QueueAction) : Option (Nat × String) :=
  match row.decisionId, row.soarCorrelationId with
  | some decisionId, some correlationId =>
    if correlationId = "" then none else some (decisionId, correlationId)
  | _, _ => none

/-- Append an event to the trail of a linked row; one that is rejected is dropped with its
    savepoint. -/
def appendLinked (row : QueueAction) (event : Nat × String → WorkerOutcome) : WorkerProg Unit :=
  match linkage row with
  | none => pure ()
  | some link => ExceptT.lift (issue (.appendOutcome (event link)))

/-- `_append_running_outcome_event`. -/
def appendRunningOutcomeEvent (row : QueueAction) : WorkerProg Unit :=
  let classification := queueOutcomeClassification row.action "running" none
  let mode := classification.executionMode
  let claimed := s!"Queue worker claimed response action {row.action} for "
  appendLinked row fun link =>
    { decisionId := link.1
      soarCorrelationId := link.2
      eventType := "running"
      executionMode := mode
      executionState := "running"
      simulated := classification.simulated
      trackingRecorded := false
      reasonCode := classification.reasonCode
      outcomeSummary :=
        if mode = "simulation" then claimed ++ "simulation."
        else claimed ++ mode.replace "_" " " ++ " processing."
      queueId := row.id
      approvalRequestId := none
      responseActionLogId := none
      idempotencyKey := s!"queue-running-{row.id}-{row.retryCount}"
      retryCount := row.retryCount
      action := row.action
      errorCode := none }

/-- The arguments of `_append_worker_outcome_event`. -/
structure WorkerEvent where
  executionState : String
  reasonCode : Option String
  summary : String
  eventType : String
  responseActionLogId : Option Nat := none
  approvalRequestId : Option Nat := none
  errorCode : Option String := none

/-- `_append_worker_outcome_event`. -/
def appendWorkerOutcomeEvent (row : QueueAction) (event : WorkerEvent) : WorkerProg Unit :=
  let classification := queueOutcomeClassification row.action event.executionState event.reasonCode
  appendLinked row fun link =>
    { decisionId := link.1
      soarCorrelationId := link.2
      eventType := event.eventType
      executionMode := classification.executionMode
      executionState := event.executionState
      simulated := classification.simulated
      trackingRecorded := classification.trackingRecorded
      reasonCode := classification.reasonCode
      outcomeSummary := event.summary
      queueId := row.id
      approvalRequestId := event.approvalRequestId
      responseActionLogId := event.responseActionLogId
      idempotencyKey := s!"queue-{event.eventType}-{row.id}-{row.retryCount}"
      retryCount := row.retryCount
      action := row.action
      errorCode := event.errorCode }

/-- `_append_retry_outcome_events`. -/
def appendRetryOutcomeEvents (row : QueueAction) (code message : String)
    (responseActionLogId : Option Nat) : WorkerProg Unit := do
  let requeued := row.status = .pending
  appendWorkerOutcomeEvent row
    { executionState := "failed"
      reasonCode := some (canonicalWorkerReasonCode code)
      summary := message
      eventType := if requeued then "failed_attempt" else "failed"
      responseActionLogId := responseActionLogId
      errorCode := some code }
  if requeued then
    appendWorkerOutcomeEvent row
      { executionState := "queued"
        reasonCode := some (canonicalWorkerReasonCode code)
        summary := "Retryable response action failure requeued for another attempt."
        eventType := "requeued"
        errorCode := some code }

/-- `_worker_result`. -/
structure WorkerResult where
  queueId : Nat
  action : String
  priorStatus : QueueStatus
  newStatus : QueueStatus
  outcome : String
  retryable : Bool
  retryCount : Nat
  maxRetries : Nat
  errorCode : Option String
  reason : Option String
  message : String

/-- `_worker_result`. -/
def workerResult (original updated : QueueAction) (outcome : String) (retryable : Bool)
    (code message : String) (reason : Option String) : WorkerResult where
  queueId := original.id
  action := original.action
  priorStatus := original.status
  newStatus := updated.status
  outcome := outcome
  retryable := retryable
  retryCount := updated.retryCount
  maxRetries := updated.maxRetries
  errorCode := if outcome ≠ "success" then some code else none
  reason := reason
  message := message

/-- The result of an action that does not succeed; its message is the reason. -/
def refusedResult (original updated : QueueAction) (outcome code message : String) : WorkerResult :=
  workerResult original updated outcome false code message (some message)

/-! ## Approval gate -/

/-- Mark the row skipped, log it and append the event. -/
def skipAction (row : QueueAction) (now : Option Int) (message code : String)
    (event : Nat → WorkerEvent) : WorkerProg WorkerResult := do
  let updated ← ExceptT.mk (issue (.markSkipped row.id message now))
  let logId ← ExceptT.mk (issue (.logResponseAction row "skipped" message))
  appendWorkerOutcomeEvent updated (event logId)
  return refusedResult row updated "skipped" code message

/-- The request the gate creates. -/
def gateRequest (row : QueueAction) : NewApproval where
  incidentId := none
  queueId := some row.id
  playbookExecutionId := none
  playbookStepIndex := none
  action := row.action
  requestedBy := none
  requestReason := .str "approval required for high-risk SOAR action"
  riskLevel := "high"
  expiresAt := none
  ttlMinutes := ApprovalStore.defaultApprovalTtlMinutes

/-- Park a running row whose request is pending. -/
def parkRunning (row : QueueAction) (now : Option Int) : WorkerProg QueueAction :=
  if row.status = .running then
    ExceptT.mk (issue (.markAwaitingApproval row.id "approval pending" now))
  else pure row

/-- The part of `_handle_approval_gate` after the target is found unprotected. -/
def checkApproval (row : QueueAction) (now : Option Int) : WorkerProg (Option WorkerResult) := do
  let _ ← ExceptT.mk (issue (.expirePending 100 now))
  match ← ExceptT.mk (issue (.latestApproval row.id row.action)) with
  | none =>
    let approval ← ExceptT.mk (issue (.createApproval (gateRequest row)))
    let updated ← ExceptT.mk (issue (.markAwaitingApproval row.id "approval required" now))
    appendWorkerOutcomeEvent updated
      { executionState := "awaiting_approval"
        reasonCode := some "approval_required"
        summary := "approval required"
        eventType := "awaiting_approval"
        approvalRequestId := some approval.id
        errorCode := some "approval_required" }
    return some (refusedResult row updated "awaiting_approval" "approval_required"
      "approval required")
  | some approval =>
    match approval.status with
    | .approved => return none
    | .pending =>
      let updated ← parkRunning row now
      appendWorkerOutcomeEvent updated
        { executionState := "awaiting_approval"
          reasonCode := some "approval_required"
          summary := "approval pending"
          eventType := "awaiting_approval"
          approvalRequestId := some approval.id
          errorCode := some "approval_pending" }
      return some (refusedResult row updated "awaiting_approval" "approval_pending"
        "approval pending")
    | .denied | .expired =>
      let denied := approval.status = .denied
      let reason := if denied then "approval denied" else "approval expired"
      let code := if denied then "approval_denied" else "approval_expired"
      some <$> skipAction row now reason code fun logId =>
        { executionState := "blocked"
          reasonCode := some code
          summary := reason
          eventType := "blocked"
          responseActionLogId := some logId
          approvalRequestId := some approval.id
          errorCode := some code }

/-- The refusal of a protected target. -/
def skipProtected (row : QueueAction) (now : Option Int) (message code : String) :
    WorkerProg WorkerResult :=
  skipAction row now message code fun logId =>
    { executionState := "skipped"
      reasonCode := some (canonicalWorkerReasonCode code)
      summary := message
      eventType := "skipped"
      responseActionLogId := some logId
      errorCode := some code }

/-- `_handle_approval_gate`: the result the pass ends with, none where the action may be
    dispatched. -/
def handleApprovalGate (row : QueueAction) (now : Option Int) :
    WorkerProg (Option WorkerResult) := do
  if !actionRequiresApproval row.action then return none
  else if row.action = "block_ip" then
    match ← ExceptT.mk (issue (.requireUnprotectedTarget row.sourceIp)) with
    | .unprotected => checkApproval row now
    | .protectedTarget message code => some <$> skipProtected row now message code
    | .invalidConfig error =>
      some <$> skipProtected row now
        ("Protected target config invalid; refusing block_ip execution: " ++ error)
        "protected_target_config_invalid"
  else checkApproval row now

/-! ## Passes -/

/-- The request of a canonical action. -/
def commandRequest (row : QueueAction) : CommandRequest where
  action := row.action
  indicatorValue := row.sourceIp.filter (· ≠ "")
  alertId := row.alertId
  reason := s!"Queue worker {row.action}"
  queueId := row.id
  idempotencyKey := s!"queue-{row.id}-{row.action}"

/-- `_validate_executor_result`. -/
def validateExecutorResult : ExecutorResult → Except Raised (String × String)
  | .notDict => .error (.other "Executor result must be a dict")
  | .dict code message =>
    if code = "" then .error (.other "Executor result missing required code")
    else if message = "" then .error (.other "Executor result missing required message")
    else .ok (code, message)

/-- A text where it is given and not empty. -/
def orElse (text : Option String) (default : String) : String :=
  match text with
  | some t => if t = "" then default else t
  | none => default

/-- A response command without success is skipped. -/
def requireSuccess (result : CommandResult) : WorkerProg Unit :=
  if result.success then pure ()
  else
    throw (.skipped (orElse result.error result.message)
      (orElse result.errorCode "response_command_failed"))

/-- The body of the `try` of `process_next_action`. -/
def runAction (row : QueueAction) (now : Option Int) : WorkerProg WorkerResult := do
  if canonicalQueueActions.contains row.action then
    let result ← ExceptT.mk (issue (.executeResponseCommand (commandRequest row)))
    requireSuccess result
    let updated ← ExceptT.mk (issue (.markSuccess row.id now))
    appendWorkerOutcomeEvent updated
      { executionState := "succeeded"
        reasonCode := if row.action = "block_ip" then some "tracking_only" else none
        summary := result.message
        eventType := "succeeded"
        responseActionLogId := result.responseActionLogId }
    return workerResult row updated "success" false result.outcomeLabel result.message none
  else
    let (code, message) ← ExceptT.mk ((issue (.runExecutor row)) >>= fun answer =>
      pure (answer >>= validateExecutorResult))
    let updated ← ExceptT.mk (issue (.markSuccess row.id now))
    let logId ← ExceptT.mk (issue (.logResponseAction row "executed" message))
    appendWorkerOutcomeEvent updated
      { executionState := "succeeded"
        reasonCode := some "simulation_mode"
        summary := message
        eventType := "succeeded"
        responseActionLogId := some logId }
    return workerResult row updated "success" false code message none

/-- `str(error)` of what is not skipped or retryable. -/
def raisedText : Raised → String
  | .skipped message _ | .retryable message _ | .transition message | .approval (.value message)
  | .database message | .other message => message
  | .approval .integrity => "integrity error"

/-- A row that has failed for good is logged. -/
def logFailed (row updated : QueueAction) (message : String) : WorkerProg (Option Nat) :=
  if updated.status = .failed then
    some <$> ExceptT.mk (issue (.logResponseAction row "failed" message))
  else pure none

/-- The handlers of the `try` of `process_next_action`. -/
def handleRaised (row : QueueAction) (now : Option Int) : Raised → WorkerProg WorkerResult
  | .skipped message code =>
    skipAction row now message code fun logId =>
      { executionState := "skipped"
        reasonCode := some (canonicalWorkerReasonCode code)
        summary := message
        eventType := "skipped"
        responseActionLogId := some logId
        errorCode := some code }
  | .retryable message code => do
    let updated ← ExceptT.mk (issue (.recordFailure row.id message true now))
    let logId ← logFailed row updated message
    appendRetryOutcomeEvents updated code message logId
    let requeued := updated.status = .pending
    return workerResult row updated (if requeued then "requeued" else "failed") requeued code
      message (some message)
  | error => do
    let message := raisedText error
    let updated ← ExceptT.mk (issue (.recordFailure row.id message false now))
    let logId ← ExceptT.mk (issue (.logResponseAction row "failed" message))
    appendWorkerOutcomeEvent updated
      { executionState := "failed"
        reasonCode := some "provider_error"
        summary := message
        eventType := "failed"
        responseActionLogId := some logId
        errorCode := some "unexpected_error" }
    return refusedResult row updated "failed" "unexpected_error" message

/-- A pass over a claimed row. -/
def processClaimed (row : QueueAction) (now : Option Int) : WorkerProg WorkerResult := do
  appendRunningOutcomeEvent row
  match ← handleApprovalGate row now with
  | some result => return result
  | none => tryCatch (runAction row now) (handleRaised row now)

/-- The end of a pass that skipped a row whose approval was denied or has expired. -/
def finishSkipped (skipped : QueueAction) : WorkerProg WorkerResult := do
  let approval ← ExceptT.mk (issue (.latestApproval skipped.id skipped.action))
  let reason := skipped.lastError.getD ""
  let logId ← ExceptT.mk (issue (.logResponseAction skipped "skipped" reason))
  let code := if reason = "approval denied" then "approval_denied" else "approval_expired"
  appendWorkerOutcomeEvent skipped
    { executionState := "blocked"
      reasonCode := some code
      summary := reason
      eventType := "blocked"
      responseActionLogId := some logId
      approvalRequestId := approval.map fun a => a.id }
  return refusedResult { skipped with status := .awaitingApproval } skipped "skipped" code reason

/-- `process_next_action`. -/
def processNextAction (now : Option Int) : WorkerProg (Option WorkerResult) := do
  match ← ExceptT.mk (issue (.claimPending now)) with
  | some row => some <$> processClaimed row now
  | none =>
    let _ ← ExceptT.mk (issue (.expirePending 100 now))
    match ← ExceptT.mk (issue (.claimApproved now)) with
    | some row => some <$> processClaimed row now
    | none =>
      match ← ExceptT.mk (issue (.skipTerminal now)) with
      | none => return none
      | some skipped => some <$> finishSkipped skipped

/-- `process_batch`. -/
def processBatch (now : Option Int) : Nat → WorkerProg (List WorkerResult)
  | 0 => return []
  | limit + 1 => do
    match ← processNextAction now with
    | none => return []
    | some result => return result :: (← processBatch now limit)

end SiemDashboard.SoarActionWorker
