import SiemDashboard.Engines.PlaybookStepExecutor

/-!
# Playbook routes

`routes/playbook_routes.py` and `engines/soar_playbook_orchestrator.py`: how executions come into
being, and the operator's abandon, permanently-fail, resume and retry requests.  A handler issues
its reads and writes one after another, each a step of its own.
-/

namespace SiemDashboard.PlaybookRoutes

open Atomic Python PlaybookStore StepExecutor

/-- A response: status code and text. -/
structure RouteReply where
  code : Nat
  text : String
deriving DecidableEq, Repr

/-- The response to a request about an unknown execution. -/
def executionNotFound : RouteReply := ⟨404, "playbook execution not found"⟩

/-! ## Abandon -/

/-- What `abandon_playbook_execution` answers when its update matches no row. -/
def notAbandoned (current : Option Execution) : RouteReply :=
  match current with
  | none => ⟨404, "execution not found"⟩
  | some row =>
    if row.status = .abandoned then ⟨200, "no_op"⟩
    else if row.status.isTerminal then
      ⟨409, s!"cannot abandon terminal execution with status '{row.status.text}'"⟩
    else ⟨409, s!"cannot abandon execution with status '{row.status.text}'"⟩

/-- `abandon_playbook_execution_route`. -/
def abandonPlaybookExecutionRoute (id : Nat) : Prog RouteReply := do
  match ← issue (.getExecution id) with
  | none => return executionNotFound
  | some execution =>
    match ← issue (.abandon id) with
    | none =>
      let current ← issue (.getExecution id)
      return notAbandoned current
    | some _ =>
      let _ ← tryAppendPlaybookLifecycleOutcomeEvent execution "abandoned" "skipped"
        s!"Playbook execution abandoned from status '{execution.status.text}' by operator."
        (.abandoned id) "manual" (some "policy_blocked")
      return ⟨200, "abandoned"⟩

/-! ## Permanently fail -/

/-- Why `mark_playbook_execution_permanently_failed` refuses an execution with this status and
    reason, if it does. -/
def permanentFailRefusal (status : ExecutionStatus) (reason : String) : Option RouteReply :=
  if strip reason = "" then some ⟨400, "failure_reason is required"⟩
  else if permanentFailEligible status then none
  else if status.isTerminal then
    some ⟨409, "cannot mark execution as permanently_failed from terminal status " ++
      s!"'{status.text}'"⟩
  else
    some ⟨409, "permanently_failed is only allowed from running, failed, or awaiting_approval; " ++
      s!"current status: '{status.text}'"⟩

/-- `permanently_fail_playbook_execution_route`. -/
def permanentlyFailPlaybookExecutionRoute (id : Nat) (reason : String) : Prog RouteReply := do
  match ← issue (.getExecution id) with
  | none => return executionNotFound
  | some previous =>
    match ← issue (.getExecution id) with
    | none => return executionNotFound
    | some current =>
      if current.status = .permanentlyFailed then
        reply previous
      else
        match permanentFailRefusal current.status reason with
        | some refusal => return refusal
        | none =>
          match ← issue (.markPermanentlyFailed id (strip reason)) with
          | some _ => reply previous
          | none =>
            match ← issue (.getExecution id) with
            | none => return executionNotFound
            | some _ => reply previous
where
  /-- The event and the response of a request that was not refused. -/
  reply (previous : Execution) : Prog RouteReply := do
    if previous.status = .permanentlyFailed then return ⟨200, "no_op"⟩
    else
      let _ ← tryAppendPlaybookLifecycleOutcomeEvent previous "permanently_failed" "failed"
        s!"Playbook execution permanently failed from status '{previous.status.text}' by operator."
        (.permanentlyFailed id) "manual" none
      return ⟨200, "permanently_failed"⟩

/-! ## Resume -/

/-- `_derive_gating_step_index`. -/
def deriveGatingStepIndex (execution : Execution) : Int :=
  let next := execution.lastCompletedStep.getD (-1) + 1
  match execution.stepsLog.reverse.find? fun entry => entry.status = .awaitingApproval with
  | some entry =>
    match entry.stepIndex with
    | some index => index
    | none => next
  | none => next

/-- `resume_playbook_execution_route`: the status is read first and written last, with no condition
    on the row in between. -/
def resumePlaybookExecutionRoute (id : Nat) (now : Int) : Prog RouteReply := do
  match ← issue (.getExecution id) with
  | none => return executionNotFound
  | some execution =>
    if execution.status ≠ .awaitingApproval then
      return ⟨409, "resume requires awaiting_approval execution; current status: " ++
        s!"{execution.status.text}"⟩
    else
      let gate := deriveGatingStepIndex execution
      if gate < 0 then return ⟨409, s!"no approval request found for gating step {gate}"⟩
      else
        match ← issue (.latestRequest id gate.toNat false now) with
        | none => return ⟨409, s!"no approval request found for gating step {gate}"⟩
        | some approval =>
          if approval.status ≠ .approved then
            return ⟨409, s!"approval for step {gate} is not approved; current status: " ++
              s!"{approval.status.text}"⟩
          else
            issue (.updateStatus id .pending)
            return ⟨200, "Simulation execution re-queued. Run the executor to continue."⟩

/-! ## Creation and retry -/

/-- What an execution that nobody triggers by a step starts from. -/
def rootExecution (playbookId : String) (alertId incidentId : Option Nat) : NewExecution where
  playbookId := playbookId
  alertId := alertId
  incidentId := incidentId
  decisionId := none
  soarCorrelationId := none
  parentExecutionId := none
  chainDepth := 0

/-- `create_manual_playbook_execution_route`, once the target is known to exist. -/
def createManualPlaybookExecutionRoute (playbookId : String) (alertId incidentId : Option Nat) :
    Prog RouteReply := do
  match ← issue (.getDefinition playbookId) with
  | none => return ⟨404, "playbook not found"⟩
  | some definition =>
    if !definition.enabled then return ⟨409, "playbook is disabled"⟩
    else
      match ← issue (.activeForTarget playbookId alertId incidentId) with
      | some _ => return ⟨409, "active execution already exists for playbook and target"⟩
      | none =>
        match ← issue (.insertExecution (rootExecution playbookId alertId incidentId)) with
        | .error _ => return ⟨409, "execution could not be created"⟩
        | .ok id =>
          createAndLinkPlaybookExecutionDecision id playbookId "manual_triggered"
            (.manualTriggered id)
          return ⟨201, "pending"⟩

/-- `create_pending_executions_for_committed_alerts`, for one matched playbook of one alert. -/
def createPendingExecutionForAlert (playbookId : String) (alertId : Nat)
    (incidentId : Option Nat) : Prog RouteReply := do
  match ← issue (.createPendingOnce (rootExecution playbookId (some alertId) incidentId)) with
  | .error _ => return ⟨500, "error"⟩
  | .ok none => return ⟨200, "duplicate"⟩
  | .ok (some id) =>
    createAndLinkPlaybookExecutionDecision id playbookId "pending" (.pending id)
    return ⟨201, "created"⟩

/-- The statuses an execution can be retried from. -/
def retryable : ExecutionStatus → Bool
  | .failed | .abandoned => true
  | _ => false

/-- `create_retry_execution`: a new execution of the same playbook and target, without a parent. -/
def createRetryExecution (sourceId : Nat) : Prog (Except RouteReply Nat) := do
  match ← issue (.getExecution sourceId) with
  | none => return .error ⟨404, "execution not found"⟩
  | some source =>
    if !retryable source.status then
      return .error ⟨409, "retry requires failed or abandoned execution; current status: " ++
        s!"{source.status.text}"⟩
    else
      if ← issue (.activeExists source.playbookId source.alertId (some sourceId)) then
        return .error ⟨409, "active execution already exists for playbook and alert"⟩
      else
        match ← issue (.insertExecution
            (rootExecution source.playbookId source.alertId source.incidentId)) with
        | .error _ => return .error ⟨409, "active execution already exists for playbook and alert"⟩
        | .ok id => return .ok id

/-- `retry_playbook_execution_route`. -/
def retryPlaybookExecutionRoute (id : Nat) : Prog RouteReply := do
  match ← issue (.getExecution id) with
  | none => return executionNotFound
  | some execution =>
    if !retryable execution.status then
      return ⟨409, "retry requires failed or abandoned execution; current status: " ++
        s!"{execution.status.text}"⟩
    else
      match ← issue (.getDefinition execution.playbookId) with
      | none => return ⟨409, "playbook definition not found for execution"⟩
      | some _ =>
        if ← issue (.activeExists execution.playbookId execution.alertId none) then
          return ⟨409, "active execution already exists for playbook and alert"⟩
        else
          match ← createRetryExecution id with
          | .error reply => return reply
          | .ok newId =>
            createAndLinkPlaybookExecutionDecision newId execution.playbookId "retried"
              (.retried newId)
            return ⟨201, "New simulation execution created. No steps have run yet."⟩

end SiemDashboard.PlaybookRoutes
