import SiemDashboard.Engines.StepSimulation

/-!
# Playbook step executor

`engines/playbook_step_executor.py`: a worker's pass over one execution, and the batch.

* **Results** — `PassResult`; a pass that a Python exception leaves returns `none`.
* **Finalizers** — the terminal writes, with their outcome event, dead letter and lease release.
* **The step loop** — `processStep`, `processLoop`, `processSteps`.
* **Passes** — running executions, executions awaiting approval, any execution, the next pending
  one, a batch.
-/

namespace SiemDashboard.StepExecutor

open Atomic Python PlaybookStore ApprovalStore DeadLetterStore

/-! ## Results -/

/-- The `outcome` of a pass. -/
inductive PassOutcome where
  | success
  | failed
  | skipped
  | awaitingApproval
  | notActioned
deriving DecidableEq, Repr

/-- The dict a pass returns. -/
structure PassResult where
  executionId : Nat
  playbookId : Option String
  priorStatus : Option ExecutionStatus
  newStatus : Option ExecutionStatus
  outcome : PassOutcome
  stepsProcessed : Nat
  message : Json
  reason : Option String

/-- `_result`. -/
def result (execution : Execution) (prior new : ExecutionStatus) (outcome : PassOutcome)
    (stepsProcessed : Nat) (message : Json) (reason : Option String) : PassResult where
  executionId := execution.id
  playbookId := some execution.playbookId
  priorStatus := some prior
  newStatus := some new
  outcome := outcome
  stepsProcessed := stepsProcessed
  message := message
  reason := reason

/-- `_skip_result`. -/
def skipResult (execution : Execution) (prior new : ExecutionStatus) (reason message : String) :
    PassResult :=
  result execution prior new .skipped 0 (.str message) (some reason)

section

variable (py : Python)

/-! ## Finalizers -/

/-- The message a dead letter records for a failed entry. -/
def deadLetterMessage (execution : Execution) (entry : LogEntry) : Json :=
  let errorMessage := (entry.error.map (·.message)).getD .null
  let failureReason := (execution.failureReason.map Json.str).getD .null
  ((errorMessage.orElse entry.message).orElse failureReason).orElse
    (.str "Playbook execution failed.")

/-- The dead letter of a failed entry. -/
def deadLetterArgs (execution : Execution) (entry : LogEntry) (now : Int) : DeadLetterArgs where
  executionId := execution.id
  incidentId := execution.incidentId
  alertId := execution.alertId
  playbookId := execution.playbookId
  stepIndex := entry.stepIndex
  actionName := entry.action.str?
  failureClass := deadLetterFailureClass entry
  errorMessage := py.str (deadLetterMessage execution entry)
  retryable := classifyDeadLetterRetryable (deadLetterFailureClass entry)
  failedAt := now

/-- `capture_failed_execution_dead_letter`. -/
def captureFailedExecutionDeadLetter (execution : Execution) (stepsLog : List LogEntry)
    (now : Int) : Prog Unit :=
  match latestFailedStepEntry stepsLog with
  | none => return ()
  | some entry => do
    let _ ← issue (.createDeadLetter (deadLetterArgs py execution entry now))
    return ()

/-- `_finalize_success`. -/
def finalizeSuccess (id : Nat) (owner : WorkerId) (stepsLog : List LogEntry)
    (lastCompletedStep : Option Int) (now : Int) : Prog (Option Execution) := do
  match ← issue (.setFinal .success id stepsLog lastCompletedStep now (some owner)) with
  | none => return none
  | some updated =>
    let _ ← appendPlaybookTerminalOutcomeEvent updated "succeeded" "succeeded"
      "Playbook execution completed successfully."
    let _ ← issue (.releaseLease id owner)
    return some updated

/-- The write that `_finalize_failed` and `_finalize_not_actioned` share: under the worker's lease,
    or without one where the execution still awaits approval and nobody holds it. -/
def setFinalOrUnowned (final : FinalStatus) (id : Nat) (owner : WorkerId)
    (stepsLog : List LogEntry) (lastCompletedStep : Option Int) (now : Int) :
    Prog (Option Execution) := do
  match ← issue (.setFinal final id stepsLog lastCompletedStep now (some owner)) with
  | some updated => return some updated
  | none =>
    match ← issue (.getExecution id) with
    | none => return none
    | some current =>
      if current.status = .awaitingApproval && current.leaseOwner.isNone then
        issue (.setFinal final id stepsLog lastCompletedStep now none)
      else return none

/-- `_finalize_failed`. -/
def finalizeFailed (id : Nat) (owner : WorkerId) (stepsLog : List LogEntry)
    (lastCompletedStep : Option Int) (now : Int) : Prog (Option Execution) := do
  match ← setFinalOrUnowned .failed id owner stepsLog lastCompletedStep now with
  | none => return none
  | some updated =>
    let _ ← appendPlaybookTerminalOutcomeEvent updated "failed" "failed"
      "Playbook execution failed."
    captureFailedExecutionDeadLetter py updated stepsLog now
    let _ ← issue (.releaseLease id owner)
    return some updated

/-- `_finalize_not_actioned`. -/
def finalizeNotActioned (id : Nat) (owner : WorkerId) (stepsLog : List LogEntry)
    (lastCompletedStep : Option Int) (now : Int) : Prog (Option Execution) := do
  match ← setFinalOrUnowned .notActioned id owner stepsLog lastCompletedStep now with
  | none => return none
  | some updated =>
    let _ ← appendPlaybookTerminalOutcomeEvent updated "not_actioned" "not_actioned"
      "Playbook execution ended without action after approval denial or expiration."
    let _ ← issue (.releaseLease id owner)
    return some updated

/-! ## The step loop -/

/-- What stays fixed during a pass over an execution's steps. -/
structure Pass where
  execution : Execution
  steps : List Json
  timestamp : Int
  prior : ExecutionStatus
  worker : WorkerId
  duration : LeaseDuration

/-- The local variables of the loop of `_process_steps`. -/
structure LoopState where
  index : Nat
  stepsLog : List LogEntry
  lastCompletedStep : Option Int
  failed : Bool
  failureMessage : Json

/-- How one iteration ends: `continue`, `break`, `return`, or an exception. -/
inductive Flow where
  | next (st : LoopState)
  | stop (st : LoopState)
  | returned (r : PassResult)
  | raised (message : String)

def leaseLost (pass : Pass) (stepsLog : List LogEntry) (message : String) : PassResult :=
  result pass.execution pass.prior pass.execution.status .skipped stepsLog.length (.str message)
    (some "lease_lost")

/-- Keep the progress made by a step that succeeded, and go on at `nextIndex`. -/
def saveProgress (pass : Pass) (st : LoopState) (stepsLog : List LogEntry) (nextIndex : Nat)
    (lostMessage : String) : Prog Flow := do
  match ← issue (.updateStepLog pass.execution.id stepsLog (some st.index) (some pass.worker)) with
  | none => return .returned (leaseLost pass stepsLog lostMessage)
  | some _ =>
    return .next { st with
      index := nextIndex, stepsLog := stepsLog, lastCompletedStep := some st.index }

/-- Go on after a step that failed, if the step says so. -/
def afterFailure (step : Json) (st : LoopState) (stepsLog : List LogEntry) (message : Json) :
    Flow :=
  let st' := { st with stepsLog := stepsLog, failed := true, failureMessage := message }
  if (step.getD "on_failure" (.str "abort")).isOneOf ["continue"] then
    .next { st' with index := st.index + 1 }
  else .stop st'

/-- `create_playbook_step_approval_request`; `none` when the insert raises. -/
def createPlaybookStepApprovalRequest (executionId stepIndex : Nat) (step : Json) (now : Int) :
    Prog (Option ApprovalRequest) := do
  let latest ← issue (.latestRequest executionId stepIndex false now)
  match latest.filter (·.status.isActive) with
  | some existing => return some existing
  | none =>
    issue (.insertRequest executionId stepIndex (step.getD "risk_level" (.str "high"))
      ((step.get "reason").orElse
        (.str "Approval required before continuing simulated playbook."))
      (step.getD "expires_in_minutes" (.int defaultApprovalTtlMinutes)))

/-- The `require_approval` branch of the loop: ask for approval and pause. -/
def processGateStep (pass : Pass) (step : Json) (st : LoopState) : Prog Flow := do
  let id := pass.execution.id
  match ← createPlaybookStepApprovalRequest id st.index step pass.timestamp with
  | none => return .raised "approval request could not be created"
  | some request =>
    let entry := approvalRequestedEntry st.index request step pass.timestamp
    let stepsLog := st.stepsLog ++ [entry]
    match ← issue (.setAwaitingApproval id stepsLog st.lastCompletedStep (some pass.worker)) with
    | none =>
      return .returned (leaseLost pass stepsLog
        "Playbook execution lease was lost while pausing for approval.")
    | some updated =>
      let _ ← appendPlaybookAwaitingApprovalOutcomeEvent updated request st.index
        (py.str entry.message)
      let _ ← issue (.releaseLease id pass.worker)
      return .returned (result pass.execution pass.prior .awaitingApproval .awaitingApproval
        stepsLog.length (.str "Approval requested before continuing simulated playbook.") none)

/-- The `branch` branch of the loop. -/
def processBranchStep (pass : Pass) (step : Json) (st : LoopState) : Prog Flow := do
  match ← executeBranchStep py step st.index pass.steps st.stepsLog pass.execution
      pass.timestamp with
  | .error message => return .raised message
  | .ok branch =>
    let stepsLog := st.stepsLog ++ [branch.entry] ++ branch.skipEntries
    let _ ← appendNonAdapterPlaybookStepOutcomeEvent py pass.execution branch.entry
    if branch.entry.status = .success then
      saveProgress pass st stepsLog branch.nextIndex
        "Playbook execution lease was lost while saving branch progress."
    else return afterFailure step st stepsLog branch.entry.message

/-- The form that the `trigger_playbook` and `enrich_context` branches of the loop share. -/
def recordControlEntry (pass : Pass) (step : Json) (st : LoopState) (entry : LogEntry)
    (lostMessage : String) : Prog Flow := do
  let stepsLog := st.stepsLog ++ [entry]
  let _ ← appendNonAdapterPlaybookStepOutcomeEvent py pass.execution entry
  if entry.status = .success then saveProgress pass st stepsLog (st.index + 1) lostMessage
  else return afterFailure step st stepsLog entry.message

/-- The `trigger_playbook` branch of the loop. -/
def processTriggerStep (pass : Pass) (step : Json) (st : LoopState) : Prog Flow := do
  match ← executeTriggerPlaybookStep py step st.index pass.execution pass.timestamp with
  | .error message => return .raised message
  | .ok entry =>
    recordControlEntry py pass step st entry
      "Playbook execution lease was lost while saving trigger_playbook progress."

/-- The `enrich_context` branch of the loop. -/
def processEnrichStep (pass : Pass) (step : Json) (st : LoopState) : Prog Flow := do
  let entry ← executeEnrichContextStep py step st.index pass.execution pass.timestamp
  recordControlEntry py pass step st entry
    "Playbook execution lease was lost while saving enrich_context progress."

/-- The entry with the delivery attempt of its notification, where one is recorded: for every
    notification but Slack's, unless the delivery was skipped. -/
def withNotificationDelivery (pass : Pass) (step : Json) (index : Nat) (entry : LogEntry) :
    Prog LogEntry :=
  match step.get "action" with
  | .str action =>
    if notificationActions.contains action && action ≠ "notify_slack" && !entry.skipped then do
      match ← recordNotificationDeliveryAttempt py pass.execution action index entry with
      | none => return entry
      | some delivery =>
        return { entry with
          output := .obj (entry.output.fields ++ [("notification_delivery", delivery)]) }
    else return entry
  | _ => return entry

/-- The entry of a step, an exception turned into a failure. -/
def simulatedEntry (pass : Pass) (step : Json) (index : Nat) : Prog LogEntry := do
  match ← simulateStep py step index pass.timestamp pass.execution with
  | .ok entry => return entry
  | .error message =>
    return failureEntry py (some index) (step.get "action") (.str message) .simulationException
      pass.timestamp none

/-- The last branch of the loop: every other step. -/
def processOtherStep (pass : Pass) (step : Json) (st : LoopState) : Prog Flow := do
  let simulated ← simulatedEntry py pass step st.index
  -- testing a list or an object for membership in a set raises
  if !(step.get "action").hashable then return .raised "unhashable type"
  else
    let entry ← withNotificationDelivery py pass step st.index simulated
    let stepsLog := st.stepsLog ++ [entry]
    if entry.status = .success then
      match ← saveProgress pass st stepsLog (st.index + 1)
          "Playbook execution lease was lost while saving step progress." with
      | .next st' =>
        let _ ← appendNonAdapterPlaybookStepOutcomeEvent py pass.execution entry
        return .next st'
      | flow => return flow
    else
      let _ ← appendNonAdapterPlaybookStepOutcomeEvent py pass.execution entry
      return afterFailure step st stepsLog entry.message

/-- The dispatch of the loop on the step's action. -/
def executeStep (pass : Pass) (step : Json) (st : LoopState) : Prog Flow :=
  let action := step.get "action"
  if action.isOneOf ["require_approval"] then processGateStep py pass step st
  else if action.isOneOf ["branch"] then processBranchStep py pass step st
  else if action.isOneOf ["trigger_playbook"] then processTriggerStep py pass step st
  else if action.isOneOf ["enrich_context"] then processEnrichStep py pass step st
  else processOtherStep py pass step st

/-- One iteration of the loop of `_process_steps`. -/
def processStep (pass : Pass) (step : Json) (st : LoopState) : Prog Flow :=
  if stepAlreadySucceededInLog st.stepsLog st.index then
    return .next { st with index := st.index + 1, lastCompletedStep := some st.index }
  else if stepAlreadySkippedInLog st.stepsLog st.index then
    return .next { st with index := st.index + 1 }
  else do
    match ← issue (.heartbeat pass.execution.id pass.worker pass.duration pass.timestamp) with
    | none =>
      return .returned (leaseLost pass st.stepsLog
        "Playbook execution lease was lost before step execution.")
    | some _ =>
      issue (.beginStep pass.execution.id st.index st.stepsLog)
      executeStep py pass step st

/-- The loop of `_process_steps`.  Every iteration raises the index, so `fuel` covering the steps
    that are left is never what ends it. -/
def processLoop (pass : Pass) : Nat → LoopState → Prog Flow
  | 0, st => return .stop st
  | fuel + 1, st =>
    match pass.steps[st.index]? with
    | none => return .stop st
    | some step => do
      match ← processStep py pass step st with
      | .next st' => processLoop pass fuel st'
      | flow => return flow

/-- The part of `_process_steps` after the loop. -/
def finishSteps (pass : Pass) (st : LoopState) : Prog (Option PassResult) := do
  let id := pass.execution.id
  if st.failed then
    let _ ← finalizeFailed py id pass.worker st.stepsLog st.lastCompletedStep pass.timestamp
    return some (result pass.execution pass.prior .failed .failed st.stepsLog.length
      (st.failureMessage.orElse (.str "One or more simulated playbook steps failed.")) none)
  else
    let _ ← finalizeSuccess id pass.worker st.stepsLog st.lastCompletedStep pass.timestamp
    return some (result pass.execution pass.prior .success .success st.stepsLog.length
      (.str "Playbook execution completed successfully.") none)

/-- `_process_steps`. -/
def processSteps (pass : Pass) (startIndex : Nat) (stepsLog : List LogEntry)
    (lastCompletedStep : Option Int) : Prog (Option PassResult) := do
  match ← processLoop py pass (pass.steps.length - startIndex)
      ⟨startIndex, stepsLog, lastCompletedStep, false, .null⟩ with
  | .next st | .stop st => finishSteps py pass st
  | .returned r => return some r
  | .raised _ => return none

/-! ## Passes -/

/-- `_resume_progress`: where to start, and the last completed step to go on from. -/
def resumeProgress (execution : Execution) : Nat × Option Int :=
  match execution.lastCompletedStep with
  | none => (0, none)
  | some completed => if completed < 0 then (0, none) else (completed.toNat + 1, some completed)

/-- `_process_running_execution`. -/
def processRunningExecution (execution : Execution) (now : Int) (prior : ExecutionStatus)
    (owner : WorkerId) (duration : LeaseDuration) : Prog (Option PassResult) := do
  match ← issue (.getDefinition execution.playbookId) with
  | none =>
    let message : Json := .str "Playbook definition not found."
    let stepsLog := [failureEntry py none .null message .definitionNotFound now none]
    let _ ← finalizeFailed py execution.id owner stepsLog none now
    return some (result execution prior .failed .failed stepsLog.length message none)
  | some definition =>
    let start := resumeProgress execution
    processSteps py ⟨execution, definition.steps, now, prior, owner, duration⟩
      (min start.1 definition.steps.length) execution.stepsLog start.2

/-- `_fail_awaiting_execution`. -/
def failAwaitingExecution (execution : Execution) (stepsLog : List LogEntry)
    (stepIndex : Option Nat) (code : StepErrorCode) (message : String) (now : Int)
    (owner : WorkerId) : Prog (Option PassResult) := do
  let entry := failureEntry py stepIndex (.str "require_approval") (.str message) code now none
  let _ ← finalizeFailed py execution.id owner (stepsLog ++ [entry]) execution.lastCompletedStep now
  return some (result execution .awaitingApproval .failed .failed 0 (.str message) none)

/-- The log with a gate event, added unless the log has it. -/
def withGateEvent (stepsLog : List LogEntry) (gateIndex : Nat) (request : ApprovalRequest)
    (status : EntryStatus) (event : EntryEvent) (message : String) (now : Int) : List LogEntry :=
  if hasGateEvent stepsLog gateIndex request.id event then stepsLog
  else stepsLog ++ [approvalDecisionEntry gateIndex request status event message now]

def resumeLeaseNotAcquired (execution : Execution) (message : String) :
    Prog (Option PassResult) := do
  let latest ← issue (.getExecution execution.id)
  return some (skipResult execution .awaitingApproval ((latest.getD execution).status)
    "lease_not_acquired" message)

/-- The `approved` branch of `_process_awaiting_approval_execution`. -/
def resumeApproved (execution : Execution) (gateIndex : Nat) (request : ApprovalRequest)
    (now : Int) (owner : WorkerId) (duration : LeaseDuration) : Prog (Option PassResult) := do
  let _ ← appendPlaybookApprovalDecisionOutcomeEvent execution request "approval_approved" "running"
    "Approval granted for simulated playbook gate."
  let approvedLog := withGateEvent execution.stepsLog gateIndex request .approved
    .approvalApproved "Approval granted for simulated playbook gate." now
  let stepsLog := withGateEvent approvedLog gateIndex request .resumed .approvalResumed
    "Simulation resumed after approval." now
  match ← issue (.acquireResumeLease execution.id owner stepsLog (some gateIndex) duration now) with
  | none =>
    resumeLeaseNotAcquired execution
      "Playbook execution could not be leased for approval resume."
  | some resumed =>
    let _ ← appendPlaybookRunningOutcomeEvent resumed
    let _ ← appendPlaybookResumedOutcomeEvent resumed request
    match ← issue (.getDefinition execution.playbookId) with
    | none =>
      failAwaitingExecution py resumed stepsLog (some gateIndex) .invalidResumeDefinition
        "Playbook definition could not be loaded for approval resume." now owner
    | some definition =>
      processSteps py ⟨resumed, definition.steps, now, .awaitingApproval, owner, duration⟩
        (gateIndex + 1) stepsLog (some gateIndex)

/-- The key of a gate step that says what its denial or its expiration leads to. -/
def terminalKey (status : ApprovalStatus) : String :=
  if status = .denied then "on_denied" else "on_expired"

/-- Does the gate step at the index continue on a branch after this decision? -/
def branchContinues (steps : List Json) (gateIndex : Nat) (status : ApprovalStatus) : Bool :=
  match steps[gateIndex]? with
  | some gateStep => (gateStep.getD (terminalKey status) (.str "fail")).isOneOf ["branch"]
  | none => false

/-- The event of a denied or expired gate. -/
def closedGateEvent (status : ApprovalStatus) : EntryEvent :=
  if status = .denied then .approvalDenied else .approvalExpired

/-- The entry status of a denied or expired gate. -/
def closedGateStatus (status : ApprovalStatus) : EntryStatus :=
  if status = .denied then .denied else .expired

/-- The `denied` and `expired` branch of `_process_awaiting_approval_execution`. -/
def closeGate (execution : Execution) (gateIndex : Nat) (request : ApprovalRequest)
    (now : Int) (owner : WorkerId) (duration : LeaseDuration) : Prog (Option PassResult) := do
  let definition ← issue (.getDefinition execution.playbookId)
  let steps := (definition.map (·.steps)).getD []
  let continues := branchContinues steps gateIndex request.status
  let text := request.status.text
  let ending := if continues then "continuing to branch path." else "stopped safely."
  let _ ← appendPlaybookApprovalDecisionOutcomeEvent execution request s!"approval_{text}"
    (if continues then "running" else "blocked")
    s!"Approval {text}; simulated playbook {ending}"
  let stepsLog := withGateEvent execution.stepsLog gateIndex request
    (closedGateStatus request.status) (closedGateEvent request.status)
    s!"Approval {text}; later steps were not run." now
  if continues then
    match ← issue (.acquireResumeLease execution.id owner stepsLog (some gateIndex) duration now) with
    | none =>
      resumeLeaseNotAcquired execution
        "Playbook execution could not be leased for approval branch resume."
    | some resumed =>
      let _ ← appendPlaybookRunningOutcomeEvent resumed
      processSteps py ⟨resumed, steps, now, .awaitingApproval, owner, duration⟩
        (gateIndex + 1) stepsLog (some gateIndex)
  else
    let skipped := skippedLaterStepEntries steps (gateIndex + 1) s!"approval_{text}" now
    let _ ← finalizeNotActioned execution.id owner (stepsLog ++ skipped)
      execution.lastCompletedStep now
    return some (result execution .awaitingApproval .notActioned .notActioned 0
      (.str s!"Approval {text}; simulated playbook stopped safely.") none)

/-- `_process_awaiting_approval_execution`. -/
def processAwaitingApprovalExecution (execution : Execution) (now : Int) (owner : WorkerId)
    (duration : LeaseDuration) : Prog (Option PassResult) :=
  match latestGate execution.stepsLog with
  | none =>
    failAwaitingExecution py execution execution.stepsLog none .missingApprovalGate
      "Awaiting approval execution has no approval gate entry." now owner
  | some gateIndex => do
    match ← issue (.latestRequest execution.id gateIndex true now) with
    | none =>
      failAwaitingExecution py execution execution.stepsLog (some gateIndex)
        .missingApprovalRequest "Linked approval request was not found." now owner
    | some request =>
      match request.status with
      | .pending =>
        return some (skipResult execution .awaitingApproval .awaitingApproval "approval_pending"
          "Playbook execution is still awaiting approval.")
      | .approved => resumeApproved py execution gateIndex request now owner duration
      | .denied | .expired => closeGate py execution gateIndex request now owner duration

/-- The result of a pass over an unknown execution. -/
def executionNotFound (id : Nat) : PassResult where
  executionId := id
  playbookId := none
  priorStatus := none
  newStatus := none
  outcome := .skipped
  stepsProcessed := 0
  message := .str "Playbook execution not found."
  reason := some "execution_not_found"

/-- The `pending` part of `process_playbook_execution`. -/
def processPendingExecution (execution : Execution) (now : Int) (owner : WorkerId)
    (duration : LeaseDuration) : Prog (Option PassResult) := do
  match ← issue (.acquireLease execution.id owner duration now) with
  | none =>
    let latest ← issue (.getExecution execution.id)
    let status := (latest.getD execution).status
    return some (skipResult execution .pending status
      (if status = .pending then "lease_not_acquired" else "claim_failed")
      "Playbook execution could not be leased for processing.")
  | some running =>
    let _ ← appendPlaybookRunningOutcomeEvent running
    processRunningExecution py running now .pending owner duration

/-- `process_playbook_execution`. -/
def processPlaybookExecution (id : Nat) (now : Int) (owner : WorkerId)
    (duration : LeaseDuration) : Prog (Option PassResult) := do
  match ← issue (.getExecution id) with
  | none => return some (executionNotFound id)
  | some execution =>
    match execution.status with
    | .pending => processPendingExecution py execution now owner duration
    | .running =>
      if execution.leaseOwner = some owner then
        processRunningExecution py execution now .running owner duration
      else if execution.leaseOwner.isSome then
        return some (skipResult execution .running .running "lease_not_owned"
          "Running playbook execution is owned by another worker.")
      else
        return some (skipResult execution .running .running "already_running"
          "Running playbook execution was not re-run.")
    | .awaitingApproval => processAwaitingApprovalExecution py execution now owner duration
    | status =>
      return some (skipResult execution status status "terminal_status"
        "Terminal playbook execution was not re-run.")

/-- What `process_next_pending_playbook_execution` ends with: nothing to claim, a processed
    execution, or an exception. -/
inductive Claim where
  | empty
  | processed (r : PassResult)
  | raised

/-- `process_next_pending_playbook_execution`. -/
def processNextPendingPlaybookExecution (now : Int) (owner : WorkerId)
    (duration : LeaseDuration) : Prog Claim := do
  match ← issue (.claimNext owner duration now) with
  | none => return .empty
  | some claimed =>
    let _ ← appendPlaybookRunningOutcomeEvent claimed
    match ← processRunningExecution py claimed now .pending owner duration with
    | none => return .raised
    | some r => return .processed r

/-- `_normalize_limit`. -/
def normalizeLimit (limit : Int) : Nat :=
  if limit < 1 then 1 else (min limit 50).toNat

/-- The first loop of `process_playbook_execution_batch`; `none` when a pass raised. -/
def processPendingLoop (now : Int) (owner : WorkerId) (duration : LeaseDuration) :
    Nat → List PassResult → Prog (Option (List PassResult))
  | 0, results => return some results
  | fuel + 1, results => do
    match ← processNextPendingPlaybookExecution py now owner duration with
    | .empty => return some results
    | .raised => return none
    | .processed r => processPendingLoop now owner duration fuel (results ++ [r])

/-- The second loop of `process_playbook_execution_batch`; `none` when a pass raised. -/
def processAwaitingLoop (now : Int) (owner : WorkerId) (duration : LeaseDuration) :
    List Execution → List PassResult → Prog (Option (List PassResult))
  | [], results => return some results
  | row :: rows, results => do
    match ← processPlaybookExecution py row.id now owner duration with
    | none => return none
    | some r => processAwaitingLoop now owner duration rows (results ++ [r])

/-- `process_playbook_execution_batch`: the results of its passes, which its counters count. -/
def processPlaybookExecutionBatch (limit : Int) (now : Int) (owner : WorkerId)
    (duration : LeaseDuration) : Prog (Option (List PassResult)) := do
  let batchLimit := normalizeLimit limit
  match ← processPendingLoop py now owner duration batchLimit [] with
  | none => return none
  | some results =>
    let remaining := batchLimit - results.length
    if remaining = 0 then return some results
    else
      let awaitingRows ← issue (.listAwaitingApproval remaining)
      processAwaitingLoop py now owner duration awaitingRows results

end

end SiemDashboard.StepExecutor
