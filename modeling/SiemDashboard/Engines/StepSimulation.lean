import SiemDashboard.Engines.OutcomeEvents

/-!
# Executing one step

The functions of `engines/playbook_step_executor.py` that execute a single step and produce its
`steps_log` entry.  A result `Except.error` is a Python exception that leaves the function.

* **Parameters** — `resolveStepParams`.
* **Notification and adapter steps** — `simulateNotificationPolicySlackStep`,
  `simulateAdapterStep`, `recordNotificationDeliveryAttempt`.
* **Response steps** — `executeCanonicalResponseStep`.
* **Control steps** — `executeBranchStep`, `executeTriggerPlaybookStep`,
  `executeEnrichContextStep`.
* **Dispatch** — `simulateStep`.
-/

namespace SiemDashboard.StepExecutor

open Atomic Python PlaybookRegistry ParamBinding BranchConditions PlaybookStore

variable (py : Python)

/-! ## Parameters -/

/-- `resolve_step_params` without an alert snapshot. -/
def resolveStepParams (execution : Execution) (params : Json) :
    Prog (Except BindingError Json) :=
  if params.fields.isEmpty then return .ok (.obj [])
  else if needsAlert params then
    match execution.alertId with
    | none =>
      return .error ⟨.bindingAlertContextMissing,
        "Dynamic alert binding requires an alert_id on the execution."⟩
    | some alertId => do
      match ← issue (.call (.fetchAlert alertId)) with
      | none =>
        return .error ⟨.bindingAlertNotFound,
          s!"Alert {alertId} was not found for parameter binding."⟩
      | some alert => return resolveParams (some alert) execution params
  else return resolveParams none execution params

/-- `step.get("params")` when it is a dict, `{}` otherwise. -/
def stepParams (step : Json) : Json := (step.get "params").dictOrEmpty

/-! ## Notification and adapter steps -/

/-- The columns of a delivery attempt that a step entry shows. -/
def deliverySummary (attempt : Json) : Json :=
  .obj ([ "id", "provider", "mode", "status", "adapter_name", "action", "playbook_step_index",
    "failure_code", "failure_message", "circuit_breaker_state" ].map fun key =>
      (key, attempt.get key))

def successEntry (stepIndex : Nat) (action : Json) (event : Option EntryEvent) (mode : EntryMode)
    (message output : Json) (extra : List (String × Json)) (now : Int) : LogEntry where
  stepIndex := some stepIndex
  action := action
  status := .success
  event := event
  mode := mode
  skipped := false
  startedAt := some now
  completedAt := some now
  approvalRequestId := none
  message := message
  output := output
  error := none
  extra := extra

/-- The entry of a notification step whose delivery is already active. -/
def alreadyDeliveredEntry (step : Json) (action : String) (stepIndex : Nat) (delivery : Json)
    (now : Int) : LogEntry :=
  let output : Json := .obj (flags true false ++
    [ ("skipped", .bool true),
      ("skip_reason", .str ("delivery_" ++ py.str (delivery.get "status"))),
      ("failure_classification", .str "duplicate_delivery"),
      ("existing_delivery_id", delivery.get "id"),
      ("existing_delivery_status", delivery.get "status"),
      ("idempotency_key", delivery.get "idempotency_key") ])
  { successEntry stepIndex (.str action) (some .notificationDeliveryAlreadyDelivered) .simulation
      (.str "Notification delivery already succeeded; adapter call skipped.") output
      (flags true false ++ labelExtra step) now with skipped := true }

/-- The mode text of an adapter result or a delivery attempt, `simulation` unless it is `real`. -/
def resultMode (mode : Json) : EntryMode :=
  if normalizedText py mode "simulation" = "real" then .real else .simulation

/-- The `simulated` flag of a result: the given boolean, or that the mode is not `real`. -/
def simulatedFlag (value : Json) (mode : EntryMode) : Bool :=
  match value with
  | .bool b => b
  | _ => mode != .real

/-- `value is True` -/
def isTrue : Json → Bool
  | .bool b => b
  | _ => false

/-- The code of a failed adapter call, from its failure classification. -/
def adapterErrorCode (classification : String) : StepErrorCode :=
  if classification = "circuit_state_invalid" then .circuitBreakerInvalid
  else if classification = "circuit_open" then .circuitBreakerOpen
  else .adapterSimulationFailed

/-- The entry of a notification that the policy suppressed. -/
def suppressedNotificationEntry (step : Json) (stepIndex : Nat) (now : Int) (result attempt : Json)
    (output : List (String × Json)) : LogEntry :=
  let duplicate := isTrue (result.get "duplicate")
  let existing := (attempt.get "metadata").get "duplicate_of_status"
  let skipReason :=
    if duplicate && existing.isOneOf ["success", "pending"] then
      .str s!"delivery_{py.str existing}"
    else if attempt.isObj then attempt.get "failure_code"
    else .str "policy_suppressed"
  let event := if duplicate then .notificationDeliveryAlreadyDelivered
    else .notificationPolicySuppressed
  let message := (result.get "message").orElse
    (.str "Notification policy suppressed Slack delivery.")
  { successEntry stepIndex (.str "notify_slack") (some event) .simulation message
      (.obj (output ++
        [ ("skipped", .bool true), ("skip_reason", skipReason),
          ("failure_classification", attempt.get "failure_code"),
          ("idempotency_key", attempt.get "idempotency_key") ]))
      (flags true false ++ labelExtra step) now with skipped := true }

/-- The entry of a notification that was delivered or failed. -/
def deliveredNotificationEntry (step : Json) (stepIndex : Nat) (now : Int) (result attempt : Json)
    (output : List (String × Json)) (mode : EntryMode) (simulated executed : Bool) : LogEntry :=
  let success := (result.get "success").truthy || (attempt.get "status").isOneOf ["success"]
  let failureText := (result.get "message").orElse (attempt.get "failure_message")
  let entry := successEntry stepIndex (.str "notify_slack") none mode
    (failureText.orElse (.str "Slack delivery processed.")) (.obj output)
    (flags simulated executed ++ labelExtra step) now
  if success then entry
  else
    let code :=
      if (attempt.get "failure_code").isOneOf ["circuit_open"] then .circuitBreakerOpen
      else if (attempt.get "failure_code").isOneOf ["circuit_state_invalid"] then
        .circuitBreakerInvalid
      else .adapterSimulationFailed
    { entry with
      status := .failed
      error := some ⟨code, failureText.orElse (.str "Slack delivery failed safely.")⟩ }

/-- The last part of `_simulate_notification_policy_slack_step`: from the delivery's result to the
    entry. -/
def notificationPolicyEntry (step : Json) (stepIndex : Nat) (now : Int) (params circuit : Json)
    (result : Json) : LogEntry :=
  let attempt := result.get "attempt"
  let metadata := (attempt.get "metadata").dictOrEmpty
  let mode := resultMode py (attempt.get "mode")
  let simulated := simulatedFlag (metadata.get "simulated") mode
  let executed := (metadata.get "executed").truthy
  let adapterResult := match result.get "adapter_result" with
    | .obj kvs => [("adapter_result", .obj kvs)]
    | _ => []
  let output := flags simulated executed ++
    [ ("adapter_mode", .str mode.text), ("resolved_params", params), ("circuit_breaker", circuit),
      ("notification_policy", .obj
        [ ("purpose", result.get "purpose"), ("delivery_stage", result.get "delivery_stage"),
          ("route_key", result.get "route_key"),
          ("suppressed", .bool (isTrue (result.get "suppressed"))),
          ("duplicate", .bool (isTrue (result.get "duplicate"))) ]),
      ("notification_delivery", if attempt.isObj then deliverySummary attempt else .null) ] ++
    adapterResult
  if isTrue (result.get "suppressed") then
    suppressedNotificationEntry py step stepIndex now result attempt output
  else
    deliveredNotificationEntry step stepIndex now result attempt output mode simulated executed

/-- `_simulate_notification_policy_slack_step`. -/
def simulateNotificationPolicySlackStep (step : Json) (stepIndex : Nat) (now : Int)
    (execution : Execution) : Prog (Except String LogEntry) := do
  match ← issue (.call (.existingActiveDelivery "slack" "notify_slack" execution.id stepIndex)) with
  | some delivery => return .ok (alreadyDeliveredEntry py step "notify_slack" stepIndex delivery now)
  | none =>
    match ← resolveStepParams execution (stepParams step) with
    | .error error =>
      return .ok (failureEntry py (some stepIndex) (.str "notify_slack")
        (.str error.message) error.code now none)
    | .ok params =>
      match ← issue (.call (.sendPlaybookNotification execution.id (params.get "message")
          (params.get "purpose") stepIndex)) with
      | .error message => return .error message
      | .ok result =>
        let attempt := result.get "attempt"
        let _ ←
          if (attempt.get "id").isNull then pure none
          else appendNotificationDeliveryOutcomeEvent py execution attempt
        let circuit ← issue (.call (.circuitBreaker "slack"))
        return .ok (notificationPolicyEntry py step stepIndex now params circuit result)

/-- What `_record_playbook_block_tracking` returns. -/
structure BlockTracking where
  success : Bool
  errorCode : Option ResponseErrorCode
  message : String
  details : Json

/-- `_record_playbook_block_tracking`. -/
def recordPlaybookBlockTracking (stepIndex : Nat) (execution : Execution) (params : Json) :
    Prog (Except String BlockTracking) :=
  let sourceIp := params.get "source_ip"
  if !sourceIp.truthy then
    return .ok ⟨false, some .validationNoTarget, "No source_ip for blocklist tracking", .obj []⟩
  else do
    match ← issue (.call (.validateBlockedIp (py.str sourceIp))) with
    | .error message => return .ok ⟨false, some .invalidIndicator, message, .obj []⟩
    | .ok () =>
      match ← issue (.call (.executeResponseCommand
          { action := "block_ip"
            indicatorValue := some (py.str sourceIp)
            alertId := execution.alertId
            incidentId := execution.incidentId
            reason := (params.get "reason").orElse (.str "Playbook block_ip tracking")
            playbookExecutionId := execution.id
            playbookStepIndex := stepIndex
            idempotencyKey := s!"playbook-block-{execution.id}-{stepIndex}" })) with
      | .error message => return .error message
      | .ok result => return .ok ⟨result.success, result.errorCode, result.message, result.details⟩

/-- The entry with the outcome of its blocklist tracking.  Targets that may not be tracked keep the
    adapter's success. -/
def withBlockTracking (entry : LogEntry) (tracking : BlockTracking) : LogEntry :=
  let tracked := { entry with
    output := .obj (entry.output.fields ++ [("blocklist_tracking", tracking.details)]) }
  let text : Json := .str tracking.message
  match tracking.success, tracking.errorCode with
  | false, none =>
    { tracked with
      status := .failed
      error := some ⟨.blocklistTrackingFailed,
        text.orElse (.str "Blocklist tracking failed")⟩
      message := text.orElse entry.message }
  | _, _ => tracked

/-- The entry `_simulate_adapter_step` makes of an adapter's result. -/
def adapterEntry (step : Json) (action : String) (stepIndex : Nat) (now : Int)
    (params circuit adapterResult : Json) : LogEntry :=
  let success := isTrue (adapterResult.get "success")
  let mode := resultMode py (adapterResult.get "mode")
  let simulated := simulatedFlag (adapterResult.get "simulated") mode
  let executed := isTrue (adapterResult.get "executed")
  let output : Json := .obj (flags simulated executed ++
    [ ("adapter_mode", .str mode.text), ("resolved_params", params),
      ("adapter_result", adapterResult), ("circuit_breaker", circuit) ])
  let completed := if mode = .real && executed then "Real adapter action completed."
    else "Simulated adapter action completed."
  let message := (adapterResult.get "message").orElse
    (.str (if success then completed else "Adapter action failed safely."))
  let entry := successEntry stepIndex (.str action) none mode message output
    (flags simulated executed ++ labelExtra step) now
  if success then entry
  else
    let classification := normalizedText py
      ((adapterResult.get "metadata").get "failure_classification") ""
    { entry with
      status := .failed
      error := some ⟨adapterErrorCode classification,
        (adapterResult.get "message").orElse message⟩ }

/-- The adapter call of `_simulate_adapter_step` and what follows it. -/
def runAdapter (step : Json) (action : String) (adapter : String × String) (stepIndex : Nat)
    (now : Int) (execution : Execution) (params : Json) : Prog (Except String LogEntry) := do
  let context : Json := .obj
    [ ("execution_id", .int execution.id), ("playbook_id", .str execution.playbookId),
      ("alert_id", (execution.alertId.map fun id => Json.int id).getD .null),
      ("incident_id", (execution.incidentId.map fun id => Json.int id).getD .null),
      ("step_index", .int stepIndex) ]
  match ← issue (.call (.executeAdapter adapter.1 adapter.2 params context)) with
  | .error message =>
    let circuit ← issue (.call (.circuitBreaker adapter.1))
    return .ok (failureEntry py (some stepIndex) (.str action)
      (.str s!"Simulated adapter action failed safely: {message}") .adapterSimulationFailed now
      (some (.obj (flags true false ++
        [ ("adapter", .str adapter.1), ("adapter_action", .str adapter.2),
          ("circuit_breaker", circuit) ]))))
  | .ok adapterResult =>
    let circuit ← issue (.call (.circuitBreaker adapter.1))
    let entry := adapterEntry py step action stepIndex now params circuit adapterResult
    if entry.status = .success && action = "block_ip" then
      match ← recordPlaybookBlockTracking py stepIndex execution params with
      | .error message => return .error message
      | .ok tracking => return .ok (withBlockTracking entry tracking)
    else return .ok entry

/-- The part of `_simulate_adapter_step` after the duplicate check. -/
def runAdapterStep (step : Json) (action : String) (adapter : String × String) (stepIndex : Nat)
    (now : Int) (execution : Execution) : Prog (Except String LogEntry) := do
  match ← resolveStepParams execution (stepParams step) with
  | .error error =>
    return .ok (failureEntry py (some stepIndex) (.str action) (.str error.message)
      error.code now none)
  | .ok params =>
    if action = "block_ip" then
      match ← issue (.call (.requireUnprotectedTarget (params.get "source_ip"))) with
      | some (code, message) =>
        return .ok (failureEntry py (some stepIndex) (.str action)
          (.str message) (.response code) now none)
      | none => runAdapter py step action adapter stepIndex now execution params
    else runAdapter py step action adapter stepIndex now execution params

/-- `_simulate_adapter_step`. -/
def simulateAdapterStep (step : Json) (action : String) (adapter : String × String)
    (stepIndex : Nat) (now : Int) (execution : Execution) : Prog (Except String LogEntry) :=
  match providerForAction? action with
  | some provider => do
    match ← issue (.call (.existingActiveDelivery provider action execution.id stepIndex)) with
    | some delivery => return .ok (alreadyDeliveredEntry py step action stepIndex delivery now)
    | none => runAdapterStep py step action adapter stepIndex now execution
  | none => runAdapterStep py step action adapter stepIndex now execution

/-- `_delivery_status_from_adapter_result`. -/
def deliveryStatusFromAdapterResult (adapterResult : Json) : String :=
  let metadata := (adapterResult.get "metadata").orElse (.obj [])
  let classification := normalizedText py (metadata.get "failure_classification") ""
  if isTrue (adapterResult.get "success") then "success"
  else if classification = "timeout" then "timeout"
  else if [ "circuit_open", "circuit_state_invalid", "provider_rate_limited", "guard_failed",
      "credential_missing" ].contains classification then "blocked"
  else if normalizedText py (adapterResult.get "mode") "" = "real" &&
      isTrue (adapterResult.get "simulated") &&
      (match adapterResult.get "executed" with
        | .bool b => !b
        | _ => false) then "blocked"
  else "failed"

/-- The circuit state a delivery attempt records. -/
def deliveryCircuitState (output adapterResult : Json) : Json :=
  let snapshot := ((output.get "circuit_breaker").orElse (.obj [])).get "state"
  let metadata := (adapterResult.get "metadata").orElse (.obj [])
  let raw := snapshot.orElse (metadata.get "circuit_state")
  if !raw.truthy then .null
  else
    let candidate := lower (strip (py.str raw))
    if ["closed", "open", "half_open", "unknown", "invalid"].contains candidate then .str candidate
    else .null

/-- The delivery attempt `_record_notification_delivery_attempt` stores for a step. -/
def newDeliveryAttempt (provider : String) (adapter : String × String) (execution : Execution)
    (stepIndex : Nat) (entry : LogEntry) : Json :=
  let adapterResult := (entry.output.get "adapter_result").orElse (.obj [])
  let failure := if (adapterResult.get "success").truthy then none else entry.error
  .obj
    [ ("provider", .str provider), ("mode", .str (resultMode py (adapterResult.get "mode")).text),
      ("status", .str (deliveryStatusFromAdapterResult py adapterResult)),
      ("adapter_name", .str adapter.1), ("action", .str adapter.2),
      ("metadata", .obj (((adapterResult.get "metadata").dictOrEmpty).fields ++
        [ ("adapter_mode", adapterResult.get "mode"), ("simulated", adapterResult.get "simulated"),
          ("executed", adapterResult.get "executed") ])),
      ("playbook_execution_id", .int execution.id), ("playbook_step_index", .int stepIndex),
      ("failure_code", (failure.map fun e => Json.str e.code.text).getD .null),
      ("failure_message", (failure.map (·.message)).getD .null),
      ("circuit_breaker_state", deliveryCircuitState py entry.output adapterResult) ]

/-- `_record_notification_delivery_attempt`; a failure to store the attempt answers `none`. -/
def recordNotificationDeliveryAttempt (execution : Execution) (action : String) (stepIndex : Nat)
    (entry : LogEntry) : Prog (Option Json) :=
  match providerForAction? action, adapterAction? action with
  | some provider, some adapter => do
    match ← issue (.call (.createNotificationDelivery
        (newDeliveryAttempt py provider adapter execution stepIndex entry))) with
    | none => return none
    | some attempt =>
      let _ ← appendNotificationDeliveryOutcomeEvent py execution attempt
      return some (deliverySummary attempt)
  | _, _ => return none

/-! ## Response steps -/

/-- `_execute_canonical_response_step`. -/
def executeCanonicalResponseStep (step : Json) (stepIndex : Nat) (now : Int)
    (execution : Execution) (action : String) : Prog (Except String LogEntry) := do
  match ← resolveStepParams execution (stepParams step) with
  | .error error =>
    return .ok (failureEntry py (some stepIndex) (.str action) (.str error.message)
      error.code now none)
  | .ok params =>
    let sourceIp := params.get "source_ip"
    match ← issue (.call (.executeResponseCommand
        { action := action
          indicatorValue := if sourceIp.truthy then some (py.str sourceIp) else none
          alertId := execution.alertId
          incidentId := execution.incidentId
          reason := (params.get "reason").orElse (.str s!"Playbook step {action}")
          playbookExecutionId := execution.id
          playbookStepIndex := stepIndex
          idempotencyKey := s!"playbook-{execution.id}-{stepIndex}-{action}" })) with
    | .error message => return .error message
    | .ok result =>
      if result.success then
        return .ok (successEntry stepIndex (.str action) none .internal (.str result.message)
          (.obj (flags false true ++ result.details.fields ++ [("canonical_response", .bool true)]))
          (labelExtra step) now)
      else
        return .ok (failureEntry py (some stepIndex) (.str action)
          (.str ((result.error.filter (· ≠ "")).getD result.message))
          ((result.errorCode.map .response).getD .responseCommandFailed) now none)

/-! ## Control steps -/

/-- `_resolve_alert_field`. -/
def resolveAlertField (execution : Execution) (field : Json) : Prog (Except BranchFault Json) :=
  match execution.alertId with
  | none =>
    return .error (.error .bindingAlertContextMissing
      "Alert-sourced branch condition requires an alert_id on the execution.")
  | some alertId => do
    match ← issue (.call (.fetchAlert alertId)) with
    | none =>
      return .error (.error .bindingAlertNotFound
        s!"Alert {alertId} was not found for branch evaluation.")
    | some alert =>
      if !field.hashable then return .error (.raised "unhashable type")
      else
        match field.str?.bind alert.get? with
        | none =>
          return .error (.error .bindingFieldMissing
            s!"Branch condition field alert.{py.str field} is missing or null.")
        | some value => return .ok (branchValue value)

/-- The comparison of a status that the log holds, or does not hold. -/
def compareStatus (actual : Option String) (op expected : Json) (missing : String) :
    Except BranchFault Bool :=
  match actual with
  | none => .error (.error .branchContextMissing missing)
  | some status => compareEquality py status op expected

/-- `evaluate_branch_condition`. -/
def evaluateBranchCondition (condition : Json) (execution : Execution)
    (stepsLog : List LogEntry) : Prog (Except BranchFault Bool) :=
  match condition.get? "source", condition.get? "field", condition.get? "op",
      condition.get? "value" with
  | some source, some field, some op, some expected =>
    if source.isOneOf ["alert"] then do
      match ← resolveAlertField py execution field with
      | .error fault => return .error fault
      | .ok actual => return compareValues py actual op expected (py.str field)
    else if source.isOneOf ["previous_step"] then
      return compareStatus py (latestPreviousStepStatus stepsLog) op expected
        "No previous step outcome is available for branch evaluation."
    else
      return compareStatus py (latestApprovalDecisionStatus stepsLog) op expected
        "No approval gate decision is available for branch evaluation."
  | _, _, _, _ => return .error (.raised "KeyError")

/-- What executing a branch step gives: its entry, the entries of the steps it skips, and the
    index to go on with. -/
structure BranchResult where
  entry : LogEntry
  skipEntries : List LogEntry
  nextIndex : Nat

def failedBranch (stepIndex : Nat) (message : String) (code : StepErrorCode) (now : Int) :
    BranchResult :=
  ⟨failureEntry py (some stepIndex) (.str "branch") (.str message) code now none, [],
    stepIndex + 1⟩

/-- A branch step that was evaluated. -/
def takenBranch (step : Json) (stepIndex : Nat) (steps : List Json) (condition : Json)
    (result : Bool) (gotoLabel : Option String) (gotoStepIndex : Nat) (now : Int) :
    BranchResult :=
  let outcome : List (String × Json) :=
    [ ("condition", condition), ("result", .bool result),
      ("goto_label", (gotoLabel.map Json.str).getD .null),
      ("goto_step_index", .int gotoStepIndex) ]
  ⟨successEntry stepIndex (.str "branch") (some .branchEvaluated) .internal
      (.str "Branch condition evaluated.") (.obj (flags false true ++ outcome))
      ([("label", step.get "label")] ++ outcome ++ flags false true) now,
    skippedBranchStepEntries steps (stepIndex + 1) gotoStepIndex now, gotoStepIndex⟩

/-- The goto of a branch whose target is a label. -/
def gotoLabelled (step : Json) (stepIndex : Nat) (steps : List Json) (condition : Json)
    (result : Bool) (label : String) (now : Int) : BranchResult :=
  match resolveLabelTargetIndex steps label stepIndex with
  | none =>
    failedBranch py stepIndex "Branch target label could not be resolved."
      .branchTargetNotFound now
  | some target => takenBranch step stepIndex steps condition result (some label) target now

/-- The part of `_execute_branch_step` after the condition is evaluated. -/
def gotoBranchTarget (step : Json) (stepIndex : Nat) (steps : List Json) (condition : Json)
    (result : Bool) (now : Int) : BranchResult :=
  if result then
    match (step.get "goto_true").nonemptyStr? with
    | none => failedBranch py stepIndex "Branch step goto_true is missing." .branchTargetNotFound now
    | some label => gotoLabelled py step stepIndex steps condition result label now
  else
    match step.get? "goto_false" with
    | none => takenBranch step stepIndex steps condition result none (stepIndex + 1) now
    | some gotoFalse =>
      match gotoFalse.nonemptyStr? with
      | none =>
        failedBranch py stepIndex "Branch step goto_false is invalid."
          .branchTargetNotFound now
      | some label => gotoLabelled py step stepIndex steps condition result label now

/-- `_execute_branch_step`. -/
def executeBranchStep (step : Json) (stepIndex : Nat) (steps : List Json)
    (stepsLog : List LogEntry) (execution : Execution) (now : Int) :
    Prog (Except String BranchResult) :=
  let condition := step.get "condition"
  if !condition.isObj then
    return .ok (failedBranch py stepIndex "Branch step condition must be an object."
      .invalidBranch now)
  else do
    match ← evaluateBranchCondition py condition execution stepsLog with
    | .error (.raised message) => return .error message
    | .error (.error code message) => return .ok (failedBranch py stepIndex message code now)
    | .ok result => return .ok (gotoBranchTarget py step stepIndex steps condition result now)

/-- `MAX_CHAIN_DEPTH`. -/
def maxChainDepth : Nat := 3

/-- `get_playbook_execution_ancestor_chain` from an execution already read. -/
def ancestorsFrom : Nat → Option Execution → Prog (List Execution)
  | maxHops + 1, some current =>
    match current.parentExecutionId with
    | none => return []
    | some parentId => do
      match ← issue (.getExecution parentId) with
      | none => return []
      | some parent => return parent :: (← ancestorsFrom maxHops (some parent))
  | _, _ => return []

/-- `get_playbook_execution_ancestor_chain`. -/
def getPlaybookExecutionAncestorChain (executionId maxHops : Nat) : Prog (List Execution) := do
  let current ← issue (.getExecution executionId)
  ancestorsFrom maxHops current

/-- `_target_in_execution_ancestry`. -/
def targetInExecutionAncestry (execution : Execution) (target : String) : Prog Bool :=
  if target = execution.playbookId then return true
  else do
    let ancestors ← getPlaybookExecutionAncestorChain execution.id maxChainDepth
    return ancestors.any fun ancestor => ancestor.playbookId = target

/-- `create_and_link_playbook_execution_decision`: the linked decision and its first event. -/
def createAndLinkPlaybookExecutionDecision (executionId : Nat) (playbookId eventType : String)
    (key : OutcomeKey) : Prog Unit := do
  match ← issue (.linkDecision executionId) with
  | none => return ()
  | some decision =>
    let _ ← issue (.appendOutcome
      { decisionId := decision.id
        eventType := eventType
        executionMode := "simulation"
        executionState := "selected"
        simulated := true
        externalExecuted := false
        trackingRecorded := false
        executionActor := "system"
        reasonCode := some "simulation_mode"
        outcomeSummary := s!"Playbook {playbookId} execution created."
        playbookExecutionId := some executionId
        playbookStepIndex := none
        approvalRequestId := none
        notificationDeliveryAttemptId := none
        provider := none
        adapterName := none
        idempotencyKey := key })
    return ()

/-- A failed `trigger_playbook` step. -/
def failedTrigger (stepIndex : Nat) (message : String) (code : StepErrorCode) (now : Int) :
    LogEntry :=
  failureEntry py (some stepIndex) (.str "trigger_playbook") (.str message) code now none

/-- The entry of a `trigger_playbook` step that found or created its child. -/
def triggeredEntry (stepIndex : Nat) (target : String) (child : Option Nat) (childDepth : Nat)
    (duplicate : Bool) (now : Int) : LogEntry :=
  let message := if duplicate then
      s!"Target playbook {target} already has an active execution for this alert."
    else s!"Triggered playbook {target}."
  let childFields : List (String × Json) :=
    [ ("child_execution_id", (child.map fun id => Json.int id).getD .null),
      ("child_playbook_id", .str target), ("chain_depth", .int childDepth) ]
  successEntry stepIndex (.str "trigger_playbook") (some .playbookTriggered) .internal
    (.str message) (.obj (flags false true ++ childFields ++ [("duplicate", .bool duplicate)]))
    (flags false true ++ childFields) now

/-- The part of `_execute_trigger_playbook_step` after its checks: create the child once, or find
    the active execution of the pair. -/
def triggerChild (stepIndex : Nat) (execution : Execution) (target : String) (alertId : Nat)
    (now : Int) : Prog (Except String LogEntry) := do
  let childDepth := execution.chainDepth + 1
  match ← issue (.createPendingOnce
      { playbookId := target
        alertId := some alertId
        incidentId := execution.incidentId
        decisionId := none
        soarCorrelationId := none
        parentExecutionId := some execution.id
        chainDepth := childDepth }) with
  | .error _ => return .error "IntegrityError"
  | .ok (some child) =>
    createAndLinkPlaybookExecutionDecision child target "chained" (.chained child)
    return .ok (triggeredEntry stepIndex target (some child) childDepth false now)
  | .ok none =>
    let existing ← issue (.activeForPair target alertId)
    return .ok (triggeredEntry stepIndex target (existing.map (·.id)) childDepth true now)

/-- The part of `_execute_trigger_playbook_step` after the target is known. -/
def triggerTarget (stepIndex : Nat) (execution : Execution) (target : String) (now : Int) :
    Prog (Except String LogEntry) := do
  match ← issue (.getDefinition target) with
  | none =>
    return .ok (failedTrigger py stepIndex
      s!"Target playbook {py.repr (.str target)} was not found." .triggerPlaybookNotFound now)
  | some definition =>
    if !definition.enabled then
      return .ok (failedTrigger py stepIndex
        s!"Target playbook {py.repr (.str target)} is disabled." .triggerPlaybookDisabled now)
    else if execution.chainDepth ≥ maxChainDepth then
      return .ok (failedTrigger py stepIndex "Maximum playbook chain depth exceeded."
        .chainDepthExceeded now)
    else
      if ← targetInExecutionAncestry execution target then
        return .ok (failedTrigger py stepIndex "Playbook chain cycle detected."
          .chainCycleDetected now)
      else
        match execution.alertId with
        | none =>
          return .ok (failedTrigger py stepIndex
            "trigger_playbook requires an alert_id on the parent execution."
            .triggerPlaybookAlertContextMissing now)
        | some alertId => triggerChild stepIndex execution target alertId now

/-- `_execute_trigger_playbook_step`. -/
def executeTriggerPlaybookStep (step : Json) (stepIndex : Nat) (execution : Execution)
    (now : Int) : Prog (Except String LogEntry) :=
  let params := step.get "params"
  if !params.isObj then
    return .ok (failedTrigger py stepIndex "trigger_playbook requires params object."
      .invalidTriggerPlaybookParams now)
  else
    match params.get "playbook_id" with
    | .str target =>
      if strip target = "" then
        return .ok (failedTrigger py stepIndex "trigger_playbook requires params.playbook_id."
          .invalidTriggerPlaybookTarget now)
      else triggerTarget py stepIndex execution (strip target) now
    | _ =>
      return .ok (failedTrigger py stepIndex "trigger_playbook requires params.playbook_id."
        .invalidTriggerPlaybookTarget now)

/-- `_execute_enrich_context_step`. -/
def executeEnrichContextStep (step : Json) (stepIndex : Nat) (execution : Execution)
    (now : Int) : Prog LogEntry :=
  let params := (step.get "params").orElse (.obj [])
  if !params.isObj then
    return failureEntry py (some stepIndex) (.str "enrich_context")
      (.str "enrich_context params must be an object.") .invalidEnrichContextParams now none
  else do
    match ← issue (.call (.buildEnrichmentContext execution.id (params.get "limit"))) with
    | .error message =>
      return failureEntry py (some stepIndex) (.str "enrich_context") (.str message)
        .enrichContextFailed now none
    | .ok context =>
      return successEntry stepIndex (.str "enrich_context") none .readOnly
        (.str "Read-only database enrichment completed; no external action was performed.")
        (.obj (flags false true ++
          [ ("read_only", .bool true), ("external_side_effect", .bool false),
            ("context", context) ]))
        (labelExtra step) now

/-! ## Dispatch -/

/-- `_simulate_step`. -/
def simulateStep (step : Json) (stepIndex : Nat) (now : Int) (execution : Execution) :
    Prog (Except String LogEntry) :=
  if !step.isObj then
    return .ok (failureEntry py (some stepIndex) .null (.str "Playbook step must be an object.")
      .invalidStep now none)
  else
    match (step.get "action").nonemptyStr? with
    | none =>
      return .ok (failureEntry py (some stepIndex) (step.get "action")
        (.str "Playbook step action is required.") .missingAction now none)
    | some action =>
      if action = "notify_slack" then
        simulateNotificationPolicySlackStep py step stepIndex now execution
      else
        match adapterAction? action with
        | some adapter => simulateAdapterStep py step action adapter stepIndex now execution
        | none =>
          if !knownPlaybookActions.contains action then
            return .ok (failureEntry py (some stepIndex) (.str action)
              (.str "Unsupported playbook step action.") .unsupportedAction now none)
          else if action = "monitor" || action = "flag_high_priority" then
            executeCanonicalResponseStep py step stepIndex now execution action
          else
            return .ok (successEntry stepIndex (.str action) none .simulation
              (.str s!"[PLAYBOOK STEP] {action}") (.obj (flags true false)) (labelExtra step) now)

end SiemDashboard.StepExecutor
