import SiemDashboard.Core.PlaybookRecords

/-!
# Response outcome trail

`core/soar_response_outcomes.py`: the append-only outcome events of a response decision and the
checks an event must pass.
-/

namespace SiemDashboard.ResponseOutcomes

open Python Tables

/-- `EXECUTION_MODES`. -/
def executionModes : List String :=
  ["observed", "simulation", "tracking_only", "real", "internal", "read_only"]

/-- `EXECUTION_STATES`. -/
def executionStates : List String :=
  [ "observed", "selected", "queued", "awaiting_approval", "running", "skipped", "blocked",
    "succeeded", "failed" ]

/-- `EXECUTION_ACTORS`. -/
def executionActors : List String :=
  ["queue_worker", "playbook_worker", "adapter", "approval_service", "manual", "system"]

/-- `REASON_CODES`. -/
def reasonCodes : List String :=
  [ "approval_required", "approval_denied", "approval_expired", "simulation_mode",
    "tracking_only", "adapter_unavailable", "provider_error", "policy_blocked",
    "duplicate_suppressed", "unsupported_action" ]

/-- The form the membership validators share: strip, then look the text up. -/
def validateMember (allowed : List String) (message value : String) : Except String String :=
  if allowed.contains (strip value) then .ok (strip value) else .error message

/-- `validate_execution_mode`. -/
def validateExecutionMode (value : String) : Except String String :=
  validateMember executionModes ("execution_mode must be one of ['internal', 'observed', " ++
    "'read_only', 'real', 'simulation', 'tracking_only']") value

/-- `validate_execution_state`. -/
def validateExecutionState (value : String) : Except String String :=
  validateMember executionStates ("execution_state must be one of ['awaiting_approval', " ++
    "'blocked', 'failed', 'observed', 'queued', 'running', 'selected', 'skipped', " ++
    "'succeeded']") value

/-- `validate_execution_actor`. -/
def validateExecutionActor (value : String) : Except String String :=
  validateMember executionActors ("execution_actor must be one of ['adapter', " ++
    "'approval_service', 'manual', 'playbook_worker', 'queue_worker', 'system']") value

/-- `validate_reason_code`: absent and blank codes are no code. -/
def validateReasonCode (value : Option String) : Except String (Option String) :=
  match value with
  | none => .ok none
  | some code =>
    if strip code = "" then .ok none
    else
      (validateMember reasonCodes ("reason_code must be one of ['adapter_unavailable', " ++
        "'approval_denied', 'approval_expired', 'approval_required', 'duplicate_suppressed', " ++
        "'policy_blocked', 'provider_error', 'simulation_mode', 'tracking_only', " ++
        "'unsupported_action']") code).map some

/-- `validate_outcome_booleans`. -/
def validateOutcomeBooleans (executionMode executionState : String)
    (externalExecuted trackingRecorded simulated : Bool) : Except String Unit :=
  if executionMode = "observed" then
    if externalExecuted || trackingRecorded || simulated then
      .error ("observed outcomes must set external_executed, tracking_recorded, and simulated to " ++
        "false")
    else .ok ()
  else if simulated && executionMode ≠ "simulation" then
    .error "simulated may only be true when execution_mode is simulation"
  else if externalExecuted && (executionMode ≠ "real" || executionState ≠ "succeeded") then
    .error "external_executed may only be true for real/succeeded outcomes"
  else if trackingRecorded && (executionMode ≠ "tracking_only" || executionState ≠ "succeeded") then
    .error "tracking_recorded may only be true for tracking_only/succeeded outcomes"
  else if executionMode = "simulation" && (externalExecuted || trackingRecorded) then
    .error "simulation outcomes must set external_executed and tracking_recorded to false"
  else if executionMode = "real" && (simulated || trackingRecorded) then
    .error "real outcomes must set simulated and tracking_recorded to false"
  else if executionMode = "tracking_only" && (simulated || externalExecuted) then
    .error "tracking_only outcomes must set simulated and external_executed to false"
  else if executionMode = "internal" && (simulated || externalExecuted || trackingRecorded) then
    .error "internal outcomes must set simulated, external_executed, and tracking_recorded to false"
  else if executionMode = "read_only" && (simulated || externalExecuted || trackingRecorded) then
    .error ("read_only outcomes must set simulated, external_executed, and tracking_recorded to " ++
      "false")
  else .ok ()

/-- The arguments of `append_outcome_event` as the playbook code passes them: always with a
    decision id, an event type and an idempotency key. -/
structure OutcomeArgs where
  decisionId : Nat
  eventType : String
  executionMode : String
  executionState : String
  simulated : Bool
  externalExecuted : Bool
  trackingRecorded : Bool
  executionActor : String
  reasonCode : Option String
  outcomeSummary : String
  playbookExecutionId : Option Nat
  playbookStepIndex : Option Nat
  approvalRequestId : Option Nat
  notificationDeliveryAttemptId : Option Nat
  provider : Option String
  adapterName : Option String
  idempotencyKey : OutcomeKey

/-- The event with the given idempotency key. -/
def outcomeByKey? (db : Db) (key : OutcomeKey) : Option OutcomeEvent :=
  db.outcomes.find? fun event => event.idempotencyKey = key

/-- The checks `append_outcome_event` makes on its arguments alone; it returns the mode, the state,
    the actor and the reason code to store. -/
def validateOutcomeArgs (args : OutcomeArgs) :
    Except String (String × String × String × Option String) := do
  if strip args.outcomeSummary = "" then .error "outcome_summary is required"
  let mode ← validateExecutionMode args.executionMode
  let state ← validateExecutionState args.executionState
  let actor ← validateExecutionActor args.executionActor
  let reason ← validateReasonCode args.reasonCode
  validateOutcomeBooleans mode state args.externalExecuted args.trackingRecorded args.simulated
  return (mode, state, actor, reason)

/-- The row `append_outcome_event` inserts. -/
def outcomeRow (args : OutcomeArgs) (mode state actor : String) (reason : Option String)
    (decision : Decision) : OutcomeEvent where
  decisionId := args.decisionId
  soarCorrelationId := decision.soarCorrelationId
  eventType := strip args.eventType
  executionMode := mode
  executionState := state
  externalExecuted := args.externalExecuted
  trackingRecorded := args.trackingRecorded
  simulated := args.simulated
  executionActor := actor
  reasonCode := reason
  outcomeSummary := strip args.outcomeSummary
  playbookExecutionId := args.playbookExecutionId
  playbookStepIndex := args.playbookStepIndex
  approvalRequestId := args.approvalRequestId
  notificationDeliveryAttemptId := args.notificationDeliveryAttemptId
  provider := args.provider
  adapterName := args.adapterName
  idempotencyKey := args.idempotencyKey

/-- `append_outcome_event`: a second event with the same idempotency key is not appended. -/
def appendOutcomeEvent (db : Db) (args : OutcomeArgs) : Except String OutcomeEvent × Db :=
  match validateOutcomeArgs args with
  | .error message => (.error message, db)
  | .ok (mode, state, actor, reason) =>
    match db.decisions.row? args.decisionId with
    | none => (.error s!"decision_id {args.decisionId} not found", db)
    | some decision =>
      if strip args.eventType = "" then (.error "event_type is required", db)
      else
        match outcomeByKey? db args.idempotencyKey with
        | some existing => (.ok existing, db)
        | none =>
          let event := outcomeRow args mode state actor reason decision
          (.ok event, { db with outcomes := db.outcomes ++ [event] })

/-- What appending an event comes to: an error, the event there is, or a new one. -/
theorem appendOutcomeEvent_cases (db : Db) (args : OutcomeArgs) :
    (∃ message, appendOutcomeEvent db args = (.error message, db)) ∨
      (∃ existing, outcomeByKey? db args.idempotencyKey = some existing ∧
        appendOutcomeEvent db args = (.ok existing, db)) ∨
      ∃ mode state actor reason decision,
        validateOutcomeArgs args = .ok (mode, state, actor, reason) ∧
        outcomeByKey? db args.idempotencyKey = none ∧
        appendOutcomeEvent db args =
          (.ok (outcomeRow args mode state actor reason decision),
            { db with outcomes :=
                db.outcomes ++ [outcomeRow args mode state actor reason decision] }) := by
  unfold appendOutcomeEvent
  rcases hvalid : validateOutcomeArgs args with message | ⟨mode, state, actor, reason⟩
  · exact .inl ⟨message, rfl⟩
  · cases hdecision : db.decisions.row? args.decisionId with
    | none => exact .inl ⟨_, rfl⟩
    | some decision =>
      by_cases htype : strip args.eventType = ""
      · exact .inl ⟨_, by simp [htype]; rfl⟩
      · cases hkey : outcomeByKey? db args.idempotencyKey with
        | some existing => exact .inr (.inl ⟨existing, rfl, by simp [htype]⟩)
        | none =>
          exact .inr (.inr ⟨mode, state, actor, reason, decision, rfl, rfl, by simp [htype]⟩)

end SiemDashboard.ResponseOutcomes
