import SiemDashboard.Core.ResponseOutcomes
import SiemDashboard.Core.IndicatorResponseRegistry

/-!
# Response decisions

`core/soar_response_outcomes.py` as the response commands use it: each command records a decision and
appends an outcome event to its trail.  `ResponseOutcomes` is the part that playbook passes use, with
their own kinds of idempotency keys.

* **Tables** — `ResponseDecision`, `ResponseEvent`, and `Trail`, in which every event belongs to a
  decision.
* **Operations** — `createResponseDecision`, `appendOutcomeEvent`.
* **What an operation does** — `createResponseDecision_eq_ok`, `appendOutcomeEvent_eq_ok`.
-/

namespace SiemDashboard.ResponseDecisions

open Python Tables ResponseOutcomes ResponseRegistry

/-! ## Tables -/

/-- A row of `soar_response_decisions`. -/
structure ResponseDecision where
  id : Nat
  soarCorrelationId : String
  alertId : Option Nat
  incidentId : Option Nat
  sourceIp : Option String
  selectedAction : String
  decisionSource : String
  reasonCode : Option String
  outcomeSummary : String
  playbookExecutionId : Option Nat
  playbookStepIndex : Option Int
  queueId : Option Nat
  approvalRequestId : Option Nat
  createdBy : Option Nat
  createdAt : Int

/-- A row of `soar_response_outcome_events`. -/
structure ResponseEvent where
  id : Nat
  decisionId : Nat
  soarCorrelationId : String
  eventType : String
  alertId : Option Nat
  incidentId : Option Nat
  sourceIp : Option String
  executionMode : String
  executionState : String
  externalExecuted : Bool
  trackingRecorded : Bool
  simulated : Bool
  executionActor : String
  reasonCode : Option String
  outcomeSummary : String
  queueId : Option Nat
  playbookExecutionId : Option Nat
  approvalRequestId : Option Nat
  responseActionLogId : Option Nat
  idempotencyKey : String
  occurredAt : Int

/-- The decisions and their events. -/
structure Trail where
  decisions : Table ResponseDecision ResponseDecision.id
  outcomes : Table ResponseEvent ResponseEvent.id
  /-- `decision_id REFERENCES soar_response_decisions`; decisions are never deleted. -/
  refers : ∀ id e, outcomes.row? id = some e → e.decisionId < decisions.next

/-- Nothing is decided. -/
def Trail.empty : Trail where
  decisions := .empty
  outcomes := .empty
  refers id e he := by
    rw [Table.empty_row?] at he
    cases he

/-! ## Operations -/

/-- `DECISION_SOURCES`. -/
def decisionSources : List String :=
  ["detection_default", "correlation", "playbook", "manual", "migration"]

/-- `validate_decision_source`. -/
def validateDecisionSource (value : String) : Except String String :=
  validateMember decisionSources ("decision_source must be one of ['correlation', " ++
    "'detection_default', 'manual', 'migration', 'playbook']") value

/-- The arguments of `create_response_decision`. -/
structure NewDecision where
  alertId : Option Nat := none
  incidentId : Option Nat := none
  sourceIp : Option String := none
  selectedAction : String
  decisionSource : String
  reasonCode : Option String := none
  outcomeSummary : String
  playbookExecutionId : Option Nat := none
  playbookStepIndex : Option Int := none
  queueId : Option Nat := none
  approvalRequestId : Option Nat := none
  createdBy : Option Nat := none

/-- The checks `create_response_decision` makes on its arguments; it returns the source and the
    reason code to store. -/
def validateDecision (new : NewDecision) : Except String (String × Option String) := do
  if strip new.selectedAction = "" then .error "selected_action is required"
  if strip new.outcomeSummary = "" then .error "outcome_summary is required"
  let source ← validateDecisionSource new.decisionSource
  let reason ← validateReasonCode new.reasonCode
  if !new.playbookStepIndex.all (0 ≤ ·) then .error "playbook_step_index must be >= 0"
  return (source, reason)

/-- `generate_soar_correlation_id`, with the twelve digits of a fresh uuid. -/
def generateSoarCorrelationId (alertId : Option Nat) (shortUuid : String) : String :=
  "soar-" ++ (alertId.map toString).getD "none" ++ "-" ++ shortUuid

/-- The row `create_response_decision` inserts. -/
def decisionRow (new : NewDecision) (source : String) (reason : Option String)
    (correlationId : String) (now : Int) (id : Nat) : ResponseDecision where
  id := id
  soarCorrelationId := correlationId
  alertId := new.alertId
  incidentId := new.incidentId
  sourceIp := new.sourceIp
  selectedAction := strip new.selectedAction
  decisionSource := source
  reasonCode := reason
  outcomeSummary := strip new.outcomeSummary
  playbookExecutionId := new.playbookExecutionId
  playbookStepIndex := new.playbookStepIndex
  queueId := new.queueId
  approvalRequestId := new.approvalRequestId
  createdBy := new.createdBy
  createdAt := now

theorem decisionRow_id (new : NewDecision) (source : String) (reason : Option String)
    (correlationId : String) (now : Int) (id : Nat) :
    (decisionRow new source reason correlationId now id).id = id := rfl

def NewDecision.storable (new : NewDecision) (refs : References) : Bool :=
  new.alertId.all refs.alert && new.incidentId.all refs.incident &&
    new.playbookExecutionId.all refs.execution && new.queueId.all refs.queue &&
    new.approvalRequestId.all refs.approval && new.createdBy.all refs.user

/-- The correlation id is unique. -/
def Trail.known (trail : Trail) (correlationId : String) : Bool :=
  trail.decisions.rows.any fun d => d.soarCorrelationId = correlationId

/-- `INSERT INTO soar_response_decisions`. -/
def Trail.insertDecision (trail : Trail) (decision : Nat → ResponseDecision)
    (hdecision : ∀ id, (decision id).id = id) : Trail :=
  { trail with
    decisions := trail.decisions.insert decision hdecision
    refers := fun id e he => Nat.lt_succ_of_lt (trail.refers id e he) }

/-- `create_response_decision`. -/
def createResponseDecision (trail : Trail) (refs : References) (new : NewDecision)
    (shortUuid : String) (now : Int) : Except CommandError (ResponseDecision × Trail) :=
  match validateDecision new with
  | .error message => .error (.value message)
  | .ok (source, reason) =>
    let correlationId := generateSoarCorrelationId new.alertId shortUuid
    if !new.storable refs || trail.known correlationId then .error .integrity
    else
      .ok (decisionRow new source reason correlationId now trail.decisions.next,
        trail.insertDecision (decisionRow new source reason correlationId now)
          (decisionRow_id new source reason correlationId now))

/-- The arguments of `append_outcome_event`, always with the id of a decision. -/
structure NewOutcome where
  decisionId : Nat
  eventType : String
  executionMode : String
  executionState : String
  externalExecuted : Bool
  trackingRecorded : Bool
  simulated : Bool
  executionActor : String
  reasonCode : Option String
  outcomeSummary : String
  alertId : Option Nat := none
  incidentId : Option Nat := none
  sourceIp : Option String := none
  queueId : Option Nat := none
  playbookExecutionId : Option Nat := none
  approvalRequestId : Option Nat := none
  responseActionLogId : Option Nat := none
  idempotencyKey : String

/-- The checks `append_outcome_event` makes on its arguments alone; it returns the mode, the state,
    the actor and the reason code to store. -/
def validateOutcome (new : NewOutcome) :
    Except String (String × String × String × Option String) := do
  if strip new.outcomeSummary = "" then .error "outcome_summary is required"
  let mode ← validateExecutionMode new.executionMode
  let state ← validateExecutionState new.executionState
  let actor ← validateExecutionActor new.executionActor
  let reason ← validateReasonCode new.reasonCode
  validateOutcomeBooleans mode state new.externalExecuted new.trackingRecorded new.simulated
  return (mode, state, actor, reason)

/-- The row `append_outcome_event` inserts. -/
def outcomeRow (new : NewOutcome) (mode state actor : String) (reason : Option String)
    (decision : ResponseDecision) (now : Int) (id : Nat) : ResponseEvent where
  id := id
  decisionId := new.decisionId
  soarCorrelationId := decision.soarCorrelationId
  eventType := strip new.eventType
  alertId := new.alertId.or decision.alertId
  incidentId := new.incidentId.or decision.incidentId
  sourceIp := new.sourceIp.or decision.sourceIp
  executionMode := mode
  executionState := state
  externalExecuted := new.externalExecuted
  trackingRecorded := new.trackingRecorded
  simulated := new.simulated
  executionActor := actor
  reasonCode := reason
  outcomeSummary := strip new.outcomeSummary
  queueId := new.queueId
  playbookExecutionId := new.playbookExecutionId
  approvalRequestId := new.approvalRequestId
  responseActionLogId := new.responseActionLogId
  idempotencyKey := strip new.idempotencyKey
  occurredAt := now

theorem outcomeRow_id (new : NewOutcome) (mode state actor : String) (reason : Option String)
    (decision : ResponseDecision) (now : Int) (id : Nat) :
    (outcomeRow new mode state actor reason decision now id).id = id := rfl

/-- The references and lengths of an event. -/
def storableOutcome (refs : References) (row : ResponseEvent) : Bool :=
  row.idempotencyKey.length ≤ 160 && row.eventType.length ≤ 64 && row.alertId.all refs.alert &&
    row.incidentId.all refs.incident && row.queueId.all refs.queue &&
    row.playbookExecutionId.all refs.execution && row.approvalRequestId.all refs.approval

/-- The event with the idempotency key. -/
def Trail.eventByKey? (trail : Trail) (key : String) : Option ResponseEvent :=
  trail.outcomes.rows.find? fun e => e.idempotencyKey = key

/-- `INSERT INTO soar_response_outcome_events`, for a decision that exists. -/
def Trail.insertOutcome (trail : Trail) (event : Nat → ResponseEvent)
    (hevent : ∀ id, (event id).id = id)
    (hdecision : ∀ id, (event id).decisionId < trail.decisions.next) : Trail :=
  { trail with
    outcomes := trail.outcomes.insert event hevent
    refers := fun id e he => by
      rw [Table.insert_row?] at he
      split at he
      · cases he
        exact hdecision _
      · exact trail.refers id e he }

/-- `append_outcome_event`: an event whose key is known is not appended again. -/
def appendOutcomeEvent (trail : Trail) (refs : References) (new : NewOutcome) (now : Int) :
    Except CommandError (ResponseEvent × Trail) :=
  match validateOutcome new with
  | .error message => .error (.value message)
  | .ok (mode, state, actor, reason) =>
    match hdecision : trail.decisions.row? new.decisionId with
    | none => .error (.value s!"decision_id {new.decisionId} not found")
    | some decision =>
      if strip new.eventType = "" then .error (.value "event_type is required")
      else if new.idempotencyKey ≠ "" ∧ strip new.idempotencyKey = "" then
        .error (.value "idempotency_key must not be blank")
      else
        match trail.eventByKey? (strip new.idempotencyKey) with
        | some existing => .ok (existing, trail)
        | none =>
          let event := outcomeRow new mode state actor reason decision now
          if !storableOutcome refs (event trail.outcomes.next) then .error .integrity
          else
            .ok (event trail.outcomes.next,
              trail.insertOutcome event (outcomeRow_id new mode state actor reason decision now)
                fun _ => trail.decisions.lt_next hdecision)

/-! ## What an operation does -/

theorem createResponseDecision_eq_ok {trail trail' : Trail} {refs : References} {new : NewDecision}
    {shortUuid : String} {now : Int} {decision : ResponseDecision}
    (h : createResponseDecision trail refs new shortUuid now = .ok (decision, trail')) :
    decision.id = trail.decisions.next ∧ trail'.decisions.next = trail.decisions.next + 1 ∧
      trail'.decisions.row? trail.decisions.next = some decision ∧
      (∀ id, id ≠ trail.decisions.next → trail'.decisions.row? id = trail.decisions.row? id) ∧
      trail'.outcomes = trail.outcomes ∧ trail.known decision.soarCorrelationId = false := by
  unfold createResponseDecision at h
  split at h
  · cases h
  · dsimp only at h
    split at h
    · cases h
    · next haccepted =>
      rw [Bool.or_eq_true, not_or, Bool.not_eq_true, Bool.not_eq_true] at haccepted
      cases h
      refine ⟨rfl, rfl, ?_, fun id hid => ?_, rfl, haccepted.2⟩
      · simp [Trail.insertDecision, Table.insert_row?]
      · simp [Trail.insertDecision, Table.insert_row?, hid]

/-- The decision that is recorded. -/
theorem createResponseDecision_row {trail trail' : Trail} {refs : References} {new : NewDecision}
    {shortUuid : String} {now : Int} {decision : ResponseDecision}
    (h : createResponseDecision trail refs new shortUuid now = .ok (decision, trail')) :
    ∃ source reason, decision = decisionRow new source reason
      (generateSoarCorrelationId new.alertId shortUuid) now trail.decisions.next := by
  unfold createResponseDecision at h
  split at h
  · cases h
  · next source reason _ =>
    dsimp only at h
    split at h
    · cases h
    · cases h
      exact ⟨source, reason, rfl⟩

/-- When the arguments of a decision with a proper source and reason code are in order. -/
theorem validateDecision_isOk {new : NewDecision} {source : String} {reason : Option String}
    (haction : strip new.selectedAction ≠ "") (hsummary : strip new.outcomeSummary ≠ "")
    (hsource : validateDecisionSource new.decisionSource = .ok source)
    (hreason : validateReasonCode new.reasonCode = .ok reason) :
    (validateDecision new).isOk = true ↔ new.playbookStepIndex.all (0 ≤ ·) = true := by
  unfold validateDecision
  simp only [if_neg haction, if_neg hsummary, hsource, hreason]
  cases new.playbookStepIndex.all (0 ≤ ·) <;>
    simp [Except.isOk, Except.toBool, bind, Except.bind, pure, Except.pure]

/-- The checks of an outcome, from the checks of its parts. -/
theorem validateOutcome_eq {new : NewOutcome} {mode state actor : String} {reason : Option String}
    (hsummary : strip new.outcomeSummary ≠ "")
    (hmode : validateExecutionMode new.executionMode = .ok mode)
    (hstate : validateExecutionState new.executionState = .ok state)
    (hactor : validateExecutionActor new.executionActor = .ok actor)
    (hreason : validateReasonCode new.reasonCode = .ok reason)
    (hbooleans : validateOutcomeBooleans mode state new.externalExecuted new.trackingRecorded
      new.simulated = .ok ()) :
    validateOutcome new = .ok (mode, state, actor, reason) := by
  unfold validateOutcome
  rw [if_neg hsummary, hmode, hstate, hactor, hreason]
  simp only [bind, Except.bind, pure, Except.pure, hbooleans]

/-- When a decision is recorded. -/
theorem createResponseDecision_isOk {trail : Trail} {refs : References} {new : NewDecision}
    {shortUuid : String} {now : Int} :
    (createResponseDecision trail refs new shortUuid now).isOk = true ↔
      (validateDecision new).isOk = true ∧ new.storable refs = true ∧
        trail.known (generateSoarCorrelationId new.alertId shortUuid) = false := by
  unfold createResponseDecision
  split
  · next message hinvalid =>
    rw [hinvalid]
    simp [Except.isOk, Except.toBool]
  · next source reason hvalid =>
    rw [hvalid]
    dsimp only
    split
    · next hrejected =>
      rw [Bool.or_eq_true, Bool.not_eq_true'] at hrejected
      refine iff_of_false (by simp [Except.isOk, Except.toBool]) fun haccepted => ?_
      obtain ⟨-, hstorable, hfresh⟩ := haccepted
      rcases hrejected with h | h
      · rw [hstorable] at h
        cases h
      · rw [hfresh] at h
        cases h
    · next haccepted =>
      rw [Bool.or_eq_true, Bool.not_eq_true', not_or, Bool.not_eq_false, Bool.not_eq_true]
        at haccepted
      exact iff_of_true rfl ⟨rfl, haccepted⟩

/-- When an outcome is appended, for a decision that exists. -/
theorem appendOutcomeEvent_isOk {trail : Trail} {refs : References} {new : NewOutcome} {now : Int}
    {mode state actor : String} {reason : Option String} {decision : ResponseDecision}
    (hvalid : validateOutcome new = .ok (mode, state, actor, reason))
    (hdecision : trail.decisions.row? new.decisionId = some decision)
    (htype : strip new.eventType ≠ "") (hkey : strip new.idempotencyKey ≠ "") :
    (appendOutcomeEvent trail refs new now).isOk = true ↔
      (trail.eventByKey? (strip new.idempotencyKey)).isSome = true ∨
        storableOutcome refs
          (outcomeRow new mode state actor reason decision now trail.outcomes.next) = true := by
  unfold appendOutcomeEvent
  rw [hvalid]
  dsimp only
  split
  · next hnone =>
    rw [hdecision] at hnone
    cases hnone
  · next decision' hdecision' =>
    obtain rfl := Option.some_injective _ (hdecision.symm.trans hdecision')
    rw [if_neg htype, if_neg fun h => hkey h.2]
    split
    · next existing hknown =>
      rw [hknown]
      exact iff_of_true rfl (.inl rfl)
    · next hnew =>
      rw [hnew]
      split
      · next hrejected =>
        rw [Bool.not_eq_true'] at hrejected
        rw [hrejected]
        simp [Except.isOk, Except.toBool]
      · next hstored =>
        rw [Bool.not_eq_true', Bool.not_eq_false] at hstored
        exact iff_of_true rfl (.inr hstored)

/-- What appending an event comes to: the event there is, or a new one of the decision. -/
theorem appendOutcomeEvent_eq_ok {trail trail' : Trail} {refs : References} {new : NewOutcome}
    {now : Int} {event : ResponseEvent}
    (h : appendOutcomeEvent trail refs new now = .ok (event, trail')) :
    (trail.eventByKey? (strip new.idempotencyKey) = some event ∧ trail' = trail) ∨
      (trail.eventByKey? (strip new.idempotencyKey) = none ∧
        trail'.decisions = trail.decisions ∧
        trail'.outcomes.rows = trail.outcomes.rows ++ [event] ∧
        event.decisionId = new.decisionId ∧
        event.idempotencyKey = strip new.idempotencyKey ∧
        ∃ decision, trail.decisions.row? new.decisionId = some decision ∧
          event.soarCorrelationId = decision.soarCorrelationId) := by
  unfold appendOutcomeEvent at h
  split at h
  · cases h
  · split at h
    · cases h
    · next decision hdecision =>
      split at h
      · cases h
      · split at h
        · cases h
        · split at h
          · next existing hkey =>
            cases h
            exact .inl ⟨hkey, rfl⟩
          · next hkey =>
            dsimp only at h
            split at h
            · cases h
            · cases h
              refine .inr ⟨hkey, rfl, ?_, rfl, rfl, decision, hdecision, rfl⟩
              exact Table.insert_rows trail.outcomes _ (outcomeRow_id new _ _ _ _ decision now)

end SiemDashboard.ResponseDecisions
