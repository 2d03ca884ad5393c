import Mathlib.Data.List.Infix
import SiemDashboard.Engines.AlertBatch

/-!
# Enqueueing for committed alerts

`engines/soar_enqueue_orchestrator.py`: the response actions of a committed batch are queued, but for
the alerts that a playbook has claimed.

* **Results** — `EnqueueOutcome`, `EnqueueResult`.
* **Outcomes** — `tryWriteCanonicalEnqueueOutcome`.
* **The batch** — `enqueueCommittedAlerts`, alert by alert.
-/

namespace SiemDashboard.SoarEnqueueOrchestrator

open Tables Transactions AlertBatch ResponseActionQueueStore ResponseDecisions ActionVocabulary

/-! ## Results -/

/-- The `status` of a result, with what the source puts beside it. -/
inductive EnqueueOutcome where
  | skipped (skipReason : String)
  | rejected (code message : String)
  | error (message : String)
  | duplicateSkipped
  | enqueued (queueId : Nat)
deriving DecidableEq, Repr

/-- An entry of the results. -/
structure EnqueueResult where
  index : Nat
  alertId : Option Nat
  sourceIp : Option String
  action : Option String
  outcome : EnqueueOutcome
deriving DecidableEq, Repr

/-! ## Outcomes -/

/-- `_infer_decision_source`. -/
def inferDecisionSource (alert : CommittedAlert) : String :=
  if "correl".toList <:+: (Python.lower (alert.alertType.getD "")).toList then "correlation"
  else "detection_default"

section

variable (env : Environment)

/-- The body of `_try_write_canonical_enqueue_outcome`, without a savepoint. -/
def writeCanonicalEnqueueOutcome (alertId : Nat) (sourceIp action : String) (queueId : Nat)
    (alert : CommittedAlert) : Program Unit := do
  let decision ← createDecision env noteFailure
    { alertId := some alertId
      sourceIp := some sourceIp
      selectedAction := action
      decisionSource := inferDecisionSource alert
      outcomeSummary := s!"Response '{action}' selected and queued in simulation mode."
      queueId := some queueId }
  let _ ← linkAction env noteFailure queueId decision
  let _ ← appendOutcome env noteFailure
    { decisionId := decision.id
      eventType := "queued"
      executionMode := "simulation"
      executionState := "queued"
      externalExecuted := false
      trackingRecorded := false
      simulated := true
      executionActor := "system"
      reasonCode := some "simulation_mode"
      outcomeSummary :=
        s!"Response '{action}' queued in simulation mode. No real execution has occurred."
      alertId := some alertId
      sourceIp := some sourceIp
      queueId := some queueId
      idempotencyKey := s!"queue-enqueue-{queueId}" }
  return ()

/-- `_try_write_canonical_enqueue_outcome`: whatever it raises is logged. -/
def tryWriteCanonicalEnqueueOutcome (alertId : Nat) (sourceIp action : String) (queueId : Nat)
    (alert : CommittedAlert) : Program Unit := do
  let _ ← attempt (writeCanonicalEnqueueOutcome env alertId sourceIp action queueId alert)
  return ()

/-! ## The batch -/

/-- An alert with all its fields and a valid action. -/
def enqueueAlert (index alertId : Nat) (sourceIp action : String) (alert : CommittedAlert) :
    Program EnqueueResult := do
  let result := EnqueueResult.mk index (some alertId) (some sourceIp) (some action)
  match ← attempt (enqueueAction env alertId sourceIp action) with
  | .error message => return result (.error message)
  | .ok none => return result .duplicateSkipped
  | .ok (some queueId) =>
    tryWriteCanonicalEnqueueOutcome env alertId sourceIp action queueId alert
    return result (.enqueued queueId)

/-- The body of the loop over the alerts. -/
def enqueueCommittedAlert (excluded : List Nat) (index : Nat) (alert : CommittedAlert) :
    Program EnqueueResult :=
  let result := EnqueueResult.mk index alert.alertId alert.sourceIp
  if alert.alertId.any excluded.contains then
    return result alert.responseAction (.skipped "playbook_precedence")
  else
    match alert.alertId, alert.sourceIp, alert.responseAction with
    | none, _, action => return result action (.skipped "missing_alert_id")
    | some _, none, action => return result action (.skipped "missing_source_ip")
    | some _, some _, none => return result none (.skipped "missing_response_action")
    | some alertId, some sourceIp, some action =>
      match validateActionForResponseQueue env.py action with
      | .error e => return result (some action) (.rejected e.code e.message)
      | .ok action => enqueueAlert env index alertId sourceIp action alert

/-- `for index, alert in enumerate(alerts_created)`. -/
def enqueueFrom (excluded : List Nat) :
    Nat → List CommittedAlert → List EnqueueResult → Program (List EnqueueResult)
  | _, [], results => return results
  | index, alert :: rest, results => do
    let result ← enqueueCommittedAlert env excluded index alert
    enqueueFrom excluded (index + 1) rest (results ++ [result])

/-- `enqueue_committed_alerts`. -/
def enqueueCommittedAlerts (alerts : List CommittedAlert) (excludeAlertIds : List Nat) :
    Program (List EnqueueResult) :=
  enqueueFrom env excludeAlertIds 0 alerts []

end

end SiemDashboard.SoarEnqueueOrchestrator
