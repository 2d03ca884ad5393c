import SiemDashboard.Engines.AlertBatch

/-!
# Playbook orchestration

`engines/soar_playbook_orchestrator.py`: pending executions of the matching playbooks for every alert of
a committed batch, each with a decision and a first outcome event.

* **Reports** — `PlaybookOutcome`, `PlaybookResult`, `PlaybookReport`.
* **Reads** — `getParentSoarCorrelationId`, `getAlertSourceIp`, `matchPlaybooks`.
* **Decisions** — `tryCreateAndLinkPlaybookExecutionDecision`.
* **The batch** — `createPendingExecutionsForCommittedAlerts`, alert by alert and playbook by playbook.
-/

namespace SiemDashboard.SoarPlaybookOrchestrator

open Tables Transactions AlertBatch PlaybookStore ResponseDecisions

/-! ## Reports -/

/-- The `status` of a result, with what the source puts beside it. -/
inductive PlaybookOutcome where
  | skipped (skipReason : String)
  | error (message : String)
  | noMatch
  | duplicate
  | created (executionId : Nat)
deriving DecidableEq, Repr

/-- An entry of `results`. -/
structure PlaybookResult where
  index : Nat
  alertId : Option Nat
  playbookId : Option String
  outcome : PlaybookOutcome
deriving DecidableEq, Repr

/-- `summary`. -/
structure PlaybookSummary where
  processedAlerts : Nat := 0
  matchedPlaybooks : Nat := 0
  created : Nat := 0
  duplicates : Nat := 0
  skipped : Nat := 0
  errors : Nat := 0
deriving DecidableEq, Repr

/-- What `create_pending_executions_for_committed_alerts` returns. -/
structure PlaybookReport where
  summary : PlaybookSummary := {}
  results : List PlaybookResult := []
deriving DecidableEq, Repr

/-- A result is counted where its status has a counter. -/
def PlaybookSummary.count (summary : PlaybookSummary) : PlaybookOutcome → PlaybookSummary
  | .skipped _ => { summary with skipped := summary.skipped + 1 }
  | .error _ => { summary with errors := summary.errors + 1 }
  | .noMatch => summary
  | .duplicate => { summary with duplicates := summary.duplicates + 1 }
  | .created _ => { summary with created := summary.created + 1 }

/-- `results.append(…)`, and the counter beside it. -/
def PlaybookReport.add (report : PlaybookReport) (result : PlaybookResult) : PlaybookReport where
  summary := report.summary.count result.outcome
  results := report.results ++ [result]

/-- `summary["processed_alerts"] += 1`. -/
def PlaybookReport.processed (report : PlaybookReport) : PlaybookReport :=
  { report with
    summary := { report.summary with processedAlerts := report.summary.processedAlerts + 1 } }

/-- `summary["matched_playbooks"] += 1`. -/
def PlaybookReport.matched (report : PlaybookReport) : PlaybookReport :=
  { report with
    summary := { report.summary with matchedPlaybooks := report.summary.matchedPlaybooks + 1 } }

section

variable (env : Environment)

/-! ## Reads -/

/-- `get_latest_outcome_for_alert`, as far as its correlation id. -/
def latestCorrelationId (trail : Trail) (alertId : Nat) : Option String :=
  ((trail.outcomes.rows.filter fun e => e.alertId = some alertId).insertionSort
    fun a b => a.occurredAt ≤ b.occurredAt).getLast?.map (·.soarCorrelationId)

/-- `_get_parent_soar_correlation_id`: whatever the lookup raises is no parent. -/
def getParentSoarCorrelationId (alertId : Nat) : Program (Option String) := do
  match ← attempt (query env noteFailure fun db => latestCorrelationId db.trail alertId) with
  | .ok correlationId => return correlationId
  | .error _ => return none

/-- `_get_alert_source_ip`, whose failures are the caller's. -/
def getAlertSourceIp (alertId : Nat) : Program (Option String) :=
  query env silent fun _ => env.alertSourceIp alertId

/-- `match_playbooks`: whatever it raises is no match. -/
def matchPlaybooks (alertId : Nat) : Program (List String) := do
  match ← attempt (query env noteFailure fun db => env.matched db.playbooks alertId) with
  | .ok playbooks => return playbooks
  | .error _ => return []

/-! ## Decisions -/

/-- The first phase: the decision, and the execution's link to it. -/
def createAndLink (executionId : Nat) (playbookId : String) (alertId : Nat)
    (sourceIp : Option String) : Program ResponseDecision := do
  let decision ← createDecision env silent
    { alertId := some alertId
      sourceIp := sourceIp
      selectedAction := "run_playbook"
      decisionSource := "playbook"
      outcomeSummary := s!"Playbook {playbookId} selected for simulated execution."
      playbookExecutionId := some executionId }
  let _ ← linkExecution env silent executionId decision
  return decision

/-- The second phase: the first event of the decision. -/
def appendInitialEvent (executionId : Nat) (playbookId : String) (alertId : Nat)
    (sourceIp : Option String) (decision : ResponseDecision) : Program ResponseEvent :=
  appendOutcome env silent
    { decisionId := decision.id
      eventType := "pending"
      executionMode := "simulation"
      executionState := "selected"
      externalExecuted := false
      trackingRecorded := false
      simulated := true
      executionActor := "system"
      reasonCode := some "simulation_mode"
      outcomeSummary := s!"Playbook {playbookId} execution created."
      alertId := some alertId
      sourceIp := sourceIp
      playbookExecutionId := some executionId
      idempotencyKey := s!"playbook-pending-{executionId}" }

/-- `_try_create_and_link_playbook_execution_decision`; the source address is read before the first
    savepoint. -/
def tryCreateAndLinkPlaybookExecutionDecision (executionId : Nat) (playbookId : String)
    (alertId : Nat) : Program (Option ResponseDecision) := do
  let sourceIp ← getAlertSourceIp env alertId
  match ← underSavepoint env.faults .failed
      (createAndLink env executionId playbookId alertId sourceIp) with
  | .error _ => return none
  | .ok decision =>
    let _ ← underSavepoint env.faults .failed
      (appendInitialEvent env executionId playbookId alertId sourceIp decision)
    return some decision

/-! ## The batch -/

/-- The body of the loop over the playbooks that match an alert. -/
def createForPlaybook (index alertId : Nat) (playbookId : String) (report : PlaybookReport) :
    Program PlaybookReport :=
  if playbookId = "" then
    return report.add ⟨index, some alertId, none, .skipped "missing_playbook_id"⟩
  else do
    match ← attempt (createPendingExecution env playbookId alertId) with
    | .error message =>
      return report.matched.add ⟨index, some alertId, some playbookId, .error message⟩
    | .ok none => return report.matched.add ⟨index, some alertId, some playbookId, .duplicate⟩
    | .ok (some executionId) =>
      let _ ← tryCreateAndLinkPlaybookExecutionDecision env executionId playbookId alertId
      return report.matched.add ⟨index, some alertId, some playbookId, .created executionId⟩

/-- `for playbook in matches`. -/
def createForPlaybooks (index alertId : Nat) :
    List String → PlaybookReport → Program PlaybookReport
  | [], report => return report
  | playbookId :: rest, report => do
    createForPlaybooks index alertId rest (← createForPlaybook env index alertId playbookId report)

/-- The body of the loop over the alerts. -/
def createForAlert (index : Nat) (alert : CommittedAlert) (report : PlaybookReport) :
    Program PlaybookReport :=
  match alert.alertId with
  | none => return report.add ⟨index, none, none, .skipped "missing_alert_id"⟩
  | some alertId => do
    let _ ← getParentSoarCorrelationId env alertId
    let playbooks ← matchPlaybooks env alertId
    if playbooks.isEmpty then return report.processed.add ⟨index, some alertId, none, .noMatch⟩
    else createForPlaybooks env index alertId playbooks report.processed

/-- `for index, alert in enumerate(alerts_created)`. -/
def createForAlerts : Nat → List CommittedAlert → PlaybookReport → Program PlaybookReport
  | _, [], report => return report
  | index, alert :: rest, report => do
    createForAlerts (index + 1) rest (← createForAlert env index alert report)

/-- `create_pending_executions_for_committed_alerts`. -/
def createPendingExecutionsForCommittedAlerts (alerts : List CommittedAlert) :
    Program PlaybookReport :=
  createForAlerts env 0 alerts {}

end

end SiemDashboard.SoarPlaybookOrchestrator
