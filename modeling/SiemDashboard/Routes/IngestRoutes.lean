import SiemDashboard.Engines.SoarEnqueueOrchestrator
import SiemDashboard.Engines.SoarPlaybookOrchestrator

/-!
# After an ingest

`routes/ingest_routes.py`: what every ingest route does with the alerts it has committed, on the same
connection.

* **Playbooks** — `createPlaybookExecutionsForAlerts`, which also sends the notifications.
* **Precedence** — `playbookClaimedAlertIds`.
* **The tail of a route** — `automate`: playbooks first, then the queue for the other alerts.
-/

namespace SiemDashboard.IngestRoutes

open Transactions AlertBatch SoarPlaybookOrchestrator SoarEnqueueOrchestrator

section

variable (env : Environment)

/-- `notify_for_alert`, as far as it touches the tables of the batch. -/
def notifyForAlert (alertId : Nat) : Program Unit :=
  statement env.faults silent fun _ db => .ok ((), { db with trail := env.notified alertId db.trail })

/-- The body of the loop over the alerts; an alert id of 0 is no id. -/
def sendAlertNotification (alert : CommittedAlert) : Program Unit :=
  match alert.alertId with
  | none | some 0 => return ()
  | some alertId => do
    let _ ← attempt (notifyForAlert env alertId)
    return ()

/-- `_send_alert_notifications_for_alerts`. -/
def sendAlertNotificationsForAlerts : List CommittedAlert → Program Unit
  | [] => return ()
  | alert :: rest => do
    sendAlertNotification env alert
    sendAlertNotificationsForAlerts rest

/-- `_create_playbook_executions_for_alerts`. -/
def createPlaybookExecutionsForAlerts (alerts : List CommittedAlert) : Program PlaybookReport := do
  match ← attempt (do
      let report ← createPendingExecutionsForCommittedAlerts env alerts
      commit
      return report) with
  | .ok report =>
    let _ ← attempt (do sendAlertNotificationsForAlerts env alerts; commit)
    return report
  | .error _ =>
    rollback
    return { summary := { errors := 1 } }

/-- `_playbook_claimed_alert_ids`. -/
def playbookClaimedAlertIds (report : PlaybookReport) : List Nat :=
  report.results.filterMap fun result =>
    match result.outcome with
    | .created _ | .duplicate => result.alertId
    | _ => none

/-- The enqueueing of a route. -/
def enqueueForAlerts (alerts : List CommittedAlert) (claimed : List Nat) :
    Program (List EnqueueResult) := do
  match ← attempt (do
      let results ← enqueueCommittedAlerts env alerts claimed
      commit
      return results) with
  | .ok results => return results
  | .error _ => return []

/-- What a route does with its alerts; the results are what the two stages report. -/
def automate (alerts : List CommittedAlert) : Program (PlaybookReport × List EnqueueResult) := do
  let report ← createPlaybookExecutionsForAlerts env alerts
  let results ← enqueueForAlerts env alerts (playbookClaimedAlertIds report)
  return (report, results)

end

end SiemDashboard.IngestRoutes
