import SiemDashboard.Lib.Queries
import SiemDashboard.Lib.Runs
import SiemDashboard.Lib.Tables

/-!
# Cooldown of closed pfSense alerts

The check of `engines/detection_engine.py` that keeps a closed alert from coming back at once, with the
route of `routes/alert_mutation_routes.py` that closes alerts and records the closures.

* **Rows** — `Alert`, `AuditRow`, `State`.
* **Check** — `severityRank`, `closureRows`, `lastClosure`, `pfsenseCooldownSuppresses`.
* **Candidates** — `considerCandidate`.
* **Histories** — `Op`, `updateAlertStatus`, `step`.
-/

namespace SiemDashboard.PfsenseCooldown

open Tables

/-! ## Rows -/

/-- A row of `alerts`. -/
structure Alert where
  id : Nat
  alertType : String
  severity : String
  sourceIp : String
  status : String
deriving DecidableEq

abbrev Alerts := Table Alert Alert.id

/-- A row of `audit_log`, with the status in its details. -/
structure AuditRow where
  eventType : String
  targetAlertId : Nat
  status : String
  createdAt : Int
deriving DecidableEq

/-- The alerts, and the audit log in the order of its entries. -/
structure State where
  alerts : Alerts
  auditLog : List AuditRow

/-! ## Check -/

/-- `PFSENSE_ALERT_COOLDOWN_MINUTES`. -/
def pfsenseAlertCooldownMinutes : Int := 60

/-- The beginning of the cooldown window, in microseconds. -/
def windowStart (now : Int) : Int := now - pfsenseAlertCooldownMinutes * 60 * 1000000

/-- `_PFSENSE_SEVERITY_RANK.get(severity, 0)`. -/
def severityRank (severity : String) : Nat :=
  if severity = "low" then 0
  else if severity = "medium" then 1
  else if severity = "high" then 2
  else if severity = "critical" then 3
  else 0

def isResolvedOf (sourceIp alertType : String) (a : Alert) : Bool :=
  a.sourceIp = sourceIp && a.alertType = alertType && a.status = "resolved"

/-- The entry records a closure of the alert in the window. -/
def recordsClosure (now : Int) (a : Alert) (entry : AuditRow) : Bool :=
  entry.targetAlertId = a.id && entry.eventType = "UPDATE_ALERT_STATUS" &&
    entry.status = "resolved" && decide (windowStart now ≤ entry.createdAt)

/-- The rows of the join in `_pfsense_cooldown_suppresses`. -/
def closureRows (s : State) (sourceIp alertType : String) (now : Int) : List (Alert × AuditRow) :=
  (s.alerts.rows.filter (isResolvedOf sourceIp alertType)).flatMap fun a =>
    (s.auditLog.filter (recordsClosure now a)).map fun entry => (a, entry)

/-- The time that the query orders by. -/
def closureTime (row : Alert × AuditRow) : Int := row.2.createdAt

/-- How the database answers the query. -/
abbrev ClosureQuery := Queries.NewestFirst closureTime

/-- The row that the query returns: `ORDER BY al.created_at DESC LIMIT 1`. -/
def lastClosure (query : ClosureQuery) (s : State) (sourceIp alertType : String) (now : Int) :
    Option (Alert × AuditRow) :=
  (query.order (closureRows s sourceIp alertType now)).head?

/-- `_pfsense_cooldown_suppresses`. -/
def pfsenseCooldownSuppresses (query : ClosureQuery) (s : State) (sourceIp alertType : String) (now : Int)
    (candidateSeverity : String) : Bool :=
  match lastClosure query s sourceIp alertType now with
  | none => false
  | some row => severityRank candidateSeverity ≤ severityRank row.1.severity

/-! ## Candidates -/

def newAlert (sourceIp alertType severity : String) (id : Nat) : Alert :=
  ⟨id, alertType, severity, sourceIp, "open"⟩

theorem newAlert_id (sourceIp alertType severity : String) (id : Nat) :
    (newAlert sourceIp alertType severity id).id = id := rfl

def insertAlert (s : State) (sourceIp alertType severity : String) : State :=
  { s with
    alerts := s.alerts.insert (newAlert sourceIp alertType severity)
      (newAlert_id sourceIp alertType severity) }

def hasOpenAlert (s : State) (sourceIp alertType : String) : Bool :=
  s.alerts.rows.any fun a => a.sourceIp = sourceIp && a.alertType = alertType && a.status = "open"

/-- What the detection rules do with a candidate: it becomes an alert unless one is open or the cooldown
    suppresses it. -/
def considerCandidate (query : ClosureQuery) (s : State) (sourceIp alertType : String) (now : Int)
    (severity : String) : State :=
  if hasOpenAlert s sourceIp alertType then s
  else if pfsenseCooldownSuppresses query s sourceIp alertType now severity then s
  else insertAlert s sourceIp alertType severity

/-! ## Histories -/

/-- What happens to alerts.  An entry of the audit log is written after the status is committed, and its
    failure is only logged: `recorded` says whether it was written. -/
inductive Op where
  | create (sourceIp alertType severity : String)
  | updateStatus (alertId : Nat) (status : String) (now : Int) (recorded : Bool)
deriving DecidableEq

def withStatus (status : String) (a : Alert) : Alert := { a with status := status }

theorem withStatus_id (status : String) (a : Alert) : (withStatus status a).id = a.id := rfl

/-- `update_alert_status`: no change for a status that is not valid or an alert that does not exist. -/
def updateAlertStatus (s : State) (alertId : Nat) (status : String) (now : Int) (recorded : Bool) :
    State :=
  if !(["open", "resolved"].contains status) then s
  else if (s.alerts.row? alertId).isNone then s
  else
    { alerts := s.alerts.update alertId (fun _ => true) (withStatus status) (withStatus_id status)
      auditLog := s.auditLog ++
        if recorded then [⟨"UPDATE_ALERT_STATUS", alertId, status, now⟩] else [] }

/-- The state after an operation. -/
def step (s : State) : Op → State
  | .create sourceIp alertType severity => insertAlert s sourceIp alertType severity
  | .updateStatus alertId status now recorded => updateAlertStatus s alertId status now recorded

/-- Before the first alert. -/
def State.init : State := ⟨Table.empty, []⟩

/-- The state after a history. -/
def after (ops : List Op) : State := Runs.after step State.init ops

end SiemDashboard.PfsenseCooldown
