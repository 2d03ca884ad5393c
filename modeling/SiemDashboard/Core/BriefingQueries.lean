import SiemDashboard.Core.SocBriefingInvestigation
import SiemDashboard.Lib.Dicts
import SiemDashboard.Lib.Queries
import SiemDashboard.Lib.Tables

/-!
# Queries of the scheduled investigation

The queries of `core/ai/soc_briefing_investigation_engine.py`: the candidates of a window by type, and the
fingerprints of recent investigations.

* **Rows** — `AlertRow`, `IncidentRow`, `ReconRow`, `IndicatorRow`, `Situation`.
* **Order** — `urgentFirst`, `severityRank`, `priorityRank`, `mostUrgent`.
* **Candidates** — `alertCandidates`, `incidentCandidates`, `reconCandidates`, `indicatorCandidates`,
  `situationFindings`.
* **Recent investigations** — `CandidateResult`, `recentDedupFingerprints`.
-/

namespace SiemDashboard.BriefingInvestigation

open Dicts Python Tables

/-! ## Rows -/

/-- A row of `alerts`. -/
structure AlertRow where
  id : Nat
  alertType : String
  severity : String
  status : String
  sourceIp : Option String
  createdAt : Int
  message : String
  context : Json

/-- A row of `incidents`. -/
structure IncidentRow where
  id : Nat
  title : String
  severity : String
  priority : String
  status : String
  sourceIp : Option String
  createdAt : Int
  resolvedAt : Option Int

/-- A row of `recon_activities`. -/
structure ReconRow where
  id : Nat
  activityType : String
  severity : String
  status : String
  protectedRangeKey : String
  firstSeen : Int
  lastSeen : Int
  summary : Json

/-- A row of `indicator_registry`. -/
structure IndicatorRow where
  id : Nat
  indicatorType : String
  indicatorValue : String
  currentDisposition : String
  updatedAt : Int

/-- The tables that an investigation plans from. -/
structure Situation where
  alerts : Table AlertRow AlertRow.id
  incidents : Table IncidentRow IncidentRow.id
  reconActivities : Table ReconRow ReconRow.id
  indicators : Table IndicatorRow IndicatorRow.id

/-- `str` of the values of rows that are no texts. -/
structure RowTexts where
  time : Int → String
  json : Json → String

/-! ## Order -/

/-- The order of the queries: by rank, then the newest, then the greatest id first. -/
def urgentFirst {ρ : Type} (rank : ρ → Nat) (time : ρ → Int) (id : ρ → Nat) (x y : ρ) : Prop :=
  rank x < rank y ∨
    rank x = rank y ∧ (time y < time x ∨ time x = time y ∧ id y ≤ id x)

instance {ρ : Type} (rank : ρ → Nat) (time : ρ → Int) (id : ρ → Nat) :
    DecidableRel (urgentFirst rank time id) := fun _ _ => inferInstanceAs (Decidable (_ ∨ _))

/-- `CASE lower(severity) …`. -/
def severityRank (severity : String) : Nat :=
  if lower severity = "critical" then 0
  else if lower severity = "high" then 1
  else if lower severity = "medium" then 2
  else 3

/-- `CASE priority …`. -/
def priorityRank (priority : String) : Nat :=
  if priority = "P1" then 0 else if priority = "P2" then 1 else if priority = "P3" then 2 else 3

/-- How urgent an alert is. -/
def AlertRow.rank (row : AlertRow) : Nat := severityRank row.severity

/-- How urgent an incident is. -/
def IncidentRow.rank (row : IncidentRow) : Nat := priorityRank row.priority

/-- Rows in the order of a query. -/
def mostUrgent {ρ : Type} (rank : ρ → Nat) (time : ρ → Int) (id : ρ → Nat) (rows : List ρ) : List ρ :=
  rows.insertionSort (urgentFirst rank time id)

/-! ## Candidates -/

section Candidates

variable (texts : BriefingTexts) (render : RowTexts) (situation : Situation) (start stop : Int)
  (limit : Nat)

/-- `DEFAULT_TOOL_LIMIT`. -/
def defaultToolLimit : Int := 25

/-- The alerts of the window, in the order of their query. -/
def windowAlerts : List AlertRow :=
  mostUrgent AlertRow.rank AlertRow.createdAt AlertRow.id
    (situation.alerts.rows.filter fun row => start ≤ row.createdAt && row.createdAt ≤ stop)

def alertCandidate (row : AlertRow) : Candidate where
  entityType := "alert"
  entityId := toString row.id
  label := row.severity ++ " alert " ++ row.alertType
  sourceIp := row.sourceIp.filter (· ≠ "")
  fingerprint := texts.idempotencyKey
    ["alert", toString row.id, row.status, render.time row.createdAt, row.message,
      render.json row.context]
  toolCalls :=
    [⟨"get_alert_detail", [("alert_id", row.id)]⟩,
      ⟨"get_related_events", [("alert_id", row.id), ("limit", defaultToolLimit)]⟩]
  metadata := .obj
    [("severity", .str row.severity), ("status", .str row.status),
      ("created_at", .str (render.time row.createdAt))]

/-- `_alert_candidates`. -/
def alertCandidates : List Candidate :=
  ((windowAlerts situation start stop).take (max 1 limit)).map (alertCandidate texts render)

/-- The incidents that are open, or were within the last day, in the order of their query. -/
def windowIncidents : List IncidentRow :=
  mostUrgent IncidentRow.rank IncidentRow.createdAt IncidentRow.id
    (situation.incidents.rows.filter fun row =>
      ["open", "investigating"].contains row.status ||
        decide (row.createdAt ≤ stop) &&
          decide (stop - 24 * 3600 * 1000000 ≤ row.resolvedAt.getD stop))

def incidentCandidate (row : IncidentRow) : Candidate where
  entityType := "incident"
  entityId := toString row.id
  label := row.priority ++ " incident " ++ row.title
  sourceIp := row.sourceIp.filter (· ≠ "")
  fingerprint := texts.idempotencyKey
    ["incident", toString row.id, row.severity, row.priority, row.status,
      (row.resolvedAt.map render.time).getD "None"]
  toolCalls := [⟨"get_incident_timeline", [("incident_id", row.id)]⟩]
  metadata := .obj
    [("severity", .str row.severity), ("priority", .str row.priority), ("status", .str row.status)]

/-- `_incident_candidates`. -/
def incidentCandidates : List Candidate :=
  ((windowIncidents situation stop).take (max 1 limit)).map (incidentCandidate texts render)

/-- The recon activities of the window, in the order of their query. -/
def windowReconActivities : List ReconRow :=
  mostUrgent (fun _ => 0) ReconRow.lastSeen ReconRow.id
    (situation.reconActivities.rows.filter fun row =>
      ["open", "monitoring"].contains row.status && decide (start ≤ row.lastSeen) &&
        decide (row.firstSeen ≤ stop))

/-- The candidate of a recon activity. -/
def reconCandidate (row : ReconRow) : Candidate where
  entityType := "recon_activity"
  entityId := toString row.id
  label := row.severity ++ " recon activity " ++ row.protectedRangeKey
  sourceIp := none
  fingerprint := texts.idempotencyKey
    ["recon", toString row.id, row.status, render.time row.lastSeen, render.json row.summary]
  toolCalls :=
    [⟨"get_related_events", [("activity_id", row.id), ("limit", defaultToolLimit)]⟩]
  metadata := .obj
    [("severity", .str row.severity), ("status", .str row.status),
      ("protected_range_key", .str row.protectedRangeKey)]

/-- `_recon_candidates`. -/
def reconCandidates : List Candidate :=
  ((windowReconActivities situation start stop).take (max 1 limit)).map (reconCandidate texts render)

/-- The indicators that are watched, in the order of their query. -/
def watchedIndicators : List IndicatorRow :=
  mostUrgent (fun _ => 0) IndicatorRow.updatedAt IndicatorRow.id
    (situation.indicators.rows.filter fun row =>
      ["monitored", "escalated", "pending", "blocklist_tracked"].contains row.currentDisposition &&
        decide (row.updatedAt ≤ stop))

def indicatorCandidate (row : IndicatorRow) : Candidate where
  entityType := "indicator"
  entityId := toString row.id
  label := row.currentDisposition ++ " " ++ row.indicatorType ++ " indicator"
  sourceIp := if row.indicatorType = "ip" then some row.indicatorValue else none
  fingerprint := texts.idempotencyKey
    ["indicator", toString row.id, row.currentDisposition, render.time row.updatedAt]
  toolCalls :=
    [⟨"get_response_registry_context",
      [("registry_id", row.id), ("limit", defaultToolLimit)]⟩]
  metadata := .obj
    [("indicator_type", .str row.indicatorType), ("disposition", .str row.currentDisposition)]

/-- `_indicator_candidates`. -/
def indicatorCandidates : List Candidate :=
  ((watchedIndicators situation stop).take (max 1 limit)).map (indicatorCandidate texts render)

/-- The findings of an investigation that plans from the tables. -/
def situationFindings (budget : InvestigationBudget) (findings : Findings) : Findings :=
  { findings with
    alerts := .ok (alertCandidates texts render situation start stop (budget.maxEntities + 1))
    incidents := .ok (incidentCandidates texts render situation stop (budget.maxEntities + 1))
    reconActivities := .ok (reconCandidates texts render situation start stop (budget.maxEntities + 1))
    indicators := .ok (indicatorCandidates texts render situation stop (budget.maxEntities + 1)) }

end Candidates

/-! ## Recent investigations -/

/-- A step joined with its run. -/
structure CandidateResult where
  scheduleId : Int
  startedAt : Int
  runStatus : String
  stepType : String
  stepStatus : String
  sanitizedInput : Json
  createdAt : Int

/-- `sanitized_input->>key`. -/
def CandidateResult.field (render : RowTexts) (result : CandidateResult) (key : String) :
    Option String :=
  match result.sanitizedInput.get key with
  | .null => none
  | .str text => some text
  | value => some (render.json value)

/-- The beginning of the horizon, in microseconds. -/
def horizonStart (before : Int) (budget : InvestigationBudget) : Int :=
  before - max 1 budget.dedupHorizonHours * 3600 * 1000000

/-- The conditions of the query. -/
def isRecentResult (scheduleId before : Int) (budget : InvestigationBudget)
    (result : CandidateResult) : Bool :=
  result.scheduleId = scheduleId && decide (horizonStart before budget ≤ result.startedAt) &&
    decide (result.startedAt < before) &&
    ["success", "partial", "running"].contains result.runStatus &&
    result.stepType = "investigation_candidate_result" &&
    ["success", "partial"].contains result.stepStatus &&
    result.sanitizedInput.has "dedup_key" && result.sanitizedInput.has "evidence_fingerprint"

/-- The key and the fingerprint of a row, where there is a text for both. -/
def CandidateResult.entry? (render : RowTexts) (result : CandidateResult) : Option (String × String) :=
  ((result.field render "dedup_key").filter (· ≠ "")).bind fun key =>
    ((result.field render "evidence_fingerprint").filter (· ≠ "")).map fun fingerprint =>
      (key, fingerprint)

/-- `_recent_dedup_fingerprints`. -/
def recentDedupFingerprints (render : RowTexts) (query : Queries.NewestFirst CandidateResult.createdAt)
    (results : List CandidateResult) (scheduleId before : Int) (budget : InvestigationBudget) :
    Dict String :=
  ofWrites <|
    ((query.order (results.filter (isRecentResult scheduleId before budget))).take 500).filterMap
      (CandidateResult.entry? render)

end SiemDashboard.BriefingInvestigation
