import Mathlib.Algebra.GroupWithZero.Nat
import Mathlib.Data.List.Sort

/-!
# Internal reputation

`core/ip_helpers.py`: `get_ip_reputation`, the internal reputation score of a source address by the alerts
and the blocks that are stored for it.

* **Tables** — `AlertRow`, `BlockRow`, `ReputationTables` and the queries.
* **Configuration** — `signalConfig`, `correlationSignalConfig`.
* **Signals** — `Contributing`, `signalContributions`, `correlationContribution`, `blockContribution`.
* **Reputation** — `getReputationLabel`, `buildReputationSummary`, `getIpReputation`.
-/

namespace SiemDashboard.IpReputation

/-! ## Tables -/

variable {Ip : Type} [DecidableEq Ip]

/-- A row of `alerts`. -/
structure AlertRow (Ip : Type) where
  sourceIp : Ip
  alertType : String

/-- A row of `blocked_ips`. -/
structure BlockRow (Ip : Type) where
  ipAddress : Ip
  status : String
  expiresAt : Option Int

/-- The tables that a reputation is computed from, and the database's clock. -/
structure ReputationTables (Ip : Type) where
  alerts : List (AlertRow Ip)
  blockedIps : List (BlockRow Ip)
  now : Int

namespace ReputationTables

variable (tables : ReputationTables Ip) (sourceIp : Ip)

/-- How many alerts of a type are stored for an address. -/
def alertCount (alertType : String) : Nat :=
  tables.alerts.countP fun row => row.sourceIp = sourceIp ∧ row.alertType = alertType

/-- `SELECT alert_type, COUNT(*) … AND alert_type IN (…) GROUP BY alert_type`, as a dict: no type has a
    row without an alert. -/
def alertCounts (alertTypes : List String) (alertType : String) : Option Nat :=
  if alertType ∈ alertTypes ∧ 0 < tables.alertCount sourceIp alertType then
    some (tables.alertCount sourceIp alertType)
  else none

/-- `SELECT COUNT(*) FROM blocked_ips …`: the active blocks of an address. -/
def activeBlockCount : Nat :=
  tables.blockedIps.countP fun row =>
    row.ipAddress = sourceIp ∧ row.status = "active" ∧
      (row.expiresAt = none ∨ ∃ time ∈ row.expiresAt, tables.now < time)

end ReputationTables

/-- The alert types of the first query. -/
def signalAlertTypes : List String :=
  ["failed_login_threshold", "password_spraying_threshold", "successful_login_after_spray",
    "port_scan_threshold", "http_error_threshold", "high_request_rate_threshold"]

/-- The alert types of the second query. -/
def correlationAlertTypes : List String :=
  ["correlated_activity", "spray_then_success_pattern", "web_to_app_attack_pattern",
    "cloud_app_error_pattern"]

/-! ## Configuration -/

/-- An entry of `signal_config`. -/
structure SignalConfig where
  key : String
  weight : Nat
  label : String
  summaryPhrase : String

/-- `signal_config`. -/
def signalConfig : List SignalConfig :=
  [⟨"failed_login_threshold", 3, "Failed Login Threshold", "Multiple failed login attempts"⟩,
    ⟨"password_spraying_threshold", 5, "Password Spraying", "Password spraying activity"⟩,
    ⟨"successful_login_after_spray", 6, "Successful Login After Spray",
      "Successful login after spraying"⟩,
    ⟨"port_scan_threshold", 4, "Port Scan Threshold", "Port scan activity"⟩,
    ⟨"http_error_threshold", 2, "HTTP Error Threshold", "Repeated HTTP errors"⟩,
    ⟨"high_request_rate_threshold", 3, "High Request Rate Threshold", "High request rate"⟩]

/-- An entry of `correlation_signal_config`. -/
structure CorrelationConfig where
  key : String
  weight : Nat
  label : String

/-- `correlation_signal_config`. -/
def correlationSignalConfig : List CorrelationConfig :=
  [⟨"correlated_activity", 4, "Correlated Activity"⟩,
    ⟨"spray_then_success_pattern", 5, "Spray Then Success Pattern"⟩,
    ⟨"web_to_app_attack_pattern", 6, "Web To App Attack Pattern"⟩,
    ⟨"cloud_app_error_pattern", 4, "Cloud App Error Pattern"⟩,
    ⟨"azure_auth_abuse_exception_correlation", 4, "Azure Auth Abuse Exception Correlation"⟩]

/-- `CORRELATION_BONUS_CAP`. -/
def correlationBonusCap : Nat := 8

/-- The weight of an active block. -/
def blockWeight : Nat := 6

/-! ## Signals -/

/-- An entry of `correlation_alert_types`. -/
structure CorrelationAlertType where
  alertType : String
  label : String
  count : Nat
  weight : Nat
  rawTotal : Nat
deriving DecidableEq, Repr

/-- What only the correlation bonus carries. -/
structure CorrelationBonus where
  rawTotal : Nat
  appliedTotal : Nat
  cap : Nat
  capApplied : Bool
  correlationAlertTypes : List CorrelationAlertType
deriving DecidableEq, Repr

/-- An entry of `contributing_signals`; the weight of the correlation bonus is the text `capped`. -/
structure Contributing where
  signal : String
  label : String
  count : Nat
  weight : Option Nat
  total : Nat
  bonus : Option CorrelationBonus := none
  summaryPhrase : String
deriving DecidableEq, Repr

section Signals

variable (counts : String → Option Nat)

/-- The loop over `signal_config`. -/
def signalContributions : List Contributing :=
  signalConfig.filterMap fun config =>
    let count := (counts config.key).getD 0
    if count = 0 then none
    else
      some
        { signal := config.key
          label := config.label
          count := count
          weight := some config.weight
          total := count * config.weight
          summaryPhrase := config.summaryPhrase }

/-- The loop over `correlation_signal_config`. -/
def correlationTypes : List CorrelationAlertType :=
  correlationSignalConfig.filterMap fun config =>
    let count := (counts config.key).getD 0
    if count = 0 then none
    else
      some
        { alertType := config.key
          label := config.label
          count := count
          weight := config.weight
          rawTotal := count * config.weight }

/-- `raw_correlation_bonus`. -/
def rawCorrelationBonus : Nat := ((correlationTypes counts).map (·.rawTotal)).sum

/-- The entry of the correlation bonus. -/
def correlationContribution : List Contributing :=
  let raw := rawCorrelationBonus counts
  if raw = 0 then []
  else
    let applied := min raw correlationBonusCap
    [{ signal := "correlation_escalation_bonus"
       label := "Correlation Escalation Bonus"
       count := ((correlationTypes counts).map (·.count)).sum
       weight := none
       total := applied
       bonus :=
        some
          { rawTotal := raw
            appliedTotal := applied
            cap := correlationBonusCap
            capApplied := decide (applied < raw)
            correlationAlertTypes := correlationTypes counts }
       summaryPhrase := "Correlated attack pattern activity" }]

end Signals

/-- The entry of the active blocks. -/
def blockContribution (activeBlockCount : Nat) : List Contributing :=
  if activeBlockCount = 0 then []
  else
    [{ signal := "blocked_ips"
       label := "Active Blocklist Entry"
       count := activeBlockCount
       weight := some blockWeight
       total := activeBlockCount * blockWeight
       summaryPhrase := "Prior blocklist entry" }]

/-! ## Reputation -/

/-- `_get_reputation_label`. -/
def getReputationLabel (score : Nat) : String :=
  if score ≤ 0 then "Normal"
  else if score ≤ 4 then "Low Suspicion"
  else if score ≤ 9 then "Suspicious"
  else if score ≤ 14 then "High Risk"
  else "Critical"

/-- `_build_reputation_summary`; every signal has a phrase. -/
def buildReputationSummary : List Contributing → String
  | [] => "No elevated behavioral signals observed in SIEM history."
  | [signal] => signal.summaryPhrase
  | first :: second :: _ => s!"{first.summaryPhrase} and {second.summaryPhrase}"

/-- The order of signals: by descending total, then by label. -/
def Contributing.before (a b : Contributing) : Prop :=
  b.total < a.total ∨ a.total = b.total ∧ a.label ≤ b.label

instance : DecidableRel Contributing.before := fun _ _ => inferInstanceAs (Decidable (_ ∨ _))

/-- What `get_ip_reputation` returns; the phrases of the signals are not part of it. -/
structure Reputation where
  score : Nat
  label : String
  summary : String
  contributingSignals : List Contributing

/-- The signals of an address, in the order in which they are found. -/
def foundSignals (tables : ReputationTables Ip) (sourceIp : Ip) : List Contributing :=
  signalContributions (tables.alertCounts sourceIp signalAlertTypes) ++
    correlationContribution (tables.alertCounts sourceIp correlationAlertTypes) ++
    blockContribution (tables.activeBlockCount sourceIp)

/-- `get_ip_reputation`. -/
def getIpReputation (tables : ReputationTables Ip) : Option Ip → Reputation
  | none =>
    { score := 0
      label := "Normal"
      summary := "No elevated behavioral signals observed in SIEM history."
      contributingSignals := [] }
  | some sourceIp =>
    let score := ((foundSignals tables sourceIp).map (·.total)).sum
    let contributingSignals := (foundSignals tables sourceIp).insertionSort Contributing.before
    { score := score
      label := getReputationLabel score
      summary := buildReputationSummary contributingSignals
      contributingSignals := contributingSignals }

end SiemDashboard.IpReputation
