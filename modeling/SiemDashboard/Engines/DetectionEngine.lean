import Mathlib.Data.List.Dedup
import SiemDashboard.Lib.Python

/-!
# Detection of ingested events

`engines/ingest_engine.py` stores an event and runs the detectors that its type calls for; the detectors of
`engines/detection_engine.py` look for enough recent events of the same source and open an alert.  The rules are
configured as `engines/detection_config.py` and `engines/detection_rule_catalog.py` say.

* **Rows** — `Event`, `Alert`, `ConfigRow`, `Store`; `Environment`.
* **Texts of payloads** — `textField`, `extractedUsername`, `destinationPort`.
* **Rules** — `Detector`, `thresholdFinds`, `sprayFinds`; one definition for each rule; `detectors`.
* **Configuration** — `validateDetectionRuleConfig`, `getEffectiveDetectionRule`.
* **Detection** — `Detector.generate`, `runDetector`.
* **Ingestion** — `detectorCandidates`, `ingestNormalizedEvent`.
-/

namespace SiemDashboard.DetectionEngine

open Python

/-! ## Rows -/

/-- `SourceIdentity`. -/
structure SourceIdentity where
  source : String
  sourceType : String
deriving DecidableEq, Repr

/-- A row of `events`, as far as it is read; times are in microseconds. -/
structure Event where
  eventType : String
  sourceIp : String
  identity : SourceIdentity
  createdAt : Int
  rawPayload : Json

/-- The location that a payload gives; numbers by their texts. -/
structure Location where
  country : Option String
  city : Option String
  latitude : Option String
  longitude : Option String
deriving DecidableEq, Repr

/-- What `lookup_ip_reputation` returns. -/
structure Reputation where
  score : Int
  label : String
  source : String
  summary : String
deriving DecidableEq, Repr

/-- A row of `alerts`. -/
structure Alert where
  id : Nat
  sourceIp : String
  alertType : String
  severity : String
  identity : SourceIdentity
  message : String
  status : String
  responseAction : String
  responseStatus : String
  location : Location
  reputation : Reputation
  createdAt : Int
deriving DecidableEq, Repr

/-- A row of `detection_config`. -/
structure ConfigRow where
  parameters : Json
  active : Json

/-- The tables. -/
structure Store where
  events : List Event
  alerts : List Alert
  nextId : Nat
  configs : String → Option ConfigRow

/-- What is not up to the tables while an event is ingested. -/
structure Environment where
  /-- `lookup_ip_reputation`. -/
  reputation : String → Reputation
  /-- The location columns of a payload; a latitude or longitude that is no number raises. -/
  location : Json → Except String Location
  /-- The text that `->>` gives of a value that is no text. -/
  jsonText : Json → String
  /-- `json.loads`. -/
  loads : String → Option Json
  /-- The configuration can be read. -/
  readable : Bool

/-! ## Texts of payloads -/

section Texts

variable (env : Environment)

/-- `raw_payload->>'key'`. -/
def textField (raw : Json) (key : String) : Option String :=
  match raw.get? key with
  | none | some .null => none
  | some (.str text) => some text
  | some value => some (env.jsonText value)

/-- `TRIM`. -/
def trimBlanks (cs : List Char) : List Char :=
  ((cs.dropWhile (· = ' ')).reverse.dropWhile (· = ' ')).reverse

/-- `NULLIF(LOWER(TRIM(…)), '')`. -/
def normalizedText (text : Option String) : Option String :=
  (text.map fun text => lower (String.ofList (trimBlanks text.toList))).filter (· ≠ "")

/-- The group of `Failed login attempt for username:\s*([^,;]+)` where the pattern matches at the beginning. -/
def usernameAt (cs : List Char) : Option String :=
  let literal := "Failed login attempt for username:".toList
  if literal.isPrefixOf cs then
    let rest := cs.drop literal.length
    let name := (rest.dropWhile Char.isWhitespace).takeWhile fun c => c ≠ ',' ∧ c ≠ ';'
    -- a group that would be empty takes back the last blank
    if name.isEmpty then ((rest.takeWhile Char.isWhitespace).getLast?).map fun c => String.ofList [c]
    else some (String.ofList name)
  else none

/-- The group where the pattern matches first. -/
def usernameIn : List Char → Option String
  | [] => none
  | c :: cs => (usernameAt (c :: cs)).or (usernameIn cs)

/-- `extracted_username`. -/
def extractedUsername (raw : Json) : Option String :=
  normalizedText ((textField env raw "username").or
    ((textField env raw "message").bind fun message => usernameIn message.toList))

/-- A field of a payload, normalized. -/
def normalizedField (key : String) (raw : Json) : Option String := normalizedText (textField env raw key)

/-- `destination_port`, where it is between 1 and 65535. -/
def destinationPort (raw : Json) : Option String :=
  let text := (textField env raw "destination_port").or ((textField env raw "dest_port").or
    ((textField env raw "dst_port").or (textField env raw "port")))
  (text.filter fun text =>
      text.toList.all Char.isDigit && 1 ≤ text.toList.length && text.toList.length ≤ 5).bind fun text =>
    text.toNat?.bind fun port => if 1 ≤ port ∧ port ≤ 65535 then some (toString port) else none

end Texts

/-! ## Rules -/

/-- The parameters of a rule. -/
abbrev Parameters := String → Int

/-- Minutes, in microseconds. -/
def minutes (n : Int) : Int := n * 60 * 1000000

/-- A rule, with what it looks for among the events of one source: the number that it has found, if that is enough. -/
structure Detector where
  ruleId : String
  severity : String
  /-- The severity that `floor_response_action_for_severity` is asked for. -/
  floor : Option String
  message : Nat → String → String
  defaults : List (String × Int)
  allowedSources : List SourceIdentity
  /-- The types of the events whose latest one gives the location. -/
  locationTypes : List String
  finds : Environment → Parameters → Int → List Event → Option Nat

/-- `HAVING … >= threshold`, of a group that is there. -/
def reached (parameters : Parameters) (n : Nat) : Option Nat :=
  if n ≠ 0 ∧ parameters "threshold" ≤ n then some n else none

/-- The events of some types from a time on. -/
def since (start : Int) (types : List String) (events : List Event) : List Event :=
  events.filter fun event => event.eventType ∈ types ∧ start ≤ event.createdAt

/-- `COUNT(DISTINCT …)`. -/
def countDistinct (key : Json → Option String) (events : List Event) : Nat :=
  (events.filterMap fun event => key event.rawPayload).dedup.length

/-- Enough events in the window. -/
def thresholdFinds (types : List String) (count : Environment → List Event → Nat) (env : Environment)
    (parameters : Parameters) (now : Int) (events : List Event) : Option Nat :=
  reached parameters (count env (since (now - minutes (parameters "window_minutes")) types events))

/-- `COUNT(*)`. -/
def countAll (_ : Environment) (events : List Event) : Nat := events.length

/-- A recent success with enough users that failed in the window before it. -/
def sprayFinds (env : Environment) (parameters : Parameters) (now : Int) (events : List Event) : Option Nat :=
  let successes := since (now - minutes (parameters "success_window_minutes")) ["successful_login"] events
  let failures := since (now - minutes (parameters "failed_lookback_minutes")) ["failed_login"] events
  successes.findSome? fun success =>
    reached parameters (countDistinct (extractedUsername env) (failures.filter fun failure =>
      success.createdAt - minutes (parameters "correlation_window_minutes") ≤ failure.createdAt ∧
        failure.createdAt ≤ success.createdAt))

def honeypot : SourceIdentity := ⟨"honeypot", "honeypot"⟩
def bankApp : SourceIdentity := ⟨"bank_app", "custom"⟩
def nginx : SourceIdentity := ⟨"nginx", "web_log"⟩
def azureInsights : SourceIdentity := ⟨"azure_insights", "cloud_api"⟩
def opentelemetry : SourceIdentity := ⟨"opentelemetry", "telemetry"⟩

/-- `_generate_failed_login_alerts_core`. -/
def failedLogin : Detector where
  ruleId := "failed_login_threshold"
  severity := "high"
  floor := some "critical"
  message n ip := s!"{n} failed login attempts detected from {ip}"
  defaults := [("threshold", 3), ("window_minutes", 15)]
  allowedSources := [bankApp, azureInsights, nginx, opentelemetry]
  locationTypes := ["failed_login", "login_failure", "unauthorized_access"]
  finds := thresholdFinds ["failed_login", "login_failure", "unauthorized_access"] countAll

/-- `_generate_http_error_alerts_core`. -/
def httpError : Detector where
  ruleId := "http_error_threshold"
  severity := "medium"
  floor := some "critical"
  message _ ip := s!"Repeated HTTP server errors detected from {ip}"
  defaults := [("threshold", 5), ("window_minutes", 15)]
  allowedSources := [honeypot, nginx, azureInsights, opentelemetry]
  locationTypes := ["http_error"]
  finds := thresholdFinds ["http_error"] countAll

/-- `_generate_port_scan_alerts_core`. -/
def portScan : Detector where
  ruleId := "port_scan_threshold"
  severity := "medium"
  floor := none
  message n ip := s!"{n} port scan events detected from {ip}"
  defaults := [("threshold", 2), ("window_minutes", 15)]
  allowedSources := [bankApp]
  locationTypes := ["port_scan"]
  finds := thresholdFinds ["port_scan"] fun env => countDistinct (destinationPort env)

/-- `_generate_password_spraying_alerts_core`. -/
def passwordSpraying : Detector where
  ruleId := "password_spraying_threshold"
  severity := "high"
  floor := none
  message n ip := s!"Password spraying suspected from {ip}: failed logins across {n} usernames"
  defaults := [("threshold", 5), ("window_minutes", 15)]
  allowedSources := [bankApp, azureInsights]
  locationTypes := ["failed_login"]
  finds := thresholdFinds ["failed_login"] fun env => countDistinct (extractedUsername env)

/-- `_generate_successful_login_after_spray_alerts_core`. -/
def successfulLoginAfterSpray : Detector where
  ruleId := "successful_login_after_spray"
  severity := "critical"
  floor := some "critical"
  message _ ip := s!"Successful login after password spraying detected from {ip}"
  defaults := [("threshold", 5), ("success_window_minutes", 15), ("failed_lookback_minutes", 30),
    ("correlation_window_minutes", 15)]
  allowedSources := [bankApp, azureInsights]
  locationTypes := ["successful_login", "failed_login"]
  finds := sprayFinds

/-- `_generate_application_exception_alerts_core`. -/
def applicationException : Detector where
  ruleId := "application_exception_threshold"
  severity := "high"
  floor := none
  message _ ip := s!"Repeated application exceptions detected from {ip}"
  defaults := [("threshold", 3), ("window_minutes", 10)]
  allowedSources := [azureInsights, opentelemetry]
  locationTypes := ["application_exception"]
  finds := thresholdFinds ["application_exception"] countAll

/-- `_generate_app_insights_unauthorized_access_alerts_core`. -/
def appInsightsUnauthorizedAccess : Detector where
  ruleId := "app_insights_unauthorized_access_threshold"
  severity := "high"
  floor := some "high"
  message _ ip := s!"Repeated Application Insights unauthorized access detected from {ip}"
  defaults := [("threshold", 5), ("window_minutes", 10)]
  allowedSources := [azureInsights]
  locationTypes := ["unauthorized_access"]
  finds := thresholdFinds ["unauthorized_access"] countAll

/-- `_generate_high_request_rate_alerts_core`. -/
def highRequestRate : Detector where
  ruleId := "high_request_rate_threshold"
  severity := "medium"
  floor := none
  message _ ip := s!"High request rate detected from {ip}"
  defaults := [("threshold", 20), ("window_minutes", 5)]
  allowedSources := [nginx, opentelemetry]
  locationTypes := ["normal_activity", "unauthorized_access", "http_error"]
  finds := thresholdFinds ["normal_activity", "unauthorized_access", "http_error"] countAll

/-- `_generate_env_probe_alerts_core`. -/
def envProbe : Detector where
  ruleId := "honeypot_env_probe_threshold"
  severity := "high"
  floor := none
  message n ip := s!"Sensitive file probing detected from {ip}: {n} distinct paths"
  defaults := [("threshold", 3), ("window_minutes", 10)]
  allowedSources := [honeypot]
  locationTypes := ["env_probe"]
  finds := thresholdFinds ["env_probe"] fun env => countDistinct (normalizedField env "path")

/-- `_generate_admin_probe_alerts_core`. -/
def adminProbe : Detector where
  ruleId := "honeypot_admin_probe_threshold"
  severity := "medium"
  floor := none
  message n ip := s!"Admin panel probing detected from {ip}: {n} distinct paths"
  defaults := [("threshold", 3), ("window_minutes", 10)]
  allowedSources := [honeypot]
  locationTypes := ["admin_probe"]
  finds := thresholdFinds ["admin_probe"] fun env => countDistinct (normalizedField env "path")

/-- `_generate_scanner_detected_alerts_core`. -/
def scannerDetected : Detector where
  ruleId := "honeypot_scanner_detected"
  severity := "medium"
  floor := none
  message n ip := s!"Scanner activity detected from {ip}: {n} scanner events"
  defaults := [("threshold", 1), ("window_minutes", 10)]
  allowedSources := [honeypot]
  locationTypes := ["scanner_detected"]
  finds := thresholdFinds ["scanner_detected"] countAll

/-- `_generate_credential_stuffing_alerts_core`. -/
def credentialStuffing : Detector where
  ruleId := "honeypot_credential_stuffing_threshold"
  severity := "high"
  floor := none
  message n ip := s!"Credential stuffing suspected from {ip}: {n} distinct usernames"
  defaults := [("threshold", 5), ("window_minutes", 15)]
  allowedSources := [honeypot]
  locationTypes := ["credential_stuffing"]
  finds := thresholdFinds ["credential_stuffing"] fun env => countDistinct (normalizedField env "username")

/-- The detectors of everything but the firewall. -/
def detectors : List Detector :=
  [failedLogin, portScan, passwordSpraying, httpError, applicationException, appInsightsUnauthorizedAccess,
    highRequestRate, successfulLoginAfterSpray, envProbe, adminProbe, scannerDetected, credentialStuffing]

/-! ## Configuration -/

/-- The parameters and the activity of a rule. -/
structure RuleConfig where
  parameters : List (String × Int)
  active : Bool
deriving DecidableEq, Repr

/-- `rule_config["parameters"][key]`. -/
def RuleConfig.parameter (config : RuleConfig) : Parameters := fun key => (config.parameters.lookup key).getD 0

def parameterBounds (key : String) : Int × Int := if key = "threshold" then (1, 100) else (1, 1440)

section Configuration

variable (env : Environment)

/-- `parse_detection_rule_parameters`. -/
def parseDetectionRuleParameters (raw : Json) : Except String (List (String × Json)) :=
  let parsed : Except String Json :=
    match raw with
    | .null => .ok (.obj [])
    | .str text =>
      match env.loads text with
      | some value => .ok value
      | none => .error "Parameters must be valid JSON"
    | value => .ok value
  parsed.bind fun value => if value.isObj then .ok value.fields else .error "Parameters must be an object"

/-- One parameter of `validate_detection_rule_config`. -/
def validateParameter (detector : Detector) (entry : String × Json) : Except String (String × Int) :=
  if entry.1 ∉ detector.defaults.map Prod.fst then .error s!"Unknown parameter key: {entry.1}"
  else
    match entry.2 with
    | .int n =>
      if (parameterBounds entry.1).1 ≤ n ∧ n ≤ (parameterBounds entry.1).2 then .ok (entry.1, n)
      else
        .error s!"Parameter {entry.1} must be between {(parameterBounds entry.1).1} and {(parameterBounds entry.1).2}"
    | _ => .error s!"Parameter {entry.1} must be an integer"

/-- `validate_detection_rule_config`. -/
def validateDetectionRuleConfig (detector : Detector) (row : ConfigRow) : Except String RuleConfig :=
  (parseDetectionRuleParameters env row.parameters).bind fun fields =>
    match row.active with
    | .bool active => (fields.mapM (validateParameter detector)).map fun given => ⟨given, active⟩
    | _ => .error "Active must be a boolean"

/-- `get_effective_detection_rule`: any fault leads to the defaults. -/
def getEffectiveDetectionRule (store : Store) (detector : Detector) : RuleConfig :=
  if !env.readable then ⟨detector.defaults, true⟩
  else
    match store.configs detector.ruleId with
    | none => ⟨detector.defaults, true⟩
    | some row =>
      match validateDetectionRuleConfig env detector row with
      | .error _ => ⟨detector.defaults, true⟩
      | .ok given =>
        ⟨detector.defaults.map fun entry => (entry.1, (given.parameters.lookup entry.1).getD entry.2), given.active⟩

end Configuration

/-! ## Detection -/

/-- `determine_response_action`. -/
def determineResponseAction (score : Int) : String :=
  if 80 ≤ score then "block_ip" else if 60 ≤ score then "flag_high_priority" else "monitor"

/-- `floor_response_action_for_severity`, of an action that was determined. -/
def floorResponseActionForSeverity (action severity : String) : String :=
  if severity = "critical" ∧ action = "monitor" then "flag_high_priority" else action

/-- The latest event, of two at one time the later row. -/
def latest (events : List Event) : Option Event :=
  events.foldl (fun found event =>
    match found with
    | none => some event
    | some best => if best.createdAt ≤ event.createdAt then some event else some best) none

def Store.own (store : Store) (sourceIp : String) (identity : SourceIdentity) : List Event :=
  store.events.filter fun event => event.sourceIp = sourceIp ∧ event.identity = identity

/-- There is an open alert of a type for an address. -/
def Store.hasOpen (store : Store) (sourceIp alertType : String) : Bool :=
  store.alerts.any fun alert => alert.sourceIp = sourceIp && alert.alertType = alertType && alert.status = "open"

section Detection

variable (env : Environment) (now : Int) (sourceIp : String) (identity : SourceIdentity)

/-- What the alert of a detector looks like. -/
def Detector.alert (detector : Detector) (id found : Nat) (location : Location) : Alert :=
  let reputation := env.reputation sourceIp
  let action := determineResponseAction reputation.score
  { id := id
    sourceIp := sourceIp
    alertType := detector.ruleId
    severity := detector.severity
    identity := identity
    message := detector.message found sourceIp
    status := "open"
    responseAction := (detector.floor.map (floorResponseActionForSeverity action)).getD action
    responseStatus := "pending"
    location := location
    reputation := reputation
    createdAt := now }

/-- The detector itself. -/
def Detector.generate (detector : Detector) (config : RuleConfig) (store : Store) : Except String Store :=
  match detector.finds env config.parameter now (store.own sourceIp identity) with
  | none => .ok store
  | some found =>
    let read : Except String Location :=
      match latest ((store.own sourceIp identity).filter fun event => event.eventType ∈ detector.locationTypes) with
      | none => .ok ⟨none, none, none, none⟩
      | some event => env.location event.rawPayload
    read.map fun location =>
      if store.hasOpen sourceIp detector.ruleId then store
      else
        { store with
          alerts := store.alerts ++ [detector.alert env now sourceIp identity store.nextId found location]
          nextId := store.nextId + 1 }

/-- `_run_detector`; the detector's own guard asks the same again. -/
def runDetector (store : Store) (detector : Detector) : Except String Store :=
  if identity ∉ detector.allowedSources then .ok store
  else
    let config := getEffectiveDetectionRule env store detector
    if !config.active then .ok store else detector.generate env now sourceIp identity config store

end Detection

/-! ## Ingestion -/

/-- `detector_candidates.get(event_type, ())`, but for the types of the firewall. -/
def detectorCandidates (eventType : String) : List Detector :=
  if eventType = "failed_login" then [failedLogin, passwordSpraying, successfulLoginAfterSpray]
  else if eventType = "unauthorized_access" then [failedLogin, appInsightsUnauthorizedAccess, highRequestRate]
  else if eventType = "http_error" then [httpError, highRequestRate]
  else if eventType = "application_exception" then [applicationException]
  else if eventType = "normal_activity" then [highRequestRate]
  else if eventType = "successful_login" then [successfulLoginAfterSpray]
  else if eventType = "port_scan" then [portScan]
  else if eventType = "env_probe" then [envProbe]
  else if eventType = "admin_probe" then [adminProbe]
  else if eventType = "scanner_detected" then [scannerDetected]
  else if eventType = "credential_stuffing" then [credentialStuffing]
  else []

/-- The store with one more event. -/
def Store.insertEvent (store : Store) (event : Event) : Store := { store with events := store.events ++ [event] }

/-- `ingest_normalized_event`, up to the correlation of what it has created: the event gets the time of the
    transaction. -/
def ingestNormalizedEvent (env : Environment) (event : Event) (store : Store) : Except String Store :=
  (detectorCandidates event.eventType).foldlM (runDetector env event.createdAt event.sourceIp event.identity)
    (store.insertEvent event)

end SiemDashboard.DetectionEngine
