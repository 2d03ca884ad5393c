import Mathlib.Data.List.Sort
import SiemDashboard.Adapters.PfsenseFilterlogAdapter
import SiemDashboard.Lib.Checks

/-!
# The detection simulator

`engines/detection_simulator.py`: temporary rules, which an analyst tries out on pasted events.  An event is a
dict; exceptions are their messages.

* **Vocabulary** — `Source`, `Field`, `Operator` and what they allow.
* **Contract** — `validateTemporaryRuleValue`, `validatePredicateNode`, `validateTemporaryRuleContract`.
* **Predicates** — `extractTemporaryRuleField`, `temporaryRuleValueMatches`, `Predicate.evaluate`.
* **Pipeline** — `collect`: the matching events in groups; `eventsInWindow`; `runTemporaryPipeline`.
-/

namespace SiemDashboard.DetectionSimulator

open Python PfsenseFilterlog

/-- What the module asks of the interpreter, its library and the database. -/
structure Library where
  py : Python
  digits : Digits
  /-- `str.lower`. -/
  lower : String → String
  /-- `datetime.fromisoformat`, none where it raises. -/
  fromisoformat : String → Option Datetime
  /-- What `host` writes of a value that is stored in an `INET` column, none where the database refuses it. -/
  inet : Json → Option String
  /-- The column of the alerts is `NOT NULL`. -/
  inet_null : inet .null = none

/-! ## Vocabulary -/

/-- `TEMPORARY_RULE_NUMERIC_FIELDS` and `TEMPORARY_RULE_STRING_FIELDS`. -/
inductive Field where
  | sourceIp
  | destinationIp
  | destinationPort
  | username
  | eventType
  | eventOutcome
  | httpStatus
  | action
  | severity
deriving DecidableEq, Repr

def Field.name : Field → String
  | .sourceIp => "source_ip"
  | .destinationIp => "destination_ip"
  | .destinationPort => "destination_port"
  | .username => "username"
  | .eventType => "event_type"
  | .eventOutcome => "event_outcome"
  | .httpStatus => "http_status"
  | .action => "action"
  | .severity => "severity"

/-- `TEMPORARY_RULE_NUMERIC_FIELDS`. -/
def Field.isNumeric : Field → Bool
  | .destinationPort | .httpStatus => true
  | _ => false

/-- `CANONICAL_SOURCE_IDENTITIES`. -/
inductive Source where
  | honeypot
  | bankApp
  | pfsense
  | nginx
  | azureInsights
  | opentelemetry
deriving DecidableEq, Repr

def Source.name : Source → String
  | .honeypot => "honeypot"
  | .bankApp => "bank_app"
  | .pfsense => "pfsense"
  | .nginx => "nginx"
  | .azureInsights => "azure_insights"
  | .opentelemetry => "opentelemetry"

/-- `SOURCE_TYPE_BY_SOURCE`. -/
def Source.sourceType : Source → String
  | .honeypot => "honeypot"
  | .bankApp => "custom"
  | .pfsense => "firewall"
  | .nginx => "web_log"
  | .azureInsights => "cloud_api"
  | .opentelemetry => "telemetry"

def Source.ofName? (name : String) : Option Source :=
  [Source.honeypot, .bankApp, .pfsense, .nginx, .azureInsights, .opentelemetry].find? (·.name = name)

/-- `TEMPORARY_RULE_ALLOWED_FIELDS_BY_SOURCE`. -/
def Source.allowedFields : Source → List Field
  | .honeypot => [.sourceIp, .username, .eventType, .severity]
  | .bankApp => [.sourceIp, .username, .eventType, .eventOutcome, .severity]
  | .pfsense => [.sourceIp, .destinationIp, .destinationPort, .eventType, .action, .severity]
  | .nginx => [.sourceIp, .eventType, .httpStatus, .severity]
  | .azureInsights => [.sourceIp, .username, .eventType, .eventOutcome, .httpStatus, .severity]
  | .opentelemetry => [.sourceIp, .eventType, .httpStatus, .severity]

/-- `TEMPORARY_RULE_GROUPABLE_FIELDS_BY_SOURCE`. -/
def Source.groupableFields : Source → List Field
  | .honeypot | .bankApp | .azureInsights => [.sourceIp, .username]
  | .pfsense => [.sourceIp, .destinationIp, .destinationPort]
  | .nginx | .opentelemetry => [.sourceIp]

/-- `TEMPORARY_RULE_SUPPORTED_INPUT_FORMATS`. -/
def Source.inputFormats : Source → List String
  | .pfsense => ["raw_text", "json_lines", "json_array"]
  | .nginx => ["raw_text"]
  | _ => ["json_lines", "json_array"]

/-- `TEMPORARY_RULE_ALLOWED_EVENT_TYPES_BY_SOURCE`. -/
def Source.eventTypes : Source → List String
  | .honeypot => ["env_probe", "admin_probe", "scanner_detected", "credential_stuffing", "http_error"]
  | .bankApp => ["failed_login", "login_failure", "successful_login", "port_scan", "normal_activity", "env_probe",
      "admin_probe", "scanner_detected", "credential_stuffing"]
  | .pfsense => ["firewall_block", "firewall_allow"]
  | .nginx => ["unauthorized_access", "http_error", "normal_activity"]
  | .azureInsights => ["failed_login", "successful_login", "application_exception", "availability_failure",
      "http_error", "normal_activity"]
  | .opentelemetry => ["unauthorized_access", "http_error", "application_exception", "normal_activity"]

/-- `TEMPORARY_RULE_ALLOWED_OPERATORS`. -/
inductive Operator where
  | equals
  | notEquals
  | contains
  | startsWith
  | endsWith
  | greaterThan
  | greaterThanOrEqual
  | lessThan
  | lessThanOrEqual
  | inList
deriving DecidableEq, Repr

def Operator.name : Operator → String
  | .equals => "equals"
  | .notEquals => "not_equals"
  | .contains => "contains"
  | .startsWith => "starts_with"
  | .endsWith => "ends_with"
  | .greaterThan => "greater_than"
  | .greaterThanOrEqual => "greater_than_or_equal"
  | .lessThan => "less_than"
  | .lessThanOrEqual => "less_than_or_equal"
  | .inList => "in_list"

def Operator.ofName? (name : String) : Option Operator :=
  [Operator.equals, .notEquals, .contains, .startsWith, .endsWith, .greaterThan, .greaterThanOrEqual, .lessThan,
    .lessThanOrEqual, .inList].find? (·.name = name)

/-- `TEMPORARY_RULE_STRING_OPERATORS`. -/
def Operator.forStrings : Operator → Bool
  | .equals | .notEquals | .contains | .startsWith | .endsWith | .inList => true
  | _ => false

/-- `TEMPORARY_RULE_NUMERIC_OPERATORS`. -/
def Operator.forNumbers : Operator → Bool
  | .contains | .startsWith | .endsWith => false
  | _ => true

/-- `MAX_TEMP_STRING_LENGTH`. -/
def maxTempStringLength : Nat := 256

/-- `MAX_TEMP_PREDICATE_DEPTH`. -/
def maxTempPredicateDepth : Nat := 8

/-- `MAX_TEMP_PREDICATE_NODES`. -/
def maxTempPredicateNodes : Nat := 64

/-- The techniques of the detection rule catalog. -/
def mitreTechniques : List String := ["T1110", "T1046", "T1110.003", "T1595"]

/-! ## Contract -/

/-- A value that a field is compared with. -/
inductive Scalar where
  | int (n : Int)
  | text (s : String)
deriving DecidableEq, Repr

def Scalar.json : Scalar → Json
  | .int n => .int n
  | .text s => .str s

/-- What the predicate of a field is about. -/
inductive Expected where
  | scalar (value : Scalar)
  | list (items : List Scalar)
deriving DecidableEq, Repr

/-- A condition. -/
inductive Predicate where
  | leaf (field : Field) (operator : Operator) (value : Expected)
  | all (children : List Predicate)
  | any (children : List Predicate)
  | negation (child : Predicate)

/-- `raise SimulationValidationError(message)` where a condition does not hold. -/
def require (holds : Bool) (message : String) : Except String Unit := if holds then .ok () else .error message

/-- `_validate_non_empty_string`. -/
def validateNonEmptyString (value : Json) (fieldName : String) (maxLength : Nat) : Except String String :=
  match value with
  | .str text =>
    if strip text = "" then .error s!"{fieldName} must be a non-empty string"
    else if maxLength < (strip text).length then
      .error s!"{fieldName} exceeds maximum length of {maxLength}"
    else .ok (strip text)
  | _ => .error s!"{fieldName} must be a string"

/-- `_validate_bounded_int`. -/
def validateBoundedInt (value : Json) (fieldName : String) (minimum maximum : Int) : Except String Int :=
  match value with
  | .int n =>
    if n < minimum ∨ maximum < n then .error s!"{fieldName} must be between {minimum} and {maximum}"
    else .ok n
  | _ => .error s!"{fieldName} must be an integer"

/-- A value of a predicate that is no list, or an item of a list. -/
def validateScalar (field : Field) (value : Json) (fieldName : String) : Except String Scalar :=
  if field.isNumeric then (validateBoundedInt value fieldName (-65535) 65535).map .int
  else (validateNonEmptyString value fieldName maxTempStringLength).map .text

/-- `_validate_temporary_rule_value`.  The items of a list are all integers or all strings, as the field is. -/
def validateTemporaryRuleValue (field : Field) (operator : Operator) (value : Json) :
    Except String Expected :=
  if !(if field.isNumeric then operator.forNumbers else operator.forStrings) then
    .error s!"Operator '{operator.name}' is not allowed for condition.field '{field.name}'"
  else if operator = .inList then
    match value with
    | .arr items =>
      if items.isEmpty ∨ 20 < items.length then
        .error "condition.value list must contain between 1 and 20 items"
      else (items.mapM fun item => validateScalar field item "condition.value item").map .list
    | _ => .error "condition.value must be a list for operator 'in_list'"
  else (validateScalar field value "condition.value").map .scalar

/-- The dict has exactly these keys. -/
def hasKeys (value : Json) (names : List String) : Bool :=
  value.isObj && names.all (fun name => value.has name) && value.fields.all (fun field => field.1 ∈ names)

/-- A predicate about a field. -/
def validateLeaf (source : Source) (condition : Json) : Except String Predicate := do
  let fieldName ← validateNonEmptyString (condition.get "field") "temporary_rule.condition.field"
    maxTempStringLength
  match source.allowedFields.find? (·.name = fieldName) with
  | none =>
    .error s!"temporary_rule.condition.field '{fieldName}' is not supported for source '{source.name}'"
  | some field =>
    let operatorName ← validateNonEmptyString (condition.get "operator") "temporary_rule.condition.operator" 32
    match Operator.ofName? operatorName with
    | none => .error "temporary_rule.condition.operator is unsupported"
    | some operator =>
      let value ← validateTemporaryRuleValue field operator (condition.get "value")
      return .leaf field operator value

/-- The nodes of a list, one after the other; the number of nodes so far goes along. -/
def validateChildren (validate : Json → Nat → Except String (Predicate × Nat)) :
    List Json → Nat → Except String (List Predicate × Nat)
  | [], count => .ok ([], count)
  | child :: children, count => do
    let first ← validate child count
    let rest ← validateChildren validate children first.2
    return (first.1 :: rest.1, rest.2)

/-- The list of nodes under `all` or `any`. -/
def childList (value : Json) (key : String) : Except String (List Json) :=
  match value with
  | .arr [] => .error s!"temporary_rule.condition.{key} must be a non-empty list"
  | .arr children =>
    if maxTempPredicateNodes < children.length then
      .error s!"temporary_rule.condition.{key} exceeds maximum size"
    else .ok children
  | _ => .error s!"temporary_rule.condition.{key} must be a non-empty list"

/-- `_validate_predicate_node`, with the depth that is left and the number of nodes so far. -/
def validatePredicateNode (source : Source) : Nat → Json → Nat → Except String (Predicate × Nat)
  | depth, condition, count =>
    if maxTempPredicateNodes < count + 1 then
      .error "temporary_rule.condition exceeds maximum predicate nodes of 64"
    else
      match depth with
      | 0 => .error "temporary_rule.condition exceeds maximum predicate depth of 8"
      | depth + 1 =>
        if hasKeys condition ["field", "operator", "value"] then
          (validateLeaf source condition).map fun predicate => (predicate, count + 1)
        else if hasKeys condition ["all"] then do
          let children ← childList (condition.get "all") "all"
          let result ← validateChildren (validatePredicateNode source depth) children (count + 1)
          return (.all result.1, result.2)
        else if hasKeys condition ["any"] then do
          let children ← childList (condition.get "any") "any"
          let result ← validateChildren (validatePredicateNode source depth) children (count + 1)
          return (.any result.1, result.2)
        else if hasKeys condition ["not"] then
          if (condition.get "not").isObj then do
            let result ← validatePredicateNode source depth (condition.get "not") (count + 1)
            return (.negation result.1, result.2)
          else .error "temporary_rule.condition.not must be a predicate object"
        else .error "temporary_rule.condition must be a field predicate or an all/any/not tree"

/-- A temporary rule that was accepted. -/
structure TemporaryRule where
  source : Source
  inputFormat : String
  eventType : Option String
  condition : Predicate
  groupByField : Field
  threshold : Int
  windowMinutes : Int
  severity : String
  mitreTechniqueId : Option String

/-- `TEMPORARY_RULE_METADATA_KEYS`. -/
def metadataKeys : List String :=
  ["title", "id", "status", "description", "author", "date", "level", "tags", "attack_tags", "logsource",
    "rule_provenance", "sigma_subset"]

def ruleKeys : List String :=
  ["source", "source_type", "input_format", "event_type", "condition", "aggregation", "threshold",
    "window_minutes", "severity", "mitre_technique_id"]

/-- A list of non-empty strings, if there is one. -/
def validateTags (value : Json) (key : String) : Except String Unit :=
  match value with
  | .null => .ok ()
  | .arr items =>
    if items.all fun item => item.str?.any fun text => strip text ≠ "" then .ok ()
    else .error s!"temporary_rule.{key} must be a list of non-empty strings"
  | _ => .error s!"temporary_rule.{key} must be a list of non-empty strings"

/-- `_validate_temporary_rule_metadata`. -/
def validateTemporaryRuleMetadata (rule : Json) : Except String Unit := do
  for key in ["title", "id", "status", "description", "author", "date", "level"] do
    if !(rule.get key).isNull then
      let _ ← validateNonEmptyString (rule.get key) s!"temporary_rule.{key}" maxTempStringLength
  validateTags (rule.get "tags") "tags"
  validateTags (rule.get "attack_tags") "attack_tags"
  let logsource := rule.get "logsource"
  require (logsource.isNull || logsource.isObj && logsource.fields.all fun field => field.2.str?.isSome)
    "temporary_rule.logsource must be an object of string keys and values"
  if !(rule.get "rule_provenance").isNull then
    let provenance ← validateNonEmptyString (rule.get "rule_provenance") "temporary_rule.rule_provenance" 64
    require (provenance = "sigma_subset_import")
      "temporary_rule.rule_provenance must be 'sigma_subset_import' when provided"
  if rule.has "sigma_subset" then
    match rule.get "sigma_subset" with
    | .bool true => pure ()
    | _ => throw "temporary_rule.sigma_subset must be true when provided"

/-- `T\d{4}(?:\.\d{3})?`. -/
def matchesMitre (digits : Digits) (id : String) : Bool :=
  match id.toList with
  | 'T' :: rest =>
    let isDecimal c := (digits.decimal c).isSome
    (rest.take 4).length = 4 && (rest.take 4).all isDecimal &&
      match rest.drop 4 with
      | [] => true
      | '.' :: sub => sub.length = 3 && sub.all isDecimal
      | _ => false
  | _ => false

/-- The aggregation of a rule: the field by which its events are grouped. -/
def validateAggregation (source : Source) (aggregation : Json) : Except String Field := do
  require aggregation.isObj "temporary_rule.aggregation must be an object"
  require (hasKeys aggregation ["type", "group_by_field"])
    "temporary_rule.aggregation must contain exactly type and group_by_field"
  let kind ← validateNonEmptyString (aggregation.get "type") "temporary_rule.aggregation.type" 32
  require (kind = "count") "temporary_rule.aggregation.type must be 'count'"
  let name ← validateNonEmptyString (aggregation.get "group_by_field")
    "temporary_rule.aggregation.group_by_field" maxTempStringLength
  match source.groupableFields.find? (·.name = name) with
  | none =>
    throw s!"temporary_rule.aggregation.group_by_field '{name}' is not supported for source '{source.name}'"
  | some field => return field

/-- The event type that a rule asks for. -/
def validateEventType (source : Source) (value : Json) : Except String (Option String) :=
  if value.isNull then .ok none
  else do
    let eventType ← validateNonEmptyString value "temporary_rule.event_type" 64
    if eventType ∈ source.eventTypes then return some eventType
    else throw s!"temporary_rule.event_type '{eventType}' is not supported for source '{source.name}'"

/-- The technique that a rule names. -/
def validateMitre (digits : Digits) (value : Json) : Except String (Option String) :=
  if value.isNull then .ok none
  else do
    let id ← validateNonEmptyString value "temporary_rule.mitre_technique_id" 16
    if !matchesMitre digits id then throw "temporary_rule.mitre_technique_id must match Txxxx or Txxxx.xxx"
    else if id ∈ mitreTechniques then return some id
    else throw "temporary_rule.mitre_technique_id is unsupported"

/-- The source of a rule, with its type. -/
def validateSource (rule : Json) : Except String Source := do
  let name ← validateNonEmptyString (rule.get "source") "temporary_rule.source" 64
  match Source.ofName? name with
  | none => throw "Unknown temporary_rule.source"
  | some source =>
    let sourceType ← validateNonEmptyString (rule.get "source_type") "temporary_rule.source_type" 64
    if source.sourceType = sourceType then return source
    else throw "temporary_rule.source_type does not match the canonical source type"

/-- `_validate_temporary_rule_contract`. -/
def validateTemporaryRuleContract (digits : Digits) (rule : Json) : Except String TemporaryRule := do
  require rule.isObj "temporary_rule must be an object"
  let unexpected := (rule.fields.map Prod.fst).filter fun key => key ∉ ruleKeys ++ metadataKeys
  require unexpected.isEmpty
    ("temporary_rule contains unsupported fields: " ++ ", ".intercalate (unexpected.insertionSort (· ≤ ·)))
  let source ← validateSource rule
  let inputFormat ← validateNonEmptyString (rule.get "input_format") "temporary_rule.input_format" 32
  require (inputFormat ∈ source.inputFormats)
    s!"Source '{source.name}' does not support temporary_rule.input_format '{inputFormat}'"
  let eventType ← validateEventType source (rule.get "event_type")
  require (rule.get "condition").isObj "temporary_rule.condition must be an object"
  let condition ← validatePredicateNode source maxTempPredicateDepth (rule.get "condition") 0
  let groupByField ← validateAggregation source (rule.get "aggregation")
  let threshold ← validateBoundedInt (rule.get "threshold") "temporary_rule.threshold" 1 100
  let windowMinutes ← validateBoundedInt (rule.get "window_minutes") "temporary_rule.window_minutes" 1 1440
  let severity ← validateNonEmptyString (rule.get "severity") "temporary_rule.severity" 16
  require (severity ∈ ["low", "medium", "high", "critical"]) "temporary_rule.severity is unsupported"
  let mitreTechniqueId ← validateMitre digits (rule.get "mitre_technique_id")
  let metadata := if (rule.fields.map Prod.fst).any (· ∈ metadataKeys) then validateTemporaryRuleMetadata rule
    else .ok ()
  let _ ← metadata
  return ⟨source, inputFormat, eventType, condition.1, groupByField, threshold, windowMinutes, severity,
    mitreTechniqueId⟩

/-! ## Predicates -/

section

variable (lib : Library)

/-- The integer that a field holds as a number or as digits. -/
def integerField (value : Json) : Except String Json :=
  match value with
  | .int n => .ok (.int n)
  | .str text =>
    if lib.digits.isDigits (strip text) then
      match Python.int lib.digits.decimal (strip text) with
      | none => .error "invalid literal for int()"
      | some n => .ok (.int n)
    else .ok .null
  | _ => .ok .null

def firstInteger : List Json → Except String Json
  | [] => .ok .null
  | candidate :: rest => do
    let value ← integerField lib candidate
    if value.isNull then firstInteger rest else return value

theorem integerField_cases {lib : Library} {value number : Json} (h : integerField lib value = .ok number) :
    number = .null ∨ ∃ n, number = .int n := by
  unfold integerField at h
  split at h
  · cases h
    exact Or.inr ⟨_, rfl⟩
  · split at h
    · split at h
      · cases h
      · cases h
        exact Or.inr ⟨_, rfl⟩
    · cases h
      exact Or.inl rfl
  · cases h
    exact Or.inl rfl

theorem firstInteger_cases {lib : Library} {candidates : List Json} {number : Json}
    (h : firstInteger lib candidates = .ok number) : number = .null ∨ ∃ n, number = .int n := by
  induction candidates with
  | nil =>
    cases h
    exact Or.inl rfl
  | cons candidate rest ih =>
    rw [firstInteger] at h
    obtain ⟨value, hvalue, h⟩ := Checks.bind_eq_ok.mp h
    split at h
    · exact ih h
    · cases h
      exact integerField_cases hvalue

/-- `_temporary_rule_event_outcome`. -/
def eventOutcome (eventType : Json) : Except String Json := do
  if ← inSet eventType ["failed_login", "login_failure"] then return .str "failure"
  if eventType.isOneOf ["successful_login"] then return .str "success"
  return .null

/-- `_extract_temporary_rule_field`. -/
def extractTemporaryRuleField (event : Json) (field : Field) : Except String Json :=
  let rawPayload := (event.get "raw_payload").dictOrEmpty
  match field with
  | .sourceIp => .ok (event.get "source_ip")
  | .destinationIp => .ok ((event.get "destination_ip").orElse (rawPayload.get "destination_ip"))
  | .destinationPort =>
    integerField lib ((event.get "destination_port").orElse (rawPayload.get "destination_port"))
  | .username =>
    .ok (((event.get "username").orElse (rawPayload.get "username")).orElse
      (rawPayload.get "userPrincipalName"))
  | .eventType => .ok (event.get "event_type")
  | .eventOutcome => eventOutcome (event.get "event_type")
  | .httpStatus =>
    firstInteger lib [rawPayload.get "status", rawPayload.get "status_code", rawPayload.get "statusCode",
      rawPayload.get "responseCode", rawPayload.get "resultCode"]
  | .action => .ok (rawPayload.get "action")
  | .severity => .ok (event.get "severity")

/-- `v == w`, for values that are no containers. -/
def sameValue (v w : Json) : Bool :=
  match v, w with
  | .null, .null => true
  | .str s, .str t => s = t
  | .null, _ | _, .null | .str _, _ | _, .str _ => false
  | v, w =>
    match v.int?, w.int? with
    | some m, some n => m = n
    | _, _ => (lib.py.compare v w).toOption = some (some .eq)

/-- `text.strip().lower()`. -/
def fold (text : String) : String := lib.lower (strip text)

def foldScalar : Scalar → Scalar
  | .text s => .text (fold lib s)
  | .int n => .int n

/-- The comparison with an integer. -/
def compareInt : Operator → Int → Int → Bool
  | .equals, expected, actual => actual = expected
  | .notEquals, expected, actual => actual ≠ expected
  | .greaterThan, expected, actual => expected < actual
  | .greaterThanOrEqual, expected, actual => expected ≤ actual
  | .lessThan, expected, actual => actual < expected
  | .lessThanOrEqual, expected, actual => actual ≤ expected
  | _, _, _ => false

def compareText : Operator → String → String → Bool
  | .equals, expected, actual => actual = expected
  | .notEquals, expected, actual => actual ≠ expected
  | .contains, expected, actual => mentions expected actual
  | .startsWith, expected, actual => expected.toList.isPrefixOf actual.toList
  | .endsWith, expected, actual => expected.toList.isSuffixOf actual.toList
  | _, _, _ => false

/-- `_temporary_rule_value_matches`. -/
def temporaryRuleValueMatches (operator : Operator) (expected : Expected) (actual : Json) : Bool :=
  if actual.isNull then false
  else
    match expected, actual with
    | .list items, .str text => .text (fold lib text) ∈ items.map (foldScalar lib)
    | .list items, actual => items.any fun item => sameValue lib item.json actual
    | .scalar (.int n), actual => actual.int?.any (compareInt operator n)
    | .scalar (.text s), actual => compareText operator (fold lib s) (fold lib (display lib.py actual))

mutual

/-- `_evaluate_temporary_predicate`. -/
def Predicate.evaluate (event : Json) : Predicate → Except String Bool
  | .leaf field operator value =>
    (extractTemporaryRuleField lib event field).map (temporaryRuleValueMatches lib operator value)
  | .all children => evaluateAll event children
  | .any children => evaluateAny event children
  | .negation child => (child.evaluate event).map (!·)

/-- `all(..)`, which stops at the first that fails. -/
def evaluateAll (event : Json) : List Predicate → Except String Bool
  | [] => .ok true
  | child :: children => do if ← child.evaluate event then evaluateAll event children else return false

/-- `any(..)`, which stops at the first that holds. -/
def evaluateAny (event : Json) : List Predicate → Except String Bool
  | [] => .ok false
  | child :: children => do if ← child.evaluate event then return true else evaluateAny event children

end

/-! ## Pipeline -/

/-- The events of one value of `group_by_field`. -/
structure Group where
  key : Json
  events : List Json

/-- `grouped_events[group_value].append(event)`. -/
def addToGroup (value event : Json) : List Group → List Group
  | [] => [⟨value, [event]⟩]
  | group :: groups =>
    if sameValue lib group.key value then ⟨group.key, group.events ++ [event]⟩ :: groups
    else group :: addToGroup value event groups

/-- `grouped_events[text]`, where a group that is missing is empty. -/
def eventsOf (text : String) (groups : List Group) : List Json :=
  match groups.find? fun group => sameValue lib group.key (.str text) with
  | some group => group.events
  | none => []

/-- The value of an event that the rule counts. -/
def groupValue (rule : TemporaryRule) (event : Json) : Except String (Option Json) := do
  let holds ← rule.condition.evaluate lib event
  if !holds then return none
  else
    let value ← extractTemporaryRuleField lib event rule.groupByField
    if value.isNull || value.isOneOf [""] then return none
    else if value.hashable then return some value
    else throw "unhashable type"

/-- The events that match, with their groups. -/
structure Collected where
  matching : List Json
  groups : List Group

/-- The loop over the candidates. -/
def collect (rule : TemporaryRule) : List Json → Collected → Except String Collected
  | [], collected => .ok collected
  | event :: events, collected => do
    match ← groupValue lib rule event with
    | none => collect rule events collected
    | some value =>
      collect rule events ⟨collected.matching ++ [event], addToGroup lib value event collected.groups⟩

/-- `_parse_iso_timestamp`. -/
def parseIsoTimestamp (value : Json) : Except String (Option Int) :=
  match value with
  | .str text =>
    if text = "" then .ok none
    else
      match lib.fromisoformat (PfsenseFilterlog.parseRfc5424.replaceText text) with
      | none => .ok none
      | some parsed => (checked parsed.instant).map some
  | _ => .ok none

/-- `window_basis`. -/
inductive WindowBasis where
  | eventTimestamps
  | requestScopeWithoutTimestamps
deriving DecidableEq, Repr

/-- The length of a window. -/
def windowMicros (rule : TemporaryRule) : Int := rule.windowMinutes * 60 * secondMicros

/-- The events of the last window of a group, or all of them where a timestamp is missing. -/
def eventsInWindow (rule : TemporaryRule) (events : List Json) :
    Except String (List Json × WindowBasis) := do
  let timestamps ← events.mapM fun event => parseIsoTimestamp lib (event.get "event_timestamp")
  match timestamps.allSome.bind fun times => times.max?.map fun latest => (times, latest) with
  | none => return (events, .requestScopeWithoutTimestamps)
  | some (times, windowEnd) =>
    let windowStart ← checked (windowEnd - windowMicros rule)
    return (((events.zip times).filter fun pair => windowStart ≤ pair.2).map Prod.fst, .eventTimestamps)

/-- The first source address. -/
def firstSourceIp (events : List Json) : Json :=
  ((events.map fun event => event.get "source_ip").find? Json.truthy).getD .null

/-- What is reported of a group. -/
structure GroupResult where
  groupValue : String
  matchCount : Nat
  windowBasis : WindowBasis
  sampleSourceIp : Json

def groupResult (rule : TemporaryRule) (group : Group) : Except String GroupResult := do
  let window ← eventsInWindow lib rule group.events
  return ⟨display lib.py group.key, window.1.length, window.2, firstSourceIp window.1⟩

/-- The order of the results: the largest first, then by text. -/
def GroupResult.before (a b : GroupResult) : Prop :=
  b.matchCount < a.matchCount ∨ (a.matchCount = b.matchCount ∧ a.groupValue ≤ b.groupValue)

instance (a b : GroupResult) : Decidable (a.before b) := inferInstanceAs (Decidable (_ ∨ _))

structure AlertPreview where
  sourceIp : String
  severity : String
  message : String
  mitreTechniqueId : Option String
deriving DecidableEq, Repr

/-- What the stages say of a run. -/
structure Report where
  candidateEventCount : Nat
  matchingEventCount : Nat
  groupedResults : List GroupResult
  matched : Bool
  matchedGroup : Option String
  observedValue : Nat
  windowBasis : WindowBasis
  alert : Option AlertPreview

/-- `_build_temporary_alert_message`. -/
def buildTemporaryAlertMessage (rule : TemporaryRule) (matchedGroup : String) (observedValue : Nat) : String :=
  let eventType := rule.eventType.getD "any event type"
  s!"Temporary playground rule matched {observedValue} event(s) for {rule.groupByField.name}={matchedGroup} " ++
    s!"within {rule.windowMinutes} minute(s) on {eventType}."

/-- `_insert_temporary_alert_preview`, and the row that is read back. -/
def insertTemporaryAlertPreview (rule : TemporaryRule) (matchedGroup : String) (observedValue : Nat)
    (sourceIp : Json) : Except String AlertPreview :=
  match lib.inet sourceIp with
  | none => .error "invalid value for column source_ip"
  | some address =>
    .ok ⟨address, rule.severity, buildTemporaryAlertMessage rule matchedGroup observedValue,
      rule.mitreTechniqueId⟩

/-- The events of the type that the rule asks for. -/
def candidateEvents (rule : TemporaryRule) (events : List Json) : List Json :=
  match rule.eventType with
  | none => events
  | some eventType => events.filter fun event => event.get "event_type" |>.isOneOf [eventType]

/-- `_run_temporary_pipeline`. -/
def runTemporaryPipeline (rule : TemporaryRule) (normalizedEvents : List Json) : Except String Report := do
  let candidates := candidateEvents rule normalizedEvents
  let collected ← collect lib rule candidates ⟨[], []⟩
  let results ← collected.groups.mapM (groupResult lib rule)
  let groupedResults := (results.insertionSort GroupResult.before).take 50
  match groupedResults.head? with
  | none =>
    return ⟨candidates.length, collected.matching.length, groupedResults, false, none, 0,
      .requestScopeWithoutTimestamps, none⟩
  | some top =>
    if rule.threshold ≤ top.matchCount then do
      let previewSourceIp := firstSourceIp (eventsOf lib top.groupValue collected.groups)
      let alert ← insertTemporaryAlertPreview lib rule top.groupValue top.matchCount previewSourceIp
      return ⟨candidates.length, collected.matching.length, groupedResults, true, some top.groupValue,
        top.matchCount, top.windowBasis, some alert⟩
    else
      return ⟨candidates.length, collected.matching.length, groupedResults, false, some top.groupValue,
        top.matchCount, top.windowBasis, none⟩

end

end SiemDashboard.DetectionSimulator
