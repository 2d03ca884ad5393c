import SiemDashboard.Lib.Python

/-!
# Azure Application Insights

`adapters/azure_insights_adapter.py`: telemetry items become events of the backend.

* **Fields** — `firstNonEmptyValue`, `safeGet`, `extractSourceIp`, `normalizeStatusCode`.
* **Messages** — `buildExceptionMessage` and its siblings.
* **Items** — `Reading`: what is read of an item; `Reading.event`: what becomes of it;
  `normalizeAzureInsightsTelemetry`.
-/

namespace SiemDashboard.AzureInsights

open Python

/-! ## Fields -/

/-- What the modules ask of the standard library. -/
structure Library where
  py : Python
  digits : Digits
  /-- `str(ipaddress.ip_address(text))`, none where it raises. -/
  ipAddress : String → Option String
  /-- `json.loads`, none where it raises `ValueError`. -/
  loads : String → Option Json

/-- `value in (None, "")`. -/
def missing (value : Json) : Bool := value.isNull || value.isOneOf [""]

/-- `_first_non_empty_value`. -/
def firstNonEmptyValue : List Json → Json
  | [] => .null
  | .str text :: rest => if strip text = "" then firstNonEmptyValue rest else .str (strip text)
  | .null :: rest => firstNonEmptyValue rest
  | value :: _ => value

/-- A step of a path. -/
inductive PathKey where
  | field (name : String)
  | index (n : Nat)

/-- `_safe_get`. -/
def safeGet : Json → List PathKey → Json
  | current, [] => current
  | .arr items, .index n :: rest =>
    match items[n]? with
    | none => .null
    | some value => safeGet value rest
  | .obj fields, .field name :: rest =>
    if ((Json.obj fields).get name).isNull then .null else safeGet ((Json.obj fields).get name) rest
  | _, _ => .null

def fieldPath (names : List String) : List PathKey := names.map .field

section

variable (lib : Library)

/-- `str(ipaddress.ip_address(str(source_ip).strip()))`. -/
def readAddress (sourceIp : Json) : Except String String :=
  match lib.ipAddress (strip (display lib.py sourceIp)) with
  | none => .error "Missing valid source/client IP"
  | some address => .ok address

/-- `_extract_source_ip`. -/
def extractSourceIp (telemetry : Json) : Except String String :=
  let sourceIp := firstNonEmptyValue
    [ telemetry.get "source_ip", telemetry.get "sourceIp", telemetry.get "client_ip",
      telemetry.get "client_IP", telemetry.get "clientIp", telemetry.get "clientIP",
      safeGet telemetry (fieldPath ["context", "client", "ip"]),
      safeGet telemetry (fieldPath ["context", "client", "ipAddress"]),
      safeGet telemetry (fieldPath ["context", "location", "clientIp"]),
      safeGet telemetry (fieldPath ["context", "location", "clientip"]),
      safeGet telemetry (fieldPath ["client", "ip"]),
      safeGet telemetry (fieldPath ["client", "ipAddress"]),
      safeGet telemetry (fieldPath ["properties", "clientIp"]),
      safeGet telemetry (fieldPath ["customDimensions", "clientIp"]),
      safeGet telemetry (fieldPath ["tags", "ai.location.ip"]) ]
  if sourceIp.isNull then .error "Missing valid source/client IP" else readAddress lib sourceIp

/-- `int(text)`, of a text of digits. -/
def intOfDigits (text : String) : Except String Int :=
  match Python.int lib.digits.decimal text with
  | none => .error s!"invalid literal for int() with base 10: {lib.py.repr (.str text)}"
  | some n => .ok n

/-- `_normalize_status_code`. -/
def normalizeStatusCode (value : Json) : Except String (Option Int) :=
  match value with
  | .int n => .ok (some n)
  | .str text =>
    if lib.digits.isDigits (strip text) then some <$> intOfDigits lib (strip text) else .ok none
  | _ => .ok none

/-! ## Messages -/

/-- `_build_exception_message`. -/
def buildExceptionMessage (baseData telemetry operationName : Json) : Json :=
  firstNonEmptyValue
    [ baseData.get "message", telemetry.get "message",
      safeGet baseData [.field "exceptions", .index 0, .field "message"],
      safeGet baseData [.field "exceptions", .index 0, .field "typeName"],
      operationName, .str "Azure application exception detected" ]

/-- What the other messages are built from. -/
def buildMessage (baseData telemetry operationName : Json) (defaults : List String) : Json :=
  firstNonEmptyValue
    ([baseData.get "message", telemetry.get "message", operationName] ++ defaults.map .str)

/-- `_build_availability_message`. -/
def buildAvailabilityMessage (baseData telemetry operationName : Json) : Json :=
  buildMessage baseData telemetry operationName ["Azure availability failure detected"]

/-- `_build_http_error_message`. -/
def buildHttpErrorMessage (baseData telemetry operationName : Json) (resultCode : Int) : Json :=
  buildMessage baseData telemetry operationName
    [ s!"Azure HTTP error telemetry detected: status {resultCode}",
      "Azure HTTP error telemetry detected" ]

/-- `_build_request_message`. -/
def buildRequestMessage (baseData telemetry operationName : Json) : Json :=
  buildMessage baseData telemetry operationName ["Azure request telemetry observed"]

/-- `_build_unauthorized_access_message`. -/
def buildUnauthorizedAccessMessage (baseData telemetry operationName : Json) (resultCode : Int) :
    Json :=
  buildMessage baseData telemetry operationName
    [s!"Azure unauthorized access telemetry detected: status {resultCode}"]

/-- `_build_dependency_failure_message`. -/
def buildDependencyFailureMessage (baseData telemetry operationName : Json) : Json :=
  buildMessage baseData telemetry operationName ["Azure dependency failure detected"]

/-! ## Items -/

/-- The event of a telemetry item. -/
structure AzureEvent where
  eventType : String
  severity : String
  sourceIp : String
  message : Json
  eventTimestamp : Json

/-- What is read of a telemetry item. -/
structure Reading where
  telemetry : Json
  sourceIp : String
  baseData : Json
  baseTypeLower : String
  telemetryNameLower : String
  success : Json
  resultCode : Option Int
  eventTimestamp : Json
  operationName : Json

/-- `str(v or "").lower()`. -/
def lowerText (value : Json) : String := lower (display lib.py (value.orElse (.str "")))

/-- The first half of `normalize_azure_insights_telemetry`. -/
def readTelemetry (telemetry : Json) : Except String Reading :=
  if !telemetry.isObj || telemetry.fields.isEmpty then .error "Telemetry item must be an object"
  else
    match extractSourceIp lib telemetry with
    | .error e => .error e
    | .ok sourceIp =>
      let data := telemetry.get "data"
      let baseType := firstNonEmptyValue
        [telemetry.get "baseType", safeGet data (fieldPath ["baseType"])]
      let baseData := (data.get "baseData").dictOrEmpty
      let telemetryName := firstNonEmptyValue
        [telemetry.get "name", telemetry.get "telemetryType", baseType]
      let code := firstNonEmptyValue
        [ baseData.get "responseCode", baseData.get "resultCode", telemetry.get "responseCode",
          telemetry.get "resultCode", telemetry.get "statusCode" ]
      match normalizeStatusCode lib code with
      | .error e => .error e
      | .ok resultCode =>
        .ok
          { telemetry := telemetry
            sourceIp := sourceIp
            baseData := baseData
            baseTypeLower := lowerText lib baseType
            telemetryNameLower := lowerText lib telemetryName
            success := firstNonEmptyValue [baseData.get "success", telemetry.get "success"]
            resultCode := resultCode
            eventTimestamp := firstNonEmptyValue
              [telemetry.get "timestamp", telemetry.get "time", baseData.get "timestamp"]
            operationName := firstNonEmptyValue
              [ baseData.get "name", telemetry.get "operationName", telemetry.get "name",
                .str "Azure telemetry event" ] }

/-- A word in the type or the name of an item. -/
def Reading.speaksOf (r : Reading) (word : String) : Bool :=
  mentions word r.baseTypeLower || mentions word r.telemetryNameLower

/-- An availability test that is said to have failed. -/
def Reading.unavailable (r : Reading) : Bool :=
  lower (strip (display lib.py (r.baseData.get "success"))) = "false"

/-- The text of the success flag. -/
def Reading.successText (r : Reading) : String :=
  if r.success.isNull then "" else lower (strip (display lib.py r.success))

/-- The event of an item. -/
def Reading.make (r : Reading) (eventType severity : String) (message : Json) : AzureEvent :=
  ⟨eventType, severity, r.sourceIp, message, r.eventTimestamp⟩

/-- The branch of requests and dependencies, where it returns. -/
def Reading.requestEvent? (r : Reading) : Option AzureEvent :=
  match r.resultCode with
  | some code =>
    if code = 401 ∨ code = 403 then
      some (r.make "unauthorized_access" "medium"
        (buildUnauthorizedAccessMessage r.baseData r.telemetry r.operationName code))
    else if 500 ≤ code ∧ code ≤ 599 then
      some (r.make "http_error" "medium"
        (buildHttpErrorMessage r.baseData r.telemetry r.operationName code))
    else if r.speaksOf "dependency" && r.successText lib = "false" then
      some (r.make "dependency_failure" "medium"
        (buildDependencyFailureMessage r.baseData r.telemetry r.operationName))
    else
      some (r.make "normal_activity" "low"
        (buildRequestMessage r.baseData r.telemetry r.operationName))
  | none =>
    if r.speaksOf "dependency" && r.successText lib = "false" then
      some (r.make "dependency_failure" "medium"
        (buildDependencyFailureMessage r.baseData r.telemetry r.operationName))
    else if r.successText lib = "true" || r.successText lib = "false" then
      some (r.make "normal_activity" "low"
        (buildRequestMessage r.baseData r.telemetry r.operationName))
    else none

/-- The second half of `normalize_azure_insights_telemetry`. -/
def Reading.event (r : Reading) : Except String AzureEvent :=
  if r.speaksOf "exception" then
    .ok (r.make "application_exception" "high"
      (buildExceptionMessage r.baseData r.telemetry r.operationName))
  else if r.speaksOf "availability" && r.unavailable lib then
    .ok (r.make "availability_failure" "high"
      (buildAvailabilityMessage r.baseData r.telemetry r.operationName))
  else if r.speaksOf "request" || r.speaksOf "dependency" then
    match r.requestEvent? lib with
    | some event => .ok event
    | none => .error "Unsupported Azure telemetry type"
  else .error "Unsupported Azure telemetry type"

/-- `normalize_azure_insights_telemetry`. -/
def normalizeAzureInsightsTelemetry (telemetry : Json) : Except String AzureEvent :=
  readTelemetry lib telemetry >>= Reading.event lib

end

end SiemDashboard.AzureInsights
