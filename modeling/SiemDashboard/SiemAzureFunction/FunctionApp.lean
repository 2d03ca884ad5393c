import SiemDashboard.Adapters.AzureInsightsAdapter
import SiemDashboard.Lib.Watermarks

/-!
# The Azure poller

`siem-azure-function/function_app.py`: rows of the log store are forwarded to the backend, and a
checkpoint there says how far.

* **Rows** — `TelemetryRow`, `extractRealClientIp`, `hasValidClientIp`.
* **Classification** — `TelemetryEvent`, `Mapping`, `classifyTelemetryRow`.
* **Payloads** — `rowToSiemTelemetry`.
* **The log store** — `LogEntry`, `queryRecentTelemetry`.
* **Polling** — `PollRun`: how a run goes; `handleRows`, `pageStep`, `pollApplicationInsights`.
-/

namespace SiemDashboard.AzureInsights

open Python

/-! ## Rows -/

/-- The time of a row: a `datetime`, in microseconds and as `isoformat` writes it, or another value. -/
inductive LogTime where
  | datetime (instant : Int) (isoText : String)
  | value (v : Json)

/-- The instant of a time that is a `datetime`. -/
def LogTime.instant? : LogTime → Option Int
  | .datetime instant _ => some instant
  | .value _ => none

/-- A row of the query. -/
structure TelemetryRow where
  itemType : Json
  timestamp : LogTime
  operationName : Json := .null
  name : Json := .null
  message : Json := .null
  clientIp : Json := .null
  resultCode : Json := .null
  cloudRoleName : Json := .null
  severityLevel : Json := .null
  success : Json := .null
  customDimensions : Json := .null

section

variable (lib : Library)

/-- `_normalize_result_code`. -/
def normalizeResultCode (value : Json) : Except String (Option Int) :=
  if missing value then .ok none
  else
    match value with
    | .bool _ => .ok none
    | .int n => .ok (some n)
    | value =>
      let text := strip (display lib.py value)
      if lib.digits.isDigits text then some <$> intOfDigits lib text else .ok none

/-- `_serialize_log_value`, of a time. -/
def serializeLogTime : LogTime → Json
  | .datetime _ isoText => .str isoText
  | .value v => v

/-- `_sample_row_for_logging`. -/
def sampleRowForLogging (row : TelemetryRow) : Json :=
  .obj
    [ ("itemType", row.itemType),
      ("timestamp", serializeLogTime row.timestamp),
      ("operation_Name", row.operationName),
      ("name", row.name),
      ("message", row.message),
      ("client_IP", row.clientIp),
      ("resultCode", row.resultCode),
      ("cloud_RoleName", row.cloudRoleName),
      ("severityLevel", row.severityLevel),
      ("success", row.success),
      ("customDimensions", row.customDimensions) ]

/-- `_normalize_custom_dimensions`. -/
def normalizeCustomDimensions (value : Json) : Json :=
  match value with
  | .str text => ((lib.loads text).getD .null).dictOrEmpty
  | value => value.dictOrEmpty

/-- What follows the first occurrence of a marker. -/
def afterMarker (marker : List Char) : List Char → Option (List Char)
  | [] => if marker = [] then some [] else none
  | c :: cs => if marker <+: c :: cs then some ((c :: cs).drop marker.length) else afterMarker marker cs

/-- `text.split(",", 1)[0]`. -/
def beforeComma (cs : List Char) : List Char := cs.takeWhile (· ≠ ',')

/-- The client address that a message names, or what was found before. -/
def clientIpOfMessage (row : TelemetryRow) (candidate : Json) : Json :=
  match afterMarker "real_ip=".toList (display lib.py (row.message.orElse (.str ""))).toList with
  | none => candidate
  | some rest => .str (strip (String.ofList (beforeComma rest)))

/-- The first candidate that is there. -/
def clientIpCandidate (row : TelemetryRow) : Json :=
  let dimensions := normalizeCustomDimensions lib row.customDimensions
  if !missing (dimensions.get "client_IP") then dimensions.get "client_IP"
  else if !missing (dimensions.get "x-forwarded-for") then dimensions.get "x-forwarded-for"
  else if !missing row.clientIp then row.clientIp
  else clientIpOfMessage lib row row.clientIp

/-- The text of the candidate, up to a comma. -/
def candidateText (row : TelemetryRow) : String :=
  let candidate := clientIpCandidate lib row
  if missing candidate then ""
  else strip (String.ofList (beforeComma (display lib.py candidate).toList))

/-- A port after the only colon is dropped. -/
def dropPort (text : String) : String :=
  let host := text.toList.takeWhile (· ≠ ':')
  let port := (text.toList.dropWhile (· ≠ ':')).drop 1
  if text.toList.count ':' = 1 && lib.digits.isDigits (String.ofList port) then
    strip (String.ofList host)
  else text

/-- `_extract_real_client_ip`. -/
def extractRealClientIp (row : TelemetryRow) : String := dropPort lib (candidateText lib row)

/-- `_has_valid_client_ip`. -/
def hasValidClientIp (row : TelemetryRow) : Bool :=
  extractRealClientIp lib row ≠ "" && extractRealClientIp lib row ≠ "0.0.0.0"

/-! ## Classification -/

/-- The events that rows are mapped to. -/
inductive TelemetryEvent where
  | applicationException
  | unauthorizedAccess
  | httpError
  | dependencyFailure
  | availabilityFailure
deriving Repr, DecidableEq

def TelemetryEvent.name : TelemetryEvent → String
  | .applicationException => "application_exception"
  | .unauthorizedAccess => "unauthorized_access"
  | .httpError => "http_error"
  | .dependencyFailure => "dependency_failure"
  | .availabilityFailure => "availability_failure"

/-- What a mapped row is mapped to. -/
structure Mapping where
  eventType : TelemetryEvent
  responseCode : Option Int := none
deriving DecidableEq

/-- What becomes of a row. -/
inductive Classification where
  | mapped (mapping : Mapping)
  | missingCritical (reason : String)
  | unmapped (reason : String)
deriving DecidableEq

/-- `str(row.get("itemType") or "").strip().lower()`. -/
def itemTypeText (row : TelemetryRow) : String :=
  lower (strip (display lib.py (row.itemType.orElse (.str ""))))

/-- The request branch. -/
def classifyRequest : Option Int → Classification
  | none => .missingCritical "missing_result_code"
  | some code =>
    if code = 401 ∨ code = 403 then .mapped ⟨.unauthorizedAccess, some code⟩
    else if 500 ≤ code then .mapped ⟨.httpError, some code⟩
    else .unmapped "unsupported_request_result_code"

/-- `str(value).strip().lower()`, of a value that may be missing. -/
def flagText (value : Json) : String :=
  if value.isNull then "" else lower (strip (display lib.py value))

/-- The dependency branch, where no result code decides. -/
def classifyFailure (success : Json) (code : Option Int) : Classification :=
  if flagText lib success = "false" then .mapped ⟨.dependencyFailure, code⟩
  else .unmapped "unsupported_dependency_result"

/-- The dependency branch. -/
def classifyDependency (success : Json) : Option Int → Classification
  | none => classifyFailure lib success none
  | some code =>
    if code = 401 ∨ code = 403 then .mapped ⟨.unauthorizedAccess, some code⟩
    else if 500 ≤ code then .mapped ⟨.httpError, some code⟩
    else classifyFailure lib success (some code)

/-- `_classify_telemetry_row`. -/
def classifyTelemetryRow (row : TelemetryRow) : Except String Classification :=
  if itemTypeText lib row = "exception" then .ok (.mapped ⟨.applicationException, none⟩)
  else if itemTypeText lib row = "request" then
    classifyRequest <$> normalizeResultCode lib row.resultCode
  else if itemTypeText lib row = "dependency" then
    classifyDependency lib row.success <$> normalizeResultCode lib row.resultCode
  else if itemTypeText lib row = "availability" then .ok (.mapped ⟨.availabilityFailure, none⟩)
  else .ok (.unmapped "unsupported_item_type")

/-! ## Payloads -/

/-- The time of a row as text. -/
def timestampText (row : TelemetryRow) : String :=
  match row.timestamp with
  | .datetime _ isoText => isoText
  | .value v => display lib.py v

/-- `str(v or "").strip()`. -/
def strippedText (value : Json) : String := strip (display lib.py (value.orElse (.str "")))

/-- `a or b`, of texts. -/
def textOr (a b : String) : String := if a = "" then b else a

/-- `UNKNOWN_AZURE_SERVICE`. -/
def unknownAzureService : String := "unknown_azure_service"

def payloadMessage (row : TelemetryRow) : String :=
  textOr (strippedText lib row.message)
    (textOr (strippedText lib row.operationName)
      (textOr (strippedText lib row.name) "Azure Application Insights event"))

/-- The name of the operation, or of the request. -/
def payloadName (row : TelemetryRow) : String :=
  textOr (strippedText lib row.operationName) (strippedText lib row.name)

/-- The fields that every payload begins with. -/
def payloadHead (row : TelemetryRow) (mapping : Mapping) : List (String × Json) :=
  let clientIp := extractRealClientIp lib row
  [ ("client_IP", .str clientIp),
    ("source_ip", .str clientIp),
    ("event_type", .str mapping.eventType.name),
    ("message", .str (payloadMessage lib row)),
    ("app_name", .str (textOr (strippedText lib row.cloudRoleName) unknownAzureService)) ]

/-- `str(result_code)`. -/
def responseCodeText : Option Int → String
  | none => "None"
  | some code => toString code

/-- The success flag of a request or a dependency. -/
def payloadSuccess (row : TelemetryRow) (mapping : Mapping) : Json :=
  if mapping.eventType = .dependencyFailure then .bool false else row.success

/-- `_row_to_siem_telemetry`. -/
def rowToSiemTelemetry (row : TelemetryRow) (mapping : Mapping) : Json :=
  let time := Json.str (timestampText lib row)
  let tail :=
    [ ("raw_payload", sampleRowForLogging row),
      ("cloud_RoleName", row.cloudRoleName),
      ("operationName", .str (strippedText lib row.operationName)) ]
  match mapping.eventType with
  | .applicationException =>
    .obj (payloadHead lib row mapping ++
      [("timestamp", time), ("severity", row.severityLevel)] ++ tail ++
      [ ("baseType", .str "ExceptionData"),
        ("time", time),
        ("data", .obj [("baseData", .obj
          [("message", .str (payloadMessage lib row)), ("name", .str (payloadName lib row))])]) ])
  | .availabilityFailure =>
    .obj (payloadHead lib row mapping ++ [("timestamp", time)] ++ tail ++
      [ ("success", .bool false),
        ("baseType", .str "AvailabilityData"),
        ("time", time),
        ("data", .obj [("baseData", .obj
          [ ("name", .str (textOr (payloadName lib row) (payloadMessage lib row))),
            ("message", .str (payloadMessage lib row)),
            ("success", .bool false) ])]) ])
  | _ =>
    let code := Json.str (responseCodeText mapping.responseCode)
    .obj (payloadHead lib row mapping ++ [("response_code", code), ("timestamp", time)] ++ tail ++
      [ ("success", payloadSuccess row mapping),
        ("baseType", .str (if mapping.eventType = .dependencyFailure then "RemoteDependencyData"
          else "RequestData")),
        ("time", time),
        ("data", .obj [("baseData", .obj
          [ ("name", .str (textOr (payloadName lib row) (payloadMessage lib row))),
            ("message", .str (payloadMessage lib row)),
            ("responseCode", code),
            ("success", payloadSuccess row mapping) ])]) ])

end

/-! ## The log store -/

/-- A row of the store, with its place there and its time. -/
structure LogEntry where
  position : Nat
  instant : Int
  row : TelemetryRow

/-- The rows that have a time. -/
def entries (rows : List TelemetryRow) : List LogEntry :=
  rows.zipIdx.filterMap fun item =>
    item.1.timestamp.instant?.map fun instant => ⟨item.2, instant, item.1⟩

/-- `TimeGenerated > lower and TimeGenerated <= upper`. -/
def window (rows : List TelemetryRow) (lower upper : Int) : List LogEntry :=
  (entries rows).filter fun entry => lower < entry.instant && entry.instant ≤ upper

/-- `_query_recent_telemetry`: `order by timestamp asc | take PAGE_SIZE`. -/
def queryRecentTelemetry (pageSize : Nat) (rows : List TelemetryRow) (lower upper : Int) :
    List LogEntry :=
  Watermarks.page LogEntry.instant pageSize (window rows lower upper)

/-! ## Polling -/

/-- The settings of the function. -/
structure PollConfig where
  pageSize : Nat := 25
  maxPollPages : Nat := 10
  queryRetryAttempts : Nat := 3
  forwardRetryAttempts : Nat := 3

/-- A minute in microseconds. -/
def minute : Int := 60 * 1000 * 1000

/-- `_fallback_checkpoint`, with `CHECKPOINT_FALLBACK_MINUTES` and `CHECKPOINT_FALLBACK_MAX_MINUTES`. -/
def fallbackCheckpoint (now : Int) : Int := now - max 15 (min 60 60) * minute

/-- `_bounded_default_checkpoint` of the backend. -/
def boundedDefaultCheckpoint (now : Int) : Int := min (now - 60 * minute) (now - 15 * minute)

/-- How a run of the poller goes: its clock, that of the backend, and which calls work. -/
structure PollRun where
  now : Int
  fallbackNow : Int
  backendNow : Int
  /-- The checkpoint is read. -/
  reads : Bool
  /-- An attempt to query a page works. -/
  queries : Nat → Nat → Bool
  /-- An attempt to forward a row of a page works. -/
  forwards : Nat → Nat → Nat → Bool
  /-- The checkpoint is written. -/
  persists : Bool

/-- `_retry`: whether one of the attempts works. -/
def retry (attempts : Nat) (works : Nat → Bool) : Bool := (List.range attempts).any works

/-- `poll_status`. -/
inductive PollStatus where
  | success
  | failure
  /-- `"partial"`. -/
  | incomplete
deriving Repr, DecidableEq

/-- `poll_counts`. -/
structure PollCounts where
  returned : Nat := 0
  forwarded : Nat := 0
  skippedInvalidIp : Nat := 0
  failures : Nat := 0
  unmappedTelemetry : Nat := 0
  missingCriticalFields : Nat := 0
  pagesProcessed : Nat := 0
deriving DecidableEq

/-- The variables of a run, and the rows that any run has forwarded or counted as skipped. -/
structure PollState where
  watermark : Int
  counts : PollCounts := {}
  status : PollStatus := .success
  handled : List Nat

/-- The stored checkpoint. -/
structure Checkpoint where
  lastProcessedAt : Int
  lastPollStatus : PollStatus
  lastPollCounts : PollCounts
deriving DecidableEq

/-- What is left of a run: the checkpoint, and the rows that have been handled. -/
structure Ingestion where
  checkpoint : Option Checkpoint := none
  handled : List Nat := []

section

variable (lib : Library) (config : PollConfig) (rows : List TelemetryRow) (run : PollRun)

/-- `_fetch_checkpoint`, with its fallback. -/
def fetchCheckpoint (checkpoint : Option Checkpoint) : Int :=
  if run.reads then
    match checkpoint with
    | some checkpoint => checkpoint.lastProcessedAt
    | none => boundedDefaultCheckpoint run.backendNow
  else fallbackCheckpoint run.fallbackNow

/-- A row is handled, and counted. -/
def PollState.handle (st : PollState) (entry : LogEntry) (counts : PollCounts) : PollState :=
  { st with counts := counts, handled := entry.position :: st.handled }

/-- How the loop over the rows of a page ends. -/
inductive RowsEnd where
  | completed
  | failed
  | raised
deriving DecidableEq

/-- The loop over the rows of a page. -/
def handleRows (page : Nat) : List LogEntry → Nat → PollState → PollState × RowsEnd
  | [], _, st => (st, .completed)
  | entry :: rest, place, st =>
    if !hasValidClientIp lib entry.row then
      handleRows page rest (place + 1) (st.handle entry
        { st.counts with skippedInvalidIp := st.counts.skippedInvalidIp + 1 })
    else
      match classifyTelemetryRow lib entry.row with
      | .error _ => (st, .raised)
      | .ok (.missingCritical _) =>
        handleRows page rest (place + 1) (st.handle entry
          { st.counts with missingCriticalFields := st.counts.missingCriticalFields + 1 })
      | .ok (.unmapped _) =>
        handleRows page rest (place + 1) (st.handle entry
          { st.counts with unmappedTelemetry := st.counts.unmappedTelemetry + 1 })
      | .ok (.mapped _) =>
        if retry config.forwardRetryAttempts (run.forwards page place) then
          handleRows page rest (place + 1) (st.handle entry
            { st.counts with forwarded := st.counts.forwarded + 1 })
        else ({ st with counts := { st.counts with failures := st.counts.failures + 1 } }, .failed)

/-- What follows a page. -/
inductive PageResult where
  | next (st : PollState)
  | stop (st : PollState)
  | raised (st : PollState)

/-- The page after its rows have been read. -/
def finishPage (page : List LogEntry) : PollState × RowsEnd → PageResult
  | (st, .raised) => .raised st
  | (st, .failed) =>
    .stop { st with status := if st.counts.pagesProcessed = 1 then .failure else .incomplete }
  | (st, .completed) =>
    let st := { st with watermark := (page.getLast?.map LogEntry.instant).getD st.watermark }
    if page.length < config.pageSize then .stop st else .next st

/-- One turn of the loop over the pages. -/
def pageStep (index : Nat) (st : PollState) : PageResult :=
  if retry config.queryRetryAttempts (run.queries index) then
    let page := queryRecentTelemetry config.pageSize rows st.watermark run.now
    if page.isEmpty then .stop st
    else
      finishPage config page (handleRows lib config run index page 0
        { st with
          counts :=
            { st.counts with
              returned := st.counts.returned + page.length
              pagesProcessed := st.counts.pagesProcessed + 1 } })
  else
    .stop
      { st with
        status := if st.counts.pagesProcessed = 0 then .failure else .incomplete
        counts := { st.counts with failures := st.counts.failures + 1 } }

/-- The loop over the pages; the flag says that it raised. -/
def pollPages : Nat → Nat → PollState → PollState × Bool
  | _, 0, st => (st, false)
  | index, left + 1, st =>
    match pageStep lib config rows run index st with
    | .next st => pollPages (index + 1) left st
    | .stop st => (st, false)
    | .raised st => (st, true)

/-- The state at the beginning of a run. -/
def PollState.start (ingestion : Ingestion) : PollState :=
  { watermark := fetchCheckpoint run ingestion.checkpoint, handled := ingestion.handled }

/-- `poll_application_insights`, with `upsert_checkpoint`. -/
def pollApplicationInsights (ingestion : Ingestion) : Ingestion :=
  let (st, raised) := pollPages lib config rows run 0 config.maxPollPages
    (PollState.start run ingestion)
  if !raised && run.persists then
    { checkpoint := some ⟨st.watermark, st.status, st.counts⟩, handled := st.handled }
  else { ingestion with handled := st.handled }

end

/-! ## A sample -/

/-- A library that knows one address. -/
def oneAddressLibrary : Library where
  py := ⟨fun _ => "", fun _ => "", fun _ _ => .ok none⟩
  digits := .ascii
  ipAddress text := if text = "198.51.100.80" then some text else none
  loads _ := none

def deniedRequest : TelemetryRow where
  itemType := .str "request"
  timestamp := .datetime 0 "2026-07-14T12:00:00+00:00"
  clientIp := .str "198.51.100.80"
  resultCode := .str "401"

end SiemDashboard.AzureInsights
