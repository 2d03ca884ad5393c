import SiemDashboard.Engines.RuleDocuments
import SiemDashboard.Engines.SigmaPlayground

/-!
# The Sigma compiler

`engines/sigma_playground.py`: a Sigma rule, read from YAML, becomes a temporary rule.  Its selections become
predicates over the fields of a source, and its condition says how they are put together.

* **Failures** — `CompileError`.
* **Metadata** — `parseMetadata`, `parseTags`.
* **Sources** — `logsourceFingerprints`, `mapLogsource`.
* **Fields** — `fieldAliases`, `mapFieldAlias`; `Modifier`, `splitFieldAndModifier`.
* **Selections** — `normalizeSelectionValue`, `compileFieldPredicate`, `compileSelection`.
* **Conditions** — `resolveConditionTree`, `compileDetection`.
* **Rules** — `CompiledRule`, `compileRule`.
-/

namespace SiemDashboard.SigmaPlayground

open Python
open DetectionSimulator (Field Source Operator Scalar Expected Predicate optionalText)

/-! ## Failures -/

/-- What compiling may raise. -/
inductive CompileError where
  | invalid (e : SigmaError)
  /-- `RecursionError`. -/
  | recursion
  /-- `KeyError`. -/
  | missing (name : String)
deriving DecidableEq, Repr

def CompileError.ofCondition : ConditionError → CompileError
  | .invalid e => .invalid e
  | .recursion => .recursion

/-- What the compiler asks of the interpreter. -/
structure Interpreter where
  py : Python
  unicode : Unicode
  /-- `str.lower`. -/
  lower : String → String
  /-- `int(value)` of a float that is an integer, known by its `repr`. -/
  floatInt : String → Option Int
  /-- The frames that are left on the stack. -/
  frames : Nat

def maxSigmaSelectionFields : Nat := 20

def maxSigmaSelections : Nat := 20

def maxSigmaListValues : Nat := 20

def maxSigmaTags : Nat := 40

def maxSigmaStringLength : Nat := 512

/-- `_validation_error` where something is refused. -/
def refuseIf (refused : Bool) (e : SigmaError) : Except SigmaError Unit :=
  if refused then .error e else .ok ()

/-- `', '.join(sorted(names))`. -/
def joinSorted (names : List String) : String := ", ".intercalate (names.insertionSort (· ≤ ·))

/-! ## Metadata -/

/-- What the metadata are refused with. -/
def unsupportedMetadata (message element reason : String) : SigmaError :=
  ⟨message, "unsupported_metadata", element, reason⟩

/-- What constructs are refused with. -/
def unsupportedConstruct (message element reason : String) : SigmaError :=
  ⟨message, "unsupported_construct", element, reason⟩

/-- `_require_string`. -/
def requireString (value : Json) (element : String) : Except SigmaError String :=
  match value with
  | .null =>
    .error (unsupportedMetadata s!"Missing required Sigma field '{element}'" element
      s!"'{element}' is required for the Version 3 Sigma subset")
  | .str text =>
    if strip text = "" then
      .error (unsupportedMetadata s!"Sigma field '{element}' must be a non-empty string" element
        "Value must be a non-empty string")
    else if maxSigmaStringLength < (strip text).length then
      .error (unsupportedMetadata s!"Sigma field '{element}' exceeds maximum length" element
        s!"Maximum length is {maxSigmaStringLength}")
    else .ok (strip text)
  | _ =>
    .error (unsupportedMetadata s!"Sigma field '{element}' must be a non-empty string" element
      "Value must be a non-empty string")

/-- `_require_string` with `optional=True`. -/
def optionalString (rule : Json) (element : String) : Except SigmaError (Option String) :=
  if (rule.get element).isNull then .ok none else (requireString (rule.get element) element).map some

/-- `LEVEL_TO_SEVERITY`; its keys are `ALLOWED_SIGMA_LEVELS`. -/
def levelToSeverity : List (String × String) :=
  [ ("informational", "low"), ("low", "low"), ("medium", "medium"), ("high", "high"),
    ("critical", "critical") ]

/-- The level of a rule, with the severity that it stands for. -/
def parseLevel (level : Json) : Except SigmaError (Option String × String) :=
  if level.isNull then .ok (none, "medium")
  else do
    let text ← requireString level "level"
    match levelToSeverity.lookup text with
    | some severity => return (some text, severity)
    | none =>
      .error (unsupportedMetadata s!"Unsupported Sigma level '{text}'" "level"
        s!"Allowed levels: {joinSorted (levelToSeverity.map Prod.fst)}")

/-- `ALLOWED_TOP_LEVEL_KEYS`. -/
def allowedTopLevelKeys : List String :=
  [ "title", "id", "status", "description", "author", "date", "logsource", "detection", "level",
    "tags" ]

/-- What a rule says of itself. -/
structure Metadata where
  title : String
  id : Option String
  status : Option String
  description : Option String
  author : Option String
  date : Option String
  level : Option String
  severity : String
deriving DecidableEq, Repr

/-- `_parse_metadata`. -/
def parseMetadata (rule : Json) : Except SigmaError Metadata := do
  let unexpected := (rule.fields.map Prod.fst).filter fun key => key ∉ allowedTopLevelKeys
  refuseIf (!unexpected.isEmpty)
    (unsupportedConstruct s!"Unsupported Sigma top-level fields: {joinSorted unexpected}"
      (",".intercalate (unexpected.insertionSort (· ≤ ·)))
      ("Version 3 accepts only title, id, status, description, author, date, " ++
        "logsource, detection, level, and tags"))
  let title ← requireString (rule.get "title") "title"
  let id ← optionalString rule "id"
  let status ← optionalString rule "status"
  let description ← optionalString rule "description"
  let author ← optionalString rule "author"
  let date ← optionalString rule "date"
  let level ← parseLevel (rule.get "level")
  return ⟨title, id, status, description, author, date, level.1, level.2⟩

/-- One of the tags, with its place. -/
def parseTag (tag : Json × Nat) : Except SigmaError String :=
  let element := s!"tags[{tag.2}]"
  let blank := unsupportedMetadata s!"Sigma {element} must be a non-empty string" element
    "Each tag must be a non-empty string"
  match tag.1 with
  | .str text =>
    if strip text = "" then .error blank
    else if maxSigmaStringLength < (strip text).length then
      .error (unsupportedMetadata s!"Sigma {element} exceeds maximum length" element
        s!"Maximum length is {maxSigmaStringLength}")
    else .ok (strip text)
  | _ => .error blank

/-- `ATTACK_TAG_PATTERN`, and the technique that it finds. -/
def attackTag (unicode : Unicode) (tag : String) : Option String :=
  let rest := tag.toList.drop 8
  let sub : Bool :=
    match rest.drop 4 with
    | [] => true
    | '.' :: digits => digits.length = 3 && digits.all unicode.isDecimal
    | _ => false
  if lower (String.ofList (tag.toList.take 8)) = "attack.t" && (rest.take 4).length = 4 &&
      (rest.take 4).all unicode.isDecimal && sub then
    some ("T" ++ String.ofList rest)
  else none

/-- `_parse_tags`: the tags, and the techniques among them. -/
def parseTags (unicode : Unicode) (rawTags : Json) : Except SigmaError (List String × List String) :=
  match rawTags with
  | .null => .ok ([], [])
  | .arr items =>
    if maxSigmaTags < items.length then
      .error (unsupportedMetadata s!"Sigma tags exceed maximum of {maxSigmaTags}" "tags"
        s!"At most {maxSigmaTags} tags are allowed")
    else do
      let tags ← items.zipIdx.mapM parseTag
      return (tags, tags.filterMap (attackTag unicode))
  | _ =>
    .error (unsupportedMetadata "Sigma tags must be a list of strings" "tags" "tags must be a list")

/-! ## Sources -/

/-- `LOGSOURCE_FINGERPRINTS`. -/
def logsourceFingerprints : List (List (String × String) × Source) :=
  [ ([("product", "pfsense")], .pfsense),
    ([("product", "pfsense"), ("category", "firewall")], .pfsense),
    ([("service", "pfsense")], .pfsense),
    ([("product", "nginx")], .nginx),
    ([("service", "nginx")], .nginx),
    ([("product", "nginx"), ("category", "webserver")], .nginx),
    ([("product", "honeypot")], .honeypot),
    ([("service", "honeypot")], .honeypot),
    ([("product", "bank_app")], .bankApp),
    ([("service", "bank_app")], .bankApp),
    ([("product", "bank")], .bankApp),
    ([("product", "azure_insights")], .azureInsights),
    ([("product", "azure"), ("service", "insights")], .azureInsights),
    ([("product", "azure"), ("service", "applicationinsights")], .azureInsights),
    ([("product", "opentelemetry")], .opentelemetry),
    ([("product", "otel")], .opentelemetry),
    ([("service", "opentelemetry")], .opentelemetry) ]

/-- `ALLOWED_LOGSOURCE_KEYS`. -/
def allowedLogsourceKeys : List String := ["product", "service", "category", "definition"]

/-- What a log source is refused with. -/
def ambiguousLogsource (message element reason : String) : SigmaError :=
  ⟨message, "ambiguous_logsource", element, reason⟩

/-- One entry of a log source, stripped. -/
def logsourceEntry (entry : String × Json) : Except SigmaError (String × String) :=
  let blank := ambiguousLogsource s!"logsource.{entry.1} must be a non-empty string"
    s!"logsource.{entry.1}" "logsource values must be non-empty strings"
  match entry.2 with
  | .str text => if strip text = "" then .error blank else .ok (entry.1, strip text)
  | _ => .error blank

/-- The keys of `SOURCE_TYPE_BY_SOURCE`. -/
def sources : List Source := [.honeypot, .bankApp, .pfsense, .nginx, .azureInsights, .opentelemetry]

/-- The sources whose fingerprints are among these pairs. -/
def matchingSources (pairs : List (String × String)) : List Source :=
  (logsourceFingerprints.filterMap fun fingerprint =>
    if fingerprint.1.all fun pair => pair ∈ pairs then some fingerprint.2 else none).eraseDups

/-- `map_logsource`: the source, and the entries stripped. -/
def mapLogsource (lower : String → String) (logsource : Json) :
    Except SigmaError (Source × List (String × String)) := do
  refuseIf logsource.fields.isEmpty
    (ambiguousLogsource "Sigma logsource must be a non-empty mapping" "logsource"
      "logsource is required and must resolve to one canonical source")
  let unexpected := (logsource.fields.map Prod.fst).filter fun key => key ∉ allowedLogsourceKeys
  refuseIf (!unexpected.isEmpty)
    (unsupportedConstruct s!"Unsupported logsource fields: {joinSorted unexpected}" "logsource"
      "Only product, service, category, and definition are accepted")
  let entries ← logsource.fields.mapM logsourceEntry
  let pairs := entries.map fun entry => (entry.1, lower entry.2)
  match matchingSources pairs with
  | [source] => return (source, entries)
  | [] =>
    let provided := joinSorted (pairs.map fun pair => pair.1 ++ "=" ++ pair.2)
    .error (ambiguousLogsource "Sigma logsource does not map to a supported canonical source" "logsource"
      s!"No safe mapping for [{provided}]. Supported sources: {joinSorted (sources.map Source.name)}")
  | sources =>
    .error (ambiguousLogsource "Sigma logsource is ambiguous across multiple canonical sources" "logsource"
      s!"Matched sources: {joinSorted (sources.map Source.name)}")

/-! ## Fields -/

/-- `FIELD_ALIASES_BY_SOURCE`. -/
def fieldAliases : Source → List (Field × List String)
  | .honeypot =>
    [ (.sourceIp, ["source_ip", "src_ip", "srcip", "client_ip", "c-ip"]),
      (.username, ["username", "user", "user.name", "UserName"]),
      (.eventType, ["event_type", "EventType", "event.type"]),
      (.severity, ["severity", "Severity"]) ]
  | .bankApp =>
    [ (.sourceIp, ["source_ip", "src_ip", "srcip", "client_ip", "c-ip", "ClientIP"]),
      (.username, ["username", "user", "user.name", "UserName", "userPrincipalName"]),
      (.eventType, ["event_type", "EventType", "event.type"]),
      (.eventOutcome, ["event_outcome", "outcome", "EventOutcome"]),
      (.severity, ["severity", "Severity"]) ]
  | .pfsense =>
    [ (.sourceIp, ["source_ip", "src_ip", "srcip", "src", "SourceIP"]),
      (.destinationIp, ["destination_ip", "dst_ip", "dstip", "dst", "DestinationIP"]),
      (.destinationPort, ["destination_port", "dst_port", "dstport", "dport", "DestinationPort"]),
      (.eventType, ["event_type", "EventType", "event.type"]),
      (.action, ["action", "Action"]),
      (.severity, ["severity", "Severity"]) ]
  | .nginx =>
    [ (.sourceIp, ["source_ip", "src_ip", "srcip", "client_ip", "c-ip", "remote_addr"]),
      (.eventType, ["event_type", "EventType", "event.type"]),
      (.httpStatus, ["http_status", "status", "status_code", "statusCode", "cs-status"]),
      (.severity, ["severity", "Severity"]) ]
  | .azureInsights =>
    [ (.sourceIp, ["source_ip", "src_ip", "ClientIP", "client_ip", "callerIpAddress"]),
      (.username, ["username", "user", "userPrincipalName", "UserName", "identity"]),
      (.eventType, ["event_type", "EventType", "event.type", "operationName"]),
      (.eventOutcome, ["event_outcome", "outcome", "resultType"]),
      (.httpStatus, ["http_status", "status", "status_code", "resultCode", "responseCode"]),
      (.severity, ["severity", "Severity"]) ]
  | .opentelemetry =>
    [ (.sourceIp, ["source_ip", "src_ip", "client_ip", "net.peer.ip"]),
      (.eventType, ["event_type", "EventType", "event.type"]),
      (.httpStatus, ["http_status", "status", "http.status_code", "status_code"]),
      (.severity, ["severity", "Severity"]) ]

/-- `map_field_alias`. -/
def mapFieldAlias (source : Source) (fieldName : String) : Except SigmaError Field :=
  let unsupported : SigmaError :=
    ⟨s!"Unsupported Sigma field '{fieldName}' for source '{source.name}'", "unsupported_field", fieldName,
      s!"No safe mapping exists for field '{fieldName}' on canonical source '{source.name}'. " ++
        s!"Allowed normalized fields: {joinSorted (source.allowedFields.map Field.name)}"⟩
  match (fieldAliases source).find? fun aliases => fieldName ∈ aliases.2 with
  | some aliases => if aliases.1 ∈ source.allowedFields then .ok aliases.1 else .error unsupported
  | none => .error unsupported

/-- `ALLOWED_FIELD_MODIFIERS`. -/
inductive Modifier where
  | contains
  | startswith
  | endswith
deriving DecidableEq, Repr

def Modifier.name : Modifier → String
  | .contains => "contains"
  | .startswith => "startswith"
  | .endswith => "endswith"

def Modifier.operator : Modifier → Operator
  | .contains => .contains
  | .startswith => .startsWith
  | .endswith => .endsWith

def modifiers : List Modifier := [.contains, .endswith, .startswith]

/-- What modifiers are refused with. -/
def unsupportedModifier (message element reason : String) : SigmaError :=
  ⟨message, "unsupported_modifier", element, reason⟩

/-- `_split_field_and_modifier`.  None of `REJECTED_FIELD_MODIFIERS` is allowed. -/
def splitFieldAndModifier (rawKey : String) : Except SigmaError (String × Option Modifier) :=
  let fieldName := String.ofList (rawKey.toList.takeWhile (· ≠ '|'))
  match rawKey.toList.dropWhile (· ≠ '|') with
  | [] => .ok (rawKey, none)
  | _ :: rest =>
    if fieldName = "" then
      .error (unsupportedModifier s!"Invalid Sigma selection field '{rawKey}'" rawKey
        "Field name before modifier is required")
    else if '|' ∈ rest then
      .error (unsupportedModifier s!"Unsupported Sigma modifier chain on '{rawKey}'" rawKey
        "Only a single approved modifier is allowed per field")
    else
      let name := lower (strip (String.ofList rest))
      match modifiers.find? (·.name = name) with
      | some modifier => .ok (fieldName, some modifier)
      | none =>
        .error (unsupportedModifier s!"Unsupported Sigma modifier '{name}' on field '{fieldName}'" rawKey
          (s!"Modifier '{name}' is not approved. " ++
            s!"Allowed modifiers: {joinSorted (modifiers.map Modifier.name)}"))

/-! ## Selections -/

/-- `_normalize_selection_value`. -/
def normalizeSelectionValue (floatInt : String → Option Int) (value : Json) (element : String) :
    Except SigmaError Scalar :=
  let unsupportedType (name : String) :=
    unsupportedConstruct s!"Unsupported selection value type at '{element}'" element
      s!"Unsupported type {name}"
  match value with
  | .null | .bool _ =>
    .error (unsupportedConstruct s!"Unsupported selection value at '{element}'" element
      "Boolean and null selection values are not supported")
  | .int n => .ok (.int n)
  | .float text =>
    match floatInt text with
    | some n => .ok (.int n)
    | none =>
      .error (unsupportedConstruct s!"Unsupported non-integer numeric value at '{element}'" element
        "Only integers and strings are supported as selection values")
  | .str text =>
    if strip text = "" then
      .error (unsupportedConstruct s!"Empty selection value at '{element}'" element
        "Selection values must be non-empty")
    else if maxSigmaStringLength < text.length then
      .error (unsupportedConstruct s!"Selection value at '{element}' exceeds maximum length" element
        s!"Maximum length is {maxSigmaStringLength}")
    else .ok (.text text)
  | .arr _ => .error (unsupportedType "list")
  | .obj _ => .error (unsupportedType "dict")

def modifiedPredicate (field : Field) (modifier : Modifier) (value : Scalar) (element : String) :
    Except SigmaError Predicate :=
  match value with
  | .text _ => .ok (.leaf field modifier.operator (.scalar value))
  | .int _ =>
    .error (unsupportedModifier s!"Modifier '{modifier.name}' requires a string value at '{element}'" element
      "contains/startswith/endswith apply only to strings")

section

variable (floatInt : String → Option Int)

/-- `_compile_field_predicate`. -/
def compileFieldPredicate (source : Source) (rawKey : String) (rawValue : Json) (element : String) :
    Except SigmaError Predicate := do
  let key ← splitFieldAndModifier rawKey
  let field ← mapFieldAlias source key.1
  match rawValue with
  | .arr items =>
    if items.isEmpty ∨ maxSigmaListValues < items.length then
      .error (unsupportedConstruct
        s!"Selection list at '{element}' must contain between 1 and {maxSigmaListValues} values" element
        s!"List size must be 1..{maxSigmaListValues}")
    else if key.2.isSome then
      .error (unsupportedModifier s!"Modifiers are not supported on list values at '{element}'" element
        "List values only support exact-match OR semantics (in_list)")
    else do
      let values ← items.zipIdx.mapM fun item =>
        normalizeSelectionValue floatInt item.1 s!"{element}[{item.2}]"
      return .leaf field .inList (.list values)
  | _ => do
    let value ← normalizeSelectionValue floatInt rawValue element
    match key.2 with
    | none => return .leaf field .equals (.scalar value)
    | some modifier => modifiedPredicate field modifier value element

/-- One predicate stands for itself, several are put under `all`. -/
def conjunction : List Predicate → Predicate
  | [predicate] => predicate
  | predicates => .all predicates

/-- `_compile_selection`. -/
def compileSelection (source : Source) (selectionName : String) (selectionBody : Json) :
    Except SigmaError Predicate :=
  let element := s!"detection.{selectionName}"
  if selectionBody.fields.isEmpty then
    .error (unsupportedConstruct s!"Selection '{selectionName}' must be a non-empty mapping" element
      "Each selection must map fields to values")
  else if maxSigmaSelectionFields < selectionBody.fields.length then
    .error (unsupportedConstruct s!"Selection '{selectionName}' exceeds maximum field count" element
      s!"At most {maxSigmaSelectionFields} fields per selection")
  else
    (selectionBody.fields.mapM fun entry =>
      compileFieldPredicate floatInt source entry.1 entry.2 s!"{element}.{entry.1}").map conjunction

end

/-! ## Conditions -/

mutual

/-- `_resolve_condition_tree`. -/
def resolveConditionTree (compiled : List (String × Predicate)) : Node → Except CompileError Predicate
  | .selection name =>
    match compiled.lookup name with
    | some predicate => .ok predicate
    | none => .error (.missing name)
  | .not node => (resolveConditionTree compiled node).map .negation
  | .all nodes => (resolveConditionTrees compiled nodes).map .all
  | .any nodes => (resolveConditionTrees compiled nodes).map .any

def resolveConditionTrees (compiled : List (String × Predicate)) :
    List Node → Except CompileError (List Predicate)
  | [] => .ok []
  | node :: nodes => do
    let predicate ← resolveConditionTree compiled node
    let predicates ← resolveConditionTrees compiled nodes
    return predicate :: predicates

end

section

variable (interpreter : Interpreter)

/-- A named selection, compiled. -/
def compileNamed (source : Source) (item : String × Json) : Except SigmaError (String × Predicate) :=
  (compileSelection interpreter.floatInt source item.1 item.2).map fun predicate => (item.1, predicate)

/-- A name that no selection may have. -/
def checkSelectionName (name : String) : Except SigmaError Unit :=
  if isSelectionName name.toList then .ok ()
  else
    .error (unsupportedConstruct s!"Unsupported selection name '{name}'" s!"detection.{name}"
      "Selection names must be alphanumeric identifiers without wildcards")

def detectionCondition (detection : Json) : Except SigmaError String :=
  let missing := unsupportedCondition "Sigma detection.condition must be a non-empty string"
    "condition is required"
  match detection.get "condition" with
  | .str text => if strip text = "" then .error missing else .ok text
  | _ => .error missing

def selectionItems (detection : Json) : List (String × Json) :=
  detection.fields.filter fun entry => entry.1 ≠ "condition"

/-- The checks of `_compile_detection` before anything is compiled. -/
def detectionParts (detection : Json) : Except SigmaError (String × List (String × Json)) := do
  refuseIf detection.fields.isEmpty
    (unsupportedConstruct "Sigma detection must be a non-empty mapping" "detection"
      "detection with named selections and condition is required")
  refuseIf (detection.has "timeframe")
    (unsupportedConstruct "Sigma aggregation/timeframe syntax is not supported" "detection.timeframe"
      "Aggregation and timeframe syntax are out of scope for Version 3")
  let condition ← detectionCondition detection
  let items := selectionItems detection
  refuseIf items.isEmpty
    (unsupportedConstruct "Sigma detection must define at least one named selection" "detection"
      "At least one selection map is required")
  refuseIf (maxSigmaSelections < items.length)
    (unsupportedConstruct "Sigma detection exceeds maximum selection count" "detection"
      s!"At most {maxSigmaSelections} selections are allowed")
  items.forM fun item => checkSelectionName item.1
  return (condition, items)

/-- `_compile_detection`. -/
def compileDetection (source : Source) (detection : Json) : Except CompileError Predicate := do
  let parts ← (detectionParts detection).mapError .invalid
  let compiled ← (parts.2.mapM (compileNamed interpreter source)).mapError .invalid
  let tree ← (conditionTree (compiled.map Prod.fst) interpreter.py interpreter.unicode interpreter.frames
    parts.1).mapError .ofCondition
  resolveConditionTree compiled tree

/-! ## Rules -/

/-- `_default_input_format`. -/
def defaultInputFormat (source : Source) (requested : Option String) : Except SigmaError String :=
  match requested with
  | some format =>
    if format ∈ source.inputFormats then .ok format
    else
      .error ⟨s!"input_format '{format}' is not supported for source '{source.name}'", "invalid_request",
        "input_format", s!"Allowed formats: {joinSorted source.inputFormats}"⟩
  | none =>
    .ok ((["json_array", "json_lines", "raw_text"].find? fun format => format ∈ source.inputFormats).getD "")

/-- `_default_group_by_field`: every source can be grouped by its source address. -/
def defaultGroupByField : Field := .sourceIp

/-- What a rule is compiled to, without the fields that are the same in every such rule. -/
structure CompiledRule where
  source : Source
  inputFormat : String
  eventType : Option String
  condition : Predicate
  metadata : Metadata
  tags : List String
  attackTags : List String
  logsource : List (String × String)

/-- The dict that a rule is compiled to. -/
def CompiledRule.json (rule : CompiledRule) : Json :=
  .obj
    [ ("source", .str rule.source.name), ("source_type", .str rule.source.sourceType),
      ("input_format", .str rule.inputFormat), ("event_type", optionalText rule.eventType),
      ("condition", rule.condition.json),
      ("aggregation", .obj [("type", .str "count"), ("group_by_field", .str defaultGroupByField.name)]),
      ("threshold", .int 1), ("window_minutes", .int 15), ("severity", .str rule.metadata.severity),
      ("mitre_technique_id", .null), ("title", .str rule.metadata.title),
      ("id", optionalText rule.metadata.id), ("status", optionalText rule.metadata.status),
      ("description", optionalText rule.metadata.description),
      ("author", optionalText rule.metadata.author), ("date", optionalText rule.metadata.date),
      ("level", optionalText rule.metadata.level), ("tags", .arr (rule.tags.map .str)),
      ("attack_tags", .arr (rule.attackTags.map .str)),
      ("logsource", .obj (rule.logsource.map fun entry => (entry.1, .str entry.2))),
      ("rule_provenance", .str "sigma_subset_import"), ("sigma_subset", .bool true) ]

/-- `compile_sigma_rule_to_temporary_rule`, of a document that has been read. -/
def compileRule (document : Json) (inputFormat eventType : Option String) :
    Except CompileError CompiledRule := do
  let metadata ← (parseMetadata document).mapError .invalid
  let tags ← (parseTags interpreter.unicode (document.get "tags")).mapError .invalid
  let mapped ← (mapLogsource interpreter.lower (document.get "logsource")).mapError .invalid
  let condition ← compileDetection interpreter mapped.1 (document.get "detection")
  let inputFormat ← (defaultInputFormat mapped.1 inputFormat).mapError .invalid
  let eventType := (eventType.map strip).filter (· ≠ "")
  return ⟨mapped.1, inputFormat, eventType, condition, metadata, tags.1, tags.2, mapped.2⟩

end

end SiemDashboard.SigmaPlayground
