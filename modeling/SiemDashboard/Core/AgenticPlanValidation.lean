import SiemDashboard.Core.AgenticAnalystPlanner

/-!
# The validator of proposed plans

`core/ai/agentic_analyst_planner.py`: what a model may propose for a turn, and the plan that is made where no model
is asked.

* **Contracts** — `planSemanticContracts`, `evidenceRequirementKeysByCategory`,
  `entityEvidenceBindingKeys`, `entityBindingAllowedRequirements`.
* **Errors** — `PlanError`, `issue`, `check`.
* **Filters** — `validatedEvidenceRequirements`.
* **Entities** — `validatedPlannerEntities`, `entityEvidenceBindingErrors`.
* **Plans** — `Proposal`, `AgenticAnalystPlan`, `parseAndValidatePlan`.
* **Shortcuts** — `deterministicShortcutPlan`.
-/

namespace SiemDashboard.AgenticAnalystPlanner

open Python SessionMemory JsonText

/-! ## Contracts -/

/-- `PlanSemanticContract`. -/
structure PlanSemanticContract where
  minimumEntities : Nat
  maximumEntities : Nat
  evidenceFiltersAllowed : Bool
  clarificationRequired : Bool
  toolExecutionAllowed : Bool
  capability : Option String
deriving DecidableEq

/-- `PLAN_SEMANTIC_CONTRACTS`. -/
def planSemanticContracts : List ((String × String) × PlanSemanticContract) :=
  [ (("state_summary", "direct_answer"), ⟨0, 1, false, false, false, some "quick_explain"⟩),
    (("fresh_evidence_lookup", "quick_evidence_lookup"),
      ⟨0, 1, true, false, true, some "quick_explain"⟩),
    (("evidence_explanation", "direct_answer"), ⟨1, 1, false, false, false, some "quick_explain"⟩),
    (("evidence_explanation", "quick_evidence_lookup"),
      ⟨1, 1, true, false, true, some "quick_explain"⟩),
    (("decision_support", "decision_support"),
      ⟨1, 1, false, false, false, some "decision_support"⟩),
    (("artifact_draft", "artifact_draft"), ⟨1, 1, false, false, false, some "generate_artifact"⟩),
    (("comparison", "compare_entities"), ⟨2, 2, false, false, false, some "deep_investigate"⟩),
    (("bounded_investigation", "bounded_investigation"),
      ⟨1, 1, false, false, false, some "deep_investigate"⟩),
    (("clarification", "clarification_required"), ⟨0, 2, false, true, false, none⟩),
    (("analyst_correction", "direct_answer"), ⟨1, 1, false, false, false, some "quick_explain"⟩),
    (("unsupported", "unsupported_or_boundary"), ⟨0, 2, false, false, false, none⟩) ]

/-- `CURRENT_TURN_ACTIONS`. -/
def currentTurnActions : List String := planSemanticContracts.map fun row => row.1.1

/-- `STRATEGY_CAPABILITY`; all rows of a strategy have one capability. -/
def strategyCapability : List (String × Option String) :=
  planSemanticContracts.map fun row => (row.1.2, row.2.capability)

/-- `PLAN_SEMANTIC_CONTRACTS.get((action, strategy))`. -/
def contractOf (action strategy : String) : Option PlanSemanticContract :=
  planSemanticContracts.lookup (action, strategy)

/-- `EVIDENCE_SUFFICIENCY`. -/
def evidenceSufficiencies : List String := ["sufficient", "insufficient", "ambiguous"]

/-- `CONFIDENCE_LEVELS`. -/
def confidenceLevels : List String := ["unknown", "low", "medium", "high"]

/-- `PRIOR_TURN_RELATIONSHIPS`. -/
def priorTurnRelationships : List String :=
  ["continuation", "new_question", "entity_switch", "comparison", "clarification_response"]

/-- `PLANNER_ENTITY_TYPES`. -/
def plannerEntityTypes : List String :=
  [ "investigation", "alert", "incident", "source_ip", "recon_activity", "response_registry",
    "detection", "dashboard", "general" ]

/-- `SUPPORTED_DRAFT_TYPES`. -/
def supportedDraftTypes : List String :=
  [ "detection_rule_change", "playbook_draft", "incident_note", "escalation_summary",
    "response_recommendation", "investigation_checklist" ]

/-- `STRATEGY_STOPPING_CONDITIONS`. -/
def strategyStoppingConditions : List (String × String) :=
  [ ("direct_answer",
      "Stop after answering the current turn from authoritative thread state and verified evidence."),
    ("quick_evidence_lookup",
      "Stop after one bounded read returns enough evidence to answer the current turn."),
    ("bounded_investigation",
      "Stop at the existing bounded investigation capability's terminal result."),
    ("decision_support",
      "Stop after returning one read-only recommendation with evidence and uncertainty."),
    ("artifact_draft",
      "Stop after returning one preview-only artifact or a bounded artifact-type clarification."),
    ("compare_entities", "Stop after comparing exactly the two authoritative entities."),
    ("clarification_required", "Stop until the analyst supplies the missing unambiguous information."),
    ("unsupported_or_boundary", "Stop without crossing the SIEM conversation boundary.") ]

/-- `EVIDENCE_REQUIREMENT_KEYS`. -/
def evidenceRequirementKeys : List String :=
  [ "alert_id", "incident_id", "activity_id", "registry_id", "severity", "alert_type", "source_ip",
    "destination_ip", "hostname", "username", "time_window_minutes", "sort", "limit" ]

/-- The filters of the tools that read events. -/
def eventRequirementKeys : List String :=
  ["alert_id", "activity_id", "source_ip", "alert_type", "limit"]

/-- `EVIDENCE_REQUIREMENT_KEYS_BY_CATEGORY`. -/
def evidenceRequirementKeysByCategory : List (String × List String) :=
  [ ("alerts",
      [ "alert_id", "severity", "alert_type", "source_ip", "destination_ip", "hostname", "username",
        "time_window_minutes", "sort", "limit" ]),
    ("incidents", ["incident_id", "severity", "limit"]),
    ("source_ip_activity", ["source_ip"]),
    ("events", eventRequirementKeys),
    ("authentication_activity", eventRequirementKeys),
    ("network_activity", eventRequirementKeys),
    ("recon_activity", eventRequirementKeys),
    ("response_registry", ["registry_id", "source_ip", "limit"]) ]

/-- `ENTITY_EVIDENCE_BINDING_KEYS`. -/
def entityEvidenceBindingKeys : List (String × List (String × String)) :=
  [ ("alert",
      [ ("alerts", "alert_id"), ("events", "alert_id"), ("authentication_activity", "alert_id"),
        ("network_activity", "alert_id"), ("recon_activity", "alert_id") ]),
    ("detection", [("alerts", "alert_id")]),
    ("incident", [("incidents", "incident_id")]),
    ("source_ip",
      [ ("alerts", "source_ip"), ("source_ip_activity", "source_ip"), ("events", "source_ip"),
        ("authentication_activity", "source_ip"), ("network_activity", "source_ip"),
        ("recon_activity", "source_ip"), ("response_registry", "source_ip") ]),
    ("recon_activity",
      [ ("events", "activity_id"), ("authentication_activity", "activity_id"),
        ("network_activity", "activity_id"), ("recon_activity", "activity_id") ]),
    ("response_registry", [("response_registry", "registry_id")]) ]

/-- `ENTITY_EVIDENCE_BINDING_KEYS.get(entity_type, {}).get(tool_category)`. -/
def bindingKey (entityType tool : String) : Option String :=
  (entityEvidenceBindingKeys.lookup entityType).bind fun tools => tools.lookup tool

/-- `ENTITY_BINDING_ALLOWED_REQUIREMENTS`. -/
def entityBindingAllowedRequirements : List ((String × String) × List String) :=
  [ (("incident", "incidents"), ["incident_id"]),
    (("source_ip", "source_ip_activity"), ["source_ip"]),
    (("source_ip", "response_registry"), ["source_ip", "limit"]),
    (("response_registry", "response_registry"), ["registry_id", "limit"]) ] ++
  [ ("alert", ["alert_id", "limit"]), ("source_ip", ["source_ip", "alert_type", "limit"]),
    ("recon_activity", ["activity_id"]) ].flatMap fun (entityType, allowed) =>
      ["events", "authentication_activity", "network_activity", "recon_activity"].map fun category =>
        ((entityType, category), allowed)

/-- `EVIDENCE_SORT_OPTIONS`. -/
def evidenceSortOptions : List String := ["newest", "oldest", "severity"]

/-- `EVIDENCE_SEVERITIES`. -/
def evidenceSeverities : List String := ["low", "medium", "high", "critical"]

/-- `MAX_PLANNER_EVIDENCE_LIMIT`. -/
def maxPlannerEvidenceLimit : Int := 10

/-- `MAX_PLANNER_TIME_WINDOW_MINUTES`. -/
def maxPlannerTimeWindowMinutes : Int := 7 * 24 * 60

/-- `PLANNER_PLAN_MAX_CHARS`. -/
@[irreducible] def plannerPlanMaxChars : Nat := 3600

/-! ## Errors -/

/-- What the validator collects: a `PlannerValidationIssue`, or a plain text. -/
inductive PlanError where
  | issue (stage code path message : String)
  | text (message : String)
deriving DecidableEq

/-- What is left to the libraries: JSON texts and addresses. -/
structure PlanReader extends Interpreter where
  /-- `json.loads(text)`: none where it raises an error that is caught, an error where the text is nested
      too deeply. -/
  loads : String → Except PlannerRaised (Option Json)
  /-- `str(ipaddress.ip_address(text))`, none where it raises. -/
  canonicalIp : String → Option String

section Validation

variable (r : PlanReader)

/-- `_issue`; the bounds of `PlannerValidationIssue` leave the short texts as they are. -/
def issue (stage code path message : String) : PlanError :=
  let bounded := boundedText r.py (.str message) 320
  .issue stage code path (if bounded = "" then "Planner output is invalid." else bounded)

/-- `if wrong: errors.append(error)`. -/
def check (wrong : Bool) (error : PlanError) : List PlanError := if wrong then [error] else []

/-- Names in order, with commas between them. -/
def sortedNames (names : List String) : String :=
  ", ".intercalate (names.mergeSort fun a b => decide (a ≤ b))

/-- `_parse_json_object`. -/
def parseJsonObject (content : String) : Except PlannerRaised (Option Json) :=
  let text := strip content
  if text.toList.head? ≠ some '\x7b' || text.toList.getLast? ≠ some '\x7d' then .ok none
  else do
    let value ← r.loads text
    return value.filter Json.isObj

/-- `str(payload.get(key) or default)`. -/
def textField (payload : Json) (key default : String) : String :=
  r.py.str ((payload.get key).orElse (.str default))

/-- `_string_list`. -/
def stringList (value : Json) (maxItems : Nat) : List String :=
  ((listOrEmpty value).take maxItems).filterMap fun item =>
    let text := boundedText r.py item 240
    if text = "" then none else some text

/-- `_optional_text`. -/
def optionalText (value : Json) (limit : Nat) : Option String :=
  let text := boundedText r.py value limit
  if text = "" then none else some text

/-- `isinstance(value, str) and value.strip()`. -/
def isNonemptyText (value : Json) : Bool :=
  match value with
  | .str s => strip s ≠ ""
  | _ => false

def hasBlankItem (value : Json) : Bool := (listOrEmpty value).any fun item => !isNonemptyText item

/-! ## Filters -/

/-- `[A-Za-z0-9]`. -/
def isAsciiWord (c : Char) : Bool := c.isAlphanum

/-- `[A-Za-z0-9_-]+`. -/
def isAlertType (text : String) : Bool :=
  text ≠ "" && text.toList.all fun c => isAsciiWord c || c = '_' || c = '-'

/-- `(?=.{1,253}\Z)[A-Za-z0-9](?:[A-Za-z0-9.-]*[A-Za-z0-9])?`. -/
def isHostname (text : String) : Bool :=
  text.toList.head?.any isAsciiWord && text.toList.getLast?.any isAsciiWord &&
    text.toList.all (fun c => isAsciiWord c || c = '.' || c = '-') && decide (text.length ≤ 253)

/-- `[A-Za-z0-9][A-Za-z0-9_.@\\-]{0,127}`. -/
def isUsername (text : String) : Bool :=
  text.toList.head?.any isAsciiWord &&
    text.toList.all (fun c => isAsciiWord c || ['_', '.', '@', '\\', '-'].contains c) &&
    decide (text.length ≤ 128)

/-- Fields that are accepted, and the errors. -/
structure Filters where
  normalized : List (String × Json)
  errors : List PlanError

/-- The filters that two steps accept, and all their errors. -/
def Filters.and (a b : Filters) : Filters := ⟨a.normalized ++ b.normalized, a.errors ++ b.errors⟩

/-- No filter and no error. -/
def Filters.none : Filters := ⟨[], []⟩

/-- The error about the value of a filter. -/
def invalidFilter (key : String) : PlanError :=
  issue r "schema" "invalid_filter_value" s!"evidence_requirements.{key}"
    s!"evidence_requirements {key} is invalid"

/-- A filter with a text, that is normalized or refused where it is there. -/
def textFilter (key text : String) (normalize : String → Option String) : Filters :=
  if text = "" then .none
  else
    match normalize text with
    | some value => ⟨[(key, .str value)], []⟩
    | none => ⟨[], [invalidFilter r key]⟩

/-- A text that passes a check stays as it is. -/
def accepted (valid : String → Bool) (text : String) : Option String :=
  if valid text then some text else none

/-- `int(raw)` of a filter: none for the errors that are caught. -/
def idOf (raw : Json) : Except PlannerRaised (Option Int) :=
  match raw with
  | .float text =>
    if text = "inf" || text = "-inf" then .error .overflow else .ok (r.truncated text)
  | .bool b => .ok (some (if b then 1 else 0))
  | .int n => .ok (some n)
  | .str text => .ok (Python.int r.decimal text)
  | .null | .arr _ | .obj _ => .ok none

/-- `raw in (None, "")`. -/
def isMissing (raw : Json) : Bool := raw.isNull || raw.str? = some ""

/-- `isinstance(value, bool)`. -/
def isBool : Json → Bool
  | .bool _ => true
  | _ => false

/-- A filter with the id of a row. -/
def idFilter (value : Json) (key : String) : Except PlannerRaised Filters :=
  let raw := value.get key
  if isMissing raw then .ok .none
  else if isBool raw then .ok ⟨[], [invalidFilter r key]⟩
  else do
    let parsed ← idOf r raw
    match parsed with
    | some n =>
      return if n < 1 then ⟨[], [invalidFilter r key]⟩ else ⟨[(key, .int n)], []⟩
    | none => return ⟨[], [invalidFilter r key]⟩

/-- A filter with a number within bounds; its error is a plain text. -/
def boundFilter (value : Json) (key : String) (maximum : Int) : Filters :=
  let raw := value.get key
  if isMissing raw then .none
  else
    match raw with
    | .int n =>
      if n < 1 || maximum < n then ⟨[], [.text s!"evidence_requirements {key} is invalid"]⟩
      else ⟨[(key, .int n)], []⟩
    | _ => ⟨[], [.text s!"evidence_requirements {key} is invalid"]⟩

/-- The filters that a tool allows; none without a tool. -/
def allowedFilters (tool : Option String) : List String :=
  (evidenceRequirementKeysByCategory.lookup (tool.getD "")).getD []

/-- The errors about the names of filters. -/
def filterNameErrors (value : Json) (tool : Option String) : List PlanError :=
  let names := value.fields.map Prod.fst
  let unknown := names.filter fun name => !evidenceRequirementKeys.contains name
  let unsupported := names.filter fun name =>
    !(allowedFilters tool).contains name && !unknown.contains name
  let toolName := tool.getD "no tool category"
  check (!unknown.isEmpty) (issue r "schema" "unknown_evidence_filter" "evidence_requirements"
      s!"evidence_requirements contains unknown filters: {sortedNames unknown}") ++
    check (!unsupported.isEmpty) (issue r "semantic" "unsupported_evidence_filter"
      "evidence_requirements"
      (s!"evidence_requirements filters are unsupported for {toolName}: " ++ sortedNames unsupported))

/-- `_validated_evidence_requirements`. -/
def validatedEvidenceRequirements (value : Json) (tool : Option String) :
    Except PlannerRaised Filters :=
  if !value.isObj then
    .ok ⟨[], [issue r "schema" "wrong_type" "evidence_requirements"
      "evidence_requirements must be an object"]⟩
  else do
    let severity := lower (boundedText r.py (value.get "severity") 20)
    let hostname := boundedText r.py (value.get "hostname") 253
    let username := boundedText r.py (value.get "username") 128
    let texts :=
      (((((Filters.mk [] (filterNameErrors r value tool)).and
        (textFilter r "severity" severity (accepted evidenceSeverities.contains))).and
        (textFilter r "alert_type" (boundedText r.py (value.get "alert_type") 100)
          (accepted isAlertType))).and
        (textFilter r "source_ip" (boundedText r.py (value.get "source_ip") 80) r.canonicalIp)).and
        (textFilter r "destination_ip" (boundedText r.py (value.get "destination_ip") 80)
          r.canonicalIp)).and
        ((textFilter r "hostname" hostname (accepted isHostname)).and
          (textFilter r "username" username (accepted isUsername)))
    let exclusive := check (hostname ≠ "" && username ≠ "")
      (issue r "semantic" "mutually_exclusive_filters" "evidence_requirements"
        "evidence_requirements cannot combine hostname and username in one bounded lookup")
    let alertId ← idFilter r value "alert_id"
    let incidentId ← idFilter r value "incident_id"
    let activityId ← idFilter r value "activity_id"
    let registryId ← idFilter r value "registry_id"
    let sort := lower (boundedText r.py (value.get "sort") 20)
    return ((((((texts.and ⟨[], exclusive⟩).and alertId).and incidentId).and activityId).and
      registryId).and
      ((boundFilter value "time_window_minutes" maxPlannerTimeWindowMinutes).and
        (boundFilter value "limit" maxPlannerEvidenceLimit))).and
      (textFilter r "sort" sort (accepted evidenceSortOptions.contains))

/-! ## Entities -/

/-- The errors about one item of `resolved_entities`, before its entity is read. -/
def entityItemErrors (index : Nat) (item : Json) : List PlanError :=
  let path := s!"resolved_entities[{index}]"
  let unknown := (item.fields.map Prod.fst).filter fun name =>
    !(["type", "id", "display_alias"].contains name)
  let displayAlias := item.get "display_alias"
  check (!unknown.isEmpty) (issue r "schema" "unknown_field" path
      s!"{path} contains unknown fields: {sortedNames unknown}") ++
    check (!isNonemptyText (item.get "type")) (issue r "schema" "wrong_type" (path ++ ".type")
      s!"{path} type must be a non-empty string") ++
    check (!isNonemptyText (item.get "id")) (issue r "schema" "wrong_type" (path ++ ".id")
      s!"{path} id must be a non-empty string") ++
    check (!displayAlias.isNull && displayAlias.str?.isNone) (issue r "schema" "wrong_type"
      (path ++ ".display_alias") s!"{path} display_alias must be a string")

/-- The entities that are accepted so far, and the errors. -/
structure EntityReading where
  entities : List Entity
  errors : List PlanError

/-- The loop over `resolved_entities`. -/
def readEntity (reading : EntityReading) (indexed : Json × Nat) : EntityReading :=
  let item := indexed.1
  let path := s!"resolved_entities[{indexed.2}]"
  let withErrors (errors : List PlanError) : EntityReading :=
    { reading with errors := reading.errors ++ errors }
  if !item.isObj then
    withErrors [issue r "schema" "wrong_type" path s!"{path} must be an object"]
  else
    let errors := entityItemErrors r indexed.2 item
    match entity r.py item with
    | none =>
      withErrors (errors ++ [issue r "schema" "missing_entity_field" path
        s!"{path} requires type and id"])
    | some entity =>
      if !plannerEntityTypes.contains entity.type then
        withErrors (errors ++ [issue r "schema" "invalid_enum" (path ++ ".type")
          s!"{path} type is unsupported"])
      else if (reading.entities.map Entity.key).contains entity.key then
        withErrors (errors ++ [issue r "semantic" "duplicate_entity" "resolved_entities"
          "resolved_entities cannot contain duplicates"])
      else ⟨reading.entities ++ [entity], reading.errors ++ errors⟩

/-- `_validated_planner_entities`. -/
def validatedPlannerEntities (value : Json) : EntityReading :=
  match value with
  | .arr items =>
    if 2 < items.length then
      ⟨[], [issue r "semantic" "entity_cardinality" "resolved_entities"
        "resolved_entities may contain at most two entities"]⟩
    else items.zipIdx.foldl (readEntity r) ⟨[], []⟩
  | _ =>
    ⟨[], [issue r "schema" "wrong_type" "resolved_entities" "resolved_entities must be a list"]⟩

/-- The identifier of an entity that a filter must equal, or the error about the entity. -/
def expectedBinding (entity : Entity) (key : String) : Except PlanError Json :=
  if key = "source_ip" then
    match r.canonicalIp entity.id with
    | some address => .ok (.str address)
    | none => .error (issue r "entity_binding" "invalid_entity_identity" "resolved_entities[0].id"
        s!"evidence_requirements cannot bind invalid resolved source_ip id {entity.id}")
  else
    match Python.int r.decimal entity.id with
    | some n =>
      if n < 1 then
        .error (issue r "entity_binding" "invalid_entity_identity" "resolved_entities[0].id"
          s!"evidence_requirements cannot bind non-positive resolved {entity.type} id {entity.id}")
      else .ok (.int n)
    | none => .error (issue r "entity_binding" "invalid_entity_identity" "resolved_entities[0].id"
        s!"evidence_requirements cannot bind non-integer resolved {entity.type} id {entity.id}")

/-- `_entity_evidence_binding_errors`. -/
def entityEvidenceBindingErrors (entity : Entity) (tool : String)
    (requirements : List (String × Json)) : List PlanError :=
  match bindingKey entity.type tool with
  | none =>
    [issue r "entity_binding" "unsupported_entity_tool_binding" "evidence_requirements"
      s!"evidence_requirements cannot bind resolved {entity.type} entity to {tool}"]
  | some key =>
    match expectedBinding r entity key with
    | .error error => [error]
    | .ok expected =>
      match requirements.lookup key with
      | none =>
        [issue r "entity_binding" "missing_entity_identity" s!"evidence_requirements.{key}"
          (s!"evidence_requirements must bind resolved {entity.type} {entity.id} with " ++
            s!"{key}={r.py.str expected} for {tool}")]
      | some actual =>
        if !equal r.py actual expected then
          [issue r "entity_binding" "mismatched_entity_identity" s!"evidence_requirements.{key}"
            s!"evidence_requirements {key} must equal resolved {entity.type} id {entity.id}"]
        else
          match entityBindingAllowedRequirements.lookup (entity.type, tool) with
          | none => []
          | some allowed =>
            let unsupported := (requirements.map Prod.fst).filter fun name => !allowed.contains name
            check (!unsupported.isEmpty) (issue r "entity_binding" "unsupported_bound_filter"
              "evidence_requirements"
              (s!"evidence_requirements for resolved {entity.type} {entity.id} cannot include: " ++
                sortedNames unsupported))

/-! ## Plans -/

/-- `AgenticAnalystPlan`. -/
structure AgenticAnalystPlan where
  currentTurnIntent : String
  relationshipToPriorTurn : String
  resolvedEntities : List Entity
  evidenceSufficiency : String
  requiredEvidence : List String
  proposedStrategy : String
  proposedCapability : Option String
  proposedToolCategories : List String
  evidenceRequirements : List (String × Json)
  evidenceFilterProvenance : List (String × String)
  artifactType : Option String
  referencedTurnSequence : Option Int
  clarificationQuestion : Option String
  reasoningSummary : String
  stoppingCondition : String
  confidence : String
  readOnly : Bool
  mutationAllowed : Bool
deriving DecidableEq

/-- `planner_output_schema()["required"]`. -/
def requiredFields : List String :=
  [ "current_turn_intent", "relationship_to_prior_turn", "resolved_entities", "evidence_sufficiency",
    "required_evidence", "proposed_strategy", "proposed_capability", "proposed_tool_categories",
    "evidence_requirements", "reasoning_summary" ]

/-- `planner_output_schema()["optional"]`. -/
def optionalFields : List String :=
  ["artifact_type", "referenced_turn_sequence", "clarification_question", "confidence"]

/-- The copies of the fields of a proposal that the validator compares. -/
structure Proposal where
  relationship : String
  action : String
  sufficiency : String
  strategy : String
  contract : Option PlanSemanticContract
  capability : Option String
  tools : List String
  requirements : List (String × Json)
  clarification : Option String
  artifactType : Option String
  referencedTurn : Option Int
  requiredEvidence : List String
  confidence : String
  entities : List Entity
  reasoning : String

/-- `referenced_turn_sequence`, once a value that is no positive integer is dropped. -/
def referencedTurnOf (value : Json) : Option Int :=
  match value with
  | .int n => if n < 1 then none else some n
  | _ => none

/-- The capability of a proposal. -/
def capabilityOf (value : Json) : Option String :=
  if isMissing value then none else some (strip (r.py.str value))

/-- The one tool of a proposal. -/
def singleTool (tools : List String) : Option String :=
  match tools with
  | [tool] => some tool
  | _ => none

/-- The tools of a proposal. -/
def toolsOf (payload : Json) : List String :=
  stringList r (payload.get "proposed_tool_categories") 2

/-- The copies that are made of a proposal. -/
def readProposal (payload : Json) (requirements : List (String × Json)) : Proposal :=
  let action := textField r payload "current_turn_intent" ""
  let strategy := textField r payload "proposed_strategy" ""
  { relationship := textField r payload "relationship_to_prior_turn" ""
    action := action
    sufficiency := textField r payload "evidence_sufficiency" ""
    strategy := strategy
    contract := contractOf action strategy
    capability := capabilityOf r (payload.get "proposed_capability")
    tools := toolsOf r payload
    requirements := requirements
    clarification := optionalText r (payload.get "clarification_question") 400
    artifactType := optionalText r (payload.get "artifact_type") 80
    referencedTurn := referencedTurnOf (payload.get "referenced_turn_sequence")
    requiredEvidence := stringList r (payload.get "required_evidence") 6
    confidence := textField r payload "confidence" "unknown"
    entities := (validatedPlannerEntities r (payload.get "resolved_entities")).entities
    reasoning := boundedText r.py (payload.get "reasoning_summary") 500 }

/-- The strategy is one of the table. -/
def isStrategy (strategy : String) : Bool := (strategyCapability.map Prod.fst).contains strategy

/-- The errors about the names of the fields. -/
def fieldNameErrors (payload : Json) : List PlanError :=
  let names := payload.fields.map Prod.fst
  let missing := requiredFields.filter fun name => !names.contains name
  let unknown := names.filter fun name => !(requiredFields ++ optionalFields).contains name
  check (!missing.isEmpty) (issue r "schema" "missing_required_fields" "$"
      s!"missing required fields: {sortedNames missing}") ++
    check (!unknown.isEmpty) (issue r "schema" "unknown_fields" "$"
      s!"unknown plan fields: {sortedNames unknown}")

/-- The errors about the action, the relationship and what a repair must keep. -/
def intentErrors (payload : Json) (p : Proposal) (expectedAction : Option String)
    (preserved : List (String × Json)) : List PlanError :=
  check (!priorTurnRelationships.contains p.relationship) (issue r "schema" "invalid_enum"
      "relationship_to_prior_turn" "relationship_to_prior_turn is invalid") ++
    check (!currentTurnActions.contains p.action) (issue r "schema" "invalid_enum"
      "current_turn_intent" "current_turn_intent is invalid") ++
    check ((expectedAction.filter (· ≠ "")).any fun expected => p.action ≠ expected)
      (issue r "semantic" "repair_changed_preserved_field" "current_turn_intent"
        "repair cannot change current_turn_intent") ++
    preserved.flatMap fun (field, expected) =>
      check (!equal r.py (payload.get field) expected)
        (issue r "semantic" "repair_changed_preserved_field" field
          s!"repair cannot change preserved field {field}")

/-- The errors about the sufficiency, the strategy and the capability. -/
def strategyErrors (payload : Json) (p : Proposal) : List PlanError :=
  let value := payload.get "proposed_capability"
  let expected : Option String :=
    match p.contract with
    | some contract => contract.capability
    | none => (strategyCapability.lookup p.strategy).getD none
  check (!evidenceSufficiencies.contains p.sufficiency) (issue r "schema" "invalid_enum"
      "evidence_sufficiency" "evidence_sufficiency is invalid") ++
    check (!isStrategy p.strategy) (issue r "schema" "invalid_enum" "proposed_strategy"
      "proposed_strategy is invalid") ++
    check (isStrategy p.strategy && p.contract.isNone) (issue r "semantic"
      "action_strategy_incompatible" "proposed_strategy"
      s!"current_turn_intent {p.action} is incompatible with {p.strategy}") ++
    check (!value.isNull && !isNonemptyText value) (issue r "schema" "wrong_type"
      "proposed_capability" "proposed_capability must be an enum string or null") ++
    check (isStrategy p.strategy && p.capability ≠ expected) (issue r "semantic"
      "strategy_capability_incompatible" "proposed_capability"
      "proposed_capability is incompatible with proposed_strategy")

/-- The errors about the tools. -/
def toolErrors (payload : Json) (p : Proposal) : List PlanError :=
  let value := payload.get "proposed_tool_categories"
  let isList : Bool :=
    match value with
    | .arr _ => true
    | _ => false
  check (!isList) (issue r "schema" "wrong_type" "proposed_tool_categories"
      "proposed_tool_categories must be a list") ++
    check (isList && hasBlankItem value) (issue r "schema" "invalid_list_item"
      "proposed_tool_categories" "proposed_tool_categories must contain non-empty strings") ++
    check (decide (1 < p.tools.length)) (issue r "semantic" "tool_cardinality"
      "proposed_tool_categories" "at most one planner-selected tool category is allowed") ++
    check (p.tools.any fun tool => !approvedToolCategories.contains tool) (issue r "semantic"
      "unsupported_tool" "proposed_tool_categories"
      "proposed_tool_categories contains an unapproved category") ++
    check (p.contract.any fun contract => !contract.toolExecutionAllowed && !p.tools.isEmpty)
      (issue r "semantic" "tool_not_allowed" "proposed_tool_categories"
        s!"{p.action}/{p.strategy} cannot request a planner-selected tool category") ++
    check (p.contract.any fun contract => contract.toolExecutionAllowed &&
        (p.tools.length ≠ 1 || p.sufficiency ≠ "insufficient"))
      (issue r "semantic" "lookup_contract" "proposed_tool_categories"
        "quick_evidence_lookup requires insufficient evidence and exactly one tool category")

/-- The errors about whether there are filters. -/
def filterErrors (p : Proposal) : List PlanError :=
  check (p.contract.any fun contract => contract.evidenceFiltersAllowed && p.requirements.isEmpty)
      (issue r "semantic" "missing_evidence_requirements" "evidence_requirements"
        "quick_evidence_lookup requires structured evidence_requirements") ++
    check (p.contract.any fun contract => !contract.evidenceFiltersAllowed && !p.requirements.isEmpty)
      (issue r "semantic" "evidence_requirements_not_allowed" "evidence_requirements"
        s!"{p.action}/{p.strategy} cannot include evidence_requirements")

/-- `_packet_has_answerable_context`. -/
def packetHasAnswerableContext (packet : Json) : Bool :=
  let context := (packet.get "facts").dictOrEmpty
  let turns := listOrEmpty (context.get "recent_entity_turns") ++
    listOrEmpty (context.get "recent_turns")
  turns.any (fun item => item.isObj && (item.get "role").str? = some "assistant") ||
    (context.get "recent_tool_results").truthy || (context.get "recent_conclusions").truthy ||
    (context.get "analyst_corrections").truthy || (context.get "unresolved_questions").truthy ||
    (context.get "conversation_summary").truthy

/-- The errors about the sufficiency of the evidence. -/
def sufficiencyErrors (packet : Json) (p : Proposal) : List PlanError :=
  check (p.sufficiency = "insufficient" && p.strategy = "direct_answer") (issue r "semantic"
      "insufficient_direct_answer" "evidence_sufficiency"
      "insufficient evidence cannot use direct_answer") ++
    check (p.sufficiency = "sufficient" && p.strategy ≠ "unsupported_or_boundary" &&
        !packetHasAnswerableContext packet) (issue r "semantic" "ungrounded_sufficiency"
      "evidence_sufficiency"
      "evidence_sufficiency cannot be sufficient without verified evidence or relevant thread state") ++
    check (p.sufficiency = "ambiguous" &&
        !(["clarification_required", "unsupported_or_boundary"].contains p.strategy))
      (issue r "semantic" "ambiguous_without_clarification" "evidence_sufficiency"
        "ambiguous evidence requires clarification") ++
    check (p.strategy = "clarification_required" && p.sufficiency ≠ "ambiguous")
      (issue r "semantic" "clarification_sufficiency" "evidence_sufficiency"
        "clarification_required requires ambiguous evidence_sufficiency")

/-- The errors about the clarification question. -/
def clarificationErrors (payload : Json) (p : Proposal) : List PlanError :=
  let value := payload.get "clarification_question"
  check (!value.isNull && !isNonemptyText value) (issue r "schema" "wrong_type"
      "clarification_question" "clarification_question must be a non-empty string or null") ++
    check (p.contract.any fun contract => contract.clarificationRequired && p.clarification.isNone)
      (issue r "semantic" "missing_clarification_question" "clarification_question"
        "clarification_required needs clarification_question") ++
    check (p.contract.any fun contract => !contract.clarificationRequired && p.clarification.isSome)
      (issue r "semantic" "clarification_not_allowed" "clarification_question"
        s!"{p.action}/{p.strategy} cannot include clarification_question")

/-- The errors about the type of the artifact. -/
def artifactErrors (payload : Json) (p : Proposal) : List PlanError :=
  let value := payload.get "artifact_type"
  check (!value.isNull && !isNonemptyText value) (issue r "schema" "wrong_type" "artifact_type"
      "artifact_type must be a supported string or null") ++
    check (p.strategy = "artifact_draft" && !p.artifactType.any supportedDraftTypes.contains)
      (issue r "semantic" "artifact_type_required" "artifact_type"
        "artifact_draft requires one supported artifact_type") ++
    check (p.strategy ≠ "artifact_draft" && p.artifactType.isSome) (issue r "semantic"
      "artifact_type_not_allowed" "artifact_type" s!"{p.strategy} cannot include artifact_type")

/-- The errors about the turn that is corrected. -/
def referenceErrors (payload : Json) (p : Proposal) : List PlanError :=
  let value := payload.get "referenced_turn_sequence"
  check (!value.isNull && (referencedTurnOf value).isNone) (issue r "schema"
      "invalid_positive_integer" "referenced_turn_sequence"
      "referenced_turn_sequence must be a positive integer") ++
    check (p.action = "analyst_correction" && p.referencedTurn.isNone) (issue r "semantic"
      "correction_reference_required" "referenced_turn_sequence"
      "analyst_correction requires referenced_turn_sequence") ++
    check (p.action ≠ "analyst_correction" && p.referencedTurn.isSome) (issue r "semantic"
      "correction_reference_not_allowed" "referenced_turn_sequence"
      "referenced_turn_sequence is only valid for analyst_correction")

/-- The errors about the evidence that is named. -/
def requiredEvidenceErrors (payload : Json) (p : Proposal) : List PlanError :=
  let value := payload.get "required_evidence"
  (match value with
    | .arr items =>
      if 6 < items.length then
        [issue r "schema" "list_too_long" "required_evidence"
          "required_evidence may contain at most six items"]
      else
        check (hasBlankItem value) (issue r "schema" "invalid_list_item" "required_evidence"
          "required_evidence must contain non-empty strings")
    | _ => [issue r "schema" "wrong_type" "required_evidence" "required_evidence must be a list"]) ++
    check (p.contract.any fun contract => contract.toolExecutionAllowed && p.requiredEvidence.isEmpty)
      (issue r "semantic" "required_evidence_missing" "required_evidence"
        "quick_evidence_lookup requires at least one required_evidence item") ++
    check (!confidenceLevels.contains p.confidence) (issue r "schema" "invalid_enum" "confidence"
      "confidence is invalid")

/-- `_entity_cardinality_error`. -/
def entityCardinalityError (action strategy : String) (contract : PlanSemanticContract) : String :=
  let expected :=
    if contract.minimumEntities = contract.maximumEntities then s!"exactly {contract.minimumEntities}"
    else s!"between {contract.minimumEntities} and {contract.maximumEntities}"
  s!"{action}/{strategy} requires {expected} resolved entities"

/-- The errors about the entities. -/
def entityErrors (payload : Json) (p : Proposal) : List PlanError :=
  (validatedPlannerEntities r (payload.get "resolved_entities")).errors ++
    (match p.contract with
      | some contract =>
        check (!(decide (contract.minimumEntities ≤ p.entities.length) &&
            decide (p.entities.length ≤ contract.maximumEntities)))
          (issue r "semantic" "entity_cardinality" "resolved_entities"
            (entityCardinalityError p.action p.strategy contract))
      | none => []) ++
    (match p.entities, p.tools with
      | [entity], [tool] =>
        if p.strategy = "quick_evidence_lookup" then
          entityEvidenceBindingErrors r entity tool p.requirements
        else []
      | _, _ => [])

/-- The errors about the summary. -/
def reasoningErrors (payload : Json) (p : Proposal) : List PlanError :=
  check ((payload.get "reasoning_summary").str?.isNone) (issue r "schema" "wrong_type"
      "reasoning_summary" "reasoning_summary must be a string") ++
    check (p.reasoning = "") (issue r "schema" "missing_nonempty_string" "reasoning_summary"
      "reasoning_summary is required")

/-- The plan of a proposal without errors. -/
def Proposal.plan (p : Proposal) : AgenticAnalystPlan where
  currentTurnIntent := p.action
  relationshipToPriorTurn := p.relationship
  resolvedEntities := p.entities
  evidenceSufficiency := p.sufficiency
  requiredEvidence := p.requiredEvidence
  proposedStrategy := p.strategy
  proposedCapability := p.capability
  proposedToolCategories := p.tools
  evidenceRequirements := p.requirements
  evidenceFilterProvenance := p.requirements.map fun (key, _) => (key, "planner_interpreted")
  artifactType := p.artifactType
  referencedTurnSequence := p.referencedTurn
  clarificationQuestion := p.clarification
  reasoningSummary := p.reasoning
  stoppingCondition := (strategyStoppingConditions.lookup p.strategy).getD ""
  confidence := p.confidence
  readOnly := true
  mutationAllowed := false

/-- All errors of a proposal, in the order of the checks. -/
def proposalErrors (payload packet : Json) (p : Proposal) (requirementErrors : List PlanError)
    (expectedAction : Option String) (preserved : List (String × Json)) : List PlanError :=
  fieldNameErrors r payload ++ intentErrors r payload p expectedAction preserved ++
    strategyErrors r payload p ++ toolErrors r payload p ++ requirementErrors ++ filterErrors r p ++
    sufficiencyErrors r packet p ++ clarificationErrors r payload p ++ artifactErrors r payload p ++
    referenceErrors r payload p ++ requiredEvidenceErrors r payload p ++ entityErrors r payload p ++
    reasoningErrors r payload p

/-- `parse_and_validate_plan` once the object is read. -/
def validatePlan (payload packet : Json) (expectedAction : Option String)
    (preserved : List (String × Json)) :
    Except PlannerRaised (Option AgenticAnalystPlan × List PlanError) :=
  if plannerPlanMaxChars < jsonSize payload then
    .ok (none, [issue r "schema" "plan_too_large" "$"
      s!"plan exceeds {plannerPlanMaxChars} characters"])
  else do
    let filters ← validatedEvidenceRequirements r (payload.get "evidence_requirements")
      (singleTool (toolsOf r payload))
    let p := readProposal r payload filters.normalized
    let errors := proposalErrors r payload packet p filters.errors expectedAction preserved
    return if errors.isEmpty then (some p.plan, []) else (none, errors)

/-- `parse_and_validate_plan`. -/
def parseAndValidatePlan (content : String) (packet : Json) (expectedAction : Option String)
    (preserved : List (String × Json)) :
    Except PlannerRaised (Option AgenticAnalystPlan × List PlanError) := do
  let parsed ← parseJsonObject r content
  match parsed with
  | none =>
    return (none, [issue r "parse" "invalid_json_object" "$" "response must be one JSON object"])
  | some payload => validatePlan r payload packet expectedAction preserved

end Validation

/-! ## Shortcuts -/

section Shortcuts

variable (py : Python)

/-- The intent and the strategy of a capability. -/
def shortcutRow : String → Option (String × String)
  | "quick_explain" => some ("evidence_explanation", "direct_answer")
  | "deep_investigate" => some ("bounded_investigation", "bounded_investigation")
  | "decision_support" => some ("decision_support", "decision_support")
  | "generate_artifact" => some ("artifact_draft", "artifact_draft")
  | _ => none

/-- The first entity of a packet that comes from the request. -/
def shortcutEntity (packet : Json) : Option Entity :=
  let facts := (packet.get "facts").dictOrEmpty
  (listOrEmpty (facts.get "entities")).findSome? fun item =>
    if item.isObj && (item.get "source_type").str? = some "request_context" then entity py item
    else none

/-- The type of the artifact that a request names. -/
def shortcutArtifact (packet : Json) (capability : String) : Option String :=
  if capability = "generate_artifact" then
    let text := boundedText py (((packet.get "request_context").dictOrEmpty).get "artifact_type") 80
    if text = "" then none else some text
  else none

def shortcutPlan (capability : String) (row : String × String) (entity : Entity)
    (artifactType : Option String) : AgenticAnalystPlan where
  currentTurnIntent := row.1
  relationshipToPriorTurn := "new_question"
  resolvedEntities := [entity]
  evidenceSufficiency := if capability = "deep_investigate" then "insufficient" else "sufficient"
  requiredEvidence :=
    if capability = "deep_investigate" then ["bounded investigation evidence"] else []
  proposedStrategy := row.2
  proposedCapability := some capability
  proposedToolCategories := []
  evidenceRequirements := []
  evidenceFilterProvenance := []
  artifactType := artifactType
  referencedTurnSequence := none
  clarificationQuestion := none
  reasoningSummary :=
    "The local planner was unavailable; the explicit current-turn shortcut remains within its " ++
      "existing safety boundary."
  stoppingCondition := "Return the selected capability result without mutation."
  confidence := "low"
  readOnly := true
  mutationAllowed := false

/-- `deterministic_shortcut_plan`: the plan, or the code of the error. -/
def deterministicShortcutPlan (packet : Json) (capability : String) :
    Except String AgenticAnalystPlan :=
  match shortcutRow capability with
  | none => .error "unsupported_shortcut"
  | some row =>
    match shortcutEntity py packet with
    | none => .error "planner_unavailable_reference_unresolved"
    | some entity =>
      let artifactType := shortcutArtifact py packet capability
      if capability = "generate_artifact" && !artifactType.any supportedDraftTypes.contains then
        .error "planner_unavailable_artifact_type_unresolved"
      else .ok (shortcutPlan capability row entity artifactType)

end Shortcuts

end SiemDashboard.AgenticAnalystPlanner
