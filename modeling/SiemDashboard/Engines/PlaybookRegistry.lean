import Mathlib.Data.List.Dedup
import Mathlib.Data.List.Sort
import SiemDashboard.Core.ActionVocabulary
import SiemDashboard.Engines.BranchConditions

/-!
# Playbook registry

`engines/playbook_registry.py`: which actions a playbook step may have, and the validation of a
whole step list.  Validation returns its error texts; an exception it raises (a list or an object
tested for membership in a set) is an error of the surrounding `Except`.
-/

namespace SiemDashboard.PlaybookRegistry

open Python ActionVocabulary ParamBinding BranchConditions

/-- `ADAPTER_ACTIONS.get(action)`: the adapter and its action. -/
def adapterAction? (action : String) : Option (String × String) :=
  [ ("notify_slack", "slack", "send_message"),
    ("notify_teams", "teams", "send_message"),
    ("notify_email", "email", "send_email"),
    ("block_ip", "firewall", "block_ip"),
    ("notify_webhook", "webhook", "post_event") ].lookup action

/-- `KNOWN_PLAYBOOK_ACTIONS`. -/
def knownPlaybookActions : List String := playbookActions

/-- `APPROVAL_RISK_LEVELS`. -/
def approvalRiskLevels : List String := ["medium", "high", "critical"]

/-- `APPROVAL_TERMINAL_BEHAVIORS`. -/
def approvalTerminalBehaviors : List String := ["fail", "branch"]

/-- `MIN_APPROVAL_TTL_MINUTES`. -/
def minApprovalTtlMinutes : Int := 1

/-- `MAX_APPROVAL_TTL_MINUTES`. -/
def maxApprovalTtlMinutes : Int := 10080

section

variable (py : Python)

/-- `_validate_enrich_context_step`. -/
def validateEnrichContextStep (step : Json) (pfx : String) : List String :=
  let params := step.getD "params" (.obj [])
  match params with
  | .null => []
  | .obj _ =>
    match params.get? "limit" with
    | none => []
    | some (.int limit) =>
      if limit < 1 || limit > 25 then
        [s!"{pfx}: enrich_context params.limit must be between 1 and 25"]
      else []
    | some _ => [s!"{pfx}: enrich_context params.limit must be an integer"]
  | _ => [s!"{pfx}: enrich_context params must be an object"]

/-- `_validate_trigger_playbook_step`. -/
def validateTriggerPlaybookStep (step : Json) (pfx : String) (playbookId : Option String) :
    List String :=
  let params := step.get "params"
  if !params.isObj then [s!"{pfx}: trigger_playbook requires params object"]
  else
    match params.get "playbook_id" with
    | .str target =>
      if strip target = "" then [s!"{pfx}: trigger_playbook requires params.playbook_id"]
      else if playbookId = some (strip target) then
        [s!"{pfx}: trigger_playbook cannot reference its own playbook id"]
      else []
    | _ => [s!"{pfx}: trigger_playbook requires params.playbook_id"]

/-- A key that, where present, must hold one of the given strings. -/
def validateChoice (step : Json) (key choicesText : String) (choices : List String)
    (pfx : String) : Except String (List String) := do
  match step.get? key with
  | none => return []
  | some value =>
    if ← inSet value choices then return []
    return [s!"{pfx}: invalid {key} {py.repr value}; must be one of {choicesText}"]

/-- The checks of `expires_in_minutes` and `reason`. -/
def validateApprovalFields (step : Json) (pfx : String) : List String :=
  let ttlErrors :=
    match step.get? "expires_in_minutes" with
    | none => []
    | some (.int ttl) =>
      if ttl < minApprovalTtlMinutes || ttl > maxApprovalTtlMinutes then
        [s!"{pfx}: expires_in_minutes must be between {minApprovalTtlMinutes} and " ++
          s!"{maxApprovalTtlMinutes}"]
      else []
    | some _ => [s!"{pfx}: expires_in_minutes must be an integer"]
  let reasonErrors :=
    match step.get? "reason" with
    | none | some (.str _) => []
    | some _ => [s!"{pfx}: reason must be a string"]
  ttlErrors ++ reasonErrors

/-- The checks of a `require_approval` step. -/
def validateRequireApprovalStep (step : Json) (pfx : String) : Except String (List String) := do
  let riskLevel := step.getD "risk_level" (.str "high")
  let riskErrors :=
    if ← inSet riskLevel approvalRiskLevels then []
    else [s!"{pfx}: invalid risk_level {py.repr riskLevel}; must be one of " ++
      "['critical', 'high', 'medium']"]
  let deniedErrors ←
    validateChoice py step "on_denied" "['branch', 'fail']" approvalTerminalBehaviors pfx
  let expiredErrors ←
    validateChoice py step "on_expired" "['branch', 'fail']" approvalTerminalBehaviors pfx
  return riskErrors ++ validateApprovalFields step pfx ++ deniedErrors ++ expiredErrors

/-- The checks that depend on the action. -/
def validateActionFields (action : String) (step : Json) (stepIndex : Nat)
    (labelMap : String → Option Nat) (playbookId : Option String) :
    Except String (List String) :=
  let pfx := s!"step[{stepIndex}]"
  if action = "branch" then validateBranchStep py step stepIndex labelMap
  else if action = "trigger_playbook" then .ok (validateTriggerPlaybookStep step pfx playbookId)
  else if action = "enrich_context" then .ok (validateEnrichContextStep step pfx)
  else if action = "require_approval" then validateRequireApprovalStep py step pfx
  else .ok []

/-- The body of the loop of `validate_playbook_steps`. -/
def validateStep (labelMap : String → Option Nat) (playbookId : Option String) (stepIndex : Nat)
    (step : Json) : Except String (List String) := do
  let pfx := s!"step[{stepIndex}]"
  if !step.isObj then return [s!"{pfx}: must be a dict"]
  match step.get? "action" with
  | none => return [s!"{pfx}: missing required key 'action'"]
  | some (.str rawAction) =>
    match resolveActionForPlaybook py rawAction with
    | .error error => return [s!"{pfx}: {error.message}"]
    | .ok action =>
      if !knownPlaybookActions.contains action then
        return [s!"{pfx}: unsupported action {py.repr (.str action)}"]
      let actionErrors ← validateActionFields py action step stepIndex labelMap playbookId
      let failureErrors ←
        validateChoice py step "on_failure" "['abort', 'continue']" ["abort", "continue"] pfx
      return validateStepLabel py step pfx ++ actionErrors ++ failureErrors ++
        validateStepParamBindings py step pfx
  | some _ => return [s!"{pfx}: 'action' must be a string"]

/-- The labels that more than one step carries, sorted. -/
def duplicateLabels (steps : List Json) : List String :=
  let labels := steps.filterMap label?
  (labels.dedup.filter fun label => 1 < labels.count label).insertionSort (· ≤ ·)

/-- `validate_playbook_steps`. -/
def validatePlaybookSteps (steps : Json) (playbookId : Option String) :
    Except String (List String) := do
  match steps with
  | .arr steps =>
    let labelErrors := (duplicateLabels steps).map fun label =>
      s!"duplicate label {py.repr (.str label)} appears more than once in steps"
    let stepErrors ← steps.zipIdx.mapM fun (step, index) =>
      validateStep py (buildLabelIndexMap steps) playbookId index step
    return labelErrors ++ stepErrors.flatten
  | _ => return ["steps must be a list"]

end

end SiemDashboard.PlaybookRegistry
