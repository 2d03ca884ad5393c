import SiemDashboard.Engines.ParamBinding

/-!
# Branch conditions

`engines/playbook_branch_conditions.py`: labels and their indexes, the validation of branch steps,
and the comparison of a condition's actual and expected values.
-/

namespace SiemDashboard.BranchConditions

open Python ParamBinding

/-- `EQUALITY_OPS`. -/
def equalityOps : List String := ["==", "!="]

/-- `ORDINAL_OPS`. -/
def ordinalOps : List String := [">=", ">", "<=", "<"]

/-- `NUMERIC_ALERT_FIELDS`. -/
def numericAlertFields : List String := ["id", "reputation_score", "latitude", "longitude"]

/-- `BRANCH_CONDITION_SOURCES`. -/
def branchConditionSources : List String := ["alert", "previous_step", "approval"]

/-- `PREVIOUS_STEP_STATUS_VALUES`. -/
def previousStepStatusValues : List String := ["success", "failed", "skipped"]

/-- `APPROVAL_STATUS_VALUES`. -/
def approvalStatusValues : List String := ["approved", "denied", "expired"]

/-- `SEVERITY_RANK.get(severity)`. -/
def severityRank? (severity : String) : Option Int :=
  [("low", 1), ("medium", 2), ("high", 3), ("critical", 4)].lookup severity

/-! ## Labels -/

/-- The non-empty string label of a step. -/
def label? (step : Json) : Option String := (step.get "label").nonemptyStr?

/-- `build_label_index_map`: where two steps carry one label, the later index stays. -/
def buildLabelIndexMap (steps : List Json) (label : String) : Option Nat :=
  (steps.zipIdx.reverse.find? fun (step, _) => label? step = some label).map (·.2)

/-- `resolve_label_target_index`. -/
def resolveLabelTargetIndex (steps : List Json) (label : String) (branchIndex : Nat) :
    Option Nat :=
  match buildLabelIndexMap steps label with
  | none => none
  | some target => if target ≤ branchIndex then none else some target

/-! ## Validation -/

section

variable (py : Python)

/-- `validate_step_label`. -/
def validateStepLabel (step : Json) (pfx : String) : List String :=
  match step.get "label" with
  | .null => []
  | .str label =>
    if label = "" then [s!"{pfx}: label must be a non-empty string"]
    else if isLabelWord label.toList then []
    else [s!"{pfx}: invalid label {py.repr (.str label)}; expected form matching ^[a-z][a-z0-9_]*$"]
  | _ => [s!"{pfx}: label must be a non-empty string"]

/-- `_allowed_ops_for_alert_field`. -/
def allowedOpsForAlertField (field : String) : List String :=
  if field = "severity" || numericAlertFields.contains field then equalityOps ++ ordinalOps
  else equalityOps

/-- `_validate_condition_value_type`. -/
def validateConditionValueType (field : String) (value : Json) (pfx : String) : List String :=
  if numericAlertFields.contains field then
    match value with
    | .int _ | .float _ => []
    | _ => [s!"{pfx}: condition.value must be a number for field {py.repr (.str field)}"]
  else
    match value with
    | .str _ => []
    | _ => [s!"{pfx}: condition.value must be a string for field {py.repr (.str field)}"]

/-- The part of `validate_branch_condition` that the sources `previous_step` and `approval` share:
    field `status`, an equality operator, a value of the source's own set. -/
def validateStatusCondition (source valueText : String) (values : List String) (field op : String)
    (value : Json) (pfx : String) : Except String (List String) := do
  if field ≠ "status" then return [s!"{pfx}: {source} conditions must use field 'status'"]
  if !equalityOps.contains op then return [s!"{pfx}: {source} conditions support only == and !="]
  if ← inSet value values then return []
  return [s!"{pfx}: {source} condition value must be one of {valueText}"]

/-- `validate_branch_condition`. -/
def validateBranchCondition (condition : Json) (pfx : String) : Except String (List String) := do
  if !condition.isObj then return [s!"{pfx}: condition must be an object"]
  let source := condition.get "source"
  let field := condition.get "field"
  let op := condition.get "op"
  let value := condition.get "value"
  if !(← inSet source branchConditionSources) then
    return [s!"{pfx}: invalid condition.source {py.repr source}; must be one of " ++
      "['alert', 'approval', 'previous_step']"]
  match field.nonemptyStr? with
  | none => return [s!"{pfx}: condition.field must be a non-empty string"]
  | some field =>
    match op.str? with
    | none => return [s!"{pfx}: invalid condition.op {py.repr op}"]
    | some op =>
      if !(equalityOps ++ ordinalOps).contains op then
        return [s!"{pfx}: invalid condition.op {py.repr (.str op)}"]
      if source.isOneOf ["alert"] then
        if !alertBindingFields.contains field then
          return [s!"{pfx}: unsupported alert condition field {py.repr (.str field)}"]
        if !(allowedOpsForAlertField field).contains op then
          return [s!"{pfx}: operator {py.repr (.str op)} is not valid for alert field " ++
            s!"{py.repr (.str field)}"]
        return validateConditionValueType py field value pfx
      if source.isOneOf ["previous_step"] then
        validateStatusCondition "previous_step" "['failed', 'skipped', 'success']"
          previousStepStatusValues field op value pfx
      else
        validateStatusCondition "approval" "['approved', 'denied', 'expired']"
          approvalStatusValues field op value pfx

/-- `_validate_branch_target`. -/
def validateBranchTarget (labelMap : String → Option Nat) (label : String) (branchIndex : Nat)
    (pfx : String) : List String :=
  match labelMap label with
  | none => [s!"{pfx}: unknown label {py.repr (.str label)}"]
  | some target =>
    if target ≤ branchIndex then
      [s!"{pfx}: label {py.repr (.str label)} resolves to step[{target}], which is not forward of " ++
        s!"branch step[{branchIndex}]"]
    else []

/-- `validate_branch_step`. -/
def validateBranchStep (step : Json) (stepIndex : Nat) (labelMap : String → Option Nat) :
    Except String (List String) := do
  let pfx := s!"step[{stepIndex}]"
  let condition := step.get "condition"
  let conditionErrors ←
    if condition.isObj then validateBranchCondition py condition s!"{pfx}.condition"
    else pure [s!"{pfx}: branch step requires condition object"]
  let trueErrors :=
    match (step.get "goto_true").nonemptyStr? with
    | none => [s!"{pfx}: branch step requires non-empty goto_true"]
    | some label => validateBranchTarget py labelMap label stepIndex s!"{pfx}.goto_true"
  let falseErrors :=
    match step.get "goto_false" with
    | .null => []
    | gotoFalse =>
      match gotoFalse.nonemptyStr? with
      | none => [s!"{pfx}: goto_false must be a non-empty string when set"]
      | some label => validateBranchTarget py labelMap label stepIndex s!"{pfx}.goto_false"
  return conditionErrors ++ trueErrors ++ falseErrors

end

/-! ## Evaluation -/

/-- How evaluating a condition can go wrong: `PlaybookBranchConditionError`, which the executor
    turns into a failed entry, or any other exception, which it does not catch. -/
inductive BranchFault where
  | error (code : StepErrorCode) (message : String)
  | raised (message : String)

/-- The column value a condition compares: `_resolve_alert_field` turns decimals into numbers and
    leaves timestamps, which `str` then renders. -/
def branchValue : AlertValue → Json
  | .json v => v
  | .timestamp _ text => .str text
  | .decimal (some n) _ => .int n
  | .decimal none float => .float float

section

variable (py : Python)

/-- `_compare_numeric`. -/
def compareNumeric (actual op expected : Json) : Except BranchFault Bool :=
  match py.compare actual expected with
  | .error message => .error (.raised message)
  | .ok order =>
    if op.isOneOf ["=="] then .ok (order == some .eq)
    else if op.isOneOf ["!="] then .ok (order != some .eq)
    else if op.isOneOf [">="] then .ok (order == some .gt || order == some .eq)
    else if op.isOneOf [">"] then .ok (order == some .gt)
    else if op.isOneOf ["<="] then .ok (order == some .lt || order == some .eq)
    else if op.isOneOf ["<"] then .ok (order == some .lt)
    else .error (.error .branchConditionInvalid
      s!"Unsupported numeric comparison operator: {py.repr op}")

/-- `_compare_severity`. -/
def compareSeverity (actual : String) (op : Json) (expected : String) :
    Except BranchFault Bool :=
  match severityRank? (lower (strip actual)), severityRank? (lower (strip expected)) with
  | some actualRank, some expectedRank => compareNumeric py (.int actualRank) op (.int expectedRank)
  | _, _ => .error (.error .branchConditionInvalid
      (s!"Unsupported severity value in branch comparison: {py.repr (.str actual)} vs " ++
        s!"{py.repr (.str expected)}"))

/-- `_compare_equality`. -/
def compareEquality (actual : String) (op expected : Json) : Except BranchFault Bool :=
  if op.isOneOf ["=="] then .ok (actual == py.str expected)
  else if op.isOneOf ["!="] then .ok (actual != py.str expected)
  else .error (.error .branchConditionInvalid
    s!"Unsupported equality comparison operator: {py.repr op}")

/-- `_compare_values`. -/
def compareValues (actual op expected : Json) (field : String) : Except BranchFault Bool :=
  if field = "severity" then compareSeverity py (py.str actual) op (py.str expected)
  else if numericAlertFields.contains field then compareNumeric py actual op expected
  else compareEquality py (py.str actual) op (.str (py.str expected))

end

/-- `_latest_previous_step_status`. -/
def latestPreviousStepStatus (stepsLog : List LogEntry) : Option String :=
  (stepsLog.reverse.find? fun entry =>
    previousStepStatusValues.contains entry.status.text && entry.stepIndex.isSome).map
      fun entry => entry.status.text

/-- `_latest_approval_decision_status`. -/
def latestApprovalDecisionStatus (stepsLog : List LogEntry) : Option String :=
  stepsLog.reverse.findSome? fun entry =>
    if entry.action.isOneOf ["require_approval"] then
      match entry.event with
      | some .approvalApproved => some "approved"
      | some .approvalDenied => some "denied"
      | some .approvalExpired => some "expired"
      | _ => none
    else none

end SiemDashboard.BranchConditions
