import SiemDashboard.Core.PlaybookRecords

/-!
# Dynamic step parameter binding

`engines/playbook_param_binding.py`: whole-value `{{alert.<field>}}` and `{{execution.<field>}}`
expressions, their validation, and their resolution against an alert and an execution.
-/

namespace SiemDashboard.ParamBinding

open Python

/-- What a binding expression refers to. -/
inductive BindingNamespace where
  | alert
  | execution
deriving DecidableEq, Repr

def BindingNamespace.text : BindingNamespace → String
  | alert => "alert"
  | execution => "execution"

/-- `ALERT_BINDING_FIELDS`. -/
def alertBindingFields : List String :=
  [ "id", "alert_type", "severity", "source_ip", "source", "source_type", "message", "status",
    "country", "city", "latitude", "longitude", "reputation_score", "reputation_label",
    "reputation_source", "reputation_summary", "response_action", "response_status",
    "created_at" ]

/-- `EXECUTION_BINDING_FIELDS`. -/
def executionBindingFields : List String := ["id", "playbook_id", "alert_id"]

/-- `ALLOWED_BINDING_FIELDS`. -/
def allowedBindingFields : BindingNamespace → List String
  | .alert => alertBindingFields
  | .execution => executionBindingFields

/-! ## Syntax -/

/-- `[a-z]` -/
def isLabelHead (c : Char) : Bool := 'a' ≤ c && c ≤ 'z'

/-- `[a-z0-9_]` -/
def isLabelTail (c : Char) : Bool := isLabelHead c || ('0' ≤ c && c ≤ '9') || c == '_'

/-- `[a-z][a-z0-9_]*` -/
def isLabelWord : List Char → Bool
  | [] => false
  | c :: cs => isLabelHead c && cs.all isLabelTail

/-- The text without a trailing newline, which `$` tolerates. -/
def dropFinalNewline (cs : List Char) : List Char :=
  if cs.getLast? = some '\n' then cs.dropLast else cs

/-- The field of an expression of one namespace. -/
def bindingField? (ns : BindingNamespace) (cs : List Char) : Option String := do
  let rest ← cs.dropPrefix? ("\x7b\x7b" ++ ns.text ++ ".").toList
  let word ← rest.dropSuffix? "\x7d\x7d".toList
  if isLabelWord word then some (String.ofList word) else none

/-- `parse_binding_expression`. -/
def parseBindingExpression (value : Json) : Option (BindingNamespace × String) :=
  match value with
  | .str s =>
    let cs := dropFinalNewline s.toList
    match bindingField? .alert cs with
    | some field => some (.alert, field)
    | none => (bindingField? .execution cs).map fun field => (.execution, field)
  | _ => none

/-- `"{{" in value` -/
def mentionsBinding : List Char → Bool
  | '{' :: '{' :: _ => true
  | _ :: cs => mentionsBinding cs
  | [] => false

section

variable (py : Python)

/-- `validate_param_binding_value`. -/
def validateParamBindingValue (value : Json) (pfx : String) : List String :=
  match value with
  | .str s =>
    if mentionsBinding s.toList then
      match parseBindingExpression value with
      | none =>
        [s!"{pfx}: invalid binding expression {py.repr value}; expected whole-value form " ++
          "\x7b\x7balert.<field>\x7d\x7d or \x7b\x7bexecution.<field>\x7d\x7d"]
      | some (ns, field) =>
        if (allowedBindingFields ns).contains field then []
        else [s!"{pfx}: unsupported {ns.text} binding field {py.repr (.str field)}"]
    else []
  | _ => []

/-- `validate_step_param_bindings`. -/
def validateStepParamBindings (step : Json) (pfx : String) : List String :=
  (step.get "params").fields.flatMap fun (key, value) =>
    validateParamBindingValue py value s!"{pfx}.params.{key}"

end

/-! ## Resolution -/

/-- A column of an alert row.  Timestamps and decimals are no JSON values; each is known by the
    texts and numbers the code turns it into. -/
inductive AlertValue where
  | json (v : Json)
  | timestamp (isoformat text : String)
  | decimal (integral : Option Int) (float : String)

/-- An alert row as `_fetch_alert` returns it. -/
abbrev Alert := List (String × AlertValue)

/-- `alert.get(field)`, with `None` for a missing or null column. -/
def Alert.get? (alert : Alert) (field : String) : Option AlertValue :=
  match alert.lookup field with
  | some (.json .null) => none
  | v => v

/-- `PlaybookParamBindingError`. -/
structure BindingError where
  code : StepErrorCode
  message : String

/-- `_coerce_binding_value`. -/
def coerceBindingValue : AlertValue → Json
  | .json v => v
  | .timestamp isoformat _ => .str isoformat
  | .decimal (some n) _ => .int n
  | .decimal none float => .float float

/-- `_execution_binding_value`. -/
def executionBindingValue (execution : Execution) (field : String) : Option Json :=
  if field = "id" then some (.int execution.id)
  else if field = "playbook_id" then some (.str execution.playbookId)
  else if field = "alert_id" then execution.alertId.map fun id => .int id
  else none

/-- The first loop of `resolve_step_params`: does some parameter bind an alert field? -/
def needsAlert (params : Json) : Bool :=
  params.fields.any fun (_, value) => (parseBindingExpression value).any fun b => b.1 = .alert

/-- One parameter of the second loop of `resolve_step_params`. -/
def resolveParam (alert : Option Alert) (execution : Execution) (value : Json) :
    Except BindingError Json :=
  match parseBindingExpression value with
  | none => .ok value
  | some (ns, field) =>
    let missing : BindingError :=
      ⟨.bindingFieldMissing, s!"Binding field {ns.text}.{field} is missing or null."⟩
    match ns with
    | .alert =>
      match alert with
      | none => .error ⟨.bindingAlertContextMissing,
          "Dynamic alert binding requires an alert_id on the execution."⟩
      | some alert =>
        match alert.get? field with
        | none => .error missing
        | some raw => .ok (coerceBindingValue raw)
    | .execution =>
      match executionBindingValue execution field with
      | none => .error missing
      | some raw => .ok raw

/-- The second loop of `resolve_step_params`. -/
def resolveParams (alert : Option Alert) (execution : Execution) (params : Json) :
    Except BindingError Json := do
  let resolved ← params.fields.mapM fun (key, value) => do
    return (key, ← resolveParam alert execution value)
  return .obj resolved

end SiemDashboard.ParamBinding
