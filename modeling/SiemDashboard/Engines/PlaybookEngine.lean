import Mathlib.Algebra.Order.Ring.Rat
import SiemDashboard.Lib.Python

/-!
# Playbook trigger matching

`engines/playbook_engine.py`: which enabled playbook definitions match an alert.

* **Alert** — `AlertSnapshot`, `TriggerReader`.
* **Keys** — `exclusionHolds`, `evaluateKey`.
* **Trigger** — `evaluateTrigger`.
* **Matching** — `Definition`, `matchPlaybooks`.
-/

namespace SiemDashboard.PlaybookEngine

open Python

/-! ## Alert -/

/-- The columns of an alert that triggers read. -/
structure AlertSnapshot where
  alertType : Option String
  severity : Option String
  source : Option String
  reputationScore : Option Int

/-- A float that a minimum is read as. -/
inductive Minimum where
  | finite (value : ℚ)
  | infinite (negative : Bool)
  | nan

/-- The only thing that the evaluation of a trigger raises: an integer is too large for a float. -/
inductive TriggerRaised where
  | overflow
deriving DecidableEq, Repr

/-- What the interpreter makes of the values of a trigger. -/
structure TriggerReader where
  py : Python
  /-- `str.lower`. -/
  lower : String → String
  /-- `float` of an integer, which overflows where the integer is too large. -/
  floatOfInt : Int → Option ℚ
  /-- `float` of a text, which fails where the text is no number. -/
  floatOfText : String → Option Minimum
  /-- A float by its `repr`. -/
  floatOfRepr : String → Minimum

/-- `CORRELATED_ALERT_TYPES`. -/
def correlatedAlertTypes : List String :=
  ["correlated_activity", "web_to_app_attack_pattern", "spray_then_success_pattern",
    "cloud_app_error_pattern", "azure_auth_abuse_exception_correlation"]

/-- `SEVERITY_RANK`. -/
def severityRank : List (String × Nat) := [("low", 1), ("medium", 2), ("high", 3), ("critical", 4)]

/-- `_KNOWN_TRIGGER_KEYS`. -/
def knownTriggerKeys : List String :=
  ["alert_type", "exclude_alert_types", "min_severity", "source", "correlation_flag",
    "reputation_score_min"]

section Evaluation

variable (reader : TriggerReader) (alert : AlertSnapshot)

/-! ## Keys -/

/-- The loop over the excluded alert types: their normalized texts, unless one of them is no text or a
    blank one. -/
def normalizedExclusions : List Json → Option (List String)
  | [] => some []
  | .str item :: items =>
    if strip item = "" then none
    else (normalizedExclusions items).map (reader.lower (strip item) :: ·)
  | _ :: _ => none

/-- The part of `_evaluate_trigger` about `exclude_alert_types`; `null` when the key is absent. -/
def exclusionHolds : Json → Bool
  | .null => true
  | .arr items =>
    match alert.alertType with
    | none => true
    | some alertType =>
      match normalizedExclusions reader items with
      | none => false
      | some exclusions => !exclusions.contains (reader.lower alertType)
  | _ => false

/-- `float(value)`: `none` for the `TypeError` or `ValueError` of a value that is no number. -/
def floatOf : Json → Except TriggerRaised (Option Minimum)
  | .bool b => .ok (some (.finite (if b then 1 else 0)))
  | .int n =>
    match reader.floatOfInt n with
    | some value => .ok (some (.finite value))
    | none => .error .overflow
  | .float text => .ok (some (reader.floatOfRepr text))
  | .str text => .ok (reader.floatOfText text)
  | .null | .arr _ | .obj _ => .ok none

/-- `effective < minimum`. -/
def belowMinimum (effective : ℚ) : Minimum → Bool
  | .finite value => decide (effective < value)
  | .infinite negative => !negative
  | .nan => false

/-- The branch of the loop for `alert_type`. -/
def alertTypeHolds (value : Json) : Bool :=
  value.isNull ||
    match alert.alertType with
    | none => false
    | some alertType => reader.lower alertType == reader.lower (reader.py.str value)

/-- The branch for `min_severity`. -/
def minSeverityHolds (value : Json) : Bool :=
  !value.isNull &&
    match severityRank.lookup (reader.lower (reader.py.str value)), alert.severity with
    | some want, some severity =>
      match severityRank.lookup (reader.lower severity) with
      | some found => decide (want ≤ found)
      | none => false
    | _, _ => false

/-- The branch for `source`. -/
def sourceHolds (value : Json) : Bool :=
  let want := if value.isNull then "" else reader.lower (reader.py.str value)
  let found := (alert.source.map reader.lower).getD ""
  found == want

/-- The branch for `correlation_flag`. -/
def correlationFlagHolds : Json → Bool
  | .bool flag =>
    match alert.alertType with
    | none => false
    | some alertType => correlatedAlertTypes.contains alertType == flag
  | _ => true

/-- The branch for `reputation_score_min`. -/
def reputationScoreMinHolds (value : Json) : Except TriggerRaised Bool :=
  (floatOf reader value).map fun minimum =>
    match minimum with
    | none => false
    | some minimum =>
      let effective : ℚ := alert.reputationScore.getD 0
      !belowMinimum effective minimum

/-- The body of the loop over the keys: whether it goes on. -/
def evaluateKey (key : String) (value : Json) : Except TriggerRaised Bool :=
  if key = "alert_type" then .ok (alertTypeHolds reader alert value)
  else if key = "min_severity" then .ok (minSeverityHolds reader alert value)
  else if key = "source" then .ok (sourceHolds reader alert value)
  else if key = "correlation_flag" then .ok (correlationFlagHolds alert value)
  else if key = "reputation_score_min" then reputationScoreMinHolds reader alert value
  else .ok true

/-! ## Trigger -/

/-- The loop over the keys, which ends at the first one that does not hold. -/
def evaluateKeys : List (String × Json) → Except TriggerRaised Bool
  | [] => .ok true
  | (key, value) :: kvs =>
    match evaluateKey reader alert key value with
    | .ok true => evaluateKeys kvs
    | stopped => stopped

/-- `_evaluate_trigger`. -/
def evaluateTrigger : Json → Except TriggerRaised Bool
  | .obj kvs =>
    if exclusionHolds reader alert ((Json.obj kvs).get "exclude_alert_types") then
      evaluateKeys reader alert kvs
    else .ok false
  | _ => .ok false

@[simp] theorem evaluateKeys_nil : evaluateKeys reader alert [] = .ok true := rfl

theorem evaluateKeys_cons_of_ok {key : String} {value : Json} {kvs : List (String × Json)}
    (hok : evaluateKey reader alert key value = .ok true) :
    evaluateKeys reader alert ((key, value) :: kvs) = evaluateKeys reader alert kvs := by
  rw [evaluateKeys, hok]

theorem evaluateKeys_cons_of_ne {key : String} {value : Json} {kvs : List (String × Json)}
    (hstop : evaluateKey reader alert key value ≠ .ok true) :
    evaluateKeys reader alert ((key, value) :: kvs) = evaluateKey reader alert key value := by
  rw [evaluateKeys]
  split
  · next hok => exact absurd hok hstop
  · rfl

theorem evaluateTrigger_obj (kvs : List (String × Json)) :
    evaluateTrigger reader alert (.obj kvs) =
      if exclusionHolds reader alert ((Json.obj kvs).get "exclude_alert_types") then
        evaluateKeys reader alert kvs
      else .ok false := rfl

/-! ## Matching -/

/-- An enabled playbook definition; no key occurs twice in a dict. -/
structure Definition where
  id : String
  triggerConfig : Json
  keys_nodup : (triggerConfig.fields.map Prod.fst).Nodup

/-- The trigger of a definition: what is no dict is an empty one. -/
def Definition.trigger (definition : Definition) : Json :=
  (definition.triggerConfig.orElse (.obj [])).dictOrEmpty

/-- The loop over the definitions. -/
def matchDefinitions : List Definition → Except TriggerRaised (List Definition)
  | [] => .ok []
  | definition :: definitions =>
    match evaluateTrigger reader alert definition.trigger with
    | .error raised => .error raised
    | .ok matched =>
      (matchDefinitions definitions).map fun rest =>
        if matched then definition :: rest else rest

end Evaluation

/-- `match_playbooks` for the alert that is found and the enabled definitions: whatever is raised, the
    result is empty. -/
def matchPlaybooks (reader : TriggerReader) (alert : Option AlertSnapshot)
    (definitions : List Definition) : List Definition :=
  match alert with
  | none => []
  | some alert =>
    match matchDefinitions reader alert definitions with
    | .ok matched => matched
    | .error _ => []

end SiemDashboard.PlaybookEngine
