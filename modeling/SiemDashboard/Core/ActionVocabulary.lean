import SiemDashboard.Lib.Python

/-!
# Canonical action vocabulary

`core/canonical_action_vocabulary.py`: the canonical action names, their aliases, and how a name
written in a playbook is resolved to one of them.
-/

namespace SiemDashboard.ActionVocabulary

open Python

/-- `CanonicalActionSpec`, as far as resolving a playbook action reads it. -/
structure CanonicalActionSpec where
  name : String
  aliases : List String
  deprecated : Bool
  validationHint : String
deriving DecidableEq, Repr

/-- `_CANONICAL_SPECS`. -/
def canonicalSpecs : List CanonicalActionSpec :=
  [ ⟨"block_ip", [], false,
      "Provide a public source_ip; protected/private targets are rejected."⟩,
    ⟨"monitor", [], false, "Provide source_ip and/or alert_id."⟩,
    ⟨"flag_high_priority", ["escalate"], false,
      "Provide alert_id (preferred) or source_ip for escalation context."⟩,
    ⟨"stop_monitor", [], false, "Provide source_ip for the monitored indicator."⟩,
    ⟨"remove_tracking", ["unblock"], false,
      "Provide source_ip or an active blocked_ip context."⟩,
    ⟨"add_note", [], false, "Provide source_ip and a non-empty reason/note."⟩,
    ⟨"enrich_context", [], false,
      "Use only as a playbook step; do not enqueue to response_actions_queue."⟩,
    ⟨"notify_slack", [], false, ""⟩,
    ⟨"notify_teams", [], false, ""⟩,
    ⟨"notify_email", [], false, ""⟩,
    ⟨"notify_webhook", [], false, ""⟩,
    ⟨"require_approval", [], false, ""⟩,
    ⟨"branch", [], false, ""⟩,
    ⟨"trigger_playbook", [], false, ""⟩,
    ⟨"notify", [], true,
      "Replace bare 'notify' with notify_slack, notify_email, notify_webhook, or notify_teams."⟩ ]

/-- `CANONICAL_ACTIONS.get(name)`. -/
def canonicalAction? (name : String) : Option CanonicalActionSpec :=
  canonicalSpecs.find? fun spec => spec.name == name

/-- `ACTION_ALIASES.get(alias)`. -/
def actionAlias? (name : String) : Option String :=
  (canonicalSpecs.find? fun spec => spec.aliases.contains name).map (·.name)

/-- `PLAYBOOK_ACTIONS`. -/
def playbookActions : List String :=
  [ "monitor", "flag_high_priority", "require_approval", "branch", "trigger_playbook",
    "enrich_context", "notify_slack", "notify_teams", "notify_email", "notify_webhook",
    "block_ip" ]

/-- The codes of `CanonicalActionValidationError`. -/
inductive ActionErrorCode where
  | missingAction
  | unsupportedAction
  | ambiguousNotify
deriving DecidableEq, Repr

/-- `CanonicalActionValidationError`. -/
structure ActionError where
  message : String
  code : ActionErrorCode
deriving DecidableEq, Repr

def ActionErrorCode.text : ActionErrorCode → String
  | .missingAction => "missing_action"
  | .unsupportedAction => "unsupported_action"
  | .ambiguousNotify => "ambiguous_notify"

/-- What `validate_action_for_response_queue` raises, with a code that resolving a playbook action
    does not have. -/
structure QueueActionError where
  message : String
  code : String
deriving DecidableEq, Repr

/-- `RESPONSE_QUEUE_ACTIONS`. -/
def responseQueueActions : List String := ["block_ip", "monitor", "flag_high_priority"]

/-- Whether the specification of an action has any `supported_modes`: all but the bare `notify` do. -/
def hasSupportedModes (name : String) : Bool := name ≠ "notify"

/-- `normalize_action_name`. -/
def normalizeActionName (action : String) : Except ActionError String :=
  let raw := strip action
  if raw = "" then .error ⟨"Action is required", .missingAction⟩
  else .ok ((actionAlias? raw).getD raw)

section

variable (py : Python)

/-- `get_action_spec`. -/
def getActionSpec (action : String) : Except ActionError CanonicalActionSpec := do
  let name ← normalizeActionName action
  match canonicalAction? name with
  | none => .error ⟨s!"Unsupported action {py.repr (.str name)}", .unsupportedAction⟩
  | some spec => .ok spec

/-- `resolve_action_for_playbook`. -/
def resolveActionForPlaybook (action : String) : Except ActionError String := do
  let spec ← getActionSpec py action
  if spec.name = "notify" || spec.deprecated && spec.name = "notify" then
    .error ⟨"Ambiguous action 'notify' is not allowed. Use notify_slack, notify_email, " ++
      "notify_webhook, or notify_teams.", .ambiguousNotify⟩
  else if !playbookActions.contains spec.name then
    .error ⟨strip (s!"Action {py.repr (.str spec.name)} is not a supported playbook action. " ++
      spec.validationHint), .unsupportedAction⟩
  else .ok spec.name

/-- `validate_action_for_response_queue`. -/
def validateActionForResponseQueue (action : String) : Except QueueActionError String :=
  match getActionSpec py action with
  | .error e => .error ⟨e.message, e.code.text⟩
  | .ok spec =>
    if spec.name = "notify" || spec.deprecated && !hasSupportedModes spec.name then
      .error ⟨"Ambiguous action 'notify' cannot be enqueued. Use notify_slack, notify_email, " ++
        "notify_webhook, or notify_teams before enqueueing.", "ambiguous_notify"⟩
    else if spec.name = "enrich_context" then
      .error ⟨"Action 'enrich_context' is owned by the playbook read-only executor and cannot be " ++
        "enqueued to the legacy response-action queue.", "misrouted_enrich_context"⟩
    else if !responseQueueActions.contains spec.name then
      .error ⟨strip (s!"Action {py.repr (.str spec.name)} cannot be enqueued to the " ++
        "response-action queue. " ++ spec.validationHint), "unsupported_action"⟩
    else .ok spec.name

variable {py}

/-- The name a playbook action resolves to is the stripped text or what it is an alias of. -/
theorem resolveActionForPlaybook_eq_ok {action name : String}
    (h : resolveActionForPlaybook py action = .ok name) :
    name = (actionAlias? (strip action)).getD (strip action) ∧ name ∈ playbookActions := by
  unfold resolveActionForPlaybook getActionSpec normalizeActionName at h
  by_cases hraw : strip action = ""
  · simp [hraw, bind, Except.bind] at h
  · simp only [hraw, if_false, bind, Except.bind] at h
    cases hspec : canonicalAction? ((actionAlias? (strip action)).getD (strip action)) with
    | none => simp [hspec] at h
    | some spec =>
      have hname : spec.name = (actionAlias? (strip action)).getD (strip action) := by
        have := List.find?_some hspec
        simpa using this
      simp only [hspec] at h
      split at h
      · cases h
      · split at h
        · cases h
        · next hmem =>
          injection h with h
          subst h
          exact ⟨hname, by simpa using hmem⟩

end

end SiemDashboard.ActionVocabulary
