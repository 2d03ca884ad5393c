import SiemDashboard.Core.Statements
import SiemDashboard.Engines.BranchConditions
import SiemDashboard.Engines.PlaybookRegistry

/-!
# Entries of the steps log

The parts of `engines/playbook_step_executor.py` that build `steps_log` entries and read them back.

* **Builders** — failed entries, approval gate entries, skipped entries.
* **Queries** — what the log says about a step, its latest gate, its latest failure.
-/

namespace SiemDashboard.StepExecutor

open Python PlaybookRegistry

/-- `_NOTIFICATION_ACTIONS`. -/
def notificationActions : List String :=
  ["notify_slack", "notify_teams", "notify_email", "notify_webhook"]

/-- `_INTERNAL_PLAYBOOK_ACTIONS`. -/
def internalPlaybookActions : List String :=
  [ "monitor", "flag_high_priority", "require_approval", "branch", "trigger_playbook", "add_note",
    "stop_monitor" ]

/-- `_PROVIDER_FOR_ACTION.get(action)`. -/
def providerForAction? (action : String) : Option String :=
  [ ("notify_slack", "slack"), ("notify_teams", "teams"), ("notify_email", "email"),
    ("notify_webhook", "webhook") ].lookup action

/-- The `label` key a step passes on to its entry. -/
def labelExtra (step : Json) : List (String × Json) :=
  match (step.get "label").nonemptyStr? with
  | some label => [("label", .str label)]
  | none => []

/-- The `simulated` and `executed` keys of an entry or its output. -/
def flags (simulated executed : Bool) : List (String × Json) :=
  [("simulated", .bool simulated), ("executed", .bool executed)]

/-! ## Builders -/

section

variable (py : Python)

/-- The mode `_failure_entry` derives from the action and the code. -/
def failureMode (action : Json) (code : StepErrorCode) : EntryMode :=
  let name := strip (py.str (action.orElse (.str "")))
  if name = "enrich_context" then .readOnly
  else if internalPlaybookActions.contains name || code = .unsupportedAction then .internal
  else if (adapterAction? name).isSome || notificationActions.contains name then .simulation
  else .internal

/-- `_failure_entry`. -/
def failureEntry (stepIndex : Option Nat) (action message : Json) (code : StepErrorCode)
    (now : Int) (output : Option Json) : LogEntry where
  stepIndex := stepIndex
  action := action
  status := .failed
  event := none
  mode := failureMode py action code
  skipped := false
  startedAt := some now
  completedAt := some now
  approvalRequestId := none
  message := message
  output := output.getD (.obj (flags (failureMode py action code == .simulation) false))
  error := some ⟨code, message⟩
  extra := []

end

/-- The output of an approval gate entry. -/
def gateOutput : Json := .obj (flags false true ++ [("approval_gate", .bool true)])

/-- `_approval_requested_entry`. -/
def approvalRequestedEntry (stepIndex : Nat) (request : ApprovalRequest) (step : Json)
    (now : Int) : LogEntry where
  stepIndex := some stepIndex
  action := .str "require_approval"
  status := .awaitingApproval
  event := some .approvalRequested
  mode := .internal
  skipped := false
  startedAt := some now
  completedAt := none
  approvalRequestId := some request.id
  message := (step.get "reason").orElse
    (.str "Approval requested before continuing playbook execution.")
  output := gateOutput
  error := none
  extra := flags false true ++
    [("approval_status", .str request.status.text), ("risk_level", .str request.riskLevel)]

/-- `_approval_decision_entry`. -/
def approvalDecisionEntry (stepIndex : Nat) (request : ApprovalRequest) (status : EntryStatus)
    (event : EntryEvent) (message : String) (now : Int) : LogEntry where
  stepIndex := some stepIndex
  action := .str "require_approval"
  status := status
  event := some event
  mode := .internal
  skipped := false
  startedAt := some now
  completedAt := some now
  approvalRequestId := some request.id
  message := .str message
  output := gateOutput
  error := none
  extra := flags false true ++
    [("approval_status", .str request.status.text), ("risk_level", .str request.riskLevel)]

/-- The `action` of the step at an index, `None` where there is no such step or it is no dict. -/
def actionAt (steps : List Json) (index : Nat) : Json :=
  match steps[index]? with
  | some step => step.get "action"
  | none => .null

/-- The form that `_skipped_branch_step_entries` and `_skipped_later_step_entries` share. -/
def skippedEntry (steps : List Json) (index : Nat) (event : EntryEvent) (message reason : String)
    (extra : List (String × Json)) (now : Int) : LogEntry where
  stepIndex := some index
  action := actionAt steps index
  status := .skipped
  event := some event
  mode := .internal
  skipped := false
  startedAt := none
  completedAt := some now
  approvalRequestId := none
  message := .str message
  output := .obj (flags false false ++ [("skip_reason", .str reason)])
  error := none
  extra := extra ++ flags false false

/-- `_skipped_branch_step_entries`. -/
def skippedBranchStepEntries (steps : List Json) (startIndex endIndex : Nat) (now : Int) :
    List LogEntry :=
  (List.range' startIndex (endIndex - startIndex)).map fun index =>
    skippedEntry steps index .skippedByBranch "Step skipped because branch chose another path."
      "branch_not_taken" [("skip_reason", .str "branch_not_taken")] now

/-- `_skipped_later_step_entries`. -/
def skippedLaterStepEntries (steps : List Json) (startIndex : Nat) (reason : String) (now : Int) :
    List LogEntry :=
  (List.range' startIndex (steps.length - startIndex)).map fun index =>
    skippedEntry steps index .skippedAfterApprovalGate
      s!"Step skipped because {reason} stopped the playbook." reason [] now

/-! ## Queries -/

/-- `_step_already_skipped_in_log`. -/
def stepAlreadySkippedInLog (stepsLog : List LogEntry) (stepIndex : Nat) : Bool :=
  stepsLog.any fun entry => entry.stepIndex = some stepIndex && entry.status = .skipped

/-- `_step_already_succeeded_in_log`. -/
def stepAlreadySucceededInLog (stepsLog : List LogEntry) (stepIndex : Nat) : Bool :=
  stepsLog.any fun entry => entry.stepIndex = some stepIndex && entry.status = .success

/-- An entry that records the request of an approval gate, with the gate's index. -/
def gateIndex? (entry : LogEntry) : Option Nat :=
  if entry.action.isOneOf ["require_approval"] && entry.event = some .approvalRequested then
    entry.stepIndex
  else none

/-- `_latest_gate_entry(…)["step_index"]`: the index of the gate requested last. -/
def latestGate (stepsLog : List LogEntry) : Option Nat :=
  stepsLog.reverse.findSome? gateIndex?

/-- `_has_gate_event`. -/
def hasGateEvent (stepsLog : List LogEntry) (stepIndex approvalRequestId : Nat)
    (event : EntryEvent) : Bool :=
  stepsLog.any fun entry =>
    entry.stepIndex = some stepIndex && entry.approvalRequestId = some approvalRequestId &&
      entry.event = some event

/-- `_latest_failed_step_entry`. -/
def latestFailedStepEntry (stepsLog : List LogEntry) : Option LogEntry :=
  stepsLog.reverse.find? fun entry => entry.status = .failed

/-- `text.strip()[:64]` of a non-blank text. -/
def failureClassText (text : String) : Option String :=
  if strip text = "" then none else some (String.ofList ((strip text).toList.take 64))

/-- `_dead_letter_failure_class`. -/
def deadLetterFailureClass (entry : LogEntry) : String :=
  let adapterResult := (entry.output.dictOrEmpty.get "adapter_result").dictOrEmpty
  let metadata := (adapterResult.get "metadata").dictOrEmpty
  let classified := (metadata.get "failure_classification").str?.bind failureClassText
  let coded := entry.error.bind fun error => failureClassText error.code.text
  (classified.or coded).getD "unknown"

end SiemDashboard.StepExecutor
