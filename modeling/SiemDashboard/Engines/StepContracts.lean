import SiemDashboard.Core.StatementEffects
import SiemDashboard.Engines.StepSimulation
import SiemDashboard.Lib.Checks

/-!
# What executing one step can do

Every function that executes a step issues only neutral statements and returns an entry of a known
shape.

* **Shape** — `StructuralFault`, `StepEntry`.
* **Outcome events** — the `append…_issues` lemmas.
* **Steps** — one `…_issues` lemma for each function of `StepSimulation`, up to
  `simulateStep_issues`.
-/

namespace SiemDashboard

/-- The codes that blame the step list rather than the step's run. -/
def StepErrorCode.isStructural : StepErrorCode → Bool
  | unsupportedAction | missingAction | invalidStep | invalidBranch | branchTargetNotFound => true
  | _ => false

namespace StepExecutor

open Atomic Python PlaybookRegistry ParamBinding BranchConditions PlaybookStore

/-! ## Shape -/

/-- What is wrong with a step when its entry carries a structural code. -/
inductive StructuralFault (steps : List Json) (index : Nat) (step : Json) : StepErrorCode → Prop
  | noObject (h : step.isObj = false) : StructuralFault steps index step .invalidStep
  | noAction (h : (step.get "action").nonemptyStr? = none) :
      StructuralFault steps index step .missingAction
  | unknownAction {action} (h : step.get "action" = .str action)
      (hunknown : action ∉ knownPlaybookActions) :
      StructuralFault steps index step .unsupportedAction
  | noCondition (h : step.get "action" = .str "branch")
      (hcondition : (step.get "condition").isObj = false) :
      StructuralFault steps index step .invalidBranch
  | noGotoTrue (h : step.get "action" = .str "branch")
      (hgoto : (step.get "goto_true").nonemptyStr? = none) :
      StructuralFault steps index step .branchTargetNotFound
  | badGotoFalse {gotoFalse} (h : step.get "action" = .str "branch")
      (hhas : step.get? "goto_false" = some gotoFalse) (hgoto : gotoFalse.nonemptyStr? = none) :
      StructuralFault steps index step .branchTargetNotFound
  | lostLabel {key label} (h : step.get "action" = .str "branch")
      (hkey : key = "goto_true" ∨ key = "goto_false")
      (hlabel : (step.get key).nonemptyStr? = some label)
      (hlost : resolveLabelTargetIndex steps label index = none) :
      StructuralFault steps index step .branchTargetNotFound

/-- The entry of one executed step. -/
structure StepEntry (steps : List Json) (index : Nat) (step : Json) (entry : LogEntry) : Prop where
  index_eq : entry.stepIndex = some index
  status_cases : entry.status = .success ∨ entry.status = .failed
  event_ne : entry.event ≠ some .approvalRequested
  action_known : entry.status = .success → ∃ action, step.get "action" = .str action ∧
    action ∈ knownPlaybookActions ∧ action ≠ "require_approval"
  code_fault : ∀ error, entry.error = some error → error.code.isStructural = true →
    StructuralFault steps index step error.code

section

variable {steps : List Json} {index : Nat} {step : Json} {entry : LogEntry}

/-- A failed entry whose code is a fault of the step, or not structural. -/
theorem stepEntry_failed (hindex : entry.stepIndex = some index) (hstatus : entry.status = .failed)
    (hevent : entry.event ≠ some .approvalRequested)
    (hcode : ∀ error, entry.error = some error → error.code.isStructural = true →
      StructuralFault steps index step error.code) : StepEntry steps index step entry where
  index_eq := hindex
  status_cases := .inr hstatus
  event_ne := hevent
  action_known h := by
    rw [hstatus] at h
    cases h
  code_fault := hcode

/-- A successful entry of a step with a known action. -/
theorem stepEntry_success {action : String} (hindex : entry.stepIndex = some index)
    (hstatus : entry.status = .success) (hevent : entry.event ≠ some .approvalRequested)
    (haction : step.get "action" = .str action) (hknown : action ∈ knownPlaybookActions)
    (hgate : action ≠ "require_approval") (herror : entry.error = none) :
    StepEntry steps index step entry where
  index_eq := hindex
  status_cases := .inl hstatus
  event_ne := hevent
  action_known _ := ⟨action, haction, hknown, hgate⟩
  code_fault error h := by
    rw [herror] at h
    cases h

theorem failureEntry_stepEntry {py : Python} {action message : Json} {code : StepErrorCode}
    {now : Int} {output : Option Json}
    (hcode : code.isStructural = true → StructuralFault steps index step code) :
    StepEntry steps index step (failureEntry py (some index) action message code now output) := by
  refine stepEntry_failed rfl rfl nofun ?_
  rintro error ⟨⟩
  exact hcode

end

/-! ## Outcome events -/

theorem appendPlaybookExecutionOutcomeEvent_issues {execution : Execution} {args : EventArgs}
    (hkey : ∀ label id, args.idempotencyKey ≠ .terminal label id) :
    (appendPlaybookExecutionOutcomeEvent execution args).Issues Neutral (fun _ => True) := by
  unfold appendPlaybookExecutionOutcomeEvent
  split
  · exact Program.issues_call (.appendOutcome hkey) fun _ => trivial
  · exact Program.issues_pure trivial

theorem appendNotificationDeliveryOutcomeEvent_issues (py : Python) (execution : Execution)
    (attempt : Json) :
    (appendNotificationDeliveryOutcomeEvent py execution attempt).Issues Neutral
      (fun _ => True) :=
  appendPlaybookExecutionOutcomeEvent_issues nofun

theorem appendNonAdapterPlaybookStepOutcomeEvent_issues (py : Python) (execution : Execution)
    (entry : LogEntry) :
    (appendNonAdapterPlaybookStepOutcomeEvent py execution entry).Issues Neutral
      (fun _ => True) := by
  unfold appendNonAdapterPlaybookStepOutcomeEvent
  split
  · exact Program.issues_pure trivial
  · split
    · exact appendPlaybookExecutionOutcomeEvent_issues nofun
    · exact appendPlaybookExecutionOutcomeEvent_issues nofun
    · exact Program.issues_pure trivial

/-! ## Parameters -/

theorem resolveParam_code {alert : Option Alert} {execution : Execution} {value : Json}
    {error : BindingError} (h : resolveParam alert execution value = .error error) :
    error.code.isStructural = false := by
  unfold resolveParam at h
  repeat' split at h
  all_goals first | cases h; rfl | cases h

theorem resolveParams_code {alert : Option Alert} {execution : Execution} {params : Json}
    {error : BindingError} (h : resolveParams alert execution params = .error error) :
    error.code.isStructural = false := by
  unfold resolveParams at h
  generalize hparams : (params.fields.mapM _ : Except BindingError _) = resolved at h
  cases resolved with
  | ok resolved =>
    cases h
  | error e =>
    cases h
    refine Checks.mapM_error (P := fun e => e.code.isStructural = false) ?_ hparams
    rintro ⟨key, value⟩ e he
    cases hvalue : resolveParam alert execution value with
    | ok v => simp [hvalue] at he
    | error e' =>
      simp only [hvalue] at he
      cases he
      exact resolveParam_code hvalue

theorem resolveStepParams_issues (execution : Execution) (params : Json) :
    (resolveStepParams execution params).Issues Neutral
      (fun r => ∀ error, r = .error error → error.code.isStructural = false) := by
  unfold resolveStepParams
  split
  · exact Program.issues_pure nofun
  · split
    · split
      · exact Program.issues_pure fun error h => by cases h; rfl
      · refine Program.issues_call_bind (.call _) fun alert => ?_
        cases alert with
        | none => exact Program.issues_pure fun error h => by cases h; rfl
        | some alert => exact Program.issues_pure fun error h => resolveParams_code h
    · exact Program.issues_pure fun error h => resolveParams_code h

/-! ## Notification and adapter steps -/

section Steps

variable {py : Python} {steps : List Json} {step : Json} {index : Nat} {now : Int}
  {execution : Execution}

/-- What the functions that execute a step return: an exception, or the step's entry. -/
abbrev EntryOk (steps : List Json) (index : Nat) (step : Json) (r : Except String LogEntry) :
    Prop :=
  ∀ entry, r = .ok entry → StepEntry steps index step entry

theorem entryOk_error {message : String} : EntryOk steps index step (.error message) := by
  rintro _ ⟨⟩

theorem entryOk_ok {entry : LogEntry} (h : StepEntry steps index step entry) :
    EntryOk steps index step (.ok entry) := by
  rintro _ ⟨⟩
  exact h

/-- The entry of a step whose parameters could not be resolved. -/
theorem unresolved_stepEntry {action : Json} {error : BindingError}
    (hcode : error.code.isStructural = false) :
    StepEntry steps index step
      (failureEntry py (some index) action (.str error.message) error.code now none) :=
  failureEntry_stepEntry fun h => by simp [hcode] at h

theorem adapterAction?_known {action : String} {adapter : String × String}
    (h : adapterAction? action = some adapter) :
    action ∈ knownPlaybookActions ∧ action ≠ "require_approval" := by
  unfold adapterAction? at h
  have hmem : action ∈ ["notify_slack", "notify_teams", "notify_email", "block_ip",
      "notify_webhook"] := by
    by_contra hnot
    simp only [List.mem_cons, List.not_mem_nil, or_false, not_or] at hnot
    obtain ⟨h1, h2, h3, h4, h5⟩ := hnot
    simp [List.lookup_cons, beq_false_of_ne h1, beq_false_of_ne h2, beq_false_of_ne h3,
      beq_false_of_ne h4, beq_false_of_ne h5] at h
  simp only [List.mem_cons, List.not_mem_nil, or_false] at hmem
  rcases hmem with rfl | rfl | rfl | rfl | rfl <;> decide

theorem alreadyDelivered_stepEntry {action : String} {delivery : Json}
    (haction : step.get "action" = .str action) (hknown : action ∈ knownPlaybookActions)
    (hgate : action ≠ "require_approval") :
    StepEntry steps index step (alreadyDeliveredEntry py step action index delivery now) :=
  stepEntry_success rfl rfl nofun haction hknown hgate rfl

theorem notificationPolicyEntry_stepEntry {params circuit result : Json}
    (haction : step.get "action" = .str "notify_slack") :
    StepEntry steps index step
      (notificationPolicyEntry py step index now params circuit result) := by
  have hknown : "notify_slack" ∈ knownPlaybookActions := by decide
  unfold notificationPolicyEntry
  simp only
  split
  · refine stepEntry_success rfl rfl ?_ haction hknown (by decide) rfl
    simp only [suppressedNotificationEntry, successEntry]
    split <;> simp
  · unfold deliveredNotificationEntry
    simp only
    split
    · exact stepEntry_success rfl rfl nofun haction hknown (by decide) rfl
    · refine stepEntry_failed rfl rfl nofun ?_
      rintro error ⟨⟩ h
      simp only at h
      repeat' split at h
      all_goals cases h

theorem simulateNotificationPolicySlackStep_issues
    (haction : step.get "action" = .str "notify_slack") :
    (simulateNotificationPolicySlackStep py step index now execution).Issues Neutral
      (EntryOk steps index step) := by
  have hknown : "notify_slack" ∈ knownPlaybookActions := by decide
  unfold simulateNotificationPolicySlackStep
  refine Program.issues_call_bind (.call _) fun delivery => ?_
  cases delivery with
  | some delivery =>
    exact Program.issues_pure
      (entryOk_ok (alreadyDelivered_stepEntry haction hknown (by decide)))
  | none =>
    refine Program.issues_bind (resolveStepParams_issues ..) fun params hparams => ?_
    cases params with
    | error error =>
      exact Program.issues_pure (entryOk_ok (unresolved_stepEntry (hparams _ rfl)))
    | ok params =>
      refine Program.issues_call_bind (.call _) fun result => ?_
      cases result with
      | error message => exact Program.issues_pure entryOk_error
      | ok result =>
        have hentry : (issue (.call (.circuitBreaker "slack")) >>= fun circuit =>
            pure (.ok (notificationPolicyEntry py step index now params circuit result))).Issues
              Neutral (EntryOk steps index step) :=
          Program.issues_call_bind (.call _) fun circuit =>
            Program.issues_pure (entryOk_ok (notificationPolicyEntry_stepEntry haction))
        simp only
        split
        · exact hentry
        · exact Program.issues_bind (appendNotificationDeliveryOutcomeEvent_issues ..)
            fun _ _ => hentry

theorem recordPlaybookBlockTracking_issues (params : Json) :
    (recordPlaybookBlockTracking py index execution params).Issues Neutral (fun _ => True) := by
  unfold recordPlaybookBlockTracking
  simp only
  split
  · exact Program.issues_pure trivial
  · refine Program.issues_call_bind (.call _) fun valid => ?_
    cases valid with
    | error message => exact Program.issues_pure trivial
    | ok _ =>
      refine Program.issues_call_bind (.call _) fun result => ?_
      cases result <;> exact Program.issues_pure trivial

theorem withBlockTracking_stepEntry {entry : LogEntry} {tracking : BlockTracking}
    (h : StepEntry steps index step entry) :
    StepEntry steps index step (withBlockTracking entry tracking) := by
  unfold withBlockTracking
  simp only
  split
  · refine stepEntry_failed h.index_eq rfl h.event_ne ?_
    rintro error ⟨⟩ hcode
    cases hcode
  · exact ⟨h.index_eq, h.status_cases, h.event_ne, h.action_known, h.code_fault⟩

theorem adapterErrorCode_not_structural (classification : String) :
    (adapterErrorCode classification).isStructural = false := by
  unfold adapterErrorCode
  repeat' split
  all_goals rfl

theorem adapterEntry_stepEntry {action : String} {params circuit adapterResult : Json}
    (haction : step.get "action" = .str action) (hknown : action ∈ knownPlaybookActions)
    (hgate : action ≠ "require_approval") :
    StepEntry steps index step
      (adapterEntry py step action index now params circuit adapterResult) := by
  unfold adapterEntry
  simp only
  split
  · exact stepEntry_success rfl rfl nofun haction hknown hgate rfl
  · have hevent : (none : Option EntryEvent) ≠ some .approvalRequested := nofun
    refine stepEntry_failed rfl rfl hevent ?_
    intro error herror hcode
    simp only [Option.some.injEq] at herror
    subst herror
    simp [adapterErrorCode_not_structural] at hcode

theorem runAdapter_issues {action : String} {adapter : String × String} {params : Json}
    (haction : step.get "action" = .str action) (hknown : action ∈ knownPlaybookActions)
    (hgate : action ≠ "require_approval") :
    (runAdapter py step action adapter index now execution params).Issues Neutral
      (EntryOk steps index step) := by
  unfold runAdapter
  refine Program.issues_call_bind (.call _) fun result => ?_
  cases result with
  | error message =>
    exact Program.issues_call_bind (.call _) fun circuit =>
      Program.issues_pure (entryOk_ok (failureEntry_stepEntry nofun))
  | ok adapterResult =>
    refine Program.issues_call_bind (.call _) fun circuit => ?_
    have hentry : StepEntry steps index step
        (adapterEntry py step action index now params circuit adapterResult) :=
      adapterEntry_stepEntry haction hknown hgate
    simp only
    split
    · refine Program.issues_bind (recordPlaybookBlockTracking_issues params) fun tracking _ => ?_
      cases tracking with
      | error message => exact Program.issues_pure entryOk_error
      | ok tracking => exact Program.issues_pure (entryOk_ok (withBlockTracking_stepEntry hentry))
    · exact Program.issues_pure (entryOk_ok hentry)

theorem runAdapterStep_issues {action : String} {adapter : String × String}
    (haction : step.get "action" = .str action) (hknown : action ∈ knownPlaybookActions)
    (hgate : action ≠ "require_approval") :
    (runAdapterStep py step action adapter index now execution).Issues Neutral
      (EntryOk steps index step) := by
  unfold runAdapterStep
  refine Program.issues_bind (resolveStepParams_issues ..) fun params hparams => ?_
  cases params with
  | error error => exact Program.issues_pure (entryOk_ok (unresolved_stepEntry (hparams _ rfl)))
  | ok params =>
    simp only
    split
    · refine Program.issues_call_bind (.call _) fun refusal => ?_
      cases refusal with
      | some refusal => exact Program.issues_pure (entryOk_ok (failureEntry_stepEntry nofun))
      | none => exact runAdapter_issues haction hknown hgate
    · exact runAdapter_issues haction hknown hgate

theorem simulateAdapterStep_issues {action : String} {adapter : String × String}
    (haction : step.get "action" = .str action) (hknown : action ∈ knownPlaybookActions)
    (hgate : action ≠ "require_approval") :
    (simulateAdapterStep py step action adapter index now execution).Issues Neutral
      (EntryOk steps index step) := by
  unfold simulateAdapterStep
  split
  · refine Program.issues_call_bind (.call _) fun delivery => ?_
    cases delivery with
    | some delivery =>
      exact Program.issues_pure (entryOk_ok (alreadyDelivered_stepEntry haction hknown hgate))
    | none => exact runAdapterStep_issues haction hknown hgate
  · exact runAdapterStep_issues haction hknown hgate

theorem recordNotificationDeliveryAttempt_issues (action : String) (entry : LogEntry) :
    (recordNotificationDeliveryAttempt py execution action index entry).Issues Neutral
      (fun _ => True) := by
  unfold recordNotificationDeliveryAttempt
  split
  · refine Program.issues_call_bind (.call _) fun attempt => ?_
    cases attempt with
    | none => exact Program.issues_pure trivial
    | some attempt =>
      exact Program.issues_bind (appendNotificationDeliveryOutcomeEvent_issues ..) fun _ _ =>
        Program.issues_pure trivial
  · exact Program.issues_pure trivial

/-! ## Response steps -/

theorem executeCanonicalResponseStep_issues {action : String}
    (haction : step.get "action" = .str action) (hknown : action ∈ knownPlaybookActions)
    (hgate : action ≠ "require_approval") :
    (executeCanonicalResponseStep py step index now execution action).Issues Neutral
      (EntryOk steps index step) := by
  unfold executeCanonicalResponseStep
  refine Program.issues_bind (resolveStepParams_issues ..) fun params hparams => ?_
  cases params with
  | error error => exact Program.issues_pure (entryOk_ok (unresolved_stepEntry (hparams _ rfl)))
  | ok params =>
    refine Program.issues_call_bind (.call _) fun result => ?_
    cases result with
    | error message => exact Program.issues_pure entryOk_error
    | ok result =>
      simp only
      split
      · exact Program.issues_pure
          (entryOk_ok (stepEntry_success rfl rfl nofun haction hknown hgate rfl))
      · refine Program.issues_pure (entryOk_ok (failureEntry_stepEntry ?_))
        cases result.errorCode <;> exact nofun

/-! ## Control steps -/

theorem compareNumeric_code {actual op expected : Json} {code : StepErrorCode} {message : String}
    (h : compareNumeric py actual op expected = .error (.error code message)) :
    code.isStructural = false := by
  unfold compareNumeric at h
  repeat' split at h
  all_goals first | cases h; rfl | cases h

theorem compareEquality_code {actual : String} {op expected : Json} {code : StepErrorCode}
    {message : String} (h : compareEquality py actual op expected = .error (.error code message)) :
    code.isStructural = false := by
  unfold compareEquality at h
  repeat' split at h
  all_goals first | cases h; rfl | cases h

theorem compareValues_code {actual op expected : Json} {field : String} {code : StepErrorCode}
    {message : String}
    (h : compareValues py actual op expected field = .error (.error code message)) :
    code.isStructural = false := by
  unfold compareValues at h
  split at h
  · unfold compareSeverity at h
    split at h
    · exact compareNumeric_code h
    · cases h
      rfl
  · split at h
    · exact compareNumeric_code h
    · exact compareEquality_code h

/-- A fault of evaluating a branch condition never blames the branch's structure. -/
abbrev FaultOk {α : Type} (r : Except BranchFault α) : Prop :=
  ∀ code message, r = .error (.error code message) → code.isStructural = false

theorem faultOk_error {α : Type} {code : StepErrorCode} {message : String}
    (h : code.isStructural = false) : FaultOk (.error (.error code message) : Except _ α) := by
  rintro _ _ ⟨⟩
  exact h

theorem resolveAlertField_issues (field : Json) :
    (resolveAlertField py execution field).Issues Neutral FaultOk := by
  unfold resolveAlertField
  split
  · exact Program.issues_pure (faultOk_error rfl)
  · refine Program.issues_call_bind (.call _) fun alert => ?_
    cases alert with
    | none => exact Program.issues_pure (faultOk_error rfl)
    | some alert =>
      simp only
      split
      · exact Program.issues_pure (by rintro _ _ ⟨⟩)
      · split
        · exact Program.issues_pure (faultOk_error rfl)
        · exact Program.issues_pure (by rintro _ _ ⟨⟩)

theorem compareStatus_code {actual : Option String} {op expected : Json} {missing : String} :
    FaultOk (compareStatus py actual op expected missing) := by
  unfold compareStatus
  split
  · exact faultOk_error rfl
  · exact fun _ _ h => compareEquality_code h

theorem evaluateBranchCondition_issues (condition : Json) (stepsLog : List LogEntry) :
    (evaluateBranchCondition py condition execution stepsLog).Issues Neutral FaultOk := by
  unfold evaluateBranchCondition
  split
  · split
    · refine Program.issues_bind (resolveAlertField_issues _) fun actual hactual => ?_
      cases actual with
      | error fault =>
        refine Program.issues_pure ?_
        rintro code message ⟨⟩
        exact hactual code message rfl
      | ok actual => exact Program.issues_pure fun _ _ h => compareValues_code h
    · split
      · exact Program.issues_pure compareStatus_code
      · exact Program.issues_pure compareStatus_code
  · exact Program.issues_pure (by rintro _ _ ⟨⟩)

/-- What executing a branch step gives. -/
structure BranchOk (steps : List Json) (index : Nat) (step : Json) (now : Int)
    (branch : BranchResult) : Prop where
  entry : StepEntry steps index step branch.entry
  forward : index < branch.nextIndex
  skips : branch.skipEntries = skippedBranchStepEntries steps (index + 1) branch.nextIndex now
  failed_next : branch.entry.status ≠ .success → branch.nextIndex = index + 1

theorem failedBranch_ok {message : String} {code : StepErrorCode}
    (hcode : code.isStructural = true → StructuralFault steps index step code) :
    BranchOk steps index step now (failedBranch py index message code now) where
  entry := failureEntry_stepEntry hcode
  forward := Nat.lt_succ_self index
  skips := by simp [failedBranch, skippedBranchStepEntries]
  failed_next _ := rfl

theorem takenBranch_ok {condition : Json} {result : Bool} {label : Option String} {target : Nat}
    (haction : step.get "action" = .str "branch") (htarget : index < target) :
    BranchOk steps index step now
      (takenBranch step index steps condition result label target now) where
  entry := stepEntry_success rfl rfl nofun haction (by decide) (by decide) rfl
  forward := htarget
  skips := rfl
  failed_next h := absurd rfl h

theorem resolveLabelTargetIndex_gt {label : String} {target : Nat}
    (h : resolveLabelTargetIndex steps label index = some target) : index < target := by
  unfold resolveLabelTargetIndex at h
  split at h
  · cases h
  · split at h
    · cases h
    · injection h with h
      omega

theorem gotoLabelled_ok {condition : Json} {result : Bool} {key label : String}
    (haction : step.get "action" = .str "branch") (hkey : key = "goto_true" ∨ key = "goto_false")
    (hlabel : (step.get key).nonemptyStr? = some label) :
    BranchOk steps index step now
      (gotoLabelled py step index steps condition result label now) := by
  unfold gotoLabelled
  split
  · next hlost => exact failedBranch_ok fun _ => .lostLabel haction hkey hlabel hlost
  · next target htarget => exact takenBranch_ok haction (resolveLabelTargetIndex_gt htarget)

theorem gotoBranchTarget_ok {condition : Json} {result : Bool}
    (haction : step.get "action" = .str "branch") :
    BranchOk steps index step now
      (gotoBranchTarget py step index steps condition result now) := by
  unfold gotoBranchTarget
  split
  · split
    · next hgoto => exact failedBranch_ok fun _ => .noGotoTrue haction hgoto
    · next label hlabel => exact gotoLabelled_ok haction (.inl rfl) hlabel
  · split
    · exact takenBranch_ok haction (Nat.lt_succ_self index)
    · next gotoFalse hhas =>
      split
      · next hgoto => exact failedBranch_ok fun _ => .badGotoFalse haction hhas hgoto
      · next label hlabel =>
        refine gotoLabelled_ok haction (.inr rfl) ?_
        simpa [Json.get, Json.getD, hhas] using hlabel

theorem executeBranchStep_issues {stepsLog : List LogEntry}
    (haction : step.get "action" = .str "branch") :
    (executeBranchStep py step index steps stepsLog execution now).Issues Neutral
      (fun r => ∀ branch, r = .ok branch → BranchOk steps index step now branch) := by
  unfold executeBranchStep
  simp only
  split
  · next hcondition =>
    refine Program.issues_pure ?_
    rintro _ ⟨⟩
    exact failedBranch_ok fun _ => .noCondition haction (by simpa using hcondition)
  · refine Program.issues_bind (evaluateBranchCondition_issues ..) fun result hresult => ?_
    rcases result with (⟨code, message⟩ | message) | result
    · refine Program.issues_pure ?_
      rintro _ ⟨⟩
      exact failedBranch_ok fun h => by simp [hresult code message rfl] at h
    · exact Program.issues_pure (by rintro _ ⟨⟩)
    · refine Program.issues_pure ?_
      rintro _ ⟨⟩
      exact gotoBranchTarget_ok haction

theorem ancestorsFrom_issues (maxHops : Nat) (current : Option Execution) :
    (ancestorsFrom maxHops current).Issues Neutral (fun _ => True) := by
  induction maxHops generalizing current with
  | zero => exact Program.issues_pure trivial
  | succ maxHops ih =>
    cases current with
    | none => exact Program.issues_pure trivial
    | some current =>
      unfold ancestorsFrom
      split
      · exact Program.issues_pure trivial
      · refine Program.issues_call_bind (.getExecution _) fun parent => ?_
        cases parent with
        | none => exact Program.issues_pure trivial
        | some parent => exact Program.issues_bind (ih _) fun _ _ => Program.issues_pure trivial

theorem targetInExecutionAncestry_issues (target : String) :
    (targetInExecutionAncestry execution target).Issues Neutral (fun _ => True) := by
  unfold targetInExecutionAncestry
  split
  · exact Program.issues_pure trivial
  · have hchain : (getPlaybookExecutionAncestorChain execution.id maxChainDepth).Issues Neutral
        (fun _ => True) :=
      Program.issues_call_bind (.getExecution _) fun current => ancestorsFrom_issues _ _
    exact Program.issues_bind hchain fun _ _ => Program.issues_pure trivial

theorem createAndLinkPlaybookExecutionDecision_issues {id : Nat} {playbookId eventType : String}
    {key : OutcomeKey} (hkey : ∀ label id, key ≠ .terminal label id) :
    (createAndLinkPlaybookExecutionDecision id playbookId eventType key).Issues Neutral
      (fun _ => True) := by
  unfold createAndLinkPlaybookExecutionDecision
  refine Program.issues_call_bind (.linkDecision _) fun decision => ?_
  cases decision with
  | none => exact Program.issues_pure trivial
  | some decision =>
    exact Program.issues_call_bind (.appendOutcome hkey) fun _ => Program.issues_pure trivial

theorem failedTrigger_stepEntry {message : String} {code : StepErrorCode}
    (hcode : code.isStructural = false) :
    StepEntry steps index step (failedTrigger py index message code now) :=
  failureEntry_stepEntry fun h => by simp [hcode] at h

theorem triggerChild_issues {target : String} {alertId : Nat}
    (haction : step.get "action" = .str "trigger_playbook") :
    (triggerChild index execution target alertId now).Issues Neutral
      (EntryOk steps index step) := by
  have hentry (child : Option Nat) (depth : Nat) (duplicate : Bool) :
      StepEntry steps index step (triggeredEntry index target child depth duplicate now) :=
    stepEntry_success rfl rfl nofun haction (by decide) (by decide) rfl
  unfold triggerChild
  refine Program.issues_call_bind (.createPendingOnce _) fun created => ?_
  rcases created with error | _ | child
  · exact Program.issues_pure entryOk_error
  · exact Program.issues_call_bind (.activeForPair ..) fun existing =>
      Program.issues_pure (entryOk_ok (hentry ..))
  · exact Program.issues_bind (createAndLinkPlaybookExecutionDecision_issues nofun) fun _ _ =>
      Program.issues_pure (entryOk_ok (hentry ..))

theorem triggerTarget_issues {target : String}
    (haction : step.get "action" = .str "trigger_playbook") :
    (triggerTarget py index execution target now).Issues Neutral (EntryOk steps index step) := by
  have hfailed {message : String} {code : StepErrorCode} (hcode : code.isStructural = false) :
      EntryOk steps index step (.ok (failedTrigger py index message code now)) :=
    entryOk_ok (failedTrigger_stepEntry hcode)
  unfold triggerTarget
  refine Program.issues_call_bind (.getDefinition _) fun definition => ?_
  cases definition with
  | none => exact Program.issues_pure (hfailed rfl)
  | some definition =>
    simp only
    split
    · exact Program.issues_pure (hfailed rfl)
    · split
      · exact Program.issues_pure (hfailed rfl)
      · refine Program.issues_bind (targetInExecutionAncestry_issues target) fun cycle _ => ?_
        split
        · exact Program.issues_pure (hfailed rfl)
        · split
          · exact Program.issues_pure (hfailed rfl)
          · exact triggerChild_issues haction

theorem executeTriggerPlaybookStep_issues
    (haction : step.get "action" = .str "trigger_playbook") :
    (executeTriggerPlaybookStep py step index execution now).Issues Neutral
      (EntryOk steps index step) := by
  unfold executeTriggerPlaybookStep
  simp only
  split
  · exact Program.issues_pure (entryOk_ok (failedTrigger_stepEntry rfl))
  · split
    · split
      · exact Program.issues_pure (entryOk_ok (failedTrigger_stepEntry rfl))
      · exact triggerTarget_issues haction
    · exact Program.issues_pure (entryOk_ok (failedTrigger_stepEntry rfl))

theorem executeEnrichContextStep_issues (haction : step.get "action" = .str "enrich_context") :
    (executeEnrichContextStep py step index execution now).Issues Neutral
      (StepEntry steps index step) := by
  unfold executeEnrichContextStep
  simp only
  split
  · exact Program.issues_pure (failureEntry_stepEntry nofun)
  · refine Program.issues_call_bind (.call _) fun context => ?_
    cases context with
    | error message => exact Program.issues_pure (failureEntry_stepEntry nofun)
    | ok context =>
      exact Program.issues_pure
        (stepEntry_success rfl rfl nofun haction (by decide) (by decide) rfl)

/-! ## Dispatch -/

theorem simulateStep_issues (hgate : step.get "action" ≠ .str "require_approval") :
    (simulateStep py step index now execution).Issues Neutral (EntryOk steps index step) := by
  unfold simulateStep
  split
  · next hobj =>
    exact Program.issues_pure
      (entryOk_ok (failureEntry_stepEntry fun _ => .noObject (by simpa using hobj)))
  · split
    · next hnone =>
      exact Program.issues_pure (entryOk_ok (failureEntry_stepEntry fun _ => .noAction hnone))
    · next action hsome =>
      obtain ⟨haction, -⟩ := Json.nonemptyStr?_eq_some.mp hsome
      have hne : action ≠ "require_approval" := by
        rintro rfl
        exact hgate haction
      split
      · next hslack =>
        subst hslack
        exact simulateNotificationPolicySlackStep_issues haction
      · split
        · next adapter hadapter =>
          exact simulateAdapterStep_issues haction (adapterAction?_known hadapter).1 hne
        · split
          · next hunknown =>
            exact Program.issues_pure (entryOk_ok (failureEntry_stepEntry fun _ =>
              .unknownAction haction (by simpa using hunknown)))
          · next hknown =>
            have hknown : action ∈ knownPlaybookActions := by simpa using hknown
            split
            · exact executeCanonicalResponseStep_issues haction hknown hne
            · exact Program.issues_pure
                (entryOk_ok (stepEntry_success rfl rfl nofun haction hknown hne rfl))

end Steps

end StepExecutor

end SiemDashboard
