import SiemDashboard.Engines.AcceptedSteps

/-!
# Validation of any step list

Which step lists `validate_playbook_steps` returns for, and what the lists look like that it finds
no error in.  Some fields are looked up in a set before their type is checked, and the lookup of a
list or of an object raises.

* **Lookups** — `CheckableCondition`, `CheckableStep`, `Checkable`: the values that are looked up can
  be; `validateStep_isOk`.
* **Shapes** — `ConditionShape`, `ApprovalShape`, `StepShape`, `Documented`; `stepShape_of_valid`.
* **Result** — `validation_total`, and a list for which validation raises.
-/

namespace SiemDashboard.ValidationTotal

open Python ActionVocabulary ParamBinding BranchConditions PlaybookRegistry StepExecutor

variable {py : Python} {playbookId : Option String}

/-! ## Lookups -/

/-- Where the key is present, its value can be looked up in a set. -/
def hashableAt (step : Json) (key : String) : Bool := (step.get? key).all Json.hashable

/-- The condition compares the status of an earlier step or of an approval. -/
def comparesStatus (condition : Json) : Bool :=
  (condition.get "source").isOneOf ["previous_step", "approval"] &&
    (condition.get "field").isOneOf ["status"] && (condition.get "op").isOneOf equalityOps

/-- The values of a condition that are looked up can be. -/
structure CheckableCondition (condition : Json) : Prop where
  source : (condition.get "source").hashable = true
  value : comparesStatus condition = true → (condition.get "value").hashable = true

/-- The values of a step that are looked up can be: those of the keys that its action has. -/
structure CheckableStep (step : Json) (action : String) : Prop where
  onFailure : hashableAt step "on_failure" = true
  approval : action = "require_approval" →
    ∀ key ∈ ["risk_level", "on_denied", "on_expired"], hashableAt step key = true
  branch : action = "branch" → (step.get "condition").isObj = true →
    CheckableCondition (step.get "condition")

/-- Every step with a playbook action can be checked. -/
def Checkable (py : Python) (steps : Json) : Prop :=
  ∀ list, steps = .arr list → ∀ step ∈ list, ∀ raw action,
    step.get? "action" = some (.str raw) → resolveActionForPlaybook py raw = .ok action →
      CheckableStep step action

@[simp] theorem inSet_isOk {v : Json} {names : List String} :
    (inSet v names).isOk = v.hashable := by
  unfold inSet
  split
  · next h => simp [h]
  · next h => simp [h]

/-- A lookup whose result only chooses between texts. -/
theorem lookup_isOk {ε : Type} {v : Json} {names : List String} {f : Bool → Except String ε}
    (h : ∀ b, (f b).isOk = true) : (inSet v names >>= f).isOk = v.hashable := by
  rw [Checks.isOk_bind_and fun b _ => h b, inSet_isOk, Bool.and_true]

theorem validateChoice_isOk {step : Json} {key choicesText : String} {choices : List String}
    {pfx : String} :
    (validateChoice py step key choicesText choices pfx).isOk = hashableAt step key := by
  unfold validateChoice hashableAt
  cases step.get? key with
  | none => rfl
  | some value =>
    refine lookup_isOk fun found => ?_
    cases found <;> rfl

theorem validateRequireApprovalStep_isOk {step : Json} {pfx : String} :
    (validateRequireApprovalStep py step pfx).isOk =
      (hashableAt step "risk_level" && (hashableAt step "on_denied" &&
        hashableAt step "on_expired")) := by
  have hrisk : (step.getD "risk_level" (.str "high")).hashable = hashableAt step "risk_level" := by
    unfold Json.getD hashableAt
    cases step.get? "risk_level" <;> rfl
  unfold validateRequireApprovalStep
  rw [Checks.isOk_bind_and, inSet_isOk, hrisk]
  intro found _
  rw [Checks.isOk_bind_and, validateChoice_isOk]
  intro deniedErrors _
  rw [Checks.isOk_bind_and, validateChoice_isOk, Bool.and_true]
  exact fun _ _ => rfl

theorem validateStatusCondition_isOk {source valueText field op pfx : String}
    {values : List String} {value : Json} :
    (validateStatusCondition source valueText values field op value pfx).isOk = true ↔
      (field = "status" → equalityOps.contains op = true → value.hashable = true) := by
  unfold validateStatusCondition
  by_cases hfield : field = "status"
  · rw [if_neg (not_not.mpr hfield)]
    cases hop : equalityOps.contains op with
    | true =>
      simp only [Bool.not_true, Bool.false_eq_true, if_false, hfield, forall_const]
      rw [lookup_isOk]
      intro found
      cases found <;> rfl
    | false => simp
  · simp [hfield]

theorem isOneOf_eq_true {v : Json} {names : List String} :
    v.isOneOf names = true ↔ ∃ name ∈ names, v = .str name := by
  cases v with
  | str s => simp [Json.isOneOf]
  | _ => simp [Json.isOneOf]

/-- A condition on the status of something else than an alert. -/
theorem statusCondition_isOk {source valueText pfx : String} {values : List String}
    {condition : Json} {field op : String} (hsource : condition.get "source" = .str source)
    (hstatus : source ∈ ["previous_step", "approval"]) (hfield : condition.get "field" = .str field)
    (hop : condition.get "op" = .str op) :
    (validateStatusCondition source valueText values field op (condition.get "value") pfx).isOk =
        true ↔
      (comparesStatus condition = true → (condition.get "value").hashable = true) := by
  have hcompares : comparesStatus condition = true ↔
      field = "status" ∧ equalityOps.contains op = true := by
    have hone : (Json.str source).isOneOf ["previous_step", "approval"] = true :=
      isOneOf_eq_true.mpr ⟨source, hstatus, rfl⟩
    rw [comparesStatus, hsource, hfield, hop, hone]
    simp [Json.isOneOf]
  rw [validateStatusCondition_isOk, hcompares, and_imp]

/-- What a comparison of a status says about the condition. -/
theorem comparesStatus_eq_true {condition : Json} (h : comparesStatus condition = true) :
    (∃ source ∈ ["previous_step", "approval"], condition.get "source" = .str source) ∧
      condition.get "field" = .str "status" ∧
      ∃ op ∈ equalityOps, condition.get "op" = .str op := by
  unfold comparesStatus at h
  rw [Bool.and_eq_true, Bool.and_eq_true] at h
  obtain ⟨field, hfield, hget⟩ := isOneOf_eq_true.mp h.1.2
  obtain rfl := List.mem_singleton.mp hfield
  exact ⟨isOneOf_eq_true.mp h.1.1, hget, isOneOf_eq_true.mp h.2⟩

theorem validateBranchCondition_isOk {condition : Json} {pfx : String}
    (hobj : condition.isObj = true) :
    (validateBranchCondition py condition pfx).isOk = true ↔ CheckableCondition condition := by
  have hparts : CheckableCondition condition ↔ (condition.get "source").hashable = true ∧
      (comparesStatus condition = true → (condition.get "value").hashable = true) :=
    ⟨fun h => ⟨h.source, h.value⟩, fun h => ⟨h.1, h.2⟩⟩
  unfold validateBranchCondition
  simp only [hobj, Bool.not_true, Bool.false_eq_true, if_false]
  rw [hparts, Checks.isOk_bind]
  simp only [inSet_eq_ok, and_assoc, exists_eq_left', exists_and_left]
  refine and_congr_right fun _ => ?_
  -- a condition that fails an earlier check is not looked at further
  cases hknown : (condition.get "source").isOneOf branchConditionSources with
  | false =>
    refine iff_of_true rfl fun hcompares => ?_
    obtain ⟨⟨source, hsource, hget⟩, -⟩ := comparesStatus_eq_true hcompares
    refine absurd (isOneOf_eq_true.mpr ⟨source, ?_, hget⟩) (by rw [hknown]; decide)
    exact List.mem_cons_of_mem _ hsource
  | true =>
    obtain ⟨source, hsource, hget⟩ := isOneOf_eq_true.mp hknown
    simp only [Bool.not_true, Bool.false_eq_true, if_false]
    cases hfield : (condition.get "field").nonemptyStr? with
    | none =>
      refine iff_of_true rfl fun hcompares => ?_
      rw [(comparesStatus_eq_true hcompares).2.1] at hfield
      cases hfield
    | some field =>
      cases hop : (condition.get "op").str? with
      | none =>
        refine iff_of_true rfl fun hcompares => ?_
        obtain ⟨op, -, hget⟩ := (comparesStatus_eq_true hcompares).2.2
        rw [hget] at hop
        cases hop
      | some op =>
        dsimp only
        have hopget := Json.str?_eq_some.mp hop
        have hfieldget := (Json.nonemptyStr?_eq_some.mp hfield).1
        cases hops : (equalityOps ++ ordinalOps).contains op with
        | false =>
          refine iff_of_true rfl fun hcompares => ?_
          obtain ⟨op', hmem, hget'⟩ := (comparesStatus_eq_true hcompares).2.2
          rw [hopget] at hget'
          cases hget'
          rw [List.contains_iff_mem.mpr (List.mem_append_left _ hmem)] at hops
          cases hops
        | true =>
          simp only [Bool.not_true, Bool.false_eq_true, if_false]
          simp only [branchConditionSources, List.mem_cons, List.not_mem_nil, or_false] at hsource
          rcases hsource with rfl | rfl | rfl
          · have halert : (condition.get "source").isOneOf ["alert"] = true := by
              rw [hget]
              rfl
            rw [if_pos halert]
            refine iff_of_true ?_ fun hcompares => ?_
            · cases alertBindingFields.contains field with
              | false => rfl
              | true => cases (allowedOpsForAlertField field).contains op <;> rfl
            · rw [comparesStatus, hget] at hcompares
              cases hcompares
          · rw [hget]
            exact statusCondition_isOk hget (by decide) hfieldget hopget
          · rw [hget]
            exact statusCondition_isOk hget (by decide) hfieldget hopget

theorem validateBranchStep_isOk {step : Json} {index : Nat} {labelMap : String → Option Nat} :
    (validateBranchStep py step index labelMap).isOk = true ↔
      ((step.get "condition").isObj = true → CheckableCondition (step.get "condition")) := by
  unfold validateBranchStep
  dsimp only
  by_cases hobj : (step.get "condition").isObj = true
  · rw [if_pos hobj, Checks.isOk_bind_and fun _ _ => Checks.isOk_pure, Bool.and_true,
      validateBranchCondition_isOk hobj]
    exact ⟨fun h _ => h, fun h => h hobj⟩
  · rw [if_neg hobj]
    exact iff_of_true rfl fun h => absurd h hobj

/-- The action's checks return where the values that they look up can be. -/
theorem validateActionFields_isOk {action : String} {step : Json} {index : Nat}
    {labelMap : String → Option Nat} :
    (validateActionFields py action step index labelMap playbookId).isOk = true ↔
      (action = "require_approval" →
        ∀ key ∈ ["risk_level", "on_denied", "on_expired"], hashableAt step key = true) ∧
      (action = "branch" → (step.get "condition").isObj = true →
        CheckableCondition (step.get "condition")) := by
  unfold validateActionFields
  dsimp only
  split
  · next haction =>
    subst haction
    simp [validateBranchStep_isOk]
  · next hbranch =>
    split
    · next haction =>
      subst haction
      simp
    · split
      · next haction =>
        subst haction
        simp
      · split
        · next haction =>
          subst haction
          simp [validateRequireApprovalStep_isOk]
        · next happroval => simp [hbranch, happroval]

theorem validateStep_isOk {labelMap : String → Option Nat} {index : Nat} {step : Json} :
    (validateStep py labelMap playbookId index step).isOk = true ↔
      ∀ raw action, step.get? "action" = some (.str raw) →
        resolveActionForPlaybook py raw = .ok action → CheckableStep step action := by
  unfold validateStep
  by_cases hobj : step.isObj = true
  · simp only [hobj, Bool.not_true, Bool.false_eq_true, if_false]
    split
    · next hnone =>
      refine iff_of_true rfl fun raw action hraw => ?_
      rw [hnone] at hraw
      cases hraw
    · next raw hraw =>
      split
      · next error herror =>
        refine iff_of_true rfl fun raw' action hraw' hresolve => ?_
        rw [hraw] at hraw'
        cases hraw'
        rw [herror] at hresolve
        cases hresolve
      · next action hresolve =>
        have hknown : knownPlaybookActions.contains action = true :=
          List.contains_iff_mem.mpr (resolveActionForPlaybook_eq_ok hresolve).2
        rw [hknown]
        simp only [Bool.not_true, Bool.false_eq_true, if_false]
        have hchecks : (∀ raw' action', step.get? "action" = some (.str raw') →
            resolveActionForPlaybook py raw' = .ok action' → CheckableStep step action') ↔
            CheckableStep step action := by
          refine ⟨fun h => h raw action hraw hresolve, fun h raw' action' hraw' hresolve' => ?_⟩
          obtain rfl : raw = raw' := by
            rw [hraw] at hraw'
            exact Json.str.inj (Option.some.inj hraw')
          obtain rfl : action = action' := Except.ok.inj (hresolve.symm.trans hresolve')
          exact h
        rw [hchecks, Checks.isOk_bind_and (b := hashableAt step "on_failure"), Bool.and_eq_true, validateActionFields_isOk]
        · exact ⟨fun h => ⟨h.2, h.1.1, h.1.2⟩, fun h => ⟨⟨h.approval, h.branch⟩, h.onFailure⟩⟩
        · intro actionErrors _
          rw [Checks.isOk_bind_and fun _ _ => Checks.isOk_pure, Bool.and_true, validateChoice_isOk]
    · next value hother hvalue =>
      refine iff_of_true rfl fun raw action hraw => ?_
      rw [hvalue] at hraw
      cases hraw
      exact absurd rfl (hother raw)
  · have hnone : step.get? "action" = none := by
      cases step with
      | obj fields => exact absurd rfl hobj
      | _ => rfl
    simp only [hobj]
    refine iff_of_true rfl fun raw action hraw => ?_
    rw [hnone] at hraw
    cases hraw

/-- Validation returns just where every step can be checked. -/
theorem validatePlaybookSteps_isOk (steps : Json) :
    (validatePlaybookSteps py steps playbookId).isOk = true ↔ Checkable py steps := by
  unfold validatePlaybookSteps
  cases steps with
  | arr list =>
    dsimp only
    rw [Checks.isOk_bind_and fun _ _ => Checks.isOk_pure, Bool.and_true, Checks.isOk_mapM]
    constructor
    · rintro h list' heq step hstep
      cases heq
      obtain ⟨index, hindex⟩ := List.mem_iff_getElem?.mp hstep
      exact validateStep_isOk.mp (h (step, index) (List.mk_mem_zipIdx_iff_getElem?.mpr hindex))
    · rintro h ⟨step, index⟩ hstep
      have hmem : step ∈ list :=
        List.mem_of_getElem? (List.mk_mem_zipIdx_iff_getElem?.mp hstep)
      exact validateStep_isOk.mpr (h list rfl step hmem)
  | _ => exact iff_of_true rfl fun list heq => by cases heq

/-! ## Shapes -/

/-- A condition that compares a field of the alert, or the status of an earlier step or of an
    approval. -/
inductive ConditionShape (condition : Json) : Prop where
  | alert (field op : String) (hsource : condition.get "source" = .str "alert")
      (hfield : condition.get "field" = .str field) (hknown : field ∈ alertBindingFields)
      (hop : condition.get "op" = .str op) (hallowed : op ∈ allowedOpsForAlertField field)
      (hvalue : if field ∈ numericAlertFields then
          (∃ n, condition.get "value" = .int n) ∨ ∃ text, condition.get "value" = .float text
        else ∃ text, condition.get "value" = .str text)
  | status (source op value : String) (values : List String)
      (hsource : condition.get "source" = .str source)
      (hvalues : (source, values) ∈ [("previous_step", previousStepStatusValues),
        ("approval", approvalStatusValues)])
      (hfield : condition.get "field" = .str "status")
      (hop : condition.get "op" = .str op) (hallowed : op ∈ equalityOps)
      (hvalue : condition.get "value" = .str value) (hknown : value ∈ values)

/-- The fields of a `require_approval` step. -/
structure ApprovalShape (step : Json) : Prop where
  riskLevel : ∀ value, step.get? "risk_level" = some value → value.isOneOf approvalRiskLevels = true
  expiresInMinutes : ∀ value, step.get? "expires_in_minutes" = some value →
    ∃ n, value = .int n ∧ minApprovalTtlMinutes ≤ n ∧ n ≤ maxApprovalTtlMinutes
  reason : ∀ value, step.get? "reason" = some value → ∃ text, value = .str text
  onDenied : ∀ value, step.get? "on_denied" = some value →
    value.isOneOf approvalTerminalBehaviors = true
  onExpired : ∀ value, step.get? "on_expired" = some value →
    value.isOneOf approvalTerminalBehaviors = true

/-- The parameters of a `trigger_playbook` step name another playbook. -/
def TriggerShape (playbookId : Option String) (step : Json) : Prop :=
  (step.get "params").isObj = true ∧ ∃ target, (step.get "params").get "playbook_id" = .str target ∧
    strip target ≠ "" ∧ playbookId ≠ some (strip target)

/-- The parameters of an `enrich_context` step, where there are any. -/
def EnrichShape (step : Json) : Prop :=
  step.getD "params" (.obj []) = .null ∨ (step.getD "params" (.obj [])).isObj = true ∧
    ∀ value, (step.getD "params" (.obj [])).get? "limit" = some value →
      ∃ n, value = .int n ∧ 1 ≤ n ∧ n ≤ 25

/-- A parameter is no binding expression, or a whole one of a known field. -/
def BindingShape (value : Json) : Prop :=
  ∀ text, value = .str text → mentionsBinding text.toList = true →
    ∃ ns field, parseBindingExpression value = some (ns, field) ∧ field ∈ allowedBindingFields ns

/-- What the action of a step asks of its fields. -/
structure ActionShape (steps : List Json) (playbookId : Option String) (index : Nat) (step : Json)
    (action : String) : Prop where
  branch : action = "branch" →
    AcceptedBranch steps index step ∧ ConditionShape (step.get "condition")
  approval : action = "require_approval" → ApprovalShape step
  trigger : action = "trigger_playbook" → TriggerShape playbookId step
  enrich : action = "enrich_context" → EnrichShape step

structure StepShape (py : Python) (steps : List Json) (playbookId : Option String) (index : Nat)
    (step : Json) : Prop where
  isObj : step.isObj = true
  action : ∃ raw action, step.get "action" = .str raw ∧
    resolveActionForPlaybook py raw = .ok action ∧ ActionShape steps playbookId index step action
  label : step.get "label" = .null ∨
    ∃ label, step.get "label" = .str label ∧ isLabelWord label.toList = true
  onFailure : ∀ value, step.get? "on_failure" = some value →
    value.isOneOf ["abort", "continue"] = true
  params : ∀ key value, (key, value) ∈ (step.get "params").fields → BindingShape value

/-- The value is a list of steps of their shapes, with labels that differ. -/
def Documented (py : Python) (steps : Json) (playbookId : Option String) : Prop :=
  ∃ list, steps = .arr list ∧ duplicateLabels list = [] ∧
    ∀ index step, list[index]? = some step → StepShape py list playbookId index step

theorem choice_of_valid {step : Json} {key choicesText pfx : String} {choices : List String}
    (h : validateChoice py step key choicesText choices pfx = .ok []) :
    ∀ value, step.get? key = some value → value.isOneOf choices = true := by
  intro value hvalue
  unfold validateChoice at h
  rw [hvalue] at h
  obtain ⟨found, hfound, h⟩ := Checks.bind_eq_ok.mp h
  cases found with
  | true => exact (inSet_eq_ok.mp hfound).2
  | false => cases h

theorem statusCondition_of_valid {source valueText field op pfx : String} {values : List String}
    {value : Json}
    (h : validateStatusCondition source valueText values field op value pfx = .ok []) :
    field = "status" ∧ op ∈ equalityOps ∧ value.isOneOf values = true := by
  unfold validateStatusCondition at h
  by_cases hfield : field = "status"
  · rw [if_neg (not_not.mpr hfield)] at h
    cases hop : equalityOps.contains op with
    | true =>
      simp only [hop, Bool.not_true, Bool.false_eq_true, if_false] at h
      obtain ⟨found, hfound, h⟩ := Checks.bind_eq_ok.mp h
      cases found with
      | true => exact ⟨hfield, List.contains_iff_mem.mp hop, (inSet_eq_ok.mp hfound).2⟩
      | false => cases h
    | false =>
      simp only [hop, Bool.not_false, if_true] at h
      cases h
  · rw [if_pos hfield] at h
    cases h

theorem conditionValue_of_valid {field pfx : String} {value : Json}
    (h : validateConditionValueType py field value pfx = []) :
    if field ∈ numericAlertFields then (∃ n, value = .int n) ∨ ∃ text, value = .float text
    else ∃ text, value = .str text := by
  unfold validateConditionValueType at h
  simp only [List.contains_iff_mem] at h
  split
  · next hnumeric =>
    rw [if_pos hnumeric] at h
    cases value with
    | int n => exact .inl ⟨n, rfl⟩
    | float text => exact .inr ⟨text, rfl⟩
    | _ => cases h
  · next hnumeric =>
    rw [if_neg hnumeric] at h
    cases value with
    | str text => exact ⟨text, rfl⟩
    | _ => cases h

theorem conditionShape_of_valid {condition : Json} {pfx : String} (hobj : condition.isObj = true)
    (h : validateBranchCondition py condition pfx = .ok []) : ConditionShape condition := by
  unfold validateBranchCondition at h
  simp only [hobj, Bool.not_true, Bool.false_eq_true, if_false] at h
  obtain ⟨known, hknown, h⟩ := Checks.bind_eq_ok.mp h
  cases known with
  | false => cases h
  | true =>
    obtain ⟨source, hsource, hget⟩ := isOneOf_eq_true.mp (inSet_eq_ok.mp hknown).2
    simp only [Bool.not_true, Bool.false_eq_true, if_false] at h
    split at h
    · cases h
    · next field hfield =>
      split at h
      · cases h
      · next op hop =>
        have hopget := Json.str?_eq_some.mp hop
        have hfieldget := (Json.nonemptyStr?_eq_some.mp hfield).1
        split at h
        · cases h
        · simp only [branchConditionSources, List.mem_cons, List.not_mem_nil, or_false] at hsource
          rw [hget] at h
          rcases hsource with rfl | rfl | rfl
          · rw [if_pos (show (Json.str "alert").isOneOf ["alert"] = true from rfl)] at h
            split at h
            · cases h
            · next hunknown =>
              split at h
              · cases h
              · next hrefused =>
                refine .alert field op hget hfieldget (by simpa using hunknown) hopget
                  (by simpa using hrefused) (conditionValue_of_valid (Except.ok.inj h))
          · obtain ⟨rfl, hallowed, hvalue⟩ := statusCondition_of_valid h
            obtain ⟨value, hmem, hvalueget⟩ := isOneOf_eq_true.mp hvalue
            exact .status "previous_step" op value _ hget List.mem_cons_self hfieldget hopget
              hallowed hvalueget hmem
          · obtain ⟨rfl, hallowed, hvalue⟩ := statusCondition_of_valid h
            obtain ⟨value, hmem, hvalueget⟩ := isOneOf_eq_true.mp hvalue
            exact .status "approval" op value _ hget (List.mem_cons_of_mem _ List.mem_cons_self)
              hfieldget hopget hallowed hvalueget hmem

theorem approvalShape_of_valid {step : Json} {pfx : String}
    (h : validateRequireApprovalStep py step pfx = .ok []) : ApprovalShape step := by
  unfold validateRequireApprovalStep at h
  obtain ⟨known, hknown, h⟩ := Checks.bind_eq_ok.mp h
  obtain ⟨deniedErrors, hdenied, h⟩ := Checks.bind_eq_ok.mp h
  obtain ⟨expiredErrors, hexpired, h⟩ := Checks.bind_eq_ok.mp h
  have hnil := Except.ok.inj h
  simp only [List.append_eq_nil_iff] at hnil
  obtain ⟨⟨⟨hrisk, hfields⟩, rfl⟩, rfl⟩ := hnil
  unfold validateApprovalFields at hfields
  obtain ⟨httl, hreason⟩ := List.append_eq_nil_iff.mp hfields
  refine ⟨?_, ?_, ?_, choice_of_valid hdenied, choice_of_valid hexpired⟩
  · intro value hvalue
    cases known with
    | true =>
      have hget : step.getD "risk_level" (.str "high") = value := by
        rw [Json.getD, hvalue, Option.getD_some]
      rw [← hget]
      exact (inSet_eq_ok.mp hknown).2
    | false => cases hrisk
  · intro value hvalue
    rw [hvalue] at httl
    cases value with
    | int n =>
      dsimp only at httl
      split at httl
      · cases httl
      · next hrange =>
        refine ⟨n, rfl, ?_⟩
        simp only [Bool.or_eq_true, decide_eq_true_eq, not_or, not_lt] at hrange
        exact hrange
    | _ => cases httl
  · intro value hvalue
    rw [hvalue] at hreason
    cases value with
    | str text => exact ⟨text, rfl⟩
    | _ => cases hreason

theorem triggerShape_of_valid {step : Json} {pfx : String}
    (h : validateTriggerPlaybookStep step pfx playbookId = []) : TriggerShape playbookId step := by
  unfold validateTriggerPlaybookStep at h
  dsimp only at h
  split at h
  · cases h
  · next hobj =>
    refine ⟨by simpa using hobj, ?_⟩
    split at h
    · next target htarget =>
      split at h
      · cases h
      · next hblank =>
        split at h
        · cases h
        · next hother => exact ⟨target, htarget, hblank, hother⟩
    · cases h

theorem enrichShape_of_valid {step : Json} {pfx : String}
    (h : validateEnrichContextStep step pfx = []) : EnrichShape step := by
  unfold validateEnrichContextStep at h
  unfold EnrichShape
  dsimp only at h
  generalize step.getD "params" (.obj []) = params at h ⊢
  cases params with
  | null => exact .inl rfl
  | obj fields =>
    refine .inr ⟨rfl, fun value hvalue => ?_⟩
    dsimp only at h
    rw [hvalue] at h
    cases value with
    | int n =>
      dsimp only at h
      split at h
      · cases h
      · next hrange =>
        refine ⟨n, rfl, ?_⟩
        simp only [Bool.or_eq_true, decide_eq_true_eq, not_or, not_lt] at hrange
        omega
    | _ => cases h
  | _ => cases h

theorem branchCondition_of_valid {step : Json} {index : Nat} {labelMap : String → Option Nat}
    (hobj : (step.get "condition").isObj = true)
    (h : validateBranchStep py step index labelMap = .ok []) :
    ConditionShape (step.get "condition") := by
  unfold validateBranchStep at h
  dsimp only at h
  rw [if_pos hobj] at h
  obtain ⟨conditionErrors, hcondition, h⟩ := Checks.bind_eq_ok.mp h
  have hnil := Except.ok.inj h
  rw [List.append_eq_nil_iff, List.append_eq_nil_iff] at hnil
  obtain ⟨⟨rfl, -⟩, -⟩ := hnil
  exact conditionShape_of_valid hobj hcondition

theorem actionShape_of_valid {list : List Json} {action : String} {step : Json} {index : Nat}
    (h : validateActionFields py action step index (buildLabelIndexMap list) playbookId = .ok []) :
    ActionShape list playbookId index step action := by
  unfold validateActionFields at h
  refine ⟨?_, ?_, ?_, ?_⟩
  · rintro rfl
    have hbranch : AcceptedBranch list index step := acceptedBranch_of_valid h
    exact ⟨hbranch, branchCondition_of_valid hbranch.condition h⟩
  · rintro rfl
    exact approvalShape_of_valid h
  · rintro rfl
    exact triggerShape_of_valid (Except.ok.inj h)
  · rintro rfl
    exact enrichShape_of_valid (Except.ok.inj h)

theorem label_of_valid {step : Json} {pfx : String} (h : validateStepLabel py step pfx = []) :
    step.get "label" = .null ∨
      ∃ label, step.get "label" = .str label ∧ isLabelWord label.toList = true := by
  unfold validateStepLabel at h
  split at h
  · next hnull => exact .inl hnull
  · next label hlabel =>
    split at h
    · cases h
    · split at h
      · next hword => exact .inr ⟨label, hlabel, hword⟩
      · cases h
  · cases h

theorem binding_of_valid {value : Json} {pfx : String}
    (h : validateParamBindingValue py value pfx = []) : BindingShape value := by
  rintro text rfl hmentions
  unfold validateParamBindingValue at h
  simp only [hmentions, if_true] at h
  split at h
  · cases h
  · next ns field hparse =>
    split at h
    · next hallowed => exact ⟨ns, field, hparse, List.contains_iff_mem.mp hallowed⟩
    · cases h

/-- A step without errors has its shape. -/
theorem stepShape_of_valid {list : List Json} {step : Json} {index : Nat}
    (h : validateStep py (buildLabelIndexMap list) playbookId index step = .ok []) :
    StepShape py list playbookId index step := by
  obtain ⟨hobj, raw, action, hraw, hresolve, -⟩ := acceptedStep_of_valid h
  have hget : step.get? "action" = some (.str raw) := by
    cases hvalue : step.get? "action" with
    | none => simp [Json.get, Json.getD, hvalue] at hraw
    | some value => simpa [Json.get, Json.getD, hvalue] using hraw
  have hknown : knownPlaybookActions.contains action = true :=
    List.contains_iff_mem.mpr (resolveActionForPlaybook_eq_ok hresolve).2
  unfold validateStep at h
  simp only [hobj, hget, hresolve, hknown, Bool.not_true, Bool.false_eq_true, if_false] at h
  obtain ⟨actionErrors, haction, h⟩ := Checks.bind_eq_ok.mp h
  obtain ⟨failureErrors, hfailure, h⟩ := Checks.bind_eq_ok.mp h
  have hnil := Except.ok.inj h
  simp only [List.append_eq_nil_iff] at hnil
  obtain ⟨⟨⟨hlabel, rfl⟩, rfl⟩, hparams⟩ := hnil
  refine ⟨hobj, ⟨raw, action, hraw, hresolve, actionShape_of_valid haction⟩,
    label_of_valid hlabel, choice_of_valid hfailure, fun key value hmem => ?_⟩
  exact binding_of_valid (List.flatMap_eq_nil_iff.mp hparams (key, value) hmem)

/-- A list without errors is a documented one. -/
theorem documented_of_valid {steps : Json}
    (h : validatePlaybookSteps py steps playbookId = .ok []) : Documented py steps playbookId := by
  unfold validatePlaybookSteps at h
  cases steps with
  | arr list =>
    obtain ⟨stepErrors, hsteps, h⟩ := Checks.bind_eq_ok.mp h
    obtain ⟨hlabels, hnone⟩ := List.append_eq_nil_iff.mp (Except.ok.inj h)
    refine ⟨list, rfl, List.map_eq_nil_iff.mp hlabels, fun index step hstep => ?_⟩
    obtain ⟨errors, herrors, hvalid⟩ :=
      Checks.mapM_mem hsteps (List.mk_mem_zipIdx_iff_getElem?.mpr hstep)
    obtain rfl : errors = [] := List.flatten_eq_nil_iff.mp hnone errors herrors
    exact stepShape_of_valid hvalid
  | _ => cases h

/-! ## Result -/

/-- Validation returns a list of errors, and the empty one only for documented lists, just where each
    value that it looks up in a set can be hashed. -/
theorem validation_total (py : Python) (playbookId : Option String) (steps : Json) :
    ((∃ errors, validatePlaybookSteps py steps playbookId = .ok errors) ∧
        (validatePlaybookSteps py steps playbookId = .ok [] → Documented py steps playbookId)) ↔
      Checkable py steps := by
  rw [← Checks.isOk_iff, validatePlaybookSteps_isOk]
  exact and_iff_left documented_of_valid

/-- The risk level of the one step is a list. -/
theorem list_risk_level_raises :
    ¬ ∃ errors, validatePlaybookSteps ⟨fun _ => "", fun _ => "", fun _ _ => .ok none⟩
      (.arr [.obj [("action", .str "require_approval"), ("risk_level", .arr [])]]) none =
        .ok errors := by
  rw [← Checks.isOk_iff]
  decide +kernel

end SiemDashboard.ValidationTotal
