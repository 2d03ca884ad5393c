import SiemDashboard.Engines.StepContracts

/-!
# Accepted step lists

What a step list that validation accepts guarantees to the executor.

* **Steps** — `AcceptedStep`, `accepted_of_valid`.
* **Structural faults** — `Sound`, `Canonical`; `sound_iff_canonical`: an accepted list has a
  structural fault exactly when it is not canonical.
-/

namespace SiemDashboard.StepExecutor

open Python ActionVocabulary PlaybookRegistry BranchConditions

variable {py : Python} {steps : List Json} {playbookId : Option String}

/-! ## Steps -/

/-- The label is that of a step after the branch. -/
def ForwardLabel (steps : List Json) (index : Nat) (label : String) : Prop :=
  ∃ target, buildLabelIndexMap steps label = some target ∧ index < target

/-- What validation has checked of a branch step. -/
structure AcceptedBranch (steps : List Json) (index : Nat) (step : Json) : Prop where
  condition : (step.get "condition").isObj = true
  gotoTrue : ∃ label, (step.get "goto_true").nonemptyStr? = some label ∧
    ForwardLabel steps index label
  gotoFalse : step.get "goto_false" = .null ∨
    ∃ label, (step.get "goto_false").nonemptyStr? = some label ∧ ForwardLabel steps index label

/-- What validation has checked of a step. -/
structure AcceptedStep (py : Python) (steps : List Json) (index : Nat) (step : Json) : Prop where
  isObj : step.isObj = true
  action : ∃ raw name, step.get "action" = .str raw ∧ resolveActionForPlaybook py raw = .ok name ∧
    (name = "branch" → AcceptedBranch steps index step)

theorem get_of_get? {step value : Json} {key : String} (h : step.get? key = some value) :
    step.get key = value := by
  rw [Json.get, Json.getD, h, Option.getD_some]

theorem validateBranchTarget_nil {labelMap : String → Option Nat} {label pfx : String} {index : Nat}
    (h : validateBranchTarget py labelMap label index pfx = []) :
    ∃ target, labelMap label = some target ∧ index < target := by
  unfold validateBranchTarget at h
  split at h
  · cases h
  · next target htarget =>
    split at h
    · cases h
    · next hlt => exact ⟨target, htarget, by omega⟩

theorem acceptedBranch_of_valid {step : Json} {index : Nat}
    (h : validateBranchStep py step index (buildLabelIndexMap steps) = .ok []) :
    AcceptedBranch steps index step := by
  unfold validateBranchStep at h
  by_cases hcondition : (step.get "condition").isObj = true
  · simp only [hcondition, if_true] at h
    obtain ⟨conditionErrors, -, h⟩ := Checks.bind_eq_ok.mp h
    replace h := Except.ok.inj h
    rw [List.append_eq_nil_iff, List.append_eq_nil_iff] at h
    obtain ⟨⟨-, htrue⟩, hfalse⟩ := h
    refine ⟨hcondition, ?_, ?_⟩
    · split at htrue
      · cases htrue
      · next label hlabel => exact ⟨label, hlabel, validateBranchTarget_nil htrue⟩
    · split at hfalse
      · next hnull => exact .inl hnull
      · split at hfalse
        · cases hfalse
        · next label hlabel => exact .inr ⟨label, hlabel, validateBranchTarget_nil hfalse⟩
  · simp only [hcondition] at h
    cases h

theorem acceptedStep_of_valid {step : Json} {index : Nat}
    (h : validateStep py (buildLabelIndexMap steps) playbookId index step = .ok []) :
    AcceptedStep py steps index step := by
  unfold validateStep at h
  by_cases hobj : step.isObj = true
  · simp only [hobj, Bool.not_true, Bool.false_eq_true, if_false] at h
    split at h
    · cases h
    · next raw hraw =>
      split at h
      · cases h
      · next name hname =>
        split at h
        · cases h
        · obtain ⟨actionErrors, haction, h⟩ := Checks.bind_eq_ok.mp h
          obtain ⟨failureErrors, -, h⟩ := Checks.bind_eq_ok.mp h
          replace h := Except.ok.inj h
          simp only [List.append_eq_nil_iff] at h
          obtain ⟨⟨⟨-, rfl⟩, -⟩, -⟩ := h
          refine ⟨hobj, raw, name, get_of_get? hraw, hname, ?_⟩
          rintro rfl
          exact acceptedBranch_of_valid haction
    · cases h
  · simp only [hobj] at h
    cases h

/-- Every step of an accepted list has passed its checks. -/
theorem accepted_of_valid (h : validatePlaybookSteps py (.arr steps) playbookId = .ok [])
    {index : Nat} {step : Json} (hstep : steps[index]? = some step) :
    AcceptedStep py steps index step := by
  unfold validatePlaybookSteps at h
  obtain ⟨stepErrors, hsteps, h⟩ := Checks.bind_eq_ok.mp h
  obtain ⟨-, hnone⟩ := List.append_eq_nil_iff.mp (Except.ok.inj h)
  have hmem : (step, index) ∈ steps.zipIdx := List.mk_mem_zipIdx_iff_getElem?.mpr hstep
  obtain ⟨errors, herrors, hvalid⟩ := Checks.mapM_mem hsteps hmem
  obtain rfl : errors = [] := List.flatten_eq_nil_iff.mp hnone errors herrors
  exact acceptedStep_of_valid hvalid

/-! ## Structural faults -/

/-- No step of the list has a structural fault. -/
def Sound (steps : List Json) : Prop :=
  ∀ index step code, steps[index]? = some step → ¬ StructuralFault steps index step code

/-- Every action is written as the vocabulary names it, and no branch has an explicit
    `goto_false: null`. -/
def Canonical (py : Python) (steps : List Json) : Prop :=
  ∀ step ∈ steps, (∀ raw, step.get "action" = .str raw →
      resolveActionForPlaybook py raw = .ok raw) ∧
    (step.get "action" = .str "branch" → step.get? "goto_false" ≠ some .null)

/-- A playbook action resolves to itself. -/
theorem resolve_known {name : String} (h : name ∈ knownPlaybookActions) :
    resolveActionForPlaybook py name = .ok name := by
  simp only [knownPlaybookActions, playbookActions, List.mem_cons, List.not_mem_nil, or_false] at h
  rcases h with rfl | rfl | rfl | rfl | rfl | rfl | rfl | rfl | rfl | rfl | rfl <;> rfl

theorem resolve_mem {raw name : String} (h : resolveActionForPlaybook py raw = .ok name) :
    name ∈ knownPlaybookActions :=
  (resolveActionForPlaybook_eq_ok h).2

theorem known_ne_empty {name : String} (h : name ∈ knownPlaybookActions) : name ≠ "" := by
  rintro rfl
  exact absurd h (by decide)

theorem ForwardLabel.resolves {index : Nat} {label : String} (h : ForwardLabel steps index label) :
    resolveLabelTargetIndex steps label index ≠ none := by
  obtain ⟨target, htarget, hlt⟩ := h
  simp [resolveLabelTargetIndex, htarget, hlt]

/-- A structural fault of an accepted step: its action is not written canonically, or it is a
    branch with an explicit null. -/
theorem not_fault_of_accepted {index : Nat} {step : Json} {code : StepErrorCode}
    (haccepted : AcceptedStep py steps index step)
    (hresolve : ∀ raw, step.get "action" = .str raw → resolveActionForPlaybook py raw = .ok raw)
    (hfalse : step.get "action" = .str "branch" → step.get? "goto_false" ≠ some .null) :
    ¬ StructuralFault steps index step code := by
  intro hfault
  obtain ⟨hobj, raw, name, hraw, hname, hbranch⟩ := haccepted
  obtain rfl : name = raw := Except.ok.inj (hname.symm.trans (hresolve raw hraw))
  have haction {action : String} (h : step.get "action" = .str action) : name = action :=
    Json.str.inj (hraw.symm.trans h)
  cases hfault with
  | noObject h =>
    rw [hobj] at h
    cases h
  | noAction h =>
    rw [hraw, Json.nonemptyStr?_eq_some.mpr ⟨rfl, known_ne_empty (resolve_mem hname)⟩] at h
    cases h
  | unknownAction h hunknown => exact hunknown (haction h ▸ resolve_mem hname)
  | noCondition h hcondition =>
    rw [(hbranch (haction h)).condition] at hcondition
    cases hcondition
  | noGotoTrue h hgoto =>
    obtain ⟨label, hlabel, -⟩ := (hbranch (haction h)).gotoTrue
    cases hlabel.symm.trans hgoto
  | badGotoFalse h hhas hgoto =>
    have hget := get_of_get? hhas
    obtain hnull | ⟨label, hlabel, -⟩ := (hbranch (haction h)).gotoFalse
    · rw [hget] at hnull
      exact hfalse h (hnull ▸ hhas)
    · rw [hget] at hlabel
      cases hlabel.symm.trans hgoto
  | @lostLabel key label h hkey hlabel hlost =>
    have hforward : ForwardLabel steps index label := by
      rcases hkey with rfl | rfl
      · obtain ⟨label', hlabel', hforward⟩ := (hbranch (haction h)).gotoTrue
        cases hlabel.symm.trans hlabel'
        exact hforward
      · obtain hnull | ⟨label', hlabel', hforward⟩ := (hbranch (haction h)).gotoFalse
        · rw [hnull] at hlabel
          cases hlabel
        · cases hlabel.symm.trans hlabel'
          exact hforward
    exact hforward.resolves hlost

/-- An accepted list has a structural fault exactly when it is not written canonically. -/
theorem sound_iff_canonical (hvalid : validatePlaybookSteps py (.arr steps) playbookId = .ok []) :
    Sound steps ↔ Canonical py steps := by
  constructor
  · intro hsound step hstep
    obtain ⟨index, hindex⟩ := List.mem_iff_getElem?.mp hstep
    refine ⟨fun raw hraw => ?_, fun hbranch hnull => ?_⟩
    · by_contra hresolve
      exact hsound index step _ hindex (.unknownAction hraw fun hknown =>
        hresolve (resolve_known hknown))
    · exact hsound index step _ hindex (.badGotoFalse hbranch hnull rfl)
  · intro hcanonical index step code hstep
    obtain ⟨hresolve, hfalse⟩ := hcanonical step (List.mem_of_getElem? hstep)
    exact not_fault_of_accepted (accepted_of_valid hvalid hstep) hresolve hfalse

end SiemDashboard.StepExecutor
