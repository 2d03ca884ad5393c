import SiemDashboard.Core.SocBriefingInvestigation

/-!
# The steps of a briefing run

A run records its steps under indices that one function counts and another one advances.  The indices of a
run are listed exactly; they are distinct, and every step is still stored at the end, just where no
candidate is selected, or the deadline has been reached after at most 96 duplicates, or the evidence
comes to no tool result.

* **Stored steps** — `recordedStep`, `tableAfter`, `KeepsTrail`; `stored_of_nodup`.
* **Indices** — `Indexed`, and the indices that each part of a run records.
* **Result** — `TrailSafe`, `keepsTrail_iff`; `repeatedIndex_lost`: a run that loses a step.
-/

namespace SiemDashboard.StepTrail

open AiRouting Atomic BriefingInvestigation Program

/-! ## Stored steps -/

/-- A statement of an investigation with its answer. -/
abbrev BriefingExchange := Exchange BriefingCall.Reply

/-- The step that a statement has recorded, with its run. -/
def recordedStep : BriefingExchange → Option (Int × RunStep)
  | ⟨.createRunStep runId step, .ok _⟩ => some (runId, step)
  | _ => none

abbrev recorded (trace : List BriefingExchange) : List (Int × RunStep) := trace.filterMap recordedStep

/-- Where a step is stored. -/
abbrev stepKey (entry : Int × RunStep) : Int × Nat := (entry.1, entry.2.stepIndex)

section Stored

variable (texts : BriefingTexts)

/-- The table after some steps. -/
def storeSteps (table : StepTable) (steps : List (Int × RunStep)) : StepTable :=
  steps.foldl (fun table entry => createRunStep texts table entry.1 entry.2) table

/-- The table after a run. -/
def tableAfter (table : StepTable) (trace : List BriefingExchange) : StepTable :=
  storeSteps texts table (recorded trace)

/-- The row of a step is its own. -/
def StoredAs (step : RunStep) (stored : StoredStep) : Prop :=
  stored.step.stepType = step.stepType ∧ stored.step.status = step.status ∧
    stored.step.evidenceRefs = step.evidenceRefs

/-- Every recorded step is still stored, and no two of them share an index. -/
structure KeepsTrail (table : StepTable) (trace : List BriefingExchange) : Prop where
  stored : ∀ entry ∈ recorded trace, ∃ stored,
    tableAfter texts table trace entry.1 entry.2.stepIndex = some stored ∧ StoredAs entry.2 stored
  distinct : ((recorded trace).map stepKey).Nodup

variable {texts} {table : StepTable}

theorem createRunStep_self (runId : Int) (step : RunStep) :
    ∃ stored, createRunStep texts table runId step runId step.stepIndex = some stored ∧
      StoredAs step stored := by
  unfold createRunStep
  rw [Function.update_self, Function.update_self]
  exact ⟨_, rfl, rfl, rfl, rfl⟩

theorem createRunStep_of_ne {runId runId' : Int} {step : RunStep} {index : Nat}
    (hne : (runId', index) ≠ (runId, step.stepIndex)) :
    createRunStep texts table runId step runId' index = table runId' index := by
  unfold createRunStep
  by_cases hrun : runId' = runId
  · subst hrun
    have hindex : index ≠ step.stepIndex := fun h => hne (by rw [h])
    rw [Function.update_self, Function.update_of_ne hindex]
  · rw [Function.update_of_ne hrun]

/-- Steps leave the rows of other indices alone. -/
theorem storeSteps_of_notMem {steps : List (Int × RunStep)} {runId : Int} {index : Nat}
    (h : (runId, index) ∉ steps.map stepKey) :
    storeSteps texts table steps runId index = table runId index := by
  induction steps generalizing table with
  | nil => rfl
  | cons entry steps ih =>
    rw [List.map_cons, List.mem_cons, not_or] at h
    have hrest := @ih (createRunStep texts table entry.1 entry.2) h.2
    rw [createRunStep_of_ne h.1] at hrest
    exact hrest

/-- Steps with distinct indices are all stored. -/
theorem stored_of_nodup {steps : List (Int × RunStep)} (h : (steps.map stepKey).Nodup)
    {entry : Int × RunStep} (hentry : entry ∈ steps) :
    ∃ stored, storeSteps texts table steps entry.1 entry.2.stepIndex = some stored ∧
      StoredAs entry.2 stored := by
  induction steps generalizing table with
  | nil => cases hentry
  | cons first steps ih =>
    rw [List.map_cons, List.nodup_cons] at h
    rcases List.mem_cons.mp hentry with rfl | hrest
    · obtain ⟨stored, hstored, hown⟩ := @createRunStep_self texts table entry.1 entry.2
      have hkept := @storeSteps_of_notMem texts (createRunStep texts table entry.1 entry.2) steps
        entry.1 entry.2.stepIndex h.1
      exact ⟨stored, hkept.trans hstored, hown⟩
    · exact @ih (createRunStep texts table first.1 first.2) h.2 hrest

theorem keepsTrail_iff_nodup {trace : List BriefingExchange} :
    KeepsTrail texts table trace ↔ ((recorded trace).map stepKey).Nodup :=
  ⟨fun h => h.distinct, fun h => ⟨fun _ hentry => stored_of_nodup h hentry, h⟩⟩

end Stored

/-! ## Indices -/

/-- The steps are those of the run with these indices. -/
def Indexed (run : BriefingRun) (log : List (Int × RunStep)) (indices : List Nat) : Prop :=
  log.map stepKey = indices.map fun index => (run.id, index)

section Indices

variable {run : BriefingRun} {α β : Type}

theorem indexed_nil : Indexed run [] [] := rfl

theorem Indexed.append {log more : List (Int × RunStep)} {indices others : List Nat}
    (h : Indexed run log indices) (hmore : Indexed run more others) :
    Indexed run (log ++ more) (indices ++ others) := by
  unfold Indexed at *
  rw [List.map_append, List.map_append, h, hmore]

theorem Indexed.nodup_iff {log : List (Int × RunStep)} {indices : List Nat}
    (h : Indexed run log indices) : (log.map stepKey).Nodup ↔ indices.Nodup := by
  rw [h]
  exact List.nodup_map_iff fun _ _ heq => (Prod.mk.inj heq).2

/-- What a program records, whenever it returns. -/
abbrev Records (p : BriefingProg α) (Post : α → List (Int × RunStep) → Prop) : Prop :=
  Writes recordedStep Post p

theorem records_persistStep (step : RunStep) :
    Records (persistStep run step) fun _ log => Indexed run log [step.stepIndex] := by
  intro trace a h
  rw [performs_call.mp h]
  rfl

/-- Nothing is recorded. -/
abbrev Silent (p : BriefingProg α) : Prop := Records p fun _ log => log = []

theorem silent_audit {phase : String} {details : List (String × Python.Json)} :
    Silent (audit run phase details) := by
  intro trace a h
  rw [performs_call.mp h]
  rfl

theorem silent_updateBriefingContent {content : BriefingContent} :
    Silent (updateBriefingContent run content) := by
  intro trace a h
  rw [performs_call.mp h]
  rfl

theorem records_liftExcept (given : Except AiRaised α) :
    Records (liftExcept given : BriefingProg α) fun a log => given = .ok a ∧ log = [] := by
  intro trace a h
  obtain ⟨rfl, hgiven⟩ := performs_run_liftExcept.mp h
  exact ⟨hgiven.symm, rfl⟩

/-- A silent program first. -/
theorem Silent.bind {p : BriefingProg α} {f : α → BriefingProg β}
    {Post : β → List (Int × RunStep) → Prop} (hp : Silent p) (hf : ∀ a, Records (f a) Post) :
    Records (p >>= f) Post := by
  refine writes_bind hp fun a log hlog => ?_
  subst hlog
  exact hf a

theorem silent_generate {gateway : AiGateway} {env : ProfileEnvironment} {request : AiGatewayRequest} :
    Silent (generate gateway env request) := by
  have hissues : (generate gateway env request).run.Issues
      (fun q => ∃ inner, q = BriefingCall.gateway inner) fun _ => True :=
    issues_through (issues_true _) fun q _ => issues_call ⟨q, rfl⟩ fun _ => trivial
  refine Issues.writes hissues ?_
  rintro _ r ⟨inner, rfl⟩
  rfl

/-! ### The parts of a run -/

section Parts

variable {texts : BriefingTexts} {budget : InvestigationBudget} {findings : Findings}
  {env : ProfileEnvironment}

/-- One step, and the rest from the next index on. -/
theorem records_step {step : RunStep} {stepIndex : Nat} {f : Unit → BriefingProg β} {Post : β → Prop}
    {count : Nat} (hindex : step.stepIndex = stepIndex)
    (hf : Records (f ()) fun b log =>
      Indexed run log (List.range' (stepIndex + 1) count) ∧ Post b) :
    Records (persistStep run step >>= f) fun b log =>
      Indexed run log (List.range' stepIndex (count + 1)) ∧ Post b := by
  subst hindex
  refine writes_bind (records_persistStep step) fun _ log hlog => ?_
  exact hf.imp fun b more hmore => ⟨hlog.append hmore.1, hmore.2⟩

def selectedOf (texts : BriefingTexts) (recent : String → Option String)
    (candidates : List Candidate) : List Candidate :=
  candidates.filter fun candidate => !candidate.isDuplicate texts recent

/-- The candidates that are skipped as duplicates. -/
def duplicatesOf (texts : BriefingTexts) (recent : String → Option String)
    (candidates : List Candidate) : List Candidate :=
  candidates.filter fun candidate => candidate.isDuplicate texts recent

theorem records_reviewCandidates (recent : String → Option String) (stepIndex : Nat)
    (candidates : List Candidate) :
    Records (reviewCandidates texts run recent stepIndex candidates) fun review log =>
      Indexed run log (List.range' stepIndex (duplicatesOf texts recent candidates).length) ∧
      review.selected = selectedOf texts recent candidates ∧
      review.stepIndex = stepIndex + (duplicatesOf texts recent candidates).length := by
  induction candidates generalizing stepIndex with
  | nil => exact writes_pure ⟨indexed_nil, rfl, rfl⟩
  | cons candidate candidates ih =>
    unfold reviewCandidates
    split
    · next hduplicate =>
      have hduplicates : duplicatesOf texts recent (candidate :: candidates) =
          candidate :: duplicatesOf texts recent candidates := List.filter_cons_of_pos hduplicate
      have hselected : selectedOf texts recent (candidate :: candidates) =
          selectedOf texts recent candidates := List.filter_cons_of_neg (by simp [hduplicate])
      rw [hduplicates, hselected, List.length_cons]
      refine records_step rfl ?_
      refine writes_bind (ih (stepIndex + 1)) fun rest log hrest => writes_pure ?_
      rw [List.append_nil]
      refine ⟨hrest.1, hrest.2.1, ?_⟩
      show rest.stepIndex = _
      rw [hrest.2.2]
      omega
    · next hfresh =>
      have hduplicates : duplicatesOf texts recent (candidate :: candidates) =
          duplicatesOf texts recent candidates := List.filter_cons_of_neg hfresh
      have hselected : selectedOf texts recent (candidate :: candidates) =
          candidate :: selectedOf texts recent candidates :=
        List.filter_cons_of_pos (by simp [hfresh])
      rw [hduplicates, hselected]
      refine writes_bind (ih stepIndex) fun rest log hrest => writes_pure ?_
      rw [List.append_nil]
      refine ⟨hrest.1, ?_, hrest.2.2⟩
      show candidate :: rest.selected = _
      rw [hrest.2.1]

/-- The calls that are valid. -/
def safeCallsOf (findings : Findings) (toolCalls : List ToolCall) : List SafeCall :=
  toolCalls.flatMap fun toolCall => (findings.validateCall toolCall).toOption.toList

theorem records_validateCalls (stepIndex : Nat) (toolCalls : List ToolCall) :
    Records (validateCalls run findings.validateCall stepIndex toolCalls) fun safeCalls log =>
      Indexed run log (List.range' stepIndex toolCalls.length) ∧
      safeCalls = safeCallsOf findings toolCalls := by
  induction toolCalls generalizing stepIndex with
  | nil => exact writes_pure ⟨indexed_nil, rfl⟩
  | cons toolCall toolCalls ih =>
    have hindex : (validationStep stepIndex toolCall (findings.validateCall toolCall)).stepIndex =
        stepIndex := by
      cases findings.validateCall toolCall with
      | ok safeCall => rfl
      | error rejected => rfl
    unfold validateCalls
    rw [List.length_cons]
    refine records_step hindex ?_
    refine writes_bind (ih (stepIndex + 1)) fun safeCalls log hrest => writes_pure ?_
    rw [List.append_nil]
    refine ⟨hrest.1, ?_⟩
    rw [hrest.2]
    rfl

theorem records_recordResults (stepIndex : Nat) (results : List ToolResult) :
    Records (recordResults run stepIndex results) fun _ log =>
      Indexed run log (List.range' stepIndex results.length) ∧ True := by
  induction results generalizing stepIndex with
  | nil => exact writes_pure ⟨indexed_nil, trivial⟩
  | cons result results ih => exact records_step rfl (ih (stepIndex + 1))

theorem records_recordCandidates (stepIndex : Nat) (candidates : List Candidate) :
    Records (recordCandidates texts run stepIndex candidates) fun _ log =>
      Indexed run log (List.range' stepIndex candidates.length) ∧ True := by
  induction candidates generalizing stepIndex with
  | nil => exact writes_pure ⟨indexed_nil, trivial⟩
  | cons candidate candidates ih => exact records_step rfl (ih (stepIndex + 1))

/-- The results of the tools: none where no call is valid. -/
def toolResults (findings : Findings) (toolCalls : List ToolCall) : List ToolResult :=
  if (safeCallsOf findings toolCalls).isEmpty then []
  else
    match findings.execute (safeCallsOf findings toolCalls) with
    | .ok summary => summary.calls
    | .error _ => []

theorem length_buildToolCalls (selected : List Candidate) :
    ((buildToolCalls budget selected).1).length ≤ budget.maxToolCalls :=
  List.length_take_le _ _

theorem records_executeEvidenceTools (stepIndex : Nat) (planned : List ToolCall)
    (hplanned : planned.length ≤ budget.maxToolCalls) :
    Records (executeEvidenceTools budget run findings stepIndex planned) fun _ log =>
      Indexed run log (List.range' stepIndex planned.length ++
        List.range' (stepIndex + planned.length) (toolResults findings planned).length) := by
  unfold executeEvidenceTools
  dsimp only
  rw [List.take_of_length_le hplanned]
  refine writes_bind (records_validateCalls stepIndex planned) fun safeCalls log hlog => ?_
  obtain ⟨hindexed, rfl⟩ := hlog
  unfold toolResults
  split
  · refine writes_pure ?_
    rw [List.length_nil, List.range'_zero, List.append_nil, List.append_nil]
    exact hindexed
  · refine writes_bind (records_liftExcept _) fun summary log hsummary => ?_
    obtain ⟨hexecute, rfl⟩ := hsummary
    rw [hexecute]
    refine writes_bind (records_recordResults _ _) fun _ more hmore => writes_pure ?_
    rw [List.append_nil, List.nil_append]
    exact hindexed.append hmore.1

theorem records_collectEvidence (stepIndex : Nat) (selected : List Candidate) :
    Records (collectEvidence texts run budget findings stepIndex selected) fun evidence log =>
      Indexed run log
        (List.range' stepIndex (buildToolCalls budget selected).1.length ++
          List.range' (stepIndex + (buildToolCalls budget selected).1.length)
            (toolResults findings (buildToolCalls budget selected).1).length) ∧
      evidence.stepIndex = stepIndex + max 1 (buildToolCalls budget selected).1.length := by
  have hlength : (buildToolCalls budget selected).1.length ≤ budget.maxToolCalls :=
    length_buildToolCalls selected
  unfold collectEvidence
  refine writes_bind (records_executeEvidenceTools stepIndex _ hlength) fun summary log hlog => ?_
  refine silent_audit.bind fun _ => writes_pure ?_
  rw [List.append_nil]
  refine ⟨hlog, ?_⟩
  show stepIndex + max 1 (min _ _) = _
  rw [Nat.min_eq_left hlength]

variable {gatewayConfig : AiGatewayConfig} {gateway : Option AiGateway}

theorem silent_synthesizeBriefing {selected : List Candidate} {skipped refs : List Python.Json}
    {summary : ToolSummary} :
    Silent (synthesizeBriefing texts budget selected skipped refs env gatewayConfig gateway
      summary) := by
  unfold synthesizeBriefing
  dsimp only
  split
  · exact writes_pure rfl
  · split
    · exact writes_pure rfl
    · refine silent_generate.bind fun response => ?_
      split
      · exact writes_pure rfl
      · split
        · exact writes_pure rfl
        · split
          · exact writes_pure rfl
          · have hrepair (gateway : AiGateway) (content : Option String) (errors : List String) :
                Silent (attemptStructuredBriefingRepair texts env gateway content errors) :=
              silent_generate.bind fun _ => writes_pure rfl
            unfold repairBriefing
            refine Silent.bind (hrepair _ _ _) fun repaired => ?_
            split
            · exact writes_pure rfl
            · split
              · exact writes_pure rfl
              · split
                · exact writes_pure rfl
                · exact writes_pure rfl

theorem records_concludeInvestigation (selected : List Candidate) {skipped : List Python.Json}
    (evidence : Evidence) :
    Records (concludeInvestigation texts run env budget gatewayConfig gateway selected skipped
      evidence) fun _ log =>
      Indexed run log (List.range' evidence.stepIndex (selected.length + 2)) ∧ True := by
  unfold concludeInvestigation
  refine writes_bind (records_recordCandidates _ selected) fun _ log hlog => ?_
  have hrest : Indexed run log (List.range' evidence.stepIndex selected.length) := hlog.1
  rw [← List.range'_append_1]
  refine @Writes.imp _ _ _ _ _ _ _ (fun _ more =>
    Indexed run more (List.range' (evidence.stepIndex + selected.length) 2) ∧ True) _ ?_
    fun _ more hmore => ⟨hrest.append hmore.1, trivial⟩
  refine silent_synthesizeBriefing.bind fun synthesis => ?_
  refine records_step rfl ?_
  refine silent_updateBriefingContent.bind fun _ => ?_
  refine records_step rfl ?_
  exact silent_audit.bind fun _ => writes_pure ⟨indexed_nil, trivial⟩

end Parts

end Indices

/-! ## Result -/

section Result

variable {texts : BriefingTexts} {budget : InvestigationBudget} {findings : Findings}

/-- The indices of a run, by what it finds: the candidates that are selected, the number of those that are
    skipped as duplicates, the planned calls and the results of the tools. -/
def runIndices (deadlineReached : Bool) (selected duplicates calls results : Nat) : List Nat :=
  1 :: List.range' 2 duplicates ++
    if selected = 0 then List.range' (2 + duplicates) 3
    else if deadlineReached then [98]
    else
      (List.range' (2 + duplicates) calls ++ List.range' (2 + duplicates + calls) results) ++
        List.range' (2 + duplicates + max 1 calls) (selected + 2)

/-- The first indices are distinct. -/
theorem nodup_first (duplicates : Nat) : (1 :: List.range' 2 duplicates).Nodup := by
  have hrange : 1 :: List.range' 2 duplicates = List.range' 1 (duplicates + 1) := rfl
  rw [hrange]
  exact List.nodup_range' 1 Nat.one_pos

/-- The indices are distinct just where nothing is selected, or the fixed index of an exhausted budget
    is still free, or there is no result. -/
theorem nodup_runIndices {deadlineReached : Bool} {selected duplicates calls results : Nat}
    (hresults : results ≠ 0 → calls ≠ 0) :
    (runIndices deadlineReached selected duplicates calls results).Nodup ↔
      selected = 0 ∨ (deadlineReached = true ∧ duplicates ≤ 96) ∨
        (deadlineReached = false ∧ results = 0) := by
  unfold runIndices
  rw [List.nodup_append]
  by_cases hselected : selected = 0
  · rw [if_pos hselected]
    refine iff_of_true ⟨nodup_first duplicates, List.nodup_range' 1 Nat.one_pos, ?_⟩ (.inl hselected)
    intro a ha b hb
    rw [List.mem_cons, List.mem_range'_1] at ha
    rw [List.mem_range'_1] at hb
    omega
  · rw [if_neg hselected]
    cases deadlineReached with
    | true =>
      rw [if_pos rfl]
      simp only [hselected, false_or, true_and, false_and, or_false, Bool.true_eq_false]
      constructor
      · rintro ⟨-, -, hapart⟩
        by_contra hmany
        refine hapart 98 (List.mem_cons_of_mem _ ?_) 98 (List.mem_singleton_self 98) rfl
        rw [List.mem_range'_1]
        omega
      · intro hfew
        refine ⟨nodup_first duplicates, List.nodup_singleton 98, fun a ha b hb => ?_⟩
        rw [List.mem_cons, List.mem_range'_1] at ha
        rw [List.mem_singleton] at hb
        omega
    | false =>
      rw [if_neg Bool.false_ne_true, List.nodup_append, List.nodup_append]
      simp only [hselected, false_or, true_and, false_and, Bool.false_eq_true, List.mem_cons,
        List.mem_append, List.mem_range'_1]
      constructor
      · rintro ⟨-, ⟨-, -, hapart⟩, -⟩
        by_contra hsome
        have hcalls := hresults hsome
        exact hapart (2 + duplicates + calls) (by omega) (2 + duplicates + calls) (by omega) rfl
      · intro hnone
        refine ⟨nodup_first duplicates,
          ⟨⟨List.nodup_range' 1 Nat.one_pos, List.nodup_range' 1 Nat.one_pos, fun a ha b hb => ?_⟩, List.nodup_range' 1 Nat.one_pos,
            fun a ha b hb => ?_⟩, fun a ha b hb => ?_⟩
        · omega
        · omega
        · omega

/-- What the review of a run selects and skips. -/
structure Found (texts : BriefingTexts) (budget : InvestigationBudget) (findings : Findings) where
  window : Window
  planned : List Candidate × List Python.Json
  recent : String → Option String
  hwindow : findings.window = .ok window
  hplanned : planInvestigationCandidates texts findings window budget = .ok planned
  hrecent : findings.recent = .ok recent

/-- The calls that are planned for the selected candidates. -/
def Found.plannedCalls (found : Found texts budget findings) : List ToolCall :=
  (buildToolCalls budget (selectedOf texts found.recent found.planned.1)).1

/-- No candidate is selected, or the deadline has been reached after at most 96 duplicates, or the
    evidence comes to no tool result. -/
def Found.Safe (found : Found texts budget findings) : Prop :=
  selectedOf texts found.recent found.planned.1 = [] ∨
  (findings.deadlineReached = true ∧ (duplicatesOf texts found.recent found.planned.1).length ≤ 96) ∨
  (findings.deadlineReached = false ∧ toolResults findings found.plannedCalls = [])

variable {run : BriefingRun} {env : ProfileEnvironment} {gatewayConfig : AiGatewayConfig}
  {gateway : Option AiGateway}

/-- The indices of a run that returns. -/
theorem records_runScheduledInvestigation :
    Records (runScheduledInvestigation texts run env budget findings gatewayConfig gateway)
      fun _ log => ∃ found : Found texts budget findings,
        Indexed run log (runIndices findings.deadlineReached
          (selectedOf texts found.recent found.planned.1).length
          (duplicatesOf texts found.recent found.planned.1).length found.plannedCalls.length
          (toolResults findings found.plannedCalls).length) := by
  unfold runScheduledInvestigation
  refine writes_bind (records_liftExcept _) fun window log hwindow => ?_
  obtain ⟨hwindow, rfl⟩ := hwindow
  refine writes_bind (records_persistStep _) fun _ log hplan => ?_
  refine writes_bind (records_liftExcept _) fun planned more hplanned => ?_
  obtain ⟨hplanned, rfl⟩ := hplanned
  refine writes_bind (records_liftExcept _) fun recent more hrecent => ?_
  obtain ⟨hrecent, rfl⟩ := hrecent
  refine writes_bind (records_reviewCandidates recent 2 planned.1) fun review reviewed hreview => ?_
  obtain ⟨hreviewed, hselected, hindex⟩ := hreview
  have hfirst := hplan.append hreviewed
  refine silent_audit.bind fun _ => ?_
  let found : Found texts budget findings := ⟨window, planned, recent, hwindow, hplanned, hrecent⟩
  have hlog {rest : List (Int × RunStep)} {indices : List Nat} (hrest : Indexed run rest indices)
      (hindices : (if (selectedOf texts recent planned.1).length = 0 then
          List.range' (2 + (duplicatesOf texts recent planned.1).length) 3
        else if findings.deadlineReached then [98]
        else
          (List.range' (2 + (duplicatesOf texts recent planned.1).length) found.plannedCalls.length ++
            List.range' (2 + (duplicatesOf texts recent planned.1).length + found.plannedCalls.length)
              (toolResults findings found.plannedCalls).length) ++
            List.range' (2 + (duplicatesOf texts recent planned.1).length +
              max 1 found.plannedCalls.length) ((selectedOf texts recent planned.1).length + 2)) =
        indices) :
      ∃ found : Found texts budget findings,
        Indexed run ([] ++ (log ++ ([] ++ ([] ++ (reviewed ++ rest)))))
          (runIndices findings.deadlineReached (selectedOf texts found.recent found.planned.1).length
            (duplicatesOf texts found.recent found.planned.1).length found.plannedCalls.length
            (toolResults findings found.plannedCalls).length) := by
    refine ⟨found, ?_⟩
    unfold runIndices
    rw [List.nil_append, List.nil_append, List.nil_append, ← List.append_assoc]
    refine hfirst.append ?_
    rw [hindices]
    exact hrest
  rw [hselected, hindex]
  split
  · next hnone =>
    have hlength := List.isEmpty_iff_length_eq_zero.mp hnone
    refine Writes.imp (records_step rfl (records_concludeInvestigation [] _)) fun _ rest hrest => ?_
    exact hlog hrest.1 (if_pos hlength)
  · next hsome =>
    have hlength : (selectedOf texts recent planned.1).length ≠ 0 :=
      fun h => hsome (List.isEmpty_iff_length_eq_zero.mpr h)
    split
    · next hdeadline =>
      unfold budgetExhausted
      refine writes_bind (records_persistStep _) fun _ rest hrest => ?_
      refine silent_updateBriefingContent.bind fun _ => writes_pure ?_
      rw [List.append_nil]
      exact hlog hrest ((if_neg hlength).trans (if_pos hdeadline))
    · next hdeadline =>
      refine writes_bind (records_collectEvidence _ _) fun evidence rest hevidence => ?_
      refine Writes.imp (records_concludeInvestigation _ _) fun _ last hlast => ?_
      rw [hevidence.2] at hlast
      exact hlog (hevidence.1.append hlast.1) ((if_neg hlength).trans (if_neg hdeadline))

/-- A result needs a call. -/
theorem toolResults_nil_of_nil {toolCalls : List ToolCall} (h : toolCalls.length = 0) :
    toolResults findings toolCalls = [] := by
  rw [List.length_eq_zero_iff] at h
  subst h
  rfl

/-- **The step trail**: a run that returns keeps every step it has recorded, under an index of its own,
    just where no candidate is selected, or the deadline has been reached after at most 96 duplicates,
    or the evidence comes to no tool result. -/
theorem keepsTrail_iff (table : StepTable) {trace : List BriefingExchange}
    {outcome : InvestigationOutcome}
    (h : (runScheduledInvestigation texts run env budget findings gatewayConfig gateway).run.Performs
      trace (.ok outcome)) :
    ∃ found : Found texts budget findings, KeepsTrail texts table trace ↔ found.Safe := by
  obtain ⟨found, hindexed⟩ := records_runScheduledInvestigation trace outcome h
  refine ⟨found, ?_⟩
  rw [keepsTrail_iff_nodup, hindexed.nodup_iff, nodup_runIndices]
  · unfold Found.Safe
    rw [List.length_eq_zero_iff, List.length_eq_zero_iff]
  · intro hresults hcalls
    rw [toolResults_nil_of_nil hcalls] at hresults
    exact hresults rfl

end Result

/-! ### Two runs -/

/-- Texts that say nothing. -/
def plainTexts : BriefingTexts where
  idempotencyKey := String.join
  floatText := fun _ => ""
  redact := fun value => value
  prompt := fun _ _ _ _ _ => ""
  repairPrompt := fun _ _ => ""
  parseJsonObject := fun _ => none
  deterministicSections := fun _ _ _ _ => .obj []
  ensureSections := fun sections _ _ _ => sections
  briefingSummary := fun _ _ _ _ => ""

def defaultBudget : InvestigationBudget where
  maxRuntimeSeconds := 45
  maxEntities := 8
  maxToolCalls := 12
  maxRowsPerTool := 25
  maxEvidenceRefs := 40
  maxPromptChars := 8000
  maxPromptTokens := 3000
  maxCompletionTokens := 1200
  maxEstimatedCostUsd := 0
  dedupHorizonHours := 24

def windowAlert : Candidate :=
  ⟨"alert", "7", "Alert 7", none, "fingerprint", [⟨"get_alert_detail", [("alert_id", 7)]⟩], .obj []⟩

def alertContext : ToolResult := ⟨"get_alert_detail", true, true, [.str "alert:7"], none, none⟩

/-- The given alerts are found, and the tools return the given results. -/
def findingsOf (alerts : List Candidate) (results : List ToolResult) : Findings where
  window := .ok ⟨.obj [], true⟩
  alerts := .ok alerts
  incidents := .ok []
  reconActivities := .ok []
  indicators := .ok []
  recent := .ok fun _ => none
  deadlineReached := false
  validateCall := fun toolCall => .ok ⟨toolCall.toolName, .obj []⟩
  execute := fun _ => .ok ⟨true, results, [], false, 0, none⟩

/-- Everything is stored, and no gateway answers. -/
def storingAnswer : (q : BriefingCall) → q.Reply
  | .gateway (.resolveConfig _) => .error .other
  | .gateway (.supports _ _) => .error .other
  | .gateway (.provide _ _ _) => .error .other
  | .gateway (.reserve _ _ _ _ _ _) => .error .other
  | .gateway (.settle _ _ _) => .error .other
  | .createRunStep _ _ => .ok ()
  | .updateBriefingContent _ _ => .ok ()
  | .audit _ _ _ => .ok ()

/-- An investigation while the gateway is disabled. -/
def disabledInvestigation (findings : Findings) : BriefingProg InvestigationOutcome :=
  runScheduledInvestigation plainTexts ⟨1, 1, 1⟩
    ⟨fun _ => "", fun _ value => value, fun _ value => value⟩ defaultBudget findings
    AiGatewayConfig.default none

def disabledRun (findings : Findings) : List BriefingExchange × Except AiRaised InvestigationOutcome :=
  (disabledInvestigation findings).run.respond storingAnswer

/-- The outcome of a disabled run. -/
def disabledOutcome (findings : Findings) : Option InvestigationOutcome :=
  (disabledRun findings).2.toOption

/-- A run whose tools return nothing keeps its trail. -/
theorem keepsTrail_iff_noResult :
    ∃ outcome, disabledOutcome (findingsOf [windowAlert] []) = some outcome ∧
      ∃ found : Found plainTexts defaultBudget (findingsOf [windowAlert] []),
        KeepsTrail plainTexts (fun _ _ => none) (disabledRun (findingsOf [windowAlert] [])).1 ↔
          found.Safe := by
  have hok : (disabledOutcome (findingsOf [windowAlert] [])).isSome = true := by decide +kernel
  obtain ⟨outcome, houtcome⟩ := Option.isSome_iff_exists.mp hok
  have hrun : (disabledRun (findingsOf [windowAlert] [])).2 = .ok outcome := by
    unfold disabledOutcome at houtcome
    cases hresult : (disabledRun (findingsOf [windowAlert] [])).2 with
    | ok value =>
      rw [hresult] at houtcome
      rw [Option.some.inj houtcome]
    | error raised =>
      rw [hresult] at houtcome
      cases houtcome
  have hperforms := performs_respond storingAnswer (disabledInvestigation (findingsOf [windowAlert] [])).run
  unfold disabledRun at hrun
  rw [hrun] at hperforms
  exact ⟨outcome, houtcome, keepsTrail_iff _ hperforms⟩

/-- A run with one alert and one result of its tool records that result and the result of the alert
    under the same index. -/
theorem repeatedIndex_lost :
    (disabledOutcome (findingsOf [windowAlert] [alertContext])).isSome = true ∧
    ¬ KeepsTrail plainTexts (fun _ _ => none) (disabledRun (findingsOf [windowAlert] [alertContext])).1 ∧
    (recorded (disabledRun (findingsOf [windowAlert] [alertContext])).1).map
      (fun entry => (entry.2.stepIndex, entry.2.stepType)) =
      [(1, .investigationPlan), (2, .socReadToolValidation), (3, .socReadTool),
        (3, .investigationCandidateResult), (4, .aiSynthesis), (5, .briefingPersisted)] := by
  refine ⟨by decide +kernel, fun h => ?_, by decide +kernel⟩
  have hnodup := h.distinct
  have hrepeated : ((recorded (disabledRun (findingsOf [windowAlert] [alertContext])).1).map stepKey) =
      [(1, 1), (1, 2), (1, 3), (1, 3), (1, 4), (1, 5)] := by decide +kernel
  rw [hrepeated] at hnodup
  revert hnodup
  decide

end SiemDashboard.StepTrail
