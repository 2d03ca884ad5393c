import SiemDashboard.Engines.StepVisits
import SiemDashboard.Verification.GateLog

/-!
# Branches go forward

A branch step records as skipped exactly the steps between itself and its target and goes on at the
target, a run visits its steps in strictly increasing order, and an execution that ends in success has
every step in its log, executed or skipped.

* **Branch steps** — `Target`, `SkipsBetween`, `BranchEnds`; `BranchesForward`.
* **Order** — `ResumedRun`: the visits of a pass and of the passes that resume it at its gates.
* **Coverage** — `Covered`, `Tracked`: the log has every step up to the last completed one.
* **Runs** — `coverage`, `branches_go_forward`.
-/

namespace SiemDashboard.ForwardBranches

open Atomic Python PlaybookRegistry BranchConditions PlaybookStore StepExecutor ApprovalGate

variable {py : Python}

/-! ## Branch steps -/

/-- The key under which a branch step names its target. -/
def gotoKey (result : Bool) : String := if result then "goto_true" else "goto_false"

/-- Where a branch step goes when its condition has this value: to the later step with the label it
    names, or to the next one where it names none for a false condition. -/
inductive Target (steps : List Json) (index : Nat) (step : Json) : Bool → Nat → Prop
  | labelled {result label target} (hlabel : (step.get (gotoKey result)).nonemptyStr? = some label)
      (htarget : buildLabelIndexMap steps label = some target) (hforward : index < target)
      (hinside : target < steps.length) : Target steps index step result target
  | through (h : step.get? "goto_false" = none) : Target steps index step false (index + 1)

/-- The entries record as skipped exactly the steps strictly between the two, once each. -/
structure SkipsBetween (index target : Nat) (entries : List LogEntry) : Prop where
  indices : entries.map (·.stepIndex) = (List.range' (index + 1) (target - (index + 1))).map some
  skipped : ∀ entry ∈ entries, entry.status = .skipped

/-- How an iteration at a branch step ends. -/
inductive BranchEnds (steps : List Json) (step : Json) (st : LoopState) : Flow → Prop
  | passedOver {st'} (hdone : stepAlreadySucceededInLog st.stepsLog st.index = true ∨
        stepAlreadySkippedInLog st.stepsLog st.index = true)
      (hlog : st'.stepsLog = st.stepsLog) (hindex : st'.index = st.index + 1) :
      BranchEnds steps step st (.next st')
  | taken {result target entry skips st'} (htarget : Target steps st.index step result target)
      (hentry : entry.stepIndex = some st.index) (hstatus : entry.status = .success)
      (hskips : SkipsBetween st.index target skips)
      (hlog : st'.stepsLog = st.stepsLog ++ entry :: skips) (hindex : st'.index = target) :
      BranchEnds steps step st (.next st')
  | failed {entry st'} (hentry : entry.stepIndex = some st.index) (hstatus : entry.status = .failed)
      (hlog : st'.stepsLog = st.stepsLog ++ [entry]) (hindex : st'.index = st.index + 1) :
      BranchEnds steps step st (.next st')
  | stopped {entry st'} (hentry : entry.stepIndex = some st.index) (hstatus : entry.status = .failed)
      (hlog : st'.stepsLog = st.stepsLog ++ [entry]) (hfailed : st'.failed = true) :
      BranchEnds steps step st (.stop st')
  | returned {r} : BranchEnds steps step st (.returned r)
  | raised {message} : BranchEnds steps step st (.raised message)

section Branch

variable {steps : List Json} {index : Nat} {step condition : Json} {result : Bool} {now : Int}

theorem buildLabelIndexMap_lt {label : String} {target : Nat}
    (h : buildLabelIndexMap steps label = some target) : target < steps.length := by
  unfold buildLabelIndexMap at h
  obtain ⟨entry, hentry, rfl⟩ := Option.map_eq_some_iff.mp h
  have hmem : (entry.1, entry.2) ∈ steps.zipIdx :=
    List.mem_reverse.mp (List.mem_of_find?_eq_some hentry)
  exact (List.getElem?_eq_some_iff.mp (List.mk_mem_zipIdx_iff_getElem?.mp hmem)).1

theorem resolveLabelTargetIndex_eq_some {label : String} {target : Nat} :
    resolveLabelTargetIndex steps label index = some target ↔
      buildLabelIndexMap steps label = some target ∧ index < target := by
  unfold resolveLabelTargetIndex
  cases h : buildLabelIndexMap steps label with
  | none => simp
  | some found =>
    dsimp only
    constructor
    · intro hresolved
      split at hresolved
      · cases hresolved
      · cases hresolved
        exact ⟨rfl, by omega⟩
    · rintro ⟨hfound, hforward⟩
      cases hfound
      rw [if_neg (by omega)]

theorem skipsBetween_skippedBranchStepEntries (target : Nat) :
    SkipsBetween index target (skippedBranchStepEntries steps (index + 1) target now) := by
  refine ⟨?_, fun entry hentry => ?_⟩
  · unfold skippedBranchStepEntries
    rw [List.map_map]
    rfl
  · obtain ⟨-, -, hskipped, -⟩ := skippedBranch_entry hentry
    exact hskipped

/-- A labelled goto that succeeds goes to the step with the label. -/
theorem gotoLabelled_target {label : String}
    (hlabel : (step.get (gotoKey result)).nonemptyStr? = some label)
    (hsuccess : (gotoLabelled py step index steps condition result label now).entry.status =
      .success) :
    Target steps index step result
      (gotoLabelled py step index steps condition result label now).nextIndex := by
  unfold gotoLabelled at hsuccess ⊢
  split at hsuccess
  · cases hsuccess
  · next target htarget =>
    obtain ⟨hfound, hforward⟩ := resolveLabelTargetIndex_eq_some.mp htarget
    exact .labelled hlabel hfound hforward (buildLabelIndexMap_lt hfound)

/-- An evaluated branch that succeeds goes to its target. -/
theorem gotoBranchTarget_target
    (hsuccess : (gotoBranchTarget py step index steps condition result now).entry.status =
      .success) :
    Target steps index step result
      (gotoBranchTarget py step index steps condition result now).nextIndex := by
  cases result with
  | true =>
    unfold gotoBranchTarget at hsuccess ⊢
    rw [if_pos rfl] at hsuccess ⊢
    cases hlabel : (step.get "goto_true").nonemptyStr? with
    | none =>
      rw [hlabel] at hsuccess
      cases hsuccess
    | some label =>
      rw [hlabel] at hsuccess
      exact gotoLabelled_target hlabel hsuccess
  | false =>
    unfold gotoBranchTarget at hsuccess ⊢
    rw [if_neg Bool.false_ne_true] at hsuccess ⊢
    cases hgoto : step.get? "goto_false" with
    | none => exact .through hgoto
    | some gotoFalse =>
      rw [hgoto] at hsuccess
      dsimp only at hsuccess ⊢
      cases hlabel : gotoFalse.nonemptyStr? with
      | none =>
        rw [hlabel] at hsuccess
        cases hsuccess
      | some label =>
        rw [hlabel] at hsuccess
        have hget : (step.get (gotoKey false)).nonemptyStr? = some label := by
          rw [show step.get (gotoKey false) = gotoFalse from get_of_get? hgoto]
          exact hlabel
        exact gotoLabelled_target hget hsuccess

theorem executeBranchStep_target {stepsLog : List LogEntry} {execution : Execution} :
    (executeBranchStep py step index steps stepsLog execution now).Issues (fun _ => True)
      (fun r => ∀ branch, r = .ok branch → branch.entry.status = .success →
        ∃ result, Target steps index step result branch.nextIndex) := by
  unfold executeBranchStep
  dsimp only
  split
  · refine Program.issues_pure ?_
    rintro _ ⟨⟩ hsuccess
    cases hsuccess
  · refine Program.issues_bind (Program.issues_true _) fun evaluated _ => ?_
    cases evaluated with
    | ok result =>
      refine Program.issues_pure ?_
      rintro _ ⟨⟩ hsuccess
      exact ⟨result, gotoBranchTarget_target hsuccess⟩
    | error fault =>
      cases fault with
      | raised message =>
        refine Program.issues_pure ?_
        rintro _ ⟨⟩
      | error code message =>
        refine Program.issues_pure ?_
        rintro _ ⟨⟩ hsuccess
        cases hsuccess

/-- In an accepted list a branch that is evaluated goes to its target; only an explicit null that a
    false condition leads to fails it. -/
theorem gotoBranchTarget_success (h : AcceptedBranch steps index step)
    (hgoto : result = true ∨ step.get? "goto_false" ≠ some .null) :
    (gotoBranchTarget py step index steps condition result now).entry.status = .success := by
  have hlabelled {label : String} (hlabel : ForwardLabel steps index label) :
      (gotoLabelled py step index steps condition result label now).entry.status = .success := by
    obtain ⟨target, htarget⟩ := hlabel
    unfold gotoLabelled
    rw [resolveLabelTargetIndex_eq_some.mpr htarget]
    rfl
  cases result with
  | true =>
    obtain ⟨label, hlabel, hforward⟩ := h.gotoTrue
    unfold gotoBranchTarget
    rw [if_pos rfl, hlabel]
    exact hlabelled hforward
  | false =>
    unfold gotoBranchTarget
    rw [if_neg Bool.false_ne_true]
    cases hget : step.get? "goto_false" with
    | none => rfl
    | some gotoFalse =>
      have hvalue : step.get "goto_false" = gotoFalse := get_of_get? hget
      rcases h.gotoFalse with hnull | ⟨label, hlabel, hforward⟩
      · have hexplicit : step.get? "goto_false" = some .null := by
          rw [hget, ← hvalue, hnull]
        exact absurd hexplicit (hgoto.resolve_left Bool.false_ne_true)
      · rw [hvalue] at hlabel
        dsimp only
        rw [hlabel]
        exact hlabelled hforward

end Branch

section Iteration

variable {pass : Pass} {st : LoopState} {step : Json}

theorem afterFailure_branchEnds {entry : LogEntry} {message : Json}
    (hentry : entry.stepIndex = some st.index) (hstatus : entry.status = .failed) :
    BranchEnds pass.steps step st (afterFailure step st (st.stepsLog ++ [entry]) message) := by
  unfold afterFailure
  dsimp only
  split
  · exact .failed hentry hstatus rfl rfl
  · exact .stopped hentry hstatus rfl rfl

theorem processBranchStep_ends (haction : step.get "action" = .str "branch") :
    (processBranchStep py pass step st).Issues (fun _ => True) (BranchEnds pass.steps step st) := by
  have hexecuted : (executeBranchStep py step st.index pass.steps st.stepsLog pass.execution
      pass.timestamp).Issues (fun _ => True) (fun r => (∀ branch, r = .ok branch →
        branch.entry.status = .success →
          ∃ result, Target pass.steps st.index step result branch.nextIndex) ∧
        ∀ branch, r = .ok branch → BranchOk pass.steps st.index step pass.timestamp branch) :=
    executeBranchStep_target.and (executeBranchStep_issues haction)
  unfold processBranchStep
  refine Program.issues_bind hexecuted fun r hr => ?_
  cases r with
  | error message => exact Program.issues_pure .raised
  | ok branch =>
    obtain ⟨hentry, -, hskips, hfailed⟩ := hr.2 branch rfl
    refine Program.issues_bind (Program.issues_true _) fun _ _ => ?_
    split
    · next hstatus =>
      obtain ⟨result, htarget⟩ := hr.1 branch rfl hstatus
      unfold saveProgress
      refine Program.issues_call_bind trivial fun saved => ?_
      cases saved with
      | none => exact Program.issues_pure .returned
      | some row =>
        have hbetween : SkipsBetween st.index branch.nextIndex branch.skipEntries := by
          rw [hskips]
          exact skipsBetween_skippedBranchStepEntries _
        refine Program.issues_pure (.taken htarget hentry.index_eq hstatus hbetween ?_ rfl)
        rw [List.append_assoc, List.singleton_append]
    · next hstatus =>
      have hnone : branch.skipEntries = [] := by
        rw [hskips, hfailed hstatus]
        simp [skippedBranchStepEntries]
      rw [hnone, List.append_nil]
      exact Program.issues_pure
        (afterFailure_branchEnds hentry.index_eq (hentry.status_cases.resolve_left hstatus))

/-- An iteration at a branch step. -/
theorem processStep_branchEnds (haction : step.get "action" = .str "branch") :
    (processStep py pass step st).Issues (fun _ => True) (BranchEnds pass.steps step st) := by
  unfold processStep
  split
  · next hdone => exact Program.issues_pure (.passedOver (.inl hdone) rfl rfl)
  · split
    · next hdone => exact Program.issues_pure (.passedOver (.inr hdone) rfl rfl)
    · refine Program.issues_call_bind trivial fun beat => ?_
      cases beat with
      | none => exact Program.issues_pure .returned
      | some row =>
        refine Program.issues_call_bind trivial fun _ => ?_
        unfold executeStep
        rw [haction]
        exact processBranchStep_ends haction

end Iteration

/-- What holds of every branch step of a list: an iteration at it ends as it should, and where its
    condition is evaluated it goes to its target. -/
structure BranchesForward (py : Python) (steps : List Json) : Prop where
  ends : ∀ (pass : Pass) (st : LoopState) (step : Json), pass.steps = steps →
    steps[st.index]? = some step → step.get "action" = .str "branch" →
      (processStep py pass step st).Issues (fun _ => True) (BranchEnds steps step st)
  evaluated : ∀ (index : Nat) (step condition : Json) (result : Bool) (now : Int),
    steps[index]? = some step → step.get "action" = .str "branch" →
      (result = true ∨ step.get? "goto_false" ≠ some .null) →
        (gotoBranchTarget py step index steps condition result now).entry.status = .success

theorem branchesForward_of_valid {steps : List Json} {playbookId : Option String}
    (hvalid : validatePlaybookSteps py (.arr steps) playbookId = .ok []) :
    BranchesForward py steps := by
  refine ⟨fun pass st step hsteps _ haction => ?_,
    fun index step condition result now hstep haction hgoto => ?_⟩
  · rw [← hsteps]
    exact processStep_branchEnds haction
  · obtain ⟨-, raw, name, hraw, hname, hbranch⟩ := accepted_of_valid hvalid hstep
    have hsame : raw = "branch" := Json.str.inj (hraw.symm.trans haction)
    rw [hsame, resolve_known (by decide)] at hname
    exact gotoBranchTarget_success (hbranch (Except.ok.inj hname).symm) hgoto

/-! ## Order -/

/-- A run of an execution, up to the log it is paused with, if it is paused, with the steps it has
    visited: a pass, and the passes that resume it at the gates it pauses at.  Passes that find a
    request still pending visit nothing. -/
inductive ResumedRun (py : Python) : Option (List LogEntry) → List Nat → Prop
  | first {row now prior w duration trace r}
      (h : (processRunningExecution py row now prior w duration).Performs trace r) :
      ResumedRun py (pausedWith (trace.filterMap mark?)) (visits (trace.filterMap mark?))
  | resumed {stepsLog visited row now w duration trace r}
      (hrun : ResumedRun py (some stepsLog) visited) (hrow : row.stepsLog = stepsLog)
      (h : (processAwaitingApprovalExecution py row now w duration).Performs trace r) :
      ResumedRun py (pausedWith (trace.filterMap mark?))
        (visited ++ visits (trace.filterMap mark?))

/-- A run visits its steps in strictly increasing order, and pauses at its last one. -/
theorem ResumedRun.ordered {paused : Option (List LogEntry)} {visited : List Nat}
    (h : ResumedRun py paused visited) :
    visited.Pairwise (· < ·) ∧ ∀ stepsLog ∈ paused, ∃ gate, latestGate stepsLog = some gate ∧
      ∀ index ∈ visited, index ≤ gate := by
  induction h with
  | first h =>
    obtain ⟨length, hordered⟩ := processRunningExecution_marks _ _ h
    refine ⟨hordered.sorted, fun stepsLog hpaused => ?_⟩
    obtain ⟨gate, hgate, -, hvisits⟩ := hordered.le_gate hpaused
    exact ⟨gate, hgate, hvisits⟩
  | @resumed stepsLog visited row _ _ _ trace _ _ hrow h ih =>
    obtain ⟨hsorted, hpaused⟩ := ih
    obtain ⟨gate, hgate, hearlier⟩ := hpaused stepsLog rfl
    rw [← hrow] at hgate
    obtain ⟨length, hordered⟩ := processAwaitingApprovalExecution_marks _ _ h gate hgate
    have hlater (index : Nat) (hindex : index ∈ visits (trace.filterMap mark?)) : gate < index :=
      (hordered.mem_visits index hindex).1
    refine ⟨List.pairwise_append.mpr ⟨hsorted, hordered.sorted, fun i hi j hj => ?_⟩,
      fun stepsLog hstepsLog => ?_⟩
    · have hle := hearlier i hi
      have hlt := hlater j hj
      omega
    · obtain ⟨gate', hgate', hfirst, hvisits⟩ := hordered.le_gate hstepsLog
      refine ⟨gate', hgate', fun index hindex => ?_⟩
      rcases List.mem_append.mp hindex with hbefore | hafter
      · have hle := hearlier index hbefore
        omega
      · exact hvisits index hafter

/-! ## Coverage -/

def Covered (log : List LogEntry) (i : Nat) : Prop := ∃ entry ∈ log, entry.stepIndex = some i

/-- The log has an entry that says the step was executed. -/
def Executed (log : List LogEntry) (i : Nat) : Prop :=
  ∃ entry ∈ log, entry.stepIndex = some i ∧ entry.status ≠ .skipped

/-- The log has every step below. -/
def CoveredBelow (log : List LogEntry) (n : Nat) : Prop := ∀ i < n, Covered log i

/-- The log has every step up to the last completed one, and every step before a gate it requests. -/
structure Tracked (log : List LogEntry) (lastStep : Option Int) : Prop where
  requested : ∀ entry ∈ log, ∀ gate, gateIndex? entry = some gate → CoveredBelow log gate
  below : CoveredBelow log (resumeStart lastStep)

section Logs

variable {log added : List LogEntry} {lastStep : Option Int} {i n : Nat} {entry : LogEntry}

theorem Covered.executed_or_skipped (h : Covered log i) :
    Executed log i ∨ stepAlreadySkippedInLog log i = true := by
  obtain ⟨entry, hentry, hindex⟩ := h
  by_cases hskipped : entry.status = .skipped
  · exact .inr (List.any_eq_true.mpr ⟨entry, hentry, by simp [hindex, hskipped]⟩)
  · exact .inl ⟨entry, hentry, hindex, hskipped⟩

theorem Covered.append (h : Covered log i) : Covered (log ++ added) i := by
  obtain ⟨entry, hentry, hindex⟩ := h
  exact ⟨entry, List.mem_append_left _ hentry, hindex⟩

theorem CoveredBelow.append (h : CoveredBelow log n) : CoveredBelow (log ++ added) n :=
  fun i hlt => (h i hlt).append

theorem CoveredBelow.of_le {m : Nat} (h : CoveredBelow log n) (hle : m ≤ n) : CoveredBelow log m :=
  fun i hlt => h i (by omega)

theorem CoveredBelow.succ (h : CoveredBelow log n) (hn : Covered log n) :
    CoveredBelow log (n + 1) := by
  intro i hlt
  rcases Nat.lt_succ_iff_lt_or_eq.mp hlt with hbelow | rfl
  · exact h i hbelow
  · exact hn

theorem coveredBelow_zero : CoveredBelow log 0 := fun i hlt => absurd hlt (Nat.not_lt_zero i)

theorem tracked_nil : Tracked [] none := ⟨List.forall_mem_nil _, coveredBelow_zero⟩

/-- Entries that request no gate may be added, and the last completed step may move to one that the
    log then reaches. -/
theorem Tracked.append {last : Option Int} (h : Tracked log lastStep)
    (hnone : ∀ entry ∈ added, gateIndex? entry = none)
    (hbelow : CoveredBelow (log ++ added) (resumeStart last)) : Tracked (log ++ added) last := by
  refine ⟨fun entry hentry gate hgate => ?_, hbelow⟩
  rcases List.mem_append.mp hentry with hbefore | hadded
  · exact (h.requested entry hbefore gate hgate).append
  · rw [hnone entry hadded] at hgate
    cases hgate

theorem Tracked.append_plain (h : Tracked log lastStep) (hplain : ∀ entry ∈ added, Plain entry) :
    Tracked (log ++ added) lastStep :=
  h.append (fun entry hentry => (hplain entry hentry).no_gate) h.below.append

theorem Tracked.append_failure (h : Tracked log lastStep) (hnote : FailureNote entry) :
    Tracked (log ++ [entry]) lastStep :=
  h.append_plain fun _ hmem => List.mem_singleton.mp hmem ▸ FailureNote.plain hnote

theorem skippedLater_no_gate {steps : List Json} {start : Nat} {reason : String} {now : Int} :
    ∀ entry ∈ skippedLaterStepEntries steps start reason now, gateIndex? entry = none := by
  intro entry hentry
  obtain ⟨k, -, rfl⟩ := List.mem_map.mp hentry
  exact gateIndex?_of_event fun h => by cases h

/-- The gate that a pass resumes at, and all before it, are in the log. -/
theorem Tracked.gate (h : Tracked log lastStep) {gate : Nat} (hgate : latestGate log = some gate) :
    CoveredBelow log (gate + 1) := by
  obtain ⟨entry, hentry, hindex⟩ := latestGate_mem hgate
  refine (h.requested entry hentry gate hindex).succ ⟨entry, hentry, ?_⟩
  unfold gateIndex? at hindex
  split at hindex
  · exact hindex
  · cases hindex

end Logs

/-! ## Runs -/

/-- The log has every step of the stored execution's playbook. -/
def Complete (db : Db) (id : Nat) (log : List LogEntry) : Prop :=
  ∀ row, db.execution? id = some row → CoveredBelow log (stepsOf db row.playbookId).length

/-- What a phase has in hand is tracked, the loop has left nothing out before its step, and a success
    that is about to be written again is complete. -/
def Traced (db : Db) : Phase → Prop
  | .viewed row => Tracked row.stepsLog row.lastCompletedStep
  | .gated row gate _ _ =>
    Tracked row.stepsLog row.lastCompletedStep ∧ latestGate row.stepsLog = some gate
  | .held row _ start log savedStep =>
    Tracked log row.lastCompletedStep ∧ Tracked log savedStep ∧ CoveredBelow log start
  | .undefined row log => Tracked log row.lastCompletedStep
  | .working _ _ _ _ st =>
    Tracked st.stepsLog st.lastCompletedStep ∧ CoveredBelow st.stepsLog st.index
  | .missed final id log lastStep | .unowned final id log lastStep =>
    Tracked log lastStep ∧ (final = .success → Complete db id log)
  | .free | .concluded .. | .due .. => True

/-- The progress of every execution is tracked. -/
def AllTracked (db : Db) : Prop :=
  ∀ e row, db.execution? e = some row → Tracked row.stepsLog row.lastCompletedStep

section Step

variable {w : World} {q : Stmt} {db : Db} {a : Actor} {g g' : Phase}

theorem ends_tracked {final : FinalStatus} {id : Nat} {log : List LogEntry} {lastStep : Option Int}
    (htraced : Traced db g) (hends : Ends g final id log lastStep) : Tracked log lastStep := by
  cases hends with
  | succeeded | failed => exact htraced.1
  | undefinedPlaybook hnote => exact tracked_nil.append_failure hnote
  | undefinedResume hnote => exact Tracked.append_failure htraced hnote
  | noGate _ hnote => exact Tracked.append_failure htraced hnote
  | noRequest hnote => exact htraced.1.append_failure hnote
  | closed _ hnotes =>
    have hnoted := htraced.1.append_plain (plain_notes hnotes)
    exact hnoted.append skippedLater_no_gate hnoted.below.append

/-- A success is written at the end of the list only. -/
theorem ends_complete {id : Nat} {log : List LogEntry} {lastStep : Option Int}
    (hattached : Attached db g) (htraced : Traced db g) (hends : Ends g .success id log lastStep) :
    Complete db id log := by
  cases hends with
  | @succeeded row steps _ _ st _ hend =>
    intro stored hstored
    have hsteps : steps = stepsOf db stored.playbookId := by
      rw [hattached.2, hattached.1.playbookId hstored]
    rw [← hsteps]
    exact htraced.2.of_le hend

theorem resumes_tracked {row : Execution} {gate : Nat} {request : ApprovalRequest}
    {known : Option (List Json)} {log : List LogEntry}
    (htracked : Tracked row.stepsLog row.lastCompletedStep)
    (hgate : latestGate row.stepsLog = some gate) (hresumes : Resumes row gate request known log) :
    Tracked log (some (gate : Int)) := by
  cases hresumes with
  | notes _ hnotes =>
    refine htracked.append (fun entry hentry => (plain_notes hnotes entry hentry).no_gate) ?_
    rw [resumeStart_natCast]
    exact (htracked.gate hgate).append

/-- What a pass saves after a step that succeeded, and where it goes on. -/
theorem saves_tracked {steps : List Json} {st : LoopState} {log : List LogEntry} {next : Nat}
    (htracked : Tracked st.stepsLog st.lastCompletedStep)
    (hbelow : CoveredBelow st.stepsLog st.index) (hsaves : Saves steps st log next) :
    Tracked log (some (st.index : Int)) ∧ CoveredBelow log next := by
  cases hsaves with
  | @step step entry next now hat hentry hstatus hnext =>
    have hdone : CoveredBelow
        (st.stepsLog ++ entry :: skippedBranchStepEntries steps (st.index + 1) next now)
        (st.index + 1) :=
      hbelow.append.succ
        ⟨entry, List.mem_append_right _ List.mem_cons_self, hentry.index_eq⟩
    refine ⟨htracked.append (fun added hadded => ?_) ?_, fun i hlt => ?_⟩
    · rcases List.mem_cons.mp hadded with rfl | hskip
      · exact gateIndex?_of_event hentry.event_ne
      · obtain ⟨-, -, -, -, hnone⟩ := skippedBranch_entry hskip
        exact hnone
    · rw [resumeStart_natCast]
      exact hdone
    · by_cases hle : i < st.index + 1
      · exact hdone i hle
      · obtain ⟨skip, hmem, hindex, -⟩ : SkippedByBranch
            (skippedBranchStepEntries steps (st.index + 1) next now) i :=
          mem_skippedBranch (not_lt.mp hle) hlt
        exact ⟨skip, List.mem_append_right _ (List.mem_cons_of_mem _ hmem), hindex⟩

theorem pauses_tracked {steps : List Json} {st : LoopState} {log : List LogEntry}
    (htracked : Tracked st.stepsLog st.lastCompletedStep)
    (hbelow : CoveredBelow st.stepsLog st.index) (hpauses : Pauses steps st log) :
    Tracked log st.lastCompletedStep := by
  cases hpauses with
  | gate =>
    refine ⟨fun entry hentry gate hgate => ?_, htracked.below.append⟩
    rcases List.mem_append.mp hentry with hbefore | hrequest
    · exact (htracked.requested entry hbefore gate hgate).append
    · cases List.mem_singleton.mp hrequest
      cases hgate
      exact hbelow.append

/-- The progress that a statement writes is tracked. -/
theorem written_tracked (hmove : Move py a g q (exec w q db).1 g') (htraced : Traced db g)
    {e : Nat} {log : List LogEntry} {lastStep : Option Int}
    (hwritten : written q = some (e, log, lastStep)) : Tracked log lastStep := by
  cases hmove with
  | neutral h => cases h <;> cases hwritten
  | operator h => cases h <;> cases hwritten
  | refused h => cases h <;> cases hwritten
  | resume _ hresumes | unresumed _ hresumes =>
    cases hwritten
    exact resumes_tracked htraced.1 htraced.2 hresumes
  | save _ hsaves | unsaved _ hsaves =>
    cases hwritten
    exact (saves_tracked htraced.1 htraced.2 hsaves).1
  | pause hpauses =>
    cases hwritten
    exact pauses_tracked htraced.1 htraced.2 hpauses
  | conclude hends | miss hends =>
    cases hwritten
    exact ends_tracked htraced hends
  | concludeUnowned | unconcluded =>
    cases hwritten
    exact htraced.1
  | _ => cases hwritten

theorem AllTracked.exec (hdb : AllTracked db)
    (hwrites : ∀ e log lastStep, written q = some (e, log, lastStep) → Tracked log lastStep) :
    AllTracked (exec w q db).2 := by
  intro e row' hrow'
  obtain hsame | ⟨row, hrow, hstep⟩ | ⟨-, -, new, -, rfl, -⟩ := exec_row hrow'
  · exact hdb e row' hsame
  · obtain ⟨hlog, hlast⟩ | ⟨hwritten, -⟩ := hstep.progress
    · rw [hlog, hlast]
      exact hdb e row hrow
    · exact hwrites _ _ _ hwritten
  · exact tracked_nil

theorem Complete.exec {id : Nat} {log : List LogEntry} (hstored : ∃ row, db.execution? id = some row)
    (h : Complete db id log) : Complete (exec w q db).2 id log := by
  intro row' hrow'
  obtain ⟨row, hrow⟩ := hstored
  obtain ⟨row'', hrow'', rfl | hstep⟩ := exec_keeps (w := w) (q := q) hrow
  · cases hrow'.symm.trans hrow''
    rw [stepsOf_exec]
    exact h _ hrow
  · cases hrow'.symm.trans hrow''
    rw [stepsOf_exec, hstep.sameLineage.playbookId]
    exact h row hrow

theorem Traced.exec (hattached : Attached db g) (htraced : Traced db g) :
    Traced (exec w q db).2 g := by
  cases g with
  | missed | unowned => exact ⟨htraced.1, fun hfinal => (htraced.2 hfinal).exec hattached⟩
  | _ => exact htraced

theorem Traced.silent (htraced : Traced db g) (hsilent : (protocol py a).silent g g') :
    Traced db g' := by
  cases hsilent with
  | ended | unrecorded => trivial
  | @unlinked final => cases final <;> trivial
  | @succeededBefore row steps saved savedStep st _ hsucceeded =>
    obtain ⟨entry, hentry, hstatus⟩ := List.any_eq_true.mp hsucceeded
    simp only [Bool.and_eq_true, decide_eq_true_eq] at hstatus
    have hnext : CoveredBelow st.stepsLog (st.index + 1) :=
      htraced.2.succ ⟨entry, hentry, hstatus.1⟩
    exact ⟨⟨htraced.1.requested, by rw [resumeStart_natCast]; exact hnext⟩, hnext⟩
  | @skippedBefore row steps saved savedStep st _ hskipped =>
    obtain ⟨entry, hentry, hstatus⟩ := List.any_eq_true.mp hskipped
    simp only [Bool.and_eq_true, decide_eq_true_eq] at hstatus
    exact ⟨htraced.1, htraced.2.succ ⟨entry, hentry, hstatus.1⟩⟩
  | @stepFailed row steps saved savedStep st step entry next _ _ _ hentry hstatus hnext =>
    have hplain : ∀ note ∈ [entry], Plain note := fun note hmem =>
      List.mem_singleton.mp hmem ▸ plain_of_failed hstatus hentry.event_ne
    refine ⟨htraced.1.append_plain hplain, ?_⟩
    rcases hnext with rfl | ⟨rfl, -⟩
    · exact htraced.2.append
    · exact htraced.2.append.succ
        ⟨entry, List.mem_append_right _ (List.mem_singleton.mpr rfl), hentry.index_eq⟩

/-- A statement leaves its own actor's progress tracked. -/
theorem Traced.move (hmove : Move py a g q (SiemDashboard.exec w q db).1 g')
    (hattached : Attached db g) (hdb : AllTracked db) (htraced : Traced db g) :
    Traced (SiemDashboard.exec w q db).2 g' := by
  have hafter : AllTracked (SiemDashboard.exec w q db).2 :=
    hdb.exec fun _ _ _ => written_tracked hmove htraced
  have hheld {row : Execution}
      (h : (SiemDashboard.exec w q db).2.execution? row.id = some row) :
      Traced (SiemDashboard.exec w q db).2
        (.held row row.playbookId (resumeProgress row).1 row.stepsLog (resumeProgress row).2) := by
    have htracked := hafter row.id row h
    refine ⟨htracked, ⟨htracked.requested, ?_⟩, ?_⟩
    · rw [resumeStart_resumeProgress]
      exact htracked.below
    · rw [resumeProgress_fst]
      exact htracked.below
  cases hmove with
  | neutral | beat | release | begin => exact htraced.exec hattached
  | view hr => exact hafter _ _ (exec_getExecution hr).2
  | rejoin hr => exact hheld (exec_getExecution hr).2
  | lease hr =>
    obtain ⟨-, -, -, h⟩ := exec_changedRow (.acquireLease ..) hr
    exact hheld h
  | claim hr =>
    obtain ⟨-, -, -, h⟩ := exec_changedRow (.claimNext ..) hr
    exact hheld h
  | ask hgate => exact ⟨htraced, hgate⟩
  | consult => exact htraced
  | @resume _ _ gate _ known log _ _ _ row' hr =>
    obtain ⟨row, -, hstep, h⟩ := exec_changedRow (.acquireResumeLease ..) hr
    have htracked := hafter row'.id row' h
    cases hstep with
    | resumed _ _ _ _ hrow' =>
      have hlog : row'.stepsLog = log := by rw [hrow']; rfl
      have hlast : row'.lastCompletedStep = some (gate : Int) := by rw [hrow']; rfl
      rw [hlog, hlast] at htracked
      have hbelow : CoveredBelow log (gate + 1) := by
        rw [← resumeStart_natCast gate]
        exact htracked.below
      cases known with
      | none => exact ⟨hlast ▸ htracked, htracked, hbelow⟩
      | some steps => exact ⟨htracked, hbelow⟩
  | define _ _ hhi => exact ⟨htraced.2.1, htraced.2.2.of_le hhi⟩
  | noDefinition => exact htraced.1
  | save _ hsaves => exact saves_tracked htraced.1 htraced.2 hsaves
  | miss hends =>
    refine ⟨ends_tracked htraced hends, fun hfinal => ?_⟩
    subst hfinal
    obtain ⟨row, rfl, stored, hstored, -⟩ := hattached.ends hends
    exact (ends_complete hattached htraced hends).exec ⟨stored, hstored⟩
  | recheck => exact htraced
  | @tell _ final => cases final <;> trivial
  | _ => trivial

/-- A statement that makes an execution a success leaves a complete log. -/
theorem success_complete (hmove : Move py a g q (exec w q db).1 g') (hattached : Attached db g)
    (htraced : Traced db g) {e : Nat} {row row' : Execution} (hrow : db.execution? e = some row)
    (hstep : RowStep q (exec w q db).1 row row') (hbefore : row.status ≠ .success)
    (hsuccess : row'.status = .success) :
    CoveredBelow row'.stepsLog (stepsOf db row.playbookId).length := by
  have hkey : row.id = e := db.executions.keyed e row hrow
  cases hstep with
  | leased _ _ _ _ hrow' | claimed _ _ _ hrow' | resumed _ _ _ _ hrow' | paused _ _ _ hrow'
  | abandoned _ _ _ hrow' | permanentlyFailed _ _ _ hrow' =>
    subst hrow'
    cases hsuccess
  | extended _ _ _ _ _ hrow' | released _ _ _ hrow' | stepLogged _ _ _ hrow'
  | linked _ hrow' =>
    subst hrow'
    exact absurd hsuccess hbefore
  | recovered _ _ _ _ hrow' =>
    rw [hrow'] at hsuccess
    unfold recovered at hsuccess
    split at hsuccess <;> cases hsuccess
  | statusSet _ hrow' =>
    cases hmove with
    | neutral h => cases h
    | refused h => cases h
    | operator h =>
      cases h
      rw [hrow'] at hsuccess
      cases hsuccess
  | @finalized final _ _ _ _ _ _ _ _ hid hr _ hrow' =>
    have hfinal : final = .success := by
      rw [hrow'] at hsuccess
      cases final with
      | success => rfl
      | failed => cases hsuccess
      | notActioned => cases hsuccess
    subst hfinal
    rw [hrow']
    rw [← hkey, hid] at hrow
    cases hmove with
    | neutral h => cases h
    | operator h => cases h
    | refused h => cases h
    | miss _ hnone => cases hr.symm.trans hnone
    | unconcluded hnone => cases hr.symm.trans hnone
    | conclude hends => exact ends_complete hattached htraced hends row hrow
    | concludeUnowned => exact htraced.2 rfl row hrow

end Step

variable (py) in
/-- Every phase stays tracked, and the playbook keeps its steps. -/
def coverage (playbookId : String) (steps : List Json) :
    Discipline (refinement py) (fun _ _ => True) :=
  (attachment py (fun _ _ => True)).extend
    { Global := fun db => AllTracked db ∧ stepsOf db playbookId = steps
      Local := fun db _ g => Traced db g
      between := fun _ _ _ => trivial
      slide := fun _ _ _ _ _ _ htraced hsilent => htraced.silent hsilent
      step := fun _ _ a _ _ _ hat _ _ hattached hdb htraced =>
        ⟨⟨hdb.1.exec fun _ _ _ => written_tracked hat.step (htraced a),
            (stepsOf_exec playbookId).trans hdb.2⟩,
          (htraced a).move hat.step (hattached a) hdb.1,
          fun b _ => (htraced b).exec (hattached b)⟩ }

/-- A playbook whose branch skips a step where its condition is false. -/
def reviewPlaybook : List Json :=
  [ .obj [("action", .str "monitor")],
    .obj [ ("action", .str "branch"), ("goto_true", .str "review"), ("goto_false", .str "close"),
      ("condition", .obj [ ("source", .str "previous_step"), ("field", .str "status"),
        ("op", .str "=="), ("value", .str "failed") ]) ],
    .obj [("action", .str "flag_high_priority"), ("label", .str "review")],
    .obj [("action", .str "monitor"), ("label", .str "close")] ]

/-- The log of the first execution of that playbook, and how it ends. -/
example : (((system mutePython).run (.idle (.ofPlaybook "p" reviewPlaybook))
    (firstPass 20)).shared.execution? 1).map (fun row =>
      (row.status, row.stepsLog.map fun entry => (entry.stepIndex, entry.status))) =
    some (.success, [(some 0, .success), (some 1, .success), (some 2, .skipped),
      (some 3, .success)]) := by
  decide +kernel

end SiemDashboard.ForwardBranches
