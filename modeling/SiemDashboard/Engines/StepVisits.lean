import SiemDashboard.Engines.PlaybookStepExecutor
import SiemDashboard.Engines.StepContracts

/-!
# The steps a pass visits

Which steps a pass of the executor starts, in which order, and with which log it pauses, whatever
its statements are answered.

* **Marks** — `Mark`, `mark?`, `visits`, `pausedWith`; `Ordered`: the steps come in strictly
  increasing order, and only the last one may be a gate to pause at.
* **One iteration** — `AfterBegin`, and one `…_marks` lemma for each function of the loop.
* **The loop** — `processLoop_marks`: it ends at the end of the list, or at a step that failed.
* **Passes** — `processAwaitingApprovalExecution_marks`: a pass that resumes at a gate visits later
  steps only.
-/

namespace SiemDashboard.StepExecutor

open Atomic Python PlaybookStore ApprovalStore DeadLetterStore

/-! ## Marks -/

/-- What a pass shows of its progress: it starts a step, or pauses with a log. -/
inductive Mark where
  | visit (index : Nat)
  | pause (stepsLog : List LogEntry)

/-- The mark that a statement leaves. -/
def mark? : Exchange Reply → Option Mark
  | ⟨.beginStep _ index _, _⟩ => some (.visit index)
  | ⟨.setAwaitingApproval _ stepsLog _ _, some _⟩ => some (.pause stepsLog)
  | _ => none

/-- The step a mark visits. -/
def Mark.index? : Mark → Option Nat
  | .visit index => some index
  | .pause _ => none

/-- The log a mark pauses with. -/
def Mark.stepsLog? : Mark → Option (List LogEntry)
  | .visit _ => none
  | .pause stepsLog => some stepsLog

/-- The steps that are visited. -/
abbrev visits (marks : List Mark) : List Nat := marks.filterMap Mark.index?

abbrev pausedWith (marks : List Mark) : Option (List LogEntry) := marks.findSome? Mark.stepsLog?

/-- The steps visited are in strictly increasing order, from `start` on and below `length`; a pause
    comes last and right after its gate, which is the latest one of its log. -/
inductive Ordered (length : Nat) : Nat → List Mark → Prop
  | done {start} : Ordered length start []
  | visit {start index marks} (hle : start ≤ index) (hlt : index < length)
      (hrest : Ordered length (index + 1) marks) : Ordered length start (.visit index :: marks)
  | paused {start index stepsLog} (hle : start ≤ index) (hlt : index < length)
      (hgate : latestGate stepsLog = some index) :
      Ordered length start [.visit index, .pause stepsLog]

section

variable {length start start' : Nat} {marks : List Mark}

theorem Ordered.mono (h : Ordered length start marks) (hle : start' ≤ start) :
    Ordered length start' marks := by
  cases h with
  | done => exact .done
  | visit hstart hlt hrest => exact .visit (by omega) hlt hrest
  | paused hstart hlt hgate => exact .paused (by omega) hlt hgate

/-- A start after the end of the list visits nothing. -/
theorem Ordered.of_min (h : Ordered length (min start length) marks) :
    Ordered length start marks := by
  cases h with
  | done => exact .done
  | visit hle hlt hrest => exact .visit (by omega) hlt hrest
  | paused hle hlt hgate => exact .paused (by omega) hlt hgate

/-- The steps visited are in range. -/
theorem Ordered.mem_visits (h : Ordered length start marks) :
    ∀ index ∈ visits marks, start ≤ index ∧ index < length := by
  induction h with
  | done => simp
  | @visit start first marks hle hlt _ ih =>
    intro index hindex
    rcases List.mem_cons.mp hindex with rfl | hrest
    · exact ⟨hle, hlt⟩
    · have hlater := ih index hrest
      exact ⟨by omega, hlater.2⟩
  | @paused start gate stepsLog hle hlt _ =>
    intro index hindex
    have hsame : index = gate := List.mem_singleton.mp hindex
    subst hsame
    exact ⟨hle, hlt⟩

/-- The steps visited are in strictly increasing order. -/
theorem Ordered.sorted (h : Ordered length start marks) : (visits marks).Pairwise (· < ·) := by
  induction h with
  | done => exact .nil
  | @visit start first marks hle hlt hrest ih =>
    refine List.pairwise_cons.mpr ⟨fun index hindex => ?_, ih⟩
    have hlater := (hrest.mem_visits index hindex).1
    omega
  | paused => exact List.pairwise_singleton ..

/-- What is visited before a pause is at most its gate. -/
theorem Ordered.le_gate (h : Ordered length start marks) {stepsLog : List LogEntry}
    (hpaused : pausedWith marks = some stepsLog) :
    ∃ gate, latestGate stepsLog = some gate ∧ start ≤ gate ∧ ∀ index ∈ visits marks, index ≤ gate := by
  induction h with
  | done => cases hpaused
  | @visit start first marks hle _ _ ih =>
    obtain ⟨gate, hgate, hfirst, hvisits⟩ := ih hpaused
    refine ⟨gate, hgate, by omega, fun index hindex => ?_⟩
    rcases List.mem_cons.mp hindex with rfl | hrest
    · omega
    · exact hvisits index hrest
  | @paused start gate log hle _ hgate =>
    have hsame : log = stepsLog := Option.some.inj hpaused
    subst hsame
    refine ⟨gate, hgate, hle, fun index hindex => ?_⟩
    have hvisit : index = gate := List.mem_singleton.mp hindex
    omega

end

/-! ## Programs without marks -/

section

variable {α β : Type}

/-- Nothing is visited, and nothing is paused. -/
abbrev Unmarked (p : Prog α) : Prop := Program.Notes mark? (fun _ marks => marks = []) p

theorem mark?_neutral (q : Stmt) (r : Reply q) (h : Neutral q) : mark? ⟨q, r⟩ = none := by
  cases h <;> rfl

/-- A neutral part of a program leaves no marks. -/
theorem marks_neutral_bind {p : Prog α} {f : α → Prog β} {Ret : α → Prop}
    {Post : β → List Mark → Prop} (hp : p.Issues Neutral Ret)
    (hf : ∀ a, Ret a → Program.Notes mark? Post (f a)) : Program.Notes mark? Post (p >>= f) := by
  refine Program.notes_bind (hp.notes mark?_neutral) fun a marks hmarks => ?_
  obtain ⟨rfl, ha⟩ := hmarks
  exact hf a ha

/-- A part of a program without marks. -/
theorem Unmarked.bind {p : Prog α} {f : α → Prog β} {Post : β → List Mark → Prop}
    (hp : Unmarked p) (hf : ∀ a, Program.Notes mark? Post (f a)) :
    Program.Notes mark? Post (p >>= f) := by
  refine Program.notes_bind hp fun a marks hmarks => ?_
  subst hmarks
  exact hf a

end

/-! ## One iteration -/

section Loop

variable {py : Python} {pass : Pass} {st : LoopState} {step : Json}

/-- What is left of an iteration once its step has started: it goes on after the step, stops because
    the step failed, or pauses at it. -/
def AfterBegin (st : LoopState) : Flow → List Mark → Prop
  | .next st', marks => st.index < st'.index ∧ marks = []
  | .stop st', marks => st'.failed = true ∧ marks = []
  | .returned _, marks =>
    marks = [] ∨ ∃ stepsLog, latestGate stepsLog = some st.index ∧ marks = [.pause stepsLog]
  | .raised _, marks => marks = []

theorem latestGate_requested (stepsLog : List LogEntry) (index : Nat) (request : ApprovalRequest)
    (step : Json) (now : Int) :
    latestGate (stepsLog ++ [approvalRequestedEntry index request step now]) = some index := by
  unfold latestGate
  rw [List.reverse_append]
  rfl

theorem saveProgress_marks {stepsLog : List LogEntry} {next : Nat} {lost : String}
    (hnext : st.index < next) :
    Program.Notes mark? (AfterBegin st) (saveProgress pass st stepsLog next lost) := by
  unfold saveProgress
  refine Program.notes_silent_bind (fun _ => rfl) fun r => ?_
  cases r with
  | none => exact Program.notes_pure (.inl rfl)
  | some row => exact Program.notes_pure ⟨hnext, rfl⟩

theorem afterFailure_marks {stepsLog : List LogEntry} {message : Json} :
    Program.Notes mark? (AfterBegin st)
      (pure (afterFailure step st stepsLog message) : Prog Flow) := by
  refine Program.notes_pure ?_
  unfold afterFailure
  dsimp only
  split
  · exact ⟨Nat.lt_succ_self _, rfl⟩
  · exact ⟨rfl, rfl⟩

theorem createPlaybookStepApprovalRequest_issues (id index : Nat) (step : Json) (now : Int) :
    (createPlaybookStepApprovalRequest id index step now).Issues Neutral (fun _ => True) := by
  unfold createPlaybookStepApprovalRequest
  refine Program.issues_call_bind (.latestRequest ..) fun latest => ?_
  split
  · exact Program.issues_pure trivial
  · exact Program.issues_call (.insertRequest ..) fun _ => trivial

theorem processGateStep_marks :
    Program.Notes mark? (AfterBegin st) (processGateStep py pass step st) := by
  unfold processGateStep
  refine marks_neutral_bind (createPlaybookStepApprovalRequest_issues ..) fun request _ => ?_
  cases request with
  | none => exact Program.notes_pure rfl
  | some request =>
    refine Program.notes_call_bind fun r => ?_
    cases r with
    | none => exact Program.notes_pure (.inl rfl)
    | some row =>
      refine marks_neutral_bind (appendPlaybookExecutionOutcomeEvent_issues nofun) fun _ _ => ?_
      refine Program.notes_silent_bind (fun _ => rfl) fun _ => Program.notes_pure (.inr ?_)
      exact ⟨_, latestGate_requested .., rfl⟩

theorem processBranchStep_marks (haction : step.get "action" = .str "branch") :
    Program.Notes mark? (AfterBegin st) (processBranchStep py pass step st) := by
  unfold processBranchStep
  refine marks_neutral_bind (executeBranchStep_issues haction) fun r hr => ?_
  cases r with
  | error message => exact Program.notes_pure rfl
  | ok branch =>
    have hforward := (hr branch rfl).forward
    refine marks_neutral_bind (appendNonAdapterPlaybookStepOutcomeEvent_issues ..) fun _ _ => ?_
    split
    · exact saveProgress_marks hforward
    · exact afterFailure_marks

theorem recordControlEntry_marks {entry : LogEntry} {lost : String} :
    Program.Notes mark? (AfterBegin st) (recordControlEntry py pass step st entry lost) := by
  unfold recordControlEntry
  refine marks_neutral_bind (appendNonAdapterPlaybookStepOutcomeEvent_issues ..) fun _ _ => ?_
  split
  · exact saveProgress_marks (Nat.lt_succ_self _)
  · exact afterFailure_marks

theorem processTriggerStep_marks (haction : step.get "action" = .str "trigger_playbook") :
    Program.Notes mark? (AfterBegin st) (processTriggerStep py pass step st) := by
  have hissues : (executeTriggerPlaybookStep py step st.index pass.execution
      pass.timestamp).Issues Neutral (EntryOk pass.steps st.index step) :=
    executeTriggerPlaybookStep_issues haction
  unfold processTriggerStep
  refine marks_neutral_bind hissues fun r _ => ?_
  cases r with
  | error message => exact Program.notes_pure rfl
  | ok entry => exact recordControlEntry_marks

theorem processEnrichStep_marks (haction : step.get "action" = .str "enrich_context") :
    Program.Notes mark? (AfterBegin st) (processEnrichStep py pass step st) := by
  have hissues : (executeEnrichContextStep py step st.index pass.execution
      pass.timestamp).Issues Neutral (StepEntry pass.steps st.index step) :=
    executeEnrichContextStep_issues haction
  unfold processEnrichStep
  exact marks_neutral_bind hissues fun _ _ => recordControlEntry_marks

theorem withNotificationDelivery_issues {entry : LogEntry}
    (hentry : StepEntry pass.steps st.index step entry) :
    (withNotificationDelivery py pass step st.index entry).Issues Neutral
      (StepEntry pass.steps st.index step) := by
  unfold withNotificationDelivery
  split
  · split
    · refine Program.issues_bind (recordNotificationDeliveryAttempt_issues ..) fun r _ => ?_
      cases r with
      | none => exact Program.issues_pure hentry
      | some delivery =>
        exact Program.issues_pure ⟨hentry.index_eq, hentry.status_cases, hentry.event_ne,
          hentry.action_known, hentry.code_fault⟩
    · exact Program.issues_pure hentry
  · exact Program.issues_pure hentry

theorem simulatedEntry_issues (hgate : step.get "action" ≠ .str "require_approval") :
    (simulatedEntry py pass step st.index).Issues Neutral
      (StepEntry pass.steps st.index step) := by
  unfold simulatedEntry
  have hissues : (simulateStep py step st.index pass.timestamp pass.execution).Issues Neutral
      (EntryOk pass.steps st.index step) := simulateStep_issues hgate
  refine Program.issues_bind hissues fun r hr => ?_
  cases r with
  | ok entry => exact Program.issues_pure (hr entry rfl)
  | error message => exact Program.issues_pure (failureEntry_stepEntry nofun)

theorem processOtherStep_marks (hgate : step.get "action" ≠ .str "require_approval") :
    Program.Notes mark? (AfterBegin st) (processOtherStep py pass step st) := by
  unfold processOtherStep
  refine marks_neutral_bind (simulatedEntry_issues hgate) fun simulated hsimulated => ?_
  split
  · exact Program.notes_pure rfl
  · refine marks_neutral_bind (withNotificationDelivery_issues hsimulated) fun entry _ => ?_
    split
    · refine Program.notes_bind (saveProgress_marks (Nat.lt_succ_self _)) fun flow marks hflow => ?_
      cases flow with
      | next st' =>
        obtain ⟨hnext, rfl⟩ := hflow
        exact marks_neutral_bind (appendNonAdapterPlaybookStepOutcomeEvent_issues ..) fun _ _ =>
          Program.notes_pure ⟨hnext, rfl⟩
      | stop st' => exact Program.notes_pure (by rwa [List.append_nil])
      | returned r => exact Program.notes_pure (by rwa [List.append_nil])
      | raised message => exact Program.notes_pure (by rwa [List.append_nil])
    · exact marks_neutral_bind (appendNonAdapterPlaybookStepOutcomeEvent_issues ..) fun _ _ =>
        afterFailure_marks

theorem isOneOf_singleton {v : Json} {name : String} (h : v.isOneOf [name] = true) :
    v = .str name := by
  cases v <;> simp_all [Json.isOneOf]

theorem executeStep_marks : Program.Notes mark? (AfterBegin st) (executeStep py pass step st) := by
  unfold executeStep
  dsimp only
  split
  · exact processGateStep_marks
  · next hgate =>
    split
    · next h => exact processBranchStep_marks (isOneOf_singleton h)
    · split
      · next h => exact processTriggerStep_marks (isOneOf_singleton h)
      · split
        · next h => exact processEnrichStep_marks (isOneOf_singleton h)
        · refine processOtherStep_marks fun h => hgate ?_
          simp [h, Json.isOneOf]

/-- An iteration starts its step, or passes over it. -/
def IterationMarks (st : LoopState) (flow : Flow) (marks : List Mark) : Prop :=
  AfterBegin st flow [] ∧ marks = [] ∨
    ∃ rest, AfterBegin st flow rest ∧ marks = .visit st.index :: rest

theorem processStep_marks :
    Program.Notes mark? (IterationMarks st) (processStep py pass step st) := by
  unfold processStep
  split
  · exact Program.notes_pure (.inl ⟨⟨Nat.lt_succ_self _, rfl⟩, rfl⟩)
  · split
    · exact Program.notes_pure (.inl ⟨⟨Nat.lt_succ_self _, rfl⟩, rfl⟩)
    · refine Program.notes_silent_bind (fun _ => rfl) fun r => ?_
      cases r with
      | none => exact Program.notes_pure (.inl ⟨.inl rfl, rfl⟩)
      | some row =>
        refine Program.notes_call_bind fun _ => ?_
        exact executeStep_marks.imp fun flow rest hrest => .inr ⟨rest, hrest, rfl⟩

/-! ## The loop -/

/-- How the loop ends: at the end of the list, at a step that failed, or with the pass. -/
def LoopEnd (pass : Pass) : Flow → Prop
  | .next _ => False
  | .stop st => st.failed = true ∨ pass.steps.length ≤ st.index
  | .returned _ | .raised _ => True

/-- An iteration that does not go on ends the marks in order. -/
theorem AfterBegin.ordered {flow : Flow} {rest : List Mark} (h : AfterBegin st flow rest)
    (hlt : st.index < pass.steps.length) :
    Ordered pass.steps.length st.index (.visit st.index :: rest) := by
  have hvisit : Ordered pass.steps.length st.index [.visit st.index] := .visit le_rfl hlt .done
  cases flow with
  | next st' | stop st' =>
    rw [h.2]
    exact hvisit
  | returned r =>
    rcases h with rfl | ⟨stepsLog, hgate, rfl⟩
    · exact hvisit
    · exact .paused le_rfl hlt hgate
  | raised message =>
    rw [show rest = [] from h]
    exact hvisit

/-- The loop visits steps in order, and its fuel is never what ends it. -/
theorem processLoop_marks {fuel : Nat} (hfuel : pass.steps.length ≤ fuel + st.index) :
    Program.Notes mark?
      (fun flow marks => LoopEnd pass flow ∧ Ordered pass.steps.length st.index marks)
      (processLoop py pass fuel st) := by
  induction fuel generalizing st with
  | zero => exact Program.notes_pure ⟨.inr (by omega), .done⟩
  | succ fuel ih =>
    unfold processLoop
    split
    · next hnone =>
      have hend : pass.steps.length ≤ st.index := List.getElem?_eq_none_iff.mp hnone
      exact Program.notes_pure ⟨.inr hend, .done⟩
    · next step hstep =>
      have hlt : st.index < pass.steps.length := (List.getElem?_eq_some_iff.mp hstep).1
      refine Program.notes_bind processStep_marks fun flow marks hmarks => ?_
      have hordered : Ordered pass.steps.length st.index marks := by
        rcases hmarks with ⟨-, rfl⟩ | ⟨rest, hrest, rfl⟩
        · exact .done
        · exact hrest.ordered hlt
      cases flow with
      | next st' =>
        have hnext : st.index < st'.index := by
          rcases hmarks with ⟨hafter, -⟩ | ⟨rest, hafter, -⟩
          · exact hafter.1
          · exact hafter.1
        refine (ih (by omega)).imp fun flow more hmore => ⟨hmore.1, ?_⟩
        have hlater : Ordered pass.steps.length (st.index + 1) more := hmore.2.mono (by omega)
        rcases hmarks with ⟨-, rfl⟩ | ⟨rest, hafter, rfl⟩
        · exact hlater.mono (by omega)
        · rw [hafter.2]
          exact .visit le_rfl hlt hlater
      | stop st' =>
        have hfailed : st'.failed = true := by
          rcases hmarks with ⟨hafter, -⟩ | ⟨rest, hafter, -⟩
          · exact hafter.1
          · exact hafter.1
        exact Program.notes_pure ⟨.inl hfailed, by rwa [List.append_nil]⟩
      | returned r => exact Program.notes_pure ⟨trivial, by rwa [List.append_nil]⟩
      | raised message => exact Program.notes_pure ⟨trivial, by rwa [List.append_nil]⟩

/-- The loop of `_process_steps`, from any start. -/
theorem processLoop_ends {start : Nat} {stepsLog : List LogEntry} {lastStep : Option Int} :
    (processLoop py pass (pass.steps.length - start)
      ⟨start, stepsLog, lastStep, false, .null⟩).Issues (fun _ => True) (LoopEnd pass) := by
  have hfuel : pass.steps.length ≤ pass.steps.length - start + start := by omega
  exact (processLoop_marks hfuel).issues fun _ _ hmarks => hmarks.1

end Loop

/-! ## Passes -/

section Passes

variable {py : Python} {pass : Pass} {st : LoopState} {row : Execution} {w : WorkerId} {now : Int}
  {duration : LeaseDuration}

theorem appendPlaybookTerminalOutcomeEvent_unmarked {executionState eventType summary : String} :
    Unmarked (appendPlaybookTerminalOutcomeEvent row executionState eventType summary) := by
  unfold appendPlaybookTerminalOutcomeEvent appendPlaybookExecutionOutcomeEvent
  split
  · exact Program.notes_silent_bind (fun _ => rfl) fun _ => Program.notes_pure rfl
  · exact Program.notes_pure rfl

theorem setFinalOrUnowned_unmarked {final : FinalStatus} {id : Nat} {stepsLog : List LogEntry}
    {lastStep : Option Int} : Unmarked (setFinalOrUnowned final id w stepsLog lastStep now) := by
  unfold setFinalOrUnowned
  refine Program.notes_silent_bind (fun _ => rfl) fun updated => ?_
  cases updated with
  | some updated => exact Program.notes_pure rfl
  | none =>
    refine Program.notes_silent_bind (fun _ => rfl) fun current => ?_
    cases current with
    | none => exact Program.notes_pure rfl
    | some current =>
      dsimp only
      split
      · exact Program.notes_silent_bind (fun _ => rfl) fun _ => Program.notes_pure rfl
      · exact Program.notes_pure rfl

theorem finalizeSuccess_unmarked {id : Nat} {stepsLog : List LogEntry} {lastStep : Option Int} :
    Unmarked (finalizeSuccess id w stepsLog lastStep now) := by
  unfold finalizeSuccess
  refine Program.notes_silent_bind (fun _ => rfl) fun updated => ?_
  cases updated with
  | none => exact Program.notes_pure rfl
  | some updated =>
    refine appendPlaybookTerminalOutcomeEvent_unmarked.bind fun _ => ?_
    exact Program.notes_silent_bind (fun _ => rfl) fun _ => Program.notes_pure rfl

theorem captureFailedExecutionDeadLetter_unmarked {stepsLog : List LogEntry} :
    Unmarked (captureFailedExecutionDeadLetter py row stepsLog now) := by
  unfold captureFailedExecutionDeadLetter
  split
  · exact Program.notes_pure rfl
  · exact Program.notes_silent_bind (fun _ => rfl) fun _ => Program.notes_pure rfl

theorem finalizeFailed_unmarked {id : Nat} {stepsLog : List LogEntry} {lastStep : Option Int} :
    Unmarked (finalizeFailed py id w stepsLog lastStep now) := by
  unfold finalizeFailed
  refine setFinalOrUnowned_unmarked.bind fun updated => ?_
  cases updated with
  | none => exact Program.notes_pure rfl
  | some updated =>
    refine appendPlaybookTerminalOutcomeEvent_unmarked.bind fun _ => ?_
    refine captureFailedExecutionDeadLetter_unmarked.bind fun _ => ?_
    exact Program.notes_silent_bind (fun _ => rfl) fun _ => Program.notes_pure rfl

theorem finalizeNotActioned_unmarked {id : Nat} {stepsLog : List LogEntry}
    {lastStep : Option Int} : Unmarked (finalizeNotActioned id w stepsLog lastStep now) := by
  unfold finalizeNotActioned
  refine setFinalOrUnowned_unmarked.bind fun updated => ?_
  cases updated with
  | none => exact Program.notes_pure rfl
  | some updated =>
    refine appendPlaybookTerminalOutcomeEvent_unmarked.bind fun _ => ?_
    exact Program.notes_silent_bind (fun _ => rfl) fun _ => Program.notes_pure rfl

theorem finishSteps_unmarked : Unmarked (finishSteps py pass st) := by
  unfold finishSteps
  dsimp only
  split
  · exact finalizeFailed_unmarked.bind fun _ => Program.notes_pure rfl
  · exact finalizeSuccess_unmarked.bind fun _ => Program.notes_pure rfl

theorem processSteps_marks {start : Nat} {stepsLog : List LogEntry} {lastStep : Option Int} :
    Program.Notes mark? (fun _ marks => Ordered pass.steps.length start marks)
      (processSteps py pass start stepsLog lastStep) := by
  have hloop : Program.Notes mark?
      (fun flow marks => LoopEnd pass flow ∧ Ordered pass.steps.length start marks)
      (processLoop py pass (pass.steps.length - start) ⟨start, stepsLog, lastStep, false, .null⟩) :=
    processLoop_marks (by show _ ≤ _ + start; omega)
  unfold processSteps
  refine Program.notes_bind hloop fun flow marks hmarks => ?_
  have hordered : Ordered pass.steps.length start (marks ++ []) := by
    rw [List.append_nil]
    exact hmarks.2
  cases flow with
  | next st | stop st =>
    refine finishSteps_unmarked.imp fun _ more hmore => ?_
    subst hmore
    exact hordered
  | returned r => exact Program.notes_pure hordered
  | raised message => exact Program.notes_pure hordered

/-- The marks of a pass that may visit the steps from `start` on. -/
abbrev OrderedFrom (start : Nat) (marks : List Mark) : Prop := ∃ length, Ordered length start marks

/-- A pass over a running execution visits steps after the last completed one only. -/
theorem processRunningExecution_marks {prior : ExecutionStatus} :
    Program.Notes mark? (fun _ marks => OrderedFrom (resumeProgress row).1 marks)
      (processRunningExecution py row now prior w duration) := by
  unfold processRunningExecution
  refine Program.notes_silent_bind (fun _ => rfl) fun definition => ?_
  cases definition with
  | none => exact finalizeFailed_unmarked.bind fun _ => Program.notes_pure ⟨0, .done⟩
  | some definition =>
    exact processSteps_marks.imp fun _ marks hmarks => ⟨_, hmarks.of_min⟩

theorem failAwaitingExecution_unmarked {stepsLog : List LogEntry} {stepIndex : Option Nat}
    {code : StepErrorCode} {message : String} :
    Unmarked (failAwaitingExecution py row stepsLog stepIndex code message now w) := by
  unfold failAwaitingExecution
  exact finalizeFailed_unmarked.bind fun _ => Program.notes_pure rfl

theorem resumeLeaseNotAcquired_unmarked {message : String} :
    Unmarked (resumeLeaseNotAcquired row message) := by
  unfold resumeLeaseNotAcquired
  exact Program.notes_silent_bind (fun _ => rfl) fun _ => Program.notes_pure rfl

/-- A part of a pass that visits nothing. -/
theorem Unmarked.orderedFrom {α : Type} {p : Prog α} {start : Nat} (h : Unmarked p) :
    Program.Notes mark? (fun _ marks => OrderedFrom start marks) p :=
  h.imp fun _ _ hmarks => hmarks ▸ ⟨0, .done⟩

theorem resumeApproved_marks {gate : Nat} {request : ApprovalRequest} :
    Program.Notes mark? (fun _ marks => OrderedFrom (gate + 1) marks)
      (resumeApproved py row gate request now w duration) := by
  unfold resumeApproved
  refine marks_neutral_bind (appendPlaybookExecutionOutcomeEvent_issues nofun) fun _ _ => ?_
  refine Program.notes_silent_bind (fun _ => rfl) fun resumed => ?_
  cases resumed with
  | none => exact resumeLeaseNotAcquired_unmarked.orderedFrom
  | some resumed =>
    refine marks_neutral_bind (appendPlaybookExecutionOutcomeEvent_issues nofun) fun _ _ => ?_
    refine marks_neutral_bind (appendPlaybookExecutionOutcomeEvent_issues nofun) fun _ _ => ?_
    refine Program.notes_silent_bind (fun _ => rfl) fun definition => ?_
    cases definition with
    | none => exact failAwaitingExecution_unmarked.orderedFrom
    | some definition => exact processSteps_marks.imp fun _ _ hmarks => ⟨_, hmarks⟩

theorem closeGate_marks {gate : Nat} {request : ApprovalRequest} :
    Program.Notes mark? (fun _ marks => OrderedFrom (gate + 1) marks)
      (closeGate py row gate request now w duration) := by
  unfold closeGate
  refine Program.notes_silent_bind (fun _ => rfl) fun definition => ?_
  dsimp only
  refine marks_neutral_bind (appendPlaybookExecutionOutcomeEvent_issues nofun) fun _ _ => ?_
  split
  · refine Program.notes_silent_bind (fun _ => rfl) fun resumed => ?_
    cases resumed with
    | none => exact resumeLeaseNotAcquired_unmarked.orderedFrom
    | some resumed =>
      refine marks_neutral_bind (appendPlaybookExecutionOutcomeEvent_issues nofun) fun _ _ => ?_
      exact processSteps_marks.imp fun _ _ hmarks => ⟨_, hmarks⟩
  · exact finalizeNotActioned_unmarked.bind fun _ => Program.notes_pure ⟨0, .done⟩

/-- A pass over an execution that awaits approval visits steps after its latest gate only. -/
theorem processAwaitingApprovalExecution_marks :
    Program.Notes mark?
      (fun _ marks => ∀ gate, latestGate row.stepsLog = some gate → OrderedFrom (gate + 1) marks)
      (processAwaitingApprovalExecution py row now w duration) := by
  unfold processAwaitingApprovalExecution
  split
  · next hnone =>
    refine failAwaitingExecution_unmarked.imp fun _ marks _ gate hgate => ?_
    rw [hnone] at hgate
    cases hgate
  · next latest hlatest =>
    have hresumed {p : Prog (Option PassResult)}
        (hp : Program.Notes mark? (fun _ marks => OrderedFrom (latest + 1) marks) p) :
        Program.Notes mark? (fun _ marks => ∀ gate, latestGate row.stepsLog = some gate →
          OrderedFrom (gate + 1) marks) p := by
      refine hp.imp fun _ marks hmarks gate hgate => ?_
      have hsame : latest = gate := Option.some.inj (hlatest.symm.trans hgate)
      exact hsame ▸ hmarks
    refine Program.notes_silent_bind (fun _ => rfl) fun request => ?_
    cases request with
    | none => exact hresumed failAwaitingExecution_unmarked.orderedFrom
    | some request =>
      dsimp only
      split
      · exact hresumed (Program.notes_pure ⟨0, .done⟩)
      · exact hresumed resumeApproved_marks
      · exact hresumed closeGate_marks
      · exact hresumed closeGate_marks

end Passes

end SiemDashboard.StepExecutor
