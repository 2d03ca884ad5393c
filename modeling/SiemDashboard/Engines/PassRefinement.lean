import SiemDashboard.Engines.PassProtocol
import SiemDashboard.Engines.StepVisits

/-!
# The executor keeps to its protocol

Every task of the playbook system keeps to `protocol`, whatever answers its statements get: from
the phase `free` back to `free`.

* **Terminal writes** — the finalizers.
* **The step loop** — one step, the loop, the pass over a step list.
* **Passes** — running and awaiting executions, the batch.
* **Other tasks** — stale recovery and the routes.
* **The refinement** — `refinement`.
-/

namespace SiemDashboard.StepExecutor

open Atomic Python PlaybookStore ApprovalStore DeadLetterStore PlaybookRoutes
  RunPlaybookExecutorOnce

variable {py : Python} {a : Actor} {w : WorkerId}

/-- Neutral statements may be issued in every quiet phase. -/
theorem issues_keeps {α : Type} {p : Prog α} {Ret : α → Prop} {g : Phase}
    (h : p.Issues Neutral Ret) (hquiet : g.quiet = true) :
    p.Follows (protocol py a) (fun x g' => g' = g ∧ Ret x) g :=
  h.follows fun _ _ hq => Move.neutral hq hquiet

/-- A neutral part of a program whose answer does not matter. -/
theorem keeps_bind {α β : Type} {p : Prog α} {f : α → Prog β} {Ret : α → Prop} {g : Phase}
    {Post : β → Phase → Prop} (h : p.Issues Neutral Ret)
    (hquiet : g.quiet = true) (hf : ∀ x, Ret x → (f x).Follows (protocol py a) Post g) :
    (p >>= f).Follows (protocol py a) Post g := by
  refine Program.follows_bind (issues_keeps h hquiet) ?_
  rintro x g' ⟨rfl, hx⟩
  exact hf x hx

/-- One statement and what follows its answers. -/
theorem issue_bind {β : Type} {q : Stmt} {f : Reply q → Prog β} {g : Phase}
    {Post : β → Phase → Prop}
    (h : ∀ r, ∃ g', Move py a g q r g' ∧ (f r).Follows (protocol py a) Post g') :
    (issue q >>= f).Follows (protocol py a) Post g :=
  Program.follows_stmt h

/-- A quiet phase may end. -/
theorem follows_ended {α : Type} {x : α} {g : Phase} {Post : α → Phase → Prop}
    (hquiet : g.quiet = true) (h : Post x .free) :
    (pure x : Prog α).Follows (protocol py a) Post g :=
  (Program.follows_pure h).silent (.ended hquiet)

/-! ## Terminal writes -/

theorem captureFailedExecutionDeadLetter_follows (row : Execution) (log : List LogEntry)
    (now : Int) :
    (captureFailedExecutionDeadLetter py row log now).Follows (protocol py a)
      (fun _ g => g = .free) (.due row log) := by
  unfold captureFailedExecutionDeadLetter
  split
  · next hnone =>
    refine Program.Follows.silent (.unrecorded hnone) ?_
    exact Program.follows_pure rfl
  · next entry hentry =>
    exact issue_bind fun _ => ⟨.free, .capture hentry, Program.follows_pure rfl⟩

/-- The terminal event of the given status. -/
theorem appendPlaybookTerminalOutcomeEvent_follows {final : FinalStatus} {row : Execution}
    {log : List LogEntry} {executionState eventType summary : String}
    (hevent : finalEvent row.id final = terminalEvent row.id executionState eventType summary) :
    (appendPlaybookTerminalOutcomeEvent row executionState eventType summary).Follows
      (protocol py (.worker w)) (fun _ g => g = .afterEvent row log final)
      (.concluded final row log) := by
  unfold appendPlaybookTerminalOutcomeEvent appendPlaybookExecutionOutcomeEvent
  rw [← hevent]
  split
  · next decisionId hlinked =>
    exact Program.follows_call fun _ => ⟨_, .tell hlinked, rfl⟩
  · next hnone =>
    refine Program.Follows.silent (.unlinked hnone) ?_
    exact Program.follows_pure rfl

section

variable {g : Phase} {final : FinalStatus} {id : Nat} {log : List LogEntry} {lastStep : Option Int}

/-- After a terminal write: it landed, or nothing is due. -/
def Concluding (final : FinalStatus) (log : List LogEntry) : Option Execution → Phase → Prop
  | some row, g => g = .concluded final row log
  | none, g => g = .free

theorem setFinalOrUnowned_follows {now : Int} (hends : Ends g final id log lastStep) :
    (setFinalOrUnowned final id w log lastStep now).Follows (protocol py (.worker w))
      (Concluding final log) g := by
  unfold setFinalOrUnowned
  refine issue_bind fun r => ?_
  cases r with
  | some row => exact ⟨_, .conclude hends rfl, Program.follows_pure rfl⟩
  | none =>
    refine ⟨_, .miss hends rfl, issue_bind fun r => ?_⟩
    cases r with
    | none => exact ⟨_, .neutral (.getExecution _) rfl, follows_ended rfl rfl⟩
    | some current =>
      simp only
      split
      · next hwaits =>
        simp only [Bool.and_eq_true, decide_eq_true_eq, Option.isNone_iff_eq_none] at hwaits
        refine ⟨_, .recheck rfl hwaits.1 hwaits.2, Program.follows_stmt fun r => ?_⟩
        cases r with
        | some row => exact ⟨_, .concludeUnowned rfl, Program.follows_pure rfl⟩
        | none => exact ⟨_, .unconcluded rfl, Program.follows_pure rfl⟩
      · exact ⟨_, .neutral (.getExecution _) rfl, follows_ended rfl rfl⟩

/-- The release of the lease after a terminal write. -/
theorem release_follows {α : Type} {x : α} :
    (issue (.releaseLease id w) >>= fun _ => (pure x : Prog α)).Follows
      (protocol py (.worker w)) (fun _ g => g = .free) .free :=
  issue_bind fun _ => ⟨.free, .release rfl, Program.follows_pure rfl⟩

theorem finalizeSuccess_follows {now : Int} (hends : Ends g .success id log lastStep) :
    (finalizeSuccess id w log lastStep now).Follows (protocol py (.worker w))
      (fun _ g => g = .free) g := by
  unfold finalizeSuccess
  refine issue_bind fun r => ?_
  cases r with
  | none => exact ⟨_, .miss hends rfl, follows_ended rfl rfl⟩
  | some row =>
    refine ⟨_, .conclude hends rfl, ?_⟩
    refine Program.follows_bind (appendPlaybookTerminalOutcomeEvent_follows rfl) ?_
    rintro _ _ rfl
    exact release_follows

theorem finalizeFailed_follows {now : Int} (hends : Ends g .failed id log lastStep) :
    (finalizeFailed py id w log lastStep now).Follows (protocol py (.worker w))
      (fun _ g => g = .free) g := by
  unfold finalizeFailed
  refine Program.follows_bind (setFinalOrUnowned_follows hends) fun r g' hr => ?_
  cases r with
  | none =>
    subst hr
    exact Program.follows_pure rfl
  | some row =>
    subst hr
    refine Program.follows_bind (appendPlaybookTerminalOutcomeEvent_follows rfl) ?_
    rintro _ _ rfl
    refine Program.follows_bind (captureFailedExecutionDeadLetter_follows row log now) ?_
    rintro _ _ rfl
    exact release_follows

theorem finalizeNotActioned_follows {now : Int} (hends : Ends g .notActioned id log lastStep) :
    (finalizeNotActioned id w log lastStep now).Follows (protocol py (.worker w))
      (fun _ g => g = .free) g := by
  unfold finalizeNotActioned
  refine Program.follows_bind (setFinalOrUnowned_follows hends) fun r g' hr => ?_
  cases r with
  | none =>
    subst hr
    exact Program.follows_pure rfl
  | some row =>
    subst hr
    refine Program.follows_bind (appendPlaybookTerminalOutcomeEvent_follows rfl) ?_
    rintro _ _ rfl
    exact release_follows

end

/-! ## The step loop -/

section Loop

variable {pass : Pass} {st : LoopState} {step : Json} {saved : List LogEntry}
  {savedStep : Option Int}

abbrev Pass.at (pass : Pass) (saved : List LogEntry) (savedStep : Option Int) (st : LoopState) :
    Phase :=
  .working pass.execution pass.steps saved savedStep st

/-- How an iteration leaves the phase: in the loop, or with nothing due. -/
def FlowOk (pass : Pass) : Flow → Phase → Prop
  | .next st, g | .stop st, g => ∃ saved savedStep, g = pass.at saved savedStep st
  | .returned _, g | .raised _, g => g = .free

theorem saveProgress_follows {entry : LogEntry} {next : Nat} {now : Int} {lost : String}
    (hat : AtStep pass.steps st step) (hentry : StepEntry pass.steps st.index step entry)
    (hstatus : entry.status = .success) (hnext : st.index < next) :
    (saveProgress pass st
      (st.stepsLog ++ entry :: skippedBranchStepEntries pass.steps (st.index + 1) next now) next
      lost).Follows (protocol py (.worker pass.worker)) (FlowOk pass)
        (pass.at saved savedStep st) := by
  unfold saveProgress
  refine issue_bind fun r => ?_
  cases r with
  | none =>
    exact ⟨_, .unsaved rfl (.step hat hentry hstatus hnext), Program.follows_pure rfl⟩
  | some row =>
    exact ⟨_, .save rfl (.step hat hentry hstatus hnext), Program.follows_pure ⟨_, _, rfl⟩⟩

theorem skippedBranchStepEntries_self (steps : List Json) (index : Nat) (now : Int) :
    skippedBranchStepEntries steps index index now = [] := by
  simp [skippedBranchStepEntries]

/-- Saving the progress of a step that is no branch. -/
theorem saveProgress_one_follows {entry : LogEntry} {lost : String}
    (hat : AtStep pass.steps st step) (hentry : StepEntry pass.steps st.index step entry)
    (hstatus : entry.status = .success) :
    (saveProgress pass st (st.stepsLog ++ [entry]) (st.index + 1) lost).Follows
      (protocol py (.worker pass.worker)) (FlowOk pass) (pass.at saved savedStep st) := by
  have h : (saveProgress pass st (st.stepsLog ++ entry ::
      skippedBranchStepEntries pass.steps (st.index + 1) (st.index + 1) 0) (st.index + 1)
      lost).Follows (protocol py (.worker pass.worker)) (FlowOk pass)
        (pass.at saved savedStep st) :=
    saveProgress_follows hat hentry hstatus (Nat.lt_succ_self _)
  rwa [skippedBranchStepEntries_self] at h

/-- Going on after a step that failed, or stopping there. -/
theorem afterFailure_follows {entry : LogEntry} {message : Json}
    (hat : AtStep pass.steps st step) (hgate : step.get "action" ≠ .str "require_approval")
    (hentry : StepEntry pass.steps st.index step entry)
    (hstatus : entry.status ≠ .success) :
    (pure (afterFailure step st (st.stepsLog ++ [entry]) message) : Prog Flow).Follows
      (protocol py (.worker w)) (FlowOk pass) (pass.at saved savedStep st) := by
  have hfailed : entry.status = .failed := hentry.status_cases.resolve_left hstatus
  unfold afterFailure
  simp only
  split
  · next hcontinue =>
    exact Program.Follows.silent (.stepFailed hat hgate hentry hfailed (.inr ⟨rfl, hcontinue⟩))
      (Program.follows_pure ⟨_, _, rfl⟩)
  · exact Program.Follows.silent (.stepFailed hat hgate hentry hfailed (.inl rfl))
      (Program.follows_pure ⟨_, _, rfl⟩)

/-- An entry with neither a branch nor its own way of being saved. -/
theorem recordEntry_follows {entry : LogEntry} {lost : String} {message : Json}
    (hat : AtStep pass.steps st step) (hgate : step.get "action" ≠ .str "require_approval")
    (hentry : StepEntry pass.steps st.index step entry) :
    (if entry.status = .success then
        saveProgress pass st (st.stepsLog ++ [entry]) (st.index + 1) lost
      else return afterFailure step st (st.stepsLog ++ [entry]) message : Prog Flow).Follows
      (protocol py (.worker pass.worker)) (FlowOk pass) (pass.at saved savedStep st) := by
  split
  · next hstatus => exact saveProgress_one_follows hat hentry hstatus
  · next hstatus => exact afterFailure_follows hat hgate hentry hstatus

theorem processGateStep_follows (hat : AtStep pass.steps st step)
    (haction : step.get "action" = .str "require_approval") :
    (processGateStep py pass step st).Follows (protocol py (.worker pass.worker)) (FlowOk pass)
      (pass.at saved savedStep st) := by
  unfold processGateStep
  refine keeps_bind (createPlaybookStepApprovalRequest_issues ..) rfl fun request _ => ?_
  cases request with
  | none => exact follows_ended rfl rfl
  | some request =>
    refine issue_bind fun r => ?_
    cases r with
    | none => exact ⟨_, .pause (.gate hat haction), Program.follows_pure rfl⟩
    | some row =>
      refine ⟨_, .pause (.gate hat haction), ?_⟩
      refine keeps_bind (appendPlaybookExecutionOutcomeEvent_issues nofun) rfl fun _ _ => ?_
      exact issue_bind fun _ => ⟨_, .release rfl, Program.follows_pure rfl⟩

theorem processBranchStep_follows (hat : AtStep pass.steps st step)
    (haction : step.get "action" = .str "branch") :
    (processBranchStep py pass step st).Follows (protocol py (.worker pass.worker)) (FlowOk pass)
      (pass.at saved savedStep st) := by
  unfold processBranchStep
  refine keeps_bind (executeBranchStep_issues haction) rfl fun r hr => ?_
  cases r with
  | error message => exact follows_ended rfl rfl
  | ok branch =>
    obtain ⟨hentry, hforward, hskips, hfailed⟩ := hr branch rfl
    refine keeps_bind (appendNonAdapterPlaybookStepOutcomeEvent_issues ..) rfl fun _ _ => ?_
    split
    · next hstatus =>
      rw [hskips, List.append_assoc, List.singleton_append]
      exact saveProgress_follows hat hentry hstatus hforward
    · next hstatus =>
      rw [hskips, hfailed hstatus, skippedBranchStepEntries_self, List.append_nil]
      exact afterFailure_follows hat (by simp [haction]) hentry hstatus

theorem recordControlEntry_follows {entry : LogEntry} {lost : String}
    (hat : AtStep pass.steps st step) (hgate : step.get "action" ≠ .str "require_approval")
    (hentry : StepEntry pass.steps st.index step entry) :
    (recordControlEntry py pass step st entry lost).Follows (protocol py (.worker pass.worker))
      (FlowOk pass) (pass.at saved savedStep st) := by
  unfold recordControlEntry
  refine keeps_bind (appendNonAdapterPlaybookStepOutcomeEvent_issues ..) rfl fun _ _ => ?_
  exact recordEntry_follows hat hgate hentry

theorem processTriggerStep_follows (hat : AtStep pass.steps st step)
    (haction : step.get "action" = .str "trigger_playbook") :
    (processTriggerStep py pass step st).Follows (protocol py (.worker pass.worker))
      (FlowOk pass) (pass.at saved savedStep st) := by
  unfold processTriggerStep
  have hissues : (executeTriggerPlaybookStep py step st.index pass.execution
      pass.timestamp).Issues Neutral (EntryOk pass.steps st.index step) :=
    executeTriggerPlaybookStep_issues haction
  refine keeps_bind hissues rfl fun r hr => ?_
  cases r with
  | error message => exact follows_ended rfl rfl
  | ok entry => exact recordControlEntry_follows hat (by simp [haction]) (hr entry rfl)

theorem processEnrichStep_follows (hat : AtStep pass.steps st step)
    (haction : step.get "action" = .str "enrich_context") :
    (processEnrichStep py pass step st).Follows (protocol py (.worker pass.worker))
      (FlowOk pass) (pass.at saved savedStep st) := by
  unfold processEnrichStep
  exact keeps_bind (executeEnrichContextStep_issues haction) rfl fun entry hentry =>
    recordControlEntry_follows hat (by simp [haction]) hentry

theorem processOtherStep_follows (hat : AtStep pass.steps st step)
    (hgate : step.get "action" ≠ .str "require_approval") :
    (processOtherStep py pass step st).Follows (protocol py (.worker pass.worker)) (FlowOk pass)
      (pass.at saved savedStep st) := by
  unfold processOtherStep
  refine keeps_bind (simulatedEntry_issues hgate) rfl fun simulated hsimulated => ?_
  split
  · exact follows_ended rfl rfl
  · refine keeps_bind (withNotificationDelivery_issues hsimulated) rfl fun entry hentry => ?_
    split
    · next hstatus =>
      refine Program.follows_bind (saveProgress_one_follows hat hentry hstatus) fun flow g hflow => ?_
      cases flow with
      | next st' =>
        obtain ⟨saved', savedStep', rfl⟩ := hflow
        exact keeps_bind (appendNonAdapterPlaybookStepOutcomeEvent_issues ..) rfl fun _ _ =>
          Program.follows_pure ⟨_, _, rfl⟩
      | stop st' => exact Program.follows_pure hflow
      | returned r => exact Program.follows_pure hflow
      | raised message => exact Program.follows_pure hflow
    · next hstatus =>
      exact keeps_bind (appendNonAdapterPlaybookStepOutcomeEvent_issues ..) rfl fun _ _ =>
        afterFailure_follows hat hgate hentry hstatus

theorem executeStep_follows (hat : AtStep pass.steps st step) :
    (executeStep py pass step st).Follows (protocol py (.worker pass.worker)) (FlowOk pass)
      (pass.at saved savedStep st) := by
  unfold executeStep
  simp only
  split
  · next h => exact processGateStep_follows hat (isOneOf_singleton h)
  · next hgate =>
    split
    · next h => exact processBranchStep_follows hat (isOneOf_singleton h)
    · split
      · next h => exact processTriggerStep_follows hat (isOneOf_singleton h)
      · split
        · next h => exact processEnrichStep_follows hat (isOneOf_singleton h)
        · refine processOtherStep_follows hat fun h => hgate ?_
          simp [h, Json.isOneOf]

theorem processStep_follows (hstep : pass.steps[st.index]? = some step) :
    (processStep py pass step st).Follows (protocol py (.worker pass.worker)) (FlowOk pass)
      (pass.at saved savedStep st) := by
  have hlt : st.index < pass.steps.length := (List.getElem?_eq_some_iff.mp hstep).1
  unfold processStep
  split
  · next h =>
    refine Program.Follows.silent (.succeededBefore hlt h) ?_
    exact Program.follows_pure ⟨_, _, rfl⟩
  · next hsucceeded =>
    split
    · next h =>
      refine Program.Follows.silent (.skippedBefore hlt h) ?_
      exact Program.follows_pure ⟨_, _, rfl⟩
    · next hskipped =>
      have hat : AtStep pass.steps st step := ⟨hstep, by simpa using hsucceeded, by simpa using hskipped⟩
      refine issue_bind fun r => ⟨_, .beat rfl, ?_⟩
      cases r with
      | none => exact follows_ended rfl rfl
      | some row => exact issue_bind fun _ => ⟨_, .begin hat, executeStep_follows hat⟩

theorem processLoop_follows (fuel : Nat) :
    (processLoop py pass fuel st).Follows (protocol py (.worker pass.worker)) (FlowOk pass)
      (pass.at saved savedStep st) := by
  induction fuel generalizing st saved savedStep with
  | zero => exact Program.follows_pure ⟨_, _, rfl⟩
  | succ fuel ih =>
    unfold processLoop
    split
    · exact Program.follows_pure ⟨_, _, rfl⟩
    · next step hstep =>
      refine Program.follows_bind (processStep_follows hstep) fun flow g hflow => ?_
      cases flow with
      | next st' =>
        obtain ⟨saved', savedStep', rfl⟩ := hflow
        exact ih
      | stop st' => exact Program.follows_pure hflow
      | returned r => exact Program.follows_pure hflow
      | raised message => exact Program.follows_pure hflow

theorem finishSteps_follows (hend : st.failed = true ∨ pass.steps.length ≤ st.index) :
    (finishSteps py pass st).Follows (protocol py (.worker pass.worker)) (fun _ g => g = .free)
      (pass.at saved savedStep st) := by
  unfold finishSteps
  simp only
  split
  · next hfailed =>
    refine Program.follows_bind (finalizeFailed_follows (.failed hfailed)) ?_
    rintro _ _ rfl
    exact Program.follows_pure rfl
  · next hfailed =>
    have hends : Ends (pass.at saved savedStep st) .success pass.execution.id st.stepsLog
        st.lastCompletedStep := .succeeded (by simpa using hfailed) (hend.resolve_left hfailed)
    refine Program.follows_bind (finalizeSuccess_follows hends) ?_
    rintro _ _ rfl
    exact Program.follows_pure rfl

variable (pass) in
theorem processSteps_follows {start : Nat} {log : List LogEntry} {lastStep : Option Int} :
    (processSteps py pass start log lastStep).Follows (protocol py (.worker pass.worker))
      (fun _ g => g = .free)
      (pass.at saved savedStep (.initial start log lastStep)) := by
  unfold processSteps
  refine Program.follows_bind ((processLoop_follows _).and_issues processLoop_ends)
    fun flow g hflow => ?_
  cases flow with
  | next st => exact hflow.2.elim
  | stop st =>
    obtain ⟨⟨_, _, rfl⟩, hend⟩ := hflow
    exact finishSteps_follows hend
  | returned r => exact Program.follows_pure hflow.1
  | raised message => exact Program.follows_pure hflow.1

end Loop

/-! ## Passes -/

section Passes

variable {row : Execution} {now : Int} {duration : LeaseDuration}

theorem failureEntry_note {stepIndex : Option Nat} {action message : Json} {code : StepErrorCode}
    (hcode : code.isStructural = false) :
    FailureNote (failureEntry py stepIndex action message code now none) where
  status_eq := rfl
  event_eq := rfl
  not_structural := by
    rintro error ⟨⟩
    exact hcode

theorem processRunningExecution_follows {prior : ExecutionStatus} :
    (processRunningExecution py row now prior w duration).Follows (protocol py (.worker w))
      (fun _ g => g = .free)
      (.held row row.playbookId (resumeProgress row).1 row.stepsLog (resumeProgress row).2) := by
  unfold processRunningExecution
  refine issue_bind fun r => ?_
  cases r with
  | none =>
    refine ⟨_, .noDefinition rfl, ?_⟩
    refine Program.follows_bind
      (finalizeFailed_follows (.undefinedPlaybook (failureEntry_note rfl))) ?_
    rintro _ _ rfl
    exact Program.follows_pure rfl
  | some definition =>
    exact ⟨_, .define rfl le_rfl (Nat.min_le_left ..),
      processSteps_follows ⟨row, definition.steps, now, prior, w, duration⟩⟩

theorem failAwaitingExecution_follows {g : Phase} {log : List LogEntry} {stepIndex : Option Nat}
    {code : StepErrorCode} {message : String} (hcode : code.isStructural = false)
    (hends : ∀ entry, FailureNote entry →
      Ends g .failed row.id (log ++ [entry]) row.lastCompletedStep) :
    (failAwaitingExecution py row log stepIndex code message now w).Follows
      (protocol py (.worker w)) (fun _ g => g = .free) g := by
  unfold failAwaitingExecution
  refine Program.follows_bind (finalizeFailed_follows (hends _ (failureEntry_note hcode))) ?_
  rintro _ _ rfl
  exact Program.follows_pure rfl

/-- A gate event adds at most one note to the log. -/
theorem withGateEvent_notes {log : List LogEntry} {gate : Nat} {request : ApprovalRequest}
    {status : EntryStatus} {event : EntryEvent} {message : String}
    (hstatus : status = .approved ∨ status = .resumed ∨ status = .denied ∨ status = .expired)
    (hevent : event ≠ .approvalRequested) :
    ∃ notes, withGateEvent log gate request status event message now = log ++ notes ∧
      ∀ note ∈ notes, GateNote gate note := by
  unfold withGateEvent
  split
  · exact ⟨[], by simp, by simp⟩
  · refine ⟨_, rfl, ?_⟩
    simp only [List.mem_singleton, forall_eq]
    exact ⟨rfl, hstatus, by simpa [approvalDecisionEntry] using hevent, rfl⟩

/-- The log of an approved gate: its approval and its resumption are added. -/
theorem resumedLog_notes (log : List LogEntry) (gate : Nat) (request : ApprovalRequest)
    (now : Int) :
    ∃ notes, withGateEvent
        (withGateEvent log gate request .approved .approvalApproved
          "Approval granted for simulated playbook gate." now)
        gate request .resumed .approvalResumed "Simulation resumed after approval." now =
      log ++ notes ∧ ∀ note ∈ notes, GateNote gate note := by
  have happroved : ∃ notes, withGateEvent log gate request .approved .approvalApproved
      "Approval granted for simulated playbook gate." now = log ++ notes ∧
        ∀ note ∈ notes, GateNote gate note :=
    withGateEvent_notes (by simp) (by simp)
  obtain ⟨approvals, hlog, happrovals⟩ := happroved
  have hresumed : ∃ notes, withGateEvent (log ++ approvals) gate request .resumed .approvalResumed
      "Simulation resumed after approval." now = log ++ approvals ++ notes ∧
        ∀ note ∈ notes, GateNote gate note :=
    withGateEvent_notes (by simp) (by simp)
  obtain ⟨resumptions, hlog', hresumptions⟩ := hresumed
  refine ⟨approvals ++ resumptions, by rw [hlog, hlog', List.append_assoc], fun note hnote => ?_⟩
  exact (List.mem_append.mp hnote).elim (happrovals note) (hresumptions note)

theorem resumeLeaseNotAcquired_follows {g : Phase} {message : String} (hquiet : g.quiet = true) :
    (resumeLeaseNotAcquired row message).Follows (protocol py (.worker w))
      (fun _ g => g = .free) g :=
  issue_bind fun _ => ⟨_, .neutral (.getExecution _) hquiet, follows_ended hquiet rfl⟩

theorem resumeApproved_follows {gate : Nat} {request : ApprovalRequest}
    (hstatus : request.status = .approved) :
    (resumeApproved py row gate request now w duration).Follows (protocol py (.worker w))
      (fun _ g => g = .free) (.gated row gate (some request) none) := by
  unfold resumeApproved
  refine keeps_bind (appendPlaybookExecutionOutcomeEvent_issues nofun) rfl fun _ _ => ?_
  dsimp only
  obtain ⟨notes, hlog, hnotes⟩ := resumedLog_notes row.stepsLog gate request now
  rw [hlog]
  refine issue_bind fun r => ?_
  cases r with
  | none =>
    exact ⟨_, .unresumed rfl (.notes (.approved hstatus) hnotes), resumeLeaseNotAcquired_follows rfl⟩
  | some resumed =>
    refine ⟨_, .resume rfl (.notes (.approved hstatus) hnotes), ?_⟩
    refine keeps_bind (appendPlaybookExecutionOutcomeEvent_issues nofun) rfl fun _ _ => ?_
    refine keeps_bind (appendPlaybookExecutionOutcomeEvent_issues nofun) rfl fun _ _ => ?_
    refine issue_bind fun r => ?_
    cases r with
    | none =>
      exact ⟨_, .noDefinition rfl, failAwaitingExecution_follows rfl fun _ => .undefinedResume⟩
    | some definition =>
      exact ⟨_, .define rfl (Nat.min_le_left ..) le_rfl,
        processSteps_follows ⟨resumed, definition.steps, now, .awaitingApproval, w, duration⟩⟩

theorem closeGate_follows {gate : Nat} {request : ApprovalRequest}
    (hstatus : request.status = .denied ∨ request.status = .expired) :
    (closeGate py row gate request now w duration).Follows (protocol py (.worker w))
      (fun _ g => g = .free) (.gated row gate (some request) none) := by
  unfold closeGate
  refine issue_bind fun definition => ⟨_, .consult, ?_⟩
  simp only
  generalize hsteps : (definition.map PlaybookDefinition.steps).getD [] = steps
  refine keeps_bind (appendPlaybookExecutionOutcomeEvent_issues nofun) rfl fun _ _ => ?_
  have hclosed : closedGateStatus request.status = .approved ∨
      closedGateStatus request.status = .resumed ∨ closedGateStatus request.status = .denied ∨
      closedGateStatus request.status = .expired := by
    rcases hstatus with h | h <;> simp [closedGateStatus, h]
  have hevent : closedGateEvent request.status ≠ .approvalRequested := by
    rcases hstatus with h | h <;> simp [closedGateEvent, h]
  have hclose : ∃ notes, withGateEvent row.stepsLog gate request
      (closedGateStatus request.status) (closedGateEvent request.status)
      s!"Approval {request.status.text}; later steps were not run." now = row.stepsLog ++ notes ∧
        ∀ note ∈ notes, GateNote gate note :=
    withGateEvent_notes hclosed hevent
  obtain ⟨notes, hlog, hnotes⟩ := hclose
  rw [hlog]
  split
  · next hpolicy =>
    refine issue_bind fun r => ?_
    cases r with
    | none =>
      exact ⟨_, .unresumed rfl (.notes (.branch hstatus hpolicy) hnotes),
        resumeLeaseNotAcquired_follows rfl⟩
    | some resumed =>
      refine ⟨_, .resume rfl (.notes (.branch hstatus hpolicy) hnotes), ?_⟩
      refine keeps_bind (appendPlaybookExecutionOutcomeEvent_issues nofun) rfl fun _ _ => ?_
      exact processSteps_follows ⟨resumed, steps, now, .awaitingApproval, w, duration⟩
  · refine Program.follows_bind (finalizeNotActioned_follows (.closed hstatus hnotes)) ?_
    rintro _ _ rfl
    exact Program.follows_pure rfl

theorem processAwaitingApprovalExecution_follows :
    (processAwaitingApprovalExecution py row now w duration).Follows (protocol py (.worker w))
      (fun _ g => g = .free) (.viewed row) := by
  unfold processAwaitingApprovalExecution
  split
  · next hgate => exact failAwaitingExecution_follows rfl fun _ => .noGate hgate
  · next gate hgate =>
    refine issue_bind fun r => ⟨_, .ask hgate, ?_⟩
    cases r with
    | none => exact failAwaitingExecution_follows rfl fun _ => .noRequest
    | some request =>
      simp only
      split
      · exact follows_ended rfl rfl
      · next h => exact resumeApproved_follows h
      · next h => exact closeGate_follows (.inl h)
      · next h => exact closeGate_follows (.inr h)

theorem processPendingExecution_follows :
    (processPendingExecution py row now w duration).Follows (protocol py (.worker w))
      (fun _ g => g = .free) .free := by
  unfold processPendingExecution
  refine issue_bind fun r => ?_
  cases r with
  | none =>
    refine ⟨_, .refused (.acquireLease rfl), issue_bind fun _ => ?_⟩
    exact ⟨_, .neutral (.getExecution _) rfl, Program.follows_pure rfl⟩
  | some running =>
    refine ⟨_, .lease rfl, ?_⟩
    exact keeps_bind (appendPlaybookExecutionOutcomeEvent_issues nofun) rfl fun _ _ =>
      processRunningExecution_follows

theorem processPlaybookExecution_follows {id : Nat} :
    (processPlaybookExecution py id now w duration).Follows (protocol py (.worker w))
      (fun _ g => g = .free) .free := by
  unfold processPlaybookExecution
  refine issue_bind fun r => ?_
  cases r with
  | none => exact ⟨_, .neutral (.getExecution _) rfl, Program.follows_pure rfl⟩
  | some row =>
    simp only
    split
    · exact ⟨_, .neutral (.getExecution _) rfl, processPendingExecution_follows⟩
    · next hrunning =>
      split
      · next howner => exact ⟨_, .rejoin rfl hrunning howner, processRunningExecution_follows⟩
      · split
        · exact ⟨_, .neutral (.getExecution _) rfl, Program.follows_pure rfl⟩
        · exact ⟨_, .neutral (.getExecution _) rfl, Program.follows_pure rfl⟩
    · next hwaits => exact ⟨_, .view rfl hwaits, processAwaitingApprovalExecution_follows⟩
    · exact ⟨_, .neutral (.getExecution _) rfl, Program.follows_pure rfl⟩

theorem processNextPendingPlaybookExecution_follows :
    (processNextPendingPlaybookExecution py now w duration).Follows (protocol py (.worker w))
      (fun _ g => g = .free) .free := by
  unfold processNextPendingPlaybookExecution
  refine issue_bind fun r => ?_
  cases r with
  | none => exact ⟨_, .refused (.claimNext rfl), Program.follows_pure rfl⟩
  | some claimed =>
    refine ⟨_, .claim rfl, ?_⟩
    refine keeps_bind (appendPlaybookExecutionOutcomeEvent_issues nofun) rfl fun _ _ => ?_
    refine Program.follows_bind processRunningExecution_follows ?_
    rintro (_ | r) _ rfl <;> exact Program.follows_pure rfl

theorem processPendingLoop_follows (fuel : Nat) (results : List PassResult) :
    (processPendingLoop py now w duration fuel results).Follows (protocol py (.worker w))
      (fun _ g => g = .free) .free := by
  induction fuel generalizing results with
  | zero => exact Program.follows_pure rfl
  | succ fuel ih =>
    unfold processPendingLoop
    refine Program.follows_bind processNextPendingPlaybookExecution_follows ?_
    rintro (_ | r | _) _ rfl
    · exact Program.follows_pure rfl
    · exact ih _
    · exact Program.follows_pure rfl

theorem processAwaitingLoop_follows (rows : List Execution) (results : List PassResult) :
    (processAwaitingLoop py now w duration rows results).Follows (protocol py (.worker w))
      (fun _ g => g = .free) .free := by
  induction rows generalizing results with
  | nil => exact Program.follows_pure rfl
  | cons row rows ih =>
    unfold processAwaitingLoop
    refine Program.follows_bind processPlaybookExecution_follows ?_
    rintro (_ | r) _ rfl
    · exact Program.follows_pure rfl
    · exact ih _

theorem processPlaybookExecutionBatch_follows {limit : Int} :
    (processPlaybookExecutionBatch py limit now w duration).Follows (protocol py (.worker w))
      (fun _ g => g = .free) .free := by
  unfold processPlaybookExecutionBatch
  refine Program.follows_bind (processPendingLoop_follows _ _) ?_
  rintro (_ | results) _ rfl
  · exact Program.follows_pure rfl
  · simp only
    split
    · exact Program.follows_pure rfl
    · exact issue_bind fun rows =>
        ⟨_, .neutral (.listAwaitingApproval _) rfl, processAwaitingLoop_follows _ _⟩

end Passes

/-! ## Other tasks -/

theorem recoverStaleExecution_follows {id : Nat} {now : Int} :
    (recoverStaleExecution py id now).Follows (protocol py a) (fun _ g => g = .free) .free := by
  unfold recoverStaleExecution
  refine issue_bind fun r => ?_
  cases r with
  | none => exact ⟨_, .refused (.markStale rfl), Program.follows_pure rfl⟩
  | some updated =>
    simp only
    split
    · next hfailed =>
      exact ⟨_, .exhausted rfl hfailed, captureFailedExecutionDeadLetter_follows ..⟩
    · next hfailed => exact ⟨_, .requeued rfl hfailed, Program.follows_pure rfl⟩

theorem recoverStaleLoop_follows {now : Int} (rows : List Execution) :
    (recoverStaleLoop py now rows).Follows (protocol py a) (fun _ g => g = .free) .free := by
  induction rows with
  | nil => exact Program.follows_pure rfl
  | cons row rows ih =>
    unfold recoverStaleLoop
    exact Program.follows_bind recoverStaleExecution_follows fun _ _ h => h ▸ ih

theorem recoverStalePlaybookExecutions_follows {limit now : Int} :
    (recoverStalePlaybookExecutions py limit now).Follows (protocol py a)
      (fun _ g => g = .free) .free :=
  issue_bind fun rows =>
    ⟨_, .neutral (.listStaleRunning ..) rfl, recoverStaleLoop_follows rows⟩

theorem abandonPlaybookExecutionRoute_follows {id : Nat} :
    (abandonPlaybookExecutionRoute id).Follows (protocol py a) (fun _ g => g = .free) .free := by
  unfold abandonPlaybookExecutionRoute
  refine issue_bind fun r => ⟨_, .neutral (.getExecution _) rfl, ?_⟩
  cases r with
  | none => exact Program.follows_pure rfl
  | some execution =>
    refine issue_bind fun r => ⟨_, .operator (.abandon id), ?_⟩
    cases r with
    | none =>
      exact issue_bind fun _ => ⟨_, .neutral (.getExecution _) rfl, Program.follows_pure rfl⟩
    | some _ =>
      exact keeps_bind (appendPlaybookExecutionOutcomeEvent_issues nofun) rfl fun _ _ =>
        Program.follows_pure rfl

theorem permanentlyFail_reply_follows {id : Nat} {previous : Execution} :
    (permanentlyFailPlaybookExecutionRoute.reply id previous).Follows (protocol py a)
      (fun _ g => g = .free) .free := by
  unfold permanentlyFailPlaybookExecutionRoute.reply
  split
  · exact Program.follows_pure rfl
  · exact keeps_bind (appendPlaybookExecutionOutcomeEvent_issues nofun) rfl fun _ _ =>
      Program.follows_pure rfl

theorem permanentlyFailPlaybookExecutionRoute_follows {id : Nat} {reason : String} :
    (permanentlyFailPlaybookExecutionRoute id reason).Follows (protocol py a)
      (fun _ g => g = .free) .free := by
  unfold permanentlyFailPlaybookExecutionRoute
  refine issue_bind fun r => ⟨_, .neutral (.getExecution _) rfl, ?_⟩
  cases r with
  | none => exact Program.follows_pure rfl
  | some previous =>
    refine issue_bind fun r => ⟨_, .neutral (.getExecution _) rfl, ?_⟩
    cases r with
    | none => exact Program.follows_pure rfl
    | some current =>
      simp only
      split
      · exact permanentlyFail_reply_follows
      · split
        · exact Program.follows_pure rfl
        · refine issue_bind fun r => ⟨_, .operator (.permanentlyFail id _), ?_⟩
          cases r with
          | some _ => exact permanentlyFail_reply_follows
          | none =>
            refine issue_bind fun r => ⟨_, .neutral (.getExecution _) rfl, ?_⟩
            cases r with
            | none => exact Program.follows_pure rfl
            | some _ => exact permanentlyFail_reply_follows

theorem resumePlaybookExecutionRoute_follows {id : Nat} {now : Int} :
    (resumePlaybookExecutionRoute id now).Follows (protocol py a) (fun _ g => g = .free)
      .free := by
  unfold resumePlaybookExecutionRoute
  refine issue_bind fun r => ⟨_, .neutral (.getExecution _) rfl, ?_⟩
  cases r with
  | none => exact Program.follows_pure rfl
  | some execution =>
    simp only
    split
    · exact Program.follows_pure rfl
    · split
      · exact Program.follows_pure rfl
      · refine issue_bind fun r => ⟨_, .neutral (.latestRequest ..) rfl, ?_⟩
        cases r with
        | none => exact Program.follows_pure rfl
        | some approval =>
          simp only
          split
          · exact Program.follows_pure rfl
          · exact issue_bind fun _ => ⟨_, .operator (.requeue id), Program.follows_pure rfl⟩

/-- The routes that create executions issue neutral statements only. -/
theorem createManualPlaybookExecutionRoute_issues {playbookId : String}
    {alertId incidentId : Option Nat} :
    (createManualPlaybookExecutionRoute playbookId alertId incidentId).Issues Neutral
      (fun _ => True) := by
  unfold createManualPlaybookExecutionRoute
  refine Program.issues_call_bind (.getDefinition _) fun definition => ?_
  cases definition with
  | none => exact Program.issues_pure trivial
  | some definition =>
    simp only
    split
    · exact Program.issues_pure trivial
    · refine Program.issues_call_bind (.activeForTarget ..) fun active => ?_
      cases active with
      | some _ => exact Program.issues_pure trivial
      | none =>
        refine Program.issues_call_bind (.insertExecution _) fun created => ?_
        cases created with
        | error _ => exact Program.issues_pure trivial
        | ok id =>
          exact Program.issues_bind (createAndLinkPlaybookExecutionDecision_issues nofun)
            fun _ _ => Program.issues_pure trivial

theorem createPendingExecutionForAlert_issues {playbookId : String} {alertId : Nat}
    {incidentId : Option Nat} :
    (createPendingExecutionForAlert playbookId alertId incidentId).Issues Neutral
      (fun _ => True) := by
  unfold createPendingExecutionForAlert
  refine Program.issues_call_bind (.createPendingOnce _) fun created => ?_
  rcases created with _ | _ | id
  · exact Program.issues_pure trivial
  · exact Program.issues_pure trivial
  · exact Program.issues_bind (createAndLinkPlaybookExecutionDecision_issues nofun)
      fun _ _ => Program.issues_pure trivial

theorem createRetryExecution_issues {sourceId : Nat} :
    (createRetryExecution sourceId).Issues Neutral (fun _ => True) := by
  unfold createRetryExecution
  refine Program.issues_call_bind (.getExecution _) fun source => ?_
  cases source with
  | none => exact Program.issues_pure trivial
  | some source =>
    simp only
    split
    · exact Program.issues_pure trivial
    · refine Program.issues_call_bind (.activeExists ..) fun active => ?_
      split
      · exact Program.issues_pure trivial
      · refine Program.issues_call_bind (.insertExecution _) fun created => ?_
        cases created <;> exact Program.issues_pure trivial

theorem retryPlaybookExecutionRoute_issues {id : Nat} :
    (retryPlaybookExecutionRoute id).Issues Neutral (fun _ => True) := by
  unfold retryPlaybookExecutionRoute
  refine Program.issues_call_bind (.getExecution _) fun execution => ?_
  cases execution with
  | none => exact Program.issues_pure trivial
  | some execution =>
    simp only
    split
    · exact Program.issues_pure trivial
    · refine Program.issues_call_bind (.getDefinition _) fun definition => ?_
      cases definition with
      | none => exact Program.issues_pure trivial
      | some definition =>
        refine Program.issues_call_bind (.activeExists ..) fun active => ?_
        split
        · exact Program.issues_pure trivial
        · refine Program.issues_bind createRetryExecution_issues fun created _ => ?_
          cases created with
          | error _ => exact Program.issues_pure trivial
          | ok newId =>
            exact Program.issues_bind (createAndLinkPlaybookExecutionDecision_issues nofun)
              fun _ _ => Program.issues_pure trivial

/-! ## The refinement -/

/-- A task that issues neutral statements only. -/
theorem issues_task {α : Type} {p : Prog α} {Ret : α → Prop} (h : p.Issues Neutral Ret) :
    p.discard.Follows (protocol py a) (fun _ g => g = .free) .free :=
  Program.follows_discard ((issues_keeps h (g := .free) rfl).imp fun _ _ hx => hx.1)

theorem code_follows {t : Task} {p : Prog Unit} (h : code py a t = some p) :
    p.Follows (protocol py a) (fun _ g => g = .free) .free := by
  cases t with
  | processExecution =>
    cases a with
    | operator => cases h
    | worker =>
      cases h
      exact Program.follows_discard processPlaybookExecution_follows
  | processNextPending =>
    cases a with
    | operator => cases h
    | worker =>
      cases h
      exact Program.follows_discard processNextPendingPlaybookExecution_follows
  | processBatch =>
    cases a with
    | operator => cases h
    | worker =>
      cases h
      exact Program.follows_discard processPlaybookExecutionBatch_follows
  | recoverStale =>
    cases a <;> cases h <;> exact recoverStalePlaybookExecutions_follows
  | abandon =>
    cases a <;> cases h <;> exact Program.follows_discard abandonPlaybookExecutionRoute_follows
  | permanentlyFail =>
    cases a <;> cases h <;>
      exact Program.follows_discard permanentlyFailPlaybookExecutionRoute_follows
  | resume =>
    cases a <;> cases h <;> exact Program.follows_discard resumePlaybookExecutionRoute_follows
  | createManual => cases a <;> cases h <;> exact issues_task createManualPlaybookExecutionRoute_issues
  | createForAlert => cases a <;> cases h <;> exact issues_task createPendingExecutionForAlert_issues
  | retry => cases a <;> cases h <;> exact issues_task retryPlaybookExecutionRoute_issues
  | decide =>
    cases a <;> cases h <;>
      exact issues_task (Program.issues_call (.decideRequest ..) fun _ => trivial)
  | expireRequests =>
    cases a <;> cases h <;>
      exact issues_task (Program.issues_call (.expireRequests ..) fun _ => trivial)

variable (py) in
/-- Every task of the playbook system keeps to the protocol. -/
def refinement : Refinement (system py) Phase where
  protocol := protocol py
  between := .free
  follows _ _ _ h := code_follows h

end SiemDashboard.StepExecutor
