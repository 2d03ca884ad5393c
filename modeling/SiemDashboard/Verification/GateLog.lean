import SiemDashboard.Engines.AcceptedSteps
import SiemDashboard.Engines.PassAttachment

/-!
# Gates in the log

What the log of an execution and the decided approval requests say about the gates of its playbook.

* **Gates** — `IsGate`, `Granted`, `Passed`, `SkippedByBranch`, `Cleared`.
* **Logs** — `LogSound`: a log vouches for every gate before the steps it shows.
* **Additions** — what keeps a log sound when entries are added.
-/

namespace SiemDashboard.ApprovalGate

open Python ActionVocabulary PlaybookRegistry StepExecutor

/-! ## Gates -/

/-- The vocabulary takes the step at the index for an approval gate, and another step follows. -/
def IsGate (py : Python) (steps : List Json) (i : Nat) : Prop :=
  i + 1 < steps.length ∧ ∃ step raw, steps[i]? = some step ∧ step.get "action" = .str raw ∧
    resolveActionForPlaybook py raw = .ok "require_approval"

/-- A decision that lets the playbook go on after the gate: approval, or a denial or expiration
    for which the gate's policy is `branch`. -/
def Granted (steps : List Json) (i : Nat) (status : ApprovalStatus) : Prop :=
  status = .approved ∨
    (status = .denied ∨ status = .expired) ∧ branchContinues steps i status = true

/-- The request is stored, for that step of that execution. -/
def Recorded (db : Db) (e i : Nat) (request : ApprovalRequest) : Prop :=
  db.approvals.row? request.id = some request ∧ request.playbookExecutionId = some e ∧
    request.playbookStepIndex = some i

/-- Some request for the gate was granted. -/
def Passed (db : Db) (steps : List Json) (e i : Nat) : Prop :=
  ∃ request, Recorded db e i request ∧ Granted steps i request.status

/-- A taken branch has skipped the step. -/
def SkippedByBranch (log : List LogEntry) (i : Nat) : Prop :=
  ∃ entry ∈ log, entry.stepIndex = some i ∧ entry.status = .skipped ∧
    entry.event = some .skippedByBranch

/-- Every step after the index is skipped. -/
def ClosedAfter (steps : List Json) (log : List LogEntry) (i : Nat) : Prop :=
  ∀ k, i < k → k < steps.length → stepAlreadySkippedInLog log k = true

/-- The gate does not hold back the steps after it, or there are none left to run. -/
def Cleared (db : Db) (steps : List Json) (e : Nat) (log : List LogEntry) (i : Nat) : Prop :=
  Passed db steps e i ∨ SkippedByBranch log i ∨ ClosedAfter steps log i

/-- Every gate before the index is cleared. -/
def ClearedBelow (py : Python) (db : Db) (steps : List Json) (e : Nat) (log : List LogEntry)
    (n : Nat) : Prop :=
  ∀ i < n, IsGate py steps i → Cleared db steps e log i

/-- Where `_resume_progress` starts after the last completed step. -/
def resumeStart (lastCompletedStep : Option Int) : Nat :=
  match lastCompletedStep with
  | none => 0
  | some completed => if completed < 0 then 0 else completed.toNat + 1

theorem resumeProgress_fst (row : Execution) :
    (resumeProgress row).1 = resumeStart row.lastCompletedStep := by
  unfold resumeProgress resumeStart
  rcases row.lastCompletedStep with _ | completed
  · rfl
  · by_cases h : completed < 0 <;> simp [h]

theorem resumeStart_resumeProgress (row : Execution) :
    resumeStart (resumeProgress row).2 = resumeStart row.lastCompletedStep := by
  unfold resumeProgress resumeStart
  rcases row.lastCompletedStep with _ | completed
  · rfl
  · by_cases h : completed < 0 <;> simp [h]

@[simp] theorem resumeStart_natCast (n : Nat) : resumeStart (some (n : Int)) = n + 1 := by
  simp [resumeStart]

/-! ## Logs -/

/-- No gate has a success entry, every skipped step was skipped by a branch or after a closed gate,
    and at every request for a gate the gates before it were cleared. -/
structure LogSound (py : Python) (db : Db) (steps : List Json) (e : Nat)
    (log : List LogEntry) : Prop where
  succeeded : ∀ entry ∈ log, ∀ i, entry.status = .success → entry.stepIndex = some i →
    ¬ IsGate py steps i
  skipped : ∀ entry ∈ log, ∀ i, entry.status = .skipped → entry.stepIndex = some i →
    SkippedByBranch log i ∨ ClosedAfter steps log i
  requested : ∀ entry ∈ log, ∀ i, gateIndex? entry = some i → ClearedBelow py db steps e log i

section

variable {py : Python} {db db' : Db} {steps : List Json} {e i n : Nat} {log added : List LogEntry}
  {entry : LogEntry}

theorem logSound_nil : LogSound py db steps e [] :=
  ⟨List.forall_mem_nil _, List.forall_mem_nil _, List.forall_mem_nil _⟩

theorem SkippedByBranch.append (h : SkippedByBranch log i) : SkippedByBranch (log ++ added) i := by
  obtain ⟨entry, hentry, h⟩ := h
  exact ⟨entry, List.mem_append_left _ hentry, h⟩

theorem ClosedAfter.append (h : ClosedAfter steps log i) : ClosedAfter steps (log ++ added) i := by
  intro k hlt hlength
  have hskipped := h k hlt hlength
  unfold stepAlreadySkippedInLog at hskipped ⊢
  rw [List.any_append, hskipped, Bool.true_or]

theorem Cleared.append (h : Cleared db steps e log i) : Cleared db steps e (log ++ added) i :=
  h.imp_right (Or.imp SkippedByBranch.append ClosedAfter.append)

theorem ClearedBelow.append (h : ClearedBelow py db steps e log n) :
    ClearedBelow py db steps e (log ++ added) n :=
  fun i hlt hgate => (h i hlt hgate).append

theorem ClearedBelow.of_le {m : Nat} (h : ClearedBelow py db steps e log n) (hle : m ≤ n) :
    ClearedBelow py db steps e log m :=
  fun i hlt hgate => h i (by omega) hgate

theorem clearedBelow_zero : ClearedBelow py db steps e log 0 :=
  fun i hlt _ => absurd hlt (Nat.not_lt_zero i)

theorem ClearedBelow.succ (h : ClearedBelow py db steps e log n)
    (hn : IsGate py steps n → Cleared db steps e log n) :
    ClearedBelow py db steps e log (n + 1) := by
  intro i hlt hgate
  rcases Nat.lt_succ_iff_lt_or_eq.mp hlt with hlt | rfl
  · exact h i hlt hgate
  · exact hn hgate

/-! ## Decided requests -/

theorem Granted.decided {status : ApprovalStatus} (h : Granted steps i status) :
    status ≠ .pending := by
  rintro rfl
  rcases h with h | ⟨h | h, -⟩ <;> cases h

theorem Recorded.exec {request : ApprovalRequest} {w : World} {q : Stmt}
    (h : Recorded db e i request) (hdecided : request.status ≠ .pending) :
    Recorded (exec w q db).2 e i request :=
  ⟨exec_decided h.1 hdecided, h.2⟩

/-- The requests that were granted in the first tables are granted in the others. -/
def PassedStay (steps : List Json) (db db' : Db) : Prop :=
  ∀ e i, Passed db steps e i → Passed db' steps e i

theorem passedStay_exec (w : World) (q : Stmt) (db : Db) :
    PassedStay steps db (exec w q db).2 := by
  rintro e i ⟨request, hrecorded, hgranted⟩
  exact ⟨request, hrecorded.exec hgranted.decided, hgranted⟩

theorem ClearedBelow.mono (hstay : PassedStay steps db db')
    (h : ClearedBelow py db steps e log n) : ClearedBelow py db' steps e log n :=
  fun i hlt hgate => (h i hlt hgate).imp_left (hstay e i)

theorem LogSound.mono (hstay : PassedStay steps db db') (h : LogSound py db steps e log) :
    LogSound py db' steps e log :=
  ⟨h.succeeded, h.skipped, fun entry hentry i hi => (h.requested entry hentry i hi).mono hstay⟩

/-! ## Additions -/

/-- The conditions under which entries may be added. -/
theorem LogSound.append (h : LogSound py db steps e log)
    (hsucceeded : ∀ entry ∈ added, ∀ i, entry.status = .success → entry.stepIndex = some i →
      ¬ IsGate py steps i)
    (hskipped : ∀ entry ∈ added, ∀ i, entry.status = .skipped → entry.stepIndex = some i →
      SkippedByBranch (log ++ added) i ∨ ClosedAfter steps (log ++ added) i)
    (hrequested : ∀ entry ∈ added, ∀ i, gateIndex? entry = some i →
      ClearedBelow py db steps e (log ++ added) i) :
    LogSound py db steps e (log ++ added) := by
  refine ⟨fun entry hentry i => ?_, fun entry hentry i hstatus hindex => ?_,
    fun entry hentry i hi => ?_⟩
  · rcases List.mem_append.mp hentry with hmem | hmem
    · exact h.succeeded entry hmem i
    · exact hsucceeded entry hmem i
  · rcases List.mem_append.mp hentry with hmem | hmem
    · exact (h.skipped entry hmem i hstatus hindex).imp SkippedByBranch.append ClosedAfter.append
    · exact hskipped entry hmem i hstatus hindex
  · rcases List.mem_append.mp hentry with hmem | hmem
    · exact (h.requested entry hmem i hi).append
    · exact hrequested entry hmem i hi

/-- An entry that says nothing about gates: neither a success, nor a skip, nor a request. -/
structure Plain (entry : LogEntry) : Prop where
  not_success : entry.status ≠ .success
  not_skipped : entry.status ≠ .skipped
  no_gate : gateIndex? entry = none

theorem LogSound.append_plain (h : LogSound py db steps e log)
    (hplain : ∀ entry ∈ added, Plain entry) : LogSound py db steps e (log ++ added) := by
  refine h.append (fun entry hentry i hstatus => ?_) (fun entry hentry i hstatus => ?_)
    fun entry hentry i hi => ?_
  · exact absurd hstatus (hplain entry hentry).not_success
  · exact absurd hstatus (hplain entry hentry).not_skipped
  · rw [(hplain entry hentry).no_gate] at hi
    cases hi

theorem gateIndex?_of_event (h : entry.event ≠ some .approvalRequested) :
    gateIndex? entry = none := by
  simp [gateIndex?, h]

theorem plain_of_failed (hstatus : entry.status = .failed)
    (hevent : entry.event ≠ some .approvalRequested) : Plain entry where
  not_success h := by cases hstatus.symm.trans h
  not_skipped h := by cases hstatus.symm.trans h
  no_gate := gateIndex?_of_event hevent

theorem FailureNote.plain (h : FailureNote entry) : Plain entry := by
  refine plain_of_failed h.status_eq ?_
  rw [h.event_eq]
  exact fun h => by cases h

theorem GateNote.plain {gate : Nat} (h : GateNote gate entry) : Plain entry where
  not_success hs := by rcases h.status_cases with h | h | h | h <;> cases h.symm.trans hs
  not_skipped hs := by rcases h.status_cases with h | h | h | h <;> cases h.symm.trans hs
  no_gate := gateIndex?_of_event h.event_ne

theorem plain_notes {gate : Nat} (h : ∀ note ∈ added, GateNote gate note) :
    ∀ note ∈ added, Plain note :=
  fun note hnote => GateNote.plain (h note hnote)

/-- A step that succeeds is no gate. -/
theorem not_gate_of_success {step : Json} (hstep : steps[i]? = some step)
    (hentry : StepEntry steps i step entry) (hstatus : entry.status = .success) :
    ¬ IsGate py steps i := by
  rintro ⟨-, step', raw, hstep', hraw, hresolve⟩
  cases hstep.symm.trans hstep'
  obtain ⟨action, haction, hknown, hgate⟩ := hentry.action_known hstatus
  cases hraw.symm.trans haction
  cases hresolve.symm.trans (resolve_known hknown)
  exact hgate rfl

/-- What `latestGate` finds is requested in the log. -/
theorem latestGate_mem (h : latestGate log = some i) : ∃ entry ∈ log, gateIndex? entry = some i := by
  obtain ⟨entry, hentry, hi⟩ := List.exists_of_findSome?_eq_some h
  exact ⟨entry, List.mem_reverse.mp hentry, hi⟩

theorem mem_skippedBranch {start stop k : Nat} {now : Int} (hstart : start ≤ k) (hstop : k < stop) :
    SkippedByBranch (skippedBranchStepEntries steps start stop now) k := by
  refine ⟨_, List.mem_map.mpr ⟨k, ?_, rfl⟩, rfl, rfl, rfl⟩
  rw [List.mem_range'_1]
  omega

theorem skippedBranch_entry {start stop : Nat} {now : Int}
    (h : entry ∈ skippedBranchStepEntries steps start stop now) :
    ∃ k, entry.stepIndex = some k ∧ entry.status = .skipped ∧ entry.event = some .skippedByBranch ∧
      gateIndex? entry = none := by
  obtain ⟨k, -, rfl⟩ := List.mem_map.mp h
  exact ⟨k, rfl, rfl, rfl, gateIndex?_of_event fun h => by cases h⟩

/-- A log after a step that succeeded, with the steps its branch skips. -/
theorem LogSound.append_success {step : Json} {next : Nat} {now : Int}
    (h : LogSound py db steps e log) (hstep : steps[i]? = some step)
    (hentry : StepEntry steps i step entry) (hstatus : entry.status = .success) :
    LogSound py db steps e
      (log ++ entry :: skippedBranchStepEntries steps (i + 1) next now) := by
  refine h.append (fun entry' hmem k hsuccess hindex => ?_)
    (fun entry' hmem k hskipped hindex => ?_) fun entry' hmem k hgate => ?_
  · rcases List.mem_cons.mp hmem with rfl | hmem
    · cases hentry.index_eq.symm.trans hindex
      exact not_gate_of_success hstep hentry hstatus
    · obtain ⟨-, -, hskipped, -⟩ := skippedBranch_entry hmem
      cases hskipped.symm.trans hsuccess
  · rcases List.mem_cons.mp hmem with rfl | hmem
    · cases hstatus.symm.trans hskipped
    · obtain ⟨k', hk', -, hevent, -⟩ := skippedBranch_entry hmem
      exact .inl ⟨entry', List.mem_append_right _ (List.mem_cons_of_mem _ hmem), hindex, hskipped,
        hevent⟩
  · rcases List.mem_cons.mp hmem with rfl | hmem
    · rw [gateIndex?_of_event hentry.event_ne] at hgate
      cases hgate
    · obtain ⟨-, -, -, -, hnone⟩ := skippedBranch_entry hmem
      cases hnone.symm.trans hgate

/-- A log after a closed gate: every later step is skipped. -/
theorem LogSound.append_closed {gate : Nat} {reason : String} {now : Int}
    (h : LogSound py db steps e log) :
    LogSound py db steps e (log ++ skippedLaterStepEntries steps (gate + 1) reason now) := by
  refine h.append (fun entry' hmem k hsuccess hindex => ?_)
    (fun entry' hmem k hskipped hindex => ?_) fun entry' hmem k hgate => ?_
  · obtain ⟨k', -, rfl⟩ := List.mem_map.mp hmem
    cases hsuccess
  · obtain ⟨k', hk', rfl⟩ := List.mem_map.mp hmem
    cases hindex
    refine .inr fun k'' hlt hlength => ?_
    rw [List.mem_range'_1] at hk'
    refine List.any_eq_true.mpr ⟨skippedEntry steps k'' .skippedAfterApprovalGate _ reason [] now,
      List.mem_append_right _ (List.mem_map.mpr ⟨k'', ?_, rfl⟩), by simp [skippedEntry]⟩
    rw [List.mem_range'_1]
    omega
  · obtain ⟨k', -, rfl⟩ := List.mem_map.mp hmem
    rw [gateIndex?_of_event (fun h => by cases h)] at hgate
    cases hgate

/-- A log after a request for a gate before which every gate is cleared. -/
theorem LogSound.append_request {request : ApprovalRequest} {step : Json} {now : Int}
    (h : LogSound py db steps e log) (hcleared : ClearedBelow py db steps e log i) :
    LogSound py db steps e (log ++ [approvalRequestedEntry i request step now]) := by
  refine h.append ?_ ?_ ?_ <;> rintro _ hmem k <;> cases List.mem_singleton.mp hmem
  · rintro ⟨⟩
  · rintro ⟨⟩
  · rintro ⟨⟩
    exact hcleared.append

end

end SiemDashboard.ApprovalGate
