import SiemDashboard.Core.Statements

/-!
# What a statement leaves alone

* **Tables** — `Frame`: the tables a statement does not write; `exec_frame`.
* **Approvals** — `exec_decided`: decided requests stay; `exec_latestRequest`.
* **Trail** — `exec_decision`, `exec_outcomes`: decisions stay, the outcome trail only grows.
* **Dead letters** — `exec_deadLetters`.
-/

namespace SiemDashboard

open PlaybookStore ApprovalStore ResponseOutcomes DeadLetterStore Tables

/-! ## Tables -/

/-- The statements on approval requests. -/
def onApprovals : Stmt → Bool
  | .latestRequest .. | .insertRequest .. | .decideRequest .. | .expireRequests .. => true
  | _ => false

/-- The statements that can change executions. -/
def onExecutions : Stmt → Bool
  | .acquireLease .. | .claimNext .. | .acquireResumeLease .. | .heartbeat .. | .releaseLease ..
  | .updateStepLog .. | .setFinal .. | .setAwaitingApproval .. | .markStale ..
  | .createPendingOnce _ | .insertExecution _ | .linkDecision _ | .abandon _
  | .markPermanentlyFailed .. | .updateStatus .. => true
  | _ => false

/-- The tables that a statement leaves alone. -/
structure Frame (q : Stmt) (db db' : Db) : Prop where
  definition? : db'.definition? = db.definition?
  executions : onExecutions q = false → db'.executions = db.executions
  approvals : onApprovals q = false → db'.approvals = db.approvals
  decisions : (∀ id, q ≠ .linkDecision id) → db'.decisions = db.decisions
  outcomes : (∀ args, q ≠ .appendOutcome args) → db'.outcomes = db.outcomes
  deadLetters : (∀ args, q ≠ .createDeadLetter args) → db'.deadLetters = db.deadLetters

namespace Frame

variable {q : Stmt} {db db' : Db}

theorem refl : Frame q db db :=
  ⟨rfl, fun _ => rfl, fun _ => rfl, fun _ => rfl, fun _ => rfl, fun _ => rfl⟩

/-- Only executions are written. -/
theorem ofExecutions (hq : onExecutions q = true) {t : Table Execution Execution.id}
    (h : db' = { db with executions := t }) : Frame q db db' := by
  subst h
  refine ⟨rfl, fun hq' => ?_, fun _ => rfl, fun _ => rfl, fun _ => rfl, fun _ => rfl⟩
  rw [hq] at hq'
  cases hq'

/-- Only approval requests are written. -/
theorem ofApprovals (hq : onApprovals q = true)
    (h : ∃ t, db' = { db with approvals := t }) : Frame q db db' := by
  obtain ⟨t, rfl⟩ := h
  refine ⟨rfl, fun _ => rfl, fun hq' => ?_, fun _ => rfl, fun _ => rfl, fun _ => rfl⟩
  rw [hq] at hq'
  cases hq'

end Frame

theorem getLatestRequest_approvals (db : Db) (e i : Nat) (materialize : Bool) (now : Int) :
    ∃ t, (getLatestPlaybookStepApprovalRequest db e i materialize now).2 =
      { db with approvals := t } := by
  unfold getLatestPlaybookStepApprovalRequest
  split
  · exact ⟨_, rfl⟩
  · split <;> exact ⟨_, rfl⟩

theorem insertRequest_approvals (db : Db) (new : NewRequest) (createdAt : Int) :
    ∃ t, (insertPlaybookStepApprovalRequest db new createdAt).2 = { db with approvals := t } := by
  unfold insertPlaybookStepApprovalRequest
  repeat' split
  all_goals exact ⟨_, rfl⟩

theorem decideRequest_approvals (verdict : Verdict) (db : Db) (id actor : Nat)
    (comment : Option String) (now : Int) :
    ∃ t, (ApprovalStore.decideRequest verdict db id actor comment now).2 =
      { db with approvals := t } := by
  obtain h | ⟨h, -⟩ | ⟨h, -⟩ := decideRequest_cases verdict db id actor comment now <;>
    exact ⟨_, h⟩

theorem expireAll_approvals (db : Db) (due : List ApprovalRequest) (now : Int) :
    ∃ t, expireAll db due now = { db with approvals := t } := by
  induction due generalizing db with
  | nil => exact ⟨_, rfl⟩
  | cons r due ih =>
    obtain ⟨t, ht⟩ := ih (materializeExpiration db r.id now).2
    exact ⟨t, ht⟩

theorem insertExecution_executions (db : Db) (new : NewExecution) (createdAt : Int) :
    ∃ t, (insertExecution db new createdAt).2 = { db with executions := t } := by
  unfold insertExecution
  repeat' split
  all_goals exact ⟨_, rfl⟩

theorem createPendingOnce_snd (db : Db) (new : NewExecution) (createdAt : Int) :
    (createPendingPlaybookExecutionOnce db new createdAt).2 =
      (insertExecution db new createdAt).2 := by
  unfold createPendingPlaybookExecutionOnce
  split <;> simp_all

theorem claimNext_eq (db : Db) (locked : Nat → Bool) (owner : WorkerId) (duration : LeaseDuration)
    (now : Int) :
    claimNextPendingPlaybookExecutionWithLease db locked owner duration now = (none, db) ∨
      ∃ row ∈ queue db .pending, locked row.id = false ∧
        claimNextPendingPlaybookExecutionWithLease db locked owner duration now =
          acquireExecutionLease db row.id owner duration now := by
  unfold claimNextPendingPlaybookExecutionWithLease
  cases hfind : (queue db .pending).find? fun row => !locked row.id with
  | none => exact .inl rfl
  | some row =>
    exact .inr ⟨row, List.mem_of_find?_eq_some hfind, by simpa using List.find?_some hfind, rfl⟩

theorem exec_frame (w : World) (q : Stmt) (db : Db) : Frame q db (exec w q db).2 := by
  cases q with
  | getExecution | getDefinition | beginStep | listAwaitingApproval | listStaleRunning
  | activeForPair | activeForTarget | activeExists | call => exact .refl
  | latestRequest => exact .ofApprovals rfl (getLatestRequest_approvals ..)
  | insertRequest =>
    simp only [exec]
    split
    · exact .refl
    · exact .ofApprovals rfl (insertRequest_approvals ..)
  | decideRequest => exact .ofApprovals rfl (decideRequest_approvals ..)
  | expireRequests => exact .ofApprovals rfl (expireAll_approvals ..)
  | createPendingOnce new =>
    obtain ⟨t, ht⟩ := insertExecution_executions db new w.now
    exact .ofExecutions rfl ((createPendingOnce_snd db new w.now).trans ht)
  | insertExecution new =>
    obtain ⟨t, ht⟩ := insertExecution_executions db new w.now
    exact .ofExecutions rfl ht
  | claimNext owner duration now =>
    obtain h | ⟨row, -, -, h⟩ := claimNext_eq db w.locked owner duration now <;>
      simp only [exec, h]
    · exact .refl
    · exact .ofExecutions rfl rfl
  | linkDecision id =>
    simp only [exec, linkDecision]
    split
    · exact .refl
    · refine ⟨rfl, fun h => ?_, fun _ => rfl, fun h => absurd rfl (h id), fun _ => rfl,
        fun _ => rfl⟩
      cases h
  | appendOutcome args =>
    simp only [exec, appendOutcomeSafely]
    obtain ⟨_, h⟩ | ⟨_, -, h⟩ | ⟨_, _, _, _, _, -, -, h⟩ := appendOutcomeEvent_cases db args <;>
      simp only [h]
    · exact .refl
    · exact .refl
    · exact ⟨rfl, fun _ => rfl, fun _ => rfl, fun _ => rfl, fun h => absurd rfl (h args),
        fun _ => rfl⟩
  | createDeadLetter args =>
    simp only [exec, createDeadLetterSafely]
    obtain ⟨_, h⟩ | ⟨_, h⟩ := createDeadLetter_cases db args <;> simp only [h]
    · exact .refl
    · exact ⟨rfl, fun _ => rfl, fun _ => rfl, fun _ => rfl, fun _ => rfl,
        fun h => absurd rfl (h args)⟩
  | _ => exact .ofExecutions rfl rfl

/-! ## Approvals -/

section

variable {db : Db} {id : Nat} {request : ApprovalRequest}

theorem materializeExpiration_row? (db : Db) (id : Nat) (now : Int) (j : Nat) :
    (materializeExpiration db id now).2.approvals.row? j =
      if j = id then
        (db.approvals.row? id).map fun r => if r.status = .pending then expiredRequest r now else r
      else db.approvals.row? j := by
  have h := Table.update_row? db.approvals id (fun r => r.status = .pending)
    (fun r => expiredRequest r now) (fun _ => rfl) j
  simp only [decide_eq_true_eq] at h
  exact h

theorem materializeExpiration_decided {due : Nat} {now : Int}
    (h : db.approvals.row? id = some request) (hstatus : request.status ≠ .pending) :
    (materializeExpiration db due now).2.approvals.row? id = some request := by
  rw [materializeExpiration_row?]
  split
  · next he =>
    subst he
    simp [h, hstatus]
  · exact h

theorem expireAll_decided {due : List ApprovalRequest} {now : Int}
    (h : db.approvals.row? id = some request) (hstatus : request.status ≠ .pending) :
    (expireAll db due now).approvals.row? id = some request := by
  induction due generalizing db with
  | nil => exact h
  | cons r due ih => exact ih (materializeExpiration_decided h hstatus)

/-- A request that is no longer pending stays as it is. -/
theorem exec_decided {w : World} {q : Stmt} (h : db.approvals.row? id = some request)
    (hstatus : request.status ≠ .pending) :
    (exec w q db).2.approvals.row? id = some request := by
  cases hq : onApprovals q with
  | false => rwa [(exec_frame w q db).approvals hq]
  | true =>
    cases q with
    | latestRequest =>
      simp only [exec, getLatestPlaybookStepApprovalRequest]
      split
      · exact h
      · split
        · exact materializeExpiration_decided h hstatus
        · exact h
    | insertRequest =>
      simp only [exec]
      split
      · exact h
      · unfold insertPlaybookStepApprovalRequest
        repeat' split
        all_goals first | exact h | exact Table.insert_row?_of_some _ _ (newRequestRow_id _ _ _) h
    | decideRequest verdict due actor comment now =>
      simp only [exec]
      obtain hd | ⟨hd, -⟩ | ⟨hd, current, hcurrent, hpending⟩ :=
        decideRequest_cases verdict db due actor comment now <;> rw [hd]
      · exact h
      · exact materializeExpiration_decided h hstatus
      · -- the decided request was pending, so it is another one
        refine (Table.update_row?_of_ne _ _ _ (fun r => decidedRequest_id ..) ?_).trans h
        rintro rfl
        rw [h] at hcurrent
        cases hcurrent
        exact hstatus hpending
    | expireRequests => exact expireAll_decided h hstatus
    | _ => cases hq

end

theorem youngest_mem {requests : List ApprovalRequest} {request : ApprovalRequest}
    (h : youngest requests = some request) : request ∈ requests := by
  have hfold (rs : List ApprovalRequest) (r : ApprovalRequest) :
      rs.foldl youngerOf r ∈ r :: rs := by
    induction rs generalizing r with
    | nil => exact List.mem_singleton_self r
    | cons r' rs ih =>
      have hyounger : youngerOf r r' = r ∨ youngerOf r r' = r' := by
        unfold youngerOf
        split
        · exact .inr rfl
        · exact .inl rfl
      rw [List.foldl_cons]
      rcases hyounger with hr | hr <;> rw [hr]
      · rcases List.mem_cons.mp (ih r) with h | h
        · rw [h]
          exact List.mem_cons_self
        · exact List.mem_cons_of_mem _ (List.mem_cons_of_mem _ h)
      · exact List.mem_cons_of_mem _ (ih r')
  cases requests with
  | nil => cases h
  | cons r rs =>
    cases h
    exact hfold rs r

/-- The request that `get_latest_playbook_step_approval_request` answers with is a stored request
    of the step. -/
theorem exec_latestRequest {w : World} {db : Db} {e i : Nat} {materialize : Bool} {now : Int}
    {request : ApprovalRequest}
    (h : (exec w (.latestRequest e i materialize now) db).1 = some request) :
    (exec w (.latestRequest e i materialize now) db).2.approvals.row? request.id = some request ∧
      request.playbookExecutionId = some e ∧ request.playbookStepIndex = some i := by
  simp only [exec, getLatestPlaybookStepApprovalRequest] at h ⊢
  split at h
  · cases h
  · next current hcurrent =>
    obtain ⟨hmem, hstep⟩ := List.mem_filter.mp (youngest_mem hcurrent)
    simp only [Bool.and_eq_true, decide_eq_true_eq] at hstep
    have hrow : db.approvals.row? current.id = some current := Table.mem_rows.mp hmem
    split at h
    · next hdue =>
      obtain ⟨r, hr, hpending, rfl⟩ := Table.returning_eq_some.mp h
      rw [hrow] at hr
      cases hr
      rw [if_pos hdue]
      refine ⟨?_, hstep⟩
      rw [materializeExpiration_row?]
      simp [expiredRequest, hrow, of_decide_eq_true hpending]
    · next hdue =>
      cases h
      simp only [hdue]
      exact ⟨hrow, hstep⟩

/-! ## Trail -/

/-- Decisions stay. -/
theorem exec_decision {w : World} {q : Stmt} {db : Db} {id : Nat} {decision : Decision}
    (h : db.decisions.row? id = some decision) :
    (exec w q db).2.decisions.row? id = some decision := by
  by_cases hq : ∃ e, q = .linkDecision e
  · obtain ⟨e, rfl⟩ := hq
    simp only [exec, linkDecision]
    split
    · exact h
    · next correlation _ =>
      exact Table.insert_row?_of_some _ (fun id => ⟨id, correlation⟩) (fun _ => rfl) h
  · rwa [(exec_frame w q db).decisions fun e he => hq ⟨e, he⟩]

/-- An event appended safely: nothing happens, or one event that passes the checks is added under
    a key that was free. -/
theorem appendOutcomeSafely_cases (db : Db) (args : OutcomeArgs) :
    (appendOutcomeSafely db args).2 = db ∨
      ∃ mode state actor reason decision,
        validateOutcomeArgs args = .ok (mode, state, actor, reason) ∧
        (appendOutcomeSafely db args).2 =
          { db with outcomes :=
              db.outcomes ++ [outcomeRow args mode state actor reason decision] } := by
  unfold appendOutcomeSafely
  obtain ⟨_, h⟩ | ⟨_, -, h⟩ | ⟨mode, state, actor, reason, decision, hvalid, -, h⟩ :=
    appendOutcomeEvent_cases db args <;> rw [h]
  · exact .inl rfl
  · exact .inl rfl
  · exact .inr ⟨mode, state, actor, reason, decision, hvalid, rfl⟩

/-- The trail only grows. -/
theorem exec_outcomes (w : World) (q : Stmt) (db : Db) :
    ∃ added, (exec w q db).2.outcomes = db.outcomes ++ added := by
  by_cases hq : ∃ args, q = .appendOutcome args
  · obtain ⟨args, rfl⟩ := hq
    obtain h | ⟨_, _, _, _, _, -, h⟩ := appendOutcomeSafely_cases db args
    · exact ⟨[], by rw [List.append_nil]; exact congrArg Db.outcomes h⟩
    · exact ⟨_, congrArg Db.outcomes h⟩
  · exact ⟨[], by
      rw [List.append_nil]
      exact (exec_frame w q db).outcomes fun args ha => hq ⟨args, ha⟩⟩

end SiemDashboard
