import SiemDashboard.Core.StatementFrames

/-!
# What a statement does to the tables

* **Executions** — `RowStep`: what a statement with its answer makes of the execution it changes;
  `exec_row`: every execution after a statement is as it was, changed by a `RowStep`, or new.
* **Neutral statements** — `Neutral`.
* **Stability** — `exec_keeps`: executions stay, with their lineage.
-/

namespace SiemDashboard

open PlaybookStore ApprovalStore ResponseOutcomes DeadLetterStore Tables

/-! ## Executions -/

/-- A statement with its answer, an execution, and what the statement makes of it. -/
inductive RowStep : (q : Stmt) → Reply q → Execution → Execution → Prop
  | leased {id owner duration now r row row'} (hid : row.id = id) (hr : r = some row')
      (hstatus : row.status = .pending) (hfree : leaseIsActive row.leaseExpiresAt now = false)
      (hrow' : row' = underLease { row with
        status := .running, startedAt := row.startedAt.or (some now) } owner duration now) :
      RowStep (.acquireLease id owner duration now) r row row'
  | claimed {owner duration now r row row'} (hr : r = some row')
      (hstatus : row.status = .pending) (hfree : leaseIsActive row.leaseExpiresAt now = false)
      (hrow' : row' = underLease { row with
        status := .running, startedAt := row.startedAt.or (some now) } owner duration now) :
      RowStep (.claimNext owner duration now) r row row'
  | resumed {id owner stepsLog lastCompletedStep duration now r row row'} (hid : row.id = id)
      (hr : r = some row') (hstatus : row.status = .awaitingApproval)
      (hfree : leaseIsActive row.leaseExpiresAt now = false)
      (hrow' : row' = underLease { row with
        status := .running
        startedAt := row.startedAt.or (some now)
        completedAt := none
        stepsLog := stepsLog
        lastCompletedStep := lastCompletedStep } owner duration now) :
      RowStep (.acquireResumeLease id owner stepsLog lastCompletedStep duration now) r row row'
  | extended {id owner duration now r row row'} (hid : row.id = id) (hr : r = some row')
      (hstatus : row.status = .running) (howner : row.leaseOwner = some owner)
      (hactive : leaseIsActive row.leaseExpiresAt now = true)
      (hrow' : row' = { row with
        leaseHeartbeatAt := some now, leaseExpiresAt := some (duration.expiry now) }) :
      RowStep (.heartbeat id owner duration now) r row row'
  | released {id owner r row row'} (hid : row.id = id) (hr : r = some row')
      (howner : row.leaseOwner = some owner) (hrow' : row' = withoutLease row) :
      RowStep (.releaseLease id owner) r row row'
  | stepLogged {id stepsLog lastCompletedStep leaseOwner r row row'} (hid : row.id = id)
      (hr : r = some row') (howner : leaseOwnerSql leaseOwner row = true)
      (hrow' : row' = { row with
        stepsLog := stepsLog, lastCompletedStep := lastCompletedStep }) :
      RowStep (.updateStepLog id stepsLog lastCompletedStep leaseOwner) r row row'
  | finalized {final id stepsLog lastCompletedStep now leaseOwner r row row'} (hid : row.id = id)
      (hr : r = some row') (howner : leaseOwnerSql leaseOwner row = true)
      (hrow' : row' = { row with
        status := final.status
        completedAt := some now
        stepsLog := stepsLog
        lastCompletedStep := lastCompletedStep }) :
      RowStep (.setFinal final id stepsLog lastCompletedStep now leaseOwner) r row row'
  | paused {id stepsLog lastCompletedStep leaseOwner r row row'} (hid : row.id = id)
      (hr : r = some row') (howner : leaseOwnerSql leaseOwner row = true)
      (hrow' : row' = { row with
        status := .awaitingApproval
        completedAt := none
        stepsLog := stepsLog
        lastCompletedStep := lastCompletedStep }) :
      RowStep (.setAwaitingApproval id stepsLog lastCompletedStep leaseOwner) r row row'
  | recovered {id now r row row'} (hid : row.id = id) (hr : r = some row')
      (hstatus : row.status = .running) (hexpired : leaseIsExpired row.leaseExpiresAt now = true)
      (hrow' : row' = PlaybookStore.recovered row now) :
      RowStep (.markStale id now) r row row'
  | linked {id r row row' decisionId correlation} (hid : row.id = id)
      (hrow' : row' = { row with
        decisionId := some decisionId, soarCorrelationId := some correlation }) :
      RowStep (.linkDecision id) r row row'
  | abandoned {id r row row' now} (hid : row.id = id) (hr : r = some row')
      (hstatus : row.status.isActive = true)
      (hrow' : row' = { row with status := .abandoned, completedAt := some now }) :
      RowStep (.abandon id) r row row'
  | permanentlyFailed {id reason r row row' now} (hid : row.id = id) (hr : r = some row')
      (hstatus : permanentFailEligible row.status = true)
      (hrow' : row' = { row with
        status := .permanentlyFailed, completedAt := some now, failureReason := some reason }) :
      RowStep (.markPermanentlyFailed id reason) r row row'
  | statusSet {id status r row row' now} (hid : row.id = id)
      (hrow' : row' = withStatus row status now) :
      RowStep (.updateStatus id status) r row row'

/-- The columns of an execution that no statement ever changes. -/
structure SameLineage (row row' : Execution) : Prop where
  id : row'.id = row.id
  playbookId : row'.playbookId = row.playbookId
  parentExecutionId : row'.parentExecutionId = row.parentExecutionId
  chainDepth : row'.chainDepth = row.chainDepth
  maxAttempts : row'.maxAttempts = row.maxAttempts
  createdAt : row'.createdAt = row.createdAt

theorem SameLineage.refl (row : Execution) : SameLineage row row := ⟨rfl, rfl, rfl, rfl, rfl, rfl⟩

theorem recovered_sameLineage (row : Execution) (now : Int) :
    SameLineage row (recovered row now) := by
  unfold recovered
  split <;> exact ⟨rfl, rfl, rfl, rfl, rfl, rfl⟩

theorem withStatus_sameLineage (row : Execution) (status : ExecutionStatus) (now : Int) :
    SameLineage row (withStatus row status now) := by
  unfold withStatus
  split
  · exact ⟨rfl, rfl, rfl, rfl, rfl, rfl⟩
  · split <;> exact ⟨rfl, rfl, rfl, rfl, rfl, rfl⟩

theorem RowStep.sameLineage {q : Stmt} {r : Reply q} {row row' : Execution}
    (h : RowStep q r row row') : SameLineage row row' := by
  cases h with
  | recovered _ _ _ _ hrow' => exact hrow' ▸ recovered_sameLineage row _
  | statusSet _ hrow' => exact hrow' ▸ withStatus_sameLineage row _ _
  | _ =>
    subst_vars
    exact ⟨rfl, rfl, rfl, rfl, rfl, rfl⟩

/-- The row an update statement answers with. -/
def changedRow : (q : Stmt) → Reply q → Option Execution
  | .acquireLease .., r | .claimNext .., r | .acquireResumeLease .., r | .heartbeat .., r
  | .releaseLease .., r | .updateStepLog .., r | .setFinal .., r | .setAwaitingApproval .., r
  | .markStale .., r | .abandon .., r | .markPermanentlyFailed .., r => r
  | _, _ => none

/-- The log and the last completed step that a statement writes, with the execution. -/
def written : Stmt → Option (Nat × List LogEntry × Option Int)
  | .acquireResumeLease id _ stepsLog lastCompletedStep _ _
  | .updateStepLog id stepsLog lastCompletedStep _
  | .setFinal _ id stepsLog lastCompletedStep _ _
  | .setAwaitingApproval id stepsLog lastCompletedStep _ =>
    some (id, stepsLog, lastCompletedStep)
  | _ => none

/-- The log a statement carries: the one it writes, or the one it starts a step with. -/
def carried : Stmt → Option (Nat × List LogEntry)
  | .beginStep id _ stepsLog => some (id, stepsLog)
  | q => (written q).map fun (id, stepsLog, _) => (id, stepsLog)

theorem carried_of_written {q : Stmt} {id : Nat} {stepsLog : List LogEntry}
    {lastCompletedStep : Option Int} (h : written q = some (id, stepsLog, lastCompletedStep)) :
    carried q = some (id, stepsLog) := by
  cases q <;> first | cases h; rfl | cases h

/-- A statement leaves an execution's progress alone, or writes it. -/
theorem RowStep.progress {q : Stmt} {r : Reply q} {row row' : Execution}
    (h : RowStep q r row row') :
    row'.stepsLog = row.stepsLog ∧ row'.lastCompletedStep = row.lastCompletedStep ∨
      written q = some (row.id, row'.stepsLog, row'.lastCompletedStep) ∧
        changedRow q r = some row' := by
  cases h with
  | leased _ _ _ _ hrow' | claimed _ _ _ hrow' | extended _ _ _ _ _ hrow'
  | released _ _ _ hrow' | linked _ hrow' | abandoned _ _ _ hrow'
  | permanentlyFailed _ _ _ hrow' =>
    subst hrow'
    exact .inl ⟨rfl, rfl⟩
  | recovered _ _ _ _ hrow' =>
    subst hrow'
    exact .inl ⟨recovered_stepsLog _ _, recovered_lastCompletedStep _ _⟩
  | statusSet _ hrow' =>
    subst hrow'
    exact .inl ⟨withStatus_stepsLog _ _ _, withStatus_lastCompletedStep _ _ _⟩
  | resumed hid hr _ _ hrow' | stepLogged hid hr _ hrow' | finalized hid hr _ hrow'
  | paused hid hr _ hrow' =>
    subst hid hrow'
    exact .inr ⟨rfl, hr⟩

section

variable {db : Db} {id e : Nat} {guard : Execution → Bool} {f : Execution → Execution}
  {hf : ∀ r, (f r).id = r.id} {row row' : Execution}

/-- An execution after an update. -/
theorem updateExecution_row (h : (updateExecution db id guard f hf).2.execution? e = some row') :
    db.execution? e = some row' ∨ ∃ row, db.execution? e = some row ∧ row.id = id ∧
      guard row = true ∧ row' = f row ∧ (updateExecution db id guard f hf).1 = some row' := by
  obtain h | ⟨row, rfl, hrow, hguard, rfl⟩ := @Table.update_cases _ _ _ _ _ _ hf _ _ h
  · exact .inl h
  · exact .inr ⟨row, hrow, db.executions.keyed _ _ hrow, hguard, rfl,
      Table.returning_eq_some.mpr ⟨row, hrow, hguard, rfl⟩⟩

/-- An update that answers with a row has changed that row. -/
theorem updateExecution_some (h : (updateExecution db id guard f hf).1 = some row') :
    ∃ row, db.execution? row'.id = some row ∧ row.id = id ∧ guard row = true ∧ row' = f row ∧
      (updateExecution db id guard f hf).2.execution? row'.id = some row' := by
  obtain ⟨row, hrow, hguard, rfl⟩ := Table.returning_eq_some.mp h
  have hid : row.id = id := db.executions.keyed _ _ hrow
  refine ⟨row, by rw [hf, hid]; exact hrow, hid, hguard, rfl, ?_⟩
  have : (f row).id = id := (hf row).trans hid
  simp [updateExecution, Db.execution?, Table.update_row?, this, hrow, hguard]

end

/-- An execution after `INSERT INTO playbook_executions`. -/
theorem insertExecution_row {db : Db} {new : NewExecution} {createdAt : Int} {e : Nat}
    {row' : Execution} (h : (insertExecution db new createdAt).2.execution? e = some row') :
    db.execution? e = some row' ∨
      db.execution? e = none ∧ row' = newExecutionRow new createdAt e ∧
        referencesExist db new = true ∧ e = db.executions.next := by
  unfold insertExecution at h
  split at h
  · exact .inl h
  · next href =>
    split at h
    · exact .inl h
    · next hfree =>
      replace h : (db.executions.insert (newExecutionRow new createdAt)
        (newExecutionRow_id new createdAt)).row? e = some row' := h
      rw [Table.insert_row?] at h
      split at h
      · next he =>
        subst he
        injection h with h
        exact .inr ⟨db.executions.fresh _ le_rfl, h.symm, by simpa using href, rfl⟩
      · exact .inl h

/-- The new execution a statement asks for. -/
def creates : Stmt → Option NewExecution
  | .createPendingOnce new | .insertExecution new => some new
  | _ => none

/-- Every execution after a statement is as it was, changed by the statement, or new. -/
theorem exec_row {w : World} {q : Stmt} {db : Db} {e : Nat} {row' : Execution}
    (h : (exec w q db).2.execution? e = some row') :
    db.execution? e = some row' ∨
      (∃ row, db.execution? e = some row ∧ RowStep q (exec w q db).1 row row') ∨
      (db.execution? e = none ∧ e = db.executions.next ∧
        ∃ new, creates q = some new ∧ row' = newExecutionRow new w.now e ∧
          referencesExist db new = true) := by
  have hsame (hq : onExecutions q = false) : db.execution? e = some row' := by
    rwa [Db.execution?, (exec_frame w q db).executions hq] at h
  have hupdate {id guard f hf} (h : (updateExecution db id guard f hf).2.execution? e = some row') :=
    updateExecution_row h
  have hinsert {new : NewExecution}
      (hnew : creates q = some new)
      (h : (insertExecution db new w.now).2.execution? e = some row') :
      db.execution? e = some row' ∨
        (∃ row, db.execution? e = some row ∧ RowStep q (exec w q db).1 row row') ∨
        (db.execution? e = none ∧ e = db.executions.next ∧
          ∃ new, creates q = some new ∧ row' = newExecutionRow new w.now e ∧
            referencesExist db new = true) := by
    obtain h | ⟨hnone, hrow', href, hnext⟩ := insertExecution_row h
    · exact .inl h
    · exact .inr (.inr ⟨hnone, hnext, new, hnew, hrow', href⟩)
  cases q with
  | getExecution | getDefinition | beginStep | listAwaitingApproval | listStaleRunning
  | activeForPair | activeForTarget | activeExists | call | latestRequest | insertRequest
  | decideRequest | expireRequests | appendOutcome | createDeadLetter => exact .inl (hsame rfl)
  | createPendingOnce new =>
    exact hinsert rfl (by simpa only [exec, createPendingOnce_snd] using h)
  | insertExecution new => exact hinsert rfl h
  | acquireLease id owner duration now =>
    obtain h | ⟨row, hrow, hid, hguard, hrow', hr⟩ := hupdate h
    · exact .inl h
    · simp only [Bool.and_eq_true, decide_eq_true_eq, Bool.not_eq_true'] at hguard
      exact .inr (.inl ⟨row, hrow, .leased hid hr hguard.1 hguard.2 hrow'⟩)
  | claimNext owner duration now =>
    obtain hnone | ⟨row₀, hmem, -, hclaim⟩ := claimNext_eq db w.locked owner duration now
    · exact .inl (by simpa only [exec, hnone] using h)
    · simp only [exec, hclaim] at h ⊢
      obtain h | ⟨row, hrow, hid, hguard, hrow', hr⟩ := hupdate h
      · exact .inl h
      · simp only [Bool.and_eq_true, decide_eq_true_eq, Bool.not_eq_true'] at hguard
        exact .inr (.inl ⟨row, hrow, .claimed hr hguard.1 hguard.2 hrow'⟩)
  | acquireResumeLease =>
    obtain h | ⟨row, hrow, hid, hguard, hrow', hr⟩ := hupdate h
    · exact .inl h
    · simp only [Bool.and_eq_true, decide_eq_true_eq, Bool.not_eq_true'] at hguard
      exact .inr (.inl ⟨row, hrow, .resumed hid hr hguard.1 hguard.2 hrow'⟩)
  | heartbeat =>
    obtain h | ⟨row, hrow, hid, hguard, hrow', hr⟩ := hupdate h
    · exact .inl h
    · simp only [Bool.and_eq_true, decide_eq_true_eq] at hguard
      exact .inr (.inl ⟨row, hrow, .extended hid hr hguard.1.1 hguard.1.2 hguard.2 hrow'⟩)
  | releaseLease =>
    obtain h | ⟨row, hrow, hid, hguard, hrow', hr⟩ := hupdate h
    · exact .inl h
    · exact .inr (.inl ⟨row, hrow, .released hid hr (by simpa using hguard) hrow'⟩)
  | updateStepLog =>
    obtain h | ⟨row, hrow, hid, hguard, hrow', hr⟩ := hupdate h
    · exact .inl h
    · exact .inr (.inl ⟨row, hrow, .stepLogged hid hr hguard hrow'⟩)
  | setFinal =>
    obtain h | ⟨row, hrow, hid, hguard, hrow', hr⟩ := hupdate h
    · exact .inl h
    · exact .inr (.inl ⟨row, hrow, .finalized hid hr hguard hrow'⟩)
  | setAwaitingApproval =>
    obtain h | ⟨row, hrow, hid, hguard, hrow', hr⟩ := hupdate h
    · exact .inl h
    · exact .inr (.inl ⟨row, hrow, .paused hid hr hguard hrow'⟩)
  | markStale =>
    obtain h | ⟨row, hrow, hid, hguard, hrow', hr⟩ := hupdate h
    · exact .inl h
    · simp only [Bool.and_eq_true, decide_eq_true_eq] at hguard
      exact .inr (.inl ⟨row, hrow, .recovered hid hr hguard.1 hguard.2 hrow'⟩)
  | linkDecision executionId =>
    simp only [exec, linkDecision] at h ⊢
    split at h
    · exact .inl h
    · obtain h | ⟨row, hrow, hid, -, hrow', -⟩ := updateExecution_row h
      · exact .inl h
      · exact .inr (.inl ⟨row, hrow, .linked hid hrow'⟩)
  | abandon =>
    obtain h | ⟨row, hrow, hid, hguard, hrow', hr⟩ := hupdate h
    · exact .inl h
    · exact .inr (.inl ⟨row, hrow, .abandoned hid hr hguard hrow'⟩)
  | markPermanentlyFailed =>
    obtain h | ⟨row, hrow, hid, hguard, hrow', hr⟩ := hupdate h
    · exact .inl h
    · exact .inr (.inl ⟨row, hrow, .permanentlyFailed hid hr hguard hrow'⟩)
  | updateStatus =>
    obtain h | ⟨row, hrow, hid, -, hrow', -⟩ := hupdate h
    · exact .inl h
    · exact .inr (.inl ⟨row, hrow, .statusSet hid hrow'⟩)

/-- An update statement that answers with a row has changed that row. -/
theorem exec_changedRow {w : World} (q : Stmt) {db : Db} {row' : Execution}
    (h : changedRow q (exec w q db).1 = some row') :
    ∃ row, db.execution? row'.id = some row ∧ RowStep q (exec w q db).1 row row' ∧
      (exec w q db).2.execution? row'.id = some row' := by
  have hupdate {id guard f hf} (h : (updateExecution db id guard f hf).1 = some row') :=
    updateExecution_some h
  cases q with
  | acquireLease =>
    obtain ⟨row, hrow, hid, hguard, hrow', hafter⟩ := hupdate h
    simp only [Bool.and_eq_true, decide_eq_true_eq, Bool.not_eq_true'] at hguard
    exact ⟨row, hrow, .leased hid h hguard.1 hguard.2 hrow', hafter⟩
  | claimNext owner duration now =>
    obtain hnone | ⟨row₀, -, -, hclaim⟩ := claimNext_eq db w.locked owner duration now
    · simp only [changedRow, exec, hnone] at h
      cases h
    · simp only [changedRow, exec, hclaim] at h ⊢
      obtain ⟨row, hrow, -, hguard, hrow', hafter⟩ := hupdate h
      simp only [Bool.and_eq_true, decide_eq_true_eq, Bool.not_eq_true'] at hguard
      exact ⟨row, hrow, .claimed h hguard.1 hguard.2 hrow', hafter⟩
  | acquireResumeLease =>
    obtain ⟨row, hrow, hid, hguard, hrow', hafter⟩ := hupdate h
    simp only [Bool.and_eq_true, decide_eq_true_eq, Bool.not_eq_true'] at hguard
    exact ⟨row, hrow, .resumed hid h hguard.1 hguard.2 hrow', hafter⟩
  | heartbeat =>
    obtain ⟨row, hrow, hid, hguard, hrow', hafter⟩ := hupdate h
    simp only [Bool.and_eq_true, decide_eq_true_eq] at hguard
    exact ⟨row, hrow, .extended hid h hguard.1.1 hguard.1.2 hguard.2 hrow', hafter⟩
  | releaseLease =>
    obtain ⟨row, hrow, hid, hguard, hrow', hafter⟩ := hupdate h
    exact ⟨row, hrow, .released hid h (by simpa using hguard) hrow', hafter⟩
  | updateStepLog =>
    obtain ⟨row, hrow, hid, hguard, hrow', hafter⟩ := hupdate h
    exact ⟨row, hrow, .stepLogged hid h hguard hrow', hafter⟩
  | setFinal =>
    obtain ⟨row, hrow, hid, hguard, hrow', hafter⟩ := hupdate h
    exact ⟨row, hrow, .finalized hid h hguard hrow', hafter⟩
  | setAwaitingApproval =>
    obtain ⟨row, hrow, hid, hguard, hrow', hafter⟩ := hupdate h
    exact ⟨row, hrow, .paused hid h hguard hrow', hafter⟩
  | markStale =>
    obtain ⟨row, hrow, hid, hguard, hrow', hafter⟩ := hupdate h
    simp only [Bool.and_eq_true, decide_eq_true_eq] at hguard
    exact ⟨row, hrow, .recovered hid h hguard.1 hguard.2 hrow', hafter⟩
  | abandon =>
    obtain ⟨row, hrow, hid, hguard, hrow', hafter⟩ := hupdate h
    exact ⟨row, hrow, .abandoned hid h hguard hrow', hafter⟩
  | markPermanentlyFailed =>
    obtain ⟨row, hrow, hid, hguard, hrow', hafter⟩ := hupdate h
    exact ⟨row, hrow, .permanentlyFailed hid h hguard hrow', hafter⟩
  | _ => cases h

/-- What `get_playbook_execution` reads. -/
theorem exec_getExecution {w : World} {db : Db} {id : Nat} {row : Execution}
    (h : (exec w (.getExecution id) db).1 = some row) :
    row.id = id ∧ db.execution? row.id = some row := by
  have hid : row.id = id := db.executions.keyed id row h
  exact ⟨hid, hid ▸ h⟩

/-! ## Neutral statements -/

/-- The statements that leave the progress of every execution alone.  They read, work on approvals,
    the trail and the dead letters, or add executions; none of them reports a terminal state. -/
inductive Neutral : Stmt → Prop
  | getExecution (id) : Neutral (.getExecution id)
  | getDefinition (playbookId) : Neutral (.getDefinition playbookId)
  | listAwaitingApproval (limit) : Neutral (.listAwaitingApproval limit)
  | listStaleRunning (limit now) : Neutral (.listStaleRunning limit now)
  | latestRequest (e i materialize now) : Neutral (.latestRequest e i materialize now)
  | insertRequest (e i riskLevel reason ttl) : Neutral (.insertRequest e i riskLevel reason ttl)
  | decideRequest (verdict id actor comment now) :
      Neutral (.decideRequest verdict id actor comment now)
  | expireRequests (limit now) : Neutral (.expireRequests limit now)
  | createPendingOnce (new) : Neutral (.createPendingOnce new)
  | activeForPair (playbookId alertId) : Neutral (.activeForPair playbookId alertId)
  | activeForTarget (playbookId alertId incidentId) :
      Neutral (.activeForTarget playbookId alertId incidentId)
  | activeExists (playbookId alertId exclude) : Neutral (.activeExists playbookId alertId exclude)
  | insertExecution (new) : Neutral (.insertExecution new)
  | linkDecision (id) : Neutral (.linkDecision id)
  | appendOutcome {args} (hkey : ∀ label id, args.idempotencyKey ≠ .terminal label id) :
      Neutral (.appendOutcome args)
  | createDeadLetter (args) : Neutral (.createDeadLetter args)
  | call (c) : Neutral (.call c)

/-! ## Stability -/

/-- What a statement can do to the table of executions: nothing, one update, one insert. -/
def TableStep (db db' : Db) (now : Int) : Prop :=
  db'.executions = db.executions ∨
    (∃ id guard f hf, db'.executions = db.executions.update id guard f hf) ∨
    ∃ new, db'.executions =
      db.executions.insert (newExecutionRow new now) (newExecutionRow_id new now)

theorem updateExecution_tableStep (db : Db) (id : Nat) (guard : Execution → Bool)
    (f : Execution → Execution) (hf : ∀ r, (f r).id = r.id) (now : Int) :
    TableStep db (updateExecution db id guard f hf).2 now :=
  .inr (.inl ⟨id, guard, f, hf, rfl⟩)

theorem insertExecution_tableStep (db : Db) (new : NewExecution) (now : Int) :
    TableStep db (insertExecution db new now).2 now := by
  unfold insertExecution
  split
  · exact .inl rfl
  · split
    · exact .inl rfl
    · exact .inr (.inr ⟨new, rfl⟩)

theorem exec_tableStep (w : World) (q : Stmt) (db : Db) : TableStep db (exec w q db).2 w.now := by
  cases q with
  | getExecution | getDefinition | beginStep | listAwaitingApproval | listStaleRunning
  | activeForPair | activeForTarget | activeExists | call | latestRequest | insertRequest
  | decideRequest | expireRequests | appendOutcome | createDeadLetter =>
    exact .inl ((exec_frame w _ db).executions rfl)
  | createPendingOnce new =>
    simpa only [exec, createPendingOnce_snd] using insertExecution_tableStep db new w.now
  | insertExecution new => exact insertExecution_tableStep db new w.now
  | claimNext owner duration now =>
    obtain h | ⟨row, -, -, h⟩ := claimNext_eq db w.locked owner duration now <;> simp only [exec, h]
    · exact .inl rfl
    · exact updateExecution_tableStep ..
  | linkDecision =>
    simp only [exec, linkDecision]
    split
    · exact .inl rfl
    · exact updateExecution_tableStep ..
  | _ => exact updateExecution_tableStep ..

/-- Executions stay, with their lineage. -/
theorem exec_keeps {w : World} {q : Stmt} {db : Db} {e : Nat} {row : Execution}
    (h : db.execution? e = some row) :
    ∃ row', (exec w q db).2.execution? e = some row' ∧
      (row' = row ∨ RowStep q (exec w q db).1 row row') := by
  have hsome : ∃ row', (exec w q db).2.execution? e = some row' := by
    unfold Db.execution? at h ⊢
    obtain hs | ⟨id, guard, f, hf, hs⟩ | ⟨new, hs⟩ := exec_tableStep w q db <;> rw [hs]
    · exact ⟨row, h⟩
    · rw [Table.update_row?]
      split
      · next he =>
        subst he
        exact ⟨_, by rw [h]; rfl⟩
      · exact ⟨row, h⟩
    · exact ⟨row, Table.insert_row?_of_some _ _ _ h⟩
  obtain ⟨row', hrow'⟩ := hsome
  refine ⟨row', hrow', ?_⟩
  obtain hsame | ⟨row₀, hrow₀, hstep⟩ | ⟨hnone, -⟩ := exec_row hrow'
  · exact .inl (Option.some.inj (hsame.symm.trans h))
  · obtain rfl : row₀ = row := Option.some.inj (hrow₀.symm.trans h)
    exact .inr hstep
  · cases hnone.symm.trans h

end SiemDashboard
