import Mathlib.Data.List.Sort
import SiemDashboard.Core.PlaybookRecords

/-!
# Playbook store

`core/playbook_store.py`: the statements on `playbook_definitions` and `playbook_executions`.  A
function that locks a row with `FOR UPDATE` and then updates it is one atomic step, as the row
lock makes it; every other statement is a step of its own.

* **Rows** — `updateExecution`, the one form of `UPDATE … WHERE id = … AND … RETURNING`.
* **Leases** — acquiring, claiming, resuming, extending, releasing, stale recovery.
* **Progress** — the writers of `steps_log` and `status`.
* **Operator statements** — abandon, permanently fail, set a status.
* **Creation and lookup** — new executions, listings, the active execution of a pair.
-/

namespace SiemDashboard.PlaybookStore

open Tables

/-! ## Rows -/

/-- `UPDATE playbook_executions SET … WHERE id = … AND … RETURNING …`. -/
def updateExecution (db : Db) (id : Nat) (guard : Execution → Bool) (f : Execution → Execution)
    (hf : ∀ r, (f r).id = r.id) : Option Execution × Db :=
  (db.executions.returning id guard f,
    { db with executions := db.executions.update id guard f hf })

/-- `get_playbook_execution`. -/
def getPlaybookExecution (db : Db) (id : Nat) : Option Execution := db.execution? id

/-- `get_playbook_definition`. -/
def getPlaybookDefinition (db : Db) (playbookId : String) : Option PlaybookDefinition :=
  db.definition? playbookId

/-! ## Leases -/

/-- `_lease_is_active`. -/
def leaseIsActive (leaseExpiresAt : Option Int) (now : Int) : Bool :=
  match leaseExpiresAt with
  | none => false
  | some expires => now < expires

/-- A lease column that is set and has run out. -/
def leaseIsExpired (leaseExpiresAt : Option Int) (now : Int) : Bool :=
  match leaseExpiresAt with
  | none => false
  | some expires => expires ≤ now

/-- The lease columns of a lease granted at `now`. -/
def underLease (row : Execution) (owner : WorkerId) (duration : LeaseDuration) (now : Int) :
    Execution :=
  { row with
    leaseOwner := some owner
    leaseAcquiredAt := some now
    leaseHeartbeatAt := some now
    leaseExpiresAt := some (duration.expiry now) }

/-- The lease columns set to `NULL`. -/
def withoutLease (row : Execution) : Execution :=
  { row with
    leaseOwner := none
    leaseAcquiredAt := none
    leaseHeartbeatAt := none
    leaseExpiresAt := none }

/-- `_lease_owner_sql`: the owner condition of a writer, none when no owner is given. -/
def leaseOwnerSql (leaseOwner : Option WorkerId) (row : Execution) : Bool :=
  match leaseOwner with
  | none => true
  | some owner => row.leaseOwner = some owner

/-- `acquire_execution_lease`. -/
def acquireExecutionLease (db : Db) (id : Nat) (owner : WorkerId) (duration : LeaseDuration)
    (now : Int) : Option Execution × Db :=
  updateExecution db id
    (fun row => row.status = .pending && !leaseIsActive row.leaseExpiresAt now)
    (fun row => underLease
      { row with status := .running, startedAt := row.startedAt.or (some now) } owner duration now)
    (fun _ => rfl)

/-- `ORDER BY created_at ASC, id ASC`. -/
def oldestFirst (a b : Execution) : Prop :=
  a.createdAt < b.createdAt ∨ a.createdAt = b.createdAt ∧ a.id ≤ b.id

instance : DecidableRel oldestFirst := fun a b => by unfold oldestFirst; infer_instance

/-- The rows of one status, oldest first. -/
def queue (db : Db) (status : ExecutionStatus) : List Execution :=
  (db.executions.rows.filter fun row => row.status = status).insertionSort oldestFirst

/-- `claim_next_pending_playbook_execution_with_lease`; `locked` are the rows that other
    transactions hold at the moment, which `SKIP LOCKED` passes over. -/
def claimNextPendingPlaybookExecutionWithLease (db : Db) (locked : Nat → Bool) (owner : WorkerId)
    (duration : LeaseDuration) (now : Int) : Option Execution × Db :=
  match (queue db .pending).find? fun row => !locked row.id with
  | none => (none, db)
  | some row => acquireExecutionLease db row.id owner duration now

/-- `acquire_awaiting_approval_resume_lease`. -/
def acquireAwaitingApprovalResumeLease (db : Db) (id : Nat) (owner : WorkerId)
    (stepsLog : List LogEntry) (lastCompletedStep : Option Int) (duration : LeaseDuration)
    (now : Int) : Option Execution × Db :=
  updateExecution db id
    (fun row => row.status = .awaitingApproval && !leaseIsActive row.leaseExpiresAt now)
    (fun row => underLease
      { row with
        status := .running
        startedAt := row.startedAt.or (some now)
        completedAt := none
        stepsLog := stepsLog
        lastCompletedStep := lastCompletedStep } owner duration now)
    (fun _ => rfl)

/-- `heartbeat_execution_lease`. -/
def heartbeatExecutionLease (db : Db) (id : Nat) (owner : WorkerId) (duration : LeaseDuration)
    (now : Int) : Option Execution × Db :=
  updateExecution db id
    (fun row => row.status = .running && row.leaseOwner = some owner &&
      leaseIsActive row.leaseExpiresAt now)
    (fun row =>
      { row with leaseHeartbeatAt := some now, leaseExpiresAt := some (duration.expiry now) })
    (fun _ => rfl)

/-- `release_execution_lease`. -/
def releaseExecutionLease (db : Db) (id : Nat) (owner : WorkerId) : Option Execution × Db :=
  updateExecution db id (fun row => row.leaseOwner = some owner) withoutLease (fun _ => rfl)

/-- `list_stale_running_executions`. -/
def listStaleRunningExecutions (db : Db) (locked : Nat → Bool) (limit : Nat) (now : Int) :
    List Execution :=
  ((db.executions.rows.filter fun row =>
      row.status = .running && leaseIsExpired row.leaseExpiresAt now && !locked row.id).insertionSort
    fun a b => a.leaseExpiresAt.getD 0 < b.leaseExpiresAt.getD 0 ∨
      a.leaseExpiresAt.getD 0 = b.leaseExpiresAt.getD 0 ∧ a.id ≤ b.id).take limit

/-- What `mark_stale_execution_for_recovery` makes of a row: back to pending while attempts remain,
    failed otherwise. -/
def recovered (row : Execution) (now : Int) : Execution :=
  if row.attemptCount < row.maxAttempts then
    withoutLease
      { row with
        status := .pending
        completedAt := none
        failureReason := some "stale lease recovered for retry"
        recoveryCount := row.recoveryCount + 1
        attemptCount := row.attemptCount + 1 }
  else
    withoutLease
      { row with
        status := .failed
        completedAt := some now
        failureReason := some "stale lease exceeded max attempts"
        recoveryCount := row.recoveryCount + 1 }

theorem recovered_id (row : Execution) (now : Int) : (recovered row now).id = row.id := by
  unfold recovered
  split <;> rfl

@[simp] theorem recovered_leaseOwner (row : Execution) (now : Int) :
    (recovered row now).leaseOwner = none := by
  unfold recovered
  split <;> rfl

@[simp] theorem recovered_stepsLog (row : Execution) (now : Int) :
    (recovered row now).stepsLog = row.stepsLog := by
  unfold recovered
  split <;> rfl

@[simp] theorem recovered_lastCompletedStep (row : Execution) (now : Int) :
    (recovered row now).lastCompletedStep = row.lastCompletedStep := by
  unfold recovered
  split <;> rfl

/-- `mark_stale_execution_for_recovery`, without a reason of the caller's. -/
def markStaleExecutionForRecovery (db : Db) (id : Nat) (now : Int) : Option Execution × Db :=
  updateExecution db id
    (fun row => row.status = .running && leaseIsExpired row.leaseExpiresAt now)
    (fun row => recovered row now) (fun row => recovered_id row now)

/-! ## Progress -/

/-- `update_playbook_execution_step_log`. -/
def updatePlaybookExecutionStepLog (db : Db) (id : Nat) (stepsLog : List LogEntry)
    (lastCompletedStep : Option Int) (leaseOwner : Option WorkerId) : Option Execution × Db :=
  updateExecution db id (leaseOwnerSql leaseOwner)
    (fun row => { row with stepsLog := stepsLog, lastCompletedStep := lastCompletedStep })
    (fun _ => rfl)

/-- The statuses the executor's finalizers write. -/
inductive FinalStatus where
  | success
  | failed
  | notActioned
deriving DecidableEq, Repr

def FinalStatus.status : FinalStatus → ExecutionStatus
  | success => .success
  | failed => .failed
  | notActioned => .notActioned

/-- The form that `set_playbook_execution_success`, `…_failed` and `…_not_actioned` share. -/
def setPlaybookExecutionFinal (final : FinalStatus) (db : Db) (id : Nat) (stepsLog : List LogEntry)
    (lastCompletedStep : Option Int) (now : Int) (leaseOwner : Option WorkerId) :
    Option Execution × Db :=
  updateExecution db id (leaseOwnerSql leaseOwner)
    (fun row =>
      { row with
        status := final.status
        completedAt := some now
        stepsLog := stepsLog
        lastCompletedStep := lastCompletedStep })
    (fun _ => rfl)

/-- `set_playbook_execution_success`. -/
def setPlaybookExecutionSuccess := setPlaybookExecutionFinal .success

/-- `set_playbook_execution_failed`. -/
def setPlaybookExecutionFailed := setPlaybookExecutionFinal .failed

/-- `set_playbook_execution_not_actioned`. -/
def setPlaybookExecutionNotActioned := setPlaybookExecutionFinal .notActioned

/-- `set_playbook_execution_awaiting_approval`. -/
def setPlaybookExecutionAwaitingApproval (db : Db) (id : Nat) (stepsLog : List LogEntry)
    (lastCompletedStep : Option Int) (leaseOwner : Option WorkerId) : Option Execution × Db :=
  updateExecution db id (leaseOwnerSql leaseOwner)
    (fun row =>
      { row with
        status := .awaitingApproval
        completedAt := none
        stepsLog := stepsLog
        lastCompletedStep := lastCompletedStep })
    (fun _ => rfl)

/-! ## Operator statements -/

/-- The update of `abandon_playbook_execution`. -/
def abandonPlaybookExecution (db : Db) (id : Nat) (now : Int) : Option Execution × Db :=
  updateExecution db id (fun row => row.status.isActive)
    (fun row => { row with status := .abandoned, completedAt := some now }) (fun _ => rfl)

/-- `_PERMANENT_FAIL_ELIGIBLE_STATUSES`. -/
def permanentFailEligible : ExecutionStatus → Bool
  | .running | .failed | .awaitingApproval => true
  | _ => false

/-- The update of `mark_playbook_execution_permanently_failed`. -/
def markPlaybookExecutionPermanentlyFailed (db : Db) (id : Nat) (reason : String) (now : Int) :
    Option Execution × Db :=
  updateExecution db id (fun row => permanentFailEligible row.status)
    (fun row =>
      { row with
        status := .permanentlyFailed
        completedAt := some now
        failureReason := some reason })
    (fun _ => rfl)

/-- What `update_execution_status` writes. -/
def withStatus (row : Execution) (status : ExecutionStatus) (now : Int) : Execution :=
  if status = .running then { row with status := status, startedAt := row.startedAt.or (some now) }
  else if status.isTerminal then { row with status := status, completedAt := some now }
  else { row with status := status }

theorem withStatus_id (row : Execution) (status : ExecutionStatus) (now : Int) :
    (withStatus row status now).id = row.id := by
  unfold withStatus
  split
  · rfl
  · split <;> rfl

@[simp] theorem withStatus_status (row : Execution) (status : ExecutionStatus) (now : Int) :
    (withStatus row status now).status = status := by
  unfold withStatus
  split
  · rfl
  · split <;> rfl

@[simp] theorem withStatus_leaseOwner (row : Execution) (status : ExecutionStatus) (now : Int) :
    (withStatus row status now).leaseOwner = row.leaseOwner := by
  unfold withStatus
  split
  · rfl
  · split <;> rfl

@[simp] theorem withStatus_stepsLog (row : Execution) (status : ExecutionStatus) (now : Int) :
    (withStatus row status now).stepsLog = row.stepsLog := by
  unfold withStatus
  split
  · rfl
  · split <;> rfl

@[simp] theorem withStatus_lastCompletedStep (row : Execution) (status : ExecutionStatus)
    (now : Int) : (withStatus row status now).lastCompletedStep = row.lastCompletedStep := by
  unfold withStatus
  split
  · rfl
  · split <;> rfl

/-- `update_execution_status`: no condition on the row but its id. -/
def updateExecutionStatus (db : Db) (id : Nat) (status : ExecutionStatus) (now : Int) : Db :=
  (updateExecution db id (fun _ => true) (fun row => withStatus row status now)
    (fun row => withStatus_id row status now)).2

/-! ## Creation and lookup -/

def activeForPair (db : Db) (playbookId : String) (alertId : Nat) : List Execution :=
  db.executions.rows.filter fun row =>
    row.playbookId = playbookId && row.alertId = some alertId && row.status.isActive

/-- `get_active_playbook_execution_for_pair`: the youngest active execution of the pair. -/
def getActivePlaybookExecutionForPair (db : Db) (playbookId : String) (alertId : Nat) :
    Option Execution :=
  ((activeForPair db playbookId alertId).insertionSort oldestFirst).getLast?

/-- `get_active_playbook_execution_for_target`, for one of an alert and an incident. -/
def getActivePlaybookExecutionForTarget (db : Db) (playbookId : String)
    (alertId incidentId : Option Nat) : Option Execution :=
  match alertId, incidentId with
  | some alertId, _ => getActivePlaybookExecutionForPair db playbookId alertId
  | none, some incidentId =>
    ((db.executions.rows.filter fun row =>
      row.playbookId = playbookId && row.incidentId = some incidentId &&
        row.status.isActive).insertionSort oldestFirst).getLast?
  | none, none => none

/-- `_active_execution_exists_for_pair`. -/
def activeExecutionExistsForPair (db : Db) (playbookId : String) (alertId : Option Nat)
    (excludeExecutionId : Option Nat) : Bool :=
  match alertId with
  | none => false
  | some alertId => (activeForPair db playbookId alertId).any fun row => some row.id ≠ excludeExecutionId

/-- What a new execution starts from. -/
structure NewExecution where
  playbookId : String
  alertId : Option Nat
  incidentId : Option Nat
  decisionId : Option Nat
  soarCorrelationId : Option String
  parentExecutionId : Option Nat
  chainDepth : Nat

/-- The row an `INSERT INTO playbook_executions` adds. -/
def newExecutionRow (new : NewExecution) (createdAt : Int) (id : Nat) : Execution where
  id := id
  playbookId := new.playbookId
  alertId := new.alertId
  incidentId := new.incidentId
  status := .pending
  startedAt := none
  completedAt := none
  lastCompletedStep := none
  stepsLog := []
  createdAt := createdAt
  attemptCount := 0
  maxAttempts := defaultMaxAttempts
  failureReason := none
  leaseOwner := none
  leaseAcquiredAt := none
  leaseHeartbeatAt := none
  leaseExpiresAt := none
  recoveryCount := 0
  decisionId := new.decisionId
  soarCorrelationId := new.soarCorrelationId
  parentExecutionId := new.parentExecutionId
  chainDepth := new.chainDepth

theorem newExecutionRow_id (new : NewExecution) (createdAt : Int) (id : Nat) :
    (newExecutionRow new createdAt id).id = id := rfl

/-- An insert the database rejects. -/
inductive IntegrityError where
  | foreignKey
  | unique
  | check
deriving DecidableEq, Repr

def referencesExist (db : Db) (new : NewExecution) : Bool :=
  (db.definition? new.playbookId).isSome &&
    new.parentExecutionId.all (fun parent => (db.execution? parent).isSome) &&
    new.decisionId.all fun decision => (db.decisions.row? decision).isSome

/-- `INSERT INTO playbook_executions`, under the table's foreign keys and its unique index on the
    active executions of a pair. -/
def insertExecution (db : Db) (new : NewExecution) (createdAt : Int) :
    Except IntegrityError Nat × Db :=
  if !referencesExist db new then (.error .foreignKey, db)
  else if activeExecutionExistsForPair db new.playbookId new.alertId none then (.error .unique, db)
  else
    (.ok db.executions.next,
      { db with executions :=
          db.executions.insert (newExecutionRow new createdAt) (newExecutionRow_id new createdAt) })

/-- `create_pending_playbook_execution_once`: a conflict on the pair answers `None`. -/
def createPendingPlaybookExecutionOnce (db : Db) (new : NewExecution) (createdAt : Int) :
    Except IntegrityError (Option Nat) × Db :=
  match insertExecution db new createdAt with
  | (.ok id, db') => (.ok (some id), db')
  | (.error .unique, db') => (.ok none, db')
  | (.error e, db') => (.error e, db')

/-- What `create_pending_playbook_execution_once` does where it is not rejected. -/
theorem createPendingPlaybookExecutionOnce_eq_ok {db db' : Db} {new : NewExecution} {createdAt : Int}
    {created : Option Nat} (h : createPendingPlaybookExecutionOnce db new createdAt = (.ok created, db')) :
    (created = none ∧ db' = db) ∨
      (created = some db.executions.next ∧
        db' =
          { db with
            executions :=
              db.executions.insert (newExecutionRow new createdAt) (newExecutionRow_id new createdAt) }) := by
  unfold createPendingPlaybookExecutionOnce insertExecution at h
  cases hrefs : referencesExist db new with
  | false => simp [hrefs] at h
  | true =>
    cases hactive : activeExecutionExistsForPair db new.playbookId new.alertId none with
    | true =>
      simp only [hrefs, hactive, Bool.not_true, Bool.false_eq_true, if_false, if_true] at h
      cases h
      exact .inl ⟨rfl, rfl⟩
    | false =>
      simp only [hrefs, hactive, Bool.not_true, Bool.false_eq_true, if_false] at h
      cases h
      exact .inr ⟨rfl, rfl⟩

/-- `list_awaiting_approval_playbook_executions`. -/
def listAwaitingApprovalPlaybookExecutions (db : Db) (limit : Nat) : List Execution :=
  (queue db .awaitingApproval).take limit

/-- `set_playbook_execution_canonical_linkage`. -/
def setPlaybookExecutionCanonicalLinkage (db : Db) (id : Nat) (decisionId : Nat)
    (soarCorrelationId : String) : Option Execution × Db :=
  updateExecution db id (fun _ => true)
    (fun row =>
      { row with decisionId := some decisionId, soarCorrelationId := some soarCorrelationId })
    (fun _ => rfl)

end SiemDashboard.PlaybookStore
