import SiemDashboard.Core.ActionVocabulary
import SiemDashboard.Core.PlaybookStore
import SiemDashboard.Core.ResponseActionQueueStore
import SiemDashboard.Core.ResponseDecisions
import SiemDashboard.Lib.Transactions

/-!
# Alert batches

What the two orchestrators that follow an ingest share: the alerts that are committed, the tables they
write over one connection, and the store functions they call there.

* **Batches** — `CommittedAlert`, `Database`, `Environment`.
* **Notes** — `Note`: what a transaction remembers of its insertions and of the failures that no
  savepoint undoes.
* **Store functions** — each as one statement: wherever one of its queries fails, it has no effect.
-/

namespace SiemDashboard.AlertBatch

open Tables Transactions PlaybookStore ResponseActionQueueStore ResponseDecisions ResponseRegistry
open ActionVocabulary

/-! ## Batches -/

/-- An alert as the ingest returns it. -/
structure CommittedAlert where
  alertId : Option Nat
  sourceIp : Option String
  responseAction : Option String
  alertType : Option String

/-- The tables the orchestrators write; their decisions and outcome events are in `trail`. -/
structure Database where
  playbooks : Db
  queue : Queue
  trail : Trail

/-- What the batch runs in. -/
structure Environment where
  /-- What strikes the statements of the connection, one after another. -/
  faults : Nat → Option Fault
  py : Python
  /-- The ids of the enabled definitions whose trigger matches the alert. -/
  matched : Db → Nat → List String
  /-- `host(source_ip)` of an alert. -/
  alertSourceIp : Nat → Option String
  /-- The rows of the tables that decisions and events refer to besides those of `Database`. -/
  references : References
  /-- The clock and the uuids, at each statement. -/
  now : Nat → Int
  uuid : Nat → String
  /-- `_compute_idempotency_key`. -/
  computeIdempotencyKey : Nat → String → String → String
  /-- What the notification of an alert makes of the outcome events. -/
  notified : Nat → Trail → Trail

/-- The rows that decisions and events may refer to. -/
def Environment.rows (env : Environment) (db : Database) : References :=
  { env.references with
    execution := fun id => (db.playbooks.execution? id).isSome
    queue := fun id => (db.queue.row? id).isSome }

/-! ## Notes -/

/-- What the log of a transaction says. -/
inductive Note where
  /-- A row of the batch has been inserted. -/
  | inserted
  /-- A statement has failed that no savepoint undoes. -/
  | failed
deriving DecidableEq, Repr

/-- A program of the batch. -/
abbrev Program (α : Type) := Tx Database Note α

/-- Under a savepoint nothing is noted. -/
def silent {α : Type} (_ : Option α) : Option Note := none

/-- Outside one a failure is. -/
def noteFailure {α : Type} : Option α → Option Note
  | none => some .failed
  | some _ => none

/-- And so is an insertion that is not a duplicate. -/
def noteInsertion : Option (Option Nat) → Option Note
  | none => some .failed
  | some none => none
  | some (some _) => some .inserted

/-! ## Store functions -/

/-- What a store function raises, as the connection sees it. -/
def raised : CommandError → Fault
  | .value message => .client message
  | .integrity => .database "integrity constraint violated"

section

variable (env : Environment)

/-- `create_pending_playbook_execution_once`, without an incident and a parent. -/
def createPendingExecution (playbookId : String) (alertId : Nat) : Program (Option Nat) :=
  statement env.faults noteInsertion fun n db =>
    match createPendingPlaybookExecutionOnce db.playbooks
        ⟨playbookId, some alertId, none, none, none, none, 0⟩ (env.now n) with
    | (.ok id, playbooks) => .ok (id, { db with playbooks := playbooks })
    | (.error _, _) => .error (.database "integrity constraint violated")

/-- `enqueue_response_action`. -/
def enqueueAction (alertId : Nat) (sourceIp action : String) : Program (Option Nat) :=
  statement env.faults noteInsertion fun n db =>
    match validateActionForResponseQueue env.py action with
    | .error e => .error (.client e.message)
    | .ok action =>
      match enqueueResponseAction db.queue
          ⟨some alertId, some sourceIp, action, 3, env.computeIdempotencyKey alertId sourceIp action⟩
          (env.now n) with
      | (id, queue) => .ok (id, { db with queue := queue })

/-- What `create_response_decision` makes of the tables. -/
def storeDecision (new : NewDecision) (n : Nat) (db : Database) :
    Except Fault (ResponseDecision × Database) :=
  match createResponseDecision db.trail (env.rows db) new (env.uuid n) (env.now n) with
  | .error e => .error (raised e)
  | .ok (decision, trail) => .ok (decision, { db with trail := trail })

/-- `create_response_decision`. -/
def createDecision (note : Option ResponseDecision → Option Note) (new : NewDecision) :
    Program ResponseDecision :=
  statement env.faults note (storeDecision env new)

/-- What `append_outcome_event` makes of the tables. -/
def storeOutcome (new : NewOutcome) (n : Nat) (db : Database) :
    Except Fault (ResponseEvent × Database) :=
  match appendOutcomeEvent db.trail (env.rows db) new (env.now n) with
  | .error e => .error (raised e)
  | .ok (event, trail) => .ok (event, { db with trail := trail })

/-- `append_outcome_event`. -/
def appendOutcome (note : Option ResponseEvent → Option Note) (new : NewOutcome) :
    Program ResponseEvent :=
  statement env.faults note (storeOutcome env new)

/-- `set_playbook_execution_canonical_linkage`. -/
def linkExecution (note : Option (Option Execution) → Option Note) (executionId : Nat)
    (decision : ResponseDecision) : Program (Option Execution) :=
  statement env.faults note fun _ db =>
    match setPlaybookExecutionCanonicalLinkage db.playbooks executionId decision.id
        decision.soarCorrelationId with
    | (row, playbooks) => .ok (row, { db with playbooks := playbooks })

/-- `set_queue_linkage`. -/
def linkAction (note : Option (Option QueueAction) → Option Note) (queueId : Nat)
    (decision : ResponseDecision) : Program (Option QueueAction) :=
  statement env.faults note fun _ db =>
    match setQueueLinkage db.queue queueId (some decision.id) (some decision.soarCorrelationId) with
    | (row, queue) => .ok (row, { db with queue := queue })

def query {α : Type} (note : Option α → Option Note) (read : Database → α) : Program α :=
  statement env.faults note fun _ db => .ok (read db, db)

variable {env}

/-- A decision changes the trail only. -/
theorem storeDecision_frame {new : NewDecision} {n : Nat} {db db' : Database}
    {decision : ResponseDecision} (h : storeDecision env new n db = .ok (decision, db')) :
    db'.playbooks = db.playbooks ∧ db'.queue = db.queue := by
  unfold storeDecision at h
  split at h
  · cases h
  · cases h
    exact ⟨rfl, rfl⟩

theorem storeOutcome_frame {new : NewOutcome} {n : Nat} {db db' : Database} {event : ResponseEvent}
    (h : storeOutcome env new n db = .ok (event, db')) :
    db'.playbooks = db.playbooks ∧ db'.queue = db.queue := by
  unfold storeOutcome at h
  split at h
  · cases h
  · cases h
    exact ⟨rfl, rfl⟩

end

end SiemDashboard.AlertBatch
