import SiemDashboard.Core.ApprovalStore
import SiemDashboard.Core.DeadLetterStore
import SiemDashboard.Core.ResponseOutcomes
import SiemDashboard.Engines.ParamBinding
import SiemDashboard.Lib.Program

/-!
# Statements

The atomic steps of the playbook subsystem's programs: the store functions of `PlaybookStore`,
`ApprovalStore`, `ResponseOutcomes` and `DeadLetterStore`, and calls to the services around them,
whose answers the model leaves open.

* **Calls** — `Call`, `CallReply`: alerts, notification policy, adapters, response commands.
* **Statements** — `Stmt`, `Reply`.
* **Meaning** — `World` (what is not determined by the tables) and `exec`.
-/

namespace SiemDashboard

open Python PlaybookStore ApprovalStore ResponseOutcomes DeadLetterStore

/-! ## Calls -/

/-- `ResponseCommandRequest`, as the playbook executor fills it. -/
structure ResponseRequest where
  action : String
  indicatorValue : Option String
  alertId : Option Nat
  incidentId : Option Nat
  reason : Json
  playbookExecutionId : Nat
  playbookStepIndex : Nat
  idempotencyKey : String

/-- The result of a response command; `details` holds the fields a step entry only copies. -/
structure ResponseResult where
  success : Bool
  message : String
  error : Option String
  errorCode : Option ResponseErrorCode
  details : Json

/-- A call to a service around the playbook tables. -/
inductive Call where
  | fetchAlert (alertId : Nat)
  | existingActiveDelivery (provider action : String) (executionId stepIndex : Nat)
  | sendPlaybookNotification (executionId : Nat) (message purpose : Json) (stepIndex : Nat)
  | circuitBreaker (adapter : String)
  | executeAdapter (adapter action : String) (params context : Json)
  | executeResponseCommand (request : ResponseRequest)
  | requireUnprotectedTarget (target : Json)
  | validateBlockedIp (target : String)
  | buildEnrichmentContext (executionId : Nat) (limit : Json)
  | createNotificationDelivery (attempt : Json)

/-- What each call answers; an `Except` is a call that may raise. -/
@[reducible] def CallReply : Call → Type
  | .fetchAlert _ => Option ParamBinding.Alert
  | .existingActiveDelivery .. => Option Json
  | .sendPlaybookNotification .. => Except String Json
  | .circuitBreaker _ => Json
  | .executeAdapter .. => Except String Json
  | .executeResponseCommand _ => Except String ResponseResult
  | .requireUnprotectedTarget _ => Option (ResponseErrorCode × String)
  | .validateBlockedIp _ => Except String Unit
  | .buildEnrichmentContext .. => Except String Json
  | .createNotificationDelivery _ => Option Json

/-! ## Statements -/

/-- The atomic steps.  `beginStep` alone has no counterpart in the source: it changes nothing and
    marks the moment the executor starts the step at an index, with the log it has in hand. -/
inductive Stmt where
  | getExecution (id : Nat)
  | getDefinition (playbookId : String)
  | acquireLease (id : Nat) (owner : WorkerId) (duration : LeaseDuration) (now : Int)
  | claimNext (owner : WorkerId) (duration : LeaseDuration) (now : Int)
  | acquireResumeLease (id : Nat) (owner : WorkerId) (stepsLog : List LogEntry)
      (lastCompletedStep : Option Int) (duration : LeaseDuration) (now : Int)
  | heartbeat (id : Nat) (owner : WorkerId) (duration : LeaseDuration) (now : Int)
  | releaseLease (id : Nat) (owner : WorkerId)
  | beginStep (id index : Nat) (stepsLog : List LogEntry)
  | updateStepLog (id : Nat) (stepsLog : List LogEntry) (lastCompletedStep : Option Int)
      (leaseOwner : Option WorkerId)
  | setFinal (final : FinalStatus) (id : Nat) (stepsLog : List LogEntry)
      (lastCompletedStep : Option Int) (now : Int) (leaseOwner : Option WorkerId)
  | setAwaitingApproval (id : Nat) (stepsLog : List LogEntry) (lastCompletedStep : Option Int)
      (leaseOwner : Option WorkerId)
  | listAwaitingApproval (limit : Nat)
  | listStaleRunning (limit : Nat) (now : Int)
  | markStale (id : Nat) (now : Int)
  | latestRequest (executionId stepIndex : Nat) (materializeExpired : Bool) (now : Int)
  | insertRequest (executionId stepIndex : Nat) (riskLevel requestReason ttlMinutes : Json)
  | decideRequest (verdict : Verdict) (id actorUserId : Nat) (comment : Option String) (now : Int)
  | expireRequests (limit : Int) (now : Int)
  | createPendingOnce (new : NewExecution)
  | activeForPair (playbookId : String) (alertId : Nat)
  | activeForTarget (playbookId : String) (alertId incidentId : Option Nat)
  | activeExists (playbookId : String) (alertId : Option Nat) (exclude : Option Nat)
  | insertExecution (new : NewExecution)
  | linkDecision (executionId : Nat)
  | appendOutcome (args : OutcomeArgs)
  | createDeadLetter (args : DeadLetterArgs)
  | abandon (id : Nat)
  | markPermanentlyFailed (id : Nat) (reason : String)
  | updateStatus (id : Nat) (status : ExecutionStatus)
  | call (c : Call)

/-- What each statement answers. -/
@[reducible] def Reply : Stmt → Type
  | .getExecution _ => Option Execution
  | .getDefinition _ => Option PlaybookDefinition
  | .acquireLease .. => Option Execution
  | .claimNext .. => Option Execution
  | .acquireResumeLease .. => Option Execution
  | .heartbeat .. => Option Execution
  | .releaseLease .. => Option Execution
  | .beginStep .. => Unit
  | .updateStepLog .. => Option Execution
  | .setFinal .. => Option Execution
  | .setAwaitingApproval .. => Option Execution
  | .listAwaitingApproval _ => List Execution
  | .listStaleRunning .. => List Execution
  | .markStale .. => Option Execution
  | .latestRequest .. => Option ApprovalRequest
  | .insertRequest .. => Option ApprovalRequest
  | .decideRequest .. => Except String ApprovalRequest
  | .expireRequests .. => Unit
  | .createPendingOnce _ => Except IntegrityError (Option Nat)
  | .activeForPair .. => Option Execution
  | .activeForTarget .. => Option Execution
  | .activeExists .. => Bool
  | .insertExecution _ => Except IntegrityError Nat
  | .linkDecision _ => Option Decision
  | .appendOutcome _ => Option OutcomeEvent
  | .createDeadLetter _ => Option Unit
  | .abandon _ => Option Execution
  | .markPermanentlyFailed .. => Option Execution
  | .updateStatus .. => Unit
  | .call c => CallReply c

/-- A program of the playbook subsystem. -/
abbrev Prog := Atomic.Program Reply

/-- Issue one statement. -/
abbrev issue (q : Stmt) : Prog (Reply q) := Atomic.call q

/-! ## Meaning -/

/-- What the tables do not determine at the moment a statement runs: the clock, the rows other
    transactions hold locked, the correlation id of a new decision (`none` when creating it fails),
    how many microseconds a float number of minutes amounts to, and the answers of the services. -/
structure World where
  now : Int
  locked : Nat → Bool
  correlationId : Option String
  floatMinutes : String → Option Int
  answer : (c : Call) → CallReply c

/-- `now + timedelta(minutes=ttl)`; `none` where `timedelta` raises. -/
def ttlExpiry (w : World) (ttlMinutes : Json) : Option Int :=
  match ttlMinutes with
  | .int n => some (w.now + minutes n)
  | .bool b => some (w.now + minutes (if b then 1 else 0))
  | .float text => (w.floatMinutes text).map fun d => w.now + d
  | _ => none

/-- Creating an execution's decision and linking it, under the savepoint of
    `_try_create_and_link_playbook_execution_decision`. -/
def linkDecision (db : Db) (executionId : Nat) (correlationId : Option String) :
    Option Decision × Db :=
  match correlationId with
  | none => (none, db)
  | some correlation =>
    let decision : Decision := ⟨db.decisions.next, correlation⟩
    let db' := { db with decisions := db.decisions.insert (fun id => ⟨id, correlation⟩) (fun _ => rfl) }
    (some decision,
      (setPlaybookExecutionCanonicalLinkage db' executionId decision.id correlation).2)

/-- `_with_canonical_playbook_outcome_savepoint`: an event that cannot be appended is dropped. -/
def appendOutcomeSafely (db : Db) (args : OutcomeArgs) : Option OutcomeEvent × Db :=
  match appendOutcomeEvent db args with
  | (.ok event, db') => (some event, db')
  | (.error _, _) => (none, db)

/-- The `try … except` around `create_dead_letter`. -/
def createDeadLetterSafely (db : Db) (args : DeadLetterArgs) : Option Unit × Db :=
  match DeadLetterStore.createDeadLetter db args with
  | (.ok _, db') => (some (), db')
  | (.error _, _) => (none, db)

/-- The answer to a statement and the tables after it. -/
def exec (w : World) : (q : Stmt) → Db → Reply q × Db
  | .getExecution id, db => (getPlaybookExecution db id, db)
  | .getDefinition playbookId, db => (getPlaybookDefinition db playbookId, db)
  | .acquireLease id owner duration now, db => acquireExecutionLease db id owner duration now
  | .claimNext owner duration now, db =>
    claimNextPendingPlaybookExecutionWithLease db w.locked owner duration now
  | .acquireResumeLease id owner stepsLog lastCompletedStep duration now, db =>
    acquireAwaitingApprovalResumeLease db id owner stepsLog lastCompletedStep duration now
  | .heartbeat id owner duration now, db => heartbeatExecutionLease db id owner duration now
  | .releaseLease id owner, db => releaseExecutionLease db id owner
  | .beginStep _ _ _, db => ((), db)
  | .updateStepLog id stepsLog lastCompletedStep leaseOwner, db =>
    updatePlaybookExecutionStepLog db id stepsLog lastCompletedStep leaseOwner
  | .setFinal final id stepsLog lastCompletedStep now leaseOwner, db =>
    setPlaybookExecutionFinal final db id stepsLog lastCompletedStep now leaseOwner
  | .setAwaitingApproval id stepsLog lastCompletedStep leaseOwner, db =>
    setPlaybookExecutionAwaitingApproval db id stepsLog lastCompletedStep leaseOwner
  | .listAwaitingApproval limit, db => (listAwaitingApprovalPlaybookExecutions db limit, db)
  | .listStaleRunning limit now, db => (listStaleRunningExecutions db w.locked limit now, db)
  | .markStale id now, db => markStaleExecutionForRecovery db id now
  | .latestRequest executionId stepIndex materializeExpired now, db =>
    getLatestPlaybookStepApprovalRequest db executionId stepIndex materializeExpired now
  | .insertRequest executionId stepIndex riskLevel requestReason ttlMinutes, db =>
    match ttlExpiry w ttlMinutes with
    | none => (none, db)
    | some expiresAt =>
      insertPlaybookStepApprovalRequest db
        ⟨executionId, stepIndex, riskLevel, requestReason, expiresAt⟩ w.now
  | .decideRequest verdict id actorUserId comment now, db =>
    ApprovalStore.decideRequest verdict db id actorUserId comment now
  | .expireRequests limit now, db => ((), expirePendingRequests db limit now)
  | .createPendingOnce new, db => createPendingPlaybookExecutionOnce db new w.now
  | .activeForPair playbookId alertId, db =>
    (getActivePlaybookExecutionForPair db playbookId alertId, db)
  | .activeForTarget playbookId alertId incidentId, db =>
    (getActivePlaybookExecutionForTarget db playbookId alertId incidentId, db)
  | .activeExists playbookId alertId exclude, db =>
    (activeExecutionExistsForPair db playbookId alertId exclude, db)
  | .insertExecution new, db => PlaybookStore.insertExecution db new w.now
  | .linkDecision executionId, db => SiemDashboard.linkDecision db executionId w.correlationId
  | .appendOutcome args, db => appendOutcomeSafely db args
  | .createDeadLetter args, db => createDeadLetterSafely db args
  | .abandon id, db => abandonPlaybookExecution db id w.now
  | .markPermanentlyFailed id reason, db =>
    markPlaybookExecutionPermanentlyFailed db id reason w.now
  | .updateStatus id status, db => ((), updateExecutionStatus db id status w.now)
  | .call c, db => (w.answer c, db)

end SiemDashboard
