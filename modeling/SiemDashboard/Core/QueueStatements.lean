import SiemDashboard.Core.ResponseActionQueueStore
import SiemDashboard.Lib.Program

/-!
# Statements of the queue worker

The atomic steps of the programs that work on the response action queue: the functions of
`ResponseActionQueueStore` and `ApprovalRequests`, and calls to the services around them, whose
answers the model leaves open.

* **Answers** — `Raised`, `CommandRequest`, `CommandResult`, `WorkerOutcome`.
* **Statements** — `QueueStmt`, `QueueReply`.
* **Meaning** — `QueueDb`, `QueueWorld`, `QueueDb.exec`.
* **Frames** — `exec_rewrites`: no statement forgets a row or its action, and only a marked row
  succeeds; `exec_changes`: the requests are only created and closed.
-/

namespace SiemDashboard

open Tables ResponseActionQueueStore ApprovalRequests ApprovalStore

/-! ## Answers -/

inductive Raised where
  /-- `SkippedAction` -/
  | skipped (message code : String)
  /-- `RetryableActionError` -/
  | retryable (message code : String)
  /-- `QueueTransitionError` -/
  | transition (message : String)
  /-- An error of the approval store. -/
  | approval (error : ApprovalError)
  /-- The database refuses the statement. -/
  | database (message : String)
  | other (message : String)
deriving DecidableEq

/-- `ResponseCommandRequest`, as the worker fills it. -/
structure CommandRequest where
  action : String
  indicatorValue : Option String
  alertId : Option Nat
  reason : String
  queueId : Nat
  idempotencyKey : String

/-- `ResponseCommandResult`, as far as the worker reads it. -/
structure CommandResult where
  success : Bool
  outcomeLabel : String
  message : String
  error : Option String
  errorCode : Option String
  responseActionLogId : Option Nat

/-- What an executor returns: something that is no dict, or its `code` and `message`, empty where
    they are missing. -/
inductive ExecutorResult where
  | notDict
  | dict (code message : String)

/-- The answer of `require_unprotected_target`. -/
inductive TargetCheck where
  | unprotected
  /-- `SkippedAction` -/
  | protectedTarget (message code : String)
  /-- `ProtectedTargetConfigError` -/
  | invalidConfig (message : String)

/-- An outcome event of the worker, before `_safe_outcome_summary` shortens its summary. -/
structure WorkerOutcome where
  decisionId : Nat
  soarCorrelationId : String
  eventType : String
  executionMode : String
  executionState : String
  simulated : Bool
  trackingRecorded : Bool
  reasonCode : Option String
  outcomeSummary : String
  queueId : Nat
  approvalRequestId : Option Nat
  responseActionLogId : Option Nat
  idempotencyKey : String
  retryCount : Nat
  action : String
  errorCode : Option String

/-! ## Statements -/

/-- The atomic steps. -/
inductive QueueStmt where
  | enqueue (new : NewAction)
  | claimPending (now : Option Int)
  | claimApproved (now : Option Int)
  | skipTerminal (now : Option Int)
  | sweepTerminal (limit : Int)
  | markAwaitingApproval (id : Nat) (reason : String) (now : Option Int)
  | markSuccess (id : Nat) (now : Option Int)
  | markSkipped (id : Nat) (reason : String) (now : Option Int)
  | recordFailure (id : Nat) (errorMessage : String) (retryable : Bool) (now : Option Int)
  | recoverStale (now : Option Int) (staleAfterSeconds : Nat) (limit : Option Nat)
  | link (id : Nat) (decisionId : Option Nat) (soarCorrelationId : Option String)
  | expirePending (limit : Int) (now : Option Int)
  | latestApproval (queueId : Nat) (action : String)
  | createApproval (new : NewApproval)
  | decideApproval (verdict : Verdict) (id actorUserId : Nat) (comment : Option String)
  | requireUnprotectedTarget (target : Option String)
  | executeResponseCommand (request : CommandRequest)
  | runExecutor (row : QueueAction)
  | logResponseAction (row : QueueAction) (logStatus details : String)
  | appendOutcome (event : WorkerOutcome)

/-- What each statement answers; an `Except` is a statement that may raise. -/
@[reducible] def QueueReply : QueueStmt → Type
  | .enqueue _ => Except Raised (Option Nat)
  | .claimPending _ => Except Raised (Option QueueAction)
  | .claimApproved _ => Except Raised (Option QueueAction)
  | .skipTerminal _ => Except Raised (Option QueueAction)
  | .sweepTerminal _ => Except Raised (List QueueAction)
  | .markAwaitingApproval .. => Except Raised QueueAction
  | .markSuccess .. => Except Raised QueueAction
  | .markSkipped .. => Except Raised QueueAction
  | .recordFailure .. => Except Raised QueueAction
  | .recoverStale .. => Except Raised (List QueueAction)
  | .link .. => Except Raised (Option QueueAction)
  | .expirePending .. => Except Raised (List Request)
  | .latestApproval .. => Except Raised (Option Request)
  | .createApproval _ => Except Raised Request
  | .decideApproval .. => Except Raised Request
  | .requireUnprotectedTarget _ => Except Raised TargetCheck
  | .executeResponseCommand _ => Except Raised CommandResult
  | .runExecutor _ => Except Raised ExecutorResult
  | .logResponseAction .. => Except Raised Nat
  | .appendOutcome _ => Unit

/-! ## Meaning -/

/-- The tables of the queue and its approvals. -/
structure QueueDb where
  queue : Queue
  approvals : Store

/-- What the tables do not determine at the moment a statement runs: the clock, the rows other
    transactions hold locked, the rows of other tables, with what message the database refuses the
    statement, if it does, and the answers of the services. -/
structure QueueWorld where
  now : Int
  lockedActions : Nat → Bool
  lockedRequests : Nat → Bool
  refs : References
  refuses : Option String
  targetCheck : Option String → Except Raised TargetCheck
  command : CommandRequest → Except Raised CommandResult
  executor : QueueAction → Except Raised ExecutorResult
  logged : Except Raised Nat

namespace QueueDb

/-- The tables with another queue. -/
def onQueue {α : Type} (db : QueueDb) (result : α × Queue) : Except Raised α × QueueDb :=
  (.ok result.1, { db with queue := result.2 })

/-- A transition of a queue row, with the error it raises. -/
def onTransition (db : QueueDb) (result : Except String QueueAction × Queue) :
    Except Raised QueueAction × QueueDb :=
  (result.1.mapError .transition, { db with queue := result.2 })

/-- The tables with other requests. -/
def onApprovals {α : Type} (db : QueueDb) (result : Except ApprovalError α × Store) :
    Except Raised α × QueueDb :=
  (result.1.mapError .approval, { db with approvals := result.2 })

/-- A statement that the database may refuse. -/
def unlessRefused {α : Type} (db : QueueDb) (w : QueueWorld)
    (run : QueueDb → Except Raised α × QueueDb) : Except Raised α × QueueDb :=
  match w.refuses with
  | some message => (.error (.database message), db)
  | none => run db

/-- The answer to a statement and the tables after it. -/
def exec (w : QueueWorld) : (q : QueueStmt) → QueueDb → QueueReply q × QueueDb
  | .enqueue new, db => db.unlessRefused w fun db =>
    db.onQueue (enqueueResponseAction db.queue new w.now)
  | .claimPending now, db => db.unlessRefused w fun db =>
    db.onQueue (claimNextPendingAction db.queue w.lockedActions (now.getD w.now))
  | .claimApproved now, db => db.unlessRefused w fun db =>
    db.onQueue
      (claimNextApprovedAwaitingAction db.queue db.approvals w.lockedActions (now.getD w.now))
  | .skipTerminal now, db => db.unlessRefused w fun db =>
    db.onQueue
      (skipNextTerminalApprovalAction db.queue db.approvals w.lockedActions (now.getD w.now))
  | .sweepTerminal limit, db => db.unlessRefused w fun db =>
    db.onQueue (sweepTerminalApprovalQueueRows db.queue db.approvals w.lockedActions limit w.now)
  | .markAwaitingApproval id reason now, db => db.unlessRefused w fun db =>
    db.onTransition (markActionAwaitingApproval db.queue id reason (now.getD w.now))
  | .markSuccess id now, db => db.unlessRefused w fun db =>
    db.onTransition (markActionSuccess db.queue id (now.getD w.now))
  | .markSkipped id reason now, db => db.unlessRefused w fun db =>
    db.onTransition (markActionSkipped db.queue id reason (now.getD w.now))
  | .recordFailure id errorMessage retryable now, db => db.unlessRefused w fun db =>
    db.onTransition (recordActionFailure db.queue id errorMessage retryable (now.getD w.now))
  | .recoverStale now staleAfterSeconds limit, db => db.unlessRefused w fun db =>
    db.onQueue (recoverStaleRunningActions db.queue w.lockedActions (now.getD w.now)
      staleAfterSeconds limit)
  | .link id decisionId soarCorrelationId, db => db.unlessRefused w fun db =>
    db.onQueue (setQueueLinkage db.queue id decisionId soarCorrelationId)
  | .expirePending limit now, db => db.unlessRefused w fun db =>
    db.onApprovals
      (expirePendingRequests db.approvals w.lockedRequests limit (now.getD w.now))
  | .latestApproval queueId action, db => db.unlessRefused w fun db =>
    (.ok (getLatestApprovalForQueueAction db.approvals queueId action), db)
  | .createApproval new, db => db.unlessRefused w fun db =>
    db.onApprovals (createApprovalRequest db.approvals
      { w.refs with queue := fun id => (db.queue.row? id).isSome } new w.now)
  | .decideApproval verdict id actorUserId comment, db => db.unlessRefused w fun db =>
    db.onApprovals
      (ApprovalRequests.decideRequest verdict db.approvals w.refs id actorUserId comment w.now)
  | .requireUnprotectedTarget target, db => (w.targetCheck target, db)
  | .executeResponseCommand request, db => (w.command request, db)
  | .runExecutor row, db => (w.executor row, db)
  | .logResponseAction .., db => db.unlessRefused w fun db => (w.logged, db)
  | .appendOutcome _, db => ((), db)

/-! ## Frames -/

/-- The queue after a statement that may be refused, raise, or answer. -/
theorem unlessRefused_cases {α : Type} {motive : QueueDb → Prop} (db : QueueDb) (w : QueueWorld)
    (run : QueueDb → Except Raised α × QueueDb) (hdb : motive db) (hrun : motive (run db).2) :
    motive (db.unlessRefused w run).2 := by
  unfold unlessRefused
  split
  · exact hdb
  · exact hrun

/-- The statement marks the row with the id a success. -/
def Marks (id : Nat) : QueueStmt → Prop
  | .markSuccess marked _ => marked = id
  | _ => False

/-- What a statement may do to a row: the action is kept, and only the row it marks succeeds. -/
def Allowed (q : QueueStmt) (r r' : QueueAction) : Prop :=
  r'.action = r.action ∧ (r'.status = .success → r.status = .success ∨ Marks r.id q)

theorem Allowed.refl (q : QueueStmt) (r : QueueAction) : Allowed q r r := ⟨rfl, .inl⟩

/-- Every statement rewrites the queue quietly, but for the row it marks a success. -/
theorem exec_rewrites (w : QueueWorld) (q : QueueStmt) (db : QueueDb) :
    Rewrites (Allowed q) db.queue (exec w q db).2.queue := by
  have hsame : Rewrites (Allowed q) db.queue db.queue := rewrites_refl (Allowed.refl q)
  have hquiet {queue : Queue} (h : Rewrites Quiet db.queue queue) :
      Rewrites (Allowed q) db.queue queue := by
    refine ⟨fun id r hr => ?_, h.fresh⟩
    obtain ⟨r', hr', hallowed⟩ := h.kept id r hr
    exact ⟨r', hr', hallowed.1, fun hs => .inl (hallowed.2 hs)⟩
  have hrun {α : Type} {run : QueueDb → Except Raised α × QueueDb}
      (h : Rewrites (Allowed q) db.queue (run db).2.queue) :
      Rewrites (Allowed q) db.queue (db.unlessRefused w run).2.queue :=
    unlessRefused_cases (motive := fun db' => Rewrites (Allowed q) db.queue db'.queue) db w run
      hsame h
  cases q with
  | enqueue new => exact hrun (hquiet (enqueueResponseAction_quiet new _))
  | claimPending now => exact hrun (hquiet (claimNextPendingAction_quiet _ _))
  | claimApproved now => exact hrun (hquiet (claimNextApprovedAwaitingAction_quiet _ _ _))
  | skipTerminal now => exact hrun (hquiet (skipNextTerminalApprovalAction_quiet _ _ _))
  | sweepTerminal limit => exact hrun (hquiet (sweepTerminalApprovalQueueRows_quiet _ _ _ _))
  | markAwaitingApproval id reason now =>
    exact hrun (transitionActionStatus_rewrites (Allowed.refl _) _ _ _ _ _ fun r _ => ⟨rfl, nofun⟩)
  | markSuccess id now =>
    exact hrun (transitionActionStatus_rewrites (Allowed.refl _) _ _ _ _ _ fun r hid =>
      ⟨rfl, fun _ => .inr hid.symm⟩)
  | markSkipped id reason now =>
    exact hrun (transitionActionStatus_rewrites (Allowed.refl _) _ _ _ _ _ fun r _ => ⟨rfl, nofun⟩)
  | recordFailure id errorMessage retryable now =>
    exact hrun (hquiet (recordActionFailure_quiet id errorMessage retryable _))
  | recoverStale now staleAfterSeconds limit =>
    exact hrun (hquiet (recoverStaleRunningActions_quiet _ _ staleAfterSeconds limit))
  | link id decisionId soarCorrelationId =>
    exact hrun (hquiet (setQueueLinkage_quiet id decisionId soarCorrelationId))
  | expirePending | latestApproval | createApproval | decideApproval | logResponseAction =>
    exact hrun hsame
  | requireUnprotectedTarget | executeResponseCommand | runExecutor | appendOutcome => exact hsame

/-- Every statement changes the requests by creating and closing some. -/
theorem exec_changes (w : QueueWorld) (q : QueueStmt) (db : QueueDb) :
    Changes db.approvals (exec w q db).2.approvals := by
  have hrun {α : Type} {run : QueueDb → Except Raised α × QueueDb}
      (h : Changes db.approvals (run db).2.approvals) :
      Changes db.approvals (db.unlessRefused w run).2.approvals :=
    unlessRefused_cases (motive := fun db' => Changes db.approvals db'.approvals) db w run .refl h
  cases q with
  | expirePending limit now => exact hrun (expirePendingRequests_changes ..)
  | createApproval new => exact hrun (createApprovalRequest_changes ..)
  | decideApproval verdict id actorUserId comment => exact hrun (decideRequest_changes ..)
  | enqueue | claimPending | claimApproved | skipTerminal | sweepTerminal | markAwaitingApproval
  | markSuccess | markSkipped | recordFailure | recoverStale | link | latestApproval
  | logResponseAction => exact hrun .refl
  | requireUnprotectedTarget | executeResponseCommand | runExecutor | appendOutcome => exact .refl

end QueueDb

end SiemDashboard
