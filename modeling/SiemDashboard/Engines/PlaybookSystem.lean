import SiemDashboard.Lib.Pool
import SiemDashboard.Routes.PlaybookRoutes
import SiemDashboard.Scripts.RunPlaybookExecutorOnce

/-!
# The playbook system

Workers and operators share the tables.  A worker runs passes of the executor, an operator the
requests of the routes and the approval decisions; stale recovery is a script anyone may run.  Each
actor runs one task at a time, and the statements of different actors interleave freely.

* **Actors and tasks** — `Actor`, `Task`, `code`.
* **The system** — `system`, `Pool`, `Event`.
* **Concrete runs** — tables that hold one playbook, and a world in which nothing else happens.
-/

namespace SiemDashboard

open Atomic ApprovalStore StepExecutor PlaybookRoutes RunPlaybookExecutorOnce

/-- Who runs a task. -/
inductive Actor where
  | worker (id : WorkerId)
  | operator (id : Nat)
deriving DecidableEq

/-- What an actor can be given to do. -/
inductive Task where
  | processExecution (id : Nat) (now : Int) (duration : LeaseDuration)
  | processNextPending (now : Int) (duration : LeaseDuration)
  | processBatch (limit now : Int) (duration : LeaseDuration)
  | recoverStale (limit now : Int)
  | abandon (id : Nat)
  | permanentlyFail (id : Nat) (reason : String)
  | resume (id : Nat) (now : Int)
  | createManual (playbookId : String) (alertId incidentId : Option Nat)
  | createForAlert (playbookId : String) (alertId : Nat) (incidentId : Option Nat)
  | retry (id : Nat)
  | decide (verdict : Verdict) (requestId actorUserId : Nat) (comment : Option String) (now : Int)
  | expireRequests (limit now : Int)

/-- The program of a task; only a worker runs the executor. -/
def code (py : Python) : Actor → Task → Option (Prog Unit)
  | .worker w, .processExecution id now duration =>
    some (processPlaybookExecution py id now w duration).discard
  | .worker w, .processNextPending now duration =>
    some (processNextPendingPlaybookExecution py now w duration).discard
  | .worker w, .processBatch limit now duration =>
    some (processPlaybookExecutionBatch py limit now w duration).discard
  | .operator _, .processExecution .. | .operator _, .processNextPending ..
  | .operator _, .processBatch .. => none
  | _, .recoverStale limit now => some (recoverStalePlaybookExecutions py limit now)
  | _, .abandon id => some (abandonPlaybookExecutionRoute id).discard
  | _, .permanentlyFail id reason => some (permanentlyFailPlaybookExecutionRoute id reason).discard
  | _, .resume id now => some (resumePlaybookExecutionRoute id now).discard
  | _, .createManual playbookId alertId incidentId =>
    some (createManualPlaybookExecutionRoute playbookId alertId incidentId).discard
  | _, .createForAlert playbookId alertId incidentId =>
    some (createPendingExecutionForAlert playbookId alertId incidentId).discard
  | _, .retry id => some (retryPlaybookExecutionRoute id).discard
  | _, .decide verdict requestId actorUserId comment now =>
    some (issue (.decideRequest verdict requestId actorUserId comment now)).discard
  | _, .expireRequests limit now => some (issue (.expireRequests limit now)).discard

/-- The tables, the statements on them, and the tasks of the actors. -/
def system (py : Python) : System Db World Actor Task Reply := ⟨exec, code py⟩

/-- The tables, and what each actor is in the middle of. -/
abbrev Pool := Atomic.Pool Db Actor Reply

/-- A move of the scheduler. -/
abbrev Event := Atomic.Event Actor Task World

/-! ## Concrete runs -/

/-- Tables that hold one enabled playbook and no execution. -/
def Db.ofPlaybook (playbookId : String) (steps : List Python.Json) : Db where
  executions := .empty
  definition? id := if id = playbookId then some ⟨playbookId, steps, true⟩ else none
  approvals := .empty
  decisions := .empty
  outcomes := []
  deadLetters := .empty

/-- A world at a given time in which no row is locked, no decision can be created, and the services
    accept response commands and enrichment and refuse the rest. -/
def World.at (now : Int) : World where
  now := now
  locked _ := false
  correlationId := none
  floatMinutes _ := none
  answer
    | .fetchAlert _ => none
    | .existingActiveDelivery .. => none
    | .sendPlaybookNotification .. => .error "unavailable"
    | .circuitBreaker _ => .null
    | .executeAdapter .. => .error "unavailable"
    | .executeResponseCommand _ => .ok ⟨true, "done", none, none, .null⟩
    | .requireUnprotectedTarget _ => none
    | .validateBlockedIp _ => .ok ()
    | .buildEnrichmentContext .. => .ok (.obj [])
    | .createNotificationDelivery _ => none

/-- An interpreter that renders nothing and compares no floats. -/
def mutePython : Python := ⟨fun _ => "", fun _ => "", fun _ _ => .ok none⟩

/-- Two workers. -/
def workerA : WorkerId := ⟨"worker-a", by decide +kernel, by decide⟩

def workerB : WorkerId := ⟨"worker-b", by decide +kernel, by decide⟩

def oneMinute : LeaseDuration := ⟨60, by decide⟩

/-- A number of statements of one actor. -/
def turns (a : Actor) (n : Nat) (w : World) : List Event := List.replicate n (.step a w)

/-- A task from start to end: it is started and issues that many statements. -/
def task (a : Actor) (t : Task) (n : Nat) (w : World) : List Event := .start a t :: turns a n w

/-- An execution is created for an alert, and a worker claims it and issues that many statements. -/
def firstPass (n : Nat) : List Event :=
  task (.operator 0) (.createForAlert "p" 7 none) 2 (.at 0) ++
    task (.worker workerA) (.processNextPending 0 oneMinute) n (.at 0)

/-- The first approval request is approved. -/
def approval : List Event := task (.operator 0) (.decide .approve 1 5 none 0) 1 (.at 0)

/-- A worker passes over the first execution and issues that many statements. -/
def nextPass (n : Nat) : List Event :=
  task (.worker workerA) (.processExecution 1 0 oneMinute) n (.at 0)

/-- A gate without options. -/
def gateStep : Python.Json := .obj [("action", .str "require_approval")]

end SiemDashboard
