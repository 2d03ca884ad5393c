import SiemDashboard.Engines.PlaybookSystem
import SiemDashboard.Engines.StepContracts

/-!
# The protocol of a pass

Where an actor stands in a task, and which statement it may issue there.  The protocol forgets how
the executor computes what it writes and keeps what the writes have in common: which log a write
extends, by which kind of entries, under which lease, and after which answers.

* **Phases** — `Phase`.
* **Additions to a log** — `GateNote`, `FailureNote`, `AtStep`.
* **Silent moves** — `Silent`: the loop passes over a step, or records a failed one in memory.
* **Statements** — `Ends` (the terminal writes), `Move`, `protocol`.
-/

namespace SiemDashboard.StepExecutor

open Atomic Python PlaybookStore ApprovalStore DeadLetterStore

/-! ## Phases -/

/-- Where an actor stands.

    * `free`: between passes, or in a task that runs no execution;
    * `viewed`: it has read an execution that awaits approval;
    * `gated`: it has the answer about the request of that execution's latest gate, and has read
      the playbook's steps or not yet;
    * `held`: it was given an execution to run, from `start` on with this log;
    * `undefined`: the playbook of the execution it was given does not exist;
    * `working`: it runs the steps; `saved` and `savedStep` are what it stored last, `st` are the
      loop's variables;
    * `missed`: its terminal write under its own lease matched no row;
    * `unowned`: it has read that the execution still awaits approval without a lease;
    * `concluded`: its terminal write landed, and the terminal event is due;
    * `due`: the dead letter of a failed execution is due. -/
inductive Phase where
  | free
  | viewed (row : Execution)
  | gated (row : Execution) (gate : Nat) (request : Option ApprovalRequest)
      (steps : Option (List Json))
  | held (row : Execution) (playbookId : String) (start : Nat) (log : List LogEntry)
      (savedStep : Option Int)
  | undefined (row : Execution) (log : List LogEntry)
  | working (row : Execution) (steps : List Json) (saved : List LogEntry)
      (savedStep : Option Int) (st : LoopState)
  | missed (final : FinalStatus) (id : Nat) (log : List LogEntry) (lastStep : Option Int)
  | unowned (final : FinalStatus) (id : Nat) (log : List LogEntry) (lastStep : Option Int)
  | concluded (final : FinalStatus) (row : Execution) (log : List LogEntry)
  | due (row : Execution) (log : List LogEntry)

/-- Nothing is due in the phase: the pass may end. -/
def Phase.quiet : Phase → Bool
  | .concluded .. | .due .. => false
  | _ => true

/-- The phase after the terminal event: a failure's dead letter is due. -/
def Phase.afterEvent (row : Execution) (log : List LogEntry) : FinalStatus → Phase
  | .failed => .due row log
  | .success | .notActioned => .free

/-- The loop's variables at the start of a pass. -/
def LoopState.initial (index : Nat) (log : List LogEntry) (lastStep : Option Int) : LoopState :=
  ⟨index, log, lastStep, false, .null⟩

/-- The phase after a resume lease: where the steps are known the loop starts, else the playbook is
    read first. -/
def Phase.opened (row : Execution) (playbookId : String) (gate : Nat) (log : List LogEntry) :
    Option (List Json) → Phase
  | none => .held row playbookId (gate + 1) log (some gate)
  | some steps =>
    .working row steps log (some gate) (.initial (gate + 1) log (some gate))

/-! ## Additions to a log -/

/-- An entry that records the decision at a gate, or the resumption after it. -/
structure GateNote (gate : Nat) (entry : LogEntry) : Prop where
  index_eq : entry.stepIndex = some gate
  status_cases : entry.status = .approved ∨ entry.status = .resumed ∨ entry.status = .denied ∨
    entry.status = .expired
  event_ne : entry.event ≠ some .approvalRequested
  error_eq : entry.error = none

/-- A failed entry that blames no step. -/
structure FailureNote (entry : LogEntry) : Prop where
  status_eq : entry.status = .failed
  event_eq : entry.event = none
  not_structural : ∀ error, entry.error = some error → error.code.isStructural = false

/-- The loop is at this step and has neither a success nor a skip of it in the log. -/
structure AtStep (steps : List Json) (st : LoopState) (step : Json) : Prop where
  step_eq : steps[st.index]? = some step
  not_succeeded : stepAlreadySucceededInLog st.stepsLog st.index = false
  not_skipped : stepAlreadySkippedInLog st.stepsLog st.index = false

/-- The step lets the playbook go on when it fails. -/
def continuesOnFailure (step : Json) : Bool :=
  (step.getD "on_failure" (.str "abort")).isOneOf ["continue"]

/-! ## Silent moves -/

/-- The moves that go with no statement. -/
inductive Silent : Phase → Phase → Prop
  | ended {g} (hquiet : g.quiet = true) : Silent g .free
  | succeededBefore {row steps saved savedStep st} (hlt : st.index < steps.length)
      (h : stepAlreadySucceededInLog st.stepsLog st.index = true) :
      Silent (.working row steps saved savedStep st)
        (.working row steps saved savedStep
          { st with index := st.index + 1, lastCompletedStep := some st.index })
  | skippedBefore {row steps saved savedStep st} (hlt : st.index < steps.length)
      (h : stepAlreadySkippedInLog st.stepsLog st.index = true) :
      Silent (.working row steps saved savedStep st)
        (.working row steps saved savedStep { st with index := st.index + 1 })
  | stepFailed {row steps saved savedStep st step entry next message} (hat : AtStep steps st step)
      (hgate : step.get "action" ≠ .str "require_approval")
      (hentry : StepEntry steps st.index step entry) (hstatus : entry.status = .failed)
      (hnext : next = st.index ∨ next = st.index + 1 ∧ continuesOnFailure step = true) :
      Silent (.working row steps saved savedStep st)
        (.working row steps saved savedStep
          { st with
            index := next
            stepsLog := st.stepsLog ++ [entry]
            failed := true
            failureMessage := message })
  | unlinked {final row log} (h : linkedDecision? row = none) :
      Silent (.concluded final row log) (.afterEvent row log final)
  | unrecorded {row log} (h : latestFailedStepEntry log = none) : Silent (.due row log) .free

/-! ## Statements -/

/-- The terminal writes a phase allows: status, execution, log and last completed step. -/
inductive Ends : Phase → FinalStatus → Nat → List LogEntry → Option Int → Prop
  | succeeded {row steps saved savedStep st} (h : st.failed = false)
      (hend : steps.length ≤ st.index) :
      Ends (.working row steps saved savedStep st) .success row.id st.stepsLog
        st.lastCompletedStep
  | failed {row steps saved savedStep st} (h : st.failed = true) :
      Ends (.working row steps saved savedStep st) .failed row.id st.stepsLog
        st.lastCompletedStep
  | undefinedPlaybook {row log entry} (h : FailureNote entry) :
      Ends (.undefined row log) .failed row.id [entry] none
  | undefinedResume {row log entry} (h : FailureNote entry) :
      Ends (.undefined row log) .failed row.id (log ++ [entry]) row.lastCompletedStep
  | noGate {row entry} (hgate : latestGate row.stepsLog = none) (h : FailureNote entry) :
      Ends (.viewed row) .failed row.id (row.stepsLog ++ [entry]) row.lastCompletedStep
  | noRequest {row gate steps entry} (h : FailureNote entry) :
      Ends (.gated row gate none steps) .failed row.id (row.stepsLog ++ [entry])
        row.lastCompletedStep
  | closed {row gate request steps notes reason now}
      (hrequest : request.status = .denied ∨ request.status = .expired)
      (hnotes : ∀ note ∈ notes, GateNote gate note) :
      Ends (.gated row gate (some request) (some steps)) .notActioned row.id
        (row.stepsLog ++ notes ++ skippedLaterStepEntries steps (gate + 1) reason now)
        row.lastCompletedStep

/-- The decision lets the playbook go on after the gate: an approval, or a denial or expiration
    that the gate's policy sends on a branch. -/
inductive Opens (gate : Nat) (request : ApprovalRequest) : Option (List Json) → Prop
  | approved (h : request.status = .approved) : Opens gate request none
  | branch {steps} (h : request.status = .denied ∨ request.status = .expired)
      (hpolicy : branchContinues steps gate request.status = true) : Opens gate request (some steps)

/-- The log that a pass saves after a step that succeeded, and the index it goes on at. -/
inductive Saves (steps : List Json) (st : LoopState) : List LogEntry → Nat → Prop
  | step {step entry next now} (hat : AtStep steps st step)
      (hentry : StepEntry steps st.index step entry) (hstatus : entry.status = .success)
      (hnext : st.index < next) :
      Saves steps st
        (st.stepsLog ++ entry :: skippedBranchStepEntries steps (st.index + 1) next now) next

/-- The log that a pass pauses with at a gate. -/
inductive Pauses (steps : List Json) (st : LoopState) : List LogEntry → Prop
  | gate {step request now} (hat : AtStep steps st step)
      (haction : step.get "action" = .str "require_approval") :
      Pauses steps st (st.stepsLog ++ [approvalRequestedEntry st.index request step now])

/-- The log that a pass resumes with after a gate. -/
inductive Resumes (row : Execution) (gate : Nat) (request : ApprovalRequest)
    (known : Option (List Json)) : List LogEntry → Prop
  | notes {notes} (hopens : Opens gate request known)
      (hnotes : ∀ note ∈ notes, GateNote gate note) :
      Resumes row gate request known (row.stepsLog ++ notes)

/-- The statements of operators that set an execution's status without a lease. -/
inductive OperatorStmt : Stmt → Prop
  | abandon (id) : OperatorStmt (.abandon id)
  | permanentlyFail (id reason) : OperatorStmt (.markPermanentlyFailed id reason)
  | requeue (id) : OperatorStmt (.updateStatus id .pending)

/-- An attempt to obtain a lease or to recover one that matched no row. -/
inductive Refused : (q : Stmt) → Reply q → Prop
  | acquireLease {id owner duration now r} (hr : r = none) :
      Refused (.acquireLease id owner duration now) r
  | claimNext {owner duration now r} (hr : r = none) : Refused (.claimNext owner duration now) r
  | markStale {id now r} (hr : r = none) : Refused (.markStale id now) r

theorem Refused.unchanged {q : Stmt} {r : Reply q} {row row' : Execution} (h : Refused q r)
    (hstep : RowStep q r row row') : False := by
  cases h <;> cases hstep <;> simp_all

/-- The event of a terminal state. -/
def finalEvent (id : Nat) : FinalStatus → EventArgs
  | .success =>
    terminalEvent id "succeeded" "succeeded" "Playbook execution completed successfully."
  | .failed => terminalEvent id "failed" "failed" "Playbook execution failed."
  | .notActioned =>
    terminalEvent id "not_actioned" "not_actioned"
      "Playbook execution ended without action after approval denial or expiration."

section

variable (py : Python)

/-- The statements an actor may issue in a phase, with their answers and the phase after. -/
inductive Move : Actor → Phase → (q : Stmt) → Reply q → Phase → Prop
  | neutral {a g q r} (h : Neutral q) (hquiet : g.quiet = true) : Move a g q r g
  | operator {a q r} (h : OperatorStmt q) : Move a .free q r .free
  | refused {a q r} (h : Refused q r) : Move a .free q r .free
  | beat {w g id duration now r} (hquiet : g.quiet = true) :
      Move (.worker w) g (.heartbeat id w duration now) r g
  | release {w g id r} (hquiet : g.quiet = true) :
      Move (.worker w) g (.releaseLease id w) r g
  | requeued {a id now r row'} (hr : r = some row') (hstatus : row'.status ≠ .failed) :
      Move a .free (.markStale id now) r .free
  | exhausted {a id now r row'} (hr : r = some row') (hstatus : row'.status = .failed) :
      Move a .free (.markStale id now) r (.due row' row'.stepsLog)
  | view {w id r row} (hr : r = some row) (hstatus : row.status = .awaitingApproval) :
      Move (.worker w) .free (.getExecution id) r (.viewed row)
  | rejoin {w id r row} (hr : r = some row) (hstatus : row.status = .running)
      (howner : row.leaseOwner = some w) :
      Move (.worker w) .free (.getExecution id) r
        (.held row row.playbookId (resumeProgress row).1 row.stepsLog (resumeProgress row).2)
  | lease {w id duration now r row'} (hr : r = some row') :
      Move (.worker w) .free (.acquireLease id w duration now) r
        (.held row' row'.playbookId (resumeProgress row').1 row'.stepsLog (resumeProgress row').2)
  | claim {w duration now r row'} (hr : r = some row') :
      Move (.worker w) .free (.claimNext w duration now) r
        (.held row' row'.playbookId (resumeProgress row').1 row'.stepsLog (resumeProgress row').2)
  | ask {w row gate now r} (hgate : latestGate row.stepsLog = some gate) :
      Move (.worker w) (.viewed row) (.latestRequest row.id gate true now) r
        (.gated row gate r none)
  | consult {w row gate request r} :
      Move (.worker w) (.gated row gate request none) (.getDefinition row.playbookId) r
        (.gated row gate request (some ((r.map PlaybookDefinition.steps).getD [])))
  | resume {w row gate request known log duration now r row'} (hr : r = some row')
      (hresumes : Resumes row gate request known log) :
      Move (.worker w) (.gated row gate (some request) known)
        (.acquireResumeLease row.id w log (some gate) duration now) r
        (.opened row' row.playbookId gate log known)
  | unresumed {w row gate request known log duration now r} (hr : r = none)
      (hresumes : Resumes row gate request known log) :
      Move (.worker w) (.gated row gate (some request) known)
        (.acquireResumeLease row.id w log (some gate) duration now) r .free
  | define {w row playbookId start log savedStep r definition i} (hr : r = some definition)
      (hlo : min start definition.steps.length ≤ i) (hhi : i ≤ start) :
      Move (.worker w) (.held row playbookId start log savedStep) (.getDefinition playbookId) r
        (.working row definition.steps log savedStep (.initial i log savedStep))
  | noDefinition {w row playbookId start log savedStep r} (hr : r = none) :
      Move (.worker w) (.held row playbookId start log savedStep) (.getDefinition playbookId) r
        (.undefined row log)
  | begin {w row steps saved savedStep st step r} (hat : AtStep steps st step) :
      Move (.worker w) (.working row steps saved savedStep st)
        (.beginStep row.id st.index st.stepsLog) r (.working row steps saved savedStep st)
  | save {w row steps saved savedStep st log next r row'} (hr : r = some row')
      (hsaves : Saves steps st log next) :
      Move (.worker w) (.working row steps saved savedStep st)
        (.updateStepLog row.id log (some st.index) (some w)) r
        (.working row steps log (some st.index)
          { st with index := next, stepsLog := log, lastCompletedStep := some st.index })
  | unsaved {w row steps saved savedStep st log next r} (hr : r = none)
      (hsaves : Saves steps st log next) :
      Move (.worker w) (.working row steps saved savedStep st)
        (.updateStepLog row.id log (some st.index) (some w)) r .free
  | pause {w row steps saved savedStep st log r} (hpauses : Pauses steps st log) :
      Move (.worker w) (.working row steps saved savedStep st)
        (.setAwaitingApproval row.id log st.lastCompletedStep (some w)) r .free
  | conclude {w g final id log lastStep now r row'} (hends : Ends g final id log lastStep)
      (hr : r = some row') :
      Move (.worker w) g (.setFinal final id log lastStep now (some w)) r
        (.concluded final row' log)
  | miss {w g final id log lastStep now r} (hends : Ends g final id log lastStep)
      (hr : r = none) :
      Move (.worker w) g (.setFinal final id log lastStep now (some w)) r
        (.missed final id log lastStep)
  | recheck {w final id log lastStep r row} (hr : r = some row)
      (hstatus : row.status = .awaitingApproval) (howner : row.leaseOwner = none) :
      Move (.worker w) (.missed final id log lastStep) (.getExecution id) r
        (.unowned final id log lastStep)
  | concludeUnowned {w final id log lastStep now r row'} (hr : r = some row') :
      Move (.worker w) (.unowned final id log lastStep)
        (.setFinal final id log lastStep now none) r (.concluded final row' log)
  | unconcluded {w final id log lastStep now r} (hr : r = none) :
      Move (.worker w) (.unowned final id log lastStep)
        (.setFinal final id log lastStep now none) r .free
  | tell {w final row log decisionId r} (hlinked : linkedDecision? row = some decisionId) :
      Move (.worker w) (.concluded final row log)
        (.appendOutcome ((finalEvent row.id final).outcome row decisionId)) r
        (.afterEvent row log final)
  | capture {a row log entry now r} (hentry : latestFailedStepEntry log = some entry) :
      Move a (.due row log) (.createDeadLetter (deadLetterArgs py row entry now)) r .free

def protocol (a : Actor) : Protocol Reply Phase := ⟨Silent, Move py a⟩

end

end SiemDashboard.StepExecutor
