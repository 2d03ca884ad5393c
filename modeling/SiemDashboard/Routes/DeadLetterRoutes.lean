import SiemDashboard.Core.DeadLetterStatements
import SiemDashboard.Lib.Pool

/-!
# Dead letter review

The writing functions of `core/dead_letter_store.py`, `create_retry_execution` of
`core/playbook_store.py`, and the routes of `routes/dead_letter_routes.py` that change a dead letter, as
programs over the statements of a connection.  The audit entry, which swallows its own failures and is
written over another connection, is left out.

* **Store** — `createDeadLetter`, `markDeadLetterDismissed`, `markDeadLetterRetryRequested`,
  `markDeadLetterRetried`, `createRetryExecution`.
* **Routes** — `dismissDeadLetter`, `retryRequestDeadLetter`, `retryExecuteDeadLetter`.
* **Requests** — `Task`, `serve`, `reviewSystem`.
-/

namespace SiemDashboard.DeadLetterReview

open Atomic Python DeadLetterStore PlaybookStore

/-- A program that may raise. -/
abbrev Prog := ExceptT Raised (Program Request.Reply)

/-- One statement on the tables. -/
def issue (conn : Nat) (q : Sql) : Prog (SqlReply q) :=
  ExceptT.mk (call (R := Request.Reply) ⟨conn, .sql q⟩)

/-- A check that raises `ValueError`. -/
def checked {α : Type} (result : Except String α) : Prog α :=
  match result with
  | .ok a => pure a
  | .error message => throw (.value message)

/-! ## Store -/

/-- `VALID_SOURCE_TYPES`. -/
def validSourceTypes : List String :=
  ["approval", "notification_delivery", "playbook_execution", "response_action"]

/-- `_validate_source_type`. -/
def validateSourceType (sourceType : String) : Except String String := do
  let normalized ← requireText sourceType "source_type"
  if normalized ∈ validSourceTypes then .ok normalized
  else .error ("source_type must be one of ['approval', 'notification_delivery', " ++
    "'playbook_execution', 'response_action']")

/-- `_validate_optional_nonnegative`. -/
def validateOptionalNonnegative (value : Option Int) (field : String) : Except String (Option Nat) :=
  match value with
  | none => .ok none
  | some integer => if integer < 0 then .error s!"{field} must be >= 0" else .ok (some integer.toNat)

/-- The arguments of `create_dead_letter`. -/
structure DeadLetterRequest where
  sourceType : String
  sourceId : Nat
  errorMessage : String
  failureClass : String
  retryable : Bool
  executionId : Option Nat
  incidentId : Option Nat
  alertId : Option Nat
  playbookId : Option String
  stepIndex : Option Int
  actionName : Option String
  firstFailedAt : Option Int
  lastFailedAt : Option Int

/-- `sanitize_failure_message(_require_text(text, field))`, which must leave something. -/
def requireMessage (text field : String) : Except String String := do
  match sanitizeFailureMessage (← requireText text field) with
  | none => .error s!"{field} is required"
  | some message => .ok message

/-- The checks of `create_dead_letter`, in their order. -/
@[irreducible]
def validateDeadLetter (args : DeadLetterRequest) : Except String NewDeadLetter := do
  let sourceType ← validateSourceType args.sourceType
  let failureClass ← requireText args.failureClass "failure_class"
  let errorMessage ← requireMessage args.errorMessage "error_message"
  let stepIndex ← validateOptionalNonnegative args.stepIndex "step_index"
  return {
    sourceType := sourceType
    sourceId := args.sourceId
    executionId := args.executionId
    incidentId := args.incidentId
    alertId := args.alertId
    playbookId := optionalText args.playbookId
    stepIndex := stepIndex
    actionName := optionalText args.actionName
    failureClass := failureClass
    errorMessage := errorMessage
    retryable := args.retryable
    firstFailedAt := args.firstFailedAt
    lastFailedAt := args.lastFailedAt }

section Store

variable (conn : Nat)

/-- `create_dead_letter`. -/
def createDeadLetter (args : DeadLetterRequest) : Prog DeadLetterRow := do
  let new ← checked (validateDeadLetter args)
  issue conn (.upsert new)

/-- `get_dead_letter`. -/
def getDeadLetter (id : Nat) : Prog (Option DeadLetterRow) := issue conn (.getDeadLetter id)

/-- `mark_dead_letter_dismissed`. -/
def markDeadLetterDismissed (id : Nat) (dismissedBy : Option Nat) (reason : String) :
    Prog (Option DeadLetterRow) := do
  let safeReason ← checked (requireMessage reason "reason")
  issue conn (.dismiss id dismissedBy safeReason)

/-- `mark_dead_letter_retry_requested`. -/
def markDeadLetterRetryRequested (id : Nat) (requestedBy : Option Nat) : Prog (Option DeadLetterRow) :=
  issue conn (.requestRetry id requestedBy)

/-- `mark_dead_letter_retried`. -/
def markDeadLetterRetried (id : Nat) : Prog (Option DeadLetterRow) := do
  match ← issue conn (.lockDeadLetter id) with
  | none => return none
  | some current =>
    if current.status ≠ .retrying then return none
    else issue conn (.markRetried id)

/-- `_active_execution_exists_for_pair`. -/
def activeExecutionExistsForPair (playbookId : String) (alertId : Option Nat)
    (excludeExecutionId : Nat) : Prog Bool :=
  match alertId with
  | none => return false
  | some alertId => issue conn (.activeExecution playbookId alertId excludeExecutionId)

/-- What `create_retry_execution` inserts: the playbook and the target of the source, without a
    parent. -/
def retryOfSource (source : RetryExecution) : NewExecution where
  playbookId := source.playbookId
  alertId := source.alertId
  incidentId := source.incidentId
  decisionId := none
  soarCorrelationId := none
  parentExecutionId := none
  chainDepth := 0

/-- The text of `create_retry_execution` where the pair has an active execution. -/
def activeExists : String := "active execution already exists for playbook and alert"

/-- `INSERT` of `create_retry_execution`; an `IntegrityError` is raised as a `ValueError`. -/
def insertRetryExecution (source : RetryExecution) (retryOf : Nat) : Prog Nat :=
  tryCatch (issue conn (.insertRetry (retryOfSource source) retryOf)) fun raised =>
    match raised with
    | .integrity => throw (.value activeExists)
    | raised => throw raised

/-- `create_retry_execution`; `retryOf` goes with the row as a note of the dead letter. -/
def createRetryExecution (sourceExecutionId retryOf : Nat) : Prog Nat := do
  match ← issue conn (.getExecution sourceExecutionId) with
  | none => throw (.value "execution not found")
  | some source =>
    if source.status ≠ .failed ∧ source.status ≠ .abandoned then
      throw (.value ("retry requires failed or abandoned execution; current status: " ++
        s!"{source.status.text}"))
    else if ← activeExecutionExistsForPair conn source.playbookId source.alertId sourceExecutionId then
      throw (.value activeExists)
    else insertRetryExecution conn source retryOf

end Store

/-! ## Routes -/

def statusText : DeadLetterStatus → String
  | .open => "open"
  | .retrying => "retrying"
  | .retried => "retried"
  | .dismissed => "dismissed"

/-- `_safe_dead_letter`. -/
def safeDeadLetter (row : DeadLetterRow) : SafeDeadLetter where
  row := row
  errorMessage := sanitizeFailureMessage row.errorMessage
  dismissReason := row.dismissReason.bind sanitizeFailureMessage

/-- `payload.get(…)` where `None` counts as missing. -/
def present (payload : List (String × Json)) (key : String) : Option Json :=
  match payload.lookup key with
  | none | some .null => none
  | some value => some value

/-- `_review_comment`. -/
def reviewComment (payload : List (String × Json)) : Except String (Option String) :=
  match (present payload "comment").or (present payload "reason") with
  | none => .ok none
  | some (.str raw) => .ok (sanitizeFailureMessage raw)
  | some _ => .error "comment must be a string"

/-- `conn.commit()`. -/
def commit (conn : Nat) : Prog Unit := ExceptT.mk (call (R := Request.Reply) ⟨conn, .commit⟩)

/-- `conn.rollback()`. -/
def rollback (conn : Nat) : Prog Unit :=
  ExceptT.lift (call (R := Request.Reply) ⟨conn, .rollback⟩)

/-- `except ValueError`: what it says, or what the program returns. -/
def orValueError {α : Type} (p : Prog α) : Prog (Except String α) :=
  ExceptT.mk do
    match ← p.run with
    | .ok a => return .ok (.ok a)
    | .error (.value message) => return .ok (.error message)
    | .error raised => return .error raised

/-- `_actor_user_id`; a lookup that fails counts as no user. -/
def actorUserId (conn : Nat) (username : Option String) : Prog (Option Nat) :=
  match username with
  | none => return none
  | some username =>
    if username = "" then return none
    else tryCatch (issue conn (.userId username)) fun _ => return none

def notFound : Answer := .refused 404 "not_found" "Dead letter not found." none

/-- The answer to a change that the dead letter's status does not allow. -/
def invalidState (message : String) (row : DeadLetterRow) : Answer :=
  .refused 409 "invalid_state" message (some (statusText row.status))

/-- The answer after a guarded update that found nothing: the transaction is rolled back, and the row is
    read again for its status. -/
def refuseUpdate (conn id : Nat) (message : String) (existing : DeadLetterRow) : Prog Answer := do
  rollback conn
  let latest ← getDeadLetter conn id
  return invalidState message (latest.getD existing)

/-- A request that opens a connection: an exception rolls back and is answered with 500, and the
    connection is closed in every case. -/
def withConnection (conn : Nat) (body : Prog Answer) : Program Request.Reply Answer := do
  match ← call (R := Request.Reply) ⟨conn, .connect⟩ with
  | .error _ => return .internalError
  | .ok _ =>
    let answer ← (tryCatch body fun _ => do
      rollback conn
      return .internalError).run
    let _ ← call (R := Request.Reply) ⟨conn, .close⟩
    match answer with
    | .ok answer => return answer
    | .error _ => return .internalError

section Routes

variable (conn id : Nat)

/-- The body of `dismiss_dead_letter` behind its comment. -/
def dismissBody (comment : Option String) (username : Option String) : Prog Answer := do
  match ← getDeadLetter conn id with
  | none => return notFound
  | some existing =>
    let actorId ← actorUserId conn username
    match ← markDeadLetterDismissed conn id actorId
        (comment.getD "dismissed from dead letter review") with
    | none =>
      refuseUpdate conn id "Dead letter cannot be dismissed from its current status." existing
    | some updated =>
      commit conn
      return .deadLetter (safeDeadLetter updated)

/-- `dismiss_dead_letter`. -/
def dismissDeadLetter (payload : List (String × Json)) (username : Option String) :
    Program Request.Reply Answer :=
  match reviewComment payload with
  | .error message => return .refused 400 "invalid_request" message none
  | .ok comment => withConnection conn (dismissBody conn id comment username)

/-- The body of `retry_request_dead_letter`. -/
def retryRequestBody (username : Option String) : Prog Answer := do
  match ← getDeadLetter conn id with
  | none => return notFound
  | some existing =>
    let actorId ← actorUserId conn username
    match ← markDeadLetterRetryRequested conn id actorId with
    | none =>
      refuseUpdate conn id "Dead letter cannot be retry-requested from its current status." existing
    | some updated =>
      commit conn
      return .deadLetter (safeDeadLetter updated)

/-- `retry_request_dead_letter`. -/
def retryRequestDeadLetter (username : Option String) : Program Request.Reply Answer :=
  withConnection conn (retryRequestBody conn id username)

/-- What `retry_execute_dead_letter` does once the retry is inserted. -/
def finishRetry (existing : DeadLetterRow) (newExecutionId : Nat) : Prog Answer := do
  match ← markDeadLetterRetried conn id with
  | none => refuseUpdate conn id "Dead letter could not be marked retried." existing
  | some updated =>
    commit conn
    return .retryCreated (safeDeadLetter updated) newExecutionId
      "New pending playbook retry execution created. No steps have run."

/-- The body of `retry_execute_dead_letter`. -/
def retryExecuteBody : Prog Answer := do
  match ← getDeadLetter conn id with
  | none => return notFound
  | some existing =>
    if existing.status ≠ .retrying then
      return invalidState "Dead letter must be retrying before retry execution." existing
    else if existing.sourceType ≠ "playbook_execution" then
      return .refused 409 "unsupported_source_type"
        "Retry execution currently supports only playbook_execution dead letters."
        (some existing.sourceType)
    else
      match ← orValueError (createRetryExecution conn existing.sourceId id) with
      | .error message => do
        rollback conn
        return .refused 409 "retry_not_allowed" message none
      | .ok newExecutionId => finishRetry conn id existing newExecutionId

/-- `retry_execute_dead_letter`. -/
def retryExecuteDeadLetter : Program Request.Reply Answer :=
  withConnection conn (retryExecuteBody conn id)

end Routes

/-! ## Requests -/

/-- `capture_failed_execution_dead_letter` for several failures of a transaction: a capture that fails
    is passed over. -/
def captures (conn : Nat) : List DeadLetterRequest → Prog Unit
  | [] => return ()
  | args :: rest => do
    let _ ← tryCatch (some <$> createDeadLetter conn args) fun _ => return none
    captures conn rest

/-- A transaction that captures failures. -/
def captureBody (conn : Nat) (failures : List DeadLetterRequest) : Prog Answer := do
  captures conn failures
  commit conn
  return .done

/-- What a connection can be opened for. -/
inductive Task where
  | capture (failures : List DeadLetterRequest)
  | dismiss (id : Nat) (payload : List (String × Json)) (username : Option String)
  | retryRequest (id : Nat) (username : Option String)
  | retryExecute (id : Nat)
  | engine (change : Change)

def handle (conn : Nat) : Task → Program Request.Reply Answer
  | .capture failures => withConnection conn (captureBody conn failures)
  | .dismiss id payload username => dismissDeadLetter conn id payload username
  | .retryRequest id username => retryRequestDeadLetter conn id username
  | .retryExecute id => retryExecuteDeadLetter conn id
  | .engine change => do
    let _ ← call (R := Request.Reply) ⟨conn, .elsewhere change⟩
    return .done

/-- A request from its arrival to its answer. -/
def serve (conn : Nat) (task : Task) : Program Request.Reply Unit := do
  let _ ← call (R := Request.Reply) ⟨conn, .receive⟩
  let answer ← handle conn task
  let _ ← call (R := Request.Reply) ⟨conn, .respond answer⟩
  return ()

/-- The server, and the requests that its connections serve. -/
def reviewSystem : System ReviewServer Moment Nat Task Request.Reply where
  exec := ReviewServer.exec
  code conn task := some (serve conn task)

end SiemDashboard.DeadLetterReview
