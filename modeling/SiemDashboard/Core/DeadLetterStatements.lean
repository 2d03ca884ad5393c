import SiemDashboard.Core.DeadLetterStore
import SiemDashboard.Core.PlaybookStore
import SiemDashboard.Lib.Program
import SiemDashboard.Lib.RowVersions

/-!
# Statements of the dead letter review

The dead letters and the executions as the connections of any number of requests change them, one
statement at a time.  What the types, lengths and references of the columns refuse is among the faults
that may strike a statement.

* **Rows** — `DeadLetterRow`, `RetryExecution`, and the keys of their partial unique indexes,
  `activeSource` and `activePair`.
* **Statements** — `Sql`, `Statement`, `Request`; `Answer`, what a request is told.
* **Meaning** — `ReviewDb.run`, `ReviewServer.exec`, and `ReviewServer.waits`: what a statement has to
  wait for.
-/

namespace SiemDashboard.DeadLetterReview

open Python DeadLetterStore PlaybookStore RowVersions

/-! ## Rows -/

/-- A row of `soar_dead_letters` with the columns of its review; the payload is left out. -/
structure DeadLetterRow extends DeadLetter where
  retryCount : Nat
  dismissedAt : Option Int
  dismissedBy : Option Nat
  dismissReason : Option String
  retryRequestedAt : Option Int
  retryRequestedBy : Option Nat
  createdAt : Int

/-- The key of `idx_soar_dead_letters_active_source_unique`. -/
def DeadLetterRow.activeSource (row : DeadLetterRow) : Option (String × Nat) :=
  if row.status.isActive then some (row.sourceType, row.sourceId) else none

/-- A dead letter that is never reviewed again. -/
def DeadLetterRow.IsFinal (row : DeadLetterRow) : Prop := row.status.isActive = false

/-- A row of `playbook_executions`; `retryOf` is no column: the dead letter whose retry inserted it. -/
structure RetryExecution extends Execution where
  retryOf : Option Nat

/-- The key of `idx_playbook_executions_playbook_alert_unique`. -/
def RetryExecution.activePair (row : RetryExecution) : Option (String × Nat) :=
  if row.status.isActive then row.alertId.map fun alertId => (row.playbookId, alertId) else none

/-- What `create_dead_letter` has validated. -/
structure NewDeadLetter where
  sourceType : String
  sourceId : Nat
  executionId : Option Nat
  incidentId : Option Nat
  alertId : Option Nat
  playbookId : Option String
  stepIndex : Option Nat
  actionName : Option String
  failureClass : String
  errorMessage : String
  retryable : Bool
  firstFailedAt : Option Int
  lastFailedAt : Option Int

/-- The row that the `INSERT` adds. -/
def NewDeadLetter.row (new : NewDeadLetter) (now : Int) (id : Nat) : DeadLetterRow where
  id := id
  sourceType := new.sourceType
  sourceId := new.sourceId
  executionId := new.executionId
  incidentId := new.incidentId
  alertId := new.alertId
  playbookId := new.playbookId
  stepIndex := new.stepIndex
  actionName := new.actionName
  failureClass := new.failureClass
  errorMessage := new.errorMessage
  retryable := new.retryable
  status := .open
  firstFailedAt := new.firstFailedAt.getD now
  lastFailedAt := new.lastFailedAt.getD now
  retryCount := 0
  dismissedAt := none
  dismissedBy := none
  dismissReason := none
  retryRequestedAt := none
  retryRequestedBy := none
  createdAt := now

/-- What `ON CONFLICT … DO UPDATE` makes of the active row. -/
def NewDeadLetter.refresh (new : NewDeadLetter) (now : Int) (row : DeadLetterRow) : DeadLetterRow :=
  { row with
    executionId := new.executionId.or row.executionId
    incidentId := new.incidentId.or row.incidentId
    alertId := new.alertId.or row.alertId
    playbookId := new.playbookId.or row.playbookId
    stepIndex := new.stepIndex.or row.stepIndex
    actionName := new.actionName.or row.actionName
    failureClass := new.failureClass
    errorMessage := new.errorMessage
    retryable := new.retryable
    lastFailedAt := new.lastFailedAt.getD now }

/-! ## Statements -/

/-- The statements on the tables. -/
inductive Sql where
  /-- `get_dead_letter` -/
  | getDeadLetter (id : Nat)
  /-- `SELECT id FROM users WHERE username = …` -/
  | userId (username : String)
  /-- `INSERT … ON CONFLICT … DO UPDATE` of `create_dead_letter` -/
  | upsert (new : NewDeadLetter)
  /-- `UPDATE` of `mark_dead_letter_dismissed` -/
  | dismiss (id : Nat) (dismissedBy : Option Nat) (reason : String)
  /-- `UPDATE` of `mark_dead_letter_retry_requested` -/
  | requestRetry (id : Nat) (requestedBy : Option Nat)
  /-- `SELECT … FOR UPDATE` of `mark_dead_letter_retried` -/
  | lockDeadLetter (id : Nat)
  /-- `UPDATE` of `mark_dead_letter_retried` -/
  | markRetried (id : Nat)
  /-- `get_playbook_execution` -/
  | getExecution (id : Nat)
  /-- `SELECT 1` of `_active_execution_exists_for_pair` -/
  | activeExecution (playbookId : String) (alertId : Nat) (excludeExecutionId : Nat)
  /-- `INSERT` of `create_retry_execution` -/
  | insertRetry (new : NewExecution) (retryOf : Nat)

/-- What each statement answers. -/
@[reducible] def SqlReply : Sql → Type
  | .getDeadLetter _ => Option DeadLetterRow
  | .userId _ => Option Nat
  | .upsert _ => DeadLetterRow
  | .dismiss .. => Option DeadLetterRow
  | .requestRetry .. => Option DeadLetterRow
  | .lockDeadLetter _ => Option DeadLetterRow
  | .markRetried _ => Option DeadLetterRow
  | .getExecution _ => Option RetryExecution
  | .activeExecution .. => Bool
  | .insertRetry .. => Nat

inductive Raised where
  /-- `ValueError` -/
  | value (message : String)
  /-- `psycopg2.IntegrityError` -/
  | integrity
  | database (message : String)
deriving DecidableEq

/-- `_safe_dead_letter`: the row, and its messages as they are shown. -/
structure SafeDeadLetter where
  row : DeadLetterRow
  errorMessage : Option String
  dismissReason : Option String

/-- What a request is answered. -/
inductive Answer where
  /-- 200 -/
  | deadLetter (letter : SafeDeadLetter)
  /-- 201 -/
  | retryCreated (letter : SafeDeadLetter) (newExecutionId : Nat) (message : String)
  /-- An error with its code; `detail` is the status or the source type it names. -/
  | refused (code : Nat) (error message : String) (detail : Option String)
  /-- 500 -/
  | internalError
  /-- No request: work of the playbook engine, which goes on. -/
  | done

def Answer.isError : Answer → Bool
  | .refused .. | .internalError => true
  | .deadLetter _ | .retryCreated .. | .done => false

/-- What the playbook engine does to the executions. -/
inductive Change where
  | setStatus (id : Nat) (status : ExecutionStatus)
  | insert (new : NewExecution)

/-- The steps of a request. -/
inductive Statement where
  /-- The request is taken up. -/
  | receive
  /-- `get_db_connection` -/
  | connect
  | sql (q : Sql)
  | commit
  | rollback
  | close
  | respond (answer : Answer)
  /-- A transaction of the playbook engine. -/
  | elsewhere (change : Change)

/-- What each step answers; an `Except` is a step that may raise. -/
@[reducible] def Statement.Reply : Statement → Type
  | .connect | .commit => Except Raised Unit
  | .sql q => Except Raised (SqlReply q)
  | .receive | .rollback | .close | .respond _ | .elsewhere _ => Unit

/-- A step of the request that the connection serves. -/
structure Request where
  conn : Nat
  statement : Statement

@[reducible] def Request.Reply (q : Request) : Type := q.statement.Reply

/-! ## Meaning -/

/-- The two tables. -/
structure ReviewDb where
  letters : Store Nat DeadLetterRow
  executions : Store Nat RetryExecution

/-- What the outside gives at a step: a fault of the server or of the connection, the time of the
    transaction, and the id of the user. -/
structure Moment where
  fault : Option Raised
  now : Int
  user : Option Nat

def isActiveOf (sourceType : String) (sourceId : Nat) (row : DeadLetterRow) : Bool :=
  row.activeSource == some (sourceType, sourceId)

def isActivePair (playbookId : String) (alertId : Nat) (row : RetryExecution) : Bool :=
  row.activePair == some (playbookId, alertId)

namespace ReviewDb

/-- `UPDATE … WHERE id = … AND … RETURNING`. -/
def updateLetter (db : ReviewDb) (conn id : Nat) (guard : DeadLetterRow → Bool)
    (f : DeadLetterRow → DeadLetterRow) : Option DeadLetterRow × ReviewDb :=
  match (db.letters.view conn id).filter guard with
  | some row => (some (f row), { db with letters := db.letters.write conn id (f row) })
  | none => (none, db)

/-- `SELECT … WHERE id = … FOR UPDATE`. -/
def lockLetter (db : ReviewDb) (conn id : Nat) : Option DeadLetterRow × ReviewDb :=
  match db.letters.view conn id with
  | some row => (some row, { db with letters := db.letters.lock conn id })
  | none => (none, db)

/-- `INSERT … ON CONFLICT (source_type, source_id) WHERE status IN ('open', 'retrying') DO UPDATE`. -/
def upsertLetter (db : ReviewDb) (conn : Nat) (new : NewDeadLetter) (now : Int) :
    DeadLetterRow × ReviewDb :=
  match db.letters.find? conn (isActiveOf new.sourceType new.sourceId) with
  | some (id, row) =>
    (new.refresh now row, { db with letters := db.letters.write conn id (new.refresh now row) })
  | none =>
    (new.row now db.letters.next, { db with letters := db.letters.insert conn (new.row now) })

/-- The row that a retry inserts. -/
def retryRow (new : NewExecution) (now : Int) (retryOf : Option Nat) (id : Nat) : RetryExecution :=
  { toExecution := newExecutionRow new now id, retryOf := retryOf }

/-- `INSERT INTO playbook_executions`, under the unique index on the active executions of a pair. -/
def insertRetry (db : ReviewDb) (conn : Nat) (new : NewExecution) (retryOf : Nat) (now : Int) :
    Except Raised Nat × ReviewDb :=
  let insert := (.ok db.executions.next,
    { db with executions := db.executions.insert conn (retryRow new now (some retryOf)) })
  match new.alertId with
  | none => insert
  | some alertId =>
    match db.executions.find? conn (isActivePair new.playbookId alertId) with
    | some _ => (.error .integrity, db)
    | none => insert

/-- What a statement answers and leaves. -/
def run (conn : Nat) (w : Moment) : (q : Sql) → ReviewDb → Except Raised (SqlReply q) × ReviewDb
  | .getDeadLetter id, db => (.ok (db.letters.view conn id), db)
  | .userId _, db => (.ok w.user, db)
  | .upsert new, db => ((.ok (db.upsertLetter conn new w.now).1), (db.upsertLetter conn new w.now).2)
  | .dismiss id dismissedBy reason, db =>
    let updated := db.updateLetter conn id (fun row => row.status.isActive) fun row =>
      { row with
        status := .dismissed
        dismissedAt := some w.now
        dismissedBy := dismissedBy
        dismissReason := some reason }
    (.ok updated.1, updated.2)
  | .requestRetry id requestedBy, db =>
    let updated := db.updateLetter conn id (fun row => row.status = .open) fun row =>
      { row with
        status := .retrying
        retryRequestedAt := some w.now
        retryRequestedBy := requestedBy
        retryCount := row.retryCount + 1 }
    (.ok updated.1, updated.2)
  | .lockDeadLetter id, db => (.ok (db.lockLetter conn id).1, (db.lockLetter conn id).2)
  | .markRetried id, db =>
    let updated := db.updateLetter conn id (fun row => row.status = .retrying) fun row =>
      { row with status := .retried }
    (.ok updated.1, updated.2)
  | .getExecution id, db => (.ok (db.executions.view conn id), db)
  | .activeExecution playbookId alertId excludeExecutionId, db =>
    (.ok ((List.range db.executions.next).any fun id => id ≠ excludeExecutionId &&
      (db.executions.view conn id).any (isActivePair playbookId alertId)), db)
  | .insertRetry new retryOf, db => db.insertRetry conn new retryOf w.now

/-- Another connection holds a committed row that the statement would take. -/
def rowTaken (db : ReviewDb) (conn id : Nat) (guard : DeadLetterRow → Bool) : Bool :=
  (db.letters.cell id).isTaken conn && (db.letters.committed id).any guard

/-- The statement has to wait for another connection. -/
def waits (conn : Nat) (db : ReviewDb) : Sql → Bool
  | .upsert new => db.letters.contested conn (isActiveOf new.sourceType new.sourceId)
  | .dismiss id .. => db.rowTaken conn id fun row => row.status.isActive
  | .requestRetry id _ => db.rowTaken conn id fun row => row.status = .open
  | .lockDeadLetter id => db.rowTaken conn id fun _ => true
  | .markRetried id => db.rowTaken conn id fun row => row.status = .retrying
  | .insertRetry new _ => new.alertId.any fun alertId =>
    db.executions.contested conn (isActivePair new.playbookId alertId)
  | .getDeadLetter _ | .userId _ | .getExecution _ | .activeExecution .. => false

/-- Both tables without the connection's uncommitted versions. -/
def rollback (db : ReviewDb) (conn : Nat) : ReviewDb :=
  ⟨db.letters.rollback conn, db.executions.rollback conn⟩

def commit (db : ReviewDb) (conn : Nat) : ReviewDb :=
  ⟨db.letters.commit conn, db.executions.commit conn⟩

/-- A transaction of the playbook engine; an execution that has ended stays ended, and an insert that
    meets an active execution of its pair does nothing. -/
def change (db : ReviewDb) (conn : Nat) (now : Int) : Change → ReviewDb
  | .setStatus id status =>
    { db with executions := db.executions.amend id fun row =>
        if row.status.isTerminal && status.isActive then row else { row with status := status } }
  | .insert new =>
    let conflict := new.alertId.any fun alertId =>
      db.executions.contested conn (isActivePair new.playbookId alertId) ||
        (db.executions.find? conn (isActivePair new.playbookId alertId)).isSome
    if conflict then db else { db with executions := db.executions.append (retryRow new now none) }

end ReviewDb

/-- The state of a connection and of the request it serves; `published` is no part of it: whether a
    transaction of the connection has been committed. -/
structure ConnState where
  received : Bool
  aborted : Bool
  published : Bool
  answer : Option Answer

/-- The tables and the connections. -/
structure ReviewServer where
  db : ReviewDb
  conns : Nat → ConnState

namespace ReviewServer

/-- No rows, and no requests so far. -/
def empty : ReviewServer where
  db := ⟨Store.empty, Store.empty⟩
  conns _ := ⟨false, false, false, none⟩

/-- Change the state of a connection. -/
def onConn (s : ReviewServer) (conn : Nat) (f : ConnState → ConnState) : ReviewServer :=
  { s with conns := Function.update s.conns conn (f (s.conns conn)) }

/-- The text of the answer to every statement of an aborted transaction. -/
def abortedMessage : String :=
  "current transaction is aborted, commands ignored until end of transaction block"

/-- A statement on the tables; one that fails aborts the transaction. -/
def sql (s : ReviewServer) (conn : Nat) (w : Moment) (q : Sql) : Except Raised (SqlReply q) × ReviewServer :=
  if (s.conns conn).aborted then (.error (.database abortedMessage), s)
  else
    match w.fault with
    | some raised => (.error raised, s.onConn conn fun c => { c with aborted := true })
    | none =>
      match ReviewDb.run conn w q s.db with
      | (.error raised, db) =>
        (.error raised, { s with db := db }.onConn conn fun c => { c with aborted := true })
      | (.ok reply, db) => (.ok reply, { s with db := db })

/-- The connection's transaction ends without effect. -/
def rollback (s : ReviewServer) (conn : Nat) : ReviewServer :=
  { s with db := s.db.rollback conn }.onConn conn fun c => { c with aborted := false }

/-- `conn.commit()`: an aborted transaction is rolled back without a word. -/
def commit (s : ReviewServer) (conn : Nat) (w : Moment) : Except Raised Unit × ReviewServer :=
  if (s.conns conn).aborted then (.ok (), s.rollback conn)
  else
    match w.fault with
    | some raised => (.error raised, s.rollback conn)
    | none => (.ok (), { s with db := s.db.commit conn }.onConn conn fun c => { c with published := true })

/-- What a step answers and leaves. -/
def exec (w : Moment) (q : Request) (s : ReviewServer) : q.Reply × ReviewServer :=
  match q with
  | ⟨conn, .receive⟩ => ((), s.onConn conn fun c => { c with received := true })
  | ⟨_, .connect⟩ =>
    match w.fault with
    | some raised => (.error raised, s)
    | none => (.ok (), s)
  | ⟨conn, .sql q⟩ => s.sql conn w q
  | ⟨conn, .commit⟩ => s.commit conn w
  | ⟨conn, .rollback⟩ | ⟨conn, .close⟩ => ((), s.rollback conn)
  | ⟨conn, .respond answer⟩ => ((), s.onConn conn fun c => { c with answer := some answer })
  | ⟨conn, .elsewhere change⟩ =>
    ((), { s with db := s.db.change conn w.now change }.onConn conn fun c => { c with published := true })

/-- The step has to wait for another connection. -/
def waits (s : ReviewServer) (q : Request) : Bool :=
  match q.statement with
  | .sql sql => !(s.conns q.conn).aborted && s.db.waits q.conn sql
  | _ => false

end ReviewServer

end SiemDashboard.DeadLetterReview
