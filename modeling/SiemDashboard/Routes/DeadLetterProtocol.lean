import SiemDashboard.Routes.DeadLetterRoutes

/-!
# The protocol of a dead letter request

What a request may do to its transaction, and that every route keeps to it.

* **Phases** — `Stage`: what the open transaction holds; `Phase`: whether it has been committed.
* **Protocol** — `SqlMove`, `Move`, `reviewProtocol`.
* **Programs** — one lemma for each function of the routes; `reviewRefinement`: every request keeps to
  the protocol.
-/

namespace SiemDashboard.DeadLetterReview

open Atomic Python DeadLetterStore

/-! ## Phases -/

/-- What the open transaction holds of a retry. -/
inductive Stage where
  /-- Nothing. -/
  | clean
  /-- The execution that the retry of the dead letter inserted. -/
  | executed (letter : Nat)
  /-- That execution, and the dead letter marked as retried. -/
  | marked (letter : Nat)

/-- Where a connection stands. -/
inductive Phase where
  /-- It serves no request. -/
  | idle
  /-- It serves one; `done` once the transaction has been committed. -/
  | live (stage : Stage) (done : Bool)

/-! ## Protocol -/

/-- A statement of an open transaction. -/
def SqlMove (stage : Stage) : (q : Sql) → Except Raised (SqlReply q) → Stage → Prop
  | .insertRetry _ retryOf, .ok _, stage' => stage = .clean ∧ stage' = .executed retryOf
  | .insertRetry .., .error _, stage' => stage = .clean ∧ stage' = .clean
  | .markRetried id, .ok (some _), stage' => stage = .executed id ∧ stage' = .marked id
  | .markRetried id, _, stage' => stage = .executed id ∧ stage' = stage
  | .upsert _, _, stage' => stage = .clean ∧ stage' = .clean
  | .dismiss .., _, stage' => stage = .clean ∧ stage' = .clean
  | .requestRetry .., _, stage' => stage = .clean ∧ stage' = .clean
  | .getDeadLetter _, _, stage' => stage' = stage
  | .userId _, _, stage' => stage' = stage
  | .lockDeadLetter _, _, stage' => stage' = stage
  | .getExecution _, _, stage' => stage' = stage
  | .activeExecution .., _, stage' => stage' = stage

/-- The transaction may be committed: it inserts no execution, or its dead letter is marked too. -/
def Stage.Complete : Stage → Prop
  | .executed _ => False
  | .clean | .marked _ => True

theorem complete_clean : Stage.Complete .clean := trivial

theorem complete_marked (letter : Nat) : Stage.Complete (.marked letter) := trivial

/-- A step of a request. -/
inductive Move : Phase → (q : Statement) → q.Reply → Phase → Prop where
  | receive : Move .idle .receive () (.live .clean false)
  | connect (r) : Move (.live .clean false) .connect r (.live .clean false)
  | sql {stage stage' q r} (hmove : SqlMove stage q r stage') :
      Move (.live stage false) (.sql q) r (.live stage' false)
  | commit {stage} (hcomplete : stage.Complete) :
      Move (.live stage false) .commit (.ok ()) (.live .clean true)
  | commitFails {stage} (raised) : Move (.live stage false) .commit (.error raised) (.live .clean false)
  | rollback {stage done} : Move (.live stage done) .rollback () (.live .clean done)
  | close {stage done} : Move (.live stage done) .close () (.live .clean done)
  | elsewhere (change) : Move (.live .clean false) (.elsewhere change) () (.live .clean true)
  | respond {done} (answer : Answer) (hanswer : done = true → answer.isError = false) :
      Move (.live .clean done) (.respond answer) () .idle

/-- The protocol of a connection: it issues steps of its own only. -/
def reviewProtocol (conn : Nat) : Protocol Request.Reply Phase where
  silent _ _ := False
  step g q r g' := q.conn = conn ∧ Move g q.statement r g'

/-! ## Programs -/

/-- A statement that every clean transaction may issue and that leaves it clean. -/
def Plain : Sql → Prop
  | .insertRetry .. | .markRetried _ => False
  | _ => True

theorem sqlMove_of_plain {q : Sql} (hq : Plain q) (r : Except Raised (SqlReply q)) :
    SqlMove .clean q r .clean := by
  cases q with
  | insertRetry | markRetried => exact hq.elim
  | upsert | dismiss | requestRetry => exact ⟨rfl, rfl⟩
  | getDeadLetter | userId | lockDeadLetter | getExecution | activeExecution => exact rfl

section Follows

variable {conn : Nat} {α β : Type}

/-- The transaction is clean and has not been committed. -/
abbrev fresh : Phase := .live .clean false

/-- A program keeps to the protocol from the phase on, and ends with the property of what it returns or
    raises and of the phase. -/
abbrev Keeps (conn : Nat) (g : Phase) (p : Prog α) (post : Except Raised α → Phase → Prop) : Prop :=
  p.run.Follows (reviewProtocol conn) post g

/-- The program leaves the transaction clean. -/
abbrev Clean (conn : Nat) (p : Prog α) : Prop := Keeps conn fresh p fun _ g => g = fresh

/-- One step, and then the rest from the phase it leads to. -/
theorem follows_step_bind {q : Request} {f : q.Reply → Program Request.Reply α} {g g' : Phase}
    {post : α → Phase → Prop} (hstep : ∀ r, (reviewProtocol conn).step g q r g')
    (hf : ∀ r, (f r).Follows (reviewProtocol conn) post g') :
    (call (R := Request.Reply) q >>= f).Follows (reviewProtocol conn) post g :=
  Program.follows_stmt fun r => ⟨g', hstep r, hf r⟩

theorem clean_pure (a : α) : Clean conn (pure a : Prog α) := Program.follows_done rfl

theorem clean_throw (raised : Raised) : Clean conn (throw raised : Prog α) := Program.follows_done rfl

theorem clean_issue {q : Sql} (hq : Plain q) : Clean conn (issue conn q) :=
  Program.follows_call fun r => ⟨fresh, ⟨rfl, .sql (sqlMove_of_plain hq r)⟩, rfl⟩

theorem clean_bind {p : Prog α} {f : α → Prog β} (hp : Clean conn p) (hf : ∀ a, Clean conn (f a)) :
    Clean conn (p >>= f) := by
  refine Program.follows_run_bind hp ?_ fun _ _ hg => hg
  rintro a _ rfl
  exact hf a

theorem clean_map (f : α → β) {p : Prog α} (hp : Clean conn p) : Clean conn (f <$> p) := by
  rw [map_eq_pure_bind]
  exact clean_bind hp fun _ => clean_pure _

theorem clean_tryCatch {p : Prog α} {handle : Raised → Prog α} (hp : Clean conn p)
    (hhandle : ∀ raised, Clean conn (handle raised)) : Clean conn (tryCatch p handle) := by
  refine Program.follows_run_tryCatch hp (fun _ _ hg => hg) ?_
  rintro raised _ rfl
  exact hhandle raised

/-- A clean part first. -/
theorem keeps_clean_bind {p : Prog α} {f : α → Prog β} {post : Except Raised β → Phase → Prop}
    (hp : Clean conn p) (hf : ∀ a, Keeps conn fresh (f a) post)
    (hraise : ∀ raised, post (.error raised) fresh) : Keeps conn fresh (p >>= f) post := by
  refine Program.follows_run_bind hp ?_ ?_
  · rintro a _ rfl
    exact hf a
  · rintro raised _ rfl
    exact hraise raised

theorem clean_checked (result : Except String α) : Clean conn (checked result) := by
  cases result with
  | ok a => exact clean_pure a
  | error message => exact clean_throw _

theorem clean_createDeadLetter (args : DeadLetterRequest) : Clean conn (createDeadLetter conn args) :=
  clean_bind (clean_checked _) fun _ => clean_issue trivial

theorem clean_markDeadLetterDismissed (id : Nat) (dismissedBy : Option Nat) (reason : String) :
    Clean conn (markDeadLetterDismissed conn id dismissedBy reason) :=
  clean_bind (clean_checked _) fun _ => clean_issue trivial

theorem clean_actorUserId (username : Option String) : Clean conn (actorUserId conn username) := by
  unfold actorUserId
  cases username with
  | none => exact clean_pure none
  | some username =>
    dsimp only
    split
    · exact clean_pure none
    · exact clean_tryCatch (clean_issue trivial) fun _ => clean_pure none

theorem clean_activeExecutionExistsForPair (playbookId : String) (alertId : Option Nat) (id : Nat) :
    Clean conn (activeExecutionExistsForPair conn playbookId alertId id) := by
  unfold activeExecutionExistsForPair
  cases alertId with
  | none => exact clean_pure false
  | some alertId => exact clean_issue trivial

theorem clean_captures (failures : List DeadLetterRequest) : Clean conn (captures conn failures) := by
  induction failures with
  | nil => exact clean_pure ()
  | cons args rest ih =>
    rw [captures]
    refine clean_bind ?_ fun _ => ih
    exact clean_tryCatch (clean_map some (clean_createDeadLetter args)) fun _ => clean_pure none

/-- How the body of a route ends: with an answer that is no error once the transaction has been
    committed, or raising before that. -/
def Ended : Except Raised Answer → Phase → Prop
  | .ok answer, g => ∃ stage done, g = .live stage done ∧ (done = true → answer.isError = false)
  | .error _, g => ∃ stage, g = .live stage false

theorem ended_ok {stage : Stage} (answer : Answer) : Ended (.ok answer) (.live stage false) :=
  ⟨stage, false, rfl, fun h => by cases h⟩

theorem ended_error {stage : Stage} (raised : Raised) : Ended (.error raised) (.live stage false) :=
  ⟨stage, rfl⟩

/-- An answer that ends the route before anything is committed. -/
theorem keeps_answer {stage : Stage} (answer : Answer) :
    Keeps conn (.live stage false) (pure answer) Ended :=
  Program.follows_done (ended_ok answer)

/-- A commit, and then an answer that is no error. -/
theorem keeps_commit {stage : Stage} (hstage : stage.Complete) {answer : Answer}
    (hanswer : answer.isError = false) :
    Keeps conn (.live stage false) (commit conn >>= fun _ => pure answer) Ended := by
  refine Program.follows_stmt fun r => ?_
  cases r with
  | ok u => exact ⟨_, ⟨rfl, .commit hstage⟩, Program.follows_done ⟨.clean, true, rfl, fun _ => hanswer⟩⟩
  | error raised => exact ⟨_, ⟨rfl, .commitFails raised⟩, Program.follows_done (ended_error raised)⟩

theorem keeps_rollback_bind {stage : Stage} {f : Unit → Prog α}
    {post : Except Raised α → Phase → Prop} (hf : Keeps conn fresh (f ()) post) :
    Keeps conn (.live stage false) (rollback conn >>= f) post :=
  Program.follows_stmt fun _ => ⟨fresh, ⟨rfl, .rollback⟩, hf⟩

theorem keeps_refuseUpdate {stage : Stage} (id : Nat) (message : String) (existing : DeadLetterRow) :
    Keeps conn (.live stage false) (refuseUpdate conn id message existing) Ended :=
  keeps_rollback_bind
    (keeps_clean_bind (clean_issue trivial) (fun _ => keeps_answer _) fun raised => ended_error raised)

theorem keeps_dismissBody (id : Nat) (comment username : Option String) :
    Keeps conn fresh (dismissBody conn id comment username) Ended := by
  refine keeps_clean_bind (clean_issue trivial) (fun existing? => ?_) fun raised => ended_error raised
  cases existing? with
  | none => exact keeps_answer _
  | some existing =>
    refine keeps_clean_bind (clean_actorUserId username) (fun actorId => ?_) fun raised =>
      ended_error raised
    refine keeps_clean_bind (clean_markDeadLetterDismissed id actorId _) (fun updated? => ?_)
      fun raised => ended_error raised
    cases updated? with
    | none => exact keeps_refuseUpdate id _ existing
    | some updated => exact keeps_commit complete_clean rfl

theorem keeps_retryRequestBody (id : Nat) (username : Option String) :
    Keeps conn fresh (retryRequestBody conn id username) Ended := by
  refine keeps_clean_bind (clean_issue trivial) (fun existing? => ?_) fun raised => ended_error raised
  cases existing? with
  | none => exact keeps_answer _
  | some existing =>
    refine keeps_clean_bind (clean_actorUserId username) (fun actorId => ?_) fun raised =>
      ended_error raised
    refine keeps_clean_bind (clean_issue trivial) (fun updated? => ?_) fun raised => ended_error raised
    cases updated? with
    | none => exact keeps_refuseUpdate id _ existing
    | some updated => exact keeps_commit complete_clean rfl

/-- What an insert of the retry leaves: its execution, or nothing. -/
def Inserted (letter : Nat) : Except Raised Nat → Phase → Prop
  | .ok _, g => g = .live (.executed letter) false
  | .error _, g => g = fresh

theorem keeps_insertRetryExecution (source : RetryExecution) (letter : Nat) :
    Keeps conn fresh (insertRetryExecution conn source letter) (Inserted letter) := by
  have hinsert : Keeps conn fresh (issue conn (.insertRetry (retryOfSource source) letter))
      (Inserted letter) := by
    refine Program.follows_call fun r => ?_
    cases r with
    | ok id => exact ⟨_, ⟨rfl, .sql ⟨rfl, rfl⟩⟩, rfl⟩
    | error raised => exact ⟨_, ⟨rfl, .sql ⟨rfl, rfl⟩⟩, rfl⟩
  refine Program.follows_run_tryCatch hinsert (fun _ _ hg => hg) ?_
  rintro raised _ rfl
  cases raised with
  | integrity => exact Program.follows_done rfl
  | value message => exact Program.follows_done rfl
  | database message => exact Program.follows_done rfl

/-- Raising before the insert. -/
theorem keeps_throw_inserted (letter : Nat) (raised : Raised) :
    Keeps conn fresh (throw raised) (Inserted letter) :=
  Program.follows_done rfl

theorem keeps_createRetryExecution (sourceId letter : Nat) :
    Keeps conn fresh (createRetryExecution conn sourceId letter) (Inserted letter) := by
  refine keeps_clean_bind (clean_issue trivial) (fun source? => ?_) fun _ => rfl
  cases source? with
  | none => exact keeps_throw_inserted letter _
  | some source =>
    dsimp only
    split
    · exact keeps_throw_inserted letter _
    · refine keeps_clean_bind (clean_activeExecutionExistsForPair _ _ _) (fun active => ?_)
        fun _ => rfl
      cases active with
      | true => exact keeps_throw_inserted letter _
      | false => exact keeps_insertRetryExecution source letter

/-- What marking leaves: the dead letter marked next to the execution, or only the latter. -/
def MarkedOr (letter : Nat) : Except Raised (Option DeadLetterRow) → Phase → Prop
  | .ok (some _), g => g = .live (.marked letter) false
  | _, g => g = .live (.executed letter) false

theorem keeps_markDeadLetterRetried (letter : Nat) :
    Keeps conn (.live (.executed letter) false) (markDeadLetterRetried conn letter)
      (MarkedOr letter) := by
  have hlock : Keeps conn (.live (.executed letter) false) (issue conn (.lockDeadLetter letter))
      fun _ g => g = .live (.executed letter) false :=
    Program.follows_call fun r => ⟨_, ⟨rfl, .sql rfl⟩, rfl⟩
  refine Program.follows_run_bind hlock ?_ ?_
  · rintro current? _ rfl
    cases current? with
    | none => exact Program.follows_done rfl
    | some current =>
      dsimp only
      split
      · exact Program.follows_done rfl
      · refine Program.follows_call fun r => ?_
        rcases r with raised | (_ | updated)
        · exact ⟨_, ⟨rfl, .sql ⟨rfl, rfl⟩⟩, rfl⟩
        · exact ⟨_, ⟨rfl, .sql ⟨rfl, rfl⟩⟩, rfl⟩
        · exact ⟨_, ⟨rfl, .sql ⟨rfl, rfl⟩⟩, rfl⟩
  · rintro raised _ rfl
    exact rfl

theorem keeps_finishRetry (letter : Nat) (existing : DeadLetterRow) (newExecutionId : Nat) :
    Keeps conn (.live (.executed letter) false) (finishRetry conn letter existing newExecutionId)
      Ended := by
  refine Program.follows_run_bind (keeps_markDeadLetterRetried letter) ?_ ?_
  · intro updated? g hg
    cases updated? with
    | none =>
      obtain rfl : g = _ := hg
      exact keeps_refuseUpdate letter _ existing
    | some updated =>
      obtain rfl : g = _ := hg
      exact keeps_commit (complete_marked letter) rfl
  · rintro raised g hg
    obtain rfl : g = _ := hg
    exact ended_error raised

/-- What a retry leaves where a `ValueError` is answered instead of raised. -/
def InsertedOr (letter : Nat) : Except Raised (Except String Nat) → Phase → Prop
  | .ok (.ok _), g => g = .live (.executed letter) false
  | _, g => g = fresh

theorem keeps_orValueError {p : Prog Nat} {letter : Nat}
    (hp : Keeps conn fresh p (Inserted letter)) :
    Keeps conn fresh (orValueError p) (InsertedOr letter) := by
  refine Program.follows_bind hp ?_
  intro r g hg
  rcases r with (message | _ | message) | newExecutionId
  · exact Program.follows_done hg
  · exact Program.follows_done hg
  · exact Program.follows_done hg
  · exact Program.follows_done hg

theorem keeps_retryExecuteBody (letter : Nat) :
    Keeps conn fresh (retryExecuteBody conn letter) Ended := by
  refine keeps_clean_bind (clean_issue trivial) (fun existing? => ?_) fun raised => ended_error raised
  cases existing? with
  | none => exact keeps_answer _
  | some existing =>
    dsimp only
    split
    · exact keeps_answer _
    · split
      · exact keeps_answer _
      · refine Program.follows_run_bind
          (keeps_orValueError (keeps_createRetryExecution existing.sourceId letter)) ?_ ?_
        · intro r g hg
          cases r with
          | error message =>
            obtain rfl : g = fresh := hg
            exact keeps_rollback_bind (keeps_answer _)
          | ok newExecutionId =>
            obtain rfl : g = _ := hg
            exact keeps_finishRetry letter existing newExecutionId
        · rintro raised g hg
          obtain rfl : g = fresh := hg
          exact ended_error raised

theorem keeps_captureBody (failures : List DeadLetterRequest) :
    Keeps conn fresh (captureBody conn failures) Ended :=
  keeps_clean_bind (clean_captures failures) (fun _ => keeps_commit complete_clean rfl)
    fun raised => ended_error raised

/-- The request is answered: not with an error once its transaction has been committed. -/
def Answered (answer : Answer) (g : Phase) : Prop :=
  ∃ done, g = .live .clean done ∧ (done = true → answer.isError = false)

/-- What the handler of the route leaves: an answer, whatever the body raises. -/
def Handled (r : Except Raised Answer) (g : Phase) : Prop :=
  ∃ answer, r = .ok answer ∧ Ended (.ok answer) g

theorem keeps_handler {body : Prog Answer} (hbody : Keeps conn fresh body Ended) :
    Keeps conn fresh (tryCatch body fun _ => do
      rollback conn
      return .internalError) Handled := by
  refine Program.follows_run_tryCatch hbody (fun answer g hg => ⟨answer, rfl, hg⟩) ?_
  rintro raised _ ⟨stage, rfl⟩
  exact keeps_rollback_bind (Program.follows_done ⟨.internalError, rfl, ended_ok _⟩)

theorem follows_withConnection {body : Prog Answer} (hbody : Keeps conn fresh body Ended) :
    (withConnection conn body).Follows (reviewProtocol conn) Answered fresh := by
  refine follows_step_bind (fun r => ⟨rfl, .connect r⟩) fun r => ?_
  cases r with
  | error raised => exact Program.follows_done ⟨false, rfl, fun h => by cases h⟩
  | ok u =>
    refine Program.follows_bind (keeps_handler hbody) ?_
    rintro _ _ ⟨answer, rfl, stage, done, rfl, hanswer⟩
    refine follows_step_bind (fun _ => ⟨rfl, .close⟩) fun _ => ?_
    exact Program.follows_done ⟨done, rfl, hanswer⟩

theorem follows_handle (task : Task) :
    (handle conn task).Follows (reviewProtocol conn) Answered fresh := by
  cases task with
  | capture failures => exact follows_withConnection (keeps_captureBody failures)
  | dismiss id payload username =>
    change (dismissDeadLetter conn id payload username).Follows _ _ _
    unfold dismissDeadLetter
    cases reviewComment payload with
    | error message => exact Program.follows_done ⟨false, rfl, fun h => by cases h⟩
    | ok comment => exact follows_withConnection (keeps_dismissBody id comment username)
  | retryRequest id username => exact follows_withConnection (keeps_retryRequestBody id username)
  | retryExecute id => exact follows_withConnection (keeps_retryExecuteBody id)
  | engine change =>
    exact Program.follows_stmt fun _ =>
      ⟨.live .clean true, ⟨rfl, .elsewhere change⟩, Program.follows_done ⟨true, rfl, fun _ => rfl⟩⟩

theorem follows_serve (task : Task) :
    (serve conn task).Follows (reviewProtocol conn) (fun _ g => g = .idle) .idle := by
  refine follows_step_bind (fun _ => ⟨rfl, .receive⟩) fun _ => ?_
  refine Program.follows_bind (follows_handle task) ?_
  rintro answer _ ⟨done, rfl, hanswer⟩
  exact follows_step_bind (fun _ => ⟨rfl, .respond answer hanswer⟩) fun _ => Program.follows_done rfl

end Follows

/-- Every request keeps to the protocol of its connection. -/
def reviewRefinement : Refinement reviewSystem Phase where
  protocol := reviewProtocol
  between := .idle
  follows conn task p hp := by
    cases hp
    exact follows_serve task

end SiemDashboard.DeadLetterReview
