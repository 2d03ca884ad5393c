import Mathlib.Data.List.Basic

/-!
# Transactions with savepoints

Programs that talk to a database over one connection whose statements may fail.  A statement that the
server refuses aborts the transaction: later statements are refused too, until the program returns to a
savepoint or ends the transaction, and committing an aborted transaction rolls it back without saying so.

* **Sessions** — `Fault`, `Session`, `Tx`.
* **Statements** — `statement`, `savepoint`, `rollbackTo`, `release`, `commit`, `rollback`.
* **Handlers** — `attempt`, `underSavepoint`.
* **Triples** — `Holds`: what a program leaves, whatever it returns; one rule for each form.
* **Frames** — `Session.Within`, `Kept`: programs that note nothing and keep a property of the data, and
  what `underSavepoint` makes of them.
-/

namespace Transactions

/-! ## Sessions -/

/-- What may strike a statement. -/
inductive Fault where
  /-- The server refuses the statement. -/
  | database (message : String)
  /-- The program fails on its own side of the connection. -/
  | client (message : String)
deriving DecidableEq, Repr

/-- The text of what is raised. -/
def Fault.message : Fault → String
  | .database message => message
  | .client message => message

/-- A connection: the data that is committed, the data as the open transaction sees it, whether the
    transaction is aborted, the data at its savepoints, and the notes taken in it and in the
    transactions before it. -/
structure Session (σ κ : Type) where
  committed : σ
  current : σ
  aborted : Bool
  savepoints : List σ
  log : List κ
  history : List (List κ)
  position : Nat

/-- A program over a connection. -/
def Tx (σ κ α : Type) : Type := Session σ κ → Except String α × Session σ κ

variable {σ κ α β : Type}

/-- A connection whose transaction has just begun. -/
def Session.start (data : σ) : Session σ κ where
  committed := data
  current := data
  aborted := false
  savepoints := []
  log := []
  history := []
  position := 0

/-- Note something in the log of the transaction. -/
def Session.note (s : Session σ κ) (entry : Option κ) : Session σ κ :=
  { s with log := s.log ++ entry.toList }

/-- A statement is sent. -/
def Session.next (s : Session σ κ) : Session σ κ := { s with position := s.position + 1 }

/-- The server refuses a statement. -/
def Session.broken (s : Session σ κ) (entry : Option κ) : Session σ κ :=
  { s.note entry with aborted := true }

instance : Monad (Tx σ κ) where
  pure a := fun s => (.ok a, s)
  bind p k := fun s =>
    match p s with
    | (.ok a, s') => k a s'
    | (.error message, s') => (.error message, s')

theorem pure_apply (a : α) (s : Session σ κ) : (pure a : Tx σ κ α) s = (.ok a, s) := rfl

theorem bind_apply (p : Tx σ κ α) (k : α → Tx σ κ β) (s : Session σ κ) :
    (p >>= k) s = match p s with
      | (.ok a, s') => k a s'
      | (.error message, s') => (.error message, s') := rfl

/-! ## Statements -/

/-- What a fault makes of the connection. -/
def Session.strike (s : Session σ κ) (entry : Option κ) : Fault → Session σ κ
  | .client _ => s
  | .database _ => s.broken entry

/-- The answer to every statement of an aborted transaction. -/
def abortedMessage : String :=
  "current transaction is aborted, commands ignored until end of transaction block"

section Statements

variable (faults : Nat → Option Fault)

/-- A statement that computes an answer and new data, or fails by itself; `note` is what the log says of
    an answer, and of a refusal. -/
def statement (note : Option α → Option κ) (f : Nat → σ → Except Fault (α × σ)) : Tx σ κ α := fun s =>
  if s.aborted then (.error abortedMessage, s.next)
  else
    match faults s.position with
    | some fault => (.error fault.message, s.next.strike (note none) fault)
    | none =>
      match f s.position s.current with
      | .error fault => (.error fault.message, s.next.strike (note none) fault)
      | .ok (a, current) => (.ok a, { s.next.note (note (some a)) with current := current })

/-- The form of the statements that control a transaction: whatever strikes one is the server's
    refusal. -/
def control (entry : Option κ) (f : Session σ κ → Option (Session σ κ)) : Tx σ κ Unit := fun s =>
  match f s.next, faults s.position with
  | none, _ => (.error abortedMessage, s.next)
  | some _, some fault => (.error fault.message, s.next.broken entry)
  | some s', none => (.ok (), s')

/-- `SAVEPOINT`. -/
def savepoint (entry : Option κ) : Tx σ κ Unit :=
  control faults entry fun s =>
    if s.aborted then none else some { s with savepoints := s.current :: s.savepoints }

/-- `ROLLBACK TO SAVEPOINT` the last one, which stays. -/
def rollbackTo (entry : Option κ) : Tx σ κ Unit :=
  control faults entry fun s =>
    match s.savepoints with
    | [] => none
    | data :: _ => some { s with current := data, aborted := false }

/-- `RELEASE SAVEPOINT` the last one. -/
def release (entry : Option κ) : Tx σ κ Unit :=
  control faults entry fun s =>
    if s.aborted then none else some { s with savepoints := s.savepoints.tail }

end Statements

/-- The transaction ends with this data, and the next one begins. -/
def Session.ended (s : Session σ κ) (data : σ) : Session σ κ where
  committed := data
  current := data
  aborted := false
  savepoints := []
  log := []
  history := s.history ++ [s.log]
  position := s.position

/-- `COMMIT`. -/
def commit : Tx σ κ Unit := fun s => (.ok (), s.ended (if s.aborted then s.committed else s.current))

/-- `ROLLBACK`. -/
def rollback : Tx σ κ Unit := fun s => (.ok (), s.ended s.committed)

/-! ## Handlers -/

/-- Run a program and go on whatever it raises. -/
def attempt (p : Tx σ κ α) : Tx σ κ (Except String α) := fun s => (.ok (p s).1, (p s).2)

/-- Run a program and release the last savepoint; where that raises, return to it. -/
def orReturn (faults : Nat → Option Fault) (entry : κ) (body : Tx σ κ α) :
    Tx σ κ (Except String α) := do
  match ← attempt (do let a ← body; release faults none; return a) with
  | .ok a => return .ok a
  | .error message =>
    let _ ← attempt (do rollbackTo faults (some entry); release faults (some entry))
    return .error message

/-- Run a program under a savepoint of its own, to which the connection returns where it raises; a
    failure of the savepoint itself, and of the return to it, is noted. -/
def underSavepoint (faults : Nat → Option Fault) (entry : κ) (body : Tx σ κ α) :
    Tx σ κ (Except String α) := do
  match ← attempt (savepoint faults (some entry)) with
  | .error message => return .error message
  | .ok _ => orReturn faults entry body

/-! ## Triples -/

/-- From a connection with the first property, the program ends with the second of its result and the
    connection. -/
def Holds (before : Session σ κ → Prop) (p : Tx σ κ α)
    (after : Except String α → Session σ κ → Prop) : Prop :=
  ∀ s, before s → after (p s).1 (p s).2

section Triples

variable {before before' : Session σ κ → Prop} {after after' : Except String α → Session σ κ → Prop}
  {p : Tx σ κ α}

theorem Holds.imp (h : Holds before p after) (hbefore : ∀ s, before' s → before s)
    (hafter : ∀ r s, after r s → after' r s) : Holds before' p after' :=
  fun s hs => hafter _ _ (h s (hbefore s hs))

theorem Holds.pure {a : α} (h : ∀ s, before s → after (.ok a) s) :
    Holds before (Pure.pure a) after :=
  fun s hs => h s hs

/-- One program after another: what the first raises is raised. -/
theorem Holds.bind {k : α → Tx σ κ β} {final : Except String β → Session σ κ → Prop}
    (hp : Holds before p after) (hk : ∀ a, Holds (after (.ok a)) (k a) final)
    (herror : ∀ message s, after (.error message) s → final (.error message) s) :
    Holds before (p >>= k) final := by
  intro s hs
  have hfirst := hp s hs
  rw [bind_apply]
  rcases hrun : p s with ⟨_ | a, s'⟩
  · rw [hrun] at hfirst
    exact herror _ _ hfirst
  · rw [hrun] at hfirst
    exact hk a s' hfirst

/-- A handler goes on with what the program returns or raises. -/
theorem Holds.handle {k : Except String α → Tx σ κ β} {final : Except String β → Session σ κ → Prop}
    (hp : Holds before p after) (hk : ∀ r, Holds (after r) (k r) final) :
    Holds before (attempt p >>= k) final :=
  fun s hs => hk _ _ (hp s hs)

/-- A statement is refused or strikes the program and leaves the data, aborts the transaction, or has
    its effect. -/
theorem Holds.statement {faults : Nat → Option Fault} {note : Option α → Option κ}
    {f : Nat → σ → Except Fault (α × σ)}
    (hfailed : ∀ s message, before s → after (.error message) s.next)
    (hbroken : ∀ s message, before s → s.aborted = false →
      after (.error message) (s.next.broken (note none)))
    (hdone : ∀ s a current, before s → s.aborted = false → f s.position s.current = .ok (a, current) →
      after (.ok a) { s.next.note (note (some a)) with current := current }) :
    Holds before (statement faults note f) after := by
  intro s hs
  have hstrike (fault : Fault) (hopen : s.aborted = false) :
      after (.error fault.message) (s.next.strike (note none) fault) := by
    cases fault with
    | database message => exact hbroken s message hs hopen
    | client message => exact hfailed s message hs
  unfold Transactions.statement
  cases haborted : s.aborted with
  | true => exact hfailed s _ hs
  | false =>
    simp only [Bool.false_eq_true, if_false]
    cases hfault : faults s.position with
    | some fault => exact hstrike fault haborted
    | none =>
      dsimp only
      rcases hf : f s.position s.current with fault | ⟨a, current⟩
      · exact hstrike fault haborted
      · exact hdone s a current hs haborted hf

/-- A control statement that the connection allows is done or refused. -/
theorem Holds.control {faults : Nat → Option Fault} {entry : Option κ}
    {f : Session σ κ → Option (Session σ κ)} {after : Except String Unit → Session σ κ → Prop}
    (hrejected : ∀ s message, before s → f s.next = none → after (.error message) s.next)
    (hbroken : ∀ s message, before s → (f s.next).isSome = true →
      after (.error message) (s.next.broken entry))
    (hdone : ∀ s s', before s → f s.next = some s' → after (.ok ()) s') :
    Holds before (control faults entry f) after := by
  intro s hs
  unfold Transactions.control
  cases hf : f s.next with
  | none => exact hrejected s _ hs hf
  | some s' =>
    cases hfault : faults s.position with
    | none => exact hdone s s' hs hf
    | some fault => exact hbroken s _ hs (by rw [hf]; rfl)

end Triples

/-! ## Frames -/

/-- Where a connection stands that has noted nothing since `base`: the savepoints are these, and the data
    has the property unless the transaction is aborted. -/
structure Session.Within (base : Session σ κ) (data : σ → Prop) (points : List σ)
    (s : Session σ κ) : Prop where
  committed : s.committed = base.committed
  history : s.history = base.history
  log : s.log = base.log
  savepoints : s.savepoints = points
  current : s.aborted = false → data s.current

/-- Where a connection stands whose transaction a noted failure has aborted since `base`. -/
structure Session.Lost (base : Session σ κ) (entry : κ) (s : Session σ κ) : Prop where
  committed : s.committed = base.committed
  history : s.history = base.history
  log : s.log = base.log ++ [entry]
  aborted : s.aborted = true

/-- The program notes nothing, leaves the savepoints as they are and keeps a property of the data. -/
def Kept (base : Session σ κ) (data : σ → Prop) (points : List σ) (p : Tx σ κ α) : Prop :=
  Holds (base.Within data points) p fun _ => base.Within data points

section Frames

variable {base : Session σ κ} {data : σ → Prop} {points : List σ} {p : Tx σ κ α}

theorem Kept.pure {a : α} : Kept base data points (Pure.pure a) := Holds.pure fun _ hs => hs

theorem Kept.bind {k : α → Tx σ κ β} (hp : Kept base data points p)
    (hk : ∀ a, Kept base data points (k a)) : Kept base data points (p >>= k) :=
  Holds.bind hp hk fun _ _ hs => hs

/-- A statement without notes keeps what its effect keeps. -/
theorem Kept.statement {faults : Nat → Option Fault} {f : Nat → σ → Except Fault (α × σ)}
    (hf : ∀ n before a after, data before → f n before = .ok (a, after) → data after) :
    Kept base data points (Transactions.statement faults (fun _ => none) f) := by
  refine Holds.statement (fun s _ hs => ?_) (fun s _ hs _ => ?_) fun s a current hs hopen hdone => ?_
  · exact ⟨hs.committed, hs.history, hs.log, hs.savepoints, hs.current⟩
  · exact ⟨hs.committed, hs.history, (List.append_nil _).trans hs.log, hs.savepoints, nofun⟩
  · exact ⟨hs.committed, hs.history, (List.append_nil _).trans hs.log, hs.savepoints,
      fun _ => hf _ _ _ _ (hs.current hopen) hdone⟩

/-- A savepoint is set, or the transaction is lost, or the program never gets to it. -/
theorem Holds.savepoint {faults : Nat → Option Fault} {entry : κ} :
    Holds (fun s => s.aborted = false ∧ base.Within data points s)
      (Transactions.savepoint faults (some entry)) fun r s =>
        (r = .ok () ∧ ∃ point, data point ∧ base.Within data (point :: points) s) ∨
          ((∃ message, r = .error message) ∧ base.Lost entry s) := by
  refine Holds.control (fun s _ hs hnone => ?_) (fun s message hs _ => ?_) fun s s' hs hdone => ?_
  · have hopen : s.next.aborted = false := hs.1
    rw [hopen] at hnone
    cases hnone
  · exact .inr ⟨⟨message, rfl⟩, hs.2.committed, hs.2.history, congrArg (· ++ [entry]) hs.2.log, rfl⟩
  · have hopen : s.next.aborted = false := hs.1
    rw [hopen] at hdone
    cases hdone
    have hcurrent : data s.current := hs.2.current hs.1
    exact .inl ⟨rfl, s.current, hcurrent, hs.2.committed, hs.2.history, hs.2.log,
      congrArg (s.current :: ·) hs.2.savepoints, fun _ => hcurrent⟩

/-- A program under its savepoint, up to the release. -/
theorem Holds.protected {faults : Nat → Option Fault} {point : σ} {body : Tx σ κ α}
    (hbody : Kept base data (point :: points) body) :
    Holds (base.Within data (point :: points)) (do let a ← body; release faults none; return a)
      fun r s =>
        ((∃ a, r = .ok a) ∧ s.aborted = false ∧ base.Within data points s) ∨
          ((∃ message, r = .error message) ∧ base.Within data (point :: points) s) := by
  refine Holds.bind hbody (fun a => ?_) fun message s hs => .inr ⟨⟨message, rfl⟩, hs⟩
  have hrelease : Holds (base.Within data (point :: points)) (release faults (none : Option κ))
      fun r s =>
        (r = .ok () ∧ s.aborted = false ∧ base.Within data points s) ∨
          ((∃ message, r = .error message) ∧ base.Within data (point :: points) s) := by
    refine Holds.control (fun s message hs _ => ?_) (fun s message hs _ => ?_) fun s s' hs hdone => ?_
    · exact .inr ⟨⟨message, rfl⟩, hs.committed, hs.history, hs.log, hs.savepoints, hs.current⟩
    · exact .inr ⟨⟨message, rfl⟩, hs.committed, hs.history, (List.append_nil _).trans hs.log,
        hs.savepoints, nofun⟩
    · split at hdone
      · cases hdone
      · next hopen =>
        cases hdone
        have hopen : s.aborted = false := Bool.not_eq_true _ ▸ hopen
        exact .inl ⟨rfl, hopen, hs.committed, hs.history, hs.log,
          congrArg List.tail hs.savepoints, fun _ => hs.current hopen⟩
  refine Holds.bind hrelease (fun _ => Holds.pure fun s hs => ?_) fun message s hs => ?_
  · rcases hs with ⟨-, hs⟩ | ⟨⟨_, h⟩, -⟩
    · exact .inl ⟨⟨a, rfl⟩, hs⟩
    · cases h
  · rcases hs with ⟨h, -⟩ | ⟨-, hs⟩
    · cases h
    · exact .inr ⟨⟨message, rfl⟩, hs⟩

/-- The return to a savepoint works, or the transaction is lost. -/
theorem Holds.recover {faults : Nat → Option Fault} {entry : κ} {point : σ} (hpoint : data point) :
    Holds (base.Within data (point :: points))
      (do rollbackTo faults (some entry); release faults (some entry))
      fun _ s => (s.aborted = false ∧ base.Within data points s) ∨ base.Lost entry s := by
  have hreturn : Holds (base.Within data (point :: points)) (rollbackTo faults (some entry)) fun r s =>
      (r = .ok () ∧ s.aborted = false ∧ base.Within data (point :: points) s) ∨
        ((∃ message, r = .error message) ∧ base.Lost entry s) := by
    refine Holds.control (fun s _ hs hnone => ?_) (fun s message hs _ => ?_) fun s s' hs hdone => ?_
    · have hpoints : s.next.savepoints = point :: points := hs.savepoints
      rw [hpoints] at hnone
      cases hnone
    · exact .inr ⟨⟨message, rfl⟩, hs.committed, hs.history, congrArg (· ++ [entry]) hs.log, rfl⟩
    · have hpoints : s.next.savepoints = point :: points := hs.savepoints
      rw [hpoints] at hdone
      cases hdone
      exact .inl ⟨rfl, rfl, hs.committed, hs.history, hs.log, rfl, fun _ => hpoint⟩
  refine Holds.bind hreturn (fun _ => ?_) fun message s hs => ?_
  · refine Holds.control (fun s _ hs hnone => ?_) (fun s message hs _ => ?_) fun s s' hs hdone => ?_
    · rcases hs with ⟨-, hopen, -⟩ | ⟨⟨_, h⟩, -⟩
      · have hopen : s.next.aborted = false := hopen
        rw [hopen] at hnone
        cases hnone
      · cases h
    · rcases hs with ⟨-, hopen, hs⟩ | ⟨⟨_, h⟩, -⟩
      · exact .inr ⟨hs.committed, hs.history, congrArg (· ++ [entry]) hs.log, rfl⟩
      · cases h
    · rcases hs with ⟨-, hopen, hs⟩ | ⟨⟨_, h⟩, -⟩
      · have hnext : s.next.aborted = false := hopen
        rw [hnext] at hdone
        cases hdone
        exact .inl ⟨rfl, hs.committed, hs.history, hs.log, congrArg List.tail hs.savepoints,
          fun _ => hs.current hopen⟩
      · cases h
  · rcases hs with ⟨h, -⟩ | ⟨-, hs⟩
    · cases h
    · exact .inr hs

/-- After the program the connection goes on behind the savepoint, or is lost. -/
theorem Kept.orReturn {faults : Nat → Option Fault} {entry : κ} {point : σ} {body : Tx σ κ α}
    (hpoint : data point) (hbody : Kept base data (point :: points) body) :
    Holds (base.Within data (point :: points)) (orReturn faults entry body) fun r s =>
      (∃ answer, r = .ok answer) ∧
        ((s.aborted = false ∧ base.Within data points s) ∨ base.Lost entry s) := by
  refine Holds.handle (Holds.protected hbody) fun answer => ?_
  cases answer with
  | ok a =>
    refine Holds.pure fun s hs => ⟨⟨_, rfl⟩, .inl ?_⟩
    rcases hs with ⟨-, hs⟩ | ⟨⟨_, h⟩, -⟩
    · exact hs
    · cases h
  | error message =>
    refine Holds.handle ((Holds.recover hpoint).imp (fun s hs => ?_) fun _ _ hs => hs) fun _ =>
      Holds.pure fun s hs => ⟨⟨_, rfl⟩, hs⟩
    rcases hs with ⟨⟨_, h⟩, -⟩ | ⟨-, hs⟩
    · cases h
    · exact hs

/-- Whatever strikes a program under its savepoint, the connection goes on as if it had not begun or had
    ended, unless the savepoint itself is lost. -/
theorem Kept.underSavepoint (faults : Nat → Option Fault) (entry : κ) {body : Tx σ κ α}
    (hbody : ∀ point, Kept base data (point :: points) body) :
    Holds (fun s => s.aborted = false ∧ base.Within data points s) (underSavepoint faults entry body)
      fun r s => (∃ answer, r = .ok answer) ∧
        ((s.aborted = false ∧ base.Within data points s) ∨ base.Lost entry s) := by
  refine Holds.handle Holds.savepoint fun set => ?_
  cases set with
  | error message =>
    refine Holds.pure fun s hs => ⟨⟨_, rfl⟩, ?_⟩
    rcases hs with ⟨h, -⟩ | ⟨-, hs⟩
    · cases h
    · exact .inr hs
  | ok _ =>
    intro s hs
    rcases hs with ⟨-, point, hpoint, hs⟩ | ⟨⟨_, h⟩, -⟩
    · exact Kept.orReturn hpoint (hbody point) s hs
    · cases h

/-- Nothing runs under a savepoint of an aborted transaction. -/
theorem underSavepoint_of_aborted (faults : Nat → Option Fault) (entry : κ) (body : Tx σ κ α)
    {s : Session σ κ} (h : s.aborted = true) :
    underSavepoint faults entry body s = (.ok (.error abortedMessage), s.next) := by
  have hset : savepoint faults (some entry) s = (.error abortedMessage, s.next) := by
    have hnext : s.next.aborted = true := h
    simp [savepoint, control, hnext]
  simp [underSavepoint, attempt, bind_apply, hset, pure_apply]

end Frames

end Transactions
