import SiemDashboard.Engines.SoarActionWorker
import SiemDashboard.Lib.Pool

/-!
# The queue system

Workers, operators and scripts share the queue and its approval requests.  Each actor runs one task
at a time, and the statements of different actors interleave freely.

* **Actors and tasks** — `QueueActor`, `QueueTask`, `queueCode`, `queueSystem`.
* **Phases** — `WorkerPhase`: which row a worker holds, and whether its approval was checked;
  `queueProtocol`: a worker dispatches a row only if it needs no approval or was found approved.
* **Programs** — `follows_processBatch`, `queueRefinement`: every task keeps to the protocol.
-/

namespace SiemDashboard.QueueSystem

open Atomic ApprovalStore ResponseActionQueueStore ApprovalRequests SoarActionWorker

/-! ## Actors and tasks -/

/-- Who runs a task. -/
inductive QueueActor where
  | worker (id : Nat)
  | operator (id : Nat)
deriving DecidableEq

/-- What an actor can be given to do. -/
inductive QueueTask where
  | processBatch (now : Option Int) (limit : Nat)
  | enqueue (new : NewAction)
  | link (id : Nat) (decisionId : Option Nat) (soarCorrelationId : Option String)
  | recoverStale (now : Option Int) (staleAfterSeconds : Nat) (limit : Option Nat)
  | decide (verdict : Verdict) (id actorUserId : Nat) (comment : Option String)
  | expirePending
  /-- A request of another kind, such as the ones playbook steps create. -/
  | requestApproval (new : NewApproval)

def queueCode : QueueActor → QueueTask → Option (Program QueueReply Unit)
  | .worker _, .processBatch now limit => some (SoarActionWorker.processBatch now limit).run.discard
  | .operator _, .processBatch .. => none
  | _, .enqueue new => some (SoarActionWorker.issue (.enqueue new)).discard
  | _, .link id decisionId soarCorrelationId =>
    some (SoarActionWorker.issue (.link id decisionId soarCorrelationId)).discard
  | _, .recoverStale now staleAfterSeconds limit =>
    some (SoarActionWorker.issue (.recoverStale now staleAfterSeconds limit)).discard
  | _, .decide verdict id actorUserId comment =>
    some (SoarActionWorker.issue (.decideApproval verdict id actorUserId comment)).discard
  | _, .requestApproval new => some (SoarActionWorker.issue (.createApproval new)).discard
  | _, .expirePending => some (SoarActionWorker.issue (.expirePending 100 none) >>= fun expired =>
      match expired with
      | .error _ => .done ()
      | .ok _ => (SoarActionWorker.issue (.sweepTerminal 100)).discard)

/-- The tables, the statements on them, and the tasks of the actors. -/
def queueSystem : System QueueDb QueueWorld QueueActor QueueTask QueueReply :=
  ⟨QueueDb.exec, queueCode⟩

/-! ## Phases -/

/-- What a worker is about. -/
inductive WorkerPhase where
  | idle
  /-- It has claimed the row. -/
  | holding (row : QueueAction)
  /-- The latest request for the row was found approved. -/
  | cleared (row : QueueAction)

/-- The phase a claim leads to. -/
def claimedPhase : Except Raised (Option QueueAction) → WorkerPhase
  | .ok (some row) => .holding row
  | _ => .idle

/-- The answer is an approved request. -/
def IsApproved : Except Raised (Option Request) → Prop
  | .ok (some approval) => approval.status = .approved
  | _ => False

/-- In the phase the row may be dispatched. -/
def MayRun (row : QueueAction) : WorkerPhase → Prop
  | .idle => False
  | .holding held => held = row ∧ actionRequiresApproval row.action = false
  | .cleared held => held = row

/-- The protocol of every actor. -/
def queueStep (g : WorkerPhase) : (q : QueueStmt) → QueueReply q → WorkerPhase → Prop
  | .claimPending _, r, g' => g' = claimedPhase r
  | .claimApproved _, r, g' => g' = claimedPhase r
  | .latestApproval id action, r, g' => g' = g ∨
    ∃ row, g = .holding row ∧ row.id = id ∧ row.action = action ∧ IsApproved r ∧ g' = .cleared row
  | .executeResponseCommand request, _, g' =>
    g' = g ∧ ∃ row, MayRun row g ∧ request = commandRequest row
  | .runExecutor row, _, g' => g' = g ∧ MayRun row g
  | .markSuccess id _, _, g' => g' = g ∧ ∃ row, MayRun row g ∧ row.id = id
  | _, _, g' => g' = g

/-- Between passes a worker lets go of its row. -/
def queueProtocol : Protocol QueueReply WorkerPhase := ⟨fun _ g' => g' = .idle, queueStep⟩

/-! ## Programs -/

/-- A statement that is allowed in every phase and leaves it as it is. -/
def Neutral : QueueStmt → Prop
  | .claimPending _ | .claimApproved _ | .executeResponseCommand _ | .runExecutor _
  | .markSuccess .. => False
  | _ => True

theorem neutral_step {q : QueueStmt} (hq : Neutral q) (g : WorkerPhase) (r : QueueReply q) :
    queueStep g q r g := by
  cases q <;> first | exact hq.elim | exact rfl | exact .inl rfl

/-- The program issues neutral statements only. -/
abbrev IsNeutral {α : Type} (p : WorkerProg α) : Prop := p.run.Issues Neutral fun _ => True

section Neutral

variable {α β : Type}

theorem neutral_pure (a : α) : IsNeutral (pure a : WorkerProg α) := trivial

theorem neutral_bind {p : WorkerProg α} {f : α → WorkerProg β} (hp : IsNeutral p)
    (hf : ∀ a, IsNeutral (f a)) : IsNeutral (p >>= f) :=
  Program.issues_run_bind hp hf

theorem neutral_map {p : WorkerProg α} (f : α → β) (hp : IsNeutral p) : IsNeutral (f <$> p) := by
  rw [map_eq_pure_bind]
  exact neutral_bind hp fun _ => neutral_pure _

theorem neutral_appendLinked (row : QueueAction) (event : Nat × String → WorkerOutcome) :
    IsNeutral (appendLinked row event) := by
  unfold appendLinked
  split
  · exact neutral_pure _
  · exact ⟨trivial, fun _ => trivial⟩

theorem neutral_appendWorkerOutcomeEvent (row : QueueAction) (event : WorkerEvent) :
    IsNeutral (appendWorkerOutcomeEvent row event) :=
  neutral_appendLinked _ _

theorem neutral_appendRetryOutcomeEvents (row : QueueAction) (code message : String)
    (logId : Option Nat) : IsNeutral (appendRetryOutcomeEvents row code message logId) := by
  unfold appendRetryOutcomeEvents
  refine neutral_bind (neutral_appendWorkerOutcomeEvent _ _) fun _ => ?_
  split
  · exact neutral_appendWorkerOutcomeEvent _ _
  · exact neutral_pure _

theorem neutral_skipAction (row : QueueAction) (now : Option Int) (message code : String)
    (event : Nat → WorkerEvent) : IsNeutral (skipAction row now message code event) := by
  unfold skipAction
  refine neutral_bind ⟨trivial, fun _ => trivial⟩ fun updated => ?_
  refine neutral_bind ⟨trivial, fun _ => trivial⟩ fun logId => ?_
  exact neutral_bind (neutral_appendWorkerOutcomeEvent _ _) fun _ => neutral_pure _

theorem neutral_logFailed (row updated : QueueAction) (message : String) :
    IsNeutral (logFailed row updated message) := by
  unfold logFailed
  split
  · exact neutral_map _ ⟨trivial, fun _ => trivial⟩
  · exact neutral_pure _

theorem neutral_handleRaised (row : QueueAction) (now : Option Int) (error : Raised) :
    IsNeutral (handleRaised row now error) := by
  unfold handleRaised
  split
  · exact neutral_skipAction _ _ _ _ _
  · refine neutral_bind ⟨trivial, fun _ => trivial⟩ fun updated => ?_
    refine neutral_bind (neutral_logFailed _ _ _) fun logId => ?_
    exact neutral_bind (neutral_appendRetryOutcomeEvents _ _ _ _) fun _ => neutral_pure _
  · refine neutral_bind ⟨trivial, fun _ => trivial⟩ fun updated => ?_
    refine neutral_bind ⟨trivial, fun _ => trivial⟩ fun logId => ?_
    exact neutral_bind (neutral_appendWorkerOutcomeEvent _ _) fun _ => neutral_pure _

theorem neutral_finishSkipped (skipped : QueueAction) : IsNeutral (finishSkipped skipped) := by
  unfold finishSkipped
  refine neutral_bind ⟨trivial, fun _ => trivial⟩ fun approval => ?_
  refine neutral_bind ⟨trivial, fun _ => trivial⟩ fun logId => ?_
  exact neutral_bind (neutral_appendWorkerOutcomeEvent _ _) fun _ => neutral_pure _

/-- A program of neutral statements leaves the phase as it is. -/
theorem IsNeutral.follows {p : WorkerProg α} (h : IsNeutral p) (g : WorkerPhase) :
    p.run.Follows queueProtocol (fun _ g' => g' = g) g :=
  (Program.Issues.follows h fun _ r hq => neutral_step hq g r).imp fun _ _ hpost => hpost.1

end Neutral

section Follows

variable {α β : Type} {g : WorkerPhase}

/-- Parts that leave the phase as it is, one after another. -/
theorem follows_same_bind {p : WorkerProg α} {f : α → WorkerProg β}
    (hp : p.run.Follows queueProtocol (fun _ g' => g' = g) g)
    (hf : ∀ a, (f a).run.Follows queueProtocol (fun _ g' => g' = g) g) :
    (p >>= f).run.Follows queueProtocol (fun _ g' => g' = g) g :=
  Program.follows_run_bind hp (fun a _ hg => hg ▸ hf a) fun _ _ hg => hg

/-- A pass that may dispatch the row leaves the phase as it is. -/
theorem follows_runAction {row : QueueAction} (hrun : MayRun row g) (now : Option Int) :
    (runAction row now).run.Follows queueProtocol (fun _ g' => g' = g) g := by
  have hmark : (ExceptT.mk (SoarActionWorker.issue (.markSuccess row.id now))).run.Follows queueProtocol
      (fun _ g' => g' = g) g :=
    Program.follows_call fun r => ⟨g, ⟨rfl, row, hrun, rfl⟩, rfl⟩
  have hend (updated : QueueAction) (event : WorkerEvent) (result : WorkerResult) :
      IsNeutral (appendWorkerOutcomeEvent updated event >>= fun _ => pure result) :=
    neutral_bind (neutral_appendWorkerOutcomeEvent _ _) fun _ => neutral_pure _
  unfold runAction
  split
  · refine follows_same_bind
      (Program.follows_call fun r => ⟨g, ⟨rfl, row, hrun, rfl⟩, rfl⟩) fun result => ?_
    have hrequire : IsNeutral (requireSuccess result) := by
      unfold requireSuccess
      split <;> exact trivial
    refine follows_same_bind (hrequire.follows g) fun _ => ?_
    exact follows_same_bind hmark fun updated => (hend _ _ _).follows g
  · refine follows_same_bind ?_ fun answer => ?_
    · refine Program.follows_bind (Program.follows_call fun r => ⟨g, ⟨rfl, hrun⟩, rfl⟩) ?_
      rintro r _ rfl
      exact Program.follows_done rfl
    · refine follows_same_bind hmark fun updated => IsNeutral.follows ?_ g
      exact neutral_bind ⟨trivial, fun _ => trivial⟩ fun logId => hend _ _ _

/-- What the gate answers: without a result the row may be dispatched. -/
def GateAnswer (row : QueueAction) (r : Except Raised (Option WorkerResult))
    (g : WorkerPhase) : Prop :=
  match r with
  | .ok none => MayRun row g
  | _ => True

/-- A neutral part first. -/
theorem follows_neutral_bind {p : WorkerProg α} {f : α → WorkerProg β}
    {Post : Except Raised β → WorkerPhase → Prop} (hp : IsNeutral p)
    (hf : ∀ a, (f a).run.Follows queueProtocol Post g) (hraise : ∀ e, Post (.error e) g) :
    (p >>= f).run.Follows queueProtocol Post g := by
  refine Program.follows_run_bind (hp.follows g) ?_ ?_
  · rintro a _ rfl
    exact hf a
  · rintro e _ rfl
    exact hraise e

/-- A gate that ends the pass. -/
theorem follows_gate_ends {row : QueueAction} {p : WorkerProg WorkerResult} (hp : IsNeutral p) :
    (some <$> p).run.Follows queueProtocol (GateAnswer row) g := by
  rw [map_eq_pure_bind]
  exact follows_neutral_bind hp (fun _ => Program.follows_pure trivial) fun _ => trivial

theorem neutral_parkRunning (row : QueueAction) (now : Option Int) :
    IsNeutral (parkRunning row now) := by
  unfold parkRunning
  split
  · exact ⟨trivial, fun _ => trivial⟩
  · exact neutral_pure _

/-- The gate lets a row pass only after it found the latest request approved. -/
theorem follows_checkApproval (row : QueueAction) (now : Option Int) :
    (checkApproval row now).run.Follows queueProtocol (GateAnswer row) (.holding row) := by
  unfold checkApproval
  refine follows_neutral_bind ⟨trivial, fun _ => trivial⟩ (fun _ => ?_) fun _ => trivial
  -- the phase after the look at the latest request is read off the answer
  have hlook : (ExceptT.mk (SoarActionWorker.issue (.latestApproval row.id row.action))).run.Follows queueProtocol
      (fun r g' => ¬IsApproved r ∨ g' = .cleared row) (.holding row) := by
    refine Program.follows_call fun r => ?_
    by_cases happroved : IsApproved r
    · exact ⟨.cleared row, .inr ⟨row, rfl, rfl, rfl, happroved, rfl⟩, .inr rfl⟩
    · exact ⟨.holding row, .inl rfl, .inl happroved⟩
  refine Program.follows_run_bind hlook ?_ fun _ _ _ => trivial
  · intro latest g' hmid
    cases latest with
    | none =>
      refine follows_neutral_bind ⟨trivial, fun _ => trivial⟩ (fun _ => ?_) fun _ => trivial
      refine follows_neutral_bind ⟨trivial, fun _ => trivial⟩ (fun _ => ?_) fun _ => trivial
      exact follows_neutral_bind (neutral_appendWorkerOutcomeEvent _ _)
        (fun _ => Program.follows_pure trivial) fun _ => trivial
    | some approval =>
      dsimp only
      split
      · rename_i hstatus
        obtain rfl := hmid.resolve_left (not_not.mpr hstatus)
        exact ⟨.cleared row, .refl, (rfl : row = row)⟩
      · refine follows_neutral_bind (neutral_parkRunning row now) (fun _ => ?_) fun _ => trivial
        exact follows_neutral_bind (neutral_appendWorkerOutcomeEvent _ _)
          (fun _ => Program.follows_pure trivial) fun _ => trivial
      · exact follows_gate_ends (neutral_skipAction _ _ _ _ _)
      · exact follows_gate_ends (neutral_skipAction _ _ _ _ _)

theorem follows_handleApprovalGate (row : QueueAction) (now : Option Int) :
    (handleApprovalGate row now).run.Follows queueProtocol (GateAnswer row) (.holding row) := by
  unfold handleApprovalGate
  split
  · rename_i hfree
    exact Program.follows_pure ⟨rfl, by simpa using hfree⟩
  · split
    · refine follows_neutral_bind ⟨trivial, fun _ => trivial⟩ (fun check => ?_) fun _ => trivial
      cases check with
      | unprotected => exact follows_checkApproval row now
      | protectedTarget message code => exact follows_gate_ends (neutral_skipAction _ _ _ _ _)
      | invalidConfig error => exact follows_gate_ends (neutral_skipAction _ _ _ _ _)
    · exact follows_checkApproval row now

/-- A pass over a claimed row. -/
theorem follows_processClaimed (row : QueueAction) (now : Option Int) :
    (processClaimed row now).run.Follows queueProtocol (fun _ _ => True) (.holding row) := by
  unfold processClaimed
  refine follows_neutral_bind (neutral_appendLinked _ _) (fun _ => ?_) fun _ => trivial
  refine Program.follows_run_bind (follows_handleApprovalGate row now) ?_ fun _ _ _ => trivial
  intro answer g' hanswer
  cases answer with
  | some result => exact Program.follows_pure trivial
  | none =>
    refine Program.follows_run_tryCatch (follows_runAction hanswer now) (fun _ _ _ => trivial) ?_
    rintro e _ rfl
    exact ((neutral_handleRaised row now e).follows _).imp fun _ _ _ => trivial

/-- Between passes a worker holds nothing. -/
theorem follows_to_idle {p : Program QueueReply α} {Post : α → WorkerPhase → Prop}
    (h : p.Follows queueProtocol Post g) :
    p.Follows queueProtocol (fun _ g' => g' = .idle) g :=
  h.imp_slides fun _ _ _ => ⟨.idle, .single rfl, rfl⟩

/-- The pass over a row that was claimed, if any. -/
theorem follows_claimed {row : QueueAction} (now : Option Int) :
    (some <$> processClaimed row now).run.Follows queueProtocol (fun _ g' => g' = .idle)
      (.holding row) := by
  rw [map_eq_pure_bind]
  have hclaimed : (processClaimed row now >>= fun a => pure (some a)).run.Follows queueProtocol
      (fun _ _ => True) (.holding row) :=
    Program.follows_run_bind (follows_processClaimed row now)
      (fun _ _ _ => Program.follows_pure trivial) fun _ _ _ => trivial
  exact follows_to_idle hclaimed

theorem follows_claim {claim : WorkerProg (Option QueueAction)} {β : Type}
    {f : Option QueueAction → WorkerProg β}
    (hclaim : claim.run.Follows queueProtocol (fun r g' => g' = claimedPhase r) .idle)
    (hsome : ∀ row, (f (some row)).run.Follows queueProtocol (fun _ g' => g' = .idle)
      (.holding row))
    (hnone : (f none).run.Follows queueProtocol (fun _ g' => g' = .idle) .idle) :
    (claim >>= f).run.Follows queueProtocol (fun _ g' => g' = .idle) .idle := by
  refine Program.follows_run_bind hclaim ?_ fun _ _ hg => hg
  rintro (_ | row) _ rfl
  · exact hnone
  · exact hsome row

theorem follows_processNextAction (now : Option Int) :
    (processNextAction now).run.Follows queueProtocol (fun _ g' => g' = .idle) .idle := by
  refine follows_claim (Program.follows_call fun r => ⟨_, rfl, rfl⟩) (fun row => ?_) ?_
  · exact follows_claimed now
  refine follows_neutral_bind ⟨trivial, fun _ => trivial⟩ (fun _ => ?_) fun _ => rfl
  refine follows_claim (Program.follows_call fun r => ⟨_, rfl, rfl⟩) (fun row => ?_) ?_
  · exact follows_claimed now
  refine follows_neutral_bind ⟨trivial, fun _ => trivial⟩ (fun skipped => ?_) fun _ => rfl
  cases skipped with
  | none => exact Program.follows_pure rfl
  | some row => exact (neutral_map _ (neutral_finishSkipped row)).follows _

theorem follows_processBatch (now : Option Int) (limit : Nat) :
    (processBatch now limit).run.Follows queueProtocol (fun _ g' => g' = .idle) .idle := by
  induction limit with
  | zero => exact Program.follows_done rfl
  | succ limit ih =>
    refine Program.follows_run_bind (follows_processNextAction now) ?_ fun _ _ hg => hg
    rintro (_ | result) _ rfl
    · exact Program.follows_pure rfl
    · refine Program.follows_run_bind ih ?_ fun _ _ hg => hg
      rintro _ _ rfl
      exact Program.follows_pure rfl

end Follows

/-! ## Every task keeps to the protocol -/

theorem follows_queueCode {a : QueueActor} {t : QueueTask} {p : Program QueueReply Unit}
    (hp : queueCode a t = some p) : p.Follows queueProtocol (fun _ g' => g' = .idle) .idle := by
  have hissue {q : QueueStmt} (hq : Neutral q) :
      (SoarActionWorker.issue q).discard.Follows queueProtocol (fun _ g' => g' = .idle) .idle :=
    Program.follows_discard (Program.follows_call fun r => ⟨_, neutral_step hq _ r, rfl⟩)
  cases t with
  | processBatch now limit =>
    cases a with
    | worker =>
      obtain rfl := Option.some_inj.mp hp
      exact Program.follows_discard (follows_processBatch now limit)
    | operator => cases hp
  | expirePending =>
    obtain rfl : _ = p := by cases a <;> exact Option.some_inj.mp hp
    have hsweep : (SoarActionWorker.issue (.expirePending 100 none)).Follows queueProtocol
        (fun _ g' => g' = WorkerPhase.idle) .idle :=
      Program.follows_call fun r => ⟨_, rfl, rfl⟩
    refine Program.follows_bind hsweep ?_
    rintro (_ | _) _ rfl
    · exact Program.follows_done rfl
    · exact hissue trivial
  | enqueue | link | recoverStale | decide | requestApproval =>
    obtain rfl : _ = p := by cases a <;> exact Option.some_inj.mp hp
    exact hissue trivial

/-- Every task of every actor keeps to the protocol. -/
def queueRefinement : Refinement queueSystem WorkerPhase where
  protocol _ := queueProtocol
  between := .idle
  follows _ _ _ hp := follows_queueCode hp

end SiemDashboard.QueueSystem
