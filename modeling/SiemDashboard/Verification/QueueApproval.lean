import SiemDashboard.Engines.QueueSystem
import SiemDashboard.Lib.Origins

/-!
# Approval of queued actions

A worker dispatches an action that needs approval only after the gate of the same pass found the
latest request for the row approved, and that request is still approved then.

* **Statements** — `GateCheck`, `IsClaim`, `Dispatches`, `Succeeds`.
* **Discipline** — `Carries`, `LatestApproved`, and `queueDiscipline`: what a worker holds of its row
  while other actors run.
* **Origin** — `gateOrigin`: a cleared row has passed the gate in the same pass.
* **Result** — `approval_safety`.
-/

namespace SiemDashboard.QueueApproval

open Atomic Tables ResponseActionQueueStore ApprovalRequests ApprovalStore SoarActionWorker
  QueueSystem

/-- An event of the queue system. -/
abbrev QueueEvent := Atomic.Event QueueActor QueueTask QueueWorld

/-! ## Statements -/

/-- The statement looks up the latest request for the row and action and finds it approved. -/
def GateCheck (id : Nat) (action : String) : (q : QueueStmt) → QueueReply q → Prop
  | .latestApproval queueId queued, r => queueId = id ∧ queued = action ∧ IsApproved r
  | _, _ => False

/-- The statement begins a pass over another row. -/
def IsClaim : QueueStmt → Prop
  | .claimPending _ | .claimApproved _ => True
  | _ => False

/-- The statement dispatches the row with the action. -/
def Dispatches (id : Nat) (action : String) : QueueStmt → Prop
  | .executeResponseCommand request => request.queueId = id ∧ request.action = action
  | .runExecutor row => row.id = id ∧ row.action = action
  | _ => False

/-- The row with the action reaches success. -/
def Succeeds (id : Nat) (action : String) (queue queue' : Queue) : Prop :=
  ∃ r', queue'.row? id = some r' ∧ r'.action = action ∧ r'.status = .success ∧
    ∀ r, queue.row? id = some r → r.status ≠ .success

/-! ## Discipline -/

/-- The row is stored under its id with its action. -/
def Carries (db : QueueDb) (row : QueueAction) : Prop :=
  ∃ r, db.queue.row? row.id = some r ∧ r.action = row.action

/-- The latest request for the row and action is approved. -/
def LatestApproved (db : QueueDb) (id : Nat) (action : String) : Prop :=
  ∃ r, getLatestApprovalForQueueAction db.approvals id action = some r ∧ r.status = .approved

theorem Carries.exec {db : QueueDb} {row : QueueAction} (h : Carries db row) (w : QueueWorld)
    (q : QueueStmt) : Carries (QueueDb.exec w q db).2 row := by
  obtain ⟨r, hr, haction⟩ := h
  obtain ⟨r', hr', hallowed⟩ := (QueueDb.exec_rewrites w q db).kept row.id r hr
  exact ⟨r', hr', hallowed.1.trans haction⟩

theorem LatestApproved.exec {db : QueueDb} {id : Nat} {action : String}
    (h : LatestApproved db id action) (w : QueueWorld) (q : QueueStmt) :
    LatestApproved (QueueDb.exec w q db).2 id action := by
  obtain ⟨r, hr, happroved⟩ := h
  exact ⟨r, changes_latestApproved (QueueDb.exec_changes w q db) hr happroved, happroved⟩

/-- What a worker may rely on in a phase. -/
def Holds (db : QueueDb) : WorkerPhase → Prop
  | .idle => True
  | .holding row => Carries db row
  | .cleared row => Carries db row ∧ LatestApproved db row.id row.action

theorem Holds.exec {db : QueueDb} {g : WorkerPhase} (h : Holds db g) (w : QueueWorld)
    (q : QueueStmt) : Holds (QueueDb.exec w q db).2 g := by
  cases g with
  | idle => trivial
  | holding row => exact Carries.exec h w q
  | cleared row => exact ⟨h.1.exec w q, h.2.exec w q⟩

/-- What a step of the protocol does to the phase. -/
theorem queueStep_cases {g g' : WorkerPhase} {q : QueueStmt} {r : QueueReply q}
    (h : queueStep g q r g') :
    (g' = g ∧ ¬ IsClaim q) ∨
      (IsClaim q ∧ (g' = .idle ∨ ∃ row, g' = .holding row)) ∨
      ∃ row, g = .holding row ∧ g' = .cleared row ∧ GateCheck row.id row.action q r := by
  have hclaimed (claimed : Except Raised (Option QueueAction)) :
      claimedPhase claimed = .idle ∨ ∃ row, claimedPhase claimed = .holding row := by
    rcases claimed with _ | (_ | row)
    · exact .inl rfl
    · exact .inl rfl
    · exact .inr ⟨row, rfl⟩
  cases q with
  | claimPending now | claimApproved now =>
    obtain rfl : g' = _ := h
    exact .inr (.inl ⟨trivial, hclaimed r⟩)
  | latestApproval queueId action =>
    rcases h with rfl | ⟨row, rfl, rfl, rfl, happroved, rfl⟩
    · exact .inl ⟨rfl, id⟩
    · exact .inr (.inr ⟨row, rfl, rfl, rfl, rfl, happroved⟩)
  | executeResponseCommand | runExecutor | markSuccess => exact .inl ⟨h.1, id⟩
  | enqueue | skipTerminal | sweepTerminal | markAwaitingApproval | markSkipped | recordFailure
  | recoverStale | link | expirePending | createApproval | decideApproval
  | requireUnprotectedTarget | logResponseAction | appendOutcome => exact .inl ⟨h, id⟩

/-- A claimed row is stored. -/
theorem holds_claimed {answer : Option QueueAction × Queue} (db : QueueDb)
    (w : QueueWorld) (h : ∀ row, answer.1 = some row → answer.2.row? row.id = some row) :
    Holds (db.unlessRefused w fun db => db.onQueue answer).2
      (claimedPhase (db.unlessRefused w fun db => db.onQueue answer).1) := by
  unfold QueueDb.unlessRefused
  split
  · trivial
  · rcases hanswer : answer.1 with _ | row
    · simp [QueueDb.onQueue, hanswer, claimedPhase, Holds]
    · simp only [QueueDb.onQueue, hanswer, claimedPhase]
      exact ⟨row, h row hanswer, rfl⟩

theorem holds_claim (db : QueueDb) (w : QueueWorld) {g g' : WorkerPhase} {q : QueueStmt}
    (hclaim : IsClaim q) (h : queueStep g q (QueueDb.exec w q db).1 g') :
    Holds (QueueDb.exec w q db).2 g' := by
  cases q with
  | claimPending now =>
    obtain rfl : g' = _ := h
    exact holds_claimed db w fun row => claimNextPendingAction_stored
  | claimApproved now =>
    obtain rfl : g' = _ := h
    exact holds_claimed db w fun row => claimNextApprovedAwaitingAction_stored
  | _ => exact hclaim.elim

/-- What the gate finds approved is approved. -/
theorem latestApproved_of_gateCheck {db : QueueDb} {w : QueueWorld} {q : QueueStmt} {id : Nat}
    {action : String} (h : GateCheck id action q (QueueDb.exec w q db).1) :
    LatestApproved db id action := by
  cases q with
  | latestApproval queueId queued =>
    obtain ⟨rfl, rfl, happroved⟩ := h
    change IsApproved (db.unlessRefused w fun db =>
      (.ok (getLatestApprovalForQueueAction db.approvals queueId queued), db)).1 at happroved
    unfold QueueDb.unlessRefused at happroved
    split at happroved
    · exact happroved.elim
    · cases hlatest : getLatestApprovalForQueueAction db.approvals queueId queued with
      | none => simp [hlatest, IsApproved] at happroved
      | some r => exact ⟨r, hlatest, by simpa [hlatest, IsApproved] using happroved⟩
  | _ => exact h.elim

/-- What workers may rely on, whatever the others do. -/
def queueDiscipline : Discipline queueRefinement fun _ _ => True where
  Global _ := True
  Local db _ g := Holds db g
  between _ _ _ := trivial
  slide db _ g g' _ _ hsilent := by
    obtain rfl : g' = .idle := hsilent
    trivial
  step pool phase a w q g' hat _ _ hlocal := by
    refine ⟨trivial, ?_, fun b _ => (hlocal b).exec w q⟩
    rcases queueStep_cases hat.step with ⟨heq, -⟩ | ⟨hclaim, -⟩ | ⟨row, hg, rfl, hcheck⟩
    · rw [heq]
      exact (hlocal a).exec w q
    · exact holds_claim _ w hclaim hat.step
    · have hheld : Carries pool.shared row := by simpa [hg, Holds] using hlocal a
      exact ⟨hheld.exec w q, (latestApproved_of_gateCheck hcheck).exec w q⟩

/-! ## Origin -/

def Cleared (id : Nat) (action : String) : WorkerPhase → Prop
  | .cleared row => row.id = id ∧ row.action = action
  | _ => False

/-- A row is cleared by the gate of the same pass. -/
def gateOrigin (id : Nat) (action : String) (a : QueueActor) : Origin queueDiscipline a where
  Holds := Cleared id action
  Mark := GateCheck id action
  Begins := IsClaim
  between := nofun
  silent g g' hsilent h := by
    obtain rfl : g' = .idle := hsilent
    exact h.elim
  step g q r g' hstep h := by
    rcases queueStep_cases hstep with ⟨rfl, hclaim⟩ | ⟨-, rfl | ⟨row, rfl⟩⟩ | ⟨row, rfl, rfl, hcheck⟩
    · exact .inr ⟨h, hclaim⟩
    · exact h.elim
    · exact h.elim
    · obtain ⟨rfl, rfl⟩ := h
      exact .inl hcheck

/-! ## Result -/

/-- A row that may run and needs approval is cleared. -/
theorem cleared_of_mayRun {row : QueueAction} {g : WorkerPhase} (h : MayRun row g)
    (hpolicy : actionRequiresApproval row.action = true) : Cleared row.id row.action g := by
  cases g with
  | idle => exact h.elim
  | holding held => exact absurd (h.2.symm.trans hpolicy) nofun
  | cleared held =>
    obtain rfl : held = row := h
    exact ⟨rfl, rfl⟩

/-- A worker dispatches or completes only a row that may run. -/
theorem mayRun_of_dispatch {db : QueueDb} {w : QueueWorld} {g g' : WorkerPhase} {q : QueueStmt}
    {r : QueueReply q} {id : Nat} {action : String} (hstep : queueStep g q r g') (hheld : Holds db g)
    (h : Dispatches id action q ∨ Succeeds id action db.queue (QueueDb.exec w q db).2.queue) :
    ∃ row, MayRun row g ∧ row.id = id ∧ row.action = action := by
  rcases h with hdispatch | ⟨r', hr', haction, hsuccess, hbefore⟩
  · cases q with
    | executeResponseCommand request =>
      obtain ⟨-, row, hrun, rfl⟩ := hstep
      exact ⟨row, hrun, hdispatch⟩
    | runExecutor row => exact ⟨row, hstep.2, hdispatch⟩
    | _ => exact hdispatch.elim
  · have hrewrites := QueueDb.exec_rewrites w q db
    -- the row is stored before, and the statement marks it
    obtain ⟨r₀, hr₀⟩ : ∃ r₀, db.queue.row? id = some r₀ :=
      Option.ne_none_iff_exists'.mp fun hnone => hrewrites.fresh id r' hr' hnone hsuccess
    obtain ⟨_, hstored, hkept, hmarks⟩ := hrewrites.kept id r₀ hr₀
    obtain rfl := Option.some_injective _ (hr'.symm.trans hstored)
    have hmarked : QueueDb.Marks r₀.id q := (hmarks hsuccess).resolve_left (hbefore r₀ hr₀)
    rw [db.queue.keyed id r₀ hr₀] at hmarked
    cases q with
    | markSuccess marked now =>
      obtain rfl : marked = id := hmarked
      obtain ⟨-, row, hrun, rfl⟩ := hstep
      refine ⟨row, hrun, rfl, ?_⟩
      have hcarries : Carries db row := by
        cases g with
        | idle => exact hrun.elim
        | holding held => exact hrun.1 ▸ hheld
        | cleared held => exact (show held = row from hrun) ▸ hheld.1
      obtain ⟨r₁, hr₁, hsame⟩ := hcarries
      obtain rfl := Option.some_injective _ (hr₀.symm.trans hr₁)
      rw [← hsame, ← hkept, haction]
    | _ => exact hmarked.elim

/-- **Approval safety.**  In every run of workers, operators and scripts, when an actor dispatches a
    queued action that needs approval, or its row reaches success, the actor found the latest request
    for the row and action approved, has gone on with the same pass since, and the latest request is
    still approved: a row whose latest request is denied or expired is not dispatched. -/
theorem approval_safety (db : QueueDb) (events : List QueueEvent) (a : QueueActor) (w : QueueWorld)
    {q : QueueStmt} (hq : (queueSystem.run (.idle db) events).next a = some q) {id : Nat}
    {action : String} (hpolicy : actionRequiresApproval action = true)
    (h : Dispatches id action q ∨ Succeeds id action (queueSystem.run (.idle db) events).shared.queue
      (QueueDb.exec w q (queueSystem.run (.idle db) events).shared).2.queue) :
    Since queueSystem (GateCheck id action) IsClaim a (.idle db) events ∧
      LatestApproved (queueSystem.run (.idle db) events).shared id action := by
  obtain ⟨phase, g', hat, hheld, hsince⟩ := (gateOrigin id action a).at_step (s := db) trivial
    (System.along_of_forall fun _ _ => trivial) w hq
  obtain ⟨row, hrun, rfl, rfl⟩ := mayRun_of_dispatch hat.step hheld h
  have hcleared := cleared_of_mayRun hrun hpolicy
  refine ⟨hsince hcleared, ?_⟩
  cases hg : phase a with
  | idle | holding => rw [hg] at hcleared; exact hcleared.elim
  | cleared held =>
    rw [hg] at hcleared
    obtain ⟨hid, haction⟩ := hcleared
    have hlatest : Holds _ (phase a) := hheld
    rw [hg] at hlatest
    rw [← hid, ← haction]
    exact hlatest.2

/-! ## A run through the gate -/

/-- The clock stands, every row referred to exists, and the target may be blocked. -/
def quietWorld : QueueWorld where
  now := 0
  lockedActions _ := false
  lockedRequests _ := false
  refs := ⟨fun _ => true, fun _ => true, fun _ => true, fun _ => true⟩
  refuses := none
  targetCheck _ := .ok .unprotected
  command _ := .ok ⟨true, "blocked", "Blocked.", none, none, some 1⟩
  executor _ := .ok .notDict
  logged := .ok 1

/-- An actor is given a task and takes some steps. -/
def turns (a : QueueActor) (t : QueueTask) (steps : Nat) : List QueueEvent :=
  .start a t :: List.replicate steps (.step a quietWorld)

/-- A block is queued, held at the gate, approved, and claimed again. -/
def approvedRun : List QueueEvent :=
  turns (.operator 0) (.enqueue ⟨some 5, some "198.51.100.7", "block_ip", 3, "key"⟩) 1 ++
    turns (.worker 0) (.processBatch none 1) 6 ++
    turns (.operator 0) (.decide .approve 1 7 none) 1 ++
    turns (.worker 0) (.processBatch none 1) 6

/-- The worker then dispatches the block. -/
theorem approval_safety_approvedRun :
    Since queueSystem (GateCheck 1 "block_ip") IsClaim (.worker 0) (.idle ⟨.empty, ⟨.empty, .empty⟩⟩)
        approvedRun ∧
      LatestApproved (queueSystem.run (.idle ⟨.empty, ⟨.empty, .empty⟩⟩) approvedRun).shared 1
        "block_ip" :=
  approval_safety ⟨.empty, ⟨.empty, .empty⟩⟩ approvedRun (.worker 0) quietWorld
    (q := .executeResponseCommand ⟨"block_ip", some "198.51.100.7", some 5, "Queue worker block_ip", 1,
      "queue-1-block_ip"⟩)
    (by rfl) (by decide) (.inl ⟨rfl, rfl⟩)

end SiemDashboard.QueueApproval
