import SiemDashboard.Core.ResponseActionQueueStore
import SiemDashboard.Lib.Runs

/-!
# Attempts of a queued action

How often an action is claimed from pending.  A failed attempt is charged to the retry count of the
row; a recovery that puts the row back to pending is not charged to anything, so the attempts exceed
the retries by the recoveries.

* **Operations** — `Session`: the queue, with how often each row was claimed from pending and how
  often recovery put it back; `Op`, `Session.step`.
* **Rows** — `Move`: what an operation does to a row, and whether it counts as a claim or a recovery;
  `Accounted`: claims are recoveries plus charged retries.
* **Operations on rows** — `Moves`, `step_moves`.
* **Result** — `claims_bounded_iff`, and a run that claims a row too often.
-/

namespace SiemDashboard.QueueAttempts

open ResponseActionQueueStore Tables

/-! ## Operations -/

/-- The queue and the counts of a run so far. -/
structure Session where
  queue : Queue
  claims : Nat → Nat
  requeues : Nat → Nat

/-- Nothing is queued yet. -/
def Session.empty : Session := ⟨.empty, fun _ => 0, fun _ => 0⟩

/-- Count every id of the list once more. -/
def bump (count : Nat → Nat) (ids : List Nat) (id : Nat) : Nat :=
  if id ∈ ids then count id + 1 else count id

/-- The operations on the queue.  A worker that crashes issues no further ones.  The approval
    requests an operation reads are those of its moment. -/
inductive Op where
  | enqueue (new : NewAction) (now : Int)
  | claimPending (locked : Nat → Bool) (now : Int)
  | claimApproved (approvals : ApprovalRequests.Store) (locked : Nat → Bool) (now : Int)
  | markAwaitingApproval (id : Nat) (reason : String) (now : Int)
  | markAwaitingSkipped (id : Nat) (reason : String) (now : Int)
  | markSuccess (id : Nat) (now : Int)
  | markSkipped (id : Nat) (reason : String) (now : Int)
  | recordFailure (id : Nat) (errorMessage : String) (retryable : Bool) (now : Int)
  | requeueFailed (id : Nat) (now : Int)
  | skipTerminal (approvals : ApprovalRequests.Store) (locked : Nat → Bool) (now : Int)
  | sweepTerminal (approvals : ApprovalRequests.Store) (locked : Nat → Bool) (limit now : Int)
  | recoverStale (locked : Nat → Bool) (now : Int) (staleAfterSeconds : Nat) (limit : Option Nat)
  | link (id : Nat) (decisionId : Option Nat) (soarCorrelationId : Option String)

/-- The session with another queue and the same counts. -/
def Session.withQueue (s : Session) (queue : Queue) : Session := { s with queue := queue }

/-- The session after a claim from pending. -/
def Session.afterClaim (s : Session) (answer : Option QueueAction × Queue) : Session :=
  { s with queue := answer.2, claims := bump s.claims (answer.1.toList.map QueueAction.id) }

def Session.afterRecovery (s : Session) (answer : List QueueAction × Queue) : Session :=
  { s with
    queue := answer.2
    requeues := bump s.requeues
      ((answer.1.filter fun r => r.status = .pending).map QueueAction.id) }

/-- One operation. -/
def Session.step (s : Session) : Op → Session
  | .enqueue new now => s.withQueue (enqueueResponseAction s.queue new now).2
  | .claimPending locked now =>
    s.afterClaim (claimNextPendingAction s.queue locked now)
  | .claimApproved approvals locked now =>
    s.withQueue (claimNextApprovedAwaitingAction s.queue approvals locked now).2
  | .markAwaitingApproval id reason now =>
    s.withQueue (markActionAwaitingApproval s.queue id reason now).2
  | .markAwaitingSkipped id reason now =>
    s.withQueue (markAwaitingApprovalSkipped s.queue id reason now).2
  | .markSuccess id now => s.withQueue (markActionSuccess s.queue id now).2
  | .markSkipped id reason now => s.withQueue (markActionSkipped s.queue id reason now).2
  | .recordFailure id errorMessage retryable now =>
    s.withQueue (recordActionFailure s.queue id errorMessage retryable now).2
  | .requeueFailed id now => s.withQueue (requeueFailedAction s.queue id now).2
  | .skipTerminal approvals locked now =>
    s.withQueue (skipNextTerminalApprovalAction s.queue approvals locked now).2
  | .sweepTerminal approvals locked limit now =>
    s.withQueue (sweepTerminalApprovalQueueRows s.queue approvals locked limit now).2
  | .recoverStale locked now staleAfterSeconds limit =>
    s.afterRecovery (recoverStaleRunningActions s.queue locked now staleAfterSeconds limit)
  | .link id decisionId soarCorrelationId =>
    s.withQueue (setQueueLinkage s.queue id decisionId soarCorrelationId).2

/-! ## Rows -/

/-- What an operation does to a row; whether it is a claim from pending, and whether it is a
    recovery back to pending. -/
inductive Move : Bool → Bool → QueueAction → QueueAction → Prop
  | keep {r r'} (hstatus : r'.status = r.status) (hretry : r'.retryCount = r.retryCount)
      (hmax : r'.maxRetries = r.maxRetries) : Move false false r r'
  | claim {r r'} (hfrom : r.status = .pending) (hto : r'.status = .running)
      (hretry : r'.retryCount = r.retryCount) (hmax : r'.maxRetries = r.maxRetries) :
      Move true false r r'
  | transition {r r'} (hfrom : r.status = .running ∨ r.status = .awaitingApproval)
      (hto : r'.status ≠ .pending ∧ r'.status ≠ .failed)
      (hretry : r'.retryCount = r.retryCount) (hmax : r'.maxRetries = r.maxRetries) :
      Move false false r r'
  | fail {r r'} (hfrom : r.status = .running) (hto : r'.status = .failed)
      (hretry : r'.retryCount = r.retryCount + 1) (hmax : r'.maxRetries = r.maxRetries) :
      Move false false r r'
  | requeue {r r'} (hfrom : r.status = .failed) (hto : r'.status = .pending)
      (hleft : r.retryCount < r.maxRetries) (hretry : r'.retryCount = r.retryCount)
      (hmax : r'.maxRetries = r.maxRetries) : Move false false r r'
  | recover {r r'} (hfrom : r.status = .running) (hto : r'.status = .pending)
      (hretry : r'.retryCount = r.retryCount) (hmax : r'.maxRetries = r.maxRetries) :
      Move false true r r'
  | exhaust {r r'} (hfrom : r.status = .running) (hto : r'.status = .failed)
      (hspent : r.maxRetries ≤ r.retryCount) (hretry : r'.retryCount = r.retryCount)
      (hmax : r'.maxRetries = r.maxRetries) : Move false false r r'

theorem Move.max {claim recovery : Bool} {r r' : QueueAction} (h : Move claim recovery r r') :
    r'.maxRetries = r.maxRetries := by
  cases h <;> assumption

/-- The claims of a row are its recoveries and its charged retries, and one more while an attempt
    is under way or has ended the action. -/
def Accounted (claims requeues : Nat) (r : QueueAction) : Prop :=
  match r.status with
  | .pending => claims = requeues + r.retryCount
  | .failed => claims = requeues + r.retryCount ∨
      claims = requeues + r.retryCount + 1 ∧ r.maxRetries ≤ r.retryCount
  | .running | .awaitingApproval | .success | .skipped => claims = requeues + r.retryCount + 1

theorem Move.accounted {claim recovery : Bool} {r r' : QueueAction} (h : Move claim recovery r r')
    {claims requeues : Nat} (ha : Accounted claims requeues r) :
    Accounted (claims + claim.toNat) (requeues + recovery.toNat) r' := by
  unfold Accounted at ha ⊢
  cases h with
  | keep hstatus hretry hmax =>
    rw [hstatus, hretry, hmax]
    simpa using ha
  | claim hfrom hto hretry hmax =>
    simp only [hfrom] at ha
    simp [hto, hretry, ha]
  | transition hfrom hto hretry hmax =>
    have hclaims : claims = requeues + r.retryCount + 1 := by
      rcases hfrom with hfrom | hfrom <;> simpa only [hfrom] using ha
    cases hstatus : r'.status with
    | pending => exact absurd hstatus hto.1
    | failed => exact absurd hstatus hto.2
    | running | awaitingApproval | success | skipped => simp [hretry, hclaims]
  | fail hfrom hto hretry hmax =>
    simp only [hfrom] at ha
    simp only [hto, hretry, Bool.toNat_false]
    omega
  | requeue hfrom hto hleft hretry hmax =>
    simp only [hfrom] at ha
    simp only [hto, hretry, Bool.toNat_false]
    omega
  | recover hfrom hto hretry hmax =>
    simp only [hfrom] at ha
    simp only [hto, hretry, Bool.toNat_false, Bool.toNat_true]
    omega
  | exhaust hfrom hto hspent hretry hmax =>
    simp only [hfrom] at ha
    simp only [hto, hretry, hmax, Bool.toNat_false]
    omega

/-! ## Operations on rows -/

/-- Every row is moved, every new row is a fresh one, and the counts go along. -/
structure Moves (s s' : Session) : Prop where
  old : ∀ id r, s.queue.row? id = some r → ∃ r' claim recovery, s'.queue.row? id = some r' ∧
    Move claim recovery r r' ∧ s'.claims id = s.claims id + claim.toNat ∧
      s'.requeues id = s.requeues id + recovery.toNat
  new : ∀ id, s.queue.row? id = none → s'.claims id = s.claims id ∧
    s'.requeues id = s.requeues id ∧
      ∀ r', s'.queue.row? id = some r' → r'.status = .pending ∧ r'.retryCount = 0

/-- Some operations on rows, one after another. -/
abbrev Moves.Many : Session → Session → Prop := Relation.ReflTransGen Moves

/-- The rows with a property are rewritten; what counts of them depends on the row. -/
theorem moves_of_map {s s' : Session} (selected : QueueAction → Bool)
    (f : QueueAction → QueueAction) (claim recovery : QueueAction → Bool)
    (hrows : ∀ id, s'.queue.row? id =
      (s.queue.row? id).map fun r => if selected r then f r else r)
    (hmove : ∀ id r, s.queue.row? id = some r → selected r = true →
      Move (claim r) (recovery r) r (f r))
    (hclaims : ∀ id, s'.claims id = s.claims id +
      ((s.queue.row? id).any fun r => selected r && claim r).toNat)
    (hrequeues : ∀ id, s'.requeues id = s.requeues id +
      ((s.queue.row? id).any fun r => selected r && recovery r).toNat) : Moves s s' := by
  refine ⟨fun id r hr => ?_, fun id hr => ?_⟩
  · by_cases hsel : selected r = true
    · refine ⟨f r, claim r, recovery r, by simp [hrows, hr, hsel], hmove id r hr hsel, ?_, ?_⟩
      · simp [hclaims, hr, hsel]
      · simp [hrequeues, hr, hsel]
    · refine ⟨r, false, false, by simp [hrows, hr, hsel], .keep rfl rfl rfl, ?_, ?_⟩
      · simp [hclaims, hr, hsel]
      · simp [hrequeues, hr, hsel]
  · refine ⟨by simp [hclaims, hr], by simp [hrequeues, hr], fun r' hr' => ?_⟩
    simp [hrows, hr] at hr'

/-- An update of one row that counts as nothing. -/
theorem moves_updateAction (s : Session) (id : Nat) (guard : QueueAction → Bool)
    (f : QueueAction → QueueAction) (hf : ∀ r, (f r).id = r.id)
    (hmove : ∀ r, s.queue.row? id = some r → guard r = true → Move false false r (f r)) :
    Moves s (s.withQueue (updateAction s.queue id guard f hf).2) := by
  refine moves_of_map (fun r => r.id = id ∧ guard r = true) f (fun _ => false) (fun _ => false)
    (fun j => ?_) (fun j r hr hsel => ?_) (fun j => ?_) fun j => ?_
  · simpa [Session.withQueue, updateAction] using Table.update_row?_eq_map s.queue id guard f hf j
  · simp only [decide_eq_true_eq] at hsel
    refine hmove r ?_ hsel.2
    rw [← hsel.1, s.queue.keyed j r hr]
    exact hr
  · cases s.queue.row? j <;> simp [Session.withQueue]
  · cases s.queue.row? j <;> simp [Session.withQueue]

theorem moves_transition (s : Session) (id : Nat) {fromStatus toStatus : QueueStatus}
    (lastError : Option String) (now : Int)
    (hfrom : fromStatus = .running ∨ fromStatus = .awaitingApproval)
    (hto : toStatus ≠ .pending ∧ toStatus ≠ .failed) :
    Moves s (s.withQueue
      (transitionActionStatus s.queue id fromStatus toStatus lastError now).2) := by
  have hmoves := moves_updateAction s id (fun r => r.status = fromStatus)
    (transitionedRow toStatus lastError now) (fun _ => rfl) fun r _ hguard => by
      rw [decide_eq_true_eq] at hguard
      exact .transition (by rwa [hguard]) hto rfl rfl
  unfold transitionActionStatus
  split <;> next heq => rwa [heq] at hmoves

theorem moves_enqueue (s : Session) (new : NewAction) (now : Int) :
    Moves s (s.withQueue (enqueueResponseAction s.queue new now).2) := by
  have hkeep (id : Nat) (r : QueueAction) (queue : Queue) (hr : queue.row? id = some r) :
      ∃ r' claim recovery, queue.row? id = some r' ∧ Move claim recovery r r' ∧
        s.claims id = s.claims id + claim.toNat ∧ s.requeues id = s.requeues id + recovery.toNat :=
    ⟨r, false, false, hr, .keep rfl rfl rfl, rfl, rfl⟩
  unfold enqueueResponseAction
  split
  · refine ⟨fun id r hr => hkeep id r _ hr, fun id hr => ⟨rfl, rfl, fun r' hr' => ?_⟩⟩
    replace hr' : s.queue.row? id = some r' := hr'
    rw [hr] at hr'
    cases hr'
  · refine ⟨fun id r hr => hkeep id r _ (Table.insert_row?_of_some s.queue _ (newActionRow_id new now) hr),
      fun id hr => ⟨rfl, rfl, fun r' hr' => ?_⟩⟩
    replace hr' : (s.queue.insert _ (newActionRow_id new now)).row? id = some r' := hr'
    rw [Table.insert_row?, hr] at hr'
    split at hr'
    · cases hr'
      exact ⟨rfl, rfl⟩
    · cases hr'

/-- A claim answers the first pending row, as claimed. -/
theorem claimNextPendingAction_answer (queue : Queue) (locked : Nat → Bool) (now : Int) :
    (claimNextPendingAction queue locked now).1 =
      (firstUnlocked queue locked fun r => r.status = .pending).map (claimedRow now) := by
  unfold claimNextPendingAction
  split
  · next hfirst => rw [hfirst, Option.map_none]
  · next row hfirst =>
    rw [hfirst]
    simp [updateAction, Table.returning, (firstUnlocked_stored hfirst).1]

theorem moves_claimPending (s : Session) (locked : Nat → Bool) (now : Int) :
    Moves s (s.afterClaim (claimNextPendingAction s.queue locked now)) := by
  unfold claimNextPendingAction
  split
  · refine moves_of_map (fun _ => false) id (fun _ => false) (fun _ => false) (fun j => ?_)
      (fun _ _ _ => nofun) (fun j => ?_) fun j => ?_
    · simp [Session.afterClaim]
    · cases s.queue.row? j <;> simp [Session.afterClaim, bump]
    · cases s.queue.row? j <;> simp [Session.afterClaim]
  · next row hfirst =>
    obtain ⟨hrow, hpending⟩ := firstUnlocked_stored hfirst
    rw [decide_eq_true_eq] at hpending
    refine moves_of_map (fun r => r.id = row.id) (claimedRow now) (fun _ => true) (fun _ => false)
      (fun j => ?_) (fun j r hr hsel => ?_) (fun j => ?_) fun j => ?_
    · simpa [Session.afterClaim, updateAction] using
        Table.update_row?_eq_map s.queue row.id (fun _ => true) (claimedRow now) (fun _ => rfl) j
    · obtain rfl : r = row := by
        rw [decide_eq_true_eq] at hsel
        rw [← s.queue.keyed j r hr, hsel, hrow] at hr
        exact (Option.some_injective _ hr).symm
      exact .claim hpending rfl rfl rfl
    · have hclaimed : (updateAction s.queue row.id (fun _ => true) (claimedRow now)
          fun _ => rfl).1 = some (claimedRow now row) := by
        simp [updateAction, Table.returning, hrow]
      simp only [Session.afterClaim, hclaimed, bump]
      cases hr : s.queue.row? j with
      | none =>
        have hne : j ≠ row.id := by
          rintro rfl
          rw [hrow] at hr
          cases hr
        simp [claimedRow, hne]
      | some r =>
        have hid := s.queue.keyed j r hr
        by_cases hj : j = row.id <;> simp [claimedRow, hid, hj]
    · cases s.queue.row? j <;> simp [Session.afterClaim]

theorem moves_recoverStale (s : Session) (locked : Nat → Bool) (now : Int)
    (staleAfterSeconds : Nat) (limit : Option Nat) :
    Moves s (s.afterRecovery
      (recoverStaleRunningActions s.queue locked now staleAfterSeconds limit)) := by
  unfold recoverStaleRunningActions updateSelected
  have hrunning {row : QueueAction} := @someUnlocked_stored s.queue locked limit
    (fun r => r.status = .running && r.updatedAt ≤ now - seconds staleAfterSeconds) row
  generalize someUnlocked s.queue locked limit
    (fun r => r.status = .running && r.updatedAt ≤ now - seconds staleAfterSeconds) = stale
    at hrunning
  have hstored : ∀ row ∈ stale, s.queue.row? row.id = some row := fun _ h => (hrunning h).1
  refine moves_of_map (fun r => (stale.map QueueAction.id).contains r.id) (recoveredRow now)
    (fun _ => false) (fun r => r.retryCount < r.maxRetries)
    (fun j => rfl) (fun j r hr hsel => ?_) (fun j => ?_) fun j => ?_
  · rw [List.contains_iff_mem, s.queue.keyed j r hr, mem_selected hstored hr] at hsel
    have hstatus := (hrunning hsel).2
    rw [Bool.and_eq_true, decide_eq_true_eq] at hstatus
    unfold recoveredRow
    by_cases hleft : r.retryCount < r.maxRetries
    · simp only [hleft, decide_true, if_true]
      exact .recover hstatus.1 rfl rfl rfl
    · simp only [hleft, decide_false, if_false]
      exact .exhaust hstatus.1 rfl (not_lt.mp hleft) rfl rfl
  · cases s.queue.row? j <;> simp [Session.afterRecovery]
  · -- the recovered rows that are pending again are those with retries left
    have hpending (r : QueueAction) :
        (recoveredRow now r).status = .pending ↔ r.retryCount < r.maxRetries := by
      unfold recoveredRow
      split <;> simp_all
    have hcount : j ∈ (((stale.map (recoveredRow now)).filter fun r => r.status = .pending).map
        QueueAction.id) ↔ ∃ r ∈ stale, r.id = j ∧ r.retryCount < r.maxRetries := by
      simp only [List.mem_map, List.mem_filter, decide_eq_true_eq]
      constructor
      · rintro ⟨_, ⟨⟨r, hr, rfl⟩, hstatus⟩, hid⟩
        exact ⟨r, hr, by rwa [recoveredRow_id] at hid, (hpending r).mp hstatus⟩
      · rintro ⟨r, hr, hid, hleft⟩
        exact ⟨_, ⟨⟨r, hr, rfl⟩, (hpending r).mpr hleft⟩, by rwa [recoveredRow_id]⟩
    simp only [Session.afterRecovery, bump, hcount]
    cases hr : s.queue.row? j with
    | none =>
      have hnone : ¬ ∃ r ∈ stale, r.id = j ∧ r.retryCount < r.maxRetries := by
        rintro ⟨r, hmem, rfl, -⟩
        rw [hstored r hmem] at hr
        cases hr
      simp [hnone]
    | some r =>
      have hiff : (∃ r ∈ stale, r.id = j ∧ r.retryCount < r.maxRetries) ↔
          j ∈ stale.map QueueAction.id ∧ r.retryCount < r.maxRetries := by
        rw [mem_selected hstored hr]
        constructor
        · rintro ⟨row, hmem, rfl, hleft⟩
          obtain rfl := Option.some_injective _ ((hstored row hmem).symm.trans hr)
          exact ⟨hmem, hleft⟩
        · rintro ⟨hmem, hleft⟩
          exact ⟨r, hmem, s.queue.keyed j r hr, hleft⟩
      have hbool : ((stale.map QueueAction.id).contains j && r.retryCount < r.maxRetries) = true ↔
          j ∈ stale.map QueueAction.id ∧ r.retryCount < r.maxRetries := by
        rw [Bool.and_eq_true, List.contains_iff_mem, decide_eq_true_eq]
      simp only [hiff, Option.any_some, s.queue.keyed j r hr]
      by_cases hboth : j ∈ stale.map QueueAction.id ∧ r.retryCount < r.maxRetries
      · rw [if_pos hboth, hbool.mpr hboth, Bool.toNat_true]
      · rw [if_neg hboth, Bool.eq_false_iff.mpr (hbool.not.mpr hboth), Bool.toNat_false, add_zero]

theorem moves_sweepTerminal (s : Session) (approvals : ApprovalRequests.Store)
    (locked : Nat → Bool) (limit now : Int) :
    Moves s (s.withQueue
      (sweepTerminalApprovalQueueRows s.queue approvals locked limit now).2) := by
  unfold sweepTerminalApprovalQueueRows updateSelected
  dsimp only
  have hwaits {row : QueueAction} := @someUnlocked_stored s.queue locked
    (some (min (max limit 0) 100).toNat) (isTerminallyUnapproved approvals) row
  generalize someUnlocked s.queue locked (some (min (max limit 0) 100).toNat)
    (isTerminallyUnapproved approvals) = unapproved at hwaits
  have hstored : ∀ row ∈ unapproved, s.queue.row? row.id = some row := fun _ h => (hwaits h).1
  refine moves_of_map (fun r => (unapproved.map QueueAction.id).contains r.id)
    (terminalSkippedRow approvals now) (fun _ => false) (fun _ => false)
    (fun j => rfl) (fun j r hr hsel => ?_) (fun j => ?_) fun j => ?_
  · rw [List.contains_iff_mem, s.queue.keyed j r hr, mem_selected hstored hr] at hsel
    have hstatus := (hwaits hsel).2
    rw [isTerminallyUnapproved, Bool.and_eq_true, decide_eq_true_eq] at hstatus
    exact .transition (.inr hstatus.1) ⟨nofun, nofun⟩ rfl rfl
  · cases s.queue.row? j <;> simp [Session.withQueue]
  · cases s.queue.row? j <;> simp [Session.withQueue]

theorem moves_requeueFailed (s : Session) (id : Nat) (now : Int) :
    Moves s (s.withQueue (requeueFailedAction s.queue id now).2) := by
  have hmoves := moves_updateAction s id
    (fun r => r.status = .failed && r.retryCount < r.maxRetries) (requeuedRow now) (fun _ => rfl)
    fun r _ hguard => by
      rw [Bool.and_eq_true, decide_eq_true_eq, decide_eq_true_eq] at hguard
      exact .requeue hguard.1 rfl hguard.2 rfl rfl
  unfold requeueFailedAction
  split <;> next heq => rwa [heq] at hmoves

theorem moves_markFailed (s : Session) (id : Nat) (errorMessage : String) (now : Int) :
    Moves s (s.withQueue (markActionFailed s.queue id errorMessage now).2) := by
  have hmoves := moves_updateAction s id (fun r => r.status = .running)
    (failedRow errorMessage now) (fun _ => rfl) fun r _ hguard => by
      rw [decide_eq_true_eq] at hguard
      exact .fail hguard rfl rfl rfl
  unfold markActionFailed
  split <;> next heq => rwa [heq] at hmoves

/-- A failure is charged, and then the row may be put back. -/
theorem moves_recordFailure (s : Session) (id : Nat) (errorMessage : String) (retryable : Bool)
    (now : Int) :
    Moves.Many s (s.withQueue
      (recordActionFailure s.queue id errorMessage retryable now).2) := by
  have hfailed := moves_markFailed s id errorMessage now
  unfold recordActionFailure
  split
  · next heq => exact .single (by rwa [heq] at hfailed)
  · next failed queue heq =>
    rw [heq] at hfailed
    split
    · exact .tail (.single hfailed) (moves_requeueFailed (s.withQueue queue) id now)
    · exact .single hfailed

/-- Every operation is a sequence of moves. -/
theorem step_moves (s : Session) (op : Op) : Moves.Many s (s.step op) := by
  cases op with
  | enqueue new now => exact .single (moves_enqueue s new now)
  | claimPending locked now => exact .single (moves_claimPending s locked now)
  | claimApproved approvals locked now =>
    simp only [Session.step, claimNextApprovedAwaitingAction]
    split
    · exact .refl
    · next row hfirst =>
      obtain ⟨hrow, hwaits⟩ := firstUnlocked_stored hfirst
      refine .single (moves_updateAction s _ _ _ _ fun r hr _ => ?_)
      rw [hrow] at hr
      cases hr
      rw [Bool.and_eq_true, decide_eq_true_eq] at hwaits
      exact .transition (.inr hwaits.1) ⟨nofun, nofun⟩ rfl rfl
  | markAwaitingApproval id reason now =>
    exact .single (moves_transition s id _ now (.inl rfl) ⟨nofun, nofun⟩)
  | markAwaitingSkipped id reason now =>
    exact .single (moves_transition s id _ now (.inr rfl) ⟨nofun, nofun⟩)
  | markSuccess id now => exact .single (moves_transition s id _ now (.inl rfl) ⟨nofun, nofun⟩)
  | markSkipped id reason now =>
    exact .single (moves_transition s id _ now (.inl rfl) ⟨nofun, nofun⟩)
  | recordFailure id errorMessage retryable now =>
    exact moves_recordFailure s id errorMessage retryable now
  | requeueFailed id now => exact .single (moves_requeueFailed s id now)
  | skipTerminal approvals locked now =>
    simp only [Session.step, skipNextTerminalApprovalAction]
    split
    · exact .refl
    · next row hfirst =>
      obtain ⟨hrow, hwaits⟩ := firstUnlocked_stored hfirst
      refine .single (moves_updateAction s _ _ _ _ fun r hr _ => ?_)
      rw [hrow] at hr
      cases hr
      rw [isTerminallyUnapproved, Bool.and_eq_true, decide_eq_true_eq] at hwaits
      exact .transition (.inr hwaits.1) ⟨nofun, nofun⟩ rfl rfl
  | sweepTerminal approvals locked limit now =>
    exact .single (moves_sweepTerminal s approvals locked limit now)
  | recoverStale locked now staleAfterSeconds limit =>
    exact .single (moves_recoverStale s locked now staleAfterSeconds limit)
  | link id decisionId soarCorrelationId =>
    exact .single (moves_updateAction s id _ _ _ fun r _ _ => .keep rfl rfl rfl)

/-! ## Result -/

/-- Every row is accounted for, and nothing was counted of a row that does not exist. -/
def Counted (s : Session) : Prop :=
  ∀ id, match s.queue.row? id with
    | none => s.claims id = 0 ∧ s.requeues id = 0
    | some r => Accounted (s.claims id) (s.requeues id) r

theorem counted_empty : Counted .empty := fun _ => ⟨rfl, rfl⟩

theorem Counted.row {s : Session} (h : Counted s) {id : Nat} {r : QueueAction}
    (hr : s.queue.row? id = some r) : Accounted (s.claims id) (s.requeues id) r := by
  have := h id
  rwa [hr] at this

theorem Counted.absent {s : Session} (h : Counted s) {id : Nat} (hr : s.queue.row? id = none) :
    s.claims id = 0 ∧ s.requeues id = 0 := by
  have := h id
  rwa [hr] at this

theorem Moves.counted {s s' : Session} (h : Moves s s') (hs : Counted s) : Counted s' := by
  intro id
  cases hr : s.queue.row? id with
  | none =>
    obtain ⟨hclaims, hrequeues⟩ := hs.absent hr
    obtain ⟨hclaims', hrequeues', hfresh⟩ := h.new id hr
    cases hr' : s'.queue.row? id with
    | none => exact ⟨hclaims'.trans hclaims, hrequeues'.trans hrequeues⟩
    | some r' =>
      obtain ⟨hstatus, hretry⟩ := hfresh r' hr'
      simp [Accounted, hstatus, hretry, hclaims, hclaims', hrequeues, hrequeues']
  | some r =>
    obtain ⟨r', claim, recovery, hr', hmove, hclaims, hrequeues⟩ := h.old id r hr
    simp only [hr', hclaims, hrequeues]
    exact hmove.accounted (hs.row hr)

theorem Moves.Many.counted {s s' : Session} (h : Moves.Many s s') (hs : Counted s) :
    Counted s' := by
  induction h with
  | refl => exact hs
  | tail _ hmoves ih => exact hmoves.counted ih

/-- Rows stay, with their limit, and claims are not forgotten. -/
def Grows (s s' : Session) : Prop :=
  ∀ id r, s.queue.row? id = some r → ∃ r', s'.queue.row? id = some r' ∧
    r'.maxRetries = r.maxRetries ∧ s.claims id ≤ s'.claims id

theorem Grows.refl (s : Session) : Grows s s := fun _ r hr => ⟨r, hr, rfl, le_rfl⟩

theorem Grows.trans {s₁ s₂ s₃ : Session} (h : Grows s₁ s₂) (h' : Grows s₂ s₃) : Grows s₁ s₃ := by
  intro id r hr
  obtain ⟨r', hr', hmax, hle⟩ := h id r hr
  obtain ⟨r'', hr'', hmax', hle'⟩ := h' id r' hr'
  exact ⟨r'', hr'', hmax'.trans hmax, hle.trans hle'⟩

theorem Moves.Many.grows {s s' : Session} (h : Moves.Many s s') : Grows s s' := by
  induction h with
  | refl => exact .refl s
  | tail _ hmoves ih =>
    refine ih.trans fun id r hr => ?_
    obtain ⟨r', claim, recovery, hr', hmove, hclaims, -⟩ := hmoves.old id r hr
    exact ⟨r', hr', hmove.max, by omega⟩

/-- No row was claimed from pending more than once more than its retries. -/
def Bounded (s : Session) : Prop :=
  ∀ r ∈ s.queue.rows, s.claims r.id ≤ r.maxRetries + 1

theorem bounded_iff {s : Session} :
    Bounded s ↔ ∀ id r, s.queue.row? id = some r → s.claims id ≤ r.maxRetries + 1 := by
  refine ⟨fun h id r hr => ?_, fun h r hr => h r.id r (Table.mem_rows.mp hr)⟩
  have hid := s.queue.keyed id r hr
  rw [← hid] at hr ⊢
  exact h r (Table.mem_rows.mpr hr)

theorem Bounded.of_grows {s s' : Session} (h : Bounded s') (hgrows : Grows s s') : Bounded s := by
  rw [bounded_iff] at h ⊢
  intro id r hr
  obtain ⟨r', hr', hmax, hle⟩ := hgrows id r hr
  have := h id r' hr'
  omega

/-- A claim from pending finds a row whose recoveries and retries together are within its limit. -/
def WithinRetries (s : Session) : Op → Prop
  | .claimPending locked _ => ∀ row,
    (firstUnlocked s.queue locked fun r => r.status = .pending) = some row →
      s.requeues row.id + row.retryCount ≤ row.maxRetries
  | _ => True

/-- Where no claim is counted, the bound is kept. -/
theorem bounded_of_claims_eq {s s' : Session} (hcounted : Counted s) (hgrows : Grows s s')
    (hclaims : s'.claims = s.claims) (h : Bounded s) : Bounded s' := by
  rw [bounded_iff] at h ⊢
  intro id r' hr'
  rw [hclaims]
  cases hr : s.queue.row? id with
  | none =>
    rw [(hcounted.absent hr).1]
    omega
  | some r =>
    obtain ⟨r'', hr'', hmax, -⟩ := hgrows id r hr
    rw [hr'] at hr''
    cases hr''
    have := h id r hr
    omega

theorem bounded_claim_iff {s : Session} (hcounted : Counted s) (h : Bounded s)
    (locked : Nat → Bool) (now : Int) :
    Bounded (s.step (.claimPending locked now)) ↔ WithinRetries s (.claimPending locked now) := by
  have hmoves : Moves s (s.step (.claimPending locked now)) := moves_claimPending s locked now
  have hgrows : Grows s (s.step (.claimPending locked now)) :=
    Moves.Many.grows (.single hmoves)
  have hclaims : (s.step (.claimPending locked now)).claims = bump s.claims
      (((firstUnlocked s.queue locked fun r => r.status = .pending).map
        (claimedRow now)).toList.map QueueAction.id) := by
    rw [← claimNextPendingAction_answer]
    rfl
  cases hfirst : firstUnlocked s.queue locked fun r => r.status = .pending with
  | none =>
    refine iff_of_true (bounded_of_claims_eq hcounted hgrows ?_ h) fun row hrow => ?_
    · rw [hclaims, hfirst]
      rfl
    · rw [hfirst] at hrow
      cases hrow
  | some row =>
    obtain ⟨hrow, hpending⟩ := firstUnlocked_stored hfirst
    rw [decide_eq_true_eq] at hpending
    have haccounted := hcounted.row hrow
    simp only [Accounted, hpending] at haccounted
    have hclaimed (id : Nat) : (s.step (.claimPending locked now)).claims id =
        if id = row.id then s.claims id + 1 else s.claims id := by
      rw [hclaims, hfirst]
      simp [bump, claimedRow]
    constructor
    · intro hbounded found hfound
      rw [hfirst] at hfound
      obtain rfl := Option.some_injective _ hfound
      obtain ⟨r', hr', hmax, -⟩ := hgrows row.id row hrow
      have hle := bounded_iff.mp hbounded row.id r' hr'
      rw [hclaimed, if_pos rfl] at hle
      omega
    · intro hwithin
      have hleft := hwithin row hfirst
      refine bounded_iff.mpr fun id r' hr' => ?_
      rw [hclaimed]
      cases hr : s.queue.row? id with
      | none =>
        have hne : id ≠ row.id := by
          rintro rfl
          rw [hrow] at hr
          cases hr
        rw [if_neg hne, (hcounted.absent hr).1]
        omega
      | some r =>
        obtain ⟨r'', hr'', hmax, -⟩ := hgrows id r hr
        rw [hr'] at hr''
        cases hr''
        by_cases hid : id = row.id
        · subst hid
          rw [hrow] at hr
          cases hr
          rw [if_pos rfl]
          omega
        · have := bounded_iff.mp h id r hr
          rw [if_neg hid]
          omega

/-- One operation keeps the bound exactly where its claim is within the retries. -/
theorem bounded_step_iff {s : Session} (hcounted : Counted s) (h : Bounded s) (op : Op) :
    Bounded (s.step op) ↔ WithinRetries s op := by
  cases op with
  | claimPending locked now => exact bounded_claim_iff hcounted h locked now
  | enqueue | claimApproved | markAwaitingApproval | markAwaitingSkipped | markSuccess | markSkipped
  | recordFailure | requeueFailed | skipTerminal | sweepTerminal | recoverStale | link =>
    exact iff_of_true (bounded_of_claims_eq hcounted (step_moves s _).grows rfl h) trivial

theorem grows_after (s : Session) (ops : List Op) : Grows s (Runs.after Session.step s ops) :=
  Runs.related Grows.refl (fun _ _ _ => Grows.trans) (fun s op => (step_moves s op).grows) s ops

theorem bounded_after_iff {s : Session} (hcounted : Counted s) (h : Bounded s) (ops : List Op) :
    Bounded (Runs.after Session.step s ops) ↔ Runs.Along Session.step WithinRetries s ops := by
  induction ops generalizing s with
  | nil => exact iff_of_true h trivial
  | cons op ops ih =>
    have hcounted' := (step_moves s op).counted hcounted
    have hstep := bounded_step_iff hcounted h op
    rw [Runs.after_cons]
    constructor
    · intro hafter
      have hs' : Bounded (s.step op) := hafter.of_grows (grows_after _ ops)
      exact ⟨hstep.mp hs', (ih hcounted' hs').mp hafter⟩
    · rintro ⟨hwithin, hrest⟩
      exact (ih hcounted' (hstep.mpr hwithin)).mpr hrest

/-- **Attempts are bounded by retries and recoveries.**  In a run of the queue every row is claimed
    from pending at most once more than its retries, exactly if every claim finds a row whose
    recoveries so far and charged retries are within its limit. -/
theorem claims_bounded_iff (ops : List Op) :
    Bounded (Runs.after Session.step .empty ops) ↔
      Runs.Along Session.step WithinRetries .empty ops :=
  bounded_after_iff counted_empty (fun _ => nofun) ops

/-- An action with the default limit of three retries. -/
def freshAction : NewAction := ⟨none, some "203.0.113.7", "monitor", 3, "k"⟩

/-- A worker claims the first pending action and crashes, and sixteen minutes later the action is
    recovered. -/
def crashedAttempt (now : Int) : List Op :=
  [.claimPending (fun _ => false) now,
    .recoverStale (fun _ => false) (now + seconds 960) staleRunningTimeout none]

/-- Five crashed attempts. -/
def crashingRun : List Op :=
  .enqueue freshAction 0 ::
    ((List.range 5).map fun n => crashedAttempt (seconds (1000 * n))).flatten

/-- Five claims of an action that may be retried three times. -/
theorem claims_exceed_retries : ¬ Bounded (Runs.after Session.step .empty crashingRun) := by
  intro h
  have hbound := bounded_iff.mp h 1
  revert hbound
  decide +kernel

end SiemDashboard.QueueAttempts
