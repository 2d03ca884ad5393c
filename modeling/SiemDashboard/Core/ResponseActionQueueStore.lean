import SiemDashboard.Core.ApprovalRequests

/-!
# Response action queue

`core/response_action_queue_store.py`: the queued response actions, which workers claim, hold for
approval, retry and recover.

* **Rows** — `QueueStatus`, `QueueAction`, `Queue`, `enqueueResponseAction`.
* **Claims** — `claimNextPendingAction`, `claimNextApprovedAwaitingAction`.
* **Transitions** — `transitionActionStatus` and its four uses, `recordActionFailure`.
* **Approval outcomes** — `skipNextTerminalApprovalAction`, `sweepTerminalApprovalQueueRows`.
* **Recovery** — `recoverStaleRunningActions`.
* **What a function does** — `Rewrites`: rows stay and are rewritten one by one; `Quiet`: the action
  is kept and no row newly succeeds.
-/

namespace SiemDashboard.ResponseActionQueueStore

open Tables ApprovalRequests

/-! ## Rows -/

/-- The `status` of a queued action. -/
inductive QueueStatus where
  | pending
  | running
  | awaitingApproval
  | success
  | failed
  | skipped
deriving DecidableEq, Repr

/-- The text of a status. -/
def QueueStatus.label : QueueStatus → String
  | .pending => "pending"
  | .running => "running"
  | .awaitingApproval => "awaiting_approval"
  | .success => "success"
  | .failed => "failed"
  | .skipped => "skipped"

/-- A row of `response_actions_queue`. -/
structure QueueAction where
  id : Nat
  alertId : Option Nat
  sourceIp : Option String
  action : String
  status : QueueStatus
  retryCount : Nat
  maxRetries : Nat
  lastError : Option String
  idempotencyKey : String
  createdAt : Int
  updatedAt : Int
  decisionId : Option Nat
  soarCorrelationId : Option String

abbrev Queue := Table QueueAction QueueAction.id

/-- The arguments of `enqueue_response_action`, and the key it computes from them. -/
structure NewAction where
  alertId : Option Nat
  sourceIp : Option String
  action : String
  maxRetries : Nat
  idempotencyKey : String

/-- The row `enqueue_response_action` inserts. -/
def newActionRow (new : NewAction) (now : Int) (id : Nat) : QueueAction where
  id := id
  alertId := new.alertId
  sourceIp := new.sourceIp
  action := new.action
  status := .pending
  retryCount := 0
  maxRetries := new.maxRetries
  lastError := none
  idempotencyKey := new.idempotencyKey
  createdAt := now
  updatedAt := now
  decisionId := none
  soarCorrelationId := none

theorem newActionRow_id (new : NewAction) (now : Int) (id : Nat) : (newActionRow new now id).id = id :=
  rfl

/-- `enqueue_response_action`: an action that is queued already is not queued again. -/
def enqueueResponseAction (queue : Queue) (new : NewAction) (now : Int) : Option Nat × Queue :=
  if queue.rows.any fun r => r.idempotencyKey = new.idempotencyKey then (none, queue)
  else (some queue.next, queue.insert (newActionRow new now) (newActionRow_id new now))

/-- `UPDATE response_actions_queue SET … WHERE id = … AND … RETURNING …`. -/
def updateAction (queue : Queue) (id : Nat) (guard : QueueAction → Bool)
    (f : QueueAction → QueueAction) (hf : ∀ r, (f r).id = r.id) : Option QueueAction × Queue :=
  (queue.returning id guard f, queue.update id guard f hf)

/-- The first row with the property that no other transaction holds. -/
def firstUnlocked (queue : Queue) (locked : Nat → Bool) (p : QueueAction → Bool) :
    Option QueueAction :=
  (queue.rows.filter fun r => p r && !locked r.id).head?

/-! ## Claims -/

/-- What a claim of a pending action writes. -/
def claimedRow (now : Int) (r : QueueAction) : QueueAction :=
  { r with status := .running, updatedAt := now }

/-- `claim_next_pending_action`. -/
def claimNextPendingAction (queue : Queue) (locked : Nat → Bool) (now : Int) :
    Option QueueAction × Queue :=
  match firstUnlocked queue locked fun r => r.status = .pending with
  | none => (none, queue)
  | some row => updateAction queue row.id (fun _ => true) (claimedRow now) fun _ => rfl

/-- Some request for the action is approved. -/
def hasApproved (approvals : Store) (r : QueueAction) : Bool :=
  approvals.requests.rows.any fun a =>
    a.queueId = some r.id && a.action = r.action && a.status = .approved

/-- What a claim of an approved action writes. -/
def approvedRow (now : Int) (r : QueueAction) : QueueAction :=
  { r with status := .running, lastError := none, updatedAt := now }

/-- `claim_next_approved_awaiting_action`. -/
def claimNextApprovedAwaitingAction (queue : Queue) (approvals : Store) (locked : Nat → Bool)
    (now : Int) : Option QueueAction × Queue :=
  match firstUnlocked queue locked fun r =>
    r.status = .awaitingApproval && hasApproved approvals r with
  | none => (none, queue)
  | some row => updateAction queue row.id (fun _ => true) (approvedRow now) fun _ => rfl

/-! ## Transitions -/

/-- What a transition writes. -/
def transitionedRow (toStatus : QueueStatus) (lastError : Option String) (now : Int)
    (r : QueueAction) : QueueAction :=
  { r with status := toStatus, lastError := lastError, updatedAt := now }

/-- `_transition_action_status`; a row that is not in `fromStatus` raises `QueueTransitionError`. -/
def transitionActionStatus (queue : Queue) (id : Nat) (fromStatus toStatus : QueueStatus)
    (lastError : Option String) (now : Int) : Except String QueueAction × Queue :=
  match updateAction queue id (fun r => r.status = fromStatus)
      (transitionedRow toStatus lastError now) fun _ => rfl with
  | (some row, queue') => (.ok row, queue')
  | (none, queue') => (.error s!"queue action {id} is not {fromStatus.label}", queue')

/-- `mark_action_awaiting_approval`. -/
def markActionAwaitingApproval (queue : Queue) (id : Nat) (reason : String) (now : Int) :=
  transitionActionStatus queue id .running .awaitingApproval (some reason) now

/-- `mark_awaiting_approval_skipped`. -/
def markAwaitingApprovalSkipped (queue : Queue) (id : Nat) (reason : String) (now : Int) :=
  transitionActionStatus queue id .awaitingApproval .skipped (some reason) now

/-- `mark_action_success`. -/
def markActionSuccess (queue : Queue) (id : Nat) (now : Int) :=
  transitionActionStatus queue id .running .success none now

/-- `mark_action_skipped`. -/
def markActionSkipped (queue : Queue) (id : Nat) (reason : String) (now : Int) :=
  transitionActionStatus queue id .running .skipped (some reason) now

/-- What `mark_action_failed` writes. -/
def failedRow (errorMessage : String) (now : Int) (r : QueueAction) : QueueAction :=
  { r with
    status := .failed
    retryCount := r.retryCount + 1
    lastError := some errorMessage
    updatedAt := now }

/-- `mark_action_failed`. -/
def markActionFailed (queue : Queue) (id : Nat) (errorMessage : String) (now : Int) :
    Except String QueueAction × Queue :=
  match updateAction queue id (fun r => r.status = .running) (failedRow errorMessage now)
      fun _ => rfl with
  | (some row, queue') => (.ok row, queue')
  | (none, queue') => (.error s!"queue action {id} is not running", queue')

/-- What `requeue_failed_action` writes. -/
def requeuedRow (now : Int) (r : QueueAction) : QueueAction :=
  { r with status := .pending, updatedAt := now }

/-- `requeue_failed_action`. -/
def requeueFailedAction (queue : Queue) (id : Nat) (now : Int) : Except String QueueAction × Queue :=
  match updateAction queue id (fun r => r.status = .failed && r.retryCount < r.maxRetries)
      (requeuedRow now) fun _ => rfl with
  | (some row, queue') => (.ok row, queue')
  | (none, queue') => (.error s!"queue action {id} is not retryable", queue')

/-- `record_action_failure`. -/
def recordActionFailure (queue : Queue) (id : Nat) (errorMessage : String) (retryable : Bool)
    (now : Int) : Except String QueueAction × Queue :=
  match markActionFailed queue id errorMessage now with
  | (.error e, queue') => (.error e, queue')
  | (.ok failed, queue') =>
    if retryable && failed.retryCount < failed.maxRetries then requeueFailedAction queue' id now
    else (.ok failed, queue')

/-! ## Approval outcomes -/

/-- The denied or expired status of the latest request for the action. -/
def terminalApproval (approvals : Store) (r : QueueAction) : Option ApprovalStatus :=
  match getLatestApprovalForQueueAction approvals r.id r.action with
  | none => none
  | some approval =>
    if approval.status = .denied ∨ approval.status = .expired then some approval.status else none

/-- `CASE WHEN approval_status = 'denied' THEN 'approval denied' ELSE 'approval expired' END` -/
def terminalReason (approvals : Store) (r : QueueAction) : String :=
  if terminalApproval approvals r = some .denied then "approval denied" else "approval expired"

/-- What the skip of a denied or expired action writes. -/
def terminalSkippedRow (approvals : Store) (now : Int) (r : QueueAction) : QueueAction :=
  { r with status := .skipped, lastError := some (terminalReason approvals r), updatedAt := now }

/-- A row that waits for an approval which was denied or has expired. -/
def isTerminallyUnapproved (approvals : Store) (r : QueueAction) : Bool :=
  r.status = .awaitingApproval && (terminalApproval approvals r).isSome

/-- `skip_next_terminal_approval_action`. -/
def skipNextTerminalApprovalAction (queue : Queue) (approvals : Store) (locked : Nat → Bool)
    (now : Int) : Option QueueAction × Queue :=
  match firstUnlocked queue locked (isTerminallyUnapproved approvals) with
  | none => (none, queue)
  | some row =>
    updateAction queue row.id (fun _ => true) (terminalSkippedRow approvals now) fun _ => rfl

/-- The rows with the property that no other transaction holds, up to a limit. -/
def someUnlocked (queue : Queue) (locked : Nat → Bool) (limit : Option Nat)
    (p : QueueAction → Bool) : List QueueAction :=
  let rows := queue.rows.filter fun r => p r && !locked r.id
  match limit with
  | none => rows
  | some n => rows.take n

/-- `UPDATE … FROM selected WHERE queue.id = selected.id RETURNING …`. -/
def updateSelected (queue : Queue) (selected : List QueueAction) (f : QueueAction → QueueAction)
    (hf : ∀ r, (f r).id = r.id) : List QueueAction × Queue :=
  (selected.map f, queue.updateAll (fun r => (selected.map QueueAction.id).contains r.id) f hf)

/-- `sweep_terminal_approval_queue_rows`: up to the cap of a hundred. -/
def sweepTerminalApprovalQueueRows (queue : Queue) (approvals : Store) (locked : Nat → Bool)
    (limit now : Int) : List QueueAction × Queue :=
  let cap := (min (max limit 0) 100).toNat
  updateSelected queue (someUnlocked queue locked (some cap) (isTerminallyUnapproved approvals))
    (terminalSkippedRow approvals now) fun _ => rfl

/-! ## Recovery -/

/-- `STALE_RUNNING_TIMEOUT`, in seconds. -/
def staleRunningTimeout : Nat := 15 * 60

/-- What a recovery writes: the row goes back to pending while its retry count allows it, and the
    count stays as it is. -/
def recoveredRow (now : Int) (r : QueueAction) : QueueAction :=
  if r.retryCount < r.maxRetries then { r with status := .pending, updatedAt := now }
  else
    { r with
      status := .failed
      lastError := some (r.lastError.getD "stale running action exhausted retries")
      updatedAt := now }

theorem recoveredRow_id (now : Int) (r : QueueAction) : (recoveredRow now r).id = r.id := by
  unfold recoveredRow
  split <;> rfl

/-- `recover_stale_running_actions`. -/
def recoverStaleRunningActions (queue : Queue) (locked : Nat → Bool) (now : Int)
    (staleAfterSeconds : Nat) (limit : Option Nat) : List QueueAction × Queue :=
  updateSelected queue
    (someUnlocked queue locked limit fun r =>
      r.status = .running && r.updatedAt ≤ now - seconds staleAfterSeconds)
    (recoveredRow now) (recoveredRow_id now)

/-- `set_queue_linkage`: the columns with a value are written. -/
def setQueueLinkage (queue : Queue) (id : Nat) (decisionId : Option Nat)
    (soarCorrelationId : Option String) : Option QueueAction × Queue :=
  updateAction queue id (fun _ => true)
    (fun r =>
      { r with
        decisionId := decisionId <|> r.decisionId
        soarCorrelationId := soarCorrelationId <|> r.soarCorrelationId }) fun _ => rfl

/-! ## What a function does -/

theorem firstUnlocked_stored {queue : Queue} {locked : Nat → Bool} {p : QueueAction → Bool}
    {row : QueueAction} (h : firstUnlocked queue locked p = some row) :
    queue.row? row.id = some row ∧ p row = true := by
  have hmem := List.mem_of_head? h
  rw [List.mem_filter, Bool.and_eq_true] at hmem
  exact ⟨Table.mem_rows.mp hmem.1, hmem.2.1⟩

theorem someUnlocked_stored {queue : Queue} {locked : Nat → Bool} {limit : Option Nat}
    {p : QueueAction → Bool} {row : QueueAction} (h : row ∈ someUnlocked queue locked limit p) :
    queue.row? row.id = some row ∧ p row = true := by
  have hmem : row ∈ queue.rows.filter fun r => p r && !locked r.id := by
    unfold someUnlocked at h
    cases limit with
    | none => exact h
    | some n => exact List.mem_of_mem_take h
  rw [List.mem_filter, Bool.and_eq_true] at hmem
  exact ⟨Table.mem_rows.mp hmem.1, hmem.2.1⟩

/-- Among stored rows, an id is selected with its row. -/
theorem mem_selected {queue : Queue} {selected : List QueueAction}
    (hstored : ∀ row ∈ selected, queue.row? row.id = some row) {id : Nat} {r : QueueAction}
    (hr : queue.row? id = some r) : id ∈ selected.map QueueAction.id ↔ r ∈ selected := by
  rw [← queue.keyed id r hr]
  refine ⟨fun h => ?_, fun h => List.mem_map_of_mem h⟩
  obtain ⟨row, hrow, hid⟩ := List.mem_map.mp h
  have hsame := hstored row hrow
  rw [hid, queue.keyed id r hr, hr] at hsame
  rwa [Option.some_injective _ hsame]

/-- The row an update answers is stored so. -/
theorem updateAction_stored {queue : Queue} {id : Nat} {guard : QueueAction → Bool}
    {f : QueueAction → QueueAction} {hf : ∀ r, (f r).id = r.id} {row : QueueAction}
    (h : (updateAction queue id guard f hf).1 = some row) :
    (updateAction queue id guard f hf).2.row? row.id = some row := by
  obtain ⟨r, hr, hguard, rfl⟩ := Table.returning_eq_some.mp h
  have hid : (f r).id = id := by rw [hf, queue.keyed id r hr]
  rw [hid, updateAction, Table.update_row?, if_pos rfl, hr]
  simp [hguard]

theorem claimNextPendingAction_stored {queue : Queue} {locked : Nat → Bool} {now : Int}
    {row : QueueAction} (h : (claimNextPendingAction queue locked now).1 = some row) :
    (claimNextPendingAction queue locked now).2.row? row.id = some row := by
  unfold claimNextPendingAction at h ⊢
  split at h
  · cases h
  · exact updateAction_stored h

theorem claimNextApprovedAwaitingAction_stored {queue : Queue} {approvals : Store}
    {locked : Nat → Bool} {now : Int} {row : QueueAction}
    (h : (claimNextApprovedAwaitingAction queue approvals locked now).1 = some row) :
    (claimNextApprovedAwaitingAction queue approvals locked now).2.row? row.id = some row := by
  unfold claimNextApprovedAwaitingAction at h ⊢
  split at h
  · cases h
  · exact updateAction_stored h

/-- Rows stay and are rewritten as allowed, and new rows have not succeeded. -/
structure Rewrites (allowed : QueueAction → QueueAction → Prop) (queue queue' : Queue) : Prop where
  kept : ∀ id r, queue.row? id = some r → ∃ r', queue'.row? id = some r' ∧ allowed r r'
  fresh : ∀ id r', queue'.row? id = some r' → queue.row? id = none → r'.status ≠ .success

/-- The action is kept, and the row succeeds only if it had succeeded before. -/
def Quiet (r r' : QueueAction) : Prop :=
  r'.action = r.action ∧ (r'.status = .success → r.status = .success)

theorem Quiet.refl (r : QueueAction) : Quiet r r := ⟨rfl, fun h => h⟩

section Rewrites

variable {allowed : QueueAction → QueueAction → Prop} {queue : Queue}

theorem rewrites_refl (hrefl : ∀ r, allowed r r) : Rewrites allowed queue queue :=
  ⟨fun _ r hr => ⟨r, hr, hrefl r⟩, fun _ _ hr hnone => by rw [hnone] at hr; cases hr⟩

theorem rewrites_map (hrefl : ∀ r, allowed r r) {queue' : Queue} {guard : QueueAction → Prop}
    [DecidablePred guard] {f : QueueAction → QueueAction}
    (hrows : ∀ id, queue'.row? id = (queue.row? id).map fun r => if guard r then f r else r)
    (hf : ∀ r, guard r → allowed r (f r)) : Rewrites allowed queue queue' := by
  refine ⟨fun id r hr => ?_, fun id r' hr' hnone => ?_⟩
  · by_cases hguard : guard r
    · exact ⟨f r, by simp [hrows, hr, hguard], hf r hguard⟩
    · exact ⟨r, by simp [hrows, hr, hguard], hrefl r⟩
  · simp [hrows, hnone] at hr'

theorem updateAction_rewrites (hrefl : ∀ r, allowed r r) (id : Nat) (guard : QueueAction → Bool)
    (f : QueueAction → QueueAction) (hf : ∀ r, (f r).id = r.id)
    (hallowed : ∀ r, r.id = id → guard r = true → allowed r (f r)) :
    Rewrites allowed queue (updateAction queue id guard f hf).2 :=
  rewrites_map hrefl (Table.update_row?_eq_map queue id guard f hf)
    fun r hguard => hallowed r hguard.1 hguard.2

theorem updateSelected_rewrites (hrefl : ∀ r, allowed r r) (selected : List QueueAction)
    (f : QueueAction → QueueAction) (hf : ∀ r, (f r).id = r.id)
    (hallowed : ∀ r, allowed r (f r)) :
    Rewrites allowed queue (updateSelected queue selected f hf).2 :=
  rewrites_map hrefl (fun _ => rfl) fun r _ => hallowed r

theorem enqueueResponseAction_quiet (new : NewAction) (now : Int) :
    Rewrites Quiet queue (enqueueResponseAction queue new now).2 := by
  unfold enqueueResponseAction
  split
  · exact rewrites_refl .refl
  · refine ⟨fun id r hr => ⟨r, ?_, .refl r⟩, fun id r' hr' hnone => ?_⟩
    · exact Table.insert_row?_of_some queue _ (newActionRow_id new now) hr
    · rw [Table.insert_row?, hnone] at hr'
      split at hr'
      · cases hr'
        intro hsuccess
        cases hsuccess
      · cases hr'

theorem claimNextPendingAction_quiet (locked : Nat → Bool) (now : Int) :
    Rewrites Quiet queue (claimNextPendingAction queue locked now).2 := by
  unfold claimNextPendingAction
  split
  · exact rewrites_refl .refl
  · exact updateAction_rewrites .refl _ _ _ _ fun r _ _ => ⟨rfl, nofun⟩

theorem claimNextApprovedAwaitingAction_quiet (approvals : Store) (locked : Nat → Bool)
    (now : Int) :
    Rewrites Quiet queue (claimNextApprovedAwaitingAction queue approvals locked now).2 := by
  unfold claimNextApprovedAwaitingAction
  split
  · exact rewrites_refl .refl
  · exact updateAction_rewrites .refl _ _ _ _ fun r _ _ => ⟨rfl, nofun⟩

theorem skipNextTerminalApprovalAction_quiet (approvals : Store) (locked : Nat → Bool)
    (now : Int) :
    Rewrites Quiet queue (skipNextTerminalApprovalAction queue approvals locked now).2 := by
  unfold skipNextTerminalApprovalAction
  split
  · exact rewrites_refl .refl
  · exact updateAction_rewrites .refl _ _ _ _ fun r _ _ => ⟨rfl, nofun⟩

theorem sweepTerminalApprovalQueueRows_quiet (approvals : Store) (locked : Nat → Bool)
    (limit now : Int) :
    Rewrites Quiet queue (sweepTerminalApprovalQueueRows queue approvals locked limit now).2 :=
  updateSelected_rewrites .refl _ _ _ fun _ => ⟨rfl, nofun⟩

theorem recoverStaleRunningActions_quiet (locked : Nat → Bool) (now : Int)
    (staleAfterSeconds : Nat) (limit : Option Nat) :
    Rewrites Quiet queue
      (recoverStaleRunningActions queue locked now staleAfterSeconds limit).2 :=
  updateSelected_rewrites .refl _ _ _ fun r => by
    unfold recoveredRow
    split <;> exact ⟨rfl, nofun⟩

theorem setQueueLinkage_quiet (id : Nat) (decisionId : Option Nat)
    (soarCorrelationId : Option String) :
    Rewrites Quiet queue (setQueueLinkage queue id decisionId soarCorrelationId).2 :=
  updateAction_rewrites .refl _ _ _ _ fun _ _ _ => ⟨rfl, fun h => h⟩

/-- A transition rewrites the row with the id only. -/
theorem transitionActionStatus_rewrites (hrefl : ∀ r, allowed r r) (id : Nat)
    (fromStatus toStatus : QueueStatus) (lastError : Option String) (now : Int)
    (hallowed : ∀ r, r.id = id → allowed r (transitionedRow toStatus lastError now r)) :
    Rewrites allowed queue
      (transitionActionStatus queue id fromStatus toStatus lastError now).2 := by
  have hupdate : Rewrites allowed queue (updateAction queue id (fun r => r.status = fromStatus)
      (transitionedRow toStatus lastError now) fun _ => rfl).2 :=
    updateAction_rewrites hrefl _ _ _ _ fun r hid _ => hallowed r hid
  unfold transitionActionStatus
  split <;> next heq => rwa [heq] at hupdate

theorem Rewrites.trans {queue' queue'' : Queue} (h : Rewrites Quiet queue queue')
    (h' : Rewrites Quiet queue' queue'') : Rewrites Quiet queue queue'' := by
  refine ⟨fun id r hr => ?_, fun id r'' hr'' hnone => ?_⟩
  · obtain ⟨r', hr', hquiet⟩ := h.kept id r hr
    obtain ⟨r'', hr'', hquiet'⟩ := h'.kept id r' hr'
    exact ⟨r'', hr'', hquiet'.1.trans hquiet.1, fun hs => hquiet.2 (hquiet'.2 hs)⟩
  · cases hr' : queue'.row? id with
    | none => exact h'.fresh id r'' hr'' hr'
    | some r' =>
      obtain ⟨r, hr, hquiet⟩ := h'.kept id r' hr'
      rw [hr''] at hr
      cases hr
      exact fun hs => h.fresh id r' hr' hnone (hquiet.2 hs)

theorem markActionFailed_quiet (id : Nat) (errorMessage : String) (now : Int) :
    Rewrites Quiet queue (markActionFailed queue id errorMessage now).2 := by
  have hupdate : Rewrites Quiet queue (updateAction queue id (fun r => r.status = .running)
      (failedRow errorMessage now) fun _ => rfl).2 :=
    updateAction_rewrites .refl _ _ _ _ fun r _ _ => ⟨rfl, nofun⟩
  unfold markActionFailed
  split <;> next heq => rwa [heq] at hupdate

theorem requeueFailedAction_quiet (id : Nat) (now : Int) :
    Rewrites Quiet queue (requeueFailedAction queue id now).2 := by
  have hupdate : Rewrites Quiet queue (updateAction queue id
      (fun r => r.status = .failed && r.retryCount < r.maxRetries) (requeuedRow now)
      fun _ => rfl).2 :=
    updateAction_rewrites .refl _ _ _ _ fun r _ _ => ⟨rfl, nofun⟩
  unfold requeueFailedAction
  split <;> next heq => rwa [heq] at hupdate

theorem recordActionFailure_quiet (id : Nat) (errorMessage : String) (retryable : Bool)
    (now : Int) :
    Rewrites Quiet queue (recordActionFailure queue id errorMessage retryable now).2 := by
  have hfailed : Rewrites Quiet queue (markActionFailed queue id errorMessage now).2 :=
    markActionFailed_quiet id errorMessage now
  unfold recordActionFailure
  split
  · next heq => rwa [heq] at hfailed
  · next failed queue' heq =>
    rw [heq] at hfailed
    split
    · exact hfailed.trans (requeueFailedAction_quiet id now)
    · exact hfailed

end Rewrites

end SiemDashboard.ResponseActionQueueStore
