import SiemDashboard.Core.PlaybookStore

/-!
# Approval store

`core/approval_store.py`: the approval requests of playbook gates and the decisions on them.
-/

namespace SiemDashboard.ApprovalStore

open Python Tables

/-- `DEFAULT_APPROVAL_TTL_MINUTES`. -/
def defaultApprovalTtlMinutes : Int := 60

/-- `UPDATE approval_requests SET … WHERE id = … AND … RETURNING …`. -/
def updateRequest (db : Db) (id : Nat) (guard : ApprovalRequest → Bool)
    (f : ApprovalRequest → ApprovalRequest) (hf : ∀ r, (f r).id = r.id) :
    Option ApprovalRequest × Db :=
  (db.approvals.returning id guard f, { db with approvals := db.approvals.update id guard f hf })

/-- What `_materialize_expiration` writes. -/
def expiredRequest (request : ApprovalRequest) (now : Int) : ApprovalRequest :=
  { request with status := .expired, approvedBy := none, decidedBy := none, decidedAt := some now }

/-- `_materialize_expiration`. -/
def materializeExpiration (db : Db) (id : Nat) (now : Int) : Option ApprovalRequest × Db :=
  updateRequest db id (fun r => r.status = .pending) (fun r => expiredRequest r now) (fun _ => rfl)

/-- `ORDER BY created_at DESC, id DESC LIMIT 1` -/
def youngerOf (a b : ApprovalRequest) : ApprovalRequest :=
  if a.createdAt < b.createdAt ∨ a.createdAt = b.createdAt ∧ a.id ≤ b.id then b else a

def requestsForStep (db : Db) (playbookExecutionId playbookStepIndex : Nat) :
    List ApprovalRequest :=
  db.approvals.rows.filter fun r =>
    r.playbookExecutionId = some playbookExecutionId &&
      r.playbookStepIndex = some playbookStepIndex

def youngest : List ApprovalRequest → Option ApprovalRequest
  | [] => none
  | r :: rs => some (rs.foldl youngerOf r)

/-- `get_latest_playbook_step_approval_request`; with `materializeExpired` a pending request that
    has run out at `now` is marked expired and returned so. -/
def getLatestPlaybookStepApprovalRequest (db : Db) (playbookExecutionId playbookStepIndex : Nat)
    (materializeExpired : Bool) (now : Int) : Option ApprovalRequest × Db :=
  match youngest (requestsForStep db playbookExecutionId playbookStepIndex) with
  | none => (none, db)
  | some current =>
    if materializeExpired && current.status = .pending && current.expiresAt ≤ now then
      materializeExpiration db current.id now
    else (some current, db)

/-- What a new playbook gate request holds. -/
structure NewRequest where
  playbookExecutionId : Nat
  playbookStepIndex : Nat
  riskLevel : Json
  requestReason : Json
  expiresAt : Int

/-- The row `create_approval_request` inserts for a playbook gate. -/
def newRequestRow (new : NewRequest) (riskLevel : String) (createdAt : Int) (id : Nat) :
    ApprovalRequest where
  id := id
  playbookExecutionId := some new.playbookExecutionId
  playbookStepIndex := some new.playbookStepIndex
  status := .pending
  action := "playbook.require_approval"
  riskLevel := riskLevel
  requestReason := new.requestReason
  decisionComment := none
  approvedBy := none
  decidedBy := none
  createdAt := createdAt
  decidedAt := none
  expiresAt := new.expiresAt

theorem newRequestRow_id (new : NewRequest) (riskLevel : String) (createdAt : Int) (id : Nat) :
    (newRequestRow new riskLevel createdAt id).id = id := rfl

/-- The `INSERT` of `create_approval_request` for a playbook gate, under the table's check on
    `risk_level`, its reference to the execution and its unique index on the active requests of a
    step; a rejected insert raises. -/
def insertPlaybookStepApprovalRequest (db : Db) (new : NewRequest) (createdAt : Int) :
    Option ApprovalRequest × Db :=
  match new.riskLevel with
  | .str riskLevel =>
    if !(["medium", "high", "critical"].contains riskLevel) then (none, db)
    else if (db.execution? new.playbookExecutionId).isNone then (none, db)
    else if (requestsForStep db new.playbookExecutionId new.playbookStepIndex).any
        fun r => r.status.isActive then (none, db)
    else
      let row := newRequestRow new riskLevel createdAt
      (some (row db.approvals.next),
        { db with approvals := db.approvals.insert row (newRequestRow_id new riskLevel createdAt) })
  | _ => (none, db)

/-- An operator's decision on a request. -/
inductive Verdict where
  | approve
  | deny
deriving DecidableEq, Repr

/-- The row a verdict leaves. -/
def decidedRequest (verdict : Verdict) (request : ApprovalRequest) (actorUserId : Nat)
    (comment : Option String) (now : Int) : ApprovalRequest :=
  match verdict with
  | .approve =>
    { request with
      status := .approved
      approvedBy := some actorUserId
      decidedBy := some actorUserId
      decidedAt := some now
      decisionComment := comment }
  | .deny =>
    { request with
      status := .denied
      approvedBy := none
      decidedBy := some actorUserId
      decidedAt := some now
      decisionComment := comment }

theorem decidedRequest_id (verdict : Verdict) (request : ApprovalRequest) (actorUserId : Nat)
    (comment : Option String) (now : Int) :
    (decidedRequest verdict request actorUserId comment now).id = request.id := by
  cases verdict <;> rfl

/-- The form that `approve_request` and `deny_request` share. -/
def decideRequest (verdict : Verdict) (db : Db) (id : Nat) (actorUserId : Nat)
    (comment : Option String) (now : Int) : Except String ApprovalRequest × Db :=
  match db.approvals.row? id with
  | none => (.error "approval request not found", db)
  | some current =>
    if current.status ≠ .pending then (.error "approval request is not pending", db)
    else if current.expiresAt ≤ now then
      (.error "approval request expired", (materializeExpiration db id now).2)
    else
      match updateRequest db id (fun _ => true)
          (fun r => decidedRequest verdict r actorUserId comment now)
          (fun r => decidedRequest_id verdict r actorUserId comment now) with
      | (some updated, db') => (.ok updated, db')
      | (none, db') => (.error "approval request not found", db')

/-- A decision changes nothing, marks the request expired, or decides it, and these only while it
    is pending. -/
theorem decideRequest_cases (verdict : Verdict) (db : Db) (id actorUserId : Nat)
    (comment : Option String) (now : Int) :
    (decideRequest verdict db id actorUserId comment now).2 = db ∨
      (decideRequest verdict db id actorUserId comment now).2 = (materializeExpiration db id now).2 ∧
        (∃ current, db.approvals.row? id = some current ∧ current.status = .pending) ∨
      (decideRequest verdict db id actorUserId comment now).2 =
          (updateRequest db id (fun _ => true)
            (fun r => decidedRequest verdict r actorUserId comment now)
            (fun r => decidedRequest_id verdict r actorUserId comment now)).2 ∧
        (∃ current, db.approvals.row? id = some current ∧ current.status = .pending) := by
  unfold decideRequest
  cases hrow : db.approvals.row? id with
  | none => exact .inl rfl
  | some current =>
    by_cases hpending : current.status = .pending
    · by_cases hexpired : current.expiresAt ≤ now
      · exact .inr (.inl ⟨by simp [hpending, hexpired], current, rfl, hpending⟩)
      · refine .inr (.inr ⟨?_, current, rfl, hpending⟩)
        simp only [hpending, hexpired, ne_eq, not_true_eq_false, if_false]
        split <;> simp_all
    · exact .inl (by simp [hpending])

/-- `approve_request`. -/
def approveRequest := decideRequest .approve

/-- `deny_request`. -/
def denyRequest := decideRequest .deny

/-- The expired pending requests, longest expired first. -/
def dueRequests (db : Db) (now : Int) : List ApprovalRequest :=
  (db.approvals.rows.filter fun r =>
    r.status = .pending && r.expiresAt ≤ now).insertionSort fun a b =>
      a.expiresAt < b.expiresAt ∨ a.expiresAt = b.expiresAt ∧ a.id ≤ b.id

/-- Mark the given requests expired, one after another. -/
def expireAll (db : Db) (due : List ApprovalRequest) (now : Int) : Db :=
  due.foldl (fun db r => (materializeExpiration db r.id now).2) db

/-- `expire_pending_requests`: up to the cap of a hundred. -/
def expirePendingRequests (db : Db) (limit : Int) (now : Int) : Db :=
  expireAll db ((dueRequests db now).take (min (max limit 0) 100).toNat) now

end SiemDashboard.ApprovalStore
