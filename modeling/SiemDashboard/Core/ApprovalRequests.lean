import SiemDashboard.Core.ApprovalStore

/-!
# Approval requests

`core/approval_store.py` on whole rows: the requests of incidents, queued actions and playbook
steps, and the event that every change of a request leaves.  `ApprovalStore` is the part of it that
playbook passes touch, with the requests of playbook steps only.

Each function reads the request it changes under a row lock, so the functions take effect one
after another; a function that raises is rolled back by its caller.

* **Tables** — `Request`, `RequestEvent`, `Store`, and `References`, the rows of other tables.
* **Creating** — `createApprovalRequest`, `createPlaybookStepApprovalRequest`.
* **Reading** — the latest request of a step or of a queued action.
* **Deciding and expiring** — `approveRequest`, `denyRequest`, `expirePendingRequests`.
* **What a function does** — `Change`: one request is created or closed, with its event.
* **Playbook part** — `decideRequest_playbook`, `materializeExpiration_playbook`.
-/

namespace SiemDashboard.ApprovalRequests

open Python Tables ApprovalStore

/-! ## Tables -/

/-- A row of `approval_requests`. -/
structure Request extends ApprovalRequest where
  incidentId : Option Nat
  queueId : Option Nat
  requestedBy : Option Nat

/-- The `event_type` of an event. -/
inductive EventType where
  | created
  | approved
  | denied
  | expired
deriving DecidableEq, Repr

/-- A row of `approval_request_events`. -/
structure RequestEvent where
  id : Nat
  approvalRequestId : Nat
  eventType : EventType
  actorUserId : Option Nat
  previousStatus : Option ApprovalStatus
  newStatus : ApprovalStatus
  comment : Json
  createdAt : Int

/-- The requests and their events. -/
structure Store where
  requests : Table Request (fun r => r.id)
  events : Table RequestEvent RequestEvent.id

/-- The tables before the first request. -/
def Store.empty : Store := ⟨.empty, .empty⟩

/-- Which rows exist in the tables that a request refers to. -/
structure References where
  user : Nat → Bool
  incident : Nat → Bool
  queue : Nat → Bool
  execution : Nat → Bool

/-- What the functions raise. -/
inductive ApprovalError where
  /-- `ValueError` -/
  | value (message : String)
  /-- A statement that the database rejects. -/
  | integrity
deriving DecidableEq, Repr

/-- A text column. -/
def optionText : Option String → Json
  | none => .null
  | some text => .str text

/-- `_insert_event`. -/
def insertEvent (store : Store) (approvalRequestId : Nat) (eventType : EventType)
    (actorUserId : Option Nat) (previousStatus : Option ApprovalStatus)
    (newStatus : ApprovalStatus) (comment : Json) (createdAt : Int) : Store :=
  { store with
    events := store.events.insert
      (fun id => ⟨id, approvalRequestId, eventType, actorUserId, previousStatus, newStatus, comment,
        createdAt⟩) fun _ => rfl }

/-! ## Creating -/

/-- The arguments of `create_approval_request`. -/
structure NewApproval where
  incidentId : Option Nat
  queueId : Option Nat
  playbookExecutionId : Option Nat
  playbookStepIndex : Option Nat
  action : String
  requestedBy : Option Nat
  requestReason : Json
  riskLevel : String
  expiresAt : Option Int
  ttlMinutes : Int

/-- The row `create_approval_request` inserts at `now`. -/
def newApprovalRow (new : NewApproval) (now : Int) (id : Nat) : Request where
  id := id
  incidentId := new.incidentId
  queueId := new.queueId
  playbookExecutionId := new.playbookExecutionId
  playbookStepIndex := new.playbookStepIndex
  requestedBy := new.requestedBy
  status := .pending
  action := strip new.action
  riskLevel := new.riskLevel
  requestReason := new.requestReason
  decisionComment := none
  approvedBy := none
  decidedBy := none
  createdAt := now
  decidedAt := none
  expiresAt := new.expiresAt.getD (now + minutes new.ttlMinutes)

/-- The unique indexes on the active requests of a queued action and of a playbook step. -/
def conflicts (store : Store) (row : Request) : Bool :=
  store.requests.rows.any fun other =>
    other.status.isActive &&
      ((row.queueId.isSome && other.queueId = row.queueId && other.action = row.action) ||
        (row.playbookExecutionId.isSome && row.playbookStepIndex.isSome &&
          other.playbookExecutionId = row.playbookExecutionId &&
          other.playbookStepIndex = row.playbookStepIndex))

/-- The check on `risk_level` and the references of a new row. -/
def referencesHold (refs : References) (row : Request) : Bool :=
  ["medium", "high", "critical"].contains row.riskLevel && row.incidentId.all refs.incident &&
    row.queueId.all refs.queue && row.playbookExecutionId.all refs.execution &&
    row.requestedBy.all refs.user

/-- `create_approval_request`. -/
def createApprovalRequest (store : Store) (refs : References) (new : NewApproval) (now : Int) :
    Except ApprovalError Request × Store :=
  if new.incidentId.isNone && new.queueId.isNone && new.playbookExecutionId.isNone then
    (.error (.value "approval request target required"), store)
  else if strip new.action = "" then (.error (.value "action is required"), store)
  else
    let row := newApprovalRow new now
    let id := store.requests.next
    if !referencesHold refs (row id) || conflicts store (row id) then (.error .integrity, store)
    else
      (.ok (row id),
        insertEvent { store with requests := store.requests.insert row fun _ => rfl } id .created
          new.requestedBy none .pending new.requestReason now)

/-! ## Reading -/

/-- `ORDER BY created_at DESC, id DESC LIMIT 1` -/
def laterOf (a b : Request) : Request :=
  if a.createdAt < b.createdAt ∨ a.createdAt = b.createdAt ∧ a.id ≤ b.id then b else a

def latest : List Request → Option Request
  | [] => none
  | r :: rs => some (rs.foldl laterOf r)

/-- `get_latest_approval_for_queue_action`. -/
def getLatestApprovalForQueueAction (store : Store) (queueId : Nat) (action : String) :
    Option Request :=
  latest (store.requests.rows.filter fun r => r.queueId = some queueId && r.action = action)

/-- What `_materialize_expiration` makes of a row. -/
def expiredRow (now : Int) (r : Request) : Request :=
  { r with toApprovalRequest := expiredRequest r.toApprovalRequest now }

/-- `_materialize_expiration` of a row that was read, and is locked, as `current`. -/
def materializeExpiration (store : Store) (current : Request) (now : Int) :
    Except ApprovalError Request × Store :=
  if current.status ≠ .pending then (.error (.value "approval request is not pending"), store)
  else
    match store.requests.row? current.id with
    | none => (.error .integrity, store)
    | some stored =>
      (.ok (expiredRow now stored),
        insertEvent
          { store with
            requests := store.requests.update current.id (fun _ => true) (expiredRow now)
              fun _ => rfl }
          current.id .expired none (some .pending) .expired (.str "approval request expired") now)

/-- `get_latest_playbook_step_approval_request`; with `materializeExpired` a pending request that
    has run out at `now` is marked expired and returned so. -/
def getLatestPlaybookStepApprovalRequest (store : Store)
    (playbookExecutionId playbookStepIndex : Nat) (materializeExpired : Bool) (now : Int) :
    Except ApprovalError (Option Request) × Store :=
  match latest (store.requests.rows.filter fun r =>
    r.playbookExecutionId = some playbookExecutionId &&
      r.playbookStepIndex = some playbookStepIndex) with
  | none => (.ok none, store)
  | some current =>
    if materializeExpired && current.status = .pending && current.expiresAt ≤ now then
      match materializeExpiration store current now with
      | (.ok expired, store') => (.ok (some expired), store')
      | (.error e, store') => (.error e, store')
    else (.ok (some current), store)

/-- `get_active_playbook_step_approval_request`. -/
def getActivePlaybookStepApprovalRequest (store : Store)
    (playbookExecutionId playbookStepIndex : Nat) : Option Request :=
  (latest (store.requests.rows.filter fun r =>
    r.playbookExecutionId = some playbookExecutionId &&
      r.playbookStepIndex = some playbookStepIndex)).filter fun r => r.status.isActive

/-- `create_playbook_step_approval_request`. -/
def createPlaybookStepApprovalRequest (store : Store) (refs : References)
    (playbookExecutionId playbookStepIndex : Nat) (new : NewApproval) (now : Int) :
    Except ApprovalError Request × Store :=
  match getActivePlaybookStepApprovalRequest store playbookExecutionId playbookStepIndex with
  | some existing => (.ok existing, store)
  | none =>
    createApprovalRequest store refs
      { new with
        incidentId := none
        queueId := none
        playbookExecutionId := some playbookExecutionId
        playbookStepIndex := some playbookStepIndex } now

/-! ## Deciding and expiring -/

/-- The status a verdict leaves. -/
def decidedStatus : Verdict → ApprovalStatus
  | .approve => .approved
  | .deny => .denied

def decidedEvent : Verdict → EventType
  | .approve => .approved
  | .deny => .denied

/-- What a verdict makes of a row. -/
def decidedRow (verdict : Verdict) (actorUserId : Nat) (comment : Option String) (now : Int)
    (r : Request) : Request :=
  { r with
    toApprovalRequest := decidedRequest verdict r.toApprovalRequest actorUserId comment now }

theorem decidedRow_id (verdict : Verdict) (actorUserId : Nat) (comment : Option String) (now : Int)
    (r : Request) : (decidedRow verdict actorUserId comment now r).id = r.id :=
  decidedRequest_id verdict r.toApprovalRequest actorUserId comment now

/-- The form that `approve_request` and `deny_request` share. -/
def decideRequest (verdict : Verdict) (store : Store) (refs : References) (id actorUserId : Nat)
    (comment : Option String) (now : Int) : Except ApprovalError Request × Store :=
  match store.requests.row? id with
  | none => (.error (.value "approval request not found"), store)
  | some current =>
    if current.status ≠ .pending then (.error (.value "approval request is not pending"), store)
    else if current.expiresAt ≤ now then
      match materializeExpiration store current now with
      | (.ok _, store') => (.error (.value "approval request expired"), store')
      | (.error e, store') => (.error e, store')
    else if !refs.user actorUserId then (.error .integrity, store)
    else
      (.ok (decidedRow verdict actorUserId comment now current),
        insertEvent
          { store with
            requests := store.requests.update id (fun _ => true)
              (decidedRow verdict actorUserId comment now)
              (decidedRow_id verdict actorUserId comment now) }
          id (decidedEvent verdict) (some actorUserId) (some .pending) (decidedStatus verdict)
          (optionText comment) now)

/-- `approve_request`. -/
def approveRequest := decideRequest .approve

/-- `deny_request`. -/
def denyRequest := decideRequest .deny

/-- The pending requests that have run out and are not locked elsewhere, longest expired first. -/
def dueRequests (store : Store) (locked : Nat → Bool) (now : Int) : List Request :=
  (store.requests.rows.filter fun r =>
    r.status = .pending && r.expiresAt ≤ now && !locked r.id).insertionSort fun a b =>
      a.expiresAt < b.expiresAt ∨ a.expiresAt = b.expiresAt ∧ a.id ≤ b.id

/-- The loop of `expire_pending_requests`. -/
def expireRows (now : Int) : List Request → Store → Except ApprovalError (List Request × Store)
  | [], store => .ok ([], store)
  | row :: rows, store =>
    match materializeExpiration store row now with
    | (.error e, _) => .error e
    | (.ok expired, store') =>
      (expireRows now rows store').map fun (rest, store'') => (expired :: rest, store'')

/-- `expire_pending_requests`: up to the cap of a hundred. -/
def expirePendingRequests (store : Store) (locked : Nat → Bool) (limit now : Int) :
    Except ApprovalError (List Request) × Store :=
  let cap := (min (max limit 0) 100).toNat
  match expireRows now ((dueRequests store locked now).take cap) store with
  | .ok (expired, store') => (.ok expired, store')
  | .error e => (.error e, store)

/-! ## What a function does -/

/-- The event that closes a request with a status; creating it is the event of `pending`. -/
def closingEvent : ApprovalStatus → EventType
  | .pending => .created
  | .approved => .approved
  | .denied => .denied
  | .expired => .expired

/-- What a closed row says of the decision: an operator decides before the expiry. -/
def DecidedInTime (r : Request) : Prop :=
  r.status = .approved ∨ r.status = .denied →
    ∃ decidedAt decidedBy, r.decidedAt = some decidedAt ∧ decidedAt < r.expiresAt ∧
      r.decidedBy = some decidedBy

/-- What closing keeps of a request. -/
structure KeepsTarget (r r' : Request) : Prop where
  queueId : r'.queueId = r.queueId
  action : r'.action = r.action
  createdAt : r'.createdAt = r.createdAt

/-- One change of the tables: a request is created beside no active one for its target, or a pending
    one is closed, with its event. -/
inductive Change (store : Store) : Store → Prop
  | created (row : Nat → Request) (hrow : ∀ id, (row id).id = id)
      (hpending : ∀ id, (row id).status = .pending)
      (hfree : conflicts store (row store.requests.next) = false) (actorUserId comment now) :
      Change store (insertEvent { store with requests := store.requests.insert row hrow }
        store.requests.next .created actorUserId none .pending comment now)
  | closed {id r} (hr : store.requests.row? id = some r) (hpending : r.status = .pending)
      (close : Request → Request) (hclose : ∀ r, (close r).id = r.id)
      (hkeeps : ∀ r, KeepsTarget r (close r))
      (hstatus : (close r).status ≠ .pending) (hdecided : DecidedInTime (close r))
      (actorUserId comment now) :
      Change store (insertEvent
        { store with requests := store.requests.update id (fun _ => true) close hclose }
        id (closingEvent (close r).status) actorUserId (some .pending) (close r).status comment now)

/-- Some changes, one after another. -/
abbrev Changes : Store → Store → Prop := Relation.ReflTransGen Change

theorem createApprovalRequest_changes (store : Store) (refs : References) (new : NewApproval)
    (now : Int) : Changes store (createApprovalRequest store refs new now).2 := by
  unfold createApprovalRequest
  split
  · exact .refl
  · split
    · exact .refl
    · dsimp only
      split
      · exact .refl
      · next hfree =>
        rw [Bool.or_eq_true, not_or, Bool.not_eq_true (conflicts ..)] at hfree
        exact .single (.created _ _ (fun _ => rfl) hfree.2 _ _ _)

theorem createPlaybookStepApprovalRequest_changes (store : Store) (refs : References)
    (playbookExecutionId playbookStepIndex : Nat) (new : NewApproval) (now : Int) :
    Changes store (createPlaybookStepApprovalRequest store refs playbookExecutionId
      playbookStepIndex new now).2 := by
  unfold createPlaybookStepApprovalRequest
  split
  · exact .refl
  · exact createApprovalRequest_changes ..

/-- What materializing the expiration of a stored row does. -/
theorem materializeExpiration_stored {store : Store} {current : Request}
    (hstored : store.requests.row? current.id = some current) (hpending : current.status = .pending)
    (now : Int) :
    (∃ expired, (materializeExpiration store current now).1 = .ok expired) ∧
      Change store (materializeExpiration store current now).2 ∧
      ∀ id, id ≠ current.id →
        (materializeExpiration store current now).2.requests.row? id =
          store.requests.row? id := by
  unfold materializeExpiration
  rw [if_neg (not_not.mpr hpending)]
  simp only [hstored]
  refine ⟨⟨_, rfl⟩, ?_, ?_⟩
  · refine .closed hstored hpending (expiredRow now) (fun _ => rfl) (fun _ => ⟨rfl, rfl, rfl⟩)
      ?_ ?_ _ _ _
    · intro h
      cases h
    · rintro (h | h) <;> cases h
  · exact fun id hid => Table.update_row?_of_ne store.requests _ (expiredRow now) (fun _ => rfl) hid

theorem laterOf_eq (a b : Request) : laterOf a b = a ∨ laterOf a b = b := by
  unfold laterOf
  split
  · exact .inr rfl
  · exact .inl rfl

theorem latest_mem {rs : List Request} {r : Request} (h : latest rs = some r) : r ∈ rs := by
  cases rs with
  | nil => cases h
  | cons first rest =>
    cases h
    induction rest generalizing first with
    | nil => exact List.mem_singleton_self _
    | cons next rest ih =>
      rw [List.foldl_cons]
      rcases List.mem_cons.mp (ih (laterOf first next)) with heq | hmem
      · rw [heq]
        rcases laterOf_eq first next with hl | hl <;> simp [hl]
      · exact List.mem_cons_of_mem _ (List.mem_cons_of_mem _ hmem)

theorem getLatestPlaybookStepApprovalRequest_changes (store : Store)
    (playbookExecutionId playbookStepIndex : Nat) (materializeExpired : Bool) (now : Int) :
    Changes store (getLatestPlaybookStepApprovalRequest store playbookExecutionId playbookStepIndex
      materializeExpired now).2 := by
  unfold getLatestPlaybookStepApprovalRequest
  split
  · exact .refl
  · next current hlatest =>
    have hstored := Table.mem_rows.mp (List.mem_filter.mp (latest_mem hlatest)).1
    split
    · next hdue =>
      have hpending : current.status = .pending := by simp_all
      obtain ⟨-, hchange, -⟩ := materializeExpiration_stored hstored hpending now
      split <;> next heq => exact .single (by rwa [heq] at hchange)
    · exact .refl

theorem decideRequest_changes (verdict : Verdict) (store : Store) (refs : References)
    (id actorUserId : Nat) (comment : Option String) (now : Int) :
    Changes store (decideRequest verdict store refs id actorUserId comment now).2 := by
  unfold decideRequest
  split
  · exact .refl
  · next current hrow =>
    have hid : current.id = id := store.requests.keyed id current hrow
    split
    · exact .refl
    · next hpending =>
      rw [not_not] at hpending
      split
      · obtain ⟨-, hchange, -⟩ := materializeExpiration_stored (hid ▸ hrow) hpending now
        split <;> next heq => exact .single (by rwa [heq] at hchange)
      · next hexpires =>
        split
        · exact .refl
        · refine .single ?_
          cases verdict with
          | approve =>
            refine .closed hrow hpending (decidedRow .approve actorUserId comment now) _
              (fun _ => ⟨rfl, rfl, rfl⟩) ?_ ?_ _ _ _
            · intro h
              cases h
            · exact fun _ => ⟨now, actorUserId, rfl, not_le.mp hexpires, rfl⟩
          | deny =>
            refine .closed hrow hpending (decidedRow .deny actorUserId comment now) _
              (fun _ => ⟨rfl, rfl, rfl⟩) ?_ ?_ _ _ _
            · intro h
              cases h
            · exact fun _ => ⟨now, actorUserId, rfl, not_le.mp hexpires, rfl⟩

/-- The loop over stored pending rows closes each of them once. -/
theorem expireRows_changes (now : Int) {rows : List Request} {store : Store}
    (hstored : ∀ r ∈ rows, store.requests.row? r.id = some r ∧ r.status = .pending)
    (hdistinct : rows.Pairwise fun r r' => r.id ≠ r'.id) :
    ∃ expired store', expireRows now rows store = .ok (expired, store') ∧ Changes store store' := by
  induction rows generalizing store with
  | nil => exact ⟨[], store, rfl, .refl⟩
  | cons row rows ih =>
    obtain ⟨hrow, hpending⟩ := hstored row List.mem_cons_self
    obtain ⟨⟨expired, hok⟩, hchange, hframe⟩ := materializeExpiration_stored hrow hpending now
    obtain ⟨hne, hrest⟩ := List.pairwise_cons.mp hdistinct
    have hstored' : ∀ r ∈ rows, (materializeExpiration store row now).2.requests.row? r.id = some r ∧
        r.status = .pending := by
      intro r hr
      rw [hframe r.id (hne r hr).symm]
      exact hstored r (List.mem_cons_of_mem _ hr)
    obtain ⟨rest, store', hrun, hchanges⟩ := ih hstored' hrest
    refine ⟨expired :: rest, store', ?_, .head hchange hchanges⟩
    rw [expireRows]
    have hpair : materializeExpiration store row now =
        (.ok expired, (materializeExpiration store row now).2) := by rw [← hok]
    rw [hpair]
    simp only [hrun]
    rfl

theorem expirePendingRequests_changes (store : Store) (locked : Nat → Bool) (limit now : Int) :
    Changes store (expirePendingRequests store locked limit now).2 := by
  have hmem {r : Request} (hr : r ∈ dueRequests store locked now) :
      store.requests.row? r.id = some r ∧ r.status = .pending := by
    rw [dueRequests, List.mem_insertionSort, List.mem_filter] at hr
    exact ⟨Table.mem_rows.mp hr.1, by simp_all⟩
  have hdistinct : (dueRequests store locked now).Pairwise fun r r' => r.id ≠ r'.id :=
    ((List.perm_insertionSort _ _).pairwise_iff fun h => Ne.symm h).mpr
      (store.requests.rows_distinct.filter _)
  unfold expirePendingRequests
  dsimp only
  obtain ⟨expired, store', hrun, hchanges⟩ := expireRows_changes now
    (fun r hr => hmem (List.mem_of_mem_take hr))
    (hdistinct.sublist (List.take_sublist (min (max limit 0) 100).toNat _))
  rw [hrun]
  exact hchanges

/-! ## Queue part -/

/-- Where the rows change but keep their order, the latest one stays the latest. -/
theorem latest_map {f : Request → Request} (hid : ∀ r, (f r).id = r.id)
    (hcreated : ∀ r, (f r).createdAt = r.createdAt) (rs : List Request) :
    latest (rs.map f) = (latest rs).map f := by
  have hlater (a b : Request) : laterOf (f a) (f b) = f (laterOf a b) := by
    unfold laterOf
    rw [hcreated, hcreated, hid, hid]
    split <;> rfl
  cases rs with
  | nil => rfl
  | cons first rest =>
    simp only [latest, List.map_cons, List.foldl_map, Option.map_some]
    rw [List.foldl_hom f hlater]

/-- An approved request that is the latest of a queued action stays so: while it is active no other
    one is created for the action. -/
theorem change_latestApproved {store store' : Store} (hchange : Change store store')
    {queueId : Nat} {action : String} {r : Request}
    (hlatest : getLatestApprovalForQueueAction store queueId action = some r)
    (happroved : r.status = .approved) :
    getLatestApprovalForQueueAction store' queueId action = some r := by
  have hmem := List.mem_filter.mp (latest_mem hlatest)
  simp only [Bool.and_eq_true, decide_eq_true_eq] at hmem
  obtain ⟨hrows, hqueue, haction⟩ := hmem
  cases hchange with
  | created row hrow hpending hfree actorUserId comment now =>
    have hother : ¬((row store.requests.next).queueId = some queueId ∧
        (row store.requests.next).action = action) := by
      rintro ⟨hqueue', haction'⟩
      have hconflict : conflicts store (row store.requests.next) = true := by
        refine List.any_eq_true.mpr ⟨r, hrows, ?_⟩
        simp [happroved, ApprovalStatus.isActive, hqueue, hqueue', haction, haction']
      rw [hfree] at hconflict
      cases hconflict
    unfold getLatestApprovalForQueueAction insertEvent
    rw [Table.insert_rows, List.filter_append]
    simpa [hother, getLatestApprovalForQueueAction] using hlatest
  | @closed id r₀ hr₀ hpending close hclose hkeeps _ _ actorUserId comment now =>
    have hne : r.id ≠ id := by
      rintro rfl
      obtain rfl : r = r₀ := Option.some_injective _ ((Table.mem_rows.mp hrows).symm.trans hr₀)
      rw [happroved] at hpending
      cases hpending
    unfold getLatestApprovalForQueueAction at hlatest ⊢
    unfold insertEvent
    -- closing a row leaves its target and its place among the rows
    rw [Table.update_rows, List.filter_map, latest_map, List.filter_congr, hlatest]
    · simp [hne]
    · intro r' _
      by_cases hid : r'.id = id <;> simp [hid, (hkeeps r').queueId, (hkeeps r').action]
    · intro r'
      split <;> simp [hclose]
    · intro r'
      split <;> simp [(hkeeps r').createdAt]

theorem changes_latestApproved {store store' : Store} (hchanges : Changes store store')
    {queueId : Nat} {action : String} {r : Request}
    (hlatest : getLatestApprovalForQueueAction store queueId action = some r)
    (happroved : r.status = .approved) :
    getLatestApprovalForQueueAction store' queueId action = some r := by
  induction hchanges with
  | refl => exact hlatest
  | tail _ hchange ih => exact change_latestApproved hchange ih happroved

/-! ## Playbook part -/

/-- The requests as playbook passes see them. -/
def Store.playbook (store : Store) : Table ApprovalRequest ApprovalRequest.id where
  next := store.requests.next
  row? id := (store.requests.row? id).map Request.toApprovalRequest
  fresh id h := by rw [store.requests.fresh id h]; rfl
  keyed id r h := by
    obtain ⟨r', hr', rfl⟩ := Option.map_eq_some_iff.mp h
    exact store.requests.keyed id r' hr'

/-- An update of whole rows is the update of what playbook passes see of them. -/
theorem update_playbook (store : Store) (events : Table RequestEvent RequestEvent.id) (id : Nat)
    (f : Request → Request) (hf : ∀ r, (f r).id = r.id) (guard : ApprovalRequest → Bool)
    (g : ApprovalRequest → ApprovalRequest) (hg : ∀ r, (g r).id = r.id)
    (hguard : ∀ r, store.requests.row? id = some r → guard r.toApprovalRequest = true)
    (hfg : ∀ r, (f r).toApprovalRequest = g r.toApprovalRequest) (j : Nat) :
    (Store.playbook ⟨store.requests.update id (fun _ => true) f hf, events⟩).row? j =
      (store.playbook.update id guard g hg).row? j := by
  simp only [Store.playbook, Table.update_row?]
  split
  · cases hrow : store.requests.row? id with
    | none => rfl
    | some r => simp [hguard r hrow, hfg]
  · rfl

theorem materializeExpiration_playbook {store : Store} {db : Db}
    (hdb : db.approvals = store.playbook) {current : Request}
    (hstored : store.requests.row? current.id = some current) (hpending : current.status = .pending)
    (now : Int) (j : Nat) :
    (materializeExpiration store current now).2.playbook.row? j =
      (ApprovalStore.materializeExpiration db current.id now).2.approvals.row? j := by
  unfold materializeExpiration ApprovalStore.materializeExpiration updateRequest
  rw [if_neg (not_not.mpr hpending), hdb]
  simp only [hstored]
  refine update_playbook store _ current.id (expiredRow now) (fun _ => rfl) _
    (fun r => expiredRequest r now) (fun _ => rfl) (fun r hr => ?_) (fun _ => rfl) j
  rw [hstored] at hr
  cases hr
  exact decide_eq_true hpending

/-- On what playbook passes see, a decision by a known user is the one of `ApprovalStore`. -/
theorem decideRequest_playbook {store : Store} {db : Db} (hdb : db.approvals = store.playbook)
    (verdict : Verdict) {refs : References} {actorUserId : Nat}
    (hactor : refs.user actorUserId = true) (id : Nat) (comment : Option String) (now : Int)
    (j : Nat) :
    (decideRequest verdict store refs id actorUserId comment now).2.playbook.row? j =
      (ApprovalStore.decideRequest verdict db id actorUserId comment now).2.approvals.row? j := by
  have hseen : db.approvals.row? id =
      (store.requests.row? id).map Request.toApprovalRequest := by
    rw [hdb]
    rfl
  cases hrow : store.requests.row? id with
  | none =>
    simp only [decideRequest, ApprovalStore.decideRequest, hseen, hrow, Option.map_none]
    rw [hdb]
  | some current =>
    have hid : current.id = id := store.requests.keyed id current hrow
    by_cases hpending : current.status = .pending
    · by_cases hexpired : current.expiresAt ≤ now
      · have hmat := materializeExpiration_playbook hdb (hid ▸ hrow) hpending now j
        rw [hid] at hmat
        simp only [decideRequest, ApprovalStore.decideRequest, hseen, hrow, hpending, hexpired,
          Option.map_some, ne_eq, not_true_eq_false, if_false, if_true]
        split <;> next heq => rwa [heq] at hmat
      · have hreturning : db.approvals.returning id (fun _ => true)
            (fun r => decidedRequest verdict r actorUserId comment now) =
              some (decidedRequest verdict current.toApprovalRequest actorUserId comment now) := by
          simp [Table.returning, hseen, hrow]
        simp only [decideRequest, ApprovalStore.decideRequest, updateRequest, hreturning, hseen,
          hrow, hpending, hexpired, hactor, Option.map_some, ne_eq, not_true_eq_false, if_false,
          Bool.not_true, Bool.false_eq_true]
        rw [hdb]
        exact update_playbook store _ id _ (decidedRow_id verdict actorUserId comment now) _ _ _
          (fun _ _ => rfl) (fun _ => rfl) j
    · simp only [decideRequest, ApprovalStore.decideRequest, hseen, hrow, hpending,
        Option.map_some, ne_eq, not_false_eq_true, if_true]
      rw [hdb]

end SiemDashboard.ApprovalRequests
