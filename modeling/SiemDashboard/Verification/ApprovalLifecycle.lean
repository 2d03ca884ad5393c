import SiemDashboard.Core.ApprovalRequests
import SiemDashboard.Lib.Runs

/-!
# Lifecycle of approval requests

A request is created pending and closed at most once, by an operator in time or by its expiry, and
the events tell exactly that.

* **Operations** — `Op`, `step`.
* **History** — `history`: the events of a request; `trailOf`: what they have to be for its status.
* **Invariant** — `Kept`, preserved by every `Change`.
* **Result** — `lifecycle`.
-/

namespace SiemDashboard.ApprovalLifecycle

open ApprovalRequests ApprovalStore Tables

/-! ## Operations -/

/-- The operations on approval requests, each with the time it reads. -/
inductive Op where
  | create (refs : References) (new : NewApproval) (now : Int)
  | createForStep (refs : References) (playbookExecutionId playbookStepIndex : Nat)
      (new : NewApproval) (now : Int)
  | readStep (playbookExecutionId playbookStepIndex : Nat) (materializeExpired : Bool) (now : Int)
  | decide (verdict : Verdict) (refs : References) (id actorUserId : Nat) (comment : Option String)
      (now : Int)
  | expirePending (locked : Nat → Bool) (limit now : Int)

/-- One operation. -/
def step (store : Store) : Op → Store
  | .create refs new now => (createApprovalRequest store refs new now).2
  | .createForStep refs executionId stepIndex new now =>
    (createPlaybookStepApprovalRequest store refs executionId stepIndex new now).2
  | .readStep executionId stepIndex materializeExpired now =>
    (getLatestPlaybookStepApprovalRequest store executionId stepIndex materializeExpired now).2
  | .decide verdict refs id actorUserId comment now =>
    (decideRequest verdict store refs id actorUserId comment now).2
  | .expirePending locked limit now => (expirePendingRequests store locked limit now).2

/-- Every operation is a sequence of changes. -/
theorem step_changes (store : Store) (op : Op) : Changes store (step store op) := by
  cases op with
  | create refs new now => exact createApprovalRequest_changes ..
  | createForStep refs executionId stepIndex new now =>
    exact createPlaybookStepApprovalRequest_changes ..
  | readStep executionId stepIndex materializeExpired now =>
    exact getLatestPlaybookStepApprovalRequest_changes ..
  | decide verdict refs id actorUserId comment now => exact decideRequest_changes ..
  | expirePending locked limit now => exact expirePendingRequests_changes ..

/-! ## History -/

/-- The events of a request, oldest first. -/
def history (store : Store) (id : Nat) : List RequestEvent :=
  store.events.rows.filter fun e => e.approvalRequestId = id

/-- What an event says. -/
def mark (e : RequestEvent) : EventType × Option ApprovalStatus × ApprovalStatus :=
  (e.eventType, e.previousStatus, e.newStatus)

/-- The event that closed a request with the status; none while it is pending. -/
def closingTrail : ApprovalStatus → List (EventType × Option ApprovalStatus × ApprovalStatus)
  | .pending => []
  | status => [(closingEvent status, some .pending, status)]

/-- The history of a request with the status. -/
def trailOf (status : ApprovalStatus) : List (EventType × Option ApprovalStatus × ApprovalStatus) :=
  (.created, none, .pending) :: closingTrail status

section Insert

variable (store : Store) (requests : Table Request fun r => r.id) (id : Nat) (eventType : EventType)
  (actorUserId : Option Nat) (previousStatus : Option ApprovalStatus) (newStatus : ApprovalStatus)
  (comment : Python.Json) (now : Int)

/-- An event extends the history of its request. -/
theorem history_insertEvent_self :
    (history (insertEvent ⟨requests, store.events⟩ id eventType actorUserId previousStatus newStatus
      comment now) id).map mark =
      (history store id).map mark ++ [(eventType, previousStatus, newStatus)] := by
  unfold history insertEvent
  rw [Table.insert_rows]
  simp [mark]

theorem history_insertEvent_of_ne {j : Nat} (hj : j ≠ id) :
    history (insertEvent ⟨requests, store.events⟩ id eventType actorUserId previousStatus newStatus
      comment now) j = history store j := by
  unfold history insertEvent
  rw [Table.insert_rows]
  simp [Ne.symm hj]

end Insert

/-! ## Invariant -/

/-- Every request has the history of its status, every event belongs to a request, and operators
    decided in time. -/
structure Kept (store : Store) : Prop where
  trail : ∀ id r, store.requests.row? id = some r → (history store id).map mark = trailOf r.status
  known : ∀ id, store.requests.row? id = none → history store id = []
  decided : ∀ id r, store.requests.row? id = some r → DecidedInTime r

theorem kept_empty : Kept .empty :=
  ⟨fun _ _ => nofun, fun _ _ => rfl, fun _ _ => nofun⟩

/-- A closed request stays as it is. -/
def Settled (store store' : Store) : Prop :=
  ∀ id r, store.requests.row? id = some r → r.status ≠ .pending →
    store'.requests.row? id = some r

theorem closingTrail_of_ne {status : ApprovalStatus} (h : status ≠ .pending) :
    closingTrail status = [(closingEvent status, some .pending, status)] := by
  cases status with
  | pending => exact absurd rfl h
  | approved => rfl
  | denied => rfl
  | expired => rfl

theorem change_kept {store store' : Store} (h : Kept store) (hchange : Change store store') :
    Kept store' := by
  cases hchange with
  | created row hrow hpending _ actorUserId comment now =>
    have hinsert (id : Nat) := Table.insert_row? store.requests row hrow id
    refine ⟨?_, ?_, ?_⟩
    · intro id r hr
      rcases eq_or_ne id store.requests.next with rfl | hid
      · obtain rfl : row store.requests.next = r := by simpa [insertEvent, hinsert] using hr
        rw [history_insertEvent_self, h.known _ (store.requests.fresh _ le_rfl), hpending]
        rfl
      · rw [history_insertEvent_of_ne _ _ _ _ _ _ _ _ _ hid]
        exact h.trail id r (by simpa [insertEvent, hinsert, hid] using hr)
    · intro id hr
      have hid : id ≠ store.requests.next := by
        rintro rfl
        simp [insertEvent, hinsert] at hr
      rw [history_insertEvent_of_ne _ _ _ _ _ _ _ _ _ hid]
      exact h.known id (by simpa [insertEvent, hinsert, hid] using hr)
    · intro id r hr
      rcases eq_or_ne id store.requests.next with rfl | hid
      · obtain rfl : row store.requests.next = r := by simpa [insertEvent, hinsert] using hr
        rintro (hstatus | hstatus) <;> rw [hpending] at hstatus <;> cases hstatus
      · exact h.decided id r (by simpa [insertEvent, hinsert, hid] using hr)
  | @closed id r hr hpending close hclose _ hstatus hdecided actorUserId comment now =>
    have hupdate (j : Nat) := Table.update_row? store.requests id (fun _ => true) close hclose j
    refine ⟨?_, ?_, ?_⟩
    · intro j r' hr'
      rcases eq_or_ne j id with rfl | hj
      · obtain rfl : close r = r' := by simpa [insertEvent, hupdate, hr] using hr'
        rw [history_insertEvent_self, h.trail j r hr, hpending, trailOf, trailOf,
          closingTrail_of_ne hstatus]
        rfl
      · rw [history_insertEvent_of_ne _ _ _ _ _ _ _ _ _ hj]
        exact h.trail j r' (by simpa [insertEvent, hupdate, hj] using hr')
    · intro j hj'
      have hj : j ≠ id := by
        rintro rfl
        simp [insertEvent, hupdate, hr] at hj'
      rw [history_insertEvent_of_ne _ _ _ _ _ _ _ _ _ hj]
      exact h.known j (by simpa [insertEvent, hupdate, hj] using hj')
    · intro j r' hr'
      rcases eq_or_ne j id with rfl | hj
      · obtain rfl : close r = r' := by simpa [insertEvent, hupdate, hr] using hr'
        exact hdecided
      · exact h.decided j r' (by simpa [insertEvent, hupdate, hj] using hr')

theorem change_settled {store store' : Store} (hchange : Change store store') :
    Settled store store' := by
  intro id r hr hstatus
  cases hchange with
  | created row hrow hpending _ actorUserId comment now =>
    exact Table.insert_row?_of_some store.requests row hrow hr
  | @closed j r' hr' hpending close hclose _ _ _ actorUserId comment now =>
    have hne : id ≠ j := by
      rintro rfl
      obtain rfl : r = r' := Option.some_injective _ (hr.symm.trans hr')
      exact hstatus hpending
    exact (Table.update_row?_of_ne store.requests _ close hclose hne).trans hr

/-! ## Result -/

theorem changes_kept {store store' : Store} (h : Kept store) (hchanges : Changes store store') :
    Kept store' := by
  induction hchanges with
  | refl => exact h
  | tail _ hchange ih => exact change_kept ih hchange

theorem changes_settled {store store' : Store} (hchanges : Changes store store') :
    Settled store store' := by
  induction hchanges with
  | refl => exact fun _ _ hr _ => hr
  | tail _ hchange ih =>
    intro id r hr hstatus
    exact change_settled hchange id r (ih id r hr hstatus) hstatus

/-- What the events and the row of a request say. -/
structure Lawful (store : Store) (r : Request) : Prop where
  created : ((history store r.id).filter fun e => e.eventType = .created).length = 1
  closed : ((history store r.id).filter fun e => e.eventType ≠ .created).length ≤ 1
  agrees : ∀ e ∈ history store r.id, e.eventType ≠ .created → e.newStatus = r.status
  decided : DecidedInTime r

theorem lawful_of_kept {store : Store} (h : Kept store) {r : Request}
    (hr : r ∈ store.requests.rows) : Lawful store r := by
  have hrow := Table.mem_rows.mp hr
  obtain ⟨e, es, hhistory, he, hes⟩ := List.map_eq_cons_iff.mp (h.trail r.id r hrow)
  have hcreated : e.eventType = .created := congrArg Prod.fst he
  -- the later events are none or the closing one
  have hclosing : es = [] ∨ ∃ e', es = [e'] ∧ e'.eventType ≠ .created ∧ e'.newStatus = r.status := by
    cases hstatus : r.status with
    | pending =>
      rw [hstatus] at hes
      exact .inl (List.map_eq_nil_iff.mp hes)
    | approved | denied | expired =>
      rw [hstatus] at hes
      obtain ⟨e', rfl, he'⟩ := List.map_eq_singleton_iff.mp hes
      simp only [mark, closingEvent, Prod.mk.injEq] at he'
      exact .inr ⟨e', rfl, by simp [he'.1], he'.2.2⟩
  rcases hclosing with rfl | ⟨e', rfl, hclosed, hagrees⟩
  · refine ⟨by simp [hhistory, hcreated], by simp [hhistory, hcreated], ?_, h.decided _ r hrow⟩
    simp [hhistory, hcreated]
  · refine ⟨by simp [hhistory, hcreated, hclosed], by simp [hhistory, hcreated, hclosed], ?_,
      h.decided _ r hrow⟩
    simp [hhistory, hcreated, hagrees]

/-- **The lifecycle of approval requests.**  After any operations at any times, the events of every
    request are one creation and at most one closing with its stored status, an approved or denied
    request was decided before its expiry by a recorded operator, and whatever operations follow, a
    closed request stays as it is. -/
theorem lifecycle (ops more : List Op) :
    (∀ r ∈ (Runs.after step .empty ops).requests.rows, Lawful (Runs.after step .empty ops) r) ∧
      Settled (Runs.after step .empty ops) (Runs.after step .empty (ops ++ more)) := by
  have hall : Runs.Along step (fun _ _ => True) .empty ops :=
    Runs.along_of_forall (fun _ _ => trivial) _ ops
  constructor
  · intro r hr
    exact lawful_of_kept (Runs.invariant (fun s op hs _ => changes_kept hs (step_changes s op))
      kept_empty hall) hr
  · have hmore : Changes (Runs.after step Store.empty ops)
        (Runs.after step (Runs.after step Store.empty ops) more) :=
      Runs.related (fun _ => .refl) (fun _ _ _ => .trans) step_changes _ more
    rw [Runs.after_append]
    exact changes_settled hmore

end SiemDashboard.ApprovalLifecycle
