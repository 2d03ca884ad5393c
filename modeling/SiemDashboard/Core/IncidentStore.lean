import Mathlib.Algebra.GroupWithZero.Nat
import SiemDashboard.Core.ResponseCommandService
import SiemDashboard.Lib.Runs

/-!
# Incidents

`core/incident_store.py`: the incidents, the alerts linked to them, and their way from open to
closed.

* **Tables** — `Incident`, `IncidentDb`; `Surroundings`: what the other tables hold.
* **Creation** — `createIncident`, `linkAlertToIncident`, `maybeUpgradeIncidentSeverity`,
  `maybeCreateOrLinkIncident`.
* **Status** — `allowedStatusTransitions`, `updateIncidentStatus`.
* **Auto-close** — `autoCloseResolvedP3IncidentsForAlert`.
* **System** — `IncidentOp`, `stepIncident`.
* **What an operation does** — `Evolves`: how a row comes out of an operation; `autoCloseEach_row`,
  `stepIncident_evolution`.
-/

namespace SiemDashboard.IncidentStore

open Python Tables
open ResponseCommands (IncidentStatus IncidentAlert latestBy)

/-! ## Tables -/

/-- A row of `incidents`. -/
structure Incident where
  id : Nat
  title : String
  severity : String
  priority : String
  status : IncidentStatus
  sourceIp : Option String
  assignedTo : Option Nat
  createdAt : Int
  resolvedAt : Option Int

/-- What a row of `recon_activities` says about incidents. -/
structure ReconIncident where
  id : Nat
  relatedIncidentId : Option Nat

/-- The tables the store works on. -/
structure IncidentDb where
  incidents : Table Incident Incident.id
  incidentAlerts : List IncidentAlert
  reconActivities : List ReconIncident

def IncidentDb.empty : IncidentDb := ⟨.empty, [], []⟩

/-- What an operation finds besides: the time, and the rows of the other tables. -/
structure Surroundings where
  now : Int
  /-- `host(text::inet)`, none where the text is no address. -/
  inet : String → Option String
  alertExists : Nat → Bool
  alertUnresolved : Nat → Bool
  /-- Pending approval requests of an incident. -/
  pendingApprovals : Nat → Nat
  /-- Queue rows of an alert that are pending, running or awaiting approval. -/
  activeQueueRows : Nat → Nat
  /-- Playbook executions of an incident that are pending, running or awaiting approval. -/
  activePlaybooks : Nat → Nat

/-! ## Creation -/

/-- `SEVERITY_TO_PRIORITY`. -/
def severityToPriority : List (String × String) := [("CRITICAL", "P1"), ("HIGH", "P2")]

/-- The priorities that the table admits. -/
def priorities : List String := ["P1", "P2", "P3", "P4"]

/-- The row that `create_incident` inserts. -/
def newIncident (title severity priority sourceIp : String) (now : Int) (id : Nat) : Incident where
  id := id
  title := title
  severity := severity
  priority := priority
  status := .open
  sourceIp := some sourceIp
  assignedTo := none
  createdAt := now
  resolvedAt := none

theorem newIncident_id (title severity priority sourceIp : String) (now : Int) (id : Nat) :
    (newIncident title severity priority sourceIp now id).id = id := rfl

/-- The given priority, or that of the severity. -/
def chosenPriority (priority : Option String) (severity : String) : String :=
  match priority.filter (· ≠ "") with
  | some priority => priority
  | none => (severityToPriority.lookup (upper severity)).getD "P2"

/-- `create_incident`. -/
def createIncident (w : Surroundings) (db : IncidentDb) (title severity sourceIp : String)
    (priority : Option String) : Except String (Nat × IncidentDb) :=
  let priority := chosenPriority priority severity
  match w.inet sourceIp with
  | none => .error "invalid input syntax for type inet"
  | some host =>
    if priorities.contains priority = false then .error "violates check constraint"
    else
      .ok (db.incidents.next, { db with
        incidents := db.incidents.insert (newIncident title severity priority host w.now)
          (newIncident_id title severity priority host w.now) })

/-- `link_alert_to_incident`. -/
def linkAlertToIncident (w : Surroundings) (db : IncidentDb) (incidentId alertId : Nat) :
    Except String IncidentDb :=
  if (db.incidents.row? incidentId).isNone || !w.alertExists alertId then
    .error "violates foreign key constraint"
  else if db.incidentAlerts.any fun l => l.incidentId = incidentId && l.alertId = alertId then
    .ok db
  else .ok { db with incidentAlerts := db.incidentAlerts ++ [⟨incidentId, alertId, w.now⟩] }

/-- `status IN ('open', 'investigating')`. -/
def Incident.isOpen (i : Incident) : Bool := i.status = .open || i.status = .investigating

/-- The default of `dedup_window_minutes`, in microseconds. -/
def dedupWindow : Int := 60 * 60000000

/-- `find_open_incident_by_source_ip`. -/
def findOpenIncidentBySourceIp (w : Surroundings) (db : IncidentDb) (sourceIp : String) :
    Except String (Option Incident) :=
  match w.inet sourceIp with
  | none => .error "invalid input syntax for type inet"
  | some host => .ok (latestBy Incident.createdAt (db.incidents.rows.filter fun i =>
      i.sourceIp = some host && i.isOpen && w.now - dedupWindow ≤ i.createdAt))

/-- `_load_recon_activity_incident`. -/
def loadReconActivityIncident (db : IncidentDb) (reconActivityId : Nat) : Option Incident := do
  let activity ← db.reconActivities.find? fun a => a.id = reconActivityId
  let incidentId ← activity.relatedIncidentId
  (db.incidents.row? incidentId).filter Incident.isOpen

/-- `_set_recon_activity_incident`. -/
def setReconActivityIncident (db : IncidentDb) (reconActivityId incidentId : Nat) : IncidentDb :=
  { db with
    reconActivities := db.reconActivities.map fun a =>
      if a.id = reconActivityId then { a with relatedIncidentId := some incidentId } else a }

/-- `SET severity = 'CRITICAL', priority = 'P1'`. -/
def Incident.upgrade (i : Incident) : Incident :=
  { i with severity := "CRITICAL", priority := "P1" }

theorem Incident.upgrade_id (i : Incident) : i.upgrade.id = i.id := rfl

/-- `_maybe_upgrade_incident_severity`. -/
def maybeUpgradeIncidentSeverity (db : IncidentDb) (incident : Incident)
    (newAlertSeverity : String) : IncidentDb :=
  if upper newAlertSeverity ≠ "CRITICAL" then db
  else if upper incident.severity = "CRITICAL" then db
  else
    { db with
      incidents := db.incidents.update incident.id (fun i => upper i.severity ≠ "CRITICAL")
        Incident.upgrade Incident.upgrade_id }

/-- What `_build_incident_policy` makes of an alert. -/
structure IncidentPolicy where
  eligible : Bool
  priority : String
  title : String
  groupByReconActivity : Bool
  reconActivityId : Option Nat

/-- The activity whose incident the alert shares. -/
def IncidentPolicy.sharedActivity? (policy : IncidentPolicy) : Option Nat :=
  if policy.groupByReconActivity then policy.reconActivityId else none

/-- The incident that an alert belongs to, if there is one. -/
def existingIncident (w : Surroundings) (db : IncidentDb) (policy : IncidentPolicy)
    (sourceIp : String) : Except String (Option Incident) :=
  match policy.sharedActivity?.bind (loadReconActivityIncident db) with
  | some incident => .ok (some incident)
  | none => findOpenIncidentBySourceIp w db sourceIp

/-- `maybe_create_or_link_incident`, with the policy for the alert. -/
def maybeCreateOrLinkIncident (w : Surroundings) (db : IncidentDb) (policy : IncidentPolicy)
    (alertId : Nat) (severity sourceIp : String) : Except String IncidentDb := do
  if policy.eligible = false then .ok db
  else
    match ← existingIncident w db policy sourceIp with
    | some incident =>
      let db ← linkAlertToIncident w db incident.id alertId
      .ok (maybeUpgradeIncidentSeverity db incident (upper severity))
    | none =>
      let (incidentId, db) ←
        createIncident w db policy.title severity sourceIp (some policy.priority)
      let db ← linkAlertToIncident w db incidentId alertId
      .ok (match policy.sharedActivity? with
        | some activityId => setReconActivityIncident db activityId incidentId
        | none => db)

/-! ## Status -/

def statusText : IncidentStatus → String
  | .open => "open"
  | .investigating => "investigating"
  | .resolved => "resolved"
  | .closed => "closed"

/-- The status of a text: `new_status in ALL_INCIDENT_STATUSES`. -/
def readStatus? : String → Option IncidentStatus
  | "open" => some .open
  | "investigating" => some .investigating
  | "resolved" => some .resolved
  | "closed" => some .closed
  | _ => none

/-- `ALLOWED_STATUS_TRANSITIONS`. -/
def allowedStatusTransitions : IncidentStatus → List IncidentStatus
  | .open => [.investigating, .resolved, .closed]
  | .investigating => [.resolved, .closed]
  | .resolved => [.closed, .open]
  | .closed => []

/-- The text of a refused transition. -/
def invalidTransition (current : IncidentStatus) (newStatus : String) : String :=
  "invalid status transition: " ++ statusText current ++ " -> " ++ newStatus

/-- The update of a transition: only a resolution writes the time. -/
def Incident.moveTo (status : IncidentStatus) (now : Int) (i : Incident) : Incident :=
  if status = .resolved then { i with status := status, resolvedAt := some now }
  else { i with status := status }

theorem Incident.moveTo_id (status : IncidentStatus) (now : Int) (i : Incident) :
    (i.moveTo status now).id = i.id := by
  unfold Incident.moveTo
  split <;> rfl

/-- `update_incident_status`. -/
def updateIncidentStatus (w : Surroundings) (db : IncidentDb) (incidentId : Nat)
    (newStatus : String) : Except String IncidentDb :=
  match db.incidents.row? incidentId with
  | none => .error "incident not found"
  | some incident =>
    match readStatus? newStatus with
    | none => .error (invalidTransition incident.status newStatus)
    | some status =>
      if (allowedStatusTransitions incident.status).contains status = false then
        .error (invalidTransition incident.status newStatus)
      else
        .ok { db with
          incidents := db.incidents.update incidentId (fun _ => true)
            (Incident.moveTo status w.now) (Incident.moveTo_id status w.now) }

/-! ## Auto-close -/

/-- The incidents of an alert that may be closed: those of priority P3 that are not closed. -/
def autoCloseCandidates (db : IncidentDb) (alertId : Nat) : List Incident :=
  db.incidents.rows.filter fun i =>
    db.incidentAlerts.any (fun l => l.incidentId = i.id && l.alertId = alertId) &&
      i.priority = "P3" && i.status ≠ .closed

def linkedAlerts (db : IncidentDb) (incidentId : Nat) : List Nat :=
  (db.incidentAlerts.filter fun l => l.incidentId = incidentId).map IncidentAlert.alertId

/-- Nothing is left to do for the incident. -/
def settled (w : Surroundings) (db : IncidentDb) (incidentId : Nat) : Bool :=
  (linkedAlerts db incidentId).countP w.alertUnresolved = 0 &&
    w.pendingApprovals incidentId = 0 &&
    ((linkedAlerts db incidentId).map w.activeQueueRows).sum = 0 &&
    w.activePlaybooks incidentId = 0

/-- The guard of the closing `UPDATE`. -/
def Incident.closable (i : Incident) : Bool :=
  i.status ≠ .closed && i.status ≠ .investigating && i.assignedTo.isNone

/-- The closing `UPDATE`: an earlier resolution keeps its time. -/
def Incident.close (now : Int) (i : Incident) : Incident :=
  { i with status := .closed, resolvedAt := i.resolvedAt.or (some now) }

theorem Incident.close_id (now : Int) (i : Incident) : (i.close now).id = i.id := rfl

/-- The loop over the candidates, with the incidents closed by it. -/
def autoCloseEach (w : Surroundings) : List Incident → IncidentDb → List Nat × IncidentDb
  | [], db => ([], db)
  | incident :: rest, db =>
    if incident.status = .investigating || incident.assignedTo.isSome ||
        !settled w db incident.id then
      autoCloseEach w rest db
    else
      let closed := db.incidents.returning incident.id Incident.closable (Incident.close w.now)
      let db := { db with
        incidents := db.incidents.update incident.id Incident.closable (Incident.close w.now)
          (Incident.close_id w.now) }
      let (closedIds, db) := autoCloseEach w rest db
      (closed.toList.map Incident.id ++ closedIds, db)

/-- `auto_close_resolved_p3_incidents_for_alert`: the ids of the closed incidents. -/
def autoCloseResolvedP3IncidentsForAlert (w : Surroundings) (db : IncidentDb) (alertId : Nat) :
    List Nat × IncidentDb :=
  autoCloseEach w (autoCloseCandidates db alertId) db

/-! ## System -/

/-- The operations on incidents.  Recon activities come about elsewhere. -/
inductive IncidentOp where
  | create (title severity sourceIp : String) (priority : Option String)
  | link (incidentId alertId : Nat)
  | createOrLink (policy : IncidentPolicy) (alertId : Nat) (severity sourceIp : String)
  | updateStatus (incidentId : Nat) (newStatus : String)
  | autoClose (alertId : Nat)
  | reconActivity (id : Nat)

/-- What an operation makes of the tables; one that raises is rolled back. -/
def runIncident (w : Surroundings) (db : IncidentDb) : IncidentOp → Except String IncidentDb
  | .create title severity sourceIp priority =>
    (createIncident w db title severity sourceIp priority).map (·.2)
  | .link incidentId alertId => linkAlertToIncident w db incidentId alertId
  | .createOrLink policy alertId severity sourceIp =>
    maybeCreateOrLinkIncident w db policy alertId severity sourceIp
  | .updateStatus incidentId newStatus => updateIncidentStatus w db incidentId newStatus
  | .autoClose alertId => .ok (autoCloseResolvedP3IncidentsForAlert w db alertId).2
  | .reconActivity id => .ok { db with reconActivities := db.reconActivities ++ [⟨id, none⟩] }

/-- One operation, with what it finds. -/
def stepIncident (db : IncidentDb) (op : Surroundings × IncidentOp) : IncidentDb :=
  match runIncident op.1 db op.2 with
  | .ok db' => db'
  | .error _ => db

/-- The operation is an auto-close that closes the incident. -/
def AutoCloses (db : IncidentDb) (op : Surroundings × IncidentOp) (id : Nat) : Prop :=
  ∃ alertId, op.2 = .autoClose alertId ∧
    id ∈ (autoCloseResolvedP3IncidentsForAlert op.1 db alertId).1

/-! ## What an operation does -/

/-- How a row comes out of an operation at some time. -/
inductive Evolves (now : Int) (i i' : Incident) : Prop where
  | kept (hstatus : i'.status = i.status) (hresolved : i'.resolvedAt = i.resolvedAt)
  | moved (status : IncidentStatus) (hallowed : status ∈ allowedStatusTransitions i.status)
      (hmoved : i' = i.moveTo status now)
  | closed (hclosable : i.closable = true) (hclosed : i' = i.close now)

/-- A row that has just been created. -/
def Incident.IsNew (i : Incident) : Prop := i.status = .open ∧ i.resolvedAt = none

/-- What an operation at some time does to the table. -/
abbrev Evolution (now : Int) := @Table.Evolution Incident Incident.id Incident.IsNew (Evolves now)

variable {w : Surroundings} {db db' : IncidentDb}

theorem evolves_refl (now : Int) (i : Incident) : Evolves now i i := .kept rfl rfl

theorem createIncident_eq_ok {title severity sourceIp : String} {priority : Option String}
    {id : Nat} (h : createIncident w db title severity sourceIp priority = .ok (id, db')) :
    Evolution w.now db.incidents db'.incidents := by
  unfold createIncident at h
  dsimp only at h
  split at h
  · cases h
  · split at h
    · cases h
    · cases h
      exact Table.Evolution.insert (evolves_refl w.now) (newIncident_id _ _ _ _ _) ⟨rfl, rfl⟩

theorem linkAlertToIncident_eq_ok {incidentId alertId : Nat}
    (h : linkAlertToIncident w db incidentId alertId = .ok db') :
    db'.incidents = db.incidents := by
  unfold linkAlertToIncident at h
  split at h
  · cases h
  · split at h
    · cases h
      rfl
    · cases h
      rfl

theorem maybeUpgradeIncidentSeverity_evolution (now : Int) (db : IncidentDb) (incident : Incident)
    (severity : String) :
    Evolution now db.incidents (maybeUpgradeIncidentSeverity db incident severity).incidents := by
  unfold maybeUpgradeIncidentSeverity
  split
  · exact Table.Evolution.refl (evolves_refl now) _
  · split
    · exact Table.Evolution.refl (evolves_refl now) _
    · exact Table.Evolution.update (evolves_refl now) Incident.upgrade_id
        fun i _ _ => .kept rfl rfl

theorem maybeCreateOrLinkIncident_eq_ok {policy : IncidentPolicy} {alertId : Nat}
    {severity sourceIp : String}
    (h : maybeCreateOrLinkIncident w db policy alertId severity sourceIp = .ok db') :
    Evolution w.now db.incidents db'.incidents := by
  unfold maybeCreateOrLinkIncident at h
  split at h
  · cases h
    exact Table.Evolution.refl (evolves_refl _) _
  · obtain ⟨existing, -, h⟩ := Checks.bind_eq_ok.mp h
    cases existing with
    | some incident =>
      obtain ⟨linked, hlink, h⟩ := Checks.bind_eq_ok.mp h
      rw [← Except.ok.inj h, ← linkAlertToIncident_eq_ok hlink]
      exact maybeUpgradeIncidentSeverity_evolution w.now linked incident (upper severity)
    | none =>
      obtain ⟨⟨incidentId, created⟩, hcreate, h⟩ := Checks.bind_eq_ok.mp h
      obtain ⟨linked, hlink, h⟩ := Checks.bind_eq_ok.mp h
      have hincidents : (match policy.sharedActivity? with
          | some activityId => setReconActivityIncident linked activityId incidentId
          | none => linked).incidents = created.incidents := by
        rw [← linkAlertToIncident_eq_ok hlink]
        split <;> rfl
      rw [← Except.ok.inj h, hincidents]
      exact createIncident_eq_ok hcreate

theorem updateIncidentStatus_eq_ok {incidentId : Nat} {newStatus : String}
    (h : updateIncidentStatus w db incidentId newStatus = .ok db') :
    Evolution w.now db.incidents db'.incidents := by
  unfold updateIncidentStatus at h
  split at h
  · cases h
  · next incident hincident =>
    split at h
    · cases h
    · next status hstatus =>
      split at h
      · cases h
      · next hallowed =>
        cases h
        refine Table.Evolution.update (evolves_refl w.now) (Incident.moveTo_id status w.now)
          fun i hi _ => ?_
        rw [hincident] at hi
        cases hi
        exact .moved status (by simpa using hallowed) rfl

/-- The closing `UPDATE` gives back the id of the incident where it matched. -/
theorem mem_returned_ids {t : Table Incident Incident.id} {now : Int} {id incidentId : Nat} :
    id ∈ (t.returning incidentId Incident.closable (Incident.close now)).toList.map Incident.id ↔
      id = incidentId ∧ ∃ i, t.row? incidentId = some i ∧ i.closable = true := by
  constructor
  · intro h
    obtain ⟨i', hi', rfl⟩ := List.mem_map.mp h
    have hreturned := Option.mem_toList.mp hi'
    obtain ⟨i, hi, hclosable, -⟩ := Table.returning_eq_some.mp hreturned
    exact ⟨Table.returning_key (Incident.close_id now) hreturned, i, hi, hclosable⟩
  · rintro ⟨rfl, i, hi, hclosable⟩
    refine List.mem_map.mpr ⟨i.close now, ?_, t.keyed id i hi⟩
    exact Option.mem_toList.mpr (Table.returning_eq_some.mpr ⟨i, hi, hclosable, rfl⟩)

theorem closable_close (now : Int) (i : Incident) : (i.close now).closable = false := rfl

/-- After the loop a row is as it was, or it could be closed and was. -/
theorem autoCloseEach_row (w : Surroundings) (incidents : List Incident) (db : IncidentDb)
    {id : Nat} {i' : Incident}
    (h : (autoCloseEach w incidents db).2.incidents.row? id = some i') :
    ∃ i, db.incidents.row? id = some i ∧
      (i' = i ∧ id ∉ (autoCloseEach w incidents db).1 ∨
        i.closable = true ∧ i' = i.close w.now ∧ id ∈ (autoCloseEach w incidents db).1) := by
  induction incidents generalizing db with
  | nil => exact ⟨i', h, .inl ⟨rfl, by simp [autoCloseEach]⟩⟩
  | cons incident rest ih =>
    unfold autoCloseEach at h ⊢
    split at h
    · next hskip =>
      rw [if_pos hskip]
      exact ih db h
    · next hclose =>
      rw [if_neg hclose]
      dsimp only at h ⊢
      simp only [List.mem_append, mem_returned_ids]
      obtain ⟨i₁, hrow, hrest⟩ := ih _ h
      have hclosed : (db.incidents.update incident.id Incident.closable (Incident.close w.now)
          (Incident.close_id w.now)).row? id = some i₁ := hrow
      rw [Table.update_row?] at hclosed
      split at hclosed
      · next hid =>
        obtain ⟨i, hi, hupdated⟩ := Option.map_eq_some_iff.mp hclosed
        refine ⟨i, hid ▸ hi, ?_⟩
        by_cases hclosable : i.closable = true
        · rw [if_pos hclosable] at hupdated
          subst hupdated
          rcases hrest with ⟨rfl, -⟩ | ⟨hagain, -⟩
          · exact .inr ⟨hclosable, rfl, .inl ⟨hid, i, hi, hclosable⟩⟩
          · rw [closable_close] at hagain
            cases hagain
        · rw [if_neg hclosable] at hupdated
          subst hupdated
          rcases hrest with ⟨rfl, hout⟩ | ⟨hagain, -⟩
          · refine .inl ⟨rfl, ?_⟩
            rintro (⟨-, j, hj, hguard⟩ | hin)
            · rw [hi] at hj
              cases hj
              exact hclosable hguard
            · exact hout hin
          · exact absurd hagain hclosable
      · next hid =>
        refine ⟨i₁, hclosed, ?_⟩
        rcases hrest with ⟨rfl, hout⟩ | ⟨hclosable, rfl, hin⟩
        · refine .inl ⟨rfl, ?_⟩
          rintro (⟨heq, -⟩ | hin)
          · exact hid heq
          · exact hout hin
        · exact .inr ⟨hclosable, rfl, .inr hin⟩

/-- What is closed was there. -/
theorem autoCloseEach_mem (w : Surroundings) (incidents : List Incident) (db : IncidentDb) {id : Nat}
    (h : id ∈ (autoCloseEach w incidents db).1) : db.incidents.row? id ≠ none := by
  induction incidents generalizing db with
  | nil => cases h
  | cons incident rest ih =>
    unfold autoCloseEach at h
    split at h
    · exact ih db h
    · dsimp only at h
      rw [List.mem_append, mem_returned_ids] at h
      rcases h with ⟨rfl, i, hi, -⟩ | hrest
      · simp [hi]
      · intro hnone
        refine ih _ hrest ?_
        change (db.incidents.update incident.id Incident.closable (Incident.close w.now)
          (Incident.close_id w.now)).row? id = none
        rw [Table.update_row?_eq_map, hnone]
        rfl

/-- The row is as it was, or it could be closed and was. -/
def Closes (now : Int) (i i' : Incident) : Prop := i' = i ∨ i.closable = true ∧ i' = i.close now

theorem Closes.trans {now : Int} {i i' i'' : Incident} (h : Closes now i i')
    (h' : Closes now i' i'') : Closes now i i'' := by
  rcases h with rfl | ⟨hclosable, rfl⟩
  · exact h'
  · rcases h' with rfl | ⟨hagain, -⟩
    · exact .inr ⟨hclosable, rfl⟩
    · rw [closable_close] at hagain
      cases hagain

theorem autoCloseEach_evolution (w : Surroundings) (incidents : List Incident) (db : IncidentDb) :
    Table.Evolution (fun _ => False) (Closes w.now) db.incidents
      (autoCloseEach w incidents db).2.incidents := by
  induction incidents generalizing db with
  | nil => exact Table.Evolution.refl (fun _ => .inl rfl) _
  | cons incident rest ih =>
    unfold autoCloseEach
    split
    · exact ih db
    · have hupdate : Table.Evolution (fun _ => False) (Closes w.now) db.incidents
          (db.incidents.update incident.id Incident.closable (Incident.close w.now)
            (Incident.close_id w.now)) :=
        Table.Evolution.update (fun _ => .inl rfl) (Incident.close_id w.now)
          fun i _ hclosable => .inr ⟨hclosable, rfl⟩
      refine hupdate.trans (fun _ _ h _ => h) (fun _ _ _ => Closes.trans) (ih { db with
        incidents := db.incidents.update incident.id Incident.closable (Incident.close w.now)
          (Incident.close_id w.now) })

theorem row_of_autoCloses {op : Surroundings × IncidentOp} {id : Nat}
    (hcloses : AutoCloses db op id) : db.incidents.row? id ≠ none := by
  obtain ⟨alertId, -, hid⟩ := hcloses
  exact autoCloseEach_mem op.1 (autoCloseCandidates db alertId) db hid

/-- What an auto-close closes has a time of resolution. -/
theorem closed_of_autoCloses {op : Surroundings × IncidentOp} {id : Nat} {i' : Incident}
    (hcloses : AutoCloses db op id) (h : (stepIncident db op).incidents.row? id = some i') :
    i'.status = .closed ∧ i'.resolvedAt.isSome = true := by
  obtain ⟨alertId, hop, hid⟩ := hcloses
  obtain ⟨w, op⟩ := op
  subst hop
  obtain ⟨i, -, ⟨-, hout⟩ | ⟨-, rfl, -⟩⟩ := autoCloseEach_row w (autoCloseCandidates db alertId) db h
  · exact absurd hid hout
  · refine ⟨rfl, ?_⟩
    cases hresolved : i.resolvedAt with
    | none => simp [Incident.close, hresolved]
    | some time => simp [Incident.close, hresolved]

/-- **One operation.** -/
theorem stepIncident_evolution (db : IncidentDb) (op : Surroundings × IncidentOp) :
    Evolution op.1.now db.incidents (stepIncident db op).incidents := by
  obtain ⟨w, op⟩ := op
  unfold stepIncident
  split
  · next db' hrun =>
    cases op with
    | create title severity sourceIp priority =>
      obtain ⟨⟨id, created⟩, hcreate, rfl⟩ := Checks.map_eq_ok.mp hrun
      exact createIncident_eq_ok hcreate
    | link incidentId alertId =>
      rw [linkAlertToIncident_eq_ok hrun]
      exact Table.Evolution.refl (evolves_refl _) _
    | createOrLink policy alertId severity sourceIp => exact maybeCreateOrLinkIncident_eq_ok hrun
    | updateStatus incidentId newStatus => exact updateIncidentStatus_eq_ok hrun
    | autoClose alertId =>
      cases hrun
      refine (autoCloseEach_evolution w _ db).mono (fun _ h => h.elim) fun i i' h => ?_
      rcases h with rfl | ⟨hclosable, hclosed⟩
      · exact .kept rfl rfl
      · exact .closed hclosable hclosed
    | reconActivity id =>
      cases hrun
      exact Table.Evolution.refl (evolves_refl _) _
  · exact Table.Evolution.refl (evolves_refl _) _

end SiemDashboard.IncidentStore
