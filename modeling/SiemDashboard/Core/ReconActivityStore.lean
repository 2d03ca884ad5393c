import SiemDashboard.Core.PfsenseRecon
import SiemDashboard.Lib.Runs
import SiemDashboard.Lib.Tables

/-!
# Recon activities

`core/recon_activity_store.py`: how an alert is enrolled in an activity, the one it overlaps most or a
new one.

* **Rows** — `ReconAlert`, `Activity`, `Members` (one row an alert), `ReconDb`.
* **Candidates** — `Enrollment`, `enrollmentOf`, `fetchCandidateActivities`, `chooseActivityId`.
* **Summary** — `updateActivitySummary`.
* **Enrollment** — `writeContext`, `activityFor`, `enrollIn`, `enrollAlertInReconActivity`.
* **System** — `ReconOp`, `stepRecon`.
-/

namespace SiemDashboard.ReconActivities

open Python Tables PfsenseRecon

/-! ## Rows -/

/-- A row of `alerts`. -/
structure ReconAlert where
  id : Nat
  severity : String
  sourceIp : Option String
  source : Option String
  sourceType : Option String
  createdAt : Int
  context : Json

inductive ActivityStatus where
  | «open»
  | monitoring
  | resolved
deriving DecidableEq, Repr

inductive ActivitySeverity where
  | low
  | medium
  | high
deriving DecidableEq, Repr

/-- What `summary` says about the alerts of an activity. -/
structure ActivitySummary where
  underlyingAlertCount : Nat
  sourceIpCount : Nat
deriving DecidableEq, Repr

/-- A row of `recon_activities`. -/
structure Activity where
  id : Nat
  source : String
  sourceType : String
  status : ActivityStatus
  severity : ActivitySeverity
  protectedRangeKey : String
  serviceSignature : List Int
  firstSeen : Int
  lastSeen : Int
  summary : Option ActivitySummary

/-- A row of `recon_activity_alerts`. -/
structure Member where
  activityId : Nat
  alertId : Nat
deriving DecidableEq

/-- `recon_activity_alerts`, where no alert has two rows. -/
structure Members where
  rows : List Member
  distinct : rows.Pairwise fun m m' => m.alertId ≠ m'.alertId

/-- `INSERT … ON CONFLICT (alert_id) DO NOTHING`. -/
def Members.insert (members : Members) (new : Member) : Members :=
  if h : ∃ m ∈ members.rows, m.alertId = new.alertId then members
  else
    { rows := members.rows ++ [new]
      distinct := by
        refine List.pairwise_append.mpr ⟨members.distinct, List.pairwise_singleton _ _, ?_⟩
        intro m hm m' hm' heq
        rw [List.mem_singleton] at hm'
        exact h ⟨m, hm, hm' ▸ heq⟩ }

theorem Members.mem_insert {members : Members} {new m : Member} :
    m ∈ (members.insert new).rows ↔
      m ∈ members.rows ∨ m = new ∧ ∀ m' ∈ members.rows, m'.alertId ≠ new.alertId := by
  unfold Members.insert
  split
  · next h =>
    obtain ⟨other, hother, halert⟩ := h
    refine ⟨.inl, fun hm => hm.resolve_right fun hnew => hnew.2 other hother halert⟩
  · next h =>
    have hnone : ∀ m' ∈ members.rows, m'.alertId ≠ new.alertId :=
      fun m' hm' heq => h ⟨m', hm', heq⟩
    simp only [List.mem_append, List.mem_singleton]
    exact or_congr_right ⟨fun hm => ⟨hm, hnone⟩, And.left⟩

/-- An alert has a row after an insertion. -/
theorem Members.exists_insert (members : Members) (new : Member) :
    ∃ m ∈ (members.insert new).rows, m.alertId = new.alertId := by
  by_cases h : ∃ m ∈ members.rows, m.alertId = new.alertId
  · obtain ⟨m, hm, halert⟩ := h
    exact ⟨m, Members.mem_insert.mpr (.inl hm), halert⟩
  · exact ⟨new, Members.mem_insert.mpr (.inr ⟨rfl, fun m hm heq => h ⟨m, hm, heq⟩⟩), rfl⟩

/-- The tables. -/
structure ReconDb where
  alerts : Table ReconAlert ReconAlert.id
  activities : Table Activity Activity.id
  members : Members

/-- The tables without rows. -/
def ReconDb.empty : ReconDb := ⟨.empty, .empty, ⟨[], .nil⟩⟩

/-- How many rows of members an activity has. -/
def ReconDb.memberCount (db : ReconDb) (activityId : Nat) : Nat :=
  (db.members.rows.filter (·.activityId = activityId)).length

theorem memberCount_insert_of_ne {db db' : ReconDb} {new : Member} {activityId : Nat}
    (hmembers : db'.members = db.members.insert new) (hne : new.activityId ≠ activityId) :
    db'.memberCount activityId = db.memberCount activityId := by
  rw [ReconDb.memberCount, ReconDb.memberCount, hmembers, Members.insert]
  split
  · rfl
  · simp [List.filter_append, hne]

/-- `context.recon_activity.id`. -/
def ReconAlert.reconActivityId (alert : ReconAlert) : Option Int :=
  ((alert.context.get "recon_activity").get "id").int?

/-- What enrollment relies on: digits, and how the database reads a timestamp. -/
structure ReconLibrary extends DigitLibrary where
  timestamptz : String → Option Int

/-! ## Candidates -/

/-- What an alert is enrolled with. -/
structure Enrollment where
  protectedRangeKey : String
  serviceSignature : List Int
  firstSeen : Option Int
  lastSeen : Option Int

def textParam : Json → Except String String
  | .str s => .ok s
  | _ => .error "operator does not exist"

def timestampParam (lib : ReconLibrary) : Json → Except String (Option Int)
  | .null => .ok none
  | .str s =>
    match lib.timestamptz s with
    | some time => .ok (some time)
    | none => .error "invalid input syntax for type timestamp with time zone"
  | _ => .error "cannot cast to timestamp with time zone"

/-- What the context of an alert says about its enrollment; `none` where it is not enrolled. -/
def enrollmentOf (lib : ReconLibrary) (alert : ReconAlert) : Except String (Option Enrollment) := do
  let context := alert.context.dictOrEmpty
  let target := (context.get "target_context").dictOrEmpty
  let range := context.get "protected_range_key"
  let signature ← buildServiceSignature lib.toDigitLibrary
    ((context.get "service_signature_ports").orElse
      ((target.get "sample_destination_ports").orElse (.arr [])))
  if !range.truthy || signature.isEmpty then return none
  else
    let key ← textParam range
    let firstSeen ← timestampParam lib ((target.get "first_seen").orElse (context.get "first_seen"))
    let lastSeen ← timestampParam lib ((target.get "last_seen").orElse (context.get "last_seen"))
    return some
      { protectedRangeKey := key
        serviceSignature := signature
        firstSeen := firstSeen
        lastSeen := lastSeen }

/-- `INTERVAL '30 minutes'`, in microseconds. -/
def halfHour : Int := 1800000000

/-- The activity may take the enrollment. -/
def isCandidate (enrollment : Enrollment) (activity : Activity) : Bool :=
  activity.protectedRangeKey = enrollment.protectedRangeKey &&
    activity.status ≠ .resolved &&
    enrollment.lastSeen.any (activity.firstSeen ≤ · + halfHour) &&
    enrollment.firstSeen.any (· - halfHour ≤ activity.lastSeen)

/-- `ORDER BY last_seen DESC, id DESC`. -/
def latestFirst (a b : Activity) : Bool :=
  b.lastSeen < a.lastSeen || a.lastSeen = b.lastSeen && b.id ≤ a.id

/-- `_fetch_candidate_activities`. -/
def fetchCandidateActivities (db : ReconDb) (enrollment : Enrollment) : List Activity :=
  (db.activities.rows.filter (isCandidate enrollment)).insertionSort fun a b => latestFirst a b = true

/-- The rank of a candidate: the number of shared ports, and the id. -/
def rankOf (signature : List Int) (activity : Activity) : Nat × Nat :=
  (serviceOverlap activity.serviceSignature signature, activity.id)

/-- `rank > choice`, for tuples. -/
def outranks (rank choice : Nat × Nat) : Bool :=
  choice.1 < rank.1 || choice.1 = rank.1 && choice.2 < rank.2

/-- The loop of `_choose_activity_id`. -/
def chooseRank (signature : List Int) : List Activity → Option (Nat × Nat) → Option (Nat × Nat)
  | [], choice => choice
  | activity :: rest, choice =>
    let rank := rankOf signature activity
    chooseRank signature rest
      (if rank.1 ≠ 0 && choice.all (outranks rank) then some rank else choice)

/-- `_choose_activity_id`. -/
def chooseActivityId (candidates : List Activity) (signature : List Int) : Option Nat :=
  (chooseRank signature candidates none).map (·.2)

/-- The chosen rank is one of the candidates'. -/
theorem chooseRank_mem {signature : List Int} {candidates : List Activity}
    {choice : Option (Nat × Nat)} {rank : Nat × Nat}
    (h : chooseRank signature candidates choice = some rank) :
    choice = some rank ∨ ∃ activity ∈ candidates, rank = rankOf signature activity := by
  induction candidates generalizing choice with
  | nil => exact .inl h
  | cons activity rest ih =>
    rcases ih h with hchoice | ⟨other, hother, hrank⟩
    · split at hchoice
      · exact .inr ⟨activity, List.mem_cons_self, (Option.some.inj hchoice).symm⟩
      · exact .inl hchoice
    · exact .inr ⟨other, List.mem_cons_of_mem _ hother, hrank⟩

theorem row_of_chosen {db : ReconDb} {enrollment : Enrollment} {activityId : Nat}
    (h : chooseActivityId (fetchCandidateActivities db enrollment) enrollment.serviceSignature =
      some activityId) : ∃ activity, db.activities.row? activityId = some activity := by
  obtain ⟨rank, hrank, rfl⟩ := Option.map_eq_some_iff.mp h
  rcases chooseRank_mem hrank with hnone | ⟨activity, hmem, rfl⟩
  · cases hnone
  · rw [fetchCandidateActivities, List.mem_insertionSort, List.mem_filter] at hmem
    exact ⟨activity, Table.mem_rows.mp hmem.1⟩

/-! ## Summary -/

def memberAlerts (db : ReconDb) (activityId : Nat) : List ReconAlert :=
  (db.members.rows.filter (·.activityId = activityId)).filterMap fun m => db.alerts.row? m.alertId

/-- The counts of `_aggregate_summary`. -/
def aggregateSummary (db : ReconDb) (activityId : Nat) : ActivitySummary where
  underlyingAlertCount := (memberAlerts db activityId).length
  sourceIpCount :=
    (((memberAlerts db activityId).filterMap (·.sourceIp)).filter (· ≠ "")).dedup.length

/-- Where the alerts of all members exist, the count is that of the rows. -/
theorem aggregateSummary_count {db : ReconDb}
    (halerts : ∀ m ∈ db.members.rows, (db.alerts.row? m.alertId).isSome = true) (activityId : Nat) :
    (aggregateSummary db activityId).underlyingAlertCount = db.memberCount activityId :=
  List.filterMap_length_eq_length.mpr fun m hm => halerts m (List.mem_of_mem_filter hm)

/-- The severity of an activity with so many sources. -/
def summarySeverity (sourceIpCount : Nat) : ActivitySeverity :=
  if 25 ≤ sourceIpCount then .high else if 2 ≤ sourceIpCount then .medium else .low

/-- What `_update_activity_summary` writes. -/
def summarisedActivity (db : ReconDb) (activityId : Nat) (activity : Activity) : Activity :=
  { activity with
    severity := summarySeverity (aggregateSummary db activityId).sourceIpCount
    status :=
      if summarySeverity (aggregateSummary db activityId).sourceIpCount = .high then .open
      else .monitoring
    firstSeen := ((memberAlerts db activityId).map (·.createdAt)).min?.getD activity.firstSeen
    lastSeen := ((memberAlerts db activityId).map (·.createdAt)).max?.getD activity.lastSeen
    summary := some (aggregateSummary db activityId) }

theorem summarisedActivity_id (db : ReconDb) (activityId : Nat) (activity : Activity) :
    (summarisedActivity db activityId activity).id = activity.id := rfl

/-- `_update_activity_summary`. -/
def updateActivitySummary (db : ReconDb) (activityId : Nat) : ReconDb :=
  { db with
    activities := db.activities.update activityId (fun _ => true) (summarisedActivity db activityId)
      (summarisedActivity_id db activityId) }

/-! ## Enrollment -/

/-- `jsonb_set(…, '{notification_policy,immediate_alert_eligible}', 'false')`: only an object takes the
    key, and an array raises. -/
def withoutImmediateAlert (context : Json) : Except String Json :=
  match context.get "notification_policy" with
  | .obj kvs =>
    .ok (context.set "notification_policy"
      ((Json.obj kvs).set "immediate_alert_eligible" (.bool false)))
  | .arr _ => .error "path element at position 2 is not an integer"
  | _ => .ok context

/-- The context that enrollment writes. -/
def writeContext (context : Json) (activityId : Nat) : Except String Json :=
  withoutImmediateAlert
    (context.set "recon_activity" (.obj
      [("id", .int activityId), ("label", .str "Distributed Internet Reconnaissance Activity"),
        ("activity_type", .str "distributed_internet_reconnaissance"),
        ("coordination_status", .str "not_established")]))

/-- What enrollment writes can be read back. -/
theorem reconActivityId_of_writeContext {context context' : Json} {activityId : Nat}
    (hcontext : context.isObj = true) (h : writeContext context activityId = .ok context') :
    ((context'.get "recon_activity").get "id").int? = some (activityId : Int) := by
  unfold writeContext withoutImmediateAlert at h
  split at h
  · cases h
    simp only [Json.get, Json.getD, Json.get?_set, Json.isObj_set, hcontext]
    rfl
  · cases h
  · cases h
    simp only [Json.get, Json.getD, Json.get?_set, hcontext]
    rfl

def ReconAlert.withContext (context : Json) (alert : ReconAlert) : ReconAlert :=
  { alert with context := context }

theorem ReconAlert.withContext_id (context : Json) (alert : ReconAlert) :
    (alert.withContext context).id = alert.id := rfl

def newActivityRow (alert : ReconAlert) (enrollment : Enrollment) (firstSeen lastSeen : Int)
    (id : Nat) : Activity where
  id := id
  source := (alert.source.filter (· ≠ "")).getD "pfsense"
  sourceType := (alert.sourceType.filter (· ≠ "")).getD "firewall"
  status := .monitoring
  severity :=
    if alert.severity = "low" then .low else if alert.severity = "high" then .high else .medium
  protectedRangeKey := enrollment.protectedRangeKey
  serviceSignature := enrollment.serviceSignature
  firstSeen := firstSeen
  lastSeen := lastSeen
  summary := none

theorem newActivityRow_id (alert : ReconAlert) (enrollment : Enrollment) (firstSeen lastSeen : Int)
    (id : Nat) : (newActivityRow alert enrollment firstSeen lastSeen id).id = id := rfl

/-- The activity that an alert is enrolled in: the one chosen among the candidates, or a new one. -/
def activityFor (db : ReconDb) (alert : ReconAlert) (enrollment : Enrollment) :
    Except String (Nat × ReconDb) :=
  match chooseActivityId (fetchCandidateActivities db enrollment) enrollment.serviceSignature with
  | some activityId => .ok (activityId, db)
  | none =>
    match enrollment.firstSeen, enrollment.lastSeen with
    | some firstSeen, some lastSeen =>
      .ok (db.activities.next,
        { db with
          activities := db.activities.insert (newActivityRow alert enrollment firstSeen lastSeen)
            (newActivityRow_id alert enrollment firstSeen lastSeen) })
    | _, _ => .error "violates not-null constraint"

theorem activityFor_cases {db created : ReconDb} {alert : ReconAlert} {enrollment : Enrollment}
    {activityId : Nat} (h : activityFor db alert enrollment = .ok (activityId, created)) :
    (chooseActivityId (fetchCandidateActivities db enrollment) enrollment.serviceSignature =
        some activityId ∧ created = db) ∨
      (chooseActivityId (fetchCandidateActivities db enrollment) enrollment.serviceSignature = none ∧
        activityId = db.activities.next ∧
        ∃ firstSeen lastSeen, created = { db with
          activities := db.activities.insert (newActivityRow alert enrollment firstSeen lastSeen)
            (newActivityRow_id alert enrollment firstSeen lastSeen) }) := by
  unfold activityFor at h
  split at h
  · next chosen hchosen =>
    cases h
    exact .inl ⟨hchosen, rfl⟩
  · next hnone =>
    split at h
    · cases h
      exact .inr ⟨hnone, rfl, _, _, rfl⟩
    · cases h

/-- The tables with the alert's row of members and its context. -/
def enrolledRows (db : ReconDb) (alert : ReconAlert) (activityId : Nat) (context : Json) : ReconDb :=
  { db with
    members := db.members.insert ⟨activityId, alert.id⟩
    alerts := db.alerts.update alert.id (fun _ => true) (ReconAlert.withContext context)
      (ReconAlert.withContext_id context) }

/-- The rest of `enroll_alert_in_recon_activity`, once the activity is known. -/
def enrollIn (db : ReconDb) (alert : ReconAlert) (activityId : Nat) : Except String ReconDb := do
  let context ← writeContext alert.context activityId
  return updateActivitySummary (enrolledRows db alert activityId context) activityId

/-- `enroll_alert_in_recon_activity`: the activity, where the alert is enrolled. -/
def enrollAlertInReconActivity (lib : ReconLibrary) (db : ReconDb) (alertId : Nat) :
    Except String (Option Nat × ReconDb) :=
  match db.alerts.row? alertId with
  | none => .ok (none, db)
  | some alert => do
    match ← enrollmentOf lib alert with
    | none => return (none, db)
    | some enrollment =>
      let (activityId, created) ← activityFor db alert enrollment
      let enrolled ← enrollIn created alert activityId
      return (some activityId, enrolled)

/-- An alert is enrolled only where its context is a dict. -/
theorem isObj_of_enrollment {lib : ReconLibrary} {alert : ReconAlert} {enrollment : Enrollment}
    (h : enrollmentOf lib alert = .ok (some enrollment)) : alert.context.isObj = true := by
  cases hcontext : alert.context.isObj with
  | true => rfl
  | false =>
    have hempty : alert.context.dictOrEmpty = .obj [] := by simp [Json.dictOrEmpty, hcontext]
    unfold enrollmentOf at h
    rw [hempty] at h
    obtain ⟨signature, -, h⟩ := Checks.bind_eq_ok.mp h
    cases h

/-- What an enrollment that goes through does. -/
theorem enrollAlertInReconActivity_cases {lib : ReconLibrary} {db : ReconDb} {alertId : Nat}
    {answer : Option Nat × ReconDb}
    (h : enrollAlertInReconActivity lib db alertId = .ok answer) :
    (answer.2 = db ∧ ∀ alert enrollment, db.alerts.row? alertId = some alert →
        enrollmentOf lib alert ≠ .ok (some enrollment)) ∨
      ∃ alert enrollment activityId created,
        db.alerts.row? alertId = some alert ∧ enrollmentOf lib alert = .ok (some enrollment) ∧
        activityFor db alert enrollment = .ok (activityId, created) ∧
        enrollIn created alert activityId = .ok answer.2 := by
  unfold enrollAlertInReconActivity at h
  split at h
  · next hnone =>
    cases h
    refine .inl ⟨rfl, fun alert _ halert => ?_⟩
    rw [hnone] at halert
    cases halert
  · next alert halert =>
    obtain ⟨enrollment?, henrollment, h⟩ := Checks.bind_eq_ok.mp h
    cases enrollment? with
    | none =>
      cases h
      refine .inl ⟨rfl, fun other _ hother => ?_⟩
      rw [halert] at hother
      cases hother
      rw [henrollment]
      exact nofun
    | some enrollment =>
      obtain ⟨⟨activityId, created⟩, hactivity, h⟩ := Checks.bind_eq_ok.mp h
      obtain ⟨enrolled, henrolled, h⟩ := Checks.bind_eq_ok.mp h
      cases h
      exact .inr ⟨alert, enrollment, activityId, created, halert, henrollment, hactivity, henrolled⟩

/-! ## System -/

/-- What becomes an alert. -/
structure NewAlert where
  severity : String
  sourceIp : Option String
  source : Option String
  sourceType : Option String
  createdAt : Int
  context : Json

def newAlertRow (new : NewAlert) (id : Nat) : ReconAlert where
  id := id
  severity := new.severity
  sourceIp := new.sourceIp
  source := new.source
  sourceType := new.sourceType
  createdAt := new.createdAt
  context := new.context

theorem newAlertRow_id (new : NewAlert) (id : Nat) : (newAlertRow new id).id = id := rfl

def Activity.withStatus (status : ActivityStatus) (activity : Activity) : Activity :=
  { activity with status := status }

theorem Activity.withStatus_id (status : ActivityStatus) (activity : Activity) :
    (activity.withStatus status).id = activity.id := rfl

/-- What happens to the tables: a new alert, another status of an activity, an enrollment. -/
inductive ReconOp where
  | createAlert (new : NewAlert)
  | setStatus (activityId : Nat) (status : ActivityStatus)
  | enroll (alertId : Nat)

/-- An operation, and whether its transaction commits. -/
structure ReconCall where
  op : ReconOp
  lib : ReconLibrary
  commits : Bool

/-- What the operation makes of the tables. -/
def runReconOp (db : ReconDb) (call : ReconCall) : Except String ReconDb :=
  match call.op with
  | .createAlert new =>
    .ok { db with alerts := db.alerts.insert (newAlertRow new) (newAlertRow_id new) }
  | .setStatus activityId status =>
    .ok { db with
      activities := db.activities.update activityId (fun _ => true) (Activity.withStatus status)
        (Activity.withStatus_id status) }
  | .enroll alertId => (enrollAlertInReconActivity call.lib db alertId).map (·.2)

/-- One operation; one that raises, or does not commit, is rolled back. -/
def stepRecon (db : ReconDb) (call : ReconCall) : ReconDb :=
  match runReconOp db call with
  | .ok db' => if call.commits then db' else db
  | .error _ => db

end SiemDashboard.ReconActivities
