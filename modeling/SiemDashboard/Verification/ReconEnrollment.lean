import SiemDashboard.Core.ReconActivityStore

/-!
# Enrollment in recon activities

What the context of an alert, the rows of members and the summaries say about each other, over every
run of enrollments, new alerts and changes of status.

* **Consistency** — `Consistent`; `Linked`: the rows of members refer to rows, kept by every operation.
* **One enrollment** — `Enrolled`: what an enrollment does to the tables; `Enrolled.consistent_iff`.
* **Result** — `Meets`: the condition on an operation; `enrollment_consistent`, and an alert that is
  enrolled again after its activity was resolved.
-/

namespace SiemDashboard.ReconEnrollment

open Python Tables ReconActivities

/-! ## Consistency -/

/-- The context of an alert names the activity of its row of members, every activity has a member, and
    its summary counts them. -/
structure Consistent (db : ReconDb) : Prop where
  context : ∀ m ∈ db.members.rows, ∀ alert, db.alerts.row? m.alertId = some alert →
    alert.reconActivityId = some (m.activityId : Int)
  member : ∀ id activity, db.activities.row? id = some activity →
    ∃ m ∈ db.members.rows, m.activityId = id
  counted : ∀ id activity, db.activities.row? id = some activity →
    activity.summary.map (·.underlyingAlertCount) = some (db.memberCount id)

/-- The rows of members refer to alerts and activities. -/
structure Linked (db : ReconDb) : Prop where
  alert : ∀ m ∈ db.members.rows, (db.alerts.row? m.alertId).isSome = true
  activity : ∀ m ∈ db.members.rows, (db.activities.row? m.activityId).isSome = true

/-! ## One enrollment -/

/-- What the enrollment of an alert in an activity does to the tables. -/
structure Enrolled (db : ReconDb) (alertId activityId : Nat) (db' : ReconDb) : Prop where
  members : db'.members = db.members.insert ⟨activityId, alertId⟩
  alert : ∃ alert, db'.alerts.row? alertId = some alert ∧
    alert.reconActivityId = some (activityId : Int)
  otherAlert : ∀ id, id ≠ alertId → db'.alerts.row? id = db.alerts.row? id
  activity : ∃ activity, db'.activities.row? activityId = some activity ∧
    activity.summary.map (·.underlyingAlertCount) = some (db'.memberCount activityId)
  otherActivity : ∀ id, id ≠ activityId → db'.activities.row? id = db.activities.row? id

section

variable {db db' : ReconDb} {alertId activityId : Nat}

theorem Enrolled.linked (h : Enrolled db alertId activityId db') (hlinked : Linked db) :
    Linked db' where
  alert := by
    intro m hm
    by_cases hid : m.alertId = alertId
    · obtain ⟨alert, halert, -⟩ := h.alert
      rw [hid, halert]
      rfl
    · rw [h.members, Members.mem_insert] at hm
      rw [h.otherAlert _ hid]
      exact hlinked.alert m (hm.resolve_right fun hnew => hid (congrArg Member.alertId hnew.1))
  activity := by
    intro m hm
    by_cases hid : m.activityId = activityId
    · obtain ⟨activity, hactivity, -⟩ := h.activity
      rw [hid, hactivity]
      rfl
    · rw [h.members, Members.mem_insert] at hm
      rw [h.otherActivity _ hid]
      exact hlinked.activity m
        (hm.resolve_right fun hnew => hid (congrArg Member.activityId hnew.1))

/-- **One enrollment** keeps the tables consistent just where the alert is in no other activity. -/
theorem Enrolled.consistent_iff (h : Enrolled db alertId activityId db') (hdb : Consistent db) :
    Consistent db' ↔ ∀ m ∈ db.members.rows, m.alertId = alertId → m.activityId = activityId := by
  obtain ⟨alert', halert', hcontext'⟩ := h.alert
  have hold {m : Member} (hm : m ∈ db.members.rows) : m ∈ db'.members.rows := by
    rw [h.members]
    exact Members.mem_insert.mpr (.inl hm)
  constructor
  · intro hdb' m hm hid
    have hrow : db'.alerts.row? m.alertId = some alert' := by rw [hid, halert']
    have hcontext := hdb'.context m (hold hm) alert' hrow
    rw [hcontext'] at hcontext
    exact (Int.ofNat_inj.mp (Option.some.inj hcontext)).symm
  · intro hsame
    refine ⟨fun m hm alert hrow => ?_, fun id activity hrow => ?_, fun id activity hrow => ?_⟩
    · rw [h.members, Members.mem_insert] at hm
      by_cases hid : m.alertId = alertId
      · have hactivity : m.activityId = activityId := by
          rcases hm with hm | ⟨rfl, -⟩
          · exact hsame m hm hid
          · rfl
        rw [hid, halert'] at hrow
        cases hrow
        rw [hactivity]
        exact hcontext'
      · rw [h.otherAlert _ hid] at hrow
        exact hdb.context m
          (hm.resolve_right fun hnew => hid (congrArg Member.alertId hnew.1)) alert hrow
    · by_cases hid : id = activityId
      · obtain ⟨m, hm, hmAlert⟩ := Members.exists_insert db.members ⟨activityId, alertId⟩
        refine ⟨m, h.members ▸ hm, ?_⟩
        rcases Members.mem_insert.mp hm with hm | ⟨rfl, -⟩
        · exact (hsame m hm hmAlert).trans hid.symm
        · exact hid.symm
      · rw [h.otherActivity id hid] at hrow
        obtain ⟨m, hm, hactivity⟩ := hdb.member id activity hrow
        exact ⟨m, hold hm, hactivity⟩
    · by_cases hid : id = activityId
      · obtain ⟨activity', hactivity', hcount⟩ := h.activity
        rw [hid, hactivity'] at hrow
        cases hrow
        rw [hid]
        exact hcount
      · rw [h.otherActivity id hid] at hrow
        rw [memberCount_insert_of_ne h.members (Ne.symm hid)]
        exact hdb.counted id activity hrow

theorem enrolledRows_alert {alert : ReconAlert} (activityId : Nat) (context : Json)
    (halert : db.alerts.row? alert.id = some alert) (id : Nat) :
    (enrolledRows db alert activityId context).alerts.row? id =
      if id = alert.id then some (alert.withContext context) else db.alerts.row? id := by
  rw [enrolledRows, Table.update_row?, halert]
  rfl

theorem enrolled_of_enrollIn {alert : ReconAlert} (hlinked : Linked db)
    (halert : db.alerts.row? alert.id = some alert) (hcontext : alert.context.isObj = true)
    {activity : Activity} (hactivity : db.activities.row? activityId = some activity)
    (h : enrollIn db alert activityId = .ok db') : Enrolled db alert.id activityId db' := by
  obtain ⟨context, hwrite, h⟩ := Checks.bind_eq_ok.mp h
  cases h
  have hrow := enrolledRows_alert activityId context halert
  refine ⟨rfl, ⟨alert.withContext context, ?_, reconActivityId_of_writeContext hcontext hwrite⟩,
    fun id hid => ?_,
    ⟨summarisedActivity (enrolledRows db alert activityId context) activityId activity, ?_, ?_⟩,
    fun id hid => ?_⟩
  · exact (hrow alert.id).trans (if_pos rfl)
  · exact (hrow id).trans (if_neg hid)
  · simp only [updateActivitySummary]
    rw [Table.update_row?, if_pos rfl, enrolledRows, hactivity]
    rfl
  · refine congrArg some (aggregateSummary_count (fun m hm => ?_) activityId)
    rw [hrow]
    split
    · rfl
    · next hid =>
      rw [enrolledRows, Members.mem_insert] at hm
      exact hlinked.alert m (hm.resolve_right fun hnew => hid (congrArg Member.alertId hnew.1))
  · simp only [updateActivitySummary]
    exact Table.update_row?_of_ne _ _ _ (summarisedActivity_id _ activityId) hid

/-- The tables with a new activity are linked. -/
theorem Linked.created (h : Linked db) {mk : Nat → Activity} (hmk : ∀ id, (mk id).id = id) :
    Linked { db with activities := db.activities.insert mk hmk } where
  alert := h.alert
  activity := by
    intro m hm
    obtain ⟨activity, hactivity⟩ := Option.isSome_iff_exists.mp (h.activity m hm)
    rw [Table.insert_row?_of_some _ _ _ hactivity]
    rfl

/-- **What an enrollment does**, and which activity the alert is enrolled in. -/
theorem enrolled_of_call {lib : ReconLibrary} {alert : ReconAlert} {enrollment : Enrollment}
    {created : ReconDb} (hlinked : Linked db) (halert : db.alerts.row? alertId = some alert)
    (henrollment : enrollmentOf lib alert = .ok (some enrollment))
    (hactivity : activityFor db alert enrollment = .ok (activityId, created))
    (h : enrollIn created alert activityId = .ok db') :
    Enrolled db alertId activityId db' ∧
      ∀ m ∈ db.members.rows, m.activityId = activityId ↔
        chooseActivityId (fetchCandidateActivities db enrollment) enrollment.serviceSignature =
          some m.activityId := by
  have hkey : alert.id = alertId := db.alerts.keyed alertId alert halert
  subst hkey
  have hcontext := isObj_of_enrollment henrollment
  rcases activityFor_cases hactivity with ⟨hchosen, rfl⟩ | ⟨hnone, rfl, firstSeen, lastSeen, rfl⟩
  · obtain ⟨activity, hrow⟩ := row_of_chosen hchosen
    refine ⟨enrolled_of_enrollIn hlinked halert hcontext hrow h, fun m _ => ?_⟩
    rw [hchosen, Option.some.injEq]
    exact eq_comm
  · have hmk := newActivityRow_id alert enrollment firstSeen lastSeen
    have hrow := (Table.insert_row? db.activities _ hmk db.activities.next).trans (if_pos rfl)
    have henrolled := enrolled_of_enrollIn (hlinked.created hmk) halert hcontext hrow h
    refine ⟨⟨henrolled.members, henrolled.alert, henrolled.otherAlert, henrolled.activity,
      fun id hid => ?_⟩, fun m hm => ?_⟩
    · rw [henrolled.otherActivity id hid, Table.insert_row?, if_neg hid]
    · rw [hnone]
      refine ⟨fun heq => ?_, nofun⟩
      -- a row of members refers to an activity that was there before
      obtain ⟨activity, hrow⟩ := Option.isSome_iff_exists.mp (hlinked.activity m hm)
      have hlt := db.activities.lt_next hrow
      omega

end

/-! ## Result -/

/-- The condition on an operation: where an enrollment goes through, the activity that is chosen among
    the candidates is the one that the alert is in, if it is in one. -/
def Meets (db : ReconDb) (call : ReconCall) : Prop :=
  ∀ alertId alert enrollment, call.op = .enroll alertId → call.commits = true →
    (enrollAlertInReconActivity call.lib db alertId).isOk = true →
    db.alerts.row? alertId = some alert → enrollmentOf call.lib alert = .ok (some enrollment) →
    ∀ m ∈ db.members.rows, m.alertId = alertId →
      chooseActivityId (fetchCandidateActivities db enrollment) enrollment.serviceSignature =
        some m.activityId

section

variable {db : ReconDb} {call : ReconCall}

/-- What an operation does: nothing, an enrollment, or something that leaves the members alone. -/
inductive ReconStep (db : ReconDb) (call : ReconCall) (db' : ReconDb) : Prop where
  | nothing (hsame : db' = db) (hmeets : Meets db call)
  | enrolled (alertId activityId : Nat) (henrolled : Enrolled db alertId activityId db')
      (hmeets : (∀ m ∈ db.members.rows, m.alertId = alertId → m.activityId = activityId) ↔
        Meets db call)
  | created (new : NewAlert) (hdb : db' = { db with
      alerts := db.alerts.insert (newAlertRow new) (newAlertRow_id new) }) (hmeets : Meets db call)
  | status (activityId : Nat) (status : ActivityStatus) (hdb : db' = { db with
      activities := db.activities.update activityId (fun _ => true) (Activity.withStatus status)
        (Activity.withStatus_id status) }) (hmeets : Meets db call)

theorem meets_of_op (h : ∀ alertId, call.op ≠ .enroll alertId) : Meets db call :=
  fun alertId _ _ hop => absurd hop (h alertId)

/-- **One operation.** -/
theorem stepRecon_cases (hlinked : Linked db) (call : ReconCall) :
    ReconStep db call (stepRecon db call) := by
  obtain ⟨op, lib, commits⟩ := call
  cases commits with
  | false =>
    refine .nothing ?_ fun _ _ _ _ hcommits => nomatch hcommits
    unfold stepRecon
    split <;> rfl
  | true =>
    cases op with
    | createAlert new => exact .created new rfl (meets_of_op nofun)
    | setStatus activityId status => exact .status activityId status rfl (meets_of_op nofun)
    | enroll alertId =>
      cases hcall : enrollAlertInReconActivity lib db alertId with
      | error message =>
        refine .nothing (by simp only [stepRecon, runReconOp, hcall]; rfl) ?_
        intro _ _ _ hop _ hok
        cases hop
        rw [hcall] at hok
        cases hok
      | ok answer =>
        have hstep : stepRecon db ⟨.enroll alertId, lib, true⟩ = answer.2 := by
          simp only [stepRecon, runReconOp, hcall]
          rfl
        rw [hstep]
        rcases enrollAlertInReconActivity_cases hcall with
          ⟨hsame, hnone⟩ |
          ⟨alert, enrollment, activityId, created, halert, henrollment, hactivity, henrolled⟩
        · refine .nothing hsame fun _ alert enrollment hop _ _ halert henrollment => ?_
          cases hop
          exact absurd henrollment (hnone alert enrollment halert)
        · obtain ⟨henrolled, hchosen⟩ :=
            enrolled_of_call hlinked halert henrollment hactivity henrolled
          refine .enrolled alertId activityId henrolled ⟨fun hsame => ?_, fun hmeets m hm hid => ?_⟩
          · intro _ _ _ hop _ _ halert' henrollment' m hm hid
            cases hop
            rw [halert] at halert'
            cases halert'
            rw [henrollment] at henrollment'
            cases henrollment'
            exact (hchosen m hm).mp (hsame m hm hid)
          · refine (hchosen m hm).mpr ?_
            have hok : (enrollAlertInReconActivity lib db alertId).isOk = true := by
              rw [hcall]
              rfl
            exact hmeets alertId alert enrollment rfl rfl hok halert henrollment m hm hid

/-- A member's alert after a new alert is the one it was. -/
theorem member_alert_of_created (hlinked : Linked db) {m : Member} (hm : m ∈ db.members.rows)
    (new : NewAlert) :
    (db.alerts.insert (newAlertRow new) (newAlertRow_id new)).row? m.alertId =
      db.alerts.row? m.alertId := by
  obtain ⟨alert, halert⟩ := Option.isSome_iff_exists.mp (hlinked.alert m hm)
  rw [Table.insert_row?_of_some _ _ _ halert, halert]

/-- An activity after a change of status is the one it was but for its status. -/
theorem row_of_status {id activityId : Nat} {status : ActivityStatus} :
    (db.activities.update activityId (fun _ => true) (Activity.withStatus status)
        (Activity.withStatus_id status)).row? id =
      (db.activities.row? id).map fun activity =>
        if activity.id = activityId then activity.withStatus status else activity := by
  rw [Table.update_row?_eq_map]
  simp

theorem stepRecon_linked (hlinked : Linked db) (call : ReconCall) :
    Linked (stepRecon db call) := by
  cases stepRecon_cases hlinked call with
  | nothing hsame =>
    rw [hsame]
    exact hlinked
  | enrolled alertId activityId henrolled => exact henrolled.linked hlinked
  | created new hdb =>
    rw [hdb]
    refine ⟨fun m hm => ?_, hlinked.activity⟩
    rw [member_alert_of_created hlinked hm]
    exact hlinked.alert m hm
  | status activityId status hdb =>
    rw [hdb]
    refine ⟨hlinked.alert, fun m hm => ?_⟩
    rw [row_of_status, Option.isSome_map]
    exact hlinked.activity m hm

/-- **One operation** keeps the tables consistent just where it meets the condition. -/
theorem stepRecon_consistent_iff (hlinked : Linked db) (hdb : Consistent db) (call : ReconCall) :
    Consistent (stepRecon db call) ↔ Meets db call := by
  cases stepRecon_cases hlinked call with
  | nothing hsame hmeets =>
    rw [hsame]
    exact iff_of_true hdb hmeets
  | enrolled alertId activityId henrolled hmeets => exact (henrolled.consistent_iff hdb).trans hmeets
  | created new heq hmeets =>
    rw [heq]
    refine iff_of_true ⟨fun m hm alert hrow => ?_, hdb.member, hdb.counted⟩ hmeets
    rw [member_alert_of_created hlinked hm] at hrow
    exact hdb.context m hm alert hrow
  | status activityId status heq hmeets =>
    rw [heq]
    refine iff_of_true ⟨hdb.context, fun id activity hrow => ?_, fun id activity hrow => ?_⟩ hmeets
    · rw [row_of_status] at hrow
      obtain ⟨activity', hrow', -⟩ := Option.map_eq_some_iff.mp hrow
      exact hdb.member id activity' hrow'
    · rw [row_of_status] at hrow
      obtain ⟨activity', hrow', rfl⟩ := Option.map_eq_some_iff.mp hrow
      have hcount := hdb.counted id activity' hrow'
      split
      · exact hcount
      · exact hcount

end

theorem linked_empty : Linked .empty := ⟨nofun, nofun⟩

theorem consistent_empty : Consistent .empty := ⟨nofun, nofun, nofun⟩

/-- Digits are decimal, and every timestamp is the same moment. -/
def plainLibrary : ReconLibrary where
  py := { repr := fun _ => "", text := fun v => ((v.int?.map toString).getD ""),
          compare := fun _ _ => .error "" }
  isDigit := Char.isDigit
  decimal c := if c.isDigit then some (c.toNat - '0'.toNat) else none
  timestamptz _ := some 0

/-- A port scan of the web ports of a protected range. -/
def portScan : NewAlert where
  severity := "medium"
  sourceIp := some "198.51.100.7"
  source := some "pfsense"
  sourceType := some "firewall"
  createdAt := 0
  context := .obj
    [("protected_range_key", .str "203.0.113.0/24"),
      ("service_signature_ports", .arr [.int 80, .int 443]),
      ("first_seen", .str "2026-07-01T00:00:00Z"), ("last_seen", .str "2026-07-01T00:00:00Z")]

/-- The alert is enrolled, its activity resolved, and the alert enrolled again. -/
def enrolledAgain : List ReconCall :=
  [⟨.createAlert portScan, plainLibrary, true⟩, ⟨.enroll 1, plainLibrary, true⟩,
    ⟨.setStatus 1 .resolved, plainLibrary, true⟩, ⟨.enroll 1, plainLibrary, true⟩]

end SiemDashboard.ReconEnrollment
