import SiemDashboard.Core.NotificationPolicyService
import SiemDashboard.Lib.Runs

/-!
# Notifications about a changing recon activity

A change of an activity is announced where its fingerprint is not the last that was notified.  The delivery
compares the key of the announcement with all keys that were ever delivered.

* **Changes** — `Change`, `step`, `Announces`: what a call should do.
* **A call** — `announces_iff`: it does so unless its key was delivered before.
* **Runs** — `dueKeys`: the keys of the announcements a run should make; `announcesChanges_iff`.
-/

namespace SiemDashboard.ReconNotifications

open Python Tables NotificationDelivery NotificationService

/-! ## Changes -/

/-- What a fingerprint is about. -/
structure Material where
  severity : Option String
  status : Option String
  coordinationStatus : Option String
  primaryDestinationPorts : List Int

/-- A new state of the activity, with a call after it. -/
structure Change where
  material : Material
  policy : NotificationPolicy
  moment : Moment

/-- The activity after a change. -/
def Change.apply (change : Change) (activity : ReconActivity) : ReconActivity :=
  { activity with
    severity := change.material.severity
    status := change.material.status
    coordinationStatus := change.material.coordinationStatus
    primaryDestinationPorts := change.material.primaryDestinationPorts }

/-- The activity and the attempts to notify. -/
structure State where
  activity : ReconActivity
  attempts : Attempts

section

variable (env : Environment)

/-- The call after a change. -/
def call (s : State) (change : Change) : ReconNotified :=
  notifyForMaterialReconActivity env change.moment change.policy (change.apply s.activity) s.attempts

def step (s : State) (change : Change) : State :=
  ⟨(call env s change).activity, (call env s change).attempts⟩

/-- The activity was not opened yet, or its fingerprint is not the last that was notified. -/
def Due (activity : ReconActivity) : Prop :=
  activity.openedNotificationSentAt = none ∨
    activity.lastNotifiedFingerprint ≠ some (reconActivityMaterialFingerprint env activity)

instance (activity : ReconActivity) : Decidable (Due env activity) := inferInstanceAs (Decidable (_ ∨ _))

/-- What a call should do: it sends a message where one is due, and the current fingerprint is the last that was
    notified. -/
def Announces (s : State) (change : Change) : Prop :=
  ((call env s change).sentTo.isSome = true ↔ Due env (change.apply s.activity)) ∧
    (call env s change).activity.lastNotifiedFingerprint =
      some (reconActivityMaterialFingerprint env (change.apply s.activity))

instance (s : State) (change : Change) : Decidable (Announces env s change) :=
  inferInstanceAs (Decidable (_ ∧ _))

/-- The delivery of an announcement: the first one opens the activity. -/
def announcement (policy : NotificationPolicy) (activity : ReconActivity) : Delivery :=
  if activity.openedNotificationSentAt = none then openingDelivery env policy activity
  else updateDelivery env policy activity

def announcementKey (policy : NotificationPolicy) (activity : ReconActivity) : String :=
  (announcement env policy activity).key env

/-- The policy lets the notification through. -/
def Allows (activity : ReconActivity) (change : Change) : Prop :=
  (evaluateNotificationPolicy change.policy "recon_activity"
    ⟨change.material.severity, activity.source, activity.sourceType⟩ false).shouldNotify = true

/-- The adapter sends what it is asked to, and the database takes the record of it. -/
def Sends (w : Moment) : Prop :=
  (∀ row, w.takes row = true) ∧ ∃ result, w.adapter = .ok result ∧ result.success = true ∧
    result.circuitState.all validCircuitStates.contains = true

/-- The digests are texts without blanks. -/
def HexDigests : Prop := ∀ text, env.digest text ≠ "" ∧ strip (env.digest text) = env.digest text

/-! ## A call -/

variable {env}

theorem announcement_decision (policy : NotificationPolicy) (activity : ReconActivity) :
    (announcement env policy activity).decision = evaluateNotificationPolicy policy "recon_activity"
      ⟨activity.severity, activity.source, activity.sourceType⟩ false := by
  unfold announcement
  split <;> rfl

theorem announcement_allowDedup (policy : NotificationPolicy) (activity : ReconActivity) :
    (announcement env policy activity).allowDedup = true := by
  unfold announcement
  split <;> rfl

/-- What an adapter sends is recorded under the key of the delivery. -/
theorem recordAttemptSafe_sent (hhex : HexDigests env) {w : Moment} (attempts : Attempts) (d : Delivery)
    {result : AdapterResult} (htakes : ∀ row, w.takes row = true) (hsuccess : result.success = true)
    (hcircuit : result.circuitState.all validCircuitStates.contains = true) :
    ∃ attempt attempts', recordAttemptSafe env w attempts (d.sentAttempt env w result) =
        (some attempt, attempts') ∧ attempts'.rows = attempts.rows ++ [attempt] ∧
      attempt.idempotencyKey = d.key env ∧ attempt.status = .success := by
  have hkey : (d.sentAttempt env w result).idempotencyKey = d.key env := rfl
  have hstatus : (d.sentAttempt env w result).status = .success := by
    show deliveryStatusFromAdapterResult result = .success
    rw [deliveryStatusFromAdapterResult, if_pos hsuccess]
  have hcorrelation : strip (d.sentAttempt env w result).correlationId ≠ "" := by
    refine strip_ne_empty ?_
    show ("policy-" ++ textOr d.correlationKind d.eventKind ++ "-" ++ routeText d.decision.routeKey ++ "-" ++
      toString d.objectId ++ "-" ++ w.shortUuid).toList.any (fun c => !isSpace c) = true
    simp only [String.toList_append, List.any_append, Bool.or_eq_true]
    exact Or.inl (Or.inl (Or.inl (Or.inl (Or.inl (Or.inl (Or.inl (by decide)))))))
  obtain ⟨text, htext⟩ : ∃ text, d.key env = env.digest text := ⟨_, rfl⟩
  have hstrip : strip (d.key env) = d.key env := by
    rw [htext]
    exact (hhex text).2
  have hne : strip (d.key env) ≠ "" := by
    rw [hstrip, htext]
    exact (hhex text).1
  have hvalid : validateAttempt (d.sentAttempt env w result) = .ok () := by
    unfold validateAttempt
    rw [if_neg hcorrelation, hkey, if_neg hne]
    have hslack : strip "slack" ≠ "" := by decide +kernel
    have hsend : strip "send_message" ≠ "" := by decide +kernel
    have hstates : (!(d.sentAttempt env w result).circuitBreakerState.all validCircuitStates.contains) = false := by
      rw [Bool.not_eq_false']
      exact hcircuit
    rw [if_neg (show ¬ strip (d.sentAttempt env w result).provider = "" from hslack),
      if_neg (show ¬ strip (d.sentAttempt env w result).adapterName = "" from hslack),
      if_neg (show ¬ strip (d.sentAttempt env w result).action = "" from hsend), hstates]
    rfl
  refine ⟨attemptRow env.scrub (d.sentAttempt env w result) attempts.next,
    attempts.insert (attemptRow env.scrub (d.sentAttempt env w result)) (attemptRow_id _ _), ?_,
    Table.insert_rows attempts _ (attemptRow_id _ _), hstrip, hstatus⟩
  rw [recordAttemptSafe, createNotificationDeliveryAttempt, hvalid]
  dsimp only
  rw [if_pos (htakes _)]

/-- A delivery that is held back counts as not delivered. -/
theorem holdBack_notDelivered (attempts : Attempts) (w : Moment) (d : Delivery) (duplicate : Bool)
    (failureCode message : String) :
    (holdBack env attempts w d duplicate failureCode message).result.toOption.any wasDelivered = false := by
  unfold holdBack
  generalize recordAttemptSafe env w attempts _ = recorded
  rfl

/-- What becomes of an announcement: it is sent and recorded where no delivery of its key is found. -/
theorem deliverAndRecord_cases (hhex : HexDigests env) {w : Moment} (hsends : Sends w) {d : Delivery}
    (hallows : d.decision.shouldNotify = true) (hdedup : d.allowDedup = true) (activity : ReconActivity)
    (attempts : Attempts) (fingerprint : String) (openedAt : Option Int) :
    ((existingPolicyDelivery attempts (d.key env)).isSome = true ∧
      (deliverAndRecord env w activity attempts d fingerprint openedAt).sentTo = none ∧
      (deliverAndRecord env w activity attempts d fingerprint openedAt).activity = activity) ∨
    (existingPolicyDelivery attempts (d.key env) = none ∧
      (deliverAndRecord env w activity attempts d fingerprint openedAt).sentTo ≠ none ∧
      (deliverAndRecord env w activity attempts d fingerprint openedAt).activity =
        recordReconActivityNotification activity fingerprint openedAt w.now ∧
      ∃ attempt, (deliverAndRecord env w activity attempts d fingerprint openedAt).attempts.rows =
          attempts.rows ++ [attempt] ∧ attempt.idempotencyKey = d.key env ∧ attempt.status = .success) := by
  obtain ⟨htakes, result, hadapter, hsuccess, hcircuit⟩ := hsends
  have hnot : ¬ (!d.decision.shouldNotify) = true := by simp [hallows]
  cases hfound : existingPolicyDelivery attempts (d.key env) with
  | some earlier =>
    left
    have hdelivered : deliverNotification env attempts w d = holdBack env attempts w d true "duplicate_delivery"
        "Equivalent Slack notification already delivered; duplicate send suppressed." := by
      rw [deliverNotification, if_neg hnot, hdedup, hfound]
      rfl
    unfold deliverAndRecord
    rw [hdelivered]
    dsimp only
    rw [holdBack_notDelivered]
    exact ⟨rfl, holdBack_sentTo env attempts w d _ _ _, if_neg Bool.false_ne_true⟩
  | none =>
    right
    have hdelivered : deliverNotification env attempts w d = send env attempts w d := by
      rw [deliverNotification, if_neg hnot, hdedup, hfound]
      rfl
    obtain ⟨attempt, attempts', hrecorded, hrows, hkey, hstatus⟩ :=
      recordAttemptSafe_sent hhex attempts d htakes hsuccess hcircuit
    unfold deliverAndRecord
    rw [hdelivered]
    have hsend : (send env attempts w d).attempts = attempts' ∧
        (send env attempts w d).result.toOption.any wasDelivered = true := by
      unfold send
      dsimp only
      rw [hadapter]
      dsimp only
      rw [hrecorded]
      refine ⟨rfl, ?_⟩
      show (attempt.status = .success || attempt.status = .pending : Bool) = true
      rw [hstatus]
      rfl
    dsimp only
    rw [hsend.1, hsend.2]
    exact ⟨rfl, send_sentTo env attempts w d, if_pos rfl, attempt, hrows, hkey, hstatus⟩

/-- The activity after an announcement. -/
def announced (env : Environment) (w : Moment) (activity : ReconActivity) : ReconActivity :=
  recordReconActivityNotification activity (reconActivityMaterialFingerprint env activity)
    (if activity.openedNotificationSentAt = none then some w.now else none) w.now

/-- A call that is due makes the announcement. -/
theorem call_of_due {s : State} {change : Change} (hallows : Allows s.activity change)
    (hdue : Due env (change.apply s.activity)) :
    call env s change = deliverAndRecord env change.moment (change.apply s.activity) s.attempts
      (announcement env change.policy (change.apply s.activity))
      (reconActivityMaterialFingerprint env (change.apply s.activity))
      (if (change.apply s.activity).openedNotificationSentAt = none then some change.moment.now else none) := by
  have hallowed : (evaluateNotificationPolicy change.policy "recon_activity"
      ⟨(change.apply s.activity).severity, (change.apply s.activity).source,
        (change.apply s.activity).sourceType⟩ false).shouldNotify = true := hallows
  unfold call notifyForMaterialReconActivity announcement
  dsimp only
  rw [if_neg (by simp [hallowed])]
  cases hopened : (change.apply s.activity).openedNotificationSentAt with
  | none =>
    rw [if_pos (by simp), if_pos rfl, if_pos rfl]
  | some opened =>
    have hlast := hdue.resolve_left (by simp [hopened])
    rw [if_neg (by simp), if_neg hlast, if_neg (by simp), if_neg (by simp)]

/-- A call that is not due does nothing. -/
theorem call_of_not_due {s : State} {change : Change} (hallows : Allows s.activity change)
    (hdue : ¬ Due env (change.apply s.activity)) :
    (call env s change).sentTo = none ∧ (call env s change).activity = change.apply s.activity ∧
      (call env s change).attempts = s.attempts ∧
      (change.apply s.activity).lastNotifiedFingerprint =
        some (reconActivityMaterialFingerprint env (change.apply s.activity)) := by
  obtain ⟨hopened, hlast⟩ := not_or.1 hdue
  have hlast := not_not.1 hlast
  have hallowed : (evaluateNotificationPolicy change.policy "recon_activity"
      ⟨(change.apply s.activity).severity, (change.apply s.activity).source,
        (change.apply s.activity).sourceType⟩ false).shouldNotify = true := hallows
  have hsome := Option.isSome_iff_ne_none.2 hopened
  unfold call notifyForMaterialReconActivity
  dsimp only
  rw [if_neg (by simp [hallowed]), if_neg (by simp [hsome]), if_pos hlast]
  exact ⟨rfl, rfl, rfl, hlast⟩

/-- What a call that is due comes to. -/
theorem call_cases (hhex : HexDigests env) {s : State} {change : Change} (hallows : Allows s.activity change)
    (hsends : Sends change.moment) (hdue : Due env (change.apply s.activity)) :
    ((existingPolicyDelivery s.attempts
          (announcementKey env change.policy (change.apply s.activity))).isSome = true ∧
        (call env s change).sentTo = none) ∨
      (existingPolicyDelivery s.attempts
          (announcementKey env change.policy (change.apply s.activity)) = none ∧
        (call env s change).sentTo ≠ none ∧
        (call env s change).activity = announced env change.moment (change.apply s.activity) ∧
        ∃ attempt, (call env s change).attempts.rows = s.attempts.rows ++ [attempt] ∧
          attempt.idempotencyKey = announcementKey env change.policy (change.apply s.activity) ∧
          attempt.status = .success) := by
  have hallowed : (announcement env change.policy (change.apply s.activity)).decision.shouldNotify = true := by
    rw [announcement_decision]
    exact hallows
  rw [call_of_due hallows hdue]
  have hcases := deliverAndRecord_cases hhex hsends hallowed (announcement_allowDedup _ _)
    (change.apply s.activity) s.attempts (reconActivityMaterialFingerprint env (change.apply s.activity))
    (if (change.apply s.activity).openedNotificationSentAt = none then some change.moment.now else none)
  rcases hcases with ⟨hfound, hsent, -⟩ | hsent
  · exact Or.inl ⟨hfound, hsent⟩
  · exact Or.inr hsent

/-- A call does what it should, unless its key was delivered before. -/
theorem announces_iff (hhex : HexDigests env) {s : State} {change : Change}
    (hallows : Allows s.activity change) (hsends : Sends change.moment) :
    Announces env s change ↔ (Due env (change.apply s.activity) →
      existingPolicyDelivery s.attempts
        (announcementKey env change.policy (change.apply s.activity)) = none) := by
  by_cases hdue : Due env (change.apply s.activity)
  · rw [Announces, iff_true_right hdue, forall_prop_of_true hdue]
    rcases call_cases hhex hallows hsends hdue with ⟨hfound, hsent⟩ | ⟨hnone, hsent, hactivity, -⟩
    · refine iff_of_false ?_ ?_
      · rw [hsent]
        rintro ⟨hsome, -⟩
        cases hsome
      · intro hnone
        rw [hnone] at hfound
        cases hfound
    · refine iff_of_true ⟨Option.isSome_iff_ne_none.2 hsent, ?_⟩ hnone
      rw [hactivity]
      rfl
  · obtain ⟨hsent, hactivity, -, hlast⟩ := call_of_not_due hallows hdue
    refine iff_of_true ⟨?_, ?_⟩ fun h => absurd h hdue
    · rw [hsent]
      exact iff_of_false Bool.false_ne_true hdue
    · rw [hactivity]
      exact hlast

/-! ## Runs -/

/-- After a delivery its key is found, and the others are as before. -/
theorem existingPolicyDelivery_append {attempts attempts' : Attempts} {attempt : NotificationDeliveryAttempt}
    (hrows : attempts'.rows = attempts.rows ++ [attempt]) (hstatus : attempt.status = .success) (key : String) :
    existingPolicyDelivery attempts' key = none ↔
      attempt.idempotencyKey ≠ key ∧ existingPolicyDelivery attempts key = none := by
  unfold existingPolicyDelivery listNotificationDeliveryAttempts
  rw [attemptsOf_append hrows]
  split
  · next hkey =>
    refine iff_of_false ?_ fun h => h.1 hkey
    have hmin : min 10 500 = 9 + 1 := rfl
    rw [hmin, List.take_succ_cons, List.find?_cons_of_pos (by simp [hstatus])]
    exact Option.some_ne_none attempt
  · next hkey => exact (and_iff_right hkey).symm

/-- The keys of the announcements that are due in a run. -/
def dueKeys (env : Environment) : ReconActivity → List Change → List String
  | _, [] => []
  | activity, change :: changes =>
    if Due env (change.apply activity) then
      announcementKey env change.policy (change.apply activity) ::
        dueKeys env (announced env change.moment (change.apply activity)) changes
    else dueKeys env (change.apply activity) changes

/-- The keys of the announcements that are due differ, from each other and from those of earlier
    deliveries. -/
def Fresh (env : Environment) (s : State) (changes : List Change) : Prop :=
  (dueKeys env s.activity changes).Nodup ∧
    ∀ key ∈ dueKeys env s.activity changes, existingPolicyDelivery s.attempts key = none

/-- A call that is due and finds its key takes it from those that the rest of the run may use; one that is
    not due takes none. -/
theorem fresh_cons (hhex : HexDigests env) {s : State} {change : Change} {changes : List Change}
    (hallows : Allows s.activity change) (hsends : Sends change.moment) :
    Fresh env s (change :: changes) ↔ Announces env s change ∧ Fresh env (step env s change) changes := by
  rw [announces_iff hhex hallows hsends, Fresh, dueKeys]
  by_cases hdue : Due env (change.apply s.activity)
  · rw [if_pos hdue, forall_prop_of_true hdue, List.nodup_cons, List.forall_mem_cons]
    rcases call_cases hhex hallows hsends hdue with ⟨hfound, -⟩ | ⟨hnone, -, hactivity, attempt, hrows, hkey,
      hstatus⟩
    · have hne := Option.isSome_iff_ne_none.1 hfound
      exact iff_of_false (fun h => hne h.2.1) fun h => hne h.1
    · have hstep : (step env s change).activity = announced env change.moment (change.apply s.activity) :=
        hactivity
      have hlater : ∀ key, existingPolicyDelivery (step env s change).attempts key = none ↔
          announcementKey env change.policy (change.apply s.activity) ≠ key ∧
            existingPolicyDelivery s.attempts key = none := by
        intro key
        rw [← hkey]
        exact existingPolicyDelivery_append hrows hstatus key
      rw [Fresh, hstep, and_iff_right hnone, and_iff_right hnone]
      simp only [hlater]
      constructor
      · rintro ⟨⟨hnew, hnodup⟩, hall⟩
        exact ⟨hnodup, fun key hmem => ⟨fun heq => hnew (heq ▸ hmem), hall key hmem⟩⟩
      · rintro ⟨hnodup, hall⟩
        exact ⟨⟨fun hmem => (hall _ hmem).1 rfl, hnodup⟩, fun key hmem => (hall key hmem).2⟩
  · obtain ⟨-, hactivity, hattempts, -⟩ := call_of_not_due hallows hdue
    have hstep : (step env s change).activity = change.apply s.activity := hactivity
    have hsame : (step env s change).attempts = s.attempts := hattempts
    rw [if_neg hdue, and_iff_right fun h => absurd h hdue, Fresh, hstep, hsame]

/-- A change is allowed whatever the call before made of the activity. -/
theorem allows_step {s : State} {change other : Change} (hhex : HexDigests env)
    (hallows : Allows s.activity change) (hsends : Sends change.moment) (hother : Allows s.activity other)
    (hannounces : Announces env s change) : Allows (step env s change).activity other := by
  have hsame : (step env s change).activity.source = s.activity.source ∧
      (step env s change).activity.sourceType = s.activity.sourceType := by
    show (call env s change).activity.source = _ ∧ (call env s change).activity.sourceType = _
    by_cases hdue : Due env (change.apply s.activity)
    · have hnone := (announces_iff hhex hallows hsends).1 hannounces hdue
      rcases call_cases hhex hallows hsends hdue with ⟨hfound, -⟩ | ⟨-, -, hactivity, -⟩
      · rw [hnone] at hfound
        cases hfound
      · rw [hactivity]
        exact ⟨rfl, rfl⟩
    · rw [(call_of_not_due hallows hdue).2.1]
      exact ⟨rfl, rfl⟩
  rw [Allows, hsame.1, hsame.2]
  exact hother

/-- A run that announces every change has fresh keys. -/
theorem fresh_of_announces (hhex : HexDigests env) {s : State} {changes : List Change}
    (hallows : ∀ change ∈ changes, Allows s.activity change) (hsends : ∀ change ∈ changes, Sends change.moment)
    (hrun : Runs.Along (step env) (Announces env) s changes) : Fresh env s changes := by
  induction changes generalizing s with
  | nil => exact ⟨List.nodup_nil, fun key hkey => by cases hkey⟩
  | cons change changes ih =>
    have hallow := hallows change List.mem_cons_self
    have hsend := hsends change List.mem_cons_self
    refine (fresh_cons hhex hallow hsend).2 ⟨hrun.1, ih (fun other hother => ?_) (fun other hother => ?_) hrun.2⟩
    · exact allows_step hhex hallow hsend (hallows other (List.mem_cons_of_mem change hother)) hrun.1
    · exact hsends other (List.mem_cons_of_mem change hother)

end

/-- **Every change is announced once**, just where the keys of the announcements that are due differ, from each
    other and from those of earlier deliveries. -/
theorem announcesChanges_iff (env : Environment) (hhex : HexDigests env) (s : State) (changes : List Change)
    (hallows : ∀ change ∈ changes, Allows s.activity change)
    (hsends : ∀ change ∈ changes, Sends change.moment) :
    Runs.Along (step env) (Announces env) s changes ↔
      (dueKeys env s.activity changes).Nodup ∧
        ∀ key ∈ dueKeys env s.activity changes, existingPolicyDelivery s.attempts key = none := by
  refine ⟨fresh_of_announces hhex hallows hsends, fun hfresh => ?_⟩
  induction changes generalizing s with
  | nil => trivial
  | cons change changes ih =>
    have hallow := hallows change List.mem_cons_self
    have hsend := hsends change List.mem_cons_self
    obtain ⟨hannounces, hrest⟩ := (fresh_cons hhex hallow hsend).1 hfresh
    refine ⟨hannounces, ih (step env s change) (fun other hother => ?_) (fun other hother => ?_) hrest⟩
    · exact allows_step hhex hallow hsend (hallows other (List.mem_cons_of_mem change hother)) hannounces
    · exact hsends other (List.mem_cons_of_mem change hother)

/-- The key of an update names the activity, the route and the fingerprint: an update that returns to a fingerprint
    has the key of the earlier one. -/
theorem announcementKey_update (env : Environment) (policy : NotificationPolicy) {activity : ReconActivity}
    (hopened : activity.openedNotificationSentAt ≠ none) :
    announcementKey env policy activity = env.digest ("policy:recon_activity:" ++ toString activity.id ++ ":" ++
      routeText (updateDelivery env policy activity).decision.routeKey ++ ":investigation_update:playbook:update:" ++
      reconActivityMaterialFingerprint env activity) := by
  have hpurpose : (updateDelivery env policy activity).purposeOf = "investigation_update" := by
    show normalizeNotificationPurpose (some "investigation_update") "incident_created" = _
    decide +kernel
  have hstage : deliveryStageForPurpose "investigation_update" = "playbook" := by decide +kernel
  have hsuffix : (updateDelivery env policy activity).idempotencyScopeSuffix.filter (· ≠ "") =
      some ("update:" ++ reconActivityMaterialFingerprint env activity) := by
    refine Option.filter_eq_some_iff.2 ⟨rfl, decide_eq_true fun hempty => ?_⟩
    have hlength := congrArg String.length hempty
    rw [String.length_append] at hlength
    exact absurd hlength (by simp)
  rw [announcementKey, announcement, if_neg hopened, Delivery.key, hpurpose, hstage,
    notificationIdempotencyKey, hsuffix]
  have hhead : "policy:recon_activity:" = "policy:" ++ "recon_activity" ++ ":" := by decide
  have hmiddle : ":investigation_update:playbook:update:" =
      ":" ++ "investigation_update" ++ ":" ++ "playbook" ++ (":" ++ "update:") := by decide
  rw [hhead, hmiddle]
  simp only [String.append_assoc]
  rfl

/-! ## An activity that returns -/

/-- Digests that show their text. -/
def bracketEnvironment : Environment := ⟨fun text => "<" ++ text ++ ">", id⟩

theorem bracketEnvironment_hexDigests : HexDigests bracketEnvironment := by
  intro text
  constructor
  · intro hempty
    have hlist := congrArg String.toList hempty
    simp [bracketEnvironment] at hlist
  · refine String.toList_inj.1 ?_
    show (String.ofList (stripChars ("<" ++ text ++ ">").toList)).toList = ("<" ++ text ++ ">").toList
    have hlist : ("<" ++ text ++ ">").toList = '<' :: (text.toList ++ ['>']) := by simp
    have hdrop : ('<' :: (text.toList ++ ['>'])).dropWhile isSpace = '<' :: (text.toList ++ ['>']) :=
      List.dropWhile_cons_of_neg (by decide)
    rw [String.toList_ofList, hlist, stripChars, hdrop, ← List.cons_append]
    exact List.rdropWhile_concat_neg isSpace _ _ (by decide)

/-- A policy that lets the notifications of a firewall through. -/
def openPolicy : NotificationPolicy where
  status := "applied"
  slackEnabled := true
  minimumSeverity := some "medium"
  notifyOnAlerts := true
  notifyOnIncidents := true
  slackFormat := "compact"
  pfsenseDestination := some "#firewall"
  honeypotDestination := some "#honeypot"
  criticalCrossSourceDestination := some "#critical"

/-- The activity takes a status, and the adapter sends what it is asked to. -/
def statusChange (status : String) : Change where
  material := ⟨some "high", some status, some "likely_coordinated", [22, 443]⟩
  policy := openPolicy
  moment :=
    { now := 0
      shortUuid := "0123456789"
      takes := fun _ => true
      adapter := .ok
        { success := true
          mode := some "real"
          message := some "sent"
          failureClassification := none
          timedOut := false
          timeoutSeconds := none
          circuitState := some "closed" } }

/-- An activity that nobody was told of. -/
def freshState : State where
  activity :=
    { id := 7
      severity := some "high"
      status := some "active"
      source := some "pfsense"
      sourceType := some "firewall"
      coordinationStatus := some "likely_coordinated"
      primaryDestinationPorts := [22, 443]
      openedNotificationSentAt := none
      lastNotifiedFingerprint := none
      lastNotifiedAt := none }
  attempts := .empty

theorem statusChange_allows (status : String) : Allows freshState.activity (statusChange status) := by
  show (evaluateNotificationPolicy openPolicy "recon_activity" ⟨some "high", some "pfsense", some "firewall"⟩
    false).shouldNotify = true
  decide +kernel

theorem statusChange_sends (status : String) : Sends (statusChange status).moment :=
  ⟨fun _ => rfl, _, rfl, rfl, rfl⟩

/-- An activity that goes dormant and comes back is announced three times. -/
theorem threeChanges_announced :
    Runs.Along (step bracketEnvironment) (Announces bracketEnvironment) freshState
      [statusChange "active", statusChange "dormant", statusChange "active"] := by
  refine (announcesChanges_iff bracketEnvironment bracketEnvironment_hexDigests freshState
    [statusChange "active", statusChange "dormant", statusChange "active"] ?_ ?_).2 ⟨?_, ?_⟩
  · intro change hchange
    simp only [List.mem_cons, List.not_mem_nil, or_false] at hchange
    rcases hchange with rfl | rfl | rfl
    · exact statusChange_allows "active"
    · exact statusChange_allows "dormant"
    · exact statusChange_allows "active"
  · intro change hchange
    simp only [List.mem_cons, List.not_mem_nil, or_false] at hchange
    rcases hchange with rfl | rfl | rfl
    · exact statusChange_sends "active"
    · exact statusChange_sends "dormant"
    · exact statusChange_sends "active"
  · decide +kernel
  · intro key _
    rfl

/-- It goes dormant a second time: nobody is told, and the last notified fingerprint stays that of the active
    state. -/
theorem secondDormancy_notAnnounced :
    ¬ ∀ changes : List Change, (∀ change ∈ changes, Allows freshState.activity change) →
      (∀ change ∈ changes, Sends change.moment) →
        Runs.Along (step bracketEnvironment) (Announces bracketEnvironment) freshState changes := by
  intro h
  have hall : ∀ change ∈ ["active", "dormant", "active", "dormant"].map statusChange,
      Allows freshState.activity change ∧ Sends change.moment := by
    intro change hchange
    obtain ⟨status, -, rfl⟩ := List.mem_map.1 hchange
    exact ⟨statusChange_allows status, statusChange_sends status⟩
  have hallows := fun change hchange => (hall change hchange).1
  have hsends := fun change hchange => (hall change hchange).2
  have hfresh := fresh_of_announces bracketEnvironment_hexDigests hallows hsends (h _ hallows hsends)
  exact absurd hfresh.1 (by decide +kernel)

end SiemDashboard.ReconNotifications
