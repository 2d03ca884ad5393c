import SiemDashboard.Core.NotificationDeliveryStore

/-!
# Notification policy service

`core/notification_policy_service.py`: which notifications the policy lets through, and their
delivery, with an attempt recorded whatever becomes of it.  The text of a message is left out: no
decision of the service reads it.

* **Policy** — `NotificationPolicy`, `evaluateNotificationPolicy`.
* **Purposes and keys** — `normalizeNotificationPurpose`, `deliveryStageForPurpose`,
  `notificationIdempotencyKey`.
* **Delivery** — `existingPolicyDelivery`, `recordAttemptSafe`, `deliverNotification`.
* **Recon activities** — `reconActivityMaterialFingerprint`, `notifyForMaterialReconActivity`.
* **What is sent** — `deliverNotification_sentTo`.
-/

namespace SiemDashboard.NotificationService

open Python Tables NotificationDelivery

/-! ## Policy -/

/-- `str(value or "")`. -/
def textOr (value : Option String) (default : String) : String :=
  (value.filter (· ≠ "")).getD default

/-- `str(value or "").strip().lower()`. -/
def folded (value : Option String) (default : String) : String := lower (strip (textOr value default))

/-- `SEVERITY_RANK`. -/
def severityRank (severity : String) : Option Nat :=
  [("low", 1), ("medium", 2), ("high", 3), ("critical", 4)].lookup severity

/-- The routes of a notification. -/
inductive RouteKey where
  | pfsense
  | honeypot
  | criticalCrossSource
deriving DecidableEq, Repr

/-- The text of a route, `unrouted` where there is none. -/
def routeText : Option RouteKey → String
  | none => "unrouted"
  | some .pfsense => "pfsense"
  | some .honeypot => "honeypot"
  | some .criticalCrossSource => "critical_cross_source"

/-- The effective policy. -/
structure NotificationPolicy where
  status : String
  slackEnabled : Bool
  minimumSeverity : Option String
  notifyOnAlerts : Bool
  notifyOnIncidents : Bool
  slackFormat : String
  pfsenseDestination : Option String
  honeypotDestination : Option String
  criticalCrossSourceDestination : Option String

/-- What a notification is about. -/
structure Subject where
  severity : Option String
  source : Option String
  sourceType : Option String

/-- What `evaluate_notification_policy` returns. -/
structure PolicyDecision where
  shouldNotify : Bool
  reason : String
  routeKey : Option RouteKey
  destination : Option String
  slackFormat : Option String

/-- `normalize_notification_source`. -/
def normalizeNotificationSource (source sourceType : Option String) : Option RouteKey :=
  if folded source "" = "pfsense" || folded sourceType "" = "firewall" then some .pfsense
  else if folded source "" = "honeypot" || folded sourceType "" = "honeypot" then some .honeypot
  else none

/-- `_policy_destination`. -/
def policyDestination (policy : NotificationPolicy) (routeKey : RouteKey) : Option String :=
  let value := match routeKey with
    | .pfsense => policy.pfsenseDestination
    | .honeypot => policy.honeypotDestination
    | .criticalCrossSource => policy.criticalCrossSourceDestination
  (value.map strip).filter (· ≠ "")

/-- A decision against a notification. -/
def suppressed (reason : String) (routeKey : Option RouteKey) : PolicyDecision where
  shouldNotify := false
  reason := reason
  routeKey := routeKey
  destination := none
  slackFormat := none

/-- `evaluate_notification_policy`. -/
def evaluateNotificationPolicy (policy : NotificationPolicy) (eventKind : String)
    (subject : Subject) (bypassSlackDisabled : Bool) : PolicyDecision :=
  if policy.status = "unavailable" then suppressed "policy_unavailable" none
  else
    let kind := lower (strip eventKind)
    if (kind = "alert" || kind = "recon_activity") && !policy.notifyOnAlerts then
      suppressed "alerts_disabled" none
    else if kind = "incident" && !policy.notifyOnIncidents then
      suppressed "incidents_disabled" none
    else if !bypassSlackDisabled && !policy.slackEnabled then suppressed "slack_disabled" none
    else
      let severity := folded subject.severity ""
      match severityRank severity, severityRank (folded policy.minimumSeverity "high") with
      | some rank, some threshold =>
        if rank < threshold then suppressed "below_minimum_severity" none
        else
          let routeKey := (normalizeNotificationSource subject.source subject.sourceType).or
            (if severity = "critical" then some .criticalCrossSource else none)
          match routeKey, routeKey.bind (policyDestination policy) with
          | some route, some destination =>
            { shouldNotify := true
              reason := "eligible"
              routeKey := some route
              destination := some destination
              slackFormat := some policy.slackFormat }
          | _, _ => suppressed "source_not_routed" routeKey
      | _, _ => suppressed "invalid_severity" none

/-! ## Purposes and keys -/

/-- `NOTIFICATION_PURPOSES`. -/
def notificationPurposes : List String :=
  ["immediate_alert", "incident_created", "investigation_update", "containment_outcome", "route_test"]

/-- `_normalize_notification_purpose`. -/
def normalizeNotificationPurpose (value : Option String) (default : String) : String :=
  if notificationPurposes.contains (folded value "") then folded value "" else default

/-- `_delivery_stage_for_purpose`. -/
def deliveryStageForPurpose (purpose : String) : String :=
  if purpose = "route_test" then "test"
  else if ["investigation_update", "containment_outcome"].contains purpose then "playbook"
  else "initial"

/-- What is the same for all deliveries. -/
structure Environment where
  /-- `hashlib.sha256(text.encode("utf-8")).hexdigest()[:64]`. -/
  digest : String → String
  /-- `_URL_RE.sub("[REDACTED_URL]", text)`. -/
  scrub : String → String

/-- `_notification_idempotency_key`. -/
def notificationIdempotencyKey (env : Environment) (kind : String) (objectId : Nat)
    (routeKey : Option RouteKey) (purpose deliveryStage : String) (scopeSuffix : Option String) :
    String :=
  let suffix := match scopeSuffix.filter (· ≠ "") with
    | some text => ":" ++ text
    | none => ""
  env.digest ("policy:" ++ kind ++ ":" ++ toString objectId ++ ":" ++ routeText routeKey ++ ":" ++
    purpose ++ ":" ++ deliveryStage ++ suffix)

/-- `_notification_correlation_id`, with ten digits of a fresh uuid. -/
def notificationCorrelationId (kind : String) (objectId : Nat) (routeKey : Option RouteKey)
    (shortUuid : String) : String :=
  "policy-" ++ kind ++ "-" ++ routeText routeKey ++ "-" ++ toString objectId ++ "-" ++ shortUuid

/-! ## Delivery -/

/-- What an adapter returns, with the fields of its metadata. -/
structure AdapterResult where
  success : Bool
  mode : Option String
  message : Option String
  failureClassification : Option String
  timedOut : Bool
  timeoutSeconds : Option Int
  circuitState : Option String

/-- `_delivery_status_from_adapter_result`. -/
def deliveryStatusFromAdapterResult (result : AdapterResult) : DeliveryStatus :=
  if result.success then .success
  else if folded result.failureClassification "" = "timeout" || result.timedOut then .timeout
  else if ["circuit_open", "circuit_state_invalid", "provider_rate_limited", "guard_failed",
      "credential_missing"].contains (folded result.failureClassification "") then
    .blocked
  else .failed

/-- The arguments of `_deliver_notification`. -/
structure Delivery where
  eventKind : String
  objectId : Nat
  subject : Subject
  policy : NotificationPolicy
  purpose : Option String
  bypassSlackDisabled : Bool := false
  allowDedup : Bool := true
  playbookExecutionId : Option Nat := none
  playbookStepIndex : Option Int := none
  correlationKind : Option String := none
  destinationLabelOverride : Option String := none
  idempotencyScopeSuffix : Option String := none
  reconActivityId : Option Nat := none

/-- What a delivery finds at its moment. -/
structure Moment where
  now : Int
  shortUuid : String
  /-- The rows the database takes. -/
  takes : NotificationDeliveryAttempt → Bool
  /-- What the adapter returns or raises, where it is asked to send. -/
  adapter : Except String AdapterResult

/-- `_existing_policy_delivery`. -/
def existingPolicyDelivery (attempts : Attempts) (idempotencyKey : String) :
    Option NotificationDeliveryAttempt :=
  (listNotificationDeliveryAttempts attempts idempotencyKey 10).find? fun a =>
    a.status = .success || a.status = .pending

/-- The normalized purpose of a delivery. -/
def Delivery.purposeOf (d : Delivery) : String :=
  normalizeNotificationPurpose d.purpose
    (if d.eventKind = "alert" then "immediate_alert" else "incident_created")

def Delivery.decision (d : Delivery) : PolicyDecision :=
  evaluateNotificationPolicy d.policy d.eventKind d.subject d.bypassSlackDisabled

/-- The idempotency key of a delivery. -/
def Delivery.key (env : Environment) (d : Delivery) : String :=
  notificationIdempotencyKey env d.eventKind d.objectId d.decision.routeKey d.purposeOf
    (deliveryStageForPurpose d.purposeOf) d.idempotencyScopeSuffix

/-- The mode of an attempt: that of the adapter where it is a mode, else that of the status. -/
def recordMode (modeOverride : Option String) (status : DeliveryStatus) : DeliveryMode :=
  match folded modeOverride "" with
  | "simulation" => .simulation
  | "real" => .real
  | _ => if status = .success || status = .failed || status = .timeout then .real else .simulation

/-- The attempt `_record_attempt` creates. -/
def Delivery.attempt (env : Environment) (d : Delivery) (w : Moment) (status : DeliveryStatus)
    (failureCode failureMessage modeOverride : Option String) (timeoutSeconds : Option Int)
    (circuitBreakerState : Option String) : NewAttempt where
  correlationId := notificationCorrelationId (textOr d.correlationKind d.eventKind) d.objectId
    d.decision.routeKey w.shortUuid
  idempotencyKey := d.key env
  provider := "slack"
  mode := recordMode modeOverride status
  status := status
  adapterName := "slack"
  action := "send_message"
  playbookExecutionId := d.playbookExecutionId
  playbookStepIndex := d.playbookStepIndex
  incidentId := if d.eventKind = "incident" && d.objectId > 0 then some d.objectId else none
  alertId := if d.eventKind = "alert" && d.objectId > 0 then some d.objectId else none
  reconActivityId := d.reconActivityId
  requestedAt := w.now
  failureCode := failureCode
  failureMessage := failureMessage
  timeoutSeconds := timeoutSeconds
  circuitBreakerState := circuitBreakerState

/-- `_record_attempt_safe`: what recording raises is dropped. -/
def recordAttemptSafe (env : Environment) (w : Moment) (attempts : Attempts) (new : NewAttempt) :
    Option NotificationDeliveryAttempt × Attempts :=
  match createNotificationDeliveryAttempt env.scrub w.takes attempts new with
  | .ok (attempt, attempts) => (some attempt, attempts)
  | .error _ => (none, attempts)

/-- What `_deliver_notification` returns. -/
structure DeliveryResult where
  success : Bool
  suppressed : Bool
  duplicate : Bool
  purpose : String
  deliveryStage : String
  routeKey : String
  message : Option String
  attempt : Option NotificationDeliveryAttempt
  adapterResult : Option AdapterResult
  policyDecision : PolicyDecision

/-- What a delivery comes to: the destination the adapter was asked to send to, what the caller gets,
    and the attempts after it. -/
structure Delivered where
  sentTo : Option String
  result : Except String DeliveryResult
  attempts : Attempts

def heldBack (d : Delivery) (duplicate : Bool) (message : String)
    (attempt : Option NotificationDeliveryAttempt) : DeliveryResult where
  success := false
  suppressed := true
  duplicate := duplicate
  purpose := d.purposeOf
  deliveryStage := deliveryStageForPurpose d.purposeOf
  routeKey := routeText d.decision.routeKey
  message := match attempt with
    | some a => a.failureMessage
    | none => some message
  attempt := attempt
  adapterResult := none
  policyDecision := d.decision

/-- A delivery that is held back, with its attempt recorded as blocked. -/
def holdBack (env : Environment) (attempts : Attempts) (w : Moment) (d : Delivery)
    (duplicate : Bool) (failureCode message : String) : Delivered :=
  let (attempt, attempts) := recordAttemptSafe env w attempts
    (d.attempt env w .blocked (some failureCode) (some message) none none none)
  { sentTo := none
    result := .ok (heldBack d duplicate message attempt)
    attempts := attempts }

def Delivery.sentAttempt (env : Environment) (d : Delivery) (w : Moment) (result : AdapterResult) :
    NewAttempt :=
  d.attempt env w (deliveryStatusFromAdapterResult result) result.failureClassification
    (if result.success then none else result.message) (some (textOr result.mode "simulation"))
    result.timeoutSeconds result.circuitState

/-- The delivery through the adapter. -/
def send (env : Environment) (attempts : Attempts) (w : Moment) (d : Delivery) : Delivered :=
  let destination := (d.destinationLabelOverride.filter (· ≠ "")).or d.decision.destination
  match w.adapter with
  | .error message => ⟨some (destination.getD ""), .error message, attempts⟩
  | .ok result =>
    let (attempt, attempts) := recordAttemptSafe env w attempts (d.sentAttempt env w result)
    { sentTo := some (destination.getD "")
      result := .ok
        { success := match attempt with
            | some a => a.status = .success
            | none => result.success
          suppressed := false
          duplicate := false
          purpose := d.purposeOf
          deliveryStage := deliveryStageForPurpose d.purposeOf
          routeKey := routeText d.decision.routeKey
          message := result.message
          attempt := attempt
          adapterResult := some result
          policyDecision := d.decision }
      attempts := attempts }

/-- `_deliver_notification`. -/
def deliverNotification (env : Environment) (attempts : Attempts) (w : Moment) (d : Delivery) :
    Delivered :=
  if !d.decision.shouldNotify then
    holdBack env attempts w d false d.decision.reason
      ("Notification policy suppressed Slack delivery: " ++ d.decision.reason ++ ".")
  else if d.allowDedup && (existingPolicyDelivery attempts (d.key env)).isSome then
    holdBack env attempts w d true "duplicate_delivery"
      "Equivalent Slack notification already delivered; duplicate send suppressed."
  else send env attempts w d

/-! ## Recon activities -/

/-- What `fetch_recon_activity_notification_context` reads of an activity. -/
structure ReconActivity where
  id : Nat
  severity : Option String
  status : Option String
  source : Option String
  sourceType : Option String
  coordinationStatus : Option String
  primaryDestinationPorts : List Int
  openedNotificationSentAt : Option Int
  lastNotifiedFingerprint : Option String
  lastNotifiedAt : Option Int

/-- Four digits in base 16. -/
def hexDigits (n : Nat) : List Char :=
  [n / 4096 % 16, n / 256 % 16, n / 16 % 16, n % 16].map Nat.digitChar

/-- A character as `json.dumps` writes it. -/
def jsonChar (c : Char) : List Char :=
  if c = '"' then ['\\', '"']
  else if c = '\\' then ['\\', '\\']
  else if c = '\n' then ['\\', 'n']
  else if c = '\r' then ['\\', 'r']
  else if c = '\t' then ['\\', 't']
  else if c.toNat = 8 then ['\\', 'b']
  else if c.toNat = 12 then ['\\', 'f']
  else if 32 ≤ c.toNat ∧ c.toNat ≤ 126 then [c]
  else if c.toNat < 65536 then '\\' :: 'u' :: hexDigits c.toNat
  else
    '\\' :: 'u' :: hexDigits (55296 + (c.toNat - 65536) / 1024) ++
      '\\' :: 'u' :: hexDigits (56320 + (c.toNat - 65536) % 1024)

/-- `json.dumps` of a text. -/
def jsonString (text : String) : String :=
  String.ofList ('"' :: text.toList.flatMap jsonChar ++ ['"'])

/-- What the fingerprint of an activity is computed from. -/
def materialText (activity : ReconActivity) : String :=
  "\x7b\"coordination_status\":" ++ jsonString (lower (textOr activity.coordinationStatus "")) ++
    ",\"primary_destination_ports\":[" ++
    ",".intercalate ((activity.primaryDestinationPorts.take 5).map toString) ++ "],\"severity\":" ++
    jsonString (lower (textOr activity.severity "")) ++ ",\"status\":" ++
    jsonString (lower (textOr activity.status "")) ++ "\x7d"

/-- `_recon_activity_material_fingerprint`. -/
def reconActivityMaterialFingerprint (env : Environment) (activity : ReconActivity) : String :=
  env.digest (materialText activity)

/-- The delivery of `notify_for_recon_activity`. -/
def reconDelivery (policy : NotificationPolicy) (activity : ReconActivity)
    (purpose idempotencyScopeSuffix : String) : Delivery where
  eventKind := "recon_activity"
  objectId := activity.id
  subject := ⟨activity.severity, activity.source, activity.sourceType⟩
  policy := policy
  purpose := some purpose
  idempotencyScopeSuffix := some idempotencyScopeSuffix
  reconActivityId := some activity.id

/-- `record_recon_activity_notification`. -/
def recordReconActivityNotification (activity : ReconActivity) (fingerprint : String)
    (openedAt : Option Int) (now : Int) : ReconActivity :=
  { activity with
    openedNotificationSentAt := activity.openedNotificationSentAt.or openedAt
    lastNotifiedFingerprint := some fingerprint
    lastNotifiedAt := some (openedAt.getD now) }

/-- The notification was sent and recorded as delivered, or as one that still may be. -/
def wasDelivered (result : DeliveryResult) : Bool :=
  !result.suppressed && result.attempt.any fun a => a.status = .success || a.status = .pending

/-- What a notification about an activity comes to. -/
structure ReconNotified where
  sentTo : Option String
  result : Except String DeliveryResult
  activity : ReconActivity
  attempts : Attempts

/-- A notification that is held back before it comes to a delivery. -/
def notDelivered (activity : ReconActivity) (attempts : Attempts) (result : DeliveryResult) :
    ReconNotified where
  sentTo := none
  result := .ok result
  activity := activity
  attempts := attempts

def deliverAndRecord (env : Environment) (w : Moment) (activity : ReconActivity) (attempts : Attempts)
    (d : Delivery) (fingerprint : String) (openedAt : Option Int) : ReconNotified :=
  let delivered := deliverNotification env attempts w d
  { sentTo := delivered.sentTo
    result := delivered.result
    activity := if delivered.result.toOption.any wasDelivered then
        recordReconActivityNotification activity fingerprint openedAt w.now
      else activity
    attempts := delivered.attempts }

/-- The first notification about an activity. -/
def openingDelivery (env : Environment) (policy : NotificationPolicy) (activity : ReconActivity) : Delivery :=
  reconDelivery policy activity "immediate_alert"
    ("opening:" ++ reconActivityMaterialFingerprint env activity)

/-- A later notification. -/
def updateDelivery (env : Environment) (policy : NotificationPolicy) (activity : ReconActivity) : Delivery :=
  reconDelivery policy activity "investigation_update"
    ("update:" ++ reconActivityMaterialFingerprint env activity)

/-- `notify_for_material_recon_activity`. -/
def notifyForMaterialReconActivity (env : Environment) (w : Moment) (policy : NotificationPolicy)
    (activity : ReconActivity) (attempts : Attempts) : ReconNotified :=
  let fingerprint := reconActivityMaterialFingerprint env activity
  let alreadyOpened := activity.openedNotificationSentAt.isSome
  let decision := evaluateNotificationPolicy policy "recon_activity"
    ⟨activity.severity, activity.source, activity.sourceType⟩ false
  if !decision.shouldNotify then
    notDelivered activity attempts
      { success := false
        suppressed := true
        duplicate := false
        purpose := if alreadyOpened then "investigation_update" else "immediate_alert"
        deliveryStage := if alreadyOpened then "playbook" else "initial"
        routeKey := routeText decision.routeKey
        message := some ("Recon activity notification suppressed by policy: " ++ decision.reason ++ ".")
        attempt := none
        adapterResult := none
        policyDecision := decision }
  else if !alreadyOpened then
    deliverAndRecord env w activity attempts (openingDelivery env policy activity) fingerprint (some w.now)
  else if activity.lastNotifiedFingerprint = some fingerprint then
    notDelivered activity attempts
      { success := false
        suppressed := true
        duplicate := true
        purpose := "investigation_update"
        deliveryStage := "playbook"
        routeKey := routeText (normalizeNotificationSource activity.source activity.sourceType)
        message := some
          "Recon activity notification suppressed because no material aggregate change occurred."
        attempt := none
        adapterResult := none
        policyDecision := suppressed "no_material_change" none }
  else deliverAndRecord env w activity attempts (updateDelivery env policy activity) fingerprint none

/-! ## What is sent -/

theorem holdBack_sentTo (env : Environment) (attempts : Attempts) (w : Moment) (d : Delivery)
    (duplicate : Bool) (failureCode message : String) :
    (holdBack env attempts w d duplicate failureCode message).sentTo = none := by
  unfold holdBack
  generalize recordAttemptSafe env w attempts _ = recorded
  rfl

theorem send_sentTo (env : Environment) (attempts : Attempts) (w : Moment) (d : Delivery) :
    (send env attempts w d).sentTo ≠ none := by
  unfold send
  dsimp only
  split <;> exact Option.some_ne_none _

/-- The adapter is asked to send just where the policy lets the delivery through and, unless
    duplicates are allowed, no earlier delivery of the key is found. -/
theorem deliverNotification_sentTo (env : Environment) (attempts : Attempts) (w : Moment)
    (d : Delivery) :
    (deliverNotification env attempts w d).sentTo = none ↔
      d.decision.shouldNotify = false ∨
        d.allowDedup = true ∧ (existingPolicyDelivery attempts (d.key env)).isSome = true := by
  unfold deliverNotification
  split
  · next hheld =>
    rw [Bool.not_eq_true'] at hheld
    exact iff_of_true (holdBack_sentTo env attempts w d _ _ _) (.inl hheld)
  · next hpolicy =>
    rw [Bool.not_eq_true', Bool.not_eq_false] at hpolicy
    split
    · next hfound =>
      rw [Bool.and_eq_true] at hfound
      exact iff_of_true (holdBack_sentTo env attempts w d _ _ _) (.inr hfound)
    · next hnone =>
      rw [Bool.and_eq_true] at hnone
      refine iff_of_false (send_sentTo env attempts w d) ?_
      rintro (hheld | hfound)
      · rw [hpolicy] at hheld
        cases hheld
      · exact hnone hfound

end SiemDashboard.NotificationService
