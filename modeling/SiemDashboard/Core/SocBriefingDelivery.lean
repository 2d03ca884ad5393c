import SiemDashboard.Core.MetadataRedaction
import SiemDashboard.Core.NotificationPolicyService

/-!
# Delivery of briefings

The Slack summary of a scheduled briefing in `core/ai/soc_briefing_history_store.py`.  A briefing with its
content has one delivery record, which later calls rewrite.

* **Rows** — `DeliveryStatus`, `DeliveryAttempt`, `AuditEntry`, `Store`.
* **Records** — `deliveryIdempotencyKey`, `getDeliveryByIdempotencyKey`, `insertDelivery`,
  `updateDelivery`, `writeDelivery`.
* **Adapter** — `AdapterAnswer`, `Outcome`, `readResult`.
* **Call** — `deliverBriefingToSlack`.
* **What a write does** — `writeDelivery_eq_ok`, `writeDelivery_isOk`.
-/

namespace SiemDashboard.BriefingDelivery

open Python Tables MetadataRedaction NotificationService

/-! ## Rows -/

/-- `_VALID_DELIVERY_STATUSES`. -/
inductive DeliveryStatus where
  | pending
  | sent
  | failed
  | blocked
  | skipped
  | retryScheduled
  | duplicateSuppressed
deriving DecidableEq, Repr

def DeliveryStatus.text : DeliveryStatus → String
  | .pending => "pending"
  | .sent => "sent"
  | .failed => "failed"
  | .blocked => "blocked"
  | .skipped => "skipped"
  | .retryScheduled => "retry_scheduled"
  | .duplicateSuppressed => "duplicate_suppressed"

/-- What `deliver_briefing_to_slack` reads of a row of `soc_briefings`. -/
structure Briefing where
  id : Nat
  runId : Nat
  scheduleId : Nat
  windowId : Nat
  generatedAt : Json
  summary : Json
  sections : Json

/-- A row of `soc_briefing_delivery_attempts`. -/
structure DeliveryAttempt where
  id : Nat
  briefingId : Nat
  runId : Nat
  scheduleId : Nat
  windowId : Nat
  idempotencyKey : String
  status : DeliveryStatus
  attemptCount : Nat
  maxAttempts : Int
  nextRetryAt : Option Int
  lastAttemptedAt : Option Int
  sentAt : Option Int
  providerMode : NotificationDelivery.DeliveryMode
  summaryFingerprint : String
  failureCode : Option String
  failureMessage : Option String
  deliveryMetadata : Json
  createdBy : Option String
  createdAt : Int
  updatedAt : Int

abbrev Deliveries := Table DeliveryAttempt DeliveryAttempt.id

/-- A row of `audit_log`. -/
structure AuditEntry where
  eventType : String
  actorUsername : Option String
  actorRole : Option String
  details : Json

/-- What a call reads and writes. -/
structure Store where
  deliveries : Deliveries
  auditLog : List AuditEntry

/-- What the calls rely on: the briefings, whose content does not change, and functions of the
    interpreter and its libraries. -/
structure Environment where
  /-- `_briefing_for_delivery`. -/
  briefingForDelivery : Nat → Option Briefing
  /-- The SHA-256 digest of the text of a payload. -/
  digest : Json → String
  /-- The text that `build_slack_summary` makes of a briefing and the address of the dashboard. -/
  slackText : Briefing → Option String → String
  /-- `_URL_RE.sub`. -/
  scrub : String → String
  /-- `datetime.isoformat` of a time in microseconds. -/
  isoformat : Int → String
  py : Python

/-! ## Records -/

section Records

variable (env : Environment)

/-- `_summary_fingerprint`. -/
def summaryFingerprint (briefing : Briefing) : String :=
  env.digest (.obj
    [("briefing_id", .int briefing.id), ("generated_at", briefing.generatedAt),
      ("summary", briefing.summary), ("sections", briefing.sections)])

/-- `delivery_idempotency_key`. -/
def deliveryIdempotencyKey (briefing : Briefing) : String :=
  "soc-briefing:" ++ toString briefing.id ++ ":slack:" ++ summaryFingerprint env briefing

/-- `get_delivery_by_idempotency_key`. -/
def getDeliveryByIdempotencyKey (deliveries : Deliveries) (idempotencyKey : String) :
    Option DeliveryAttempt :=
  deliveries.rows.find? fun r => r.idempotencyKey = idempotencyKey

/-- `_sanitize_idempotency_key`. -/
def sanitizeIdempotencyKey (value : String) : String :=
  String.ofList ((strip value).toList.take 200)

/-- `redact_notification_delivery_metadata`, of a dict. -/
def redactedFields (fields : List (String × Json)) : Json :=
  .obj (redactFields notificationDeliveryRules fields)

/-- The arguments that `_insert_delivery` and `_update_delivery` share. -/
structure DeliveryFields where
  status : DeliveryStatus
  attemptCount : Nat
  maxAttempts : Int
  providerMode : NotificationDelivery.DeliveryMode
  failureCode : Option String := none
  failureMessage : Option String := none
  nextRetryAt : Option Int := none
  lastAttemptedAt : Option Int := none
  sentAt : Option Int := none
  metadata : List (String × Json)

/-- The row that `_insert_delivery` writes. -/
def deliveryRow (briefing : Briefing) (actor : Option String) (databaseNow : Int)
    (new : DeliveryFields) (id : Nat) : DeliveryAttempt where
  id := id
  briefingId := briefing.id
  runId := briefing.runId
  scheduleId := briefing.scheduleId
  windowId := briefing.windowId
  idempotencyKey := deliveryIdempotencyKey env briefing
  status := new.status
  attemptCount := new.attemptCount
  maxAttempts := new.maxAttempts
  nextRetryAt := new.nextRetryAt
  lastAttemptedAt := new.lastAttemptedAt
  sentAt := new.sentAt
  providerMode := new.providerMode
  summaryFingerprint := summaryFingerprint env briefing
  failureCode := new.failureCode
  failureMessage := NotificationDelivery.sanitizeFailureMessage env.scrub new.failureMessage
  deliveryMetadata := redactedFields new.metadata
  createdBy := actor
  createdAt := databaseNow
  updatedAt := databaseNow

theorem deliveryRow_id (briefing : Briefing) (actor : Option String) (databaseNow : Int)
    (new : DeliveryFields) (id : Nat) :
    (deliveryRow env briefing actor databaseNow new id).id = id := rfl

/-- The row that `_update_delivery` makes of another one. -/
def rewrittenRow (actor : Option String) (databaseNow : Int) (new : DeliveryFields)
    (r : DeliveryAttempt) : DeliveryAttempt where
  id := r.id
  briefingId := r.briefingId
  runId := r.runId
  scheduleId := r.scheduleId
  windowId := r.windowId
  idempotencyKey := r.idempotencyKey
  status := new.status
  attemptCount := new.attemptCount
  maxAttempts := new.maxAttempts
  nextRetryAt := new.nextRetryAt
  lastAttemptedAt := new.lastAttemptedAt
  sentAt := new.sentAt
  providerMode := new.providerMode
  summaryFingerprint := r.summaryFingerprint
  failureCode := new.failureCode
  failureMessage := NotificationDelivery.sanitizeFailureMessage env.scrub new.failureMessage
  deliveryMetadata := redactedFields new.metadata
  createdBy := r.createdBy.orElse fun _ => actor
  createdAt := r.createdAt
  updatedAt := databaseNow

theorem rewrittenRow_id (actor : Option String) (databaseNow : Int) (new : DeliveryFields)
    (r : DeliveryAttempt) : (rewrittenRow env actor databaseNow new r).id = r.id := rfl

/-- The check of the table on `max_attempts`. -/
def validMaxAttempts (maxAttempts : Int) : Bool := 0 < maxAttempts && maxAttempts ≤ 10

/-- Who calls, when, and whether the database takes what the call writes. -/
structure Writer where
  actorUsername : Option String
  actorRole : Option String
  databaseNow : Int
  takes : Bool

/-- `_insert_delivery`. -/
def insertDelivery (deliveries : Deliveries) (writer : Writer) (briefing : Briefing)
    (new : DeliveryFields) : Except String (DeliveryAttempt × Deliveries) :=
  if writer.takes && validMaxAttempts new.maxAttempts then
    .ok (deliveryRow env briefing writer.actorUsername writer.databaseNow new deliveries.next,
      deliveries.insert (deliveryRow env briefing writer.actorUsername writer.databaseNow new)
        (deliveryRow_id env briefing writer.actorUsername writer.databaseNow new))
  else .error "the database rejects the row"

/-- `_update_delivery`. -/
def updateDelivery (deliveries : Deliveries) (writer : Writer) (existing : DeliveryAttempt)
    (new : DeliveryFields) : Except String (DeliveryAttempt × Deliveries) :=
  if writer.takes && validMaxAttempts new.maxAttempts then
    .ok (rewrittenRow env writer.actorUsername writer.databaseNow new existing,
      deliveries.update existing.id (fun _ => true)
        (rewrittenRow env writer.actorUsername writer.databaseNow new)
        (rewrittenRow_id env writer.actorUsername writer.databaseNow new))
  else .error "the database rejects the row"

/-- The record of a delivery: rewritten where there is one, inserted where there is none. -/
def writeDelivery (deliveries : Deliveries) (writer : Writer) (briefing : Briefing)
    (existing : Option DeliveryAttempt) (new : DeliveryFields) :
    Except String (DeliveryAttempt × Deliveries) :=
  match existing with
  | some r => updateDelivery env deliveries writer r new
  | none => insertDelivery env deliveries writer briefing new

/-- `_audit_delivery`. -/
def auditEntry (writer : Writer) (briefing : Briefing) (eventType status : String)
    (details : List (String × Json)) : AuditEntry where
  eventType := eventType
  actorUsername := writer.actorUsername
  actorRole := writer.actorRole
  details := redactedFields
    ([("briefing_id", .int briefing.id), ("channel", .str "slack"), ("status", .str status),
      ("idempotency_key", .str (sanitizeIdempotencyKey (deliveryIdempotencyKey env briefing)))] ++
      details)

end Records

/-! ## Adapter -/

/-- What the adapter does when it is asked to send. -/
inductive AdapterAnswer where
  | returned (result : Json)
  | raised (message : String)

/-- The result that stands for an exception of the adapter. -/
def adapterException (message : String) : Json :=
  .obj
    [("success", .bool false), ("mode", .str "simulation"), ("message", .str message),
      ("metadata", .obj [("failure_classification", .str "adapter_exception")])]

def AdapterAnswer.result : AdapterAnswer → Json
  | .returned result => result
  | .raised message => adapterException message

/-- What a call reads of the adapter's result. -/
structure Outcome where
  success : Bool
  providerMode : NotificationDelivery.DeliveryMode
  failureCode : Option String
  failureMessage : Option String
  executed : Json
  simulated : Json
  metadata : Json

/-- `v is True`. -/
def isTrue : Json → Bool
  | .bool b => b
  | _ => false

/-- The text that `sanitize_failure_message` accepts: only a string can be stripped. -/
def failureText (message : Json) : Except String (Option String) :=
  match message with
  | .null => .ok none
  | .str text => .ok (some text)
  | _ => .error "the message has no attribute 'strip'"

/-- The reading of the adapter's result. -/
def readResult (py : Python) (result : Json) : Except String Outcome :=
  if !result.isObj then .error "the result has no attribute 'get'"
  else
    let metadata := (result.get "metadata").dictOrEmpty
    let mode := py.str ((result.get "mode").orElse (.str "simulation"))
    let success := isTrue (result.get "success")
    match if success then .ok none else failureText (result.get "message") with
    | .error error => .error error
    | .ok failureMessage =>
      .ok
        { success := success
          providerMode := if mode = "real" then .real else .simulation
          failureCode :=
            if success then none
            else some (py.str
              ((metadata.get "failure_classification").orElse (.str "delivery_failed")))
          failureMessage := failureMessage
          executed := result.get "executed"
          simulated := result.get "simulated"
          metadata := metadata }

/-! ## Call -/

/-- `_next_retry`, in microseconds. -/
def nextRetry (now : Int) (attemptCount : Nat) : Int :=
  now + min (60 * 2 ^ (attemptCount - 1)) 3600 * 1000000

/-- The arguments of a call, and what it meets. -/
structure Call where
  briefingId : Nat
  siemUrl : Option String
  current : Int
  policy : NotificationPolicy
  answer : AdapterAnswer
  writer : Writer

/-- What `deliver_briefing_to_slack` returns. -/
structure DeliveryResult where
  status : DeliveryStatus
  attempt : DeliveryAttempt
  duplicate : Bool

/-- What a call comes to.  A call that raises is rolled back, but the adapter has sent what it has
    sent: `invoked` is the key of the delivery that it was asked for. -/
structure Delivered where
  result : Except String DeliveryResult
  store : Store
  invoked : Option String

/-- The record stops another attempt. -/
def DeliveryAttempt.suppresses (r : DeliveryAttempt) : Bool := r.status = .sent || r.status = .pending

/-- The number of attempts that a record counts. -/
def attemptsSoFar (existing : Option DeliveryAttempt) : Nat :=
  (existing.map DeliveryAttempt.attemptCount).getD 0

section Call

variable (env : Environment) (maxAttempts : Int)

/-- The record of a delivery that the notification policy does not let through. -/
def heldBack (existing : Option DeliveryAttempt) (status : DeliveryStatus)
    (failureCode failureMessage : String) (metadata : List (String × Json)) : DeliveryFields where
  status := status
  attemptCount := attemptsSoFar existing
  maxAttempts := maxAttempts
  providerMode := .simulation
  failureCode := some failureCode
  failureMessage := some failureMessage
  metadata := metadata

/-- The record where the notification policy cannot be read. -/
def blockedFields (existing : Option DeliveryAttempt) : DeliveryFields :=
  heldBack maxAttempts existing .blocked "notification_policy_unavailable"
    "Notification policy unavailable; Slack briefing summary was not sent."
    [("policy_status", .str "unavailable")]

/-- The record where the notification policy has Slack turned off. -/
def skippedFields (existing : Option DeliveryAttempt) (policy : NotificationPolicy) :
    DeliveryFields :=
  heldBack maxAttempts existing .skipped "slack_disabled"
    "Slack briefing summaries are disabled by notification policy."
    [("policy_status", .str policy.status), ("slack_enabled", .bool false)]

def attemptStatus (outcome : Outcome) (attemptCount : Nat) : DeliveryStatus :=
  if outcome.success then .sent
  else if maxAttempts ≤ attemptCount then .failed
  else .retryScheduled

/-- The record of an attempt. -/
def attemptFields (call : Call) (text : String) (existing : Option DeliveryAttempt)
    (outcome : Outcome) : DeliveryFields :=
  let attemptCount := attemptsSoFar existing + 1
  { status := attemptStatus maxAttempts outcome attemptCount
    attemptCount := attemptCount
    maxAttempts := maxAttempts
    providerMode := outcome.providerMode
    failureCode := outcome.failureCode
    failureMessage := outcome.failureMessage
    nextRetryAt :=
      if outcome.success || decide (maxAttempts ≤ attemptCount) then none
      else some (nextRetry call.current attemptCount)
    lastAttemptedAt := some call.current
    sentAt := if outcome.success then some call.current else none
    metadata :=
      [("adapter_mode", .str (if outcome.providerMode = .real then "real" else "simulation")),
        ("executed", outcome.executed), ("simulated", outcome.simulated),
        ("provider_success", outcome.metadata.get "provider_success"),
        ("failure_classification", outcome.metadata.get "failure_classification"),
        ("rate_limited", outcome.metadata.get "rate_limited"),
        ("summary_chars", .int text.length)] }

/-- The event that records an attempt. -/
def attemptEvent : DeliveryStatus → String
  | .sent => "soc_briefing_slack_sent"
  | .failed => "soc_briefing_slack_failed"
  | _ => "soc_briefing_slack_retry_scheduled"

/-- The details of the event that records an attempt. -/
def attemptDetails (attempt : DeliveryAttempt) (outcome : Outcome) : List (String × Json) :=
  [("attempt_count", .int attempt.attemptCount),
    ("failure_code", (outcome.failureCode.map Json.str).getD .null),
    ("provider_mode", .str (if outcome.providerMode = .real then "real" else "simulation")),
    ("next_retry_at", ((attempt.nextRetryAt.map env.isoformat).map Json.str).getD .null)]

/-- The record is written, with an entry in the audit log, or the call raises. -/
def settle (store : Store) (call : Call) (briefing : Briefing) (invoked : Option String)
    (eventType : String) (details : DeliveryAttempt → List (String × Json)) (new : DeliveryFields) :
    Delivered :=
  match writeDelivery env store.deliveries call.writer briefing
      (getDeliveryByIdempotencyKey store.deliveries (deliveryIdempotencyKey env briefing)) new with
  | .error error => ⟨.error error, store, invoked⟩
  | .ok (attempt, deliveries) =>
    ⟨.ok ⟨new.status, attempt, false⟩,
      { deliveries := deliveries
        auditLog := store.auditLog ++
          [auditEntry env call.writer briefing eventType new.status.text (details attempt)] },
      invoked⟩

/-- The adapter is asked to send, and the attempt is recorded. -/
def attemptDelivery (store : Store) (call : Call) (briefing : Briefing) : Delivered :=
  let key := deliveryIdempotencyKey env briefing
  match readResult env.py call.answer.result with
  | .error error => ⟨.error error, store, some key⟩
  | .ok outcome =>
    let new := attemptFields maxAttempts call (env.slackText briefing call.siemUrl)
      (getDeliveryByIdempotencyKey store.deliveries key) outcome
    settle env store call briefing (some key) (attemptEvent new.status)
      (fun attempt => attemptDetails env attempt outcome) new

/-- `deliver_briefing_to_slack`. -/
def deliverBriefingToSlack (store : Store) (call : Call) : Delivered :=
  match env.briefingForDelivery call.briefingId with
  | none => ⟨.error "briefing not found", store, none⟩
  | some briefing =>
    let existing :=
      getDeliveryByIdempotencyKey store.deliveries (deliveryIdempotencyKey env briefing)
    match existing.filter DeliveryAttempt.suppresses with
    | some r =>
      -- The audit entry is all that a suppressed call writes.
      if call.writer.takes then
        ⟨.ok ⟨.duplicateSuppressed, r, true⟩,
          { store with auditLog := store.auditLog ++
              [auditEntry env call.writer briefing "soc_briefing_slack_duplicate_suppressed"
                "duplicate_suppressed" [("existing_status", .str r.status.text)]] },
          none⟩
      else ⟨.error "the database rejects the row", store, none⟩
    | none =>
      if call.policy.status = "unavailable" then
        settle env store call briefing none "soc_briefing_slack_blocked"
          (fun _ => [("reason", .str "notification_policy_unavailable")])
          (blockedFields maxAttempts existing)
      else if !call.policy.slackEnabled then
        settle env store call briefing none "soc_briefing_slack_skipped"
          (fun _ => [("reason", .str "slack_disabled")])
          (skippedFields maxAttempts existing call.policy)
      else attemptDelivery env maxAttempts store call briefing

end Call

/-! ## What a write does -/

section Writes

variable {env : Environment} {deliveries deliveries' : Deliveries} {writer : Writer}
  {briefing : Briefing} {new : DeliveryFields} {attempt : DeliveryAttempt}

theorem getDeliveryByIdempotencyKey_key {key : String}
    (h : getDeliveryByIdempotencyKey deliveries key = some attempt) :
    attempt.idempotencyKey = key := by
  simpa using List.find?_some h

/-- What an insertion of the first record of a key leaves at each key. -/
theorem getDeliveryByIdempotencyKey_insert
    (hnone : getDeliveryByIdempotencyKey deliveries (deliveryIdempotencyKey env briefing) = none)
    (key : String) :
    getDeliveryByIdempotencyKey
        (deliveries.insert (deliveryRow env briefing writer.actorUsername writer.databaseNow new)
          (deliveryRow_id env briefing writer.actorUsername writer.databaseNow new)) key =
      if key = deliveryIdempotencyKey env briefing then
        some (deliveryRow env briefing writer.actorUsername writer.databaseNow new deliveries.next)
      else getDeliveryByIdempotencyKey deliveries key := by
  have hrow : ∀ id, (deliveryRow env briefing writer.actorUsername writer.databaseNow new
      id).idempotencyKey = deliveryIdempotencyKey env briefing := fun _ => rfl
  rw [getDeliveryByIdempotencyKey, Table.find?_insert_rows, hrow]
  by_cases hkey : key = deliveryIdempotencyKey env briefing
  · subst hkey
    rw [getDeliveryByIdempotencyKey] at hnone
    rw [hnone]
    simp
  · rw [if_neg (by simpa using Ne.symm hkey), if_neg hkey, Option.or_none]
    rfl

/-- What the rewriting of the record of a key leaves at each key. -/
theorem getDeliveryByIdempotencyKey_update {existing : DeliveryAttempt} {own : String}
    (hsome : getDeliveryByIdempotencyKey deliveries own = some existing) (key : String) :
    getDeliveryByIdempotencyKey
        (deliveries.update existing.id (fun _ => true)
          (rewrittenRow env writer.actorUsername writer.databaseNow new)
          (rewrittenRow_id env writer.actorUsername writer.databaseNow new)) key =
      if key = own then
        some (rewrittenRow env writer.actorUsername writer.databaseNow new existing)
      else getDeliveryByIdempotencyKey deliveries key := by
  have hp (r : DeliveryAttempt) :
      decide ((rewrittenRow env writer.actorUsername writer.databaseNow new r).idempotencyKey = key) =
        decide (r.idempotencyKey = key) := rfl
  rw [getDeliveryByIdempotencyKey, Table.find?_update_rows _ _ _ _ _ hp]
  by_cases hkey : key = own
  · subst hkey
    rw [getDeliveryByIdempotencyKey] at hsome
    rw [hsome]
    simp
  · rw [if_neg hkey]
    change (getDeliveryByIdempotencyKey deliveries key).map _ = _
    cases hother : getDeliveryByIdempotencyKey deliveries key with
    | none => rfl
    | some other =>
      have hmem : other ∈ deliveries.rows := List.mem_of_find?_eq_some hother
      have hmem' : existing ∈ deliveries.rows := List.mem_of_find?_eq_some hsome
      have hid : other.id ≠ existing.id := by
        intro hid
        have hrow := Table.mem_rows.mp hmem
        rw [hid, Table.mem_rows.mp hmem'] at hrow
        have hsame : existing.idempotencyKey = other.idempotencyKey := by
          rw [Option.some.inj hrow]
        rw [getDeliveryByIdempotencyKey_key hsome, getDeliveryByIdempotencyKey_key hother] at hsame
        exact hkey hsame.symm
      simp [hid]

/-- A record that is written is the one of its key, and no other key is touched. -/
theorem writeDelivery_eq_ok
    (h : writeDelivery env deliveries writer briefing
      (getDeliveryByIdempotencyKey deliveries (deliveryIdempotencyKey env briefing)) new =
        .ok (attempt, deliveries')) :
    (∀ key, getDeliveryByIdempotencyKey deliveries' key =
      if key = deliveryIdempotencyKey env briefing then some attempt
      else getDeliveryByIdempotencyKey deliveries key) ∧
    attempt.status = new.status ∧ attempt.attemptCount = new.attemptCount := by
  unfold writeDelivery at h
  cases hexisting : getDeliveryByIdempotencyKey deliveries (deliveryIdempotencyKey env briefing) with
  | none =>
    rw [hexisting] at h
    dsimp only [insertDelivery] at h
    split at h
    · cases h
      exact ⟨getDeliveryByIdempotencyKey_insert hexisting, rfl, rfl⟩
    · cases h
  | some existing =>
    rw [hexisting] at h
    dsimp only [updateDelivery] at h
    split at h
    · cases h
      exact ⟨getDeliveryByIdempotencyKey_update hexisting, rfl, rfl⟩
    · cases h

/-- A record is written just where the database takes it. -/
theorem writeDelivery_isOk (existing : Option DeliveryAttempt) :
    (∃ written, writeDelivery env deliveries writer briefing existing new = .ok written) ↔
      writer.takes = true ∧ validMaxAttempts new.maxAttempts = true := by
  rw [← Bool.and_eq_true]
  unfold writeDelivery insertDelivery updateDelivery
  cases existing with
  | none =>
    dsimp only
    split <;> simp_all
  | some existing =>
    dsimp only
    split <;> simp_all

end Writes

end SiemDashboard.BriefingDelivery
