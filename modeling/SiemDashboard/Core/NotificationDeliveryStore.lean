import SiemDashboard.Lib.Python
import SiemDashboard.Lib.Tables

/-!
# Notification delivery attempts

`core/notification_delivery_store.py`: the append-only record of what was sent to a provider, or
would have been.

* **Rows** — `NotificationDeliveryAttempt`.
* **Operations** — `createNotificationDeliveryAttempt`, `listNotificationDeliveryAttempts`.
* **What an operation does** — the rows of a key.
-/

namespace SiemDashboard.NotificationDelivery

open Python Tables

/-! ## Rows -/

/-- `_VALID_MODES`. -/
inductive DeliveryMode where
  | simulation
  | real
deriving DecidableEq, Repr

/-- `_VALID_STATUSES`. -/
inductive DeliveryStatus where
  | pending
  | success
  | failed
  | timeout
  | blocked
deriving DecidableEq, Repr

/-- `_VALID_CIRCUIT_STATES`. -/
def validCircuitStates : List String := ["closed", "open", "half_open", "unknown", "invalid"]

/-- A row of `notification_delivery_attempts`. -/
structure NotificationDeliveryAttempt where
  id : Nat
  correlationId : String
  idempotencyKey : String
  provider : String
  mode : DeliveryMode
  status : DeliveryStatus
  playbookExecutionId : Option Nat
  playbookStepIndex : Option Int
  incidentId : Option Nat
  alertId : Option Nat
  reconActivityId : Option Nat
  adapterName : String
  action : String
  requestedAt : Int
  failureCode : Option String
  failureMessage : Option String
  timeoutSeconds : Option Int
  circuitBreakerState : Option String

abbrev Attempts := Table NotificationDeliveryAttempt NotificationDeliveryAttempt.id

/-! ## Operations -/

/-- `sanitize_failure_message`, with the substitution of URLs. -/
def sanitizeFailureMessage (scrub : String → String) (message : Option String) : Option String :=
  (((message.map strip).filter (· ≠ "")).map scrub).filter (· ≠ "")

/-- The arguments of `create_notification_delivery_attempt`. -/
structure NewAttempt where
  correlationId : String
  idempotencyKey : String
  provider : String
  mode : DeliveryMode
  status : DeliveryStatus
  adapterName : String
  action : String
  playbookExecutionId : Option Nat
  playbookStepIndex : Option Int
  incidentId : Option Nat
  alertId : Option Nat
  reconActivityId : Option Nat
  requestedAt : Int
  failureCode : Option String
  failureMessage : Option String
  timeoutSeconds : Option Int
  circuitBreakerState : Option String

/-- The checks `create_notification_delivery_attempt` makes on its arguments. -/
def validateAttempt (new : NewAttempt) : Except String Unit := do
  if strip new.correlationId = "" then .error "correlation_id is required"
  if strip new.idempotencyKey = "" then .error "idempotency_key is required"
  if strip new.provider = "" then .error "provider is required"
  if strip new.adapterName = "" then .error "adapter_name is required"
  if strip new.action = "" then .error "action is required"
  if !new.circuitBreakerState.all validCircuitStates.contains then
    .error ("circuit_breaker_state must be one of ['closed', 'half_open', 'invalid', 'open', " ++
      "'unknown'] or None")

/-- The row `create_notification_delivery_attempt` inserts. -/
def attemptRow (scrub : String → String) (new : NewAttempt) (id : Nat) :
    NotificationDeliveryAttempt where
  id := id
  correlationId := strip new.correlationId
  idempotencyKey := strip new.idempotencyKey
  provider := strip new.provider
  mode := new.mode
  status := new.status
  playbookExecutionId := new.playbookExecutionId
  playbookStepIndex := new.playbookStepIndex
  incidentId := new.incidentId
  alertId := new.alertId
  reconActivityId := new.reconActivityId
  adapterName := strip new.adapterName
  action := strip new.action
  requestedAt := new.requestedAt
  failureCode := new.failureCode
  failureMessage := sanitizeFailureMessage scrub new.failureMessage
  timeoutSeconds := new.timeoutSeconds
  circuitBreakerState := new.circuitBreakerState

theorem attemptRow_id (scrub : String → String) (new : NewAttempt) (id : Nat) :
    (attemptRow scrub new id).id = id := rfl

/-- `create_notification_delivery_attempt`, on a database that takes some rows. -/
def createNotificationDeliveryAttempt (scrub : String → String)
    (takes : NotificationDeliveryAttempt → Bool) (attempts : Attempts) (new : NewAttempt) :
    Except String (NotificationDeliveryAttempt × Attempts) :=
  match validateAttempt new with
  | .error message => .error message
  | .ok () =>
    if takes (attemptRow scrub new attempts.next) then
      .ok (attemptRow scrub new attempts.next,
        attempts.insert (attemptRow scrub new) (attemptRow_id scrub new))
    else .error "the database rejects the row"

/-- The attempts of a key, newest first. -/
def attemptsOf (attempts : Attempts) (idempotencyKey : String) : List NotificationDeliveryAttempt :=
  (attempts.rows.filter fun a => a.idempotencyKey = idempotencyKey).reverse

/-- `list_notification_delivery_attempts`, of a key. -/
def listNotificationDeliveryAttempts (attempts : Attempts) (idempotencyKey : String) (limit : Nat) :
    List NotificationDeliveryAttempt :=
  (attemptsOf attempts idempotencyKey).take (min limit 500)

/-! ## What an operation does -/

/-- A new attempt is the newest of its key. -/
theorem attemptsOf_append {attempts attempts' : Attempts} {attempt : NotificationDeliveryAttempt}
    (h : attempts'.rows = attempts.rows ++ [attempt]) (key : String) :
    attemptsOf attempts' key =
      if attempt.idempotencyKey = key then attempt :: attemptsOf attempts key
      else attemptsOf attempts key := by
  unfold attemptsOf
  rw [h, List.filter_append, List.reverse_append]
  split <;> simp [*]

theorem mem_attemptsOf {attempts : Attempts} {key : String} {a : NotificationDeliveryAttempt} :
    a ∈ attemptsOf attempts key ↔ a ∈ attempts.rows ∧ a.idempotencyKey = key := by
  simp [attemptsOf]

end SiemDashboard.NotificationDelivery
