import SiemDashboard.Lib.Python

/-!
# Circuit breakers of the integrations

`integrations/base_integration.py`: an integration runs an action through its adapter, unless the
breaker of the adapter blocks it, and what comes of the run is entered in the breaker.

* **Breakers** — `CircuitState`, `SimulatedCircuitBreakerState`.
* **Transitions** — `resetToClosedSuccess`, `forceOpen`, `applyFailureIncrement`,
  `completeHalfOpenFailure`.
* **Controls** — `requestHalfOpenProbe`, `recordSimulatedAdapterFailure`,
  `recordSimulatedAdapterSuccess`, and the manual ones.
* **Execution** — `execute`, and `integrateCircuitAfterSimulation` for what the adapter returned.
* **System** — `BreakerOp`, `stepBreaker`; `Call`, `stepStore` for the store of all breakers.
-/

namespace SiemDashboard.BaseIntegration

open Python

/-! ## Breakers -/

/-- The texts that `state` may hold.  The operations here write the first three. -/
inductive CircuitState where
  | closed
  | opened
  | halfOpen
  | invalid (text : String)
deriving Repr, DecidableEq

def CircuitState.text : CircuitState → String
  | .closed => "closed"
  | .opened => "open"
  | .halfOpen => "half_open"
  | .invalid text => text

/-- `_SimulatedCircuitBreakerState`.  Times are in microseconds. -/
structure SimulatedCircuitBreakerState where
  state : CircuitState := .closed
  consecutiveFailures : Nat := 0
  failureThreshold : Nat := 3
  cooldownSeconds : Nat := 60
  openedAt : Option Int := none
  lastFailureReason : Option String := none
  timeoutSeconds : Option Int := some 30
  retryEligible : Bool := true
  cooldownUntil : Option Int := none
  lastFailureClassification : Option String := none
  halfOpenProbeAvailable : Bool := false
  lastManualAction : Option String := none
  lastManualActionBy : Option String := none
  lastManualActionAt : Option Int := none
  lastManualReason : Option String := none
  /-- `configure_simulated_circuit_breaker` keeps the threshold positive. -/
  threshold_pos : 0 < failureThreshold

/-- A breaker as `_get_circuit_state` makes it. -/
def SimulatedCircuitBreakerState.new : SimulatedCircuitBreakerState :=
  { threshold_pos := Nat.succ_pos 2 }

/-- `now + timedelta(seconds=seconds)`. -/
def later (now : Int) (seconds : Nat) : Int := now + 1000000 * seconds

section

variable (st : SimulatedCircuitBreakerState)

/-! ## Transitions -/

/-- `_reset_to_closed_success`. -/
def resetToClosedSuccess : SimulatedCircuitBreakerState :=
  { st with
    state := .closed
    consecutiveFailures := 0
    openedAt := none
    cooldownUntil := none
    lastFailureReason := none
    lastFailureClassification := none
    retryEligible := true
    halfOpenProbeAvailable := false }

/-- `_force_open`. -/
def forceOpen (reason classification : String) (now : Int) : SimulatedCircuitBreakerState :=
  { st with
    state := .opened
    openedAt := some now
    lastFailureReason := some reason
    lastFailureClassification := some classification
    cooldownUntil := some (later now st.cooldownSeconds)
    retryEligible := false
    halfOpenProbeAvailable := false
    consecutiveFailures := max st.consecutiveFailures st.failureThreshold }

/-- `_apply_failure_increment`. -/
def applyFailureIncrement (reason classification : String) (now : Int) :
    SimulatedCircuitBreakerState :=
  if st.state = .opened then st
  else if classification = "non_transient" then forceOpen st reason classification now
  else
    let counted := { st with
      lastFailureReason := some reason
      lastFailureClassification := some classification
      consecutiveFailures := st.consecutiveFailures + 1 }
    if st.failureThreshold ≤ counted.consecutiveFailures then
      forceOpen counted reason classification now
    else { counted with retryEligible := classification = "transient" }

/-- `_complete_half_open_failure`. -/
def completeHalfOpenFailure (reason : String) (now : Int) : SimulatedCircuitBreakerState :=
  { st with
    state := .opened
    openedAt := some now
    lastFailureReason := some reason
    lastFailureClassification := some "transient"
    cooldownUntil := some (later now st.cooldownSeconds)
    retryEligible := false
    halfOpenProbeAvailable := false }

/-! ## Controls -/

/-- `_apply_manual_operator_metadata`. -/
def applyManualOperatorMetadata (action actorUsername reason : String) (now : Int) :
    SimulatedCircuitBreakerState :=
  let trimmed := strip reason
  { st with
    lastManualAction := some action
    lastManualActionBy := some actorUsername
    lastManualActionAt := some now
    lastManualReason :=
      if trimmed = "" then none else some (String.ofList (trimmed.toList.take 2000)) }

/-- `manual_reset_simulated_circuit_breaker`. -/
def manualReset (actorUsername reason : String) (now : Int) : SimulatedCircuitBreakerState :=
  applyManualOperatorMetadata (resetToClosedSuccess st) "reset" actorUsername reason now

/-- `manual_force_open_simulated_circuit_breaker`. -/
def manualForceOpen (actorUsername reason : String) (now : Int) : SimulatedCircuitBreakerState :=
  let note := String.ofList ((strip reason).toList.take 500)
  applyManualOperatorMetadata
    { st with
      state := .opened
      openedAt := some now
      cooldownUntil := some (later now st.cooldownSeconds)
      retryEligible := false
      halfOpenProbeAvailable := false
      lastFailureReason := some s!"manual force_open: {note}"
      lastFailureClassification := some "circuit_open" }
    "force_open" actorUsername reason now

/-- `SimulatedCircuitBreakerControlError`. -/
structure ControlError where
  message : String
  statusCode : Nat := 400
deriving Repr, DecidableEq

/-- `when < st.cooldown_until`, where there is one. -/
def coolingDown (now : Int) : Bool :=
  match st.cooldownUntil with
  | none => false
  | some cooldownUntil => now < cooldownUntil

/-- What both ways to a probe write. -/
def toHalfOpen : SimulatedCircuitBreakerState :=
  { st with state := .halfOpen, halfOpenProbeAvailable := true, retryEligible := false }

/-- `manual_enable_half_open_probe_simulated_circuit_breaker`. -/
def manualEnableHalfOpenProbe (actorUsername reason : String) (overrideCooldown : Bool) (now : Int) :
    Except ControlError SimulatedCircuitBreakerState :=
  match st.state with
  | .invalid _ => .error
      { message := "Circuit breaker state is invalid; reset the breaker before enabling a " ++
          "half-open probe."
        statusCode := 409 }
  | .closed | .halfOpen => .error
      { message := "Half-open probe can only be enabled when the breaker is open." }
  | .opened =>
    if coolingDown st now && !overrideCooldown then .error
      { message := "Cooldown is still active; retry after cooldown or pass " ++
          "override_cooldown=true with reason."
        statusCode := 409 }
    else .ok (applyManualOperatorMetadata (toHalfOpen st) "enable_half_open" actorUsername reason now)

/-- `request_half_open_probe`: whether the transition occurred, and the breaker. -/
def requestHalfOpenProbe (now : Int) : Bool × SimulatedCircuitBreakerState :=
  if st.state ≠ .opened then (false, st)
  else if coolingDown st now then (false, st)
  else (true, toHalfOpen st)

/-- `record_simulated_adapter_failure`. -/
def recordSimulatedAdapterFailure (reason classification : String) (now : Int) :
    SimulatedCircuitBreakerState :=
  let normalized := lower (strip classification)
  applyFailureIncrement st reason (if normalized = "" then "transient" else normalized) now

/-- `record_simulated_adapter_success`. -/
def recordSimulatedAdapterSuccess : SimulatedCircuitBreakerState := resetToClosedSuccess st

/-! ## Execution -/

/-- `_compute_retry_eligible`. -/
def computeRetryEligible : Bool :=
  match st.state with
  | .opened | .invalid _ => false
  | .closed | .halfOpen =>
    if st.lastFailureClassification = some "non_transient" then false else st.retryEligible

/-- What an integration class sets. -/
structure Adapter where
  adapterName : String
  supportedActions : List String
  mode : String

/-- What `_execute_supported_action` does: it raises, or returns a value. -/
inductive Outcome where
  | raised (message : String)
  | returned (value : Json)

/-- `_normalize_action`. -/
def normalizeAction (action : Option String) : String := lower (strip (action.getD ""))

/-- `can_handle`, of a normalized action. -/
def Adapter.canHandle (adapter : Adapter) (action : String) : Bool :=
  adapter.supportedActions.contains action

/-- `action or "unspecified"`. -/
def orUnspecified (action : String) : String := if action = "" then "unspecified" else action

/-- `_result`, of a failure. -/
def failureResult (adapter : Adapter) (action message : String) (metadata : List (String × Json)) :
    Json :=
  .obj
    [ ("adapter", .str adapter.adapterName),
      ("action", .str action),
      ("mode", .str adapter.mode),
      ("simulated", .bool (adapter.mode = "simulation")),
      ("executed", .bool false),
      ("success", .bool false),
      ("message", .str message),
      ("metadata", .obj metadata) ]

/-- `dict.setdefault`. -/
def setDefault (v : Json) (key : String) (value : Json) : Json :=
  if v.has key then v else v.set key value

/-- A number or `None`. -/
def optionalInt : Option Int → Json
  | none => .null
  | some n => .int n

/-- `_merge_result_circuit_metadata`. -/
def mergeResultCircuitMetadata (result : Json) : Json :=
  let metadata := result.getD "metadata" (.obj [])
  if !metadata.isObj then result
  else
    let metadata := setDefault metadata "circuit_state" (.str st.state.text)
    let metadata := setDefault metadata "retry_eligible" (.bool (computeRetryEligible st))
    let metadata :=
      match st.timeoutSeconds with
      | none => metadata
      | some timeoutSeconds => setDefault metadata "timeout_seconds" (.int timeoutSeconds)
    result.set "metadata" metadata

/-- A blocked or failed execution, with what the source puts into its metadata. -/
def blockedResult (adapter : Adapter) (action message classification circuitState : String)
    (retryEligible : Bool) : Json :=
  mergeResultCircuitMetadata st (failureResult adapter action message
    [ ("failure_classification", .str classification),
      ("circuit_state", .str circuitState),
      ("retry_eligible", .bool retryEligible),
      ("timeout_seconds", optionalInt st.timeoutSeconds) ])

end

/-- `result_dict["metadata"]`, made a dict where it is none. -/
def resultMetadata (result : Json) : Json := (result.get "metadata").dictOrEmpty

def resultClassification (py : Python) (result : Json) : String :=
  lower (strip (py.str (((resultMetadata result).get "failure_classification").orElse
    (.str "transient"))))

/-- `_integrate_circuit_after_simulation`: the breaker and the result after it. -/
def integrateCircuitAfterSimulation (py : Python) (st : SimulatedCircuitBreakerState) (result : Json)
    (wasHalfOpen : Bool) (now : Int) : SimulatedCircuitBreakerState × Json :=
  let metadata := resultMetadata result
  let classification := resultClassification py result
  if (result.get "success").truthy then
    (resetToClosedSuccess st, result.set "metadata"
      ((metadata.set "circuit_state" (.str "closed")).set "retry_eligible" (.bool true)))
  else if classification = "provider_rate_limited" then
    (st, result.set "metadata"
      ((metadata.set "circuit_state" (.str st.state.text)).set "retry_eligible" (.bool true)))
  else
    let after :=
      if wasHalfOpen then
        completeHalfOpenFailure st
          (py.str ((result.get "message").orElse (.str "half_open probe failed"))) now
      else
        applyFailureIncrement st
          (py.str ((result.get "message").orElse (.str "simulated failure"))) classification now
    let metadata := (metadata.set "circuit_state" (.str after.state.text)).set "failure_classification"
      (.str (if after.state = .opened && wasHalfOpen then "circuit_open" else classification))
    (after, result.set "metadata"
      (setDefault metadata "retry_eligible" (.bool (computeRetryEligible after))))

/-- What the adapter returned, or the result that stands for a value that is no dict. -/
def dictResult (adapter : Adapter) (action : String) (value : Json) : Json :=
  if value.isObj then value
  else failureResult adapter action "Adapter returned invalid simulation result."
    [("failure_classification", .str "non_transient")]

/-- `execute` once the breaker lets the call through. -/
def executeAdmitted (py : Python) (adapter : Adapter) (action : String) (outcome : Outcome)
    (wasHalfOpen : Bool) (now : Int) (st : SimulatedCircuitBreakerState) :
    Except String Json × SimulatedCircuitBreakerState :=
  if !adapter.canHandle action then
    let message := s!"Unsupported simulated {adapter.adapterName} action: {orUnspecified action}"
    let st := applyFailureIncrement st message "non_transient" now
    (.ok (blockedResult st adapter (orUnspecified action) message "non_transient" st.state.text
      (computeRetryEligible st)), st)
  else
    match outcome with
    | .raised message =>
      if wasHalfOpen then
        let st := completeHalfOpenFailure st s!"simulation error: {message}" now
        (.ok (blockedResult st adapter action s!"Simulated execution error: {message}"
          "circuit_open" "open" false), st)
      else (.error message, st)
    | .returned value =>
      let (st, result) := integrateCircuitAfterSimulation py st (dictResult adapter action value)
        wasHalfOpen now
      (.ok (mergeResultCircuitMetadata st result), st)

/-- `execute`: what it returns or raises, and the breaker after it. -/
def execute (py : Python) (adapter : Adapter) (action : Option String) (outcome : Outcome)
    (now : Int) (st : SimulatedCircuitBreakerState) :
    Except String Json × SimulatedCircuitBreakerState :=
  let action := normalizeAction action
  match st.state with
  | .invalid _ =>
    (.ok (blockedResult st adapter (orUnspecified action)
      "Simulated execution blocked: circuit breaker state is invalid."
      "circuit_state_invalid" "open" false), st)
  | .opened =>
    (.ok (blockedResult st adapter (orUnspecified action)
      "Simulated execution blocked: integration circuit breaker is open."
      "circuit_open" "open" false), st)
  | .halfOpen =>
    if !st.halfOpenProbeAvailable then
      (.ok (blockedResult st adapter (orUnspecified action)
        "Simulated execution blocked: half-open recovery probe was already used."
        "circuit_open" "half_open" false), st)
    else
      executeAdmitted py adapter action outcome true now
        { st with halfOpenProbeAvailable := false }
  | .closed => executeAdmitted py adapter action outcome false now st

/-! ## System -/

/-- What is done to a breaker. -/
inductive BreakerOp where
  | execute (adapter : Adapter) (action : Option String) (outcome : Outcome)
  | requestHalfOpenProbe
  | recordFailure (reason classification : String)
  | recordSuccess
  | manualReset (actorUsername reason : String)
  | manualForceOpen (actorUsername reason : String)
  | manualEnableHalfOpenProbe (actorUsername reason : String) (overrideCooldown : Bool)

/-- An operation on one breaker, and when it happens. -/
def stepBreaker (py : Python) (st : SimulatedCircuitBreakerState) (op : Int × BreakerOp) :
    SimulatedCircuitBreakerState :=
  match op.2 with
  | .execute adapter action outcome => (execute py adapter action outcome op.1 st).2
  | .requestHalfOpenProbe => (requestHalfOpenProbe st op.1).2
  | .recordFailure reason classification =>
    recordSimulatedAdapterFailure st reason classification op.1
  | .recordSuccess => recordSimulatedAdapterSuccess st
  | .manualReset actorUsername reason => manualReset st actorUsername reason op.1
  | .manualForceOpen actorUsername reason => manualForceOpen st actorUsername reason op.1
  | .manualEnableHalfOpenProbe actorUsername reason overrideCooldown =>
    -- a control that cannot be applied raises, and changes nothing
    match manualEnableHalfOpenProbe st actorUsername reason overrideCooldown op.1 with
    | .error _ => st
    | .ok st => st

/-- `_circuit_store`: the breaker of every key, a new one where nothing is stored. -/
abbrev CircuitStore := String → SimulatedCircuitBreakerState

/-- `_normalize_adapter_key`. -/
def normalizeAdapterKey (name : String) : String := lower (strip name)

/-- An operation on the breaker of the adapter that is named. -/
structure Call where
  adapterName : String
  now : Int
  op : BreakerOp

def stepStore (py : Python) (store : CircuitStore) (call : Call) : CircuitStore :=
  let key := normalizeAdapterKey call.adapterName
  fun other => if other = key then stepBreaker py (store key) (call.now, call.op) else store other

end SiemDashboard.BaseIntegration
