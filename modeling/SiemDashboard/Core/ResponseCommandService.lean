import SiemDashboard.Core.ActionVocabulary
import SiemDashboard.Core.ResponseDecisions

/-!
# Response command service

`core/response_command_service.py`: the response commands (block, monitor, escalate, and what takes
them back), through one shared path.  A command runs in one transaction; what it raises rolls the
transaction back.

* **Contracts** — `ResponseCommandRequest`, `ResponseCommandResult`, `buildAffectedResourceKeys`.
* **Tables** — `ResponseDb`; `Environment` and `Moment`, what the tables do not determine.
* **Parts** — `resolveSourceIp`, `defaultIdempotencyKey`, `getOrCreateActiveBlockedIp`,
  `ensureEscalationIncident`, `logResponseAction`, `reject`.
* **Commands** — `executeBlockIp`, `executeMonitor`, `executeEscalate`, `executeStopMonitor`,
  `executeRemoveTracking`, `executeAddNote`, and `executeResponseCommand`.
-/

namespace SiemDashboard.ResponseCommands

open Python Tables ResponseRegistry ResponseDecisions ActionVocabulary

/-! ## Contracts -/

/-- `ResponseCommandRequest`. -/
structure ResponseCommandRequest where
  action : String
  indicatorType : String := "ip"
  indicatorValue : Option String := none
  alertId : Option Nat := none
  incidentId : Option Nat := none
  reason : Option String := none
  actorUserId : Option Nat := none
  originSurface : String := "system"
  idempotencyKey : Option String := none
  expiresAt : Option String := none
  playbookExecutionId : Option Nat := none
  playbookStepIndex : Option Int := none
  queueId : Option Nat := none
  approvalRequestId : Option Nat := none

/-- `ResponseCommandResult`. -/
structure ResponseCommandResult where
  success : Bool
  action : String
  outcomeLabel : String
  idempotent : Bool := false
  enforcement : String := "none"
  registryRecordId : Option Nat := none
  registryEventId : Option Nat := none
  blockedIpId : Option Nat := none
  incidentId : Option Nat := none
  decisionId : Option Nat := none
  soarCorrelationId : Option String := none
  responseActionLogId : Option Nat := none
  disposition : Option Disposition := none
  message : String := ""
  error : Option String := none
  errorCode : Option String := none
  affectedResourceKeys : List String := []
  compatibleFields : List (String × Json) := []

/-- A text that is given and not empty. -/
def given (text : Option String) : Option String := text.filter (· ≠ "")

/-- The arguments of `build_affected_resource_keys`. -/
structure AffectedResources where
  alertId : Option Nat := none
  incidentId : Option Nat := none
  sourceIp : Option String := none
  blockedIpId : Option Nat := none
  registryRecordId : Option Nat := none
  queueId : Option Nat := none
  playbookExecutionId : Option Nat := none

/-- `build_affected_resource_keys`. -/
def buildAffectedResourceKeys (of : AffectedResources) : List String :=
  (of.alertId.map fun id => s!"alert:{id}").toList ++
    (of.incidentId.map fun id => s!"incident:{id}").toList ++
    ((given of.sourceIp).map fun ip => s!"source_ip:{ip}").toList ++
    (of.blockedIpId.map fun id => s!"blocked_ip:{id}").toList ++
    (of.registryRecordId.map fun id => s!"registry:{id}").toList ++
    (of.queueId.map fun id => s!"queue:{id}").toList ++
    (of.playbookExecutionId.map fun id => s!"playbook_execution:{id}").toList ++
    ["response_registry", "blocklist"]

/-- An id as a JSON value. -/
def idJson (id : Option Nat) : Json :=
  match id with
  | none => .null
  | some n => .int n

/-! ## Tables -/

/-- A row of `alerts`, as far as the commands read and write it. -/
structure AlertRow where
  id : Nat
  sourceIp : Option String
  responseAction : Option String
  responseStatus : Option String

inductive IncidentStatus where
  | open
  | investigating
  | resolved
  | closed
deriving DecidableEq, Repr

/-- A row of `incidents`. -/
structure Incident where
  id : Nat
  title : String
  severity : String
  priority : String
  status : IncidentStatus
  sourceIp : Option String
  assignedTo : Option Nat
  createdAt : Int

/-- A row of `incident_alerts`. -/
structure IncidentAlert where
  incidentId : Nat
  alertId : Nat
  linkedAt : Int

/-- A row of `response_actions_log`. -/
structure ActionLogRow where
  id : Nat
  alertId : Option Nat
  sourceIp : Option String
  action : String
  status : String
  details : String
  decisionId : Option Nat
  soarCorrelationId : Option String
  executedAt : Int

/-- The tables the commands work on. -/
structure ResponseDb where
  records : Records
  trail : Trail
  actionLog : Table ActionLogRow ActionLogRow.id
  alerts : Table AlertRow AlertRow.id
  incidents : Table Incident Incident.id
  incidentAlerts : List IncidentAlert

/-- What is the same for all commands: the interpreter and the configuration. -/
structure Environment where
  py : Python
  ip : IpLibrary
  /-- `hashlib.sha256(text.encode()).hexdigest()`. -/
  digest : String → String
  /-- `datetime.fromisoformat`, where a time without a zone is taken as UTC; the text it raises. -/
  fromIsoformat : String → Except String Int
  /-- The targets of `SOAR_PROTECTED_IPS`; the text of the error where the setting is invalid. -/
  protectedTargets : Except String (String → Bool)

/-- What a command finds at its moment. -/
structure Moment where
  /-- `NOW()` of the transaction. -/
  now : Int
  /-- `_now()`. -/
  clock : Int
  shortUuid : String
  user : Nat → Bool
  execution : Nat → Bool
  queue : Nat → Bool
  approval : Nat → Bool

/-- The rows a row of this service may refer to. -/
def ResponseDb.references (db : ResponseDb) (w : Moment) : References where
  user := w.user
  alert id := (db.alerts.row? id).isSome
  incident id := (db.incidents.row? id).isSome
  execution := w.execution
  queue := w.queue
  approval := w.approval

/-! ## Parts -/

/-- `RESPONSE_COMMAND_ACTIONS`. -/
def responseCommandActions : List String :=
  ["block_ip", "monitor", "flag_high_priority", "stop_monitor", "remove_tracking", "add_note"]

/-- The code of a `CanonicalActionValidationError`. -/
def codeText : ActionErrorCode → String
  | .missingAction => "missing_action"
  | .unsupportedAction => "unsupported_action"
  | .ambiguousNotify => "ambiguous_notify"

/-- `validate_response_command_action`. -/
def validateResponseCommandAction (py : Python) (action : String) : Except ActionError String := do
  let spec ← getActionSpec py action
  if !responseCommandActions.contains spec.name then
    .error ⟨s!"Action {py.repr (.str spec.name)} is not a canonical response command (block_ip, " ++
      "monitor, flag_high_priority, stop_monitor, remove_tracking, add_note).", .unsupportedAction⟩
  else .ok spec.name

/-- `_parse_expires_at`. -/
def parseExpiresAt (env : Environment) (value : Option String) :
    Except CommandError (Option Int) :=
  match given value with
  | none => .ok none
  | some text =>
    ((env.fromIsoformat (replaceChar 'Z' "+00:00" (strip text))).map some).mapError .value

/-- `_resolve_source_ip`. -/
def resolveSourceIp (env : Environment) (db : ResponseDb) (request : ResponseCommandRequest) :
    Except String (Option String) :=
  match given request.indicatorValue with
  | some value =>
    match env.ip.parse (strip value) with
    | some parsed => .ok (some parsed)
    | none => .error "This registry record does not contain a valid actionable IP."
  | none => .ok (request.alertId.bind fun id => (db.alerts.row? id).bind AlertRow.sourceIp)

/-- `str(value or "")` of an id. -/
def idText (id : Option Nat) : String := ((id.filter (· ≠ 0)).map toString).getD ""

/-- `str(value or "")` of a number. -/
def intText (n : Option Int) : String := ((n.filter (· ≠ 0)).map toString).getD ""

/-- `_default_idempotency_key`, of the request with the resolved action and address. -/
def defaultIdempotencyKey (env : Environment) (request : ResponseCommandRequest) (action : String)
    (sourceIp : Option String) : String :=
  match given request.idempotencyKey with
  | some key => key
  | none =>
    env.digest (String.intercalate "|"
      [ action, request.indicatorType, ((given sourceIp).or request.indicatorValue).getD "",
        idText request.alertId, request.originSurface, idText request.queueId,
        idText request.playbookExecutionId, intText request.playbookStepIndex ])

/-- The first block of the address that is active and has not expired. -/
def unexpiredBlock? (records : Records) (ipAddress : String) (now : Int) : Option BlockedIp :=
  records.blocked.rows.find? fun b => b.isActiveFor ipAddress && b.unexpired now

/-- `_get_or_create_active_blocked_ip`: the block, and whether it is new. -/
def getOrCreateActiveBlockedIp (env : Environment) (records : Records) (refs : References)
    (ipAddress : String) (createdBy : Option Nat) (reason : Option String)
    (sourceAlertId : Option Nat) (expiresAt : Option Int) (now : Int) :
    Except CommandError ((Nat × Bool) × Records) := do
  let normalized ← (validateBlockedIp env.ip ipAddress).mapError .value
  match unexpiredBlock? records normalized now with
  | some block => .ok ((block.id, false), records)
  | none =>
    let (blockId, records) ← createBlockedIpRecord env.ip records refs normalized createdBy reason
      sourceAlertId expiresAt now
    .ok ((blockId, true), records)

/-- The latest of some rows by a time, the first of several. -/
def latestBy {ρ : Type} (time : ρ → Int) (rows : List ρ) : Option ρ :=
  rows.foldl (fun best r => match best with
    | none => some r
    | some b => if time b < time r then some r else some b) none

/-- The incident is open or being investigated. -/
def Incident.isOpen (i : Incident) : Bool := i.status = .open || i.status = .investigating

/-- `INSERT INTO incident_alerts … ON CONFLICT DO NOTHING`. -/
def linkAlert (db : ResponseDb) (incidentId : Nat) (alertId : Option Nat) (now : Int) :
    Except CommandError ResponseDb :=
  match alertId with
  | none => .ok db
  | some alertId =>
    if (db.alerts.row? alertId).isNone then .error .integrity
    else if db.incidentAlerts.any fun l => l.incidentId = incidentId && l.alertId = alertId then
      .ok db
    else .ok { db with incidentAlerts := db.incidentAlerts ++ [⟨incidentId, alertId, now⟩] }

/-- The open incident the alert was linked to last. -/
def linkedIncident? (db : ResponseDb) (alertId : Option Nat) : Option Nat := do
  let alertId ← alertId
  let link ← latestBy IncidentAlert.linkedAt (db.incidentAlerts.filter fun l =>
    l.alertId = alertId && (db.incidents.row? l.incidentId).any Incident.isOpen)
  return link.incidentId

/-- The latest open incident of the address. -/
def incidentOfIp? (env : Environment) (db : ResponseDb) (sourceIp : Option String) : Option Nat := do
  let sourceIp ← given sourceIp
  let incident ← latestBy Incident.createdAt (db.incidents.rows.filter fun i =>
    i.sourceIp = some (env.ip.inet sourceIp) && i.isOpen)
  return incident.id

/-- The incident `_ensure_escalation_incident` opens. -/
def escalationIncident (env : Environment) (alertId : Option Nat) (sourceIp : Option String)
    (actorUserId : Option Nat) (now : Int) (id : Nat) : Incident where
  id := id
  title := match alertId.filter (· ≠ 0) with
    | some alertId => s!"Escalated alert {alertId}"
    | none => "Escalated IP " ++ sourceIp.getD "None"
  severity := "high"
  priority := "P2"
  status := .open
  sourceIp := sourceIp.map env.ip.inet
  assignedTo := actorUserId
  createdAt := now

theorem escalationIncident_id (env : Environment) (alertId : Option Nat) (sourceIp : Option String)
    (actorUserId : Option Nat) (now : Int) (id : Nat) :
    (escalationIncident env alertId sourceIp actorUserId now id).id = id := rfl

/-- `_ensure_escalation_incident`. -/
def ensureEscalationIncident (env : Environment) (db : ResponseDb) (w : Moment)
    (alertId : Option Nat) (sourceIp : Option String) (actorUserId : Option Nat) :
    Except CommandError (Nat × ResponseDb) :=
  match linkedIncident? db alertId with
  | some incidentId => .ok (incidentId, db)
  | none =>
    match incidentOfIp? env db sourceIp with
    | some incidentId =>
      (linkAlert db incidentId alertId w.now).map fun db => (incidentId, db)
    | none =>
      if !actorUserId.all w.user then .error .integrity
      else
        (linkAlert
          { db with
            incidents := db.incidents.insert
              (escalationIncident env alertId sourceIp actorUserId w.now)
              (escalationIncident_id env alertId sourceIp actorUserId w.now) }
          db.incidents.next alertId w.now).map fun db' => (db.incidents.next, db')

/-- The row `_log_response_action` inserts. -/
def actionLogRow (alertId : Option Nat) (sourceIp : Option String) (action status details : String)
    (decision : ResponseDecision) (now : Int) (id : Nat) : ActionLogRow where
  id := id
  alertId := alertId
  sourceIp := sourceIp
  action := action
  status := status
  details := details
  decisionId := some decision.id
  soarCorrelationId := some decision.soarCorrelationId
  executedAt := now

theorem actionLogRow_id (alertId : Option Nat) (sourceIp : Option String)
    (action status details : String) (decision : ResponseDecision) (now : Int) (id : Nat) :
    (actionLogRow alertId sourceIp action status details decision now id).id = id := rfl

/-- `_log_response_action`.  The alert of the row is that of the decision, so it exists. -/
def logResponseAction (log : Table ActionLogRow ActionLogRow.id) (alertId : Option Nat)
    (sourceIp : Option String) (action details : String) (decision : ResponseDecision) (now : Int) :
    Nat × Table ActionLogRow ActionLogRow.id :=
  (log.next, log.insert (actionLogRow alertId sourceIp action "executed" details decision now)
    (actionLogRow_id alertId sourceIp action "executed" details decision now))

/-- `UPDATE alerts SET response_action = …, response_status = 'executed' WHERE id = …`. -/
def ResponseDb.markAlert (db : ResponseDb) (alertId : Option Nat) (action : String) : ResponseDb :=
  match alertId with
  | none => db
  | some id =>
    { db with
      alerts := db.alerts.update id (fun _ => true)
        (fun a => { a with responseAction := some action, responseStatus := some "executed" })
        fun _ => rfl }

/-- The actor an outcome names. -/
def executionActor (request : ResponseCommandRequest) : String :=
  if request.actorUserId.any (· ≠ 0) then "manual" else "system"

/-- The surface an event names. -/
def originSurface (request : ResponseCommandRequest) : String :=
  if request.originSurface = "" then "system" else request.originSurface

/-- A result without success and without effect. -/
def refusal (action message errorCode : String) : ResponseCommandResult where
  success := false
  action := action
  outcomeLabel := "rejected"
  message := message
  error := some message
  errorCode := some errorCode

/-- What `_reject` records. -/
def recordRejection (env : Environment) (db : ResponseDb) (w : Moment)
    (request : ResponseCommandRequest) (action sourceIp key message : String) :
    Except CommandError ((Nat × Nat) × Records) := do
  let (registry, records) ←
    upsertIndicatorIdentity env.py env.ip db.records indicatorTypeIp sourceIp w.now
  let (event, records) ← appendRegistryEvent records (db.references w)
    { registryId := registry.id
      eventType := "rejected"
      requestedAction := action
      outcome := "rejected"
      dispositionAfter := some .rejected
      originSurface := originSurface request
      actorUserId := request.actorUserId
      reason := some message
      alertId := request.alertId
      idempotencyKey := "reject-" ++ key } w.now
  .ok ((registry.id, event.id), records)

/-- `_reject`: what recording the rejection raises is dropped. -/
def reject (env : Environment) (db : ResponseDb) (w : Moment) (request : ResponseCommandRequest)
    (action sourceIp key message errorCode : String) : ResponseCommandResult × ResponseDb :=
  let recorded := (recordRejection env db w request action sourceIp key message).toOption
  ({ refusal action message errorCode with
      registryRecordId := recorded.map (·.1.1)
      registryEventId := recorded.map (·.1.2)
      disposition := recorded.map fun _ => .rejected
      affectedResourceKeys := buildAffectedResourceKeys
        { alertId := request.alertId
          sourceIp := some sourceIp
          registryRecordId := recorded.map (·.1.1) } },
    { db with records := (recorded.map Prod.snd).getD db.records })

/-! ## Commands -/

/-- The check of the target of a block; the message and the code of the rejection. -/
def checkBlockTarget (env : Environment) (sourceIp : String) :
    Except (String × String) Unit :=
  match env.ip.parse sourceIp, env.protectedTargets with
  | none, _ => .error (notAnAddress env.py sourceIp, "invalid_indicator")
  | some _, .error message => .error (message, "protected_target_config_invalid")
  | some target, .ok isProtected =>
    if isProtected target then
      .error ("Refusing to block protected target: " ++ sourceIp, "protected_target")
    else
      match validateBlockedIp env.ip sourceIp with
      | .error message => .error (message, "invalid_indicator")
      | .ok _ => .ok ()

def blockDecision (request : ResponseCommandRequest) (action sourceIp : String) : NewDecision where
  alertId := request.alertId
  incidentId := request.incidentId
  sourceIp := some sourceIp
  selectedAction := action
  decisionSource := if request.originSurface ≠ "playbook" then "manual" else "playbook"
  reasonCode := some "tracking_only"
  outcomeSummary := "SIEM blocklist tracking recorded; no firewall or host enforcement occurred."
  playbookExecutionId := request.playbookExecutionId
  playbookStepIndex := request.playbookStepIndex
  queueId := request.queueId
  approvalRequestId := request.approvalRequestId
  createdBy := request.actorUserId

def blockOutcome (request : ResponseCommandRequest) (sourceIp key : String) (createdNew : Bool)
    (decisionId logId : Nat) : NewOutcome where
  decisionId := decisionId
  eventType := "succeeded"
  executionMode := "tracking_only"
  executionState := "succeeded"
  externalExecuted := false
  trackingRecorded := true
  simulated := false
  executionActor := executionActor request
  reasonCode := some (if createdNew then "tracking_only" else "duplicate_suppressed")
  outcomeSummary :=
    if createdNew then
      "SIEM blocklist tracking was recorded for this IP; no firewall enforcement occurred."
    else "Active blocklist tracking already existed; provenance appended."
  alertId := request.alertId
  sourceIp := some sourceIp
  responseActionLogId := some logId
  queueId := request.queueId
  playbookExecutionId := request.playbookExecutionId
  approvalRequestId := request.approvalRequestId
  idempotencyKey := "outcome-" ++ key

def blockEvent (request : ResponseCommandRequest) (action key : String) (registryId blockId : Nat)
    (createdNew : Bool) (decision : ResponseDecision) (logId : Nat) (expiresAt : Option Int) :
    NewRegistryEvent where
  registryId := registryId
  eventType := "block_ip_tracking"
  requestedAction := action
  outcome := if createdNew then "succeeded" else "idempotent_reuse"
  dispositionAfter := some .blocklistTracked
  enforcement := "tracking_only"
  originSurface := originSurface request
  actorUserId := request.actorUserId
  reason := request.reason
  alertId := request.alertId
  incidentId := request.incidentId
  playbookExecutionId := request.playbookExecutionId
  playbookStepIndex := request.playbookStepIndex
  queueId := request.queueId
  approvalRequestId := request.approvalRequestId
  blockedIpId := some blockId
  decisionId := some decision.id
  soarCorrelationId := some decision.soarCorrelationId
  responseActionLogId := some logId
  idempotencyKey := key
  expiresAt := expiresAt

/-- What a successful block returns. -/
def blockResult (request : ResponseCommandRequest) (action sourceIp : String)
    (registryId eventId blockId : Nat) (createdNew : Bool) (decision : ResponseDecision)
    (logId : Nat) : ResponseCommandResult where
  success := true
  action := action
  outcomeLabel := if createdNew then "tracking_recorded" else "idempotent_reuse"
  idempotent := !createdNew
  registryRecordId := some registryId
  registryEventId := some eventId
  blockedIpId := some blockId
  decisionId := some decision.id
  soarCorrelationId := some decision.soarCorrelationId
  responseActionLogId := some logId
  disposition := some .blocklistTracked
  message :=
    if createdNew then "Blocked IP tracking recorded (no firewall enforcement)."
    else "Active blocklist tracking reused; provenance recorded."
  affectedResourceKeys := buildAffectedResourceKeys
    { alertId := request.alertId
      sourceIp := some sourceIp
      blockedIpId := some blockId
      registryRecordId := some registryId
      queueId := request.queueId
      playbookExecutionId := request.playbookExecutionId }
  compatibleFields :=
    [ ("id", .int blockId),
      ("message", .str (if createdNew then "Blocked IP added successfully"
        else "Active block already exists for this IP")),
      ("response_status", .str "executed"),
      ("alert_id", idJson request.alertId) ]

/-- What a block does once its target is found in order. -/
def recordBlock (env : Environment) (db : ResponseDb) (w : Moment)
    (request : ResponseCommandRequest) (action sourceIp key : String) :
    Except CommandError (ResponseCommandResult × ResponseDb) := do
  let refs := db.references w
  let expiresAt ← parseExpiresAt env request.expiresAt
  let (registry, records) ←
    upsertIndicatorIdentity env.py env.ip db.records indicatorTypeIp sourceIp w.now
  let ((blockId, createdNew), records) ← getOrCreateActiveBlockedIp env records refs sourceIp
    request.actorUserId (some ((given request.reason).getD "Canonical block_ip tracking"))
    request.alertId expiresAt w.now
  let (decision, trail) ←
    createResponseDecision db.trail refs (blockDecision request action sourceIp) w.shortUuid w.now
  let (logId, actionLog) := logResponseAction db.actionLog request.alertId (some sourceIp) action
    (if createdNew then "Recorded in SIEM blocklist (tracking only)"
      else "Reused active SIEM blocklist tracking record") decision w.now
  let (_, trail) ← appendOutcomeEvent trail refs
    (blockOutcome request sourceIp key createdNew decision.id logId) w.now
  let (event, records) ← appendRegistryEvent records refs
    (blockEvent request action key registry.id blockId createdNew decision logId expiresAt) w.now
  .ok (blockResult request action sourceIp registry.id event.id blockId createdNew decision logId,
    { db with records, trail, actionLog }.markAlert request.alertId action)

/-- `_execute_block_ip`. -/
def executeBlockIp (env : Environment) (db : ResponseDb) (w : Moment)
    (request : ResponseCommandRequest) (action sourceIp key : String) :
    Except CommandError (ResponseCommandResult × ResponseDb) :=
  match checkBlockTarget env sourceIp with
  | .error (message, errorCode) =>
    .ok (reject env db w request action sourceIp key message errorCode)
  | .ok () => recordBlock env db w request action sourceIp key

/-- `timedelta(hours=DEFAULT_MONITOR_TTL_HOURS)`, in microseconds. -/
def defaultMonitorTtl : Int := 168 * 3600000000

/-- `SET monitor_expires_at = …, updated_at = NOW()`. -/
def setMonitorExpiry (records : Records) (expiresAt : Option Int) (now : Int) :
    RecordUpdate records where
  apply r := { r with monitorExpiresAt := expiresAt, updatedAt := now }
  id_eq _ := rfl
  type_eq _ := rfl
  value_eq _ := rfl
  tracked _ _ := .inl

/-- The fields of the result that a monitor and an escalation share. -/
def alertFields (request : ResponseCommandRequest) (action : String) : List (String × Json) :=
  [ ("response_status", .str "executed"), ("alert_id", idJson request.alertId),
    ("action", .str action) ]

/-- The decision of a monitor or an escalation. -/
def internalDecision (request : ResponseCommandRequest) (action : String)
    (sourceIp : Option String) (incidentId : Option Nat) (summary : String) : NewDecision where
  alertId := request.alertId
  incidentId := incidentId
  sourceIp := sourceIp
  selectedAction := action
  decisionSource := "manual"
  outcomeSummary := summary
  playbookExecutionId := request.playbookExecutionId
  queueId := request.queueId
  createdBy := request.actorUserId

/-- The outcome of a monitor or an escalation. -/
def internalOutcome (request : ResponseCommandRequest) (sourceIp : Option String)
    (incidentId : Option Nat) (key summary : String) (decisionId logId : Nat) : NewOutcome where
  decisionId := decisionId
  eventType := "succeeded"
  executionMode := "internal"
  executionState := "succeeded"
  externalExecuted := false
  trackingRecorded := false
  simulated := false
  executionActor := executionActor request
  reasonCode := none
  outcomeSummary := summary
  alertId := request.alertId
  incidentId := incidentId
  sourceIp := sourceIp
  responseActionLogId := some logId
  idempotencyKey := "outcome-" ++ key

/-- The registry event of a monitor or an escalation. -/
def internalEvent (request : ResponseCommandRequest) (action key eventType outcome : String)
    (disposition : Disposition) (reason : String) (incidentId : Option Nat) (registryId : Nat)
    (decision : ResponseDecision) (logId : Nat) (expiresAt : Option Int) : NewRegistryEvent where
  registryId := registryId
  eventType := eventType
  requestedAction := action
  outcome := outcome
  dispositionAfter := some disposition
  originSurface := originSurface request
  actorUserId := request.actorUserId
  reason := some ((given request.reason).getD reason)
  alertId := request.alertId
  incidentId := incidentId
  playbookExecutionId := request.playbookExecutionId
  queueId := request.queueId
  decisionId := some decision.id
  soarCorrelationId := some decision.soarCorrelationId
  responseActionLogId := some logId
  idempotencyKey := key
  expiresAt := expiresAt

/-- The renewal of a monitor that is active already. -/
def renewMonitor (db : ResponseDb) (w : Moment) (request : ResponseCommandRequest)
    (action sourceIp : String) (registry : RegistryRecord) (expiresAt : Int) :
    ResponseCommandResult × ResponseDb :=
  ({ success := true
     action := action
     outcomeLabel := "monitored"
     idempotent := true
     registryRecordId := some registry.id
     disposition := some .monitored
     message := "Monitoring is already active for this indicator; expiry renewed."
     affectedResourceKeys := buildAffectedResourceKeys
      { alertId := request.alertId
        incidentId := request.incidentId
        sourceIp := some sourceIp
        registryRecordId := some registry.id
        playbookExecutionId := request.playbookExecutionId }
     compatibleFields := alertFields request action },
    { db with
      records := db.records.updateRecord registry.id
        (setMonitorExpiry db.records (some expiresAt) w.now) })

def startMonitor (env : Environment) (db : ResponseDb) (w : Moment)
    (request : ResponseCommandRequest) (action sourceIp key : String) (expiresAt : Int) :
    Except CommandError (ResponseCommandResult × ResponseDb) := do
  let refs := db.references w
  let (registry, records) ←
    upsertIndicatorIdentity env.py env.ip db.records indicatorTypeIp sourceIp w.now
  let (decision, trail) ← createResponseDecision db.trail refs
    (internalDecision request action (some sourceIp) request.incidentId
      "Durable monitor/watch disposition recorded.") w.shortUuid w.now
  let (logId, actionLog) := logResponseAction db.actionLog request.alertId (some sourceIp) action
    "Monitoring disposition recorded" decision w.now
  let (_, trail) ← appendOutcomeEvent trail refs
    (internalOutcome request (some sourceIp) none key
      "Monitor/watch disposition is active in the response registry." decision.id logId) w.now
  let (event, records) ← appendRegistryEvent records refs
    (internalEvent request action key "monitor_started" "succeeded" .monitored "Monitor selected"
      request.incidentId registry.id decision logId (some expiresAt)) w.now
  .ok
    ({ success := true
       action := action
       outcomeLabel := "monitored"
       registryRecordId := some registry.id
       registryEventId := some event.id
       decisionId := some decision.id
       soarCorrelationId := some decision.soarCorrelationId
       responseActionLogId := some logId
       disposition := some .monitored
       message := "Monitoring disposition recorded."
       affectedResourceKeys := buildAffectedResourceKeys
        { alertId := request.alertId
          sourceIp := some sourceIp
          registryRecordId := some registry.id }
       compatibleFields := alertFields request action },
      { db with records, trail, actionLog }.markAlert request.alertId action)

/-- `_execute_monitor`. -/
def executeMonitor (env : Environment) (db : ResponseDb) (w : Moment)
    (request : ResponseCommandRequest) (action sourceIp key : String) :
    Except CommandError (ResponseCommandResult × ResponseDb) := do
  let expiresAt ← parseExpiresAt env request.expiresAt
  let expiresAt := expiresAt.getD (w.clock + defaultMonitorTtl)
  let existing ← getIndicatorByValue env.py env.ip db.records indicatorTypeIp sourceIp
  match existing.filter fun r => r.currentDisposition = .monitored with
  | some registry => .ok (renewMonitor db w request action sourceIp registry expiresAt)
  | none => startMonitor env db w request action sourceIp key expiresAt

/-- What an escalation writes into the registry, for an address. -/
def recordEscalation (records : Records) (refs : References) (w : Moment)
    (request : ResponseCommandRequest) (action key : String) (incidentId : Nat)
    (registry : Option RegistryRecord) (decision : ResponseDecision) (logId : Nat) :
    Except CommandError (Option (Nat × Nat) × Records) :=
  match registry with
  | none => .ok (none, records)
  | some registry =>
    (appendRegistryEvent records refs
      (internalEvent request action key "escalated" "escalated" .escalated "Escalation selected"
        (some incidentId) registry.id decision logId none) w.now).map
      fun (event, records) => (some (registry.id, event.id), records)

/-- The record of the address, if there is one. -/
def upsertGiven (env : Environment) (records : Records) (sourceIp : Option String) (now : Int) :
    Except CommandError (Option RegistryRecord × Records) :=
  match given sourceIp with
  | none => .ok (none, records)
  | some sourceIp =>
    (upsertIndicatorIdentity env.py env.ip records indicatorTypeIp sourceIp now).map
      fun (registry, records) => (some registry, records)

/-- `_execute_escalate`. -/
def executeEscalate (env : Environment) (db : ResponseDb) (w : Moment)
    (request : ResponseCommandRequest) (action : String) (sourceIp : Option String) (key : String) :
    Except CommandError (ResponseCommandResult × ResponseDb) := do
  let (incidentId, db) ←
    ensureEscalationIncident env db w request.alertId sourceIp request.actorUserId
  let refs := db.references w
  let (registry, records) ← upsertGiven env db.records sourceIp w.now
  let (decision, trail) ← createResponseDecision db.trail refs
    (internalDecision request action sourceIp (some incidentId)
      "Internal escalation recorded via incident handoff.") w.shortUuid w.now
  let (logId, actionLog) := logResponseAction db.actionLog request.alertId sourceIp action
    s!"Escalated to incident {incidentId}" decision w.now
  let (_, trail) ← appendOutcomeEvent trail refs
    (internalOutcome request sourceIp (some incidentId) key
      s!"Escalation created/linked incident {incidentId}." decision.id logId) w.now
  let (recorded, records) ←
    recordEscalation records refs w request action key incidentId registry decision logId
  .ok
    ({ success := true
       action := action
       outcomeLabel := "escalated"
       registryRecordId := recorded.map Prod.fst
       registryEventId := recorded.map Prod.snd
       incidentId := some incidentId
       decisionId := some decision.id
       soarCorrelationId := some decision.soarCorrelationId
       responseActionLogId := some logId
       disposition := recorded.map fun _ => .escalated
       message := s!"Escalation recorded; incident {incidentId}."
       affectedResourceKeys := buildAffectedResourceKeys
        { alertId := request.alertId
          incidentId := some incidentId
          sourceIp := sourceIp
          registryRecordId := recorded.map Prod.fst }
       compatibleFields := alertFields request action ++ [("incident_id", .int incidentId)] },
      { db with records, trail, actionLog }.markAlert request.alertId action)

/-- The record of an address, made where there is none. -/
def obtainRecord (env : Environment) (records : Records) (sourceIp : String) (now : Int) :
    Except CommandError (RegistryRecord × Records) := do
  let existing ← getIndicatorByValue env.py env.ip records indicatorTypeIp sourceIp
  match existing with
  | some registry => .ok (registry, records)
  | none => upsertIndicatorIdentity env.py env.ip records indicatorTypeIp sourceIp now

/-- The registry event that takes a response back. -/
def removalEvent (request : ResponseCommandRequest) (action key eventType reason : String)
    (registryId : Nat) (incidentId blockedIpId : Option Nat) : NewRegistryEvent where
  registryId := registryId
  eventType := eventType
  requestedAction := action
  outcome := "removed"
  dispositionAfter := some .removed
  originSurface := originSurface request
  actorUserId := request.actorUserId
  reason := some ((given request.reason).getD reason)
  alertId := request.alertId
  incidentId := incidentId
  blockedIpId := blockedIpId
  idempotencyKey := key

/-- `_execute_stop_monitor`. -/
def executeStopMonitor (env : Environment) (db : ResponseDb) (w : Moment)
    (request : ResponseCommandRequest) (action sourceIp key : String) :
    Except CommandError (ResponseCommandResult × ResponseDb) := do
  let (registry, records) ← obtainRecord env db.records sourceIp w.now
  if registry.currentDisposition ≠ .monitored then
    .ok
      ({ success := true
         action := action
         outcomeLabel := "removed"
         idempotent := true
         registryRecordId := some registry.id
         disposition := some registry.currentDisposition
         message := "Monitoring is already inactive for this indicator."
         affectedResourceKeys := buildAffectedResourceKeys
          { sourceIp := some sourceIp
            registryRecordId := some registry.id
            alertId := request.alertId
            incidentId := request.incidentId
            playbookExecutionId := request.playbookExecutionId } },
        { db with records })
  else
    let (event, records) ← appendRegistryEvent records (db.references w)
      (removalEvent request action key "monitor_stopped" "Monitoring stopped" registry.id
        request.incidentId none) w.now
    .ok
      ({ success := true
         action := action
         outcomeLabel := "removed"
         registryRecordId := some registry.id
         registryEventId := some event.id
         disposition := some .removed
         message := "Monitoring stopped. No firewall or host enforcement changed."
         affectedResourceKeys := buildAffectedResourceKeys
          { sourceIp := some sourceIp
            registryRecordId := some registry.id
            alertId := request.alertId } },
        { db with
          records := records.updateRecord registry.id (setMonitorExpiry records none w.now) })

def latestActiveBlock? (records : Records) (ipAddress : String) : Option BlockedIp :=
  (records.blocked.rows.filter (·.isActiveFor ipAddress)).getLast?

/-- `SET active_blocked_ip_id = NULL, updated_at = NOW()`. -/
def clearActiveBlock (records : Records) (now : Int) : RecordUpdate records where
  apply r := { r with activeBlockedIpId := none, updatedAt := now }
  id_eq _ := rfl
  type_eq _ := rfl
  value_eq _ := rfl
  tracked _ _ := nofun

/-- `_execute_remove_tracking`. -/
def executeRemoveTracking (env : Environment) (db : ResponseDb) (w : Moment)
    (request : ResponseCommandRequest) (action sourceIp key : String) :
    Except CommandError (ResponseCommandResult × ResponseDb) := do
  let (registry, records) ←
    upsertIndicatorIdentity env.py env.ip db.records indicatorTypeIp sourceIp w.now
  match latestActiveBlock? db.records (env.ip.inet sourceIp) with
  | none =>
    .ok
      ({ success := true
         action := action
         outcomeLabel := "removed"
         idempotent := true
         registryRecordId := some registry.id
         disposition := some registry.currentDisposition
         message := "No active Blocklist tracking exists for this IP."
         affectedResourceKeys := buildAffectedResourceKeys
          { sourceIp := some sourceIp
            registryRecordId := some registry.id } },
        { db with records })
  | some block =>
    let (event, records) ← appendRegistryEvent (records.deactivateBlock block.id) (db.references w)
      (removalEvent request action key "tracking_removed" "Blocklist tracking removed" registry.id
        none (some block.id)) w.now
    .ok
      ({ success := true
         action := action
         outcomeLabel := "removed"
         registryRecordId := some registry.id
         registryEventId := some event.id
         blockedIpId := some block.id
         disposition := some .removed
         message := "Blocklist tracking removed. Tracking only; no firewall or host enforcement " ++
          "changed."
         affectedResourceKeys := buildAffectedResourceKeys
          { sourceIp := some sourceIp
            blockedIpId := some block.id
            registryRecordId := some registry.id
            alertId := request.alertId }
         compatibleFields :=
          [ ("message", .str ("SIEM Blocklist tracking removed. History remains; no firewall or " ++
              "host enforcement changed.")),
            ("id", .int block.id) ] },
        { db with records := records.updateRecord registry.id (clearActiveBlock records w.now) })

def noteEvent (request : ResponseCommandRequest) (action key : String)
    (registry : RegistryRecord) : NewRegistryEvent where
  registryId := registry.id
  eventType := "note"
  requestedAction := action
  outcome := "recorded"
  dispositionAfter := some registry.currentDisposition
  originSurface := originSurface request
  actorUserId := request.actorUserId
  reason := some (strip (request.reason.getD ""))
  alertId := request.alertId
  incidentId := request.incidentId
  idempotencyKey := key
  updateRegistry := false

/-- `_execute_add_note`. -/
def executeAddNote (env : Environment) (db : ResponseDb) (w : Moment)
    (request : ResponseCommandRequest) (action sourceIp key : String) :
    Except CommandError (ResponseCommandResult × ResponseDb) := do
  let (registry, records) ←
    upsertIndicatorIdentity env.py env.ip db.records indicatorTypeIp sourceIp w.now
  let (event, records) ← appendRegistryEvent records (db.references w)
    (noteEvent request action key registry) w.now
  .ok
    ({ success := true
       action := action
       outcomeLabel := "recorded"
       registryRecordId := some registry.id
       registryEventId := some event.id
       disposition := some registry.currentDisposition
       message := "Note recorded in response history."
       affectedResourceKeys := buildAffectedResourceKeys
        { sourceIp := some sourceIp
          registryRecordId := some registry.id
          alertId := request.alertId } },
      { db with records := records.updateRecord registry.id (records.touch w.now) })

/-- The actions that need an address. -/
def addressActions : List String :=
  ["block_ip", "monitor", "stop_monitor", "remove_tracking", "add_note"]

/-- The resolved action and address of a request, or the refusal: its message and code. -/
def resolveCommand (env : Environment) (db : ResponseDb) (request : ResponseCommandRequest) :
    Except ResponseCommandResult (String × Option String) :=
  match validateResponseCommandAction env.py request.action with
  | .error e => .error (refusal request.action e.message (codeText e.code))
  | .ok action =>
    match resolveSourceIp env db request with
    | .error message => .error (refusal action message "invalid_indicator")
    | .ok sourceIp =>
      if addressActions.contains action && (given sourceIp).isNone then
        .error (refusal action "No actionable IP is available for this registry record."
          "validation_no_target")
      else if action = "flag_high_priority" && request.alertId.isNone && (given sourceIp).isNone then
        .error (refusal action "alert_id or source_ip is required for escalation"
          "validation_no_target")
      else if action = "add_note" && strip (request.reason.getD "") = "" then
        .error (refusal action "reason is required for add_note" "validation_missing_reason")
      else .ok (action, sourceIp)

/-- The command of a resolved action. -/
def dispatchCommand (env : Environment) (db : ResponseDb) (w : Moment)
    (request : ResponseCommandRequest) (action : String) (sourceIp : Option String) :
    Except CommandError (ResponseCommandResult × ResponseDb) :=
  let key := defaultIdempotencyKey env request action sourceIp
  let address := sourceIp.getD ""
  if action = "block_ip" then executeBlockIp env db w request action address key
  else if action = "monitor" then executeMonitor env db w request action address key
  else if action = "stop_monitor" then executeStopMonitor env db w request action address key
  else if action = "remove_tracking" then executeRemoveTracking env db w request action address key
  else if action = "add_note" then executeAddNote env db w request action address key
  else executeEscalate env db w request action sourceIp key

/-- `execute_response_command`. -/
def executeResponseCommand (env : Environment) (db : ResponseDb) (w : Moment)
    (request : ResponseCommandRequest) :
    Except CommandError (ResponseCommandResult × ResponseDb) :=
  match resolveCommand env db request with
  | .error refused => .ok (refused, db)
  | .ok (action, sourceIp) => dispatchCommand env db w request action sourceIp

/-! ## Runs -/

/-- A request and the moment of its command. -/
structure Call where
  moment : Moment
  request : ResponseCommandRequest

/-- What a call comes to. -/
abbrev Call.run (env : Environment) (db : ResponseDb) (call : Call) :
    Except CommandError (ResponseCommandResult × ResponseDb) :=
  executeResponseCommand env db call.moment call.request

/-- The call returns success. -/
def Succeeds (env : Environment) (db : ResponseDb) (call : Call) : Prop :=
  ∃ res db', call.run env db = .ok (res, db') ∧ res.success = true

theorem success_iff (x : Except CommandError (ResponseCommandResult × ResponseDb)) :
    x.toOption.any (·.1.success) = true ↔ ∃ res db', x = .ok (res, db') ∧ res.success = true := by
  rcases x with e | ⟨res, db'⟩
  · simp [Except.toOption]
  · constructor
    · exact fun h => ⟨res, db', rfl, h⟩
    · rintro ⟨res', db'', heq, h⟩
      cases heq
      exact h

instance Succeeds.decidable (env : Environment) (db : ResponseDb) (call : Call) :
    Decidable (Succeeds env db call) :=
  decidable_of_iff _ (success_iff (call.run env db))

/-- The tables after a call; what is raised rolls it back. -/
def stepCall (env : Environment) (db : ResponseDb) (call : Call) : ResponseDb :=
  match call.run env db with
  | .ok (_, db') => db'
  | .error _ => db

/-! ## What a part does -/

/-- The block a command uses: one that has not expired, or a new one where none is active. -/
theorem getOrCreateActiveBlockedIp_eq_ok {env : Environment} {records records' : Records}
    {refs : References} {ipAddress : String} {createdBy : Option Nat} {reason : Option String}
    {sourceAlertId : Option Nat} {expiresAt : Option Int} {now : Int} {blockId : Nat}
    {createdNew : Bool}
    (h : getOrCreateActiveBlockedIp env records refs ipAddress createdBy reason sourceAlertId
      expiresAt now = .ok ((blockId, createdNew), records')) :
    ∃ normalized, validateBlockedIp env.ip ipAddress = .ok normalized ∧
      ((∃ block, unexpiredBlock? records normalized now = some block ∧ block.id = blockId ∧
          createdNew = false ∧ records' = records) ∨
        (unexpiredBlock? records normalized now = none ∧ blockId = records.blocked.next ∧
          createdNew = true ∧ records.blocked.rows.any (·.isActiveFor normalized) = false ∧
          records' = records.insertBlock
            (newBlock normalized createdBy reason sourceAlertId expiresAt now)
            (newBlock_id normalized createdBy reason sourceAlertId expiresAt now))) := by
  obtain ⟨normalized, hvalid, h⟩ := Checks.bind_eq_ok.mp h
  rw [Checks.mapError_eq_ok] at hvalid
  refine ⟨normalized, hvalid, ?_⟩
  split at h
  · next block hblock =>
    cases h
    exact .inl ⟨block, hblock, rfl, rfl, rfl⟩
  · next hnone =>
    obtain ⟨⟨blockId', records₁⟩, hcreate, h⟩ := Checks.bind_eq_ok.mp h
    cases h
    obtain ⟨target, htarget, hactive, hid, hrecords⟩ := createBlockedIpRecord_eq_ok hcreate
    obtain rfl : normalized = target :=
      Except.ok.inj ((validateBlockedIp_canonical hvalid).2.symm.trans htarget)
    exact .inr ⟨hnone, hid, rfl, hactive, hrecords⟩

/-- When a command finds a block to use: one that has not expired, or none that is active. -/
theorem getOrCreateActiveBlockedIp_isOk {env : Environment} {records : Records} {refs : References}
    {ipAddress normalized : String} {createdBy : Option Nat} {reason : Option String}
    {sourceAlertId : Option Nat} {expiresAt : Option Int} {now : Int}
    (hvalid : validateBlockedIp env.ip ipAddress = .ok normalized)
    (halert : sourceAlertId.all refs.alert = true) :
    (getOrCreateActiveBlockedIp env records refs ipAddress createdBy reason sourceAlertId expiresAt
        now).isOk = true ↔
      (unexpiredBlock? records normalized now).isSome = true ∨
        records.blocked.rows.any (·.isActiveFor normalized) = false := by
  constructor
  · intro h
    obtain ⟨⟨⟨blockId, createdNew⟩, records'⟩, h⟩ := Checks.isOk_iff.mp h
    obtain ⟨normalized', hvalid', hcases⟩ := getOrCreateActiveBlockedIp_eq_ok h
    obtain rfl := Except.ok.inj (hvalid.symm.trans hvalid')
    rcases hcases with ⟨block, hblock, -⟩ | ⟨-, -, -, hfree, -⟩
    · exact .inl (by rw [hblock]; rfl)
    · exact .inr hfree
  · intro h
    refine Checks.isOk_bind.mpr ⟨normalized, Checks.mapError_eq_ok.mpr hvalid, ?_⟩
    split
    · rfl
    · next hnone =>
      have hfree : records.blocked.rows.any (·.isActiveFor normalized) = false :=
        h.resolve_left (by simp [hnone])
      have hcreated : (createBlockedIpRecord env.ip records refs normalized createdBy reason
          sourceAlertId expiresAt now).isOk = true := by
        refine Checks.isOk_bind.mpr
          ⟨normalized, Checks.mapError_eq_ok.mpr (validateBlockedIp_canonical hvalid).2, ?_⟩
        rw [halert, hfree]
        rfl
      obtain ⟨created, hcreated⟩ := Checks.isOk_iff.mp hcreated
      exact Checks.isOk_bind.mpr ⟨created, hcreated, rfl⟩

/-- Obtaining a record changes nothing that it shows. -/
theorem obtainRecord_eq_ok {env : Environment} {records records' : Records} {sourceIp : String}
    {now : Int} {r : RegistryRecord}
    (h : obtainRecord env records sourceIp now = .ok (r, records')) :
    ∃ normalized, normalizeIndicatorValue env.py env.ip indicatorTypeIp sourceIp = .ok normalized ∧
      records'.recordOf? indicatorTypeIp normalized = some r ∧
      disposedAs (some r) = disposedAs (records.recordOf? indicatorTypeIp normalized) ∧
      records'.blocked = records.blocked ∧ records'.events = records.events := by
  obtain ⟨existing, hget, h⟩ := Checks.bind_eq_ok.mp h
  obtain ⟨normalized, hnormalized, hexisting⟩ := getIndicatorByValue_eq_ok.mp hget
  cases existing with
  | none => exact upsertIndicatorIdentity_eq_ok h
  | some registry =>
    cases h
    exact ⟨normalized, hnormalized, hexisting, by rw [hexisting], rfl, rfl⟩

/-- The block a command uses is stored and active for the address. -/
theorem getOrCreateActiveBlockedIp_stored {env : Environment} {records records' : Records}
    {refs : References} {ipAddress normalized : String} {createdBy : Option Nat}
    {reason : Option String} {sourceAlertId : Option Nat} {expiresAt : Option Int} {now : Int}
    {blockId : Nat} {createdNew : Bool}
    (h : getOrCreateActiveBlockedIp env records refs ipAddress createdBy reason sourceAlertId
      expiresAt now = .ok ((blockId, createdNew), records'))
    (hvalid : validateBlockedIp env.ip ipAddress = .ok normalized) :
    ∃ block, records'.blocked.row? blockId = some block ∧ block.id = blockId ∧
      block.isActiveFor normalized = true := by
  obtain ⟨normalized', hvalid', h⟩ := getOrCreateActiveBlockedIp_eq_ok h
  obtain rfl := Except.ok.inj (hvalid.symm.trans hvalid')
  rcases h with ⟨block, hblock, rfl, -, rfl⟩ | ⟨-, rfl, -, -, rfl⟩
  · have hactive := List.find?_some hblock
    rw [Bool.and_eq_true] at hactive
    exact ⟨block, Table.mem_rows.mp (List.mem_of_find?_eq_some hblock), rfl, hactive.1⟩
  · refine ⟨newBlock normalized createdBy reason sourceAlertId expiresAt now records.blocked.next,
      ?_, rfl, ?_⟩
    · rw [Records.insertBlock, Table.insert_row?, if_pos rfl]
    · simp [BlockedIp.isActiveFor, newBlock]

theorem linkAlert_eq_ok {db db' : ResponseDb} {incidentId : Nat} {alertId : Option Nat} {now : Int}
    (h : linkAlert db incidentId alertId now = .ok db') :
    db'.records = db.records ∧ db'.trail = db.trail := by
  unfold linkAlert at h
  split at h
  · cases h
    exact ⟨rfl, rfl⟩
  · split at h
    · cases h
    · split at h <;> cases h <;> exact ⟨rfl, rfl⟩

/-- Finding or opening an incident touches neither the registry nor the trail. -/
theorem ensureEscalationIncident_eq_ok {env : Environment} {db db' : ResponseDb} {w : Moment}
    {alertId : Option Nat} {sourceIp : Option String} {actorUserId : Option Nat} {incidentId : Nat}
    (h : ensureEscalationIncident env db w alertId sourceIp actorUserId = .ok (incidentId, db')) :
    db'.records = db.records ∧ db'.trail = db.trail := by
  unfold ensureEscalationIncident at h
  split at h
  · cases h
    exact ⟨rfl, rfl⟩
  · split at h
    · obtain ⟨db₁, hlink, hpair⟩ := Checks.map_eq_ok.mp h
      cases hpair
      exact linkAlert_eq_ok hlink
    · split at h
      · cases h
      · obtain ⟨db₁, hlink, hpair⟩ := Checks.map_eq_ok.mp h
        cases hpair
        obtain ⟨hrecords, htrail⟩ := linkAlert_eq_ok hlink
        exact ⟨hrecords, htrail⟩

@[simp] theorem markAlert_records (db : ResponseDb) (alertId : Option Nat) (action : String) :
    (db.markAlert alertId action).records = db.records := by
  cases alertId <;> rfl

@[simp] theorem markAlert_trail (db : ResponseDb) (alertId : Option Nat) (action : String) :
    (db.markAlert alertId action).trail = db.trail := by
  cases alertId <;> rfl

/-- A refused request has no success. -/
theorem resolveCommand_error {env : Environment} {db : ResponseDb} {request : ResponseCommandRequest}
    {refused : ResponseCommandResult} (h : resolveCommand env db request = .error refused) :
    refused.success = false := by
  unfold resolveCommand at h
  split at h
  · cases h
    rfl
  · split at h
    · cases h
      rfl
    · split at h
      · cases h
        rfl
      · split at h
        · cases h
          rfl
        · split at h <;> cases h
          rfl

/-- What a resolved request has: its address, a response command, and an address where the command
    needs one. -/
theorem resolveCommand_eq_ok {env : Environment} {db : ResponseDb}
    {request : ResponseCommandRequest} {action : String} {sourceIp : Option String}
    (h : resolveCommand env db request = .ok (action, sourceIp)) :
    resolveSourceIp env db request = .ok sourceIp ∧ action ∈ responseCommandActions ∧
      (action ∈ addressActions → ∃ s, sourceIp = some s ∧ s ≠ "") := by
  unfold resolveCommand at h
  split at h
  · cases h
  · next action' haction =>
    split at h
    · cases h
    · next sourceIp' hsource =>
      split at h
      · cases h
      · next haddress =>
        have hresolved : action' = action ∧ sourceIp' = sourceIp := by
          split at h
          · cases h
          · split at h
            · cases h
            · cases h
              exact ⟨rfl, rfl⟩
        obtain ⟨rfl, rfl⟩ := hresolved
        refine ⟨hsource, ?_, fun hmem => ?_⟩
        · obtain ⟨spec, -, hspec⟩ := Checks.bind_eq_ok.mp haction
          split at hspec
          · cases hspec
          · next hcommand =>
            cases hspec
            simpa using hcommand
        · cases sourceIp' with
          | none => simp [hmem, given] at haddress
          | some s => exact ⟨s, rfl, by simpa [hmem, given] using haddress⟩

/-! ## What a command does -/

/-- What a command does to the blocks. -/
inductive BlocksChange (blocked : Table BlockedIp BlockedIp.id) :
    Table BlockedIp BlockedIp.id → Prop
  | same : BlocksChange blocked blocked
  | inserted (block : Nat → BlockedIp) (hblock : ∀ id, (block id).id = id) (ipAddress : String)
      (haddress : ∀ id, (block id).ipAddress = ipAddress)
      (hfree : blocked.rows.any (·.isActiveFor ipAddress) = false) :
      BlocksChange blocked (blocked.insert block hblock)
  | deactivated (blockId : Nat) :
      BlocksChange blocked (blocked.update blockId (fun b => b.status = .active)
        (fun b => { b with status := .inactive }) fun _ => rfl)

/-- What a command does to the trail: it records a decision and appends its outcome with the key, or
    it does nothing. -/
inductive TrailChange (trail : Trail) : Option String → Trail → Prop
  | same : TrailChange trail none trail
  | decided {refs : References} {new : NewDecision} {shortUuid : String} {now : Int}
      {decision : ResponseDecision} {trail₁ trail₂ : Trail} {outcome : NewOutcome}
      {event : ResponseEvent} {key : String}
      (hcreate : createResponseDecision trail refs new shortUuid now = .ok (decision, trail₁))
      (happend : appendOutcomeEvent trail₁ refs outcome now = .ok (event, trail₂))
      (hdecision : outcome.decisionId = decision.id)
      (hkey : outcome.idempotencyKey = "outcome-" ++ key) : TrailChange trail (some key) trail₂

section Commands

variable {env : Environment} {db db' : ResponseDb} {w : Moment} {request : ResponseCommandRequest}
  {action sourceIp key : String} {res : ResponseCommandResult}

theorem appendRegistryEvent_blocked {records records' : Records} {refs : References}
    {new : NewRegistryEvent} {now : Int} {event : RegistryEvent}
    (h : appendRegistryEvent records refs new now = .ok (event, records')) :
    records'.blocked = records.blocked := by
  rcases appendRegistryEvent_eq_ok h with ⟨-, rfl⟩ | ⟨-, hblocked, -⟩
  · rfl
  · exact hblocked

theorem recordBlock_changes
    (h : recordBlock env db w request action sourceIp key = .ok (res, db')) :
    BlocksChange db.records.blocked db'.records.blocked ∧
      TrailChange db.trail (some key) db'.trail := by
  obtain ⟨expiresAt, -, h⟩ := Checks.bind_eq_ok.mp h
  obtain ⟨⟨r, records₁⟩, hupsert, h⟩ := Checks.bind_eq_ok.mp h
  obtain ⟨⟨⟨blockId, createdNew⟩, records₂⟩, hblocked, h⟩ := Checks.bind_eq_ok.mp h
  obtain ⟨⟨decision, trail₁⟩, hcreate, h⟩ := Checks.bind_eq_ok.mp h
  obtain ⟨⟨outcome, trail₂⟩, happend, h⟩ := Checks.bind_eq_ok.mp h
  obtain ⟨⟨event, records₃⟩, hevent, h⟩ := Checks.bind_eq_ok.mp h
  cases h
  obtain ⟨value, -, -, -, hblocks, -⟩ := upsertIndicatorIdentity_eq_ok hupsert
  obtain ⟨normalized, -, hcases⟩ := getOrCreateActiveBlockedIp_eq_ok hblocked
  rw [markAlert_records, markAlert_trail]
  refine ⟨?_, .decided hcreate happend rfl rfl⟩
  rw [appendRegistryEvent_blocked hevent]
  rcases hcases with ⟨-, -, -, -, rfl⟩ | ⟨-, -, -, hfree, rfl⟩
  · rw [hblocks]
    exact .same
  · rw [hblocks] at hfree
    rw [insertBlock_blocked, hblocks]
    exact .inserted _ _ normalized (fun _ => rfl) hfree

theorem reject_changes (env : Environment) (db : ResponseDb) (w : Moment)
    (request : ResponseCommandRequest) (action sourceIp key message errorCode : String) :
    (reject env db w request action sourceIp key message errorCode).2.records.blocked =
        db.records.blocked ∧
      (reject env db w request action sourceIp key message errorCode).2.trail = db.trail := by
  refine ⟨?_, rfl⟩
  unfold reject
  dsimp only
  cases hrecorded : recordRejection env db w request action sourceIp key message with
  | error e => rfl
  | ok answer =>
    obtain ⟨ids, records'⟩ := answer
    obtain ⟨⟨r, records₁⟩, hupsert, h⟩ := Checks.bind_eq_ok.mp hrecorded
    obtain ⟨⟨event, records₂⟩, happend, h⟩ := Checks.bind_eq_ok.mp h
    cases h
    obtain ⟨value, -, -, -, hblocks, -⟩ := upsertIndicatorIdentity_eq_ok hupsert
    exact (appendRegistryEvent_blocked happend).trans hblocks

theorem executeBlockIp_changes
    (h : executeBlockIp env db w request action sourceIp key = .ok (res, db')) :
    BlocksChange db.records.blocked db'.records.blocked ∧
      TrailChange db.trail
        (match checkBlockTarget env sourceIp with
          | .ok () => some key
          | .error _ => none) db'.trail := by
  unfold executeBlockIp at h
  split at h
  · next message errorCode hcheck =>
    obtain ⟨hblocks, htrail⟩ :=
      reject_changes env db w request action sourceIp key message errorCode
    have hdb' : (reject env db w request action sourceIp key message errorCode).2 = db' :=
      congrArg Prod.snd (Except.ok.inj h)
    rw [← hdb', hblocks, htrail, hcheck]
    exact ⟨.same, .same⟩
  · next hcheck =>
    rw [hcheck]
    exact recordBlock_changes h

/-- The key of the decision a monitor records: none where it is active already. -/
def monitorKey (env : Environment) (records : Records) (sourceIp key : String) : Option String :=
  match getIndicatorByValue env.py env.ip records indicatorTypeIp sourceIp with
  | .ok (some r) => if r.currentDisposition = .monitored then none else some key
  | _ => some key

theorem executeMonitor_changes
    (h : executeMonitor env db w request action sourceIp key = .ok (res, db')) :
    db'.records.blocked = db.records.blocked ∧
      TrailChange db.trail (monitorKey env db.records sourceIp key) db'.trail := by
  obtain ⟨expiresAt, -, h⟩ := Checks.bind_eq_ok.mp h
  obtain ⟨existing, hget, h⟩ := Checks.bind_eq_ok.mp h
  unfold monitorKey
  rw [hget]
  split at h
  · next r hr =>
    cases h
    rw [Option.filter_eq_some_iff, decide_eq_true_eq] at hr
    obtain ⟨rfl, hmonitored⟩ := hr
    simp only [hmonitored, if_true]
    exact ⟨rfl, .same⟩
  · next hnone =>
    obtain ⟨⟨r, records₁⟩, hupsert, h⟩ := Checks.bind_eq_ok.mp h
    obtain ⟨⟨decision, trail₁⟩, hcreate, h⟩ := Checks.bind_eq_ok.mp h
    obtain ⟨⟨outcome, trail₂⟩, happend, h⟩ := Checks.bind_eq_ok.mp h
    obtain ⟨⟨event, records₂⟩, hevent, h⟩ := Checks.bind_eq_ok.mp h
    cases h
    obtain ⟨value, -, -, -, hblocks, -⟩ := upsertIndicatorIdentity_eq_ok hupsert
    rw [markAlert_records, markAlert_trail]
    refine ⟨(appendRegistryEvent_blocked hevent).trans hblocks, ?_⟩
    have hkey : (match (Except.ok existing : Except CommandError (Option RegistryRecord)) with
        | .ok (some r) => if r.currentDisposition = .monitored then none else some key
        | _ => some key) = some key := by
      cases existing with
      | none => rfl
      | some r₀ => simpa [Option.filter] using hnone
    rw [hkey]
    exact .decided hcreate happend rfl rfl

theorem executeEscalate_changes {address : Option String}
    (h : executeEscalate env db w request action address key = .ok (res, db')) :
    db'.records.blocked = db.records.blocked ∧ TrailChange db.trail (some key) db'.trail := by
  obtain ⟨⟨incidentId, db₁⟩, hensure, h⟩ := Checks.bind_eq_ok.mp h
  obtain ⟨⟨registry, records₁⟩, hupsert, h⟩ := Checks.bind_eq_ok.mp h
  obtain ⟨⟨decision, trail₁⟩, hcreate, h⟩ := Checks.bind_eq_ok.mp h
  obtain ⟨⟨outcome, trail₂⟩, happend, h⟩ := Checks.bind_eq_ok.mp h
  obtain ⟨⟨recorded, records₂⟩, hrecord, h⟩ := Checks.bind_eq_ok.mp h
  cases h
  obtain ⟨hrecords, htrail⟩ := ensureEscalationIncident_eq_ok hensure
  rw [htrail] at hcreate
  rw [hrecords] at hupsert
  rw [markAlert_records, markAlert_trail]
  refine ⟨?_, .decided hcreate happend rfl rfl⟩
  unfold upsertGiven at hupsert
  split at hupsert
  · cases hupsert
    cases hrecord
    rfl
  · obtain ⟨⟨r, _⟩, hupsert, hpair⟩ := Checks.map_eq_ok.mp hupsert
    cases hpair
    obtain ⟨⟨event, _⟩, hevent, hpair⟩ := Checks.map_eq_ok.mp hrecord
    cases hpair
    obtain ⟨value, -, -, -, hblocks, -⟩ := upsertIndicatorIdentity_eq_ok hupsert
    exact (appendRegistryEvent_blocked hevent).trans hblocks

theorem executeStopMonitor_changes
    (h : executeStopMonitor env db w request action sourceIp key = .ok (res, db')) :
    db'.records.blocked = db.records.blocked ∧ db'.trail = db.trail := by
  obtain ⟨⟨r, records₁⟩, hobtain, h⟩ := Checks.bind_eq_ok.mp h
  obtain ⟨value, -, -, -, hblocks, -⟩ := obtainRecord_eq_ok hobtain
  dsimp only at h
  split at h
  · cases h
    exact ⟨hblocks, rfl⟩
  · obtain ⟨⟨event, records₂⟩, happend, h⟩ := Checks.bind_eq_ok.mp h
    cases h
    exact ⟨(appendRegistryEvent_blocked happend).trans hblocks, rfl⟩

theorem executeRemoveTracking_changes
    (h : executeRemoveTracking env db w request action sourceIp key = .ok (res, db')) :
    BlocksChange db.records.blocked db'.records.blocked ∧ db'.trail = db.trail := by
  obtain ⟨⟨r, records₁⟩, hupsert, h⟩ := Checks.bind_eq_ok.mp h
  obtain ⟨value, -, -, -, hblocks, -⟩ := upsertIndicatorIdentity_eq_ok hupsert
  dsimp only at h
  split at h
  · cases h
    exact ⟨by rw [hblocks]; exact .same, rfl⟩
  · next block hblock =>
    obtain ⟨⟨event, records₂⟩, happend, h⟩ := Checks.bind_eq_ok.mp h
    cases h
    refine ⟨?_, rfl⟩
    have hafter : records₂.blocked = (records₁.deactivateBlock block.id).blocked :=
      appendRegistryEvent_blocked happend
    change BlocksChange db.records.blocked records₂.blocked
    rw [hafter, deactivateBlock_blocked, hblocks]
    exact .deactivated block.id

theorem executeAddNote_changes
    (h : executeAddNote env db w request action sourceIp key = .ok (res, db')) :
    db'.records.blocked = db.records.blocked ∧ db'.trail = db.trail := by
  obtain ⟨⟨r, records₁⟩, hupsert, h⟩ := Checks.bind_eq_ok.mp h
  obtain ⟨⟨event, records₂⟩, happend, h⟩ := Checks.bind_eq_ok.mp h
  cases h
  obtain ⟨value, -, -, -, hblocks, -⟩ := upsertIndicatorIdentity_eq_ok hupsert
  exact ⟨(appendRegistryEvent_blocked happend).trans hblocks, rfl⟩

/-- The key of the decision a request records, if it records one. -/
def decisionKey? (env : Environment) (db : ResponseDb) (request : ResponseCommandRequest) :
    Option String :=
  match resolveCommand env db request with
  | .error _ => none
  | .ok (action, sourceIp) =>
    let key := defaultIdempotencyKey env request action sourceIp
    if action = "block_ip" then
      match checkBlockTarget env (sourceIp.getD "") with
      | .ok () => some key
      | .error _ => none
    else if action = "monitor" then monitorKey env db.records (sourceIp.getD "") key
    else if action = "flag_high_priority" then some key
    else none

/-- What a command does to the blocks and to the trail. -/
theorem executeResponseCommand_changes
    (h : executeResponseCommand env db w request = .ok (res, db')) :
    BlocksChange db.records.blocked db'.records.blocked ∧
      TrailChange db.trail (decisionKey? env db request) db'.trail := by
  unfold executeResponseCommand at h
  unfold decisionKey?
  split at h
  · next hrefused =>
    cases h
    exact ⟨.same, .same⟩
  · next action address hresolve =>
    obtain ⟨-, hcommand, -⟩ := resolveCommand_eq_ok hresolve
    have hsame {key : Option String}
        (h : db'.records.blocked = db.records.blocked ∧ TrailChange db.trail key db'.trail) :
        BlocksChange db.records.blocked db'.records.blocked ∧
          TrailChange db.trail key db'.trail :=
      ⟨by rw [h.1]; exact .same, h.2⟩
    unfold dispatchCommand at h
    simp only [responseCommandActions, List.mem_cons, List.not_mem_nil, or_false] at hcommand
    rcases hcommand with rfl | rfl | rfl | rfl | rfl | rfl <;>
      simp only [String.reduceEq, if_true, if_false] at h ⊢
    · exact executeBlockIp_changes h
    · exact hsame (executeMonitor_changes h)
    · exact hsame (executeEscalate_changes h)
    · obtain ⟨hblocks, htrail⟩ := executeStopMonitor_changes h
      exact hsame ⟨hblocks, by rw [htrail]; exact .same⟩
    · obtain ⟨hblocks, htrail⟩ := executeRemoveTracking_changes h
      exact ⟨hblocks, by rw [htrail]; exact .same⟩
    · obtain ⟨hblocks, htrail⟩ := executeAddNote_changes h
      exact hsame ⟨hblocks, by rw [htrail]; exact .same⟩

end Commands

/-! ## One address -/

def publicAddress : String := "198.51.100.7"

/-- A library that knows this address only. -/
def oneAddress : IpLibrary where
  parse s := if s = publicAddress then some publicAddress else none
  parse_canonical := by
    intro s t h
    obtain ⟨-, ⟨⟩⟩ := Option.ite_none_right_eq_some.mp h
    rfl
  strip_canonical := by
    intro s t h
    obtain ⟨-, ⟨⟩⟩ := Option.ite_none_right_eq_some.mp h
    decide +kernel
  canonical_ne_empty := by
    intro s t h
    obtain ⟨-, ⟨⟩⟩ := Option.ite_none_right_eq_some.mp h
    decide
  isInternal _ := false

/-- A configuration without protected targets, with the address only. -/
def plainEnvironment : Environment where
  py := ⟨fun _ => "", fun _ => "", fun _ _ => .ok none⟩
  ip := oneAddress
  digest := id
  fromIsoformat text :=
    if text = "1970-01-01T01:00:00+00:00" then .ok 3600000000
    else .error ("Invalid isoformat string: '" ++ text ++ "'")
  protectedTargets := .ok fun _ => false

/-- A moment some minutes after the start, with a fresh uuid. -/
def plainMoment (minute : Nat) (shortUuid : String) : Moment where
  now := minute * 60000000
  clock := minute * 60000000
  shortUuid := shortUuid
  user _ := true
  execution _ := true
  queue _ := true
  approval _ := true

/-- Nothing is recorded. -/
def ResponseDb.empty : ResponseDb := ⟨.empty, .empty, .empty, .empty, .empty, []⟩

end SiemDashboard.ResponseCommands
