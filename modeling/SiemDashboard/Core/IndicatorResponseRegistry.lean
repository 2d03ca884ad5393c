import SiemDashboard.Lib.Python
import SiemDashboard.Lib.Checks
import SiemDashboard.Lib.Tables

/-!
# Indicator response registry

`core/indicator_response_registry.py` and the block records of `core/db.py`: the blocked addresses,
the disposition of every indicator, and the events that led to it.

* **Tables** — `BlockedIp`, `RegistryRecord`, `RegistryEvent`, and `Records`, in which a registry row
  points to a block that exists.
* **Addresses** — `IpLibrary`, `validateBlockedIp`.
* **Blocks** — `createBlockedIpRecord`, `deactivateBlock`.
* **Registry** — `upsertIndicatorIdentity`, `getIndicatorByValue`, `appendRegistryEvent`.
* **What a function does** — the lemmas on each function.
-/

namespace SiemDashboard.ResponseRegistry

open Python Tables

/-! ## Tables -/

/-- The dispositions of an indicator. -/
inductive Disposition where
  | observed
  | monitored
  | escalated
  | pending
  | blocklistTracked
  | rejected
  | failed
  | expired
  | removed
deriving DecidableEq, Repr

inductive BlockStatus where
  | active
  | inactive
deriving DecidableEq, Repr

/-- A row of `blocked_ips`. -/
structure BlockedIp where
  id : Nat
  ipAddress : String
  reason : Option String
  status : BlockStatus
  createdBy : Option Nat
  createdAt : Int
  expiresAt : Option Int
  sourceAlertId : Option Nat

/-- A row of `indicator_registry`. -/
structure RegistryRecord where
  id : Nat
  indicatorType : String
  indicatorValue : String
  currentDisposition : Disposition
  activeBlockedIpId : Option Nat
  activeIncidentId : Option Nat
  monitorExpiresAt : Option Int
  createdAt : Int
  updatedAt : Int

/-- A row of `indicator_response_events`. -/
structure RegistryEvent where
  id : Nat
  registryId : Nat
  eventType : String
  requestedAction : String
  outcome : String
  dispositionAfter : Disposition
  enforcement : String
  originSurface : String
  actorUserId : Option Nat
  reason : Option String
  alertId : Option Nat
  incidentId : Option Nat
  playbookExecutionId : Option Nat
  playbookStepIndex : Option Int
  queueId : Option Nat
  approvalRequestId : Option Nat
  blockedIpId : Option Nat
  decisionId : Option Nat
  soarCorrelationId : Option String
  responseActionLogId : Option Nat
  idempotencyKey : String
  provenance : String
  expiresAt : Option Int
  createdAt : Int

/-- The tables of the registry. -/
structure Records where
  blocked : Table BlockedIp BlockedIp.id
  registry : Table RegistryRecord RegistryRecord.id
  events : Table RegistryEvent RegistryEvent.id
  /-- `active_blocked_ip_id REFERENCES blocked_ips`; blocks are never deleted. -/
  tracked : ∀ id r b, registry.row? id = some r → r.activeBlockedIpId = some b → b < blocked.next

/-- Nothing is recorded. -/
def Records.empty : Records := ⟨.empty, .empty, .empty, nofun⟩

/-- Which rows exist in the tables that the rows of this service refer to. -/
structure References where
  user : Nat → Bool
  alert : Nat → Bool
  incident : Nat → Bool
  execution : Nat → Bool
  queue : Nat → Bool
  approval : Nat → Bool

/-- What the functions raise. -/
inductive CommandError where
  /-- `ValueError` -/
  | value (message : String)
  /-- A statement that the database rejects. -/
  | integrity
deriving DecidableEq, Repr

/-! ## Addresses -/

/-- The `ipaddress` module, as far as the service relies on it. -/
structure IpLibrary where
  /-- `str(ipaddress.ip_address(text))`, none where it raises. -/
  parse : String → Option String
  /-- The canonical text of an address is read as the same address. -/
  parse_canonical : ∀ {s t}, parse s = some t → parse t = some t
  strip_canonical : ∀ {s t}, parse s = some t → strip t = t
  canonical_ne_empty : ∀ {s t}, parse s = some t → t ≠ ""
  /-- Of a canonical text: loopback, private, link-local, multicast, reserved or unspecified. -/
  isInternal : String → Bool

/-- The text of the `ValueError` of `ipaddress.ip_address`. -/
def notAnAddress (py : Python) (text : String) : String :=
  s!"{py.repr (.str text)} does not appear to be an IPv4 or IPv6 address"

/-- The value an `inet` column holds for a text. -/
def IpLibrary.inet (ip : IpLibrary) (text : String) : String := (ip.parse text).getD text

/-- `validate_blocked_ip`. -/
def validateBlockedIp (ip : IpLibrary) (ipAddress : String) : Except String String :=
  if strip ipAddress = "" then .error "IP address is required"
  else
    match ip.parse (strip ipAddress) with
    | none => .error "Invalid IP address"
    | some parsed =>
      if ip.isInternal parsed then .error "Private, loopback, and internal IPs cannot be blocked"
      else .ok parsed

/-! ## Blocks -/

/-- The block is active, whether it has expired or not. -/
def BlockedIp.isActiveFor (ipAddress : String) (b : BlockedIp) : Bool :=
  b.ipAddress = ipAddress && b.status = .active

/-- `expires_at IS NULL OR expires_at > NOW()` -/
def BlockedIp.unexpired (now : Int) (b : BlockedIp) : Bool := b.expiresAt.all (now < ·)

/-- The row `create_blocked_ip_record` inserts. -/
def newBlock (ipAddress : String) (createdBy : Option Nat) (reason : Option String)
    (sourceAlertId : Option Nat) (expiresAt : Option Int) (now : Int) (id : Nat) : BlockedIp where
  id := id
  ipAddress := ipAddress
  reason := reason
  status := .active
  createdBy := createdBy
  createdAt := now
  expiresAt := expiresAt
  sourceAlertId := sourceAlertId

theorem newBlock_id (ipAddress : String) (createdBy : Option Nat) (reason : Option String)
    (sourceAlertId : Option Nat) (expiresAt : Option Int) (now : Int) (id : Nat) :
    (newBlock ipAddress createdBy reason sourceAlertId expiresAt now id).id = id := rfl

/-- `INSERT INTO blocked_ips`. -/
def Records.insertBlock (records : Records) (block : Nat → BlockedIp)
    (hblock : ∀ id, (block id).id = id) : Records :=
  { records with
    blocked := records.blocked.insert block hblock
    tracked := fun id r b hr hb => Nat.lt_succ_of_lt (records.tracked id r b hr hb) }

/-- `create_blocked_ip_record`. -/
def createBlockedIpRecord (ip : IpLibrary) (records : Records) (refs : References)
    (ipAddress : String) (createdBy : Option Nat) (reason : Option String)
    (sourceAlertId : Option Nat) (expiresAt : Option Int) (now : Int) :
    Except CommandError (Nat × Records) := do
  let normalizedIp ← (validateBlockedIp ip ipAddress).mapError .value
  if !sourceAlertId.all refs.alert then .error (.value "Source alert not found")
  else if records.blocked.rows.any (·.isActiveFor normalizedIp) then
    .error (.value "An active block already exists for this IP")
  else
    .ok (records.blocked.next,
      records.insertBlock (newBlock normalizedIp createdBy reason sourceAlertId expiresAt now)
        (newBlock_id normalizedIp createdBy reason sourceAlertId expiresAt now))

/-- `UPDATE blocked_ips SET status = 'inactive' WHERE id = … AND status = 'active'`. -/
def Records.deactivateBlock (records : Records) (blockId : Nat) : Records :=
  { records with
    blocked := records.blocked.update blockId (fun b => b.status = .active)
      (fun b => { b with status := .inactive }) fun _ => rfl }

/-! ## Registry -/

/-- `INDICATOR_TYPE_IP`. -/
def indicatorTypeIp : String := "ip"

/-- `normalize_indicator_value`. -/
def normalizeIndicatorValue (py : Python) (ip : IpLibrary) (indicatorType value : String) :
    Except String String :=
  let raw := strip value
  if raw = "" then .error "Indicator value is required"
  else if indicatorType = indicatorTypeIp then
    match ip.parse raw with
    | none => .error (notAnAddress py raw)
    | some parsed => .ok parsed
  else .ok (lower raw)

def Records.recordOf? (records : Records) (indicatorType indicatorValue : String) :
    Option RegistryRecord :=
  records.registry.rows.find? fun r =>
    r.indicatorType = indicatorType && r.indicatorValue = indicatorValue

/-- The row a new indicator starts with. -/
def newRecord (indicatorType indicatorValue : String) (now : Int) (id : Nat) : RegistryRecord where
  id := id
  indicatorType := indicatorType
  indicatorValue := indicatorValue
  currentDisposition := .observed
  activeBlockedIpId := none
  activeIncidentId := none
  monitorExpiresAt := none
  createdAt := now
  updatedAt := now

theorem newRecord_id (indicatorType indicatorValue : String) (now : Int) (id : Nat) :
    (newRecord indicatorType indicatorValue now id).id = id := rfl

/-- `INSERT INTO indicator_registry`. -/
def Records.insertRecord (records : Records) (indicatorType indicatorValue : String) (now : Int) :
    Records :=
  { records with
    registry := records.registry.insert (newRecord indicatorType indicatorValue now)
      (newRecord_id indicatorType indicatorValue now)
    tracked := fun id r b hr hb => by
      rw [Table.insert_row?] at hr
      split at hr
      · cases hr
        cases hb
      · exact records.tracked id r b hr hb }

/-- An update of a record that keeps its indicator, and points to a block only where it did before or
    the block exists. -/
structure RecordUpdate (records : Records) where
  apply : RegistryRecord → RegistryRecord
  id_eq : ∀ r, (apply r).id = r.id
  type_eq : ∀ r, (apply r).indicatorType = r.indicatorType
  value_eq : ∀ r, (apply r).indicatorValue = r.indicatorValue
  tracked : ∀ r b, (apply r).activeBlockedIpId = some b →
    r.activeBlockedIpId = some b ∨ b < records.blocked.next

/-- `UPDATE indicator_registry SET … WHERE id = …`. -/
def Records.updateRecord (records : Records) (id : Nat) (change : RecordUpdate records) : Records :=
  { records with
    registry := records.registry.update id (fun _ => true) change.apply change.id_eq
    tracked := fun j r b hr hb => by
      rcases Table.update_cases hr with hold | ⟨r₀, rfl, hr₀, -, rfl⟩
      · exact records.tracked j r b hold hb
      · rcases change.tracked r₀ b hb with hb' | hlt
        · exact records.tracked j r₀ b hr₀ hb'
        · exact hlt }

/-- `SET updated_at = NOW()`. -/
def Records.touch (records : Records) (now : Int) : RecordUpdate records where
  apply r := { r with updatedAt := now }
  id_eq _ := rfl
  type_eq _ := rfl
  value_eq _ := rfl
  tracked _ _ := .inl

/-- `upsert_indicator_identity`. -/
def upsertIndicatorIdentity (py : Python) (ip : IpLibrary) (records : Records)
    (indicatorType indicatorValue : String) (now : Int) :
    Except CommandError (RegistryRecord × Records) := do
  let normalized ← (normalizeIndicatorValue py ip indicatorType indicatorValue).mapError .value
  match records.recordOf? indicatorType normalized with
  | some r => .ok ({ r with updatedAt := now }, records.updateRecord r.id (records.touch now))
  | none =>
    .ok (newRecord indicatorType normalized now records.registry.next,
      records.insertRecord indicatorType normalized now)

/-- `get_indicator_by_value`. -/
def getIndicatorByValue (py : Python) (ip : IpLibrary) (records : Records)
    (indicatorType indicatorValue : String) : Except CommandError (Option RegistryRecord) := do
  let normalized ← (normalizeIndicatorValue py ip indicatorType indicatorValue).mapError .value
  return records.recordOf? indicatorType normalized

/-- `derive_disposition_from_event`. -/
def deriveDispositionFromEvent (requestedAction outcome : String) (previous : Disposition) :
    Disposition :=
  if ["rejected", "policy_blocked"].contains outcome then .rejected
  else if ["failed", "error"].contains outcome then .failed
  else if ["awaiting_approval", "pending"].contains outcome then .pending
  else if outcome = "expired" then .expired
  else if ["removed", "unblocked"].contains outcome then .removed
  else if requestedAction = "block_ip" &&
      ["succeeded", "tracking_recorded", "idempotent_reuse"].contains outcome then
    .blocklistTracked
  else if requestedAction = "monitor" && ["succeeded", "renewed"].contains outcome then .monitored
  else if ["flag_high_priority", "escalate"].contains requestedAction &&
      ["succeeded", "escalated"].contains outcome then
    .escalated
  else previous

/-- The arguments of `append_registry_event`. -/
structure NewRegistryEvent where
  registryId : Nat
  eventType : String
  requestedAction : String
  outcome : String
  originSurface : String
  dispositionAfter : Option Disposition := none
  enforcement : String := "none"
  actorUserId : Option Nat := none
  reason : Option String := none
  alertId : Option Nat := none
  incidentId : Option Nat := none
  playbookExecutionId : Option Nat := none
  playbookStepIndex : Option Int := none
  queueId : Option Nat := none
  approvalRequestId : Option Nat := none
  blockedIpId : Option Nat := none
  decisionId : Option Nat := none
  soarCorrelationId : Option String := none
  responseActionLogId : Option Nat := none
  idempotencyKey : String := ""
  provenance : String := "recorded"
  expiresAt : Option Int := none
  updateRegistry : Bool := true

/-- The event with the idempotency key. -/
def Records.eventByKey? (records : Records) (key : String) : Option RegistryEvent :=
  records.events.rows.find? fun e => e.idempotencyKey = key

/-- The event that the key of a new event belongs to already. -/
def Records.knownEvent? (records : Records) (key : String) : Option RegistryEvent :=
  if key = "" then none else records.eventByKey? key

/-- The row `append_registry_event` inserts. -/
def eventRow (new : NewRegistryEvent) (disposition : Disposition) (now : Int) (id : Nat) :
    RegistryEvent where
  id := id
  registryId := new.registryId
  eventType := new.eventType
  requestedAction := new.requestedAction
  outcome := new.outcome
  dispositionAfter := disposition
  enforcement := new.enforcement
  originSurface := new.originSurface
  actorUserId := new.actorUserId
  reason := new.reason
  alertId := new.alertId
  incidentId := new.incidentId
  playbookExecutionId := new.playbookExecutionId
  playbookStepIndex := new.playbookStepIndex
  queueId := new.queueId
  approvalRequestId := new.approvalRequestId
  blockedIpId := new.blockedIpId
  decisionId := new.decisionId
  soarCorrelationId := new.soarCorrelationId
  responseActionLogId := new.responseActionLogId
  idempotencyKey := new.idempotencyKey
  provenance := new.provenance
  expiresAt := new.expiresAt
  createdAt := now

theorem eventRow_id (new : NewRegistryEvent) (disposition : Disposition) (now : Int) (id : Nat) :
    (eventRow new disposition now id).id = id := rfl

/-- The references, lengths and checks of `indicator_response_events`.  The decision and the log row
    of an event were inserted just before it. -/
def NewRegistryEvent.storable (new : NewRegistryEvent) (records : Records) (refs : References) :
    Bool :=
  new.originSurface.length ≤ 64 && new.idempotencyKey.length ≤ 128 &&
    new.actorUserId.all refs.user && new.alertId.all refs.alert &&
    new.incidentId.all refs.incident && new.playbookExecutionId.all refs.execution &&
    new.queueId.all refs.queue && new.approvalRequestId.all refs.approval &&
    new.blockedIpId.all (fun b => (records.blocked.row? b).isSome) &&
    new.playbookStepIndex.all (0 ≤ ·)

/-- `INSERT INTO indicator_response_events`. -/
def Records.insertEvent (records : Records) (event : Nat → RegistryEvent)
    (hevent : ∀ id, (event id).id = id) : Records :=
  { records with events := records.events.insert event hevent }

/-- What an event writes into the record. -/
def shown (new : NewRegistryEvent) (disposition : Disposition) (now : Int) (r : RegistryRecord) :
    RegistryRecord :=
  { r with
    currentDisposition := disposition
    activeBlockedIpId := new.blockedIpId.or r.activeBlockedIpId
    activeIncidentId := new.incidentId.or r.activeIncidentId
    monitorExpiresAt := new.expiresAt.or r.monitorExpiresAt
    updatedAt := now }

theorem blockedIpId_lt {new : NewRegistryEvent} {records : Records} {refs : References}
    (h : new.storable records refs = true) {b : Nat} (hb : new.blockedIpId = some b) :
    b < records.blocked.next := by
  simp only [NewRegistryEvent.storable, Bool.and_eq_true, hb, Option.all_some] at h
  obtain ⟨row, hrow⟩ := Option.isSome_iff_exists.mp h.1.2
  exact records.blocked.lt_next hrow

def showEvent (new : NewRegistryEvent) {records : Records} {refs : References}
    (h : new.storable records refs = true) (disposition : Disposition) (now : Int) :
    RecordUpdate records where
  apply := shown new disposition now
  id_eq _ := rfl
  type_eq _ := rfl
  value_eq _ := rfl
  tracked r b hb := by
    rcases hnew : new.blockedIpId with _ | b'
    · exact .inl (by simpa [shown, hnew] using hb)
    · obtain rfl : b' = b := by simpa [shown, hnew] using hb
      exact .inr (blockedIpId_lt h hnew)

/-- `append_registry_event`: an event whose key is known is not appended again, and leaves the record
    as it is. -/
def appendRegistryEvent (records : Records) (refs : References) (new : NewRegistryEvent)
    (now : Int) : Except CommandError (RegistryEvent × Records) :=
  match records.knownEvent? new.idempotencyKey with
  | some existing => .ok (existing, records)
  | none =>
    match records.registry.row? new.registryId with
    | none => .error (.value s!"Registry record {new.registryId} not found")
    | some record =>
      let disposition := new.dispositionAfter.getD
        (deriveDispositionFromEvent new.requestedAction new.outcome record.currentDisposition)
      if h : new.storable records refs = true then
        let updated :=
          if new.updateRegistry then
            records.updateRecord new.registryId (showEvent new h disposition now)
          else records
        .ok (eventRow new disposition now records.events.next,
          updated.insertEvent (eventRow new disposition now) (eventRow_id new disposition now))
      else .error .integrity

/-! ## What a function does -/

/-- What is validated is canonical, so validating it again changes nothing. -/
theorem validateBlockedIp_canonical {ip : IpLibrary} {ipAddress normalized : String}
    (h : validateBlockedIp ip ipAddress = .ok normalized) :
    ip.parse (strip ipAddress) = some normalized ∧ validateBlockedIp ip normalized = .ok normalized := by
  unfold validateBlockedIp at h
  split at h
  · cases h
  · split at h
    · cases h
    · next hparse =>
      split at h
      · cases h
      · next hpublic =>
        cases h
        refine ⟨hparse, ?_⟩
        have hstrip : strip normalized = normalized := ip.strip_canonical hparse
        unfold validateBlockedIp
        rw [hstrip, if_neg (ip.canonical_ne_empty hparse), ip.parse_canonical hparse]
        exact if_neg hpublic

/-- The value of an address is its canonical text. -/
theorem normalizeIndicatorValue_ip {py : Python} {ip : IpLibrary} {value normalized : String}
    (h : normalizeIndicatorValue py ip indicatorTypeIp value = .ok normalized) :
    strip value ≠ "" ∧ ip.parse (strip value) = some normalized := by
  unfold normalizeIndicatorValue at h
  dsimp only at h
  split at h
  · cases h
  · next hne =>
    rw [if_pos rfl] at h
    split at h
    · cases h
    · next hparse =>
      cases h
      exact ⟨hne, hparse⟩

/-- What is validated has that value as an indicator. -/
theorem validateBlockedIp_normalizes (py : Python) {ip : IpLibrary} {ipAddress normalized : String}
    (h : validateBlockedIp ip ipAddress = .ok normalized) :
    normalizeIndicatorValue py ip indicatorTypeIp ipAddress = .ok normalized := by
  have hparse := (validateBlockedIp_canonical h).1
  have hne : strip ipAddress ≠ "" := by
    intro hblank
    rw [validateBlockedIp, if_pos hblank] at h
    cases h
  simp [normalizeIndicatorValue, hne, hparse]

/-- A block is recorded only where none is active. -/
theorem createBlockedIpRecord_eq_ok {ip : IpLibrary} {records records' : Records}
    {refs : References} {ipAddress : String} {createdBy : Option Nat} {reason : Option String}
    {sourceAlertId : Option Nat} {expiresAt : Option Int} {now : Int} {blockId : Nat}
    (h : createBlockedIpRecord ip records refs ipAddress createdBy reason sourceAlertId expiresAt
      now = .ok (blockId, records')) :
    ∃ normalized, validateBlockedIp ip ipAddress = .ok normalized ∧
      records.blocked.rows.any (·.isActiveFor normalized) = false ∧
      blockId = records.blocked.next ∧
      records' = records.insertBlock
        (newBlock normalized createdBy reason sourceAlertId expiresAt now)
        (newBlock_id normalized createdBy reason sourceAlertId expiresAt now) := by
  obtain ⟨normalized, hvalid, h⟩ := Checks.bind_eq_ok.mp h
  refine ⟨normalized, Checks.mapError_eq_ok.mp hvalid, ?_⟩
  split at h
  · cases h
  · split at h
    · cases h
    · next hactive =>
      cases h
      exact ⟨by simpa using hactive, rfl, rfl⟩

section Records

variable {records : Records}

theorem insertBlock_blocked (block : Nat → BlockedIp) (hblock : ∀ id, (block id).id = id) :
    (records.insertBlock block hblock).blocked = records.blocked.insert block hblock := rfl

theorem deactivateBlock_blocked (blockId : Nat) :
    (records.deactivateBlock blockId).blocked =
      records.blocked.update blockId (fun b => b.status = .active)
        (fun b => { b with status := .inactive }) fun _ => rfl := rfl

@[simp] theorem insertEvent_recordOf? (event : Nat → RegistryEvent)
    (hevent : ∀ id, (event id).id = id) (indicatorType indicatorValue : String) :
    (records.insertEvent event hevent).recordOf? indicatorType indicatorValue =
      records.recordOf? indicatorType indicatorValue := rfl

@[simp] theorem deactivateBlock_recordOf? (blockId : Nat) (indicatorType indicatorValue : String) :
    (records.deactivateBlock blockId).recordOf? indicatorType indicatorValue =
      records.recordOf? indicatorType indicatorValue := rfl

theorem updateRecord_recordOf? (id : Nat) (change : RecordUpdate records)
    (indicatorType indicatorValue : String) :
    (records.updateRecord id change).recordOf? indicatorType indicatorValue =
      (records.recordOf? indicatorType indicatorValue).map fun r =>
        if r.id = id then change.apply r else r := by
  unfold Records.recordOf? Records.updateRecord
  rw [Table.update_rows, List.find?_map]
  simp only [and_true]
  congr 1
  refine congrArg (List.find? · _) (funext fun r => ?_)
  by_cases hid : r.id = id <;> simp [hid, change.type_eq, change.value_eq]

theorem insertRecord_recordOf? {indicatorType indicatorValue : String}
    (h : records.recordOf? indicatorType indicatorValue = none) (now : Int) :
    (records.insertRecord indicatorType indicatorValue now).recordOf? indicatorType indicatorValue =
      some (newRecord indicatorType indicatorValue now records.registry.next) := by
  unfold Records.recordOf? at h ⊢
  unfold Records.insertRecord
  rw [Table.insert_rows, List.find?_append, h]
  simp [newRecord]

theorem recordOf?_stored {indicatorType indicatorValue : String} {r : RegistryRecord}
    (h : records.recordOf? indicatorType indicatorValue = some r) :
    records.registry.row? r.id = some r :=
  Table.mem_rows.mp (List.mem_of_find?_eq_some h)

end Records

/-- What the record of an indicator shows, once it is made where there was none. -/
def disposedAs (record : Option RegistryRecord) : Disposition × Option Nat :=
  match record with
  | none => (.observed, none)
  | some r => (r.currentDisposition, r.activeBlockedIpId)

/-- `upsert_indicator_identity` finds or makes the record of the indicator and changes nothing that
    it shows. -/
theorem upsertIndicatorIdentity_eq_ok {py : Python} {ip : IpLibrary} {records records' : Records}
    {indicatorType indicatorValue : String} {now : Int} {r : RegistryRecord}
    (h : upsertIndicatorIdentity py ip records indicatorType indicatorValue now =
      .ok (r, records')) :
    ∃ normalized, normalizeIndicatorValue py ip indicatorType indicatorValue = .ok normalized ∧
      records'.recordOf? indicatorType normalized = some r ∧
      disposedAs (some r) = disposedAs (records.recordOf? indicatorType normalized) ∧
      records'.blocked = records.blocked ∧ records'.events = records.events := by
  unfold upsertIndicatorIdentity at h
  cases hnormalized : normalizeIndicatorValue py ip indicatorType indicatorValue with
  | error message =>
    rw [hnormalized] at h
    cases h
  | ok normalized =>
    rw [hnormalized] at h
    refine ⟨normalized, rfl, ?_⟩
    change (match records.recordOf? indicatorType normalized with
      | some r => _
      | none => _) = _ at h
    split at h
    · next r₀ hr₀ =>
      cases h
      refine ⟨?_, by rw [hr₀]; rfl, rfl, rfl⟩
      rw [updateRecord_recordOf?, hr₀]
      simp [Records.touch]
    · next hnone =>
      cases h
      exact ⟨insertRecord_recordOf? hnone now, by rw [hnone]; rfl, rfl, rfl⟩

/-- The record of an indicator is found or made wherever its value can be read. -/
theorem upsertIndicatorIdentity_isOk {py : Python} {ip : IpLibrary} {records : Records}
    {indicatorType indicatorValue normalized : String} {now : Int}
    (h : normalizeIndicatorValue py ip indicatorType indicatorValue = .ok normalized) :
    (upsertIndicatorIdentity py ip records indicatorType indicatorValue now).isOk = true := by
  refine Checks.isOk_bind.mpr ⟨normalized, Checks.mapError_eq_ok.mpr h, ?_⟩
  cases records.recordOf? indicatorType normalized <;> rfl

theorem getIndicatorByValue_eq_ok {py : Python} {ip : IpLibrary} {records : Records}
    {indicatorType indicatorValue : String} {record : Option RegistryRecord} :
    getIndicatorByValue py ip records indicatorType indicatorValue = .ok record ↔
      ∃ normalized, normalizeIndicatorValue py ip indicatorType indicatorValue = .ok normalized ∧
        records.recordOf? indicatorType normalized = record := by
  unfold getIndicatorByValue
  rw [Checks.bind_eq_ok]
  simp [pure, Except.pure]

/-- What appending an event comes to: the event there is, or a new one that the record shows. -/
theorem appendRegistryEvent_eq_ok {records records' : Records} {refs : References}
    {new : NewRegistryEvent} {now : Int} {event : RegistryEvent}
    (h : appendRegistryEvent records refs new now = .ok (event, records')) :
    (records.knownEvent? new.idempotencyKey = some event ∧ records' = records) ∨
      (records.knownEvent? new.idempotencyKey = none ∧ records'.blocked = records.blocked ∧
        ∀ d, new.dispositionAfter = some d → ∀ indicatorType indicatorValue,
          records'.recordOf? indicatorType indicatorValue =
            (records.recordOf? indicatorType indicatorValue).map fun r =>
              if new.updateRegistry ∧ r.id = new.registryId then shown new d now r else r) := by
  unfold appendRegistryEvent at h
  split at h
  · next existing hknown =>
    cases h
    exact .inl ⟨hknown, rfl⟩
  · next hknown =>
    split at h
    · cases h
    · dsimp only at h
      split at h
      · next hstorable =>
        cases h
        refine .inr ⟨hknown, ?_, fun d hd indicatorType indicatorValue => ?_⟩
        · cases new.updateRegistry <;> rfl
        · rw [insertEvent_recordOf?]
          cases hupdate : new.updateRegistry with
          | false => simp
          | true =>
            rw [if_pos rfl, updateRecord_recordOf?]
            simp [showEvent, hd]
      · cases h

/-- When an event is appended, for a record that exists. -/
theorem appendRegistryEvent_isOk {records : Records} {refs : References} {new : NewRegistryEvent}
    {now : Int} {r : RegistryRecord} (hr : records.registry.row? new.registryId = some r) :
    (appendRegistryEvent records refs new now).isOk = true ↔
      (records.knownEvent? new.idempotencyKey).isSome = true ∨ new.storable records refs = true := by
  unfold appendRegistryEvent
  split
  · next existing hknown =>
    rw [hknown]
    exact iff_of_true rfl (.inl rfl)
  · next hnew =>
    rw [hr, hnew]
    dsimp only
    split
    · next hstorable => exact iff_of_true rfl (.inr hstorable)
    · next hrejected => exact iff_of_false nofun fun h => h.elim nofun hrejected

/-- The record an event is about: a new event shows in it, a known one leaves it. -/
theorem appendRegistryEvent_shown {records records' : Records} {refs : References}
    {new : NewRegistryEvent} {now : Int} {event : RegistryEvent}
    (h : appendRegistryEvent records refs new now = .ok (event, records')) {d : Disposition}
    (hd : new.dispositionAfter = some d) (hupdate : new.updateRegistry = true)
    {indicatorType indicatorValue : String} {r : RegistryRecord}
    (hr : records.recordOf? indicatorType indicatorValue = some r) (hid : new.registryId = r.id) :
    ∃ r', records'.recordOf? indicatorType indicatorValue = some r' ∧ r'.id = r.id ∧
      records'.blocked = records.blocked ∧
      disposedAs (some r') =
        if records.knownEvent? new.idempotencyKey = none then
          (d, new.blockedIpId.or r.activeBlockedIpId)
        else disposedAs (some r) := by
  rcases appendRegistryEvent_eq_ok h with ⟨hknown, rfl⟩ | ⟨hnone, hblocked, hshown⟩
  · exact ⟨r, hr, rfl, rfl, by simp [hknown]⟩
  · refine ⟨shown new d now r, ?_, rfl, hblocked, by simp [hnone, disposedAs, shown]⟩
    rw [hshown d hd, hr]
    simp [hupdate, hid]

end SiemDashboard.ResponseRegistry
