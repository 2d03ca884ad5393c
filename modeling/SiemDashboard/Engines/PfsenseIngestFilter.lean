import Mathlib.Data.List.Sort
import Mathlib.Logic.Function.Basic
import SiemDashboard.Adapters.PfsenseEvents

/-!
# The filter of ingested firewall events

`engines/pfsense_ingest_filter.py`: which accepted events are kept, by the policy in the database, and
`routes/admin_routes.py`, where the policy is changed.

* **Entries** — `Category`, `validateSensitivePorts`, `validateConfigEntry`.
* **Policies** — `EffectivePolicy`, `defaultEffectivePolicy`, `loadEffectivePolicy`.
* **Decisions** — `FilterDecision`, `evaluateEvent`.
* **Overrides** — `PolicyTable`, `upsertConfigOverride`, `updatePfsenseIngestFilter`.
-/

namespace SiemDashboard.PfsenseFilterlog

open Python

/-! ## Entries -/

/-- The categories of `DEFAULT_PFSENSE_INGEST_CONFIG`. -/
inductive Category where
  | blockEvents
  | inboundSensitivePortAllows
  | allAllowEvents
  | dnsTraffic
  | icmpTraffic
deriving DecidableEq, Repr

def Category.name : Category → String
  | .blockEvents => "block_events"
  | .inboundSensitivePortAllows => "inbound_sensitive_port_allows"
  | .allAllowEvents => "all_allow_events"
  | .dnsTraffic => "dns_traffic"
  | .icmpTraffic => "icmp_traffic"

/-- The categories, in the order of their names. -/
def categories : List Category :=
  [.allAllowEvents, .blockEvents, .dnsTraffic, .icmpTraffic, .inboundSensitivePortAllows]

def Category.ofName? (name : String) : Option Category := categories.find? fun category => category.name = name

/-- `MAX_SENSITIVE_PORTS`. -/
def maxSensitivePorts : Nat := 64

/-- `DEFAULT_SENSITIVE_PORTS`. -/
def defaultSensitivePorts : List Int :=
  [21, 22, 23, 25, 135, 445, 1433, 3306, 3389, 5432, 5900, 6379, 27017]

/-- One of the ports of a list. -/
def sensitivePort : Json → Except String Int
  | .int n => if n < 1 ∨ 65535 < n then .error "sensitive_ports must be between 1 and 65535" else .ok n
  | _ => .error "sensitive_ports must contain integers"

/-- `validate_sensitive_ports`. -/
def validateSensitivePorts (value : Json) : Except String (List Int) :=
  match value with
  | .arr items =>
    if items.isEmpty ∨ maxSensitivePorts < items.length then
      .error "sensitive_ports must be a non-empty bounded list"
    else do
      let ports ← items.mapM sensitivePort
      if ports.Nodup then return ports.insertionSort (· ≤ ·)
      else .error "sensitive_ports must not contain duplicates"
  | _ => .error "sensitive_ports must be a non-empty bounded list"

/-- The entry of a category; only one category has ports. -/
structure ConfigEntry where
  enabled : Bool
  sensitivePorts : List Int
deriving DecidableEq, Repr

/-- The parameters of an entry, as a dict. -/
def ConfigEntry.parameters (category : Category) (entry : ConfigEntry) : Json :=
  if category = .inboundSensitivePortAllows then
    .obj [("sensitive_ports", .arr (entry.sensitivePorts.map .int))]
  else .obj []

section

variable (loads : String → Option Json)

/-- The parameters that are given: a text is read as JSON. -/
def entryParameters (parameters : Json) : Except String Json :=
  match parameters with
  | .str text =>
    match loads text with
    | some value => if value.isObj then .ok value else .error "parameters must be an object"
    | none => .error "parameters must be valid JSON"
  | value => if value.isObj then .ok value else .error "parameters must be an object"

/-- `validate_config_entry`, of a known category. -/
def validateConfigEntry (category : Category) (enabled parameters : Json) : Except String ConfigEntry :=
  match enabled with
  | .bool enabled => do
    let value ← entryParameters loads parameters
    let names := value.fields.map Prod.fst
    if category = .inboundSensitivePortAllows then
      if names.any (· ≠ "sensitive_ports") then .error "Unknown pfSense ingest filter parameter"
      else
        (validateSensitivePorts
          (value.getD "sensitive_ports" (.arr (defaultSensitivePorts.map .int)))).map fun ports => ⟨enabled, ports⟩
    else if !names.isEmpty then .error "Unknown pfSense ingest filter parameter"
    else return ⟨enabled, []⟩
  | _ => .error "enabled must be a boolean"

end

/-! ## Policies -/

/-- What the filter uses of an effective policy. -/
structure EffectivePolicy where
  status : String
  entries : Category → ConfigEntry

/-- The entries of `DEFAULT_PFSENSE_INGEST_CONFIG`. -/
def defaultEntry : Category → ConfigEntry
  | .blockEvents => ⟨true, []⟩
  | .inboundSensitivePortAllows => ⟨true, defaultSensitivePorts⟩
  | .allAllowEvents | .dnsTraffic | .icmpTraffic => ⟨false, []⟩

/-- `default_effective_policy`. -/
def defaultEffectivePolicy (status : String) : EffectivePolicy := ⟨status, defaultEntry⟩

/-- A row of `pfsense_ingest_config`. -/
structure ConfigRow where
  category : String
  enabled : Json
  parameters : Json

section

variable (loads : String → Option Json)

/-- The rows, one after the other, with the names that were seen before. -/
def applyRows : List String → (Category → ConfigEntry) → List ConfigRow →
    Except String (Category → ConfigEntry)
  | _, entries, [] => .ok entries
  | seen, entries, row :: rows =>
    if row.category ∈ seen then .error "duplicate pfSense ingest filter category"
    else
      match Category.ofName? row.category with
      | none => .error "Unknown pfSense ingest filter category"
      | some category => do
        let entry ← validateConfigEntry loads category row.enabled row.parameters
        applyRows (row.category :: seen) (Function.update entries category entry) rows

/-- `load_effective_policy`, of the rows that are read, none where reading fails: any fault leads to the
    defaults. -/
def loadEffectivePolicy (rows : Option (List ConfigRow)) : EffectivePolicy :=
  match rows with
  | none => defaultEffectivePolicy "unavailable"
  | some rows =>
    match applyRows loads [] defaultEntry rows with
    | .ok entries => ⟨"applied", entries⟩
    | .error _ => defaultEffectivePolicy "invalid"

end

/-! ## Decisions -/

/-- `FilterDecision`. -/
structure FilterDecision where
  retain : Bool
  category : String
  reason : String
deriving DecidableEq, Repr

section

variable (lib : EventLibrary)

/-- `str(raw.get(key) or "").lower()`. -/
def rawReading (raw : Json) (key : String) : String := lower (textOf lib ((raw.get key).orElse (.str "")))

/-- `v == n` for an integer `n`. -/
def equalsInt (v : Json) (n : Int) : Bool :=
  match v with
  | .int m => m = n
  | .bool b => (if b then 1 else 0) = n
  | .float text => lib.floatInt text = some n
  | .null | .str _ | .arr _ | .obj _ => false

/-- `evaluate_event`. -/
def evaluateEvent (event : NormalizedEvent) (policy : EffectivePolicy) : FilterDecision :=
  let raw := event.rawPayload
  let action := rawReading lib raw "action"
  let protocol := rawReading lib raw "protocol"
  let direction := rawReading lib raw "direction"
  let destinationPort := raw.get "destination_port"
  if action = "block" ∧ (policy.entries .blockEvents).enabled then ⟨true, "block_events", "blocked_traffic"⟩
  else if action = "pass" ∧ (policy.entries .allAllowEvents).enabled then
    ⟨true, "all_allow_events", "all_allowed_traffic"⟩
  else if action = "pass" ∧ protocol = "icmp" ∧ (policy.entries .icmpTraffic).enabled then
    ⟨true, "icmp_traffic", "allowed_icmp"⟩
  else if action = "pass" ∧ protocol ∈ portProtocols ∧ direction = "in" ∧
      (∃ port ∈ (policy.entries .inboundSensitivePortAllows).sensitivePorts,
        equalsInt lib destinationPort port = true) ∧
      (policy.entries .inboundSensitivePortAllows).enabled then
    ⟨true, "inbound_sensitive_port_allows", "inbound_sensitive_port"⟩
  else if action = "pass" ∧ protocol ∈ portProtocols ∧ equalsInt lib destinationPort 53 ∧
      (policy.entries .dnsTraffic).enabled then
    ⟨true, "dns_traffic", "allowed_port_53"⟩
  else ⟨false, "routine_allow", "no_enabled_retention_category"⟩

end

/-! ## Overrides -/

/-- What a row holds beside its category. -/
structure StoredEntry where
  enabled : Bool
  parameters : Json

/-- The table `pfsense_ingest_config`, whose key is the category. -/
abbrev PolicyTable := Category → Option StoredEntry

/-- The rows, ordered by category. -/
def PolicyTable.rows (table : PolicyTable) : List ConfigRow :=
  categories.filterMap fun category =>
    (table category).map fun entry => ⟨category.name, .bool entry.enabled, entry.parameters⟩

/-- What a request to change an entry is answered with. -/
inductive PatchResponse where
  | notFound
  | badRequest (text : String)
  | updated (category : Category) (entry : ConfigEntry)
deriving DecidableEq, Repr

section

variable (loads : String → Option Json)

/-- `upsert_config_override`. -/
def upsertConfigOverride (table : PolicyTable) (category : Category) (enabled parameters : Json) :
    Except String PolicyTable :=
  (validateConfigEntry loads category enabled parameters).map fun entry =>
    Function.update table category (some ⟨entry.enabled, entry.parameters category⟩)

/-- `update_pfsense_ingest_filter`. -/
def updatePfsenseIngestFilter (table : PolicyTable) (name : String) (payload : Json) :
    PatchResponse × PolicyTable :=
  match Category.ofName? name with
  | none => (.notFound, table)
  | some category =>
    if !payload.isObj then (.badRequest "Invalid JSON", table)
    else if (payload.fields.map Prod.fst).any fun key => key ∉ ["enabled", "parameters"] then
      (.badRequest "Unknown pfSense ingest filter field", table)
    else if !payload.has "enabled" then (.badRequest "Missing required field: enabled", table)
    else
      let oldEntry := (loadEffectivePolicy loads (some table.rows)).entries category
      let parameters := payload.getD "parameters" (oldEntry.parameters category)
      match upsertConfigOverride loads table category (payload.get "enabled") parameters with
      | .error text => (.badRequest text, table)
      | .ok table' => (.updated category ((loadEffectivePolicy loads (some table'.rows)).entries category), table')

end

end SiemDashboard.PfsenseFilterlog
