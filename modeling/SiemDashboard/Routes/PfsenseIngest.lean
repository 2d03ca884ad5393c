import SiemDashboard.Engines.PfsenseDatagrams
import SiemDashboard.Engines.PfsenseIngestFilter

/-!
# The ingest route of the firewall

`routes/ingest_routes.py`: what `/ingest/pfsense` answers, by the policy that is stored, and how the listener sees
it.

* **Answers** — `IngestConditions`, `IngestAnswer`, `addPfsenseEvent`.
* **The link** — `IngestAnswer.sent`, `Loss`, `Link`, `Link.send`: how a request of the listener ends.
-/

namespace SiemDashboard.PfsenseFilterlog

open Python

/-! ## Answers -/

/-- What else an answer depends on. -/
structure IngestConditions where
  /-- `require_api_key` finds the key. -/
  authorized : Bool
  /-- The payload is longer than `MAX_PFSENSE_INGEST_BYTES`. -/
  tooLarge : Bool
  /-- A connection to the database is had. -/
  connects : Bool
  /-- The rows of the policy can be read. -/
  readable : Bool
  /-- The event is ingested without a fault. -/
  ingests : Bool
deriving DecidableEq, Repr

/-- What the route answers. -/
inductive IngestAnswer where
  | unauthorized
  | payloadTooLarge
  | badRequest (text : String)
  | filtered (decision : FilterDecision)
  | ingested
  | serverError
deriving DecidableEq, Repr

def IngestAnswer.status : IngestAnswer → Int
  | .unauthorized => 401
  | .payloadTooLarge => 413
  | .badRequest _ => 400
  | .filtered _ => 202
  | .ingested => 201
  | .serverError => 500

section

variable (lib : EventLibrary) (loads : String → Option Json)

/-- `add_pfsense_event`, of the data of a request. -/
def addPfsenseEvent (conditions : IngestConditions) (table : PolicyTable) (data : Json) : IngestAnswer :=
  if !conditions.authorized then .unauthorized
  else if conditions.tooLarge then .payloadTooLarge
  else if !data.isObj then .badRequest "Invalid JSON"
  else
    match validatePfsenseNormalizedEvent lib data with
    | .error text => .badRequest text
    | .ok event =>
      if !conditions.connects then .serverError
      else
        let policy := loadEffectivePolicy loads (if conditions.readable then some table.rows else none)
        let decision := evaluateEvent lib event policy
        if !decision.retain then .filtered decision
        else if conditions.ingests then .ingested
        else .serverError

end

/-! ## The link -/

/-- How `urlopen` ends where the answer arrives. -/
def IngestAnswer.sent (answer : IngestAnswer) : UrlopenResult :=
  if 200 ≤ answer.status ∧ answer.status < 300 then .response answer.status else .httpError answer.status

/-- How a request may fail to be answered. -/
inductive Loss where
  | urlError
  | timeout
  | raised (text : String)
deriving DecidableEq, Repr

/-- How `urlopen` ends where there is no answer. -/
def Loss.sent : Loss → UrlopenResult
  | .urlError => .urlError
  | .timeout => .timeout
  | .raised text => .raised text

/-- What becomes of a request. -/
inductive Link where
  | answered (conditions : IngestConditions)
  | lost (loss : Loss)
deriving DecidableEq, Repr

section

variable (lib : EventLibrary) (loads : String → Option Json)

/-- How the request for an event ends. -/
def Link.send (table : PolicyTable) (link : Link) (event : NormalizedEvent) : UrlopenResult :=
  match link with
  | .answered conditions => (addPfsenseEvent lib loads conditions table event.json).sent
  | .lost loss => loss.sent

end

end SiemDashboard.PfsenseFilterlog
