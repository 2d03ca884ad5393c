import SiemDashboard.Adapters.PfsenseEvents
import SiemDashboard.Engines.PfsenseSyslogListener

/-!
# The loop of the pfSense syslog listener

`engines/pfsense_syslog_listener.py`: what becomes of the datagrams.  What the socket gives, when a signal comes and how
a request to the backend ends is not up to the listener.

* **Configuration** — `PfSenseListenerConfig`, `validateConfig`.
* **Forwarding** — `UrlopenResult`, `forwardNormalizedEvent`.
* **Datagrams** — `PfSenseListenerStats`, `Outcome`, `processDatagram`.
* **The loop** — `Listener`, `Arrival`, `receive`.
-/

namespace SiemDashboard.PfsenseFilterlog

open Python PfsenseListener

/-! ## Configuration -/

/-- What the loop uses of `PfSenseListenerConfig`. -/
structure PfSenseListenerConfig where
  bindPort : Int
  allowedSourceIps : List String
  apiKey : String
  maxPacketBytes : Int
  globalRateLimit : Int
  perSourceRateLimit : Int
  rateLimitWindowSeconds : ℚ
  environment : String
  maxPackets : Option Int

/-- `validate_config`. -/
def validateConfig (config : PfSenseListenerConfig) : Except String Unit :=
  if config.allowedSourceIps.isEmpty then
    .error "PFSENSE_ALLOWED_SOURCE_IPS must include at least one source IP"
  else if config.apiKey = "" then .error "PFSENSE_INGEST_API_KEY or SIEM_INGEST_API_KEY must be set"
  else if config.bindPort < 1 ∨ 65535 < config.bindPort then
    .error "PFSENSE_LISTENER_PORT must be between 1 and 65535"
  else if config.maxPacketBytes < 1 then .error "PFSENSE_MAX_PACKET_BYTES must be positive"
  else .ok ()

/-! ## Forwarding -/

/-- How a call of `urlopen` ends. -/
inductive UrlopenResult where
  | response (status : Int)
  | httpError (code : Int)
  | urlError
  | timeout
  | raised (text : String)
deriving DecidableEq, Repr

/-- What `forward_normalized_event` returns. -/
structure Forwarded where
  ok : Bool
  backendStatus : Option Int
  backendError : Option String
deriving DecidableEq, Repr

/-- `forward_normalized_event`, of the result of its request. -/
def forwardNormalizedEvent : UrlopenResult → Except String Forwarded
  | .response status => .ok ⟨true, some status, none⟩
  | .httpError code => .ok ⟨false, some code, some "http_error"⟩
  | .urlError => .ok ⟨false, none, some "network_error"⟩
  | .timeout => .ok ⟨false, none, some "timeout"⟩
  | .raised text => .error text

/-! ## Datagrams -/

/-- `PfSenseListenerStats`. -/
structure PfSenseListenerStats where
  accepted : Nat := 0
  rejectedSource : Nat := 0
  oversized : Nat := 0
  rateLimited : Nat := 0
  parseFailed : Nat := 0
  forwarded : Nat := 0
  filtered : Nat := 0
  ingested : Nat := 0
  rejected : Nat := 0
  backendFailed : Nat := 0
deriving DecidableEq, Repr

/-- What `process_datagram` returns. -/
inductive Outcome where
  | rejectedSource
  | rateLimited
  | oversized
  | parseFailed
  | filtered
  | ingested
  | rejected
  | backendFailed
deriving DecidableEq, Repr

/-- A datagram as it was received, with the clocks and the time zone when it is processed. -/
structure Datagram where
  packet : Packet
  sourceIp : String
  monotonic : ℚ
  clock : Datetime
  syslogTimezone : Option String

section

variable (lib : EventLibrary) (config : PfSenseListenerConfig) (send : NormalizedEvent → UrlopenResult)

/-- What the parser makes of a datagram. -/
def Datagram.parse (datagram : Datagram) : Except PacketError (NormalizedEvent × ParsedFields) :=
  parsePfsenseFilterlogPacket lib datagram.packet
    ⟨config.environment, none, some datagram.sourceIp, none, datagram.clock, datagram.syslogTimezone⟩

/-- What the counters and the outcome become once the event was sent. -/
def countForwarded (stats : PfSenseListenerStats) (sent : Forwarded) : Outcome × PfSenseListenerStats :=
  let stats := { stats with forwarded := stats.forwarded + 1 }
  if sent.ok ∧ sent.backendStatus = some 202 then (.filtered, { stats with filtered := stats.filtered + 1 })
  else if sent.ok ∧ ∃ status ∈ sent.backendStatus, 200 ≤ status ∧ status < 300 then
    (.ingested, { stats with ingested := stats.ingested + 1 })
  else if ∃ status ∈ sent.backendStatus, 400 ≤ status ∧ status < 500 then
    (.rejected, { stats with rejected := stats.rejected + 1 })
  -- the source counts an answer that is no success and one that is none of these alike
  else (.backendFailed, { stats with backendFailed := stats.backendFailed + 1 })

/-- `process_datagram`: its result, with the counters and the limiter. -/
def processDatagram (datagram : Datagram) (stats : PfSenseListenerStats) (limiter : RateLimiter) :
    Except String Outcome × PfSenseListenerStats × RateLimiter :=
  if datagram.sourceIp ∉ config.allowedSourceIps then
    (.ok .rejectedSource, { stats with rejectedSource := stats.rejectedSource + 1 }, limiter)
  else
    let allowed := limiter.allow datagram.monotonic datagram.sourceIp
    if !allowed.1 then (.ok .rateLimited, { stats with rateLimited := stats.rateLimited + 1 }, allowed.2)
    else if config.maxPacketBytes < datagram.packet.byteLength then
      (.ok .oversized, { stats with oversized := stats.oversized + 1 }, allowed.2)
    else
      let stats := { stats with accepted := stats.accepted + 1 }
      match datagram.parse lib config with
      | .error (.refused _) => (.ok .parseFailed, { stats with parseFailed := stats.parseFailed + 1 }, allowed.2)
      | .error (.raised text) => (.error text, stats, allowed.2)
      | .ok parsed =>
        match forwardNormalizedEvent (send parsed.1) with
        | .error text => (.error text, stats, allowed.2)
        | .ok sent => (.ok (countForwarded stats sent).1, (countForwarded stats sent).2, allowed.2)

end

/-! ## The loop -/

/-- A datagram that was processed, with the result. -/
structure Processed where
  time : ℚ
  sourceIp : String
  result : Except String Outcome

def raisedText : Except String Outcome → Option String
  | .ok _ => none
  | .error text => some text

/-- The variables of `run_pfsense_syslog_listener`; `log` is what was processed. -/
structure Listener where
  stats : PfSenseListenerStats
  limiter : RateLimiter
  packetsProcessed : Nat
  requested : Bool
  raised : Option String
  log : List Processed

/-- What `recvfrom` comes to. -/
inductive Received where
  | datagram (datagram : Datagram)
  | timeout
  | osError

/-- What `recvfrom` comes to, whether a signal has come before, and how a request to the backend would end. -/
structure Arrival where
  received : Received
  shutdown : Bool
  send : NormalizedEvent → UrlopenResult

/-- The listener when the loop begins. -/
def Listener.start (config : PfSenseListenerConfig) : Listener where
  stats := {}
  limiter := .init config.globalRateLimit config.perSourceRateLimit config.rateLimitWindowSeconds
  packetsProcessed := 0
  requested := false
  raised := none
  log := []

/-- The loop has been left, or is left at its head. -/
def Listener.Left (config : PfSenseListenerConfig) (listener : Listener) : Prop :=
  listener.raised.isSome = true ∨ listener.requested = true ∨
    ∃ count ∈ config.maxPackets, count ≤ listener.packetsProcessed

instance (config : PfSenseListenerConfig) (listener : Listener) : Decidable (listener.Left config) := by
  unfold Listener.Left
  infer_instance

section

variable (lib : EventLibrary) (config : PfSenseListenerConfig)

/-- The loop goes round once. -/
def receive (listener : Listener) (arrival : Arrival) : Listener :=
  if listener.Left config then listener
  else
    let listener := { listener with requested := listener.requested || arrival.shutdown }
    match arrival.received with
    | .timeout | .osError => listener
    | .datagram datagram =>
      let processed := processDatagram lib config arrival.send datagram listener.stats listener.limiter
      { listener with
        packetsProcessed := listener.packetsProcessed + 1
        stats := processed.2.1
        limiter := processed.2.2
        raised := raisedText processed.1
        log := listener.log ++ [⟨datagram.monotonic, datagram.sourceIp, processed.1⟩] }

end

end SiemDashboard.PfsenseFilterlog
