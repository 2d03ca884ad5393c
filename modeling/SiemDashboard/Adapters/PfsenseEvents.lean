import SiemDashboard.Adapters.PfsenseFilterlogAdapter
import SiemDashboard.Lib.Csv
import SiemDashboard.Lib.Dicts
import SiemDashboard.Lib.Urls

/-!
# Events of the firewall

`adapters/pfsense_filterlog_adapter.py`: how a packet of the firewall becomes a normalized event, and what the
ingest route accepts as such an event, whoever has sent it.

* **Texts** — `EventLibrary`, `textOf` (`str`), `clean`.
* **Values** — `ipv4`, `validatedIp`, `optionalPort`, `optionalIcmpValue`.
* **Payloads** — `extractFilterlogPayload`, `parseCsvFields`.
* **Fields** — `ParsedFields`, `parseIcmpFields`, `parseFilterlogFields`.
* **Events** — `NormalizedEvent`, `normalizePfsenseFilterlogEvent`; `parsePfsenseFilterlogPacket`.
* **Validation** — `rawPayloadAccepted`, `validatePfsenseNormalizedEvent`.
-/

namespace SiemDashboard.PfsenseFilterlog

open Python

/-! ## Texts -/

/-- What is asked of the standard library for events. -/
structure EventLibrary extends Library where
  py : Python
  /-- `str.isdigit` of one character. -/
  isDigit : Char → Bool
  /-- `\w`. -/
  isWord : Char → Bool
  /-- The integer that a float `==`, by the `repr` of the float. -/
  floatInt : String → Option Int
  /-- The `repr` of a float is no text of an integer. -/
  float_no_int : ∀ text n, floatInt text = some n → Python.int decimal (sanitizePfsenseText text) = none

section

variable (lib : EventLibrary)

/-- `str(v)`; floats are known by their `repr`. -/
def textOf : Json → String
  | .float text => text
  | v => lib.py.display v

/-- `_clean`. -/
def clean (v : Json) : String := if v.isNull then "" else sanitizePfsenseText (textOf lib v)

end

/-! ## Values -/

/-- `IPv4Address._parse_octet` raises nothing. -/
def isOctet (part : List Char) : Bool :=
  !part.isEmpty && part.all Char.isDigit && part.length ≤ 3 && (part = ['0'] || part.head? ≠ some '0') &&
    Nat.ofDigitChars 10 part 0 ≤ 255

/-- `str(ipaddress.ip_address(text))` of an address of version 4, none for any other text. -/
def ipv4 (text : String) : Option String :=
  let parts := Urls.split '.' text.toList
  if parts.length = 4 ∧ parts.all isOctet then some text else none

section

variable (lib : EventLibrary)

/-- `_validated_ip`. -/
def validatedIp (v : Json) : Option String := ipv4 (clean lib v)

/-- An integer of a text, between zero and a bound. -/
def boundedInt (bound : Int) (text : String) : Option Int :=
  if text = "" then none
  else (Python.int lib.decimal text).filter fun n => 0 ≤ n && n ≤ bound

/-- `_optional_port`. -/
def optionalPort (v : Json) : Option Int := boundedInt lib 65535 (clean lib v)

/-- `_optional_icmp_value`. -/
def optionalIcmpValue (v : Json) : Option Int := boundedInt lib 255 (clean lib v)

end

/-- `ACTION_EVENT_TYPE_CANDIDATES`. -/
def actionEventTypeCandidates : List (String × String) :=
  [("block", "firewall_block"), ("pass", "firewall_allow")]

/-- `ACTION_SEVERITIES`. -/
def actionSeverities : List (String × String) := [("block", "medium"), ("pass", "low")]

/-- `PFSENSE_INGEST_EVENT_TYPES`. -/
def pfsenseIngestEventTypes : List String := actionEventTypeCandidates.map Prod.snd

/-- `PFSENSE_VALID_PROTOCOLS`. -/
def pfsenseValidProtocols : List String :=
  [ "ah", "carp", "esp", "gre", "icmp", "igmp", "ipencap", "ospf", "pfsync", "pim", "sctp", "tcp",
    "udp" ]

/-- `PFSENSE_TEXTUAL_ICMP_TYPES`. -/
def pfsenseTextualIcmpTypes : List String :=
  [ "maskreply", "needfrag", "parameterprob", "paramprob", "redirect", "reply", "request", "timexceed",
    "tstamp", "tstampreply", "unreach", "unreachport", "unreachproto" ]

/-- `PFSENSE_VALID_DIRECTIONS`. -/
def pfsenseValidDirections : List String := ["in", "out"]

/-- `PFSENSE_VALID_SEVERITIES`. -/
def pfsenseValidSeverities : List String := ["low", "medium", "high", "critical"]

def portProtocols : List String := ["tcp", "udp"]

/-! ## Payloads -/

/-- A packet, as `_packet_byte_length` and `_decode_packet` see it. -/
structure Packet where
  byteLength : Nat
  text : String
  utf8Replaced : Bool
deriving DecidableEq, Repr

/-- `MAX_PACKET_BYTES`. -/
def maxPacketBytes : Nat := 4096

/-- `MAX_SUMMARY_CHARS`. -/
def maxSummaryChars : Nat := 160

/-- `_bounded_summary`. -/
def boundedSummary (value : String) : Option String :=
  let summary := sanitizePfsenseText value
  if summary = "" then none else some (String.ofList (summary.toList.take maxSummaryChars))

/-- `_parse_csv_fields`. -/
def parseCsvFields (payload : String) : List String :=
  if payload = "" then [] else (Csv.firstRow payload).getD []

/-- `_clean(_field(fields, index))`. -/
def field (fields : List String) (index : Nat) : String := sanitizePfsenseText (fields.getD index "")

section

variable (lib : EventLibrary)

/-- `(?:\[\d+\])?:\s*(?P<payload>.+)$`, after the name. -/
def markerPayload (cs : List Char) : Option (List Char) :=
  let afterPid :=
    match cs with
    | '[' :: body =>
      match body.dropWhile (isDecimal lib.toLibrary) with
      | ']' :: rest => if (body.takeWhile (isDecimal lib.toLibrary)).isEmpty then cs else rest
      | _ => cs
    | _ => cs
  match afterPid with
  | ':' :: rest =>
    let payload := rest.dropWhile isSpace
    if payload.isEmpty ∨ '\n' ∈ payload then none else some payload
  | _ => none

/-- `FILTERLOG_MARKER_PATTERN.search`; whether the character before is one of a word goes along. -/
def searchMarker : Bool → List Char → Option (List Char)
  | _, [] => none
  | afterWord, c :: cs =>
    let here := if afterWord then none else
      if "filterlog".toList.isPrefixOf (c :: cs) then markerPayload lib ((c :: cs).drop 9) else none
    match here with
    | some payload => some payload
    | none => searchMarker (lib.isWord c) cs

/-- `extract_filterlog_payload`. -/
def extractFilterlogPayload (syslogText : String) : Option String :=
  let text := sanitizePfsenseText syslogText
  match searchMarker lib false text.toList with
  | some payload => some (sanitizePfsenseText (String.ofList payload))
  | none =>
    let fields := parseCsvFields text
    if 22 ≤ fields.length ∧ field fields 6 ∈ actionEventTypeCandidates.map Prod.fst then some text else none

end

/-! ## Fields -/

/-- What `_parse_failure` reports. -/
structure ParseFailure where
  stage : String
  reason : String
  inputByteLength : Nat
  summary : Option String
deriving DecidableEq, Repr

/-- The type of an ICMP message. -/
inductive IcmpType where
  | number (n : Int)
  | name (text : String)
deriving DecidableEq, Repr

def IcmpType.json : IcmpType → Json
  | .number n => .int n
  | .name text => .str text

/-- The fields that are read of a payload. -/
structure ParsedFields where
  ruleId : Option String
  tracker : Option String
  interface : Option String
  action : String
  direction : Option String
  ipVersion : String
  protocol : String
  sourceIp : String
  destinationIp : String
  sourcePort : Option Int
  destinationPort : Option Int
  tcpFlags : Option String
  icmpType : Option IcmpType
  icmpCode : Option Int
deriving DecidableEq, Repr

/-- `text or None`. -/
def orNone (text : String) : Option String := if text = "" then none else some text

section

variable (lib : EventLibrary)

/-- `_all_decimal_fields`. -/
def allDecimalFields (fields : List String) (indexes : List Nat) : Bool :=
  indexes.all fun index => field fields index ≠ "" && (field fields index).toList.all lib.isDigit

/-- The details that an ICMP type of that name needs. -/
def icmpDetails (fields : List String) (typeText : String) : Bool :=
  let address := (ipv4 (field fields 21)).isSome
  if typeText ∈ ["request", "reply", "tstamp"] then allDecimalFields lib fields [21, 22]
  else if typeText = "tstampreply" then allDecimalFields lib fields [21, 22, 23, 24, 25]
  else if typeText = "unreachproto" then address && allDecimalFields lib fields [22]
  else if typeText = "unreachport" then
    address && allDecimalFields lib fields [22] && (boundedInt lib 65535 (field fields 23)).isSome
  else if typeText = "needfrag" then address && allDecimalFields lib fields [22]
  else field fields 21 ≠ ""

/-- `_parse_icmp_fields`: the type and the code, or the reason why there is none. -/
def parseIcmpFields (fields : List String) : Except String (IcmpType × Option Int) :=
  let typeText := lower (field fields 20)
  match boundedInt lib 255 (sanitizePfsenseText typeText) with
  | some number =>
    let code := boundedInt lib 255 (field fields 21)
    if field fields 21 ≠ "" ∧ code = none then .error "invalid_icmp_code" else .ok (.number number, code)
  | none =>
    if typeText ∉ pfsenseTextualIcmpTypes then .error "invalid_icmp_type"
    else if icmpDetails lib fields typeText then .ok (.name typeText, none)
    else .error "invalid_icmp_details"

/-- The fields that depend on the protocol. -/
structure ProtocolFields where
  sourcePort : Option Int
  destinationPort : Option Int
  tcpFlags : Option String
  icmpType : Option IcmpType
  icmpCode : Option Int

/-- The fields of the protocol, or the reason why there are none. -/
def protocolFields (fields : List String) (protocol : String) : Except String ProtocolFields :=
  if protocol ∈ portProtocols then
    match boundedInt lib 65535 (field fields 20), boundedInt lib 65535 (field fields 21) with
    | some sourcePort, some destinationPort =>
      .ok ⟨some sourcePort, some destinationPort,
        if protocol = "tcp" then orNone (upper (field fields 23)) else none, none, none⟩
    | _, _ => .error "invalid_port"
  else if protocol = "icmp" then
    (parseIcmpFields lib fields).map fun icmp => ⟨none, none, none, some icmp.1, icmp.2⟩
  else .ok ⟨none, none, none, none, none⟩

/-- `parse_filterlog_fields`. -/
def parseFilterlogFields (fields : List String) (byteLength : Nat) (summary : String) :
    Except ParseFailure ParsedFields :=
  let failure (reason : String) : ParseFailure := ⟨"filterlog", reason, byteLength, boundedSummary summary⟩
  let action := lower (field fields 6)
  let direction := lower (field fields 7)
  let protocol := lower (field fields 16)
  if fields.length < 20 then .error (failure "not_enough_fields")
  else if field fields 8 ≠ "4" then .error (failure "unsupported_ip_version")
  else if protocol ∉ pfsenseValidProtocols then .error (failure "unsupported_protocol")
  else if action ∉ actionEventTypeCandidates.map Prod.fst then .error (failure "unsupported_action")
  else
    match ipv4 (field fields 18), ipv4 (field fields 19) with
    | some sourceIp, some destinationIp =>
      match protocolFields lib fields protocol with
      | .error reason => .error (failure reason)
      | .ok ports =>
        .ok
          { ruleId := orNone (field fields 0)
            tracker := orNone (field fields 3)
            interface := orNone (field fields 4)
            action := action
            direction := orNone direction
            ipVersion := "4"
            protocol := protocol
            sourceIp := sourceIp
            destinationIp := destinationIp
            sourcePort := ports.sourcePort
            destinationPort := ports.destinationPort
            tcpFlags := ports.tcpFlags
            icmpType := ports.icmpType
            icmpCode := ports.icmpCode }
    | _, _ => .error (failure "invalid_ip_address")

end

/-! ## Events -/

structure NormalizedEvent where
  eventType : String
  severity : String
  sourceIp : String
  source : String
  sourceType : String
  eventTimestamp : Json
  message : String
  appName : String
  environment : String
  rawPayload : Json

/-- The dict of a normalized event. -/
def NormalizedEvent.json (event : NormalizedEvent) : Json :=
  .obj
    [ ("event_type", .str event.eventType), ("severity", .str event.severity),
      ("source_ip", .str event.sourceIp), ("source", .str event.source),
      ("source_type", .str event.sourceType), ("event_timestamp", event.eventTimestamp),
      ("message", .str event.message), ("app_name", .str event.appName),
      ("environment", .str event.environment), ("raw_payload", event.rawPayload) ]

def TimestampStatus.text : TimestampStatus → String
  | .parsed => "parsed"
  | .missing => "missing"
  | .invalid => "invalid"

/-- `_build_message`. -/
def buildMessage (parsed : ParsedFields) (eventType : String) : String :=
  let actionLabel := if eventType = "firewall_block" then "blocked" else "allowed"
  let destination :=
    match parsed.destinationPort with
    | some port => s!"{parsed.destinationIp}:{port}"
    | none => parsed.destinationIp
  s!"pfSense {upper parsed.protocol} traffic {actionLabel} from {parsed.sourceIp} to {destination}"

/-- What goes along with the fields into an event. -/
structure Surrounding where
  environment : String
  eventTimestamp : Option String
  senderIp : Option String
  summary : String
  rawMessage : String
  utf8Replaced : Bool
  timestamp : TimestampResult

/-- The entries of a raw payload, none where the payload leaves one out. -/
def rawPayloadEntries (parsed : ParsedFields) (eventType : String) (around : Surrounding) :
    List (String × Option Json) :=
  let text (value : Option String) : Json := (value.map Json.str).getD .null
  [ ("action", some (.str parsed.action)), ("interface", some (text parsed.interface)),
    ("direction", some (text parsed.direction)), ("ip_version", some (.str parsed.ipVersion)),
    ("protocol", some (.str parsed.protocol)), ("source_ip", some (.str parsed.sourceIp)),
    ("destination_ip", some (.str parsed.destinationIp)),
    ("event_type_candidate", some (.str eventType)), ("utf8_replaced", some (.bool around.utf8Replaced)),
    ("timestamp_parse_status", some (.str around.timestamp.status.text)),
    ("timestamp_parse_reason", around.timestamp.reason.map .str),
    ("source_port", parsed.sourcePort.map .int), ("destination_port", parsed.destinationPort.map .int),
    ("tcp_flags", parsed.tcpFlags.map .str), ("icmp_type", parsed.icmpType.map IcmpType.json),
    ("icmp_code", parsed.icmpCode.map .int), ("rule_id", parsed.ruleId.map .str),
    ("tracker", parsed.tracker.map .str),
    ("pfsense_sender_ip", ((around.senderIp.filter (· ≠ "")).map sanitizePfsenseText).map .str),
    ("raw_log", (orNone (sanitizePfsenseText around.summary)).map .str),
    ("raw_syslog", (orNone (sanitizePfsenseText around.rawMessage)).map .str),
    ("sanitized_summary", (boundedSummary around.summary).map .str) ]

/-- `normalize_pfsense_filterlog_event`, of fields with a known action. -/
def normalizePfsenseFilterlogEvent (parsed : ParsedFields) (around : Surrounding) : NormalizedEvent :=
  let eventType := (actionEventTypeCandidates.lookup parsed.action).getD ""
  { eventType := eventType
    severity := (actionSeverities.lookup parsed.action).getD "medium"
    sourceIp := parsed.sourceIp
    source := "pfsense"
    sourceType := "firewall"
    eventTimestamp := (around.eventTimestamp.map Json.str).getD .null
    message := buildMessage parsed eventType
    appName := "pfsense_filterlog"
    environment := (orNone (sanitizePfsenseText around.environment)).getD "prod"
    rawPayload := .obj (Dicts.present (rawPayloadEntries parsed eventType around)) }

/-- What a packet may come to, besides an event. -/
inductive PacketError where
  | refused (failure : ParseFailure)
  /-- What is raised while the timestamp is read. -/
  | raised (text : String)
deriving DecidableEq, Repr

/-- What else is given to the parser. -/
structure PacketContext where
  environment : String
  eventTimestamp : Option String
  senderIp : Option String
  receivedAt : Option Datetime
  clock : Datetime
  syslogTimezone : Option String

/-- `parse_pfsense_filterlog_packet`: the event, with the fields that were read. -/
def parsePfsenseFilterlogPacket (lib : EventLibrary) (packet : Packet) (context : PacketContext) :
    Except PacketError (NormalizedEvent × ParsedFields) :=
  let failure (stage reason summary : String) : PacketError :=
    .refused ⟨stage, reason, packet.byteLength, boundedSummary summary⟩
  let sanitizedText := sanitizePfsenseText packet.text
  if maxPacketBytes < packet.byteLength then .error (failure "size" "packet_too_large" "")
  else if sanitizedText = "" then .error (failure "decode" "empty_input" sanitizedText)
  else
    match extractFilterlogPayload lib sanitizedText with
    | none => .error (failure "syslog" "missing_filterlog_payload" sanitizedText)
    | some payload => do
      let parsed ← (parseFilterlogFields lib (parseCsvFields payload) packet.byteLength payload).mapError .refused
      let timestamp ← (parsePfsenseSyslogTimestamp lib.toLibrary sanitizedText context.receivedAt context.clock
        context.syslogTimezone).mapError .raised
      let around : Surrounding :=
        ⟨context.environment, context.eventTimestamp.or timestamp.eventTimestamp, context.senderIp, payload,
          sanitizedText, packet.utf8Replaced, timestamp⟩
      return (normalizePfsenseFilterlogEvent parsed around, parsed)

/-! ## Validation -/

section

variable (lib : EventLibrary)

/-- The fields that a raw payload must have. -/
def requiredRawFields : List String :=
  ["action", "interface", "direction", "ip_version", "protocol", "source_ip", "destination_ip"]

def portFields : List String := ["source_port", "destination_port"]

/-- The action of a raw payload. -/
def actionOf (raw : Json) : String := lower (clean lib (raw.get "action"))

/-- The protocol of a raw payload. -/
def protocolOf (raw : Json) : String := lower (clean lib (raw.get "protocol"))

/-- The direction of a raw payload; empty where it has none. -/
def directionOf (raw : Json) : String := lower (clean lib (raw.get "direction"))

/-- An identifier that is missing, a number, or a text. -/
def identifierAccepted (raw : Json) (name : String) : Bool :=
  match raw.get name with
  | .null | .int _ | .bool _ => true
  | .str s => sanitizePfsenseText s ≠ ""
  | .float _ | .arr _ | .obj _ => false

/-- The ports of a raw payload are ports, where TCP and UDP have both and ICMP has none. -/
def portsAccepted (raw : Json) : Bool :=
  portFields.all (fun name => (raw.get name).isNull || (optionalPort lib (raw.get name)).isSome) &&
    (!portProtocols.contains (protocolOf lib raw) || portFields.all fun name => !(raw.get name).isNull) &&
    (protocolOf lib raw ≠ "icmp" || !portFields.any raw.has)

/-- The details of ICMP. -/
def icmpAccepted (raw : Json) : Bool :=
  (!raw.has "icmp_type" || (optionalIcmpValue lib (raw.get "icmp_type")).isSome ||
      pfsenseTextualIcmpTypes.contains (lower (clean lib (raw.get "icmp_type")))) &&
    (!raw.has "icmp_code" || (optionalIcmpValue lib (raw.get "icmp_code")).isSome)

/-- `_validate_pfsense_raw_payload` raises nothing; whatever it raises is `Invalid raw_payload`. -/
def rawPayloadAccepted (raw : Json) (eventType : String) : Bool :=
  requiredRawFields.all raw.has &&
    decide (actionEventTypeCandidates.lookup (actionOf lib raw) = some eventType) &&
    decide (clean lib (raw.get "interface") ≠ "") &&
    (directionOf lib raw = "" || pfsenseValidDirections.contains (directionOf lib raw)) &&
    decide (clean lib (raw.get "ip_version") = "4") &&
    pfsenseValidProtocols.contains (protocolOf lib raw) &&
    (validatedIp lib (raw.get "source_ip")).isSome &&
    (validatedIp lib (raw.get "destination_ip")).isSome &&
    portsAccepted lib raw && icmpAccepted lib raw &&
    ["rule_id", "tracker"].all (identifierAccepted raw)

/-- The fields that an event must have. -/
def requiredEventFields : List String :=
  [ "event_type", "severity", "source_ip", "source", "source_type", "message", "app_name", "environment",
    "raw_payload" ]

/-- `value is None or (isinstance(value, str) and not value.strip())`. -/
def isBlankField (v : Json) : Bool :=
  match v with
  | .null => true
  | .str s => strip s = ""
  | _ => false

/-- `str(data.get(key)).strip()`. -/
def strippedField (data : Json) (key : String) : String := strip (textOf lib (data.get key))

/-- `validate_pfsense_normalized_event`. -/
def validatePfsenseNormalizedEvent (data : Json) : Except String NormalizedEvent :=
  let eventType := strippedField lib data "event_type"
  let severity := lower (strippedField lib data "severity")
  let source := strippedField lib data "source"
  let sourceType := strippedField lib data "source_type"
  if !data.isObj then .error "Invalid JSON"
  else if requiredEventFields.any fun name => isBlankField (data.get name) then .error "Missing required fields"
  else if eventType ∉ pfsenseIngestEventTypes then .error "Invalid event_type"
  else if severity ∉ pfsenseValidSeverities then .error "Invalid severity"
  else if source ≠ "pfsense" ∨ sourceType ≠ "firewall" then .error "Invalid source fields"
  else
    match validatedIp lib (data.get "source_ip") with
    | none => .error "Invalid source_ip"
    | some sourceIp =>
      if !(data.get "raw_payload").isObj then .error "Invalid raw_payload"
      else if !rawPayloadAccepted lib (data.get "raw_payload") eventType then .error "Invalid raw_payload"
      else
        .ok
          { eventType := eventType
            severity := severity
            sourceIp := sourceIp
            source := source
            sourceType := sourceType
            eventTimestamp := data.get "event_timestamp"
            message := strippedField lib data "message"
            appName := strippedField lib data "app_name"
            environment := (orNone (clean lib (data.get "environment"))).getD "prod"
            rawPayload := data.get "raw_payload" }

end

end SiemDashboard.PfsenseFilterlog
