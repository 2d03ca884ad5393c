import SiemDashboard.Verification.PfsenseTraffic

/-!
# From packets of the firewall to accepted events

The listener parses packets and forwards events; the ingest route validates and filters what it is sent.  Of the
events that the parser makes the route refuses those without an interface or with an unknown direction, and it takes
the others as they are.

* **Addresses** — `ipv4_eq_some`, `plain_ipv4`.
* **Fields** — `ParsedFields.Read`, `parseFilterlogFields_eq_ok`: what the fields that are read are like.
* **Raw payloads** — `raw_get?`; `rawPayloadAccepted_parsed`.
* **Events** — `strip_message`, `validate_normalized`.
* **Traffic** — `trafficOf_parsed`, `plain_parsed`, `evaluate_normalized`.
* **Result** — `parsed_event_accepted_iff`; `blockedPacket`.
-/

namespace SiemDashboard.PfsenseFilterlog

open Python

/-! ## Addresses -/

theorem mem_split {sep c : Char} {text : List Char} (hc : c ∈ text) :
    c = sep ∨ ∃ part ∈ Urls.split sep text, c ∈ part := by
  induction text with
  | nil => cases hc
  | cons d ds ih =>
    unfold Urls.split
    by_cases hd : d = sep
    · rw [if_pos hd]
      rcases List.mem_cons.mp hc with hcd | hc
      · exact Or.inl (hcd.trans hd)
      · rcases ih hc with hsep | ⟨part, hpart, hmem⟩
        · exact Or.inl hsep
        · exact Or.inr ⟨part, List.mem_cons_of_mem _ hpart, hmem⟩
    · rw [if_neg hd]
      split
      · next hnil =>
        rcases List.mem_cons.mp hc with hcd | hc
        · exact Or.inr ⟨[d], List.mem_singleton_self _, List.mem_singleton.mpr hcd⟩
        · rcases ih hc with hsep | ⟨part, hpart, -⟩
          · exact Or.inl hsep
          · rw [hnil] at hpart
            cases hpart
      · next part parts hparts =>
        rcases List.mem_cons.mp hc with hcd | hc
        · exact Or.inr ⟨d :: part, List.mem_cons_self, hcd ▸ List.mem_cons_self⟩
        · rcases ih hc with hsep | ⟨other, hother, hmem⟩
          · exact Or.inl hsep
          · rw [hparts] at hother
            rcases List.mem_cons.mp hother with rfl | hother
            · exact Or.inr ⟨d :: other, List.mem_cons_self, List.mem_cons_of_mem _ hmem⟩
            · exact Or.inr ⟨other, List.mem_cons_of_mem _ hother, hmem⟩

theorem ipv4_eq_some {text address : String} (h : ipv4 text = some address) :
    address = text ∧ text ≠ "" ∧ ∀ c ∈ text.toList, PlainChar c := by
  unfold ipv4 at h
  dsimp only at h
  split at h
  · next hparts =>
    obtain ⟨hlength, hoctets⟩ := hparts
    refine ⟨(Option.some.inj h).symm, ?_, fun c hc => ?_⟩
    · rintro rfl
      revert hlength
      decide
    · rcases @mem_split '.' c text.toList hc with rfl | ⟨part, hpart, hmem⟩
      · exact ⟨by decide, by decide⟩
      · have hoctet := List.all_eq_true.mp hoctets part hpart
        unfold isOctet at hoctet
        simp only [Bool.and_eq_true] at hoctet
        exact plain_digit (List.all_eq_true.mp hoctet.1.1.1.2 c hmem)
  · cases h

/-- An address is cleaned to itself. -/
theorem sanitize_ipv4 {text address : String} (h : ipv4 text = some address) :
    sanitizePfsenseText address = address ∧ address ≠ "" ∧ ipv4 address = some address := by
  obtain ⟨rfl, hne, hplain⟩ := ipv4_eq_some h
  exact ⟨sanitize_of_plain hplain, hne, h⟩

/-! ## Fields -/

section

variable {lib : EventLibrary}

/-- A text that was cleaned and is not blank, if there is one. -/
def Cleaned (text : Option String) : Prop := ∀ s, text = some s → sanitizePfsenseText s = s ∧ s ≠ ""

theorem cleaned_orNone {s : String} (h : sanitizePfsenseText s = s) : Cleaned (orNone s) := by
  intro t ht
  unfold orNone at ht
  split at ht
  · cases ht
  · next hne =>
    rw [← Option.some.inj ht]
    exact ⟨h, hne⟩

theorem lower_orNone {s : String} (h : lower s = s) : ∀ t, orNone s = some t → lower t = t := by
  intro t ht
  unfold orNone at ht
  split at ht
  · cases ht
  · rw [← Option.some.inj ht]
    exact h

/-- A word of a list, as the parser writes it: cleaned and in lower case. -/
structure Word (words : List String) (word : String) : Prop where
  mem : word ∈ words
  same : lower (sanitizePfsenseText word) = word

theorem word_lower {words : List String} {s : String} (h : lower (sanitizePfsenseText s) ∈ words) :
    Word words (lower (sanitizePfsenseText s)) :=
  ⟨h, by rw [sanitize_lower, sanitize_sanitize, lower_lower]⟩

/-- A type of ICMP that the parser has read. -/
def IcmpType.Read : IcmpType → Prop
  | .number n => 0 ≤ n ∧ n ≤ 255
  | .name text => Word pfsenseTextualIcmpTypes text

/-- What the fields that depend on the protocol are like. -/
structure ProtocolFields.Read (protocol : String) (fields : ProtocolFields) : Prop where
  ports : protocol ∈ portProtocols → ∃ source destination, fields.sourcePort = some source ∧
    fields.destinationPort = some destination ∧ (0 ≤ source ∧ source ≤ 65535) ∧ 0 ≤ destination ∧
      destination ≤ 65535
  noPorts : protocol ∉ portProtocols → fields.sourcePort = none ∧ fields.destinationPort = none
  icmpType : ∀ icmpType, fields.icmpType = some icmpType → icmpType.Read
  icmpCode : ∀ code, fields.icmpCode = some code → 0 ≤ code ∧ code ≤ 255

theorem parseIcmpFields_eq_ok {fields : List String} {icmp : IcmpType × Option Int}
    (h : parseIcmpFields lib fields = .ok icmp) :
    icmp.1.Read ∧ ∀ code, icmp.2 = some code → 0 ≤ code ∧ code ≤ 255 := by
  unfold parseIcmpFields at h
  dsimp only at h
  split at h
  · next number hnumber =>
    split at h
    · cases h
    · cases h
      exact ⟨(boundedInt_eq_some hnumber).2, fun code hcode => (boundedInt_eq_some hcode).2⟩
  · split at h
    · cases h
    · next hname =>
      split at h
      · cases h
        rw [not_not] at hname
        refine ⟨?_, fun code hcode => by cases hcode⟩
        unfold field at hname ⊢
        exact word_lower hname
      · cases h

theorem protocolFields_eq_ok {fields : List String} {protocol : String} {read : ProtocolFields}
    (h : protocolFields lib fields protocol = .ok read) : read.Read protocol := by
  unfold protocolFields at h
  split at h
  · next hports =>
    split at h
    · next source destination hsource hdestination =>
      cases h
      exact
        { ports := fun _ => ⟨source, destination, rfl, rfl, (boundedInt_eq_some hsource).2,
            (boundedInt_eq_some hdestination).2⟩
          noPorts := fun hnone => absurd hports hnone
          icmpType := fun icmpType htype => by cases htype
          icmpCode := fun code hcode => by cases hcode }
    · cases h
  · next hports =>
    split at h
    · obtain ⟨icmp, hicmp, rfl⟩ := Checks.map_eq_ok.mp h
      obtain ⟨htype, hcode⟩ := parseIcmpFields_eq_ok hicmp
      exact
        { ports := fun hsome => absurd hsome hports
          noPorts := fun _ => ⟨rfl, rfl⟩
          icmpType := fun icmpType h => Option.some.inj h ▸ htype
          icmpCode := hcode }
    · cases h
      exact
        { ports := fun hsome => absurd hsome hports
          noPorts := fun _ => ⟨rfl, rfl⟩
          icmpType := fun icmpType htype => by cases htype
          icmpCode := fun code hcode => by cases hcode }

/-- What the fields that are read are like. -/
structure ParsedFields.Read (parsed : ParsedFields) : Prop where
  action : Word (actionEventTypeCandidates.map Prod.fst) parsed.action
  ipVersion : parsed.ipVersion = "4"
  protocol : Word pfsenseValidProtocols parsed.protocol
  sourceIp : ipv4 parsed.sourceIp = some parsed.sourceIp
  destinationIp : ipv4 parsed.destinationIp = some parsed.destinationIp
  interface : Cleaned parsed.interface
  direction : Cleaned parsed.direction
  lowerDirection : ∀ direction, parsed.direction = some direction → lower direction = direction
  ruleId : Cleaned parsed.ruleId
  tracker : Cleaned parsed.tracker
  protocolFields : ProtocolFields.Read parsed.protocol
    ⟨parsed.sourcePort, parsed.destinationPort, parsed.tcpFlags, parsed.icmpType, parsed.icmpCode⟩

theorem parseFilterlogFields_eq_ok {fields : List String} {byteLength : Nat} {summary : String}
    {parsed : ParsedFields} (h : parseFilterlogFields lib fields byteLength summary = .ok parsed) :
    parsed.Read := by
  unfold parseFilterlogFields at h
  dsimp only at h
  split at h
  · cases h
  · split at h
    · cases h
    · split at h
      · cases h
      · next hprotocol =>
        split at h
        · cases h
        · next haction =>
          rw [not_not] at hprotocol haction
          split at h
          · next sourceIp destinationIp hsource hdestination =>
            split at h
            · cases h
            · next ports hports =>
              have hfield (index : Nat) : sanitizePfsenseText (field fields index) = field fields index :=
                sanitize_sanitize _
              have hlower : sanitizePfsenseText (lower (field fields 7)) = lower (field fields 7) := by
                rw [sanitize_lower, hfield]
              have hread := protocolFields_eq_ok hports
              rw [← Except.ok.inj h]
              constructor <;> dsimp only
              · exact word_lower haction
              · exact word_lower hprotocol
              · exact (sanitize_ipv4 hsource).2.2
              · exact (sanitize_ipv4 hdestination).2.2
              · exact cleaned_orNone (hfield 4)
              · exact cleaned_orNone hlower
              · exact lower_orNone (lower_lower (field fields 7))
              · exact cleaned_orNone (hfield 0)
              · exact cleaned_orNone (hfield 3)
              · exact hread
          · cases h

end

/-! ## Raw payloads -/

section RawPayloads

variable {lib : EventLibrary} {parsed : ParsedFields} {eventType : String} {around : Surrounding}

/-- The raw payload of an event that the parser makes. -/
def rawPayloadOf (parsed : ParsedFields) (eventType : String) (around : Surrounding) : Json :=
  .obj (Dicts.present (rawPayloadEntries parsed eventType around))

theorem raw_get? (key : String) : (rawPayloadOf parsed eventType around).get? key =
    ((rawPayloadEntries parsed eventType around).lookup key).join := by
  refine Dicts.lookup_present ?_ key
  show [ "action", "interface", "direction", "ip_version", "protocol", "source_ip", "destination_ip",
    "event_type_candidate", "utf8_replaced", "timestamp_parse_status", "timestamp_parse_reason", "source_port",
    "destination_port", "tcp_flags", "icmp_type", "icmp_code", "rule_id", "tracker", "pfsense_sender_ip", "raw_log",
    "raw_syslog", "sanitized_summary" ].Nodup
  decide +kernel

theorem raw_get (key : String) : (rawPayloadOf parsed eventType around).get key =
    (((rawPayloadEntries parsed eventType around).lookup key).join).getD .null := by
  rw [Json.get, Json.getD, raw_get?]

theorem raw_has (key : String) : (rawPayloadOf parsed eventType around).has key =
    (((rawPayloadEntries parsed eventType around).lookup key).join).isSome := by
  rw [Json.has, raw_get?]

theorem get_action : (rawPayloadOf parsed eventType around).get "action" = .str parsed.action := raw_get _

theorem get_interface : (rawPayloadOf parsed eventType around).get "interface" =
    (parsed.interface.map Json.str).getD .null := raw_get _

theorem get_direction : (rawPayloadOf parsed eventType around).get "direction" =
    (parsed.direction.map Json.str).getD .null := raw_get _

theorem get_protocol : (rawPayloadOf parsed eventType around).get "protocol" = .str parsed.protocol := raw_get _

theorem get_sourcePort : (rawPayloadOf parsed eventType around).get "source_port" =
    (parsed.sourcePort.map Json.int).getD .null := raw_get _

theorem get_destinationPort : (rawPayloadOf parsed eventType around).get "destination_port" =
    (parsed.destinationPort.map Json.int).getD .null := raw_get _

/-- A text that may be missing, cleaned. -/
theorem clean_text {text : Option String} (h : Cleaned text) :
    clean lib ((text.map Json.str).getD .null) = text.getD "" := by
  cases text with
  | none => rfl
  | some s => exact (h s rfl).1

theorem ne_empty_of_cleaned {text : Option String} (h : Cleaned text) : text.getD "" ≠ "" ↔ text.isSome = true := by
  cases text with
  | none => exact iff_of_false (fun hne => hne rfl) Bool.false_ne_true
  | some s => exact iff_of_true (h s rfl).2 rfl

theorem actionOf_parsed (h : parsed.Read) : actionOf lib (rawPayloadOf parsed eventType around) = parsed.action := by
  rw [actionOf, get_action]
  exact h.action.same

theorem protocolOf_parsed (h : parsed.Read) :
    protocolOf lib (rawPayloadOf parsed eventType around) = parsed.protocol := by
  rw [protocolOf, get_protocol]
  exact h.protocol.same

theorem directionOf_parsed (h : parsed.Read) :
    directionOf lib (rawPayloadOf parsed eventType around) = parsed.direction.getD "" := by
  rw [directionOf, get_direction, clean_text h.direction]
  cases hdirection : parsed.direction with
  | none => rfl
  | some direction => exact h.lowerDirection direction hdirection

theorem portsAccepted_parsed (h : parsed.Read) :
    portsAccepted lib (rawPayloadOf parsed eventType around) = true := by
  have hsource : (rawPayloadOf parsed eventType around).has "source_port" =
      (parsed.sourcePort.map Json.int).isSome := raw_has _
  have hdestination : (rawPayloadOf parsed eventType around).has "destination_port" =
      (parsed.destinationPort.map Json.int).isSome := raw_has _
  unfold portsAccepted portFields
  rw [protocolOf_parsed h]
  simp only [List.all_cons, List.all_nil, List.any_cons, List.any_nil, get_sourcePort, get_destinationPort, hsource,
    hdestination]
  by_cases hports : parsed.protocol ∈ portProtocols
  · obtain ⟨source, destination, hs, hd, hsrange, hdrange⟩ := h.protocolFields.ports hports
    have hicmp : parsed.protocol ≠ "icmp" := by
      intro heq
      rw [heq] at hports
      revert hports
      decide
    have hs : parsed.sourcePort = some source := hs
    have hd : parsed.destinationPort = some destination := hd
    have hsport : optionalPort lib (.int source) = some source := boundedInt_int hsrange
    have hdport : optionalPort lib (.int destination) = some destination := boundedInt_int hdrange
    rw [hs, hd]
    simp [hsport, hdport, hicmp, Json.isNull]
  · obtain ⟨hs, hd⟩ := h.protocolFields.noPorts hports
    have hs : parsed.sourcePort = none := hs
    have hd : parsed.destinationPort = none := hd
    have hcontains : portProtocols.contains parsed.protocol = false := by
      rw [Bool.eq_false_iff]
      exact fun hmem => hports (List.contains_iff_mem.mp hmem)
    rw [hs, hd, hcontains]
    simp [Json.isNull]

theorem icmpAccepted_parsed (h : parsed.Read) : icmpAccepted lib (rawPayloadOf parsed eventType around) = true := by
  have htypeHas : (rawPayloadOf parsed eventType around).has "icmp_type" =
      (parsed.icmpType.map IcmpType.json).isSome := raw_has _
  have htypeGet : (rawPayloadOf parsed eventType around).get "icmp_type" =
      (parsed.icmpType.map IcmpType.json).getD .null := raw_get _
  have hcodeHas : (rawPayloadOf parsed eventType around).has "icmp_code" =
      (parsed.icmpCode.map Json.int).isSome := raw_has _
  have hcodeGet : (rawPayloadOf parsed eventType around).get "icmp_code" =
      (parsed.icmpCode.map Json.int).getD .null := raw_get _
  have htype : (!(rawPayloadOf parsed eventType around).has "icmp_type" ||
      (optionalIcmpValue lib ((rawPayloadOf parsed eventType around).get "icmp_type")).isSome ||
      pfsenseTextualIcmpTypes.contains
        (lower (clean lib ((rawPayloadOf parsed eventType around).get "icmp_type")))) = true := by
    rw [htypeHas, htypeGet]
    cases hicmp : parsed.icmpType with
    | none => rfl
    | some icmpType =>
      have hread : icmpType.Read := h.protocolFields.icmpType icmpType hicmp
      cases icmpType with
      | number n =>
        have hvalue : optionalIcmpValue lib (.int n) = some n := boundedInt_int hread
        show (!true || (optionalIcmpValue lib (.int n)).isSome || _) = true
        rw [hvalue]
        rfl
      | name text =>
        have hlisted : pfsenseTextualIcmpTypes.contains (lower (clean lib (.str text))) = true := by
          have hsame : lower (clean lib (.str text)) = text := hread.same
          rw [hsame]
          exact List.contains_iff_mem.mpr hread.mem
        show (!true || (optionalIcmpValue lib (.str text)).isSome ||
          pfsenseTextualIcmpTypes.contains (lower (clean lib (.str text)))) = true
        rw [hlisted, Bool.or_true]
  have hcode : (!(rawPayloadOf parsed eventType around).has "icmp_code" ||
      (optionalIcmpValue lib ((rawPayloadOf parsed eventType around).get "icmp_code")).isSome) = true := by
    rw [hcodeHas, hcodeGet]
    cases hicmp : parsed.icmpCode with
    | none => rfl
    | some code =>
      have hvalue : optionalIcmpValue lib (.int code) = some code :=
        boundedInt_int (h.protocolFields.icmpCode code hicmp)
      show (!true || (optionalIcmpValue lib (.int code)).isSome) = true
      rw [hvalue]
      rfl
  rw [icmpAccepted, htype, hcode]
  rfl

theorem identifier_parsed {name : String} {text : Option String} (h : Cleaned text)
    (hget : (rawPayloadOf parsed eventType around).get name = (text.map Json.str).getD .null) :
    identifierAccepted (rawPayloadOf parsed eventType around) name = true := by
  unfold identifierAccepted
  rw [hget]
  cases htext : text with
  | none => rfl
  | some s =>
    obtain ⟨hsame, hne⟩ := h s htext
    refine decide_eq_true ?_
    rwa [hsame]

/-- A raw payload that the parser makes is accepted but for its interface and its direction. -/
theorem rawPayloadAccepted_parsed (h : parsed.Read)
    (hevent : actionEventTypeCandidates.lookup parsed.action = some eventType) :
    rawPayloadAccepted lib (rawPayloadOf parsed eventType around) eventType = true ↔
      parsed.interface.isSome = true ∧
        ∀ direction, parsed.direction = some direction → direction ∈ pfsenseValidDirections := by
  have hrequired : requiredRawFields.all (rawPayloadOf parsed eventType around).has = true := rfl
  have hversion : clean lib ((rawPayloadOf parsed eventType around).get "ip_version") = "4" := by
    have hget : (rawPayloadOf parsed eventType around).get "ip_version" = .str parsed.ipVersion := raw_get _
    have hfour : sanitizePfsenseText "4" = "4" := by decide +kernel
    rw [hget, h.ipVersion]
    exact hfour
  have hsource : validatedIp lib ((rawPayloadOf parsed eventType around).get "source_ip") = some parsed.sourceIp := by
    have hget : (rawPayloadOf parsed eventType around).get "source_ip" = .str parsed.sourceIp := raw_get _
    rw [hget, validatedIp]
    show ipv4 (sanitizePfsenseText parsed.sourceIp) = _
    rw [(sanitize_ipv4 h.sourceIp).1, h.sourceIp]
  have hdestination : validatedIp lib ((rawPayloadOf parsed eventType around).get "destination_ip") =
      some parsed.destinationIp := by
    have hget : (rawPayloadOf parsed eventType around).get "destination_ip" = .str parsed.destinationIp := raw_get _
    rw [hget, validatedIp]
    show ipv4 (sanitizePfsenseText parsed.destinationIp) = _
    rw [(sanitize_ipv4 h.destinationIp).1, h.destinationIp]
  have hidentifiers : ["rule_id", "tracker"].all (identifierAccepted (rawPayloadOf parsed eventType around)) = true := by
    have hrule : (rawPayloadOf parsed eventType around).get "rule_id" = (parsed.ruleId.map Json.str).getD .null :=
      raw_get _
    have htracker : (rawPayloadOf parsed eventType around).get "tracker" =
        (parsed.tracker.map Json.str).getD .null := raw_get _
    rw [List.all_cons, List.all_cons, identifier_parsed h.ruleId hrule, identifier_parsed h.tracker htracker]
    rfl
  unfold rawPayloadAccepted
  rw [hrequired, actionOf_parsed h, hevent, hversion, protocolOf_parsed h, hsource, hdestination,
    portsAccepted_parsed h, icmpAccepted_parsed h, hidentifiers, directionOf_parsed h, get_interface,
    clean_text h.interface, List.contains_iff_mem.mpr h.protocol.mem]
  have hdirection : (parsed.direction.getD "" = "" ∨ parsed.direction.getD "" ∈ pfsenseValidDirections) ↔
      ∀ direction, parsed.direction = some direction → direction ∈ pfsenseValidDirections := by
    cases hparsed : parsed.direction with
    | none => exact iff_of_true (Or.inl rfl) fun direction heq => by cases heq
    | some direction =>
      have hne := (h.direction direction hparsed).2
      constructor
      · rintro (hempty | hlisted) other heq
        · exact absurd hempty hne
        · cases heq
          exact hlisted
      · intro hall
        exact Or.inr (hall direction rfl)
  rw [← ne_empty_of_cleaned h.interface, ← hdirection]
  simp only [decide_true, Bool.true_and, Bool.and_true, Option.isSome_some, Bool.and_eq_true, Bool.or_eq_true,
    decide_eq_true_eq, List.contains_iff_mem]

end RawPayloads

/-! ## Events -/

section Events

variable {lib : EventLibrary} {parsed : ParsedFields} {around : Surrounding}

theorem stripChars_of_ends {cs : List Char} (hfirst : ∀ c, cs.head? = some c → isSpace c = false)
    (hlast : ∀ c, cs.getLast? = some c → isSpace c = false) : stripChars cs = cs := by
  have hdrop : cs.dropWhile isSpace = cs := by
    cases cs with
    | nil => rfl
    | cons c cs => exact List.dropWhile_cons_of_neg (by rw [hfirst c rfl]; exact Bool.false_ne_true)
  rw [stripChars, hdrop, List.rdropWhile_eq_self_iff]
  intro hne hspace
  rw [hlast _ (List.getLast?_eq_some_getLast hne)] at hspace
  cases hspace

/-- A text that begins and ends with a character that is seen has no whitespace around it. -/
theorem strip_of_ends {before middle after : String} {c : Char} {cs : List Char} (hbefore : before.toList = c :: cs)
    (hc : isSpace c = false) (hne : after ≠ "") (hafter : ∀ c ∈ after.toList, PlainChar c) :
    strip (before ++ middle ++ after) = before ++ middle ++ after := by
  have hnil : after.toList ≠ [] := by simpa using hne
  have hchars : (before ++ middle ++ after).toList = c :: (cs ++ middle.toList ++ after.toList) := by
    rw [String.toList_append, String.toList_append, hbefore, List.cons_append, List.cons_append]
  have hstrip : stripChars (before ++ middle ++ after).toList = (before ++ middle ++ after).toList := by
    refine stripChars_of_ends (fun d hd => ?_) (fun d hd => ?_)
    · rw [hchars] at hd
      rw [← Option.some.inj hd]
      exact hc
    · rw [String.toList_append, List.getLast?_append_of_ne_nil _ hnil] at hd
      exact (hafter d (List.mem_of_getLast? hd)).1
  rw [strip, hstrip, String.ofList_toList]

theorem buildMessage_eq (parsed : ParsedFields) (eventType : String) : ∃ middle after,
    buildMessage parsed eventType = "pfSense " ++ middle ++ after ∧
      ((∃ port : Int, parsed.destinationPort = some port ∧ after = toString port) ∨
        after = parsed.destinationIp) := by
  let label := if eventType = "firewall_block" then "blocked" else "allowed"
  let route := upper parsed.protocol ++ " traffic " ++ label ++ " from " ++ parsed.sourceIp ++ " to "
  cases hport : parsed.destinationPort with
  | none =>
    refine ⟨route, parsed.destinationIp, ?_, Or.inr rfl⟩
    rw [buildMessage, hport]
    show "pfSense " ++ upper parsed.protocol ++ " traffic " ++ label ++ " from " ++ parsed.sourceIp ++ " to " ++
      parsed.destinationIp = _
    simp only [route, String.append_assoc]
  | some port =>
    refine ⟨route ++ parsed.destinationIp ++ ":", toString port, ?_, Or.inl ⟨port, rfl, rfl⟩⟩
    rw [buildMessage, hport]
    show "pfSense " ++ upper parsed.protocol ++ " traffic " ++ label ++ " from " ++ parsed.sourceIp ++ " to " ++
      (parsed.destinationIp ++ ":" ++ toString port) = _
    simp only [route, String.append_assoc]

theorem strip_message (h : parsed.Read) (eventType : String) :
    strip (buildMessage parsed eventType) = buildMessage parsed eventType ∧ buildMessage parsed eventType ≠ "" := by
  obtain ⟨middle, after, hmessage, hafter⟩ := buildMessage_eq parsed eventType
  have hplain : after ≠ "" ∧ ∀ c ∈ after.toList, PlainChar c := by
    rcases hafter with ⟨port, -, rfl⟩ | rfl
    · exact ⟨toString_ne_empty port, plain_toString port⟩
    · obtain ⟨-, hne, hplain⟩ := ipv4_eq_some h.destinationIp
      exact ⟨hne, hplain⟩
  have hbefore : "pfSense ".toList = 'p' :: "fSense ".toList := by decide
  rw [hmessage]
  refine ⟨strip_of_ends hbefore (by decide) hplain.1 hplain.2, fun hempty => hplain.1 ?_⟩
  have hlist := congrArg String.toList hempty
  rw [String.toList_append, String.toList_empty] at hlist
  exact String.toList_eq_nil_iff.mp (List.append_eq_nil_iff.mp hlist).2

/-- A word of the event is kept as it is. -/
theorem strip_listed {words : List String} {word : String}
    (hwords : (words.all fun word => strip word = word && word ≠ "" && lower word = word) = true)
    (hword : word ∈ words) : strip word = word ∧ word ≠ "" ∧ lower word = word := by
  have hall := List.all_eq_true.mp hwords word hword
  simp only [Bool.and_eq_true, decide_eq_true_eq] at hall
  exact ⟨hall.1.1, hall.1.2, hall.2⟩

theorem strip_of_cleaned {s : String} (h : sanitizePfsenseText s = s) : strip s = s := by
  rw [← h, strip_sanitize]

/-- An event whose fields the validator takes as they are. -/
structure NormalizedEvent.Neat (event : NormalizedEvent) : Prop where
  eventType : event.eventType ∈ pfsenseIngestEventTypes
  severity : event.severity ∈ pfsenseValidSeverities
  source : event.source = "pfsense"
  sourceType : event.sourceType = "firewall"
  sourceIp : ipv4 event.sourceIp = some event.sourceIp
  message : strip event.message = event.message ∧ event.message ≠ ""
  appName : strip event.appName = event.appName ∧ event.appName ≠ ""
  environment : sanitizePfsenseText event.environment = event.environment ∧ event.environment ≠ ""
  rawPayload : event.rawPayload.isObj = true

variable {event : NormalizedEvent}

/-- No field of a neat event is blank. -/
theorem NormalizedEvent.Neat.fields (h : event.Neat) :
    (requiredEventFields.any fun name => isBlankField (event.json.get name)) = false := by
  have htext (s : String) (hs : strip s = s ∧ s ≠ "") : isBlankField (.str s) = false :=
    decide_eq_false (by rw [hs.1]; exact hs.2)
  obtain ⟨heventStrip, heventNe, -⟩ := strip_listed (by decide +kernel) h.eventType
  obtain ⟨hseverityStrip, hseverityNe, -⟩ := strip_listed (by decide +kernel) h.severity
  obtain ⟨haddress, haddressNe, -⟩ := sanitize_ipv4 h.sourceIp
  have hpfsense : isBlankField (.str "pfsense") = false := by decide +kernel
  have hfirewall : isBlankField (.str "firewall") = false := by decide +kernel
  have hraw : isBlankField event.rawPayload = false := by
    have hobj := h.rawPayload
    cases hpayload : event.rawPayload with
    | obj fields => rfl
    | _ =>
      rw [hpayload] at hobj
      cases hobj
  show (isBlankField (.str event.eventType) || (isBlankField (.str event.severity) ||
    (isBlankField (.str event.sourceIp) || (isBlankField (.str event.source) ||
    (isBlankField (.str event.sourceType) || (isBlankField (.str event.message) ||
    (isBlankField (.str event.appName) || (isBlankField (.str event.environment) ||
    (isBlankField event.rawPayload || false))))))))) = false
  rw [htext _ ⟨heventStrip, heventNe⟩, htext _ ⟨hseverityStrip, hseverityNe⟩,
    htext _ ⟨strip_of_cleaned haddress, haddressNe⟩, h.source, h.sourceType, hpfsense, hfirewall, htext _ h.message,
    htext _ h.appName, htext _ ⟨strip_of_cleaned h.environment.1, h.environment.2⟩, hraw]
  rfl

/-- A neat event is accepted where its raw payload is, and then as it is. -/
theorem NormalizedEvent.Neat.validate (h : event.Neat) (found : NormalizedEvent) :
    validatePfsenseNormalizedEvent lib event.json = .ok found ↔
      rawPayloadAccepted lib event.rawPayload event.eventType = true ∧ found = event := by
  obtain ⟨heventStrip, -, -⟩ := strip_listed (by decide +kernel) h.eventType
  obtain ⟨hseverityStrip, -, hseverityLower⟩ := strip_listed (by decide +kernel) h.severity
  obtain ⟨haddress, -, hipv4⟩ := sanitize_ipv4 h.sourceIp
  have heventType : strippedField lib event.json "event_type" = event.eventType := heventStrip
  have hseverity : lower (strippedField lib event.json "severity") = event.severity := by
    show lower (strip event.severity) = _
    rw [hseverityStrip, hseverityLower]
  have hpfsense : strip "pfsense" = "pfsense" := by decide +kernel
  have hfirewall : strip "firewall" = "firewall" := by decide +kernel
  have hsource : strippedField lib event.json "source" = event.source := by
    show strip event.source = _
    rw [h.source, hpfsense]
  have hsourceType : strippedField lib event.json "source_type" = event.sourceType := by
    show strip event.sourceType = _
    rw [h.sourceType, hfirewall]
  have hsourceIp : validatedIp lib (event.json.get "source_ip") = some event.sourceIp := by
    show ipv4 (sanitizePfsenseText event.sourceIp) = _
    rw [haddress, hipv4]
  have hmessage : strippedField lib event.json "message" = event.message := h.message.1
  have happName : strippedField lib event.json "app_name" = event.appName := h.appName.1
  have henvironment : (orNone (clean lib (event.json.get "environment"))).getD "prod" = event.environment := by
    show (orNone (sanitizePfsenseText event.environment)).getD "prod" = _
    rw [h.environment.1, orNone, if_neg h.environment.2]
    rfl
  have hraw : event.json.get "raw_payload" = event.rawPayload := rfl
  have htimestamp : event.json.get "event_timestamp" = event.eventTimestamp := rfl
  have hobj : ¬ (!event.json.isObj) = true := Bool.false_ne_true
  have hfrom : ¬ (event.source ≠ "pfsense" ∨ event.sourceType ≠ "firewall") := by
    rw [h.source, h.sourceType]
    decide
  have hdict : ¬ (!event.rawPayload.isObj) = true := by
    rw [h.rawPayload]
    exact Bool.false_ne_true
  unfold validatePfsenseNormalizedEvent
  dsimp only
  rw [heventType, hseverity, hsource, hsourceType, hsourceIp, hmessage, happName, henvironment, hraw, htimestamp,
    h.fields, if_neg hobj, if_neg Bool.false_ne_true, if_neg (not_not.mpr h.eventType),
    if_neg (not_not.mpr h.severity), if_neg hfrom]
  dsimp only
  rw [if_neg hdict]
  cases haccepted : rawPayloadAccepted lib event.rawPayload event.eventType with
  | false =>
    rw [Bool.not_false, if_pos rfl]
    refine iff_of_false (fun hok => ?_) fun hboth => Bool.false_ne_true hboth.1
    cases hok
  | true =>
    rw [Bool.not_true, if_neg Bool.false_ne_true]
    constructor
    · intro hok
      exact ⟨rfl, (Except.ok.inj hok).symm⟩
    · intro hboth
      rw [hboth.2]

/-- The type that stands for an action, and the severity. -/
theorem action_parsed (h : parsed.Read) : ∃ eventType severity,
    actionEventTypeCandidates.lookup parsed.action = some eventType ∧
      actionSeverities.lookup parsed.action = some severity ∧ eventType ∈ pfsenseIngestEventTypes ∧
      severity ∈ pfsenseValidSeverities := by
  rcases List.mem_cons.mp h.action.mem with hblock | hrest
  · rw [hblock]
    exact ⟨_, _, rfl, rfl, by decide, by decide⟩
  · rw [List.mem_singleton.mp hrest]
    exact ⟨_, _, rfl, rfl, by decide, by decide⟩

theorem environment_cleaned (environment : String) :
    sanitizePfsenseText ((orNone (sanitizePfsenseText environment)).getD "prod") =
        (orNone (sanitizePfsenseText environment)).getD "prod" ∧
      (orNone (sanitizePfsenseText environment)).getD "prod" ≠ "" := by
  have hcleaned : Cleaned (orNone (sanitizePfsenseText environment)) := cleaned_orNone (sanitize_sanitize _)
  cases htext : orNone (sanitizePfsenseText environment) with
  | none => exact ⟨by decide +kernel, by decide⟩
  | some text => exact hcleaned text htext

theorem normalized_neat (h : parsed.Read) : (normalizePfsenseFilterlogEvent parsed around).Neat := by
  obtain ⟨eventType, severity, heventType, hseverity, hevent, hsevere⟩ := action_parsed h
  unfold normalizePfsenseFilterlogEvent
  dsimp only
  rw [heventType, hseverity]
  constructor <;> dsimp only
  · exact hevent
  · exact hsevere
  · exact h.sourceIp
  · exact strip_message h eventType
  · exact ⟨by decide +kernel, by decide⟩
  · exact environment_cleaned around.environment
  · rfl

/-- What the validator makes of an event that the parser makes. -/
theorem validate_normalized (h : parsed.Read) (found : NormalizedEvent) :
    validatePfsenseNormalizedEvent lib (normalizePfsenseFilterlogEvent parsed around).json = .ok found ↔
      (parsed.interface.isSome = true ∧
        ∀ direction, parsed.direction = some direction → direction ∈ pfsenseValidDirections) ∧
        found = normalizePfsenseFilterlogEvent parsed around := by
  obtain ⟨eventType, severity, heventType, -⟩ := action_parsed h
  rw [(normalized_neat h).validate]
  have htype : (normalizePfsenseFilterlogEvent parsed around).eventType = eventType := by
    unfold normalizePfsenseFilterlogEvent
    rw [heventType]
    rfl
  have hraw : (normalizePfsenseFilterlogEvent parsed around).rawPayload =
      rawPayloadOf parsed eventType around := by
    rw [← htype]
    rfl
  rw [htype, hraw, rawPayloadAccepted_parsed h heventType]

/-- The traffic that the parser has read. -/
def ParsedFields.traffic (parsed : ParsedFields) : Traffic where
  action := parsed.action
  protocol := parsed.protocol
  direction := parsed.direction.getD ""
  destinationPort := parsed.destinationPort

/-- A word of a list is in lower case. -/
theorem Word.lower {words : List String} {word : String} (h : Word words word) : Python.lower word = word := by
  rw [← h.same, lower_lower]

theorem rawReading_str {raw : Json} {key text : String} (hget : raw.get key = .str text) :
    rawReading lib raw key = Python.lower text := by
  unfold rawReading
  rw [hget]
  unfold Json.orElse Json.truthy
  by_cases hempty : text = ""
  · rw [hempty]
    rfl
  · rw [if_pos (decide_eq_true hempty)]
    rfl

variable {eventType : String}

theorem readDirection (h : parsed.Read) :
    rawReading lib (rawPayloadOf parsed eventType around) "direction" = parsed.direction.getD "" := by
  cases hdirection : parsed.direction with
  | none =>
    have hget : (rawPayloadOf parsed eventType around).get "direction" = .null := by
      rw [get_direction, hdirection]
      rfl
    unfold rawReading
    rw [hget]
    rfl
  | some direction =>
    have hget : (rawPayloadOf parsed eventType around).get "direction" = .str direction := by
      rw [get_direction, hdirection]
      rfl
    rw [rawReading_str hget, h.lowerDirection direction hdirection]
    rfl

theorem readPort (h : parsed.Read) :
    optionalPort lib ((rawPayloadOf parsed eventType around).get "destination_port") = parsed.destinationPort := by
  rw [get_destinationPort]
  by_cases hports : parsed.protocol ∈ portProtocols
  · obtain ⟨-, destination, -, hd, -, hrange⟩ := h.protocolFields.ports hports
    have hd : parsed.destinationPort = some destination := hd
    rw [hd]
    exact boundedInt_int hrange
  · have hd : parsed.destinationPort = none := (h.protocolFields.noPorts hports).2
    rw [hd]
    rfl

/-- The traffic of an event of the parser is what the parser has read. -/
theorem trafficOf_parsed (h : parsed.Read) :
    trafficOf lib (rawPayloadOf parsed eventType around) = parsed.traffic := by
  unfold trafficOf ParsedFields.traffic
  rw [actionOf_parsed h, protocolOf_parsed h, directionOf_parsed h, readPort h]

/-- The parser spells its events plainly. -/
theorem plain_parsed (h : parsed.Read) : PlainlySpelled lib (rawPayloadOf parsed eventType around) := by
  have haction : rawReading lib (rawPayloadOf parsed eventType around) "action" = parsed.action := by
    rw [rawReading_str get_action, h.action.lower]
  have hprotocol : rawReading lib (rawPayloadOf parsed eventType around) "protocol" = parsed.protocol := by
    rw [rawReading_str get_protocol, h.protocol.lower]
  have hequals (port : Int) (hport : parsed.destinationPort = some port) :
      equalsInt lib ((rawPayloadOf parsed eventType around).get "destination_port") port = true := by
    rw [get_destinationPort, hport]
    exact decide_eq_true rfl
  constructor
  · rw [haction, actionOf_parsed h]
  · intro _ hicmp
    rw [hprotocol]
    rwa [protocolOf_parsed h] at hicmp
  · intro _ hports hdirection port hport _
    rw [protocolOf_parsed h] at hports
    rw [directionOf_parsed h] at hdirection
    rw [readPort h] at hport
    rw [hprotocol, readDirection h]
    exact ⟨hports, hdirection, hequals port hport⟩
  · intro _ hports hport
    rw [protocolOf_parsed h] at hports
    rw [readPort h] at hport
    rw [hprotocol]
    exact ⟨hports, hequals 53 hport⟩

theorem rawAccepted_parsed (h : parsed.Read) (hevent : actionEventTypeCandidates.lookup parsed.action = some eventType) :
    RawAccepted lib (rawPayloadOf parsed eventType around) eventType where
  action := by rw [actionOf_parsed h, hevent]
  protocol := by
    rw [protocolOf_parsed h]
    exact h.protocol.mem
  ports hports name hname := by
    rw [protocolOf_parsed h] at hports
    obtain ⟨source, destination, hs, hd, hsrange, hdrange⟩ := h.protocolFields.ports hports
    have hs : parsed.sourcePort = some source := hs
    have hd : parsed.destinationPort = some destination := hd
    rcases List.mem_cons.mp hname with rfl | hrest
    · rw [get_sourcePort, hs]
      exact ⟨source, boundedInt_int hsrange⟩
    · rw [List.mem_singleton.mp hrest, get_destinationPort, hd]
      exact ⟨destination, boundedInt_int hdrange⟩

theorem evaluate_normalized (h : parsed.Read) {policy : EffectivePolicy} (hpolicy : policy.Valid) :
    evaluateEvent lib (normalizePfsenseFilterlogEvent parsed around) policy = policy.decide parsed.traffic := by
  obtain ⟨eventType, severity, heventType, -⟩ := action_parsed h
  have hraw : (normalizePfsenseFilterlogEvent parsed around).rawPayload = rawPayloadOf parsed eventType around := by
    unfold normalizePfsenseFilterlogEvent
    rw [heventType]
    rfl
  have hplain : PlainlySpelled lib (normalizePfsenseFilterlogEvent parsed around).rawPayload := by
    rw [hraw]
    exact plain_parsed h
  have haccepted : RawAccepted lib (normalizePfsenseFilterlogEvent parsed around).rawPayload eventType := by
    rw [hraw]
    exact rawAccepted_parsed h heventType
  rw [evaluate_of_plain haccepted hplain hpolicy, hraw, trafficOf_parsed h]

theorem packet_parsed {packet : Packet} {context : PacketContext} {event : NormalizedEvent}
    (h : parsePfsenseFilterlogPacket lib packet context = .ok (event, parsed)) :
    parsed.Read ∧ ∃ around, event = normalizePfsenseFilterlogEvent parsed around := by
  unfold parsePfsenseFilterlogPacket at h
  dsimp only at h
  split at h
  · cases h
  · split at h
    · cases h
    · split at h
      · cases h
      · obtain ⟨read, hread, h⟩ := Checks.bind_eq_ok.mp h
        obtain ⟨timestamp, htimestamp, h⟩ := Checks.bind_eq_ok.mp h
        have hpair := Except.ok.inj h
        have hparsed : read = parsed := congrArg Prod.snd hpair
        have hevent := congrArg Prod.fst hpair
        rw [← hparsed]
        exact ⟨parseFilterlogFields_eq_ok (Checks.mapError_eq_ok.mp hread), _, hevent.symm⟩

end Events

/-! ## A packet -/

/-- A blocked attempt to log in. -/
def blockedPacket : Packet where
  byteLength := 84
  text := "filterlog: 5,,,9,igb0,match,block,in,4,,,64,,,,6,tcp,60,192.0.2.7,192.0.2.10,1024,22"
  utf8Replaced := false

def plainContext : PacketContext := ⟨"prod", none, some "192.0.2.1", none, ⟨0, some 0⟩, none⟩

theorem blockedPacket_parsed : ∃ result,
    parsePfsenseFilterlogPacket exampleEvents blockedPacket plainContext = .ok result :=
  Checks.isOk_iff.mp (by decide +kernel)

/-! ## Results -/

/-- The event has an interface, and a direction that is known, or none. -/
def ParsedFields.Deliverable (parsed : ParsedFields) : Prop :=
  parsed.interface.isSome = true ∧
    ∀ direction, parsed.direction = some direction → direction ∈ pfsenseValidDirections

/-- **Forwarding.**  Of the events that the parser makes of packets the ingest route takes just those that have an
    interface and a known direction, or none, and it takes them as they are; and every valid policy decides on each
    event by the traffic that the parser has read. -/
theorem parsed_event_accepted_iff {lib : EventLibrary} {packet : Packet} {context : PacketContext}
    {event : NormalizedEvent} {parsed : ParsedFields}
    (hparse : parsePfsenseFilterlogPacket lib packet context = .ok (event, parsed)) :
    (∀ found, validatePfsenseNormalizedEvent lib event.json = .ok found ↔ parsed.Deliverable ∧ found = event) ∧
      ∀ policy : EffectivePolicy, policy.Valid → evaluateEvent lib event policy = policy.decide parsed.traffic := by
  obtain ⟨hread, around, rfl⟩ := packet_parsed hparse
  exact ⟨fun found => validate_normalized hread found, fun policy hpolicy => evaluate_normalized hread hpolicy⟩

/-- The event of the packet is decided on by the traffic that was read. -/
theorem blockedPacket_accepted : ∃ event parsed,
    parsePfsenseFilterlogPacket exampleEvents blockedPacket plainContext = .ok (event, parsed) ∧
      (∀ found, validatePfsenseNormalizedEvent exampleEvents event.json = .ok found ↔
        parsed.Deliverable ∧ found = event) ∧
      ∀ policy : EffectivePolicy, policy.Valid →
        evaluateEvent exampleEvents event policy = policy.decide parsed.traffic := by
  obtain ⟨⟨event, parsed⟩, hparse⟩ := blockedPacket_parsed
  exact ⟨event, parsed, hparse, parsed_event_accepted_iff hparse⟩

end SiemDashboard.PfsenseFilterlog
