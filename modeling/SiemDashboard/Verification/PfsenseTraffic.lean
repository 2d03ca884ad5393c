import SiemDashboard.Engines.PfsenseIngestFilter
import SiemDashboard.Lib.Checks
import SiemDashboard.Verification.SyslogTimestamps

/-!
# What the filter of the firewall decides about

The validator reads an event with its texts cleaned and numbers that may be texts; the filter reads the same event as
it stands.  They agree on the traffic that an event is about just where it is spelled plainly enough.

* **Texts** — `sanitize_of_plain`, `sanitize_sanitize`, `strip_sanitize`, `sanitize_lower`.
* **Validation** — `RawAccepted`, `rawAccepted_of_eq_true`; `validate_eq_ok`.
* **Traffic** — `Traffic`, `trafficOf`; `EffectivePolicy.Valid`, `EffectivePolicy.decide`: what a policy says of it;
  `keeping`: the policies that keep one category.
* **Readings** — `word_of_rawReading`, `port_of_equalsInt`: a word or a port that the filter reads is there.
* **Result** — `PlainlySpelled`, `evaluateEvent_iff_plain`; `blockedEvent`.
-/

namespace SiemDashboard.PfsenseFilterlog

open Python

/-! ## Texts -/

/-- A character that cleaning leaves where it is. -/
def PlainChar (c : Char) : Prop := isSpace c = false ∧ isUnsafeControl c = false

theorem sanitizeChars_of_plain {cs : List Char} (h : ∀ c ∈ cs, PlainChar c) : sanitizeChars cs = cs := by
  have hfilter : (cs.filter fun c => !isUnsafeControl c) = cs :=
    List.filter_eq_self.mpr fun c hc => by rw [(h c hc).2]; rfl
  rw [sanitizeChars, hfilter]
  exact stripChars_of_noSpace fun c hc => (h c hc).1

theorem sanitize_of_plain {s : String} (h : ∀ c ∈ s.toList, PlainChar c) : sanitizePfsenseText s = s := by
  rw [sanitizePfsenseText, sanitizeChars_of_plain h, String.ofList_toList]

theorem sanitizeChars_sanitizeChars (cs : List Char) : sanitizeChars (sanitizeChars cs) = sanitizeChars cs := by
  have hsafe : ((sanitizeChars cs).filter fun c => !isUnsafeControl c) = sanitizeChars cs := by
    refine List.filter_eq_self.mpr fun c hc => ?_
    have hmem := (stripChars_isInfix (cs.filter fun c => !isUnsafeControl c)).subset hc
    exact (List.mem_filter.mp hmem).2
  rw [sanitizeChars, hsafe]
  exact stripChars_idem _

@[simp] theorem sanitize_sanitize (s : String) :
    sanitizePfsenseText (sanitizePfsenseText s) = sanitizePfsenseText s := by
  rw [sanitizePfsenseText, sanitizePfsenseText, String.toList_ofList, sanitizeChars_sanitizeChars]

@[simp] theorem strip_sanitize (s : String) : strip (sanitizePfsenseText s) = sanitizePfsenseText s := by
  rw [sanitizePfsenseText, strip, String.toList_ofList]
  exact congrArg String.ofList (stripChars_idem _)

theorem isUnsafeControl_lowerChar (c : Char) : isUnsafeControl (lowerChar c) = isUnsafeControl c := by
  have hsafe (n : Nat) (h : n = 0x212A ∨ 65 ≤ n ∧ n ≤ 122) :
      (n ≤ 8 || n == 11 || n == 12 || (14 ≤ n && n ≤ 31) || n == 127) = false := by
    simp only [Bool.or_eq_false_iff, Bool.and_eq_false_iff, decide_eq_false_iff_not, beq_eq_false_iff_ne]
    omega
  by_cases hletter : c.toNat = 0x212A ∨ 65 ≤ c.toNat ∧ c.toNat ≤ 90
  · have hbefore : isUnsafeControl c = false := hsafe c.toNat (by omega)
    have hafter : isUnsafeControl (lowerChar c) = false := by
      refine hsafe (lowerChar c).toNat ?_
      rw [lowerChar_toNat]
      split_ifs <;> omega
    rw [hbefore, hafter]
  · have hsame : lowerChar c = c := by
      rw [← Char.toNat_inj, lowerChar_toNat]
      split_ifs <;> omega
    rw [hsame]

/-- Cleaning and lower case do not get in each other's way. -/
theorem sanitize_lower (s : String) : sanitizePfsenseText (lower s) = lower (sanitizePfsenseText s) := by
  have hcontrol : isUnsafeControl ∘ lowerChar = isUnsafeControl := funext isUnsafeControl_lowerChar
  have hfilter : ((s.toList.map lowerChar).filter fun c => !isUnsafeControl c) =
      (s.toList.filter fun c => !isUnsafeControl c).map lowerChar := by
    rw [List.filter_map]
    have hsame : ((fun c => !isUnsafeControl c) ∘ lowerChar) = fun c => !isUnsafeControl c :=
      funext fun c => congrArg (!·) (isUnsafeControl_lowerChar c)
    rw [hsame]
  have hstrip := strip_lower (String.ofList (s.toList.filter fun c => !isUnsafeControl c))
  simp only [lower, strip, String.toList_ofList] at hstrip
  simp only [sanitizePfsenseText, sanitizeChars, lower, String.toList_ofList, hfilter, hstrip]

/-- A text is plain where it is in lower case. -/
theorem plain_of_lower {s : String} (h : ∀ c ∈ (lower s).toList, PlainChar c) : ∀ c ∈ s.toList, PlainChar c := by
  intro c hc
  have hlower : lowerChar c ∈ (lower s).toList := by
    rw [lower, String.toList_ofList]
    exact List.mem_map_of_mem hc
  have hplain := h _ hlower
  rw [PlainChar, isSpace_lowerChar, isUnsafeControl_lowerChar] at hplain
  exact hplain

/-! ## Validation -/

section

variable {lib : EventLibrary}

/-- What an accepted raw payload is like, as far as the filter looks at it. -/
structure RawAccepted (lib : EventLibrary) (raw : Json) (eventType : String) : Prop where
  action : actionEventTypeCandidates.lookup (actionOf lib raw) = some eventType
  protocol : protocolOf lib raw ∈ pfsenseValidProtocols
  ports : protocolOf lib raw ∈ portProtocols →
    ∀ name ∈ portFields, ∃ port, optionalPort lib (raw.get name) = some port

theorem portsAccepted_some {raw : Json} (h : portsAccepted lib raw = true)
    (hprotocol : protocolOf lib raw ∈ portProtocols) :
    ∀ name ∈ portFields, ∃ port, optionalPort lib (raw.get name) = some port := by
  intro name hname
  unfold portsAccepted at h
  rw [Bool.and_eq_true, Bool.and_eq_true] at h
  have hport := List.all_eq_true.mp h.1.1 name hname
  have hpresent := h.1.2
  rw [List.contains_iff_mem.mpr hprotocol, Bool.not_true, Bool.false_or] at hpresent
  have hthere := List.all_eq_true.mp hpresent name hname
  rw [Bool.not_eq_true'] at hthere
  rw [hthere, Bool.false_or] at hport
  exact Option.isSome_iff_exists.mp hport

theorem rawAccepted_of_eq_true {raw : Json} {eventType : String} (h : rawPayloadAccepted lib raw eventType = true) :
    RawAccepted lib raw eventType := by
  unfold rawPayloadAccepted at h
  simp only [Bool.and_eq_true, decide_eq_true_eq] at h
  exact ⟨h.1.1.1.1.1.1.1.1.1.2, List.contains_iff_mem.mp h.1.1.1.1.1.2, portsAccepted_some h.1.1.2⟩

/-- What an accepted event keeps of the data. -/
theorem validate_eq_ok {data : Json} {event : NormalizedEvent}
    (h : validatePfsenseNormalizedEvent lib data = .ok event) :
    event.rawPayload = data.get "raw_payload" ∧ RawAccepted lib event.rawPayload event.eventType := by
  unfold validatePfsenseNormalizedEvent at h
  dsimp only at h
  split at h
  · cases h
  · split at h
    · cases h
    · split at h
      · cases h
      · split at h
        · cases h
        · split at h
          · cases h
          · split at h
            · cases h
            · split at h
              · cases h
              · split at h
                · cases h
                · next haccepted =>
                  cases h
                  rw [Bool.not_eq_true, Bool.not_eq_false'] at haccepted
                  exact ⟨rfl, rawAccepted_of_eq_true haccepted⟩

theorem RawAccepted.action_cases {raw : Json} {eventType : String} (h : RawAccepted lib raw eventType) :
    actionOf lib raw = "block" ∨ actionOf lib raw = "pass" := by
  have hmem := Dicts.mem_of_lookup h.action
  have hnames : actionOf lib raw ∈ actionEventTypeCandidates.map Prod.fst := List.mem_map_of_mem hmem
  rcases List.mem_cons.mp hnames with hblock | hrest
  · exact Or.inl hblock
  · exact Or.inr (List.mem_singleton.mp hrest)

end

/-! ## Traffic -/

/-- The traffic that an event is about. -/
structure Traffic where
  action : String
  protocol : String
  direction : String
  destinationPort : Option Int
deriving DecidableEq, Repr

/-- The traffic of a raw payload, as the validator reads it. -/
def trafficOf (lib : EventLibrary) (raw : Json) : Traffic where
  action := actionOf lib raw
  protocol := protocolOf lib raw
  direction := directionOf lib raw
  destinationPort := optionalPort lib (raw.get "destination_port")

/-- The sensitive ports of a policy. -/
def EffectivePolicy.ports (policy : EffectivePolicy) : List Int :=
  (policy.entries .inboundSensitivePortAllows).sensitivePorts

/-- The ports of a policy are some distinct ports in order, and only one category has any. -/
structure EffectivePolicy.Valid (policy : EffectivePolicy) : Prop where
  ne_nil : policy.ports ≠ []
  length_le : policy.ports.length ≤ maxSensitivePorts
  sorted : policy.ports.Pairwise (· < ·)
  range : ∀ port ∈ policy.ports, 1 ≤ port ∧ port ≤ 65535
  others : ∀ category ≠ Category.inboundSensitivePortAllows, (policy.entries category).sensitivePorts = []

section Decisions

variable (policy : EffectivePolicy) (action protocol direction : String) (isPort : Int → Prop)

/-- What a policy says of an action, a protocol, a direction and a port: the first enabled category that they are in
    keeps them. -/
def EffectivePolicy.decideOn [DecidablePred isPort] : FilterDecision :=
  if action = "block" ∧ (policy.entries .blockEvents).enabled then ⟨true, "block_events", "blocked_traffic"⟩
  else if action = "pass" ∧ (policy.entries .allAllowEvents).enabled then
    ⟨true, "all_allow_events", "all_allowed_traffic"⟩
  else if action = "pass" ∧ protocol = "icmp" ∧ (policy.entries .icmpTraffic).enabled then
    ⟨true, "icmp_traffic", "allowed_icmp"⟩
  else if action = "pass" ∧ protocol ∈ portProtocols ∧ direction = "in" ∧ (∃ port ∈ policy.ports, isPort port) ∧
      (policy.entries .inboundSensitivePortAllows).enabled then
    ⟨true, "inbound_sensitive_port_allows", "inbound_sensitive_port"⟩
  else if action = "pass" ∧ protocol ∈ portProtocols ∧ isPort 53 ∧ (policy.entries .dnsTraffic).enabled then
    ⟨true, "dns_traffic", "allowed_port_53"⟩
  else ⟨false, "routine_allow", "no_enabled_retention_category"⟩

def Category.Contains (ports : List Int) : Category → Prop
  | .blockEvents => action = "block"
  | .allAllowEvents => action = "pass"
  | .icmpTraffic => action = "pass" ∧ protocol = "icmp"
  | .inboundSensitivePortAllows => action = "pass" ∧ protocol ∈ portProtocols ∧ direction = "in" ∧
      ∃ port ∈ ports, isPort port
  | .dnsTraffic => action = "pass" ∧ protocol ∈ portProtocols ∧ isPort 53

end Decisions

/-- What a policy says of traffic. -/
def EffectivePolicy.decide (policy : EffectivePolicy) (traffic : Traffic) : FilterDecision :=
  policy.decideOn traffic.action traffic.protocol traffic.direction fun port => traffic.destinationPort = some port

/-- The filter decides on what it reads itself. -/
theorem evaluateEvent_eq (lib : EventLibrary) (event : NormalizedEvent) (policy : EffectivePolicy) :
    evaluateEvent lib event policy =
      policy.decideOn (rawReading lib event.rawPayload "action") (rawReading lib event.rawPayload "protocol")
        (rawReading lib event.rawPayload "direction")
        fun port => equalsInt lib (event.rawPayload.get "destination_port") port = true := rfl

/-- The policy that keeps one category, with some sensitive ports. -/
def keeping (kept : Category) (ports : List Int) : EffectivePolicy where
  status := "applied"
  entries category := ⟨category = kept, if category = .inboundSensitivePortAllows then ports else []⟩

theorem keeping_valid (kept : Category) {port : Int} (hport : 1 ≤ port ∧ port ≤ 65535) :
    (keeping kept [port]).Valid where
  ne_nil := List.cons_ne_nil _ _
  length_le := by
    show 1 ≤ 64
    omega
  sorted := List.pairwise_singleton _ _
  range other hother := by
    rw [List.mem_singleton.mp hother]
    exact hport
  others category hcategory := if_neg hcategory

theorem retain_ite {c : Prop} [Decidable c] {category reason : String} :
    (if c then (⟨true, category, reason⟩ : FilterDecision)
      else ⟨false, "routine_allow", "no_enabled_retention_category"⟩).retain = true ↔ c := by
  split
  · next hc => exact iff_of_true rfl hc
  · next hc => exact iff_of_false Bool.false_ne_true hc

/-- A policy that keeps one category keeps what is in it. -/
theorem decideOn_keeping {kept : Category} {ports : List Int} {action protocol direction : String}
    {isPort : Int → Prop} [DecidablePred isPort] :
    ((keeping kept ports).decideOn action protocol direction isPort).retain = true ↔
      kept.Contains action protocol direction isPort ports := by
  cases kept <;>
    simp [EffectivePolicy.decideOn, EffectivePolicy.ports, keeping, retain_ite, Category.Contains]

/-! ## Readings -/

section Readings

variable {lib : EventLibrary} {raw : Json} {key : String}

/-- A plain word that the filter reads is what the validator reads. -/
theorem word_of_rawReading {word : String} (hne : word ≠ "") (hplain : ∀ c ∈ word.toList, PlainChar c)
    (h : rawReading lib raw key = word) : lower (clean lib (raw.get key)) = word := by
  unfold rawReading at h
  cases htruthy : (raw.get key).truthy with
  | false =>
    rw [Json.orElse, htruthy, if_neg Bool.false_ne_true] at h
    have hempty : lower (textOf lib (.str "")) = "" := rfl
    exact absurd (h.symm.trans hempty) hne
  | true =>
    rw [Json.orElse, htruthy, if_pos rfl] at h
    have hnull : (raw.get key).isNull = false := by
      cases hvalue : raw.get key with
      | null =>
        rw [hvalue] at htruthy
        cases htruthy
      | _ => rfl
    have htext : sanitizePfsenseText (textOf lib (raw.get key)) = textOf lib (raw.get key) :=
      sanitize_of_plain (plain_of_lower (by rw [h]; exact hplain))
    rw [clean, hnull, if_neg Bool.false_ne_true, htext, h]

theorem plain_word {word : String} (h : word ∈ ["block", "pass", "icmp", "tcp", "udp", "in"]) :
    word ≠ "" ∧ ∀ c ∈ word.toList, PlainChar c := by
  have hwords : (["block", "pass", "icmp", "tcp", "udp", "in"].all fun word =>
      word ≠ "" && word.toList.all fun c => !(isSpace c) && !(isUnsafeControl c)) = true := by decide +kernel
  have hword := List.all_eq_true.mp hwords word h
  rw [Bool.and_eq_true, decide_eq_true_eq] at hword
  refine ⟨hword.1, fun c hc => ?_⟩
  have hchar := List.all_eq_true.mp hword.2 c hc
  rw [Bool.and_eq_true, Bool.not_eq_true', Bool.not_eq_true'] at hchar
  exact hchar

theorem reading_word {word : String} (hword : word ∈ ["block", "pass", "icmp", "tcp", "udp", "in"])
    (h : rawReading lib raw key = word) : lower (clean lib (raw.get key)) = word :=
  word_of_rawReading (plain_word hword).1 (plain_word hword).2 h

theorem boundedInt_eq_some {bound n : Int} {text : String} (h : boundedInt lib bound text = some n) :
    Python.int lib.decimal text = some n ∧ 0 ≤ n ∧ n ≤ bound := by
  unfold boundedInt at h
  split at h
  · cases h
  · obtain ⟨hint, hbounds⟩ := Option.filter_eq_some_iff.mp h
    simp only [Bool.and_eq_true, decide_eq_true_eq] at hbounds
    exact ⟨hint, hbounds⟩

theorem plain_digit {c : Char} (hc : c.isDigit = true) : PlainChar c := by
  refine ⟨isSpace_of_isDigit hc, ?_⟩
  have hrange : 48 ≤ c.toNat ∧ c.toNat ≤ 57 := by
    simpa [Char.isDigit, UInt32.le_iff_toNat_le] using hc
  simp only [isUnsafeControl, Bool.or_eq_false_iff, Bool.and_eq_false_iff, decide_eq_false_iff_not,
    beq_eq_false_iff_ne]
  omega

theorem plain_toString (n : Int) : ∀ c ∈ (toString n).toList, PlainChar c := by
  have hdigit (m : Nat) (c : Char) (hc : c ∈ Nat.toDigits 10 m) : PlainChar c :=
    plain_digit (isDigit_of_mem_digits hc)
  cases n with
  | ofNat m =>
    intro c hc
    have hc : c ∈ (toString m).toList := hc
    rw [Nat.toString_eq_ofList_toDigits, String.toList_ofList] at hc
    exact hdigit m c hc
  | negSucc m =>
    intro c hc
    have hc : c ∈ ("-" ++ toString (m + 1)).toList := hc
    rw [String.toList_append, Nat.toString_eq_ofList_toDigits, List.mem_append] at hc
    rcases hc with hsign | hc
    · rw [List.mem_singleton.mp hsign]
      exact ⟨by decide, by decide⟩
    · rw [String.toList_ofList] at hc
      exact hdigit (m + 1) c hc

theorem toString_ne_empty (n : Int) : toString n ≠ "" := by
  cases n with
  | ofNat m =>
    intro hempty
    have hlist := congrArg String.toList (show toString m = "" from hempty)
    rw [Nat.toString_eq_ofList_toDigits, String.toList_ofList] at hlist
    exact Nat.toDigits_ne_nil hlist
  | negSucc m =>
    intro hempty
    have hlist := congrArg String.toList (show "-" ++ toString (m + 1) = "" from hempty)
    rw [String.toList_append] at hlist
    cases hlist

theorem int_text (n : Int) : Python.int lib.decimal (toString n) = some n := by
  cases n with
  | ofNat m => exact int_toString lib.decimal_digit m
  | negSucc m => exact int_toString_negSucc lib.decimal_digit m

theorem clean_int (n : Int) : clean lib (.int n) = toString n := sanitize_of_plain (plain_toString n)

/-- A number within the bound is read as itself. -/
theorem boundedInt_int {bound n : Int} (hn : 0 ≤ n ∧ n ≤ bound) :
    boundedInt lib bound (clean lib (.int n)) = some n := by
  rw [clean_int, boundedInt, if_neg (toString_ne_empty n), int_text]
  exact Option.filter_eq_some_iff.mpr ⟨rfl, by simp [hn.1, hn.2]⟩

/-- A text that begins with a letter is no integer. -/
theorem int_letters {text : String} (c : Char) (cs : List Char) (htext : stripChars text.toList = c :: cs)
    (hascii : c.toNat < 128) (hletter : (c.isDigit || c = '+' || c = '-') = false) :
    Python.int lib.decimal text = none := by
  simp only [Bool.or_eq_false_iff, decide_eq_false_iff_not] at hletter
  obtain ⟨⟨hdigit, hplus⟩, hminus⟩ := hletter
  have hnone : natOfDigits lib.decimal (c :: cs) = none := by
    rw [natOfDigits, lib.decimal_ascii c hascii hdigit]
    rfl
  unfold Python.int
  rw [htext]
  split
  · next hcs => exact absurd (List.cons.inj hcs).1 hplus
  · next hcs => exact absurd (List.cons.inj hcs).1 hminus
  · rw [hnone]
    rfl

/-- A port that the filter finds in a list is the port that the validator reads. -/
theorem port_of_equalsInt {value : Json} {n port : Int} (hport : optionalPort lib value = some port)
    (h : equalsInt lib value n = true) : n = port := by
  obtain ⟨hint, -⟩ := boundedInt_eq_some hport
  cases value with
  | int m =>
    rw [clean_int, int_text] at hint
    rw [← of_decide_eq_true h]
    exact Option.some.inj hint
  | bool b =>
    have hnone : Python.int lib.decimal (clean lib (.bool b)) = none := by
      cases b with
      | false =>
        have htext : stripChars (sanitizePfsenseText "False").toList = 'F' :: ['a', 'l', 's', 'e'] := by
          decide +kernel
        exact int_letters 'F' _ htext (by decide) (by decide)
      | true =>
        have htext : stripChars (sanitizePfsenseText "True").toList = 'T' :: ['r', 'u', 'e'] := by decide +kernel
        exact int_letters 'T' _ htext (by decide) (by decide)
    rw [hnone] at hint
    cases hint
  | float text =>
    have hnone : Python.int lib.decimal (clean lib (.float text)) = none :=
      lib.float_no_int text n (of_decide_eq_true h)
    rw [hnone] at hint
    cases hint
  | null => cases h
  | str s => cases h
  | arr items => cases h
  | obj fields => cases h

end Readings

/-! ## Agreement -/

/-- What an event is about is spelled so that the filter reads it, as far as a policy may ask for it. -/
structure PlainlySpelled (lib : EventLibrary) (raw : Json) : Prop where
  action : rawReading lib raw "action" = actionOf lib raw
  icmp : actionOf lib raw = "pass" → protocolOf lib raw = "icmp" → rawReading lib raw "protocol" = "icmp"
  inbound : actionOf lib raw = "pass" → protocolOf lib raw ∈ portProtocols → directionOf lib raw = "in" →
    ∀ port, optionalPort lib (raw.get "destination_port") = some port → 1 ≤ port →
      rawReading lib raw "protocol" ∈ portProtocols ∧ rawReading lib raw "direction" = "in" ∧
        equalsInt lib (raw.get "destination_port") port = true
  dns : actionOf lib raw = "pass" → protocolOf lib raw ∈ portProtocols →
    optionalPort lib (raw.get "destination_port") = some 53 →
      rawReading lib raw "protocol" ∈ portProtocols ∧ equalsInt lib (raw.get "destination_port") 53 = true

section Agreement

variable {lib : EventLibrary} {event : NormalizedEvent} {eventType : String}

theorem portProtocol_word {protocol : String} (h : protocol ∈ portProtocols) :
    protocol ∈ ["block", "pass", "icmp", "tcp", "udp", "in"] := by
  rcases List.mem_cons.mp h with rfl | h
  · decide
  · rw [List.mem_singleton.mp h]
    decide

/-- Where the filter reads what the validator reads, it decides as the policy says. -/
theorem evaluate_of_plain (haccepted : RawAccepted lib event.rawPayload eventType)
    (hplain : PlainlySpelled lib event.rawPayload) {policy : EffectivePolicy} (hpolicy : policy.Valid) :
    evaluateEvent lib event policy = policy.decide (trafficOf lib event.rawPayload) := by
  have hicmp : rawReading lib event.rawPayload "action" = "pass" →
      (rawReading lib event.rawPayload "protocol" = "icmp" ↔ protocolOf lib event.rawPayload = "icmp") := by
    intro hpass
    rw [hplain.action] at hpass
    exact ⟨fun h => reading_word (by decide) h, fun h => hplain.icmp hpass h⟩
  have hprotocol (h : rawReading lib event.rawPayload "protocol" ∈ portProtocols) :
      protocolOf lib event.rawPayload ∈ portProtocols := by
    rw [protocolOf, reading_word (portProtocol_word h) rfl]
    exact h
  have hport (h : protocolOf lib event.rawPayload ∈ portProtocols) :
      ∃ port, optionalPort lib (event.rawPayload.get "destination_port") = some port :=
    haccepted.ports h "destination_port" (by decide)
  have hinbound : rawReading lib event.rawPayload "action" = "pass" →
      ((rawReading lib event.rawPayload "protocol" ∈ portProtocols ∧
          rawReading lib event.rawPayload "direction" = "in" ∧
          (∃ port ∈ policy.ports, equalsInt lib (event.rawPayload.get "destination_port") port = true)) ↔
        protocolOf lib event.rawPayload ∈ portProtocols ∧ directionOf lib event.rawPayload = "in" ∧
          ∃ port ∈ policy.ports, optionalPort lib (event.rawPayload.get "destination_port") = some port) := by
    intro hpass
    rw [hplain.action] at hpass
    constructor
    · rintro ⟨hword, hdirection, port, hmem, hequals⟩
      obtain ⟨found, hfound⟩ := hport (hprotocol hword)
      refine ⟨hprotocol hword, reading_word (by decide) hdirection, port, hmem, ?_⟩
      rw [port_of_equalsInt hfound hequals, hfound]
    · rintro ⟨hword, hdirection, port, hmem, hfound⟩
      obtain ⟨hprotocol', hdirection', hequals⟩ :=
        hplain.inbound hpass hword hdirection port hfound (hpolicy.range port hmem).1
      exact ⟨hprotocol', hdirection', port, hmem, hequals⟩
  have hdns : rawReading lib event.rawPayload "action" = "pass" →
      ((rawReading lib event.rawPayload "protocol" ∈ portProtocols ∧
          equalsInt lib (event.rawPayload.get "destination_port") 53 = true) ↔
        protocolOf lib event.rawPayload ∈ portProtocols ∧
          optionalPort lib (event.rawPayload.get "destination_port") = some 53) := by
    intro hpass
    rw [hplain.action] at hpass
    constructor
    · rintro ⟨hword, hequals⟩
      obtain ⟨found, hfound⟩ := hport (hprotocol hword)
      rw [port_of_equalsInt hfound hequals]
      exact ⟨hprotocol hword, hfound⟩
    · rintro ⟨hword, hfound⟩
      exact hplain.dns hpass hword hfound
  rw [evaluateEvent_eq, EffectivePolicy.decide, trafficOf, ← hplain.action]
  unfold EffectivePolicy.decideOn
  refine if_congr Iff.rfl rfl (if_congr Iff.rfl rfl ?_)
  refine if_congr (and_congr_right fun hpass => and_congr_left' (hicmp hpass)) rfl ?_
  refine if_congr (and_congr_right fun hpass => ?_) rfl (if_congr (and_congr_right fun hpass => ?_) rfl rfl)
  · constructor
    · rintro ⟨hword, hdirection, hmem, henabled⟩
      obtain ⟨hprotocol', hdirection', hfound⟩ := (hinbound hpass).mp ⟨hword, hdirection, hmem⟩
      exact ⟨hprotocol', hdirection', hfound, henabled⟩
    · rintro ⟨hword, hdirection, hmem, henabled⟩
      obtain ⟨hprotocol', hdirection', hfound⟩ := (hinbound hpass).mpr ⟨hword, hdirection, hmem⟩
      exact ⟨hprotocol', hdirection', hfound, henabled⟩
  · constructor
    · rintro ⟨hword, hequals, henabled⟩
      obtain ⟨hprotocol', hfound⟩ := (hdns hpass).mp ⟨hword, hequals⟩
      exact ⟨hprotocol', hfound, henabled⟩
    · rintro ⟨hword, hequals, henabled⟩
      obtain ⟨hprotocol', hfound⟩ := (hdns hpass).mpr ⟨hword, hequals⟩
      exact ⟨hprotocol', hfound, henabled⟩

/-- Where the filter decides as every policy says, the event is plain. -/
theorem plain_of_evaluate (haccepted : RawAccepted lib event.rawPayload eventType)
    (h : ∀ policy : EffectivePolicy, policy.Valid →
      evaluateEvent lib event policy = policy.decide (trafficOf lib event.rawPayload)) :
    PlainlySpelled lib event.rawPayload := by
  -- each part is asked for by the policy that keeps one category only
  have hcategory (kept : Category) (port : Int) (hport : 1 ≤ port ∧ port ≤ 65535)
      (hcontains : kept.Contains (actionOf lib event.rawPayload) (protocolOf lib event.rawPayload)
        (directionOf lib event.rawPayload)
        (fun port => optionalPort lib (event.rawPayload.get "destination_port") = some port) [port]) :
      kept.Contains (rawReading lib event.rawPayload "action") (rawReading lib event.rawPayload "protocol")
        (rawReading lib event.rawPayload "direction")
        (fun port => equalsInt lib (event.rawPayload.get "destination_port") port = true) [port] := by
    have hretain : ((keeping kept [port]).decide (trafficOf lib event.rawPayload)).retain = true :=
      decideOn_keeping.mpr hcontains
    rw [← h _ (keeping_valid kept hport), evaluateEvent_eq] at hretain
    exact decideOn_keeping.mp hretain
  have hssh : (1 : Int) ≤ 22 ∧ (22 : Int) ≤ 65535 := by omega
  constructor
  · rcases haccepted.action_cases with hblock | hpass
    · rw [hblock]
      exact hcategory .blockEvents 22 hssh hblock
    · rw [hpass]
      exact hcategory .allAllowEvents 22 hssh hpass
  · intro hpass hprotocol
    exact (hcategory .icmpTraffic 22 hssh ⟨hpass, hprotocol⟩).2
  · intro hpass hprotocol hdirection port hport hpos
    have hle := (boundedInt_eq_some hport).2.2
    obtain ⟨-, hword, hdirection', found, hfound, hequals⟩ :=
      hcategory .inboundSensitivePortAllows port ⟨hpos, hle⟩
        ⟨hpass, hprotocol, hdirection, port, List.mem_singleton_self port, hport⟩
    rw [List.mem_singleton.mp hfound] at hequals
    exact ⟨hword, hdirection', hequals⟩
  · intro hpass hprotocol hport
    exact (hcategory .dnsTraffic 22 hssh ⟨hpass, hprotocol, hport⟩).2

end Agreement

/-- **Agreement.**  On an event that the validator accepts, the filter decides as every valid policy says of the
    traffic just where the event is spelled plainly. -/
theorem evaluateEvent_iff_plain {lib : EventLibrary} {data : Json} {event : NormalizedEvent}
    (haccepted : validatePfsenseNormalizedEvent lib data = .ok event) :
    (∀ policy : EffectivePolicy, policy.Valid →
        evaluateEvent lib event policy = policy.decide (trafficOf lib event.rawPayload)) ↔
      PlainlySpelled lib event.rawPayload := by
  obtain ⟨-, hraw⟩ := validate_eq_ok haccepted
  exact ⟨plain_of_evaluate hraw, fun hplain policy hpolicy => evaluate_of_plain hraw hplain hpolicy⟩

/-- A library for texts of ASCII. -/
def exampleEvents : EventLibrary where
  toLibrary := exampleLibrary
  py := ⟨fun _ => "", fun _ => "", fun _ _ => .ok none⟩
  isDigit := Char.isDigit
  isWord c := c.isAlphanum || c = '_'
  floatInt _ := none
  float_no_int _ _ h := by cases h

/-- A blocked attempt to log in, as it is sent to the route. -/
def blockedEvent : Json :=
  .obj [("event_type", .str "firewall_block"), ("severity", .str "medium"), ("source_ip", .str "192.0.2.7"),
    ("source", .str "pfsense"), ("source_type", .str "firewall"), ("event_timestamp", .null),
    ("message", .str "blocked"), ("app_name", .str "pfsense_filterlog"), ("environment", .str "prod"),
    ("raw_payload", .obj [("action", .str "block"), ("interface", .str "igb0"), ("direction", .str "in"),
      ("ip_version", .str "4"), ("protocol", .str "TCP "), ("source_ip", .str "192.0.2.7"),
      ("destination_ip", .str "192.0.2.10"), ("source_port", .int 1024), ("destination_port", .str "22")])]

theorem blockedEvent_agrees : ∃ event, validatePfsenseNormalizedEvent exampleEvents blockedEvent = .ok event ∧
    ((∀ policy : EffectivePolicy, policy.Valid → evaluateEvent exampleEvents event policy =
        policy.decide (trafficOf exampleEvents event.rawPayload)) ↔
      PlainlySpelled exampleEvents event.rawPayload) := by
  obtain ⟨event, haccepted⟩ := Checks.isOk_iff.mp
    (show (validatePfsenseNormalizedEvent exampleEvents blockedEvent).isOk = true by decide +kernel)
  exact ⟨event, haccepted, evaluateEvent_iff_plain haccepted⟩

end SiemDashboard.PfsenseFilterlog
