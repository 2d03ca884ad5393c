import SiemDashboard.Routes.PfsenseIngest
import SiemDashboard.Verification.PfsenseForwarding
import SiemDashboard.Verification.PfsenseListener
import SiemDashboard.Verification.PfsensePolicy

/-!
# From the firewall to the store

The listener, the ingest route and the stored policy together.  Datagrams and changes of the policy come in any order,
and requests are answered or lost.

* **Steps** — `FirewallOp`, `Firewall`, `Firewall.step`; `patches`, `table_after`.
* **Answers** — `addPfsenseEvent_parsed`: what the route answers to an event of the parser.
* **Outcomes** — `Reaches`, `landing`, `outcome_reaches`; `reaches_of_forwarded`.
* **Results** — `outcome_over_run`, `blocked_traffic_kept`; `blockedDatagram`.
-/

namespace SiemDashboard.PfsenseFilterlog

open Python PfsenseListener

/-! ## Steps -/

/-- What happens to the system. -/
inductive FirewallOp where
  /-- The listener's socket gives something, and a request that it makes ends so. -/
  | arrival (received : Received) (shutdown : Bool) (link : Link)
  /-- The policy is changed. -/
  | patch (request : PatchRequest)

/-- The listener, and the table of the policy. -/
structure Firewall where
  listener : Listener
  table : PolicyTable

section

variable (lib : EventLibrary) (loads : String → Option Json) (config : PfSenseListenerConfig)

def Firewall.step (firewall : Firewall) : FirewallOp → Firewall
  | .arrival received shutdown link =>
    { firewall with
      listener := receive lib config firewall.listener
        ⟨received, shutdown, link.send lib loads firewall.table⟩ }
  | .patch request => { firewall with table := patched loads firewall.table request }

/-- The system after some steps. -/
def Firewall.run (table : PolicyTable) (ops : List FirewallOp) : Firewall :=
  Runs.after (Firewall.step lib loads config) ⟨.start config, table⟩ ops

/-- The outcome of a datagram that is processed now. -/
def Firewall.outcome (firewall : Firewall) (datagram : Datagram) (link : Link) : Except String Outcome :=
  (processDatagram lib config (link.send lib loads firewall.table) datagram firewall.listener.stats
    firewall.listener.limiter).1

end

/-- The changes of the policy. -/
def patches : List FirewallOp → List PatchRequest
  | [] => []
  | .arrival _ _ _ :: ops => patches ops
  | .patch request :: ops => request :: patches ops

section Delivery

variable {lib : EventLibrary} {loads : String → Option Json} {config : PfSenseListenerConfig}

/-- Only changes of the policy touch it. -/
theorem table_after (firewall : Firewall) (ops : List FirewallOp) :
    (Runs.after (Firewall.step lib loads config) firewall ops).table =
      Runs.after (patched loads) firewall.table (patches ops) := by
  induction ops generalizing firewall with
  | nil => rfl
  | cons op ops ih =>
    rw [Runs.after_cons, ih]
    cases op with
    | arrival received shutdown link => rfl
    | patch request => rfl

/-! ## Answers -/

/-- The policy that a request finds. -/
def IngestConditions.policy (loads : String → Option Json) (conditions : IngestConditions) (table : PolicyTable) :
    EffectivePolicy :=
  loadEffectivePolicy loads (if conditions.readable then some table.rows else none)

theorem conditions_policy_valid (conditions : IngestConditions) (table : PolicyTable) :
    (conditions.policy loads table).Valid := by
  unfold IngestConditions.policy
  by_cases hreadable : conditions.readable = true
  · rw [if_pos hreadable]
    rcases @policyIn_cases loads table with ⟨-, hread⟩ | ⟨hinvalid, -⟩
    · rw [EffectivePolicy.valid_iff]
      exact (table_rowsRead.mpr hread).fits
    · unfold policyIn at hinvalid
      rw [hinvalid, EffectivePolicy.valid_iff]
      exact defaultEntry_fits
  · rw [if_neg hreadable, EffectivePolicy.valid_iff]
    exact defaultEntry_fits

/-- What the listener makes of an answer to an event that is delivered or not, and kept or not. -/
def delivered (conditions : IngestConditions) (deliverable retained : Bool) : Outcome :=
  if !conditions.authorized || conditions.tooLarge || !deliverable then .rejected
  else if !conditions.connects then .backendFailed
  else if !retained then .filtered
  else if conditions.ingests then .ingested
  else .backendFailed

instance (parsed : ParsedFields) : Decidable parsed.Deliverable := by
  unfold ParsedFields.Deliverable
  cases parsed.direction with
  | none => exact decidable_of_iff (parsed.interface.isSome = true) ⟨fun h => ⟨h, fun _ h => by cases h⟩, And.left⟩
  | some direction =>
    exact decidable_of_iff (parsed.interface.isSome = true ∧ direction ∈ pfsenseValidDirections)
      ⟨fun h => ⟨h.1, fun _ heq => Option.some.inj heq ▸ h.2⟩, fun h => ⟨h.1, h.2 direction rfl⟩⟩

/-- The counters beside, an outcome depends on the answer only. -/
theorem countForwarded_answer (stats : PfSenseListenerStats) (answer : IngestAnswer) :
    ∃ sent, forwardNormalizedEvent answer.sent = .ok sent ∧ (countForwarded stats sent).1 =
      match answer with
      | .unauthorized | .payloadTooLarge | .badRequest _ => .rejected
      | .filtered _ => .filtered
      | .ingested => .ingested
      | .serverError => .backendFailed := by
  cases answer with
  | unauthorized => exact ⟨_, rfl, rfl⟩
  | payloadTooLarge => exact ⟨_, rfl, rfl⟩
  | badRequest text => exact ⟨_, rfl, rfl⟩
  | filtered decision => exact ⟨_, rfl, rfl⟩
  | ingested => exact ⟨_, rfl, rfl⟩
  | serverError => exact ⟨_, rfl, rfl⟩

/-- What the route answers to an event of the parser. -/
theorem addPfsenseEvent_parsed {packet : Packet} {context : PacketContext} {event : NormalizedEvent}
    {parsed : ParsedFields} (hparse : parsePfsenseFilterlogPacket lib packet context = .ok (event, parsed))
    (conditions : IngestConditions) (table : PolicyTable) (stats : PfSenseListenerStats) :
    ∃ sent, forwardNormalizedEvent (addPfsenseEvent lib loads conditions table event.json).sent = .ok sent ∧
      (countForwarded stats sent).1 =
        delivered conditions parsed.Deliverable ((conditions.policy loads table).decide parsed.traffic).retain := by
  obtain ⟨hread, around, rfl⟩ := packet_parsed hparse
  obtain ⟨sent, hsent, hcount⟩ := countForwarded_answer stats
    (addPfsenseEvent lib loads conditions table (normalizePfsenseFilterlogEvent parsed around).json)
  refine ⟨sent, hsent, hcount.trans ?_⟩
  have hevaluate := @evaluate_normalized lib parsed around hread _ (@conditions_policy_valid loads conditions table)
  have hvalidate := @validate_normalized lib parsed around hread
  have hobj : ¬ (!(normalizePfsenseFilterlogEvent parsed around).json.isObj) = true := Bool.false_ne_true
  unfold addPfsenseEvent delivered
  by_cases hauthorized : conditions.authorized = true
  · by_cases hlarge : conditions.tooLarge = true
    · simp [hauthorized, hlarge]
    · rw [if_neg hobj]
      by_cases hdeliverable : parsed.Deliverable
      · have haccepted := (hvalidate _).mpr ⟨hdeliverable, rfl⟩
        rw [haccepted]
        dsimp only
        unfold IngestConditions.policy at hevaluate ⊢
        rw [hevaluate]
        by_cases hconnects : conditions.connects = true
        · by_cases hretain : ((loadEffectivePolicy loads (if conditions.readable then some table.rows else none)).decide
              parsed.traffic).retain = true
          · by_cases hingests : conditions.ingests = true
            · simp [hauthorized, hlarge, hdeliverable, hconnects, hretain, hingests]
            · simp [hauthorized, hlarge, hdeliverable, hconnects, hretain, hingests]
          · simp [hauthorized, hlarge, hdeliverable, hconnects, hretain]
        · simp [hauthorized, hlarge, hdeliverable, hconnects]
      · cases hrefused : validatePfsenseNormalizedEvent lib (normalizePfsenseFilterlogEvent parsed around).json with
        | ok found => exact absurd ((hvalidate found).mp hrefused).1 hdeliverable
        | error text => simp [hauthorized, hlarge, hdeliverable]
  · simp [hauthorized]

/-! ## Outcomes -/

/-- The listener takes the datagram in, and the parser makes an event of it. -/
structure Reaches (lib : EventLibrary) (config : PfSenseListenerConfig) (listener : Listener) (datagram : Datagram)
    (event : NormalizedEvent) (parsed : ParsedFields) : Prop where
  source : datagram.sourceIp ∈ config.allowedSourceIps
  allowed : (listener.limiter.allow datagram.monotonic datagram.sourceIp).1 = true
  size : (datagram.packet.byteLength : Int) ≤ config.maxPacketBytes
  parses : datagram.parse lib config = .ok (event, parsed)

/-- What becomes of an event that is sent. -/
def landing (loads : String → Option Json) (table : PolicyTable) (parsed : ParsedFields) : Link → Except String Outcome
  | .answered conditions =>
    .ok (delivered conditions parsed.Deliverable ((conditions.policy loads table).decide parsed.traffic).retain)
  | .lost (.raised text) => .error text
  | .lost .urlError | .lost .timeout => .ok .backendFailed

theorem outcome_reaches {firewall : Firewall} {datagram : Datagram} {event : NormalizedEvent} {parsed : ParsedFields}
    (h : Reaches lib config firewall.listener datagram event parsed) (link : Link) :
    firewall.outcome lib loads config datagram link = landing loads firewall.table parsed link := by
  unfold Firewall.outcome processDatagram
  rw [if_neg (not_not.mpr h.source)]
  dsimp only
  rw [h.allowed, Bool.not_true, if_neg Bool.false_ne_true, if_neg (not_lt.mpr h.size), h.parses]
  dsimp only
  cases link with
  | answered conditions =>
    obtain ⟨sent, hsent, hcount⟩ := @addPfsenseEvent_parsed lib loads _ _ _ _ h.parses conditions firewall.table
      { firewall.listener.stats with accepted := firewall.listener.stats.accepted + 1 }
    unfold Link.send landing
    dsimp only
    rw [hsent]
    exact congrArg Except.ok hcount
  | lost loss =>
    cases loss with
    | urlError => rfl
    | timeout => rfl
    | raised text => rfl

/-- What is forwarded has reached the parser. -/
theorem reaches_of_forwarded {firewall : Firewall} {datagram : Datagram} {link : Link} {outcome : Outcome}
    (h : firewall.outcome lib loads config datagram link = .ok outcome)
    (houtcome : outcome ∉ [.rejectedSource, .rateLimited, .oversized, .parseFailed]) :
    ∃ event parsed, Reaches lib config firewall.listener datagram event parsed := by
  have hother {found : Outcome} (hfound : found ∈ [Outcome.rejectedSource, .rateLimited, .oversized, .parseFailed]) :
      (Except.ok found : Except String Outcome) ≠ .ok outcome := by
    intro heq
    rw [← Except.ok.inj heq] at houtcome
    exact houtcome hfound
  unfold Firewall.outcome processDatagram at h
  by_cases hsource : datagram.sourceIp ∈ config.allowedSourceIps
  · rw [if_neg (not_not.mpr hsource)] at h
    dsimp only at h
    by_cases hallowed : (firewall.listener.limiter.allow datagram.monotonic datagram.sourceIp).1 = true
    · rw [hallowed, Bool.not_true, if_neg Bool.false_ne_true] at h
      by_cases hsize : config.maxPacketBytes < datagram.packet.byteLength
      · rw [if_pos hsize] at h
        exact absurd h (hother (by decide))
      · rw [if_neg hsize] at h
        cases hparse : datagram.parse lib config with
        | ok result => exact ⟨result.1, result.2, hsource, hallowed, not_lt.mp hsize, hparse⟩
        | error failure =>
          rw [hparse] at h
          cases failure with
          | refused failure => exact absurd h (hother (by decide))
          | raised text => cases h
    · rw [Bool.not_eq_true] at hallowed
      rw [hallowed, Bool.not_false, if_pos rfl] at h
      exact absurd h (hother (by decide))
  · rw [if_pos hsource] at h
    exact absurd h (hother (by decide))

/-- What is filtered was answered so by the policy. -/
theorem filtered_of_landing {table : PolicyTable} {parsed : ParsedFields} {link : Link}
    (h : landing loads table parsed link = .ok .filtered) : ∃ conditions, link = .answered conditions ∧
      ((conditions.policy loads table).decide parsed.traffic).retain = false := by
  cases link with
  | lost loss => cases loss <;> cases h
  | answered conditions =>
    refine ⟨conditions, rfl, ?_⟩
    have hdelivered := Except.ok.inj h
    unfold delivered at hdelivered
    rw [← Bool.not_eq_true]
    intro hretain
    rw [hretain] at hdelivered
    split at hdelivered
    · cases hdelivered
    · split at hdelivered
      · cases hdelivered
      · rw [Bool.not_true, if_neg Bool.false_ne_true] at hdelivered
        split at hdelivered
        · cases hdelivered
        · cases hdelivered

theorem retain_block {policy : EffectivePolicy} {traffic : Traffic} (haction : traffic.action = "block")
    (henabled : (policy.entries .blockEvents).enabled = true) : (policy.decide traffic).retain = true := by
  unfold EffectivePolicy.decide EffectivePolicy.decideOn
  rw [if_pos ⟨haction, henabled⟩]

end Delivery

/-! ## A run -/

/-- The policy is changed, and then a packet about blocked traffic arrives. -/
def dnsRequest : PatchRequest := ⟨"dns_traffic", .obj [("enabled", .bool true)]⟩

def soundConditions : IngestConditions := ⟨true, false, true, true, true⟩

def blockedDatagram : Datagram := ⟨blockedPacket, "192.0.2.1", 0, ⟨0, some 0⟩, none⟩

def noPolicy : PolicyTable := fun _ => none

theorem blockedDatagram_parsed : ∃ event parsed,
    blockedDatagram.parse exampleEvents smallLimits = .ok (event, parsed) ∧ parsed.action = "block" := by
  have hparse : (blockedDatagram.parse exampleEvents smallLimits).toOption.any
      (fun result => result.2.action = "block") = true := by decide +kernel
  obtain ⟨result, hresult, haction⟩ := (Option.any_eq_true _ _).mp hparse
  exact ⟨result.1, result.2, Checks.toOption_eq_some.mp hresult, of_decide_eq_true haction⟩

/-! ## Results -/

/-- **Outcomes.**  After any steps, what becomes of an event that a datagram gives rise to: the listener sees it
    rejected where the route refuses the request or the event, filtered where the policy that the changes have left
    does not keep the traffic that was read, and ingested where it is kept and stored. -/
theorem outcome_over_run {lib : EventLibrary} {loads : String → Option Json} {config : PfSenseListenerConfig}
    {table : PolicyTable} {ops : List FirewallOp} {datagram : Datagram} {event : NormalizedEvent} {parsed : ParsedFields}
    (hreaches : Reaches lib config (Firewall.run lib loads config table ops).listener datagram event parsed)
    (link : Link) :
    (Firewall.run lib loads config table ops).outcome lib loads config datagram link =
      landing loads (Runs.after (patched loads) table (patches ops)) parsed link := by
  rw [outcome_reaches hreaches]
  unfold Firewall.run
  rw [table_after]

theorem blockedDatagram_lands : ∃ event parsed, blockedDatagram.parse exampleEvents smallLimits = .ok (event, parsed) ∧
    (Firewall.run exampleEvents (fun _ => none) smallLimits noPolicy [.patch dnsRequest]).outcome exampleEvents
        (fun _ => none) smallLimits blockedDatagram (.answered soundConditions) =
      landing (fun _ => none) (Runs.after (patched fun _ => none) noPolicy [dnsRequest]) parsed
        (.answered soundConditions) := by
  obtain ⟨event, parsed, hparse, -⟩ := blockedDatagram_parsed
  have hreaches : Reaches exampleEvents smallLimits
      (Firewall.run exampleEvents (fun _ => none) smallLimits noPolicy [.patch dnsRequest]).listener blockedDatagram
      event parsed :=
    ⟨by decide, by decide +kernel, by decide, hparse⟩
  exact ⟨event, parsed, hparse, outcome_over_run hreaches (.answered soundConditions)⟩

/-- **Blocked traffic is kept.**  Unless the last accepted request for blocked traffic, or the row that was there at
    first, has turned its retention off, no datagram about blocked traffic is filtered: not by a policy that cannot be
    read, and whatever else is changed. -/
theorem blocked_traffic_kept {lib : EventLibrary} {loads : String → Option Json} {config : PfSenseListenerConfig}
    {table : PolicyTable} {ops : List FirewallOp} {datagram : Datagram} {event : NormalizedEvent} {parsed : ParsedFields}
    (hkept : ∀ entry, (lastRequested loads table (patches ops) .blockEvents).or (entryIn loads table .blockEvents) =
      some entry → entry.enabled = true)
    (hparse : datagram.parse lib config = .ok (event, parsed)) (hblock : parsed.action = "block") (link : Link) :
    (Firewall.run lib loads config table ops).outcome lib loads config datagram link ≠ .ok .filtered := by
  intro hfiltered
  obtain ⟨event', parsed', hreaches⟩ := reaches_of_forwarded hfiltered (by decide)
  have hsame : parsed' = parsed := by
    have hpair := Except.ok.inj (hreaches.parses.symm.trans hparse)
    exact congrArg Prod.snd hpair
  rw [outcome_over_run hreaches, hsame] at hfiltered
  obtain ⟨conditions, -, hdropped⟩ := filtered_of_landing hfiltered
  have hdefault : (defaultEntry .blockEvents).enabled = true := rfl
  have henabled : ((conditions.policy loads (Runs.after (patched loads) table (patches ops))).entries
      .blockEvents).enabled = true := by
    unfold IngestConditions.policy
    by_cases hreadable : conditions.readable = true
    · rw [if_pos hreadable]
      rcases @policyIn_cases loads (Runs.after (patched loads) table (patches ops)) with ⟨-, hread⟩ | ⟨hinvalid, -⟩
      · have hentry := hread .blockEvents
        rw [entryIn_after] at hentry
        exact hkept _ hentry
      · unfold policyIn at hinvalid
        rw [hinvalid]
        exact hdefault
    · rw [if_neg hreadable]
      exact hdefault
  rw [retain_block hblock henabled] at hdropped
  cases hdropped

theorem blockedDatagram_kept :
    (Firewall.run exampleEvents (fun _ => none) smallLimits noPolicy [.patch dnsRequest]).outcome exampleEvents
        (fun _ => none) smallLimits blockedDatagram (.answered soundConditions) ≠ .ok .filtered := by
  obtain ⟨event, parsed, hparse, hblock⟩ := blockedDatagram_parsed
  have hentry : (lastRequested (fun _ => none) noPolicy (patches [.patch dnsRequest]) .blockEvents).or
      (entryIn (fun _ => none) noPolicy .blockEvents) = some (defaultEntry .blockEvents) := by decide +kernel
  refine blocked_traffic_kept (fun entry hsome => ?_) hparse hblock (.answered soundConditions)
  rw [← Option.some.inj (hentry.symm.trans hsome)]
  rfl

end SiemDashboard.PfsenseFilterlog
