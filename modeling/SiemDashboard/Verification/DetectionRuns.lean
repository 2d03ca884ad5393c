import SiemDashboard.Engines.DetectionEngine
import SiemDashboard.Lib.Checks
import SiemDashboard.Lib.Dicts
import SiemDashboard.Lib.Runs

/-!
# What the detectors do over a run

An event that is ingested leaves an alert open for its address just where one was open or a detector that it calls for
finds enough, and every alert stays backed by the events of its own source.

* **Detection** — `Fires`, `runDetector_eq_ok`, `runDetectors_hasOpen`; `ingest_opens_iff`.
* **Runs** — `Op`, `step`.
* **Backing** — `Detector.Grows`, `InBounds`, `Backed`, `step_allBacked`; `alerts_backed`.
-/

namespace SiemDashboard.DetectionEngine

open Python

/-! ## Detection -/

section Detection

variable {env : Environment} {now : Int} {sourceIp : String} {identity : SourceIdentity} {store store' : Store}
  {detector : Detector}

/-- The detector applies, is active and finds enough. -/
def Fires (env : Environment) (now : Int) (sourceIp : String) (identity : SourceIdentity) (store : Store)
    (detector : Detector) : Prop :=
  identity ∈ detector.allowedSources ∧ (getEffectiveDetectionRule env store detector).active = true ∧
    (detector.finds env (getEffectiveDetectionRule env store detector).parameter now
      (store.own sourceIp identity)).isSome = true

structure Opened (env : Environment) (now : Int) (sourceIp : String) (identity : SourceIdentity) (store : Store)
    (detector : Detector) (alert : Alert) : Prop where
  sourceIp_eq : alert.sourceIp = sourceIp
  alertType_eq : alert.alertType = detector.ruleId
  identity_eq : alert.identity = identity
  status_eq : alert.status = "open"
  createdAt_eq : alert.createdAt = now
  severity_eq : alert.severity = detector.severity
  fires : Fires env now sourceIp identity store detector

/-- A detector stores nothing but one alert, where it fires and none is open. -/
theorem runDetector_eq_ok (h : runDetector env now sourceIp identity store detector = .ok store') :
    (store' = store ∧ (Fires env now sourceIp identity store detector →
        store.hasOpen sourceIp detector.ruleId = true)) ∨
      store.hasOpen sourceIp detector.ruleId = false ∧ ∃ alert,
        Opened env now sourceIp identity store detector alert ∧
          store' = { store with alerts := store.alerts ++ [alert], nextId := store.nextId + 1 } := by
  unfold runDetector at h
  by_cases hsource : identity ∈ detector.allowedSources
  · rw [if_neg (not_not.mpr hsource)] at h
    dsimp only at h
    cases hactive : (getEffectiveDetectionRule env store detector).active with
    | false =>
      rw [hactive, Bool.not_false, if_pos rfl] at h
      refine Or.inl ⟨(Except.ok.inj h).symm, fun hfires => ?_⟩
      rw [hfires.2.1] at hactive
      cases hactive
    | true =>
      rw [hactive, Bool.not_true, if_neg Bool.false_ne_true] at h
      unfold Detector.generate at h
      split at h
      · next hnone =>
        refine Or.inl ⟨(Except.ok.inj h).symm, fun hfires => ?_⟩
        have hsome := hfires.2.2
        rw [hnone] at hsome
        cases hsome
      · next found hfound =>
        obtain ⟨location, -, hstore⟩ := Checks.map_eq_ok.mp h
        have hfires : Fires env now sourceIp identity store detector :=
          ⟨hsource, hactive, by rw [hfound]; rfl⟩
        cases hopen : store.hasOpen sourceIp detector.ruleId with
        | true =>
          rw [hopen, if_pos rfl] at hstore
          exact Or.inl ⟨hstore.symm, fun _ => rfl⟩
        | false =>
          rw [hopen, if_neg Bool.false_ne_true] at hstore
          exact Or.inr ⟨rfl, _, ⟨rfl, rfl, rfl, rfl, rfl, rfl, hfires⟩, hstore.symm⟩
  · rw [if_pos hsource] at h
    exact Or.inl ⟨(Except.ok.inj h).symm, fun hfires => absurd hfires.1 hsource⟩

theorem hasOpen_append (alerts : List Alert) (alert : Alert) (nextId : Nat) (ip alertType : String) :
    ({ store with alerts := alerts ++ [alert], nextId := nextId } : Store).hasOpen ip alertType =
      (({ store with alerts := alerts } : Store).hasOpen ip alertType ||
        (alert.sourceIp = ip && alert.alertType = alertType && alert.status = "open")) := by
  unfold Store.hasOpen
  dsimp only
  rw [List.any_append, List.any_cons, List.any_nil, Bool.or_false]

/-- What the detectors leave alone. -/
structure SameEvents (store store' : Store) : Prop where
  events : store'.events = store.events
  configs : store'.configs = store.configs

theorem SameEvents.fires (h : SameEvents store store') :
    Fires env now sourceIp identity store' detector ↔ Fires env now sourceIp identity store detector := by
  have hconfig : getEffectiveDetectionRule env store' detector = getEffectiveDetectionRule env store detector := by
    unfold getEffectiveDetectionRule
    rw [h.configs]
  unfold Fires
  rw [hconfig]
  unfold Store.own
  rw [h.events]

theorem runDetector_same (h : runDetector env now sourceIp identity store detector = .ok store') :
    SameEvents store store' := by
  rcases runDetector_eq_ok h with ⟨rfl, -⟩ | ⟨-, alert, -, rfl⟩
  · exact ⟨rfl, rfl⟩
  · exact ⟨rfl, rfl⟩

theorem runDetector_hasOpen (h : runDetector env now sourceIp identity store detector = .ok store')
    (ip alertType : String) : store'.hasOpen ip alertType = true ↔ store.hasOpen ip alertType = true ∨
      ip = sourceIp ∧ alertType = detector.ruleId ∧ Fires env now sourceIp identity store detector := by
  rcases runDetector_eq_ok h with ⟨rfl, hsilent⟩ | ⟨-, alert, hopened, rfl⟩
  · constructor
    · intro hopen
      exact Or.inl hopen
    · rintro (hopen | ⟨rfl, rfl, hfires⟩)
      · exact hopen
      · exact hsilent hfires
  · rw [hasOpen_append, Bool.or_eq_true, hopened.sourceIp_eq, hopened.alertType_eq, hopened.status_eq]
    refine or_congr Iff.rfl ?_
    simp only [Bool.and_eq_true, decide_eq_true_eq, and_true]
    constructor
    · rintro ⟨rfl, rfl⟩
      exact ⟨rfl, rfl, hopened.fires⟩
    · rintro ⟨rfl, rfl, -⟩
      exact ⟨rfl, rfl⟩

/-- The detectors one after the other. -/
theorem runDetectors_hasOpen {listed : List Detector}
    (h : listed.foldlM (runDetector env now sourceIp identity) store = .ok store') (ip alertType : String) :
    store'.hasOpen ip alertType = true ↔ store.hasOpen ip alertType = true ∨
      ip = sourceIp ∧ ∃ detector ∈ listed, alertType = detector.ruleId ∧
        Fires env now sourceIp identity store detector := by
  induction listed generalizing store with
  | nil =>
    rw [List.foldlM_nil] at h
    rw [← Except.ok.inj h]
    simp
  | cons detector listed ih =>
    rw [List.foldlM_cons] at h
    obtain ⟨next, hnext, hrest⟩ := Checks.bind_eq_ok.mp h
    have hsame := runDetector_same hnext
    rw [ih hrest, runDetector_hasOpen hnext, or_assoc]
    refine or_congr Iff.rfl ?_
    simp only [hsame.fires]
    constructor
    · rintro (⟨hip, htype, hfires⟩ | ⟨hip, other, hmem, htype, hfires⟩)
      · exact ⟨hip, detector, List.mem_cons_self, htype, hfires⟩
      · exact ⟨hip, other, List.mem_cons_of_mem _ hmem, htype, hfires⟩
    · rintro ⟨hip, other, hmem, htype, hfires⟩
      rcases List.mem_cons.mp hmem with rfl | hmem
      · exact Or.inl ⟨hip, htype, hfires⟩
      · exact Or.inr ⟨hip, other, hmem, htype, hfires⟩

end Detection

/-- Nothing is known of any address or payload. -/
def quietEnvironment : Environment where
  reputation _ := ⟨0, "unknown", "local", "No reputation data"⟩
  location _ := .ok ⟨none, none, none, none⟩
  jsonText _ := ""
  loads _ := none
  readable := true

/-- A scanner at the honeypot. -/
def scannerEvent : Event where
  eventType := "scanner_detected"
  sourceIp := "203.0.113.9"
  identity := honeypot
  createdAt := 0
  rawPayload := .obj []

/-- The tables before anything has happened. -/
def emptyStore : Store := ⟨[], [], 1, fun _ => none⟩

/-- The tables after the scanner. -/
def scannedStore : Store where
  events := [scannerEvent]
  alerts := [scannerDetected.alert quietEnvironment 0 "203.0.113.9" honeypot 1 1 ⟨none, none, none, none⟩]
  nextId := 2
  configs _ := none

/-- The types of the alerts of the detectors. -/
def ruleIds : List String := detectors.map Detector.ruleId

/-- What happens to the tables. -/
inductive Op where
  | ingest (env : Environment) (event : Event)
  /-- Other code opens an alert of its own. -/
  | otherAlert (alert : Alert)
  /-- The status of an alert is changed. -/
  | setStatus (id : Nat) (status : String)
  /-- The configuration of a rule is changed. -/
  | configure (ruleId : String) (row : Option ConfigRow)

def Alert.withStatus (id : Nat) (status : String) (alert : Alert) : Alert :=
  if alert.id = id then { alert with status := status } else alert

/-- One step; what raises is rolled back. -/
def step (store : Store) : Op → Store
  | .ingest env event =>
    match ingestNormalizedEvent env event store with
    | .ok store' => store'
    | .error _ => store
  | .otherAlert alert =>
    if alert.alertType ∈ ruleIds then store
    else { store with alerts := store.alerts ++ [{ alert with id := store.nextId }], nextId := store.nextId + 1 }
  | .setStatus id status => { store with alerts := store.alerts.map (Alert.withStatus id status) }
  | .configure ruleId row => { store with configs := Function.update store.configs ruleId row }

/-! ## Backing -/

section Growth

/-- What a detector has found enough for, it finds enough for where there are more events. -/
def Detector.Grows (detector : Detector) : Prop :=
  ∀ env parameters now events more, (detector.finds env parameters now events).isSome = true →
    (detector.finds env parameters now (events ++ more)).isSome = true

theorem reached_mono {parameters : Parameters} {n m : Nat} (hle : n ≤ m) (h : (reached parameters n).isSome = true) :
    (reached parameters m).isSome = true := by
  unfold reached at h ⊢
  split at h
  · next henough =>
    rw [if_pos ⟨by omega, by omega⟩]
    rfl
  · cases h

theorem since_append (start : Int) (types : List String) (events more : List Event) :
    since start types (events ++ more) = since start types events ++ since start types more :=
  List.filter_append events more

theorem countDistinct_append (key : Json → Option String) (events more : List Event) :
    countDistinct key events ≤ countDistinct key (events ++ more) := by
  unfold countDistinct
  refine ((List.nodup_dedup _).subperm fun value hvalue => ?_).length_le
  rw [List.mem_dedup] at hvalue ⊢
  rw [List.filterMap_append]
  exact List.mem_append_left _ hvalue

theorem countAll_append (env : Environment) (events more : List Event) :
    countAll env events ≤ countAll env (events ++ more) := by
  unfold countAll
  rw [List.length_append]
  omega

theorem thresholdFinds_grows {types : List String} {count : Environment → List Event → Nat}
    (hcount : ∀ env events more, count env events ≤ count env (events ++ more)) (env : Environment)
    (parameters : Parameters) (now : Int) (events more : List Event)
    (h : (thresholdFinds types count env parameters now events).isSome = true) :
    (thresholdFinds types count env parameters now (events ++ more)).isSome = true := by
  unfold thresholdFinds at h ⊢
  rw [since_append]
  exact reached_mono (hcount env _ _) h

theorem sprayFinds_grows (env : Environment) (parameters : Parameters) (now : Int) (events more : List Event)
    (h : (sprayFinds env parameters now events).isSome = true) :
    (sprayFinds env parameters now (events ++ more)).isSome = true := by
  unfold sprayFinds at h ⊢
  dsimp only at h ⊢
  rw [List.findSome?_isSome_iff] at h ⊢
  obtain ⟨success, hsuccess, henough⟩ := h
  refine ⟨success, ?_, ?_⟩
  · rw [since_append]
    exact List.mem_append_left _ hsuccess
  · rw [since_append, List.filter_append]
    exact reached_mono (countDistinct_append _ _ _) henough

theorem detectors_grow {detector : Detector} (h : detector ∈ detectors) : detector.Grows := by
  have hdistinct : ∀ key : Environment → Json → Option String, ∀ env events more,
      countDistinct (key env) events ≤ countDistinct (key env) (events ++ more) := fun key env =>
    countDistinct_append (key env)
  unfold detectors at h
  simp only [List.mem_cons, List.not_mem_nil, or_false] at h
  rcases h with rfl | rfl | rfl | rfl | rfl | rfl | rfl | rfl | rfl | rfl | rfl | rfl
  · exact thresholdFinds_grows countAll_append
  · exact thresholdFinds_grows (hdistinct destinationPort)
  · exact thresholdFinds_grows (hdistinct extractedUsername)
  · exact thresholdFinds_grows countAll_append
  · exact thresholdFinds_grows countAll_append
  · exact thresholdFinds_grows countAll_append
  · exact thresholdFinds_grows countAll_append
  · exact sprayFinds_grows
  · exact thresholdFinds_grows (hdistinct fun env => normalizedField env "path")
  · exact thresholdFinds_grows (hdistinct fun env => normalizedField env "path")
  · exact thresholdFinds_grows countAll_append
  · exact thresholdFinds_grows (hdistinct fun env => normalizedField env "username")

theorem ite_subset {c : Prop} [Decidable c] {these those listed : List Detector} (hthese : these ⊆ listed)
    (hthose : those ⊆ listed) : (if c then these else those) ⊆ listed := by
  split
  · exact hthese
  · exact hthose

/-- What is called for is one of the detectors. -/
theorem detectorCandidates_subset (eventType : String) : detectorCandidates eventType ⊆ detectors := by
  unfold detectorCandidates
  iterate 11
    refine ite_subset ?_ ?_
    · simp only [detectors, List.cons_subset, List.nil_subset, List.mem_cons, true_or, or_true, and_self]
  exact List.nil_subset detectors

end Growth

section Bounds

/-- The parameters of a rule are within their bounds. -/
def InBounds (detector : Detector) (parameters : Parameters) : Prop :=
  ∀ key ∈ detector.defaults.map Prod.fst,
    (parameterBounds key).1 ≤ parameters key ∧ parameters key ≤ (parameterBounds key).2

/-- The entries are within their bounds. -/
def Bounded (entries : List (String × Int)) : Prop :=
  ∀ entry ∈ entries, (parameterBounds entry.1).1 ≤ entry.2 ∧ entry.2 ≤ (parameterBounds entry.1).2

theorem lookup_of_mem_keys {entries : List (String × Int)} {key : String} (h : key ∈ entries.map Prod.fst) :
    ∃ n, entries.lookup key = some n := by
  cases hlookup : entries.lookup key with
  | some n => exact ⟨n, rfl⟩
  | none =>
    obtain ⟨entry, hmem, rfl⟩ := List.mem_map.mp h
    have hne := List.lookup_eq_none_iff.mp hlookup entry hmem
    simp at hne

theorem Bounded.inBounds {detector : Detector} {config : RuleConfig} (h : Bounded config.parameters)
    (hkeys : config.parameters.map Prod.fst = detector.defaults.map Prod.fst) :
    InBounds detector config.parameter := by
  intro key hkey
  rw [← hkeys] at hkey
  obtain ⟨n, hlookup⟩ := lookup_of_mem_keys hkey
  unfold RuleConfig.parameter
  rw [hlookup]
  exact h (key, n) (Dicts.mem_of_lookup hlookup)

theorem validateParameter_bounds {detector : Detector} {entry : String × Json} {given : String × Int}
    (h : validateParameter detector entry = .ok given) :
    (parameterBounds given.1).1 ≤ given.2 ∧ given.2 ≤ (parameterBounds given.1).2 := by
  unfold validateParameter at h
  split at h
  · cases h
  · split at h
    · split at h
      · next hwithin =>
        rw [← Except.ok.inj h]
        exact hwithin
      · cases h
    · cases h

theorem validateDetectionRuleConfig_bounded {env : Environment} {detector : Detector} {row : ConfigRow}
    {given : RuleConfig} (h : validateDetectionRuleConfig env detector row = .ok given) : Bounded given.parameters := by
  unfold validateDetectionRuleConfig at h
  obtain ⟨fields, -, hrest⟩ := Checks.bind_eq_ok.mp h
  split at hrest
  · obtain ⟨entries, hentries, hgiven⟩ := Checks.map_eq_ok.mp hrest
    rw [← hgiven]
    intro entry hentry
    obtain ⟨field, -, hfield⟩ := Checks.exists_of_mem_mapM hentries hentry
    exact validateParameter_bounds hfield
  · cases hrest

theorem detectors_defaults_bounded {detector : Detector} (h : detector ∈ detectors) : Bounded detector.defaults := by
  unfold detectors at h
  simp only [List.mem_cons, List.not_mem_nil, or_false] at h
  unfold Bounded
  rcases h with rfl | rfl | rfl | rfl | rfl | rfl | rfl | rfl | rfl | rfl | rfl | rfl <;> decide

/-- Whatever is configured, a rule runs within the bounds. -/
theorem getEffectiveDetectionRule_inBounds {env : Environment} {store : Store} {detector : Detector}
    (h : detector ∈ detectors) : InBounds detector (getEffectiveDetectionRule env store detector).parameter := by
  have hdefaults := detectors_defaults_bounded h
  unfold getEffectiveDetectionRule
  split
  · exact Bounded.inBounds hdefaults rfl
  · split
    · exact Bounded.inBounds hdefaults rfl
    · next row hrow =>
      split
      · exact Bounded.inBounds hdefaults rfl
      · next given hgiven =>
        refine Bounded.inBounds ?_ (by rw [List.map_map]; rfl)
        intro entry hentry
        obtain ⟨default, hdefault, rfl⟩ := List.mem_map.mp hentry
        dsimp only
        cases hlookup : given.parameters.lookup default.1 with
        | none => exact hdefaults default hdefault
        | some n => exact validateDetectionRuleConfig_bounded hgiven (default.1, n) (Dicts.mem_of_lookup hlookup)

end Bounds

section Backing

/-- An alert of a rule: an event that was ingested when the alert was opened has made its detector find enough among
    the events of the source, within the bounds of its parameters, and they are all still there. -/
def Backed (ops : List Op) (store : Store) (alert : Alert) : Prop :=
  ∃ detector ∈ detectors, ∃ env event, Op.ingest env event ∈ ops ∧ detector ∈ detectorCandidates event.eventType ∧
    alert.alertType = detector.ruleId ∧ alert.severity = detector.severity ∧
    alert.sourceIp = event.sourceIp ∧ alert.identity = event.identity ∧ alert.createdAt = event.createdAt ∧
    alert.identity ∈ detector.allowedSources ∧ ∃ parameters, InBounds detector parameters ∧
      (detector.finds env parameters alert.createdAt (store.own alert.sourceIp alert.identity)).isSome = true

/-- Every alert of a rule is backed. -/
def AllBacked (ops : List Op) (store : Store) : Prop :=
  ∀ alert ∈ store.alerts, alert.alertType ∈ ruleIds → Backed ops store alert

variable {ops : List Op} {store store' : Store}

/-- Events that are added take nothing away. -/
theorem Backed.of_append {alert : Alert} {more : List Event} (hevents : store'.events = store.events ++ more)
    (h : Backed ops store alert) : Backed ops store' alert := by
  obtain ⟨detector, hmem, env, event, hop, hcalled, htype, hseverity, hip, hidentity, hat, hallowed, parameters, hbounds,
    hfinds⟩ := h
  refine ⟨detector, hmem, env, event, hop, hcalled, htype, hseverity, hip, hidentity, hat, hallowed, parameters, hbounds,
    ?_⟩
  unfold Store.own at hfinds ⊢
  rw [hevents, List.filter_append]
  exact detectors_grow hmem env parameters _ _ _ hfinds

theorem AllBacked.of_append {more : List Event} (hevents : store'.events = store.events ++ more)
    (halerts : store'.alerts = store.alerts) (h : AllBacked ops store) : AllBacked ops store' := by
  intro alert hmem htype
  rw [halerts] at hmem
  exact (h alert hmem htype).of_append hevents

/-- Only the status changes. -/
theorem Backed.withStatus {alert : Alert} (id : Nat) (status : String) (h : Backed ops store alert) :
    Backed ops store (alert.withStatus id status) := by
  unfold Alert.withStatus
  split
  · exact h
  · exact h

theorem withStatus_alertType (id : Nat) (status : String) (alert : Alert) :
    (alert.withStatus id status).alertType = alert.alertType := by
  unfold Alert.withStatus
  split <;> rfl

/-- What a detector opens is backed. -/
theorem runDetector_allBacked {env : Environment} {event : Event} {detector : Detector}
    (hop : Op.ingest env event ∈ ops) (hcalled : detector ∈ detectorCandidates event.eventType)
    (hstore : runDetector env event.createdAt event.sourceIp event.identity store detector = .ok store')
    (h : AllBacked ops store) : AllBacked ops store' := by
  have hmem := detectorCandidates_subset _ hcalled
  rcases runDetector_eq_ok hstore with ⟨rfl, -⟩ | ⟨-, alert, hopened, rfl⟩
  · exact h
  · intro other hother htype
    rcases List.mem_append.mp hother with hold | hnew
    · exact (h other hold htype).of_append (List.append_nil _).symm
    · rw [List.mem_singleton.mp hnew]
      have hfinds := hopened.fires.2.2
      rw [← hopened.sourceIp_eq, ← hopened.identity_eq, ← hopened.createdAt_eq] at hfinds
      exact ⟨detector, hmem, env, event, hop, hcalled, hopened.alertType_eq, hopened.severity_eq, hopened.sourceIp_eq,
        hopened.identity_eq, hopened.createdAt_eq, hopened.identity_eq ▸ hopened.fires.1, _,
        getEffectiveDetectionRule_inBounds hmem, hfinds⟩

theorem runDetectors_allBacked {env : Environment} {event : Event} {listed : List Detector}
    (hop : Op.ingest env event ∈ ops) (hcalled : ∀ detector ∈ listed, detector ∈ detectorCandidates event.eventType)
    (hstore : listed.foldlM (runDetector env event.createdAt event.sourceIp event.identity) store = .ok store')
    (h : AllBacked ops store) : AllBacked ops store' := by
  induction listed generalizing store with
  | nil =>
    rw [List.foldlM_nil] at hstore
    rw [← Except.ok.inj hstore]
    exact h
  | cons detector listed ih =>
    rw [List.foldlM_cons] at hstore
    obtain ⟨next, hnext, hrest⟩ := Checks.bind_eq_ok.mp hstore
    have hfirst := runDetector_allBacked hop (hcalled detector List.mem_cons_self) hnext h
    exact ih (fun other hother => hcalled other (List.mem_cons_of_mem _ hother)) hrest hfirst

theorem step_allBacked {op : Op} (hop : op ∈ ops) (h : AllBacked ops store) : AllBacked ops (step store op) := by
  cases op with
  | ingest env event =>
    simp only [step]
    split
    · next store' hstore =>
      have hinserted : AllBacked ops (store.insertEvent event) := h.of_append rfl rfl
      exact runDetectors_allBacked hop (fun _ hcalled => hcalled) hstore hinserted
    · exact h
  | otherAlert alert =>
    simp only [step]
    split
    · exact h
    · next hother =>
      intro other hmem htype
      rcases List.mem_append.mp hmem with hold | hnew
      · exact (h other hold htype).of_append (List.append_nil _).symm
      · rw [List.mem_singleton.mp hnew] at htype
        exact absurd htype hother
  | setStatus id status =>
    intro alert hmem htype
    obtain ⟨old, hold, rfl⟩ := List.mem_map.mp hmem
    rw [withStatus_alertType] at htype
    have hbacked := (h old hold htype).withStatus id status
    exact hbacked.of_append (List.append_nil _).symm
  | configure ruleId row =>
    intro alert hmem htype
    exact (h alert hmem htype).of_append (List.append_nil _).symm

end Backing

/-- **Backing.**  Where there are no alerts of a rule at first, every alert of a rule that is there after whatever was
    ingested, configured and changed, in any order, is backed: its detector, called for by an event that was ingested
    from its source at its time, finds enough among the stored events of that source with parameters within their
    bounds. -/
theorem alerts_backed {store : Store} (hstart : ∀ alert ∈ store.alerts, alert.alertType ∉ ruleIds) (ops : List Op) :
    AllBacked ops (Runs.after step store ops) := by
  have hnone : AllBacked ops store := fun alert hmem htype => absurd htype (hstart alert hmem)
  have hok := @Runs.along_of_forall_mem _ _ step (fun op => op ∈ ops) ops (fun _ hop => hop) store
  exact @Runs.invariant _ _ step (AllBacked ops) (fun _ op => op ∈ ops) (fun _ _ h hop => step_allBacked hop h) _ hnone
    _ hok

/-- A scanner that comes twice, its alert resolved in between. -/
def scannerOps : List Op :=
  [.ingest quietEnvironment scannerEvent, .setStatus 1 "resolved", .ingest quietEnvironment scannerEvent]

/-- So are the alerts of the scanner. -/
theorem scanner_backed : AllBacked scannerOps (Runs.after step emptyStore scannerOps) :=
  @alerts_backed emptyStore (fun _ hmem => absurd hmem List.not_mem_nil) scannerOps

end SiemDashboard.DetectionEngine
