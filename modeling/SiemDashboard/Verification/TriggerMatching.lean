import Mathlib.Data.List.Nodup
import SiemDashboard.Engines.PlaybookEngine

/-!
# Triggers taken key by key

The evaluation of a trigger compared with its keys taken alone, and the result of matching with the
definitions whose trigger holds.  They agree unless a definition whose minimum is too large for a float is
evaluated while another one matches.

* **Keys** — `KeyHolds`, `keyHolds_iff`, `evaluateKey_eq_error`.
* **Triggers** — `TriggerHolds`, `ReachesOverflow`, `evaluateTrigger_ok`, `evaluateTrigger_error`.
* **Definitions** — `matchDefinitions_ok`, `matchDefinitions_error`.
* **Result** — `compositional_iff`; `oversizedMinimum_discards`.
-/

namespace SiemDashboard.TriggerMatching

open PlaybookEngine Python

section Triggers

variable {reader : TriggerReader} {alert : AlertSnapshot}

/-! ## Keys -/

def KeyHolds (reader : TriggerReader) (alert : AlertSnapshot) (kv : String × Json) : Prop :=
  evaluateTrigger reader alert (.obj [kv]) = .ok true

/-- An integer that is too large for a float. -/
def Oversized (reader : TriggerReader) : Json → Prop
  | .int n => reader.floatOfInt n = none
  | _ => False

theorem floatOf_eq_error {value : Json} {raised : TriggerRaised} :
    floatOf reader value = .error raised ↔ Oversized reader value := by
  cases raised
  cases value with
  | int n =>
    cases hfloat : reader.floatOfInt n with
    | none => simp [floatOf, Oversized, hfloat]
    | some found => simp [floatOf, Oversized, hfloat]
  | _ => exact iff_of_false (fun h => by cases h) id

/-- Only an oversized minimum raises. -/
theorem evaluateKey_eq_error {key : String} {value : Json} {raised : TriggerRaised} :
    evaluateKey reader alert key value = .error raised ↔
      key = "reputation_score_min" ∧ Oversized reader value := by
  rw [← @floatOf_eq_error reader value raised]
  unfold evaluateKey
  split
  · next hkey => exact iff_of_false (fun h => by cases h) (fun h => by simp [hkey] at h)
  · split
    · next hkey => exact iff_of_false (fun h => by cases h) (fun h => by simp [hkey] at h)
    · split
      · next hkey => exact iff_of_false (fun h => by cases h) (fun h => by simp [hkey] at h)
      · split
        · next hkey => exact iff_of_false (fun h => by cases h) (fun h => by simp [hkey] at h)
        · split
          · next hkey =>
            unfold reputationScoreMinHolds
            cases hfloat : floatOf reader value with
            | ok minimum => exact iff_of_false (fun h => by cases h) (fun h => by cases h.2)
            | error other =>
              have hmap : (Except.error other : Except TriggerRaised Bool) = .error raised ↔
                  (Except.error other : Except TriggerRaised (Option Minimum)) = .error raised := by
                rw [Except.error.injEq, Except.error.injEq]
              exact hmap.trans ⟨fun h => ⟨hkey, h⟩, fun h => h.2⟩
          · next hkey => exact iff_of_false (fun h => by cases h) (fun h => hkey h.1)

/-- An unknown key is passed over, and so is the key of the exclusions. -/
theorem evaluateKey_of_unknown {key : String} {value : Json}
    (hkey : key ∉ knownTriggerKeys ∨ key = "exclude_alert_types") :
    evaluateKey reader alert key value = .ok true := by
  have hnot : ∀ name ∈ knownTriggerKeys, name ≠ "exclude_alert_types" → key ≠ name := by
    intro name hname hother hsame
    subst hsame
    exact hkey.elim (fun h => h hname) hother
  unfold evaluateKey
  rw [if_neg (hnot "alert_type" (by decide) (by decide)),
    if_neg (hnot "min_severity" (by decide) (by decide)),
    if_neg (hnot "source" (by decide) (by decide)),
    if_neg (hnot "correlation_flag" (by decide) (by decide)),
    if_neg (hnot "reputation_score_min" (by decide) (by decide))]

/-- What it means for a key to hold alone. -/
theorem keyHolds_iff {key : String} {value : Json} :
    KeyHolds reader alert (key, value) ↔
      (key = "exclude_alert_types" → exclusionHolds reader alert value = true) ∧
      evaluateKey reader alert key value = .ok true := by
  have hkeys : evaluateKeys reader alert [(key, value)] = .ok true ↔
      evaluateKey reader alert key value = .ok true := by
    by_cases hok : evaluateKey reader alert key value = .ok true
    · rw [evaluateKeys_cons_of_ok reader alert hok, evaluateKeys_nil]
      exact iff_of_true rfl hok
    · rw [evaluateKeys_cons_of_ne reader alert hok]
  have hget : (Json.obj [(key, value)]).get "exclude_alert_types" =
      if key = "exclude_alert_types" then value else .null := by
    by_cases hkey : key = "exclude_alert_types"
    · subst hkey
      rfl
    · rw [if_neg hkey]
      unfold Json.get Json.getD Json.get? Json.fields
      rw [List.lookup_cons, beq_false_of_ne (Ne.symm hkey)]
      rfl
  unfold KeyHolds
  rw [evaluateTrigger_obj, hget]
  by_cases hkey : key = "exclude_alert_types"
  · rw [if_pos hkey]
    by_cases hexcluded : exclusionHolds reader alert value = true
    · rw [if_pos hexcluded, hkeys]
      exact ⟨fun h => ⟨fun _ => hexcluded, h⟩, fun h => h.2⟩
    · rw [if_neg hexcluded]
      exact iff_of_false (fun h => by cases h) fun h => hexcluded (h.1 hkey)
  · rw [if_neg hkey]
    have hnull : exclusionHolds reader alert .null = true := rfl
    rw [if_pos hnull, hkeys]
    exact ⟨fun h => ⟨fun h' => absurd h' hkey, h⟩, fun h => h.2⟩

/-! ## Triggers -/

/-- A trigger holds when each of its known keys holds alone. -/
def TriggerHolds (reader : TriggerReader) (alert : AlertSnapshot) (trigger : Json) : Prop :=
  ∀ kv ∈ trigger.fields, kv.1 ∈ knownTriggerKeys → KeyHolds reader alert kv

/-- The evaluation of a trigger comes to an oversized minimum: the exclusions and every known key before
    it hold. -/
def ReachesOverflow (reader : TriggerReader) (alert : AlertSnapshot) (trigger : Json) : Prop :=
  ∃ before value after, trigger.fields = before ++ ("reputation_score_min", value) :: after ∧
    Oversized reader value ∧
    (∀ kv ∈ before, kv.1 ∈ knownTriggerKeys → KeyHolds reader alert kv) ∧
    ∀ kv ∈ trigger.fields, kv.1 = "exclude_alert_types" → KeyHolds reader alert kv

/-- A key that is no exclusion holds alone just where the loop goes on. -/
theorem keyHolds_iff_of_ne {kv : String × Json} (hkey : kv.1 ≠ "exclude_alert_types") :
    KeyHolds reader alert kv ↔ evaluateKey reader alert kv.1 kv.2 = .ok true := by
  rw [show kv = (kv.1, kv.2) from rfl, keyHolds_iff]
  exact ⟨fun h => h.2, fun h => ⟨fun h' => absurd h' hkey, h⟩⟩

/-- The loop goes on just where a known key that is no exclusion holds. -/
theorem evaluateKey_ok_true_iff {kv : String × Json} :
    evaluateKey reader alert kv.1 kv.2 = .ok true ↔
      (kv.1 ∈ knownTriggerKeys → kv.1 ≠ "exclude_alert_types" → KeyHolds reader alert kv) := by
  constructor
  · intro hok _ hother
    exact (keyHolds_iff_of_ne hother).mpr hok
  · intro h
    by_cases hknown : kv.1 ∈ knownTriggerKeys
    · by_cases hexclusion : kv.1 = "exclude_alert_types"
      · exact evaluateKey_of_unknown (Or.inr hexclusion)
      · exact (keyHolds_iff_of_ne hexclusion).mp (h hknown hexclusion)
    · exact evaluateKey_of_unknown (Or.inl hknown)

/-- The loop holds when every key does. -/
theorem evaluateKeys_ok_true {kvs : List (String × Json)} :
    evaluateKeys reader alert kvs = .ok true ↔
      ∀ kv ∈ kvs, evaluateKey reader alert kv.1 kv.2 = .ok true := by
  induction kvs with
  | nil => simp [evaluateKeys]
  | cons kv kvs ih =>
    rw [List.forall_mem_cons, ← ih]
    by_cases hok : evaluateKey reader alert kv.1 kv.2 = .ok true
    · rw [evaluateKeys_cons_of_ok reader alert hok]
      exact ⟨fun h => ⟨hok, h⟩, fun h => h.2⟩
    · rw [evaluateKeys_cons_of_ne reader alert hok]
      exact iff_of_false hok fun h => hok h.1

/-- The loop raises at the first oversized minimum before which every key holds. -/
theorem evaluateKeys_error {kvs : List (String × Json)} {raised : TriggerRaised} :
    evaluateKeys reader alert kvs = .error raised ↔
      ∃ before value after, kvs = before ++ ("reputation_score_min", value) :: after ∧
        Oversized reader value ∧ ∀ kv ∈ before, evaluateKey reader alert kv.1 kv.2 = .ok true := by
  induction kvs with
  | nil => simp [evaluateKeys]
  | cons kv kvs ih =>
    obtain ⟨key, value⟩ := kv
    by_cases hok : evaluateKey reader alert key value = .ok true
    · rw [evaluateKeys_cons_of_ok reader alert hok, ih]
      constructor
      · rintro ⟨before, other, after, rfl, hsize, hbefore⟩
        exact ⟨(key, value) :: before, other, after, rfl, hsize,
          List.forall_mem_cons.mpr ⟨hok, hbefore⟩⟩
      · rintro ⟨before, other, after, hkvs, hsize, hbefore⟩
        cases before with
        | nil =>
          rw [List.nil_append, List.cons.injEq, Prod.mk.injEq] at hkvs
          obtain ⟨⟨hkey, hvalue⟩, -⟩ := hkvs
          subst hvalue
          have herror := (@evaluateKey_eq_error reader alert key value raised).mpr ⟨hkey, hsize⟩
          rw [hok] at herror
          cases herror
        | cons first before =>
          rw [List.cons_append, List.cons.injEq] at hkvs
          exact ⟨before, other, after, hkvs.2, hsize, (List.forall_mem_cons.mp hbefore).2⟩
    · rw [evaluateKeys_cons_of_ne reader alert hok]
      constructor
      · intro herror
        obtain ⟨hkey, hsize⟩ := evaluateKey_eq_error.mp herror
        subst hkey
        exact ⟨[], value, kvs, rfl, hsize, by simp⟩
      · rintro ⟨before, other, after, hkvs, hsize, hbefore⟩
        cases before with
        | nil =>
          rw [List.nil_append, List.cons.injEq, Prod.mk.injEq] at hkvs
          obtain ⟨⟨hkey, hvalue⟩, -⟩ := hkvs
          subst hvalue
          exact evaluateKey_eq_error.mpr ⟨hkey, hsize⟩
        | cons first before =>
          rw [List.cons_append, List.cons.injEq] at hkvs
          obtain ⟨hfirst, -⟩ := hkvs
          have hfirstOk := (List.forall_mem_cons.mp hbefore).1
          rw [← hfirst] at hfirstOk
          exact absurd hfirstOk hok

/-- No key occurs twice in the dict. -/
abbrev KeysDistinct (trigger : Json) : Prop := (trigger.fields.map Prod.fst).Nodup

/-- The exclusions of a dict hold alone just where they let the evaluation go on. -/
theorem exclusionHolds_iff {kvs : List (String × Json)} (hkeys : KeysDistinct (.obj kvs)) :
    exclusionHolds reader alert ((Json.obj kvs).get "exclude_alert_types") = true ↔
      ∀ kv ∈ kvs, kv.1 = "exclude_alert_types" → KeyHolds reader alert kv := by
  have hholds (value : Json) : KeyHolds reader alert ("exclude_alert_types", value) ↔
      exclusionHolds reader alert value = true := by
    rw [keyHolds_iff]
    exact ⟨fun h => h.1 rfl, fun h => ⟨fun _ => h, evaluateKey_of_unknown (Or.inr rfl)⟩⟩
  have hget : (Json.obj kvs).get "exclude_alert_types" =
      (kvs.lookup "exclude_alert_types").getD .null := rfl
  rw [hget]
  cases hlookup : kvs.lookup "exclude_alert_types" with
  | none =>
    refine iff_of_true rfl fun kv hkv hkey => ?_
    have hne := List.lookup_eq_none_iff.mp hlookup kv hkv
    rw [hkey] at hne
    exact absurd rfl (bne_iff_ne.mp hne)
  | some value =>
    obtain ⟨before, after, rfl, hbefore⟩ := List.lookup_eq_some_iff.mp hlookup
    rw [Option.getD_some, ← hholds]
    constructor
    · intro h kv hkv hkey
      have hsame : kv = ("exclude_alert_types", value) := by
        have hmem : ("exclude_alert_types", value) ∈
            before ++ ("exclude_alert_types", value) :: after :=
          List.mem_append_right before List.mem_cons_self
        exact List.inj_on_of_nodup_map hkeys hkv hmem hkey
      rw [hsame]
      exact h
    · intro h
      exact h _ (List.mem_append_right before List.mem_cons_self) rfl

/-- A trigger holds when the exclusions let it go on and the loop does not stop. -/
theorem evaluateTrigger_ok {trigger : Json} (hobj : trigger.isObj = true)
    (hkeys : KeysDistinct trigger) :
    evaluateTrigger reader alert trigger = .ok true ↔ TriggerHolds reader alert trigger := by
  cases trigger with
  | obj kvs =>
    have hexclusion := @exclusionHolds_iff reader alert kvs hkeys
    rw [evaluateTrigger_obj]
    unfold TriggerHolds
    show _ ↔ ∀ kv ∈ kvs, _
    constructor
    · intro h
      by_cases hexcluded : exclusionHolds reader alert ((Json.obj kvs).get "exclude_alert_types") = true
      · rw [if_pos hexcluded] at h
        intro kv hkv hknown
        by_cases hkey : kv.1 = "exclude_alert_types"
        · exact hexclusion.mp hexcluded kv hkv hkey
        · exact evaluateKey_ok_true_iff.mp (evaluateKeys_ok_true.mp h kv hkv) hknown hkey
      · rw [if_neg hexcluded] at h
        cases h
    · intro h
      have hexcluded := hexclusion.mpr fun kv hkv hkey => h kv hkv (by rw [hkey]; decide)
      rw [if_pos hexcluded, evaluateKeys_ok_true]
      exact fun kv hkv => evaluateKey_ok_true_iff.mpr fun hknown _ => h kv hkv hknown
  | _ => cases hobj

/-- The evaluation of a trigger raises when it comes to an oversized minimum. -/
theorem evaluateTrigger_error {trigger : Json} (hobj : trigger.isObj = true)
    (hkeys : KeysDistinct trigger) {raised : TriggerRaised} :
    evaluateTrigger reader alert trigger = .error raised ↔ ReachesOverflow reader alert trigger := by
  cases trigger with
  | obj kvs =>
    have hexclusion := @exclusionHolds_iff reader alert kvs hkeys
    rw [evaluateTrigger_obj]
    unfold ReachesOverflow
    show _ ↔ ∃ before value after, kvs = _ ∧ _ ∧ _ ∧ ∀ kv ∈ kvs, _
    by_cases hexcluded : exclusionHolds reader alert ((Json.obj kvs).get "exclude_alert_types") = true
    · rw [if_pos hexcluded, evaluateKeys_error]
      have hall := hexclusion.mp hexcluded
      refine exists_congr fun before => exists_congr fun value => exists_congr fun after => ?_
      constructor
      · rintro ⟨hkvs, hsize, hbefore⟩
        refine ⟨hkvs, hsize, fun kv hkv hknown => ?_, hall⟩
        by_cases hkey : kv.1 = "exclude_alert_types"
        · refine hall kv ?_ hkey
          rw [hkvs]
          exact List.mem_append_left _ hkv
        · exact evaluateKey_ok_true_iff.mp (hbefore kv hkv) hknown hkey
      · rintro ⟨hkvs, hsize, hbefore, -⟩
        refine ⟨hkvs, hsize, fun kv hkv => ?_⟩
        exact evaluateKey_ok_true_iff.mpr fun hknown _ => hbefore kv hkv hknown
    · rw [if_neg hexcluded]
      refine iff_of_false (fun h => by cases h) ?_
      rintro ⟨-, -, -, -, -, -, hall⟩
      exact hexcluded (hexclusion.mpr hall)
  | _ => cases hobj

/-- The order of the keys does not matter. -/
theorem triggerHolds_perm {kvs others : List (String × Json)} (hperm : kvs.Perm others) :
    TriggerHolds reader alert (.obj kvs) ↔ TriggerHolds reader alert (.obj others) :=
  ⟨fun h kv hkv => h kv (hperm.mem_iff.mpr hkv), fun h kv hkv => h kv (hperm.mem_iff.mp hkv)⟩

/-- A trigger with more keys holds less often. -/
theorem triggerHolds_of_subset {kvs more : List (String × Json)} (hsubset : kvs ⊆ more)
    (h : TriggerHolds reader alert (.obj more)) : TriggerHolds reader alert (.obj kvs) :=
  fun kv hkv => h kv (hsubset hkv)

end Triggers

/-! ## Definitions -/

section Definitions

variable {reader : TriggerReader} {alert : AlertSnapshot} {definitions : List Definition}

theorem trigger_isObj (definition : Definition) : definition.trigger.isObj = true := by
  unfold Definition.trigger Json.dictOrEmpty
  split
  · next hobj => exact hobj
  · rfl

theorem trigger_keysDistinct (definition : Definition) : KeysDistinct definition.trigger := by
  unfold Definition.trigger Json.dictOrEmpty Json.orElse
  split
  · split
    · exact definition.keys_nodup
    · exact List.nodup_nil
  · exact List.nodup_nil

/-- Without an overflow the definitions are filtered. -/
theorem matchDefinitions_ok
    (hreach : ∀ definition ∈ definitions, ¬ ReachesOverflow reader alert definition.trigger)
    {holds : Definition → Bool}
    (hholds : ∀ definition, holds definition = true ↔ TriggerHolds reader alert definition.trigger) :
    matchDefinitions reader alert definitions = .ok (definitions.filter holds) := by
  induction definitions with
  | nil => rfl
  | cons definition definitions ih =>
    rw [List.forall_mem_cons] at hreach
    have hrest := ih hreach.2
    have herror := @evaluateTrigger_error reader alert _ (trigger_isObj definition)
      (trigger_keysDistinct definition) .overflow
    have hok := @evaluateTrigger_ok reader alert _ (trigger_isObj definition)
      (trigger_keysDistinct definition)
    rw [matchDefinitions, hrest]
    cases heval : evaluateTrigger reader alert definition.trigger with
    | error raised =>
      cases raised
      exact absurd (herror.mp heval) hreach.1
    | ok matched =>
      rw [heval, ← hholds] at hok
      cases matched with
      | true =>
        rw [List.filter_cons_of_pos (hok.mp rfl)]
        rfl
      | false =>
        rw [List.filter_cons_of_neg fun h => by cases hok.mpr h]
        rfl

/-- One overflow discards the result. -/
theorem matchDefinitions_error
    (hreach : ∃ definition ∈ definitions, ReachesOverflow reader alert definition.trigger) :
    ∃ raised, matchDefinitions reader alert definitions = .error raised := by
  induction definitions with
  | nil =>
    obtain ⟨_, hmem, -⟩ := hreach
    cases hmem
  | cons definition definitions ih =>
    have herror := @evaluateTrigger_error reader alert _ (trigger_isObj definition)
      (trigger_keysDistinct definition) .overflow
    rw [matchDefinitions]
    cases heval : evaluateTrigger reader alert definition.trigger with
    | error raised => exact ⟨raised, rfl⟩
    | ok matched =>
      obtain ⟨other, hmem, hother⟩ := hreach
      rcases List.mem_cons.mp hmem with rfl | hrest
      · rw [heval] at herror
        cases herror.mpr hother
      · obtain ⟨raised, hraised⟩ := ih ⟨other, hrest, hother⟩
        refine ⟨raised, ?_⟩
        rw [hraised]
        rfl

end Definitions

/-! ## Result -/

instance (reader : TriggerReader) (alert : AlertSnapshot) (kv : String × Json) :
    Decidable (KeyHolds reader alert kv) := inferInstanceAs (Decidable (_ = _))

instance (reader : TriggerReader) (alert : AlertSnapshot) (trigger : Json) :
    Decidable (TriggerHolds reader alert trigger) :=
  inferInstanceAs (Decidable (∀ kv ∈ trigger.fields, _ → _))

def holdingDefinitions (reader : TriggerReader) (alert : AlertSnapshot)
    (definitions : List Definition) : List Definition :=
  definitions.filter fun definition => TriggerHolds reader alert definition.trigger

/-- Matching is compositional: it returns exactly the definitions whose trigger holds, and whether a
    trigger holds does not depend on the order of its keys and gets harder with more of them. -/
structure Compositional (reader : TriggerReader) (alert : AlertSnapshot)
    (definitions : List Definition) : Prop where
  exact : matchPlaybooks reader (some alert) definitions = holdingDefinitions reader alert definitions
  order : ∀ kvs others : List (String × Json), kvs.Perm others →
    (TriggerHolds reader alert (.obj kvs) ↔ TriggerHolds reader alert (.obj others))
  narrow : ∀ kvs more : List (String × Json), kvs ⊆ more →
    TriggerHolds reader alert (.obj more) → TriggerHolds reader alert (.obj kvs)

/-- **Matching is compositional** just where no definition is evaluated up to an oversized minimum, or no
    trigger holds anyway. -/
theorem compositional_iff (reader : TriggerReader) (alert : AlertSnapshot)
    (definitions : List Definition) :
    Compositional reader alert definitions ↔
      (∀ definition ∈ definitions, ¬ ReachesOverflow reader alert definition.trigger) ∨
      ∀ definition ∈ definitions, ¬ TriggerHolds reader alert definition.trigger := by
  have hexact : Compositional reader alert definitions ↔
      matchPlaybooks reader (some alert) definitions = holdingDefinitions reader alert definitions :=
    ⟨fun h => h.exact, fun h => ⟨h, fun _ _ => triggerHolds_perm, fun _ _ => triggerHolds_of_subset⟩⟩
  rw [hexact]
  unfold matchPlaybooks holdingDefinitions
  dsimp only
  by_cases hreach : ∃ definition ∈ definitions, ReachesOverflow reader alert definition.trigger
  · obtain ⟨raised, hraised⟩ := matchDefinitions_error hreach
    obtain ⟨definition, hmem, hdefinition⟩ := hreach
    rw [hraised]
    constructor
    · intro hnil
      right
      intro other hother hholds
      have hnot := List.filter_eq_nil_iff.mp hnil.symm other hother
      exact hnot (decide_eq_true hholds)
    · rintro (hnone | hnone)
      · exact absurd hdefinition (hnone definition hmem)
      · refine (List.filter_eq_nil_iff.mpr fun other hother hholds => ?_).symm
        exact hnone other hother (of_decide_eq_true hholds)
  · have hnone : ∀ definition ∈ definitions, ¬ ReachesOverflow reader alert definition.trigger :=
      fun definition hmem h => hreach ⟨definition, hmem, h⟩
    have hmatched := matchDefinitions_ok hnone fun definition =>
      decide_eq_true_iff (p := TriggerHolds reader alert definition.trigger)
    rw [hmatched]
    exact iff_of_true rfl (Or.inl hnone)

/-- The interpreter's floats: an integer from `2^1024 - 2^970` on is too large. -/
def binary64Reader : TriggerReader where
  py := ⟨fun _ => "", fun _ => "", fun _ _ => .ok none⟩
  lower := lower
  floatOfInt := fun n => if n.natAbs < 2 ^ 1024 - 2 ^ 970 then some n else none
  floatOfText := fun _ => none
  floatOfRepr := fun _ => .nan

/-- A definition for every alert. -/
def matchAll : Definition := ⟨"match_all", .obj [], by decide⟩

/-- A definition whose minimum is a one with 400 zeros. -/
def hugeMinimum : Definition :=
  ⟨"huge_minimum", .obj [("reputation_score_min", .int (10 ^ 400))], by decide⟩

/-- The huge minimum of one definition keeps the other one, which holds, from matching. -/
theorem oversizedMinimum_discards :
    ¬ Compositional binary64Reader ⟨some "failed_login_threshold", some "high", some "nginx", some 50⟩
      [matchAll, hugeMinimum] ∧
    matchPlaybooks binary64Reader
      (some ⟨some "failed_login_threshold", some "high", some "nginx", some 50⟩) [matchAll] =
      [matchAll] := by
  have hboth : (matchPlaybooks binary64Reader
      (some ⟨some "failed_login_threshold", some "high", some "nginx", some 50⟩)
      [matchAll, hugeMinimum]).map (·.id) = [] := by decide +kernel
  have hholding : (holdingDefinitions binary64Reader
      ⟨some "failed_login_threshold", some "high", some "nginx", some 50⟩
      [matchAll, hugeMinimum]).map (·.id) = ["match_all"] := by decide +kernel
  refine ⟨fun h => ?_, rfl⟩
  rw [h.exact, hholding] at hboth
  cases hboth

end SiemDashboard.TriggerMatching
