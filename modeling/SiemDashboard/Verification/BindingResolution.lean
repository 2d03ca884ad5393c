import SiemDashboard.Engines.StepSimulation
import SiemDashboard.Lib.Checks
import SiemDashboard.Lib.JsonPaths

/-!
# Resolution of parameter bindings

The parameters that the binding validator accepts, and what their resolution makes of them.  Validator and
resolver look at the values of the parameters themselves; what lies deeper is passed on as it is.

* **Resolution** — `resolveStepParamsWith`, `boundValue`.
* **Validator** — `Accepted`, `accepted_value`.
* **Result** — `ResolvedField`, `resolved_completely`; `nestedBinding_unresolved`.
-/

namespace SiemDashboard.BindingResolution

open Atomic Atomic.Program ParamBinding Python StepExecutor

/-! ## Resolution -/

/-- `resolve_step_params` with the alert snapshot it may be given. -/
def resolveStepParamsWith (snapshot : Option Alert) (execution : Execution) (params : Json) :
    Prog (Except BindingError Json) :=
  match snapshot with
  | none => resolveStepParams execution params
  | some alert =>
    if params.fields.isEmpty then return .ok (.obj [])
    else return resolveParams (some alert) execution params

/-- The value that a binding refers to. -/
def boundValue (alert : Option Alert) (execution : Execution) :
    BindingNamespace × String → Option Json
  | (.alert, field) => (alert.bind (Alert.get? · field)).map coerceBindingValue
  | (.execution, field) => executionBindingValue execution field

/-- The alert in use is the snapshot, or the execution's own alert as it was fetched, or none. -/
def AlertInUse (snapshot : Option Alert) (execution : Execution) (trace : List (Exchange Reply)) :
    Option Alert → Prop
  | none => snapshot = none
  | some alert => snapshot = some alert ∨
      ∃ id, execution.alertId = some id ∧ ⟨.call (.fetchAlert id), some alert⟩ ∈ trace

/-! ## Validator -/

/-- The validator has no objection to the parameters of a step. -/
def Accepted (py : Python) (params : Json) : Prop :=
  ∃ pfx, validateStepParamBindings py (.obj [("params", params)]) pfx = []

section Validator

variable {py : Python} {kvs : List (String × Json)}

/-- An accepted value that mentions a binding is a binding of an allowed field. -/
theorem accepted_value (h : Accepted py (.obj kvs)) {kv : String × Json} (hkv : kv ∈ kvs) {s : String}
    (hvalue : kv.2 = .str s) (hmentions : mentionsBinding s.toList = true) :
    ∃ b, parseBindingExpression kv.2 = some b ∧ b.2 ∈ allowedBindingFields b.1 := by
  obtain ⟨pfx, hnone⟩ := h
  have hfield : validateParamBindingValue py kv.2 s!"{pfx}.params.{kv.1}" = [] :=
    List.flatMap_eq_nil_iff.mp hnone kv hkv
  rw [hvalue] at hfield ⊢
  unfold validateParamBindingValue at hfield
  dsimp only at hfield
  rw [if_pos hmentions] at hfield
  cases hparse : parseBindingExpression (.str s) with
  | none =>
    rw [hparse] at hfield
    cases hfield
  | some b =>
    rw [hparse] at hfield
    refine ⟨b, rfl, ?_⟩
    by_contra hunknown
    have hcontains : ¬ (allowedBindingFields b.1).contains b.2 = true := fun hin =>
      hunknown (List.contains_iff_mem.mp hin)
    obtain ⟨ns, field⟩ := b
    dsimp only at hfield hcontains
    rw [if_neg hcontains] at hfield
    cases hfield

end Validator

/-! ## Result -/

/-- What resolution makes of one parameter: under the same key, a binding is replaced by what it refers
    to, and any other value is the same and mentions no binding. -/
structure ResolvedField (alert : Option Alert) (execution : Execution)
    (param resolved : String × Json) : Prop where
  key : param.1 = resolved.1
  bound : ∀ b, parseBindingExpression param.2 = some b →
    boundValue alert execution b = some resolved.2
  other : parseBindingExpression param.2 = none → resolved.2 = param.2 ∧
    ∀ s, resolved.2 = .str s → mentionsBinding s.toList = false

section Resolution

variable {py : Python} {alert : Option Alert} {execution : Execution} {kvs : List (String × Json)}

theorem resolveParam_none {value : Json} (hparse : parseBindingExpression value = none) :
    resolveParam alert execution value = .ok value := by
  unfold resolveParam
  rw [hparse]

theorem resolveParam_bound {value resolved : Json} {b : BindingNamespace × String}
    (hparse : parseBindingExpression value = some b)
    (h : resolveParam alert execution value = .ok resolved) :
    boundValue alert execution b = some resolved := by
  unfold resolveParam at h
  rw [hparse] at h
  obtain ⟨ns, field⟩ := b
  cases ns with
  | alert =>
    dsimp only at h
    cases alert with
    | none => cases h
    | some alert =>
      dsimp only at h
      show (alert.get? field).map coerceBindingValue = _
      cases hget : alert.get? field with
      | none =>
        rw [hget] at h
        cases h
      | some raw =>
        rw [hget] at h
        rw [Option.map_some, Except.ok.inj h]
  | execution =>
    dsimp only at h
    show executionBindingValue execution field = _
    cases hget : executionBindingValue execution field with
    | none =>
      rw [hget] at h
      cases h
    | some raw =>
      rw [hget] at h
      rw [Except.ok.inj h]

/-- What holds of the members beside each other. -/
theorem forall₂_of_mem {α β : Type} {R S : α → β → Prop} {xs : List α} {ys : List β}
    (h : List.Forall₂ R xs ys) (himp : ∀ x ∈ xs, ∀ y, R x y → S x y) : List.Forall₂ S xs ys := by
  induction h with
  | nil => exact .nil
  | cons hxy _ ih =>
    rw [List.forall_mem_cons] at himp
    exact .cons (himp.1 _ hxy) (ih himp.2)

/-- Resolution goes through the parameters one by one. -/
theorem resolveParams_spec (haccepted : Accepted py (.obj kvs)) {resolved : Json}
    (h : resolveParams alert execution (.obj kvs) = .ok resolved) :
    ∃ fields, resolved = .obj fields ∧ List.Forall₂ (ResolvedField alert execution) kvs fields := by
  unfold resolveParams at h
  obtain ⟨fields, hfields, hresolved⟩ := Checks.bind_eq_ok.mp h
  refine ⟨fields, (Except.ok.inj hresolved).symm, ?_⟩
  have hall := Checks.mapM_forall₂ hfields
  -- Each parameter is resolved on its own.
  have hstep : ∀ kv ∈ kvs, ∀ field, ((fun x : String × Json => (resolveParam alert execution x.2).bind
      fun value => Except.ok (x.1, value)) kv = .ok field) →
      ResolvedField alert execution kv field := by
    intro kv hkv field hfield
    obtain ⟨value, hvalue, hpair⟩ := Checks.bind_eq_ok.mp hfield
    have hpair := Except.ok.inj hpair
    subst hpair
    refine ⟨rfl, fun b hparse => resolveParam_bound hparse hvalue, fun hparse => ?_⟩
    rw [resolveParam_none hparse] at hvalue
    have hsame := Except.ok.inj hvalue
    subst hsame
    refine ⟨rfl, fun s hs => ?_⟩
    by_contra hmentions
    obtain ⟨b, hb, -⟩ := accepted_value haccepted hkv hs (Bool.eq_true_of_not_eq_false hmentions)
    rw [hparse] at hb
    cases hb
  exact forall₂_of_mem hall hstep

/-- A successful resolution without an alert binding looks at no alert. -/
theorem resolveStepParams_performs {trace : List (Exchange Reply)} {resolved : Json}
    (haccepted : Accepted py (.obj kvs))
    (h : (resolveStepParams execution (.obj kvs)).Performs trace (.ok resolved)) :
    ∃ alert fields, AlertInUse none execution trace alert ∧ resolved = .obj fields ∧
      List.Forall₂ (ResolvedField alert execution) kvs fields := by
  unfold resolveStepParams at h
  split at h
  · next hempty =>
    have hnil : kvs = [] := List.isEmpty_iff.mp hempty
    subst hnil
    obtain ⟨-, hresolved⟩ := h
    exact ⟨none, [], rfl, Except.ok.inj hresolved, .nil⟩
  · split at h
    · split at h
      · obtain ⟨-, hresolved⟩ := h
        cases hresolved
      · next alertId halertId =>
        obtain ⟨answer, rest, rfl, h⟩ := h
        cases answer with
        | none =>
          obtain ⟨-, hresolved⟩ := h
          cases hresolved
        | some alert =>
          obtain ⟨-, hresolved⟩ := h
          obtain ⟨fields, hfields, hall⟩ := resolveParams_spec haccepted hresolved.symm
          exact ⟨some alert, fields, Or.inr ⟨alertId, halertId, List.mem_cons_self⟩, hfields, hall⟩
    · obtain ⟨-, hresolved⟩ := h
      obtain ⟨fields, hfields, hall⟩ := resolveParams_spec haccepted hresolved.symm
      exact ⟨none, fields, rfl, hfields, hall⟩

end Resolution

/-- **Bindings resolve completely** at the values of the parameters: whatever parameters the validator
    accepts, a resolution that does not fail as a whole returns the same keys, and at each of them the
    value that a binding refers to, or else the same value, which as a text mentions no binding. -/
theorem resolved_completely (py : Python) (snapshot : Option Alert) (execution : Execution)
    (kvs : List (String × Json)) (trace : List (Exchange Reply)) (resolved : Json)
    (haccepted : Accepted py (.obj kvs))
    (h : (resolveStepParamsWith snapshot execution (.obj kvs)).Performs trace (.ok resolved)) :
    ∃ alert fields, AlertInUse snapshot execution trace alert ∧ resolved = .obj fields ∧
      List.Forall₂ (ResolvedField alert execution) kvs fields := by
  unfold resolveStepParamsWith at h
  cases snapshot with
  | none => exact resolveStepParams_performs haccepted h
  | some alert =>
    dsimp only at h
    split at h
    · next hempty =>
      have hnil : kvs = [] := List.isEmpty_iff.mp hempty
      subst hnil
      obtain ⟨-, hresolved⟩ := h
      exact ⟨some alert, [], Or.inl rfl, Except.ok.inj hresolved, .nil⟩
    · obtain ⟨-, hresolved⟩ := h
      obtain ⟨fields, hfields, hall⟩ := resolveParams_spec haccepted hresolved.symm
      exact ⟨some alert, fields, Or.inl rfl, hfields, hall⟩

/-- A running execution for the alert 7. -/
def alertExecution : Execution :=
  ⟨1, "webhook_notice", some 7, none, .running, some 0, none, none, [], 0, 1, 3, none, none, none, none,
    none, 0, none, none, none, 0⟩

/-- The alert 7. -/
def alertSeven : Alert := [("id", .json (.int 7)), ("source_ip", .json (.str "192.0.2.7"))]

/-- The binding of the alert's address. -/
def sourceIpBinding : String := "\x7b\x7balert.source_ip\x7d\x7d"

/-- The address of the alert is bound, and a text stays. -/
theorem resolved_completely_sourceIp :
    ∃ alert fields, AlertInUse (some alertSeven) alertExecution [] alert ∧
      Json.obj [("source_ip", .str "192.0.2.7"), ("message", .str "block it")] = .obj fields ∧
      List.Forall₂ (ResolvedField alert alertExecution)
        [("source_ip", .str sourceIpBinding), ("message", .str "block it")] fields :=
  resolved_completely ⟨fun _ => "", fun _ => "", fun _ _ => .ok none⟩ (some alertSeven) alertExecution
    _ [] _ ⟨"steps[0]", by decide +kernel⟩ ⟨rfl, rfl⟩

/-- A binding inside a parameter is accepted and left as it is, though the alert has its field. -/
theorem nestedBinding_unresolved :
    Accepted ⟨fun _ => "", fun _ => "", fun _ _ => .ok none⟩
      (.obj [("payload", .obj [("source_ip", .str sourceIpBinding)])]) ∧
    (resolveStepParamsWith (some alertSeven) alertExecution
      (.obj [("payload", .obj [("source_ip", .str sourceIpBinding)])])).Performs []
      (.ok (.obj [("payload", .obj [("source_ip", .str sourceIpBinding)])])) ∧
    parseBindingExpression (.str sourceIpBinding) = some (.alert, "source_ip") ∧
    boundValue (some alertSeven) alertExecution (.alert, "source_ip") = some (.str "192.0.2.7") ∧
    Json.Inside (.str sourceIpBinding)
      (.obj [("payload", .obj [("source_ip", .str sourceIpBinding)])]) := by
  refine ⟨⟨"steps[0]", rfl⟩, ⟨rfl, rfl⟩, by decide +kernel, rfl, ?_⟩
  exact .field List.mem_cons_self (.field List.mem_cons_self .refl)

end SiemDashboard.BindingResolution
