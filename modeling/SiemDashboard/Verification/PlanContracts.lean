import Mathlib.Data.List.Nodup
import SiemDashboard.Core.AgenticPlanValidation
import SiemDashboard.Lib.Dicts
import SiemDashboard.Verification.PlannerPackets

/-!
# What produced plans promise

Every plan that `parse_and_validate_plan` accepts obeys the contract table.  A plan of
`deterministic_shortcut_plan` obeys it exactly when the entity of the request has a type that the planner supports:
the shortcut never compares it with `PLANNER_ENTITY_TYPES`.

* **Contracts** — `ObeysRow`, `ObeysContract`, `contractOf_mem`.
* **Filters** — `Filters.Sound`, `validatedEvidenceRequirements_sound`.
* **Entities** — `EntityReading.Supported`, `validatedPlannerEntities_supported`.
* **Bindings** — `identifier`, `BindsEntity`, `bindsEntity_of_no_errors`.
* **Proposals** — one lemma for each group of checks, `Proposal.plan_obeys`.
* **Result** — `produced_plans_obey_contract`, and a shortcut to an entity of no supported type.
-/

namespace SiemDashboard.AgenticAnalystPlanner

open Python SessionMemory JsonText

/-! ## Contracts -/

section Contracts

variable (r : PlanReader)

/-- What a filter of an entity must be: the canonical address, or the positive number of a row. -/
def identifier (entity : Entity) (key : String) : Option Json :=
  if key = "source_ip" then (r.canonicalIp entity.id).map .str
  else ((Python.int r.decimal entity.id).filter fun n => 1 ≤ n).map .int

/-- The filters of a tool name the entity. -/
def BindsEntity (entity : Entity) (tool : String) (requirements : List (String × Json)) : Prop :=
  ∃ key expected, bindingKey entity.type tool = some key ∧
    identifier r entity key = some expected ∧ requirements.lookup key = some expected

/-- What a row of the table demands of a plan. -/
structure ObeysRow (contract : PlanSemanticContract) (plan : AgenticAnalystPlan) : Prop where
  capability : plan.proposedCapability = contract.capability
  distinct : (plan.resolvedEntities.map Entity.key).Nodup
  supported : ∀ entity ∈ plan.resolvedEntities, entity.type ∈ plannerEntityTypes
  atLeast : contract.minimumEntities ≤ plan.resolvedEntities.length
  atMost : plan.resolvedEntities.length ≤ contract.maximumEntities
  tools : plan.proposedToolCategories = [] ∨
    contract.toolExecutionAllowed = true ∧ plan.evidenceRequirements ≠ [] ∧
      ∃ tool ∈ approvedToolCategories, plan.proposedToolCategories = [tool]
  filters : ∀ requirement ∈ plan.evidenceRequirements,
    requirement.1 ∈ allowedFilters (singleTool plan.proposedToolCategories)
  binding : ∀ entity, plan.proposedStrategy = "quick_evidence_lookup" →
    plan.resolvedEntities = [entity] →
    ∃ tool, plan.proposedToolCategories = [tool] ∧ BindsEntity r entity tool plan.evidenceRequirements

/-- The intent and the strategy of a plan are a row of the table, and the plan obeys it. -/
def ObeysContract (plan : AgenticAnalystPlan) : Prop :=
  ∃ contract, contractOf plan.currentTurnIntent plan.proposedStrategy = some contract ∧
    ObeysRow r contract plan

omit r in
theorem contractOf_mem {action strategy : String} {contract : PlanSemanticContract}
    (h : contractOf action strategy = some contract) :
    ((action, strategy), contract) ∈ planSemanticContracts := Dicts.mem_of_lookup h

omit r in
/-- The rows that allow tools are those that allow filters. -/
theorem filtersAllowed_eq_toolsAllowed {action strategy : String} {contract : PlanSemanticContract}
    (h : contractOf action strategy = some contract) :
    contract.evidenceFiltersAllowed = contract.toolExecutionAllowed := by
  have hall : (planSemanticContracts.all fun row =>
      row.2.evidenceFiltersAllowed == row.2.toolExecutionAllowed) = true := by decide
  have hrow := List.all_eq_true.mp hall _ (contractOf_mem h)
  simpa using hrow

omit r in
/-- A lookup allows tools in every row. -/
theorem toolsAllowed_of_lookup {action strategy : String} {contract : PlanSemanticContract}
    (h : contractOf action strategy = some contract) (hlookup : strategy = "quick_evidence_lookup") :
    contract.toolExecutionAllowed = true := by
  have hall : (planSemanticContracts.all fun row =>
      row.1.2 != "quick_evidence_lookup" || row.2.toolExecutionAllowed) = true := by decide
  have hrow := List.all_eq_true.mp hall _ (contractOf_mem h)
  simpa [hlookup] using hrow

omit r in
@[simp] theorem check_eq_nil {wrong : Bool} {error : PlanError} :
    check wrong error = [] ↔ wrong = false := by
  cases wrong <;> simp [check]

end Contracts

/-! ## Filters -/

section Filters

variable (r : PlanReader)

/-- A filter that is a text, or a number that is no address. -/
def PlainFilter (filter : String × Json) : Prop :=
  (∃ text, filter.2 = .str text) ∨ filter.1 ≠ "source_ip" ∧ ∃ n, filter.2 = .int n

/-- The filters have names of fields of a dict, and plain values. -/
def Filters.Sound (value : Json) (filters : Filters) : Prop :=
  ∀ filter ∈ filters.normalized, filter.1 ∈ value.fields.map Prod.fst ∧ PlainFilter filter

theorem Filters.sound_none (value : Json) : Filters.none.Sound value := by
  intro filter hfilter
  cases hfilter

theorem Filters.sound_errors (value : Json) (errors : List PlanError) :
    Filters.Sound value ⟨[], errors⟩ := by
  intro filter hfilter
  cases hfilter

theorem Filters.Sound.and {value : Json} {a b : Filters} (ha : a.Sound value) (hb : b.Sound value) :
    (a.and b).Sound value := by
  intro filter hfilter
  rcases List.mem_append.mp hfilter with hfilter | hfilter
  · exact ha filter hfilter
  · exact hb filter hfilter

/-- A field that is not missing is there. -/
theorem mem_names_of_get_ne_null {value : Json} {key : String} (h : value.get key ≠ .null) :
    key ∈ value.fields.map Prod.fst := by
  by_contra hmissing
  apply h
  have hnone : value.fields.lookup key = none := by
    apply List.lookup_eq_none_iff.mpr
    intro field hfield
    have hne : field.1 ≠ key := fun heq => hmissing (heq ▸ List.mem_map_of_mem hfield)
    simpa using fun heq => hne heq.symm
  show (value.fields.lookup key).getD .null = .null
  rw [hnone]
  rfl

theorem textFilter_sound {value : Json} {key text : String} {normalize : String → Option String}
    (hthere : text ≠ "" → value.get key ≠ .null) :
    (textFilter r key text normalize).Sound value := by
  unfold textFilter
  split
  · exact Filters.sound_none value
  · next htext =>
    cases normalize text with
    | none => exact Filters.sound_errors value _
    | some normal =>
      intro filter hfilter
      rw [List.mem_singleton.mp hfilter]
      exact ⟨mem_names_of_get_ne_null (hthere htext), .inl ⟨normal, rfl⟩⟩

/-- The bounded text of a missing field is empty. -/
theorem get_ne_null_of_boundedText {py : Python} {value : Json} {key : String} {limit : Nat}
    (h : boundedText py (value.get key) limit ≠ "") : value.get key ≠ .null := by
  intro hnull
  rw [hnull] at h
  exact h rfl

theorem get_ne_null_of_lower {py : Python} {value : Json} {key : String} {limit : Nat}
    (h : lower (boundedText py (value.get key) limit) ≠ "") : value.get key ≠ .null := by
  intro hnull
  rw [hnull] at h
  apply h
  show lower "" = ""
  decide

theorem get_ne_null_of_isMissing {value : Json} {key : String} (h : isMissing (value.get key) = false) :
    value.get key ≠ .null := by
  intro hnull
  rw [hnull] at h
  cases h

theorem idFilter_sound {value : Json} {key : String} {filters : Filters} (hkey : key ≠ "source_ip")
    (h : idFilter r value key = .ok filters) : filters.Sound value := by
  unfold idFilter at h
  dsimp only at h
  split at h
  · cases h
    exact Filters.sound_none value
  · next hmissing =>
    have hmem := mem_names_of_get_ne_null (get_ne_null_of_isMissing (by simpa using hmissing))
    split at h
    · cases h
      exact Filters.sound_errors value _
    · obtain ⟨parsed, -, h⟩ := Checks.bind_eq_ok.mp h
      cases parsed with
      | none =>
        cases h
        exact Filters.sound_errors value _
      | some n =>
        cases h
        split
        · exact Filters.sound_errors value _
        · intro filter hfilter
          rw [List.mem_singleton.mp hfilter]
          exact ⟨hmem, .inr ⟨hkey, n, rfl⟩⟩

theorem boundFilter_sound {value : Json} {key : String} {maximum : Int} (hkey : key ≠ "source_ip") :
    (boundFilter value key maximum).Sound value := by
  unfold boundFilter
  dsimp only
  split
  · exact Filters.sound_none value
  · next hmissing =>
    have hmem := mem_names_of_get_ne_null (get_ne_null_of_isMissing (by simpa using hmissing))
    split
    · split
      · exact Filters.sound_errors value _
      · next n _ _ =>
        intro filter hfilter
        rw [List.mem_singleton.mp hfilter]
        exact ⟨hmem, .inr ⟨hkey, n, rfl⟩⟩
    · exact Filters.sound_errors value _

omit r in
theorem Filters.and_errors_eq_nil {a b : Filters} :
    (a.and b).errors = [] ↔ a.errors = [] ∧ b.errors = [] := List.append_eq_nil_iff

/-- A dict without errors about its names has only fields that the tool allows. -/
theorem mem_allowedFilters_of_no_errors {value : Json} {tool : Option String}
    (h : filterNameErrors r value tool = []) :
    ∀ name ∈ value.fields.map Prod.fst, name ∈ allowedFilters tool := by
  obtain ⟨hunknown, hunsupported⟩ := List.append_eq_nil_iff.mp h
  rw [check_eq_nil, Bool.not_eq_false', List.isEmpty_iff, List.filter_eq_nil_iff] at hunknown hunsupported
  intro name hname
  by_contra hnot
  apply hunsupported name hname
  have hknown : evidenceRequirementKeys.contains name = true := by
    simpa using hunknown name hname
  simp only [List.contains_eq_mem, hnot, decide_false, Bool.not_false, Bool.true_and,
    Bool.not_eq_true', decide_eq_false_iff_not, List.mem_filter, not_and]
  intro _ hbad
  simp [List.contains_eq_mem] at hknown hbad
  exact hbad hknown

/-- The filters of a lookup are plain, and those without errors are all allowed. -/
theorem validatedEvidenceRequirements_sound {value : Json} {tool : Option String} {filters : Filters}
    (h : validatedEvidenceRequirements r value tool = .ok filters) (herrors : filters.errors = []) :
    ∀ filter ∈ filters.normalized, filter.1 ∈ allowedFilters tool ∧ PlainFilter filter := by
  unfold validatedEvidenceRequirements at h
  split at h
  · cases h
    cases herrors
  · dsimp only at h
    obtain ⟨alertId, halert, h⟩ := Checks.bind_eq_ok.mp h
    obtain ⟨incidentId, hincident, h⟩ := Checks.bind_eq_ok.mp h
    obtain ⟨activityId, hactivity, h⟩ := Checks.bind_eq_ok.mp h
    obtain ⟨registryId, hregistry, h⟩ := Checks.bind_eq_ok.mp h
    have hfilters := (Except.ok.inj h).symm
    have hsound : filters.Sound value := by
      rw [hfilters]
      have hbounded {key : String} {limit : Nat} {normalize : String → Option String} :
          (textFilter r key (boundedText r.py (value.get key) limit) normalize).Sound value :=
        textFilter_sound r get_ne_null_of_boundedText
      have hlowered {key : String} {limit : Nat} {normalize : String → Option String} :
          (textFilter r key (lower (boundedText r.py (value.get key) limit)) normalize).Sound value :=
        textFilter_sound r get_ne_null_of_lower
      refine Filters.Sound.and (Filters.Sound.and ?ids ?bounds) hlowered
      case bounds => exact (boundFilter_sound (by decide)).and (boundFilter_sound (by decide))
      refine Filters.Sound.and (Filters.Sound.and (Filters.Sound.and (Filters.Sound.and
        (Filters.Sound.and ?texts (Filters.sound_errors value _)) ?_) ?_) ?_) ?_
      case texts =>
        exact ((((Filters.sound_errors value _).and hlowered).and hbounded).and hbounded).and
          hbounded |>.and (hbounded.and hbounded)
      · exact idFilter_sound r (by decide) halert
      · exact idFilter_sound r (by decide) hincident
      · exact idFilter_sound r (by decide) hactivity
      · exact idFilter_sound r (by decide) hregistry
    rw [hfilters] at herrors
    simp only [Filters.and_errors_eq_nil, and_assoc] at herrors
    have hnames := mem_allowedFilters_of_no_errors r herrors.1
    intro filter hfilter
    obtain ⟨hname, hplain⟩ := hsound filter hfilter
    exact ⟨hnames filter.1 hname, hplain⟩

end Filters

/-! ## Entities -/

section Entities

variable (r : PlanReader)

/-- The entities that are accepted are distinct, and of supported types. -/
structure EntityReading.Supported (reading : EntityReading) : Prop where
  distinct : (reading.entities.map Entity.key).Nodup
  supported : ∀ entity ∈ reading.entities, entity.type ∈ plannerEntityTypes

omit r in
theorem EntityReading.supported_nil (errors : List PlanError) :
    EntityReading.Supported ⟨[], errors⟩ where
  distinct := List.nodup_nil
  supported := fun _ hentity => absurd hentity List.not_mem_nil

/-- One more item keeps what is accepted distinct and supported. -/
theorem readEntity_supported {reading : EntityReading} (hreading : reading.Supported)
    (indexed : Json × Nat) : (readEntity r reading indexed).Supported := by
  have hsame (errors : List PlanError) :
      EntityReading.Supported { reading with errors := reading.errors ++ errors } :=
    ⟨hreading.distinct, hreading.supported⟩
  unfold readEntity
  dsimp only
  split
  · exact hsame _
  · cases hentity : entity r.py indexed.1 with
    | none => exact hsame _
    | some entity =>
      dsimp only
      split
      · exact hsame _
      · next htype =>
        split
        · exact hsame _
        · next hnew =>
          have htype : entity.type ∈ plannerEntityTypes := by simpa using htype
          have hnew : entity.key ∉ reading.entities.map Entity.key := by simpa using hnew
          refine ⟨?_, ?_⟩
          · show ((reading.entities ++ [entity]).map Entity.key).Nodup
            rw [List.map_append, List.map_singleton, ← List.concat_eq_append]
            exact hreading.distinct.concat hnew
          · intro other hother
            rcases List.mem_append.mp hother with hother | hother
            · exact hreading.supported other hother
            · rw [List.mem_singleton.mp hother]
              exact htype

/-- The whole loop. -/
theorem foldl_readEntity_supported (items : List (Json × Nat)) {reading : EntityReading}
    (hreading : reading.Supported) : (items.foldl (readEntity r) reading).Supported := by
  induction items generalizing reading with
  | nil => exact hreading
  | cons item rest ih => exact ih (readEntity_supported r hreading item)

theorem validatedPlannerEntities_supported (value : Json) :
    (validatedPlannerEntities r value).Supported := by
  unfold validatedPlannerEntities
  split
  · split
    · exact EntityReading.supported_nil _
    · exact foldl_readEntity_supported r _ (EntityReading.supported_nil [])
  · exact EntityReading.supported_nil _

end Entities

/-! ## Bindings -/

section Bindings

variable (r : PlanReader)

/-- What the validator compares with is the identifier of the entity. -/
theorem identifier_of_expectedBinding {entity : Entity} {key : String} {expected : Json}
    (h : expectedBinding r entity key = .ok expected) :
    identifier r entity key = some expected := by
  unfold expectedBinding at h
  unfold identifier
  split at h
  · next hkey =>
    rw [if_pos hkey]
    cases haddress : r.canonicalIp entity.id with
    | none =>
      rw [haddress] at h
      cases h
    | some address =>
      rw [haddress] at h
      rw [← Except.ok.inj h]
      rfl
  · next hkey =>
    rw [if_neg hkey]
    cases hid : Python.int r.decimal entity.id with
    | none =>
      rw [hid] at h
      cases h
    | some n =>
      rw [hid] at h
      dsimp only at h
      split at h
      · cases h
      · next hpositive =>
        rw [← Except.ok.inj h, Option.filter_some, if_pos (by simp; omega)]
        rfl

/-- An identifier is a text for an address, and a number otherwise. -/
theorem identifier_cases {entity : Entity} {key : String} {expected : Json}
    (h : identifier r entity key = some expected) :
    (key = "source_ip" ∧ ∃ address, expected = .str address) ∨
      key ≠ "source_ip" ∧ ∃ n, expected = .int n := by
  unfold identifier at h
  split at h
  · next hkey =>
    obtain ⟨address, -, rfl⟩ := Option.map_eq_some_iff.mp h
    exact .inl ⟨hkey, address, rfl⟩
  · next hkey =>
    obtain ⟨n, -, rfl⟩ := Option.map_eq_some_iff.mp h
    exact .inr ⟨hkey, n, rfl⟩

/-- A plain filter that `==` an identifier is that identifier. -/
theorem eq_identifier_of_equal {py : Python} {entity : Entity} {key : String} {actual expected : Json}
    (hexpected : identifier r entity key = some expected) (hplain : PlainFilter (key, actual))
    (hequal : equal py actual expected = true) : actual = expected := by
  rcases identifier_cases r hexpected with ⟨hkey, address, rfl⟩ | ⟨hkey, n, rfl⟩
  · rcases hplain with ⟨text, hactual⟩ | ⟨hother, -⟩
    · obtain rfl : actual = .str text := hactual
      have htext : some address = some text := by simpa [equal] using hequal
      rw [Option.some.inj htext]
    · exact absurd hkey hother
  · rcases hplain with ⟨text, hactual⟩ | ⟨-, m, hactual⟩
    · obtain rfl : actual = .str text := hactual
      simp [equal, Json.str?] at hequal
    · obtain rfl : actual = .int m := hactual
      have hnumber : m = n := by simpa [equal, Json.int?] using hequal
      rw [hnumber]

theorem bindsEntity_of_no_errors {entity : Entity} {tool : String}
    {requirements : List (String × Json)} (hplain : ∀ filter ∈ requirements, PlainFilter filter)
    (h : entityEvidenceBindingErrors r entity tool requirements = []) :
    BindsEntity r entity tool requirements := by
  unfold entityEvidenceBindingErrors at h
  cases hkey : bindingKey entity.type tool with
  | none =>
    rw [hkey] at h
    cases h
  | some key =>
    rw [hkey] at h
    dsimp only at h
    cases hexpected : expectedBinding r entity key with
    | error error =>
      rw [hexpected] at h
      cases h
    | ok expected =>
      rw [hexpected] at h
      dsimp only at h
      have hidentifier := identifier_of_expectedBinding r hexpected
      cases hactual : requirements.lookup key with
      | none =>
        rw [hactual] at h
        cases h
      | some actual =>
        rw [hactual] at h
        dsimp only at h
        split at h
        · cases h
        · next hequal =>
          have hmem := Dicts.mem_of_lookup hactual
          have heq := eq_identifier_of_equal r hidentifier (hplain _ hmem) (by simpa using hequal)
          exact ⟨key, expected, hkey, hidentifier, by rw [hactual, heq]⟩

end Bindings

/-! ## Proposals -/

section Proposals

variable (r : PlanReader) {payload packet : Json} {p : Proposal}

/-- The row of a proposal whose strategy and capability are right. -/
theorem contract_of_no_errors (h : strategyErrors r payload p = []) :
    ∃ contract, p.contract = some contract ∧ p.capability = contract.capability := by
  unfold strategyErrors at h
  simp only [List.append_eq_nil_iff, check_eq_nil, and_assoc] at h
  obtain ⟨-, hstrategy, hrow, -, hcapability⟩ := h
  have hstrategy : isStrategy p.strategy = true := by simpa using hstrategy
  rw [hstrategy] at hrow hcapability
  cases hcontract : p.contract with
  | none => simp [hcontract] at hrow
  | some contract =>
    refine ⟨contract, rfl, ?_⟩
    simpa [hcontract] using hcapability

/-- A row that allows tools has one approved tool, and any other row has none. -/
theorem tools_of_no_errors {contract : PlanSemanticContract} (hcontract : p.contract = some contract)
    (h : toolErrors r payload p = []) :
    if contract.toolExecutionAllowed then ∃ tool ∈ approvedToolCategories, p.tools = [tool]
    else p.tools = [] := by
  unfold toolErrors at h
  simp only [List.append_eq_nil_iff, check_eq_nil, and_assoc, hcontract, Option.any_some] at h
  obtain ⟨-, -, -, happroved, hnone, hone⟩ := h
  split
  · next hallowed =>
    rw [hallowed] at hone
    have hlength : p.tools.length = 1 := by
      by_contra hlength
      simp [hlength] at hone
    obtain ⟨tool, htool⟩ := List.length_eq_one_iff.mp hlength
    refine ⟨tool, ?_, htool⟩
    simpa [htool] using happroved
  · next hallowed =>
    simpa [hallowed] using hnone

theorem requirements_of_no_errors {contract : PlanSemanticContract}
    (hcontract : p.contract = some contract) (hallowed : contract.evidenceFiltersAllowed = true)
    (h : filterErrors r p = []) : p.requirements ≠ [] := by
  unfold filterErrors at h
  simp only [List.append_eq_nil_iff, check_eq_nil, hcontract, Option.any_some] at h
  simpa [hallowed] using h.1

theorem entities_of_no_errors {contract : PlanSemanticContract} (hcontract : p.contract = some contract)
    (h : entityErrors r payload p = []) :
    contract.minimumEntities ≤ p.entities.length ∧ p.entities.length ≤ contract.maximumEntities := by
  unfold entityErrors at h
  simp only [List.append_eq_nil_iff, hcontract, check_eq_nil] at h
  simpa using h.1.2

theorem binding_of_no_errors {entity : Entity} {tool : String} (hentity : p.entities = [entity])
    (htool : p.tools = [tool]) (hlookup : p.strategy = "quick_evidence_lookup")
    (h : entityErrors r payload p = []) :
    entityEvidenceBindingErrors r entity tool p.requirements = [] := by
  unfold entityErrors at h
  have hbinding := (List.append_eq_nil_iff.mp h).2
  rw [hentity, htool] at hbinding
  simpa [hlookup] using hbinding

/-- A proposal without errors gives a plan that obeys the table. -/
theorem readProposal_plan_obeys {filters : Filters} {expectedAction : Option String}
    {preserved : List (String × Json)}
    (hfilters : validatedEvidenceRequirements r (payload.get "evidence_requirements")
      (singleTool (toolsOf r payload)) = .ok filters)
    (herrors : proposalErrors r payload packet (readProposal r payload filters.normalized)
      filters.errors expectedAction preserved = []) :
    ObeysContract r (readProposal r payload filters.normalized).plan := by
  unfold proposalErrors at herrors
  simp only [List.append_eq_nil_iff, and_assoc] at herrors
  obtain ⟨-, -, hstrategy, htool, hrequirement, hfilter, -, -, -, -, -, hentity, -⟩ := herrors
  obtain ⟨contract, hcontract, hcapability⟩ := contract_of_no_errors r hstrategy
  have hrow : contractOf (textField r payload "current_turn_intent" "")
      (textField r payload "proposed_strategy" "") = some contract := hcontract
  have hsound := validatedEvidenceRequirements_sound r hfilters hrequirement
  have htools := tools_of_no_errors r hcontract htool
  have hcount := entities_of_no_errors r hcontract hentity
  have hsupported := validatedPlannerEntities_supported r (payload.get "resolved_entities")
  refine ⟨contract, hrow, ?_⟩
  constructor
  case capability => exact hcapability
  case distinct => exact hsupported.distinct
  case supported => exact hsupported.supported
  case atLeast => exact hcount.1
  case atMost => exact hcount.2
  case filters => exact fun requirement hrequirement => (hsound requirement hrequirement).1
  case tools =>
    split at htools
    · next hallowed =>
      have hfilters := (filtersAllowed_eq_toolsAllowed hrow).trans hallowed
      exact .inr ⟨hallowed, requirements_of_no_errors r hcontract hfilters hfilter, htools⟩
    · exact .inl htools
  case binding =>
    intro entity hlookup hone
    rw [if_pos (toolsAllowed_of_lookup hrow hlookup)] at htools
    obtain ⟨tool, -, htool⟩ := htools
    refine ⟨tool, htool, ?_⟩
    apply bindsEntity_of_no_errors r fun requirement hrequirement =>
      (hsound requirement hrequirement).2
    exact binding_of_no_errors r hone htool hlookup hentity

end Proposals

/-! ## Texts of objects -/

section Texts

/-- The text of an object is read as it is: nothing is stripped, and its braces are seen. -/
theorem parseJsonObject_dumps {r : PlanReader} {fields : List (String × Json)}
    (h : r.loads (dumps (.obj fields)) = .ok (some (.obj fields))) :
    parseJsonObject r (dumps (.obj fields)) = .ok (some (.obj fields)) := by
  obtain ⟨inner, hchars⟩ : ∃ inner, chars (.obj fields) = '\x7b' :: inner ++ ['\x7d'] := ⟨_, rfl⟩
  have hstrip : strip (dumps (.obj fields)) = dumps (.obj fields) := by
    unfold strip dumps
    rw [String.toList_ofList, hchars]
    congr 1
    unfold stripChars
    simp [show isSpace '\x7b' = false from rfl, show isSpace '\x7d' = false from rfl]
  have hhead : (dumps (.obj fields)).toList.head? = some '\x7b' := by
    unfold dumps
    rw [String.toList_ofList, hchars]
    rfl
  have hlast : (dumps (.obj fields)).toList.getLast? = some '\x7d' := by
    unfold dumps
    rw [String.toList_ofList, hchars]
    exact List.getLast?_concat
  unfold parseJsonObject
  dsimp only
  rw [hstrip, hhead, hlast, h]
  rfl

end Texts

/-! ## Result -/

section Result

variable (r : PlanReader)

/-- Every accepted plan obeys the table. -/
theorem parseAndValidatePlan_obeys {content : String} {packet : Json} {expectedAction : Option String}
    {preserved : List (String × Json)} {plan : AgenticAnalystPlan} {errors : List PlanError}
    (h : parseAndValidatePlan r content packet expectedAction preserved = .ok (some plan, errors)) :
    ObeysContract r plan := by
  unfold parseAndValidatePlan at h
  obtain ⟨parsed, -, h⟩ := Checks.bind_eq_ok.mp h
  cases parsed with
  | none => cases h
  | some payload =>
    dsimp only at h
    unfold validatePlan at h
    split at h
    · cases h
    · obtain ⟨filters, hfilters, h⟩ := Checks.bind_eq_ok.mp h
      dsimp only at h
      split at h
      · next hnone =>
        cases h
        exact readProposal_plan_obeys r hfilters (List.isEmpty_iff.mp hnone)
      · cases h

/-- A plan of a shortcut has one of four rows, and the entity of the request. -/
theorem deterministicShortcutPlan_eq_ok {py : Python} {packet : Json} {capability : String}
    {plan : AgenticAnalystPlan} (h : deterministicShortcutPlan py packet capability = .ok plan) :
    ∃ row entity artifactType, shortcutRow capability = some row ∧
      shortcutEntity py packet = some entity ∧
      plan = shortcutPlan capability row entity artifactType := by
  unfold deterministicShortcutPlan at h
  cases hrow : shortcutRow capability with
  | none =>
    rw [hrow] at h
    cases h
  | some row =>
    rw [hrow] at h
    dsimp only at h
    cases hentity : shortcutEntity py packet with
    | none =>
      rw [hentity] at h
      cases h
    | some entity =>
      rw [hentity] at h
      dsimp only at h
      split at h
      · cases h
      · exact ⟨row, entity, _, rfl, rfl, (Except.ok.inj h).symm⟩

/-- The rows of shortcuts are in the table: one entity, and the capability that is asked for. -/
theorem contractOf_shortcutRow {capability : String} {row : String × String}
    (h : shortcutRow capability = some row) :
    ∃ contract, contractOf row.1 row.2 = some contract ∧ contract.capability = some capability ∧
      contract.minimumEntities = 1 ∧ contract.maximumEntities = 1 ∧
      row.2 ≠ "quick_evidence_lookup" := by
  unfold shortcutRow at h
  split at h <;> cases h <;> exact ⟨_, rfl, rfl, rfl, rfl, by decide⟩

theorem shortcutPlan_obeys_iff {capability : String} {row : String × String} {entity : Entity}
    {artifactType : Option String} (hrow : shortcutRow capability = some row) :
    ObeysContract r (shortcutPlan capability row entity artifactType) ↔
      entity.type ∈ plannerEntityTypes := by
  obtain ⟨contract, hcontract, hcapability, hmin, hmax, hlookup⟩ := contractOf_shortcutRow hrow
  constructor
  · intro ⟨_, _, hobeys⟩
    exact hobeys.supported entity List.mem_cons_self
  · intro htype
    refine ⟨contract, hcontract, ?_⟩
    constructor
    case capability => exact hcapability.symm
    case distinct => exact List.nodup_singleton _
    case supported =>
      intro other hother
      rw [List.mem_singleton.mp hother]
      exact htype
    case atLeast => exact hmin.le
    case atMost => exact hmax.ge
    case tools => exact .inl rfl
    case filters => exact fun _ hrequirement => absurd hrequirement List.not_mem_nil
    case binding => exact fun _ hstrategy => absurd hstrategy hlookup

/-- The entity that a shortcut plans for, where there is one, has a type that the planner supports. -/
def SupportedRequest (py : Python) (packet : Json) : Prop :=
  ∀ entity, shortcutEntity py packet = some entity → entity.type ∈ plannerEntityTypes

/-- Accepted plans obey the table.  A plan of a shortcut does exactly for a request whose entity has a supported
type. -/
theorem produced_plans_obey_contract :
    (∀ content packet expectedAction preserved plan errors,
      parseAndValidatePlan r content packet expectedAction preserved = .ok (some plan, errors) →
      ObeysContract r plan) ∧
    ∀ packet capability plan, deterministicShortcutPlan r.py packet capability = .ok plan →
      (ObeysContract r plan ↔ SupportedRequest r.py packet) := by
  refine ⟨fun _ _ _ _ _ _ h => parseAndValidatePlan_obeys r h, ?_⟩
  intro packet capability plan h
  obtain ⟨row, entity, artifactType, hrow, hentity, rfl⟩ := deterministicShortcutPlan_eq_ok h
  rw [shortcutPlan_obeys_iff r hrow]
  constructor
  · intro htype other hother
    rw [← Option.some.inj (hentity.symm.trans hother)]
    exact htype
  · exact fun hsupported => hsupported entity hentity

end Result

/-- A proposal to look up one alert. -/
def lookupProposal : Json :=
  .obj
    [ ("current_turn_intent", .str "fresh_evidence_lookup"), ("evidence_requirements", .obj
        [("alert_id", .int 7)]),
      ("evidence_sufficiency", .str "insufficient"), ("proposed_capability", .str "quick_explain"),
      ("proposed_strategy", .str "quick_evidence_lookup"),
      ("proposed_tool_categories", .arr [.str "alerts"]), ("reasoning_summary", .str "Read alert 7."),
      ("relationship_to_prior_turn", .str "new_question"),
      ("required_evidence", .arr [.str "the alert"]),
      ("resolved_entities", .arr [.obj [("id", .str "7"), ("type", .str "alert")]]) ]

/-- The plan of the proposal. -/
def lookupPlan : AgenticAnalystPlan where
  currentTurnIntent := "fresh_evidence_lookup"
  relationshipToPriorTurn := "new_question"
  resolvedEntities := [⟨"alert", "7", ""⟩]
  evidenceSufficiency := "insufficient"
  requiredEvidence := ["the alert"]
  proposedStrategy := "quick_evidence_lookup"
  proposedCapability := some "quick_explain"
  proposedToolCategories := ["alerts"]
  evidenceRequirements := [("alert_id", .int 7)]
  evidenceFilterProvenance := [("alert_id", "planner_interpreted")]
  artifactType := none
  referencedTurnSequence := none
  clarificationQuestion := none
  reasoningSummary := "Read alert 7."
  stoppingCondition := "Stop after one bounded read returns enough evidence to answer the current turn."
  confidence := "unknown"
  readOnly := true
  mutationAllowed := false

/-- Reads the text of one proposal; ids have ASCII digits. -/
def proposalReader : PlanReader where
  py := ⟨fun _ => "", fun _ => "", fun _ _ => .error ""⟩
  decimal c := if c.isDigit then some (c.toNat - '0'.toNat) else none
  truncated := fun _ => none
  contract := ""
  loads text := .ok (if text = dumps lookupProposal then some lookupProposal else none)
  canonicalIp := fun _ => none

theorem lookupProposal_loads :
    proposalReader.loads (dumps lookupProposal) = .ok (some lookupProposal) := by
  show Except.ok (if dumps lookupProposal = dumps lookupProposal then some lookupProposal else none) = _
  rw [if_pos rfl]

theorem lookupProposal_small : ¬ plannerPlanMaxChars < jsonSize lookupProposal := by
  have hlength : encodedLength lookupProposal ≤ 1000 := by decide +kernel
  rw [jsonSize_eq]
  unfold plannerPlanMaxChars
  omega

/-- A packet whose request names an entity. -/
def requestPacket (type id : String) : Json :=
  .obj [("facts", .obj [("entities", .arr [.obj
    [("type", .str type), ("id", .str id), ("source_type", .str "request_context")]])])]

/-- The proposal is accepted, and so is a shortcut to an alert. -/
theorem produced_plans_obey_contract_alert :
    parseAndValidatePlan proposalReader (dumps lookupProposal) (.obj []) none [] =
        .ok (some lookupPlan, []) ∧
      ObeysContract proposalReader lookupPlan ∧
      ∃ plan, deterministicShortcutPlan proposalReader.py (requestPacket "alert" "7") "quick_explain" =
          .ok plan ∧
        ObeysContract proposalReader plan := by
  have hparse : parseAndValidatePlan proposalReader (dumps lookupProposal) (.obj []) none [] =
      .ok (some lookupPlan, []) := by
    have hvalid : validatePlan proposalReader lookupProposal (.obj []) none [] =
        .ok (some lookupPlan, []) := by
      unfold validatePlan
      rw [if_neg lookupProposal_small]
      exact Checks.toOption_eq_some.mp (by decide +kernel)
    have hobject : parseJsonObject proposalReader (dumps lookupProposal) = .ok (some lookupProposal) :=
      parseJsonObject_dumps lookupProposal_loads
    unfold parseAndValidatePlan
    exact Checks.bind_eq_ok.mpr ⟨some lookupProposal, hobject, hvalid⟩
  have hshortcut : (deterministicShortcutPlan proposalReader.py (requestPacket "alert" "7")
      "quick_explain").isOk = true := by decide +kernel
  obtain ⟨plan, hplan⟩ := Checks.isOk_iff.mp hshortcut
  refine ⟨hparse, (produced_plans_obey_contract proposalReader).1 _ _ _ _ _ _ hparse, plan, hplan, ?_⟩
  apply ((produced_plans_obey_contract proposalReader).2 _ _ _ hplan).mpr
  intro entity hentity
  have halert : shortcutEntity proposalReader.py (requestPacket "alert" "7") = some ⟨"alert", "7", ""⟩ := by
    decide +kernel
  rw [← Option.some.inj (halert.symm.trans hentity)]
  decide

/-- A shortcut to a host is planned, and its entity has no supported type. -/
theorem shortcut_to_unsupported_entity :
    ∃ plan, deterministicShortcutPlan proposalReader.py (requestPacket "host" "web-01") "quick_explain" =
        .ok plan ∧
      plan.resolvedEntities = [⟨"host", "web-01", ""⟩] ∧ ¬ ObeysContract proposalReader plan := by
  have hshortcut : deterministicShortcutPlan proposalReader.py (requestPacket "host" "web-01")
      "quick_explain" = .ok (shortcutPlan "quick_explain" ("evidence_explanation", "direct_answer")
        ⟨"host", "web-01", ""⟩ none) := Checks.toOption_eq_some.mp (by decide +kernel)
  refine ⟨_, hshortcut, rfl, ?_⟩
  intro ⟨contract, _, hobeys⟩
  have htype := hobeys.supported ⟨"host", "web-01", ""⟩ List.mem_cons_self
  exact absurd htype (by decide)

end SiemDashboard.AgenticAnalystPlanner
