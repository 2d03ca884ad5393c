import SiemDashboard.Engines.RuleDocuments
import SiemDashboard.Verification.TemporaryRules

/-!
# The contract of temporary rules

What the contract accepts, and that what it returns is accepted again.

* **Values** — `Scalar.Comparable`, `Compares`: what a field may be compared with; `validateValue_json`.
* **Conditions** — `Predicate.WellFormed`; `validateNode_json`: a condition written out is accepted within the
  limits of depth and size; `validateNode_sound`.
* **Evaluation** — `Predicate.holds`, `evaluate_eq`: what a condition says of the fields of an event;
  `holds_trim`.
* **Rules** — `ContractAccepts`, `contract_eq_ok`: the contract, check by check; `TemporaryRule.Valid`.
* **Result** — `contract_image`.
-/

namespace SiemDashboard.DetectionSimulator

open Python Checks

/-! ## Values -/

section Values

variable {field : Field} {operator : Operator}

/-- The scalar is one that the field may be compared with. -/
def Scalar.Comparable (field : Field) : Scalar → Prop
  | .int n => field.isNumeric = true ∧ -65535 ≤ n ∧ n ≤ 65535
  | .text s => field.isNumeric = false ∧ strip s ≠ "" ∧ (strip s).length ≤ maxTempStringLength

/-- The shape of a value that an operator takes. -/
def Expected.Shaped (operator : Operator) : Expected → Prop
  | .scalar _ => operator ≠ .inList
  | .list items => operator = .inList ∧ items ≠ [] ∧ items.length ≤ 20

/-- A field may be compared with a value by an operator. -/
structure Compares (field : Field) (operator : Operator) (value : Expected) : Prop where
  allowed : (if field.isNumeric then operator.forNumbers else operator.forStrings) = true
  shaped : value.Shaped operator
  comparable : ∀ scalar ∈ value.scalars, scalar.Comparable field

theorem validateNonEmptyString_eq_ok {value : Json} {fieldName text : String} {maxLength : Nat} :
    validateNonEmptyString value fieldName maxLength = .ok text ↔
      ∃ s, value = .str s ∧ strip s ≠ "" ∧ (strip s).length ≤ maxLength ∧ text = strip s := by
  unfold validateNonEmptyString
  cases value with
  | str s =>
    dsimp only
    by_cases hblank : strip s = ""
    · rw [if_pos hblank]
      constructor
      · intro h
        cases h
      · intro ⟨s', hs, hne, _, _⟩
        cases hs
        exact absurd hblank hne
    · rw [if_neg hblank]
      by_cases hlong : maxLength < (strip s).length
      · rw [if_pos hlong]
        constructor
        · intro h
          cases h
        · intro ⟨s', hs, _, hle, _⟩
          cases hs
          omega
      · rw [if_neg hlong]
        constructor
        · intro h
          cases h
          exact ⟨s, rfl, hblank, by omega, rfl⟩
        · intro ⟨s', hs, _, _, htext⟩
          cases hs
          rw [htext]
  | _ => simp

theorem validateBoundedInt_json {n m : Int} {fieldName : String} {minimum maximum : Int} :
    validateBoundedInt (.int n) fieldName minimum maximum = .ok m ↔
      (minimum ≤ n ∧ n ≤ maximum) ∧ m = n := by
  unfold validateBoundedInt
  dsimp only
  by_cases hbounds : n < minimum ∨ maximum < n
  · rw [if_pos hbounds]
    constructor
    · intro h
      cases h
    · intro h
      omega
  · rw [if_neg hbounds]
    constructor
    · intro h
      cases h
      exact ⟨by omega, rfl⟩
    · intro h
      rw [h.2]

/-- What is accepted of any value may be compared with the field, and is as it would be written out. -/
theorem validateScalar_sound {value : Json} {fieldName : String} {scalar : Scalar}
    (h : validateScalar field value fieldName = .ok scalar) :
    scalar.Comparable field ∧ scalar.trim = scalar := by
  rw [validateScalar] at h
  split at h
  · next hnumeric =>
    obtain ⟨n, hn, rfl⟩ := map_eq_ok.mp h
    exact ⟨⟨hnumeric, validateBoundedInt_eq_ok hn⟩, rfl⟩
  · next hnumeric =>
    obtain ⟨text, htext, rfl⟩ := map_eq_ok.mp h
    obtain ⟨s, -, hne, hlength, rfl⟩ := validateNonEmptyString_eq_ok.mp htext
    refine ⟨⟨Bool.eq_false_iff.mpr hnumeric, ?_, ?_⟩, ?_⟩
    · rwa [strip_strip]
    · rwa [strip_strip]
    · rw [Scalar.trim, strip_strip]

theorem validateScalar_json {value scalar : Scalar} {fieldName : String} :
    validateScalar field value.json fieldName = .ok scalar ↔
      value.Comparable field ∧ scalar = value.trim := by
  rw [validateScalar]
  cases hnumeric : field.isNumeric with
  | true =>
    rw [if_pos rfl, map_eq_ok]
    cases value with
    | int n =>
      constructor
      · rintro ⟨m, hm, hscalar⟩
        obtain ⟨hbounds, rfl⟩ := validateBoundedInt_json.mp hm
        exact ⟨⟨hnumeric, hbounds⟩, hscalar.symm⟩
      · rintro ⟨hcomparable, hscalar⟩
        exact ⟨n, validateBoundedInt_json.mpr ⟨hcomparable.2, rfl⟩, hscalar.symm⟩
    | text s =>
      constructor
      · rintro ⟨m, hm, _⟩
        cases hm
      · rintro ⟨hcomparable, _⟩
        rw [Scalar.Comparable, hnumeric] at hcomparable
        cases hcomparable.1
  | false =>
    rw [if_neg Bool.false_ne_true, map_eq_ok]
    cases value with
    | int n =>
      constructor
      · rintro ⟨text, htext, _⟩
        cases htext
      · rintro ⟨hcomparable, _⟩
        rw [Scalar.Comparable, hnumeric] at hcomparable
        cases hcomparable.1
    | text s =>
      constructor
      · rintro ⟨text, htext, hscalar⟩
        obtain ⟨s', hs, hne, hlength, rfl⟩ := validateNonEmptyString_eq_ok.mp htext
        cases hs
        exact ⟨⟨hnumeric, hne, hlength⟩, hscalar.symm⟩
      · rintro ⟨hcomparable, hscalar⟩
        exact ⟨strip s, validateNonEmptyString_eq_ok.mpr
          ⟨s, rfl, hcomparable.2.1, hcomparable.2.2, rfl⟩, hscalar.symm⟩

/-- What is accepted of any value may be compared with the field by the operator. -/
theorem validateValue_sound {value : Json} {expected : Expected}
    (h : validateTemporaryRuleValue field operator value = .ok expected) :
    Compares field operator expected ∧ expected.trim = expected := by
  unfold validateTemporaryRuleValue at h
  cases hallowed : (if field.isNumeric then operator.forNumbers else operator.forStrings) with
  | false =>
    rw [hallowed, Bool.not_false, if_pos rfl] at h
    cases h
  | true =>
    rw [hallowed, Bool.not_true, if_neg Bool.false_ne_true] at h
    split at h
    · next hlist =>
      split at h
      · next items =>
        split at h
        · cases h
        · next hsize =>
          obtain ⟨scalars, hscalars, rfl⟩ := map_eq_ok.mp h
          have hsound : ∀ scalar ∈ scalars, scalar.Comparable field ∧ scalar.trim = scalar := by
            intro scalar hscalar
            obtain ⟨item, -, hitem⟩ := exists_of_mem_mapM hscalars hscalar
            exact validateScalar_sound hitem
          have hlength : scalars.length = items.length := (mapM_forall₂ hscalars).length_eq.symm
          rw [not_or, Bool.not_eq_true, List.isEmpty_eq_false_iff] at hsize
          refine ⟨⟨hallowed, ⟨hlist, fun hnil => ?_, by omega⟩, fun scalar hscalar =>
            (hsound scalar hscalar).1⟩, ?_⟩
          · rw [hnil] at hlength
            exact hsize.1 (List.length_eq_zero_iff.mp hlength.symm)
          · rw [Expected.trim, List.map_congr_left fun scalar hscalar => (hsound scalar hscalar).2,
              List.map_id']
      · cases h
    · next hlist =>
      obtain ⟨scalar, hscalar, rfl⟩ := map_eq_ok.mp h
      have hsound := validateScalar_sound hscalar
      refine ⟨⟨hallowed, hlist, fun other hother => ?_⟩, congrArg Expected.scalar hsound.2⟩
      rw [List.mem_singleton.mp hother]
      exact hsound.1

/-- A value written out is accepted where the field may be compared with it. -/
theorem validateValue_json {value expected : Expected} :
    validateTemporaryRuleValue field operator value.json = .ok expected ↔
      Compares field operator value ∧ expected = value.trim := by
  unfold validateTemporaryRuleValue
  cases hallowed : (if field.isNumeric then operator.forNumbers else operator.forStrings) with
  | false =>
    rw [Bool.not_false, if_pos rfl]
    constructor
    · intro h
      cases h
    · intro ⟨hcompares, _⟩
      have htrue := hcompares.allowed
      rw [hallowed] at htrue
      cases htrue
  | true =>
    rw [Bool.not_true, if_neg Bool.false_ne_true]
    by_cases hlist : operator = .inList
    · rw [if_pos hlist]
      cases value with
      | scalar scalar =>
        constructor
        · intro h
          cases scalar <;> cases h
        · intro ⟨hcompares, _⟩
          exact absurd hlist hcompares.shaped
      | list items =>
        dsimp only [Expected.json]
        rw [List.isEmpty_map, List.length_map]
        by_cases hsize : items.isEmpty = true ∨ 20 < items.length
        · rw [if_pos hsize]
          constructor
          · intro h
            cases h
          · intro ⟨hcompares, _⟩
            obtain ⟨-, hne, hlength⟩ := hcompares.shaped
            rcases hsize with hempty | hlong
            · exact absurd (List.isEmpty_iff.mp hempty) hne
            · omega
        · rw [if_neg hsize, map_eq_ok]
          rw [not_or, Bool.not_eq_true, List.isEmpty_eq_false_iff] at hsize
          have hmap (scalars : List Scalar) :
              (items.map Scalar.json).mapM (fun item => validateScalar field item "condition.value item") =
                  .ok scalars ↔
                (∀ item ∈ items, item.Comparable field) ∧ scalars = items.map Scalar.trim := by
            rw [List.mapM_map]
            exact mapM_eq_ok_map fun item _ scalar => validateScalar_json
          constructor
          · intro ⟨scalars, hscalars, hexpected⟩
            obtain ⟨hall, rfl⟩ := (hmap scalars).mp hscalars
            exact ⟨⟨hallowed, ⟨hlist, hsize.1, by omega⟩, hall⟩, hexpected.symm⟩
          · intro ⟨hcompares, hexpected⟩
            exact ⟨items.map Scalar.trim, (hmap _).mpr ⟨hcompares.comparable, rfl⟩, hexpected.symm⟩
    · rw [if_neg hlist, map_eq_ok]
      cases value with
      | scalar scalar =>
        constructor
        · intro ⟨found, hfound, hexpected⟩
          obtain ⟨hcomparable, rfl⟩ := validateScalar_json.mp hfound
          refine ⟨⟨hallowed, hlist, fun other hother => ?_⟩, hexpected.symm⟩
          rwa [List.mem_singleton.mp hother]
        · intro ⟨hcompares, hexpected⟩
          exact ⟨scalar.trim, validateScalar_json.mpr
            ⟨hcompares.comparable scalar (List.mem_singleton_self scalar), rfl⟩, hexpected.symm⟩
      | list items =>
        constructor
        · intro ⟨found, hfound, _⟩
          rw [validateScalar] at hfound
          split at hfound
          · cases hfound
          · cases hfound
        · intro ⟨hcompares, _⟩
          exact absurd hcompares.shaped.1 hlist

end Values

/-! ## Conditions -/

section Conditions

variable {source : Source}

/-- Every field is one of the source, and is compared with what it may be compared with. -/
inductive Predicate.WellFormed (source : Source) : Predicate → Prop
  | leaf {field : Field} {operator : Operator} {value : Expected} (hfield : field ∈ source.allowedFields)
      (hvalue : Compares field operator value) : WellFormed source (.leaf field operator value)
  | all {children : List Predicate} (hne : children ≠ [])
      (h : ∀ child ∈ children, WellFormed source child) : WellFormed source (.all children)
  | any {children : List Predicate} (hne : children ≠ [])
      (h : ∀ child ∈ children, WellFormed source child) : WellFormed source (.any children)
  | negation {child : Predicate} (h : WellFormed source child) : WellFormed source (.negation child)

theorem Field.name_inj {field other : Field} (h : field.name = other.name) : field = other := by
  cases field <;> cases other <;> first | rfl | exact absurd h (by decide)

theorem find?_name {fields : List Field} {field : Field} (h : field ∈ fields) :
    fields.find? (·.name = field.name) = some field := by
  cases hfind : fields.find? (·.name = field.name) with
  | none =>
    have hnone := List.find?_eq_none.mp hfind field h
    simp at hnone
  | some other =>
    have hother := List.find?_some hfind
    rw [Field.name_inj (of_decide_eq_true hother)]

theorem validate_fieldName (field : Field) (fieldName : String) :
    validateNonEmptyString (.str field.name) fieldName maxTempStringLength = .ok field.name := by
  refine validateNonEmptyString_eq_ok.mpr ⟨_, rfl, ?_⟩
  cases field <;> decide +kernel

theorem validate_operatorName (operator : Operator) (fieldName : String) :
    validateNonEmptyString (.str operator.name) fieldName 32 = .ok operator.name := by
  refine validateNonEmptyString_eq_ok.mpr ⟨_, rfl, ?_⟩
  cases operator <;> decide +kernel

theorem Operator.ofName?_name (operator : Operator) : Operator.ofName? operator.name = some operator := by
  cases operator <;> decide

theorem validateLeaf_json {field : Field} {operator : Operator} {value : Expected} {predicate : Predicate} :
    validateLeaf source (Predicate.leaf field operator value).json = .ok predicate ↔
      (field ∈ source.allowedFields ∧ Compares field operator value) ∧
        predicate = .leaf field operator value.trim := by
  have hname := validate_fieldName field "temporary_rule.condition.field"
  have hoperator := validate_operatorName operator "temporary_rule.condition.operator"
  unfold validateLeaf
  rw [bind_eq_ok]
  constructor
  · intro ⟨name, hname', h⟩
    cases hname'.symm.trans hname
    cases hfind : source.allowedFields.find? (·.name = field.name) with
    | none =>
      rw [hfind] at h
      cases h
    | some other =>
      have hsame := List.find?_some hfind
      have hother : other = field := Field.name_inj (of_decide_eq_true hsame)
      have hfield : field ∈ source.allowedFields := hother ▸ List.mem_of_find?_eq_some hfind
      rw [hfind, hother] at h
      obtain ⟨operatorName, hoperator', h⟩ := bind_eq_ok.mp h
      cases hoperator'.symm.trans hoperator
      rw [Operator.ofName?_name] at h
      obtain ⟨expected, hexpected, h⟩ := bind_eq_ok.mp h
      obtain ⟨hcompares, rfl⟩ := validateValue_json.mp hexpected
      cases h
      exact ⟨⟨hfield, hcompares⟩, rfl⟩
  · intro ⟨⟨hfield, hcompares⟩, hpredicate⟩
    refine ⟨field.name, hname, ?_⟩
    rw [find?_name hfield]
    refine bind_eq_ok.mpr ⟨operator.name, hoperator, ?_⟩
    rw [Operator.ofName?_name]
    refine bind_eq_ok.mpr ⟨value.trim, validateValue_json.mpr ⟨hcompares, rfl⟩, ?_⟩
    rw [hpredicate]
    rfl

theorem validateLeaf_sound {condition : Json} {predicate : Predicate}
    (h : validateLeaf source condition = .ok predicate) :
    predicate.WellFormed source ∧ predicate.trim = predicate ∧ predicate.depth = 1 ∧
      predicate.nodes = 1 := by
  unfold validateLeaf at h
  obtain ⟨name, -, h⟩ := bind_eq_ok.mp h
  split at h
  · cases h
  · next field hfind =>
    obtain ⟨operatorName, -, h⟩ := bind_eq_ok.mp h
    split at h
    · cases h
    · next operator _ =>
      obtain ⟨expected, hexpected, h⟩ := bind_eq_ok.mp h
      obtain ⟨hcompares, htrim⟩ := validateValue_sound hexpected
      cases h
      refine ⟨.leaf (List.mem_of_find?_eq_some hfind) hcompares, ?_, rfl, rfl⟩
      rw [Predicate.trim, htrim]

theorem nodes_pos (predicate : Predicate) : 0 < predicate.nodes := by
  cases predicate <;> rw [Predicate.nodes] <;> omega

/-- What a node that has been accepted is like. -/
structure Accepted (source : Source) (depth count : Nat) (predicate : Predicate) (total : Nat) : Prop where
  wellFormed : predicate.WellFormed source
  trimmed : predicate.trim = predicate
  depth_le : predicate.depth ≤ depth
  total_eq : total = count + predicate.nodes
  total_le : total ≤ maxTempPredicateNodes

/-- Likewise for the nodes of a list. -/
structure AcceptedAll (source : Source) (depth count : Nat) (predicates : List Predicate) (total : Nat) :
    Prop where
  wellFormed : ∀ predicate ∈ predicates, predicate.WellFormed source
  trimmed : trimOf predicates = predicates
  depth_le : depthOf predicates ≤ depth
  total_eq : total = count + nodesOf predicates
  total_le : total ≤ maxTempPredicateNodes

theorem validateChildren_sound {validate : Json → Nat → Except String (Predicate × Nat)} {depth : Nat}
    (hvalidate : ∀ condition count predicate total, validate condition count = .ok (predicate, total) →
      Accepted source depth count predicate total)
    {children : List Json} {count : Nat} {predicates : List Predicate} {total : Nat}
    (hcount : count ≤ maxTempPredicateNodes)
    (h : validateChildren validate children count = .ok (predicates, total)) :
    AcceptedAll source depth count predicates total ∧ predicates.length = children.length := by
  induction children generalizing count predicates total with
  | nil =>
    cases h
    exact ⟨⟨List.forall_mem_nil _, rfl, Nat.zero_le _, rfl, hcount⟩, rfl⟩
  | cons child children ih =>
    rw [validateChildren] at h
    obtain ⟨⟨first, middle⟩, hfirst, h⟩ := bind_eq_ok.mp h
    obtain ⟨⟨rest, last⟩, hrest, h⟩ := bind_eq_ok.mp h
    cases h
    have haccepted := hvalidate child count first middle hfirst
    obtain ⟨hall, hlength⟩ := ih haccepted.total_le hrest
    refine ⟨⟨List.forall_mem_cons.mpr ⟨haccepted.wellFormed, hall.wellFormed⟩, ?_, ?_, ?_, hall.total_le⟩, ?_⟩
    · rw [trimOf, haccepted.trimmed, hall.trimmed]
    · rw [depthOf]
      exact Nat.max_le.mpr ⟨haccepted.depth_le, hall.depth_le⟩
    · rw [nodesOf, hall.total_eq, haccepted.total_eq, Nat.add_assoc]
    · rw [List.length_cons, List.length_cons, hlength]

theorem childList_eq_ok {value : Json} {key : String} {children : List Json}
    (h : childList value key = .ok children) :
    value = .arr children ∧ children ≠ [] ∧ children.length ≤ maxTempPredicateNodes := by
  unfold childList at h
  split at h
  · cases h
  · next items hne =>
    split at h
    · cases h
    · cases h
      exact ⟨rfl, hne, by omega⟩
  · cases h

/-- What is under `all` or `any`. -/
theorem nodeList_sound {validate : Json → Nat → Except String (Predicate × Nat)} {depth : Nat}
    (hvalidate : ∀ condition count predicate total, validate condition count = .ok (predicate, total) →
      Accepted source depth count predicate total)
    {value : Json} {key : String} {wrap : List Predicate → Predicate} {count total : Nat}
    {predicate : Predicate} (hcount : count ≤ maxTempPredicateNodes)
    (h : (do
      let children ← childList value key
      let result ← validateChildren validate children count
      return (wrap result.1, result.2)) = .ok (predicate, total)) :
    ∃ predicates, predicate = wrap predicates ∧ predicates ≠ [] ∧
      AcceptedAll source depth count predicates total := by
  obtain ⟨children, hlist, h⟩ := bind_eq_ok.mp h
  obtain ⟨⟨predicates, last⟩, hpredicates, h⟩ := bind_eq_ok.mp h
  cases h
  obtain ⟨hall, hlength⟩ := validateChildren_sound hvalidate hcount hpredicates
  obtain ⟨-, hne, -⟩ := childList_eq_ok hlist
  refine ⟨predicates, rfl, fun hnil => ?_, hall⟩
  rw [hnil] at hlength
  exact hne (List.length_eq_zero_iff.mp hlength.symm)

/-- What the validator accepts of any document is well formed and within the limits. -/
theorem validateNode_sound {depth count total : Nat} {condition : Json} {predicate : Predicate}
    (h : validatePredicateNode source depth condition count = .ok (predicate, total)) :
    Accepted source depth count predicate total := by
  induction depth generalizing condition count predicate total with
  | zero =>
    rw [validatePredicateNode] at h
    split at h <;> cases h
  | succ depth ih =>
    rw [validatePredicateNode] at h
    split at h
    · cases h
    · next hcount =>
      have hroom : count + 1 ≤ maxTempPredicateNodes := by omega
      split at h
      · obtain ⟨leaf, hleaf, heq⟩ := map_eq_ok.mp h
        obtain ⟨hwell, htrim, hdepth, hnodes⟩ := validateLeaf_sound hleaf
        cases heq
        exact ⟨hwell, htrim, by omega, by omega, by omega⟩
      · split at h
        · obtain ⟨predicates, rfl, hne, hall⟩ := nodeList_sound (fun _ _ _ _ hnode => ih hnode) hroom h
          refine ⟨.all hne hall.wellFormed, ?_, ?_, ?_, hall.total_le⟩
          · rw [Predicate.trim, hall.trimmed]
          · rw [Predicate.depth]
            exact Nat.succ_le_succ hall.depth_le
          · rw [Predicate.nodes, hall.total_eq]
            omega
        · split at h
          · obtain ⟨predicates, rfl, hne, hall⟩ := nodeList_sound (fun _ _ _ _ hnode => ih hnode) hroom h
            refine ⟨.any hne hall.wellFormed, ?_, ?_, ?_, hall.total_le⟩
            · rw [Predicate.trim, hall.trimmed]
            · rw [Predicate.depth]
              exact Nat.succ_le_succ hall.depth_le
            · rw [Predicate.nodes, hall.total_eq]
              omega
          · split at h
            · split at h
              · obtain ⟨⟨child, last⟩, hchild, h⟩ := bind_eq_ok.mp h
                cases h
                have haccepted := ih hchild
                refine ⟨.negation haccepted.wellFormed, ?_, ?_, ?_, haccepted.total_le⟩
                · rw [Predicate.trim, haccepted.trimmed]
                · rw [Predicate.depth]
                  exact Nat.succ_le_succ haccepted.depth_le
                · show last = count + (child.nodes + 1)
                  rw [haccepted.total_eq]
                  omega
              · cases h
            · cases h

/-- The condition may be written out where a node is expected. -/
structure Predicate.FitsAt (source : Source) (depth count : Nat) (predicate : Predicate) : Prop where
  wellFormed : predicate.WellFormed source
  depth_le : predicate.depth ≤ depth
  nodes_le : count + predicate.nodes ≤ maxTempPredicateNodes

/-- Likewise for the nodes of a list. -/
structure FitAt (source : Source) (depth count : Nat) (predicates : List Predicate) : Prop where
  wellFormed : ∀ predicate ∈ predicates, predicate.WellFormed source
  depth_le : depthOf predicates ≤ depth
  nodes_le : count + nodesOf predicates ≤ maxTempPredicateNodes

/-- A condition written out is read as itself, with its texts stripped, where it fits. -/
def ReadsBack (source : Source) (depth : Nat) (predicate : Predicate) : Prop :=
  ∀ count read total, validatePredicateNode source depth predicate.json count = .ok (read, total) ↔
    predicate.FitsAt source depth count ∧ read = predicate.trim ∧ total = count + predicate.nodes

theorem validateChildren_json {depth count total : Nat} {children read : List Predicate}
    (hchildren : ∀ child ∈ children, ReadsBack source depth child) (hcount : count ≤ maxTempPredicateNodes) :
    validateChildren (validatePredicateNode source depth) (documentsOf children) count = .ok (read, total) ↔
      FitAt source depth count children ∧ read = trimOf children ∧ total = count + nodesOf children := by
  induction children generalizing count read total with
  | nil =>
    constructor
    · intro h
      cases h
      exact ⟨⟨List.forall_mem_nil _, Nat.zero_le _, hcount⟩, rfl, rfl⟩
    · intro ⟨_, hread, htotal⟩
      rw [hread, htotal]
      rfl
  | cons child children ih =>
    obtain ⟨hchild, hrest⟩ := List.forall_mem_cons.mp hchildren
    rw [documentsOf, validateChildren, bind_eq_ok]
    constructor
    · intro ⟨⟨first, middle⟩, hfirst, h⟩
      obtain ⟨⟨rest, last⟩, hlast, h⟩ := bind_eq_ok.mp h
      cases h
      obtain ⟨hfits, rfl, rfl⟩ := (hchild _ _ _).mp hfirst
      obtain ⟨hfit, rfl, rfl⟩ := (ih hrest hfits.nodes_le).mp hlast
      refine ⟨⟨List.forall_mem_cons.mpr ⟨hfits.wellFormed, hfit.wellFormed⟩, ?_, ?_⟩, ?_, ?_⟩
      · rw [depthOf]
        exact Nat.max_le.mpr ⟨hfits.depth_le, hfit.depth_le⟩
      · rw [nodesOf, ← Nat.add_assoc]
        exact hfit.nodes_le
      · rw [trimOf]
      · rw [nodesOf, Nat.add_assoc]
    · intro ⟨hfit, hread, htotal⟩
      obtain ⟨hwell, hwells⟩ := List.forall_mem_cons.mp hfit.wellFormed
      have hdepth := hfit.depth_le
      have hnodes := hfit.nodes_le
      rw [depthOf, Nat.max_le] at hdepth
      rw [nodesOf] at hnodes
      have hfirst : validatePredicateNode source depth child.json count =
          .ok (child.trim, count + child.nodes) :=
        (hchild _ _ _).mpr ⟨⟨hwell, hdepth.1, by omega⟩, rfl, rfl⟩
      have hlast : validateChildren (validatePredicateNode source depth) (documentsOf children)
          (count + child.nodes) = .ok (trimOf children, count + child.nodes + nodesOf children) :=
        (ih hrest (by omega)).mpr ⟨⟨hwells, hdepth.2, by omega⟩, rfl, rfl⟩
      refine ⟨_, hfirst, bind_eq_ok.mpr ⟨_, hlast, ?_⟩⟩
      rw [hread, htotal, trimOf, nodesOf, Nat.add_assoc]
      rfl

theorem length_le_nodesOf (children : List Predicate) : children.length ≤ nodesOf children := by
  induction children with
  | nil => exact Nat.zero_le _
  | cons child children ih =>
    have hpos := nodes_pos child
    rw [List.length_cons, nodesOf]
    omega

theorem documentsOf_eq (children : List Predicate) : documentsOf children = children.map Predicate.json := by
  induction children with
  | nil => rfl
  | cons child children ih => rw [documentsOf, ih, List.map_cons]

theorem childList_json {key : String} {children : List Predicate} {documents : List Json} :
    childList (.arr (documentsOf children)) key = .ok documents ↔
      children ≠ [] ∧ children.length ≤ maxTempPredicateNodes ∧ documents = documentsOf children := by
  unfold childList
  cases children with
  | nil =>
    constructor
    · intro h
      cases h
    · intro h
      exact absurd rfl h.1
  | cons child children =>
    have hlength : (documentsOf (child :: children)).length = (child :: children).length := by
      rw [documentsOf_eq, List.length_map]
    rw [documentsOf] at hlength ⊢
    dsimp only
    by_cases hlong : maxTempPredicateNodes < (child.json :: documentsOf children).length
    · rw [if_pos hlong]
      constructor
      · intro h
        cases h
      · intro h
        omega
    · rw [if_neg hlong]
      constructor
      · intro h
        cases h
        exact ⟨List.cons_ne_nil _ _, by omega, rfl⟩
      · intro h
        rw [h.2.2]

/-- What is under `all` or `any` of a condition written out. -/
theorem nodeList_json {depth count total : Nat} {key : String} {wrap : List Predicate → Predicate}
    {children : List Predicate} {read : Predicate}
    (hchildren : ∀ child ∈ children, ReadsBack source depth child) (hcount : count ≤ maxTempPredicateNodes) :
    (do
      let documents ← childList (.arr (documentsOf children)) key
      let result ← validateChildren (validatePredicateNode source depth) documents count
      return (wrap result.1, result.2)) = .ok (read, total) ↔
      (children ≠ [] ∧ FitAt source depth count children) ∧ read = wrap (trimOf children) ∧
        total = count + nodesOf children := by
  rw [bind_eq_ok]
  constructor
  · intro ⟨documents, hlist, h⟩
    obtain ⟨⟨predicates, last⟩, hpredicates, h⟩ := bind_eq_ok.mp h
    cases h
    obtain ⟨hne, -, rfl⟩ := childList_json.mp hlist
    obtain ⟨hfit, rfl, rfl⟩ := (validateChildren_json hchildren hcount).mp hpredicates
    exact ⟨⟨hne, hfit⟩, rfl, rfl⟩
  · intro ⟨⟨hne, hfit⟩, hread, htotal⟩
    have hlength := length_le_nodesOf children
    have hnodes := hfit.nodes_le
    have hlist : childList (.arr (documentsOf children)) key = .ok (documentsOf children) :=
      childList_json.mpr ⟨hne, by omega, rfl⟩
    refine ⟨_, hlist, bind_eq_ok.mpr ⟨_, (validateChildren_json hchildren hcount).mpr ⟨hfit, rfl, rfl⟩, ?_⟩⟩
    rw [hread, htotal]
    rfl

theorem isObj_json (predicate : Predicate) : predicate.json.isObj = true := by
  cases predicate <;> rfl

/-- With no depth left nothing is read. -/
theorem readsBack_zero (predicate : Predicate) : ReadsBack source 0 predicate := by
  intro count read total
  constructor
  · intro h
    rw [validatePredicateNode] at h
    split at h <;> cases h
  · intro ⟨hfits, _⟩
    have hdepth := hfits.depth_le
    cases predicate <;> rw [Predicate.depth] at hdepth <;> omega

/-- A condition written out is read back. -/
theorem validateNode_json (depth : Nat) (predicate : Predicate) : ReadsBack source depth predicate := by
  induction depth generalizing predicate with
  | zero => exact readsBack_zero predicate
  | succ depth ih =>
    intro count read total
    have hpos := nodes_pos predicate
    by_cases hroom : maxTempPredicateNodes < count + 1
    · have herror : ∀ result, validatePredicateNode source (depth + 1) predicate.json count ≠ .ok result := by
        intro result h
        rw [validatePredicateNode, if_pos hroom] at h
        cases h
      constructor
      · intro h
        exact absurd h (herror _)
      · intro ⟨hfits, _⟩
        have hnodes := hfits.nodes_le
        omega
    have hcount : count + 1 ≤ maxTempPredicateNodes := by omega
    rw [validatePredicateNode, if_neg hroom]
    cases predicate with
    | leaf field operator value =>
      have hkeys : hasKeys (Predicate.leaf field operator value).json ["field", "operator", "value"] = true :=
        rfl
      rw [if_pos hkeys, map_eq_ok]
      constructor
      · intro ⟨leaf, hleaf, heq⟩
        obtain ⟨⟨hfield, hcompares⟩, rfl⟩ := validateLeaf_json.mp hleaf
        cases heq
        exact ⟨⟨.leaf hfield hcompares, Nat.succ_le_succ (Nat.zero_le depth), hcount⟩, rfl, rfl⟩
      · intro ⟨hfits, hread, htotal⟩
        cases hfits.wellFormed with
        | leaf hfield hcompares =>
          refine ⟨_, validateLeaf_json.mpr ⟨⟨hfield, hcompares⟩, rfl⟩, ?_⟩
          rw [hread, htotal]
          rfl
    | all children =>
      have hother : hasKeys (Predicate.all children).json ["field", "operator", "value"] = false := rfl
      have hkeys : hasKeys (Predicate.all children).json ["all"] = true := rfl
      rw [hother, if_neg Bool.false_ne_true, if_pos hkeys]
      refine (nodeList_json (fun child _ => ih child) hcount).trans ?_
      rw [Predicate.trim, Predicate.nodes, Nat.add_comm (nodesOf children) 1, ← Nat.add_assoc]
      refine and_congr_left fun _ => ⟨fun h => ?_, fun h => ?_⟩
      · refine ⟨.all h.1 h.2.wellFormed, ?_, ?_⟩
        · rw [Predicate.depth]
          exact Nat.succ_le_succ h.2.depth_le
        · have hnodes := h.2.nodes_le
          rw [Predicate.nodes]
          omega
      · have hdepth := h.depth_le
        have hnodes := h.nodes_le
        rw [Predicate.depth] at hdepth
        rw [Predicate.nodes] at hnodes
        cases h.wellFormed with
        | all hne hwell => exact ⟨hne, hwell, by omega, by omega⟩
    | any children =>
      have hother : hasKeys (Predicate.any children).json ["field", "operator", "value"] = false := rfl
      have hall : hasKeys (Predicate.any children).json ["all"] = false := rfl
      have hkeys : hasKeys (Predicate.any children).json ["any"] = true := rfl
      rw [hother, if_neg Bool.false_ne_true, hall, if_neg Bool.false_ne_true, if_pos hkeys]
      refine (nodeList_json (fun child _ => ih child) hcount).trans ?_
      rw [Predicate.trim, Predicate.nodes, Nat.add_comm (nodesOf children) 1, ← Nat.add_assoc]
      refine and_congr_left fun _ => ⟨fun h => ?_, fun h => ?_⟩
      · refine ⟨.any h.1 h.2.wellFormed, ?_, ?_⟩
        · rw [Predicate.depth]
          exact Nat.succ_le_succ h.2.depth_le
        · have hnodes := h.2.nodes_le
          rw [Predicate.nodes]
          omega
      · have hdepth := h.depth_le
        have hnodes := h.nodes_le
        rw [Predicate.depth] at hdepth
        rw [Predicate.nodes] at hnodes
        cases h.wellFormed with
        | any hne hwell => exact ⟨hne, hwell, by omega, by omega⟩
    | negation child =>
      have hother : hasKeys (Predicate.negation child).json ["field", "operator", "value"] = false := rfl
      have hall : hasKeys (Predicate.negation child).json ["all"] = false := rfl
      have hany : hasKeys (Predicate.negation child).json ["any"] = false := rfl
      have hkeys : hasKeys (Predicate.negation child).json ["not"] = true := rfl
      have hobj : ((Predicate.negation child).json.get "not").isObj = true := isObj_json child
      rw [hother, if_neg Bool.false_ne_true, hall, if_neg Bool.false_ne_true, hany,
        if_neg Bool.false_ne_true, if_pos hkeys, if_pos hobj, bind_eq_ok]
      constructor
      · intro ⟨⟨inner, last⟩, hinner, h⟩
        obtain ⟨hfits, rfl, rfl⟩ := (ih child (count + 1) inner last).mp hinner
        cases h
        have hnodes := hfits.nodes_le
        refine ⟨⟨.negation hfits.wellFormed, ?_, ?_⟩, rfl, ?_⟩
        · rw [Predicate.depth]
          exact Nat.succ_le_succ hfits.depth_le
        · rw [Predicate.nodes]
          omega
        · show count + 1 + child.nodes = count + (child.nodes + 1)
          omega
      · intro ⟨hfits, hread, htotal⟩
        have hdepth := hfits.depth_le
        have hnodes := hfits.nodes_le
        rw [Predicate.depth] at hdepth
        rw [Predicate.nodes] at hnodes
        cases hfits.wellFormed with
        | negation hwell =>
          have hinner : validatePredicateNode source depth child.json (count + 1) =
              .ok (child.trim, count + 1 + child.nodes) :=
            (ih child _ _ _).mpr ⟨⟨hwell, by omega, by omega⟩, rfl, rfl⟩
          refine ⟨_, hinner, ?_⟩
          rw [hread, htotal, Predicate.trim, Predicate.nodes, Nat.add_comm child.nodes 1, ← Nat.add_assoc]
          rfl

end Conditions

/-! ## Evaluation -/

section Evaluation

variable (lib : Library) (reading : Field → Json)

mutual

/-- What a condition says of an event that has these values in its fields. -/
def Predicate.holds : Predicate → Bool
  | .leaf field operator value => temporaryRuleValueMatches lib operator value (reading field)
  | .all children => holdsAll children
  | .any children => holdsAny children
  | .negation child => !child.holds

def holdsAll : List Predicate → Bool
  | [] => true
  | child :: children => child.holds && holdsAll children

def holdsAny : List Predicate → Bool
  | [] => false
  | child :: children => child.holds || holdsAny children

end

variable {lib reading} {source : Source} {event : Json}

theorem holdsAll_eq_true {children : List Predicate} :
    holdsAll lib reading children = true ↔ ∀ child ∈ children, child.holds lib reading = true := by
  induction children with
  | nil => exact iff_of_true rfl (List.forall_mem_nil _)
  | cons child children ih => rw [holdsAll, Bool.and_eq_true, ih, List.forall_mem_cons]

theorem holdsAny_eq_true {children : List Predicate} :
    holdsAny lib reading children = true ↔ ∃ child ∈ children, child.holds lib reading = true := by
  induction children with
  | nil => exact iff_of_false Bool.false_ne_true fun ⟨_, hchild, _⟩ => List.not_mem_nil hchild
  | cons child children ih => rw [holdsAny, Bool.or_eq_true, ih, List.exists_mem_cons_iff]

theorem evaluateAll_eq {children : List Predicate}
    (h : ∀ child ∈ children, child.evaluate lib event = .ok (child.holds lib reading)) :
    evaluateAll lib event children = .ok (holdsAll lib reading children) := by
  induction children with
  | nil => rfl
  | cons child children ih =>
    obtain ⟨hchild, hchildren⟩ := List.forall_mem_cons.mp h
    rw [evaluateAll, hchild, holdsAll]
    cases child.holds lib reading with
    | true => exact ih hchildren
    | false => rfl

theorem evaluateAny_eq {children : List Predicate}
    (h : ∀ child ∈ children, child.evaluate lib event = .ok (child.holds lib reading)) :
    evaluateAny lib event children = .ok (holdsAny lib reading children) := by
  induction children with
  | nil => rfl
  | cons child children ih =>
    obtain ⟨hchild, hchildren⟩ := List.forall_mem_cons.mp h
    rw [evaluateAny, hchild, holdsAny]
    cases child.holds lib reading with
    | true => rfl
    | false => exact ih hchildren

/-- Where all fields of the source can be read, the evaluator answers, whatever it skips. -/
theorem evaluate_eq (hreading : ∀ field ∈ source.allowedFields,
    extractTemporaryRuleField lib event field = .ok (reading field)) {predicate : Predicate}
    (hwell : predicate.WellFormed source) :
    predicate.evaluate lib event = .ok (predicate.holds lib reading) := by
  induction predicate using Predicate.induct with
  | leaf field operator value =>
    cases hwell with
    | leaf hfield hvalue =>
      rw [Predicate.evaluate, hreading field hfield]
      rfl
  | all children ih =>
    cases hwell with
    | all hne hchildren => exact evaluateAll_eq fun child hchild => ih child hchild (hchildren child hchild)
  | any children ih =>
    cases hwell with
    | any hne hchildren => exact evaluateAny_eq fun child hchild => ih child hchild (hchildren child hchild)
  | negation child ih =>
    cases hwell with
    | negation hchild =>
      rw [Predicate.evaluate, ih hchild]
      rfl

theorem fold_strip (lib : Library) (s : String) : fold lib (strip s) = fold lib s := by
  rw [fold, fold, strip_strip]

theorem foldScalar_trim (scalar : Scalar) : foldScalar lib scalar.trim = foldScalar lib scalar := by
  cases scalar with
  | int n => rfl
  | text s => rw [Scalar.trim, foldScalar, foldScalar, fold_strip]

/-- What is no text is in a list whether or not its texts are stripped. -/
theorem sameValue_trim {scalar : Scalar} {actual : Json} (hstr : actual.str? = none) :
    sameValue lib scalar.trim.json actual = sameValue lib scalar.json actual := by
  cases scalar with
  | int n => rfl
  | text s =>
    have hfalse (t : String) : sameValue lib (.str t) actual = false := by
      cases hsame : sameValue lib (.str t) actual with
      | false => rfl
      | true =>
        rw [sameValue_str.mp hsame] at hstr
        cases hstr
    exact (hfalse (strip s)).trans (hfalse s).symm

/-- Whitespace around the texts of a value makes no difference to what matches it. -/
theorem matches_trim (operator : Operator) (value : Expected) (actual : Json) :
    temporaryRuleValueMatches lib operator value.trim actual =
      temporaryRuleValueMatches lib operator value actual := by
  cases value with
  | scalar scalar =>
    cases scalar with
    | int n => rfl
    | text s =>
      unfold temporaryRuleValueMatches
      rw [Expected.trim, Scalar.trim]
      dsimp only
      rw [fold_strip]
  | list items =>
    have hother (hstr : actual.str? = none) :
        ((items.map Scalar.trim).any fun item => sameValue lib item.json actual) =
          items.any fun item => sameValue lib item.json actual := by
      rw [List.any_map]
      exact congrArg (items.any ·) (funext fun item => sameValue_trim hstr)
    cases actual with
    | str text =>
      have hfold : (items.map Scalar.trim).map (foldScalar lib) = items.map (foldScalar lib) := by
        rw [List.map_map]
        exact List.map_congr_left fun item _ => foldScalar_trim item
      show decide (_ ∈ (items.map Scalar.trim).map (foldScalar lib)) = decide (_ ∈ items.map (foldScalar lib))
      rw [hfold]
    | null => rfl
    | bool b => exact hother rfl
    | int n => exact hother rfl
    | float text => exact hother rfl
    | arr values => exact hother rfl
    | obj fields => exact hother rfl

/-- Nor does it make one to what a condition says. -/
theorem holds_trim (predicate : Predicate) :
    predicate.trim.holds lib reading = predicate.holds lib reading := by
  induction predicate using Predicate.induct with
  | leaf field operator value => exact matches_trim operator value (reading field)
  | all children ih =>
    rw [Predicate.trim, Predicate.holds, Predicate.holds]
    induction children with
    | nil => rfl
    | cons child children ihs =>
      obtain ⟨hchild, hchildren⟩ := List.forall_mem_cons.mp ih
      rw [trimOf, holdsAll, holdsAll, hchild, ihs hchildren]
  | any children ih =>
    rw [Predicate.trim, Predicate.holds, Predicate.holds]
    induction children with
    | nil => rfl
    | cons child children ihs =>
      obtain ⟨hchild, hchildren⟩ := List.forall_mem_cons.mp ih
      rw [trimOf, holdsAny, holdsAny, hchild, ihs hchildren]
  | negation child ih => rw [Predicate.trim, Predicate.holds, Predicate.holds, ih]

end Evaluation

/-! ## Rules -/

section Rules

variable {digits : Digits} {document : Json} {rule : TemporaryRule}

theorem require_eq_ok {holds : Bool} {message : String} :
    require holds message = .ok () ↔ holds = true := by
  cases holds
  · exact iff_of_false (fun h => by cases h) Bool.false_ne_true
  · exact iff_of_true rfl rfl

/-- The checks of the contract. -/
structure ContractAccepts (digits : Digits) (document : Json) (rule : TemporaryRule) : Prop where
  isObj : document.isObj = true
  keys : ∀ key ∈ document.fields.map Prod.fst, key ∈ ruleKeys ++ metadataKeys
  source : validateSource document = .ok rule.source
  inputFormat : validateNonEmptyString (document.get "input_format") "temporary_rule.input_format" 32 =
    .ok rule.inputFormat
  supported : rule.inputFormat ∈ rule.source.inputFormats
  eventType : validateEventType rule.source (document.get "event_type") = .ok rule.eventType
  conditionObj : (document.get "condition").isObj = true
  condition : ∃ total, validatePredicateNode rule.source maxTempPredicateDepth (document.get "condition") 0 =
    .ok (rule.condition, total)
  groupByField : validateAggregation rule.source (document.get "aggregation") = .ok rule.groupByField
  threshold : validateBoundedInt (document.get "threshold") "temporary_rule.threshold" 1 100 =
    .ok rule.threshold
  windowMinutes : validateBoundedInt (document.get "window_minutes") "temporary_rule.window_minutes" 1 1440 =
    .ok rule.windowMinutes
  severity : validateNonEmptyString (document.get "severity") "temporary_rule.severity" 16 = .ok rule.severity
  severe : rule.severity ∈ ["low", "medium", "high", "critical"]
  mitre : validateMitre digits (document.get "mitre_technique_id") = .ok rule.mitreTechniqueId
  metadata : (document.fields.map Prod.fst).any (· ∈ metadataKeys) = true →
    validateTemporaryRuleMetadata document = .ok ()

/-- The contract, check by check. -/
theorem contract_eq_ok :
    validateTemporaryRuleContract digits document = .ok rule ↔ ContractAccepts digits document rule := by
  unfold validateTemporaryRuleContract
  constructor
  · intro h
    obtain ⟨_, hobj, h⟩ := bind_eq_ok.mp h
    obtain ⟨_, hkeys, h⟩ := bind_eq_ok.mp h
    obtain ⟨source, hsource, h⟩ := bind_eq_ok.mp h
    obtain ⟨inputFormat, hformat, h⟩ := bind_eq_ok.mp h
    obtain ⟨_, hsupported, h⟩ := bind_eq_ok.mp h
    obtain ⟨eventType, heventType, h⟩ := bind_eq_ok.mp h
    obtain ⟨_, hconditionObj, h⟩ := bind_eq_ok.mp h
    obtain ⟨condition, hcondition, h⟩ := bind_eq_ok.mp h
    obtain ⟨groupByField, hgroup, h⟩ := bind_eq_ok.mp h
    obtain ⟨threshold, hthreshold, h⟩ := bind_eq_ok.mp h
    obtain ⟨windowMinutes, hwindow, h⟩ := bind_eq_ok.mp h
    obtain ⟨severity, hseverity, h⟩ := bind_eq_ok.mp h
    obtain ⟨_, hsevere, h⟩ := bind_eq_ok.mp h
    obtain ⟨mitreTechniqueId, hmitre, h⟩ := bind_eq_ok.mp h
    obtain ⟨_, hmetadata, h⟩ := bind_eq_ok.mp h
    cases h
    refine ⟨require_eq_ok.mp hobj, ?_, hsource, hformat, of_decide_eq_true (require_eq_ok.mp hsupported),
      heventType, require_eq_ok.mp hconditionObj, ⟨condition.2, hcondition⟩, hgroup, hthreshold, hwindow,
      hseverity, of_decide_eq_true (require_eq_ok.mp hsevere), hmitre, ?_⟩
    · intro key hkey
      have hempty := List.isEmpty_iff.mp (require_eq_ok.mp hkeys)
      by_contra hnot
      have hmem : key ∈ (document.fields.map Prod.fst).filter fun key => key ∉ ruleKeys ++ metadataKeys :=
        List.mem_filter.mpr ⟨hkey, decide_eq_true hnot⟩
      rw [hempty] at hmem
      cases hmem
    · intro hany
      rw [if_pos hany] at hmetadata
      exact hmetadata
  · intro h
    have hempty : ((document.fields.map Prod.fst).filter fun key => key ∉ ruleKeys ++ metadataKeys).isEmpty =
        true := by
      rw [List.isEmpty_iff, List.filter_eq_nil_iff]
      intro key hkey hnot
      exact of_decide_eq_true hnot (h.keys key hkey)
    obtain ⟨total, hcondition⟩ := h.condition
    refine bind_eq_ok.mpr ⟨(), require_eq_ok.mpr h.isObj, ?_⟩
    refine bind_eq_ok.mpr ⟨(), require_eq_ok.mpr hempty, ?_⟩
    refine bind_eq_ok.mpr ⟨_, h.source, ?_⟩
    refine bind_eq_ok.mpr ⟨_, h.inputFormat, ?_⟩
    refine bind_eq_ok.mpr ⟨(), require_eq_ok.mpr (decide_eq_true h.supported), ?_⟩
    refine bind_eq_ok.mpr ⟨_, h.eventType, ?_⟩
    refine bind_eq_ok.mpr ⟨(), require_eq_ok.mpr h.conditionObj, ?_⟩
    refine bind_eq_ok.mpr ⟨_, hcondition, ?_⟩
    refine bind_eq_ok.mpr ⟨_, h.groupByField, ?_⟩
    refine bind_eq_ok.mpr ⟨_, h.threshold, ?_⟩
    refine bind_eq_ok.mpr ⟨_, h.windowMinutes, ?_⟩
    refine bind_eq_ok.mpr ⟨_, h.severity, ?_⟩
    refine bind_eq_ok.mpr ⟨(), require_eq_ok.mpr (decide_eq_true h.severe), ?_⟩
    refine bind_eq_ok.mpr ⟨_, h.mitre, ?_⟩
    refine bind_eq_ok.mpr ⟨(), ?_, rfl⟩
    split
    · next hany => exact h.metadata hany
    · rfl

/-- What an accepted rule is like. -/
structure TemporaryRule.Valid (rule : TemporaryRule) : Prop where
  supported : rule.inputFormat ∈ rule.source.inputFormats
  eventType : ∀ eventType, rule.eventType = some eventType → eventType ∈ rule.source.eventTypes
  wellFormed : rule.condition.WellFormed rule.source
  trimmed : rule.condition.trim = rule.condition
  depth_le : rule.condition.depth ≤ maxTempPredicateDepth
  nodes_le : rule.condition.nodes ≤ maxTempPredicateNodes
  groupByField : rule.groupByField ∈ rule.source.groupableFields
  threshold : 1 ≤ rule.threshold ∧ rule.threshold ≤ 100
  windowMinutes : 1 ≤ rule.windowMinutes ∧ rule.windowMinutes ≤ 1440
  severe : rule.severity ∈ ["low", "medium", "high", "critical"]
  mitre : ∀ id, rule.mitreTechniqueId = some id → id ∈ mitreTechniques

/-- Short words without whitespace around them are accepted as they are. -/
theorem validate_listed {words : List String} {maxLength : Nat} {word fieldName : String}
    (hwords : (words.all fun word => strip word = word && word ≠ "" && word.length ≤ maxLength) = true)
    (hword : word ∈ words) : validateNonEmptyString (.str word) fieldName maxLength = .ok word := by
  have h := List.all_eq_true.mp hwords word hword
  simp only [Bool.and_eq_true, decide_eq_true_eq] at h
  obtain ⟨⟨hstrip, hne⟩, hlength⟩ := h
  exact validateNonEmptyString_eq_ok.mpr ⟨word, rfl, by rwa [hstrip], by rwa [hstrip], hstrip.symm⟩

theorem Source.ofName?_name (source : Source) : Source.ofName? source.name = some source := by
  cases source <;> decide

theorem validateSource_named {source : Source} (hname : document.get "source" = .str source.name)
    (htype : document.get "source_type" = .str source.sourceType) : validateSource document = .ok source := by
  have hnames : ([source.name, source.sourceType].all fun word =>
      strip word = word && word ≠ "" && word.length ≤ 64) = true := by
    cases source <;> decide +kernel
  unfold validateSource
  rw [hname, htype]
  refine bind_eq_ok.mpr ⟨source.name, validate_listed hnames List.mem_cons_self, ?_⟩
  rw [Source.ofName?_name]
  refine bind_eq_ok.mpr ⟨source.sourceType, validate_listed hnames
    (List.mem_cons_of_mem _ List.mem_cons_self), ?_⟩
  exact if_pos rfl

theorem validateInputFormat_json (hsupported : rule.inputFormat ∈ rule.source.inputFormats) (fieldName : String) :
    validateNonEmptyString (.str rule.inputFormat) fieldName 32 = .ok rule.inputFormat := by
  refine validate_listed ?_ hsupported
  cases rule.source <;> decide +kernel

theorem validateEventType_json {source : Source} {eventType : Option String}
    (h : ∀ name, eventType = some name → name ∈ source.eventTypes) :
    validateEventType source (optionalText eventType) = .ok eventType := by
  cases eventType with
  | none => rfl
  | some name =>
    have hname : validateNonEmptyString (.str name) "temporary_rule.event_type" 64 = .ok name := by
      refine validate_listed ?_ (h name rfl)
      cases source <;> decide +kernel
    refine bind_eq_ok.mpr ⟨name, hname, ?_⟩
    exact if_pos (h name rfl)

theorem validateEventType_sound {source : Source} {value : Json} {eventType : Option String}
    (h : validateEventType source value = .ok eventType) :
    ∀ name, eventType = some name → name ∈ source.eventTypes := by
  unfold validateEventType at h
  split at h
  · cases h
    intro name hname
    cases hname
  · obtain ⟨found, -, h⟩ := bind_eq_ok.mp h
    split at h
    · next hlisted =>
      cases h
      intro name hname
      cases hname
      exact hlisted
    · cases h

theorem isDecimal_of_isDigit {c : Char} (hc : c.isDigit = true) : (digits.decimal c).isSome = true := by
  rw [digits.decimal_ascii c hc]
  rfl

theorem matchesMitre_listed {id : String} (h : id ∈ mitreTechniques) : matchesMitre digits id = true := by
  have hdigit (c : Char) (hc : c.isDigit = true) : (digits.decimal c).isSome = true := isDecimal_of_isDigit hc
  unfold mitreTechniques at h
  simp only [List.mem_cons, List.not_mem_nil, or_false] at h
  rcases h with rfl | rfl | rfl | rfl <;> simp [matchesMitre, hdigit]

theorem validateMitre_json {id : Option String} (h : ∀ name, id = some name → name ∈ mitreTechniques) :
    validateMitre digits (optionalText id) = .ok id := by
  cases id with
  | none => rfl
  | some name =>
    have hlisted := h name rfl
    have hname : validateNonEmptyString (.str name) "temporary_rule.mitre_technique_id" 16 = .ok name :=
      validate_listed (by decide +kernel) hlisted
    refine bind_eq_ok.mpr ⟨name, hname, ?_⟩
    rw [matchesMitre_listed hlisted, Bool.not_true, if_neg Bool.false_ne_true, if_pos hlisted]
    rfl

theorem validateMitre_sound {value : Json} {id : Option String} (h : validateMitre digits value = .ok id) :
    ∀ name, id = some name → name ∈ mitreTechniques := by
  unfold validateMitre at h
  split at h
  · cases h
    intro name hname
    cases hname
  · obtain ⟨found, -, h⟩ := bind_eq_ok.mp h
    split at h
    · cases h
    · split at h
      · next hlisted =>
        cases h
        intro name hname
        cases hname
        exact hlisted
      · cases h

theorem validateAggregation_json {source : Source} {field : Field} (hfield : field ∈ source.groupableFields) :
    validateAggregation source (.obj [("type", .str "count"), ("group_by_field", .str field.name)]) =
      .ok field := by
  have hword : (["count"].all fun word => strip word = word && word ≠ "" && word.length ≤ 32) = true := by
    decide +kernel
  have hkind : validateNonEmptyString (.str "count") "temporary_rule.aggregation.type" 32 = .ok "count" :=
    validate_listed hword (List.mem_singleton_self "count")
  unfold validateAggregation
  refine bind_eq_ok.mpr ⟨(), rfl, bind_eq_ok.mpr ⟨(), rfl, bind_eq_ok.mpr ⟨"count", hkind, ?_⟩⟩⟩
  refine bind_eq_ok.mpr ⟨(), rfl, bind_eq_ok.mpr ⟨field.name, validate_fieldName field _, ?_⟩⟩
  rw [find?_name hfield]
  rfl

theorem validateAggregation_sound {source : Source} {value : Json} {field : Field}
    (h : validateAggregation source value = .ok field) : field ∈ source.groupableFields := by
  unfold validateAggregation at h
  obtain ⟨-, -, h⟩ := bind_eq_ok.mp h
  obtain ⟨-, -, h⟩ := bind_eq_ok.mp h
  obtain ⟨kind, -, h⟩ := bind_eq_ok.mp h
  obtain ⟨-, -, h⟩ := bind_eq_ok.mp h
  obtain ⟨name, -, h⟩ := bind_eq_ok.mp h
  split at h
  · cases h
  · next found hfind =>
    cases h
    exact List.mem_of_find?_eq_some hfind

theorem ContractAccepts.valid (h : ContractAccepts digits document rule) : rule.Valid := by
  obtain ⟨total, hcondition⟩ := h.condition
  have haccepted := validateNode_sound hcondition
  have htotal := haccepted.total_eq
  have hle := haccepted.total_le
  exact
    { supported := h.supported
      eventType := validateEventType_sound h.eventType
      wellFormed := haccepted.wellFormed
      trimmed := haccepted.trimmed
      depth_le := haccepted.depth_le
      nodes_le := by omega
      groupByField := validateAggregation_sound h.groupByField
      threshold := validateBoundedInt_eq_ok h.threshold
      windowMinutes := validateBoundedInt_eq_ok h.windowMinutes
      severe := h.severe
      mitre := validateMitre_sound h.mitre }

/-- A valid rule written out passes every check. -/
theorem TemporaryRule.Valid.accepts (h : rule.Valid) (digits : Digits) :
    ContractAccepts digits rule.json rule where
  isObj := rfl
  keys key hkey := List.mem_append_left _ hkey
  source := validateSource_named rfl rfl
  inputFormat := validateInputFormat_json h.supported _
  supported := h.supported
  eventType := validateEventType_json h.eventType
  conditionObj := isObj_json rule.condition
  condition := by
    refine ⟨0 + rule.condition.nodes, (validateNode_json _ rule.condition 0 _ _).mpr
      ⟨⟨h.wellFormed, h.depth_le, ?_⟩, h.trimmed.symm, rfl⟩⟩
    rw [Nat.zero_add]
    exact h.nodes_le
  groupByField := validateAggregation_json h.groupByField
  threshold := validateBoundedInt_json.mpr ⟨h.threshold, rfl⟩
  windowMinutes := validateBoundedInt_json.mpr ⟨h.windowMinutes, rfl⟩
  severity := validate_listed (by decide +kernel) h.severe
  severe := h.severe
  mitre := validateMitre_json h.mitre
  metadata hany := by
    have hnone : (ruleKeys.any (· ∈ metadataKeys)) = false := by decide
    exact absurd (hnone.symm.trans hany) Bool.false_ne_true

end Rules

end SiemDashboard.DetectionSimulator
