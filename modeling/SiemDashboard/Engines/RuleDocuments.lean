import SiemDashboard.Engines.DetectionSimulator

/-!
# Temporary rules as documents

`engines/detection_simulator.py`: what the contract of temporary rules returns is a document again.

* **Documents** — `Expected.json`, `Predicate.json`, `TemporaryRule.json`.
* **Sizes** — `Predicate.depth`, `Predicate.nodes`, `Predicate.comparisons`.
* **Normal forms** — `Scalar.trim`, `Expected.trim`, `Predicate.trim`.
-/

namespace SiemDashboard.DetectionSimulator

open Python

/-- Induction over conditions. -/
theorem Predicate.induct {P : Predicate → Prop}
    (leaf : ∀ field operator value, P (.leaf field operator value))
    (all : ∀ children, (∀ child ∈ children, P child) → P (.all children))
    (any : ∀ children, (∀ child ∈ children, P child) → P (.any children))
    (negation : ∀ child, P child → P (.negation child)) (p : Predicate) : P p := by
  refine @Predicate.rec P (fun children => ∀ child ∈ children, P child) leaf all any negation ?_ ?_ p
  · intro child hchild
    cases hchild
  · intro child children hchild hchildren
    exact List.forall_mem_cons.mpr ⟨hchild, hchildren⟩

/-! ## Documents -/

def Expected.json : Expected → Json
  | .scalar value => value.json
  | .list items => .arr (items.map Scalar.json)

mutual

/-- What `_validate_predicate_node` returns. -/
def Predicate.json : Predicate → Json
  | .leaf field operator value =>
    .obj [("field", .str field.name), ("operator", .str operator.name), ("value", value.json)]
  | .all children => .obj [("all", .arr (documentsOf children))]
  | .any children => .obj [("any", .arr (documentsOf children))]
  | .negation child => .obj [("not", child.json)]

def documentsOf : List Predicate → List Json
  | [] => []
  | child :: children => child.json :: documentsOf children

end

/-- A text that may be missing. -/
def optionalText : Option String → Json
  | none => .null
  | some text => .str text

/-- What `_validate_temporary_rule_contract` returns of a rule without metadata. -/
def TemporaryRule.json (rule : TemporaryRule) : Json :=
  .obj
    [ ("source", .str rule.source.name), ("source_type", .str rule.source.sourceType),
      ("input_format", .str rule.inputFormat), ("event_type", optionalText rule.eventType),
      ("condition", rule.condition.json),
      ("aggregation", .obj [("type", .str "count"), ("group_by_field", .str rule.groupByField.name)]),
      ("threshold", .int rule.threshold), ("window_minutes", .int rule.windowMinutes),
      ("severity", .str rule.severity), ("mitre_technique_id", optionalText rule.mitreTechniqueId) ]

/-! ## Sizes -/

mutual

/-- How deep a condition nests. -/
def Predicate.depth : Predicate → Nat
  | .leaf _ _ _ => 1
  | .all children => depthOf children + 1
  | .any children => depthOf children + 1
  | .negation child => child.depth + 1

def depthOf : List Predicate → Nat
  | [] => 0
  | child :: children => max child.depth (depthOf children)

end

mutual

/-- How many nodes a condition has. -/
def Predicate.nodes : Predicate → Nat
  | .leaf _ _ _ => 1
  | .all children => nodesOf children + 1
  | .any children => nodesOf children + 1
  | .negation child => child.nodes + 1

def nodesOf : List Predicate → Nat
  | [] => 0
  | child :: children => child.nodes + nodesOf children

end

/-- What a field is compared with. -/
def Expected.scalars : Expected → List Scalar
  | .scalar value => [value]
  | .list items => items

mutual

/-- The fields of a condition, each with a scalar that it is compared with. -/
def Predicate.comparisons : Predicate → List (Field × Scalar)
  | .leaf field _ value => value.scalars.map fun scalar => (field, scalar)
  | .all children => comparisonsOf children
  | .any children => comparisonsOf children
  | .negation child => child.comparisons

def comparisonsOf : List Predicate → List (Field × Scalar)
  | [] => []
  | child :: children => child.comparisons ++ comparisonsOf children

end

/-! ## Normal forms -/

def Scalar.trim : Scalar → Scalar
  | .int n => .int n
  | .text s => .text (strip s)

def Expected.trim : Expected → Expected
  | .scalar value => .scalar value.trim
  | .list items => .list (items.map Scalar.trim)

mutual

def Predicate.trim : Predicate → Predicate
  | .leaf field operator value => .leaf field operator value.trim
  | .all children => .all (trimOf children)
  | .any children => .any (trimOf children)
  | .negation child => .negation child.trim

def trimOf : List Predicate → List Predicate
  | [] => []
  | child :: children => child.trim :: trimOf children

end

end SiemDashboard.DetectionSimulator
