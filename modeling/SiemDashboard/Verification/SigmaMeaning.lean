import SiemDashboard.Engines.SigmaCompiler
import SiemDashboard.Lib.Dicts
import SiemDashboard.Verification.RuleContracts
import SiemDashboard.Verification.SigmaConditions

/-!
# The meaning of a compiled Sigma rule

A Sigma rule means its condition, a formula over selections, each of which asks all its fields for one of some
values.  The temporary rule that the rule is compiled to counts exactly the events of that meaning.

* **Meaning** — `KeyReads`, `Denotes`, `ValueHolds`, `FieldHolds`, `SelectionHolds`, `Node.Holds`.
* **Fields** — `splitFieldAndModifier_eq_ok`, `mapFieldAlias_eq_ok`, `fieldPredicate_holds`.
* **Selections** — `selection_holds`, `resolve_holds`.
* **Detections** — `ConditionReads`, `compileDetection_parts`, `detection_holds`.
* **Log sources** — `LogsourceNames`, `mapLogsource_eq_ok`.
* **Rules** — `Compiles`: what a rule is compiled from; `Readable`: the events that the fields can be read of.
* **Result** — `compiled_rule_means`.
-/

namespace SiemDashboard.SigmaPlayground

open Python Checks Phrases
open DetectionSimulator (Field Source Operator Scalar Expected Predicate fold)

/-! ## Meaning -/

/-- A key of a selection is the name of a field, or such a name, a bar and a modifier. -/
def KeyReads (key name : String) : Option Modifier → Prop
  | none => '|' ∉ key.toList ∧ name = key
  | some modifier => ∃ text, key.toList = name.toList ++ '|' :: text ∧ '|' ∉ name.toList ∧ '|' ∉ text ∧
      lower (strip (String.ofList text)) = modifier.name

/-- A name stands for a field of the source. -/
def Denotes (source : Source) (name : String) (field : Field) : Prop :=
  ∃ names, (field, names) ∈ fieldAliases source ∧ name ∈ names

/-- The values of which a field may have any. -/
def alternatives : Json → List Json
  | .arr items => items
  | value => [value]

/-- The test of a modifier; without one, texts are compared as a whole. -/
def textTest : Option Modifier → List Char → List Char → Prop
  | none => fun part whole => part = whole
  | some .contains => fun part whole => part <:+: whole
  | some .startswith => fun part whole => part <+: whole
  | some .endswith => fun part whole => part <:+ whole

section Meaning

variable (floatInt : String → Option Int) (lib : DetectionSimulator.Library)

/-- The integer that a value stands for. -/
def integerOf : Json → Option Int
  | .int n => some n
  | .float text => floatInt text
  | _ => none

/-- What an event has in a field is one of the alternatives: a text that passes the test, up to case and the
    whitespace around it, or the same integer. -/
def ValueHolds (modifier : Option Modifier) (value actual : Json) : Prop :=
  (∃ part whole, value = .str part ∧ actual = .str whole ∧
      textTest modifier (fold lib part).toList (fold lib whole).toList) ∨
    ∃ n, integerOf floatInt value = some n ∧ actual = .int n

/-- An entry of a selection holds. -/
def FieldHolds (source : Source) (reading : Field → Json) (entry : String × Json) : Prop :=
  ∃ name modifier field, KeyReads entry.1 name modifier ∧ Denotes source name field ∧
    ∃ value ∈ alternatives entry.2, ValueHolds floatInt lib modifier value (reading field)

/-- A selection holds where all its entries do. -/
def SelectionHolds (source : Source) (reading : Field → Json) (body : Json) : Prop :=
  ∀ entry ∈ body.fields, FieldHolds floatInt lib source reading entry

end Meaning

mutual

/-- The formula of a condition, over selections that hold or do not. -/
def Node.Holds (selection : String → Prop) : Node → Prop
  | .selection name => selection name
  | .not node => ¬ node.Holds selection
  | .all nodes => allHold selection nodes
  | .any nodes => anyHolds selection nodes

def allHold (selection : String → Prop) : List Node → Prop
  | [] => True
  | node :: nodes => node.Holds selection ∧ allHold selection nodes

def anyHolds (selection : String → Prop) : List Node → Prop
  | [] => False
  | node :: nodes => node.Holds selection ∨ anyHolds selection nodes

end

/-! ## Fields -/

section Fields

variable {floatInt : String → Option Int} {lib : DetectionSimulator.Library} {source : Source}

theorem bar_not_mem_takeWhile (cs : List Char) : '|' ∉ cs.takeWhile (· ≠ '|') := by
  intro h
  have hne := List.mem_takeWhile_imp h
  simp at hne

theorem split_at_bar {cs rest : List Char} {c : Char} (h : cs.dropWhile (· ≠ '|') = c :: rest) :
    cs = cs.takeWhile (· ≠ '|') ++ '|' :: rest := by
  induction cs with
  | nil => cases h
  | cons d ds ih =>
    by_cases hd : d = '|'
    · subst hd
      have hstop : decide ('|' ≠ '|') ≠ true := by simp
      rw [List.dropWhile_cons_of_neg (p := fun c => decide (c ≠ '|')) hstop] at h
      rw [List.takeWhile_cons_of_neg (p := fun c => decide (c ≠ '|')) hstop, List.nil_append]
      injection h with hc hrest
      rw [hrest]
    · have hgo : decide (d ≠ '|') = true := decide_eq_true hd
      rw [List.dropWhile_cons_of_pos (p := fun c => decide (c ≠ '|')) hgo] at h
      rw [List.takeWhile_cons_of_pos (p := fun c => decide (c ≠ '|')) hgo, List.cons_append, ← ih h]

theorem splitFieldAndModifier_eq_ok {key : String} {result : String × Option Modifier}
    (h : splitFieldAndModifier key = .ok result) : KeyReads key result.1 result.2 := by
  unfold splitFieldAndModifier at h
  split at h
  · next hdrop =>
    cases h
    refine ⟨fun hmem => ?_, rfl⟩
    have hall := List.dropWhile_eq_nil_iff.mp hdrop '|' hmem
    simp at hall
  · next bar rest hdrop =>
    dsimp only at h
    split at h
    · cases h
    · split at h
      · cases h
      · next hrest =>
        split at h
        · next modifier hfind =>
          cases h
          refine ⟨rest, ?_, ?_, hrest, ?_⟩
          · rw [String.toList_ofList]
            exact split_at_bar hdrop
          · rw [String.toList_ofList]
            exact bar_not_mem_takeWhile key.toList
          · have hname := List.find?_some hfind
            exact (of_decide_eq_true hname).symm
        · cases h

theorem Modifier.name_inj {modifier other : Modifier} (h : modifier.name = other.name) : modifier = other := by
  cases modifier <;> cases other <;> first | rfl | exact absurd h (by decide)

/-- What stands before the first bar is the same in any reading. -/
theorem append_bar_inj {name other text rest : List Char} (hname : '|' ∉ name) (hother : '|' ∉ other)
    (h : name ++ '|' :: text = other ++ '|' :: rest) : name = other ∧ text = rest := by
  induction name generalizing other with
  | nil =>
    cases other with
    | nil =>
      cases h
      exact ⟨rfl, rfl⟩
    | cons c other =>
      injection h with hc
      exact absurd (hc ▸ List.mem_cons_self) hother
  | cons c name ih =>
    cases other with
    | nil =>
      injection h with hc
      exact absurd (hc ▸ List.mem_cons_self) hname
    | cons d other =>
      injection h with hc hrest
      obtain ⟨hsame, htext⟩ := ih (fun hmem => hname (List.mem_cons_of_mem c hmem))
        (fun hmem => hother (List.mem_cons_of_mem d hmem)) hrest
      rw [hc, hsame]
      exact ⟨rfl, htext⟩

/-- A key is read in one way. -/
theorem KeyReads.unique {key name other : String} {modifier otherModifier : Option Modifier}
    (h : KeyReads key name modifier) (h' : KeyReads key other otherModifier) :
    name = other ∧ modifier = otherModifier := by
  have hbar {name : String} {modifier : Modifier} (h : KeyReads key name (some modifier)) :
      '|' ∈ key.toList := by
    obtain ⟨text, hkey, -, -, -⟩ := h
    rw [hkey]
    exact List.mem_append_right _ List.mem_cons_self
  cases modifier with
  | none =>
    cases otherModifier with
    | none => exact ⟨h.2.trans h'.2.symm, rfl⟩
    | some otherModifier => exact absurd (hbar h') h.1
  | some modifier =>
    cases otherModifier with
    | none => exact absurd (hbar h) h'.1
    | some otherModifier =>
      obtain ⟨text, hkey, hname, -, hmodifier⟩ := h
      obtain ⟨rest, hkey', hother, -, hmodifier'⟩ := h'
      obtain ⟨hnames, htext⟩ := append_bar_inj hname hother (hkey.symm.trans hkey')
      subst htext
      have hsame := Modifier.name_inj (hmodifier.symm.trans hmodifier')
      exact ⟨String.toList_inj.mp hnames, congrArg some hsame⟩

theorem mapFieldAlias_eq_ok {name : String} {field : Field} (h : mapFieldAlias source name = .ok field) :
    Denotes source name field ∧ field ∈ source.allowedFields := by
  unfold mapFieldAlias at h
  split at h
  · next aliases hfind =>
    split at h
    · next hallowed =>
      cases h
      have hname := List.find?_some hfind
      exact ⟨⟨aliases.2, List.mem_of_find?_eq_some hfind, of_decide_eq_true hname⟩, hallowed⟩
    · cases h
  · cases h

/-- No name stands for two fields of a source. -/
theorem Denotes.unique {name : String} {field other : Field} (h : Denotes source name field)
    (h' : Denotes source name other) : field = other := by
  obtain ⟨names, hfield, hname⟩ := h
  obtain ⟨others, hother, hname'⟩ := h'
  have hdisjoint : ((fieldAliases source).all fun a => (fieldAliases source).all fun b =>
      a.2.all fun name => decide (name ∉ b.2) || decide (a.1 = b.1)) = true := by
    cases source <;> decide +kernel
  have hone := List.all_eq_true.mp (List.all_eq_true.mp (List.all_eq_true.mp hdisjoint _ hfield) _ hother)
    name hname
  rcases Bool.or_eq_true_iff.mp hone with hnot | hsame
  · exact absurd hname' (of_decide_eq_true hnot)
  · exact of_decide_eq_true hsame

/-- What a value becomes when it is accepted. -/
theorem normalizeSelectionValue_eq_ok {value : Json} {element : String} {scalar : Scalar}
    (h : normalizeSelectionValue floatInt value element = .ok scalar) :
    (∃ s, value = .str s ∧ strip s ≠ "" ∧ s.length ≤ maxSigmaStringLength ∧ scalar = .text s) ∨
      ∃ n, integerOf floatInt value = some n ∧ scalar = .int n := by
  unfold normalizeSelectionValue at h
  split at h
  · cases h
  · cases h
  · cases h
    exact Or.inr ⟨_, rfl, rfl⟩
  · split at h
    · next hfloat =>
      cases h
      exact Or.inr ⟨_, hfloat, rfl⟩
    · cases h
  · split at h
    · cases h
    · next hblank =>
      split at h
      · cases h
      · cases h
        exact Or.inl ⟨_, rfl, hblank, by omega, rfl⟩
  · cases h
  · cases h

/-- The value of a field is of the kind that the field is compared with, or missing. -/
def Typed (field : Field) (actual : Json) : Prop :=
  actual = .null ∨ (field.isNumeric = true ∧ ∃ n, actual = .int n) ∨
    field.isNumeric = false ∧ ∃ s, actual = .str s

/-- The operator that a key asks for. -/
def operatorOf : Option Modifier → Operator
  | none => .equals
  | some modifier => modifier.operator

theorem compareText_eq_true {modifier : Option Modifier} {part whole : String} :
    DetectionSimulator.compareText (operatorOf modifier) part whole = true ↔
      textTest modifier part.toList whole.toList := by
  cases modifier with
  | none =>
    refine decide_eq_true_iff.trans ?_
    rw [eq_comm, ← String.toList_inj]
    exact Iff.rfl
  | some modifier =>
    cases modifier with
    | contains => exact decide_eq_true_iff
    | startswith => exact List.isPrefixOf_iff_prefix
    | endswith => exact List.isSuffixOf_iff_suffix

/-- A text is compared as its modifier says. -/
theorem text_holds {field : Field} (modifier : Option Modifier) (part : String)
    (hfield : field.isNumeric = false) {actual : Json} (htyped : Typed field actual) :
    DetectionSimulator.temporaryRuleValueMatches lib (operatorOf modifier) (.scalar (.text part)) actual = true ↔
      ValueHolds floatInt lib modifier (.str part) actual := by
  rcases htyped with rfl | ⟨hnumeric, -⟩ | ⟨-, whole, rfl⟩
  · refine iff_of_false (fun h => ?_) ?_
    · rw [DetectionSimulator.matches_null] at h
      cases h
    · rintro (⟨part', whole, -, hnull, -⟩ | ⟨n, -, hnull⟩) <;> cases hnull
  · rw [hfield] at hnumeric
    cases hnumeric
  · refine compareText_eq_true.trans ⟨fun h => Or.inl ⟨part, whole, rfl, rfl, h⟩, ?_⟩
    rintro (⟨part', whole', hpart, hwhole, h⟩ | ⟨n, hn, -⟩)
    · cases hpart
      cases hwhole
      exact h
    · cases hn

/-- An integer is compared with an integer. -/
theorem int_holds {field : Field} {value : Json} {n : Int} (hvalue : integerOf floatInt value = some n)
    (hfield : field.isNumeric = true) {actual : Json} (htyped : Typed field actual) :
    DetectionSimulator.temporaryRuleValueMatches lib .equals (.scalar (.int n)) actual = true ↔
      ValueHolds floatInt lib none value actual := by
  have hstr (s : String) : value ≠ .str s := by
    intro h
    rw [h] at hvalue
    cases hvalue
  rcases htyped with rfl | ⟨-, m, rfl⟩ | ⟨htext, -⟩
  · refine iff_of_false (fun h => ?_) ?_
    · rw [DetectionSimulator.matches_null] at h
      cases h
    · rintro (⟨part, whole, -, hnull, -⟩ | ⟨n, -, hnull⟩) <;> cases hnull
  · refine decide_eq_true_iff.trans ⟨fun h => Or.inr ⟨n, hvalue, congrArg Json.int h⟩, ?_⟩
    rintro (⟨part, whole, hpart, -⟩ | ⟨n', hn', h⟩)
    · exact absurd hpart (hstr part)
    · cases hvalue.symm.trans hn'
      cases h
      rfl
  · rw [hfield] at htext
    cases htext

/-- A value that was accepted without a modifier is compared as a whole. -/
theorem equals_holds {field : Field} {value : Json} {element : String} {scalar : Scalar}
    (hscalar : normalizeSelectionValue floatInt value element = .ok scalar)
    (hcomparable : scalar.Comparable field) {actual : Json} (htyped : Typed field actual) :
    DetectionSimulator.temporaryRuleValueMatches lib .equals (.scalar scalar) actual = true ↔
      ValueHolds floatInt lib none value actual := by
  rcases normalizeSelectionValue_eq_ok hscalar with ⟨s, rfl, -, -, rfl⟩ | ⟨n, hn, rfl⟩
  · exact text_holds none s hcomparable.1 htyped
  · exact int_holds hn hcomparable.1 htyped

theorem exists_of_forall₂ {α β : Type} {R : α → β → Prop} {P : α → Prop} {Q : β → Prop} {xs : List α}
    {ys : List β} (h : List.Forall₂ R xs ys) (hiff : ∀ x ∈ xs, ∀ y ∈ ys, R x y → (Q y ↔ P x)) :
    (∃ y ∈ ys, Q y) ↔ ∃ x ∈ xs, P x := by
  induction h with
  | nil => simp
  | cons hxy _ ih =>
    rw [List.exists_mem_cons_iff, List.exists_mem_cons_iff, hiff _ List.mem_cons_self _ List.mem_cons_self hxy,
      ih fun x hx y hy => hiff x (List.mem_cons_of_mem _ hx) y (List.mem_cons_of_mem _ hy)]

theorem forall_of_forall₂ {α β : Type} {R : α → β → Prop} {P : α → Prop} {Q : β → Prop} {xs : List α}
    {ys : List β} (h : List.Forall₂ R xs ys) (hiff : ∀ x ∈ xs, ∀ y ∈ ys, R x y → (Q y ↔ P x)) :
    (∀ y ∈ ys, Q y) ↔ ∀ x ∈ xs, P x := by
  induction h with
  | nil => simp
  | cons hxy _ ih =>
    rw [List.forall_mem_cons, List.forall_mem_cons, hiff _ List.mem_cons_self _ List.mem_cons_self hxy,
      ih fun x hx y hy => hiff x (List.mem_cons_of_mem _ hx) y (List.mem_cons_of_mem _ hy)]

/-- A list of values that were accepted holds where one of them does. -/
theorem inList_holds {field : Field} {values : List Json} {scalars : List Scalar}
    (hscalars : List.Forall₂ (fun value scalar => ∃ element,
      normalizeSelectionValue floatInt value element = .ok scalar) values scalars)
    (hcomparable : ∀ scalar ∈ scalars, scalar.Comparable field) {actual : Json} (htyped : Typed field actual) :
    DetectionSimulator.temporaryRuleValueMatches lib .inList (.list scalars) actual = true ↔
      ∃ value ∈ values, ValueHolds floatInt lib none value actual := by
  have hequals := exists_of_forall₂
    (Q := fun scalar => DetectionSimulator.temporaryRuleValueMatches lib .equals (.scalar scalar) actual = true)
    (P := fun value => ValueHolds floatInt lib none value actual) hscalars
    fun value _ scalar hmem ⟨element, hscalar⟩ => equals_holds hscalar (hcomparable scalar hmem) htyped
  refine Iff.trans ?_ hequals
  rcases htyped with rfl | ⟨hnumeric, n, rfl⟩ | ⟨htext, s, rfl⟩
  · simp
  · refine DetectionSimulator.inList_int fun scalar hscalar => ?_
    cases scalar with
    | int m => exact ⟨m, rfl⟩
    | text t =>
      have hfalse := (hcomparable _ hscalar).1
      rw [hnumeric] at hfalse
      cases hfalse
  · refine DetectionSimulator.inList_text fun scalar hscalar => ?_
    cases scalar with
    | text t => exact ⟨t, rfl⟩
    | int m =>
      have htrue := (hcomparable _ hscalar).1
      rw [htext] at htrue
      cases htrue

/-- The predicate of an entry says what the entry says. -/
theorem fieldPredicate_holds {key element : String} {value : Json} {predicate : Predicate}
    {reading : Field → Json} (hcompile : compileFieldPredicate floatInt source key value element = .ok predicate)
    (hwell : predicate.WellFormed source) (htyped : ∀ field ∈ source.allowedFields, Typed field (reading field)) :
    predicate.holds lib reading = true ↔ FieldHolds floatInt lib source reading (key, value) := by
  obtain ⟨⟨name, modifier⟩, hkey, hrest⟩ := bind_eq_ok.mp hcompile
  obtain ⟨field, hfield, hvalue⟩ := bind_eq_ok.mp hrest
  clear hcompile hrest
  have hreads := splitFieldAndModifier_eq_ok hkey
  obtain ⟨hdenotes, hallowed⟩ := mapFieldAlias_eq_ok hfield
  -- the key is read in one way, so only the alternatives are left
  have hmeans : FieldHolds floatInt lib source reading (key, value) ↔
      ∃ alternative ∈ alternatives value, ValueHolds floatInt lib modifier alternative (reading field) := by
    constructor
    · intro ⟨name', modifier', field', hreads', hdenotes', h⟩
      obtain ⟨hname, hmodifier⟩ := hreads.unique hreads'
      subst hmodifier
      have hname : name = name' := hname
      subst hname
      rw [hdenotes.unique hdenotes']
      exact h
    · exact fun h => ⟨name, modifier, field, hreads, hdenotes, h⟩
  rw [hmeans]
  have hone (hscalar : ∀ items, value ≠ .arr items) : alternatives value = [value] := by
    cases value with
    | arr items => exact absurd rfl (hscalar items)
    | _ => rfl
  split at hvalue
  · next items =>
    split at hvalue
    · cases hvalue
    · split at hvalue
      · cases hvalue
      · next hmodifier =>
        obtain ⟨scalars, hscalars, heq⟩ := bind_eq_ok.mp hvalue
        cases heq
        have hnone : modifier = none := Option.not_isSome_iff_eq_none.mp hmodifier
        subst hnone
        cases hwell with
        | leaf _ hcompares =>
          refine inList_holds ?_ hcompares.comparable (htyped field hallowed)
          have hpairs := mapM_forall₂ hscalars
          have hitems : items = items.zipIdx.map Prod.fst := (List.zipIdx_map_fst 0 items).symm
          show List.Forall₂ _ items scalars
          rw [hitems, List.forall₂_map_left_iff]
          exact hpairs.imp fun item scalar h => ⟨_, h⟩
  · next hnotArr =>
    obtain ⟨scalar, hscalar, hleaf⟩ := bind_eq_ok.mp hvalue
    rw [hone hnotArr]
    simp only [List.mem_singleton, exists_eq_left]
    cases modifier with
    | none =>
      cases hleaf
      cases hwell with
      | leaf _ hcompares =>
        exact equals_holds hscalar (hcompares.comparable scalar (List.mem_singleton_self scalar))
          (htyped field hallowed)
    | some modifier =>
      rcases normalizeSelectionValue_eq_ok hscalar with ⟨s, rfl, -, -, rfl⟩ | ⟨n, -, rfl⟩
      · cases hleaf
        cases hwell with
        | leaf _ hcompares =>
          have htext := (hcompares.comparable (.text s) (List.mem_singleton_self _)).1
          exact text_holds (some modifier) s htext (htyped field hallowed)
      · cases hleaf

end Fields

/-! ## Selections -/

section Selections

variable {floatInt : String → Option Int} {lib : DetectionSimulator.Library} {source : Source}
  {reading : Field → Json}

theorem conjunction_holds {predicates : List Predicate} :
    (conjunction predicates).holds lib reading = true ↔
      ∀ predicate ∈ predicates, predicate.holds lib reading = true := by
  unfold conjunction
  split
  · next predicate => simp
  · next predicates _ => exact DetectionSimulator.holdsAll_eq_true

theorem conjunction_wellFormed {predicates : List Predicate}
    (h : (conjunction predicates).WellFormed source) : ∀ predicate ∈ predicates, predicate.WellFormed source := by
  unfold conjunction at h
  split at h
  · next predicate =>
    intro other hother
    rwa [List.mem_singleton.mp hother]
  · next predicates _ =>
    cases h with
    | all hne hall => exact hall

/-- The predicate of a selection says what the selection says. -/
theorem selection_holds {name : String} {body : Json} {predicate : Predicate}
    (hcompile : compileSelection floatInt source name body = .ok predicate) (hwell : predicate.WellFormed source)
    (htyped : ∀ field ∈ source.allowedFields, Typed field (reading field)) :
    predicate.holds lib reading = true ↔ SelectionHolds floatInt lib source reading body := by
  unfold compileSelection at hcompile
  split at hcompile
  · cases hcompile
  · split at hcompile
    · cases hcompile
    · obtain ⟨predicates, hpredicates, rfl⟩ := map_eq_ok.mp hcompile
      rw [conjunction_holds]
      refine forall_of_forall₂ (mapM_forall₂ hpredicates) fun entry _ predicate hmem hentry => ?_
      exact fieldPredicate_holds hentry (conjunction_wellFormed hwell predicate hmem) htyped

/-- Induction over the trees of conditions. -/
theorem Node.induct {P : Node → Prop} (selection : ∀ name, P (.selection name))
    (not : ∀ node, P node → P (.not node)) (all : ∀ nodes, (∀ node ∈ nodes, P node) → P (.all nodes))
    (any : ∀ nodes, (∀ node ∈ nodes, P node) → P (.any nodes)) (node : Node) : P node := by
  refine @Node.rec P (fun nodes => ∀ node ∈ nodes, P node) selection not all any ?_ ?_ node
  · intro node hnode
    cases hnode
  · intro node nodes hnode hnodes
    exact List.forall_mem_cons.mpr ⟨hnode, hnodes⟩

theorem allHold_iff {selection : String → Prop} {nodes : List Node} :
    allHold selection nodes ↔ ∀ node ∈ nodes, node.Holds selection := by
  induction nodes with
  | nil => exact iff_of_true trivial (List.forall_mem_nil _)
  | cons node nodes ih => rw [allHold, ih, List.forall_mem_cons]

theorem anyHolds_iff {selection : String → Prop} {nodes : List Node} :
    anyHolds selection nodes ↔ ∃ node ∈ nodes, node.Holds selection := by
  induction nodes with
  | nil => exact iff_of_false id fun ⟨_, hnode, _⟩ => List.not_mem_nil hnode
  | cons node nodes ih => rw [anyHolds, ih, List.exists_mem_cons_iff]

/-- The trees of a list are resolved one by one. -/
theorem resolveConditionTrees_forall₂ {compiled : List (String × Predicate)} {nodes : List Node}
    {predicates : List Predicate} (h : resolveConditionTrees compiled nodes = .ok predicates) :
    List.Forall₂ (fun node predicate => resolveConditionTree compiled node = .ok predicate) nodes predicates := by
  induction nodes generalizing predicates with
  | nil =>
    cases h
    exact List.Forall₂.nil
  | cons node nodes ih =>
    rw [resolveConditionTrees] at h
    obtain ⟨first, hfirst, h⟩ := bind_eq_ok.mp h
    obtain ⟨rest, hrest, h⟩ := bind_eq_ok.mp h
    cases h
    exact List.Forall₂.cons hfirst (ih hrest)

/-- A tree whose selections have been put in says what the tree says. -/
theorem resolve_holds {compiled : List (String × Predicate)} {selection : String → Prop}
    (hselection : ∀ name predicate, compiled.lookup name = some predicate → predicate.WellFormed source →
      (predicate.holds lib reading = true ↔ selection name))
    {tree : Node} {predicate : Predicate} (hresolve : resolveConditionTree compiled tree = .ok predicate)
    (hwell : predicate.WellFormed source) : predicate.holds lib reading = true ↔ tree.Holds selection := by
  induction tree using Node.induct generalizing predicate with
  | selection name =>
    rw [resolveConditionTree] at hresolve
    split at hresolve
    · next found hfound =>
      cases hresolve
      exact hselection name _ hfound hwell
    · cases hresolve
  | not node ih =>
    rw [resolveConditionTree] at hresolve
    obtain ⟨child, hchild, rfl⟩ := map_eq_ok.mp hresolve
    cases hwell with
    | negation hwell =>
      rw [Node.Holds, ← ih hchild hwell, Predicate.holds, Bool.not_eq_true', Bool.not_eq_true]
  | all nodes ih =>
    rw [resolveConditionTree] at hresolve
    obtain ⟨children, hchildren, rfl⟩ := map_eq_ok.mp hresolve
    cases hwell with
    | all hne hwell =>
      rw [Node.Holds, Predicate.holds, DetectionSimulator.holdsAll_eq_true, allHold_iff]
      exact forall_of_forall₂ (resolveConditionTrees_forall₂ hchildren) fun node hnode child hchild hread =>
        ih node hnode hread (hwell child hchild)
  | any nodes ih =>
    rw [resolveConditionTree] at hresolve
    obtain ⟨children, hchildren, rfl⟩ := map_eq_ok.mp hresolve
    cases hwell with
    | any hne hwell =>
      rw [Node.Holds, Predicate.holds, DetectionSimulator.holdsAny_eq_true, anyHolds_iff]
      exact exists_of_forall₂ (resolveConditionTrees_forall₂ hchildren) fun node hnode child hchild hread =>
        ih node hnode hread (hwell child hchild)

end Selections

/-! ## Detections -/

section Detections

variable {names : List String}

theorem Phrase.succ {depth : Nat} {c : Category} {words : List String} {tree : Node}
    (h : Phrase names depth c words tree) : Phrase names (depth + 1) c words tree := by
  induction depth generalizing c words tree with
  | zero => exact h.elim
  | succ depth ih =>
    cases c with
    | or =>
      obtain ⟨trees, htrees, htree⟩ := h
      exact ⟨trees, htrees.mono fun _ _ hphrase => ih hphrase, htree⟩
    | and =>
      obtain ⟨trees, htrees, htree⟩ := h
      exact ⟨trees, htrees.mono fun _ _ hphrase => ih hphrase, htree⟩
    | not =>
      rcases h with ⟨inner, node, hwords, hinner, htree⟩ | hprimary
      · exact Or.inl ⟨inner, node, hwords, ih hinner, htree⟩
      · exact Or.inr (ih hprimary)
    | primary =>
      rcases h with ⟨inner, hwords, hinner⟩ | hname
      · exact Or.inl ⟨inner, hwords, ih hinner⟩
      · exact Or.inr hname

theorem Phrase.mono {depth deeper : Nat} (hle : depth ≤ deeper) {c : Category} {words : List String}
    {tree : Node} (h : Phrase names depth c words tree) : Phrase names deeper c words tree := by
  induction hle with
  | refl => exact h
  | step _ ih => exact ih.succ

/-- The grammar is not ambiguous. -/
theorem Phrase.unique {depth other : Nat} {words : List String} {tree tree' : Node}
    (h : Phrase names depth .or words tree) (h' : Phrase names other .or words tree') : tree = tree' := by
  have hread := parse_eq_ok.mpr (h.mono (Nat.le_max_left depth other))
  have hread' := parse_eq_ok.mpr (h'.mono (Nat.le_max_right depth other))
  exact Except.ok.inj (hread.symm.trans hread')

theorem Spells.unique {cs : List Char} {words other : List String} (h : Spells cs words)
    (h' : Spells cs other) : words = other := by
  have hread : tokenizeFrom wordlessPython cs.length cs = .ok words :=
    tokenizeFrom_of_spells h (Nat.le_refl cs.length)
  have hread' : tokenizeFrom wordlessPython cs.length cs = .ok other :=
    tokenizeFrom_of_spells h' (Nat.le_refl cs.length)
  exact Except.ok.inj (hread.symm.trans hread')

/-- The condition of a detection reads as a formula, by the grammar of conditions. -/
def ConditionReads (detection : Json) (tree : Node) : Prop :=
  ∃ condition words depth, detection.get "condition" = .str condition ∧
    Spells (strip condition).toList words ∧
    Phrase ((selectionItems detection).map Prod.fst) depth .or words tree

theorem ConditionReads.unique {detection : Json} {tree tree' : Node} (h : ConditionReads detection tree)
    (h' : ConditionReads detection tree') : tree = tree' := by
  obtain ⟨condition, words, depth, hcondition, hspells, hphrase⟩ := h
  obtain ⟨condition', words', depth', hcondition', hspells', hphrase'⟩ := h'
  cases hcondition.symm.trans hcondition'
  cases hspells.unique hspells'
  exact hphrase.unique hphrase'

variable {interpreter : Interpreter} {source : Source} {detection : Json}

theorem checkSelectionName_eq_ok {name : String} (h : checkSelectionName name = .ok ()) :
    isSelectionName name.toList = true := by
  unfold checkSelectionName at h
  split at h
  · next hname => exact hname
  · cases h

theorem detectionCondition_eq_ok {condition : String} (h : detectionCondition detection = .ok condition) :
    detection.get "condition" = .str condition := by
  unfold detectionCondition at h
  dsimp only at h
  split at h
  · next text htext =>
    split at h
    · cases h
    · cases h
      exact htext
  · cases h

theorem detectionParts_eq_ok {parts : String × List (String × Json)} (h : detectionParts detection = .ok parts) :
    detection.get "condition" = .str parts.1 ∧ parts.2 = selectionItems detection ∧
      ∀ item ∈ parts.2, isSelectionName item.1.toList = true := by
  obtain ⟨-, -, h⟩ := bind_eq_ok.mp h
  obtain ⟨-, -, h⟩ := bind_eq_ok.mp h
  obtain ⟨condition, hcondition, h⟩ := bind_eq_ok.mp h
  obtain ⟨-, -, h⟩ := bind_eq_ok.mp h
  obtain ⟨-, -, h⟩ := bind_eq_ok.mp h
  obtain ⟨_, hnames, h⟩ := bind_eq_ok.mp h
  cases h
  exact ⟨detectionCondition_eq_ok hcondition, rfl, fun item hitem =>
    checkSelectionName_eq_ok (forM_eq_ok.mp hnames item hitem)⟩

/-- The selections keep their names. -/
theorem compileNamed_names {items : List (String × Json)} {compiled : List (String × Predicate)}
    (h : items.mapM (compileNamed interpreter source) = .ok compiled) :
    compiled.map Prod.fst = items.map Prod.fst := by
  have hpairs := mapM_forall₂ h
  clear h
  induction hpairs with
  | nil => rfl
  | cons hitem _ ih =>
    obtain ⟨predicate, -, rfl⟩ := map_eq_ok.mp hitem
    rw [List.map_cons, List.map_cons, ih]

/-- What is found under a name is compiled from what stands under it. -/
theorem compileNamed_lookup {items : List (String × Json)} {compiled : List (String × Predicate)}
    (h : items.mapM (compileNamed interpreter source) = .ok compiled) {name : String} {predicate : Predicate}
    (hlookup : compiled.lookup name = some predicate) :
    ∃ body, items.lookup name = some body ∧
      compileSelection interpreter.floatInt source name body = .ok predicate := by
  have hpairs := mapM_forall₂ h
  clear h
  induction hpairs with
  | nil => cases hlookup
  | @cons item pair items pairs hitem _ ih =>
    obtain ⟨found, hfound, rfl⟩ := map_eq_ok.mp hitem
    rw [List.lookup_cons] at hlookup ⊢
    cases hname : name == item.1 with
    | true =>
      rw [hname] at hlookup
      cases hlookup
      rw [eq_of_beq hname]
      exact ⟨item.2, rfl, hfound⟩
    | false =>
      rw [hname] at hlookup
      exact ih hlookup

/-- What is found among the selections of a detection stands in the detection. -/
theorem get_of_lookup {name : String} {body : Json} (h : (selectionItems detection).lookup name = some body) :
    detection.get name = body := by
  have hmem := Dicts.mem_of_lookup h
  have hname : name ≠ "condition" := by
    have hkept := (List.mem_filter.mp hmem).2
    simpa using hkept
  have hfields : detection.fields.lookup name = some body := (Dicts.lookup_filter_ne hname).symm.trans h
  rw [Json.get, Json.getD, Json.get?, hfields]
  rfl

theorem compileDetection_parts {predicate : Predicate}
    (h : compileDetection interpreter source detection = .ok predicate) :
    ∃ compiled tree, (selectionItems detection).mapM (compileNamed interpreter source) = .ok compiled ∧
      ConditionReads detection tree ∧ resolveConditionTree compiled tree = .ok predicate := by
  obtain ⟨parts, hparts, h⟩ := bind_eq_ok.mp h
  obtain ⟨compiled, hcompiled, h⟩ := bind_eq_ok.mp h
  obtain ⟨tree, htree, h⟩ := bind_eq_ok.mp h
  rw [mapError_eq_ok] at hparts hcompiled htree
  obtain ⟨hcondition, hitems, hnames⟩ := detectionParts_eq_ok hparts
  have hkeys := compileNamed_names hcompiled
  have hlength : (strip parts.1).length ≤ maxSigmaConditionLength := by
    obtain ⟨tokens, htokens, -⟩ := bind_eq_ok.mp htree
    exact ((tokenize_eq_ok interpreter.py interpreter.unicode).mp (mapError_eq_ok.mp htokens)).1
  rw [hkeys] at htree
  have hidentifiers : ∀ name ∈ parts.2.map Prod.fst, isSelectionName name.toList = true := by
    intro name hname
    obtain ⟨item, hitem, rfl⟩ := List.mem_map.mp hname
    exact hnames item hitem
  obtain ⟨words, hspells, hphrase, -⟩ :=
    (conditionTree_eq_ok interpreter.py interpreter.unicode hidentifiers hlength).mp htree
  rw [hitems] at hcompiled hphrase
  exact ⟨compiled, tree, hcompiled, ⟨parts.1, words, _, hcondition, hspells, hphrase⟩, h⟩

/-- What a detection is compiled to says what the detection says. -/
theorem detection_holds {predicate : Predicate} {lib : DetectionSimulator.Library} {reading : Field → Json}
    (hcompile : compileDetection interpreter source detection = .ok predicate) (hwell : predicate.WellFormed source)
    (htyped : ∀ field ∈ source.allowedFields, Typed field (reading field)) :
    ∃ tree, (∀ other, ConditionReads detection other ↔ other = tree) ∧
      (predicate.holds lib reading = true ↔
        tree.Holds fun name => SelectionHolds interpreter.floatInt lib source reading (detection.get name)) := by
  obtain ⟨compiled, tree, hcompiled, htree, hresolve⟩ := compileDetection_parts hcompile
  refine ⟨tree, fun other => ⟨fun hother => hother.unique htree, fun hother => hother ▸ htree⟩, ?_⟩
  refine resolve_holds (fun name found hfound hwellFound => ?_) hresolve hwell
  obtain ⟨body, hbody, hselection⟩ := compileNamed_lookup hcompiled hfound
  rw [get_of_lookup hbody]
  exact selection_holds hselection hwellFound htyped

end Detections

/-! ## Log sources -/

section Logsources

variable {lower : String → String} {logsource : Json}

/-- A log source has the entries of a fingerprint, up to case and the whitespace around them. -/
def LogsourceNames (lower : String → String) (logsource : Json) (source : Source) : Prop :=
  ∃ fingerprint, (fingerprint, source) ∈ logsourceFingerprints ∧
    ∀ pair ∈ fingerprint, ∃ text, (pair.1, Json.str text) ∈ logsource.fields ∧ lower (strip text) = pair.2

theorem logsourceEntry_eq_ok {entry : String × Json} {stripped : String × String}
    (h : logsourceEntry entry = .ok stripped) :
    ∃ text, entry.2 = .str text ∧ stripped = (entry.1, strip text) := by
  unfold logsourceEntry at h
  dsimp only at h
  split at h
  · next text htext =>
    split at h
    · cases h
    · cases h
      exact ⟨text, htext, rfl⟩
  · cases h

/-- The pairs of a log source are its entries, stripped and in lower case. -/
theorem mem_logsourcePairs {entries : List (String × String)}
    (h : logsource.fields.mapM logsourceEntry = .ok entries) {pair : String × String} :
    pair ∈ entries.map (fun entry => (entry.1, lower entry.2)) ↔
      ∃ text, (pair.1, Json.str text) ∈ logsource.fields ∧ lower (strip text) = pair.2 := by
  rw [List.mem_map]
  constructor
  · intro ⟨entry, hentry, hpair⟩
    obtain ⟨field, hfield, hread⟩ := exists_of_mem_mapM h hentry
    obtain ⟨text, htext, rfl⟩ := logsourceEntry_eq_ok hread
    subst hpair
    exact ⟨text, htext ▸ hfield, rfl⟩
  · intro ⟨text, hfield, hlower⟩
    obtain ⟨entry, hentry, hread⟩ := mapM_mem h hfield
    obtain ⟨text', htext, rfl⟩ := logsourceEntry_eq_ok hread
    cases htext
    exact ⟨_, hentry, Prod.ext rfl hlower⟩

/-- A log source that is mapped names one source. -/
theorem mapLogsource_eq_ok {source : Source} {entries : List (String × String)}
    (h : mapLogsource lower logsource = .ok (source, entries)) (other : Source) :
    LogsourceNames lower logsource other ↔ other = source := by
  obtain ⟨-, -, h⟩ := bind_eq_ok.mp h
  obtain ⟨-, -, h⟩ := bind_eq_ok.mp h
  obtain ⟨stripped, hstripped, h⟩ := bind_eq_ok.mp h
  dsimp only at h
  split at h
  · next found hmatching =>
    cases h
    have hmem : other ∈ matchingSources (entries.map fun entry => (entry.1, lower entry.2)) ↔ other = source := by
      rw [hmatching, List.mem_singleton]
    rw [← hmem, matchingSources, List.mem_eraseDups, List.mem_filterMap]
    constructor
    · intro ⟨fingerprint, hfingerprint, hpairs⟩
      refine ⟨(fingerprint, other), hfingerprint, if_pos (List.all_eq_true.mpr fun pair hpair => ?_)⟩
      exact decide_eq_true ((mem_logsourcePairs hstripped).mpr (hpairs pair hpair))
    · intro ⟨⟨fingerprint, named⟩, hfingerprint, hfound⟩
      dsimp only at hfound
      split at hfound
      · next hall =>
        cases hfound
        refine ⟨fingerprint, hfingerprint, fun pair hpair => ?_⟩
        exact (mem_logsourcePairs hstripped).mp (of_decide_eq_true (List.all_eq_true.mp hall pair hpair))
      · cases hfound
  · cases h
  · cases h

end Logsources

/-! ## Rules -/

section Rules

variable {interpreter : Interpreter} {document : Json} {inputFormat eventType : Option String}
  {compiled : CompiledRule}

structure Compiles (interpreter : Interpreter) (document : Json) (inputFormat eventType : Option String)
    (compiled : CompiledRule) : Prop where
  metadata : parseMetadata document = .ok compiled.metadata
  tags : parseTags interpreter.unicode (document.get "tags") = .ok (compiled.tags, compiled.attackTags)
  logsource : mapLogsource interpreter.lower (document.get "logsource") = .ok (compiled.source, compiled.logsource)
  detection : compileDetection interpreter compiled.source (document.get "detection") = .ok compiled.condition
  inputFormat : defaultInputFormat compiled.source inputFormat = .ok compiled.inputFormat
  eventType : compiled.eventType = (eventType.map strip).filter (· ≠ "")

theorem compileRule_eq_ok (h : compileRule interpreter document inputFormat eventType = .ok compiled) :
    Compiles interpreter document inputFormat eventType compiled := by
  obtain ⟨metadata, hmetadata, h⟩ := bind_eq_ok.mp h
  obtain ⟨tags, htags, h⟩ := bind_eq_ok.mp h
  obtain ⟨mapped, hmapped, h⟩ := bind_eq_ok.mp h
  obtain ⟨condition, hcondition, h⟩ := bind_eq_ok.mp h
  obtain ⟨format, hformat, h⟩ := bind_eq_ok.mp h
  cases h
  exact ⟨mapError_eq_ok.mp hmetadata, mapError_eq_ok.mp htags, mapError_eq_ok.mp hmapped, hcondition,
    mapError_eq_ok.mp hformat, rfl⟩

/-- Every field of the source can be read of the event, and a field of texts is a text or missing. -/
structure Readable (lib : DetectionSimulator.Library) (source : Source) (event : Json) (reading : Field → Json) :
    Prop where
  reads : ∀ field ∈ source.allowedFields,
    DetectionSimulator.extractTemporaryRuleField lib event field = .ok (reading field)
  texts : ∀ field ∈ source.allowedFields, field.isNumeric = false →
    reading field = .null ∨ ∃ s, reading field = .str s

/-- A field of numbers is read as an integer or as missing. -/
theorem Readable.typed {lib : DetectionSimulator.Library} {source : Source} {event : Json} {reading : Field → Json}
    (h : Readable lib source event reading) {field : Field} (hfield : field ∈ source.allowedFields) :
    Typed field (reading field) := by
  cases hnumeric : field.isNumeric with
  | false =>
    rcases h.texts field hfield hnumeric with hnull | ⟨s, hs⟩
    · exact Or.inl hnull
    · exact Or.inr (Or.inr ⟨hnumeric, s, hs⟩)
  | true =>
    have hread := h.reads field hfield
    unfold DetectionSimulator.extractTemporaryRuleField at hread
    have hinteger : reading field = .null ∨ ∃ n, reading field = .int n := by
      cases field with
      | destinationPort =>
        dsimp only at hread
        exact DetectionSimulator.integerField_cases hread
      | httpStatus =>
        dsimp only at hread
        exact DetectionSimulator.firstInteger_cases hread
      | _ => cases hnumeric
    rcases hinteger with hnull | ⟨n, hn⟩
    · exact Or.inl hnull
    · exact Or.inr (Or.inl ⟨hnumeric, n, hn⟩)

/-- What the contract takes over from a compiled rule. -/
theorem contract_compiled {digits : Digits} {rule : DetectionSimulator.TemporaryRule}
    (h : DetectionSimulator.validateTemporaryRuleContract digits compiled.json = .ok rule) :
    rule.source = compiled.source ∧ compiled.condition.WellFormed compiled.source ∧
      rule.condition = compiled.condition.trim := by
  have haccepts := DetectionSimulator.contract_eq_ok.mp h
  have hnamed : DetectionSimulator.validateSource compiled.json = .ok compiled.source :=
    DetectionSimulator.validateSource_named rfl rfl
  have hsource : rule.source = compiled.source := Except.ok.inj (haccepts.source.symm.trans hnamed)
  obtain ⟨total, hcondition⟩ := haccepts.condition
  rw [hsource] at hcondition
  obtain ⟨hfits, htrim, -⟩ := (DetectionSimulator.validateNode_json _ compiled.condition 0 _ _).mp hcondition
  exact ⟨hsource, hfits.wellFormed, htrim⟩

end Rules

/-- **Meaning.**  A Sigma rule that is compiled to an accepted temporary rule names one source, its condition
    reads in one way, and of every event whose fields can be read the temporary rule says what the Sigma rule
    says. -/
theorem compiled_rule_means {interpreter : Interpreter} {document : Json} {inputFormat eventType : Option String}
    {compiled : CompiledRule} (hcompile : compileRule interpreter document inputFormat eventType = .ok compiled)
    {digits : Digits} {rule : DetectionSimulator.TemporaryRule}
    (haccepted : DetectionSimulator.validateTemporaryRuleContract digits compiled.json = .ok rule) :
    (∀ source, LogsourceNames interpreter.lower (document.get "logsource") source ↔ source = rule.source) ∧
      ∃ tree, (∀ other, ConditionReads (document.get "detection") other ↔ other = tree) ∧
        ∀ lib event reading, Readable lib rule.source event reading →
          ∃ holds, rule.condition.evaluate lib event = .ok holds ∧
            (holds = true ↔ tree.Holds fun name => SelectionHolds interpreter.floatInt lib rule.source reading
              ((document.get "detection").get name)) := by
  have hparts := compileRule_eq_ok hcompile
  obtain ⟨hsource, hwell, hcondition⟩ := contract_compiled haccepted
  have hvalid := (DetectionSimulator.contract_eq_ok.mp haccepted).valid.wellFormed
  rw [hsource, hcondition] at hvalid ⊢
  refine ⟨mapLogsource_eq_ok hparts.logsource, ?_⟩
  obtain ⟨compiledNames, tree, -, htree, -⟩ := compileDetection_parts hparts.detection
  refine ⟨tree, fun other => ⟨fun hother => hother.unique htree, fun hother => hother ▸ htree⟩, ?_⟩
  intro lib event reading hreadable
  have hevaluate := DetectionSimulator.evaluate_eq hreadable.reads hvalid
  refine ⟨_, hevaluate, ?_⟩
  rw [DetectionSimulator.holds_trim]
  obtain ⟨other, hother, hholds⟩ := detection_holds hparts.detection hwell fun field hfield =>
    hreadable.typed hfield
  cases (hother tree).mp htree
  exact hholds

/-- Failed logins of two users, from outside the office. -/
def adminLogins : Json :=
  .obj [("title", .str "Failed admin logins"), ("level", .str "high"),
    ("logsource", .obj [("product", .str "bank_app")]),
    ("detection", .obj
      [ ("login", .obj [("EventType", .str "failed_login"), ("user", .arr [.str "root", .str " admin"])]),
        ("office", .obj [("src_ip|startswith", .str "10.1.")]), ("condition", .str "login and not office") ])]

def sampleInterpreter : Interpreter where
  py := wordlessPython
  unicode := asciiUnicode
  lower := id
  floatInt _ := none
  frames := 900

theorem adminLogins_accepted : ∃ compiled rule,
    compileRule sampleInterpreter adminLogins none none = .ok compiled ∧
      DetectionSimulator.validateTemporaryRuleContract .ascii compiled.json = .ok rule := by
  have hsome : ((compileRule sampleInterpreter adminLogins none none).toOption.bind fun compiled =>
      (DetectionSimulator.validateTemporaryRuleContract .ascii compiled.json).toOption).isSome = true := by
    decide +kernel
  obtain ⟨rule, hrule⟩ := Option.isSome_iff_exists.mp hsome
  obtain ⟨compiled, hcompiled, haccepted⟩ := Option.bind_eq_some_iff.mp hrule
  exact ⟨compiled, rule, toOption_eq_some.mp hcompiled, toOption_eq_some.mp haccepted⟩

/-- The rule of the failed logins says of events what the Sigma rule says. -/
theorem adminLogins_means : ∃ (rule : DetectionSimulator.TemporaryRule) (tree : Node),
    (∀ source, LogsourceNames id (adminLogins.get "logsource") source ↔ source = rule.source) ∧
      ∀ lib event reading, Readable lib rule.source event reading →
        ∃ holds, rule.condition.evaluate lib event = .ok holds ∧
          (holds = true ↔ tree.Holds fun name => SelectionHolds (fun _ => none) lib rule.source reading
            ((adminLogins.get "detection").get name)) := by
  obtain ⟨compiled, rule, hcompile, haccepted⟩ := adminLogins_accepted
  obtain ⟨hsource, tree, -, hmeans⟩ := compiled_rule_means hcompile haccepted
  exact ⟨rule, tree, hsource, hmeans⟩

end SiemDashboard.SigmaPlayground
