import SiemDashboard.Verification.SigmaMeaning

/-!
# Which compiled Sigma rules are accepted

The compiler of Sigma rules and the contract of temporary rules have limits of their own.  A compiled rule is
accepted where the limits of the contract that the compiler does not share are kept, and nowhere else.

* **Limits** — `CompiledRule.Fits`; `CompiledRule.temporaryRule`: the rule that is accepted.
* **Conditions** — `WellFormed.comparable`, `compileSelection_wellFormed`, `detection_wellFormed`: a compiled
  condition is well formed where its values may be compared with their fields.
* **Metadata** — `validateTemporaryRuleMetadata_eq_ok`, `metadata_stripped`, `tags_stripped`.
* **Result** — `contract_iff_fits`.
-/

namespace SiemDashboard.SigmaPlayground

open Python Checks Phrases
open DetectionSimulator (Field Source Operator Scalar Expected Predicate TemporaryRule optionalText
  maxTempStringLength maxTempPredicateDepth maxTempPredicateNodes validateNonEmptyString)

/-! ## Limits -/

/-- The texts of the metadata, under their names. -/
def Metadata.entries (metadata : Metadata) : List (String × Option String) :=
  [ ("title", some metadata.title), ("id", metadata.id), ("status", metadata.status),
    ("description", metadata.description), ("author", metadata.author), ("date", metadata.date),
    ("level", metadata.level) ]

/-- The limits of the contract that compiling does not ensure. -/
structure CompiledRule.Fits (rule : CompiledRule) : Prop where
  eventType : ∀ name, rule.eventType = some name → name ∈ rule.source.eventTypes
  texts : ∀ entry ∈ rule.metadata.entries, ∀ text, entry.2 = some text → text.length ≤ maxTempStringLength
  comparable : ∀ comparison ∈ rule.condition.comparisons, comparison.2.Comparable comparison.1
  depth_le : rule.condition.depth ≤ maxTempPredicateDepth
  nodes_le : rule.condition.nodes ≤ maxTempPredicateNodes

/-- The temporary rule that a compiled rule is accepted as. -/
def CompiledRule.temporaryRule (rule : CompiledRule) : TemporaryRule where
  source := rule.source
  inputFormat := rule.inputFormat
  eventType := rule.eventType
  condition := rule.condition.trim
  groupByField := defaultGroupByField
  threshold := 1
  windowMinutes := 15
  severity := rule.metadata.severity
  mitreTechniqueId := none

/-! ## Conditions -/

section Conditions

variable {floatInt : String → Option Int} {source : Source}

/-- Every value of the condition may be compared with its field. -/
def AllComparable (predicate : Predicate) : Prop :=
  ∀ comparison ∈ predicate.comparisons, comparison.2.Comparable comparison.1

theorem comparisonsOf_eq (predicates : List Predicate) :
    DetectionSimulator.comparisonsOf predicates = predicates.flatMap Predicate.comparisons := by
  induction predicates with
  | nil => rfl
  | cons predicate predicates ih => rw [DetectionSimulator.comparisonsOf, ih, List.flatMap_cons]

theorem comparisonsOf_comparable {predicates : List Predicate} :
    (∀ comparison ∈ DetectionSimulator.comparisonsOf predicates, comparison.2.Comparable comparison.1) ↔
      ∀ predicate ∈ predicates, AllComparable predicate := by
  rw [comparisonsOf_eq]
  constructor
  · intro h predicate hpredicate comparison hcomparison
    exact h comparison (List.mem_flatMap.mpr ⟨predicate, hpredicate, hcomparison⟩)
  · intro h comparison hcomparison
    obtain ⟨predicate, hpredicate, hmem⟩ := List.mem_flatMap.mp hcomparison
    exact h predicate hpredicate comparison hmem

theorem leaf_comparable {field : Field} {operator : Operator} {value : Expected} :
    AllComparable (.leaf field operator value) ↔ ∀ scalar ∈ value.scalars, scalar.Comparable field := by
  rw [AllComparable, Predicate.comparisons, List.forall_mem_map]

theorem WellFormed.comparable {predicate : Predicate} (h : predicate.WellFormed source) :
    AllComparable predicate := by
  induction predicate using Predicate.induct with
  | leaf field operator value =>
    cases h with
    | leaf hfield hvalue => exact leaf_comparable.mpr hvalue.comparable
  | all children ih =>
    cases h with
    | all hne hchildren =>
      exact comparisonsOf_comparable.mpr fun child hchild => ih child hchild (hchildren child hchild)
  | any children ih =>
    cases h with
    | any hne hchildren =>
      exact comparisonsOf_comparable.mpr fun child hchild => ih child hchild (hchildren child hchild)
  | negation child ih =>
    cases h with
    | negation hchild => exact ih hchild

/-- A predicate of an entry is well formed where its values may be compared with the field. -/
theorem fieldPredicate_wellFormed {key element : String} {value : Json} {predicate : Predicate}
    (hcompile : compileFieldPredicate floatInt source key value element = .ok predicate)
    (hcomparable : AllComparable predicate) : predicate.WellFormed source := by
  obtain ⟨⟨name, modifier⟩, -, hrest⟩ := bind_eq_ok.mp hcompile
  obtain ⟨field, hfield, hvalue⟩ := bind_eq_ok.mp hrest
  clear hcompile hrest
  obtain ⟨-, hallowed⟩ := mapFieldAlias_eq_ok hfield
  split at hvalue
  · next items =>
    split at hvalue
    · cases hvalue
    · next hsize =>
      split at hvalue
      · cases hvalue
      · obtain ⟨scalars, hscalars, heq⟩ := bind_eq_ok.mp hvalue
        cases heq
        rw [not_or, Bool.not_eq_true, List.isEmpty_eq_false_iff] at hsize
        have hlength : scalars.length = items.length := by
          rw [← (mapM_forall₂ hscalars).length_eq, List.length_zipIdx]
        have hne : scalars ≠ [] := by
          intro hnil
          rw [hnil] at hlength
          exact hsize.1 (List.length_eq_zero_iff.mp hlength.symm)
        refine .leaf hallowed ⟨?_, ⟨rfl, hne, ?_⟩, leaf_comparable.mp hcomparable⟩
        · cases field.isNumeric <;> rfl
        · have hle := hsize.2
          rw [maxSigmaListValues] at hle
          omega
  · obtain ⟨scalar, hscalar, hleaf⟩ := bind_eq_ok.mp hvalue
    cases modifier with
    | none =>
      cases hleaf
      refine .leaf hallowed ⟨?_, ?_, leaf_comparable.mp hcomparable⟩
      · cases field.isNumeric <;> rfl
      · intro heq
        cases heq
    | some modifier =>
      cases scalar with
      | int n => cases hleaf
      | text s =>
        cases hleaf
        have htext : field.isNumeric = false :=
          (leaf_comparable.mp hcomparable (.text s) (List.mem_singleton_self _)).1
        refine .leaf hallowed ⟨?_, ?_, leaf_comparable.mp hcomparable⟩
        · rw [htext, if_neg Bool.false_ne_true]
          cases modifier <;> rfl
        · intro heq
          cases modifier <;> cases heq

theorem compileSelection_wellFormed {name : String} {body : Json} {predicate : Predicate}
    (hcompile : compileSelection floatInt source name body = .ok predicate)
    (hcomparable : AllComparable predicate) : predicate.WellFormed source := by
  unfold compileSelection at hcompile
  split at hcompile
  · cases hcompile
  · next hfields =>
    split at hcompile
    · cases hcompile
    · obtain ⟨predicates, hpredicates, rfl⟩ := map_eq_ok.mp hcompile
      have hwell : ∀ predicate ∈ predicates, AllComparable predicate → predicate.WellFormed source := by
        intro predicate hpredicate
        obtain ⟨entry, -, hentry⟩ := exists_of_mem_mapM hpredicates hpredicate
        exact fieldPredicate_wellFormed hentry
      unfold conjunction at hcomparable ⊢
      split at hcomparable
      · next predicate => exact hwell predicate (List.mem_singleton_self predicate) hcomparable
      · next predicates _ =>
        refine .all ?_ fun predicate hpredicate => hwell predicate hpredicate
          (comparisonsOf_comparable.mp hcomparable predicate hpredicate)
        rintro rfl
        have hlength := (mapM_forall₂ hpredicates).length_eq
        rw [List.length_nil, List.length_eq_zero_iff] at hlength
        rw [hlength] at hfields
        exact hfields rfl

/-- Where trees of conditions branch, something follows. -/
inductive Node.Full : Node → Prop
  | selection (name : String) : Full (.selection name)
  | not {node : Node} (h : Full node) : Full (.not node)
  | all {nodes : List Node} (hne : nodes ≠ []) (h : ∀ node ∈ nodes, Full node) : Full (.all nodes)
  | any {nodes : List Node} (hne : nodes ≠ []) (h : ∀ node ∈ nodes, Full node) : Full (.any nodes)

theorem join_full {many : List Node → Node} {nodes : List Node} (hmany : (many nodes).Full)
    (h : ∀ node ∈ nodes, node.Full) : (join many nodes).Full := by
  unfold join
  split
  · next node => exact h node (List.mem_singleton_self node)
  · exact hmany

theorem separated_full {sep : String} {L : List String → Node → Prop}
    (hL : ∀ phrase node, L phrase node → node.Full) {words : List String} {nodes : List Node}
    (h : SeparatedBy sep L words nodes) : ∀ node ∈ nodes, node.Full := by
  induction h with
  | one h => exact List.forall_mem_singleton.mpr (hL _ _ h)
  | more h _ ih => exact List.forall_mem_cons.mpr ⟨hL _ _ h, ih⟩

/-- What the grammar reads is full. -/
theorem Phrase.full {names : List String} {depth : Nat} {c : Category} {words : List String} {tree : Node}
    (h : Phrase names depth c words tree) : tree.Full := by
  induction depth generalizing c words tree with
  | zero => exact h.elim
  | succ depth ih =>
    cases c with
    | or =>
      obtain ⟨trees, htrees, rfl⟩ := h
      have hfull := separated_full (fun _ _ hphrase => ih hphrase) htrees
      exact join_full (.any htrees.ne_nil hfull) hfull
    | and =>
      obtain ⟨trees, htrees, rfl⟩ := h
      have hfull := separated_full (fun _ _ hphrase => ih hphrase) htrees
      exact join_full (.all htrees.ne_nil hfull) hfull
    | not =>
      rcases h with ⟨inner, node, -, hinner, rfl⟩ | hprimary
      · exact .not (ih hinner)
      · exact ih hprimary
    | primary =>
      rcases h with ⟨inner, -, hinner⟩ | ⟨name, -, -, -, rfl⟩
      · exact ih hinner
      · exact .selection name

/-- Nothing but well-formed selections makes a well-formed condition. -/
theorem resolve_wellFormed {compiled : List (String × Predicate)}
    (hselection : ∀ name predicate, compiled.lookup name = some predicate → AllComparable predicate →
      predicate.WellFormed source)
    {tree : Node} (hfull : tree.Full) {predicate : Predicate}
    (hresolve : resolveConditionTree compiled tree = .ok predicate) (hcomparable : AllComparable predicate) :
    predicate.WellFormed source := by
  have hchildren {nodes : List Node} {predicates : List Predicate} (hne : nodes ≠ [])
      (hread : List.Forall₂ (fun node predicate => resolveConditionTree compiled node = .ok predicate)
        nodes predicates)
      (ih : ∀ node ∈ nodes, node.Full → ∀ {predicate}, resolveConditionTree compiled node = .ok predicate →
        AllComparable predicate → predicate.WellFormed source)
      (hfull : ∀ node ∈ nodes, node.Full) (hcomparable : ∀ predicate ∈ predicates, AllComparable predicate) :
      predicates ≠ [] ∧ ∀ predicate ∈ predicates, predicate.WellFormed source := by
    have hiff := forall_of_forall₂ (Q := fun predicate => predicate.WellFormed source) (P := fun _ => True) hread
      fun node hnode predicate hpredicate hresolve => iff_of_true
        (ih node hnode (hfull node hnode) hresolve (hcomparable predicate hpredicate)) trivial
    refine ⟨fun hnil => hne ?_, hiff.mpr fun _ _ => trivial⟩
    have hlength := hread.length_eq
    rw [hnil, List.length_nil] at hlength
    exact List.length_eq_zero_iff.mp hlength
  induction tree using Node.induct generalizing predicate with
  | selection name =>
    rw [resolveConditionTree] at hresolve
    split at hresolve
    · next found hfound =>
      cases hresolve
      exact hselection name _ hfound hcomparable
    · cases hresolve
  | not node ih =>
    rw [resolveConditionTree] at hresolve
    obtain ⟨child, hchild, rfl⟩ := map_eq_ok.mp hresolve
    cases hfull with
    | not hfull => exact .negation (ih hfull hchild hcomparable)
  | all nodes ih =>
    rw [resolveConditionTree] at hresolve
    obtain ⟨predicates, hread, rfl⟩ := map_eq_ok.mp hresolve
    cases hfull with
    | all hne hfull =>
      obtain ⟨hne, hwell⟩ := hchildren hne (resolveConditionTrees_forall₂ hread) ih hfull
        (comparisonsOf_comparable.mp hcomparable)
      exact .all hne hwell
  | any nodes ih =>
    rw [resolveConditionTree] at hresolve
    obtain ⟨predicates, hread, rfl⟩ := map_eq_ok.mp hresolve
    cases hfull with
    | any hne hfull =>
      obtain ⟨hne, hwell⟩ := hchildren hne (resolveConditionTrees_forall₂ hread) ih hfull
        (comparisonsOf_comparable.mp hcomparable)
      exact .any hne hwell

theorem detection_wellFormed {interpreter : Interpreter} {detection : Json} {predicate : Predicate}
    (hcompile : compileDetection interpreter source detection = .ok predicate)
    (hcomparable : AllComparable predicate) : predicate.WellFormed source := by
  obtain ⟨compiled, tree, hcompiled, ⟨_, _, _, -, -, hphrase⟩, hresolve⟩ := compileDetection_parts hcompile
  refine resolve_wellFormed (fun name found hfound hfoundComparable => ?_) hphrase.full hresolve hcomparable
  obtain ⟨body, -, hselection⟩ := compileNamed_lookup hcompiled hfound
  exact compileSelection_wellFormed hselection hfoundComparable

end Conditions

/-! ## Metadata -/

section Metadata

variable {document : Json}

theorem requireString_eq_ok {value : Json} {element text : String} (h : requireString value element = .ok text) :
    strip text = text ∧ text ≠ "" := by
  unfold requireString at h
  split at h
  · cases h
  · split at h
    · cases h
    · next hblank =>
      split at h
      · cases h
      · cases h
        exact ⟨strip_strip _, hblank⟩
  · cases h

theorem optionalString_eq_ok {rule : Json} {element : String} {text : Option String}
    (h : optionalString rule element = .ok text) : ∀ s, text = some s → strip s = s ∧ s ≠ "" := by
  unfold optionalString at h
  split at h
  · cases h
    intro s hs
    cases hs
  · obtain ⟨found, hfound, rfl⟩ := map_eq_ok.mp h
    intro s hs
    cases hs
    exact requireString_eq_ok hfound

theorem parseLevel_eq_ok {level : Json} {result : Option String × String} (h : parseLevel level = .ok result) :
    (∀ s, result.1 = some s → strip s = s ∧ s ≠ "") ∧ result.2 ∈ ["low", "medium", "high", "critical"] := by
  unfold parseLevel at h
  split at h
  · cases h
    refine ⟨fun s hs => ?_, by decide⟩
    cases hs
  · obtain ⟨text, htext, h⟩ := bind_eq_ok.mp h
    split at h
    · next severity hseverity =>
      cases h
      refine ⟨fun s hs => ?_, ?_⟩
      · cases hs
        exact requireString_eq_ok htext
      · have hlisted : (levelToSeverity.all fun entry =>
            decide (entry.2 ∈ ["low", "medium", "high", "critical"])) = true := by decide
        exact of_decide_eq_true (List.all_eq_true.mp hlisted _ (Dicts.mem_of_lookup hseverity))
    · cases h

/-- The metadata that are read have no whitespace around them. -/
theorem metadata_stripped {metadata : Metadata} (h : parseMetadata document = .ok metadata) :
    (∀ entry ∈ metadata.entries, ∀ s, entry.2 = some s → strip s = s ∧ s ≠ "") ∧
      metadata.severity ∈ ["low", "medium", "high", "critical"] := by
  obtain ⟨-, -, h⟩ := bind_eq_ok.mp h
  obtain ⟨title, htitle, h⟩ := bind_eq_ok.mp h
  obtain ⟨id, hid, h⟩ := bind_eq_ok.mp h
  obtain ⟨status, hstatus, h⟩ := bind_eq_ok.mp h
  obtain ⟨description, hdescription, h⟩ := bind_eq_ok.mp h
  obtain ⟨author, hauthor, h⟩ := bind_eq_ok.mp h
  obtain ⟨date, hdate, h⟩ := bind_eq_ok.mp h
  obtain ⟨level, hlevel, h⟩ := bind_eq_ok.mp h
  cases h
  obtain ⟨hlevel, hseverity⟩ := parseLevel_eq_ok hlevel
  refine ⟨?_, hseverity⟩
  have htitle' : ∀ s, some title = some s → strip s = s ∧ s ≠ "" := by
    intro s hs
    cases hs
    exact requireString_eq_ok htitle
  simp only [Metadata.entries, List.forall_mem_cons, List.not_mem_nil, false_imp_iff, implies_true, and_true]
  exact ⟨htitle', optionalString_eq_ok hid, optionalString_eq_ok hstatus, optionalString_eq_ok hdescription,
    optionalString_eq_ok hauthor, optionalString_eq_ok hdate, hlevel⟩

theorem parseTag_eq_ok {tag : Json × Nat} {text : String} (h : parseTag tag = .ok text) : strip text ≠ "" := by
  unfold parseTag at h
  dsimp only at h
  split at h
  · split at h
    · cases h
    · next hblank =>
      split at h
      · cases h
      · cases h
        rwa [strip_strip]
  · cases h

theorem attackTag_not_blank {unicode : Unicode} {tag technique : String}
    (h : attackTag unicode tag = some technique) : strip technique ≠ "" := by
  have hfirst : ("T".toList.any fun c => !(isSpace c)) = true := by decide
  unfold attackTag at h
  obtain ⟨-, htechnique⟩ := Option.ite_none_right_eq_some.mp h
  rw [← Option.some.inj htechnique]
  refine strip_ne_empty ?_
  rw [String.toList_append, List.any_append, hfirst, Bool.true_or]

/-- The tags that are read are not blank, nor are the techniques among them. -/
theorem tags_stripped {unicode : Unicode} {rawTags : Json} {tags : List String × List String}
    (h : parseTags unicode rawTags = .ok tags) :
    (∀ tag ∈ tags.1, strip tag ≠ "") ∧ ∀ tag ∈ tags.2, strip tag ≠ "" := by
  unfold parseTags at h
  split at h
  · cases h
    exact ⟨List.forall_mem_nil _, List.forall_mem_nil _⟩
  · split at h
    · cases h
    · obtain ⟨found, hfound, h⟩ := bind_eq_ok.mp h
      cases h
      refine ⟨fun tag htag => ?_, fun tag htag => ?_⟩
      · obtain ⟨item, -, hitem⟩ := exists_of_mem_mapM hfound htag
        exact parseTag_eq_ok hitem
      · obtain ⟨name, -, hname⟩ := List.mem_filterMap.mp htag
        exact attackTag_not_blank hname
  · cases h

theorem validateTags_eq_ok {tags : List String} {key : String} (h : ∀ tag ∈ tags, strip tag ≠ "") :
    DetectionSimulator.validateTags (.arr (tags.map .str)) key = .ok () := by
  refine if_pos ?_
  rw [List.all_map, List.all_eq_true]
  exact fun tag htag => decide_eq_true (h tag htag)

/-- The check of one entry of the metadata. -/
def checkMetadata (rule : Json) (key : String) : Except String Unit :=
  if !(rule.get key).isNull then
    (validateNonEmptyString (rule.get key) s!"temporary_rule.{key}" maxTempStringLength).map fun _ => ()
  else .ok ()

theorem checkMetadata_step (rule : Json) (key : String) :
    (if !(rule.get key).isNull then do
        let _ ← validateNonEmptyString (rule.get key) s!"temporary_rule.{key}" maxTempStringLength
        pure (ForInStep.yield PUnit.unit)
      else pure (ForInStep.yield PUnit.unit) : Except String (ForInStep PUnit)) =
      (checkMetadata rule key).map fun _ => ForInStep.yield PUnit.unit := by
  unfold checkMetadata
  split
  · cases validateNonEmptyString (rule.get key) s!"temporary_rule.{key}" maxTempStringLength <;> rfl
  · rfl

theorem checkMetadata_eq_ok {rule : Json} {entry : String × Option String}
    (hentry : rule.get entry.1 = optionalText entry.2) (hstrip : ∀ s, entry.2 = some s → strip s = s ∧ s ≠ "") :
    checkMetadata rule entry.1 = .ok () ↔ ∀ s, entry.2 = some s → s.length ≤ maxTempStringLength := by
  unfold checkMetadata
  rw [hentry]
  cases htext : entry.2 with
  | none =>
    refine iff_of_true rfl fun s hs => ?_
    cases hs
  | some text =>
    obtain ⟨hsame, hne⟩ := hstrip text htext
    have hsome : (!(optionalText (some text)).isNull) = true := rfl
    rw [if_pos hsome, map_eq_ok]
    constructor
    · intro ⟨found, hfound, _⟩ s hs
      cases hs
      obtain ⟨s', hs', -, hlength, -⟩ := DetectionSimulator.validateNonEmptyString_eq_ok.mp hfound
      cases hs'
      rwa [hsame] at hlength
    · intro h
      refine ⟨text, DetectionSimulator.validateNonEmptyString_eq_ok.mpr ⟨text, rfl, ?_, ?_, hsame.symm⟩, rfl⟩
      · rwa [hsame]
      · rw [hsame]
        exact h text rfl

theorem get_entries (rule : CompiledRule) :
    ∀ entry ∈ rule.metadata.entries, rule.json.get entry.1 = optionalText entry.2 := by
  simp only [Metadata.entries, List.forall_mem_cons, List.not_mem_nil, false_imp_iff, implies_true, and_true]
  exact ⟨rfl, rfl, rfl, rfl, rfl, rfl, rfl⟩

/-- The metadata of a compiled rule pass where their texts are short. -/
theorem validateTemporaryRuleMetadata_eq_ok {compiled : CompiledRule}
    (hentries : ∀ entry ∈ compiled.metadata.entries, ∀ s, entry.2 = some s → strip s = s ∧ s ≠ "")
    (htags : ∀ tag ∈ compiled.tags, strip tag ≠ "") (hattack : ∀ tag ∈ compiled.attackTags, strip tag ≠ "") :
    DetectionSimulator.validateTemporaryRuleMetadata compiled.json = .ok () ↔
      ∀ entry ∈ compiled.metadata.entries, ∀ s, entry.2 = some s → s.length ≤ maxTempStringLength := by
  have hkeys : ["title", "id", "status", "description", "author", "date", "level"] =
      compiled.metadata.entries.map Prod.fst := rfl
  have hloop : (∀ key ∈ compiled.metadata.entries.map Prod.fst, checkMetadata compiled.json key = .ok ()) ↔
      ∀ entry ∈ compiled.metadata.entries, ∀ s, entry.2 = some s → s.length ≤ maxTempStringLength := by
    rw [List.forall_mem_map]
    exact forall₂_congr fun entry hentry =>
      checkMetadata_eq_ok (get_entries compiled entry hentry) (hentries entry hentry)
  unfold DetectionSimulator.validateTemporaryRuleMetadata
  rw [bind_eq_ok, hkeys, ← hloop]
  constructor
  · intro ⟨_, h, _⟩
    exact (forIn_eq_ok fun key => checkMetadata_step _ key).mp h
  · intro h
    refine ⟨⟨⟩, (forIn_eq_ok fun key => checkMetadata_step _ key).mpr h, ?_⟩
    refine bind_eq_ok.mpr ⟨(), validateTags_eq_ok htags, bind_eq_ok.mpr ⟨(), validateTags_eq_ok hattack, ?_⟩⟩
    have hlogsource : ((compiled.logsource.map fun entry => (entry.1, Json.str entry.2)).all
        fun field => field.2.str?.isSome) = true := by
      rw [List.all_map, List.all_eq_true]
      exact fun _ _ => rfl
    have hword : (["sigma_subset_import"].all fun word =>
        strip word = word && word ≠ "" && word.length ≤ 64) = true := by decide +kernel
    have hprovenance : validateNonEmptyString (.str "sigma_subset_import") "temporary_rule.rule_provenance" 64 =
        .ok "sigma_subset_import" :=
      DetectionSimulator.validate_listed hword (List.mem_singleton_self _)
    refine bind_eq_ok.mpr ⟨(), DetectionSimulator.require_eq_ok.mpr hlogsource, ?_⟩
    exact bind_eq_ok.mpr ⟨"sigma_subset_import", hprovenance, rfl⟩

end Metadata

/-! ## Rules -/

section Rules

variable {digits : Digits} {interpreter : Interpreter} {document : Json} {inputFormat eventType : Option String}
  {compiled : CompiledRule} {rule : TemporaryRule}

theorem defaultInputFormat_eq_ok {source : Source} {requested : Option String} {format : String}
    (h : defaultInputFormat source requested = .ok format) : format ∈ source.inputFormats := by
  unfold defaultInputFormat at h
  split at h
  · split at h
    · next hformat =>
      cases h
      exact hformat
    · cases h
  · cases h
    cases source <;> decide

theorem filter_stripped {requested : Option String} :
    ∀ s, (requested.map strip).filter (· ≠ "") = some s → strip s = s ∧ s ≠ "" := by
  intro s hs
  obtain ⟨hmap, hne⟩ := Option.filter_eq_some_iff.mp hs
  obtain ⟨text, -, rfl⟩ := Option.map_eq_some_iff.mp hmap
  exact ⟨strip_strip text, of_decide_eq_true hne⟩

theorem validateEventType_stripped {source : Source} {eventType found : Option String}
    (hstrip : ∀ s, eventType = some s → strip s = s ∧ s ≠ "") :
    DetectionSimulator.validateEventType source (optionalText eventType) = .ok found ↔
      (∀ name, eventType = some name → name ∈ source.eventTypes) ∧ found = eventType := by
  constructor
  · intro h
    have hsound := DetectionSimulator.validateEventType_sound h
    have hfound : found = eventType := by
      cases eventType with
      | none =>
        cases h
        rfl
      | some name =>
        obtain ⟨text, htext, h⟩ := bind_eq_ok.mp h
        obtain ⟨s, hs, -, -, rfl⟩ := DetectionSimulator.validateNonEmptyString_eq_ok.mp htext
        cases hs
        split at h
        · cases h
          exact congrArg some (hstrip _ rfl).1
        · cases h
    rw [hfound] at hsound
    exact ⟨hsound, hfound⟩
  · intro ⟨hlisted, hfound⟩
    rw [hfound]
    exact DetectionSimulator.validateEventType_json hlisted

/-- The checks of the contract, of a compiled rule. -/
theorem accepts_iff (h : Compiles interpreter document inputFormat eventType compiled) :
    DetectionSimulator.ContractAccepts digits compiled.json rule ↔
      compiled.Fits ∧ rule = compiled.temporaryRule := by
  obtain ⟨hentries, hsevere⟩ := metadata_stripped h.metadata
  obtain ⟨htags, hattack⟩ := tags_stripped h.tags
  have hmetadata := validateTemporaryRuleMetadata_eq_ok hentries htags hattack
  have hsupported := defaultInputFormat_eq_ok h.inputFormat
  have hformat : validateNonEmptyString (.str compiled.inputFormat) "temporary_rule.input_format" 32 =
      .ok compiled.inputFormat :=
    @DetectionSimulator.validateInputFormat_json compiled.temporaryRule hsupported "temporary_rule.input_format"
  have hmitre : DetectionSimulator.validateMitre digits .null = .ok none := rfl
  have hsource : DetectionSimulator.validateSource compiled.json = .ok compiled.source :=
    DetectionSimulator.validateSource_named rfl rfl
  have heventType (found : Option String) := @validateEventType_stripped compiled.source compiled.eventType found
    (h.eventType ▸ filter_stripped)
  have hgroupable : defaultGroupByField ∈ compiled.source.groupableFields := by
    cases compiled.source <;> decide
  have hgroup := DetectionSimulator.validateAggregation_json hgroupable
  have hthreshold : DetectionSimulator.validateBoundedInt (.int 1) "temporary_rule.threshold" 1 100 = .ok 1 :=
    DetectionSimulator.validateBoundedInt_json.mpr ⟨by decide, rfl⟩
  have hwindow : DetectionSimulator.validateBoundedInt (.int 15) "temporary_rule.window_minutes" 1 1440 =
      .ok 15 := DetectionSimulator.validateBoundedInt_json.mpr ⟨by decide, rfl⟩
  have hseverity : validateNonEmptyString (.str compiled.metadata.severity) "temporary_rule.severity" 16 =
      .ok compiled.metadata.severity := DetectionSimulator.validate_listed (by decide +kernel) hsevere
  constructor
  · intro ha
    have hsame : rule.source = compiled.source := Except.ok.inj (ha.source.symm.trans hsource)
    have hevent := ha.eventType
    obtain ⟨total, hcondition⟩ := ha.condition
    rw [hsame] at hevent hcondition
    obtain ⟨hlisted, hevent⟩ := (heventType _).mp hevent
    obtain ⟨hfits, htrim, -⟩ := (DetectionSimulator.validateNode_json _ compiled.condition 0 _ _).mp hcondition
    have hnodes := hfits.nodes_le
    refine ⟨⟨hlisted, hmetadata.mp (ha.metadata rfl), WellFormed.comparable hfits.wellFormed, hfits.depth_le,
      by omega⟩, ?_⟩
    have hgroup' := ha.groupByField
    rw [hsame] at hgroup'
    rw [CompiledRule.temporaryRule, ← hsame, ← hevent, ← htrim,
      ← Except.ok.inj (ha.inputFormat.symm.trans hformat), ← Except.ok.inj (hgroup'.symm.trans hgroup),
      ← Except.ok.inj (ha.threshold.symm.trans hthreshold), ← Except.ok.inj (ha.windowMinutes.symm.trans hwindow),
      ← Except.ok.inj (ha.severity.symm.trans hseverity), ← Except.ok.inj (ha.mitre.symm.trans hmitre)]
  · intro ⟨hfits, hrule⟩
    rw [hrule]
    have hwell := detection_wellFormed h.detection hfits.comparable
    have hnodes : 0 + compiled.condition.nodes ≤ maxTempPredicateNodes := by
      rw [Nat.zero_add]
      exact hfits.nodes_le
    exact
      { isObj := rfl
        keys := fun key hkey => hkey
        source := hsource
        inputFormat := hformat
        supported := hsupported
        eventType := (heventType _).mpr ⟨hfits.eventType, rfl⟩
        conditionObj := DetectionSimulator.isObj_json compiled.condition
        condition := ⟨_, (DetectionSimulator.validateNode_json _ compiled.condition 0 _ _).mpr
          ⟨⟨hwell, hfits.depth_le, hnodes⟩, rfl, rfl⟩⟩
        groupByField := hgroup
        threshold := hthreshold
        windowMinutes := hwindow
        severity := hseverity
        severe := hsevere
        mitre := hmitre
        metadata := fun _ => hmetadata.mpr hfits.texts }

end Rules

/-- **Acceptance.**  A compiled rule is accepted just where it keeps the limits of the contract that the compiler
    does not share, and then as itself with its texts stripped. -/
theorem contract_iff_fits {interpreter : Interpreter} {document : Json} {inputFormat eventType : Option String}
    {compiled : CompiledRule} (hcompile : compileRule interpreter document inputFormat eventType = .ok compiled)
    (digits : Digits) (rule : TemporaryRule) :
    DetectionSimulator.validateTemporaryRuleContract digits compiled.json = .ok rule ↔
      compiled.Fits ∧ rule = compiled.temporaryRule :=
  DetectionSimulator.contract_eq_ok.trans (accepts_iff (compileRule_eq_ok hcompile))

/-- The rule of the failed logins keeps the limits. -/
theorem adminLogins_fits : ∃ compiled,
    compileRule sampleInterpreter adminLogins none none = .ok compiled ∧ compiled.Fits := by
  obtain ⟨compiled, rule, hcompile, haccepted⟩ := adminLogins_accepted
  exact ⟨compiled, hcompile, ((contract_iff_fits hcompile .ascii rule).mp haccepted).1⟩

end SiemDashboard.SigmaPlayground
