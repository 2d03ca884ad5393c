import Mathlib.Algebra.BigOperators.Group.List.Basic
import SiemDashboard.Verification.PlannerFilling

/-!
# What a planner packet promises

Wherever `build_planner_packet` returns, and whatever profiles the packet is fitted to afterwards, its prompt is
within its limit, its first entities are there, and all facts are accounted for.  The question is there in full
unless replacing its markers makes it longer than a string of a structured value.

* **Sizes** — `jsonSize_eq`.
* **Entities** — `distinctEntities`, `mergeEntity_keys`, `entitiesOf_sanitized`.
* **Packets** — `PacketAsClaimed`, `mandatoryPacket_filled`, `buildPlannerPacket_kept`,
  `fitAll_kept`.
* **Bare questions** — `barePacket`, `buildPlannerPacket_bare`.
* **Result** — `planner_packet_accounting`, and a question whose end is lost.
-/

namespace SiemDashboard.AgenticAnalystPlanner

open Python SessionMemory JsonText Patterns

/-! ## Sizes -/

section Sizes

theorem joined_length (texts : List (List Char)) :
    (joined texts).length = (texts.map List.length).sum + (texts.length - 1) := by
  unfold joined
  induction texts with
  | nil => rfl
  | cons text rest ih =>
    cases rest with
    | nil => simp
    | cons next rest =>
      rw [List.intercalate_cons_cons, List.length_append, List.length_append, ih]
      simp only [List.map_cons, List.sum_cons, List.length_cons, List.length_nil]
      omega

theorem escape_length (c : Char) : (escape c).length = encodedCharLength c := by
  unfold escape encodedCharLength
  by_cases hshort : c = '"' ∨ c = '\\' ∨ c = '\n' ∨ c = '\r' ∨ c = '\t'
  · rcases hshort with rfl | rfl | rfl | rfl | rfl <;> rfl
  · obtain ⟨hquote, hslash, hline, hreturn, htab⟩ : c ≠ '"' ∧ c ≠ '\\' ∧ c ≠ '\n' ∧ c ≠ '\r' ∧
        c ≠ '\t' := by simpa only [not_or] using hshort
    rw [if_neg hquote, if_neg hslash, if_neg hline, if_neg hreturn, if_neg htab]
    by_cases hback : c.toNat = 8
    · simp [hback]
    · by_cases hfeed : c.toNat = 12
      · simp [hfeed]
      · rw [if_neg hback, if_neg hfeed]
        dsimp only
        have hnone : (decide (c = '"') || decide (c = '\\') || decide (c = '\n') || decide (c = '\r') ||
            decide (c = '\t') || decide (c.toNat = 8) || decide (c.toNat = 12)) = false := by
          simp [hquote, hslash, hline, hreturn, htab, hback, hfeed]
        rw [hnone, if_neg Bool.false_ne_true]
        split
        · rfl
        · unfold escapeUnicode
          split
          · rfl
          · rfl

theorem quoted_length (s : String) : (quoted s).length = encodedStringLength s := by
  unfold quoted encodedStringLength
  rw [List.length_append, List.length_cons, List.length_flatMap, List.length_singleton,
    List.map_congr_left fun c _ => escape_length c]
  omega

theorem floatText_length (text : String) : (floatText text).length =
    if text = "inf" then 8 else if text = "-inf" then 9 else text.length := by
  unfold floatText
  split
  · rfl
  · split
    · rfl
    · split
      · next h =>
        rw [h]
        rfl
      · exact String.length_toList

theorem itemChars_lengths {items : List Json}
    (h : ∀ v ∈ items, (chars v).length = encodedLength v) :
    ((itemChars items).map List.length).sum = encodedItemsLength items ∧
      (itemChars items).length = items.length := by
  induction items with
  | nil => exact ⟨rfl, rfl⟩
  | cons v rest ih =>
    obtain ⟨hv, hrest⟩ := List.forall_mem_cons.mp h
    obtain ⟨hsum, hlength⟩ := ih hrest
    rw [itemChars, encodedItemsLength, List.map_cons, List.sum_cons, hsum, hv, List.length_cons,
      List.length_cons, hlength]
    exact ⟨rfl, rfl⟩

theorem fieldChars_lengths {kvs : List (String × Json)}
    (h : ∀ kv ∈ kvs, (chars kv.2).length = encodedLength kv.2) :
    ((fieldChars kvs).map fun field => (quoted field.1).length + 1 + field.2.length).sum =
        encodedFieldsLength kvs ∧
      (fieldChars kvs).length = kvs.length := by
  induction kvs with
  | nil => exact ⟨rfl, rfl⟩
  | cons field rest ih =>
    obtain ⟨hv, hrest⟩ := List.forall_mem_cons.mp h
    obtain ⟨hsum, hlength⟩ := ih hrest
    obtain ⟨key, v⟩ := field
    rw [fieldChars, encodedFieldsLength, List.map_cons, List.sum_cons, hsum, quoted_length, hv,
      List.length_cons, List.length_cons, hlength]
    exact ⟨rfl, rfl⟩

theorem sum_fieldLengths {line : String × List Char → List Char}
    (hline : ∀ field, (line field).length = (quoted field.1).length + 1 + field.2.length)
    (fields : List (String × List Char)) :
    (fields.map (List.length ∘ line)).sum =
      (fields.map fun field => (quoted field.1).length + 1 + field.2.length).sum :=
  congrArg List.sum (List.map_congr_left fun field _ => hline field)

/-- What a packet measures is what sanitizing bounds. -/
theorem jsonSize_eq (v : Json) : jsonSize v = encodedLength v := by
  unfold jsonSize dumps
  rw [String.length_ofList]
  induction v using Json.induct with
  | null => rfl
  | bool b => cases b <;> rfl
  | int n => exact String.length_toList
  | float text => exact floatText_length text
  | str s => exact quoted_length s
  | arr items ih =>
    obtain ⟨hsum, hlength⟩ := itemChars_lengths ih
    rw [chars, encodedLength, List.length_append, List.length_cons, joined_length, hsum, hlength,
      List.length_singleton]
    omega
  | obj kvs ih =>
    obtain ⟨hsum, hlength⟩ := fieldChars_lengths ih
    have hsorted := List.perm_insertionSort keyBefore (fieldChars kvs)
    rw [chars, encodedLength, List.length_append, List.length_cons, joined_length, List.map_map,
      List.length_map, hsorted.length_eq, (hsorted.map _).sum_eq, hlength, List.length_singleton,
      sum_fieldLengths, hsum]
    · omega
    · intro field
      rw [List.length_append, List.length_cons]
      omega

end Sizes

/-! ## Entities -/

section Entities

variable (py : Python)

/-- The distinct entities among some values, in the order of their first appearance. -/
def distinctEntities (values : List Json) : List (String × String) :=
  ((values.filterMap (entity py)).map Entity.key).eraseDups

/-- The type and the id of an entity of a packet. -/
def entityOf (value : Json) : Json × Json := (value.get "type", value.get "id")

/-- The entities of a packet. -/
def entitiesOf (payload : Json) : List (Json × Json) :=
  (listOrEmpty ((payload.get "facts").get "entities")).map entityOf

variable {py}

theorem observe_key (fact : EntityFact) (item : Json) : (fact.observe py item).key = fact.key := rfl

theorem keys_map_observe (merged : List EntityFact) (key : String × String) (item : Json) :
    (merged.map fun fact => if fact.key = key then fact.observe py item else fact).map EntityFact.key =
      merged.map EntityFact.key := by
  rw [List.map_map]
  refine List.map_congr_left fun fact _ => ?_
  rw [Function.comp_apply]
  split
  · exact observe_key fact item
  · rfl

/-- The facts are those of the distinct entities. -/
theorem mergeEntity_keys (values : List Json) :
    (values.foldl (mergeEntity py) []).map EntityFact.key = distinctEntities py values := by
  induction values using List.reverseRecOn with
  | nil => rfl
  | append_singleton values item ih =>
    rw [List.foldl_append, List.foldl_cons, List.foldl_nil]
    unfold distinctEntities at ih ⊢
    rw [List.filterMap_append, List.map_append]
    unfold mergeEntity at ih ⊢
    cases hentity : entity py item with
    | none =>
      rw [List.filterMap_cons_none hentity, List.filterMap_nil, List.map_nil, List.append_nil]
      exact ih
    | some found =>
      dsimp only
      rw [List.filterMap_cons_some hentity, List.filterMap_nil, List.map_singleton, keys_map_observe,
        List.eraseDups_append, ← ih]
      have hknown (merged : List EntityFact) (keys : List (String × String))
          (hkeys : ∀ key, key ∈ merged.map EntityFact.key ↔ key ∈ keys) :
          (merged.any fun fact => fact.key = found.key) = keys.contains found.key := by
        rw [Bool.eq_iff_iff, List.any_eq_true, List.contains_iff_mem, ← hkeys, List.mem_map]
        simp only [decide_eq_true_eq]
      rw [hknown _ ((values.filterMap (entity py)).map Entity.key) fun key => by
        rw [ih, List.mem_eraseDups]]
      split
      · next hseen =>
        have helem : List.elem found.key ((values.filterMap (entity py)).map Entity.key) = true := hseen
        rw [List.removeAll, List.filter_cons_of_neg (by rw [helem]; decide), List.filter_nil]
        exact (List.append_nil _).symm
      · next hseen =>
        have helem : List.elem found.key ((values.filterMap (entity py)).map Entity.key) = false :=
          Bool.not_eq_true _ ▸ hseen
        rw [List.removeAll, List.filter_cons_of_pos (by rw [helem]; rfl), List.filter_nil,
          List.map_append]
        rfl

theorem fieldUnlessBlank_keys (key : String) (value : Json) :
    ((fieldUnlessBlank key value).map Prod.fst).Sublist [key] := by
  unfold fieldUnlessBlank
  split
  · exact List.nil_sublist _
  · exact List.Sublist.refl _

theorem asJson_keys (fact : EntityFact) : (fact.asJson.fields.map Prod.fst).Nodup := by
  have hsublist : (fact.asJson.fields.map Prod.fst).Sublist
      (["type", "id"] ++ ["provenance"] ++ ["display_alias"] ++ ["source_type"]) := by
    unfold EntityFact.asJson Json.fields
    rw [List.map_append, List.map_append, List.map_append]
    exact (((List.Sublist.refl ["type", "id"]).append (fieldUnlessBlank_keys _ _)).append
      (fieldUnlessBlank_keys _ _)).append (fieldUnlessBlank_keys _ _)
  exact List.Nodup.sublist hsublist (by decide)

/-- A sanitized fact names its entity by the sanitized texts. -/
theorem entityOf_sanitized {fact : EntityFact} {safe : Json} (h : Sanitizes fact.asJson safe) :
    entityOf safe = (.str (sanitizeString fact.type), .str (sanitizeString fact.id)) := by
  have hpart {key : String} (hkey : SafeKey key) {text : String}
      (htext : fact.asJson.get? key = some (.str text)) :
      safe.get key = .str (sanitizeString text) := by
    rcases h.get? rfl hkey (asJson_keys fact) with ⟨hnone, -⟩ | ⟨x, y, hx, hy, hxy⟩
    · rw [htext] at hnone
      cases hnone
    · rw [htext] at hx
      obtain rfl := Option.some.inj hx
      rw [get_of_get? hy, hxy.str]
  unfold entityOf
  rw [hpart (by decide +kernel) (show fact.asJson.get? "type" = some (.str fact.type) from rfl),
    hpart (by decide +kernel) (show fact.asJson.get? "id" = some (.str fact.id) from rfl)]

theorem entitiesOf_sanitized {facts : List EntityFact} {safe : List Json}
    (h : List.Forall₂ Sanitizes (facts.map EntityFact.asJson) safe) :
    safe.map entityOf = (facts.map EntityFact.key).map fun key =>
      (.str (sanitizeString key.1), .str (sanitizeString key.2)) := by
  induction facts generalizing safe with
  | nil =>
    cases h
    rfl
  | cons fact rest ih =>
    cases h with
    | cons hfirst hrest =>
      rw [List.map_cons, List.map_cons, List.map_cons, ih hrest, entityOf_sanitized hfirst]
      rfl

end Entities

/-! ## Packets -/

section Packets

variable (i : Interpreter) (request : PacketRequest) (limits : PacketLimits)

/-- The conversation that a packet is built from. -/
def sourceOf : Json := request.conversationPacket.dictOrEmpty

/-- The question with its markers replaced and without control characters, in full. -/
def wholeQuestion (question : Json) : String :=
  String.ofList (replaceMarkers (removeControls (questionText i question).toList))

/-- What a packet for a profile promises. -/
structure PacketAsClaimed (profiles : List Int) (packet : PlannerPacket) : Prop where
  prompt_eq : packet.prompt = plannerPrompt i packet.payload
  prompt_fits : promptSize packet.prompt packet.gatewayFramingChars ≤
    profiles.getLastD limits.maxPromptChars
  packet_fits : profiles = [] → (jsonSize packet.payload : Int) ≤ limits.maxChars
  question_whole :
    packet.payload.get "current_user_message" = .str (wholeQuestion i request.question)
  entities_first : entitiesOf packet.payload =
    ((distinctEntities i.py (listOrEmpty ((sourceOf request).get "entities"))).take 20).map fun key =>
      (.str (sanitizeString key.1), .str (sanitizeString key.2))
  accounted : ∀ category, included packet.payload category + packet.omitted.facts category =
    availableFacts i (sourceOf request) category

variable {i request limits}

/-- A question that is accepted is its text, sanitized. -/
theorem completeCurrentQuestion_eq {value : Json} {question : String}
    (h : completeCurrentQuestion i value = .ok question) (hne : question ≠ "") :
    question = sanitizeString (questionText i value) := by
  unfold completeCurrentQuestion at h
  dsimp only at h
  split at h
  · exact absurd (Except.ok.inj h).symm hne
  · split at h
    · cases h
    · obtain ⟨sanitized, hsanitized, h⟩ := Checks.bind_eq_ok.mp h
      rw [Checks.mapError_eq_ok] at hsanitized
      unfold sanitizeStructuredValue at hsanitized
      obtain ⟨value', hvalue, hsanitized⟩ := Checks.bind_eq_ok.mp hsanitized
      split at hsanitized
      · cases hsanitized
      · cases hsanitized
        obtain rfl := Sanitizes.str ⟨0, hvalue⟩
        split at h
        · cases h
        · exact (Except.ok.inj h).symm

def packetKeys : List String :=
  [ "schema_version", "current_user_message", "facts", "request_context", "requested_shortcut",
    "available_capabilities", "approved_read_tool_categories", "safety", "latency_class",
    "evidence_freshness", "bounds" ]

theorem packetKeys_nodup : packetKeys.Nodup := by decide

/-- The mandatory packet satisfies the invariant. -/
theorem mandatoryPacket_filled {question : String} (hquestion : Stable (.str question))
    {facts : List Json} {staleEvidence : Int} {candidates : OptionalFact → List Json}
    (hcandidates : optionalFactCandidates i (sourceOf request) = .ok candidates) {n : Nat}
    {mandatory : Json}
    (h : sanitizePacket (mandatoryPacket i request limits question facts staleEvidence
      (initialOmitted candidates n (summaryText i (sourceOf request)))) = .ok mandatory) :
    ∃ safe, List.Forall₂ Sanitizes facts safe ∧ Clean question safe ∧
      Filled question safe (availableFacts i (sourceOf request)) mandatory
        (initialOmitted candidates n (summaryText i (sourceOf request))) := by
  have hsanitizes := sanitizes_of_sanitizePacket h
  have hstable := hsanitizes.stable
  have hpart {key : String} (hkey : SafeKey key) {x : Json}
      (hx : (mandatoryPacket i request limits question facts staleEvidence
        (initialOmitted candidates n (summaryText i (sourceOf request)))).get? key = some x) :
      ∃ y, mandatory.get? key = some y ∧ Sanitizes x y := by
    rcases hsanitizes.get? rfl hkey packetKeys_nodup with
      ⟨hnone, -⟩ | ⟨x', y, hx', hy, hxy⟩
    · rw [hx] at hnone
      cases hnone
    · rw [hx] at hx'
      obtain rfl := Option.some.inj hx'
      exact ⟨y, hy, hxy⟩
  obtain ⟨question', hquestion', hsame⟩ := hpart question_safe rfl
  obtain ⟨bounds, hbounds, hboundsObj⟩ := hpart bounds_safe rfl
  obtain ⟨packed, hpacked, hpackedSafe⟩ := hpart facts_safe rfl
  have hget : mandatory.get "facts" = packed := get_of_get? hpacked
  have hfact {key : String} (hkey : SafeKey key) :=
    hpackedSafe.get? rfl hkey (List.nodup_singleton "entities")
  have hentities : ∃ safe, packed.get? "entities" = some (.arr safe) ∧
      List.Forall₂ Sanitizes facts safe ∧ Stable (.arr safe) := by
    rcases hfact entities_safe with ⟨hnone, -⟩ | ⟨x, y, hx, hy, hxy⟩
    · cases hnone
    · obtain rfl := Option.some.inj hx
      obtain ⟨safe, rfl, hsafe⟩ := hxy.arr
      exact ⟨safe, hy, hsafe, hxy.stable⟩
  have habsent (category : OptionalFact) : packed.get? category.name = none := by
    rcases hfact category.name_safe with ⟨-, hnone⟩ | ⟨x, y, hx, -, -⟩
    · exact hnone
    · have hlookup : (Json.obj [("entities", .arr facts)]).get? category.name = none := by
        change List.lookup category.name [("entities", Json.arr facts)] = none
        rw [List.lookup_cons, beq_eq_false_iff_ne.mpr category.name_ne_entities, List.lookup_nil]
      rw [hlookup] at hx
      cases hx
  obtain ⟨safe, hsafeEq, hsafe, hsafeStable⟩ := hentities
  refine ⟨safe, hsafe, ⟨hquestion, hsafeStable⟩, hstable.nodup, ?_, ?_, ?_, ?_, ?_,
    fun category _ => .inl (by rw [hget]; exact habsent category), fun category => ?_⟩
  · rw [hquestion', hquestion.eq_of_sanitizes hsame]
  · rw [get_of_get? hbounds]
    exact hboundsObj.isObj rfl
  · rw [hget]
    exact hpackedSafe.isObj rfl
  · rw [hget]
    exact hpackedSafe.stable.nodup
  · rw [hget]
    exact hsafeEq
  · have hnone : included mandatory category = 0 := by
      unfold included countOf
      rw [hget, Json.get, Json.getD, habsent category]
      split
      · rfl
      · rfl
    rw [hnone, Nat.zero_add]
    unfold initialOmitted
    dsimp only
    by_cases hsummary : category = .conversationSummary
    · rw [if_pos hsummary, hsummary]
      rfl
    · rw [if_neg hsummary]
      exact optionalFactCandidates_length hcandidates hsummary

/-- What `build_planner_packet` returns. -/
theorem buildPlannerPacket_kept {built : PlannerPacket}
    (h : buildPlannerPacket i request limits = .ok built) :
    ∃ safe, List.Forall₂ Sanitizes
        (authoritativeEntityFacts i.py ((sourceOf request).get "entities")).1 safe ∧
      Kept (sanitizeString (questionText i request.question)) safe
        (availableFacts i (sourceOf request)) built.payload built.omitted ∧
      Fitted i built limits.maxPromptChars built ∧
      (jsonSize built.payload : Int) ≤ limits.maxChars := by
  unfold buildPlannerPacket at h
  obtain ⟨question, hquestion, h⟩ := Checks.bind_eq_ok.mp h
  split at h
  · cases h
  · next hne =>
    have hquestionEq := completeCurrentQuestion_eq hquestion hne
    have hquestionStable : Stable (.str question) := by
      rw [hquestionEq]
      exact .str _ (sanitizeString_idem _)
    split at h
    · cases h
    · dsimp only at h
      obtain ⟨staleEvidence, -, h⟩ := Checks.bind_eq_ok.mp h
      obtain ⟨candidates, hcandidates, h⟩ := Checks.bind_eq_ok.mp h
      obtain ⟨mandatory, hmandatory, h⟩ := Checks.bind_eq_ok.mp h
      split at h
      · cases h
      · split at h
        · cases h
        · obtain ⟨packing, hpacking, h⟩ := Checks.bind_eq_ok.mp h
          obtain ⟨payload, hpayload, h⟩ := Checks.bind_eq_ok.mp h
          split at h
          · cases h
          · next hfits =>
            obtain ⟨safe, hsafe, hclean, hfilled⟩ :=
              mandatoryPacket_filled hquestionStable hcandidates hmandatory
            have hleft : ∀ category ∈ optionalFactOrder, category ≠ .conversationSummary →
                (candidates category).length ≤ (initialOmitted candidates
                  (authoritativeEntityFacts i.py ((sourceOf request).get "entities")).2
                  (summaryText i (sourceOf request))).facts category := by
              intro category _ hlist
              unfold initialOmitted
              dsimp only
              rw [if_neg hlist]
            have hpacked : Packed question safe (availableFacts i (sourceOf request)) packing :=
              offerCategories_packed hclean (fun hsummary => if_neg hsummary)
                (by decide : optionalFactOrder.Nodup)
                (show Packed question safe (availableFacts i (sourceOf request))
                  ⟨mandatory, initialOmitted candidates _ _⟩ from hfilled) hleft hpacking
            have hkept := (hpacked.setBounds "omitted" packing.omitted.asJson).sanitized
              hclean.question_stable hclean.entities_stable (sanitizes_of_sanitizePacket hpayload)
            have hfits' : fitsLimits i limits payload = true := by simpa using hfits
            unfold fitsLimits at hfits'
            rw [Bool.and_eq_true, decide_eq_true_eq, decide_eq_true_eq] at hfits'
            cases h
            rw [← hquestionEq]
            exact ⟨safe, hsafe, ⟨hkept.1, hkept.2⟩, ⟨rfl, rfl, hfits'.2⟩, hfits'.1⟩

/-- The packet after all profiles that it is fitted to. -/
theorem fitAll_kept {question : String} {entities : List Json} {available : OptionalFact → Nat}
    {profiles : List Int} {built packet : PlannerPacket} {limit : Int}
    (hkept : Kept question entities available built.payload built.omitted)
    (hfitted : Fitted i built limit built)
    (h : profiles.foldlM (fitPacketToProfile i) built = .ok packet) :
    Kept question entities available packet.payload packet.omitted ∧
      Fitted i packet (profiles.getLastD limit) packet := by
  induction profiles generalizing built limit with
  | nil =>
    cases h
    exact ⟨hkept, hfitted⟩
  | cons profile rest ih =>
    rw [List.foldlM_cons] at h
    obtain ⟨next, hnext, h⟩ := Checks.bind_eq_ok.mp h
    obtain ⟨hkeptNext, hfittedNext⟩ := fitPacketToProfile_kept hkept hnext
    rw [List.getLastD_cons]
    exact ih hkeptNext ⟨hfittedNext.prompt_eq, rfl, hfittedNext.prompt_fits⟩ h

theorem whole_iff {question : Json} :
    sanitizeString (questionText i question) = wholeQuestion i question ↔
      (wholeQuestion i question).length ≤ maxStringChars := by
  unfold sanitizeString wholeQuestion
  rw [String.ofList_inj, List.take_eq_self_iff, String.length_ofList]

end Packets

/-! ## Bare questions -/

section Bare

theorem ok_bind {α β ε : Type} (a : α) (f : α → Except ε β) : (Except.ok a >>= f) = f a := rfl

/-- A string of plain characters takes its length and the quotes. -/
theorem encodedStringLength_plain {s : String} (h : ∀ c ∈ s.toList, encodedCharLength c = 1) :
    encodedStringLength s = 2 + s.length := by
  have hsum : ∀ cs : List Char, (∀ c ∈ cs, encodedCharLength c = 1) →
      (cs.map encodedCharLength).sum = cs.length := by
    intro cs hcs
    induction cs with
    | nil => rfl
    | cons c rest ih =>
      obtain ⟨hc, hrest⟩ := List.forall_mem_cons.mp hcs
      rw [List.map_cons, List.sum_cons, hc, ih hrest, List.length_cons, Nat.add_comm]
  unfold encodedStringLength
  rw [hsum _ h, String.length_toList]

/-- An interpreter that writes no other texts. -/
def plainInterpreter : Interpreter where
  py := ⟨fun _ => "", fun _ => "", fun _ _ => .error ""⟩
  decimal := fun _ => none
  truncated := fun _ => none
  contract := ""

/-- A question that keeps its length is accepted. -/
theorem completeCurrentQuestion_of_length {value : Json} {text : String}
    (htext : questionText plainInterpreter value = text) (hne : text ≠ "")
    (hshort : text.length ≤ maxQuestionChars)
    (hlength : (sanitizeString text).length = text.length)
    (hsize : encodedStringLength (sanitizeString text) ≤ maxJsonChars) :
    completeCurrentQuestion plainInterpreter value = .ok (sanitizeString text) := by
  have hsanitized : sanitizeStructuredValue (.str text) "planner current user message" =
      .ok (.str (sanitizeString text)) :=
    Checks.bind_eq_ok.mpr ⟨.str (sanitizeString text), rfl, if_neg (Nat.not_lt.mpr hsize)⟩
  unfold completeCurrentQuestion
  rw [htext]
  dsimp only
  rw [if_neg hne, if_neg (Nat.not_lt.mpr hshort), hsanitized]
  have hsame : (decide (((Json.str (sanitizeString text)).str?.getD "").length ≠ text.length) &&
      decide (((Json.str (sanitizeString text)).str?.getD "").toList.getLast? ≠
        text.toList.getLast?)) = false := by
    rw [Bool.and_eq_false_iff]
    exact .inl (decide_eq_false (not_not_intro hlength))
  show (if _ then _ else _) = _
  rw [if_neg]
  · rfl
  · rw [hsame]
    exact Bool.false_ne_true

/-- Many letters. -/
@[irreducible] def letters : List Char := List.replicate 3994 'a'

theorem letters_length : letters.length = 3994 := by
  unfold letters
  exact List.length_replicate

theorem mem_letters {c : Char} (h : c ∈ letters) : c = 'a' := by
  unfold letters at h
  exact List.eq_of_mem_replicate h

/-- A marker and many letters. -/
def longChars : List Char := "[inst]".toList ++ letters

/-- A question of 4000 characters. -/
def longQuestion : String := String.ofList longChars

theorem mem_longChars {c : Char} (h : c ∈ longChars) : c ∈ "[inst]a".toList := by
  rcases List.mem_append.mp h with h | h
  · exact List.mem_append_left ['a'] h
  · rw [mem_letters h]
    decide

theorem replaceMarkers_letters : replaceMarkers letters = letters := by
  unfold replaceMarkers
  have hletters : ∀ c ∈ letters, c ∈ ['a'] := by
    intro c hc
    rw [mem_letters hc]
    exact List.mem_singleton_self 'a'
  exact substitute_of_free (free_of_lacks (by decide +kernel) hletters)

/-- The marker is replaced by a longer text. -/
theorem replaceMarkers_longChars :
    replaceMarkers longChars = ('[' :: storedUntrustedTail) ++ letters := by
  have hletters := replaceMarkers_letters
  unfold replaceMarkers substitute at hletters ⊢
  unfold longChars
  have hfirst : matchFirst controlMarkers ("[inst]".toList ++ letters) = some 6 := by
    rfl
  show substituteFrom controlMarkers _ 0 ('[' :: ("inst]".toList ++ letters)) = _
  rw [substituteFrom, show matchFirst controlMarkers ('[' :: ("inst]".toList ++ letters)) = some 6
    from hfirst]
  show _ ++ substituteFrom controlMarkers _ 5 ('i' :: 'n' :: 's' :: 't' :: ']' :: letters) = _
  rw [substituteFrom_skip, substituteFrom_skip, substituteFrom_skip, substituteFrom_skip,
    substituteFrom_skip, hletters]

theorem questionText_longQuestion :
    questionText plainInterpreter (.str longQuestion) = longQuestion := by
  have hnoSpace : ∀ c ∈ longChars, isSpace c = false := by
    intro c hc
    have hall : ("[inst]a".toList.all fun c => !isSpace c) = true := by
      rw [String.toList_ofList]
      decide
    simpa using List.all_eq_true.mp hall c (mem_longChars hc)
  show strip longQuestion = longQuestion
  unfold strip longQuestion
  rw [String.toList_ofList, stripChars_of_noSpace hnoSpace]

theorem removeControls_longChars : removeControls longChars = longChars := by
  unfold removeControls
  rw [List.filter_eq_self]
  intro c hc
  have hall : ("[inst]a".toList.all fun c => !isControl c) = true := by
    rw [String.toList_ofList]
    decide
  exact List.all_eq_true.mp hall c (mem_longChars hc)

theorem wholeQuestion_longQuestion :
    wholeQuestion plainInterpreter (.str longQuestion) =
      String.ofList (('[' :: storedUntrustedTail) ++ letters) := by
  unfold wholeQuestion
  rw [questionText_longQuestion]
  unfold longQuestion
  rw [String.toList_ofList, removeControls_longChars, replaceMarkers_longChars]

theorem sanitizeString_longQuestion :
    sanitizeString longQuestion =
      String.ofList ((('[' :: storedUntrustedTail) ++ letters).take maxStringChars) := by
  unfold sanitizeString longQuestion
  rw [String.toList_ofList, removeControls_longChars, replaceMarkers_longChars]

theorem storedUntrustedTail_length : storedUntrustedTail.length = 30 :=
  (congrArg List.length String.toList_ofList).trans rfl

theorem sanitizeString_longQuestion_length : (sanitizeString longQuestion).length = 4000 := by
  rw [sanitizeString_longQuestion, String.length_ofList, List.length_take, List.length_append,
    letters_length, List.length_cons, storedUntrustedTail_length]
  unfold maxStringChars
  rfl

theorem encodedStringLength_longQuestion : encodedStringLength (sanitizeString longQuestion) ≤ 30000 := by
  have hlength := sanitizeString_longQuestion_length
  rw [encodedStringLength_plain, hlength]
  · omega
  · intro c hc
    rw [sanitizeString_longQuestion, String.toList_ofList] at hc
    have hall : (('a' :: '[' :: storedUntrustedTail).all fun c => encodedCharLength c == 1) = true := by
      unfold storedUntrustedTail
      rw [String.toList_ofList]
      decide
    have hmem : c ∈ 'a' :: '[' :: storedUntrustedTail := by
      rcases List.mem_append.mp (List.mem_of_mem_take hc) with hc | hc
      · exact List.mem_cons_of_mem _ hc
      · rw [mem_letters hc]
        exact List.mem_cons_self
    exact beq_iff_eq.mp (List.all_eq_true.mp hall c hmem)

theorem completeCurrentQuestion_longQuestion :
    completeCurrentQuestion plainInterpreter (.str longQuestion) = .ok (sanitizeString longQuestion) := by
  have hencoded := encodedStringLength_longQuestion
  have hlength : longQuestion.length = 4000 := by
    unfold longQuestion longChars
    rw [String.length_ofList, List.length_append, letters_length,
      show "[inst]".toList.length = 6 from (congrArg List.length String.toList_ofList).trans rfl]
  have hmax : maxQuestionChars = 4000 := by
    unfold maxQuestionChars
    rfl
  have hjson : maxJsonChars = 32768 := by
    unfold maxJsonChars
    rfl
  refine completeCurrentQuestion_of_length questionText_longQuestion (fun h => ?_) ?_ ?_ ?_
  · rw [h, String.length_empty] at hlength
    exact absurd hlength (by omega)
  · omega
  · rw [sanitizeString_longQuestion_length, hlength]
  · omega

/-- A question without anything else. -/
def bareRequest (question : String) : PacketRequest where
  question := .str question
  requestContext := []
  conversationPacket := .obj []
  preferredCapability := none
  latencyClass := []

/-- Limits with much room. -/
def wideLimits : PacketLimits := ⟨100000, 100000, 0⟩

def barePacket (question : String) : Json :=
  mandatoryPacket plainInterpreter (bareRequest "") wideLimits question [] 0 ⟨fun _ => 0, 0⟩

theorem fixed_barePacket {question : String} (h : Fixed 1 (.str question)) :
    Fixed 0 (barePacket question) := by
  have hkeys : (barePacket question).fields.map Prod.fst = packetKeys := rfl
  have hfields : (barePacket question).fields = (barePacket "").fields.take 1 ++
      ("current_user_message", .str question) :: (barePacket "").fields.drop 2 := rfl
  -- the other fields do not depend on the question
  have hall : (packetKeys.all isPlainKey &&
      ((barePacket "").fields.take 1 ++ (barePacket "").fields.drop 2).all fun kv =>
        decide ((sanitizeValue 1 kv.2).toOption = some kv.2)) = true := by decide +kernel
  obtain ⟨hplain, hothers⟩ := Bool.and_eq_true_iff.mp hall
  show Fixed 0 (.obj (barePacket question).fields)
  refine fixed_plain (by decide) ?_ ?_ (fun kv hkv => ?_) fun kv hkv => ?_
  · rw [← List.length_map Prod.fst, hkeys]
    decide
  · rw [hkeys]
    exact packetKeys_nodup
  · apply List.all_eq_true.mp hplain kv.1
    rw [← hkeys]
    exact List.mem_map_of_mem hkv
  · rw [hfields] at hkv
    have hother (hmem : kv ∈ (barePacket "").fields.take 1 ++ (barePacket "").fields.drop 2) :
        Fixed 1 kv.2 :=
      Checks.toOption_eq_some.mp (by simpa using List.all_eq_true.mp hothers kv hmem)
    rcases List.mem_append.mp hkv with hkv | hkv
    · exact hother (List.mem_append_left _ hkv)
    · rcases List.mem_cons.mp hkv with rfl | hkv
      · exact h
      · exact hother (List.mem_append_right _ hkv)

theorem encodedLength_barePacket (question : String) :
    encodedLength (barePacket question) ≤ encodedStringLength question + 2000 := by
  have hsplit : encodedLength (barePacket question) =
      2 + (encodedStringLength "schema_version" + 1 + 1 +
        (encodedStringLength "current_user_message" + 1 + encodedStringLength question +
          encodedFieldsLength ((barePacket "").fields.drop 2))) + 10 := rfl
  have hrest : encodedStringLength "schema_version" + encodedStringLength "current_user_message" +
      encodedFieldsLength ((barePacket "").fields.drop 2) ≤ 1900 := by decide +kernel
  omega

theorem sanitizePacket_barePacket {question : String} (h : Fixed 1 (.str question))
    (hsize : encodedStringLength question ≤ 30000) :
    sanitizePacket (barePacket question) = .ok (barePacket question) := by
  have hlength := encodedLength_barePacket question
  have hmax : maxJsonChars = 32768 := by
    unfold maxJsonChars
    rfl
  unfold sanitizePacket sanitizeStructuredValue
  rw [Checks.mapError_eq_ok, Checks.bind_eq_ok]
  exact ⟨_, fixed_barePacket h, if_neg (by omega)⟩

theorem length_append_le {a b : String} {m n : Nat} (ha : a.length ≤ m) (hb : b.length ≤ n) :
    (a ++ b).length ≤ m + n := by
  rw [String.length_append]
  omega

theorem length_plannerInstructions : plannerInstructions.length ≤ 700 := by
  have hline {cs : List Char} (h : cs.length ≤ 100) : (String.ofList cs).length ≤ 100 := by
    rwa [String.length_ofList]
  unfold plannerInstructions
  exact length_append_le (length_append_le (length_append_le (length_append_le (length_append_le
    (length_append_le (hline (by decide)) (hline (by decide))) (hline (by decide)))
    (hline (by decide))) (hline (by decide))) (hline (by decide))) (hline (by decide))

theorem length_plannerPrompt (i : Interpreter) (packet : Json) :
    (plannerPrompt i packet).length = plannerInstructions.length + i.contract.length +
      "\nSERVER_PACKET=".length + jsonSize packet := by
  unfold plannerPrompt jsonSize
  rw [String.length_append, String.length_append, String.length_append]

theorem fitsLimits_barePacket {question : String} (hsize : encodedStringLength question ≤ 30000) :
    fitsLimits plainInterpreter wideLimits (barePacket question) = true := by
  have hlength := encodedLength_barePacket question
  have hprompt := length_plannerPrompt plainInterpreter (barePacket question)
  have hmarker : "\nSERVER_PACKET=".length = 15 := String.length_ofList
  have hcontract : plainInterpreter.contract.length = 0 := String.length_ofList
  have hlines := length_plannerInstructions
  rw [jsonSize_eq] at hprompt
  have hpacket : (jsonSize (barePacket question) : Int) ≤ wideLimits.maxChars := by
    rw [jsonSize_eq]
    show _ ≤ (100000 : Int)
    omega
  have hsizes : promptSize (plannerPrompt plainInterpreter (barePacket question))
      wideLimits.gatewayFramingChars ≤ wideLimits.maxPromptChars := by
    unfold promptSize
    show _ + (0 : Int) ≤ (100000 : Int)
    omega
  unfold fitsLimits
  rw [decide_eq_true hpacket, decide_eq_true hsizes]
  rfl

/-- A bare question that can be sanitized makes a packet. -/
theorem buildPlannerPacket_bare {text question : String}
    (hquestion : completeCurrentQuestion plainInterpreter (.str text) = .ok question)
    (hne : question ≠ "") (hfixed : Fixed 1 (.str question))
    (hsize : encodedStringLength question ≤ 30000) :
    ∃ built, buildPlannerPacket plainInterpreter (bareRequest text) wideLimits = .ok built := by
  have hpacket := sanitizePacket_barePacket hfixed hsize
  have hfits := fitsLimits_barePacket hsize
  obtain ⟨hserialized, hprompt⟩ := Bool.and_eq_true_iff.mp hfits
  have hcandidates : ∃ candidates, optionalFactCandidates plainInterpreter (.obj []) = .ok candidates ∧
      candidates = fun _ => [] :=
    ⟨_, rfl, funext fun category => by cases category <;> rfl⟩
  obtain ⟨candidates, hcandidates, hnone⟩ := hcandidates
  have homitted : initialOmitted candidates 0 "" = ⟨fun _ => 0, 0⟩ := by
    rw [hnone]
    unfold initialOmitted
    rw [Omitted.mk.injEq]
    exact ⟨funext fun category => by cases category <;> rfl, rfl⟩
  have hpacking : optionalFactOrder.foldlM (offerCategory plainInterpreter wideLimits "" candidates)
      ⟨barePacket question, ⟨fun _ => 0, 0⟩⟩ =
        .ok (⟨barePacket question, ⟨fun _ => 0, 0⟩⟩ : Packing) := by
    rw [hnone]
    rfl
  have hmandatory : sanitizePacket (mandatoryPacket plainInterpreter (bareRequest text) wideLimits
      question [] 0 ⟨fun _ => 0, 0⟩) = .ok (barePacket question) := hpacket
  have hentities : authoritativeEntityFacts plainInterpreter.py
      (((bareRequest text).conversationPacket.dictOrEmpty).get "entities") = ([], 0) := rfl
  have hstale : plainInterpreter.toInt (((((bareRequest text).conversationPacket.dictOrEmpty).get
      "bounds").dictOrEmpty.get "stale_evidence_excluded").orElse (.int 0)) = .ok 0 := rfl
  have hsummary : summaryText plainInterpreter (bareRequest text).conversationPacket.dictOrEmpty = "" := rfl
  have hvalid : (decide (wideLimits.maxPromptChars < 1) || decide (wideLimits.gatewayFramingChars < 0) ||
      decide (wideLimits.maxPromptChars ≤ wideLimits.gatewayFramingChars)) = false := by decide
  unfold buildPlannerPacket
  rw [show completeCurrentQuestion plainInterpreter (bareRequest text).question = .ok question from
    hquestion, ok_bind, if_neg hne, hvalid, if_neg Bool.false_ne_true]
  dsimp only
  rw [hstale, ok_bind, show optionalFactCandidates plainInterpreter
    (bareRequest text).conversationPacket.dictOrEmpty = .ok candidates from hcandidates, ok_bind]
  rw [hentities, hsummary, homitted]
  dsimp only
  rw [hmandatory, ok_bind, if_neg (Int.not_lt.mpr (of_decide_eq_true hserialized)),
    if_neg (Int.not_lt.mpr (of_decide_eq_true hprompt)), hpacking, ok_bind]
  rw [show sanitizePacket (setBounds (barePacket question) "omitted"
    (Omitted.asJson ⟨fun _ => 0, 0⟩)) = .ok (barePacket question) from hpacket, ok_bind, hfits]
  exact ⟨_, rfl⟩

end Bare

/-! ## Result -/

/-- A packet that is built, and fitted to any profiles, keeps what it promises just where the question with
    its markers replaced is no longer than a string of a structured value. -/
theorem planner_packet_accounting {i : Interpreter} {request : PacketRequest}
    {limits : PacketLimits} {built packet : PlannerPacket} {profiles : List Int}
    (hbuilt : buildPlannerPacket i request limits = .ok built)
    (hfit : profiles.foldlM (fitPacketToProfile i) built = .ok packet) :
    PacketAsClaimed i request limits profiles packet ↔
      (wholeQuestion i request.question).length ≤ maxStringChars := by
  obtain ⟨safe, hsafe, hkept, hfitted, hpacket⟩ := buildPlannerPacket_kept hbuilt
  obtain ⟨⟨-, hfilled⟩, hlast⟩ := fitAll_kept hkept hfitted hfit
  have hquestion := get_of_get? hfilled.question_eq
  rw [← whole_iff]
  constructor
  · intro h
    rw [h.question_whole] at hquestion
    exact (Json.str.inj hquestion).symm
  · intro hwhole
    refine ⟨hlast.prompt_eq, hlast.prompt_fits, fun hnil => ?_, ?_, ?_, hfilled.accounted⟩
    · rw [hnil] at hfit
      cases hfit
      exact hpacket
    · rw [hquestion, hwhole]
    · unfold entitiesOf
      rw [get_of_get? hfilled.entities_eq, ← mergeEntity_keys, ← List.map_take]
      exact entitiesOf_sanitized hsafe

/-- A short question is there in full. -/
theorem planner_packet_accounting_short :
    ∃ built, buildPlannerPacket plainInterpreter (bareRequest "Hi") wideLimits = .ok built ∧
      (PacketAsClaimed plainInterpreter (bareRequest "Hi") wideLimits [] built ↔
        (wholeQuestion plainInterpreter (.str "Hi")).length ≤ maxStringChars) := by
  have hquestion : (completeCurrentQuestion plainInterpreter (.str "Hi")).toOption = some "Hi" := by
    decide +kernel
  have hfixed : (sanitizeValue 1 (.str "Hi")).toOption = some (.str "Hi") := by decide +kernel
  obtain ⟨built, hbuilt⟩ := buildPlannerPacket_bare (Checks.toOption_eq_some.mp hquestion) (by decide)
    (Checks.toOption_eq_some.mp hfixed) (by decide +kernel)
  exact ⟨built, hbuilt, planner_packet_accounting hbuilt rfl⟩

/-- Replacing the marker makes the question longer than 4000 characters, and its end is lost. -/
theorem question_end_lost :
    ∃ built, buildPlannerPacket plainInterpreter (bareRequest longQuestion) wideLimits = .ok built ∧
      ¬ PacketAsClaimed plainInterpreter (bareRequest longQuestion) wideLimits [] built := by
  have hlength := sanitizeString_longQuestion_length
  have hne : sanitizeString longQuestion ≠ "" := fun h => by
    rw [h] at hlength
    exact absurd hlength (by decide)
  have hfixed : Fixed 1 (.str (sanitizeString longQuestion)) :=
    sanitizeValue_fixed (show sanitizeValue 1 (.str longQuestion) = _ from rfl)
  obtain ⟨built, hbuilt⟩ := buildPlannerPacket_bare completeCurrentQuestion_longQuestion hne hfixed
    encodedStringLength_longQuestion
  refine ⟨built, hbuilt, fun h => ?_⟩
  obtain ⟨safe, -, ⟨-, hfilled⟩, -⟩ := buildPlannerPacket_kept hbuilt
  have hquestion := get_of_get? hfilled.question_eq
  rw [h.question_whole] at hquestion
  have hwhole := whole_iff.mp (Json.str.inj hquestion).symm
  rw [show (bareRequest longQuestion).question = .str longQuestion from rfl,
    wholeQuestion_longQuestion, String.length_ofList, List.length_append, letters_length,
    List.length_cons, storedUntrustedTail_length] at hwhole
  unfold maxStringChars at hwhole
  exact absurd hwhole (by decide)

end SiemDashboard.AgenticAnalystPlanner
