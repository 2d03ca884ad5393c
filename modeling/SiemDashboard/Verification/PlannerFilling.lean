import Mathlib.Data.Finset.Card
import Mathlib.Data.List.Induction
import SiemDashboard.Core.AgenticAnalystPlanner

/-!
# How a planner packet is filled and trimmed

A packet is filled fact by fact and sanitized as a whole after each of them, and later trimmed from its end.  The
question and the entities stay, and what is left out of a category is counted.

* **Sanitizing** — `Sanitizes`, `Sanitizes.get?`, `Sanitizes.arr`, `Stable.get?`.
* **Counting** — `included`, `Filled`: the invariant of filling and trimming; `Filled.sanitized`,
  `Filled.addFact`, `Filled.dropFact`, `Filled.pop`.
* **Filling** — `offerFact_packed`, `offerCategories_packed`.
* **Candidates** — `availableFacts`, `optionalFactCandidates_length`.
* **Trimming** — `Kept`, `trimCategory_kept`, `fitPacketToProfile_kept`.
-/

namespace SiemDashboard.SessionMemory

open Python

/-! ## Sanitizing -/

/-- The second value is what sanitizing makes of the first one somewhere. -/
def Sanitizes (v w : Json) : Prop := ∃ depth, sanitizeValue depth v = .ok w

theorem Sanitizes.stable {v w : Json} (h : Sanitizes v w) : Stable w := by
  obtain ⟨depth, h⟩ := h
  exact sanitizeValue_stable h

theorem Stable.eq_of_sanitizes {v w : Json} (hv : Stable v) (h : Sanitizes v w) : w = v := by
  obtain ⟨depth, h⟩ := h
  exact hv.sanitizeValue h

/-- A key that sanitizing keeps, apart from all others. -/
structure SafeKey (key : String) : Prop where
  plain : isPlainKey key = true
  short : key.length < 128

instance (key : String) : Decidable (SafeKey key) :=
  decidable_of_iff (isPlainKey key = true ∧ key.length < 128)
    ⟨fun h => ⟨h.1, h.2⟩, fun h => ⟨h.plain, h.short⟩⟩

/-- Only a short key itself is cut to it. -/
theorem eq_of_keyText {key other : String} (hshort : key.length < 128)
    (h : keyText other = key) : other = key := by
  unfold keyText at h
  have hlength : (other.toList.take 128).length = key.length := by
    rw [← h, String.length_ofList]
  rw [List.length_take] at hlength
  rw [← h, List.take_of_length_le (by omega), String.ofList_toList]

/-- A field under a safe key is sanitized where it is. -/
theorem sanitizeFields_lookup {depth : Nat} {kvs result out : List (String × Json)} {key : String}
    (hkey : SafeKey key) (hnodup : (kvs.map Prod.fst).Nodup)
    (h : sanitizeFields depth result kvs = .ok out) :
    kvs.lookup key = none ∧ out.lookup key = result.lookup key ∨
      ∃ v w, kvs.lookup key = some v ∧ sanitizeValue depth v = .ok w ∧ out.lookup key = some w := by
  induction kvs generalizing result with
  | nil =>
    rw [sanitizeFields] at h
    cases h
    exact .inl ⟨rfl, rfl⟩
  | cons field rest ih =>
    obtain ⟨other, v⟩ := field
    rw [List.map_cons, List.nodup_cons] at hnodup
    rw [sanitizeFields] at h
    by_cases hother : other = key
    · subst hother
      obtain ⟨htext, hsecret, -⟩ := isPlainKey_iff.mp hkey.plain
      rw [htext, isSafeTokenUsageCount_of_plain hkey.plain, hsecret, if_neg (by simp),
        if_neg (by simp)] at h
      obtain ⟨w, hw, h⟩ := Checks.bind_eq_ok.mp h
      refine .inr ⟨v, w, List.lookup_cons_self, hw, ?_⟩
      rcases ih hnodup.2 h with ⟨-, hout⟩ | ⟨v', w', hlookup, -, -⟩
      · rw [hout, Json.lookup_setField, if_pos rfl]
      · obtain ⟨before, after, heq, -⟩ := List.lookup_eq_some_iff.mp hlookup
        refine absurd ?_ hnodup.1
        rw [heq]
        simp
    · have hkept (value : Json) :
          (Json.setField (keyText other) value result).lookup key = result.lookup key := by
        rw [Json.lookup_setField, if_neg fun heq => hother (eq_of_keyText hkey.short heq.symm)]
      have hfirst : ((other, v) :: rest).lookup key = rest.lookup key := by
        rw [List.lookup_cons, beq_eq_false_iff_ne.mpr (Ne.symm hother)]
      have hnext {value : Json}
          (h : sanitizeFields depth (Json.setField (keyText other) value result) rest = .ok out) :
          rest.lookup key = none ∧ out.lookup key = result.lookup key ∨
            ∃ v w, rest.lookup key = some v ∧ sanitizeValue depth v = .ok w ∧
              out.lookup key = some w := by
        rcases ih hnodup.2 h with ⟨hnone, hout⟩ | hsome
        · exact .inl ⟨hnone, by rw [hout, hkept]⟩
        · exact .inr hsome
      rw [hfirst]
      split at h
      · exact hnext h
      · split at h
        · exact hnext h
        · obtain ⟨w, -, h⟩ := Checks.bind_eq_ok.mp h
          exact hnext h

theorem Sanitizes.obj {kvs : List (String × Json)} {w : Json} (h : Sanitizes (.obj kvs) w) :
    ∃ depth out, w = .obj out ∧ sanitizeFields depth [] kvs = .ok out := by
  obtain ⟨depth, h⟩ := h
  rw [sanitizeValue] at h
  split at h
  · cases h
  · split at h
    · cases h
    · obtain ⟨out, hout, rfl⟩ := Checks.map_eq_ok.mp h
      exact ⟨_, out, rfl, hout⟩

/-- What is under a safe key is sanitized, and nothing comes under one. -/
theorem Sanitizes.get? {v w : Json} (h : Sanitizes v w) (hobj : v.isObj = true) {key : String}
    (hkey : SafeKey key) (hnodup : (v.fields.map Prod.fst).Nodup) :
    v.get? key = none ∧ w.get? key = none ∨
      ∃ x y, v.get? key = some x ∧ w.get? key = some y ∧ Sanitizes x y := by
  cases v with
  | obj kvs =>
    obtain ⟨depth, out, rfl, hout⟩ := h.obj
    rcases sanitizeFields_lookup hkey hnodup hout with ⟨hnone, hresult⟩ | ⟨x, y, hx, hxy, hy⟩
    · exact .inl ⟨hnone, hresult⟩
    · exact .inr ⟨x, y, hx, hy, depth, hxy⟩
  | _ => cases hobj

theorem Sanitizes.isObj {v w : Json} (h : Sanitizes v w) (hobj : v.isObj = true) : w.isObj = true := by
  cases v with
  | obj kvs =>
    obtain ⟨depth, out, rfl, -⟩ := h.obj
    rfl
  | _ => cases hobj

theorem sanitizeItems_forall₂ {depth : Nat} {items ws : List Json}
    (h : sanitizeItems depth items = .ok ws) : List.Forall₂ Sanitizes items ws := by
  induction items generalizing ws with
  | nil =>
    cases h
    exact .nil
  | cons v rest ih =>
    rw [sanitizeItems] at h
    obtain ⟨w, hw, h⟩ := Checks.bind_eq_ok.mp h
    obtain ⟨ws', hws, h⟩ := Checks.bind_eq_ok.mp h
    cases h
    exact .cons ⟨depth, hw⟩ (ih hws)

theorem Sanitizes.arr {items : List Json} {w : Json} (h : Sanitizes (.arr items) w) :
    ∃ ws, w = .arr ws ∧ List.Forall₂ Sanitizes items ws := by
  obtain ⟨depth, h⟩ := h
  rw [sanitizeValue] at h
  split at h
  · cases h
  · split at h
    · cases h
    · obtain ⟨ws, hws, rfl⟩ := Checks.map_eq_ok.mp h
      exact ⟨ws, rfl, sanitizeItems_forall₂ hws⟩

theorem Sanitizes.str {s : String} {w : Json} (h : Sanitizes (.str s) w) :
    w = .str (sanitizeString s) := by
  obtain ⟨depth, h⟩ := h
  rw [sanitizeValue] at h
  split at h
  · cases h
  · cases h
    rfl

theorem Sanitizes.isNull {v w : Json} (h : Sanitizes v w) : w.isNull = v.isNull := by
  cases v with
  | arr items =>
    obtain ⟨ws, rfl, -⟩ := h.arr
    rfl
  | obj kvs =>
    obtain ⟨_, out, rfl, -⟩ := h.obj
    rfl
  | str s =>
    rw [h.str]
    rfl
  | null =>
    rw [Stable.null.eq_of_sanitizes h]
  | bool b =>
    rw [(Stable.bool b).eq_of_sanitizes h]
  | int n =>
    rw [(Stable.int n).eq_of_sanitizes h]
  | float text =>
    rw [(Stable.float text).eq_of_sanitizes h]

theorem Stable.nodup {v : Json} (h : Stable v) : (v.fields.map Prod.fst).Nodup := by
  cases h with
  | obj _ hkeys => exact hkeys
  | _ => exact List.nodup_nil

theorem Stable.get? {v x : Json} (h : Stable v) {key : String} (hkey : isPlainKey key = true)
    (hget : v.get? key = some x) : Stable x := by
  cases h with
  | obj kvs hkeys htext hsecret hvalue =>
    have hmem : (key, x) ∈ kvs := by
      obtain ⟨before, after, heq, -⟩ := List.lookup_eq_some_iff.mp hget
      rw [show kvs = before ++ (key, x) :: after from heq]
      exact List.mem_append_right _ List.mem_cons_self
    exact hvalue _ hmem (isSafeTokenUsageCount_of_plain hkey x) (isPlainKey_iff.mp hkey).2.1
  | _ => cases hget

theorem Stable.set {v x : Json} (h : Stable v) {key : String} (hkey : isPlainKey key = true)
    (hx : Stable x) : Stable (v.set key x) := by
  cases v with
  | obj kvs =>
    obtain ⟨htext, hsecret, -⟩ := isPlainKey_iff.mp hkey
    have hset := h.setField key (.inr (.inr ⟨by rw [htext]; exact hsecret, hx⟩))
    rw [htext] at hset
    exact hset
  | _ => exact h

/-- Fewer fields of a stable dict. -/
theorem Stable.sublist {kvs some : List (String × Json)} (h : Stable (.obj kvs))
    (hsome : some.Sublist kvs) : Stable (.obj some) := by
  cases h with
  | obj _ hkeys htext hsecret hvalue =>
    exact .obj _ (hkeys.sublist (hsome.map _)) (fun kv hkv => htext kv (hsome.subset hkv))
      (fun kv hkv => hsecret kv (hsome.subset hkv)) fun kv hkv => hvalue kv (hsome.subset hkv)

end SiemDashboard.SessionMemory

namespace SiemDashboard.AgenticAnalystPlanner

open Python SessionMemory JsonText

/-! ## Counting -/

section Counting

/-- How many facts of a category are in what stands under its key. -/
def countOf (category : OptionalFact) (value : Json) : Nat :=
  if category = .conversationSummary then if value.isNull then 0 else 1
  else (listOrEmpty value).length

/-- How many facts of a category a packet holds. -/
def included (payload : Json) (category : OptionalFact) : Nat :=
  countOf category ((payload.get "facts").get category.name)

theorem included_list {payload : Json} {category : OptionalFact}
    (hcategory : category ≠ .conversationSummary) :
    included payload category = (factsOf payload category).length := if_neg hcategory

theorem OptionalFact.name_safe (category : OptionalFact) : SafeKey category.name := by
  cases category <;> decide +kernel

theorem OptionalFact.name_ne_entities (category : OptionalFact) : category.name ≠ "entities" := by
  cases category <;> decide

theorem OptionalFact.name_inj {category other : OptionalFact} (h : category.name = other.name) :
    category = other := by
  cases category <;> cases other <;> first | rfl | exact absurd h (by decide)

theorem facts_safe : SafeKey "facts" := by decide +kernel

theorem bounds_safe : SafeKey "bounds" := by decide +kernel

theorem question_safe : SafeKey "current_user_message" := by decide +kernel

theorem entities_safe : SafeKey "entities" := by decide +kernel

theorem get_of_get? {v x : Json} {key : String} (h : v.get? key = some x) : v.get key = x := by
  rw [Json.get, Json.getD, h]
  rfl

theorem isObj_of_get? {v x : Json} {key : String} (h : v.get? key = some x) : v.isObj = true := by
  cases v with
  | obj kvs => rfl
  | _ => cases h

theorem get?_of_isObj {v : Json} {key : String} (h : (v.get key).isObj = true) :
    v.get? key = some (v.get key) := by
  rw [Json.get, Json.getD] at h ⊢
  cases hget : v.get? key with
  | none =>
    rw [hget] at h
    cases h
  | some x => rfl

theorem get_set_self {v : Json} (hv : v.isObj = true) (key : String) (x : Json) :
    (v.set key x).get key = x :=
  get_of_get? (by rw [Json.get?_set hv, if_pos rfl])

theorem get_set_of_ne {v : Json} (hv : v.isObj = true) {key other : String} (hne : other ≠ key)
    (x : Json) : (v.set key x).get other = v.get other := by
  rw [Json.get, Json.getD, Json.get?_set hv, if_neg hne]
  rfl

theorem nodup_set {v : Json} (h : (v.fields.map Prod.fst).Nodup) (key : String) (x : Json) :
    ((v.set key x).fields.map Prod.fst).Nodup := by
  cases v with
  | obj kvs => exact Json.nodup_setField h
  | _ => exact h

/-- The invariant of filling and trimming: the question and the entities are there, and the facts of a
    category that the packet holds and those that are left out are all of them. -/
structure Filled (question : String) (entities : List Json) (available : OptionalFact → Nat)
    (payload : Json) (omitted : Omitted) : Prop where
  keys : (payload.fields.map Prod.fst).Nodup
  question_eq : payload.get? "current_user_message" = some (.str question)
  bounds_isObj : (payload.get "bounds").isObj = true
  facts_isObj : (payload.get "facts").isObj = true
  factKeys : ((payload.get "facts").fields.map Prod.fst).Nodup
  entities_eq : (payload.get "facts").get? "entities" = some (.arr entities)
  lists : ∀ category : OptionalFact, category ≠ .conversationSummary →
    (payload.get "facts").get? category.name = none ∨
      ∃ items, (payload.get "facts").get? category.name = some (.arr items)
  accounted : ∀ category, included payload category + omitted.facts category = available category

variable {question : String} {entities : List Json} {available : OptionalFact → Nat} {payload : Json}
  {omitted : Omitted}

theorem Filled.isObj (h : Filled question entities available payload omitted) :
    payload.isObj = true := isObj_of_get? h.question_eq

/-- What is counted depends on the facts alone. -/
theorem included_congr {other : Json} (h : other.get "facts" = payload.get "facts")
    (category : OptionalFact) : included other category = included payload category := by
  unfold included
  rw [h]

theorem Filled.setBounds (h : Filled question entities available payload omitted) (key : String)
    (value : Json) : Filled question entities available (setBounds payload key value) omitted := by
  have hfacts : (AgenticAnalystPlanner.setBounds payload key value).get "facts" =
      payload.get "facts" := get_set_of_ne h.isObj (by decide) _
  refine ⟨nodup_set h.keys _ _, ?_, ?_, ?_, ?_, ?_, ?_, fun category => ?_⟩
  · unfold AgenticAnalystPlanner.setBounds
    rw [Json.get?_set h.isObj, if_neg (by decide)]
    exact h.question_eq
  · unfold AgenticAnalystPlanner.setBounds
    rw [get_set_self h.isObj, Json.isObj_set]
    exact h.bounds_isObj
  · rw [hfacts]
    exact h.facts_isObj
  · rw [hfacts]
    exact h.factKeys
  · rw [hfacts]
    exact h.entities_eq
  · rw [hfacts]
    exact h.lists
  · rw [included_congr hfacts]
    exact h.accounted category

/-- Other facts, for which the counts add up as well. -/
theorem Filled.withFacts (h : Filled question entities available payload omitted) {facts : Json}
    {counted : Omitted} (hobj : facts.isObj = true) (hkeys : (facts.fields.map Prod.fst).Nodup)
    (hentities : facts.get? "entities" = some (.arr entities))
    (hlists : ∀ category : OptionalFact, category ≠ .conversationSummary → facts.get? category.name = none ∨
      ∃ items, facts.get? category.name = some (.arr items))
    (haccounted : ∀ category, included (payload.set "facts" facts) category +
      counted.facts category = available category) :
    Filled question entities available (payload.set "facts" facts) counted := by
  have hfacts : (payload.set "facts" facts).get "facts" = facts := get_set_self h.isObj _ _
  refine ⟨nodup_set h.keys _ _, ?_, ?_, ?_, ?_, ?_, ?_, haccounted⟩
  · rw [Json.get?_set h.isObj, if_neg (by decide)]
    exact h.question_eq
  · rw [get_set_of_ne h.isObj (by decide)]
    exact h.bounds_isObj
  · rw [hfacts]
    exact hobj
  · rw [hfacts]
    exact hkeys
  · rw [hfacts]
    exact hentities
  · rw [hfacts]
    exact hlists

/-- Sanitizing keeps the invariant: no fact is lost, and what is safe stays. -/
theorem Filled.sanitized (h : Filled question entities available payload omitted)
    (hquestion : Stable (.str question)) (hentities : Stable (.arr entities)) {safe : Json}
    (hsafe : Sanitizes payload safe) :
    Stable safe ∧ Filled question entities available safe omitted := by
  have hstable := hsafe.stable
  have hpart {key : String} (hkey : SafeKey key) {x : Json} (hx : payload.get? key = some x) :
      ∃ y, safe.get? key = some y ∧ Sanitizes x y := by
    rcases hsafe.get? h.isObj hkey h.keys with ⟨hnone, -⟩ | ⟨x', y, hx', hy, hxy⟩
    · rw [hnone] at hx
      cases hx
    · rw [hx] at hx'
      obtain rfl := Option.some.inj hx'
      exact ⟨y, hy, hxy⟩
  obtain ⟨question', hquestion', hsame⟩ := hpart question_safe h.question_eq
  obtain ⟨bounds, hbounds, hboundsObj⟩ := hpart bounds_safe (get?_of_isObj h.bounds_isObj)
  obtain ⟨facts, hfacts, hfactsSafe⟩ := hpart facts_safe (get?_of_isObj h.facts_isObj)
  have hget : safe.get "facts" = facts := get_of_get? hfacts
  have hfact {key : String} (hkey : SafeKey key) := hfactsSafe.get? h.facts_isObj hkey h.factKeys
  refine ⟨hstable, hstable.nodup, ?_, ?_, ?_, ?_, ?_, fun category hcategory => ?_,
    fun category => ?_⟩
  · rw [hquestion', hquestion.eq_of_sanitizes hsame]
  · rw [get_of_get? hbounds]
    exact hboundsObj.isObj h.bounds_isObj
  · rw [hget]
    exact hfactsSafe.isObj h.facts_isObj
  · rw [hget]
    exact hfactsSafe.stable.nodup
  · rw [hget]
    rcases hfact entities_safe with ⟨hnone, -⟩ | ⟨x, y, hx, hy, hxy⟩
    · rw [h.entities_eq] at hnone
      cases hnone
    · rw [h.entities_eq] at hx
      obtain rfl := Option.some.inj hx
      rw [hy, hentities.eq_of_sanitizes hxy]
  · rw [hget]
    rcases hfact category.name_safe with ⟨-, hnone⟩ | ⟨x, y, hx, hy, hxy⟩
    · exact .inl hnone
    · rcases h.lists category hcategory with hnone | ⟨items, hitems⟩
      · rw [hnone] at hx
        cases hx
      · rw [hitems] at hx
        obtain rfl := Option.some.inj hx
        obtain ⟨ws, rfl, -⟩ := hxy.arr
        exact .inr ⟨ws, hy⟩
  · rw [← h.accounted category]
    congr 1
    unfold included countOf
    rw [hget]
    rcases hfact category.name_safe with ⟨hnone, hnone'⟩ | ⟨x, y, hx, hy, hxy⟩
    · rw [Json.get, Json.getD, Json.get, Json.getD, hnone, hnone']
    · rw [get_of_get? hx, get_of_get? hy]
      by_cases hsummary : category = .conversationSummary
      · rw [if_pos hsummary, if_pos hsummary, hxy.isNull]
      · rw [if_neg hsummary, if_neg hsummary]
        rcases h.lists category hsummary with hnone | ⟨items, hitems⟩
        · rw [hnone] at hx
          cases hx
        · rw [hitems] at hx
          obtain rfl := Option.some.inj hx
          obtain ⟨ws, rfl, hws⟩ := hxy.arr
          exact hws.length_eq.symm

theorem Filled.setFact (h : Filled question entities available payload omitted)
    {category : OptionalFact} {value : Json} {n : Nat}
    (hvalue : category ≠ .conversationSummary → ∃ items, value = .arr items)
    (hcount : countOf category value + n = available category) :
    Filled question entities available (setFacts payload category.name value)
      (omitted.setFact category n) := by
  unfold setFacts
  have hget : ((payload.get "facts").set category.name value).get? category.name = some value := by
    rw [Json.get?_set h.facts_isObj, if_pos rfl]
  have hkept {key : String} (hkey : key ≠ category.name) :
      ((payload.get "facts").set category.name value).get? key = (payload.get "facts").get? key := by
    rw [Json.get?_set h.facts_isObj, if_neg hkey]
  refine h.withFacts ?_ (nodup_set h.factKeys _ _) ?_ (fun other hother => ?_) fun other => ?_
  · rw [Json.isObj_set]
    exact h.facts_isObj
  · rw [hkept category.name_ne_entities.symm]
    exact h.entities_eq
  · by_cases hsame : other = category
    · rw [hsame, hget]
      obtain ⟨items, rfl⟩ := hvalue (hsame ▸ hother)
      exact .inr ⟨items, rfl⟩
    · rw [hkept fun heq => hsame (OptionalFact.name_inj heq)]
      exact h.lists other hother
  · unfold included
    rw [get_set_self h.isObj]
    unfold Omitted.setFact
    dsimp only
    by_cases hsame : other = category
    · rw [hsame, get_of_get? hget, Function.update_self]
      exact hcount
    · rw [Function.update_of_ne hsame, Json.get, Json.getD,
        hkept fun heq => hsame (OptionalFact.name_inj heq)]
      exact h.accounted other

/-- One more fact, that is no longer counted as left out. -/
theorem Filled.addFact (h : Filled question entities available payload omitted)
    {category : OptionalFact} (hcategory : category ≠ .conversationSummary)
    (hleft : 0 < omitted.facts category) (fact : Json) :
    Filled question entities available
      (setFacts payload category.name (.arr (factsOf payload category ++ [fact])))
      (omitted.setFact category (omitted.facts category - 1)) := by
  refine h.setFact (fun _ => ⟨_, rfl⟩) ?_
  have haccounted := h.accounted category
  unfold included countOf at haccounted
  unfold countOf
  rw [if_neg hcategory] at haccounted ⊢
  have hlength : (listOrEmpty (.arr (factsOf payload category ++ [fact]))).length =
      (factsOf payload category).length + 1 := by
    rw [listOrEmpty, List.length_append, List.length_singleton]
  rw [hlength]
  unfold factsOf
  omega

/-- The summary, that is no longer counted as left out. -/
theorem Filled.addSummary (h : Filled question entities available payload omitted) (summary : String)
    (havailable : available .conversationSummary = 1) :
    Filled question entities available
      (setFacts payload OptionalFact.conversationSummary.name (.str summary))
      (omitted.setFact .conversationSummary 0) :=
  h.setFact (fun hne => absurd rfl hne) havailable.symm

/-- The last fact is taken away, and counted as left out. -/
theorem Filled.dropFact (h : Filled question entities available payload omitted)
    {category : OptionalFact} (hcategory : category ≠ .conversationSummary)
    (hsome : 0 < (factsOf payload category).length) :
    Filled question entities available
      (setFacts payload category.name (.arr (factsOf payload category).dropLast))
      (omitted.setFact category (omitted.facts category + 1)) := by
  refine h.setFact (fun _ => ⟨_, rfl⟩) ?_
  have haccounted := h.accounted category
  unfold included countOf at haccounted
  unfold countOf
  rw [if_neg hcategory] at haccounted ⊢
  have hlength : (listOrEmpty (.arr (factsOf payload category).dropLast)).length =
      (factsOf payload category).length - 1 := by
    rw [listOrEmpty, List.length_dropLast]
  rw [hlength]
  unfold factsOf at hsome ⊢
  omega

theorem lookup_filter_ne (kvs : List (String × Json)) (key other : String) :
    (kvs.filter fun kv => kv.1 ≠ key).lookup other =
      if other = key then none else kvs.lookup other := by
  induction kvs with
  | nil =>
    rw [List.filter_nil, List.lookup_nil, ite_self]
  | cons field rest ih =>
    obtain ⟨k, v⟩ := field
    by_cases hk : k = key
    · rw [List.filter_cons_of_neg (by simpa using hk), ih]
      by_cases hother : other = key
      · rw [if_pos hother, if_pos hother]
      · rw [if_neg hother, if_neg hother, List.lookup_cons,
          beq_eq_false_iff_ne.mpr fun heq => hother (heq.trans hk)]
    · rw [List.filter_cons_of_pos (by simpa using hk), List.lookup_cons, List.lookup_cons, ih]
      by_cases hother : other = k
      · rw [hother, beq_self_eq_true]
        exact (if_neg hk).symm
      · rw [beq_eq_false_iff_ne.mpr hother]

/-- The facts of a category are all taken away, and counted as left out. -/
theorem Filled.pop (h : Filled question entities available payload omitted)
    (category : OptionalFact) :
    Filled question entities available (popFacts payload category.name)
      (omitted.setFact category (available category)) := by
  have hobj := h.facts_isObj
  unfold popFacts
  cases hfacts : payload.get "facts" with
  | obj kvs =>
    dsimp only
    have hkept (key : String) : (Json.obj (kvs.filter fun kv => kv.1 ≠ category.name)).get? key =
        if key = category.name then none else (payload.get "facts").get? key := by
      rw [hfacts]
      exact lookup_filter_ne kvs category.name key
    refine h.withFacts rfl ?_ ?_ (fun other hother => ?_) fun other => ?_
    · have hkeys := h.factKeys
      rw [hfacts] at hkeys
      exact hkeys.sublist (List.filter_sublist.map _)
    · rw [hkept, if_neg category.name_ne_entities.symm]
      exact h.entities_eq
    · rw [hkept]
      by_cases hsame : other.name = category.name
      · exact .inl (if_pos hsame)
      · rw [if_neg hsame]
        exact h.lists other hother
    · unfold included
      rw [get_set_self h.isObj, Json.get, Json.getD, hkept]
      unfold Omitted.setFact
      dsimp only
      by_cases hsame : other = category
      · rw [hsame, if_pos rfl, Function.update_self]
        unfold countOf
        split
        · exact Nat.zero_add _
        · exact Nat.zero_add _
      · rw [if_neg fun heq => hsame (OptionalFact.name_inj heq), Function.update_of_ne hsame]
        exact h.accounted other
  | _ =>
    rw [hfacts] at hobj
    cases hobj

end Counting

/-! ## Filling -/

section Filling

variable {i : Interpreter} {limits : PacketLimits} {question : String} {entities : List Json}
  {available : OptionalFact → Nat}

theorem sanitizes_of_sanitizePacket {payload safe : Json} (h : sanitizePacket payload = .ok safe) :
    Sanitizes payload safe := by
  unfold sanitizePacket at h
  rw [Checks.mapError_eq_ok] at h
  unfold sanitizeStructuredValue at h
  obtain ⟨sanitized, hsanitized, h⟩ := Checks.bind_eq_ok.mp h
  split at h
  · cases h
  · cases h
    exact ⟨0, hsanitized⟩

/-- What a packet keeps stays as it is when it is sanitized again. -/
structure Clean (question : String) (entities : List Json) : Prop where
  question_stable : Stable (.str question)
  entities_stable : Stable (.arr entities)

/-- The packet that is being filled satisfies the invariant. -/
def Packed (question : String) (entities : List Json) (available : OptionalFact → Nat)
    (packing : Packing) : Prop :=
  Filled question entities available packing.accepted packing.omitted

/-- A candidate that satisfies the invariant may be offered. -/
theorem offer_packed (hclean : Clean question entities) {packing result : Packing} {candidate : Json}
    {omitted : Omitted} (hpacked : Packed question entities available packing)
    (hcandidate : Filled question entities available candidate omitted)
    (h : offer i limits packing candidate omitted = .ok result) :
    Packed question entities available result ∧
      (result.omitted = packing.omitted ∨ result.omitted = omitted) := by
  unfold offer at h
  obtain ⟨safe, hsafe, h⟩ := Checks.bind_eq_ok.mp h
  have hfilled := ((hcandidate.setBounds "omitted" omitted.asJson).sanitized
    hclean.question_stable hclean.entities_stable (sanitizes_of_sanitizePacket hsafe)).2
  split at h
  · cases h
    exact ⟨hfilled, .inr rfl⟩
  · cases h
    exact ⟨hpacked, .inl rfl⟩

/-- A fact is offered: the numbers of the other categories stay, and at most one is taken off its own. -/
theorem offerFact_packed (hclean : Clean question entities) {category : OptionalFact}
    (hcategory : category ≠ .conversationSummary) {packing result : Packing} {value : Json}
    (hpacked : Packed question entities available packing)
    (hleft : 0 < packing.omitted.facts category)
    (h : offerFact i limits category packing value = .ok result) :
    Packed question entities available result ∧
      (∀ other, other ≠ category → result.omitted.facts other = packing.omitted.facts other) ∧
      packing.omitted.facts category ≤ result.omitted.facts category + 1 := by
  unfold offerFact at h
  dsimp only at h
  split at h
  · cases h
    exact ⟨hpacked, fun _ _ => rfl, Nat.le_succ _⟩
  · obtain ⟨hresult, homitted | homitted⟩ := offer_packed hclean hpacked
      (hpacked.addFact hcategory hleft _) h
    · exact ⟨hresult, fun _ _ => by rw [homitted], by rw [homitted]; exact Nat.le_succ _⟩
    · refine ⟨hresult, fun other hother => ?_, ?_⟩
      · rw [homitted]
        exact Function.update_of_ne hother _ _
      · have hown : result.omitted.facts category = packing.omitted.facts category - 1 := by
          rw [homitted]
          exact Function.update_self _ _ _
        omega

/-- The loop over the facts of a category. -/
theorem offerFacts_packed (hclean : Clean question entities) {category : OptionalFact}
    (hcategory : category ≠ .conversationSummary) {packing result : Packing} {values : List Json}
    (hpacked : Packed question entities available packing)
    (hleft : values.length ≤ packing.omitted.facts category)
    (h : values.foldlM (offerFact i limits category) packing = .ok result) :
    Packed question entities available result ∧
      ∀ other, other ≠ category → result.omitted.facts other = packing.omitted.facts other := by
  induction values generalizing packing with
  | nil =>
    cases h
    exact ⟨hpacked, fun _ _ => rfl⟩
  | cons value rest ih =>
    rw [List.foldlM_cons] at h
    obtain ⟨next, hnext, h⟩ := Checks.bind_eq_ok.mp h
    rw [List.length_cons] at hleft
    obtain ⟨hpackedNext, hothers, hown⟩ :=
      offerFact_packed hclean hcategory hpacked (by omega) hnext
    obtain ⟨hresult, hkept⟩ := ih hpackedNext (by omega) h
    exact ⟨hresult, fun other hother => (hkept other hother).trans (hothers other hother)⟩

theorem offerSummary_packed (hclean : Clean question entities) {summary : String}
    (havailable : summary ≠ "" → available .conversationSummary = 1) {packing result : Packing}
    (hpacked : Packed question entities available packing)
    (h : offerSummary i limits summary packing = .ok result) :
    Packed question entities available result ∧
      ∀ other, other ≠ .conversationSummary →
        result.omitted.facts other = packing.omitted.facts other := by
  unfold offerSummary at h
  split at h
  · cases h
    exact ⟨hpacked, fun _ _ => rfl⟩
  · next hsummary =>
    obtain ⟨hresult, homitted | homitted⟩ := offer_packed hclean hpacked
      (hpacked.addSummary summary (havailable hsummary)) h
    · exact ⟨hresult, fun _ _ => by rw [homitted]⟩
    · refine ⟨hresult, fun other hother => ?_⟩
      rw [homitted]
      exact Function.update_of_ne hother _ _

/-- The loop over the categories: each has its facts still counted as left out when its turn comes. -/
theorem offerCategories_packed (hclean : Clean question entities) {summary : String}
    (havailable : summary ≠ "" → available .conversationSummary = 1)
    {candidates : OptionalFact → List Json} {categories : List OptionalFact}
    (hnodup : categories.Nodup) {packing result : Packing}
    (hpacked : Packed question entities available packing)
    (hleft : ∀ category ∈ categories, category ≠ .conversationSummary →
      (candidates category).length ≤ packing.omitted.facts category)
    (h : categories.foldlM (offerCategory i limits summary candidates) packing = .ok result) :
    Packed question entities available result := by
  induction categories generalizing packing with
  | nil =>
    cases h
    exact hpacked
  | cons category rest ih =>
    rw [List.foldlM_cons] at h
    obtain ⟨next, hnext, h⟩ := Checks.bind_eq_ok.mp h
    rw [List.nodup_cons] at hnodup
    have hstep : Packed question entities available next ∧
        ∀ other, other ≠ category → next.omitted.facts other = packing.omitted.facts other := by
      unfold offerCategory at hnext
      split at hnext
      · next hsummary =>
        rw [hsummary]
        exact offerSummary_packed hclean havailable hpacked hnext
      · next hcategory =>
        exact offerFacts_packed hclean hcategory hpacked
          (hleft category List.mem_cons_self hcategory) hnext
    refine ih hnodup.2 hstep.1 (fun other hother hlist => ?_) h
    rw [hstep.2 other fun heq => hnodup.1 (heq ▸ hother)]
    exact hleft other (List.mem_cons_of_mem _ hother) hlist

end Filling

/-! ## Candidates -/

section Candidates

variable {i : Interpreter}

theorem recencies_items {pairs : List (Json × Nat)} {keyed : List Recency}
    (h : (pairs.mapM fun (item, place) => recency i item place) = .ok keyed) :
    keyed.map Recency.item = pairs.map Prod.fst := by
  induction pairs generalizing keyed with
  | nil =>
    cases h
    rfl
  | cons pair rest ih =>
    rw [List.mapM_cons] at h
    obtain ⟨first, hfirst, h⟩ := Checks.bind_eq_ok.mp h
    obtain ⟨others, hothers, h⟩ := Checks.bind_eq_ok.mp h
    cases h
    unfold recency at hfirst
    obtain ⟨sequence, -, hfirst⟩ := Checks.bind_eq_ok.mp hfirst
    cases hfirst
    rw [List.map_cons, List.map_cons, ih hothers]

theorem recentValues_perm {value : Json} {values : List Json} (h : recentValues i value = .ok values) :
    values.Perm (listOrEmpty value) := by
  unfold recentValues at h
  obtain ⟨keyed, hkeyed, h⟩ := Checks.bind_eq_ok.mp h
  cases h
  have hitems := recencies_items hkeyed
  rw [List.zipIdx_map_fst] at hitems
  rw [← hitems]
  exact (List.perm_insertionSort _ _).map _

/-- The loop keeps one fact for each text that tells facts apart. -/
theorem addUnseen_markers (values : List Json) :
    (values.foldl (addUnseen i) ([], [])).1.length = (values.foldl (addUnseen i) ([], [])).2.length ∧
      (values.foldl (addUnseen i) ([], [])).2.Nodup ∧
      ∀ text, text ∈ (values.foldl (addUnseen i) ([], [])).2 ↔ text ∈ values.map (marker i) := by
  induction values using List.reverseRecOn with
  | nil => exact ⟨rfl, List.nodup_nil, fun _ => Iff.rfl⟩
  | append_singleton values value ih =>
    obtain ⟨hlength, hnodup, hmem⟩ := ih
    rw [List.foldl_append, List.foldl_cons, List.foldl_nil]
    unfold addUnseen at hlength hnodup hmem ⊢
    split
    · next hseen =>
      refine ⟨hlength, hnodup, fun text => ?_⟩
      rw [hmem, List.map_append, List.mem_append, List.map_singleton, List.mem_singleton]
      constructor
      · exact .inl
      · intro h
        rcases h with h | h
        · exact h
        · rw [h]
          exact (hmem _).mp (List.contains_iff_mem.mp hseen)
    · next hseen =>
      refine ⟨?_, ?_, fun text => ?_⟩
      · rw [List.length_append, List.length_append, hlength, List.length_singleton,
          List.length_singleton]
      · refine List.nodup_append.mpr ⟨hnodup, List.nodup_singleton _, fun a ha b hb heq => ?_⟩
        rw [heq, List.mem_singleton.mp hb] at ha
        exact hseen (List.contains_iff_mem.mpr ha)
      · rw [List.mem_append, hmem, List.map_append, List.mem_append, List.map_singleton]

/-- As many facts are kept as there are different ones. -/
theorem deduplicatedFacts_length (values : List Json) :
    (deduplicatedFacts i values).length = (values.map (marker i)).toFinset.card := by
  obtain ⟨hlength, hnodup, hmem⟩ := addUnseen_markers (i := i) values
  unfold deduplicatedFacts
  rw [hlength, ← List.toFinset_card_of_nodup hnodup]
  congr 1
  ext text
  rw [List.mem_toFinset, List.mem_toFinset, hmem]

/-- How many facts of a category there are for a packet. -/
def availableFacts (i : Interpreter) (source : Json) : OptionalFact → Nat
  | .recentToolResults =>
    ((listOrEmpty (source.get "recent_tool_results")).map (marker i)).toFinset.card
  | .recentEntityTurns => (listOrEmpty (source.get "recent_turns")).countP (turnHasEntityFact i)
  | .recentConclusions => (listOrEmpty (source.get "recent_conclusions")).length
  | .unresolvedQuestions => (listOrEmpty (source.get "unresolved_questions")).length
  | .analystCorrections => (listOrEmpty (source.get "analyst_corrections")).length
  | .conversationSummary => if summaryText i source = "" then 0 else 1
  | .recentTurns =>
    (listOrEmpty (source.get "recent_turns")).countP fun turn => !turnHasEntityFact i turn
  | .priorRecommendations => (listOrEmpty (source.get "prior_recommendations")).length
  | .analystStatements => (listOrEmpty (source.get "analyst_statements")).length

theorem optionalFactCandidates_length {source : Json} {candidates : OptionalFact → List Json}
    (h : optionalFactCandidates i source = .ok candidates) {category : OptionalFact}
    (hcategory : category ≠ .conversationSummary) :
    (candidates category).length = availableFacts i source category := by
  unfold optionalFactCandidates at h
  obtain ⟨toolResults, htoolResults, h⟩ := Checks.bind_eq_ok.mp h
  obtain ⟨turns, hturns, h⟩ := Checks.bind_eq_ok.mp h
  obtain ⟨conclusions, hconclusions, h⟩ := Checks.bind_eq_ok.mp h
  obtain ⟨questions, hquestions, h⟩ := Checks.bind_eq_ok.mp h
  obtain ⟨corrections, hcorrections, h⟩ := Checks.bind_eq_ok.mp h
  obtain ⟨recommendations, hrecommendations, h⟩ := Checks.bind_eq_ok.mp h
  obtain ⟨statements, hstatements, h⟩ := Checks.bind_eq_ok.mp h
  cases h
  cases category with
  | recentToolResults =>
    dsimp only [availableFacts]
    rw [deduplicatedFacts_length,
      List.toFinset_eq_of_perm _ _ ((recentValues_perm htoolResults).map (marker i))]
  | recentEntityTurns =>
    dsimp only [availableFacts]
    rw [← List.countP_eq_length_filter, (recentValues_perm hturns).countP_eq]
  | recentConclusions => exact (recentValues_perm hconclusions).length_eq
  | unresolvedQuestions => exact (recentValues_perm hquestions).length_eq
  | analystCorrections => exact (recentValues_perm hcorrections).length_eq
  | conversationSummary => exact absurd rfl hcategory
  | recentTurns =>
    dsimp only [availableFacts]
    rw [← List.countP_eq_length_filter, (recentValues_perm hturns).countP_eq]
  | priorRecommendations => exact (recentValues_perm hrecommendations).length_eq
  | analystStatements => exact (recentValues_perm hstatements).length_eq

end Candidates

/-! ## Trimming -/

section Trimming

variable {i : Interpreter} {question : String} {entities : List Json}
  {available : OptionalFact → Nat} {payload : Json} {omitted : Omitted}

/-- A sanitized packet that satisfies the invariant. -/
structure Kept (question : String) (entities : List Json) (available : OptionalFact → Nat)
    (payload : Json) (omitted : Omitted) : Prop where
  stable : Stable payload
  filled : Filled question entities available payload omitted

theorem stable_fields {pairs : List (String × Nat)} (hkeys : (pairs.map Prod.fst).Nodup)
    (hplain : ∀ key ∈ pairs.map Prod.fst, isPlainKey key = true) :
    Stable (.obj (pairs.filterMap fun (key, n) => if n = 0 then none else some (key, .int n))) := by
  have hmem : ∀ kv ∈ pairs.filterMap fun (key, n) =>
      if n = 0 then none else some (key, Json.int n), kv.1 ∈ pairs.map Prod.fst ∧
        ∃ n, kv.2 = .int n := by
    intro kv hkv
    obtain ⟨⟨key, n⟩, hpair, hsome⟩ := List.mem_filterMap.mp hkv
    dsimp only at hsome
    split at hsome
    · cases hsome
    · cases hsome
      exact ⟨List.mem_map_of_mem hpair, n, rfl⟩
  have hsublist : ((pairs.filterMap fun (key, n) =>
      if n = 0 then none else some (key, Json.int n)).map Prod.fst).Sublist (pairs.map Prod.fst) := by
    clear hmem hkeys hplain
    induction pairs with
    | nil => exact .slnil
    | cons pair rest ih =>
      obtain ⟨key, n⟩ := pair
      rw [List.filterMap_cons]
      dsimp only
      by_cases hn : n = 0
      · rw [if_pos hn]
        exact ih.cons key
      · rw [if_neg hn]
        exact ih.cons_cons key
  refine .obj _ (hkeys.sublist hsublist) (fun kv hkv => ?_) (fun kv hkv _ hsecret => ?_)
    fun kv hkv _ _ => ?_
  · exact (isPlainKey_iff.mp (hplain _ (hmem kv hkv).1)).1
  · rw [(isPlainKey_iff.mp (hplain _ (hmem kv hkv).1)).2.1] at hsecret
    cases hsecret
  · obtain ⟨-, n, hvalue⟩ := hmem kv hkv
    rw [hvalue]
    exact .int n

theorem Omitted.asJson_stable (omitted : Omitted) : Stable omitted.asJson := by
  have hkeys : ((optionalFactOrder.map fun category => (category.name, omitted.facts category)) ++
      [("entities", omitted.entities)]).map Prod.fst =
        optionalFactOrder.map OptionalFact.name ++ ["entities"] := rfl
  refine stable_fields ?_ ?_
  · rw [hkeys]
    decide
  · rw [hkeys]
    decide +kernel

theorem Omitted.setFact_self (omitted : Omitted) (category : OptionalFact) :
    omitted.setFact category (omitted.facts category) = omitted := by
  unfold Omitted.setFact
  rw [Function.update_eq_self]

theorem Kept.facts_stable (h : Kept question entities available payload omitted) :
    Stable (payload.get "facts") :=
  h.stable.get? facts_safe.plain (get?_of_isObj h.filled.facts_isObj)

theorem Kept.setBounds (h : Kept question entities available payload omitted) {key : String}
    (hkey : isPlainKey key = true) {value : Json} (hvalue : Stable value) :
    Kept question entities available (setBounds payload key value) omitted := by
  have hbounds := h.stable.get? bounds_safe.plain (get?_of_isObj h.filled.bounds_isObj)
  exact ⟨h.stable.set bounds_safe.plain (hbounds.set hkey hvalue), h.filled.setBounds key value⟩

theorem factsOf_stable (h : Kept question entities available payload omitted)
    (category : OptionalFact) : Stable (.arr (factsOf payload category)) := by
  unfold factsOf
  cases hget : (payload.get "facts").get? category.name with
  | none =>
    rw [Json.get, Json.getD, hget]
    exact .arr [] nofun
  | some value =>
    have hvalue := h.facts_stable.get? category.name_safe.plain hget
    rw [get_of_get? hget]
    cases value with
    | arr items => exact hvalue
    | _ => exact .arr [] nofun

theorem factsOf_setFacts (h : Kept question entities available payload omitted)
    (category : OptionalFact) (items : List Json) :
    factsOf (setFacts payload category.name (.arr items)) category = items := by
  unfold factsOf setFacts
  rw [get_set_self h.filled.isObj, get_set_self h.filled.facts_isObj]
  rfl

/-- The last fact of a category is taken away. -/
theorem Kept.dropFact (h : Kept question entities available payload omitted)
    {category : OptionalFact} (hcategory : category ≠ .conversationSummary)
    (hsome : 0 < (factsOf payload category).length) :
    Kept question entities available
      (setFacts payload category.name (.arr (factsOf payload category).dropLast))
      (omitted.setFact category (omitted.facts category + 1)) := by
  have hitems : Stable (.arr (factsOf payload category).dropLast) := by
    cases factsOf_stable h category with
    | arr _ hvalues => exact .arr _ fun v hv => hvalues v (List.mem_of_mem_dropLast hv)
  exact ⟨h.stable.set facts_safe.plain (h.facts_stable.set category.name_safe.plain hitems),
    h.filled.dropFact hcategory hsome⟩

theorem Kept.pop (h : Kept question entities available payload omitted) (category : OptionalFact) :
    Kept question entities available (popFacts payload category.name)
      (omitted.setFact category (available category)) := by
  refine ⟨?_, h.filled.pop category⟩
  have hstable := h.facts_stable
  unfold popFacts
  cases hfacts : payload.get "facts" with
  | obj kvs =>
    rw [hfacts] at hstable
    exact h.stable.set facts_safe.plain (hstable.sublist List.filter_sublist)
  | _ => exact h.stable

/-- The loop over the facts of a category. -/
theorem dropFacts_kept {packet : PlannerPacket} {limit : Int} {category : OptionalFact}
    (hcategory : category ≠ .conversationSummary) {n : Nat} {payload : Json} {omitted : Omitted}
    (h : Kept question entities available payload omitted)
    (hn : n ≤ (factsOf payload category).length) :
    Kept question entities available (dropFacts i packet limit category n payload omitted).1
      (dropFacts i packet limit category n payload omitted).2 := by
  induction n generalizing payload omitted with
  | zero => exact h
  | succ n ih =>
    rw [dropFacts]
    split
    · exact h
    · refine ih (h.dropFact hcategory (by omega)) ?_
      rw [factsOf_setFacts h, List.length_dropLast]
      omega

theorem trimCategory_kept (h : Kept question entities available payload omitted)
    (packet : PlannerPacket) (limit : Int) (category : OptionalFact) :
    Kept question entities available (trimCategory i packet limit category payload omitted).1
      (trimCategory i packet limit category payload omitted).2 := by
  have haccounted := h.filled.accounted category
  unfold included countOf at haccounted
  unfold trimCategory
  split
  · next hsummary =>
    have hpop := h.pop category
    rw [if_pos hsummary] at haccounted
    dsimp only
    split at haccounted
    · next hnull =>
      rw [Nat.zero_add] at haccounted
      rw [if_pos hnull]
      rwa [← haccounted, omitted.setFact_self] at hpop
    · next hsome =>
      rw [Nat.add_comm] at haccounted
      rw [if_neg hsome, haccounted]
      exact hpop
  · next hcategory =>
    have hdropped : Kept question entities available
        (dropFacts i packet limit category (factsOf payload category).length payload omitted).1
        (dropFacts i packet limit category (factsOf payload category).length payload omitted).2 :=
      dropFacts_kept hcategory h (Nat.le_refl _)
    dsimp only
    split
    · next hnone =>
      have hpop := hdropped.pop category
      have hcount := hdropped.filled.accounted category
      rw [included_list hcategory, hnone, List.length_nil, Nat.zero_add] at hcount
      rwa [← hcount, Omitted.setFact_self] at hpop
    · exact hdropped

/-- What a packet is, once it has been fitted to a profile. -/
structure Fitted (i : Interpreter) (packet : PlannerPacket) (limit : Int) (fitted : PlannerPacket) :
    Prop where
  prompt_eq : fitted.prompt = plannerPrompt i fitted.payload
  framing_eq : fitted.gatewayFramingChars = packet.gatewayFramingChars
  prompt_fits : promptSize fitted.prompt fitted.gatewayFramingChars ≤ limit

theorem fitted_withPayload {packet : PlannerPacket} {limit : Int} {payload : Json}
    (omitted : Omitted) (h : fitsProfile i packet limit payload = true) :
    Fitted i packet limit (packet.withPayload i payload limit omitted) :=
  ⟨rfl, rfl, of_decide_eq_true h⟩

/-- The loop over the categories: the packet that is returned is sanitized already, so that sanitizing it
    once more keeps its prompt. -/
theorem trimCategories_kept {packet fitted : PlannerPacket} {limit : Int}
    {categories : List OptionalFact} {payload : Json} {omitted : Omitted}
    (h : Kept question entities available payload omitted)
    (hfit : trimCategories i packet limit categories payload omitted = .ok fitted) :
    Kept question entities available fitted.payload fitted.omitted ∧ Fitted i packet limit fitted := by
  induction categories generalizing payload omitted with
  | nil =>
    rw [trimCategories] at hfit
    cases hfit
  | cons category rest ih =>
    have hkept := (trimCategory_kept (i := i) h packet limit category).setBounds
      (show isPlainKey "omitted" = true by decide +kernel)
      (Omitted.asJson_stable (trimCategory i packet limit category payload omitted).2)
    rw [trimCategories] at hfit
    split at hfit
    · next hfits =>
      obtain ⟨safe, hsafe, hfit⟩ := Checks.bind_eq_ok.mp hfit
      cases hfit
      have hsame := hkept.stable.eq_of_sanitizes (sanitizes_of_sanitizePacket hsafe)
      rw [hsame]
      exact ⟨hkept, fitted_withPayload _ hfits⟩
    · exact ih hkept hfit

theorem fitPacketToProfile_kept {packet fitted : PlannerPacket} {limit : Int}
    (h : Kept question entities available packet.payload packet.omitted)
    (hfit : fitPacketToProfile i packet limit = .ok fitted) :
    Kept question entities available fitted.payload fitted.omitted ∧ Fitted i packet limit fitted := by
  have hbounds : packet.payload.getD "bounds" (.obj []) = packet.payload.get "bounds" := by
    rw [Json.getD, get?_of_isObj h.filled.bounds_isObj]
    rfl
  have hkept := h.setBounds (show isPlainKey "max_prompt_chars" = true by decide +kernel)
    (Stable.int limit)
  unfold fitPacketToProfile at hfit
  dsimp only at hfit
  rw [hbounds] at hfit
  split at hfit
  · next hfits =>
    cases hfit
    exact ⟨hkept, fitted_withPayload _ hfits⟩
  · exact trimCategories_kept hkept hfit

end Trimming

end SiemDashboard.AgenticAnalystPlanner
