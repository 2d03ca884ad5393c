import SiemDashboard.Core.MetadataRedaction

/-!
# What redaction leaves

* **Shape** — `sanitizeItems_eq`, `redactFields_eq`.
* **Cleanness** — `Clean`, `clean_sanitizeScalar`, `sanitizeScalar_of_clean`.
* **Places** — `at?_sanitizeScalar`.
* **Result** — `Redacted`, `metadata_redacted`.
-/

namespace SiemDashboard.MetadataRedaction

open DeadLetterStore Python
open Python.Json (Inside Step)

section Laws

variable {rules : RedactionRules}

/-! ## Shape -/

theorem sanitizeItems_eq (items : List Json) :
    sanitizeItems rules items = items.map (sanitizeScalar rules) := by
  induction items with
  | nil => simp [sanitizeItems]
  | cons v items ih => rw [sanitizeItems, ih, List.map_cons]

/-- The fields that redaction keeps, with their values redacted. -/
theorem redactFields_eq (kvs : List (String × Json)) :
    redactFields rules kvs =
      (kvs.filter fun kv => !unsafeMetadataKey rules kv.1).map fun kv =>
        (kv.1, sanitizeScalar rules kv.2) := by
  induction kvs with
  | nil => simp [redactFields]
  | cons kv kvs ih =>
    rw [redactFields, ih]
    by_cases hkey : unsafeMetadataKey rules kv.1 = true
    · rw [if_pos hkey, List.filter_cons_of_neg (by simp [hkey])]
    · rw [if_neg hkey, List.filter_cons_of_pos (by simpa using hkey), List.map_cons]

/-! ## Cleanness -/

/-- A value that shows neither an unsafe key nor a text with a web address. -/
def Shows (rules : RedactionRules) : Json → Prop
  | .str s => containsUrl s = true
  | .obj kvs => ∃ kv ∈ kvs, unsafeMetadataKey rules kv.1 = true
  | _ => False

/-- Nothing that lies in the value needs redaction. -/
def Clean (rules : RedactionRules) (v : Json) : Prop := ∀ w, Inside w v → ¬ Shows rules w

theorem clean_arr {items : List Json} (h : ∀ v ∈ items, Clean rules v) : Clean rules (.arr items) := by
  intro w hinside
  cases hinside with
  | refl => exact id
  | item hitem hinside => exact h _ hitem w hinside

theorem clean_obj {kvs : List (String × Json)}
    (hkeys : ∀ kv ∈ kvs, unsafeMetadataKey rules kv.1 = false)
    (hvalues : ∀ kv ∈ kvs, Clean rules kv.2) : Clean rules (.obj kvs) := by
  intro w hinside
  cases hinside with
  | refl =>
    rintro ⟨kv, hkv, hunsafe⟩
    rw [hkeys kv hkv] at hunsafe
    cases hunsafe
  | field hfield hinside => exact hvalues _ hfield w hinside

theorem containsUrl_redactedUrl : containsUrl redactedUrl = false := by decide +kernel

/-- What redaction leaves of a text has no web address. -/
theorem containsUrl_sanitized (s : String) :
    containsUrl (if containsUrl s then redactedUrl else s) = false := by
  by_cases hurl : containsUrl s = true
  · rw [if_pos hurl]
    exact containsUrl_redactedUrl
  · rw [if_neg hurl]
    exact Bool.eq_false_iff.mpr hurl

/-- Redaction leaves nothing that needs redaction. -/
theorem clean_sanitizeScalar (v : Json) : Clean rules (sanitizeScalar rules v) := by
  induction v using Json.induct with
  | null =>
    intro w hinside
    rw [sanitizeScalar] at hinside
    cases hinside
    exact id
  | bool b =>
    intro w hinside
    rw [sanitizeScalar] at hinside
    cases hinside
    exact id
  | int n =>
    intro w hinside
    rw [sanitizeScalar] at hinside
    cases hinside
    exact id
  | float text =>
    intro w hinside
    rw [sanitizeScalar] at hinside
    cases hinside
    exact id
  | str s =>
    intro w hinside
    rw [sanitizeScalar] at hinside
    cases hinside
    exact Bool.eq_false_iff.mp (containsUrl_sanitized s)
  | arr items ih =>
    rw [sanitizeScalar, sanitizeItems_eq]
    refine clean_arr fun v hv => ?_
    obtain ⟨u, hu, rfl⟩ := List.mem_map.mp hv
    exact ih u hu
  | obj kvs ih =>
    rw [sanitizeScalar, redactFields_eq]
    refine clean_obj (fun kv hkv => ?_) fun kv hkv => ?_
    · obtain ⟨field, hfield, rfl⟩ := List.mem_map.mp hkv
      simpa using (List.mem_filter.mp hfield).2
    · obtain ⟨field, hfield, rfl⟩ := List.mem_map.mp hkv
      exact ih field (List.mem_filter.mp hfield).1

/-- What needs no redaction is left alone. -/
theorem sanitizeScalar_of_clean {v : Json} (h : Clean rules v) : sanitizeScalar rules v = v := by
  induction v using Json.induct with
  | null => rw [sanitizeScalar]
  | bool b => rw [sanitizeScalar]
  | int n => rw [sanitizeScalar]
  | float text => rw [sanitizeScalar]
  | str s =>
    have hurl : ¬ containsUrl s = true := h _ .refl
    rw [sanitizeScalar, if_neg hurl]
  | arr items ih =>
    have hitems : items.map (sanitizeScalar rules) = items := by
      calc items.map (sanitizeScalar rules) = items.map id :=
            List.map_congr_left fun v hv => ih v hv fun w hw => h w (.item hv hw)
        _ = items := List.map_id items
    rw [sanitizeScalar, sanitizeItems_eq, hitems]
  | obj kvs ih =>
    have hkeys : ∀ kv ∈ kvs, (!unsafeMetadataKey rules kv.1) = true := by
      intro kv hkv
      have hsafe : ¬ unsafeMetadataKey rules kv.1 = true := fun hunsafe =>
        h _ .refl ⟨kv, hkv, hunsafe⟩
      simpa using hsafe
    have hvalues : kvs.map (fun kv => (kv.1, sanitizeScalar rules kv.2)) = kvs := by
      calc kvs.map (fun kv => (kv.1, sanitizeScalar rules kv.2)) = kvs.map id := by
            refine List.map_congr_left fun kv hkv => ?_
            rw [ih kv hkv fun w hw => h w (.field hkv hw)]
            rfl
        _ = kvs := List.map_id kvs
    rw [sanitizeScalar, redactFields_eq, List.filter_eq_self.mpr hkeys, hvalues]

/-- Redacting twice is redacting once. -/
theorem sanitizeScalar_idem (v : Json) :
    sanitizeScalar rules (sanitizeScalar rules v) = sanitizeScalar rules v :=
  sanitizeScalar_of_clean (clean_sanitizeScalar v)

/-! ## Places -/

/-- A step that redaction leaves open. -/
def safeStep (rules : RedactionRules) : Step → Bool
  | .key k => !unsafeMetadataKey rules k
  | .index _ => true

theorem lookup_redactFields (k : String) (kvs : List (String × Json)) :
    (redactFields rules kvs).lookup k =
      if unsafeMetadataKey rules k then none else (kvs.lookup k).map (sanitizeScalar rules) := by
  induction kvs with
  | nil => simp [redactFields]
  | cons kv kvs ih =>
    rw [redactFields]
    by_cases hkey : unsafeMetadataKey rules kv.1 = true
    · rw [if_pos hkey, ih]
      by_cases hsame : k = kv.1
      · subst hsame
        rw [if_pos hkey, if_pos hkey]
      · rw [List.lookup_cons, beq_false_of_ne hsame]
    · rw [if_neg hkey, List.lookup_cons, List.lookup_cons]
      by_cases hsame : k = kv.1
      · subst hsame
        rw [if_neg hkey, beq_self_eq_true, Option.map_some]
      · rw [beq_false_of_ne hsame]
        exact ih

theorem step?_sanitizeScalar (v : Json) (step : Step) :
    (sanitizeScalar rules v).step? step =
      if safeStep rules step then (v.step? step).map (sanitizeScalar rules) else none := by
  cases step with
  | key k =>
    cases v with
    | obj kvs =>
      have hlookup := @lookup_redactFields rules k kvs
      rw [sanitizeScalar]
      show (redactFields rules kvs).lookup k = _
      rw [hlookup]
      by_cases hkey : unsafeMetadataKey rules k = true
      · simp [safeStep, hkey]
      · simp [safeStep, hkey, Json.step?, Json.get?, Json.fields]
    | _ =>
      rw [sanitizeScalar]
      simp [Json.step?, Json.get?, Json.fields]
  | index i =>
    cases v with
    | arr items =>
      rw [sanitizeScalar, sanitizeItems_eq]
      show (items.map (sanitizeScalar rules))[i]? = _
      rw [List.getElem?_map]
      rfl
    | _ =>
      rw [sanitizeScalar]
      rfl

/-- What redaction leaves at each place: nothing behind an unsafe key, and the redacted value
    elsewhere. -/
theorem at?_sanitizeScalar (v : Json) (path : List Step) :
    (sanitizeScalar rules v).at? path =
      if path.all (safeStep rules) then (v.at? path).map (sanitizeScalar rules) else none := by
  induction path generalizing v with
  | nil => rfl
  | cons step path ih =>
    rw [Json.at?_cons, Json.at?_cons, step?_sanitizeScalar, List.all_cons]
    by_cases hsafe : safeStep rules step = true
    · rw [if_pos hsafe, hsafe, Bool.true_and]
      cases v.step? step with
      | none => simp
      | some w => exact ih w
    · rw [if_neg hsafe, Bool.eq_false_iff.mpr hsafe, Bool.false_and, if_neg Bool.false_ne_true]
      rfl

end Laws

/-! ## Result -/

/-- The redacted metadata: nothing in it needs redaction, at each place it has the redacted value of that
    place unless an unsafe key leads there, what needs no redaction is the same, and redacting it again
    changes nothing. -/
structure Redacted (rules : RedactionRules) (metadata redacted : Json) : Prop where
  isObj : redacted.isObj = true
  clean : Clean rules redacted
  places : ∀ path, redacted.at? path =
    if path.all (safeStep rules) then (metadata.at? path).map (sanitizeScalar rules) else none
  kept : ∀ path w, path.all (safeStep rules) = true → metadata.at? path = some w → Clean rules w →
    redacted.at? path = some w
  keys : redacted.fields.map Prod.fst =
    (metadata.fields.map Prod.fst).filter fun key => !unsafeMetadataKey rules key
  idempotent : redactMetadata rules redacted = .ok redacted

/-- Metadata that is a dict is redacted, also where it is empty. -/
theorem redactMetadata_obj (rules : RedactionRules) (kvs : List (String × Json)) :
    redactMetadata rules (.obj kvs) = .ok (sanitizeScalar rules (.obj kvs)) := by
  unfold redactMetadata
  rw [sanitizeScalar]
  cases kvs with
  | nil => simp [Json.truthy, redactFields]
  | cons kv kvs => rfl

/-- The redaction of a dict. -/
theorem redacted_sanitizeScalar (rules : RedactionRules) (kvs : List (String × Json)) :
    Redacted rules (.obj kvs) (sanitizeScalar rules (.obj kvs)) where
  isObj := by
    rw [sanitizeScalar]
    rfl
  clean := clean_sanitizeScalar _
  places := at?_sanitizeScalar _
  kept := by
    intro path w hsafe hat hclean
    rw [at?_sanitizeScalar, if_pos hsafe, hat, Option.map_some, sanitizeScalar_of_clean hclean]
  keys := by
    rw [sanitizeScalar, redactFields_eq]
    show ((kvs.filter _).map _).map Prod.fst = (kvs.map Prod.fst).filter _
    rw [List.map_map, List.filter_map]
    rfl
  idempotent := by
    have hidem := @sanitizeScalar_idem rules (.obj kvs)
    rw [sanitizeScalar] at hidem ⊢
    rw [redactMetadata_obj, hidem]

/-- **Metadata is redacted**: the metadata of an outcome and that of a delivery, whatever dicts they are,
    are stored without an unsafe key and without a text with a web address at any depth, otherwise
    unchanged; and redacting them again changes nothing. -/
theorem metadata_redacted (kvs : List (String × Json)) :
    (∃ redacted, redactSoarOutcomeMetadata (.obj kvs) = .ok redacted ∧
      Redacted soarOutcomeRules (.obj kvs) redacted) ∧
    ∃ redacted, redactNotificationDeliveryMetadata (.obj kvs) = .ok redacted ∧
      Redacted notificationDeliveryRules (.obj kvs) redacted :=
  ⟨⟨_, redactMetadata_obj _ kvs, redacted_sanitizeScalar _ kvs⟩,
    ⟨_, redactMetadata_obj _ kvs, redacted_sanitizeScalar _ kvs⟩⟩

/-- A nested web address is replaced, and a nested token is left out. -/
example : redactSoarOutcomeMetadata
    (.obj [("attempts", .arr [.obj [("note", .str "see HTTPS://x"), ("Auth_Token", .int 1)]])]) =
    .ok (.obj [("attempts", .arr [.obj [("note", .str "[REDACTED_URL]")]])]) := by
  rfl

end SiemDashboard.MetadataRedaction
