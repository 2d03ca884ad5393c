import Mathlib.Algebra.GroupWithZero.Nat
import SiemDashboard.Lib.Checks
import SiemDashboard.Lib.Patterns
import SiemDashboard.Lib.Python

/-!
# Values of the session memory

`core/ai/session_memory_store.py`: how texts and structured values are made safe before they are stored
and again when they are read, and what a thread state must look like.

* **Errors** — `SessionMemoryError`.
* **Texts** — `sanitizeText`, and `sanitizeString` inside a structured value.
* **Structured values** — `sanitizeValue`, `equal` (`==`), `encodedLength` (the length of `json.dumps`),
  `sanitizeStructuredValue`.
* **Thread states** — `validateThreadState`.
-/

namespace SiemDashboard.SessionMemory

open Python Patterns

/-! ## Errors -/

/-- What the functions raise. -/
inductive SessionMemoryError where
  /-- `SessionMemoryValidationError` -/
  | validation (message : String)
  /-- `ThreadNotFoundError` -/
  | notFound (message : String)
  /-- `ThreadExpiredError` -/
  | expired
  /-- `ThreadClosedError` -/
  | closed (message : String)
  /-- `ThreadVersionConflictError` -/
  | versionConflict (message : String)
  /-- `ThreadExecutionInProgressError` -/
  | executionInProgress
  /-- A list or a dict is looked up in a set. -/
  | typeError
  /-- A statement that the database rejects. -/
  | integrity
deriving DecidableEq, Repr

/-! ## Texts -/

/-- `MAX_CONTENT_CHARS`. -/
@[irreducible] def maxContentChars : Nat := 8000

/-- `MAX_JSON_CHARS`. -/
@[irreducible] def maxJsonChars : Nat := 32768

/-- `MAX_JSON_DEPTH`. -/
def maxJsonDepth : Nat := 6

/-- `MAX_COLLECTION_ITEMS`. -/
def maxCollectionItems : Nat := 100

/-- How much of a string inside a structured value, and of a summary, is kept. -/
@[irreducible] def maxStringChars : Nat := 4000

/-- `_CONTROL_CHARS`. -/
def isControl (c : Char) : Bool :=
  let n := c.toNat
  n ≤ 8 || n == 11 || n == 12 || (14 ≤ n && n ≤ 31) || n == 127

/-- A letter of a pattern without case: beside its two cases it takes the long s for an s, and the
    dotted and the dotless i for an i. -/
def letter (a : Char) : Atom Char :=
  .one fun c => lowerChar c = a || a = 's' && c.toNat = 0x17F ||
    a = 'i' && (c.toNat = 0x130 || c.toNat = 0x131)

/-- A word of a pattern. -/
def word (text : String) : List (Atom Char) :=
  text.toList.map fun a => if a.isAlpha then letter a else .one fun c => c = a

/-- `\s+`. -/
def spaces : List (Atom Char) := [.one isSpace, .many isSpace]

/-- `_CONTROL_MARKERS`. -/
def controlMarkers : List (List (Atom Char)) :=
  ["</system>", "<system>", "</assistant>", "<assistant>", "[/inst]", "[inst]", "<</sys>>",
      "<<sys>>"].map word ++
    [("system", "prompt"), ("system", "message"), ("developer", "prompt"),
      ("developer", "message")].map fun (who, what) =>
        word "begin" ++ spaces ++ word who ++ spaces ++ word what

/-- What stands in place of a marker, after its first character. -/
def storedUntrustedTail : List Char := "stored-untrusted-control-text]".toList

/-- `_CONTROL_MARKERS.sub("[stored-untrusted-control-text]", …)`. -/
def replaceMarkers (cs : List Char) : List Char :=
  substitute controlMarkers ('[' :: storedUntrustedTail) cs

/-- `_CONTROL_CHARS.sub("", …)`. -/
def removeControls (cs : List Char) : List Char := cs.filter fun c => !isControl c

/-- `sanitize_text`. -/
def sanitizeText (value fieldName : String) (maxChars : Nat) : Except SessionMemoryError String :=
  let text := replaceMarkers (stripChars (removeControls value.toList))
  if text = [] then .error (.validation s!"{fieldName} is required.")
  else if text.length > maxChars then .error (.validation s!"{fieldName} is too large.")
  else .ok (String.ofList text)

/-- A string inside a structured value. -/
def sanitizeString (s : String) : String :=
  String.ofList ((replaceMarkers (removeControls s.toList)).take maxStringChars)

/-! ## Structured values -/

/-- `_SENSITIVE_KEY_PARTS`. -/
def sensitiveKeyParts : List String :=
  [ "authorization", "cookie", "password", "passwd", "secret", "token", "api_key", "apikey",
    "private_key", "webhook" ]

/-- `_SAFE_TOKEN_USAGE_COUNT_KEYS`. -/
def safeTokenUsageCountKeys : List String := ["prompt_tokens", "completion_tokens"]

/-- `str(key)[:128]`. -/
def keyText (key : String) : String := String.ofList (key.toList.take 128)

/-- `key_text.lower().replace("-", "_")`. -/
def normalizedKey (key : String) : String := replaceChar '-' "_" (lower key)

/-- `_is_safe_token_usage_count`. -/
def isSafeTokenUsageCount (key : String) (value : Json) : Bool :=
  match value with
  | .int n => safeTokenUsageCountKeys.contains (normalizedKey key) && 0 ≤ n
  | _ => false

/-- Some sensitive part occurs in the key. -/
def isSensitiveKey (key : String) : Bool :=
  sensitiveKeyParts.any fun part => decide (part.toList <:+: (normalizedKey key).toList)

mutual

/-- `_sanitize_value`. -/
def sanitizeValue (depth : Nat) (v : Json) : Except SessionMemoryError Json :=
  if depth > maxJsonDepth then .error (.validation "structured value is nested too deeply.")
  else
    match v with
    | .str s => .ok (.str (sanitizeString s))
    | .obj kvs =>
      if kvs.length > maxCollectionItems then
        .error (.validation "structured object has too many fields.")
      else (sanitizeFields (depth + 1) [] kvs).map .obj
    | .arr items =>
      if items.length > maxCollectionItems then
        .error (.validation "structured list has too many items.")
      else (sanitizeItems (depth + 1) items).map .arr
    | .null | .bool _ | .int _ | .float _ => .ok v

def sanitizeItems (depth : Nat) : List Json → Except SessionMemoryError (List Json)
  | [] => .ok []
  | v :: rest => do
    let w ← sanitizeValue depth v
    let ws ← sanitizeItems depth rest
    return w :: ws

/-- The fields of a dict, added to those that are done. -/
def sanitizeFields (depth : Nat) (result : List (String × Json)) :
    List (String × Json) → Except SessionMemoryError (List (String × Json))
  | [] => .ok result
  | (key, child) :: rest =>
    if isSafeTokenUsageCount (keyText key) child then
      sanitizeFields depth (Json.setField (keyText key) child result) rest
    else if isSensitiveKey (keyText key) then
      sanitizeFields depth (Json.setField (keyText key) (.str "[REDACTED]") result) rest
    else do
      let w ← sanitizeValue depth child
      sanitizeFields depth (Json.setField (keyText key) w result) rest

end

section

variable (py : Python)

mutual

/-- `v == w`. -/
def equal : Json → Json → Bool
  | .null, w => w.isNull
  | .str s, w => w.str? = some s
  | .arr items, w =>
    match w with
    | .arr others => equalItems items others
    | _ => false
  | .obj kvs, w =>
    match w with
    | .obj others => kvs.length = others.length && equalFields kvs others
    | _ => false
  | v, w =>
    match v.int?, w.int? with
    | some n, some m => n = m
    | _, _ => py.compare v w matches .ok (some .eq)

/-- The items of two lists. -/
def equalItems : List Json → List Json → Bool
  | [], others => others.isEmpty
  | v :: rest, others =>
    match others with
    | [] => false
    | w :: others => equal v w && equalItems rest others

/-- The fields of a dict, in another one. -/
def equalFields : List (String × Json) → List (String × Json) → Bool
  | [], _ => true
  | (key, v) :: rest, others =>
    (match others.lookup key with
      | some w => equal v w
      | none => false) && equalFields rest others

end

end

/-- The length of a character in a JSON string with `ensure_ascii`. -/
def encodedCharLength (c : Char) : Nat :=
  let n := c.toNat
  if c = '"' || c = '\\' || c = '\n' || c = '\r' || c = '\t' || n = 8 || n = 12 then 2
  else if 32 ≤ n && n ≤ 126 then 1
  else if n < 0x10000 then 6
  else 12

/-- The length of a JSON string. -/
def encodedStringLength (s : String) : Nat := 2 + (s.toList.map encodedCharLength).sum

mutual

/-- `len(json.dumps(v, sort_keys=True, separators=(",", ":")))`. -/
def encodedLength : Json → Nat
  | .null => 4
  | .bool b => if b then 4 else 5
  | .int n => (toString n).length
  | .float text => if text = "inf" then 8 else if text = "-inf" then 9 else text.length
  | .str s => encodedStringLength s
  | .arr items => 2 + encodedItemsLength items + (items.length - 1)
  | .obj kvs => 2 + encodedFieldsLength kvs + (kvs.length - 1)

/-- The items of a list, without the commas. -/
def encodedItemsLength : List Json → Nat
  | [] => 0
  | v :: rest => encodedLength v + encodedItemsLength rest

/-- The fields of a dict, without the commas. -/
def encodedFieldsLength : List (String × Json) → Nat
  | [] => 0
  | (key, v) :: rest => encodedStringLength key + 1 + encodedLength v + encodedFieldsLength rest

end

/-- `sanitize_structured_value`. -/
def sanitizeStructuredValue (value : Json) (fieldName : String) : Except SessionMemoryError Json := do
  let sanitized ← sanitizeValue 0 value
  if encodedLength sanitized > maxJsonChars then
    .error (.validation s!"{fieldName} is too large.")
  else .ok sanitized

/-! ## Thread states -/

/-- The fields of a thread state. -/
def stateFields : List String :=
  [ "schema_version", "conclusions", "unresolved_questions", "recommendations", "corrections",
    "compact_summary", "rebuild_metadata", "rebuild_required" ]

/-- The lists of a thread state, with the assertion types that their entries may have. -/
def permittedAssertions : List (String × List String) :=
  [ ("conclusions", ["analyst_statement", "model_inference", "correction"]),
    ("unresolved_questions", ["unresolved_question"]),
    ("recommendations", ["analyst_statement", "model_inference"]),
    ("corrections", ["correction"]) ]

/-- The confidences of an inference. -/
def confidences : List String := ["low", "medium", "high"]

/-- `value in {"low", "medium", "high"}`. -/
def isConfidence (value : Json) : Except SessionMemoryError Bool :=
  match inSet value confidences with
  | .ok b => .ok b
  | .error _ => .error .typeError

section

variable (py : Python)

/-- `str(value or "")`. -/
def textOf (value : Json) : String := py.str (value.orElse (.str ""))

/-- The checks on an entry of a list. -/
def validateEntry (field : String) (permitted : List String) (item : Json) :
    Except SessionMemoryError Unit :=
  if !item.isObj then .error (.validation s!"state.{field} entries must be objects.")
  else
    let assertion := strip (textOf py (item.get "assertion_type"))
    if !permitted.contains assertion then
      .error (.validation s!"state.{field} has invalid assertion_type.")
    else if assertion ≠ "model_inference" then .ok ()
    else do
      if !(← isConfidence (item.get "confidence")) then
        .error (.validation s!"state.{field} model inference requires confidence.")
      else if !(item.get "provenance").truthy then
        .error (.validation s!"state.{field} model inference requires provenance.")
      else .ok ()

/-- The checks on a list. -/
def validateEntries (sanitized : Json) (field : String) (permitted : List String) :
    Except SessionMemoryError Unit :=
  match sanitized.getD field (.arr []) with
  | .arr items => items.forM (validateEntry py field permitted)
  | _ => .error (.validation s!"state.{field} must be a list.")

/-- The check on the schema version. -/
def validateSchemaVersion (sanitized : Json) : Except SessionMemoryError Unit :=
  match sanitized.getD "schema_version" (.int 1) with
  | .int n =>
    if n ≤ 0 then .error (.validation "state.schema_version must be a positive integer.") else .ok ()
  | _ => .error (.validation "state.schema_version must be a positive integer.")

/-- The summary is sanitized as a text. -/
def sanitizeSummary (sanitized : Json) : Except SessionMemoryError Json :=
  let summary := sanitized.get "compact_summary"
  if summary.isNull then .ok sanitized
  else do
    let text ← sanitizeText (textOf py summary) "state.compact_summary" maxStringChars
    return sanitized.set "compact_summary" (.str text)

/-- `validate_thread_state`. -/
def validateThreadState (value : Json) : Except SessionMemoryError Json :=
  if !value.isObj then .error (.validation "state must be an object.")
  else
    let unknown := (value.fields.map Prod.fst).filter fun key => !stateFields.contains key
    let names := ", ".intercalate (unknown.mergeSort fun a b => decide (a ≤ b))
    if unknown ≠ [] then .error (.validation s!"state contains unsupported fields: {names}.")
    else do
      let sanitized ← sanitizeStructuredValue value "state"
      permittedAssertions.forM fun (field, permitted) => validateEntries py sanitized field permitted
      validateSchemaVersion sanitized
      if !(sanitized.getD "rebuild_metadata" (.obj [])).isObj then
        .error (.validation "state.rebuild_metadata must be an object.")
      else sanitizeSummary py sanitized

end

/-! ## Sanitized texts -/

theorem controlMarkers_foreign : Foreign controlMarkers '[' storedUntrustedTail := by
  unfold Foreign
  decide +kernel

/-- A text that sanitizing leaves as it is, but for its length. -/
structure CleanText (cs : List Char) : Prop where
  noControl : ∀ c ∈ cs, isControl c = false
  free : Free controlMarkers cs

theorem CleanText.part {part cs : List Char} (h : CleanText cs) (hpart : part <:+: cs) :
    CleanText part :=
  ⟨fun c hc => h.noControl c (hpart.subset hc), h.free.part hpart⟩

theorem CleanText.removeControls {cs : List Char} (h : CleanText cs) : removeControls cs = cs := by
  unfold SessionMemory.removeControls
  rw [List.filter_eq_self]
  intro c hc
  rw [h.noControl c hc]
  rfl

theorem CleanText.replaceMarkers {cs : List Char} (h : CleanText cs) : replaceMarkers cs = cs :=
  substitute_of_free h.free

/-- Without control characters, a text is clean once its markers are replaced. -/
theorem cleanText_replaceMarkers {cs : List Char} (h : ∀ c ∈ cs, isControl c = false) :
    CleanText (replaceMarkers cs) := by
  refine ⟨fun c hc => ?_, free_substitute controlMarkers_foreign⟩
  rcases mem_substituteFrom hc with hc | hc
  · have htext : (('[' :: storedUntrustedTail).all fun c => !isControl c) = true := by
      decide +kernel
    simpa using List.all_eq_true.mp htext c hc
  · exact h c hc

theorem noControl_removeControls (cs : List Char) : ∀ c ∈ removeControls cs, isControl c = false := by
  intro c hc
  simpa using (List.mem_filter.mp hc).2

theorem cleanText_sanitizeString (s : String) : CleanText (sanitizeString s).toList := by
  unfold sanitizeString
  rw [String.toList_ofList]
  exact (cleanText_replaceMarkers (noControl_removeControls s.toList)).part
    (List.take_prefix _ _).isInfix

/-- A clean text that is not too long stays as it is. -/
theorem CleanText.sanitizeString {s : String} (h : CleanText s.toList) (hs : s.length ≤ maxStringChars) :
    sanitizeString s = s := by
  unfold SessionMemory.sanitizeString
  rw [h.removeControls, h.replaceMarkers, List.take_of_length_le (by rwa [String.length_toList]),
    String.ofList_toList]

theorem sanitizeString_length (s : String) : (sanitizeString s).length ≤ maxStringChars := by
  unfold sanitizeString
  rw [String.length_ofList, List.length_take]
  exact Nat.min_le_left _ _

theorem sanitizeString_idem (s : String) : sanitizeString (sanitizeString s) = sanitizeString s :=
  (cleanText_sanitizeString s).sanitizeString (sanitizeString_length s)

/-- Some character is no whitespace. -/
def visible (cs : List Char) : Bool := cs.any fun c => !isSpace c

theorem stripChars_visible {cs : List Char} (h : stripChars cs ≠ []) :
    visible (stripChars cs) = true := by
  have hlast : ¬ isSpace ((stripChars cs).getLast h) = true := List.rdropWhile_last_not isSpace _ h
  rw [visible, List.any_eq_true]
  exact ⟨_, List.getLast_mem h, by simpa using hlast⟩

/-- Replacing markers leaves something visible no later in the text. -/
theorem visible_take_replaceMarkers {cs : List Char} {n : Nat} (hn : cs.length ≤ n)
    (h : visible cs = true) : visible ((replaceMarkers cs).take n) = true :=
  substitute_take_any (p := fun c => !isSpace c) (by decide) hn h

/-- What `sanitize_text` returns. -/
theorem sanitizeText_eq_ok {value fieldName text : String} {maxChars : Nat}
    (h : sanitizeText value fieldName maxChars = .ok text) :
    CleanText text.toList ∧ text.length ≤ maxChars ∧ visible text.toList = true := by
  unfold sanitizeText at h
  dsimp only at h
  split at h
  · cases h
  · next hnonempty =>
    split at h
    · cases h
    · next hlength =>
      cases h
      rw [String.toList_ofList, String.length_ofList]
      have hcontrol : ∀ c ∈ stripChars (removeControls value.toList), isControl c = false :=
        fun c hc => noControl_removeControls _ c ((stripChars_isInfix _).subset hc)
      refine ⟨cleanText_replaceMarkers hcontrol, Nat.not_lt.mp hlength, ?_⟩
      have hstripped : stripChars (removeControls value.toList) ≠ [] := by
        intro hnil
        rw [hnil] at hnonempty
        exact hnonempty rfl
      have hvisible := visible_take_replaceMarkers (Nat.le_refl _) (stripChars_visible hstripped)
      rw [visible, List.any_eq_true] at hvisible ⊢
      obtain ⟨c, hc, hspace⟩ := hvisible
      exact ⟨c, List.mem_of_mem_take hc, hspace⟩

/-- When `sanitize_text` accepts a text that is clean already: it strips it. -/
theorem CleanText.sanitizeText {cs : List Char} (h : CleanText cs) (hvisible : visible cs = true)
    {fieldName : String} {maxChars : Nat} (hcs : cs.length ≤ maxChars) :
    sanitizeText (String.ofList cs) fieldName maxChars = .ok (String.ofList (stripChars cs)) := by
  have hstripped := h.part (stripChars_isInfix cs)
  have hnonempty : stripChars cs ≠ [] := by
    have := strip_ne_empty (s := String.ofList cs) (by rwa [String.toList_ofList])
    intro hnil
    rw [strip, String.toList_ofList, hnil] at this
    exact this rfl
  unfold SessionMemory.sanitizeText
  rw [String.toList_ofList, h.removeControls, hstripped.replaceMarkers]
  dsimp only
  rw [if_neg hnonempty, if_neg]
  exact Nat.not_lt.mpr ((stripChars_isInfix cs).length_le.trans hcs)

/-! ## Sanitized values -/

/-- A value that sanitizing leaves as it is wherever it accepts it. -/
inductive Stable : Json → Prop where
  | null : Stable .null
  | bool (b : Bool) : Stable (.bool b)
  | int (n : Int) : Stable (.int n)
  | float (text : String) : Stable (.float text)
  | str (s : String) (h : sanitizeString s = s) : Stable (.str s)
  | arr (items : List Json) (h : ∀ v ∈ items, Stable v) : Stable (.arr items)
  | obj (kvs : List (String × Json)) (hkeys : (kvs.map Prod.fst).Nodup)
      (htext : ∀ kv ∈ kvs, keyText kv.1 = kv.1)
      (hsecret : ∀ kv ∈ kvs, isSafeTokenUsageCount kv.1 kv.2 = false → isSensitiveKey kv.1 = true →
        kv.2 = .str "[REDACTED]")
      (hvalue : ∀ kv ∈ kvs, isSafeTokenUsageCount kv.1 kv.2 = false → isSensitiveKey kv.1 = false →
        Stable kv.2) : Stable (.obj kvs)

theorem keyText_keyText (key : String) : keyText (keyText key) = keyText key := by
  unfold keyText
  rw [String.toList_ofList, List.take_take, Nat.min_self]

theorem Stable.obj_nil : Stable (.obj []) := .obj [] List.nodup_nil nofun nofun nofun

/-- A field that is written to a stable dict, as `_sanitize_value` writes it. -/
theorem Stable.setField {kvs : List (String × Json)} (h : Stable (.obj kvs)) (key : String)
    {value : Json}
    (hvalue : isSafeTokenUsageCount (keyText key) value = true ∨
      isSensitiveKey (keyText key) = true ∧ value = .str "[REDACTED]" ∨
      isSensitiveKey (keyText key) = false ∧ Stable value) :
    Stable (.obj (Json.setField (keyText key) value kvs)) := by
  cases h with
  | obj _ hkeys htext hsecret hstable =>
    refine .obj _ (Json.nodup_setField hkeys) (fun kv hkv => ?_) (fun kv hkv hsafe hkey => ?_)
      fun kv hkv hsafe hkey => ?_
    · rcases Json.mem_setField hkv with rfl | hkv
      · exact keyText_keyText key
      · exact htext kv hkv
    · rcases Json.mem_setField hkv with rfl | hkv
      · rcases hvalue with hvalue | hvalue | hvalue
        · rw [hvalue] at hsafe
          cases hsafe
        · exact hvalue.2
        · rw [hvalue.1] at hkey
          cases hkey
      · exact hsecret kv hkv hsafe hkey
    · rcases Json.mem_setField hkv with rfl | hkv
      · rcases hvalue with hvalue | hvalue | hvalue
        · rw [hvalue] at hsafe
          cases hsafe
        · rw [hvalue.1] at hkey
          cases hkey
        · exact hvalue.2
      · exact hstable kv hkv hsafe hkey

/-- The items of a list that has been sanitized. -/
theorem sanitizeItems_forall {P : Json → Prop} {depth : Nat} {items ws : List Json}
    (hP : ∀ v ∈ items, ∀ w, sanitizeValue depth v = .ok w → P w)
    (h : sanitizeItems depth items = .ok ws) : ∀ w ∈ ws, P w := by
  induction items generalizing ws with
  | nil =>
    cases h
    exact nofun
  | cons v rest ih =>
    obtain ⟨hv, hrest⟩ := List.forall_mem_cons.mp hP
    rw [sanitizeItems] at h
    obtain ⟨w, hw, h⟩ := Checks.bind_eq_ok.mp h
    obtain ⟨ws', hws, h⟩ := Checks.bind_eq_ok.mp h
    cases h
    exact List.forall_mem_cons.mpr ⟨hv w hw, ih hrest hws⟩

/-- The fields of a dict that has been sanitized. -/
theorem sanitizeFields_stable {depth : Nat} {kvs result out : List (String × Json)}
    (hkvs : ∀ kv ∈ kvs, ∀ w, sanitizeValue depth kv.2 = .ok w → Stable w)
    (hresult : Stable (.obj result)) (h : sanitizeFields depth result kvs = .ok out) :
    Stable (.obj out) := by
  induction kvs generalizing result with
  | nil =>
    rw [sanitizeFields] at h
    cases h
    exact hresult
  | cons kv rest ih =>
    obtain ⟨hkv, hrest⟩ := List.forall_mem_cons.mp hkvs
    rw [sanitizeFields] at h
    split at h
    · next hsafe => exact ih hrest (hresult.setField _ (.inl hsafe)) h
    · split at h
      · next hkey => exact ih hrest (hresult.setField _ (.inr (.inl ⟨hkey, rfl⟩))) h
      · next hkey =>
        obtain ⟨w, hw, h⟩ := Checks.bind_eq_ok.mp h
        have hkey : isSensitiveKey (keyText kv.1) = false := by simpa using hkey
        exact ih hrest (hresult.setField _ (.inr (.inr ⟨hkey, hkv w hw⟩))) h

/-- What has been sanitized is stable. -/
theorem sanitizeValue_stable {depth : Nat} {v w : Json} (h : sanitizeValue depth v = .ok w) :
    Stable w := by
  induction v using Json.induct generalizing depth w with
  | null | bool | int | float =>
    rw [sanitizeValue] at h
    split at h
    · cases h
    · cases h
      constructor
  | str s =>
    rw [sanitizeValue] at h
    split at h
    · cases h
    · cases h
      exact .str _ (sanitizeString_idem s)
  | arr items ih =>
    rw [sanitizeValue] at h
    split at h
    · cases h
    · split at h
      · cases h
      · obtain ⟨ws, hws, rfl⟩ := Checks.map_eq_ok.mp h
        exact .arr ws (sanitizeItems_forall (fun v hv w hw => ih v hv hw) hws)
  | obj kvs ih =>
    rw [sanitizeValue] at h
    split at h
    · cases h
    · split at h
      · cases h
      · obtain ⟨out, hout, rfl⟩ := Checks.map_eq_ok.mp h
        exact sanitizeFields_stable (fun kv hkv w hw => ih kv hkv hw) .obj_nil hout

/-- The fields of a dict whose keys sanitizing leaves as they are. -/
theorem sanitizeFields_map {depth : Nat} {kvs result : List (String × Json)}
    {f : String × Json → Json}
    (hkeys : ((result ++ kvs).map Prod.fst).Nodup) (htext : ∀ kv ∈ kvs, keyText kv.1 = kv.1)
    (hsecret : ∀ kv ∈ kvs, isSafeTokenUsageCount kv.1 kv.2 = false → isSensitiveKey kv.1 = true →
      f kv = .str "[REDACTED]")
    (hsafe : ∀ kv ∈ kvs, isSafeTokenUsageCount kv.1 kv.2 = true → f kv = kv.2)
    (hvalue : ∀ kv ∈ kvs, isSafeTokenUsageCount kv.1 kv.2 = false → isSensitiveKey kv.1 = false →
      sanitizeValue depth kv.2 = .ok (f kv)) :
    sanitizeFields depth result kvs = .ok (result ++ kvs.map fun kv => (kv.1, f kv)) := by
  induction kvs generalizing result with
  | nil => rw [sanitizeFields, List.map_nil, List.append_nil]
  | cons kv rest ih =>
    obtain ⟨hkv, hrest⟩ := List.forall_mem_cons.mp htext
    have hnew : kv.1 ∉ result.map Prod.fst := by
      rw [List.map_append, List.map_cons, List.nodup_append] at hkeys
      exact fun hmem => hkeys.2.2 _ hmem _ List.mem_cons_self rfl
    have hnext : sanitizeFields depth (result ++ [(kv.1, f kv)]) rest =
        .ok (result ++ (kv :: rest).map fun kv => (kv.1, f kv)) := by
      rw [ih _ hrest (fun kv hkv => hsecret kv (List.mem_cons_of_mem _ hkv))
        (fun kv hkv => hsafe kv (List.mem_cons_of_mem _ hkv))
        fun kv hkv => hvalue kv (List.mem_cons_of_mem _ hkv)]
      · rw [List.append_assoc]
        rfl
      · rw [List.append_assoc]
        simpa using hkeys
    rw [sanitizeFields, hkv]
    cases hcount : isSafeTokenUsageCount kv.1 kv.2 with
    | true =>
      rw [if_pos rfl, Json.setField_of_not_mem hnew, ← hnext, hsafe kv List.mem_cons_self hcount]
    | false =>
      rw [if_neg (by simp)]
      cases hkey : isSensitiveKey kv.1 with
      | true =>
        rw [if_pos rfl, Json.setField_of_not_mem hnew, ← hnext,
          hsecret kv List.mem_cons_self hcount hkey]
      | false =>
        rw [if_neg (by simp), hvalue kv List.mem_cons_self hcount hkey, ← hnext]
        simp only [bind, Except.bind]
        rw [Json.setField_of_not_mem hnew]

/-- The fields of a dict that are left as they are. -/
theorem sanitizeFields_fixed {depth : Nat} {kvs result out : List (String × Json)}
    (hkeys : ((result ++ kvs).map Prod.fst).Nodup) (htext : ∀ kv ∈ kvs, keyText kv.1 = kv.1)
    (hsecret : ∀ kv ∈ kvs, isSafeTokenUsageCount kv.1 kv.2 = false → isSensitiveKey kv.1 = true →
      kv.2 = .str "[REDACTED]")
    (hvalue : ∀ kv ∈ kvs, isSafeTokenUsageCount kv.1 kv.2 = false → isSensitiveKey kv.1 = false →
      ∀ w, sanitizeValue depth kv.2 = .ok w → w = kv.2)
    (h : sanitizeFields depth result kvs = .ok out) : out = result ++ kvs := by
  induction kvs generalizing result with
  | nil =>
    rw [sanitizeFields] at h
    cases h
    exact (List.append_nil _).symm
  | cons kv rest ih =>
    have hnew : kv.1 ∉ result.map Prod.fst := by
      rw [List.map_append, List.map_cons, List.nodup_append] at hkeys
      exact fun hmem => hkeys.2.2 _ hmem _ List.mem_cons_self rfl
    have hnext (h : sanitizeFields depth (Json.setField kv.1 kv.2 result) rest = .ok out) :
        out = result ++ kv :: rest := by
      rw [Json.setField_of_not_mem hnew] at h
      rw [ih _ (fun kv hkv => htext kv (List.mem_cons_of_mem _ hkv))
        (fun kv hkv => hsecret kv (List.mem_cons_of_mem _ hkv))
        (fun kv hkv => hvalue kv (List.mem_cons_of_mem _ hkv)) h, List.append_assoc]
      · rfl
      · rw [List.append_assoc]
        simpa using hkeys
    rw [sanitizeFields, htext kv List.mem_cons_self] at h
    cases hcount : isSafeTokenUsageCount kv.1 kv.2 with
    | true =>
      rw [hcount, if_pos rfl] at h
      exact hnext h
    | false =>
      rw [hcount, if_neg (by simp)] at h
      cases hkey : isSensitiveKey kv.1 with
      | true =>
        rw [hkey, if_pos rfl, ← hsecret kv List.mem_cons_self hcount hkey] at h
        exact hnext h
      | false =>
        rw [hkey, if_neg (by simp)] at h
        obtain ⟨w, hw, h⟩ := Checks.bind_eq_ok.mp h
        rw [hvalue kv List.mem_cons_self hcount hkey w hw] at h
        exact hnext h

/-- The items of a list that are left as they are. -/
theorem sanitizeItems_fixed {depth : Nat} {items ws : List Json}
    (hitems : ∀ v ∈ items, ∀ w, sanitizeValue depth v = .ok w → w = v)
    (h : sanitizeItems depth items = .ok ws) : ws = items := by
  induction items generalizing ws with
  | nil =>
    cases h
    rfl
  | cons v rest ih =>
    obtain ⟨hv, hrest⟩ := List.forall_mem_cons.mp hitems
    rw [sanitizeItems] at h
    obtain ⟨w, hw, h⟩ := Checks.bind_eq_ok.mp h
    obtain ⟨ws', hws, h⟩ := Checks.bind_eq_ok.mp h
    cases h
    rw [hv w hw, ih hrest hws]

/-- Sanitizing leaves a stable value as it is, at whatever depth it accepts it. -/
theorem Stable.sanitizeValue {v w : Json} (hv : Stable v) {depth : Nat}
    (h : sanitizeValue depth v = .ok w) : w = v := by
  induction hv generalizing depth w with
  | null | bool | int | float =>
    rw [SessionMemory.sanitizeValue] at h
    split at h
    · cases h
    · cases h
      rfl
  | str s hs =>
    rw [SessionMemory.sanitizeValue] at h
    split at h
    · cases h
    · cases h
      rw [hs]
  | arr items _ ih =>
    rw [SessionMemory.sanitizeValue] at h
    split at h
    · cases h
    · split at h
      · cases h
      · obtain ⟨ws, hws, rfl⟩ := Checks.map_eq_ok.mp h
        rw [sanitizeItems_fixed (fun v hv w hw => ih v hv hw) hws]
  | obj kvs hkeys htext hsecret _ ih =>
    rw [SessionMemory.sanitizeValue] at h
    split at h
    · cases h
    · split at h
      · cases h
      · obtain ⟨out, hout, rfl⟩ := Checks.map_eq_ok.mp h
        have hsame : out = [] ++ kvs := sanitizeFields_fixed hkeys htext hsecret
          (fun kv hkv hcount hkey w hw => ih kv hkv hcount hkey hw) hout
        rw [hsame]
        rfl

/-! ## Fixed values -/

/-- Sanitizing accepts the value and leaves it as it is. -/
def Fixed (depth : Nat) (v : Json) : Prop := sanitizeValue depth v = .ok v

theorem sanitizeItems_length {depth : Nat} {items ws : List Json}
    (h : sanitizeItems depth items = .ok ws) : ws.length = items.length := by
  induction items generalizing ws with
  | nil =>
    cases h
    rfl
  | cons v rest ih =>
    rw [sanitizeItems] at h
    obtain ⟨w, -, h⟩ := Checks.bind_eq_ok.mp h
    obtain ⟨ws', hws, h⟩ := Checks.bind_eq_ok.mp h
    cases h
    rw [List.length_cons, List.length_cons, ih hws]

theorem sanitizeItems_eq_self {depth : Nat} {items : List Json} :
    sanitizeItems depth items = .ok items ↔ ∀ v ∈ items, Fixed depth v := by
  induction items with
  | nil => simp [sanitizeItems]
  | cons v rest ih =>
    rw [List.forall_mem_cons, ← ih, sanitizeItems]
    constructor
    · intro h
      obtain ⟨w, hw, h⟩ := Checks.bind_eq_ok.mp h
      obtain ⟨ws, hws, h⟩ := Checks.bind_eq_ok.mp h
      cases h
      exact ⟨hw, hws⟩
    · intro ⟨hv, hrest⟩
      rw [show sanitizeValue depth v = .ok v from hv, hrest]
      rfl

/-- What holds of every field that is written holds of every field of the result. -/
theorem sanitizeFields_forall {P : String × Json → Prop} {depth : Nat}
    {kvs result out : List (String × Json)} (hresult : ∀ kv ∈ result, P kv)
    (hcount : ∀ key v, isSafeTokenUsageCount key v = true → P (key, v))
    (hsecret : ∀ key, isSensitiveKey key = true → P (key, .str "[REDACTED]"))
    (hvalue : ∀ kv ∈ kvs, ∀ w, sanitizeValue depth kv.2 = .ok w → P (keyText kv.1, w))
    (h : sanitizeFields depth result kvs = .ok out) : ∀ kv ∈ out, P kv := by
  induction kvs generalizing result with
  | nil =>
    rw [sanitizeFields] at h
    cases h
    exact hresult
  | cons kv rest ih =>
    obtain ⟨hkv, hrest⟩ := List.forall_mem_cons.mp hvalue
    have hwritten {w : Json} (hw : P (keyText kv.1, w)) :
        ∀ other ∈ Json.setField (keyText kv.1) w result, P other := by
      intro other hother
      rcases Json.mem_setField hother with rfl | hother
      · exact hw
      · exact hresult other hother
    rw [sanitizeFields] at h
    split at h
    · next hsafe => exact ih (hwritten (hcount _ _ hsafe)) hrest h
    · split at h
      · next hkey => exact ih (hwritten (hsecret _ hkey)) hrest h
      · obtain ⟨w, hw, h⟩ := Checks.bind_eq_ok.mp h
        exact ih (hwritten (hkv w hw)) hrest h

theorem sanitizeFields_length {depth : Nat} {kvs result out : List (String × Json)}
    (h : sanitizeFields depth result kvs = .ok out) : out.length ≤ result.length + kvs.length := by
  induction kvs generalizing result with
  | nil =>
    rw [sanitizeFields] at h
    cases h
    exact Nat.le_refl _
  | cons kv rest ih =>
    have hwritten {w : Json}
        (h : sanitizeFields depth (Json.setField (keyText kv.1) w result) rest = .ok out) :
        out.length ≤ result.length + (kv :: rest).length := by
      have hlength := Json.setField_length (keyText kv.1) w result
      have hout := ih h
      rw [List.length_cons]
      omega
    rw [sanitizeFields] at h
    split at h
    · exact hwritten h
    · split at h
      · exact hwritten h
      · obtain ⟨w, -, h⟩ := Checks.bind_eq_ok.mp h
        exact hwritten h

/-- What has been sanitized is accepted as it is. -/
theorem sanitizeValue_fixed {depth : Nat} {v w : Json} (h : sanitizeValue depth v = .ok w) :
    Fixed depth w := by
  have hstable := sanitizeValue_stable h
  induction v using Json.induct generalizing depth w with
  | null | bool | int | float =>
    have hw := h
    rw [sanitizeValue] at hw
    split at hw
    · cases hw
    · cases hw
      exact h
  | str s =>
    unfold Fixed
    rw [sanitizeValue] at h
    split at h
    · cases h
    · next hdepth =>
      cases h
      rw [sanitizeValue, if_neg hdepth, sanitizeString_idem]
  | arr items ih =>
    unfold Fixed
    rw [sanitizeValue] at h
    split at h
    · cases h
    · next hdepth =>
      split at h
      · cases h
      · next hlength =>
        obtain ⟨ws, hws, rfl⟩ := Checks.map_eq_ok.mp h
        have hfixed : ∀ w ∈ ws, Fixed (depth + 1) w := sanitizeItems_forall
          (fun v hv w hw => ih v hv hw (sanitizeValue_stable hw)) hws
        rw [sanitizeValue, if_neg hdepth]
        rw [sanitizeItems_length hws, if_neg hlength, sanitizeItems_eq_self.mpr hfixed]
        rfl
  | obj kvs ih =>
    unfold Fixed
    rw [sanitizeValue] at h
    split at h
    · cases h
    · next hdepth =>
      split at h
      · cases h
      · next hlength =>
        obtain ⟨out, hout, rfl⟩ := Checks.map_eq_ok.mp h
        have hfixed : ∀ kv ∈ out, isSafeTokenUsageCount kv.1 kv.2 = true ∨
            isSensitiveKey kv.1 = true ∨ Fixed (depth + 1) kv.2 := by
          refine sanitizeFields_forall (P := fun kv => _ ∨ _ ∨ Fixed (depth + 1) kv.2)
            (fun _ h => absurd h List.not_mem_nil)
            (fun key v h => .inl h) (fun key h => .inr (.inl h))
            (fun kv hkv w hw => .inr (.inr (ih kv hkv hw (sanitizeValue_stable hw)))) hout
        have hshort := sanitizeFields_length hout
        cases hstable with
        | obj _ hkeys htext hsecret _ =>
          have hsame := @sanitizeFields_map (depth + 1) _ [] (fun kv => kv.2) hkeys htext hsecret (fun _ _ _ => rfl) fun kv hkv hcount hkey => by
              rcases hfixed kv hkv with h | h | h
              · rw [h] at hcount
                cases hcount
              · rw [h] at hkey
                cases hkey
              · exact h
          rw [sanitizeValue, if_neg hdepth]
          rw [if_neg (by rw [List.length_nil] at hshort; omega), hsame]
          simp only [List.nil_append, List.map_id']
          rfl

/-- The items of a list that is left as it is. -/
theorem fixed_arr {depth : Nat} {items : List Json} :
    Fixed depth (.arr items) ↔ depth ≤ maxJsonDepth ∧ items.length ≤ maxCollectionItems ∧
      ∀ v ∈ items, Fixed (depth + 1) v := by
  rw [Fixed, sanitizeValue, ← sanitizeItems_eq_self]
  constructor
  · intro h
    split at h
    · cases h
    · next hdepth =>
      split at h
      · cases h
      · next hlength =>
        obtain ⟨ws, hws, heq⟩ := Checks.map_eq_ok.mp h
        cases heq
        exact ⟨Nat.not_lt.mp hdepth, Nat.not_lt.mp hlength, hws⟩
  · intro ⟨hdepth, hlength, hitems⟩
    rw [if_neg (Nat.not_lt.mpr hdepth)]
    rw [if_neg (Nat.not_lt.mpr hlength), hitems]
    rfl

/-! ## Dicts with plain keys -/

/-- A key that is stored as it is, with a value that is not hidden. -/
def isPlainKey (key : String) : Bool :=
  keyText key = key && !isSensitiveKey key && !safeTokenUsageCountKeys.contains (normalizedKey key)

theorem isPlainKey_iff {key : String} : isPlainKey key = true ↔
    keyText key = key ∧ isSensitiveKey key = false ∧
      safeTokenUsageCountKeys.contains (normalizedKey key) = false := by
  simp [isPlainKey, and_assoc]

theorem isSafeTokenUsageCount_of_plain {key : String} (h : isPlainKey key = true) (v : Json) :
    isSafeTokenUsageCount key v = false := by
  cases v with
  | int n => rw [isSafeTokenUsageCount, (isPlainKey_iff.mp h).2.2, Bool.false_and]
  | _ => rfl

/-- A dict with plain keys is sanitized value by value. -/
theorem sanitizeValue_plain {depth : Nat} {kvs : List (String × Json)} {f : String × Json → Json}
    (hdepth : depth ≤ maxJsonDepth) (hlength : kvs.length ≤ maxCollectionItems)
    (hkeys : (kvs.map Prod.fst).Nodup) (hplain : ∀ kv ∈ kvs, isPlainKey kv.1 = true)
    (hvalue : ∀ kv ∈ kvs, sanitizeValue (depth + 1) kv.2 = .ok (f kv)) :
    sanitizeValue depth (.obj kvs) = .ok (.obj (kvs.map fun kv => (kv.1, f kv))) := by
  have hfields := @sanitizeFields_map (depth + 1) _ [] f hkeys
    (fun kv hkv => (isPlainKey_iff.mp (hplain kv hkv)).1)
    (fun kv hkv _ hkey => by
      rw [(isPlainKey_iff.mp (hplain kv hkv)).2.1] at hkey
      cases hkey)
    (fun kv hkv hcount => by
      rw [isSafeTokenUsageCount_of_plain (hplain kv hkv)] at hcount
      cases hcount)
    fun kv hkv _ _ => hvalue kv hkv
  rw [sanitizeValue, if_neg (Nat.not_lt.mpr hdepth)]
  rw [if_neg (Nat.not_lt.mpr hlength), hfields]
  rfl

theorem fixed_plain {depth : Nat} {kvs : List (String × Json)}
    (hdepth : depth ≤ maxJsonDepth) (hlength : kvs.length ≤ maxCollectionItems)
    (hkeys : (kvs.map Prod.fst).Nodup) (hplain : ∀ kv ∈ kvs, isPlainKey kv.1 = true)
    (hvalue : ∀ kv ∈ kvs, Fixed (depth + 1) kv.2) : Fixed depth (.obj kvs) := by
  have h := sanitizeValue_plain (f := Prod.snd) hdepth hlength hkeys hplain hvalue
  rw [show kvs.map (fun kv => (kv.1, kv.2)) = kvs from List.map_id kvs] at h
  exact h

/-- Every field of a dict that is accepted is accepted, but for those that are hidden or counted. -/
theorem sanitizeFields_accepts {depth : Nat} {kvs result out : List (String × Json)}
    (h : sanitizeFields depth result kvs = .ok out) {kv : String × Json} (hkv : kv ∈ kvs)
    (hplain : isPlainKey kv.1 = true) : ∃ w, sanitizeValue depth kv.2 = .ok w := by
  induction kvs generalizing result with
  | nil => cases hkv
  | cons field rest ih =>
    rw [sanitizeFields] at h
    rcases List.mem_cons.mp hkv with rfl | hkv
    · obtain ⟨htext, hkey, -⟩ := isPlainKey_iff.mp hplain
      rw [htext, isSafeTokenUsageCount_of_plain hplain, hkey, if_neg (by simp),
        if_neg (by simp)] at h
      obtain ⟨w, hw, -⟩ := Checks.bind_eq_ok.mp h
      exact ⟨w, hw⟩
    · split at h
      · exact ih h hkv
      · split at h
        · exact ih h hkv
        · obtain ⟨w, -, h⟩ := Checks.bind_eq_ok.mp h
          exact ih h hkv

/-- The value under a plain key of a dict that is left as it is. -/
theorem Fixed.get? {depth : Nat} {v w : Json} (h : Fixed depth v) {key : String}
    (hplain : isPlainKey key = true) (hget : v.get? key = some w) : Fixed (depth + 1) w := by
  cases v with
  | obj kvs =>
    have hmem : (key, w) ∈ kvs := by
      obtain ⟨before, after, heq, -⟩ := List.lookup_eq_some_iff.mp hget
      rw [show kvs = before ++ (key, w) :: after from heq]
      exact List.mem_append_right _ List.mem_cons_self
    have hstable : Stable (.obj kvs) := sanitizeValue_stable h
    rw [Fixed, sanitizeValue] at h
    split at h
    · cases h
    · split at h
      · cases h
      · obtain ⟨out, hout, heq⟩ := Checks.map_eq_ok.mp h
        obtain ⟨w', hw⟩ := sanitizeFields_accepts hout hmem hplain
        cases hstable with
        | obj _ _ _ _ hvalue =>
          have hw' := (hvalue _ hmem (isSafeTokenUsageCount_of_plain hplain w)
            (isPlainKey_iff.mp hplain).2.1).sanitizeValue hw
          rw [hw'] at hw
          exact hw
  | _ => cases hget

end SiemDashboard.SessionMemory
