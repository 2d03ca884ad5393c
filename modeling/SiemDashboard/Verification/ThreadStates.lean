import SiemDashboard.Core.SessionMemoryStore
import SiemDashboard.Lib.Runs

/-!
# Thread states that can be read

The state of a conversation is written by the end of every execution and by `save_thread_state`, and
checked again when `get_thread` reads it.  `save_thread_state` runs the check before it writes; the end
of an execution does not, so it can write a state that is replaced when it is read.

* **Operations** — `Op`, `stepOp`.
* **Rows that can be read** — `RowOk`, `RowOk.validate`.
* **What an operation writes** — `mergedRow_ok`, `savedRow_ok`.
* **Runs** — `Sound`, `states_stay_readable`.
-/

namespace SiemDashboard.SessionMemory

open Python Tables Patterns

/-! ## Operations -/

/-- What is done to the session memory. -/
inductive Op where
  | createThread (new : NewThread)
  | appendTurn (new : NewTurn)
  | finalize (new : Finalization)
  | save (new : SavedState)
  | reset (new : Reset)

/-- The operation, in a transaction of its own. -/
def runOp (py : Python) (memory : Memory) : Op → Except SessionMemoryError Memory
  | .createThread new => createThread memory new
  | .appendTurn new => appendTurn memory new
  | .finalize new => finalizeExecutionTurn py memory new
  | .save new => saveThreadState py memory new
  | .reset new => resetThread memory new

/-- A transaction that fails leaves the memory as it was. -/
def stepOp (py : Python) (memory : Memory) (op : Op) : Memory :=
  match runOp py memory op with
  | .ok memory => memory
  | .error _ => memory

/-! ## Rows that can be read -/

/-- The row with its summary as it is read. -/
def StateRow.cleaned (row : StateRow) : StateRow :=
  { row with compactSummary := row.compactSummary.map sanitizeString }

/-- The reader leaves the entries as they are and accepts them. -/
structure EntriesOk (py : Python) (field : String) (permitted : List String) (items : List Json) :
    Prop where
  length : items.length ≤ maxCollectionItems
  fixed : ∀ item ∈ items, Fixed 2 item
  valid : ∀ item ∈ items, validateEntry py field permitted item = .ok ()

/-- What the reader needs of a row. -/
structure RowOk (py : Python) (row : StateRow) : Prop where
  version : 0 < row.stateVersion
  schema : 0 < row.schemaVersion
  entries : ∀ list ∈ permittedAssertions,
    EntriesOk py list.1 list.2 (listField row.candidate list.1)
  metadata : row.rebuildMetadata.isObj = true
  metadataFixed : Fixed 1 row.rebuildMetadata
  summary : ∀ s, row.compactSummary = some s →
    s.length ≤ maxStringChars ∧ visible (removeControls s.toList) = true
  size : encodedLength row.cleaned.candidate ≤ maxJsonChars

theorem stateFields_plain : ∀ key ∈ stateFields, isPlainKey key = true := by decide +kernel

theorem EntriesOk.fixed_arr {py : Python} {field : String} {permitted : List String}
    {items : List Json} (h : EntriesOk py field permitted items) : Fixed 1 (.arr items) :=
  SessionMemory.fixed_arr.mpr ⟨by decide, h.length, h.fixed⟩

theorem RowOk.fixed_list {py : Python} {row : StateRow} (h : RowOk py row) (field : String)
    (hfield : field ∈ permittedAssertions.map Prod.fst) :
    Fixed 1 (.arr (listField row.candidate field)) := by
  obtain ⟨list, hlist, rfl⟩ := List.mem_map.mp hfield
  exact (h.entries list hlist).fixed_arr

theorem candidate_summary (row : StateRow) : row.candidate.get "compact_summary" =
    match row.compactSummary with
    | none => .null
    | some summary => .str summary := rfl

/-- Sanitizing changes no more than the summary. -/
theorem RowOk.sanitizeValue {py : Python} {row : StateRow} (h : RowOk py row) :
    sanitizeValue 0 row.candidate = .ok row.cleaned.candidate := by
  have hsummary : SessionMemory.sanitizeValue 1 (row.candidate.get "compact_summary") =
      .ok (row.cleaned.candidate.get "compact_summary") := by
    rw [candidate_summary, candidate_summary, StateRow.cleaned]
    cases row.compactSummary with
    | none => rfl
    | some s => rfl
  have hlength : row.candidate.fields.length ≤ maxCollectionItems := by
    change stateFields.length ≤ maxCollectionItems
    decide
  have hnodup : (row.candidate.fields.map Prod.fst).Nodup := by
    change stateFields.Nodup
    decide
  have hvalue : ∀ kv ∈ row.candidate.fields, SessionMemory.sanitizeValue (0 + 1) kv.2 =
      .ok (row.cleaned.candidate.get kv.1) := by
    change ∀ kv ∈ _ :: _, _
    simp only [List.forall_mem_cons]
    exact ⟨rfl, h.fixed_list "conclusions" (by decide),
      h.fixed_list "unresolved_questions" (by decide), h.fixed_list "recommendations" (by decide),
      h.fixed_list "corrections" (by decide), hsummary, h.metadataFixed, rfl, nofun⟩
  exact sanitizeValue_plain (f := fun kv => row.cleaned.candidate.get kv.1) (by decide) hlength hnodup
    (fun kv hkv => stateFields_plain kv.1 (List.mem_map_of_mem hkv)) hvalue

theorem RowOk.sanitizeStructuredValue {py : Python} {row : StateRow} (h : RowOk py row)
    (fieldName : String) :
    sanitizeStructuredValue row.candidate fieldName = .ok row.cleaned.candidate := by
  rw [SessionMemory.sanitizeStructuredValue, h.sanitizeValue]
  change (if encodedLength row.cleaned.candidate > maxJsonChars then _ else _) = _
  rw [if_neg (Nat.not_lt.mpr h.size)]

/-- The summary as the reader returns it. -/
def StateRow.stripped (row : StateRow) : StateRow :=
  { row with compactSummary := row.compactSummary.map fun s => strip (sanitizeString s) }

/-- A summary with something visible is still visible when it is read. -/
theorem visible_sanitizeString {s : String} (hs : s.length ≤ maxStringChars)
    (hvisible : visible (removeControls s.toList) = true) :
    visible (sanitizeString s).toList = true := by
  have hlength : (removeControls s.toList).length ≤ maxStringChars := by
    refine (List.length_filter_le _ _).trans ?_
    rwa [String.length_toList]
  rw [sanitizeString, String.toList_ofList]
  exact visible_take_replaceMarkers hlength hvisible

theorem textOf_str (py : Python) {s : String} (hs : s ≠ "") : textOf py (.str s) = s := by
  have htruthy : (Json.str s).truthy = true := by simpa [Json.truthy] using hs
  rw [textOf, Json.orElse, if_pos htruthy]
  rfl

theorem ne_empty_of_visible {s : String} (h : visible s.toList = true) : s ≠ "" := by
  intro hs
  rw [hs] at h
  cases h

theorem RowOk.sanitizeSummary {py : Python} {row : StateRow} (h : RowOk py row) :
    sanitizeSummary py row.cleaned.candidate = .ok row.stripped.candidate := by
  unfold SessionMemory.sanitizeSummary
  rw [candidate_summary, StateRow.cleaned, StateRow.stripped]
  cases hsummary : row.compactSummary with
  | none => rfl
  | some s =>
    obtain ⟨hlength, hvisible⟩ := h.summary s hsummary
    have hread := visible_sanitizeString hlength hvisible
    have hshort : (sanitizeString s).toList.length ≤ maxStringChars := by
      rw [String.length_toList]
      exact sanitizeString_length s
    have htext : sanitizeText (String.ofList (sanitizeString s).toList) "state.compact_summary"
        maxStringChars = .ok (strip (sanitizeString s)) :=
      (cleanText_sanitizeString s).sanitizeText hread hshort
    rw [String.ofList_toList] at htext
    change (do
      let text ← sanitizeText (textOf py (.str (sanitizeString s))) "state.compact_summary"
        maxStringChars
      return Json.set _ "compact_summary" (.str text)) = _
    rw [textOf_str py (ne_empty_of_visible hread), htext]
    rfl

theorem cleaned_list (row : StateRow) : ∀ list ∈ permittedAssertions,
    row.cleaned.candidate.getD list.1 (.arr []) = .arr (listField row.candidate list.1) := by
  simp only [permittedAssertions, List.forall_mem_cons]
  exact ⟨rfl, rfl, rfl, rfl, nofun⟩

theorem RowOk.validateEntries {py : Python} {row : StateRow} (h : RowOk py row)
    {list : String × List String} (hlist : list ∈ permittedAssertions) :
    validateEntries py row.cleaned.candidate list.1 list.2 = .ok () := by
  rw [SessionMemory.validateEntries, cleaned_list row list hlist]
  exact Checks.forM_eq_ok.mpr (h.entries list hlist).valid

/-- The reader accepts the row, with its lists as they are stored. -/
theorem RowOk.validate {py : Python} {row : StateRow} (h : RowOk py row) :
    validateThreadState py row.candidate = .ok row.stripped.candidate := by
  have hlists : (permittedAssertions.forM fun list =>
      SessionMemory.validateEntries py row.cleaned.candidate list.1 list.2) = .ok () :=
    Checks.forM_eq_ok.mpr fun list hlist => h.validateEntries hlist
  have hschema : validateSchemaVersion row.cleaned.candidate = .ok () := by
    change (if row.schemaVersion ≤ 0 then _ else _) = _
    rw [if_neg (Int.not_le.mpr h.schema)]
  have hmetadata : (row.cleaned.candidate.getD "rebuild_metadata" (.obj [])).isObj = true := h.metadata
  have hknown : (row.candidate.fields.map Prod.fst).filter (fun key => !stateFields.contains key) =
      [] := by
    change stateFields.filter _ = []
    decide
  unfold validateThreadState
  rw [if_neg (by simp [show row.candidate.isObj = true from rfl])]
  dsimp only
  rw [if_neg (by rw [hknown]; simp), h.sanitizeStructuredValue]
  change (do
    permittedAssertions.forM fun list =>
      SessionMemory.validateEntries py row.cleaned.candidate list.1 list.2
    validateSchemaVersion row.cleaned.candidate
    if !(row.cleaned.candidate.getD "rebuild_metadata" (.obj [])).isObj then _
    else SessionMemory.sanitizeSummary py row.cleaned.candidate) = _
  rw [hlists, hschema, hmetadata]
  exact h.sanitizeSummary

/-- `get_thread` returns the lists of the state that is stored, and no placeholder. -/
def Readable (py : Python) (memory : Memory) (thread : Thread) : Prop :=
  ∃ row state, memory.state? thread.threadId thread.owner = some row ∧
    getThread py memory thread.threadId thread.owner = .ok state ∧
    state.get "conclusions" = .arr row.conclusions ∧
    state.get "unresolved_questions" = .arr row.unresolvedQuestions ∧
    state.get "recommendations" = .arr row.recommendations ∧
    state.get "corrections" = .arr row.corrections ∧
    ∀ reason, state ≠ emptyRebuildState reason

/-- The state that is read from a row. -/
theorem RowOk.read {py : Python} {row : StateRow} (h : RowOk py row) :
    safeStateFromJoin py (some row) =
      .ok (row.stripped.candidate.set "state_version" (.int row.stateVersion)) := by
  rw [safeStateFromJoin, h.validate, if_neg (Nat.ne_of_gt h.version)]

theorem RowOk.readable {py : Python} {memory : Memory} {thread : Thread} {row : StateRow}
    (h : RowOk py row) (hrow : memory.state? thread.threadId thread.owner = some row)
    (hget : getThread py memory thread.threadId thread.owner = safeStateFromJoin py (some row)) :
    Readable py memory thread := by
  refine ⟨row, _, hrow, hget.trans h.read, rfl, rfl, rfl, rfl, fun reason heq => ?_⟩
  have hversion : Json.int row.stateVersion = .int 0 := congrArg (·.get "state_version") heq
  have hpositive := h.version
  injection hversion with hversion
  omega

/-! ## What an operation writes -/

/-- A turn whose texts the reader leaves as they are, but for their length. -/
structure TurnOk (turn : Turn) : Prop where
  content : CleanText turn.content.toList
  visible : visible turn.content.toList = true
  turnId : sanitizeString turn.turnId = turn.turnId

theorem TurnOk.completed {turn : Turn} (h : TurnOk turn) : TurnOk (completedTurn turn) :=
  ⟨h.content, h.visible, h.turnId⟩

theorem hex_lacks : (controlMarkers.all fun pattern =>
    pattern.any (·.lacks "atn_0123456789abcdef".toList)) = true := by decide +kernel

/-- The id of a turn is stored as it is. -/
theorem sanitizeString_turnId (uuid : Uuid) :
    sanitizeString ("atn_" ++ uuid.hex) = "atn_" ++ uuid.hex := by
  have halphabet : ∀ c ∈ ("atn_" ++ uuid.hex).toList, c ∈ "atn_0123456789abcdef".toList := by
    intro c hc
    rw [String.toList_append, List.mem_append] at hc
    rcases hc with hc | hc
    · exact List.mem_append_left "0123456789abcdef".toList hc
    · exact List.mem_append_right "atn_".toList (uuid.digits c hc)
  have hcontrol : ("atn_0123456789abcdef".toList.all fun c => !isControl c) = true := by decide
  have hclean : CleanText ("atn_" ++ uuid.hex).toList :=
    ⟨fun c hc => by simpa using List.all_eq_true.mp hcontrol c (halphabet c hc),
      free_of_lacks hex_lacks halphabet⟩
  refine hclean.sanitizeString ?_
  rw [String.length_append, uuid.length]
  decide +kernel

/-- A text ends with something that is no whitespace. -/
theorem exists_last_of_visible {cs : List Char} (h : visible cs = true) :
    ∃ init c, stripChars cs = init ++ [c] ∧ isSpace c = false ∧ c ∈ cs := by
  have hnonempty : stripChars cs ≠ [] := by
    have hstrip := strip_ne_empty (s := String.ofList cs) (by rwa [String.toList_ofList])
    intro hnil
    rw [strip, String.toList_ofList, hnil] at hstrip
    exact hstrip rfl
  have hlast : ¬ isSpace ((stripChars cs).getLast hnonempty) = true :=
    List.rdropWhile_last_not isSpace _ hnonempty
  exact ⟨_, _, (List.dropLast_append_getLast hnonempty).symm, by simpa using hlast,
    (stripChars_isInfix cs).subset (List.getLast_mem hnonempty)⟩

/-- The summary ends with the assistant's text. -/
theorem summary_append (existing : Option String) (userContent assistantContent : String) :
    ∃ front, summaryWithLatest existing userContent assistantContent =
      String.ofList ((front ++ stripChars assistantContent.toList).drop
        ((front ++ stripChars assistantContent.toList).length - maxStringChars)) := by
  have hparts (parts : List String) :
      (parts ++ ["Analyst: " ++ strip userContent, "Anakin: " ++ strip assistantContent]).filter
          (· ≠ "") =
        (parts.filter (· ≠ "") ++ ["Analyst: " ++ strip userContent]) ++
          ["Anakin: " ++ strip assistantContent] := by
    rw [List.filter_append, List.append_assoc]
    simp
  unfold summaryWithLatest
  dsimp only
  rw [hparts, String.intercalate_append_of_ne_nil (by simp) (by simp), String.intercalate_singleton]
  refine ⟨("\n".intercalate (((existing.filter (· ≠ "")).toList.map strip).filter (· ≠ "") ++
    ["Analyst: " ++ strip userContent]) ++ "\n" ++ "Anakin: ").toList, ?_⟩
  rw [← String.length_toList]
  simp only [String.toList_append, strip, String.toList_ofList, List.append_assoc]

theorem summaryWithLatest_ok (existing : Option String) (userContent : String)
    {assistantContent : String}    (hclean : CleanText assistantContent.toList)
    (hvisible : visible assistantContent.toList = true) :
    (summaryWithLatest existing userContent assistantContent).length ≤ maxStringChars ∧
      visible (removeControls
        (summaryWithLatest existing userContent assistantContent).toList) = true := by
  obtain ⟨front, hsummary⟩ := summary_append existing userContent assistantContent
  obtain ⟨init, c, hstrip, hspace, hmem⟩ := exists_last_of_visible hvisible
  have hpositive : 1 ≤ maxStringChars := by decide +kernel
  rw [hsummary, hstrip, ← List.append_assoc, String.length_ofList, String.toList_ofList]
  constructor
  · rw [List.length_drop]
    omega
  · have hlast : c ∈ ((front ++ init) ++ [c]).drop
        (((front ++ init) ++ [c]).length - maxStringChars) := by
      have hdropped : (front ++ init ++ [c]).length - maxStringChars ≤ (front ++ init).length := by
        simp only [List.length_append, List.length_singleton]
        omega
      rw [List.drop_append_of_le_length hdropped]
      exact List.mem_append_right _ List.mem_cons_self
    rw [visible, List.any_eq_true]
    refine ⟨c, List.mem_filter.mpr ⟨hlast, ?_⟩, by rw [hspace]; rfl⟩
    rw [hclean.noControl c hmem]
    rfl

/-- The last entries of a list to which entries have been added. -/
theorem EntriesOk.lastEight {py : Python} {field : String} {permitted : List String}
    {old kept added : List Json} (h : EntriesOk py field permitted old) (hkept : kept ⊆ old)
    (hadded : ∀ item ∈ added,
      Fixed 2 item ∧ validateEntry py field permitted item = .ok ()) :
    EntriesOk py field permitted (lastEight (kept ++ added)) := by
  have hmem : ∀ item ∈ SessionMemory.lastEight (kept ++ added), item ∈ old ∨ item ∈ added := by
    intro item hitem
    rcases List.mem_append.mp (List.mem_of_mem_drop hitem) with hitem | hitem
    · exact .inl (hkept hitem)
    · exact .inr hitem
  refine ⟨?_, fun item hitem => ?_, fun item hitem => ?_⟩
  · rw [SessionMemory.lastEight, List.length_drop, maxCollectionItems]
    omega
  · rcases hmem item hitem with hitem | hitem
    · exact h.fixed item hitem
    · exact (hadded item hitem).1
  · rcases hmem item hitem with hitem | hitem
    · exact h.valid item hitem
    · exact (hadded item hitem).2

theorem fixed_str {depth : Nat} {s : String} (hdepth : depth ≤ maxJsonDepth)
    (hs : sanitizeString s = s) : Fixed depth (.str s) := by
  rw [Fixed, sanitizeValue, if_neg (Nat.not_lt.mpr hdepth), hs]

theorem fixed_optionalNat (n : Option Nat) : Fixed 3 (optionalNat n) := by
  cases n <;> rfl

/-- A text of a turn that is not too long. -/
theorem TurnOk.fixed_content {turn : Turn} (h : TurnOk turn)
    (hshort : turn.content.length ≤ maxStringChars) : Fixed 3 (.str turn.content) :=
  fixed_str (by decide) (h.content.sanitizeString hshort)

theorem TurnOk.fixed_turnId {turn : Turn} (h : TurnOk turn) : Fixed 3 (.str turn.turnId) :=
  fixed_str (by decide) h.turnId

/-- An entry that is no inference is valid by its assertion type alone. -/
theorem validateEntry_of_assertion (py : Python) (field : String) {permitted : List String}
    {item : Json} {assertion : String} (hobj : item.isObj = true)
    (hget : item.get "assertion_type" = .str assertion) (hstrip : strip assertion = assertion)
    (hne : assertion ≠ "") (hpermitted : permitted.contains assertion = true)
    (hinference : assertion ≠ "model_inference") :
    validateEntry py field permitted item = .ok () := by
  unfold validateEntry
  rw [hobj, hget, textOf_str py hne, hstrip, if_neg (by simp)]
  dsimp only
  rw [hpermitted, if_neg (by simp), if_pos hinference]

theorem correctionEntry_ok (py : Python) {userTurn : Turn} (h : TurnOk userTurn)
    (hshort : userTurn.content.length ≤ maxStringChars) :
    Fixed 2 (correctionEntry userTurn) ∧
      validateEntry py "corrections" ["correction"] (correctionEntry userTurn) = .ok () := by
  have hassertion : Fixed 3 (.str "correction") := fixed_str (by decide) (by decide +kernel)
  constructor
  · refine fixed_plain (by decide) (by simp [maxCollectionItems]) (by simp) ?_ ?_
    · simp only [List.forall_mem_cons]
      exact ⟨by decide +kernel, by decide +kernel, by decide +kernel, by decide +kernel, nofun⟩
    · simp only [List.forall_mem_cons]
      exact ⟨hassertion, h.fixed_content hshort, h.fixed_turnId, fixed_optionalNat _, nofun⟩
  · exact validateEntry_of_assertion py _ rfl rfl (by decide +kernel) (by decide) (by decide)
      (by decide)

theorem questionEntry_ok (py : Python) {userTurn : Turn} (h : TurnOk userTurn)
    (hshort : userTurn.content.length ≤ maxStringChars) :
    Fixed 2 (questionEntry userTurn) ∧
      validateEntry py "unresolved_questions" ["unresolved_question"] (questionEntry userTurn) =
        .ok () := by
  have hassertion : Fixed 3 (.str "unresolved_question") :=
    fixed_str (by decide) (by decide +kernel)
  constructor
  · refine fixed_plain (by decide) (by simp [maxCollectionItems]) (by simp) ?_ ?_
    · simp only [List.forall_mem_cons]
      exact ⟨by decide +kernel, by decide +kernel, by decide +kernel, nofun⟩
    · simp only [List.forall_mem_cons]
      exact ⟨hassertion, h.fixed_content hshort, h.fixed_turnId, nofun⟩
  · exact validateEntry_of_assertion py _ rfl rfl (by decide +kernel) (by decide) (by decide)
      (by decide)

theorem get?_of_get {v w : Json} {key : String} (h : v.get key = w) (hw : w ≠ .null) :
    v.get? key = some w := by
  rw [Json.get, Json.getD] at h
  cases hget : v.get? key with
  | none =>
    rw [hget] at h
    exact absurd h.symm hw
  | some u =>
    rw [hget] at h
    exact congrArg some h

/-- A payload that has been checked as an inference. -/
structure InferenceOk (payload : Json) : Prop where
  fixed : Fixed 0 payload
  confidence : isConfidence (payload.get "confidence") = .ok true
  provenance : (payload.get "provenance").truthy = true

theorem isConfidence_eq_true {value : Json} (h : isConfidence value = .ok true) :
    ∃ s, value = .str s ∧ s ∈ confidences := by
  unfold isConfidence at h
  split at h
  · next b hb =>
    cases h
    have hone := (inSet_eq_ok.mp hb).2
    unfold Json.isOneOf at hone
    split at hone
    · exact ⟨_, rfl, by simpa using hone⟩
    · cases hone
  · cases h

theorem checkInference_eq_ok {payload : Json} {message : String}
    (h : checkInference payload message = .ok ()) :
    isConfidence (payload.get "confidence") = .ok true ∧
      (payload.get "provenance").truthy = true := by
  unfold checkInference at h
  obtain ⟨b, hb, h⟩ := Checks.bind_eq_ok.mp h
  split at h
  · cases h
  · next hcond =>
    simp only [Bool.or_eq_true, Bool.not_eq_true', not_or, Bool.not_eq_false] at hcond
    rw [hcond.1] at hb
    exact ⟨hb, hcond.2⟩

theorem inferenceEntry_ok (py : Python) (field : String) {permitted : List String}
    (hpermitted : permitted.contains "model_inference" = true) {turn : Turn} (workflow : String)
    (h : TurnOk turn) (hshort : turn.content.length ≤ maxStringChars)
    (hpayload : InferenceOk turn.structuredPayload)
    (hprovenance : (sanitizeValue 3 (turn.structuredPayload.get "provenance")).isOk = true) :
    Fixed 2 (inferenceEntry turn workflow) ∧
      validateEntry py field permitted (inferenceEntry turn workflow) = .ok () := by
  obtain ⟨confidence, hconfidence, hmem⟩ := isConfidence_eq_true hpayload.confidence
  have hget : turn.structuredPayload.get? "confidence" = some (.str confidence) :=
    get?_of_get hconfidence (by simp)
  have hentryConfidence :
      (inferenceEntry turn workflow).get "confidence" = .str confidence := by
    change turn.structuredPayload.getD "confidence" (.str "medium") = _
    rw [Json.getD, hget]
    rfl
  have hentryProvenance : (inferenceEntry turn workflow).get "provenance" =
      turn.structuredPayload.get "provenance" := by
    change (turn.structuredPayload.get "provenance").orElse _ = _
    rw [Json.orElse, if_pos hpayload.provenance]
  have hknown : ∀ s ∈ confidences, sanitizeString s = s := by decide +kernel
  constructor
  · refine fixed_plain (by decide) (by simp [maxCollectionItems]) (by simp) ?_ ?_
    · simp only [List.forall_mem_cons]
      exact ⟨by decide +kernel, by decide +kernel, by decide +kernel, by decide +kernel,
        by decide +kernel, by decide +kernel, nofun⟩
    · simp only [List.forall_mem_cons]
      refine ⟨fixed_str (by decide) (by decide +kernel), h.fixed_content hshort, ?_, ?_,
        h.fixed_turnId, rfl, nofun⟩
      · change Fixed 3 ((inferenceEntry turn workflow).get "confidence")
        rw [hentryConfidence]
        exact fixed_str (by decide) (hknown confidence hmem)
      · change Fixed 3 ((inferenceEntry turn workflow).get "provenance")
        rw [hentryProvenance]
        obtain ⟨w, hw⟩ := Checks.isOk_iff.mp hprovenance
        have hnull : turn.structuredPayload.get "provenance" ≠ .null := by
          intro hnull
          have htruthy := hpayload.provenance
          rw [hnull] at htruthy
          cases htruthy
        have hpart : Fixed 1 (turn.structuredPayload.get "provenance") :=
          hpayload.fixed.get? (by decide +kernel) (get?_of_get rfl hnull)
        have hsame := (sanitizeValue_stable hpart).sanitizeValue hw
        rw [hsame] at hw
        exact hw
  · have hassertion : strip (textOf py ((inferenceEntry turn workflow).get "assertion_type")) =
        "model_inference" := by
      change strip (textOf py (.str "model_inference")) = _
      rw [textOf_str py (by decide)]
      decide +kernel
    unfold validateEntry
    rw [hassertion, hentryConfidence, hentryProvenance, hpayload.provenance, ← hconfidence,
      hpayload.confidence, if_neg (by simp [inferenceEntry, Json.isObj])]
    dsimp only
    rw [hpermitted, if_neg (by simp), if_neg (by simp)]
    rfl

/-- The texts and the provenance that the assistant's turn adds can be read back. -/
def inferenceFits (content : String) (payload : Json) (artifactPreview : Bool) : Bool :=
  artifactPreview ||
    content.length ≤ maxStringChars && (sanitizeValue 3 (payload.get "provenance")).isOk

/-- So can the text that the user's turn adds. -/
def questionFits (userTurn : Turn) : Bool :=
  !(["correction", "unresolved_question"].contains userTurn.assertionType) ||
    userTurn.content.length ≤ maxStringChars

/-- The length of the JSON text of a state, with what the turns add to it. -/
def mergedLength (py : Python) (userTurn assistantTurn : Turn) (workflow : String)
    (artifactPreview : Bool) (row : StateRow) : Nat :=
  encodedLength (candidate row.schemaVersion
    (lastEight (standingConclusions py row.conclusions userTurn ++
      newConclusions assistantTurn workflow artifactPreview))
    (lastEight (openQuestions py row.unresolvedQuestions userTurn ++ newQuestions userTurn))
    (lastEight (row.recommendations ++ newRecommendations assistantTurn workflow artifactPreview))
    (lastEight (row.corrections ++ newCorrections userTurn))
    (some (sanitizeString
      (summaryWithLatest row.compactSummary userTurn.content assistantTurn.content)))
    (completionMetadata assistantTurn.sequence) false)

theorem standingConclusions_subset (py : Python) (conclusions : List Json) (userTurn : Turn) :
    standingConclusions py conclusions userTurn ⊆ conclusions := by
  unfold standingConclusions
  split
  · exact List.filter_subset_self conclusions
  · exact List.Subset.refl conclusions

theorem openQuestions_subset (py : Python) (questions : List Json) (userTurn : Turn) :
    openQuestions py questions userTurn ⊆ questions := by
  unfold openQuestions
  split
  · exact List.Subset.refl questions
  · dsimp only
    split
    · exact fun item hitem => List.filter_subset_self questions (List.mem_of_mem_dropLast hitem)
    · exact List.filter_subset_self questions

theorem completionMetadata_fixed (sequence : Nat) : Fixed 1 (completionMetadata sequence) := by
  refine fixed_plain (by decide) (by simp [maxCollectionItems]) (by simp) ?_ ?_
  · simp only [List.forall_mem_cons]
    exact ⟨by decide +kernel, by decide +kernel, nofun⟩
  · simp only [List.forall_mem_cons]
    exact ⟨fixed_str (by decide) (by decide +kernel), rfl, nofun⟩

/-- The end of an execution leaves a row that can be read, where what it adds fits. -/
theorem mergedRow_ok {py : Python} {row : StateRow} {userTurn turn : Turn} {workflow : String}
    {artifactPreview : Bool} (hrow : RowOk py row) (huser : TurnOk userTurn) (hturn : TurnOk turn)
    (hpayload : artifactPreview = false → InferenceOk turn.structuredPayload)
    (hinference : inferenceFits turn.content turn.structuredPayload artifactPreview = true)
    (hquestion : questionFits userTurn = true)
    (hlength : mergedLength py userTurn turn workflow artifactPreview row ≤ maxJsonChars) :
    RowOk py (mergedRow py userTurn turn workflow artifactPreview row) := by
  have hentry (field : String) {permitted : List String}
      (hpermitted : permitted.contains "model_inference" = true) (hpreview : artifactPreview = false) :
      Fixed 2 (inferenceEntry turn workflow) ∧
        validateEntry py field permitted (inferenceEntry turn workflow) = .ok () := by
    rw [inferenceFits, hpreview, Bool.false_or, Bool.and_eq_true] at hinference
    exact inferenceEntry_ok py field hpermitted workflow hturn (by simpa using hinference.1)
      (hpayload hpreview) hinference.2
  have hasked (assertion : String) (hmem : assertion ∈ ["correction", "unresolved_question"])
      (hassertion : userTurn.assertionType = assertion) :
      userTurn.content.length ≤ maxStringChars := by
    rw [questionFits, hassertion, Bool.or_eq_true] at hquestion
    rcases hquestion with hquestion | hquestion
    · rw [List.contains_iff_mem.mpr hmem] at hquestion
      cases hquestion
    · simpa using hquestion
  have hold := hrow.entries
  simp only [permittedAssertions, List.forall_mem_cons] at hold
  obtain ⟨hconclusions, hquestions, hrecommendations, hcorrections, -⟩ := hold
  obtain ⟨hshort, hvisible⟩ :=
    summaryWithLatest_ok row.compactSummary userTurn.content hturn.content hturn.visible
  constructor
  · exact Nat.succ_pos _
  · exact hrow.schema
  · simp only [permittedAssertions, List.forall_mem_cons]
    refine ⟨hconclusions.lastEight (standingConclusions_subset py _ _) ?_,
      hquestions.lastEight (openQuestions_subset py _ _) ?_,
      hrecommendations.lastEight (List.Subset.refl _) ?_,
      hcorrections.lastEight (List.Subset.refl _) ?_, nofun⟩
    · intro item hitem
      cases hpreview : artifactPreview with
      | true =>
        rw [hpreview] at hitem
        cases hitem
      | false =>
        rw [hpreview] at hitem
        rw [List.mem_singleton.mp hitem]
        exact hentry "conclusions" (by decide) hpreview
    · intro item hitem
      rw [newQuestions] at hitem
      split at hitem
      · next hassertion =>
        rw [List.mem_singleton.mp hitem]
        exact questionEntry_ok py huser (hasked _ (by simp) hassertion)
      · cases hitem
    · intro item hitem
      rw [newRecommendations] at hitem
      split at hitem
      · cases hitem
      · next hpreview =>
        rw [List.mem_singleton.mp hitem]
        have hneither : artifactPreview = false ∧ workflow = "decision_support" := by
          simpa using hpreview
        exact hentry "recommendations" (by decide) hneither.1
    · intro item hitem
      rw [newCorrections] at hitem
      split at hitem
      · next hassertion =>
        rw [List.mem_singleton.mp hitem]
        exact correctionEntry_ok py huser (hasked _ (by simp) hassertion)
      · cases hitem
  · rfl
  · exact completionMetadata_fixed turn.sequence
  · intro s hs
    cases hs
    exact ⟨hshort, hvisible⟩
  · exact hlength

/-- What `validate_thread_state` has checked of a state it returns. -/
theorem validateThreadState_eq_ok {py : Python} {value clean : Json}
    (h : validateThreadState py value = .ok clean) :
    ∃ sanitized, sanitized.isObj = true ∧ Fixed 0 sanitized ∧
      (∀ list ∈ permittedAssertions, validateEntries py sanitized list.1 list.2 = .ok ()) ∧
      validateSchemaVersion sanitized = .ok () ∧
      (sanitized.getD "rebuild_metadata" (.obj [])).isObj = true ∧
      sanitizeSummary py sanitized = .ok clean := by
  unfold validateThreadState at h
  split at h
  · cases h
  · next hobj =>
    dsimp only at h
    split at h
    · cases h
    · obtain ⟨sanitized, hsanitized, h⟩ := Checks.bind_eq_ok.mp h
      obtain ⟨u, hlists, h⟩ := Checks.bind_eq_ok.mp h
      obtain ⟨u', hschema, h⟩ := Checks.bind_eq_ok.mp h
      split at h
      · cases h
      · next hmetadata =>
        obtain ⟨w, hw, hsize⟩ := Checks.bind_eq_ok.mp hsanitized
        split at hsize
        · cases hsize
        · cases hsize
          refine ⟨sanitized, ?_, sanitizeValue_fixed hw, Checks.forM_eq_ok.mp hlists, hschema,
            by simpa using hmetadata, h⟩
          cases value with
          | obj kvs =>
            rw [sanitizeValue] at hw
            split at hw
            · cases hw
            · split at hw
              · cases hw
              · obtain ⟨out, -, rfl⟩ := Checks.map_eq_ok.mp hw
                rfl
          | _ => simp [Json.isObj] at hobj

/-- The summary of a state that has been validated. -/
theorem sanitizeSummary_eq_ok {py : Python} {sanitized clean : Json}
    (hobj : sanitized.isObj = true) (h : sanitizeSummary py sanitized = .ok clean) :
    (∀ key, key ≠ "compact_summary" → clean.get? key = sanitized.get? key) ∧
      ∀ s, (clean.get "compact_summary").str? = some s →
        CleanText s.toList ∧ s.length ≤ maxStringChars ∧ visible s.toList = true := by
  unfold sanitizeSummary at h
  dsimp only at h
  split at h
  · next hnull =>
    cases h
    refine ⟨fun _ _ => rfl, fun s hs => ?_⟩
    rw [Json.str?_eq_some.mp hs] at hnull
    cases hnull
  · obtain ⟨text, htext, h⟩ := Checks.bind_eq_ok.mp h
    cases h
    constructor
    · intro key hkey
      rw [Json.get?_set hobj, if_neg hkey]
    · intro s hs
      rw [Json.get, Json.getD, Json.get?_set hobj, if_pos rfl] at hs
      cases hs
      exact sanitizeText_eq_ok htext

/-- A list of a state that has been validated. -/
theorem entriesOk_of_validateEntries {py : Python} {sanitized : Json} {field : String}
    {permitted : List String} (hfixed : Fixed 0 sanitized) (hplain : isPlainKey field = true)
    (h : validateEntries py sanitized field permitted = .ok ()) :
    EntriesOk py field permitted (listField sanitized field) := by
  unfold validateEntries at h
  split at h
  · next items hitems =>
    have hvalid := Checks.forM_eq_ok.mp h
    have hlist : listField sanitized field = items := by rw [listField, hitems]
    rw [hlist]
    cases hget : sanitized.get? field with
    | none =>
      rw [Json.getD, hget] at hitems
      cases hitems
      exact ⟨Nat.zero_le _, nofun, nofun⟩
    | some v =>
      rw [Json.getD, hget] at hitems
      cases hitems
      obtain ⟨-, hlength, hentries⟩ := fixed_arr.mp (hfixed.get? hplain hget)
      exact ⟨hlength, hentries, hvalid⟩
  · cases h

/-- The state with its eight fields spelled out. -/
def spelledOut (clean : Json) : Json :=
  candidate (((clean.getD "schema_version" (.int 1)).int?).getD 1)
    (listField clean "conclusions") (listField clean "unresolved_questions")
    (listField clean "recommendations") (listField clean "corrections")
    (clean.get "compact_summary").str? (clean.getD "rebuild_metadata" (.obj []))
    (clean.getD "rebuild_required" (.bool false)).truthy

/-- `save_thread_state` leaves a row that can be read, where the state fits when it is spelled out. -/
theorem savedRow_ok {py : Python} {value clean : Json} (h : validateThreadState py value = .ok clean)
    (hlength : encodedLength (spelledOut clean) ≤ maxJsonChars) (row : StateRow) :
    RowOk py (savedRow clean row) := by
  obtain ⟨sanitized, hobj, hfixed, hlists, hschema, hmetadata, hclean⟩ :=
    validateThreadState_eq_ok h
  obtain ⟨hother, hsummary⟩ := sanitizeSummary_eq_ok hobj hclean
  have hsame (key : String) (default : Json) (hkey : key ≠ "compact_summary") :
      clean.getD key default = sanitized.getD key default := by
    rw [Json.getD, hother key hkey]
    rfl
  have hlist : ∀ list ∈ permittedAssertions,
      EntriesOk py list.1 list.2 (listField clean list.1) := by
    intro list hmem
    have hkeys : ∀ list ∈ permittedAssertions,
        list.1 ≠ "compact_summary" ∧ isPlainKey list.1 = true := by decide +kernel
    obtain ⟨hkey, hplain⟩ := hkeys list hmem
    rw [listField, hsame _ _ hkey]
    exact entriesOk_of_validateEntries hfixed hplain (hlists list hmem)
  have hwritten : ∀ list ∈ permittedAssertions,
      listField (savedRow clean row).candidate list.1 = listField clean list.1 := by
    simp only [permittedAssertions, List.forall_mem_cons]
    exact ⟨rfl, rfl, rfl, rfl, nofun⟩
  have hcleaned : (savedRow clean row).cleaned = savedRow clean row := by
    rw [StateRow.cleaned]
    cases hs : (savedRow clean row).compactSummary with
    | none => rw [Option.map_none, ← hs]
    | some s =>
      obtain ⟨hclean, hshort, -⟩ := hsummary s hs
      rw [Option.map_some, hclean.sanitizeString hshort, ← hs]
  constructor
  · exact Nat.succ_pos _
  · change 0 < ((clean.getD "schema_version" (.int 1)).int?).getD 1
    rw [hsame _ _ (by decide)]
    unfold validateSchemaVersion at hschema
    split at hschema
    · next n hn =>
      rw [hn]
      split at hschema
      · cases hschema
      · next hpositive => exact Int.not_le.mp hpositive
    · cases hschema
  · intro list hmem
    rw [hwritten list hmem]
    exact hlist list hmem
  · change (clean.getD "rebuild_metadata" (.obj [])).isObj = true
    rw [hsame _ _ (by decide)]
    exact hmetadata
  · change Fixed 1 (clean.getD "rebuild_metadata" (.obj []))
    rw [hsame _ _ (by decide), Json.getD]
    cases hget : sanitized.get? "rebuild_metadata" with
    | none => rfl
    | some v => exact hfixed.get? (by decide +kernel) hget
  · intro s hs
    obtain ⟨hclean, hshort, hvisible⟩ := hsummary s hs
    rw [hclean.removeControls]
    exact ⟨hshort, hvisible⟩
  · rw [hcleaned]
    exact hlength

/-! ## Runs -/

def StateRow.key (row : StateRow) : String × String := (row.threadId, row.owner)

/-- A thread that can be asked for, and has a state. -/
structure ThreadOk (states : List StateRow) (thread : Thread) : Prop where
  owner : requiredText thread.owner "owner_username" 128 = .ok thread.owner
  threadId : requiredText thread.threadId "thread_id" 128 = .ok thread.threadId
  state : (thread.threadId, thread.owner) ∈ states.map StateRow.key

/-- What every operation keeps. -/
structure Sound (py : Python) (memory : Memory) : Prop where
  threads : ∀ thread ∈ memory.threads, ThreadOk memory.states thread
  states : ∀ row ∈ memory.states, RowOk py row
  turns : ∀ turn ∈ memory.turns.rows, TurnOk turn

theorem sound_empty (py : Python) : Sound py Memory.empty := ⟨nofun, nofun, nofun⟩

/-- A text that has been required is what it is required to be. -/
theorem requiredText_idem {value fieldName text : String} {maxChars : Nat}
    (h : requiredText value fieldName maxChars = .ok text) :
    requiredText text fieldName maxChars = .ok text := by
  unfold requiredText at h ⊢
  dsimp only at h ⊢
  split at h
  · cases h
  · next hnonempty =>
    split at h
    · cases h
    · next hshort =>
      cases h
      rw [strip_strip, if_neg hnonempty, if_neg hshort]

/-- The id of a thread is asked for as it is. -/
theorem requiredText_threadId (uuid : Uuid) :
    requiredText ("ath_" ++ uuid.hex) "thread_id" 128 = .ok ("ath_" ++ uuid.hex) := by
  have hspace : ∀ c ∈ ("ath_" ++ uuid.hex).toList, isSpace c = false := by
    intro c hc
    rw [String.toList_append, List.mem_append] at hc
    have hvisible : ("ath_0123456789abcdef".toList.all fun c => !isSpace c) = true := by decide
    rcases hc with hc | hc
    · simpa using List.all_eq_true.mp hvisible c (List.mem_append_left "0123456789abcdef".toList hc)
    · simpa using List.all_eq_true.mp hvisible c
        (List.mem_append_right "ath_".toList (uuid.digits c hc))
  have hstrip : strip ("ath_" ++ uuid.hex) = "ath_" ++ uuid.hex := by
    rw [strip, stripChars_of_noSpace hspace, String.ofList_toList]
  have hlength : ("ath_" ++ uuid.hex).length = 36 := by
    rw [String.length_append, uuid.length]
    rfl
  have hnonempty : "ath_" ++ uuid.hex ≠ "" := by simp
  unfold requiredText
  dsimp only
  rw [hstrip, if_neg hnonempty, hlength]
  rfl

theorem newStateRow_ok (py : Python) (threadId owner : String) :
    RowOk py (newStateRow threadId owner) := by
  constructor
  · exact Nat.one_pos
  · exact Int.one_pos
  · simp only [permittedAssertions, List.forall_mem_cons]
    exact ⟨⟨Nat.zero_le _, nofun, nofun⟩, ⟨Nat.zero_le _, nofun, nofun⟩,
      ⟨Nat.zero_le _, nofun, nofun⟩, ⟨Nat.zero_le _, nofun, nofun⟩, nofun⟩
  · rfl
  · rfl
  · exact nofun
  · change encodedLength (candidate 1 [] [] [] [] none (.obj []) false) ≤ maxJsonChars
    decide +kernel

/-- Threads may change in everything but their ids and owners. -/
theorem Sound.mapThreads {py : Python} {memory : Memory} (h : Sound py memory) {f : Thread → Thread}
    (hf : ∀ t, (f t).threadId = t.threadId ∧ (f t).owner = t.owner) :
    Sound py { memory with threads := memory.threads.map f } := by
  refine ⟨fun thread hthread => ?_, h.states, h.turns⟩
  obtain ⟨before, hbefore, rfl⟩ := List.mem_map.mp hthread
  obtain ⟨howner, hid, hstate⟩ := h.threads before hbefore
  obtain ⟨hfid, hfowner⟩ := hf before
  constructor
  · rw [hfowner]
    exact howner
  · rw [hfid]
    exact hid
  · rw [hfid, hfowner]
    exact hstate

theorem Sound.updateThread {py : Python} {memory : Memory} (h : Sound py memory)
    (threadId owner : String) {f : Thread → Thread}
    (hf : ∀ t, (f t).threadId = t.threadId ∧ (f t).owner = t.owner) :
    Sound py (memory.updateThread threadId owner f) := by
  refine h.mapThreads fun t => ?_
  split
  · exact hf t
  · exact ⟨rfl, rfl⟩

theorem Sound.updateState {py : Python} {memory : Memory} (h : Sound py memory)
    (threadId owner : String) {f : StateRow → StateRow} (hkey : ∀ row, (f row).key = row.key)
    (hf : ∀ row ∈ memory.states, row.threadId = threadId → row.owner = owner → RowOk py (f row)) :
    Sound py (memory.updateState threadId owner f) := by
  have hkeys : (memory.updateState threadId owner f).states.map StateRow.key =
      memory.states.map StateRow.key := by
    rw [Memory.updateState, List.map_map]
    refine List.map_congr_left fun row _ => ?_
    rw [Function.comp_apply]
    split
    · exact hkey row
    · rfl
  refine ⟨fun thread hthread => ?_, fun row hrow => ?_, h.turns⟩
  · obtain ⟨howner, hid, hstate⟩ := h.threads thread hthread
    rw [← hkeys] at hstate
    exact ⟨howner, hid, hstate⟩
  · obtain ⟨before, hbefore, rfl⟩ := List.mem_map.mp hrow
    split
    · next hmatch =>
      rw [Bool.and_eq_true, decide_eq_true_iff, decide_eq_true_iff] at hmatch
      exact hf before hbefore hmatch.1 hmatch.2
    · exact h.states before hbefore

theorem Sound.insertThread {py : Python} {memory memory' : Memory} {thread : Thread}
    (h : Sound py memory) (hinsert : memory.insertThread thread = .ok memory')
    (howner : requiredText thread.owner "owner_username" 128 = .ok thread.owner)
    (hid : requiredText thread.threadId "thread_id" 128 = .ok thread.threadId) :
    Sound py memory' := by
  unfold Memory.insertThread at hinsert
  split at hinsert
  · cases hinsert
  · cases hinsert
    refine ⟨fun other hother => ?_, fun row hrow => ?_, h.turns⟩
    · rcases List.mem_append.mp hother with hother | hother
      · obtain ⟨howner, hid, hstate⟩ := h.threads other hother
        refine ⟨howner, hid, ?_⟩
        rw [List.map_append]
        exact List.mem_append_left _ hstate
      · rw [List.mem_singleton.mp hother]
        refine ⟨howner, hid, ?_⟩
        rw [List.map_append]
        exact List.mem_append_right _ List.mem_cons_self
    · rcases List.mem_append.mp hrow with hrow | hrow
      · exact h.states row hrow
      · rw [List.mem_singleton.mp hrow]
        exact newStateRow_ok py _ _

/-- A new turn may be added. -/
theorem Sound.insertTurn {py : Python} {memory : Memory} (h : Sound py memory) {turn : Nat → Turn}
    (hid : ∀ id, (turn id).id = id) (hturn : TurnOk (turn memory.turns.next)) :
    Sound py { memory with turns := memory.turns.insert turn hid } := by
  refine ⟨h.threads, h.states, fun other hother => ?_⟩
  rw [Table.insert_rows] at hother
  rcases List.mem_append.mp hother with hother | hother
  · exact h.turns other hother
  · rw [List.mem_singleton.mp hother]
    exact hturn

/-! ## Every operation keeps the invariant -/

/-- What a finished execution writes can be read back: the texts and the provenance of the entries it
    adds, and the length of the state. -/
def Finalization.fits (py : Python) (memory : Memory) (new : Finalization) : Bool :=
  match sanitizeText new.content "content" maxContentChars, finalPayload new,
    memory.thread? new.threadId new.ownerUsername, memory.turns.row? new.userTurnId with
  | .ok content, .ok payload, some thread, some userTurn =>
    let turn := assistantTurnRow new thread new.clientRequestId content payload memory.turns.next
    inferenceFits content payload new.artifactPreview && questionFits userTurn &&
      memory.states.all fun row =>
        !(row.threadId = new.threadId && row.owner = new.ownerUsername) ||
          mergedLength py userTurn turn new.workflow new.artifactPreview row ≤ maxJsonChars
  | _, _, _, _ => true

/-- The state is short enough when its eight fields are spelled out. -/
def SavedState.fits (py : Python) (new : SavedState) : Bool :=
  match validateThreadState py new.state with
  | .ok clean => encodedLength (spelledOut clean) ≤ maxJsonChars
  | .error _ => true

/-- What an operation writes can be read back. -/
def Fits (py : Python) (memory : Memory) : Op → Prop
  | .finalize new => new.fits py memory = true
  | .save new => new.fits py = true
  | .createThread _ | .appendTurn _ | .reset _ => True

instance Fits.decidable (py : Python) (memory : Memory) : (op : Op) → Decidable (Fits py memory op)
  | .finalize new => inferInstanceAs (Decidable (new.fits py memory = true))
  | .save new => inferInstanceAs (Decidable (new.fits py = true))
  | .createThread _ | .appendTurn _ | .reset _ => isTrue trivial

section

variable {py : Python} {memory memory' : Memory}

theorem Sound.createThread (h : Sound py memory) {new : NewThread}
    (hrun : createThread memory new = .ok memory') : Sound py memory' := by
  unfold SessionMemory.createThread at hrun
  obtain ⟨owner, howner, hrun⟩ := Checks.bind_eq_ok.mp hrun
  obtain ⟨entityType, -, hrun⟩ := Checks.bind_eq_ok.mp hrun
  obtain ⟨entityId, -, hrun⟩ := Checks.bind_eq_ok.mp hrun
  obtain ⟨scope, -, hrun⟩ := Checks.bind_eq_ok.mp hrun
  have hexpired : Sound py (memory.expireDefault owner scope new.now) := by
    refine h.mapThreads fun t => ?_
    split <;> exact ⟨rfl, rfl⟩
  split at hrun
  · cases hrun
  · dsimp only at hrun
    split at hrun
    · split at hrun
      · cases hrun
        exact hexpired
      · exact hexpired.insertThread hrun (requiredText_idem howner) (requiredText_threadId new.uuid)
    · exact h.insertThread hrun (requiredText_idem howner) (requiredText_threadId new.uuid)

theorem Sound.appendTurn (h : Sound py memory) {new : NewTurn}
    (hrun : appendTurn memory new = .ok memory') : Sound py memory' := by
  unfold SessionMemory.appendTurn at hrun
  obtain ⟨owner, -, hrun⟩ := Checks.bind_eq_ok.mp hrun
  obtain ⟨threadId, -, hrun⟩ := Checks.bind_eq_ok.mp hrun
  obtain ⟨requestId, -, hrun⟩ := Checks.bind_eq_ok.mp hrun
  obtain ⟨content, hcontent, hrun⟩ := Checks.bind_eq_ok.mp hrun
  obtain ⟨payload, -, hrun⟩ := Checks.bind_eq_ok.mp hrun
  obtain ⟨u, -, hrun⟩ := Checks.bind_eq_ok.mp hrun
  obtain ⟨thread, -, hrun⟩ := Checks.bind_eq_ok.mp hrun
  obtain ⟨hclean, -, hvisible⟩ := sanitizeText_eq_ok hcontent
  split at hrun
  · cases hrun
    exact h
  · obtain ⟨u, -, hrun⟩ := Checks.bind_eq_ok.mp hrun
    dsimp only at hrun
    split at hrun
    · cases hrun
    · split at hrun
      · cases hrun
      · split at hrun
        · cases hrun
        · cases hrun
          exact (h.insertTurn (appendedTurn_id new thread requestId content payload)
            ⟨hclean, hvisible, sanitizeString_turnId new.uuid⟩).updateThread _ _
              fun t => ⟨rfl, rfl⟩

theorem Sound.resetThread (h : Sound py memory) {new : Reset}
    (hrun : resetThread memory new = .ok memory') : Sound py memory' := by
  unfold SessionMemory.resetThread at hrun
  obtain ⟨owner, howner, hrun⟩ := Checks.bind_eq_ok.mp hrun
  obtain ⟨threadId, -, hrun⟩ := Checks.bind_eq_ok.mp hrun
  split at hrun
  · cases hrun
  · split at hrun
    · cases hrun
      exact h
    · obtain ⟨thread, -, hrun⟩ := Checks.bind_eq_ok.mp hrun
      obtain ⟨u, -, hrun⟩ := Checks.bind_eq_ok.mp hrun
      dsimp only at hrun
      exact (h.updateThread threadId owner (f := replacedThread _) fun t => ⟨rfl, rfl⟩).insertThread
        hrun (requiredText_idem howner) (requiredText_threadId new.uuid)

theorem Sound.saveThreadState (h : Sound py memory) {new : SavedState}
    (hfits : new.fits py = true) (hrun : saveThreadState py memory new = .ok memory') :
    Sound py memory' := by
  unfold SessionMemory.saveThreadState at hrun
  obtain ⟨clean, hclean, hrun⟩ := Checks.bind_eq_ok.mp hrun
  obtain ⟨owner, -, hrun⟩ := Checks.bind_eq_ok.mp hrun
  obtain ⟨thread, -, hrun⟩ := Checks.bind_eq_ok.mp hrun
  obtain ⟨u, -, hrun⟩ := Checks.bind_eq_ok.mp hrun
  cases hrun
  rw [SavedState.fits, hclean] at hfits
  have hsaved : Sound py (memory.updateState new.threadId owner (savedRow clean)) :=
    h.updateState _ _ (fun row => rfl) fun row _ _ _ => savedRow_ok hclean (by simpa using hfits) row
  exact hsaved.updateThread _ _ fun t => ⟨rfl, rfl⟩

/-- The payload of a finished execution. -/
theorem finalPayload_eq_ok {new : Finalization} {payload : Json} (h : finalPayload new = .ok payload) :
    Fixed 0 payload := by
  unfold finalPayload sanitizePayload at h
  obtain ⟨cleanPayload, hpayload, h⟩ := Checks.bind_eq_ok.mp h
  obtain ⟨cleanSnapshot, -, h⟩ := Checks.bind_eq_ok.mp h
  split at h
  · cases h
  · cases h
    obtain ⟨w, hw, h⟩ := Checks.bind_eq_ok.mp hpayload
    split at h
    · cases h
    · cases h
      exact sanitizeValue_fixed hw

theorem lockMutableThread_eq_ok {threadId owner : String} {now : Int} {thread : Thread}
    (h : lockMutableThread memory threadId owner now = .ok thread) :
    memory.thread? threadId owner = some thread := by
  unfold lockMutableThread at h
  split at h
  · cases h
  · next hthread =>
    split at h
    · cases h
    · split at h
      · cases h
      · cases h
        exact hthread

theorem Sound.completeTurn (h : Sound py memory) (userTurnId : Nat) {turn : Nat → Turn}
    (hid : ∀ id, (turn id).id = id) (hturn : TurnOk (turn memory.turns.next)) :
    Sound py (memory.completeTurn userTurnId turn hid) := by
  have hinserted := h.insertTurn hid hturn
  refine ⟨hinserted.threads, hinserted.states, fun other hother => ?_⟩
  rw [Memory.completeTurn, Table.update_rows] at hother
  obtain ⟨before, hbefore, rfl⟩ := List.mem_map.mp hother
  have hturn := hinserted.turns before hbefore
  split
  · exact hturn.completed
  · exact hturn

/-- The payload of an inference has been checked. -/
theorem inferenceOk_of_check {new : Finalization} {payload : Json}
    (hpayload : finalPayload new = .ok payload)
    (hcheck : checkFinalInference new.artifactPreview payload = .ok ())
    (hpreview : new.artifactPreview = false) : InferenceOk payload := by
  rw [checkFinalInference, hpreview, if_neg (by simp)] at hcheck
  obtain ⟨hconfidence, hprovenance⟩ := checkInference_eq_ok hcheck
  exact ⟨finalPayload_eq_ok hpayload, hconfidence, hprovenance⟩

theorem Sound.finalizeExecutionTurn (h : Sound py memory) {new : Finalization}
    (hfits : new.fits py memory = true)
    (hrun : finalizeExecutionTurn py memory new = .ok memory') : Sound py memory' := by
  unfold SessionMemory.finalizeExecutionTurn at hrun
  obtain ⟨content, hcontent, hrun⟩ := Checks.bind_eq_ok.mp hrun
  obtain ⟨payload, hpayload, hrun⟩ := Checks.bind_eq_ok.mp hrun
  obtain ⟨u, hcheck, hrun⟩ := Checks.bind_eq_ok.mp hrun
  obtain ⟨thread, hlock, hrun⟩ := Checks.bind_eq_ok.mp hrun
  obtain ⟨u', -, hrun⟩ := Checks.bind_eq_ok.mp hrun
  have hthread := lockMutableThread_eq_ok hlock
  obtain ⟨hclean, -, hvisible⟩ := sanitizeText_eq_ok hcontent
  split at hrun
  · cases hrun
  · next userTurn huser =>
    have hrow : memory.turns.row? new.userTurnId = some userTurn :=
      (Option.filter_eq_some_iff.mp huser).1
    have huserOk : TurnOk userTurn := by
      refine h.turns userTurn (Table.mem_rows.mpr ?_)
      rw [memory.turns.keyed _ _ hrow]
      exact hrow
    rw [Finalization.fits, hcontent, hpayload, hthread, hrow] at hfits
    dsimp only at hfits
    rw [Bool.and_eq_true, Bool.and_eq_true, List.all_eq_true] at hfits
    obtain ⟨⟨hinference, hquestion⟩, hlength⟩ := hfits
    split at hrun
    · cases hrun
    · split at hrun
      · cases hrun
      · obtain ⟨requestId, -, hrun⟩ := Checks.bind_eq_ok.mp hrun
        dsimp only at hrun
        split at hrun
        · cases hrun
        · cases hrun
          have hturn : TurnOk (assistantTurnRow new thread requestId content payload
              memory.turns.next) := ⟨hclean, hvisible, sanitizeString_turnId new.uuid⟩
          have hadded := h.completeTurn new.userTurnId
            (assistantTurnRow_id new thread requestId content payload) hturn
          have hsummarized := hadded.updateThread new.threadId new.ownerUsername
            (f := summarizedThread new.now userTurn.content content) fun t => ⟨rfl, rfl⟩
          refine hsummarized.updateState _ _ (f := mergedRow py (completedTurn userTurn) _ new.workflow
            new.artifactPreview) (fun row => rfl) fun row hmem hid howner => ?_
          have hshort := hlength row hmem
          rw [hid, howner] at hshort
          have hsame : mergedLength py (completedTurn userTurn) (assistantTurnRow new thread requestId
                content payload memory.turns.next) new.workflow new.artifactPreview row =
              mergedLength py userTurn (assistantTurnRow new thread new.clientRequestId content payload
                memory.turns.next) new.workflow new.artifactPreview row := rfl
          exact mergedRow_ok (h.states row hmem) huserOk.completed hturn
            (inferenceOk_of_check hpayload hcheck) hinference hquestion
            (by rw [hsame]; simpa using hshort)

end

theorem Sound.step {py : Python} {memory : Memory} (h : Sound py memory) {op : Op}
    (hfits : Fits py memory op) : Sound py (stepOp py memory op) := by
  unfold stepOp
  split
  · next memory' hrun =>
    cases op with
    | createThread new => exact h.createThread hrun
    | appendTurn new => exact h.appendTurn hrun
    | finalize new => exact h.finalizeExecutionTurn hfits hrun
    | save new => exact h.saveThreadState hfits hrun
    | reset new => exact h.resetThread hrun
  · exact h

/-- Every thread of a sound memory can be read. -/
theorem Sound.readable {py : Python} {memory : Memory} (h : Sound py memory) {thread : Thread}
    (hthread : thread ∈ memory.threads) : Readable py memory thread := by
  obtain ⟨howner, hid, hstate⟩ := h.threads thread hthread
  obtain ⟨other, hother, hkey⟩ := List.mem_map.mp hstate
  have hsome : (memory.state? thread.threadId thread.owner).isSome = true := by
    rw [Memory.state?, List.find?_isSome]
    refine ⟨other, hother, ?_⟩
    rw [StateRow.key, Prod.mk.injEq] at hkey
    rw [hkey.1, hkey.2]
    simp
  obtain ⟨row, hrow⟩ := Option.isSome_iff_exists.mp hsome
  have hfound : (memory.thread? thread.threadId thread.owner).isSome = true := by
    rw [Memory.thread?, List.find?_isSome]
    exact ⟨thread, hthread, by simp⟩
  obtain ⟨found, hfound⟩ := Option.isSome_iff_exists.mp hfound
  have hget : getThread py memory thread.threadId thread.owner = safeStateFromJoin py (some row) := by
    rw [getThread, howner, hid, ← hrow]
    dsimp only [bind, Except.bind]
    rw [hfound]
  exact (h.states row (List.mem_of_find?_eq_some hrow)).readable hrow hget

/-- Along a run whose executions and saved states all fit, every thread that there is can be read: the
    stored lists are returned, and no placeholder. -/
theorem states_stay_readable (py : Python) (ops : List Op)
    (hfits : Runs.Along (stepOp py) (Fits py) Memory.empty ops) :
    ∀ thread ∈ (Runs.after (stepOp py) Memory.empty ops).threads,
      Readable py (Runs.after (stepOp py) Memory.empty ops) thread := by
  have hsound : Sound py (Runs.after (stepOp py) Memory.empty ops) :=
    Runs.invariant (fun memory op hmemory hop => hmemory.step hop) (sound_empty py) hfits
  exact fun thread hthread => hsound.readable hthread

/-- Renderings that no state of the conversations below asks for. -/
def plainPython : Python := ⟨fun _ => "", fun _ => "", fun _ _ => .ok none⟩

def sampleUuid : Uuid where
  hex := "00000000000000000000000000000000"
  length := by decide
  digits := by
    intro c hc
    rw [List.eq_of_mem_replicate (show c ∈ List.replicate 32 '0' from hc)]
    exact List.mem_cons_self

/-- One question and its answer, on the grounds that are given. -/
def conversation (provenance : Json) : List Op :=
  [ .createThread
      { ownerUsername := "analyst"
        primaryEntityType := "ip"
        primaryEntityId := "203.0.113.5"
        scopeKey := "ip:203.0.113.5"
        isDefault := true
        domain := "siem"
        now := 0
        uuid := sampleUuid },
    .appendTurn
      { threadId := "ath_00000000000000000000000000000000"
        ownerUsername := "analyst"
        expectedVersion := 1
        clientRequestId := "request"
        role := "user"
        content := "Is this a scan?"
        assertionType := "analyst_statement"
        workflow := some "quick_explain"
        lifecycleStatus := "queued"
        now := 0
        uuid := sampleUuid },
    .finalize
      { threadId := "ath_00000000000000000000000000000000"
        ownerUsername := "analyst"
        userTurnId := 1
        expectedThreadVersion := 2
        workflow := "quick_explain"
        content := "It is."
        clientRequestId := "request:assistant"
        structuredPayload := .obj [("confidence", .str "high"), ("provenance", provenance)]
        now := 0
        uuid := sampleUuid } ]

/-- A conversation whose grounds name a workflow. -/
def shallowConversation : List Op :=
  conversation (.obj [("workflow", .str "quick_explain")])

theorem shallow_conversation_readable :
    ∃ thread ∈ (Runs.after (stepOp plainPython) Memory.empty shallowConversation).threads,
      Readable plainPython (Runs.after (stepOp plainPython) Memory.empty shallowConversation)
        thread := by
  have hthreads :
      (Runs.after (stepOp plainPython) Memory.empty shallowConversation).threads ≠ [] := by
    decide +kernel
  exact ⟨_, List.head_mem hthreads, states_stay_readable plainPython shallowConversation
    (by decide +kernel) _ (List.head_mem hthreads)⟩

/-- Dicts in dicts. -/
def nested : Nat → Json
  | 0 => .int 1
  | n + 1 => .obj [("source", nested n)]

/-- The lists of a thread that can be read are as long as those that are stored. -/
theorem Readable.conclusions_length {py : Python} {memory : Memory} {thread : Thread}
    (h : Readable py memory thread) {row : StateRow} {state : Json}
    (hrow : memory.state? thread.threadId thread.owner = some row)
    (hget : getThread py memory thread.threadId thread.owner = .ok state) :
    (listField state "conclusions").length = row.conclusions.length := by
  obtain ⟨row', state', hrow', hget', hconclusions, -⟩ := h
  rw [hrow] at hrow'
  rw [hget] at hget'
  cases hrow'
  cases hget'
  have hlist : listField state "conclusions" = row.conclusions := by
    have hstored : state.getD "conclusions" (.arr []) = .arr row.conclusions := by
      rw [Json.getD, get?_of_get hconclusions (by simp)]
      rfl
    rw [listField, hstored]
  rw [hlist]

/-- Grounds that fit the payload of the turn, but are nested too deeply for the state: every operation
    succeeds, and the state is replaced when it is read. -/
theorem nested_provenance_unreadable :
    Runs.Along (stepOp plainPython) (fun memory op => (runOp plainPython memory op).isOk = true)
        Memory.empty (conversation (nested 4)) ∧
      ¬ ∀ thread ∈ (Runs.after (stepOp plainPython) Memory.empty (conversation (nested 4))).threads,
        Readable plainPython
          (Runs.after (stepOp plainPython) Memory.empty (conversation (nested 4))) thread := by
  refine ⟨by decide +kernel, fun h => ?_⟩
  have hlost : ∃ thread ∈
      (Runs.after (stepOp plainPython) Memory.empty (conversation (nested 4))).threads,
      ((Runs.after (stepOp plainPython) Memory.empty (conversation (nested 4))).state?
          thread.threadId thread.owner).any (·.conclusions.length = 1) = true ∧
        ((getThread plainPython (Runs.after (stepOp plainPython) Memory.empty
          (conversation (nested 4))) thread.threadId thread.owner).toOption.any fun state =>
            (listField state "conclusions").length = 0) = true := by
    decide +kernel
  obtain ⟨thread, hthread, hstored, hread⟩ := hlost
  rw [Option.any_eq_true] at hstored hread
  obtain ⟨row, hrow, hone⟩ := hstored
  obtain ⟨state, hstate, hnone⟩ := hread
  have hsame := (h thread hthread).conclusions_length hrow (Checks.toOption_eq_some.mp hstate)
  rw [of_decide_eq_true hone, of_decide_eq_true hnone] at hsame
  cases hsame

end SiemDashboard.SessionMemory
