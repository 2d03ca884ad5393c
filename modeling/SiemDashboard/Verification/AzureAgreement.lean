import SiemDashboard.SiemAzureFunction.FunctionApp

/-!
# The poller and the adapter

A row that the poller forwards is read by the adapter as the event that the poller has mapped it to,
just where its client address is an address and its result code is none above 599.

* **Addresses** — `extractSourceIp_payload`.
* **Mapped rows** — `Mapped`, `classifyTelemetryRow_mapped`.
* **Payloads** — `readTelemetry_payload`, `event_payload`.
* **Agreement** — `forwarded_agrees_iff`.
-/

namespace SiemDashboard.AzureInsights

open Python

variable {lib : Library} {row : TelemetryRow} {mapping : Mapping}

/-! ## Addresses -/

theorem extractRealClientIp_stripped :
    strip (extractRealClientIp lib row) = extractRealClientIp lib row := by
  have hcandidate : strip (candidateText lib row) = candidateText lib row := by
    unfold candidateText
    dsimp only
    split
    · decide
    · exact strip_strip _
  unfold extractRealClientIp dropPort
  dsimp only
  split
  · exact strip_strip _
  · exact hcandidate

theorem firstNonEmptyValue_str {text : String} {rest : List Json} (h : strip text ≠ "") :
    firstNonEmptyValue (.str text :: rest) = .str (strip text) := by
  rw [firstNonEmptyValue, if_neg h]

/-- The adapter reads the address that the poller has found. -/
theorem extractSourceIp_of_get {telemetry : Json} {clientIp : String}
    (h : telemetry.get "source_ip" = .str clientIp) (hstrip : strip clientIp = clientIp)
    (hne : clientIp ≠ "") :
    extractSourceIp lib telemetry =
      (lib.ipAddress clientIp).elim (.error "Missing valid source/client IP") .ok := by
  have hne' : strip clientIp ≠ "" := by
    rw [hstrip]
    exact hne
  unfold extractSourceIp
  dsimp only
  rw [h, firstNonEmptyValue_str hne', hstrip]
  show readAddress lib (.str clientIp) = _
  have htext : strip (display lib.py (.str clientIp)) = clientIp := hstrip
  unfold readAddress
  rw [htext]
  cases lib.ipAddress clientIp <;> rfl

/-! ## Mapped rows -/

inductive Mapped (lib : Library) (row : TelemetryRow) : Mapping → Prop
  | exception (hitem : itemTypeText lib row = "exception") :
      Mapped lib row ⟨.applicationException, none⟩
  | unauthorized {code : Int} (hcode : normalizeResultCode lib row.resultCode = .ok (some code))
      (hdenied : code = 401 ∨ code = 403) : Mapped lib row ⟨.unauthorizedAccess, some code⟩
  | error {code : Int}
      (hitem : itemTypeText lib row = "request" ∨ itemTypeText lib row = "dependency")
      (hcode : normalizeResultCode lib row.resultCode = .ok (some code)) (hserver : 500 ≤ code) :
      Mapped lib row ⟨.httpError, some code⟩
  | dependency {code : Option Int} (hitem : itemTypeText lib row = "dependency")
      (hcode : normalizeResultCode lib row.resultCode = .ok code)
      (hother : ∀ n, code = some n → n ≠ 401 ∧ n ≠ 403 ∧ n < 500) :
      Mapped lib row ⟨.dependencyFailure, code⟩
  | availability (hitem : itemTypeText lib row = "availability") :
      Mapped lib row ⟨.availabilityFailure, none⟩

theorem map_eq_ok {α β : Type} {f : α → β} {r : Except String α} {b : β} (h : f <$> r = .ok b) :
    ∃ a, r = .ok a ∧ f a = b := by
  cases r with
  | error e => cases h
  | ok a => exact ⟨a, rfl, Except.ok.inj h⟩

theorem classifyTelemetryRow_mapped (h : classifyTelemetryRow lib row = .ok (.mapped mapping)) :
    Mapped lib row mapping := by
  unfold classifyTelemetryRow at h
  split at h
  · next hitem =>
    cases h
    exact .exception hitem
  split at h
  · next hitem =>
    obtain ⟨code, hcode, hmapped⟩ := map_eq_ok h
    cases code with
    | none => cases hmapped
    | some code =>
      rw [classifyRequest] at hmapped
      split at hmapped
      · next hdenied =>
        cases hmapped
        exact .unauthorized hcode hdenied
      split at hmapped
      · next hserver =>
        cases hmapped
        exact .error (.inl hitem) hcode hserver
      · cases hmapped
  split at h
  · next hitem =>
    obtain ⟨code, hcode, hmapped⟩ := map_eq_ok h
    have hfailure {code : Option Int} (hcode : normalizeResultCode lib row.resultCode = .ok code)
        (hother : ∀ n, code = some n → n ≠ 401 ∧ n ≠ 403 ∧ n < 500)
        (hmapped : classifyFailure lib row.success code = .mapped mapping) :
        Mapped lib row mapping := by
      unfold classifyFailure at hmapped
      split at hmapped
      · cases hmapped
        exact .dependency hitem hcode hother
      · cases hmapped
    cases code with
    | none => exact hfailure hcode (fun n hn => by cases hn) hmapped
    | some code =>
      rw [classifyDependency] at hmapped
      split at hmapped
      · next hdenied =>
        cases hmapped
        exact .unauthorized hcode hdenied
      split at hmapped
      · next hserver =>
        cases hmapped
        exact .error (.inr hitem) hcode hserver
      · next hdenied hserver =>
        refine hfailure hcode (fun n hn => ?_) hmapped
        cases hn
        rw [not_or] at hdenied
        exact ⟨hdenied.1, hdenied.2, not_le.mp hserver⟩
  split at h
  · next hitem =>
    cases h
    exact .availability hitem
  · cases h

/-! ## Payloads -/

/-- The base type that the poller sends. -/
def baseTypeOf : TelemetryEvent → String
  | .applicationException => "ExceptionData"
  | .availabilityFailure => "AvailabilityData"
  | .dependencyFailure => "RemoteDependencyData"
  | _ => "RequestData"

/-- What the adapter reads of a payload. -/
structure Understood (lib : Library) (mapping : Mapping) (r : Reading) : Prop where
  words : ∀ word, r.speaksOf word = mentions word (lower (baseTypeOf mapping.eventType))
  code : r.resultCode = mapping.responseCode.filter fun n => decide (0 ≤ n)
  unavailable : mapping.eventType = .availabilityFailure → r.unavailable lib = true
  success : mapping.eventType = .dependencyFailure → r.successText lib = "false"

theorem strip_of_noSpace {s : String} (h : ∀ c ∈ s.toList, isSpace c = false) : strip s = s := by
  rw [strip, stripChars_of_noSpace h, String.ofList_toList]

theorem toString_chars (n : Nat) : (toString n).toList = Nat.toDigits 10 n := by
  rw [Nat.toString_eq_ofList_toDigits, String.toList_ofList]

theorem isDigit_of_mem_toString {n : Nat} {c : Char} (h : c ∈ (toString n).toList) :
    c.isDigit = true := by
  rw [toString_chars] at h
  exact Nat.isDigit_of_mem_toDigits (by decide) (by decide) h

/-- A text with a character that is no digit is no digits. -/
theorem isDigits_of_not {digits : Digits} {text : String} {c : Char} (hc : c ∈ text.toList)
    (hascii : c.toNat < 128) (hdigit : c.isDigit = false) : digits.isDigits text = false := by
  refine Bool.eq_false_iff.mpr fun h => ?_
  rw [Digits.isDigits, Bool.and_eq_true, List.all_eq_true] at h
  have hisDigit := h.2 c hc
  rw [digits.isDigit_ascii c hascii, hdigit] at hisDigit
  cases hisDigit

theorem normalizeStatusCode_str {text : String} (hstrip : strip text = text) :
    normalizeStatusCode lib (.str text) =
      if lib.digits.isDigits text then some <$> intOfDigits lib text else .ok none := by
  rw [normalizeStatusCode, hstrip]

/-- The adapter reads back a result code that is none below zero. -/
theorem normalizeStatusCode_text (code : Option Int) :
    strip (responseCodeText code) = responseCodeText code ∧ responseCodeText code ≠ "" ∧
      normalizeStatusCode lib (.str (responseCodeText code)) =
        .ok (code.filter fun n => decide (0 ≤ n)) := by
  rcases code with - | (n | n)
  · refine ⟨by decide, by decide, ?_⟩
    have hdigits : lib.digits.isDigits "None" = false :=
      isDigits_of_not (c := 'N') (by decide) (by decide) (by decide)
    rw [responseCodeText, normalizeStatusCode_str (by decide), hdigits]
    rfl
  · have htext : responseCodeText (some (Int.ofNat n)) = toString n := rfl
    have hstrip : strip (toString n) = toString n :=
      strip_of_noSpace fun c hc => isSpace_of_isDigit (isDigit_of_mem_toString hc)
    have hne : toString n ≠ "" := by simp
    rw [htext]
    refine ⟨hstrip, hne, ?_⟩
    rw [normalizeStatusCode_str hstrip, lib.digits.isDigits_toString, if_pos rfl, intOfDigits,
      int_toString lib.digits.decimal_ascii]
    have hfilter : (some (Int.ofNat n)).filter (fun n => decide (0 ≤ n)) = some (Int.ofNat n) := by
      simp
    rw [hfilter]
    rfl
  · have htext : responseCodeText (some (Int.negSucc n)) = "-" ++ toString (n + 1) := rfl
    have hchars : ("-" ++ toString (n + 1)).toList = '-' :: (toString (n + 1)).toList := by
      rw [String.toList_append]
      rfl
    have hstrip : strip ("-" ++ toString (n + 1)) = "-" ++ toString (n + 1) := by
      refine strip_of_noSpace fun c hc => ?_
      rw [hchars] at hc
      rcases List.mem_cons.mp hc with rfl | hc
      · decide
      · exact isSpace_of_isDigit (isDigit_of_mem_toString hc)
    have hminus : '-' ∈ ("-" ++ toString (n + 1)).toList := by
      rw [hchars]
      exact List.mem_cons_self
    have hne : "-" ++ toString (n + 1) ≠ "" := by
      intro h
      rw [h] at hminus
      cases hminus
    rw [htext]
    refine ⟨hstrip, hne, ?_⟩
    rw [normalizeStatusCode_str hstrip, isDigits_of_not hminus (by decide) (by decide)]
    have hfilter : (some (Int.negSucc n)).filter (fun n => decide (0 ≤ n)) = none := by
      simp
    rw [hfilter]
    rfl

/-- The code that the adapter looks for in a payload. -/
def sentCode (telemetry : Json) : Json :=
  let baseData := ((telemetry.get "data").get "baseData").dictOrEmpty
  firstNonEmptyValue
    [ baseData.get "responseCode", baseData.get "resultCode", telemetry.get "responseCode",
      telemetry.get "resultCode", telemetry.get "statusCode" ]

theorem sentCode_payload (h : mapping.responseCode = none ∨ mapping.eventType ≠ .applicationException ∧
      mapping.eventType ≠ .availabilityFailure) :
    normalizeStatusCode lib (sentCode (rowToSiemTelemetry lib row mapping)) =
      .ok (mapping.responseCode.filter fun n => decide (0 ≤ n)) := by
  obtain ⟨event, code⟩ := mapping
  obtain ⟨hstrip, hne, hcode⟩ := @normalizeStatusCode_text lib code
  have hsent (rest : List Json) :
      normalizeStatusCode lib (firstNonEmptyValue (.str (responseCodeText code) :: rest)) =
        .ok (code.filter fun n => decide (0 ≤ n)) := by
    rw [firstNonEmptyValue_str (by rw [hstrip]; exact hne), hstrip, hcode]
  cases event with
  | applicationException =>
    rcases h with rfl | ⟨h, -⟩
    · rfl
    · exact absurd rfl h
  | availabilityFailure =>
    rcases h with rfl | ⟨-, h⟩
    · rfl
    · exact absurd rfl h
  | unauthorizedAccess => exact hsent _
  | httpError => exact hsent _
  | dependencyFailure => exact hsent _

theorem lowerText_str {text : String} (hne : text ≠ "") : lowerText lib (.str text) = lower text := by
  have htruthy : (Json.str text).truthy = true := by simpa [Json.truthy] using hne
  rw [lowerText, Json.orElse, if_pos htruthy]
  rfl

theorem baseTypeOf_text (event : TelemetryEvent) :
    strip (baseTypeOf event) = baseTypeOf event ∧ baseTypeOf event ≠ "" := by
  cases event <;> decide

/-- The adapter's base type is the one that is sent. -/
theorem baseType_payload (rest : List Json) :
    firstNonEmptyValue ((rowToSiemTelemetry lib row mapping).get "baseType" :: rest) =
      .str (baseTypeOf mapping.eventType) := by
  obtain ⟨hstrip, hne⟩ := baseTypeOf_text mapping.eventType
  have hget : (rowToSiemTelemetry lib row mapping).get "baseType" =
      .str (baseTypeOf mapping.eventType) := by
    obtain ⟨event, code⟩ := mapping
    cases event <;> rfl
  rw [hget, firstNonEmptyValue_str (by rw [hstrip]; exact hne), hstrip]

/-- A payload has no name but its base type. -/
theorem name_payload :
    firstNonEmptyValue [(rowToSiemTelemetry lib row mapping).get "name",
      (rowToSiemTelemetry lib row mapping).get "telemetryType",
      .str (baseTypeOf mapping.eventType)] = .str (baseTypeOf mapping.eventType) := by
  obtain ⟨hstrip, hne⟩ := baseTypeOf_text mapping.eventType
  have hname : (rowToSiemTelemetry lib row mapping).get "name" = .null := by
    obtain ⟨event, code⟩ := mapping
    cases event <;> rfl
  have htype : (rowToSiemTelemetry lib row mapping).get "telemetryType" = .null := by
    obtain ⟨event, code⟩ := mapping
    cases event <;> rfl
  rw [hname, htype, firstNonEmptyValue, firstNonEmptyValue,
    firstNonEmptyValue_str (by rw [hstrip]; exact hne), hstrip]

theorem falseText : lower (strip (display lib.py (.bool false))) = "false" := by
  show lower (strip "False") = "false"
  decide

/-- A failed dependency and a failed availability test are sent as such. -/
theorem success_payload (h : mapping.eventType = .dependencyFailure ∨
    mapping.eventType = .availabilityFailure) :
    (((rowToSiemTelemetry lib row mapping).get "data").get "baseData").dictOrEmpty.get "success" =
      .bool false := by
  obtain ⟨event, code⟩ := mapping
  rcases h with h | h
  · have h : event = .dependencyFailure := h
    subst h
    rfl
  · have h : event = .availabilityFailure := h
    subst h
    rfl

/-- What the adapter reads, where the address is one. -/
theorem readTelemetry_payload (hvalid : extractRealClientIp lib row ≠ "")
    (h : mapping.responseCode = none ∨ mapping.eventType ≠ .applicationException ∧
      mapping.eventType ≠ .availabilityFailure) :
    (lib.ipAddress (extractRealClientIp lib row) = none ∧
        ∃ e, readTelemetry lib (rowToSiemTelemetry lib row mapping) = .error e) ∨
      (lib.ipAddress (extractRealClientIp lib row)).isSome = true ∧
        ∃ r, readTelemetry lib (rowToSiemTelemetry lib row mapping) = .ok r ∧
          Understood lib mapping r := by
  have hcode := @sentCode_payload lib row _ h
  have hget : (rowToSiemTelemetry lib row mapping).get "source_ip" =
      .str (extractRealClientIp lib row) := by
    obtain ⟨event, code⟩ := mapping
    cases event <;> rfl
  have hsource := @extractSourceIp_of_get lib _ _ hget extractRealClientIp_stripped hvalid
  have hobj : (!(rowToSiemTelemetry lib row mapping).isObj ||
      (rowToSiemTelemetry lib row mapping).fields.isEmpty) = false := by
    obtain ⟨event, code⟩ := mapping
    cases event <;> rfl
  unfold readTelemetry
  rw [hobj, if_neg (by simp), hsource]
  unfold sentCode at hcode
  dsimp only at hcode ⊢
  cases haddress : lib.ipAddress (extractRealClientIp lib row) with
  | none => exact .inl ⟨rfl, _, rfl⟩
  | some address =>
    refine .inr ⟨rfl, ?_⟩
    dsimp only [Option.elim]
    rw [hcode]
    refine ⟨_, rfl, fun word => ?_, rfl, fun hevent => ?_, fun hevent => ?_⟩
    · unfold Reading.speaksOf
      dsimp only
      rw [baseType_payload, name_payload, lowerText_str (baseTypeOf_text _).2, Bool.or_self]
    · unfold Reading.unavailable
      dsimp only
      rw [success_payload (.inr hevent), falseText]
      rfl
    · unfold Reading.successText
      dsimp only
      rw [success_payload (.inl hevent)]
      exact falseText

/-! ## Agreement -/

/-- Where the adapter reads a mapped row as the poller does: the client address is an address, and a
    request or a dependency has no result code above 599. -/
def Forwardable (lib : Library) (row : TelemetryRow) : Prop :=
  (lib.ipAddress (extractRealClientIp lib row)).isSome = true ∧
    (itemTypeText lib row = "request" ∨ itemTypeText lib row = "dependency" →
      ∀ code, normalizeResultCode lib row.resultCode = .ok (some code) → code ≤ 599)

/-- The words that tell the base types apart. -/
theorem words_baseType (event : TelemetryEvent) :
    mentions "exception" (lower (baseTypeOf event)) = decide (event = .applicationException) ∧
      mentions "availability" (lower (baseTypeOf event)) = decide (event = .availabilityFailure) ∧
      mentions "request" (lower (baseTypeOf event)) = decide (event = .unauthorizedAccess ∨
        event = .httpError) ∧
      mentions "dependency" (lower (baseTypeOf event)) = decide (event = .dependencyFailure) := by
  cases event <;> decide +kernel

/-- The result code of a row that is mapped to a server error is none above 599. -/
def ServerError (mapping : Mapping) : Prop :=
  mapping.eventType = .httpError → ∀ code, mapping.responseCode = some code → code ≤ 599

/-- What the adapter makes of what it reads. -/
theorem Understood.event_iff {r : Reading} (hr : Understood lib mapping r)
    (h : Mapped lib row mapping) :
    (∃ event, r.event lib = .ok event ∧ event.eventType = mapping.eventType.name) ↔
      ServerError mapping := by
  obtain ⟨hexception, havailability, hrequest, hdependency⟩ := words_baseType mapping.eventType
  rw [← hr.words] at hexception havailability hrequest hdependency
  have hcode := hr.code
  unfold Reading.event
  cases h with
  | exception =>
    rw [hexception, if_pos (by decide)]
    exact iff_of_true ⟨_, rfl, rfl⟩ fun h => by cases h
  | availability =>
    rw [hexception, havailability, hr.unavailable rfl, if_neg (by decide), if_pos (by decide)]
    exact iff_of_true ⟨_, rfl, rfl⟩ fun h => by cases h
  | @unauthorized code _ hdenied =>
    have hcode : r.resultCode = some code := by
      rw [hcode, Option.filter_some, if_pos (by simp; omega)]
    have hevent : r.requestEvent? lib = some (r.make "unauthorized_access" "medium"
        (buildUnauthorizedAccessMessage r.baseData r.telemetry r.operationName code)) := by
      unfold Reading.requestEvent?
      rw [hcode]
      exact if_pos hdenied
    rw [hexception, havailability, hrequest, if_neg (by simp), if_neg (by simp),
      if_pos (by simp), hevent]
    exact iff_of_true ⟨_, rfl, rfl⟩ fun h => by cases h
  | @error code _ _ hserver =>
    have hcode : r.resultCode = some code := by
      rw [hcode, Option.filter_some, if_pos (by simp; omega)]
    have hdenied : ¬ (code = 401 ∨ code = 403) := by omega
    rw [hexception, havailability, hrequest, if_neg (by simp), if_neg (by simp),
      if_pos (by simp)]
    unfold Reading.requestEvent?
    rw [hcode, hdependency]
    dsimp only
    rw [if_neg hdenied]
    by_cases hrange : code ≤ 599
    · rw [if_pos ⟨hserver, hrange⟩]
      refine iff_of_true ⟨_, rfl, rfl⟩ fun _ other hother => ?_
      cases hother
      exact hrange
    · rw [if_neg fun h => hrange h.2, if_neg (by simp)]
      refine iff_of_false ?_ fun h => hrange (h rfl code rfl)
      rintro ⟨event, hevent, hname⟩
      cases hevent
      have hname : "normal_activity" = "http_error" := hname
      exact absurd hname (by decide)
  | @dependency code _ _ hother =>
    have hevent : r.requestEvent? lib = some (r.make "dependency_failure" "medium"
        (buildDependencyFailureMessage r.baseData r.telemetry r.operationName)) := by
      have hfailed : (r.speaksOf "dependency" && decide (r.successText lib = "false")) = true := by
        rw [hdependency, hr.success rfl]
        rfl
      unfold Reading.requestEvent?
      cases hresult : r.resultCode with
      | none => exact if_pos hfailed
      | some n =>
        have hn := Option.filter_eq_some_iff.mp (hcode.symm.trans hresult)
        obtain ⟨hne, hne', hlt⟩ := hother n hn.1
        dsimp only
        rw [if_neg (by omega), if_neg (by omega), if_pos hfailed]
    rw [hexception, havailability, hdependency, if_neg (by simp), if_neg (by simp),
      if_pos (by simp), hevent]
    exact iff_of_true ⟨_, rfl, rfl⟩ fun h => by cases h

/-- A result code above 599 is one of a row that is mapped to a server error. -/
theorem Mapped.serverError_iff (h : Mapped lib row mapping) :
    ServerError mapping ↔
      (itemTypeText lib row = "request" ∨ itemTypeText lib row = "dependency" →
        ∀ code, normalizeResultCode lib row.resultCode = .ok (some code) → code ≤ 599) := by
  cases h with
  | exception hitem =>
    refine iff_of_true (fun h => by cases h) fun hother => ?_
    rw [hitem] at hother
    exact absurd hother (by decide)
  | availability hitem =>
    refine iff_of_true (fun h => by cases h) fun hother => ?_
    rw [hitem] at hother
    exact absurd hother (by decide)
  | unauthorized hcode hdenied =>
    refine iff_of_true (fun h => by cases h) fun _ code hcode' => ?_
    cases hcode.symm.trans hcode'
    omega
  | error hitem hcode hserver =>
    constructor
    · intro h _ code hcode'
      cases hcode.symm.trans hcode'
      exact h rfl _ rfl
    · intro h _ code hsome
      cases hsome
      exact h hitem _ hcode
  | dependency hitem hcode hother =>
    refine iff_of_true (fun h => by cases h) fun _ code hcode' => ?_
    cases hcode.symm.trans hcode'
    have hlt := (hother code rfl).2.2
    omega

/-- A row with a client address that the poller has mapped is accepted by the adapter as the event it
    is mapped to, just where it can be forwarded. -/
theorem forwarded_agrees_iff (hvalid : hasValidClientIp lib row = true)
    (hclassified : classifyTelemetryRow lib row = .ok (.mapped mapping)) :
    (∃ event, normalizeAzureInsightsTelemetry lib (rowToSiemTelemetry lib row mapping) = .ok event ∧
        event.eventType = mapping.eventType.name) ↔ Forwardable lib row := by
  have hmapped := classifyTelemetryRow_mapped hclassified
  have hne : extractRealClientIp lib row ≠ "" := by
    unfold hasValidClientIp at hvalid
    simp only [Bool.and_eq_true, decide_eq_true_eq] at hvalid
    exact hvalid.1
  have hcodes : mapping.responseCode = none ∨ mapping.eventType ≠ .applicationException ∧
      mapping.eventType ≠ .availabilityFailure := by
    cases hmapped with
    | exception => exact .inl rfl
    | availability => exact .inl rfl
    | _ => exact .inr ⟨by simp, by simp⟩
  unfold Forwardable normalizeAzureInsightsTelemetry
  rw [← hmapped.serverError_iff]
  rcases readTelemetry_payload hne hcodes with ⟨haddress, e, hread⟩ | ⟨haddress, r, hread, hr⟩
  · rw [hread, haddress]
    refine iff_of_false ?_ fun h => by simpa using h.1
    rintro ⟨event, hevent, -⟩
    cases hevent
  · rw [hread]
    have hevent := hr.event_iff hmapped
    constructor
    · intro h
      exact ⟨haddress, hevent.mp h⟩
    · intro h
      exact hevent.mpr h.2

theorem deniedRequest_agrees :
    ∃ event, normalizeAzureInsightsTelemetry oneAddressLibrary
        (rowToSiemTelemetry oneAddressLibrary deniedRequest ⟨.unauthorizedAccess, some 401⟩) =
          .ok event ∧ event.eventType = "unauthorized_access" := by
  have hvalid : hasValidClientIp oneAddressLibrary deniedRequest = true := by decide +kernel
  have hclassified : classifyTelemetryRow oneAddressLibrary deniedRequest =
      .ok (.mapped ⟨.unauthorizedAccess, some 401⟩) := by decide +kernel
  refine (forwarded_agrees_iff hvalid hclassified).mpr ⟨by decide +kernel, fun _ code hcode => ?_⟩
  have hread : normalizeResultCode oneAddressLibrary deniedRequest.resultCode = .ok (some 401) := by
    decide +kernel
  cases hread.symm.trans hcode
  decide

/-- An exception whose client address is a word. -/
def unknownClient : TelemetryRow where
  itemType := .str "exception"
  timestamp := .datetime 0 "2026-07-14T12:00:00+00:00"
  clientIp := .str "unknown"

/-- A request with a result code beyond those of HTTP. -/
def strangeCode : TelemetryRow := { deniedRequest with resultCode := .str "600" }

/-- The poller takes both rows, and the adapter refuses the one and reclassifies the other. -/
theorem unknownClient_refused :
    (hasValidClientIp oneAddressLibrary unknownClient = true ∧
        classifyTelemetryRow oneAddressLibrary unknownClient =
          .ok (.mapped ⟨.applicationException, none⟩) ∧
        ¬ ∃ event, normalizeAzureInsightsTelemetry oneAddressLibrary (rowToSiemTelemetry
          oneAddressLibrary unknownClient ⟨.applicationException, none⟩) = .ok event) ∧
      hasValidClientIp oneAddressLibrary strangeCode = true ∧
        classifyTelemetryRow oneAddressLibrary strangeCode =
          .ok (.mapped ⟨.httpError, some 600⟩) ∧
        ∃ event, normalizeAzureInsightsTelemetry oneAddressLibrary (rowToSiemTelemetry
          oneAddressLibrary strangeCode ⟨.httpError, some 600⟩) = .ok event ∧
            event.eventType = "normal_activity" := by
  refine ⟨⟨by decide +kernel, by decide +kernel, ?_⟩, by decide +kernel, by decide +kernel,
    _, rfl, rfl⟩
  rintro ⟨event, hevent⟩
  have hfailed : (normalizeAzureInsightsTelemetry oneAddressLibrary (rowToSiemTelemetry
      oneAddressLibrary unknownClient ⟨.applicationException, none⟩)).isOk = false := by
    decide +kernel
  rw [hevent] at hfailed
  cases hfailed

end SiemDashboard.AzureInsights
