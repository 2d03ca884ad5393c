import SiemDashboard.Core.PlaybookRecords

/-!
# Dead letter store

`core/dead_letter_store.py`: creating or refreshing the active dead letter of a failed execution.
-/

namespace SiemDashboard.DeadLetterStore

open Python Tables

/-- `_RETRYABLE_FAILURE_CLASSES`. -/
def retryableFailureClasses : List String :=
  [ "adapter_simulation_failed", "adapter_timeout", "circuit_breaker_open", "circuit_open",
    "provider_rate_limited", "rate_limited", "temporary_provider_failure", "timeout", "transient",
    "transient_network_error" ]

/-- `classify_dead_letter_retryable` for an open dead letter of a playbook execution. -/
def classifyDeadLetterRetryable (failureClass : String) : Bool :=
  retryableFailureClasses.contains (lower (strip failureClass))

/-- `_require_text`. -/
def requireText (value field : String) : Except String String :=
  if strip value = "" then .error s!"{field} is required" else .ok (strip value)

/-- `_optional_text`. -/
def optionalText (value : Option String) : Option String :=
  match value with
  | none => none
  | some text => if strip text = "" then none else some (strip text)

/-! ## Failure messages -/

/-- `s` of `https?` without regard to case, the long s included. -/
def isLetterS (c : Char) : Bool := lowerChar c == 's' || c.toNat == 0x17F

/-- `https?://[^\s]` at the head of the text. -/
def startsUrl : List Char → Bool
  | h :: t :: t' :: p :: rest =>
    lowerChar h == 'h' && lowerChar t == 't' && lowerChar t' == 't' && lowerChar p == 'p' &&
      match rest with
      | ':' :: '/' :: '/' :: c :: _ => !isSpace c
      | s :: ':' :: '/' :: '/' :: c :: _ => isLetterS s && !isSpace c
      | _ => false
  | _ => false

/-- `_URL_RE.sub("[REDACTED_URL]", text)`; `inUrl` while the rest of a URL is passed over. -/
def scrubUrls (inUrl : Bool) : List Char → List Char
  | [] => []
  | c :: cs =>
    if inUrl then
      if isSpace c then c :: scrubUrls false cs else scrubUrls true cs
    else if startsUrl (c :: cs) then "[REDACTED_URL]".toList ++ scrubUrls true cs
    else c :: scrubUrls false cs

/-- `sanitize_failure_message`. -/
def sanitizeFailureMessage (message : String) : Option String :=
  let text := strip message
  if text = "" then none
  else
    let scrubbed := String.ofList (scrubUrls false text.toList)
    if scrubbed = "" then none else some scrubbed

theorem scrubUrls_ne_nil {cs : List Char} (h : cs ≠ []) : scrubUrls false cs ≠ [] := by
  cases cs with
  | nil => exact absurd rfl h
  | cons c cs =>
    simp only [scrubUrls]
    split
    · next hin => cases hin
    · split <;> simp

theorem sanitizeFailureMessage_isSome {message : String} (h : strip message ≠ "") :
    (sanitizeFailureMessage message).isSome := by
  have hne : String.ofList (scrubUrls false (strip message).toList) ≠ "" := by
    intro heq
    have hnil := congrArg String.toList heq
    simp only [String.toList_ofList, String.toList_empty] at hnil
    exact scrubUrls_ne_nil (by simpa using h) hnil
  simp [sanitizeFailureMessage, h, hne]

/-! ## Creating a dead letter -/

/-- The arguments of `create_dead_letter` as the playbook code passes them.  The payload is left
    out: nothing in the model reads it back. -/
structure DeadLetterArgs where
  executionId : Nat
  incidentId : Option Nat
  alertId : Option Nat
  playbookId : String
  stepIndex : Option Nat
  actionName : Option String
  failureClass : String
  errorMessage : String
  retryable : Bool
  failedAt : Int

/-- The source type of a failed playbook execution. -/
def playbookSource : String := "playbook_execution"

def activeDeadLetter? (db : Db) (sourceType : String) (sourceId : Nat) : Option DeadLetter :=
  db.deadLetters.rows.find? fun letter =>
    letter.sourceType = sourceType && letter.sourceId = sourceId && letter.status.isActive

/-- The row an insert adds. -/
def newDeadLetterRow (args : DeadLetterArgs) (failureClass errorMessage : String) (id : Nat) :
    DeadLetter where
  id := id
  sourceType := playbookSource
  sourceId := args.executionId
  executionId := some args.executionId
  incidentId := args.incidentId
  alertId := args.alertId
  playbookId := optionalText (some args.playbookId)
  stepIndex := args.stepIndex
  actionName := optionalText args.actionName
  failureClass := failureClass
  errorMessage := errorMessage
  retryable := args.retryable
  status := .open
  firstFailedAt := args.failedAt
  lastFailedAt := args.failedAt

theorem newDeadLetterRow_id (args : DeadLetterArgs) (failureClass errorMessage : String) (id : Nat) :
    (newDeadLetterRow args failureClass errorMessage id).id = id := rfl

/-- What `ON CONFLICT … DO UPDATE` makes of the active row. -/
def refreshedDeadLetter (args : DeadLetterArgs) (failureClass errorMessage : String)
    (letter : DeadLetter) : DeadLetter :=
  { letter with
    executionId := some args.executionId
    incidentId := args.incidentId.or letter.incidentId
    alertId := args.alertId.or letter.alertId
    playbookId := (optionalText (some args.playbookId)).or letter.playbookId
    stepIndex := args.stepIndex.or letter.stepIndex
    actionName := (optionalText args.actionName).or letter.actionName
    failureClass := failureClass
    errorMessage := errorMessage
    retryable := args.retryable
    lastFailedAt := args.failedAt }

/-- The lengths of the columns `action_name` and `failure_class`. -/
def fitsColumns (args : DeadLetterArgs) (failureClass : String) : Bool :=
  ((optionalText args.actionName).getD "").length ≤ 128 && failureClass.length ≤ 64

/-- `create_dead_letter` for a playbook execution. -/
def createDeadLetter (db : Db) (args : DeadLetterArgs) : Except String Unit × Db :=
  match requireText args.failureClass "failure_class" with
  | .error message => (.error message, db)
  | .ok failureClass =>
    match requireText args.errorMessage "error_message" with
    | .error message => (.error message, db)
    | .ok required =>
      match sanitizeFailureMessage required with
      | none => (.error "error_message is required", db)
      | some errorMessage =>
        if !fitsColumns args failureClass then (.error "value too long for type", db)
        else
          match activeDeadLetter? db playbookSource args.executionId with
          | some letter =>
            let refresh := refreshedDeadLetter args failureClass errorMessage
            let table := db.deadLetters.update letter.id (fun _ => true) refresh (fun _ => rfl)
            (.ok (), { db with deadLetters := table })
          | none =>
            let row := newDeadLetterRow args failureClass errorMessage
            let table := db.deadLetters.insert row (newDeadLetterRow_id args failureClass errorMessage)
            (.ok (), { db with deadLetters := table })

/-- The dead letters change only by an insert or a refresh, and nothing else changes. -/
theorem createDeadLetter_cases (db : Db) (args : DeadLetterArgs) :
    (∃ message, createDeadLetter db args = (.error message, db)) ∨
      ∃ table, createDeadLetter db args = (.ok (), { db with deadLetters := table }) := by
  unfold createDeadLetter
  cases requireText args.failureClass "failure_class" with
  | error message => exact .inl ⟨message, rfl⟩
  | ok failureClass =>
    cases requireText args.errorMessage "error_message" with
    | error message => exact .inl ⟨message, rfl⟩
    | ok required =>
      cases hmessage : sanitizeFailureMessage required with
      | none => exact .inl ⟨_, by simp [hmessage]; rfl⟩
      | some errorMessage =>
        by_cases hfits : fitsColumns args failureClass = true
        · cases hletter : activeDeadLetter? db playbookSource args.executionId with
          | some letter => exact .inr ⟨_, by simp [hmessage, hfits]; rfl⟩
          | none => exact .inr ⟨_, by simp [hmessage, hfits]; rfl⟩
        · exact .inl ⟨_, by simp [hmessage, hfits]; rfl⟩

end SiemDashboard.DeadLetterStore
