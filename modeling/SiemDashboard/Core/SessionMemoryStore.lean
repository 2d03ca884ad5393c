import SiemDashboard.Core.SessionMemoryValues
import SiemDashboard.Lib.Tables

/-!
# Session memory store

`core/ai/session_memory_store.py`: conversation threads, their turns, and the state that is derived from
the turns.  A function that locks the thread with `FOR UPDATE` is one step.

* **Rows** — `Thread`, `Turn`, `StateRow`, and `Memory`, the three tables.
* **Locks** — `lockMutableThread`.
* **Derived state** — `mergeDerivedState`, `summaryWithLatest`.
* **Operations** — `createThread`, `appendTurn`, `finalizeExecutionTurn`, `failExecutionTurn`,
  `expireThreadIfDue`, `saveThreadState`, `resetThread`.
* **Reading** — `getThread`, with `safeStateFromJoin`.
-/

namespace SiemDashboard.SessionMemory

open Python Tables

/-! ## Rows -/

/-- The `status` of a thread. -/
inductive ThreadStatus where
  | active
  | expired
  | reset
  | closed
  | archived
deriving DecidableEq, Repr

/-- A row of `anakin_threads`. -/
structure Thread where
  threadId : String
  owner : String
  primaryEntityType : String
  primaryEntityId : String
  scopeKey : String
  isDefault : Bool
  status : ThreadStatus
  compactSummary : Option String
  nextSequence : Nat
  version : Nat
  expiresAt : Int
  replacedByThreadId : Option String

/-- A row of `anakin_turns`. -/
structure Turn where
  id : Nat
  turnId : String
  threadId : String
  owner : String
  sequence : Nat
  threadVersionAfterAppend : Nat
  role : String
  workflow : Option String
  content : String
  structuredPayload : Json
  assertionType : String
  clientRequestId : String
  parentTurnId : Option Nat
  lifecycleStatus : String

/-- A row of `anakin_thread_state`; the four lists are JSON arrays. -/
structure StateRow where
  threadId : String
  owner : String
  schemaVersion : Int
  stateVersion : Nat
  conclusions : List Json
  unresolvedQuestions : List Json
  recommendations : List Json
  corrections : List Json
  compactSummary : Option String
  rebuildMetadata : Json
  rebuildRequired : Bool

/-- The tables. -/
structure Memory where
  threads : List Thread
  turns : Table Turn Turn.id
  states : List StateRow

/-- Nothing is remembered. -/
def Memory.empty : Memory := ⟨[], .empty, []⟩

/-- A new uuid, of 32 hexadecimal digits. -/
structure Uuid where
  hex : String
  length : hex.length = 32
  digits : ∀ c ∈ hex.toList, c ∈ "0123456789abcdef".toList

/-- `SELECT * FROM anakin_threads WHERE thread_id = … AND owner_username = …`. -/
def Memory.thread? (memory : Memory) (threadId owner : String) : Option Thread :=
  memory.threads.find? fun t => t.threadId = threadId && t.owner = owner

/-- `SELECT * FROM anakin_thread_state WHERE thread_id = … AND owner_username = …`. -/
def Memory.state? (memory : Memory) (threadId owner : String) : Option StateRow :=
  memory.states.find? fun s => s.threadId = threadId && s.owner = owner

/-- `UPDATE anakin_threads SET … WHERE thread_id = … AND owner_username = …`. -/
def Memory.updateThread (memory : Memory) (threadId owner : String) (f : Thread → Thread) : Memory :=
  { memory with
    threads := memory.threads.map fun t =>
      if t.threadId = threadId && t.owner = owner then f t else t }

/-- `UPDATE anakin_thread_state SET … WHERE thread_id = … AND owner_username = …`. -/
def Memory.updateState (memory : Memory) (threadId owner : String) (f : StateRow → StateRow) :
    Memory :=
  { memory with
    states := memory.states.map fun s =>
      if s.threadId = threadId && s.owner = owner then f s else s }

/-- `_required_text`. -/
def requiredText (value fieldName : String) (maxChars : Nat) : Except SessionMemoryError String :=
  let text := strip value
  if text = "" then .error (.validation s!"{fieldName} is required.")
  else if text.length > maxChars then .error (.validation s!"{fieldName} is too large.")
  else .ok text

/-- `ACTIVE_RETENTION`, in microseconds. -/
def activeRetention : Int := 7 * 24 * 3600 * 1000000

/-! ## Locks -/

/-- `_lock_mutable_thread`: a thread that is due expires, which is undone with the error. -/
def lockMutableThread (memory : Memory) (threadId owner : String) (now : Int) :
    Except SessionMemoryError Thread :=
  match memory.thread? threadId owner with
  | none => .error (.notFound "Thread not found.")
  | some thread =>
    if thread.status = .expired ∨ thread.status = .active ∧ thread.expiresAt ≤ now then
      .error .expired
    else if thread.status ≠ .active then .error (.closed "Thread is not active.")
    else .ok thread

/-- The check on the version that the caller has seen. -/
def checkVersion (thread : Thread) (expectedVersion : Int) : Except SessionMemoryError Unit :=
  if thread.version ≠ expectedVersion then
    .error (.versionConflict
      s!"Thread version conflict: expected {expectedVersion}, current {thread.version}.")
  else .ok ()

/-! ## Derived state -/

/-- `_summary_with_latest`. -/
def summaryWithLatest (existing : Option String) (userContent assistantContent : String) : String :=
  let parts := (existing.filter (· ≠ "")).toList.map strip ++
    ["Analyst: " ++ strip userContent, "Anakin: " ++ strip assistantContent]
  let combined := "\n".intercalate (parts.filter (· ≠ ""))
  String.ofList (combined.toList.drop (combined.length - maxStringChars))

/-- `items[-8:]`. -/
def lastEight (items : List Json) : List Json := items.drop (items.length - 8)

/-- A text or `None`. -/
def optionalNat (n : Option Nat) : Json :=
  match n with
  | none => .null
  | some n => .int n

/-- The entry that a correction adds. -/
def correctionEntry (userTurn : Turn) : Json :=
  .obj
    [ ("assertion_type", .str "correction"), ("content", .str userTurn.content),
      ("turn_id", .str userTurn.turnId), ("supersedes_turn_id", optionalNat userTurn.parentTurnId) ]

/-- The entry that an open question adds. -/
def questionEntry (userTurn : Turn) : Json :=
  .obj
    [ ("assertion_type", .str "unresolved_question"), ("content", .str userTurn.content),
      ("turn_id", .str userTurn.turnId) ]

/-- The entry that the assistant's turn adds. -/
def inferenceEntry (assistantTurn : Turn) (workflow : String) : Json :=
  .obj
    [ ("assertion_type", .str "model_inference"), ("content", .str assistantTurn.content),
      ("confidence", assistantTurn.structuredPayload.getD "confidence" (.str "medium")),
      ("provenance", (assistantTurn.structuredPayload.get "provenance").orElse
        (.obj [("workflow", .str workflow)])),
      ("turn_id", .str assistantTurn.turnId), ("turn_database_id", .int assistantTurn.id) ]

/-- The open question that the user's turn answers, as its payload says. -/
def resolvedReferent (userTurn : Turn) : Option Json :=
  let resolution := (userTurn.structuredPayload.get "reference_resolution").dictOrEmpty
  let referent := (resolution.get "referent").dictOrEmpty
  if (resolution.get "status").isOneOf ["resolved"] &&
      (referent.get "type").isOneOf ["unresolved_question"] then
    some (referent.get "value")
  else none

/-- The questions that stay open. -/
def openQuestions (py : Python) (questions : List Json) (userTurn : Turn) : List Json :=
  match resolvedReferent userTurn with
  | none => questions
  | some value =>
    let rest := questions.filter fun item => !equal py item value
    if rest.length = questions.length then rest.dropLast else rest

/-- The conclusions that a correction does not supersede. -/
def standingConclusions (py : Python) (conclusions : List Json) (userTurn : Turn) :
    List Json :=
  if userTurn.assertionType = "correction" then
    conclusions.filter fun item =>
      !item.isObj || !equal py (item.get "turn_database_id") (optionalNat userTurn.parentTurnId)
  else conclusions

/-- What the turns add to the conclusions. -/
def newConclusions (assistantTurn : Turn) (workflow : String) (artifactPreview : Bool) : List Json :=
  if artifactPreview then [] else [inferenceEntry assistantTurn workflow]

/-- What they add to the open questions. -/
def newQuestions (userTurn : Turn) : List Json :=
  if userTurn.assertionType = "unresolved_question" then [questionEntry userTurn] else []

/-- What they add to the recommendations. -/
def newRecommendations (assistantTurn : Turn) (workflow : String) (artifactPreview : Bool) :
    List Json :=
  if artifactPreview || workflow ≠ "decision_support" then []
  else [inferenceEntry assistantTurn workflow]

/-- What they add to the corrections. -/
def newCorrections (userTurn : Turn) : List Json :=
  if userTurn.assertionType = "correction" then [correctionEntry userTurn] else []

/-- The `rebuild_metadata` of a state that a turn has been added to. -/
def completionMetadata (sequence : Nat) : Json :=
  .obj
    [("source", .str "deterministic_turn_completion"), ("last_sequence", .int sequence)]

/-- `_merge_derived_state`, on a row. -/
def mergedRow (py : Python) (userTurn assistantTurn : Turn) (workflow : String)
    (artifactPreview : Bool) (row : StateRow) : StateRow :=
  { row with
    stateVersion := row.stateVersion + 1
    conclusions := lastEight (standingConclusions py row.conclusions userTurn ++
      newConclusions assistantTurn workflow artifactPreview)
    unresolvedQuestions :=
      lastEight (openQuestions py row.unresolvedQuestions userTurn ++ newQuestions userTurn)
    recommendations := lastEight (row.recommendations ++
      newRecommendations assistantTurn workflow artifactPreview)
    corrections := lastEight (row.corrections ++ newCorrections userTurn)
    compactSummary :=
      some (summaryWithLatest row.compactSummary userTurn.content assistantTurn.content)
    rebuildMetadata := completionMetadata assistantTurn.sequence
    rebuildRequired := false }

/-! ## Operations -/

/-- The arguments of `create_thread`. -/
structure NewThread where
  ownerUsername : String
  primaryEntityType : String
  primaryEntityId : String
  scopeKey : String
  isDefault : Bool
  domain : String
  now : Int
  uuid : Uuid

/-- A thread as it is inserted. -/
def newThreadRow (threadId owner entityType entityId scope : String) (isDefault : Bool) (now : Int) :
    Thread where
  threadId := threadId
  owner := owner
  primaryEntityType := entityType
  primaryEntityId := entityId
  scopeKey := scope
  isDefault := isDefault
  status := .active
  compactSummary := none
  nextSequence := 1
  version := 1
  expiresAt := now + activeRetention
  replacedByThreadId := none

/-- A state as it is inserted, with the defaults of the table. -/
def newStateRow (threadId owner : String) : StateRow where
  threadId := threadId
  owner := owner
  schemaVersion := 1
  stateVersion := 1
  conclusions := []
  unresolvedQuestions := []
  recommendations := []
  corrections := []
  compactSummary := none
  rebuildMetadata := .obj []
  rebuildRequired := false

/-- A default thread that is due expires before a new one is made. -/
def Memory.expireDefault (memory : Memory) (owner scope : String) (now : Int) : Memory :=
  { memory with
    threads := memory.threads.map fun t =>
      if t.owner = owner && t.scopeKey = scope && t.isDefault && t.status = .active &&
          t.expiresAt ≤ now then
        { t with status := .expired, version := t.version + 1 }
      else t }

/-- A thread and its state are inserted, under the primary key of the threads. -/
def Memory.insertThread (memory : Memory) (thread : Thread) : Except SessionMemoryError Memory :=
  if memory.threads.any fun t => t.threadId = thread.threadId then .error .integrity
  else
    .ok
      { memory with
        threads := memory.threads ++ [thread]
        states := memory.states ++ [newStateRow thread.threadId thread.owner] }

/-- `create_thread`: a default thread of the scope that is active already is kept. -/
def createThread (memory : Memory) (new : NewThread) : Except SessionMemoryError Memory := do
  let owner ← requiredText new.ownerUsername "owner_username" 128
  let entityType ← requiredText new.primaryEntityType "primary_entity_type" 64
  let entityId ← requiredText new.primaryEntityId "primary_entity_id" 256
  let scope ← requiredText new.scopeKey "scope_key" 384
  if new.domain ≠ "siem" then
    .error (.validation "Only the SIEM thread domain is supported.")
  else
    let thread := newThreadRow ("ath_" ++ new.uuid.hex) owner (lower entityType) entityId scope
      new.isDefault new.now
    if new.isDefault then
      let memory := memory.expireDefault owner scope new.now
      if memory.threads.any fun t =>
          t.owner = owner && t.scopeKey = scope && t.isDefault && t.status = .active then
        .ok memory
      else memory.insertThread thread
    else memory.insertThread thread

/-- `ASSERTION_TYPES`. -/
def assertionTypes : List String :=
  [ "analyst_statement", "model_inference", "correction", "unresolved_question",
    "artifact_preview", "system_event" ]

/-- The workflows that the table of turns allows. -/
def workflows : List String :=
  ["quick_explain", "deep_investigate", "decision_support", "generate_artifact"]

/-- The lifecycles that the table of turns allows. -/
def lifecycles : List String :=
  ["recorded", "queued", "running", "completed", "failed", "cancelled", "superseded"]

/-- A turn that is being executed. -/
def Turn.isExecuting (t : Turn) : Bool :=
  t.lifecycleStatus = "queued" || t.lifecycleStatus = "running"

def Memory.turnsOf (memory : Memory) (threadId owner : String) : List Turn :=
  memory.turns.rows.filter fun t => t.threadId = threadId && t.owner = owner

/-- The unique request ids, the allowed workflows and lifecycles, and one execution at a time. -/
def Memory.storable (memory : Memory) (turn : Turn) : Bool :=
  turn.workflow.all workflows.contains && lifecycles.contains turn.lifecycleStatus &&
    (memory.turnsOf turn.threadId turn.owner).all fun t =>
      t.clientRequestId ≠ turn.clientRequestId && !(t.isExecuting && turn.isExecuting)

/-- The structured payload and the entity snapshot of a turn, which must be dicts; it returns the
    payload. -/
def sanitizePayload (payload snapshot : Json) (payloadName snapshotName message : String) :
    Except SessionMemoryError Json := do
  let cleanPayload ← sanitizeStructuredValue (payload.orElse (.obj [])) payloadName
  let cleanSnapshot ← sanitizeStructuredValue (snapshot.orElse (.obj [])) snapshotName
  if !cleanPayload.isObj || !cleanSnapshot.isObj then .error (.validation message)
  else .ok cleanPayload

/-- An inference needs a confidence and a provenance. -/
def checkInference (payload : Json) (message : String) : Except SessionMemoryError Unit := do
  if !(← isConfidence (payload.get "confidence")) || !(payload.get "provenance").truthy then
    .error (.validation message)
  else .ok ()

/-- The arguments of `append_turn`. -/
structure NewTurn where
  threadId : String
  ownerUsername : String
  expectedVersion : Int
  clientRequestId : String
  role : String
  content : String
  assertionType : String
  workflow : Option String := none
  structuredPayload : Json := .obj []
  parentTurnId : Option Nat := none
  entitySnapshot : Json := .obj []
  lifecycleStatus : String := "recorded"
  now : Int
  uuid : Uuid

/-- The checks `append_turn` makes on its arguments alone. -/
def checkAssertion (new : NewTurn) (payload : Json) : Except SessionMemoryError Unit :=
  if !assertionTypes.contains new.assertionType then
    .error (.validation "assertion_type is unsupported.")
  else if !(["user", "assistant", "system"].contains new.role) then
    .error (.validation "role is unsupported.")
  else if ["analyst_statement", "correction", "unresolved_question"].contains new.assertionType &&
      new.role ≠ "user" then
    .error (.validation s!"{new.assertionType} requires user role.")
  else if new.assertionType = "model_inference" && new.role ≠ "assistant" then
    .error (.validation "model_inference requires assistant role.")
  else do
    if new.assertionType = "model_inference" then
      checkInference payload "model_inference requires confidence and provenance."
    if new.assertionType = "artifact_preview" &&
        (new.role ≠ "assistant" || new.workflow ≠ some "generate_artifact") then
      .error (.validation
        "artifact_preview requires assistant role and generate_artifact workflow.")
    else if new.assertionType = "system_event" && new.role ≠ "system" then
      .error (.validation "system_event requires system role.")
    else if new.expectedVersion ≤ 0 then
      .error (.validation "expected_version must be a positive integer.")
    else .ok ()

/-- The turn `append_turn` inserts. -/
def appendedTurn (new : NewTurn) (thread : Thread) (requestId content : String) (payload : Json)
    (id : Nat) : Turn where
  id := id
  turnId := "atn_" ++ new.uuid.hex
  threadId := thread.threadId
  owner := thread.owner
  sequence := thread.nextSequence
  threadVersionAfterAppend := new.expectedVersion.toNat + 1
  role := new.role
  workflow := new.workflow
  content := content
  structuredPayload := payload
  assertionType := new.assertionType
  clientRequestId := requestId
  parentTurnId := new.parentTurnId
  lifecycleStatus := new.lifecycleStatus

theorem appendedTurn_id (new : NewTurn) (thread : Thread) (requestId content : String)
    (payload : Json) (id : Nat) : (appendedTurn new thread requestId content payload id).id = id := rfl

/-- What a new turn makes of its thread. -/
def advancedThread (now : Int) (thread : Thread) : Thread :=
  { thread with
    nextSequence := thread.nextSequence + 1
    version := thread.version + 1
    expiresAt := now + activeRetention }

/-- `append_turn`: a request that is known is answered with its turn. -/
def appendTurn (memory : Memory) (new : NewTurn) : Except SessionMemoryError Memory := do
  let owner ← requiredText new.ownerUsername "owner_username" 128
  let threadId ← requiredText new.threadId "thread_id" 128
  let requestId ← requiredText new.clientRequestId "client_request_id" 256
  let content ← sanitizeText new.content "content" maxContentChars
  let payload ← sanitizePayload new.structuredPayload new.entitySnapshot "structured_payload"
    "entity_snapshot" "structured_payload and entity_snapshot must be objects."
  checkAssertion new payload
  let thread ← lockMutableThread memory threadId owner new.now
  if (memory.turnsOf threadId owner).any fun t => t.clientRequestId = requestId then .ok memory
  else do
    checkVersion thread new.expectedVersion
    let turn := appendedTurn new thread requestId content payload
    if (turn memory.turns.next).isExecuting && (memory.turnsOf threadId owner).any (·.isExecuting) then
      .error .executionInProgress
    else if !new.parentTurnId.all fun parent =>
        (memory.turnsOf threadId owner).any fun t => t.id = parent then
      .error (.validation "parent_turn_id does not identify an owned turn in this thread.")
    else if !memory.storable (turn memory.turns.next) then .error .integrity
    else
      .ok ({ memory with
        turns := memory.turns.insert turn (appendedTurn_id new thread requestId content payload)
        }.updateThread threadId owner (advancedThread new.now))

/-- The arguments of `finalize_execution_turn`. -/
structure Finalization where
  threadId : String
  ownerUsername : String
  userTurnId : Nat
  expectedThreadVersion : Int
  workflow : String
  content : String
  clientRequestId : String
  structuredPayload : Json := .obj []
  entitySnapshot : Json := .obj []
  artifactPreview : Bool := false
  now : Int
  uuid : Uuid

/-- The turn `finalize_execution_turn` inserts. -/
def assistantTurnRow (new : Finalization) (thread : Thread) (requestId content : String)
    (payload : Json) (id : Nat) : Turn where
  id := id
  turnId := "atn_" ++ new.uuid.hex
  threadId := thread.threadId
  owner := thread.owner
  sequence := thread.nextSequence
  threadVersionAfterAppend := new.expectedThreadVersion.toNat + 1
  role := "assistant"
  workflow := some new.workflow
  content := content
  structuredPayload := payload
  assertionType := if new.artifactPreview then "artifact_preview" else "model_inference"
  clientRequestId := requestId
  parentTurnId := some new.userTurnId
  lifecycleStatus := "completed"

theorem assistantTurnRow_id (new : Finalization) (thread : Thread) (requestId content : String)
    (payload : Json) (id : Nat) :
    (assistantTurnRow new thread requestId content payload id).id = id := rfl

/-- What the end of the execution makes of the user's turn. -/
def completedTurn (t : Turn) : Turn := { t with lifecycleStatus := "completed" }

theorem completedTurn_id (t : Turn) : (completedTurn t).id = t.id := rfl

/-- What the end of the execution makes of the thread. -/
def summarizedThread (now : Int) (userContent assistantContent : String) (thread : Thread) : Thread :=
  { advancedThread now thread with
    compactSummary := some (summaryWithLatest thread.compactSummary userContent assistantContent) }

/-- The turns after the end of an execution. -/
def Memory.completeTurn (memory : Memory) (userTurnId : Nat) (turn : Nat → Turn)
    (hturn : ∀ id, (turn id).id = id) : Memory :=
  { memory with
    turns := (memory.turns.insert turn hturn).update userTurnId (fun _ => true) completedTurn
      completedTurn_id }

/-- The payload of the assistant's turn. -/
def finalPayload (new : Finalization) : Except SessionMemoryError Json :=
  sanitizePayload new.structuredPayload new.entitySnapshot "assistant structured_payload"
    "assistant entity_snapshot" "assistant structured payload and entity snapshot must be objects."

/-- A turn that is no preview is an inference. -/
def checkFinalInference (artifactPreview : Bool) (payload : Json) : Except SessionMemoryError Unit :=
  if artifactPreview then .ok ()
  else checkInference payload "assistant inference requires confidence and provenance."

/-- `finalize_execution_turn`. -/
def finalizeExecutionTurn (py : Python) (memory : Memory) (new : Finalization) :
    Except SessionMemoryError Memory := do
  let content ← sanitizeText new.content "content" maxContentChars
  let payload ← finalPayload new
  checkFinalInference new.artifactPreview payload
  let thread ← lockMutableThread memory new.threadId new.ownerUsername new.now
  checkVersion thread new.expectedThreadVersion
  match (memory.turns.row? new.userTurnId).filter fun t =>
      t.threadId = new.threadId && t.owner = new.ownerUsername with
  | none => .error (.notFound "Conversation execution turn not found.")
  | some userTurn =>
    if userTurn.threadVersionAfterAppend ≠ new.expectedThreadVersion then
      .error (.versionConflict "Conversation execution turn version is stale.")
    else if !userTurn.isExecuting then
      .error (.closed "Conversation execution turn is no longer active.")
    else do
      let requestId ← requiredText new.clientRequestId "client_request_id" 256
      let turn := assistantTurnRow new thread requestId content payload
      if !memory.storable (turn memory.turns.next) then .error .integrity
      else
        .ok (((memory.completeTurn new.userTurnId turn
            (assistantTurnRow_id new thread requestId content payload)).updateThread new.threadId
              new.ownerUsername (summarizedThread new.now userTurn.content content)).updateState
            new.threadId new.ownerUsername
            (mergedRow py (completedTurn userTurn) (turn memory.turns.next) new.workflow
              new.artifactPreview))

/-- What a failure makes of the user's turn. -/
def failedTurn (t : Turn) : Turn := { t with lifecycleStatus := "failed" }

theorem failedTurn_id (t : Turn) : (failedTurn t).id = t.id := rfl

/-- `fail_execution_turn`. -/
def failExecutionTurn (memory : Memory) (threadId owner : String) (turnId : Nat) : Memory :=
  { memory with
    turns := memory.turns.update turnId
      (fun t => t.threadId = threadId && t.owner = owner && t.isExecuting) failedTurn failedTurn_id }

/-- `_expire_thread_if_due`. -/
def expireThreadIfDue (memory : Memory) (threadId owner : String) (now : Int) : Memory :=
  memory.updateThread threadId owner fun t =>
    if t.status = .active ∧ t.expiresAt ≤ now then
      { t with status := .expired, version := t.version + 1 }
    else t

/-- The arguments of `save_thread_state`. -/
structure SavedState where
  threadId : String
  ownerUsername : String
  expectedVersion : Int
  state : Json
  now : Int

/-- `clean.get(field, [])`. -/
def listField (clean : Json) (field : String) : List Json :=
  match clean.getD field (.arr []) with
  | .arr items => items
  | _ => []

/-- What `save_thread_state` writes. -/
def savedRow (clean : Json) (row : StateRow) : StateRow :=
  { row with
    schemaVersion := ((clean.getD "schema_version" (.int 1)).int?).getD 1
    stateVersion := row.stateVersion + 1
    conclusions := listField clean "conclusions"
    unresolvedQuestions := listField clean "unresolved_questions"
    recommendations := listField clean "recommendations"
    corrections := listField clean "corrections"
    compactSummary := (clean.get "compact_summary").str?
    rebuildMetadata := clean.getD "rebuild_metadata" (.obj [])
    rebuildRequired := (clean.getD "rebuild_required" (.bool false)).truthy }

/-- `save_thread_state`. -/
def saveThreadState (py : Python) (memory : Memory) (new : SavedState) :
    Except SessionMemoryError Memory := do
  let clean ← validateThreadState py new.state
  let owner ← requiredText new.ownerUsername "owner_username" 128
  let thread ← lockMutableThread memory new.threadId owner new.now
  checkVersion thread new.expectedVersion
  return (memory.updateState new.threadId owner (savedRow clean)).updateThread new.threadId owner
    fun t => { t with version := t.version + 1 }

/-- The arguments of `reset_thread`. -/
structure Reset where
  threadId : String
  ownerUsername : String
  expectedVersion : Int
  now : Int
  uuid : Uuid

/-- What a reset makes of the thread. -/
def replacedThread (replacementId : String) (t : Thread) : Thread :=
  { t with
    status := .reset
    version := t.version + 1
    replacedByThreadId := some replacementId }

/-- `reset_thread`: a thread that has been reset before is answered with its replacement. -/
def resetThread (memory : Memory) (new : Reset) : Except SessionMemoryError Memory := do
  let owner ← requiredText new.ownerUsername "owner_username" 128
  let threadId ← requiredText new.threadId "thread_id" 128
  match memory.thread? threadId owner with
  | none => .error (.notFound "Thread not found.")
  | some old =>
    if old.status = .reset && old.replacedByThreadId.any fun replacement =>
        (memory.thread? replacement owner).isSome then
      .ok memory
    else do
      let thread ← lockMutableThread memory threadId owner new.now
      checkVersion thread new.expectedVersion
      let replacementId := "ath_" ++ new.uuid.hex
      (memory.updateThread threadId owner (replacedThread replacementId)).insertThread
        (newThreadRow replacementId owner thread.primaryEntityType thread.primaryEntityId
          thread.scopeKey thread.isDefault new.now)

/-! ## Reading -/

/-- The state as `get_thread` hands it to the validation. -/
def candidate (schemaVersion : Int)
    (conclusions unresolvedQuestions recommendations corrections : List Json)
    (compactSummary : Option String) (rebuildMetadata : Json) (rebuildRequired : Bool) : Json :=
  .obj
    [ ("schema_version", .int schemaVersion), ("conclusions", .arr conclusions),
      ("unresolved_questions", .arr unresolvedQuestions), ("recommendations", .arr recommendations),
      ("corrections", .arr corrections),
      ("compact_summary", match compactSummary with
        | none => .null
        | some summary => .str summary),
      ("rebuild_metadata", rebuildMetadata), ("rebuild_required", .bool rebuildRequired) ]

def StateRow.candidate (row : StateRow) : Json :=
  SessionMemory.candidate row.schemaVersion row.conclusions row.unresolvedQuestions
    row.recommendations row.corrections row.compactSummary row.rebuildMetadata row.rebuildRequired

/-- `_empty_rebuild_state`. -/
def emptyRebuildState (reason : String) : Json :=
  .obj
    [ ("schema_version", .int 1), ("state_version", .int 0), ("conclusions", .arr []),
      ("unresolved_questions", .arr []), ("recommendations", .arr []), ("corrections", .arr []),
      ("compact_summary", .null), ("rebuild_metadata", .obj [("reason", .str reason)]),
      ("rebuild_required", .bool true) ]

/-- `_safe_state_from_join`. -/
def safeStateFromJoin (py : Python) : Option StateRow → Except SessionMemoryError Json
  | none => .ok (emptyRebuildState "state record missing")
  | some row =>
    match validateThreadState py row.candidate with
    | .ok clean =>
      .ok (clean.set "state_version" (.int (if row.stateVersion = 0 then 1 else row.stateVersion)))
    | .error (.validation _) => .ok (emptyRebuildState "stored state failed validation")
    | .error e => .error e

/-- `get_thread` with `require_active` off, as far as the thread's state. -/
def getThread (py : Python) (memory : Memory) (threadId ownerUsername : String) :
    Except SessionMemoryError Json := do
  let owner ← requiredText ownerUsername "owner_username" 128
  let threadId ← requiredText threadId "thread_id" 128
  match memory.thread? threadId owner with
  | none => .error (.notFound "Thread not found.")
  | some _ => safeStateFromJoin py (memory.state? threadId owner)

end SiemDashboard.SessionMemory
