import Mathlib.Data.List.Sort
import SiemDashboard.Lib.Effects
import SiemDashboard.Lib.Python
import SiemDashboard.Lib.Tables

/-!
# Investigation workspaces

`core/investigation_workspace_store.py`: analysts own workspaces and investigations, and hang notes,
hypotheses, tasks and evidence under them.

* **Checks** — `cleanText`, `optionalText`, `ensureOwner`.
* **Rows** — `Workspace`, `OwnedRow`: a row of any of the owned tables; `WorkspaceDb`.
* **Statements** — `Cursor`, `insertRow`, `upsertRow`, `updateRow`, `deleteRow`, `touchInvestigation`.
* **Parents** — `getWorkspace`, `validateParent`, `validateHypothesisOwner`, `validateEvidenceOwner`.
* **Creation** — `createInvestigation`, `createNote`, `createHypothesis`, `createTask`,
  `createEvidence`, `linkHypothesisEvidence`, `pinWorkspaceItem`.
* **Lists** — `parentWhere`, `listNotes` and its siblings.
* **Changes** — `deleteOwnedRecord`, `updateOwnedRecord`, `reorderWorkspaceItems`.
-/

namespace SiemDashboard.InvestigationWorkspace

open Python Tables Effects

/-! ## Checks -/

def validItemTypes : List String :=
  ["alert", "incident", "recon_activity", "source_ip", "investigation", "evidence"]

def validHypothesisStatuses : List String := ["open", "supported", "rejected", "unknown"]

def validTaskStatuses : List String := ["open", "in_progress", "done"]

def validInvestigationStatuses : List String :=
  [ "open", "new", "investigating", "waiting", "awaiting_evidence", "ready_for_review", "resolved",
    "closed" ]

def validConfidenceValues : List String := ["low", "medium", "high"]

def validDispositions : List String :=
  [ "true_positive", "false_positive", "benign_expected", "needs_monitoring", "escalated",
    "undetermined" ]

def validEvidenceRelationships : List String := ["supports", "refutes", "context"]

/-- What the store raises. -/
inductive WorkspaceError where
  /-- `WorkspaceOwnershipError`. -/
  | ownership (message : String)
  /-- `LookupError`. -/
  | lookup (message : String)
  /-- `ValueError`. -/
  | value (message : String)
  /-- `TypeError`. -/
  | type (message : String)
  /-- The server refuses a statement. -/
  | database (message : String)
  /-- The driver refuses a call. -/
  | programming (message : String)
deriving Repr, DecidableEq

/-- `_clean_text`. -/
def cleanText (py : Python) (value : Json) (fieldName : String) (maxLength : Nat) :
    Except WorkspaceError String :=
  let text := strip (py.str (value.orElse (.str "")))
  if text = "" then .error (.value s!"{fieldName} is required")
  else if maxLength < text.length then
    .error (.value s!"{fieldName} must be {maxLength} characters or fewer")
  else .ok text

/-- `MAX_TEXT_LENGTH`. -/
def maxTextLength : Nat := 4000

/-- `MAX_TITLE_LENGTH`. -/
def maxTitleLength : Nat := 240

/-- `_optional_text`. -/
def optionalText (py : Python) (value : Json) (maxLength : Nat) : Json :=
  if value.isNull then .null
  else
    let text := strip (py.str value)
    if text = "" then .null else .str (String.ofList (text.toList.take maxLength))

/-- `value not in {...}`, which raises what makes no key of a set. -/
def checkOneOf (value : Json) (names : List String) (message : String) :
    Except WorkspaceError Unit :=
  if !value.hashable then .error (.type "unhashable type")
  else if !value.isOneOf names then .error (.value message)
  else .ok ()

/-- `_ensure_owner`. -/
def ensureOwner (py : Python) (ownerUsername : Json) : Except WorkspaceError String :=
  cleanText py ownerUsername "owner_username" 128

/-- A cleaned text is cleaned already. -/
theorem cleanText_idem {py : Python} {value : Json} {fieldName text : String} {maxLength : Nat}
    (h : cleanText py value fieldName maxLength = .ok text) :
    cleanText py (.str text) fieldName maxLength = .ok text := by
  unfold cleanText at h
  dsimp only at h
  split at h
  · cases h
  · next hempty =>
    split at h
    · cases h
    · next hlength =>
      cases h
      have htext : py.str ((Json.str (strip (py.str (value.orElse (.str ""))))).orElse (.str "")) =
          strip (py.str (value.orElse (.str ""))) := by
        rw [Json.orElse, if_pos (by simpa [Json.truthy] using hempty), str_str]
      unfold cleanText
      dsimp only
      rw [htext, strip_strip, if_neg hempty, if_neg hlength]

/-- A cleaned owner passes its check again. -/
theorem ensureOwner_idem {py : Python} {ownerUsername : Json} {owner : String}
    (h : ensureOwner py ownerUsername = .ok owner) : ensureOwner py (.str owner) = .ok owner :=
  cleanText_idem h

/-! ## Rows -/

/-- A row of `analyst_workspaces`. -/
structure Workspace where
  id : Nat
  ownerUsername : String
  name : String
  isDefault : Bool
  createdAt : Int
  updatedAt : Int

/-- The tables whose rows have an owner and hang under a workspace or an investigation. -/
inductive TableName where
  | workspaceItems
  | investigations
  | investigationNotes
  | investigationHypotheses
  | investigationTasks
  | evidenceReferences
  | investigationHypothesisEvidence
deriving Repr, DecidableEq

/-- A row of an owned table, before it has an id: its owner, the rows it points to, and its other
    columns. -/
structure NewRow where
  ownerUsername : String
  workspaceId : Option Nat := none
  investigationId : Option Nat := none
  hypothesisId : Option Nat := none
  evidenceReferenceId : Option Nat := none
  data : List (String × Json)

/-- A row of an owned table. -/
structure OwnedRow extends NewRow where
  id : Nat

/-- An id or `NULL`. -/
def idColumn : Option Nat → Json
  | none => .null
  | some id => .int id

/-- `row.get(name)`. -/
def OwnedRow.column (row : OwnedRow) (name : String) : Json :=
  match name with
  | "id" => .int row.id
  | "owner_username" => .str row.ownerUsername
  | "workspace_id" => idColumn row.workspaceId
  | "investigation_id" => idColumn row.investigationId
  | "hypothesis_id" => idColumn row.hypothesisId
  | "evidence_reference_id" => idColumn row.evidenceReferenceId
  | name => (row.data.lookup name).getD .null

/-- The id that a checked value names. -/
def idOf : Json → Option Nat
  | .int n => some n.toNat
  | _ => none

/-- `SET name = value`. -/
def OwnedRow.assign (row : OwnedRow) (column : String × Json) : OwnedRow :=
  match column.1 with
  | "hypothesis_id" => { row with hypothesisId := idOf column.2 }
  | "evidence_reference_id" => { row with evidenceReferenceId := idOf column.2 }
  | name => { row with data := Json.setField name column.2 row.data }

/-- `SET` of several columns. -/
def OwnedRow.assignAll (row : OwnedRow) (columns : List (String × Json)) : OwnedRow :=
  columns.foldl OwnedRow.assign row

theorem OwnedRow.assign_id (row : OwnedRow) (column : String × Json) :
    (row.assign column).id = row.id := by
  unfold OwnedRow.assign
  split <;> rfl

theorem OwnedRow.assignAll_id (row : OwnedRow) (columns : List (String × Json)) :
    (row.assignAll columns).id = row.id := by
  induction columns generalizing row with
  | nil => rfl
  | cons column columns ih => exact (ih (row.assign column)).trans (row.assign_id column)

/-- The tables. -/
structure WorkspaceDb where
  workspaces : Table Workspace Workspace.id
  owned : TableName → Table OwnedRow OwnedRow.id

/-- No rows. -/
def WorkspaceDb.empty : WorkspaceDb := ⟨.empty, fun _ => .empty⟩

/-- One table is written. -/
def WorkspaceDb.set (db : WorkspaceDb) (table : TableName) (rows : Table OwnedRow OwnedRow.id) :
    WorkspaceDb :=
  { db with owned := Function.update db.owned table rows }

@[simp] theorem WorkspaceDb.set_owned (db : WorkspaceDb) (table other : TableName)
    (rows : Table OwnedRow OwnedRow.id) :
    (db.set table rows).owned other = if other = table then rows else db.owned other := by
  by_cases hother : other = table
  · subst hother
    simp [WorkspaceDb.set]
  · simp [WorkspaceDb.set, hother]

/-- `WHERE id = …`, of an id that a client sends. -/
def WorkspaceDb.row? (db : WorkspaceDb) (table : TableName) (id : Int) : Option OwnedRow :=
  if id < 0 then none else (db.owned table).row? id.toNat

/-- What the store asks besides: the interpreter, the time of the transaction, and the tables of other
    modules. -/
structure Environment where
  py : Python
  /-- `int(v)`; the error text where it raises. -/
  toInt : Json → Except String Int
  now : Int
  /-- Whether `alerts` has the id; none where the text is no integer. -/
  alertExists : String → Option Bool
  incidentExists : String → Option Bool
  reconActivityExists : String → Option Bool
  /-- A text read as an integer by the server. -/
  integer : String → Option Int
  /-- A value stored as `INET` and read as text; none where it is no address. -/
  inet : Json → Option Json

/-- A program of the store. -/
abbrev Store := Effect WorkspaceDb WorkspaceError

/-! ## Statements -/

/-- A cursor: the result set of the last statement, if it produced one, and its row count. -/
structure Cursor where
  results : Option (List OwnedRow)
  rowcount : Nat

/-- `cur.fetchone()`. -/
def fetchone (cur : Cursor) : Store (Option OwnedRow) :=
  match cur.results with
  | none => raise (.programming "no results to fetch")
  | some rows => pure rows.head?

/-- `serialize(_fetchone_dict(cur))`. -/
def serializeFetched (cur : Cursor) (serialize : OwnedRow → Json) : Store Json := do
  match ← fetchone cur with
  | none => raise (.type "'NoneType' object has no attribute 'get'")
  | some row => return serialize row

/-- The row that is made of columns, with the times the table sets. -/
def NewRow.row (new : NewRow) (now : Int) (id : Nat) : OwnedRow :=
  { new with
    id := id
    data := new.data ++ [("created_at", .int now), ("updated_at", .int now)] }

theorem NewRow.row_id (new : NewRow) (now : Int) (id : Nat) : (new.row now id).id = id := rfl

/-- `INSERT … RETURNING`. -/
def insertRow (env : Environment) (table : TableName) (new : NewRow) : Store Cursor :=
  change fun db =>
    (⟨some [new.row env.now (db.owned table).next], 1⟩,
      db.set table ((db.owned table).insert (new.row env.now) (new.row_id env.now)))

/-- `UPDATE … SET …, updated_at = NOW() WHERE id = … AND owner_username = … RETURNING *`. -/
def updateRow (env : Environment) (table : TableName) (id : Nat) (owner : String)
    (assignments : OwnedRow → List (String × Json)) : Store Cursor :=
  change fun db =>
    let write (row : OwnedRow) := (row.assignAll (assignments row)).assign ("updated_at", .int env.now)
    let guard (row : OwnedRow) : Bool := row.ownerUsername = owner
    let written := ((db.owned table).returning id guard write).toList
    (⟨some written, written.length⟩,
      db.set table ((db.owned table).update id guard write fun row => by
        rw [OwnedRow.assign_id, OwnedRow.assignAll_id]))

/-- `INSERT … ON CONFLICT … DO UPDATE … RETURNING`. -/
def upsertRow (env : Environment) (table : TableName) (conflict : OwnedRow → Bool) (new : NewRow)
    (excluded : List (String × Json)) : Store Cursor := do
  match ← read fun db => (db.owned table).rows.find? conflict with
  | none => insertRow env table new
  | some row => updateRow env table row.id row.ownerUsername fun _ => excluded

/-- `_touch_investigation`: a statement on the same cursor, which leaves no result set. -/
def touchInvestigation (env : Environment) (cur : Cursor) (owner : String)
    (investigationId : Option Nat) : Store Cursor :=
  match investigationId with
  | none => return cur
  | some id => do
    let touched ← updateRow env .investigations id owner
      fun _ => [("last_activity_at", .int env.now)]
    return { touched with results := none }

/-- The row that a deletion is about, and the rows of the investigation that it is about. -/
def goesDirectly (table : TableName) (id : Nat) (other : TableName) (row : OwnedRow) : Bool :=
  (other = table && row.id = id) ||
    (table = .investigations && other ≠ .investigations && other ≠ .workspaceItems &&
      row.investigationId = some id)

/-- The hypothesis or the evidence that is pointed to goes with the deletion. -/
def referenceGoes (db : WorkspaceDb) (table : TableName) (id : Nat) (other : TableName)
    (reference : Option Nat) : Bool :=
  match reference.bind (db.owned other).row? with
  | none => false
  | some row => goesDirectly table id other row

/-- The rows that go with a row: `ON DELETE CASCADE`. -/
def goesWith (db : WorkspaceDb) (table : TableName) (id : Nat) (other : TableName) (row : OwnedRow) :
    Bool :=
  goesDirectly table id other row ||
    (other = .investigationHypothesisEvidence &&
      (referenceGoes db table id .investigationHypotheses row.hypothesisId ||
        referenceGoes db table id .evidenceReferences row.evidenceReferenceId))

/-- `ON DELETE SET NULL`, of the references of a task. -/
def clearReferences (db : WorkspaceDb) (table : TableName) (id : Nat) (row : OwnedRow) : OwnedRow :=
  let kept (other : TableName) (reference : Option Nat) : Option Nat :=
    if referenceGoes db table id other reference then none else reference
  { row with
    hypothesisId := kept .investigationHypotheses row.hypothesisId
    evidenceReferenceId := kept .evidenceReferences row.evidenceReferenceId }

/-- What a deletion leaves of a table. -/
def afterDelete (db : WorkspaceDb) (table : TableName) (id : Nat) (other : TableName) :
    Table OwnedRow OwnedRow.id :=
  let left := (db.owned other).delete (goesWith db table id other)
  if other = .investigationTasks then
    left.updateAll (fun _ => true) (clearReferences db table id) fun _ => rfl
  else left

/-- `DELETE … WHERE id = … AND owner_username = …`, and what the foreign keys do. -/
def deleteRow (table : TableName) (id : Nat) (owner : String) : Store Cursor :=
  change fun db =>
    match ((db.owned table).row? id).filter fun row => row.ownerUsername = owner with
    | none => (⟨none, 0⟩, db)
    | some _ => (⟨none, 1⟩, { db with owned := afterDelete db table id })

/-! ## Parents -/

section

variable (env : Environment)

/-- `_default_workspace_title`. -/
def defaultWorkspaceTitle (ownerUsername : String) : String :=
  s!"{ownerUsername}'s Investigation Workspace"

/-- The insert of `get_or_create_default_workspace`; a name is used once for an owner. -/
def insertDefaultWorkspace (owner : String) : Store Workspace := do
  let name := defaultWorkspaceTitle owner
  if ← read fun db =>
      db.workspaces.rows.any fun ws => ws.ownerUsername = owner && ws.name = name then
    raise (.database "duplicate key value violates unique constraint")
  else
    change fun db =>
      let make (id : Nat) : Workspace := ⟨id, owner, name, true, env.now, env.now⟩
      (make db.workspaces.next,
        { db with workspaces := db.workspaces.insert make fun _ => rfl })

/-- `get_or_create_default_workspace`. -/
def getOrCreateDefaultWorkspace (ownerUsername : Json) : Store Workspace := do
  let owner ← ofExcept (ensureOwner env.py ownerUsername)
  match ← read fun db =>
      db.workspaces.rows.find? fun ws => ws.ownerUsername = owner && ws.isDefault with
  | some existing => return existing
  | none => insertDefaultWorkspace env owner

/-- `get_workspace`. -/
def getWorkspace (workspaceId : Int) (ownerUsername : Json) : Store Workspace := do
  let owner ← ofExcept (ensureOwner env.py ownerUsername)
  match ← read fun db => if workspaceId < 0 then none else db.workspaces.row? workspaceId.toNat with
  | none => raise (.lookup "workspace not found")
  | some ws =>
    raiseIf (ws.ownerUsername ≠ owner) (.ownership "workspace access denied")
    return ws

/-- `_get_investigation`. -/
def getInvestigation (investigationId : Int) : Store OwnedRow := do
  match ← read fun db => db.row? .investigations investigationId with
  | none => raise (.lookup "investigation not found")
  | some row => return row

/-- `_get_investigation`, and whose it is. -/
def ownInvestigation (owner : String) (investigationId : Int) : Store OwnedRow := do
  let investigation ← getInvestigation investigationId
  raiseIf (investigation.ownerUsername ≠ owner) (.ownership "investigation access denied")
  return investigation

/-- The workspace that is named, or the default one where no parent is. -/
def workspaceOrDefault (owner : String) (workspaceId investigationId : Option Int) :
    Store (Option Int) :=
  if workspaceId.isNone && investigationId.isNone then do
    let ws ← getOrCreateDefaultWorkspace env (.str owner)
    return some ws.id
  else return workspaceId

/-- `_validate_parent`: the ids as they are stored. -/
def validateParent (owner : String) (workspaceId investigationId : Option Int) :
    Store (Option Nat × Option Nat) := do
  let workspaceId ← workspaceOrDefault env owner workspaceId investigationId
  let workspace ← optionally workspaceId fun id => getWorkspace env id (.str owner)
  let investigation ← optionally investigationId (ownInvestigation owner)
  return (workspace.map Workspace.id, investigation.map OwnedRow.id)

/-- What `_validate_hypothesis_owner` and `_validate_evidence_owner` do: the row is the owner's, and of
    the investigation that is given. -/
def validateReferenced (table : TableName) (what denied : String) (owner : String)
    (investigationId : Option Nat) (id : Int) : Store Nat := do
  match ← read fun db => db.row? table id with
  | none => raise (.lookup s!"{what} not found")
  | some row =>
    raiseIf (row.ownerUsername ≠ owner) (.ownership s!"{denied} access denied")
    raiseIf (investigationId.isSome && row.investigationId ≠ investigationId)
      (.value s!"{denied} must belong to the same investigation")
    return row.id

/-- `_validate_hypothesis_owner`. -/
def validateHypothesisOwner (owner : String) (investigationId : Option Nat) (hypothesisId : Int) :
    Store Nat :=
  validateReferenced .investigationHypotheses "hypothesis" "hypothesis" owner investigationId
    hypothesisId

/-- `_validate_evidence_owner`. -/
def validateEvidenceOwner (owner : String) (investigationId : Option Nat)
    (evidenceReferenceId : Int) : Store Nat :=
  validateReferenced .evidenceReferences "evidence reference" "evidence" owner investigationId
    evidenceReferenceId

/-- `_validate_optional_child_refs`: the ids as they are stored. -/
def validateOptionalChildRefs (owner : String) (investigationId : Option Nat)
    (hypothesisId evidenceReferenceId : Option Int) : Store (Option Nat × Option Nat) := do
  let hypothesis ← optionally hypothesisId (validateHypothesisOwner owner investigationId)
  let evidence ← optionally evidenceReferenceId (validateEvidenceOwner owner investigationId)
  return (hypothesis, evidence)

/-- The answer of another module's table. -/
def referenceFound (found : Option Bool) (missing : String) : Store Unit :=
  match found with
  | none => raise (.database "invalid input syntax for type integer")
  | some false => raise (.lookup missing)
  | some true => return

/-- `validate_reference`. -/
def validateReference (itemType : String) (referencedObjectId : Json) : Store Unit := do
  if !validItemTypes.contains itemType then raise (.value "unsupported item_type")
  else
    let ref ← ofExcept (cleanText env.py referencedObjectId "referenced_object_id" 512)
    match itemType with
    | "alert" => referenceFound (env.alertExists ref) "alert not found"
    | "incident" => referenceFound (env.incidentExists ref) "incident not found"
    | "recon_activity" => referenceFound (env.reconActivityExists ref) "recon activity not found"
    | "investigation" => do
      match env.integer ref with
      | none => referenceFound none "investigation not found"
      | some id =>
        let found ← read fun db => (db.row? .investigations id).isSome
        referenceFound (some found) "investigation not found"
    | _ => return

/-! ## What the callers see -/

/-- `_str_ts`. -/
def strTs (value : Json) : Json := if value.isNull then .null else .str (env.py.str value)

/-- The columns that are shown as they are. -/
def shown (row : OwnedRow) (names : List String) : List (String × Json) :=
  names.map fun name => (name, row.column name)

def times (row : OwnedRow) : List (String × Json) :=
  [ ("created_at", strTs env (row.column "created_at")),
    ("updated_at", strTs env (row.column "updated_at")) ]

/-- `_serialize_item`. -/
def serializeItem (row : OwnedRow) : Json :=
  .obj (shown row ["id", "workspace_id", "owner_username", "item_type", "referenced_object_type",
      "referenced_object_id", "label", "status", "item_order"] ++
    [ ("metadata", (row.column "metadata").dictOrEmpty),
      ("visibility", (row.column "visibility").orElse (.str "private")) ] ++ times env row)

/-- `_serialize_investigation`. -/
def serializeInvestigation (row : OwnedRow) : Json :=
  .obj (shown row ["id", "owner_username", "workspace_id", "title", "status", "summary"] ++
    [ ("disposition", (row.column "disposition").orElse (.str "undetermined")),
      ("confidence", (row.column "confidence").orElse (.str "medium")),
      ("conclusion", row.column "conclusion"),
      ("closed_at", strTs env (row.column "closed_at")),
      ("last_activity_at", (strTs env (row.column "last_activity_at")).orElse
        (strTs env (row.column "updated_at"))) ] ++
    shown row ["linked_alert_id", "linked_incident_id", "linked_source_ip"] ++
    [ ("visibility", (row.column "visibility").orElse (.str "private")),
      ("saved_state", (row.column "saved_state").dictOrEmpty) ] ++ times env row)

/-- `_serialize_note`. -/
def serializeNote (row : OwnedRow) : Json :=
  .obj (shown row ["id", "owner_username", "workspace_id", "investigation_id", "body"] ++
    times env row)

/-- `_serialize_hypothesis`. -/
def serializeHypothesis (row : OwnedRow) : Json :=
  .obj (shown row ["id", "owner_username", "workspace_id", "investigation_id", "title", "body",
      "status"] ++
    [("confidence", (row.column "confidence").orElse (.str "medium"))] ++ times env row)

/-- `_serialize_task`. -/
def serializeTask (row : OwnedRow) : Json :=
  .obj (shown row ["id", "owner_username", "workspace_id", "investigation_id", "title", "status",
    "hypothesis_id", "evidence_reference_id"] ++ times env row)

/-- `_serialize_evidence`. -/
def serializeEvidence (row : OwnedRow) : Json :=
  .obj (shown row ["id", "owner_username", "workspace_id", "investigation_id", "parent_type",
      "referenced_object_type", "referenced_object_id", "label", "source"] ++
    [ ("metadata", (row.column "metadata").dictOrEmpty),
      ("rationale", row.column "rationale"),
      ("relationship_type", (row.column "relationship_type").orElse (.str "context")) ] ++
    times env row)

/-- `_serialize_hypothesis_evidence_link`. -/
def serializeHypothesisEvidenceLink (row : OwnedRow) : Json :=
  .obj (shown row ["id", "owner_username", "investigation_id", "hypothesis_id",
      "evidence_reference_id"] ++
    [ ("relationship_type", (row.column "relationship_type").orElse (.str "context")),
      ("rationale", row.column "rationale") ] ++ times env row)

/-- `_serialize_owned_row`. -/
def serializeOwnedRow : TableName → OwnedRow → Json
  | .workspaceItems => serializeItem env
  | .investigations => serializeInvestigation env
  | .investigationNotes => serializeNote env
  | .investigationHypotheses => serializeHypothesis env
  | .investigationTasks => serializeTask env
  | .evidenceReferences => serializeEvidence env
  | .investigationHypothesisEvidence => serializeHypothesisEvidenceLink env

/-! ## Creation -/

/-- `validate_reference` of a link that is set. -/
def validateLinked (itemType : String) (id : Json) : Store Unit :=
  if id.isNull then pure () else validateReference env itemType (.str (env.py.str id))

/-- A value stored as `INET`. -/
def inetColumn (value : Json) : Except WorkspaceError Json :=
  if value.isNull then .ok .null
  else
    match env.inet value with
    | none => .error (.database "invalid input syntax for type inet")
    | some text => .ok text

/-- `create_investigation`. -/
def createInvestigation (ownerUsername : Json) (workspaceId : Option Int)
    (title status summary linkedAlertId linkedIncidentId linkedSourceIp savedState disposition
      confidence conclusion : Json) : Store Json := do
  let owner ← ofExcept (ensureOwner env.py ownerUsername)
  let workspace ← optionally workspaceId fun id => getWorkspace env id (.str owner)
  let titleValue ← ofExcept (cleanText env.py title "title" maxTitleLength)
  ofExcept (checkOneOf status validInvestigationStatuses "unsupported investigation status")
  ofExcept (checkOneOf disposition validDispositions "unsupported disposition")
  ofExcept (checkOneOf confidence validConfidenceValues "unsupported confidence")
  validateLinked env "alert" linkedAlertId
  validateLinked env "incident" linkedIncidentId
  let sourceIp ← ofExcept (inetColumn env linkedSourceIp)
  let cur ← insertRow env .investigations
    { ownerUsername := owner
      workspaceId := workspace.map Workspace.id
      data :=
        [ ("title", .str titleValue),
          ("status", status),
          ("summary", optionalText env.py summary maxTextLength),
          ("linked_alert_id", linkedAlertId),
          ("linked_incident_id", linkedIncidentId),
          ("linked_source_ip", sourceIp),
          ("saved_state", savedState.dictOrEmpty),
          ("disposition", disposition),
          ("confidence", confidence),
          ("conclusion", optionalText env.py conclusion maxTextLength),
          ("closed_at", if status.isOneOf ["closed"] then .int env.now else .null),
          ("last_activity_at", .int env.now),
          ("visibility", .str "private") ] }
  serializeFetched cur (serializeInvestigation env)

/-- What the four functions that hang a record under a parent do after their checks: the row is
    inserted, the investigation is touched on the same cursor, and the cursor is read. -/
def insertAndTouch (table : TableName) (new : NewRow) : Store Json := do
  let cur ← insertRow env table new
  let cur ← touchInvestigation env cur new.ownerUsername new.investigationId
  serializeFetched cur (serializeOwnedRow env table)

/-- `create_note`. -/
def createNote (ownerUsername : Json) (workspaceId investigationId : Option Int) (body : Json) :
    Store Json := do
  let owner ← ofExcept (ensureOwner env.py ownerUsername)
  let (workspaceId, investigationId) ← validateParent env owner workspaceId investigationId
  let bodyValue ← ofExcept (cleanText env.py body "body" maxTextLength)
  insertAndTouch env .investigationNotes
    { ownerUsername := owner
      workspaceId := workspaceId
      investigationId := investigationId
      data := [("body", .str bodyValue)] }

/-- `create_hypothesis`. -/
def createHypothesis (ownerUsername : Json) (workspaceId investigationId : Option Int)
    (title body status confidence : Json) : Store Json := do
  let owner ← ofExcept (ensureOwner env.py ownerUsername)
  let (workspaceId, investigationId) ← validateParent env owner workspaceId investigationId
  ofExcept (checkOneOf status validHypothesisStatuses "unsupported hypothesis status")
  ofExcept (checkOneOf confidence validConfidenceValues "unsupported confidence")
  let titleValue ← ofExcept (cleanText env.py title "title" maxTitleLength)
  insertAndTouch env .investigationHypotheses
    { ownerUsername := owner
      workspaceId := workspaceId
      investigationId := investigationId
      data :=
        [ ("title", .str titleValue),
          ("body", optionalText env.py body maxTextLength),
          ("status", status),
          ("confidence", confidence) ] }

/-- `create_task`. -/
def createTask (ownerUsername : Json) (workspaceId investigationId : Option Int)
    (title status : Json) (hypothesisId evidenceReferenceId : Option Int) : Store Json := do
  let owner ← ofExcept (ensureOwner env.py ownerUsername)
  let (workspaceId, investigationId) ← validateParent env owner workspaceId investigationId
  ofExcept (checkOneOf status validTaskStatuses "unsupported task status")
  let (hypothesisId, evidenceReferenceId) ←
    validateOptionalChildRefs owner investigationId hypothesisId evidenceReferenceId
  let titleValue ← ofExcept (cleanText env.py title "title" maxTitleLength)
  insertAndTouch env .investigationTasks
    { ownerUsername := owner
      workspaceId := workspaceId
      investigationId := investigationId
      hypothesisId := hypothesisId
      evidenceReferenceId := evidenceReferenceId
      data := [("title", .str titleValue), ("status", status)] }

/-- `create_evidence`. -/
def createEvidence (ownerUsername : Json) (workspaceId investigationId : Option Int)
    (referencedObjectType referencedObjectId label source metadata rationale relationshipType : Json) :
    Store Json := do
  let owner ← ofExcept (ensureOwner env.py ownerUsername)
  let (workspaceId, investigationId) ← validateParent env owner workspaceId investigationId
  ofExcept (checkOneOf relationshipType validEvidenceRelationships "unsupported relationship_type")
  let typeValue ← ofExcept (cleanText env.py referencedObjectType "referenced_object_type" 80)
  let idValue ← ofExcept (cleanText env.py referencedObjectId "referenced_object_id" 512)
  let labelValue ← ofExcept (cleanText env.py label "label" 240)
  insertAndTouch env .evidenceReferences
    { ownerUsername := owner
      workspaceId := workspaceId
      investigationId := investigationId
      data :=
        [ ("parent_type", .str (if investigationId.isSome then "investigation" else "workspace")),
          ("referenced_object_type", .str typeValue),
          ("referenced_object_id", .str idValue),
          ("label", .str labelValue),
          ("source", optionalText env.py source 240),
          ("metadata", metadata.dictOrEmpty),
          ("rationale", optionalText env.py rationale maxTextLength),
          ("relationship_type", relationshipType) ] }

/-- `link_hypothesis_evidence`. -/
def linkHypothesisEvidence (ownerUsername : Json) (investigationId hypothesisId
    evidenceReferenceId : Int) (relationshipType rationale : Json) : Store Json := do
  let owner ← ofExcept (ensureOwner env.py ownerUsername)
  ofExcept (checkOneOf relationshipType validEvidenceRelationships "unsupported relationship_type")
  let investigation ← ownInvestigation owner investigationId
  let hypothesis ← validateHypothesisOwner owner (some investigation.id) hypothesisId
  let evidence ← validateEvidenceOwner owner (some investigation.id) evidenceReferenceId
  let columns :=
    [ ("relationship_type", relationshipType),
      ("rationale", optionalText env.py rationale maxTextLength) ]
  let cur ← upsertRow env .investigationHypothesisEvidence
    (fun row => row.hypothesisId = some hypothesis && row.evidenceReferenceId = some evidence)
    { ownerUsername := owner
      investigationId := some investigation.id
      hypothesisId := some hypothesis
      evidenceReferenceId := some evidence
      data := columns }
    columns
  let cur ← touchInvestigation env cur owner (some investigation.id)
  serializeFetched cur (serializeHypothesisEvidenceLink env)

/-- `pin_workspace_item`. -/
def pinWorkspaceItem (ownerUsername : Json) (workspaceId : Int)
    (itemType referencedObjectId referencedObjectType label metadata : Json) : Store Json := do
  let owner ← ofExcept (ensureOwner env.py ownerUsername)
  let workspace ← getWorkspace env workspaceId (.str owner)
  let typeValue ← ofExcept (cleanText env.py itemType "item_type" 64)
  raiseIf (!validItemTypes.contains typeValue) (.value "unsupported item_type")
  let refId ← ofExcept (cleanText env.py referencedObjectId "referenced_object_id" 512)
  let refType ← ofExcept (cleanText env.py (referencedObjectType.orElse (.str typeValue))
    "referenced_object_type" 80)
  validateReference env typeValue (.str refId)
  let columns :=
    [ ("label", (optionalText env.py label 240).orElse (.str s!"{refType} {refId}")),
      ("metadata", metadata.dictOrEmpty),
      ("status", .str "active") ]
  let key :=
    [ ("item_type", .str typeValue),
      ("referenced_object_type", .str refType),
      ("referenced_object_id", .str refId) ]
  let cur ← upsertRow env .workspaceItems
    (fun row => row.workspaceId = some workspace.id &&
      (row.column "item_type").isOneOf [typeValue] &&
      (row.column "referenced_object_type").isOneOf [refType] &&
      (row.column "referenced_object_id").isOneOf [refId])
    { ownerUsername := owner
      workspaceId := some workspace.id
      data := key ++ columns ++ [("item_order", .int 0), ("visibility", .str "private")] }
    columns
  serializeFetched cur (serializeItem env)

/-! ## Lists -/

/-- `_parent_where`. -/
def parentWhere (owner : String) (workspaceId investigationId : Option Int) (row : OwnedRow) : Bool :=
  row.ownerUsername = owner &&
    match investigationId, workspaceId with
    | some id, _ => row.investigationId.map Int.ofNat = some id
    | none, some id => row.workspaceId.map Int.ofNat = some id && row.investigationId.isNone
    | none, none => true

def OwnedRow.number (row : OwnedRow) (name : String) : Int := ((row.column name).int?).getD 0

/-- `ORDER BY created_at DESC`. -/
def newestFirst (a b : OwnedRow) : Bool := b.number "created_at" ≤ a.number "created_at"

/-- `ORDER BY status ASC, created_at DESC`. -/
def byStatus (a b : OwnedRow) : Bool :=
  let status (row : OwnedRow) := ((row.column "status").str?).getD ""
  status a < status b || status a = status b && newestFirst a b

/-- `ORDER BY item_order ASC, created_at DESC`. -/
def byItemOrder (a b : OwnedRow) : Bool :=
  a.number "item_order" < b.number "item_order" ||
    a.number "item_order" = b.number "item_order" && newestFirst a b

/-- `SELECT … FROM table WHERE … ORDER BY …`, as the callers see it. -/
def listRows (table : TableName) (guard : OwnedRow → Bool) (order : OwnedRow → OwnedRow → Bool) :
    Store (List Json) := do
  let rows ← read fun db => ((db.owned table).rows.filter guard).mergeSort order
  return rows.map (serializeOwnedRow env table)

/-- What the lists of records under a parent do. -/
def listUnderParent (table : TableName) (order : OwnedRow → OwnedRow → Bool) (ownerUsername : Json)
    (workspaceId investigationId : Option Int) : Store (List Json) := do
  let owner ← ofExcept (ensureOwner env.py ownerUsername)
  listRows env table (parentWhere owner workspaceId investigationId) order

/-- `list_notes`. -/
def listNotes (ownerUsername : Json) (workspaceId investigationId : Option Int) :
    Store (List Json) :=
  listUnderParent env .investigationNotes newestFirst ownerUsername workspaceId investigationId

/-- `list_hypotheses`. -/
def listHypotheses (ownerUsername : Json) (workspaceId investigationId : Option Int) :
    Store (List Json) :=
  listUnderParent env .investigationHypotheses newestFirst ownerUsername workspaceId investigationId

/-- `list_tasks`. -/
def listTasks (ownerUsername : Json) (workspaceId investigationId : Option Int) :
    Store (List Json) :=
  listUnderParent env .investigationTasks byStatus ownerUsername workspaceId investigationId

/-- `list_evidence`. -/
def listEvidence (ownerUsername : Json) (workspaceId investigationId : Option Int) :
    Store (List Json) :=
  listUnderParent env .evidenceReferences newestFirst ownerUsername workspaceId investigationId

/-- `list_hypothesis_evidence_links`. -/
def listHypothesisEvidenceLinks (ownerUsername : Json) (investigationId : Int) :
    Store (List Json) := do
  let owner ← ofExcept (ensureOwner env.py ownerUsername)
  listRows env .investigationHypothesisEvidence
    (parentWhere owner none (some investigationId)) newestFirst

/-- `list_workspace_items`. -/
def listWorkspaceItems (workspaceId : Int) (ownerUsername : Json) : Store (List Json) := do
  let owner ← ofExcept (ensureOwner env.py ownerUsername)
  let _ ← getWorkspace env workspaceId (.str owner)
  listRows env .workspaceItems
    (fun row => row.workspaceId.map Int.ofNat = some workspaceId && row.ownerUsername = owner &&
      (row.column "status").isOneOf ["active"])
    byItemOrder

/-! ## Changes -/

/-- The tables by name. -/
def tableNamed : String → Option TableName
  | "workspace_items" => some .workspaceItems
  | "investigations" => some .investigations
  | "investigation_notes" => some .investigationNotes
  | "investigation_hypotheses" => some .investigationHypotheses
  | "investigation_tasks" => some .investigationTasks
  | "evidence_references" => some .evidenceReferences
  | "investigation_hypothesis_evidence" => some .investigationHypothesisEvidence
  | _ => none

/-- The row of an id, if it is the owner's. -/
def ownRecord (table : TableName) (recordId : Int) (owner : String) : Store OwnedRow := do
  match ← read fun db => db.row? table recordId with
  | none => raise (.lookup "record not found")
  | some row =>
    raiseIf (row.ownerUsername ≠ owner) (.ownership "record access denied")
    return row

/-- The touch of `update_owned_record` and `delete_owned_record`. -/
def touchParent (table : TableName) (cur : Cursor) (owner : String) (existing : OwnedRow) :
    Store Cursor :=
  if table = .investigations then return cur
  else touchInvestigation env cur owner existing.investigationId

/-- `delete_owned_record`. -/
def deleteOwnedRecord (table : String) (recordId : Int) (ownerUsername : Json) : Store Bool := do
  match tableNamed table with
  | none => raise (.value "unsupported table")
  | some table =>
    let owner ← ofExcept (ensureOwner env.py ownerUsername)
    let existing ← ownRecord table recordId owner
    let cur ← deleteRow table existing.id owner
    let cur ← touchParent env table cur owner existing
    return 0 < cur.rowcount

/-- `UPDATE_COLUMNS_BY_TABLE`. -/
def updateColumnsByTable : TableName → List String
  | .workspaceItems => ["label", "status", "item_order", "metadata"]
  | .investigations =>
    ["title", "status", "summary", "saved_state", "disposition", "confidence", "conclusion"]
  | .investigationNotes => ["body"]
  | .investigationHypotheses => ["title", "body", "status", "confidence"]
  | .investigationTasks => ["title", "status", "hypothesis_id", "evidence_reference_id"]
  | .evidenceReferences => ["label", "source", "metadata", "rationale", "relationship_type"]
  | .investigationHypothesisEvidence => ["relationship_type", "rationale"]

/-- A text of a set, cleaned. -/
def cleanOneOf (value : Json) (fieldName : String) (names : List String) (message : String) :
    Except WorkspaceError Json := do
  let text ← cleanText env.py value fieldName 64
  if names.contains text then .ok (.str text) else .error (.value message)

/-- The statuses that an update may write. -/
def cleanStatus (table : TableName) (value : Json) : Except WorkspaceError Json :=
  match table with
  | .workspaceItems =>
    cleanOneOf env value "status" ["active", "archived"] "unsupported workspace item status"
  | .investigations =>
    cleanOneOf env value "status" validInvestigationStatuses "unsupported investigation status"
  | .investigationHypotheses =>
    cleanOneOf env value "status" validHypothesisStatuses "unsupported hypothesis status"
  | .investigationTasks =>
    cleanOneOf env value "status" validTaskStatuses "unsupported task status"
  | _ => Json.str <$> cleanText env.py value "status" 64

/-- `int(value)`. -/
def intValue (value : Json) : Except WorkspaceError Json :=
  match env.toInt value with
  | .error message => .error (.value message)
  | .ok n => .ok (.int n)

/-- `_clean_update_value`. -/
def cleanUpdateValue (table : TableName) (key : String) (value : Json) :
    Except WorkspaceError Json :=
  match key with
  | "metadata" | "saved_state" => .ok value.dictOrEmpty
  | "item_order" => intValue env value
  | "status" => cleanStatus env table value
  | "confidence" =>
    cleanOneOf env value "confidence" validConfidenceValues "unsupported confidence"
  | "disposition" => cleanOneOf env value "disposition" validDispositions "unsupported disposition"
  | "relationship_type" =>
    cleanOneOf env value "relationship_type" validEvidenceRelationships
      "unsupported relationship_type"
  | "hypothesis_id" | "evidence_reference_id" =>
    if !value.hashable then .error (.type "unhashable type")
    else if value.isNull || value.isOneOf [""] then .ok .null
    else intValue env value
  | "title" | "label" => Json.str <$> cleanText env.py value key maxTitleLength
  | "body" => Json.str <$> cleanText env.py value key maxTextLength
  | "summary" | "conclusion" | "rationale" => .ok (optionalText env.py value maxTextLength)
  | "source" => .ok (optionalText env.py value 240)
  | _ => .ok value

/-- The loop over `updates.items()`, which fills the dict `clean_updates`. -/
def cleanUpdates (table : TableName) (cleaned : List (String × Json)) :
    List (String × Json) → Except WorkspaceError (List (String × Json))
  | [] => .ok cleaned
  | (key, value) :: rest =>
    if (updateColumnsByTable table).contains key then
      match cleanUpdateValue env table key value with
      | .error e => .error e
      | .ok value => cleanUpdates table (Json.setField key value cleaned) rest
    else cleanUpdates table cleaned rest

/-- `clean_updates.get(name)`. -/
def updateOf (updates : List (String × Json)) (name : String) : Json :=
  (updates.lookup name).getD .null

/-- What an update sets besides the columns that are sent. -/
def extraAssignments (table : TableName) (updates : List (String × Json)) (row : OwnedRow) :
    List (String × Json) :=
  if table = .investigations then
    (match updates.lookup "status" with
      | none => []
      | some status =>
        [("closed_at",
          if status.isOneOf ["closed"] then
            if (row.column "closed_at").isNull then .int env.now else row.column "closed_at"
          else .null)]) ++
      [("last_activity_at", .int env.now)]
  else []

/-- The check of the rows that an updated task points to. -/
def checkTaskUpdate (table : TableName) (owner : String) (existing : OwnedRow)
    (updates : List (String × Json)) : Store (Option Nat × Option Nat) :=
  if table = .investigationTasks then
    validateOptionalChildRefs owner existing.investigationId
      (updateOf updates "hypothesis_id").int? (updateOf updates "evidence_reference_id").int?
  else return (none, none)

/-- Whether an update of an evidence reference has an unknown relationship. -/
def unsupportedRelationship (table : TableName) (updates : List (String × Json)) : Bool :=
  let relationship := updateOf updates "relationship_type"
  table = .evidenceReferences && !relationship.isNull &&
    !relationship.isOneOf validEvidenceRelationships

/-- `_serialize_owned_row(table, row)`, of a row that may be missing. -/
def serializeFound (table : TableName) (row : Option OwnedRow) : Store Json :=
  match row with
  | none => raise (.type "'NoneType' object has no attribute 'get'")
  | some row => return serializeOwnedRow env table row

/-- `update_owned_record`. -/
def updateOwnedRecord (table : String) (recordId : Int) (ownerUsername : Json)
    (updates : List (String × Json)) : Store Json := do
  match tableNamed table with
  | none => raise (.value "unsupported table")
  | some table =>
    let owner ← ofExcept (ensureOwner env.py ownerUsername)
    let cleaned ← ofExcept (cleanUpdates env table [] updates)
    raiseIf cleaned.isEmpty (.value "no supported updates provided")
    let existing ← ownRecord table recordId owner
    let _ ← checkTaskUpdate table owner existing cleaned
    raiseIf (unsupportedRelationship table cleaned) (.value "unsupported relationship_type")
    let cur ← updateRow env table existing.id owner
      fun row => cleaned ++ extraAssignments env table cleaned row
    -- the row is fetched before the cursor is used again
    let row ← fetchone cur
    let _ ← touchParent env table cur owner existing
    serializeFound env table row

/-- One step of the loop of `reorder_workspace_items`. -/
def placeItem (owner : String) (workspaceId : Nat) (place : Nat × Int) : Store Unit :=
  change fun db =>
    let guard (row : OwnedRow) : Bool :=
      row.ownerUsername = owner && row.workspaceId = some workspaceId && (row.id : Int) = place.2
    let write (row : OwnedRow) :=
      row.assignAll [("item_order", .int place.1), ("updated_at", .int env.now)]
    ((), db.set .workspaceItems ((db.owned .workspaceItems).updateAll guard write fun row =>
      row.assignAll_id _))

/-- `reorder_workspace_items`. -/
def reorderWorkspaceItems (ownerUsername : Json) (workspaceId : Int) (orderedItemIds : List Int) :
    Store (List Json) := do
  let owner ← ofExcept (ensureOwner env.py ownerUsername)
  let workspace ← getWorkspace env workspaceId (.str owner)
  raiseIf orderedItemIds.isEmpty (.value "ordered_item_ids is required")
  let owned ← read fun db => orderedItemIds.all fun id =>
    match db.row? .workspaceItems id with
    | none => false
    | some row => row.workspaceId = some workspace.id && row.ownerUsername = owner
  raiseIf (!owned) (.ownership "workspace item access denied")
  (orderedItemIds.zipIdx 1).forM fun (id, index) => placeItem env owner workspace.id (index, id)
  listWorkspaceItems env workspaceId (.str owner)

end

end SiemDashboard.InvestigationWorkspace
