import SiemDashboard.Core.InvestigationWorkspaceStore

/-!
# When a workspace record can be created

The functions that hang a record under an investigation touch the investigation on the cursor they
have inserted with, before they read it: the record is stored, and the call raises.  A record that
hangs under a workspace alone is returned as it was stored, and is listed once.

* **Calls** — `Creation`, with its run, its table and its list.
* **Checked calls** — `Parents`, `Referenced`, `Creation.Checked`.
* **Cursors** — `insertAndTouch_untouched`, `insertAndTouch_touched`.
* **Results** — `creation_works_iff`.
-/

namespace SiemDashboard.InvestigationWorkspace

open Python Tables Effects

/-! ## Calls -/

/-- The calls that create a record. -/
inductive Creation where
  | note (workspaceId investigationId : Option Int) (body : Json)
  | hypothesis (workspaceId investigationId : Option Int) (title body status confidence : Json)
  | task (workspaceId investigationId : Option Int) (title status : Json)
      (hypothesisId evidenceReferenceId : Option Int)
  | evidence (workspaceId investigationId : Option Int) (referencedObjectType referencedObjectId
      label source metadata rationale relationshipType : Json)
  | link (investigationId hypothesisId evidenceReferenceId : Int) (relationshipType rationale : Json)

section

variable (env : Environment) (ownerUsername : Json)

def Creation.run : Creation → Store Json
  | .note workspaceId investigationId body =>
    createNote env ownerUsername workspaceId investigationId body
  | .hypothesis workspaceId investigationId title body status confidence =>
    createHypothesis env ownerUsername workspaceId investigationId title body status confidence
  | .task workspaceId investigationId title status hypothesisId evidenceReferenceId =>
    createTask env ownerUsername workspaceId investigationId title status hypothesisId
      evidenceReferenceId
  | .evidence workspaceId investigationId objectType objectId label source metadata rationale
      relationshipType =>
    createEvidence env ownerUsername workspaceId investigationId objectType objectId label source
      metadata rationale relationshipType
  | .link investigationId hypothesisId evidenceReferenceId relationshipType rationale =>
    linkHypothesisEvidence env ownerUsername investigationId hypothesisId evidenceReferenceId
      relationshipType rationale

def Creation.table : Creation → TableName
  | .note .. => .investigationNotes
  | .hypothesis .. => .investigationHypotheses
  | .task .. => .investigationTasks
  | .evidence .. => .evidenceReferences
  | .link .. => .investigationHypothesisEvidence

/-- The parents that are named. -/
def Creation.parents : Creation → Option Int × Option Int
  | .note workspaceId investigationId _ => (workspaceId, investigationId)
  | .hypothesis workspaceId investigationId .. => (workspaceId, investigationId)
  | .task workspaceId investigationId .. => (workspaceId, investigationId)
  | .evidence workspaceId investigationId .. => (workspaceId, investigationId)
  | .link investigationId .. => (none, some investigationId)

/-- The list of the parent of a row. -/
def Creation.list (row : OwnedRow) : Creation → Store (List Json)
  | .note .. => listNotes env ownerUsername (row.workspaceId.map Int.ofNat)
      (row.investigationId.map Int.ofNat)
  | .hypothesis .. => listHypotheses env ownerUsername (row.workspaceId.map Int.ofNat)
      (row.investigationId.map Int.ofNat)
  | .task .. => listTasks env ownerUsername (row.workspaceId.map Int.ofNat)
      (row.investigationId.map Int.ofNat)
  | .evidence .. => listEvidence env ownerUsername (row.workspaceId.map Int.ofNat)
      (row.investigationId.map Int.ofNat)
  | .link investigationId .. => listHypothesisEvidenceLinks env ownerUsername investigationId

/-- The call returns the row it has stored, and the list of the parent shows it once. -/
def Creation.Works (c : Creation) (db : WorkspaceDb) : Prop :=
  ∃ record db' row records, c.run env ownerUsername db = (.ok record, db') ∧
    (db'.owned c.table).row? row.id = some row ∧ record = serializeOwnedRow env c.table row ∧
    c.list env ownerUsername row db' = (.ok records, db') ∧ Table.OnceIn record records

end

/-! ## Checked calls -/

/-- The parents are there, and the owner's. -/
structure Parents (db : WorkspaceDb) (owner : String) (workspaceId investigationId : Option Int) :
    Prop where
  workspace : ∀ id, workspaceId = some id → 0 ≤ id ∧
    ∃ ws, db.workspaces.row? id.toNat = some ws ∧ ws.ownerUsername = owner
  investigation : ∀ id, investigationId = some id →
    ∃ row, db.row? .investigations id = some row ∧ row.ownerUsername = owner

/-- The row a record points to is there, the owner's, and of the investigation that is given. -/
def Referenced (db : WorkspaceDb) (owner : String) (table : TableName) (investigationId id : Option Int) :
    Prop :=
  ∀ n, id = some n → ∃ row, db.row? table n = some row ∧ row.ownerUsername = owner ∧
    (investigationId.isSome = true → row.investigationId.map Int.ofNat = investigationId)

/-- The parents exist and belong to the owner, and the texts and the values of the enumerations pass
    the checks. -/
def Creation.Checked (env : Environment) (db : WorkspaceDb) (owner : String) : Creation → Prop
  | .note workspaceId investigationId body =>
    Parents db owner workspaceId investigationId ∧
      (cleanText env.py body "body" maxTextLength).isOk = true
  | .hypothesis workspaceId investigationId title _ status confidence =>
    Parents db owner workspaceId investigationId ∧
      (cleanText env.py title "title" maxTitleLength).isOk = true ∧
      status.isOneOf validHypothesisStatuses = true ∧
      confidence.isOneOf validConfidenceValues = true
  | .task workspaceId investigationId title status hypothesisId evidenceReferenceId =>
    Parents db owner workspaceId investigationId ∧
      (cleanText env.py title "title" maxTitleLength).isOk = true ∧
      status.isOneOf validTaskStatuses = true ∧
      Referenced db owner .investigationHypotheses investigationId hypothesisId ∧
      Referenced db owner .evidenceReferences investigationId evidenceReferenceId
  | .evidence workspaceId investigationId objectType objectId label _ _ _ relationshipType =>
    Parents db owner workspaceId investigationId ∧
      (cleanText env.py objectType "referenced_object_type" 80).isOk = true ∧
      (cleanText env.py objectId "referenced_object_id" 512).isOk = true ∧
      (cleanText env.py label "label" 240).isOk = true ∧
      relationshipType.isOneOf validEvidenceRelationships = true
  | .link investigationId hypothesisId evidenceReferenceId relationshipType _ =>
    Parents db owner none (some investigationId) ∧
      relationshipType.isOneOf validEvidenceRelationships = true ∧
      Referenced db owner .investigationHypotheses (some investigationId) (some hypothesisId) ∧
      Referenced db owner .evidenceReferences (some investigationId) (some evidenceReferenceId)

/-- The owner has a default workspace, or none of the owner's workspaces has its name. -/
def DefaultAvailable (db : WorkspaceDb) (owner : String) : Prop :=
  (∃ ws ∈ db.workspaces.rows, ws.ownerUsername = owner ∧ ws.isDefault = true) ∨
    ∀ ws ∈ db.workspaces.rows, ws.ownerUsername = owner → ws.name ≠ defaultWorkspaceTitle owner

/-- The cursor is not used again before it is read, and there is a workspace to hang the record
    under. -/
def Creation.Untouched (db : WorkspaceDb) (owner : String) (c : Creation) : Prop :=
  c.parents.2 = none ∧ (c.parents.1 = none → DefaultAvailable db owner)

/-! ## Cursors -/

section

variable {env : Environment} {db db' : WorkspaceDb} {owner : String}

theorem serializeOwnedRow_id (table : TableName) (row : OwnedRow) :
    (serializeOwnedRow env table row).get "id" = .int row.id := by
  cases table <;> rfl

/-- Without an investigation the cursor still holds the row that was inserted. -/
theorem insertAndTouch_untouched (table : TableName) (new : NewRow)
    (h : new.investigationId = none) :
    insertAndTouch env table new db =
      (.ok (serializeOwnedRow env table (new.row env.now (db.owned table).next)),
        db.set table ((db.owned table).insert (new.row env.now) (new.row_id env.now))) := by
  unfold insertAndTouch
  rw [h]
  rfl

/-- With an investigation the cursor has no result set when it is read. -/
theorem insertAndTouch_touched {table : TableName} {new : NewRow} {id : Nat}
    (h : new.investigationId = some id) :
    (insertAndTouch env table new db).1 = .error (.programming "no results to fetch") := by
  unfold insertAndTouch
  rw [h]
  rfl

theorem insertAndTouch_ok {table : TableName} {new : NewRow} {record : Json}
    (h : insertAndTouch env table new db = (.ok record, db')) : new.investigationId = none := by
  cases hid : new.investigationId with
  | none => rfl
  | some id =>
    have hraised := @insertAndTouch_touched env db table _ _ hid
    rw [h] at hraised
    cases hraised

/-! ## Parents -/

theorem getWorkspace_eq (howner : ensureOwner env.py (.str owner) = .ok owner) {id : Int}
    {ws : Workspace} (hid : 0 ≤ id) (hws : db.workspaces.row? id.toNat = some ws)
    (hown : ws.ownerUsername = owner) : getWorkspace env id (.str owner) db = (.ok ws, db) := by
  unfold getWorkspace
  rw [ofExcept_bind howner, read_bind, if_neg (Int.not_lt.mpr hid), hws]
  dsimp only
  rw [raiseIf_bind (by simpa using hown)]
  rfl

def defaultWorkspace? (db : WorkspaceDb) (owner : String) : Option Workspace :=
  db.workspaces.rows.find? fun ws => ws.ownerUsername = owner && ws.isDefault

/-- Whether a workspace of the owner has the default name. -/
def nameTaken (db : WorkspaceDb) (owner : String) : Bool :=
  db.workspaces.rows.any fun ws =>
    ws.ownerUsername = owner && ws.name = defaultWorkspaceTitle owner

theorem defaultAvailable_iff :
    DefaultAvailable db owner ↔
      (defaultWorkspace? db owner).isSome = true ∨ nameTaken db owner = false := by
  refine or_congr ?_ ?_
  · simp [defaultWorkspace?]
  · simp [nameTaken]

theorem getOrCreateDefaultWorkspace_apply (howner : ensureOwner env.py (.str owner) = .ok owner) :
    getOrCreateDefaultWorkspace env (.str owner) db =
      match defaultWorkspace? db owner with
      | some existing => (.ok existing, db)
      | none => insertDefaultWorkspace env owner db := by
  unfold getOrCreateDefaultWorkspace
  rw [ofExcept_bind howner, read_bind]
  show (match defaultWorkspace? db owner with
    | some existing => (pure existing : Store Workspace)
    | none => insertDefaultWorkspace env owner) db = _
  cases defaultWorkspace? db owner <;> rfl

/-- A default workspace as it is made. -/
def newDefaultWorkspace (env : Environment) (owner : String) (id : Nat) : Workspace :=
  ⟨id, owner, defaultWorkspaceTitle owner, true, env.now, env.now⟩

theorem insertDefaultWorkspace_apply :
    insertDefaultWorkspace env owner db =
      if nameTaken db owner then
        (.error (.database "duplicate key value violates unique constraint"), db)
      else
        (.ok (newDefaultWorkspace env owner db.workspaces.next),
          ⟨db.workspaces.insert (newDefaultWorkspace env owner) fun _ => rfl, db.owned⟩) := by
  unfold insertDefaultWorkspace
  rw [read_bind]
  show (if nameTaken db owner = true then (raise _ : Store Workspace) else change _) db = _
  split <;> rfl

/-- A default workspace is found or made. -/
theorem getOrCreateDefaultWorkspace_eq (howner : ensureOwner env.py (.str owner) = .ok owner)
    (h : DefaultAvailable db owner) :
    ∃ ws db', getOrCreateDefaultWorkspace env (.str owner) db = (.ok ws, db') ∧
      db'.owned = db.owned ∧ db'.workspaces.row? ws.id = some ws ∧ ws.ownerUsername = owner := by
  rw [getOrCreateDefaultWorkspace_apply howner]
  cases hfind : defaultWorkspace? db owner with
  | some ws =>
    unfold defaultWorkspace? at hfind
    have hws := List.find?_some hfind
    simp only [Bool.and_eq_true, decide_eq_true_eq] at hws
    exact ⟨ws, db, rfl, rfl, Table.mem_rows.mp (List.mem_of_find?_eq_some hfind), hws.1⟩
  | none =>
    have hname : nameTaken db owner = false := by
      rcases defaultAvailable_iff.mp h with hsome | hname
      · rw [hfind] at hsome
        cases hsome
      · exact hname
    dsimp only
    rw [insertDefaultWorkspace_apply, hname]
    refine ⟨_, _, rfl, rfl, ?_, rfl⟩
    exact (Table.insert_row? _ (newDefaultWorkspace env owner) (fun _ => rfl) _).trans (if_pos rfl)

theorem workspaceOrDefault_none : workspaceOrDefault env owner none none =
    getOrCreateDefaultWorkspace env (.str owner) >>= fun ws => pure (some (ws.id : Int)) := rfl

theorem workspaceOrDefault_eq (howner : ensureOwner env.py (.str owner) = .ok owner)
    {workspaceId : Option Int} (hparents : Parents db owner workspaceId none)
    (hdefault : workspaceId = none → DefaultAvailable db owner) :
    ∃ ws db', workspaceOrDefault env owner workspaceId none db = (.ok (some (ws.id : Int)), db') ∧
      db'.owned = db.owned ∧ db'.workspaces.row? ws.id = some ws ∧ ws.ownerUsername = owner := by
  cases workspaceId with
  | some id =>
    obtain ⟨hid, ws, hws, hown⟩ := hparents.workspace id rfl
    have hkey : (ws.id : Int) = id := by
      rw [db.workspaces.keyed _ _ hws]
      exact Int.toNat_of_nonneg hid
    refine ⟨ws, db, ?_, rfl, ?_, hown⟩
    · rw [hkey]
      rfl
    · rw [← hws, ← hkey]
      rfl
  | none =>
    obtain ⟨ws, db', hget, hws⟩ := @getOrCreateDefaultWorkspace_eq env _ _ howner (hdefault rfl)
    refine ⟨ws, db', ?_, hws⟩
    rw [workspaceOrDefault_none, bind_of_ok hget]
    rfl

theorem validateParent_eq (howner : ensureOwner env.py (.str owner) = .ok owner)
    {workspaceId : Option Int} (hparents : Parents db owner workspaceId none)
    (hdefault : workspaceId = none → DefaultAvailable db owner) :
    ∃ id db', validateParent env owner workspaceId none db = (.ok (some id, none), db') ∧
      db'.owned = db.owned := by
  obtain ⟨ws, db', hnamed, howned, hws, hown⟩ :=
    @workspaceOrDefault_eq env _ _ howner _ hparents hdefault
  refine ⟨ws.id, db', ?_, howned⟩
  unfold validateParent
  have hget := optionally_of_ok (p := fun id => getWorkspace env id (.str owner))
    (@getWorkspace_eq env _ _ howner _ _ (Int.natCast_nonneg ws.id) hws hown)
  rw [bind_of_ok hnamed, bind_of_ok hget]
  rfl

/-- Where the default workspace was asked for, it was there or could be made. -/
theorem defaultAvailable_of_ok {ws : Workspace}
    (h : getOrCreateDefaultWorkspace env (.str owner) db = (.ok ws, db'))
    (howner : ensureOwner env.py (.str owner) = .ok owner) : DefaultAvailable db owner := by
  rw [getOrCreateDefaultWorkspace_apply howner] at h
  rw [defaultAvailable_iff]
  cases hfind : defaultWorkspace? db owner with
  | some ws => exact .inl rfl
  | none =>
    rw [hfind] at h
    dsimp only at h
    rw [insertDefaultWorkspace_apply] at h
    cases hname : nameTaken db owner with
    | false => exact .inr rfl
    | true =>
      rw [hname] at h
      cases h

/-- The parent of a stored record is the one that was named, or the default workspace. -/
theorem validateParent_ok (howner : ensureOwner env.py (.str owner) = .ok owner)
    {workspaceId investigationId : Option Int} {parents : Option Nat × Option Nat}
    (h : validateParent env owner workspaceId investigationId db = (.ok parents, db')) :
    (parents.2 = none → investigationId = none) ∧
      (workspaceId = none → investigationId = none → DefaultAvailable db owner) := by
  unfold validateParent at h
  obtain ⟨_, db₁, hworkspace, h⟩ := bind_eq_ok.mp h
  obtain ⟨_, db₂, -, h⟩ := bind_eq_ok.mp h
  obtain ⟨_, db₃, hinvestigation, h⟩ := bind_eq_ok.mp h
  cases h
  constructor
  · intro hnone
    rcases optionally_eq_ok.mp hinvestigation with ⟨rfl, -, -⟩ | ⟨id, row, -, rfl, -⟩
    · rfl
    · cases hnone
  · rintro rfl rfl
    rw [workspaceOrDefault_none] at hworkspace
    obtain ⟨ws, _, hget, -⟩ := bind_eq_ok.mp hworkspace
    exact defaultAvailable_of_ok hget howner

/-- The row a task points to, where it points to one. -/
theorem validateReferenced_eq {table : TableName} {what denied : String} {id : Int}
    (h : Referenced db owner table none (some id)) :
    ∃ n, validateReferenced table what denied owner none id db = (.ok n, db) := by
  obtain ⟨row, hrow, hown, -⟩ := h id rfl
  refine ⟨row.id, ?_⟩
  unfold validateReferenced
  rw [read_bind, hrow]
  dsimp only
  rw [raiseIf_bind (by simpa using hown)]
  rfl

theorem validateOptionalChildRefs_eq {hypothesisId evidenceReferenceId : Option Int}
    (hhypothesis : Referenced db owner .investigationHypotheses none hypothesisId)
    (hevidence : Referenced db owner .evidenceReferences none evidenceReferenceId) :
    ∃ refs, validateOptionalChildRefs owner none hypothesisId evidenceReferenceId db =
      (.ok refs, db) := by
  have hfound {table : TableName} {what denied : String} {id : Option Int}
      (h : Referenced db owner table none id) :
      ∃ n, optionally id (validateReferenced table what denied owner none) db = (.ok n, db) := by
    cases id with
    | none => exact ⟨none, rfl⟩
    | some id =>
      obtain ⟨n, hn⟩ := @validateReferenced_eq _ _ _ what denied _ h
      exact ⟨some n, optionally_of_ok hn⟩
  obtain ⟨n, hn⟩ := hfound hhypothesis
  obtain ⟨m, hm⟩ := hfound hevidence
  refine ⟨(n, m), ?_⟩
  exact (bind_of_ok hn).trans (bind_of_ok hm)

/-- The owner of a record and the parents that were found for it. -/
theorem referenced_congr {db' : WorkspaceDb} (h : db'.owned = db.owned) {table : TableName}
    {investigationId id : Option Int} (hid : Referenced db owner table investigationId id) :
    Referenced db' owner table investigationId id := by
  intro n hn
  obtain ⟨row, hrow, hrest⟩ := hid n hn
  refine ⟨row, ?_, hrest⟩
  rw [WorkspaceDb.row?, h]
  exact hrow

/-! ## Lists -/

/-- A row under a workspace alone is shown once by the list of its workspace. -/
theorem listUnderParent_once {ownerUsername : Json} (howner : ensureOwner env.py ownerUsername = .ok owner)
    {table : TableName} (order : OwnedRow → OwnedRow → Bool) {row : OwnedRow}
    (hrow : (db.owned table).row? row.id = some row) (hown : row.ownerUsername = owner)
    {workspace : Nat} (hworkspace : row.workspaceId = some workspace)
    (hinvestigation : row.investigationId = none) :
    ∃ records, listUnderParent env table order ownerUsername (row.workspaceId.map Int.ofNat)
        (row.investigationId.map Int.ofNat) db = (.ok records, db) ∧
      Table.OnceIn (serializeOwnedRow env table row) records := by
  have hguard : parentWhere owner (row.workspaceId.map Int.ofNat)
      (row.investigationId.map Int.ofNat) row = true := by
    simp [parentWhere, hown, hworkspace, hinvestigation]
  have hsorted := List.mergeSort_perm ((db.owned table).rows.filter
    (parentWhere owner (row.workspaceId.map Int.ofNat) (row.investigationId.map Int.ofNat))) order
  refine ⟨_, ofExcept_bind howner _ db, @Table.onceIn_map _ OwnedRow.id _ _ _ ?_ _ ?_ fun r' heq => ?_⟩
  · exact (hsorted.pairwise_iff fun h => Ne.symm h).mpr
      ((db.owned table).rows_distinct.filter _)
  · rw [hsorted.mem_iff, List.mem_filter]
    exact ⟨Table.mem_rows.mpr hrow, hguard⟩
  · have hid : (serializeOwnedRow env table r').get "id" =
        (serializeOwnedRow env table row).get "id" := by rw [heq]
    rw [serializeOwnedRow_id, serializeOwnedRow_id, Json.int.injEq] at hid
    exact Int.ofNat.inj hid

/-! ## Results -/

/-- What a record under a workspace alone amounts to, once its checks are passed. -/
theorem inserted_works {ownerUsername : Json} (howner : ensureOwner env.py ownerUsername = .ok owner)
    {c : Creation} {order : OwnedRow → OwnedRow → Bool}
    (hlist : ∀ row, c.list env ownerUsername row =
      listUnderParent env c.table order ownerUsername (row.workspaceId.map Int.ofNat)
        (row.investigationId.map Int.ofNat))
    {new : NewRow} {workspace : Nat} (hown : new.ownerUsername = owner)
    (hworkspace : new.workspaceId = some workspace) (hinvestigation : new.investigationId = none)
    (hrun : c.run env ownerUsername db = insertAndTouch env c.table new db') :
    c.Works env ownerUsername db := by
  rw [insertAndTouch_untouched c.table new hinvestigation] at hrun
  have hrow : ((db'.set c.table ((db'.owned c.table).insert (new.row env.now)
      (new.row_id env.now))).owned c.table).row? (new.row env.now (db'.owned c.table).next).id =
      some (new.row env.now (db'.owned c.table).next) := by
    rw [WorkspaceDb.set_owned, if_pos rfl, Table.insert_row?, if_pos (new.row_id ..)]
  obtain ⟨records, hrecords, honce⟩ :=
    @listUnderParent_once env _ _ _ howner _ order _ hrow hown _ hworkspace hinvestigation
  exact ⟨_, _, _, records, hrun, hrow, rfl, (hlist _ ▸ hrecords), honce⟩

theorem checkOneOf_eq {value : Json} {names : List String} (message : String)
    (h : value.isOneOf names = true) : checkOneOf value names message = .ok () := by
  cases value with
  | str s =>
    unfold checkOneOf
    rw [h]
    rfl
  | null | bool | int | float | arr | obj => cases h

theorem exists_of_isOk {α ε : Type} {r : Except ε α} (h : r.isOk = true) : ∃ a, r = .ok a := by
  cases r with
  | ok a => exact ⟨a, rfl⟩
  | error e => cases h

/-- Nothing else than the insert can raise where the call is checked and no investigation is
    touched. -/
theorem works_of_untouched {ownerUsername : Json} (howner : ensureOwner env.py ownerUsername = .ok owner)
    {c : Creation} (hchecked : c.Checked env db owner) (h : c.Untouched db owner) :
    c.Works env ownerUsername db := by
  have hidem := ensureOwner_idem howner
  obtain ⟨hnone, hdefault⟩ := h
  cases c with
  | note workspaceId investigationId body =>
    obtain rfl : investigationId = none := hnone
    obtain ⟨hparents, hbody⟩ := hchecked
    obtain ⟨bodyValue, hbody⟩ := exists_of_isOk hbody
    obtain ⟨id, db', hparent, -⟩ := @validateParent_eq env _ _ hidem _ hparents hdefault
    apply @inserted_works env db db' _ _ howner
      (.note workspaceId none body) _ (fun _ => rfl)
      ⟨owner, some id, none, none, none, _⟩ _ rfl rfl rfl
    show createNote env ownerUsername workspaceId none body db = _
    unfold createNote
    rw [ofExcept_bind howner, bind_of_ok hparent]
    exact ofExcept_bind hbody _ db'
  | hypothesis workspaceId investigationId title body status confidence =>
    obtain rfl : investigationId = none := hnone
    obtain ⟨hparents, htitle, hstatus, hconfidence⟩ := hchecked
    obtain ⟨titleValue, htitle⟩ := exists_of_isOk htitle
    obtain ⟨id, db', hparent, -⟩ := @validateParent_eq env _ _ hidem _ hparents hdefault
    apply @inserted_works env db db' _ _ howner
      (.hypothesis workspaceId none title body status confidence) _ (fun _ => rfl)
      ⟨owner, some id, none, none, none, _⟩ _ rfl rfl rfl
    show createHypothesis env ownerUsername workspaceId none title body status confidence db = _
    unfold createHypothesis
    rw [ofExcept_bind howner, bind_of_ok hparent]
    dsimp only
    rw [ofExcept_bind (checkOneOf_eq _ hstatus), ofExcept_bind (checkOneOf_eq _ hconfidence)]
    exact ofExcept_bind htitle _ db'
  | task workspaceId investigationId title status hypothesisId evidenceReferenceId =>
    obtain rfl : investigationId = none := hnone
    obtain ⟨hparents, htitle, hstatus, hhypothesis, hevidence⟩ := hchecked
    obtain ⟨titleValue, htitle⟩ := exists_of_isOk htitle
    obtain ⟨id, db', hparent, howned⟩ := @validateParent_eq env _ _ hidem _ hparents hdefault
    obtain ⟨refs, hrefs⟩ := validateOptionalChildRefs_eq (referenced_congr howned hhypothesis)
      (referenced_congr howned hevidence)
    apply @inserted_works env db db' _ _ howner
      (.task workspaceId none title status hypothesisId evidenceReferenceId) _ (fun _ => rfl)
      ⟨owner, some id, none, refs.1, refs.2, _⟩ _ rfl rfl rfl
    show createTask env ownerUsername workspaceId none title status hypothesisId evidenceReferenceId
      db = _
    unfold createTask
    rw [ofExcept_bind howner, bind_of_ok hparent]
    dsimp only
    rw [ofExcept_bind (checkOneOf_eq _ hstatus), bind_of_ok hrefs]
    exact ofExcept_bind htitle _ db'
  | evidence workspaceId investigationId objectType objectId label source metadata rationale
      relationshipType =>
    obtain rfl : investigationId = none := hnone
    obtain ⟨hparents, htype, hid, hlabel, hrelationship⟩ := hchecked
    obtain ⟨typeValue, htype⟩ := exists_of_isOk htype
    obtain ⟨idValue, hid⟩ := exists_of_isOk hid
    obtain ⟨labelValue, hlabel⟩ := exists_of_isOk hlabel
    obtain ⟨id, db', hparent, -⟩ := @validateParent_eq env _ _ hidem _ hparents hdefault
    apply @inserted_works env db db' _ _ howner
      (.evidence workspaceId none objectType objectId label source metadata rationale
        relationshipType) _ (fun _ => rfl)
      ⟨owner, some id, none, none, none, _⟩ _ rfl rfl rfl
    show createEvidence env ownerUsername workspaceId none objectType objectId label source metadata
      rationale relationshipType db = _
    unfold createEvidence
    rw [ofExcept_bind howner, bind_of_ok hparent]
    dsimp only
    rw [ofExcept_bind (checkOneOf_eq _ hrelationship), ofExcept_bind htype, ofExcept_bind hid]
    exact ofExcept_bind hlabel _ db'
  | link => cases hnone

/-- A link touches its investigation, whether it is inserted or updated. -/
theorem link_raises {ownerUsername : Json} {investigationId hypothesisId evidenceReferenceId : Int}
    {relationshipType rationale record : Json} :
    linkHypothesisEvidence env ownerUsername investigationId hypothesisId evidenceReferenceId
      relationshipType rationale db ≠ (.ok record, db') := by
  intro h
  unfold linkHypothesisEvidence at h
  obtain ⟨_, _, -, h⟩ := bind_eq_ok.mp h
  obtain ⟨_, _, -, h⟩ := bind_eq_ok.mp h
  obtain ⟨_, _, -, h⟩ := bind_eq_ok.mp h
  obtain ⟨_, _, -, h⟩ := bind_eq_ok.mp h
  obtain ⟨_, _, -, h⟩ := bind_eq_ok.mp h
  obtain ⟨_, _, -, h⟩ := bind_eq_ok.mp h
  obtain ⟨cur, _, htouch, h⟩ := bind_eq_ok.mp h
  obtain ⟨_, _, -, htouched⟩ := bind_eq_ok.mp htouch
  cases htouched
  obtain ⟨_, _, hfetch, -⟩ := bind_eq_ok.mp h
  cases hfetch

/-- A call that has returned has not touched an investigation. -/
theorem untouched_of_run {ownerUsername : Json} (howner : ensureOwner env.py ownerUsername = .ok owner)
    {c : Creation} {record : Json} (hrun : c.run env ownerUsername db = (.ok record, db')) :
    c.Untouched db owner := by
  have hidem := ensureOwner_idem howner
  -- the parents were found first, and the record was inserted under them last
  have hparents {workspaceId investigationId : Option Int} {parents : Option Nat × Option Nat}
      {db₁ db₂ db₃ : WorkspaceDb} {table : TableName} {new : NewRow}
      (hparent : validateParent env owner workspaceId investigationId db = (.ok parents, db₁))
      (hnew : new.investigationId = parents.2)
      (hinsert : insertAndTouch env table new db₂ = (.ok record, db₃)) :
      investigationId = none ∧ (workspaceId = none → DefaultAvailable db owner) := by
    obtain ⟨hnone, hdefault⟩ := validateParent_ok hidem hparent
    have huntouched := hnone (hnew ▸ insertAndTouch_ok hinsert)
    exact ⟨huntouched, fun hworkspace => hdefault hworkspace huntouched⟩
  unfold Creation.run at hrun
  cases c with
  | note workspaceId investigationId body =>
    dsimp only at hrun
    unfold createNote at hrun
    obtain ⟨_, _, hown, h⟩ := bind_eq_ok.mp hrun
    cases howner ▸ hown
    obtain ⟨parents, _, hparent, h⟩ := bind_eq_ok.mp h
    obtain ⟨_, _, -, hinsert⟩ := bind_eq_ok.mp h
    exact hparents hparent rfl hinsert
  | hypothesis workspaceId investigationId title body status confidence =>
    dsimp only at hrun
    unfold createHypothesis at hrun
    obtain ⟨_, _, hown, h⟩ := bind_eq_ok.mp hrun
    cases howner ▸ hown
    obtain ⟨parents, _, hparent, h⟩ := bind_eq_ok.mp h
    obtain ⟨_, _, -, h⟩ := bind_eq_ok.mp h
    obtain ⟨_, _, -, h⟩ := bind_eq_ok.mp h
    obtain ⟨_, _, -, hinsert⟩ := bind_eq_ok.mp h
    exact hparents hparent rfl hinsert
  | task workspaceId investigationId title status hypothesisId evidenceReferenceId =>
    dsimp only at hrun
    unfold createTask at hrun
    obtain ⟨_, _, hown, h⟩ := bind_eq_ok.mp hrun
    cases howner ▸ hown
    obtain ⟨parents, _, hparent, h⟩ := bind_eq_ok.mp h
    obtain ⟨_, _, -, h⟩ := bind_eq_ok.mp h
    obtain ⟨_, _, -, h⟩ := bind_eq_ok.mp h
    obtain ⟨_, _, -, hinsert⟩ := bind_eq_ok.mp h
    exact hparents hparent rfl hinsert
  | evidence workspaceId investigationId objectType objectId label source metadata rationale
      relationshipType =>
    dsimp only at hrun
    unfold createEvidence at hrun
    obtain ⟨_, _, hown, h⟩ := bind_eq_ok.mp hrun
    cases howner ▸ hown
    obtain ⟨parents, _, hparent, h⟩ := bind_eq_ok.mp h
    obtain ⟨_, _, -, h⟩ := bind_eq_ok.mp h
    obtain ⟨_, _, -, h⟩ := bind_eq_ok.mp h
    obtain ⟨_, _, -, h⟩ := bind_eq_ok.mp h
    obtain ⟨_, _, -, hinsert⟩ := bind_eq_ok.mp h
    exact hparents hparent rfl hinsert
  | link => exact absurd hrun link_raises

/-- A checked call works just where it touches no investigation, and finds or can make the workspace
    it needs. -/
theorem creation_works_iff {ownerUsername : Json} (howner : ensureOwner env.py ownerUsername = .ok owner)
    {c : Creation} (hchecked : c.Checked env db owner) :
    c.Works env ownerUsername db ↔ c.Untouched db owner := by
  constructor
  · rintro ⟨record, db', row, records, hrun, -⟩
    exact untouched_of_run howner hrun
  · exact works_of_untouched howner hchecked

end

/-! ## Sample calls -/

/-- An interpreter and tables of other modules that no sample call asks. -/
def quietEnvironment : Environment where
  py := ⟨fun _ => "", fun _ => "", fun _ _ => .ok none⟩
  toInt _ := .error "invalid literal for int()"
  now := 0
  alertExists _ := some false
  incidentExists _ := some false
  reconActivityExists _ := some false
  integer _ := none
  inet _ := none

/-- A note that names no parent, for an owner without workspaces. -/
def looseNote : Creation := .note none none (.str "Seen before.")

theorem looseNote_works :
    looseNote.Works quietEnvironment (.str "analyst") .empty := by
  have howner : ensureOwner quietEnvironment.py (.str "analyst") = .ok "analyst" := by
    decide +kernel
  have hparents : Parents .empty "analyst" none none := by
    constructor <;> intro id h <;> cases h
  have hchecked : looseNote.Checked quietEnvironment .empty "analyst" :=
    ⟨hparents, by decide +kernel⟩
  refine (creation_works_iff howner hchecked).mpr ⟨rfl, fun _ => .inr fun ws h => ?_⟩
  cases h

def openInvestigation : NewRow where
  ownerUsername := "analyst"
  data := [("title", .str "Scan"), ("status", .str "open"), ("closed_at", .null)]

/-- The tables with that investigation only. -/
def oneInvestigation : WorkspaceDb :=
  WorkspaceDb.empty.set .investigations
    (Table.empty.insert (openInvestigation.row 0) (openInvestigation.row_id 0))

def investigationNote : Creation := .note none (some 1) (.str "Seen before.")

/-- The note passes every check, and creating it raises. -/
theorem investigationNote_raises :
    ensureOwner quietEnvironment.py (.str "analyst") = .ok "analyst" ∧
      investigationNote.Checked quietEnvironment oneInvestigation "analyst" ∧
      ¬ investigationNote.Works quietEnvironment (.str "analyst") oneInvestigation := by
  have howner : ensureOwner quietEnvironment.py (.str "analyst") = .ok "analyst" := by
    decide +kernel
  have hparents : Parents oneInvestigation "analyst" none (some 1) := by
    constructor <;> intro id h <;> cases h
    exact ⟨openInvestigation.row 0 1, rfl, rfl⟩
  refine ⟨howner, ⟨hparents, by decide +kernel⟩, ?_⟩
  · rintro ⟨record, db', row, records, hrun, -⟩
    have hnone : some (1 : Int) = none := (untouched_of_run howner hrun).1
    cases hnone

end SiemDashboard.InvestigationWorkspace
