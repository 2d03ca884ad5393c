import SiemDashboard.Core.InvestigationWorkspaceStore

/-!
# Whose the rows of a workspace are

Every row points to rows of its own owner, and every operation changes rows of its own owner only.

* **Rows** — `Placed`: a row stands where it may; `Confined`: all rows do.
* **Changes** — `Change`: the four ways in which an owner's operations change the tables; each keeps
  `Confined` (`Change.confined`) and every other owner's rows (`Change.untouched`).
* **Refinement** — `Owns`: a program goes by changes of its owner; one lemma for each function of the
  store.
* **Runs** — `WorkspaceOp`, `WorkspaceCall`, `ownership_confined`.
-/

namespace SiemDashboard.InvestigationWorkspace

open Python Tables Effects

/-! ## Rows -/

/-- The row that is pointed to is there, and the owner's. -/
def OwnedBy (db : WorkspaceDb) (table : TableName) (owner : String) (id : Nat) : Prop :=
  ∃ row, (db.owned table).row? id = some row ∧ row.ownerUsername = owner

/-- The row that is pointed to is there, the owner's, and of the investigation that is given. -/
def OwnedWithin (db : WorkspaceDb) (table : TableName) (owner : String) (investigationId : Option Nat)
    (id : Nat) : Prop :=
  ∃ row, (db.owned table).row? id = some row ∧ row.ownerUsername = owner ∧
    ∀ i, investigationId = some i → row.investigationId = some i

/-- The workspace is there, and the owner's. -/
def WorkspaceOf (db : WorkspaceDb) (owner : String) (id : Nat) : Prop :=
  ∃ ws, db.workspaces.row? id = some ws ∧ ws.ownerUsername = owner

/-- An investigation has a time of closing just where it is closed. -/
def ClosedAgrees (row : OwnedRow) : Prop :=
  (row.column "closed_at").isNull = false ↔ row.column "status" = .str "closed"

/-- A row of a table points to rows of its own owner; what it points to besides the workspace is of
    its own investigation. -/
structure Placed (db : WorkspaceDb) (table : TableName) (row : OwnedRow) : Prop where
  workspace : ∀ id, row.workspaceId = some id → WorkspaceOf db row.ownerUsername id
  investigation : ∀ id, row.investigationId = some id →
    OwnedBy db .investigations row.ownerUsername id
  hypothesis : ∀ id, row.hypothesisId = some id →
    OwnedWithin db .investigationHypotheses row.ownerUsername row.investigationId id
  evidence : ∀ id, row.evidenceReferenceId = some id →
    OwnedWithin db .evidenceReferences row.ownerUsername row.investigationId id
  closed : table = .investigations → ClosedAgrees row
  root : table = .investigations ∨ table = .workspaceItems → row.investigationId = none
  pointers : table ≠ .investigationTasks → table ≠ .investigationHypothesisEvidence →
    row.hypothesisId = none ∧ row.evidenceReferenceId = none
  linked : table = .investigationHypothesisEvidence →
    row.investigationId ≠ none ∧ row.hypothesisId ≠ none ∧ row.evidenceReferenceId ≠ none

/-- Every row stands where it may. -/
def Confined (db : WorkspaceDb) : Prop :=
  ∀ table id row, (db.owned table).row? id = some row → Placed db table row

/-- The rows of other owners are as they were. -/
structure Untouched (owner : String) (db db' : WorkspaceDb) : Prop where
  workspaces : ∀ id ws, ws.ownerUsername ≠ owner →
    (db'.workspaces.row? id = some ws ↔ db.workspaces.row? id = some ws)
  owned : ∀ table id row, row.ownerUsername ≠ owner →
    ((db'.owned table).row? id = some row ↔ (db.owned table).row? id = some row)

/-- A row keeps its id, its owner and its parents. -/
structure SameKeys (row row' : OwnedRow) : Prop where
  id : row'.id = row.id
  ownerUsername : row'.ownerUsername = row.ownerUsername
  workspaceId : row'.workspaceId = row.workspaceId
  investigationId : row'.investigationId = row.investigationId

theorem SameKeys.refl (row : OwnedRow) : SameKeys row row := ⟨rfl, rfl, rfl, rfl⟩

theorem SameKeys.trans {a b c : OwnedRow} (h : SameKeys a b) (h' : SameKeys b c) : SameKeys a c :=
  ⟨h'.id.trans h.id, h'.ownerUsername.trans h.ownerUsername, h'.workspaceId.trans h.workspaceId,
    h'.investigationId.trans h.investigationId⟩

/-! ## Changes -/

/-- How the operations of an owner change the tables. -/
inductive Change (owner : String) : WorkspaceDb → WorkspaceDb → Prop
  | addWorkspace {db : WorkspaceDb} (make : Nat → Workspace) (hmake : ∀ id, (make id).id = id)
      (hown : ∀ id, (make id).ownerUsername = owner) :
      Change owner db { db with workspaces := db.workspaces.insert make hmake }
  | addRow {db : WorkspaceDb} (table : TableName) (new : NewRow) (now : Int)
      (hown : new.ownerUsername = owner) (hplaced : ∀ id, Placed db table (new.row now id)) :
      Change owner db (db.set table ((db.owned table).insert (new.row now) (new.row_id now)))
  | write {db : WorkspaceDb} (table : TableName) (rows : Table OwnedRow OwnedRow.id)
      (f : OwnedRow → OwnedRow)
      (hrows : ∀ id, rows.row? id = ((db.owned table).row? id).map f)
      (hf : ∀ id row, (db.owned table).row? id = some row → f row = row ∨
        row.ownerUsername = owner ∧ SameKeys row (f row) ∧
          (Placed db table row → Placed db table (f row))) :
      Change owner db (db.set table rows)
  | remove {db : WorkspaceDb} (table : TableName) (id : Nat)
      (howned : OwnedBy db table owner id) :
      Change owner db { db with owned := afterDelete db table id }

/-- Every row that can be pointed to is still there, with its owner and its investigation. -/
structure Carries (db db' : WorkspaceDb) : Prop where
  workspaces : ∀ {id owner}, WorkspaceOf db owner id → WorkspaceOf db' owner id
  owned : ∀ {table id row}, (db.owned table).row? id = some row →
    ∃ row', (db'.owned table).row? id = some row' ∧ row'.ownerUsername = row.ownerUsername ∧
      row'.investigationId = row.investigationId

variable {db db' : WorkspaceDb} {owner : String} {table : TableName} {row : OwnedRow}

/-- A row stands where it may as long as what it points to is carried on. -/
theorem Placed.carry (h : Placed db table row) (hcarries : Carries db db') : Placed db' table row := by
  have howned {other : TableName} {investigationId : Option Nat} {id : Nat}
      (hrow : OwnedWithin db other row.ownerUsername investigationId id) :
      OwnedWithin db' other row.ownerUsername investigationId id := by
    obtain ⟨target, htarget, hown, hwithin⟩ := hrow
    obtain ⟨target', htarget', hown', hsame⟩ := hcarries.owned htarget
    exact ⟨target', htarget', hown'.trans hown, fun i hi => hsame.trans (hwithin i hi)⟩
  refine { h with
    workspace := fun id hid => hcarries.workspaces (h.workspace id hid)
    investigation := fun id hid => ?_
    hypothesis := fun id hid => howned (h.hypothesis id hid)
    evidence := fun id hid => howned (h.evidence id hid) }
  obtain ⟨target, htarget, hown⟩ := h.investigation id hid
  obtain ⟨target', htarget', hown', -⟩ := hcarries.owned htarget
  exact ⟨target', htarget', hown'.trans hown⟩

theorem carries_of_workspaces (make : Nat → Workspace) (hmake : ∀ id, (make id).id = id) :
    Carries db { db with workspaces := db.workspaces.insert make hmake } where
  workspaces := by
    rintro id owner ⟨ws, hws, hown⟩
    exact ⟨ws, Table.insert_row?_of_some _ make hmake hws, hown⟩
  owned h := ⟨_, h, rfl, rfl⟩

/-- One table is written, and its rows keep their keys. -/
theorem carries_of_set {rows : Table OwnedRow OwnedRow.id}
    (h : ∀ id row, (db.owned table).row? id = some row →
      ∃ row', rows.row? id = some row' ∧ SameKeys row row') : Carries db (db.set table rows) where
  workspaces h := h
  owned := by
    intro other id row hrow
    rw [WorkspaceDb.set_owned]
    split
    · next heq =>
      subst heq
      obtain ⟨row', hrow', hkeys⟩ := h id row hrow
      exact ⟨row', hrow', hkeys.ownerUsername, hkeys.investigationId⟩
    · exact ⟨row, hrow, rfl, rfl⟩

/-- What holds of every row of the written table and of every row of the others. -/
theorem confined_set {rows : Table OwnedRow OwnedRow.id} (hconfined : Confined db)
    (hcarries : Carries db (db.set table rows))
    (h : ∀ id row, rows.row? id = some row → Placed (db.set table rows) table row) :
    Confined (db.set table rows) := by
  intro other id row hrow
  rw [WorkspaceDb.set_owned] at hrow
  split at hrow
  · next heq =>
    subst heq
    exact h id row hrow
  · exact (hconfined other id row hrow).carry hcarries

/-! ### Deletion -/

theorem referenceGoes_iff {id : Nat} {other : TableName} {reference : Option Nat} :
    referenceGoes db table id other reference = true ↔
      ∃ n target, reference = some n ∧ (db.owned other).row? n = some target ∧
        goesDirectly table id other target = true := by
  unfold referenceGoes
  cases reference with
  | none => simp
  | some n => cases hrow : (db.owned other).row? n <;> simp [hrow]

/-- A row that goes directly is the owner's, where the row that the deletion is about is. -/
theorem goesDirectly_owner (hconfined : Confined db) {id : Nat} (howned : OwnedBy db table owner id)
    {other : TableName} {n : Nat} (hrow : (db.owned other).row? n = some row)
    (h : goesDirectly table id other row = true) : row.ownerUsername = owner := by
  obtain ⟨target, htarget, hown⟩ := howned
  simp only [goesDirectly, Bool.or_eq_true, Bool.and_eq_true, decide_eq_true_eq] at h
  rcases h with ⟨rfl, hid⟩ | ⟨⟨⟨rfl, -⟩, -⟩, hinvestigation⟩
  · have hn : n = id := ((db.owned other).keyed n row hrow).symm.trans hid
    rw [hn, htarget] at hrow
    cases hrow
    exact hown
  · obtain ⟨parent, hparent, hparentOwner⟩ :=
      (hconfined other n row hrow).investigation id hinvestigation
    rw [htarget] at hparent
    cases hparent
    exact hparentOwner.symm.trans hown

/-- What is pointed to and goes is the owner's, and so is the row that points to it. -/
theorem referenceGoes_owner (hconfined : Confined db) {id : Nat} (howned : OwnedBy db table owner id)
    {other : TableName} {reference investigationId : Option Nat} {rowOwner : String}
    (hplaced : ∀ n, reference = some n → OwnedWithin db other rowOwner investigationId n)
    (h : referenceGoes db table id other reference = true) : rowOwner = owner := by
  obtain ⟨n, target, hn, htarget, hdirect⟩ := referenceGoes_iff.mp h
  obtain ⟨target', htarget', hown, -⟩ := hplaced n hn
  rw [htarget] at htarget'
  cases htarget'
  exact hown.symm.trans (goesDirectly_owner hconfined howned htarget hdirect)

/-- A row that goes with a deletion is the owner's. -/
theorem goesWith_owner (hconfined : Confined db) {id : Nat} (howned : OwnedBy db table owner id)
    {other : TableName} {n : Nat} (hrow : (db.owned other).row? n = some row)
    (h : goesWith db table id other row = true) : row.ownerUsername = owner := by
  have hplaced := hconfined other n row hrow
  simp only [goesWith, Bool.or_eq_true, Bool.and_eq_true] at h
  rcases h with hdirect | ⟨-, hhypothesis | hevidence⟩
  · exact goesDirectly_owner hconfined howned hrow hdirect
  · exact referenceGoes_owner hconfined howned hplaced.hypothesis hhypothesis
  · exact referenceGoes_owner hconfined howned hplaced.evidence hevidence

/-- A row none of whose references goes is left as it is. -/
theorem clearReferences_eq {id : Nat}
    (hhypothesis : referenceGoes db table id .investigationHypotheses row.hypothesisId = false)
    (hevidence : referenceGoes db table id .evidenceReferences row.evidenceReferenceId = false) :
    clearReferences db table id row = row := by
  unfold clearReferences
  dsimp only
  rw [hhypothesis, hevidence]
  rfl

/-- Whose references are cleared is the owner's. -/
theorem clearReferences_owner (hconfined : Confined db) {id : Nat}
    (howned : OwnedBy db table owner id) {other : TableName} {n : Nat}
    (hrow : (db.owned other).row? n = some row) (hother : row.ownerUsername ≠ owner) :
    clearReferences db table id row = row := by
  have hplaced := hconfined other n row hrow
  refine clearReferences_eq (Bool.eq_false_iff.mpr fun h => hother ?_)
    (Bool.eq_false_iff.mpr fun h => hother ?_)
  · exact referenceGoes_owner hconfined howned hplaced.hypothesis h
  · exact referenceGoes_owner hconfined howned hplaced.evidence h

/-- A row after a deletion was there before, did not go with it, and points to nothing that did. -/
theorem afterDelete_row? {id : Nat} {other : TableName} {n : Nat} :
    (afterDelete db table id other).row? n =
      (((db.owned other).row? n).filter fun row => !goesWith db table id other row).map fun row =>
        if other = .investigationTasks then clearReferences db table id row else row := by
  unfold afterDelete
  split
  · simp only [Table.updateAll, Table.delete, if_true]
  · simp only [Table.delete, Option.map_id']

/-- What is pointed to and does not go is still there. -/
theorem survives {id n : Nat} {other : TableName} {rowOwner : String} {investigationId : Option Nat}
    (hother : other = .investigationHypotheses ∨ other = .evidenceReferences)
    (hrow : OwnedWithin db other rowOwner investigationId n)
    (h : referenceGoes db table id other (some n) = false) :
    OwnedWithin { db with owned := afterDelete db table id } other rowOwner investigationId n := by
  obtain ⟨target, htarget, hrest⟩ := hrow
  have hdirect : goesDirectly table id other target = false := by
    unfold referenceGoes at h
    rw [Option.bind_some, htarget] at h
    exact h
  have hkept : goesWith db table id other target = false := by
    unfold goesWith
    rw [hdirect]
    rcases hother with rfl | rfl <;> rfl
  refine ⟨target, ?_, hrest⟩
  show (afterDelete db table id other).row? n = some target
  rw [afterDelete_row?, htarget, Option.filter_some, hkept]
  rcases hother with rfl | rfl <;> rfl

/-- An investigation whose records stay is still there. -/
theorem investigation_survives {id n : Nat} {rowOwner : String}
    (hrow : OwnedBy db .investigations rowOwner n) (h : ¬ (table = .investigations ∧ n = id)) :
    OwnedBy { db with owned := afterDelete db table id } .investigations rowOwner n := by
  obtain ⟨target, htarget, hown⟩ := hrow
  have hkept : goesWith db table id .investigations target = false := by
    refine Bool.eq_false_iff.mpr fun hgoes => h ?_
    simp only [goesWith, goesDirectly, Bool.or_eq_true, Bool.and_eq_true, decide_eq_true_eq] at hgoes
    rcases hgoes with (⟨rfl, hid⟩ | ⟨⟨⟨-, hne⟩, -⟩, -⟩) | ⟨heq, -⟩
    · exact ⟨rfl, ((db.owned _).keyed n target htarget).symm.trans hid⟩
    · exact absurd rfl hne
    · cases heq
  refine ⟨target, ?_, hown⟩
  show (afterDelete db table id .investigations).row? n = some target
  rw [afterDelete_row?, htarget, Option.filter_some, hkept]
  rfl

/-- A reference that is not cleared does not go. -/
theorem clearReferences_kept {id n : Nat} :
    ((clearReferences db table id row).hypothesisId = some n → row.hypothesisId = some n ∧
      referenceGoes db table id .investigationHypotheses (some n) = false) ∧
    ((clearReferences db table id row).evidenceReferenceId = some n →
      row.evidenceReferenceId = some n ∧
      referenceGoes db table id .evidenceReferences (some n) = false) := by
  have hkept (other : TableName) {reference : Option Nat}
      (h : (if referenceGoes db table id other reference then none else reference) = some n) :
      reference = some n ∧ referenceGoes db table id other (some n) = false := by
    split at h
    · cases h
    · next hstays =>
      subst h
      exact ⟨rfl, Bool.eq_false_iff.mpr hstays⟩
  exact ⟨hkept .investigationHypotheses, hkept .evidenceReferences⟩

/-- A row that does not go with a deletion still stands where it may. -/
theorem placed_of_kept {other : TableName} (hplaced : Placed db other row) {id : Nat}
    (hkept : goesWith db table id other row = false) :
    Placed { db with owned := afterDelete db table id } other
      (if other = .investigationTasks then clearReferences db table id row else row) := by
  have hnotDirect : goesDirectly table id other row = false := by
    unfold goesWith at hkept
    exact (Bool.or_eq_false_iff.mp hkept).1
  have hinvestigation (n : Nat) (hn : row.investigationId = some n) :
      OwnedBy { db with owned := afterDelete db table id } .investigations row.ownerUsername n := by
    refine investigation_survives (hplaced.investigation n hn) fun hgone => ?_
    obtain ⟨rfl, rfl⟩ := hgone
    have hroot : other ≠ .investigations ∧ other ≠ .workspaceItems := by
      constructor <;> intro heq
      · rw [hplaced.root (.inl heq)] at hn
        cases hn
      · rw [hplaced.root (.inr heq)] at hn
        cases hn
    simp [goesDirectly, hroot.1, hroot.2, hn] at hnotDirect
  split
  · next htask =>
    subst htask
    refine ⟨hplaced.workspace, hinvestigation, fun n hn => ?_, fun n hn => ?_,
      nofun, hplaced.root, fun h => absurd rfl h, nofun⟩
    · obtain ⟨hrow, hstays⟩ := clearReferences_kept.1 hn
      exact survives (.inl rfl) (hplaced.hypothesis n hrow) hstays
    · obtain ⟨hrow, hstays⟩ := clearReferences_kept.2 hn
      exact survives (.inr rfl) (hplaced.evidence n hrow) hstays
  · next htask =>
    -- only links point to a hypothesis and to evidence besides, and a link goes with either
    have hstays (hlink : other = .investigationHypothesisEvidence) :
        referenceGoes db table id .investigationHypotheses row.hypothesisId = false ∧
          referenceGoes db table id .evidenceReferences row.evidenceReferenceId = false := by
      subst hlink
      unfold goesWith at hkept
      simpa using (Bool.or_eq_false_iff.mp hkept).2
    refine ⟨hplaced.workspace, hinvestigation, fun n hn => ?_, fun n hn => ?_, hplaced.closed,
      hplaced.root, hplaced.pointers, hplaced.linked⟩
    · by_cases hlink : other = .investigationHypothesisEvidence
      · exact survives (.inl rfl) (hplaced.hypothesis n hn) (hn ▸ (hstays hlink).1)
      · rw [(hplaced.pointers htask hlink).1] at hn
        cases hn
    · by_cases hlink : other = .investigationHypothesisEvidence
      · exact survives (.inr rfl) (hplaced.evidence n hn) (hn ▸ (hstays hlink).2)
      · rw [(hplaced.pointers htask hlink).2] at hn
        cases hn

/-! ### What a change keeps -/

/-- The keys of a written table. -/
theorem write_keys {rows : Table OwnedRow OwnedRow.id} {f : OwnedRow → OwnedRow}
    (hrows : ∀ id, rows.row? id = ((db.owned table).row? id).map f)
    (hf : ∀ id row, (db.owned table).row? id = some row → f row = row ∨
      row.ownerUsername = owner ∧ SameKeys row (f row) ∧
        (Placed db table row → Placed db table (f row))) :
    ∀ id row, (db.owned table).row? id = some row →
      ∃ row', rows.row? id = some row' ∧ SameKeys row row' := by
  intro id row hrow
  refine ⟨f row, by rw [hrows, hrow]; rfl, ?_⟩
  rcases hf id row hrow with hsame | ⟨-, hkeys, -⟩
  · rw [hsame]
    exact .refl row
  · exact hkeys

theorem Change.confined (h : Change owner db db') (hconfined : Confined db) : Confined db' := by
  cases h with
  | addWorkspace make hmake hown =>
    exact fun table id row hrow =>
      (hconfined table id row hrow).carry (carries_of_workspaces make hmake)
  | addRow table new now hown hplaced =>
    have hcarries : Carries db
        (db.set table ((db.owned table).insert (new.row now) (new.row_id now))) :=
      carries_of_set fun id row hrow =>
        ⟨row, Table.insert_row?_of_some _ _ _ hrow, .refl row⟩
    refine confined_set hconfined hcarries fun id row hrow => ?_
    rw [Table.insert_row?] at hrow
    split at hrow
    · cases hrow
      exact (hplaced _).carry hcarries
    · exact (hconfined table id row hrow).carry hcarries
  | write table rows f hrows hf =>
    have hcarries : Carries db (db.set table rows) := carries_of_set (write_keys hrows hf)
    refine confined_set hconfined hcarries fun id row' hrow' => ?_
    rw [hrows] at hrow'
    obtain ⟨row, hrow, rfl⟩ := Option.map_eq_some_iff.mp hrow'
    have hplaced := hconfined table id row hrow
    rcases hf id row hrow with hsame | ⟨-, -, hkeeps⟩
    · rw [hsame]
      exact hplaced.carry hcarries
    · exact (hkeeps hplaced).carry hcarries
  | remove table id howned =>
    intro other n row' hrow'
    have hrow' : (afterDelete db table id other).row? n = some row' := hrow'
    rw [afterDelete_row?] at hrow'
    obtain ⟨row, hfilter, rfl⟩ := Option.map_eq_some_iff.mp hrow'
    obtain ⟨hrow, hkept⟩ := Option.filter_eq_some_iff.mp hfilter
    exact placed_of_kept (hconfined other n row hrow) (by simpa using hkept)

theorem Change.untouched (h : Change owner db db') (hconfined : Confined db) :
    Untouched owner db db' := by
  cases h with
  | addWorkspace make hmake hown =>
    refine ⟨fun id ws hother => ?_, fun _ _ _ _ => Iff.rfl⟩
    show (db.workspaces.insert make hmake).row? id = some ws ↔ _
    refine ⟨fun hws => ?_, fun hws => Table.insert_row?_of_some _ make hmake hws⟩
    rw [Table.insert_row?] at hws
    split at hws
    · cases hws
      exact absurd (hown _) hother
    · exact hws
  | addRow table new now hown hplaced =>
    refine ⟨fun _ _ _ => Iff.rfl, fun other id row hother => ?_⟩
    rw [WorkspaceDb.set_owned]
    split
    · next heq =>
      subst heq
      refine ⟨fun hrow => ?_, fun hrow => Table.insert_row?_of_some _ _ _ hrow⟩
      rw [Table.insert_row?] at hrow
      split at hrow
      · cases hrow
        exact absurd hown hother
      · exact hrow
    · exact Iff.rfl
  | write table rows f hrows hf =>
    refine ⟨fun _ _ _ => Iff.rfl, fun other id row hother => ?_⟩
    rw [WorkspaceDb.set_owned]
    split
    · next heq =>
      subst heq
      rw [hrows]
      constructor
      · intro hrow
        obtain ⟨before, hbefore, rfl⟩ := Option.map_eq_some_iff.mp hrow
        rcases hf id before hbefore with hsame | ⟨hown, hkeys, -⟩
        · rw [hsame]
          exact hbefore
        · exact absurd (hkeys.ownerUsername.trans hown) hother
      · intro hrow
        rcases hf id row hrow with hsame | ⟨hown, -⟩
        · rw [hrow, Option.map_some, hsame]
        · exact absurd hown hother
    · exact Iff.rfl
  | remove table id howned =>
    refine ⟨fun _ _ _ => Iff.rfl, fun other n row hother => ?_⟩
    show (afterDelete db table id other).row? n = some row ↔ _
    rw [afterDelete_row?]
    have hclear {row : OwnedRow} (hrow : (db.owned other).row? n = some row)
        (hother : row.ownerUsername ≠ owner) :
        (if other = .investigationTasks then clearReferences db table id row else row) = row := by
      split
      · exact clearReferences_owner hconfined howned hrow hother
      · rfl
    constructor
    · intro hrow
      obtain ⟨before, hfilter, rfl⟩ := Option.map_eq_some_iff.mp hrow
      obtain ⟨hbefore, -⟩ := Option.filter_eq_some_iff.mp hfilter
      have hown : before.ownerUsername ≠ owner := by
        intro heq
        refine hother ?_
        rw [← heq]
        split <;> rfl
      rw [hclear hbefore hown]
      exact hbefore
    · intro hrow
      have hkept : goesWith db table id other row = false :=
        Bool.eq_false_iff.mpr fun hgoes => hother (goesWith_owner hconfined howned hrow hgoes)
      rw [hrow, Option.filter_some, hkept]
      exact congrArg some (hclear hrow hother)

/-- A run of changes keeps both. -/
theorem changes_confined (h : Relation.ReflTransGen (Change owner) db db') (hconfined : Confined db) :
    Confined db' ∧ Untouched owner db db' := by
  induction h with
  | refl => exact ⟨hconfined, fun _ _ _ => Iff.rfl, fun _ _ _ _ => Iff.rfl⟩
  | tail _ hchange ih =>
    have hstep := hchange.untouched ih.1
    exact ⟨hchange.confined ih.1,
      fun id ws hother => (hstep.workspaces id ws hother).trans (ih.2.workspaces id ws hother),
      fun table id row hother =>
        (hstep.owned table id row hother).trans (ih.2.owned table id row hother)⟩

/-! ## Columns -/

theorem assign_keys (row : OwnedRow) (column : String × Json) : SameKeys row (row.assign column) := by
  unfold OwnedRow.assign
  split <;> exact ⟨rfl, rfl, rfl, rfl⟩

theorem assignAll_keys (row : OwnedRow) (columns : List (String × Json)) :
    SameKeys row (row.assignAll columns) := by
  induction columns generalizing row with
  | nil => exact .refl row
  | cons column columns ih => exact (assign_keys row column).trans (ih (row.assign column))

theorem assignAll_append (row : OwnedRow) (xs ys : List (String × Json)) :
    row.assignAll (xs ++ ys) = (row.assignAll xs).assignAll ys := List.foldl_append

/-- The two columns that say whether an investigation is closed. -/
def ClosingColumn (name : String) : Prop := name = "status" ∨ name = "closed_at"

theorem column_assign {name : String} (hname : ClosingColumn name) (row : OwnedRow)
    (column : String × Json) :
    (row.assign column).column name = if column.1 = name then column.2 else row.column name := by
  obtain ⟨key, value⟩ := column
  have hdata (row : OwnedRow) : row.column name = (row.data.lookup name).getD .null := by
    rcases hname with rfl | rfl <;> rfl
  rw [hdata, hdata]
  unfold OwnedRow.assign
  split
  · next hkey =>
    have hkey : key = "hypothesis_id" := hkey
    rw [if_neg (by rcases hname with rfl | rfl <;> simp [hkey])]
  · next hkey =>
    have hkey : key = "evidence_reference_id" := hkey
    rw [if_neg (by rcases hname with rfl | rfl <;> simp [hkey])]
  · dsimp only
    rw [Json.lookup_setField]
    by_cases hkey : key = name
    · rw [if_pos hkey, if_pos hkey.symm]
      rfl
    · rw [if_neg hkey, if_neg (Ne.symm hkey)]

theorem lookup_of_not_mem {columns : List (String × Json)} {name : String}
    (h : name ∉ columns.map Prod.fst) : columns.lookup name = none := by
  rw [List.lookup_eq_none_iff]
  intro other hother
  have hne : name ≠ other.1 := by
    intro heq
    exact h (heq ▸ List.mem_map_of_mem hother)
  simpa using hne

theorem isOneOf_closed {status : Json} :
    status.isOneOf ["closed"] = true ↔ status = .str "closed" := by
  cases status <;> simp [Json.isOneOf]

/-- What is read after several columns are written, each once. -/
theorem column_assignAll {name : String} (hname : ClosingColumn name) {columns : List (String × Json)}
    (hnodup : (columns.map Prod.fst).Nodup) (row : OwnedRow) :
    (row.assignAll columns).column name = (columns.lookup name).getD (row.column name) := by
  induction columns generalizing row with
  | nil => rfl
  | cons column columns ih =>
    rw [List.map_cons, List.nodup_cons] at hnodup
    have hrest := ih hnodup.2 (row.assign column)
    rw [column_assign hname] at hrest
    have hstep : row.assignAll (column :: columns) = (row.assign column).assignAll columns := rfl
    rw [hstep, hrest, List.lookup_cons]
    by_cases hkey : column.1 = name
    · have hnone : columns.lookup name = none := lookup_of_not_mem (hkey ▸ hnodup.1)
      rw [if_pos hkey, hnone, beq_iff_eq.mpr hkey.symm]
      rfl
    · rw [if_neg hkey, beq_eq_false_iff_ne.mpr (Ne.symm hkey)]

/-- The references of a row after several columns are written. -/
theorem references_assignAll {columns : List (String × Json)}
    (hnodup : (columns.map Prod.fst).Nodup) (row : OwnedRow) :
    (row.assignAll columns).hypothesisId =
        ((columns.lookup "hypothesis_id").map idOf).getD row.hypothesisId ∧
      (row.assignAll columns).evidenceReferenceId =
        ((columns.lookup "evidence_reference_id").map idOf).getD row.evidenceReferenceId := by
  induction columns generalizing row with
  | nil => exact ⟨rfl, rfl⟩
  | cons column columns ih =>
    obtain ⟨key, value⟩ := column
    rw [List.map_cons, List.nodup_cons] at hnodup
    have hstep : row.assignAll ((key, value) :: columns) =
        (row.assign (key, value)).assignAll columns := rfl
    have hnone {name : String} (hkey : key = name) : columns.lookup name = none :=
      lookup_of_not_mem (hkey ▸ hnodup.1)
    rw [hstep, (ih hnodup.2 _).1, (ih hnodup.2 _).2, List.lookup_cons, List.lookup_cons]
    unfold OwnedRow.assign
    split
    · next hkey =>
      have hkey : key = "hypothesis_id" := hkey
      subst hkey
      rw [hnone rfl]
      exact ⟨rfl, rfl⟩
    · next hkey =>
      have hkey : key = "evidence_reference_id" := hkey
      subst hkey
      rw [hnone rfl]
      exact ⟨rfl, rfl⟩
    · next hhypothesis hevidence =>
      have hne (name : String) (hkey : key ≠ name) : (name == key) = false :=
        beq_eq_false_iff_ne.mpr (Ne.symm hkey)
      rw [hne "hypothesis_id" hhypothesis, hne "evidence_reference_id" hevidence]
      exact ⟨rfl, rfl⟩

/-! ## Refinement -/

/-- From tables of which the property holds, in which every row stands where it may, the program goes
    by changes of the owner. -/
def Owns {α : Type} (owner : String) (P : WorkspaceDb → Prop) (p : Store α)
    (Q : α → WorkspaceDb → Prop) : Prop :=
  Steps (Change owner) (fun db => Confined db ∧ P db) p Q

section Rules

variable {α β : Type} {P : WorkspaceDb → Prop} {p : Store α} {Q : α → WorkspaceDb → Prop}
  {S : β → WorkspaceDb → Prop} {k : α → Store β}

theorem Owns.bind (hp : Owns owner P p Q) (hk : ∀ a, Owns owner (Q a) (k a) S) :
    Owns owner P (p >>= k) S :=
  Steps.bind (Steps.keep (fun _ _ h hconfined => h.confined hconfined) (fun _ h => h.1) hp) hk

theorem Owns.read_bind {F : WorkspaceDb → α → Prop} (hp : Reads p F)
    (hk : ∀ a, Owns owner (fun db => P db ∧ F db a) (k a) S) : Owns owner P (p >>= k) S :=
  Steps.read_bind hp fun a => (hk a).imp (fun _ hs => ⟨hs.1.1, hs.1.2, hs.2⟩) fun _ _ hs => hs

/-- A computation whose result is only used where it is none that is raised. -/
theorem Owns.ofExcept_bind {r : Except WorkspaceError α} (hk : ∀ a, r = .ok a → Owns owner P (k a) S) :
    Owns owner P (ofExcept r >>= k) S := by
  cases hr : r with
  | ok a => exact hk a hr
  | error e => exact fun s _ => ⟨.refl, fun a ha => by cases ha⟩

theorem Owns.of_reads {F : WorkspaceDb → α → Prop} (hp : Reads p F) :
    Owns owner P p fun _ _ => True :=
  Steps.of_reads hp fun _ _ _ _ => trivial

end Rules

/-! ### Statements -/

section Statements

variable (env : Environment) {P : WorkspaceDb → Prop}

theorem insertRow_owns {new : NewRow} (hown : new.ownerUsername = owner)
    (hplaced : ∀ db, Confined db → P db → ∀ id, Placed db table (new.row env.now id)) :
    Owns owner P (insertRow env table new) fun _ _ => True :=
  Steps.change (fun db hdb => .addRow table new env.now hown (hplaced db hdb.1 hdb.2))
    fun _ _ => trivial

theorem updateRow_owns {id : Nat} {assignments : OwnedRow → List (String × Json)}
    (hplaced : ∀ db row, Confined db → P db → (db.owned table).row? id = some row →
      row.ownerUsername = owner → Placed db table row →
      Placed db table ((row.assignAll (assignments row)).assign ("updated_at", .int env.now))) :
    Owns owner P (updateRow env table id owner assignments) fun _ _ => True := by
  refine Steps.change (fun db hdb => ?_) fun _ _ => trivial
  refine .write table _ (fun row => if row.id = id ∧ decide (row.ownerUsername = owner) = true then
      (row.assignAll (assignments row)).assign ("updated_at", .int env.now) else row)
    (fun n => Table.update_row?_eq_map ..) fun n row hrow => ?_
  split
  · next hguard =>
    obtain ⟨hid, hown⟩ := hguard
    have hown : row.ownerUsername = owner := by simpa using hown
    obtain rfl : n = id := ((db.owned table).keyed n row hrow).symm.trans hid
    exact .inr ⟨hown, (assignAll_keys ..).trans (assign_keys ..),
      hplaced db row hdb.1 hdb.2 hrow hown⟩
  · exact .inl rfl

/-- Columns may be written where the references among them are the owner's and within the
    investigation, and where closing is told with the status. -/
theorem placed_columns {columns : List (String × Json)} (hnodup : (columns.map Prod.fst).Nodup)
    (h : Placed db table row)
    (hhypothesis : ∀ value, columns.lookup "hypothesis_id" = some value →
      table = .investigationTasks ∧ ∀ id, idOf value = some id →
        OwnedWithin db .investigationHypotheses row.ownerUsername row.investigationId id)
    (hevidence : ∀ value, columns.lookup "evidence_reference_id" = some value →
      table = .investigationTasks ∧ ∀ id, idOf value = some id →
        OwnedWithin db .evidenceReferences row.ownerUsername row.investigationId id)
    (hclosed : table = .investigations → ClosedAgrees (row.assignAll columns)) :
    Placed db table (row.assignAll columns) := by
  have hkeys := assignAll_keys row columns
  obtain ⟨hrowHypothesis, hrowEvidence⟩ := references_assignAll hnodup row
  have hkept {name : String} {id : Option Nat} (htable : table ≠ .investigationTasks)
      (hvalue : ∀ value, columns.lookup name = some value → table = .investigationTasks) :
      ((columns.lookup name).map idOf).getD id = id := by
    cases hlookup : columns.lookup name with
    | none => rfl
    | some value => exact absurd (hvalue value hlookup) htable
  have hsame (htable : table ≠ .investigationTasks) :
      (row.assignAll columns).hypothesisId = row.hypothesisId ∧
        (row.assignAll columns).evidenceReferenceId = row.evidenceReferenceId := by
    rw [hrowHypothesis, hrowEvidence]
    exact ⟨hkept htable fun value hvalue => (hhypothesis value hvalue).1,
      hkept htable fun value hvalue => (hevidence value hvalue).1⟩
  refine ⟨?_, ?_, ?_, ?_, hclosed, ?_, fun htask hlink => ?_, fun hlink => ?_⟩
  · rw [hkeys.workspaceId, hkeys.ownerUsername]
    exact h.workspace
  · rw [hkeys.investigationId, hkeys.ownerUsername]
    exact h.investigation
  · rw [hrowHypothesis, hkeys.ownerUsername, hkeys.investigationId]
    cases hlookup : columns.lookup "hypothesis_id" with
    | none => exact h.hypothesis
    | some value => exact (hhypothesis value hlookup).2
  · rw [hrowEvidence, hkeys.ownerUsername, hkeys.investigationId]
    cases hlookup : columns.lookup "evidence_reference_id" with
    | none => exact h.evidence
    | some value => exact (hevidence value hlookup).2
  · rw [hkeys.investigationId]
    exact h.root
  · rw [(hsame htask).1, (hsame htask).2]
    exact h.pointers htask hlink
  · subst hlink
    have hsame := hsame (by decide)
    rw [hkeys.investigationId, hsame.1, hsame.2]
    exact h.linked rfl

/-- Columns that say nothing of references or of closing may be written anywhere. -/
theorem placed_assignAll {columns : List (String × Json)} (hnodup : (columns.map Prod.fst).Nodup)
    (hnames : ∀ name ∈ ["hypothesis_id", "evidence_reference_id"], columns.lookup name = none)
    (hclosing : table = .investigations → ∀ name ∈ ["status", "closed_at"],
      columns.lookup name = none) (h : Placed db table row) :
    Placed db table (row.assignAll columns) := by
  have hnone {name : String} (hname : name ∈ ["hypothesis_id", "evidence_reference_id"])
      {value : Json} : columns.lookup name ≠ some value := by
    rw [hnames name hname]
    intro h
    cases h
  refine placed_columns hnodup h (fun value hvalue => absurd hvalue (hnone (by simp)))
    (fun value hvalue => absurd hvalue (hnone (by simp))) fun htable => ?_
  have hkept {name : String} (hname : ClosingColumn name) :
      (row.assignAll columns).column name = row.column name := by
    have hmem : name ∈ ["status", "closed_at"] := by
      rcases hname with rfl | rfl <;> simp
    rw [column_assignAll hname hnodup, hclosing htable name hmem]
    rfl
  unfold ClosedAgrees
  rw [hkept (.inr rfl), hkept (.inl rfl)]
  exact h.closed htable

theorem touchInvestigation_owns (cur : Cursor) (investigationId : Option Nat) :
    Owns owner P (touchInvestigation env cur owner investigationId) fun _ _ => True := by
  unfold touchInvestigation
  split
  · exact Owns.of_reads (F := fun _ _ => True) (Reads.pure fun _ => trivial)
  · refine Owns.bind (updateRow_owns env fun db row _ _ _ _ hplaced => ?_) fun touched =>
      Owns.of_reads (F := fun _ _ => True) (Reads.pure fun _ => trivial)
    exact @placed_assignAll _ _ _ [("last_activity_at", .int env.now), ("updated_at",
      .int env.now)] (by simp) (by simp) (fun _ => by simp) hplaced

theorem fetchone_reads (cur : Cursor) : Reads (fetchone cur) fun _ _ => True := by
  unfold fetchone
  split
  · exact Reads.raise _
  · exact Reads.pure fun _ => trivial

theorem serializeFetched_reads (cur : Cursor) (serialize : OwnedRow → Json) :
    Reads (serializeFetched cur serialize) fun _ _ => True := by
  refine Reads.bind (fetchone_reads cur) fun row => ?_
  cases row with
  | none => exact Reads.raise _
  | some row => exact Reads.pure fun _ _ => trivial

theorem insertAndTouch_owns {new : NewRow} (hown : new.ownerUsername = owner)
    (hplaced : ∀ db, Confined db → P db → ∀ id, Placed db table (new.row env.now id)) :
    Owns owner P (insertAndTouch env table new) fun _ _ => True := by
  refine Owns.bind (insertRow_owns env hown hplaced) fun cur => ?_
  rw [hown]
  refine Owns.bind (touchInvestigation_owns env cur new.investigationId) fun cur => ?_
  exact Owns.of_reads (serializeFetched_reads cur _)

/-- An upsert: the row that is in the way is the owner's. -/
theorem upsertRow_owns {conflict : OwnedRow → Bool} {new : NewRow} {excluded : List (String × Json)}
    (hown : new.ownerUsername = owner)
    (hplaced : ∀ db, Confined db → P db → ∀ id, Placed db table (new.row env.now id))
    (hconflict : ∀ db row, Confined db → P db → (db.owned table).row? row.id = some row →
      conflict row = true → row.ownerUsername = owner)
    (hexcluded : ∀ db row, Placed db table row → Placed db table
      ((row.assignAll excluded).assign ("updated_at", .int env.now))) :
    Owns owner P (upsertRow env table conflict new excluded) fun _ _ => True := by
  refine Owns.read_bind (Reads.read (F := fun db found =>
    found = (db.owned table).rows.find? conflict) fun _ => rfl) fun found => ?_
  cases found with
  | none => exact insertRow_owns env hown fun db hconfined hdb => hplaced db hconfined hdb.1
  | some row =>
    refine @Steps.given _ _ _ _ _ _ _ (row.ownerUsername = owner) (fun db hdb => ?_) fun hrow => ?_
    · obtain ⟨hconfined, hP, hfound⟩ := hdb
      have hmem := Table.mem_rows.mp (List.mem_of_find?_eq_some hfound.symm)
      exact hconflict db row hconfined hP hmem (List.find?_some hfound.symm)
    · dsimp only
      rw [hrow]
      exact updateRow_owns env fun db row _ _ _ _ hplaced => hexcluded db row hplaced

/-- The deletion of a row of the owner. -/
theorem deleteRow_owns {id : Nat} (howned : ∀ db, P db → OwnedBy db table owner id) :
    Owns owner P (deleteRow table id owner) fun _ _ => True := by
  refine Steps.change (fun db hdb => ?_) fun _ _ => trivial
  have hchange := Change.remove table id (howned db hdb.2)
  obtain ⟨row, hrow, hown⟩ := howned db hdb.2
  have hfilter : ((db.owned table).row? id).filter (fun row => row.ownerUsername = owner) =
      some row := by
    rw [hrow, Option.filter_some, if_pos (by simpa using hown)]
  rw [hfilter]
  exact hchange

end Statements

/-! ### Parents -/

section Parents

variable (env : Environment)

/-- A row that a client names by its id. -/
theorem row?_eq_some {id : Int} (h : some row = db.row? table id) :
    (row.id : Int) = id ∧ (db.owned table).row? row.id = some row := by
  unfold WorkspaceDb.row? at h
  split at h
  · cases h
  · next hid =>
    have hkey : row.id = id.toNat := (db.owned table).keyed _ row h.symm
    rw [hkey]
    exact ⟨Int.toNat_of_nonneg (Int.not_lt.mp hid), h.symm⟩

theorem getWorkspace_reads (id : Int) (ownerUsername : Json) :
    Reads (getWorkspace env id ownerUsername) fun db ws =>
      ∀ owner, ensureOwner env.py ownerUsername = .ok owner → WorkspaceOf db owner ws.id := by
  refine Reads.bind (Reads.ofExcept (F := fun _ owner =>
    ensureOwner env.py ownerUsername = .ok owner) fun _ _ h => h) fun owner => ?_
  refine Reads.bind (Reads.read (F := fun db found =>
    found = if id < 0 then none else db.workspaces.row? id.toNat) fun _ => rfl) fun found => ?_
  cases found with
  | none => exact Reads.raise _
  | some ws =>
    refine Reads.bind (Reads.raiseIf (F := fun _ _ => ws.ownerUsername = owner) fun _ h => by
      simpa using h) fun _ => Reads.pure fun db hown hfound howner owner' howner' => ?_
    cases howner.symm.trans howner'
    split at hfound
    · cases hfound
    · have hkey := db.workspaces.keyed _ ws hfound.symm
      rw [← hkey] at hfound
      exact ⟨ws, hfound.symm, hown⟩

theorem ownInvestigation_reads (id : Int) :
    Reads (ownInvestigation owner id) fun db row =>
      OwnedBy db .investigations owner row.id := by
  have hget : Reads (getInvestigation id) fun db row =>
      (db.owned .investigations).row? row.id = some row := by
    refine Reads.bind (Reads.read (F := fun db found =>
      found = db.row? .investigations id) fun _ => rfl) fun found => ?_
    cases found with
    | none => exact Reads.raise _
    | some row => exact Reads.pure fun db hfound => (row?_eq_some hfound).2
  refine Reads.bind hget fun row => ?_
  refine Reads.bind (Reads.raiseIf (F := fun _ _ => row.ownerUsername = owner) fun _ h => by
    simpa using h) fun _ => Reads.pure fun db hown hrow => ⟨row, hrow, hown⟩

theorem ownRecord_reads (id : Int) :
    Reads (ownRecord table id owner) fun db row =>
      (db.owned table).row? row.id = some row ∧ row.ownerUsername = owner := by
  refine Reads.bind (Reads.read (F := fun db found => found = db.row? table id) fun _ => rfl)
    fun found => ?_
  cases found with
  | none => exact Reads.raise _
  | some row =>
    refine Reads.bind (Reads.raiseIf (F := fun _ _ => row.ownerUsername = owner) fun _ h => by
      simpa using h) fun _ => Reads.pure fun db hown hfound => ⟨(row?_eq_some hfound).2, hown⟩

theorem validateReferenced_reads (what denied : String) (investigationId : Option Nat) (id : Int) :
    Reads (validateReferenced table what denied owner investigationId id) fun db n =>
      (n : Int) = id ∧ OwnedWithin db table owner investigationId n := by
  refine Reads.bind (Reads.read (F := fun db found => found = db.row? table id) fun _ => rfl)
    fun found => ?_
  cases found with
  | none => exact Reads.raise _
  | some row =>
    refine Reads.bind (Reads.raiseIf (F := fun _ _ => row.ownerUsername = owner) fun _ h => by
      simpa using h) fun _ => ?_
    refine Reads.bind (Reads.raiseIf (F := fun _ _ => ∀ i, investigationId = some i →
      row.investigationId = some i) fun _ h i hi => ?_) fun _ => ?_
    · subst hi
      simpa using h
    · refine Reads.pure fun db hwithin hown hfound => ?_
      obtain ⟨hid, hrow⟩ := row?_eq_some hfound
      exact ⟨hid, row, hrow, hown, hwithin⟩

theorem referenceFound_reads (found : Option Bool) (missing : String) :
    Reads (referenceFound found missing) fun _ _ => True := by
  unfold referenceFound
  split
  · exact Reads.raise _
  · exact Reads.raise _
  · exact Reads.pure fun _ => trivial

theorem validateReference_reads (itemType : String) (referencedObjectId : Json) :
    Reads (validateReference env itemType referencedObjectId) fun _ _ => True := by
  unfold validateReference
  split
  · exact Reads.raise _
  · refine Reads.bind (F := fun _ _ => True) (Reads.ofExcept fun _ _ _ => trivial) fun ref => ?_
    refine Reads.imp (F := fun _ _ => True) ?_ fun _ _ _ _ => trivial
    split
    · exact referenceFound_reads _ _
    · exact referenceFound_reads _ _
    · exact referenceFound_reads _ _
    · split
      · exact referenceFound_reads _ _
      · refine Reads.bind (F := fun _ _ => True) (Reads.read fun _ => trivial) fun found => ?_
        exact (referenceFound_reads _ _).imp fun _ _ _ _ => trivial
    · exact Reads.pure fun _ => trivial

theorem validateLinked_reads (itemType : String) (id : Json) :
    Reads (validateLinked env itemType id) fun _ _ => True := by
  unfold validateLinked
  split
  · exact Reads.pure fun _ => trivial
  · exact validateReference_reads env itemType _

/-- What a reference of a task is stored as, and where it points. -/
def Refers (db : WorkspaceDb) (table : TableName) (owner : String) (investigationId : Option Nat)
    (id : Option Int) (stored : Option Nat) : Prop :=
  stored = id.map Int.toNat ∧ ∀ n, stored = some n → OwnedWithin db table owner investigationId n

theorem optionally_refers (what denied : String) (investigationId : Option Nat) (id : Option Int) :
    Reads (optionally id (validateReferenced table what denied owner investigationId)) fun db n =>
      Refers db table owner investigationId id n := by
  refine (Reads.optionally fun n => validateReferenced_reads what denied investigationId n).imp ?_
  intro db stored h
  rcases h with ⟨rfl, rfl⟩ | ⟨id, n, rfl, rfl, hid, hwithin⟩
  · exact ⟨rfl, fun n hn => by cases hn⟩
  · refine ⟨?_, fun m hm => ?_⟩
    · rw [← hid]
      rfl
    · cases hm
      exact hwithin

theorem validateOptionalChildRefs_reads (investigationId : Option Nat)
    (hypothesisId evidenceReferenceId : Option Int) :
    Reads (validateOptionalChildRefs owner investigationId hypothesisId evidenceReferenceId)
      fun db r =>
        Refers db .investigationHypotheses owner investigationId hypothesisId r.1 ∧
          Refers db .evidenceReferences owner investigationId evidenceReferenceId r.2 := by
  refine Reads.bind (optionally_refers _ _ investigationId hypothesisId) fun hypothesis => ?_
  refine Reads.bind (optionally_refers _ _ investigationId evidenceReferenceId) fun evidence => ?_
  exact Reads.pure fun db hevidence hhypothesis => ⟨hhypothesis, hevidence⟩

/-- The parents of a new row are the owner's. -/
def ParentsOf (owner : String) (db : WorkspaceDb) (workspaceId investigationId : Option Nat) : Prop :=
  (∀ id, workspaceId = some id → WorkspaceOf db owner id) ∧
    ∀ id, investigationId = some id → OwnedBy db .investigations owner id

theorem insertDefaultWorkspace_owns {P : WorkspaceDb → Prop} :
    Owns owner P (insertDefaultWorkspace env owner) fun _ _ => True := by
  refine Owns.read_bind (Reads.read (F := fun _ _ => True) fun _ => trivial) fun taken => ?_
  cases taken with
  | true => exact Steps.raise _
  | false => exact Steps.change (fun db _ => .addWorkspace _ _ fun _ => rfl) fun _ _ => trivial

theorem getOrCreateDefaultWorkspace_owns {P : WorkspaceDb → Prop} {ownerUsername : Json}
    (howner : ensureOwner env.py ownerUsername = .ok owner) :
    Owns owner P (getOrCreateDefaultWorkspace env ownerUsername) fun _ _ => True := by
  refine Owns.ofExcept_bind fun owner' howner' => ?_
  cases howner.symm.trans howner'
  refine Owns.read_bind (Reads.read (F := fun _ _ => True) fun _ => trivial) fun found => ?_
  cases found with
  | none => exact insertDefaultWorkspace_owns env
  | some existing => exact Steps.pure fun _ _ => trivial

theorem validateParent_owns {P : WorkspaceDb → Prop}
    (howner : ensureOwner env.py (.str owner) = .ok owner)
    (workspaceId investigationId : Option Int) :
    Owns owner P (validateParent env owner workspaceId investigationId) fun r db =>
      ParentsOf owner db r.1 r.2 := by
  have hdefault : Owns owner P (workspaceOrDefault env owner workspaceId investigationId)
      fun _ _ => True := by
    unfold workspaceOrDefault
    split
    · refine Owns.bind (getOrCreateDefaultWorkspace_owns env howner) fun ws => ?_
      exact Steps.pure fun _ _ => trivial
    · exact Steps.pure fun _ _ => trivial
  refine Owns.bind hdefault fun workspaceId => ?_
  refine Owns.read_bind (Reads.optionally fun id => getWorkspace_reads env id (.str owner))
    fun workspace => ?_
  refine Owns.read_bind (Reads.optionally fun id => ownInvestigation_reads id)
    fun investigation => ?_
  refine Steps.pure fun db hdb => ?_
  obtain ⟨-, ⟨-, hworkspace⟩, hinvestigation⟩ := hdb
  constructor
  · intro id hid
    rcases hworkspace with ⟨-, rfl⟩ | ⟨_, ws, -, rfl, hws⟩
    · cases hid
    · cases hid
      exact hws owner howner
  · intro id hid
    rcases hinvestigation with ⟨-, rfl⟩ | ⟨_, row, -, rfl, hrow⟩
    · cases hid
    · cases hid
      exact hrow

end Parents

/-! ### Creation -/

section Creation

variable (env : Environment)

/-- A new row under parents of the owner, with references only where its table has them. -/
theorem placed_new {new : NewRow} (hown : new.ownerUsername = owner) (id : Nat)
    (hparents : ParentsOf owner db new.workspaceId new.investigationId)
    (htable : table ≠ .investigations ∧ table ≠ .workspaceItems ∧
      table ≠ .investigationHypothesisEvidence)
    (hhypothesis : ∀ n, new.hypothesisId = some n → table = .investigationTasks ∧
      OwnedWithin db .investigationHypotheses owner new.investigationId n)
    (hevidence : ∀ n, new.evidenceReferenceId = some n → table = .investigationTasks ∧
      OwnedWithin db .evidenceReferences owner new.investigationId n) :
    Placed db table (new.row env.now id) := by
  subst hown
  refine ⟨hparents.1, hparents.2, fun n hn => (hhypothesis n hn).2, fun n hn => (hevidence n hn).2,
    fun h => absurd h htable.1, fun h => ?_, fun htask _ => ⟨?_, ?_⟩,
    fun h => absurd h htable.2.2⟩
  · exact absurd h (by simp [htable.1, htable.2.1])
  · show new.hypothesisId = none
    cases hn : new.hypothesisId with
    | none => rfl
    | some n => exact absurd (hhypothesis n hn).1 htask
  · show new.evidenceReferenceId = none
    cases hn : new.evidenceReferenceId with
    | none => rfl
    | some n => exact absurd (hevidence n hn).1 htask

/-- A record without references is hung under parents of the owner. -/
theorem hang_owns {workspaceId investigationId : Option Nat} {data : List (String × Json)}
    (htable : table ≠ .investigations ∧ table ≠ .workspaceItems ∧
      table ≠ .investigationHypothesisEvidence) :
    Owns owner (fun db => ParentsOf owner db workspaceId investigationId)
      (insertAndTouch env table
        { ownerUsername := owner
          workspaceId := workspaceId
          investigationId := investigationId
          data := data }) fun _ _ => True := by
  refine insertAndTouch_owns env rfl fun db _ hparents id => ?_
  refine placed_new env rfl id hparents htable (fun n hn => ?_) fun n hn => ?_
  · cases hn
  · cases hn

variable (ownerUsername : Json) (workspaceId investigationId : Option Int)

theorem createNote_owns (howner : ensureOwner env.py ownerUsername = .ok owner) (body : Json)
    {P : WorkspaceDb → Prop} :
    Owns owner P (createNote env ownerUsername workspaceId investigationId body)
      fun _ _ => True := by
  refine Owns.ofExcept_bind fun owner' howner' => ?_
  cases howner.symm.trans howner'
  refine Owns.bind (validateParent_owns env (ensureOwner_idem howner) _ _) fun parents => ?_
  refine Owns.ofExcept_bind fun body _ => hang_owns env ?_
  decide

theorem createHypothesis_owns (howner : ensureOwner env.py ownerUsername = .ok owner)
    (title body status confidence : Json) {P : WorkspaceDb → Prop} :
    Owns owner P (createHypothesis env ownerUsername workspaceId investigationId title body status
      confidence) fun _ _ => True := by
  refine Owns.ofExcept_bind fun owner' howner' => ?_
  cases howner.symm.trans howner'
  refine Owns.bind (validateParent_owns env (ensureOwner_idem howner) _ _) fun parents => ?_
  refine Owns.ofExcept_bind fun _ _ => Owns.ofExcept_bind fun _ _ => ?_
  refine Owns.ofExcept_bind fun title _ => hang_owns env ?_
  decide

theorem createEvidence_owns (howner : ensureOwner env.py ownerUsername = .ok owner)
    (referencedObjectType referencedObjectId label source metadata rationale relationshipType : Json)
    {P : WorkspaceDb → Prop} :
    Owns owner P (createEvidence env ownerUsername workspaceId investigationId referencedObjectType
      referencedObjectId label source metadata rationale relationshipType) fun _ _ => True := by
  refine Owns.ofExcept_bind fun owner' howner' => ?_
  cases howner.symm.trans howner'
  refine Owns.bind (validateParent_owns env (ensureOwner_idem howner) _ _) fun parents => ?_
  refine Owns.ofExcept_bind fun _ _ => Owns.ofExcept_bind fun _ _ => ?_
  refine Owns.ofExcept_bind fun _ _ => Owns.ofExcept_bind fun _ _ => ?_
  refine hang_owns env ?_
  decide

theorem createTask_owns (howner : ensureOwner env.py ownerUsername = .ok owner)
    (title status : Json) (hypothesisId evidenceReferenceId : Option Int) {P : WorkspaceDb → Prop} :
    Owns owner P (createTask env ownerUsername workspaceId investigationId title status hypothesisId
      evidenceReferenceId) fun _ _ => True := by
  refine Owns.ofExcept_bind fun owner' howner' => ?_
  cases howner.symm.trans howner'
  refine Owns.bind (validateParent_owns env (ensureOwner_idem howner) _ _) fun parents => ?_
  refine Owns.ofExcept_bind fun _ _ => ?_
  refine Owns.read_bind (validateOptionalChildRefs_reads _ _ _) fun refs => ?_
  refine Owns.ofExcept_bind fun title _ => insertAndTouch_owns env rfl fun db _ hdb id => ?_
  obtain ⟨hparents, hhypothesis, hevidence⟩ := hdb
  exact placed_new env rfl id hparents (by decide) (fun n hn => ⟨rfl, hhypothesis.2 n hn⟩)
    fun n hn => ⟨rfl, hevidence.2 n hn⟩

/-- An investigation that is created closed has a time of closing, and no other has. -/
theorem createInvestigation_owns (howner : ensureOwner env.py ownerUsername = .ok owner)
    (title status summary linkedAlertId linkedIncidentId linkedSourceIp savedState disposition
      confidence conclusion : Json) {P : WorkspaceDb → Prop} :
    Owns owner P (createInvestigation env ownerUsername workspaceId title status summary
      linkedAlertId linkedIncidentId linkedSourceIp savedState disposition confidence conclusion)
      fun _ _ => True := by
  refine Owns.ofExcept_bind fun owner' howner' => ?_
  cases howner.symm.trans howner'
  refine Owns.read_bind (Reads.optionally fun id => getWorkspace_reads env id (.str owner))
    fun workspace => ?_
  refine Owns.ofExcept_bind fun title _ => Owns.ofExcept_bind fun _ hstatus => ?_
  refine Owns.ofExcept_bind fun _ _ => Owns.ofExcept_bind fun _ _ => ?_
  refine Owns.read_bind (validateLinked_reads env _ _) fun _ => ?_
  refine Owns.read_bind (validateLinked_reads env _ _) fun _ => ?_
  refine Owns.ofExcept_bind fun sourceIp _ => ?_
  refine Owns.bind (insertRow_owns env rfl fun db _ hdb id => ?_) fun cur => ?_
  · obtain ⟨⟨⟨-, hworkspace⟩, -⟩, -⟩ := hdb
    have hnone {n : Nat} {P : Prop} (h : (none : Option Nat) = some n) : P := by cases h
    refine ⟨fun n hn => ?_, fun _ => hnone, fun _ => hnone, fun _ => hnone, fun _ => ?_,
      fun _ => rfl, fun _ _ => ⟨rfl, rfl⟩, fun h => ?_⟩
    · have hn : workspace.map Workspace.id = some n := hn
      rcases hworkspace with ⟨-, rfl⟩ | ⟨_, ws, -, rfl, hws⟩
      · cases hn
      · cases hn
        exact hws owner (ensureOwner_idem howner)
    · show (if status.isOneOf ["closed"] then Json.int env.now else Json.null).isNull = false ↔
        status = .str "closed"
      rw [← isOneOf_closed]
      cases status.isOneOf ["closed"] <;> simp [Json.isNull]
    · cases h
  · exact Owns.of_reads (serializeFetched_reads cur _)

/-- A link that is there already is the owner's, as its hypothesis is. -/
theorem linkHypothesisEvidence_owns (howner : ensureOwner env.py ownerUsername = .ok owner)
    (investigationId hypothesisId evidenceReferenceId : Int) (relationshipType rationale : Json)
    {P : WorkspaceDb → Prop} :
    Owns owner P (linkHypothesisEvidence env ownerUsername investigationId hypothesisId
      evidenceReferenceId relationshipType rationale) fun _ _ => True := by
  refine Owns.ofExcept_bind fun owner' howner' => ?_
  cases howner.symm.trans howner'
  refine Owns.ofExcept_bind fun _ _ => ?_
  refine Owns.read_bind (ownInvestigation_reads _) fun investigation => ?_
  refine Owns.read_bind (validateReferenced_reads _ _ _ _) fun hypothesis => ?_
  refine Owns.read_bind (validateReferenced_reads _ _ _ _) fun evidence => ?_
  refine Owns.bind (upsertRow_owns env rfl (fun db _ hdb id => ?_) (fun db row hconfined hdb hrow h => ?_)
    fun db row hplaced => ?_) fun cur => ?_
  · obtain ⟨⟨⟨-, hinvestigation⟩, -, hhypothesis⟩, -, hevidence⟩ := hdb
    have hsome {a b : Nat} {Q : Nat → Prop} (h : some a = some b) (ha : Q a) : Q b := by
      cases h
      exact ha
    refine ⟨fun n h => ?_, fun n h => hsome h hinvestigation, fun n h => hsome h hhypothesis,
      fun n h => hsome h hevidence, fun h => ?_, fun h => ?_, fun _ h => absurd rfl h, fun _ => ?_⟩
    · cases h
    · cases h
    · rcases h with h | h <;> cases h
    · exact ⟨Option.some_ne_none _, Option.some_ne_none _, Option.some_ne_none _⟩
  · obtain ⟨⟨-, -, hhypothesis⟩, -⟩ := hdb
    simp only [Bool.and_eq_true, decide_eq_true_eq] at h
    obtain ⟨target, htarget, hown, -⟩ := hhypothesis
    obtain ⟨target', htarget', hown', -⟩ := (hconfined _ _ row hrow).hypothesis _ h.1
    cases htarget.symm.trans htarget'
    exact hown'.symm.trans hown
  · exact @placed_assignAll _ _ _ [("relationship_type", relationshipType),
      ("rationale", optionalText env.py rationale maxTextLength), ("updated_at", .int env.now)]
      (by simp) (by simp) (fun h => by cases h) hplaced
  · refine Owns.bind (touchInvestigation_owns env cur _) fun cur => ?_
    exact Owns.of_reads (serializeFetched_reads cur _)

/-- An item that is there already is the owner's, as its workspace is. -/
theorem pinWorkspaceItem_owns (howner : ensureOwner env.py ownerUsername = .ok owner)
    (workspaceId : Int) (itemType referencedObjectId referencedObjectType label metadata : Json)
    {P : WorkspaceDb → Prop} :
    Owns owner P (pinWorkspaceItem env ownerUsername workspaceId itemType referencedObjectId
      referencedObjectType label metadata) fun _ _ => True := by
  refine Owns.ofExcept_bind fun owner' howner' => ?_
  cases howner.symm.trans howner'
  refine Owns.read_bind (getWorkspace_reads env workspaceId (.str owner)) fun workspace => ?_
  refine Owns.ofExcept_bind fun typeValue _ => ?_
  refine Owns.read_bind (Reads.raiseIf (F := fun _ _ => True) fun _ _ => trivial) fun _ => ?_
  refine Owns.ofExcept_bind fun refId _ => Owns.ofExcept_bind fun refType _ => ?_
  refine Owns.read_bind (validateReference_reads env typeValue _) fun _ => ?_
  refine Owns.bind (upsertRow_owns env rfl (fun db _ hdb id => ?_) (fun db row hconfined hdb hrow h => ?_)
    fun db row hplaced => ?_) fun cur => ?_
  · obtain ⟨⟨⟨-, hworkspace⟩, -⟩, -⟩ := hdb
    have hnone {n : Nat} {P : Prop} (h : (none : Option Nat) = some n) : P := by cases h
    refine ⟨fun n h => ?_, fun _ => hnone, fun _ => hnone, fun _ => hnone, fun h => ?_,
      fun _ => rfl, fun _ _ => ⟨rfl, rfl⟩, fun h => ?_⟩
    · cases h
      exact hworkspace owner (ensureOwner_idem howner)
    · cases h
    · cases h
  · obtain ⟨⟨⟨-, hworkspace⟩, -⟩, -⟩ := hdb
    simp only [Bool.and_eq_true, decide_eq_true_eq] at h
    obtain ⟨ws, hws, hown⟩ := hworkspace owner (ensureOwner_idem howner)
    obtain ⟨ws', hws', hown'⟩ := (hconfined _ _ row hrow).workspace _ h.1.1.1
    cases hws.symm.trans hws'
    exact hown'.symm.trans hown
  · exact @placed_assignAll _ _ _ [("label", (optionalText env.py label 240).orElse
      (.str s!"{refType} {refId}")), ("metadata", metadata.dictOrEmpty), ("status", .str "active"),
      ("updated_at", .int env.now)]
      (by simp) (by simp) (fun h => by cases h) hplaced
  · exact Owns.of_reads (serializeFetched_reads cur _)

end Creation

/-! ### Changes of what is there -/

section Changes

variable (env : Environment) (ownerUsername : Json)

theorem touchParent_owns (cur : Cursor) (existing : OwnedRow) {P : WorkspaceDb → Prop} :
    Owns owner P (touchParent env table cur owner existing) fun _ _ => True := by
  unfold touchParent
  split
  · exact Steps.pure fun _ _ => trivial
  · exact touchInvestigation_owns env cur _

theorem deleteOwnedRecord_owns (howner : ensureOwner env.py ownerUsername = .ok owner)
    (name : String) (recordId : Int) {P : WorkspaceDb → Prop} :
    Owns owner P (deleteOwnedRecord env name recordId ownerUsername) fun _ _ => True := by
  unfold deleteOwnedRecord
  split
  · exact Steps.raise _
  · next table _ =>
    refine Owns.ofExcept_bind fun owner' howner' => ?_
    cases howner.symm.trans howner'
    refine Owns.read_bind (ownRecord_reads recordId) fun existing => ?_
    refine Owns.bind (deleteRow_owns fun db hdb => ⟨existing, hdb.2⟩) fun cur => ?_
    refine Owns.bind (touchParent_owns env cur existing) fun cur => ?_
    exact Steps.pure fun _ _ => trivial

theorem placeItem_owns (workspaceId : Nat) (place : Nat × Int) {P : WorkspaceDb → Prop} :
    Owns owner P (placeItem env owner workspaceId place) fun _ _ => True := by
  refine Steps.change (fun db _ => ?_) fun _ _ => trivial
  refine .write .workspaceItems _ _ (fun id => rfl) fun id row _ => ?_
  dsimp only
  split
  · next hguard =>
    simp only [Bool.and_eq_true, decide_eq_true_eq] at hguard
    refine .inr ⟨hguard.1.1, assignAll_keys _ _, fun hplaced => ?_⟩
    exact placed_assignAll (by simp) (by simp) (fun h => by cases h) hplaced
  · exact .inl rfl

theorem listWorkspaceItems_reads (workspaceId : Int) (ownerUsername : Json) :
    Reads (listWorkspaceItems env workspaceId ownerUsername) fun _ _ => True := by
  refine Reads.bind (F := fun _ _ => True) (Reads.ofExcept fun _ _ _ => trivial) fun owner => ?_
  refine Reads.bind (getWorkspace_reads env workspaceId _) fun ws => ?_
  refine Reads.bind (F := fun _ _ => True) (Reads.read fun _ => trivial) fun rows => ?_
  exact Reads.pure fun _ _ _ _ => trivial

theorem reorderWorkspaceItems_owns (howner : ensureOwner env.py ownerUsername = .ok owner)
    (workspaceId : Int) (orderedItemIds : List Int) {P : WorkspaceDb → Prop} :
    Owns owner P (reorderWorkspaceItems env ownerUsername workspaceId orderedItemIds)
      fun _ _ => True := by
  refine Owns.ofExcept_bind fun owner' howner' => ?_
  cases howner.symm.trans howner'
  refine Owns.read_bind (getWorkspace_reads env workspaceId (.str owner)) fun workspace => ?_
  refine Owns.read_bind (Reads.raiseIf (F := fun _ _ => True) fun _ _ => trivial) fun _ => ?_
  refine Owns.read_bind (Reads.read (F := fun _ _ => True) fun _ => trivial) fun owned => ?_
  refine Owns.read_bind (Reads.raiseIf (F := fun _ _ => True) fun _ _ => trivial) fun _ => ?_
  refine Owns.bind (Q := fun _ _ => True) (Steps.imp (P := fun db => Confined db ∧ True)
    (Q := fun _ db => Confined db ∧ True) (Steps.forM fun place _ => ?_)
    (fun db hdb => ⟨hdb.1, trivial⟩) fun _ _ _ => trivial) fun _ => ?_
  · exact Steps.keep (fun _ _ h hconfined => h.confined hconfined) (fun _ h => h.1)
      (placeItem_owns env workspace.id (place.2, place.1))
  · exact Owns.of_reads (listWorkspaceItems_reads env workspaceId (.str owner))

/-! #### Updates -/

/-- A column of a table, with a value that its check has let through. -/
def CleanColumn (table : TableName) (column : String × Json) : Prop :=
  column.1 ∈ updateColumnsByTable table ∧
    ∃ value, cleanUpdateValue env table column.1 value = .ok column.2

theorem cleanUpdates_ok {updates cleaned columns : List (String × Json)}
    (h : cleanUpdates env table cleaned updates = .ok columns)
    (hnodup : (cleaned.map Prod.fst).Nodup) (hclean : ∀ column ∈ cleaned, CleanColumn env table column) :
    (columns.map Prod.fst).Nodup ∧ ∀ column ∈ columns, CleanColumn env table column := by
  induction updates generalizing cleaned with
  | nil =>
    cases h
    exact ⟨hnodup, hclean⟩
  | cons update updates ih =>
    obtain ⟨key, value⟩ := update
    rw [cleanUpdates] at h
    split at h
    · next hkey =>
      split at h
      · cases h
      · next written hwritten =>
        refine ih h (Json.nodup_setField hnodup) fun column hcolumn => ?_
        rcases Json.mem_setField hcolumn with rfl | hcolumn
        · exact ⟨by simpa using hkey, value, hwritten⟩
        · exact hclean column hcolumn
    · exact ih h hnodup hclean

theorem mem_of_lookup {columns : List (String × Json)} {name : String} {value : Json}
    (h : columns.lookup name = some value) : (name, value) ∈ columns := by
  obtain ⟨before, after, rfl, -⟩ := List.lookup_eq_some_iff.mp h
  simp

/-- A reference that is written is `NULL` or an id. -/
theorem cleanReference {key : String} {value written : Json}
    (hkey : key = "hypothesis_id" ∨ key = "evidence_reference_id")
    (h : cleanUpdateValue env table key value = .ok written) :
    written = .null ∨ ∃ n, written = .int n := by
  have hvalue : cleanUpdateValue env table key value =
      if !value.hashable then .error (.type "unhashable type")
      else if value.isNull || value.isOneOf [""] then .ok .null
      else intValue env value := by
    rcases hkey with rfl | rfl <;> rfl
  rw [hvalue] at h
  split at h
  · cases h
  · split at h
    · cases h
      exact .inl rfl
    · unfold intValue at h
      split at h
      · cases h
      · next n _ =>
        cases h
        exact .inr ⟨n, rfl⟩

/-- What a reference of a task is checked as is what is written. -/
theorem Refers.written {other : TableName} {investigationId stored : Option Nat}
    {columns : List (String × Json)} {name : String} {value : Json} {id : Nat}
    (h : Refers db other owner investigationId (updateOf columns name).int? stored)
    (hvalue : columns.lookup name = some value) (hclean : value = .null ∨ ∃ n, value = .int n)
    (hid : idOf value = some id) : OwnedWithin db other owner investigationId id := by
  refine h.2 id ?_
  rw [h.1, updateOf, hvalue]
  rcases hclean with rfl | ⟨n, rfl⟩
  · cases hid
  · exact hid

theorem checkTaskUpdate_reads (existing : OwnedRow) (columns : List (String × Json)) :
    Reads (checkTaskUpdate table owner existing columns) fun db r => table = .investigationTasks →
      Refers db .investigationHypotheses owner existing.investigationId
          (updateOf columns "hypothesis_id").int? r.1 ∧
        Refers db .evidenceReferences owner existing.investigationId
          (updateOf columns "evidence_reference_id").int? r.2 := by
  unfold checkTaskUpdate
  split
  · exact (validateOptionalChildRefs_reads _ _ _).imp fun db r h _ => h
  · next htable => exact Reads.pure fun db h => absurd h htable

/-- The columns that an update writes: what is sent, and what goes with it. -/
def written (table : TableName) (columns : List (String × Json)) (row : OwnedRow) :
    List (String × Json) :=
  columns ++ extraAssignments env table columns row ++ [("updated_at", .int env.now)]

/-- The columns that go with an update, which are not sent. -/
theorem extraAssignments_keys (columns : List (String × Json)) :
    let keys := (extraAssignments env table columns row ++
      [("updated_at", Json.int env.now)]).map Prod.fst
    keys.Nodup ∧ ∀ name ∈ keys, name ∈ ["closed_at", "last_activity_at", "updated_at"] := by
  unfold extraAssignments
  split
  · split <;> simp
  · simp

/-- No column that is sent is among those that go with it. -/
theorem written_nodup {columns : List (String × Json)} (hnodup : (columns.map Prod.fst).Nodup)
    (hclean : ∀ column ∈ columns, CleanColumn env table column) :
    ((written env table columns row).map Prod.fst).Nodup := by
  have hextra := @extraAssignments_keys table row env columns
  unfold written
  rw [List.append_assoc, List.map_append, List.nodup_append]
  refine ⟨hnodup, hextra.1, fun name hname other hother heq => ?_⟩
  obtain ⟨column, hcolumn, rfl⟩ := List.mem_map.mp hname
  have hmem := (hclean column hcolumn).1
  have hother := hextra.2 other hother
  rw [← heq] at hother
  have hsent (table : TableName) :
      ∀ name ∈ updateColumnsByTable table,
        name ∉ ["closed_at", "last_activity_at", "updated_at"] := by
    cases table <;> decide
  exact hsent table _ hmem hother

/-- What is sent is what is written. -/
theorem written_lookup {columns : List (String × Json)} {name : String}
    (h : name ∉ ["closed_at", "last_activity_at", "updated_at"]) :
    (written env table columns row).lookup name = columns.lookup name := by
  have hnone : (extraAssignments env table columns row ++
      [("updated_at", Json.int env.now)]).lookup name = none :=
    lookup_of_not_mem fun hname => h ((extraAssignments_keys env columns).2 name hname)
  unfold written
  rw [List.append_assoc, List.lookup_append, hnone, Option.or_none]

/-- A time of closing is written where a status is. -/
theorem written_closed {columns : List (String × Json)}
    (hclean : ∀ column ∈ columns, CleanColumn env .investigations column) :
    (written env .investigations columns row).lookup "closed_at" =
      (columns.lookup "status").map fun status =>
        if status.isOneOf ["closed"] then
          if (row.column "closed_at").isNull then .int env.now else row.column "closed_at"
        else .null := by
  have hnone : columns.lookup "closed_at" = none := by
    refine lookup_of_not_mem fun hname => ?_
    obtain ⟨column, hcolumn, hkey⟩ := List.mem_map.mp hname
    have hmem := (hclean column hcolumn).1
    rw [hkey] at hmem
    revert hmem
    decide
  unfold written extraAssignments
  rw [List.append_assoc, List.lookup_append, hnone, Option.none_or, if_pos rfl]
  cases columns.lookup "status" <;> rfl

/-- An investigation that is updated has a time of closing just where it is closed. -/
theorem written_agrees {columns : List (String × Json)} (hnodup : (columns.map Prod.fst).Nodup)
    (hclean : ∀ column ∈ columns, CleanColumn env .investigations column) (h : ClosedAgrees row) :
    ClosedAgrees (row.assignAll (written env .investigations columns row)) := by
  have hwritten := @written_nodup _ row env _ hnodup hclean
  unfold ClosedAgrees
  rw [column_assignAll (.inr rfl) hwritten, column_assignAll (.inl rfl) hwritten,
    written_closed env hclean, written_lookup env (by decide)]
  cases hstatus : columns.lookup "status" with
  | none => exact h
  | some status =>
    show (if status.isOneOf ["closed"] then
        if (row.column "closed_at").isNull then Json.int env.now else row.column "closed_at"
      else Json.null).isNull = false ↔ status = .str "closed"
    rw [← isOneOf_closed]
    cases status.isOneOf ["closed"] with
    | false => simp [Json.isNull]
    | true =>
      rw [if_pos rfl]
      split
      · simp [Json.isNull]
      · next hnull => simpa using hnull

/-- A reference is written only to a task. -/
theorem reference_column {key : String} {value : Json} {columns : List (String × Json)}
    (hkey : key = "hypothesis_id" ∨ key = "evidence_reference_id")
    (hclean : ∀ column ∈ columns, CleanColumn env table column)
    (h : columns.lookup key = some value) :
    table = .investigationTasks ∧ (value = .null ∨ ∃ n, value = .int n) := by
  obtain ⟨hcolumn, sent, hsent⟩ := hclean _ (mem_of_lookup h)
  refine ⟨?_, cleanReference env hkey hsent⟩
  have htables (table : TableName) : table ≠ .investigationTasks →
      "hypothesis_id" ∉ updateColumnsByTable table ∧
        "evidence_reference_id" ∉ updateColumnsByTable table := by
    cases table <;> decide
  by_contra htable
  rcases hkey with rfl | rfl
  · exact (htables table htable).1 hcolumn
  · exact (htables table htable).2 hcolumn

theorem serializeFound_reads (found : Option OwnedRow) :
    Reads (serializeFound env table found) fun _ _ => True := by
  cases found with
  | none => exact Reads.raise _
  | some row => exact Reads.pure fun _ => trivial

theorem updateOwnedRecord_owns (howner : ensureOwner env.py ownerUsername = .ok owner)
    (name : String) (recordId : Int) (updates : List (String × Json)) {P : WorkspaceDb → Prop} :
    Owns owner P (updateOwnedRecord env name recordId ownerUsername updates) fun _ _ => True := by
  unfold updateOwnedRecord
  split
  · exact Steps.raise _
  · next table _ =>
    refine Owns.ofExcept_bind fun owner' howner' => ?_
    cases howner.symm.trans howner'
    refine Owns.ofExcept_bind fun columns hcolumns => ?_
    obtain ⟨hnodup, hclean⟩ := cleanUpdates_ok env hcolumns List.nodup_nil
      fun _ h => absurd h List.not_mem_nil
    refine Owns.read_bind (Reads.raiseIf (F := fun _ _ => True) fun _ _ => trivial) fun _ => ?_
    refine Owns.read_bind (ownRecord_reads recordId) fun existing => ?_
    refine Owns.read_bind (checkTaskUpdate_reads existing columns) fun refs => ?_
    refine Owns.read_bind (Reads.raiseIf (F := fun _ _ => True) fun _ _ => trivial) fun _ => ?_
    refine Owns.bind (updateRow_owns env fun db row _ hdb hrow hown hplaced => ?_) fun cur => ?_
    · obtain ⟨⟨⟨-, hexisting, -⟩, hrefs⟩, -⟩ := hdb
      cases hexisting.symm.trans hrow
      have hplaced : Placed db table (existing.assignAll (written env table columns existing)) := by
        refine placed_columns (written_nodup env hnodup hclean) hplaced (fun value hvalue => ?_)
          (fun value hvalue => ?_) fun htable => ?_
        · rw [written_lookup env (by decide)] at hvalue
          obtain ⟨htable, hform⟩ := reference_column env (.inl rfl) hclean hvalue
          rw [hown]
          exact ⟨htable, fun id hid => (hrefs htable).1.written hvalue hform hid⟩
        · rw [written_lookup env (by decide)] at hvalue
          obtain ⟨htable, hform⟩ := reference_column env (.inr rfl) hclean hvalue
          rw [hown]
          exact ⟨htable, fun id hid => (hrefs htable).2.written hvalue hform hid⟩
        · subst htable
          exact written_agrees env hnodup hclean (hplaced.closed rfl)
      unfold written at hplaced
      rw [assignAll_append] at hplaced
      exact hplaced
    · refine Owns.read_bind (fetchone_reads cur) fun found => ?_
      refine Owns.bind (touchParent_owns env cur existing) fun _ => ?_
      exact Owns.of_reads (serializeFound_reads env found)

end Changes

/-! ## Runs -/

/-- The operations of the store that write. -/
inductive WorkspaceOp where
  | defaultWorkspace
  | investigation (workspaceId : Option Int) (title status summary linkedAlertId linkedIncidentId
      linkedSourceIp savedState disposition confidence conclusion : Json)
  | note (workspaceId investigationId : Option Int) (body : Json)
  | hypothesis (workspaceId investigationId : Option Int) (title body status confidence : Json)
  | task (workspaceId investigationId : Option Int) (title status : Json)
      (hypothesisId evidenceReferenceId : Option Int)
  | evidence (workspaceId investigationId : Option Int) (referencedObjectType referencedObjectId
      label source metadata rationale relationshipType : Json)
  | link (investigationId hypothesisId evidenceReferenceId : Int) (relationshipType rationale : Json)
  | pin (workspaceId : Int) (itemType referencedObjectId referencedObjectType label metadata : Json)
  | update (table : String) (recordId : Int) (updates : List (String × Json))
  | reorder (workspaceId : Int) (orderedItemIds : List Int)
  | delete (table : String) (recordId : Int)

/-- A program whose result is dropped. -/
def dropResult {α : Type} (p : Store α) : Store Unit := p >>= fun _ => pure ()

/-- The operation as the store runs it for an owner. -/
def WorkspaceOp.run (env : Environment) (ownerUsername : Json) : WorkspaceOp → Store Unit
  | .defaultWorkspace => dropResult (getOrCreateDefaultWorkspace env ownerUsername)
  | .investigation workspaceId title status summary linkedAlertId linkedIncidentId linkedSourceIp
      savedState disposition confidence conclusion =>
    dropResult (createInvestigation env ownerUsername workspaceId title status summary linkedAlertId
      linkedIncidentId linkedSourceIp savedState disposition confidence conclusion)
  | .note workspaceId investigationId body =>
    dropResult (createNote env ownerUsername workspaceId investigationId body)
  | .hypothesis workspaceId investigationId title body status confidence =>
    dropResult (createHypothesis env ownerUsername workspaceId investigationId title body status
      confidence)
  | .task workspaceId investigationId title status hypothesisId evidenceReferenceId =>
    dropResult (createTask env ownerUsername workspaceId investigationId title status hypothesisId
      evidenceReferenceId)
  | .evidence workspaceId investigationId referencedObjectType referencedObjectId label source
      metadata rationale relationshipType =>
    dropResult (createEvidence env ownerUsername workspaceId investigationId referencedObjectType
      referencedObjectId label source metadata rationale relationshipType)
  | .link investigationId hypothesisId evidenceReferenceId relationshipType rationale =>
    dropResult (linkHypothesisEvidence env ownerUsername investigationId hypothesisId
      evidenceReferenceId relationshipType rationale)
  | .pin workspaceId itemType referencedObjectId referencedObjectType label metadata =>
    dropResult (pinWorkspaceItem env ownerUsername workspaceId itemType referencedObjectId
      referencedObjectType label metadata)
  | .update table recordId updates =>
    dropResult (updateOwnedRecord env table recordId ownerUsername updates)
  | .reorder workspaceId orderedItemIds =>
    dropResult (reorderWorkspaceItems env ownerUsername workspaceId orderedItemIds)
  | .delete table recordId => dropResult (deleteOwnedRecord env table recordId ownerUsername)

/-- A call: who makes it, where and when, and whether what it has written before it raised is kept. -/
structure WorkspaceCall where
  env : Environment
  ownerUsername : Json
  op : WorkspaceOp
  keepFailed : Bool

/-- The owner that a call is made for. -/
def WorkspaceCall.actor (call : WorkspaceCall) : String :=
  strip (call.env.py.str (call.ownerUsername.orElse (.str "")))

/-- The tables after a call. -/
def WorkspaceCall.step (call : WorkspaceCall) (db : WorkspaceDb) : WorkspaceDb :=
  let run := call.op.run call.env call.ownerUsername db
  if run.1.isOk || call.keepFailed then run.2 else db

/-- The tables after calls. -/
def afterCalls (calls : List WorkspaceCall) : WorkspaceDb :=
  calls.foldl (fun db call => call.step db) .empty

theorem ensureOwner_eq {py : Python} {ownerUsername : Json}
    (h : ensureOwner py ownerUsername = .ok owner) :
    owner = strip (py.str (ownerUsername.orElse (.str ""))) := by
  unfold ensureOwner cleanText at h
  dsimp only at h
  split at h
  · cases h
  · split at h
    · cases h
    · exact (Except.ok.inj h).symm

theorem dropResult_owns {α : Type} {p : Store α} {P : WorkspaceDb → Prop}
    (h : Owns owner P p fun _ _ => True) : Owns owner P (dropResult p) fun _ _ => True :=
  Owns.bind h fun _ => Steps.pure fun _ _ => trivial

/-- Every operation goes by changes of its owner. -/
theorem run_owns {env : Environment} {ownerUsername : Json}
    (howner : ensureOwner env.py ownerUsername = .ok owner) (op : WorkspaceOp) :
    Owns owner (fun _ => True) (op.run env ownerUsername) fun _ _ => True := by
  cases op with
  | defaultWorkspace => exact dropResult_owns (getOrCreateDefaultWorkspace_owns env howner)
  | investigation =>
    exact dropResult_owns (createInvestigation_owns env _ _ howner _ _ _ _ _ _ _ _ _ _)
  | note => exact dropResult_owns (createNote_owns env _ _ _ howner _)
  | hypothesis => exact dropResult_owns (createHypothesis_owns env _ _ _ howner _ _ _ _)
  | task => exact dropResult_owns (createTask_owns env _ _ _ howner _ _ _ _)
  | evidence => exact dropResult_owns (createEvidence_owns env _ _ _ howner _ _ _ _ _ _ _)
  | link => exact dropResult_owns (linkHypothesisEvidence_owns env _ howner _ _ _ _ _)
  | pin => exact dropResult_owns (pinWorkspaceItem_owns env _ howner _ _ _ _ _ _)
  | update => exact dropResult_owns (updateOwnedRecord_owns env _ howner _ _ _)
  | reorder => exact dropResult_owns (reorderWorkspaceItems_owns env _ howner _ _)
  | delete => exact dropResult_owns (deleteOwnedRecord_owns env _ howner _ _)

/-- A call that names no owner writes nothing. -/
theorem run_denied {env : Environment} {ownerUsername : Json} {e : WorkspaceError}
    (h : ensureOwner env.py ownerUsername = .error e) (op : WorkspaceOp) (db : WorkspaceDb) :
    (op.run env ownerUsername db).2 = db := by
  have hdenied {α : Type} (k : String → Store α) :
      (dropResult (ofExcept (ensureOwner env.py ownerUsername) >>= k) db).2 = db := by
    rw [h]
    rfl
  cases op with
  | update table recordId updates =>
    unfold WorkspaceOp.run updateOwnedRecord
    dsimp only
    split
    · rfl
    · exact hdenied _
  | delete table recordId =>
    unfold WorkspaceOp.run deleteOwnedRecord
    dsimp only
    split
    · rfl
    · exact hdenied _
  | defaultWorkspace =>
    unfold WorkspaceOp.run getOrCreateDefaultWorkspace
    exact hdenied _
  | investigation =>
    unfold WorkspaceOp.run createInvestigation
    exact hdenied _
  | note =>
    unfold WorkspaceOp.run createNote
    exact hdenied _
  | hypothesis =>
    unfold WorkspaceOp.run createHypothesis
    exact hdenied _
  | task =>
    unfold WorkspaceOp.run createTask
    exact hdenied _
  | evidence =>
    unfold WorkspaceOp.run createEvidence
    exact hdenied _
  | link =>
    unfold WorkspaceOp.run linkHypothesisEvidence
    exact hdenied _
  | pin =>
    unfold WorkspaceOp.run pinWorkspaceItem
    exact hdenied _
  | reorder =>
    unfold WorkspaceOp.run reorderWorkspaceItems
    exact hdenied _

theorem step_confined (call : WorkspaceCall) (h : Confined db) :
    Confined (call.step db) ∧ Untouched call.actor db (call.step db) := by
  have hsame : Confined db ∧ Untouched call.actor db db :=
    ⟨h, fun _ _ _ => Iff.rfl, fun _ _ _ _ => Iff.rfl⟩
  unfold WorkspaceCall.step
  dsimp only
  split
  · cases howner : ensureOwner call.env.py call.ownerUsername with
    | error e =>
      rw [run_denied howner]
      exact hsame
    | ok owner =>
      have hsteps := (run_owns howner call.op db ⟨h, trivial⟩).1
      have hactor : owner = call.actor := ensureOwner_eq howner
      rw [← hactor]
      exact changes_confined hsteps h
  · exact hsame

/-- Workspace ownership is confined: after any calls of any owners, every row points to rows of its own
    owner, and a record of an investigation to records of the same investigation; and no call changes
    the rows of another owner. -/
theorem ownership_confined (calls : List WorkspaceCall) :
    Confined (afterCalls calls) ∧
      ∀ call : WorkspaceCall,
        Untouched call.actor (afterCalls calls) (call.step (afterCalls calls)) := by
  have hconfined : Confined (afterCalls calls) := by
    induction calls using List.reverseRecOn with
    | nil =>
      intro table id row hrow
      cases hrow
    | append_singleton calls call ih =>
      unfold afterCalls at ih ⊢
      rw [List.foldl_append]
      exact (step_confined call ih).1
  exact ⟨hconfined, fun call => (step_confined call hconfined).2⟩

end SiemDashboard.InvestigationWorkspace
