import SiemDashboard.Engines.PassRefinement

/-!
# Passes and the stored executions

The execution a pass has read stays the stored one as far as its playbook goes, and the steps it
runs are that playbook's.  This holds in every run.

* **Attached phases** — `Stored`, `stepsOf`, `Attached`.
* **Runs** — `attachment`.
-/

namespace SiemDashboard.StepExecutor

open Atomic Python PlaybookStore

variable {py : Python}

/-! ## Attached phases -/

/-- The execution is stored, for the same playbook. -/
def Stored (db : Db) (row : Execution) : Prop :=
  ∃ stored, db.execution? row.id = some stored ∧ stored.playbookId = row.playbookId

/-- The steps of a playbook; none where there is no such playbook. -/
def stepsOf (db : Db) (playbookId : String) : List Json :=
  ((db.definition? playbookId).map (·.steps)).getD []

/-- The execution of a phase is stored, and its steps are its playbook's. -/
def Attached (db : Db) : Phase → Prop
  | .viewed row | .undefined row _ | .concluded _ row _ | .due row _ => Stored db row
  | .gated row _ _ steps => Stored db row ∧ ∀ known ∈ steps, known = stepsOf db row.playbookId
  | .held row playbookId .. => Stored db row ∧ playbookId = row.playbookId
  | .working row steps .. => Stored db row ∧ steps = stepsOf db row.playbookId
  | .missed _ id .. | .unowned _ id .. => ∃ stored, db.execution? id = some stored
  | .free => True

section

variable {w : World} {q : Stmt} {db : Db} {row : Execution}

theorem Stored.of_row (h : db.execution? row.id = some row) : Stored db row := ⟨row, h, rfl⟩

/-- The stored execution's playbook is the one it was read with. -/
theorem Stored.playbookId (h : Stored db row) {stored : Execution}
    (hstored : db.execution? row.id = some stored) : row.playbookId = stored.playbookId := by
  obtain ⟨stored', hstored', hplaybook⟩ := h
  cases hstored.symm.trans hstored'
  exact hplaybook.symm

@[simp] theorem stepsOf_exec (playbookId : String) :
    stepsOf (exec w q db).2 playbookId = stepsOf db playbookId := by
  rw [stepsOf, (exec_frame w q db).definition?, stepsOf]

/-- Executions stay, for the same playbook. -/
theorem Stored.exec (h : Stored db row) : Stored (exec w q db).2 row := by
  obtain ⟨stored, hstored, hplaybook⟩ := h
  obtain ⟨stored', hstored', rfl | hstep⟩ := exec_keeps (w := w) (q := q) hstored
  · exact ⟨_, hstored', hplaybook⟩
  · exact ⟨_, hstored', hstep.sameLineage.playbookId.trans hplaybook⟩

/-- The execution of a terminal write is stored, and so is the playbook it was read with. -/
theorem Attached.ends {g : Phase} {final : FinalStatus} {id : Nat} {log : List LogEntry}
    {lastStep : Option Int} (h : Attached db g) (hends : Ends g final id log lastStep) :
    ∃ row, row.id = id ∧ Stored db row := by
  cases hends with
  | succeeded | failed | noRequest | closed => exact ⟨_, rfl, h.1⟩
  | undefinedPlaybook | undefinedResume | noGate => exact ⟨_, rfl, h⟩

theorem Attached.exec {g : Phase} (h : Attached db g) : Attached (exec w q db).2 g := by
  cases g with
  | free => trivial
  | missed | unowned =>
    obtain ⟨stored, hstored⟩ := h
    obtain ⟨stored', hstored', -⟩ := exec_keeps (w := w) (q := q) hstored
    exact ⟨stored', hstored'⟩
  | viewed | undefined | concluded | due => exact Stored.exec h
  | gated | held | working => simpa [Attached] using ⟨Stored.exec h.1, h.2⟩

/-- A row that an update answers with is stored. -/
theorem stored_changed (q : Stmt) (h : changedRow q (SiemDashboard.exec w q db).1 = some row) :
    Stored (SiemDashboard.exec w q db).2 row := by
  obtain ⟨-, -, -, hafter⟩ := exec_changedRow q h
  exact .of_row hafter

theorem Attached.silent {a : Actor} {g g' : Phase} (h : Attached db g)
    (hsilent : (protocol py a).silent g g') : Attached db g' := by
  cases hsilent with
  | ended | unrecorded => trivial
  | succeededBefore | skippedBefore | stepFailed => exact h
  | @unlinked final => cases final <;> first | exact h | trivial

/-- A statement leaves its own actor attached. -/
theorem Attached.move {a : Actor} {g g' : Phase} (h : Attached db g)
    (hmove : Move py a g q (SiemDashboard.exec w q db).1 g') :
    Attached (SiemDashboard.exec w q db).2 g' := by
  cases hmove with
  | neutral | beat | release | begin => exact h.exec
  | refused | operator | requeued | unresumed | unsaved | pause | unconcluded | capture => trivial
  | miss hends =>
    obtain ⟨row, rfl, hstored⟩ := h.ends hends
    obtain ⟨stored, hstored, -⟩ := hstored.exec
    exact ⟨stored, hstored⟩
  | recheck => exact h
  | exhausted hr => exact stored_changed (.markStale ..) hr
  | view hr => exact .of_row (exec_getExecution hr).2
  | rejoin hr => exact ⟨.of_row (exec_getExecution hr).2, rfl⟩
  | lease hr => exact ⟨stored_changed (.acquireLease ..) hr, rfl⟩
  | claim hr => exact ⟨stored_changed (.claimNext ..) hr, rfl⟩
  | ask => exact ⟨Stored.exec h, nofun⟩
  | consult =>
    refine ⟨Stored.exec h.1, ?_⟩
    rintro _ ⟨⟩
    rfl
  | @resume _ row _ _ known _ _ _ _ row' hr =>
    obtain ⟨row₀, hrow₀, hstep, hafter⟩ := exec_changedRow (.acquireResumeLease ..) hr
    have hid : row'.id = row.id := by
      cases hstep with
      | resumed hid _ _ _ hrow' =>
        rw [hrow']
        exact hid
    have hplaybook : row.playbookId = row'.playbookId := by
      obtain ⟨stored, hstored, hplaybook⟩ := h.1
      rw [← hid, hrow₀] at hstored
      cases hstored
      rw [← hplaybook, hstep.sameLineage.playbookId]
    cases known with
    | none => exact ⟨.of_row hafter, hplaybook⟩
    | some steps =>
      refine ⟨.of_row hafter, ?_⟩
      rw [stepsOf_exec, ← hplaybook]
      exact h.2 steps rfl
  | @define _ row playbookId _ _ _ _ definition _ hr =>
    refine ⟨Stored.exec h.1, ?_⟩
    rw [stepsOf_exec, ← h.2, stepsOf, show db.definition? playbookId = some definition from hr]
    rfl
  | noDefinition => exact Stored.exec h.1
  | save => exact ⟨Stored.exec h.1, by rw [stepsOf_exec]; exact h.2⟩
  | conclude _ hr => exact stored_changed (.setFinal ..) hr
  | concludeUnowned hr => exact stored_changed (.setFinal ..) hr
  | @tell _ final => cases final <;> first | exact Stored.exec h | trivial

end

/-! ## Runs -/

variable (py) in
/-- Every phase stays attached. -/
def attachment (ok : Pool → Event → Prop) : Discipline (refinement py) ok where
  Global _ := True
  Local db _ g := Attached db g
  between _ _ _ := trivial
  slide _ _ _ _ _ h hsilent := h.silent hsilent
  step _ _ a _ _ _ hat _ _ hall :=
    ⟨trivial, (hall a).move hat.step, fun b _ => (hall b).exec⟩

end SiemDashboard.StepExecutor
