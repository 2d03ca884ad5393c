import SiemDashboard.Engines.AcceptedSteps
import SiemDashboard.Engines.PassAttachment

/-!
# Agreement of the validator and the executor

What validation accepts should be executable: no step of an accepted list should fail for a reason
that blames the list itself.  Validation resolves aliases and strips action names, and takes an
explicit `goto_false: null` for no target; the executor does neither.

* **The invariant** — `Faultless`, `Clear`.
* **Runs** — `agreementDiscipline`, `structurally_executable`.
* **Accepted lists that fail** — `accepted_not_executable`.
-/

namespace SiemDashboard.ValidatorAgreement

open Atomic Python PlaybookRegistry PlaybookStore StepExecutor

variable {py : Python} {playbookId : String}

/-! ## The invariant -/

/-- No entry of the log carries a code that blames the step list. -/
def Faultless (log : List LogEntry) : Prop :=
  ∀ entry ∈ log, ∀ error, entry.error = some error → error.code.isStructural = false

section

variable {log : List LogEntry}

theorem faultless_nil : Faultless [] := List.forall_mem_nil _

theorem Faultless.append {added : List LogEntry} (h : Faultless log) (hadded : Faultless added) :
    Faultless (log ++ added) :=
  List.forall_mem_append.mpr ⟨h, hadded⟩

theorem Faultless.cons {entry : LogEntry}
    (hentry : ∀ error, entry.error = some error → error.code.isStructural = false)
    (h : Faultless log) : Faultless (entry :: log) :=
  List.forall_mem_cons.mpr ⟨hentry, h⟩

/-- Entries without an error. -/
theorem faultless_of_none (h : ∀ entry ∈ log, entry.error = none) : Faultless log := by
  intro entry hentry error herror
  rw [h entry hentry] at herror
  cases herror

theorem faultless_skippedBranch (steps : List Json) (start stop : Nat) (now : Int) :
    Faultless (skippedBranchStepEntries steps start stop now) := by
  refine faultless_of_none fun entry hentry => ?_
  obtain ⟨index, -, rfl⟩ := List.mem_map.mp hentry
  rfl

theorem faultless_skippedLater (steps : List Json) (start : Nat) (reason : String) (now : Int) :
    Faultless (skippedLaterStepEntries steps start reason now) := by
  refine faultless_of_none fun entry hentry => ?_
  obtain ⟨index, -, rfl⟩ := List.mem_map.mp hentry
  rfl

theorem faultless_notes {gate : Nat} (h : ∀ note ∈ log, GateNote gate note) : Faultless log :=
  faultless_of_none fun note hnote => (h note hnote).error_eq

/-- The entry of a step that has no structural fault. -/
theorem faultless_entry {steps : List Json} {index : Nat} {step : Json} {entry : LogEntry}
    (hsound : Sound steps) (hstep : steps[index]? = some step)
    (hentry : StepEntry steps index step entry) :
    ∀ error, entry.error = some error → error.code.isStructural = false := by
  intro error herror
  cases hcode : error.code.isStructural with
  | false => rfl
  | true => exact absurd (hentry.code_fault error herror hcode) (hsound index step _ hstep)

end

/-- The logs of the playbook's executions that a phase has in hand are faultless. -/
def Clear (playbookId : String) (db : Db) : Phase → Prop
  | .viewed row | .gated row .. => row.playbookId = playbookId → Faultless row.stepsLog
  | .held row _ _ log _ | .undefined row log => row.playbookId = playbookId → Faultless log
  | .working row _ _ _ st => row.playbookId = playbookId → Faultless st.stepsLog
  | .missed _ id log _ | .unowned _ id log _ => ∀ row, db.execution? id = some row →
      row.playbookId = playbookId → Faultless log
  | .free | .concluded .. | .due .. => True

/-- The playbook's steps are sound, and the stored logs of its executions are faultless. -/
structure Executable (playbookId : String) (db : Db) : Prop where
  sound : Sound (stepsOf db playbookId)
  logs : ∀ e row, db.execution? e = some row → row.playbookId = playbookId →
    Faultless row.stepsLog

/-- The log a statement carries, if it is one of the playbook's executions, is faultless. -/
def CarriesFaultless (playbookId : String) (db : Db) (q : Stmt) : Prop :=
  ∀ e log, carried q = some (e, log) → ∀ row, db.execution? e = some row →
    row.playbookId = playbookId → Faultless log

section Step

variable {w : World} {q : Stmt} {db : Db} {a : Actor} {g g' : Phase}

theorem ends_faultless {final : FinalStatus} {id : Nat} {log : List LogEntry}
    {lastStep : Option Int} (hattached : Attached db g) (hclear : Clear playbookId db g)
    (hends : Ends g final id log lastStep) {row : Execution} (hrow : db.execution? id = some row)
    (hplaybook : row.playbookId = playbookId) : Faultless log := by
  have hnote {entry : LogEntry} (h : FailureNote entry) : Faultless [entry] :=
    .cons h.not_structural faultless_nil
  cases hends with
  | succeeded | failed => exact hclear ((hattached.1.playbookId hrow).trans hplaybook)
  | undefinedPlaybook h => exact hnote h
  | undefinedResume h =>
    exact (hclear ((hattached.playbookId hrow).trans hplaybook)).append (hnote h)
  | noGate _ h => exact (hclear ((hattached.playbookId hrow).trans hplaybook)).append (hnote h)
  | noRequest h => exact (hclear ((hattached.1.playbookId hrow).trans hplaybook)).append (hnote h)
  | closed _ hnotes =>
    exact ((hclear ((hattached.1.playbookId hrow).trans hplaybook)).append
      (faultless_notes hnotes)).append (faultless_skippedLater _ _ _ _)

/-- What a pass writes or starts a step with is faultless. -/
theorem carriesFaultless (hmove : Move py a g q (exec w q db).1 g') (hattached : Attached db g)
    (hdb : Executable playbookId db) (hclear : Clear playbookId db g) :
    CarriesFaultless playbookId db q := by
  intro e log hcarried row hrow hplaybook
  cases hmove with
  | neutral h => cases h <;> cases hcarried
  | operator h => cases h <;> cases hcarried
  | refused h => cases h <;> cases hcarried
  | resume _ hresumes | unresumed _ hresumes =>
    cases hcarried
    cases hresumes with
    | notes _ hnotes =>
      exact (hclear ((hattached.1.playbookId hrow).trans hplaybook)).append (faultless_notes hnotes)
  | begin =>
    cases hcarried
    exact hclear ((hattached.1.playbookId hrow).trans hplaybook)
  | save _ hsaves | unsaved _ hsaves =>
    cases hcarried
    have hsame := (hattached.1.playbookId hrow).trans hplaybook
    cases hsaves with
    | step hat hentry =>
      have hsteps := hattached.2
      rw [hsame] at hsteps
      subst hsteps
      exact (hclear hsame).append
        (.cons (faultless_entry hdb.sound hat.step_eq hentry) (faultless_skippedBranch _ _ _ _))
  | pause hpauses =>
    cases hcarried
    cases hpauses with
    | gate =>
      exact (hclear ((hattached.1.playbookId hrow).trans hplaybook)).append
        (.cons (fun _ h => by cases h) faultless_nil)
  | conclude hends | miss hends =>
    cases hcarried
    exact ends_faultless hattached hclear hends hrow hplaybook
  | concludeUnowned | unconcluded =>
    cases hcarried
    exact hclear row hrow hplaybook
  | _ => cases hcarried

/-- The stored logs stay faultless. -/
theorem Executable.exec (hdb : Executable playbookId db)
    (hcarries : CarriesFaultless playbookId db q) :
    Executable playbookId (SiemDashboard.exec w q db).2 := by
  refine ⟨by rw [stepsOf_exec]; exact hdb.sound, fun e row' hrow' hplaybook => ?_⟩
  obtain hsame | ⟨row, hrow, hstep⟩ | ⟨-, -, new, -, rfl, -⟩ := exec_row hrow'
  · exact hdb.logs e row' hsame hplaybook
  · rw [hstep.sameLineage.playbookId] at hplaybook
    obtain ⟨hlog, -⟩ | ⟨hwritten, -⟩ := hstep.progress
    · rw [hlog]
      exact hdb.logs e row hrow hplaybook
    · rw [← db.executions.keyed e row hrow] at hrow
      exact hcarries _ _ (carried_of_written hwritten) row hrow hplaybook
  · exact faultless_nil

theorem Clear.exec (hattached : Attached db g) (hclear : Clear playbookId db g) :
    Clear playbookId (SiemDashboard.exec w q db).2 g := by
  cases g with
  | missed | unowned =>
    intro row' hrow' hplaybook
    obtain ⟨row, hrow⟩ := hattached
    obtain ⟨row'', hrow'', rfl | hstep⟩ := exec_keeps (w := w) (q := q) hrow
    · cases hrow'.symm.trans hrow''
      exact hclear _ hrow hplaybook
    · cases hrow'.symm.trans hrow''
      exact hclear row hrow (hstep.sameLineage.playbookId ▸ hplaybook)
  | _ => exact hclear

/-- A statement leaves its own actor's logs faultless. -/
theorem Clear.move (hmove : Move py a g q (SiemDashboard.exec w q db).1 g')
    (hattached : Attached db g) (hdb : Executable playbookId db)
    (hclear : Clear playbookId db g) : Clear playbookId (SiemDashboard.exec w q db).2 g' := by
  have hcarries := carriesFaultless hmove hattached hdb hclear
  have hafter := hdb.exec (w := w) hcarries
  have hgiven {row : Execution} (h : (SiemDashboard.exec w q db).2.execution? row.id = some row)
      (hplaybook : row.playbookId = playbookId) : Faultless row.stepsLog :=
    hafter.logs row.id row h hplaybook
  have hchanged (q' : Stmt) {row : Execution}
      (h : changedRow q' (SiemDashboard.exec w q' db).1 = some row) :
      (SiemDashboard.exec w q' db).2.execution? row.id = some row := by
    obtain ⟨-, -, -, h⟩ := exec_changedRow q' h
    exact h
  cases hmove with
  | neutral | beat | release | begin => exact hclear.exec hattached
  | view hr | rejoin hr => exact hgiven (exec_getExecution hr).2
  | lease hr => exact hgiven (hchanged (.acquireLease ..) hr)
  | claim hr => exact hgiven (hchanged (.claimNext ..) hr)
  | ask | consult | noDefinition | define => exact hclear
  | @resume _ _ _ _ known log _ _ _ row' hr =>
    obtain ⟨row, -, hstep, h⟩ := exec_changedRow (.acquireResumeLease ..) hr
    have hlog : row'.stepsLog = log := by
      cases hstep with
      | resumed _ _ _ _ hrow' => rw [hrow']; rfl
    subst hlog
    cases known <;> exact hgiven h
  | save hr hsaves =>
    intro hplaybook
    obtain ⟨stored, hstored, hsame⟩ := hattached.1
    exact hcarries _ _ rfl stored hstored (hsame.trans hplaybook)
  | miss hends =>
    intro row' hrow' hplaybook
    obtain ⟨row, rfl, stored, hstored, -⟩ := hattached.ends hends
    obtain ⟨stored', hstored', rfl | hstep⟩ := exec_keeps (w := w) (q := .setFinal ..) hstored
    · cases hrow'.symm.trans hstored'
      exact ends_faultless hattached hclear hends hstored hplaybook
    · cases hrow'.symm.trans hstored'
      exact ends_faultless hattached hclear hends hstored
        (hstep.sameLineage.playbookId ▸ hplaybook)
  | recheck => exact hclear
  | @tell _ final => cases final <;> trivial
  | _ => trivial

theorem Clear.silent (hattached : Attached db g) (hdb : Executable playbookId db)
    (hclear : Clear playbookId db g) (hsilent : (protocol py a).silent g g') :
    Clear playbookId db g' := by
  cases hsilent with
  | ended | unrecorded => trivial
  | succeededBefore | skippedBefore => exact hclear
  | stepFailed hat _ hentry =>
    intro hplaybook
    have hsteps := hattached.2
    rw [hplaybook] at hsteps
    subst hsteps
    exact (hclear hplaybook).append
      (.cons (faultless_entry hdb.sound hat.step_eq hentry) faultless_nil)
  | @unlinked final => cases final <;> trivial

end Step

/-! ## Runs -/

/-- Any run. -/
abbrev ok : Pool → Event → Prop := fun _ _ => True

variable (py playbookId) in
/-- The logs of a sound playbook's executions stay faultless, stored and in hand. -/
def agreementDiscipline : Discipline (refinement py) ok :=
  (attachment py ok).extend
    { Global := Executable playbookId
      Local := fun db _ g => Clear playbookId db g
      between := fun _ _ _ => trivial
      slide := fun _ _ _ _ hattached hdb hclear hsilent => hclear.silent hattached hdb hsilent
      step := fun _ _ a _ _ _ hat _ _ hattached hdb hclear =>
        ⟨hdb.exec (carriesFaultless hat.step (hattached a) hdb (hclear a)),
          (hclear a).move hat.step (hattached a) hdb, fun b _ => (hclear b).exec (hattached b)⟩ }

/-- **Accepted and canonical lists are executable.**  In every run, the executions of a playbook
    whose steps validation accepts, with every action written canonically and no explicit
    `goto_false: null`, have only logs without structural codes: the stored ones, the ones that are
    written, and the ones in hand when a step starts. -/
theorem structurally_executable {db : Db} {events : List Event} {definition : PlaybookDefinition}
    {playbookKey : Option String} (hdefinition : db.definition? playbookId = some definition)
    (hvalid : validatePlaybookSteps py (.arr definition.steps) playbookKey = .ok [])
    (hcanonical : Canonical py definition.steps)
    (hlogs : ∀ e row, db.execution? e = some row → row.playbookId = playbookId →
      Faultless row.stepsLog) :
    (system py).EachStep (fun pool _ w q => CarriesFaultless playbookId pool.shared q ∧
      ∀ e row, (exec w q pool.shared).2.execution? e = some row → row.playbookId = playbookId →
        Faultless row.stepsLog) (.idle db) events := by
  have hsteps : stepsOf db playbookId = definition.steps := by
    rw [stepsOf, hdefinition]
    rfl
  have hdb : Executable playbookId db :=
    ⟨hsteps ▸ (sound_iff_canonical hvalid).mpr hcanonical, hlogs⟩
  refine (agreementDiscipline py playbookId).eachStep ?_ ⟨trivial, hdb⟩
    (System.along_of_forall fun _ _ => trivial)
  intro pool phase a w q g' hat _ hglobal hall
  have hcarries := carriesFaultless hat.step (hall a).1 hglobal.2 (hall a).2
  exact ⟨hcarries, (hglobal.2.exec hcarries).logs⟩

/-- A playbook with one step of the given action. -/
def oneStep (action : String) : List Json := [.obj [("action", .str action)]]

/-- A monitoring step runs. -/
theorem structurally_executable_monitor :
    (system mutePython).EachStep (fun pool _ w q => CarriesFaultless "p" pool.shared q ∧
      ∀ e row, (exec w q pool.shared).2.execution? e = some row → row.playbookId = "p" →
        Faultless row.stepsLog) (.idle (.ofPlaybook "p" (oneStep "monitor"))) (firstPass 12) := by
  have hvalid : validatePlaybookSteps mutePython (.arr (oneStep "monitor")) none = .ok [] := by
    decide +kernel
  refine structurally_executable rfl hvalid ?_ ?_
  · intro step hstep
    cases List.mem_singleton.mp hstep
    refine ⟨?_, nofun⟩
    rintro _ ⟨⟩
    exact resolve_known (by decide)
  · intro e row hrow
    cases hrow

/-! ## Accepted lists that fail -/

/-- A branch with an explicit null for the label of its other way. -/
def nullBranch : List Json :=
  [ .obj [("action", .str "monitor")],
    .obj [ ("action", .str "branch"),
      ("condition", .obj [ ("source", .str "previous_step"), ("field", .str "status"),
        ("op", .str "=="), ("value", .str "failed") ]),
      ("goto_true", .str "end"), ("goto_false", .null) ],
    .obj [("action", .str "monitor"), ("label", .str "end")] ]

/-- The codes in the first execution's log after a run. -/
def codesAfter (steps : List Json) (events : List Event) : List StepErrorCode :=
  match ((system mutePython).run (.idle (.ofPlaybook "p" steps)) events).shared.execution? 1 with
  | some row => row.stepsLog.filterMap fun entry => entry.error.map (·.code)
  | none => []

/-- An alias, a padded name and an explicit null are accepted, and the executor fails them for the
    step list's fault. -/
theorem accepted_not_executable :
    (validatePlaybookSteps mutePython (.arr (oneStep "escalate")) (some "p") = .ok [] ∧
      codesAfter (oneStep "escalate") (firstPass 8) = [.unsupportedAction]) ∧
    (validatePlaybookSteps mutePython (.arr (oneStep " monitor ")) (some "p") = .ok [] ∧
      codesAfter (oneStep " monitor ") (firstPass 8) = [.unsupportedAction]) ∧
    (validatePlaybookSteps mutePython (.arr nullBranch) (some "p") = .ok [] ∧
      codesAfter nullBranch (firstPass 12) = [.branchTargetNotFound]) := by
  decide +kernel

end SiemDashboard.ValidatorAgreement
