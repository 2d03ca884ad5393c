import SiemDashboard.Verification.GateLog

/-!
# Approval gates guard

When the executor starts a step, every approval gate before it was granted or skipped by a taken
branch.  The executor takes a step for a gate by the raw text of its action, the validator by the
vocabulary; the two must agree, or a gate that fails must stop the playbook.

* **The condition** — `GatesPlain`.
* **The invariant** — `Guarded`, `Careful`, `Guards`.
* **Runs** — `gateDiscipline`, `gates_guard`.
* **A run past a gate** — `gate_bypassed`.
-/

namespace SiemDashboard.ApprovalGate

open Atomic Python ActionVocabulary PlaybookRegistry PlaybookStore StepExecutor

/-! ## The condition -/

/-- Every gate with a step after it is written as the executor expects, or stops the playbook when
    it fails. -/
def GatesPlain (py : Python) (steps : List Json) : Prop :=
  ∀ i step raw, i + 1 < steps.length → steps[i]? = some step → step.get "action" = .str raw →
    resolveActionForPlaybook py raw = .ok "require_approval" →
    raw = "require_approval" ∨ continuesOnFailure step = false

/-! ## The invariant -/

section

variable (py : Python) (definition : PlaybookDefinition) (playbookId : String)

/-- The progress of an execution vouches for its gates. -/
def Guarded (db : Db) (e : Nat) (log : List LogEntry) (lastCompletedStep : Option Int) : Prop :=
  LogSound py db definition.steps e log ∧
    ClearedBelow py db definition.steps e log (resumeStart lastCompletedStep)

/-- What a phase has in hand about an execution of the playbook vouches for its gates. -/
def Careful (db : Db) : Phase → Prop
  | .viewed row => row.playbookId = playbookId →
    Guarded py definition db row.id row.stepsLog row.lastCompletedStep
  | .gated row gate request _ => row.playbookId = playbookId →
    Guarded py definition db row.id row.stepsLog row.lastCompletedStep ∧
      latestGate row.stepsLog = some gate ∧
      ∀ r ∈ request, r.status ≠ .pending → Recorded db row.id gate r
  | .held row _ start log savedStep => row.playbookId = playbookId →
    Guarded py definition db row.id log savedStep ∧
      ClearedBelow py db definition.steps row.id log start
  | .undefined row _ => row.playbookId ≠ playbookId
  | .working row _ _ _ st => row.playbookId = playbookId →
    Guarded py definition db row.id st.stepsLog st.lastCompletedStep ∧
      ClearedBelow py db definition.steps row.id st.stepsLog st.index
  | .missed _ id log lastStep | .unowned _ id log lastStep => ∀ row, db.execution? id = some row →
    row.playbookId = playbookId → Guarded py definition db id log lastStep
  | .free | .concluded .. | .due .. => True

/-- The playbook is the given one, and the stored progress of its executions vouches for its
    gates. -/
structure Guards (db : Db) : Prop where
  defined : db.definition? playbookId = some definition
  rows : ∀ e row, db.execution? e = some row → row.playbookId = playbookId →
    Guarded py definition db e row.stepsLog row.lastCompletedStep

/-- What a statement writes about an execution of the playbook vouches for its gates. -/
def WritesGuarded (db : Db) (q : Stmt) : Prop :=
  ∀ e log lastStep, written q = some (e, log, lastStep) → ∀ row, db.execution? e = some row →
    row.playbookId = playbookId → Guarded py definition db e log lastStep

end

section Step

variable {py : Python} {definition : PlaybookDefinition} {playbookId : String} {w : World}
  {q : Stmt} {db : Db} {a : Actor} {g g' : Phase}

theorem Guarded.exec {e : Nat} {log : List LogEntry} {lastStep : Option Int}
    (h : Guarded py definition db e log lastStep) :
    Guarded py definition (SiemDashboard.exec w q db).2 e log lastStep :=
  have hstay := passedStay_exec w q db
  ⟨h.1.mono hstay, h.2.mono hstay⟩

theorem Guarded.append_plain {e : Nat} {log added : List LogEntry} {lastStep : Option Int}
    (h : Guarded py definition db e log lastStep) (hplain : ∀ entry ∈ added, Plain entry) :
    Guarded py definition db e (log ++ added) lastStep :=
  ⟨h.1.append_plain hplain, h.2.append⟩

theorem Guarded.append_failure {e : Nat} {log : List LogEntry} {entry : LogEntry}
    {lastStep : Option Int} (h : Guarded py definition db e log lastStep)
    (hnote : FailureNote entry) : Guarded py definition db e (log ++ [entry]) lastStep :=
  h.append_plain fun _ hmem => List.mem_singleton.mp hmem ▸ FailureNote.plain hnote

/-- The steps of a pass over an execution of the playbook. -/
theorem Guards.steps_eq (hdb : Guards py definition playbookId db) {row : Execution}
    (hplaybook : row.playbookId = playbookId) : stepsOf db row.playbookId = definition.steps := by
  rw [hplaybook, stepsOf, hdb.defined]
  rfl

theorem ends_guarded {final : FinalStatus} {id : Nat} {log : List LogEntry}
    {lastStep : Option Int} (hdb : Guards py definition playbookId db) (hattached : Attached db g)
    (hcareful : Careful py definition playbookId db g) (hends : Ends g final id log lastStep)
    {row : Execution} (hrow : db.execution? id = some row)
    (hplaybook : row.playbookId = playbookId) : Guarded py definition db id log lastStep := by
  cases hends with
  | succeeded | failed => exact (hcareful ((hattached.1.playbookId hrow).trans hplaybook)).1
  | undefinedPlaybook | undefinedResume =>
    exact absurd ((hattached.playbookId hrow).trans hplaybook) hcareful
  | noGate _ hnote =>
    exact (hcareful ((hattached.playbookId hrow).trans hplaybook)).append_failure hnote
  | noRequest hnote =>
    exact (hcareful ((hattached.1.playbookId hrow).trans hplaybook)).1.append_failure hnote
  | closed _ hnotes =>
    have hsame := (hattached.1.playbookId hrow).trans hplaybook
    have hsteps := (hattached.2 _ rfl).trans (hdb.steps_eq hsame)
    subst hsteps
    have hnoted := (hcareful hsame).1.append_plain (plain_notes hnotes)
    exact ⟨hnoted.1.append_closed, hnoted.2.append⟩

/-- What a pass resumes with after a granted gate. -/
theorem resumes_guarded {row : Execution} {gate : Nat} {request : ApprovalRequest}
    {known : Option (List Json)} {log : List LogEntry} (hdb : Guards py definition playbookId db)
    (hattached : Attached db (.gated row gate (some request) known))
    (hcareful : Careful py definition playbookId db (.gated row gate (some request) known))
    (hresumes : Resumes row gate request known log) (hplaybook : row.playbookId = playbookId) :
    Guarded py definition db row.id log (some (gate : Int)) := by
  obtain ⟨hguarded, hgate, hrecorded⟩ := hcareful hplaybook
  cases hresumes with
  | notes hopens hnotes =>
    have hgranted : Granted definition.steps gate request.status := by
      cases hopens with
      | approved hstatus => exact .inl hstatus
      | branch hstatus hpolicy =>
        have hsteps := (hattached.2 _ rfl).trans (hdb.steps_eq hplaybook)
        subst hsteps
        exact .inr ⟨hstatus, hpolicy⟩
    obtain ⟨entry, hentry, hindex⟩ := latestGate_mem hgate
    have hbelow := hguarded.1.requested entry hentry gate hindex
    refine ⟨hguarded.1.append_plain (plain_notes hnotes), ?_⟩
    rw [resumeStart_natCast]
    exact hbelow.append.succ fun _ =>
      .inl ⟨request, hrecorded request rfl hgranted.decided, hgranted⟩

/-- What a pass saves after a step that succeeded, and where it goes on. -/
theorem saves_guarded {row : Execution} {steps : List Json} {saved log : List LogEntry}
    {savedStep : Option Int} {st : LoopState} {next : Nat}
    (hdb : Guards py definition playbookId db)
    (hattached : Attached db (.working row steps saved savedStep st))
    (hcareful : Careful py definition playbookId db (.working row steps saved savedStep st))
    (hsaves : Saves steps st log next) (hplaybook : row.playbookId = playbookId) :
    Guarded py definition db row.id log (some (st.index : Int)) ∧
      ClearedBelow py db definition.steps row.id log next := by
  obtain ⟨hguarded, hbelow⟩ := hcareful hplaybook
  have hsteps := hattached.2.trans (hdb.steps_eq hplaybook)
  subst hsteps
  cases hsaves with
  | @step step entry next now hat hentry hstatus hnext =>
    have hdone : ClearedBelow py db definition.steps row.id
        (st.stepsLog ++ entry :: skippedBranchStepEntries definition.steps (st.index + 1) next now)
        (st.index + 1) :=
      hbelow.append.succ fun hgate =>
        absurd hgate (not_gate_of_success hat.step_eq hentry hstatus)
    refine ⟨⟨hguarded.1.append_success hat.step_eq hentry hstatus, ?_⟩, fun i hlt hgate => ?_⟩
    · rw [resumeStart_natCast]
      exact hdone
    · by_cases hle : i < st.index + 1
      · exact hdone i hle hgate
      · have hskipped : SkippedByBranch
            (skippedBranchStepEntries definition.steps (st.index + 1) next now) i :=
          mem_skippedBranch (not_lt.mp hle) hlt
        obtain ⟨skip, hmem, hskip⟩ := hskipped
        exact .inr (.inl
          ⟨skip, List.mem_append_right _ (List.mem_cons_of_mem _ hmem), hskip⟩)

/-- What a pass writes vouches for the gates. -/
theorem writesGuarded (hmove : Move py a g q (exec w q db).1 g') (hattached : Attached db g)
    (hdb : Guards py definition playbookId db) (hcareful : Careful py definition playbookId db g) :
    WritesGuarded py definition playbookId db q := by
  intro e log lastStep hwritten row hrow hplaybook
  cases hmove with
  | neutral h => cases h <;> cases hwritten
  | operator h => cases h <;> cases hwritten
  | refused h => cases h <;> cases hwritten
  | resume _ hresumes | unresumed _ hresumes =>
    cases hwritten
    exact resumes_guarded hdb hattached hcareful hresumes
      ((hattached.1.playbookId hrow).trans hplaybook)
  | save _ hsaves | unsaved _ hsaves =>
    cases hwritten
    exact (saves_guarded hdb hattached hcareful hsaves
      ((hattached.1.playbookId hrow).trans hplaybook)).1
  | pause hpauses =>
    cases hwritten
    obtain ⟨hguarded, hbelow⟩ := hcareful ((hattached.1.playbookId hrow).trans hplaybook)
    cases hpauses with
    | gate => exact ⟨hguarded.1.append_request hbelow, hguarded.2.append⟩
  | conclude hends | miss hends =>
    cases hwritten
    exact ends_guarded hdb hattached hcareful hends hrow hplaybook
  | concludeUnowned | unconcluded =>
    cases hwritten
    exact hcareful row hrow hplaybook
  | _ => cases hwritten

/-- The stored progress keeps vouching for the gates. -/
theorem Guards.exec (hdb : Guards py definition playbookId db)
    (hwrites : WritesGuarded py definition playbookId db q) :
    Guards py definition playbookId (SiemDashboard.exec w q db).2 := by
  refine ⟨(exec_frame w q db).definition? ▸ hdb.defined, fun e row' hrow' hplaybook => ?_⟩
  obtain hsame | ⟨row, hrow, hstep⟩ | ⟨-, -, new, -, rfl, -⟩ := exec_row hrow'
  · exact (hdb.rows e row' hsame hplaybook).exec
  · rw [hstep.sameLineage.playbookId] at hplaybook
    obtain ⟨hlog, hlast⟩ | ⟨hwritten, -⟩ := hstep.progress
    · rw [hlog, hlast]
      exact (hdb.rows e row hrow hplaybook).exec
    · have hid : row.id = e := db.executions.keyed e row hrow
      rw [← hid] at hrow ⊢
      exact (hwrites _ _ _ hwritten row hrow hplaybook).exec
  · exact ⟨logSound_nil, clearedBelow_zero⟩

theorem Careful.exec (hattached : Attached db g)
    (hcareful : Careful py definition playbookId db g) :
    Careful py definition playbookId (SiemDashboard.exec w q db).2 g := by
  have hstay : PassedStay definition.steps db (SiemDashboard.exec w q db).2 :=
    passedStay_exec w q db
  cases g with
  | free | concluded | due => trivial
  | viewed row => exact fun hplaybook => (hcareful hplaybook).exec
  | gated row gate request steps =>
    intro hplaybook
    obtain ⟨hguarded, hgate, hrecorded⟩ := hcareful hplaybook
    exact ⟨hguarded.exec, hgate, fun r hr hdecided => (hrecorded r hr hdecided).exec hdecided⟩
  | held row _ start log savedStep =>
    exact fun hplaybook => (hcareful hplaybook).imp .exec (.mono hstay)
  | undefined => exact hcareful
  | working row steps saved savedStep st =>
    exact fun hplaybook => (hcareful hplaybook).imp .exec (.mono hstay)
  | missed | unowned =>
    intro row' hrow' hplaybook
    obtain ⟨row, hrow⟩ := hattached
    obtain ⟨row'', hrow'', rfl | hstep⟩ := exec_keeps (w := w) (q := q) hrow
    · cases hrow'.symm.trans hrow''
      exact (hcareful _ hrow hplaybook).exec
    · cases hrow'.symm.trans hrow''
      exact (hcareful row hrow (hstep.sameLineage.playbookId ▸ hplaybook)).exec

/-- A statement leaves its own actor careful. -/
theorem Careful.move (hmove : Move py a g q (SiemDashboard.exec w q db).1 g')
    (hattached : Attached db g) (hdb : Guards py definition playbookId db)
    (hcareful : Careful py definition playbookId db g) :
    Careful py definition playbookId (SiemDashboard.exec w q db).2 g' := by
  have hafter := hdb.exec (w := w) (writesGuarded hmove hattached hdb hcareful)
  have hstay : PassedStay definition.steps db (SiemDashboard.exec w q db).2 :=
    passedStay_exec w q db
  have hgiven {row : Execution} (h : (SiemDashboard.exec w q db).2.execution? row.id = some row)
      (hplaybook : row.playbookId = playbookId) :=
    hafter.rows row.id row h hplaybook
  have hheld {row : Execution} (h : (SiemDashboard.exec w q db).2.execution? row.id = some row) :
      Careful py definition playbookId (SiemDashboard.exec w q db).2
        (.held row row.playbookId (resumeProgress row).1 row.stepsLog (resumeProgress row).2) := by
    intro hplaybook
    obtain ⟨hsound, hbelow⟩ := hgiven h hplaybook
    rw [Guarded, resumeStart_resumeProgress, resumeProgress_fst]
    exact ⟨⟨hsound, hbelow⟩, hbelow⟩
  cases hmove with
  | neutral | beat | release | begin => exact hcareful.exec hattached
  | view hr => exact hgiven (exec_getExecution hr).2
  | rejoin hr => exact hheld (exec_getExecution hr).2
  | lease hr =>
    obtain ⟨-, -, -, h⟩ := exec_changedRow (.acquireLease ..) hr
    exact hheld h
  | claim hr =>
    obtain ⟨-, -, -, h⟩ := exec_changedRow (.claimNext ..) hr
    exact hheld h
  | ask hgate =>
    intro hplaybook
    exact ⟨(hcareful hplaybook).exec, hgate, fun r hr _ => exec_latestRequest hr⟩
  | consult => exact hcareful
  | @resume _ _ gate _ known log _ _ _ row' hr =>
    obtain ⟨row, -, hstep, h⟩ := exec_changedRow (.acquireResumeLease ..) hr
    cases hstep with
    | resumed _ _ _ _ hrow' =>
      have hprogress : row'.stepsLog = log ∧ row'.lastCompletedStep = some (gate : Int) := by
        rw [hrow']
        exact ⟨rfl, rfl⟩
      have hopened (hplaybook : row'.playbookId = playbookId) := hgiven h hplaybook
      rw [hprogress.1, hprogress.2] at hopened
      have hboth (hplaybook : row'.playbookId = playbookId) :=
        And.intro (hopened hplaybook) (resumeStart_natCast gate ▸ (hopened hplaybook).2)
      cases known <;> exact hboth
  | define hr _ hhi =>
    exact fun hplaybook => (hcareful hplaybook).imp_right (.of_le · hhi)
  | @noDefinition _ row playbookId' _ _ _ _ hr =>
    intro hplaybook
    have hnone : db.definition? playbookId' = none := hr
    rw [hattached.2, hplaybook, hdb.defined] at hnone
    cases hnone
  | save _ hsaves =>
    exact fun hplaybook =>
      (saves_guarded hdb hattached hcareful hsaves hplaybook).imp .exec (.mono hstay)
  | miss hends =>
    intro row' hrow' hplaybook
    obtain ⟨row, rfl, stored, hstored, -⟩ := hattached.ends hends
    obtain ⟨stored', hstored', rfl | hstep⟩ := exec_keeps (w := w) (q := .setFinal ..) hstored
    · cases hrow'.symm.trans hstored'
      exact (ends_guarded hdb hattached hcareful hends hstored hplaybook).exec
    · cases hrow'.symm.trans hstored'
      exact (ends_guarded hdb hattached hcareful hends hstored
        (hstep.sameLineage.playbookId ▸ hplaybook)).exec
  | recheck => exact hcareful
  | @tell _ final => cases final <;> trivial
  | _ => trivial

/-- The silent moves stay careful; this is where a failing gate must stop the playbook. -/
theorem Careful.silent (hplain : GatesPlain py definition.steps) (hattached : Attached db g)
    (hdb : Guards py definition playbookId db) (hcareful : Careful py definition playbookId db g)
    (hsilent : (protocol py a).silent g g') : Careful py definition playbookId db g' := by
  cases hsilent with
  | ended | unrecorded => trivial
  | @unlinked final => cases final <;> trivial
  | @succeededBefore row steps saved savedStep st _ hsucceeded =>
    intro hplaybook
    obtain ⟨hguarded, hbelow⟩ := hcareful hplaybook
    obtain ⟨entry, hentry, hstatus⟩ := List.any_eq_true.mp hsucceeded
    simp only [Bool.and_eq_true, decide_eq_true_eq] at hstatus
    have hnext : ClearedBelow py db definition.steps row.id st.stepsLog (st.index + 1) :=
      hbelow.succ fun hgate =>
        absurd hgate (hguarded.1.succeeded entry hentry _ hstatus.2 hstatus.1)
    exact ⟨⟨hguarded.1, by rw [resumeStart_natCast]; exact hnext⟩, hnext⟩
  | @skippedBefore row steps saved savedStep st _ hskipped =>
    intro hplaybook
    obtain ⟨hguarded, hbelow⟩ := hcareful hplaybook
    obtain ⟨entry, hentry, hstatus⟩ := List.any_eq_true.mp hskipped
    simp only [Bool.and_eq_true, decide_eq_true_eq] at hstatus
    exact ⟨hguarded, hbelow.succ fun _ =>
      .inr (hguarded.1.skipped entry hentry _ hstatus.2 hstatus.1)⟩
  | @stepFailed row steps saved savedStep st step entry next _ hat hgate hentry hstatus hnext =>
    intro hplaybook
    obtain ⟨hguarded, hbelow⟩ := hcareful hplaybook
    have hsteps := hattached.2.trans (hdb.steps_eq hplaybook)
    subst hsteps
    have hnoted : ∀ note ∈ [entry], Plain note := fun note hmem =>
      List.mem_singleton.mp hmem ▸ plain_of_failed hstatus hentry.event_ne
    refine ⟨hguarded.append_plain hnoted, ?_⟩
    rcases hnext with rfl | ⟨rfl, hcontinues⟩
    · exact hbelow.append
    · refine hbelow.append.succ ?_
      rintro ⟨hlength, step', raw, hstep', hraw, hresolve⟩
      cases hat.step_eq.symm.trans hstep'
      rcases hplain st.index step raw hlength hstep' hraw hresolve with rfl | hstops
      · exact absurd hraw hgate
      · cases hcontinues.symm.trans hstops

/-- The gates before a step that starts. -/
theorem begin_guarded (hmove : Move py a g q (exec w q db).1 g') (hattached : Attached db g)
    (hdb : Guards py definition playbookId db) (hcareful : Careful py definition playbookId db g)
    {e j : Nat} {log : List LogEntry} (hq : q = .beginStep e j log) {row : Execution}
    (hrow : db.execution? e = some row) (hplaybook : row.playbookId = playbookId) :
    ∀ i < j, IsGate py definition.steps i →
      SkippedByBranch log i ∨ Passed db definition.steps e i := by
  cases hmove with
  | begin hat =>
    cases hq
    have hsame := (hattached.1.playbookId hrow).trans hplaybook
    have hsteps := hattached.2.trans (hdb.steps_eq hsame)
    subst hsteps
    intro i hlt hgate
    rcases (hcareful hsame).2 i hlt hgate with hpassed | hskipped | hclosed
    · exact .inr hpassed
    · exact .inl hskipped
    · -- the step that starts is not skipped, so no gate before it is closed
      have hlength := (List.getElem?_eq_some_iff.mp hat.step_eq).1
      cases hat.not_skipped.symm.trans (hclosed _ hlt hlength)
  | neutral h => cases hq; cases h
  | operator h => cases hq; cases h
  | refused h => cases hq; cases h
  | _ => cases hq

end Step

/-! ## Runs -/

variable {py : Python} {definition : PlaybookDefinition} {playbookId : String}

/-- Any run. -/
abbrev ok : Pool → Event → Prop := fun _ _ => True

/-- Every phase stays careful where the playbook's gates are plain. -/
def gateDiscipline (hplain : GatesPlain py definition.steps) (playbookId : String) :
    Discipline (refinement py) ok :=
  (attachment py ok).extend
    { Global := Guards py definition playbookId
      Local := fun db _ g => Careful py definition playbookId db g
      between := fun _ _ _ => trivial
      slide := fun _ _ _ _ hattached hdb hcareful hsilent =>
        hcareful.silent hplain hattached hdb hsilent
      step := fun _ _ a _ _ _ hat _ _ hattached hdb hcareful =>
        ⟨hdb.exec (writesGuarded hat.step (hattached a) hdb (hcareful a)),
          (hcareful a).move hat.step (hattached a) hdb,
          fun b _ => (hcareful b).exec (hattached b)⟩ }

/-- **Approval gates guard.**  Let every gate of a playbook be plain, and let its executions start
    fresh.  In every run, when the executor starts a step, every step before it that the vocabulary
    takes for an approval gate was skipped by a taken branch, or its request was approved, or denied
    or expired where the gate's policy for that is `branch`. -/
theorem gates_guard {db : Db} {events : List Event}
    (hdefinition : db.definition? playbookId = some definition)
    (hplain : GatesPlain py definition.steps)
    (hfresh : ∀ e row, db.execution? e = some row → row.playbookId = playbookId →
      row.stepsLog = [] ∧ row.lastCompletedStep = none) :
    (system py).EachStep (fun pool _ _ q => ∀ e j log, q = .beginStep e j log →
      ∀ row, pool.shared.execution? e = some row → row.playbookId = playbookId →
        ∀ i < j, IsGate py definition.steps i →
          SkippedByBranch log i ∨ Passed pool.shared definition.steps e i) (.idle db) events := by
  have hdb : Guards py definition playbookId db := by
    refine ⟨hdefinition, fun e row hrow hplaybook => ?_⟩
    obtain ⟨hlog, hlast⟩ := hfresh e row hrow hplaybook
    rw [hlog, hlast]
    exact ⟨logSound_nil, clearedBelow_zero⟩
  refine (gateDiscipline hplain playbookId).eachStep ?_ ⟨trivial, hdb⟩
    (System.along_of_forall fun _ _ => trivial)
  intro pool phase a w q g' hat _ hglobal hall e j log hq row hrow hplaybook
  exact begin_guarded hat.step (hall a).1 hglobal.2 (hall a).2 hq hrow hplaybook

/-- A playbook with a gate before its only other step. -/
def guardedMonitor : List Json := [gateStep, .obj [("action", .str "monitor")]]

/-- The gate is approved, and the other step runs. -/
theorem gates_guard_monitor :
    (system mutePython).EachStep (fun pool _ _ q => ∀ e j log, q = .beginStep e j log →
      ∀ row, pool.shared.execution? e = some row → row.playbookId = "p" →
        ∀ i < j, IsGate mutePython guardedMonitor i →
          SkippedByBranch log i ∨ Passed pool.shared guardedMonitor e i)
      (.idle (.ofPlaybook "p" guardedMonitor)) (firstPass 8 ++ approval ++ nextPass 12) := by
  have hdefinition : (Db.ofPlaybook "p" guardedMonitor).definition? "p" =
      some ⟨"p", guardedMonitor, true⟩ := rfl
  refine gates_guard hdefinition ?_ ?_
  · intro i step raw hlt hstep hraw _
    obtain rfl : i = 0 := by
      have : i + 1 < 2 := hlt
      omega
    cases hstep
    cases hraw
    exact .inl rfl
  · intro e row hrow
    cases hrow

/-! ## A run past a gate -/

/-- A gate with blanks around its name that lets the playbook go on when it fails. -/
def paddedGate : Json :=
  .obj [("action", .str " require_approval "), ("on_failure", .str "continue")]

/-- The step an actor is about to start, and what the log in hand says about the steps before. -/
def starts (pool : Pool) (a : Actor) : Option (Nat × Nat × List EntryStatus) :=
  match pool.next a with
  | some (.beginStep e j log) => some (e, j, log.map (·.status))
  | _ => none

/-- The run of a padded gate and a monitoring step, up to the start of the second. -/
def bypass : Pool :=
  (system mutePython).run (.idle (.ofPlaybook "p" [paddedGate, .obj [("action", .str "monitor")]]))
    (firstPass 5)

/-- The validator accepts the padded gate as one; the executor fails it as an unknown action and
    starts the step after it, with no request ever made. -/
theorem gate_bypassed :
    PlaybookRegistry.validatePlaybookSteps mutePython
      (.arr [paddedGate, .obj [("action", .str "monitor")]]) (some "p") = .ok [] ∧
    resolveActionForPlaybook mutePython " require_approval " = .ok "require_approval" ∧
    starts bypass (.worker workerA) = some (1, 1, [.failed]) ∧
    bypass.shared.approvals.rows.length = 0 := by
  decide +kernel

end SiemDashboard.ApprovalGate
