import SiemDashboard.Engines.PlaybookSystem
import SiemDashboard.Core.StatementEffects
import SiemDashboard.Lib.Contracts

/-!
# Chained executions

A `trigger_playbook` step creates a child of the execution it runs in, one level deeper, unless the
chain is too deep or already holds the target.  The step reads the chain row by row and creates the
child afterwards, while other actors create, trigger and retry executions.

* **Ancestors** — `Ancestors`: an execution's chain of parents; `Bounded`: what a chain is to be.
* **The contract** — `chainContract`: every chain is bounded, and executions keep their lineage.
* **Programs** — `Traced`, `ancestorsFrom_keeps`, `triggerTarget_keeps`: what the step has read of a
  chain stays true.
* **Runs** — `ChainTask`, `chainSystem`, `chains_bounded`.
-/

namespace SiemDashboard.ChainBounds

open Atomic Python PlaybookStore StepExecutor PlaybookRoutes Tables

/-! ## Ancestors -/

/-- The proper ancestors of an execution, from its parent up to a root. -/
inductive Ancestors (db : Db) : Execution → List Execution → Prop
  | root {row} (h : row.parentExecutionId = none) : Ancestors db row []
  | child {row id parent ancestors} (h : row.parentExecutionId = some id)
      (hparent : db.execution? id = some parent) (hrest : Ancestors db parent ancestors) :
      Ancestors db row (parent :: ancestors)

variable {py : Python} {db db' : Db} {row row' : Execution}

theorem Ancestors.unique {ancestors ancestors' : List Execution} (h : Ancestors db row ancestors)
    (h' : Ancestors db row ancestors') : ancestors' = ancestors := by
  induction h generalizing ancestors' with
  | root hroot =>
    cases h' with
    | root => rfl
    | child hid => cases hroot.symm.trans hid
  | child hid hparent _ ih =>
    cases h' with
    | root hroot => cases hroot.symm.trans hid
    | child hid' hparent' hrest' =>
      cases hid.symm.trans hid'
      cases hparent.symm.trans hparent'
      rw [ih hrest']

def playbooks (rows : List Execution) : List String := rows.map (·.playbookId)

@[simp] theorem playbooks_nil : playbooks [] = [] := rfl

@[simp] theorem playbooks_cons (row : Execution) (rows : List Execution) :
    playbooks (row :: rows) = row.playbookId :: playbooks rows := rfl

@[simp] theorem length_playbooks (rows : List Execution) : (playbooks rows).length = rows.length :=
  List.length_map _

/-- The execution has as many ancestors as its depth says, no more than a chain may have, and no
    playbook occurs twice in its chain. -/
def Bounded (db : Db) (row : Execution) : Prop :=
  ∃ ancestors, Ancestors db row ancestors ∧ ancestors.length = row.chainDepth ∧
    row.chainDepth ≤ maxChainDepth ∧ (playbooks (row :: ancestors)).Nodup

/-- Executions stay, with their lineage. -/
def Persists (db db' : Db) : Prop :=
  ∀ e row, db.execution? e = some row → ∃ row', db'.execution? e = some row' ∧ SameLineage row row'

theorem Persists.refl (db : Db) : Persists db db := fun _ row h => ⟨row, h, .refl row⟩

theorem sameLineage_trans {r₁ r₂ r₃ : Execution} (h : SameLineage r₁ r₂) (h' : SameLineage r₂ r₃) :
    SameLineage r₁ r₃ where
  id := h'.id.trans h.id
  playbookId := h'.playbookId.trans h.playbookId
  parentExecutionId := h'.parentExecutionId.trans h.parentExecutionId
  chainDepth := h'.chainDepth.trans h.chainDepth
  maxAttempts := h'.maxAttempts.trans h.maxAttempts
  createdAt := h'.createdAt.trans h.createdAt

theorem Persists.trans {db₁ db₂ db₃ : Db} (h : Persists db₁ db₂) (h' : Persists db₂ db₃) :
    Persists db₁ db₃ := by
  intro e row hrow
  obtain ⟨row', hrow', hsame⟩ := h e row hrow
  obtain ⟨row'', hrow'', hsame'⟩ := h' e row' hrow'
  exact ⟨row'', hrow'', sameLineage_trans hsame hsame'⟩

theorem exec_persists (w : World) (q : Stmt) (db : Db) : Persists db (exec w q db).2 := by
  intro e row hrow
  obtain ⟨row', hrow', rfl | hstep⟩ := exec_keeps (w := w) (q := q) hrow
  · exact ⟨row', hrow', .refl row'⟩
  · exact ⟨row', hrow', hstep.sameLineage⟩

/-- A chain of parents stays, as far as playbooks and length go. -/
theorem Ancestors.persist {ancestors : List Execution} (h : Ancestors db row ancestors)
    (hpersists : Persists db db') (hrow : row'.parentExecutionId = row.parentExecutionId) :
    ∃ ancestors', Ancestors db' row' ancestors' ∧ playbooks ancestors' = playbooks ancestors := by
  induction h generalizing row' with
  | root hroot => exact ⟨[], .root (hrow.trans hroot), rfl⟩
  | @child row id parent ancestors hid hparent _ ih =>
    obtain ⟨parent', hparent', hsame⟩ := hpersists id parent hparent
    obtain ⟨ancestors', hancestors', hplaybooks⟩ := ih hsame.parentExecutionId
    refine ⟨parent' :: ancestors', .child (hrow.trans hid) hparent' hancestors', ?_⟩
    rw [playbooks_cons, playbooks_cons, hsame.playbookId, hplaybooks]

theorem Bounded.persist (h : Bounded db row) (hpersists : Persists db db')
    (hrow : SameLineage row row') : Bounded db' row' := by
  obtain ⟨ancestors, hancestors, hlength, hdepth, hdistinct⟩ := h
  obtain ⟨ancestors', hancestors', hplaybooks⟩ :=
    hancestors.persist hpersists hrow.parentExecutionId
  have hcount : ancestors'.length = ancestors.length := by
    simpa using congrArg List.length hplaybooks
  refine ⟨ancestors', hancestors', ?_, ?_, ?_⟩
  · rw [hcount, hlength, hrow.chainDepth]
  · rw [hrow.chainDepth]
    exact hdepth
  · rw [playbooks_cons, hplaybooks, hrow.playbookId]
    exact hdistinct

/-- What a new execution must be like: a root, or a child of an execution whose chain leaves room for
    it and does not hold its playbook. -/
inductive Legal (db : Db) (new : NewExecution) : Prop
  | root (hparent : new.parentExecutionId = none) (hdepth : new.chainDepth = 0)
  | child {id parent ancestors} (hid : new.parentExecutionId = some id)
      (hparent : db.execution? id = some parent) (hancestors : Ancestors db parent ancestors)
      (hdepth : new.chainDepth = ancestors.length + 1) (hroom : ancestors.length < maxChainDepth)
      (hnew : new.playbookId ∉ playbooks (parent :: ancestors))

/-- Every chain is bounded. -/
def AllBounded (db : Db) : Prop := ∀ e row, db.execution? e = some row → Bounded db row

/-- A statement that creates at most a legal execution keeps the chains bounded. -/
theorem allBounded_exec {w : World} {q : Stmt} (h : AllBounded db)
    (hlegal : ∀ new, creates q = some new → Legal db new) : AllBounded (exec w q db).2 := by
  intro e row' hrow'
  have hpersists := exec_persists w q db
  obtain hsame | ⟨row, hrow, hstep⟩ | ⟨-, -, new, hnew, rfl, -⟩ := exec_row hrow'
  · exact (h e row' hsame).persist hpersists (.refl row')
  · exact (h e row hrow).persist hpersists hstep.sameLineage
  · cases hlegal new hnew with
    | root hparent hdepth =>
      refine ⟨[], .root hparent, hdepth.symm, ?_, List.nodup_singleton _⟩
      exact Nat.le_trans (Nat.le_of_eq hdepth) (Nat.zero_le _)
    | @child id parent ancestors hid hparent hancestors hdepth hroom hfresh =>
      obtain ⟨known, hknown, -, -, hdistinct⟩ := h id parent hparent
      rw [hancestors.unique hknown] at hdistinct
      obtain ⟨parent', hparent', hsame⟩ := hpersists id parent hparent
      obtain ⟨ancestors', hancestors', hplaybooks⟩ :=
        hancestors.persist hpersists hsame.parentExecutionId
      have hchain : playbooks (parent' :: ancestors') = playbooks (parent :: ancestors) := by
        rw [playbooks_cons, playbooks_cons, hplaybooks, hsame.playbookId]
      have hcount : ancestors'.length = ancestors.length := by
        simpa using congrArg List.length hplaybooks
      refine ⟨parent' :: ancestors', .child hid hparent' hancestors', ?_, ?_, ?_⟩
      · rw [List.length_cons, hcount]
        exact hdepth.symm
      · show new.chainDepth ≤ maxChainDepth
        omega
      · rw [playbooks_cons, hchain]
        exact List.nodup_cons.mpr ⟨hfresh, hdistinct⟩

/-! ## The contract -/

/-- Every chain is bounded, and executions keep their lineage. -/
def chainContract : Contract Db where
  inv := AllBounded
  le := Persists
  refl := Persists.refl
  trans := .trans

theorem allows_exec {w : World} {q : Stmt} (h : AllBounded db)
    (hlegal : ∀ new, creates q = some new → Legal db new) :
    chainContract.Allows db (exec w q db).2 :=
  ⟨allBounded_exec h hlegal, exec_persists w q db⟩

/-- The statement creates no execution, or one without a parent. -/
def CreatesRoots (q : Stmt) : Prop :=
  ∀ new, creates q = some new → new.parentExecutionId = none ∧ new.chainDepth = 0

theorem CreatesRoots.allows {w : World} {q : Stmt} (hq : CreatesRoots q) (h : AllBounded db) :
    chainContract.Allows db (exec w q db).2 :=
  allows_exec h fun new hnew => .root (hq new hnew).1 (hq new hnew).2

theorem createsRoots_of_none {q : Stmt} (h : creates q = none) : CreatesRoots q := by
  intro new hnew
  cases h.symm.trans hnew

/-! ## Programs -/

/-- The program keeps the contract from here on, and returns with `Post`. -/
abbrev KeepsChains {α : Type} (p : Prog α) (Post : α → Db → Prop) (db : Db) : Prop :=
  p.Keeps chainContract exec Post db

/-- The chain of an execution runs through these playbooks. -/
def Traced (names : List String) (db : Db) (row : Execution) : Prop :=
  ∃ ancestors, Ancestors db row ancestors ∧ playbooks ancestors = names

theorem Traced.persist {names : List String} (h : Traced names db row)
    (hpersists : Persists db db') (hrow : row'.parentExecutionId = row.parentExecutionId) :
    Traced names db' row' := by
  obtain ⟨ancestors, hancestors, rfl⟩ := h
  obtain ⟨ancestors', hancestors', hplaybooks⟩ := hancestors.persist hpersists hrow
  exact ⟨ancestors', hancestors', hplaybooks⟩

/-- An execution was read, and is stored with the same lineage. -/
def Stored (db : Db) (execution : Execution) : Prop :=
  ∃ row, db.execution? execution.id = some row ∧ SameLineage execution row

theorem Stored.persist {execution : Execution} (h : Stored db execution)
    (hpersists : Persists db db') : Stored db' execution := by
  obtain ⟨row, hrow, hsame⟩ := h
  obtain ⟨row', hrow', hsame'⟩ := hpersists _ row hrow
  exact ⟨row', hrow', sameLineage_trans hsame hsame'⟩

/-- Statements that create at most roots, whatever they answer. -/
theorem keeps_of_issues {α : Type} {p : Prog α} {Ret : α → Prop}
    (h : p.Issues CreatesRoots Ret) : KeepsChains p (fun _ _ => True) db :=
  (h.keeps fun _ _ _ hq hinv => hq.allows hinv).imp fun _ _ _ _ _ => trivial

/-- Reading a chain answers with all of it, as long as it is no longer than the hops allowed. -/
theorem ancestorsFrom_keeps {names : List String} (maxHops : Nat) (hhops : names.length ≤ maxHops)
    (h : Traced names db row) :
    KeepsChains (ancestorsFrom maxHops (some row)) (fun rows _ => playbooks rows = names) db := by
  induction maxHops generalizing db row names with
  | zero =>
    have hnil : names = [] := List.length_eq_zero_iff.mp (Nat.le_zero.mp hhops)
    exact Program.keeps_pure fun _ _ _ => hnil.symm
  | succ maxHops ih =>
    obtain ⟨ancestors, hancestors, rfl⟩ := h
    unfold ancestorsFrom
    cases hancestors with
    | root hroot =>
      rw [hroot]
      exact Program.keeps_pure fun _ _ _ => rfl
    | @child _ id parent ancestors hid hparent hrest =>
      rw [hid]
      refine Program.keeps_call_bind fun w t hinv hle => ⟨?_, ?_⟩
      · exact (createsRoots_of_none rfl).allows hinv
      · obtain ⟨parent', hparent', hsame⟩ := hle id parent hparent
        have hread : (exec w (.getExecution id) t).1 = some parent' := hparent'
        have htraced : Traced (playbooks ancestors) t parent' :=
          Traced.persist ⟨ancestors, hrest, rfl⟩ hle hsame.parentExecutionId
        have hlength : (playbooks ancestors).length ≤ maxHops := by
          simp only [playbooks_cons, List.length_cons] at hhops
          omega
        rw [hread]
        refine Program.keeps_bind (ih hlength htraced) fun rows t' _ _ hrows => ?_
        refine Program.keeps_pure fun _ _ _ => ?_
        rw [playbooks_cons, playbooks_cons, hrows, hsame.playbookId]

/-- What the ancestry check answers. -/
theorem targetInExecutionAncestry_keeps {execution : Execution} {target : String}
    {names : List String} (hhops : names.length ≤ maxChainDepth) (hstored : Stored db execution)
    (h : Traced names db execution) :
    KeepsChains (targetInExecutionAncestry execution target)
      (fun cycle _ => cycle = false → target ≠ execution.playbookId ∧ target ∉ names) db := by
  unfold targetInExecutionAncestry
  split
  · exact Program.keeps_pure fun _ _ _ hcycle => by cases hcycle
  · next hne =>
    have hchain : KeepsChains (getPlaybookExecutionAncestorChain execution.id maxChainDepth)
        (fun rows _ => playbooks rows = names) db := by
      refine Program.keeps_call_bind fun w t hinv hle => ⟨?_, ?_⟩
      · exact (createsRoots_of_none rfl).allows hinv
      · obtain ⟨row, hrow, hsame⟩ := hstored.persist hle
        have hread : (exec w (.getExecution execution.id) t).1 = some row := hrow
        rw [hread]
        exact ancestorsFrom_keeps maxChainDepth hhops (h.persist hle hsame.parentExecutionId)
    refine Program.keeps_bind hchain fun rows t _ _ hrows => ?_
    refine Program.keeps_pure fun _ _ _ hcycle => ⟨hne, ?_⟩
    rw [← hrows]
    intro hmem
    obtain ⟨ancestor, hancestor, hname⟩ := List.mem_map.mp hmem
    have hfalse := List.any_eq_false.mp hcycle ancestor hancestor
    exact hfalse (decide_eq_true hname)

theorem createAndLink_roots {id : Nat} {playbookId eventType : String} {key : OutcomeKey} :
    (createAndLinkPlaybookExecutionDecision id playbookId eventType key).Issues CreatesRoots
      (fun _ => True) := by
  unfold createAndLinkPlaybookExecutionDecision
  refine Program.issues_call_bind (createsRoots_of_none rfl) fun decision => ?_
  cases decision with
  | none => exact Program.issues_pure trivial
  | some decision =>
    exact Program.issues_call_bind (createsRoots_of_none rfl) fun _ => Program.issues_pure trivial

/-- The child is legal wherever the others have taken the store since the check. -/
theorem triggerChild_keeps {execution : Execution} {target : String} {alertId index : Nat}
    {now : Int} {names : List String} (hroom : names.length < maxChainDepth)
    (hdepth : names.length = execution.chainDepth) (hstored : Stored db execution)
    (h : Traced names db execution) (hself : target ≠ execution.playbookId)
    (hnames : target ∉ names) :
    KeepsChains (triggerChild index execution target alertId now) (fun _ _ => True) db := by
  unfold triggerChild
  refine Program.keeps_call_bind fun w t hinv hle => ⟨?_, ?_⟩
  · refine allows_exec hinv fun new hnew => ?_
    cases hnew
    obtain ⟨row, hrow, hsame⟩ := hstored.persist hle
    obtain ⟨ancestors, hancestors, hplaybooks⟩ := h.persist hle hsame.parentExecutionId
    have hcount : ancestors.length = names.length := by
      simpa using congrArg List.length hplaybooks
    refine .child rfl hrow hancestors ?_ ?_ ?_
    · show execution.chainDepth + 1 = ancestors.length + 1
      omega
    · omega
    · rw [playbooks_cons, hplaybooks, hsame.playbookId, List.mem_cons, not_or]
      exact ⟨hself, hnames⟩
  · generalize (exec w _ t).1 = created
    rcases created with error | _ | child
    · exact Program.keeps_pure fun _ _ _ => trivial
    · refine Program.keeps_call_bind fun w' t' hinv' _ => ⟨?_, ?_⟩
      · exact (createsRoots_of_none rfl).allows hinv'
      · exact Program.keeps_pure fun _ _ _ => trivial
    · exact Program.keeps_bind (keeps_of_issues createAndLink_roots) fun _ _ _ _ _ =>
        Program.keeps_pure fun _ _ _ => trivial

theorem triggerTarget_keeps {execution : Execution} {target : String} {index : Nat} {now : Int}
    (hstored : Stored db execution) (hbounded : Bounded db execution) :
    KeepsChains (triggerTarget py index execution target now) (fun _ _ => True) db := by
  obtain ⟨ancestors, hancestors, hlength, hdepth, -⟩ := hbounded
  have htraced : Traced (playbooks ancestors) db execution := ⟨ancestors, hancestors, rfl⟩
  have hhops : (playbooks ancestors).length ≤ maxChainDepth := by
    rw [length_playbooks]
    omega
  have hdone {entry : Except String LogEntry} {t : Db} :
      KeepsChains (pure entry) (fun _ _ => True) t := Program.keeps_pure fun _ _ _ => trivial
  unfold triggerTarget
  refine Program.keeps_call_bind fun w t hinv hle => ⟨(createsRoots_of_none rfl).allows hinv, ?_⟩
  have hframe : (exec w (.getDefinition target) t).2 = t := rfl
  rw [hframe]
  generalize (exec w (.getDefinition target) t).1 = definition
  cases definition with
  | none => exact hdone
  | some definition =>
    simp only
    split
    · exact hdone
    · split
      · exact hdone
      · next hroom =>
        have hroom : (playbooks ancestors).length < maxChainDepth := by
          rw [length_playbooks]
          omega
        have hstored' := hstored.persist hle
        have htraced' := htraced.persist hle rfl
        refine Program.keeps_bind (targetInExecutionAncestry_keeps hhops hstored' htraced')
          fun cycle t' _ hle' hcycle => ?_
        split
        · exact hdone
        · next hnone =>
          split
          · exact hdone
          · obtain ⟨hself, hnames⟩ := hcycle (by simpa using hnone)
            exact triggerChild_keeps hroom (by rw [length_playbooks, hlength])
              (hstored'.persist hle') (htraced'.persist hle' rfl) hself hnames

/-- A `trigger_playbook` step of an execution that was read before. -/
theorem executeTriggerPlaybookStep_keeps {execution : Execution} {step : Json} {index : Nat}
    {now : Int} (hstored : Stored db execution) (hbounded : Bounded db execution) :
    KeepsChains (executeTriggerPlaybookStep py step index execution now) (fun _ _ => True) db := by
  have hdone {entry : Except String LogEntry} {t : Db} :
      KeepsChains (pure entry) (fun _ _ => True) t := Program.keeps_pure fun _ _ _ => trivial
  unfold executeTriggerPlaybookStep
  simp only
  split
  · exact hdone
  · split
    · split
      · exact hdone
      · exact triggerTarget_keeps hstored hbounded
    · exact hdone

section Routes

variable {playbookId : String} {alertId : Nat} {alertId? incidentId : Option Nat} {id : Nat}

theorem createManual_roots :
    (createManualPlaybookExecutionRoute playbookId alertId? incidentId).Issues CreatesRoots
      (fun _ => True) := by
  unfold createManualPlaybookExecutionRoute
  refine Program.issues_call_bind (createsRoots_of_none rfl) fun definition => ?_
  cases definition with
  | none => exact Program.issues_pure trivial
  | some definition =>
    dsimp only
    split
    · exact Program.issues_pure trivial
    · refine Program.issues_call_bind (createsRoots_of_none rfl) fun active => ?_
      cases active with
      | some active => exact Program.issues_pure trivial
      | none =>
        refine Program.issues_call_bind (fun new hnew => ?_) fun created => ?_
        · cases hnew
          exact ⟨rfl, rfl⟩
        · cases created with
          | error error => exact Program.issues_pure trivial
          | ok id =>
            exact Program.issues_bind createAndLink_roots fun _ _ => Program.issues_pure trivial

theorem createForAlert_roots :
    (createPendingExecutionForAlert playbookId alertId incidentId).Issues CreatesRoots
      (fun _ => True) := by
  unfold createPendingExecutionForAlert
  refine Program.issues_call_bind (fun new hnew => ?_) fun created => ?_
  · cases hnew
    exact ⟨rfl, rfl⟩
  · rcases created with error | _ | id
    · exact Program.issues_pure trivial
    · exact Program.issues_pure trivial
    · exact Program.issues_bind createAndLink_roots fun _ _ => Program.issues_pure trivial

theorem createRetry_roots : (createRetryExecution id).Issues CreatesRoots (fun _ => True) := by
  unfold createRetryExecution
  refine Program.issues_call_bind (createsRoots_of_none rfl) fun source => ?_
  cases source with
  | none => exact Program.issues_pure trivial
  | some source =>
    dsimp only
    split
    · exact Program.issues_pure trivial
    · refine Program.issues_call_bind (createsRoots_of_none rfl) fun active => ?_
      split
      · exact Program.issues_pure trivial
      · refine Program.issues_call_bind (fun new hnew => ?_) fun created => ?_
        · cases hnew
          exact ⟨rfl, rfl⟩
        · cases created <;> exact Program.issues_pure trivial

theorem retry_roots : (retryPlaybookExecutionRoute id).Issues CreatesRoots (fun _ => True) := by
  unfold retryPlaybookExecutionRoute
  refine Program.issues_call_bind (createsRoots_of_none rfl) fun execution => ?_
  cases execution with
  | none => exact Program.issues_pure trivial
  | some execution =>
    dsimp only
    split
    · exact Program.issues_pure trivial
    · refine Program.issues_call_bind (createsRoots_of_none rfl) fun definition => ?_
      cases definition with
      | none => exact Program.issues_pure trivial
      | some definition =>
        refine Program.issues_call_bind (createsRoots_of_none rfl) fun active => ?_
        split
        · exact Program.issues_pure trivial
        · refine Program.issues_bind createRetry_roots fun created _ => ?_
          cases created with
          | error reply => exact Program.issues_pure trivial
          | ok newId =>
            exact Program.issues_bind createAndLink_roots fun _ _ => Program.issues_pure trivial

end Routes

/-! ## Runs -/

/-- What the actors of a chain do: create executions, run `trigger_playbook` steps, retry, and
    issue any other statement (the workers' and operators' that change statuses, logs and leases). -/
inductive ChainTask where
  | createManual (playbookId : String) (alertId incidentId : Option Nat)
  | createForAlert (playbookId : String) (alertId : Nat) (incidentId : Option Nat)
  | trigger (executionId : Nat) (step : Json) (stepIndex : Nat) (now : Int)
  | retry (id : Nat)
  | other (q : Stmt)

/-- A `trigger_playbook` step of a stored execution. -/
def triggerStep (py : Python) (executionId : Nat) (step : Json) (stepIndex : Nat) (now : Int) :
    Prog Unit := do
  match ← issue (.getExecution executionId) with
  | none => return ()
  | some execution =>
    let _ ← executeTriggerPlaybookStep py step stepIndex execution now
    return ()

/-- The program of a task; the other statements are those that create no execution. -/
def chainCode (py : Python) : ChainTask → Option (Prog Unit)
  | .createManual playbookId alertId incidentId =>
    some (createManualPlaybookExecutionRoute playbookId alertId incidentId).discard
  | .createForAlert playbookId alertId incidentId =>
    some (createPendingExecutionForAlert playbookId alertId incidentId).discard
  | .trigger executionId step stepIndex now =>
    some (triggerStep py executionId step stepIndex now)
  | .retry id => some (retryPlaybookExecutionRoute id).discard
  | .other q => if (creates q).isSome then none else some (issue q).discard

/-- Any number of actors, numbered, on the tables of the playbooks. -/
def chainSystem (py : Python) : System Db World Nat ChainTask Reply := ⟨exec, fun _ => chainCode py⟩

theorem triggerStep_keeps {executionId index : Nat} {step : Json} {now : Int} :
    KeepsChains (triggerStep py executionId step index now) (fun _ _ => True) db := by
  refine Program.keeps_call_bind fun w t hinv _ => ⟨(createsRoots_of_none rfl).allows hinv, ?_⟩
  have hframe : (exec w (.getExecution executionId) t).2 = t := rfl
  rw [hframe]
  cases hread : (exec w (.getExecution executionId) t).1 with
  | none => exact Program.keeps_pure fun _ _ _ => trivial
  | some execution =>
    have hrow : t.execution? executionId = some execution := hread
    have hid : execution.id = executionId := t.executions.keyed executionId execution hrow
    have hstored : Stored t execution := ⟨execution, hid ▸ hrow, .refl execution⟩
    exact Program.keeps_bind
      (executeTriggerPlaybookStep_keeps hstored (hinv executionId execution hrow))
      fun _ _ _ _ _ => Program.keeps_pure fun _ _ _ => trivial

/-- Every task keeps the chains. -/
theorem chainCode_keeps {task : ChainTask} {p : Prog Unit} (h : chainCode py task = some p) :
    KeepsChains p (fun _ _ => True) db := by
  have hdiscard {α : Type} {p : Prog α} (hp : p.Issues CreatesRoots fun _ => True) :
      KeepsChains p.discard (fun _ _ => True) db :=
    have hdone : p.discard.Issues CreatesRoots fun _ => True :=
      Program.issues_bind hp fun _ _ => Program.issues_done trivial
    keeps_of_issues hdone
  cases task with
  | createManual =>
    cases h
    exact hdiscard createManual_roots
  | createForAlert =>
    cases h
    exact hdiscard createForAlert_roots
  | trigger =>
    cases h
    exact triggerStep_keeps
  | retry =>
    cases h
    exact hdiscard retry_roots
  | other q =>
    simp only [chainCode] at h
    split at h
    · cases h
    · next hnone =>
      cases h
      have hq : CreatesRoots q := createsRoots_of_none (Option.not_isSome_iff_eq_none.mp hnone)
      exact hdiscard (Program.issues_call hq fun _ => trivial)

/-- The tables after a run that starts without executions. -/
abbrev tablesAfter (py : Python) (db : Db) (events : List (Atomic.Event Nat ChainTask World)) : Db :=
  ((chainSystem py).run (.idle { db with executions := .empty }) events).shared

/-- **Chains are bounded and acyclic.**  From tables without executions, whatever the actors do and
    however their statements interleave: every execution has as many proper ancestors as its depth
    says, at most as many as a chain may have, and the playbooks of its chain are distinct. -/
theorem chains_bounded {events : List (Atomic.Event Nat ChainTask World)} {e : Nat}
    (h : (tablesAfter py db events).execution? e = some row) :
    ∃ ancestors, Ancestors (tablesAfter py db events) row ancestors ∧
      ancestors.length = row.chainDepth ∧ row.chainDepth ≤ maxChainDepth ∧
      (row.playbookId :: ancestors.map (·.playbookId)).Nodup := by
  have hempty : AllBounded { db with executions := .empty } := by
    intro e row hrow
    cases hrow
  have hcode : ∀ (a : Nat) t p, (chainSystem py).code a t = some p → ∀ s, AllBounded s →
      p.Keeps chainContract (chainSystem py).exec (fun _ _ => True) s :=
    fun _ _ _ hcode _ _ => chainCode_keeps hcode
  have hholds := chainContract.holds_run hcode (Contract.holds_idle hempty) events
  exact hholds.inv e row h

/-- Tables in which every playbook is defined and enabled. -/
def anyPlaybook : Db :=
  { Db.ofPlaybook "p" [] with definition? := fun id => some ⟨id, [], true⟩ }

/-- A step that triggers a playbook. -/
def triggerOf (playbookId : String) : Json :=
  .obj [("params", .obj [("playbook_id", .str playbookId)])]

/-- An execution is created, and two steps trigger a child and a grandchild. -/
def threeDeep : List (Atomic.Event Nat ChainTask World) :=
  [.start 0 (.createForAlert "p" 7 none)] ++ List.replicate 2 (.step 0 (.at 0)) ++
    [.start 1 (.trigger 1 (triggerOf "q") 0 0)] ++ List.replicate 5 (.step 1 (.at 0)) ++
    [.start 1 (.trigger 2 (triggerOf "r") 0 0)] ++ List.replicate 6 (.step 1 (.at 0))

/-- The grandchild has two ancestors and depth two. -/
theorem chains_bounded_grandchild : ∃ row,
    (tablesAfter mutePython anyPlaybook threeDeep).execution? 3 = some row ∧ row.chainDepth = 2 ∧
    ∃ ancestors, Ancestors (tablesAfter mutePython anyPlaybook threeDeep) row ancestors ∧
      ancestors.length = row.chainDepth ∧ row.chainDepth ≤ maxChainDepth ∧
      (row.playbookId :: ancestors.map (·.playbookId)).Nodup := by
  have hdepth : ((tablesAfter mutePython anyPlaybook threeDeep).execution? 3).map
      (·.chainDepth) = some 2 := by decide +kernel
  obtain ⟨row, hrow, hdepth⟩ := Option.map_eq_some_iff.mp hdepth
  exact ⟨row, hrow, hdepth, chains_bounded hrow⟩

end SiemDashboard.ChainBounds
