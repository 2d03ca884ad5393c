import SiemDashboard.Engines.PassRefinement

/-!
# Success honesty

An execution should end in success exactly when its log holds no failed entry.  The loop decides by
a flag of its own, which starts unset in every pass; it mirrors the log as long as no pass starts
from a log with a failed entry.

* **The invariant** — `hasFailure`, `Reports`, `FlagHonest`.
* **The condition** — `handed`, `GivenClean`.
* **Runs** — `honestyDiscipline`, `ends_honestly`.
* **A run that forgets a failure** — `failure_forgotten`.
-/

namespace SiemDashboard.SuccessHonesty

open Atomic Python PlaybookStore StepExecutor

variable {py : Python}

/-! ## The invariant -/

def hasFailure (log : List LogEntry) : Bool := log.any fun entry => entry.status = .failed

@[simp] theorem hasFailure_append (xs ys : List LogEntry) :
    hasFailure (xs ++ ys) = (hasFailure xs || hasFailure ys) := List.any_append

@[simp] theorem hasFailure_nil : hasFailure [] = false := rfl

@[simp] theorem hasFailure_cons (entry : LogEntry) (log : List LogEntry) :
    hasFailure (entry :: log) = (decide (entry.status = .failed) || hasFailure log) := rfl

@[simp] theorem hasFailure_skipped (steps : List Json) (start stop : Nat) (now : Int) :
    hasFailure (skippedBranchStepEntries steps start stop now) = false := by
  simp [hasFailure, skippedBranchStepEntries, skippedEntry]

/-- A terminal status fits the log it is written with. -/
def Reports : FinalStatus → List LogEntry → Prop
  | .success, log => hasFailure log = false
  | .failed, log => hasFailure log = true
  | .notActioned, _ => True

/-- A pass is given a log without failures, its flag mirrors the log, and the terminal write it is
    about to repeat fits its log. -/
def FlagHonest : Phase → Prop
  | .held _ _ _ log _ => hasFailure log = false
  | .working _ _ _ _ st => st.failed = hasFailure st.stepsLog
  | .missed final _ log _ | .unowned final _ log _ => Reports final log
  | _ => True

theorem ends_reports {g : Phase} {final : FinalStatus} {id : Nat} {log : List LogEntry}
    {lastStep : Option Int} (hg : FlagHonest g) (h : Ends g final id log lastStep) :
    Reports final log := by
  cases h with
  | succeeded hfailed => exact hg.symm.trans hfailed
  | failed hfailed => exact hg.symm.trans hfailed
  | undefinedPlaybook hnote | undefinedResume hnote | noGate _ hnote | noRequest hnote =>
    simp [Reports, hnote.status_eq]
  | closed => trivial

/-! ## The condition -/

/-- The execution that a statement hands to a worker to run: a lease it obtains, or a running
    execution it reads under its own lease. -/
def handed : Actor → (q : Stmt) → Reply q → Option Execution
  | _, .acquireLease .., r | _, .claimNext .., r | _, .acquireResumeLease .., r => r
  | .worker w, .getExecution _, r =>
    r.filter fun row => row.status = .running && row.leaseOwner = some w
  | _, _, _ => none

/-- The execution that is handed over, if any, has no failed entry in its log. -/
abbrev GivenClean (pool : Pool) (a : Actor) (w : World) (q : Stmt) : Prop :=
  ∀ row ∈ handed a q (exec w q pool.shared).1, hasFailure row.stepsLog = false

/-- No worker is handed an execution whose log holds a failed entry. -/
abbrev ok : Pool → Event → Prop := OnStep GivenClean

/-! ## Runs -/

/-- A statement keeps its actor's flag honest. -/
theorem flagHonest_step {pool : Pool} {a : Actor} {w : World} {g g' : Phase} {q : Stmt}
    (hmove : Move py a g q (exec w q pool.shared).1 g') (hok : GivenClean pool a w q)
    (hg : FlagHonest g) : FlagHonest g' := by
  cases hmove with
  | neutral | beat | release | begin => exact hg
  | refused | operator | requeued | exhausted | view | ask | consult | unresumed | noDefinition
  | unsaved | pause | conclude | concludeUnowned | unconcluded | capture => trivial
  | rejoin hr hstatus howner =>
    exact hok _ (by simp [handed, hr, hstatus, howner])
  | lease hr => exact hok _ hr
  | claim hr => exact hok _ hr
  | @resume _ _ _ _ known _ _ _ _ row' hr =>
    obtain ⟨row₀, -, hstep, -⟩ := exec_changedRow (.acquireResumeLease ..) hr
    have hclean := hok row' hr
    cases hstep with
    | resumed _ _ _ _ hrow' =>
      rw [hrow'] at hclean
      cases known with
      | none => exact hclean
      | some steps => exact hclean.symm
  | define => exact hg.symm
  | save _ hsaves =>
    cases hsaves with
    | step _ _ hstatus => simpa [FlagHonest, hstatus] using hg
  | miss hends => exact ends_reports hg hends
  | recheck => exact hg
  | @tell _ final => cases final <;> trivial

variable (py) in
/-- Every flag stays honest in the runs that meet the condition. -/
def honestyDiscipline : Discipline (refinement py) ok where
  Global _ := True
  Local _ _ g := FlagHonest g
  between _ _ _ := trivial
  slide s a g g' _ hg hsilent := by
    cases hsilent with
    | ended | unrecorded => trivial
    | succeededBefore | skippedBefore => exact hg
    | stepFailed _ _ _ hstatus => simp [FlagHonest, hstatus]
    | @unlinked final => cases final <;> trivial
  step pool phase a w q g' hat hok _ hall :=
    ⟨trivial, flagHonest_step hat.step (hok q hat.next) (hall a), fun b _ => hall b⟩

/-- What a statement that ends an execution says about the log it leaves: success, that no entry is
    failed; failure, that one is, unless stale recovery gave the execution up. -/
structure HonestEnd (q : Stmt) (row row' : Execution) : Prop where
  success : row.status ≠ .success → row'.status = .success → hasFailure row'.stepsLog = false
  failed : row.status ≠ .failed → row'.status = .failed →
    hasFailure row'.stepsLog = true ∨ ∃ now, q = .markStale row.id now

theorem HonestEnd.refl (q : Stmt) (row : Execution) : HonestEnd q row row :=
  ⟨fun h h' => absurd h' h, fun h h' => absurd h' h⟩

/-- A statement that leaves the status alone, or sets one that is neither success nor failure. -/
theorem HonestEnd.other {q : Stmt} {row row' : Execution}
    (h : row'.status = row.status ∨ row'.status ≠ .success ∧ row'.status ≠ .failed) :
    HonestEnd q row row' := by
  refine ⟨fun hne hstatus => ?_, fun hne hstatus => ?_⟩
  · rcases h with h | ⟨h, -⟩
    · exact absurd (h.symm.trans hstatus) hne
    · exact absurd hstatus h
  · rcases h with h | ⟨-, h⟩
    · exact absurd (h.symm.trans hstatus) hne
    · exact absurd hstatus h

theorem honestEnd_reports {q : Stmt} {final : FinalStatus} {row row' : Execution}
    (hstatus : row'.status = final.status) (h : Reports final row'.stepsLog) :
    HonestEnd q row row' := by
  cases final with
  | success =>
    refine ⟨fun _ _ => h, fun _ hfailed => ?_⟩
    rw [hstatus] at hfailed
    cases hfailed
  | failed =>
    refine ⟨fun _ hsuccess => ?_, fun _ _ => .inl h⟩
    rw [hstatus] at hsuccess
    cases hsuccess
  | notActioned => exact .other (.inr (by simp [hstatus, FinalStatus.status]))

/-- An honest actor's statement ends executions honestly. -/
theorem honestEnd_step {a : Actor} {g g' : Phase} {q : Stmt} {r : Reply q} {row row' : Execution}
    (hmove : Move py a g q r g') (hg : FlagHonest g) (hstep : RowStep q r row row') :
    HonestEnd q row row' := by
  cases hstep with
  | leased _ _ _ _ hrow' | claimed _ _ _ hrow' | resumed _ _ _ _ hrow' | paused _ _ _ hrow'
  | abandoned _ _ _ hrow' | permanentlyFailed _ _ _ hrow' =>
    subst hrow'
    exact .other (.inr ⟨nofun, nofun⟩)
  | extended _ _ _ _ _ hrow' | released _ _ _ hrow' | stepLogged _ _ _ hrow'
  | linked _ hrow' =>
    subst hrow'
    exact .other (.inl rfl)
  | recovered hid _ _ _ hrow' =>
    subst hid
    refine ⟨fun _ hsuccess => ?_, fun _ _ => .inr ⟨_, rfl⟩⟩
    rw [hrow'] at hsuccess
    unfold recovered at hsuccess
    split at hsuccess <;> cases hsuccess
  | statusSet _ hrow' =>
    cases hmove with
    | neutral h => cases h
    | refused h => cases h
    | operator h =>
      cases h
      exact .other (.inr (by simp [hrow']))
  | @finalized final _ _ _ _ _ _ _ _ hid hr _ hrow' =>
    have hstatus : row'.status = final.status := by rw [hrow']
    refine honestEnd_reports hstatus ?_
    rw [hrow']
    cases hmove with
    | neutral h => cases h
    | operator h => cases h
    | refused h => cases h
    | miss _ hnone => cases hr.symm.trans hnone
    | unconcluded hnone => cases hr.symm.trans hnone
    | conclude hends => exact ends_reports hg hends
    | concludeUnowned => exact hg

/-- **Success is honest.**  In a run in which no worker is handed an execution whose log holds a
    failed entry, an execution becomes success only with a log without failed entries, and the
    executor makes it failed only with a log that has one. -/
theorem ends_honestly {db : Db} {events : List Event}
    (hok : (system py).Along ok (.idle db) events) :
    (system py).EachStep (fun pool _ w q => ∀ e row row',
      pool.shared.execution? e = some row →
      (exec w q pool.shared).2.execution? e = some row' → HonestEnd q row row')
      (.idle db) events := by
  refine (honestyDiscipline py).eachStep ?_ trivial hok
  intro pool phase a w q g' hat _ _ hall e row row' hrow hrow'
  obtain ⟨row'', hrow'', rfl | hstep⟩ := exec_keeps (w := w) (q := q) hrow
  · obtain rfl := Option.some.inj (hrow'.symm.trans hrow'')
    exact .refl q row'
  · obtain rfl := Option.some.inj (hrow'.symm.trans hrow'')
    exact honestEnd_step hat.step (hall a) hstep

/-- A gate is approved, and the playbook ends. -/
theorem ends_honestly_approved :
    (system mutePython).EachStep (fun pool _ w q => ∀ e row row',
      pool.shared.execution? e = some row →
      (exec w q pool.shared).2.execution? e = some row' → HonestEnd q row row')
      (.idle (.ofPlaybook "p" [gateStep])) (firstPass 8 ++ approval ++ nextPass 6) :=
  ends_honestly (by decide +kernel)

/-! ## A run that forgets a failure -/

/-- A step that fails and lets the playbook go on: its target does not exist. -/
def lostTrigger : Json :=
  .obj [ ("action", .str "trigger_playbook"), ("on_failure", .str "continue"),
    ("params", .obj [("playbook_id", .str "missing")]) ]

/-- The status of the first execution after a run, and whether its log holds a failed entry. -/
def endAfter (steps : List Json) (events : List Event) : Option (ExecutionStatus × Bool) :=
  (((system mutePython).run (.idle (.ofPlaybook "p" steps)) events).shared.execution? 1).map
    fun row => (row.status, hasFailure row.stepsLog)

/-- A failure before a gate is forgotten when the gate is approved, and the execution ends in
    success; without the gate the same failure makes it fail. -/
theorem failure_forgotten :
    PlaybookRegistry.validatePlaybookSteps mutePython (.arr [lostTrigger, gateStep]) (some "p") =
      .ok [] ∧
    endAfter [lostTrigger, gateStep] (firstPass 11 ++ approval ++ nextPass 4) =
      some (.running, true) ∧
    endAfter [lostTrigger, gateStep] (firstPass 11 ++ approval ++ nextPass 5) =
      some (.success, true) ∧
    endAfter [lostTrigger] (firstPass 12) = some (.failed, true) := by
  decide +kernel

end SiemDashboard.SuccessHonesty
