import SiemDashboard.Engines.PassRefinement

/-!
# Terminal statuses

Once an execution's status is terminal it stays, except that a failed execution may be permanently
failed.  The writers under a lease see to this by themselves: a worker whose pass targets an
execution and that owns its lease runs an execution that is not terminal.  The writes without a
lease have to find the execution as their callers read it.

* **The invariant** — `Phase.target`, `LeaseSafe`.
* **The condition** — `NobodyRuns`, `Undisturbed`.
* **Steps** — `move_status`, `leaseSafe_self`, `leaseSafe_other`.
* **Runs** — `terminalDiscipline`, `terminal_absorbing`.
* **Runs that leave a terminal status** — `terminal_not_absorbing`.
-/

namespace SiemDashboard.TerminalStatus

open Atomic PlaybookStore StepExecutor

variable {py : Python}

/-! ## The invariant -/

/-- The execution a pass may write to under its worker's lease. -/
def target : Phase → Option Nat
  | .viewed row | .gated row .. | .held row .. | .undefined row _ | .working row .. => some row.id
  | .free | .missed .. | .unowned .. | .concluded .. | .due .. => none

/-- A worker that owns the lease of the execution its pass targets runs no terminal execution. -/
def LeaseSafe (db : Db) : Actor → Phase → Prop
  | .worker w, g => ∀ e row, target g = some e → db.execution? e = some row →
      row.leaseOwner = some w → row.status.isTerminal = false
  | .operator _, _ => True

theorem ends_target {g : Phase} {final : FinalStatus} {id : Nat} {log : List LogEntry}
    {lastStep : Option Int} (h : Ends g final id log lastStep) : target g = some id := by
  cases h <;> rfl

theorem target_opened {row : Execution} {playbookId : String} {gate : Nat} {log : List LogEntry}
    {known : Option (List Python.Json)} :
    target (.opened row playbookId gate log known) = some row.id := by
  cases known <;> rfl

/-! ## The condition -/

/-- No worker in the middle of a task owns the execution's lease. -/
abbrev NobodyRuns (pool : Pool) (row : Execution) : Prop :=
  ∀ w ∈ row.leaseOwner, pool.proc (.worker w) = none

/-- A write that carries no lease does not disturb the execution it finds: the operator's abandon
    and permanently-fail find no execution that somebody runs, the resume route's write finds no
    terminal execution, and a finalizer's write without a lease finds neither. -/
def Undisturbed (pool : Pool) : Stmt → Prop
  | .abandon id | .markPermanentlyFailed id _ =>
    ∀ row ∈ pool.shared.execution? id, row.status.isTerminal = false → NobodyRuns pool row
  | .updateStatus id _ => ∀ row ∈ pool.shared.execution? id, row.status.isTerminal = false
  | .setFinal _ id _ _ _ none =>
    ∀ row ∈ pool.shared.execution? id, row.status.isTerminal = false ∧ NobodyRuns pool row
  | _ => True

instance (pool : Pool) : DecidablePred (Undisturbed pool) := fun q => by
  unfold Undisturbed
  split <;> infer_instance

/-- Every write that carries no lease leaves running passes alone. -/
abbrev ok : Pool → Event → Prop := OnStep fun pool _ _ q => Undisturbed pool q

/-- The changes of status that a terminal execution may see. -/
def Absorbs (old new : ExecutionStatus) : Prop :=
  old.isTerminal = true → new = old ∨ old = .failed ∧ new = .permanentlyFailed

theorem Absorbs.refl (status : ExecutionStatus) : Absorbs status status := fun _ => .inl rfl

theorem absorbs_of_not_terminal {old new : ExecutionStatus} (h : old.isTerminal = false) :
    Absorbs old new := by
  intro hterminal
  rw [h] at hterminal
  cases hterminal

/-! ## Steps -/

section Step

variable {pool : Pool} {a : Actor} {g g' : Phase} {q : Stmt} {r : Reply q} {row row' : Execution}

theorem active_not_terminal {status : ExecutionStatus} (h : status.isActive = true) :
    status.isTerminal = false := by
  simpa [ExecutionStatus.isActive] using h

theorem permanentFail_absorbs {status : ExecutionStatus}
    (h : permanentFailEligible status = true) : Absorbs status .permanentlyFailed := by
  cases status with
  | running => exact absorbs_of_not_terminal rfl
  | awaitingApproval => exact absorbs_of_not_terminal rfl
  | failed => exact fun _ => .inr ⟨rfl, rfl⟩
  | _ => cases h

/-- What an allowed statement makes of the status of the execution it changes. -/
theorem move_status (hrow : pool.shared.execution? row.id = some row)
    (hmove : Move py a g q r g') (hok : Undisturbed pool q) (hsafe : LeaseSafe pool.shared a g)
    (hstep : RowStep q r row row') : Absorbs row.status row'.status := by
  have howned {w : WorkerId} {id : Nat} (ha : a = .worker w) (hid : row.id = id)
      (htarget : target g = some id) (howner : leaseOwnerSql (some w) row = true) :
      row.status.isTerminal = false := by
    subst ha
    exact hsafe _ row htarget (hid ▸ hrow) (by simpa [leaseOwnerSql] using howner)
  cases hstep with
  | leased _ _ hstatus | claimed _ hstatus | resumed _ _ hstatus | recovered _ _ hstatus =>
    exact absorbs_of_not_terminal (by rw [hstatus]; rfl)
  | extended _ _ _ _ _ hrow' | released _ _ _ hrow' | stepLogged _ _ _ hrow' | linked _ hrow' =>
    subst hrow'
    exact .refl _
  | paused hid hr howner hrow' =>
    cases hmove with
    | neutral h => cases h
    | operator h => cases h
    | refused h => cases h
    | pause => exact absorbs_of_not_terminal (howned rfl hid rfl howner)
  | finalized hid hr howner hrow' =>
    cases hmove with
    | neutral h => cases h
    | operator h => cases h
    | refused h => cases h
    | miss _ hnone => cases hr.symm.trans hnone
    | unconcluded hnone => cases hr.symm.trans hnone
    | conclude hends => exact absorbs_of_not_terminal (howned rfl hid (ends_target hends) howner)
    | concludeUnowned => exact absorbs_of_not_terminal (hok row (hid ▸ hrow)).1
  | abandoned _ _ hstatus _ => exact absorbs_of_not_terminal (active_not_terminal hstatus)
  | permanentlyFailed _ _ hstatus hrow' =>
    subst hrow'
    exact permanentFail_absorbs hstatus
  | statusSet hid hrow' => exact absorbs_of_not_terminal (hok row (hid ▸ hrow))

/-- The statements that write a status other than a lease's own. -/
def setsStatus : Stmt → Bool
  | .setFinal .. | .abandon _ | .markPermanentlyFailed .. | .updateStatus .. => true
  | _ => false

/-- An execution under somebody's lease after a statement: not terminal, or under the same lease
    before, with the status it had unless the statement sets one. -/
theorem rowStep_owner {v : WorkerId} (hstep : RowStep q r row row')
    (howner : row'.leaseOwner = some v) :
    row'.status.isTerminal = false ∨
      row.leaseOwner = some v ∧ (row'.status = row.status ∨ setsStatus q = true) := by
  cases hstep with
  | leased _ _ _ _ hrow' | claimed _ _ _ hrow' | resumed _ _ _ _ hrow' | paused _ _ _ hrow' =>
    subst hrow'
    exact .inl rfl
  | extended _ _ _ _ _ hrow' | stepLogged _ _ _ hrow' | linked _ hrow' =>
    subst hrow'
    exact .inr ⟨howner, .inl rfl⟩
  | released _ _ _ hrow' =>
    subst hrow'
    cases howner
  | recovered _ _ _ _ hrow' =>
    rw [hrow', recovered_leaseOwner] at howner
    cases howner
  | finalized _ _ _ hrow' | abandoned _ _ _ hrow' | permanentlyFailed _ _ _ hrow' =>
    subst hrow'
    exact .inr ⟨howner, .inr rfl⟩
  | statusSet _ hrow' =>
    subst hrow'
    rw [withStatus_leaseOwner] at howner
    exact .inr ⟨howner, .inr rfl⟩

end Step

section Keep

variable {w : World} {db : Db} {a : Actor} {g g' : Phase} {q : Stmt}

/-- The acting worker stays safe as long as its pass targets the same execution and no status is
    set. -/
theorem leaseSafe_same
    (hsets : ∀ row row', RowStep q (exec w q db).1 row row' → setsStatus q = false)
    (hsafe : LeaseSafe db a g) (htarget : target g' = target g) : LeaseSafe (exec w q db).2 a g' := by
  cases a with
  | operator => trivial
  | worker v =>
    intro e row' he hrow' howner
    rw [htarget] at he
    obtain hsame | ⟨row, hrow, hstep⟩ | ⟨-, -, new, -, rfl, -⟩ := exec_row hrow'
    · exact hsafe e row' he hsame howner
    · obtain h | ⟨howned, hstatus | h⟩ := rowStep_owner hstep howner
      · exact h
      · rw [hstatus]
        exact hsafe e row he hrow howned
      · rw [hsets _ _ hstep] at h
        cases h
    · rfl

theorem leaseSafe_none {db : Db} (h : target g = none) : LeaseSafe db a g := by
  cases a with
  | operator => trivial
  | worker v =>
    intro e row he
    rw [h] at he
    cases he

/-- A worker that was given an execution to run is safe. -/
theorem leaseSafe_given {db : Db} {row : Execution} (hrow : db.execution? row.id = some row)
    (hstatus : row.status.isTerminal = false) (htarget : target g = some row.id) :
    LeaseSafe db a g := by
  cases a with
  | operator => trivial
  | worker v =>
    rintro e row' he hrow' -
    obtain rfl : row.id = e := Option.some.inj (htarget.symm.trans he)
    obtain rfl : row = row' := Option.some.inj (hrow.symm.trans hrow')
    exact hstatus

/-- An allowed statement leaves its own actor safe. -/
theorem leaseSafe_self (hmove : Move py a g q (exec w q db).1 g') (hsafe : LeaseSafe db a g) :
    LeaseSafe (exec w q db).2 a g' := by
  cases hmove with
  | neutral h =>
    refine leaseSafe_same (fun _ _ _ => ?_) hsafe rfl
    cases h <;> rfl
  | refused h => exact leaseSafe_same (fun _ _ hstep => (h.unchanged hstep).elim) hsafe rfl
  | operator | requeued | exhausted | unresumed | unsaved | pause | conclude | miss | recheck
  | concludeUnowned | unconcluded | capture => exact leaseSafe_none rfl
  | @tell _ final => cases final <;> exact leaseSafe_none rfl
  | beat | release | ask | consult | define | noDefinition | begin | save =>
    exact leaseSafe_same (fun _ _ _ => rfl) hsafe rfl
  | view hr hstatus =>
    exact leaseSafe_given (exec_getExecution hr).2 (by rw [hstatus]; rfl) rfl
  | rejoin hr hstatus =>
    exact leaseSafe_given (exec_getExecution hr).2 (by rw [hstatus]; rfl) rfl
  | lease hr =>
    obtain ⟨row, -, hstep, hafter⟩ := exec_changedRow (.acquireLease ..) hr
    cases hstep with
    | leased _ _ _ _ hrow' => exact leaseSafe_given hafter (by rw [hrow']; rfl) rfl
  | claim hr =>
    obtain ⟨row, -, hstep, hafter⟩ := exec_changedRow (.claimNext ..) hr
    cases hstep with
    | claimed _ _ _ hrow' => exact leaseSafe_given hafter (by rw [hrow']; rfl) rfl
  | resume hr =>
    obtain ⟨row, -, hstep, hafter⟩ := exec_changedRow (.acquireResumeLease ..) hr
    cases hstep with
    | resumed _ _ _ _ hrow' => exact leaseSafe_given hafter (by rw [hrow']; rfl) target_opened

/-- An allowed statement of another actor leaves a worker safe. -/
theorem leaseSafe_other {pool : Pool} {phase : Actor → Phase} {b : Actor} (hb : b ≠ a)
    (htracks : (refinement py).Tracks pool phase)
    (hmove : Move py a g q (exec w q pool.shared).1 g') (hok : Undisturbed pool q)
    (hsafe : LeaseSafe pool.shared b (phase b)) :
    LeaseSafe (exec w q pool.shared).2 b (phase b) := by
  cases b with
  | operator => trivial
  | worker v =>
    intro e row' he hrow' howner
    have hrunning {row : Execution} (hnobody : NobodyRuns pool row) :
        row.leaseOwner ≠ some v := by
      intro howned
      rw [htracks.idle (hnobody v howned)] at he
      cases he
    obtain hsame | ⟨row, hrow, hstep⟩ | ⟨-, -, new, -, rfl, -⟩ := exec_row hrow'
    · exact hsafe e row' he hsame howner
    · obtain h | ⟨howned, hstatus | hsets⟩ := rowStep_owner hstep howner
      · exact h
      · rw [hstatus]
        exact hsafe e row he hrow howned
      · have hnonterminal := hsafe e row he hrow howned
        have hid : pool.shared.execution? row.id = some row := by
          rwa [pool.shared.executions.keyed e row hrow]
        cases hstep with
        | finalized hid' hr hguard =>
          subst hid'
          cases hmove with
          | neutral h => cases h
          | operator h => cases h
          | refused h => cases h
          | miss _ hnone => cases hr.symm.trans hnone
          | unconcluded hnone => cases hr.symm.trans hnone
          | conclude =>
            simp only [leaseOwnerSql, decide_eq_true_eq, howned, Option.some.injEq] at hguard
            exact absurd (congrArg Actor.worker hguard) hb
          | concludeUnowned => exact absurd howned (hrunning (hok row hid).2)
        | abandoned hid' =>
          subst hid'
          exact absurd howned (hrunning (hok row hid hnonterminal))
        | permanentlyFailed hid' =>
          subst hid'
          exact absurd howned (hrunning (hok row hid hnonterminal))
        | statusSet _ hrow' =>
          cases hmove with
          | neutral h => cases h
          | refused h => cases h
          | operator h =>
            cases h
            rw [hrow', withStatus_status]
            rfl
        | _ => cases hsets
    · rfl

end Keep

/-! ## Runs -/

variable (py) in
/-- Every worker stays safe in the runs that meet the condition. -/
def terminalDiscipline : Discipline (refinement py) ok where
  Global _ := True
  Local := LeaseSafe
  between s a _ := leaseSafe_none rfl
  slide s a g g' _ hsafe hsilent := by
    cases hsilent with
    | ended | unrecorded => exact leaseSafe_none rfl
    | succeededBefore | skippedBefore | stepFailed =>
      cases a <;> exact hsafe
    | @unlinked final => cases final <;> exact leaseSafe_none rfl
  step pool phase a w q g' hat hok _ hsafe :=
    have hundisturbed := hok q hat.next
    ⟨trivial, leaseSafe_self hat.step (hsafe a), fun b hb =>
      leaseSafe_other hb hat.tracks hat.step hundisturbed (hsafe b)⟩

/-- Every execution has stayed, and its status has changed as a terminal one may. -/
def Absorbed (db db' : Db) : Prop :=
  ∀ e row, db.execution? e = some row →
    ∃ row', db'.execution? e = some row' ∧ Absorbs row.status row'.status

theorem Absorbs.trans {s₁ s₂ s₃ : ExecutionStatus} (h₁ : Absorbs s₁ s₂) (h₂ : Absorbs s₂ s₃) :
    Absorbs s₁ s₃ := by
  intro hterminal
  rcases h₁ hterminal with rfl | ⟨rfl, rfl⟩
  · exact h₂ hterminal
  · rcases h₂ rfl with rfl | ⟨h, -⟩
    · exact .inr ⟨rfl, rfl⟩
    · cases h

theorem Absorbed.trans {db₁ db₂ db₃ : Db} (h₁ : Absorbed db₁ db₂) (h₂ : Absorbed db₂ db₃) :
    Absorbed db₁ db₃ := by
  intro e row hrow
  obtain ⟨row', hrow', h⟩ := h₁ e row hrow
  obtain ⟨row'', hrow'', h'⟩ := h₂ e row' hrow'
  exact ⟨row'', hrow'', h.trans h'⟩

/-- Every statement of a run that meets the condition absorbs. -/
theorem eachStep_absorbed {db : Db} {events : List Event}
    (hok : (system py).Along ok (.idle db) events) :
    (system py).EachStep (fun pool _ w q => Absorbed pool.shared (exec w q pool.shared).2)
      (.idle db) events := by
  refine (terminalDiscipline py).eachStep ?_ trivial hok
  intro pool phase a w q g' hat hok _ hsafe e row hrow
  obtain ⟨row', hrow', rfl | hstep⟩ := exec_keeps hrow
  · exact ⟨_, hrow', .refl _⟩
  · have hid : pool.shared.execution? row.id = some row := by
      rwa [pool.shared.executions.keyed e row hrow]
    exact ⟨_, hrow', move_status hid hat.step (hok q hat.next) (hsafe a) hstep⟩

/-- **Terminal statuses absorb.**  In a run whose writes without a lease leave running passes alone,
    an execution that is terminal at some point keeps its status from there on, or goes from failed
    to permanently failed. -/
theorem terminal_absorbing {db : Db} {before after : List Event}
    (hok : (system py).Along ok (.idle db) (before ++ after)) {e : Nat} {row : Execution}
    (hrow : ((system py).run (.idle db) before).shared.execution? e = some row) :
    ∃ row', ((system py).run (.idle db) (before ++ after)).shared.execution? e = some row' ∧
      Absorbs row.status row'.status := by
  have heach := (eachStep_absorbed hok).drop
  have habsorbed : Absorbed ((system py).run (.idle db) before).shared
      ((system py).run ((system py).run (.idle db) before) after).shared :=
    heach.preorder Absorbed (fun _ e row hrow => ⟨row, hrow, .refl _⟩) (fun _ _ _ => Absorbed.trans)
  rw [System.run_append]
  exact habsorbed e row hrow

/-- An operator abandons a pending execution, and a worker looks at it afterwards. -/
theorem terminal_absorbing_abandoned :
    ∃ row', ((system mutePython).run (.idle (.ofPlaybook "p" []))
        ((task (.operator 0) (.createForAlert "p" 7 none) 2 (.at 0) ++
            task (.operator 0) (.abandon 1) 2 (.at 0)) ++
          nextPass 1)).shared.execution? 1 = some row' ∧ Absorbs .abandoned row'.status := by
  have hstatus : (((system mutePython).run (.idle (.ofPlaybook "p" []))
      (task (.operator 0) (.createForAlert "p" 7 none) 2 (.at 0) ++
        task (.operator 0) (.abandon 1) 2 (.at 0))).shared.execution? 1).map (·.status) =
      some .abandoned := by decide +kernel
  obtain ⟨row, hrow, hstatus⟩ := Option.map_eq_some_iff.mp hstatus
  rw [← hstatus]
  exact terminal_absorbing (by decide +kernel) hrow

/-! ## Runs that leave a terminal status -/

/-- A playbook with a gate and nothing after it. -/
def gateOnly : Db := .ofPlaybook "p" [gateStep]

/-- The operator's resume request has read that the execution awaits approval when a worker resumes
    the execution and finishes it. -/
def readThenFinished : List Event :=
  firstPass 8 ++ approval ++ task (.operator 0) (.resume 1 0) 2 (.at 0) ++ nextPass 6

/-- A worker has created the gate's request when the operator abandons the execution. -/
def abandonedAtGate : List Event :=
  firstPass 6 ++ task (.operator 0) (.abandon 1) 2 (.at 0)

/-- The status of the first execution after a run. -/
def statusAfter (db : Db) (events : List Event) : Option ExecutionStatus :=
  (((system mutePython).run (.idle db) events).shared.execution? 1).map (·.status)

/-- The resume request then turns `success` into `pending`, and the worker turns `abandoned` into
    `awaiting_approval`. -/
theorem terminal_not_absorbing :
    (statusAfter gateOnly readThenFinished = some .success ∧
      statusAfter gateOnly (readThenFinished ++ turns (.operator 0) 1 (.at 0)) = some .pending) ∧
    statusAfter gateOnly abandonedAtGate = some .abandoned ∧
      statusAfter gateOnly (abandonedAtGate ++ turns (.worker workerA) 1 (.at 0)) =
        some .awaitingApproval := by
  decide +kernel

end SiemDashboard.TerminalStatus
