import SiemDashboard.Verification.SuccessHonesty

/-!
# Dead letters of failed executions

Every failed execution should leave an active dead letter.  The letter is made from the latest failed
entry of the log.  A failure of the executor always has one; stale recovery that gives an execution
up may find none, and then nothing is captured.

* **Dead letters** — `HasLetter`, `Storable`, `createDeadLetter_lands`, `exec_hasLetter`.
* **Failures** — `FailureLogged`, `failureDiscipline`: a failed execution of the executor has a
  failed entry.
* **Runs** — `failing?`, `Capturable`, `letterObligation`, `failure_captured`.
* **A failure nobody sees** — `recovery_uncaptured`.
-/

namespace SiemDashboard.DeadLetterCapture

open Atomic Python PlaybookStore DeadLetterStore StepExecutor SuccessHonesty Tables

variable {py : Python}

/-! ## Dead letters -/

/-- The execution has an active dead letter. -/
def HasLetter (db : Db) (id : Nat) : Prop :=
  ∃ letter ∈ db.deadLetters.rows,
    letter.sourceType = playbookSource ∧ letter.sourceId = id ∧ letter.status.isActive = true

theorem hasLetter_iff {db : Db} {id : Nat} :
    HasLetter db id ↔ (activeDeadLetter? db playbookSource id).isSome = true := by
  unfold HasLetter activeDeadLetter?
  simp only [List.find?_isSome, Bool.and_eq_true, decide_eq_true_eq, and_assoc]

/-- The letter of a failed entry passes the checks of `create_dead_letter`: it has a message, and the
    name of its action fits the column. -/
def Storable (py : Python) (row : Execution) (entry : LogEntry) : Prop :=
  strip (py.str (deadLetterMessage row entry)) ≠ "" ∧
    ((optionalText entry.action.str?).getD "").length ≤ 128

/-- The class of a failure is a text that fits its column. -/
theorem failureClassText_fits {text class' : String} (h : failureClassText text = some class') :
    strip class' ≠ "" ∧ class'.length ≤ 64 := by
  unfold failureClassText at h
  split at h
  · cases h
  · next hne =>
    have hchars : (strip text).toList = stripChars text.toList := String.toList_ofList
    rw [← Option.some.inj h]
    refine ⟨strip_ne_empty ?_, ?_⟩
    · cases hcs : stripChars text.toList with
      | nil =>
        refine absurd ?_ hne
        rw [strip, hcs]
      | cons c rest =>
        simp [hchars, hcs, stripChars_head hcs]
    · rw [String.length_ofList]
      exact List.length_take_le _ _

theorem failureClass_fits (entry : LogEntry) :
    strip (deadLetterFailureClass entry) ≠ "" ∧ (deadLetterFailureClass entry).length ≤ 64 := by
  unfold deadLetterFailureClass
  dsimp only
  generalize hclassified : Option.bind _ failureClassText = classified
  generalize hcoded : Option.bind entry.error _ = coded
  cases classified with
  | some text =>
    obtain ⟨_, -, htext⟩ := Option.bind_eq_some_iff.mp hclassified
    exact failureClassText_fits htext
  | none =>
    cases coded with
    | some text =>
      obtain ⟨_, -, htext⟩ := Option.bind_eq_some_iff.mp hcoded
      exact failureClassText_fits htext
    | none =>
      have hunknown : strip "unknown" ≠ "" ∧ "unknown".length ≤ 64 := by decide +kernel
      exact hunknown

/-- A letter that passes the checks is active afterwards. -/
theorem createDeadLetter_lands {db : Db} {args : DeadLetterArgs}
    (hclass : strip args.failureClass ≠ "" ∧ args.failureClass.length ≤ 64)
    (hmessage : strip args.errorMessage ≠ "")
    (haction : ((optionalText args.actionName).getD "").length ≤ 128) :
    HasLetter (createDeadLetterSafely db args).2 args.executionId := by
  have hclass' : requireText args.failureClass "failure_class" = .ok (strip args.failureClass) :=
    if_neg hclass.1
  have hmessage' : requireText args.errorMessage "error_message" = .ok (strip args.errorMessage) :=
    if_neg hmessage
  obtain ⟨text, htext⟩ := Option.isSome_iff_exists.mp
    (sanitizeFailureMessage_isSome (by rwa [strip_strip] : strip (strip args.errorMessage) ≠ ""))
  have hfits : fitsColumns args (strip args.failureClass) = true := by
    have hlength := length_strip_le args.failureClass
    simp only [fitsColumns, Bool.and_eq_true, decide_eq_true_eq]
    omega
  unfold createDeadLetterSafely createDeadLetter
  simp only [hclass', hmessage', htext, hfits, Bool.not_true]
  cases hletter : activeDeadLetter? db playbookSource args.executionId with
  | some letter =>
    have hmem := List.mem_of_find?_eq_some hletter
    have hactive := List.find?_some hletter
    simp only [Bool.and_eq_true, decide_eq_true_eq, and_assoc] at hactive
    refine ⟨refreshedDeadLetter args (strip args.failureClass) text letter, ?_, hactive⟩
    have hrows := Table.update_rows db.deadLetters letter.id (fun _ => true)
      (refreshedDeadLetter args (strip args.failureClass) text) (fun _ => rfl)
    simp only [Bool.false_eq_true, if_false]
    rw [hrows]
    exact List.mem_map.mpr ⟨letter, hmem, by simp⟩
  | none =>
    refine ⟨newDeadLetterRow args (strip args.failureClass) text db.deadLetters.next, ?_, rfl, rfl,
      rfl⟩
    have hrows := Table.insert_rows db.deadLetters
      (newDeadLetterRow args (strip args.failureClass) text) (newDeadLetterRow_id _ _ _)
    simp only [Bool.false_eq_true, if_false]
    rw [hrows]
    exact List.mem_append_right _ (List.mem_singleton_self _)

/-- The letter of a storable entry is active afterwards. -/
theorem capture_lands {w : World} {db : Db} {row : Execution} {entry : LogEntry} {now : Int}
    (h : Storable py row entry) :
    HasLetter (exec w (.createDeadLetter (deadLetterArgs py row entry now)) db).2 row.id := by
  have hclass : strip (deadLetterArgs py row entry now).failureClass ≠ "" ∧
      (deadLetterArgs py row entry now).failureClass.length ≤ 64 := failureClass_fits entry
  have hmessage : strip (deadLetterArgs py row entry now).errorMessage ≠ "" := h.1
  have haction : ((optionalText (deadLetterArgs py row entry now).actionName).getD "").length ≤ 128 :=
    h.2
  have hlands := @createDeadLetter_lands db _ hclass hmessage haction
  exact hlands

/-- What creating a letter does to the table: nothing, a refresh of one letter, or an insert. -/
theorem createDeadLetterSafely_cases (db : Db) (args : DeadLetterArgs) :
    (createDeadLetterSafely db args).2.deadLetters = db.deadLetters ∨
      (∃ id failureClass errorMessage, (createDeadLetterSafely db args).2.deadLetters =
        db.deadLetters.update id (fun _ => true) (refreshedDeadLetter args failureClass errorMessage)
          (fun _ => rfl)) ∨
      ∃ failureClass errorMessage, (createDeadLetterSafely db args).2.deadLetters =
        db.deadLetters.insert (newDeadLetterRow args failureClass errorMessage)
          (newDeadLetterRow_id args failureClass errorMessage) := by
  unfold createDeadLetterSafely createDeadLetter
  cases requireText args.failureClass "failure_class" with
  | error message => exact .inl rfl
  | ok failureClass =>
    cases requireText args.errorMessage "error_message" with
    | error message => exact .inl rfl
    | ok required =>
      cases hmessage : sanitizeFailureMessage required with
      | none => exact .inl (by simp [hmessage])
      | some errorMessage =>
        by_cases hfits : fitsColumns args failureClass = true
        · cases hletter : activeDeadLetter? db playbookSource args.executionId with
          | some letter =>
            exact .inr (.inl ⟨letter.id, failureClass, errorMessage, by simp [hmessage, hfits]⟩)
          | none => exact .inr (.inr ⟨failureClass, errorMessage, by simp [hmessage, hfits]⟩)
        · exact .inl (by simp [hmessage, hfits])

/-- Active dead letters stay. -/
theorem exec_hasLetter {w : World} {q : Stmt} {db : Db} {id : Nat} (h : HasLetter db id) :
    HasLetter (exec w q db).2 id := by
  by_cases hq : ∃ args, q = .createDeadLetter args
  · obtain ⟨args, rfl⟩ := hq
    obtain ⟨letter, hmem, hletter⟩ := h
    simp only [exec, HasLetter]
    obtain hsame | ⟨id', failureClass, errorMessage, hupdate⟩ |
      ⟨failureClass, errorMessage, hinsert⟩ := createDeadLetterSafely_cases db args
    · rw [hsame]
      exact ⟨letter, hmem, hletter⟩
    · have hrows := Table.update_rows db.deadLetters id' (fun _ => true)
        (refreshedDeadLetter args failureClass errorMessage) (fun _ => rfl)
      rw [hupdate, hrows]
      refine ⟨_, List.mem_map_of_mem hmem, ?_⟩
      split
      · exact hletter
      · exact hletter
    · rw [hinsert, Table.insert_rows]
      exact ⟨letter, List.mem_append_left _ hmem, hletter⟩
  · have hsame := (exec_frame w q db).deadLetters fun args ha => hq ⟨args, ha⟩
    unfold HasLetter
    rw [hsame]
    exact h

/-! ## Failures -/

theorem latestFailed_of_hasFailure {log : List LogEntry} (h : hasFailure log = true) :
    ∃ entry, latestFailedStepEntry log = some entry := by
  rw [← Option.isSome_iff_exists, latestFailedStepEntry, List.find?_isSome]
  obtain ⟨entry, hentry, hstatus⟩ := List.any_eq_true.mp h
  exact ⟨entry, List.mem_reverse.mpr hentry, hstatus⟩

/-- The executor's loop counts itself failed, and its failing terminal writes are made, only with a
    failed entry in the log. -/
def FailureLogged : Phase → Prop
  | .working _ _ _ _ st => st.failed = true → hasFailure st.stepsLog = true
  | .missed .failed _ log _ | .unowned .failed _ log _ => hasFailure log = true
  | _ => True

theorem ends_logged {g : Phase} {id : Nat} {log : List LogEntry} {lastStep : Option Int}
    (hg : FailureLogged g) (h : Ends g .failed id log lastStep) : hasFailure log = true := by
  cases h with
  | failed hfailed => exact hg hfailed
  | undefinedPlaybook hnote | undefinedResume hnote | noGate _ hnote | noRequest hnote =>
    simp [hnote.status_eq]

/-- Any run. -/
abbrev ok : Pool → Event → Prop := fun _ _ => True

theorem failureLogged_step {a : Actor} {g g' : Phase} {q : Stmt} {r : Reply q}
    (hmove : Move py a g q r g') (hg : FailureLogged g) : FailureLogged g' := by
  cases hmove with
  | neutral | beat | release | begin => exact hg
  | @resume _ _ _ _ known =>
    cases known with
    | none => trivial
    | some steps => exact fun h => by cases h
  | define => exact fun h => by cases h
  | @save _ _ _ _ _ st _ _ _ _ _ hsaves =>
    cases hsaves with
    | @step _ entry next now hat hentry hstatus hnext =>
      intro hfailed
      rw [hasFailure_append, hg hfailed]
      rfl
  | @miss _ _ final _ _ _ _ _ hends =>
    cases final with
    | failed => exact ends_logged hg hends
    | success | notActioned => trivial
  | @recheck _ final =>
    cases final with
    | failed => exact hg
    | success | notActioned => trivial
  | @tell _ final => cases final <;> trivial
  | _ => trivial

variable (py) in
/-- In every run the executor's failures are logged. -/
def failureDiscipline : Discipline (refinement py) ok where
  Global _ := True
  Local _ _ g := FailureLogged g
  between _ _ _ := trivial
  slide _ _ _ _ _ hg hsilent := by
    cases hsilent with
    | ended | unrecorded => trivial
    | succeededBefore | skippedBefore => exact hg
    | stepFailed _ _ _ hstatus => exact fun _ => by simp [hstatus]
    | @unlinked final => cases final <;> trivial
  step _ _ a _ _ _ hat _ _ hall :=
    ⟨trivial, failureLogged_step hat.step (hall a), fun b _ => hall b⟩

/-! ## Runs -/

/-- A statement that makes an execution failed, whether it is stale recovery that gives the execution
    up, and the execution as it is afterwards. -/
inductive Failing (world : World) (db : Db) : Stmt → Bool → Execution → Prop
  | executor {id log lastStep now owner row}
      (h : (exec world (.setFinal .failed id log lastStep now owner) db).1 = some row) :
      Failing world db (.setFinal .failed id log lastStep now owner) false row
  | recovery {id now row} (h : (exec world (.markStale id now) db).1 = some row)
      (hstatus : row.status = .failed) : Failing world db (.markStale id now) true row

/-- The failure that an actor is about to write, if any. -/
def failing? (pool : Pool) (a : Actor) (world : World) : Option (Bool × Execution) :=
  match pool.next a with
  | some (.setFinal .failed id log lastStep now owner) =>
    (exec world (.setFinal .failed id log lastStep now owner) pool.shared).1.map fun row =>
      (false, row)
  | some (.markStale id now) =>
    ((exec world (.markStale id now) pool.shared).1.filter fun row => row.status = .failed).map
      fun row => (true, row)
  | _ => none

theorem failing?_eq_some {pool : Pool} {a : Actor} {world : World} {givenUp : Bool}
    {row : Execution} (h : failing? pool a world = some (givenUp, row)) :
    ∃ q, pool.next a = some q ∧ Failing world pool.shared q givenUp row := by
  unfold failing? at h
  split at h
  · next hnext =>
    obtain ⟨row', hreply, heq⟩ := Option.map_eq_some_iff.mp h
    cases heq
    exact ⟨_, hnext, .executor hreply⟩
  · next hnext =>
    obtain ⟨row', hfilter, heq⟩ := Option.map_eq_some_iff.mp h
    cases heq
    obtain ⟨hreply, hstatus⟩ := Option.filter_eq_some_iff.mp hfilter
    exact ⟨_, hnext, .recovery hreply (of_decide_eq_true hstatus)⟩
  · cases h

/-- Something can be captured of the failure: stale recovery needs a failed entry in the log, and
    the latest one must be storable. -/
def Capturable (py : Python) : Bool → Execution → Prop
  | true, row =>
    ∃ entry, latestFailedStepEntry row.stepsLog = some entry ∧ Storable py row entry
  | false, row => ∀ entry, latestFailedStepEntry row.stepsLog = some entry → Storable py row entry

/-- The actor made the execution failed, and its dead letter is still to be created. -/
def OwesLetter (py : Python) (id : Nat) (g : Phase) : Prop :=
  ∃ row log entry, (g = .concluded .failed row log ∨ g = .due row log) ∧ row.id = id ∧
    latestFailedStepEntry log = some entry ∧ Storable py row entry

/-- The statements left of a failure: its event, and its dead letter. -/
def LeftOfFailure (id : Nat) (q : Stmt) : Prop :=
  (∃ row d, q = .appendOutcome ((finalEvent row.id .failed).outcome row d) ∧ row.id = id) ∨
    ∃ args, q = .createDeadLetter args ∧ args.executionId = id

/-- An actor that made an execution failed creates its dead letter next, after the event. -/
def letterObligation (id : Nat) (a : Actor) : Obligation (failureDiscipline py) a where
  Done db := HasLetter db id
  Owes _ := OwesLetter py id
  Due := LeftOfFailure id
  between _ := by
    rintro ⟨row, log, entry, hphase | hphase, -⟩ <;> cases hphase
  slide db g g' howes hsilent := by
    obtain ⟨row, log, entry, rfl | rfl, hid, hlatest, hstorable⟩ := howes
    · cases hsilent with
      | ended hquiet => cases hquiet
      | unlinked => exact .inr ⟨row, log, entry, .inr rfl, hid, hlatest, hstorable⟩
    · cases hsilent with
      | ended hquiet => cases hquiet
      | unrecorded hnone => cases hlatest.symm.trans hnone
  keeps _ _ _ := exec_hasLetter
  frame _ _ _ _ _ howes := howes
  step w q db g g' _ howes hstep := by
    obtain ⟨row, log, entry, rfl | rfl, rfl, hlatest, hstorable⟩ := howes
    · cases hstep with
      | neutral _ hquiet => cases hquiet
      | beat hquiet => cases hquiet
      | release hquiet => cases hquiet
      | conclude hends => cases hends
      | miss hends => cases hends
      | tell =>
        exact ⟨.inl ⟨row, _, rfl, rfl⟩, .inr ⟨row, log, entry, .inr rfl, rfl, hlatest, hstorable⟩⟩
    · cases hstep with
      | neutral _ hquiet => cases hquiet
      | beat hquiet => cases hquiet
      | release hquiet => cases hquiet
      | conclude hends => cases hends
      | miss hends => cases hends
      | @capture _ _ _ entry' now _ hentry =>
        obtain rfl : entry = entry' := Option.some.inj (hlatest.symm.trans hentry)
        have hlands : HasLetter (exec w (.createDeadLetter (deadLetterArgs py row entry now)) db).2
            row.id := capture_lands hstorable
        exact ⟨.inr ⟨deadLetterArgs py row entry now, rfl, rfl⟩, .inl hlands⟩

section Runs

variable {db : Db} {before after : List Event} {a : Actor} {world : World} {q : Stmt}
  {givenUp : Bool} {row : Execution}

/-- What an actor owes once it made an execution failed. -/
theorem owes_of_move {g g' : Phase} (hmove : Move py a g q (exec world q db).1 g')
    (hlogged : FailureLogged g) (hfailing : Failing world db q givenUp row)
    (hcapturable : Capturable py givenUp row) : OwesLetter py row.id g' := by
  cases hfailing with
  | @executor id log lastStep now owner _ h =>
    have hlog : row.stepsLog = log := by
      obtain ⟨row₀, -, hstep, -⟩ :=
        exec_changedRow (.setFinal .failed id log lastStep now owner) h
      cases hstep with
      | finalized _ _ _ hrow' => rw [hrow']
    rw [h] at hmove
    have howes (hfailed : hasFailure log = true) :
        OwesLetter py row.id (.concluded .failed row log) := by
      obtain ⟨entry, hentry⟩ := latestFailed_of_hasFailure hfailed
      exact ⟨row, log, entry, .inl rfl, rfl, hentry, hcapturable entry (hlog ▸ hentry)⟩
    cases hmove with
    | neutral hneutral => cases hneutral
    | operator hoperator => cases hoperator
    | refused hrefused => cases hrefused
    | conclude hends hr =>
      cases hr
      exact howes (ends_logged hlogged hends)
    | concludeUnowned hr =>
      cases hr
      exact howes hlogged
    | miss _ hr | unconcluded hr => cases hr
  | @recovery id now _ h hstatus =>
    rw [h] at hmove
    obtain ⟨entry, hentry, hstorable⟩ := hcapturable
    cases hmove with
    | neutral hneutral => cases hneutral
    | operator hoperator => cases hoperator
    | refused hrefused =>
      cases hrefused with
      | markStale hr => cases hr
    | requeued hr hnot =>
      cases hr
      exact absurd hstatus hnot
    | exhausted hr =>
      cases hr
      exact ⟨row, row.stepsLog, entry, .inr rfl, rfl, hentry, hstorable⟩

/-- **Failures leave a dead letter.**  Wherever the executor or stale recovery makes an execution
    failed, and either it has an active dead letter already or something of the failure can be
    captured, it has one once the actor is past what is left of the failure. -/
theorem failure_captured
    (hfailing : failing? ((system py).run (.idle db) before) a world = some (givenUp, row))
    (hcaptured : HasLetter ((system py).run (.idle db) before).shared row.id ∨
      Capturable py givenUp row)
    (halive : .crash a ∉ after)
    (hpast : ∀ q, ((system py).run (.idle db) (before ++ .step a world :: after)).next a = some q →
      ¬ LeftOfFailure row.id q) :
    HasLetter ((system py).run (.idle db) (before ++ .step a world :: after)).shared row.id := by
  let O : Obligation (failureDiscipline py) a := letterObligation row.id a
  obtain ⟨q, hnext, hfailing⟩ := failing?_eq_some hfailing
  have hany (pool : Pool) (events : List Event) : (system py).Along ok pool events :=
    System.along_of_forall fun _ _ => trivial
  have hbefore : (failureDiscipline py).Holds ((system py).run (.idle db) before) :=
    Discipline.holds_run (Discipline.holds_of_idle trivial) (hany _ _)
  have harises : O.Done ((system py).apply ((system py).run (.idle db) before)
      (.step a world)).shared ∨
      O.Pending ((system py).apply ((system py).run (.idle db) before) (.step a world)) := by
    rcases hcaptured with hletter | hcapturable
    · exact .inl (O.done_apply hletter (.step a world))
    · exact O.arises hbefore world hnext trivial fun phase g' hat _ hlogged =>
        owes_of_move hat.step hlogged hfailing hcapturable
  have hsettled := O.settles harises (hany _ after) halive world fun q' hq' =>
    hpast q' (by rw [System.run_append]; exact hq')
  rw [System.run_append]
  exact hsettled

end Runs

/-! ## Concrete runs -/

/-- An interpreter that renders texts as they are. -/
def literalPython : Python := ⟨fun value => value.str?.getD "", fun _ => "", fun _ _ => .ok none⟩

/-- The playbook whose only step triggers a playbook that does not exist. -/
abbrev lostPlaybook : Db := .ofPlaybook "p" [lostTrigger]

/-- The step fails, and the execution leaves a dead letter. -/
theorem failure_captured_trigger :
    HasLetter ((system literalPython).run (.idle lostPlaybook)
      (firstPass 5 ++ .step (.worker workerA) (.at 0) :: turns (.worker workerA) 2 (.at 0))).shared
      1 := by
  have hfound : (failing? ((system literalPython).run (.idle lostPlaybook) (firstPass 5))
      (.worker workerA) (.at 0)).map (fun answer => (answer.1, answer.2.id,
        (latestFailedStepEntry answer.2.stepsLog).map fun entry =>
          (decide (strip (literalPython.str (deadLetterMessage answer.2 entry)) = ""),
            decide (((optionalText entry.action.str?).getD "").length ≤ 128)))) =
      some (false, 1, some (false, true)) := by decide +kernel
  obtain ⟨⟨givenUp, row⟩, hfailing, heq⟩ := Option.map_eq_some_iff.mp hfound
  obtain ⟨rfl, hid, hentry⟩ : givenUp = false ∧ row.id = 1 ∧
      (latestFailedStepEntry row.stepsLog).map (fun entry =>
          (decide (strip (literalPython.str (deadLetterMessage row entry)) = ""),
            decide (((optionalText entry.action.str?).getD "").length ≤ 128))) =
        some (false, true) := by
    simpa only [Prod.mk.injEq] using heq
  have hidle : (((system literalPython).run (.idle lostPlaybook)
      (firstPass 5 ++ .step (.worker workerA) (.at 0) :: turns (.worker workerA) 2 (.at 0))).next
      (.worker workerA)).isNone = true := by decide +kernel
  rw [← hid]
  refine failure_captured hfailing (.inr fun entry hlatest => ?_) (by simp [turns]) ?_
  · rw [hlatest] at hentry
    simp only [Option.map_some, Option.some.injEq, Prod.mk.injEq, decide_eq_false_iff_not,
      decide_eq_true_eq] at hentry
    exact hentry
  · intro q hq
    rw [hq] at hidle
    cases hidle

/-- A worker claims the execution and dies, and stale recovery passes once its lease has run out. -/
def diedOnce : List Event :=
  task (.worker workerA) (.processNextPending 0 oneMinute) 1 (.at 0) ++ [.crash (.worker workerA)] ++
    task (.operator 0) (.recoverStale 5 (seconds 100)) 3 (.at (seconds 100))

/-- An execution is created, and four workers die before its first step. -/
def diedFourTimes : List Event :=
  task (.operator 0) (.createForAlert "p" 7 none) 2 (.at 0) ++
    (diedOnce ++ diedOnce ++ diedOnce ++ diedOnce)

/-- The status of the first execution and the length of its log after a run. -/
def givenUpEnd (events : List Event) : Option (ExecutionStatus × Nat) :=
  (((system literalPython).run (.idle lostPlaybook) events).shared.execution? 1).map fun row =>
    (row.status, row.stepsLog.length)

/-- Stale recovery gives the execution up with an empty log, and no dead letter tells of it. -/
theorem recovery_uncaptured :
    givenUpEnd diedFourTimes = some (.failed, 0) ∧
    (((system literalPython).run (.idle lostPlaybook) diedFourTimes).proc
      (.operator 0)).isNone = true ∧
    ¬ HasLetter ((system literalPython).run (.idle lostPlaybook) diedFourTimes).shared 1 := by
  have hnone : (activeDeadLetter? ((system literalPython).run (.idle lostPlaybook)
      diedFourTimes).shared playbookSource 1).isSome = false := by decide +kernel
  refine ⟨by decide +kernel, by decide +kernel, ?_⟩
  rw [hasLetter_iff, hnone]
  exact Bool.false_ne_true

end SiemDashboard.DeadLetterCapture
