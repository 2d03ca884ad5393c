import SiemDashboard.Engines.PassRefinement

/-!
# Outcome trail

Whether the end of an execution reaches the trail of its decision.  A finalizer appends the event of
the terminal state inside a savepoint that drops every refusal, and the checks of the trail know no
state for an execution that was not acted on.

* **The trail** — `Grows`, `exec_grows`, `appendedSince`: it only grows, by events in legal states
  under keys of their own.
* **Terminal events** — `terminalKey`, `Records`, `finalEvent_accepted`, `notActioned_refused`.
* **Runs** — `trailDiscipline`, `terminalObligation`, `landing?`, `recorded_iff`.
* **An end that is not recorded** — `denial_unrecorded`.
-/

namespace SiemDashboard.OutcomeTrail

open Atomic Python PlaybookStore StepExecutor ResponseOutcomes Tables

variable {py : Python}

/-! ## The trail -/

/-- The trail grew, by events in legal states whose keys were free. -/
structure Grows (before after : List OutcomeEvent) : Prop where
  exists_added : ∃ added, after = before ++ added ∧
    (∀ event ∈ added, event.executionState ∈ executionStates) ∧
    ∀ event ∈ added, ∀ old ∈ before, event.idempotencyKey ≠ old.idempotencyKey

theorem Grows.refl (trail : List OutcomeEvent) : Grows trail trail :=
  ⟨[], by simp, by simp, by simp⟩

theorem Grows.trans {t₁ t₂ t₃ : List OutcomeEvent} (h : Grows t₁ t₂) (h' : Grows t₂ t₃) :
    Grows t₁ t₃ := by
  obtain ⟨added, rfl, hlegal, hfree⟩ := h.exists_added
  obtain ⟨added', rfl, hlegal', hfree'⟩ := h'.exists_added
  refine ⟨added ++ added', List.append_assoc .., ?_, ?_⟩
  · intro event hevent
    rcases List.mem_append.mp hevent with hevent | hevent
    · exact hlegal event hevent
    · exact hlegal' event hevent
  · intro event hevent old hold
    rcases List.mem_append.mp hevent with hevent | hevent
    · exact hfree event hevent old hold
    · exact hfree' event hevent old (List.mem_append_left _ hold)

/-- The checks let only legal states through. -/
theorem validateOutcomeArgs_state {args : OutcomeArgs} {mode state actor : String}
    {reason : Option String}
    (h : validateOutcomeArgs args = .ok (mode, state, actor, reason)) :
    state = strip args.executionState ∧ strip args.executionState ∈ executionStates := by
  unfold validateOutcomeArgs at h
  split at h
  · cases h
  · obtain ⟨mode', hmode, h⟩ := Checks.bind_eq_ok.mp h
    obtain ⟨state', hstate, h⟩ := Checks.bind_eq_ok.mp h
    obtain ⟨actor', hactor, h⟩ := Checks.bind_eq_ok.mp h
    obtain ⟨reason', hreason, h⟩ := Checks.bind_eq_ok.mp h
    obtain ⟨-, -, h⟩ := Checks.bind_eq_ok.mp h
    cases h
    unfold validateExecutionState validateMember at hstate
    split at hstate
    · next hmem =>
      cases hstate
      exact ⟨rfl, List.contains_iff_mem.mp hmem⟩
    · cases hstate

/-- A statement only appends to the trail. -/
theorem exec_grows (w : World) (q : Stmt) (db : Db) :
    Grows db.outcomes (exec w q db).2.outcomes := by
  by_cases hq : ∃ args, q = .appendOutcome args
  · obtain ⟨args, rfl⟩ := hq
    simp only [exec, appendOutcomeSafely]
    obtain ⟨_, h⟩ | ⟨_, -, h⟩ | ⟨mode, state, actor, reason, decision, hvalid, hkey, h⟩ :=
      appendOutcomeEvent_cases db args <;> rw [h]
    · exact .refl _
    · exact .refl _
    · obtain ⟨rfl, hlegal⟩ := validateOutcomeArgs_state hvalid
      refine ⟨_, rfl, ?_, ?_⟩
      · intro event hevent
        rw [List.mem_singleton.mp hevent]
        exact hlegal
      · intro event hevent old hold hsame
        rw [List.mem_singleton.mp hevent] at hsame
        have hfound := List.find?_eq_none.mp hkey old hold
        simp only [decide_eq_true_eq] at hfound
        exact hfound hsame.symm
  · have hsame := (exec_frame w q db).outcomes fun args ha => hq ⟨args, ha⟩
    rw [hsame]
    exact .refl _

/-- Every run only appends to the trail. -/
theorem run_grows (pool : Pool) (events : List Event) :
    Grows pool.shared.outcomes ((system py).run pool events).shared.outcomes := by
  have hsteps : (system py).EachStep (fun pool _ w q =>
      Grows pool.shared.outcomes (exec w q pool.shared).2.outcomes) pool events := by
    refine System.along_of_forall ?_
    intro pool e
    cases e with
    | step a w => exact fun q _ => exec_grows w q pool.shared
    | start | crash => trivial
  exact hsteps.preorder (fun db db' : Db => Grows db.outcomes db'.outcomes) (fun _ => .refl _)
    fun _ _ _ => .trans

/-- The events that a trail has and an earlier one had not. -/
def appendedSince (before after : List OutcomeEvent) : List OutcomeEvent :=
  after.drop before.length

/-- The events appended since are legal, and their keys were free. -/
theorem Grows.appended {before after : List OutcomeEvent} (h : Grows before after)
    {event : OutcomeEvent} (hevent : event ∈ appendedSince before after) :
    event.executionState ∈ executionStates ∧
      ∀ old ∈ before, event.idempotencyKey ≠ old.idempotencyKey := by
  obtain ⟨added, rfl, hlegal, hfree⟩ := h.exists_added
  have hadded : event ∈ added := by simpa [appendedSince] using hevent
  exact ⟨hlegal event hadded, hfree event hadded⟩

/-- An event that the earlier trail had not was appended since. -/
theorem Grows.mem_appended {before after : List OutcomeEvent} (h : Grows before after)
    {event : OutcomeEvent} (hevent : event ∈ after) (hnew : event ∉ before) :
    event ∈ appendedSince before after := by
  obtain ⟨added, rfl, -, -⟩ := h.exists_added
  have hadded := (List.mem_append.mp hevent).resolve_left hnew
  simpa [appendedSince] using hadded

/-! ## Terminal events -/

/-- The idempotency key of the event of a terminal state. -/
def terminalKey (final : FinalStatus) (id : Nat) : OutcomeKey := (finalEvent id final).idempotencyKey

theorem terminalKey_eq (final : FinalStatus) (id : Nat) :
    ∃ label, terminalKey final id = .terminal label id := by
  cases final <;> exact ⟨_, rfl⟩

theorem terminalKey_injective {final final' : FinalStatus} {id id' : Nat}
    (h : terminalKey final id = terminalKey final' id') : final = final' ∧ id = id' := by
  cases final <;> cases final' <;>
    simp [terminalKey, finalEvent, terminalEvent, playbookTerminalIdempotencyLabel] at h ⊢ <;>
    exact h

/-- The event says that the execution ended in this state. -/
structure Records (final : FinalStatus) (id : Nat) (event : OutcomeEvent) : Prop where
  idempotencyKey : event.idempotencyKey = terminalKey final id
  eventType : event.eventType = (finalEvent id final).eventType
  executionState : event.executionState = (finalEvent id final).executionState
  playbookExecutionId : event.playbookExecutionId = some id

/-- What is stored for a terminal event records the terminal state. -/
theorem records_outcomeRow {final : FinalStatus} {row : Execution} {d : Nat}
    {mode state actor : String} {reason : Option String} {decision : Decision}
    (h : validateOutcomeArgs ((finalEvent row.id final).outcome row d) =
      .ok (mode, state, actor, reason)) :
    Records final row.id
      (outcomeRow ((finalEvent row.id final).outcome row d) mode state actor reason decision) := by
  obtain ⟨rfl, -⟩ := validateOutcomeArgs_state h
  refine ⟨rfl, ?_, ?_, rfl⟩
  · have hstrip : ∀ text ∈ ["succeeded", "failed", "not_actioned"], strip text = text := by
      decide +kernel
    cases final <;> exact hstrip _ (by simp [EventArgs.outcome, finalEvent, terminalEvent])
  · have hstrip : ∀ text ∈ ["succeeded", "failed", "not_actioned"], strip text = text := by
      decide +kernel
    cases final <;> exact hstrip _ (by simp [EventArgs.outcome, finalEvent, terminalEvent])

/-- The state of an execution that was not acted on is no legal one. -/
theorem Records.not_legal {id : Nat} {event : OutcomeEvent} (h : Records .notActioned id event) :
    event.executionState ∉ executionStates := by
  rw [h.executionState]
  have hillegal : "not_actioned" ∉ executionStates := by decide
  exact hillegal

/-- The terminal events of success and failure pass the checks. -/
theorem finalEvent_accepted {final : FinalStatus} (hfinal : final ≠ .notActioned) (row : Execution)
    (d : Nat) : ∃ mode state actor reason,
      validateOutcomeArgs ((finalEvent row.id final).outcome row d) =
        .ok (mode, state, actor, reason) := by
  have hstrip : ∀ text ∈ ["internal", "succeeded", "failed", "playbook_worker"],
      strip text = text := by decide +kernel
  have hsummary : strip "Playbook execution completed successfully." ≠ "" ∧
      strip "Playbook execution failed." ≠ "" := by decide +kernel
  have hmode := hstrip "internal" (by decide)
  have hactor := hstrip "playbook_worker" (by decide)
  cases final with
  | notActioned => exact absurd rfl hfinal
  | success =>
    have hstate := hstrip "succeeded" (by decide)
    refine ⟨"internal", "succeeded", "playbook_worker", none, ?_⟩
    simp [validateOutcomeArgs, EventArgs.outcome, finalEvent, terminalEvent, hsummary.1,
      validateExecutionMode, validateExecutionState, validateExecutionActor, validateReasonCode,
      validateMember, hmode, hstate, hactor, executionModes, executionStates, executionActors,
      validateOutcomeBooleans]
    rfl
  | failed =>
    have hstate := hstrip "failed" (by decide)
    refine ⟨"internal", "failed", "playbook_worker", none, ?_⟩
    simp [validateOutcomeArgs, EventArgs.outcome, finalEvent, terminalEvent, hsummary.2,
      validateExecutionMode, validateExecutionState, validateExecutionActor, validateReasonCode,
      validateMember, hmode, hstate, hactor, executionModes, executionStates, executionActors,
      validateOutcomeBooleans]
    rfl

/-! ## Runs -/

/-- An actor appends a terminal event only as the end of an execution. -/
theorem append_cases {a : Actor} {g g' : Phase} {args : OutcomeArgs}
    {r : Reply (.appendOutcome args)} (h : Move py a g (.appendOutcome args) r g') :
    (∀ label id, args.idempotencyKey ≠ .terminal label id) ∨
      ∃ final row d, args = (finalEvent row.id final).outcome row d := by
  cases h with
  | neutral hneutral =>
    cases hneutral with
    | appendOutcome hkey => exact .inl hkey
  | operator hoperator => cases hoperator
  | refused hrefused => cases hrefused
  | @tell _ final row _ d => exact .inr ⟨final, row, d, rfl⟩

/-- Every event appended under a terminal key since the start records that terminal state. -/
def Faithful (initial : List OutcomeEvent) (db : Db) : Prop :=
  ∀ event ∈ appendedSince initial db.outcomes, ∀ final id,
    event.idempotencyKey = terminalKey final id → Records final id event

/-- Any run. -/
abbrev ok : Pool → Event → Prop := fun _ _ => True

/-- What is appended keeps the trail faithful. -/
theorem faithful_exec {initial : List OutcomeEvent} {a : Actor} {g g' : Phase} {w : World}
    {q : Stmt} {db : Db} (hmove : Move py a g q (exec w q db).1 g')
    (hgrows : Grows initial db.outcomes) (h : Faithful initial db) :
    Faithful initial (exec w q db).2 := by
  by_cases hq : ∃ args, q = .appendOutcome args
  · obtain ⟨args, rfl⟩ := hq
    have hcases := append_cases hmove
    simp only [exec]
    obtain hsame | ⟨mode, state, actor, reason, decision, hvalid, hadded⟩ :=
      appendOutcomeSafely_cases db args
    · rw [hsame]
      exact h
    · rw [hadded]
      intro event hevent final id hkey
      obtain ⟨added, hinitial, -, -⟩ := hgrows.exists_added
      have hlater : event ∈ added ∨
          event = outcomeRow args mode state actor reason decision := by
        simpa [appendedSince, hinitial] using hevent
      rcases hlater with hlater | rfl
      · exact h event (by simpa [appendedSince, hinitial] using hlater) final id hkey
      · rcases hcases with hother | ⟨final', row, d, rfl⟩
        · obtain ⟨label, hlabel⟩ := terminalKey_eq final id
          exact absurd (hkey.trans hlabel) (hother label id)
        · have hrecords : Records final' row.id (outcomeRow ((finalEvent row.id final').outcome row d)
              mode state actor reason decision) := records_outcomeRow hvalid
          obtain ⟨rfl, rfl⟩ := terminalKey_injective (hrecords.idempotencyKey.symm.trans hkey)
          exact hrecords
  · have hsame := (exec_frame w q db).outcomes fun args ha => hq ⟨args, ha⟩
    unfold Faithful
    rw [hsame]
    exact h

variable (py) in
/-- The trail grows and stays faithful in every run. -/
def trailDiscipline (initial : List OutcomeEvent) : Discipline (refinement py) ok where
  Global db := Grows initial db.outcomes ∧ Faithful initial db
  Local _ _ _ := True
  between _ _ _ := trivial
  slide _ _ _ _ _ _ _ := trivial
  step pool _ _ w q _ hat _ hglobal _ :=
    ⟨⟨hglobal.1.trans (exec_grows w q pool.shared), faithful_exec hat.step hglobal.1 hglobal.2⟩,
      trivial, fun _ _ => trivial⟩

/-- The worker's terminal write of the execution landed, and its event is still to be appended. -/
def OwesEvent (final : FinalStatus) (id : Nat) (db : Db) (g : Phase) : Prop :=
  ∃ row log d decision, g = .concluded final row log ∧ row.id = id ∧
    linkedDecision? row = some d ∧ db.decisions.row? d = some decision

/-- An event that passes the checks is in the trail afterwards, under a decision that exists. -/
theorem append_lands {args : OutcomeArgs} {mode state actor : String} {reason : Option String}
    {decision : Decision} {w : World} {db : Db}
    (hvalid : validateOutcomeArgs args = .ok (mode, state, actor, reason))
    (htype : strip args.eventType ≠ "") (hdecision : db.decisions.row? args.decisionId = some decision) :
    ∃ event ∈ ((system py).exec w (.appendOutcome args) db).2.outcomes,
      event.idempotencyKey = args.idempotencyKey := by
  show ∃ event ∈ (appendOutcomeSafely db args).2.outcomes, event.idempotencyKey = args.idempotencyKey
  unfold appendOutcomeSafely appendOutcomeEvent
  simp only [hvalid, hdecision, if_neg htype]
  cases hkey : outcomeByKey? db args.idempotencyKey with
  | some event =>
    refine ⟨event, List.mem_of_find?_eq_some hkey, ?_⟩
    simpa using List.find?_some hkey
  | none => exact ⟨outcomeRow args mode state actor reason decision, by simp, rfl⟩

/-- A worker that ended an execution in success or failure appends the event of it next. -/
def terminalObligation {initial : List OutcomeEvent} {final : FinalStatus}
    (hfinal : final ≠ .notActioned) (id : Nat) (w : WorkerId) :
    Obligation (trailDiscipline py initial) (.worker w) where
  Done db := ∃ event ∈ db.outcomes, event.idempotencyKey = terminalKey final id
  Owes := OwesEvent final id
  Due q := ∃ args, q = .appendOutcome args ∧ args.idempotencyKey = terminalKey final id
  between db := by
    rintro ⟨row, log, d, decision, hphase, -⟩
    cases hphase
  slide db g g' howes hsilent := by
    obtain ⟨row, log, d, decision, rfl, -, hlinked, -⟩ := howes
    cases hsilent with
    | ended hquiet => cases hquiet
    | unlinked hnone => cases hlinked.symm.trans hnone
  keeps w q db := by
    rintro ⟨event, hevent, hkey⟩
    obtain ⟨added, hadded⟩ := exec_outcomes w q db
    refine ⟨event, ?_, hkey⟩
    have hafter : event ∈ (exec w q db).2.outcomes := by
      rw [hadded]
      exact List.mem_append_left _ hevent
    exact hafter
  frame w q db g _ := by
    rintro ⟨row, log, d, decision, hphase, hid, hlinked, hdecision⟩
    exact ⟨row, log, d, decision, hphase, hid, hlinked, exec_decision hdecision⟩
  step w q db g g' _ howes hstep := by
    obtain ⟨row, log, d, decision, rfl, rfl, hlinked, hdecision⟩ := howes
    cases hstep with
    | neutral _ hquiet => cases hquiet
    | beat hquiet => cases hquiet
    | release hquiet => cases hquiet
    | conclude hends => cases hends
    | miss hends => cases hends
    | tell hlinked' =>
      cases hlinked.symm.trans hlinked'
      refine ⟨⟨_, rfl, rfl⟩, .inl ?_⟩
      obtain ⟨mode, state, actor, reason, hvalid⟩ := finalEvent_accepted hfinal row d
      have htype : strip ((finalEvent row.id final).outcome row d).eventType ≠ "" := by
        have hstrip : ∀ text ∈ ["succeeded", "failed"], strip text ≠ "" := by decide +kernel
        cases final with
        | notActioned => exact absurd rfl hfinal
        | success | failed =>
          exact hstrip _ (by simp [EventArgs.outcome, finalEvent, terminalEvent])
      exact append_lands hvalid htype hdecision

section Runs

/-- The terminal write that a worker is about to issue: the status it sets, and the execution as it
    is afterwards, where a row matches. -/
def landing? (pool : Pool) (w : WorkerId) (world : World) : Option (FinalStatus × Execution) :=
  match pool.next (.worker w) with
  | some (.setFinal final id log lastStep now owner) =>
    (exec world (.setFinal final id log lastStep now owner) pool.shared).1.map fun row => (final, row)
  | _ => none

variable {pool : Pool} {db : Db} {before after : List Event} {w : WorkerId} {world : World}
  {final : FinalStatus} {d : Nat} {row : Execution} {decision : Decision}

theorem landing?_eq_some (h : landing? pool w world = some (final, row)) :
    ∃ log lastStep now owner,
      pool.next (.worker w) = some (.setFinal final row.id log lastStep now owner) ∧
      (exec world (.setFinal final row.id log lastStep now owner) pool.shared).1 = some row := by
  unfold landing? at h
  split at h
  · next final' id log lastStep now owner hnext =>
    obtain ⟨row', hreply, heq⟩ := Option.map_eq_some_iff.mp h
    cases heq
    obtain ⟨row₀, -, hstep, -⟩ := exec_changedRow (.setFinal final id log lastStep now owner) hreply
    cases hstep with
    | finalized hid _ _ hrow' =>
      obtain rfl : row.id = id := by
        rw [hrow']
        exact hid
      exact ⟨log, lastStep, now, owner, hnext, hreply⟩
  · cases h

/-- The tables after a run from idle actors. -/
abbrev tablesAfter (py : Python) (db : Db) (events : List Event) : Db :=
  ((system py).run (.idle db) events).shared

/-- The worker is not about to append the event of the terminal state. -/
def PastEvent (pool : Pool) (w : WorkerId) (final : FinalStatus) (id : Nat) : Prop :=
  ∀ args, pool.next (.worker w) = some (.appendOutcome args) →
    args.idempotencyKey ≠ terminalKey final id

/-- What a worker owes once its terminal write lands. -/
theorem owes_of_move {g g' : Phase} {log : List LogEntry} {lastStep : Option Int} {now : Int}
    {owner : Option WorkerId}
    (h : Move py (.worker w) g (.setFinal final row.id log lastStep now owner) (some row) g')
    (hlinked : linkedDecision? row = some d) (hdecision : db.decisions.row? d = some decision) :
    OwesEvent final row.id db g' := by
  cases h with
  | neutral hneutral => cases hneutral
  | operator hoperator => cases hoperator
  | refused hrefused => cases hrefused
  | conclude _ hr | concludeUnowned hr =>
    cases hr
    exact ⟨row, log, d, decision, rfl, rfl, hlinked, hdecision⟩
  | miss _ hr | unconcluded hr => cases hr

/-- A success or failure is in the trail once its worker is past the event. -/
theorem recorded_of_settled (hfinal : final ≠ .notActioned)
    (hlands : landing? ((system py).run (.idle db) before) w world = some (final, row))
    (hlinked : linkedDecision? row = some d)
    (hdecision : (tablesAfter py db before).decisions.row? d = some decision)
    (halive : .crash (.worker w) ∉ after)
    (hpast : PastEvent ((system py).run (.idle db) (before ++ .step (.worker w) world :: after)) w
      final row.id) :
    ∃ event ∈ (tablesAfter py db (before ++ .step (.worker w) world :: after)).outcomes,
      event.idempotencyKey = terminalKey final row.id := by
  let D := trailDiscipline py db.outcomes
  let O : Obligation D (.worker w) := terminalObligation hfinal row.id w
  obtain ⟨log, lastStep, now, owner, hnext, hreply⟩ := landing?_eq_some hlands
  have hany (pool : Pool) (events : List Event) : (system py).Along ok pool events :=
    System.along_of_forall fun _ _ => trivial
  have hstart : D.Holds (.idle db) :=
    Discipline.holds_of_idle ⟨.refl _, by simp [Faithful, appendedSince]⟩
  have hbefore : D.Holds ((system py).run (.idle db) before) :=
    Discipline.holds_run hstart (hany _ _)
  have harises := O.arises hbefore world hnext trivial fun phase g' hat _ _ => by
    have hmove : Move py (.worker w) (phase (.worker w))
        (.setFinal final row.id log lastStep now owner) (some row) g' := hreply ▸ hat.step
    exact owes_of_move hmove hlinked (exec_decision hdecision)
  have hsettled := O.settles harises (hany _ after) halive world fun q hq => by
    rintro ⟨args, rfl, hkey⟩
    refine hpast args ?_ hkey
    rw [System.run_append]
    exact hq
  rw [tablesAfter, System.run_append]
  exact hsettled

/-- **The trail is complete.**  A worker's terminal write of an execution that is linked to a
    decision lands.  Once the worker is past the event, the trail has been given one that records the
    terminal state just when that state is success or failure and the trail held none before. -/
theorem recorded_iff
    (hlands : landing? ((system py).run (.idle db) before) w world = some (final, row))
    (hlinked : linkedDecision? row = some d)
    (hdecision : (tablesAfter py db before).decisions.row? d = some decision)
    (halive : .crash (.worker w) ∉ after)
    (hpast : PastEvent ((system py).run (.idle db) (before ++ .step (.worker w) world :: after)) w
      final row.id) :
    (∃ event ∈ appendedSince (tablesAfter py db before).outcomes
        (tablesAfter py db (before ++ .step (.worker w) world :: after)).outcomes,
      Records final row.id event) ↔
    final ≠ .notActioned ∧ ∀ event ∈ (tablesAfter py db before).outcomes,
      event.idempotencyKey ≠ terminalKey final row.id := by
  have hgrows : Grows (tablesAfter py db before).outcomes
      (tablesAfter py db (before ++ .step (.worker w) world :: after)).outcomes := by
    rw [tablesAfter, tablesAfter, System.run_append]
    exact run_grows _ _
  constructor
  · rintro ⟨event, hevent, hrecords⟩
    obtain ⟨hlegal, hfree⟩ := hgrows.appended hevent
    refine ⟨?_, fun old hold hkey => hfree old hold (hrecords.idempotencyKey.trans hkey.symm)⟩
    rintro rfl
    exact hrecords.not_legal hlegal
  · rintro ⟨hfinal, hfree⟩
    obtain ⟨event, hevent, hkey⟩ :=
      recorded_of_settled hfinal hlands hlinked hdecision halive hpast
    have hnew : event ∉ (tablesAfter py db before).outcomes := fun hold => hfree event hold hkey
    refine ⟨event, hgrows.mem_appended hevent hnew, ?_⟩
    -- the event is newer than the terminal write, so it is newer than the start
    have hstart : Grows db.outcomes (tablesAfter py db before).outcomes :=
      run_grows (.idle db) before
    have holder : event ∉ db.outcomes := by
      obtain ⟨added, hadded, -, -⟩ := hstart.exists_added
      intro hold
      refine hnew ?_
      rw [hadded]
      exact List.mem_append_left _ hold
    have hholds : (trailDiscipline py db.outcomes).Holds (.idle db) :=
      Discipline.holds_of_idle ⟨.refl _, by simp [Faithful, appendedSince]⟩
    have hany : (system py).Along ok (.idle db) (before ++ .step (.worker w) world :: after) :=
      System.along_of_forall fun _ _ => trivial
    obtain ⟨phase, hexplains⟩ := Discipline.holds_run hholds hany
    exact hexplains.global.2 event ((hstart.trans hgrows).mem_appended hevent holder) final row.id
      hkey

end Runs

/-! ## Concrete runs -/

/-- A world in which decisions can be created. -/
def linkedWorld : World := { World.at 0 with correlationId := some "soar-1" }

/-- An execution is created for an alert and linked to a decision, and a worker claims it and issues
    that many statements. -/
def linkedPass (n : Nat) : List Event :=
  task (.operator 0) (.createForAlert "p" 7 none) 3 linkedWorld ++
    task (.worker workerA) (.processNextPending 0 oneMinute) n linkedWorld

/-- The playbook `p` with these steps. -/
abbrev playbook (steps : List Json) : Db := .ofPlaybook "p" steps

/-- A playbook that only monitors. -/
abbrev monitorSteps : List Json := [.obj [("action", .str "monitor")]]

/-- The playbook succeeds, and the trail is given the event of its success. -/
theorem recorded_iff_monitor : ∃ row,
    landing? ((system mutePython).run (.idle (playbook monitorSteps)) (linkedPass 8)) workerA
      linkedWorld = some (.success, row) ∧
    ((∃ event ∈ appendedSince (tablesAfter mutePython (playbook monitorSteps) (linkedPass 8)).outcomes
        (tablesAfter mutePython (playbook monitorSteps)
          (linkedPass 8 ++ .step (.worker workerA) linkedWorld ::
            turns (.worker workerA) 2 linkedWorld)).outcomes,
      Records .success row.id event) ↔
    FinalStatus.success ≠ .notActioned ∧
      ∀ event ∈ (tablesAfter mutePython (playbook monitorSteps) (linkedPass 8)).outcomes,
        event.idempotencyKey ≠ terminalKey .success row.id) := by
  have hfound : (landing? ((system mutePython).run (.idle (playbook monitorSteps)) (linkedPass 8))
      workerA linkedWorld).map (fun answer => (answer.1, linkedDecision? answer.2)) =
      some (.success, some 1) := by decide +kernel
  obtain ⟨⟨final, row⟩, hlands, heq⟩ := Option.map_eq_some_iff.mp hfound
  cases final with
  | success =>
    have hlinked : linkedDecision? row = some 1 := congrArg Prod.snd heq
    have hdecision : ((tablesAfter mutePython (playbook monitorSteps)
        (linkedPass 8)).decisions.row? 1).isSome = true := by decide +kernel
    obtain ⟨decision, hdecision⟩ := Option.isSome_iff_exists.mp hdecision
    have hidle : (((system mutePython).run (.idle (playbook monitorSteps))
        (linkedPass 8 ++ .step (.worker workerA) linkedWorld ::
          turns (.worker workerA) 2 linkedWorld)).next (.worker workerA)).isNone = true := by
      decide +kernel
    refine ⟨row, hlands, recorded_iff hlands hlinked hdecision ?_ fun args hargs => ?_⟩
    · simp [turns]
    · rw [hargs] at hidle
      cases hidle
  | failed => cases congrArg Prod.fst heq
  | notActioned => cases congrArg Prod.fst heq

/-- A gate is requested and denied, and the worker passes over the execution again. -/
def deniedRun (n : Nat) : List Event :=
  linkedPass 10 ++ task (.operator 0) (.decide .deny 1 5 none 0) 1 linkedWorld ++
    task (.worker workerA) (.processExecution 1 0 oneMinute) n linkedWorld

/-- The status and the decision of the first execution after a run of the gate's playbook. -/
def linkedEnd (events : List Event) : Option (ExecutionStatus × Option Nat) :=
  ((tablesAfter mutePython (playbook [gateStep]) events).execution? 1).map
    fun row => (row.status, linkedDecision? row)

/-- The worker ends the denied execution and its pass, and no event of the trail says so. -/
theorem denial_unrecorded :
    linkedEnd (deniedRun 4) = some (.awaitingApproval, some 1) ∧
    linkedEnd (deniedRun 9) = some (.notActioned, some 1) ∧
    (((system mutePython).run (.idle (playbook [gateStep])) (deniedRun 9)).proc
      (.worker workerA)).isNone = true ∧
    ∀ event ∈ (tablesAfter mutePython (playbook [gateStep]) (deniedRun 9)).outcomes,
      ¬ Records .notActioned 1 event := by
  have hstates : (tablesAfter mutePython (playbook [gateStep]) (deniedRun 9)).outcomes.all
      (fun event => executionStates.contains event.executionState) = true := by decide +kernel
  refine ⟨by decide +kernel, by decide +kernel, by decide +kernel, ?_⟩
  intro event hevent hrecords
  have hlegal := List.all_eq_true.mp hstates event hevent
  exact hrecords.not_legal (List.contains_iff_mem.mp hlegal)

end SiemDashboard.OutcomeTrail
