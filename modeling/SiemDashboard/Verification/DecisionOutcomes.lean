import SiemDashboard.Core.ResponseCommandService
import SiemDashboard.Lib.Runs

/-!
# Decisions and their outcomes

When every response decision has an outcome event of its own.  A command records a fresh decision on
every call, but its outcome is appended under a key that the caller chooses, and an outcome whose key
is known is not appended again.

* **Trail** — `Linked`: an event carries the correlation id of its decision, and no two decisions
  have the same; `OwnOutcomes`: what is to hold of the decisions of a run.
* **Step** — `trailChange_cases`, and what a change of the trail keeps.
* **Result** — `decision_outcomes`, and a block that is asked for twice under one key.
-/

namespace SiemDashboard.DecisionOutcomes

open Python Tables ResponseDecisions ResponseCommands

/-! ## Trail -/

/-- Correlation ids are unique, and an event carries that of its decision. -/
structure Linked (trail : Trail) : Prop where
  distinct : ∀ d ∈ trail.decisions.rows, ∀ d' ∈ trail.decisions.rows,
    d.soarCorrelationId = d'.soarCorrelationId → d = d'
  agrees : ∀ e ∈ trail.outcomes.rows, ∃ d ∈ trail.decisions.rows,
    e.decisionId = d.id ∧ e.soarCorrelationId = d.soarCorrelationId

/-- The event has the id or the correlation id of the decision. -/
def About (e : ResponseEvent) (d : ResponseDecision) : Prop :=
  e.decisionId = d.id ∨ e.soarCorrelationId = d.soarCorrelationId

/-- The event has the id and the correlation id of the decision. -/
def OutcomeOf (e : ResponseEvent) (d : ResponseDecision) : Prop :=
  e.decisionId = d.id ∧ e.soarCorrelationId = d.soarCorrelationId

/-- Every decision from some id on has an outcome. -/
def HasOutcomes (first : Nat) (trail : Trail) : Prop :=
  ∀ d ∈ trail.decisions.rows, first ≤ d.id → ∃ e ∈ trail.outcomes.rows, OutcomeOf e d

/-- Every decision from some id on has an outcome of its own: no event is about two decisions. -/
structure OwnOutcomes (first : Nat) (trail : Trail) : Prop where
  outcome : HasOutcomes first trail
  unshared : ∀ e ∈ trail.outcomes.rows, ∀ d ∈ trail.decisions.rows, ∀ d' ∈ trail.decisions.rows,
    About e d → About e d' → d = d'

theorem decisions_unique {trail : Trail} {d d' : ResponseDecision} (hd : d ∈ trail.decisions.rows)
    (hd' : d' ∈ trail.decisions.rows) (hid : d.id = d'.id) : d = d' := by
  rw [Table.mem_rows] at hd hd'
  rw [hid] at hd
  exact Option.some_injective _ (hd.symm.trans hd')

/-- In a linked trail no event is about two decisions. -/
theorem Linked.unshared {trail : Trail} (h : Linked trail) {e : ResponseEvent}
    (he : e ∈ trail.outcomes.rows) {d d' : ResponseDecision} (hd : d ∈ trail.decisions.rows)
    (hd' : d' ∈ trail.decisions.rows) (habout : About e d) (habout' : About e d') : d = d' := by
  obtain ⟨d₀, hd₀, hid, hcorrelation⟩ := h.agrees e he
  have hsame {d : ResponseDecision} (hd : d ∈ trail.decisions.rows) (habout : About e d) :
      d = d₀ := by
    rcases habout with hid' | hcorrelation'
    · exact decisions_unique hd hd₀ (hid'.symm.trans hid)
    · exact h.distinct d hd d₀ hd₀ (hcorrelation'.symm.trans hcorrelation)
  rw [hsame hd habout, hsame hd' habout']

/-! ## Step -/

/-- The key of the outcome of a command. -/
def outcomeKey (key : String) : String := strip ("outcome-" ++ key)

/-- A command that decides adds a decision, and its outcome where the key is new. -/
theorem trailChange_cases {trail trail' : Trail} {key : String}
    (h : TrailChange trail (some key) trail') :
    ∃ decision, decision.id = trail.decisions.next ∧
      trail.known decision.soarCorrelationId = false ∧
      trail'.decisions.next = trail.decisions.next + 1 ∧
      (∀ d, d ∈ trail'.decisions.rows ↔ d ∈ trail.decisions.rows ∨ d = decision) ∧
      (((trail.eventByKey? (outcomeKey key)).isSome = true ∧ trail'.outcomes = trail.outcomes) ∨
        (trail.eventByKey? (outcomeKey key) = none ∧
          ∃ event, trail'.outcomes.rows = trail.outcomes.rows ++ [event] ∧
            OutcomeOf event decision)) := by
  cases h with
  | @decided refs new shortUuid now decision trail₁ trail₂ outcome event key hcreate happend
      hdecision hkey =>
    obtain ⟨hid, hnext, hstored, hothers, houtcomes, hfresh⟩ :=
      createResponseDecision_eq_ok hcreate
    have hrows (d : ResponseDecision) :
        d ∈ trail₁.decisions.rows ↔ d ∈ trail.decisions.rows ∨ d = decision := by
      simp only [Table.mem_rows]
      by_cases hd : d.id = trail.decisions.next
      · rw [hd, hstored, Option.some.injEq]
        have hout : trail.decisions.row? trail.decisions.next ≠ some d := fun hrow =>
          Nat.lt_irrefl _ (trail.decisions.lt_next hrow)
        simp [hout, eq_comm]
      · have hne : d ≠ decision := fun h => hd (h ▸ hid)
        simp [hothers _ hd, hne]
    have hsame : trail₁.eventByKey? (strip outcome.idempotencyKey) =
        trail.eventByKey? (outcomeKey key) := by
      rw [hkey, Trail.eventByKey?, houtcomes]
      rfl
    rcases appendOutcomeEvent_eq_ok happend with ⟨hknown, rfl⟩ | ⟨hnew, hdecisions, hrows', hof, -,
      decision', hdecision', hcorrelation⟩
    · refine ⟨decision, hid, hfresh, hnext, hrows, .inl ⟨?_, houtcomes⟩⟩
      rw [← hsame, hknown]
      rfl
    · refine ⟨decision, hid, hfresh, by rw [hdecisions, hnext], fun d => by rw [hdecisions, hrows],
        .inr ⟨hsame ▸ hnew, event, by rw [hrows', houtcomes], hof.trans hdecision, ?_⟩⟩
      rw [hdecision, hid, hstored] at hdecision'
      rw [hcorrelation, Option.some_injective _ hdecision']

theorem change_linked {trail trail' : Trail} {key? : Option String}
    (h : TrailChange trail key? trail') (hlinked : Linked trail) : Linked trail' := by
  cases key? with
  | none =>
    cases h
    exact hlinked
  | some key =>
    obtain ⟨decision, hid, hfresh, -, hrows, hcases⟩ := trailChange_cases h
    have hfresh (d : ResponseDecision) (hd : d ∈ trail.decisions.rows) :
        d.soarCorrelationId ≠ decision.soarCorrelationId := by
      simp only [Trail.known, List.any_eq_false, decide_eq_true_eq] at hfresh
      exact hfresh d hd
    refine ⟨fun d hd d' hd' hcorrelation => ?_, fun e he => ?_⟩
    · rcases (hrows d).mp hd with hd | rfl <;> rcases (hrows d').mp hd' with hd' | rfl
      · exact hlinked.distinct d hd d' hd' hcorrelation
      · exact absurd hcorrelation (hfresh d hd)
      · exact absurd hcorrelation.symm (hfresh d' hd')
      · rfl
    · have hold (he : e ∈ trail.outcomes.rows) : ∃ d ∈ trail'.decisions.rows,
          e.decisionId = d.id ∧ e.soarCorrelationId = d.soarCorrelationId := by
        obtain ⟨d, hd, hof⟩ := hlinked.agrees e he
        exact ⟨d, (hrows d).mpr (.inl hd), hof⟩
      rcases hcases with ⟨-, houtcomes⟩ | ⟨-, event, houtcomes, hof⟩
      · exact hold (houtcomes ▸ he)
      · rw [houtcomes, List.mem_append, List.mem_singleton] at he
        rcases he with he | rfl
        · exact hold he
        · exact ⟨decision, (hrows decision).mpr (.inr rfl), hof⟩

/-- The key of an outcome that a command appends is new. -/
def NewKey (trail : Trail) (key? : Option String) : Prop :=
  ∀ key, key? = some key → trail.eventByKey? (outcomeKey key) = none

/-- After a command every decision has an outcome just where every one had, and the key was new. -/
theorem change_hasOutcomes {trail trail' : Trail} {key? : Option String} {first : Nat}
    (h : TrailChange trail key? trail') (hfirst : first ≤ trail.decisions.next) :
    HasOutcomes first trail' ↔ HasOutcomes first trail ∧ NewKey trail key? := by
  cases key? with
  | none =>
    cases h
    simp [NewKey]
  | some key =>
    obtain ⟨decision, hid, -, -, hrows, hcases⟩ := trailChange_cases h
    have hbefore (e : ResponseEvent) (he : e ∈ trail.outcomes.rows) :
        e.decisionId ≠ decision.id := by
      have := trail.refers e.id e (Table.mem_rows.mp he)
      omega
    have hother (d : ResponseDecision) (hd : d ∈ trail.decisions.rows) : decision.id ≠ d.id := by
      have := trail.decisions.lt_next (Table.mem_rows.mp hd)
      omega
    constructor
    · intro hall
      rcases hcases with ⟨-, houtcomes⟩ | ⟨hnew, event, houtcomes, hof⟩
      · obtain ⟨e, he, hof, -⟩ := hall decision ((hrows decision).mpr (.inr rfl)) (by omega)
        exact absurd hof (hbefore e (houtcomes ▸ he))
      · refine ⟨fun d hd hle => ?_, fun key' hkey' => ?_⟩
        · obtain ⟨e, he, hof'⟩ := hall d ((hrows d).mpr (.inl hd)) hle
          rw [houtcomes, List.mem_append, List.mem_singleton] at he
          rcases he with he | rfl
          · exact ⟨e, he, hof'⟩
          · exact absurd (hof.1.symm.trans hof'.1) (hother d hd)
        · cases hkey'
          exact hnew
    · rintro ⟨hall, hnewKey⟩
      have hnew := hnewKey key rfl
      rcases hcases with ⟨hknown, -⟩ | ⟨-, event, houtcomes, hof⟩
      · rw [hnew] at hknown
        cases hknown
      · intro d hd hle
        rw [houtcomes]
        rcases (hrows d).mp hd with hd | rfl
        · obtain ⟨e, he, hof'⟩ := hall d hd hle
          exact ⟨e, List.mem_append_left _ he, hof'⟩
        · exact ⟨event, List.mem_append_right _ (List.mem_singleton_self _), hof⟩

theorem change_next_le {trail trail' : Trail} {key? : Option String}
    (h : TrailChange trail key? trail') : trail.decisions.next ≤ trail'.decisions.next := by
  cases key? with
  | none =>
    cases h
    exact Nat.le_refl _
  | some key =>
    obtain ⟨decision, -, -, hnext, -⟩ := trailChange_cases h
    omega

/-! ## Result -/

/-- Where the command takes effect, the key of its outcome is new. -/
def AppendsNew (env : Environment) (db : ResponseDb) (call : ResponseCommands.Call) : Prop :=
  (call.run env db).isOk = true → NewKey db.trail (decisionKey? env db call.request)

/-- What a run relies on: the trail is linked, and the decisions counted come after it. -/
structure Counting (first : Nat) (db : ResponseDb) : Prop where
  linked : Linked db.trail
  first_le : first ≤ db.trail.decisions.next

theorem stepCall_counting (env : Environment) {first : Nat} (db : ResponseDb) (call : ResponseCommands.Call)
    (h : Counting first db) : Counting first (stepCall env db call) := by
  unfold stepCall
  split
  · next res db' hrun =>
    have hchange := (executeResponseCommand_changes hrun).2
    exact ⟨change_linked hchange h.linked, h.first_le.trans (change_next_le hchange)⟩
  · exact h

theorem stepCall_hasOutcomes (env : Environment) {first : Nat} (db : ResponseDb) (call : ResponseCommands.Call)
    (h : Counting first db) :
    HasOutcomes first (stepCall env db call).trail ↔
      HasOutcomes first db.trail ∧ AppendsNew env db call := by
  unfold stepCall AppendsNew
  split
  · next res db' hrun =>
    rw [hrun, change_hasOutcomes (executeResponseCommand_changes hrun).2 h.first_le]
    exact and_congr_right fun _ => ⟨fun hnew _ => hnew, fun hnew => hnew rfl⟩
  · next e hrun =>
    rw [hrun]
    exact ⟨fun hall => ⟨hall, nofun⟩, And.left⟩

/-- **Decisions and their outcomes.**  After any run of commands over a linked trail, every decision
    of the run has an outcome of its own, shared with no other decision, just where every command of
    the run that decides appends its outcome under a new key. -/
theorem decision_outcomes (env : Environment) {db : ResponseDb} (hlinked : Linked db.trail)
    (calls : List ResponseCommands.Call) :
    OwnOutcomes db.trail.decisions.next (Runs.after (stepCall env) db calls).trail ↔
      Runs.Along (stepCall env) (AppendsNew env) db calls := by
  have hcounting : Counting db.trail.decisions.next db := ⟨hlinked, Nat.le_refl _⟩
  have hbefore : HasOutcomes db.trail.decisions.next db.trail := fun d hd hle =>
    absurd (db.trail.decisions.lt_next (Table.mem_rows.mp hd)) (Nat.not_lt.mpr hle)
  have hafter : Counting db.trail.decisions.next (Runs.after (stepCall env) db calls) :=
    Runs.invariant (fun db call h _ => stepCall_counting env db call h) hcounting
      (Runs.along_of_forall (P := fun _ _ => True) (fun _ _ => trivial) db calls)
  have hrun : HasOutcomes db.trail.decisions.next (Runs.after (stepCall env) db calls).trail ↔
      HasOutcomes db.trail.decisions.next db.trail ∧
        Runs.Along (stepCall env) (AppendsNew env) db calls :=
    @Runs.after_iff_along _ _ (stepCall env) (Counting db.trail.decisions.next)
      (fun db' => HasOutcomes db.trail.decisions.next db'.trail) (AppendsNew env)
      (stepCall_counting env) (stepCall_hasOutcomes env) db hcounting calls
  constructor
  · exact fun hown => (hrun.mp hown.outcome).2
  · exact fun hnew => ⟨hrun.mpr ⟨hbefore, hnew⟩,
      fun e he d hd d' hd' => hafter.linked.unshared he hd hd'⟩

theorem empty_linked : Linked ResponseDb.empty.trail := by
  constructor
  · intro d hd
    rw [show ResponseDb.empty.trail.decisions.rows = [] from Table.empty_rows] at hd
    cases hd
  · intro e he
    rw [show ResponseDb.empty.trail.outcomes.rows = [] from Table.empty_rows] at he
    cases he

theorem decision_outcomes_empty :
    Linked ResponseDb.empty.trail ∧ ∀ calls,
      OwnOutcomes 1 (Runs.after (stepCall plainEnvironment) .empty calls).trail ↔
        Runs.Along (stepCall plainEnvironment) (AppendsNew plainEnvironment) .empty calls :=
  ⟨empty_linked, decision_outcomes plainEnvironment empty_linked⟩

/-! ## One key twice -/

/-- A block of the address under one key. -/
def keyedBlock (minute : Nat) (shortUuid : String) : ResponseCommands.Call where
  moment := plainMoment minute shortUuid
  request :=
    { action := "block_ip"
      indicatorValue := some publicAddress
      actorUserId := some 1
      originSurface := "api"
      idempotencyKey := some "request-1" }

/-- The two calls. -/
def keyedTwice : List ResponseCommands.Call := [keyedBlock 1 "0123456789ab", keyedBlock 2 "0123456789ac"]

/-- Whether every decision from some id on is that of some event. -/
def covered (first : Nat) (trail : Trail) : Bool :=
  trail.decisions.rows.all fun d =>
    d.id < first || trail.outcomes.rows.any fun e => e.decisionId = d.id

theorem covered_of_hasOutcomes {first : Nat} {trail : Trail} (h : HasOutcomes first trail) :
    covered first trail = true := by
  refine List.all_eq_true.mpr fun d hd => ?_
  by_cases hlt : d.id < first
  · simp [hlt]
  · obtain ⟨e, he, hof, -⟩ := h d hd (Nat.not_lt.mp hlt)
    have hany : trail.outcomes.rows.any (fun e => e.decisionId = d.id) = true :=
      List.any_eq_true.mpr ⟨e, he, decide_eq_true hof⟩
    simp [hany]

/-- The same block is asked for twice under one key; both calls succeed, and the second decision has
    no outcome. -/
theorem decision_without_outcome :
    ¬ ∀ calls, Runs.Along (stepCall plainEnvironment) (Succeeds plainEnvironment) .empty calls →
      OwnOutcomes ResponseDb.empty.trail.decisions.next
        (Runs.after (stepCall plainEnvironment) .empty calls).trail := by
  intro h
  have hsucceeds : Runs.Along (stepCall plainEnvironment) (Succeeds plainEnvironment) .empty
      keyedTwice := by
    decide +kernel
  have hcovered := covered_of_hasOutcomes (h _ hsucceeds).outcome
  revert hcovered
  decide +kernel

end SiemDashboard.DecisionOutcomes
