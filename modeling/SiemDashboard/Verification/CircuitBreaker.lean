import SiemDashboard.Integrations.BaseIntegration
import SiemDashboard.Lib.Runs

/-!
# What becomes of a circuit breaker

A breaker is closed, open, or half-open with its probe still to be used; and an adapter that has
failed as often as the threshold says, with no success or reset in between, finds it open.  Two exits
of `execute` break this: a probe that is used up by a rate-limited result, and an exception in a
closed breaker, which is counted nowhere.

* **Events** — `Failed`, `Cleared`; `tally`: the failures since the last success or reset.
* **Condition** — `Entered`: the exits are not taken.
* **Invariant** — `Sound`, and what an operation makes of it.
* **Runs** — `breakers_recover`.
-/

namespace SiemDashboard.BaseIntegration

open Python

/-! ## Events -/

/-- The breaker lets an execution through. -/
def SimulatedCircuitBreakerState.admits (st : SimulatedCircuitBreakerState) : Bool :=
  st.state = .closed || (st.state = .halfOpen && st.halfOpenProbeAvailable)

/-- A value that an adapter returned for a success. -/
def succeeds (adapter : Adapter) (action : String) (value : Json) : Bool :=
  ((dictResult adapter action value).get "success").truthy

/-- A value that an adapter returned because its provider limits the rate. -/
def rateLimited (py : Python) (adapter : Adapter) (action : String) (value : Json) : Bool :=
  !succeeds adapter action value &&
    resultClassification py (dictResult adapter action value) = "provider_rate_limited"

/-- The execution runs the adapter, which fails. -/
def Failed (py : Python) (st : SimulatedCircuitBreakerState) (op : Int × BreakerOp) : Bool :=
  match op.2 with
  | .execute adapter action outcome =>
    st.admits && adapter.canHandle (normalizeAction action) &&
      match outcome with
      | .raised _ => true
      | .returned value => !succeeds adapter (normalizeAction action) value &&
          !rateLimited py adapter (normalizeAction action) value
  | _ => false

/-- An execution that succeeds, a recorded success, or a reset. -/
def Cleared (st : SimulatedCircuitBreakerState) (op : Int × BreakerOp) : Bool :=
  match op.2 with
  | .execute adapter action (.returned value) =>
    st.admits && adapter.canHandle (normalizeAction action) &&
      succeeds adapter (normalizeAction action) value
  | .recordSuccess | .manualReset _ _ => true
  | _ => false

/-- A breaker, and the failed executions since the last success or reset. -/
structure Tallied where
  breaker : SimulatedCircuitBreakerState
  failed : Nat

def tally (py : Python) (t : Tallied) (op : Int × BreakerOp) : Tallied :=
  { breaker := stepBreaker py t.breaker op
    failed :=
      if Cleared t.breaker op then 0
      else if Failed py t.breaker op then t.failed + 1
      else t.failed }

/-! ## Condition -/

/-- Whatever comes of the execution is entered in the breaker: no half-open breaker gets a
    rate-limited result, and no adapter of a closed breaker raises. -/
def Entered (py : Python) (st : SimulatedCircuitBreakerState) (op : Int × BreakerOp) : Bool :=
  match op.2 with
  | .execute adapter action (.returned value) =>
    !(st.state = .halfOpen && adapter.canHandle (normalizeAction action) &&
      rateLimited py adapter (normalizeAction action) value)
  | .execute adapter action (.raised _) =>
    !(st.state = .closed && adapter.canHandle (normalizeAction action))
  | _ => true

/-! ## Invariant -/

/-- A breaker that an operation can change or a later call can pass. -/
def SimulatedCircuitBreakerState.Live (st : SimulatedCircuitBreakerState) : Prop :=
  st.state = .closed ∨ st.state = .opened ∨ st.state = .halfOpen ∧ st.halfOpenProbeAvailable = true

instance (st : SimulatedCircuitBreakerState) : Decidable st.Live :=
  inferInstanceAs (Decidable (_ ∨ _ ∨ _ ∧ _))

/-- A closed breaker counts every failure, and its count has not reached the threshold. -/
structure Sound (t : Tallied) : Prop where
  live : t.breaker.Live
  counted : t.breaker.state = .closed →
    t.failed ≤ t.breaker.consecutiveFailures ∧
      t.breaker.consecutiveFailures < t.breaker.failureThreshold

theorem sound_of_opened {t : Tallied} (h : t.breaker.state = .opened) : Sound t :=
  ⟨.inr (.inl h), fun hclosed => by rw [h] at hclosed; cases hclosed⟩

/-- A failure that is counted: the breaker is open, or has one failure more and is as it was. -/
theorem applyFailureIncrement_cases (st : SimulatedCircuitBreakerState)
    (reason classification : String) (now : Int) :
    (applyFailureIncrement st reason classification now).state = .opened ∨
      (applyFailureIncrement st reason classification now).state = st.state ∧
      (applyFailureIncrement st reason classification now).halfOpenProbeAvailable =
        st.halfOpenProbeAvailable ∧
      (applyFailureIncrement st reason classification now).consecutiveFailures =
        st.consecutiveFailures + 1 ∧
      st.consecutiveFailures + 1 <
        (applyFailureIncrement st reason classification now).failureThreshold := by
  unfold applyFailureIncrement
  split
  · next hopened => exact .inl hopened
  · split
    · exact .inl rfl
    · dsimp only
      split
      · exact .inl rfl
      · next hbelow => exact .inr ⟨rfl, rfl, rfl, Nat.lt_of_not_le hbelow⟩

/-- A failure that may never be retried opens the breaker. -/
theorem applyFailureIncrement_nonTransient (st : SimulatedCircuitBreakerState) (reason : String)
    (now : Int) : (applyFailureIncrement st reason "non_transient" now).state = .opened := by
  unfold applyFailureIncrement
  split
  · next hopened => exact hopened
  · rfl

/-- A failure that is counted keeps the breaker sound, where it is one more at most. -/
theorem Sound.increment {t : Tallied} (h : Sound t) (reason classification : String) (now : Int)
    {failed : Nat} (hfailed : failed ≤ t.failed + 1) :
    Sound ⟨applyFailureIncrement t.breaker reason classification now, failed⟩ := by
  rcases applyFailureIncrement_cases t.breaker reason classification now with
    hopened | ⟨hstate, hprobe, hcount, hbelow⟩
  · exact sound_of_opened hopened
  · refine ⟨?_, fun hclosed => ?_⟩
    · show SimulatedCircuitBreakerState.Live _
      unfold SimulatedCircuitBreakerState.Live
      rw [hstate, hprobe]
      exact h.live
    · have hbefore := h.counted (hstate.symm.trans hclosed)
      show failed ≤ (applyFailureIncrement t.breaker reason classification now).consecutiveFailures ∧
        (applyFailureIncrement t.breaker reason classification now).consecutiveFailures <
          (applyFailureIncrement t.breaker reason classification now).failureThreshold
      rw [hcount]
      omega

theorem sound_reset (st : SimulatedCircuitBreakerState) : Sound ⟨resetToClosedSuccess st, 0⟩ :=
  ⟨.inl rfl, fun _ => ⟨Nat.le_refl 0, st.threshold_pos⟩⟩

/-! ### What an execution does -/

section

variable (py : Python) (adapter : Adapter) (action : String) (now : Int)

theorem integrate_success {st : SimulatedCircuitBreakerState} {result : Json} (wasHalfOpen : Bool)
    (h : (result.get "success").truthy = true) :
    (integrateCircuitAfterSimulation py st result wasHalfOpen now).1 = resetToClosedSuccess st := by
  unfold integrateCircuitAfterSimulation
  dsimp only
  rw [if_pos h]

theorem integrate_rateLimited {st : SimulatedCircuitBreakerState} {result : Json}
    (wasHalfOpen : Bool) (h : (result.get "success").truthy = false)
    (hlimited : resultClassification py result = "provider_rate_limited") :
    (integrateCircuitAfterSimulation py st result wasHalfOpen now).1 = st := by
  unfold integrateCircuitAfterSimulation
  dsimp only
  rw [if_neg (by rw [h]; exact Bool.false_ne_true), if_pos hlimited]

theorem integrate_failure {st : SimulatedCircuitBreakerState} {result : Json} (wasHalfOpen : Bool)
    (h : (result.get "success").truthy = false)
    (hlimited : resultClassification py result ≠ "provider_rate_limited") :
    ∃ reason, (integrateCircuitAfterSimulation py st result wasHalfOpen now).1 =
      if wasHalfOpen then completeHalfOpenFailure st reason now
      else applyFailureIncrement st reason (resultClassification py result) now := by
  unfold integrateCircuitAfterSimulation
  dsimp only
  rw [if_neg (by rw [h]; exact Bool.false_ne_true), if_neg hlimited]
  cases wasHalfOpen with
  | true => exact ⟨_, rfl⟩
  | false => exact ⟨_, rfl⟩

theorem executeAdmitted_unsupported (outcome : Outcome) (wasHalfOpen : Bool)
    (st : SimulatedCircuitBreakerState) (h : adapter.canHandle action = false) :
    (executeAdmitted py adapter action outcome wasHalfOpen now st).2.state = .opened := by
  unfold executeAdmitted
  rw [h]
  exact applyFailureIncrement_nonTransient ..

theorem executeAdmitted_raised (message : String) (st : SimulatedCircuitBreakerState)
    (h : adapter.canHandle action = true) :
    (executeAdmitted py adapter action (.raised message) true now st).2.state = .opened := by
  unfold executeAdmitted
  rw [h]
  rfl

theorem executeAdmitted_returned (value : Json) (wasHalfOpen : Bool)
    (st : SimulatedCircuitBreakerState) (h : adapter.canHandle action = true) :
    (executeAdmitted py adapter action (.returned value) wasHalfOpen now st).2 =
      (integrateCircuitAfterSimulation py st (dictResult adapter action value) wasHalfOpen now).1 := by
  unfold executeAdmitted
  rw [h]
  rfl

end

section

variable {py : Python} {t : Tallied} {adapter : Adapter} {action : Option String} {now : Int}

/-- The breaker after an execution. -/
theorem tally_execute_breaker (outcome : Outcome) :
    (tally py t (now, .execute adapter action outcome)).breaker =
      (execute py adapter action outcome now t.breaker).2 := rfl

theorem execute_of_closed (outcome : Outcome) (h : t.breaker.state = .closed) :
    execute py adapter action outcome now t.breaker =
      executeAdmitted py adapter (normalizeAction action) outcome false now t.breaker := by
  unfold execute
  rw [h]

theorem execute_of_opened (outcome : Outcome) (h : t.breaker.state = .opened) :
    (execute py adapter action outcome now t.breaker).2 = t.breaker := by
  unfold execute
  rw [h]

theorem execute_of_halfOpen (outcome : Outcome) (h : t.breaker.state = .halfOpen)
    (hprobe : t.breaker.halfOpenProbeAvailable = true) :
    execute py adapter action outcome now t.breaker =
      executeAdmitted py adapter (normalizeAction action) outcome true now
        { t.breaker with halfOpenProbeAvailable := false } := by
  simp only [execute, h, hprobe, Bool.not_true, Bool.false_eq_true, if_false]

/-- What the probe of a half-open breaker can end in. -/
theorem tally_halfOpen (outcome : Outcome) (h : t.breaker.state = .halfOpen)
    (hprobe : t.breaker.halfOpenProbeAvailable = true)
    (hentered : Entered py t.breaker (now, .execute adapter action outcome) = true) :
    (tally py t (now, .execute adapter action outcome)).breaker.state = .opened ∨
      ∃ st, tally py t (now, .execute adapter action outcome) = ⟨resetToClosedSuccess st, 0⟩ := by
  have hadmits : t.breaker.admits = true := by
    simp [SimulatedCircuitBreakerState.admits, h, hprobe]
  rw [tally_execute_breaker, execute_of_halfOpen outcome h hprobe]
  cases hcan : adapter.canHandle (normalizeAction action) with
  | false => exact .inl (executeAdmitted_unsupported _ _ _ _ outcome true _ hcan)
  | true =>
    cases outcome with
    | raised message => exact .inl (executeAdmitted_raised _ _ _ _ message _ hcan)
    | returned value =>
      rw [executeAdmitted_returned _ _ _ _ value true _ hcan]
      cases hsuccess : succeeds adapter (normalizeAction action) value with
      | true =>
        refine .inr ⟨{ t.breaker with halfOpenProbeAvailable := false }, ?_⟩
        have hcleared : Cleared t.breaker (now, .execute adapter action (.returned value)) = true := by
          simp [Cleared, hadmits, hcan, hsuccess]
        unfold tally stepBreaker
        dsimp only
        rw [if_pos hcleared, execute_of_halfOpen _ h hprobe,
          executeAdmitted_returned _ _ _ _ value true _ hcan, integrate_success _ _ _ hsuccess]
      | false =>
        have hlimited : resultClassification py (dictResult adapter (normalizeAction action) value) ≠
            "provider_rate_limited" := by
          intro hlimited
          simp [Entered, rateLimited, h, hcan, hsuccess, hlimited] at hentered
        obtain ⟨reason, hfailure⟩ := integrate_failure py now true hsuccess hlimited
        rw [hfailure]
        exact .inl rfl

/-- What an execution through a closed breaker can end in. -/
theorem tally_closed (outcome : Outcome) (h : t.breaker.state = .closed)
    (hentered : Entered py t.breaker (now, .execute adapter action outcome) = true) :
    (tally py t (now, .execute adapter action outcome)).breaker.state = .opened ∨
      (∃ st, tally py t (now, .execute adapter action outcome) = ⟨resetToClosedSuccess st, 0⟩) ∨
      tally py t (now, .execute adapter action outcome) = t ∨
      ∃ reason classification, tally py t (now, .execute adapter action outcome) =
        ⟨applyFailureIncrement t.breaker reason classification now, t.failed + 1⟩ := by
  have hadmits : t.breaker.admits = true := by
    simp [SimulatedCircuitBreakerState.admits, h]
  cases hcan : adapter.canHandle (normalizeAction action) with
  | false =>
    refine .inl ?_
    rw [tally_execute_breaker, execute_of_closed outcome h]
    exact executeAdmitted_unsupported _ _ _ _ outcome false _ hcan
  | true =>
    cases outcome with
    | raised message => simp [Entered, h, hcan] at hentered
    | returned value =>
      have hbreaker : (execute py adapter action (.returned value) now t.breaker).2 =
          (integrateCircuitAfterSimulation py t.breaker
            (dictResult adapter (normalizeAction action) value) false now).1 := by
        rw [execute_of_closed _ h, executeAdmitted_returned _ _ _ _ value false _ hcan]
      unfold tally stepBreaker
      dsimp only
      rw [hbreaker]
      cases hsuccess : succeeds adapter (normalizeAction action) value with
      | true =>
        refine .inr (.inl ⟨t.breaker, ?_⟩)
        rw [integrate_success _ _ _ hsuccess,
          if_pos (by simp [Cleared, hadmits, hcan, hsuccess])]
      | false =>
        rw [if_neg (by simp [Cleared, hadmits, hcan, hsuccess])]
        by_cases hlimited : resultClassification py
            (dictResult adapter (normalizeAction action) value) = "provider_rate_limited"
        · refine .inr (.inr (.inl ?_))
          rw [integrate_rateLimited _ _ _ hsuccess hlimited,
            if_neg (by simp [Failed, rateLimited, hadmits, hcan, hsuccess, hlimited])]
        · obtain ⟨reason, hfailure⟩ :=
            @integrate_failure py now t.breaker _ false hsuccess hlimited
          refine .inr (.inr (.inr ⟨reason, resultClassification py
            (dictResult adapter (normalizeAction action) value), ?_⟩))
          have hfailed : Failed py t.breaker (now, .execute adapter action (.returned value)) =
              true := by
            simp [Failed, rateLimited, hadmits, hcan, hsuccess, hlimited]
          rw [hfailure, if_neg Bool.false_ne_true, if_pos hfailed]

end

/-! ### What an operation does -/

theorem toHalfOpen_sound (st : SimulatedCircuitBreakerState) (failed : Nat) :
    Sound ⟨toHalfOpen st, failed⟩ :=
  ⟨.inr (.inr ⟨rfl, rfl⟩), fun hclosed => by cases hclosed⟩

/-- An execution leaves the breaker sound; and where the adapter ran and failed, it is not half-open
    afterwards. -/
theorem Sound.execute {py : Python} {t : Tallied} (h : Sound t) {now : Int} {adapter : Adapter}
    {action : Option String} {outcome : Outcome}
    (hentered : Entered py t.breaker (now, .execute adapter action outcome) = true) :
    Sound (BaseIntegration.tally py t (now, .execute adapter action outcome)) ∧
      (Failed py t.breaker (now, .execute adapter action outcome) = true →
        (BaseIntegration.tally py t (now, .execute adapter action outcome)).breaker.state ≠
          .halfOpen) := by
  rcases h.live with hclosed | hopened | ⟨hhalf, hprobe⟩
  · rcases tally_closed outcome hclosed hentered with
      hopened | ⟨st, hreset⟩ | hkept | ⟨reason, classification, hfailure⟩
    · exact ⟨sound_of_opened hopened, fun _ => by rw [hopened]; nofun⟩
    · rw [hreset]
      exact ⟨sound_reset st, fun _ => nofun⟩
    · rw [hkept]
      exact ⟨h, fun _ => by rw [hclosed]; nofun⟩
    · rw [hfailure]
      refine ⟨h.increment reason classification now (Nat.le_refl _), fun _ => ?_⟩
      rcases applyFailureIncrement_cases t.breaker reason classification now with
        hopened | ⟨hstate, -⟩
      · show (applyFailureIncrement _ _ _ _).state ≠ _
        rw [hopened]
        nofun
      · show (applyFailureIncrement _ _ _ _).state ≠ _
        rw [hstate, hclosed]
        nofun
  · have hstep : (BaseIntegration.tally py t (now, .execute adapter action outcome)).breaker =
        t.breaker := execute_of_opened outcome hopened
    exact ⟨sound_of_opened (hstep ▸ hopened), fun _ => by rw [hstep, hopened]; nofun⟩
  · rcases tally_halfOpen outcome hhalf hprobe hentered with hopened | ⟨st, hreset⟩
    · exact ⟨sound_of_opened hopened, fun _ => by rw [hopened]; nofun⟩
    · rw [hreset]
      exact ⟨sound_reset st, fun _ => nofun⟩

/-- After an operation that is entered the breaker is sound; and after a failed execution it is not
    half-open. -/
theorem Sound.tally {py : Python} {t : Tallied} (h : Sound t) {op : Int × BreakerOp}
    (hentered : Entered py t.breaker op = true) :
    Sound (tally py t op) ∧
      (Failed py t.breaker op = true → (tally py t op).breaker.state ≠ .halfOpen) := by
  obtain ⟨now, op⟩ := op
  cases op with
  | execute adapter action outcome => exact h.execute hentered
  | requestHalfOpenProbe =>
    refine ⟨?_, nofun⟩
    show Sound ⟨(requestHalfOpenProbe t.breaker now).2, t.failed⟩
    unfold requestHalfOpenProbe
    split
    · exact h
    · split
      · exact h
      · exact toHalfOpen_sound ..
  | recordFailure reason classification =>
    exact ⟨h.increment reason _ now (Nat.le_succ _), nofun⟩
  | recordSuccess => exact ⟨sound_reset t.breaker, nofun⟩
  | manualReset actorUsername reason =>
    have hreset := sound_reset t.breaker
    exact ⟨⟨hreset.live, hreset.counted⟩, nofun⟩
  | manualForceOpen actorUsername reason => exact ⟨sound_of_opened rfl, nofun⟩
  | manualEnableHalfOpenProbe actorUsername reason overrideCooldown =>
    refine ⟨?_, nofun⟩
    have henable : stepBreaker py t.breaker
          (now, .manualEnableHalfOpenProbe actorUsername reason overrideCooldown) = t.breaker ∨
        stepBreaker py t.breaker
            (now, .manualEnableHalfOpenProbe actorUsername reason overrideCooldown) =
          applyManualOperatorMetadata (toHalfOpen t.breaker) "enable_half_open" actorUsername reason
            now := by
      unfold stepBreaker manualEnableHalfOpenProbe
      dsimp only
      cases t.breaker.state with
      | closed | halfOpen | invalid => exact .inl rfl
      | opened =>
        cases coolingDown t.breaker now && !overrideCooldown with
        | true => exact .inl rfl
        | false => exact .inr rfl
    show Sound ⟨stepBreaker py t.breaker _, t.failed⟩
    rcases henable with hsame | henabled
    · rw [hsame]
      exact h
    · rw [henabled]
      have hhalf := toHalfOpen_sound t.breaker t.failed
      exact ⟨hhalf.live, hhalf.counted⟩

/-! ## Runs -/

/-- What is done to the breaker of a key, in order. -/
def callsOn (key : String) (calls : List Call) : List (Int × BreakerOp) :=
  (calls.filter fun call => normalizeAdapterKey call.adapterName = key).map fun call =>
    (call.now, call.op)

/-- The breaker of a key after the calls, and its failed executions since the last success or
    reset. -/
def tallyAfter (py : Python) (store : CircuitStore) (calls : List Call) (key : String) : Tallied :=
  Runs.after (tally py) ⟨store key, 0⟩ (callsOn key calls)

/-- A breaker sees the calls of its own adapter only. -/
theorem tallyAfter_breaker (py : Python) (store : CircuitStore) (calls : List Call) (key : String) :
    (tallyAfter py store calls key).breaker = Runs.after (stepStore py) store calls key := by
  unfold tallyAfter
  generalize 0 = failed
  induction calls generalizing store failed with
  | nil => rfl
  | cons call calls ih =>
    by_cases hkey : normalizeAdapterKey call.adapterName = key
    · have hcalls : callsOn key (call :: calls) = (call.now, call.op) :: callsOn key calls := by
        simp [callsOn, hkey]
      have hstore : stepStore py store call key = stepBreaker py (store key) (call.now, call.op) := by
        simp [stepStore, hkey]
      rw [hcalls, Runs.after_cons, Runs.after_cons, ← ih (stepStore py store call)
        (tally py ⟨store key, failed⟩ (call.now, call.op)).failed, hstore]
      rfl
    · have hcalls : callsOn key (call :: calls) = callsOn key calls := by
        simp [callsOn, hkey]
      have hstore : stepStore py store call key = store key := by
        simp [stepStore, Ne.symm hkey]
      rw [hcalls, Runs.after_cons, ← ih (stepStore py store call) failed, hstore]

theorem callsOn_append_singleton (key : String) (calls : List Call) (call : Call) :
    callsOn key (calls ++ [call]) =
      callsOn key calls ++
        if normalizeAdapterKey call.adapterName = key then [(call.now, call.op)] else [] := by
  unfold callsOn
  rw [List.filter_append, List.map_append]
  by_cases hkey : normalizeAdapterKey call.adapterName = key <;> simp [hkey]

/-- No breaker has counted a failure yet.  The thresholds and the cooldowns may be any. -/
def CircuitStore.Fresh (store : CircuitStore) : Prop :=
  ∀ key, (store key).state = .closed ∧ (store key).consecutiveFailures = 0

/-- Every call is entered in the breaker it is about. -/
abbrev EnteredCall (py : Python) (store : CircuitStore) (call : Call) : Prop :=
  Entered py (store (normalizeAdapterKey call.adapterName)) (call.now, call.op) = true

/-- Every breaker is live; and the one whose adapter has just failed is open, if that was the last of
    as many failures as its threshold says, with no success or reset in between. -/
def Recovers (py : Python) (store : CircuitStore) (calls : List Call) : Prop :=
  ∀ key, (Runs.after (stepStore py) store calls key).Live ∧
    ∀ earlier call, calls = earlier ++ [call] → normalizeAdapterKey call.adapterName = key →
      Failed py (Runs.after (stepStore py) store earlier key) (call.now, call.op) = true →
      (Runs.after (stepStore py) store calls key).failureThreshold ≤
        (tallyAfter py store calls key).failed →
      (Runs.after (stepStore py) store calls key).state = .opened

theorem sound_after {py : Python} {store : CircuitStore} (hfresh : store.Fresh) {calls : List Call}
    (hentered : Runs.Along (stepStore py) (EnteredCall py) store calls) (key : String) :
    Sound (tallyAfter py store calls key) := by
  induction calls using List.reverseRecOn with
  | nil =>
    obtain ⟨hclosed, hzero⟩ := hfresh key
    refine ⟨.inl hclosed, fun _ => ⟨Nat.zero_le _, ?_⟩⟩
    show (store key).consecutiveFailures < (store key).failureThreshold
    rw [hzero]
    exact (store key).threshold_pos
  | append_singleton calls call ih =>
    obtain ⟨hcalls, hcall, -⟩ := Runs.along_append.mp hentered
    unfold tallyAfter
    rw [callsOn_append_singleton, Runs.after_append]
    split
    · next hkey =>
      rw [EnteredCall, hkey, ← tallyAfter_breaker] at hcall
      exact ((ih hcalls).tally hcall).1
    · exact ih hcalls

/-- Along every run whose calls are all entered, every breaker is live, and opens once its adapter has
    failed as often as its threshold says. -/
theorem breakers_recover (py : Python) {store : CircuitStore} (hfresh : store.Fresh)
    {calls : List Call} (hentered : Runs.Along (stepStore py) (EnteredCall py) store calls) :
    ∀ pre, pre <+: calls → Recovers py store pre := by
  rintro pre ⟨rest, rfl⟩ key
  have hpre := (Runs.along_append.mp hentered).1
  have hsound := sound_after hfresh hpre key
  have hlive := hsound.live
  rw [tallyAfter_breaker] at hlive
  refine ⟨hlive, ?_⟩
  rintro earlier call rfl hkey hfailed hthreshold
  obtain ⟨hearlier, hcall, -⟩ := Runs.along_append.mp hpre
  rw [EnteredCall, hkey, ← tallyAfter_breaker] at hcall
  rw [← tallyAfter_breaker] at hfailed
  have hnot := ((sound_after hfresh hearlier key).tally hcall).2 hfailed
  have htally : tallyAfter py store (earlier ++ [call]) key =
      tally py (tallyAfter py store earlier key) (call.now, call.op) := by
    unfold tallyAfter
    rw [callsOn_append_singleton, if_pos hkey, Runs.after_append]
    rfl
  rw [← htally, tallyAfter_breaker] at hnot
  rcases hlive with hclosed | hopened | ⟨hhalf, -⟩
  · rw [← tallyAfter_breaker] at hclosed hthreshold
    obtain ⟨hcounted, hbelow⟩ := hsound.counted hclosed
    omega
  · exact hopened
  · exact absurd hhalf hnot

/-! ## Sample runs -/

/-- An interpreter for runs in which no value is shown as a text. -/
def textPython : Python := ⟨fun _ => "", fun _ => "", fun _ _ => .ok none⟩

def slack : Adapter :=
  { adapterName := "slack", supportedActions := ["notify_slack"], mode := "simulation" }

/-- An execution through the adapter. -/
def notifySlack (outcome : Outcome) : Call := ⟨"slack", 0, .execute slack (some "notify_slack") outcome⟩

/-- A failure as an adapter returns it. -/
def failure (classification : String) : Json :=
  .obj
    [ ("success", .bool false),
      ("message", .str "not sent"),
      ("metadata", .obj [("failure_classification", .str classification)]) ]

/-- Three timeouts in a row open a new breaker. -/
def timeouts : List Call := List.replicate 3 (notifySlack (.returned (failure "timeout")))

theorem timeouts_recover :
    Recovers textPython (fun _ => .new) timeouts ∧
      (Runs.after (stepStore textPython) (fun _ => .new) timeouts "slack").state = .opened :=
  ⟨breakers_recover textPython (fun _ => ⟨rfl, rfl⟩) (by decide +kernel) timeouts List.prefix_rfl,
    by decide +kernel⟩

/-- The probe of a breaker that was forced open and then half-opened meets a rate limit. -/
def limitedProbe : List Call :=
  [ ⟨"slack", 0, .manualForceOpen "admin" "outage"⟩,
    ⟨"slack", 0, .manualEnableHalfOpenProbe "admin" "back again" true⟩,
    notifySlack (.returned (failure "provider_rate_limited")) ]

/-- Three exceptions in a row. -/
def exceptions : List Call := List.replicate 3 (notifySlack (.raised "connection refused"))

/-- The first run leaves the breaker half-open with its probe used up; the second leaves it closed
    after as many failures as its threshold says. -/
theorem exits_lost :
    ¬ (Runs.after (stepStore textPython) (fun _ => .new) limitedProbe "slack").Live ∧
      ¬ Recovers textPython (fun _ => .new) limitedProbe ∧
      ¬ Recovers textPython (fun _ => .new) exceptions := by
  have hdead : ¬ (Runs.after (stepStore textPython) (fun _ => .new) limitedProbe "slack").Live := by
    decide +kernel
  refine ⟨hdead, fun h => hdead (h "slack").1, fun h => ?_⟩
  have hopened := (h "slack").2 (List.replicate 2 (notifySlack (.raised "connection refused")))
    (notifySlack (.raised "connection refused")) rfl (by decide +kernel) (by decide +kernel)
    (by decide +kernel)
  have hclosed :
      (Runs.after (stepStore textPython) (fun _ => .new) exceptions "slack").state = .closed := by
    decide +kernel
  rw [hclosed] at hopened
  cases hopened

end SiemDashboard.BaseIntegration
