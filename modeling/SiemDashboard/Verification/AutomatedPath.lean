import SiemDashboard.Routes.IngestRoutes

/-!
# One automated path per alert

A batch of committed alerts goes through playbook matching and then through the queue, over one
connection any of whose statements may fail.

* **Logs** — `Intact`: in a transaction, no failure that no savepoint undoes comes after an insertion.
* **Insertions** — `Reported`: the new rows of a table are those that were reported, with their alerts.
* **Stages** — `Stage`: what holds while a stage runs, and what its statements make of it.
* **The playbook stage**, **the notifications**, **the queue stage** — what each leaves.
* **The batch** — no alert ends up on both paths, and every reported row is there exactly when the
  transactions were intact.
-/

namespace SiemDashboard.AutomatedPath

open Tables Transactions AlertBatch PlaybookStore ResponseActionQueueStore ResponseDecisions
open SoarPlaybookOrchestrator SoarEnqueueOrchestrator IngestRoutes

/-! ## Logs -/

/-- In the transaction, no failure that no savepoint undoes comes after an insertion. -/
def Intact (log : List Note) : Prop := log.Pairwise fun a b => ¬ (a = .inserted ∧ b = .failed)

instance (log : List Note) : Decidable (Intact log) := by unfold Intact; infer_instance

theorem intact_nil : Intact [] := List.Pairwise.nil

theorem intact_append (log : List Note) (note : Note) :
    Intact (log ++ [note]) ↔ Intact log ∧ ¬ (.inserted ∈ log ∧ note = .failed) := by
  unfold Intact
  rw [List.pairwise_append]
  constructor
  · intro h
    obtain ⟨hlog, -, hnote⟩ := h
    exact ⟨hlog, fun ⟨hmem, hfailed⟩ => hnote _ hmem _ List.mem_cons_self ⟨rfl, hfailed⟩⟩
  · intro h
    obtain ⟨hlog, hnote⟩ := h
    refine ⟨hlog, List.pairwise_singleton _ _, fun a ha b hb ⟨hinserted, hfailed⟩ => hnote ?_⟩
    rw [List.mem_singleton.mp hb] at hfailed
    exact ⟨hinserted ▸ ha, hfailed⟩

/-! ## Insertions -/

section Reported

variable {ρ : Type} {key : ρ → Nat} {alertId : ρ → Option Nat} {base table : Table ρ key}
  {pairs : List (Option Nat × Nat)}

/-- The rows of a table that are newer than `base` are the reported ones: a pair is an alert and the id
    of the row for it. -/
structure Reported (alertId : ρ → Option Nat) (base table : Table ρ key)
    (pairs : List (Option Nat × Nat)) : Prop where
  next_le : base.next ≤ table.next
  stored : ∀ pair ∈ pairs, ∃ row, table.row? pair.2 = some row ∧ alertId row = pair.1
  listed : ∀ id row, base.next ≤ id → table.row? id = some row →
    ∃ pair ∈ pairs, pair.2 = id ∧ alertId row = pair.1

theorem Reported.refl (alertId : ρ → Option Nat) (base : Table ρ key) :
    Reported alertId base base [] where
  next_le := Nat.le_refl _
  stored := nofun
  listed _ _ hid hrow := absurd (base.lt_next hrow) (Nat.not_lt.mpr hid)

theorem Reported.insert (h : Reported alertId base table pairs) {mk : Nat → ρ}
    (hmk : ∀ id, key (mk id) = id) {alert : Option Nat} (halert : alertId (mk table.next) = alert) :
    Reported alertId base (table.insert mk hmk) (pairs ++ [(alert, table.next)]) where
  next_le := Nat.le_succ_of_le h.next_le
  stored pair hpair := by
    rcases List.mem_append.mp hpair with hpair | hpair
    · obtain ⟨row, hrow, hid⟩ := h.stored pair hpair
      exact ⟨row, table.insert_row?_of_some mk hmk hrow, hid⟩
    · rw [List.mem_singleton.mp hpair]
      exact ⟨mk table.next, by rw [table.insert_row? mk hmk, if_pos rfl], halert⟩
  listed id row hid hrow := by
    rw [table.insert_row? mk hmk] at hrow
    split at hrow
    · next hnext =>
      cases hrow
      exact ⟨_, List.mem_append_right _ List.mem_cons_self, hnext.symm, halert⟩
    · obtain ⟨pair, hpair, hrest⟩ := h.listed id row hid hrow
      exact ⟨pair, List.mem_append_left _ hpair, hrest⟩

theorem Reported.update (h : Reported alertId base table pairs) {id : Nat} {guard : ρ → Bool}
    {f : ρ → ρ} (hf : ∀ r, key (f r) = key r) (hsame : ∀ r, alertId (f r) = alertId r) :
    Reported alertId base (table.update id guard f hf) pairs where
  next_le := h.next_le
  stored pair hpair := by
    obtain ⟨row, hrow, halert⟩ := h.stored pair hpair
    refine ⟨_, by rw [table.update_row?_eq_map, hrow, Option.map_some], ?_⟩
    split
    · rw [hsame, halert]
    · exact halert
  listed j row hj hrow := by
    rw [table.update_row?_eq_map] at hrow
    obtain ⟨row', hrow', rfl⟩ := Option.map_eq_some_iff.mp hrow
    obtain ⟨pair, hpair, hid, halert⟩ := h.listed j row' hj hrow'
    refine ⟨pair, hpair, hid, ?_⟩
    split
    · rw [hsame, halert]
    · exact halert

end Reported

/-! ## Stages -/

/-- Where a connection stands in the middle of a stage that began with `base`: the transaction is aborted
    where a failure is noted, an insertion is noted where there is one to report, and unless aborted the
    data is as it should be. -/
structure Stage (base : Session Database Note) (first : Nat) (data : Database → Prop)
    (pairs : List (Option Nat × Nat)) (s : Session Database Note) : Prop where
  committed : s.committed = base.committed
  history : s.history = base.history
  aborted : s.aborted = true ↔ Note.failed ∈ s.log
  inserted : Note.inserted ∈ s.log ↔ pairs ≠ []
  intact : Intact s.log ↔ ¬ (pairs ≠ [] ∧ s.aborted = true)
  recent : ∀ pair ∈ pairs, first ≤ pair.2
  current : s.aborted = false → data s.current

section Stage

variable {base s s' : Session Database Note} {first : Nat} {data data' : Database → Prop}
  {pairs : List (Option Nat × Nat)} {α β : Type} {faults : Nat → Option Fault}

theorem Stage.next (h : Stage base first data pairs s) : Stage base first data pairs s.next :=
  ⟨h.committed, h.history, h.aborted, h.inserted, h.intact, h.recent, h.current⟩

/-- Before a failure nothing has gone wrong. -/
theorem Stage.intact_of_open (h : Stage base first data pairs s) (hopen : s.aborted = false) :
    Intact s.log := by
  rw [h.intact, hopen]
  exact fun ⟨_, h⟩ => nomatch h

/-- A noted failure aborts the transaction, and spoils it where there was an insertion. -/
theorem Stage.lost (h : Stage base first data pairs s) (hopen : s.aborted = false)
    (hlost : s.Lost .failed s') : Stage base first data pairs s' := by
  have hintact := h.intact_of_open hopen
  refine ⟨hlost.committed.trans h.committed, hlost.history.trans h.history, ?_, ?_, ?_, h.recent, ?_⟩
  · rw [hlost.aborted, hlost.log]
    exact iff_of_true rfl (List.mem_append_right _ List.mem_cons_self)
  · rw [hlost.log, ← h.inserted]
    simp
  · rw [hlost.log, hlost.aborted, intact_append, ← h.inserted]
    simp [hintact]
  · rw [hlost.aborted]
    exact nofun

theorem Stage.broken (h : Stage base first data pairs s) (hopen : s.aborted = false) :
    Stage base first data pairs (s.next.broken (some .failed)) :=
  h.lost hopen ⟨rfl, rfl, rfl, rfl⟩

/-- A stretch without notes changes nothing that matters. -/
theorem Stage.within (h : Stage base first data pairs s) (hopen : s.aborted = false)
    (hwithin : s.Within data' s.savepoints s') (hopen' : s'.aborted = false) :
    Stage base first data' pairs s' := by
  refine ⟨hwithin.committed.trans h.committed, hwithin.history.trans h.history, ?_, ?_, ?_, h.recent, ?_⟩
  · rw [hopen', hwithin.log, ← h.aborted, hopen]
  · rw [hwithin.log, h.inserted]
  · rw [hopen', hwithin.log, h.intact, hopen]
  · exact hwithin.current

/-- An insertion is one more to report. -/
theorem Stage.insert (h : Stage base first data pairs s) (hopen : s.aborted = false) {current : Database}
    {pair : Option Nat × Nat} (hpair : first ≤ pair.2) (hcurrent : data' current) :
    Stage base first data' (pairs ++ [pair])
      { s.next.note (some .inserted) with current := current } := by
  have hintact := h.intact_of_open hopen
  have hfailed : Note.failed ∉ s.log := fun hmem => by
    rw [h.aborted.mpr hmem] at hopen
    cases hopen
  have hlog : Intact (s.log ++ [Note.inserted]) := (intact_append _ _).mpr ⟨hintact, by simp⟩
  refine ⟨h.committed, h.history, ?_, ?_, ?_, fun other hother => ?_, fun _ => hcurrent⟩
  · change s.aborted = true ↔ Note.failed ∈ s.log ++ [Note.inserted]
    rw [hopen]
    simp [hfailed]
  · change Note.inserted ∈ s.log ++ [Note.inserted] ↔ pairs ++ [pair] ≠ []
    simp
  · change Intact (s.log ++ [Note.inserted]) ↔ ¬ (pairs ++ [pair] ≠ [] ∧ s.aborted = true)
    rw [hopen]
    simp [hlog]
  · rcases List.mem_append.mp hother with hother | hother
    · exact h.recent other hother
    · rw [List.mem_singleton.mp hother]
      exact hpair

/-- The program keeps the stage as it is and raises nothing. -/
def Keeps (base : Session Database Note) (first : Nat) (data : Database → Prop)
    (pairs : List (Option Nat × Nat)) (p : Program α) : Prop :=
  Holds (Stage base first data pairs) p
    fun r s => (∃ answer, r = .ok answer) ∧ Stage base first data pairs s

theorem Keeps.pure {a : α} : Keeps base first data pairs (Pure.pure a) :=
  Holds.pure fun _ hs => ⟨⟨a, rfl⟩, hs⟩

/-- Another program follows in the stage. -/
theorem Keeps.seq {p : Program α} {k : α → Program β}
    {final : Except String β → Session Database Note → Prop} (hp : Keeps base first data pairs p)
    (hk : ∀ a, Holds (Stage base first data pairs) (k a) final) :
    Holds (Stage base first data pairs) (p >>= k) final := by
  refine Holds.bind hp (fun a => (hk a).imp (fun _ hs => hs.2) fun _ _ hs => hs) fun _ _ hs => ?_
  obtain ⟨⟨_, h⟩, -⟩ := hs
  cases h

/-- A program that may raise, with a handler. -/
theorem Keeps.handle {p : Program α} {k : Except String α → Program β}
    (hp : Holds (Stage base first data pairs) p fun _ => Stage base first data pairs)
    (hk : ∀ r, Keeps base first data pairs (k r)) : Keeps base first data pairs (attempt p >>= k) :=
  Holds.handle hp hk

/-- A statement whose failures are noted. -/
theorem Stage.statement {f : Nat → Database → Except Fault (α × Database)}
    (hf : ∀ n before a after, data before → f n before = .ok (a, after) → data after) :
    Holds (Stage base first data pairs) (Transactions.statement faults noteFailure f)
      fun _ => Stage base first data pairs := by
  refine Holds.statement (fun s _ hs => hs.next) (fun s _ hs hopen => hs.broken hopen)
    fun s a current hs hopen hdone => ?_
  exact hs.within hopen
    ⟨rfl, rfl, List.append_nil _, rfl, fun _ => hf _ _ _ _ (hs.current hopen) hdone⟩ hopen

/-- A program under a savepoint goes on in the stage. -/
theorem Keeps.underSavepoint {body : Program α}
    (hbody : ∀ base points, Kept base data points body) :
    Keeps base first data pairs (Transactions.underSavepoint faults .failed body) := by
  intro s hs
  cases hopen : s.aborted with
  | true =>
    rw [underSavepoint_of_aborted faults _ body hopen]
    exact ⟨⟨_, rfl⟩, hs.next⟩
  | false =>
    have hrun := Kept.underSavepoint faults Note.failed
      (fun point => hbody s (point :: s.savepoints)) s
      ⟨hopen, rfl, rfl, rfl, rfl, fun _ => hs.current hopen⟩
    obtain ⟨hanswer, ⟨hopen', hwithin⟩ | hlost⟩ := hrun
    · exact ⟨hanswer, hs.within hopen hwithin hopen'⟩
    · exact ⟨hanswer, hs.lost hopen hlost⟩

/-- Between two transactions. -/
structure Settled (d : Database) (history : List (List Note)) (s : Session Database Note) : Prop where
  committed : s.committed = d
  current : s.current = d
  aborted : s.aborted = false
  log : s.log = []
  history : s.history = history

theorem ended_settled (s : Session Database Note) (d : Database) :
    Settled d (s.history ++ [s.log]) (s.ended d) := ⟨rfl, rfl, rfl, rfl, rfl⟩

/-- A stage begins with nothing to report. -/
theorem Settled.stage {d : Database} {history : List (List Note)} (h : Settled d history s)
    (hdata : data d) : Stage s first data [] s := by
  refine ⟨rfl, rfl, ?_, ?_, ?_, nofun, fun _ => h.current ▸ hdata⟩
  · rw [h.aborted, h.log]
    simp
  · rw [h.log]
    simp
  · rw [h.log]
    simp [intact_nil]

/-- What a transaction leaves when it is committed. -/
def committedBy (s : Session Database Note) : Database := if s.aborted then s.committed else s.current

section Ends

variable {ρ : Type} {key : ρ → Nat} {alertId : ρ → Option Nat} {table : Database → Table ρ key}

/-- A row stands for every pair. -/
def Stored (alertId : ρ → Option Nat) (table : Table ρ key) (pairs : List (Option Nat × Nat)) : Prop :=
  ∀ pair ∈ pairs, ∃ row, table.row? pair.2 = some row ∧ alertId row = pair.1

/-- What is reported has been committed exactly when the transaction was intact. -/
theorem Stage.stored_iff (table : Database → Table ρ key)
    (h : Stage base (table base.committed).next data pairs s)
    (hdata : ∀ db, data db → Reported alertId (table base.committed) (table db) pairs) :
    Stored alertId (table (committedBy s)) pairs ↔ Intact s.log := by
  unfold committedBy
  rw [h.intact]
  cases haborted : s.aborted with
  | false => exact iff_of_true (hdata _ (h.current haborted)).stored fun hlost => nomatch hlost.2
  | true =>
    rw [if_pos rfl, h.committed]
    constructor
    · intro hstored hlost
      obtain ⟨pair, hpair⟩ := List.exists_mem_of_ne_nil pairs hlost.1
      obtain ⟨row, hrow, -⟩ := hstored pair hpair
      have hlt : pair.2 < (table base.committed).next := (table base.committed).lt_next hrow
      exact absurd hlt (Nat.not_lt.mpr (h.recent pair hpair))
    · intro hintact pair hpair
      exact absurd ⟨List.ne_nil_of_mem hpair, rfl⟩ hintact

/-- What has been committed is reported. -/
theorem Stage.listed (table : Database → Table ρ key)
    (h : Stage base (table base.committed).next data pairs s)
    (hdata : ∀ db, data db → Reported alertId (table base.committed) (table db) pairs) {id : Nat}
    {row : ρ} (hid : (table base.committed).next ≤ id)
    (hrow : (table (committedBy s)).row? id = some row) :
    ∃ pair ∈ pairs, pair.2 = id ∧ alertId row = pair.1 := by
  unfold committedBy at hrow
  cases haborted : s.aborted with
  | false =>
    rw [haborted] at hrow
    exact (hdata _ (h.current haborted)).listed id row hid hrow
  | true =>
    rw [haborted, if_pos rfl, h.committed] at hrow
    exact absurd ((table base.committed).lt_next hrow) (Nat.not_lt.mpr hid)

/-- A property of the data that the stage began with and keeps. -/
theorem Stage.committedBy_of {P : Database → Prop} (h : Stage base first data pairs s)
    (hbase : P base.committed) (hdata : ∀ db, data db → P db) : P (committedBy s) := by
  unfold committedBy
  cases haborted : s.aborted with
  | false => exact hdata _ (h.current haborted)
  | true => exact h.committed ▸ hbase

end Ends

end Stage

/-! ## The playbook stage -/

section Playbooks

/-- The executions that a report calls created, with their alerts. -/
def created (report : PlaybookReport) : List (Option Nat × Nat) :=
  report.results.filterMap fun result =>
    match result.outcome with
    | .created executionId => some (result.alertId, executionId)
    | _ => none

theorem created_add (report : PlaybookReport) (result : PlaybookResult) :
    created (report.add result) = created report ++
      (match result.outcome with
        | .created executionId => [(result.alertId, executionId)]
        | _ => []) := by
  unfold created PlaybookReport.add
  rw [List.filterMap_append]
  cases result with
  | mk index alertId playbookId outcome => cases outcome <;> rfl

/-- The queue is as it was, and the new executions are those. -/
def Created (base : Database) (pairs : List (Option Nat × Nat)) (db : Database) : Prop :=
  db.queue = base.queue ∧
    Reported Execution.alertId base.playbooks.executions db.playbooks.executions pairs

theorem Created.congr {base db db' : Database} {pairs : List (Option Nat × Nat)}
    (h : Created base pairs db) (hsame : db'.playbooks = db.playbooks ∧ db'.queue = db.queue) :
    Created base pairs db' := by
  unfold Created
  rw [hsame.1, hsame.2]
  exact h

variable {env : Environment} {base : Session Database Note} {b : Database} {first : Nat}
  {pairs : List (Option Nat × Nat)} {points : List Database} {s : Session Database Note}

theorem createAndLink_kept (executionId : Nat) (playbookId : String) (alertId : Nat)
    (sourceIp : Option String) :
    Kept base (Created b pairs) points (createAndLink env executionId playbookId alertId sourceIp) := by
  refine Kept.bind (Kept.statement fun n db decision db' hdb h => ?_) fun decision =>
    Kept.bind (Kept.statement fun n db row db' hdb h => ?_) fun _ => Kept.pure
  · exact hdb.congr (storeDecision_frame h)
  · cases h
    let linked (row : Execution) : Execution :=
      { row with
        decisionId := some decision.id
        soarCorrelationId := some decision.soarCorrelationId }
    exact ⟨hdb.1, hdb.2.update (f := linked) (fun _ => rfl) fun _ => rfl⟩

theorem appendInitialEvent_kept (executionId : Nat) (playbookId : String) (alertId : Nat)
    (sourceIp : Option String) (decision : ResponseDecision) :
    Kept base (Created b pairs) points
      (appendInitialEvent env executionId playbookId alertId sourceIp decision) :=
  Kept.statement fun _ _ _ _ hdb h => hdb.congr (storeOutcome_frame h)

/-- Where a connection stands when the stage has given up: nothing is committed, and nothing has gone
    wrong before. -/
structure Escaped (base s : Session Database Note) : Prop where
  committed : s.committed = base.committed
  history : s.history = base.history
  intact : Intact s.log

/-- The decision of an execution is written or not, unless the source address cannot be read. -/
theorem tryCreateAndLink_stage (executionId : Nat) (playbookId : String) (alertId : Nat) :
    Holds (fun s => s.aborted = false ∧ Stage base first (Created b pairs) pairs s)
      (tryCreateAndLinkPlaybookExecutionDecision env executionId playbookId alertId) fun r s =>
        ((∃ decision, r = .ok decision) ∧ Stage base first (Created b pairs) pairs s) ∨
          ((∃ message, r = .error message) ∧ Escaped base s) := by
  have hread : Holds (fun s => s.aborted = false ∧ Stage base first (Created b pairs) pairs s)
      (getAlertSourceIp env alertId) fun r s =>
        ((∃ sourceIp, r = .ok sourceIp) ∧ Stage base first (Created b pairs) pairs s) ∨
          ((∃ message, r = .error message) ∧ Escaped base s) := by
    unfold getAlertSourceIp query
    refine Holds.statement (fun s message hs => ?_) (fun s message hs _ => ?_)
      fun s sourceIp current hs hopen hdone => ?_
    · exact .inr ⟨⟨message, rfl⟩, hs.2.committed, hs.2.history, hs.2.intact_of_open hs.1⟩
    · refine .inr ⟨⟨message, rfl⟩, hs.2.committed, hs.2.history, ?_⟩
      change Intact (s.log ++ [])
      rw [List.append_nil]
      exact hs.2.intact_of_open hs.1
    · cases hdone
      exact .inl ⟨⟨_, rfl⟩, hs.2.within hopen
        ⟨rfl, rfl, List.append_nil _, rfl, fun _ => hs.2.current hopen⟩ hopen⟩
  refine Holds.bind hread (fun sourceIp => ?_) fun message s hs => ?_
  · refine Holds.imp (?_ : Holds (Stage base first (Created b pairs) pairs) _ fun r s =>
      (∃ decision, r = .ok decision) ∧ Stage base first (Created b pairs) pairs s)
      (fun s hs => ?_) fun r s hs => .inl hs
    · refine Keeps.seq (Keeps.underSavepoint fun _ _ => createAndLink_kept _ _ _ _)
        fun answer => ?_
      cases answer with
      | error message => exact Keeps.pure
      | ok decision =>
        exact Keeps.seq (Keeps.underSavepoint fun _ _ => appendInitialEvent_kept _ _ _ _ _)
          fun _ => Keeps.pure
    · rcases hs with ⟨-, hs⟩ | ⟨⟨_, h⟩, -⟩
      · exact hs
      · cases h
  · rcases hs with ⟨⟨_, h⟩, -⟩ | ⟨-, hs⟩
    · cases h
    · exact .inr ⟨⟨message, rfl⟩, hs⟩

/-- An execution is created and has to be reported, or there is none. -/
theorem createPendingExecution_stage (playbookId : String) (alertId : Nat) :
    Holds (Stage base b.playbooks.executions.next (Created b pairs) pairs)
      (createPendingExecution env playbookId alertId) fun r s =>
        match r with
        | .ok (some id) =>
          s.aborted = false ∧ Stage base b.playbooks.executions.next
            (Created b (pairs ++ [(some alertId, id)])) (pairs ++ [(some alertId, id)]) s
        | _ => Stage base b.playbooks.executions.next (Created b pairs) pairs s := by
  refine Holds.statement (fun s _ hs => hs.next) (fun s _ hs hopen => hs.broken hopen)
    fun s id current hs hopen hdone => ?_
  have hdata : Created b pairs s.current := hs.current hopen
  rcases hrun : createPendingPlaybookExecutionOnce s.current.playbooks
    ⟨playbookId, some alertId, none, none, none, none, 0⟩ (env.now s.position) with ⟨e | id, playbooks⟩
  · rw [hrun] at hdone
    cases hdone
  · rw [hrun] at hdone
    cases hdone
    obtain ⟨rfl, rfl⟩ | ⟨rfl, rfl⟩ := createPendingPlaybookExecutionOnce_eq_ok hrun
    · exact hs.within hopen ⟨rfl, rfl, List.append_nil _, rfl, fun _ => hdata⟩ hopen
    · have hnew : Created b
          (pairs ++ [(some alertId, s.current.playbooks.executions.next)])
          { s.current with
            playbooks :=
              { s.current.playbooks with
                executions := s.current.playbooks.executions.insert _
                  (newExecutionRow_id ⟨playbookId, some alertId, none, none, none, none, 0⟩
                    (env.now s.position)) } } :=
        ⟨hdata.1, hdata.2.insert (newExecutionRow_id _ _) rfl⟩
      exact ⟨hopen, hs.insert hopen hdata.2.next_le hnew⟩

/-- Where the stage stands with a report. -/
def PlaybookStage (base : Session Database Note) (b : Database) (report : PlaybookReport) :
    Session Database Note → Prop :=
  Stage base b.playbooks.executions.next (Created b (created report)) (created report)

/-- The stage goes on with another report, or it has given up. -/
def Advances (base : Session Database Note) (b : Database) (r : Except String PlaybookReport)
    (s : Session Database Note) : Prop :=
  match r with
  | .ok report => PlaybookStage base b report s
  | .error _ => Escaped base s

/-- A result that reports no creation leaves the stage where it is. -/
theorem PlaybookStage.add {report : PlaybookReport} (h : PlaybookStage base b report s)
    {result : PlaybookResult} (hresult : ∀ id, result.outcome ≠ .created id) :
    PlaybookStage base b (report.add result) s := by
  have hsame : created (report.add result) = created report := by
    rw [created_add]
    split
    · next id houtcome => exact absurd houtcome (hresult id)
    · exact List.append_nil _
  unfold PlaybookStage
  rw [hsame]
  exact h

theorem createForPlaybook_stage (index alertId : Nat) (playbookId : String)
    (report : PlaybookReport) :
    Holds (PlaybookStage base b report) (createForPlaybook env index alertId playbookId report)
      (Advances base b) := by
  unfold createForPlaybook
  split
  · exact Holds.pure fun s hs => hs.add nofun
  · refine Holds.handle (createPendingExecution_stage playbookId alertId) fun r => ?_
    rcases r with message | _ | executionId
    · refine Holds.pure fun s hs => ?_
      have hmatched : PlaybookStage base b report.matched s := hs
      exact hmatched.add nofun
    · refine Holds.pure fun s hs => ?_
      have hmatched : PlaybookStage base b report.matched s := hs
      exact hmatched.add nofun
    · refine Holds.bind (tryCreateAndLink_stage executionId playbookId alertId)
        (fun _ => Holds.pure fun s hs => ?_) fun message s hs => ?_
      · rcases hs with ⟨-, hs⟩ | ⟨⟨_, h⟩, -⟩
        · change PlaybookStage base b _ s
          unfold PlaybookStage
          rw [created_add]
          exact hs
        · cases h
      · rcases hs with ⟨⟨_, h⟩, -⟩ | ⟨-, hs⟩
        · cases h
        · exact hs

theorem createForPlaybooks_stage (index alertId : Nat) (playbooks : List String)
    (report : PlaybookReport) :
    Holds (PlaybookStage base b report) (createForPlaybooks env index alertId playbooks report)
      (Advances base b) := by
  induction playbooks generalizing report with
  | nil => exact Holds.pure fun s hs => hs
  | cons playbookId rest ih =>
    exact Holds.bind (createForPlaybook_stage index alertId playbookId report) (fun report' => ih report')
      fun _ _ hs => hs

theorem createForAlert_stage (index : Nat) (alert : CommittedAlert) (report : PlaybookReport) :
    Holds (PlaybookStage base b report) (createForAlert env index alert report)
      (Advances base b) := by
  have hquery {α : Type} (read : Database → α) :
      Holds (PlaybookStage base b report) (query env noteFailure read)
        fun _ => PlaybookStage base b report := by
    refine Stage.statement fun _ _ _ _ hdb h => ?_
    cases h
    exact hdb
  have hparent (alertId : Nat) :
      Keeps base b.playbooks.executions.next (Created b (created report)) (created report)
        (getParentSoarCorrelationId env alertId) := by
    refine Keeps.handle (hquery _) fun r => ?_
    cases r <;> exact Keeps.pure
  have hmatch (alertId : Nat) :
      Keeps base b.playbooks.executions.next (Created b (created report)) (created report)
        (matchPlaybooks env alertId) := by
    refine Keeps.handle (hquery _) fun r => ?_
    cases r <;> exact Keeps.pure
  unfold createForAlert
  cases alert.alertId with
  | none => exact Holds.pure fun s hs => hs.add nofun
  | some alertId =>
    refine Keeps.seq (hparent alertId) fun _ => Keeps.seq (hmatch alertId) fun playbooks => ?_
    split
    · refine Holds.pure fun s hs => ?_
      have hprocessed : PlaybookStage base b report.processed s := hs
      exact hprocessed.add nofun
    · exact createForPlaybooks_stage index alertId playbooks report.processed

theorem createForAlerts_stage (env : Environment) (index : Nat) (alerts : List CommittedAlert)
    (report : PlaybookReport) :
    Holds (PlaybookStage base b report) (createForAlerts env index alerts report)
      (Advances base b) := by
  induction alerts generalizing index report with
  | nil => exact Holds.pure fun s hs => hs
  | cons alert rest ih =>
    exact Holds.bind (createForAlert_stage index alert report) (fun report' => ih (index + 1) report')
      fun _ _ hs => hs

/-- What the playbook stage leaves: the queue as it was, new executions that are all reported, and every
    reported execution exactly when its transactions were intact. -/
structure PlaybooksLeft (b : Database) (report : PlaybookReport) (d : Database)
    (logs : List (List Note)) : Prop where
  queue : d.queue = b.queue
  stored : Stored Execution.alertId d.playbooks.executions (created report) ↔ ∀ log ∈ logs, Intact log
  listed : ∀ id row, b.playbooks.executions.next ≤ id → d.playbooks.execution? id = some row →
    ∃ pair ∈ created report, pair.2 = id ∧ row.alertId = pair.1

/-- The first transaction: its report, or nothing where the stage has given up. -/
theorem createPendingExecutions_settled (alerts : List CommittedAlert) {d : Database} :
    Holds (Settled d []) (do
        let report ← createPendingExecutionsForCommittedAlerts env alerts
        commit
        return report) fun r s =>
      (∃ report d' log, r = .ok report ∧ Settled d' [log] s ∧ PlaybooksLeft d report d' [log]) ∨
        ((∃ message, r = .error message) ∧ s.committed = d ∧ s.history = [] ∧ Intact s.log) := by
  intro s hs
  have hstart : PlaybookStage s s.committed {} s := by
    rw [← hs.committed] at hs
    exact hs.stage ⟨rfl, Reported.refl _ _⟩
  have hrun := createForAlerts_stage env 0 alerts {} s hstart
  have hcommitted := hs.committed
  rw [bind_apply]
  unfold createPendingExecutionsForCommittedAlerts
  rcases hresult : createForAlerts env 0 alerts {} s with ⟨message | report, s'⟩
  · rw [hresult] at hrun
    exact .inr ⟨⟨message, rfl⟩, hrun.committed.trans hs.committed, hrun.history.trans hs.history,
      hrun.intact⟩
  · rw [hresult] at hrun
    have hstage : Stage s s.committed.playbooks.executions.next (Created s.committed (created report))
      (created report) s' := hrun
    have hhistory : s'.history = [] := hstage.history.trans hs.history
    refine .inl ⟨report, committedBy s', s'.log, rfl, ?_, ?_⟩
    · have hended := ended_settled s' (committedBy s')
      rw [hhistory] at hended
      exact hended
    · subst hcommitted
      refine ⟨hstage.committedBy_of (P := fun db => db.queue = s.committed.queue) rfl
          fun db hdb => hdb.1, ?_, fun id row hid hrow => ?_⟩
      · rw [hstage.stored_iff (fun db => db.playbooks.executions) fun db hdb => hdb.2]
        simp
      · exact hstage.listed (fun db => db.playbooks.executions) (fun db hdb => hdb.2) hid hrow

def Beside (d db : Database) : Prop := db.playbooks = d.playbooks ∧ db.queue = d.queue

/-- Whatever strikes the notifications, they raise nothing and touch the trail only. -/
theorem sendAlertNotifications_kept (env : Environment) (d : Database) (alerts : List CommittedAlert) :
    Holds (base.Within (Beside d) points) (sendAlertNotificationsForAlerts env alerts)
      fun r s => (∃ answer, r = .ok answer) ∧ base.Within (Beside d) points s := by
  have hnotify (alertId : Nat) : Kept base (Beside d) points (notifyForAlert env alertId) := by
    refine Kept.statement fun _ _ _ _ hdb h => ?_
    cases h
    exact hdb
  have hsend (alert : CommittedAlert) : Holds (base.Within (Beside d) points)
      (sendAlertNotification env alert)
      fun r s => (∃ answer, r = .ok answer) ∧ base.Within (Beside d) points s := by
    unfold sendAlertNotification
    split
    · exact Holds.pure fun s hs => ⟨⟨_, rfl⟩, hs⟩
    · exact Holds.pure fun s hs => ⟨⟨_, rfl⟩, hs⟩
    · exact Holds.handle (hnotify _) fun _ => Holds.pure fun s hs => ⟨⟨_, rfl⟩, hs⟩
  induction alerts with
  | nil => exact Holds.pure fun s hs => ⟨⟨_, rfl⟩, hs⟩
  | cons alert rest ih =>
    refine Holds.bind (hsend alert) (fun _ => ih.imp (fun _ hs => hs.2) fun _ _ hs => hs)
      fun _ _ hs => ?_
    obtain ⟨⟨_, h⟩, -⟩ := hs
    cases h

/-- The transaction of the notifications. -/
theorem sendAlertNotifications_settled (alerts : List CommittedAlert) {d : Database}
    {history : List (List Note)} :
    Holds (Settled d history) (do sendAlertNotificationsForAlerts env alerts; commit) fun _ s =>
      ∃ d', Beside d d' ∧ Settled d' (history ++ [[]]) s := by
  intro s hs
  have hstart : s.Within (Beside d) s.savepoints s :=
    ⟨rfl, rfl, rfl, rfl, fun _ => hs.current ▸ ⟨rfl, rfl⟩⟩
  have hrun := sendAlertNotifications_kept env d alerts s hstart
  rw [bind_apply]
  rcases hresult : sendAlertNotificationsForAlerts env alerts s with ⟨message | _, s'⟩
  · rw [hresult] at hrun
    obtain ⟨⟨_, h⟩, -⟩ := hrun
    cases h
  · rw [hresult] at hrun
    obtain ⟨-, hwithin⟩ := hrun
    have hended := ended_settled s' (committedBy s')
    rw [hwithin.history, hwithin.log, hs.history, hs.log] at hended
    refine ⟨committedBy s', ?_, hended⟩
    unfold committedBy
    cases haborted : s'.aborted with
    | false => exact hwithin.current haborted
    | true => exact (hwithin.committed.trans hs.committed).symm ▸ ⟨rfl, rfl⟩

theorem PlaybooksLeft.beside {report : PlaybookReport} {d d' : Database} {logs : List (List Note)}
    (h : PlaybooksLeft b report d logs) (hbeside : Beside d d') :
    PlaybooksLeft b report d' (logs ++ [[]]) where
  queue := hbeside.2.trans h.queue
  stored := by
    rw [hbeside.1, h.stored]
    constructor
    · intro hintact log hlog
      rcases List.mem_append.mp hlog with hlog | hlog
      · exact hintact log hlog
      · rw [List.mem_singleton.mp hlog]
        exact intact_nil
    · exact fun hintact log hlog => hintact log (List.mem_append_left _ hlog)
  listed := by
    rw [hbeside.1]
    exact h.listed

/-- The whole playbook stage. -/
theorem createPlaybookExecutions_settled (alerts : List CommittedAlert) (d : Database) :
    Holds (Settled d []) (createPlaybookExecutionsForAlerts env alerts) fun r s =>
      ∃ report d' logs, r = .ok report ∧ Settled d' logs s ∧ PlaybooksLeft d report d' logs := by
  refine Holds.handle (createPendingExecutions_settled alerts) fun r => ?_
  rcases r with message | report
  · intro s hs
    rcases hs with ⟨_, _, _, h, -⟩ | ⟨-, hcommitted, hhistory, hintact⟩
    · cases h
    · refine ⟨_, s.committed, s.history ++ [s.log], rfl, ended_settled s s.committed, ?_⟩
      rw [hcommitted, hhistory]
      refine ⟨rfl, ?_, fun id row hid hrow => ?_⟩
      · refine iff_of_true nofun fun log hlog => ?_
        rw [List.mem_singleton.mp hlog]
        exact hintact
      · exact absurd (d.playbooks.executions.lt_next hrow) (Nat.not_lt.mpr hid)
  · intro s hs
    obtain ⟨_, d', log, h, hsettled, hleft⟩ | ⟨⟨_, h⟩, -⟩ := hs
    · cases h
      have hrest : Holds (Settled d' [log])
          (do
            let _ ← attempt (do sendAlertNotificationsForAlerts env alerts; commit)
            return report)
          fun r s => r = .ok report ∧ ∃ d'', Beside d' d'' ∧ Settled d'' ([log] ++ [[]]) s :=
        Holds.handle (sendAlertNotifications_settled alerts) fun _ =>
          Holds.pure fun s hs => ⟨rfl, hs⟩
      obtain ⟨hresult, d'', hbeside, hsettled'⟩ := hrest s hsettled
      exact ⟨report, d'', _, hresult, hsettled', hleft.beside hbeside⟩
    · cases h

end Playbooks

/-! ## The queue stage -/

section Enqueueing

/-- The actions that results call enqueued, with their alerts. -/
def enqueued (results : List EnqueueResult) : List (Option Nat × Nat) :=
  results.filterMap fun result =>
    match result.outcome with
    | .enqueued queueId => some (result.alertId, queueId)
    | _ => none

theorem enqueued_append (results more : List EnqueueResult) :
    enqueued (results ++ more) = enqueued results ++ enqueued more := List.filterMap_append

/-- The executions are as they were, and the new actions are those. -/
def Queued (base : Database) (pairs : List (Option Nat × Nat)) (db : Database) : Prop :=
  db.playbooks = base.playbooks ∧ Reported QueueAction.alertId base.queue db.queue pairs

theorem Queued.congr {base db db' : Database} {pairs : List (Option Nat × Nat)}
    (h : Queued base pairs db) (hsame : db'.playbooks = db.playbooks ∧ db'.queue = db.queue) :
    Queued base pairs db' := by
  unfold Queued
  rw [hsame.1, hsame.2]
  exact h

variable {env : Environment} {base : Session Database Note} {b : Database}
  {pairs : List (Option Nat × Nat)} {s : Session Database Note} {excluded : List Nat}
  {results : List EnqueueResult}

/-- Where the stage stands with some pairs to report. -/
def QueueStage (base : Session Database Note) (b : Database) (pairs : List (Option Nat × Nat)) :
    Session Database Note → Prop :=
  Stage base b.queue.next (Queued b pairs) pairs

/-- Whatever the decision of an action comes to, the stage goes on. -/
theorem tryWriteCanonicalEnqueueOutcome_keeps (alertId : Nat) (sourceIp action : String)
    (queueId : Nat) (alert : CommittedAlert) :
    Keeps base b.queue.next (Queued b pairs) pairs
      (tryWriteCanonicalEnqueueOutcome env alertId sourceIp action queueId alert) := by
  refine Keeps.handle (Holds.bind (Stage.statement fun _ _ _ _ hdb h => ?_) (fun decision =>
    Holds.bind (Stage.statement fun _ db _ _ hdb h => ?_) (fun _ =>
      Holds.bind (Stage.statement fun _ _ _ _ hdb h => ?_) (fun _ => Holds.pure fun s hs => hs)
        fun _ _ hs => hs) fun _ _ hs => hs) fun _ _ hs => hs) fun _ => Keeps.pure
  · exact hdb.congr (storeDecision_frame h)
  · cases h
    let linked (row : QueueAction) : QueueAction :=
      { row with
        decisionId := some decision.id
        soarCorrelationId := some decision.soarCorrelationId }
    exact ⟨hdb.1, hdb.2.update (f := linked) (fun _ => rfl) fun _ => rfl⟩
  · exact hdb.congr (storeOutcome_frame h)

/-- An action is queued and has to be reported, or there is none. -/
theorem enqueueAction_stage (alertId : Nat) (sourceIp action : String) :
    Holds (QueueStage base b pairs) (enqueueAction env alertId sourceIp action) fun r s =>
      match r with
      | .ok (some id) => QueueStage base b (pairs ++ [(some alertId, id)]) s
      | _ => QueueStage base b pairs s := by
  refine Holds.statement (fun s _ hs => hs.next) (fun s _ hs hopen => hs.broken hopen)
    fun s id current hs hopen hdone => ?_
  have hdata : Queued b pairs s.current := hs.current hopen
  split at hdone
  · cases hdone
  · next action' _ =>
    unfold enqueueResponseAction at hdone
    split at hdone
    · next hqueued =>
      split at hqueued
      · cases hqueued
        cases hdone
        exact hs.within hopen ⟨rfl, rfl, List.append_nil _, rfl, fun _ => hdata⟩ hopen
      · cases hqueued
        cases hdone
        exact hs.insert hopen hdata.2.next_le ⟨hdata.1, hdata.2.insert (newActionRow_id _ _) rfl⟩

/-- The result of one alert: the stage goes on with it, and it queues nothing for an excluded alert. -/
def Adds (base : Session Database Note) (b : Database) (excluded : List Nat)
    (pairs : List (Option Nat × Nat)) (r : Except String EnqueueResult)
    (s : Session Database Note) : Prop :=
  ∃ result, r = .ok result ∧ QueueStage base b (pairs ++ enqueued [result]) s ∧
    ∀ pair ∈ enqueued [result], ∀ alert ∈ excluded, pair.1 ≠ some alert

/-- A result that queues nothing. -/
theorem QueueStage.add (h : QueueStage base b pairs s) {result : EnqueueResult}
    (hresult : ∀ id, result.outcome ≠ .enqueued id) : Adds base b excluded pairs (.ok result) s := by
  have hnone : enqueued [result] = [] := by
    cases result with
    | mk index alertId sourceIp action outcome =>
      cases outcome with
      | enqueued queueId => exact absurd rfl (hresult queueId)
      | _ => rfl
  refine ⟨result, rfl, ?_, ?_⟩
  · rw [hnone, List.append_nil]
    exact h
  · rw [hnone]
    exact nofun

theorem enqueueAlert_stage (index alertId : Nat) (sourceIp action : String) (alert : CommittedAlert)
    (halert : alertId ∉ excluded) :
    Holds (QueueStage base b pairs) (enqueueAlert env index alertId sourceIp action alert)
      (Adds base b excluded pairs) := by
  refine Holds.handle (enqueueAction_stage alertId sourceIp action) fun r => ?_
  rcases r with message | _ | queueId
  · exact Holds.pure fun s hs => QueueStage.add hs nofun
  · exact Holds.pure fun s hs => QueueStage.add hs nofun
  · refine Keeps.seq (tryWriteCanonicalEnqueueOutcome_keeps alertId sourceIp action queueId alert)
      fun _ => Holds.pure fun s hs => ⟨_, rfl, hs, fun pair hpair other hother heq => ?_⟩
    rw [List.mem_singleton.mp hpair] at heq
    exact halert (Option.some.inj heq ▸ hother)

theorem enqueueCommittedAlert_stage (index : Nat) (alert : CommittedAlert) :
    Holds (QueueStage base b pairs) (enqueueCommittedAlert env excluded index alert)
      (Adds base b excluded pairs) := by
  unfold enqueueCommittedAlert
  split
  · exact Holds.pure fun s hs => hs.add nofun
  · next hexcluded =>
    split
    · exact Holds.pure fun s hs => hs.add nofun
    · exact Holds.pure fun s hs => hs.add nofun
    · exact Holds.pure fun s hs => hs.add nofun
    · next alertId sourceIp action halert _ _ =>
      have hapart : alertId ∉ excluded := by
        rw [halert] at hexcluded
        simpa using hexcluded
      split
      · exact Holds.pure fun s hs => hs.add nofun
      · exact enqueueAlert_stage index alertId sourceIp _ alert hapart

theorem enqueueFrom_stage (env : Environment) (excluded : List Nat) (index : Nat) (alerts : List CommittedAlert) (results : List EnqueueResult)
    (hresults : ∀ pair ∈ enqueued results, ∀ alert ∈ excluded, pair.1 ≠ some alert) :
    Holds (QueueStage base b (enqueued results)) (enqueueFrom env excluded index alerts results)
      fun r s => ∃ results', r = .ok results' ∧ QueueStage base b (enqueued results') s ∧
        ∀ pair ∈ enqueued results', ∀ alert ∈ excluded, pair.1 ≠ some alert := by
  induction alerts generalizing index results with
  | nil => exact Holds.pure fun s hs => ⟨results, rfl, hs, hresults⟩
  | cons alert rest ih =>
    refine Holds.bind (enqueueCommittedAlert_stage index alert) (fun result => ?_) fun _ _ hs => ?_
    · intro s hs
      obtain ⟨_, h, hstage, hapart⟩ := hs
      cases h
      rw [← enqueued_append] at hstage
      refine ih (index + 1) (results ++ [result]) (fun pair hpair => ?_) s hstage
      rw [enqueued_append] at hpair
      rcases List.mem_append.mp hpair with hpair | hpair
      · exact hresults pair hpair
      · exact hapart pair hpair
    · obtain ⟨_, h, -⟩ := hs
      cases h

/-- What the queue stage leaves: the executions as they were, new actions that are all reported and not
    for excluded alerts, and every reported action exactly when its transaction was intact. -/
structure QueueLeft (b : Database) (excluded : List Nat) (results : List EnqueueResult) (d : Database)
    (log : List Note) : Prop where
  playbooks : d.playbooks = b.playbooks
  stored : Stored QueueAction.alertId d.queue (enqueued results) ↔ Intact log
  listed : ∀ id row, b.queue.next ≤ id → d.queue.row? id = some row →
    ∃ pair ∈ enqueued results, pair.2 = id ∧ row.alertId = pair.1
  apart : ∀ pair ∈ enqueued results, ∀ alert ∈ excluded, pair.1 ≠ some alert

/-- The whole queue stage. -/
theorem enqueueForAlerts_settled (alerts : List CommittedAlert) (d : Database)
    (history : List (List Note)) :
    Holds (Settled d history) (enqueueForAlerts env alerts excluded) fun r s =>
      ∃ results d' log, r = .ok results ∧ Settled d' (history ++ [log]) s ∧
        QueueLeft d excluded results d' log := by
  have hcommit : Holds (Settled d history) (do
      let results ← enqueueCommittedAlerts env alerts excluded
      commit
      return results) fun r s => ∃ results d' log, r = .ok results ∧
        Settled d' (history ++ [log]) s ∧ QueueLeft d excluded results d' log := by
    intro s hs
    have hstart : QueueStage s s.committed [] s := by
      rw [← hs.committed] at hs
      exact hs.stage ⟨rfl, Reported.refl _ _⟩
    have hrun := enqueueFrom_stage env excluded 0 alerts [] nofun s hstart
    have hcommitted := hs.committed
    rw [bind_apply]
    unfold enqueueCommittedAlerts
    obtain ⟨results, hresult, hstage, hapart⟩ := hrun
    rcases hend : enqueueFrom env excluded 0 alerts [] s with ⟨r, s'⟩
    rw [hend] at hresult hstage
    obtain rfl : r = .ok results := hresult
    refine ⟨results, committedBy s', s'.log, rfl, ?_, ?_⟩
    · have hended := ended_settled s' (committedBy s')
      rw [hstage.history, hs.history] at hended
      exact hended
    · subst hcommitted
      refine ⟨hstage.committedBy_of (P := fun db => db.playbooks = s.committed.playbooks) rfl
        fun db hdb => hdb.1, ?_, fun id row hid hrow => ?_, hapart⟩
      · exact hstage.stored_iff (fun db => db.queue) fun db hdb => hdb.2
      · exact hstage.listed (fun db => db.queue) (fun db hdb => hdb.2) hid hrow
  refine Holds.handle hcommit fun r => ?_
  cases r with
  | error message =>
    intro s hs
    obtain ⟨_, _, _, h, -⟩ := hs
    cases h
  | ok results => exact Holds.pure fun s hs => hs

end Enqueueing

/-! ## The batch -/

/-- The automation of a batch as it should come out: no alert has a new execution and a new action, and
    what is reported is committed. -/
structure OneAutomatedPath (base d : Database) (report : PlaybookReport)
    (results : List EnqueueResult) : Prop where
  exclusive : ∀ alert execution action, d.playbooks.execution? execution.id = some execution →
    base.playbooks.executions.next ≤ execution.id → d.queue.row? action.id = some action →
    base.queue.next ≤ action.id → ¬ (execution.alertId = some alert ∧ action.alertId = some alert)
  created : ∀ result ∈ report.results, ∀ id, result.outcome = .created id →
    ∃ execution, d.playbooks.execution? id = some execution ∧ execution.alertId = result.alertId
  enqueued : ∀ result ∈ results, ∀ id, result.outcome = .enqueued id →
    ∃ action, d.queue.row? id = some action ∧ action.alertId = result.alertId

theorem mem_created {report : PlaybookReport} {pair : Option Nat × Nat} :
    pair ∈ created report ↔
      ∃ result ∈ report.results, result.outcome = .created pair.2 ∧ result.alertId = pair.1 := by
  unfold created
  rw [List.mem_filterMap]
  refine exists_congr fun result => and_congr_right fun _ => ?_
  split
  · next id houtcome =>
    rw [houtcome, Option.some.injEq, PlaybookOutcome.created.injEq, Prod.ext_iff]
    exact and_comm
  · next hother => exact iff_of_false nofun fun h => hother _ h.1

theorem mem_enqueued {results : List EnqueueResult} {pair : Option Nat × Nat} :
    pair ∈ enqueued results ↔
      ∃ result ∈ results, result.outcome = .enqueued pair.2 ∧ result.alertId = pair.1 := by
  unfold enqueued
  rw [List.mem_filterMap]
  refine exists_congr fun result => and_congr_right fun _ => ?_
  split
  · next id houtcome =>
    rw [houtcome, Option.some.injEq, EnqueueOutcome.enqueued.injEq, Prod.ext_iff]
    exact and_comm
  · next hother => exact iff_of_false nofun fun h => hother _ h.1

/-- The alert of a created execution is claimed. -/
theorem claimed_of_created {report : PlaybookReport} {alert id : Nat}
    (h : (some alert, id) ∈ created report) : alert ∈ playbookClaimedAlertIds report := by
  obtain ⟨result, hresult, houtcome, halert⟩ := mem_created.mp h
  exact List.mem_filterMap.mpr ⟨result, hresult, by rw [houtcome]; exact halert⟩

/-- What both stages leave. -/
def Automated (base : Database) (r : Except String (PlaybookReport × List EnqueueResult))
    (s : Session Database Note) : Prop :=
  ∃ report results d logs log, r = .ok (report, results) ∧ s.history = logs ++ [log] ∧
    PlaybooksLeft base report d logs ∧
    QueueLeft d (playbookClaimedAlertIds report) results s.committed log

theorem automate_settled (env : Environment) (base : Database) (alerts : List CommittedAlert) :
    Holds (Settled base []) (automate env alerts) (Automated base) := by
  refine Holds.bind (createPlaybookExecutions_settled alerts base) (fun report => ?_) fun _ _ hs => ?_
  · intro s hs
    obtain ⟨_, d, logs, h, hsettled, hleft⟩ := hs
    cases h
    have hqueue : Holds (Settled d logs) (do
        let results ← enqueueForAlerts env alerts (playbookClaimedAlertIds report)
        return (report, results)) (Automated base) := by
      refine Holds.bind (enqueueForAlerts_settled alerts d logs) (fun results => ?_) fun _ _ hs => ?_
      · refine Holds.pure fun s hs => ?_
        obtain ⟨_, d', log, h, hsettled, hqueue⟩ := hs
        cases h
        exact ⟨report, results, d, logs, log, rfl, hsettled.history, hleft,
          hsettled.committed.symm ▸ hqueue⟩
      · obtain ⟨_, _, _, h, -⟩ := hs
        cases h
    exact hqueue s hsettled
  · obtain ⟨_, _, _, h, -⟩ := hs
    cases h

/-- No alert ends up on both paths, whatever fails. -/
theorem PlaybooksLeft.exclusive {base d d' : Database} {report : PlaybookReport}
    {results : List EnqueueResult} {logs : List (List Note)} {log : List Note}
    (hplaybooks : PlaybooksLeft base report d logs)
    (hqueue : QueueLeft d (playbookClaimedAlertIds report) results d' log) {alert : Nat}
    {execution : Execution} {action : QueueAction}
    (hexecution : d'.playbooks.execution? execution.id = some execution)
    (hnew : base.playbooks.executions.next ≤ execution.id)
    (haction : d'.queue.row? action.id = some action) (hnew' : base.queue.next ≤ action.id) :
    ¬ (execution.alertId = some alert ∧ action.alertId = some alert) := by
  intro hboth
  rw [hqueue.playbooks] at hexecution
  obtain ⟨pair, hpair, -, halert⟩ := hplaybooks.listed _ _ hnew hexecution
  rw [← hplaybooks.queue] at hnew'
  obtain ⟨pair', hpair', -, halert'⟩ := hqueue.listed _ _ hnew' haction
  rw [hboth.1] at halert
  rw [hboth.2] at halert'
  have hclaimed : alert ∈ playbookClaimedAlertIds report :=
    claimed_of_created (halert ▸ hpair : (some alert, pair.2) ∈ created report)
  exact hqueue.apart pair' hpair' alert hclaimed halert'.symm

/-- Every batch comes out as it should exactly when, in each of its transactions, no failure that no
    savepoint undoes comes after an insertion. -/
theorem one_automated_path_iff_intact (env : Environment) (base : Database)
    (alerts : List CommittedAlert) :
    ∃ report results s, automate env alerts (.start base) = (.ok (report, results), s) ∧
      (OneAutomatedPath base s.committed report results ↔ ∀ log ∈ s.history, Intact log) := by
  rcases hrun : automate env alerts (.start base) with ⟨r, s⟩
  have hleft : Automated base (automate env alerts (.start base)).1 _ :=
    automate_settled env base alerts (.start base) ⟨rfl, rfl, rfl, rfl, rfl⟩
  rw [hrun] at hleft
  obtain ⟨report, results, d, logs, log, hresult, hhistory, hplaybooks, hqueue⟩ := hleft
  have hlogs : (∀ log ∈ s.history, Intact log) ↔ (∀ log ∈ logs, Intact log) ∧ Intact log := by
    rw [hhistory]
    simp only [List.forall_mem_append, List.forall_mem_singleton]
  refine ⟨report, results, s, Prod.ext hresult rfl, ?_⟩
  rw [hlogs, ← hplaybooks.stored, ← hqueue.stored, ← hqueue.playbooks]
  constructor
  · intro h
    refine ⟨fun pair hpair => ?_, fun pair hpair => ?_⟩
    · obtain ⟨result, hresult, houtcome, halert⟩ := mem_created.mp hpair
      exact halert ▸ h.created result hresult pair.2 houtcome
    · obtain ⟨result, hresult, houtcome, halert⟩ := mem_enqueued.mp hpair
      exact halert ▸ h.enqueued result hresult pair.2 houtcome
  · intro h
    refine ⟨fun alert execution action hexecution hnew haction hnew' =>
      hplaybooks.exclusive hqueue hexecution hnew haction hnew', ?_, ?_⟩
    · exact fun result hresult id houtcome =>
        h.1 (result.alertId, id) (mem_created.mpr ⟨result, hresult, houtcome, rfl⟩)
    · exact fun result hresult id houtcome =>
        h.2 (result.alertId, id) (mem_enqueued.mpr ⟨result, hresult, houtcome, rfl⟩)

/-- A database with one playbook and nothing else. -/
def onePlaybook : Database where
  playbooks :=
    { executions := .empty
      definition? := fun id => if id = "contain" then some ⟨"contain", [], true⟩ else none
      approvals := .empty
      decisions := .empty
      outcomes := []
      deadLetters := .empty }
  queue := .empty
  trail := .empty

/-- The playbook matches the first alert only, and the server refuses the twelfth statement: the first
    one for the second alert. -/
def refusedLookup : Environment where
  faults n := if n = 11 then some (.database "canceling statement due to statement timeout") else none
  py := ⟨fun _ => "", fun _ => "", fun _ _ => .ok none⟩
  matched _ alertId := if alertId = 1 then ["contain"] else []
  alertSourceIp _ := some "203.0.113.7"
  references := ⟨fun _ => true, fun _ => true, fun _ => true, fun _ => true, fun _ => true, fun _ => true⟩
  now _ := 0
  uuid _ := "0123456789ab"
  computeIdempotencyKey _ _ _ := ""
  notified _ trail := trail

/-- Two alerts of an ingest. -/
def twoAlerts : List CommittedAlert :=
  [⟨some 1, some "203.0.113.7", some "monitor", some "failed_login"⟩,
    ⟨some 2, some "203.0.113.8", none, some "failed_login"⟩]

/-- The execution for the first alert is reported as created and is not in the database: the lookup for
    the second alert has aborted the transaction they share. -/
theorem reported_execution_rolled_back :
    ¬ ∀ (env : Environment) (base : Database) (alerts : List CommittedAlert) report results s,
      automate env alerts (.start base) = (.ok (report, results), s) →
        OneAutomatedPath base s.committed report results := by
  intro h
  have hrun : (automate refusedLookup twoAlerts (.start onePlaybook)).1 =
      .ok (⟨⟨2, 1, 1, 0, 0, 0⟩, [⟨0, some 1, some "contain", .created 1⟩, ⟨1, some 2, none, .noMatch⟩]⟩,
        [⟨0, some 1, some "203.0.113.7", some "monitor", .skipped "playbook_precedence"⟩,
          ⟨1, some 2, some "203.0.113.8", none, .skipped "missing_response_action"⟩]) := by
    decide +kernel
  have hnone : ((automate refusedLookup twoAlerts (.start onePlaybook)).2.committed.playbooks.execution?
      1).isNone = true := by
    decide +kernel
  rcases hend : automate refusedLookup twoAlerts (.start onePlaybook) with ⟨r, s⟩
  rw [hend] at hrun hnone
  have hpath := h refusedLookup onePlaybook twoAlerts _ _ s (hend.trans (Prod.ext hrun rfl))
  obtain ⟨execution, hexecution, -⟩ := hpath.created _ List.mem_cons_self 1 rfl
  rw [hexecution] at hnone
  cases hnone

end SiemDashboard.AutomatedPath
