import SiemDashboard.Core.IncidentStore

/-!
# When an incident was resolved

The time of resolution over every run of the incident store.  A resolution writes it, an auto-close
writes it where there is none, and a reopened incident keeps it.

* **History** — `EverResolved`, `EverAutoClosed`: what a run has done to an incident.
* **Invariant** — `Dated`: what the time says about the history; `Known`, kept by every operation.
* **Result** — `resolution_times`, and a reopened incident that still has its time.
-/

namespace SiemDashboard.IncidentResolution

open Tables IncidentStore
open ResponseCommands (IncidentStatus)

/-! ## History -/

/-- The operation leaves the incident resolved. -/
def LeavesResolved (id : Nat) (db : IncidentDb) (op : Surroundings × IncidentOp) : Prop :=
  ∃ i, (stepIncident db op).incidents.row? id = some i ∧ i.status = .resolved

/-- Some operation of the run has left the incident resolved. -/
def EverResolved (ops : List (Surroundings × IncidentOp)) (id : Nat) : Prop :=
  Runs.Happened stepIncident (LeavesResolved id) .empty ops

/-- Some auto-close of the run has closed the incident. -/
def EverAutoClosed (ops : List (Surroundings × IncidentOp)) (id : Nat) : Prop :=
  Runs.Happened stepIncident (fun db op => AutoCloses db op id) .empty ops

/-! ## Invariant -/

/-- What the time of resolution says about an incident's history. -/
structure Dated (everResolved everAutoClosed : Prop) (i : Incident) : Prop where
  whenResolved : i.status = .resolved → i.resolvedAt.isSome = true
  whenOpen : i.isOpen = true → (i.resolvedAt.isSome = true ↔ everResolved)
  whenClosed : i.status = .closed → everResolved ∨ everAutoClosed → i.resolvedAt.isSome = true

/-- A row with its history. -/
structure KnownRow (ever auto : Prop) (i : Incident) : Prop extends Dated ever auto i where
  ever : i.status = .resolved → ever
  notAuto : i.status ≠ .closed → ¬ auto

/-- Every row is dated, and an id that has not been handed out has no history. -/
structure Known (ops : List (Surroundings × IncidentOp)) (db : IncidentDb) : Prop where
  row : ∀ {id i}, db.incidents.row? id = some i →
    KnownRow (EverResolved ops id) (EverAutoClosed ops id) i
  unused : ∀ {id}, db.incidents.next ≤ id → ¬ EverResolved ops id ∧ ¬ EverAutoClosed ops id

variable {ever auto ever' auto' : Prop} {now : Int} {i i' : Incident}

/-- A closed row is known where its time is. -/
theorem KnownRow.of_closed (hstatus : i.status = .closed)
    (htime : ever ∨ auto → i.resolvedAt.isSome = true) : KnownRow ever auto i where
  whenResolved h := by simp [hstatus] at h
  whenOpen h := by simp [Incident.isOpen, hstatus] at h
  whenClosed _ := htime
  ever h := by simp [hstatus] at h
  notAuto h := absurd hstatus h

/-- A resolution leaves the row known. -/
theorem KnownRow.of_resolved (hstatus : i.status = .resolved) (htime : i.resolvedAt.isSome = true)
    (hever : ever) (hauto : ¬ auto) : KnownRow ever auto i where
  whenResolved _ := htime
  whenOpen h := by simp [Incident.isOpen, hstatus] at h
  whenClosed h := by simp [hstatus] at h
  ever _ := hever
  notAuto _ := hauto

/-- An open row is known where its time says whether it has been resolved. -/
theorem KnownRow.of_open (hstatus : i.isOpen = true) (htime : i.resolvedAt.isSome = true ↔ ever)
    (hauto : ¬ auto) : KnownRow ever auto i where
  whenResolved h := by simp [Incident.isOpen, h] at hstatus
  whenOpen _ := htime
  whenClosed h := by simp [Incident.isOpen, h] at hstatus
  ever h := by simp [Incident.isOpen, h] at hstatus
  notAuto _ := hauto

/-- The time of a row that has been resolved. -/
theorem KnownRow.time (h : KnownRow ever auto i) (hever : ever) : i.resolvedAt.isSome = true := by
  cases hstatus : i.status with
  | «open» => exact (h.whenOpen (by simp [Incident.isOpen, hstatus])).mpr hever
  | investigating => exact (h.whenOpen (by simp [Incident.isOpen, hstatus])).mpr hever
  | resolved => exact h.whenResolved hstatus
  | closed => exact h.whenClosed hstatus (.inl hever)

/-- What a transition does to the row and its history. -/
theorem KnownRow.moved (h : KnownRow ever auto i) {status : IncidentStatus}
    (hallowed : status ∈ allowedStatusTransitions i.status)
    (hever : ever' ↔ ever ∨ (i.moveTo status now).status = .resolved)
    (hauto : auto' → auto ∨ (i.moveTo status now).status = .closed ∧
      (i.moveTo status now).resolvedAt.isSome = true) :
    KnownRow ever' auto' (i.moveTo status now) := by
  have hlive : i.status ≠ .closed := by
    intro hclosed
    rw [hclosed] at hallowed
    cases hallowed
  have hold : ¬ auto := h.notAuto hlive
  cases status with
  | resolved =>
    refine KnownRow.of_resolved rfl rfl (hever.mpr (.inr rfl)) fun hauto' => ?_
    rcases hauto hauto' with hauto | ⟨hclosed, -⟩
    · exact hold hauto
    · cases hclosed
  | closed =>
    refine KnownRow.of_closed rfl fun hhistory => ?_
    change i.resolvedAt.isSome = true
    rcases hhistory with hever' | hauto'
    · rcases hever.mp hever' with hever | hresolved
      · exact h.time hever
      · cases hresolved
    · exact (hauto hauto').elim (fun hauto => absurd hauto hold) (·.2)
  | investigating =>
    have hopen : i.isOpen = true := by
      cases hstatus : i.status with
      | «open» => simp [Incident.isOpen, hstatus]
      | _ => simp [hstatus, allowedStatusTransitions] at hallowed
    refine KnownRow.of_open rfl ?_ fun hauto' => ?_
    · change i.resolvedAt.isSome = true ↔ ever'
      rw [hever, h.whenOpen hopen]
      simp [Incident.moveTo]
    · exact (hauto hauto').elim hold fun hclosed => by cases hclosed.1
  | «open» =>
    have hresolved : i.status = .resolved := by
      cases hstatus : i.status with
      | resolved => rfl
      | _ => simp [hstatus, allowedStatusTransitions] at hallowed
    -- a reopened incident keeps its time
    refine KnownRow.of_open rfl ?_ fun hauto' => ?_
    · change i.resolvedAt.isSome = true ↔ ever'
      exact iff_of_true (h.whenResolved hresolved) (hever.mpr (.inl (h.ever hresolved)))
    · exact (hauto hauto').elim hold fun hclosed => by cases hclosed.1

/-- What an operation does to a row and its history. -/
theorem KnownRow.evolves (h : KnownRow ever auto i) (hevolves : Evolves now i i')
    (hever : ever' ↔ ever ∨ i'.status = .resolved)
    (hauto : auto' → auto ∨ i'.status = .closed ∧ i'.resolvedAt.isSome = true) :
    KnownRow ever' auto' i' := by
  cases hevolves with
  | kept hstatus hresolved =>
    have hsame : ever' ↔ ever := by
      rw [hever, hstatus]
      exact or_iff_left_of_imp h.ever
    cases hcase : i.status with
    | resolved =>
      refine KnownRow.of_resolved (hstatus.trans hcase) ?_ (hsame.mpr (h.ever hcase)) ?_
      · rw [hresolved]
        exact h.whenResolved hcase
      · intro hauto'
        rcases hauto hauto' with hauto | ⟨hclosed, -⟩
        · exact h.notAuto (by simp [hcase]) hauto
        · simp [hstatus, hcase] at hclosed
    | closed =>
      refine KnownRow.of_closed (hstatus.trans hcase) fun hhistory => ?_
      rcases hhistory with hever' | hauto'
      · rw [hresolved]
        exact h.time (hsame.mp hever')
      · rcases hauto hauto' with hauto | ⟨-, htime⟩
        · rw [hresolved]
          exact h.whenClosed hcase (.inr hauto)
        · exact htime
    | _ =>
      have hopen : i.isOpen = true := by simp [Incident.isOpen, hcase]
      refine KnownRow.of_open (by simp [Incident.isOpen, hstatus, hcase]) ?_ ?_
      · rw [hresolved, hsame]
        exact h.whenOpen hopen
      · intro hauto'
        rcases hauto hauto' with hauto | ⟨hclosed, -⟩
        · exact h.notAuto (by simp [hcase]) hauto
        · simp [hstatus, hcase] at hclosed
  | moved status hallowed hmoved =>
    subst hmoved
    exact h.moved hallowed hever hauto
  | closed hclosable hclosed =>
    subst hclosed
    refine KnownRow.of_closed rfl fun _ => ?_
    cases hresolved : i.resolvedAt with
    | none => simp [Incident.close, hresolved]
    | some time => simp [Incident.close, hresolved]

/-- A new row has no history but its creation. -/
theorem KnownRow.new (hstatus : i.status = .open) (htime : i.resolvedAt = none)
    (hever : ¬ ever) (hauto : ¬ auto) : KnownRow ever auto i :=
  KnownRow.of_open (by simp [Incident.isOpen, hstatus]) (by simp [htime, hever]) hauto

theorem known_empty : Known [] .empty where
  row h := by cases h
  unused _ := ⟨Runs.not_happened_nil, Runs.not_happened_nil⟩

/-- The history of the row that an operation leaves. -/
theorem everResolved_append {ops : List (Surroundings × IncidentOp)}
    {op : Surroundings × IncidentOp} {id : Nat} {i : Incident}
    (hrow : (stepIncident (Runs.after stepIncident .empty ops) op).incidents.row? id = some i) :
    EverResolved (ops ++ [op]) id ↔ EverResolved ops id ∨ i.status = .resolved := by
  rw [EverResolved, Runs.happened_append_singleton]
  refine or_congr Iff.rfl ⟨?_, fun h => ⟨i, hrow, h⟩⟩
  rintro ⟨j, hj, hresolved⟩
  rw [hrow] at hj
  cases hj
  exact hresolved

theorem known_step {ops : List (Surroundings × IncidentOp)}
    (h : Known ops (Runs.after stepIncident .empty ops)) (op : Surroundings × IncidentOp) :
    Known (ops ++ [op]) (stepIncident (Runs.after stepIncident .empty ops) op) := by
  have hevolution := stepIncident_evolution (Runs.after stepIncident .empty ops) op
  have hauto {id : Nat} {i : Incident}
      (hrow : (stepIncident (Runs.after stepIncident .empty ops) op).incidents.row? id = some i) :
      EverAutoClosed (ops ++ [op]) id →
        EverAutoClosed ops id ∨ i.status = .closed ∧ i.resolvedAt.isSome = true := by
    rw [EverAutoClosed, Runs.happened_append_singleton]
    exact Or.imp_right fun hcloses => closed_of_autoCloses hcloses hrow
  constructor
  · intro id i hrow
    rcases hevolution.row hrow with ⟨hnew, hstatus, htime⟩ | ⟨before, hbefore, hevolves⟩
    · obtain ⟨hresolved, hclosed⟩ := h.unused hnew
      refine KnownRow.new hstatus htime ?_ ?_
      · rw [everResolved_append hrow]
        simp [hresolved, hstatus]
      · intro hhistory
        simpa [hclosed, hstatus] using hauto hrow hhistory
    · exact (h.row hbefore).evolves hevolves (everResolved_append hrow) (hauto hrow)
  · intro id hunused
    obtain ⟨hresolved, hclosed⟩ := h.unused (hevolution.next_le.trans hunused)
    have hnone := (stepIncident (Runs.after stepIncident .empty ops) op).incidents.fresh id hunused
    rw [EverResolved, EverAutoClosed, Runs.happened_append_singleton,
      Runs.happened_append_singleton]
    refine ⟨?_, ?_⟩
    · rintro (hever | ⟨i, hi, -⟩)
      · exact hresolved hever
      · rw [hnone] at hi
        cases hi
    · rintro (hever | hcloses)
      · exact hclosed hever
      · exact row_of_autoCloses hcloses
          ((Runs.after stepIncident .empty ops).incidents.fresh id (hevolution.next_le.trans hunused))

theorem known_after (ops : List (Surroundings × IncidentOp)) :
    Known ops (Runs.after stepIncident .empty ops) := by
  induction ops using List.reverseRecOn with
  | nil => exact known_empty
  | append_singleton ops op ih =>
    rw [Runs.after_append]
    exact known_step ih op

/-! ## Result -/

/-- In every state that a run of the store reaches, a resolved incident has a time of resolution; an
    open one, or one being investigated, has one just where it has been resolved before; and a closed
    one has one where it has been resolved or was closed by an auto-close. -/
theorem resolution_times (ops : List (Surroundings × IncidentOp)) :
    ∀ i ∈ (Runs.after stepIncident .empty ops).incidents.rows,
      Dated (EverResolved ops i.id) (EverAutoClosed ops i.id) i :=
  fun _ hi => ((known_after ops).row (Table.mem_rows.mp hi)).toDated

/-- A moment at which nothing else is in the other tables. -/
def quiet (now : Int) : Surroundings :=
  ⟨now, some, fun _ => true, fun _ => false, fun _ => 0, fun _ => 0, fun _ => 0⟩

/-- An incident is created, resolved and reopened. -/
def reopening : List (Surroundings × IncidentOp) :=
  [(quiet 1, .create "[AUTO] HIGH alert" "HIGH" "203.0.113.52" none),
    (quiet 2, .updateStatus 1 "resolved"), (quiet 3, .updateStatus 1 "open")]

theorem reopened_incident_dated :
    ∃ i ∈ (Runs.after stepIncident .empty reopening).incidents.rows,
      Dated (EverResolved reopening i.id) (EverAutoClosed reopening i.id) i := by
  have hrows : (Runs.after stepIncident .empty reopening).incidents.rows ≠ [] := by
    decide +kernel
  exact ⟨_, List.head_mem hrows, resolution_times reopening _ (List.head_mem hrows)⟩

/-- The incident is open, and has a time of resolution. -/
theorem reopened_keeps_time :
    ¬ ∀ i ∈ (Runs.after stepIncident .empty
        [(quiet 1, .create "[AUTO] HIGH alert" "HIGH" "203.0.113.52" none),
          (quiet 2, .updateStatus 1 "resolved"), (quiet 3, .updateStatus 1 "open")]
      ).incidents.rows,
      (i.resolvedAt.isSome = true ↔ i.status = .resolved ∨ i.status = .closed) := by
  decide +kernel

end SiemDashboard.IncidentResolution
