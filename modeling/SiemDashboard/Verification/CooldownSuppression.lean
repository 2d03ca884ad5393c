import Mathlib.Data.List.Induction
import SiemDashboard.Engines.PfsenseCooldown

/-!
# Suppression after a closure

Which candidates the cooldown of closed pfSense alerts holds back, over every history of closures.  The
check looks at the closure that was recorded last, not at all of them.

* **Closures** — `ClosedAt`, `RecordedAt`, `mem_auditLog`.
* **Check** — `mem_closureRows`, `mem_closureRows_after`.
* **Result** — `SuppressesAsClaimed`, `LastClosureMostSevere`, `cooldown_suppression`, and a low alert
  that is closed after a high one.
-/

namespace SiemDashboard.PfsenseCooldown

open Tables

/-! ## Closures -/

/-- The operation closes the alert at the time. -/
def Closes (id : Nat) (t : Int) (s : State) (op : Op) : Prop :=
  s.alerts.row? id ≠ none ∧ ∃ recorded, op = .updateStatus id "resolved" t recorded

/-- The operation closes the alert at the time, and the closure is recorded. -/
def Records (id : Nat) (t : Int) (s : State) (op : Op) : Prop :=
  s.alerts.row? id ≠ none ∧ op = .updateStatus id "resolved" t true

/-- The alert was closed at the time. -/
def ClosedAt (ops : List Op) (id : Nat) (t : Int) : Prop :=
  Runs.Happened step (Closes id t) State.init ops

/-- The alert was closed at the time, and the closure was recorded. -/
def RecordedAt (ops : List Op) (id : Nat) (t : Int) : Prop :=
  Runs.Happened step (Records id t) State.init ops

theorem RecordedAt.closedAt {ops : List Op} {id : Nat} {t : Int} (h : RecordedAt ops id t) :
    ClosedAt ops id t := by
  obtain ⟨pre, op, hprefix, hexists, hop⟩ := h
  exact ⟨pre, op, hprefix, hexists, true, hop⟩

/-- What a history adds to the audit log about closures. -/
theorem mem_auditLog_step {s : State} {op : Op} {id : Nat} {t : Int} :
    ⟨"UPDATE_ALERT_STATUS", id, "resolved", t⟩ ∈ (step s op).auditLog ↔
      ⟨"UPDATE_ALERT_STATUS", id, "resolved", t⟩ ∈ s.auditLog ∨ Records id t s op := by
  cases op with
  | create sourceIp alertType severity => simp [step, insertAlert, Records]
  | updateStatus alertId status now recorded =>
    simp only [step, updateAlertStatus, Records, Op.updateStatus.injEq]
    by_cases hstatus : (["open", "resolved"].contains status) = true
    · rw [hstatus]
      cases hrow : s.alerts.row? alertId with
      | none =>
        simp only [Bool.not_true, Bool.false_eq_true, if_false, Option.isNone_none, if_true]
        refine ⟨.inl, fun h => h.resolve_right ?_⟩
        rintro ⟨hid, rfl, -⟩
        exact hid hrow
      | some a =>
        simp only [Bool.not_true, Bool.false_eq_true, if_false, Option.isNone_some, List.mem_append]
        refine or_congr Iff.rfl ?_
        cases recorded with
        | false => simp
        | true =>
          simp only [if_true, List.mem_singleton, AuditRow.mk.injEq, true_and, and_true]
          constructor
          · rintro ⟨rfl, rfl, rfl⟩
            exact ⟨by rw [hrow]; simp, rfl, rfl, rfl⟩
          · rintro ⟨-, rfl, rfl, rfl⟩
            exact ⟨rfl, rfl, rfl⟩
    · have hinvalid : status ≠ "resolved" := by
        rintro rfl
        exact hstatus (by decide)
      rw [Bool.not_eq_true] at hstatus
      simp only [hstatus, Bool.not_false, if_true]
      refine ⟨.inl, fun h => h.resolve_right ?_⟩
      rintro ⟨-, -, hresolved, -⟩
      exact hinvalid hresolved

/-- The audit log holds the closures that were recorded. -/
theorem mem_auditLog {ops : List Op} {id : Nat} {t : Int} :
    ⟨"UPDATE_ALERT_STATUS", id, "resolved", t⟩ ∈ (after ops).auditLog ↔ RecordedAt ops id t := by
  induction ops using List.reverseRecOn with
  | nil =>
    have hempty : (after []).auditLog = [] := rfl
    rw [hempty]
    exact ⟨fun h => absurd h List.not_mem_nil, fun h => absurd h Runs.not_happened_nil⟩
  | append_singleton ops op ih =>
    have hstep : after (ops ++ [op]) = step (after ops) op := Runs.after_append _ _ _
    rw [hstep, mem_auditLog_step, ih]
    exact Runs.happened_append_singleton.symm

/-! ## Check -/

section Check

variable {s : State} {sourceIp alertType : String} {now : Int}

theorem mem_closureRows {row : Alert × AuditRow} :
    row ∈ closureRows s sourceIp alertType now ↔
      row.1 ∈ s.alerts.rows ∧ isResolvedOf sourceIp alertType row.1 = true ∧ row.2 ∈ s.auditLog ∧
        recordsClosure now row.1 row.2 = true := by
  obtain ⟨a, entry⟩ := row
  simp only [closureRows, List.mem_flatMap, List.mem_map, List.mem_filter, Prod.mk.injEq]
  constructor
  · rintro ⟨a', ⟨ha, hof⟩, entry', ⟨hentry, hrecords⟩, rfl, rfl⟩
    exact ⟨ha, hof, hentry, hrecords⟩
  · rintro ⟨ha, hof, hentry, hrecords⟩
    exact ⟨a, ⟨ha, hof⟩, entry, ⟨hentry, hrecords⟩, rfl, rfl⟩

end Check

/-! ## Result -/

section Result

variable (ops : List Op) (sourceIp alertType : String) (now : Int)

/-- An alert of the source and the type that is resolved now was closed in the window. -/
def ClosedWithin (a : Alert) : Prop :=
  a ∈ (after ops).alerts.rows ∧ isResolvedOf sourceIp alertType a = true ∧
    ∃ t, windowStart now ≤ t ∧ ClosedAt ops a.id t

/-- A closure in the window of an alert of the source and the type that is resolved now is recorded. -/
def RecordedWithin (a : Alert) (t : Int) : Prop :=
  a ∈ (after ops).alerts.rows ∧ isResolvedOf sourceIp alertType a = true ∧ windowStart now ≤ t ∧
    RecordedAt ops a.id t

/-- No closure was recorded later. -/
def RecordedLast (a : Alert) (t : Int) : Prop :=
  RecordedWithin ops sourceIp alertType now a t ∧
    ∀ b t', RecordedWithin ops sourceIp alertType now b t' → t' ≤ t

/-- However the database orders rows of one time, a candidate is suppressed just where an alert at least as severe
    was closed in the window, and then it makes no new alert. -/
structure SuppressesAsClaimed : Prop where
  suppressed_iff : ∀ query severity,
    pfsenseCooldownSuppresses query (after ops) sourceIp alertType now severity = true ↔
      ∃ a, ClosedWithin ops sourceIp alertType now a ∧ severityRank severity ≤ severityRank a.severity
  noNewAlert : ∀ query severity,
    (∃ a, ClosedWithin ops sourceIp alertType now a ∧
      severityRank severity ≤ severityRank a.severity) →
    considerCandidate query (after ops) sourceIp alertType now severity = after ops

/-- Where alerts were closed in the window, a closure is recorded, and the ones recorded last are of
    alerts that are as severe as any of them. -/
def LastClosureMostSevere : Prop :=
  ∀ a, ClosedWithin ops sourceIp alertType now a →
    (∃ b t, RecordedLast ops sourceIp alertType now b t) ∧
    ∀ b t, RecordedLast ops sourceIp alertType now b t → severityRank a.severity ≤ severityRank b.severity

variable {ops sourceIp alertType now}

theorem mem_closureRows_after {row : Alert × AuditRow} :
    row ∈ closureRows (after ops) sourceIp alertType now ↔
      RecordedWithin ops sourceIp alertType now row.1 row.2.createdAt ∧
        row.2 = ⟨"UPDATE_ALERT_STATUS", row.1.id, "resolved", row.2.createdAt⟩ := by
  obtain ⟨a, eventType, targetAlertId, status, createdAt⟩ := row
  rw [mem_closureRows, RecordedWithin, ← mem_auditLog]
  simp only [recordsClosure, Bool.and_eq_true, decide_eq_true_eq, AuditRow.mk.injEq, and_true]
  constructor
  · rintro ⟨ha, hof, hentry, ⟨⟨rfl, rfl⟩, rfl⟩, hwindow⟩
    exact ⟨⟨ha, hof, hwindow, hentry⟩, rfl, rfl, rfl⟩
  · rintro ⟨⟨ha, hof, hwindow, hentry⟩, rfl, rfl, rfl⟩
    exact ⟨ha, hof, hentry, ⟨⟨rfl, rfl⟩, rfl⟩, hwindow⟩

def closureRow (a : Alert) (t : Int) : Alert × AuditRow :=
  (a, ⟨"UPDATE_ALERT_STATUS", a.id, "resolved", t⟩)

theorem closureRow_mem {a : Alert} {t : Int} (h : RecordedWithin ops sourceIp alertType now a t) :
    closureRow a t ∈ closureRows (after ops) sourceIp alertType now :=
  mem_closureRows_after.mpr ⟨h, rfl⟩

/-- The row that the query returns is that of a closure that was recorded last. -/
theorem recordedLast_of_lastClosure {query : ClosureQuery} {row : Alert × AuditRow}
    (h : lastClosure query (after ops) sourceIp alertType now = some row) :
    RecordedLast ops sourceIp alertType now row.1 row.2.createdAt := by
  obtain ⟨hrow, hlast⟩ := query.head_newest h
  refine ⟨(mem_closureRows_after.mp hrow).1, fun b t hb => ?_⟩
  exact hlast (closureRow b t) (closureRow_mem hb)

/-- A closure that was recorded last may be the one that the query returns. -/
theorem exists_lastClosure_eq {a : Alert} {t : Int} (h : RecordedLast ops sourceIp alertType now a t) :
    ∃ query, lastClosure query (after ops) sourceIp alertType now = some (closureRow a t) := by
  refine Queries.NewestFirst.exists_head (closureRow_mem h.1) fun other hother => ?_
  exact h.2 other.1 other.2.createdAt (mem_closureRows_after.mp hother).1

theorem suppresses_of_lastClosure {query : ClosureQuery} {row : Alert × AuditRow} {severity : String}
    (h : lastClosure query (after ops) sourceIp alertType now = some row) :
    pfsenseCooldownSuppresses query (after ops) sourceIp alertType now severity = true ↔
      severityRank severity ≤ severityRank row.1.severity := by
  unfold pfsenseCooldownSuppresses
  rw [h]
  exact decide_eq_true_iff

theorem exists_lastClosure_of_suppresses {query : ClosureQuery} {severity : String}
    (h : pfsenseCooldownSuppresses query (after ops) sourceIp alertType now severity = true) :
    ∃ row, lastClosure query (after ops) sourceIp alertType now = some row := by
  unfold pfsenseCooldownSuppresses at h
  cases hlast : lastClosure query (after ops) sourceIp alertType now with
  | none =>
    rw [hlast] at h
    cases h
  | some row => exact ⟨row, rfl⟩

theorem RecordedWithin.closedWithin {a : Alert} {t : Int}
    (h : RecordedWithin ops sourceIp alertType now a t) : ClosedWithin ops sourceIp alertType now a :=
  ⟨h.1, h.2.1, t, h.2.2.1, h.2.2.2.closedAt⟩

/-- **Suppression.**  After any history, the cooldown suppresses the candidates that it should just where
    the closures recorded last are of the most severe alerts that were closed in the window. -/
theorem cooldown_suppression (ops : List Op) (sourceIp alertType : String) (now : Int) :
    SuppressesAsClaimed ops sourceIp alertType now ↔
      LastClosureMostSevere ops sourceIp alertType now := by
  constructor
  · intro h a ha
    constructor
    · have hsuppressed := (h.suppressed_iff (Queries.NewestFirst.stable closureTime) a.severity).mpr
        ⟨a, ha, le_refl _⟩
      obtain ⟨row, hrow⟩ := exists_lastClosure_of_suppresses hsuppressed
      exact ⟨row.1, row.2.createdAt, recordedLast_of_lastClosure hrow⟩
    · intro b t hlast
      obtain ⟨query, hquery⟩ := exists_lastClosure_eq hlast
      have hsuppressed := (h.suppressed_iff query a.severity).mpr ⟨a, ha, le_refl _⟩
      exact (suppresses_of_lastClosure hquery).mp hsuppressed
  · intro h
    have hiff (query : ClosureQuery) (severity : String) :
        pfsenseCooldownSuppresses query (after ops) sourceIp alertType now severity = true ↔
          ∃ a, ClosedWithin ops sourceIp alertType now a ∧
            severityRank severity ≤ severityRank a.severity := by
      constructor
      · intro hsuppressed
        obtain ⟨row, hrow⟩ := exists_lastClosure_of_suppresses hsuppressed
        exact ⟨row.1, (recordedLast_of_lastClosure hrow).1.closedWithin,
          (suppresses_of_lastClosure hrow).mp hsuppressed⟩
      · rintro ⟨a, ha, hrank⟩
        obtain ⟨⟨b, t, hlast⟩, hsevere⟩ := h a ha
        cases hrow : lastClosure query (after ops) sourceIp alertType now with
        | none =>
          have hmem := closureRow_mem hlast.1
          rw [query.order_eq_nil.mp (List.head?_eq_none_iff.mp hrow)] at hmem
          cases hmem
        | some row =>
          rw [suppresses_of_lastClosure hrow]
          exact le_trans hrank (hsevere _ _ (recordedLast_of_lastClosure hrow))
    refine ⟨hiff, fun query severity hclosed => ?_⟩
    unfold considerCandidate
    rw [(hiff query severity).mpr hclosed]
    simp

/-- A high alert is closed, then a low one of the same source and type. -/
def lowClosedLast : List Op :=
  [.create "203.0.113.7" "pfsense_firewall_repeated_deny" "high",
    .updateStatus 1 "resolved" 0 true,
    .create "203.0.113.7" "pfsense_firewall_repeated_deny" "low",
    .updateStatus 2 "resolved" 60000000 true]

/-- A medium candidate is not suppressed although a high alert was closed two minutes before. -/
theorem medium_candidate_not_suppressed :
    ¬ SuppressesAsClaimed lowClosedLast "203.0.113.7" "pfsense_firewall_repeated_deny" 120000000 := by
  intro h
  have hclosed : ClosedAt lowClosedLast 1 0 :=
    ⟨lowClosedLast.take 1, .updateStatus 1 "resolved" 0 true, by decide +kernel, by decide +kernel,
      true, rfl⟩
  have hrows : (⟨1, "pfsense_firewall_repeated_deny", "high", "203.0.113.7", "resolved"⟩ : Alert) ∈
      (after lowClosedLast).alerts.rows := by
    decide +kernel
  have hsuppressed := (h.suppressed_iff (Queries.NewestFirst.stable closureTime) "medium").mpr
    ⟨_, ⟨hrows, by decide +kernel, 0, by decide +kernel, hclosed⟩, by decide +kernel⟩
  have hkept : pfsenseCooldownSuppresses (Queries.NewestFirst.stable closureTime)
      (after lowClosedLast) "203.0.113.7" "pfsense_firewall_repeated_deny" 120000000 "medium" =
        false := by
    decide +kernel
  rw [hkept] at hsuppressed
  exact Bool.false_ne_true hsuppressed

end Result

end SiemDashboard.PfsenseCooldown
