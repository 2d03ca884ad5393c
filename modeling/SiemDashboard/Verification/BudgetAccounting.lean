import SiemDashboard.Core.PaidUsageStore
import SiemDashboard.Lib.Runs

/-!
# Accounting of the paid budget

The amounts of a day are kept by adding and subtracting at each call.  They are always the sums
over the attempts of the day.

* **Sessions** — `Session`: the tables and the reservations handed out so far; `Op`: a change of
  the configuration, a `reserve`, or a `settle` of a reservation that was handed out.
* **Accounts** — `Balanced`, `Backed`, `session_step`.
* **Result** — `budget_accounted`.
-/

namespace SiemDashboard.BudgetAccounting

open PaidUsageStore Tables

/-! ## Sessions -/

/-- The tables and the reservations that callers hold, settled or not. -/
structure Session where
  store : Store
  issued : List Reservation

/-- The session before any call. -/
def Session.empty : Session := ⟨.empty, []⟩

/-- What happens to the tables. -/
inductive Op where
  /-- The gateway configuration is changed, the cap with it. -/
  | configure (policy? : Option RuntimePolicy)
  | reserve (usageDay : Int) (request : PaidRequest) (pricing : Pricing)
  /-- Settle the reservation at a position of those handed out, for the first time or again. -/
  | settle (position : Nat) (response : PaidResponse) (pricing : Pricing)

/-- The session after a `reserve`. -/
def Session.afterReserve (s : Session) : Except PaidError Reservation × Store → Session
  | (.ok reservation, store) => ⟨store, s.issued ++ [reservation]⟩
  | (.error _, store) => ⟨store, s.issued⟩

/-- One operation. -/
def Session.step (s : Session) : Op → Session
  | .configure policy? => { s with store := { s.store with policy? := policy? } }
  | .reserve usageDay request pricing =>
    s.afterReserve (PaidUsageStore.reserve s.store usageDay request pricing)
  | .settle position response pricing =>
    match s.issued[position]? with
    | none => s
    | some reservation =>
      ⟨(PaidUsageStore.settle s.store reservation response pricing).2, s.issued⟩

/-! ## Accounts -/

/-- What an attempt still holds of the budget of a day. -/
def outstanding (usageDay : Int) (attempt : Attempt) : Money :=
  if attempt.usageDay = usageDay ∧ attempt.status = .reserved then attempt.reservedCost else 0

def charged (usageDay : Int) (attempt : Attempt) : Money :=
  if attempt.usageDay = usageDay then attempt.settledCost.getD 0 else 0

/-- The amounts of every day are the sums over its attempts. -/
def Balanced (store : Store) : Prop :=
  ∀ usageDay, store.reservedOn usageDay = store.attempts.total (outstanding usageDay) ∧
    store.settledOn usageDay = store.attempts.total (charged usageDay)

/-- Every reservation is that of a stored attempt, and no reserved attempt is charged yet. -/
structure Backed (s : Session) : Prop where
  issued : ∀ reservation ∈ s.issued, ∃ attempt,
    s.store.attempts.row? reservation.attemptId = some attempt ∧
      attempt.usageDay = reservation.usageDay ∧ attempt.reservedCost = reservation.reservedCost
  uncharged : ∀ id attempt, s.store.attempts.row? id = some attempt →
    attempt.status = .reserved → attempt.settledCost = none

/-- What a call may do: a reservation fits under the cap in force, and a settlement charges no more
    than its reservation. -/
def WithinBudget (s : Session) : Op → Prop
  | .configure _ => True
  | .reserve usageDay request pricing => ∀ reservation,
    (PaidUsageStore.reserve s.store usageDay request pricing).1 = .ok reservation →
      usd (s.store.settledOn usageDay + s.store.reservedOn usageDay + reservation.reservedCost) ≤
        s.store.capInForce pricing
  | .settle position response pricing => ∀ reservation settlement,
    s.issued[position]? = some reservation →
    (PaidUsageStore.settle s.store reservation response pricing).1 = .ok settlement →
      settlement.chargedCost ≤ reservation.reservedCost

/-- Both invariants. -/
def Sound (s : Session) : Prop := Balanced s.store ∧ Backed s

theorem sound_empty : Sound .empty := by
  refine ⟨fun usageDay => ⟨rfl, rfl⟩, ⟨?_, ?_⟩⟩
  · intro reservation h
    cases h
  · intro id attempt h
    cases h

/-- The books after an attempt is inserted and the amounts of its day are moved by its share. -/
theorem balanced_record {store : Store} (h : Balanced store) {usageDay : Int} {day : UsageDay}
    {attempt : Nat → Attempt} {hattempt : ∀ id, (attempt id).id = id}
    (hday : ∀ id, (attempt id).usageDay = usageDay)
    (hreserved : ∀ id, day.reserved = store.reservedOn usageDay +
      outstanding usageDay (attempt id))
    (hsettled : ∀ id, day.settled = store.settledOn usageDay + charged usageDay (attempt id)) :
    Balanced (store.record usageDay day attempt hattempt) := by
  intro other
  have htotal (f : Attempt → Money) :
      (store.record usageDay day attempt hattempt).attempts.total f =
        store.attempts.total f + f (attempt store.attempts.next) :=
    Table.total_insert store.attempts attempt hattempt f
  rw [htotal, htotal, record_reservedOn, record_settledOn, ← (h other).1, ← (h other).2]
  by_cases hother : other = usageDay
  · subst hother
    rw [if_pos rfl, if_pos rfl]
    exact ⟨hreserved _, hsettled _⟩
  · have hne : (attempt store.attempts.next).usageDay ≠ other := by
      rw [hday]
      exact Ne.symm hother
    simp [hother, outstanding, charged, hne]

/-- An inserted attempt leaves those behind the earlier reservations alone. -/
theorem backed_record {s : Session} (h : Backed s) {usageDay : Int} {day : UsageDay}
    {attempt : Nat → Attempt} {hattempt : ∀ id, (attempt id).id = id}
    (hcost : ∀ id, (attempt id).settledCost = none) :
    Backed ⟨s.store.record usageDay day attempt hattempt, s.issued⟩ := by
  refine ⟨?_, ?_⟩
  · intro reservation hmem
    obtain ⟨a, ha, hfields⟩ := h.issued reservation hmem
    exact ⟨a, Table.insert_row?_of_some s.store.attempts attempt hattempt ha, hfields⟩
  · intro id a ha hstatus
    replace ha : (s.store.attempts.insert attempt hattempt).row? id = some a := ha
    rw [Table.insert_row?] at ha
    split at ha
    · cases ha
      exact hcost _
    · exact h.uncharged id a ha hstatus

theorem sound_reserve {s : Session} (h : Sound s) {usageDay : Int} {pricing : Pricing}
    {answer : Except PaidError Reservation} {store : Store}
    (hstep : ReserveStep s.store usageDay pricing answer store) :
    Sound (s.afterReserve (answer, store)) ∧ ∀ reservation, answer = .ok reservation →
      usd (s.store.settledOn usageDay + s.store.reservedOn usageDay + reservation.reservedCost) ≤
        s.store.capInForce pricing := by
  obtain ⟨hbalanced, hbacked⟩ := h
  cases hstep with
  | raised e => exact ⟨⟨hbalanced, hbacked⟩, fun _ => nofun⟩
  | exhausted e hreserved hsettled hday hstatus hcost =>
    refine ⟨⟨balanced_record hbalanced hday ?_ ?_, backed_record hbacked hcost⟩, fun _ => nofun⟩
    · intro id
      simp [outstanding, hstatus, hreserved]
    · intro id
      simp [charged, hcost, hsettled]
  | @granted day attempt hattempt _ _ hreserved hsettled hday hstatus hcost hreservation hcap =>
    obtain ⟨hid, hon, hamount⟩ := hreservation
    refine ⟨⟨balanced_record hbalanced hday ?_ ?_, ?_⟩, ?_⟩
    · intro id
      simp [outstanding, hday, hstatus, (hcost id).1, hreserved]
    · intro id
      simp [charged, (hcost id).2, hsettled]
    · have hold : Backed ⟨s.store.record usageDay day attempt hattempt, s.issued⟩ :=
        backed_record hbacked fun id => (hcost id).2
      refine ⟨?_, hold.uncharged⟩
      intro r hmem
      rcases List.mem_append.mp hmem with hmem | hmem
      · exact hold.issued r hmem
      · rw [List.mem_singleton.mp hmem, hid]
        refine ⟨attempt s.store.attempts.next, ?_, ?_, ?_⟩
        · exact (Table.insert_row? s.store.attempts attempt hattempt _).trans (if_pos rfl)
        · rw [hday, hon]
        · rw [(hcost _).1, hamount]
    · intro r hr
      cases hr
      rwa [hamount]

theorem sound_settle {s : Session} (h : Sound s) {reservation : Reservation}
    (hissued : reservation ∈ s.issued) {answer : Except PaidError Settlement} {store : Store}
    (hstep : SettleStep s.store reservation answer store) :
    Sound ⟨store, s.issued⟩ ∧ ∀ settlement, answer = .ok settlement →
      settlement.chargedCost ≤ reservation.reservedCost := by
  obtain ⟨hbalanced, hbacked⟩ := h
  obtain ⟨a, ha, haday, hacost⟩ := hbacked.issued reservation hissued
  cases hstep with
  | raised e => exact ⟨⟨hbalanced, hbacked⟩, fun _ => nofun⟩
  | @settled attempt day charge status close _ hattempt hreserved hday hclose hcharge
      hsettlement =>
    obtain rfl : a = attempt := Option.some_injective _ (ha.symm.trans hattempt)
    have huncharged := hbacked.uncharged _ a ha hreserved
    obtain ⟨-, hcloseday, hcloseamount, hclosestatus, hclosecost⟩ := hclose a
    have htotal (f : Attempt → Money) := Table.total_update s.store.attempts (fun _ => true) close
      (fun a => (hclose a).1) f ha rfl
    refine ⟨⟨?_, ?_, ?_⟩, ?_⟩
    · intro other
      have hreservedTotal := htotal (outstanding other)
      have hsettledTotal := htotal (charged other)
      have hbooks := hbalanced other
      by_cases hother : other = reservation.usageDay
      · subst hother
        simp [Store.reservedOn, Store.settledOn, hday, outstanding, charged, haday, hcloseday,
          hclosestatus, hclosecost, hreserved, huncharged] at *
        constructor <;> linarith
      · have hne : a.usageDay ≠ other := by
          rw [haday]
          exact Ne.symm hother
        simp [Store.reservedOn, Store.settledOn, hother, outstanding, charged, hne, hcloseday] at *
        constructor <;> linarith
    · intro r hmem
      obtain ⟨b, hb, hbday, hbcost⟩ := hbacked.issued r hmem
      by_cases hid : r.attemptId = reservation.attemptId
      · rw [hid, ha] at hb
        cases hb
        refine ⟨close a, ?_, ?_, ?_⟩
        · rw [Table.update_row?, if_pos hid, ha]
          rfl
        · rw [hcloseday, hbday]
        · rw [hcloseamount, hbcost]
      · exact ⟨b, by rw [Table.update_row?_of_ne _ _ _ _ hid, hb], hbday, hbcost⟩
    · intro id b hb hstatus
      rcases @Table.update_cases _ _ _ _ _ _ (fun a => (hclose a).1) _ _ hb with hb | ⟨b₀, -, -, -, rfl⟩
      · exact hbacked.uncharged id b hb hstatus
      · rw [(hclose b₀).2.2.2.1] at hstatus
        cases hstatus
    · intro settlement hs
      cases hs
      rw [hsettlement, ← hacost]
      exact hcharge

theorem sound_step (s : Session) (op : Op) (h : Sound s) : Sound (s.step op) ∧ WithinBudget s op := by
  cases op with
  | configure policy? => exact ⟨⟨h.1, h.2.issued, h.2.uncharged⟩, trivial⟩
  | reserve usageDay request pricing =>
    exact sound_reserve h (reserve_step s.store usageDay request pricing)
  | settle position response pricing =>
    simp only [Session.step, WithinBudget]
    cases hissued : s.issued[position]? with
    | none => simpa using h
    | some reservation =>
      obtain ⟨hsound, hcharge⟩ := sound_settle h (List.mem_of_getElem? hissued)
        (settle_step s.store reservation response pricing)
      refine ⟨hsound, fun r settlement hr hs => ?_⟩
      obtain rfl := Option.some_injective _ hr
      exact hcharge settlement hs

end SiemDashboard.BudgetAccounting
