import SiemDashboard.Verification.BriefingWindows

/-!
# Coverage of briefing schedules

Which instants the windows of a schedule cover after a call of `materialize_due_schedule` with catch-up on:
those that were covered before, the last windows that are due, and the time from the start of the lookback
to the first due end.

* **Coverage** — `Covered`, `covered_createOrGetWindow`, `covered_materializeFrom`.
* **Due ends** — `passedEnds`, `firstEnd`, `endCount`; `scheduleEnds_eq`.
* **Windows** — `skippedCount`, `Queued`, `Skipped`; `runnableWindows_inside`, `inside_skippedInterval`.
* **Result** — `DueInstant`, `LeftOut`, `NothingLeftOut`, `NoSilentGap`; `noSilentGap_iff`,
  `overnight_gap`.
-/

namespace SiemDashboard.BriefingCoverage

open Tables Intervals BriefingStore

/-! ## Coverage -/

/-- The instant lies in a recorded window of the schedule. -/
def Covered (windows : Windows) (scheduleId : Nat) (t : Int) : Prop :=
  ∃ window ∈ windows.rows, window.scheduleId = scheduleId ∧ Inside window.interval t

instance (windows : Windows) (scheduleId : Nat) (t : Int) : Decidable (Covered windows scheduleId t) :=
  inferInstanceAs (Decidable (∃ window ∈ windows.rows, _))

section Store

variable {env : ScheduleEnv} {db db' : BriefingDb} {scheduleId : Nat} {now t : Int}

/-- A window that is created or found covers its interval, and nothing else changes. -/
theorem covered_createOrGetWindow {new : NewWindow} {answer : ScheduleWindow × Bool}
    (h : createOrGetWindow env db new = .ok (answer, db')) (t : Int) :
    Covered db'.windows new.scheduleId t ↔
      Covered db.windows new.scheduleId t ∨ Inside new.interval t := by
  unfold createOrGetWindow at h
  split at h
  · cases h
  · split at h
    · next window hfound =>
      cases h
      have hmatch := List.find?_some hfound
      rw [Bool.and_eq_true, decide_eq_true_eq, decide_eq_true_eq] at hmatch
      constructor
      · exact Or.inl
      · rintro (hcovered | hinside)
        · exact hcovered
        · refine ⟨window, List.mem_of_find?_eq_some hfound, hmatch.1, ?_⟩
          rw [hmatch.2]
          exact hinside
    · split at h
      · cases h
      · split at h
        · cases h
        · cases h
          unfold Covered
          dsimp only
          rw [Table.insert_rows]
          constructor
          · rintro ⟨window, hmem, hschedule, hinside⟩
            rcases List.mem_append.mp hmem with hold | hnew
            · exact Or.inl ⟨window, hold, hschedule, hinside⟩
            · rw [List.mem_singleton.mp hnew] at hinside
              exact Or.inr hinside
          · rintro (⟨window, hold, hschedule, hinside⟩ | hinside)
            · exact ⟨window, List.mem_append_left _ hold, hschedule, hinside⟩
            · exact ⟨_, List.mem_append_right _ (List.mem_singleton_self _), rfl, hinside⟩

/-- The loop over the windows to queue. -/
theorem covered_queueWindows {windows : List RunnableWindow} {result : MaterializeResult}
    {answer : MaterializeResult × BriefingDb}
    (h : queueWindows env scheduleId now windows result db = .ok answer) :
    Covered answer.2.windows scheduleId t ↔
      Covered db.windows scheduleId t ∨ ∃ window ∈ windows, Inside window.interval t := by
  induction windows generalizing result db with
  | nil =>
    cases h
    simp
  | cons window windows ih =>
    obtain ⟨⟨result', db'⟩, hqueue, hrest⟩ := Checks.bind_eq_ok.mp h
    obtain ⟨found, windowsDb, job, jobs, hfound, -, hdb⟩ := queueWindow_cases hqueue
    have hwindow := covered_createOrGetWindow hfound t
    have hsame : db'.windows = windowsDb.windows := by
      dsimp only at hdb
      rw [hdb]
    rw [ih hrest, hsame, List.exists_mem_cons_iff, ← or_assoc]
    exact or_congr hwindow Iff.rfl

/-- The window of the skipped ends: from the start of the lookback to the first end, or one second
    long. -/
def skippedInterval (settings : Settings) (now : Int) (ends : List Int) : Interval :=
  let start := now - settings.maxLookback
  let stop := min (ends.head?.getD now) now
  ⟨start, if stop ≤ start then start + BriefingStore.seconds 1 else stop⟩

theorem covered_skipWindows {schedule : Schedule} {ends : List Int} {skipped : Nat}
    (h : skipWindows env db schedule now ends skipped = .ok db') :
    Covered db'.windows schedule.id t ↔ Covered db.windows schedule.id t ∨
      (skipped ≠ 0 ∧ Inside (skippedInterval schedule.settings now ends) t) := by
  unfold skipWindows at h
  split at h
  · next hnone =>
    cases h
    simp [hnone]
  · next hsome =>
    unfold createSkippedWindow at h
    obtain ⟨⟨answer, after⟩, hcreated, hafter⟩ := Checks.map_eq_ok.mp h
    subst hafter
    have hwindow := covered_createOrGetWindow hcreated t
    rw [hwindow]
    simp [hsome, skippedInterval]

/-- What a call on a schedule that is due covers. -/
theorem covered_materializeFrom {schedule : Schedule} {nextDue : Int}
    {answer : MaterializeResult × BriefingDb}
    (h : materializeFrom env db schedule nextDue now = .ok answer) :
    Covered answer.2.windows schedule.id t ↔
      Covered db.windows schedule.id t ∨
      ((runnableWindows schedule.settings (scheduleEnds schedule.settings nextDue now).1).2 ≠ 0 ∧
        Inside (skippedInterval schedule.settings now
          (scheduleEnds schedule.settings nextDue now).1) t) ∨
      ∃ window ∈ (runnableWindows schedule.settings
        (scheduleEnds schedule.settings nextDue now).1).1, Inside window.interval t := by
  unfold materializeFrom at h
  obtain ⟨skippedDb, hskipped, h⟩ := Checks.bind_eq_ok.mp h
  obtain ⟨queued, hqueued, h⟩ := Checks.bind_eq_ok.mp h
  cases h
  have hwindows := @covered_queueWindows env skippedDb schedule.id now t _ _ _ hqueued
  have hskip := @covered_skipWindows env db skippedDb now t schedule _ _ hskipped
  rw [hskip, or_assoc] at hwindows
  exact hwindows

end Store

/-! ## Due ends -/

/-- How many due ends lie before the lookback. -/
def passedEnds (settings : Settings) (nextDue now : Int) : Nat :=
  ((now - settings.maxLookback - nextDue + settings.cadence - 1) / settings.cadence).toNat

/-- The first end of the grid that lies in the lookback. -/
def firstEnd (settings : Settings) (nextDue now : Int) : Int :=
  nextDue + passedEnds settings nextDue now * settings.cadence

/-- How many due ends the loop collects. -/
def endCount (settings : Settings) (nextDue now : Int) : Nat :=
  min (dueFuel settings.cadence nextDue now - passedEnds settings nextDue now)
    (settings.maxCatchUp.toNat + 501)

section Ends

variable {cadence earliest current : Int} {limit : Nat}

/-- The loop collects every due end of the lookback, up to its limit. -/
theorem dueEnds_lookback (fuel : Nat) {cursor : Int} {found : Nat} (hcadence : 0 ≤ cadence)
    (hearliest : earliest ≤ cursor) (hdue : ∀ k < fuel, cursor + (k : Int) * cadence ≤ current) :
    (dueEnds cadence earliest current limit fuel cursor found).1 =
      grid cadence cursor (min fuel (limit + 1 - found)) := by
  induction fuel generalizing cursor found with
  | zero => simp [dueEnds, grid]
  | succ fuel ih =>
    have hcursor : cursor ≤ current := by
      have hzero := hdue 0 (Nat.succ_pos fuel)
      simpa using hzero
    by_cases hfound : found ≤ limit
    · have hrest : ∀ k < fuel, cursor + cadence + (k : Int) * cadence ≤ current := by
        intro k hk
        have hnext := hdue (k + 1) (Nat.succ_lt_succ hk)
        push_cast at hnext
        rw [Int.add_mul] at hnext
        omega
      have hcount : min (fuel + 1) (limit + 1 - found) =
          min fuel (limit + 1 - (found + 1)) + 1 := by omega
      rw [dueEnds, if_pos ⟨hcursor, hfound⟩, if_pos hearliest, hcount, grid, ih (by omega) hrest]
    · have hcount : min (fuel + 1) (limit + 1 - found) = 0 := by omega
      rw [dueEnds, if_neg (fun hloop => hfound hloop.2), hcount, grid]

/-- The loop passes over the due ends before the lookback. -/
theorem dueEnds_passed (fuel passed : Nat) {cursor : Int}
    (hpassed : ∀ k < passed, cursor + (k : Int) * cadence < earliest)
    (hdue : ∀ k < passed, cursor + (k : Int) * cadence ≤ current) :
    dueEnds cadence earliest current limit (fuel + passed) cursor 0 =
      dueEnds cadence earliest current limit fuel (cursor + passed * cadence) 0 := by
  induction passed generalizing cursor with
  | zero => simp
  | succ passed ih =>
    have hstep : ∀ k : Nat, cursor + cadence + (k : Int) * cadence =
        cursor + ((k + 1 : Nat) : Int) * cadence := by
      intro k
      push_cast
      ring
    have hcursor : cursor ≤ current := by
      have hzero := hdue 0 (Nat.succ_pos passed)
      simpa using hzero
    have hbefore : ¬ earliest ≤ cursor := by
      have hzero := hpassed 0 (Nat.succ_pos passed)
      simp only [Nat.cast_zero, Int.zero_mul, Int.add_zero] at hzero
      omega
    have hrest := @ih (cursor + cadence)
      (fun k hk => by
        rw [hstep]
        exact hpassed (k + 1) (Nat.succ_lt_succ hk))
      (fun k hk => by
        rw [hstep]
        exact hdue (k + 1) (Nat.succ_lt_succ hk))
    rw [hstep] at hrest
    rw [← Nat.add_assoc, dueEnds, if_pos ⟨hcursor, Nat.zero_le limit⟩, if_neg hbefore, hrest]

end Ends

section Windows

variable {settings : Settings} {nextDue now t : Int}

/-- The due ends are those up to the present. -/
theorem due_iff (hcadence : 0 < settings.cadence) (hdue : nextDue ≤ now) (k : Nat) :
    k < dueFuel settings.cadence nextDue now ↔ nextDue + (k : Int) * settings.cadence ≤ now := by
  have hnonneg : 0 ≤ (now - nextDue) / settings.cadence :=
    Int.ediv_nonneg (by omega) hcadence.le
  have hle : (k : Int) ≤ (now - nextDue) / settings.cadence ↔
      (k : Int) * settings.cadence ≤ now - nextDue := Int.le_ediv_iff_mul_le hcadence
  unfold dueFuel
  omega

/-- The ends that are passed over are those before the lookback. -/
theorem passed_iff (hcadence : 0 < settings.cadence) (k : Nat) :
    k < passedEnds settings nextDue now ↔
      nextDue + (k : Int) * settings.cadence < now - settings.maxLookback := by
  have hle : (k : Int) + 1 ≤ (now - settings.maxLookback - nextDue + settings.cadence - 1) /
      settings.cadence ↔
        ((k : Int) + 1) * settings.cadence ≤
          now - settings.maxLookback - nextDue + settings.cadence - 1 :=
    Int.le_ediv_iff_mul_le hcadence
  rw [Int.add_mul] at hle
  unfold passedEnds
  omega

/-- The first end lies in the lookback. -/
theorem le_firstEnd (hcadence : 0 < settings.cadence) :
    now - settings.maxLookback ≤ firstEnd settings nextDue now := by
  by_contra hbefore
  have hless := (@passed_iff settings nextDue now hcadence _).mpr (Int.not_le.mp hbefore)
  exact absurd hless (Nat.lt_irrefl _)

theorem maxCatchUp_pos (hmax : 0 ≤ settings.maxCatchUpWindows) : 0 < settings.maxCatchUp :=
  orDefault_pos hmax (by decide)

/-- **The due ends** that a call collects. -/
theorem scheduleEnds_eq (hcadence : 0 < settings.cadence) (hmax : 0 ≤ settings.maxCatchUpWindows)
    (hdue : nextDue ≤ now) :
    (scheduleEnds settings nextDue now).1 =
      grid settings.cadence (firstEnd settings nextDue now) (endCount settings nextDue now) := by
  have hpos := maxCatchUp_pos hmax
  have hlimit : (max settings.maxCatchUp 1).toNat + 500 + 1 - 0 =
      settings.maxCatchUp.toNat + 501 := by omega
  by_cases hlookback : passedEnds settings nextDue now ≤ dueFuel settings.cadence nextDue now
  · have hsum : dueFuel settings.cadence nextDue now =
        dueFuel settings.cadence nextDue now - passedEnds settings nextDue now +
          passedEnds settings nextDue now := by omega
    have hfirst : nextDue + passedEnds settings nextDue now * settings.cadence =
        firstEnd settings nextDue now := rfl
    have hrest : ∀ k < dueFuel settings.cadence nextDue now - passedEnds settings nextDue now,
        firstEnd settings nextDue now + (k : Int) * settings.cadence ≤ now := by
      intro k hk
      have hlate := (due_iff hcadence hdue (passedEnds settings nextDue now + k)).mp (by omega)
      push_cast at hlate
      rw [Int.add_mul] at hlate
      rw [← hfirst]
      omega
    rw [scheduleEnds, hsum, dueEnds_passed _ _ (fun k hk => (passed_iff hcadence k).mp hk)
      (fun k hk => (due_iff hcadence hdue k).mp (by omega)), hfirst,
      dueEnds_lookback _ hcadence.le (le_firstEnd hcadence) hrest, hlimit]
    rfl
  · have hcount : endCount settings nextDue now = 0 := by
      unfold endCount
      omega
    have hall := @dueEnds_passed settings.cadence (now - settings.maxLookback) now
      ((max settings.maxCatchUp 1).toNat + 500) 0 (dueFuel settings.cadence nextDue now) nextDue
      (fun k hk => (passed_iff hcadence k).mp (by omega))
      (fun k hk => (due_iff hcadence hdue k).mp hk)
    rw [Nat.zero_add] at hall
    rw [scheduleEnds, hall, hcount]
    rfl

/-! ## Windows -/

/-- How many of the due ends are skipped. -/
def skippedCount (settings : Settings) (nextDue now : Int) : Nat :=
  endCount settings nextDue now - settings.maxCatchUp.toNat

/-- The instant lies in one of the last due windows, as many as may be caught up. -/
def Queued (settings : Settings) (nextDue now t : Int) : Prop :=
  firstEnd settings nextDue now + skippedCount settings nextDue now * settings.cadence -
      settings.cadence ≤ t ∧
    t < firstEnd settings nextDue now + endCount settings nextDue now * settings.cadence -
      settings.cadence

/-- The instant lies between the start of the lookback and the first due end in it, where some due
    ends are skipped. -/
def Skipped (settings : Settings) (nextDue now t : Int) : Prop :=
  skippedCount settings nextDue now ≠ 0 ∧ now - settings.maxLookback ≤ t ∧
    t < if firstEnd settings nextDue now ≤ now - settings.maxLookback then
      now - settings.maxLookback + BriefingStore.seconds 1 else firstEnd settings nextDue now

theorem inside_singleWindows {cadence first : Int} (hcadence : 0 < cadence) (n : Nat) :
    (∃ window ∈ (grid cadence first n).map (singleWindow cadence), Inside window.interval t) ↔
      first - cadence ≤ t ∧ t < first + n * cadence - cadence := by
  simp only [List.mem_map, exists_exists_and_eq_and]
  exact inside_grid_cells hcadence n

/-- **The windows to queue** are the last ones, with no gap between them. -/
theorem runnableWindows_inside (hcadence : 0 < settings.cadence)
    (hmax : 0 ≤ settings.maxCatchUpWindows) (hon : settings.catchUpEnabled = true) {first : Int}
    (n : Nat) :
    ((∃ window ∈ (runnableWindows settings (grid settings.cadence first n)).1,
        Inside window.interval t) ↔
      first + (n - settings.maxCatchUp.toNat : Nat) * settings.cadence - settings.cadence ≤ t ∧
        t < first + n * settings.cadence - settings.cadence) ∧
    (runnableWindows settings (grid settings.cadence first n)).2 = n - settings.maxCatchUp.toNat := by
  have hpos := maxCatchUp_pos hmax
  obtain ⟨m, hm⟩ := Int.eq_ofNat_of_zero_le hpos.le
  have hnat : settings.maxCatchUp.toNat = m := by omega
  unfold runnableWindows
  rw [if_neg (by simp [hon]), length_grid, hnat]
  by_cases hmore : settings.maxCatchUp < n
  · rw [if_pos hmore]
    obtain ⟨k, rfl⟩ : ∃ k, n = k + m := ⟨n - m, by omega⟩
    have hsub : k + m - m = k := Nat.add_sub_cancel k m
    dsimp only
    rw [lastEnds_grid hpos hm, length_grid, hsub]
    have hend : first + ((k + m : Nat) : Int) * settings.cadence =
        first + k * settings.cadence + m * settings.cadence := by
      push_cast
      ring
    refine ⟨?_, by omega⟩
    rw [hend]
    split
    · obtain ⟨m', rfl⟩ : ∃ m', m = m' + 1 := ⟨m - 1, by omega⟩
      have hlast : ((m' + 1 : Nat) : Int) * settings.cadence =
          m' * settings.cadence + settings.cadence := by
        push_cast
        ring
      rw [coalescedWindows, getLast?_grid, hlast]
      simp only [grid, List.head?_cons, List.exists_mem_cons_iff, List.not_mem_nil, false_and,
        exists_false, or_false, Inside]
      omega
    · exact inside_singleWindows hcadence m
  · rw [if_neg hmore]
    have hsub : n - m = 0 := by omega
    refine ⟨?_, hsub.symm⟩
    rw [hsub, Nat.cast_zero, Int.zero_mul, Int.add_zero]
    exact inside_singleWindows hcadence n

/-- **The window of the skipped ends** reaches from the start of the lookback to the first end. -/
theorem inside_skippedInterval (hcadence : 0 < settings.cadence)
    (hmax : 0 ≤ settings.maxCatchUpWindows) (hdue : nextDue ≤ now)
    (hskipped : skippedCount settings nextDue now ≠ 0) :
    Inside (skippedInterval settings now (scheduleEnds settings nextDue now).1) t ↔
      Skipped settings nextDue now t := by
  have hcount : passedEnds settings nextDue now < dueFuel settings.cadence nextDue now := by
    unfold skippedCount endCount at hskipped
    omega
  have hfirst : firstEnd settings nextDue now ≤ now := (due_iff hcadence hdue _).mp hcount
  obtain ⟨n, hn⟩ : ∃ n, endCount settings nextDue now = n + 1 := by
    refine ⟨endCount settings nextDue now - 1, ?_⟩
    unfold skippedCount at hskipped
    omega
  rw [scheduleEnds_eq hcadence hmax hdue, hn]
  simp only [skippedInterval, grid, List.head?_cons, Option.getD_some, Int.min_eq_left hfirst,
    Inside, Skipped, hskipped, ne_eq, not_false_eq_true, true_and]

/-- What a call on a schedule that is due covers. -/
theorem covered_iff {env : ScheduleEnv} {db : BriefingDb} {schedule : Schedule}
    {answer : MaterializeResult × BriefingDb}
    (hvalid : validateSchedule env schedule = .ok ())
    (hon : schedule.settings.catchUpEnabled = true) (hdue : nextDue ≤ now)
    (h : materializeFrom env db schedule nextDue now = .ok answer) :
    Covered answer.2.windows schedule.id t ↔
      Covered db.windows schedule.id t ∨ Skipped schedule.settings nextDue now t ∨
        Queued schedule.settings nextDue now t := by
  obtain ⟨hcadence, hmax⟩ := cadence_pos_of_valid hvalid
  have hwindows := @runnableWindows_inside schedule.settings t hcadence hmax hon
    (firstEnd schedule.settings nextDue now) (endCount schedule.settings nextDue now)
  rw [← scheduleEnds_eq hcadence hmax hdue] at hwindows
  have hcount : (runnableWindows schedule.settings
      (scheduleEnds schedule.settings nextDue now).1).2 =
        skippedCount schedule.settings nextDue now := hwindows.2
  rw [covered_materializeFrom h, hwindows.1, hcount]
  refine or_congr Iff.rfl (or_congr ?_ Iff.rfl)
  by_cases hskipped : skippedCount schedule.settings nextDue now = 0
  · simp [Skipped, hskipped]
  · rw [inside_skippedInterval hcadence hmax hdue hskipped]
    simp [hskipped]

/-! ## Result -/

/-- The instant lies between the start of the earliest due window and the end of the last. -/
def DueInstant (settings : Settings) (nextDue now t : Int) : Prop :=
  nextDue - settings.cadence ≤ t ∧
    t < nextDue + dueFuel settings.cadence nextDue now * settings.cadence - settings.cadence

/-- A due instant that is neither in the last due windows nor before the first end of the lookback. -/
def LeftOut (settings : Settings) (nextDue now t : Int) : Prop :=
  DueInstant settings nextDue now t ∧ ¬ Skipped settings nextDue now t ∧
    ¬ Queued settings nextDue now t

/-- No due end lies before the lookback, and they may all be caught up; or all but the first, whose
    window lies in the lookback. -/
def NothingLeftOut (settings : Settings) (nextDue now : Int) : Prop :=
  ((dueFuel settings.cadence nextDue now : Int) ≤ settings.maxCatchUp ∧
      now - settings.maxLookback ≤ nextDue) ∨
    ((dueFuel settings.cadence nextDue now : Int) = settings.maxCatchUp + 1 ∧
      now - settings.maxLookback ≤ nextDue - settings.cadence)

theorem dueFuel_pos (settings : Settings) (nextDue now : Int) :
    0 < dueFuel settings.cadence nextDue now := Nat.succ_pos _

theorem passedEnds_eq_zero (hcadence : 0 < settings.cadence) :
    passedEnds settings nextDue now = 0 ↔ now - settings.maxLookback ≤ nextDue := by
  have hzero := @passed_iff settings nextDue now hcadence 0
  rw [Nat.cast_zero, Int.zero_mul, Int.add_zero] at hzero
  omega

/-- A first due end before the lookback is left out. -/
theorem leftOut_of_passed (hcadence : 0 < settings.cadence)
    (hpassed : nextDue < now - settings.maxLookback) :
    LeftOut settings nextDue now (nextDue - settings.cadence) := by
  have hpos : passedEnds settings nextDue now ≠ 0 := by
    rw [ne_eq, passedEnds_eq_zero hcadence]
    omega
  have hfirst : settings.cadence ≤ (passedEnds settings nextDue now : Int) * settings.cadence :=
    le_mul_of_one_le_left hcadence.le (by omega)
  have hfuel : settings.cadence ≤
      (dueFuel settings.cadence nextDue now : Int) * settings.cadence := by
    have hone := dueFuel_pos settings nextDue now
    exact le_mul_of_one_le_left hcadence.le (by omega)
  have hskipped : 0 ≤ (skippedCount settings nextDue now : Int) * settings.cadence :=
    Int.mul_nonneg (Int.natCast_nonneg _) hcadence.le
  refine ⟨⟨le_rfl, by omega⟩, ?_, ?_⟩
  · intro hin
    have hstart := hin.2.1
    omega
  · intro hin
    have hstart := hin.1
    unfold firstEnd at hstart
    omega

/-- With two due ends more than may be caught up, the window of the second is left out. -/
theorem leftOut_of_many (hcadence : BriefingStore.minutes 1 ≤ settings.cadence)
    (hmax : 0 ≤ settings.maxCatchUpWindows) (hlookback : now - settings.maxLookback ≤ nextDue)
    (hmany : settings.maxCatchUp + 2 ≤ dueFuel settings.cadence nextDue now) :
    LeftOut settings nextDue now (nextDue + BriefingStore.seconds 1) := by
  unfold BriefingStore.minutes at hcadence
  have hpos := maxCatchUp_pos hmax
  have hzero := (@passedEnds_eq_zero settings nextDue now (by omega)).mpr hlookback
  have hfirst : firstEnd settings nextDue now = nextDue := by simp [firstEnd, hzero]
  have hskipped : 2 ≤ skippedCount settings nextDue now := by
    unfold skippedCount endCount
    omega
  have htwo : 2 * settings.cadence ≤ (skippedCount settings nextDue now : Int) * settings.cadence :=
    Int.mul_le_mul_of_nonneg_right (by omega) (by omega)
  have hthree : 3 * settings.cadence ≤
      (dueFuel settings.cadence nextDue now : Int) * settings.cadence :=
    Int.mul_le_mul_of_nonneg_right (by omega) (by omega)
  unfold BriefingStore.seconds
  refine ⟨⟨by omega, by omega⟩, ?_, ?_⟩
  · intro hin
    have hstop := hin.2.2
    rw [hfirst] at hstop
    unfold BriefingStore.seconds at hstop
    split at hstop
    · omega
    · omega
  · intro hin
    have hstart := hin.1
    rw [hfirst] at hstart
    omega

/-- With one due end more than may be caught up, the start of its window is left out if it lies before
    the lookback. -/
theorem leftOut_of_one (hcadence : 0 < settings.cadence) (hmax : 0 ≤ settings.maxCatchUpWindows)
    (hlookback : now - settings.maxLookback ≤ nextDue)
    (hone : (dueFuel settings.cadence nextDue now : Int) = settings.maxCatchUp + 1)
    (hstart : nextDue - settings.cadence < now - settings.maxLookback) :
    LeftOut settings nextDue now (nextDue - settings.cadence) := by
  have hpos := maxCatchUp_pos hmax
  have hzero := (@passedEnds_eq_zero settings nextDue now hcadence).mpr hlookback
  have hfirst : firstEnd settings nextDue now = nextDue := by simp [firstEnd, hzero]
  have hskipped : skippedCount settings nextDue now = 1 := by
    unfold skippedCount endCount
    omega
  have htwo : 2 * settings.cadence ≤
      (dueFuel settings.cadence nextDue now : Int) * settings.cadence :=
    Int.mul_le_mul_of_nonneg_right (by omega) hcadence.le
  refine ⟨⟨le_rfl, by omega⟩, ?_, ?_⟩
  · intro hin
    have hbegin := hin.2.1
    omega
  · intro hin
    have hbegin := hin.1
    rw [hfirst, hskipped, Nat.cast_one, Int.one_mul] at hbegin
    omega

/-- **When nothing is left out.** -/
theorem nothingLeftOut_iff (hcadence : BriefingStore.minutes 1 ≤ settings.cadence)
    (hmax : 0 ≤ settings.maxCatchUpWindows) :
    (∀ t, ¬ LeftOut settings nextDue now t) ↔ NothingLeftOut settings nextDue now := by
  have hstep : 0 < settings.cadence := by
    unfold BriefingStore.minutes at hcadence
    omega
  have hpos := maxCatchUp_pos hmax
  constructor
  · intro hnone
    have hlookback : now - settings.maxLookback ≤ nextDue := by
      by_contra hpassed
      exact hnone _ (leftOut_of_passed hstep (Int.not_le.mp hpassed))
    by_cases hall : (dueFuel settings.cadence nextDue now : Int) ≤ settings.maxCatchUp
    · exact .inl ⟨hall, hlookback⟩
    · have hone : (dueFuel settings.cadence nextDue now : Int) = settings.maxCatchUp + 1 := by
        by_contra hmore
        exact hnone _ (leftOut_of_many hcadence hmax hlookback (by omega))
      refine .inr ⟨hone, ?_⟩
      by_contra hstart
      exact hnone _ (leftOut_of_one hstep hmax hlookback hone (Int.not_le.mp hstart))
  · intro hclean t hleft
    have hdue := hleft.1
    unfold DueInstant at hdue
    have hlookback : now - settings.maxLookback ≤ nextDue := by
      rcases hclean with hall | hone
      · exact hall.2
      · omega
    have hzero := (@passedEnds_eq_zero settings nextDue now hstep).mpr hlookback
    have hfirst : firstEnd settings nextDue now = nextDue := by simp [firstEnd, hzero]
    have hcount : endCount settings nextDue now = dueFuel settings.cadence nextDue now := by
      unfold endCount
      rcases hclean with hall | hone
      · omega
      · omega
    rcases hclean with hall | hone
    · have hskipped : skippedCount settings nextDue now = 0 := by
        unfold skippedCount
        omega
      refine hleft.2.2 ⟨?_, ?_⟩
      · rw [hfirst, hskipped, Nat.cast_zero, Int.zero_mul]
        omega
      · rw [hfirst, hcount]
        exact hdue.2
    · have hskipped : skippedCount settings nextDue now = 1 := by
        unfold skippedCount
        omega
      by_cases hbefore : t < nextDue
      · refine hleft.2.1 ⟨by omega, by omega, ?_⟩
        rw [hfirst, if_neg (by omega)]
        exact hbefore
      · refine hleft.2.2 ⟨?_, ?_⟩
        · rw [hfirst, hskipped, Nat.cast_one, Int.one_mul]
          omega
        · rw [hfirst, hcount]
          exact hdue.2

end Windows

def IsDue (env : ScheduleEnv) (schedule : Schedule) (nextDue now : Int) : Prop :=
  validateSchedule env schedule = .ok () ∧ schedule.nextDueAt = some nextDue ∧ nextDue ≤ now

/-- Every instant between the start of the earliest due window and the end of the last lies in a
    recorded window of the schedule. -/
def NoSilentGap (env : ScheduleEnv) (schedule : Schedule) (now : Int) (windows : Windows) : Prop :=
  ∀ nextDue t, IsDue env schedule nextDue now → DueInstant schedule.settings nextDue now t →
    Covered windows schedule.id t

theorem cadence_minute {env : ScheduleEnv} {schedule : Schedule}
    (h : validateSchedule env schedule = .ok ()) : BriefingStore.minutes 1 ≤ schedule.settings.cadence := by
  have hpos := (cadence_pos_of_valid h).1
  unfold Settings.cadence BriefingStore.minutes at *
  omega

/-- A call on a schedule that is due. -/
theorem materializeDueSchedule_due {env : ScheduleEnv} {db : BriefingDb} {schedule : Schedule}
    {nextDue now : Int} (hdue : IsDue env schedule nextDue now) :
    materializeDueSchedule env db schedule now = materializeFrom env db schedule nextDue now := by
  obtain ⟨hvalid, hnext, hle⟩ := hdue
  unfold materializeDueSchedule
  rw [hvalid]
  dsimp only
  rw [hnext]
  exact if_neg (Int.not_lt.mpr hle)

/-- **Which instants have no window** after a call with catch-up on: those that are left out, unless an
    earlier call has recorded a window over them. Nothing is left out when no more ends are due than may
    be caught up, all in the lookback, or one more whose window lies in the lookback. -/
theorem noSilentGap_iff (env : ScheduleEnv) (db : BriefingDb) (schedule : Schedule) (now : Int)
    (answer : MaterializeResult × BriefingDb) (hon : schedule.settings.catchUpEnabled = true)
    (h : materializeDueSchedule env db schedule now = .ok answer) :
    (NoSilentGap env schedule now answer.2.windows ↔
      ∀ nextDue t, IsDue env schedule nextDue now → LeftOut schedule.settings nextDue now t →
        Covered db.windows schedule.id t) ∧
    ∀ nextDue, IsDue env schedule nextDue now →
      ((∀ t, ¬ LeftOut schedule.settings nextDue now t) ↔
        NothingLeftOut schedule.settings nextDue now) := by
  have hcovered : ∀ nextDue t, IsDue env schedule nextDue now →
      (Covered answer.2.windows schedule.id t ↔
        Covered db.windows schedule.id t ∨ Skipped schedule.settings nextDue now t ∨
          Queued schedule.settings nextDue now t) := by
    intro nextDue t hdue
    rw [materializeDueSchedule_due hdue] at h
    exact covered_iff hdue.1 hon hdue.2.2 h
  constructor
  · constructor
    · intro hgap nextDue t hdue hleft
      rcases (hcovered nextDue t hdue).mp (hgap nextDue t hdue hleft.1) with hbefore | hskip | hqueue
      · exact hbefore
      · exact absurd hskip hleft.2.1
      · exact absurd hqueue hleft.2.2
    · intro hbefore nextDue t hdue hinstant
      rw [hcovered nextDue t hdue]
      by_cases hskip : Skipped schedule.settings nextDue now t
      · exact .inr (.inl hskip)
      · by_cases hqueue : Queued schedule.settings nextDue now t
        · exact .inr (.inr hqueue)
        · exact .inl (hbefore nextDue t hdue ⟨hinstant, hskip, hqueue⟩)
  · intro nextDue hdue
    exact nothingLeftOut_iff (cadence_minute hdue.1) (cadence_pos_of_valid hdue.1).2

section Hourly

open BriefingWindows

/-- A call on an hourly schedule that may catch up three windows, over empty tables. -/
def hourlyCall (now : Int) : Except String (MaterializeResult × BriefingDb) :=
  materializeDueSchedule plainEnv (initialDb (stored (hourly 3 true))) (hourly 3 true) now

/-- The hourly schedule with three due ends. -/
theorem noSilentGap_hourly :
    ∃ answer, hourlyCall (hours 2) = .ok answer ∧
      (NoSilentGap plainEnv (hourly 3 true) (hours 2) answer.2.windows ↔
        ∀ nextDue t, IsDue plainEnv (hourly 3 true) nextDue (hours 2) →
          LeftOut (hourly 3 true).settings nextDue (hours 2) t →
          Covered (initialDb (stored (hourly 3 true))).windows (hourly 3 true).id t) ∧
      ∀ nextDue, IsDue plainEnv (hourly 3 true) nextDue (hours 2) →
        ((∀ t, ¬ LeftOut (hourly 3 true).settings nextDue (hours 2) t) ↔
          NothingLeftOut (hourly 3 true).settings nextDue (hours 2)) := by
  have hreturns : (hourlyCall (hours 2)).toBool = true := by decide +kernel
  cases hcall : hourlyCall (hours 2) with
  | error message =>
    rw [hcall] at hreturns
    cases hreturns
  | ok answer =>
    exact ⟨answer, rfl, noSilentGap_iff plainEnv _ (hourly 3 true) (hours 2) answer rfl hcall⟩

/-- The same schedule after a night, with six due ends: the two hours before the windows that are caught
    up are neither queued nor recorded as skipped. -/
theorem overnight_gap :
    ¬ ∀ (env : ScheduleEnv) (db : BriefingDb) (schedule : Schedule) (now : Int)
      (answer : MaterializeResult × BriefingDb), schedule.settings.catchUpEnabled = true →
      materializeDueSchedule env db schedule now = .ok answer →
      NoSilentGap env schedule now answer.2.windows := by
  intro hall
  have hresult : (hourlyCall (hours 5)).toOption.map
      (fun answer => decide (Covered answer.2.windows 1 (hours 1))) = some false := by
    decide +kernel
  cases hcall : hourlyCall (hours 5) with
  | error message =>
    rw [hcall] at hresult
    cases hresult
  | ok answer =>
    have hgap := hall plainEnv (initialDb (stored (hourly 3 true))) (hourly 3 true) (hours 5) answer
      rfl hcall
    have hcovered := hgap 0 (hours 1) ⟨rfl, rfl, by decide⟩ ⟨by decide, by decide +kernel⟩
    rw [hcall] at hresult
    exact of_decide_eq_false (Option.some.inj hresult) hcovered

end Hourly

end SiemDashboard.BriefingCoverage
