import Mathlib.Data.List.Infix
import SiemDashboard.Core.SocBriefingRuntimeStore
import SiemDashboard.Lib.Intervals

/-!
# Windows of briefing schedules

`core/ai/soc_briefing_runtime_store.py`: how a schedule that is due becomes windows, each with a job.

* **Rows** — `Schedule` with its `Settings`, `ScheduleWindow`, `BriefingDb`.
* **Checks** — `validateSchedule`, `markScheduleBlocked`.
* **Due ends** — `dueEnds`: the loop that collects them; `dueEnds_grid`: they are points of one grid.
* **Selection** — `runnableWindows`: the windows to queue, and how many ends are skipped.
* **Materialisation** — `createOrGetWindow`, `createSkippedWindow`, `queueWindow`,
  `materializeDueSchedule`.
* **System** — `MaterializeCall`, `stepMaterialize`.
-/

namespace SiemDashboard.BriefingStore

open Python Tables Intervals

/-! ## Rows -/

/-- The columns of `soc_briefing_schedules` that are set when the schedule is created. -/
structure Settings where
  enabled : Bool
  timezone : String
  cadenceMinutes : Int
  catchUpEnabled : Bool
  maxCatchUpWindows : Int
  maxLookbackHours : Int
  coalesceMissedWindows : Bool
deriving DecidableEq

inductive ScheduleStatus where
  | active
  | blocked
deriving DecidableEq

/-- A row of `soc_briefing_schedules`. -/
structure Schedule where
  id : Nat
  settings : Settings
  nextDueAt : Option Int
  status : ScheduleStatus
  failureCode : Option String
  failureMessage : Option String
deriving DecidableEq

inductive WindowStatus where
  | pending
  | queued
  | running
  | success
  | partially
  | failed
  | blocked
  | skipped
deriving DecidableEq

/-- A row of `soc_briefing_schedule_windows`. -/
structure ScheduleWindow where
  id : Nat
  scheduleId : Nat
  interval : Interval
  idempotencyKey : String
  status : WindowStatus
  skipReason : Option String
  coalesced : Bool

abbrev Windows := Table ScheduleWindow ScheduleWindow.id

/-- The tables. -/
structure BriefingDb where
  schedules : Table Schedule Schedule.id
  windows : Windows
  jobs : Jobs

/-- What `ZoneInfo` makes of a key: a zone, `ZoneInfoNotFoundError`, or another exception. -/
inductive ZoneAnswer where
  | found
  | notFound
  | raised (message : String)

/-- What the schedules rely on: the zones, and the keys made with `idempotency_key`. -/
structure ScheduleEnv where
  zoneInfo : String → ZoneAnswer
  windowKey : Nat → Interval → String
  jobKey : Nat → String

/-! ## Checks -/

/-- `SocBriefingScheduleError`, or another exception. -/
inductive ScheduleError where
  | schedule (message : String)
  | other (message : String)

/-- `validate_schedule`. -/
def validateSchedule (env : ScheduleEnv) (schedule : Schedule) : Except ScheduleError Unit :=
  if !schedule.settings.enabled then .error (.schedule "schedule is disabled")
  else
    match env.zoneInfo (if schedule.settings.timezone = "" then "UTC"
      else schedule.settings.timezone) with
    | .raised message => .error (.other message)
    | .notFound => .error (.schedule "invalid timezone")
    | .found =>
      if schedule.settings.cadenceMinutes ≤ 0 || 10080 < schedule.settings.cadenceMinutes then
        .error (.schedule "invalid cadence")
      else if schedule.settings.maxCatchUpWindows < 0 then
        .error (.schedule "invalid max_catch_up_windows")
      else if schedule.settings.maxLookbackHours ≤ 0 then
        .error (.schedule "invalid max_lookback_hours")
      else if schedule.nextDueAt.isNone then .error (.schedule "next_due_at is required")
      else .ok ()

/-- What `mark_schedule_blocked` writes. -/
def blockedSchedule (failureCode failureMessage : String) (schedule : Schedule) : Schedule :=
  { schedule with
    status := .blocked
    failureCode := some failureCode
    failureMessage := some (String.ofList (failureMessage.toList.take 1000)) }

theorem blockedSchedule_id (failureCode failureMessage : String) (schedule : Schedule) :
    (blockedSchedule failureCode failureMessage schedule).id = schedule.id := rfl

/-- `mark_schedule_blocked`, with the code that `materialize_due_schedule` chooses. -/
def markScheduleBlocked (db : BriefingDb) (scheduleId : Nat) (message : String) : BriefingDb :=
  let failureCode :=
    if "disabled".toList <:+: message.toList then "disabled" else "malformed_schedule"
  { db with
    schedules := db.schedules.update scheduleId (fun _ => true)
      (blockedSchedule failureCode message) (blockedSchedule_id failureCode message) }

/-! ## Due ends -/

/-- `timedelta(minutes=…)`, in microseconds. -/
def minutes (n : Int) : Int := n * 60000000

/-- `timedelta(hours=…)`, in microseconds. -/
def hours (n : Int) : Int := n * 3600000000

/-- The loop of `materialize_due_schedule` from a cursor on, with the number of ends found so far: the
    ends it finds, and the cursor it leaves. -/
def dueEnds (cadence earliest current : Int) (limit : Nat) :
    Nat → Int → Nat → List Int × Int
  | 0, cursor, _ => ([], cursor)
  | fuel + 1, cursor, found =>
    if cursor ≤ current ∧ found ≤ limit then
      if earliest ≤ cursor then
        (cursor :: (dueEnds cadence earliest current limit fuel (cursor + cadence) (found + 1)).1,
          (dueEnds cadence earliest current limit fuel (cursor + cadence) (found + 1)).2)
      else dueEnds cadence earliest current limit fuel (cursor + cadence) found
    else ([], cursor)

/-- How often the loop can run. -/
def dueFuel (cadence nextDue current : Int) : Nat := ((current - nextDue) / cadence).toNat + 1

section

variable {cadence earliest current : Int} {limit : Nat}

/-- From the first end on, every point of the grid is an end. -/
theorem dueEnds_of_le (hcadence : 0 ≤ cadence) (fuel : Nat) {cursor : Int}
    (hearliest : earliest ≤ cursor) (found : Nat) :
    ∃ n : Nat, dueEnds cadence earliest current limit fuel cursor found =
      (grid cadence cursor n, cursor + n * cadence) := by
  induction fuel generalizing cursor found with
  | zero => exact ⟨0, by simp [dueEnds, grid]⟩
  | succ fuel ih =>
    by_cases hloop : cursor ≤ current ∧ found ≤ limit
    · have hnext : earliest ≤ cursor + cadence := by omega
      obtain ⟨n, hn⟩ := ih hnext (found + 1)
      refine ⟨n + 1, ?_⟩
      rw [dueEnds, if_pos hloop, if_pos hearliest, hn]
      have hlast : cursor + cadence + n * cadence = cursor + ((n + 1 : Nat) : Int) * cadence := by
        push_cast
        ring
      rw [grid, hlast]
    · exact ⟨0, by simp [dueEnds, hloop, grid]⟩

/-- **The due ends** are consecutive points of the grid of the cursor, and the loop leaves the cursor
    behind them. -/
theorem dueEnds_grid (hcadence : 0 ≤ cadence) (fuel : Nat) (cursor : Int) (found : Nat) :
    ∃ (first : Int) (n : Nat), cursor ≤ first ∧ cadence ∣ first - cursor ∧
      dueEnds cadence earliest current limit fuel cursor found =
        (grid cadence first n, first + n * cadence) := by
  induction fuel generalizing cursor with
  | zero => exact ⟨cursor, 0, le_rfl, by simp, by simp [dueEnds, grid]⟩
  | succ fuel ih =>
    by_cases hearliest : earliest ≤ cursor
    · obtain ⟨n, hn⟩ := dueEnds_of_le hcadence (fuel + 1) hearliest found
      exact ⟨cursor, n, le_rfl, by simp, hn⟩
    · by_cases hloop : cursor ≤ current ∧ found ≤ limit
      · obtain ⟨first, n, hle, hdvd, hn⟩ := ih (cursor + cadence)
        refine ⟨first, n, by omega, ?_, ?_⟩
        · have hsum : first - cursor = first - (cursor + cadence) + cadence := by ring
          rw [hsum]
          exact Int.dvd_add hdvd (Int.dvd_refl cadence)
        · rw [dueEnds, if_pos hloop, if_neg hearliest, hn]
      · exact ⟨cursor, 0, le_rfl, by simp, by simp [dueEnds, hloop, grid]⟩

/-- A due end lies in the lookback. -/
theorem mem_dueEnds {fuel : Nat} {cursor : Int} {found : Nat} {x : Int}
    (h : x ∈ (dueEnds cadence earliest current limit fuel cursor found).1) :
    earliest ≤ x ∧ x ≤ current := by
  induction fuel generalizing cursor found with
  | zero => cases h
  | succ fuel ih =>
    rw [dueEnds] at h
    split at h
    · next hloop =>
      split at h
      · next hearliest =>
        rcases List.mem_cons.mp h with rfl | h
        · exact ⟨hearliest, hloop.1⟩
        · exact ih h
      · exact ih h
    · cases h

/-- The fuel is enough: the loop ends when its own condition fails. -/
theorem dueEnds_done (fuel : Nat) (cursor : Int) (found : Nat)
    (hfuel : current < cursor + fuel * cadence) :
    current < (dueEnds cadence earliest current limit fuel cursor found).2 ∨
      limit < found + (dueEnds cadence earliest current limit fuel cursor found).1.length := by
  induction fuel generalizing cursor found with
  | zero =>
    left
    simpa [dueEnds] using hfuel
  | succ fuel ih =>
    have hnext : current < cursor + cadence + fuel * cadence := by
      have hsum : cursor + cadence + fuel * cadence =
          cursor + ((fuel + 1 : Nat) : Int) * cadence := by
        push_cast
        ring
      rwa [hsum]
    rw [dueEnds]
    split
    · split
      · rcases ih (cursor + cadence) (found + 1) hnext with hcursor | hlimit
        · exact .inl hcursor
        · refine .inr ?_
          rw [List.length_cons]
          omega
      · exact ih (cursor + cadence) found hnext
    · next hloop =>
      by_cases hcursor : cursor ≤ current
      · refine .inr ?_
        rw [List.length_nil]
        omega
      · exact .inl (by omega)

theorem dueFuel_enough (hcadence : 0 < cadence) {nextDue : Int} (hdue : nextDue ≤ current) :
    current < nextDue + (dueFuel cadence nextDue current : Int) * cadence := by
  have hnonneg : 0 ≤ (current - nextDue) / cadence := Int.ediv_nonneg (by omega) hcadence.le
  have hlt := Int.lt_ediv_add_one_mul_self (current - nextDue) hcadence
  have hfuel : (dueFuel cadence nextDue current : Int) = (current - nextDue) / cadence + 1 := by
    rw [dueFuel]
    push_cast
    rw [Int.toNat_of_nonneg hnonneg]
  rw [hfuel]
  omega

end

/-! ## Selection -/

/-- A window to queue. -/
structure RunnableWindow where
  interval : Interval
  coalesced : Bool
deriving DecidableEq

/-- `value or default`, for a number. -/
def orDefault (value default : Int) : Int := if value = 0 then default else value

/-- `max_catch_up`. -/
def Settings.maxCatchUp (settings : Settings) : Int := orDefault settings.maxCatchUpWindows 3

/-- `cadence`. -/
def Settings.cadence (settings : Settings) : Int := minutes settings.cadenceMinutes

/-- `max_lookback`. -/
def Settings.maxLookback (settings : Settings) : Int :=
  hours (orDefault settings.maxLookbackHours 24)

/-- The window that ends at a due end. -/
def singleWindow (cadence stop : Int) : RunnableWindow := ⟨cell cadence stop, false⟩

/-- The window from the first of the ends to the last. -/
def coalescedWindows (cadence : Int) (selected : List Int) : List RunnableWindow :=
  match selected.head?, selected.getLast? with
  | some first, some last => [⟨⟨first - cadence, last⟩, true⟩]
  | _, _ => []

/-- `window_ends[-max_catch_up:]`, where that is positive. -/
def lastEnds (maxCatchUp : Int) (ends : List Int) : List Int :=
  if 0 < maxCatchUp then ends.drop (ends.length - maxCatchUp.toNat) else []

/-- The windows to queue, and how many ends are skipped. -/
def runnableWindows (settings : Settings) (ends : List Int) : List RunnableWindow × Nat :=
  if !settings.catchUpEnabled && !ends.isEmpty then
    (ends.getLast?.toList.map (singleWindow settings.cadence), ends.length - 1)
  else if settings.maxCatchUp < ends.length then
    let selected := lastEnds settings.maxCatchUp ends
    (if settings.coalesceMissedWindows && 0 < settings.maxCatchUp then
        coalescedWindows settings.cadence selected
      else selected.map (singleWindow settings.cadence),
      ends.length - selected.length)
  else (ends.map (singleWindow settings.cadence), 0)

/-- What is selected from `n` due ends: windows that end at the last of them, or one window over the
    last of them. -/
inductive Selected (settings : Settings) (first : Int) : Nat → List RunnableWindow → Prop where
  | singles (k m : Nat) (hcap : settings.catchUpEnabled = true → (m : Int) ≤ settings.maxCatchUp) :
      Selected settings first (k + m)
        ((grid settings.cadence (first + k * settings.cadence) m).map
          (singleWindow settings.cadence))
  | coalesced (k m : Nat) (hcoalesce : settings.coalesceMissedWindows = true)
      (hcap : ((m + 1 : Nat) : Int) = settings.maxCatchUp) :
      Selected settings first (k + (m + 1))
        [⟨⟨first + k * settings.cadence - settings.cadence,
          first + k * settings.cadence + m * settings.cadence⟩, true⟩]

theorem orDefault_pos {value default : Int} (hvalue : 0 ≤ value) (hdefault : 0 < default) :
    0 < orDefault value default := by
  unfold orDefault
  split <;> omega

section

variable {settings : Settings} {first : Int} {n : Nat} {windows : List RunnableWindow}

theorem lastEnds_grid {maxCatchUp : Int} (hpos : 0 < maxCatchUp) {m : Nat}
    (hm : maxCatchUp = m) {cadence : Int} (k : Nat) :
    lastEnds maxCatchUp (grid cadence first (k + m)) = grid cadence (first + k * cadence) m := by
  have hlength : k + m - m = k := Nat.add_sub_cancel k m
  have hrest : k + m - k = m := Nat.add_sub_cancel_left k m
  rw [lastEnds, if_pos hpos, length_grid, hm, Int.toNat_natCast, hlength, drop_grid, hrest]

/-- **The selection** from consecutive due ends. -/
theorem runnableWindows_selected (hmax : 0 ≤ settings.maxCatchUpWindows) (first : Int) (n : Nat) :
    Selected settings first n (runnableWindows settings (grid settings.cadence first n)).1 := by
  have hpos : 0 < settings.maxCatchUp := orDefault_pos hmax (by decide)
  obtain ⟨m, hm⟩ := Int.eq_ofNat_of_zero_le hpos.le
  unfold runnableWindows
  split
  · next hoff =>
    simp only [Bool.and_eq_true, Bool.not_eq_true'] at hoff
    cases n with
    | zero => simp [grid] at hoff
    | succ n =>
      rw [getLast?_grid]
      refine .singles n 1 fun hon => ?_
      rw [hoff.1] at hon
      cases hon
  · split
    · next hmore =>
      rw [length_grid] at hmore
      obtain ⟨k, rfl⟩ : ∃ k, n = k + m := ⟨n - m, by omega⟩
      dsimp only
      rw [lastEnds_grid hpos hm]
      split
      · next hcoalesce =>
        simp only [Bool.and_eq_true, decide_eq_true_eq] at hcoalesce
        obtain ⟨m', rfl⟩ : ∃ m', m = m' + 1 := ⟨m - 1, by omega⟩
        rw [coalescedWindows, getLast?_grid]
        exact .coalesced k m' hcoalesce.1 hm.symm
      · exact .singles k m fun _ => hm.ge
    · next hmore =>
      rw [length_grid] at hmore
      have hall : Selected settings first (0 + n)
          ((grid settings.cadence (first + (0 : Nat) * settings.cadence) n).map
            (singleWindow settings.cadence)) := Selected.singles 0 n fun _ => by omega
      simpa using hall

/-- The windows lie between the first due end and the cursor. -/
theorem Selected.bounds (h : Selected settings first n windows) (hcadence : 0 < settings.cadence)
    {window : RunnableWindow} (hwindow : window ∈ windows) :
    first - settings.cadence ≤ window.interval.start ∧
      window.interval.stop + settings.cadence ≤ first + n * settings.cadence := by
  cases h with
  | singles k m hcap =>
    obtain ⟨x, hx, rfl⟩ := List.mem_map.mp hwindow
    have hbounds := mem_grid_bounds hcadence hx
    have hk : 0 ≤ (k : Int) * settings.cadence :=
      Int.mul_nonneg (Int.natCast_nonneg k) hcadence.le
    simp only [singleWindow, cell]
    push_cast
    rw [Int.add_mul]
    omega
  | coalesced k m hcoalesce hcap =>
    rw [List.mem_singleton.mp hwindow]
    have hk : 0 ≤ (k : Int) * settings.cadence :=
      Int.mul_nonneg (Int.natCast_nonneg k) hcadence.le
    dsimp only
    push_cast
    rw [Int.add_mul, Int.add_mul]
    omega

theorem Selected.apart (h : Selected settings first n windows) (hcadence : 0 < settings.cadence) :
    (windows.map RunnableWindow.interval).Pairwise Apart := by
  cases h with
  | singles k m hcap =>
    rw [List.map_map]
    exact grid_cells_apart hcadence m
  | coalesced k m hcoalesce hcap => exact List.pairwise_singleton _ _

/-- No more windows than the cap. -/
theorem Selected.length_le (h : Selected settings first n windows)
    (hon : settings.catchUpEnabled = true) : (windows.length : Int) ≤ settings.maxCatchUp := by
  cases h with
  | singles k m hcap =>
    rw [List.length_map, length_grid]
    exact hcap hon
  | coalesced k m hcoalesce hcap =>
    rw [List.length_singleton]
    omega

/-- Without due ends there are no windows. -/
theorem Selected.eq_nil (h : Selected settings first 0 windows) : windows = [] := by
  generalize hzero : 0 = n at h
  cases h with
  | singles k m hcap =>
    obtain rfl : m = 0 := by omega
    rfl
  | coalesced k m hcoalesce hcap => omega

/-- The schedule never queues a window of more than one cadence. -/
def Settings.Single (settings : Settings) : Prop :=
  settings.coalesceMissedWindows = false ∨ settings.maxCatchUpWindows = 1

theorem Selected.cells (h : Selected settings first n windows) (hsingle : settings.Single)
    {window : RunnableWindow} (hwindow : window ∈ windows) :
    ∃ stop, window.interval = cell settings.cadence stop ∧ settings.cadence ∣ stop - first := by
  cases h with
  | singles k m hcap =>
    obtain ⟨x, hx, rfl⟩ := List.mem_map.mp hwindow
    have hsum : x - first = x - (first + k * settings.cadence) + k * settings.cadence := by ring
    refine ⟨x, rfl, ?_⟩
    rw [hsum]
    exact Int.dvd_add (dvd_of_mem_grid hx) (Int.dvd_mul_left _ _)
  | coalesced k m hcoalesce hcap =>
    rcases hsingle with hoff | hone
    · rw [hoff] at hcoalesce
      cases hcoalesce
    · have hm : m = 0 := by
        have hmax : settings.maxCatchUp = 1 := by simp [Settings.maxCatchUp, orDefault, hone]
        omega
      subst hm
      rw [List.mem_singleton.mp hwindow]
      refine ⟨first + k * settings.cadence, by simp [cell], ⟨k, by ring⟩⟩

end

/-! ## Materialisation -/

/-- The arguments of `create_or_get_window`. -/
structure NewWindow where
  scheduleId : Nat
  interval : Interval
  status : WindowStatus
  skipReason : Option String
  coalesced : Bool

/-- The row `create_or_get_window` inserts. -/
def newWindowRow (env : ScheduleEnv) (new : NewWindow) (id : Nat) : ScheduleWindow where
  id := id
  scheduleId := new.scheduleId
  interval := new.interval
  idempotencyKey := env.windowKey new.scheduleId new.interval
  status := new.status
  skipReason := new.skipReason
  coalesced := new.coalesced

theorem newWindowRow_id (env : ScheduleEnv) (new : NewWindow) (id : Nat) :
    (newWindowRow env new id).id = id := rfl

/-- `create_or_get_window`: the window, and whether it is new. -/
def createOrGetWindow (env : ScheduleEnv) (db : BriefingDb) (new : NewWindow) :
    Except String ((ScheduleWindow × Bool) × BriefingDb) :=
  if new.interval.stop ≤ new.interval.start then .error "violates check constraint"
  else
    match db.windows.rows.find? fun window =>
        window.scheduleId = new.scheduleId && window.interval = new.interval with
    | some window => .ok ((window, false), db)
    | none =>
      if db.windows.rows.any fun window =>
          window.idempotencyKey = env.windowKey new.scheduleId new.interval then
        .error "violates unique constraint"
      else if (db.schedules.row? new.scheduleId).isNone then .error "violates foreign key constraint"
      else
        .ok ((newWindowRow env new db.windows.next, true),
          { db with
            windows := db.windows.insert (newWindowRow env new) (newWindowRow_id env new) })

/-- The window: one that was there, or a new one where there was none. -/
theorem createOrGetWindow_cases {env : ScheduleEnv} {db db' : BriefingDb} {new : NewWindow}
    {answer : ScheduleWindow × Bool} (h : createOrGetWindow env db new = .ok (answer, db')) :
    (db' = db ∧ db.windows.row? answer.1.id = some answer.1) ∨
      (answer.1 = newWindowRow env new db.windows.next ∧
        db' = { db with
          windows := db.windows.insert (newWindowRow env new) (newWindowRow_id env new) } ∧
        ∀ id window, db.windows.row? id = some window → window.scheduleId = new.scheduleId →
          window.interval ≠ new.interval) := by
  unfold createOrGetWindow at h
  split at h
  · cases h
  · split at h
    · next window hfound =>
      cases h
      exact .inl ⟨rfl, Table.mem_rows.mp (List.mem_of_find?_eq_some hfound)⟩
    · next hnone =>
      split at h
      · cases h
      · split at h
        · cases h
        · cases h
          refine .inr ⟨rfl, rfl, fun id window hrow hschedule hsame => ?_⟩
          have hkey : window.id = id := db.windows.keyed id window hrow
          have hmem : window ∈ db.windows.rows := Table.mem_rows.mpr (hkey ▸ hrow)
          have hother := List.find?_eq_none.mp hnone window hmem
          simp [hschedule, hsame] at hother

/-- `_create_skipped_window`. -/
def createSkippedWindow (env : ScheduleEnv) (db : BriefingDb) (scheduleId : Nat)
    (interval : Interval) (reason : String) : Except String BriefingDb :=
  let stop :=
    if interval.stop ≤ interval.start then interval.start + seconds 1 else interval.stop
  (createOrGetWindow env db
    { scheduleId := scheduleId, interval := ⟨interval.start, stop⟩, status := .skipped,
      skipReason := some reason, coalesced := true }).map (·.2)

/-- `MaterializeResult`. -/
structure MaterializeResult where
  windowsCreated : Nat
  jobsCreated : Nat
  duplicateWindows : Nat
  skippedWindows : Nat
  blockedSchedules : Nat
deriving DecidableEq

def windowJob (env : ScheduleEnv) (scheduleId windowId : Nat) : NewJob where
  scheduleId := scheduleId
  windowId := windowId
  idempotencyKey := env.jobKey windowId
  maxAttempts := 3
  triggerType := "scheduled"
  requestedBy := none
  priority := 100

/-- The window to create for a window to queue. -/
def RunnableWindow.queued (window : RunnableWindow) (scheduleId : Nat) : NewWindow where
  scheduleId := scheduleId
  interval := window.interval
  status := .queued
  skipReason := none
  coalesced := window.coalesced

/-- A window to queue, with its job: the body of the last loop of `materialize_due_schedule`. -/
def queueWindow (env : ScheduleEnv) (scheduleId : Nat) (now : Int) (result : MaterializeResult)
    (db : BriefingDb) (window : RunnableWindow) : Except String (MaterializeResult × BriefingDb) := do
  let (answer, db) ← createOrGetWindow env db (window.queued scheduleId)
  let (job, jobs) ← createOrGetJob db.jobs (windowJob env scheduleId answer.1.id) now
  return ({ result with
      windowsCreated := result.windowsCreated + answer.2.toNat
      duplicateWindows := result.duplicateWindows + (!answer.2).toNat
      jobsCreated := result.jobsCreated + job.2.toNat },
    { db with jobs := jobs })

/-- What a window to queue leaves: the window, and its job. -/
theorem queueWindow_cases {env : ScheduleEnv} {scheduleId : Nat} {now : Int}
    {result : MaterializeResult} {db : BriefingDb} {window : RunnableWindow}
    {answer : MaterializeResult × BriefingDb}
    (h : queueWindow env scheduleId now result db window = .ok answer) :
    ∃ (found : ScheduleWindow × Bool) (windowsDb : BriefingDb) (job : BriefingJob × Bool)
      (jobs : Jobs),
      createOrGetWindow env db (window.queued scheduleId) = .ok (found, windowsDb) ∧
      createOrGetJob windowsDb.jobs (windowJob env scheduleId found.1.id) now = .ok (job, jobs) ∧
      answer.2 = { windowsDb with jobs := jobs } := by
  obtain ⟨⟨found, windowsDb⟩, hfound, h⟩ := Checks.bind_eq_ok.mp h
  obtain ⟨⟨job, jobs⟩, hjob, h⟩ := Checks.bind_eq_ok.mp h
  cases h
  exact ⟨found, windowsDb, job, jobs, hfound, hjob, rfl⟩

/-- The last loop of `materialize_due_schedule`. -/
def queueWindows (env : ScheduleEnv) (scheduleId : Nat) (now : Int) :
    List RunnableWindow → MaterializeResult → BriefingDb →
      Except String (MaterializeResult × BriefingDb)
  | [], result, db => .ok (result, db)
  | window :: rest, result, db => do
    let (result, db) ← queueWindow env scheduleId now result db window
    queueWindows env scheduleId now rest result db

/-- What `update_schedule_due_state` writes. -/
def advancedSchedule (nextDueAt : Int) (schedule : Schedule) : Schedule :=
  { schedule with
    nextDueAt := some nextDueAt
    status := .active
    failureCode := none
    failureMessage := none }

theorem advancedSchedule_id (nextDueAt : Int) (schedule : Schedule) :
    (advancedSchedule nextDueAt schedule).id = schedule.id := rfl

/-- `update_schedule_due_state`. -/
def updateScheduleDueState (db : BriefingDb) (scheduleId : Nat) (nextDueAt : Int) : BriefingDb :=
  { db with
    schedules := db.schedules.update scheduleId (fun _ => true) (advancedSchedule nextDueAt)
      (advancedSchedule_id nextDueAt) }

/-- The due ends of a schedule, and the cursor the loop leaves. -/
def scheduleEnds (settings : Settings) (nextDue now : Int) : List Int × Int :=
  dueEnds settings.cadence (now - settings.maxLookback) now ((max settings.maxCatchUp 1).toNat + 500)
    (dueFuel settings.cadence nextDue now) nextDue 0

def skipWindows (env : ScheduleEnv) (db : BriefingDb) (schedule : Schedule) (now : Int)
    (ends : List Int) (skipped : Nat) : Except String BriefingDb :=
  if skipped = 0 then .ok db
  else
    createSkippedWindow env db schedule.id
      ⟨now - schedule.settings.maxLookback, min (ends.head?.getD now) now⟩
      (if schedule.settings.coalesceMissedWindows then "coalesced" else "outside_lookback")

/-- `materialize_due_schedule`, once the schedule is known to be due. -/
def materializeFrom (env : ScheduleEnv) (db : BriefingDb) (schedule : Schedule) (nextDue now : Int) :
    Except String (MaterializeResult × BriefingDb) := do
  let (ends, cursor) := scheduleEnds schedule.settings nextDue now
  let (runnable, skipped) := runnableWindows schedule.settings ends
  let db ← skipWindows env db schedule now ends skipped
  let (result, db) ← queueWindows env schedule.id now runnable ⟨0, 0, 0, skipped, 0⟩ db
  return (result, updateScheduleDueState db schedule.id cursor)

/-- `materialize_due_schedule`. -/
def materializeDueSchedule (env : ScheduleEnv) (db : BriefingDb) (schedule : Schedule) (now : Int) :
    Except String (MaterializeResult × BriefingDb) :=
  match validateSchedule env schedule with
  | .error (.other message) => .error message
  | .error (.schedule message) =>
    .ok (⟨0, 0, 0, 0, 1⟩, markScheduleBlocked db schedule.id message)
  | .ok () =>
    match schedule.nextDueAt with
    | none => .ok (⟨0, 0, 0, 0, 0⟩, db)
    | some nextDue =>
      if now < nextDue then .ok (⟨0, 0, 0, 0, 0⟩, db)
      else materializeFrom env db schedule nextDue now

/-- Some due end lies in the lookback. -/
def HasDueEnd (settings : Settings) (nextDue now : Int) : Prop :=
  ∃ k : Nat, now - settings.maxLookback ≤ nextDue + k * settings.cadence ∧
    nextDue + k * settings.cadence ≤ now

theorem cadence_pos_of_valid {env : ScheduleEnv} {schedule : Schedule}
    (h : validateSchedule env schedule = .ok ()) :
    0 < schedule.settings.cadence ∧ 0 ≤ schedule.settings.maxCatchUpWindows := by
  unfold validateSchedule at h
  split at h
  · cases h
  · split at h
    · cases h
    · cases h
    · split at h
      · cases h
      · next hcadence =>
        split at h
        · cases h
        · simp only [Bool.or_eq_true, decide_eq_true_eq, not_or] at hcadence
          exact ⟨by unfold Settings.cadence minutes; omega, by omega⟩

/-- The fuel of the loop over the due ends is enough. -/
theorem scheduleEnds_done {settings : Settings} (hcadence : 0 < settings.cadence)
    {nextDue now : Int} (hdue : nextDue ≤ now) :
    now < (scheduleEnds settings nextDue now).2 ∨
      (max settings.maxCatchUp 1).toNat + 500 < (scheduleEnds settings nextDue now).1.length := by
  have hdone := @dueEnds_done settings.cadence (now - settings.maxLookback) now
    ((max settings.maxCatchUp 1).toNat + 500) _ nextDue 0 (dueFuel_enough hcadence hdue)
  rwa [Nat.zero_add] at hdone

/-- The due ends of a schedule are consecutive points of its grid, and without a due end in the
    lookback there are none. -/
theorem scheduleEnds_grid {settings : Settings} (hcadence : 0 < settings.cadence)
    (nextDue now : Int) :
    ∃ (first : Int) (n : Nat), nextDue ≤ first ∧ settings.cadence ∣ first - nextDue ∧
      (¬ HasDueEnd settings nextDue now → n = 0) ∧
      scheduleEnds settings nextDue now =
        (grid settings.cadence first n, first + n * settings.cadence) := by
  obtain ⟨first, n, hle, hdvd, hends⟩ := @dueEnds_grid settings.cadence (now - settings.maxLookback)
    now ((max settings.maxCatchUp 1).toNat + 500) hcadence.le
    (dueFuel settings.cadence nextDue now) nextDue 0
  refine ⟨first, n, hle, hdvd, fun hnone => ?_, hends⟩
  cases n with
  | zero => rfl
  | succ n =>
    have hfirst : first ∈ (scheduleEnds settings nextDue now).1 := by
      rw [scheduleEnds, hends]
      exact List.mem_cons_self
    obtain ⟨k, hk⟩ := hdvd
    have hnonneg : 0 ≤ k := by
      by_contra hneg
      have hmul : settings.cadence * k < 0 := Int.mul_neg_of_pos_of_neg hcadence (by omega)
      omega
    obtain ⟨k, rfl⟩ := Int.eq_ofNat_of_zero_le hnonneg
    have hpoint : nextDue + k * settings.cadence = first := by
      rw [Int.mul_comm, ← hk]
      omega
    have hbounds := mem_dueEnds hfirst
    exact (hnone ⟨k, by rw [hpoint]; exact hbounds⟩).elim

/-- What a call on a schedule that is due does. -/
theorem materializeFrom_cases {env : ScheduleEnv} {db : BriefingDb} {schedule : Schedule}
    {nextDue now : Int} {answer : MaterializeResult × BriefingDb}
    (hvalid : validateSchedule env schedule = .ok ())
    (h : materializeFrom env db schedule nextDue now = .ok answer) :
    ∃ (first : Int) (n skipped : Nat) (windows : List RunnableWindow) (skippedDb : BriefingDb)
      (queued : MaterializeResult × BriefingDb),
      nextDue ≤ first ∧ schedule.settings.cadence ∣ first - nextDue ∧
      (¬ HasDueEnd schedule.settings nextDue now → n = 0) ∧
      Selected schedule.settings first n windows ∧
      skipWindows env db schedule now (grid schedule.settings.cadence first n) skipped =
        .ok skippedDb ∧
      queueWindows env schedule.id now windows ⟨0, 0, 0, skipped, 0⟩ skippedDb = .ok queued ∧
      answer.2 = updateScheduleDueState queued.2 schedule.id
        (first + n * schedule.settings.cadence) := by
  obtain ⟨hcadence, hmax⟩ := cadence_pos_of_valid hvalid
  obtain ⟨first, n, hle, hdvd, hnone, hends⟩ := scheduleEnds_grid hcadence nextDue now
  unfold materializeFrom at h
  rw [hends] at h
  obtain ⟨skippedDb, hskipped, h⟩ := Checks.bind_eq_ok.mp h
  obtain ⟨queued, hqueued, h⟩ := Checks.bind_eq_ok.mp h
  cases h
  exact ⟨first, n, _, _, skippedDb, queued, hle, hdvd, hnone,
    runnableWindows_selected hmax first n, hskipped, hqueued, rfl⟩

/-! ## System -/

/-- A call of `materialize_due_schedule`, with the schedule as its caller has read it. -/
structure MaterializeCall where
  schedule : Schedule
  now : Int

/-- One call; one that raises is rolled back. -/
def stepMaterialize (env : ScheduleEnv) (db : BriefingDb) (call : MaterializeCall) : BriefingDb :=
  match materializeDueSchedule env db call.schedule call.now with
  | .ok (_, db') => db'
  | .error _ => db

end SiemDashboard.BriefingStore
