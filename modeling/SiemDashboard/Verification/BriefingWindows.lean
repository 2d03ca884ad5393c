import SiemDashboard.Core.BriefingSchedules

/-!
# The windows of briefing schedules

What calls of `materialize_due_schedule` queue, over every run of calls, each with the schedule as its
caller has read it.

* **Windows** — `IsQueued`, `queuedCount`; `KeptWindows`: the queued windows of a schedule do not
  overlap, and each has its one job.
* **Loop** — `queueWindows_kept`: what the loop over the selected windows keeps.
* **Schedules** — `Placed`: where the queued windows are, relative to the next due end; `Kept`.
* **Result** — `Meets`: the condition on a call; `windows_materialised`, and a schedule configured
  with no windows that queues one.
-/

namespace SiemDashboard.BriefingWindows

open Tables Intervals BriefingStore

/-! ## Windows -/

def IsQueued (db : BriefingDb) (id : Nat) (window : ScheduleWindow) : Prop :=
  db.windows.row? id = some window ∧ window.status = .queued

/-- How many windows are queued. -/
def queuedCount (db : BriefingDb) : Nat :=
  db.windows.total fun window => if window.status = .queued then 1 else 0

def IsJobOf (jobs : Jobs) (windowId jobId : Nat) : Prop :=
  ∃ job, jobs.row? jobId = some job ∧ job.windowId = windowId

/-- The queued windows of a schedule do not overlap, and each window has its one job. -/
structure KeptWindows (db : BriefingDb) : Prop where
  apart : ∀ {id id' window window'}, IsQueued db id window → IsQueued db id' window' →
    window.scheduleId = window'.scheduleId → id ≠ id' → Apart window.interval window'.interval
  job : ∀ {id window}, IsQueued db id window → ∃ jobId, IsJobOf db.jobs id jobId
  oneJob : ∀ {id jobId jobId'}, IsJobOf db.jobs id jobId → IsJobOf db.jobs id jobId' →
    jobId = jobId'

section

variable {env : ScheduleEnv} {db db' : BriefingDb} {new : NewWindow} {newJob : NewJob}
  {jobs jobs' : Jobs} {now : Int} {answer : BriefingJob × Bool}

/-- A window after an insertion. -/
theorem row_of_inserted {id : Nat} {window : ScheduleWindow}
    (h : (db.windows.insert (newWindowRow env new) (newWindowRow_id env new)).row? id =
      some window) :
    (id = db.windows.next ∧ window = newWindowRow env new id) ∨ db.windows.row? id = some window := by
  rw [Table.insert_row?] at h
  split at h
  · next hid =>
    cases h
    exact .inl ⟨hid, by rw [hid]⟩
  · exact .inr h

/-- A job after the creation of a job. -/
theorem job_of_created (h : createOrGetJob jobs newJob now = .ok (answer, jobs')) {id jobId : Nat}
    (hjob : IsJobOf jobs' id jobId) :
    IsJobOf jobs id jobId ∨
      id = newJob.windowId ∧ jobId = jobs.next ∧ ∀ other, ¬ IsJobOf jobs id other := by
  obtain ⟨job, hrow, hwindow⟩ := hjob
  obtain ⟨-, -, hjobs | ⟨hjobs, hnone⟩⟩ := createOrGetJob_cases h
  · rw [hjobs] at hrow
    exact .inl ⟨job, hrow, hwindow⟩
  · rw [hjobs, Table.insert_row?] at hrow
    split at hrow
    · next hid =>
      cases hrow
      have hid' : newJob.windowId = id := hwindow
      refine .inr ⟨hid'.symm, hid, fun other ⟨job, hother, hjob⟩ => ?_⟩
      exact hnone other job hother (hjob.trans hid'.symm)
    · exact .inl ⟨job, hrow, hwindow⟩

theorem job_created_kept (h : createOrGetJob jobs newJob now = .ok (answer, jobs'))
    {id jobId : Nat} (hjob : IsJobOf jobs id jobId) : IsJobOf jobs' id jobId := by
  obtain ⟨job, hrow, hwindow⟩ := hjob
  refine ⟨job, ?_, hwindow⟩
  obtain ⟨-, -, hjobs | ⟨hjobs, -⟩⟩ := createOrGetJob_cases h
  · rw [hjobs]
    exact hrow
  · rw [hjobs]
    exact Table.insert_row?_of_some _ _ _ hrow

theorem job_of_answer (h : createOrGetJob jobs newJob now = .ok (answer, jobs')) :
    IsJobOf jobs' newJob.windowId answer.1.id := by
  obtain ⟨hwindow, hrow, -⟩ := createOrGetJob_cases h
  exact ⟨answer.1, hrow, hwindow⟩

/-- After the creation of a job no window has two. -/
theorem oneJob_created (h : createOrGetJob jobs newJob now = .ok (answer, jobs'))
    (hone : ∀ {id jobId jobId'}, IsJobOf jobs id jobId → IsJobOf jobs id jobId' → jobId = jobId')
    {id jobId jobId' : Nat} (hjob : IsJobOf jobs' id jobId) (hjob' : IsJobOf jobs' id jobId') :
    jobId = jobId' := by
  rcases job_of_created h hjob with hold | ⟨-, hnew, hnone⟩
  · rcases job_of_created h hjob' with hold' | ⟨-, -, hnone⟩
    · exact hone hold hold'
    · exact (hnone jobId hold).elim
  · rcases job_of_created h hjob' with hold' | ⟨-, hnew', -⟩
    · exact (hnone jobId' hold').elim
    · rw [hnew, hnew']

/-! ## Loop -/

/-- What a window to queue may be: the same as a queued window of the schedule, or apart from it. -/
def Fits (db : BriefingDb) (scheduleId : Nat) (interval : Interval) : Prop :=
  ∀ {id window}, IsQueued db id window → window.scheduleId = scheduleId →
    Agree window.interval interval

/-- What queues some windows does to the tables. -/
structure Queues (scheduleId : Nat) (intervals : List Interval) (db db' : BriefingDb) : Prop where
  kept : KeptWindows db'
  schedules : db'.schedules = db.schedules
  window : ∀ {id window}, IsQueued db' id window →
    IsQueued db id window ∨ window.scheduleId = scheduleId ∧ window.interval ∈ intervals
  count_le : queuedCount db' ≤ queuedCount db + intervals.length

/-- **A window to queue.** -/
theorem queueWindow_queues {scheduleId : Nat} {result : MaterializeResult}
    {window : RunnableWindow} {answer : MaterializeResult × BriefingDb} (hkept : KeptWindows db)
    (hfits : Fits db scheduleId window.interval)
    (h : queueWindow env scheduleId now result db window = .ok answer) :
    Queues scheduleId [window.interval] db answer.2 := by
  obtain ⟨found, windowsDb, job, jobs, hwindow, hjob, hanswer⟩ := queueWindow_cases h
  rw [hanswer]
  rcases createOrGetWindow_cases hwindow with ⟨rfl, hrow⟩ | ⟨hnew, rfl, hother⟩
  · refine ⟨⟨hkept.apart, fun hqueued => ?_, oneJob_created hjob hkept.oneJob⟩, rfl,
      .inl, Nat.le_add_right _ _⟩
    obtain ⟨jobId, hold⟩ := hkept.job hqueued
    exact ⟨jobId, job_created_kept hjob hold⟩
  · -- the tables with the new window
    have hapart {id id' : Nat} {w w' : ScheduleWindow} (hold : IsQueued db id w)
        (hw' : w' = newWindowRow env (window.queued scheduleId) id') (hschedule : w.scheduleId = w'.scheduleId) :
        Apart w.interval w'.interval := by
      subst hw'
      rcases hfits hold hschedule with hsame | hapart
      · exact (hother id w hold.1 hschedule hsame).elim
      · exact hapart
    refine ⟨⟨fun {id id' w w'} hw hw' hschedule hne => ?_, fun {id w} hw => ?_,
      oneJob_created hjob hkept.oneJob⟩, rfl, fun {id w} hw => ?_, ?_⟩
    · rcases row_of_inserted hw.1 with ⟨hid, hrow⟩ | hold
      · rcases row_of_inserted hw'.1 with ⟨hid', -⟩ | hold'
        · exact (hne (hid.trans hid'.symm)).elim
        · exact (hapart ⟨hold', hw'.2⟩ hrow hschedule.symm).symm
      · rcases row_of_inserted hw'.1 with ⟨-, hrow'⟩ | hold'
        · exact hapart ⟨hold, hw.2⟩ hrow' hschedule
        · exact hkept.apart ⟨hold, hw.2⟩ ⟨hold', hw'.2⟩ hschedule hne
    · rcases row_of_inserted hw.1 with ⟨hid, -⟩ | hold
      · have hjobOf := job_of_answer hjob
        have hkey : (windowJob env scheduleId found.1.id).windowId = id := by
          rw [hid, hnew]
          rfl
        exact ⟨job.1.id, hkey ▸ hjobOf⟩
      · obtain ⟨jobId, hjobOf⟩ := hkept.job ⟨hold, hw.2⟩
        exact ⟨jobId, job_created_kept hjob hjobOf⟩
    · rcases row_of_inserted hw.1 with ⟨-, hrow⟩ | hold
      · refine .inr ?_
        rw [hrow]
        exact ⟨rfl, List.mem_singleton_self _⟩
      · exact .inl ⟨hold, hw.2⟩
    · rw [queuedCount, Table.total_insert]
      exact Nat.le_refl _

/-- **The loop** over windows that do not overlap each other. -/
theorem queueWindows_queues {scheduleId : Nat} {windows : List RunnableWindow}
    {result : MaterializeResult} {answer : MaterializeResult × BriefingDb}
    (hkept : KeptWindows db) (hfits : ∀ window ∈ windows, Fits db scheduleId window.interval)
    (hapart : (windows.map RunnableWindow.interval).Pairwise Apart)
    (h : queueWindows env scheduleId now windows result db = .ok answer) :
    Queues scheduleId (windows.map RunnableWindow.interval) db answer.2 := by
  induction windows generalizing result db with
  | nil =>
    cases h
    exact ⟨hkept, rfl, .inl, Nat.le_refl _⟩
  | cons window rest ih =>
    obtain ⟨⟨result', db₁⟩, hfirst, hrest⟩ := Checks.bind_eq_ok.mp h
    have hstep := queueWindow_queues hkept (hfits window List.mem_cons_self) hfirst
    rw [List.map_cons, List.pairwise_cons] at hapart
    have hloop := ih hstep.kept (fun other hother {id w} hw hschedule => ?_) hapart.2 hrest
    · refine ⟨hloop.kept, hloop.schedules.trans hstep.schedules, fun {id w} hw => ?_, ?_⟩
      · rcases hloop.window hw with hmid | ⟨hschedule, hmem⟩
        · rcases hstep.window hmid with hold | ⟨hschedule, hmem⟩
          · exact .inl hold
          · rw [List.mem_singleton.mp hmem]
            exact .inr ⟨hschedule, List.mem_cons_self⟩
        · exact .inr ⟨hschedule, List.mem_cons_of_mem _ hmem⟩
      · have hcount := hloop.count_le
        have hcount' := hstep.count_le
        simp only [List.length_map, List.length_cons, List.length_nil] at hcount hcount' ⊢
        omega
    · rcases hstep.window hw with hold | ⟨-, hmem⟩
      · exact hfits other (List.mem_cons_of_mem _ hother) hold hschedule
      · rw [List.mem_singleton.mp hmem]
        exact (hapart.1 _ (List.mem_map_of_mem hother)).agree

theorem createOrGetWindow_queues (scheduleId : Nat) {found : ScheduleWindow × Bool}
    (hkept : KeptWindows db) (hstatus : new.status ≠ .queued)
    (h : createOrGetWindow env db new = .ok (found, db')) : Queues scheduleId [] db db' := by
  rcases createOrGetWindow_cases h with ⟨rfl, -⟩ | ⟨-, rfl, -⟩
  · exact ⟨hkept, rfl, .inl, Nat.le_refl _⟩
  · have hold {id : Nat} {window : ScheduleWindow}
        (hrow : (db.windows.insert (newWindowRow env new) (newWindowRow_id env new)).row? id =
          some window) (hqueued : window.status = .queued) : IsQueued db id window := by
      rcases row_of_inserted hrow with ⟨-, rfl⟩ | hrow
      · exact absurd hqueued hstatus
      · exact ⟨hrow, hqueued⟩
    refine ⟨⟨fun hw hw' => hkept.apart (hold hw.1 hw.2) (hold hw'.1 hw'.2),
      fun hw => hkept.job (hold hw.1 hw.2), hkept.oneJob⟩, rfl,
      fun hw => .inl (hold hw.1 hw.2), ?_⟩
    rw [queuedCount, Table.total_insert, if_neg (by exact hstatus)]
    exact Nat.le_refl _

theorem skipWindows_queues {schedule : Schedule} {ends : List Int} {skipped : Nat}
    (hkept : KeptWindows db) (h : skipWindows env db schedule now ends skipped = .ok db') :
    Queues schedule.id [] db db' := by
  unfold skipWindows at h
  split at h
  · cases h
    exact ⟨hkept, rfl, .inl, Nat.le_refl _⟩
  · obtain ⟨⟨found, skippedDb⟩, hwindow, rfl⟩ := Checks.map_eq_ok.mp h
    refine createOrGetWindow_queues schedule.id hkept ?_ hwindow
    exact nofun

end

/-! ## Schedules -/

/-- Where a queued window of the schedule is: a cell of the grid of its due ends, where it queues no
    longer windows, and otherwise before the next due end's cell. -/
structure Placed (schedule : Schedule) (interval : Interval) : Prop where
  single : schedule.settings.Single → ∃ nextDue stop, schedule.nextDueAt = some nextDue ∧
    interval = cell schedule.settings.cadence stop ∧ schedule.settings.cadence ∣ nextDue - stop
  before : ¬ schedule.settings.Single → ∃ nextDue, schedule.nextDueAt = some nextDue ∧
    interval.stop + schedule.settings.cadence ≤ nextDue

/-- The queued windows are kept and placed. -/
structure Kept (db : BriefingDb) : Prop extends KeptWindows db where
  placed : ∀ {id window}, IsQueued db id window →
    ∃ schedule, db.schedules.row? window.scheduleId = some schedule ∧
      Placed schedule window.interval

/-- An older version of the row, of a schedule that never queues a window of more than one
    cadence: its due ends are on the same grid. -/
structure Older (row schedule : Schedule) : Prop where
  settings : schedule.settings = row.settings
  single : schedule.settings.Single
  grid : ∃ nextDue nextDue', row.nextDueAt = some nextDue ∧ schedule.nextDueAt = some nextDue' ∧
    schedule.settings.cadence ∣ nextDue - nextDue'

/-- The condition on a call whose schedule is valid and due.  With catch-up enabled, some window is
    configured or no due end lies in the lookback.  And the schedule is as its row is, or an older
    version that does no harm. -/
def Meets (env : ScheduleEnv) (db : BriefingDb) (call : MaterializeCall) : Prop :=
  ∀ nextDue, validateSchedule env call.schedule = .ok () →
    call.schedule.nextDueAt = some nextDue → nextDue ≤ call.now →
    (call.schedule.settings.catchUpEnabled = true →
        1 ≤ call.schedule.settings.maxCatchUpWindows ∨
          ¬ HasDueEnd call.schedule.settings nextDue call.now) ∧
      ∃ row, db.schedules.row? call.schedule.id = some row ∧
        (row = call.schedule ∨ Older row call.schedule)

/-- The call queues at most the configured number of windows, where catch-up is enabled. -/
def WithinCap (env : ScheduleEnv) (db : BriefingDb) (call : MaterializeCall) : Prop :=
  call.schedule.settings.catchUpEnabled = true →
    queuedCount (stepMaterialize env db call) ≤
      queuedCount db + call.schedule.settings.maxCatchUpWindows.toNat

section

variable {row schedule : Schedule} {nextDue first : Int} {n : Nat} {windows : List RunnableWindow}

theorem settings_eq (hrow : row = schedule ∨ Older row schedule) :
    row.settings = schedule.settings := by
  rcases hrow with rfl | holder
  · rfl
  · exact holder.settings.symm

/-- The next due end that is stored is on the grid of the one that the caller has read. -/
theorem stored_dvd {stored : Int} (hrow : row = schedule ∨ Older row schedule)
    (hstored : row.nextDueAt = some stored) (hdue : schedule.nextDueAt = some nextDue) :
    schedule.settings.cadence ∣ stored - nextDue := by
  rcases hrow with rfl | holder
  · rw [hdue] at hstored
    cases hstored
    simp
  · obtain ⟨_, _, hrowDue, hdue', hgrid⟩ := holder.grid
    rw [hstored] at hrowDue
    rw [hdue] at hdue'
    cases hrowDue
    cases hdue'
    exact hgrid

/-- The windows selected for a call fit the queued windows of its schedule. -/
theorem Placed.agree (hrow : row = schedule ∨ Older row schedule)
    (hdue : schedule.nextDueAt = some nextDue) (hle : nextDue ≤ first)
    (hdvd : schedule.settings.cadence ∣ first - nextDue) (hcadence : 0 < schedule.settings.cadence)
    (hselected : Selected schedule.settings first n windows) {interval : Interval}
    (hplaced : Placed row interval) {window : RunnableWindow} (hwindow : window ∈ windows) :
    Agree interval window.interval := by
  have hsettings := settings_eq hrow
  by_cases hsingle : schedule.settings.Single
  · obtain ⟨stored, stop, hstored, rfl, hstop⟩ := hplaced.single (hsettings ▸ hsingle)
    obtain ⟨stop', hcell, hstop'⟩ := hselected.cells hsingle hwindow
    have hgrid := stored_dvd hrow hstored hdue
    rw [hsettings] at hstop ⊢
    rw [hcell]
    refine cell_agree ?_
    -- stop ≡ stored ≡ nextDue ≡ first ≡ stop'
    have hsum : stop - stop' =
        (stored - nextDue) - (stored - stop) - (first - nextDue) - (stop' - first) := by omega
    rw [hsum]
    exact Int.dvd_sub (Int.dvd_sub (Int.dvd_sub hgrid hstop) hdvd) hstop'
  · have hsame : row = schedule := hrow.resolve_right fun holder => hsingle holder.single
    subst hsame
    obtain ⟨stored, hstored, hbefore⟩ := hplaced.before hsingle
    rw [hdue] at hstored
    cases hstored
    have hbounds := (hselected.bounds hcadence hwindow).1
    exact .inr (.inl (by omega))

/-- A queued window of the schedule stays placed when its next due end moves on. -/
theorem Placed.advance (hrow : row = schedule ∨ Older row schedule)
    (hdue : schedule.nextDueAt = some nextDue) (hle : nextDue ≤ first)
    (hdvd : schedule.settings.cadence ∣ first - nextDue)
    (hcadence : 0 < schedule.settings.cadence) {interval : Interval}
    (hplaced : Placed row interval) :
    Placed (advancedSchedule (first + n * schedule.settings.cadence) row) interval := by
  have hsettings := settings_eq hrow
  refine ⟨fun hsingle => ?_, fun hsingle => ?_⟩
  · obtain ⟨stored, stop, hstored, hcell, hstop⟩ := hplaced.single hsingle
    refine ⟨_, stop, rfl, hcell, ?_⟩
    have hgrid := stored_dvd hrow hstored hdue
    change row.settings.cadence ∣ _
    rw [hsettings] at hstop ⊢
    have hsum : first + n * schedule.settings.cadence - stop =
        (first - nextDue) - (stored - nextDue) + (stored - stop) +
          n * schedule.settings.cadence := by omega
    rw [hsum]
    exact Int.dvd_add (Int.dvd_add (Int.dvd_sub hdvd hgrid) hstop) (Int.dvd_mul_left _ _)
  · have hsame : row = schedule :=
      hrow.resolve_right fun holder => hsingle (hsettings ▸ holder.single)
    subst hsame
    obtain ⟨stored, hstored, hbefore⟩ := hplaced.before hsingle
    rw [hdue] at hstored
    cases hstored
    have hnonneg : 0 ≤ (n : Int) * row.settings.cadence :=
      Int.mul_nonneg (Int.natCast_nonneg n) hcadence.le
    refine ⟨_, rfl, ?_⟩
    change interval.stop + row.settings.cadence ≤ _
    omega

/-- A selected window is placed before the cursor. -/
theorem placed_of_selected (hsettings : row.settings = schedule.settings)
    (hcadence : 0 < schedule.settings.cadence)
    (hselected : Selected schedule.settings first n windows) {window : RunnableWindow}
    (hwindow : window ∈ windows) :
    Placed (advancedSchedule (first + n * schedule.settings.cadence) row) window.interval := by
  refine ⟨fun hsingle => ?_, fun _ => ?_⟩
  · obtain ⟨stop, hcell, hstop⟩ := hselected.cells (hsettings ▸ hsingle) hwindow
    refine ⟨_, stop, rfl, ?_, ?_⟩
    · change window.interval = cell row.settings.cadence stop
      rw [hsettings, hcell]
    · change row.settings.cadence ∣ _
      rw [hsettings]
      have hsum : first + n * schedule.settings.cadence - stop =
          n * schedule.settings.cadence - (stop - first) := by omega
      rw [hsum]
      exact Int.dvd_sub (Int.dvd_mul_left _ _) hstop
  · refine ⟨_, rfl, ?_⟩
    change window.interval.stop + row.settings.cadence ≤ _
    rw [hsettings]
    exact (hselected.bounds hcadence hwindow).2

/-- **A call on a schedule that is due.** -/
theorem materializeFrom_kept {env : ScheduleEnv} {db : BriefingDb} {now : Int}
    {answer : MaterializeResult × BriefingDb} (hkept : Kept db)
    (hvalid : validateSchedule env schedule = .ok ()) (hdue : schedule.nextDueAt = some nextDue)
    (hstored : db.schedules.row? schedule.id = some row)
    (hrow : row = schedule ∨ Older row schedule)
    (h : materializeFrom env db schedule nextDue now = .ok answer) :
    Kept answer.2 ∧
      (schedule.settings.catchUpEnabled = true →
        1 ≤ schedule.settings.maxCatchUpWindows ∨ ¬ HasDueEnd schedule.settings nextDue now →
        queuedCount answer.2 ≤ queuedCount db + schedule.settings.maxCatchUpWindows.toNat) := by
  obtain ⟨hcadence, -⟩ := cadence_pos_of_valid hvalid
  obtain ⟨first, n, skipped, windows, skippedDb, queued, hle, hdvd, hnone, hselected, hskipped,
    hqueued, hanswer⟩ := materializeFrom_cases hvalid h
  have hskip := skipWindows_queues hkept.toKeptWindows hskipped
  have hold {id : Nat} {window : ScheduleWindow} (hw : IsQueued skippedDb id window) :
      IsQueued db id window := (hskip.window hw).resolve_right fun hnew => by cases hnew.2
  have hfits : ∀ window ∈ windows, Fits skippedDb schedule.id window.interval := by
    intro window hwindow id other hother hschedule
    obtain ⟨row', hrow', hplaced⟩ := hkept.placed (hold hother)
    rw [hschedule, hstored] at hrow'
    cases hrow'
    exact hplaced.agree hrow hdue hle hdvd hcadence hselected hwindow
  have hloop := queueWindows_queues hskip.kept hfits (hselected.apart hcadence) hqueued
  have hschedules : queued.2.schedules = db.schedules := hloop.schedules.trans hskip.schedules
  rw [hanswer]
  refine ⟨⟨⟨hloop.kept.apart, hloop.kept.job, hloop.kept.oneJob⟩, fun {id window} hw => ?_⟩,
    fun hon hcap => ?_⟩
  · have hqueuedWindow : IsQueued queued.2 id window := hw
    by_cases hid : window.scheduleId = schedule.id
    · refine ⟨advancedSchedule (first + n * schedule.settings.cadence) row, ?_, ?_⟩
      · simp only [updateScheduleDueState]
        rw [hschedules, Table.update_row?, if_pos hid, hstored]
        rfl
      · rcases hloop.window hqueuedWindow with hbefore | ⟨-, hmem⟩
        · obtain ⟨row', hrow', hplaced⟩ := hkept.placed (hold hbefore)
          rw [hid, hstored] at hrow'
          cases hrow'
          exact hplaced.advance hrow hdue hle hdvd hcadence
        · obtain ⟨selected, hselectedMem, hinterval⟩ := List.mem_map.mp hmem
          rw [← hinterval]
          exact placed_of_selected (settings_eq hrow) hcadence hselected hselectedMem
    · have hbefore : IsQueued skippedDb id window :=
        (hloop.window hqueuedWindow).resolve_right fun hnew => hid hnew.1
      obtain ⟨other, hother, hplaced⟩ := hkept.placed (hold hbefore)
      refine ⟨other, ?_, hplaced⟩
      simp only [updateScheduleDueState]
      rw [hschedules, Table.update_row?_of_ne _ _ _ _ hid, hother]
  · change queuedCount queued.2 ≤ _
    have hskipCount := hskip.count_le
    have hloopCount := hloop.count_le
    have hlength : windows.length ≤ schedule.settings.maxCatchUpWindows.toNat := by
      rcases hcap with hpos | hnoEnd
      · have hmax : schedule.settings.maxCatchUp = schedule.settings.maxCatchUpWindows :=
          if_neg (by omega)
        have hlength := hselected.length_le hon
        omega
      · rw [hnone hnoEnd] at hselected
        rw [hselected.eq_nil]
        exact Nat.zero_le _
    simp only [List.length_nil, List.length_map] at hskipCount hloopCount
    omega

end

theorem Kept.blocked {db : BriefingDb} (h : Kept db) (scheduleId : Nat) (message : String) :
    Kept (markScheduleBlocked db scheduleId message) where
  toKeptWindows := ⟨h.apart, h.job, h.oneJob⟩
  placed := by
    intro id window hw
    obtain ⟨schedule, hrow, hplaced⟩ := h.placed hw
    simp only [markScheduleBlocked]
    rw [Table.update_row?_eq_map, hrow, Option.map_some]
    refine ⟨_, rfl, ?_⟩
    split
    · exact ⟨hplaced.single, hplaced.before⟩
    · exact hplaced

/-! ## Result -/

variable {env : ScheduleEnv} {db : BriefingDb} {call : MaterializeCall}

/-- **One call** that meets the condition. -/
theorem stepMaterialize_kept (hkept : Kept db) (hmeets : Meets env db call) :
    Kept (stepMaterialize env db call) ∧ WithinCap env db call := by
  have hsame (hdb : stepMaterialize env db call = db) :
      Kept (stepMaterialize env db call) ∧ WithinCap env db call := by
    rw [WithinCap, hdb]
    exact ⟨hkept, fun _ => Nat.le_add_right _ _⟩
  cases hcall : materializeDueSchedule env db call.schedule call.now with
  | error message => exact hsame (by simp only [stepMaterialize, hcall])
  | ok answer =>
    have hstep : stepMaterialize env db call = answer.2 := by
      simp only [stepMaterialize, hcall]
    unfold materializeDueSchedule at hcall
    split at hcall
    · cases hcall
    · cases hcall
      rw [WithinCap, hstep]
      exact ⟨hkept.blocked _ _, fun _ => Nat.le_add_right _ _⟩
    · next hvalid =>
      split at hcall
      · cases hcall
        exact hsame hstep
      · next nextDue hdue =>
        split at hcall
        · cases hcall
          exact hsame hstep
        · next hnow =>
          obtain ⟨hcap, row, hstored, hrow⟩ := hmeets nextDue hvalid hdue (by omega)
          have hfrom := materializeFrom_kept hkept hvalid hdue hstored hrow hcall
          rw [WithinCap, hstep]
          exact ⟨hfrom.1, fun hon => hfrom.2 hon (hcap hon)⟩

/-- The tables before the first call. -/
def initialDb (schedules : Table Schedule Schedule.id) : BriefingDb := ⟨schedules, .empty, .empty⟩

theorem kept_initial (schedules : Table Schedule Schedule.id) : Kept (initialDb schedules) where
  apart h := by cases h.1
  job h := by cases h.1
  oneJob h := by cases h.choose_spec.1
  placed h := by cases h.1

/-- The queued windows of each schedule do not overlap. -/
def QueuedApart (db : BriefingDb) : Prop :=
  ∀ id id' window window', IsQueued db id window → IsQueued db id' window' →
    window.scheduleId = window'.scheduleId → id ≠ id' → Apart window.interval window'.interval

/-- Each queued window has one job. -/
def OneJobEach (db : BriefingDb) : Prop :=
  ∀ id window, IsQueued db id window → ∃! jobId, IsJobOf db.jobs id jobId

/-- **The windows of a run.**  Where every call meets the condition, no call queues more windows than
    its schedule is configured with, the queued windows of each schedule do not overlap, and each has
    one job. -/
theorem windows_materialised (env : ScheduleEnv) (schedules : Table Schedule Schedule.id)
    (calls : List MaterializeCall)
    (hcalls : Runs.Along (stepMaterialize env) (Meets env) (initialDb schedules) calls) :
    Runs.Along (stepMaterialize env) (WithinCap env) (initialDb schedules) calls ∧
      QueuedApart (Runs.after (stepMaterialize env) (initialDb schedules) calls) ∧
      OneJobEach (Runs.after (stepMaterialize env) (initialDb schedules) calls) := by
  have hstep (db : BriefingDb) (call : MaterializeCall) (hkept : Kept db)
      (hmeets : Meets env db call) : Kept (stepMaterialize env db call) :=
    (stepMaterialize_kept hkept hmeets).1
  have hkept := Runs.invariant hstep (kept_initial schedules) hcalls
  refine ⟨hcalls.imp_of_invariant hstep (fun db call hkept hmeets => ?_) (kept_initial schedules),
    fun _ _ _ _ => hkept.apart, fun id window hw => ?_⟩
  · exact (stepMaterialize_kept hkept hmeets).2
  · obtain ⟨jobId, hjob⟩ := hkept.job hw
    exact ⟨jobId, hjob, fun other hother => hkept.oneJob hother hjob⟩

/-! ### Runs of one schedule -/

instance : Decidable (WithinCap env db call) := inferInstanceAs (Decidable (_ → _))

/-- Every timezone is known, and the keys are spelled out. -/
def plainEnv : ScheduleEnv where
  zoneInfo _ := .found
  windowKey scheduleId interval :=
    toString scheduleId ++ ":" ++ toString interval.start ++ ":" ++ toString interval.stop
  jobKey windowId := toString windowId

/-- An hourly schedule that is due at time zero. -/
def hourly (maxCatchUpWindows : Int) (coalesceMissedWindows : Bool) : Schedule where
  id := 1
  settings :=
    { enabled := true, timezone := "UTC", cadenceMinutes := 60, catchUpEnabled := true,
      maxCatchUpWindows := maxCatchUpWindows, maxLookbackHours := 24,
      coalesceMissedWindows := coalesceMissedWindows }
  nextDueAt := some 0
  status := .active
  failureCode := none
  failureMessage := none

/-- The schedule's row. -/
def stored (schedule : Schedule) : Table Schedule Schedule.id :=
  Table.empty.insert (fun id => { schedule with id := id }) fun _ => rfl

/-- A schedule that is read before each call: two due ends, then one more. -/
theorem hourly_materialised :
    Runs.Along (stepMaterialize plainEnv) (WithinCap plainEnv) (initialDb (stored (hourly 3 true)))
        [⟨hourly 3 true, hours 1⟩, ⟨advancedSchedule (hours 2) (hourly 3 true), hours 2⟩] ∧
      QueuedApart (Runs.after (stepMaterialize plainEnv) (initialDb (stored (hourly 3 true)))
        [⟨hourly 3 true, hours 1⟩, ⟨advancedSchedule (hours 2) (hourly 3 true), hours 2⟩]) ∧
      OneJobEach (Runs.after (stepMaterialize plainEnv) (initialDb (stored (hourly 3 true)))
        [⟨hourly 3 true, hours 1⟩, ⟨advancedSchedule (hours 2) (hourly 3 true), hours 2⟩]) := by
  refine windows_materialised plainEnv (stored (hourly 3 true)) _ ⟨?_, ?_, trivial⟩
  · intro _ _ _ _
    exact ⟨fun _ => .inl (by decide), hourly 3 true, rfl, .inl rfl⟩
  · intro _ _ _ _
    refine ⟨fun _ => .inl (by decide), advancedSchedule (hours 2) (hourly 3 true), ?_, .inl rfl⟩
    decide +kernel

/-- A schedule configured with no windows queues one. -/
theorem no_windows_queue_one :
    ¬ Runs.Along (stepMaterialize plainEnv) (WithinCap plainEnv)
      (initialDb (stored (hourly 0 true))) [⟨hourly 0 true, 0⟩] := by
  decide +kernel

/-- A caller with an older version of the row queues a window over those that are queued. -/
example :
    ((Runs.after (stepMaterialize plainEnv) (initialDb (stored (hourly 3 true)))
        [⟨hourly 3 true, hours 2⟩, ⟨hourly 3 true, hours 3⟩]).windows.rows.filter
        (·.status = .queued)).map ScheduleWindow.interval =
      [⟨-hours 1, 0⟩, ⟨0, hours 1⟩, ⟨hours 1, hours 2⟩, ⟨0, hours 3⟩] := by
  decide +kernel

end SiemDashboard.BriefingWindows
