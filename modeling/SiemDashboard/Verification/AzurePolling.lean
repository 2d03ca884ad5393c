import SiemDashboard.SiemAzureFunction.FunctionApp

/-!
# What the poller loses

A row up to the stored checkpoint has been forwarded or counted as skipped, as long as no page that is
completed is cut between rows of one time, and no run begins behind rows that are left.

* **Rows** — `Reached`: the rows up to a time have been handled.
* **Pages** — `handleRows_spec`, `pageStep_reached`.
* **Runs** — `RunSound`, `no_telemetry_lost`.
-/

namespace SiemDashboard.AzureInsights

variable {lib : Library} {config : PollConfig} {rows : List TelemetryRow} {run : PollRun}

/-! ## Rows -/

/-- The rows up to a time have been handled. -/
def Reached (rows : List TelemetryRow) (handled : List Nat) (time : Int) : Prop :=
  ∀ entry ∈ entries rows, entry.instant ≤ time → entry.position ∈ handled

theorem Reached.mono {handled handled' : List Nat} {time : Int} (h : Reached rows handled time)
    (hsub : handled ⊆ handled') : Reached rows handled' time :=
  fun entry hentry hle => hsub (h entry hentry hle)

/-! ## Pages -/

/-- What the loop over the rows does: the watermark stays, and a page that is completed is handled. -/
theorem handleRows_spec (page : Nat) (items : List LogEntry) (place : Nat) (st : PollState) :
    let after := handleRows lib config run page items place st
    after.1.watermark = st.watermark ∧ st.handled ⊆ after.1.handled ∧
      (after.2 = .completed → ∀ entry ∈ items, entry.position ∈ after.1.handled) := by
  induction items generalizing place st with
  | nil => exact ⟨rfl, fun _ h => h, fun _ _ h => by cases h⟩
  | cons entry rest ih =>
    have hhandle (counts : PollCounts) :
        let after := handleRows lib config run page rest (place + 1) (st.handle entry counts)
        after.1.watermark = st.watermark ∧ st.handled ⊆ after.1.handled ∧
          (after.2 = .completed → ∀ other ∈ entry :: rest, other.position ∈ after.1.handled) := by
      obtain ⟨hwatermark, hsub, hall⟩ := ih (place + 1) (st.handle entry counts)
      refine ⟨hwatermark, fun n hn => hsub (List.mem_cons_of_mem _ hn), fun hend other hother => ?_⟩
      rcases List.mem_cons.mp hother with rfl | hother
      · exact hsub List.mem_cons_self
      · exact hall hend other hother
    dsimp only at hhandle ⊢
    rw [handleRows]
    split
    · exact hhandle _
    · split
      · exact ⟨rfl, fun _ h => h, fun h => by cases h⟩
      · exact hhandle _
      · exact hhandle _
      · split
        · exact hhandle _
        · exact ⟨rfl, fun _ h => h, fun h => by cases h⟩

/-- The rows that a page leaves come later than its last row. -/
def PageUncut (config : PollConfig) (rows : List TelemetryRow) (run : PollRun) (st : PollState) :
    Prop :=
  Watermarks.Uncut LogEntry.instant config.pageSize (window rows st.watermark run.now)

/-- The states that a page may lead to. -/
def PageResult.state : PageResult → PollState
  | .next st => st
  | .stop st => st
  | .raised st => st

/-- The rows up to the last row of a page that is completed have been handled. -/
theorem reached_of_completed {st : PollState} {handled : List Nat} {last : LogEntry}
    (hreached : Reached rows st.handled st.watermark) (hsub : st.handled ⊆ handled)
    (huncut : PageUncut config rows run st)
    (hlast : (queryRecentTelemetry config.pageSize rows st.watermark run.now).getLast? = some last)
    (hall : ∀ entry ∈ queryRecentTelemetry config.pageSize rows st.watermark run.now,
      entry.position ∈ handled) :
    Reached rows handled last.instant := by
  intro entry hentry hle
  by_cases hbefore : entry.instant ≤ st.watermark
  · exact hsub (hreached entry hentry hbefore)
  · have hlastWindow : last ∈ window rows st.watermark run.now :=
      Watermarks.mem_window_of_mem_page (List.mem_of_getLast? hlast)
    have hupper : last.instant ≤ run.now := by
      have hmem := (List.mem_filter.mp hlastWindow).2
      simp only [Bool.and_eq_true, decide_eq_true_eq] at hmem
      exact hmem.2
    have hwindow : entry ∈ window rows st.watermark run.now := by
      refine List.mem_filter.mpr ⟨hentry, ?_⟩
      simp only [Bool.and_eq_true, decide_eq_true_eq]
      exact ⟨not_le.mp hbefore, hle.trans hupper⟩
    exact hall entry (Watermarks.mem_page_of_le huncut hlast hwindow hle)

/-- A page that is read through reaches its new watermark, unless the loop goes on and it is cut. -/
theorem finishPage_reached {st read : PollState} {ending : RowsEnd} {page : List LogEntry}
    (hpage : page = queryRecentTelemetry config.pageSize rows st.watermark run.now)
    (hreached : Reached rows st.handled st.watermark) (hwatermark : read.watermark = st.watermark)
    (hsub : st.handled ⊆ read.handled)
    (hall : ending = .completed → ∀ entry ∈ page, entry.position ∈ read.handled)
    (huncut : ∀ st', finishPage config page (read, ending) = .next st' →
      PageUncut config rows run st) :
    let st' := (finishPage config page (read, ending)).state
    st.handled ⊆ st'.handled ∧ Reached rows st'.handled st'.watermark := by
  have hkept : Reached rows read.handled read.watermark := by
    rw [hwatermark]
    exact hreached.mono hsub
  cases ending with
  | raised => exact ⟨hsub, hkept⟩
  | failed => exact ⟨hsub, hkept⟩
  | completed =>
    have hlast (huncut : PageUncut config rows run st) :
        Reached rows read.handled ((page.getLast?.map LogEntry.instant).getD read.watermark) := by
      cases hlast : page.getLast? with
      | none => exact hkept
      | some last =>
        rw [hpage] at hlast hall
        exact reached_of_completed hreached hsub huncut hlast (hall rfl)
    unfold finishPage at huncut ⊢
    dsimp only at huncut ⊢
    split
    · next hshort =>
      rw [hpage] at hshort
      exact ⟨hsub, hlast (Watermarks.uncut_of_short hshort)⟩
    · next hfull =>
      rw [if_neg hfull] at huncut
      exact ⟨hsub, hlast (huncut _ rfl)⟩

/-- A turn of the loop keeps what is handled, and reaches its new watermark unless it goes on from a
    page that is cut. -/
theorem pageStep_reached {index : Nat} {st : PollState}
    (hreached : Reached rows st.handled st.watermark)
    (huncut : ∀ st', pageStep lib config rows run index st = .next st' →
      PageUncut config rows run st) :
    let st' := (pageStep lib config rows run index st).state
    st.handled ⊆ st'.handled ∧ Reached rows st'.handled st'.watermark := by
  dsimp only
  unfold pageStep at huncut ⊢
  dsimp only at huncut ⊢
  split
  · next hqueries =>
    rw [if_pos hqueries] at huncut
    split
    · exact ⟨fun _ h => h, hreached⟩
    · next hempty =>
      rw [if_neg hempty] at huncut
      obtain ⟨hwatermark, hsub, hall⟩ := @handleRows_spec lib config run
        index (queryRecentTelemetry config.pageSize rows st.watermark run.now) 0
        { st with
          counts :=
            { st.counts with
              returned := st.counts.returned +
                (queryRecentTelemetry config.pageSize rows st.watermark run.now).length
              pagesProcessed := st.counts.pagesProcessed + 1 } }
      exact finishPage_reached rfl hreached hwatermark hsub hall huncut
  · exact ⟨fun _ h => h, hreached⟩

/-- The pages that a loop goes on from are uncut. -/
def PagesUncut (lib : Library) (config : PollConfig) (rows : List TelemetryRow) (run : PollRun) :
    Nat → Nat → PollState → Prop
  | _, 0, _ => True
  | index, left + 1, st =>
    match pageStep lib config rows run index st with
    | .next st' => PageUncut config rows run st ∧ PagesUncut lib config rows run (index + 1) left st'
    | _ => True

/-- The loop goes on after a page. -/
def PageResult.goesOn : PageResult → Bool
  | .next _ => true
  | _ => false

theorem pagesUncut_of_end {index left : Nat} {st : PollState}
    (h : (pageStep lib config rows run index st).goesOn = false) :
    PagesUncut lib config rows run index left st := by
  cases left with
  | zero => trivial
  | succ left =>
    rw [PagesUncut]
    cases hresult : pageStep lib config rows run index st with
    | next st' =>
      rw [hresult] at h
      cases h
    | stop st' => trivial
    | raised st' => trivial

/-- The loop over the pages. -/
theorem pollPages_reached {index left : Nat} {st : PollState}
    (hreached : Reached rows st.handled st.watermark)
    (huncut : PagesUncut lib config rows run index left st) :
    let after := (pollPages lib config rows run index left st).1
    st.handled ⊆ after.handled ∧ Reached rows after.handled after.watermark := by
  induction left generalizing index st with
  | zero => exact ⟨fun _ h => h, hreached⟩
  | succ left ih =>
    have hstep := @pageStep_reached lib config rows run index st hreached
    dsimp only at ih hstep ⊢
    rw [pollPages]
    rw [PagesUncut] at huncut
    cases hresult : pageStep lib config rows run index st with
    | next st' =>
      rw [hresult] at huncut hstep
      obtain ⟨hsub, hreached'⟩ := hstep fun _ _ => huncut.1
      obtain ⟨hsub', hafter⟩ := ih hreached' huncut.2
      exact ⟨fun _ h => hsub' (hsub h), hafter⟩
    | stop st' =>
      rw [hresult] at hstep
      exact hstep fun _ h => by cases h
    | raised st' =>
      rw [hresult] at hstep
      exact hstep fun _ h => by cases h

/-! ## Runs -/

/-- A run begins behind no row that is left, where its checkpoint is not the stored one. -/
def BeginsBehind (rows : List TelemetryRow) (run : PollRun) (ingestion : Ingestion) : Prop :=
  run.reads = false ∨ ingestion.checkpoint = none →
    Reached rows ingestion.handled (fetchCheckpoint run ingestion.checkpoint)

/-- A run that begins so, and goes on only from pages that are uncut. -/
structure RunSound (lib : Library) (config : PollConfig) (rows : List TelemetryRow) (run : PollRun)
    (ingestion : Ingestion) : Prop where
  begins : BeginsBehind rows run ingestion
  pages : PagesUncut lib config rows run 0 config.maxPollPages (PollState.start run ingestion)

/-- The rows up to the stored checkpoint have been handled. -/
def NothingLost (rows : List TelemetryRow) (ingestion : Ingestion) : Prop :=
  ∀ checkpoint, ingestion.checkpoint = some checkpoint →
    Reached rows ingestion.handled checkpoint.lastProcessedAt

/-- One run of the poller. -/
theorem poll_nothingLost {ingestion : Ingestion} (hlost : NothingLost rows ingestion)
    (hsound : RunSound lib config rows run ingestion) :
    NothingLost rows (pollApplicationInsights lib config rows run ingestion) := by
  have hstart : Reached rows (PollState.start run ingestion).handled
      (PollState.start run ingestion).watermark := by
    show Reached rows ingestion.handled (fetchCheckpoint run ingestion.checkpoint)
    cases hreads : run.reads with
    | false => exact hsound.begins (.inl hreads)
    | true =>
      cases hcheckpoint : ingestion.checkpoint with
      | none =>
        rw [← hcheckpoint]
        exact hsound.begins (.inr hcheckpoint)
      | some checkpoint =>
        unfold fetchCheckpoint
        rw [hreads, if_pos rfl]
        exact hlost checkpoint hcheckpoint
  obtain ⟨hsub, hreached⟩ := pollPages_reached hstart hsound.pages
  unfold pollApplicationInsights
  dsimp only
  split
  · intro checkpoint hcheckpoint
    cases hcheckpoint
    exact hreached
  · intro checkpoint hcheckpoint
    exact (hlost checkpoint hcheckpoint).mono hsub

/-- What is left after runs, beginning with nothing. -/
def afterRuns (lib : Library) (config : PollConfig) (rows : List TelemetryRow) (runs : List PollRun) :
    Ingestion :=
  runs.foldl (fun ingestion run => pollApplicationInsights lib config rows run ingestion) {}

/-- Every run is sound where it happens. -/
def RunsSound (lib : Library) (config : PollConfig) (rows : List TelemetryRow)
    (runs : List PollRun) : Prop :=
  ∀ before run after, runs = before ++ run :: after →
    RunSound lib config rows run (afterRuns lib config rows before)

/-- After runs that are sound, every row up to the stored checkpoint was returned to some run that has
    forwarded it or counted it as skipped. -/
theorem no_telemetry_lost {runs : List PollRun} (hsound : RunsSound lib config rows runs) :
    NothingLost rows (afterRuns lib config rows runs) := by
  induction runs using List.reverseRecOn with
  | nil =>
    intro checkpoint hcheckpoint
    cases hcheckpoint
  | append_singleton runs run ih =>
    have hbefore : RunsSound lib config rows runs := by
      intro before other after hruns
      refine hsound before other (after ++ [run]) ?_
      rw [hruns, List.append_assoc]
      rfl
    unfold afterRuns
    rw [List.foldl_append]
    exact poll_nothingLost (ih hbefore) (hsound runs run [] rfl)

/-- A run in which every call works, half an hour after the sample request. -/
def quietRun : PollRun where
  now := 30 * minute
  fallbackNow := 30 * minute
  backendNow := 30 * minute
  reads := true
  queries _ _ := true
  forwards _ _ _ := true
  persists := true

theorem deniedRequest_kept :
    NothingLost [deniedRequest] (afterRuns oneAddressLibrary {} [deniedRequest] [quietRun]) := by
  refine no_telemetry_lost fun before run after hruns => ?_
  have hbefore : before = [] := by
    have hlength := congrArg List.length hruns
    simp only [List.length_cons, List.length_nil, List.length_append] at hlength
    exact List.length_eq_zero_iff.mp (by omega)
  subst hbefore
  cases hruns
  constructor
  · unfold BeginsBehind Reached
    decide +kernel
  · refine pagesUncut_of_end ?_
    decide +kernel

/-- More requests at one time than a page has places. -/
def sameTime : List TelemetryRow := List.replicate 26 deniedRequest

/-- The run stores a checkpoint that has reached them all, and leaves one of them. -/
theorem sameTime_lost :
    ¬ NothingLost sameTime (afterRuns oneAddressLibrary {} sameTime [quietRun]) := by
  intro h
  have hcheckpoint : (afterRuns oneAddressLibrary {} sameTime [quietRun]).checkpoint.map
      Checkpoint.lastProcessedAt = some 0 := by decide +kernel
  have hleft : 25 ∉ (afterRuns oneAddressLibrary {} sameTime [quietRun]).handled := by
    decide +kernel
  obtain ⟨checkpoint, hsome, htime⟩ := Option.map_eq_some_iff.mp hcheckpoint
  refine hleft (h checkpoint hsome ⟨25, 0, deniedRequest⟩ ?_ (le_of_eq htime.symm))
  refine List.mem_filterMap.mpr ⟨(deniedRequest, 25), ?_, rfl⟩
  exact List.mem_zipIdx_iff_getElem?.mpr rfl

end SiemDashboard.AzureInsights
