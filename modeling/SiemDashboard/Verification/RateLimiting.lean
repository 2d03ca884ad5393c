import Mathlib.Data.List.Induction
import SiemDashboard.Engines.PfsenseSyslogListener
import SiemDashboard.Lib.SlidingWindow

/-!
# The listener's rate limit

The two pruned lists of the limiter agree, at every later time, with the calls that were allowed.  Hence
no window holds more allowed calls than a limit, and only a full window refuses a call.

* **Allowed calls** — `allowedTimes`, `allowedFrom`.
* **Invariant** — `Keeps`, `Keeps.allow`, `keeps_serve`.
* **Result** — `SlidingWindow`, `rateLimiter_slides`.
-/

namespace SiemDashboard.RateLimiting

open PfsenseListener SlidingWindow

/-! ## Allowed calls -/

/-- The times of the allowed calls. -/
def allowedTimes (log : List Answered) : List ℚ :=
  (log.filter fun call => call.allowed).map Answered.time

/-- The times of the allowed calls of a source. -/
def allowedFrom (sourceIp : String) (log : List Answered) : List ℚ :=
  allowedTimes (log.filter fun call => call.sourceIp = sourceIp)

section Allowed

variable {log : List Answered} {now : ℚ} {sourceIp other : String}

theorem allowedTimes_snoc_refused :
    allowedTimes (log ++ [⟨now, sourceIp, false⟩]) = allowedTimes log := by
  simp [allowedTimes, List.filter_append]

theorem allowedTimes_snoc_allowed :
    allowedTimes (log ++ [⟨now, sourceIp, true⟩]) = allowedTimes log ++ [now] := by
  simp [allowedTimes, List.filter_append]

theorem allowedFrom_snoc_refused :
    allowedFrom other (log ++ [⟨now, sourceIp, false⟩]) = allowedFrom other log := by
  unfold allowedFrom
  by_cases hsource : sourceIp = other
  · rw [List.filter_append, List.filter_cons_of_pos (by simpa using hsource), List.filter_nil]
    exact allowedTimes_snoc_refused
  · rw [List.filter_append, List.filter_cons_of_neg (by simpa using hsource), List.filter_nil,
      List.append_nil]

theorem allowedFrom_snoc_allowed :
    allowedFrom sourceIp (log ++ [⟨now, sourceIp, true⟩]) = allowedFrom sourceIp log ++ [now] := by
  unfold allowedFrom
  rw [List.filter_append, List.filter_cons_of_pos (by simp), List.filter_nil]
  exact allowedTimes_snoc_allowed

theorem allowedFrom_snoc_of_ne (hne : other ≠ sourceIp) {allowed : Bool} :
    allowedFrom other (log ++ [⟨now, sourceIp, allowed⟩]) = allowedFrom other log := by
  unfold allowedFrom
  rw [List.filter_append, List.filter_cons_of_neg (by simpa using Ne.symm hne), List.filter_nil,
    List.append_nil]

theorem allowedFrom_subset : allowedFrom sourceIp log ⊆ allowedTimes log := by
  intro time htime
  unfold allowedFrom allowedTimes at *
  rw [List.mem_map] at htime ⊢
  obtain ⟨call, hcall, rfl⟩ := htime
  rw [List.mem_filter] at hcall
  exact ⟨call, List.mem_filter.mpr ⟨(List.mem_filter.mp hcall.1).1, hcall.2⟩, rfl⟩

end Allowed

/-! ## Invariant -/

/-- A window of the limiter is full when a call arrives. -/
def Full (limiter : RateLimiter) (log : List Answered) (now : ℚ) (sourceIp : String) : Prop :=
  limiter.globalLimit ≤ (recent limiter.windowSeconds now (allowedTimes log)).length ∨
    limiter.perSourceLimit ≤ (recent limiter.windowSeconds now (allowedFrom sourceIp log)).length

/-- The limiter's lists agree with the log from a time on, and both were admitted. -/
structure Keeps (limiter : RateLimiter) (log : List Answered) (last : ℚ) : Prop where
  past : ∀ time ∈ allowedTimes log, time ≤ last
  global_eq : ∀ now, last ≤ now →
    recent limiter.windowSeconds now limiter.globalEvents =
      recent limiter.windowSeconds now (allowedTimes log)
  source_eq : ∀ now, last ≤ now → ∀ sourceIp,
    recent limiter.windowSeconds now (limiter.perSourceEvents sourceIp) =
      recent limiter.windowSeconds now (allowedFrom sourceIp log)
  global_admitted : Admitted limiter.globalLimit limiter.windowSeconds (allowedTimes log)
  source_admitted : ∀ sourceIp,
    Admitted limiter.perSourceLimit limiter.windowSeconds (allowedFrom sourceIp log)

/-- The limits and the window of a limiter are those of another one. -/
structure SameLimits (limiter other : RateLimiter) : Prop where
  globalLimit : limiter.globalLimit = other.globalLimit
  perSourceLimit : limiter.perSourceLimit = other.perSourceLimit
  windowSeconds : limiter.windowSeconds = other.windowSeconds

section Step

variable {limiter limiter' : RateLimiter} {log : List Answered} {last now : ℚ} {sourceIp : String}

/-- No call has been made. -/
theorem keeps_init (globalLimit perSourceLimit : Int) (windowSeconds last : ℚ) :
    Keeps (RateLimiter.init globalLimit perSourceLimit windowSeconds) [] last where
  past := fun _ htime => by cases htime
  global_eq := fun _ _ => rfl
  source_eq := fun _ _ _ => rfl
  global_admitted := .nil
  source_admitted := fun _ => .nil

/-- Time passes. -/
theorem Keeps.later (h : Keeps limiter log last) (hle : last ≤ now) : Keeps limiter log now where
  past := fun time htime => (h.past time htime).trans hle
  global_eq := fun _ hlater => h.global_eq _ (hle.trans hlater)
  source_eq := fun _ hlater => h.source_eq _ (hle.trans hlater)
  global_admitted := h.global_admitted
  source_admitted := h.source_admitted

theorem pruned_globalEvents (h : Keeps limiter log now) :
    (limiter.pruned now sourceIp).globalEvents =
      recent limiter.windowSeconds now (allowedTimes log) :=
  h.global_eq now le_rfl

theorem pruned_perSourceEvents (h : Keeps limiter log now) :
    (limiter.pruned now sourceIp).perSourceEvents sourceIp =
      recent limiter.windowSeconds now (allowedFrom sourceIp log) := by
  unfold RateLimiter.pruned
  dsimp only
  rw [Function.update_self]
  exact h.source_eq now le_rfl sourceIp

/-- Pruning loses nothing that will still count. -/
theorem Keeps.pruned (h : Keeps limiter log now) : Keeps (limiter.pruned now sourceIp) log now where
  past := h.past
  global_eq := by
    intro later hlater
    rw [pruned_globalEvents h]
    exact recent_recent hlater
  source_eq := by
    intro later hlater other
    by_cases hother : other = sourceIp
    · subst hother
      rw [pruned_perSourceEvents h]
      exact recent_recent hlater
    · unfold RateLimiter.pruned
      dsimp only
      rw [Function.update_of_ne hother]
      exact h.source_eq later hlater other
  global_admitted := h.global_admitted
  source_admitted := h.source_admitted

/-- A refused call leaves no trace. -/
theorem Keeps.refused (h : Keeps limiter log now) :
    Keeps limiter (log ++ [⟨now, sourceIp, false⟩]) now where
  past := by
    rw [allowedTimes_snoc_refused]
    exact h.past
  global_eq := by
    rw [allowedTimes_snoc_refused]
    exact h.global_eq
  source_eq := by
    intro later hlater other
    rw [allowedFrom_snoc_refused]
    exact h.source_eq later hlater other
  global_admitted := by
    rw [allowedTimes_snoc_refused]
    exact h.global_admitted
  source_admitted := by
    intro other
    rw [allowedFrom_snoc_refused]
    exact h.source_admitted other

/-- An allowed call is stamped in both lists. -/
theorem Keeps.allowed (h : Keeps limiter log now) (hroom : ¬ Full limiter log now sourceIp) :
    Keeps (limiter.stamped now sourceIp) (log ++ [⟨now, sourceIp, true⟩]) now where
  past := by
    rw [allowedTimes_snoc_allowed, List.forall_mem_append]
    exact ⟨h.past, List.forall_mem_singleton.mpr le_rfl⟩
  global_eq := by
    intro later hlater
    have hold := h.global_eq later hlater
    show recent limiter.windowSeconds later (limiter.globalEvents ++ [now]) = _
    rw [allowedTimes_snoc_allowed, recent_append, hold]
    exact recent_append.symm
  source_eq := by
    intro later hlater other
    have hold := h.source_eq later hlater other
    unfold RateLimiter.stamped
    dsimp only
    by_cases hother : other = sourceIp
    · subst hother
      rw [Function.update_self, allowedFrom_snoc_allowed, recent_append, recent_append, hold]
    · rw [Function.update_of_ne hother, allowedFrom_snoc_of_ne hother]
      exact hold
  global_admitted := by
    rw [allowedTimes_snoc_allowed]
    refine h.global_admitted.snoc h.past ?_
    exact Nat.lt_of_not_le fun hfull => hroom (Or.inl hfull)
  source_admitted := by
    intro other
    by_cases hother : other = sourceIp
    · subst hother
      rw [allowedFrom_snoc_allowed]
      refine (h.source_admitted other).snoc (fun time htime => h.past time (allowedFrom_subset htime)) ?_
      exact Nat.lt_of_not_le fun hfull => hroom (Or.inr hfull)
    · rw [allowedFrom_snoc_of_ne hother]
      exact h.source_admitted other

/-- What one call does: it is refused just where a window is full. -/
theorem Keeps.allow (h : Keeps limiter log now) :
    Keeps (limiter.allow now sourceIp).2
      (log ++ [⟨now, sourceIp, (limiter.allow now sourceIp).1⟩]) now ∧
    SameLimits (limiter.allow now sourceIp).2 limiter ∧
    ((limiter.allow now sourceIp).1 = false → Full limiter log now sourceIp) := by
  unfold RateLimiter.allow
  split
  · next hzero =>
    refine ⟨h.refused, ⟨rfl, rfl, rfl⟩, fun _ => ?_⟩
    rcases hzero with hglobal | hsource
    · left
      omega
    · right
      omega
  · dsimp only
    rw [pruned_globalEvents h, pruned_perSourceEvents h]
    split
    · next hfull => exact ⟨h.pruned.refused, ⟨rfl, rfl, rfl⟩, fun _ => Or.inl hfull⟩
    · next hglobal =>
      split
      · next hfull => exact ⟨h.pruned.refused, ⟨rfl, rfl, rfl⟩, fun _ => Or.inr hfull⟩
      · next hsource =>
        have hroom : ¬ Full limiter log now sourceIp := fun hfull => hfull.elim hglobal hsource
        have hpruned := @Keeps.pruned limiter log now sourceIp h
        exact ⟨hpruned.allowed hroom, ⟨rfl, rfl, rfl⟩, fun hallowed => by cases hallowed⟩

theorem SameLimits.full (h : SameLimits limiter limiter') (hfull : Full limiter log now sourceIp) :
    Full limiter' log now sourceIp := by
  unfold Full at *
  rw [← h.globalLimit, ← h.perSourceLimit, ← h.windowSeconds]
  exact hfull

end Step

/-! ## Result -/

/-- The stamps in the window of one width from the start on, without its end. -/
def countIco (width start : ℚ) (stamps : List ℚ) : Nat :=
  stamps.countP fun stamp => decide (start ≤ stamp ∧ stamp < start + width)

/-- The stamps in the window of one width up to the end, without its start. -/
def countIoc (width stop : ℚ) (stamps : List ℚ) : Nat :=
  stamps.countP fun stamp => decide (stop - width < stamp ∧ stamp ≤ stop)

/-- The log of a limiter whose window slides: no window holds too many allowed calls, and a refused call
    finds a limit reached in the window that ends with it. -/
structure Slides (limiter : RateLimiter) (log : List Answered) : Prop where
  global_Ico : ∀ start, countIco limiter.windowSeconds start (allowedTimes log) ≤ limiter.globalLimit
  global_Ioc : ∀ stop, countIoc limiter.windowSeconds stop (allowedTimes log) ≤ limiter.globalLimit
  source_Ico : ∀ sourceIp start,
    countIco limiter.windowSeconds start (allowedFrom sourceIp log) ≤ limiter.perSourceLimit
  source_Ioc : ∀ sourceIp stop,
    countIoc limiter.windowSeconds stop (allowedFrom sourceIp log) ≤ limiter.perSourceLimit
  refused : ∀ before call after, log = before ++ call :: after → call.allowed = false →
    limiter.globalLimit ≤ countIoc limiter.windowSeconds call.time (allowedTimes before) ∨
    limiter.perSourceLimit ≤
      countIoc limiter.windowSeconds call.time (allowedFrom call.sourceIp before)

section Windows

variable {limit : Nat} {width : ℚ} {stamps : List ℚ}

theorem countIco_le (h : Admitted limit width stamps) (start : ℚ) :
    countIco width start stamps ≤ limit :=
  h.countP_le (narrow_Ico start width)

theorem countIoc_le (h : Admitted limit width stamps) (stop : ℚ) :
    countIoc width stop stamps ≤ limit := by
  have hnarrow : Narrow width fun point => stop - width < point ∧ point ≤ stop := by
    have hwindow := narrow_Ioc (stop - width) width
    rw [sub_add_cancel] at hwindow
    exact hwindow
  exact h.countP_le hnarrow

/-- Up to now, the recent stamps are those of the window that ends now. -/
theorem length_recent {now : ℚ} (hpast : ∀ stamp ∈ stamps, stamp ≤ now) :
    (recent width now stamps).length = countIoc width now stamps := by
  unfold recent countIoc
  rw [← List.countP_eq_length_filter]
  refine List.countP_congr fun stamp hstamp => ?_
  simp [hpast stamp hstamp]

end Windows

/-- What a run establishes: its last time is the given one. -/
structure Served (limiter : RateLimiter) (calls : List (ℚ × String)) (last : ℚ) : Prop where
  keeps : Keeps (limiter.serve calls).2 (limiter.serve calls).1 last
  same : SameLimits (limiter.serve calls).2 limiter
  refused : ∀ before call after, (limiter.serve calls).1 = before ++ call :: after →
    call.allowed = false → (∀ time ∈ allowedTimes before, time ≤ call.time) ∧
      Full limiter before call.time call.sourceIp

section Run

variable {limiter : RateLimiter} {calls : List (ℚ × String)} {last now : ℚ} {sourceIp : String}

theorem serve_snoc :
    limiter.serve (calls ++ [(now, sourceIp)]) =
      ((limiter.serve calls).1 ++
          [⟨now, sourceIp, ((limiter.serve calls).2.allow now sourceIp).1⟩],
        ((limiter.serve calls).2.allow now sourceIp).2) := by
  unfold RateLimiter.serve
  rw [List.foldl_append]
  rfl

/-- One more call. -/
theorem Served.snoc (h : Served limiter calls last) (hle : last ≤ now) :
    Served limiter (calls ++ [(now, sourceIp)]) now := by
  have hkeeps := h.keeps.later hle
  obtain ⟨hnext, hsame, hrefused⟩ := @Keeps.allow _ _ now sourceIp hkeeps
  constructor
  · rw [serve_snoc]
    exact hnext
  · rw [serve_snoc]
    exact ⟨hsame.globalLimit.trans h.same.globalLimit,
      hsame.perSourceLimit.trans h.same.perSourceLimit,
      hsame.windowSeconds.trans h.same.windowSeconds⟩
  · intro before call after hlog hcall
    rw [serve_snoc] at hlog
    rcases List.append_eq_append_iff.mp hlog with ⟨more, hbefore, hmore⟩ | ⟨more, hbefore, hmore⟩
    · -- The call is the last one.
      cases more with
      | nil =>
        rw [List.nil_append, List.cons.injEq] at hmore
        obtain ⟨rfl, -⟩ := hmore
        rw [List.append_nil] at hbefore
        subst hbefore
        exact ⟨hkeeps.past, h.same.full (hrefused hcall)⟩
      | cons first more =>
        rw [List.cons_append, List.cons.injEq] at hmore
        cases List.append_eq_nil_iff.mp hmore.2.symm |>.2
    · cases more with
      | nil =>
        rw [List.nil_append, List.cons.injEq] at hmore
        obtain ⟨rfl, -⟩ := hmore
        rw [List.append_nil] at hbefore
        subst hbefore
        exact ⟨hkeeps.past, h.same.full (hrefused hcall)⟩
      | cons first more =>
        rw [List.cons_append, List.cons.injEq] at hmore
        obtain ⟨rfl, -⟩ := hmore
        exact h.refused before call more hbefore hcall

/-- Time passes after a run. -/
theorem Served.later (h : Served limiter calls last) (hle : last ≤ now) : Served limiter calls now :=
  ⟨h.keeps.later hle, h.same, h.refused⟩

theorem served_nil (globalLimit perSourceLimit : Int) (windowSeconds last : ℚ) :
    Served (RateLimiter.init globalLimit perSourceLimit windowSeconds) [] last := by
  refine ⟨keeps_init globalLimit perSourceLimit windowSeconds last, ⟨rfl, rfl, rfl⟩, ?_⟩
  intro before call after hlog
  have hnil := List.append_eq_nil_iff.mp hlog.symm
  cases hnil.2

/-- Every run at nondecreasing times. -/
theorem served_of_sorted (globalLimit perSourceLimit : Int) (windowSeconds : ℚ)
    (htimes : (calls.map Prod.fst).Pairwise (· ≤ ·)) (hlast : ∀ call ∈ calls, call.1 ≤ last) :
    Served (RateLimiter.init globalLimit perSourceLimit windowSeconds) calls last := by
  induction calls using List.reverseRecOn generalizing last with
  | nil => exact served_nil globalLimit perSourceLimit windowSeconds last
  | append_singleton calls call ih =>
    rw [List.map_append, List.pairwise_append] at htimes
    rw [List.forall_mem_append, List.forall_mem_singleton] at hlast
    have hbefore : ∀ earlier ∈ calls, earlier.1 ≤ call.1 := by
      intro earlier hearlier
      exact htimes.2.2 _ (List.mem_map_of_mem hearlier) _ (List.mem_singleton_self _)
    have hserved := ih htimes.1 hbefore
    exact (hserved.snoc le_rfl).later hlast.2

end Run

/-- Some time is not before any call. -/
theorem exists_last (calls : List (ℚ × String)) : ∃ last, ∀ call ∈ calls, call.1 ≤ last := by
  induction calls with
  | nil => exact ⟨0, by simp⟩
  | cons call calls ih =>
    obtain ⟨last, hlast⟩ := ih
    refine ⟨max call.1 last, List.forall_mem_cons.mpr ⟨le_max_left _ _, ?_⟩⟩
    intro later hlater
    exact (hlast later hlater).trans (le_max_right _ _)

/-- **The rate limit is a sliding window**: whatever the limits and the window, and whichever sources call
    at nondecreasing times, no half-open interval of one window holds more allowed calls than the limits,
    in total and for each source, and a call is refused only where a limit is already reached in the
    window that ends with it. -/
theorem rateLimiter_slides (globalLimit perSourceLimit : Int) (windowSeconds : ℚ)
    (calls : List (ℚ × String)) (htimes : (calls.map Prod.fst).Pairwise (· ≤ ·)) :
    Slides (RateLimiter.init globalLimit perSourceLimit windowSeconds)
      ((RateLimiter.init globalLimit perSourceLimit windowSeconds).serve calls).1 := by
  obtain ⟨last, hlast⟩ := exists_last calls
  have hserved := served_of_sorted globalLimit perSourceLimit windowSeconds htimes hlast
  have hglobal := hserved.keeps.global_admitted
  have hsource := hserved.keeps.source_admitted
  rw [hserved.same.globalLimit, hserved.same.windowSeconds] at hglobal
  rw [hserved.same.perSourceLimit, hserved.same.windowSeconds] at hsource
  constructor
  · exact countIco_le hglobal
  · exact countIoc_le hglobal
  · exact fun sourceIp => countIco_le (hsource sourceIp)
  · exact fun sourceIp => countIoc_le (hsource sourceIp)
  · intro before call after hlog hcall
    obtain ⟨hpast, hfull⟩ := hserved.refused before call after hlog hcall
    unfold Full at hfull
    rw [length_recent hpast, length_recent fun time htime => hpast time (allowedFrom_subset htime)] at hfull
    exact hfull

/-- Two calls per second in total, one for each source: the second call of a source is refused, and so is
    the fourth call. -/
theorem rateLimiter_slides_fourCalls :
    Slides (RateLimiter.init 2 1 1)
      [⟨0, "192.0.2.1", true⟩, ⟨1 / 2, "192.0.2.1", false⟩, ⟨1 / 2, "192.0.2.2", true⟩,
        ⟨3 / 4, "192.0.2.3", false⟩] := by
  have hslides := rateLimiter_slides 2 1 1
    [(0, "192.0.2.1"), (1 / 2, "192.0.2.1"), (1 / 2, "192.0.2.2"), (3 / 4, "192.0.2.3")]
    (by decide +kernel)
  have hlog : ((RateLimiter.init 2 1 1).serve
      [(0, "192.0.2.1"), (1 / 2, "192.0.2.1"), (1 / 2, "192.0.2.2"), (3 / 4, "192.0.2.3")]).1 =
      [⟨0, "192.0.2.1", true⟩, ⟨1 / 2, "192.0.2.1", false⟩, ⟨1 / 2, "192.0.2.2", true⟩,
        ⟨3 / 4, "192.0.2.3", false⟩] := by decide +kernel
  rw [hlog] at hslides
  exact hslides

end SiemDashboard.RateLimiting
