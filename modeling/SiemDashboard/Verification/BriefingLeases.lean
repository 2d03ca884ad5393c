import SiemDashboard.Core.SocBriefingRuntimeStore

/-!
# The leases of briefing jobs

Workers claim, complete, recover and interrupt jobs in any order, and may crash at any call.

* **History** — `claims`: how often a job has been claimed; `HeldSince`: an owner has claimed a job and
  has held it ever since.
* **Invariant** — `KeptJob`, `Kept`: what the rows say about the history; `kept_after`.
* **Result** — `LeaseProtocol`, `lease_protocol`.
-/

namespace SiemDashboard.BriefingLeases

open Tables BriefingStore

/-! ## History -/

def jobsAfter (calls : List JobCall) : Jobs := Runs.after stepJobs .empty calls

/-- How often the job has been claimed. -/
def claims (calls : List JobCall) (id : Nat) : Nat :=
  Runs.count stepJobs (fun jobs call => (claimantOf jobs call id).isSome) .empty calls

/-- The job runs under a lease of the owner. -/
def HeldAfter (calls : List JobCall) (id : Nat) (owner : String) : Prop :=
  ∃ job, (jobsAfter calls).row? id = some job ∧ job.isHeldBy owner = true

/-- The owner has claimed the job, and has held it ever since. -/
def HeldSince (calls : List JobCall) (id : Nat) (owner : String) : Prop :=
  ∃ pre call post, calls = pre ++ call :: post ∧
    claimantOf (jobsAfter pre) call id = some owner ∧
    ∀ mid, mid <+: post → HeldAfter (pre ++ call :: mid) id owner

theorem jobsAfter_append_singleton (calls : List JobCall) (call : JobCall) :
    jobsAfter (calls ++ [call]) = stepJobs (jobsAfter calls) call :=
  Runs.after_append _ _ _

theorem claims_append_singleton (calls : List JobCall) (call : JobCall) (id : Nat) :
    claims (calls ++ [call]) id =
      claims calls id + if (claimantOf (jobsAfter calls) call id).isSome then 1 else 0 :=
  Runs.count_append_singleton

section

variable {calls : List JobCall} {call : JobCall} {id : Nat} {owner : String}

/-- A claim starts a lease. -/
theorem HeldSince.claim (hclaim : claimantOf (jobsAfter calls) call id = some owner)
    (hheld : HeldAfter (calls ++ [call]) id owner) : HeldSince (calls ++ [call]) id owner := by
  refine ⟨calls, call, [], rfl, hclaim, fun mid hmid => ?_⟩
  obtain rfl : mid = [] := List.prefix_nil.mp hmid
  exact hheld

/-- A lease goes on while the job is held. -/
theorem HeldSince.keep (h : HeldSince calls id owner)
    (hheld : HeldAfter (calls ++ [call]) id owner) : HeldSince (calls ++ [call]) id owner := by
  obtain ⟨pre, first, post, rfl, hclaim, hsince⟩ := h
  refine ⟨pre, first, post ++ [call], by simp, hclaim, fun mid hmid => ?_⟩
  rcases List.prefix_concat_iff.mp hmid with rfl | hmid
  · simpa using hheld
  · exact hsince mid hmid

theorem HeldSince.heldAfter (h : HeldSince calls id owner) : HeldAfter calls id owner := by
  obtain ⟨pre, call, post, rfl, -, hsince⟩ := h
  exact hsince post (List.prefix_refl post)

end

/-! ## Invariant -/

/-- What a row says about the history of its job. -/
structure KeptJob (calls : List JobCall) (job : BriefingJob) : Prop where
  sound : job.Sound
  within : Leases.Within job.maxAttempts job.lease
  counted : job.attemptCount = claims calls job.id
  held : ∀ owner, job.isHeldBy owner = true → HeldSince calls job.id owner

/-- The rows say so, and a job that is not there has not been claimed. -/
structure Kept (calls : List JobCall) : Prop where
  job : ∀ {id job}, (jobsAfter calls).row? id = some job → KeptJob calls job
  unclaimed : ∀ {id}, (jobsAfter calls).row? id = none → claims calls id = 0

theorem isHeldBy_iff {job : BriefingJob} {owner : String} :
    job.isHeldBy owner = true ↔ job.status = .running ∧ job.leaseOwner = some owner := by
  simp [BriefingJob.isHeldBy]

theorem phase_eq_held {job : BriefingJob} {owner : String} (h : job.isHeldBy owner = true) :
    job.lease.phase = .held owner := by
  rw [isHeldBy_iff] at h
  rw [lease_of_running h.1 h.2]

/-- A sound job whose lease is held by the owner is held by the owner. -/
theorem isHeldBy_of_phase {job : BriefingJob} {owner : String} (hsound : job.Sound)
    (h : job.lease.phase = .held owner) : job.isHeldBy owner = true := by
  cases hstatus : job.status with
  | pending => simp [BriefingJob.lease, hstatus] at h
  | ended outcome => simp [BriefingJob.lease, hstatus] at h
  | running =>
    obtain ⟨owner', howner⟩ := Option.isSome_iff_exists.mp (hsound.mp hstatus)
    rw [lease_of_running hstatus howner] at h
    cases h
    exact isHeldBy_iff.mpr ⟨hstatus, howner⟩

theorem KeptJob.of_new {calls : List JobCall} {job : BriefingJob} (hnew : job.IsNew)
    (hclaims : claims calls job.id = 0) : KeptJob calls job where
  sound := sound_of_none hnew.noLease (by simp [hnew.pending])
  within := by
    have hattempts : job.lease.attempts = 0 := hnew.unclaimed
    refine ⟨?_, fun _ => ?_⟩
    · rw [hattempts]
      exact Nat.zero_le _
    · rw [hattempts]
      exact hnew.budget
  counted := hnew.unclaimed.trans hclaims.symm
  held owner h := by
    have hrunning : job.status = .running := (isHeldBy_iff.mp h).1
    rw [hnew.pending] at hrunning
    cases hrunning

/-- What a call leaves of a row. -/
theorem KeptJob.step {calls : List JobCall} {call : JobCall} {job job' : BriefingJob}
    (h : KeptJob calls job) (hid : job'.id = job.id)
    (hrow : (jobsAfter (calls ++ [call])).row? job.id = some job')
    (hstep : JobStep (claimantOf (jobsAfter calls) call job.id) job job') :
    KeptJob (calls ++ [call]) job' := by
  have hcount := claims_append_singleton calls call job.id
  have hsound : job'.Sound := hstep.sound h.sound
  cases hstep with
  | same hsame hnone =>
    subst hsame
    refine ⟨h.sound, h.within, ?_, fun owner hheld => ?_⟩
    · rw [hcount, hnone, ← h.counted]
      rfl
    · exact (h.held owner hheld).keep ⟨job', hrow, hheld⟩
  | moved hactive hbudget hsound' hlease =>
    refine ⟨hsound, ?_, ?_, fun owner hheld => ?_⟩
    · rw [hbudget]
      exact hlease.within h.within
    · rw [hid, hcount, ← h.counted]
      exact hlease.attempts_eq
    · rw [hid]
      have hafter : HeldAfter (calls ++ [call]) job.id owner := ⟨job', hrow, hheld⟩
      rcases hlease.held_cases (phase_eq_held hheld) with ⟨-, hphase⟩ | hclaim
      · exact (h.held owner (isHeldBy_of_phase h.sound hphase)).keep hafter
      · exact .claim hclaim hafter

theorem Kept.nil : Kept [] where
  job h := by cases h
  unclaimed _ := rfl

/-- A call claims only jobs that are there. -/
theorem Kept.unclaimed_step {calls : List JobCall} (h : Kept calls) {call : JobCall} {id : Nat}
    (hrow : (jobsAfter calls).row? id = none) : claims (calls ++ [call]) id = 0 := by
  have hnone : claimantOf (jobsAfter calls) call id = none := by
    cases hclaimant : claimantOf (jobsAfter calls) call id with
    | none => rfl
    | some owner => exact absurd hrow (row_of_claimant hclaimant)
  rw [claims_append_singleton, hnone, h.unclaimed hrow]
  rfl

theorem Kept.step {calls : List JobCall} (h : Kept calls) (call : JobCall) :
    Kept (calls ++ [call]) := by
  have hevolution := stepJobs_evolution (fun _ _ hrow => (h.job hrow).sound) call
  rw [← jobsAfter_append_singleton] at hevolution
  refine ⟨fun {id job'} hrow => ?_, fun {id} hrow => ?_⟩
  · have hkey : job'.id = id := (jobsAfter (calls ++ [call])).keyed id job' hrow
    rcases hevolution.row hrow with ⟨hid, hnew⟩ | ⟨job, hjob, hstep⟩
    · have hfresh : (jobsAfter calls).row? job'.id = none :=
        (jobsAfter calls).fresh _ (hkey ▸ hid)
      exact .of_new hnew (h.unclaimed_step hfresh)
    · have hkey' : job.id = id := (jobsAfter calls).keyed id job hjob
      exact (h.job hjob).step (hkey.trans hkey'.symm) (hkey' ▸ hrow) hstep
  · cases hold : (jobsAfter calls).row? id with
    | none => exact h.unclaimed_step hold
    | some job =>
      obtain ⟨job', hjob', -⟩ := hevolution.kept hold
      rw [hrow] at hjob'
      cases hjob'

/-- **The invariant of a run.** -/
theorem kept_after (calls : List JobCall) : Kept calls := by
  induction calls using List.reverseRecOn with
  | nil => exact .nil
  | append_singleton calls call ih => exact ih.step call

/-! ## Result -/

/-- A job that has ended stays as it is. -/
theorem ended_stays (calls more : List JobCall) {id : Nat} {job : BriefingJob}
    {outcome : JobOutcome} (hrow : (jobsAfter calls).row? id = some job)
    (hended : job.status = .ended outcome) : (jobsAfter (calls ++ more)).row? id = some job := by
  induction more using List.reverseRecOn with
  | nil => rwa [List.append_nil]
  | append_singleton more call ih =>
    have hevolution :=
      stepJobs_evolution (fun _ _ hrow => ((kept_after (calls ++ more)).job hrow).sound) call
    obtain ⟨job', hjob', hstep⟩ := hevolution.kept ih
    rw [← List.append_assoc, jobsAfter_append_singleton, hjob']
    cases hstep with
    | same hsame => rw [hsame]
    | moved hactive => exact absurd (by simp [BriefingJob.lease, hended]) hactive

/-- A completion that takes effect. -/
theorem completes_iff (calls : List JobCall) (jobId : Nat) (owner : String) (outcome : JobOutcome)
    (failureCode failureMessage : Option String) (now : Int) :
    (completeJob (jobsAfter calls) jobId owner outcome failureCode failureMessage now).1.isSome =
        true ↔
      HeldSince calls jobId owner := by
  rw [Option.isSome_iff_exists]
  constructor
  · intro ⟨job', hjob'⟩
    obtain ⟨job, hrow, hheld, -⟩ := Table.returning_eq_some.mp hjob'
    have hkey : job.id = jobId := (jobsAfter calls).keyed jobId job hrow
    have hsince := ((kept_after calls).job hrow).held owner hheld
    rwa [hkey] at hsince
  · intro h
    obtain ⟨job, hrow, hheld⟩ := h.heldAfter
    exact ⟨_, Table.returning_eq_some.mpr ⟨job, hrow, hheld, rfl⟩⟩

theorem changed_by_complete (calls : List JobCall) {id jobId : Nat} {owner : String}
    {outcome : JobOutcome} {failureCode failureMessage : Option String} {now : Int}
    (hchanged : (completeJob (jobsAfter calls) jobId owner outcome failureCode failureMessage
      now).2.row? id ≠ (jobsAfter calls).row? id) : id = jobId ∧ HeldSince calls jobId owner := by
  have hid : id = jobId := by
    by_contra hne
    exact hchanged (Table.update_row?_of_ne _ _ _ (completedJob_id _ _ _ _) hne)
  refine ⟨hid, (completes_iff calls jobId owner outcome failureCode failureMessage now).mp ?_⟩
  cases hanswer :
      (completeJob (jobsAfter calls) jobId owner outcome failureCode failureMessage now).1 with
  | some job => rfl
  | none =>
    dsimp only [completeJob] at hchanged hanswer
    exact (hchanged (Table.update_eq_of_returning_none hanswer id)).elim

/-- The protocol of the leases, after some calls. -/
structure LeaseProtocol (calls : List JobCall) : Prop where
  claims_le : ∀ id job, (jobsAfter calls).row? id = some job → claims calls id ≤ job.maxAttempts
  claimed_exists : ∀ id, (jobsAfter calls).row? id = none → claims calls id = 0
  pending : ∀ id job, (jobsAfter calls).row? id = some job → job.status = .pending →
    job.attemptCount < job.maxAttempts
  ended : ∀ id job outcome more, (jobsAfter calls).row? id = some job →
    job.status = .ended outcome → (jobsAfter (calls ++ more)).row? id = some job
  completes : ∀ jobId owner outcome failureCode failureMessage now,
    (completeJob (jobsAfter calls) jobId owner outcome failureCode failureMessage now).1.isSome =
        true ↔
      HeldSince calls jobId owner
  changes : ∀ id jobId owner outcome failureCode failureMessage now,
    (completeJob (jobsAfter calls) jobId owner outcome failureCode failureMessage now).2.row? id ≠
        (jobsAfter calls).row? id →
      id = jobId ∧ HeldSince calls jobId owner

/-- **The lease protocol.**  It holds after any calls of any workers, some of which may crash. -/
theorem lease_protocol (calls : List JobCall) : LeaseProtocol calls where
  claims_le id job hrow := by
    have hkept := (kept_after calls).job hrow
    have hkey : job.id = id := (jobsAfter calls).keyed id job hrow
    rw [← hkey, ← hkept.counted]
    exact hkept.within.attempts_le
  claimed_exists _ := (kept_after calls).unclaimed
  pending id job hrow hstatus := by
    have hwaiting : job.lease.phase = .waiting := by simp [BriefingJob.lease, hstatus]
    exact ((kept_after calls).job hrow).within.attempts_lt hwaiting
  ended _ _ _ more := ended_stays calls more
  completes := completes_iff calls
  changes _ _ _ _ _ _ _ := changed_by_complete calls

end SiemDashboard.BriefingLeases
