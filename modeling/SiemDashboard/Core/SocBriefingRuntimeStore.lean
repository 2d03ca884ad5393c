import Mathlib.Data.List.Sort
import SiemDashboard.Lib.Checks
import SiemDashboard.Lib.Leases
import SiemDashboard.Lib.Python
import SiemDashboard.Lib.Runs
import SiemDashboard.Lib.Tables

/-!
# Scheduled briefings

`core/ai/soc_briefing_runtime_store.py`: the jobs of scheduled briefings, which workers claim under a
lease, complete and recover; and the interruption of a worker in `core/ai/soc_briefing_worker.py`.

* **Jobs** — `BriefingJob`, `Jobs`; `BriefingJob.lease`: the job as a lease with a budget.
* **Creation** — `createOrGetJob`.
* **Leases** — `claimNextJob`, `heartbeatJobLease`, `completeJob`, `interruptOwnedRunningJobs`.
* **Recovery** — `terminalRecoveryFromLatestRun`, `recoverStaleJobs`.
* **System** — `JobOp`, `stepJobs`.
* **What an operation does** — `JobStep`: a step of the lease, or nothing; `stepJobs_evolution`.
-/

namespace SiemDashboard.BriefingStore

open Python Tables

/-! ## Jobs -/

/-- The statuses in which a job has ended. -/
inductive JobOutcome where
  | success
  | partially
  | failed
  | blocked
  | skipped
  | interrupted
deriving DecidableEq, Repr

inductive JobStatus where
  | pending
  | running
  | ended (outcome : JobOutcome)
deriving DecidableEq, Repr

/-- A row of `soc_briefing_jobs`. -/
structure BriefingJob where
  id : Nat
  scheduleId : Nat
  windowId : Nat
  idempotencyKey : String
  status : JobStatus
  priority : Int
  attemptCount : Nat
  maxAttempts : Nat
  recoveryCount : Nat
  leaseOwner : Option String
  leaseAcquiredAt : Option Int
  leaseHeartbeatAt : Option Int
  leaseExpiresAt : Option Int
  notBefore : Int
  startedAt : Option Int
  completedAt : Option Int
  failureCode : Option String
  failureMessage : Option String
  triggerType : String
  requestedBy : Option String
  createdAt : Int
  updatedAt : Int

abbrev Jobs := Table BriefingJob BriefingJob.id

/-- The job as a lease: who holds it, and how often it has been claimed. -/
def BriefingJob.lease (job : BriefingJob) : Leases.Job String where
  phase := match job.status with
    | .pending => .waiting
    | .running => .held (job.leaseOwner.getD "")
    | .ended _ => .finished
  attempts := job.attemptCount

/-! ## Creation -/

/-- The arguments of `create_or_get_job`, with the key of its window. -/
structure NewJob where
  scheduleId : Nat
  windowId : Nat
  idempotencyKey : String
  maxAttempts : Nat
  triggerType : String
  requestedBy : Option String
  priority : Int

/-- The row `create_or_get_job` inserts. -/
def newJobRow (new : NewJob) (now : Int) (id : Nat) : BriefingJob where
  id := id
  scheduleId := new.scheduleId
  windowId := new.windowId
  idempotencyKey := new.idempotencyKey
  status := .pending
  priority := max 1 (min new.priority 1000)
  attemptCount := 0
  maxAttempts := new.maxAttempts
  recoveryCount := 0
  leaseOwner := none
  leaseAcquiredAt := none
  leaseHeartbeatAt := none
  leaseExpiresAt := none
  notBefore := now
  startedAt := none
  completedAt := none
  failureCode := none
  failureMessage := none
  triggerType := strip new.triggerType
  requestedBy := (new.requestedBy.map fun text => String.ofList ((strip text).toList.take 255)).filter
    (· ≠ "")
  createdAt := now
  updatedAt := now

theorem newJobRow_id (new : NewJob) (now : Int) (id : Nat) : (newJobRow new now id).id = id := rfl

/-- `create_or_get_job`: the job of the window, and whether it is new.  What the job refers to
    exists. -/
def createOrGetJob (jobs : Jobs) (new : NewJob) (now : Int) :
    Except String ((BriefingJob × Bool) × Jobs) :=
  if !(["scheduled", "manual"].contains (strip new.triggerType)) then
    .error "invalid SOC briefing job trigger_type"
  else if !(0 < new.maxAttempts && new.maxAttempts ≤ 10) then .error "violates check constraint"
  else
    match jobs.rows.find? fun job => job.windowId = new.windowId with
    | some job => .ok ((job, false), jobs)
    | none =>
      if jobs.rows.any fun job => job.idempotencyKey = new.idempotencyKey then
        .error "violates unique constraint"
      else
        .ok ((newJobRow new now jobs.next, true),
          jobs.insert (newJobRow new now) (newJobRow_id new now))

/-- The job of the window: one that was there, or a new one where there was none. -/
theorem createOrGetJob_cases {jobs jobs' : Jobs} {new : NewJob} {now : Int}
    {answer : BriefingJob × Bool} (h : createOrGetJob jobs new now = .ok (answer, jobs')) :
    answer.1.windowId = new.windowId ∧ jobs'.row? answer.1.id = some answer.1 ∧
      (jobs' = jobs ∨ jobs' = jobs.insert (newJobRow new now) (newJobRow_id new now) ∧
        ∀ id job, jobs.row? id = some job → job.windowId ≠ new.windowId) := by
  unfold createOrGetJob at h
  split at h
  · cases h
  · split at h
    · cases h
    · split at h
      · next job hfound =>
        cases h
        refine ⟨by simpa using List.find?_some hfound, ?_, .inl rfl⟩
        exact Table.mem_rows.mp (List.mem_of_find?_eq_some hfound)
      · next hnone =>
        split at h
        · cases h
        · cases h
          refine ⟨rfl, ?_, .inr ⟨rfl, fun id job hrow => ?_⟩⟩
          · rw [Table.insert_row?, newJobRow_id, if_pos rfl]
          · have hkey : job.id = id := jobs.keyed id job hrow
            have hmem : job ∈ jobs.rows := Table.mem_rows.mpr (hkey ▸ hrow)
            simpa using List.find?_eq_none.mp hnone job hmem

/-! ## Leases -/

/-- `timedelta(seconds=…)`, in microseconds. -/
def seconds (n : Int) : Int := n * 1000000

/-- `ORDER BY priority ASC, created_at ASC, id ASC`. -/
def claimedFirst (a b : BriefingJob) : Bool :=
  a.priority < b.priority || a.priority = b.priority &&
    (a.createdAt < b.createdAt || a.createdAt = b.createdAt && a.id ≤ b.id)

/-- The jobs that may be claimed and that no other transaction has locked, in the order of claims. -/
def claimableJobs (jobs : Jobs) (locked : Nat → Bool) (now : Int) : List BriefingJob :=
  (jobs.rows.filter fun job => job.status = .pending && job.notBefore ≤ now && !locked job.id)
    |>.insertionSort fun a b => claimedFirst a b = true

/-- What a claim writes. -/
def claimedJob (owner : String) (now expires : Int) (job : BriefingJob) : BriefingJob :=
  { job with
    status := .running
    attemptCount := job.attemptCount + 1
    startedAt := job.startedAt.or (some now)
    leaseOwner := some owner
    leaseAcquiredAt := some now
    leaseHeartbeatAt := some now
    leaseExpiresAt := some expires
    updatedAt := now }

theorem claimedJob_id (owner : String) (now expires : Int) (job : BriefingJob) :
    (claimedJob owner now expires job).id = job.id := rfl

/-- `claim_next_job`: the claimed job. -/
def claimNextJob (jobs : Jobs) (locked : Nat → Bool) (leaseOwner : String) (now : Int)
    (leaseDurationSeconds : Int) : Except String (Option BriefingJob × Jobs) :=
  let owner := strip leaseOwner
  if owner = "" then .error "lease_owner is required"
  else
    let expires := now + seconds (max 1 leaseDurationSeconds)
    match (claimableJobs jobs locked now).head? with
    | none => .ok (none, jobs)
    | some job =>
      .ok (jobs.returning job.id (fun job => job.status = .pending) (claimedJob owner now expires),
        jobs.update job.id (fun job => job.status = .pending) (claimedJob owner now expires)
          (claimedJob_id owner now expires))

/-- What a heartbeat writes. -/
def renewedJob (now expires : Int) (job : BriefingJob) : BriefingJob :=
  { job with leaseHeartbeatAt := some now, leaseExpiresAt := some expires, updatedAt := now }

theorem renewedJob_id (now expires : Int) (job : BriefingJob) :
    (renewedJob now expires job).id = job.id := rfl

/-- The job is running under a lease of the owner that has not expired. -/
def BriefingJob.isLive (owner : String) (now : Int) (job : BriefingJob) : Bool :=
  job.status = .running && job.leaseOwner = some owner && job.leaseExpiresAt.any (now < ·)

/-- `heartbeat_job_lease`. -/
def heartbeatJobLease (jobs : Jobs) (jobId : Nat) (leaseOwner : String) (now : Int)
    (leaseDurationSeconds : Int) : Jobs :=
  jobs.update jobId (BriefingJob.isLive leaseOwner now)
    (renewedJob now (now + seconds (max 1 leaseDurationSeconds))) (renewedJob_id _ _)

/-- The job without its lease. -/
def BriefingJob.release (job : BriefingJob) (now : Int) : BriefingJob :=
  { job with
    leaseOwner := none
    leaseAcquiredAt := none
    leaseHeartbeatAt := none
    leaseExpiresAt := none
    updatedAt := now }

/-- What a completion writes. -/
def completedJob (outcome : JobOutcome) (failureCode failureMessage : Option String) (now : Int)
    (job : BriefingJob) : BriefingJob :=
  { job.release now with
    status := .ended outcome
    completedAt := some now
    failureCode := failureCode
    failureMessage := failureMessage }

theorem completedJob_id (outcome : JobOutcome) (failureCode failureMessage : Option String)
    (now : Int) (job : BriefingJob) :
    (completedJob outcome failureCode failureMessage now job).id = job.id := rfl

/-- The job is running under a lease of the owner. -/
def BriefingJob.isHeldBy (owner : String) (job : BriefingJob) : Bool :=
  job.status = .running && job.leaseOwner = some owner

/-- `complete_job`: the completed job.  The worker completes a job with the outcome of its
    investigation. -/
def completeJob (jobs : Jobs) (jobId : Nat) (leaseOwner : String) (outcome : JobOutcome)
    (failureCode failureMessage : Option String) (now : Int) : Option BriefingJob × Jobs :=
  (jobs.returning jobId (BriefingJob.isHeldBy leaseOwner)
      (completedJob outcome failureCode failureMessage now),
    jobs.update jobId (BriefingJob.isHeldBy leaseOwner)
      (completedJob outcome failureCode failureMessage now)
      (completedJob_id outcome failureCode failureMessage now))

/-- What the shutdown of a worker writes into a job. -/
def interruptedJob (now : Int) (job : BriefingJob) : BriefingJob :=
  completedJob .interrupted (some "worker_shutdown")
    (some "Worker shutdown interrupted this job.") now job

theorem interruptedJob_id (now : Int) (job : BriefingJob) : (interruptedJob now job).id = job.id :=
  rfl

/-- The loop of `_interrupt_owned_running_jobs` over the jobs it has found. -/
def interruptEach (owner : String) (now : Int) : List BriefingJob → Jobs → Jobs
  | [], jobs => jobs
  | job :: rest, jobs =>
    interruptEach owner now rest
      (jobs.update job.id (fun job => job.leaseOwner = some owner) (interruptedJob now)
        (interruptedJob_id now))

/-- `_interrupt_owned_running_jobs`. -/
def interruptOwnedRunningJobs (jobs : Jobs) (owner : String) (now : Int) : Jobs :=
  interruptEach owner now (jobs.rows.filter (BriefingJob.isHeldBy owner)) jobs

/-! ## Recovery -/

inductive RunStatus where
  | running
  | ended (outcome : JobOutcome)
deriving DecidableEq, Repr

/-- The latest run of a job, with whether it has left a briefing. -/
structure LatestRun where
  status : RunStatus
  hasBriefing : Bool
  errorCode : Option String
  errorMessage : Option String

/-- The outcome that a stale job takes over from its latest run, where the run has left a briefing. -/
def recoveredOutcome? (run : LatestRun) : Option JobOutcome :=
  if run.hasBriefing then
    match run.status with
    | .ended .success | .ended .partially => some .success
    | .ended .blocked => some .blocked
    | .ended .skipped => some .skipped
    | _ => none
  else none

/-- What `_terminal_recovery_from_latest_run` writes. -/
def recoveredJob (outcome : JobOutcome) (run : LatestRun) (now : Int) (job : BriefingJob) :
    BriefingJob :=
  { job.release now with
    status := .ended outcome
    recoveryCount := job.recoveryCount + 1
    failureCode := run.errorCode
    failureMessage := run.errorMessage
    completedAt := job.completedAt.or (some now) }

theorem recoveredJob_id (outcome : JobOutcome) (run : LatestRun) (now : Int) (job : BriefingJob) :
    (recoveredJob outcome run now job).id = job.id := rfl

/-- `_terminal_recovery_from_latest_run`, where there is an outcome to take over. -/
def terminalRecoveryFromLatestRun (jobs : Jobs) (latestRun : Nat → Option LatestRun)
    (job : BriefingJob) (now : Int) : Option Jobs := do
  let run ← latestRun job.id
  let outcome ← recoveredOutcome? run
  return jobs.update job.id (fun job => job.status = .running) (recoveredJob outcome run now)
    (recoveredJob_id outcome run now)

/-- What the recovery of a job with attempts left writes. -/
def requeuedJob (now : Int) (job : BriefingJob) : BriefingJob :=
  { job.release now with
    status := .pending
    recoveryCount := job.recoveryCount + 1
    failureCode := some "stale_lease_recovered"
    failureMessage := some "stale lease recovered for retry" }

theorem requeuedJob_id (now : Int) (job : BriefingJob) : (requeuedJob now job).id = job.id := rfl

/-- What the recovery of a job without attempts left writes. -/
def exhaustedJob (now : Int) (job : BriefingJob) : BriefingJob :=
  { job.release now with
    status := .ended .failed
    recoveryCount := job.recoveryCount + 1
    completedAt := some now
    failureCode := some "stale_lease_expired"
    failureMessage := some "stale lease exceeded max attempts" }

theorem exhaustedJob_id (now : Int) (job : BriefingJob) : (exhaustedJob now job).id = job.id := rfl

/-- The body of the loop of `recover_stale_jobs`. -/
def recoverJob (jobs : Jobs) (latestRun : Nat → Option LatestRun) (now : Int) (job : BriefingJob) :
    Jobs :=
  match terminalRecoveryFromLatestRun jobs latestRun job now with
  | some jobs => jobs
  | none =>
    if job.attemptCount < job.maxAttempts then
      jobs.update job.id (fun _ => true) (requeuedJob now) (requeuedJob_id now)
    else jobs.update job.id (fun _ => true) (exhaustedJob now) (exhaustedJob_id now)

/-- `ORDER BY lease_expires_at ASC, id ASC`. -/
def expiredFirst (a b : BriefingJob) : Bool :=
  a.leaseExpiresAt.getD 0 < b.leaseExpiresAt.getD 0 ||
    a.leaseExpiresAt.getD 0 = b.leaseExpiresAt.getD 0 && a.id ≤ b.id

/-- The running jobs whose lease has expired and that no other transaction has locked. -/
def staleJobs (jobs : Jobs) (locked : Nat → Bool) (now : Int) (limit : Int) : List BriefingJob :=
  ((jobs.rows.filter fun job =>
      job.status = .running && job.leaseExpiresAt.any (· ≤ now) && !locked job.id)
    |>.insertionSort fun a b => expiredFirst a b = true).take (max 0 (min limit 200)).toNat

/-- `recover_stale_jobs`. -/
def recoverStaleJobs (jobs : Jobs) (locked : Nat → Bool) (latestRun : Nat → Option LatestRun)
    (now : Int) (limit : Int) : Jobs :=
  (staleJobs jobs locked now limit).foldl (fun jobs job => recoverJob jobs latestRun now job) jobs

/-! ## System -/

/-- The operations on jobs. -/
inductive JobOp where
  | create (new : NewJob)
  | claim (leaseOwner : String) (leaseDurationSeconds : Int)
  | heartbeat (jobId : Nat) (leaseOwner : String) (leaseDurationSeconds : Int)
  | complete (jobId : Nat) (leaseOwner : String) (outcome : JobOutcome)
      (failureCode failureMessage : Option String)
  | recover (limit : Int)
  | interrupt (owner : String)

/-- An operation with what it finds: the time, the rows that other transactions have locked, the runs
    of the jobs; and whether its transaction commits before the worker crashes. -/
structure JobCall where
  op : JobOp
  now : Int
  locked : Nat → Bool
  latestRun : Nat → Option LatestRun
  commits : Bool

/-- What the operation makes of the jobs. -/
def runJobOp (jobs : Jobs) (call : JobCall) : Except String Jobs :=
  match call.op with
  | .create new => (createOrGetJob jobs new call.now).map (·.2)
  | .claim leaseOwner duration =>
    (claimNextJob jobs call.locked leaseOwner call.now duration).map (·.2)
  | .heartbeat jobId leaseOwner duration =>
    .ok (heartbeatJobLease jobs jobId leaseOwner call.now duration)
  | .complete jobId leaseOwner outcome failureCode failureMessage =>
    .ok (completeJob jobs jobId leaseOwner outcome failureCode failureMessage call.now).2
  | .recover limit => .ok (recoverStaleJobs jobs call.locked call.latestRun call.now limit)
  | .interrupt owner => .ok (interruptOwnedRunningJobs jobs owner call.now)

/-- One operation; a call that raises, or whose worker crashes, is rolled back. -/
def stepJobs (jobs : Jobs) (call : JobCall) : Jobs :=
  match runJobOp jobs call with
  | .ok jobs' => if call.commits then jobs' else jobs
  | .error _ => jobs

/-- The job that the call claims, with its owner. -/
def claimOf (jobs : Jobs) (call : JobCall) : Option (Nat × String) :=
  match call.op with
  | .claim leaseOwner duration =>
    match claimNextJob jobs call.locked leaseOwner call.now duration with
    | .ok (some job, _) => if call.commits then some (job.id, strip leaseOwner) else none
    | _ => none
  | _ => none

/-- The owner that claims the job in the call. -/
def claimantOf (jobs : Jobs) (call : JobCall) (jobId : Nat) : Option String :=
  (claimOf jobs call).bind fun claim => if claim.1 = jobId then some claim.2 else none

/-! ## What an operation does -/

/-- A job that has just been created. -/
structure BriefingJob.IsNew (job : BriefingJob) : Prop where
  pending : job.status = .pending
  unclaimed : job.attemptCount = 0
  budget : 0 < job.maxAttempts
  noLease : job.leaseOwner = none

/-- Just a running job has an owner. -/
def BriefingJob.Sound (job : BriefingJob) : Prop :=
  job.status = .running ↔ job.leaseOwner.isSome = true

/-- What an operation does to a job, with the owner that claims it: nothing, or a step of its lease. -/
inductive JobStep (claimed : Option String) (job job' : BriefingJob) : Prop where
  | same (hsame : job' = job) (hnone : claimed = none)
  | moved (hactive : job.lease.phase ≠ .finished) (hbudget : job'.maxAttempts = job.maxAttempts)
      (hsound : job'.Sound) (hstep : Leases.Step job.maxAttempts job.lease claimed job'.lease)

theorem jobStep_refl (job : BriefingJob) : JobStep none job job := .same rfl rfl

theorem JobStep.trans {job job' job'' : BriefingJob} (h : JobStep none job job')
    (h' : JobStep none job' job'') : JobStep none job job'' := by
  cases h with
  | same hsame => exact hsame ▸ h'
  | moved hactive hbudget hsound hstep =>
    cases h' with
    | same hsame => exact hsame ▸ .moved hactive hbudget hsound hstep
    | moved _ hbudget' hsound' hstep' =>
      exact .moved hactive (hbudget'.trans hbudget) hsound' (hstep.trans (hbudget ▸ hstep'))

theorem sound_of_none {job : BriefingJob} (h : job.leaseOwner = none)
    (hstatus : job.status ≠ .running) : job.Sound := by
  simp [BriefingJob.Sound, h, hstatus]

theorem sound_of_some {job : BriefingJob} {owner : String} (h : job.leaseOwner = some owner)
    (hstatus : job.status = .running) : job.Sound := by
  simp [BriefingJob.Sound, h, hstatus]

theorem JobStep.sound {claimed : Option String} {job job' : BriefingJob}
    (h : JobStep claimed job job') (hjob : job.Sound) : job'.Sound := by
  cases h with
  | same hsame => exact hsame ▸ hjob
  | moved _ _ hsound _ => exact hsound

/-- What an operation does to the jobs, with the owners that claim them. -/
abbrev JobsEvolution (claimant : Nat → Option String) :=
  @Table.Evolution BriefingJob BriefingJob.id BriefingJob.IsNew
    fun job job' => JobStep (claimant job.id) job job'

/-- What statements that claim nothing and create nothing do to the jobs. -/
abbrev JobsUpdate := @Table.Evolution BriefingJob BriefingJob.id (fun _ => False) (JobStep none)

theorem JobsUpdate.trans {jobs jobs' jobs'' : Jobs} (h : JobsUpdate jobs jobs')
    (h' : JobsUpdate jobs' jobs'') : JobsUpdate jobs jobs'' :=
  Table.Evolution.trans (fun _ _ h _ => h) (fun _ _ _ => JobStep.trans) h h'

theorem JobsUpdate.evolution {jobs jobs' : Jobs} (h : JobsUpdate jobs jobs') :
    JobsEvolution (fun _ => none) jobs jobs' :=
  h.mono (fun _ hnew => hnew.elim) fun _ _ hstep => hstep

theorem JobsUpdate.sound {jobs jobs' : Jobs} (h : JobsUpdate jobs jobs')
    (hsound : ∀ id job, jobs.row? id = some job → job.Sound) :
    ∀ id job, jobs'.row? id = some job → job.Sound := by
  intro id job' hrow
  rcases h.row hrow with ⟨-, hnew⟩ | ⟨job, hjob, hstep⟩
  · exact hnew.elim
  · exact hstep.sound (hsound id job hjob)

theorem lease_of_running {job : BriefingJob} {owner : String} (hstatus : job.status = .running)
    (howner : job.leaseOwner = some owner) : job.lease = ⟨.held owner, job.attemptCount⟩ := by
  simp [BriefingJob.lease, hstatus, howner]

/-- A running job without its lease has ended. -/
theorem jobStep_finish {job job' : BriefingJob} (hstatus : job.status = .running)
    (hended : ∃ outcome, job'.status = .ended outcome) (hbudget : job'.maxAttempts = job.maxAttempts)
    (hattempts : job'.attemptCount = job.attemptCount) (howner : job'.leaseOwner = none) :
    JobStep none job job' := by
  obtain ⟨outcome, hended⟩ := hended
  have hlease : job.lease = ⟨.held (job.leaseOwner.getD ""), job.attemptCount⟩ := by
    simp [BriefingJob.lease, hstatus]
  have hlease' : job'.lease = ⟨.finished, job.attemptCount⟩ := by
    simp [BriefingJob.lease, hended, hattempts]
  refine .moved ?_ hbudget (sound_of_none howner (by simp [hended])) ?_
  · rw [hlease]
    exact nofun
  · rw [hlease, hlease']
    exact .finish _ _

/-- A running job without its lease waits again, where attempts are left. -/
theorem jobStep_giveBack {job job' : BriefingJob} (hstatus : job.status = .running)
    (hpending : job'.status = .pending) (hbudget : job'.maxAttempts = job.maxAttempts)
    (hattempts : job'.attemptCount = job.attemptCount) (howner : job'.leaseOwner = none)
    (hleft : job.attemptCount < job.maxAttempts) : JobStep none job job' := by
  have hlease : job.lease = ⟨.held (job.leaseOwner.getD ""), job.attemptCount⟩ := by
    simp [BriefingJob.lease, hstatus]
  have hlease' : job'.lease = ⟨.waiting, job.attemptCount⟩ := by
    simp [BriefingJob.lease, hpending, hattempts]
  refine .moved ?_ hbudget (sound_of_none howner (by simp [hpending])) ?_
  · rw [hlease]
    exact nofun
  · rw [hlease, hlease']
    exact .giveBack _ _ hleft

section

variable {jobs jobs' : Jobs} {now : Int}

theorem createOrGetJob_evolution {new : NewJob} {answer : BriefingJob × Bool}
    (h : createOrGetJob jobs new now = .ok (answer, jobs')) :
    JobsEvolution (fun _ => none) jobs jobs' := by
  unfold createOrGetJob at h
  split at h
  · cases h
  · split at h
    · cases h
    · next hattempts =>
      split at h
      · cases h
        exact Table.Evolution.refl jobStep_refl _
      · split at h
        · cases h
        · cases h
          refine Table.Evolution.insert jobStep_refl (newJobRow_id new now) ⟨rfl, rfl, ?_, rfl⟩
          simp only [Bool.not_eq_true', Bool.not_eq_false, Bool.and_eq_true, decide_eq_true_eq]
            at hattempts
          exact hattempts.1

theorem heartbeatJobLease_update (jobs : Jobs) (jobId : Nat) (leaseOwner : String) (now : Int)
    (duration : Int) : JobsUpdate jobs (heartbeatJobLease jobs jobId leaseOwner now duration) := by
  refine Table.Evolution.update jobStep_refl (renewedJob_id _ _) fun job _ hlive => ?_
  simp only [BriefingJob.isLive, Bool.and_eq_true, decide_eq_true_eq] at hlive
  have hlease := lease_of_running hlive.1.1 hlive.1.2
  refine .moved ?_ rfl (sound_of_some hlive.1.2 hlive.1.1) (.stay _)
  rw [hlease]
  exact nofun

theorem completeJob_update (jobs : Jobs) (jobId : Nat) (leaseOwner : String)
    (outcome : JobOutcome) (failureCode failureMessage : Option String) (now : Int) :
    JobsUpdate jobs
      (completeJob jobs jobId leaseOwner outcome failureCode failureMessage now).2 := by
  refine Table.Evolution.update jobStep_refl (completedJob_id _ _ _ _) fun job _ hheld => ?_
  simp only [BriefingJob.isHeldBy, Bool.and_eq_true, decide_eq_true_eq] at hheld
  exact jobStep_finish hheld.1 ⟨outcome, rfl⟩ rfl rfl rfl

theorem interruptEach_update (owner : String) (now : Int) (found : List BriefingJob) {jobs : Jobs}
    (hsound : ∀ id job, jobs.row? id = some job → job.Sound) :
    JobsUpdate jobs (interruptEach owner now found jobs) := by
  induction found generalizing jobs with
  | nil => exact Table.Evolution.refl jobStep_refl _
  | cons first rest ih =>
    have hfirst : JobsUpdate jobs
        (jobs.update first.id (fun job => job.leaseOwner = some owner) (interruptedJob now)
          (interruptedJob_id now)) :=
      Table.Evolution.update jobStep_refl (interruptedJob_id now) fun job hjob howner =>
        jobStep_finish ((hsound _ job hjob).mpr (by simp [of_decide_eq_true howner]))
          ⟨.interrupted, rfl⟩ rfl rfl rfl
    exact hfirst.trans (ih (hfirst.sound hsound))

/-- The recovery of a job that is still as it was found. -/
theorem recoverJob_update {latestRun : Nat → Option LatestRun} {job : BriefingJob}
    (hrow : jobs.row? job.id = some job) (hstatus : job.status = .running) :
    JobsUpdate jobs (recoverJob jobs latestRun now job) := by
  unfold recoverJob
  split
  · next jobs' hterminal =>
    obtain ⟨run, -, hterminal⟩ := Option.bind_eq_some_iff.mp hterminal
    obtain ⟨outcome, -, hjobs⟩ := Option.bind_eq_some_iff.mp hterminal
    cases hjobs
    refine Table.Evolution.update jobStep_refl (recoveredJob_id outcome run now)
      fun found _ hrunning => ?_
    exact jobStep_finish (by simpa using hrunning) ⟨outcome, rfl⟩ rfl rfl rfl
  · split
    · next hleft =>
      refine Table.Evolution.update jobStep_refl (requeuedJob_id now) fun found hfound _ => ?_
      rw [hrow] at hfound
      cases hfound
      exact jobStep_giveBack hstatus rfl rfl rfl rfl hleft
    · refine Table.Evolution.update jobStep_refl (exhaustedJob_id now) fun found hfound _ => ?_
      rw [hrow] at hfound
      cases hfound
      exact jobStep_finish hstatus ⟨.failed, rfl⟩ rfl rfl rfl

/-- The recovery of a job leaves the others alone. -/
theorem recoverJob_row?_of_ne {latestRun : Nat → Option LatestRun} {job : BriefingJob} {id : Nat}
    (hid : id ≠ job.id) : (recoverJob jobs latestRun now job).row? id = jobs.row? id := by
  unfold recoverJob
  split
  · next jobs' hterminal =>
    obtain ⟨run, -, hterminal⟩ := Option.bind_eq_some_iff.mp hterminal
    obtain ⟨outcome, -, hjobs⟩ := Option.bind_eq_some_iff.mp hterminal
    cases hjobs
    exact Table.update_row?_of_ne _ _ _ _ hid
  · split
    · exact Table.update_row?_of_ne _ _ _ _ hid
    · exact Table.update_row?_of_ne _ _ _ _ hid

theorem recoverEach_update (latestRun : Nat → Option LatestRun) (now : Int)
    (found : List BriefingJob) {jobs : Jobs}
    (hfound : ∀ job ∈ found, jobs.row? job.id = some job ∧ job.status = .running)
    (hdistinct : found.Pairwise fun a b => a.id ≠ b.id) :
    JobsUpdate jobs (found.foldl (fun jobs job => recoverJob jobs latestRun now job) jobs) := by
  induction found generalizing jobs with
  | nil => exact Table.Evolution.refl jobStep_refl _
  | cons first rest ih =>
    obtain ⟨hrow, hstatus⟩ := hfound first List.mem_cons_self
    rw [List.pairwise_cons] at hdistinct
    rw [List.foldl_cons]
    refine JobsUpdate.trans (recoverJob_update hrow hstatus) (ih ?_ hdistinct.2)
    intro job hjob
    rw [recoverJob_row?_of_ne (hdistinct.1 job hjob).symm]
    exact hfound job (List.mem_cons_of_mem _ hjob)

theorem recoverStaleJobs_update (jobs : Jobs) (locked : Nat → Bool)
    (latestRun : Nat → Option LatestRun) (now limit : Int) :
    JobsUpdate jobs (recoverStaleJobs jobs locked latestRun now limit) := by
  refine recoverEach_update latestRun now _ ?_ ?_
  · intro job hjob
    have hmem := List.mem_of_mem_take hjob
    rw [List.mem_insertionSort, List.mem_filter] at hmem
    simp only [Bool.and_eq_true, decide_eq_true_eq] at hmem
    exact ⟨Table.mem_rows.mp hmem.1, hmem.2.1.1⟩
  · refine List.Pairwise.sublist (List.take_sublist _ _) ?_
    refine ((List.perm_insertionSort _ _).pairwise_iff fun h => Ne.symm h).mpr ?_
    exact (Table.rows_distinct jobs).filter _

theorem claimable_mem {locked : Nat → Bool} {job : BriefingJob}
    (h : (claimableJobs jobs locked now).head? = some job) :
    jobs.row? job.id = some job ∧ job.status = .pending := by
  have hmem := List.mem_of_mem_head? h
  rw [claimableJobs, List.mem_insertionSort, List.mem_filter] at hmem
  simp only [Bool.and_eq_true, decide_eq_true_eq] at hmem
  exact ⟨Table.mem_rows.mp hmem.1, hmem.2.1.1⟩

/-- A claim finds nothing, or takes the lease of a job that waits. -/
theorem claimNextJob_cases {locked : Nat → Bool} {leaseOwner : String} {duration : Int}
    {answer : Option BriefingJob} (h : claimNextJob jobs locked leaseOwner now duration = .ok (answer, jobs')) :
    (answer = none ∧ jobs' = jobs) ∨
      ∃ job expires, jobs.row? job.id = some job ∧ job.status = .pending ∧
        answer = some (claimedJob (strip leaseOwner) now expires job) ∧
        jobs' = jobs.update job.id (fun job => job.status = .pending)
          (claimedJob (strip leaseOwner) now expires) (claimedJob_id _ _ _) := by
  unfold claimNextJob at h
  dsimp only at h
  split at h
  · cases h
  · split at h
    · cases h
      exact .inl ⟨rfl, rfl⟩
    · next job hjob =>
      obtain ⟨hrow, hstatus⟩ := claimable_mem hjob
      cases h
      refine .inr ⟨job, _, hrow, hstatus, ?_, rfl⟩
      exact Table.returning_eq_some.mpr ⟨job, hrow, by simp [hstatus], rfl⟩

/-- The claim of a job that waits. -/
theorem claimedJob_evolution {job : BriefingJob} (owner : String) (expires : Int)
    (hrow : jobs.row? job.id = some job) (hstatus : job.status = .pending) :
    JobsEvolution (fun id => if job.id = id then some owner else none) jobs
      (jobs.update job.id (fun job => job.status = .pending) (claimedJob owner now expires)
        (claimedJob_id owner now expires)) := by
  refine Table.Evolution.update_of (claimedJob_id owner now expires) (fun other hother => ?_)
    fun found hfound => ?_
  · dsimp only
    rw [if_neg (Ne.symm hother)]
    exact jobStep_refl other
  · rw [hrow] at hfound
    cases hfound
    have hlease : job.lease = ⟨.waiting, job.attemptCount⟩ := by
      simp [BriefingJob.lease, hstatus]
    dsimp only
    rw [if_pos rfl, if_pos (by simp [hstatus])]
    refine .moved ?_ rfl (sound_of_some rfl rfl) ?_
    · rw [hlease]
      exact nofun
    · rw [hlease]
      exact .claim owner job.attemptCount

theorem stepJobs_of_crash {call : JobCall} (hcommits : call.commits = false) :
    stepJobs jobs call = jobs := by
  unfold stepJobs
  rw [hcommits]
  split <;> rfl

theorem stepJobs_of_commit {call : JobCall} (hcommits : call.commits = true)
    (h : runJobOp jobs call = .ok jobs') : stepJobs jobs call = jobs' := by
  rw [stepJobs, h, hcommits]
  rfl

/-- A call that claims nothing. -/
theorem claimantOf_eq_none {call : JobCall} (h : claimOf jobs call = none) :
    claimantOf jobs call = fun _ => none := by
  funext id
  rw [claimantOf, h, Option.bind_none]

theorem claimOf_of_crash {call : JobCall} (hcommits : call.commits = false) :
    claimOf jobs call = none := by
  unfold claimOf
  rw [hcommits]
  split
  · split <;> rfl
  · rfl

/-- A call that commits and is no claim. -/
theorem JobsUpdate.call {call : JobCall} (hclaim : claimOf jobs call = none)
    (h : JobsUpdate jobs jobs') : JobsEvolution (claimantOf jobs call) jobs jobs' := by
  rw [claimantOf_eq_none hclaim]
  exact h.evolution

theorem runJobOp_evolution (hsound : ∀ id job, jobs.row? id = some job → job.Sound)
    {call : JobCall} (hcommits : call.commits = true) (h : runJobOp jobs call = .ok jobs') :
    JobsEvolution (claimantOf jobs call) jobs jobs' := by
  obtain ⟨op, now, locked, latestRun, commits⟩ := call
  obtain rfl : commits = true := hcommits
  cases op with
  | create new =>
    obtain ⟨⟨answer, created⟩, hcreate, rfl⟩ := Checks.map_eq_ok.mp h
    rw [claimantOf_eq_none rfl]
    exact createOrGetJob_evolution hcreate
  | claim leaseOwner duration =>
    obtain ⟨⟨answer, claimed⟩, hclaim, rfl⟩ := Checks.map_eq_ok.mp h
    rcases claimNextJob_cases hclaim with ⟨rfl, rfl⟩ | ⟨job, expires, hrow, hstatus, rfl, rfl⟩
    · have hnone : claimOf claimed ⟨.claim leaseOwner duration, now, locked, latestRun, true⟩ =
          none := by
        simp only [claimOf, hclaim]
      exact JobsUpdate.call hnone (Table.Evolution.refl jobStep_refl _)
    · have hclaimant : claimantOf jobs ⟨.claim leaseOwner duration, now, locked, latestRun, true⟩ =
          fun id => if job.id = id then some (strip leaseOwner) else none := by
        funext id
        simp only [claimantOf, claimOf, hclaim, if_true, Option.bind_some, claimedJob_id]
      rw [hclaimant]
      exact claimedJob_evolution (strip leaseOwner) expires hrow hstatus
  | heartbeat jobId leaseOwner duration =>
    cases h
    exact JobsUpdate.call rfl (heartbeatJobLease_update jobs jobId leaseOwner now duration)
  | complete jobId leaseOwner outcome failureCode failureMessage =>
    cases h
    exact JobsUpdate.call rfl
      (completeJob_update jobs jobId leaseOwner outcome failureCode failureMessage now)
  | recover limit =>
    cases h
    exact JobsUpdate.call rfl (recoverStaleJobs_update jobs locked latestRun now limit)
  | interrupt owner =>
    cases h
    exact JobsUpdate.call rfl (interruptEach_update owner now _ hsound)

theorem claimOf_of_error {call : JobCall} {message : String}
    (h : runJobOp jobs call = .error message) : claimOf jobs call = none := by
  obtain ⟨op, now, locked, latestRun, commits⟩ := call
  cases op with
  | claim leaseOwner duration =>
    cases hclaim : claimNextJob jobs locked leaseOwner now duration with
    | error text => simp only [claimOf, hclaim]
    | ok answer =>
      simp only [runJobOp, hclaim] at h
      cases h
  | _ => rfl

/-- **One operation.** -/
theorem stepJobs_evolution (hsound : ∀ id job, jobs.row? id = some job → job.Sound)
    (call : JobCall) : JobsEvolution (claimantOf jobs call) jobs (stepJobs jobs call) := by
  have hnothing (hnone : claimOf jobs call = none) (hsame : stepJobs jobs call = jobs) :
      JobsEvolution (claimantOf jobs call) jobs (stepJobs jobs call) := by
    rw [hsame]
    exact JobsUpdate.call hnone (Table.Evolution.refl jobStep_refl jobs)
  cases hcommits : call.commits with
  | false => exact hnothing (claimOf_of_crash hcommits) (stepJobs_of_crash hcommits)
  | true =>
    cases hrun : runJobOp jobs call with
    | error message => exact hnothing (claimOf_of_error hrun) (by rw [stepJobs, hrun])
    | ok jobs' =>
      rw [stepJobs_of_commit hcommits hrun]
      exact runJobOp_evolution hsound hcommits hrun

/-- The job that a call claims is there. -/
theorem row_of_claimant {call : JobCall} {jobId : Nat} {owner : String}
    (h : claimantOf jobs call jobId = some owner) : jobs.row? jobId ≠ none := by
  obtain ⟨op, now, locked, latestRun, commits⟩ := call
  obtain ⟨⟨id, claimant⟩, hclaim, hid⟩ := Option.bind_eq_some_iff.mp h
  dsimp only at hid
  split at hid
  · next heq =>
    subst heq
    cases op with
    | claim leaseOwner duration =>
      unfold claimOf at hclaim
      dsimp only at hclaim
      split at hclaim
      · next job claimed hanswer =>
        rcases claimNextJob_cases hanswer with ⟨hnone, -⟩ | ⟨found, expires, hrow, -, hsome, -⟩
        · cases hnone
        · have hfound : job.id = found.id := by rw [Option.some.inj hsome, claimedJob_id]
          split at hclaim
          · cases hclaim
            rw [hfound, hrow]
            exact nofun
          · cases hclaim
      · cases hclaim
    | _ => cases hclaim
  · cases hid

end

end SiemDashboard.BriefingStore
