import Mathlib.Tactic.Common

/-!
# Leases with an attempt budget

A job waits, is held under a lease, or has finished.  A claim takes the lease and uses up an attempt;
a job that is given back waits again only while attempts are left.

* **Jobs** — `Phase`, `Job`, `Step`: what a step does, and which claim it is.
* **Rules** — `Within`, kept by every step; `Step.attempts_eq`, `Step.held_cases`.
-/

namespace Leases

/-- Where a job is. -/
inductive Phase (ω : Type) where
  | waiting
  | held (owner : ω)
  | finished
deriving DecidableEq

/-- A job, with the attempts that have been made. -/
structure Job (ω : Type) where
  phase : Phase ω
  attempts : Nat

/-- One step of a job, with the owner that claims it in the step. -/
inductive Step {ω : Type} (budget : Nat) : Job ω → Option ω → Job ω → Prop where
  | stay (job : Job ω) : Step budget job none job
  | claim (owner : ω) (n : Nat) : Step budget ⟨.waiting, n⟩ (some owner) ⟨.held owner, n + 1⟩
  | giveBack (owner : ω) (n : Nat) (hleft : n < budget) :
      Step budget ⟨.held owner, n⟩ none ⟨.waiting, n⟩
  | finish (owner : ω) (n : Nat) : Step budget ⟨.held owner, n⟩ none ⟨.finished, n⟩

variable {ω : Type} {budget : Nat} {job job' : Job ω} {claimed : Option ω}

/-- The attempts are in the budget, and some are left while the job waits. -/
structure Within (budget : Nat) (job : Job ω) : Prop where
  attempts_le : job.attempts ≤ budget
  attempts_lt : job.phase = .waiting → job.attempts < budget

theorem Step.within (h : Step budget job claimed job') (hin : Within budget job) :
    Within budget job' := by
  cases h with
  | stay => exact hin
  | claim owner n =>
    have hlt : n < budget := hin.attempts_lt rfl
    exact ⟨hlt, fun hwaiting => by cases hwaiting⟩
  | giveBack owner n hleft => exact ⟨hin.attempts_le, fun _ => hleft⟩
  | finish owner n => exact ⟨hin.attempts_le, fun hwaiting => by cases hwaiting⟩

/-- Only claims count. -/
theorem Step.attempts_eq (h : Step budget job claimed job') :
    job'.attempts = job.attempts + if claimed.isSome then 1 else 0 := by
  cases h <;> rfl

/-- Two steps that are no claims make one. -/
theorem Step.trans {job'' : Job ω} (h : Step budget job none job')
    (h' : Step budget job' none job'') : Step budget job none job'' := by
  cases h with
  | stay => exact h'
  | giveBack owner n hleft =>
    cases h' with
    | stay => exact .giveBack owner n hleft
  | finish owner n =>
    cases h' with
    | stay => exact .finish owner n

/-- A held job is held by its last claim. -/
theorem Step.held_cases (h : Step budget job claimed job') {owner : ω}
    (hheld : job'.phase = .held owner) :
    (claimed = none ∧ job.phase = .held owner) ∨ claimed = some owner := by
  cases h with
  | stay => exact .inl ⟨rfl, hheld⟩
  | claim owner' n =>
    cases hheld
    exact .inr rfl
  | giveBack owner' n hleft => cases hheld
  | finish owner' n => cases hheld

end Leases
