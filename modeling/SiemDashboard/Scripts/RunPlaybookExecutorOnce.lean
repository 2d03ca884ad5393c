import SiemDashboard.Engines.PlaybookStepExecutor

/-!
# Stale recovery

`scripts/run_playbook_executor_once.py`: recovering the running executions whose lease has run out.
-/

namespace SiemDashboard.RunPlaybookExecutorOnce

open Atomic StepExecutor

/-- `MAX_STALE_LIMIT`. -/
def maxStaleLimit : Int := 200

/-- `_normalize_stale_limit`. -/
def normalizeStaleLimit (limit : Int) : Nat :=
  if limit < 1 then 1 else (min limit maxStaleLimit).toNat

section

variable (py : Python)

/-- One round of the loop of `recover_stale_playbook_executions`. -/
def recoverStaleExecution (id : Nat) (now : Int) : Prog Unit := do
  match ← issue (.markStale id now) with
  | none => return ()
  | some updated =>
    if updated.status = .failed then
      captureFailedExecutionDeadLetter py updated updated.stepsLog now
    else return ()

/-- The loop of `recover_stale_playbook_executions`. -/
def recoverStaleLoop (now : Int) : List Execution → Prog Unit
  | [] => return ()
  | row :: rows => do
    recoverStaleExecution py row.id now
    recoverStaleLoop now rows

/-- `recover_stale_playbook_executions`, no dry run. -/
def recoverStalePlaybookExecutions (limit : Int) (now : Int) : Prog Unit := do
  let staleRows ← issue (.listStaleRunning (normalizeStaleLimit limit) now)
  recoverStaleLoop py now staleRows

end

end SiemDashboard.RunPlaybookExecutorOnce
