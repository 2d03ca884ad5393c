import Mathlib.Algebra.Order.Ring.Rat
import Mathlib.Logic.Function.Basic

/-!
# The pfSense syslog listener

`engines/pfsense_syslog_listener.py`: the rate limiter of the listener.  A time is an exact number.

* **Limiter** — `RateLimiter`, `RateLimiter.init`, `RateLimiter.allow`.
* **Runs** — `Answered`, `RateLimiter.serve`.
-/

namespace SiemDashboard.PfsenseListener

/-! ## Limiter -/

/-- `RateLimiter`; a source without an entry has no stamps. -/
structure RateLimiter where
  globalLimit : Nat
  perSourceLimit : Nat
  windowSeconds : ℚ
  globalEvents : List ℚ
  perSourceEvents : String → List ℚ

namespace RateLimiter

/-- `RateLimiter.__init__`. -/
def init (globalLimit perSourceLimit : Int) (windowSeconds : ℚ) : RateLimiter where
  globalLimit := globalLimit.toNat
  perSourceLimit := perSourceLimit.toNat
  windowSeconds := max 0 windowSeconds
  globalEvents := []
  perSourceEvents := fun _ => []

/-- The limiter without the stamps that have left the window. -/
def pruned (limiter : RateLimiter) (now : ℚ) (sourceIp : String) : RateLimiter :=
  let cutoff := now - limiter.windowSeconds
  { limiter with
    globalEvents := limiter.globalEvents.filter fun stamp => cutoff < stamp
    perSourceEvents :=
      Function.update limiter.perSourceEvents sourceIp
        ((limiter.perSourceEvents sourceIp).filter fun stamp => cutoff < stamp) }

/-- The limiter with one more stamp. -/
def stamped (limiter : RateLimiter) (now : ℚ) (sourceIp : String) : RateLimiter :=
  { limiter with
    globalEvents := limiter.globalEvents ++ [now]
    perSourceEvents :=
      Function.update limiter.perSourceEvents sourceIp (limiter.perSourceEvents sourceIp ++ [now]) }

/-- `RateLimiter.allow` at the given time. -/
def allow (limiter : RateLimiter) (now : ℚ) (sourceIp : String) : Bool × RateLimiter :=
  if limiter.globalLimit = 0 ∨ limiter.perSourceLimit = 0 then (false, limiter)
  else
    let limiter := limiter.pruned now sourceIp
    if limiter.globalLimit ≤ limiter.globalEvents.length then (false, limiter)
    else if limiter.perSourceLimit ≤ (limiter.perSourceEvents sourceIp).length then (false, limiter)
    else (true, limiter.stamped now sourceIp)

end RateLimiter

/-! ## Runs -/

/-- A call of `allow` with its answer. -/
structure Answered where
  time : ℚ
  sourceIp : String
  allowed : Bool
deriving DecidableEq, Repr

/-- The answers to some calls, and the limiter after them. -/
def RateLimiter.serve (limiter : RateLimiter) (calls : List (ℚ × String)) :
    List Answered × RateLimiter :=
  calls.foldl (fun served call =>
    let answer := served.2.allow call.1 call.2
    (served.1 ++ [⟨call.1, call.2, answer.1⟩], answer.2)) ([], limiter)

end SiemDashboard.PfsenseListener
