import Mathlib.Data.Int.Log
import Mathlib.Data.Rat.Floor

/-!
# Decimal arithmetic

Python's `decimal` in its default context, on the numbers the decimals stand for.

* **Context** — `inContext`: a result rounded to the 28 digits of the context, half to even.
* **Fixed point** — `ceilingTo` (`quantize` with `ROUND_CEILING`), `roundTo` (what a
  `NUMERIC(_, scale)` column keeps of a number).
-/

namespace Decimal

/-- The precision of the default context. -/
def precision : Nat := 28

/-- The nearest integer, a tie going to the even one. -/
def roundHalfEven (q : ℚ) : Int :=
  let below := ⌊q⌋
  let rest := q - below
  if rest < 1 / 2 then below
  else if 1 / 2 < rest then below + 1
  else if below % 2 = 0 then below else below + 1

/-- The result of an operation, rounded to the precision. -/
def inContext (q : ℚ) : ℚ :=
  if q = 0 then 0
  else
    let unit : ℚ := 10 ^ (Int.log 10 |q| - (precision - 1 : Int))
    roundHalfEven (q / unit) * unit

/-- `quantize(10 ** -scale, rounding=ROUND_CEILING)`, as a number of quanta; `none` where the
    result has more digits than the precision. -/
def ceilingTo (scale : Nat) (q : ℚ) : Option Int :=
  let quanta := ⌈q * 10 ^ scale⌉
  if quanta.natAbs < 10 ^ precision then some quanta else none

/-- The nearest number of quanta, a tie going away from zero. -/
def roundTo (scale : Nat) (q : ℚ) : Int :=
  let scaled := q * 10 ^ scale
  if 0 ≤ scaled then ⌊scaled + 1 / 2⌋ else ⌈scaled - 1 / 2⌉

end Decimal
