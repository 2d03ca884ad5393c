import Mathlib.Data.List.Sort
import SiemDashboard.Lib.Checks
import SiemDashboard.Lib.Python

/-!
# Ports of firewall alerts

`core/pfsense_recon.py`: how a port is read, and the service signature of an alert.

* **Ports** — `DigitLibrary`, `parsePort`.
* **Signatures** — `iterate`, `buildServiceSignature`, `serviceOverlap`.
-/

namespace SiemDashboard.PfsenseRecon

open Python

/-! ## Ports -/

/-- What the interpreter knows of digits. -/
structure DigitLibrary where
  py : Python
  /-- `str.isdigit` of a character. -/
  isDigit : Char → Bool
  /-- The value of a character that `int` takes for a decimal digit. -/
  decimal : Char → Option Nat

/-- `parse_port`.  A text of digits that `int` does not take raises. -/
def parsePort (lib : DigitLibrary) (value : Json) : Except String (Option Int) :=
  let text := strip (lib.py.str (value.orElse (.str "")))
  if text = "" || !text.toList.all lib.isDigit then .ok none
  else
    match Python.int lib.decimal text with
    | none => .error "invalid literal for int()"
    | some port => .ok (if port < 1 || 65535 < port then none else some port)

/-! ## Signatures -/

/-- `iter(value)`. -/
def iterate : Json → Except String (List Json)
  | .arr items => .ok items
  | .str s => .ok (s.toList.map fun c => .str (String.ofList [c]))
  | .obj kvs => .ok (kvs.map fun field => .str field.1)
  | _ => .error "object is not iterable"

/-- `build_service_signature`: the distinct ports in ascending order, at most
    `PFSENSE_SERVICE_SIGNATURE_LIMIT`. -/
def buildServiceSignature (lib : DigitLibrary) (ports : Json) : Except String (List Int) := do
  let values ← iterate ports
  let parsed ← values.mapM (parsePort lib)
  return ((parsed.filterMap id).dedup.insertionSort (· ≤ ·)).take 24

/-- `_service_overlap`: how many ports two signatures share. -/
def serviceOverlap (left right : List Int) : Nat :=
  (left.dedup.filter fun port => port ∈ right).length

end SiemDashboard.PfsenseRecon
