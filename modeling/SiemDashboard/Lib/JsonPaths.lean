import SiemDashboard.Lib.Python

/-!
# Places in JSON values

* **Parts** — `Inside`: a value is another one or lies somewhere in it.
* **Paths** — `Step`, `step?`, `at?`: the value at a place.
-/

namespace Python.Json

/-! ## Parts -/

/-- The first value is the second one or lies in it, at any depth. -/
inductive Inside (w : Json) : Json → Prop where
  | refl : Inside w w
  | item {items : List Json} {v : Json} (hitem : v ∈ items) (hinside : Inside w v) :
      Inside w (.arr items)
  | field {kvs : List (String × Json)} {kv : String × Json} (hfield : kv ∈ kvs)
      (hinside : Inside w kv.2) : Inside w (.obj kvs)

/-! ## Paths -/

/-- A step into a value: a key of a dict or an index of a list. -/
inductive Step where
  | key (k : String)
  | index (i : Nat)
deriving DecidableEq, Repr

/-- The value behind one step. -/
def step? (v : Json) : Step → Option Json
  | .key k => v.get? k
  | .index i =>
    match v with
    | .arr items => items[i]?
    | _ => none

/-- The value at the end of a path. -/
def at? (v : Json) : List Step → Option Json
  | [] => some v
  | step :: path => (v.step? step).bind fun w => w.at? path

@[simp] theorem at?_nil (v : Json) : v.at? [] = some v := rfl

theorem at?_cons (v : Json) (step : Step) (path : List Step) :
    v.at? (step :: path) = (v.step? step).bind fun w => w.at? path := rfl

end Python.Json
