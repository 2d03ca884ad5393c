import Mathlib.Data.List.Sort
import Mathlib.Data.String.Basic
import SiemDashboard.Lib.Python

/-!
# The text of JSON values

`json.dumps(value, sort_keys=True, separators=(",", ":"))`: the shortest text of a value, with the keys of a
dict in order and everything beyond ASCII escaped.

* **Equality** — `same`, and that values can be told apart.
* **Strings** — `hex4`, `escape`, `quoted`.
* **Values** — `joined`, `dumps`.
-/

namespace JsonText

open Python

/-! ## Equality -/

mutual

/-- Two values are the same. -/
def same : Json → Json → Bool
  | .null, w => w.isNull
  | .bool b, .bool c => b == c
  | .int n, .int m => decide (n = m)
  | .float s, .float t => decide (s = t)
  | .str s, .str t => decide (s = t)
  | .arr items, .arr others => sameItems items others
  | .obj kvs, .obj others => sameFields kvs others
  | _, _ => false

/-- The items of two lists are the same. -/
def sameItems : List Json → List Json → Bool
  | [], others => others.isEmpty
  | v :: rest, w :: others => same v w && sameItems rest others
  | _ :: _, [] => false

/-- The fields of two dicts are the same, in the same order. -/
def sameFields : List (String × Json) → List (String × Json) → Bool
  | [], others => others.isEmpty
  | (key, v) :: rest, (other, w) :: others =>
    decide (key = other) && same v w && sameFields rest others
  | _ :: _, [] => false

end

theorem same_iff {v w : Json} : same v w = true ↔ v = w := by
  induction v using Json.induct generalizing w with
  | null => cases w <;> simp [same, Json.isNull]
  | bool b => cases w <;> simp [same]
  | int n => cases w <;> simp [same]
  | float text => cases w <;> simp [same]
  | str s => cases w <;> simp [same]
  | arr items ih =>
    cases w with
    | arr others =>
      rw [same, Json.arr.injEq]
      induction items generalizing others with
      | nil => cases others <;> simp [sameItems]
      | cons v rest hrest =>
        obtain ⟨hv, hvs⟩ := List.forall_mem_cons.mp ih
        cases others with
        | nil => simp [sameItems]
        | cons w others =>
          rw [sameItems, Bool.and_eq_true, hv, hrest hvs, List.cons.injEq]
    | _ => simp [same]
  | obj kvs ih =>
    cases w with
    | obj others =>
      rw [same, Json.obj.injEq]
      induction kvs generalizing others with
      | nil => cases others <;> simp [sameFields]
      | cons field rest hrest =>
        obtain ⟨hv, hvs⟩ := List.forall_mem_cons.mp ih
        obtain ⟨key, v⟩ := field
        cases others with
        | nil => simp [sameFields]
        | cons other others =>
          obtain ⟨key', w⟩ := other
          rw [sameFields, Bool.and_eq_true, Bool.and_eq_true, hv, hrest hvs, List.cons.injEq,
            Prod.mk.injEq, decide_eq_true_eq]
    | _ => simp [same]

instance : DecidableEq Json := fun _ _ => decidable_of_iff _ same_iff

/-! ## Strings -/

/-- A hexadecimal digit. -/
def hexDigit (n : Nat) : Char := if n < 10 then Char.ofNat (48 + n) else Char.ofNat (87 + n)

/-- Four hexadecimal digits. -/
def hex4 (n : Nat) : List Char :=
  [hexDigit (n / 4096 % 16), hexDigit (n / 256 % 16), hexDigit (n / 16 % 16), hexDigit (n % 16)]

/-- A character beyond printable ASCII; outside the basic plane it takes two surrogates. -/
def escapeUnicode (n : Nat) : List Char :=
  if n < 0x10000 then '\\' :: 'u' :: hex4 n
  else
    '\\' :: 'u' :: hex4 (0xD800 + (n - 0x10000) / 0x400) ++
      '\\' :: 'u' :: hex4 (0xDC00 + (n - 0x10000) % 0x400)

/-- A character of a JSON string. -/
def escape (c : Char) : List Char :=
  if c = '"' then ['\\', '"']
  else if c = '\\' then ['\\', '\\']
  else if c = '\n' then ['\\', 'n']
  else if c = '\r' then ['\\', 'r']
  else if c = '\t' then ['\\', 't']
  else if c.toNat = 8 then ['\\', 'b']
  else if c.toNat = 12 then ['\\', 'f']
  else if 32 ≤ c.toNat && c.toNat ≤ 126 then [c]
  else escapeUnicode c.toNat

/-- A JSON string. -/
def quoted (s : String) : List Char := '"' :: s.toList.flatMap escape ++ ['"']

/-! ## Values -/

/-- Texts with commas between them. -/
def joined (texts : List (List Char)) : List Char := List.intercalate [','] texts

/-- The order of keys. -/
def keyBefore (a b : String × List Char) : Prop := a.1 ≤ b.1

instance : DecidableRel keyBefore := fun a b => inferInstanceAs (Decidable (a.1 ≤ b.1))

/-- The text of a float, by its `repr`. -/
def floatText (text : String) : List Char :=
  if text = "inf" then "Infinity".toList
  else if text = "-inf" then "-Infinity".toList
  else if text = "nan" then "NaN".toList
  else text.toList

mutual

/-- The characters of `json.dumps`. -/
def chars : Json → List Char
  | .null => "null".toList
  | .bool b => if b then "true".toList else "false".toList
  | .int n => (toString n).toList
  | .float text => floatText text
  | .str s => quoted s
  | .arr items => '[' :: joined (itemChars items) ++ [']']
  | .obj kvs =>
    '\x7b' :: joined (((fieldChars kvs).insertionSort keyBefore).map fun (key, text) =>
      quoted key ++ ':' :: text) ++ ['\x7d']

/-- The texts of the items of a list. -/
def itemChars : List Json → List (List Char)
  | [] => []
  | v :: rest => chars v :: itemChars rest

/-- The fields of a dict with the texts of their values. -/
def fieldChars : List (String × Json) → List (String × List Char)
  | [] => []
  | (key, v) :: rest => (key, chars v) :: fieldChars rest

end

/-- `json.dumps(value, sort_keys=True, separators=(",", ":"))`. -/
def dumps (v : Json) : String := String.ofList (chars v)

example : dumps (.obj [("b", .arr [.int 1, .null]), ("a", .str "é\n")]) =
    "\x7b\"a\":\"\\u00e9\\n\",\"b\":[1,null]\x7d" := by decide +kernel

end JsonText
