import Mathlib.Data.List.DropRight
import Mathlib.Data.List.Infix

/-!
# Python values

The part of Python's built-in behaviour that programs over JSON values rely on:

* **Strings** — `strip`, `replaceChar`, `lower`, `upper`, `mentions`.
* **Integers** — `int`, `Digits`.
* **JSON values** — `Json`, `Json.get?` (`dict.get`), truth values, membership in a set of strings.
* **Text** — `Python`, the renderings (`repr`, `str`) and float comparisons that are left to the
  interpreter.
-/

namespace Python

/-! ## Strings -/

/-- `str.isspace` of one character. -/
def isSpace (c : Char) : Bool :=
  let n := c.toNat
  (9 ≤ n && n ≤ 13) || (28 ≤ n && n ≤ 32) || n == 0x85 || n == 0xA0 || n == 0x1680 ||
    (0x2000 ≤ n && n ≤ 0x200A) || n == 0x2028 || n == 0x2029 || n == 0x202F || n == 0x205F ||
    n == 0x3000

/-- `str.strip` on characters. -/
def stripChars (cs : List Char) : List Char :=
  (cs.dropWhile isSpace).rdropWhile isSpace

/-- `str.strip`. -/
def strip (s : String) : String := String.ofList (stripChars s.toList)

theorem dropWhile_rdropWhile_dropWhile {α : Type} (p : α → Bool) (xs : List α) :
    ((xs.dropWhile p).rdropWhile p).dropWhile p = (xs.dropWhile p).rdropWhile p := by
  rw [List.dropWhile_eq_self_iff]
  intro hl hp
  have hpre : (xs.dropWhile p).rdropWhile p <+: xs.dropWhile p := List.rdropWhile_prefix p _
  have hlen : 0 < (xs.dropWhile p).length := Nat.lt_of_lt_of_le hl hpre.length_le
  have hhead : ((xs.dropWhile p).rdropWhile p)[0] = (xs.dropWhile p)[0] := hpre.getElem hl
  have hidem : (xs.dropWhile p).dropWhile p = xs.dropWhile p := List.dropWhile_idempotent p xs
  rw [List.dropWhile_eq_self_iff] at hidem
  exact hidem _ (hhead ▸ hp)

theorem stripChars_idem (cs : List Char) : stripChars (stripChars cs) = stripChars cs := by
  unfold stripChars
  rw [dropWhile_rdropWhile_dropWhile, List.rdropWhile_idempotent]

theorem stripChars_isInfix (cs : List Char) : stripChars cs <:+: cs :=
  (List.rdropWhile_prefix isSpace _).isInfix.trans (List.dropWhile_suffix isSpace).isInfix

theorem length_strip_le (s : String) : (strip s).length ≤ s.length := by
  rw [strip, String.length_ofList, ← String.length_toList]
  exact (stripChars_isInfix _).length_le

theorem stripChars_head {cs rest : List Char} {c : Char} (h : stripChars cs = c :: rest) :
    isSpace c = false := by
  have hdrop : (stripChars cs).dropWhile isSpace = stripChars cs :=
    dropWhile_rdropWhile_dropWhile isSpace cs
  rw [h] at hdrop
  cases hspace : isSpace c with
  | false => rfl
  | true =>
    rw [List.dropWhile_cons_of_pos hspace] at hdrop
    have hlength := congrArg List.length hdrop
    have hle := (List.dropWhile_suffix isSpace (l := rest)).length_le
    simp only [List.length_cons] at hlength
    omega

@[simp] theorem strip_strip (s : String) : strip (strip s) = strip s := by
  simp [strip, stripChars_idem]

theorem stripChars_of_noSpace {cs : List Char} (h : ∀ c ∈ cs, isSpace c = false) :
    stripChars cs = cs := by
  have hdrop : cs.dropWhile isSpace = cs := by
    rw [List.dropWhile_eq_self_iff]
    intro hl hspace
    rw [h _ (List.getElem_mem hl)] at hspace
    cases hspace
  rw [stripChars, hdrop, List.rdropWhile_eq_self_iff]
  intro hne hspace
  rw [h _ (List.getLast_mem hne)] at hspace
  cases hspace

/-- A text with a character that is no whitespace is not blank. -/
theorem strip_ne_empty {s : String} (h : s.toList.any (fun c => !isSpace c) = true) :
    strip s ≠ "" := by
  intro hs
  have hnil : stripChars s.toList = [] := by
    have := congrArg String.toList hs
    simpa [strip] using this
  rw [stripChars, List.rdropWhile_eq_nil_iff] at hnil
  obtain ⟨c, hc, hspace⟩ := List.any_eq_true.mp h
  rw [← @List.takeWhile_append_dropWhile _ isSpace s.toList, List.mem_append] at hc
  rcases hc with hc | hc
  · simp [List.mem_takeWhile_imp hc] at hspace
  · simp [hnil c hc] at hspace

/-- `str.replace` of one character. -/
def replaceChar (c : Char) (text s : String) : String :=
  String.ofList (s.toList.flatMap fun d => if d = c then text.toList else [d])

/-- `str.lower` of one character, as far as comparisons with ASCII words can tell: besides the
    ASCII letters only the Kelvin sign has a lower case that is a single ASCII letter. -/
def lowerChar (c : Char) : Char :=
  if c.toNat == 0x212A then 'k' else c.toLower

/-- `str.lower`, for comparisons with ASCII words. -/
def lower (s : String) : String := String.ofList (s.toList.map lowerChar)

/-- `str.upper` of one character, as far as comparisons with ASCII words can tell that no single
    character is written out as (`SS`, `FF`, `FI`, `FL` and `ST` are): besides the ASCII letters
    the dotless i and the long s have an upper case that is an ASCII letter. -/
def upperChar (c : Char) : Char :=
  if c.toNat == 0x131 then 'I' else if c.toNat == 0x17F then 'S' else c.toUpper

/-- `str.upper`, for comparisons with ASCII words such as the names of severities. -/
def upper (s : String) : String := String.ofList (s.toList.map upperChar)

theorem lowerChar_toNat (c : Char) :
    (lowerChar c).toNat =
      if c.toNat = 0x212A then 107
      else if 65 ≤ c.toNat ∧ c.toNat ≤ 90 then c.toNat + 32
      else c.toNat := by
  unfold lowerChar Char.toLower
  by_cases hkelvin : c.toNat = 0x212A
  · simp [hkelvin]
  · have hval : (c.val ≥ 'A'.val ∧ c.val ≤ 'Z'.val) ↔ 65 ≤ c.toNat ∧ c.toNat ≤ 90 := Iff.rfl
    simp only [beq_iff_eq, hkelvin, if_false, hval]
    split
    · next hupper =>
      change (c.val + ('a'.val - 'A'.val)).toNat = _
      rw [UInt32.toNat_add]
      change (c.toNat + 32) % 2 ^ 32 = _
      omega
    · rfl

theorem lowerChar_lowerChar (c : Char) : lowerChar (lowerChar c) = lowerChar c := by
  rw [← Char.toNat_inj, lowerChar_toNat (lowerChar c), lowerChar_toNat c]
  split_ifs <;> omega

@[simp] theorem lower_lower (s : String) : lower (lower s) = lower s := by
  simp [lower, Function.comp_def, lowerChar_lowerChar]

/-- Lower case neither makes nor takes away whitespace. -/
theorem isSpace_lowerChar (c : Char) : isSpace (lowerChar c) = isSpace c := by
  have hspace (n : Nat) (h : n = 0x212A ∨ 65 ≤ n ∧ n ≤ 122) :
      ((9 ≤ n && n ≤ 13) || (28 ≤ n && n ≤ 32) || n == 0x85 || n == 0xA0 || n == 0x1680 ||
        (0x2000 ≤ n && n ≤ 0x200A) || n == 0x2028 || n == 0x2029 || n == 0x202F || n == 0x205F ||
        n == 0x3000) = false := by
    simp only [Bool.or_eq_false_iff, Bool.and_eq_false_iff, decide_eq_false_iff_not, beq_eq_false_iff_ne]
    omega
  by_cases hletter : c.toNat = 0x212A ∨ 65 ≤ c.toNat ∧ c.toNat ≤ 90
  · have hbefore : isSpace c = false := hspace c.toNat (by omega)
    have hafter : isSpace (lowerChar c) = false := by
      refine hspace (lowerChar c).toNat ?_
      rw [lowerChar_toNat]
      split_ifs <;> omega
    rw [hbefore, hafter]
  · have hsame : lowerChar c = c := by
      rw [← Char.toNat_inj, lowerChar_toNat]
      split_ifs <;> omega
    rw [hsame]

theorem rdropWhile_map {α β : Type} (p : β → Bool) (f : α → β) (l : List α) :
    (l.map f).rdropWhile p = (l.rdropWhile (p ∘ f)).map f := by
  simp [List.rdropWhile, ← List.map_reverse, List.dropWhile_map]

/-- Stripping and lower case do not get in each other's way. -/
theorem strip_lower (s : String) : strip (lower s) = lower (strip s) := by
  have hspace : isSpace ∘ lowerChar = isSpace := funext isSpace_lowerChar
  simp only [strip, lower, stripChars, String.toList_ofList, List.dropWhile_map, rdropWhile_map,
    hspace]

/-! ## Integers -/

/-- The digits after the first; a single underscore may stand between two digits. -/
def digitsValue (decimal : Char → Option Nat) : Nat → List Char → Option Nat
  | value, [] => some value
  | value, '_' :: c :: cs => (decimal c).bind fun d => digitsValue decimal (10 * value + d) cs
  | value, c :: cs => (decimal c).bind fun d => digitsValue decimal (10 * value + d) cs

/-- The value of a run of digits. -/
def natOfDigits (decimal : Char → Option Nat) : List Char → Option Nat
  | [] => none
  | c :: cs => (decimal c).bind fun d => digitsValue decimal d cs

/-- `int(text)`, none where it raises, with the decimal digits of Unicode. -/
def int (decimal : Char → Option Nat) (text : String) : Option Int :=
  match stripChars text.toList with
  | '+' :: cs => (natOfDigits decimal cs).map Int.ofNat
  | '-' :: cs => (natOfDigits decimal cs).map fun n => -Int.ofNat n
  | cs => (natOfDigits decimal cs).map Int.ofNat

theorem isSpace_of_isDigit {c : Char} (hc : c.isDigit = true) : isSpace c = false := by
  have hrange : 48 ≤ c.toNat ∧ c.toNat ≤ 57 := by
    simpa [Char.isDigit, UInt32.le_iff_toNat_le] using hc
  simp only [isSpace, Bool.or_eq_false_iff, Bool.and_eq_false_iff, decide_eq_false_iff_not,
    beq_eq_false_iff_ne]
  omega

section Int

variable {decimal : Char → Option Nat}
  (hdecimal : ∀ c : Char, c.isDigit = true → decimal c = some (c.toNat - '0'.toNat))

include hdecimal

theorem digitsValue_of_isDigit {cs : List Char} (hcs : ∀ c ∈ cs, c.isDigit = true) (value : Nat) :
    digitsValue decimal value cs = some (Nat.ofDigitChars 10 cs value) := by
  induction cs generalizing value with
  | nil => simp [digitsValue]
  | cons c cs ih =>
    have hc : c.isDigit = true := hcs c List.mem_cons_self
    have hunderscore : c ≠ '_' := by
      rintro rfl
      revert hc
      decide
    rw [digitsValue.eq_3 _ _ _ _ fun _ _ h _ => hunderscore h, hdecimal c hc, Option.bind_some,
      ih fun c' hc' => hcs c' (List.mem_cons_of_mem _ hc'), Nat.ofDigitChars_cons]

omit hdecimal in
theorem isDigit_of_mem_digits {n : Nat} {c : Char} (hc : c ∈ Nat.toDigits 10 n) : c.isDigit = true :=
  Nat.isDigit_of_mem_toDigits (by decide) (by decide) hc

theorem natOfDigits_toDigits (n : Nat) : natOfDigits decimal (Nat.toDigits 10 n) = some n := by
  have hdigits (c : Char) (hc : c ∈ Nat.toDigits 10 n) : c.isDigit = true := isDigit_of_mem_digits hc
  have hvalue : Nat.ofDigitChars 10 (Nat.toDigits 10 n) 0 = n := Nat.ofDigitChars_ten_toDigits
  cases htoDigits : Nat.toDigits 10 n with
  | nil => exact absurd htoDigits Nat.toDigits_ne_nil
  | cons c cs =>
    rw [htoDigits] at hdigits hvalue
    have hc : c.isDigit = true := hdigits c List.mem_cons_self
    rw [natOfDigits, hdecimal c hc, Option.bind_some,
      digitsValue_of_isDigit hdecimal fun c' hc' => hdigits c' (List.mem_cons_of_mem _ hc')]
    rw [Nat.ofDigitChars_cons, Nat.mul_zero, Nat.zero_add] at hvalue
    rw [hvalue]

/-- What `str` writes for a natural number, `int` reads back. -/
theorem int_toString (n : Nat) : int decimal (toString n) = some (n : Int) := by
  have hdigits (c : Char) (hc : c ∈ Nat.toDigits 10 n) : c.isDigit = true := isDigit_of_mem_digits hc
  have hchars : stripChars (toString n).toList = Nat.toDigits 10 n := by
    rw [Nat.toString_eq_ofList_toDigits, String.toList_ofList]
    exact stripChars_of_noSpace fun c hc => isSpace_of_isDigit (hdigits c hc)
  unfold int
  rw [hchars]
  split
  · next cs hplus => exact absurd (hdigits '+' (hplus ▸ List.mem_cons_self)) (by decide)
  · next cs hminus => exact absurd (hdigits '-' (hminus ▸ List.mem_cons_self)) (by decide)
  · rw [natOfDigits_toDigits hdecimal]
    rfl

/-- Likewise for an integer below zero. -/
theorem int_toString_negSucc (n : Nat) : int decimal (toString (Int.negSucc n)) = some (Int.negSucc n) := by
  have htext : (toString (Int.negSucc n)).toList = '-' :: Nat.toDigits 10 (n + 1) := by
    show ("-" ++ toString (n + 1)).toList = _
    rw [String.toList_append, Nat.toString_eq_ofList_toDigits]
    exact congrArg (['-'] ++ ·) (String.toList_ofList)
  have hplain : ∀ c ∈ '-' :: Nat.toDigits 10 (n + 1), isSpace c = false :=
    List.forall_mem_cons.mpr ⟨by decide, fun c hc => isSpace_of_isDigit (isDigit_of_mem_digits hc)⟩
  unfold int
  rw [htext, stripChars_of_noSpace hplain]
  show (natOfDigits decimal (Nat.toDigits 10 (n + 1))).map (fun n => -Int.ofNat n) = _
  rw [natOfDigits_toDigits hdecimal]
  rfl

end Int

/-- The digits of Unicode. -/
structure Digits where
  /-- `str.isdigit` of one character. -/
  isDigit : Char → Bool
  /-- The value of a character that `int` reads as a decimal digit. -/
  decimal : Char → Option Nat
  isDigit_ascii : ∀ c : Char, c.toNat < 128 → isDigit c = c.isDigit
  decimal_ascii : ∀ c : Char, c.isDigit = true → decimal c = some (c.toNat - '0'.toNat)

/-- The digits of an interpreter that knows those of ASCII alone. -/
def Digits.ascii : Digits where
  isDigit := Char.isDigit
  decimal c := if c.isDigit then some (c.toNat - '0'.toNat) else none
  isDigit_ascii _ _ := rfl
  decimal_ascii _ hc := if_pos hc

/-- `str.isdigit`. -/
def Digits.isDigits (digits : Digits) (text : String) : Bool :=
  text ≠ "" && text.toList.all digits.isDigit

/-- What `str` writes for a natural number is digits. -/
theorem Digits.isDigits_toString (digits : Digits) (n : Nat) :
    digits.isDigits (toString n) = true := by
  have hchars : (toString n).toList = Nat.toDigits 10 n := by
    rw [Nat.toString_eq_ofList_toDigits, String.toList_ofList]
  have hall : (toString n).toList.all digits.isDigit = true := by
    rw [hchars, List.all_eq_true]
    intro c hc
    have hdigit : c.isDigit = true := Nat.isDigit_of_mem_toDigits (by decide) (by decide) hc
    have hrange : 48 ≤ c.toNat ∧ c.toNat ≤ 57 := by
      simpa [Char.isDigit, UInt32.le_iff_toNat_le] using hdigit
    rw [digits.isDigit_ascii c (by omega)]
    exact hdigit
  rw [Digits.isDigits, hall]
  simp

def mentions (part text : String) : Bool := decide (part.toList <:+: text.toList)

/-! ## JSON values -/

/-- A value read from JSON.  A float is known by its `repr`. -/
inductive Json where
  | null
  | bool (b : Bool)
  | int (n : Int)
  | float (text : String)
  | str (s : String)
  | arr (items : List Json)
  | obj (fields : List (String × Json))

namespace Json

instance : Inhabited Json := ⟨null⟩

/-- Induction over the values that a value is made of. -/
theorem induct {P : Json → Prop} (null : P .null) (bool : ∀ b, P (.bool b)) (int : ∀ n, P (.int n))
    (float : ∀ text, P (.float text)) (str : ∀ s, P (.str s))
    (arr : ∀ items, (∀ v ∈ items, P v) → P (.arr items))
    (obj : ∀ kvs, (∀ kv ∈ kvs, P kv.2) → P (.obj kvs)) (v : Json) : P v := by
  refine @Json.rec P (fun items => ∀ v ∈ items, P v) (fun kvs => ∀ kv ∈ kvs, P kv.2)
    (fun kv => P kv.2) null bool int float str arr obj ?_ ?_ ?_ ?_ ?_ v
  · exact nofun
  · exact fun v rest hv hrest => List.forall_mem_cons.mpr ⟨hv, hrest⟩
  · exact nofun
  · exact fun kv rest hkv hrest => List.forall_mem_cons.mpr ⟨hkv, hrest⟩
  · exact fun _ _ h => h

/-- `v is None`. -/
def isNull : Json → Bool
  | null => true
  | _ => false

/-- `isinstance(v, dict)`. -/
def isObj : Json → Bool
  | obj _ => true
  | _ => false

/-- The fields of a dict, in insertion order; none for any other value. -/
def fields : Json → List (String × Json)
  | obj kvs => kvs
  | _ => []

/-- `dict.get(key)`; `none` when the key is absent or the value is no dict. -/
def get? (v : Json) (key : String) : Option Json := v.fields.lookup key

/-- `key in dict`. -/
def has (v : Json) (key : String) : Bool := (v.get? key).isSome

/-- `dict.get(key, default)`. -/
def getD (v : Json) (key : String) (default : Json) : Json := (v.get? key).getD default

/-- `dict.get(key)`, an absent key giving `None`. -/
def get (v : Json) (key : String) : Json := v.getD key null

/-- `isinstance(v, str)`. -/
def str? : Json → Option String
  | str s => some s
  | _ => none

/-- A non-empty string. -/
def nonemptyStr? (v : Json) : Option String :=
  match v with
  | str s => if s = "" then none else some s
  | _ => none

/-- The value of `isinstance(v, int)`, where `True` and `False` are the integers 1 and 0. -/
def int? : Json → Option Int
  | int n => some n
  | bool b => some (if b then 1 else 0)
  | _ => none

/-- `bool(v)`. -/
def truthy : Json → Bool
  | null => false
  | bool b => b
  | int n => n ≠ 0
  | float text => text ≠ "0.0" && text ≠ "-0.0"
  | str s => s ≠ ""
  | arr items => !items.isEmpty
  | obj kvs => !kvs.isEmpty

/-- `v or default`. -/
def orElse (v default : Json) : Json := if v.truthy then v else default

/-- `v` when it is a dict, `{}` otherwise. -/
def dictOrEmpty (v : Json) : Json := if v.isObj then v else obj []

/-- Lists and dicts are not hashable: testing one for membership in a set raises `TypeError`. -/
def hashable : Json → Bool
  | arr _ | obj _ => false
  | _ => true

/-- `v` is one of the given strings. -/
def isOneOf (v : Json) (names : List String) : Bool :=
  match v with
  | str s => names.contains s
  | _ => false

/-- The fields with one written: replaced where it is, or added at the end. -/
def setField (key : String) (value : Json) : List (String × Json) → List (String × Json)
  | [] => [(key, value)]
  | (k, v) :: rest => if k = key then (k, value) :: rest else (k, v) :: setField key value rest

/-- `dict[key] = value`; a value that is no dict stays as it is. -/
def set (v : Json) (key : String) (value : Json) : Json :=
  match v with
  | obj kvs => obj (setField key value kvs)
  | v => v

theorem lookup_setField (key : String) (value : Json) (kvs : List (String × Json))
    (other : String) :
    (setField key value kvs).lookup other =
      if other = key then some value else kvs.lookup other := by
  induction kvs with
  | nil =>
    by_cases hother : other = key
    · simp [setField, hother]
    · simp [setField, List.lookup_cons, beq_eq_false_iff_ne.mpr hother, hother]
  | cons field rest ih =>
    obtain ⟨k, v⟩ := field
    rw [setField]
    by_cases hk : k = key
    · subst hk
      by_cases hother : other = k
      · simp [hother]
      · simp [List.lookup_cons, beq_eq_false_iff_ne.mpr hother, hother]
    · rw [if_neg hk, List.lookup_cons, List.lookup_cons, ih]
      by_cases hother : other = k
      · subst hother
        simp [hk]
      · simp [beq_eq_false_iff_ne.mpr hother]

theorem mem_setField {key : String} {value : Json} {kvs : List (String × Json)}
    {kv : String × Json} (h : kv ∈ setField key value kvs) : kv = (key, value) ∨ kv ∈ kvs := by
  induction kvs with
  | nil => exact .inl (List.mem_singleton.mp h)
  | cons field rest ih =>
    rw [setField] at h
    split at h
    · next hkey =>
      rcases List.mem_cons.mp h with rfl | h
      · exact .inl (congrArg (·, value) hkey)
      · exact .inr (List.mem_cons_of_mem _ h)
    · rcases List.mem_cons.mp h with rfl | h
      · exact .inr List.mem_cons_self
      · exact (ih h).imp_right (List.mem_cons_of_mem _)

/-- Writing a field adds its key at the end, or leaves the keys as they are. -/
theorem setField_keys (key : String) (value : Json) (kvs : List (String × Json)) :
    (setField key value kvs).map Prod.fst =
      if key ∈ kvs.map Prod.fst then kvs.map Prod.fst else kvs.map Prod.fst ++ [key] := by
  induction kvs with
  | nil => rfl
  | cons field rest ih =>
    rw [setField]
    split
    · next hkey => simp [hkey]
    · next hkey =>
      have hne : key ≠ field.1 := fun h => hkey h.symm
      rw [List.map_cons, ih]
      by_cases hrest : key ∈ rest.map Prod.fst
      · simp [hrest]
      · simp [hrest, hne]

theorem nodup_setField {key : String} {value : Json} {kvs : List (String × Json)}
    (h : (kvs.map Prod.fst).Nodup) : ((setField key value kvs).map Prod.fst).Nodup := by
  rw [setField_keys]
  split
  · exact h
  · next hkey =>
    rw [List.nodup_append]
    refine ⟨h, List.pairwise_singleton _ key, fun a ha b hb heq => hkey ?_⟩
    rw [← List.mem_singleton.mp hb, ← heq]
    exact ha

theorem setField_length (key : String) (value : Json) (kvs : List (String × Json)) :
    (setField key value kvs).length ≤ kvs.length + 1 := by
  have hkeys := congrArg List.length (setField_keys key value kvs)
  rw [List.length_map] at hkeys
  rw [hkeys]
  split
  · rw [List.length_map]
    exact Nat.le_succ _
  · rw [List.length_append, List.length_map]
    exact Nat.le_refl _

/-- A new key is added at the end. -/
theorem setField_of_not_mem {key : String} {value : Json} {kvs : List (String × Json)}
    (h : key ∉ kvs.map Prod.fst) : setField key value kvs = kvs ++ [(key, value)] := by
  induction kvs with
  | nil => rfl
  | cons field rest ih =>
    rw [List.map_cons, List.mem_cons, not_or] at h
    rw [setField, if_neg fun hkey => h.1 hkey.symm, ih h.2]
    rfl

/-- What is read back from a dict that has been written to. -/
theorem get?_set {v : Json} (hv : v.isObj = true) (key : String) (value : Json) (other : String) :
    (v.set key value).get? other = if other = key then some value else v.get? other := by
  cases v with
  | obj kvs => exact lookup_setField key value kvs other
  | _ => cases hv

theorem isObj_set (v : Json) (key : String) (value : Json) :
    (v.set key value).isObj = v.isObj := by
  cases v <;> rfl

@[simp] theorem str?_eq_some {v : Json} {s : String} : v.str? = some s ↔ v = str s := by
  cases v <;> simp [str?]

theorem nonemptyStr?_eq_some {v : Json} {s : String} :
    v.nonemptyStr? = some s ↔ v = str s ∧ s ≠ "" := by
  cases v with
  | str t =>
    by_cases ht : t = ""
    · subst ht
      simp only [nonemptyStr?, if_true, reduceCtorEq, false_iff]
      rintro ⟨h, hs⟩
      exact hs (by injection h with h; exact h.symm)
    · simp only [nonemptyStr?, ht, if_false, Option.some.injEq, str.injEq]
      constructor
      · rintro rfl
        exact ⟨rfl, ht⟩
      · exact fun h => h.1
  | _ => simp [nonemptyStr?]

end Json

/-- Membership in a `frozenset` of strings. -/
def inSet (v : Json) (names : List String) : Except String Bool :=
  if v.hashable then .ok (v.isOneOf names) else .error "unhashable type"

theorem inSet_eq_ok {v : Json} {names : List String} {b : Bool} :
    inSet v names = .ok b ↔ v.hashable ∧ v.isOneOf names = b := by
  unfold inSet
  split <;> simp_all

/-! ## Text -/

end Python

/-- What is left to the interpreter: the text of values and the comparison of floats. -/
structure Python where
  /-- `repr(v)`. -/
  repr : Python.Json → String
  /-- `str(v)` of a value that is not a string. -/
  text : Python.Json → String
  /-- `float(v)` compared with `float(w)`; the error text when one of them is no number. -/
  compare : Python.Json → Python.Json → Except String (Option Ordering)

namespace Python

/-- `str(v)`. -/
def str (py : Python) : Json → String
  | .str s => s
  | v => py.text v

@[simp] theorem str_str (py : Python) (s : String) : py.str (.str s) = s := rfl

/-- `str(v)`, with the texts that do not depend on the interpreter written out. -/
def display (py : Python) : Json → String
  | .null => "None"
  | .bool true => "True"
  | .bool false => "False"
  | .int n => toString n
  | v => py.str v

end Python
