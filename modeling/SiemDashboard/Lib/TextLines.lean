import Mathlib.Data.List.Infix

/-!
# Lines of a text

The lines of a text, and ranges of lines that cover a text without gap or overlap.

* **Lines** — `splitlines` (Python's `str.splitlines`), `joinLines`.
* **Ranges** — `LineRange`, `slice`; `Tiles`: ranges that follow one another from a first line to a last
  one.
* **Rules** — `Tiles.append`, `Tiles.existsUnique` (a line is in one range), `Tiles.flatMap_slice`
  (the ranges together are the whole text).
-/

namespace TextLines

/-! ## Lines -/

/-- The characters that end a line. -/
def isLineBreak (c : Char) : Bool :=
  let n := c.toNat
  (10 ≤ n && n ≤ 13) || (28 ≤ n && n ≤ 30) || n == 0x85 || n == 0x2028 || n == 0x2029

/-- The lines of a text, after the characters of a line that has begun, the last of them first. -/
def splitFrom : List Char → List Char → List (List Char)
  | begun, [] => if begun = [] then [] else [begun.reverse]
  | begun, '\r' :: '\n' :: cs => begun.reverse :: splitFrom [] cs
  | begun, c :: cs =>
    if isLineBreak c then begun.reverse :: splitFrom [] cs else splitFrom (c :: begun) cs

/-- `str.splitlines`. -/
def splitlines (text : String) : List String := (splitFrom [] text.toList).map String.ofList

/-- `"\n".join`. -/
def joinLines (lines : List String) : String := String.intercalate "\n" lines

/-- A text without line breaks is one line. -/
theorem splitFrom_of_noBreak {cs : List Char} (h : ∀ c ∈ cs, isLineBreak c = false)
    {begun : List Char} (hbegun : begun ≠ []) : splitFrom begun cs = [begun.reverse ++ cs] := by
  induction cs generalizing begun with
  | nil => simp [splitFrom, hbegun]
  | cons c cs ih =>
    have hc : isLineBreak c = false := h c List.mem_cons_self
    have hreturn : c ≠ '\r' := by
      rintro rfl
      exact absurd hc (by decide)
    rw [splitFrom.eq_3 _ _ _ (fun _ hr _ => hreturn hr), if_neg (by simp [hc]),
      ih (fun c' hc' => h c' (List.mem_cons_of_mem _ hc')) (List.cons_ne_nil c begun)]
    simp

theorem splitlines_of_noBreak {text : String} (hne : text ≠ "")
    (h : ∀ c ∈ text.toList, isLineBreak c = false) : splitlines text = [text] := by
  cases hchars : text.toList with
  | nil => exact absurd (String.toList_eq_nil_iff.mp hchars) hne
  | cons c cs =>
    rw [hchars] at h
    have hc : isLineBreak c = false := h c List.mem_cons_self
    have hreturn : c ≠ '\r' := by
      rintro rfl
      exact absurd hc (by decide)
    rw [splitlines, hchars, splitFrom.eq_3 _ _ _ (fun _ hr _ => hreturn hr),
      if_neg (by simp [hc]),
      splitFrom_of_noBreak (fun c' hc' => h c' (List.mem_cons_of_mem _ hc'))
        (List.cons_ne_nil c [])]
    simp only [List.reverse_singleton, List.singleton_append, List.map_cons, List.map_nil]
    rw [← hchars, String.ofList_toList]

/-! ## Ranges -/

/-- The lines from a first one to a last one, counted from one. -/
structure LineRange where
  start : Nat
  stop : Nat
deriving DecidableEq, Repr

def LineRange.Covers (r : LineRange) (i : Nat) : Prop := r.start ≤ i ∧ i ≤ r.stop

/-- `lines[start - 1 : stop]`. -/
def slice {α : Type} (lines : List α) (r : LineRange) : List α :=
  (lines.take r.stop).drop (r.start - 1)

/-- The ranges follow one another from a first line to a last one. -/
def Tiles : Nat → Nat → List LineRange → Prop
  | first, last, [] => first = last + 1
  | first, last, r :: rest => r.start = first ∧ first ≤ r.stop ∧ Tiles (r.stop + 1) last rest

/-! ## Rules -/

theorem Tiles.first_le {first last : Nat} {ranges : List LineRange} (h : Tiles first last ranges) :
    first ≤ last + 1 := by
  induction ranges generalizing first with
  | nil => exact Nat.le_of_eq h
  | cons r rest ih =>
    obtain ⟨-, hle, hrest⟩ := h
    have hstop := ih hrest
    omega

theorem Tiles.append {first mid last : Nat} {xs ys : List LineRange} (hxs : Tiles first mid xs)
    (hys : Tiles (mid + 1) last ys) : Tiles first last (xs ++ ys) := by
  induction xs generalizing first with
  | nil =>
    rw [List.nil_append, show first = mid + 1 from hxs]
    exact hys
  | cons r rest ih => exact ⟨hxs.1, hxs.2.1, ih hxs.2.2⟩

/-- Every range lies between the first line and the last. -/
theorem Tiles.bounds {first last : Nat} {ranges : List LineRange} (h : Tiles first last ranges)
    {r : LineRange} (hr : r ∈ ranges) : first ≤ r.start ∧ r.start ≤ r.stop ∧ r.stop ≤ last := by
  induction ranges generalizing first with
  | nil => cases hr
  | cons r' rest ih =>
    obtain ⟨hstart, hle, hrest⟩ := h
    rcases List.mem_cons.mp hr with rfl | hr
    · have hstop := hrest.first_le
      omega
    · have hbounds := ih hrest hr
      omega

theorem Tiles.existsUnique {first last : Nat} {ranges : List LineRange} (h : Tiles first last ranges)
    {i : Nat} (hfirst : first ≤ i) (hlast : i ≤ last) : ∃! r, r ∈ ranges ∧ r.Covers i := by
  induction ranges generalizing first with
  | nil =>
    have hend : first = last + 1 := h
    omega
  | cons r rest ih =>
    obtain ⟨hstart, hle, hrest⟩ := h
    by_cases hi : i ≤ r.stop
    · refine ⟨r, ⟨List.mem_cons_self, by omega, hi⟩, ?_⟩
      intro r' hr'
      obtain ⟨hmem, hcovers⟩ := hr'
      rcases List.mem_cons.mp hmem with rfl | hmem
      · rfl
      · have hbounds := hrest.bounds hmem
        have hafter := hcovers.1
        omega
    · obtain ⟨r', ⟨hmem, hcovers⟩, hunique⟩ := ih hrest (by omega)
      refine ⟨r', ⟨List.mem_cons_of_mem _ hmem, hcovers⟩, ?_⟩
      intro r'' hr''
      obtain ⟨hmem'', hcovers''⟩ := hr''
      rcases List.mem_cons.mp hmem'' with rfl | hmem''
      · exact absurd hcovers''.2 hi
      · exact hunique r'' ⟨hmem'', hcovers''⟩

/-- The lines of the ranges, one range after the other, are the lines from the first one on. -/
theorem Tiles.flatMap_slice {α : Type} {lines : List α} {first : Nat} {ranges : List LineRange}
    (h : Tiles (first + 1) lines.length ranges) : ranges.flatMap (slice lines) = lines.drop first := by
  induction ranges generalizing first with
  | nil =>
    have hend : first + 1 = lines.length + 1 := h
    rw [List.flatMap_nil, List.drop_eq_nil_of_le (by omega)]
  | cons r rest ih =>
    obtain ⟨hstart, hle, hrest⟩ := h
    rw [List.flatMap_cons, ih hrest, slice, hstart, Nat.add_sub_cancel]
    calc (lines.take r.stop).drop first ++ lines.drop r.stop
        = (lines.take r.stop).drop first ++ (lines.drop first).drop (r.stop - first) := by
          rw [List.drop_drop, Nat.add_sub_cancel' (by omega)]
      _ = (lines.drop first).take (r.stop - first) ++ (lines.drop first).drop (r.stop - first) := by
          rw [List.drop_take]
      _ = lines.drop first := List.take_append_drop _ _

end TextLines
