import Mathlib.Algebra.Order.Ring.Int
import Mathlib.Data.List.Basic
import Mathlib.Tactic.Ring

/-!
# Intervals and grids

Half-open intervals of integers, and the points that are a whole number of steps away from a first
one.

* **Intervals** — `Interval`, `Inside`; `Apart`, `Agree`: two intervals do not overlap, or are the same.
* **Grids** — `grid`: the points of a grid in ascending order; `cell`: the step that ends at a point.
* **Cells** — `cell_agree`: cells of one grid never overlap partly; `grid_cells_apart`;
  `inside_grid_cells`: together they leave no gap.
-/

namespace Intervals

/-! ## Intervals -/

/-- The points from the start up to the stop. -/
structure Interval where
  start : Int
  stop : Int
deriving DecidableEq, Repr

/-- The point lies in the interval. -/
def Inside (interval : Interval) (t : Int) : Prop := interval.start ≤ t ∧ t < interval.stop

instance (interval : Interval) (t : Int) : Decidable (Inside interval t) :=
  inferInstanceAs (Decidable (_ ∧ _))

/-- The intervals do not overlap. -/
def Apart (a b : Interval) : Prop := a.stop ≤ b.start ∨ b.stop ≤ a.start

instance (a b : Interval) : Decidable (Apart a b) := inferInstanceAs (Decidable (_ ∨ _))

/-- The intervals are the same, or do not overlap. -/
def Agree (a b : Interval) : Prop := a = b ∨ Apart a b

theorem Apart.symm {a b : Interval} (h : Apart a b) : Apart b a := Or.symm h

theorem Apart.agree {a b : Interval} (h : Apart a b) : Agree a b := .inr h

/-! ## Grids -/

/-- The first `n` points of a grid. -/
def grid (step first : Int) : Nat → List Int
  | 0 => []
  | n + 1 => first :: grid step (first + step) n

@[simp] theorem length_grid (step first : Int) (n : Nat) : (grid step first n).length = n := by
  induction n generalizing first with
  | zero => rfl
  | succ n ih => simp [grid, ih]

theorem drop_grid (step first : Int) (k n : Nat) :
    (grid step first n).drop k = grid step (first + k * step) (n - k) := by
  induction k generalizing first n with
  | zero => simp
  | succ k ih =>
    cases n with
    | zero => simp [grid]
    | succ n =>
      have hfirst : first + step + k * step = first + ((k + 1 : Nat) : Int) * step := by
        push_cast
        ring
      rw [grid, List.drop_succ_cons, ih, hfirst, Nat.add_sub_add_right]

theorem mem_grid {step first x : Int} {n : Nat} :
    x ∈ grid step first n ↔ ∃ k < n, x = first + k * step := by
  induction n generalizing first with
  | zero => simp [grid]
  | succ n ih =>
    rw [grid, List.mem_cons, ih]
    constructor
    · rintro (rfl | ⟨k, hk, rfl⟩)
      · exact ⟨0, Nat.succ_pos n, by simp⟩
      · refine ⟨k + 1, Nat.succ_lt_succ hk, ?_⟩
        push_cast
        ring
    · rintro ⟨k, hk, rfl⟩
      cases k with
      | zero => exact .inl (by simp)
      | succ k =>
        refine .inr ⟨k, Nat.lt_of_succ_lt_succ hk, ?_⟩
        push_cast
        ring

theorem getLast?_grid (step first : Int) (n : Nat) :
    (grid step first (n + 1)).getLast? = some (first + n * step) := by
  induction n generalizing first with
  | zero => simp [grid]
  | succ n ih =>
    have hlast : first + step + n * step = first + ((n + 1 : Nat) : Int) * step := by
      push_cast
      ring
    have hrest : grid step (first + step) (n + 1) ≠ [] :=
      List.ne_nil_of_length_pos (by simp)
    rw [grid, List.getLast?_cons, ih, Option.getD_some, hlast]

/-- The points of a grid, between its ends. -/
theorem mem_grid_bounds {step first x : Int} {n : Nat} (hstep : 0 < step)
    (h : x ∈ grid step first n) : first ≤ x ∧ x + step ≤ first + n * step := by
  obtain ⟨k, hk, rfl⟩ := mem_grid.mp h
  have hnonneg : 0 ≤ (k : Int) * step := Int.mul_nonneg (Int.natCast_nonneg k) hstep.le
  have hle : ((k : Int) + 1) * step ≤ n * step := by
    refine Int.mul_le_mul_of_nonneg_right ?_ hstep.le
    omega
  have hsucc : ((k : Int) + 1) * step = k * step + step := by ring
  omega

theorem dvd_of_mem_grid {step first x : Int} {n : Nat} (h : x ∈ grid step first n) :
    step ∣ x - first := by
  obtain ⟨k, -, rfl⟩ := mem_grid.mp h
  exact ⟨k, by ring⟩

/-! ## Cells -/

/-- The step of a grid that ends at a point. -/
def cell (step stop : Int) : Interval := ⟨stop - step, stop⟩

/-- **Cells of one grid** are the same or do not overlap. -/
theorem cell_agree {step a b : Int} (h : step ∣ a - b) :
    Agree (cell step a) (cell step b) := by
  rcases lt_trichotomy a b with hlt | rfl | hgt
  · have hle : step ≤ b - a := Int.le_of_dvd (by omega) (by
      rw [← Int.neg_sub]
      exact Int.dvd_neg.mpr h)
    exact .inr (.inl (by simp only [cell]; omega))
  · exact .inl rfl
  · have hle : step ≤ a - b := Int.le_of_dvd (by omega) h
    exact .inr (.inr (by simp only [cell]; omega))

theorem grid_cells_apart {step first : Int} (hstep : 0 < step) (n : Nat) :
    ((grid step first n).map (cell step)).Pairwise Apart := by
  induction n generalizing first with
  | zero => exact .nil
  | succ n ih =>
    rw [grid, List.map_cons, List.pairwise_cons]
    refine ⟨fun b hb => ?_, ih⟩
    obtain ⟨x, hx, rfl⟩ := List.mem_map.mp hb
    have hbounds := mem_grid_bounds hstep hx
    exact .inl (by simp only [cell]; omega)

/-- **The cells of a grid** leave no gap between the start of the first and the stop of the last. -/
theorem inside_grid_cells {step first t : Int} (hstep : 0 < step) (n : Nat) :
    (∃ x ∈ grid step first n, Inside (cell step x) t) ↔
      first - step ≤ t ∧ t < first + n * step - step := by
  induction n generalizing first with
  | zero =>
    simp only [grid, List.not_mem_nil, false_and, exists_false, false_iff, not_and]
    push_cast
    omega
  | succ n ih =>
    have hnonneg : 0 ≤ (n : Int) * step := Int.mul_nonneg (Int.natCast_nonneg n) hstep.le
    have hlast : ((n + 1 : Nat) : Int) * step = n * step + step := by
      push_cast
      ring
    rw [grid, List.exists_mem_cons_iff, ih, hlast]
    simp only [Inside, cell]
    omega

end Intervals
