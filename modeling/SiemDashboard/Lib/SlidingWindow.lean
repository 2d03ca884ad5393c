import Mathlib.Algebra.Order.Group.Defs
import Mathlib.Data.List.Count

/-!
# Sliding windows

A list of stamps that grows at its end.  A stamp is only admitted where fewer than a limit of the earlier
ones are recent; then no window of one width ever holds more than the limit, wherever it begins.

* **Recent stamps** — `recent` and how it composes.
* **Admission** — `Admitted`.
* **Windows** — `Narrow`, `Admitted.countP_le`.
-/

namespace SlidingWindow

variable {T : Type} [AddCommGroup T] [LinearOrder T] [IsOrderedAddMonoid T]

/-! ## Recent stamps -/

/-- The stamps that are less than one width old. -/
def recent (width now : T) (stamps : List T) : List T := stamps.filter fun stamp => now - width < stamp

section Recent

variable {width now : T} {stamps more : List T}

omit [IsOrderedAddMonoid T] in
@[simp] theorem recent_nil : recent width now [] = [] := rfl

omit [IsOrderedAddMonoid T] in
@[simp] theorem recent_append :
    recent width now (stamps ++ more) = recent width now stamps ++ recent width now more :=
  List.filter_append _ _

/-- What was dropped earlier is not recent later. -/
theorem recent_recent {earlier : T} (hle : earlier ≤ now) :
    recent width now (recent width earlier stamps) = recent width now stamps := by
  unfold recent
  rw [List.filter_filter]
  refine List.filter_congr fun stamp _ => ?_
  have hcut : earlier - width ≤ now - width := sub_le_sub_right hle width
  have himp : now - width < stamp → earlier - width < stamp := fun h => lt_of_le_of_lt hcut h
  by_cases h : now - width < stamp
  · simp [h, himp h]
  · simp [h]

end Recent

/-! ## Admission -/

/-- Each stamp was admitted after all the earlier ones, while fewer than the limit of them were recent. -/
inductive Admitted (limit : Nat) (width : T) : List T → Prop where
  | nil : Admitted limit width []
  | snoc {stamps : List T} {now : T} (earlier : Admitted limit width stamps)
      (hlast : ∀ stamp ∈ stamps, stamp ≤ now) (hroom : (recent width now stamps).length < limit) :
      Admitted limit width (stamps ++ [now])

/-! ## Windows -/

/-- Any two points of the window are less than one width apart. -/
def Narrow (width : T) (window : T → Prop) : Prop := ∀ a b, window a → window b → b - width < a

theorem narrow_Ico (start width : T) :
    Narrow width fun point => start ≤ point ∧ point < start + width := by
  intro a b ha hb
  calc b - width < start := sub_lt_iff_lt_add.mpr hb.2
    _ ≤ a := ha.1

theorem narrow_Ioc (start width : T) :
    Narrow width fun point => start < point ∧ point ≤ start + width := by
  intro a b ha hb
  calc b - width ≤ start := sub_le_iff_le_add.mpr hb.2
    _ < a := ha.1

omit [IsOrderedAddMonoid T] in
/-- A narrow window holds at most the limit. -/
theorem Admitted.countP_le {limit : Nat} {width : T} {stamps : List T}
    (h : Admitted limit width stamps) {window : T → Prop} [DecidablePred window]
    (hnarrow : Narrow width window) : stamps.countP (fun stamp => decide (window stamp)) ≤ limit := by
  induction h with
  | nil => exact Nat.zero_le _
  | @snoc stamps now earlier hlast hroom ih =>
    rw [List.countP_append, List.countP_singleton]
    by_cases hnow : window now
    · -- The stamps of the window were all recent when the last one was admitted.
      have hrecent : stamps.countP (fun stamp => decide (window stamp)) ≤
          (recent width now stamps).length := by
        unfold recent
        rw [← List.countP_eq_length_filter]
        refine List.countP_mono_left fun stamp _ hstamp => ?_
        have hwindow : window stamp := of_decide_eq_true hstamp
        exact decide_eq_true (hnarrow stamp now hwindow hnow)
      simp only [hnow, decide_true, if_true]
      omega
    · simp only [hnow, decide_false]
      simpa using ih

end SlidingWindow
