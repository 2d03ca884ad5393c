import Mathlib.Data.List.Basic

/-!
# Runs of a sequential machine

A machine takes one operation after another.  Where every operation is a transaction of its own,
the order in which the transactions take effect is a list of operations.

* **Runs** — `after`: the state after some operations; `Along`: every operation of a run meets a
  condition in the state it finds; `Happened`: some operation did; `count`: how many did.
* **Rules** — `invariant` (what every allowed operation keeps, every allowed run keeps),
  `Along.imp_of_invariant`, `along_congr`, `after_iff_along`, `always_iff_along`, `related` (a
  preorder that every operation respects).
-/

namespace Runs

variable {σ Op : Type} {step : σ → Op → σ}

/-- The state after the operations. -/
def after (step : σ → Op → σ) (s : σ) (ops : List Op) : σ := ops.foldl step s

@[simp] theorem after_nil (s : σ) : after step s [] = s := rfl

@[simp] theorem after_cons (s : σ) (op : Op) (ops : List Op) :
    after step s (op :: ops) = after step (step s op) ops := rfl

theorem after_append (s : σ) (xs ys : List Op) :
    after step s (xs ++ ys) = after step (after step s xs) ys :=
  List.foldl_append

/-- Every operation meets the condition in the state it finds. -/
def Along (step : σ → Op → σ) (P : σ → Op → Prop) : σ → List Op → Prop
  | _, [] => True
  | s, op :: ops => P s op ∧ Along step P (step s op) ops

instance Along.decidable {P : σ → Op → Prop} [∀ s op, Decidable (P s op)] :
    (s : σ) → (ops : List Op) → Decidable (Along step P s ops)
  | _, [] => isTrue trivial
  | s, op :: ops =>
    @instDecidableAnd (P s op) (Along step P (step s op) ops) inferInstance
      (Along.decidable (step s op) ops)

theorem along_of_forall {P : σ → Op → Prop} (h : ∀ s op, P s op) (s : σ) (ops : List Op) :
    Along step P s ops := by
  induction ops generalizing s with
  | nil => trivial
  | cons op ops ih => exact ⟨h s op, ih _⟩

/-- What holds of each operation holds along the run. -/
theorem along_of_forall_mem {P : Op → Prop} {ops : List Op} (h : ∀ op ∈ ops, P op) (s : σ) :
    Along step (fun _ op => P op) s ops := by
  induction ops generalizing s with
  | nil => trivial
  | cons op ops ih =>
    exact ⟨h op List.mem_cons_self, ih (fun other hother => h other (List.mem_cons_of_mem _ hother)) _⟩

/-- Conditions that say the same wherever an invariant holds, say the same along every run. -/
theorem along_congr_of_invariant {Inv : σ → Prop} {P P' : σ → Op → Prop}
    (hstep : ∀ s op, Inv s → Inv (step s op)) (h : ∀ s op, Inv s → (P s op ↔ P' s op)) {s : σ}
    (hs : Inv s) (ops : List Op) : Along step P s ops ↔ Along step P' s ops := by
  induction ops generalizing s with
  | nil => exact Iff.rfl
  | cons op ops ih => exact and_congr (h s op hs) (ih (hstep s op hs))

theorem along_congr {P P' : σ → Op → Prop} (h : ∀ s op, P s op ↔ P' s op) (s : σ)
    (ops : List Op) : Along step P s ops ↔ Along step P' s ops :=
  @along_congr_of_invariant _ _ step (fun _ => True) _ _ (fun _ _ _ => trivial)
    (fun s op _ => h s op) s trivial ops

theorem along_append {P : σ → Op → Prop} {s : σ} {xs ys : List Op} :
    Along step P s (xs ++ ys) ↔ Along step P s xs ∧ Along step P (after step s xs) ys := by
  induction xs generalizing s with
  | nil => simp [Along]
  | cons op xs ih => simp [Along, ih, and_assoc]

/-- **The invariant rule.** -/
theorem invariant {Inv : σ → Prop} {ok : σ → Op → Prop}
    (hstep : ∀ s op, Inv s → ok s op → Inv (step s op)) {s : σ} (hs : Inv s) {ops : List Op}
    (hok : Along step ok s ops) : Inv (after step s ops) := by
  induction ops generalizing s with
  | nil => exact hs
  | cons op ops ih => exact ih (hstep s op hs hok.1) hok.2

/-- What holds of every allowed operation where the invariant does, holds along every allowed
    run. -/
theorem Along.imp_of_invariant {Inv : σ → Prop} {ok P : σ → Op → Prop}
    (hstep : ∀ s op, Inv s → ok s op → Inv (step s op))
    (himp : ∀ s op, Inv s → ok s op → P s op) {s : σ} (hs : Inv s) {ops : List Op}
    (hok : Along step ok s ops) : Along step P s ops := by
  induction ops generalizing s with
  | nil => trivial
  | cons op ops ih => exact ⟨himp s op hs hok.1, ih (hstep s op hs hok.1) hok.2⟩

/-- What an operation leaves true just where it was true and a condition is met, is true after a run
    just where it was before and the condition is met along the run. -/
theorem after_iff_along {Inv Q : σ → Prop} {P : σ → Op → Prop}
    (hstep : ∀ s op, Inv s → Inv (step s op))
    (h : ∀ s op, Inv s → (Q (step s op) ↔ Q s ∧ P s op)) {s : σ} (hs : Inv s) (ops : List Op) :
    Q (after step s ops) ↔ Q s ∧ Along step P s ops := by
  induction ops generalizing s with
  | nil => simp [Along]
  | cons op ops ih =>
    rw [after_cons, ih (hstep s op hs), h s op hs, and_assoc]
    rfl

/-- What an operation leaves true just where a condition is met, is true in every state of a run just
    where the condition is met along it. -/
theorem always_iff_along {Inv Q : σ → Prop} {P : σ → Op → Prop}
    (hstep : ∀ s op, Inv s → Inv (step s op))
    (h : ∀ s op, Inv s → Q s → (Q (step s op) ↔ P s op)) {s : σ} (hs : Inv s) (hq : Q s)
    (ops : List Op) :
    (∀ pre, pre <+: ops → Q (after step s pre)) ↔ Along step P s ops := by
  induction ops generalizing s with
  | nil =>
    refine ⟨fun _ => trivial, fun _ pre hpre => ?_⟩
    rw [List.prefix_nil.mp hpre]
    exact hq
  | cons op ops ih =>
    constructor
    · intro hall
      have hfirst : Q (step s op) := hall [op] (by simp)
      refine ⟨(h s op hs hq).mp hfirst, (ih (hstep s op hs) hfirst).mp fun pre hpre => ?_⟩
      exact hall (op :: pre) ((List.prefix_cons_inj op).mpr hpre)
    · intro ⟨hop, hops⟩ pre hpre
      have hfirst : Q (step s op) := (h s op hs hq).mpr hop
      cases pre with
      | nil => exact hq
      | cons first pre =>
        obtain ⟨rfl, hrest⟩ := List.cons_prefix_cons.mp hpre
        exact (ih (hstep s first hs) hfirst).mpr hops pre hrest

/-! ## What has happened -/

/-- Some operation of the run met the condition in the state it found. -/
def Happened (step : σ → Op → σ) (E : σ → Op → Prop) (s : σ) (ops : List Op) : Prop :=
  ∃ pre op, pre ++ [op] <+: ops ∧ E (after step s pre) op

theorem not_happened_nil {E : σ → Op → Prop} {s : σ} : ¬ Happened step E s [] := by
  rintro ⟨pre, op, hprefix, -⟩
  have hlength := hprefix.length_le
  simp at hlength

/-- The first operation meets the condition, or a later one does. -/
theorem happened_cons {E : σ → Op → Prop} {s : σ} {ops : List Op} {op : Op} :
    Happened step E s (op :: ops) ↔ E s op ∨ Happened step E (step s op) ops := by
  constructor
  · rintro ⟨pre, op', hprefix, hE⟩
    cases pre with
    | nil =>
      obtain ⟨rfl, -⟩ := List.cons_prefix_cons.mp hprefix
      exact .inl hE
    | cons first pre =>
      obtain ⟨rfl, hrest⟩ := List.cons_prefix_cons.mp hprefix
      exact .inr ⟨pre, op', hrest, hE⟩
  · rintro (hE | ⟨pre, op', hprefix, hE⟩)
    · exact ⟨[], op, List.cons_prefix_cons.mpr ⟨rfl, List.nil_prefix⟩, hE⟩
    · exact ⟨op :: pre, op', List.cons_prefix_cons.mpr ⟨rfl, hprefix⟩, hE⟩

/-- The last operation meets the condition, or an earlier one has. -/
theorem happened_append_singleton {E : σ → Op → Prop} {s : σ} {ops : List Op} {op : Op} :
    Happened step E s (ops ++ [op]) ↔ Happened step E s ops ∨ E (after step s ops) op := by
  constructor
  · rintro ⟨pre, op', hprefix, hE⟩
    rcases List.prefix_concat_iff.mp hprefix with heq | hprefix
    · obtain ⟨rfl, hop⟩ := List.append_inj' heq rfl
      obtain rfl : op' = op := by simpa using hop
      exact .inr hE
    · exact .inl ⟨pre, op', hprefix, hE⟩
  · rintro (⟨pre, op', hprefix, hE⟩ | hE)
    · exact ⟨pre, op', hprefix.trans (List.prefix_append ops [op]), hE⟩
    · exact ⟨ops, op, List.prefix_refl _, hE⟩

/-- How many operations of the run meet the condition in the state they find. -/
def count (step : σ → Op → σ) (E : σ → Op → Bool) : σ → List Op → Nat
  | _, [] => 0
  | s, op :: ops => (if E s op then 1 else 0) + count step E (step s op) ops

theorem count_append_singleton {E : σ → Op → Bool} {s : σ} {ops : List Op} {op : Op} :
    count step E s (ops ++ [op]) =
      count step E s ops + if E (after step s ops) op then 1 else 0 := by
  induction ops generalizing s with
  | nil => exact (Nat.add_zero _).trans (Nat.zero_add _).symm
  | cons first ops ih =>
    rw [List.cons_append, count, ih, after_cons, count, Nat.add_assoc]

/-! ## Orders -/

/-- A preorder that every operation respects relates the states before and after a run. -/
theorem related {le : σ → σ → Prop} (hrefl : ∀ s, le s s)
    (htrans : ∀ s₁ s₂ s₃, le s₁ s₂ → le s₂ s₃ → le s₁ s₃) (hstep : ∀ s op, le s (step s op))
    (s : σ) (ops : List Op) : le s (after step s ops) := by
  induction ops generalizing s with
  | nil => exact hrefl s
  | cons op ops ih => exact htrans _ _ _ (hstep s op) (ih _)

end Runs
