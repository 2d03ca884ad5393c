import SiemDashboard.Lib.Pool

/-!
# Invariants under interference

An actor's program runs among the statements of others, so what it has read may be out of date when
it goes on.  A contract says what stays true of the shared state, and how far a statement may move
it; a program that keeps the contract may rely on the others keeping it too.

* **Contracts** — `Contract`: an invariant, and a preorder that every statement respects.
* **Programs** — `Program.Keeps`, and the rules `keeps_*` that follow a program's text.
* **Pools** — `Contract.Holds`, `Contract.holds_run`: where every task keeps the contract, its
  invariant holds in every state of every run.
-/

namespace Atomic

open Function (update)

variable {Q : Type} {R : Q → Type} {σ W A T α β : Type}

/-- What holds of the shared state throughout, and what may become of it. -/
structure Contract (σ : Type) where
  inv : σ → Prop
  le : σ → σ → Prop
  refl : ∀ s, le s s
  trans : ∀ {s₁ s₂ s₃}, le s₁ s₂ → le s₂ s₃ → le s₁ s₃

/-- The step from one state to the other keeps the contract. -/
structure Contract.Allows (C : Contract σ) (s s' : σ) : Prop where
  inv : C.inv s'
  le : C.le s s'

namespace Program

/-- Started in the state `s`, or in what the others have made of it since, the program keeps the
    contract with every statement, and returns with `Post`. -/
def Keeps (C : Contract σ) (exec : Exec σ W R) (Post : α → σ → Prop) : Program R α → σ → Prop
  | done a, s => ∀ t, C.inv t → C.le s t → Post a t
  | stmt q k, s => ∀ w t, C.inv t → C.le s t →
      C.Allows t (exec w q t).2 ∧ (k (exec w q t).1).Keeps C exec Post (exec w q t).2

variable {C : Contract σ} {exec : Exec σ W R} {Post : α → σ → Prop}

/-- A program that keeps the contract keeps it later. -/
theorem Keeps.later {p : Program R α} {s t : σ} (h : p.Keeps C exec Post s) (hle : C.le s t) :
    p.Keeps C exec Post t := by
  cases p with
  | done a => exact fun t' hinv hle' => h t' hinv (C.trans hle hle')
  | stmt q k => exact fun w t' hinv hle' => h w t' hinv (C.trans hle hle')

theorem keeps_pure {a : α} {s : σ} (h : ∀ t, C.inv t → C.le s t → Post a t) :
    (pure a : Program R α).Keeps C exec Post s := h

theorem keeps_bind {p : Program R α} {f : α → Program R β} {Mid : α → σ → Prop}
    {Post : β → σ → Prop} {s : σ} (hp : p.Keeps C exec Mid s)
    (hf : ∀ a t, C.inv t → C.le s t → Mid a t → (f a).Keeps C exec Post t) :
    (p >>= f).Keeps C exec Post s := by
  induction p generalizing s with
  | done a =>
    -- the program goes on in whatever state it is resumed in
    cases hfa : f a with
    | done b =>
      rw [done_bind, hfa]
      intro t hinv hle
      have hkeeps := hf a t hinv hle (hp t hinv hle)
      rw [hfa] at hkeeps
      exact hkeeps t hinv (C.refl t)
    | stmt q k =>
      rw [done_bind, hfa]
      intro w t hinv hle
      have hkeeps := hf a t hinv hle (hp t hinv hle)
      rw [hfa] at hkeeps
      exact hkeeps w t hinv (C.refl t)
  | stmt q k ih =>
    rw [stmt_bind]
    intro w t hinv hle
    obtain ⟨hallows, hk⟩ := hp w t hinv hle
    refine ⟨hallows, ih _ hk ?_⟩
    intro a t' hinv' hle' hmid
    exact hf a t' hinv' (C.trans hle (C.trans hallows.le hle')) hmid

/-- One statement, then the rest. -/
theorem keeps_call_bind {q : Q} {f : R q → Program R β} {Post : β → σ → Prop} {s : σ}
    (h : ∀ w t, C.inv t → C.le s t → C.Allows t (exec w q t).2 ∧
      (f (exec w q t).1).Keeps C exec Post (exec w q t).2) :
    (call q >>= f).Keeps C exec Post s := h

theorem Keeps.imp {p : Program R α} {Post' : α → σ → Prop} {s : σ} (hp : p.Keeps C exec Post s)
    (h : ∀ a t, C.inv t → C.le s t → Post a t → Post' a t) : p.Keeps C exec Post' s := by
  induction p generalizing s with
  | done a => exact fun t hinv hle => h a t hinv hle (hp t hinv hle)
  | stmt q k ih =>
    intro w t hinv hle
    obtain ⟨hallows, hk⟩ := hp w t hinv hle
    exact ⟨hallows, ih _ hk fun a t' hinv' hle' => h a t' hinv' (C.trans hle (C.trans hallows.le hle'))⟩

/-- A program all of whose statements keep the contract. -/
theorem Issues.keeps {P : Q → Prop} {Ret : α → Prop} {p : Program R α} {s : σ}
    (hp : p.Issues P Ret) (h : ∀ q w t, P q → C.inv t → C.Allows t (exec w q t).2) :
    p.Keeps C exec (fun a _ => Ret a) s := by
  induction p generalizing s with
  | done a => exact fun _ _ _ => hp
  | stmt q k ih => exact fun w t hinv _ => ⟨h q w t hp.1 hinv, ih _ (hp.2 _)⟩

end Program

/-! ## Pools -/

/-- Every actor's program keeps the contract from here on, and the invariant holds. -/
structure Contract.Holds (C : Contract σ) (exec : Exec σ W R) (pool : Pool σ A R) : Prop where
  inv : C.inv pool.shared
  each : ∀ a p, pool.proc a = some p → p.Keeps C exec (fun _ _ => True) pool.shared

namespace Contract

variable {C : Contract σ} [DecidableEq A] {S : System σ W A T R} {pool : Pool σ A R}

omit [DecidableEq A] in
theorem holds_idle {s : σ} (h : C.inv s) : C.Holds S.exec (Pool.idle s : Pool σ A R) :=
  ⟨h, fun _ _ hp => by cases hp⟩

/-- An actor goes on with the rest of its program. -/
theorem Holds.set (h : C.Holds S.exec pool) {s : σ} (hallows : C.Allows pool.shared s) (a : A)
    {p : Program R Unit} (hp : p.Keeps C S.exec (fun _ _ => True) s) :
    C.Holds S.exec ⟨s, update pool.proc a p.rest⟩ := by
  refine ⟨hallows.inv, fun b p' hb => ?_⟩
  by_cases hba : b = a
  · subst hba
    cases p with
    | done u => simp [Program.rest] at hb
    | stmt q k =>
      simp only [Program.rest, Function.update_self, Option.some.injEq] at hb
      rw [← hb]
      exact hp
  · have hproc : pool.proc b = some p' := by simpa [hba] using hb
    exact (h.each b p' hproc).later hallows.le

theorem holds_apply (hcode : ∀ a t p, S.code a t = some p →
      ∀ s, C.inv s → p.Keeps C S.exec (fun _ _ => True) s)
    (h : C.Holds S.exec pool) (e : Event A T W) : C.Holds S.exec (S.apply pool e) := by
  cases e with
  | start a t =>
    cases hproc : pool.proc a with
    | some p => simpa [System.apply, hproc] using h
    | none =>
      cases hc : S.code a t with
      | none => simpa [System.apply, hproc, hc] using h
      | some p =>
        have hkeeps := hcode a t p hc pool.shared h.inv
        simpa [System.apply, hproc, hc] using h.set ⟨h.inv, C.refl _⟩ a hkeeps
  | step a w =>
    rcases hproc : pool.proc a with _ | (_ | ⟨q, k⟩)
    · simpa [System.apply, hproc] using h
    · simpa [System.apply, hproc] using h
    · obtain ⟨hallows, hk⟩ := h.each a _ hproc w pool.shared h.inv (C.refl _)
      simpa [System.apply, hproc] using h.set hallows a hk
  | crash a =>
    refine ⟨h.inv, fun b p hb => ?_⟩
    by_cases hba : b = a
    · subst hba
      simp [System.apply] at hb
    · exact h.each b p (by simpa [System.apply, hba] using hb)

/-- Where every task keeps the contract, every run does. -/
theorem holds_run (hcode : ∀ a t p, S.code a t = some p →
      ∀ s, C.inv s → p.Keeps C S.exec (fun _ _ => True) s)
    (h : C.Holds S.exec pool) (events : List (Event A T W)) :
    C.Holds S.exec (S.run pool events) := by
  induction events generalizing pool with
  | nil => exact h
  | cons e events ih => exact ih (holds_apply hcode h e)

end Contract

end Atomic
