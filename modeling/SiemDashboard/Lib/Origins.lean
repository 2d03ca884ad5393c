import Mathlib.Data.List.Induction
import SiemDashboard.Lib.Pool

/-!
# Where a phase comes from

In some phases an actor may do what it may not do in others.  If such a phase is only entered by a
marked statement, then whenever the actor is in it, that statement was issued earlier, and the actor
has been busy with the same thing since.

* **Histories** — `Undisturbed`: an actor goes on throughout a run; `Since`: it has gone on since a
  marked statement.
* **The origin rule** — `Origin`, `Origin.at_step`.
-/

namespace Atomic

open Function (update)

variable {Q : Type} {R : Q → Type} {σ W A T G : Type} [DecidableEq A]

section Histories

variable (S : System σ W A T R)

/-- Throughout the run the actor is busy, does not crash, and issues no statement that begins
    something new. -/
def Undisturbed (Begins : Q → Prop) (a : A) : Pool σ A R → List (Event A T W) → Prop :=
  S.Along fun pool e => pool.proc a ≠ none ∧
    match e with
    | .start _ _ => True
    | .crash b => b ≠ a
    | .step b _ => b = a → ∀ q, pool.next a = some q → ¬ Begins q

/-- The actor has gone on since it issued a marked statement and got a marked answer. -/
def Since (Mark : (q : Q) → R q → Prop) (Begins : Q → Prop) (a : A) (pool : Pool σ A R)
    (events : List (Event A T W)) : Prop :=
  ∃ before w q after, events = before ++ .step a w :: after ∧
    (S.run pool before).next a = some q ∧
    Mark q (S.exec w q (S.run pool before).shared).1 ∧
    Undisturbed S Begins a (S.run pool (before ++ [.step a w])) after

variable {S} {Mark : (q : Q) → R q → Prop} {Begins : Q → Prop} {a : A} {pool : Pool σ A R}
  {events : List (Event A T W)}

/-- The actor has just issued a marked statement. -/
theorem since_marked {w : W} {q : Q} (hq : (S.run pool events).next a = some q)
    (hmark : Mark q (S.exec w q (S.run pool events).shared).1) :
    Since S Mark Begins a pool (events ++ [.step a w]) :=
  ⟨events, w, q, [], rfl, hq, hmark, trivial⟩

/-- One more event that does not disturb the actor. -/
theorem Since.extend (h : Since S Mark Begins a pool events) {e : Event A T W}
    (hbusy : (S.run pool events).proc a ≠ none) (hcrash : e ≠ .crash a)
    (hstep : ∀ w, e = .step a w → ∀ q, (S.run pool events).next a = some q → ¬ Begins q) :
    Since S Mark Begins a pool (events ++ [e]) := by
  obtain ⟨before, w, q, after, rfl, hq, hmark, hund⟩ := h
  refine ⟨before, w, q, after ++ [e], by simp, hq, hmark, ?_⟩
  have hpool : S.run (S.run pool (before ++ [.step a w])) after =
      S.run pool (before ++ .step a w :: after) := by
    rw [← System.run_append]
    simp
  unfold Undisturbed at hund ⊢
  rw [System.along_append]
  refine ⟨hund, ⟨by rw [hpool]; exact hbusy, ?_⟩, trivial⟩
  rw [hpool]
  cases e with
  | start b t => trivial
  | crash b =>
    intro hb
    exact hcrash (by rw [hb])
  | step b w' =>
    intro hb
    exact hstep w' (by rw [hb])

end Histories

/-! ## The origin rule -/

variable {S : System σ W A T R} {ref : Refinement S G} {ok : Pool σ A R → Event A T W → Prop}

/-- Phases that an actor is in only because of a marked statement. -/
structure Origin (D : Discipline ref ok) (a : A) where
  Holds : G → Prop
  Mark : (q : Q) → R q → Prop
  Begins : Q → Prop
  between : ¬ Holds ref.between
  silent : ∀ g g', (ref.protocol a).silent g g' → Holds g' → Holds g
  step : ∀ g q r g', (ref.protocol a).step g q r g' → Holds g' → Mark q r ∨ Holds g ∧ ¬ Begins q

namespace Origin

variable {D : Discipline ref ok} {a : A} (O : Origin D a)

omit [DecidableEq A] in
theorem slides {g g' : G} (hs : (ref.protocol a).Slides g g') (h : O.Holds g') : O.Holds g := by
  induction hs with
  | refl => exact h
  | tail _ hstep ih => exact ih (O.silent _ _ hstep h)

/-- Some phases explain the pool and keep to the discipline, and the actor's phase has its origin
    in the run. -/
def Traced (pool : Pool σ A R) (events : List (Event A T W)) : Prop :=
  ∃ phase, D.Explains (S.run pool events) phase ∧
    (O.Holds (phase a) → Since S O.Mark O.Begins a pool events)

omit [DecidableEq A] in
theorem busy {pool : Pool σ A R} {phase : A → G} (htracks : ref.Tracks pool phase)
    (h : O.Holds (phase a)) : pool.proc a ≠ none := by
  intro hidle
  rw [htracks.idle hidle] at h
  exact O.between h

variable {O} {pool : Pool σ A R} {events : List (Event A T W)}

theorem Traced.start (h : O.Traced pool events) (b : A) (t : T) :
    O.Traced pool (events ++ [.start b t]) := by
  obtain ⟨phase, h, hsince⟩ := h
  have hextend (hholds : O.Holds (phase a)) :
      Since S O.Mark O.Begins a pool (events ++ [.start b t]) :=
    (hsince hholds).extend (O.busy h.tracks hholds) nofun (fun _ => nofun)
  have hrun : S.run pool (events ++ [.start b t]) = S.apply (S.run pool events) (.start b t) := by
    rw [System.run_append, System.run_cons, System.run_nil]
  unfold Traced
  rw [hrun]
  cases hp : (S.run pool events).proc b with
  | some p => exact ⟨phase, by simpa [System.apply, hp] using h, hextend⟩
  | none =>
    cases hc : S.code b t with
    | none => exact ⟨phase, by simpa [System.apply, hp, hc] using h, hextend⟩
    | some p =>
      obtain ⟨g₁, hs, ht⟩ := h.tracks.set (S.run pool events).shared b (ref.follows b t p hc)
      simp only [System.apply, hp, hc]
      refine ⟨update phase b g₁, ⟨ht, h.global, fun c => ?_⟩, fun hholds => ?_⟩
      · by_cases hcb : c = b
        · subst hcb
          simpa using Discipline.slides h.global (D.between _ c h.global) hs
        · simpa [hcb] using h.each c
      · by_cases hab : a = b
        · subst hab
          rw [Function.update_self] at hholds
          exact absurd (O.slides hs hholds) O.between
        · rw [Function.update_of_ne hab] at hholds
          exact hextend hholds

theorem Traced.crash (h : O.Traced pool events) (b : A) :
    O.Traced pool (events ++ [.crash b]) := by
  obtain ⟨phase, h, hsince⟩ := h
  have hrun : S.run pool (events ++ [.crash b]) = S.apply (S.run pool events) (.crash b) := by
    rw [System.run_append, System.run_cons, System.run_nil]
  unfold Traced
  rw [hrun]
  refine ⟨update phase b ref.between, ⟨h.tracks.stop b, h.global, fun c => ?_⟩, fun hholds => ?_⟩
  · by_cases hcb : c = b
    · subst hcb
      simpa [System.apply] using D.between _ c h.global
    · simpa [System.apply, hcb] using h.each c
  · by_cases hab : a = b
    · subst hab
      rw [Function.update_self] at hholds
      exact absurd hholds O.between
    · rw [Function.update_of_ne hab] at hholds
      refine (hsince hholds).extend (O.busy h.tracks hholds) (fun he => ?_) (fun w he => ?_)
      · cases he
        exact hab rfl
      · cases he

theorem Traced.step (h : O.Traced pool events) (b : A) (w : W)
    (hok : ok (S.run pool events) (.step b w)) : O.Traced pool (events ++ [.step b w]) := by
  obtain ⟨phase, h, hsince⟩ := h
  have hrun : S.run pool (events ++ [.step b w]) = S.apply (S.run pool events) (.step b w) := by
    rw [System.run_append, System.run_cons, System.run_nil]
  have hnocrash : (.step b w : Event A T W) ≠ .crash a := by
    intro he
    cases he
  have hother (hab : b ≠ a) (hholds : O.Holds (phase a)) :
      Since S O.Mark O.Begins a pool (events ++ [.step b w]) := by
    refine (hsince hholds).extend (O.busy h.tracks hholds) hnocrash fun w' he => ?_
    cases he
    exact absurd rfl hab
  -- a step of an actor with nothing to issue changes nothing
  have hidle (happly : S.apply (S.run pool events) (.step b w) = S.run pool events)
      (hnext : (S.run pool events).next b = none) : O.Traced pool (events ++ [.step b w]) := by
    refine ⟨phase, by rw [hrun, happly]; exact h, fun hholds => ?_⟩
    refine (hsince hholds).extend (O.busy h.tracks hholds) hnocrash fun w' he q hq => ?_
    cases he
    rw [hnext] at hq
    cases hq
  rcases hp : (S.run pool events).proc b with _ | (_ | ⟨q, k⟩)
  · exact hidle (by simp [System.apply, hp]) (by simp [Pool.next, hp])
  · exact hidle (by simp [System.apply, hp]) (by simp [Pool.next, hp])
  · obtain ⟨g, g', hs, hg, hat, hk⟩ := h.at_step w hp
    obtain ⟨g₁, hs', h₁⟩ := hg.step hat hok hk
    refine ⟨_, by rw [hrun]; simpa [System.apply, hp] using h₁, fun hholds => ?_⟩
    by_cases hab : b = a
    · subst hab
      have hstep : (ref.protocol b).step g q (S.exec w q (S.run pool events).shared).1 g' := by
        simpa using hat.step
      have hholds' : O.Holds g' := O.slides hs' (by simpa using hholds)
      rcases O.step g q _ g' hstep hholds' with hmark | ⟨hheld, hbegins⟩
      · exact since_marked hat.next hmark
      · have hheld' := O.slides hs hheld
        refine (hsince hheld').extend (O.busy h.tracks hheld') hnocrash fun w' he q' hq' => ?_
        rw [hat.next] at hq'
        cases hq'
        exact hbegins
    · have hne : a ≠ b := fun heq => hab heq.symm
      exact hother hab (by simpa [hne] using hholds)

theorem traced (O : Origin D a) {s : σ} (hglobal : D.Global s)
    (hok : S.Along ok (.idle s) events) : O.Traced (.idle s) events := by
  induction events using List.reverseRecOn with
  | nil => exact ⟨_, ⟨Refinement.tracks_idle s, hglobal, fun b => D.between _ b hglobal⟩,
      fun h => absurd h O.between⟩
  | append_singleton events e ih =>
    obtain ⟨hevents, he, -⟩ := System.along_append.mp hok
    cases e with
    | start b t => exact (ih hevents).start b t
    | crash b => exact (ih hevents).crash b
    | step b w => exact (ih hevents).step b w he

/-- **The origin rule.**  Whenever the actor issues a statement in a phase of the kind, it has gone
    on since a marked statement. -/
theorem at_step (O : Origin D a) {s : σ} (hglobal : D.Global s)
    (hok : S.Along ok (.idle s) events) (w : W) {q : Q}
    (hq : (S.run (.idle s) events).next a = some q) :
    ∃ phase g', ref.At (S.run (.idle s) events) phase a w q g' ∧
      D.Local (S.run (.idle s) events).shared a (phase a) ∧
      (O.Holds (phase a) → Since S O.Mark O.Begins a (.idle s) events) := by
  obtain ⟨phase, h, hsince⟩ := O.traced hglobal hok
  rcases hp : (S.run (.idle s) events).proc a with _ | (_ | ⟨q', k⟩)
  · simp [Pool.next, hp] at hq
  · simp [Pool.next, hp] at hq
  · obtain rfl : q' = q := by simpa [Pool.next, hp] using hq
    obtain ⟨g, g', hs, hg, hat, -⟩ := h.at_step w hp
    refine ⟨_, g', hat, hg.each a, fun hholds => hsince (O.slides hs ?_)⟩
    simpa using hholds

end Origin

end Atomic
