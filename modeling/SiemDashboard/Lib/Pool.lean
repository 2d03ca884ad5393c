import Mathlib.Logic.Function.Basic
import SiemDashboard.Lib.Program

/-!
# Pools of concurrent programs

Any number of actors share one state.  Each actor runs at most one program at a time; the
scheduler interleaves their statements, starts tasks, and may crash an actor at any moment.

* **Runs** — `System`, `Pool`, `Event`, `System.apply`, `System.run`.
* **Properties of runs** — `System.Along`: every event of a run satisfies a condition;
  `System.EachStep`: every statement issued does.
* **Phases** — `Refinement`: every task keeps to its actor's protocol; `Tracks`: phases of the
  actors that explain a pool.
* **The invariant rule** — `Discipline`: a property of the shared state and one of each actor's
  phase that no allowed statement, of the actor or of another one, breaks; `Extension`: a further
  such property that relies on the first.
* **The obligation rule** — `Obligation.settles`: what an actor owes is done before it goes on.
-/

namespace Atomic

open Function (update)

variable {Q : Type} {R : Q → Type} {σ W A T G : Type}

/-- What the actors run on: the meaning of a statement, and the tasks an actor can be given. -/
structure System (σ W A T : Type) (R : Q → Type) where
  exec : Exec σ W R
  code : A → T → Option (Program R Unit)

/-- The shared state, and for every actor the rest of the program it is in the middle of. -/
structure Pool (σ A : Type) (R : Q → Type) where
  shared : σ
  proc : A → Option (Program R Unit)

/-- The shared state while nobody is doing anything. -/
def Pool.idle (s : σ) : Pool σ A R := ⟨s, fun _ => none⟩

/-- One move of the scheduler. -/
inductive Event (A T W : Type) where
  | start (a : A) (t : T)
  | step (a : A) (w : W)
  | crash (a : A)

/-- What is left to run: nothing when the program has returned. -/
def Program.rest : Program R Unit → Option (Program R Unit)
  | .done _ => none
  | p => some p

/-- The statement the actor issues next. -/
def Pool.next (pool : Pool σ A R) (a : A) : Option Q :=
  match pool.proc a with
  | some (.stmt q _) => some q
  | _ => none

namespace System

variable [DecidableEq A] (S : System σ W A T R)

/-- Perform one move of the scheduler.  A move that does not apply (a step of an idle actor, a task
    given to a busy one) changes nothing. -/
def apply (pool : Pool σ A R) : Event A T W → Pool σ A R
  | .start a t =>
    match pool.proc a, S.code a t with
    | none, some p => { pool with proc := update pool.proc a p.rest }
    | _, _ => pool
  | .step a w =>
    match pool.proc a with
    | some (.stmt q k) =>
      { shared := (S.exec w q pool.shared).2
        proc := update pool.proc a (k (S.exec w q pool.shared).1).rest }
    | _ => pool
  | .crash a => { pool with proc := update pool.proc a none }

/-- Perform the moves one after another. -/
def run (pool : Pool σ A R) (events : List (Event A T W)) : Pool σ A R :=
  events.foldl S.apply pool

@[simp] theorem run_nil (pool : Pool σ A R) : S.run pool [] = pool := rfl

@[simp] theorem run_cons (pool : Pool σ A R) (e : Event A T W) (events : List (Event A T W)) :
    S.run pool (e :: events) = S.run (S.apply pool e) events := rfl

theorem run_append (pool : Pool σ A R) (xs ys : List (Event A T W)) :
    S.run pool (xs ++ ys) = S.run (S.run pool xs) ys := by
  simp [run, List.foldl_append]

/-- Every event of the run satisfies `P` in the pool it happens in. -/
def Along (P : Pool σ A R → Event A T W → Prop) : Pool σ A R → List (Event A T W) → Prop
  | _, [] => True
  | pool, e :: events => P pool e ∧ Along P (S.apply pool e) events

variable {S}

theorem along_append {P : Pool σ A R → Event A T W → Prop} {pool : Pool σ A R}
    {xs ys : List (Event A T W)} :
    S.Along P pool (xs ++ ys) ↔ S.Along P pool xs ∧ S.Along P (S.run pool xs) ys := by
  induction xs generalizing pool with
  | nil => simp [Along]
  | cons e xs ih => simp [Along, ih, and_assoc]

instance Along.decidable {P : Pool σ A R → Event A T W → Prop} [∀ pool e, Decidable (P pool e)] :
    (pool : Pool σ A R) → (events : List (Event A T W)) → Decidable (S.Along P pool events)
  | _, [] => isTrue trivial
  | pool, e :: events =>
    @instDecidableAnd (P pool e) (S.Along P (S.apply pool e) events) inferInstance
      (Along.decidable (S.apply pool e) events)

theorem Along.imp {P P' : Pool σ A R → Event A T W → Prop} (h : ∀ pool e, P pool e → P' pool e)
    {pool : Pool σ A R} {events : List (Event A T W)} (hrun : S.Along P pool events) :
    S.Along P' pool events := by
  induction events generalizing pool with
  | nil => trivial
  | cons e events ih => exact ⟨h pool e hrun.1, ih hrun.2⟩

theorem along_of_forall {P : Pool σ A R → Event A T W → Prop} (h : ∀ pool e, P pool e)
    {pool : Pool σ A R} {events : List (Event A T W)} : S.Along P pool events := by
  induction events generalizing pool with
  | nil => trivial
  | cons e events ih => exact ⟨h _ _, ih⟩

end System

/-- A condition on the statements an event issues: a step issues one, the other events none. -/
def OnStep (P : Pool σ A R → A → W → Q → Prop) (pool : Pool σ A R) : Event A T W → Prop
  | .step a w => ∀ q ∈ pool.next a, P pool a w q
  | .start .. | .crash _ => True

instance OnStep.decidable {P : Pool σ A R → A → W → Q → Prop}
    [∀ pool a w q, Decidable (P pool a w q)] (pool : Pool σ A R) :
    (e : Event A T W) → Decidable (OnStep P pool e)
  | .step a w => inferInstanceAs (Decidable (∀ q ∈ pool.next a, P pool a w q))
  | .start .. | .crash _ => isTrue trivial

/-- Every statement issued in the run satisfies `P` where it is issued. -/
abbrev System.EachStep [DecidableEq A] (S : System σ W A T R)
    (P : Pool σ A R → A → W → Q → Prop) : Pool σ A R → List (Event A T W) → Prop :=
  S.Along (OnStep P)

/-! ## Phases -/

/-- Every task keeps to its actor's protocol, from the phase between tasks back to it. -/
structure Refinement (S : System σ W A T R) (G : Type) where
  protocol : A → Protocol R G
  between : G
  follows : ∀ a t p, S.code a t = some p →
    p.Follows (protocol a) (fun _ g => g = between) between

variable {S : System σ W A T R}

/-- The actors' phases explain the pool: an idle actor is between tasks, and a busy one follows its
    protocol from its phase on. -/
def Refinement.Tracks (ref : Refinement S G) (pool : Pool σ A R) (phase : A → G) : Prop :=
  ∀ a, match pool.proc a with
    | none => phase a = ref.between
    | some p => p.Follows (ref.protocol a) (fun _ g => g = ref.between) (phase a)

section Tracks

variable {ref : Refinement S G} {pool : Pool σ A R} {phase : A → G}

theorem Refinement.Tracks.idle (h : ref.Tracks pool phase) {a : A} (ha : pool.proc a = none) :
    phase a = ref.between := by
  have := h a
  rwa [ha] at this

theorem Refinement.Tracks.busy (h : ref.Tracks pool phase) {a : A} {p : Program R Unit}
    (ha : pool.proc a = some p) :
    p.Follows (ref.protocol a) (fun _ g => g = ref.between) (phase a) := by
  have := h a
  rwa [ha] at this

theorem Refinement.tracks_idle (s : σ) : ref.Tracks (.idle s) (fun _ => ref.between) :=
  fun _ => rfl

/-- Silent moves of one actor. -/
theorem Refinement.Tracks.slide [DecidableEq A] (h : ref.Tracks pool phase) {a : A} {g : G}
    (ha : ∀ p, pool.proc a = some p →
      p.Follows (ref.protocol a) (fun _ g => g = ref.between) g)
    (hidle : pool.proc a ≠ none) : ref.Tracks pool (update phase a g) := by
  intro b
  by_cases hb : b = a
  · subst hb
    cases hp : pool.proc b with
    | none => exact absurd hp hidle
    | some p => simpa using ha p hp
  · simpa [hb] using h b

/-- Giving one actor a new rest of program and a phase that explains it. -/
theorem Refinement.Tracks.set [DecidableEq A] (h : ref.Tracks pool phase) (s : σ) (a : A)
    {p : Program R Unit} {g : G}
    (hp : p.Follows (ref.protocol a) (fun _ g => g = ref.between) g) :
    ∃ g₁, (ref.protocol a).Slides g g₁ ∧
      ref.Tracks ⟨s, update pool.proc a p.rest⟩ (update phase a g₁) := by
  cases p with
  | done u =>
    obtain ⟨g₁, hs, rfl⟩ := hp
    refine ⟨_, hs, fun b => ?_⟩
    by_cases hb : b = a
    · subst hb
      simp [Program.rest]
    · simpa [hb] using h b
  | stmt q k =>
    refine ⟨g, .refl, fun b => ?_⟩
    by_cases hb : b = a
    · subst hb
      simpa [Program.rest] using hp
    · simpa [hb] using h b

theorem Refinement.Tracks.stop [DecidableEq A] (h : ref.Tracks pool phase) (a : A) :
    ref.Tracks ⟨pool.shared, update pool.proc a none⟩ (update phase a ref.between) := by
  intro b
  by_cases hb : b = a
  · subst hb
    simp
  · simpa [hb] using h b

end Tracks

/-! ## The invariant rule -/

section Rule

variable [DecidableEq A]

/-- The moment an actor issues a statement: its phase, the statement, and the phase after it. -/
structure Refinement.At (ref : Refinement S G) (pool : Pool σ A R) (phase : A → G) (a : A) (w : W)
    (q : Q) (g' : G) : Prop where
  tracks : ref.Tracks pool phase
  next : pool.next a = some q
  step : (ref.protocol a).step (phase a) q (S.exec w q pool.shared).1 g'

/-- What holds of the shared state and of each actor's phase throughout the runs whose events meet
    the condition `ok`. -/
structure Discipline (ref : Refinement S G) (ok : Pool σ A R → Event A T W → Prop) where
  Global : σ → Prop
  Local : σ → A → G → Prop
  between : ∀ s a, Global s → Local s a ref.between
  slide : ∀ s a g g', Global s → Local s a g → (ref.protocol a).silent g g' → Local s a g'
  step : ∀ pool phase a w q g', ref.At pool phase a w q g' → ok pool (.step a w) →
    Global pool.shared → (∀ b, Local pool.shared b (phase b)) →
    Global (S.exec w q pool.shared).2 ∧ Local (S.exec w q pool.shared).2 a g' ∧
      ∀ b, b ≠ a → Local (S.exec w q pool.shared).2 b (phase b)

namespace Discipline

variable {ref : Refinement S G} {ok : Pool σ A R → Event A T W → Prop}

variable (D : Discipline ref ok)

/-- A further property of the shared state and of the phases that no allowed statement breaks where
    the discipline holds. -/
structure Extension where
  Global : σ → Prop
  Local : σ → A → G → Prop
  between : ∀ s a, Global s → Local s a ref.between
  slide : ∀ s a g g', D.Local s a g → Global s → Local s a g → (ref.protocol a).silent g g' →
    Local s a g'
  step : ∀ pool phase a w q g', ref.At pool phase a w q g' → ok pool (.step a w) →
    D.Global pool.shared → (∀ b, D.Local pool.shared b (phase b)) →
    Global pool.shared → (∀ b, Local pool.shared b (phase b)) →
    Global (S.exec w q pool.shared).2 ∧ Local (S.exec w q pool.shared).2 a g' ∧
      ∀ b, b ≠ a → Local (S.exec w q pool.shared).2 b (phase b)

/-- A discipline together with an extension. -/
def extend (E : D.Extension) : Discipline ref ok where
  Global s := D.Global s ∧ E.Global s
  Local s a g := D.Local s a g ∧ E.Local s a g
  between s a h := ⟨D.between s a h.1, E.between s a h.2⟩
  slide s a g g' h hg hs := ⟨D.slide s a g g' h.1 hg.1 hs, E.slide s a g g' hg.1 h.2 hg.2 hs⟩
  step pool phase a w q g' hat hok h hall :=
    have h₁ := D.step pool phase a w q g' hat hok h.1 fun b => (hall b).1
    have h₂ := E.step pool phase a w q g' hat hok h.1 (fun b => (hall b).1) h.2
      fun b => (hall b).2
    ⟨⟨h₁.1, h₂.1⟩, ⟨h₁.2.1, h₂.2.1⟩, fun b hb => ⟨h₁.2.2 b hb, h₂.2.2 b hb⟩⟩

/-- The phases explain the pool and keep to the discipline. -/
structure Explains (pool : Pool σ A R) (phase : A → G) : Prop where
  tracks : ref.Tracks pool phase
  global : D.Global pool.shared
  each : ∀ a, D.Local pool.shared a (phase a)

/-- Some phases explain the pool and keep to the discipline. -/
def Holds (pool : Pool σ A R) : Prop := ∃ phase, D.Explains pool phase

variable {D} {pool : Pool σ A R} {phase : A → G}

omit [DecidableEq A] in
theorem holds_of_idle {s : σ} (hglobal : D.Global s) : D.Holds (.idle s) :=
  ⟨_, Refinement.tracks_idle s, hglobal, fun a => D.between _ a hglobal⟩

omit [DecidableEq A] in
theorem slides {s : σ} {a : A} {g g' : G} (hglobal : D.Global s) (h : D.Local s a g)
    (hs : (ref.protocol a).Slides g g') : D.Local s a g' := by
  induction hs with
  | refl => exact h
  | tail _ hstep ih => exact D.slide s a _ _ hglobal ih hstep

theorem Explains.update (h : D.Explains pool phase) {a : A} {g : G}
    (htracks : ref.Tracks pool (update phase a g)) (hg : D.Local pool.shared a g) :
    D.Explains pool (update phase a g) := by
  refine ⟨htracks, h.global, fun b => ?_⟩
  by_cases hb : b = a
  · subst hb
    simpa using hg
  · simpa [hb] using h.each b

/-- A busy actor's next statement, after the silent moves that come before it. -/
theorem Explains.at_step (h : D.Explains pool phase) {a : A} {q : Q} (w : W)
    {k : R q → Program R Unit} (hp : pool.proc a = some (.stmt q k)) :
    ∃ g g', (ref.protocol a).Slides (phase a) g ∧ D.Explains pool (Function.update phase a g) ∧
      ref.At pool (Function.update phase a g) a w q g' ∧
      (k (S.exec w q pool.shared).1).Follows (ref.protocol a) (fun _ g => g = ref.between) g' := by
  obtain ⟨g, hs, hk⟩ := h.tracks.busy hp
  obtain ⟨g', hstep, hr⟩ := hk (S.exec w q pool.shared).1
  have htracks : ref.Tracks pool (Function.update phase a g) := by
    refine h.tracks.slide (fun p hp' => ?_) (by simp [hp])
    rw [hp] at hp'
    cases hp'
    exact ⟨g, .refl, hk⟩
  refine ⟨g, g', hs, h.update htracks (slides h.global (h.each a) hs), ⟨htracks, ?_, ?_⟩, hr⟩
  · simp [Pool.next, hp]
  · simpa using hstep

/-- What one statement makes of a discipline's phases. -/
theorem Explains.step (h : D.Explains pool phase) {a : A} {w : W} {q : Q} {g' : G}
    {p : Program R Unit} (hat : ref.At pool phase a w q g') (hok : ok pool (.step a w))
    (hp : p.Follows (ref.protocol a) (fun _ g => g = ref.between) g') :
    ∃ g₁, (ref.protocol a).Slides g' g₁ ∧
      D.Explains ⟨(S.exec w q pool.shared).2, Function.update pool.proc a p.rest⟩
        (Function.update phase a g₁) := by
  obtain ⟨hglobal, hself, hothers⟩ := D.step pool phase a w q g' hat hok h.global h.each
  obtain ⟨g₁, hs, ht⟩ := h.tracks.set (S.exec w q pool.shared).2 a hp
  refine ⟨g₁, hs, ht, hglobal, fun b => ?_⟩
  by_cases hb : b = a
  · subst hb
    simpa using slides hglobal hself hs
  · simpa [hb] using hothers b hb

theorem holds_start (h : D.Holds pool) (a : A) (t : T) : D.Holds (S.apply pool (.start a t)) := by
  obtain ⟨phase, h⟩ := h
  cases hp : pool.proc a with
  | some p => exact ⟨phase, by simpa [System.apply, hp] using h⟩
  | none =>
    cases hc : S.code a t with
    | none => exact ⟨phase, by simpa [System.apply, hp, hc] using h⟩
    | some p =>
      obtain ⟨g₁, hs, ht⟩ := h.tracks.set pool.shared a (ref.follows a t p hc)
      refine ⟨Function.update phase a g₁, by simpa [System.apply, hp, hc] using ht, ?_, fun b => ?_⟩
      · simpa [System.apply, hp, hc] using h.global
      · simp only [System.apply, hp, hc]
        by_cases hb : b = a
        · subst hb
          simpa using slides h.global (D.between _ b h.global) hs
        · simpa [hb] using h.each b

theorem holds_crash (h : D.Holds pool) (a : A) : D.Holds (S.apply pool (.crash a)) := by
  obtain ⟨phase, h⟩ := h
  refine ⟨_, h.tracks.stop a, h.global, fun b => ?_⟩
  by_cases hb : b = a
  · subst hb
    simpa [System.apply] using D.between _ b h.global
  · simpa [System.apply, hb] using h.each b

theorem holds_step (h : D.Holds pool) (a : A) (w : W) (hok : ok pool (.step a w)) :
    D.Holds (S.apply pool (.step a w)) := by
  obtain ⟨phase, h⟩ := h
  rcases hp : pool.proc a with _ | (_ | ⟨q, k⟩)
  · exact ⟨phase, by simpa [System.apply, hp] using h⟩
  · exact ⟨phase, by simpa [System.apply, hp] using h⟩
  · obtain ⟨g, g', -, hg, hat, hk⟩ := h.at_step w hp
    obtain ⟨g₁, -, h₁⟩ := hg.step hat hok hk
    exact ⟨_, by simpa [System.apply, hp] using h₁⟩

theorem holds_apply (h : D.Holds pool) (e : Event A T W) (hok : ok pool e) :
    D.Holds (S.apply pool e) := by
  cases e with
  | start a t => exact holds_start h a t
  | step a w => exact holds_step h a w hok
  | crash a => exact holds_crash h a

/-- After every run whose events meet the condition, the discipline holds. -/
theorem holds_run (h : D.Holds pool) {events : List (Event A T W)}
    (hok : S.Along ok pool events) : D.Holds (S.run pool events) := by
  induction events generalizing pool with
  | nil => exact h
  | cons e events ih => exact ih (holds_apply h e hok.1) hok.2

end Discipline

namespace Discipline

variable {ref : Refinement S G} {ok : Pool σ A R → Event A T W → Prop} {D : Discipline ref ok}
  {pool : Pool σ A R}

/-- The moment of the next statement of an actor. -/
theorem Holds.at_step (h : D.Holds pool) {a : A} (w : W) {q : Q} (hq : pool.next a = some q) :
    ∃ phase g', ref.At pool phase a w q g' ∧ D.Global pool.shared ∧
      ∀ b, D.Local pool.shared b (phase b) := by
  obtain ⟨phase, h⟩ := h
  rcases hp : pool.proc a with _ | (_ | ⟨q', k⟩)
  · simp [Pool.next, hp] at hq
  · simp [Pool.next, hp] at hq
  · obtain rfl : q' = q := by simpa [Pool.next, hp] using hq
    obtain ⟨g, g', -, hg, hat, -⟩ := h.at_step w hp
    exact ⟨_, g', hat, hg.global, hg.each⟩

/-- What every statement guarantees where the discipline holds, every statement of a run from idle
    actors does. -/
theorem eachStep (D : Discipline ref ok) {P : Pool σ A R → A → W → Q → Prop}
    (hstep : ∀ pool phase a w q g', ref.At pool phase a w q g' → ok pool (.step a w) →
      D.Global pool.shared → (∀ b, D.Local pool.shared b (phase b)) → P pool a w q)
    {s : σ} (hglobal : D.Global s) {events : List (Event A T W)}
    (hok : S.Along ok (.idle s) events) : S.EachStep P (.idle s) events := by
  have hholds : D.Holds (.idle s) := holds_of_idle hglobal
  clear hglobal
  generalize Pool.idle s = pool at hok hholds ⊢
  induction events generalizing pool with
  | nil => trivial
  | cons e events ih =>
    refine ⟨?_, ih _ hok.2 (holds_apply hholds e hok.1)⟩
    cases e with
    | start a t => trivial
    | crash a => trivial
    | step a w =>
      intro q hq
      obtain ⟨phase, g', hat, hglobal, heach⟩ := hholds.at_step w hq
      exact hstep pool phase a w q g' hat hok.1 hglobal heach

end Discipline

theorem System.EachStep.drop {S : System σ W A T R} {P : Pool σ A R → A → W → Q → Prop}
    {pool : Pool σ A R} {xs ys : List (Event A T W)} (h : S.EachStep P pool (xs ++ ys)) :
    S.EachStep P (S.run pool xs) ys :=
  (System.along_append.mp h).2

/-- A preorder that every statement of a run respects relates the states before and after. -/
theorem System.EachStep.preorder {S : System σ W A T R} (le : σ → σ → Prop) (hrefl : ∀ s, le s s)
    (htrans : ∀ s₁ s₂ s₃, le s₁ s₂ → le s₂ s₃ → le s₁ s₃) {pool : Pool σ A R}
    {events : List (Event A T W)}
    (h : S.EachStep (fun pool _ w q => le pool.shared (S.exec w q pool.shared).2) pool events) :
    le pool.shared (S.run pool events).shared := by
  induction events generalizing pool with
  | nil => exact hrefl _
  | cons e events ih =>
    refine htrans _ _ _ ?_ (ih h.2)
    cases e with
    | start a t =>
      simp only [System.apply]
      split <;> exact hrefl _
    | crash a => exact hrefl _
    | step a w =>
      simp only [System.apply]
      split
      · next q k hp => exact h.1 q (by simp [Pool.next, hp])
      · exact hrefl _

/-! ## The obligation rule -/

/-- An actor that owes something until it is done: `Owes` is what it owes in a phase, `Done` what
    the shared state is like once nothing is owed, and `Due` are the only statements the actor may
    issue meanwhile. -/
structure Obligation {ref : Refinement S G} {ok : Pool σ A R → Event A T W → Prop}
    (D : Discipline ref ok) (a : A) where
  Done : σ → Prop
  Owes : σ → G → Prop
  Due : Q → Prop
  between : ∀ s, ¬ Owes s ref.between
  slide : ∀ s g g', Owes s g → (ref.protocol a).silent g g' → Done s ∨ Owes s g'
  keeps : ∀ w q s, Done s → Done (S.exec w q s).2
  frame : ∀ w q s g, D.Global s → Owes s g → Owes (S.exec w q s).2 g
  step : ∀ w q s g g', D.Global s → Owes s g →
    (ref.protocol a).step g q (S.exec w q s).1 g' →
    Due q ∧ (Done (S.exec w q s).2 ∨ Owes (S.exec w q s).2 g')

namespace Obligation

variable {ref : Refinement S G} {ok : Pool σ A R → Event A T W → Prop} {D : Discipline ref ok}
  {a : A} {pool : Pool σ A R}

omit [DecidableEq A] in
theorem slides (O : Obligation D a) {s : σ} {g g' : G} (h : O.Owes s g)
    (hs : (ref.protocol a).Slides g g') : O.Done s ∨ O.Owes s g' := by
  induction hs with
  | refl => exact .inr h
  | tail _ hstep ih =>
    rcases ih with hdone | howes
    · exact .inl hdone
    · exact O.slide s _ _ howes hstep

theorem done_apply (O : Obligation D a) (h : O.Done pool.shared) (e : Event A T W) :
    O.Done (S.apply pool e).shared := by
  cases e with
  | start b t =>
    simp only [System.apply]
    split <;> exact h
  | crash b => exact h
  | step b w =>
    simp only [System.apply]
    split
    · exact O.keeps _ _ _ h
    · exact h

/-- The actor's phase owes something, and the discipline holds. -/
def Pending (O : Obligation D a) (pool : Pool σ A R) : Prop :=
  ∃ phase, D.Explains pool phase ∧ O.Owes pool.shared (phase a)

omit [DecidableEq A] in
theorem Pending.busy {O : Obligation D a} (h : O.Pending pool) : pool.proc a ≠ none := by
  obtain ⟨phase, h, howes⟩ := h
  intro hidle
  rw [h.tracks.idle hidle] at howes
  exact O.between _ howes

theorem Pending.start {O : Obligation D a} (h : O.Pending pool) (b : A) (t : T) :
    O.Pending (S.apply pool (.start b t)) := by
  have hbusy := h.busy
  obtain ⟨phase, h, howes⟩ := h
  cases hp : pool.proc b with
  | some p => exact ⟨phase, by simpa [System.apply, hp] using ⟨h, howes⟩⟩
  | none =>
    cases hc : S.code b t with
    | none => exact ⟨phase, by simpa [System.apply, hp, hc] using ⟨h, howes⟩⟩
    | some p =>
      have hb : a ≠ b := by
        rintro rfl
        exact hbusy hp
      obtain ⟨g₁, hs, ht⟩ := h.tracks.set pool.shared b (ref.follows b t p hc)
      simp only [System.apply, hp, hc]
      refine ⟨update phase b g₁, ⟨ht, h.global, fun c => ?_⟩, by simpa [hb] using howes⟩
      by_cases hcb : c = b
      · subst hcb
        simpa using Discipline.slides h.global (D.between _ c h.global) hs
      · simpa [hcb] using h.each c

theorem Pending.crash {O : Obligation D a} (h : O.Pending pool) {b : A} (hb : b ≠ a) :
    O.Pending (S.apply pool (.crash b)) := by
  obtain ⟨phase, h, howes⟩ := h
  refine ⟨update phase b ref.between, ⟨h.tracks.stop b, h.global, fun c => ?_⟩,
    by simpa [System.apply, hb.symm] using howes⟩
  by_cases hcb : c = b
  · subst hcb
    simpa [System.apply] using D.between _ c h.global
  · simpa [System.apply, hcb] using h.each c

theorem Pending.step {O : Obligation D a} (h : O.Pending pool) (b : A) (w : W)
    (hok : ok pool (.step b w)) :
    O.Done (S.apply pool (.step b w)).shared ∨ O.Pending (S.apply pool (.step b w)) := by
  obtain ⟨phase, h, howes⟩ := h
  rcases hp : pool.proc b with _ | (_ | ⟨q, k⟩)
  · exact .inr ⟨phase, by simpa [System.apply, hp] using ⟨h, howes⟩⟩
  · exact .inr ⟨phase, by simpa [System.apply, hp] using ⟨h, howes⟩⟩
  · obtain ⟨g, g', hs, hg, hat, hk⟩ := h.at_step w hp
    obtain ⟨g₁, hs', h₁⟩ := hg.step hat hok hk
    simp only [System.apply, hp]
    by_cases hb : b = a
    · subst hb
      rcases O.slides howes hs with hdone | howes
      · exact .inl (O.keeps _ _ _ hdone)
      · have hstep : (ref.protocol b).step g q (S.exec w q pool.shared).1 g' := by
          simpa using hat.step
        rcases (O.step w q pool.shared g g' h.global howes hstep).2 with hdone | howes
        · exact .inl hdone
        · rcases O.slides howes hs' with hdone | howes
          · exact .inl hdone
          · exact .inr ⟨_, h₁, by simpa using howes⟩
    · have hne : a ≠ b := fun heq => hb heq.symm
      refine .inr ⟨_, h₁, ?_⟩
      simpa [hne] using O.frame w q pool.shared (phase a) h.global howes

/-- What an actor comes to owe by a statement. -/
theorem arises (O : Obligation D a) (h : D.Holds pool) (w : W) {q : Q}
    (hq : pool.next a = some q) (hok : ok pool (.step a w))
    (howes : ∀ phase g', ref.At pool phase a w q g' → D.Global pool.shared →
      D.Local pool.shared a (phase a) → O.Owes (S.exec w q pool.shared).2 g') :
    O.Done (S.apply pool (.step a w)).shared ∨ O.Pending (S.apply pool (.step a w)) := by
  obtain ⟨phase, h⟩ := h
  rcases hp : pool.proc a with _ | (_ | ⟨q', k⟩)
  · simp [Pool.next, hp] at hq
  · simp [Pool.next, hp] at hq
  · obtain rfl : q' = q := by simpa [Pool.next, hp] using hq
    obtain ⟨g, g', -, hg, hat, hk⟩ := h.at_step w hp
    obtain ⟨g₁, hs, h₁⟩ := hg.step hat hok hk
    simp only [System.apply, hp]
    rcases O.slides (howes _ g' hat hg.global (hg.each a)) hs with hdone | howes
    · exact .inl hdone
    · exact .inr ⟨_, h₁, by simpa using howes⟩

/-- An actor that is not about to issue a statement that is due owes nothing. -/
theorem Pending.settled {O : Obligation D a} (h : O.Pending pool) (w : W)
    (hend : ∀ q, pool.next a = some q → ¬ O.Due q) : O.Done pool.shared := by
  have hbusy := h.busy
  obtain ⟨phase, h, howes⟩ := h
  rcases hp : pool.proc a with _ | (_ | ⟨q, k⟩)
  · exact absurd hp hbusy
  · obtain ⟨g, hs, rfl⟩ := h.tracks.busy hp
    exact (O.slides howes hs).resolve_right (O.between _)
  · obtain ⟨g, g', hs, hg, hat, -⟩ := h.at_step w hp
    rcases O.slides howes hs with hdone | howes
    · exact hdone
    · have hstep : (ref.protocol a).step g q (S.exec w q pool.shared).1 g' := by
        simpa using hat.step
      exact absurd (O.step w q pool.shared g g' h.global howes hstep).1
        (hend q (by simp [Pool.next, hp]))

/-- What an actor owes is done by the time it is about to issue any statement that is not due, or
    none, unless it crashed. -/
theorem settles (O : Obligation D a) (h : O.Done pool.shared ∨ O.Pending pool)
    {events : List (Event A T W)} (hok : S.Along ok pool events) (hcrash : .crash a ∉ events)
    (w : W) (hend : ∀ q, (S.run pool events).next a = some q → ¬ O.Due q) :
    O.Done (S.run pool events).shared := by
  induction events generalizing pool with
  | nil =>
    rcases h with hdone | hpending
    · exact hdone
    · exact hpending.settled w hend
  | cons e events ih =>
    rw [List.mem_cons, not_or] at hcrash
    obtain ⟨he, hevents⟩ := hcrash
    refine ih ?_ hok.2 hevents hend
    rcases h with hdone | hpending
    · exact .inl (O.done_apply hdone e)
    · cases e with
      | start b t => exact .inr (hpending.start b t)
      | crash b => exact .inr (hpending.crash fun hb => he (by rw [hb]))
      | step b w => exact hpending.step b w hok.1

end Obligation

end Rule

end Atomic
