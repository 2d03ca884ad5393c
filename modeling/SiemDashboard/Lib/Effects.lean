import Mathlib.Logic.Relation

/-!
# Programs that change a state and may raise

What a program has written before it raises stays written: whether it is kept is up to who runs the
program.

* **Programs** — `Effect`, `raise`, `ofExcept`, `read`, `change`.
* **Reading** — `Reads`: a program that changes nothing, and what its result says of the state.
* **Steps** — `Steps`: a program that goes from state to state by steps of a relation, whatever it
  returns or raises.
-/

namespace Effects

/-- A program over a state. -/
def Effect (σ ε α : Type) : Type := σ → Except ε α × σ

variable {σ ε α β : Type}

instance : Monad (Effect σ ε) where
  pure a := fun s => (.ok a, s)
  bind p k := fun s =>
    match p s with
    | (.ok a, s') => k a s'
    | (.error e, s') => (.error e, s')

theorem pure_apply (a : α) (s : σ) : (pure a : Effect σ ε α) s = (.ok a, s) := rfl

theorem bind_of_ok {p : Effect σ ε α} {k : α → Effect σ ε β} {s s' : σ} {a : α}
    (h : p s = (.ok a, s')) : (p >>= k) s = k a s' := by
  show (match p s with
    | (.ok a, s') => k a s'
    | (.error e, s') => (.error e, s')) = _
  rw [h]

theorem bind_of_error {p : Effect σ ε α} {k : α → Effect σ ε β} {s s' : σ} {e : ε}
    (h : p s = (.error e, s')) : (p >>= k) s = (.error e, s') := by
  show (match p s with
    | (.ok a, s') => k a s'
    | (.error e, s') => (.error e, s')) = _
  rw [h]

/-- What follows a program returns just where the program has returned. -/
theorem bind_eq_ok {p : Effect σ ε α} {k : α → Effect σ ε β} {s s'' : σ} {b : β} :
    (p >>= k) s = (.ok b, s'') ↔ ∃ a s', p s = (.ok a, s') ∧ k a s' = (.ok b, s'') := by
  rcases hrun : p s with ⟨e | a, s'⟩
  · rw [bind_of_error hrun]
    constructor
    · intro h
      cases h
    · rintro ⟨a, s', h, -⟩
      cases h
  · rw [bind_of_ok hrun]
    constructor
    · intro h
      exact ⟨a, s', rfl, h⟩
    · rintro ⟨a', s₁, h, hk⟩
      cases h
      exact hk

def raise (e : ε) : Effect σ ε α := fun s => (.error e, s)

/-- What has been computed already, or is raised. -/
def ofExcept (r : Except ε α) : Effect σ ε α := fun s => (r, s)

/-- Look at the state. -/
def read (f : σ → α) : Effect σ ε α := fun s => (.ok (f s), s)

/-- Change the state. -/
def change (f : σ → α × σ) : Effect σ ε α := fun s => (.ok (f s).1, (f s).2)

theorem read_bind (f : σ → α) (k : α → Effect σ ε β) (s : σ) :
    (read f >>= k) s = k (f s) s := rfl

theorem ofExcept_bind {r : Except ε α} {a : α} (h : r = .ok a) (k : α → Effect σ ε β) (s : σ) :
    (ofExcept r >>= k) s = k a s := by
  rw [h]
  rfl

theorem map_of_ok {p : Effect σ ε α} {f : α → β} {s s' : σ} {a : α} (h : p s = (.ok a, s')) :
    (f <$> p) s = (.ok (f a), s') := by
  exact bind_of_ok h

/-- Raise where a condition holds. -/
def raiseIf (condition : Bool) (e : ε) : Effect σ ε Unit :=
  fun s => (if condition then .error e else .ok (), s)

theorem raiseIf_bind {condition : Bool} (h : condition = false) (e : ε) (k : Unit → Effect σ ε β)
    (s : σ) : (raiseIf condition e >>= k) s = k () s := by
  rw [h]
  rfl

/-- Run a program on a value that may be missing. -/
def optionally (value : Option α) (p : α → Effect σ ε β) : Effect σ ε (Option β) :=
  match value with
  | none => pure none
  | some a => some <$> p a

theorem optionally_none (p : α → Effect σ ε β) (s : σ) :
    optionally none p s = (.ok none, s) := rfl

theorem optionally_of_ok {p : α → Effect σ ε β} {a : α} {b : β} {s s' : σ}
    (h : p a s = (.ok b, s')) : optionally (some a) p s = (.ok (some b), s') :=
  map_of_ok h

/-- What is run on a value that is there has returned. -/
theorem optionally_eq_ok {value : Option α} {p : α → Effect σ ε β} {b : Option β} {s s' : σ} :
    optionally value p s = (.ok b, s') ↔
      (value = none ∧ b = none ∧ s' = s) ∨
        ∃ a c, value = some a ∧ b = some c ∧ p a s = (.ok c, s') := by
  cases value with
  | none =>
    rw [optionally_none]
    constructor
    · intro h
      cases h
      exact .inl ⟨rfl, rfl, rfl⟩
    · rintro (⟨-, rfl, rfl⟩ | ⟨a, c, h, -⟩)
      · rfl
      · cases h
  | some a =>
    constructor
    · intro h
      obtain ⟨c, s₁, hp, h⟩ := bind_eq_ok.mp h
      cases h
      exact .inr ⟨a, c, rfl, rfl, hp⟩
    · rintro (⟨h, -⟩ | ⟨_, c, h, rfl, hp⟩)
      · cases h
      · cases h
        exact optionally_of_ok hp

/-! ## Reading -/

/-- The program changes nothing, and its result is as the relation says. -/
def Reads (p : Effect σ ε α) (F : σ → α → Prop) : Prop :=
  ∀ s, (p s).2 = s ∧ ∀ a, (p s).1 = .ok a → F s a

section Reads

variable {p : Effect σ ε α} {F : σ → α → Prop}

theorem Reads.pure {a : α} (h : ∀ s, F s a) : Reads (Pure.pure a : Effect σ ε α) F :=
  fun s => ⟨rfl, fun b hb => by cases hb; exact h s⟩

theorem Reads.raise (e : ε) : Reads (Effects.raise e : Effect σ ε α) F :=
  fun _ => ⟨rfl, fun _ h => by cases h⟩

theorem Reads.ofExcept {r : Except ε α} (h : ∀ s a, r = .ok a → F s a) :
    Reads (Effects.ofExcept r : Effect σ ε α) F :=
  fun s => ⟨rfl, fun a ha => h s a ha⟩

theorem Reads.read {f : σ → α} (h : ∀ s, F s (f s)) : Reads (Effects.read f : Effect σ ε α) F :=
  fun s => ⟨rfl, fun a ha => by cases ha; exact h s⟩

theorem Reads.imp {G : σ → α → Prop} (h : Reads p F) (himp : ∀ s a, F s a → G s a) : Reads p G :=
  fun s => ⟨(h s).1, fun a ha => himp s a ((h s).2 a ha)⟩

theorem Reads.raiseIf {condition : Bool} {e : ε} {F : σ → Unit → Prop}
    (h : ∀ s, condition = false → F s ()) : Reads (Effects.raiseIf condition e : Effect σ ε Unit) F := by
  refine fun s => ⟨rfl, fun a ha => h s ?_⟩
  cases condition with
  | false => rfl
  | true => cases ha

/-- One reading program after another. -/
theorem Reads.bind {k : α → Effect σ ε β} {G : σ → β → Prop} (hp : Reads p F)
    (hk : ∀ a, Reads (k a) fun s b => F s a → G s b) : Reads (p >>= k) G := by
  intro s
  obtain ⟨hs, hF⟩ := hp s
  rcases hrun : p s with ⟨e | a, s'⟩
  · rw [hrun] at hs
    rw [bind_of_error hrun]
    exact ⟨hs, fun b hb => by cases hb⟩
  · rw [hrun] at hs hF
    obtain rfl : s' = s := hs
    rw [bind_of_ok hrun]
    exact ⟨(hk a s').1, fun b hb => (hk a s').2 b hb (hF a rfl)⟩

theorem Reads.optionally {value : Option β} {p : β → Effect σ ε α} {F : β → σ → α → Prop}
    (h : ∀ b, Reads (p b) (F b)) :
    Reads (Effects.optionally value p) fun s r =>
      (value = none ∧ r = none) ∨ ∃ b a, value = some b ∧ r = some a ∧ F b s a := by
  cases value with
  | none => exact Reads.pure fun s => .inl ⟨rfl, rfl⟩
  | some b =>
    refine Reads.bind (h b) fun a => Reads.pure fun s hF => .inr ⟨b, a, rfl, rfl, hF⟩

end Reads

/-! ## Steps -/

/-- From a state with the first property the program goes by steps of the relation, and what it returns
    has the second. -/
def Steps (R : σ → σ → Prop) (P : σ → Prop) (p : Effect σ ε α) (Q : α → σ → Prop) : Prop :=
  ∀ s, P s → Relation.ReflTransGen R s (p s).2 ∧ ∀ a, (p s).1 = .ok a → Q a (p s).2

section Steps

variable {R : σ → σ → Prop} {P : σ → Prop} {p : Effect σ ε α} {Q : α → σ → Prop}

theorem Steps.pure {a : α} (h : ∀ s, P s → Q a s) : Steps R P (Pure.pure a : Effect σ ε α) Q :=
  fun s hs => ⟨.refl, fun b hb => by cases hb; exact h s hs⟩

theorem Steps.raise (e : ε) : Steps R P (Effects.raise e : Effect σ ε α) Q :=
  fun _ _ => ⟨.refl, fun _ h => by cases h⟩

theorem Steps.change {f : σ → α × σ} (hstep : ∀ s, P s → R s (f s).2)
    (h : ∀ s, P s → Q (f s).1 (f s).2) : Steps R P (Effects.change f : Effect σ ε α) Q :=
  fun s hs => ⟨.single (hstep s hs), fun a ha => by cases ha; exact h s hs⟩

theorem Steps.imp {P' : σ → Prop} {Q' : α → σ → Prop} (h : Steps R P p Q)
    (hP : ∀ s, P' s → P s) (hQ : ∀ a s, Q a s → Q' a s) : Steps R P' p Q' :=
  fun s hs => ⟨(h s (hP s hs)).1, fun a ha => hQ a _ ((h s (hP s hs)).2 a ha)⟩

/-- A program that only reads takes no step. -/
theorem Steps.of_reads {F : σ → α → Prop} (hp : Reads p F) (h : ∀ s a, P s → F s a → Q a s) :
    Steps R P p Q := by
  intro s hs
  obtain ⟨hsame, hF⟩ := hp s
  rw [hsame]
  exact ⟨.refl, fun a ha => h s a hs (hF a ha)⟩

theorem Steps.bind {k : α → Effect σ ε β} {S : β → σ → Prop} (hp : Steps R P p Q)
    (hk : ∀ a, Steps R (Q a) (k a) S) : Steps R P (p >>= k) S := by
  intro s hs
  obtain ⟨hsteps, hQ⟩ := hp s hs
  rcases hrun : p s with ⟨e | a, s'⟩
  · rw [hrun] at hsteps
    rw [bind_of_error hrun]
    exact ⟨hsteps, fun b hb => by cases hb⟩
  · rw [hrun] at hsteps hQ
    rw [bind_of_ok hrun]
    obtain ⟨hrest, hS⟩ := hk a s' (hQ a rfl)
    exact ⟨hsteps.trans hrest, hS⟩

/-- What is read holds in what follows. -/
theorem Steps.read_bind {F : σ → α → Prop} {k : α → Effect σ ε β} {S : β → σ → Prop}
    (hp : Reads p F) (hk : ∀ a, Steps R (fun s => P s ∧ F s a) (k a) S) :
    Steps R P (p >>= k) S :=
  Steps.bind (Steps.of_reads hp fun _ _ hP hF => ⟨hP, hF⟩) hk

/-- What every step of the relation keeps, the program keeps. -/
theorem Steps.keep {Inv : σ → Prop} (hR : ∀ s s', R s s' → Inv s → Inv s') (hP : ∀ s, P s → Inv s)
    (h : Steps R P p Q) : Steps R P p fun a s => Inv s ∧ Q a s := by
  intro s hs
  obtain ⟨hsteps, hQ⟩ := h s hs
  have hinv {s' : σ} (hsteps : Relation.ReflTransGen R s s') : Inv s' := by
    induction hsteps with
    | refl => exact hP s hs
    | tail _ hstep ih => exact hR _ _ hstep ih
  exact ⟨hsteps, fun a ha => ⟨hinv hsteps, hQ a ha⟩⟩

/-- What holds of no particular state may be used in the program. -/
theorem Steps.given {fact : Prop} (hfact : ∀ s, P s → fact) (h : fact → Steps R P p Q) :
    Steps R P p Q :=
  fun s hs => h (hfact s hs) s hs

/-- A loop whose body keeps a property. -/
theorem Steps.forM {γ : Type} {body : γ → Effect σ ε PUnit} {items : List γ}
    (hbody : ∀ item ∈ items, Steps R P (body item) fun _ => P) :
    Steps R P (items.forM body) fun _ => P := by
  induction items with
  | nil => exact Steps.pure fun _ hs => hs
  | cons item items ih =>
    refine Steps.bind (hbody item List.mem_cons_self) fun _ => ?_
    exact ih fun other hother => hbody other (List.mem_cons_of_mem _ hother)

end Steps

end Effects
