import Mathlib.Logic.Relation

/-!
# Programs over atomic statements

A program issues atomic statements one after another and goes on with the answer to each.  The
file holds what is needed to reason about such programs independently of what the statements
are:

* **Syntax** — `Program`, its monad, and `call`.
* **Sequential meaning** — `Program.Runs` (every possible run against a state, the outside world
  answering freely) and the executable `Program.runWith`.
* **Statements issued** — `Program.Issues`, for the parts of a program whose order does not matter.
* **Protocols** — a `Protocol` says which statements may be issued in which phase, and
  `Program.Follows` that a program keeps to it whatever the answers are.  The rules `follows_*`
  follow the program's text.
* **Programs that may raise** — the rules for programs in `ExceptT`.
* **Traces** — `Program.Performs`, with the answers along a run; `Program.respond`.
* **Notes** — `Program.Notes`, and `Program.Writes` for programs that may raise: what is noted of
  the trace of a run.
* **Translation** — `Program.through`: a program whose statements are programs of other ones.
-/

namespace Atomic

variable {Q : Type} {R : Q → Type} {α β γ : Type}

/-- A program that issues statements `q : Q`, each answered by an `R q`, and returns an `α`. -/
inductive Program (R : Q → Type) (α : Type) : Type where
  | done (a : α)
  | stmt (q : Q) (k : R q → Program R α)

namespace Program

/-- Run `p`, then `f` on what it returns. -/
def bind : Program R α → (α → Program R β) → Program R β
  | done a, f => f a
  | stmt q k, f => stmt q fun r => (k r).bind f

instance : Monad (Program R) where
  pure := done
  bind := bind

@[simp] theorem pure_eq_done (a : α) : (pure a : Program R α) = done a := rfl

@[simp] theorem done_bind (a : α) (f : α → Program R β) : (done a >>= f) = f a := rfl

@[simp] theorem stmt_bind (q : Q) (k : R q → Program R α) (f : α → Program R β) :
    (stmt q k >>= f) = stmt q fun r => k r >>= f := rfl

theorem bind_done (p : Program R α) : p >>= done = p := by
  induction p with
  | done a => rfl
  | stmt q k ih =>
    rw [stmt_bind]
    congr 1
    funext r
    exact ih r

theorem bind_assoc (p : Program R α) (f : α → Program R β) (g : β → Program R γ) :
    (p >>= f) >>= g = p >>= fun a => f a >>= g := by
  induction p with
  | done a => rfl
  | stmt q k ih =>
    simp only [stmt_bind]
    congr 1
    funext r
    exact ih r

instance : LawfulMonad (Program R) :=
  LawfulMonad.mk' (Program R) bind_done (fun _ _ => rfl) bind_assoc

end Program

/-- Issue one statement and return its answer. -/
def call (q : Q) : Program R (R q) := .stmt q .done

/-- A program whose result is not needed. -/
def Program.discard (p : Program R α) : Program R Unit := p >>= fun _ => .done ()

@[simp] theorem call_bind (q : Q) (f : R q → Program R β) :
    (call q >>= f) = .stmt q f := rfl

/-! ## Sequential runs -/

section Runs

variable {σ W : Type}

/-- `exec w q s` is the answer and the state after the statement `q` in the state `s`, where `w`
    is how the world outside the state answers at that moment. -/
abbrev Exec (σ W : Type) (R : Q → Type) := W → (q : Q) → σ → R q × σ

namespace Program

/-- `p.Runs exec s a s'`: alone on the state `s`, `p` can return `a` and leave `s'`.  The world
    is chosen afresh at every statement. -/
def Runs (exec : Exec σ W R) : Program R α → σ → α → σ → Prop
  | done a, s, b, s' => b = a ∧ s' = s
  | stmt q k, s, b, s' => ∃ w, (k (exec w q s).1).Runs exec (exec w q s).2 b s'

variable {exec : Exec σ W R}

@[simp] theorem runs_done {a b : α} {s s' : σ} :
    (done a : Program R α).Runs exec s b s' ↔ b = a ∧ s' = s := Iff.rfl

/-- The run in which the world answers as `w` throughout. -/
def runWith (exec : Exec σ W R) (w : W) : Program R α → σ → α × σ
  | done a, s => (a, s)
  | stmt q k, s => (k (exec w q s).1).runWith exec w (exec w q s).2

end Program

end Runs

/-! ## Statements issued -/

namespace Program

/-- The program issues only statements with `P`, whatever the answers are, and returns a value with
    `Post`. -/
def Issues (P : Q → Prop) (Post : α → Prop) : Program R α → Prop
  | done a => Post a
  | stmt q k => P q ∧ ∀ r, (k r).Issues P Post

variable {P : Q → Prop} {Post : α → Prop}

theorem issues_done {a : α} (h : Post a) : (done a : Program R α).Issues P Post := h

theorem issues_pure {a : α} (h : Post a) : (pure a : Program R α).Issues P Post := h

theorem issues_bind {p : Program R α} {f : α → Program R β} {Mid : α → Prop} {Post : β → Prop}
    (hp : p.Issues P Mid) (hf : ∀ a, Mid a → (f a).Issues P Post) : (p >>= f).Issues P Post := by
  induction p with
  | done a => exact hf a hp
  | stmt q k ih => exact ⟨hp.1, fun r => ih r (hp.2 r)⟩

theorem issues_call {q : Q} {Post : R q → Prop} (hq : P q) (hpost : ∀ r, Post r) :
    (call q : Program R (R q)).Issues P Post :=
  ⟨hq, hpost⟩

/-- One statement, then the rest. -/
theorem issues_call_bind {q : Q} {f : R q → Program R β} {Post : β → Prop} (hq : P q)
    (hf : ∀ r, (f r).Issues P Post) : (call q >>= f).Issues P Post :=
  ⟨hq, hf⟩

/-- A program issues statements, and returns. -/
theorem issues_true (p : Program R α) : p.Issues (fun _ => True) fun _ => True := by
  induction p with
  | done a => exact trivial
  | stmt q k ih => exact ⟨trivial, ih⟩

theorem Issues.and {p : Program R α} {P' : Q → Prop} {Post' : α → Prop} (hp : p.Issues P Post)
    (hp' : p.Issues P' Post') : p.Issues P fun a => Post a ∧ Post' a := by
  induction p with
  | done a => exact ⟨hp, hp'⟩
  | stmt q k ih => exact ⟨hp.1, fun r => ih r (hp.2 r) (hp'.2 r)⟩

end Program

/-! ## Protocols -/

/-- A protocol over the phases `G`: which phase may follow when a statement is issued in a phase
    and answered, and which moves between phases go with no statement at all.  A statement that no
    phase can follow is not allowed. -/
structure Protocol (R : Q → Type) (G : Type) where
  silent : G → G → Prop
  step : G → (q : Q) → R q → G → Prop

variable {G : Type}

/-- Some silent moves lead from one phase to the other. -/
abbrev Protocol.Slides (M : Protocol R G) : G → G → Prop := Relation.ReflTransGen M.silent

namespace Program

/-- Started in a phase, the program issues only statements the protocol allows, whatever answers it
    gets, and returns with `Post`. -/
def Follows (M : Protocol R G) (Post : α → G → Prop) : Program R α → G → Prop
  | done a, g => ∃ g₁, M.Slides g g₁ ∧ Post a g₁
  | stmt q k, g => ∃ g₁, M.Slides g g₁ ∧ ∀ r, ∃ g', M.step g₁ q r g' ∧ (k r).Follows M Post g'

variable {M : Protocol R G} {Post : α → G → Prop}

theorem follows_done {a : α} {g : G} (h : Post a g) : (done a : Program R α).Follows M Post g :=
  ⟨g, .refl, h⟩

theorem follows_pure {a : α} {g : G} (h : Post a g) : (pure a : Program R α).Follows M Post g :=
  ⟨g, .refl, h⟩

/-- Silent moves may come first. -/
theorem Follows.slide {p : Program R α} {g g₁ : G} (hs : M.Slides g g₁)
    (h : p.Follows M Post g₁) : p.Follows M Post g := by
  cases p with
  | done a =>
    obtain ⟨g₂, hs', hpost⟩ := h
    exact ⟨g₂, hs.trans hs', hpost⟩
  | stmt q k =>
    obtain ⟨g₂, hs', hk⟩ := h
    exact ⟨g₂, hs.trans hs', hk⟩

theorem Follows.silent {p : Program R α} {g g₁ : G} (hs : M.silent g g₁)
    (h : p.Follows M Post g₁) : p.Follows M Post g :=
  h.slide (.single hs)

theorem follows_stmt {q : Q} {k : R q → Program R α} {g : G}
    (h : ∀ r, ∃ g', M.step g q r g' ∧ (k r).Follows M Post g') :
    (stmt q k).Follows M Post g :=
  ⟨g, .refl, h⟩

theorem follows_bind {p : Program R α} {f : α → Program R β} {Mid : α → G → Prop}
    {Post : β → G → Prop} {g : G} (hp : p.Follows M Mid g)
    (hf : ∀ a g', Mid a g' → (f a).Follows M Post g') : (p >>= f).Follows M Post g := by
  induction p generalizing g with
  | done a =>
    obtain ⟨g₁, hs, hmid⟩ := hp
    exact (hf a g₁ hmid).slide hs
  | stmt q k ih =>
    obtain ⟨g₁, hs, hk⟩ := hp
    refine ⟨g₁, hs, fun r => ?_⟩
    obtain ⟨g', hstep, hr⟩ := hk r
    exact ⟨g', hstep, ih r hr⟩

theorem follows_discard {p : Program R α} {g : G} {Post : Unit → G → Prop}
    (hp : p.Follows M (fun _ g' => Post () g') g) : p.discard.Follows M Post g :=
  follows_bind hp fun _ _ h => follows_done h

/-- Silent moves may come last. -/
theorem Follows.imp_slides {p : Program R α} {Post' : α → G → Prop} {g : G}
    (hp : p.Follows M Post g) (h : ∀ a g', Post a g' → ∃ g₁, M.Slides g' g₁ ∧ Post' a g₁) :
    p.Follows M Post' g := by
  induction p generalizing g with
  | done a =>
    obtain ⟨g₁, hs, hpost⟩ := hp
    obtain ⟨g₂, hs', hpost'⟩ := h a g₁ hpost
    exact ⟨g₂, hs.trans hs', hpost'⟩
  | stmt q k ih =>
    obtain ⟨g₁, hs, hk⟩ := hp
    refine ⟨g₁, hs, fun r => ?_⟩
    obtain ⟨g', hstep, hr⟩ := hk r
    exact ⟨g', hstep, ih r hr⟩

theorem Follows.imp {p : Program R α} {Post' : α → G → Prop} {g : G}
    (hp : p.Follows M Post g) (h : ∀ a g', Post a g' → Post' a g') : p.Follows M Post' g :=
  hp.imp_slides fun a g' hpost => ⟨g', .refl, h a g' hpost⟩

/-- A single statement. -/
theorem follows_call {q : Q} {g : G} {Post : R q → G → Prop}
    (h : ∀ r, ∃ g', M.step g q r g' ∧ Post r g') :
    (call q : Program R (R q)).Follows M Post g :=
  follows_stmt fun r =>
    let ⟨g', hstep, hpost⟩ := h r
    ⟨g', hstep, follows_done hpost⟩

/-- A program whose statements all leave the phase alone. -/
theorem Issues.follows {P : Q → Prop} {p : Program R α} {Ret : α → Prop} {g : G}
    (hp : p.Issues P Ret) (hsame : ∀ q r, P q → M.step g q r g) :
    p.Follows M (fun a g' => g' = g ∧ Ret a) g := by
  induction p with
  | done a => exact follows_done ⟨rfl, hp⟩
  | stmt q k ih => exact follows_stmt fun r => ⟨g, hsame q r hp.1, ih r (hp.2 r)⟩

/-- A program that keeps to the protocol and returns only certain values. -/
theorem Follows.and_issues {P : Q → Prop} {Ret : α → Prop} {p : Program R α} {g : G}
    (hp : p.Follows M Post g) (hret : p.Issues P Ret) :
    p.Follows M (fun a g' => Post a g' ∧ Ret a) g := by
  induction p generalizing g with
  | done a =>
    obtain ⟨g₁, hs, hpost⟩ := hp
    exact ⟨g₁, hs, hpost, hret⟩
  | stmt q k ih =>
    obtain ⟨g₁, hs, hk⟩ := hp
    refine ⟨g₁, hs, fun r => ?_⟩
    obtain ⟨g', hstep, hr⟩ := hk r
    exact ⟨g', hstep, ih r hr (hret.2 r)⟩

/-! ## Programs that may raise -/

section Raising

variable {ε : Type}

/-- What is raised ends the program. -/
theorem follows_run_bind {p : ExceptT ε (Program R) α} {f : α → ExceptT ε (Program R) β}
    {Mid : Except ε α → G → Prop} {Post : Except ε β → G → Prop} {g : G}
    (hp : p.run.Follows M Mid g) (hf : ∀ a g', Mid (.ok a) g' → (f a).run.Follows M Post g')
    (hraise : ∀ e g', Mid (.error e) g' → Post (.error e) g') :
    (p >>= f).run.Follows M Post g := by
  refine follows_bind hp fun r g' hmid => ?_
  cases r with
  | ok a => exact hf a g' hmid
  | error e => exact follows_done (hraise e g' hmid)

/-- What is raised goes to the handler. -/
theorem follows_run_tryCatch {p : ExceptT ε (Program R) α} {handle : ε → ExceptT ε (Program R) α}
    {Mid Post : Except ε α → G → Prop} {g : G} (hp : p.run.Follows M Mid g)
    (hok : ∀ a g', Mid (.ok a) g' → Post (.ok a) g')
    (hraise : ∀ e g', Mid (.error e) g' → (handle e).run.Follows M Post g') :
    (tryCatch p handle).run.Follows M Post g := by
  refine follows_bind hp fun r g' hmid => ?_
  cases r with
  | ok a => exact follows_done (hok a g' hmid)
  | error e => exact hraise e g' hmid

theorem issues_run_bind {P : Q → Prop} {p : ExceptT ε (Program R) α}
    {f : α → ExceptT ε (Program R) β} (hp : p.run.Issues P fun _ => True)
    (hf : ∀ a, (f a).run.Issues P fun _ => True) : (p >>= f).run.Issues P fun _ => True := by
  refine issues_bind hp fun r _ => ?_
  cases r with
  | ok a => exact hf a
  | error e => exact issues_done trivial

end Raising

end Program

/-! ## Traces -/

/-- A statement with its answer. -/
abbrev Exchange (R : Q → Type) : Type := (q : Q) × R q

namespace Program

/-- `p.Performs trace a`: answered as in the trace, `p` issues the statements of the trace and returns
    `a`. -/
def Performs : Program R α → List (Exchange R) → α → Prop
  | done a, trace, b => trace = [] ∧ b = a
  | stmt q k, trace, b => ∃ r rest, trace = ⟨q, r⟩ :: rest ∧ (k r).Performs rest b

variable {trace : List (Exchange R)}

theorem performs_bind {p : Program R α} {f : α → Program R β} {b : β} :
    (p >>= f).Performs trace b ↔
      ∃ first rest a, trace = first ++ rest ∧ p.Performs first a ∧ (f a).Performs rest b := by
  induction p generalizing trace with
  | done a =>
    constructor
    · intro h
      exact ⟨[], trace, a, rfl, ⟨rfl, rfl⟩, h⟩
    · rintro ⟨_, _, _, rfl, ⟨rfl, rfl⟩, h⟩
      exact h
  | stmt q k ih =>
    constructor
    · rintro ⟨r, rest, rfl, h⟩
      obtain ⟨first, last, a, rfl, hk, hf⟩ := (ih r).mp h
      exact ⟨⟨q, r⟩ :: first, last, a, rfl, ⟨r, first, rfl, hk⟩, hf⟩
    · rintro ⟨_, last, a, rfl, ⟨r, first, rfl, hk⟩, hf⟩
      exact ⟨r, first ++ last, rfl, (ih r).mpr ⟨first, last, a, rfl, hk, hf⟩⟩

theorem performs_call {q : Q} {r : R q} :
    (call q : Program R (R q)).Performs trace r ↔ trace = [⟨q, r⟩] := by
  constructor
  · rintro ⟨_, _, rfl, rfl, rfl⟩
    rfl
  · rintro rfl
    exact ⟨r, [], rfl, rfl, rfl⟩

/-- The run in which every statement is answered as given. -/
def respond (answer : (q : Q) → R q) : Program R α → List (Exchange R) × α
  | done a => ([], a)
  | stmt q k =>
    let run := (k (answer q)).respond answer
    (⟨q, answer q⟩ :: run.1, run.2)

theorem performs_respond (answer : (q : Q) → R q) (p : Program R α) :
    p.Performs (p.respond answer).1 (p.respond answer).2 := by
  induction p with
  | done a => exact ⟨rfl, rfl⟩
  | stmt q k ih => exact ⟨answer q, _, rfl, ih (answer q)⟩

theorem Issues.performs {P : Q → Prop} {Post : α → Prop} {p : Program R α} {a : α}
    (hp : p.Issues P Post) (h : p.Performs trace a) : (∀ e ∈ trace, P e.1) ∧ Post a := by
  induction p generalizing trace with
  | done b =>
    obtain ⟨rfl, rfl⟩ := h
    exact ⟨by simp, hp⟩
  | stmt q k ih =>
    obtain ⟨r, rest, rfl, hk⟩ := h
    have hrest := ih r (hp.2 r) hk
    exact ⟨List.forall_mem_cons.mpr ⟨hp.1, hrest.1⟩, hrest.2⟩

/-! ### Notes -/

section Notes

variable {ω : Type} {w : Exchange R → Option ω}

/-- Whenever `p` returns, what it returns goes with what `w` notes of its trace. -/
def Notes (w : Exchange R → Option ω) (Post : α → List ω → Prop) (p : Program R α) : Prop :=
  ∀ trace a, p.Performs trace a → Post a (trace.filterMap w)

theorem notes_pure {a : α} {Post : α → List ω → Prop} (h : Post a []) :
    Notes w Post (pure a : Program R α) := by
  intro trace b hb
  obtain ⟨rfl, rfl⟩ := hb
  exact h

theorem notes_bind {p : Program R α} {f : α → Program R β} {Mid : α → List ω → Prop}
    {Post : β → List ω → Prop} (hp : Notes w Mid p)
    (hf : ∀ a log, Mid a log → Notes w (fun b more => Post b (log ++ more)) (f a)) :
    Notes w Post (p >>= f) := by
  intro trace b hb
  obtain ⟨first, rest, a, rfl, hfirst, hrest⟩ := performs_bind.mp hb
  rw [List.filterMap_append]
  exact hf a _ (hp first a hfirst) rest b hrest

/-- A statement of which nothing is noted, and the rest. -/
theorem notes_silent_bind {q : Q} {f : R q → Program R β} {Post : β → List ω → Prop}
    (hq : ∀ r, w ⟨q, r⟩ = none) (hf : ∀ r, Notes w Post (f r)) : Notes w Post (call q >>= f) := by
  rintro trace b ⟨r, rest, rfl, hrest⟩
  rw [List.filterMap_cons_none (hq r)]
  exact hf r rest b hrest

/-- A statement of which something is noted, and the rest. -/
theorem notes_call_bind {q : Q} {f : R q → Program R β} {Post : β → List ω → Prop}
    (hf : ∀ r, Notes w (fun b log => Post b ((w ⟨q, r⟩).toList ++ log)) (f r)) :
    Notes w Post (call q >>= f) := by
  rintro trace b ⟨r, rest, rfl, hrest⟩
  have hnotes : (⟨q, r⟩ :: rest).filterMap w = (w ⟨q, r⟩).toList ++ rest.filterMap w := by
    cases h : w ⟨q, r⟩ with
    | none => exact List.filterMap_cons_none h
    | some note => exact List.filterMap_cons_some h
  rw [hnotes]
  exact hf r rest b hrest

theorem Notes.imp {p : Program R α} {Post Post' : α → List ω → Prop} (hp : Notes w Post p)
    (h : ∀ a log, Post a log → Post' a log) : Notes w Post' p :=
  fun trace a ha => h a _ (hp trace a ha)

/-- A program that notes nothing. -/
theorem Issues.notes {P : Q → Prop} {Post : α → Prop} {p : Program R α} (hp : p.Issues P Post)
    (hw : ∀ q r, P q → w ⟨q, r⟩ = none) : Notes w (fun a log => log = [] ∧ Post a) p := by
  intro trace a ha
  have hperforms := Issues.performs hp ha
  refine ⟨List.filterMap_eq_nil_iff.mpr fun e he => ?_, hperforms.2⟩
  exact hw e.1 e.2 (hperforms.1 e he)

/-- What is returned, whatever the answers are. -/
theorem Notes.issues {p : Program R α} {Post : α → List ω → Prop} {Ret : α → Prop}
    (hp : Notes w Post p) (h : ∀ a log, Post a log → Ret a) : p.Issues (fun _ => True) Ret := by
  induction p generalizing Post with
  | done a => exact h a [] (hp [] a ⟨rfl, rfl⟩)
  | stmt q k ih =>
    refine ⟨trivial, fun r => ?_⟩
    have hrest : Notes w (fun a _ => Ret a) (k r) :=
      fun rest a ha => h a _ (hp (⟨q, r⟩ :: rest) a ⟨r, rest, rfl, ha⟩)
    exact ih r hrest fun _ _ hret => hret

end Notes

/-! ### Raising -/

section Raising

variable {ε : Type}

theorem performs_run_liftExcept {given result : Except ε α} :
    (liftExcept given : ExceptT ε (Program R) α).run.Performs trace result ↔
      trace = [] ∧ result = given := by
  cases given with
  | ok a => exact Iff.rfl
  | error e => exact Iff.rfl

theorem performs_run_bind {p : ExceptT ε (Program R) α} {f : α → ExceptT ε (Program R) β}
    {result : Except ε β} :
    (p >>= f).run.Performs trace result ↔
      (∃ e, p.run.Performs trace (.error e) ∧ result = .error e) ∨
      ∃ first rest a, trace = first ++ rest ∧ p.run.Performs first (.ok a) ∧
        (f a).run.Performs rest result := by
  have hbind : (p >>= f).run.Performs trace result ↔ ∃ first rest r, trace = first ++ rest ∧
      p.run.Performs first r ∧ (ExceptT.bindCont f r : Program R (Except ε β)).Performs rest result :=
    performs_bind
  rw [hbind]
  constructor
  · rintro ⟨first, rest, r, rfl, hp, hf⟩
    cases r with
    | ok a => exact .inr ⟨first, rest, a, rfl, hp, hf⟩
    | error e =>
      obtain ⟨rfl, rfl⟩ := hf
      rw [List.append_nil]
      exact .inl ⟨e, hp, rfl⟩
  · rintro (⟨e, hp, rfl⟩ | ⟨first, rest, a, rfl, hp, hf⟩)
    · exact ⟨trace, [], .error e, (List.append_nil trace).symm, hp, rfl, rfl⟩
    · exact ⟨first, rest, .ok a, rfl, hp, hf⟩

theorem performs_run_tryCatch {p : ExceptT ε (Program R) α} {handle : ε → ExceptT ε (Program R) α}
    {result : Except ε α} :
    (tryCatch p handle).run.Performs trace result ↔
      (∃ a, p.run.Performs trace (.ok a) ∧ result = .ok a) ∨
      ∃ first rest e, trace = first ++ rest ∧ p.run.Performs first (.error e) ∧
        (handle e).run.Performs rest result := by
  refine performs_bind.trans ?_
  constructor
  · rintro ⟨first, rest, r, rfl, hp, hf⟩
    cases r with
    | ok a =>
      obtain ⟨rfl, rfl⟩ := hf
      rw [List.append_nil]
      exact .inl ⟨a, hp, rfl⟩
    | error e => exact .inr ⟨first, rest, e, rfl, hp, hf⟩
  · rintro (⟨a, hp, rfl⟩ | ⟨first, rest, e, rfl, hp, hf⟩)
    · exact ⟨trace, [], .ok a, (List.append_nil trace).symm, hp, rfl, rfl⟩
    · exact ⟨first, rest, .error e, rfl, hp, hf⟩

end Raising

/-! ### Logs -/

section Logs

variable {ε ω : Type} {w : Exchange R → Option ω}

/-- Whenever `p` returns, what it returns goes with what `w` notes of its trace. -/
def Writes (w : Exchange R → Option ω) (Post : α → List ω → Prop) (p : ExceptT ε (Program R) α) :
    Prop :=
  ∀ trace a, p.run.Performs trace (.ok a) → Post a (trace.filterMap w)

theorem writes_pure {a : α} {Post : α → List ω → Prop} (h : Post a []) :
    Writes (ε := ε) w Post (pure a : ExceptT ε (Program R) α) := by
  intro trace b hb
  obtain ⟨rfl, hok⟩ := hb
  cases hok
  exact h

theorem writes_bind {p : ExceptT ε (Program R) α} {f : α → ExceptT ε (Program R) β}
    {Mid : α → List ω → Prop} {Post : β → List ω → Prop} (hp : Writes w Mid p)
    (hf : ∀ a log, Mid a log → Writes w (fun b more => Post b (log ++ more)) (f a)) :
    Writes w Post (p >>= f) := by
  intro trace b hb
  rcases performs_run_bind.mp hb with ⟨e, -, hok⟩ | ⟨first, rest, a, rfl, hfirst, hrest⟩
  · cases hok
  · rw [List.filterMap_append]
    exact hf a _ (hp first a hfirst) rest b hrest

theorem Writes.imp {p : ExceptT ε (Program R) α} {Post Post' : α → List ω → Prop}
    (hp : Writes w Post p) (h : ∀ a log, Post a log → Post' a log) : Writes w Post' p :=
  fun trace a ha => h a _ (hp trace a ha)

/-- A program that notes nothing. -/
theorem Issues.writes {P : Q → Prop} {p : ExceptT ε (Program R) α}
    (hp : p.run.Issues P fun _ => True) (hw : ∀ q r, P q → w ⟨q, r⟩ = none) :
    Writes w (fun _ log => log = []) p := by
  intro trace a ha
  rw [List.filterMap_eq_nil_iff]
  intro e he
  exact hw e.1 e.2 ((Issues.performs hp ha).1 e he)

end Logs

end Program

/-! ## Translation -/

/-- The program that runs `t q` wherever `p` issues `q`. -/
def Program.through {Q' : Type} {R' : Q' → Type} (t : (q : Q) → Program R' (R q)) :
    Program R α → Program R' α
  | done a => .done a
  | stmt q k => t q >>= fun r => (k r).through t

theorem Program.issues_through {Q' : Type} {R' : Q' → Type} {t : (q : Q) → Program R' (R q)}
    {P : Q → Prop} {P' : Q' → Prop} {Post : α → Prop} {p : Program R α} (hp : p.Issues P Post)
    (ht : ∀ q, P q → (t q).Issues P' fun _ => True) : (p.through t).Issues P' Post := by
  induction p with
  | done a => exact hp
  | stmt q k ih => exact issues_bind (ht q hp.1) fun r _ => ih r (hp.2 r)

end Atomic
