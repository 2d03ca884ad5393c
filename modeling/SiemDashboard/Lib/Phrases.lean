import Mathlib.Data.List.Infix

/-!
# Recursive descent over phrases

A reader takes a phrase from the front of a list of tokens and returns its value and the tokens that
are left.  What it reads is said by a language, a relation between phrases and values.

* **Separated phrases** — `SeparatedBy`: one or more phrases with a separator between them; `separated`:
  the loop that reads them.
* **Readers** — `mapRead`; `Sound`: what is read is a phrase; `Complete`: a phrase is read whenever the token after
  it may follow it.
* **Rules** — `separated_sound`, `separated_complete`.
-/

namespace Phrases

variable {τ α ε : Type}

/-- One or more phrases of a language, with a separator between them, and their values. -/
inductive SeparatedBy (sep : τ) (L : List τ → α → Prop) : List τ → List α → Prop
  | one {phrase : List τ} {a : α} (h : L phrase a) : SeparatedBy sep L phrase [a]
  | more {phrase rest : List τ} {a : α} {as : List α} (h : L phrase a)
      (hrest : SeparatedBy sep L rest as) : SeparatedBy sep L (phrase ++ sep :: rest) (a :: as)

theorem SeparatedBy.mono {sep : τ} {L L' : List τ → α → Prop} (hL : ∀ phrase a, L phrase a → L' phrase a)
    {phrase : List τ} {as : List α} (h : SeparatedBy sep L phrase as) : SeparatedBy sep L' phrase as := by
  induction h with
  | one h => exact .one (hL _ _ h)
  | more h _ ih => exact .more (hL _ _ h) ih

/-- What holds of the phrases and is put together at a separator holds of the whole. -/
theorem SeparatedBy.fold {sep : τ} {L : List τ → α → Prop} {P : List τ → List α → Prop}
    (hone : ∀ phrase a, L phrase a → P phrase [a])
    (hmore : ∀ phrase rest a as, L phrase a → P rest as → P (phrase ++ sep :: rest) (a :: as))
    {phrase : List τ} {as : List α} (h : SeparatedBy sep L phrase as) : P phrase as := by
  induction h with
  | one h => exact hone _ _ h
  | more h _ ih => exact hmore _ _ _ _ h ih

theorem SeparatedBy.ne_nil {sep : τ} {L : List τ → α → Prop} {phrase : List τ} {as : List α}
    (h : SeparatedBy sep L phrase as) : as ≠ [] := by
  cases h with
  | one => exact List.cons_ne_nil _ _
  | more => exact List.cons_ne_nil _ _

/-! ## Readers -/

/-- A reader of phrases. -/
abbrev Reader (τ α ε : Type) := List τ → Except ε (α × List τ)

/-- What has been read, made into something else. -/
def mapRead {β : Type} (f : α → β) (read : Except ε (α × List τ)) : Except ε (β × List τ) :=
  read.map fun r => (f r.1, r.2)

theorem mapRead_eq_ok {β : Type} {f : α → β} {read : Except ε (α × List τ)} {b : β} {rest : List τ} :
    mapRead f read = .ok (b, rest) ↔ ∃ a, read = .ok (a, rest) ∧ b = f a := by
  cases read with
  | error e =>
    constructor
    · intro h
      cases h
    · rintro ⟨a, h, -⟩
      cases h
  | ok r =>
    constructor
    · intro h
      cases h
      exact ⟨r.1, rfl, rfl⟩
    · rintro ⟨a, h, rfl⟩
      cases h
      rfl

/-- What the reader takes is a phrase of the language. -/
def Sound (L : List τ → α → Prop) (p : Reader τ α ε) : Prop :=
  ∀ tokens a rest, p tokens = .ok (a, rest) → ∃ phrase, tokens = phrase ++ rest ∧ L phrase a

/-- The reader takes every phrase of the language that a token follows that may. -/
def Complete (L : List τ → α → Prop) (follows : τ → Prop) (p : Reader τ α ε) : Prop :=
  ∀ phrase a rest, L phrase a → (∀ t, rest.head? = some t → follows t) →
    p (phrase ++ rest) = .ok (a, rest)

section Separated

variable [DecidableEq τ]

/-- The loop over what comes after the first phrase. -/
def separatedLoop (sep : τ) (p : Reader τ α ε) : Nat → List α → Reader τ (List α) ε
  | 0, as, tokens => .ok (as, tokens)
  | _ + 1, as, [] => .ok (as, [])
  | fuel + 1, as, t :: tokens =>
    if t = sep then
      match p tokens with
      | .error e => .error e
      | .ok (a, rest) => separatedLoop sep p fuel (as ++ [a]) rest
    else .ok (as, t :: tokens)

/-- Read phrases as long as a separator follows. -/
def separated (sep : τ) (p : Reader τ α ε) : Reader τ (List α) ε := fun tokens =>
  match p tokens with
  | .error e => .error e
  | .ok (a, rest) => separatedLoop sep p rest.length [a] rest

variable {sep : τ} {p : Reader τ α ε} {L : List τ → α → Prop}

/-- The loop has read nothing more, or a separator and further phrases. -/
theorem separatedLoop_sound (hp : Sound L p) {fuel : Nat} {as all : List α} {tokens rest : List τ}
    (h : separatedLoop sep p fuel as tokens = .ok (all, rest)) :
    (all = as ∧ rest = tokens) ∨
      ∃ phrase more, tokens = sep :: phrase ++ rest ∧ all = as ++ more ∧ SeparatedBy sep L phrase more := by
  induction fuel generalizing as tokens with
  | zero =>
    cases h
    exact .inl ⟨rfl, rfl⟩
  | succ fuel ih =>
    cases tokens with
    | nil =>
      cases h
      exact .inl ⟨rfl, rfl⟩
    | cons t tokens =>
      rw [separatedLoop] at h
      split at h
      · next hsep =>
        subst hsep
        split at h
        · cases h
        · next a left hread =>
          obtain ⟨first, rfl, hfirst⟩ := hp _ _ _ hread
          rcases ih h with ⟨rfl, rfl⟩ | ⟨phrase, more, rfl, rfl, hmore⟩
          · exact .inr ⟨first, [a], rfl, rfl, .one hfirst⟩
          · exact .inr ⟨first ++ t :: phrase, a :: more, by simp, by simp, .more hfirst hmore⟩
      · cases h
        exact .inl ⟨rfl, rfl⟩

/-- The loop reads all the phrases that follow. -/
theorem separatedLoop_complete {follows : τ → Prop} (hp : Complete L follows p) (hsep : follows sep)
    {phrase : List τ} {more : List α} (hmore : SeparatedBy sep L phrase more) {fuel : Nat}
    {as : List α} {rest : List τ} (hfuel : phrase.length < fuel)
    (hrest : ∀ t, rest.head? = some t → follows t ∧ t ≠ sep) :
    separatedLoop sep p fuel as (sep :: phrase ++ rest) = .ok (as ++ more, rest) := by
  have hstop (fuel : Nat) (as : List α) : separatedLoop sep p fuel as rest = .ok (as, rest) := by
    cases fuel with
    | zero => rfl
    | succ fuel =>
      cases rest with
      | nil => rfl
      | cons t rest => rw [separatedLoop, if_neg (hrest t rfl).2]
  induction hmore generalizing fuel as with
  | @one phrase a hphrase =>
    cases fuel with
    | zero => omega
    | succ fuel =>
      have hread : p (phrase ++ rest) = .ok (a, rest) :=
        hp phrase a rest hphrase fun t ht => (hrest t ht).1
      rw [List.cons_append, separatedLoop, if_pos rfl, hread]
      exact hstop fuel _
  | @more phrase others a more hphrase _ ih =>
    cases fuel with
    | zero => omega
    | succ fuel =>
      have hread : p (phrase ++ (sep :: others ++ rest)) = .ok (a, sep :: others ++ rest) :=
        hp phrase a _ hphrase fun t ht => by cases ht; exact hsep
      have hlength : others.length < fuel := by
        simp only [List.length_append, List.length_cons] at hfuel
        omega
      have htokens : phrase ++ sep :: others ++ rest = phrase ++ (sep :: others ++ rest) := by simp
      rw [List.cons_append, separatedLoop, if_pos rfl, htokens, hread]
      show separatedLoop sep p fuel (as ++ [a]) (sep :: others ++ rest) = _
      rw [ih hlength, List.append_assoc]
      rfl

theorem separated_sound (hp : Sound L p) : Sound (SeparatedBy sep L) (separated sep p) := by
  intro tokens all rest h
  rw [separated] at h
  split at h
  · cases h
  · next a left hread =>
    obtain ⟨first, rfl, hfirst⟩ := hp _ _ _ hread
    rcases separatedLoop_sound hp h with ⟨rfl, rfl⟩ | ⟨phrase, more, rfl, rfl, hmore⟩
    · exact ⟨first, rfl, .one hfirst⟩
    · exact ⟨first ++ sep :: phrase, by simp, .more hfirst hmore⟩

theorem separated_complete {follows : τ → Prop} (hp : Complete L follows p) (hsep : follows sep) :
    Complete (SeparatedBy sep L) (fun t => follows t ∧ t ≠ sep) (separated sep p) := by
  intro phrase all rest h hrest
  cases h with
  | @one _ a hphrase =>
    have hread : p (phrase ++ rest) = .ok (a, rest) :=
      hp phrase a rest hphrase fun t ht => (hrest t ht).1
    rw [separated, hread]
    show separatedLoop sep p rest.length [a] rest = _
    cases rest with
    | nil => rfl
    | cons t rest => rw [List.length_cons, separatedLoop, if_neg (hrest t rfl).2]
  | @more phrase others a more hphrase hmore =>
    have hread : p (phrase ++ (sep :: others ++ rest)) = .ok (a, sep :: others ++ rest) :=
      hp phrase a _ hphrase fun t ht => by cases ht; exact hsep
    have htokens : phrase ++ sep :: others ++ rest = phrase ++ (sep :: others ++ rest) := by simp
    rw [htokens, separated, hread]
    refine separatedLoop_complete hp hsep hmore ?_ hrest
    simp only [List.cons_append, List.length_cons, List.length_append]
    omega

end Separated

end Phrases
