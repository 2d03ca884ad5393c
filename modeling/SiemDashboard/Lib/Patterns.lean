import Mathlib.Data.List.Infix

/-!
# Patterns and substitution

Regular patterns without nesting, a row of characters and runs of characters, and the replacement of
every match in a text, from the left.

* **Patterns** — `Atom`, `matchLength`: how much of the beginning of a text a pattern takes.
* **Substitution** — `substitute`.
* **Free texts** — `Free`: no pattern matches anywhere; `substitute_of_free`, `Free.part`,
  `free_of_lacks`.
* **Foreign replacements** — `Foreign`: no match begins in the replacement or runs into it;
  `free_substitute`: such a substitution leaves no match.
-/

namespace Patterns

variable {χ : Type}

/-! ## Patterns -/

/-- One character of a class, or as many as there are. -/
inductive Atom (χ : Type) where
  | one (p : χ → Bool)
  | many (p : χ → Bool)

/-- A run of the class, as long as what follows allows. -/
def runThen (p : χ → Bool) (k : List χ → Option Nat) : List χ → Option Nat
  | [] => k []
  | c :: cs => if p c then ((runThen p k cs).map (· + 1)).or (k (c :: cs)) else k (c :: cs)

/-- How many characters the pattern takes at the beginning of the text. -/
def matchLength : List (Atom χ) → List χ → Option Nat
  | [], _ => some 0
  | .one _ :: _, [] => none
  | .one p :: rest, c :: cs => if p c then (matchLength rest cs).map (· + 1) else none
  | .many p :: rest, cs => runThen p (matchLength rest) cs

/-- The first of the patterns that matches at the beginning of the text. -/
def matchFirst (patterns : List (List (Atom χ))) (cs : List χ) : Option Nat :=
  patterns.findSome? fun pattern => matchLength pattern cs

/-- Some pattern matches at the beginning of the text. -/
def Matches (patterns : List (List (Atom χ))) (cs : List χ) : Prop :=
  ∃ pattern ∈ patterns, (matchLength pattern cs).isSome = true

theorem matchFirst_isSome {patterns : List (List (Atom χ))} {cs : List χ} :
    (matchFirst patterns cs).isSome = true ↔ Matches patterns cs := by
  rw [matchFirst, List.findSome?_isSome_iff]
  rfl

/-! ## Substitution -/

/-- `re.sub`: every match is replaced, from the left; the first argument is what is left of the match
    that is being skipped. -/
def substituteFrom (patterns : List (List (Atom χ))) (replacement : List χ) :
    Nat → List χ → List χ
  | _, [] => []
  | skip + 1, _ :: cs => substituteFrom patterns replacement skip cs
  | 0, c :: cs =>
    match matchFirst patterns (c :: cs) with
    | some n => replacement ++ substituteFrom patterns replacement (n - 1) cs
    | none => c :: substituteFrom patterns replacement 0 cs

/-- `re.sub`. -/
def substitute (patterns : List (List (Atom χ))) (replacement cs : List χ) : List χ :=
  substituteFrom patterns replacement 0 cs

section

variable {patterns : List (List (Atom χ))} {replacement : List χ} {skip : Nat} {c : χ} {cs : List χ}

theorem substituteFrom_skip :
    substituteFrom patterns replacement (skip + 1) (c :: cs) =
      substituteFrom patterns replacement skip cs := by
  rw [substituteFrom]

/-! ## Free texts -/

/-- No pattern matches anywhere in the text. -/
def Free (patterns : List (List (Atom χ))) (cs : List χ) : Prop :=
  ∀ suffix, suffix <:+ cs → ¬ Matches patterns suffix

theorem free_cons : Free patterns (c :: cs) ↔ ¬ Matches patterns (c :: cs) ∧ Free patterns cs := by
  constructor
  · intro h
    exact ⟨h _ (List.suffix_refl _), fun suffix hsuffix => h _ (hsuffix.trans (List.suffix_cons _ _))⟩
  · intro h suffix hsuffix
    rcases List.suffix_cons_iff.mp hsuffix with rfl | hsuffix
    · exact h.1
    · exact h.2 suffix hsuffix

/-- Nothing is replaced in a free text. -/
theorem substitute_of_free (h : Free patterns cs) : substitute patterns replacement cs = cs := by
  unfold substitute
  induction cs with
  | nil => rfl
  | cons c cs ih =>
    obtain ⟨hnone, hrest⟩ := free_cons.mp h
    have hfirst : matchFirst patterns (c :: cs) = none := by
      rw [← Option.not_isSome_iff_eq_none, matchFirst_isSome]
      exact hnone
    rw [substituteFrom, hfirst]
    exact congrArg (c :: ·) (ih hrest)

/-- A match in a text is a match in every longer one. -/
theorem matchLength_append {pattern : List (Atom χ)} {cs : List χ} (more : List χ)
    (h : (matchLength pattern cs).isSome = true) :
    (matchLength pattern (cs ++ more)).isSome = true := by
  induction pattern generalizing cs with
  | nil => rfl
  | cons atom rest ih =>
    cases atom with
    | one p =>
      cases cs with
      | nil => cases h
      | cons c cs =>
        rw [List.cons_append]
        rw [matchLength] at h ⊢
        split
        · next hc =>
          rw [if_pos hc, Option.isSome_map] at h
          rw [Option.isSome_map]
          exact ih h
        · next hc =>
          rw [if_neg hc] at h
          cases h
    | many p =>
      rw [matchLength] at h ⊢
      induction cs with
      | nil =>
        rw [runThen] at h
        cases more with
        | nil => exact h
        | cons c more =>
          have hrest : (matchLength rest ([] ++ c :: more)).isSome = true := ih h
          rw [List.nil_append] at hrest ⊢
          rw [runThen]
          split
          · rw [Option.isSome_or, hrest, Bool.or_true]
          · exact hrest
      | cons c cs ihrun =>
        rw [List.cons_append, runThen]
        rw [runThen] at h
        split at h
        · next hc =>
          rw [if_pos hc, Option.isSome_or, Option.isSome_map, Bool.or_eq_true]
          rw [Option.isSome_or, Option.isSome_map, Bool.or_eq_true] at h
          exact h.imp ihrun fun h => ih h
        · next hc =>
          rw [if_neg hc]
          exact ih h

/-- What follows a run matches in some rest of the text. -/
theorem exists_suffix_of_runThen {p : χ → Bool} {k : List χ → Option Nat} {cs : List χ}
    (h : (runThen p k cs).isSome = true) : ∃ suffix, suffix <:+ cs ∧ (k suffix).isSome = true := by
  induction cs with
  | nil => exact ⟨[], List.suffix_refl _, h⟩
  | cons c cs ih =>
    rw [runThen] at h
    split at h
    · rw [Option.isSome_or, Option.isSome_map, Bool.or_eq_true] at h
      rcases h with h | h
      · obtain ⟨suffix, hsuffix, hk⟩ := ih h
        exact ⟨suffix, hsuffix.trans (List.suffix_cons c cs), hk⟩
      · exact ⟨_, List.suffix_refl _, h⟩
    · exact ⟨_, List.suffix_refl _, h⟩

/-- A pattern needs a character of each of its single classes. -/
theorem exists_mem_of_matchLength {pattern : List (Atom χ)} {cs : List χ} {p : χ → Bool}
    (hp : .one p ∈ pattern) (h : (matchLength pattern cs).isSome = true) :
    ∃ c ∈ cs, p c = true := by
  induction pattern generalizing cs with
  | nil => cases hp
  | cons atom rest ih =>
    cases atom with
    | one q =>
      cases cs with
      | nil => cases h
      | cons c cs =>
        rw [matchLength] at h
        split at h
        · next hc =>
          rw [Option.isSome_map] at h
          rcases List.mem_cons.mp hp with heq | hp
          · cases heq
            exact ⟨c, List.mem_cons_self, hc⟩
          · obtain ⟨d, hd, hpd⟩ := ih hp h
            exact ⟨d, List.mem_cons_of_mem c hd, hpd⟩
        · cases h
    | many q =>
      rw [matchLength] at h
      obtain ⟨suffix, hsuffix, h⟩ := exists_suffix_of_runThen h
      have hp : .one p ∈ rest := by simpa using hp
      obtain ⟨d, hd, hpd⟩ := ih hp h
      exact ⟨d, hsuffix.subset hd, hpd⟩

/-- The atom takes none of the characters, but needs one. -/
def Atom.lacks (alphabet : List χ) : Atom χ → Bool
  | .one p => alphabet.all fun c => !p c
  | .many _ => false

/-- A text over an alphabet that every pattern finds something missing in is free. -/
theorem free_of_lacks {alphabet : List χ}
    (h : (patterns.all fun pattern => pattern.any (·.lacks alphabet)) = true)
    (hcs : ∀ c ∈ cs, c ∈ alphabet) : Free patterns cs := by
  intro suffix hsuffix hmatches
  obtain ⟨pattern, hpattern, hmatch⟩ := hmatches
  obtain ⟨atom, hatom, hlacks⟩ := List.any_eq_true.mp (List.all_eq_true.mp h pattern hpattern)
  cases atom with
  | one p =>
    obtain ⟨c, hc, hpc⟩ := exists_mem_of_matchLength hatom hmatch
    have hnone := List.all_eq_true.mp hlacks c (hcs c (hsuffix.subset hc))
    rw [hpc] at hnone
    cases hnone
  | many p => cases hlacks

/-- A part of a free text is free. -/
theorem Free.part {part : List χ} (h : Free patterns cs) (hpart : part <:+: cs) :
    Free patterns part := by
  intro suffix hsuffix hmatches
  obtain ⟨pattern, hpattern, hmatch⟩ := hmatches
  obtain ⟨before, after, rfl⟩ := hpart
  refine h (suffix ++ after) ?_ ⟨pattern, hpattern, matchLength_append after hmatch⟩
  obtain ⟨front, rfl⟩ := hsuffix
  exact ⟨before ++ front, by simp⟩

end

/-! ## Foreign replacements -/

/-- The atom takes the character. -/
def Atom.takes (c : χ) : Atom χ → Bool
  | .one p | .many p => p c

/-- The pattern begins with two single characters, begins nowhere in the replacement `m :: r`, and does
    not take `m` later on. -/
def ForeignTo (m : χ) (r : List χ) : List (Atom χ) → Bool
  | .one p :: .one q :: rest =>
    !q m && rest.all (fun atom => !atom.takes m) && r.all (fun c => !p c) &&
      (!p m || r.head?.any fun c => !q c)
  | _ => false

/-- No match begins in the replacement or runs into it. -/
def Foreign (patterns : List (List (Atom χ))) (m : χ) (r : List χ) : Prop :=
  ∀ pattern ∈ patterns, ForeignTo m r pattern = true

section

variable {patterns : List (List (Atom χ))} {m : χ} {r cs more : List χ} {pattern : List (Atom χ)}

/-- What a foreign pattern looks like. -/
theorem foreignTo_cases (h : ForeignTo m r pattern = true) :
    ∃ p rest, pattern = .one p :: rest ∧ (∀ atom ∈ rest, atom.takes m = false) ∧
      (∀ c ∈ r, p c = false) ∧ (p m = true → ∀ more, matchLength rest (r ++ more) = none) := by
  unfold ForeignTo at h
  split at h
  · next p q rest =>
    simp only [Bool.and_eq_true, Bool.or_eq_true, List.all_eq_true, Bool.not_eq_true'] at h
    obtain ⟨⟨⟨hq, hrest⟩, hp⟩, hnext⟩ := h
    refine ⟨p, .one q :: rest, rfl, List.forall_mem_cons.mpr ⟨hq, hrest⟩, hp, fun hm more => ?_⟩
    rcases hnext with hnext | hnext
    · rw [hm] at hnext
      cases hnext
    · cases r with
      | nil => cases hnext
      | cons d r =>
        have hd : q d = false := by simpa using hnext
        rw [List.cons_append, matchLength, hd]
        rfl
  · cases h

/-- No match begins in the replacement. -/
theorem not_matches_replacement (h : Foreign patterns m r) {c : χ} {u : List χ}
    (hu : c :: u <:+ m :: r) (more : List χ) : ¬ Matches patterns (c :: u ++ more) := by
  intro hmatches
  obtain ⟨pattern, hpattern, hmatch⟩ := hmatches
  obtain ⟨p, rest, rfl, -, hr, hm⟩ := foreignTo_cases (h pattern hpattern)
  rw [List.cons_append, matchLength] at hmatch
  split at hmatch
  · next hc =>
    rcases List.suffix_cons_iff.mp hu with heq | hu
    · cases heq
      rw [hm hc more] at hmatch
      cases hmatch
    · rw [hr c (hu.subset List.mem_cons_self)] at hc
      cases hc
  · cases hmatch

/-- A match that takes no beginning of a replacement was there before. -/
theorem matchLength_of_substitute (hpattern : ∀ atom ∈ pattern, atom.takes m = false)
    (h : (matchLength pattern (substituteFrom patterns (m :: r) 0 cs)).isSome = true) :
    (matchLength pattern cs).isSome = true := by
  induction pattern generalizing cs with
  | nil => rfl
  | cons atom rest ih =>
    obtain ⟨hatom, hrest⟩ := List.forall_mem_cons.mp hpattern
    cases atom with
    | one p =>
      cases cs with
      | nil => exact h
      | cons c cs =>
        rw [substituteFrom] at h
        split at h
        · rw [List.cons_append, matchLength, show p m = false from hatom] at h
          cases h
        · rw [matchLength] at h ⊢
          split at h
          · next hc =>
            rw [if_pos hc, Option.isSome_map]
            rw [Option.isSome_map] at h
            exact ih hrest h
          · cases h
    | many p =>
      rw [matchLength] at h ⊢
      induction cs with
      | nil => exact h
      | cons c cs ihrun =>
        have hstop (hk : (matchLength rest (c :: cs)).isSome = true) :
            (runThen p (matchLength rest) (c :: cs)).isSome = true := by
          rw [runThen]
          split
          · rw [Option.isSome_or, hk, Bool.or_true]
          · exact hk
        have hout (h : (matchLength rest (substituteFrom patterns (m :: r) 0 (c :: cs))).isSome = true) :
            (matchLength rest (c :: cs)).isSome = true := ih hrest h
        rw [substituteFrom] at h hout
        cases hfirst : matchFirst patterns (c :: cs) with
        | some n =>
          rw [hfirst] at h hout
          dsimp only at h
          rw [List.cons_append, runThen, show p m = false from hatom] at h
          exact hstop (hout h)
        | none =>
          rw [hfirst] at h hout
          dsimp only at h
          rw [runThen] at h
          split at h
          · next hc =>
            rw [Option.isSome_or, Option.isSome_map, Bool.or_eq_true] at h
            rcases h with h | h
            · rw [runThen, if_pos hc, Option.isSome_or, Option.isSome_map, ihrun h, Bool.true_or]
            · exact hstop (hout h)
          · exact hstop (hout h)

/-- A substitution with a foreign replacement leaves no match. -/
theorem free_substituteFrom (h : Foreign patterns m r) (skip : Nat) :
    Free patterns (substituteFrom patterns (m :: r) skip cs) := by
  induction cs generalizing skip with
  | nil =>
    have hnil : substituteFrom patterns (m :: r) skip [] = [] := by cases skip <;> rfl
    rw [hnil]
    intro suffix hsuffix hmatches
    obtain ⟨pattern, hpattern, hmatch⟩ := hmatches
    obtain ⟨p, rest, rfl, -⟩ := foreignTo_cases (h pattern hpattern)
    rw [List.suffix_nil.mp hsuffix] at hmatch
    cases hmatch
  | cons c cs ih =>
    cases skip with
    | succ skip => exact ih skip
    | zero =>
      rw [substituteFrom]
      split
      · next n _ =>
        have hpart (u : List χ) (hu : u <:+ m :: r) :
            Free patterns (u ++ substituteFrom patterns (m :: r) (n - 1) cs) := by
          induction u with
          | nil => exact ih (n - 1)
          | cons d u ihu =>
            exact free_cons.mpr ⟨not_matches_replacement h hu _,
              ihu ((List.suffix_cons d u).trans hu)⟩
        exact hpart _ (List.suffix_refl _)
      · next hnone =>
        refine free_cons.mpr ⟨fun hmatches => ?_, ih 0⟩
        obtain ⟨pattern, hpattern, hmatch⟩ := hmatches
        obtain ⟨p, rest, rfl, hrest, -⟩ := foreignTo_cases (h pattern hpattern)
        have hbefore : Matches patterns (c :: cs) := by
          refine ⟨_, hpattern, ?_⟩
          rw [matchLength] at hmatch ⊢
          split at hmatch
          · next hc =>
            rw [if_pos hc, Option.isSome_map]
            rw [Option.isSome_map] at hmatch
            exact matchLength_of_substitute hrest hmatch
          · cases hmatch
        rw [← matchFirst_isSome, hnone] at hbefore
        cases hbefore

theorem free_substitute (h : Foreign patterns m r) : Free patterns (substitute patterns (m :: r) cs) :=
  free_substituteFrom h 0

/-- Every character after a substitution was there before or is of a replacement. -/
theorem mem_substituteFrom {replacement : List χ} {c : χ} {skip : Nat}
    (h : c ∈ substituteFrom patterns replacement skip cs) : c ∈ replacement ∨ c ∈ cs := by
  induction cs generalizing skip with
  | nil => cases skip <;> cases h
  | cons d cs ih =>
    cases skip with
    | succ skip => exact (ih h).imp_right (List.mem_cons_of_mem d)
    | zero =>
      rw [substituteFrom] at h
      split at h
      · rcases List.mem_append.mp h with h | h
        · exact .inl h
        · exact (ih h).imp_right (List.mem_cons_of_mem d)
      · rcases List.mem_cons.mp h with rfl | h
        · exact .inr List.mem_cons_self
        · exact (ih h).imp_right (List.mem_cons_of_mem d)

/-- A character of some kind leaves one of that kind no later in the text, where a replacement begins
    with one. -/
theorem substitute_take_any {p : χ → Bool} (hm : p m = true) {n : Nat} (hn : cs.length ≤ n)
    (hcs : cs.any p = true) :
    ((substitute patterns (m :: r) cs).take n).any p = true := by
  unfold substitute
  induction cs generalizing n with
  | nil => cases hcs
  | cons c cs ih =>
    obtain ⟨n, rfl⟩ : ∃ k, n = k + 1 := ⟨n - 1, by simp at hn; omega⟩
    rw [substituteFrom]
    split
    · rw [List.cons_append, List.take_succ_cons, List.any_cons, hm, Bool.true_or]
    · rw [List.take_succ_cons, List.any_cons]
      rw [List.any_cons, Bool.or_eq_true] at hcs
      rcases hcs with hc | hcs
      · rw [hc, Bool.true_or]
      · rw [ih (Nat.le_of_succ_le_succ hn) hcs, Bool.or_true]

end

end Patterns
