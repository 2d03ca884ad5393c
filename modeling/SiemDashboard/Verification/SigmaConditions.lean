import Mathlib.Data.List.Chain
import SiemDashboard.Engines.SigmaPlayground

/-!
# The conditions of Sigma rules

What a condition is, said without the parser, and what the parser makes of it.

* **The grammar** — `Spells` (the words of a text), `Phrase` (the tree of a list of words).
* **The parser** — `parseAs_sound`, `parseAs_complete`: it reads the phrases that nest no deeper than the
  stack, and no others.
-/

namespace SiemDashboard.SigmaPlayground

open Python Phrases

/-! ## The grammar -/

/-- A text is a list of words: each a parenthesis or an identifier that no further letter continues, with
    any whitespace before it.  The keywords may be written in any case. -/
inductive Spells : List Char → List String → Prop
  | nil : Spells [] []
  | parenthesis {space rest : List Char} {c : Char} {words : List String}
      (hspace : ∀ d ∈ space, isSpace d = true) (hc : c = '(' ∨ c = ')') (h : Spells rest words) :
      Spells (space ++ c :: rest) (String.ofList [c] :: words)
  | word {space word rest : List Char} {words : List String}
      (hspace : ∀ d ∈ space, isSpace d = true) (hword : isSelectionName word = true)
      (hend : ∀ d, rest.head? = some d → (d.isAlpha || d == '_' || d.isDigit) = false)
      (h : Spells rest words) : Spells (space ++ word ++ rest) (wordToken word :: words)

/-- The levels of the grammar. -/
inductive Category where
  | or
  | and
  | not
  | primary

/-- An or-expression is and-expressions with `or` between them, an and-expression is such with `and`
    between them that may be negated, and those are parentheses and the names of selections.  The number
    bounds how deep these levels nest. -/
def Phrase (names : List String) : Nat → Category → List String → Node → Prop
  | 0, _, _, _ => False
  | depth + 1, .or, words, tree =>
    ∃ trees, SeparatedBy "or" (Phrase names depth .and) words trees ∧ tree = join .any trees
  | depth + 1, .and, words, tree =>
    ∃ trees, SeparatedBy "and" (Phrase names depth .not) words trees ∧ tree = join .all trees
  | depth + 1, .not, words, tree =>
    (∃ inner node, words = "not" :: inner ∧ Phrase names depth .not inner node ∧ tree = .not node) ∨
      Phrase names depth .primary words tree
  | depth + 1, .primary, words, tree =>
    (∃ inner, words = "(" :: inner ++ [")"] ∧ Phrase names depth .or inner tree) ∨
      ∃ name, name ∈ names ∧ name ∉ reserved ∧ words = [name] ∧ tree = .selection name

/-! ## The parser -/

section Parser

variable {names : List String}

/-- The parser of a level. -/
def parseAs (names : List String) : Category → Nat → Reader String Node ConditionError
  | .or => parseOr names
  | .and => parseAnd names
  | .not => parseNot names
  | .primary => parsePrimary names

/-- What may come after a phrase of a level. -/
def Follows : Category → String → Prop
  | .or => fun word => word ≠ "and" ∧ word ≠ "or"
  | .and => fun word => word ≠ "and"
  | .not | .primary => fun _ => True

theorem consumeClose_eq_ok {node tree : Node} {words rest : List String} :
    consumeClose (node, words) = .ok (tree, rest) ↔ words = ")" :: rest ∧ tree = node := by
  cases words with
  | nil => simp [consumeClose]
  | cons word words =>
    by_cases hword : word = ")"
    · simp [consumeClose, hword, eq_comm, and_comm]
    · simp [consumeClose, hword]

theorem parseName_eq_ok {tree : Node} {words rest : List String} :
    parseName names words = .ok (tree, rest) ↔
      ∃ name, name ∈ names ∧ name ∉ reserved ∧ words = name :: rest ∧ tree = .selection name := by
  cases words with
  | nil => simp [parseName]
  | cons word words =>
    rw [parseName]
    by_cases hreserved : word ∈ reserved
    · rw [if_pos hreserved]
      constructor
      · intro h
        cases h
      · rintro ⟨name, -, hname, hwords, -⟩
        cases hwords
        exact absurd hreserved hname
    · rw [if_neg hreserved]
      by_cases hmem : word ∈ names
      · rw [if_pos hmem]
        constructor
        · intro h
          cases h
          exact ⟨word, hmem, hreserved, rfl, rfl⟩
        · rintro ⟨name, -, -, hwords, rfl⟩
          cases hwords
          rfl
      · rw [if_neg hmem]
        constructor
        · intro h
          cases h
        · rintro ⟨name, hname, -, hwords, -⟩
          cases hwords
          exact absurd hname hmem

/-- No primary begins with the keyword `not`. -/
theorem not_head_of_primary {depth : Nat} {phrase : List String} {tree : Node}
    (h : Phrase names depth .primary phrase tree) (rest : List String) :
    (phrase ++ rest).head? ≠ some "not" := by
  cases depth with
  | zero => exact h.elim
  | succ depth =>
    rcases h with ⟨inner, rfl, -⟩ | ⟨name, -, hreserved, rfl, -⟩
    · simp
    · intro hhead
      cases hhead
      exact hreserved (by decide)

theorem parseAs_sound (frames : Nat) (c : Category) :
    Sound (Phrase names frames c) (parseAs names c frames) := by
  induction frames generalizing c with
  | zero =>
    intro words tree rest h
    cases c <;> cases h
  | succ frames ih =>
    intro words tree rest h
    cases c with
    | or =>
      rw [parseAs, parseOr, mapRead_eq_ok] at h
      obtain ⟨trees, hread, rfl⟩ := h
      obtain ⟨phrase, hwords, hphrase⟩ := separated_sound (ih .and) _ _ _ hread
      exact ⟨phrase, hwords, trees, hphrase, rfl⟩
    | and =>
      rw [parseAs, parseAnd, mapRead_eq_ok] at h
      obtain ⟨trees, hread, rfl⟩ := h
      obtain ⟨phrase, hwords, hphrase⟩ := separated_sound (ih .not) _ _ _ hread
      exact ⟨phrase, hwords, trees, hphrase, rfl⟩
    | not =>
      rw [parseAs, parseNot] at h
      split at h
      · next hnot =>
        rw [mapRead_eq_ok] at h
        obtain ⟨node, hread, rfl⟩ := h
        obtain ⟨inner, hinner, hphrase⟩ := ih .not _ _ _ hread
        refine ⟨"not" :: inner, ?_, .inl ⟨inner, node, rfl, hphrase, rfl⟩⟩
        rw [List.cons_append, ← hinner]
        exact List.eq_cons_of_mem_head? hnot
      · obtain ⟨phrase, hwords, hphrase⟩ := ih .primary _ _ _ h
        exact ⟨phrase, hwords, .inr hphrase⟩
    | primary =>
      rw [parseAs, parsePrimary] at h
      split at h
      · next hopen =>
        cases hread : parseOr names frames words.tail with
        | error e =>
          rw [hread] at h
          cases h
        | ok read =>
          obtain ⟨node, left⟩ := read
          rw [hread] at h
          obtain ⟨hclose, rfl⟩ := consumeClose_eq_ok.mp h
          obtain ⟨inner, hinner, hphrase⟩ := ih .or _ _ _ hread
          refine ⟨"(" :: inner ++ [")"], ?_, .inl ⟨inner, rfl, hphrase⟩⟩
          rw [List.eq_cons_of_mem_head? hopen, hinner, hclose]
          simp
      · obtain ⟨name, hname, hreserved, rfl, rfl⟩ := parseName_eq_ok.mp h
        exact ⟨[name], rfl, .inr ⟨name, hname, hreserved, rfl, rfl⟩⟩

theorem parseAs_complete (frames : Nat) (c : Category) :
    Complete (Phrase names frames c) (Follows c) (parseAs names c frames) := by
  induction frames generalizing c with
  | zero =>
    intro phrase tree rest h
    exact h.elim
  | succ frames ih =>
    intro phrase tree rest h hrest
    cases c with
    | or =>
      obtain ⟨trees, hphrase, rfl⟩ := h
      have hor : Follows .and "or" := by
        show "or" ≠ "and"
        decide
      rw [parseAs, parseOr, mapRead_eq_ok]
      exact ⟨trees, separated_complete (ih .and) hor phrase trees rest hphrase hrest, rfl⟩
    | and =>
      obtain ⟨trees, hphrase, rfl⟩ := h
      rw [parseAs, parseAnd, mapRead_eq_ok]
      refine ⟨trees, separated_complete (ih .not) trivial phrase trees rest hphrase fun t ht => ?_, rfl⟩
      exact ⟨trivial, hrest t ht⟩
    | not =>
      rw [parseAs, parseNot]
      rcases h with ⟨inner, node, rfl, hphrase, rfl⟩ | hphrase
      · have hhead : ("not" :: inner ++ rest).head? = some "not" := rfl
        rw [if_pos hhead, mapRead_eq_ok]
        exact ⟨node, ih .not inner node rest hphrase hrest, rfl⟩
      · rw [if_neg (not_head_of_primary hphrase rest)]
        exact ih .primary phrase tree rest hphrase hrest
    | primary =>
      rw [parseAs, parsePrimary]
      rcases h with ⟨inner, rfl, hphrase⟩ | ⟨name, hname, hreserved, rfl, rfl⟩
      · have hread : parseOr names frames (inner ++ ")" :: rest) = .ok (tree, ")" :: rest) := by
          refine ih .or inner tree (")" :: rest) hphrase fun t ht => ?_
          cases ht
          exact ⟨by decide, by decide⟩
        have hhead : ("(" :: inner ++ [")"] ++ rest).head? = some "(" := rfl
        have htail : ("(" :: inner ++ [")"] ++ rest).tail = inner ++ ")" :: rest := by simp
        rw [if_pos hhead, htail, hread]
        exact consumeClose_eq_ok.mpr ⟨rfl, rfl⟩
      · have hopen : ([name] ++ rest).head? ≠ some "(" := by
          intro h
          cases h
          exact hreserved (by decide)
        rw [if_neg hopen]
        exact parseName_eq_ok.mpr ⟨name, hname, hreserved, rfl, rfl⟩

theorem parse_eq_ok {frames : Nat} {words : List String} {tree : Node} :
    parse names frames words = .ok tree ↔ Phrase names frames .or words tree := by
  have hend {node : Node} {rest : List String} : consumeEnd (node, rest) = .ok tree ↔
      rest = [] ∧ tree = node := by
    cases rest with
    | nil => simp [consumeEnd, eq_comm]
    | cons word rest => simp [consumeEnd]
  constructor
  · intro h
    cases hread : parseOr names frames words with
    | error e =>
      rw [parse, hread] at h
      cases h
    | ok read =>
      obtain ⟨node, rest⟩ := read
      rw [parse, hread] at h
      obtain ⟨rfl, rfl⟩ := hend.mp h
      obtain ⟨phrase, hwords, hphrase⟩ := parseAs_sound frames .or _ _ _ hread
      rw [hwords, List.append_nil]
      exact hphrase
  · intro h
    have hread : parseOr names frames (words ++ []) = .ok (tree, []) :=
      parseAs_complete frames .or words tree [] h fun t ht => by cases ht
    rw [List.append_nil] at hread
    rw [parse, hread]
    exact hend.mpr ⟨rfl, rfl⟩

/-- The names among the words. -/
def selections (words : List String) : List String := words.filter fun word => word ∉ reserved

theorem leaves_join {many : List Node → Node} (hmany : ∀ trees, (many trees).leaves = leavesOf trees)
    (trees : List Node) : (join many trees).leaves = leavesOf trees := by
  match trees with
  | [] => exact hmany []
  | [tree] => simp [join, leavesOf]
  | first :: second :: trees => exact hmany (first :: second :: trees)

/-- The leaves of separated phrases are those of the phrases. -/
theorem leavesOf_separated {sep : String} (hsep : sep ∈ reserved) {L : List String → Node → Prop}
    (hL : ∀ phrase tree, L phrase tree → tree.leaves = selections phrase) {words : List String}
    {trees : List Node} (h : SeparatedBy sep L words trees) : leavesOf trees = selections words := by
  refine h.fold (P := fun words trees => leavesOf trees = selections words)
    (fun phrase tree hphrase => ?_) fun phrase rest tree others hphrase hrest => ?_
  · rw [leavesOf, leavesOf, List.append_nil, hL _ _ hphrase]
  · rw [leavesOf, hL _ _ hphrase, hrest]
    simp [selections, hsep]

/-- **The leaves** of the tree of a phrase are the names in it, in order. -/
theorem Phrase.leaves {depth : Nat} {c : Category} {words : List String} {tree : Node}
    (h : Phrase names depth c words tree) : tree.leaves = selections words := by
  induction depth generalizing c words tree with
  | zero => exact h.elim
  | succ depth ih =>
    cases c with
    | or =>
      obtain ⟨trees, hphrase, rfl⟩ := h
      rw [leaves_join fun trees => Node.leaves.eq_4 trees]
      exact leavesOf_separated (by decide) (fun _ _ => ih) hphrase
    | and =>
      obtain ⟨trees, hphrase, rfl⟩ := h
      rw [leaves_join fun trees => Node.leaves.eq_3 trees]
      exact leavesOf_separated (by decide) (fun _ _ => ih) hphrase
    | not =>
      rcases h with ⟨inner, node, rfl, hphrase, rfl⟩ | hphrase
      · rw [Node.leaves, ih hphrase]
        simp [selections, reserved]
      · exact ih hphrase
    | primary =>
      rcases h with ⟨inner, rfl, hphrase⟩ | ⟨name, -, hreserved, rfl, rfl⟩
      · rw [ih hphrase]
        simp [selections, reserved]
      · rw [Node.leaves]
        simp [selections, hreserved]

/-- The words of a phrase: each is reserved or the name of a selection, no two names stand next to each
    other, and there is a word. -/
structure WellSpaced (names words : List String) : Prop where
  known : ∀ word ∈ words, word ∈ reserved ∨ word ∈ names
  apart : words.IsChain fun word next => word ∈ reserved ∨ next ∈ reserved
  nonempty : words ≠ []

theorem WellSpaced.separated {sep : String} (hsep : sep ∈ reserved) {L : List String → Node → Prop}
    (hL : ∀ phrase tree, L phrase tree → WellSpaced names phrase) {words : List String}
    {trees : List Node} (h : SeparatedBy sep L words trees) : WellSpaced names words := by
  refine h.fold (P := fun words _ => WellSpaced names words) hL
    fun phrase rest tree others hphrase hrest => ?_
  have hfirst : WellSpaced names phrase := hL _ _ hphrase
  refine ⟨fun word hword => ?_, ?_, by simp⟩
  · rcases List.mem_append.mp hword with hword | hword
    · exact hfirst.known word hword
    · rcases List.mem_cons.mp hword with rfl | hword
      · exact .inl hsep
      · exact hrest.known word hword
  · rw [List.isChain_append, List.isChain_cons]
    refine ⟨hfirst.apart, ⟨fun word _ => .inl hsep, hrest.apart⟩, fun word _ next hnext => .inr ?_⟩
    cases hnext
    exact hsep

theorem Phrase.wellSpaced {depth : Nat} {c : Category} {words : List String} {tree : Node}
    (h : Phrase names depth c words tree) : WellSpaced names words := by
  induction depth generalizing c words tree with
  | zero => exact h.elim
  | succ depth ih =>
    cases c with
    | or =>
      obtain ⟨trees, hphrase, -⟩ := h
      exact WellSpaced.separated (by decide) (fun _ _ => ih) hphrase
    | and =>
      obtain ⟨trees, hphrase, -⟩ := h
      exact WellSpaced.separated (by decide) (fun _ _ => ih) hphrase
    | not =>
      rcases h with ⟨inner, node, rfl, hphrase, -⟩ | hphrase
      · have hinner : WellSpaced names inner := ih hphrase
        refine ⟨fun word hword => ?_, ?_, by simp⟩
        · rcases List.mem_cons.mp hword with rfl | hword
          · exact .inl (by decide)
          · exact hinner.known word hword
        · rw [List.isChain_cons]
          exact ⟨fun word _ => .inl (by decide), hinner.apart⟩
      · exact ih hphrase
    | primary =>
      rcases h with ⟨inner, rfl, hphrase⟩ | ⟨name, hname, hreserved, rfl, -⟩
      · have hinner : WellSpaced names inner := ih hphrase
        refine ⟨fun word hword => ?_, ?_, by simp⟩
        · simp only [List.cons_append, List.mem_cons, List.mem_append, List.not_mem_nil, or_false] at hword
          rcases hword with rfl | hword | rfl
          · exact .inl (by decide)
          · exact hinner.known word hword
          · exact .inl (by decide)
        · rw [List.cons_append, List.isChain_cons, List.isChain_append]
          refine ⟨fun word _ => .inl (by decide), hinner.apart, List.isChain_singleton _, ?_⟩
          intro word _ next hnext
          cases hnext
          exact .inr (by decide)
      · refine ⟨fun word hword => ?_, List.isChain_singleton name, by simp⟩
        rw [List.mem_singleton.mp hword]
        exact .inr hname

end Parser

/-! ## Words -/

section Words

/-- The letters of an identifier. -/
abbrev isNameChar (c : Char) : Bool := c.isAlpha || c == '_' || c.isDigit

theorem isAlpha_eq (c : Char) : c.isAlpha =
    (decide ('A'.val ≤ c.val ∧ c.val ≤ 'Z'.val) ||
      (decide ('a'.val ≤ c.val) && decide (c.val ≤ 'z'.val))) := rfl

theorem isNameChar_iff {c : Char} : isNameChar c = true ↔
    65 ≤ c.toNat ∧ c.toNat ≤ 90 ∨ 97 ≤ c.toNat ∧ c.toNat ≤ 122 ∨ c.toNat = 95 ∨
      48 ≤ c.toNat ∧ c.toNat ≤ 57 := by
  have hunderscore : c = '_' ↔ c.toNat = 95 := by
    rw [← Char.toNat_inj]
    rfl
  simp only [isNameChar, isAlpha_eq, Char.isDigit, Bool.or_eq_true,
    Bool.and_eq_true, decide_eq_true_eq, beq_iff_eq, hunderscore, UInt32.le_iff_toNat_le, ge_iff_le]
  have htoNat : c.val.toNat = c.toNat := rfl
  have hA : 'A'.val.toNat = 65 := rfl
  have hZ : 'Z'.val.toNat = 90 := rfl
  have ha : 'a'.val.toNat = 97 := rfl
  have hz : 'z'.val.toNat = 122 := rfl
  have h0 : '0'.val.toNat = 48 := rfl
  have h9 : '9'.val.toNat = 57 := rfl
  omega

theorem isSpace_of_isNameChar {c : Char} (hc : isNameChar c = true) : isSpace c = false := by
  rw [isNameChar_iff] at hc
  simp only [isSpace, Bool.or_eq_false_iff, Bool.and_eq_false_iff, decide_eq_false_iff_not,
    beq_eq_false_iff_ne]
  omega

/-- The letters that belong to words where case is ignored are no whitespace either. -/
theorem isSpace_of_isIdentChar {c : Char} (hc : isIdentChar c = true) : isSpace c = false := by
  simp only [isIdentChar, isIdentStart, Bool.or_eq_true, beq_iff_eq] at hc
  by_cases hname : isNameChar c = true
  · exact isSpace_of_isNameChar hname
  · simp only [isNameChar, Bool.or_eq_true, beq_iff_eq, not_or] at hname
    have hletter : c.toNat = 0x130 ∨ c.toNat = 0x131 ∨ c.toNat = 0x17F ∨ c.toNat = 0x212A := by
      tauto
    simp only [isSpace, Bool.or_eq_false_iff, Bool.and_eq_false_iff, decide_eq_false_iff_not,
      beq_eq_false_iff_ne]
    omega

theorem isIdentChar_of_isNameChar {c : Char} (hc : isNameChar c = true) : isIdentChar c = true := by
  simp only [isNameChar, Bool.or_eq_true] at hc
  simp only [isIdentChar, isIdentStart, Bool.or_eq_true]
  tauto

/-- The name of a selection is a letter and further letters. -/
theorem isSelectionName_eq_true {word : List Char} (h : isSelectionName word = true) :
    (∃ c cs, word = c :: cs ∧ isIdentStart c = true) ∧ ∀ c ∈ word, isNameChar c = true := by
  cases word with
  | nil => cases h
  | cons c cs =>
    simp only [isSelectionName, Bool.and_eq_true, List.all_eq_true] at h
    obtain ⟨hc, hcs⟩ := h
    refine ⟨⟨c, cs, rfl, ?_⟩, List.forall_mem_cons.mpr ⟨?_, hcs⟩⟩
    · simp only [isIdentStart, Bool.or_eq_true] at hc ⊢
      tauto
    · simp only [isNameChar, Bool.or_eq_true] at hc ⊢
      exact .inl hc

/-- A character whose lower case is one of these letters is a letter itself. -/
theorem isAlpha_of_lowerChar {c : Char} (h : lowerChar c ∈ ['a', 'd', 'f', 'n', 'o', 'r', 't']) :
    c.isAlpha = true := by
  have hcase : ∃ d ∈ ['a', 'd', 'f', 'n', 'o', 'r', 't'], (lowerChar c).toNat = d.toNat :=
    ⟨lowerChar c, h, rfl⟩
  rw [lowerChar_toNat] at hcase
  have hrange : 65 ≤ c.toNat ∧ c.toNat ≤ 90 ∨ 97 ≤ c.toNat ∧ c.toNat ≤ 122 := by
    obtain ⟨d, hd, heq⟩ := hcase
    have hdval : d.toNat = 97 ∨ d.toNat = 100 ∨ d.toNat = 102 ∨ d.toNat = 110 ∨ d.toNat = 111 ∨
        d.toNat = 114 ∨ d.toNat = 116 := by
      simp only [List.mem_cons, List.not_mem_nil, or_false] at hd
      rcases hd with rfl | rfl | rfl | rfl | rfl | rfl | rfl <;> decide
    split_ifs at heq with hkelvin hupper
    · omega
    · exact .inl hupper
    · exact .inr (by omega)
  simp only [isAlpha_eq, Bool.or_eq_true, Bool.and_eq_true, decide_eq_true_eq,
    UInt32.le_iff_toNat_le]
  have htoNat : c.val.toNat = c.toNat := rfl
  have hA : 'A'.val.toNat = 65 := rfl
  have hZ : 'Z'.val.toNat = 90 := rfl
  have ha : 'a'.val.toNat = 97 := rfl
  have hz : 'z'.val.toNat = 122 := rfl
  omega

/-- A word of letters whose token is known is the name of a selection. -/
theorem isSelectionName_of_wordToken {c : Char} {cs : List Char} (hc : isIdentStart c = true)
    (h : wordToken (c :: cs) ∈ reserved ∨ isSelectionName (wordToken (c :: cs)).toList = true) :
    isSelectionName (c :: cs) = true := by
  rw [wordToken] at h
  split at h
  · next hkeyword =>
    have hletters : ∀ d ∈ c :: cs, d.isAlpha = true := by
      intro d hd
      refine isAlpha_of_lowerChar ?_
      have hmem : lowerChar d ∈ (lower (String.ofList (c :: cs))).toList := by
        rw [lower, String.toList_ofList, String.toList_ofList]
        exact List.mem_map_of_mem hd
      have hkeywords : ∀ keyword ∈ ["not", "and", "or"], ∀ e ∈ keyword.toList,
          e ∈ ['a', 'd', 'f', 'n', 'o', 'r', 't'] := by simp
      exact hkeywords _ hkeyword _ hmem
    simp only [isSelectionName, Bool.and_eq_true, List.all_eq_true, Bool.or_eq_true]
    exact ⟨.inl (hletters c List.mem_cons_self),
      fun d hd => .inl (.inl (hletters d (List.mem_cons_of_mem _ hd)))⟩
  · next hkeyword =>
    rcases h with hreserved | hname
    · have hcases : ∀ word ∈ reserved,
          lower word ∈ ["not", "and", "or"] ∨ word.toList.head?.any isIdentStart = false := by decide
      rcases hcases _ hreserved with hlower | hhead
      · exact absurd hlower hkeyword
      · rw [String.toList_ofList, List.head?_cons, Option.any_some, hc] at hhead
        cases hhead
    · rwa [String.toList_ofList] at hname

/-- What the text of a list of words begins with. -/
theorem Spells.head {cs : List Char} {words : List String} (h : Spells cs words) {d : Char}
    (hd : cs.head? = some d) : isSpace d = true ∨ d = '(' ∨ d = ')' ∨ isNameChar d = true := by
  have hfirst {space rest : List Char} {c : Char} (hspace : ∀ e ∈ space, isSpace e = true)
      (hhead : (space ++ c :: rest).head? = some d) : isSpace d = true ∨ c = d := by
    cases space with
    | nil =>
      cases hhead
      exact .inr rfl
    | cons e space =>
      cases hhead
      exact .inl (hspace d List.mem_cons_self)
  cases h with
  | nil => cases hd
  | parenthesis hspace hc =>
    rcases hfirst hspace hd with hspace | rfl
    · exact .inl hspace
    · exact .inr (hc.imp_right .inl)
  | word hspace hword =>
    obtain ⟨⟨c, cs, rfl, -⟩, hletters⟩ := isSelectionName_eq_true hword
    rw [List.append_assoc, List.cons_append] at hd
    rcases hfirst hspace hd with hspace | rfl
    · exact .inl hspace
    · exact .inr (.inr (.inr (hletters c List.mem_cons_self)))

/-- Every character of the text of a list of words is whitespace, a parenthesis or a letter. -/
theorem Spells.chars {cs : List Char} {words : List String} (h : Spells cs words) {d : Char}
    (hd : d ∈ cs) : isSpace d = true ∨ d = '(' ∨ d = ')' ∨ isNameChar d = true := by
  induction h with
  | nil => cases hd
  | parenthesis hspace hc _ ih =>
    rcases List.mem_append.mp hd with hd | hd
    · exact .inl (hspace d hd)
    · rcases List.mem_cons.mp hd with rfl | hd
      · exact .inr (hc.imp_right .inl)
      · exact ih hd
  | word hspace hword _ _ ih =>
    rcases List.mem_append.mp hd with hd | hd
    · rcases List.mem_append.mp hd with hd | hd
      · exact .inl (hspace d hd)
      · exact .inr (.inr (.inr ((isSelectionName_eq_true hword).2 d hd)))
    · exact ih hd

variable {py : Python}

theorem dropWhile_space {space rest : List Char} (hspace : ∀ d ∈ space, isSpace d = true) :
    (space ++ rest).dropWhile isSpace = rest.dropWhile isSpace :=
  List.dropWhile_append_of_pos hspace

theorem readToken_parenthesis {space rest : List Char} {c : Char}
    (hspace : ∀ d ∈ space, isSpace d = true) (hc : c = '(' ∨ c = ')') :
    readToken py (space ++ c :: rest) = .ok (String.ofList [c], rest) := by
  have hdrop : (space ++ c :: rest).dropWhile isSpace = c :: rest := by
    rw [dropWhile_space hspace]
    rcases hc with rfl | rfl <;> rfl
  rw [readToken, hdrop]
  rcases hc with rfl | rfl <;> rfl

/-- A word is read up to its end. -/
theorem readToken_word {space word rest : List Char} (hspace : ∀ d ∈ space, isSpace d = true)
    (hword : isSelectionName word = true)
    (hend : ∀ d, rest.head? = some d → isIdentChar d = false) :
    readToken py (space ++ word ++ rest) = .ok (wordToken word, rest) := by
  obtain ⟨⟨c, cs, rfl, hstart⟩, hletters⟩ := isSelectionName_eq_true hword
  have hinside : ∀ d ∈ cs, isIdentChar d = true := fun d hd =>
    isIdentChar_of_isNameChar (hletters d (List.mem_cons_of_mem _ hd))
  have hstop : rest.takeWhile isIdentChar = [] ∧ rest.dropWhile isIdentChar = rest := by
    cases rest with
    | nil => exact ⟨rfl, rfl⟩
    | cons d rest => simp [hend d rfl]
  have htake : (cs ++ rest).takeWhile isIdentChar = cs := by
    rw [List.takeWhile_append_of_pos hinside, hstop.1, List.append_nil]
  have hrest : (cs ++ rest).dropWhile isIdentChar = rest := by
    rw [List.dropWhile_append_of_pos hinside, hstop.2]
  have hspaceless : isSpace c = false := isSpace_of_isNameChar (hletters c List.mem_cons_self)
  have hdrop : (space ++ (c :: cs) ++ rest).dropWhile isSpace = c :: (cs ++ rest) := by
    rw [List.append_assoc, dropWhile_space hspace, List.cons_append,
      List.dropWhile_cons_of_neg (by simp [hspaceless])]
  have hopen : (c == '(') = false := by
    rw [beq_eq_false_iff_ne]
    rintro rfl
    revert hstart
    decide
  have hclose : (c == ')') = false := by
    rw [beq_eq_false_iff_ne]
    rintro rfl
    revert hstart
    decide
  rw [readToken, hdrop]
  simp only [hopen, hclose, hstart, htake, hrest, Bool.false_eq_true, if_false, if_true]

theorem tokenizeFrom_cons {fuel : Nat} {cs rest : List Char} {word : String} (hcs : cs ≠ [])
    (h : readToken py cs = .ok (word, rest)) :
    tokenizeFrom py (fuel + 1) cs = (tokenizeFrom py fuel rest).map (word :: ·) := by
  cases cs with
  | nil => exact absurd rfl hcs
  | cons c cs =>
    rw [tokenizeFrom, h]
    cases htokens : tokenizeFrom py fuel rest with
    | error e =>
      show (tokenizeFrom py fuel rest >>= fun tokens => pure (word :: tokens)) = _
      rw [htokens]
      rfl
    | ok tokens =>
      show (tokenizeFrom py fuel rest >>= fun tokens => pure (word :: tokens)) = _
      rw [htokens]
      rfl

/-- The words of a text are its tokens. -/
theorem tokenizeFrom_of_spells {cs : List Char} {words : List String} (h : Spells cs words)
    {fuel : Nat} (hfuel : cs.length ≤ fuel) : tokenizeFrom py fuel cs = .ok words := by
  induction h generalizing fuel with
  | nil => cases fuel <;> rfl
  | @parenthesis space rest c words hspace hc _ ih =>
    simp only [List.length_append, List.length_cons] at hfuel
    obtain ⟨fuel, rfl⟩ : ∃ n, fuel = n + 1 := ⟨fuel - 1, by omega⟩
    rw [tokenizeFrom_cons (by simp) (readToken_parenthesis hspace hc), ih (by omega)]
    rfl
  | @word space word rest words hspace hword hend hrest ih =>
    obtain ⟨⟨c, cs, rfl, -⟩, -⟩ := isSelectionName_eq_true hword
    simp only [List.length_append, List.length_cons] at hfuel
    obtain ⟨fuel, rfl⟩ : ∃ n, fuel = n + 1 := ⟨fuel - 1, by omega⟩
    have hstop (d : Char) (hd : rest.head? = some d) : isIdentChar d = false := by
      rcases hrest.head hd with hspace | rfl | rfl | hname
      · cases hident : isIdentChar d with
        | false => rfl
        | true => rw [isSpace_of_isIdentChar hident] at hspace; cases hspace
      · decide
      · decide
      · rw [isNameChar, hend d hd] at hname
        cases hname
    rw [tokenizeFrom_cons (by simp) (readToken_word hspace hword hstop), ih (by omega)]
    rfl

/-- What one match of the pattern has taken. -/
theorem readToken_eq_ok {cs rest : List Char} {word : String}
    (h : readToken py cs = .ok (word, rest)) :
    ∃ space c tail, cs = space ++ c :: tail ∧ (∀ d ∈ space, isSpace d = true) ∧
      ((c = '(' ∨ c = ')') ∧ word = String.ofList [c] ∧ rest = tail ∨
        isIdentStart c = true ∧ word = wordToken (c :: tail.takeWhile isIdentChar) ∧
          rest = tail.dropWhile isIdentChar) := by
  have hsplit : cs = cs.takeWhile isSpace ++ cs.dropWhile isSpace :=
    List.takeWhile_append_dropWhile.symm
  have hspace : ∀ d ∈ cs.takeWhile isSpace, isSpace d = true := fun d hd =>
    List.mem_takeWhile_imp hd
  rw [readToken] at h
  split at h
  · split at h <;> cases h
  · next c tail hdrop =>
    rw [hdrop] at hsplit
    refine ⟨_, c, tail, hsplit, hspace, ?_⟩
    split at h
    · next hopen =>
      rw [beq_iff_eq] at hopen
      cases h
      exact .inl ⟨.inl hopen, by rw [hopen], rfl⟩
    · split at h
      · next hclose =>
        rw [beq_iff_eq] at hclose
        cases h
        exact .inl ⟨.inr hclose, by rw [hclose], rfl⟩
      · split at h
        · next hstart =>
          cases h
          exact .inr ⟨hstart, rfl, rfl⟩
        · cases h

/-- Tokens that are known words spell the text they were read from. -/
theorem spells_of_tokenizeFrom {fuel : Nat} {cs : List Char} {words : List String}
    (h : tokenizeFrom py fuel cs = .ok words) (hfuel : cs.length ≤ fuel)
    (hknown : ∀ word ∈ words, word ∈ reserved ∨ isSelectionName word.toList = true) :
    Spells cs words := by
  induction fuel generalizing cs words with
  | zero =>
    cases h
    obtain rfl : cs = [] := List.length_eq_zero_iff.mp (by omega)
    exact .nil
  | succ fuel ih =>
    cases cs with
    | nil =>
      cases h
      exact .nil
    | cons first cs =>
      cases hread : readToken py (first :: cs) with
      | error e =>
        rw [tokenizeFrom, hread] at h
        cases h
      | ok read =>
        obtain ⟨word, rest⟩ := read
        rw [tokenizeFrom_cons (by simp) hread] at h
        cases hrest : tokenizeFrom py fuel rest with
        | error e =>
          rw [hrest] at h
          cases h
        | ok others =>
          rw [hrest] at h
          cases h
          have hothers : ∀ word ∈ others, word ∈ reserved ∨ isSelectionName word.toList = true :=
            fun word hword => hknown word (List.mem_cons_of_mem _ hword)
          obtain ⟨space, c, tail, hcs, hspace, ⟨hc, rfl, rfl⟩ | ⟨hc, rfl, rfl⟩⟩ :=
            readToken_eq_ok hread
          · rw [hcs] at hfuel ⊢
            simp only [List.length_append, List.length_cons] at hfuel
            exact .parenthesis hspace hc (ih hrest (by omega) hothers)
          · have hname : isSelectionName (c :: tail.takeWhile isIdentChar) = true :=
              isSelectionName_of_wordToken hc (hknown _ List.mem_cons_self)
            have hlength : (tail.dropWhile isIdentChar).length ≤ tail.length :=
              (List.dropWhile_sublist _).length_le
            have htail : c :: tail = c :: tail.takeWhile isIdentChar ++ tail.dropWhile isIdentChar := by
              rw [List.cons_append, List.takeWhile_append_dropWhile]
            have hend (d : Char) (hd : (tail.dropWhile isIdentChar).head? = some d) :
                isNameChar d = false := by
              cases hnamed : isNameChar d with
              | false => rfl
              | true =>
                have hstop := List.head?_dropWhile_not isIdentChar tail
                rw [hd] at hstop
                have hident : isIdentChar d = false := hstop
                rw [isIdentChar_of_isNameChar hnamed] at hident
                cases hident
            rw [hcs] at hfuel ⊢
            simp only [List.length_append, List.length_cons] at hfuel
            rw [htail, ← List.append_assoc]
            exact .word hspace hname hend (ih hrest (by omega) hothers)

end Words

/-! ## The screen -/

section Screen

/-- A place in a list that is put together of two. -/
theorem append_eq_place {α : Type} {xs rest before after : List α} {c : α}
    (h : xs ++ rest = before ++ c :: after) :
    (∃ before', before = xs ++ before' ∧ rest = before' ++ c :: after) ∨
      ∃ after', xs = before ++ c :: after' ∧ after = after' ++ rest := by
  rcases List.append_eq_append_iff.mp h with ⟨before', hbefore, hrest⟩ | ⟨middle, hxs, hafter⟩
  · exact .inl ⟨before', hbefore, hrest⟩
  · cases middle with
    | nil => exact .inl ⟨[], by rw [List.append_nil] at hxs ⊢; exact hxs.symm, hafter.symm⟩
    | cons d middle =>
      rw [List.cons_append, List.cons.injEq] at hafter
      obtain ⟨rfl, hafter⟩ := hafter
      exact .inr ⟨middle, hxs, hafter⟩

/-- Whitespace ends at one place. -/
theorem space_eq {space space' rest rest' : List Char} {c d : Char}
    (h : space ++ c :: rest = space' ++ d :: rest') (hspace : ∀ e ∈ space, isSpace e = true)
    (hspace' : ∀ e ∈ space', isSpace e = true) (hc : isSpace c = false) (hd : isSpace d = false) :
    c = d ∧ rest = rest' := by
  have hdrop := congrArg (List.dropWhile isSpace) h
  rw [dropWhile_space hspace, dropWhile_space hspace', List.dropWhile_cons_of_neg (by simp [hc]),
    List.dropWhile_cons_of_neg (by simp [hd])] at hdrop
  cases hdrop
  exact ⟨rfl, rfl⟩

/-- A word whose lower case begins with `of` is no keyword. -/
theorem not_reserved_of {d e : Char} {cs : List Char} (hd : lowerChar d = 'o') (he : lowerChar e = 'f') :
    wordToken (d :: e :: cs) ∉ reserved := by
  have hlower : (lower (String.ofList (d :: e :: cs))).toList =
      'o' :: 'f' :: cs.map lowerChar := by
    rw [lower, String.toList_ofList, String.toList_ofList, List.map_cons, List.map_cons, hd, he]
  have hsecond : ∀ word ∈ reserved, word.toList[1]? ≠ some 'f' ∧ (lower word).toList[1]? ≠ some 'f' := by
    decide
  rw [wordToken]
  split
  · intro hmem
    refine (hsecond _ hmem).1 ?_
    rw [hlower]
    rfl
  · intro hmem
    refine (hsecond _ hmem).2 ?_
    rw [hlower]
    rfl

/-- Nor is a word that ends like none of them. -/
theorem not_reserved_of_last {cs : List Char} {c : Char}
    (hc : lowerChar c ∉ ['t', 'd', 'r', '(', ')']) : wordToken (cs ++ [c]) ∉ reserved := by
  have hlower : (lower (String.ofList (cs ++ [c]))).toList.getLast? = some (lowerChar c) := by
    rw [lower, String.toList_ofList, String.toList_ofList, List.map_append, List.map_singleton,
      List.getLast?_concat]
  have hlast : ∀ word ∈ reserved, word.toList.getLast? ∈ ['t', 'd', 'r', '(', ')'].map some ∧
      (lower word).toList.getLast? ∈ ['t', 'd', 'r', '(', ')'].map some := by decide
  rw [wordToken]
  split
  · intro hmem
    have hlast' := (hlast _ hmem).1
    rw [hlower, List.mem_map] at hlast'
    obtain ⟨d, hd, heq⟩ := hlast'
    exact hc (Option.some.inj heq ▸ hd)
  · intro hmem
    have hlast' := (hlast _ hmem).2
    rw [hlower, List.mem_map] at hlast'
    obtain ⟨d, hd, heq⟩ := hlast'
    exact hc (Option.some.inj heq ▸ hd)

/-- Where whitespace and `of` come after a letter that ends no keyword, two names stand next to each
    other. -/
theorem Spells.names_meet {cs : List Char} {words : List String} (h : Spells cs words)
    {before space after : List Char} {c d e : Char} (hcs : cs = before ++ c :: (space ++ d :: e :: after))
    (hc : isSpace c = false) (hlast : lowerChar c ∉ ['t', 'd', 'r', '(', ')'])
    (hspace : ∀ x ∈ space, isSpace x = true) (hne : space ≠ []) (hd : lowerChar d = 'o')
    (he : lowerChar e = 'f') :
    ∃ first name next last, words = first ++ name :: next :: last ∧ name ∉ reserved ∧
      next ∉ reserved := by
  have hdletter : isNameChar d = true := by
    have halpha : d.isAlpha = true := isAlpha_of_lowerChar (by rw [hd]; decide)
    simp only [isNameChar, halpha, Bool.true_or]
  have heletter : isNameChar e = true := by
    have halpha : e.isAlpha = true := isAlpha_of_lowerChar (by rw [he]; decide)
    simp only [isNameChar, halpha, Bool.true_or]
  have hparenthesis : c ≠ '(' ∧ c ≠ ')' := by
    constructor <;> (rintro rfl; exact hlast (by decide))
  induction h generalizing before with
  | nil => simp at hcs
  | @parenthesis gap rest p words hgap hp _ ih =>
    rcases append_eq_place hcs with ⟨before', -, hrest⟩ | ⟨after', hgap', -⟩
    · cases before' with
      | nil =>
        cases hrest
        rcases hp with hp | hp
        · exact absurd hp hparenthesis.1
        · exact absurd hp hparenthesis.2
      | cons x before' =>
        rw [List.cons_append, List.cons.injEq] at hrest
        obtain ⟨first, name, next, last, rfl, hname, hnext⟩ := ih hrest.2
        exact ⟨String.ofList [p] :: first, name, next, last, rfl, hname, hnext⟩
    · have hmem : c ∈ gap := by simp [hgap']
      rw [hgap c hmem] at hc
      cases hc
  | @word gap word rest words hgap hword hend hrest ih =>
    rw [List.append_assoc] at hcs
    rcases append_eq_place hcs with ⟨before', -, hrest'⟩ | ⟨after', hgap', -⟩
    · rcases append_eq_place hrest' with ⟨before'', -, hrest''⟩ | ⟨after'', hword', hafter⟩
      · obtain ⟨first, name, next, last, rfl, hname, hnext⟩ := ih hrest''
        exact ⟨wordToken word :: first, name, next, last, rfl, hname, hnext⟩
      · -- the letter stands in the word; whitespace comes next, so it is the last one
        have hlastletter : after'' = [] := by
          cases after'' with
          | nil => rfl
          | cons x after'' =>
            obtain ⟨y, space, rfl⟩ := List.exists_cons_of_ne_nil hne
            rw [List.cons_append, List.cons_append, List.cons.injEq] at hafter
            have hx : isNameChar x = true := (isSelectionName_eq_true hword).2 x (by simp [hword'])
            rw [← hafter.1] at hx
            have hno := isSpace_of_isNameChar hx
            rw [hspace y List.mem_cons_self] at hno
            cases hno
        subst hlastletter
        rw [List.nil_append] at hafter
        have hname : wordToken word ∉ reserved := by
          rw [hword']
          exact not_reserved_of_last hlast
        cases hrest with
        | nil => simp at hafter
        | @parenthesis gap' rest p words hgap' hp =>
          have hpspace : isSpace p = false := by rcases hp with rfl | rfl <;> decide
          obtain ⟨rfl, -⟩ := space_eq hafter hspace hgap' (isSpace_of_isNameChar hdletter) hpspace
          rcases hp with rfl | rfl <;> cases hdletter
        | @word gap' word' rest words hgap' hword'' hend' =>
          obtain ⟨⟨x, xs, rfl, -⟩, hletters⟩ := isSelectionName_eq_true hword''
          rw [List.append_assoc, List.cons_append] at hafter
          obtain ⟨rfl, hxs⟩ := space_eq hafter hspace hgap' (isSpace_of_isNameChar hdletter)
            (isSpace_of_isNameChar (hletters x List.mem_cons_self))
          cases xs with
          | nil =>
            have hstop := hend' e (by rw [List.nil_append] at hxs; rw [← hxs]; rfl)
            rw [← isNameChar, heletter] at hstop
            cases hstop
          | cons y xs =>
            rw [List.cons_append, List.cons.injEq] at hxs
            rw [← hxs.1]
            exact ⟨[], _, _, words, rfl, hname, not_reserved_of hd he⟩
    · have hmem : c ∈ gap := by simp [hgap']
      rw [hgap c hmem] at hc
      cases hc

variable {names words : List String} {text : String}

/-- In the text of a phrase `of` comes after no name. -/
theorem no_of (hspells : Spells text.toList words) (hwell : WellSpaced names words)
    {before space after : List Char} {c : Char}
    (htext : text.toList.map lowerChar = before ++ c :: (space ++ 'o' :: 'f' :: after))
    (hc : isSpace c = false) (hlast : c ∉ ['t', 'd', 'r', '(', ')'])
    (hspace : ∀ x ∈ space, isSpace x = true) (hne : space ≠ []) : False := by
  obtain ⟨before', tail, hcs, -, htail⟩ := List.map_eq_append_iff.mp htext
  obtain ⟨c', tail', rfl, rfl, htail'⟩ := List.map_eq_cons_iff.mp htail
  obtain ⟨space', rest, rfl, rfl, hrest⟩ := List.map_eq_append_iff.mp htail'
  obtain ⟨d, rest', rfl, hd, hrest'⟩ := List.map_eq_cons_iff.mp hrest
  obtain ⟨e, after', rfl, he, -⟩ := List.map_eq_cons_iff.mp hrest'
  rw [isSpace_lowerChar] at hc
  have hspace' : ∀ x ∈ space', isSpace x = true := by
    intro x hx
    rw [← isSpace_lowerChar]
    exact hspace _ (List.mem_map_of_mem hx)
  have hne' : space' ≠ [] := by
    rintro rfl
    exact hne rfl
  obtain ⟨first, name, next, last, rfl, hname, hnext⟩ :=
    hspells.names_meet hcs hc hlast hspace' hne' hd he
  have hapart := hwell.apart
  rw [List.isChain_append_cons_cons] at hapart
  rcases hapart.2.1 with h | h
  · exact hname h
  · exact hnext h

/-- What the screen looks for that may stand in the text of a phrase. -/
def stopWords : List String := ["near", "before", "after"]

theorem mentions_eq_true {part text : String} (h : mentions part text = true) :
    ∃ before after, text.toList = before ++ (part.toList ++ after) := by
  obtain ⟨before, after, h⟩ := of_decide_eq_true h
  exact ⟨before, after, by rw [← h, List.append_assoc]⟩

theorem not_involves (hspells : Spells text.toList words) (hwell : WellSpaced names words)
    {banned : String} (hbanned : banned ∈ bannedConstructs) (hstop : banned ∉ stopWords) :
    involves banned text = false := by
  have hsign {c : Char} {banned : String} (hsingle : banned.toList = [c])
      (hc : isSpace c = false ∧ c ≠ '(' ∧ c ≠ ')' ∧ isNameChar c = false) :
      mentions banned text = false := by
    cases hmentions : mentions banned text with
    | false => rfl
    | true =>
      obtain ⟨before, after, htext⟩ := mentions_eq_true hmentions
      have hmem : c ∈ text.toList := by simp [htext, hsingle]
      rcases hspells.chars hmem with h | h | h | h
      · rw [hc.1] at h
        cases h
      · exact absurd h hc.2.1
      · exact absurd h hc.2.2.1
      · rw [hc.2.2.2] at h
        cases h
  have hof {banned : String} (start : List Char) (c : Char)
      (hword : banned.toList = start ++ c :: ([' '] ++ ['o', 'f']))
      (hc : isSpace (lowerChar c) = false) (hlast : lowerChar c ∉ ['t', 'd', 'r', '(', ')']) :
      mentions banned text = false := by
    cases hmentions : mentions banned text with
    | false => rfl
    | true =>
      obtain ⟨before, after, htext⟩ := mentions_eq_true hmentions
      have hlower : text.toList.map lowerChar = (before ++ start).map lowerChar ++
          lowerChar c :: ([' '] ++ 'o' :: 'f' :: after.map lowerChar) := by
        rw [htext, hword]
        simp only [List.map_append, List.map_cons, List.append_assoc, List.cons_append,
          List.nil_append]
        congr
      have hspace : ∀ x ∈ [' '], isSpace x = true := List.forall_mem_singleton.mpr rfl
      exact (no_of hspells hwell hlower hc hlast hspace (by decide)).elim
  simp only [bannedConstructs, List.mem_cons, List.not_mem_nil, or_false] at hbanned
  rcases hbanned with rfl | rfl | rfl | rfl | rfl | rfl | rfl | rfl
  · exact hof [] '1' (by decide) (by decide) (by decide)
  · exact hof ['a', 'l'] 'l' (by decide) (by decide) (by decide)
  · exact absurd (by decide) hstop
  · exact absurd (by decide) hstop
  · exact absurd (by decide) hstop
  · exact hsign (c := '|') (by decide) (by decide)
  · exact hsign (c := '*') (by decide) (by decide)
  · exact hsign (c := '?') (by decide) (by decide)

/-- What a search has found. -/
theorem search_eq_true {p : Option Char → List Char → Bool} {before : Option Char} {cs : List Char}
    (h : search p before cs = true) : ∃ first rest b, cs = first ++ rest ∧ p b rest = true := by
  induction cs generalizing before with
  | nil => exact ⟨[], [], before, rfl, h⟩
  | cons c cs ih =>
    rw [search, Bool.or_eq_true] at h
    rcases h with h | h
    · exact ⟨[], c :: cs, before, rfl, h⟩
    · obtain ⟨first, rest, b, rfl, hp⟩ := ih h
      exact ⟨c :: first, rest, b, rfl, hp⟩

variable {unicode : Unicode}

theorem ofFollows_eq_true {cs : List Char} (h : unicode.ofFollows cs = true) :
    ∃ space after, cs = space ++ 'o' :: 'f' :: after ∧ (∀ x ∈ space, isSpace x = true) ∧ space ≠ [] := by
  rw [Unicode.ofFollows, Bool.and_eq_true] at h
  obtain ⟨hhead, hrest⟩ := h
  split at hrest
  · next after hdrop =>
    refine ⟨cs.takeWhile isSpace, after, ?_, fun x hx => List.mem_takeWhile_imp hx, ?_⟩
    · rw [← hdrop, List.takeWhile_append_dropWhile]
    · cases cs with
      | nil => cases hhead
      | cons c cs =>
        have hc : isSpace c = true := hhead
        rw [List.takeWhile_cons_of_pos hc]
        exact List.cons_ne_nil _ _
  · cases hrest

/-- In the text of a phrase there is no number before an `of`. -/
theorem no_numberOf (hspells : Spells text.toList words) (hwell : WellSpaced names words) :
    search unicode.numberOf none (lower text).toList = false := by
  cases hsearch : search unicode.numberOf none (lower text).toList with
  | false => rfl
  | true =>
    obtain ⟨first, rest, b, htext, hnumber⟩ := search_eq_true hsearch
    rw [Unicode.numberOf, Bool.and_eq_true, Bool.and_eq_true] at hnumber
    obtain ⟨⟨-, hhead⟩, hfollows⟩ := hnumber
    obtain ⟨space, after, hdrop, hspace, hne⟩ := ofFollows_eq_true hfollows
    have hdigits : rest.takeWhile unicode.isDecimal ≠ [] := by
      cases rest with
      | nil => cases hhead
      | cons c rest =>
        have hc : unicode.isDecimal c = true := hhead
        rw [List.takeWhile_cons_of_pos hc]
        exact List.cons_ne_nil _ _
    obtain ⟨digits, c, hsplit⟩ := (List.eq_nil_or_concat _).resolve_left hdigits
    rw [List.concat_eq_append] at hsplit
    have hc : unicode.isDecimal c = true :=
      List.mem_takeWhile_imp (l := rest) (hsplit ▸ List.mem_append_right _ List.mem_cons_self)
    have htext' : text.toList.map lowerChar =
        (first ++ digits) ++ c :: (space ++ 'o' :: 'f' :: after) := by
      rw [lower, String.toList_ofList] at htext
      rw [htext, ← @List.takeWhile_append_dropWhile _ unicode.isDecimal rest, hsplit, hdrop]
      simp
    have hdigit : unicode.isDigit c = true := (Bool.and_eq_true _ _ ▸ hc).1
    have hnospace : isSpace c = false := by
      cases hspacec : isSpace c with
      | false => rfl
      | true =>
        rw [unicode.isDigit_space c hspacec] at hdigit
        cases hdigit
    refine (no_of hspells hwell htext' hnospace ?_ hspace hne).elim
    have hascii (d : Char) (hd : d ∈ ['t', 'd', 'r', '(', ')']) : unicode.isDigit d = false := by
      have hsmall : ∀ d ∈ ['t', 'd', 'r', '(', ')'], d.toNat < 128 ∧ d.isDigit = false := by simp
      rw [unicode.isDigit_ascii d (hsmall d hd).1, (hsmall d hd).2]
    intro hmem
    rw [hascii c hmem] at hdigit
    cases hdigit

/-- Nor an `all`. -/
theorem no_allOf (hspells : Spells text.toList words) (hwell : WellSpaced names words) :
    search unicode.allOf none (lower text).toList = false := by
  cases hsearch : search unicode.allOf none (lower text).toList with
  | false => rfl
  | true =>
    obtain ⟨first, rest, b, htext, hall⟩ := search_eq_true hsearch
    unfold Unicode.allOf at hall
    rw [Bool.and_eq_true] at hall
    obtain ⟨-, hrest⟩ := hall
    split at hrest
    · next rest =>
      obtain ⟨space, after, rfl, hspace, hne⟩ := ofFollows_eq_true hrest
      rw [lower, String.toList_ofList] at htext
      have hlower : text.toList.map lowerChar =
          (first ++ ['a', 'l']) ++ 'l' :: (space ++ 'o' :: 'f' :: after) := by
        rw [htext]
        simp
      exact (no_of hspells hwell hlower (by decide) (by decide) hspace hne).elim
    · cases hrest

/-- **The screen** lets the text of a phrase pass just where it has none of the three words. -/
theorem screen_eq_ok (hspells : Spells text.toList words) (hwell : WellSpaced names words) :
    screen unicode text = .ok () ↔ ∀ word ∈ stopWords, involves word text = false := by
  have hsigns : (text.toList.any fun c => c == '*' || c == '?') = false := by
    rw [List.any_eq_false]
    intro c hc hsign
    simp only [Bool.or_eq_true, beq_iff_eq] at hsign
    rcases hspells.chars hc with h | h | h | h
    · rcases hsign with rfl | rfl <;> cases h
    · rcases hsign with rfl | rfl <;> cases h
    · rcases hsign with rfl | rfl <;> cases h
    · rcases hsign with rfl | rfl <;> cases h
  have hnone : (bannedConstructs.find? fun banned => involves banned text) = none ↔
      ∀ word ∈ stopWords, involves word text = false := by
    rw [List.find?_eq_none]
    constructor
    · intro h word hword
      have hmem : word ∈ bannedConstructs :=
        (by decide : ∀ word ∈ stopWords, word ∈ bannedConstructs) word hword
      exact Bool.eq_false_iff.mpr (h word hmem)
    · intro h word hword
      by_cases hstop : word ∈ stopWords
      · exact Bool.eq_false_iff.mp (h word hstop)
      · exact Bool.eq_false_iff.mp (not_involves hspells hwell hword hstop)
  rw [← hnone, screen]
  cases hfind : bannedConstructs.find? fun banned => involves banned text with
  | none =>
    have hquiet : (search unicode.numberOf none (lower text).toList ||
        search unicode.allOf none (lower text).toList) = false := by
      rw [no_numberOf hspells hwell, no_allOf hspells hwell]
      rfl
    simp only [hquiet, hsigns, Bool.false_eq_true, if_false]
  | some banned => simp

end Screen

/-! ## Conditions -/

section Conditions

variable (py : Python) (unicode : Unicode) {names : List String} {frames : Nat} {condition : String}

theorem tokenize_eq_ok {text : String} {words : List String} :
    tokenize py unicode text = .ok words ↔
      text.length ≤ maxSigmaConditionLength ∧ screen unicode (strip text) = .ok () ∧
        tokenizeFrom py text.length text.toList = .ok words ∧ words ≠ [] := by
  unfold tokenize
  by_cases hlength : maxSigmaConditionLength < text.length
  · rw [if_pos hlength]
    constructor
    · intro h
      cases h
    · rintro ⟨h, -⟩
      omega
  · rw [if_neg hlength]
    have hle : text.length ≤ maxSigmaConditionLength := by omega
    cases hscreen : screen unicode (strip text) with
    | error e => simp [bind, Except.bind]
    | ok u =>
      cases htokens : tokenizeFrom py text.length text.toList with
      | error e => simp [bind, Except.bind]
      | ok tokens =>
        by_cases hempty : tokens = []
        · subst hempty
          simp only [bind, Except.bind, pure, Except.pure, if_true, reduceCtorEq, false_iff]
          rintro ⟨-, -, h, hne⟩
          cases h
          exact hne rfl
        · simp only [bind, Except.bind, pure, Except.pure, hempty, if_false, Except.ok.injEq]
          constructor
          · rintro rfl
            exact ⟨hle, trivial, rfl, hempty⟩
          · exact fun h => h.2.2.1

/-- The condition is an or-expression whose derivation nests at most so deep. -/
def Derives (names : List String) (depth : Nat) (condition : String) : Prop :=
  ∃ words tree, Spells (strip condition).toList words ∧ Phrase names depth .or words tree

/-- The condition is read, as a tree over these words. -/
theorem conditionTree_eq_ok (hnames : ∀ name ∈ names, isSelectionName name.toList = true)
    (hlength : (strip condition).length ≤ maxSigmaConditionLength) {tree : Node} :
    conditionTree names py unicode frames condition = .ok tree ↔
      ∃ words, Spells (strip condition).toList words ∧ Phrase names frames .or words tree ∧
        ∀ word ∈ stopWords, involves word (strip condition) = false := by
  have hread : conditionTree names py unicode frames condition = .ok tree ↔
      ∃ words, tokenize py unicode (strip condition) = .ok words ∧
        parse names frames words = .ok tree := by
    unfold conditionTree
    cases tokenize py unicode (strip condition) with
    | error e => simp [Except.mapError, bind, Except.bind]
    | ok words => simp [Except.mapError, bind, Except.bind]
  rw [hread]
  constructor
  · rintro ⟨words, htokens, hparse⟩
    obtain ⟨-, hscreen, hfrom, -⟩ := (tokenize_eq_ok py unicode).mp htokens
    have hphrase : Phrase names frames .or words tree := parse_eq_ok.mp hparse
    have hspells : Spells (strip condition).toList words := by
      refine spells_of_tokenizeFrom hfrom (Nat.le_of_eq (String.length_toList)) fun word hword => ?_
      exact (hphrase.wellSpaced.known word hword).imp_right (hnames word)
    rw [strip_strip, screen_eq_ok hspells hphrase.wellSpaced] at hscreen
    exact ⟨words, hspells, hphrase, hscreen⟩
  · rintro ⟨words, hspells, hphrase, hstop⟩
    refine ⟨words, (tokenize_eq_ok py unicode).mpr ⟨hlength, ?_, ?_, hphrase.wellSpaced.nonempty⟩,
      parse_eq_ok.mpr hphrase⟩
    · rw [strip_strip]
      exact (screen_eq_ok hspells hphrase.wellSpaced).mpr hstop
    · exact tokenizeFrom_of_spells hspells (Nat.le_of_eq (String.length_toList))

/-- The parser reads the condition just where the grammar derives it, and the leaves of the tree are the
    names in the text. -/
def ReadsItsGrammar (names : List String) (frames : Nat) (condition : String) : Prop :=
  ((∃ tree, conditionTree names py unicode frames condition = .ok tree) ↔
      ∃ depth, Derives names depth condition) ∧
    ∀ tree, conditionTree names py unicode frames condition = .ok tree →
      ∃ words, Spells (strip condition).toList words ∧ tree.leaves = selections words

/-- **Exactness.**  The parser reads its grammar just where a derivable condition nests no deeper than the
    stack and has none of the three words in it, not even inside a name. -/
theorem readsItsGrammar_iff (hnames : ∀ name ∈ names, isSelectionName name.toList = true)
    (hlength : (strip condition).length ≤ maxSigmaConditionLength) :
    ReadsItsGrammar py unicode names frames condition ↔
      ∀ depth, Derives names depth condition →
        Derives names frames condition ∧
          ∀ word ∈ stopWords, involves word (strip condition) = false := by
  constructor
  · rintro ⟨hiff, -⟩ depth hderives
    obtain ⟨tree, htree⟩ := hiff.mpr ⟨depth, hderives⟩
    obtain ⟨words, hspells, hphrase, hstop⟩ :=
      (conditionTree_eq_ok py unicode hnames hlength).mp htree
    exact ⟨⟨words, tree, hspells, hphrase⟩, hstop⟩
  · intro h
    refine ⟨⟨?_, ?_⟩, ?_⟩
    · rintro ⟨tree, htree⟩
      obtain ⟨words, hspells, hphrase, -⟩ :=
        (conditionTree_eq_ok py unicode hnames hlength).mp htree
      exact ⟨frames, words, tree, hspells, hphrase⟩
    · rintro ⟨depth, hderives⟩
      obtain ⟨⟨words, tree, hspells, hphrase⟩, hstop⟩ := h depth hderives
      exact ⟨tree, (conditionTree_eq_ok py unicode hnames hlength).mpr
        ⟨words, hspells, hphrase, hstop⟩⟩
    · intro tree htree
      obtain ⟨words, hspells, hphrase, -⟩ :=
        (conditionTree_eq_ok py unicode hnames hlength).mp htree
      exact ⟨words, hspells, hphrase.leaves⟩

end Conditions

/-! ## Samples -/

/-- An interpreter that renders nothing. -/
def wordlessPython : Python := ⟨fun _ => "", fun _ => "", fun _ _ => .ok none⟩

/-- The classes of the ASCII characters. -/
def asciiUnicode : Unicode where
  toDigits := .ascii
  isWord := isNameChar
  isDigit_space c hc := by
    cases hdigit : c.isDigit with
    | false => exact hdigit
    | true => rw [isSpace_of_isDigit hdigit] at hc; cases hc

/-- A name alone is an or-expression. -/
theorem derives_name {name : String} (hname : isSelectionName name.toList = true)
    (hstrip : strip name = name) (htoken : wordToken name.toList = name)
    (hreserved : name ∉ reserved) : Derives [name] 4 name := by
  have hspells : Spells ([] ++ name.toList ++ []) [wordToken name.toList] :=
    .word (by simp) hname (by simp) .nil
  rw [htoken, List.nil_append, List.append_nil] at hspells
  refine ⟨[name], .selection name, by rw [hstrip]; exact hspells, [.selection name], .one ?_, rfl⟩
  refine ⟨[.selection name], .one (.inr (.inr ?_)), rfl⟩
  exact ⟨name, List.mem_singleton_self name, hreserved, rfl, rfl⟩

/-- A condition that is the name of a selection is read just where none of the three words is in it. -/
theorem selection_readsItsGrammar :
    ReadsItsGrammar wordlessPython asciiUnicode ["selection"] 900 "selection" ↔
      ∀ depth, Derives ["selection"] depth "selection" →
        Derives ["selection"] 900 "selection" ∧
          ∀ word ∈ stopWords, involves word (strip "selection") = false :=
  readsItsGrammar_iff wordlessPython asciiUnicode (by decide +kernel) (by decide +kernel)

/-- A selection called `near_login` is refused although the grammar derives it. -/
theorem nearLogin_refused :
    ¬ ReadsItsGrammar wordlessPython asciiUnicode ["near_login"] 900 "near_login" := by
  rintro ⟨hiff, -⟩
  have hderives : Derives ["near_login"] 4 "near_login" :=
    derives_name (by decide +kernel) (by decide +kernel) (by decide +kernel) (by decide +kernel)
  obtain ⟨tree, htree⟩ := hiff.mpr ⟨4, hderives⟩
  have hrefused : (conditionTree ["near_login"] wordlessPython asciiUnicode 900 "near_login").toOption.isNone := by
    decide +kernel
  rw [htree] at hrefused
  cases hrefused

end SiemDashboard.SigmaPlayground
