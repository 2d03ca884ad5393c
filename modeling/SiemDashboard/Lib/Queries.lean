import Mathlib.Algebra.Order.Ring.Int
import Mathlib.Data.List.Sort

/-!
# Queries that ask for the newest rows first

`ORDER BY time DESC` leaves open in which order the rows of one time come.

* **Answers** — `NewestFirst`: a way to answer such a query; `NewestFirst.stable`.
* **Rules** — `NewestFirst.head_newest`, `NewestFirst.exists_head` (any of the newest rows may come
  first), `NewestFirst.exists_before_older` (any row may come after all others that are not older),
  `exists_newest`.
* **Two cuts** — `place`, `mem_take_iff_place`, `keeps_ranks_iff`.
-/

namespace Queries

variable {ρ : Type} {time : ρ → Int}

/-! ## Answers -/

/-- A way to answer queries that ask for the newest rows first. -/
structure NewestFirst (time : ρ → Int) where
  order : List ρ → List ρ
  perm : ∀ rows, (order rows).Perm rows
  sorted : ∀ rows, (order rows).Pairwise fun x y => time y ≤ time x

/-- The row is not older than the other one. -/
def NotOlder (time : ρ → Int) (x y : ρ) : Prop := time y ≤ time x

instance : DecidableRel (NotOlder time) := fun x y => inferInstanceAs (Decidable (time y ≤ time x))

theorem pairwise_notOlder (rows : List ρ) :
    (rows.insertionSort (NotOlder time)).Pairwise fun x y => time y ≤ time x :=
  @List.pairwise_insertionSort _ (NotOlder time) _ ⟨fun x y => le_total (time y) (time x)⟩
    ⟨fun _ _ _ hxy hyz => le_trans hyz hxy⟩ rows

/-- Rows of one time stay in their order. -/
def NewestFirst.stable (time : ρ → Int) : NewestFirst time where
  order rows := rows.insertionSort (NotOlder time)
  perm rows := List.perm_insertionSort (NotOlder time) rows
  sorted rows := pairwise_notOlder rows

/-! ## Rules -/

namespace NewestFirst

variable (query : NewestFirst time) {rows : List ρ} {row : ρ}

theorem mem_order : row ∈ query.order rows ↔ row ∈ rows := (query.perm rows).mem_iff

theorem order_eq_nil : query.order rows = [] ↔ rows = [] := by
  constructor
  · intro hnil
    have hperm := query.perm rows
    rw [hnil] at hperm
    exact hperm.symm.eq_nil
  · rintro rfl
    exact (query.perm []).eq_nil

/-- The first row is one of the newest. -/
theorem head_newest (h : (query.order rows).head? = some row) :
    row ∈ rows ∧ ∀ other ∈ rows, time other ≤ time row := by
  have hsorted := query.sorted rows
  cases hrows : query.order rows with
  | nil =>
    rw [hrows] at h
    cases h
  | cons first rest =>
    rw [hrows] at h hsorted
    obtain rfl : first = row := Option.some.inj h
    have hmem : ∀ other ∈ rows, other = first ∨ other ∈ rest := by
      intro other hother
      rw [← List.mem_cons, ← hrows]
      exact query.mem_order.mpr hother
    refine ⟨query.mem_order.mp (by rw [hrows]; exact List.mem_cons_self), fun other hother => ?_⟩
    rcases hmem other hother with rfl | hrest
    · exact le_refl _
    · exact (List.pairwise_cons.mp hsorted).1 other hrest

/-- What is a right answer for some rows, is the answer in one way. -/
theorem exists_order {answer : List ρ} (hperm : answer.Perm rows)
    (hsorted : answer.Pairwise fun x y => time y ≤ time x) :
    ∃ query : NewestFirst time, query.order rows = answer := by
  classical
  have hperms : ∀ other, (if other = rows then answer else (stable time).order other).Perm other := by
    intro other
    split
    · next hother =>
      rw [hother]
      exact hperm
    · exact (stable time).perm other
  have hsorteds : ∀ other, (if other = rows then answer else (stable time).order other).Pairwise
      fun x y => time y ≤ time x := by
    intro other
    split
    · exact hsorted
    · exact (stable time).sorted other
  exact ⟨⟨_, hperms, hsorteds⟩, if_pos rfl⟩

/-- Any of the newest rows may come first. -/
theorem exists_head (hrow : row ∈ rows) (hnewest : ∀ other ∈ rows, time other ≤ time row) :
    ∃ query : NewestFirst time, (query.order rows).head? = some row := by
  obtain ⟨before, after, rfl⟩ := List.append_of_mem hrow
  have hperm : (row :: (before ++ after).insertionSort (NotOlder time)).Perm
      (before ++ row :: after) :=
    ((List.perm_insertionSort (NotOlder time) _).cons row).trans List.perm_middle.symm
  have hsorted : (row :: (before ++ after).insertionSort (NotOlder time)).Pairwise
      fun x y => time y ≤ time x := by
    refine List.pairwise_cons.mpr ⟨fun other hother => hnewest other ?_, pairwise_notOlder _⟩
    have hmem := (List.mem_insertionSort (NotOlder time)).mp hother
    rw [List.mem_append] at hmem ⊢
    exact hmem.imp_right (List.mem_cons_of_mem row)
  obtain ⟨query, hquery⟩ := exists_order hperm hsorted
  exact ⟨query, by rw [hquery, List.head?_cons]⟩

/-- Any row may come after all the others that are not older. -/
theorem exists_before_older (hrow : row ∈ rows) :
    ∃ (query : NewestFirst time) (newer older : List ρ), query.order rows = newer ++ row :: older ∧
      ∀ other ∈ older, time other < time row := by
  obtain ⟨before, after, rfl⟩ := List.append_of_mem hrow
  let isNewer : ρ → Bool := fun other => decide (time row ≤ time other)
  let newer := ((before ++ after).filter isNewer).insertionSort (NotOlder time)
  let older := ((before ++ after).filter fun other => !isNewer other).insertionSort (NotOlder time)
  have hnewer : ∀ other ∈ newer, time row ≤ time other := by
    intro other hother
    have hmem := List.mem_filter.mp ((List.mem_insertionSort (NotOlder time)).mp hother)
    exact of_decide_eq_true hmem.2
  have holder : ∀ other ∈ older, time other < time row := by
    intro other hother
    have hmem := List.mem_filter.mp ((List.mem_insertionSort (NotOlder time)).mp hother)
    have hnot : ¬ time row ≤ time other := by simpa [isNewer] using hmem.2
    omega
  have hsplit : (newer ++ older).Perm (before ++ after) :=
    ((List.perm_insertionSort (NotOlder time) _).append
      (List.perm_insertionSort (NotOlder time) _)).trans (List.filter_append_perm isNewer _)
  have hperm : (newer ++ row :: older).Perm (before ++ row :: after) :=
    List.perm_middle.trans ((hsplit.cons row).trans List.perm_middle.symm)
  have hsorted : (newer ++ row :: older).Pairwise fun x y => time y ≤ time x := by
    rw [List.pairwise_append, List.pairwise_cons]
    refine ⟨pairwise_notOlder _, ⟨fun other hother => (holder other hother).le,
      pairwise_notOlder _⟩, fun x hx y hy => ?_⟩
    have hx := hnewer x hx
    rcases List.mem_cons.mp hy with rfl | hy
    · exact hx
    · have hy := holder y hy
      omega
  obtain ⟨query, hquery⟩ := exists_order hperm hsorted
  exact ⟨query, newer, older, hquery, holder⟩

end NewestFirst

theorem exists_newest (time : ρ → Int) {rows : List ρ} (h : rows ≠ []) :
    ∃ row ∈ rows, ∀ other ∈ rows, time other ≤ time row := by
  cases hrows : (NewestFirst.stable time).order rows with
  | nil => exact absurd ((NewestFirst.stable time).order_eq_nil.mp hrows) h
  | cons row rest =>
    obtain ⟨hmem, hnewest⟩ := (NewestFirst.stable time).head_newest
      (show ((NewestFirst.stable time).order rows).head? = some row by rw [hrows]; rfl)
    exact ⟨row, hmem, hnewest⟩

/-! ## Two cuts -/

section Cuts

variable {κ : Type} [LinearOrder κ] {key : ρ → κ} {rank : ρ → Nat}

/-- How many rows have a smaller key than the given one. -/
def place (key : ρ → κ) (rows : List ρ) (row : ρ) : Nat :=
  (rows.filter fun other => key other < key row).length

theorem place_perm {rows others : List ρ} (h : rows.Perm others) (row : ρ) :
    place key rows row = place key others row :=
  (h.filter _).length_eq

/-- In a list that is sorted by its keys, the place of a row is where it stands. -/
theorem mem_take_iff_place {listed : List ρ} (hsorted : listed.Pairwise fun x y => key x < key y)
    {row : ρ} (hrow : row ∈ listed) (m : Nat) : row ∈ listed.take m ↔ place key listed row < m := by
  induction listed generalizing m with
  | nil => cases hrow
  | cons first rest ih =>
    rw [List.pairwise_cons] at hsorted
    cases m with
    | zero => simp
    | succ m =>
      rcases List.mem_cons.mp hrow with rfl | hrest
      · have hnone : (rest.filter fun other => key other < key row) = [] := by
          rw [List.filter_eq_nil_iff]
          intro other hother
          have hlt := hsorted.1 other hother
          simpa using hlt.le
        have hplace : place key (row :: rest) row = 0 := by
          unfold place
          rw [List.filter_cons_of_neg (by simp), hnone, List.length_nil]
        rw [hplace]
        simp
      · have hlt := hsorted.1 row hrest
        have hplace : place key (first :: rest) row = place key rest row + 1 := by
          unfold place
          rw [List.filter_cons_of_pos (by simpa using hlt), List.length_cons]
        have hne : row ≠ first := fun heq => by
          rw [heq] at hlt
          exact lt_irrefl _ hlt
        rw [hplace, List.take_succ_cons, List.mem_cons, or_iff_right hne, ih hsorted.2 hrest]
        omega

/-- Rows are ranked and cut, listed by another key and cut again.  No row that is left out ranks before
    one that is kept, just where the keys of the first cut put none that ranks before to the end. -/
theorem keeps_ranks_iff {ranked listed : List ρ} {n m : Nat}
    (hranked : ranked.Pairwise fun x y => rank x ≤ rank y)
    (hlisted : listed.Perm (ranked.take n)) (hsorted : listed.Pairwise fun x y => key x < key y) :
    (∀ a ∈ ranked, ∀ b ∈ ranked, a ∉ listed.take m → b ∈ listed.take m → rank b ≤ rank a) ↔
      ∀ a ∈ ranked.take n, ∀ b ∈ ranked.take n, m ≤ place key (ranked.take n) a →
        place key (ranked.take n) b < m → rank b ≤ rank a := by
  have hkept {x : ρ} (hx : x ∈ ranked.take n) :
      x ∈ listed.take m ↔ place key (ranked.take n) x < m := by
    rw [mem_take_iff_place hsorted (hlisted.mem_iff.mpr hx), place_perm hlisted]
  constructor
  · intro h a ha b hb hout hin
    refine h a (List.mem_of_mem_take ha) b (List.mem_of_mem_take hb) (fun htake => ?_)
      ((hkept hb).mpr hin)
    have hlt := (hkept ha).mp htake
    omega
  · intro h a ha b hb hleft hin
    have hb' : b ∈ ranked.take n := hlisted.mem_iff.mp (List.mem_of_mem_take hin)
    rw [← List.take_append_drop n ranked, List.mem_append] at ha
    rcases ha with ha | ha
    · have hout : ¬ place key (ranked.take n) a < m := fun hlt => hleft ((hkept ha).mpr hlt)
      exact h a ha b hb' (by omega) ((hkept hb').mp hin)
    · rw [← List.take_append_drop n ranked, List.pairwise_append] at hranked
      exact hranked.2.2 b hb' a ha

end Cuts

end Queries
