import Mathlib.Algebra.BigOperators.Group.List.Basic
import Mathlib.Data.List.Sort
import Mathlib.Logic.Function.Basic

/-!
# Tables with serial ids

A table maps the ids handed out so far to rows.  The two facts every table relies on are fields
of the structure: no id is used before it is handed out, and a row carries its own id.

* **Statements** — `Table.insert`, `Table.update` (`UPDATE … WHERE id = … AND … RETURNING`),
  `Table.updateAll` (`UPDATE … WHERE …`), `Table.delete` (`DELETE … WHERE …`), `Table.rows` (all
  rows, oldest id first).
* **Frame lemmas** — what each statement does to each row.
* **Evolution** — `Table.Evolution`: what a table has become, row by row.
* **Totals** — `Table.total`: the sum of a quantity over all rows, and what each statement does to
  it.
-/

namespace Tables

open Function

/-- A table of rows `ρ` with a serial primary key. -/
structure Table (ρ : Type) (key : ρ → Nat) where
  next : Nat
  row? : Nat → Option ρ
  fresh : ∀ id, next ≤ id → row? id = none
  keyed : ∀ id r, row? id = some r → key r = id

namespace Table

variable {ρ : Type} {key : ρ → Nat}

/-- The table without rows; serial ids start at one. -/
def empty : Table ρ key where
  next := 1
  row? _ := none
  fresh _ _ := rfl
  keyed _ _ h := by cases h

theorem lt_next (t : Table ρ key) {id : Nat} {r : ρ} (h : t.row? id = some r) : id < t.next := by
  by_contra hlt
  rw [t.fresh id (by omega)] at h
  cases h

/-- Insert the row made for the next id. -/
def insert (t : Table ρ key) (mk : Nat → ρ) (hmk : ∀ id, key (mk id) = id) : Table ρ key where
  next := t.next + 1
  row? := update t.row? t.next (some (mk t.next))
  fresh id h := by
    rw [update_of_ne (by omega)]
    exact t.fresh id (by omega)
  keyed id r h := by
    by_cases hid : id = t.next
    · subst hid
      rw [update_self] at h
      cases h
      exact hmk _
    · rw [update_of_ne hid] at h
      exact t.keyed id r h

/-- Rewrite the row with the given id, if it exists and satisfies the guard. -/
def update (t : Table ρ key) (id : Nat) (guard : ρ → Bool) (f : ρ → ρ)
    (hf : ∀ r, key (f r) = key r) : Table ρ key where
  next := t.next
  row? := Function.update t.row? id
    ((t.row? id).map fun r => if guard r then f r else r)
  fresh j h := by
    by_cases hj : j = id
    · subst hj
      simp [t.fresh j h]
    · rw [update_of_ne hj]
      exact t.fresh j h
  keyed j r h := by
    by_cases hj : j = id
    · subst hj
      rw [update_self, Option.map_eq_some_iff] at h
      obtain ⟨r', hr', rfl⟩ := h
      split
      · rw [hf, t.keyed j r' hr']
      · exact t.keyed j r' hr'
    · rw [update_of_ne hj] at h
      exact t.keyed j r h

/-- Rewrite every row that satisfies the guard. -/
def updateAll (t : Table ρ key) (guard : ρ → Bool) (f : ρ → ρ) (hf : ∀ r, key (f r) = key r) :
    Table ρ key where
  next := t.next
  row? id := (t.row? id).map fun r => if guard r then f r else r
  fresh id h := by simp [t.fresh id h]
  keyed id r h := by
    obtain ⟨r', hr', rfl⟩ := Option.map_eq_some_iff.mp h
    split
    · rw [hf, t.keyed id r' hr']
    · exact t.keyed id r' hr'

/-- `DELETE … WHERE …`. -/
def delete (t : Table ρ key) (guard : ρ → Bool) : Table ρ key where
  next := t.next
  row? id := (t.row? id).filter fun r => !guard r
  fresh id h := by simp [t.fresh id h]
  keyed id r h := t.keyed id r (Option.filter_eq_some_iff.mp h).1

/-- The row an `UPDATE … RETURNING` gives back: none when no row matched. -/
def returning (t : Table ρ key) (id : Nat) (guard : ρ → Bool) (f : ρ → ρ) : Option ρ :=
  ((t.row? id).filter guard).map f

/-- All rows, by ascending id. -/
def rows (t : Table ρ key) : List ρ := (List.range t.next).filterMap t.row?

@[simp] theorem empty_row? (id : Nat) : (empty : Table ρ key).row? id = none := rfl

@[simp] theorem empty_rows : (empty : Table ρ key).rows = [] := rfl

theorem insert_row? (t : Table ρ key) (mk : Nat → ρ) (hmk : ∀ id, key (mk id) = id) (id : Nat) :
    (t.insert mk hmk).row? id = if id = t.next then some (mk t.next) else t.row? id := by
  by_cases hid : id = t.next
  · subst hid
    simp [insert]
  · simp [insert, hid]

@[simp] theorem insert_next (t : Table ρ key) (mk : Nat → ρ) (hmk : ∀ id, key (mk id) = id) :
    (t.insert mk hmk).next = t.next + 1 := rfl

theorem insert_row?_of_some (t : Table ρ key) (mk : Nat → ρ) (hmk : ∀ id, key (mk id) = id)
    {id : Nat} {r : ρ} (h : t.row? id = some r) : (t.insert mk hmk).row? id = some r := by
  rw [insert_row?, if_neg (Nat.ne_of_lt (t.lt_next h)), h]

theorem update_row? (t : Table ρ key) (id : Nat) (guard : ρ → Bool) (f : ρ → ρ)
    (hf : ∀ r, key (f r) = key r) (j : Nat) :
    (t.update id guard f hf).row? j =
      if j = id then (t.row? id).map fun r => if guard r then f r else r else t.row? j := by
  by_cases hj : j = id
  · subst hj
    simp [update]
  · simp [update, hj]

@[simp] theorem update_row?_of_ne (t : Table ρ key) {id j : Nat} (guard : ρ → Bool) (f : ρ → ρ)
    (hf : ∀ r, key (f r) = key r) (hj : j ≠ id) :
    (t.update id guard f hf).row? j = t.row? j := by
  rw [update_row?, if_neg hj]

/-- An update of one row is one of all rows with that id. -/
theorem update_row?_eq_map (t : Table ρ key) (id : Nat) (guard : ρ → Bool) (f : ρ → ρ)
    (hf : ∀ r, key (f r) = key r) (j : Nat) :
    (t.update id guard f hf).row? j =
      (t.row? j).map fun r => if key r = id ∧ guard r = true then f r else r := by
  rw [update_row?]
  split
  · next hj =>
    subst hj
    cases hr : t.row? j with
    | none => rfl
    | some r => simp [t.keyed j r hr]
  · next hj =>
    cases hr : t.row? j with
    | none => rfl
    | some r => simp [t.keyed j r hr, hj]

@[simp] theorem update_next (t : Table ρ key) (id : Nat) (guard : ρ → Bool) (f : ρ → ρ)
    (hf : ∀ r, key (f r) = key r) : (t.update id guard f hf).next = t.next := rfl

theorem returning_eq_some {t : Table ρ key} {id : Nat} {guard : ρ → Bool} {f : ρ → ρ} {r : ρ} :
    t.returning id guard f = some r ↔ ∃ r₀, t.row? id = some r₀ ∧ guard r₀ ∧ f r₀ = r := by
  simp [returning, Option.filter_eq_some_iff, and_assoc]

theorem returning_key {t : Table ρ key} {id : Nat} {guard : ρ → Bool} {f : ρ → ρ}
    (hf : ∀ r, key (f r) = key r) {r : ρ} (h : t.returning id guard f = some r) : key r = id := by
  obtain ⟨r₀, hr₀, -, rfl⟩ := returning_eq_some.mp h
  rw [hf, t.keyed id r₀ hr₀]

theorem mem_rows {t : Table ρ key} {r : ρ} : r ∈ t.rows ↔ t.row? (key r) = some r := by
  simp only [rows, List.mem_filterMap, List.mem_range]
  constructor
  · rintro ⟨id, -, h⟩
    rwa [t.keyed id r h]
  · exact fun h => ⟨key r, t.lt_next h, h⟩

theorem insert_rows (t : Table ρ key) (mk : Nat → ρ) (hmk : ∀ id, key (mk id) = id) :
    (t.insert mk hmk).rows = t.rows ++ [mk t.next] := by
  have hold : (List.range t.next).filterMap (t.insert mk hmk).row? = t.rows := by
    refine List.filterMap_congr fun id hid => ?_
    rw [insert_row?, if_neg (by simp only [List.mem_range] at hid; omega)]
  rw [rows, insert_next, List.range_succ, List.filterMap_append, hold]
  simp [insert_row?]

theorem update_rows (t : Table ρ key) (id : Nat) (guard : ρ → Bool) (f : ρ → ρ)
    (hf : ∀ r, key (f r) = key r) :
    (t.update id guard f hf).rows =
      t.rows.map fun r => if key r = id ∧ guard r = true then f r else r := by
  rw [rows, rows, update_next, List.map_filterMap]
  exact List.filterMap_congr fun j _ => update_row?_eq_map t id guard f hf j

/-- The first row that meets a condition, after an insertion. -/
theorem find?_insert_rows (t : Table ρ key) (mk : Nat → ρ) (hmk : ∀ id, key (mk id) = id)
    (p : ρ → Bool) : (t.insert mk hmk).rows.find? p =
      (t.rows.find? p).or (if p (mk t.next) then some (mk t.next) else none) := by
  rw [insert_rows, List.find?_append, List.find?_singleton]

/-- The first row that meets a condition, after an update that the condition does not notice. -/
theorem find?_update_rows (t : Table ρ key) (id : Nat) (guard : ρ → Bool) (f : ρ → ρ)
    (hf : ∀ r, key (f r) = key r) {p : ρ → Bool} (hp : ∀ r, p (f r) = p r) :
    (t.update id guard f hf).rows.find? p =
      (t.rows.find? p).map fun r => if key r = id ∧ guard r = true then f r else r := by
  rw [update_rows, List.find?_map]
  congr 2
  funext r
  dsimp only [Function.comp_apply]
  split
  · exact hp r
  · rfl

/-- The rows come with distinct ids. -/
theorem rows_distinct (t : Table ρ key) : t.rows.Pairwise fun r r' => key r ≠ key r' := by
  refine List.Pairwise.filterMap t.row? ?_ List.pairwise_lt_range
  intro id id' hlt r hr r' hr'
  rw [t.keyed id r hr, t.keyed id' r' hr']
  omega

/-- A row after an update: another row as it was, or the updated row where the guard held. -/
theorem update_cases {t : Table ρ key} {id : Nat} {guard : ρ → Bool} {f : ρ → ρ}
    {hf : ∀ r, key (f r) = key r} {j : Nat} {r' : ρ}
    (h : (t.update id guard f hf).row? j = some r') :
    t.row? j = some r' ∨ ∃ r, j = id ∧ t.row? id = some r ∧ guard r ∧ r' = f r := by
  rw [update_row?] at h
  split at h
  · next hj =>
    obtain ⟨r, hr, rfl⟩ := Option.map_eq_some_iff.mp h
    by_cases hg : guard r
    · exact .inr ⟨r, hj, hr, hg, by simp [hg]⟩
    · exact .inl (by simp [hg, hj, hr])
  · exact .inl h

/-- The element stands at one place of the list. -/
def OnceIn {α : Type} (a : α) (l : List α) : Prop :=
  ∃ before after, l = before ++ a :: after ∧ a ∉ before ∧ a ∉ after

/-- A row is shown once among rows of different ids, where what is shown tells the id. -/
theorem onceIn_map {α : Type} {f : ρ → α} {rows : List ρ}
    (hdistinct : rows.Pairwise fun r r' => key r ≠ key r') {r : ρ} (hr : r ∈ rows)
    (hkey : ∀ r', f r' = f r → key r' = key r) : OnceIn (f r) (rows.map f) := by
  obtain ⟨before, after, rfl⟩ := List.append_of_mem hr
  rw [List.pairwise_append, List.pairwise_cons] at hdistinct
  obtain ⟨-, ⟨hafter, -⟩, hbefore⟩ := hdistinct
  refine ⟨before.map f, after.map f, by simp, fun h => ?_, fun h => ?_⟩
  · obtain ⟨r', hr', heq⟩ := List.mem_map.mp h
    exact hbefore r' hr' r List.mem_cons_self (hkey r' heq)
  · obtain ⟨r', hr', heq⟩ := List.mem_map.mp h
    exact hafter r' hr' (hkey r' heq).symm

/-- Where the guard fails nothing is updated. -/
theorem update_eq_of_returning_none {t : Table ρ key} {id : Nat} {guard : ρ → Bool} {f : ρ → ρ}
    {hf : ∀ r, key (f r) = key r} (h : t.returning id guard f = none) (j : Nat) :
    (t.update id guard f hf).row? j = t.row? j := by
  rw [update_row?]
  split
  · next hj =>
    subst hj
    cases hr : t.row? j with
    | none => rfl
    | some r =>
      have hg : guard r = false := by
        cases hg : guard r with
        | false => rfl
        | true => simp [returning, hr, hg, Option.filter] at h
      simp [hg]
  · rfl

/-! ## Evolution -/

/-- How a table comes out of some statements: a row is new, or comes out of the row that was there;
    and no row is lost. -/
structure Evolution (new : ρ → Prop) (step : ρ → ρ → Prop) (t t' : Table ρ key) : Prop where
  next_le : t.next ≤ t'.next
  row : ∀ {id : Nat} {r' : ρ}, t'.row? id = some r' →
    (t.next ≤ id ∧ new r') ∨ ∃ r, t.row? id = some r ∧ step r r'
  kept : ∀ {id : Nat} {r : ρ}, t.row? id = some r → ∃ r', t'.row? id = some r' ∧ step r r'

section Evolution

variable {new : ρ → Prop} {step : ρ → ρ → Prop} {t t' t'' : Table ρ key}

theorem Evolution.refl (hrefl : ∀ r, step r r) (t : Table ρ key) : Evolution new step t t where
  next_le := Nat.le_refl _
  row h := .inr ⟨_, h, hrefl _⟩
  kept h := ⟨_, h, hrefl _⟩

theorem Evolution.insert (hrefl : ∀ r, step r r) {mk : Nat → ρ} (hmk : ∀ id, key (mk id) = id)
    (hnew : new (mk t.next)) : Evolution new step t (t.insert mk hmk) where
  next_le := Nat.le_succ _
  row := by
    intro id r' h
    rw [insert_row?] at h
    split at h
    · next hid =>
      cases h
      exact .inl ⟨by omega, hnew⟩
    · exact .inr ⟨r', h, hrefl r'⟩
  kept h := ⟨_, t.insert_row?_of_some mk hmk h, hrefl _⟩

/-- An update, where the step may depend on the row. -/
theorem Evolution.update_of {id : Nat} {guard : ρ → Bool} {f : ρ → ρ}
    (hf : ∀ r, key (f r) = key r) (hother : ∀ r, key r ≠ id → step r r)
    (hrow : ∀ r, t.row? id = some r → step r (if guard r then f r else r)) :
    Evolution new step t (t.update id guard f hf) := by
  have hstep {j : Nat} {r : ρ} (hr : t.row? j = some r) :
      step r (if key r = id ∧ guard r = true then f r else r) := by
    have hj : key r = j := t.keyed j r hr
    by_cases hid : j = id
    · subst hid
      simpa [hj] using hrow r hr
    · simpa [hj, hid] using hother r (hj ▸ hid)
  refine ⟨Nat.le_refl _, fun {j r'} h => ?_, fun {j r} h => ⟨_, ?_, hstep h⟩⟩
  · rw [update_row?_eq_map] at h
    obtain ⟨r, hr, rfl⟩ := Option.map_eq_some_iff.mp h
    exact .inr ⟨r, hr, hstep hr⟩
  · rw [update_row?_eq_map, h, Option.map_some]

theorem Evolution.update (hrefl : ∀ r, step r r) {id : Nat} {guard : ρ → Bool} {f : ρ → ρ}
    (hf : ∀ r, key (f r) = key r)
    (h : ∀ r, t.row? id = some r → guard r = true → step r (f r)) :
    Evolution new step t (t.update id guard f hf) := by
  refine Evolution.update_of hf (fun r _ => hrefl r) fun r hr => ?_
  split
  · next hguard => exact h r hr hguard
  · exact hrefl r

theorem Evolution.trans (hnew : ∀ r r', new r → step r r' → new r')
    (htrans : ∀ r r' r'', step r r' → step r' r'' → step r r'') (h : Evolution new step t t')
    (h' : Evolution new step t' t'') : Evolution new step t t'' where
  next_le := h.next_le.trans h'.next_le
  row := by
    intro id r'' hrow
    rcases h'.row hrow with ⟨hid, hr⟩ | ⟨r', hr', hstep'⟩
    · exact .inl ⟨h.next_le.trans hid, hr⟩
    · rcases h.row hr' with ⟨hid, hr⟩ | ⟨r, hr, hstep⟩
      · exact .inl ⟨hid, hnew r' r'' hr hstep'⟩
      · exact .inr ⟨r, hr, htrans r r' r'' hstep hstep'⟩
  kept := by
    intro id r hr
    obtain ⟨r', hr', hstep⟩ := h.kept hr
    obtain ⟨r'', hr'', hstep'⟩ := h'.kept hr'
    exact ⟨r'', hr'', htrans r r' r'' hstep hstep'⟩

theorem Evolution.mono {new' : ρ → Prop} {step' : ρ → ρ → Prop} (h : Evolution new step t t')
    (hnew : ∀ r, new r → new' r) (hstep : ∀ r r', step r r' → step' r r') :
    Evolution new' step' t t' where
  next_le := h.next_le
  row hrow := (h.row hrow).imp (And.imp_right (hnew _)) fun ⟨r, hr, hs⟩ => ⟨r, hr, hstep _ _ hs⟩
  kept hrow := let ⟨r', hr', hs⟩ := h.kept hrow; ⟨r', hr', hstep _ _ hs⟩

end Evolution

/-! ## Totals -/

section Total

variable {M : Type} [AddCommMonoid M]

/-- The sum of a quantity over all rows. -/
def total (t : Table ρ key) (f : ρ → M) : M := (t.rows.map f).sum

@[simp] theorem total_empty (f : ρ → M) : (empty : Table ρ key).total f = 0 := rfl

/-- The sum over the first ids. -/
def totalBelow (row? : Nat → Option ρ) (f : ρ → M) (n : Nat) : M :=
  (((List.range n).filterMap row?).map f).sum

theorem totalBelow_succ (row? : Nat → Option ρ) (f : ρ → M) (n : Nat) :
    totalBelow row? f (n + 1) = totalBelow row? f n + ((row? n).map f).getD 0 := by
  unfold totalBelow
  rw [List.range_succ, List.filterMap_append, List.map_append, List.sum_append]
  cases hrow : row? n <;> simp [hrow]

theorem totalBelow_congr {row? row?' : Nat → Option ρ} {f g : ρ → M} {n : Nat}
    (h : ∀ id, id < n → (row? id).map f = (row?' id).map g) :
    totalBelow row? f n = totalBelow row?' g n := by
  induction n with
  | zero => rfl
  | succ n ih =>
    rw [totalBelow_succ, totalBelow_succ, ih fun id hid => h id (by omega), h n (by omega)]

theorem total_insert (t : Table ρ key) (mk : Nat → ρ) (hmk : ∀ id, key (mk id) = id)
    (f : ρ → M) : (t.insert mk hmk).total f = t.total f + f (mk t.next) := by
  have hold : totalBelow (t.insert mk hmk).row? f t.next = totalBelow t.row? f t.next :=
    totalBelow_congr fun id hid => by rw [insert_row?, if_neg (by omega)]
  calc (t.insert mk hmk).total f
      = totalBelow (t.insert mk hmk).row? f (t.next + 1) := rfl
    _ = totalBelow t.row? f t.next + f (mk t.next) := by
        rw [totalBelow_succ, hold, insert_row?]
        simp

/-- An update replaces the row's share of the total. -/
theorem total_update (t : Table ρ key) {id : Nat} (guard : ρ → Bool) (g : ρ → ρ)
    (hg : ∀ r, key (g r) = key r) (f : ρ → M) {r : ρ} (hr : t.row? id = some r)
    (hguard : guard r = true) :
    (t.update id guard g hg).total f + f r = t.total f + f (g r) := by
  have hstep (n : Nat) : totalBelow (t.update id guard g hg).row? f n + (if id < n then f r else 0)
      = totalBelow t.row? f n + (if id < n then f (g r) else 0) := by
    induction n with
    | zero => simp [totalBelow]
    | succ n ih =>
      rw [totalBelow_succ, totalBelow_succ, update_row?]
      rcases Nat.lt_trichotomy id n with hlt | rfl | hgt
      · rw [if_neg (by omega : n ≠ id), if_pos (by omega), if_pos (by omega)]
        rw [if_pos hlt, if_pos hlt] at ih
        rw [add_right_comm, ih, add_right_comm]
      · rw [if_neg (by omega), if_neg (by omega), add_zero, add_zero] at ih
        rw [ih, hr]
        simp [hguard, add_assoc, add_comm (f r)]
      · rw [if_neg (by omega : n ≠ id), if_neg (by omega), if_neg (by omega)]
        rw [if_neg (by omega), if_neg (by omega), add_zero, add_zero] at ih
        simp [ih]
  have hlt : id < t.next := t.lt_next hr
  have hall := hstep t.next
  rwa [if_pos hlt, if_pos hlt] at hall

end Total

end Table

end Tables
