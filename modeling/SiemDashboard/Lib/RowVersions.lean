import Mathlib.Data.List.Basic
import Mathlib.Logic.Function.Basic

/-!
# Row versions

A table that any number of connections change in transactions, as a database keeps it under READ
COMMITTED: next to the committed version of a row stands at most one version that is not committed yet,
and it belongs to the connection that holds the row's lock.

* **Rows** — `Cell`: that two connections never hold one row is built into its type; `Cell.draft`,
  `Cell.view`, `Cell.isTaken`.
* **Statements on a row** — `Cell.lock`, `Cell.write`, `Cell.commit`, `Cell.rollback`.
* **Tables** — `Store`, whose rows get serial ids, and the statements on it.
* **Partial unique indexes** — `Separate`: no two rows that can meet share a key; each statement's rule.
* **Final rows** — `Settled`: no connection has a new version of a row that is final; each statement's
  rule, and `Settled.commit_row`: such a row stays as it is.
-/

namespace RowVersions

open Function

variable {C V U : Type} [DecidableEq C]

/-! ## Rows -/

/-- The committed version of a row, and the connection that holds its lock, with the version it has
    written. -/
structure Cell (C V : Type) where
  committed : Option V
  held : Option (C × Option V)

namespace Cell

/-- A row that does not exist. -/
def vacant : Cell C V := ⟨none, none⟩

/-- The uncommitted version of the connection. -/
def draft (cell : Cell C V) (c : C) : Option V :=
  match cell.held with
  | some (d, version) => if d = c then version else none
  | none => none

/-- The version the connection sees. -/
def view (cell : Cell C V) (c : C) : Option V := (cell.draft c).or cell.committed

/-- Another connection holds the row. -/
def isTaken (cell : Cell C V) (c : C) : Bool :=
  match cell.held with
  | some (d, _) => d ≠ c
  | none => false

/-- The row's uncommitted version, whoever has written it. -/
def pending (cell : Cell C V) : Option V := cell.held.bind Prod.snd

theorem draft_eq_some {cell : Cell C V} {c : C} {v : V} :
    cell.draft c = some v ↔ cell.held = some (c, some v) := by
  obtain ⟨committed, _ | ⟨d, version⟩⟩ := cell
  · simp [draft]
  · by_cases hd : d = c
    · simp [draft, hd]
    · simp [draft, hd]

/-- Only one connection has an uncommitted version. -/
theorem draft_unique {cell : Cell C V} {c d : C} {v w : V} (hc : cell.draft c = some v)
    (hd : cell.draft d = some w) : c = d := by
  rw [draft_eq_some] at hc hd
  rw [hc] at hd
  simp only [Option.some.injEq, Prod.mk.injEq] at hd
  exact hd.1

theorem pending_of_draft {cell : Cell C V} {c : C} {v : V} (h : cell.draft c = some v) :
    cell.pending = some v := by
  rw [draft_eq_some] at h
  simp [pending, h]

theorem isTaken_of_draft {cell : Cell C V} {c d : C} {v : V} (h : cell.draft d = some v)
    (hne : d ≠ c) : cell.isTaken c = true := by
  rw [draft_eq_some] at h
  simp [isTaken, h, hne]

/-- Nobody else has an uncommitted version of a row that nobody else holds. -/
theorem draft_of_free {cell : Cell C V} {c d : C} (hfree : cell.isTaken c = false) (hne : d ≠ c) :
    cell.draft d = none := by
  cases hdraft : cell.draft d with
  | none => rfl
  | some v =>
    rw [isTaken_of_draft hdraft hne] at hfree
    cases hfree

theorem view_of_draft {cell : Cell C V} {c : C} {v : V} (h : cell.draft c = some v) :
    cell.view c = some v := by
  simp [view, h]

theorem view_of_no_draft {cell : Cell C V} {c : C} (h : cell.draft c = none) :
    cell.view c = cell.committed := by
  simp [view, h]

@[simp] theorem draft_vacant (c : C) : (vacant : Cell C V).draft c = none := rfl

@[simp] theorem view_vacant (c : C) : (vacant : Cell C V).view c = none := rfl

/-! ## Statements on a row -/

/-- `SELECT … FOR UPDATE`. -/
def lock (cell : Cell C V) (c : C) : Cell C V := { cell with held := some (c, cell.draft c) }

/-- Write a new version. -/
def write (cell : Cell C V) (c : C) (v : V) : Cell C V := { cell with held := some (c, some v) }

/-- What the connection has written becomes the row, and it lets go of it. -/
def commit (cell : Cell C V) (c : C) : Cell C V :=
  match cell.held with
  | some (d, version) => if d = c then ⟨version.or cell.committed, none⟩ else cell
  | none => cell

/-- The connection lets go of the row as it was. -/
def rollback (cell : Cell C V) (c : C) : Cell C V :=
  match cell.held with
  | some (d, _) => if d = c then ⟨cell.committed, none⟩ else cell
  | none => cell

@[simp] theorem committed_lock (cell : Cell C V) (c : C) : (cell.lock c).committed = cell.committed :=
  rfl

omit [DecidableEq C] in
@[simp] theorem committed_write (cell : Cell C V) (c : C) (v : V) :
    (cell.write c v).committed = cell.committed := rfl

@[simp] theorem committed_rollback (cell : Cell C V) (c : C) :
    (cell.rollback c).committed = cell.committed := by
  unfold rollback
  split
  · split <;> rfl
  · rfl

/-- What is committed is what the connection saw. -/
@[simp] theorem committed_commit (cell : Cell C V) (c : C) : (cell.commit c).committed = cell.view c := by
  obtain ⟨committed, _ | ⟨d, version⟩⟩ := cell
  · simp [commit, view, draft]
  · by_cases hd : d = c
    · simp [commit, view, draft, hd]
    · simp [commit, view, draft, hd]

theorem draft_lock {cell : Cell C V} {c : C} (hfree : cell.isTaken c = false) (d : C) :
    (cell.lock c).draft d = cell.draft d := by
  by_cases hd : d = c
  · subst hd
    simp [lock, draft]
  · rw [draft_of_free hfree hd]
    simp [lock, draft, Ne.symm hd]

@[simp] theorem draft_write_self (cell : Cell C V) (c : C) (v : V) :
    (cell.write c v).draft c = some v := by
  simp [write, draft]

theorem draft_write_of_ne (cell : Cell C V) {c d : C} (hne : d ≠ c) (v : V) :
    (cell.write c v).draft d = none := by
  simp [write, draft, Ne.symm hne]

@[simp] theorem draft_commit_self (cell : Cell C V) (c : C) : (cell.commit c).draft c = none := by
  obtain ⟨committed, _ | ⟨d, version⟩⟩ := cell
  · simp [commit, draft]
  · by_cases hd : d = c
    · simp [commit, draft, hd]
    · simp [commit, draft, hd]

theorem draft_commit_of_ne (cell : Cell C V) {c d : C} (hne : d ≠ c) :
    (cell.commit c).draft d = cell.draft d := by
  obtain ⟨committed, _ | ⟨e, version⟩⟩ := cell
  · simp [commit, draft]
  · by_cases he : e = c
    · subst he
      simp [commit, draft, Ne.symm hne]
    · simp [commit, draft, he]

@[simp] theorem draft_rollback_self (cell : Cell C V) (c : C) : (cell.rollback c).draft c = none := by
  obtain ⟨committed, _ | ⟨d, version⟩⟩ := cell
  · simp [rollback, draft]
  · by_cases hd : d = c
    · simp [rollback, draft, hd]
    · simp [rollback, draft, hd]

theorem draft_rollback_of_ne (cell : Cell C V) {c d : C} (hne : d ≠ c) :
    (cell.rollback c).draft d = cell.draft d := by
  obtain ⟨committed, _ | ⟨e, version⟩⟩ := cell
  · simp [rollback, draft]
  · by_cases he : e = c
    · subst he
      simp [rollback, draft, Ne.symm hne]
    · simp [rollback, draft, he]

end Cell

/-! ## Tables -/

/-- A table with serial ids; no id is used before it is handed out. -/
structure Store (C V : Type) where
  next : Nat
  cell : Nat → Cell C V
  fresh : ∀ id, next ≤ id → cell id = Cell.vacant

namespace Store

/-- The table without rows; serial ids start at one. -/
def empty : Store C V where
  next := 1
  cell _ := Cell.vacant
  fresh _ _ := rfl

/-- The committed rows. -/
def committed (s : Store C V) (id : Nat) : Option V := (s.cell id).committed

/-- The connection's uncommitted versions. -/
def draft (s : Store C V) (c : C) (id : Nat) : Option V := (s.cell id).draft c

/-- The rows as the connection sees them. -/
def view (s : Store C V) (c : C) (id : Nat) : Option V := (s.cell id).view c

/-- Change one row if it exists. -/
def alter (s : Store C V) (id : Nat) (f : Cell C V → Cell C V) : Store C V where
  next := s.next
  cell id' := if id' = id ∧ id < s.next then f (s.cell id) else s.cell id'
  fresh id' h := by
    rw [if_neg (by omega)]
    exact s.fresh id' h

/-- `SELECT … FOR UPDATE` of one row. -/
def lock (s : Store C V) (c : C) (id : Nat) : Store C V := s.alter id fun cell => cell.lock c

/-- `UPDATE` of one row. -/
def write (s : Store C V) (c : C) (id : Nat) (v : V) : Store C V := s.alter id fun cell => cell.write c v

/-- A row with the next id. -/
def add (s : Store C V) (cell : Cell C V) : Store C V where
  next := s.next + 1
  cell := update s.cell s.next cell
  fresh id h := by
    rw [update_of_ne (by omega)]
    exact s.fresh id (by omega)

/-- `INSERT` of the row made for the next id. -/
def insert (s : Store C V) (c : C) (mk : Nat → V) : Store C V := s.add (Cell.vacant.write c (mk s.next))

/-- A transaction of its own that changes one committed row. -/
def amend (s : Store C V) (id : Nat) (f : V → V) : Store C V :=
  s.alter id fun cell => { cell with committed := cell.committed.map f }

/-- A transaction of its own that inserts a row. -/
def append (s : Store C V) (mk : Nat → V) : Store C V := s.add ⟨some (mk s.next), none⟩

/-- `COMMIT`. -/
def commit (s : Store C V) (c : C) : Store C V where
  next := s.next
  cell id := (s.cell id).commit c
  fresh id h := by
    rw [s.fresh id h]
    rfl

/-- `ROLLBACK`. -/
def rollback (s : Store C V) (c : C) : Store C V where
  next := s.next
  cell id := (s.cell id).rollback c
  fresh id h := by
    rw [s.fresh id h]
    rfl

/-- The first row that the connection sees and that satisfies the condition. -/
def find? (s : Store C V) (c : C) (p : V → Bool) : Option (Nat × V) :=
  (List.range s.next).findSome? fun id => ((s.view c id).filter p).map fun v => (id, v)

/-- Another connection holds a row that satisfies the condition as committed or as it left it. -/
def contested (s : Store C V) (c : C) (p : V → Bool) : Bool :=
  (List.range s.next).any fun id =>
    (s.cell id).isTaken c && ((s.cell id).pending.any p || (s.cell id).committed.any p)

/-! ### What the statements leave -/

variable {s : Store C V} {c : C} {id : Nat} {v : V}

theorem view_eq (s : Store C V) (c : C) (id : Nat) :
    s.view c id = (s.draft c id).or (s.committed id) := rfl

theorem view_of_draft (h : s.draft c id = some v) : s.view c id = some v :=
  Cell.view_of_draft h

theorem view_of_no_draft (h : s.draft c id = none) : s.view c id = s.committed id :=
  Cell.view_of_no_draft h

/-- Only one connection has an uncommitted version of a row. -/
theorem draft_unique {d : C} {w : V} (hc : s.draft c id = some v) (hd : s.draft d id = some w) :
    c = d :=
  Cell.draft_unique hc hd

omit [DecidableEq C] in
theorem committed_of_fresh (h : s.next ≤ id) : s.committed id = none := by
  simp [committed, s.fresh id h, Cell.vacant]

theorem draft_of_fresh (h : s.next ≤ id) : s.draft c id = none := by
  simp [draft, s.fresh id h]

theorem lt_next_of_view (h : s.view c id = some v) : id < s.next := by
  by_contra hle
  rw [view_eq, draft_of_fresh (by omega), committed_of_fresh (by omega)] at h
  cases h

omit [DecidableEq C] in
theorem cell_alter (s : Store C V) (id id' : Nat) (f : Cell C V → Cell C V) :
    (s.alter id f).cell id' = if id' = id ∧ id < s.next then f (s.cell id) else s.cell id' := rfl

@[simp] theorem committed_lock (s : Store C V) (c : C) (id : Nat) :
    (s.lock c id).committed = s.committed := by
  funext id'
  simp only [committed, lock, cell_alter]
  split
  · next h => rw [h.1, Cell.committed_lock]
  · rfl

omit [DecidableEq C] in
@[simp] theorem committed_write (s : Store C V) (c : C) (id : Nat) (v : V) :
    (s.write c id v).committed = s.committed := by
  funext id'
  simp only [committed, write, cell_alter]
  split
  · next h => rw [h.1, Cell.committed_write]
  · rfl

omit [DecidableEq C] in
@[simp] theorem committed_insert (s : Store C V) (c : C) (mk : Nat → V) :
    (s.insert c mk).committed = s.committed := by
  funext id'
  by_cases hid : id' = s.next
  · subst hid
    rw [committed_of_fresh (Nat.le_refl _)]
    simp [committed, insert, add, Cell.write, Cell.vacant]
  · simp [committed, insert, add, hid]

@[simp] theorem committed_commit (s : Store C V) (c : C) : (s.commit c).committed = s.view c := by
  funext id
  exact Cell.committed_commit (s.cell id) c

@[simp] theorem committed_rollback (s : Store C V) (c : C) :
    (s.rollback c).committed = s.committed := by
  funext id
  exact Cell.committed_rollback (s.cell id) c

theorem draft_lock (hfree : (s.cell id).isTaken c = false) (d : C) :
    (s.lock c id).draft d = s.draft d := by
  funext id'
  simp only [draft, lock, cell_alter]
  split
  · next h => rw [h.1, Cell.draft_lock hfree]
  · rfl

/-- A write adds one version, the connection's own. -/
theorem draft_write (hfree : (s.cell id).isTaken c = false) (hid : id < s.next) (v : V) (d : C)
    (id' : Nat) :
    (s.write c id v).draft d id' = if d = c ∧ id' = id then some v else s.draft d id' := by
  simp only [draft, write, cell_alter, hid, and_true]
  by_cases hid' : id' = id
  · subst hid'
    by_cases hd : d = c
    · subst hd
      simp
    · rw [if_pos rfl, if_neg (fun h => hd h.1), Cell.draft_write_of_ne _ hd, Cell.draft_of_free hfree hd]
  · rw [if_neg hid', if_neg (fun h => hid' h.2)]

/-- An insert adds one version, the connection's own. -/
theorem draft_insert (s : Store C V) (c : C) (mk : Nat → V) (d : C) (id' : Nat) :
    (s.insert c mk).draft d id' =
      if d = c ∧ id' = s.next then some (mk s.next) else s.draft d id' := by
  by_cases hid : id' = s.next
  · subst hid
    by_cases hd : d = c
    · subst hd
      simp [draft, insert, add]
    · rw [if_neg (fun h => hd h.1), draft_of_fresh (Nat.le_refl _)]
      simp [draft, insert, add, Cell.draft_write_of_ne _ hd]
  · simp [draft, insert, add, hid]

theorem draft_commit (s : Store C V) (c d : C) (id : Nat) :
    (s.commit c).draft d id = if d = c then none else s.draft d id := by
  by_cases hd : d = c
  · subst hd
    simp [draft, commit]
  · simp [draft, commit, hd, Cell.draft_commit_of_ne _ hd]

theorem draft_rollback (s : Store C V) (c d : C) (id : Nat) :
    (s.rollback c).draft d id = if d = c then none else s.draft d id := by
  by_cases hd : d = c
  · subst hd
    simp [draft, rollback]
  · simp [draft, rollback, hd, Cell.draft_rollback_of_ne _ hd]

omit [DecidableEq C] in
theorem committed_amend (s : Store C V) (id : Nat) (f : V → V) (id' : Nat) :
    (s.amend id f).committed id' = if id' = id then (s.committed id').map f else s.committed id' := by
  by_cases hid : id' = id
  · subst hid
    by_cases hlt : id' < s.next
    · simp [committed, amend, cell_alter, hlt]
    · have hnone : s.committed id' = none := committed_of_fresh (by omega)
      rw [if_pos rfl, hnone]
      simpa [committed, amend, cell_alter, hlt] using hnone
  · simp [committed, amend, cell_alter, hid]

@[simp] theorem draft_amend (s : Store C V) (id : Nat) (f : V → V) (d : C) :
    (s.amend id f).draft d = s.draft d := by
  funext id'
  simp only [draft, amend, cell_alter]
  split
  · next h => rw [h.1]; rfl
  · rfl

omit [DecidableEq C] in
theorem committed_append (s : Store C V) (mk : Nat → V) (id' : Nat) :
    (s.append mk).committed id' = if id' = s.next then some (mk s.next) else s.committed id' := by
  by_cases hid : id' = s.next
  · subst hid
    simp [committed, append, add]
  · simp [committed, append, add, hid]

@[simp] theorem draft_append (s : Store C V) (mk : Nat → V) (d : C) :
    (s.append mk).draft d = s.draft d := by
  funext id'
  by_cases hid : id' = s.next
  · subst hid
    rw [draft_of_fresh (Nat.le_refl _)]
    simp [draft, append, add, Cell.draft]
  · simp [draft, append, add, hid]

/-! ### Searching -/

theorem find?_eq_some {p : V → Bool} (h : s.find? c p = some (id, v)) :
    s.view c id = some v ∧ p v = true := by
  obtain ⟨id', -, h⟩ := List.exists_of_findSome?_eq_some h
  cases hview : s.view c id' with
  | none => simp [hview] at h
  | some w =>
    simp only [hview, Option.map_eq_some_iff, Option.filter_eq_some_iff, Prod.mk.injEq] at h
    obtain ⟨x, ⟨hw, hp⟩, hid, hx⟩ := h
    cases hw
    cases hid
    cases hx
    exact ⟨hview, hp⟩

theorem find?_eq_none {p : V → Bool} (h : s.find? c p = none) (hv : s.view c id = some v) :
    p v = false := by
  have hrange := List.findSome?_eq_none_iff.mp h id (List.mem_range.mpr (lt_next_of_view hv))
  by_contra hp
  simp [hv, hp] at hrange

/-- Nobody else's uncommitted version satisfies a condition that is not contested. -/
theorem draft_of_uncontested {p : V → Bool} {d : C} {w : V} (h : s.contested c p = false)
    (hd : s.draft d id = some w) (hne : d ≠ c) : p w = false := by
  have hlt : id < s.next := lt_next_of_view (view_of_draft hd)
  have hcell := List.any_eq_false.mp h id (List.mem_range.mpr hlt)
  have htaken : (s.cell id).isTaken c = true := Cell.isTaken_of_draft hd hne
  have hpending : (s.cell id).pending = some w := Cell.pending_of_draft hd
  by_contra hp
  simp [htaken, hpending, hp] at hcell

/-- The connection may write a row it sees that satisfies a condition that is not contested. -/
theorem free_of_uncontested {p : V → Bool} (h : s.contested c p = false)
    (hv : s.view c id = some v) (hp : p v = true) : (s.cell id).isTaken c = false := by
  have hcell := List.any_eq_false.mp h id (List.mem_range.mpr (lt_next_of_view hv))
  cases htaken : (s.cell id).isTaken c with
  | false => rfl
  | true =>
    have hdraft : s.draft c id = none := by
      cases hdraft : s.draft c id with
      | none => rfl
      | some w =>
        have hheld : (s.cell id).held = some (c, some w) := Cell.draft_eq_some.mp hdraft
        simp [Cell.isTaken, hheld] at htaken
    have hcommitted : (s.cell id).committed = some v := by
      rw [view_of_no_draft hdraft] at hv
      exact hv
    simp [htaken, hcommitted, hp] at hcell

end Store

/-! ## Partial unique indexes -/

/-- No two of the rows have the same key; rows without a key are not in the index. -/
def Keyed (key : V → Option U) (rows : Nat → Option V) : Prop :=
  ∀ id id' v w u, rows id = some v → rows id' = some w → key v = some u → key w = some u → id = id'

/-- The index holds for what is committed and for what every connection sees, and no two connections
    have uncommitted versions with the same key. -/
structure Separate (key : V → Option U) (s : Store C V) : Prop where
  committed : Keyed key s.committed
  view : ∀ c, Keyed key (s.view c)
  apart : ∀ c d id id' v w u, c ≠ d → s.draft c id = some v → s.draft d id' = some w →
    key v = some u → key w ≠ some u

namespace Separate

variable {key : V → Option U} {s : Store C V} {c : C} {id : Nat}

theorem empty : Separate key (Store.empty : Store C V) where
  committed _ _ _ _ _ h := by cases h
  view _ _ _ _ _ _ h := by cases h
  apart _ _ _ _ _ _ _ _ h := by cases h

/-- A store whose committed rows and uncommitted versions are the same. -/
theorem congr {s' : Store C V} (h : Separate key s) (hcommitted : s'.committed = s.committed)
    (hdraft : ∀ d, s'.draft d = s.draft d) : Separate key s' := by
  have hview (d : C) : s'.view d = s.view d := by
    funext id'
    rw [Store.view_eq, Store.view_eq, hcommitted, hdraft]
  refine ⟨hcommitted ▸ h.committed, fun d => hview d ▸ h.view d, fun d e => ?_⟩
  rw [hdraft d, hdraft e]
  exact h.apart d e

theorem lock (h : Separate key s) (hfree : (s.cell id).isTaken c = false) :
    Separate key (s.lock c id) :=
  h.congr (Store.committed_lock s c id) fun d => Store.draft_lock hfree d

/-- One more uncommitted version of the connection keeps the index if neither another row that the
    connection sees nor another connection's version has its key. -/
theorem extend {s' : Store C V} {v : V} (h : Separate key s)
    (hcommitted : s'.committed = s.committed)
    (hdraft : ∀ d id', s'.draft d id' = if d = c ∧ id' = id then some v else s.draft d id')
    (hseen : ∀ u, key v = some u → ∀ id' w, id' ≠ id → s.view c id' = some w → key w ≠ some u)
    (hothers : ∀ u, key v = some u → ∀ d id' w, d ≠ c → s.draft d id' = some w → key w ≠ some u) :
    Separate key s' := by
  have hviewOther (d : C) (hd : d ≠ c) : s'.view d = s.view d := by
    funext id'
    rw [Store.view_eq, Store.view_eq, hcommitted, hdraft, if_neg (fun h => hd h.1)]
  have hviewSelf (id' : Nat) : s'.view c id' = if id' = id then some v else s.view c id' := by
    rw [Store.view_eq, Store.view_eq, hcommitted, hdraft]
    by_cases hid : id' = id
    · simp [hid]
    · simp [hid]
  refine ⟨hcommitted ▸ h.committed, fun d => ?_, ?_⟩
  · by_cases hd : d = c
    · subst hd
      intro id₁ id₂ v₁ v₂ u h₁ h₂ hu₁ hu₂
      rw [hviewSelf] at h₁ h₂
      by_cases hid₁ : id₁ = id
      · by_cases hid₂ : id₂ = id
        · rw [hid₁, hid₂]
        · rw [if_pos hid₁] at h₁
          rw [if_neg hid₂] at h₂
          cases h₁
          exact absurd hu₂ (hseen u hu₁ id₂ v₂ hid₂ h₂)
      · rw [if_neg hid₁] at h₁
        by_cases hid₂ : id₂ = id
        · rw [if_pos hid₂] at h₂
          cases h₂
          exact absurd hu₁ (hseen u hu₂ id₁ v₁ hid₁ h₁)
        · rw [if_neg hid₂] at h₂
          exact h.view d id₁ id₂ v₁ v₂ u h₁ h₂ hu₁ hu₂
    · rw [hviewOther d hd]
      exact h.view d
  · intro d e id₁ id₂ v₁ v₂ u hde h₁ h₂ hu₁ hu₂
    rw [hdraft] at h₁ h₂
    by_cases hd : d = c ∧ id₁ = id
    · have he : e ≠ c := fun he => hde (hd.1.trans he.symm)
      rw [if_pos hd] at h₁
      rw [if_neg (fun h => he h.1)] at h₂
      cases h₁
      exact hothers u hu₁ e id₂ v₂ he h₂ hu₂
    · rw [if_neg hd] at h₁
      by_cases he : e = c ∧ id₂ = id
      · have hd : d ≠ c := fun hd => hde (hd.trans he.1.symm)
        rw [if_pos he] at h₂
        cases h₂
        exact hothers u hu₂ d id₁ v₁ hd h₁ hu₁
      · rw [if_neg he] at h₂
        exact h.apart d e id₁ id₂ v₁ v₂ u hde h₁ h₂ hu₁ hu₂

/-- A write over a row that the connection sees keeps the index if it keeps the row's key or takes the
    row out of the index. -/
theorem write {old v : V} (h : Separate key s) (hfree : (s.cell id).isTaken c = false)
    (hold : s.view c id = some old) (hkey : ∀ u, key v = some u → key old = some u) :
    Separate key (s.write c id v) := by
  refine h.extend (Store.committed_write s c id v)
    (Store.draft_write hfree (Store.lt_next_of_view hold) v) ?_ ?_
  · intro u hu id' w hid hw hkeyw
    exact hid (h.view c id' id w old u hw hold hkeyw (hkey u hu))
  · intro u hu d id' w hd hw hkeyw
    cases hdraft : s.draft c id with
    | some x =>
      rw [Store.view_of_draft hdraft] at hold
      cases hold
      exact h.apart c d id id' old w u (Ne.symm hd) hdraft hw (hkey u hu) hkeyw
    | none =>
      -- The other connection sees the same row as this one next to its own version.
      rw [Store.view_of_no_draft hdraft] at hold
      have hnone : s.draft d id = none := Cell.draft_of_free hfree hd
      have hview : s.view d id = some old := (Store.view_of_no_draft hnone).trans hold
      have hid := h.view d id' id w old u (Store.view_of_draft hw) hview hkeyw (hkey u hu)
      rw [hid, hnone] at hw
      cases hw

/-- An insert keeps the index if the connection sees no row with the key and no other connection has a
    version with it. -/
theorem insert {mk : Nat → V} (h : Separate key s)
    (hseen : ∀ u, key (mk s.next) = some u → ∀ id' w, s.view c id' = some w → key w ≠ some u)
    (hothers : ∀ u, key (mk s.next) = some u → ∀ d id' w, d ≠ c → s.draft d id' = some w →
      key w ≠ some u) :
    Separate key (s.insert c mk) :=
  h.extend (Store.committed_insert s c mk) (Store.draft_insert s c mk)
    (fun u hu id' w _ => hseen u hu id' w) hothers

theorem rollback (h : Separate key s) : Separate key (s.rollback c) := by
  refine ⟨by simpa using h.committed, fun d => ?_, ?_⟩
  · by_cases hd : d = c
    · have hview : (s.rollback c).view d = s.committed := by
        funext id'
        rw [Store.view_eq, Store.draft_rollback, if_pos hd, Store.committed_rollback]
        rfl
      rw [hview]
      exact h.committed
    · have hview : (s.rollback c).view d = s.view d := by
        funext id'
        rw [Store.view_eq, Store.view_eq, Store.draft_rollback, if_neg hd, Store.committed_rollback]
      rw [hview]
      exact h.view d
  · intro d e id₁ id₂ v₁ v₂ u hde h₁ h₂
    rw [Store.draft_rollback] at h₁ h₂
    split at h₁
    · cases h₁
    · split at h₂
      · cases h₂
      · exact h.apart d e id₁ id₂ v₁ v₂ u hde h₁ h₂

/-- What another connection sees after a commit is its own version or what was seen by the connection
    that commits. -/
theorem view_commit_of_ne {d : C} (hd : d ≠ c) (id : Nat) :
    (s.commit c).view d id = (s.draft d id).or (s.view c id) := by
  rw [Store.view_eq, Store.draft_commit, if_neg hd, Store.committed_commit]

theorem commit (h : Separate key s) : Separate key (s.commit c) := by
  -- Next to another connection's version, what is committed now has no row with its key.
  have hmixed (d : C) (hd : d ≠ c) (id₁ id₂ : Nat) (v₁ v₂ : V) (u : U) (h₁ : s.draft d id₁ = some v₁)
      (hnone : s.draft d id₂ = none) (h₂ : s.view c id₂ = some v₂) (hu₁ : key v₁ = some u)
      (hu₂ : key v₂ = some u) : id₁ = id₂ := by
    cases hdraft : s.draft c id₂ with
    | some w =>
      rw [Store.view_of_draft hdraft] at h₂
      cases h₂
      exact absurd hu₂ (h.apart d c id₁ id₂ v₁ v₂ u hd h₁ hdraft hu₁)
    | none =>
      rw [Store.view_of_no_draft hdraft, ← Store.view_of_no_draft hnone] at h₂
      exact h.view d id₁ id₂ v₁ v₂ u (Store.view_of_draft h₁) h₂ hu₁ hu₂
  refine ⟨by simpa using h.view c, fun d => ?_, ?_⟩
  · by_cases hd : d = c
    · have hview : (s.commit c).view d = s.view c := by
        funext id'
        rw [Store.view_eq, Store.draft_commit, if_pos hd, Store.committed_commit]
        rfl
      rw [hview]
      exact h.view c
    · intro id₁ id₂ v₁ v₂ u h₁ h₂ hu₁ hu₂
      rw [view_commit_of_ne hd] at h₁ h₂
      cases hd₁ : s.draft d id₁ with
      | some w₁ =>
        rw [hd₁] at h₁
        cases h₁
        cases hd₂ : s.draft d id₂ with
        | some w₂ =>
          rw [hd₂] at h₂
          cases h₂
          exact h.view d id₁ id₂ v₁ v₂ u (Store.view_of_draft hd₁) (Store.view_of_draft hd₂) hu₁ hu₂
        | none =>
          rw [hd₂] at h₂
          exact hmixed d hd id₁ id₂ v₁ v₂ u hd₁ hd₂ h₂ hu₁ hu₂
      | none =>
        rw [hd₁] at h₁
        cases hd₂ : s.draft d id₂ with
        | some w₂ =>
          rw [hd₂] at h₂
          cases h₂
          exact (hmixed d hd id₂ id₁ v₂ v₁ u hd₂ hd₁ h₁ hu₂ hu₁).symm
        | none =>
          rw [hd₂] at h₂
          exact h.view c id₁ id₂ v₁ v₂ u h₁ h₂ hu₁ hu₂
  · intro d e id₁ id₂ v₁ v₂ u hde h₁ h₂
    rw [Store.draft_commit] at h₁ h₂
    split at h₁
    · cases h₁
    · split at h₂
      · cases h₂
      · exact h.apart d e id₁ id₂ v₁ v₂ u hde h₁ h₂

end Separate

/-! ## Final rows -/

/-- No connection has a new version of a committed row that is final. -/
def Settled (final : V → Prop) (s : Store C V) : Prop :=
  ∀ c id v w, s.draft c id = some w → s.committed id = some v → ¬ final v

namespace Settled

variable {final : V → Prop} {s : Store C V} {c : C} {id : Nat}

theorem empty : Settled final (Store.empty : Store C V) := fun _ _ _ _ h => by cases h

theorem lock (h : Settled final s) (hfree : (s.cell id).isTaken c = false) :
    Settled final (s.lock c id) := by
  intro d id' v w hd hv
  rw [Store.draft_lock hfree] at hd
  rw [Store.committed_lock] at hv
  exact h d id' v w hd hv

/-- A connection may write over what it sees where that is not final. -/
theorem write {old v : V} (h : Settled final s) (hfree : (s.cell id).isTaken c = false)
    (hold : s.view c id = some old) (hopen : ¬ final old) : Settled final (s.write c id v) := by
  intro d id' x w hd hx
  rw [Store.draft_write hfree (Store.lt_next_of_view hold)] at hd
  rw [Store.committed_write] at hx
  by_cases hnew : d = c ∧ id' = id
  · obtain ⟨rfl, rfl⟩ := hnew
    cases hdraft : s.draft d id' with
    | some y => exact h d id' x y hdraft hx
    | none =>
      rw [Store.view_of_no_draft hdraft, hx] at hold
      cases hold
      exact hopen
  · rw [if_neg hnew] at hd
    exact h d id' x w hd hx

theorem insert (h : Settled final s) (mk : Nat → V) : Settled final (s.insert c mk) := by
  intro d id' x w hd hx
  rw [Store.draft_insert] at hd
  rw [Store.committed_insert] at hx
  by_cases hnew : d = c ∧ id' = s.next
  · rw [hnew.2, Store.committed_of_fresh (Nat.le_refl _)] at hx
    cases hx
  · rw [if_neg hnew] at hd
    exact h d id' x w hd hx

theorem rollback (h : Settled final s) : Settled final (s.rollback c) := by
  intro d id' x w hd hx
  rw [Store.draft_rollback] at hd
  rw [Store.committed_rollback] at hx
  split at hd
  · cases hd
  · exact h d id' x w hd hx

theorem commit (h : Settled final s) : Settled final (s.commit c) := by
  intro d id' x w hd hx
  rw [Store.draft_commit] at hd
  rw [Store.committed_commit] at hx
  split at hd
  · cases hd
  · next hne =>
    have hnone : s.draft c id' = none := by
      cases hdraft : s.draft c id' with
      | none => rfl
      | some y => exact absurd (Store.draft_unique hd hdraft) hne
    rw [Store.view_of_no_draft hnone] at hx
    exact h d id' x w hd hx

/-- A final row stays as it is. -/
theorem commit_row (h : Settled final s) {v : V} (hv : s.committed id = some v) (hfinal : final v) :
    (s.commit c).committed id = some v := by
  have hnone : s.draft c id = none := by
    cases hdraft : s.draft c id with
    | none => rfl
    | some w => exact absurd hfinal (h c id v w hdraft hv)
  rw [Store.committed_commit, Store.view_of_no_draft hnone, hv]

end Settled

end RowVersions
