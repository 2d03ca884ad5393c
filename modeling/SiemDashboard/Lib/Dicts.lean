import Mathlib.Data.Finmap
import Mathlib.Data.List.Induction

/-!
# Dicts

Dicts with texts as keys, as finite maps: what is found in one that is built by writing one key after
the other.

* **Entries** — `present`, `lookup_present`.
* **Dicts** — `Dict`, `ofWrites`.
* **Lookup** — `mem_of_lookup`, `lookup_filter_ne` (lists of entries); `lookup_ofWrites_map` (the last write to
  a key is found), `lookup_ofWrites_of_forall`, `lookup_ofWrites_eq_none`.
-/

namespace Dicts

variable {α β : Type}

/-- What is found in a list of entries is an entry. -/
theorem mem_of_lookup {κ : Type} [BEq κ] [LawfulBEq κ] {entries : List (κ × α)} {key : κ} {a : α}
    (h : entries.lookup key = some a) : (key, a) ∈ entries := by
  obtain ⟨before, after, rfl, -⟩ := List.lookup_eq_some_iff.mp h
  exact List.mem_append_right before List.mem_cons_self

/-- Leaving the entries of one key out hides none of another. -/
theorem lookup_filter_ne {κ : Type} [DecidableEq κ] {entries : List (κ × α)} {key other : κ} (hne : other ≠ key) :
    (entries.filter fun entry => entry.1 ≠ key).lookup other = entries.lookup other := by
  induction entries with
  | nil => rfl
  | cons entry entries ih =>
    by_cases hentry : entry.1 = key
    · have hskip : ¬ decide (entry.1 ≠ key) = true := by simp [hentry]
      have hother : (other == entry.1) = false := by simp [hentry, hne]
      rw [List.filter_cons_of_neg (p := fun entry : κ × α => decide (entry.1 ≠ key)) hskip, List.lookup_cons, hother,
        ih]
    · have hkeep : decide (entry.1 ≠ key) = true := decide_eq_true hentry
      rw [List.filter_cons_of_pos (p := fun entry : κ × α => decide (entry.1 ≠ key)) hkeep,
        List.lookup_cons, List.lookup_cons, ih]

/-- The entries of a dict literal that are there. -/
def present {κ : Type} (entries : List (κ × Option α)) : List (κ × α) :=
  entries.filterMap fun entry => entry.2.map fun a => (entry.1, a)

/-- Where every key is written once, what is found is what is written. -/
theorem lookup_present {κ : Type} [DecidableEq κ] {entries : List (κ × Option α)}
    (hkeys : (entries.map Prod.fst).Nodup) (key : κ) : (present entries).lookup key = (entries.lookup key).join := by
  induction entries with
  | nil => rfl
  | cons entry entries ih =>
    obtain ⟨hnew, hkeys⟩ := List.nodup_cons.mp hkeys
    cases hentry : entry.2 with
    | none =>
      have hskip : present (entry :: entries) = present entries := List.filterMap_cons_none (by rw [hentry]; rfl)
      rw [hskip, ih hkeys, List.lookup_cons]
      cases hkey : key == entry.1 with
      | false => rfl
      | true =>
        rw [eq_of_beq hkey]
        have hmissing : entries.lookup entry.1 = none := by
          rw [List.lookup_eq_none_iff]
          intro other hother
          have hne : entry.1 ≠ other.1 := fun heq => hnew (heq ▸ List.mem_map_of_mem hother)
          exact bne_iff_ne.mpr hne
        rw [hmissing, hentry]
        rfl
    | some a =>
      have hkeep : present (entry :: entries) = (entry.1, a) :: present entries :=
        List.filterMap_cons_some (by rw [hentry]; rfl)
      rw [hkeep, List.lookup_cons, List.lookup_cons, ih hkeys, hentry]
      cases key == entry.1 <;> rfl

/-- A dict with texts as keys. -/
abbrev Dict (α : Type) := Finmap fun _ : String => α

/-- The dict after some writes. -/
def ofWrites (writes : List (String × α)) : Dict α :=
  writes.foldl (fun dict write => dict.insert write.1 write.2) ∅

theorem ofWrites_append_singleton (writes : List (String × α)) (key : String) (a : α) :
    ofWrites (writes ++ [(key, a)]) = (ofWrites writes).insert key a := by
  rw [ofWrites, List.foldl_append]
  rfl

/-- The last write to a key is what is found. -/
theorem lookup_ofWrites_map (path : β → String) (f : β → α) (bs : List β) (key : String) :
    (ofWrites (bs.map fun b => (path b, f b))).lookup key =
      (bs.reverse.find? fun b => path b = key).map f := by
  induction bs using List.reverseRecOn with
  | nil => exact Finmap.lookup_empty key
  | append_singleton bs b ih =>
    rw [List.map_append, List.map_singleton, ofWrites_append_singleton, List.reverse_concat,
      List.find?_cons]
    by_cases hkey : path b = key
    · subst hkey
      rw [Finmap.lookup_insert]
      simp
    · rw [Finmap.lookup_insert_of_ne _ (Ne.symm hkey), ih]
      simp [hkey]

theorem lookup_ofWrites (writes : List (String × α)) (key : String) :
    (ofWrites writes).lookup key = (writes.reverse.find? fun write => write.1 = key).map Prod.snd := by
  have hlookup := lookup_ofWrites_map Prod.fst Prod.snd writes key
  rwa [List.map_id'' (fun _ => rfl)] at hlookup

/-- A key that is written with one value only has that value. -/
theorem lookup_ofWrites_of_forall {writes : List (String × α)} {key : String} {a : α}
    (hmem : (key, a) ∈ writes) (h : ∀ write ∈ writes, write.1 = key → write.2 = a) :
    (ofWrites writes).lookup key = some a := by
  rw [lookup_ofWrites]
  cases hfind : writes.reverse.find? fun write => write.1 = key with
  | none =>
    have hnone := List.find?_eq_none.mp hfind (key, a) (List.mem_reverse.mpr hmem)
    simp at hnone
  | some write =>
    have hwrite : write ∈ writes := List.mem_reverse.mp (List.mem_of_find?_eq_some hfind)
    have hkey : write.1 = key := by simpa using List.find?_some hfind
    rw [Option.map_some, h write hwrite hkey]

theorem lookup_ofWrites_eq_none {writes : List (String × α)} {key : String}
    (h : ∀ write ∈ writes, write.1 ≠ key) : (ofWrites writes).lookup key = none := by
  rw [lookup_ofWrites, Option.map_eq_none_iff, List.find?_eq_none]
  intro write hwrite
  simpa using h write (List.mem_reverse.mp hwrite)

end Dicts
