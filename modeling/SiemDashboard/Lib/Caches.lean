import Mathlib.Data.List.AList

/-!
# Bounded caches

A cache keeps what earlier computations gave, and is emptied when it grows past its bound.

* **Dicts** — `Dict`, with the number of its entries.
* **Bound** — `store`: the entry is written, and an overfull dict emptied.
* **Coherence** — `Coherent`: what the cache holds under a key is what was last written under it.
-/

namespace Caches

variable {κ ν μ : Type}

/-! ## Dicts -/

abbrev Dict (κ ν : Type) := AList fun _ : κ => ν

/-- `len(dict)`. -/
def size (d : Dict κ ν) : Nat := d.keys.length

@[simp] theorem size_empty : size (∅ : Dict κ ν) = 0 := rfl

variable [DecidableEq κ]

theorem size_insert_of_notMem {d : Dict κ ν} {k : κ} (hk : k ∉ d) (v : ν) :
    size (d.insert k v) = size d + 1 := by
  have hkeys : k ∉ d.keys := hk
  rw [size, AList.keys_insert, List.length_cons, List.erase_of_not_mem hkeys, size]

theorem erase_of_notMem {d : Dict κ ν} {k : κ} (hk : k ∉ d) : d.erase k = d :=
  AList.ext (List.kerase_of_notMem_keys hk)

theorem size_erase_le (d : Dict κ ν) (k : κ) : size (d.erase k) ≤ size d := by
  rw [size, AList.keys_erase]
  exact List.length_erase_le

/-! ## Bound -/

/-- Writes an entry, and empties the dict when it has grown past the bound. -/
def store (bound : Nat) (d : Dict κ ν) (k : κ) (v : ν) : Dict κ ν :=
  if bound < size (d.insert k v) then ∅ else d.insert k v

theorem size_store_le (bound : Nat) (d : Dict κ ν) (k : κ) (v : ν) :
    size (store bound d k v) ≤ bound := by
  unfold store
  split
  · simp
  · omega

/-- What was written can be read back unless the dict was full. -/
theorem lookup_store {bound : Nat} {d : Dict κ ν} {k : κ} (hk : k ∉ d) (v : ν) :
    (store bound d k v).lookup k = if size d < bound then some v else none := by
  have hsize : size (d.insert k v) = size d + 1 := size_insert_of_notMem hk v
  unfold store
  by_cases hroom : size d < bound
  · rw [if_neg (by omega), if_pos hroom, AList.lookup_insert]
  · rw [if_pos (by omega), if_neg hroom, AList.lookup_empty]

theorem size_store_of_lt {bound : Nat} {d : Dict κ ν} {k : κ} (hk : k ∉ d)
    (hroom : size d < bound) (v : ν) : size (store bound d k v) = size d + 1 := by
  have hsize : size (d.insert k v) = size d + 1 := size_insert_of_notMem hk v
  rw [store, if_neg (by omega), hsize]

/-- A full dict is emptied. -/
theorem store_of_full {bound : Nat} {d : Dict κ ν} {k : κ} (hk : k ∉ d) (hfull : bound ≤ size d)
    (v : ν) : store bound d k v = ∅ := by
  have hsize : size (d.insert k v) = size d + 1 := size_insert_of_notMem hk v
  rw [store, if_pos (by omega)]

theorem mem_store {bound : Nat} {d : Dict κ ν} {k k' : κ} {v : ν} (h : k' ∈ store bound d k v) :
    k' = k ∨ k' ∈ d := by
  unfold store at h
  split at h
  · exact absurd h (AList.notMem_empty k')
  · exact (AList.mem_insert d).mp h

/-! ## Coherence -/

/-- What the cache holds under a key is, seen through `f`, what was last written under it. -/
def Coherent (f : ν → μ) (cache : Dict κ ν) (last : Dict κ μ) : Prop :=
  ∀ k v, cache.lookup k = some v → last.lookup k = some (f v)

variable {f : ν → μ} {cache : Dict κ ν} {last : Dict κ μ}

theorem Coherent.empty : Coherent f ∅ last := by
  intro k v h
  rw [AList.lookup_empty] at h
  cases h

/-- A key that is not in the cache may be written elsewhere. -/
theorem Coherent.write (h : Coherent f cache last) {k : κ} (hk : k ∉ cache) (x : μ) :
    Coherent f cache (last.insert k x) := by
  intro k' v hv
  have hne : k' ≠ k := by
    intro heq
    rw [heq, AList.lookup_eq_none.mpr hk] at hv
    cases hv
  rw [AList.lookup_insert_ne hne]
  exact h k' v hv

theorem Coherent.store (h : Coherent f cache last) (bound : Nat) (k : κ) (v : ν) :
    Coherent f (store bound cache k v) (last.insert k (f v)) := by
  unfold Caches.store
  split
  · exact Coherent.empty
  · intro k' v' hv'
    by_cases hk : k' = k
    · subst hk
      rw [AList.lookup_insert] at hv' ⊢
      rw [Option.some.inj hv']
    · rw [AList.lookup_insert_ne hk] at hv' ⊢
      exact h k' v' hv'

theorem Coherent.erase (h : Coherent f cache last) (k : κ) : Coherent f (cache.erase k) last := by
  intro k' v hv
  have hne : k' ≠ k := by
    intro heq
    rw [heq, AList.lookup_erase] at hv
    cases hv
  rw [AList.lookup_erase_ne hne] at hv
  exact h k' v hv

end Caches
