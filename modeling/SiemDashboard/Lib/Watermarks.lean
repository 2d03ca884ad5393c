import Mathlib.Data.List.Sort
import Mathlib.Order.Basic

/-!
# Watermarks

A log is read in pages: the first items of a window in the order of their keys.  The key of a page's
last item is the next watermark, and what it passes has been read as long as no page is cut between
items of one key.

* **Pages** — `page`, `beyond`: the first items of a window and those that are left.
* **Cuts** — `Uncut`, `mem_page_of_le`.
-/

namespace Watermarks

variable {α κ : Type} [LinearOrder κ] (key : α → κ)

def ordered (window : List α) : List α := window.insertionSort fun a b => key a ≤ key b

/-- The first items of a window. -/
def page (size : Nat) (window : List α) : List α := (ordered key window).take size

/-- The items of a window that its page leaves. -/
def beyond (size : Nat) (window : List α) : List α := (ordered key window).drop size

/-- No item that is left has the key of the last item of the page. -/
def Uncut (size : Nat) (window : List α) : Prop :=
  ∀ last, (page key size window).getLast? = some last →
    ∀ a ∈ beyond key size window, key a ≠ key last

variable {key} {size : Nat} {window : List α} {a last : α}

theorem mem_ordered : a ∈ ordered key window ↔ a ∈ window := List.mem_insertionSort _

theorem mem_window_of_mem_page (h : a ∈ page key size window) : a ∈ window :=
  mem_ordered.mp (List.mem_of_mem_take h)

theorem mem_page_or_beyond (h : a ∈ window) :
    a ∈ page key size window ∨ a ∈ beyond key size window := by
  have ha : a ∈ (ordered key window).take size ++ (ordered key window).drop size := by
    rw [List.take_append_drop]
    exact mem_ordered.mpr h
  exact List.mem_append.mp ha

/-- What is left comes after the page. -/
theorem le_of_mem_beyond (hlast : last ∈ page key size window) (ha : a ∈ beyond key size window) :
    key last ≤ key a := by
  have hsorted : (ordered key window).Pairwise fun a b => key a ≤ key b := by
    have : Std.Total fun a b : α => key a ≤ key b := ⟨fun a b => le_total (key a) (key b)⟩
    have : IsTrans α fun a b => key a ≤ key b := ⟨fun _ _ _ => le_trans⟩
    exact List.pairwise_insertionSort (fun a b : α => key a ≤ key b) window
  rw [← List.take_append_drop size (ordered key window), List.pairwise_append] at hsorted
  exact hsorted.2.2 last hlast a ha

/-- The items of a window up to the last key of its page are in the page, where it is uncut. -/
theorem mem_page_of_le (huncut : Uncut key size window)
    (hlast : (page key size window).getLast? = some last) (ha : a ∈ window)
    (hle : key a ≤ key last) : a ∈ page key size window := by
  have hsplit : a ∈ page key size window ∨ a ∈ beyond key size window := mem_page_or_beyond ha
  rcases hsplit with hpage | hbeyond
  · exact hpage
  · have hge : key last ≤ key a := le_of_mem_beyond (List.mem_of_getLast? hlast) hbeyond
    exact absurd (le_antisymm hle hge) (huncut last hlast a hbeyond)

/-- A page that is not full leaves nothing. -/
theorem beyond_eq_nil (h : (page key size window).length < size) : beyond key size window = [] := by
  unfold page at h
  rw [List.length_take] at h
  unfold beyond
  rw [List.drop_eq_nil_iff]
  omega

theorem uncut_of_short (h : (page key size window).length < size) : Uncut key size window := by
  intro last _ a ha
  rw [beyond_eq_nil h] at ha
  cases ha

end Watermarks
