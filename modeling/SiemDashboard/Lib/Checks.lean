import Mathlib.Data.List.Forall2

/-!
# Checks that may fail

Facts about sequences of computations in `Except`: what a whole sequence that succeeds, or fails,
says about its parts, and when it succeeds.
-/

namespace Checks

variable {α β ε : Type}

theorem bind_eq_ok {x : Except ε α} {f : α → Except ε β} {b : β} :
    x >>= f = .ok b ↔ ∃ a, x = .ok a ∧ f a = .ok b := by
  cases x with
  | error e => simp [bind, Except.bind]
  | ok a => simp [bind, Except.bind]

theorem isOk_iff {x : Except ε α} : x.isOk = true ↔ ∃ a, x = .ok a := by
  cases x <;> simp [Except.isOk, Except.toBool]

@[simp] theorem isOk_ok {a : α} : (Except.ok a : Except ε α).isOk = true := rfl

@[simp] theorem isOk_pure {a : α} : (pure a : Except ε α).isOk = true := rfl

@[simp] theorem isOk_error {e : ε} : (Except.error e : Except ε α).isOk = false := rfl

theorem isOk_bind {x : Except ε α} {f : α → Except ε β} :
    (x >>= f).isOk = true ↔ ∃ a, x = .ok a ∧ (f a).isOk = true := by
  simp only [isOk_iff, bind_eq_ok]
  exact ⟨fun ⟨b, a, ha, hb⟩ => ⟨a, ha, b, hb⟩, fun ⟨a, ha, b, hb⟩ => ⟨b, a, ha, hb⟩⟩

/-- Where the rest passes or fails whatever the beginning gives, the whole passes where both do. -/
theorem isOk_bind_and {x : Except ε α} {f : α → Except ε β} {b : Bool}
    (h : ∀ a, x = .ok a → (f a).isOk = b) : (x >>= f).isOk = (x.isOk && b) := by
  cases hx : x with
  | error e => rfl
  | ok a => exact h a hx

theorem toOption_eq_some {x : Except ε α} {a : α} : x.toOption = some a ↔ x = .ok a := by
  cases x <;> simp [Except.toOption]

@[simp] theorem mapError_eq_ok {ε' : Type} {g : ε → ε'} {x : Except ε α} {a : α} :
    x.mapError g = .ok a ↔ x = .ok a := by
  cases x <;> simp [Except.mapError]

theorem map_eq_ok {f : α → β} {x : Except ε α} {b : β} :
    x.map f = .ok b ↔ ∃ a, x = .ok a ∧ f a = b := by
  cases x <;> simp [Except.map]

/-- The whole list passes where each element does. -/
theorem isOk_mapM {f : α → Except ε β} {xs : List α} :
    (xs.mapM f).isOk = true ↔ ∀ x ∈ xs, (f x).isOk = true := by
  induction xs with
  | nil => simp
  | cons a xs ih =>
    rw [List.mapM_cons, isOk_bind, List.forall_mem_cons, ← ih, isOk_iff (x := f a)]
    constructor
    · rintro ⟨b, hb, hrest⟩
      obtain ⟨bs, hbs, -⟩ := isOk_bind.mp hrest
      exact ⟨⟨b, hb⟩, isOk_iff.mpr ⟨bs, hbs⟩⟩
    · rintro ⟨⟨b, hb⟩, hrest⟩
      obtain ⟨bs, hbs⟩ := isOk_iff.mp hrest
      exact ⟨b, hb, isOk_bind.mpr ⟨bs, hbs, rfl⟩⟩

/-- A loop that checks one element after the other passes where each passes. -/
theorem forIn_eq_ok {check : α → Except ε Unit} {body : α → PUnit → Except ε (ForInStep PUnit)}
    (hbody : ∀ x, body x ⟨⟩ = (check x).map fun _ => ForInStep.yield ⟨⟩) {xs : List α} :
    forIn xs ⟨⟩ body = .ok ⟨⟩ ↔ ∀ x ∈ xs, check x = .ok () := by
  induction xs with
  | nil => exact iff_of_true rfl (List.forall_mem_nil _)
  | cons x xs ih =>
    rw [List.forIn_cons, List.forall_mem_cons, hbody]
    cases hcheck : check x with
    | error e =>
      refine iff_of_false (fun h => ?_) (fun h => ?_)
      · cases h
      · cases h.1
    | ok a => exact ih.trans (and_iff_right rfl).symm

/-- A check of every element passes where it passes for each. -/
theorem forM_eq_ok {f : α → Except ε Unit} {xs : List α} :
    xs.forM f = .ok () ↔ ∀ x ∈ xs, f x = .ok () := by
  induction xs with
  | nil => simp [pure, Except.pure]
  | cons a xs ih =>
    change (f a >>= fun _ => xs.forM f) = .ok () ↔ _
    rw [bind_eq_ok, List.forall_mem_cons, ← ih]
    constructor
    · intro ⟨u, ha, hxs⟩
      exact ⟨ha, hxs⟩
    · intro ⟨ha, hxs⟩
      exact ⟨(), ha, hxs⟩

/-- Where the whole list passes, each element does, with a result among the results. -/
theorem mapM_mem {f : α → Except ε β} {xs : List α} {ys : List β} (h : xs.mapM f = .ok ys) {x : α}
    (hx : x ∈ xs) : ∃ y ∈ ys, f x = .ok y := by
  induction xs generalizing ys with
  | nil => cases hx
  | cons a xs ih =>
    rw [List.mapM_cons, bind_eq_ok] at h
    obtain ⟨b, hb, h⟩ := h
    obtain ⟨bs, hbs, h⟩ := bind_eq_ok.mp h
    cases h
    rcases List.mem_cons.mp hx with rfl | hx
    · exact ⟨b, List.mem_cons_self, hb⟩
    · obtain ⟨y, hy, hfy⟩ := ih hbs hx
      exact ⟨y, List.mem_cons_of_mem _ hy, hfy⟩

/-- The results of a list that passes stand beside its elements. -/
theorem mapM_forall₂ {f : α → Except ε β} {xs : List α} {ys : List β} (h : xs.mapM f = .ok ys) :
    List.Forall₂ (fun x y => f x = .ok y) xs ys := by
  induction xs generalizing ys with
  | nil =>
    cases h
    exact .nil
  | cons a xs ih =>
    rw [List.mapM_cons, bind_eq_ok] at h
    obtain ⟨b, hb, h⟩ := h
    obtain ⟨bs, hbs, h⟩ := bind_eq_ok.mp h
    cases h
    exact .cons hb (ih hbs)

theorem exists_of_mem_mapM {f : α → Except ε β} {xs : List α} {ys : List β} (h : xs.mapM f = .ok ys)
    {y : β} (hy : y ∈ ys) : ∃ x ∈ xs, f x = .ok y := by
  obtain ⟨i, hi, rfl⟩ := List.mem_iff_getElem.mp hy
  have hall := List.forall₂_iff_get.mp (mapM_forall₂ h)
  exact ⟨xs.get ⟨i, by omega⟩, List.get_mem _ _, hall.2 i (by omega) hi⟩

/-- A check of each element of a list that gives what a function makes of it. -/
theorem mapM_eq_ok_map {f : α → Except ε β} {P : α → Prop} {g : α → β} {xs : List α}
    (hf : ∀ x ∈ xs, ∀ y, f x = .ok y ↔ P x ∧ y = g x) {ys : List β} :
    xs.mapM f = .ok ys ↔ (∀ x ∈ xs, P x) ∧ ys = xs.map g := by
  induction xs generalizing ys with
  | nil =>
    change Except.ok [] = Except.ok ys ↔ _
    simp [eq_comm]
  | cons x xs ih =>
    obtain ⟨hx, hxs⟩ := List.forall_mem_cons.mp hf
    rw [List.mapM_cons, bind_eq_ok, List.forall_mem_cons, List.map_cons]
    constructor
    · intro ⟨y, hy, hrest⟩
      obtain ⟨ys', hys', heq⟩ := bind_eq_ok.mp hrest
      obtain ⟨hP, rfl⟩ := (hx y).mp hy
      obtain ⟨hall, rfl⟩ := (ih hxs).mp hys'
      cases heq
      exact ⟨⟨hP, hall⟩, rfl⟩
    · intro ⟨⟨hP, hall⟩, heq⟩
      refine ⟨g x, (hx (g x)).mpr ⟨hP, rfl⟩, bind_eq_ok.mpr ⟨xs.map g, (ih hxs).mpr ⟨hall, rfl⟩, ?_⟩⟩
      rw [heq]
      rfl

/-- Where the whole list fails, some element does, with the same error. -/
theorem mapM_error {f : α → Except ε β} {P : ε → Prop} (hf : ∀ a e, f a = .error e → P e)
    {xs : List α} {e : ε} (h : xs.mapM f = .error e) : P e := by
  induction xs with
  | nil => cases h
  | cons a xs ih =>
    rw [List.mapM_cons] at h
    cases ha : f a with
    | error e' =>
      rw [ha] at h
      cases h
      exact hf a _ ha
    | ok b =>
      cases hxs : xs.mapM f with
      | error e' =>
        rw [ha, hxs] at h
        cases h
        exact ih hxs
      | ok bs =>
        rw [ha, hxs] at h
        cases h

end Checks
