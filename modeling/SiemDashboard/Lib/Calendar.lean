import Mathlib.Order.Basic

/-!
# The proleptic Gregorian calendar

Days are counted from the first day of the year 1, which is day 0.

* **Years** — `isLeap`, `daysBeforeYear`; `yearOf`, the year of a day.
* **Months** — `daysInMonth`, `daysBeforeMonth`; `monthOf`, the month of a day of the year.
* **Dates** — `Date`, whose day there is; `Date.ordinal` and `Date.ofOrdinal`, which are inverse to each
  other.
-/

namespace Calendar

/-! ## Years -/

/-- Leap years have a 29th of February. -/
def isLeap (year : Nat) : Bool := year % 4 == 0 && (year % 100 != 0 || year % 400 == 0)

/-- The number of days of a year. -/
def daysInYear (year : Nat) : Nat := if isLeap year then 366 else 365

/-- The number of days before the first of January of a year. -/
def daysBeforeYear (year : Nat) : Nat :=
  (year - 1) * 365 + (year - 1) / 4 - (year - 1) / 100 + (year - 1) / 400

/-- The days before a year, by the cycles of 400, 100, 4 and 1 years before it. -/
theorem daysBeforeYear_cycles {a b c d : Nat} (hb : b ≤ 3) (hc : c ≤ 24) (hd : d ≤ 3) :
    daysBeforeYear (400 * a + 100 * b + 4 * c + d + 1) =
      146097 * a + 36524 * b + 1461 * c + 365 * d := by
  have h4 : (400 * a + 100 * b + 4 * c + d) / 4 = 100 * a + 25 * b + c := by omega
  have h100 : (400 * a + 100 * b + 4 * c + d) / 100 = 4 * a + b := by omega
  have h400 : (400 * a + 100 * b + 4 * c + d) / 400 = a := by omega
  simp only [daysBeforeYear, Nat.add_sub_cancel, h4, h100, h400]
  omega

/-- A year is long when it ends a cycle of 4 years, unless it ends one of 100 years and none of 400. -/
theorem daysInYear_cycles {a b c d : Nat} (hb : b ≤ 3) (hc : c ≤ 24) (hd : d ≤ 3) :
    daysInYear (400 * a + 100 * b + 4 * c + d + 1) =
      if d = 3 ∧ (c ≠ 24 ∨ b = 3) then 366 else 365 := by
  have h4 : (400 * a + 100 * b + 4 * c + d + 1) % 4 = (d + 1) % 4 := by omega
  have h100 : (400 * a + 100 * b + 4 * c + d + 1) % 100 = (4 * c + d + 1) % 100 := by omega
  have h400 : (400 * a + 100 * b + 4 * c + d + 1) % 400 = (100 * b + 4 * c + d + 1) % 400 := by omega
  have hleap : isLeap (400 * a + 100 * b + 4 * c + d + 1) = true ↔ d = 3 ∧ (c ≠ 24 ∨ b = 3) := by
    simp only [isLeap, h4, h100, h400, Bool.and_eq_true, Bool.or_eq_true, beq_iff_eq, bne_iff_ne]
    omega
  unfold daysInYear
  by_cases hlong : d = 3 ∧ (c ≠ 24 ∨ b = 3)
  · rw [if_pos (hleap.2 hlong), if_pos hlong]
  · rw [if_neg (fun htrue => hlong (hleap.1 htrue)), if_neg hlong]

theorem exists_cycles {year : Nat} (hyear : 1 ≤ year) : ∃ a b c d, b ≤ 3 ∧ c ≤ 24 ∧ d ≤ 3 ∧
    year = 400 * a + 100 * b + 4 * c + d + 1 :=
  ⟨(year - 1) / 400, (year - 1) % 400 / 100, (year - 1) % 100 / 4, (year - 1) % 4, by omega, by omega,
    by omega, by omega⟩

theorem daysBeforeYear_succ {year : Nat} (hyear : 1 ≤ year) :
    daysBeforeYear (year + 1) = daysBeforeYear year + daysInYear year := by
  obtain ⟨a, b, c, d, hb, hc, hd, rfl⟩ := exists_cycles hyear
  rw [daysInYear_cycles hb hc hd, daysBeforeYear_cycles hb hc hd]
  -- the next year is the next one of its cycle of 4, or starts the next cycle of 4, 100 or 400
  by_cases hd3 : d < 3
  · have hnext := @daysBeforeYear_cycles a b c (d + 1) hb hc (by omega)
    rw [show 400 * a + 100 * b + 4 * c + d + 1 + 1 = 400 * a + 100 * b + 4 * c + (d + 1) + 1 by omega,
      hnext, if_neg (by omega)]
    omega
  by_cases hc24 : c < 24
  · have hnext := @daysBeforeYear_cycles a b (c + 1) 0 hb (by omega) (by omega)
    rw [show 400 * a + 100 * b + 4 * c + d + 1 + 1 = 400 * a + 100 * b + 4 * (c + 1) + 0 + 1 by omega,
      hnext, if_pos (by omega)]
    omega
  by_cases hb3 : b < 3
  · have hnext := @daysBeforeYear_cycles a (b + 1) 0 0 (by omega) (by omega) (by omega)
    rw [show 400 * a + 100 * b + 4 * c + d + 1 + 1 = 400 * a + 100 * (b + 1) + 4 * 0 + 0 + 1 by omega,
      hnext, if_neg (by omega)]
    omega
  · have hnext := @daysBeforeYear_cycles (a + 1) 0 0 0 (by omega) (by omega) (by omega)
    rw [show 400 * a + 100 * b + 4 * c + d + 1 + 1 = 400 * (a + 1) + 100 * 0 + 4 * 0 + 0 + 1 by omega,
      hnext, if_pos (by omega)]
    omega

theorem daysBeforeYear_mono {year year' : Nat} (hyear : 1 ≤ year) (hle : year ≤ year') :
    daysBeforeYear year ≤ daysBeforeYear year' := by
  induction hle with
  | refl => exact Nat.le_refl _
  | step hle ih =>
    have hpos := Nat.le_trans hyear hle
    rw [daysBeforeYear_succ hpos]
    omega

/-- The year of a day, by cycles of 400, 100, 4 and 1 years; the last day of a cycle of 400 or of 4 years
    belongs to a cycle that is a day longer than the others. -/
def yearOf (day : Nat) : Nat :=
  let n400 := day / 146097
  let rest400 := day % 146097
  let n100 := rest400 / 36524
  let rest100 := rest400 % 36524
  let n4 := rest100 / 1461
  let rest4 := rest100 % 1461
  let n1 := rest4 / 365
  if n100 = 4 ∨ n1 = 4 then n400 * 400 + n100 * 100 + n4 * 4 + n1
  else n400 * 400 + n100 * 100 + n4 * 4 + n1 + 1

theorem one_le_yearOf (day : Nat) : 1 ≤ yearOf day := by
  unfold yearOf
  dsimp only
  split <;> omega

/-- A day lies in its year. -/
theorem yearOf_spec (day : Nat) :
    daysBeforeYear (yearOf day) ≤ day ∧ day < daysBeforeYear (yearOf day + 1) := by
  rw [daysBeforeYear_succ (one_le_yearOf day)]
  have h400 := Nat.div_add_mod day 146097
  have h100 := Nat.div_add_mod (day % 146097) 36524
  have h4 := Nat.div_add_mod (day % 146097 % 36524) 1461
  have h1 := Nat.div_add_mod (day % 146097 % 36524 % 1461) 365
  have hlt400 := Nat.mod_lt day (show 146097 > 0 by decide)
  have hlt100 := Nat.mod_lt (day % 146097) (show 36524 > 0 by decide)
  have hlt4 := Nat.mod_lt (day % 146097 % 36524) (show 1461 > 0 by decide)
  have hlt1 := Nat.mod_lt (day % 146097 % 36524 % 1461) (show 365 > 0 by decide)
  unfold yearOf
  dsimp only
  generalize day / 146097 = a at *
  generalize day % 146097 = rest400 at *
  generalize rest400 / 36524 = b at *
  generalize rest400 % 36524 = rest100 at *
  generalize rest100 / 1461 = c at *
  generalize rest100 % 1461 = rest4 at *
  generalize rest4 / 365 = d at *
  generalize rest4 % 365 = rest1 at *
  by_cases hb4 : b = 4
  · -- the last day of a cycle of 400 years
    rw [if_pos (Or.inl hb4),
      show a * 400 + b * 100 + c * 4 + d = 400 * a + 100 * 3 + 4 * 24 + 3 + 1 by omega,
      @daysBeforeYear_cycles a 3 24 3 (by omega) (by omega) (by omega),
      @daysInYear_cycles a 3 24 3 (by omega) (by omega) (by omega), if_pos (by omega)]
    omega
  by_cases hd4 : d = 4
  · -- the last day of a cycle of 4 years
    rw [if_pos (Or.inr hd4),
      show a * 400 + b * 100 + c * 4 + d = 400 * a + 100 * b + 4 * c + 3 + 1 by omega,
      @daysBeforeYear_cycles a b c 3 (by omega) (by omega) (by omega),
      @daysInYear_cycles a b c 3 (by omega) (by omega) (by omega), if_pos (by omega)]
    omega
  · have hlong : 365 ≤ if d = 3 ∧ (c ≠ 24 ∨ b = 3) then 366 else 365 := by
      split <;> omega
    rw [if_neg (by omega),
      show a * 400 + b * 100 + c * 4 + d + 1 = 400 * a + 100 * b + 4 * c + d + 1 by omega,
      daysBeforeYear_cycles (by omega) (by omega) (by omega),
      daysInYear_cycles (by omega) (by omega) (by omega)]
    omega

/-! ## Months -/

/-- The number of days of a month. -/
def daysInMonth (leap : Bool) : Nat → Nat
  | 2 => if leap then 29 else 28
  | 4 | 6 | 9 | 11 => 30
  | _ => 31

/-- The number of days of the year before the first of a month. -/
def daysBeforeMonth (leap : Bool) : Nat → Nat
  | 0 | 1 => 0
  | month + 2 => daysBeforeMonth leap (month + 1) + daysInMonth leap (month + 1)

theorem daysBeforeMonth_succ {leap : Bool} {month : Nat} (hmonth : 1 ≤ month) :
    daysBeforeMonth leap (month + 1) = daysBeforeMonth leap month + daysInMonth leap month := by
  obtain ⟨n, rfl⟩ : ∃ n, month = n + 1 := ⟨month - 1, by omega⟩
  rfl

theorem daysBeforeMonth_mono {leap : Bool} {month month' : Nat} (hmonth : 1 ≤ month)
    (hle : month ≤ month') : daysBeforeMonth leap month ≤ daysBeforeMonth leap month' := by
  induction hle with
  | refl => exact Nat.le_refl _
  | step hle ih =>
    rw [daysBeforeMonth_succ (Nat.le_trans hmonth hle)]
    omega

/-- Twelve months make a year. -/
theorem daysBeforeMonth_thirteen (year : Nat) :
    daysBeforeMonth (isLeap year) 13 = daysInYear year := by
  unfold daysInYear
  cases isLeap year <;> decide

/-- The month of a day of the year. -/
def monthOf (leap : Bool) (day : Nat) : Nat :=
  ((List.range 12).filter fun month => daysBeforeMonth leap (month + 1) ≤ day).length

theorem monthOf_spec {leap : Bool} {day : Nat} (hday : day < daysBeforeMonth leap 13) :
    1 ≤ monthOf leap day ∧ monthOf leap day ≤ 12 ∧
      daysBeforeMonth leap (monthOf leap day) ≤ day ∧
      day < daysBeforeMonth leap (monthOf leap day + 1) := by
  have hall : ∀ leap : Bool, ∀ day < 366, day < daysBeforeMonth leap 13 →
      1 ≤ monthOf leap day ∧ monthOf leap day ≤ 12 ∧
        daysBeforeMonth leap (monthOf leap day) ≤ day ∧
        day < daysBeforeMonth leap (monthOf leap day + 1) := by decide +kernel
  have hbound : daysBeforeMonth leap 13 ≤ 366 := by cases leap <;> decide
  exact hall leap day (by omega) hday

/-! ## Dates -/

/-- A day of the calendar. -/
structure Date where
  year : Nat
  month : Nat
  day : Nat
  hyear : 1 ≤ year
  hmonth : 1 ≤ month ∧ month ≤ 12
  hday : 1 ≤ day ∧ day ≤ daysInMonth (isLeap year) month

theorem Date.eq_iff {a b : Date} : a = b ↔ a.year = b.year ∧ a.month = b.month ∧ a.day = b.day := by
  cases a
  cases b
  exact Date.mk.injEq .. ▸ Iff.rfl

instance : DecidableEq Date := fun _ _ => decidable_of_iff _ Date.eq_iff.symm

/-- The number of the day. -/
def Date.ordinal (date : Date) : Nat :=
  daysBeforeYear date.year + daysBeforeMonth (isLeap date.year) date.month + (date.day - 1)

/-- The date that was asked for, if there is that day. -/
def date? (year month day : Nat) : Option Date :=
  if h : 1 ≤ year ∧ (1 ≤ month ∧ month ≤ 12) ∧ 1 ≤ day ∧ day ≤ daysInMonth (isLeap year) month then
    some ⟨year, month, day, h.1, h.2.1, h.2.2⟩
  else none

theorem Date.ordinal_bounds (date : Date) :
    daysBeforeYear date.year ≤ date.ordinal ∧ date.ordinal < daysBeforeYear (date.year + 1) := by
  have hmonth := @daysBeforeMonth_mono (isLeap date.year) (date.month + 1) 13 (by omega)
    (by have := date.hmonth.2; omega)
  rw [daysBeforeMonth_thirteen, daysBeforeMonth_succ date.hmonth.1] at hmonth
  rw [daysBeforeYear_succ date.hyear]
  have hday := date.hday
  unfold Date.ordinal
  omega

/-- The date of a day. -/
def Date.ofOrdinal (n : Nat) : Date where
  year := yearOf n
  month := monthOf (isLeap (yearOf n)) (n - daysBeforeYear (yearOf n))
  day := n - daysBeforeYear (yearOf n) -
    daysBeforeMonth (isLeap (yearOf n))
      (monthOf (isLeap (yearOf n)) (n - daysBeforeYear (yearOf n))) + 1
  hyear := one_le_yearOf n
  hmonth := by
    have hyear := yearOf_spec n
    rw [daysBeforeYear_succ (one_le_yearOf n), ← daysBeforeMonth_thirteen] at hyear
    have hmonth := @monthOf_spec (isLeap (yearOf n)) (n - daysBeforeYear (yearOf n)) (by omega)
    exact ⟨hmonth.1, hmonth.2.1⟩
  hday := by
    have hyear := yearOf_spec n
    rw [daysBeforeYear_succ (one_le_yearOf n), ← daysBeforeMonth_thirteen] at hyear
    have hmonth := @monthOf_spec (isLeap (yearOf n)) (n - daysBeforeYear (yearOf n)) (by omega)
    obtain ⟨hone, -, hlow, hhigh⟩ := hmonth
    rw [daysBeforeMonth_succ hone] at hhigh
    omega

@[simp] theorem Date.ordinal_ofOrdinal (n : Nat) : (Date.ofOrdinal n).ordinal = n := by
  have hyear := yearOf_spec n
  rw [daysBeforeYear_succ (one_le_yearOf n), ← daysBeforeMonth_thirteen] at hyear
  obtain ⟨-, -, hlow, -⟩ :=
    @monthOf_spec (isLeap (yearOf n)) (n - daysBeforeYear (yearOf n)) (by omega)
  show daysBeforeYear (yearOf n) + daysBeforeMonth (isLeap (yearOf n)) (monthOf _ _) +
    (_ - _ + 1 - 1) = n
  omega

/-- The same day a year earlier or later, where the calendar has it, is a year's length away. -/
theorem Date.ordinal_next_year {date date' : Date} (hyear : date.year < date'.year)
    (hmonth : date'.month = date.month) (hday : date'.day = date.day) :
    date.ordinal + 365 ≤ date'.ordinal := by
  have hyears := daysBeforeYear_mono (by omega) (show date.year + 1 ≤ date'.year from hyear)
  rw [daysBeforeYear_succ date.hyear] at hyears
  have hmonths := date.hmonth
  have hcases : daysInYear date.year + daysBeforeMonth (isLeap date'.year) date.month ≥
      365 + daysBeforeMonth (isLeap date.year) date.month := by
    have hall : ∀ leap leap' : Bool, ∀ month < 13, 1 ≤ month →
        (if leap then 366 else 365) + daysBeforeMonth leap' month ≥
          365 + daysBeforeMonth leap month := by decide +kernel
    exact hall (isLeap date.year) (isLeap date'.year) date.month (by omega) hmonths.1
  unfold Date.ordinal
  rw [hmonth, hday]
  omega

end Calendar
