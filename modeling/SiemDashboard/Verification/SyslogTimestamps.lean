import SiemDashboard.Adapters.PfsenseFilterlogAdapter

/-!
# The year of a syslog timestamp

A firewall writes its local time without the year, and the receiver infers the year from the time of receipt.

* **Rendering** — `Padding`, `Frame`, `header`: what the firewall sends.
* **Reading** — `matchBsd_line`, `strptime_header`: the header is read back, unless it says 29 February.
* **Years** — `argmin_candidates`: within 180 days of the receipt the year is the right one.
* **Recovery** — `recovers_iff`.
-/

namespace SiemDashboard.PfsenseFilterlog

open Python Calendar

/-! ## Rendering -/

/-- How a day before the 10th fills its two columns. -/
inductive Padding where
  | blank
  | zero
deriving DecidableEq

def Padding.char : Padding → Char
  | .blank => ' '
  | .zero => '0'

/-- `Mon`. -/
def monthName (month : Nat) : List Char := monthNames.getD (month - 1) []

/-- `DD`. -/
def dayText (padding : Padding) (day : Nat) : List Char :=
  [if day < 10 then padding.char else Nat.digitChar (day / 10), Nat.digitChar (day % 10)]

/-- `Mon DD HH:MM:SS`: what a clock shows. -/
def header (padding : Padding) (wall : Int) : List Char :=
  monthName (wallDate wall).month ++ ' ' :: dayText padding (wallDate wall).day ++
    ' ' :: clockText (wallSeconds wall)

/-- The priority of a message. -/
structure Priority where
  number : List Char
  hlength : 1 ≤ number.length ∧ number.length ≤ 3
  hdigits : ∀ c ∈ number, c.isDigit = true

def Priority.text (priority : Priority) : List Char := '<' :: priority.number ++ ['>']

/-- What stands around the header of a message. -/
structure Frame where
  priority : Option Priority
  rest : List Char
  hrest : rest = [] ∨ ∃ more, rest = ' ' :: more

/-- The message. -/
def Frame.line (frame : Frame) (header : List Char) : String :=
  String.ofList ((frame.priority.elim [] Priority.text ++ header) ++ frame.rest)

/-! ## Characters -/

/-- A character that `sanitize_pfsense_text` keeps wherever it is. -/
def Plain (c : Char) : Prop := isUnsafeControl c = false ∧ isSpace c = false

instance (c : Char) : Decidable (Plain c) := inferInstanceAs (Decidable (_ ∧ _))

theorem plain_of_range {c : Char} (hlow : 33 ≤ c.toNat) (hhigh : c.toNat ≤ 126) : Plain c := by
  unfold Plain isUnsafeControl isSpace
  simp only [Bool.or_eq_false_iff, Bool.and_eq_false_iff, decide_eq_false_iff_not, beq_eq_false_iff_ne]
  omega

theorem isDigit_range {c : Char} (hc : c.isDigit = true) : 48 ≤ c.toNat ∧ c.toNat ≤ 57 := by
  simpa [Char.isDigit, UInt32.le_iff_toNat_le] using hc

theorem plain_of_isDigit {c : Char} (hc : c.isDigit = true) : Plain c := by
  have hrange := isDigit_range hc
  exact plain_of_range (by omega) (by omega)

/-- The character of a digit. -/
theorem digitChar_spec : ∀ d < 10, (Nat.digitChar d).isDigit = true ∧ asciiDigit (Nat.digitChar d) = some d ∧
    (Nat.digitChar d).toNat - '0'.toNat = d := by
  decide +kernel

theorem digitChar_isDigit (n : Nat) : (Nat.digitChar (n % 10)).isDigit = true :=
  (digitChar_spec (n % 10) (Nat.mod_lt n (by decide))).1

@[simp] theorem asciiDigit_digitChar {d : Nat} (hd : d < 10) : asciiDigit (Nat.digitChar d) = some d :=
  (digitChar_spec d hd).2.1

theorem mem_fixedWidth {width n : Nat} {c : Char} (hc : c ∈ fixedWidth width n) : c.isDigit = true := by
  induction width generalizing n with
  | zero => cases hc
  | succ width ih =>
    rw [fixedWidth, List.mem_append, List.mem_singleton] at hc
    rcases hc with hc | rfl
    · exact ih hc
    · exact digitChar_isDigit n

@[simp] theorem length_fixedWidth (width n : Nat) : (fixedWidth width n).length = width := by
  induction width generalizing n with
  | zero => rfl
  | succ width ih => rw [fixedWidth, List.length_append, ih, List.length_singleton]

theorem fixedWidth_two {n : Nat} (hn : n < 100) :
    fixedWidth 2 n = [Nat.digitChar (n / 10), Nat.digitChar (n % 10)] := by
  show [Nat.digitChar (n / 10 % 10), Nat.digitChar (n % 10)] = _
  rw [Nat.mod_eq_of_lt (show n / 10 < 10 by omega)]

section

variable {lib : Library}

theorem decimal_digitChar {d : Nat} (hd : d < 10) : lib.decimal (Nat.digitChar d) = some d := by
  obtain ⟨hdigit, -, hvalue⟩ := digitChar_spec d hd
  rw [lib.decimal_digit _ hdigit, hvalue]

theorem isDecimal_of_isDigit {c : Char} (hc : c.isDigit = true) : isDecimal lib c = true := by
  rw [isDecimal, lib.decimal_digit c hc]
  rfl

theorem isDecimal_ascii {c : Char} (hc : c.toNat < 128) (hdigit : c.isDigit = false) :
    isDecimal lib c = false := by
  rw [isDecimal, lib.decimal_ascii c hc hdigit]
  rfl

end

/-! ## What is sanitized -/

theorem rdropWhile_append_of_last {α : Type} {p : α → Bool} {xs : List α} {x : α} (hx : p x = false)
    (ys : List α) : ((xs ++ [x]) ++ ys).rdropWhile p = (xs ++ [x]) ++ ys.rdropWhile p := by
  induction ys using List.reverseRecOn with
  | nil =>
    rw [List.append_nil, List.rdropWhile_nil, List.append_nil]
    exact List.rdropWhile_concat_neg p xs x (by simp [hx])
  | append_singleton ys y ih =>
    rw [← List.append_assoc]
    by_cases hy : p y = true
    · rw [List.rdropWhile_concat_pos _ _ _ hy, List.rdropWhile_concat_pos _ _ _ hy]
      exact ih
    · rw [List.rdropWhile_concat_neg _ _ _ hy, List.rdropWhile_concat_neg _ _ _ hy, List.append_assoc]

/-- A text that starts and ends with plain characters is kept. -/
theorem sanitizeChars_append {first last : Char} {middle : List Char} (hfirst : Plain first)
    (hmiddle : ∀ c ∈ middle, isUnsafeControl c = false) (hlast : Plain last) (rest : List Char) :
    sanitizeChars ((first :: middle ++ [last]) ++ rest) =
      (first :: middle ++ [last]) ++ (rest.filter fun c => !isUnsafeControl c).rdropWhile isSpace := by
  have hkept : (first :: middle ++ [last]).filter (fun c => !isUnsafeControl c) =
      first :: middle ++ [last] := by
    rw [List.filter_eq_self]
    intro c hc
    rw [Bool.not_eq_true']
    simp only [List.cons_append, List.mem_cons, List.mem_append, List.not_mem_nil, or_false] at hc
    rcases hc with rfl | hc | rfl
    · exact hfirst.1
    · exact hmiddle c hc
    · exact hlast.1
  rw [sanitizeChars, List.filter_append, hkept, stripChars]
  have hdrop : ((first :: middle ++ [last]) ++ rest.filter fun c => !isUnsafeControl c).dropWhile isSpace =
      (first :: middle ++ [last]) ++ rest.filter fun c => !isUnsafeControl c := by
    rw [List.cons_append, List.cons_append, List.dropWhile_cons_of_neg (by simp [hfirst.2])]
  rw [hdrop]
  exact rdropWhile_append_of_last hlast.2 _

/-- What follows the header still follows it after a blank. -/
theorem rest_sanitized {rest : List Char} (hrest : rest = [] ∨ ∃ more, rest = ' ' :: more) :
    endsField ((rest.filter fun c => !isUnsafeControl c).rdropWhile isSpace) = true := by
  rcases hrest with rfl | ⟨more, rfl⟩
  · rfl
  · rw [List.filter_cons_of_pos (by decide)]
    have hprefix := List.rdropWhile_prefix isSpace (' ' :: more.filter fun c => !isUnsafeControl c)
    generalize (' ' :: more.filter fun c => !isUnsafeControl c).rdropWhile isSpace = kept at hprefix ⊢
    cases kept with
    | nil => rfl
    | cons c kept =>
      have hc : c = ' ' := (List.cons_prefix_cons.1 hprefix).1
      subst hc
      exact (show isSpace ' ' = true by decide)

/-! ## What is read -/

/-- A clock shows a date of the calendar. -/
theorem monthName_spec {month : Nat} (hlow : 1 ≤ month) (hhigh : month ≤ 12) :
    ∃ a b c, monthName month = [a, b, c] ∧ isCapital a = true ∧ isSmall b = true ∧ isSmall c = true ∧
      monthNumber [a, b, c] = some month := by
  have hmonth : month ∈ List.range' 1 12 := by
    rw [List.mem_range'_1]
    omega
  have hall : ∀ month ∈ List.range' 1 12, ∃ name ∈ monthNames, monthName month = name ∧
      monthNumber name = some month := by decide +kernel
  have hnames : ∀ name ∈ monthNames, name.length = 3 ∧ name.head?.any isCapital = true ∧
      name.tail.all isSmall = true := by decide +kernel
  obtain ⟨name, hname, heq, hnumber⟩ := hall month hmonth
  obtain ⟨hlength, hcapital, hsmall⟩ := hnames name hname
  obtain ⟨a, b, c, rfl⟩ := List.length_eq_three.mp hlength
  simp only [List.tail_cons, List.all_cons, List.all_nil, Bool.and_true, Bool.and_eq_true] at hsmall
  exact ⟨a, b, c, heq, hcapital, hsmall.1, hsmall.2, hnumber⟩

theorem wallDate_month (wall : Int) : 1 ≤ (wallDate wall).month ∧ (wallDate wall).month ≤ 12 :=
  (wallDate wall).hmonth

theorem daysInMonth_le (leap : Bool) (month : Nat) : daysInMonth leap month ≤ 31 := by
  unfold daysInMonth
  split
  · cases leap <;> decide
  · decide
  · decide
  · decide
  · decide
  · decide

theorem wallSeconds_lt (wall : Int) : wallSeconds wall < 86400 := by
  unfold wallSeconds dayMicros secondMicros
  omega

theorem clockText_eq {seconds : Nat} (hseconds : seconds < 86400) :
    clockText seconds =
      [Nat.digitChar (seconds / 3600 / 10), Nat.digitChar (seconds / 3600 % 10), ':',
        Nat.digitChar (seconds / 60 % 60 / 10), Nat.digitChar (seconds / 60 % 60 % 10), ':',
        Nat.digitChar (seconds % 60 / 10), Nat.digitChar (seconds % 60 % 10)] := by
  rw [clockText, fixedWidth_two (show seconds / 3600 < 100 by omega),
    fixedWidth_two (show seconds / 60 % 60 < 100 by omega),
    fixedWidth_two (show seconds % 60 < 100 by omega)]
  rfl

theorem isCapital_range {c : Char} (hc : isCapital c = true) : 65 ≤ c.toNat ∧ c.toNat ≤ 90 := by
  simpa [isCapital] using hc

theorem isSmall_range {c : Char} (hc : isSmall c = true) : 97 ≤ c.toNat ∧ c.toNat ≤ 122 := by
  simpa [isSmall] using hc

theorem unsafe_of_space {padding : Padding} : isUnsafeControl padding.char = false := by
  cases padding <;> decide

/-- No character of a header is a control character. -/
theorem header_safe {padding : Padding} {wall : Int} {c : Char} (hc : c ∈ header padding wall) :
    isUnsafeControl c = false := by
  obtain ⟨a, b, d, hname, ha, hb, hd, -⟩ := monthName_spec (wallDate_month wall).1 (wallDate_month wall).2
  have ha := isCapital_range ha
  have hb := isSmall_range hb
  have hd := isSmall_range hd
  have hday := (wallDate wall).hday.2
  have hbound := daysInMonth_le (isLeap (wallDate wall).year) (wallDate wall).month
  rw [header, hname, dayText] at hc
  simp only [List.cons_append, List.nil_append, List.mem_cons] at hc
  rcases hc with rfl | rfl | rfl | rfl | rfl | rfl | rfl | hc
  · exact (plain_of_range (by omega) (by omega)).1
  · exact (plain_of_range (by omega) (by omega)).1
  · exact (plain_of_range (by omega) (by omega)).1
  · decide
  · split
    · exact unsafe_of_space
    · exact (plain_of_isDigit (digitChar_spec _ (by omega)).1).1
  · exact (plain_of_isDigit (digitChar_isDigit _)).1
  · decide
  · rw [clockText, List.mem_append, List.mem_append] at hc
    rcases hc with (hc | hc) | hc
    · exact (plain_of_isDigit (mem_fixedWidth hc)).1
    · rw [List.mem_cons] at hc
      rcases hc with rfl | hc
      · decide
      · exact (plain_of_isDigit (mem_fixedWidth hc)).1
    · rw [List.mem_cons] at hc
      rcases hc with rfl | hc
      · decide
      · exact (plain_of_isDigit (mem_fixedWidth hc)).1

/-- A header starts with a letter and ends with a digit. -/
theorem header_ends (padding : Padding) (wall : Int) :
    ∃ first middle last, header padding wall = first :: middle ++ [last] ∧ isCapital first = true ∧
      last.isDigit = true := by
  obtain ⟨a, b, d, hname, ha, -⟩ := monthName_spec (wallDate_month wall).1 (wallDate_month wall).2
  have hclock := clockText_eq (wallSeconds_lt wall)
  refine ⟨a, ([b, d] ++ ' ' :: dayText padding (wallDate wall).day ++
    ' ' :: (clockText (wallSeconds wall)).dropLast), _, ?_, ha, digitChar_isDigit (wallSeconds wall % 60)⟩
  rw [header, hname, hclock]
  simp [dayText]

/-- What is left of a message. -/
theorem sanitize_line (frame : Frame) (padding : Padding) (wall : Int) :
    ∃ kept, endsField kept = true ∧ sanitizeChars (frame.line (header padding wall)).toList =
      frame.priority.elim [] Priority.text ++ (header padding wall ++ kept) := by
  obtain ⟨first, middle, last, hheader, hfirst, hlast⟩ := header_ends padding wall
  have hfirst := isCapital_range hfirst
  refine ⟨_, rest_sanitized frame.hrest, ?_⟩
  rw [Frame.line, String.toList_ofList, ← List.append_assoc]
  cases hpriority : frame.priority with
  | none =>
    have hmiddle : ∀ c ∈ middle, isUnsafeControl c = false := by
      intro c hc
      exact @header_safe padding wall c (by simp [hheader, hc])
    rw [Option.elim_none, List.nil_append, hheader]
    exact sanitizeChars_append (plain_of_range (by omega) (by omega)) hmiddle (plain_of_isDigit hlast) _
  | some priority =>
    have hmiddle : ∀ c ∈ priority.number ++ '>' :: first :: middle, isUnsafeControl c = false := by
      intro c hc
      rw [List.mem_append, List.mem_cons, List.mem_cons] at hc
      rcases hc with hc | rfl | rfl | hc
      · exact (plain_of_isDigit (priority.hdigits c hc)).1
      · decide
      · exact @header_safe padding wall c (by simp [hheader])
      · exact @header_safe padding wall c (by simp [hheader, hc])
    have hline : (Priority.text priority ++ header padding wall) =
        '<' :: (priority.number ++ '>' :: first :: middle) ++ [last] := by
      rw [Priority.text, hheader]
      simp
    rw [Option.elim_some, hline]
    exact sanitizeChars_append (by decide) hmiddle (plain_of_isDigit hlast) _

section

variable {lib : Library}

theorem not_decimal_of_capital {c : Char} (hc : isCapital c = true) : isDecimal lib c = false := by
  have hrange := isCapital_range hc
  refine isDecimal_ascii (by omega) ?_
  by_contra hdigit
  have hdigit := isDigit_range (Bool.not_eq_false _ ▸ hdigit)
  omega

/-- The priority is skipped. -/
theorem skipPriority_line (priority : Option Priority) {first : Char} (hfirst : isCapital first = true)
    (cs : List Char) :
    skipPriority lib (priority.elim [] Priority.text ++ first :: cs) = first :: cs := by
  cases priority with
  | none =>
    rw [Option.elim_none, List.nil_append]
    unfold skipPriority
    split
    · next heq =>
      obtain ⟨rfl, -⟩ := List.cons.inj heq
      cases hfirst
    · rfl
  | some priority =>
    have hnumber : ∀ c ∈ priority.number, isDecimal lib c = true := fun c hc =>
      isDecimal_of_isDigit (priority.hdigits c hc)
    have hend : isDecimal lib '>' = false := isDecimal_ascii (by decide) (by decide)
    have hdrop : (priority.number ++ '>' :: first :: cs).dropWhile (isDecimal lib) = '>' :: first :: cs := by
      rw [List.dropWhile_append_of_pos hnumber, List.dropWhile_cons_of_neg (by simp [hend])]
    have htake : (priority.number ++ '>' :: first :: cs).takeWhile (isDecimal lib) = priority.number := by
      rw [List.takeWhile_append_of_pos hnumber, List.takeWhile_cons_of_neg (by simp [hend]),
        List.append_nil]
    rw [Option.elim_some, Priority.text, List.cons_append, List.cons_append, List.append_assoc,
      List.singleton_append]
    simp only [skipPriority, hdrop, htake, priority.hlength, and_self, if_true]

/-- A header of the BSD syslog has no version number. -/
theorem matchRfc5424_line (priority : Option Priority) (padding : Padding) (wall : Int) (kept : List Char) :
    matchRfc5424 lib (priority.elim [] Priority.text ++ (header padding wall ++ kept)) = none := by
  obtain ⟨first, middle, last, hheader, hfirst, -⟩ := header_ends padding wall
  rw [hheader, List.cons_append, List.cons_append]
  unfold matchRfc5424
  dsimp only
  rw [skipPriority_line priority hfirst, List.takeWhile_cons_of_neg (by simp [not_decimal_of_capital hfirst])]
  rfl

/-- What the header says of the day. -/
def dayField (padding : Padding) (day : Nat) : List Char :=
  if day < 10 ∧ padding = .blank then [Nat.digitChar day] else fixedWidth 2 day

theorem takeEach_cons {p : Char → Bool} {ps : List (Char → Bool)} {c : Char} {cs : List Char}
    (hc : p c = true) :
    takeEach (p :: ps) (c :: cs) = (takeEach ps cs).map fun taken => (c :: taken.1, taken.2) := by
  rw [takeEach, if_pos hc]

theorem takeEach_clock {seconds : Nat} (hseconds : seconds < 86400) (kept : List Char) :
    takeEach (clockShape lib) (clockText seconds ++ kept) = some (clockText seconds, kept) := by
  have hdigit : ∀ d < 10, isDecimal lib (Nat.digitChar d) = true := fun d hd =>
    isDecimal_of_isDigit (digitChar_spec d hd).1
  rw [clockText_eq hseconds, clockShape]
  simp only [List.cons_append, List.nil_append]
  rw [takeEach_cons (hdigit _ (by omega)), takeEach_cons (hdigit _ (by omega)), takeEach_cons (by decide),
    takeEach_cons (hdigit _ (by omega)), takeEach_cons (hdigit _ (by omega)), takeEach_cons (by decide),
    takeEach_cons (hdigit _ (by omega)), takeEach_cons (hdigit _ (by omega))]
  rfl

theorem isDecimal_digitChar {d : Nat} (hd : d < 10) : isDecimal lib (Nat.digitChar d) = true :=
  isDecimal_of_isDigit (digitChar_spec d hd).1

theorem isDecimal_blank : isDecimal lib ' ' = false := isDecimal_ascii (by decide) (by decide)

/-- `\s+` before the day takes the padding as well. -/
theorem skipSpaces_day {day : Nat} (hday : day < 100) (padding : Padding) (more : List Char) :
    skipSpaces (' ' :: (dayText padding day ++ more)) = some (dayField padding day ++ more) := by
  have hspace : isSpace ' ' = true := by decide
  have hdigit : ∀ d < 10, isSpace (Nat.digitChar d) = false := fun d hd =>
    (plain_of_isDigit (digitChar_spec d hd).1).2
  rw [skipSpaces, if_pos hspace, dayText, dayField, fixedWidth_two hday]
  by_cases hten : day < 10
  · cases padding with
    | blank =>
      have hpad : isSpace Padding.blank.char = true := hspace
      rw [if_pos hten, if_pos ⟨hten, rfl⟩, List.cons_append, List.cons_append, List.nil_append,
        List.dropWhile_cons_of_pos hpad,
        List.dropWhile_cons_of_neg (by simp [hdigit (day % 10) (by omega)]), Nat.mod_eq_of_lt hten]
      rfl
    | zero =>
      have hpad : isSpace Padding.zero.char = false := by decide
      rw [if_pos hten, if_neg (by simp), List.cons_append,
        List.dropWhile_cons_of_neg (by simp [hpad]), show day / 10 = 0 by omega]
      rfl
  · rw [if_neg hten, if_neg (by omega), List.cons_append,
      List.dropWhile_cons_of_neg (by simp [hdigit (day / 10) (by omega)])]

theorem takeDay_dayField {day : Nat} (hday : day < 100) (padding : Padding) (more : List Char) :
    takeDay lib (dayField padding day ++ ' ' :: more) = some (dayField padding day, ' ' :: more) := by
  rw [dayField]
  split
  · next hsmall =>
    rw [List.singleton_append, takeDay, isDecimal_digitChar hsmall.1, isDecimal_blank]
    rfl
  · rw [fixedWidth_two hday, List.cons_append, List.singleton_append, takeDay,
      isDecimal_digitChar (show day / 10 < 10 by omega), isDecimal_digitChar (show day % 10 < 10 by omega)]
    rfl

/-- The pattern finds the parts of the header. -/
theorem matchBsd_line (priority : Option Priority) (padding : Padding) (wall : Int) {kept : List Char}
    (hkept : endsField kept = true) :
    matchBsd lib (priority.elim [] Priority.text ++ (header padding wall ++ kept)) =
      some ⟨monthName (wallDate wall).month, dayField padding (wallDate wall).day,
        clockText (wallSeconds wall)⟩ := by
  obtain ⟨a, b, c, hname, ha, hb, hc, -⟩ := monthName_spec (wallDate_month wall).1 (wallDate_month wall).2
  have hday := (wallDate wall).hday.2
  have hbound := daysInMonth_le (isLeap (wallDate wall).year) (wallDate wall).month
  have hclock : ∃ c cs, clockText (wallSeconds wall) = c :: cs ∧ isSpace c = false :=
    ⟨_, _, clockText_eq (wallSeconds_lt wall),
      (plain_of_isDigit (digitChar_spec _ (by have := wallSeconds_lt wall; omega)).1).2⟩
  obtain ⟨first, cs, hfirst, hspace⟩ := hclock
  have hskip : skipSpaces (' ' :: (clockText (wallSeconds wall) ++ kept)) =
      some (clockText (wallSeconds wall) ++ kept) := by
    rw [skipSpaces, if_pos (by decide), hfirst, List.cons_append,
      List.dropWhile_cons_of_neg (by simp [hspace])]
  have hparts : header padding wall ++ kept = a :: b :: c :: ' ' ::
      (dayText padding (wallDate wall).day ++ ' ' :: (clockText (wallSeconds wall) ++ kept)) := by
    rw [header, hname]
    simp
  have htake : takeEach [isCapital, isSmall, isSmall] (header padding wall ++ kept) =
      some ([a, b, c], ' ' ::
        (dayText padding (wallDate wall).day ++ ' ' :: (clockText (wallSeconds wall) ++ kept))) := by
    rw [hparts, takeEach_cons ha, takeEach_cons hb, takeEach_cons hc]
    rfl
  unfold matchBsd
  rw [hname, hparts, skipPriority_line priority ha, ← hparts, htake]
  simp only [Option.bind_eq_bind, Option.bind_some]
  rw [skipSpaces_day (by omega)]
  simp only [Option.bind_some]
  rw [takeDay_dayField (by omega)]
  simp only [Option.bind_some]
  rw [hskip]
  simp only [Option.bind_some]
  rw [takeEach_clock (wallSeconds_lt wall)]
  simp only [Option.bind_some]
  rw [if_pos hkept]

/-! ## What `strptime` makes of it -/

theorem dayNumber_dayField {day : Nat} (hlow : 1 ≤ day) (hhigh : day ≤ 31) (padding : Padding) :
    dayNumber lib (dayField padding day) = some day := by
  rw [dayField]
  split
  · next hsmall => exact asciiDigit_digitChar hsmall.1
  · rw [fixedWidth_two (by omega), dayNumber, asciiDigit_digitChar (show day / 10 < 10 by omega),
      decimal_digitChar (show day % 10 < 10 by omega), asciiDigit_digitChar (show day % 10 < 10 by omega)]
    simp only [Option.bind_eq_bind, Option.bind_some, ite_self, Option.pure_def]
    rw [if_neg (by omega), Nat.div_add_mod day 10]

theorem clockNumber_digits {bound n : Nat} (hbound : bound ≤ 100) (hn : n < bound) :
    clockNumber lib bound (Nat.digitChar (n / 10)) (Nat.digitChar (n % 10)) = some n := by
  rw [clockNumber, asciiDigit_digitChar (show n / 10 < 10 by omega),
    decimal_digitChar (show n % 10 < 10 by omega), asciiDigit_digitChar (show n % 10 < 10 by omega)]
  simp only [Option.bind_eq_bind, Option.bind_some, ite_self, Option.pure_def]
  rw [Nat.div_add_mod n 10, if_pos hn]

theorem clockSeconds_clockText {seconds : Nat} (hseconds : seconds < 86400) :
    clockSeconds lib (clockText seconds) = some seconds := by
  rw [clockText_eq hseconds, clockSeconds, clockNumber_digits (by decide) (show seconds / 3600 < 24 by omega),
    clockNumber_digits (by decide) (show seconds / 60 % 60 < 60 by omega),
    clockNumber_digits (by decide) (show seconds % 60 < 60 by omega)]
  simp only [Option.bind_eq_bind, Option.bind_some, Option.pure_def]
  rw [show (seconds / 3600 * 60 + seconds / 60 % 60) * 60 + seconds % 60 = seconds by omega]

/-- The header is a day of the year 1900, if that year has the day. -/
theorem strptime_header (padding : Padding) (wall : Int) :
    strptime lib ⟨monthName (wallDate wall).month, dayField padding (wallDate wall).day,
        clockText (wallSeconds wall)⟩ =
      (date? 1900 (wallDate wall).month (wallDate wall).day).map fun date => (date, wallSeconds wall) := by
  obtain ⟨a, b, c, hname, -, -, -, hnumber⟩ :=
    monthName_spec (wallDate_month wall).1 (wallDate_month wall).2
  have hday := (wallDate wall).hday
  have hbound := daysInMonth_le (isLeap (wallDate wall).year) (wallDate wall).month
  unfold strptime
  dsimp only
  rw [hname, hnumber, dayNumber_dayField hday.1 (by omega), clockSeconds_clockText (wallSeconds_lt wall)]
  simp only [Option.bind_eq_bind, Option.bind_some, Option.pure_def]
  cases date? 1900 (wallDate wall).month (wallDate wall).day <;> rfl

end

/-! ## Years -/

theorem date?_eq_some {year month day : Nat} {date : Date} :
    date? year month day = some date ↔ date.year = year ∧ date.month = month ∧ date.day = day := by
  unfold date?
  constructor
  · intro h
    split at h
    · cases h
      exact ⟨rfl, rfl, rfl⟩
    · cases h
  · rintro ⟨rfl, rfl, rfl⟩
    rw [dif_pos ⟨date.hyear, date.hmonth, date.hday⟩]

theorem date?_isSome {year month day : Nat} : (date? year month day).isSome = true ↔
    1 ≤ year ∧ (1 ≤ month ∧ month ≤ 12) ∧ 1 ≤ day ∧ day ≤ daysInMonth (isLeap year) month := by
  unfold date?
  split
  · next h => exact ⟨fun _ => h, fun _ => rfl⟩
  · next h => exact ⟨fun hsome => (by cases hsome), fun hdate => absurd hdate h⟩

theorem daysInMonth_of_ne_two {month : Nat} (hmonth : month ≠ 2) (leap : Bool) :
    daysInMonth leap month = daysInMonth false month := by
  unfold daysInMonth
  split
  · exact absurd rfl hmonth
  · rfl
  · rfl
  · rfl
  · rfl
  · rfl

/-- The year 1900 has every day but the 29th of February. -/
theorem date?_1900 (date : Date) :
    (date? 1900 date.month date.day).isSome = true ↔ ¬ (date.month = 2 ∧ date.day = 29) := by
  have hday := date.hday
  rw [date?_isSome, show isLeap 1900 = false by decide]
  constructor
  · rintro ⟨-, -, -, hle⟩ ⟨htwo, hlast⟩
    rw [htwo, hlast] at hle
    exact absurd hle (by decide)
  · intro hnot
    refine ⟨by decide, date.hmonth, hday.1, ?_⟩
    by_cases htwo : date.month = 2
    · have hbound : daysInMonth (isLeap date.year) 2 ≤ 29 := by cases isLeap date.year <;> decide
      rw [htwo] at hday ⊢
      show date.day ≤ 28
      omega
    · rw [daysInMonth_of_ne_two htwo] at hday
      exact hday.2

theorem replaceYear_eq_some {date date' : Date} {year : Nat} :
    replaceYear date year = some date' ↔
      year ≤ 9999 ∧ date'.year = year ∧ date'.month = date.month ∧ date'.day = date.day := by
  rw [replaceYear]
  split
  · next hle => rw [date?_eq_some]; exact ⟨fun h => ⟨hle, h⟩, fun h => h.2⟩
  · next hle => exact ⟨fun h => (by cases h), fun h => absurd h.1 hle⟩

/-- `localNow + MAX_FUTURE_SKEW` is read for every year that has the day. -/
theorem candidates_eq_ok {date : Date} {seconds : Nat} {localNow : Int} {years : List Nat}
    {found : List Int} (h : candidates date seconds localNow years = .ok found) (candidate : Int) :
    candidate ∈ found ↔ ∃ year ∈ years, ∃ date', replaceYear date year = some date' ∧
      candidate = wallOf date' seconds ∧ candidate ≤ localNow + maxFutureSkew ∧
      Representable (localNow + maxFutureSkew) := by
  induction years generalizing found with
  | nil =>
    cases h
    simp
  | cons year years ih =>
    rw [candidates] at h
    cases hyear : replaceYear date year with
    | none =>
      rw [hyear] at h
      rw [ih h]
      simp [hyear]
    | some date' =>
      rw [hyear] at h
      dsimp only [bind, Except.bind] at h
      cases hlimit : checked (localNow + maxFutureSkew) with
      | error message => rw [hlimit] at h; cases h
      | ok limit =>
        obtain ⟨hrange, rfl⟩ := checked_eq_ok.1 hlimit
        rw [hlimit] at h
        dsimp only at h
        cases hrest : candidates date seconds localNow years with
        | error message => rw [hrest] at h; cases h
        | ok rest =>
          rw [hrest] at h
          have hfound : found = if wallOf date' seconds ≤ localNow + maxFutureSkew then
              wallOf date' seconds :: rest else rest := (Except.ok.inj h).symm
          have hmem : candidate ∈ found ↔
              (candidate = wallOf date' seconds ∧ candidate ≤ localNow + maxFutureSkew) ∨ candidate ∈ rest := by
            rw [hfound]
            split
            · next hle =>
              rw [List.mem_cons]
              exact or_congr_left ⟨fun heq => ⟨heq, heq ▸ hle⟩, fun heq => heq.1⟩
            · next hle =>
              exact ⟨Or.inr, fun hor => hor.resolve_left fun heq => hle (heq.1 ▸ heq.2)⟩
          rw [hmem, ih hrest]
          simp [hyear, hrange]

theorem candidates_of_representable {date : Date} {seconds : Nat} {localNow : Int}
    (hrange : Representable (localNow + maxFutureSkew)) (years : List Nat) :
    ∃ found, candidates date seconds localNow years = .ok found := by
  have hlimit : checked (localNow + maxFutureSkew) = .ok (localNow + maxFutureSkew) :=
    checked_eq_ok.2 ⟨hrange, rfl⟩
  induction years with
  | nil => exact ⟨[], rfl⟩
  | cons year years ih =>
    obtain ⟨rest, hrest⟩ := ih
    rw [candidates]
    cases replaceYear date year with
    | none => exact ⟨rest, hrest⟩
    | some date' =>
      refine ⟨if wallOf date' seconds ≤ localNow + maxFutureSkew then
        wallOf date' seconds :: rest else rest, ?_⟩
      dsimp only [bind, Except.bind]
      rw [hlimit, hrest]
      rfl

@[simp] theorem wallDate_ordinal (wall : Int) : (wallDate wall).ordinal = (wall / dayMicros).toNat :=
  Date.ordinal_ofOrdinal _

/-- A clock shows a day, a second of the day and a fraction of the second. -/
theorem wall_eq {wall : Int} (hwall : 0 ≤ wall) :
    wall = wallOf (wallDate wall) (wallSeconds wall) + wall % secondMicros := by
  unfold wallOf wallSeconds
  rw [wallDate_ordinal]
  unfold dayMicros secondMicros
  omega

theorem wallOf_micros (date : Date) (seconds : Nat) : wallOf date seconds % secondMicros = 0 := by
  unfold wallOf dayMicros secondMicros
  omega

/-- The year of a time at most 180 days before another is that of the other or the one before. -/
theorem year_near {wall localNow : Int} (hwall : 0 ≤ wall) (hlow : localNow - 180 * dayMicros ≤ wall)
    (hhigh : wall ≤ localNow) : (wallDate wall).year ∈ yearsAround localNow := by
  have hthis := (wallDate wall).ordinal_bounds
  have hnow := (wallDate localNow).ordinal_bounds
  rw [wallDate_ordinal] at hthis hnow
  have hdays : (wall / dayMicros).toNat ≤ (localNow / dayMicros).toNat ∧
      (localNow / dayMicros).toNat ≤ (wall / dayMicros).toNat + 181 := by
    unfold dayMicros secondMicros at *
    omega
  have hpos := (wallDate wall).hyear
  have hpos' := (wallDate localNow).hyear
  have hnot : ¬ (wallDate localNow).year < (wallDate wall).year := by
    intro hlt
    have hmono := daysBeforeYear_mono (by omega) (show (wallDate localNow).year + 1 ≤ _ from hlt)
    omega
  have hnot' : ¬ (wallDate wall).year + 1 < (wallDate localNow).year := by
    intro hlt
    have hmono := daysBeforeYear_mono (by omega) (show (wallDate wall).year + 1 + 1 ≤ _ from hlt)
    rw [daysBeforeYear_succ (by omega)] at hmono
    have hlen : 365 ≤ daysInYear ((wallDate wall).year + 1) := by
      unfold daysInYear
      split <;> omega
    omega
  rw [yearsAround, List.mem_cons, List.mem_cons]
  omega

theorem year_le {wall : Int} (hwall : Representable wall) : (wallDate wall).year ≤ 9999 := by
  by_contra hgt
  have hmono := daysBeforeYear_mono (by decide) (show 10000 ≤ (wallDate wall).year by omega)
  have hthis := (wallDate wall).ordinal_bounds
  rw [wallDate_ordinal] at hthis
  obtain ⟨hlow, hhigh⟩ := hwall
  unfold maxWall at hhigh
  unfold dayMicros secondMicros at *
  omega

/-- Of the readings that a header may stand for, that of the last 180 days is the closest one. -/
theorem argmin_candidates {date : Date} {wall localNow : Int} {found : List Int}
    (hmonth : date.month = (wallDate wall).month) (hday : date.day = (wallDate wall).day)
    (hwall : Representable wall) (hwhole : wall % secondMicros = 0)
    (hlow : localNow - 180 * dayMicros ≤ wall) (hhigh : wall ≤ localNow)
    (hrange : Representable (localNow + maxFutureSkew))
    (hfound : candidates date (wallSeconds wall) localNow (yearsAround localNow) = .ok found) :
    (found.argmin fun candidate => (candidate - localNow).natAbs) = some wall := by
  have hself : wall = wallOf (wallDate wall) (wallSeconds wall) := by
    have heq := wall_eq hwall.1
    omega
  have hmem : wall ∈ found := by
    rw [candidates_eq_ok hfound]
    refine ⟨(wallDate wall).year, year_near hwall.1 hlow hhigh, wallDate wall, ?_, hself, ?_, hrange⟩
    · exact replaceYear_eq_some.2 ⟨year_le hwall, rfl, hmonth.symm, hday.symm⟩
    · unfold maxFutureSkew dayMicros secondMicros
      omega
  have hother : ∀ candidate ∈ found, candidate = wall ∨
      (wall - localNow).natAbs < (candidate - localNow).natAbs := by
    intro candidate hcandidate
    obtain ⟨year, -, date', hdate', rfl, hle, -⟩ := (candidates_eq_ok hfound candidate).1 hcandidate
    obtain ⟨-, -, hmonth', hday'⟩ := replaceYear_eq_some.1 hdate'
    rw [hmonth] at hmonth'
    rw [hday] at hday'
    rcases Nat.lt_trichotomy date'.year (wallDate wall).year with hlt | heq | hgt
    · right
      have hyear := Date.ordinal_next_year hlt hmonth'.symm hday'.symm
      unfold wallOf maxFutureSkew dayMicros secondMicros at *
      omega
    · left
      have hsame : some date' = some (wallDate wall) := by
        rw [← (@date?_eq_some (wallDate wall).year _ _ date').2 ⟨heq, hmonth', hday'⟩]
        exact date?_eq_some.2 ⟨rfl, rfl, rfl⟩
      rw [Option.some.inj hsame]
      exact hself.symm
    · -- the same day a year later is more than a day after the receipt
      have hyear := Date.ordinal_next_year hgt hmonth' hday'
      unfold wallOf maxFutureSkew dayMicros secondMicros at *
      omega
  cases hmin : found.argmin fun candidate => (candidate - localNow).natAbs with
  | none =>
    rw [List.argmin_eq_none] at hmin
    rw [hmin] at hmem
    cases hmem
  | some closest =>
    have hle := List.le_of_mem_argmin hmem hmin
    rcases hother closest (List.argmin_mem hmin) with rfl | hlt
    · rfl
    · omega

/-! ## Recovery -/

theorem length_fractionText (micros : Nat) :
    (fractionText micros).length = if micros = 0 then 0 else 7 := by
  rw [fractionText]
  split
  · rfl
  · rw [List.length_cons, length_fixedWidth]

theorem length_dateText (date : Date) : (dateText date).length = 10 := by
  simp [dateText]

theorem length_clockText (seconds : Nat) : (clockText seconds).length = 8 := by
  simp [clockText]

/-- The texts of two readings are of one length only if both or none of them is a whole second. -/
theorem whole_of_isoformat {wall wall' offset : Int} (h : isoformat wall offset = isoformat wall' offset)
    (hwhole : wall % secondMicros = 0) : wall' % secondMicros = 0 := by
  have hlength := congrArg (fun text => text.toList.length) h
  simp only [isoformat, String.toList_ofList, List.length_append, List.length_cons, length_dateText,
    length_clockText, length_fractionText] at hlength
  have hpos : 0 ≤ wall' % secondMicros := Int.emod_nonneg _ (by decide)
  rw [hwhole] at hlength
  simp only [Int.toNat_zero, if_true] at hlength
  split at hlength
  · omega
  · omega

theorem inferYear_eq_ok {zone : Zone} {date : Date} {seconds : Nat} {now : Int} {text : String}
    (h : inferYear zone date seconds now = .ok ⟨some text, .parsed, none⟩) :
    Representable now ∧ Representable (zone.toLocal now) ∧
      ∃ found, candidates date seconds (zone.toLocal now) (yearsAround (zone.toLocal now)) = .ok found ∧
        ∃ parsed ∈ found, text = isoformat parsed (zone.utcoffset parsed) := by
  unfold inferYear astimezone at h
  dsimp only [bind, Except.bind] at h
  cases hnow : checked now with
  | error message => rw [hnow] at h; cases h
  | ok instant =>
    obtain ⟨hrange, rfl⟩ := checked_eq_ok.1 hnow
    rw [hnow] at h
    dsimp only at h
    cases hlocal : checked (zone.toLocal instant) with
    | error message => rw [hlocal] at h; cases h
    | ok localNow =>
      obtain ⟨hrange', rfl⟩ := checked_eq_ok.1 hlocal
      rw [hlocal] at h
      dsimp only at h
      refine ⟨hrange, hrange', ?_⟩
      cases hfound : candidates date seconds (zone.toLocal instant) (yearsAround (zone.toLocal instant)) with
      | error message => rw [hfound] at h; cases h
      | ok found =>
        rw [hfound] at h
        dsimp only at h
        refine ⟨found, rfl, ?_⟩
        cases hmin : found.argmin fun candidate => (candidate - zone.toLocal instant).natAbs with
        | none => rw [hmin] at h; cases h
        | some parsed =>
          rw [hmin] at h
          cases h
          exact ⟨parsed, List.argmin_mem hmin, rfl⟩

theorem inferYear_of_argmin {zone : Zone} {date : Date} {seconds : Nat} {now parsed : Int} {found : List Int}
    (hnow : Representable now) (hlocal : Representable (zone.toLocal now))
    (hfound : candidates date seconds (zone.toLocal now) (yearsAround (zone.toLocal now)) = .ok found)
    (hmin : (found.argmin fun candidate => (candidate - zone.toLocal now).natAbs) = some parsed) :
    inferYear zone date seconds now = .ok ⟨some (isoformat parsed (zone.utcoffset parsed)), .parsed, none⟩ := by
  unfold inferYear astimezone
  rw [checked_eq_ok.2 ⟨hnow, rfl⟩]
  dsimp only [bind, Except.bind]
  rw [checked_eq_ok.2 ⟨hlocal, rfl⟩]
  dsimp only
  rw [hfound]
  dsimp only
  rw [hmin]
  rfl

section

variable (lib : Library) (frame : Frame) (padding : Padding) (receivedAt : Option Datetime) (clock : Datetime)
  (syslogTimezone : Option String) (offset instant : Int)

/-- The message that a clock of the zone heads at the point in time. -/
def sentLine : String := frame.line (header padding ((fixedOffset offset).toLocal instant))

/-- The timestamp that is read from the message is the point in time, as the zone writes it. -/
def Recovers : Prop :=
  parsePfsenseSyslogTimestamp lib (sentLine frame padding offset instant) receivedAt clock syslogTimezone =
    .ok ⟨some (isoformat ((fixedOffset offset).toLocal instant) offset), .parsed, none⟩

/-- The zone that the receiver assumes. -/
def AssumesZone (zone : Zone) : Prop :=
  sanitizePfsenseText (syslogTimezone.getD lib.syslogTimezone) ≠ "" ∧
    lib.zoneInfo (sanitizePfsenseText (syslogTimezone.getD lib.syslogTimezone)) = some zone

/-- A clock shows the 29th of February. -/
def LeapDay (wall : Int) : Prop := (wallDate wall).month = 2 ∧ (wallDate wall).day = 29

/-- `datetime` has the time of receipt, in UTC and in the zone, and the time a day later. -/
def ReceiptReadable (now : Int) : Prop :=
  Representable now ∧ Representable ((fixedOffset offset).toLocal now) ∧
    Representable ((fixedOffset offset).toLocal now + maxFutureSkew)

variable {lib frame padding receivedAt clock syslogTimezone offset instant}

/-- What becomes of a message. -/
theorem parse_sentLine (hzone : AssumesZone lib syslogTimezone (fixedOffset offset)) :
    parsePfsenseSyslogTimestamp lib (sentLine frame padding offset instant) receivedAt clock syslogTimezone =
      match date? 1900 (wallDate ((fixedOffset offset).toLocal instant)).month
          (wallDate ((fixedOffset offset).toLocal instant)).day with
      | none => .ok (.invalid "invalid_bsd_timestamp")
      | some date => inferYear (fixedOffset offset) date
          (wallSeconds ((fixedOffset offset).toLocal instant)) (receiptTime receivedAt clock) := by
  obtain ⟨kept, hkept, hline⟩ := sanitize_line frame padding ((fixedOffset offset).toLocal instant)
  unfold parsePfsenseSyslogTimestamp sentLine
  dsimp only
  rw [hline, matchRfc5424_line, matchBsd_line _ _ _ hkept]
  dsimp only
  unfold parseBsd
  rw [strptime_header]
  cases date? 1900 (wallDate ((fixedOffset offset).toLocal instant)).month
      (wallDate ((fixedOffset offset).toLocal instant)).day with
  | none => rfl
  | some date =>
    dsimp only [Option.map_some]
    rw [if_neg hzone.1, hzone.2]

end

/-- Within 180 days a message's time is recovered, unless its day is the 29th of February: `strptime` reads the
    header in the year 1900, which has no such day. -/
theorem recovers_iff (lib : Library) (frame : Frame) (padding : Padding) (receivedAt : Option Datetime)
    (clock : Datetime) (syslogTimezone : Option String) (offset instant : Int)
    (hzone : AssumesZone lib syslogTimezone (fixedOffset offset))
    (hwall : Representable ((fixedOffset offset).toLocal instant))
    (hlow : receiptTime receivedAt clock - 180 * dayMicros ≤ instant)
    (hhigh : instant ≤ receiptTime receivedAt clock) :
    Recovers lib frame padding receivedAt clock syslogTimezone offset instant ↔
      ¬ LeapDay ((fixedOffset offset).toLocal instant) ∧
        (fixedOffset offset).toLocal instant % secondMicros = 0 ∧
        ReceiptReadable offset (receiptTime receivedAt clock) := by
  unfold Recovers LeapDay ReceiptReadable
  rw [parse_sentLine hzone, ← date?_1900]
  generalize hnow : receiptTime receivedAt clock = now at *
  have hlocal : (fixedOffset offset).toLocal now = now + offset * secondMicros := rfl
  have hinstant : (fixedOffset offset).toLocal instant = instant + offset * secondMicros := rfl
  generalize (fixedOffset offset).toLocal instant = wall at *
  cases hdate : date? 1900 (wallDate wall).month (wallDate wall).day with
  | none =>
    dsimp only
    constructor
    · intro h
      cases h
    · rintro ⟨hsome, -⟩
      cases hsome
  | some date =>
    dsimp only [Option.isSome_some]
    obtain ⟨-, hmonth, hday⟩ := date?_eq_some.1 hdate
    constructor
    · intro h
      obtain ⟨hrange, hrange', found, hfound, parsed, hparsed, htext⟩ := inferYear_eq_ok h
      obtain ⟨-, -, date', -, hwallOf, -, hskew⟩ := (candidates_eq_ok hfound parsed).1 hparsed
      refine ⟨rfl, ?_, hrange, hrange', hskew⟩
      refine whole_of_isoformat htext.symm ?_
      rw [hwallOf]
      exact wallOf_micros date' _
    · rintro ⟨-, hwhole, hrange, hrange', hskew⟩
      obtain ⟨found, hfound⟩ := @candidates_of_representable date (wallSeconds wall) _ hskew
        (yearsAround ((fixedOffset offset).toLocal now))
      have hmin := argmin_candidates hmonth hday hwall hwhole (by omega) (by omega) hskew hfound
      exact inferYear_of_argmin hrange hrange' hfound hmin

/-- The library of an interpreter that knows the digits of ASCII and the zones `UTC` and `Asia/Kolkata`. -/
def exampleLibrary : Library where
  decimal := asciiDigit
  decimal_digit c hc := by rw [asciiDigit, if_pos hc]
  decimal_ascii c _ hc := by rw [asciiDigit, if_neg (by simp [hc])]
  fromisoformat _ := none
  zoneInfo name :=
    if name = "UTC" then some (fixedOffset 0)
    else if name = "Asia/Kolkata" then some (fixedOffset 19800)
    else none
  syslogTimezone := "UTC"

/-- A message with a priority and a text. -/
def exampleFrame : Frame where
  priority := some ⟨['1', '3', '4'], by decide, by simp⟩
  rest := " fw filterlog: 5".toList
  hrest := Or.inr ⟨_, rfl⟩

/-- Three seconds before the year 2024 in India, received in UTC nine seconds later. -/
theorem newYear_recovered :
    Recovers exampleLibrary exampleFrame .blank
      (some ⟨wallOf (Date.ofOrdinal 738884) 66606, some 0⟩) ⟨0, none⟩ (some "Asia/Kolkata") 19800
      (wallOf (Date.ofOrdinal 738884) 66597) := by
  refine (recovers_iff exampleLibrary exampleFrame .blank
    (some ⟨wallOf (Date.ofOrdinal 738884) 66606, some 0⟩) ⟨0, none⟩ (some "Asia/Kolkata") 19800
    (wallOf (Date.ofOrdinal 738884) 66597) ⟨by decide +kernel, rfl⟩ (by decide +kernel) (by decide +kernel)
    (by decide +kernel)).2 ⟨?_, by decide +kernel, ?_⟩
  · unfold LeapDay
    decide +kernel
  · unfold ReceiptReadable
    decide +kernel

/-- A message of noon of the 29th of February 2024, received an hour later: its time is refused. -/
theorem leapDay_notRecovered :
    AssumesZone exampleLibrary none (fixedOffset 0) ∧
      Representable ((fixedOffset 0).toLocal (wallOf (Date.ofOrdinal 738944) 43200)) ∧
      sentLine exampleFrame .blank 0 (wallOf (Date.ofOrdinal 738944) 43200) =
        "<134>Feb 29 12:00:00 fw filterlog: 5" ∧
      isoformat (wallOf (Date.ofOrdinal 738944) 43200) 0 = "2024-02-29T12:00:00+00:00" ∧
      parsePfsenseSyslogTimestamp exampleLibrary
          (sentLine exampleFrame .blank 0 (wallOf (Date.ofOrdinal 738944) 43200))
          (some ⟨wallOf (Date.ofOrdinal 738944) 46800, some 0⟩) ⟨0, none⟩ none =
        .ok (.invalid "invalid_bsd_timestamp") ∧
      ¬ Recovers exampleLibrary exampleFrame .blank
          (some ⟨wallOf (Date.ofOrdinal 738944) 46800, some 0⟩) ⟨0, none⟩ none 0
          (wallOf (Date.ofOrdinal 738944) 43200) := by
  have hzone : AssumesZone exampleLibrary none (fixedOffset 0) := ⟨by decide +kernel, rfl⟩
  have hparse : parsePfsenseSyslogTimestamp exampleLibrary
      (sentLine exampleFrame .blank 0 (wallOf (Date.ofOrdinal 738944) 43200))
      (some ⟨wallOf (Date.ofOrdinal 738944) 46800, some 0⟩) ⟨0, none⟩ none =
      .ok (.invalid "invalid_bsd_timestamp") := by
    rw [parse_sentLine hzone,
      show date? 1900 (wallDate ((fixedOffset 0).toLocal (wallOf (Date.ofOrdinal 738944) 43200))).month
        (wallDate ((fixedOffset 0).toLocal (wallOf (Date.ofOrdinal 738944) 43200))).day = none by
          decide +kernel]
  refine ⟨hzone, by decide +kernel, by decide +kernel, by decide +kernel, hparse, ?_⟩
  intro hrecovers
  rw [Recovers, hparse] at hrecovers
  cases hrecovers

end SiemDashboard.PfsenseFilterlog
