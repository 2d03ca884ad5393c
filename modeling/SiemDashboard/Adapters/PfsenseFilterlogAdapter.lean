import Mathlib.Data.List.MinMax
import SiemDashboard.Lib.Calendar
import SiemDashboard.Lib.Python

/-!
# pfSense syslog timestamps

`adapters/pfsense_filterlog_adapter.py`: the time at which a firewall says that an event happened.  Points in
time and clock readings are microseconds since the first of January of the year 1, of UTC and of a zone.

* **Texts** — `sanitizePfsenseText`.
* **Headers** — `takeEach`, `skipPriority`; `matchRfc5424`, `matchBsd`.
* **Yearless dates** — `strptime`.
* **Clocks** — `Zone`, `astimezone`, `isoformat`.
* **Timestamps** — `candidates`, `parsePfsenseSyslogTimestamp`.
-/

namespace SiemDashboard.PfsenseFilterlog

open Python Calendar

/-! ## Texts -/

/-- `UNSAFE_CONTROL_PATTERN`. -/
def isUnsafeControl (c : Char) : Bool :=
  c.toNat ≤ 8 || c.toNat == 11 || c.toNat == 12 || (14 ≤ c.toNat && c.toNat ≤ 31) || c.toNat == 127

/-- `sanitize_pfsense_text`, on characters. -/
def sanitizeChars (cs : List Char) : List Char := stripChars (cs.filter fun c => !isUnsafeControl c)

/-- `sanitize_pfsense_text`. -/
def sanitizePfsenseText (value : String) : String := String.ofList (sanitizeChars value.toList)

/-! ## Headers -/

/-- A zone of the time zone database. -/
structure Zone where
  /-- What a clock of the zone shows at a point in time. -/
  toLocal : Int → Int
  /-- How many seconds a clock of the zone is ahead of UTC when it shows this. -/
  utcoffset : Int → Int

/-- `datetime`, with its distance from UTC in seconds where it is aware. -/
structure Datetime where
  wall : Int
  utcoffset : Option Int

/-- What the module asks of the standard library. -/
structure Library where
  /-- The value of a character that `\d` matches. -/
  decimal : Char → Option Nat
  decimal_digit : ∀ c : Char, c.isDigit = true → decimal c = some (c.toNat - '0'.toNat)
  decimal_ascii : ∀ c : Char, c.toNat < 128 → c.isDigit = false → decimal c = none
  /-- `datetime.fromisoformat`, none where it raises. -/
  fromisoformat : String → Option Datetime
  /-- `ZoneInfo`, none where it raises. -/
  zoneInfo : String → Option Zone
  /-- `os.getenv("PFSENSE_SYSLOG_TIMEZONE", "")`. -/
  syslogTimezone : String

/-- One character of each class. -/
def takeEach : List (Char → Bool) → List Char → Option (List Char × List Char)
  | [], cs => some ([], cs)
  | _ :: _, [] => none
  | p :: ps, c :: cs => if p c then (takeEach ps cs).map fun taken => (c :: taken.1, taken.2) else none

/-- `\s+`. -/
def skipSpaces : List Char → Option (List Char)
  | [] => none
  | c :: cs => if isSpace c then some (cs.dropWhile isSpace) else none

/-- `(?:\s|$)`. -/
def endsField : List Char → Bool
  | [] => true
  | c :: _ => isSpace c

/-- `[A-Z]`. -/
def isCapital (c : Char) : Bool := 65 ≤ c.toNat && c.toNat ≤ 90

/-- `[a-z]`. -/
def isSmall (c : Char) : Bool := 97 ≤ c.toNat && c.toNat ≤ 122

/-- The parts of a header in the format of the BSD syslog. -/
structure BsdHeader where
  month : List Char
  day : List Char
  clock : List Char

section

variable (lib : Library)

/-- `\d`. -/
def isDecimal (c : Char) : Bool := (lib.decimal c).isSome

/-- `(?:<\d{1,3}>)?`. -/
def skipPriority (cs : List Char) : List Char :=
  match cs with
  | '<' :: body =>
    match body.dropWhile (isDecimal lib) with
    | '>' :: rest =>
      let number := body.takeWhile (isDecimal lib)
      if 1 ≤ number.length ∧ number.length ≤ 3 then rest else cs
    | _ => cs
  | _ => cs

/-- `\d{1,2}`. -/
def takeDay : List Char → Option (List Char × List Char)
  | c :: d :: cs =>
    if !isDecimal lib c then none
    else if isDecimal lib d then some ([c, d], cs)
    else some ([c], d :: cs)
  | [c] => if isDecimal lib c then some ([c], []) else none
  | [] => none

/-- `\d{2}:\d{2}:\d{2}`. -/
def clockShape : List (Char → Bool) :=
  [isDecimal lib, isDecimal lib, (· == ':'), isDecimal lib, isDecimal lib, (· == ':'), isDecimal lib,
    isDecimal lib]

/-- `BSD_SYSLOG_TIMESTAMP_PATTERN`. -/
def matchBsd (cs : List Char) : Option BsdHeader := do
  let month ← takeEach [isCapital, isSmall, isSmall] (skipPriority lib cs)
  let cs ← skipSpaces month.2
  let day ← takeDay lib cs
  let cs ← skipSpaces day.2
  let clock ← takeEach (clockShape lib) cs
  if endsField clock.2 then some ⟨month.1, day.1, clock.1⟩ else none

/-- `(?:\.\d+)?`. -/
def takeFraction (cs : List Char) : List Char × List Char :=
  match cs with
  | '.' :: rest =>
    if (rest.takeWhile (isDecimal lib)).isEmpty then ([], cs)
    else ('.' :: rest.takeWhile (isDecimal lib), rest.dropWhile (isDecimal lib))
  | _ => ([], cs)

/-- `(?:Z|[+-]\d{2}:\d{2})`. -/
def takeOffset (cs : List Char) : Option (List Char × List Char) :=
  match cs with
  | 'Z' :: rest => some (['Z'], rest)
  | _ => takeEach [fun c => c == '+' || c == '-', isDecimal lib, isDecimal lib, (· == ':'), isDecimal lib,
      isDecimal lib] cs

/-- `RFC5424_SYSLOG_TIMESTAMP_PATTERN`: the timestamp. -/
def matchRfc5424 (cs : List Char) : Option (List Char) := do
  let cs := skipPriority lib cs
  if (cs.takeWhile (isDecimal lib)).isEmpty then none
  else
    let cs ← skipSpaces (cs.dropWhile (isDecimal lib))
    let date ← takeEach [isDecimal lib, isDecimal lib, isDecimal lib, isDecimal lib, (· == '-'),
      isDecimal lib, isDecimal lib, (· == '-'), isDecimal lib, isDecimal lib, (· == 'T')] cs
    let clock ← takeEach (clockShape lib) date.2
    let fraction := takeFraction lib clock.2
    let offset ← takeOffset lib fraction.2
    if endsField offset.2 then some (date.1 ++ clock.1 ++ fraction.1 ++ offset.1) else none

/-! ## Yearless dates -/

/-- `%b`. -/
def monthNames : List (List Char) :=
  ["Jan", "Feb", "Mar", "Apr", "May", "Jun", "Jul", "Aug", "Sep", "Oct", "Nov", "Dec"].map String.toList

def monthNumber (name : List Char) : Option Nat := (monthNames.idxOf? name).map (· + 1)

def asciiDigit (c : Char) : Option Nat := if c.isDigit then some (c.toNat - '0'.toNat) else none

/-- `%d`: `3[0-1]|[1-2]\d|0[1-9]|[1-9]`. -/
def dayNumber : List Char → Option Nat
  | [c] => asciiDigit c
  | [c, d] => do
    let tens ← asciiDigit c
    if 3 < tens then none
    else
      -- only after a 1 or a 2 every digit of Unicode is taken
      let ones ← if tens = 1 ∨ tens = 2 then lib.decimal d else asciiDigit d
      return 10 * tens + ones
  | _ => none

/-- `%M` and `%S`, and `%H`, that ends at 23: two digits. -/
def clockNumber (bound : Nat) (c d : Char) : Option Nat := do
  let tens ← asciiDigit c
  let ones ← if tens < bound / 10 then lib.decimal d else asciiDigit d
  if 10 * tens + ones < bound then return 10 * tens + ones else none

/-- `%H:%M:%S`: the second of the day.  A leap second is read, but `datetime` has none. -/
def clockSeconds : List Char → Option Nat
  | [h, h', _, m, m', _, s, s'] => do
    let hour ← clockNumber lib 24 h h'
    let minute ← clockNumber lib 60 m m'
    let second ← clockNumber lib 60 s s'
    return (hour * 60 + minute) * 60 + second
  | _ => none

/-- `datetime.strptime(timestamp_text, "%b %d %H:%M:%S")`: a second of a day of the year 1900. -/
def strptime (header : BsdHeader) : Option (Date × Nat) := do
  let month ← monthNumber header.month
  let day ← dayNumber lib header.day
  let seconds ← clockSeconds lib header.clock
  let date ← date? 1900 month day
  return (date, seconds)

end

/-! ## Clocks -/

def secondMicros : Int := 1000000

def dayMicros : Int := 86400 * secondMicros

/-- `MAX_FUTURE_SKEW`. -/
def maxFutureSkew : Int := dayMicros

/-- The end of the year 9999. -/
def maxWall : Int := daysBeforeYear 10000 * dayMicros

/-- `datetime` has the reading of a clock. -/
def Representable (wall : Int) : Prop := 0 ≤ wall ∧ wall < maxWall

instance (wall : Int) : Decidable (Representable wall) := inferInstanceAs (Decidable (_ ∧ _))

/-- The reading, if `datetime` has it; it raises `OverflowError` otherwise. -/
def checked (wall : Int) : Except String Int :=
  if Representable wall then .ok wall else .error "date value out of range"

theorem checked_eq_ok {wall wall' : Int} :
    checked wall = .ok wall' ↔ Representable wall ∧ wall' = wall := by
  rw [checked]
  split
  · next h => exact ⟨fun hok => ⟨h, (Except.ok.inj hok).symm⟩, fun hok => by rw [hok.2]⟩
  · next h => exact ⟨fun hok => (by cases hok), fun hok => absurd hok.1 h⟩

/-- `astimezone`. -/
def astimezone (zone : Zone) (instant : Int) : Except String Int := do
  let instant ← checked instant
  checked (zone.toLocal instant)

/-- The day that a clock shows. -/
def wallDate (wall : Int) : Date := Date.ofOrdinal (wall / dayMicros).toNat

/-- The second of the day that a clock shows. -/
def wallSeconds (wall : Int) : Nat := (wall % dayMicros / secondMicros).toNat

/-- What a clock shows at a second of a day. -/
def wallOf (date : Date) (seconds : Nat) : Int :=
  date.ordinal * dayMicros + seconds * secondMicros

/-- A zone whose distance from UTC never changes. -/
def fixedOffset (seconds : Int) : Zone where
  toLocal instant := instant + seconds * secondMicros
  utcoffset _ := seconds

/-- The point in time that a datetime is, in UTC where it is naive. -/
def Datetime.instant (datetime : Datetime) : Int :=
  datetime.wall - datetime.utcoffset.getD 0 * secondMicros

/-- A number in decimal notation in so many places. -/
def fixedWidth : Nat → Nat → List Char
  | 0, _ => []
  | width + 1, n => fixedWidth width (n / 10) ++ [Nat.digitChar (n % 10)]

/-- `HH:MM:SS`. -/
def clockText (seconds : Nat) : List Char :=
  fixedWidth 2 (seconds / 3600) ++ ':' :: fixedWidth 2 (seconds / 60 % 60) ++ ':' :: fixedWidth 2 (seconds % 60)

/-- `YYYY-MM-DD`. -/
def dateText (date : Date) : List Char :=
  fixedWidth 4 date.year ++ '-' :: fixedWidth 2 date.month ++ '-' :: fixedWidth 2 date.day

/-- The fraction of a second, which is left out where it is 0. -/
def fractionText (micros : Nat) : List Char := if micros = 0 then [] else '.' :: fixedWidth 6 micros

/-- `+HH:MM[:SS]`. -/
def offsetText (offset : Int) : List Char :=
  let seconds := offset.natAbs
  (if offset < 0 then '-' else '+') :: fixedWidth 2 (seconds / 3600) ++ ':' :: fixedWidth 2 (seconds / 60 % 60) ++
    if seconds % 60 = 0 then [] else ':' :: fixedWidth 2 (seconds % 60)

/-- `isoformat`. -/
def isoformat (wall offset : Int) : String :=
  String.ofList (dateText (wallDate wall) ++ 'T' :: clockText (wallSeconds wall) ++
    fractionText (wall % secondMicros).toNat ++ offsetText offset)

/-! ## Timestamps -/

/-- What there is to say about a timestamp. -/
inductive TimestampStatus where
  | parsed
  | missing
  | invalid
deriving DecidableEq, Repr

structure TimestampResult where
  eventTimestamp : Option String
  status : TimestampStatus
  reason : Option String
deriving DecidableEq, Repr

def TimestampResult.invalid (reason : String) : TimestampResult := ⟨none, .invalid, some reason⟩

/-- `partial.replace(year=year)`: there may be no such day. -/
def replaceYear (date : Date) (year : Nat) : Option Date :=
  if year ≤ 9999 then date? year date.month date.day else none

/-- The readings in some years that are not too far in the future. -/
def candidates (date : Date) (seconds : Nat) (localNow : Int) : List Nat → Except String (List Int)
  | [] => .ok []
  | year :: years =>
    match replaceYear date year with
    | none => candidates date seconds localNow years
    | some date' => do
      let limit ← checked (localNow + maxFutureSkew)
      let rest ← candidates date seconds localNow years
      return if wallOf date' seconds ≤ limit then wallOf date' seconds :: rest else rest

/-- The years around that of a clock reading. -/
def yearsAround (localNow : Int) : List Nat :=
  [(wallDate localNow).year - 1, (wallDate localNow).year, (wallDate localNow).year + 1]

/-- The yearless date in the year that puts it closest to the time of receipt. -/
def inferYear (zone : Zone) (date : Date) (seconds : Nat) (now : Int) : Except String TimestampResult := do
  let localNow ← astimezone zone now
  let found ← candidates date seconds localNow (yearsAround localNow)
  match found.argmin fun candidate => (candidate - localNow).natAbs with
  | none => return .invalid "timestamp_too_far_in_future"
  | some parsed => return ⟨some (isoformat parsed (zone.utcoffset parsed)), .parsed, none⟩

section

variable (lib : Library)

/-- The timestamp of a header in the format of RFC 5424. -/
def parseRfc5424 (timestamp : String) (now : Int) : Except String TimestampResult :=
  match lib.fromisoformat (replaceText timestamp) with
  | none => .ok (.invalid "invalid_rfc5424_timestamp")
  | some parsed => do
    let offset := parsed.utcoffset.getD 0
    let limit ← astimezone (fixedOffset offset) now
    let limit ← checked (limit + maxFutureSkew)
    return if limit < parsed.wall then .invalid "timestamp_too_far_in_future"
      else ⟨some timestamp, .parsed, none⟩
where
  /-- `timestamp_text.replace("Z", "+00:00")`. -/
  replaceText (timestamp : String) : String :=
    String.ofList (timestamp.toList.flatMap fun c => if c = 'Z' then "+00:00".toList else [c])

/-- The timestamp of a header in the format of the BSD syslog. -/
def parseBsd (header : BsdHeader) (syslogTimezone : Option String) (now : Int) :
    Except String TimestampResult :=
  match strptime lib header with
  | none => .ok (.invalid "invalid_bsd_timestamp")
  | some (date, seconds) =>
    let timezoneName := sanitizePfsenseText (syslogTimezone.getD lib.syslogTimezone)
    if timezoneName = "" then .ok (.invalid "syslog_timezone_not_configured")
    else
      match lib.zoneInfo timezoneName with
      | none => .ok (.invalid "invalid_syslog_timezone")
      | some zone => inferYear zone date seconds now

/-- The time of receipt: the clock's where none is given. -/
def receiptTime (receivedAt : Option Datetime) (clock : Datetime) : Int :=
  (receivedAt.getD clock).instant

/-- `parse_pfsense_syslog_timestamp`. -/
def parsePfsenseSyslogTimestamp (syslogText : String) (receivedAt : Option Datetime) (clock : Datetime)
    (syslogTimezone : Option String) : Except String TimestampResult :=
  let text := sanitizeChars syslogText.toList
  let now := receiptTime receivedAt clock
  match matchRfc5424 lib text with
  | some timestamp => parseRfc5424 lib (String.ofList timestamp) now
  | none =>
    match matchBsd lib text with
    | none => .ok ⟨none, .missing, some "timestamp_not_found"⟩
    | some header => parseBsd lib header syslogTimezone now

end

end SiemDashboard.PfsenseFilterlog
