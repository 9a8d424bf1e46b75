import Guardrail.Text.Blank

/-!
# Timestamps

Points in time, in coordinated universal time, on the proleptic Gregorian calendar. A timestamp is
read from a date, a time of day and an offset, with some freedom in spacing, and written in one
form: date, `T`, time, the fraction of the second if there is one in groups of three digits, and
`Z`. The second 60 of a minute is allowed.
-/

namespace Guardrail

/-- A date. -/
structure Date where
  year : Int
  month : Nat
  day : Nat
deriving DecidableEq, Inhabited

namespace Date

/-- Whether a year has 366 days. -/
def isLeapYear (year : Int) : Bool := year % 4 = 0 && (year % 100 ≠ 0 || year % 400 = 0)

/-- The number of days of a month. -/
def daysIn (year : Int) : Nat → Nat
  | 2 => if isLeapYear year then 29 else 28
  | 4 | 6 | 9 | 11 => 30
  | _ => 31

/-- Whether the calendar has the date; years are limited. -/
def isValid (d : Date) : Bool :=
  -262143 ≤ d.year && d.year ≤ 262142 && 1 ≤ d.month && d.month ≤ 12 && 1 ≤ d.day &&
    d.day ≤ daysIn d.year d.month

/-- The day after. -/
def next (d : Date) : Date :=
  if d.day < daysIn d.year d.month then { d with day := d.day + 1 }
  else if d.month < 12 then ⟨d.year, d.month + 1, 1⟩
  else ⟨d.year + 1, 1, 1⟩

/-- The day before. -/
def previous (d : Date) : Date :=
  if 1 < d.day then { d with day := d.day - 1 }
  else if 1 < d.month then ⟨d.year, d.month - 1, daysIn d.year (d.month - 1)⟩
  else ⟨d.year - 1, 12, 31⟩

/-- The date some days later, of which there may be at most one, or earlier. -/
def shift (d : Date) (days : Int) : Date :=
  if days < 0 then d.previous else if 0 < days then d.next else d

end Date

/-- A point in time. -/
structure Timestamp where
  date : Date
  /-- The minute of the day. -/
  minute : Nat
  /-- The second of the minute, up to 60. -/
  second : Nat
  nanosecond : Nat
deriving DecidableEq, Inhabited

namespace Timestamp

/-! ## Writing -/

/-- A number with at least so many digits. -/
def padded (width n : Nat) : String :=
  let digits := toString n
  String.ofList (List.replicate (width - digits.length) '0') ++ digits

/-- A year: four digits, and a sign if it does not fit in them. -/
def renderYear (year : Int) : String :=
  if 0 ≤ year ∧ year ≤ 9999 then padded 4 year.toNat
  else (if year < 0 then "-" else "+") ++ padded 4 year.natAbs

/-- The fraction of a second, in as few groups of three digits as it needs. -/
def renderFraction (nanosecond : Nat) : String :=
  if nanosecond = 0 then ""
  else if nanosecond % 1000000 = 0 then "." ++ padded 3 (nanosecond / 1000000)
  else if nanosecond % 1000 = 0 then "." ++ padded 6 (nanosecond / 1000)
  else "." ++ padded 9 nanosecond

/-- A timestamp as it is written. -/
def render (t : Timestamp) : String :=
  renderYear t.date.year ++ "-" ++ padded 2 t.date.month ++ "-" ++ padded 2 t.date.day ++ "T" ++
    padded 2 (t.minute / 60) ++ ":" ++ padded 2 (t.minute % 60) ++ ":" ++ padded 2 t.second ++
    renderFraction t.nanosecond ++ "Z"

/-! ## Reading -/

/-- Reads the front of a text. -/
abbrev Reading := StateT (List Char) Option

/-- Passes over blank characters. -/
def blanks : Reading Unit := modify (·.dropWhile Text.isBlank)

/-- The value of decimal digits. -/
def value (digits : List Char) : Nat := digits.foldl (fun n c => 10 * n + (c.toNat - 48)) 0

/-- A number of at least one digit; `limit` bounds the number of digits, if it is given. -/
def digits (limit : Option Nat) : Reading (List Char) := do
  let run := (← get).takeWhile Char.isDigit
  let found := match limit with
    | some n => run.take n
    | none => run
  if found.isEmpty then failure
  modify (·.drop found.length)
  return found

/-- A number of one or two digits after blanks. -/
def twoDigits : Reading Nat := do
  blanks
  return value (← digits (some 2))

/-- A character. -/
def char (c : Char) : Reading Unit := do
  match ← get with
  | d :: rest => if c = d then set rest else failure
  | [] => failure

/-- A separator, possibly after blanks. -/
def separator (c : Char) : Reading Unit := do
  blanks
  char c

/-- A year after blanks: up to four digits, or a sign and any number of digits. -/
def year : Reading Int := do
  blanks
  match ← get with
  | '-' :: rest =>
    set rest
    return -(value (← digits none) : Int)
  | '+' :: rest =>
    set rest
    return value (← digits none)
  | _ => return value (← digits (some 4))

/-- The fraction of a second, in nanoseconds; digits from the tenth on do not count. -/
def fraction : Reading Nat := do
  match ← get with
  | '.' :: rest =>
    set rest
    let found ← digits (some 9)
    modify (·.dropWhile Char.isDigit)
    return value found * Nat.pow 10 (9 - found.length)
  | _ => return 0

/-- Two digits, the first of which is at most `most`. -/
def pair (most : Char) : Reading Nat := do
  match ← get with
  | c :: d :: rest =>
    if c.isDigit && c ≤ most && d.isDigit then
      set rest
      return value [c, d]
    else failure
  | _ => failure

/-- Minutes to the east of Greenwich: a sign, hours and minutes. -/
def signedOffset : Reading Int := do
  let sign : Int ← match ← get with
    | '+' :: rest => do set rest; pure 1
    | '-' :: rest | '−' :: rest => do set rest; pure (-1)
    | _ => failure
  let hours ← pair '9'
  modify (·.dropWhile fun c => c == ':' || Text.isBlank c)
  let minutes ← pair '5'
  if 24 ≤ hours then failure
  return sign * (60 * hours + minutes : Nat)

/-- The offset after blanks: `UTC` or `Z` in letters of any case, or one with a sign. -/
def offset : Reading Int := do
  blanks
  match ← get with
  | c :: rest =>
    if c.toLower = 'z' then
      set rest
      return 0
    else if ((c :: rest).take 3).map Char.toLower = ['u', 't', 'c'] then
      set ((c :: rest).drop 3)
      return 0
    else signedOffset
  | [] => failure

/-- What separates the date from the time. -/
def joint : Reading Unit := do
  match ← get with
  | c :: rest => if c = 'T' || c = 't' || c = ' ' then set rest else failure
  | [] => failure

/-- The point in time given by a local date and time and an offset in minutes. -/
def ofLocal? (date : Date) (hour minute second nanosecond : Nat) (offset : Int) :
    Option Timestamp :=
  if date.isValid && hour < 24 && minute < 60 && second ≤ 60 then
    let total : Int := (60 * hour + minute : Nat) - offset
    let date := date.shift (total / 1440)
    if date.isValid then some ⟨date, (total % 1440).toNat, second, nanosecond⟩ else none
  else none

/-- Date, time and offset. -/
def reading : Reading Timestamp := do
  let year ← year
  separator '-'
  let month ← twoDigits
  separator '-'
  let day ← twoDigits
  joint
  let hour ← twoDigits
  separator ':'
  let minute ← twoDigits
  separator ':'
  let second ← twoDigits
  let nanosecond ← fraction
  let offset ← offset
  blanks
  if !(← get).isEmpty then failure
  match ofLocal? ⟨year, month, day⟩ hour minute second nanosecond offset with
  | some t => return t
  | none => failure

/-- Reads a timestamp. -/
def parse? (text : String) : Option Timestamp := (reading.run text.toList).map (·.1)

end Timestamp
end Guardrail
