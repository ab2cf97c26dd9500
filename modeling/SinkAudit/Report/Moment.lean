import SinkAudit.Text.Pad

/-!
# Moments

A moment in universal time, to the nanosecond, and its two written forms.  A leap second is the
second after the fifty-ninth, kept as a count of nanoseconds that reaches past one second.
-/

namespace SinkAudit

/-- A moment: seconds since the first of January 1970, and nanoseconds. -/
structure Moment where
  seconds : Int
  nanos : Nat
  deriving DecidableEq, Repr, Inhabited

/-- A calendar date. -/
structure CalendarDay where
  year : Int
  month : Nat
  day : Nat
  deriving DecidableEq, Repr

namespace CalendarDay

/-- Whether a year has a leap day. -/
def isLeapYear (year : Int) : Bool :=
  year % 4 == 0 && (year % 100 != 0 || year % 400 == 0)

/-- The number of days of a month. -/
def monthLength (year : Int) (month : Nat) : Nat :=
  if month == 2 then (if isLeapYear year then 29 else 28)
  else if month ∈ [4, 6, 9, 11] then 30
  else 31

/-- Whether a date is one of the calendar. -/
def isValid (c : CalendarDay) : Bool :=
  1 ≤ c.month && c.month ≤ 12 && 1 ≤ c.day && c.day ≤ monthLength c.year c.month

/-- The number of days from the first of January 1970 to a date.  Years are counted from the first
of March, so that the leap day is the last of its year, and grouped in cycles of 400 years. -/
def toDays (c : CalendarDay) : Int :=
  let y : Int := if c.month ≤ 2 then c.year - 1 else c.year
  let era := y / 400
  let yearOfEra := y % 400
  let monthFromMarch : Int := (c.month + 9) % 12
  let dayOfYear := (153 * monthFromMarch + 2) / 5 + c.day - 1
  let dayOfEra := yearOfEra * 365 + yearOfEra / 4 - yearOfEra / 100 + dayOfYear
  era * 146097 + dayOfEra - 719468

/-- The date a number of days after the first of January 1970. -/
def ofDays (days : Int) : CalendarDay :=
  let z := days + 719468
  let era := z / 146097
  let dayOfEra := z % 146097
  let yearOfEra := (dayOfEra - dayOfEra / 1460 + dayOfEra / 36524 - dayOfEra / 146096) / 365
  let dayOfYear := dayOfEra - (365 * yearOfEra + yearOfEra / 4 - yearOfEra / 100)
  let monthFromMarch := (5 * dayOfYear + 2) / 153
  let day := dayOfYear - (153 * monthFromMarch + 2) / 5 + 1
  let month := if monthFromMarch < 10 then monthFromMarch + 3 else monthFromMarch - 9
  let year := yearOfEra + era * 400 + (if month ≤ 2 then 1 else 0)
  ⟨year, month.toNat, day.toNat⟩

end CalendarDay

namespace Moment

/-- A number with at least `width` digits. -/
def digits (width n : Nat) : String :=
  let s := toString n
  String.ofList (List.replicate (width - s.length) '0') ++ s

/-- A year: four digits, with a sign where four digits do not suffice. -/
def yearText (y : Int) : String :=
  match y with
  | .ofNat n => if n ≤ 9999 then digits 4 n else "+" ++ digits 4 n
  | .negSucc n => "-" ++ digits 4 (n + 1)

/-- The date of a moment. -/
def date (m : Moment) : String :=
  let c := CalendarDay.ofDays (m.seconds / 86400)
  yearText c.year ++ "-" ++ digits 2 c.month ++ "-" ++ digits 2 c.day

/-- The time of day of a moment, in whole seconds. -/
def clock (m : Moment) : String :=
  let s := (m.seconds % 86400).toNat
  let second := s % 60 + m.nanos / 1000000000
  digits 2 (s / 3600) ++ ":" ++ digits 2 (s / 60 % 60) ++ ":" ++ digits 2 second

/-- The fraction of a second, in as many groups of three digits as it needs. -/
def fraction (m : Moment) : String :=
  let n := m.nanos % 1000000000
  if n = 0 then ""
  else if n % 1000000 = 0 then "." ++ digits 3 (n / 1000000)
  else if n % 1000 = 0 then "." ++ digits 6 (n / 1000)
  else "." ++ digits 9 n

/-- The form for people. -/
def toText (m : Moment) : String :=
  m.date ++ " " ++ m.clock

/-- The form for programs. -/
def toStamp (m : Moment) : String :=
  m.date ++ "T" ++ m.clock ++ m.fraction ++ "+00:00"

/-- The number written by decimal digits. -/
def number? (s : List Char) : Option Nat :=
  if s.isEmpty || !s.all Char.isDigit then none
  else some (s.foldl (fun n d => 10 * n + (d.toNat - '0'.toNat)) 0)

/-- The offset from universal time at the end of a stamp, in seconds: less than a day either way.
The minus sign may be the hyphen or the mathematical sign. -/
def offset? : List Char → Option Int
  | ['Z'] => some 0
  | ['z'] => some 0
  | [sign, a, b, ':', c, d] => do
    let h ← number? [a, b]
    let m ← number? [c, d]
    guard (h ≤ 23 && m ≤ 59)
    let s : Int := (h * 3600 + m * 60 : Nat)
    if sign == '+' then some s
    else if sign == '-' || sign == '\u2212' then some (-s)
    else none
  | _ => none

/-- The fraction of a second that follows the time of day, in nanoseconds, and what comes after it.
Digits past the ninth are dropped. -/
def fraction? : List Char → Option (Nat × List Char)
  | '.' :: r => do
    let frac := r.takeWhile Char.isDigit
    guard (!frac.isEmpty)
    let nanos ← number? ((frac ++ List.replicate 9 '0').take 9)
    return (nanos, r.dropWhile Char.isDigit)
  | r => some (0, r)

/-- Reads a stamp such as `2024-02-29T12:00:00.5+05:30`.  The sixtieth second is a leap second. -/
def ofStamp? (text : String) : Option Moment :=
  match text.toList with
  | y1 :: y2 :: y3 :: y4 :: '-' :: m1 :: m2 :: '-' :: d1 :: d2 :: mark ::
      h1 :: h2 :: ':' :: n1 :: n2 :: ':' :: s1 :: s2 :: r => do
    let year ← number? [y1, y2, y3, y4]
    let month ← number? [m1, m2]
    let day ← number? [d1, d2]
    let hour ← number? [h1, h2]
    let minute ← number? [n1, n2]
    let second ← number? [s1, s2]
    let (nanos, rest) ← fraction? r
    let shift ← offset? rest
    let date : CalendarDay := ⟨year, month, day⟩
    guard (mark ∈ ['T', 't', ' '] && date.isValid && hour ≤ 23 && minute ≤ 59 && second ≤ 60)
    let leap := if second = 60 then 1 else 0
    return ⟨date.toDays * 86400 + (hour * 3600 + minute * 60 + (second - leap) : Nat) - shift,
      nanos + leap * 1000000000⟩
  | _ => none

end Moment

end SinkAudit
