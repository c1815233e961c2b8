import DriftPatch.Text.Numeral

/-!
# Dates and moments

A **date** is a day of the Gregorian calendar, a **moment** a date with a
time of day and, possibly, the offset of its clock from universal time.
Days that no calendar has and times that no clock shows are not built:
`Date.of?` and `Moment.of?` refuse them.
-/

namespace DriftPatch

/-- A day of the calendar. -/
structure Date where
  /-- The year, from 1 to 9999. -/
  year : Nat
  /-- The month, from 1 to 12. -/
  month : Nat
  /-- The day, from 1 on. -/
  day : Nat
  deriving DecidableEq, Repr

/-- A date and a time of day. -/
structure Moment where
  /-- The day. -/
  date : Date
  /-- The hour, below 24. -/
  hour : Nat
  /-- The minute, below 60. -/
  minute : Nat
  /-- The second, below 60. -/
  second : Nat
  /-- The millionths of a second. -/
  microsecond : Nat
  /-- By how many minutes the clock is ahead of universal time, where
  that is known. -/
  offset : Option Int
  deriving DecidableEq, Repr

namespace Date

/-- Whether a year has a leap day. -/
def isLeap (year : Nat) : Bool :=
  year % 4 = 0 && (year % 100 != 0 || year % 400 = 0)

/-- The lengths of the months of a year. -/
def monthLengths (year : Nat) : List Nat :=
  [31, if isLeap year then 29 else 28, 31, 30, 31, 30, 31, 31, 30, 31, 30, 31]

/-- The date of a year, month and day, if there is one. -/
def of? (year month day : Nat) : Option Date :=
  if 1 ≤ year ∧ year ≤ 9999 ∧ 1 ≤ month ∧ month ≤ 12 ∧ 1 ≤ day
      ∧ day ≤ ((monthLengths year)[month - 1]?.getD 0) then
    some ⟨year, month, day⟩
  else none

/-- The number of days before a date, from the start of the year 1. -/
def dayNumber (d : Date) : Nat :=
  let years := d.year - 1
  365 * years + years / 4 - years / 100 + years / 400
    + ((monthLengths d.year).take (d.month - 1)).foldl (· + ·) 0 + (d.day - 1)

end Date

namespace Moment

/-- The moment of a date, a time of day and an offset, if there is one.
An offset is less than a day. -/
def of? (date : Date) (hour minute second microsecond : Nat) (offset : Option Int) :
    Option Moment :=
  if hour < 24 ∧ minute < 60 ∧ second < 60 ∧ offset.all (·.natAbs < 24 * 60) then
    some ⟨date, hour, minute, second, microsecond, offset⟩
  else none

/-- The microseconds between the start of the year 1 and a moment, by
universal time where the offset is known. -/
def instant (m : Moment) : Int :=
  let minutes : Int := ((m.date.dayNumber * 24 + m.hour) * 60 + m.minute : Nat)
  ((minutes - m.offset.getD 0) * 60 + m.second) * 1000000 + m.microsecond

/-- Whether two moments are one: the same instant, if both offsets are
known, or the same reading of the clock, if neither is. -/
def same (m n : Moment) : Bool :=
  m.offset.isSome == n.offset.isSome && m.instant == n.instant

end Moment

/-! ## Their text -/

namespace Date

/-- Year, month and day, joined by dashes. -/
def text (d : Date) : Text :=
  Numeral.padded 4 d.year ++ ['-'] ++ Numeral.padded 2 d.month ++ ['-'] ++ Numeral.padded 2 d.day

/-- The numbers given, joined by commas. -/
def listed (ns : List Text) : Text :=
  [',', ' '].intercalate ns

/-- The date as it is shown within a list or a mapping. -/
def literal (d : Date) : Text :=
  "datetime.date(".toList ++ listed ([d.year, d.month, d.day].map Numeral.digits) ++ [')']

end Date

namespace Moment

/-- Date and time of day, with the fraction of the second and the offset
only where they say something. -/
def text (m : Moment) : Text :=
  m.date.text ++ [' '] ++ Numeral.padded 2 m.hour ++ [':'] ++ Numeral.padded 2 m.minute
    ++ [':'] ++ Numeral.padded 2 m.second
    ++ (if m.microsecond = 0 then [] else '.' :: Numeral.padded 6 m.microsecond)
    ++ match m.offset with
      | none => []
      | some minutes =>
        [if minutes < 0 then '-' else '+'] ++ Numeral.padded 2 (minutes.natAbs / 60)
          ++ [':'] ++ Numeral.padded 2 (minutes.natAbs % 60)

/-- An offset as it is shown within a moment: a number of days, negative
or not, and a number of seconds of a day. -/
def offsetLiteral (minutes : Int) : Text :=
  if minutes = 0 then "datetime.timezone.utc".toList
  else
    let days := if minutes < 0 then "days=-1, ".toList else []
    let seconds := (minutes % (24 * 60)).toNat * 60
    "datetime.timezone(datetime.timedelta(".toList ++ days ++ "seconds=".toList
      ++ Numeral.digits seconds ++ [')', ')']

/-- The moment as it is shown within a list or a mapping: seconds that
are zero, down to the last millionth, are left out. -/
def literal (m : Moment) : Text :=
  let time := [m.hour, m.minute]
    ++ (if m.second = 0 ∧ m.microsecond = 0 then [] else [m.second])
    ++ (if m.microsecond = 0 then [] else [m.microsecond])
  let fields := ([m.date.year, m.date.month, m.date.day] ++ time).map Numeral.digits
    ++ match m.offset with
      | none => []
      | some minutes => ["tzinfo=".toList ++ offsetLiteral minutes]
  "datetime.datetime(".toList ++ Date.listed fields ++ [')']

end Moment

end DriftPatch
