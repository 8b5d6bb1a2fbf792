/-
Days and moments of the Gregorian calendar, years 1 to 9999.

* `Day`, `Day.isValid`: a day, and whether the calendar has it.
* `Moment`: a day with a time and perhaps a distance from universal time, in minutes.
* `dayNumber`, `ofDayNumber`: days counted from the first of March of year 0, also backwards.
* `Day.text`, `Moment.text`: the written forms.
-/
import WidgetContracts.Decimal.Notation

namespace WidgetContracts

/-- A day of the calendar. -/
structure Day where
  year : Nat
  month : Nat
  day : Nat
  deriving DecidableEq, Repr

/-- A time of a day, with the minutes that its clock is ahead of universal time if that is known. -/
structure Moment where
  day : Day
  hour : Nat
  minute : Nat
  second : Nat
  micro : Nat
  ahead : Option Int
  deriving DecidableEq, Repr

namespace Day

/-- Whether a year has a 29th of February. -/
def isLeap (year : Nat) : Bool :=
  year % 4 == 0 && (year % 100 != 0 || year % 400 == 0)

/-- The number of days of a month. -/
def monthLength (year month : Nat) : Nat :=
  if month = 2 then (if isLeap year then 29 else 28)
  else if month = 4 ∨ month = 6 ∨ month = 9 ∨ month = 11 then 30
  else 31

/-- Whether the calendar has the day. -/
def isValid (d : Day) : Bool :=
  1 ≤ d.year && d.year ≤ 9999 && 1 ≤ d.month && d.month ≤ 12 && 1 ≤ d.day &&
    d.day ≤ monthLength d.year d.month

/-- Days since the first of March of year 0, for years from 1 on. -/
def dayNumber (d : Day) : Nat :=
  let y := if d.month ≤ 2 then d.year - 1 else d.year
  let m := if d.month ≤ 2 then d.month + 9 else d.month - 3
  365 * y + y / 4 - y / 100 + y / 400 + (153 * m + 2) / 5 + d.day - 1

/-- The year, month and day that is `n` days after the first of March of year 0. The years before
year 1 are counted down through 0, as if the calendar had always been in use. -/
def ofDayNumber (n : Int) : Int × Nat × Nat :=
  let inEra := (n.fmod 146097).toNat
  let y := (inEra - inEra / 1460 + inEra / 36524 - inEra / 146096) / 365
  let inYear := inEra - (365 * y + y / 4 - y / 100)
  let m := (5 * inYear + 2) / 153
  let year := 400 * n.fdiv 146097 + y
  (if m < 10 then year else year + 1, if m < 10 then m + 3 else m - 9,
    inYear - (153 * m + 2) / 5 + 1)

/-- A number with zeros in front, at least `width` characters wide. -/
def digits (width n : Nat) : String := String.ofList (Decimal.padded width (Decimal.digitsOf n))

/-- A day as year, month and day. -/
def text (d : Day) : String := s!"{digits 4 d.year}-{digits 2 d.month}-{digits 2 d.day}"

end Day

namespace Moment

/-- Whether the calendar has the day and the clock the time, and the clock is less than a day from
universal time. -/
def isValid (t : Moment) : Bool :=
  t.day.isValid && t.hour < 24 && t.minute < 60 && t.second < 60 && t.micro < 1000000 &&
    (t.ahead.all fun a => a.natAbs < 1440)

/-- Microseconds on the clock since the first of March of year 0. -/
def clock (t : Moment) : Nat :=
  (((t.day.dayNumber * 24 + t.hour) * 60 + t.minute) * 60 + t.second) * 1000000 + t.micro

/-- Whether two moments are one: both are placed in universal time, or neither is, and they agree
there. -/
def same (s t : Moment) : Bool :=
  match s.ahead, t.ahead with
  | none, none => s.clock == t.clock
  | some a, some b => (s.clock : Int) - a * 60000000 == (t.clock : Int) - b * 60000000
  | _, _ => false

/-- The distance from universal time: a sign, hours and minutes. -/
def aheadText (a : Int) : String :=
  (if a < 0 then "-" else "+") ++ Day.digits 2 (a.natAbs / 60) ++ ":" ++
    Day.digits 2 (a.natAbs % 60)

/-- The time of day; a fraction of a second is shown with six digits or not at all. -/
def timeText (t : Moment) : String :=
  let fraction := if t.micro = 0 then "" else s!".{Day.digits 6 t.micro}"
  s!"{Day.digits 2 t.hour}:{Day.digits 2 t.minute}:{Day.digits 2 t.second}{fraction}"

/-- A moment as day, time and distance from universal time. -/
def text (t : Moment) : String :=
  let zone := (t.ahead.map aheadText).getD ""
  s!"{t.day.text} {t.timeText}{zone}"

end Moment

end WidgetContracts
