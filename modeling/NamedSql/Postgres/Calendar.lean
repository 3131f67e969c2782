/-!
Dates and times of day. The server counts days and microseconds from the beginning of the year 2000
in the Gregorian calendar, which is taken to hold for all time. Years from 0 to 9999 are written
with four digits, others with a sign and at least four. A time of day has no fraction, or three or
six digits of one, whichever is the fewest that lose nothing.
-/
namespace NamedSql.Postgres

/-- A day of the calendar. -/
structure Date where
  year : Int
  month : Nat
  day : Nat
deriving DecidableEq, Repr

/-- A decimal number with zeros before it up to a width. -/
def padded (width n : Nat) : String :=
  let digits := toString n
  String.ofList (List.replicate (width - digits.length) '0') ++ digits

namespace Date

/-- How many days there are from 0000-03-01 to 2000-01-01. -/
def epoch : Int := 730425

/-- The date of a day. The calendar repeats after 400 years, which are 146097 days; with years that
begin in March a leap day comes last, and the months have 153 days in every five. -/
def ofDays (days : Int) : Date :=
  let n := days + epoch
  let cycle := n.fdiv 146097
  let dayOfCycle := (n - cycle * 146097).toNat
  let yearOfCycle :=
    (dayOfCycle - dayOfCycle / 1460 + dayOfCycle / 36524 - dayOfCycle / 146096) / 365
  let dayOfYear := dayOfCycle - (365 * yearOfCycle + yearOfCycle / 4 - yearOfCycle / 100)
  let month := (5 * dayOfYear + 2) / 153
  let year := cycle * 400 + yearOfCycle
  { year := if month < 10 then year else year + 1
    month := if month < 10 then month + 3 else month - 9
    day := dayOfYear - (153 * month + 2) / 5 + 1 }

/-- Whether a date is one that can be written. -/
def isInRange (d : Date) : Bool := -262143 ≤ d.year && d.year ≤ 262142

/-- The text of a year. -/
def yearText (year : Int) : String :=
  if 0 ≤ year ∧ year ≤ 9999 then padded 4 year.toNat
  else (if year < 0 then "-" else "+") ++ padded 4 year.natAbs

/-- The text of a date. -/
def text (d : Date) : String := yearText d.year ++ "-" ++ padded 2 d.month ++ "-" ++ padded 2 d.day

end Date

/-- How many microseconds a day has. -/
def dayLength : Int := 86400000000

/-- The text of a fraction of a second, given in microseconds. -/
def fractionText (micros : Nat) : String :=
  if micros = 0 then ""
  else if micros % 1000 = 0 then "." ++ padded 3 (micros / 1000)
  else "." ++ padded 6 micros

/-- The text of a time of day, given in microseconds after midnight. -/
def clockText (micros : Nat) : String :=
  let seconds := micros / 1000000
  padded 2 (seconds / 3600) ++ ":" ++ padded 2 (seconds / 60 % 60) ++ ":" ++
    padded 2 (seconds % 60) ++ fractionText (micros % 1000000)

/-- The text of the time of day that a number of microseconds leads to, days being passed over. -/
def timeText (micros : Int) : String := clockText (micros.emod dayLength).toNat

/-- The text of an instant, given in microseconds, with `between` between the date and the time;
none if its date is out of range. -/
def instantText? (between : String) (micros : Int) : Option String :=
  let date := Date.ofDays (micros.fdiv dayLength)
  if date.isInRange then some (date.text ++ between ++ timeText micros) else none

/-- The text of a date, given in days; none if it is out of range. -/
def dateText? (days : Int) : Option String :=
  let date := Date.ofDays days
  if date.isInRange then some date.text else none

end NamedSql.Postgres
