/-!
# Moments

A moment of a document: a date of the proleptic Gregorian calendar, a time of day with
nanoseconds, and a zone, which is UTC or a fixed offset from it without a name.

A moment prints as a generic value prints a time: `2006-01-02 15:04:05.999999999 -0700
MST`, where the fraction loses its trailing zeros (and its point when nothing is left),
and the zone name is `UTC` for UTC and the offset again for a zone without a name.
-/
namespace LiveTail

/-- The zone of a moment. -/
inductive Zone where
  | utc
  /-- A fixed offset east of UTC, in seconds. -/
  | fixed (offset : Int)
  deriving DecidableEq, Repr

/-- A date and time of day in a zone. -/
structure Moment where
  year : Int
  month : Nat
  day : Nat
  hour : Nat := 0
  minute : Nat := 0
  second : Nat := 0
  nanos : Nat := 0
  zone : Zone := .utc
  deriving DecidableEq, Repr

namespace Moment

/-- Whether a year has a 29th of February. -/
def isLeap (year : Int) : Bool := year % 4 == 0 && (year % 100 != 0 || year % 400 == 0)

/-- The number of days of a month of a year; zero for a month that does not exist. -/
def daysIn (month : Nat) (year : Int) : Nat :=
  match month with
  | 1 | 3 | 5 | 7 | 8 | 10 | 12 => 31
  | 4 | 6 | 9 | 11 => 30
  | 2 => if isLeap year then 29 else 28
  | _ => 0

/-- Whether the date exists. -/
def validDate (year : Int) (month day : Nat) : Bool :=
  1 ≤ month && month ≤ 12 && 1 ≤ day && day ≤ daysIn month year

/-- Digits of `n`, zero-padded to `width`. -/
def padded (width n : Nat) : String :=
  let ds := toString n
  String.ofList (List.replicate (width - ds.length) '0') ++ ds

/-- A year with at least four digits, a minus sign before years below zero. -/
def yearText (y : Int) : String :=
  if y < 0 then "-" ++ padded 4 y.natAbs else padded 4 y.toNat

/-- The date, `yyyy-mm-dd`. -/
def dateText (m : Moment) : String :=
  yearText m.year ++ "-" ++ padded 2 m.month ++ "-" ++ padded 2 m.day

/-- The time of day, `hh:mm:ss`. -/
def clockText (m : Moment) : String :=
  padded 2 m.hour ++ ":" ++ padded 2 m.minute ++ ":" ++ padded 2 m.second

/-- Nanoseconds as a fraction of a second: a point and up to nine digits without trailing
zeros, or nothing for none. -/
def fractionText (nanos : Nat) : String :=
  if nanos = 0 then ""
  else "." ++ String.ofList ((padded 9 nanos).toList.reverse.dropWhile (· = '0')).reverse

/-- An offset as `-0700`: sign, hours and minutes. -/
def offsetText (offset : Int) : String :=
  let m := offset.natAbs / 60
  (if offset < 0 then "-" else "+") ++ padded 2 (m / 60) ++ padded 2 (m % 60)

/-- The zone as printed: offset and name. -/
def zoneText : Zone → String
  | .utc => "+0000 UTC"
  | .fixed o => offsetText o ++ " " ++ offsetText o

/-- The moment as a generic value prints it. -/
def text (m : Moment) : String :=
  m.dateText ++ " " ++ m.clockText ++ fractionText m.nanos ++ " " ++ zoneText m.zone

end Moment
end LiveTail
