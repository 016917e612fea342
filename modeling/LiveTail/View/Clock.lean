/-!
# Wall-clock stamps

An instant is seconds and nanoseconds since the Unix epoch; nanoseconds outside a second
carry into the seconds. Clocks keep 64-bit seconds counted from a day far before the
epoch, so instants beyond that range wrap around to the other end. Stamps are written in UTC, either as the time of day `hh:mm:ss` or
as an RFC 3339 date and time with the zone `Z`. Dates follow the proleptic Gregorian
calendar; a year has at least four digits, with a minus sign before years below zero.
-/
namespace LiveTail

/-- A moment given as seconds and nanoseconds since the Unix epoch. -/
structure Instant where
  seconds : Int
  nanos : Int := 0
  deriving DecidableEq, Repr

namespace Instant

/-- Whole seconds since the epoch, the nanoseconds carried in, rounding down. -/
def wholeSeconds (t : Instant) : Int := t.seconds + t.nanos / 1000000000

/-- The seconds from the epoch of the absolute day, some 292 billion years before it,
from which clocks count. -/
def absoluteOffset : Int := 9223372028715321600

/-- Whole seconds since the epoch as a clock shows them: clocks count 64-bit seconds from
the absolute day, so a moment beyond that range wraps around. -/
def shownSeconds (t : Instant) : Int :=
  (t.wholeSeconds + absoluteOffset) % Int.pow 2 64 - absoluteOffset

/-- Days since the epoch and the second of the day. -/
def dayAndSecond (t : Instant) : Int × Nat :=
  (t.shownSeconds / 86400, (t.shownSeconds % 86400).toNat)

/-- The year, month and day of a day count from the epoch. -/
def civil (days : Int) : Int × Nat × Nat :=
  let z := days + 719468
  let era := z / 146097
  let doe := (z - era * 146097).toNat
  let yoe := (doe - doe / 1460 + doe / 36524 - doe / 146096) / 365
  let doy := doe - (365 * yoe + yoe / 4 - yoe / 100)
  let mp := (5 * doy + 2) / 153
  let day := doy - (153 * mp + 2) / 5 + 1
  let month := if mp < 10 then mp + 3 else mp - 9
  let year := (yoe : Int) + era * 400 + (if month ≤ 2 then 1 else 0)
  (year, month, day)

/-- Digits of `n`, zero-padded to `width`. -/
def padded (width n : Nat) : String :=
  let ds := toString n
  String.ofList (List.replicate (width - ds.length) '0') ++ ds

/-- A year with at least four digits. -/
def yearText (y : Int) : String :=
  if y < 0 then "-" ++ padded 4 y.natAbs else padded 4 y.toNat

/-- The time of day, `hh:mm:ss`. -/
def clockText (t : Instant) : String :=
  let s := t.dayAndSecond.2
  padded 2 (s / 3600) ++ ":" ++ padded 2 (s / 60 % 60) ++ ":" ++ padded 2 (s % 60)

/-- The RFC 3339 date and time in UTC. -/
def isoText (t : Instant) : String :=
  let (y, m, d) := civil t.dayAndSecond.1
  yearText y ++ "-" ++ padded 2 m ++ "-" ++ padded 2 d ++ "T" ++ t.clockText ++ "Z"

end Instant
end LiveTail
