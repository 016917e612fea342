import LiveTail.Number.Double
/-!
# Durations

A duration is a signed count of nanoseconds in the 64-bit range. Its text is the shortest
that reads back: `0s`; below a second one unit (`ns`, `µs`, `ms`) with the fraction's
trailing zeros dropped (`1.5ms`); from a second on hours, minutes and seconds, each
leading unit only when not zero (`1h2m3.5s`, `2m0s`). A minus sign leads a negative one.

Reading accepts a sign and then one or more numbers with a unit (`1h2m3.5s`, `250ms`,
`.5s`), or a bare `0`. The fraction of a term is worked out in double precision, so
its last nanosecond follows the rounding of doubles.
-/
namespace LiveTail

/-- A signed span of time in nanoseconds. -/
structure Duration where
  nanos : Int
  deriving DecidableEq, Repr, Inhabited

namespace Duration

/-- Nanoseconds in a millisecond. -/
def millisecond : Nat := 1000000
/-- Nanoseconds in a second. -/
def second : Nat := 1000000000

/-- A whole number of milliseconds. -/
def ofMillis (n : Int) : Duration := ⟨n * millisecond⟩

/-- The digits of `v % 10 ^ prec` as a decimal fraction: a point and the digits without
trailing zeros, or nothing when they are all zero. -/
def fraction (v prec : Nat) : String :=
  let digits := Nat.toDigits 10 (v % Nat.pow 10 prec)
  let padded := List.replicate (prec - digits.length) '0' ++ digits
  let kept := (padded.reverse.dropWhile (· = '0')).reverse
  if kept.isEmpty then "" else "." ++ String.ofList kept

/-- The text of a magnitude, without sign. -/
def magnitudeText (u : Nat) : String :=
  if u = 0 then "0s"
  else if u < 1000 then toString u ++ "ns"
  else if u < millisecond then toString (u / 1000) ++ fraction u 3 ++ "µs"
  else if u < second then toString (u / millisecond) ++ fraction u 6 ++ "ms"
  else
    let secs := u / second
    let s := toString (secs % 60) ++ fraction u 9 ++ "s"
    let mins := secs / 60
    if mins = 0 then s
    else
      let m := toString (mins % 60) ++ "m" ++ s
      let hours := mins / 60
      if hours = 0 then m else toString hours ++ "h" ++ m

/-- The shortest text that reads back as the duration. -/
def text (d : Duration) : String :=
  if d.nanos < 0 then "-" ++ magnitudeText d.nanos.natAbs else magnitudeText d.nanos.natAbs

/-- The quoting of duration messages: ASCII characters as they are (quote and backslash
escaped), every octet of any other character as `\xHH`. -/
def quoteText (s : String) : String :=
  let hex (n : Nat) : String :=
    let ds := Nat.toDigits 16 n
    String.ofList (List.replicate (2 - ds.length) '0' ++ ds)
  let push (acc : String) (c : Char) : String :=
    if c.toNat ≥ 0x80 ∨ c.toNat < 0x20 then
      (String.singleton c).toUTF8.foldl (fun a b => a ++ "\\x" ++ hex b.toNat) acc
    else if c = '"' ∨ c = '\\' then (acc.push '\\').push c
    else acc.push c
  (s.foldl push "\"").push '"'

/-- Why a text is no duration. -/
inductive ParseError where
  | invalid (text : String)
  | missingUnit (text : String)
  | unknownUnit (unit text : String)
  deriving DecidableEq, Repr

/-- The message of a reading failure. -/
def ParseError.message : ParseError → String
  | .invalid t => "time: invalid duration " ++ quoteText t
  | .missingUnit t => "time: missing unit in duration " ++ quoteText t
  | .unknownUnit u t => "time: unknown unit " ++ quoteText u ++ " in duration " ++ quoteText t

/-- Nanoseconds per unit name. -/
def unitValue? : String → Option Nat
  | "ns" => some 1
  | "us" | "µs" | "μs" => some 1000
  | "ms" => some millisecond
  | "s" => some second
  | "m" => some (60 * second)
  | "h" => some (3600 * second)
  | _ => none

/-- Bound of the magnitudes while reading: 2^63. -/
def limit : Nat := 9223372036854775808

/-- Leading decimal digits as a number; none when it passes the bound. -/
def leadingInt : List Char → Nat → Option (Nat × List Char)
  | c :: rest, x =>
    if c.isDigit then
      if x > limit / 10 then none
      else
        let y := x * 10 + (c.toNat - '0'.toNat)
        if y > limit then none else leadingInt rest y
    else some (x, c :: rest)
  | [], x => some (x, [])

/-- Leading fraction digits: their value, the power of ten it is scaled by, and the rest;
digits past the precision that fits are read and ignored. -/
def leadingFraction : List Char → Nat → Nat → Bool → Nat × Nat × List Char
  | c :: rest, x, scale, past =>
    if c.isDigit then
      if past ∨ x > (limit - 1) / 10 then leadingFraction rest x scale true
      else
        let y := x * 10 + (c.toNat - '0'.toNat)
        if y > limit then leadingFraction rest x scale true
        else leadingFraction rest y (scale * 10) past
    else (x, scale, c :: rest)
  | [], x, scale, _ => (x, scale, [])

/-- The nanoseconds of a fraction `f / scale` of a unit, as doubles compute them: the
fraction's digits and the unit over the scale are each rounded to a double, then their
product, which is truncated. -/
def fractionNanos (f unit scale : Nat) : Nat :=
  (((Double.ofRatio false f 1).mul (Double.ofRatio false unit scale)).truncate.getD 0).toNat

/-- Reads the numbers with units of `s`, adding to `total`; each term takes at least one
character, so `fuel ≥ s.length` suffices. -/
def readTerms (orig : String) : Nat → List Char → Nat → Except ParseError Nat
  | _, [], total => .ok total
  | 0, _ :: _, _ => .error (.invalid orig)
  | fuel + 1, s@(c :: _), total =>
    if !(c = '.' ∨ c.isDigit) then .error (.invalid orig)
    else
      match leadingInt s 0 with
      | none => .error (.invalid orig)
      | some (v, afterInt) =>
        let pre := afterInt.length != s.length
        let (f, scale, afterFrac, post) :=
          match afterInt with
          | '.' :: r =>
            let (f, scale, rest) := leadingFraction r 0 1 false
            (f, scale, rest, rest.length != r.length)
          | _ => (0, 1, afterInt, false)
        if !pre && !post then .error (.invalid orig)
        else
          let unitChars := afterFrac.takeWhile (fun c => !(c = '.' ∨ c.isDigit))
          let rest := afterFrac.dropWhile (fun c => !(c = '.' ∨ c.isDigit))
          if unitChars.isEmpty then .error (.missingUnit orig)
          else
            let u := String.ofList unitChars
            match unitValue? u with
            | none => .error (.unknownUnit u orig)
            | some unit =>
              if v > limit / unit then .error (.invalid orig)
              else
                let v := v * unit + fractionNanos f unit scale
                if v > limit then .error (.invalid orig)
                else
                  let total := total + v
                  if total > limit then .error (.invalid orig)
                  else readTerms orig fuel rest total

/-- Reads a duration: an optional sign, then `0` alone or numbers with units. -/
def parse (orig : String) : Except ParseError Duration :=
  let (neg, s) := match orig.toList with
    | '-' :: r => (true, r)
    | '+' :: r => (false, r)
    | r => (false, r)
  if s = ['0'] then .ok ⟨0⟩
  else if s.isEmpty then .error (.invalid orig)
  else
    match readTerms orig s.length s 0 with
    | .error e => .error e
    | .ok d =>
      if neg then .ok ⟨-(d : Int)⟩
      else if d > limit - 1 then .error (.invalid orig)
      else .ok ⟨d⟩

end Duration
end LiveTail
