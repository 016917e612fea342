import LiveTail.Document.Toml.Syntax
import LiveTail.Document.Value
import LiveTail.Document.Moment
import LiveTail.Text.Quote
/-!
# TOML numbers, dates and times

The meaning of the values a TOML document keeps as raw text.

Integers are decimal, or hexadecimal, octal and binary after `0x`, `0o` and `0b`; an
underscore must stand between two digits; a decimal integer may not start with a zero
unless it is zero; all must fit in 64 bits. The digits are read as the standard integer
reader reads them: left to right, the first character that is not a digit is a syntax
error and the first digit that overflows is a range error, whichever comes first.

Floats follow the same rules for underscores, which may not touch a point or an exponent
letter; a point must have a digit on each side; the integer part may not start with a
zero followed by a digit. The decimal is then read to the nearest double; one out of
range is refused.

Dates are `YYYY-MM-DD` and must exist; times are `HH:MM:SS` with an optional fraction of
which the first nine digits count, a sixtieth second allowed; an offset is `Z` or a sign,
hours up to 23 and minutes up to 59. A date and time with an offset is a moment, and a
zero offset is UTC.
-/
namespace LiveTail.Document.Toml

/-- Why the standard integer or float reader refused a text. -/
inductive Refusal where
  | invalid
  | range
  deriving DecidableEq, Repr

/-- The text of a refusal. -/
def Refusal.text : Refusal → String
  | .invalid => "invalid syntax"
  | .range => "value out of range"

/-- The value of a digit in any base up to 36. -/
def digitValue (c : Char) : Option Nat :=
  if isDigit c then some (c.toNat - 48)
  else if 'a' ≤ c ∧ c ≤ 'z' then some (c.toNat - 87)
  else if 'A' ≤ c ∧ c ≤ 'Z' then some (c.toNat - 55)
  else none

/-- The largest 64-bit unsigned integer. -/
def maxUnsigned : Nat := Nat.pow 2 64 - 1

/-- Reads unsigned digits of a base into 64 bits. -/
def unsignedDigits (base : Nat) (n : Nat) : List Char → Except Refusal Nat
  | [] => .ok n
  | c :: rest =>
    match digitValue c with
    | none => .error .invalid
    | some d =>
      if base ≤ d then .error .invalid
      else if maxUnsigned / base + 1 ≤ n then .error .range
      else
        let m := n * base + d
        if maxUnsigned < m then .error .range else unsignedDigits base m rest

/-- Reads a signed 64-bit integer in a base: a sign, then at least one digit. -/
def signedInt (base : Nat) (s : List Char) : Except Refusal Int :=
  let (negative, digits) := match s with
    | '+' :: r => (false, r)
    | '-' :: r => (true, r)
    | _ => (false, s)
  if digits.isEmpty then .error .invalid
  else
    let un : Except Refusal Nat := match unsignedDigits base 0 digits with
      | .ok n => .ok n
      | .error .range => .ok (maxUnsigned + 1)
      | .error .invalid => .error .invalid
    match un with
    | .error r => .error r
    | .ok un =>
      if !negative ∧ Nat.pow 2 63 ≤ un then .error .range
      else if negative ∧ Nat.pow 2 63 < un then .error .range
      else .ok (if negative then -(un : Int) else un)

/-- A refusal of the standard reader as it reads in messages. -/
def refusalText (reader : String) (s : List Char) (r : Refusal) : String :=
  "strconv." ++ reader ++ ": parsing " ++ Quote.quote (String.ofList s) ++ ": " ++ r.text

/-- Removes the underscores of an integer, each of which must stand between digits. -/
def integerUnderscores (b : List Char) : Except Failure (List Char) :=
  let body := match b with
    | c :: rest => if c = '+' ∨ c = '-' then rest else b
    | [] => []
  match body with
  | [] => .ok b
  | '_' :: _ => fail "number cannot start with underscore"
  | _ =>
    if b.getLast? = some '_' then fail "number cannot end with underscore"
    else if (b.zip (b.drop 1)).any fun (x, y) => x == '_' && y == '_' then
      fail "number must have at least one digit between underscores"
    else .ok (b.filter (· ≠ '_'))

/-- Reads an integer. -/
def integer (raw : List Char) : Except Failure Int :=
  match raw with
  | '0' :: b :: more@(_ :: _) =>
    let (base, name) := if b = 'x' then (16, "hexadecimal") else if b = 'o' then (8, "octal") else (2, "binary")
    match integerUnderscores more with
    | .error f => .error f
    | .ok cleaned =>
      match signedInt base cleaned with
      | .ok n => .ok n
      | .error r => fail ("couldn't parse " ++ name ++ " number: " ++ refusalText "ParseInt" cleaned r)
  | _ =>
    match integerUnderscores raw with
    | .error f => .error f
    | .ok cleaned =>
      let start := match cleaned with
        | c :: _ => if c = '+' ∨ c = '-' then 1 else 0
        | [] => 0
      if start + 1 < cleaned.length ∧ cleaned[start]? = some '0' then
        fail "leading zero not allowed on decimal number"
      else match signedInt 10 cleaned with
        | .ok n => .ok n
        | .error r => fail ("couldn't parse decimal number: " ++ refusalText "ParseInt" cleaned r)

/-- Removes the underscores of a float: each must follow a digit, and none may touch a
point or an exponent letter. -/
def floatUnderscores (b : List Char) : Except Failure (List Char) :=
  if b.head? = some '_' then fail "number cannot start with underscore"
  else if b.getLast? = some '_' then fail "number cannot end with underscore"
  else if !b.contains '_' then .ok b
  else go false none [] b
where
  /-- Walks the characters, knowing whether a digit came since the last separator and
  the character before. -/
  go (before : Bool) (prev : Option Char) (acc : List Char) : List Char → Except Failure (List Char)
    | [] => .ok acc.reverse
    | c :: rest =>
      let next := rest.head?
      if c = '_' then
        if !before then fail "number must have at least one digit between underscores"
        else if next = some 'e' ∨ next = some 'E' then fail "cannot have underscore before exponent"
        else go false (some c) acc rest
      else if c = '+' ∨ c = '-' then go false (some c) (c :: acc) rest
      else if c = 'e' ∨ c = 'E' then
        if next = some '_' then fail "cannot have underscore after exponent"
        else go before (some c) (c :: acc) rest
      else if c = '.' then
        if next = some '_' then fail "cannot have underscore after decimal point"
        else if prev = some '_' then fail "cannot have underscore before decimal point"
        else go before (some c) (c :: acc) rest
      else go true (some c) (c :: acc) rest

/-- Checks the points of a float: at most one, with a digit on each side. -/
def checkPoints (seen : Bool) (prev : Char) : List Char → Except Failure Unit
  | [] => .ok ()
  | c :: rest =>
    if c = '.' then
      if seen then fail "float can have at most one decimal point"
      else if !isDigit prev then fail "float decimal point must be preceded by a digit"
      else if !(rest.head?.map isDigit).getD false then fail "float decimal point must be followed by a digit"
      else checkPoints true c rest
    else checkPoints seen c rest

/-- Reads a decimal float as the standard reader does: a sign, digits with at most one
point, at least one digit, and an optional exponent with at least one digit; or an
infinity or not-a-number. -/
def readFloat (s : List Char) : Except Refusal Double :=
  match s with
  | ['i', 'n', 'f'] | ['+', 'i', 'n', 'f'] => .ok (.infinity false)
  | ['-', 'i', 'n', 'f'] => .ok (.infinity true)
  | ['n', 'a', 'n'] => .ok .nan
  | _ =>
    let (negative, body) := match s with
      | '+' :: r => (false, r)
      | '-' :: r => (true, r)
      | _ => (false, s)
    let whole := body.takeWhile isDigit
    let afterWhole := body.dropWhile isDigit
    let (frac, afterFrac) := match afterWhole with
      | '.' :: r => (r.takeWhile isDigit, r.dropWhile isDigit)
      | _ => ([], afterWhole)
    if whole.isEmpty ∧ frac.isEmpty then .error .invalid
    else
      let expPart : Option (Int × List Char) := match afterFrac with
        | e :: r =>
          if e = 'e' ∨ e = 'E' then
            let (neg, r) := match r with
              | '+' :: r => (false, r)
              | '-' :: r => (true, r)
              | _ => (false, r)
            let ds := r.takeWhile isDigit
            if ds.isEmpty then none
            else
              let n : Int := (String.ofList ds).toNat!
              some (if neg then -n else n, r.dropWhile isDigit)
          else some (0, afterFrac)
        | [] => some (0, [])
      match expPart with
      | none => .error .invalid
      | some (_, _ :: _) => .error .invalid
      | some (exp, []) =>
        let d := Double.ofDecimal negative (String.ofList (whole ++ frac)).toNat! (exp - frac.length)
        if d.isInfinite then .error .range else .ok d

/-- Reads a float. -/
def float (raw : List Char) : Except Failure Double :=
  match raw with
  | [s, 'n', 'a', 'n'] => if s = '+' ∨ s = '-' then .ok .nan else general
  | _ => general
where
  /-- The float rules for any text but a signed not-a-number. -/
  general : Except Failure Double := do
    let cleaned ← floatUnderscores raw
    if cleaned.head? = some '.' then fail "float cannot start with a dot"
    else if cleaned.getLast? = some '.' then fail "float cannot end with a dot"
    else
      checkPoints false ' ' cleaned
      let start := match cleaned with
        | c :: _ => if c = '+' ∨ c = '-' then 1 else 0
        | [] => 0
      if cleaned[start]? = some '0' ∧ (cleaned[start + 1]?.map isDigit).getD false then
        fail "float integer part cannot have leading zeroes"
      else match readFloat cleaned with
        | .ok d => pure d
        | .error r => fail ("unable to parse float: " ++ refusalText "ParseFloat" cleaned r)

/-- Reads decimal digits. -/
def decimalDigits (b : List Char) : Except Failure Nat :=
  if b.all isDigit then .ok (b.foldl (fun v c => v * 10 + (c.toNat - 48)) 0)
  else fail "expected digit (0-9)"

/-- A date read from a document. -/
structure LocalDate where
  year : Nat
  month : Nat
  day : Nat

/-- A time of day read from a document, with the number of fraction digits given. -/
structure LocalTime where
  hour : Nat
  minute : Nat
  second : Nat
  nanos : Nat
  precision : Nat

/-- Reads a date `YYYY-MM-DD` that exists. -/
def localDate (b : List Char) : Except Failure LocalDate := do
  if b.length ≠ 10 ∨ b[4]? ≠ some '-' ∨ b[7]? ≠ some '-' then
    fail "dates are expected to have the format YYYY-MM-DD"
  else
    let year ← decimalDigits (b.take 4)
    let month ← decimalDigits ((b.drop 5).take 2)
    let day ← decimalDigits ((b.drop 8).take 2)
    if Moment.validDate year month day then pure { year, month, day } else fail "impossible date"

/-- The fraction digits of a time after its point: the first nine count, the rest are
read and dropped. -/
def fractionDigits (b : List Char) : Except Failure (Nat × Nat × List Char) :=
  let ds := b.takeWhile isDigit
  if b.isEmpty then fail "nanoseconds need at least one digit"
  else if ds.isEmpty then fail "need at least one digit after fraction point"
  else
    let kept := ds.take 9
    let frac := kept.foldl (fun v c => v * 10 + (c.toNat - 48)) 0
    .ok (frac * Nat.pow 10 (9 - kept.length), kept.length, b.dropWhile isDigit)

/-- Reads a time `HH:MM:SS` with an optional fraction, and what follows it. -/
def localTime (b : List Char) : Except Failure (LocalTime × List Char) := do
  if b.length < 8 then fail "times are expected to have the format HH:MM:SS[.NNNNNN]"
  else
    let hour ← decimalDigits (b.take 2)
    if 23 < hour then fail "hour cannot be greater 23"
    else if b[2]? ≠ some ':' then fail "expecting colon between hours and minutes"
    else
      let minute ← decimalDigits ((b.drop 3).take 2)
      if 59 < minute then fail "minutes cannot be greater 59"
      else if b[5]? ≠ some ':' then fail "expecting colon between minutes and seconds"
      else
        let second ← decimalDigits ((b.drop 6).take 2)
        if 60 < second then fail "seconds cannot be greater 60"
        else
          match b.drop 8 with
          | '.' :: r =>
            let (nanos, precision, rest) ← fractionDigits r
            pure ({ hour, minute, second, nanos, precision }, rest)
          | rest => pure ({ hour, minute, second, nanos := 0, precision := 0 }, rest)

/-- Reads a date and time, separated by `T` or a space, and what follows it. -/
def localDateTime (b : List Char) : Except Failure (LocalDate × LocalTime × List Char) := do
  if b.length < 11 then
    fail "local datetimes are expected to have the format YYYY-MM-DDTHH:MM:SS[.NNNNNNNNN]"
  else
    let date ← localDate (b.take 10)
    match b[10]? with
    | some s =>
      if s = 'T' ∨ s = ' ' ∨ s = 't' then
        let (time, rest) ← localTime (b.drop 11)
        pure (date, time, rest)
      else fail "datetime separator is expected to be T or a space"
    | none => fail "datetime separator is expected to be T or a space"

/-- Two digits. -/
def twoDigits (n : Nat) : String := Moment.padded 2 n

/-- A date as printed, `YYYY-MM-DD`. -/
def LocalDate.text (d : LocalDate) : String :=
  Moment.padded 4 d.year ++ "-" ++ twoDigits d.month ++ "-" ++ twoDigits d.day

/-- A time as printed: the fraction shows as many digits as were given. -/
def LocalTime.text (t : LocalTime) : String :=
  let base := twoDigits t.hour ++ ":" ++ twoDigits t.minute ++ ":" ++ twoDigits t.second
  if 0 < t.precision then base ++ "." ++ String.ofList ((Moment.padded 9 t.nanos).toList.take t.precision)
  else base

/-- Reads the offset of a date and time: `Z`, or a sign, hours and minutes. -/
def offset (b : List Char) : Except Failure Zone :=
  match b with
  | ['Z'] | ['z'] => .ok .utc
  | 'Z' :: _ | 'z' :: _ => fail "extra bytes at the end of the timezone"
  | _ =>
    if b.length ≠ 6 then fail "invalid date-time timezone"
    else match b with
      | s :: h1 :: h2 :: c :: m1 :: m2 :: _ =>
        if s ≠ '+' ∧ s ≠ '-' then fail "invalid timezone offset character"
        else if c ≠ ':' then fail "expected a : separator"
        else do
          let hours ← decimalDigits [h1, h2]
          if 23 < hours then fail "invalid timezone offset hours"
          else
            let minutes ← decimalDigits [m1, m2]
            if 59 < minutes then fail "invalid timezone offset minutes"
            else
              let seconds : Int := (if s = '-' then -1 else 1) * ((hours * 3600 + minutes * 60 : Nat) : Int)
              pure (if seconds = 0 then .utc else .fixed seconds)
      | _ => fail "invalid date-time timezone"

/-- Carries a sixtieth second into the next minute, and on through the calendar. -/
def carrySecond (m : Moment) : Moment :=
  if m.second < 60 then m
  else
    let m := { m with second := m.second - 60, minute := m.minute + 1 }
    let m := if m.minute < 60 then m else { m with minute := 0, hour := m.hour + 1 }
    let m := if m.hour < 24 then m else { m with hour := 0, day := m.day + 1 }
    let m := if m.day ≤ Moment.daysIn m.month m.year then m else { m with day := 1, month := m.month + 1 }
    if m.month ≤ 12 then m else { m with month := 1, year := m.year + 1 }

/-- Reads a date and time with an offset. -/
def moment (b : List Char) : Except Failure Moment := do
  let (d, t, rest) ← localDateTime b
  if rest.isEmpty then fail "date time should have a timezone"
  else
    let zone ← offset rest
    let m : Moment := { year := d.year, month := d.month, day := d.day }
    pure (carrySecond { m with hour := t.hour, minute := t.minute, second := t.second, nanos := t.nanos, zone := zone })

/-- The value of a date or time. -/
def stamp (kind : Stamp) (raw : List Char) : Except Failure Value :=
  match kind with
  | .localDate => do
    let d ← localDate raw
    pure (.other "toml.LocalDate" "struct" d.text)
  | .localTime => do
    let (t, rest) ← localTime raw
    if rest.isEmpty then pure (.other "toml.LocalTime" "struct" t.text)
    else fail "extra characters at the end of a local time"
  | .localDateTime => do
    let (d, t, rest) ← localDateTime raw
    if rest.isEmpty then pure (.other "toml.LocalDateTime" "struct" (d.text ++ "T" ++ t.text))
    else fail "extra characters at the end of a local date time"
  | .dateTime => do
    let m ← moment raw
    pure (.other "time.Time" "struct" m.text)

end LiveTail.Document.Toml
