/-!
# Texts read as formats without arguments

Some messages are handed on as formats, so a percent sign in them starts a directive
although no value is there to fill it. A directive is `%`, flags (`#0+- `), an argument
index `[n]`, a width (digits or `*`), a precision (`.` then digits or `*`), another
argument index, and a verb character. With no values, a directive prints:

* `%%` as `%`, whatever stands between;
* a `*` width or precision as `%!(BADWIDTH)` or `%!(BADPREC)`, before the verb;
* a verb after an argument index as `%!v(BADINDEX)`, any other verb as `%!v(MISSING)`;
* a directive cut off by the end of the text as `%!(NOVERB)`.

A number that grows past a million before its last digit ends the text there.
-/
namespace LiveTail.Verbs

/-- Reads decimal digits from the front: the digits seen and the rest, or `none` when the
number passes a million before its last digit. -/
def number (n : Nat) (seen : Bool) : List Char → Option (Bool × List Char)
  | [] => some (seen, [])
  | c :: rest =>
    if c.isDigit then
      if n > 1000000 then none else number (n * 10 + (c.toNat - 48)) true rest
    else some (seen, c :: rest)

/-- The text after a number: the end of the text when the number is too long. -/
def afterNumber (cs : List Char) : List Char :=
  match number 0 false cs with
  | some (_, rest) => rest
  | none => []

/-- Reads an argument index `[n]` at the front: whether one starts there, whether it is
well formed, and the rest. Without a closing bracket only the opening one is read. -/
def index (cs : List Char) : Bool × Bool × List Char :=
  match cs with
  | '[' :: rest =>
    if (String.ofList cs).utf8ByteSize < 3 then (true, false, rest)
    else
      match rest.idxOf? ']' with
      | none => (true, false, rest)
      | some j => (true, number 0 false (rest.take j) = some (true, []), rest.drop (j + 1))
  | _ => (false, false, cs)

/-- Whether a character is a flag of a directive. -/
def isFlag (c : Char) : Bool := c = '#' || c = '0' || c = '+' || c = '-' || c = ' '

/-- Reads one directive after its percent sign: what it prints and the rest of the text. -/
def directive (cs : List Char) : String × List Char :=
  let (bad, found, cs) := index (cs.dropWhile isFlag)
  let (out, after, cs) : String × Bool × List Char :=
    match cs with
    | '*' :: rest => ("%!(BADWIDTH)", false, rest)
    | _ => ("", found, afterNumber cs)
  let (out, bad, after, cs) : String × Bool × Bool × List Char :=
    match cs with
    | '.' :: c :: more =>
      let (seen, found, rest) := index (c :: more)
      match rest with
      | '*' :: rest => (out ++ "%!(BADPREC)", bad || seen, false, rest)
      | _ => (out, bad || seen, found, afterNumber rest)
    | _ => (out, bad, after, cs)
  let (bad, cs) := if after then (bad, cs) else
    let (seen, _, rest) := index cs
    (bad || seen, rest)
  match cs with
  | [] => (out ++ "%!(NOVERB)", [])
  | v :: rest =>
    if v = '%' then (out ++ "%", rest)
    else if bad then (out ++ "%!" ++ v.toString ++ "(BADINDEX)", rest)
    else (out ++ "%!" ++ v.toString ++ "(MISSING)", rest)

/-- Prints the rest of a text read as a format, after `acc`. -/
def unfilledFrom (acc : String) : List Char → Nat → String
  | [], _ => acc
  | _, 0 => acc
  | c :: rest, fuel + 1 =>
    if c = '%' then
      let (out, rest) := directive rest
      unfilledFrom (acc ++ out) rest fuel
    else unfilledFrom (acc.push c) rest fuel

/-- A text read as a format and printed with no values. -/
def unfilled (s : String) : String := unfilledFrom "" s.toList (s.length + 1)

end LiveTail.Verbs
