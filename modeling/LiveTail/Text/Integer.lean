import LiveTail.Text.Quote
/-!
# Integers in text

A signed integer literal: an optional sign, then digits in base ten, or after `0x`, `0o`,
`0b` (either case) in base sixteen, eight or two, or after a lone leading `0` in base
eight. Underscores may separate digits, and a base prefix counts as a digit for that
rule. The value must fit in a signed integer of `bits` bits.

Digits are read left to right; a character that is no digit of the base is a syntax
error, and the first digit that makes the magnitude exceed 64 bits is a range error,
whatever follows it.
-/
namespace LiveTail.Integer

/-- Why a text is not an integer. -/
inductive Problem where
  | malformed
  | range
  deriving DecidableEq, Repr

/-- The message of a refused text. -/
def Problem.message (p : Problem) (text : String) : String :=
  "strconv.ParseInt: parsing " ++ Quote.quote text ++ ": "
    ++ match p with
      | .malformed => "invalid syntax"
      | .range => "value out of range"

/-- The value of a digit character in bases up to 36. -/
def digitValue (c : Char) : Option Nat :=
  if c.isDigit then some (c.toNat - '0'.toNat)
  else
    let l := c.toLower
    if 'a' ≤ l ∧ l ≤ 'z' then some (l.toNat - 'a'.toNat + 10) else none

/-- The largest magnitude read. -/
def maxMagnitude : Nat := Nat.pow 2 64 - 1

/-- Reads digits of a base, with separators if `separators`. -/
def digits (base : Nat) (separators : Bool) : List Char → Nat → Except Problem Nat
  | [], n => .ok n
  | c :: rest, n =>
    if c = '_' ∧ separators then digits base separators rest n
    else match digitValue c with
      | none => .error .malformed
      | some d =>
        if d ≥ base then .error .malformed
        else if n * base + d > maxMagnitude then .error .range
        else digits base separators rest (n * base + d)

/-- Where separators may stand: each between two digits, a base prefix counting as a
digit. -/
def separatorsFit (cs : List Char) : Bool :=
  let (hex, start, cs) := match cs with
    | '0' :: b :: rest =>
      if b.toLower = 'b' ∨ b.toLower = 'o' ∨ b.toLower = 'x' then (b.toLower == 'x', '0', rest)
      else (false, '^', cs)
    | _ => (false, '^', cs)
  let last := cs.foldl (fun (saw : Option Char) c =>
    match saw with
    | none => none
    | some s =>
      if c.isDigit || (hex && 'a' ≤ c.toLower && c.toLower ≤ 'f') then some '0'
      else if c = '_' then (if s = '0' then some '_' else none)
      else if s = '_' then none
      else some '!') (some start)
  match last with
  | some s => s ≠ '_'
  | none => false

/-- The magnitude of an unsigned literal with an optional base prefix. -/
def magnitude (cs : List Char) : Except Problem Nat :=
  if cs.isEmpty then .error .malformed
  else
    let (base, body) := match cs with
      | '0' :: b :: rest@(_ :: _) =>
        if b.toLower = 'b' then (2, rest)
        else if b.toLower = 'o' then (8, rest)
        else if b.toLower = 'x' then (16, rest)
        else (8, b :: rest)
      | '0' :: rest => (8, rest)
      | _ => (10, cs)
    match digits base true body 0 with
    | .error e => .error e
    | .ok n => if cs.contains '_' ∧ !separatorsFit cs then .error .malformed else .ok n

/-- Reads a signed integer of `bits` bits. -/
def parse (s : String) (bits : Nat := 64) : Except Problem Int :=
  let cs := s.toList
  if cs.isEmpty then .error .malformed
  else
    let (negative, body) := match cs with
      | '+' :: rest => (false, rest)
      | '-' :: rest => (true, rest)
      | _ => (false, cs)
    let cutoff := Nat.pow 2 (bits - 1)
    match magnitude body with
    | .error .malformed => .error .malformed
    | .error .range => .error .range
    | .ok n =>
      if !negative ∧ n ≥ cutoff then .error .range
      else if negative ∧ n > cutoff then .error .range
      else .ok (if negative then -(n : Int) else n)

end LiveTail.Integer
