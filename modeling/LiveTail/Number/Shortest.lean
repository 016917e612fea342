import LiveTail.Number.Double
/-!
# Shortest decimals of doubles

The decimal a double is written as: among the decimals that read back as the double, one
with the fewest significant digits, and of two such the nearer to the double, a tie going
to the even last digit.

The decimals that read back as a finite positive double `m · 2 ^ q` are those between the
midpoints to its two neighbours, the midpoints included exactly when `m` is even. The
neighbour below is half as far as the one above when `m = 2 ^ 52` and the double is not the
least normal one. For `n = 1, 2, …` digits, the two multiples of `10 ^ (p - n + 1)` around
the double (where `10 ^ p` is the power of ten at or below it) are tried; the first `n`
with a hit wins. Seventeen digits always suffice; the exact value stands behind them.

Two layouts are used: the positional one, and the generic one that switches to an
exponent (`1e+06`, `1.5e-07`) when the leading digit's exponent is below -4 or at least 6.
-/
namespace LiveTail
namespace Double

/-- Compares `a · 10 ^ i` with `n · 2 ^ j`, exactly. -/
def compareScaled (a : Nat) (i : Int) (n : Nat) (j : Int) : Ordering :=
  compare (a * Nat.pow 10 i.toNat * Nat.pow 2 (-j).toNat) (n * Nat.pow 2 j.toNat * Nat.pow 10 (-i).toNat)

/-- Whether `c · 10 ^ e` reads back as the positive double `m · 2 ^ q`: it lies between
the midpoints to the neighbours, counted in quarters of `2 ^ q`. -/
def readsBack (m : Nat) (q : Int) (c : Nat) (e : Int) : Bool :=
  let narrow := m = Nat.pow 2 (precision - 1) ∧ minExponent < q
  let lo := if narrow then 4 * m - 1 else 4 * m - 2
  let hi := 4 * m + 2
  let inclusive := m % 2 == 0
  let cl := compareScaled c e lo (q - 2)
  let ch := compareScaled c e hi (q - 2)
  (cl == .gt || (inclusive && cl == .eq)) && (ch == .lt || (inclusive && ch == .eq))

/-- `⌊log₁₀ (a / b)⌋` for positive `a` and `b`. -/
def floorLog10 (a b : Nat) : Int :=
  if b ≤ a then (digitCount (a / b) : Int) - 1
  else
    let j := digitCount (b / a) - 1
    if b ≤ a * Nat.pow 10 j then -(j : Int) else -((j + 1 : Nat) : Int)

/-- The digits of a double of `n` significant digits nearest to `a / b` that reads back as
the positive double `m · 2 ^ q = a / b`, if there is one: `p` is the exponent of the leading
digit of `a / b`. -/
def nearestOfLength (m : Nat) (q : Int) (a b : Nat) (p : Int) (n : Nat) : Option (Nat × Int) :=
  let e := p - n + 1
  let (num, den) := if 0 ≤ e then (a, b * Nat.pow 10 e.toNat) else (a * Nat.pow 10 (-e).toNat, b)
  let c := num / den
  match readsBack m q c e, readsBack m q (c + 1) e with
  | true, true =>
    if 2 * num < (2 * c + 1) * den then some (c, e)
    else if (2 * c + 1) * den < 2 * num then some (c + 1, e)
    else if c % 2 = 0 then some (c, e) else some (c + 1, e)
  | true, false => some (c, e)
  | false, true => some (c + 1, e)
  | false, false => none

/-- Moves trailing zero digits into the exponent; each step divides by ten, so the digit
count bounds the steps. -/
def stripZeros (c : Nat) (e : Int) : Nat → Nat × Int
  | 0 => (c, e)
  | fuel + 1 => if c ≠ 0 ∧ c % 10 = 0 then stripZeros (c / 10) (e + 1) fuel else (c, e)

/-- The shortest decimal `c · 10 ^ e` that reads back as the positive double `m · 2 ^ q`,
without trailing zeros. -/
def shortestPositive (m : Nat) (q : Int) : Nat × Int :=
  let (a, b) := if 0 ≤ q then (m <<< q.toNat, 1) else (m, 1 <<< (-q).toNat)
  let p := floorLog10 a b
  let exact : Nat × Int := if 0 ≤ q then (a, 0) else (m * Nat.pow 5 (-q).toNat, q)
  let (c, e) := ((List.range 17).findSome? fun i => nearestOfLength m q a b p (i + 1)).getD exact
  stripZeros c e (digitCount c)

/-- The significant digits of a finite non-zero double's shortest decimal and the exponent
of its leading digit. -/
def digitsAndPoint (m : Nat) (q : Int) : String × Int :=
  let (c, e) := shortestPositive m q
  let ds := toString c
  (ds, e + ds.length - 1)

/-- Zeros. -/
def zeros (n : Nat) : String := String.ofList (List.replicate n '0')

/-- Positional text of digits whose leading digit has exponent `point`. -/
def positional (ds : String) (point : Int) : String :=
  if point < 0 then "0." ++ zeros (point.natAbs - 1) ++ ds
  else
    let whole := point.toNat + 1
    if ds.length ≤ whole then ds ++ zeros (whole - ds.length)
    else String.ofList (ds.toList.take whole) ++ "." ++ String.ofList (ds.toList.drop whole)

/-- Text of digits whose leading digit has exponent `point`, with an exponent: a point after
the first digit if more follow, then `e`, the sign and at least two digits. -/
def withExponent (ds : String) (point : Int) : String :=
  let mantissa :=
    if ds.length = 1 then ds
    else String.ofList (ds.toList.take 1) ++ "." ++ String.ofList (ds.toList.drop 1)
  let en := toString point.natAbs
  mantissa ++ "e" ++ (if point < 0 then "-" else "+") ++ (if en.length < 2 then "0" ++ en else en)

/-- The sign prefix. -/
def sign (negative : Bool) : String := if negative then "-" else ""

/-- The text of a double in positional notation: the shortest decimal, with no point when
it is whole. -/
def fixedText : Double → String
  | .nan => "NaN"
  | .infinity negative => if negative then "-Inf" else "+Inf"
  | .finite negative 0 _ => sign negative ++ "0"
  | .finite negative m q =>
    let (ds, point) := digitsAndPoint m q
    sign negative ++ positional ds point

/-- The generic text of a double: the shortest decimal, positional when the exponent of
its leading digit is from -4 to 5, with an exponent otherwise. -/
def text : Double → String
  | .nan => "NaN"
  | .infinity negative => if negative then "-Inf" else "+Inf"
  | .finite negative 0 _ => sign negative ++ "0"
  | .finite negative m q =>
    let (ds, point) := digitsAndPoint m q
    if point < -4 ∨ 6 ≤ point then sign negative ++ withExponent ds point
    else sign negative ++ positional ds point

end Double
end LiveTail
