/-!
# Doubles

Binary floating-point numbers of double precision: a sign and `m · 2 ^ q` with a
significand `m` below `2 ^ 53`, or an infinity, or not a number. A number is normal when
`2 ^ 52 ≤ m`; below that only the least exponent `-1074` is used, which gives the
subnormal numbers and the two zeros.

A decimal becomes the double nearest to it, a tie going to the even significand. A
magnitude of at least the largest double plus half its spacing becomes an infinity, and
one of at most half the least positive double becomes a zero; both keep the sign.

A double becomes an integer by dropping its fraction; as a 64-bit integer, every value out
of that range (infinities and not-a-number included) gives the least 64-bit integer.
-/
namespace LiveTail

/-- A double-precision binary floating-point number. -/
inductive Double where
  /-- `± significand · 2 ^ exponent`. -/
  | finite (negative : Bool) (significand : Nat) (exponent : Int)
  | infinity (negative : Bool)
  | nan
  deriving DecidableEq, Repr, Inhabited

namespace Double

/-- The bits of a significand. -/
def precision : Nat := 53

/-- The exponent of subnormal numbers and zeros: the unit of the least positive double. -/
def minExponent : Int := -1074

/-- The exponent of the largest doubles. -/
def maxExponent : Int := 971

/-- The least exponent of a normal number's leading bit. -/
def minNormalPower : Int := -1022

/-- A zero of a sign. -/
def zero (negative : Bool) : Double := .finite negative 0 minExponent

/-- `⌊log₂ (a / b)⌋` for positive `a` and `b`: the estimate from the bit lengths is at
most one too large. -/
def floorLog2 (a b : Nat) : Int :=
  let k : Int := (a.log2 : Int) - b.log2
  if k ≥ 0 then (if b <<< k.toNat ≤ a then k else k - 1)
  else (if b ≤ a <<< (-k).toNat then k else k - 1)

/-- `num / den` rounded to the nearest natural number, a tie to the even one. -/
def roundHalfEven (num den : Nat) : Nat :=
  let q := num / den
  let r := num % den
  if den < 2 * r ∨ (2 * r = den ∧ q % 2 = 1) then q + 1 else q

/-- The double nearest to `± a / b`. The significand is taken at the exponent that gives
the leading bit its 53 places, or at the subnormal exponent; a carry into a 54th bit moves
the exponent up by one. -/
def ofRatio (negative : Bool) (a b : Nat) : Double :=
  if a = 0 ∨ b = 0 then zero negative
  else
    let q := max (floorLog2 a b) minNormalPower - (precision - 1 : Nat)
    let (num, den) := if 0 ≤ q then (a, b <<< q.toNat) else (a <<< (-q).toNat, b)
    let m := roundHalfEven num den
    let (m, q) := if m = Nat.pow 2 precision then (Nat.pow 2 (precision - 1), q + 1) else (m, q)
    if maxExponent < q then .infinity negative else .finite negative m q

/-- The number of decimal digits of a positive number. -/
def digitCount (n : Nat) : Nat := (toString n).length

/-- The double nearest to `± digits · 10 ^ exponent`. A leading digit beyond the 309th
place is an infinity and one before the 326th place after the point is a zero, so the
exact arithmetic stays within a few hundred digits. -/
def ofDecimal (negative : Bool) (digits : Nat) (exponent : Int) : Double :=
  if digits = 0 then zero negative
  else
    let lead := (digitCount digits : Int) - 1 + exponent
    if 309 < lead then .infinity negative
    else if lead < -325 then zero negative
    else if 0 ≤ exponent then ofRatio negative (digits * Nat.pow 10 exponent.toNat) 1
    else ofRatio negative digits (Nat.pow 10 (-exponent).toNat)

/-- The double nearest to an integer. -/
def ofInt (n : Int) : Double := ofDecimal (n < 0) n.natAbs 0

/-- Whether a double is a zero. -/
def isZero : Double → Bool
  | .finite _ 0 _ => true
  | _ => false

/-- Whether a double is an infinity. -/
def isInfinite : Double → Bool
  | .infinity _ => true
  | _ => false

/-- The integer part of a finite double, rounded toward zero. -/
def truncate : Double → Option Int
  | .finite negative m q =>
    let n : Nat := if 0 ≤ q then m <<< q.toNat else m >>> (-q).toNat
    some (if negative then -(n : Int) else n)
  | _ => none

/-- The double nearest to the product of two doubles; not a number unless both are
finite. -/
def mul : Double → Double → Double
  | .finite n₁ m₁ q₁, .finite n₂ m₂ q₂ =>
    let q := q₁ + q₂
    if 0 ≤ q then ofRatio (n₁ != n₂) (m₁ * m₂ <<< q.toNat) 1
    else ofRatio (n₁ != n₂) (m₁ * m₂) (1 <<< (-q).toNat)
  | _, _ => .nan

/-- The least 64-bit integer. -/
def int64Min : Int := -9223372036854775808

/-- The double as a 64-bit integer, by truncation; out of range it gives the least 64-bit
integer. -/
def toInt64 (d : Double) : Int :=
  match d.truncate with
  | some n => if int64Min ≤ n ∧ n < -int64Min then n else int64Min
  | none => int64Min

end Double
end LiveTail
