/-!
# Base64

The standard alphabet of RFC 4648 with `=` padding. Lines that are not UTF-8 travel in
this form, so that every octet survives a text channel.
-/
namespace LiveTail.Base64

/-- The 64 digits, in value order. -/
def alphabet : Array Char :=
  "ABCDEFGHIJKLMNOPQRSTUVWXYZabcdefghijklmnopqrstuvwxyz0123456789+/".toList.toArray

/-- The digit of a six-bit value. -/
def digit (v : Nat) : Char := alphabet.getD (v % 64) 'A'

/-- The value of a digit. -/
def value? (c : Char) : Option Nat :=
  if 'A' ≤ c ∧ c ≤ 'Z' then some (c.toNat - 'A'.toNat)
  else if 'a' ≤ c ∧ c ≤ 'z' then some (c.toNat - 'a'.toNat + 26)
  else if '0' ≤ c ∧ c ≤ '9' then some (c.toNat - '0'.toNat + 52)
  else if c = '+' then some 62
  else if c = '/' then some 63
  else none

/-- Encodes the octets from `i` on, three at a time. -/
def encodeFrom (b : ByteArray) (i : Nat) (acc : String) : String :=
  if i < b.size then
    let x := (b[i]?.getD 0).toNat
    let y := (b[i + 1]?.getD 0).toNat
    let z := (b[i + 2]?.getD 0).toNat
    let w := x * 65536 + y * 256 + z
    let acc := (acc.push (digit (w / 262144))).push (digit (w / 4096))
    let acc := acc.push (if i + 1 < b.size then digit (w / 64) else '=')
    let acc := acc.push (if i + 2 < b.size then digit w else '=')
    encodeFrom b (i + 3) acc
  else acc
termination_by b.size - i

/-- The padded standard encoding. -/
def encode (b : ByteArray) : String := encodeFrom b 0 ""

/-- Decodes groups of four digits; the last group may end in one or two `=`. -/
def decodeDigits : List Char → ByteArray → Option ByteArray
  | [], acc => some acc
  | [a, b, '=', '='], acc => do
    let w := (← value? a) * 64 + (← value? b)
    if w % 16 = 0 then some (acc.push (w / 16).toUInt8) else none
  | [a, b, c, '='], acc => do
    let w := ((← value? a) * 64 + (← value? b)) * 64 + (← value? c)
    if w % 4 = 0 then some ((acc.push (w / 1024).toUInt8).push (w / 4 % 256).toUInt8) else none
  | a :: b :: c :: d :: rest, acc => do
    let w := (((← value? a) * 64 + (← value? b)) * 64 + (← value? c)) * 64 + (← value? d)
    decodeDigits rest (((acc.push (w / 65536).toUInt8).push (w / 256 % 256).toUInt8).push
      (w % 256).toUInt8)
  | _, _ => none

/-- The octets of a padded standard encoding, or none for any other text. -/
def decode? (s : String) : Option ByteArray := decodeDigits s.toList ByteArray.empty

end LiveTail.Base64
