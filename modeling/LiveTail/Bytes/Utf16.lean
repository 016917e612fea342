/-!
# UTF-16 octet sequences

How octets read as UTF-16 text in a given byte order, as the usual stream decoder reads
them. Each pair of octets is a code unit. A leading surrogate followed by a trailing one
is one character; a surrogate followed by anything else reads as U+FFFD alone, and a
single octet left at the end reads as U+FFFD. The decoder looks ahead only for a trailing
surrogate, so a trailing surrogate followed by another one takes both into one U+FFFD.
-/
namespace LiveTail.Utf16

/-- The code unit of the two octets at `i`, low octet first when `little`. -/
def unitAt (b : ByteArray) (little : Bool) (i : Nat) : Nat :=
  let x := (b[i]?.getD 0).toNat
  let y := (b[i + 1]?.getD 0).toNat
  if little then y * 256 + x else x * 256 + y

/-- A surrogate code unit, leading or trailing. -/
def isSurrogate (u : Nat) : Bool := 0xD800 ≤ u && u ≤ 0xDFFF

/-- A leading surrogate. -/
def isLead (u : Nat) : Bool := 0xD800 ≤ u && u ≤ 0xDBFF

/-- A trailing surrogate. -/
def isTrail (u : Nat) : Bool := 0xDC00 ≤ u && u ≤ 0xDFFF

/-- The character at `i`, and how many octets it takes after its first. -/
def charAt (b : ByteArray) (little : Bool) (i : Nat) : Char × Nat :=
  if i + 1 < b.size then
    let u := unitAt b little i
    if isSurrogate u then
      let v := unitAt b little (i + 2)
      if i + 3 < b.size ∧ isTrail v then
        (if isLead u then Char.ofNat (0x10000 + (u - 0xD800) * 0x400 + (v - 0xDC00)) else '�', 3)
      else ('�', 1)
    else (Char.ofNat u, 1)
  else ('�', 0)

/-- Reads the octets from `i` on onto `acc`. -/
def readFrom (b : ByteArray) (little : Bool) (i : Nat) (acc : String) : String :=
  if i < b.size then
    let (c, k) := charAt b little i
    readFrom b little (i + k + 1) (acc.push c)
  else acc
termination_by b.size - i

/-- The octets as UTF-16 text, low octet first when `little`. -/
def read (little : Bool) (b : ByteArray) : String := readFrom b little 0 ""

end LiveTail.Utf16
