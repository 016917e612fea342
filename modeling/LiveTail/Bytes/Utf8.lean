/-!
# UTF-8 octet sequences

Which octet sequences are well-formed UTF-8 (RFC 3629: no overlong form, no surrogate,
nothing above U+10FFFF), and how octets read as text when some are not: every octet that
starts no well-formed sequence reads as U+FFFD, one replacement per octet. Tailed bytes
become text this way wherever text is all the output can hold. Stream decoders replace
instead each longest start of a sequence that goes no further by one U+FFFD.
-/
namespace LiveTail.Utf8

/-- A continuation octet, `10xxxxxx`, whose payload lies between `lo` and `hi`. -/
def tailIn (lo hi : UInt8) : Option UInt8 → Option Nat
  | some b => if lo ≤ b ∧ b ≤ hi then some (b.toNat % 64) else none
  | none => none

/-- The character that a well-formed sequence starting at `i` encodes, with the number of
continuation octets after the first. -/
def charAt? (b : ByteArray) (i : Nat) : Option (Char × Nat) :=
  match b[i]? with
  | none => none
  | some b0 =>
    let n := b0.toNat
    let t1 (lo hi : UInt8) := tailIn lo hi b[i + 1]?
    let t2 := tailIn 0x80 0xBF b[i + 2]?
    let t3 := tailIn 0x80 0xBF b[i + 3]?
    if n < 0x80 then some (Char.ofNat n, 0)
    else if 0xC2 ≤ n ∧ n ≤ 0xDF then
      (t1 0x80 0xBF).map fun x => (Char.ofNat ((n % 32) * 64 + x), 1)
    else if 0xE0 ≤ n ∧ n ≤ 0xEF then
      let lo : UInt8 := if n = 0xE0 then 0xA0 else 0x80
      let hi : UInt8 := if n = 0xED then 0x9F else 0xBF
      match t1 lo hi, t2 with
      | some x, some y => some (Char.ofNat ((n % 16) * 4096 + x * 64 + y), 2)
      | _, _ => none
    else if 0xF0 ≤ n ∧ n ≤ 0xF4 then
      let lo : UInt8 := if n = 0xF0 then 0x90 else 0x80
      let hi : UInt8 := if n = 0xF4 then 0x8F else 0xBF
      match t1 lo hi, t2, t3 with
      | some x, some y, some z =>
        some (Char.ofNat ((n % 8) * 262144 + x * 4096 + y * 64 + z), 3)
      | _, _, _ => none
    else none

/-- Every octet from `i` on belongs to a well-formed sequence. -/
def validFrom (b : ByteArray) (i : Nat) : Bool :=
  if i < b.size then
    match charAt? b i with
    | some (_, k) => validFrom b (i + k + 1)
    | none => false
  else true
termination_by b.size - i

/-- The octets are well-formed UTF-8. -/
def valid (b : ByteArray) : Bool := validFrom b 0

/-- Reads the octets from `i` on onto `acc`, one U+FFFD per octet that starts no
well-formed sequence. -/
def readFrom (b : ByteArray) (i : Nat) (acc : String) : String :=
  if i < b.size then
    match charAt? b i with
    | some (c, k) => readFrom b (i + k + 1) (acc.push c)
    | none => readFrom b (i + 1) (acc.push '�')
  else acc
termination_by b.size - i

/-- The octets as text, one U+FFFD per octet that starts no well-formed sequence. -/
def read (b : ByteArray) : String := readFrom b 0 ""

/-- How many octets after the first at `i` still begin a well-formed sequence there, when
the sequence as a whole is not one: the continuation octets before the first that cannot
continue it. -/
def subpartTail (b : ByteArray) (i : Nat) : Nat :=
  let n := (b[i]?.getD 0).toNat
  let fits (lo hi : UInt8) (j : Nat) : Bool := (tailIn lo hi b[j]?).isSome
  if 0xE0 ≤ n ∧ n ≤ 0xEF then
    let lo : UInt8 := if n = 0xE0 then 0xA0 else 0x80
    let hi : UInt8 := if n = 0xED then 0x9F else 0xBF
    if fits lo hi (i + 1) then 1 else 0
  else if 0xF0 ≤ n ∧ n ≤ 0xF4 then
    let lo : UInt8 := if n = 0xF0 then 0x90 else 0x80
    let hi : UInt8 := if n = 0xF4 then 0x8F else 0xBF
    if !fits lo hi (i + 1) then 0 else if !fits 0x80 0xBF (i + 2) then 1 else 2
  else 0

/-- Reads the octets from `i` on onto `acc`, one U+FFFD for each longest start of a
well-formed sequence that does not go on to complete it. -/
def readSubpartsFrom (b : ByteArray) (i : Nat) (acc : String) : String :=
  if i < b.size then
    match charAt? b i with
    | some (c, k) => readSubpartsFrom b (i + k + 1) (acc.push c)
    | none => readSubpartsFrom b (i + subpartTail b i + 1) (acc.push '�')
  else acc
termination_by b.size - i

/-- The octets as text, one U+FFFD for each longest start of a well-formed sequence that
goes no further, as stream decoders replace them: `E2 82 41` reads as U+FFFD and `A`. -/
def readSubparts (b : ByteArray) : String := readSubpartsFrom b 0 ""

/-- Reads the octets from `i` on onto `acc` as `readFrom` does, each character marked by
whether it replaces an octet that starts no well-formed sequence. -/
def markFrom (b : ByteArray) (i : Nat) (acc : Array (Char × Bool)) : Array (Char × Bool) :=
  if i < b.size then
    match charAt? b i with
    | some (c, k) => markFrom b (i + k + 1) (acc.push (c, false))
    | none => markFrom b (i + 1) (acc.push ('�', true))
  else acc
termination_by b.size - i

/-- The characters of `read`, each marked by whether it replaces a stray octet. -/
def marked (b : ByteArray) : List (Char × Bool) := (markFrom b 0 #[]).toList

/-- The octets, each as the character of its value, for readers that work on octets. -/
def octetChars (b : ByteArray) : List Char := b.toList.map fun o => Char.ofNat o.toNat

/-- Characters below 256 as the octets of their values. -/
def ofOctetChars (cs : List Char) : ByteArray := ⟨(cs.map fun c => c.toNat.toUInt8).toArray⟩

/-- The character that octet characters start with, when they start a well-formed
sequence, with the number of octets after the first. -/
def frontChar? (cs : List Char) : Option (Char × Nat) := charAt? (ofOctetChars (cs.take 4)) 0

end LiveTail.Utf8
