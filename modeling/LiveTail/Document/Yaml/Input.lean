import LiveTail.Document.Yaml.Token
/-!
# The characters of a YAML stream

A stream is UTF-8 unless it starts with a byte order mark of UTF-16, little or big
endian; a byte order mark is dropped. Every character must be printable: tab, line feed,
carriage return, ASCII from space to tilde, next line, and the rest of Unicode from
U+00A0 on except surrogates, U+FFFE and U+FFFF. The first byte that breaks these rules
is reported, without a place.

The decoder reads the stream in chunks of 512 octets, and only when the scanner needs a
character it does not have yet; each time it decodes every whole character of the chunk,
and a character cut by the chunk's end waits for the next one. A bad octet is therefore
reported only when the scanner asks for more characters than the chunks before it gave,
so a fault the scanner meets earlier is reported instead.
-/
namespace LiveTail.Document.Yaml

/-- Whether a code point may stand in a stream. -/
def isAllowed (n : Nat) : Bool :=
  n == 0x09 || n == 0x0A || n == 0x0D || (0x20 ≤ n && n ≤ 0x7E) || n == 0x85
    || (0xA0 ≤ n && n ≤ 0xD7FF) || (0xE000 ≤ n && n ≤ 0xFFFD) || (0x10000 ≤ n && n ≤ 0x10FFFF)

/-- A failure of the bytes, which has no place. -/
def readerFailure (problem : String) : Failure :=
  { fromScanner := false, context := none, problem, place := {} }

/-- The characters of a stream as the scanner receives them: those decoded before the
decoder failed, and the failure, if it did. -/
structure Stream where
  chars : Array Char
  failure : Option Failure := none

/-- How many octets the decoder reads at a time. -/
def chunkSize : Nat := 512

/-- A decoding pass: how many characters the passes before it delivered, and the octet
where its chunk ends. A pass decodes every character whose octets lie in its chunk; the
next chunk starts at the first octet left over. -/
structure Pass where
  before : Nat := 0
  ends : Nat := chunkSize

/-- The pass that decodes a character at octet `i` which needs `need` octets, when
`decoded` characters come before it: this one when the octets are in its chunk, else the
next, whose chunk starts at `i` (at the end of the stream, the pass that finds it ended). -/
def Pass.reach (p : Pass) (size i need decoded : Nat) : Pass :=
  if i + need ≤ min p.ends size then p else { before := decoded, ends := i + chunkSize }

/-- The stream when pass `p` fails: the characters of the passes before it. -/
def Pass.fail (p : Pass) (acc : Array Char) (problem : String) : Stream :=
  { chars := acc.extract 0 p.before, failure := some (readerFailure problem) }

/-- The byte at an index, zero past the end. -/
def byteAt (b : ByteArray) (i : Nat) : Nat := (b[i]?.map (·.toNat)).getD 0

/-- Decodes UTF-8 from an index: the lead byte gives the length, the following bytes must
continue it, the value must need that length, be a Unicode scalar value and be allowed. -/
def utf8From (b : ByteArray) (i : Nat) (p : Pass) (acc : Array Char) : Nat → Stream
  | 0 => { chars := acc }
  | fuel + 1 =>
    if b.size ≤ i then { chars := acc }
    else
      let lead := byteAt b i
      let width := if lead < 0x80 then 1 else if lead / 32 = 6 then 2 else if lead / 16 = 14 then 3
        else if lead / 8 = 30 then 4 else 0
      if width = 0 then (p.reach b.size i 1 acc.size).fail acc "invalid leading UTF-8 octet"
      else
        let p := p.reach b.size i width acc.size
        if b.size < i + width then p.fail acc "incomplete UTF-8 octet sequence"
        else
          let first := if width = 1 then lead else if width = 2 then lead % 32 else if width = 3 then lead % 16 else lead % 8
          let trail := (List.range (width - 1)).map fun k => byteAt b (i + 1 + k)
          if trail.any (· / 64 ≠ 2) then p.fail acc "invalid trailing UTF-8 octet"
          else
            let v := trail.foldl (fun v t => v * 64 + t % 64) first
            if !(width = 1 ∨ (width = 2 ∧ 0x80 ≤ v) ∨ (width = 3 ∧ 0x800 ≤ v) ∨ (width = 4 ∧ 0x10000 ≤ v)) then
              p.fail acc "invalid length of a UTF-8 sequence"
            else if (0xD800 ≤ v ∧ v ≤ 0xDFFF) ∨ 0x10FFFF < v then p.fail acc "invalid Unicode character"
            else if !isAllowed v then p.fail acc "control characters are not allowed"
            else utf8From b (i + width) p (acc.push (Char.ofNat v)) fuel

/-- Decodes UTF-16 from an index, little endian when `little`: a surrogate pair makes one
character; a low surrogate first, or a high one without a low one after it, is refused. -/
def utf16From (b : ByteArray) (little : Bool) (i : Nat) (p : Pass) (acc : Array Char) : Nat → Stream
  | 0 => { chars := acc }
  | fuel + 1 =>
    if b.size ≤ i then { chars := acc }
    else
      let p := p.reach b.size i 2 acc.size
      if b.size < i + 2 then p.fail acc "incomplete UTF-16 character"
      else
        let unit (j : Nat) := if little then byteAt b j + 256 * byteAt b (j + 1) else 256 * byteAt b j + byteAt b (j + 1)
        let v := unit i
        if v / 1024 = 0x37 then p.fail acc "unexpected low surrogate area"
        else if v / 1024 = 0x36 then
          let p := p.reach b.size i 4 acc.size
          if b.size < i + 4 then p.fail acc "incomplete UTF-16 surrogate pair"
          else
            let w := unit (i + 2)
            if w / 1024 ≠ 0x37 then p.fail acc "expected low surrogate area"
            else
              let n := 0x10000 + (v % 1024) * 1024 + w % 1024
              if !isAllowed n then p.fail acc "control characters are not allowed"
              else utf16From b little (i + 4) p (acc.push (Char.ofNat n)) fuel
        else if !isAllowed v then p.fail acc "control characters are not allowed"
        else utf16From b little (i + 2) p (acc.push (Char.ofNat v)) fuel

/-- The characters of a stream's bytes, as far as the scanner receives them. -/
def decodeStream (b : ByteArray) : Stream :=
  if byteAt b 0 = 0xFF ∧ byteAt b 1 = 0xFE ∧ 2 ≤ b.size then utf16From b true 2 {} #[] b.size
  else if byteAt b 0 = 0xFE ∧ byteAt b 1 = 0xFF ∧ 2 ≤ b.size then utf16From b false 2 {} #[] b.size
  else if byteAt b 0 = 0xEF ∧ byteAt b 1 = 0xBB ∧ byteAt b 2 = 0xBF ∧ 3 ≤ b.size then utf8From b 3 {} #[] b.size
  else utf8From b 0 {} #[] b.size

end LiveTail.Document.Yaml
