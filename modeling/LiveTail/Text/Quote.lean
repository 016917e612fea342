import LiveTail.Text.Printable
import LiveTail.Bytes.Utf8
/-!
# Quoted text in messages

Messages show a piece of user text between double quotes, escaped as in a double-quoted
string literal: quote and backslash behind a backslash, the named control escapes,
`\xHH` for other ASCII controls, `\uHHHH` or `\UHHHHHHHH` for the other characters that
are not printable (separators, format characters, private use, unassigned code points).
Printable characters are copied. Quoted octets show each octet that starts no well-formed
UTF-8 sequence as `\xHH`.
-/
namespace LiveTail.Quote

/-- Lower-case hexadecimal digits of `n`, at least `width` of them. -/
def hex (width n : Nat) : String :=
  let ds := Nat.toDigits 16 n
  String.ofList (List.replicate (width - ds.length) '0' ++ ds)

/-- Appends one character in escaped form. -/
def pushEscaped (acc : String) (c : Char) : String :=
  match c with
  | '"' => acc ++ "\\\""
  | '\\' => acc ++ "\\\\"
  | '\x07' => acc ++ "\\a"
  | '\x08' => acc ++ "\\b"
  | '\x0c' => acc ++ "\\f"
  | '\n' => acc ++ "\\n"
  | '\r' => acc ++ "\\r"
  | '\t' => acc ++ "\\t"
  | '\x0b' => acc ++ "\\v"
  | _ =>
    if Printable.isPrintable c then acc.push c
    else if c.toNat < 0x80 then acc ++ "\\x" ++ hex 2 c.toNat
    else if c.toNat < 0x10000 then acc ++ "\\u" ++ hex 4 c.toNat
    else acc ++ "\\U" ++ hex 8 c.toNat

/-- The text between double quotes, escaped. -/
def quote (s : String) : String := (s.foldl pushEscaped "\"").push '"'

/-- Appends the octets from `i` on in escaped form. -/
def pushOctetsFrom (b : ByteArray) (i : Nat) (acc : String) : String :=
  if i < b.size then
    match Utf8.charAt? b i with
    | some (c, k) => pushOctetsFrom b (i + k + 1) (pushEscaped acc c)
    | none => pushOctetsFrom b (i + 1) (acc ++ "\\x" ++ hex 2 (b[i]?.getD 0).toNat)
  else acc
termination_by b.size - i

/-- Octets between double quotes, escaped, stray octets by their values. -/
def quoteOctets (b : ByteArray) : String := (pushOctetsFrom b 0 "\"").push '"'

/-- Whether a text can stand between backquotes as it is: it holds no backquote, no
control character but tab, no delete and no byte order mark. -/
def canBackquote (s : String) : Bool :=
  s.all fun c => c ≠ '\x60' ∧ c ≠ '\x7f' ∧ c ≠ '\uFEFF' ∧ (c.toNat ≥ 0x20 ∨ c = '\t')

/-- The text between backquotes when it can stand there, else between double quotes. -/
def quoteRaw (s : String) : String := if canBackquote s then "\x60" ++ s ++ "\x60" else quote s

end LiveTail.Quote
