import LiveTail.Bytes.Utf8
/-!
# JSON string literals

The string literals of the host's output lines. Markup-sensitive characters (`<`, `>`, `&`)
and the two line separators U+2028 and U+2029 are escaped, so a line can be embedded in a
web page as it is; quote, backslash and control characters are escaped as JSON requires;
an octet that starts no UTF-8 sequence is written as the escape of U+FFFD. Everything
else is copied.
-/
namespace LiveTail.Json

/-- Four lower-case hexadecimal digits of `n % 65536`. -/
def hex4 (n : Nat) : String :=
  let d (k : Nat) : Char := Nat.digitChar (n / k % 16)
  String.ofList [d 4096, d 256, d 16, d 1]

/-- Appends the escaped form of one character. -/
def pushChar (acc : String) (c : Char) : String :=
  match c with
  | '"' => acc ++ "\\\""
  | '\\' => acc ++ "\\\\"
  | '\n' => acc ++ "\\n"
  | '\r' => acc ++ "\\r"
  | '\t' => acc ++ "\\t"
  | '<' | '>' | '&' | ' ' | ' ' => acc ++ "\\u" ++ hex4 c.toNat
  | _ => if c.toNat < 0x20 then acc ++ "\\u" ++ hex4 c.toNat else acc.push c

/-- Appends the escaped octets from `i` on. -/
def pushFrom (b : ByteArray) (i : Nat) (acc : String) : String :=
  if i < b.size then
    match Utf8.charAt? b i with
    | some (c, k) => pushFrom b (i + k + 1) (pushChar acc c)
    | none => pushFrom b (i + 1) (acc ++ "\\ufffd")
  else acc
termination_by b.size - i

/-- The literal of an octet string, quotes included. -/
def quoteBytes (b : ByteArray) : String := (pushFrom b 0 "\"").push '"'

/-- The literal of a text. -/
def quote (s : String) : String := (s.foldl pushChar "\"").push '"'

/-- An object from its members, each a key and the literal of its value, in the order
given. -/
def object (members : List (String × String)) : String :=
  "\x7b" ++ ",".intercalate (members.map fun (k, v) => quote k ++ ":" ++ v) ++ "\x7d"

end LiveTail.Json
