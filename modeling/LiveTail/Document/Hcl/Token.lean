import LiveTail.Text.Letter
/-!
# HCL tokens

The scanner of the HCL configuration language cuts a text into tokens: identifiers
(letters, digits, `_`, `-` and `.`, where `true` and `false` are truth values), numbers
(decimal, octal after a leading `0`, hexadecimal after `0x`, decimals with a fraction or an
exponent), strings in double quotes (where `${ … }` may hold quotes), heredocs
(`<<EOF` … `EOF`), comments (`#`, `//`, `/* … */`) and the punctuation `[ ] { } , . = + -`.

Each token knows where it starts as line and column, counted from one. The scanner reads
one character at a time and may step back one; a read past the end still moves the column
on, which is where the end token and late errors are placed. A problem does not stop the
scanner: it is recorded with the place of the last character read, and the reader of the
tokens reports the latest one.

Every loop reads a character or stops at the end, so the length of the text bounds it.
-/
namespace LiveTail.Document.Hcl

/-- The kinds of token. -/
inductive Kind where
  | illegal
  | eof
  | comment
  | ident
  | number
  | float
  | bool
  | string
  | lbrack
  | lbrace
  | comma
  | period
  | heredoc
  | rbrack
  | rbrace
  | assign
  | add
  | sub
  | null
  | colon
  deriving DecidableEq, Repr

/-- The name of a kind in messages. -/
def Kind.name : Kind → String
  | .illegal => "ILLEGAL"
  | .eof => "EOF"
  | .comment => "COMMENT"
  | .ident => "IDENT"
  | .number => "NUMBER"
  | .float => "FLOAT"
  | .bool => "BOOL"
  | .string => "STRING"
  | .lbrack => "LBRACK"
  | .lbrace => "LBRACE"
  | .comma => "COMMA"
  | .period => "PERIOD"
  | .heredoc => "HEREDOC"
  | .rbrack => "RBRACK"
  | .rbrace => "RBRACE"
  | .assign => "ASSIGN"
  | .add => "ADD"
  | .sub => "SUB"
  | .null => "NULL"
  | .colon => "COLON"

/-- A place in the text; line zero stands for no place. -/
structure Pos where
  line : Nat := 0
  column : Nat := 0
  deriving DecidableEq, Repr

/-- A place as messages show it: `line:column`, or `-` for no place. -/
def Pos.text (p : Pos) : String :=
  if p.line > 0 then toString p.line ++ ":" ++ toString p.column else "-"

/-- A token: its kind, where it starts and its text. A token made from a JSON document
holds a string's value rather than its quoted text. -/
structure Token where
  kind : Kind := .illegal
  pos : Pos := {}
  text : String := ""
  json : Bool := false
  deriving Repr

/-- A token as messages show it: place, kind and text. -/
def Token.shown (t : Token) : String := t.pos.text ++ " " ++ t.kind.name ++ " " ++ t.text

/-- Where the scanner stands: characters read, line, and column of the last character. -/
structure Mark where
  index : Nat := 0
  line : Nat := 1
  column : Nat := 0
  deriving DecidableEq, Repr

/-- The scanner over a text. -/
structure Reader where
  src : Array Char
  now : Mark := {}
  /-- Where it stood before the last character, to step back to. -/
  before : Mark := {}
  /-- The columns of the last line ended. -/
  lastLineLen : Nat := 0
  /-- Whether the last read found a character (rather than the end). -/
  readChar : Bool := false
  /-- Problems met, the latest first. -/
  problems : List (Pos × String) := []
  /-- Whether the text is read as JSON, where a NUL character reads as the end without
  a problem. -/
  json : Bool := false
  /-- Which characters stand for an octet that starts no well-formed UTF-8 sequence;
  reading one is a problem. -/
  stray : Array Bool := #[]
  /-- Why the scanner crashed, if it did: stepping back over the end of the text. -/
  crash : Option String := none
  deriving Repr

namespace Reader

/-- The place of the last character read, for a problem. -/
def recent (r : Reader) : Pos :=
  if r.now.column > 0 then ⟨r.now.line, r.now.column⟩
  else if r.lastLineLen > 0 then ⟨r.now.line - 1, r.lastLineLen⟩
  else ⟨1, 1⟩

/-- Records a problem at the last character read. -/
def fail (r : Reader) (msg : String) : Reader := { r with problems := (r.recent, msg) :: r.problems }

/-- The one character a text may not hold outside JSON, kept for the reader's own use. -/
def reservedChar : Char := '\uE123'

/-- Reads one character; `none` at the end, where the column still moves on. A stray
octet is a problem and reads as U+FFFD. A NUL character reads as the end; outside JSON it
is a problem too, and so is the reserved character, which then reads as U+FFFD. -/
def next (r : Reader) : Option Char × Reader :=
  match r.src[r.now.index]? with
  | none => (none, { r with now := { r.now with column := r.now.column + 1 }, readChar := false })
  | some c =>
    let now : Mark := { r.now with index := r.now.index + 1, column := r.now.column + 1 }
    let r := { r with before := r.now, now, readChar := true }
    let r := if c = '\n' then { r with lastLineLen := now.column, now := { now with line := now.line + 1, column := 0 } } else r
    if r.stray[r.before.index]?.getD false then (some c, r.fail "illegal UTF-8 encoding")
    else if c = '\x00' then
      if r.json then (none, r) else (none, r.fail "unexpected null character (0x00)")
    else if c = reservedChar ∧ !r.json then
      (some '\uFFFD', r.fail "unicode code point U+E123 reserved for internal use")
    else (some c, r)

/-- Steps back over the last character read. -/
def unread (r : Reader) : Reader := { r with now := r.before }

/-- The reason of a crash: stepping back when the last read found the end. -/
def unreadAtEnd : String := "bytes.Buffer: UnreadRune: previous operation was not a successful ReadRune"

/-- Steps back over the last character read, crashing when the last read found the end
instead of a character. -/
def unreadOrCrash (r : Reader) : Reader :=
  if r.readChar then r.unread
  else { r with crash := r.crash <|> some unreadAtEnd }

/-- The next character, not read. -/
def peek (r : Reader) : Option Char := r.src[r.now.index]?

/-- Whitespace between tokens. -/
def isWhitespace (c : Char) : Bool := c = ' ' || c = '\t' || c = '\n' || c = '\r'

/-- A letter: ASCII letters, the underscore, and the letters beyond ASCII. -/
def isLetter (c : Char) : Bool :=
  ('a' ≤ c && c ≤ 'z') || ('A' ≤ c && c ≤ 'Z') || c = '_' || (c.toNat ≥ 0x80 && Letter.isLetter c)

/-- A decimal digit. -/
def isDecimal (c : Char) : Bool := '0' ≤ c && c ≤ '9'

/-- A digit of any script: names may hold them, though numbers are ASCII. -/
def isDigit (c : Char) : Bool := isDecimal c || (c.toNat ≥ 0x80 && Letter.isDigit c)

/-- A hexadecimal digit. -/
def isHexadecimal (c : Char) : Bool :=
  isDecimal c || ('a' ≤ c && c ≤ 'f') || ('A' ≤ c && c ≤ 'F')

/-- The value of a hexadecimal digit; 16 for any other character. -/
def digitVal (c : Char) : Nat :=
  if isDecimal c then c.toNat - 48
  else if 'a' ≤ c && c ≤ 'f' then c.toNat - 87
  else if 'A' ≤ c && c ≤ 'F' then c.toNat - 55
  else 16

/-- Whether an optional character passes a test. -/
def is (c : Option Char) (p : Char → Bool) : Bool := match c with
  | some c => p c
  | none => false

/-- Reads characters while they pass a test; the first that does not is read too. -/
def readWhile (p : Char → Bool) : Option Char → Reader → Nat → Option Char × Reader
  | c, r, 0 => (c, r)
  | c, r, fuel + 1 => if is c p then let (c, r) := r.next; readWhile p c r fuel else (c, r)

/-- Reads the rest of a run of decimal digits that starts with `c`, stepping back over
the character after it. -/
def mantissa (c : Option Char) (r : Reader) : Option Char × Reader :=
  if is c isDecimal then
    let (c, r) := readWhile isDecimal c r (r.src.size + 1)
    (c, if c.isSome then r.unread else r)
  else (c, r)

/-- Reads an exponent after `e` or `E` (already read as `c`): a sign and digits. -/
def exponent (c : Option Char) (r : Reader) : Option Char × Reader :=
  if c = some 'e' ∨ c = some 'E' then
    let (c, r) := r.next
    let (c, r) := if c = some '-' ∨ c = some '+' then r.next else (c, r)
    mantissa c r
  else (c, r)

/-- Reads a fraction after a point: its digits, looked at before they are read. -/
def fraction (c : Option Char) (r : Reader) : Option Char × Reader :=
  if c = some '.' then mantissa r.peek r else (c, r)

/-- Reads a number whose first digit `c` was read: its kind. -/
def number (c : Char) (r : Reader) : Kind × Reader :=
  if c = '0' then
    let (c, r) := r.next
    if c = some 'x' ∨ c = some 'X' then
      let (c, r) := r.next
      let found := is c isHexadecimal
      let (c, r) := readWhile isHexadecimal c r (r.src.size + 1)
      let r := if found then r else r.fail "illegal hexadecimal number"
      (.number, if c.isSome then r.unread else r)
    else
      -- digits after the zero; an 8 or 9 read after a digit makes an octal number bad
      let rec octal (c : Option Char) (r : Reader) (bad : Bool) : Nat → Option Char × Reader × Bool
        | 0 => (c, r, bad)
        | fuel + 1 =>
          if is c isDecimal then
            let (c, r) := r.next
            octal c r (bad || c = some '8' || c = some '9') fuel
          else (c, r, bad)
      let (c, r, bad) := octal c r false (r.src.size + 1)
      if c = some 'e' ∨ c = some 'E' then (.float, (exponent c r).2)
      else if c = some '.' then
        let (c, r) := fraction c r
        if c = some 'e' ∨ c = some 'E' then
          let (c, r) := r.next
          (.float, (exponent c r).2)
        else (.float, r)
      else
        let r := if bad then r.fail "illegal octal number" else r
        (.number, if c.isSome then r.unread else r)
  else
    let (_, r) := mantissa (some c) r
    let (c, r) := r.next
    if c = some 'e' ∨ c = some 'E' then (.float, (exponent c r).2)
    else if c = some '.' then
      let (c, r) := fraction c r
      if c = some 'e' ∨ c = some 'E' then
        let (c, r) := r.next
        (.float, (exponent c r).2)
      else (.float, r)
    else (.number, if c.isSome then r.unread else r)

/-- Reads the rest of an identifier. -/
def identifier (r : Reader) : Reader :=
  let (c, r) := r.next
  let (c, r) := readWhile (fun c => isLetter c || isDigit c || c = '-' || c = '.') c r (r.src.size + 1)
  if c.isSome then r.unread else r

/-- Reads up to `n` digits of a base in an escape, the first being `c`; too few is a
problem. The character after the digits is put back. Outside JSON the end stops the
digits at once and nothing is put back when no digit was read; in JSON each character read
counts, and the last one read is always put back, which crashes at the end of the text. -/
def digits (c : Option Char) (base n : Nat) (r : Reader) : Reader :=
  let rec go (c : Option Char) (r : Reader) (left : Nat) : Nat → Option Char × Reader × Nat
    | 0 => (c, r, left)
    | fuel + 1 =>
      if left > 0 ∧ is c (fun c => digitVal c < base) then
        let (c, r) := r.next
        if c.isNone ∧ !r.json then (c, r, left) else go c r (left - 1) fuel
      else (c, r, left)
  let (c, r, left) := go c r n (n + 1)
  let r := if left > 0 then r.fail "illegal char escape" else r
  if r.json then r.unreadOrCrash
  else if left ≠ n ∧ c.isSome then r.unread else r

/-- Reads an escape after a backslash. -/
def escape (r : Reader) : Reader :=
  let (c, r) := r.next
  match c with
  | some 'a' | some 'b' | some 'f' | some 'n' | some 'r' | some 't' | some 'v' | some '\\' | some '"' => r
  | some '0' | some '1' | some '2' | some '3' | some '4' | some '5' | some '6' | some '7' => digits c 8 3 r
  | some 'x' => let (c, r) := r.next; digits c 16 2 r
  | some 'u' => let (c, r) := r.next; digits c 16 4 r
  | some 'U' => let (c, r) := r.next; digits c 16 8 r
  | _ => r.fail "illegal char escape"

/-- Reads the rest of a string after its opening quote. Inside `${ … }` quotes and line
breaks do not end it, except in JSON. -/
def string (r : Reader) : Reader :=
  let rec go (r : Reader) (braces : Nat) : Nat → Reader
    | 0 => r
    | fuel + 1 =>
      let (c, r) := r.next
      match c with
      | none => r.fail "literal not terminated"
      | some c =>
        if c = '\n' ∧ (braces = 0 ∨ r.json) then r.fail "literal not terminated"
        else if c = '"' ∧ (braces = 0 ∨ r.json) then r
        else
          let (braces, r) :=
            if braces = 0 ∧ c = '$' ∧ r.peek = some '{' then (braces + 1, r.next.2)
            else if braces > 0 ∧ c = '{' then (braces + 1, r)
            else (braces, r)
          let braces := if braces > 0 ∧ c = '}' then braces - 1 else braces
          let r := if c = '\\' then escape r else r
          go r braces fuel
  go r 0 (r.src.size + 1)

/-- Reads the rest of a comment that starts with `c`: to the end of the line after `#` or
`//`, to `*/` after `/*`. -/
def comment (c : Char) (r : Reader) : Reader :=
  if c = '#' ∨ (c = '/' ∧ r.peek ≠ some '*') then
    if c = '/' ∧ r.peek ≠ some '/' then r.fail "expected '/' for comment"
    else
      let (c, r) := r.next
      let (c, r) := readWhile (· ≠ '\n') c r (r.src.size + 1)
      if c.isSome then r.unread else r
  else
    let (_, r) := r.next
    let (c, r) := r.next
    let rec go (c : Option Char) (r : Reader) : Nat → Reader
      | 0 => r
      | fuel + 1 =>
        match c with
        | none => r.fail "comment not terminated"
        | some c0 =>
          let (c, r) := r.next
          if c0 = '*' ∧ c = some '/' then r else go c r fuel
    go c r (r.src.size + 1)

/-- Whether a line ends a heredoc: blanks, the anchor, and carriage returns. -/
def closesHeredoc (anchor line : List Char) : Bool :=
  let rest := line.dropWhile fun c => c = ' ' || c = '\t' || c = '\n' || c = '\r' || c = '\x0b' || c = '\x0c'
  rest.take anchor.length == anchor && (rest.drop anchor.length).all (· = '\r')

/-- Reads the rest of a heredoc after its first `<`: the anchor on the first line, then
lines up to one that holds the anchor alone, and its line feed. -/
def heredoc (r : Reader) : Reader :=
  let (c, r) := r.next
  if c ≠ some '<' then r.fail "heredoc expected second '<', didn't see it"
  else
    let start := r.now.index
    let (c, r) := r.next
    let (c, r) := if c = some '-' then r.next else (c, r)
    let (c, r) := readWhile (fun c => isLetter c || isDigit c) c r (r.src.size + 1)
    if c.isNone then r.fail "heredoc not terminated"
    else
      let (c, r) := if c = some '\r' ∧ r.peek = some '\n' then r.next else (c, r)
      if c ≠ some '\n' then r.fail "invalid characters in heredoc anchor"
      else
        let ident := (r.src.extract start (r.now.index - 1)).toList
        if ident.isEmpty ∨ ident = ['-'] then r.fail "zero-length heredoc anchor"
        else
          let anchor := if ident.head? = some '-' then ident.drop 1 else ident
          let rec go (r : Reader) (lineStart : Nat) : Nat → Reader
            | 0 => r
            | fuel + 1 =>
              let (c, r) := r.next
              if c = some '\n' then
                let line := (r.src.extract lineStart (r.now.index - 1)).toList
                if line.length ≥ ident.length ∧ closesHeredoc anchor line then r
                else go r r.now.index fuel
              else if c.isNone then r.fail "heredoc not terminated"
              else go r lineStart fuel
          go r r.now.index (r.src.size + 1)

/-- Skips whitespace and reads the first character after it. -/
def skipSpace (r : Reader) : Option Char × Reader :=
  let (c, r) := r.next
  readWhile isWhitespace c r (r.src.size + 1)

/-- Scans the next token. -/
def scan (r : Reader) : Token × Reader :=
  let (c, r) := r.skipSpace
  let start := if r.readChar then r.now.index - 1 else r.now.index
  let pos : Pos := if r.now.column > 0 then ⟨r.now.line, r.now.column⟩ else ⟨r.now.line - 1, r.lastLineLen⟩
  let (kind, r) : Kind × Reader := match c with
    | none => (.eof, r)
    | some c =>
      if isLetter c then (.ident, identifier r)
      else if isDecimal c then number c r
      else match c with
        | '"' => (.string, string r)
        | '#' | '/' => (.comment, comment c r)
        | '.' =>
          if is r.peek isDecimal then
            let (c, r) := mantissa r.peek r
            (.float, (exponent c r).2)
          else (.period, r)
        | '<' => (.heredoc, heredoc r)
        | '[' => (.lbrack, r)
        | ']' => (.rbrack, r)
        | '{' => (.lbrace, r)
        | '}' => (.rbrace, r)
        | ',' => (.comma, r)
        | '=' => (.assign, r)
        | '+' => (.add, r)
        | '-' =>
          if is r.peek isDecimal then
            match r.next with
            | (some d, r) => number d r
            | (none, r) => (.sub, r)
          else (.sub, r)
        | _ => (.illegal, r.fail "illegal char")
  let text := String.ofList (r.src.extract start r.now.index).toList
  let kind := if kind = .ident ∧ (text = "true" ∨ text = "false") then .bool else kind
  ({ kind, pos, text }, r)

end Reader
end LiveTail.Document.Hcl
