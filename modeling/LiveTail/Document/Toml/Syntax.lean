import LiveTail.Text.Printable
import LiveTail.Bytes.Utf8
/-!
# TOML syntax

The first stage of reading a TOML text: the text is cut into expressions, one a line,
each a `key = value` pair, a `[table]` header or an `[[array of tables]]` header, with
blank lines and comments between them. Values are kept as written where their meaning is
settled later: numbers and dates stay raw text, while strings are decoded here, since
their escapes are part of the syntax.

Strings are scanned to their end before their content is looked at, so a string that
does not end is reported before a bad escape inside it. A string without escapes whose
content holds a control character other than tab, line feed and carriage return is
refused as invalid UTF-8; with escapes, the same character is an invalid character.

Dates and numbers are told apart by their first characters: two digits and a colon, or
four digits and a dash, start a date or time; the rest is scanned as a number.

The reader works on the octets of the text, each octet a character below 256: the syntax
is all in ASCII, and a message that shows a character shows the octet found there, as a
code point. Strings and comments must hold well-formed UTF-8, checked as they are read;
the content of a string is decoded from its octets.
-/
namespace LiveTail.Document.Toml

/-- A failure, by its message. -/
abbrev Failure := String

/-- A failure of the reader. -/
def fail (message : String) : Except Failure α := .error ("toml: " ++ message)

/-- An octet as `U+0078 'x'`: its value as a code point, then that character when it is
printable. -/
def bytePoint (c : Char) : String :=
  let h := (String.ofList (Nat.toDigits 16 c.toNat)).toUpper
  let h := String.ofList (List.replicate (4 - h.length) '0') ++ h
  "U+" ++ h ++ (if Printable.isPrintable c then " '" ++ c.toString ++ "'" else "")

/-- Control characters that may not stand in strings and comments: all below space but
tab, line feed and carriage return, and delete. -/
def isBadControl (c : Char) : Bool :=
  let n := c.toNat
  n < 9 || n == 0x0B || n == 0x0C || (0x0E ≤ n && n ≤ 0x1F) || n == 0x7F

/-- The character whose octets start with `c` and go on in `rest`, with what follows
it; none when they are not well-formed or the character is a control character that may
not stand in text. -/
def validNext (c : Char) (rest : List Char) : Option (Char × List Char) :=
  if c.toNat < 0x80 then (if isBadControl c then none else some (c, rest))
  else (Utf8.frontChar? (c :: rest)).map fun (d, k) => (d, rest.drop k)

/-- What follows a well-formed character is no longer than what followed its first octet. -/
theorem validNext_length {c : Char} {rest after : List Char} {d : Char}
    (h : validNext c rest = some (d, after)) : after.length ≤ rest.length := by
  unfold validNext at h
  split at h
  · split at h
    · simp at h
    · simp only [Option.some.injEq, Prod.mk.injEq] at h
      obtain ⟨-, rfl⟩ := h
      exact Nat.le_refl _
  · obtain ⟨⟨e, k⟩, -, he⟩ := Option.map_eq_some_iff.1 h
    simp only [Prod.mk.injEq] at he
    obtain ⟨-, rfl⟩ := he
    simp only [List.length_drop]
    omega

/-- Whitespace inside a line. -/
def isBlank (c : Char) : Bool := c = ' ' || c = '\t'

/-- Drops whitespace inside a line. -/
def skipBlanks (cs : List Char) : List Char := cs.dropWhile isBlank

/-- A character of a bare key. -/
def isBareKey (c : Char) : Bool :=
  ('A' ≤ c && c ≤ 'Z') || ('a' ≤ c && c ≤ 'z') || ('0' ≤ c && c ≤ '9') || c = '-' || c = '_'

/-- An ASCII digit. -/
def isDigit (c : Char) : Bool := '0' ≤ c && c ≤ '9'

/-- The value of a hexadecimal digit. -/
def hexValue (c : Char) : Option Nat :=
  if isDigit c then some (c.toNat - 48)
  else if 'a' ≤ c ∧ c ≤ 'f' then some (c.toNat - 87)
  else if 'A' ≤ c ∧ c ≤ 'F' then some (c.toNat - 55)
  else none

/-- Requires a character. -/
def expect (x : Char) : List Char → Except Failure (List Char)
  | [] => fail ("expected character " ++ x.toString ++ " but the document ended here")
  | c :: rest => if c = x then .ok rest else fail ("expected character " ++ x.toString)

/-- Reads a line break: a line feed, or a carriage return and a line feed. -/
def newline : List Char → Except Failure (List Char)
  | '\n' :: rest => .ok rest
  | ['\r'] => fail "windows new line expected"
  | '\r' :: c :: rest => if c = '\n' then .ok rest else fail "windows new line should be \\r\\n"
  | c :: _ => fail ("expected newline but got " ++ bytePoint c)
  | [] => fail "windows new line expected"

/-- Reads a comment after its `#`, up to the line break, which is left; a carriage
return before the line feed belongs to the comment. -/
def comment : List Char → Except Failure (List Char)
  | [] => .ok []
  | '\n' :: rest => .ok ('\n' :: rest)
  | '\r' :: '\n' :: rest => .ok ('\n' :: rest)
  | c :: rest =>
    match h : validNext c rest with
    | none => fail "invalid character in comment"
    | some (_, after) =>
      have := validNext_length h
      comment after
termination_by cs => cs.length

/-- The code point written by `n` hexadecimal digits at the front. -/
def hexRune (n : Nat) (cs : List Char) : Except Failure Char :=
  let digits := cs.take n
  if digits.length < n then
    fail ("unicode point needs " ++ toString n ++ " character, not " ++ toString digits.length)
  else
    match digits.foldlM (fun acc c => (hexValue c).map (acc * 16 + ·)) 0 with
    | none => fail "non-hex character"
    | some v =>
      if 0x10FFFF < v ∨ (0xD800 ≤ v ∧ v < 0xE000) then
        fail "escape sequence is invalid Unicode code point"
      else .ok (Char.ofNat v)

/-- The character an escape stands for and what follows it: `c` comes after the
backslash, and `closing` is the string's closing delimiter, which a code point may run
into. -/
def escape (closing : List Char) (c : Char) (rest : List Char) : Except Failure (Char × List Char) :=
  match c with
  | '"' => .ok ('"', rest)
  | '\\' => .ok ('\\', rest)
  | 'b' => .ok ('\x08', rest)
  | 'f' => .ok ('\x0c', rest)
  | 'n' => .ok ('\n', rest)
  | 'r' => .ok ('\r', rest)
  | 't' => .ok ('\t', rest)
  | 'e' => .ok ('\x1b', rest)
  | 'u' => (hexRune 4 (rest ++ closing)).map fun r => (r, rest.drop 4)
  | 'U' => (hexRune 8 (rest ++ closing)).map fun r => (r, rest.drop 8)
  | _ => fail ("invalid escaped character " ++ bytePoint c)

/-- Decodes a string content without escapes, which must be well-formed and free of
control characters. -/
def plainContent (acc : List Char) : List Char → Except Failure String
  | [] => .ok (String.ofList acc.reverse)
  | c :: rest =>
    match h : validNext c rest with
    | none => fail "invalid UTF-8"
    | some (d, after) =>
      have := validNext_length h
      plainContent (d :: acc) after
termination_by cs => cs.length

/-- Decodes the content of a one-line basic string that has escapes; each step takes at
least one character, so the length bounds the steps. -/
def unescape (acc : List Char) : List Char → Nat → Except Failure String
  | [], _ | _, 0 => .ok (String.ofList acc.reverse)
  | '\\' :: c :: rest, fuel + 1 =>
    match escape ['"'] c rest with
    | .ok (e, rest) => unescape (e :: acc) rest fuel
    | .error f => .error f
  | c :: rest, fuel + 1 =>
    match validNext c rest with
    | none => fail ("invalid character " ++ bytePoint c)
    | some (d, after) => unescape (d :: acc) after fuel

/-- Finds the end of a one-line basic string after its opening quote: its content, whether
an escape appears, and what follows the closing quote. A backslash takes the next
character with it, whatever it is. -/
def scanBasic (acc : List Char) (escaped : Bool) : List Char → Except Failure (List Char × Bool × List Char)
  | [] => fail "basic string not terminated by \""
  | '"' :: rest => .ok (acc.reverse, escaped, rest)
  | '\n' :: _ | '\r' :: _ => fail "basic strings cannot have new lines"
  | ['\\'] => fail "need a character after \\"
  | '\\' :: c :: rest => scanBasic (c :: '\\' :: acc) true rest
  | c :: rest => scanBasic (c :: acc) escaped rest

/-- Reads a one-line basic string after its opening quote. -/
def basicString (cs : List Char) : Except Failure (String × List Char) := do
  let (body, escaped, rest) ← scanBasic [] false cs
  let s ← if escaped then unescape [] body (body.length + 1) else plainContent [] body
  pure (s, rest)

/-- Reads a literal string after its opening quote. -/
def literalString (acc : List Char) : List Char → Except Failure (String × List Char)
  | [] => fail "unterminated literal string"
  | '\'' :: rest => .ok (String.ofList acc.reverse, rest)
  | '\n' :: _ | '\r' :: _ => fail "literal strings cannot have new lines"
  | c :: rest =>
    match h : validNext c rest with
    | none => fail "invalid character"
    | some (d, after) =>
      have := validNext_length h
      literalString (d :: acc) after
termination_by cs => cs.length

/-- Drops one line break right after an opening delimiter. -/
def dropFirstNewline : List Char → List Char
  | '\n' :: r => r
  | '\r' :: '\n' :: r => r
  | cs => cs

/-- Up to two quotes right after a closing delimiter belong to the content, the delimiter
being the last three; a third is refused. -/
def closingQuotes (q : Char) (message : String) (acc : List Char) (rest : List Char) :
    Except Failure (List Char × List Char) :=
  match rest with
  | a :: b :: c :: r =>
    if a = q ∧ b = q then
      if c = q then fail message else .ok ((q :: q :: acc).reverse, c :: r)
    else if a = q then .ok ((q :: acc).reverse, b :: c :: r)
    else .ok (acc.reverse, rest)
  | [a, b] =>
    if a = q ∧ b = q then .ok ((q :: q :: acc).reverse, [])
    else if a = q then .ok ((q :: acc).reverse, [b])
    else .ok (acc.reverse, rest)
  | [a] => if a = q then .ok ((q :: acc).reverse, []) else .ok (acc.reverse, rest)
  | [] => .ok (acc.reverse, [])

/-- Finds the end of a multi-line basic string after its opening delimiter: its content,
whether an escape appears, and what follows. A carriage return must come with a line
feed. -/
def scanMultiBasic (acc : List Char) (escaped : Bool) : List Char → Except Failure (List Char × Bool × List Char)
  | [] => fail "multiline basic string not terminated by \"\"\""
  | '"' :: '"' :: '"' :: rest =>
    (closingQuotes '"' "\"\"\" not allowed in multiline basic string" acc rest).map
      fun (body, rest) => (body, escaped, rest)
  | ['\\'] => fail "need a \\ after content"
  | '\\' :: c :: rest => scanMultiBasic (c :: '\\' :: acc) true rest
  | '\r' :: '\n' :: rest => scanMultiBasic ('\n' :: '\r' :: acc) escaped rest
  | '\r' :: _ => fail "need a \\n after \\r"
  | c :: rest => scanMultiBasic (c :: acc) escaped rest

/-- Whitespace and line breaks. -/
def isSpaceOrBreak (c : Char) : Bool := isBlank c || c = '\n' || c = '\r'

/-- Decodes the content of a multi-line basic string that has escapes. A backslash that
ends a line, blanks after it allowed, removes the line break and all whitespace and line
breaks after it. -/
def unescapeMulti (acc : List Char) : List Char → Nat → Except Failure String
  | [], _ | _, 0 => .ok (String.ofList acc.reverse)
  | '\\' :: rest, fuel + 1 =>
    match rest.dropWhile fun c => isBlank c || c = '\r' with
    | '\n' :: after => unescapeMulti acc (after.dropWhile isSpaceOrBreak) fuel
    | _ =>
      match rest with
      | c :: rest =>
        match escape ['"', '"', '"'] c rest with
        | .ok (e, rest) => unescapeMulti (e :: acc) rest fuel
        | .error f => .error f
      | [] => fail "need a \\ after content"
  | c :: rest, fuel + 1 =>
    match validNext c rest with
    | none => fail ("invalid character " ++ bytePoint c)
    | some (d, after) => unescapeMulti (d :: acc) after fuel

/-- Reads a multi-line basic string after its opening delimiter; a line break right after
the delimiter is dropped. -/
def multiBasicString (cs : List Char) : Except Failure (String × List Char) := do
  let (body, escaped, rest) ← scanMultiBasic [] false cs
  let body := dropFirstNewline body
  let s ← if escaped then unescapeMulti [] body (body.length + 1) else plainContent [] body
  pure (s, rest)

/-- Finds the end of a multi-line literal string after its opening delimiter, its
characters decoded. -/
def scanMultiLiteral (acc : List Char) : List Char → Except Failure (List Char × List Char)
  | [] => fail "multiline literal string not terminated by '''"
  | '\'' :: '\'' :: '\'' :: rest => closingQuotes '\'' "''' not allowed in multiline literal string" acc rest
  | '\r' :: '\n' :: rest => scanMultiLiteral ('\n' :: '\r' :: acc) rest
  | '\r' :: _ => fail "need a \\n after \\r"
  | c :: rest =>
    match h : validNext c rest with
    | none => fail "invalid character"
    | some (d, after) =>
      have := validNext_length h
      scanMultiLiteral (d :: acc) after
termination_by cs => cs.length

/-- Reads a multi-line literal string after its opening delimiter; a line break right
after the delimiter is dropped. -/
def multiLiteralString (cs : List Char) : Except Failure (String × List Char) :=
  (scanMultiLiteral [] cs).map fun (body, rest) => (String.ofList (dropFirstNewline body), rest)

/-- Reads one part of a key. -/
def simpleKey (cs : List Char) : Except Failure (String × List Char) :=
  match cs with
  | [] => fail "expected key but found none"
  | '\'' :: rest => literalString [] rest
  | '"' :: rest => basicString rest
  | c :: _ =>
    if isBareKey c then .ok (String.ofList (cs.takeWhile isBareKey), cs.dropWhile isBareKey)
    else fail ("invalid character at start of key: " ++ c.toString)

/-- Reads the parts of a key after its first, each after a dot; blanks around the dots
are dropped, and so are those after the key. -/
def keyParts (acc : List String) (cs : List Char) : Nat → Except Failure (List String × List Char)
  | 0 => .ok (acc.reverse, skipBlanks cs)
  | fuel + 1 =>
    match skipBlanks cs with
    | '.' :: rest =>
      match simpleKey (skipBlanks rest) with
      | .ok (k, rest) => keyParts (k :: acc) rest fuel
      | .error f => .error f
    | rest => .ok (acc.reverse, rest)

/-- Reads a key: parts joined by dots. -/
def key (cs : List Char) : Except Failure (List String × List Char) := do
  let (k, rest) ← simpleKey cs
  keyParts [k] rest (rest.length + 1)

/-- The kinds of dates and times. -/
inductive Stamp where
  | localDate
  | localTime
  | localDateTime
  | dateTime
  deriving DecidableEq, Repr

/-- A value as written: strings decoded, numbers and dates as raw text. -/
inductive Syntax where
  | text (s : String)
  | bool (b : Bool)
  | integer (raw : List Char)
  | float (raw : List Char)
  | stamp (kind : Stamp) (raw : List Char)
  | array (items : List Syntax)
  | inline (pairs : List (List String × Syntax))
  deriving Repr, Inhabited

/-- An expression of a document. -/
inductive Expression where
  | pair (key : List String) (value : Syntax)
  | table (key : List String)
  | arrayTable (key : List String)
  deriving Repr

/-- Whether the text starts with a word. -/
def follows (word : String) (cs : List Char) : Bool := word.toList.isPrefixOf cs

/-- Characters of a prefixed integer in a base: its digits and underscores. -/
def isBaseDigit (base : Char) (c : Char) : Bool :=
  c = '_' || match base with
    | 'x' => (hexValue c).isSome
    | 'o' => '0' ≤ c && c ≤ '7'
    | _ => c = '0' || c = '1'

/-- The general scan of a number: digits, signs, underscores, points and exponent
letters, which make it a float, and an `inf` or `nan` that ends it. -/
def scanGeneral (cs : List Char) : Except Failure (Syntax × List Char) :=
  let isPart (c : Char) := isDigit c || c = '+' || c = '-' || c = '_' || c = '.' || c = 'e' || c = 'E'
  let front := cs.takeWhile isPart
  let rest := cs.dropWhile isPart
  match rest with
  | 'i' :: _ =>
    if follows "inf" rest then .ok (.float (front ++ ['i', 'n', 'f']), rest.drop 3)
    else fail "unexpected character 'i' while scanning for a number"
  | 'n' :: _ =>
    if follows "nan" rest then .ok (.float (front ++ ['n', 'a', 'n']), rest.drop 3)
    else fail "unexpected character 'n' while scanning for a number"
  | _ =>
    if front.isEmpty then fail "incomplete number"
    else if front.any (fun c => c = '.' || c = 'e' || c = 'E') then .ok (.float front, rest)
    else .ok (.integer front, rest)

/-- Scans a number. A zero followed by a base letter takes the digits of that base, and a
zero followed by anything else but a point or exponent is the number zero, when more
follows; otherwise the general scan applies. -/
def scanNumber (cs : List Char) : Except Failure (Syntax × List Char) :=
  match cs with
  | '0' :: b :: c :: more =>
    if b = '.' ∨ b = 'e' ∨ b = 'E' then scanGeneral cs
    else if b = 'x' ∨ b = 'o' ∨ b = 'b' then
      let digits := (c :: more).takeWhile (isBaseDigit b)
      .ok (.integer ('0' :: b :: digits), (c :: more).dropWhile (isBaseDigit b))
    else .ok (.integer ['0'], b :: c :: more)
  | _ => scanGeneral cs

/-- The kind of a date or time from what its text holds: a time part, a date part, and
an offset. -/
def stampKind (date time zone : Bool) : Stamp :=
  if time then (if date then (if zone then .dateTime else .localDateTime) else .localTime)
  else .localDate

/-- Scans a date or time: digits, dashes, colons, points, `T`, `Z` and plus signs; one
space followed by a digit may separate date and time, and the character after that digit
is then taken unlooked at. A dash from the ninth character on is an offset, and so are a
plus sign and a `Z`, whatever follows them. -/
def scanStamp (i : Nat) (date time zone space : Bool) : List Char → List Char → Syntax × List Char
  | acc, [] => (.stamp (stampKind date time zone) acc.reverse, [])
  | acc, c :: rest =>
    if isDigit c then scanStamp (i + 1) date time zone space (c :: acc) rest
    else if c = '-' then scanStamp (i + 1) true time (zone || 8 ≤ i) space (c :: acc) rest
    else if c = 'T' ∨ c = 't' ∨ c = ':' ∨ c = '.' then scanStamp (i + 1) date true zone space (c :: acc) rest
    else if c = '+' then scanStamp (i + 1) date time true space (c :: acc) rest
    else if c = 'Z' ∨ c = 'z' then scanStamp (i + 1) date time true space (c :: acc) rest
    else if c = ' ' then
      match rest with
      | d :: more =>
        if !space && isDigit d then
          match more with
          | e :: more => scanStamp (i + 3) date true zone true (e :: d :: c :: acc) more
          | [] => (.stamp (stampKind date true zone) (d :: c :: acc).reverse, [])
        else (.stamp (stampKind date time zone) acc.reverse, c :: rest)
      | [] => (.stamp (stampKind date time zone) acc.reverse, c :: rest)
    else (.stamp (stampKind date time zone) acc.reverse, c :: rest)

/-- Reads a number, a date or time, or an infinity or not-a-number. -/
def numberOrStamp (cs : List Char) : Except Failure (Syntax × List Char) :=
  match cs with
  | 'i' :: _ => if follows "inf" cs then .ok (.float ['i', 'n', 'f'], cs.drop 3) else fail "expected 'inf'"
  | 'n' :: _ => if follows "nan" cs then .ok (.float ['n', 'a', 'n'], cs.drop 3) else fail "expected 'nan'"
  | '+' :: _ | '-' :: _ => scanNumber cs
  | _ =>
    let front := cs.take 5
    let idx := front.findIdx fun c => !isDigit c
    match front[idx]? with
    | some c =>
      if 3 ≤ cs.length ∧ ((idx = 2 ∧ c = ':') ∨ (idx = 4 ∧ c = '-')) then .ok (scanStamp 0 false false false false [] cs)
      else scanNumber cs
    | none => scanNumber cs

/-- Skips whitespace, comments and line breaks. -/
def skipLines (cs : List Char) : Nat → Except Failure (List Char)
  | 0 => .ok cs
  | fuel + 1 => do
    let cs := skipBlanks cs
    let cs ← match cs with
      | '#' :: rest => comment rest
      | _ => pure cs
    match cs with
    | '\n' :: _ | '\r' :: _ => skipLines (← newline cs) fuel
    | _ => pure cs

mutual

/-- Reads a value. -/
def value (cs : List Char) : Nat → Except Failure (Syntax × List Char)
  | 0 => fail "expected value, not eof"
  | fuel + 1 =>
    match cs with
    | [] => fail "expected value, not eof"
    | '"' :: '"' :: '"' :: rest => (multiBasicString rest).map fun (s, r) => (.text s, r)
    | '"' :: rest => (basicString rest).map fun (s, r) => (.text s, r)
    | '\'' :: '\'' :: '\'' :: rest => (multiLiteralString rest).map fun (s, r) => (.text s, r)
    | '\'' :: rest => (literalString [] rest).map fun (s, r) => (.text s, r)
    | 't' :: _ => if follows "true" cs then .ok (.bool true, cs.drop 4) else fail "expected 'true'"
    | 'f' :: _ => if follows "false" cs then .ok (.bool false, cs.drop 5) else fail "expected 'false'"
    | '[' :: rest => array rest [] true fuel
    | '{' :: rest => inline rest [] true fuel
    | _ => numberOrStamp cs

/-- Reads array items after the opening bracket; whitespace, comments and line breaks
may stand around items and commas, and a comma may follow the last item. -/
def array (cs : List Char) (acc : List Syntax) (first : Bool) : Nat → Except Failure (Syntax × List Char)
  | 0 => fail "array is incomplete"
  | fuel + 1 =>
    if cs.isEmpty then do
      let rest ← expect ']' cs
      pure (.array acc.reverse, rest)
    else do
      let cs ← skipLines cs (cs.length + 1)
      match cs with
      | [] => fail "array is incomplete"
      | ']' :: rest => pure (.array acc.reverse, rest)
      | c :: more =>
        let cs ← if c = ',' then
            if first then fail "array cannot start with comma" else skipLines more (more.length + 1)
          else if !first then fail "array elements must be separated by commas"
          else pure cs
        match cs with
        | ']' :: rest => pure (.array acc.reverse, rest)
        | _ =>
          let (v, cs) ← value cs fuel
          let cs ← skipLines cs (cs.length + 1)
          array cs (v :: acc) false fuel

/-- Reads the pairs of an inline table after the opening brace, separated by commas, all
on one line. -/
def inline (cs : List Char) (acc : List (List String × Syntax)) (first : Bool) :
    Nat → Except Failure (Syntax × List Char)
  | 0 => fail "inline table is incomplete"
  | fuel + 1 =>
    if cs.isEmpty then do
      let rest ← expect '}' cs
      pure (.inline acc.reverse, rest)
    else
      match skipBlanks cs with
      | [] => fail "inline table is incomplete"
      | '}' :: rest => .ok (.inline acc.reverse, rest)
      | r => do
        let r ← if first then pure r else (expect ',' r).map skipBlanks
        let (k, v, r) ← pair r fuel
        inline r ((k, v) :: acc) false fuel

/-- Reads a `key = value` pair. -/
def pair (cs : List Char) : Nat → Except Failure (List String × Syntax × List Char)
  | 0 => fail "expected value, not eof"
  | fuel + 1 => do
    let (k, r) ← key cs
    if r.isEmpty then fail "expected = after a key, but the document ends there"
    let r ← expect '=' r
    let (v, r) ← value (skipBlanks r) fuel
    pure (k, v, r)

end

/-- Reads a table header after its opening bracket, or an array-of-tables header after
its two. -/
def header (double : Bool) (cs : List Char) : Except Failure (Expression × List Char) := do
  let (k, r) ← key (skipBlanks cs)
  let r ← expect ']' (skipBlanks r)
  if double then
    let r ← expect ']' r
    pure (.arrayTable k, r)
  else pure (.table k, r)

/-- Reads an expression, if the line holds one, and the comment after it. -/
def expression (cs : List Char) : Except Failure (Option Expression × List Char) := do
  let cs := skipBlanks cs
  match cs with
  | [] => pure (none, [])
  | '#' :: rest => pure (none, ← comment rest)
  | '\n' :: _ | '\r' :: _ => pure (none, cs)
  | _ => do
    let (e, r) ← match cs with
      | '[' :: '[' :: rest => header true rest
      | '[' :: rest => header false rest
      | _ => do
        let (k, v, r) ← pair cs (cs.length + 1)
        pure (Expression.pair k v, r)
    match skipBlanks r with
    | '#' :: rest => pure (some e, ← comment rest)
    | r => pure (some e, r)

end LiveTail.Document.Toml
