import LiveTail.Document.Value
import LiveTail.Bytes.Utf8
import LiveTail.Bytes.Utf16
/-!
# Dotenv documents

A dotenv document assigns texts to names, one assignment a line: `NAME=value`,
`NAME: value` or `export NAME=value`, with `#` comments. A name is letters, digits,
underscores and dots. A value in double quotes may span lines and knows the escapes `\n`
and `\r`, replaced first wherever they stand, and a backslash before any other character
but `$`; a value in single quotes is taken as written. Outside single quotes `$NAME` and
`${NAME}` are replaced by the variable's value (from the environment first, then from the
names assigned above), and `\$` is a plain dollar sign.

A document that starts with a UTF-8 byte order mark is read as UTF-8 after it, each
longest broken start of a sequence one U+FFFD; one that starts with a UTF-16 byte order
mark is read as UTF-16 in that order. Lines break at a line feed, a carriage return or
both; a line longer than 65535 octets ends the reading with a problem. Lines are trimmed
of Unicode white space, but within a line the assignment pattern knows only ASCII blanks.
A quote left open at the end is refused, and so is a line that is no assignment.
-/
namespace LiveTail.Document.Dotenv

/-- Whitespace as the assignment pattern knows it. -/
def isSpace (c : Char) : Bool := c = ' ' || c = '\t' || c = '\n' || c = '\r' || c = '\x0c'

/-- Whitespace as the Unicode standard counts it, which trimming removes. -/
def isUnicodeSpace (c : Char) : Bool :=
  let n := c.toNat
  (9 ≤ n && n ≤ 13) || n == 32 || n == 0x85 || n == 0xA0 || n == 0x1680
    || (0x2000 ≤ n && n ≤ 0x200A) || n == 0x2028 || n == 0x2029 || n == 0x202F
    || n == 0x205F || n == 0x3000

/-- A character of a name. -/
def isNameChar (c : Char) : Bool := c.isAlphanum || c = '_' || c = '.'

/-- A text without the Unicode whitespace at both ends. -/
def trim (s : String) : String :=
  String.ofList ((s.toList.dropWhile isUnicodeSpace).reverse.dropWhile isUnicodeSpace).reverse

/-- The octets lines are cut from: after a UTF-8 byte order mark the rest read as UTF-8,
after a UTF-16 one the rest read as UTF-16 in its order, and otherwise the octets as they
are. -/
def decoded (data : ByteArray) : ByteArray :=
  let starts (mark : List UInt8) : Bool := data.toList.take mark.length == mark
  if starts [0xEF, 0xBB, 0xBF] then (Utf8.readSubparts (data.extract 3 data.size)).toUTF8
  else if starts [0xFF, 0xFE] then (Utf16.read true (data.extract 2 data.size)).toUTF8
  else if starts [0xFE, 0xFF] then (Utf16.read false (data.extract 2 data.size)).toUTF8
  else data

/-- The longest line the reading takes, in octets. -/
def maxLine : Nat := 65535

/-- The lines of octets: a carriage return, a line feed, or both in that order end one. -/
def lines (bs : List UInt8) (acc : List UInt8) : List (List UInt8) :=
  match bs with
  | [] => if acc.isEmpty then [] else [acc.reverse]
  | 13 :: 10 :: rest => acc.reverse :: lines rest []
  | 13 :: rest | 10 :: rest => acc.reverse :: lines rest []
  | b :: rest => lines rest (b :: acc)

/-- The lines of a document as text, up to the first one longer than `maxLine`, and
whether there is such a line. -/
def textLines (data : ByteArray) : List String × Bool :=
  let (short, long) := (lines (decoded data).toList []).span (·.length ≤ maxLine)
  (short.map fun l => Utf8.read ⟨l.toArray⟩, !long.isEmpty)

/-- Whether what is left after a value is blanks and maybe a comment to the end. -/
def isTail (cs : List Char) : Bool :=
  match cs.dropWhile isSpace with
  | [] => true
  | '#' :: rest => !rest.contains '\n'
  | _ => false

/-- The longest quoted value at the front that leaves a valid tail: from the opening
quote to the last closing quote that does. -/
def quotedValue (q : Char) (cs : List Char) : Option (List Char × List Char) :=
  match cs with
  | c :: rest =>
    if c = q then
      let ends := (List.range rest.length).reverse.filter fun i => rest[i]? = some q ∧ isTail (rest.drop (i + 1))
      ends.head?.map fun i => (q :: rest.take (i + 1), rest.drop (i + 1))
    else none
  | [] => none

/-- The unquoted value at the front: up to a `#` or a line feed, shortened until a valid
tail follows. -/
def plainValue (cs : List Char) : Option (List Char × List Char) :=
  let run := cs.takeWhile fun c => c ≠ '#' ∧ c ≠ '\n'
  let cuts := (List.range run.length).reverse.filter fun i => isTail (cs.drop (i + 1))
  cuts.head?.map fun i => (cs.take (i + 1), cs.drop (i + 1))

/-- Reads the separator after a name: blanks, `=` and blanks, or `:` and one blank. -/
def separator (cs : List Char) : List (List Char) :=
  let afterBlanks := cs.dropWhile isSpace
  let byEquals := match afterBlanks with
    | '=' :: rest =>
      -- every way of taking blanks after the sign, most first
      let blanks := (rest.takeWhile isSpace).length
      (List.range (blanks + 1)).reverse.map fun k => rest.drop k
    | _ => []
  let byColon := match cs with
    | ':' :: c :: rest => if isSpace c then [rest] else []
    | _ => []
  byEquals ++ byColon

/-- Splits an assignment into its name and raw value, as the assignment pattern reads it. -/
def assignment (line : String) : Option (String × String) :=
  let cs := line.toList.dropWhile isSpace
  let afterExport := match cs with
    | 'e' :: 'x' :: 'p' :: 'o' :: 'r' :: 't' :: c :: rest =>
      if isSpace c then some ((c :: rest).dropWhile isSpace) else none
    | _ => none
  let attempt (cs : List Char) : Option (String × String) :=
    let name := cs.takeWhile isNameChar
    if name.isEmpty then none
    else
      (separator (cs.drop name.length)).findSome? fun rest =>
        let value := quotedValue '\'' rest <|> quotedValue '"' rest <|> plainValue rest
        match value with
        | some (v, _) => some (String.ofList name, String.ofList v)
        | none => if isTail rest then some (String.ofList name, "") else none
  (afterExport.bind attempt) <|> attempt cs

/-- Drops each backslash that stands before a character other than `$`, keeping the
character, from left to right. -/
def dropEscapes : List Char → List Char
  | '\\' :: c :: rest => if c = '$' then '\\' :: dropEscapes ('$' :: rest) else c :: dropEscapes rest
  | c :: rest => c :: dropEscapes rest
  | [] => []

/-- Undoes the escapes of a double-quoted value: first every `\n` in the text becomes a
line feed and then every `\r` a carriage return, wherever the backslash came from, and
then a backslash before any character but `$` goes. -/
def unescape (cs : List Char) : List Char :=
  dropEscapes (((String.ofList cs).replace "\\n" "\n").replace "\\r" "\r").toList

/-- A character of a variable name. -/
def isVariableChar (c : Char) : Bool := ('A' ≤ c && c ≤ 'Z') || c.isDigit || c = '_'

/-- The reference after a dollar sign: its name, its text, and what follows. -/
def reference (cs : List Char) : List Char × List Char × List Char :=
  let (openBrace, cs) := match cs with
    | '{' :: r => (['{'], r)
    | _ => ([], cs)
  let name := cs.takeWhile isVariableChar
  let cs := cs.dropWhile isVariableChar
  let (closeBrace, cs) := match cs with
    | '}' :: r => (['}'], r)
    | _ => ([], cs)
  (name, openBrace ++ name ++ closeBrace, cs)

/-- Replaces variables in a value: `$NAME` or `${NAME}`; `\$` stays a plain dollar sign,
and a dollar sign with no name stays as it is. Each step takes at least one character, so
the length bounds the steps. -/
def expand (lookup : String → Option String) (assigned : List (String × String)) (cs : List Char) :
    List Char :=
  go cs (cs.length + 1)
where
  /-- Replaces the variables of the rest, in at most `fuel` steps. -/
  go (cs : List Char) : Nat → List Char
    | 0 => cs
    | fuel + 1 =>
      match cs with
      | '\\' :: '$' :: rest =>
        let (_, body, after) := reference rest
        '$' :: body ++ go after fuel
      | '$' :: rest =>
        let (name, body, after) := reference rest
        if name.isEmpty then '$' :: body ++ go after fuel
        else
          let n := String.ofList name
          let value := (lookup n).getD ((assigned.lookup n).getD "")
          value.toList ++ go after fuel
      | c :: rest => c :: go rest fuel
      | [] => []

/-- The value of an assignment's raw value text. -/
def valueOf (lookup : String → Option String) (assigned : List (String × String)) (raw : String) :
    String :=
  let v := trim raw
  let cs := v.toList
  let singleQuoted := cs.length ≥ 2 ∧ cs.head? = some '\'' ∧ cs.getLast? = some '\''
  let doubleQuoted := cs.length ≥ 2 ∧ cs.head? = some '"' ∧ cs.getLast? = some '"'
  let inner := if singleQuoted ∨ doubleQuoted then (cs.drop 1).dropLast else cs
  if singleQuoted then String.ofList inner
  else
    let inner := if doubleQuoted then unescape inner else inner
    String.ofList (expand lookup assigned inner)

/-- The quote that opens a value and is left open on its line, if any. The closing quote
is the last one in the value after its opening quote, trimmed; it counts unless the octet
of the whole value at the same offset is a backslash, so that white space trimmed away
shifts which octet is looked at. -/
def opensQuote (line : String) : Option Char :=
  let cs := line.toList
  let sign := cs.findIdx? (· = '=') <|> cs.findIdx? (· = ':')
  match sign with
  | some i =>
    if 0 < i ∧ i < cs.length - 1 then
      let v := trim (String.ofList (cs.drop (i + 1)))
      match v.toList with
      | q :: rest =>
        if q = '"' ∨ q = '\'' then
          let inner := (trim (String.ofList rest)).toUTF8.toList
          match (List.range inner.length).reverse.find? (fun j => inner[j]? = some q.toNat.toUInt8) with
          | some j => if v.toUTF8.toList[j]? = some 92 then some q else none
          | none => some q
        else none
      | [] => none
    else none
  | none => none

/-- Whether a continuation line closes a quote: it holds the quote, not escaped. -/
def closesQuote (q : Char) (line : String) : Bool :=
  let cs := line.toList
  match cs.reverse.findIdx? (· = q) with
  | some j =>
    let k := cs.length - 1 - j
    !(k > 0 ∧ cs[k - 1]? = some '\\')
  | none => false

/-- Reads a dotenv document from its octets into entries, in the order the names were
first assigned. -/
def read (lookup : String → Option String) (data : ByteArray) : Except String (List (String × Value)) :=
  let (ls, tooLong) := textLines data
  go tooLong ls [] (ls.length + 1) |>.map fun es =>
    es.map fun (k, v) => (k, Value.text v)
where
  /-- Reads the assignments of the remaining lines; `tooLong` tells that a line too long
  for the reading follows them. -/
  go (tooLong : Bool) (ls : List String) (assigned : List (String × String)) :
      Nat → Except String (List (String × String))
    | 0 => .ok assigned
    | fuel + 1 =>
      match ls with
      | [] => if tooLong then .error "bufio.Scanner: token too long" else .ok assigned
      | l :: rest =>
        let line := trim l
        if line.isEmpty ∨ line.startsWith "#" then go tooLong rest assigned fuel
        else
          let (line, rest, unclosed) := match opensQuote line with
            | some q => gather q line rest
            | none => (line, rest, false)
          if unclosed then .error "missing quotes"
          else
            match assignment line with
            | some (name, raw) =>
              let v := valueOf lookup assigned raw
              let assigned := if assigned.any (·.1 == name)
                then assigned.map fun (k, w) => if k == name then (k, v) else (k, w)
                else assigned ++ [(name, v)]
              go tooLong rest assigned fuel
            | none =>
              let words := line.splitOn " "
              if line.startsWith "export" ∧ words.length > 1
                  ∧ !assigned.any (·.1 == " ".intercalate words.tail) then
                .error ("line " ++ "`" ++ line ++ "`" ++ " has an unset variable")
              else .error ("line " ++ "`" ++ line ++ "`" ++ " doesn't match format")
  /-- Joins the following lines to a value until its quote closes: the joined line, the
  lines left, and whether the quote stayed open. -/
  gather (q : Char) (line : String) : List String → String × List String × Bool
    | [] => (line, [], true)
    | l :: rest =>
      let line := line ++ "\n" ++ l
      if closesQuote q l then (line, rest, false) else gather q line rest

end LiveTail.Document.Dotenv
