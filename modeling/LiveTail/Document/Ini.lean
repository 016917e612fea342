import LiveTail.Document.Value
import LiveTail.Text.Quote
import LiveTail.Bytes.Utf8
/-!
# INI documents

An INI document is read line by line. Blank lines and lines starting with `#` or `;` are
skipped; `[name]` opens a section, the name running to the last `]`; any other line is a
key, up to the first `=` or `:`, and its value. Keys before the first section belong to
the section `DEFAULT`. A key may be quoted with `"`, `"""` or a backtick, and the key `-`
is numbered `#1`, `#2`, … within its section.

A value starting with `"""` or a backtick runs to the last such quote, over several lines
if it must. Any other value is trimmed; a final backslash joins the next lines, trimmed;
otherwise it is cut at the first `#` or `;` and trimmed again, and one pair of quotes
around it goes.

A byte order mark at the front, of UTF-8 or of either UTF-16, is skipped.

A value may name another key as `%(name)s`: the key of that name in its section or a
parent section (`a` is the parent of `a.b`), or else in `DEFAULT`, stands in its place,
at most 99 times over.

The sections become nested tables, split at dots, that hold their keys' values.
-/
namespace LiveTail.Document.Ini

/-- Whitespace as the Unicode standard counts it. -/
def isSpace (c : Char) : Bool :=
  let n := c.toNat
  (9 ≤ n && n ≤ 13) || n == 32 || n == 0x85 || n == 0xA0 || n == 0x1680
    || (0x2000 ≤ n && n ≤ 0x200A) || n == 0x2028 || n == 0x2029 || n == 0x202F
    || n == 0x205F || n == 0x3000

/-- A text without the whitespace at its front. -/
def trimLeft (cs : List Char) : List Char := cs.dropWhile isSpace

/-- A text without the whitespace at both ends. -/
def trim (cs : List Char) : List Char := (trimLeft cs).reverse.dropWhile isSpace |>.reverse

/-- The pieces of a text as a reader taking it up to each line feed sees them: every piece
but the last ends with its line feed, and the last, maybe empty, is what follows the last
line feed. -/
def pieces (cs : List Char) (acc : List Char) : List (List Char) :=
  match cs with
  | [] => [acc.reverse]
  | '\n' :: rest => ('\n' :: acc).reverse :: pieces rest []
  | c :: rest => pieces rest (c :: acc)

/-- Whether `pat` starts the text. -/
def startsWith (cs pat : List Char) : Bool := cs.take pat.length == pat

/-- The first place of `pat` in a text. -/
def indexOf (cs pat : List Char) : Option Nat :=
  (List.range (cs.length + 1)).find? fun i => startsWith (cs.drop i) pat

/-- The last place of `pat` in a text. -/
def lastIndexOf (cs pat : List Char) : Option Nat :=
  (List.range (cs.length + 1)).reverse.find? fun i => startsWith (cs.drop i) pat

/-- The first place of a character the test accepts. -/
def indexWhere (cs : List Char) (p : Char → Bool) : Option Nat := cs.findIdx? p

/-- Whether a character separates a key from its value. -/
def isDelimiter (c : Char) : Bool := c = '=' || c = ':'

/-- The number of bytes a text takes. -/
def byteSize (cs : List Char) : Nat := (String.ofList cs).utf8ByteSize

/-- The name of a key line and where its value starts. -/
def keyName (line : List Char) : Except String (String × Nat) :=
  let text := String.ofList line
  let quote : List Char :=
    match line with
    | '"' :: _ => if byteSize line > 6 ∧ startsWith line ['"', '"', '"'] then ['"', '"', '"'] else ['"']
    | '`' :: _ => ['`']
    | _ => []
  if quote.isEmpty then
    match indexWhere line isDelimiter with
    | none => .error ("key-value delimiter not found: " ++ text)
    | some 0 => .error ("empty key name: " ++ text)
    | some i => .ok (String.ofList (trim (line.take i)), i + 1)
  else
    let start := quote.length
    match indexOf (line.drop start) quote with
    | none => .error ("missing closing key quote: " ++ text)
    | some p =>
      let pos := p + start
      match indexWhere (line.drop (pos + start)) isDelimiter with
      | none => .error ("key-value delimiter not found: " ++ text)
      | some i => .ok (String.ofList (trim ((line.take pos).drop start)), pos + i + start + 1)

/-- Whether a text is one pair of quotes around text without that quote. -/
def surroundedBy (cs : List Char) (q : Char) : Bool :=
  cs.length ≥ 2 ∧ cs.head? = some q ∧ cs.getLast? = some q ∧ indexWhere cs.tail (· = q) = some (cs.length - 2)

/-- Reads the lines of a quoted value until one holds the closing quote: the value and the
lines left. `first` is the value's first line, shown when the quote is never closed. -/
def closeQuote (first quote : List Char) (acc : List Char) : List (List Char) → Except String (List Char × List (List Char))
  | [] => .error ("missing closing key quote from " ++ Quote.quote (String.ofList first) ++ " to " ++ Quote.quote "")
  | next :: rest =>
    match lastIndexOf next quote with
    | some p => .ok (acc ++ next.take p, rest)
    | none =>
      if rest.isEmpty then
        .error ("missing closing key quote from " ++ Quote.quote (String.ofList first) ++ " to "
          ++ Quote.quote (String.ofList next))
      else closeQuote first quote (acc ++ next) rest

/-- Joins continuation lines to a value: each trimmed line is added, and the joining goes
on while the value ends with a backslash, which is dropped. An empty line ends it. -/
def continueLines (acc : List Char) : List (List Char) → List Char × List (List Char)
  | [] => (acc, [])
  | next :: rest =>
    let next := trim next
    if next.isEmpty then (acc, rest)
    else
      let acc := acc ++ next
      if acc.getLast? = some '\\' then continueLines acc.dropLast rest else (acc, rest)

/-- Reads the value that starts a key line's remainder: the value and the lines left. -/
def value (input : List Char) (rest : List (List Char)) : Except String (List Char × List (List Char)) :=
  let line := trimLeft input
  if line.isEmpty then .ok ([], rest)
  else
    let quote : List Char :=
      if line.length > 3 ∧ startsWith line ['"', '"', '"'] then ['"', '"', '"']
      else if line.head? = some '`' then ['`'] else []
    if !quote.isEmpty then
      let inner := line.drop quote.length
      match lastIndexOf inner quote with
      | some p => .ok (inner.take p, rest)
      | none => closeQuote line quote inner rest
    else
      let line := trim line
      if line.getLast? = some '\\' then .ok (continueLines line.dropLast rest)
      else
        let line := match indexWhere line fun c => c = '#' || c = ';' with
          | some i => trim (line.take i)
          | none => line
        if surroundedBy line '\'' || surroundedBy line '"' then .ok ((line.drop 1).dropLast, rest)
        else .ok (line, rest)

/-- The sections of a document, in the order they first appear, each with its keys and
their values in the order the keys first appear. -/
abbrev Sections := List (String × List (String × String))

/-- The name of the section of the keys outside any section. -/
def defaultSection : String := "DEFAULT"

/-- Adds a section unless it is there. -/
def addSection (ss : Sections) (name : String) : Sections :=
  if ss.any (·.1 == name) then ss else ss ++ [(name, [])]

/-- Sets a key of a section, keeping its place if it is there. -/
def setKey (ss : Sections) (sec k v : String) : Sections :=
  ss.map fun (n, keys) =>
    if n == sec then
      (n, if keys.any (·.1 == k) then keys.map fun (k', w) => if k' == k then (k', v) else (k', w)
          else keys ++ [(k, v)])
    else (n, keys)

/-- Reads the lines of a document into sections: the current section and the number of
the next `-` key are carried along. -/
def parseLines (ss : Sections) (sec : String) (count : Nat) :
    List (List Char) → Nat → Except String Sections
  | _, 0 => .ok ss
  | [], _ => .ok ss
  | piece :: rest, fuel + 1 =>
    let line := trimLeft piece
    match line with
    | [] => parseLines ss sec count rest fuel
    | c :: _ =>
      if c = '#' ∨ c = ';' then parseLines ss sec count rest fuel
      else if c = '[' then
        match lastIndexOf line [']'] with
        | none => .error ("unclosed section: " ++ String.ofList line)
        | some close =>
          let name := String.ofList ((line.take close).drop 1)
          if name.isEmpty then .error "empty section name"
          else parseLines (addSection ss name) name 1 rest fuel
      else
        match keyName line with
        | .error e => .error e
        | .ok (k, offset) =>
          let (k, count) := if k = "-" then ("#" ++ toString count, count + 1) else (k, count)
          match value (line.drop offset) rest with
          | .error e => .error e
          | .ok (v, rest) =>
            if k.isEmpty then .error "error creating new key: empty key name"
            else parseLines (setKey ss sec k (String.ofList v)) sec count rest fuel

/-- The section of a name; the empty name is `DEFAULT`. -/
def sectionKeys (ss : Sections) (name : String) : Option (List (String × String)) :=
  ss.lookup (if name.isEmpty then defaultSection else name)

/-- The sections a section name sits in, nearest first: `a.b` and `a` for `a.b.c`. -/
def ancestors (name : String) : List String :=
  let cs := name.toList
  ((List.range cs.length).reverse.filter fun i => cs[i]? = some '.').map fun i => String.ofList (cs.take i)

/-- The value of a key as a section sees it: its own key, or else that of the nearest
enclosing section that exists. Each step goes to a shorter name, so the name's length
bounds the steps. -/
def findKey (ss : Sections) (sec k : String) : Nat → Option String
  | 0 => none
  | fuel + 1 =>
    match (sectionKeys ss sec).bind (·.lookup k) with
    | some v => some v
    | none =>
      match (ancestors sec).find? fun up => (sectionKeys ss up).isSome with
      | some up => findKey ss up k fuel
      | none => none

/-- The first reference `%(name)s` in a text: where it starts, how long it is, and the name. -/
def reference (cs : List Char) : Option (Nat × Nat × String) :=
  (List.range cs.length).findSome? fun i =>
    match cs.drop i with
    | '%' :: '(' :: rest =>
      match indexWhere rest (· = ')') with
      | some j =>
        if j > 0 ∧ rest[j + 1]? = some 's' then some (i, j + 4, String.ofList (rest.take j)) else none
      | none => none
    | _ => none

/-- How many references a value may have replaced. -/
def maxReplacements : Nat := 99

/-- Replaces the references in the value of key `k` of a section, each by the raw value of
the key it names: every copy of the reference at once, at most `maxReplacements` times;
a reference that names no key ends the replacing. -/
def interpolate (ss : Sections) (sec k : String) (v : String) : Nat → String
  | 0 => v
  | n + 1 =>
    match reference v.toList with
    | none => v
    | some (i, len, name) =>
      let found := if name == k then none else findKey ss sec name (sec.length + 1)
      let found := found <|> (sectionKeys ss defaultSection).bind (·.lookup name)
      match found with
      | none => v
      | some w =>
        let pattern := String.ofList ((v.toList.drop i).take len)
        interpolate ss sec k (v.replace pattern w) n

/-- The octets of a document without the byte order mark at its front, if any: the two
octets of either UTF-16 mark, or the three of the UTF-8 one. -/
def dropByteOrderMark (b : ByteArray) : ByteArray :=
  if (b[0]? = some 0xFE ∧ b[1]? = some 0xFF) ∨ (b[0]? = some 0xFF ∧ b[1]? = some 0xFE) then
    b.extract 2 b.size
  else if b[0]? = some 0xEF ∧ b[1]? = some 0xBB ∧ b[2]? = some 0xBF then b.extract 3 b.size
  else b

/-- Reads an INI document from its octets into nested tables of texts. -/
def read (data : ByteArray) : Except String (List (String × Value)) := do
  let cs := (Utf8.read (dropByteOrderMark data)).toList
  let ss ← parseLines [(defaultSection, [])] defaultSection 1 (pieces cs []) (cs.length + 2)
  return ss.foldl (fun es (sec, keys) =>
    keys.foldl (fun es (k, v) =>
      Value.setAt es (sec.splitOn "." ++ [k]) (.text (interpolate ss sec k v maxReplacements))) es) []

end LiveTail.Document.Ini
