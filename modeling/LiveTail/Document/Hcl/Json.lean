import LiveTail.Document.Hcl.Syntax
/-!
# HCL documents written as JSON

A document whose first character other than white space is `{` is read as JSON, by a
scanner and reader of its own that are lenient in their own ways.

The scanner knows strings, numbers (no leading zero on a whole number), `true`, `false`
and `null`, and the punctuation `[ ] { } , : .`; there are no comments. Its problems are
recorded as it goes, and the latest one is the document's problem, whatever the reader
made of the tokens.

The reader takes one object. An object's members are read until one fails or is not
followed by a comma; a member cut short by the end of the text ends the object quietly,
and a failed member whose last token is a closing brace ends it too, with the members
before it. In a list, truth values and the brackets of inner lists are dropped, while
numbers, strings and objects are kept; `null` is refused there. Whatever follows the
object is not read.

Members become items of one key, objects blocks and lists lists. Strings keep their
quoted text, to be unquoted by the usual rules when read; `null` is the empty string.
-/
namespace LiveTail.Document.Hcl

namespace Reader

/-- Reads the rest of a JSON word: letters, digits of any script and dashes. -/
def jsonWord (r : Reader) : Reader :=
  let (c, r) := r.next
  let (c, r) := readWhile (fun c => isLetter c || isDigit c || c = '-') c r (r.src.size + 1)
  if c.isSome then r.unread else r

/-- Reads a JSON number whose first digit `c` was read: its kind. A whole number of more
than one digit may not start with a zero. -/
def jsonNumber (c : Char) (r : Reader) : Kind × Reader :=
  let start := r.now
  let (_, r) := mantissa (some c) r
  let (d, r) := r.next
  if d = some 'e' ∨ d = some 'E' then (.float, (exponent d r).2)
  else if d = some '.' then
    let (d, r) := fraction d r
    if d = some 'e' ∨ d = some 'E' then
      let (d, r) := r.next
      (.float, (exponent d r).2)
    else (.float, r)
  else
    let r := if d.isSome then r.unread else r
    let r := if c = '0' ∧ r.now ≠ start then r.fail "numbers cannot start with 0" else r
    (.number, r)

/-- Scans the next JSON token. -/
def scanJson (r : Reader) : Token × Reader :=
  let (c, r) := r.skipSpace
  let start := if r.readChar then r.now.index - 1 else r.now.index
  let pos : Pos := if r.now.column > 0 then ⟨r.now.line, r.now.column⟩ else ⟨r.now.line - 1, r.lastLineLen⟩
  let (kind, r) : Kind × Reader := match c with
    | none => (.eof, r)
    | some c =>
      if isLetter c then
        let r := r.jsonWord
        let word := String.ofList (r.src.extract start r.now.index).toList
        if word = "true" ∨ word = "false" then (.bool, r)
        else if word = "null" then (.null, r)
        else (.illegal, r.fail "illegal char")
      else if isDecimal c then jsonNumber c r
      else match c with
        | '"' => (.string, string r)
        | '.' =>
          if is r.peek isDecimal then
            let (c, r) := mantissa r.peek r
            (.float, (exponent c r).2)
          else (.period, r)
        | '[' => (.lbrack, r)
        | ']' => (.rbrack, r)
        | '{' => (.lbrace, r)
        | '}' => (.rbrace, r)
        | ',' => (.comma, r)
        | ':' => (.colon, r)
        | '-' =>
          if is r.peek isDecimal then
            match r.next with
            | (some d, r) => jsonNumber d r
            | (none, r) => (.illegal, r.fail "illegal char")
          else (.illegal, r.fail "illegal char")
        | _ => (.illegal, r.fail ("illegal char: " ++ c.toString))
  let text := String.ofList (r.src.extract start r.now.index).toList
  ({ kind, pos, text }, r)

end Reader

/-- The reader of a JSON document's tokens: the scanner and the last token. -/
structure JsonParser where
  reader : Reader
  tok : Token := {}

namespace JsonParser

/-- The next token. -/
def scan (p : JsonParser) : Token × JsonParser :=
  let (t, r) := p.reader.scanJson
  (t, { reader := r, tok := t })

/-- A literal token as a node's token: it carries no place, a string is marked as JSON,
and `null` is the empty string. -/
def literal (t : Token) : Token :=
  match t.kind with
  | .null => { kind := .string, text := "", json := true }
  | .string => { kind := .string, text := t.text, json := true }
  | k => { kind := k, text := t.text }

/-- Reads the keys of a member, up to the colon after them. -/
def objectKey (p : JsonParser) (keys : List Token) : Nat → Except Fault (List Token) × JsonParser
  | 0 => (.error (.plain "nesting too deep"), p)
  | n + 1 =>
    let (t, p) := p.scan
    match t.kind with
    | .eof => (.error .endOfInput, p)
    | .string => objectKey p (keys ++ [literal t]) n
    | .colon =>
      if keys.isEmpty then (.error (.plain ("expected: STRING got: " ++ t.kind.name)), p)
      else (.ok keys, p)
    | .illegal => (.error (.plain "illegal"), p)
    | _ => (.error (.plain ("expected: STRING got: " ++ t.kind.name)), p)

mutual

/-- Reads a value after a colon. -/
def objectValue (p : JsonParser) : Nat → Except Fault Node × JsonParser
  | 0 => (.error (.plain "nesting too deep"), p)
  | n + 1 =>
    let (t, p) := p.scan
    match t.kind with
    | .number | .float | .bool | .null | .string => (.ok (.literal (literal t)), p)
    | .lbrace => objectType p n
    | .lbrack => listType p [] n
    | .eof => (.error .endOfInput, p)
    | _ => (.error (.plain ("Expected object value, got unknown token: " ++ t.shown)), p)

/-- Reads the members of an object after its opening brace: the members read and the
problem that stopped it, if any. -/
def objectList (p : JsonParser) (acc : List (List Token × Node)) :
    Nat → (List (List Token × Node) × Option Fault) × JsonParser
  | 0 => ((acc, some (.plain "nesting too deep")), p)
  | n + 1 =>
    match objectKey p [] n with
    | (.error .endOfInput, p) => ((acc, none), p)
    | (.error e, p) => ((acc, some e), p)
    | (.ok keys, p) =>
      match objectValue p n with
      | (.error .endOfInput, p) => ((acc, none), p)
      | (.error e, p) => ((acc, some e), p)
      | (.ok v, p) =>
        let (t, p) := p.scan
        if t.kind = .comma then objectList p (acc ++ [(keys, v)]) n
        else ((acc ++ [(keys, v)], none), p)

/-- Reads an object after its opening brace; a problem met where the last token is a
closing brace is forgotten. -/
def objectType (p : JsonParser) : Nat → Except Fault Node × JsonParser
  | 0 => (.error (.plain "nesting too deep"), p)
  | n + 1 =>
    let ((items, err), p) := objectList p [] n
    match err with
    | some e => if p.tok.kind ≠ .rbrace then (.error e, p) else (.ok (.object {} items), p)
    | none => (.ok (.object {} items), p)

/-- Reads the elements of a list after its opening bracket. -/
def listType (p : JsonParser) (acc : List Node) : Nat → Except Fault Node × JsonParser
  | 0 => (.error (.plain "nesting too deep"), p)
  | n + 1 =>
    let (t, p) := p.scan
    match t.kind with
    | .number | .float | .string => listType p (acc ++ [.literal (literal t)]) n
    | .comma | .bool | .lbrack => listType p acc n
    | .lbrace =>
      match objectType p n with
      | (.error e, p) => (.error e, p)
      | (.ok node, p) => listType p (acc ++ [node]) n
    | .rbrack => (.ok (.list {} acc), p)
    | _ => (.error (.plain ("unexpected token while parsing list: " ++ t.kind.name)), p)

end

/-- Reads the one object of a document. -/
def object (p : JsonParser) (fuel : Nat) : Except Fault Node × JsonParser :=
  let (t, p) := p.scan
  match t.kind with
  | .lbrace => objectType p fuel
  | .eof => (.error .endOfInput, p)
  | _ => (.error (.plain ("Expected object, got unknown token: " ++ t.shown)), p)

end JsonParser

/-- Reads a JSON document into its items; a crash of the scanner wins over everything,
and the latest problem of the scanner over one of the reader. -/
def parseJson (text : List (Char × Bool)) : Except Refusal Node :=
  let src := (text.map (·.1)).toArray
  let p : JsonParser := { reader := { src, json := true, stray := (text.map (·.2)).toArray } }
  let (res, p) := p.object (4 * src.size + 8)
  match p.reader.crash, p.reader.problems.head? with
  | some why, _ => .error (.crash why)
  | none, some (pos, m) => .error (.problem (pos.text ++ ": " ++ m))
  | none, none =>
    match res with
    | .error e => .error (.problem e.message)
    | .ok (.object _ items) => .ok (.items items)
    | .ok node => .ok node

end LiveTail.Document.Hcl
