import LiveTail.Document.Hcl.Token
import LiveTail.Document.Value
/-!
# HCL syntax

A document is a list of items. An item is one or more keys (identifiers or strings) and
then either `=` and a value, or a block `{ … }` of items. A value is a literal (number,
truth value, string, heredoc), a list `[ … ]` of values separated by commas (a comma may
end it), or a block. Items may be separated by commas. Comments are skipped.

The reader looks at most one token ahead and reports the first problem it meets; a problem
of the scanner met on the way is reported in its place. Each nested call reads a token or
stops, so the length of the text bounds the nesting.
-/
namespace LiveTail.Document.Hcl

/-- A node of a document's tree. -/
inductive Node where
  /-- A number, truth value, string or heredoc. -/
  | literal (tok : Token)
  /-- A block, with the place of its opening brace. -/
  | object (lbrace : Pos) (items : List (List Token × Node))
  /-- A list, with the place of its opening bracket. -/
  | list (lbrack : Pos) (elems : List Node)
  /-- Items on their own: the document, or the items of one name. -/
  | items (entries : List (List Token × Node))
  /-- One item on its own. -/
  | item (keys : List Token) (val : Node)

/-- Why reading stopped. -/
inductive Fault where
  /-- The text ended where an item could start. -/
  | endOfInput
  /-- A problem at a place. -/
  | located (pos : Pos) (message : String)
  /-- A problem with no place. -/
  | plain (message : String)

/-- The text of a problem. -/
def Fault.message : Fault → String
  | .endOfInput => "EOF token found"
  | .located pos m => "At " ++ pos.text ++ ": " ++ m
  | .plain m => m

/-- Whether a problem is the end of the text. -/
def Fault.isEnd : Fault → Bool
  | .endOfInput => true
  | _ => false

/-- The reader of a document's tokens: the scanner, the last token, and whether that token
was handed back to be read again. -/
structure Parser where
  reader : Reader
  tok : Token := {}
  pending : Bool := false

namespace Parser

/-- The next token that is not a comment. -/
def scan (p : Parser) : Token × Parser :=
  if p.pending then (p.tok, { p with pending := false })
  else
    let rec go (r : Reader) : Nat → Token × Reader
      | 0 => r.scan
      | fuel + 1 =>
        let (t, r) := r.scan
        if t.kind = .comment then go r fuel else (t, r)
    let (t, r) := go p.reader (p.reader.src.size + 1)
    (t, { p with reader := r, tok := t })

/-- Hands the last token back, to be read again. -/
def unscan (p : Parser) : Parser := { p with pending := true }

/-- The text of a kind of token in a problem. -/
def got (k : Kind) : String := k.name

mutual

/-- Reads items up to the end of the text, or up to a closing brace when `obj`: the items
read and the problem that stopped it, if any. -/
def objectList (obj : Bool) (p : Parser) (acc : List (List Token × Node)) :
    Nat → (List (List Token × Node) × Option Fault) × Parser
  | 0 => ((acc, some (.plain "nesting too deep")), p)
  | n + 1 =>
    let (stop, p) :=
      if obj then
        let (t, p) := p.scan
        (t.kind = .rbrace, p.unscan)
      else (false, p)
    if stop then ((acc, none), p)
    else
      match objectItem p n with
      | (.error e, p) => if e.isEnd then ((acc, none), p) else ((acc, some e), p)
      | (.ok item, p) =>
        let (t, p) := p.scan
        let p := if t.kind = .comma then p else p.unscan
        objectList obj p (acc ++ [item]) n

/-- Reads one item: its keys, then a value after `=` or a block. -/
def objectItem (p : Parser) : Nat → Except Fault (List Token × Node) × Parser
  | 0 => (.error (.plain "nesting too deep"), p)
  | n + 1 =>
    let ((keys, err), p) := objectKey p [] n
    let err := if !keys.isEmpty ∧ (err.map Fault.isEnd) = some true then none else err
    -- keys ended by a closing brace: the item has no value, which is reported below
    let (err, p) :=
      if !keys.isEmpty ∧ err.isSome ∧ p.tok.kind = .rbrace then
        (none, { p with tok := { p.tok with kind := .eof } })
      else (err, p)
    match err with
    | some e => (.error e, p)
    | none =>
      let value : Except Fault Node × Parser :=
        match p.tok.kind with
        | .assign => object p n
        | .lbrace => objectType p n
        | _ =>
          (.error (.located p.tok.pos ("key '" ++ " ".intercalate (keys.map (·.text))
            ++ "' expected start of object ('\x7b') or assignment ('=')")), p)
      match value with
      | (.error e, p) => (.error e, p)
      | (.ok v, p) =>
        -- a look at the next token, which stays unread
        let (_, p) := p.scan
        (.ok (keys, v), p.unscan)

/-- Reads the keys of an item, up to the `=` or `{` after them. -/
def objectKey (p : Parser) (keys : List Token) : Nat → (List Token × Option Fault) × Parser
  | 0 => ((keys, some (.plain "nesting too deep")), p)
  | n + 1 =>
    let (t, p) := p.scan
    match t.kind with
    | .eof => ((keys, some .endOfInput), p)
    | .assign =>
      if keys.length > 1 then
        (([], some (.located t.pos ("nested object expected: LBRACE got: " ++ got t.kind))), p)
      else if keys.isEmpty then (([], some (.located t.pos "no object keys found!")), p)
      else ((keys, none), p)
    | .lbrace =>
      if keys.isEmpty then ((keys, some (.located t.pos ("expected: IDENT | STRING got: " ++ got t.kind))), p)
      else ((keys, none), p)
    | .ident | .string => objectKey p (keys ++ [t]) n
    | .illegal => ((keys, some (.located t.pos "illegal character")), p)
    | _ => ((keys, some (.located t.pos ("expected: IDENT | STRING | ASSIGN | LBRACE got: " ++ got t.kind))), p)

/-- Reads a value after `=`. -/
def object (p : Parser) : Nat → Except Fault Node × Parser
  | 0 => (.error (.plain "nesting too deep"), p)
  | n + 1 =>
    let (t, p) := p.scan
    match t.kind with
    | .number | .float | .bool | .string | .heredoc => (.ok (.literal t), p)
    | .lbrace => objectType p n
    | .lbrack => listType p t.pos [] false n
    | .eof => (.error .endOfInput, p)
    | _ => (.error (.located t.pos ("Unknown token: " ++ t.shown)), p)

/-- Reads a block after its opening brace. A problem met where a closing brace was read
still lets the block end at the next closing brace, with the items read so far. -/
def objectType (p : Parser) : Nat → Except Fault Node × Parser
  | 0 => (.error (.plain "nesting too deep"), p)
  | n + 1 =>
    let lbrace := p.tok.pos
    let ((items, err), p) := objectList true p [] n
    match err with
    | some e =>
      if p.tok.kind ≠ .rbrace then (.error e, p)
      else
        let (t, p) := p.scan
        if t.kind ≠ .rbrace then (.error (.located t.pos ("object expected closing RBRACE got: " ++ got t.kind)), p)
        else (.ok (.object lbrace items), p)
    | none =>
      let (t, p) := p.scan
      if t.kind ≠ .rbrace then (.error (.located t.pos ("object expected closing RBRACE got: " ++ got t.kind)), p)
      else (.ok (.object lbrace items), p)

/-- Reads the elements of a list after its opening bracket. -/
def listType (p : Parser) (lbrack : Pos) (acc : List Node) (needComma : Bool) : Nat → Except Fault Node × Parser
  | 0 => (.error (.plain "nesting too deep"), p)
  | n + 1 =>
    let (t, p) := p.scan
    if needComma ∧ t.kind ≠ .comma ∧ t.kind ≠ .rbrack then
      (.error (.located t.pos ("error parsing list, expected comma or list end, got: " ++ got t.kind)), p)
    else
      match t.kind with
      | .bool | .number | .float | .string | .heredoc => listType p lbrack (acc ++ [.literal t]) true n
      | .comma =>
        let (_, p) := p.scan
        listType p.unscan lbrack acc false n
      | .lbrace =>
        match objectType p n with
        | (.error e, p) =>
          (.error (.located t.pos ("error while trying to parse object within list: " ++ e.message)), p)
        | (.ok node, p) => listType p lbrack (acc ++ [node]) true n
      | .lbrack =>
        match listType p t.pos [] false n with
        | (.error e, p) =>
          (.error (.located t.pos ("error while trying to parse list within list: " ++ e.message)), p)
        | (.ok node, p) => listType p lbrack (acc ++ [node]) needComma n
      | .rbrack => (.ok (.list lbrack acc), p)
      | _ => (.error (.located t.pos ("unexpected token while parsing list: " ++ got t.kind)), p)

end

end Parser

/-- Drops each carriage return that comes right before a line feed. -/
def dropReturns : List (Char × Bool) → List (Char × Bool)
  | ('\r', _) :: ('\n', b) :: rest => ('\n', b) :: dropReturns rest
  | x :: rest => x :: dropReturns rest
  | [] => []

/-- Reads a document, given as characters marked where they stand for stray octets, into
its items; a problem of the scanner wins over one of the reader. Carriage returns before
line feeds are dropped first. -/
def parse (text : List (Char × Bool)) : Except Refusal Node :=
  let text := dropReturns text
  let src := (text.map (·.1)).toArray
  let p : Parser := { reader := { src, stray := (text.map (·.2)).toArray } }
  let ((items, err), p) := Parser.objectList false p [] (4 * src.size + 8)
  match p.reader.crash, p.reader.problems.head? with
  | some why, _ => .error (.crash why)
  | none, some (pos, m) => .error (.problem ("At " ++ pos.text ++ ": " ++ m))
  | none, none =>
    match err with
    | some e => .error (.problem e.message)
    | none => .ok (.items items)

end LiveTail.Document.Hcl
