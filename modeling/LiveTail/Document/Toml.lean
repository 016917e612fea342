import LiveTail.Document.Toml.Seen
import LiveTail.Document.Toml.Scalar
/-!
# TOML documents

Reads a TOML text into a table, one expression at a time: each expression is read, then
checked against the keys defined before it, then its values are given their meaning,
and only then is the line break before the next expression required. So a bad value is
reported before anything wrong after it on the same line, and a key defined twice before
a bad value in the same expression.

Pairs go into the current table, which a table header sets, creating the tables on its
path; an array-of-tables header appends a new table to its array and makes it current.
On the way through an array of tables, its last table is taken. Dotted keys create or
extend tables below the current one, and inside inline tables.
-/
namespace LiveTail.Document.Toml

/-- Changes the entries of the table at a path, creating missing tables on the way; on
the way through an array of tables the last element is taken. -/
def update (f : List (String × Value) → List (String × Value)) :
    List String → List (String × Value) → List (String × Value)
  | [], es => f es
  | k :: more, es =>
    let replaced : Option Value := match es.lookup k with
      | some (.table sub) => some (.table (update f more sub))
      | some (.list items) =>
        match items.getLast? with
        | some (.table sub) => some (.list (items.dropLast ++ [.table (update f more sub)]))
        | _ => none
      | _ => none
    match replaced with
    | some v => es.map fun (n, w) => if n == k then (n, v) else (n, w)
    | none =>
      if es.any (·.1 == k) then es
      else es ++ [(k, .table (update f more []))]

/-- Appends a fresh table to the array of tables of a name. -/
def appendTable (k : String) (es : List (String × Value)) : List (String × Value) :=
  match es.lookup k with
  | some (.list items) => es.map fun (n, w) => if n == k then (n, .list (items ++ [.table []])) else (n, w)
  | _ => es ++ [(k, .list [.table []])]

/-- The last name of a path. -/
def lastName (path : List String) : String := path.getLast?.getD ""

/-- Puts a value at a dotted key below a table. -/
def put (es : List (String × Value)) (key : List String) (v : Value) : List (String × Value) :=
  update (fun es => es ++ [(lastName key, v)]) key.dropLast es

mutual

/-- The meaning of a value. -/
def decode : Syntax → Except Failure Value
  | .text s => .ok (.text s)
  | .bool b => .ok (.bool b)
  | .integer raw => (integer raw).map (.int · .int64)
  | .float raw => (float raw).map .float
  | .stamp kind raw => stamp kind raw
  | .array items => (decodeItems items).map .list
  | .inline pairs => (decodePairs [] pairs).map .table

/-- The meanings of array items, in order. -/
def decodeItems : List Syntax → Except Failure (List Value)
  | [] => .ok []
  | v :: rest => do
    let v ← decode v
    let rest ← decodeItems rest
    pure (v :: rest)

/-- The table of an inline table's pairs, in order. -/
def decodePairs (acc : List (String × Value)) : List (List String × Syntax) → Except Failure (List (String × Value))
  | [] => .ok acc
  | (k, v) :: rest => do
    let v ← decode v
    decodePairs (put acc k v) rest

end

/-- The document being built: the keys defined, the tables so far, and the path of the
current table. -/
structure Builder where
  seen : Seen := {}
  root : List (String × Value) := []
  current : List String := []

/-- Adds an expression to the document. -/
def Builder.add (b : Builder) (e : Expression) : Except Failure Builder := do
  let seen ← b.seen.check e
  match e with
  | .pair key v =>
    let v ← decode v
    pure { b with seen, root := put b.root (b.current ++ key) v }
  | .table key => pure { b with seen, root := update id key b.root, current := key }
  | .arrayTable key =>
    pure { b with seen, root := update (appendTable (lastName key)) key.dropLast b.root, current := key }

/-- Reads the expressions of a document, each after a line break but the first; each
step takes a line break or an expression, so twice the length bounds the steps. -/
def expressions (b : Builder) (cs : List Char) (first : Bool) : Nat → Except Failure Builder
  | 0 => .ok b
  | fuel + 1 => do
    if cs.isEmpty then return b
    let cs ← if first then pure cs else newline cs
    if cs.isEmpty then return b
    let (e, rest) ← expression cs
    match e with
    | none => expressions b rest false fuel
    | some e => expressions (← b.add e) rest false fuel

/-- Reads a TOML document from its octets into table entries. -/
def read (data : ByteArray) : Except Failure (List (String × Value)) :=
  let cs := Utf8.octetChars data
  (expressions {} cs true (2 * cs.length + 2)).map (·.root)

end LiveTail.Document.Toml
