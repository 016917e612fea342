import LiveTail.Document.Toml.Syntax
/-!
# Keys a TOML document has defined

Every expression is checked against the keys defined before it, before its values are
read. A defined key is a value, a table or an array of tables; a table is explicit once a
header names it. When the next header starts, every key below the current table that a
pair's dotted key made becomes explicit, so that later dotted keys and headers cannot
reach into it; tables that headers made on their way stay open to a later header.

* A pair may not name a key again, may not pass through a value or an array of tables,
  and may not pass through an explicit table.
* A table header may not pass through a value, may not name a value or an array of
  tables, and may not name an explicit table.
* An array-of-tables header may not pass through a value and may only name an array of
  tables; each header starts a new element, forgetting the keys below it.

An inline table is checked on its own, as a document of its own, and so are those inside
arrays; the key that holds it is a value.
-/
namespace LiveTail.Document.Toml

/-- The kind of a defined key. -/
inductive Kind where
  | value
  | table
  | arrayTable
  deriving DecidableEq, Repr

/-- The name of a kind in messages. -/
def Kind.name : Kind → String
  | .value => "value"
  | .table => "table"
  | .arrayTable => "array table"

/-- A defined key: its full path, its kind, whether it is explicit, and whether a pair
made it and it has not been settled since. -/
structure Defined where
  path : List String
  kind : Kind
  explicit : Bool
  byPair : Bool := false
  deriving Repr

/-- The keys defined so far and the path of the current table. -/
structure Seen where
  keys : List Defined := []
  current : List String := []
  deriving Repr

namespace Seen

/-- The key at a path. -/
def find (s : Seen) (path : List String) : Option Defined := s.keys.find? (·.path == path)

/-- Adds a key; `byPair` tells whether a pair makes it. -/
def add (s : Seen) (path : List String) (kind : Kind) (explicit : Bool) (byPair : Bool := false) : Seen :=
  { s with keys := s.keys ++ [{ path, kind, explicit, byPair }] }

/-- Changes the key at a path. -/
def change (s : Seen) (path : List String) (f : Defined → Defined) : Seen :=
  { s with keys := s.keys.map fun d => if d.path == path then f d else d }

/-- Whether a path lies strictly below another. -/
def below (parent path : List String) : Bool := parent.length < path.length && parent.isPrefixOf path

/-- Makes every key below a path that a pair made explicit. -/
def settle (s : Seen) (path : List String) : Seen :=
  { s with keys := s.keys.map fun d =>
      if below path d.path && d.byPair then { d with explicit := true, byPair := false } else d }

/-- Forgets every key below a path. -/
def forget (s : Seen) (path : List String) : Seen :=
  { s with keys := s.keys.filter fun d => !below path d.path }

/-- Walks the parts of a pair's key from a table: missing tables are added, and the last
part becomes a value. -/
def walkPair (s : Seen) (parent : List String) : List String → Except Failure (Seen × List String)
  | [] => .ok (s, parent)
  | k :: more =>
    let path := parent ++ [k]
    match s.find path with
    | none =>
      let s := s.add path (if more.isEmpty then .value else .table) false true
      walkPair s path more
    | some d =>
      if more.isEmpty then .error ("toml: key " ++ k ++ " is already defined")
      else if d.kind != .table then .error ("toml: expected " ++ k ++ " to be a table, not a " ++ d.kind.name)
      else if d.explicit then
        .error ("toml: cannot redefine table " ++ k ++ " that has already been explicitly defined")
      else walkPair s path more

/-- Walks the parts of a header's key but its last from the top: missing tables are
added, and values refused. -/
def walkHeader (s : Seen) (parent : List String) : List String → Except Failure (Seen × List String)
  | [] => .ok (s, parent)
  | k :: more =>
    let path := parent ++ [k]
    match s.find path with
    | none => walkHeader (s.add path .table false) path more
    | some d =>
      if d.kind == .value then .error ("toml: expected " ++ k ++ " to be a table, not a value")
      else walkHeader s path more

mutual

/-- Checks the inline tables inside a value. -/
def value : Syntax → Except Failure Unit
  | .inline pairs => inline {} pairs
  | .array items => values items
  | _ => pure ()

/-- Checks the inline tables inside array items. -/
def values : List Syntax → Except Failure Unit
  | [] => pure ()
  | v :: rest => do
    value v
    values rest

/-- Checks the pairs of an inline table, as a document of their own. -/
def inline (s : Seen) : List (List String × Syntax) → Except Failure Unit
  | [] => pure ()
  | (k, v) :: rest => do
    let (s, _) ← walkPair s s.current k
    value v
    inline s rest

end

/-- Checks a pair in the current table. -/
def pair (s : Seen) (key : List String) (v : Syntax) : Except Failure Seen := do
  let (s, _) ← walkPair s s.current key
  value v
  pure s

/-- Checks a table header and makes it current. -/
def table (s : Seen) (key : List String) : Except Failure Seen := do
  let s := s.settle s.current
  let (s, parent) ← walkHeader s [] key.dropLast
  let k := key.getLast?.getD ""
  let path := parent ++ [k]
  match s.find path with
  | some d =>
    if d.kind != .table then throw ("toml: key " ++ k ++ " should be a table, not a " ++ d.kind.name)
    else if d.explicit then throw ("toml: table " ++ k ++ " already exists")
    else pure { s.change path fun d => { d with explicit := true } with current := path }
  | none => pure { s.add path .table true with current := path }

/-- Checks an array-of-tables header and makes its new element current. -/
def arrayTable (s : Seen) (key : List String) : Except Failure Seen := do
  let s := s.settle s.current
  let (s, parent) ← walkHeader s [] key.dropLast
  let k := key.getLast?.getD ""
  let path := parent ++ [k]
  match s.find path with
  | some d =>
    if d.kind != .arrayTable then
      throw ("toml: key " ++ d.kind.name ++ " already exists as a " ++ k ++ ",  but should be an array table")
    else pure { s.forget path with current := path }
  | none => pure { s.add path .arrayTable true with current := path }

/-- Checks an expression. -/
def check (s : Seen) : Expression → Except Failure Seen
  | .pair key v => s.pair key v
  | .table key => s.table key
  | .arrayTable key => s.arrayTable key

end Seen
end LiveTail.Document.Toml
