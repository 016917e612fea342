import LiveTail.Settings.Duration
import LiveTail.Number.Shortest
import LiveTail.Text.Case
/-!
# Document values

The values a configuration document holds once read: null, truth values, integers of a
given width, doubles, texts, lists, tables of named values, durations, and values of
other kinds known only by their type name and printed form. Integers remember the machine
type the reader gave them, since it shows in messages about values that do not fit.

Printing follows the usual rules for a generic value: lists in brackets and tables as
`map[k:v ...]` with keys sorted, items separated by spaces.
-/
namespace LiveTail

/-- The machine type of an integer read from a document. -/
inductive IntType where
  | int
  | int64
  | uint64
  deriving DecidableEq, Repr

/-- A value of a configuration document. -/
inductive Value where
  | null
  | bool (b : Bool)
  | int (n : Int) (type : IntType)
  | float (d : Double)
  | text (s : String)
  | list (items : List Value)
  | table (entries : List (String × Value))
  /-- A span of time. -/
  | duration (d : Duration)
  /-- A value of another type: its type name, kind and printed form. -/
  | other (type kind shown : String)
  deriving Repr, Inhabited

namespace Value

/-- The type name of a value. -/
def typeName : Value → String
  | .null => "<nil>"
  | .bool _ => "bool"
  | .int _ .int => "int"
  | .int _ .int64 => "int64"
  | .int _ .uint64 => "uint64"
  | .float _ => "float64"
  | .text _ => "string"
  | .list _ => "[]interface {}"
  | .table _ => "map[string]interface {}"
  | .duration _ => "time.Duration"
  | .other type _ _ => type

/-- The kind of a value: its type name without the element types. -/
def kindName : Value → String
  | .null => "invalid"
  | .list _ => "slice"
  | .table _ => "map"
  | .duration _ => "int64"
  | .other _ kind _ => kind
  | v => v.typeName

mutual

/-- The printed form of a value. -/
def display : Value → String
  | .null => "<nil>"
  | .bool b => if b then "true" else "false"
  | .int n _ => toString n
  | .float d => d.text
  | .text s => s
  | .list items => "[" ++ " ".intercalate (displayList items) ++ "]"
  | .table entries =>
    let shown := displayEntries entries
    "map[" ++ " ".intercalate (shown.mergeSort fun a b => !decide (b.1 < a.1)).unzip.2 ++ "]"
  | .duration d => d.text
  | .other _ _ shown => shown

/-- The printed forms of list items. -/
def displayList : List Value → List String
  | [] => []
  | v :: vs => v.display :: displayList vs

/-- The printed table entries with their keys, `key:value`. -/
def displayEntries : List (String × Value) → List (String × String)
  | [] => []
  | (k, v) :: rest => (k, k ++ ":" ++ v.display) :: displayEntries rest

end

mutual

/-- The value with every table key in lower case, at every depth. -/
def lowerKeys : Value → Value
  | .list items => .list (lowerList items)
  | .table entries => .table (lowerEntries entries)
  | v => v

/-- Lower-cases the keys inside list items. -/
def lowerList : List Value → List Value
  | [] => []
  | v :: vs => v.lowerKeys :: lowerList vs

/-- Lower-cases table keys, the later of two equal keys winning. -/
def lowerEntries : List (String × Value) → List (String × Value)
  | [] => []
  | (k, v) :: rest =>
    let rest := lowerEntries rest
    let key := Case.lower k
    if rest.any (·.1 == key) then rest else (key, v.lowerKeys) :: rest

end

/-- The entry of a table under a key. -/
def field? (v : Value) (key : String) : Option Value :=
  match v with
  | .table entries => entries.lookup key
  | _ => none

/-- Whether a value is a table. -/
def isTable : Value → Bool
  | .table _ => true
  | _ => false

/-- Sets a value at a path of nested tables, creating the tables that are missing; a
value other than a table in the way is replaced by a new table. -/
def setAt : List (String × Value) → List String → Value → List (String × Value)
  | es, [], _ => es
  | es, [k], v =>
    if es.any (·.1 == k) then es.map fun (n, w) => if n == k then (n, v) else (n, w) else es ++ [(k, v)]
  | es, k :: rest, v =>
    let inner := match es.lookup k with
      | some (.table sub) => sub
      | _ => []
    let sub := Value.table (setAt inner rest v)
    if es.any (·.1 == k) then es.map fun (n, w) => if n == k then (n, sub) else (n, w) else es ++ [(k, sub)]

end Value

/-- Why a document was not read: a problem its reader reports, or its reader crashing,
with the reason the crash gives. -/
inductive Refusal where
  | problem (message : String)
  | crash (reason : String)
  deriving DecidableEq, Repr

end LiveTail
