import LiveTail.Document.Value
import LiveTail.Path.Basic
import LiveTail.Settings.Basic
import LiveTail.Text.Integer
import LiveTail.Text.Truth
import LiveTail.Text.Case
/-!
# Layered settings

Settings come in three layers. The environment wins: `SIMPLEIO_` and the key in upper
case with dots and dashes as underscores, when set and not empty. Then the configuration
file, then the defaults. A key is a dotted path into nested tables. The keys that exist
are the leaves of the file and of the defaults, where a leaf of the file hides every key
of the defaults below it; a set variable for a table (`SIMPLEIO_LOG`) hides the keys below
that table.

The merged tree is then read into the settings record field by field. Texts are read as
durations, integers or truth values where a field needs one; integers, decimals and truth
values convert into one another and into texts. Every field that cannot be read is
reported, the reports sorted, and then the settings are checked.
-/
namespace LiveTail

/-- The variables of a process environment. -/
abbrev Environment := List (String × String)

namespace Environment

/-- A variable that is set and not empty. -/
def get? (env : Environment) (name : String) : Option String :=
  match env.lookup name with
  | some "" => none
  | v => v

end Environment

/-- The directory for per-user cache data: `XDG_CACHE_HOME` when absolute, else
`$HOME/.cache`; none when neither is usable. -/
def userCacheDir (env : Environment) : Option String :=
  match env.get? "XDG_CACHE_HOME" with
  | some dir => if Path.isAbs dir then some dir else none
  | none => (env.get? "HOME").map (· ++ "/.cache")

/-- The default sandbox: `simpleio` in the user cache directory, or in the temporary
directory when there is none. -/
def defaultSandbox (env : Environment) : String :=
  let dir := (userCacheDir env).getD ((env.get? "TMPDIR").getD "/tmp")
  Path.join [dir, "simpleio"]

/-- The default layer. -/
def defaultLayer (env : Environment) : Value :=
  .table [("poll_interval", .duration ⟨100 * Duration.millisecond⟩),
          ("read_buffer_size", .int 2097152 .int),
          ("launch_timeout", .duration ⟨5 * Duration.second⟩),
          ("watch", .bool true),
          ("sandbox_dir", .text (defaultSandbox env)),
          ("log", .table [("level", .text "info"), ("encoding", .text "console")])]

/-- The layers: command line flags first, when a program binds them. -/
structure Layers where
  env : Environment
  /-- The keys bound to command line flags, set or not. -/
  flagKeys : List String := []
  /-- The values of the bound flags that were set. -/
  flags : List (String × Value) := []
  file : Value := .table []
  defaults : Value

namespace Layers

/-- The environment variable of a key. -/
def envName (key : String) : String :=
  "SIMPLEIO_" ++ String.map (fun c => if c = '.' ∨ c = '-' then '_' else c.toUpper) key

/-- The value at an exact path through nested tables; null counts as absent. -/
def lookup : Value → List String → Option Value
  | v, [] => some v
  | v, k :: rest =>
    match v.field? k with
    | none => none
    | some next =>
      match rest with
      | [] => match next with
        | .null => none
        | _ => some next
      | _ => if next.isTable then lookup next rest else none

/-- The value at a path in the file, where a key of the file may itself hold dots: longer
dotted prefixes are tried first, and list items are reached by their index. -/
def search (v : Value) (path : List String) (fuel : Nat := 64) : Option Value :=
  match fuel with
  | 0 => none
  | fuel + 1 =>
    match path with
    | [] => some v
    | _ =>
      (List.range path.length).reverse.findSome? fun i =>
        let key := ".".intercalate (path.take (i + 1))
        let rest := path.drop (i + 1)
        let next := match v with
          | .table es => es.lookup key
          | .list items => key.toNat?.bind fun n => items[n]?
          | _ => none
        match next with
        | none => none
        | some .null => none
        | some n =>
          if rest.isEmpty then some n
          else match n with
            | .table _ | .list _ => search n rest fuel
            | _ => none

/-- The first proper prefix of a path that ends at a value other than a table, if any. -/
def shadowed (v : Value) (path : List String) : Bool :=
  (List.range (path.length - 1)).any fun i =>
    match lookup v (path.take (i + 1)) with
    | some w => !w.isTable
    | none => false

/-- Whether a proper prefix of a path has its variable set. -/
def shadowedByEnv (l : Layers) (path : List String) : Bool :=
  (List.range (path.length - 1)).any fun i =>
    (l.env.get? (envName (".".intercalate (path.take (i + 1))))).isSome

/-- The value of a key, the layers tried in order. -/
def get? (l : Layers) (key : String) : Option Value :=
  let path := key.splitOn "."
  let nested := path.length > 1
  match l.flags.lookup key with
  | some v => some v
  | none =>
  match l.env.get? (envName key) with
  | some s => some (.text s)
  | none =>
    if nested ∧ l.shadowedByEnv path then none
    else match search l.file path with
      | some v => some v
      | none =>
        if nested ∧ shadowed l.file path then none
        else match lookup l.defaults path with
          | some v => some v
          | none => none

/-- The leaf keys of a table under a prefix, skipping prefixes already taken. -/
def leaves (taken : List String) (v : Value) (pre : String) (fuel : Nat := 64) : List String :=
  match fuel with
  | 0 => taken
  | fuel + 1 =>
    if pre ≠ "" ∧ taken.contains pre then taken
    else match v with
      | .table es =>
        es.foldl (fun acc (k, w) =>
          let full := Case.lower (if pre = "" then k else pre ++ "." ++ k)
          match w with
          | .table _ => leaves acc w full fuel
          | _ => if acc.contains full then acc else acc ++ [full]) taken
      | _ => taken

/-- Every key: those bound to flags, the leaves of the file, then those of the defaults
not hidden by them, sorted. -/
def keys (l : Layers) : List String :=
  (leaves (leaves (l.flagKeys.map Case.lower) l.file "") l.defaults "").mergeSort
    fun a b => !decide (b < a)

/-- Sets a value at a path, replacing values in the way by tables. -/
def insertAt : List (String × Value) → List String → Value → List (String × Value)
  | es, [], _ => es
  | es, [k], v => if es.any (·.1 == k) then es.map fun (k', w) => if k' == k then (k', v) else (k', w)
      else es ++ [(k, v)]
  | es, k :: rest, v =>
    let inner := match es.lookup k with
      | some (.table sub) => sub
      | _ => []
    let sub := Value.table (insertAt inner rest v)
    if es.any (·.1 == k) then es.map fun (k', w) => if k' == k then (k', sub) else (k', w)
    else es ++ [(k, sub)]

/-- The merged tree of every key with a value. -/
def merged (l : Layers) : List (String × Value) :=
  l.keys.foldl (fun acc key =>
    match l.get? key with
    | some v => insertAt acc (key.splitOn ".") v
    | none => acc) []

end Layers

/-! ## Reading a merged tree into settings -/

namespace Reading

/-- The report of a value that does not convert. -/
def unconvertible (name type : String) (v : Value) : String :=
  "'" ++ name ++ "' expected type '" ++ type ++ "', got unconvertible type '" ++ v.typeName
    ++ "', value: '" ++ v.display ++ "'"

/-- A signed 64-bit integer from the bits of an unsigned one. -/
def wrap64 (n : Int) : Int := if n ≥ Int.pow 2 63 then n - Int.pow 2 64 else n

/-- Reads an integer field. -/
def int (name type : String) : Value → Except String Int
  | .int n .uint64 => .ok (wrap64 n)
  | .int n _ => .ok n
  | .duration d => .ok d.nanos
  | .float d => .ok d.toInt64
  | .bool b => .ok (if b then 1 else 0)
  | .text s =>
    let s := if s = "" then "0" else s
    match Integer.parse s with
    | .ok n => .ok n
    | .error p => .error ("cannot parse '" ++ name ++ "' as int: " ++ p.message s)
  | v => .error (unconvertible name type v)

/-- Reads a duration field: a text is read as a duration, anything else as nanoseconds. -/
def duration (name : String) : Value → Except String Duration
  | .text s =>
    match Duration.parse s with
    | .ok d => .ok d
    | .error e => .error ("error decoding '" ++ name ++ "': " ++ e.message)
  | v => (int name "time.Duration" v).map fun n => ⟨n⟩

/-- Reads a truth field. -/
def truth (name : String) : Value → Except String Bool
  | .bool b => .ok b
  | .int n .uint64 => .ok (n ≠ 0)
  | .int n _ => .ok (n ≠ 0)
  | .duration d => .ok (d.nanos ≠ 0)
  | .float d => .ok !d.isZero
  | .text s =>
    match parseTruth s with
    | .ok b => .ok b
    | .error e => if s = "" then .ok false else .error ("cannot parse '" ++ name ++ "' as bool: " ++ e)
  | v => .error (unconvertible name "bool" v)

/-- Reads a text field. -/
def text (name : String) : Value → Except String String
  | .text s => .ok s
  | .bool b => .ok (if b then "1" else "0")
  | .int n .uint64 => .ok (toString n)
  | .int n _ => .ok (toString n)
  | .duration d => .ok (toString d.nanos)
  | .float d => .ok d.fixedText
  | v => .error (unconvertible name "string" v)

/-- Reads one field if present, keeping the current value when absent. -/
def field (tree : List (String × Value)) (key : String) (current : α)
    (read : Value → Except String α) : α × List String :=
  match tree.lookup key with
  | none | some .null => (current, [])
  | some v => match read v with
    | .ok a => (a, [])
    | .error e => (current, [e])

/-- The settings read from a merged tree, starting from empty fields, with the reports of
the fields that could not be read. -/
def settings (tree : List (String × Value)) : Settings × List String :=
  let (poll, e1) := field tree "poll_interval" ⟨0⟩ (duration "poll_interval")
  let (size, e2) := field tree "read_buffer_size" 0 (int "read_buffer_size" "int")
  let (launch, e3) := field tree "launch_timeout" ⟨0⟩ (duration "launch_timeout")
  let (watch, e4) := field tree "watch" false (truth "watch")
  let (sandbox, e5) := field tree "sandbox_dir" "" (text "sandbox_dir")
  let (level, encoding, e6) : String × String × List String :=
    match tree.lookup "log" with
    | none | some .null => ("", "", [])
    | some (.table log) =>
      let (level, a) := field log "level" "" (text "log.level")
      let (encoding, b) := field log "encoding" "" (text "log.encoding")
      (level, encoding, a ++ b)
    | some v => ("", "", ["'log' expected a map, got '" ++ v.kindName ++ "'"])
  ({ pollInterval := poll, readBufferSize := size, launchTimeout := launch, watch,
     sandboxDir := sandbox, logLevel := level, logEncoding := encoding },
   e1 ++ e2 ++ e3 ++ e4 ++ e5 ++ e6)

/-- The report of fields that could not be read. -/
def report (errors : List String) : String :=
  toString errors.length ++ " error(s) decoding:\n\n"
    ++ "\n".intercalate ((errors.map ("* " ++ ·)).mergeSort fun a b => !decide (b < a))

end Reading

/-- Settings from the layers: read, then checked. -/
def Layers.settings (l : Layers) : Except String Settings :=
  match Reading.settings l.merged with
  | (s, []) => match s.check with
    | none => .ok s
    | some problems => .error problems
  | (_, errors) => .error ("decoding config: " ++ Reading.report errors)

end LiveTail
