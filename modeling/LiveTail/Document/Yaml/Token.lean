/-!
# YAML tokens

The tokens of a YAML stream with the place each starts at. Block structure is carried by
tokens too: a block collection opens where a key or entry is indented further than the
enclosing one, and ends when a later token stands less indented.
-/
namespace LiveTail.Document.Yaml

/-- A place in the text: offset, line and column, all counted from zero. -/
structure Mark where
  index : Nat := 0
  line : Nat := 0
  column : Nat := 0
  deriving DecidableEq, Repr, Inhabited

/-- How a scalar was written. -/
inductive Style where
  | plain
  | singleQuoted
  | doubleQuoted
  | literal
  | folded
  deriving DecidableEq, Repr

/-- A token. -/
inductive Kind where
  | streamEnd
  | documentStart
  | documentEnd
  | blockSequenceStart
  | blockMappingStart
  | blockEnd
  | flowSequenceStart
  | flowSequenceEnd
  | flowMappingStart
  | flowMappingEnd
  | blockEntry
  | flowEntry
  | key
  | value
  | alias (name : String)
  | anchor (name : String)
  /-- A tag: its handle, empty for a verbatim tag, and its suffix. -/
  | tag (handle suffix : String)
  | scalar (text : String) (style : Style)
  /-- A `%YAML` directive and its version. -/
  | versionDirective (major minor : Nat)
  /-- A `%TAG` directive: a handle and the prefix it stands for. -/
  | tagDirective (handle pfx : String)
  deriving DecidableEq, Repr

/-- A token and where it starts. -/
structure Token where
  kind : Kind
  mark : Mark
  deriving Repr

/-- A failure while reading, with its context and problem places. A scanner failure is
reported one line further on than a parser failure at the same place. -/
structure Failure where
  fromScanner : Bool
  context : Option Mark
  problem : String
  place : Mark
  deriving Repr

/-- The message: the line of the context if it is not the first, else of the problem if
that is not the first, then the problem. -/
def Failure.message (f : Failure) : String :=
  let bump := if f.fromScanner then 1 else 0
  let line := match f.context with
    | some m => if m.line ≠ 0 then some (m.line + bump) else if f.place.line ≠ 0 then some (f.place.line + bump) else none
    | none => if f.place.line ≠ 0 then some (f.place.line + bump) else none
  "yaml: " ++ (match line with | some l => "line " ++ toString l ++ ": " | none => "") ++ f.problem

end LiveTail.Document.Yaml
