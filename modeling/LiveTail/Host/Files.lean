import LiveTail.Volume.Change
/-!
# The host's file helpers

Reading a whole file as text, asking whether a path exists or is a directory (any failure
answers no), and writing a file inside the sandbox directory. A sandboxed name must not be
empty and must not contain `..` anywhere, so that the written path, the sandbox joined
with the name, stays inside the sandbox.
-/
namespace LiveTail
namespace Volume

/-- The whole content of a file. -/
def readText (v : Volume) (p : String) : Except Failure ByteArray × Volume :=
  match v.readAll p with
  | (.error e, v) => (.error (e.toFailure.wrap ("reading " ++ p)), v)
  | (.ok b, v) => (.ok b, v)

/-- The path exists, as a file or a directory. -/
def pathExists (v : Volume) (p : String) : Bool :=
  match v.exists? p with
  | .ok b => b
  | .error _ => false

/-- The path is an existing directory. -/
def isDirectory (v : Volume) (p : String) : Bool :=
  match v.stat p with
  | .ok i => i.isDir
  | .error _ => false

/-- The text holds two dots in a row. -/
def hasDoubleDot : List Char → Bool
  | '.' :: '.' :: _ => true
  | _ :: rest => hasDoubleDot rest
  | [] => false

/-- The path a sandboxed name is written to. -/
def sandboxPath (sandbox name : String) : String := Path.join [sandbox, name]

/-- Writes `content` to `name` inside `sandbox`, making its directories: the path written,
and the volume after, which keeps the directories made even when the write then fails. -/
def writeSandboxed (v : Volume) (sandbox name : String) (content : ByteArray) :
    Except Failure String × Volume :=
  if name = "" then (.error (.plain "empty filename"), v)
  else if hasDoubleDot name.toList then
    (.error ⟨.pathTraversal, "can't use \"..\" in the filename parameter"⟩, v)
  else
    let full := sandboxPath sandbox name
    let context := "unexpected error when trying to write to " ++ full
    match v.mkdirAll (Path.dir full) with
    | .error e => (.error (e.toFailure.wrap context), v)
    | .ok v =>
      match v.writeFile full content with
      | .error e => (.error (e.toFailure.wrap context), v)
      | .ok v => (.ok full, v)

end Volume
end LiveTail
