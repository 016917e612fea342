import LiveTail.Volume.Basic
/-!
# Walking paths as the system does

On the operating system's file system a path is not cleaned before it is looked up: it
is walked name by name from the root, or from the working directory for a relative path.
Every name but the last must lead to a directory, so a file in the middle of a path, even
before a `..`, stops the walk with "not a directory", and a missing name stops it with
"no such file or directory". A `..` goes up from the directory reached, and a trailing
slash asks for a directory.

Calls that create an entry walk every name but the last, which must lead to a
directory, and then look at the last name themselves.
-/
namespace LiveTail
namespace Volume

/-- The entry named `n` inside the directory `dir`. -/
def childKey (dir n : String) : String := if dir = "/" then "/" ++ n else dir ++ "/" ++ n

/-- Walks names from the directory `cur`; a file may only be reached by the last name,
and not when the path asks for a directory. -/
def walk (v : Volume) (cur : String) (trailing : Bool) : List String → Except Errno String
  | [] => .ok cur
  | n :: rest =>
    if n = "." then v.walk cur trailing rest
    else if n = ".." then v.walk (Path.dir cur) trailing rest
    else
      let k := childKey cur n
      match v.entry? k with
      | none => .error .noEntry
      | some .dir => v.walk k trailing rest
      | some (.file _) => if rest.isEmpty ∧ !trailing then .ok k else .error .notDir

/-- The directory a path starts from, its non-empty names, and whether it ends with a
slash. -/
def start (v : Volume) (p : String) : String × List String × Bool :=
  let names := (Path.names p).filter (· ≠ "")
  (if Path.isAbs p then "/" else Path.clean v.cwd, names, p.endsWith "/" ∧ !names.isEmpty)

/-- The entry a path leads to, by its cleaned path. The empty path leads nowhere. -/
def locate (v : Volume) (p : String) : Except Errno String :=
  if p = "" then .error .noEntry
  else
    let (origin, names, trailing) := v.start p
    v.walk origin trailing names

/-- The directory that holds a path's last name, that name, and whether the path ends
with a slash; the root and the empty path have no last name. -/
def locateParent (v : Volume) (p : String) : Except Errno (String × String × Bool) :=
  if p = "" then .error .noEntry
  else
    let (origin, names, trailing) := v.start p
    match names.getLast? with
    | none => .error .exists
    | some last => do
      let dir ← v.walk origin true names.dropLast
      pure (dir, last, trailing)

/-- The entry a path names, walked as the system does on a native volume and cleaned
first otherwise. -/
def lookup (v : Volume) (p : String) : Option (String × Entry) :=
  if v.native then
    match v.locate p with
    | .ok k => (v.entry? k).map (k, ·)
    | .error _ => none
  else
    let k := v.resolve p
    (v.entry? k).map (k, ·)

end Volume
end LiveTail
