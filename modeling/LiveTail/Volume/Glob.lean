import LiveTail.Path.Pattern
import LiveTail.Volume.Walk
/-!
# Expanding patterns on a volume

A path with no pattern character names itself when something is there. Otherwise its
last name is matched against the sorted names of every directory its front expands to,
the front being expanded the same way first. A directory that cannot be listed adds
nothing. A malformed pattern is refused before anything is looked at.
-/
namespace LiveTail
namespace Volume

/-- The names directly inside a directory, in byte order. -/
def childNames (v : Volume) (dir : String) : List String :=
  let names := v.entries.filterMap fun (k, _) =>
    if inside dir k ∧ Path.dir k = dir then some (Path.base k) else none
  names.mergeSort fun a b => decide (a ≤ b)

/-- The front of a path up to and including its last slash, and its last name. -/
def splitLast (p : String) : String × String :=
  let cs := p.toList
  let name := (cs.reverse.takeWhile (· ≠ '/')).reverse
  (String.ofList (cs.take (cs.length - name.length)), String.ofList name)

/-- The directory part of a pattern: `.` for none, the root kept, a trailing slash
dropped otherwise. -/
def globDir (front : String) : String :=
  if front = "" then "."
  else if front = "/" then front
  else String.ofList (front.toList.dropLast)

/-- Adds the names in `dir` that match `pattern`, joined to `dir`. -/
def globIn (v : Volume) (dir pattern : String) (found : List String) :
    Except Path.BadPattern (List String) :=
  match v.lookup dir with
  | some (key, .dir) =>
    (v.childNames key).foldlM (fun acc n => do
      if ← Path.fits pattern n then pure (acc ++ [Path.join [dir, n]]) else pure acc) found
  | _ => .ok found

/-- The paths a pattern names, in order. -/
def glob (v : Volume) (pattern : String) : Nat → Except Path.BadPattern (List String)
  | 0 => .error {}
  | fuel + 1 => do
    let _ ← Path.fits pattern ""
    if !Path.hasMeta pattern then
      return if (v.lookup pattern).isSome then [pattern] else []
    let (front, name) := splitLast pattern
    let dir := globDir front
    if !Path.hasMeta dir then v.globIn dir name []
    else if dir = pattern then .error {}
    else
      let dirs ← v.glob dir fuel
      dirs.foldlM (fun acc d => v.globIn d name acc) []

end Volume
end LiveTail
