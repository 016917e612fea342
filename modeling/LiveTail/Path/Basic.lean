/-!
# Slash-separated paths

Paths are texts of names separated by `/`; a leading `/` roots them. Cleaning reads them
by their names: empty names and `.` go, a `..` removes the name before it (at the root it
is dropped, in a relative path with nothing to remove it stays), and an empty result is
`.`. The last name (`base`), everything before it (`dir`), joining and making a path
absolute against a working directory are all read off the cleaned names.
-/
namespace LiveTail.Path

/-- The names of a path, in order, empty ones included. -/
def names (p : String) : List String := p.splitOn "/"

/-- Folds one name into the stack of kept names (last kept first). -/
def push (rooted : Bool) (kept : List String) (n : String) : List String :=
  if n = "" ∨ n = "." then kept
  else if n = ".." then
    match kept with
    | k :: rest => if k = ".." then n :: kept else rest
    | [] => if rooted then [] else [n]
  else n :: kept

/-- The path `p` names, with no empty name, no `.`, and `..` only in front of a relative
path. -/
def clean (p : String) : String :=
  let rooted := p.startsWith "/"
  let kept := ((names p).foldl (push rooted) []).reverse
  let body := "/".intercalate kept
  if rooted then "/" ++ body else if body = "" then "." else body

/-- The path is rooted. -/
def isAbs (p : String) : Bool := p.startsWith "/"

/-- The path with its trailing slashes removed. -/
def dropTrailingSlashes (p : String) : String :=
  String.ofList ((p.toList.reverse.dropWhile (· = '/')).reverse)

/-- The last name of a path: `.` for the empty path, `/` for the root. -/
def base (p : String) : String :=
  if p = "" then "."
  else
    let q := dropTrailingSlashes p
    if q = "" then "/" else ((names q).getLast?).getD q

/-- Everything before the last name, cleaned. -/
def dir (p : String) : String :=
  let cs := p.toList
  let front := (cs.reverse.dropWhile (· ≠ '/')).reverse
  clean (String.ofList front)

/-- The non-empty parts joined by `/` and cleaned; the empty path when all are empty. -/
def join (parts : List String) : String :=
  match parts.filter (· ≠ "") with
  | [] => ""
  | ps => clean ("/".intercalate ps)

/-- The path made absolute against the working directory `cwd`, cleaned. -/
def abs (cwd p : String) : String := if isAbs p then clean p else join [cwd, p]

end LiveTail.Path
