import LiveTail.Volume.Handle
/-!
# Changing a volume

Directories are made with their missing parents; a file on the way stops that with "not
a directory", naming the deepest existing path. On the system's own file system every
call walks its paths name by name and fails as the system call of its name does. Writing or appending creates the file and
its directories; on a directory it fails. Truncation cuts or extends with zero bytes.
Removal refuses a directory that holds anything, and the root. Renaming moves a file's
node, replacing a file at the target; it refuses a directory as source or target and a
target whose directory is missing.
-/
namespace LiveTail
namespace Volume

/-- The directory that holds a cleaned path. -/
def parentKey (key : String) : String := Path.dir key

/-- The cleaned paths from the root down to `key`, the root excluded. -/
def chain (key : String) : List String :=
  let names := (Path.names key).filter (· ≠ "")
  (List.range names.length).map fun i => "/" ++ "/".intercalate (names.take (i + 1))

/-- Makes one directory as the system call does: the directory that holds it must be
there, and nothing may stand at its name. -/
def mkdirOne (v : Volume) (p : String) : Except Errno Volume := do
  let (dir, name, _) ← v.locateParent p
  if name = "." ∨ name = ".." then throw .exists
  let k := childKey dir name
  match v.entry? k with
  | some _ => throw .exists
  | none => pure (v.setEntry k .dir)

/-- The text of a path before its last name: trailing slashes, the last name and the
slash before it go. -/
def parentText (p : String) : String :=
  let cs := (p.toList.reverse.dropWhile (· = '/')).dropWhile (· ≠ '/')
  String.ofList (cs.drop 1).reverse

/-- Makes a directory and its missing parents as the system does, by the text of the
path: a directory already there is fine and anything else there is not; otherwise the
parents are made first, then the directory, a directory found there after all being fine. -/
def mkdirAllNative (v : Volume) (p : String) : Nat → Except FsError Volume
  | 0 => .ok v
  | fuel + 1 =>
    match v.locate p with
    | .ok k => if v.entry? k = some .dir then .ok v else .error ⟨"mkdir", p, none, .notDir⟩
    | .error _ => do
      let parent := parentText p
      let v ← if parent.isEmpty then pure v else v.mkdirAllNative parent fuel
      match v.mkdirOne p with
      | .ok v => .ok v
      | .error e =>
        match v.lookup p with
        | some (_, .dir) => .ok v
        | _ => .error ⟨"mkdir", p, none, e⟩

/-- Opens a path for writing with creation, as the system call does: the directory that
holds it must be there, and a directory, a trailing slash or a last name `.` or `..` is
refused as a directory. The node of the file, there already or new and empty. -/
def create (v : Volume) (p : String) : Except Errno (Nat × Volume) := do
  let (dir, name, trailing) ← v.locateParent p
  if trailing ∨ name = "." ∨ name = ".." then throw .isDir
  let k := childKey dir name
  match v.entry? k with
  | some .dir => throw .isDir
  | some (.file n) => pure (n, v)
  | none =>
    let (m, v) := v.newNode ByteArray.empty
    pure (m, v.setEntry k (.file m))

/-- Makes a directory and its missing parents. -/
def mkdirAll (v : Volume) (p : String) : Except FsError Volume :=
  if v.native then v.mkdirAllNative p (p.length + 1) else
  let key := v.resolve p
  let steps := chain key
  -- the deepest existing path decides: a file there stops everything
  match (steps.reverse.find? fun k => (v.entry? k).isSome) with
  | some k =>
    if v.entry? k = some .dir then
      .ok (steps.foldl (fun v k => if (v.entry? k).isSome then v else v.setEntry k .dir) v)
    else .error ⟨"mkdir", k, none, .notDir⟩
  | none => .ok (steps.foldl (fun v k => v.setEntry k .dir) v)

/-- Writes `data` as the whole content of a path, or appends it, creating the file and
its directories. -/
def put (v : Volume) (p : String) (data : ByteArray) (append : Bool) : Except FsError Volume := do
  if v.native then
    match v.create p with
    | .error e => throw ⟨"open", p, none, e⟩
    | .ok (n, v) => return v.setBytes n (if append then v.bytes n ++ data else data)
  let key := v.resolve p
  let v ← v.mkdirAll (parentKey key)
  match v.entry? key with
  | some .dir => .error ⟨"open", key, none, .isDir⟩
  | some (.file n) =>
    if append then .ok (v.setBytes n (v.bytes n ++ data))
    else .ok (v.setBytes n data)
  | none =>
    let (m, v) := v.newNode data
    .ok (v.setEntry key (.file m))

/-- Cuts a file to `size` bytes or extends it with zeros. -/
def truncate (v : Volume) (p : String) (size : Int) : Except FsError Volume :=
  if v.native then
    if size < 0 then .error ⟨"truncate", p, none, .invalid⟩
    else match v.find "truncate" p with
      | .error e => .error e
      | .ok .dir => .error ⟨"truncate", p, none, .isDir⟩
      | .ok (.file n) =>
        let data := v.bytes n
        let k := size.toNat
        .ok (v.setBytes n (if k ≤ data.size then data.extract 0 k else data ++ ⟨Array.replicate (k - data.size) 0⟩))
  else
  let key := v.resolve p
  let shown := if v.cwd = "/" then key else p
  match v.entry? key with
  | none => .error ⟨"truncate", shown, none, .noEntry⟩
  | some .dir => .error ⟨"truncate", shown, none, .isDir⟩
  | some (.file n) =>
    if size < 0 then .error ⟨"truncate", shown, none, .invalid⟩
    else
      let data := v.bytes n
      let k := size.toNat
      let cut := if k ≤ data.size then data.extract 0 k
        else data ++ ⟨Array.replicate (k - data.size) 0⟩
      .ok (v.setBytes n cut)

/-- Removes a file or an empty directory as the system does: a directory named by a last
`.` is an invalid argument, and one named by `..` is not empty. -/
def removeNative (v : Volume) (p : String) : Except FsError Volume :=
  match v.locate p with
  | .error e => .error ⟨"remove", p, none, e⟩
  | .ok k =>
    match v.entry? k with
    | some .dir =>
      let last := ((Path.names p).filter (· ≠ "")).getLast?
      if last = some "." then .error ⟨"remove", p, none, .invalid⟩
      else if last = some ".." ∨ k = "/" ∨ v.entries.any (fun e => inside k e.1) then
        .error ⟨"remove", p, none, .notEmpty⟩
      else .ok (v.eraseEntry k)
    | _ => .ok (v.eraseEntry k)

/-- Removes a file or an empty directory. -/
def remove (v : Volume) (p : String) : Except FsError Volume :=
  if v.native then v.removeNative p else
  let key := v.resolve p
  match v.entry? key with
  | none => .error ⟨"remove", p, none, .noEntry⟩
  | some .dir =>
    if key = "/" ∨ v.entries.any (fun e => inside key e.1) then .error ⟨"remove", p, none, .notEmpty⟩
    else .ok (v.eraseEntry key)
  | some (.file _) => .ok (v.eraseEntry key)

/-- Moves the entry at `ka`, and everything inside it, to `kb`. -/
def moveTree (v : Volume) (ka kb : String) : Volume :=
  let moved := v.entries.filterMap fun (k, e) =>
    if k = ka then some (kb, e)
    else if inside ka k then some (kb ++ (k.drop ka.length).toString, e)
    else none
  let kept := v.entries.filter fun (k, _) => k ≠ ka ∧ !inside ka k ∧ k ≠ kb ∧ !inside kb k
  { v with entries := kept ++ moved }

/-- Renames as the system call does: both names' directories must be there; a file named
with a trailing slash is not a directory; a directory cannot move inside itself, nor onto
a directory inside which it lies; a directory may only replace an empty directory, and a
file only a file. -/
def renameCall (v : Volume) (a b : String) : Except Errno Volume := do
  let (da, na, ta) ← v.locateParent a
  let (db, nb, tb) ← v.locateParent b
  if na = "." ∨ na = ".." ∨ nb = "." ∨ nb = ".." then throw .busy
  let ka := childKey da na
  let kb := childKey db nb
  let source ← match v.entry? ka with
    | none => throw .noEntry
    | some e => pure e
  if source ≠ .dir ∧ (ta ∨ tb) then throw .notDir
  if source = .dir ∧ inside ka kb then throw .invalid
  if inside kb ka then throw .notEmpty
  if ka = kb then return v
  match source, v.entry? kb with
  | .dir, some (.file _) => throw .notDir
  | .file _, some .dir => throw .isDir
  | .dir, some .dir => if v.entries.any (fun e => inside kb e.1) then throw .notEmpty else pure (v.moveTree ka kb)
  | _, _ => pure (v.moveTree ka kb)

/-- Renames as the system does: a directory at the target is refused as existing, unless
it is the source under another name, after the source has been looked up. -/
def renameNative (v : Volume) (a b : String) : Except FsError Volume :=
  let err (e : Errno) : FsError := ⟨"rename", a, some b, e⟩
  let target := v.lookup b
  match target with
  | some (kb, .dir) =>
    match v.locate a with
    | .error e => .error (err e)
    | .ok ka =>
      if a = b ∨ ka ≠ kb then .error (err .exists)
      else (v.renameCall a b).mapError err
  | _ => (v.renameCall a b).mapError err

/-- Moves a file to another path. -/
def rename (v : Volume) (a b : String) : Except FsError Volume :=
  if v.native then v.renameNative a b else
  let ka := v.resolve a
  let kb := v.resolve b
  let err (e : Errno) : FsError := ⟨"rename", a, some b, e⟩
  match v.entry? ka with
  | none => .error (err .noEntry)
  | some .dir => .error (err .invalid)
  | some (.file n) =>
    match v.entry? kb with
    | some .dir => .error (err .isDir)
    | _ =>
      if v.entry? (parentKey kb) ≠ some .dir then .error (err .noEntry)
      else if ka = kb then .ok v
      else .ok ((v.eraseEntry ka).setEntry kb (.file n))

/-- Changes a path's permissions, which reading here does not depend on. -/
def chmod (v : Volume) (p : String) : Except FsError Volume :=
  (v.find "chmod" p).map fun _ => v

/-- Opens a path for writing, creating and emptying it, and writes `data`: the open fault,
then a missing directory, then a directory in the way. -/
def writeFile (v : Volume) (p : String) (data : ByteArray) : Except FsError Volume :=
  let key := v.resolve p
  if (v.faultsAt key).opening then .error ⟨"open", p, none, .injected⟩
  else if v.native then
    match v.create p with
    | .error e => .error ⟨"open", p, none, e⟩
    | .ok (n, v) => .ok (v.setBytes n data)
  else match v.entry? key with
    | some .dir => .error ⟨"open", p, none, .isDir⟩
    | some (.file n) => .ok (v.setBytes n data)
    | none =>
      match v.entry? (parentKey key) with
      | none => .error ⟨"open", p, none, .noEntry⟩
      | some (.file _) => .error ⟨"open", p, none, .notDir⟩
      | some .dir =>
        let (m, v) := v.newNode data
        .ok (v.setEntry key (.file m))

/-- Reads a whole file: open, a status call whose failure only costs the size hint, then
reads until the end, one that returns the bytes and one that finds the end. -/
def readAll (v : Volume) (p : String) : Except FsError ByteArray × Volume :=
  match v.openRead p with
  | .error e => (.error e, v)
  | .ok h =>
    let (_, v) := v.statHandle h
    let size := match h.node with
      | some n => (v.bytes n).size
      | none => 0
    match v.read h (size + 512) with
    | (.error e, _, v) => (.error e, v)
    | (.ok data, h, v) =>
      if data.size = 0 then (.ok data, v)
      else match v.read h 512 with
        | (.error e, _, v) => (.error e, v)
        | (.ok _, _, v) => (.ok data, v)

end Volume
end LiveTail
