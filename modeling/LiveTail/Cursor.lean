import LiveTail.Volume.Handle
/-!
# Cursors

A cursor reads one regular file from an offset. Opening refuses what cannot be opened,
what has no status and directories, each as "not accessible" with the reason after it.
Reading up to the end is not a failure. Once closed, a cursor answers every call with the
bare "not accessible"; closing again does nothing.
-/
namespace LiveTail

/-- A file being read; the handle is gone once closed. -/
structure Cursor where
  /-- The path as the caller wrote it. -/
  path : String
  handle : Option Handle
  deriving Repr

namespace Cursor

/-- The failure of a closed cursor. -/
def notAccessible : Failure := ⟨.notAccessible, "file not accessible"⟩

/-- "not accessible" with a reason. -/
def refused (reason : String) : Failure := ⟨.notAccessible, "file not accessible: " ++ reason⟩

/-- Opens a regular file: open, status, then the directory check. A handle that is not kept
is closed again. -/
def «open» (v : Volume) (p : String) : Except Failure Cursor × Volume :=
  match v.openRead p with
  | .error e => (.error (refused ("opening " ++ p ++ ": " ++ e.message)), v)
  | .ok h =>
    match v.countOpen.statHandle h with
    | (.error e, v) => (.error (refused ("stat " ++ p ++ ": " ++ e.message)), v.countClose)
    | (.ok i, v) =>
      if i.isDir then (.error (refused (p ++ " is a directory")), v.countClose)
      else (.ok ⟨p, some h⟩, v)

/-- Moves to the end of the file; the new offset. -/
def seekEnd (v : Volume) (c : Cursor) : Except Failure (Nat × Cursor) :=
  match c.handle with
  | none => .error notAccessible
  | some h => match v.seekEnd h with
    | .error e => .error (e.toFailure.wrap ("seek to end of " ++ c.path))
    | .ok (off, h) => .ok (off, { c with handle := some h })

/-- Reads up to `n` bytes; at the end, none. -/
def read (v : Volume) (c : Cursor) (n : Nat) : Except Failure ByteArray × Cursor × Volume :=
  match c.handle with
  | none => (.error notAccessible, c, v)
  | some h => match v.read h n with
    | (.error e, _, v) => (.error (e.toFailure.wrap ("reading " ++ c.path)), c, v)
    | (.ok data, h, v) => (.ok data, { c with handle := some h }, v)

/-- The current size of the file. -/
def size (v : Volume) (c : Cursor) : Except Failure Nat × Volume :=
  match c.handle with
  | none => (.error notAccessible, v)
  | some h => match v.statHandle h with
    | (.error e, v) => (.error (e.toFailure.wrap ("stat " ++ c.path)), v)
    | (.ok i, v) => (.ok i.size, v)

/-- Whether the path still exists. -/
def «exists» (v : Volume) (c : Cursor) : Except Failure Bool :=
  match c.handle with
  | none => .error notAccessible
  | some _ => (v.exists? c.path).mapError FsError.toFailure

/-- Closes the cursor; a closed cursor stays closed. -/
def close (c : Cursor) : Cursor := { c with handle := none }

/-- What closing the cursor does to the volume: the handle it holds, if any, is closed. -/
def closeHandle (v : Volume) (c : Cursor) : Volume :=
  match c.handle with
  | none => v
  | some _ => v.countClose

/-- The cursor is closed. -/
def closed (c : Cursor) : Bool := c.handle.isNone

end Cursor
end LiveTail
