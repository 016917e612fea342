import LiveTail.Path.Basic
import LiveTail.Failure
/-!
# Volumes

A volume is a tree of directories and files. Paths name entries; a file entry points to a
node, which holds the bytes, so an open handle keeps reading its node after the path is
removed or renamed. The root always exists. Paths are resolved against a working
directory and cleaned; failures show the path as the caller wrote it.

Faults can be injected per path: on opening, on a handle's status, on reading, on the
lookup of the path and on seeking. Status and read faults may let a number of calls on the
path succeed first; the count is shared by every handle of the path.
-/
namespace LiveTail

/-- What a path names. -/
inductive Entry where
  | dir
  | file (node : Nat)
  deriving DecidableEq, Repr

/-- Why a file system call failed. -/
inductive Errno where
  | noEntry
  | notDir
  | isDir
  | exists
  | notEmpty
  | invalid
  | busy
  | closed
  | injected
  deriving DecidableEq, Repr

/-- The reason as the system words it. -/
def Errno.text : Errno → String
  | .noEntry => "no such file or directory"
  | .notDir => "not a directory"
  | .isDir => "is a directory"
  | .exists => "file exists"
  | .notEmpty => "directory not empty"
  | .invalid => "invalid argument"
  | .busy => "device or resource busy"
  | .closed => "file already closed"
  | .injected => "injected fault"

/-- A failed call: its name, the path (and for a rename the target) as shown, and why. -/
structure FsError where
  op : String
  path : String
  target : Option String := none
  errno : Errno
  deriving DecidableEq, Repr

namespace FsError

/-- `op path: reason`, or `op path target: reason`. -/
def message (e : FsError) : String :=
  e.op ++ " " ++ e.path ++ (match e.target with | some t => " " ++ t | none => "") ++ ": "
    ++ e.errno.text

/-- The failure: a missing path and a closed handle keep their causes. -/
def toFailure (e : FsError) : Failure :=
  ⟨match e.errno with
    | .noEntry => .notExist
    | .closed => .closed
    | _ => .other, e.message⟩

end FsError

/-- What a status call reports. -/
structure Info where
  size : Nat
  isDir : Bool
  deriving DecidableEq, Repr

/-- Faults injected on one path. A count is the number of calls that still succeed;
zero fails every call. -/
structure Faults where
  opening : Bool := false
  statting : Option Nat := none
  reading : Option Nat := none
  lookup : Bool := false
  seeking : Bool := false
  deriving DecidableEq, Repr

/-- The calls a fault can hit. -/
inductive FaultTarget where
  | opening
  | statting
  | reading
  | lookup
  | seeking
  deriving DecidableEq, Repr

/-- Counts one call against a fault: whether it fails, and the count after it. -/
def Faults.spend : Option Nat → Bool × Option Nat
  | none => (false, none)
  | some 0 => (true, some 0)
  | some (k + 1) => (false, some k)

/-- A tree of entries and the nodes that hold file bytes. -/
structure Volume where
  /-- Every entry but the root, by cleaned absolute path. -/
  entries : List (String × Entry) := []
  /-- File bytes by node. -/
  blobs : Array ByteArray := #[]
  faults : List (String × Faults) := []
  /-- Milliseconds every open of a path waits first. -/
  delays : List (String × Nat) := []
  /-- Relative paths are read against this directory. -/
  cwd : String := "/"
  /-- Whether the volume is the operating system's file system: paths are walked name by
  name, calls fail as the system calls do, and writing a whole file renames a fresh copy
  over it, which puts a new node in place. -/
  native : Bool := false
  /-- How many handles cursors opened, and how many handles they closed. -/
  opens : Nat := 0
  closes : Nat := 0
  deriving Inhabited

namespace Volume

/-- The cleaned absolute path a caller's path names. -/
def resolve (v : Volume) (p : String) : String :=
  if Path.isAbs p then Path.clean p else Path.clean (v.cwd ++ "/" ++ p)

/-- The entry at a cleaned path. -/
def entry? (v : Volume) (key : String) : Option Entry :=
  if key = "/" then some .dir else (v.entries.lookup key)

/-- The bytes of a node. -/
def bytes (v : Volume) (node : Nat) : ByteArray := v.blobs.getD node ByteArray.empty

/-- The status of an entry. -/
def info (v : Volume) : Entry → Info
  | .dir => ⟨0, true⟩
  | .file n => ⟨(v.bytes n).size, false⟩

/-- The faults on a cleaned path. -/
def faultsAt (v : Volume) (key : String) : Faults := (v.faults.lookup key).getD {}

/-- Replaces the faults on a cleaned path. -/
def setFaults (v : Volume) (key : String) (f : Faults) : Volume :=
  { v with faults := (key, f) :: v.faults.filter (·.1 ≠ key) }

/-- The wait before opening a cleaned path, in milliseconds. -/
def delayAt (v : Volume) (key : String) : Nat := (v.delays.lookup key).getD 0

/-- Sets or clears a fault on a path. -/
def setFault (v : Volume) (p : String) (t : FaultTarget) (on : Bool) (after : Option Nat) :
    Volume :=
  let key := v.resolve p
  let f := v.faultsAt key
  let count := if on then some (after.getD 0) else none
  v.setFaults key <| match t with
    | .opening => { f with opening := on }
    | .statting => { f with statting := count }
    | .reading => { f with reading := count }
    | .lookup => { f with lookup := on }
    | .seeking => { f with seeking := on }

/-- Makes every open of a path wait first. -/
def setDelay (v : Volume) (p : String) (ms : Nat) : Volume :=
  let key := v.resolve p
  { v with delays := (key, ms) :: v.delays.filter (·.1 ≠ key) }

/-- Puts an entry at a cleaned path, replacing what was there. -/
def setEntry (v : Volume) (key : String) (e : Entry) : Volume :=
  if v.entries.any (·.1 = key) then
    { v with entries := v.entries.map fun (k, old) => if k = key then (k, e) else (k, old) }
  else { v with entries := v.entries ++ [(key, e)] }

/-- Removes the entry at a cleaned path. -/
def eraseEntry (v : Volume) (key : String) : Volume :=
  { v with entries := v.entries.filter (·.1 ≠ key) }

/-- A new node holding `data`. -/
def newNode (v : Volume) (data : ByteArray) : Nat × Volume :=
  (v.blobs.size, { v with blobs := v.blobs.push data })

/-- Replaces the bytes of a node. -/
def setBytes (v : Volume) (node : Nat) (data : ByteArray) : Volume :=
  { v with blobs := v.blobs.set! node data }

/-- `key` lies strictly inside the directory `dir`. -/
def inside (dir key : String) : Bool :=
  if dir = "/" then key ≠ "/" else key.startsWith (dir ++ "/")

/-- Every entry, the root first, then in path order, with the bytes of files. -/
def listing (v : Volume) : List (String × Option ByteArray) :=
  let sorted := v.entries.mergeSort fun a b => decide (a.1 ≤ b.1)
  ("/", none) :: sorted.map fun (k, e) =>
    match e with
    | .dir => (k, none)
    | .file n => (k, some (v.bytes n))

end Volume
end LiveTail
