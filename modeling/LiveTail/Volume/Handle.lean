import LiveTail.Volume.Walk
/-!
# Handles

An open handle reads its node from an offset. Reading past the end gives nothing; a
handle of a directory cannot read; a closed handle refuses everything. The checks run in
a fixed order: closed first, then an injected fault, then the kind of node. Status and
read faults count their calls on the volume, which is why these calls return the volume.
-/
namespace LiveTail

/-- An open file or directory. -/
structure Handle where
  /-- The path as the caller wrote it. -/
  path : String
  /-- The cleaned path, under which faults are looked up. -/
  key : String
  /-- The node read, or none for a directory. -/
  node : Option Nat
  offset : Nat := 0
  isOpen : Bool := true
  deriving Repr

namespace Volume

/-- The entry a path names, or why the walk to it failed, for a call named `op`. -/
def find (v : Volume) (op p : String) : Except FsError Entry :=
  if v.native then
    match v.locate p with
    | .ok k => match v.entry? k with
      | some e => .ok e
      | none => .error ⟨op, p, none, .noEntry⟩
    | .error e => .error ⟨op, p, none, e⟩
  else match v.entry? (v.resolve p) with
    | some e => .ok e
    | none => .error ⟨op, p, none, .noEntry⟩

/-- Looks a path up, as a status call on the volume: the lookup fault, then existence. -/
def stat (v : Volume) (p : String) : Except FsError Info :=
  let key := v.resolve p
  if (v.faultsAt key).lookup then .error ⟨"stat", p, none, .injected⟩
  else (v.find "stat" p).map v.info

/-- Whether a path exists; only a missing path is a plain no. -/
def exists? (v : Volume) (p : String) : Except FsError Bool :=
  match v.stat p with
  | .ok _ => .ok true
  | .error e => if e.errno = .noEntry then .ok false else .error e

/-- Opens a path for reading: the open fault, then existence. -/
def openRead (v : Volume) (p : String) : Except FsError Handle :=
  let key := v.resolve p
  if (v.faultsAt key).opening then .error ⟨"open", p, none, .injected⟩
  else (v.find "open" p).map fun
    | .dir => ⟨p, key, none, 0, true⟩
    | .file n => ⟨p, key, some n, 0, true⟩

/-- Reads up to `n` bytes at the handle's offset and advances it. -/
def read (v : Volume) (h : Handle) (n : Nat) : Except FsError ByteArray × Handle × Volume :=
  if !h.isOpen then (.error ⟨"read", h.path, none, .closed⟩, h, v)
  else
    let f := v.faultsAt h.key
    let (fails, left) := Faults.spend f.reading
    let v := if f.reading = left then v else v.setFaults h.key { f with reading := left }
    if fails then (.error ⟨"read", h.path, none, .injected⟩, h, v)
    else match h.node with
      | none => (.error ⟨"read", h.path, none, .isDir⟩, h, v)
      | some node =>
        let data := v.bytes node
        if h.offset ≥ data.size then (.ok ByteArray.empty, h, v)
        else
          let stop := min data.size (h.offset + n)
          (.ok (data.extract h.offset stop), { h with offset := stop }, v)

/-- The status of the handle's node. -/
def statHandle (v : Volume) (h : Handle) : Except FsError Info × Volume :=
  if !h.isOpen then (.error ⟨"stat", h.path, none, .closed⟩, v)
  else
    let f := v.faultsAt h.key
    let (fails, left) := Faults.spend f.statting
    let v := if f.statting = left then v else v.setFaults h.key { f with statting := left }
    if fails then (.error ⟨"stat", h.path, none, .injected⟩, v)
    else match h.node with
      | none => (.ok ⟨0, true⟩, v)
      | some node => (.ok ⟨(v.bytes node).size, false⟩, v)

/-- Moves the handle to the end of its node. -/
def seekEnd (v : Volume) (h : Handle) : Except FsError (Nat × Handle) :=
  if !h.isOpen then .error ⟨"seek", h.path, none, .closed⟩
  else if (v.faultsAt h.key).seeking then .error ⟨"seek", h.path, none, .injected⟩
  else
    let size := match h.node with
      | none => 0
      | some node => (v.bytes node).size
    .ok (size, { h with offset := size })

end Volume

/-- One more handle opened by a cursor. -/
def Volume.countOpen (v : Volume) : Volume := { v with opens := v.opens + 1 }

/-- One more handle closed by a cursor. -/
def Volume.countClose (v : Volume) : Volume := { v with closes := v.closes + 1 }

@[simp] theorem Volume.countOpen_blobs (v : Volume) : v.countOpen.blobs = v.blobs := rfl
@[simp] theorem Volume.countClose_blobs (v : Volume) : v.countClose.blobs = v.blobs := rfl

/-- Closes a handle; a second close fails. -/
def Handle.close (h : Handle) : Except FsError Handle :=
  if h.isOpen then .ok { h with isOpen := false } else .error ⟨"close", h.path, none, .closed⟩

end LiveTail
