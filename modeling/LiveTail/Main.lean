import LiveTail.Cli.Program
/-!
# The command line

Runs the program on the real file system. The tree under the working directory is read
into a volume, the program runs on it, what it writes goes to stdout and stderr, and the
files it wrote are written back. `host` reads its commands from stdin to the end first. A
`tail` looks at the files it follows every tenth of a second and hands their changes to the
program, until every session has ended.
-/
namespace LiveTail.CommandLine

/-- The environment variables the program reads. -/
def environmentNames : List String :=
  ["HOME", "XDG_CACHE_HOME", "TMPDIR", "SIMPLEIO_COMPLETION_DESCRIPTIONS", "COBRA_COMPLETION_DESCRIPTIONS"] ++
  ["poll_interval", "read_buffer_size", "launch_timeout", "watch", "sandbox_dir", "log", "log.level",
   "log.encoding"].map Layers.envName

/-- Reads the environment variables the program reads. -/
def environment : IO Environment := do
  let mut env : Environment := []
  for name in environmentNames do
    if let some value ← IO.getEnv name then env := env ++ [(name, value)]
  return env

/-- Adds the entries below a directory to a volume, at most `depth` levels down; what
cannot be read is left out. -/
partial def addEntries (v : Volume) (entries : Array IO.FS.DirEntry) (depth : Nat) : IO Volume := do
  let mut v := v
  for e in entries do
    let key := Path.clean e.path.toString
    if ← e.path.isDir then
      v := v.setEntry key .dir
      if depth > 0 then
        match ← (e.path.readDir).toBaseIO with
        | .ok inner => v ← addEntries v inner (depth - 1)
        | .error _ => pure ()
    else
      match ← (IO.FS.readBinFile e.path).toBaseIO with
      | .ok data =>
        let (n, v') := v.newNode data
        v := v'.setEntry key (.file n)
      | .error _ => pure ()
  return v

/-- The volume of the working directory's tree. -/
def loadVolume : IO Volume := do
  let cwd ← IO.currentDir
  let base : Volume := { cwd := Path.clean cwd.toString, native := true }
  let v := match base.mkdirAll base.cwd with
    | .ok v => v
    | .error _ => base
  addEntries v (← cwd.readDir) 8

/-- Writes back the files of `after` that are new or changed since `before`. -/
def writeBack (before after : Volume) : IO Unit := do
  let old := before.listing
  for (key, data) in after.listing do
    if Volume.inside after.cwd key then
      match data with
      | none => IO.FS.createDirAll key
      | some bytes =>
        if old.lookup key != some (some bytes) then IO.FS.writeBinFile key bytes

/-- Hands the changes of one followed file on disk to the process. -/
def refreshFile (p : Cli.Process) (key : String) : IO Cli.Process := do
  let v := p.files
  let current : Option ByteArray := match v.entry? key with
    | some (.file n) => some (v.bytes n)
    | _ => none
  match ← (IO.FS.readBinFile key).toBaseIO, current with
  | .error _, some _ => return (p.change (·.remove key)).2
  | .error _, none => return p
  | .ok now, none => return (p.change (·.put key now false)).2
  | .ok now, some was =>
    if now == was then return p
    else if was.size ≤ now.size ∧ now.extract 0 was.size == was then
      return (p.change (·.put key (now.extract was.size now.size) true)).2
    else
      let p := (p.change (·.truncate key 0)).2
      return (p.change (·.put key now true)).2

/-- Follows the files of a tailing process until it ends, printing what it writes. -/
partial def follow (p : Cli.Process) (shown : Nat) : IO Cli.Process := do
  let out := (p.stdout.drop shown).toString
  IO.print out
  (← IO.getStdout).flush
  let shown := shown + out.length
  match p.activity with
  | .tailing src _ _ _ =>
    IO.sleep 100
    let mut p := p
    for key in src.paths do
      p ← refreshFile p key
    follow p shown
  | .exited _ => return p

end LiveTail.CommandLine

open LiveTail in
/-- Runs the program on the command line's arguments. -/
def main (args : List String) : IO UInt32 := do
  let env ← CommandLine.environment
  let v ← CommandLine.loadVolume
  let (c, _, _) := Cli.find args
  let stdin ← if c.path = ["host"] then (← IO.getStdin).readBinToEnd else pure ByteArray.empty
  let p := Cli.start env v stdin args
  let p ← CommandLine.follow p 0
  IO.eprint p.stderr
  CommandLine.writeBack v p.files
  return (p.exitCode?.getD 0).toUInt32
