import LiveTail.Bytes.Utf8
import LiveTail.Event
import LiveTail.Registry
import LiveTail.Text.Quote
import LiveTail.Volume.Glob
/-!
# File sources

A file source tails every file its patterns name, one session per file under the file's
absolute path, and hands the lines and endings of all of them to one reader as events.

Patterns are expanded in order. A pattern that names nothing is taken as a path, which
must exist; a malformed pattern or a missing path stops the expansion. Directories are
left out and every file is taken once, where it was first named. Starting fails when no
file is named, or when no named file can be tailed; the files that cannot be tailed are
reported one by one (at most 32 reports are kept). Stopping ends every session started
and closes the events; stopping again does nothing.
-/
namespace LiveTail

/-- How many reports of files that could not be tailed are kept. -/
def reportCapacity : Nat := 32

/-- Why expanding the patterns failed. -/
inductive Expansion where
  | badPattern (pattern : String)
  | missing (path : String)
  deriving DecidableEq, Repr

/-- The message of a failed expansion. -/
def Expansion.message : Expansion → String
  | .badPattern p => "invalid glob " ++ Quote.quote p ++ ": " ++ Path.BadPattern.message {}
  | .missing p => "file not found: " ++ p

/-- Adds a path unless it is already there. -/
def addNew (paths : List String) (p : String) : List String :=
  if paths.contains p then paths else paths ++ [p]

/-- The absolute paths of the files the patterns name, each once, in order. -/
def resolvePatterns (v : Volume) (patterns : List String) : Except Expansion (List String) :=
  patterns.foldlM (fun acc pattern =>
    match v.glob pattern (pattern.length + 1) with
    | .error _ => .error (.badPattern pattern)
    | .ok [] =>
      let abs := Path.abs v.cwd pattern
      if (v.entry? abs).isSome then .ok (addNew acc abs) else .error (.missing abs)
    | .ok found =>
      .ok (found.foldl (fun acc m =>
        let abs := Path.abs v.cwd m
        match v.entry? abs with
        | some (.file _) => addNew acc abs
        | _ => acc) acc)) []

/-- The event a session's delivery becomes. -/
def Delivery.event : Delivery → Event
  | .line _ id text => .line id (Utf8.read text)
  | .ending _ id e => .ending id (some e.kind) e.message

/-- A source of events from the files some patterns name. -/
structure FileSource where
  patterns : List String
  /-- Whether the lines already in a file are read too. -/
  fromStart : Bool
  registry : Registry
  /-- The files tailed, in the order they started. -/
  paths : List String := []
  /-- Whether sessions were started and are not yet stopped. -/
  running : Bool := false
  /-- Whether the events are closed. -/
  closed : Bool := false
  deriving Inhabited

namespace FileSource

/-- Starts one session per named file: success or why it failed, the reports of files
that could not be tailed, and the source. -/
def start (fs : FileSource) : Except String Unit × List String × FileSource :=
  match resolvePatterns fs.registry.volume fs.patterns with
  | .error e => (.error ("resolving file patterns: " ++ e.message), [], fs)
  | .ok [] => (.error ("no files matched patterns: [" ++ " ".intercalate fs.patterns ++ "]"), [], fs)
  | .ok paths =>
    let step := fun (acc : List String × List String × Registry × Nat) p =>
      let (started, reports, r, number) := acc
      match r.start (number + 1) p p (!fs.fromStart) (some {}) with
      | (.ok (), r) => (started ++ [p], reports, r, number + 1)
      | (.error f, r) => (started, reports ++ ["tailing " ++ p ++ ": " ++ f.message], r, number + 1)
    let (started, reports, r, _) := paths.foldl step ([], [], fs.registry, 0)
    let reports := reports.take reportCapacity
    if started.isEmpty then
      (.error ("none of " ++ toString paths.length ++ " matched files could be tailed"), reports,
        { fs with registry := r, closed := true })
    else (.ok (), reports, { fs with registry := r, paths := started, running := true })

/-- Stops every session started and closes the events. -/
def stop (fs : FileSource) : FileSource :=
  if fs.running then
    let r := fs.paths.foldl Registry.stop fs.registry
    { fs with registry := r, running := false }
  else fs

/-- Lets the sessions run until nothing changes and hands over the events since the last
call; once the events are closed nothing more is handed over. -/
def poll (fs : FileSource) : List Event × FileSource :=
  let (heard, r) := fs.registry.settle.drain
  let events := if fs.closed then [] else heard.toList.map Delivery.event
  let closed := fs.closed || (!fs.running && !fs.paths.isEmpty)
  (events, { fs with registry := r, closed })

end FileSource
end LiveTail
