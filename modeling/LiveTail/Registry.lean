import LiveTail.Session.Run
/-!
# Registries

A registry keeps at most one session per identifier. Starting under an identifier in use
first stops the session there, so its ending comes before anything of the new one. A
start that fails leaves the identifier free and hands nothing to the listener. A session
that ended on its own stays registered, as stopped, until it is stopped or replaced;
stopping it then hands out nothing more. After closing, every session is stopped and
every start is refused.
-/
namespace LiveTail

/-- Sessions by identifier, over one volume. -/
structure Registry where
  volume : Volume
  options : TailOptions := {}
  /-- Registered sessions, in the order they were started. -/
  entries : List Session := []
  closed : Bool := false
  /-- What sessions handed to their listeners, in order. -/
  heard : Array Delivery := #[]
  deriving Inhabited

namespace Registry

/-- The session registered under an identifier. -/
def find? (r : Registry) (id : String) : Option Session := r.entries.find? (·.id = id)

/-- The registered identifiers in order, each with whether its session still runs. -/
def ids (r : Registry) : List (String × Bool) :=
  (r.entries.map fun s => (s.id, !s.ended)).mergeSort fun a b => decide (a.1 ≤ b.1)

/-- The phase of the session under an identifier. -/
def phase? (r : Registry) (id : String) : Option Phase := (r.find? id).map (·.phase)

/-- Takes the session under `id` out of the registry; if it still runs, it ends as
stopped. -/
def release (r : Registry) (id : String) : Registry :=
  match r.find? id with
  | none => r
  | some s =>
    let r := { r with entries := r.entries.filter (·.id ≠ id) }
    if s.ended then r
    else
      let (_, out) := s.finish Ending.stopped
      { r with heard := r.heard ++ out, volume := s.cursor.closeHandle r.volume }

/-- Stops the session under an identifier; an unknown identifier is no failure. -/
def stop (r : Registry) (id : String) : Registry := r.release id

/-- Stops every registered session. -/
def stopAll (r : Registry) : Registry := (r.entries.map (·.id)).foldl release r

/-- Refuses further starts and stops every session. -/
def close (r : Registry) : Registry := { r with closed := true }.stopAll

/-- The failure of a start whose file did not open within the launch time. -/
def launchFailure (id : String) (limit : Duration) : Failure :=
  ⟨.launchFailed, "couldn't start file listening: " ++ id ++ " did not start within " ++ limit.text⟩

/-- The failure of a start whose file could not be opened or positioned. -/
def openFailure (f : Failure) : Failure :=
  ⟨.fileOpenFailed, "couldn't open the file for read access: " ++ f.message⟩

/-- Opens the file of a new session: the cursor, the move to the end when asked, and the
size it starts from. A cursor that cannot be moved or measured is closed again. -/
def launch (v : Volume) (path : String) (skipToEnd : Bool) :
    Except Failure (Cursor × Nat) × Volume :=
  match Cursor.open v path with
  | (.error f, v) => (.error f, v)
  | (.ok c, v) =>
    let moved := if skipToEnd then (c.seekEnd v).map (·.2) else .ok c
    match moved with
    | .error f => (.error f, c.closeHandle v)
    | .ok c =>
      match c.size v with
      | (.error f, v) => (.error f, c.closeHandle v)
      | (.ok size, v) => (.ok (c, size), v)

/-- Starts session `number` under `id` on `path`. -/
def start (r : Registry) (number : Nat) (id path : String) (skipToEnd : Bool)
    (listener : Option Listener) : Except Failure Unit × Registry :=
  if id = "" then (.error ⟨.emptyIdentifier, "empty session identifier"⟩, r)
  else match listener with
  | none => (.error ⟨.noListener, "nil observer"⟩, r)
  | some l =>
    if r.closed then (.error ⟨.registryClosed, "registry closed"⟩, r)
    else
      let r := r.release id
      let limit := r.options.launchTimeout
      if (r.volume.delayAt (r.volume.resolve path) : Int) * Duration.millisecond ≥ limit.nanos then
        (.error (launchFailure id limit), r)
      else
        match launch r.volume path skipToEnd with
        | (.error f, v) => (.error (openFailure f), { r with volume := v })
        | (.ok (c, size), v) =>
          let s : Session := { number, id, path, cursor := c, lastSize := size, listener := l }
          (.ok (), { r with volume := v, entries := r.entries ++ [s] })

/-- Carries out what a reaction asked. -/
def apply (r : Registry) : Request → Registry
  | .stop id => r.release id
  | .stopAll => r.stopAll

/-- Lets the session with a given number run until nothing changes. -/
def settleOne (r : Registry) (number : Nat) : Registry :=
  match r.entries.find? (·.number = number) with
  | none => r
  | some s =>
    if s.ended then r
    else
      let run := s.settle r.options r.volume
      let r :=
        { r with volume := run.volume, heard := r.heard ++ run.heard,
                 entries := r.entries.map fun t => if t.number = number then run.session else t }
      run.requests.foldl apply r

/-- Lets every registered session run until nothing changes. -/
def settle (r : Registry) : Registry := (r.entries.map (·.number)).foldl settleOne r

/-- Hands over what was heard since the last call. -/
def drain (r : Registry) : Array Delivery × Registry := (r.heard, { r with heard := #[] })

end Registry
end LiveTail
