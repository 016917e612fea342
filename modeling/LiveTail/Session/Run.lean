import LiveTail.Session.Listener
import LiveTail.Cursor
import LiveTail.Lines.Splitter
import LiveTail.Dispatch
import LiveTail.Settings.Duration
/-!
# Running a session

A session polls its cursor: it reads a chunk, asks for the file's size, ends the session
if the size went below the size it saw last, and hands the chunk's complete lines to the
listener. A poll that read nothing checks that the path still exists and then waits.
Once cancelled, the session hands out no more lines; its ending is always handed out.

Between two steps of the world the sessions are left to run until nothing changes: every
running session reads up to the end of its file and, if nothing ends it, waits. A fault
that lets a number of calls succeed first fires while the session waits, since waiting
sessions keep polling.
-/
namespace LiveTail

/-- How sessions read and hand out events. -/
structure TailOptions where
  bufferSize : Nat := 2097152
  launchTimeout : Duration := ⟨5 * Duration.second⟩
  dispatch : Dispatch := .inline
  deriving Inhabited

/-- A session following one file. -/
structure Session where
  /-- The order in which the session was started. -/
  number : Nat
  id : String
  /-- The path as the caller wrote it. -/
  path : String
  cursor : Cursor
  /-- The size seen at the last poll. -/
  lastSize : Nat
  splitter : Splitter := {}
  listener : Listener
  phase : Phase := .polling
  cancelled : Bool := false

namespace Session

/-- The session has ended. -/
def ended (s : Session) : Bool := s.phase = .stopped

/-- Ends the session: the cursor closes, the fragment goes, the ending is handed out. The
caller, which holds the volume, closes the cursor's handle there (`Cursor.closeHandle`). -/
def finish (s : Session) (e : Ending) : Session × Array Delivery :=
  ({ s with phase := .stopped, cursor := s.cursor.close, splitter := {} },
    if s.listener.hearsEnding then #[.ending s.number s.id e] else #[])

/-- What one poll did. -/
structure Poll where
  session : Session
  volume : Volume
  heard : Array Delivery := #[]
  requests : List Request := []
  /-- Bytes read. -/
  read : Nat := 0
  ending : Option Ending := none

/-- The requests and the cancellation of the session that a reaction makes. -/
def react (s : Session) : Reaction → Session × List Request
  | .stopOwn => ({ s with cancelled := true }, [.stop s.id])
  | .stop id => ({ s with cancelled := s.cancelled || id = s.id }, [.stop id])
  | .stopAll => ({ s with cancelled := true }, [.stopAll])
  | _ => (s, [])

/-- Triggers are matched by the core equality of byte arrays. -/
local instance (priority := 2000) byteEquality : DecidableEq ByteArray := ByteArray.instDecidableEq

/-- Hands lines to the listener in order; a failing listener under inline dispatch ends
the session and the rest of the lines are dropped. -/
def deliver (d : Dispatch) (p : Poll) : List ByteArray → Poll
  | [] => p
  | line :: rest =>
    let s := p.session
    if s.cancelled then p
    else
      let heard := if s.listener.hearsLines then p.heard.push (.line s.number s.id line)
        else p.heard
      let p := { p with heard }
      if s.listener.trigger = some line then
        match s.listener.reaction with
        | .fail value =>
          if d = .inline then { p with ending := some (Ending.fault value) }
          else deliver d p rest
        | r =>
          let (s, reqs) := s.react r
          deliver d { p with session := s, requests := p.requests ++ reqs } rest
      else deliver d p rest

/-- A line that triggers a reaction other than a failure: the line is heard, the session
reacts, what it asks is kept, and the rest of the lines follow. -/
theorem deliver_react {d : Dispatch} {p p' : Poll} {line : ByteArray} {rest : List ByteArray}
    {s' : Session} {reqs : List Request} (hcan : ¬p.session.cancelled = true)
    (htrig : p.session.listener.trigger = some line)
    (hnf : ∀ value, p.session.listener.reaction = .fail value → False)
    (hreact : p.session.react p.session.listener.reaction = (s', reqs))
    (hp' : p' = { p with
      heard := if p.session.listener.hearsLines then
        p.heard.push (.line p.session.number p.session.id line) else p.heard }) :
    deliver d p (line :: rest) =
      deliver d { p' with session := s', requests := p'.requests ++ reqs } rest := by
  subst hp'
  rw [deliver]
  -- `hnf` is the side condition of the reaction's catch-all branch, which simp discharges
  simp only [show p.session.cancelled = false by simpa using hcan, htrig, Bool.false_eq_true,
    if_false, if_true]
  rw [hreact]

/-- One poll: read a chunk, ask the size, compare, deliver. -/
def poll (o : TailOptions) (v : Volume) (s : Session) : Poll :=
  match s.cursor.read v o.bufferSize with
  | (.error f, c, v) =>
    { session := { s with cursor := c }, volume := v, ending := some ⟨.readError, f.message⟩ }
  | (.ok data, c, v) =>
    let s := { s with cursor := c }
    match s.cursor.size v with
    | (.error f, v) => { session := s, volume := v, ending := some ⟨.readError, f.message⟩ }
    | (.ok size, v) =>
      if size < s.lastSize then
        { session := s, volume := v, ending := some (Ending.shrank s.lastSize size) }
      else
        let (lines, splitter) := s.splitter.feed data
        let p : Poll :=
          { session := { s with lastSize := size, splitter := splitter }, volume := v,
            read := data.size }
        deliver o.dispatch p lines.toList

/-- Whether a fault on the session's path still has calls to let through, so that
polling on would change something. -/
def armed (v : Volume) (s : Session) : Bool :=
  match s.cursor.handle with
  | none => false
  | some h =>
    let f := v.faultsAt h.key
    (match f.reading with | some (_ + 1) => true | _ => false)
      || (match f.statting with | some (_ + 1) => true | _ => false)

/-- What running a session until it ends or waits with nothing left to do produced. -/
structure Run where
  session : Session
  volume : Volume
  heard : Array Delivery
  requests : List Request

/-- Runs a session for at most `fuel` polls. -/
def runFor (o : TailOptions) : Nat → Run → Run
  | 0, r => r
  | fuel + 1, r =>
    let s := r.session
    if s.ended then r
    else if s.cancelled then
      let (s, out) := s.finish Ending.stopped
      { r with session := s, volume := r.session.cursor.closeHandle r.volume,
               heard := r.heard ++ out }
    else
      let p := s.poll o r.volume
      let r :=
        { r with session := p.session, volume := p.volume, heard := r.heard ++ p.heard,
                 requests := r.requests ++ p.requests }
      match p.ending with
      | some e =>
        let (s, out) := p.session.finish e
        { r with session := s, volume := p.session.cursor.closeHandle r.volume,
                 heard := r.heard ++ out }
      | none =>
        if p.read > 0 then runFor o fuel { r with session := { p.session with phase := .polling } }
        else
          let s := { p.session with phase := .waiting }
          match s.cursor.exists r.volume with
          | .error f =>
            let (s, out) := s.finish ⟨.readError, f.message⟩
            { r with session := s, volume := p.session.cursor.closeHandle r.volume,
                     heard := r.heard ++ out }
          | .ok false =>
            let (s, out) := s.finish (Ending.removed s.path)
            { r with session := s, volume := p.session.cursor.closeHandle r.volume,
                     heard := r.heard ++ out }
          | .ok true =>
            if s.cancelled || armed r.volume s then runFor o fuel { r with session := s }
            else { r with session := s }

/-- Enough polls to read the whole file and use up every fault count. -/
def budget (v : Volume) (s : Session) : Nat :=
  match s.cursor.handle with
  | none => 1
  | some h =>
    let f := v.faultsAt h.key
    let size := match h.node with
      | some n => (v.bytes n).size
      | none => 0
    size + (f.reading.getD 0) + (f.statting.getD 0) + 3

/-- Runs a session until it ends or waits with nothing left to do. -/
def settle (o : TailOptions) (v : Volume) (s : Session) : Run :=
  runFor o (budget v s) ⟨s, v, #[], []⟩

end Session
end LiveTail
