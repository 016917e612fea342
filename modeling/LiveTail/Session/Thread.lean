import LiveTail.Registry
/-!
# A session's own thread of work

`Session.runFor` lets a session run until it waits with nothing to do, as if nothing else
happened in the meantime. The session's own thread of work takes finer steps than that:
it opens its file, waits to be handed over by its start, then loops, each time looking for a
cancellation, polling, and after a poll that read nothing checking that the path still
exists and waiting. Between any two of its steps the files may change, the session may be
cancelled, and its start may hand it over.

A thread stores its phase at fixed points of that loop; `stored` keeps every value stored,
in order, and the counters keep how many polls, existence checks and waits it made. These
are not read by the thread: they record what it did, for the statements made about it.
-/
namespace LiveTail

/-- The moves between phases that a session's thread stores: opening succeeds or fails,
polling catches up, waiting ends, and polling or waiting ends the session. -/
inductive Phase.Step : Phase → Phase → Prop
  | opened : Phase.Step .initializing .polling
  | failed : Phase.Step .initializing .stopped
  | caughtUp : Phase.Step .polling .waiting
  | woke : Phase.Step .waiting .polling
  | endedPolling : Phase.Step .polling .stopped
  | endedWaiting : Phase.Step .waiting .stopped

instance : DecidableRel Phase.Step := fun a b =>
  decidable_of_iff ((a, b) ∈ [(.initializing, .polling), (.initializing, .stopped),
      (.polling, .waiting), (.waiting, .polling), (.polling, .stopped), (.waiting, .stopped)]) (by
    constructor
    · intro h
      simp only [List.mem_cons, Prod.mk.injEq, List.not_mem_nil, or_false] at h
      rcases h with ⟨rfl, rfl⟩ | ⟨rfl, rfl⟩ | ⟨rfl, rfl⟩ | ⟨rfl, rfl⟩ | ⟨rfl, rfl⟩ | ⟨rfl, rfl⟩
      · exact .opened
      · exact .failed
      · exact .caughtUp
      · exact .woke
      · exact .endedPolling
      · exact .endedWaiting
    · rintro (_ | _ | _ | _ | _ | _) <;> simp)

namespace Session

/-- Where a session's thread stands. -/
inductive Stage where
  /-- About to open the file: the cursor, the move to the end, the size. -/
  | opening
  /-- Opened; waiting until its start hands it over, or it is cancelled. -/
  | launching
  /-- At the head of the loop, about to look for a cancellation. -/
  | head
  /-- About to poll. -/
  | polling
  /-- Polled without ending, having read `n` bytes. -/
  | polled (n : Nat)
  /-- Caught up, about to check that the path still exists. -/
  | checking
  /-- Waiting for the poll interval, a wake-up or the cancellation. -/
  | waiting
  /-- Ended, having handed out this ending. -/
  | finished (e : Ending)
  /-- Opening failed; nothing was handed out. -/
  | failed (f : Failure)

/-- A session's thread of work, with the volume it reads. -/
structure Thread where
  stage : Stage
  session : Session
  skipToEnd : Bool
  /-- Its start has registered it and handed it over. -/
  launched : Bool := false
  volume : Volume
  heard : Array Delivery := #[]
  requests : List Request := []
  /-- The phases stored, in order. -/
  stored : List Phase := []
  polls : Nat := 0
  checks : Nat := 0
  waits : Nat := 0

namespace Thread

/-- The thread of session `number`, before it opens its file. -/
def start (number : Nat) (id path : String) (skipToEnd : Bool) (listener : Listener)
    (v : Volume) : Thread where
  stage := .opening
  session := { number, id, path, cursor := ⟨path, none⟩, lastSize := 0, listener,
               phase := .initializing }
  skipToEnd := skipToEnd
  volume := v

/-- Stores a phase. -/
def store (t : Thread) (ph : Phase) : Thread :=
  { t with session := { t.session with phase := ph }, stored := t.stored ++ [ph] }

/-- Ends the session: the cursor closes with its handle, the fragment goes, the phase
stopped is stored, and the ending is handed out. -/
def finish (t : Thread) (e : Ending) : Thread :=
  let (s, out) := t.session.finish e
  { t with stage := .finished e, session := s, volume := t.session.cursor.closeHandle t.volume,
           heard := t.heard ++ out, stored := t.stored ++ [.stopped] }

@[simp] theorem store_stage (t : Thread) (ph : Phase) : (t.store ph).stage = t.stage := rfl
@[simp] theorem store_stored (t : Thread) (ph : Phase) :
    (t.store ph).stored = t.stored ++ [ph] := rfl
@[simp] theorem store_session (t : Thread) (ph : Phase) :
    (t.store ph).session = { t.session with phase := ph } := rfl
@[simp] theorem store_volume (t : Thread) (ph : Phase) : (t.store ph).volume = t.volume := rfl
@[simp] theorem store_polls (t : Thread) (ph : Phase) : (t.store ph).polls = t.polls := rfl
@[simp] theorem store_checks (t : Thread) (ph : Phase) : (t.store ph).checks = t.checks := rfl
@[simp] theorem store_waits (t : Thread) (ph : Phase) : (t.store ph).waits = t.waits := rfl

@[simp] theorem finish_stage (t : Thread) (e : Ending) : (t.finish e).stage = .finished e := rfl
@[simp] theorem finish_stored (t : Thread) (e : Ending) :
    (t.finish e).stored = t.stored ++ [.stopped] := rfl
@[simp] theorem finish_session (t : Thread) (e : Ending) :
    (t.finish e).session = (t.session.finish e).1 := rfl
@[simp] theorem finish_polls (t : Thread) (e : Ending) : (t.finish e).polls = t.polls := rfl
@[simp] theorem finish_checks (t : Thread) (e : Ending) : (t.finish e).checks = t.checks := rfl
@[simp] theorem finish_waits (t : Thread) (e : Ending) : (t.finish e).waits = t.waits := rfl

/-- The thread's next step. A thread waiting to be handed over that is neither handed over
nor cancelled stays where it is; a thread that ended stays ended. -/
def step (o : TailOptions) (t : Thread) : Thread :=
  let s := t.session
  match t.stage with
  | .opening =>
    match Registry.launch t.volume s.path t.skipToEnd with
    | (.error f, v) => { t.store .stopped with stage := .failed f, volume := v }
    | (.ok (c, size), v) =>
      { t with stage := .launching, volume := v,
               session := { s with cursor := c, lastSize := size, splitter := {} } }.store .polling
  | .launching =>
    if s.cancelled then t.finish Ending.stopped
    else if t.launched then { t with stage := .head }
    else t
  | .head => if s.cancelled then t.finish Ending.stopped else { t with stage := .polling }
  | .polling =>
    let p := s.poll o t.volume
    let t := { t with session := p.session, volume := p.volume, heard := t.heard ++ p.heard,
                      requests := t.requests ++ p.requests, polls := t.polls + 1 }
    match p.ending with
    | some e => t.finish e
    | none => { t with stage := .polled p.read }
  | .polled n => if n > 0 then { t with stage := .head } else { t with stage := .checking }.store .waiting
  | .checking =>
    let t := { t with checks := t.checks + 1 }
    match s.cursor.exists t.volume with
    | .error f => t.finish ⟨.readError, f.message⟩
    | .ok false => t.finish (Ending.removed s.path)
    | .ok true => { t with stage := .waiting }
  | .waiting =>
    let t := { t with waits := t.waits + 1 }
    if s.cancelled then t.finish Ending.stopped else { t with stage := .head }.store .polling
  | .finished _ | .failed _ => t

end Thread

/-- What happens next: the thread takes a step, or the world around it moves. -/
inductive Move where
  | step
  /-- The session is cancelled: stopped, replaced, or closed with its registry. -/
  | cancel
  /-- Its start registers it and hands it over. -/
  | launch
  /-- The files change in any way, faults included. -/
  | files (v : Volume)

namespace Thread

/-- One move. -/
def move (o : TailOptions) (t : Thread) : Move → Thread
  | .step => t.step o
  | .cancel => { t with session := { t.session with cancelled := true } }
  | .launch => { t with launched := true }
  | .files v => { t with volume := v }

/-- Moves one after another. -/
def run (o : TailOptions) (t : Thread) (ms : List Move) : Thread := ms.foldl (move o) t

/-- The thread has ended, by finishing or because opening failed. -/
def returned (t : Thread) : Bool :=
  match t.stage with
  | .finished _ | .failed _ => true
  | _ => false

end Thread
end Session
end LiveTail
