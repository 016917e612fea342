import LiveTail.Signal
/-!
# Calls on a shared signal

Any number of threads notify, cancel and wait on one signal at once. A notification and a
cancellation each take effect in one step. A wait takes up to three steps of its own: it looks
for a cancellation; it blocks until the signal is cancelled, a wake-up is pending (which it
takes) or its time runs out, taking whichever of these is ready; and after taking a wake-up
it looks for a cancellation once more. Other threads' calls may come between any two of these
steps. Time is not modelled: a blocked wait may run out of time at any moment.

`Signal.wait` is a wait whose steps follow one another with nothing in between, taking the
cancellation before the wake-up and the wake-up before the end of its time (`solo_called`).

`Calls` also records how many notifications were made and how many of them left a wake-up.
The calls do not read these counts: they record what happened, for the statements made about
it.
-/
namespace LiveTail.Signal

/-- Where a call of `wait` stands. -/
inductive Stage where
  /-- Called; about to look for a cancellation. -/
  | called
  /-- Blocked until the signal is cancelled, a wake-up is pending, or its time runs out. -/
  | blocked
  /-- Took the pending wake-up; about to look for a cancellation again. -/
  | took
  /-- Returned, for this reason. -/
  | returned (r : Reason)
  deriving DecidableEq, Repr

/-- What a blocked wait can take: the cancellation, the pending wake-up, or the end of its
time. -/
inductive Case where
  | cancelled
  | notified
  | expired
  deriving DecidableEq, Repr

/-- The case a blocked wait takes when nothing else happens: the cancellation if there is one,
else the wake-up if one is pending, else the end of its time. -/
def firstReady (s : Signal) : Case :=
  if s.cancelled then .cancelled else if s.pending then .notified else .expired

namespace Stage

/-- The next step of a call on the signal `s`; a blocked call takes the case `k` if it is
ready and stays blocked otherwise, and a returned call stays returned. -/
def next (s : Signal) : Stage → Case → Stage × Signal
  | .called, _ => (if s.cancelled then .returned .cancelled else .blocked, s)
  | .blocked, .cancelled => (if s.cancelled then .returned .cancelled else .blocked, s)
  | .blocked, .notified =>
    if s.pending then (.took, { s with pending := false }) else (.blocked, s)
  | .blocked, .expired => (.returned .timedOut, s)
  | .took, _ => (if s.cancelled then .returned .cancelled else .returned .woken, s)
  | .returned r, _ => (.returned r, s)

/-- A call that takes `n` steps with nothing in between, each time taking the first ready
case. -/
def solo (s : Signal) : Nat → Stage → Stage × Signal
  | 0, st => (st, s)
  | n + 1, st => solo (st.next s (firstReady s)).2 n (st.next s (firstReady s)).1

/-- Whether the call holds a wake-up it took: it took one, or returned woken by one. -/
def holdsWakeUp : Stage → Bool
  | .took | .returned .woken => true
  | _ => false

end Stage

/-- A signal shared by threads, with the calls of `wait` made on it. -/
structure Calls where
  signal : Signal := {}
  /-- Every call of `wait` made so far, in the order made, by where it stands. -/
  waits : List Stage := []
  /-- Notifications made. -/
  notified : Nat := 0
  /-- Notifications that left a wake-up, having found none pending. -/
  wakeUps : Nat := 0
  deriving DecidableEq, Repr

/-- What some thread does next. -/
inductive Move where
  | notify
  | cancel
  /-- A new call of `wait` begins. -/
  | wait
  /-- Call `i` takes its next step, taking the case `k` if it is blocked. -/
  | step (i : Nat) (k : Case)
  deriving DecidableEq, Repr

namespace Calls

/-- One move. -/
def move (c : Calls) : Move → Calls
  | .notify =>
    { c with signal := c.signal.notify, notified := c.notified + 1,
             wakeUps := if c.signal.pending then c.wakeUps else c.wakeUps + 1 }
  | .cancel => { c with signal := c.signal.cancel }
  | .wait => { c with waits := c.waits ++ [.called] }
  | .step i k =>
    match c.waits[i]? with
    | some st => { c with signal := (st.next c.signal k).2, waits := c.waits.set i (st.next c.signal k).1 }
    | none => c

/-- Moves one after another. -/
def run (c : Calls) (ms : List Move) : Calls := ms.foldl move c

/-- How many calls returned woken. -/
def woken (c : Calls) : Nat := c.waits.count (.returned .woken)

end Calls
end LiveTail.Signal
