/-!
# Handing calls to the listener

Calls reach a listener either at once, on the reader's own thread of work, or through a
queue that runs them one at a time in the order they were accepted. A queued call that
fails does not keep the later ones from running; a call offered after the queue closed
is dropped.
-/
namespace LiveTail

/-- How calls reach the listener. -/
inductive Dispatch where
  /-- At once; a failing call ends the reading session. -/
  | inline
  /-- Through a queue that contains failures. -/
  | queue
  deriving DecidableEq, Repr

/-- A queue of calls: the accepted ones in order, and whether it still accepts. -/
structure CallQueue (α : Type) where
  accepted : Array α := #[]
  closed : Bool := false
  deriving Repr

namespace CallQueue

/-- Offers a call: accepted unless closed. -/
def submit (q : CallQueue α) (c : α) : CallQueue α :=
  if q.closed then q else { q with accepted := q.accepted.push c }

/-- Stops accepting; the accepted calls all run. -/
def close (q : CallQueue α) : CallQueue α := { q with closed := true }

/-- The calls in the order they run: the order they were accepted. -/
def runOrder (q : CallQueue α) : List α := q.accepted.toList

end CallQueue
end LiveTail
