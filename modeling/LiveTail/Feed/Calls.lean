import LiveTail.Feed
/-!
# Calls on a shared feed

Any number of sessions hand events to one feed at once, one reader takes them, and any
number of calls close it. Each call that hands over an event (an emit) takes its own steps,
and other calls' steps may come between any two of them:

* it waits for the read side of the feed's lock, which it cannot take while a closing call
  has asked for the write side or holds it;
* it looks at whether the feed is closed, and if so returns false;
* a feed that drops the oldest first tries to send without waiting; finding the buffer full,
  it takes the oldest buffered event away if there is one, and then sends;
* a send waits until the buffer has room or `done` is closed, taking whichever is ready; with
  `done` it returns false;
* it releases the read side and returns.

A send into the closed channel of events fails the call (a panic that releases the lock).

The first call of close closes `done`, asks for the write side, waits until no emit holds the
read side, then sets the closed flag and closes the channel of events (nobody else can look
at either while it holds the write side), and releases it. A call of close made while the
first one runs waits for it and then returns; one made after it returns at once.

`Calls` also records, for the statements made about it, which sends completed, in order, and
what left the buffer, in order, with who took it. The steps do not read these records.
-/
namespace LiveTail.Feed

/-- The write side of the lock: free, asked for by the closing call (no emit takes the read
side from then on), or held by it. -/
inductive Writer where
  | free
  | asked
  | held
  deriving DecidableEq, Repr

/-- Where a call of emit stands. -/
inductive Stage where
  /-- Called; waits for the read side of the lock. -/
  | waiting
  /-- Holds the read side; about to look at the closed flag. -/
  | looking
  /-- Dropping the oldest: about to send if there is room, without waiting. -/
  | offering
  /-- Dropping the oldest: found the buffer full; about to take the oldest event, if any. -/
  | dropping
  /-- About to send, waiting until there is room or `done` is closed. -/
  | sending
  /-- About to release the read side and return `ok`. -/
  | leaving (ok : Bool)
  /-- Returned `ok`. -/
  | returned (ok : Bool)
  /-- Sent into the closed channel: failed, having released the read side. -/
  | failed
  deriving DecidableEq, Repr

/-- What a call blocked at its select takes: room in the buffer, or the closing of `done`. -/
inductive Case where
  | room
  | done
  deriving DecidableEq, Repr

/-- A call of emit with its event. -/
structure Emit (α : Type) where
  event : α
  stage : Stage := .waiting
  /-- Whether it found the buffer full when it tried to send without waiting. -/
  foundFull : Bool := false
  deriving Repr

/-- Where a call of close stands. -/
inductive Closing where
  /-- Called; about to run the closing once, or to wait for the run of another call. -/
  | called
  /-- Closed `done`; about to ask for the write side. -/
  | asking
  /-- Asked; waits until no emit holds the read side. -/
  | draining
  /-- Holds the write side, with the flag set and the events closed; about to release it. -/
  | releasing
  | returned
  deriving DecidableEq, Repr

/-- The closing that runs once: not begun, run by some call, or finished. -/
inductive Once where
  | idle
  | running
  | finished
  deriving DecidableEq, Repr

/-- A feed shared by the calls made on it. -/
structure Calls (α : Type) where
  capacity : Nat
  mode : Backpressure
  /-- The emits whose events are buffered, oldest first. -/
  buffer : List Nat := []
  /-- Whether `done` is closed. -/
  done : Bool := false
  /-- Whether the closed flag is set and the channel of events closed. -/
  closed : Bool := false
  writer : Writer := .free
  once : Once := .idle
  /-- Every call of emit made so far, in the order made. -/
  emits : List (Emit α) := []
  /-- Every call of close made so far, in the order made. -/
  closes : List Closing := []
  /-- The emits whose sends completed, in order. -/
  sent : List Nat := []
  /-- What left the buffer, in order: whose event it was, and who took it (`none` for the
  reader, `some i` for emit `i` making room). -/
  taken : List (Nat × Option Nat) := []
  deriving Repr

/-- What some thread does next. -/
inductive Move (α : Type) where
  /-- A new call of emit begins. -/
  | emit (e : α)
  /-- A new call of close begins. -/
  | close
  /-- Emit `i` takes its next step, taking the case `k` at its select if it is ready. -/
  | step (i : Nat) (k : Case)
  /-- Close `j` takes its next step. -/
  | closeStep (j : Nat)
  /-- The reader takes the oldest buffered event, if there is one. -/
  | receive
  deriving Repr

namespace Stage

/-- Whether a call standing here holds the read side of the lock. -/
def holdsRead : Stage → Bool
  | .looking | .offering | .dropping | .sending | .leaving _ => true
  | _ => false

end Stage

namespace Calls

variable {α : Type}

/-- A feed with the asked capacity (default 1000, at least 1) and no call made on it. -/
def fresh (size : Option Int) (mode : Backpressure) : Calls α :=
  { capacity := (Feed.create size mode : Feed α).capacity, mode }

/-- How many emits hold the read side of the lock. -/
def readers (c : Calls α) : Nat := c.emits.countP (·.stage.holdsRead)

/-- Puts emit `i` in place. -/
def setEmit (c : Calls α) (i : Nat) (em : Emit α) : Calls α :=
  { c with emits := c.emits.set i em }

/-- Emit `i` completes its send: its event goes in behind the others. -/
def pushEvent (c : Calls α) (i : Nat) : Calls α :=
  { c with buffer := c.buffer ++ [i], sent := c.sent ++ [i] }

/-- The oldest buffered event leaves, taken by `taker`. -/
def takeOldest (c : Calls α) (taker : Option Nat) : Calls α :=
  match c.buffer with
  | [] => c
  | t :: rest => { c with buffer := rest, taken := c.taken ++ [(t, taker)] }

/-- Emit `i`, standing as `em`, takes its next step. -/
def stepEmit (c : Calls α) (i : Nat) (em : Emit α) (k : Case) : Calls α :=
  match em.stage with
  | .waiting => if c.writer = .free then c.setEmit i { em with stage := .looking } else c
  | .looking =>
    if c.closed then c.setEmit i { em with stage := .leaving false }
    else c.setEmit i { em with stage := if c.mode = .dropOldest then .offering else .sending }
  | .offering =>
    if c.closed then c.setEmit i { em with stage := .failed }
    else if c.buffer.length < c.capacity then
      (c.pushEvent i).setEmit i { em with stage := .leaving true }
    else c.setEmit i { em with stage := .dropping, foundFull := true }
  | .dropping => (c.takeOldest (some i)).setEmit i { em with stage := .sending }
  | .sending =>
    match k with
    | .room =>
      if c.closed then c.setEmit i { em with stage := .failed }
      else if c.buffer.length < c.capacity then
        (c.pushEvent i).setEmit i { em with stage := .leaving true }
      else c
    | .done => if c.done then c.setEmit i { em with stage := .leaving false } else c
  | .leaving ok => c.setEmit i { em with stage := .returned ok }
  | .returned _ | .failed => c

/-- Close `j`, standing at `st`, takes its next step. Only the call that runs the closing
asks for the write side, so no other writer stands in its way. -/
def stepClose (c : Calls α) (j : Nat) : Closing → Calls α
  | .called =>
    match c.once with
    | .idle => { c with closes := c.closes.set j .asking, once := .running, done := true }
    | .running => c
    | .finished => { c with closes := c.closes.set j .returned }
  | .asking => { c with closes := c.closes.set j .draining, writer := .asked }
  | .draining =>
    if c.readers = 0 then
      { c with closes := c.closes.set j .releasing, writer := .held, closed := true }
    else c
  | .releasing => { c with closes := c.closes.set j .returned, writer := .free, once := .finished }
  | .returned => c

/-- One move. -/
def move (c : Calls α) : Move α → Calls α
  | .emit e => { c with emits := c.emits ++ [{ event := e }] }
  | .close => { c with closes := c.closes ++ [.called] }
  | .step i k =>
    match c.emits[i]? with
    | some em => c.stepEmit i em k
    | none => c
  | .closeStep j =>
    match c.closes[j]? with
    | some st => c.stepClose j st
    | none => c
  | .receive => c.takeOldest none

/-- Moves one after another. -/
def run (c : Calls α) (ms : List (Move α)) : Calls α := ms.foldl move c

/-- The events the reader took, in order. -/
def received (c : Calls α) : List Nat := c.taken.filterMap fun (t, w) => if w = none then some t else none

/-- The feed as one caller sees it: the buffered events, oldest first, and whether it is
closed. -/
def feed (c : Calls α) : Feed α :=
  { capacity := c.capacity, mode := c.mode, closed := c.closed,
    buffer := (c.buffer.filterMap fun i => c.emits[i]?.map (·.event)).toArray }

end Calls
end LiveTail.Feed
