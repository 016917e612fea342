import LiveTail.Dispatch
import LiveTail.Feed.Calls
/-!
# Calls on a queue of callbacks

Any number of sessions hand callbacks to one queue at once, one loop runs them, and any number
of calls close it. Each call of dispatch takes its own steps, and other calls' steps may come
between any two of them:

* it waits for the read side of the queue's lock, which it cannot take while a closing call
  has asked for the write side or holds it;
* it looks at whether the queue is closed, and if so returns, dropping its callback;
* it sends the callback into the channel, waiting until the buffer has room or, with the
  buffer empty, until the loop is there to take it;
* it releases the read side and returns.

A send into the closed channel fails the call (a panic that releases the lock).

The loop takes the oldest callback, runs it, and goes back for the next whether the callback
panicked or not; once the channel is closed and empty it finishes. A call of close waits for
the write side, which one writer has at a time, then waits until no call of dispatch holds the
read side, sets the flag and closes the channel unless that was done, releases the lock, and
waits for the loop to finish.

`Calls` also records which sends completed, in order, and which callbacks ran, in order, with
whether each panicked. The steps do not read these records.
-/
namespace LiveTail.Queue

open LiveTail.Feed (Writer)

/-- Where a call of dispatch stands. -/
inductive Stage where
  /-- Called; waits for the read side of the lock. -/
  | waiting
  /-- Holds the read side; about to look at the flag. -/
  | looking
  /-- About to send its callback, waiting for room, or for the loop to take it. -/
  | sending
  /-- About to release the read side, its callback `accepted` or dropped. -/
  | leaving (accepted : Bool)
  | returned (accepted : Bool)
  /-- Sent into the closed channel: failed, having released the read side. -/
  | failed
  deriving DecidableEq, Repr

/-- A call of dispatch with its callback. -/
structure Call (α : Type) where
  fn : α
  stage : Stage := .waiting
  deriving Repr

/-- Where a call of close stands. -/
inductive Closing where
  /-- Called; waits until no other writer has the write side. -/
  | called
  /-- Has asked for the write side; waits until no call of dispatch holds the read side. -/
  | draining
  /-- Holds the write side, with the flag set and the channel closed; about to release it. -/
  | releasing
  /-- Waits for the loop to finish. -/
  | awaiting
  | returned
  deriving DecidableEq, Repr

/-- Where the loop stands. -/
inductive Loop where
  /-- Waits for the next callback. -/
  | receiving
  /-- Runs the callback of call `i`. -/
  | running (i : Nat)
  /-- Found the channel closed and empty, and ended. -/
  | finished
  deriving DecidableEq, Repr

/-- A queue shared by the calls made on it. -/
structure Calls (α : Type) where
  /-- How many callbacks the channel buffers. -/
  size : Nat
  /-- The calls whose callbacks are buffered, oldest first. -/
  buffer : List Nat := []
  /-- Whether the flag is set and the channel closed. -/
  closed : Bool := false
  writer : Writer := .free
  loop : Loop := .receiving
  /-- Every call of dispatch made so far, in the order made. -/
  calls : List (Call α) := []
  /-- Every call of close made so far, in the order made. -/
  closes : List Closing := []
  /-- The calls whose sends completed, in order. -/
  sent : List Nat := []
  /-- The calls whose callbacks ran, in order, with whether each panicked. -/
  ran : List (Nat × Bool) := []
  deriving Repr

/-- What some thread does next. -/
inductive Move (α : Type) where
  /-- A new call of dispatch begins. -/
  | dispatch (fn : α)
  /-- A new call of close begins. -/
  | close
  /-- Call of dispatch `i` takes its next step. -/
  | step (i : Nat)
  /-- Call of close `j` takes its next step. -/
  | closeStep (j : Nat)
  /-- The loop takes its next step; a callback it runs panics or not. -/
  | loop (panics : Bool)
  deriving Repr

namespace Stage

/-- Whether a call standing here holds the read side of the lock. -/
def holdsRead : Stage → Bool
  | .looking | .sending | .leaving _ => true
  | _ => false

end Stage

namespace Calls

variable {α : Type}

/-- A queue buffering up to `size` callbacks (none, for a size below zero), with no call made
on it. -/
def fresh (size : Int) : Calls α := { size := size.toNat }

/-- How many calls of dispatch hold the read side of the lock. -/
def readers (c : Calls α) : Nat := c.calls.countP (·.stage.holdsRead)

/-- Puts call `i` in place. -/
def setCall (c : Calls α) (i : Nat) (call : Call α) : Calls α :=
  { c with calls := c.calls.set i call }

/-- Call `i`, standing as `call`, takes its next step. -/
def stepCall (c : Calls α) (i : Nat) (call : Call α) : Calls α :=
  match call.stage with
  | .waiting => if c.writer = .free then c.setCall i { call with stage := .looking } else c
  | .looking =>
    c.setCall i { call with stage := if c.closed then .leaving false else .sending }
  | .sending =>
    if c.closed then c.setCall i { call with stage := .failed }
    else if c.buffer.length < c.size then
      ({ c with buffer := c.buffer ++ [i], sent := c.sent ++ [i] } : Calls α).setCall i
        { call with stage := .leaving true }
    else if c.buffer = [] ∧ c.loop = .receiving then
      ({ c with loop := .running i, sent := c.sent ++ [i] } : Calls α).setCall i
        { call with stage := .leaving true }
    else c
  | .leaving a => c.setCall i { call with stage := .returned a }
  | .returned _ | .failed => c

/-- Close `j`, standing at `st`, takes its next step. -/
def stepClose (c : Calls α) (j : Nat) : Closing → Calls α
  | .called =>
    if c.writer = .free then { c with closes := c.closes.set j .draining, writer := .asked }
    else c
  | .draining =>
    if c.readers = 0 then
      { c with closes := c.closes.set j .releasing, writer := .held, closed := true }
    else c
  | .releasing => { c with closes := c.closes.set j .awaiting, writer := .free }
  | .awaiting =>
    if c.loop = .finished then { c with closes := c.closes.set j .returned } else c
  | .returned => c

/-- The loop takes its next step; the callback it runs panics or not, and it goes on. -/
def stepLoop (c : Calls α) (panics : Bool) : Calls α :=
  match c.loop with
  | .receiving =>
    match c.buffer with
    | i :: rest => { c with loop := .running i, buffer := rest }
    | [] => if c.closed then { c with loop := .finished } else c
  | .running i => { c with loop := .receiving, ran := c.ran ++ [(i, panics)] }
  | .finished => c

/-- One move. -/
def move (c : Calls α) : Move α → Calls α
  | .dispatch fn => { c with calls := c.calls ++ [{ fn }] }
  | .close => { c with closes := c.closes ++ [.called] }
  | .step i =>
    match c.calls[i]? with
    | some call => c.stepCall i call
    | none => c
  | .closeStep j =>
    match c.closes[j]? with
    | some st => c.stepClose j st
    | none => c
  | .loop panics => c.stepLoop panics

/-- Moves one after another. -/
def run (c : Calls α) (ms : List (Move α)) : Calls α := ms.foldl move c

end Calls
end LiveTail.Queue
