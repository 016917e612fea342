/-!
# Turns under one identifier

Starts and stops under one identifier take turns, so that a new session never starts while the
one before it under that identifier is still shutting down. Each such call takes the
identifier's lock before it looks at the registry and gives it back when it is done. The
registry keeps the locks in a table by identifier: a call that finds none makes one, each lock
counts the calls that asked for it and have not yet given it back, and the call that counts
itself out last drops the identifier from the table. The table and the counts change only
under the registry's own lock, so each such change is one step.

A call takes four steps, and other calls' steps may come between any two of them:

* it finds the identifier's lock in the table, making a free one with no count if there is
  none, and counts itself in;
* it waits until the lock is free and takes it: it now holds the identifier;
* it frees the lock;
* it counts itself out, and if the count is then zero it drops the identifier from the table,
  whichever lock stands there.

Locks are told apart by the order they were made in, and a call keeps the lock it counted
itself in on to the end, even one that has left the table meanwhile.
-/
namespace LiveTail.Keys

/-- Where a call stands. -/
inductive Stage where
  /-- Called; about to find the identifier's lock. -/
  | called
  /-- Counted in on lock `k`; waits until it is free. -/
  | waiting (k : Nat)
  /-- Holds lock `k`: it starts or stops a session under the identifier. -/
  | holding (k : Nat)
  /-- Has freed lock `k`; about to count itself out. -/
  | leaving (k : Nat)
  | returned
  deriving DecidableEq, Repr

/-- A lock: whether a call holds it, and how many calls are counted in on it. -/
structure Lock where
  held : Bool := false
  refs : Int := 0
  deriving DecidableEq, Repr

/-- A call of start or stop under an identifier. -/
structure Call where
  id : String
  stage : Stage := .called
  deriving DecidableEq, Repr

/-- The locks of a registry, its table, and the calls made on them. -/
structure Calls where
  /-- Every lock made so far, by the order it was made in. -/
  locks : Nat → Lock := fun _ => {}
  /-- How many locks were made. -/
  made : Nat := 0
  /-- The lock of each identifier in the table. -/
  table : String → Option Nat := fun _ => none
  /-- Every call made so far, in the order made. -/
  calls : List Call := []

/-- What some thread does next. -/
inductive Move where
  /-- A new call under an identifier begins. -/
  | call (id : String)
  /-- Call `i` takes its next step. -/
  | step (i : Nat)
  deriving DecidableEq, Repr

namespace Calls

/-- Puts lock `k` in place. -/
def setLock (c : Calls) (k : Nat) (l : Lock) : Calls :=
  { c with locks := fun j => if j = k then l else c.locks j }

/-- Puts the lock of an identifier in the table, or drops the identifier. -/
def setEntry (c : Calls) (id : String) (k : Option Nat) : Calls :=
  { c with table := fun j => if j = id then k else c.table j }

/-- Puts call `i` in place. -/
def setCall (c : Calls) (i : Nat) (call : Call) : Calls :=
  { c with calls := c.calls.set i call }

section Frame

variable (c : Calls) (k : Nat) (l : Lock) (id : String) (e : Option Nat) (i : Nat) (call : Call)

@[simp] theorem setLock_locks (j : Nat) : (c.setLock k l).locks j = if j = k then l else c.locks j :=
  rfl
@[simp] theorem setLock_made : (c.setLock k l).made = c.made := rfl
@[simp] theorem setLock_table : (c.setLock k l).table = c.table := rfl
@[simp] theorem setLock_calls : (c.setLock k l).calls = c.calls := rfl

@[simp] theorem setEntry_table (j : String) :
    (c.setEntry id e).table j = if j = id then e else c.table j := rfl
@[simp] theorem setEntry_locks : (c.setEntry id e).locks = c.locks := rfl
@[simp] theorem setEntry_made : (c.setEntry id e).made = c.made := rfl
@[simp] theorem setEntry_calls : (c.setEntry id e).calls = c.calls := rfl

@[simp] theorem setCall_calls : (c.setCall i call).calls = c.calls.set i call := rfl
@[simp] theorem setCall_locks : (c.setCall i call).locks = c.locks := rfl
@[simp] theorem setCall_made : (c.setCall i call).made = c.made := rfl
@[simp] theorem setCall_table : (c.setCall i call).table = c.table := rfl

end Frame

/-- The lock of an identifier, made free and with no count, and put in the table, if the table
has none. -/
def find (c : Calls) (id : String) : Nat × Calls :=
  match c.table id with
  | some k => (k, c)
  | none =>
    let made : Calls := { c with made := c.made + 1 }
    (c.made, (made.setLock c.made {}).setEntry id (some c.made))

/-- Call `i`, standing as `call`, takes its next step. -/
def stepCall (c : Calls) (i : Nat) (call : Call) : Calls :=
  match call.stage with
  | .called =>
    let (k, c) := c.find call.id
    (c.setLock k { c.locks k with refs := (c.locks k).refs + 1 }).setCall i
      { call with stage := .waiting k }
  | .waiting k =>
    if (c.locks k).held then c
    else (c.setLock k { c.locks k with held := true }).setCall i { call with stage := .holding k }
  | .holding k =>
    (c.setLock k { c.locks k with held := false }).setCall i { call with stage := .leaving k }
  | .leaving k =>
    let c := c.setLock k { c.locks k with refs := (c.locks k).refs - 1 }
    let c := if (c.locks k).refs = 0 then c.setEntry call.id none else c
    c.setCall i { call with stage := .returned }
  | .returned => c

/-- One move. -/
def move (c : Calls) : Move → Calls
  | .call id => { c with calls := c.calls ++ [{ id }] }
  | .step i =>
    match c.calls[i]? with
    | some call => c.stepCall i call
    | none => c

/-- Moves one after another. -/
def run (c : Calls) (ms : List Move) : Calls := ms.foldl move c

end Calls
end LiveTail.Keys
