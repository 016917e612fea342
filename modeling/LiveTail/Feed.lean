/-!
# Event feeds

A feed buffers events for one reader, up to a capacity of at least one. When the buffer
is full, a feed that drops the oldest makes room by discarding the oldest buffered event;
a blocking feed makes the writer wait until the reader takes one. A closed feed refuses
every event but still hands out what it holds.
-/
namespace LiveTail

/-- What a full feed does with a new event. -/
inductive Backpressure where
  | dropOldest
  | block
  deriving DecidableEq, Repr

/-- A bounded buffer of events. -/
structure Feed (α : Type) where
  capacity : Nat
  mode : Backpressure
  buffer : Array α := #[]
  closed : Bool := false
  deriving Repr

/-- What became of an offered event. -/
inductive Offer where
  /-- Buffered, possibly after dropping the oldest. -/
  | accepted
  /-- Refused: the feed is closed. -/
  | refused
  /-- The buffer is full and the writer would wait for the reader. -/
  | mustWait
  deriving DecidableEq, Repr

namespace Feed

/-- Default capacity. -/
def defaultCapacity : Nat := 1000

/-- A feed with the asked capacity (default 1000, at least 1). -/
def create (size : Option Int) (mode : Backpressure) : Feed α :=
  { capacity := max 1 (size.getD defaultCapacity).toNat, mode }

/-- Offers an event. -/
def offer (f : Feed α) (e : α) : Offer × Feed α :=
  if f.closed then (.refused, f)
  else if f.buffer.size < f.capacity then (.accepted, { f with buffer := f.buffer.push e })
  else match f.mode with
    | .dropOldest => (.accepted, { f with buffer := (f.buffer.extract 1 f.buffer.size).push e })
    | .block => (.mustWait, f)

/-- Takes up to `n` events without waiting, oldest first. -/
def take (f : Feed α) (n : Nat) : List α × Feed α :=
  ((f.buffer.extract 0 n).toList, { f with buffer := f.buffer.extract n f.buffer.size })

/-- Closes the feed. -/
def close (f : Feed α) : Feed α := { f with closed := true }

end Feed
end LiveTail
