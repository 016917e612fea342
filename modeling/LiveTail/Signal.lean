/-!
# Wake-up signals

A signal wakes a waiting session early or cancels it for good. Wake-ups do not count:
any number of them before a wait wake that wait once. Cancellation is sticky and wins over
a pending wake-up. A wait with nothing pending and no cancellation runs out its time.
-/
namespace LiveTail

/-- Why a wait returned. -/
inductive Reason where
  | timedOut
  | woken
  | cancelled
  deriving DecidableEq, Repr

namespace Reason

/-- The code of a reason: 0, 1, 2 in declaration order. -/
def code : Reason → Nat
  | timedOut => 0
  | woken => 1
  | cancelled => 2

/-- The reason with a given code. -/
def ofCode? : Int → Option Reason
  | 0 => some timedOut
  | 1 => some woken
  | 2 => some cancelled
  | _ => none

/-- The name of a reason. -/
def name : Reason → String
  | timedOut => "timed-out"
  | woken => "woken"
  | cancelled => "cancelled"

end Reason

/-- A pending wake-up and the cancellation flag. -/
structure Signal where
  pending : Bool := false
  cancelled : Bool := false
  deriving DecidableEq, Repr

namespace Signal

/-- Leaves one wake-up pending; a second adds nothing. -/
def notify (s : Signal) : Signal := { s with pending := true }

/-- Cancels for good. -/
def cancel (s : Signal) : Signal := { s with cancelled := true }

/-- Waits: cancelled if cancelled, else woken by the pending wake-up, which it takes,
else timed out. -/
def wait (s : Signal) : Reason × Signal :=
  if s.cancelled then (.cancelled, s)
  else if s.pending then (.woken, { s with pending := false })
  else (.timedOut, s)

end Signal
end LiveTail
