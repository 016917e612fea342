import LiveTail.Session.Basic
/-!
# Listeners

A listener hears the lines of a session and its ending. It may choose not to hear one of
the two, and it may react to one chosen line: fail with a value, stop its own session,
stop another identifier, or stop every session. It may also fail when it hears the
ending, which changes nothing.
-/
namespace LiveTail

/-- What a listener does after hearing its chosen line. -/
inductive Reaction where
  | none
  | fail (value : String)
  | stopOwn
  | stop (id : String)
  | stopAll
  deriving DecidableEq, Repr, Inhabited

/-- A listener of one session. -/
structure Listener where
  hearsLines : Bool := true
  hearsEnding : Bool := true
  /-- The line that triggers the reaction. -/
  trigger : Option ByteArray := none
  reaction : Reaction := .none
  failsOnEnding : Bool := false
  deriving Inhabited

/-- What a session hands to its listener, tagged with the session's number. -/
inductive Delivery where
  | line (session : Nat) (id : String) (text : ByteArray)
  | ending (session : Nat) (id : String) (e : Ending)
  deriving Inhabited

namespace Delivery

/-- The number of the session that delivered. -/
def session : Delivery → Nat
  | line n _ _ => n
  | ending n _ _ => n

/-- The identifier of the session that delivered. -/
def id : Delivery → String
  | line _ i _ => i
  | ending _ i _ => i

end Delivery

/-- What a listener's reaction asks of the registry. -/
inductive Request where
  | stop (id : String)
  | stopAll
  deriving DecidableEq, Repr

end LiveTail
