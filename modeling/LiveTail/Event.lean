import LiveTail.Session.Basic
/-!
# Events

What a source hands to its reader: a line of one session, or the session's end with the
kind of the end and its message. A kind is kept as it came, so that a code naming no kind
still shows as "unknown".
-/
namespace LiveTail

/-- A line of a session, or its end. -/
inductive Event where
  | line (id : String) (text : String)
  | ending (id : String) (kind : Option EndKind) (message : String)
  deriving DecidableEq, Repr

namespace Event

/-- The session the event belongs to. -/
def id : Event → String
  | line id _ => id
  | ending id _ _ => id

/-- The name of the kind of an end. -/
def kindName (kind : Option EndKind) : String := nameOr (kind.map EndKind.name)

end Event
end LiveTail
