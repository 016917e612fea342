/-!
# Failures

A failure carries its message and the cause it can be recognised by. Wrapping a failure
in context puts words in front of its message and keeps its cause; a failure that wraps
another only as text takes its own cause.
-/
namespace LiveTail

/-- What a failure can be recognised by. -/
inductive Cause where
  | fileOpenFailed
  | launchFailed
  | registryClosed
  | emptyIdentifier
  | noListener
  | notAccessible
  | pathTraversal
  | unknownCommand
  | invalidArguments
  | notExist
  | closed
  /-- The program crashed. -/
  | crash
  | other
  deriving DecidableEq, Repr, Inhabited

/-- The name of a cause. -/
def Cause.name : Cause → String
  | .fileOpenFailed => "FileOpenFailed"
  | .launchFailed => "SessionLaunchFailed"
  | .registryClosed => "RegistryClosed"
  | .emptyIdentifier => "EmptyIdentifier"
  | .noListener => "NilObserver"
  | .notAccessible => "NotAccessible"
  | .pathTraversal => "PathTraversal"
  | .unknownCommand => "UnknownCommand"
  | .invalidArguments => "InvalidArguments"
  | .notExist => "NotExist"
  | .closed => "Closed"
  | .crash => "panic"
  | .other => "error"

/-- A failure: its cause and its message. -/
structure Failure where
  cause : Cause
  message : String
  deriving DecidableEq, Repr, Inhabited

namespace Failure

/-- A failure of no particular cause. -/
def plain (message : String) : Failure := ⟨.other, message⟩

/-- The failure in context: `context: message`, same cause. -/
def wrap (context : String) (f : Failure) : Failure := ⟨f.cause, context ++ ": " ++ f.message⟩

/-- A failure of cause `c` whose message ends in the text of `f`. -/
def as (c : Cause) (context : String) (f : Failure) : Failure := ⟨c, context ++ ": " ++ f.message⟩

end Failure
end LiveTail
