/-!
# Session phases and endings

A session is initializing until its file is open, then alternates between polling and
waiting, and is stopped at the end. It ends exactly once, for one of four reasons: it was
stopped, the file shrank or went away, reading failed, or the listener failed.
-/
namespace LiveTail

/-- Where a session is in its life. -/
inductive Phase where
  | initializing
  | polling
  | waiting
  | stopped
  deriving DecidableEq, Repr

namespace Phase

/-- The phase with a given code, in declaration order from 0. -/
def ofCode? : Int → Option Phase
  | 0 => some initializing
  | 1 => some polling
  | 2 => some waiting
  | 3 => some stopped
  | _ => none

/-- The name of a phase. -/
def name : Phase → String
  | initializing => "initializing"
  | polling => "polling"
  | waiting => "waiting"
  | stopped => "stopped"

end Phase

/-- Why a session ended. -/
inductive EndKind where
  | stopped
  | truncated
  | readError
  | listenerFault
  deriving DecidableEq, Repr, Inhabited

namespace EndKind

/-- The kind with a given code, in declaration order from 0. -/
def ofCode? : Int → Option EndKind
  | 0 => some stopped
  | 1 => some truncated
  | 2 => some readError
  | 3 => some listenerFault
  | _ => none

/-- The name of a kind. -/
def name : EndKind → String
  | stopped => "stopped"
  | truncated => "truncated"
  | readError => "read-error"
  | listenerFault => "listener-fault"

end EndKind

/-- The name of a code that may name no phase, kind or reason. -/
def nameOr (name? : Option String) : String := name?.getD "unknown"

/-- The end of a session: its kind and message. -/
structure Ending where
  kind : EndKind
  message : String
  deriving DecidableEq, Repr, Inhabited

namespace Ending

/-- Stopped on request. -/
def stopped : Ending := ⟨.stopped, "listening stopped"⟩

/-- The file shrank from `last` to `now` octets. -/
def shrank (last now : Nat) : Ending :=
  ⟨.truncated, "file truncated from " ++ toString last ++ " to " ++ toString now ++ " bytes"⟩

/-- The followed path no longer exists. -/
def removed (path : String) : Ending := ⟨.truncated, "file removed: " ++ path⟩

/-- The listener failed with a value. -/
def fault (value : String) : Ending := ⟨.listenerFault, "unexpected fault: " ++ value⟩

end Ending
end LiveTail
