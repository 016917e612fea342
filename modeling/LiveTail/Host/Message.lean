import LiveTail.Text.Json
import LiveTail.Bytes.Base64
import LiveTail.Session.Listener
/-!
# Host messages

The host answers each command with one reply line and reports what sessions hand out
with one notification line each. Both are JSON objects with their fields in a fixed
order. A line of a file travels as text when it is UTF-8 and otherwise in base64, marked
so; a notification's status is true for lines and for a session that was stopped, false
for the endings that are failures.
-/
namespace LiveTail

/-- The data of a reply. -/
inductive ReplyData where
  | text (bytes : ByteArray)
  | flag (b : Bool)
  | none
  deriving Inhabited

/-- The answer to one command. -/
structure Reply where
  cmd : String
  status : Bool
  data : ReplyData
  deriving Inhabited

namespace Reply

/-- A successful reply with text data. -/
def done (cmd text : String) : Reply := ⟨cmd, true, .text text.toUTF8⟩

/-- A failed reply with its message. -/
def failed (cmd message : String) : Reply := ⟨cmd, false, .text message.toUTF8⟩

/-- The JSON literal of a truth value. -/
def truth (b : Bool) : String := if b then "true" else "false"

/-- The reply as one JSON line. -/
def line (r : Reply) : String :=
  let data := match r.data with
    | .text b => Json.quoteBytes b
    | .flag b => truth b
    | .none => "null"
  Json.object [("cmd", Json.quote r.cmd), ("status", truth r.status), ("data", data)]

end Reply

/-- The notification line of what a session handed out. -/
def Delivery.notification : Delivery → String
  | .line _ id text =>
    let head := [("event", Json.quote "line"), ("id", Json.quote id), ("status", "true")]
    if Utf8.valid text then Json.object (head ++ [("data", Json.quoteBytes text)])
    else Json.object (head ++ [("data", Json.quote (Base64.encode text)),
      ("encoding", Json.quote "base64")])
  | .ending _ id e =>
    Json.object [("event", Json.quote "terminal"), ("id", Json.quote id),
      ("status", Reply.truth (e.kind = .stopped)), ("data", Json.quote e.message),
      ("kind", Json.quote e.kind.name)]

end LiveTail
