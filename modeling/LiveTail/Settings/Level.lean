import LiveTail.Text.Quote
import LiveTail.Text.Case
/-!
# Log levels and encodings

The log takes a level by name, in any case (`""` is info), and one of two encodings.
A level lets through every message of its own severity or above. The level is read
before the encoding is looked up, so a text with both wrong reports the level.
-/
namespace LiveTail

/-- Severities, least first. -/
inductive Level where
  | debug
  | info
  | warn
  | error
  | dpanic
  | panic
  | fatal
  deriving DecidableEq, Repr

namespace Level

/-- Every level, least first. -/
def all : List Level := [debug, info, warn, error, dpanic, panic, fatal]

/-- The position of a level in severity order. -/
def rank : Level → Nat
  | debug => 0
  | info => 1
  | warn => 2
  | error => 3
  | dpanic => 4
  | panic => 5
  | fatal => 6

/-- The name of a level. -/
def name : Level → String
  | debug => "debug"
  | info => "info"
  | warn => "warn"
  | error => "error"
  | dpanic => "dpanic"
  | panic => "panic"
  | fatal => "fatal"

/-- A level lets a message of severity `m` through. -/
def enables (l m : Level) : Bool := l.rank ≤ m.rank

/-- The level of an exact spelling: lower case, upper case, or empty for info. -/
def ofSpelling? (s : String) : Option Level :=
  if s = "" then some info
  else all.find? fun l => l.name = s ∨ l.name.toUpper = s

/-- The level named by a text, in any case. -/
def parse (s : String) : Except String Level :=
  match ofSpelling? s <|> ofSpelling? (Case.lower s) with
  | some l => .ok l
  | none => .error ("unrecognized level: " ++ Quote.quote s)

end Level

/-- The encodings the log can write. -/
inductive LogEncoding where
  | json
  | console
  deriving DecidableEq, Repr

/-- The encoding of a name. -/
def LogEncoding.parse : String → Except String LogEncoding
  | "json" => .ok .json
  | "console" => .ok .console
  | "" => .error "no encoder name specified"
  | e => .error ("no encoder registered for name " ++ Quote.quote e)

/-- Sets up the log: the level, then the encoding. -/
def setupLog (level encoding : String) : Except String (Level × LogEncoding) := do
  let l ← (Level.parse level).mapError ("parsing log level: " ++ ·)
  let e ← LogEncoding.parse encoding
  return (l, e)

end LiveTail
