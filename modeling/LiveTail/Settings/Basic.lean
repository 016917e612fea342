import LiveTail.Settings.Duration
import LiveTail.Text.Quote
/-!
# Settings

What a run of the tailer is configured with, and the rules it checks before starting:
durations and the buffer size positive, a sandbox directory named, and an encoding of the
log that exists. Every broken rule is reported, one line each, in the order of the fields.
-/
namespace LiveTail

/-- The runtime settings. -/
structure Settings where
  pollInterval : Duration := ⟨100 * Duration.millisecond⟩
  readBufferSize : Int := 2097152
  launchTimeout : Duration := ⟨5 * Duration.second⟩
  watch : Bool := true
  sandboxDir : String := "/sandbox"
  logLevel : String := "info"
  logEncoding : String := "console"
  deriving Repr, Inhabited

namespace Settings

/-- A broken rule. -/
inductive Problem where
  | pollInterval (d : Duration)
  | readBufferSize (n : Int)
  | launchTimeout (d : Duration)
  | sandboxDir
  | logEncoding (name : String)
  deriving DecidableEq, Repr

/-- The line that reports a broken rule. -/
def Problem.message : Problem → String
  | .pollInterval d => "poll_interval must be positive, got " ++ d.text
  | .readBufferSize n => "read_buffer_size must be positive, got " ++ toString n
  | .launchTimeout d => "launch_timeout must be positive, got " ++ d.text
  | .sandboxDir => "sandbox_dir must not be empty"
  | .logEncoding e => "log.encoding must be json or console, got " ++ Quote.quote e

/-- The broken rules, in field order. -/
def problems (s : Settings) : List Problem :=
  (if s.pollInterval.nanos ≤ 0 then [.pollInterval s.pollInterval] else [])
  ++ (if s.readBufferSize ≤ 0 then [.readBufferSize s.readBufferSize] else [])
  ++ (if s.launchTimeout.nanos ≤ 0 then [.launchTimeout s.launchTimeout] else [])
  ++ (if s.sandboxDir = "" then [.sandboxDir] else [])
  ++ (if s.logEncoding = "json" ∨ s.logEncoding = "console" then [] else [.logEncoding s.logEncoding])

/-- The report of broken rules, one line each; none when every rule holds. -/
def check (s : Settings) : Option String :=
  match s.problems with
  | [] => none
  | ps => some ("\n".intercalate (ps.map Problem.message))

end Settings
end LiveTail
