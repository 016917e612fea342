import LiveTail.Host.Exec
import LiveTail.Lines.Splitter
/-!
# Serving a script

The host reads a script line by line and runs each line as a command, until the script
ends or a `shutdown` runs; every session is stopped at the end. A line is cut at a newline
with one carriage return before it dropped; a last line without newline counts when it is
not empty. A line of 16 MiB or more ends the reading with an error, after the lines before
it have run.
-/
namespace LiveTail

/-- The length from which a command line is refused. -/
def maxCommandLine : Nat := 16777216

/-- The lines of a script from `start` on, and whether a line was too long. -/
def scriptLinesFrom (script : ByteArray) (start : Nat) (acc : Array ByteArray) :
    Array ByteArray × Bool :=
  if start < script.size then
    match hn : Splitter.newlineFrom script start with
    | some i =>
      if i - start ≥ maxCommandLine then (acc, true)
      else
        have : script.size - (i + 1) < script.size - start := by
          have := Splitter.newlineFrom_ge script start i hn
          have := Splitter.newlineFrom_lt script start i hn
          omega
        scriptLinesFrom script (i + 1)
          (acc.push (Splitter.trimReturn (script.extract start i)))
    | none =>
      if script.size - start ≥ maxCommandLine then (acc, true)
      else (acc.push (Splitter.trimReturn (script.extract start script.size)), false)
  else (acc, false)
termination_by script.size - start

/-- The lines of a script, and whether reading stopped at a line too long. -/
def scriptLines (script : ByteArray) : Array ByteArray × Bool := scriptLinesFrom script 0 #[]

namespace Host

/-- Runs command lines in order until one quits: the replies, whether one quit. -/
def runLines (h : Host) : List ByteArray → Array Reply → Array Reply × Bool × Host
  | [], acc => (acc, false, h)
  | line :: rest, acc =>
    let (reply, quit, h) := h.exec (Utf8.read line)
    let h := { h with registry := h.registry.settle }
    let acc := match reply with
      | some r => acc.push r
      | none => acc
    if quit then (acc, true, h) else h.runLines rest acc

/-- Serves a script: the replies, the reading failure if any, and the host after every
session was stopped. -/
def serve (h : Host) (script : ByteArray) : Array Reply × Option String × Host :=
  let (lines, tooLong) := scriptLines script
  let (replies, quit, h) := h.runLines lines.toList #[]
  let h := { h with registry := h.registry.stopAll }
  let err := if tooLong && !quit then some "reading commands: bufio.Scanner: token too long" else none
  (replies, err, h)

end Host
end LiveTail
