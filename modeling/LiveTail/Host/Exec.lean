import LiveTail.Host.Message
import LiveTail.Host.Files
import LiveTail.Registry
import LiveTail.Text.Words
import LiveTail.Text.Truth
/-!
# The host's commands

One command per line: its words are the command name and its arguments. A line with no
words gets no reply; a malformed line gets a failed reply with an empty command name; any
other line gets exactly one reply, whose status tells whether the command did its work.
`shutdown` stops every session and ends the conversation.
-/
namespace LiveTail

/-- The host: its registry and volume, and the sandbox it writes into. -/
structure Host where
  registry : Registry
  sandbox : String
  /-- Sessions started so far. -/
  started : Nat := 0
  deriving Inhabited

namespace Host

/-- The reply to a command with the wrong number of arguments. -/
def arity (cmd : String) (n : Nat) (names : String) : Reply :=
  .failed cmd ("invalid or missing params - expecting " ++ toString n ++ " params: " ++ names)

/-- Starts a session for a listener that writes notifications. -/
def listen (h : Host) (cmd : String) : List String → Reply × Host
  | [id, file, skip] =>
    match parseTruth skip with
    | .error e => (.failed cmd ("invalid or missing params: skipToEnd: " ++ e), h)
    | .ok skipToEnd =>
      let path := Path.abs h.registry.volume.cwd file
      let number := h.started + 1
      match h.registry.start number id path skipToEnd (some {}) with
      | (.error f, r) => (.failed cmd f.message, { h with registry := r, started := number })
      | (.ok (), r) => (.done cmd id, { h with registry := r, started := number })
  | _ => (arity cmd 3 "id, filename, skipToEnd", h)

/-- Runs a command with its arguments: the reply, if any, and whether to quit. -/
def command (h : Host) (cmd : String) (args : List String) : Option Reply × Bool × Host :=
  let v := h.registry.volume
  match cmd, args with
  | "listenOnFile", args => let (r, h) := h.listen cmd args; (some r, false, h)
  | "stopFileListen", [id] => (some (.done cmd id), false, { h with registry := h.registry.stop id })
  | "stopFileListen", _ => (some (arity cmd 1 "id"), false, h)
  | "getTextFile", [p] =>
    match v.readText p with
    | (.error f, v) => (some (.failed cmd f.message), false, { h with registry.volume := v })
    | (.ok b, v) => (some ⟨cmd, true, .text b⟩, false, { h with registry.volume := v })
  | "getTextFile", _ => (some (arity cmd 1 "path"), false, h)
  | "fileExists", [p] => (some ⟨cmd, true, .flag (v.pathExists p)⟩, false, h)
  | "fileExists", _ => (some (arity cmd 1 "path"), false, h)
  | "isDirectory", [p] => (some ⟨cmd, true, .flag (v.isDirectory p)⟩, false, h)
  | "isDirectory", _ => (some (arity cmd 1 "path"), false, h)
  | "writeLocalAppDataFile", [name, content] =>
    match v.writeSandboxed h.sandbox name content.toUTF8 with
    | (.error f, v) => (some (.failed cmd f.message), false, { h with registry.volume := v })
    | (.ok full, v) => (some (.done cmd full), false, { h with registry.volume := v })
  | "writeLocalAppDataFile", _ => (some (arity cmd 2 "filename, content"), false, h)
  | "shutdown", _ => (some ⟨cmd, true, .none⟩, true, { h with registry := h.registry.stopAll })
  | _, _ => (some (.failed cmd ("unknown command: " ++ cmd)), false, h)

/-- Runs one command line: the reply, if any, and whether to quit. -/
def exec (h : Host) (line : String) : Option Reply × Bool × Host :=
  match Words.split line with
  | none => (some (.failed "" "invalid or missing params: invalid command line string"), false, h)
  | some [] => (none, false, h)
  | some (cmd :: args) => h.command cmd args

end Host
end LiveTail
