import LiveTail.Cli.Complete
import LiveTail.Cli.Scripts
import LiveTail.Host.Serve
import LiveTail.Settings.Level
import LiveTail.Settings.Load
import LiveTail.Source.Files
import LiveTail.View.Row
/-!
# The program

A run of the program on a command line: the command is found, its flags read, its
arguments checked, the settings loaded (flags over environment over file over defaults)
and then the command does its work. A failure anywhere is written to stderr after
`Error: ` and the program exits with 1.

`version` prints the version. `host` serves the commands read from stdin, writing each
reply and then the session events it caused, and the endings of all sessions when the
input ends. `tail` follows the files its patterns name and prints each event as a plain
row; it ends when every file's session has ended, with a failure naming each session that
ended other than by being stopped, or when it is told to stop.

A run that waits (only `tail` does) is a process: the files can be changed under it and
it can be told to terminate, and after each change it prints what the change caused.
-/
namespace LiveTail.Cli

/-- The version line. -/
def versionLine : String := programName ++ " dev (none) built unknown\n"

/-- The settings keys the settings flags are bound to. -/
def boundKeys : List (String × String) := [
  ("log-level", "log.level"), ("log-encoding", "log.encoding"), ("poll-interval", "poll_interval"),
  ("read-buffer-size", "read_buffer_size"), ("watch", "watch"), ("sandbox-dir", "sandbox_dir")]

/-- A flag's value as a settings value: a duration as its text. -/
def FlagValue.setting : FlagValue → Value
  | .text s => .text s
  | .truth b => .bool b
  | .integer n => .int n .int
  | .duration d => .text d.text

/-- What a program is doing. -/
inductive Activity where
  | exited (code : Nat)
  /-- Printing the events of a file source: the sessions not yet ended and the
  sessions that ended other than by being stopped. -/
  | tailing (source : FileSource) (rows : RowConfig) (live : Nat) (failed : List String)

/-- A run of the program. -/
structure Process where
  stdout : String := ""
  stderr : String := ""
  /-- The file system, while no file source holds it. -/
  volume : Volume
  activity : Activity

namespace Process

/-- The file system the process sees. -/
def files (p : Process) : Volume :=
  match p.activity with
  | .tailing src _ _ _ => src.registry.volume
  | .exited _ => p.volume

/-- Whether the process still runs. -/
def running (p : Process) : Bool :=
  match p.activity with
  | .tailing .. => true
  | .exited _ => false

/-- The exit code, once exited. -/
def exitCode? (p : Process) : Option Nat :=
  match p.activity with
  | .exited c => some c
  | .tailing .. => none

/-- Ends the process with a failure. -/
def failWith (p : Process) (message : String) : Process :=
  { p with stderr := p.stderr ++ "Error: " ++ message ++ "\n", volume := p.files, activity := .exited 1 }

/-- Ends the process successfully. -/
def succeed (p : Process) : Process := { p with volume := p.files, activity := .exited 0 }

/-- Ends a file source's printing: every session left is stopped unseen, and the run fails
when a session ended other than by being stopped. -/
def finishTail (p : Process) (src : FileSource) (failed : List String) : Process :=
  let src := src.stop
  let p := { p with volume := src.registry.volume, activity := .exited 0 }
  if failed.isEmpty then p
  else p.failWith ("tailing ended: " ++ ", ".intercalate failed)

/-- Prints events as rows until every session has ended. -/
def printEvents (p : Process) (src : FileSource) (rows : RowConfig) :
    List Event → Nat → List String → Process
  | [], live, failed =>
    if src.closed then p.finishTail src failed
    else { p with activity := .tailing src rows live failed }
  | e :: rest, live, failed =>
    let p := { p with stdout := p.stdout ++ rows.plain e ++ "\n" }
    match e with
    | .line .. => printEvents p src rows rest live failed
    | .ending id kind _ =>
      let failed := if kind = some .stopped then failed
        else failed ++ [label id ++ ": " ++ Event.kindName kind]
      if live ≤ 1 then p.finishTail src failed
      else printEvents p src rows rest (live - 1) failed

/-- Lets a tailing process take in what happened since it last looked. -/
def pump (p : Process) : Process :=
  match p.activity with
  | .tailing src rows live failed =>
    let (events, src) := src.poll
    p.printEvents src rows events live failed
  | .exited _ => p

/-- Changes the files under the process, which then takes in what the change caused. -/
def change (p : Process) (f : Volume → Except FsError Volume) : Except FsError Unit × Process :=
  match f p.files with
  | .error e => (.error e, p)
  | .ok v =>
    let p := match p.activity with
      | .tailing src rows live failed =>
        { p with activity := .tailing { src with registry.volume := v } rows live failed }
      | .exited _ => { p with volume := v }
    (.ok (), p.pump)

/-- Tells the process to terminate: a file source stops its sessions, whose endings are
printed, and the run ends. -/
def terminate (p : Process) : Process :=
  match p.activity with
  | .tailing src rows live failed =>
    let src := src.stop
    { p with activity := .tailing src rows live failed }.pump
  | .exited _ => p

end Process

/-- The settings a command line asks for: the configuration file named by its flag, and
the settings flags that were set, over the environment. -/
def settingsOf (env : Environment) (v : Volume) (parsed : Parsed) : Except String Settings :=
  let file := match parsed.values.lookup "config" with
    | some (.text f) => if f = "" then none else some f
    | _ => none
  let flags := boundKeys.filterMap fun (name, key) =>
    (parsed.values.lookup name).map fun value => (key, value.setting)
  match loadSettings env v file (boundKeys.map (·.2)) flags with
  | .error f => .error f.message
  | .ok s =>
    match setupLog s.logLevel s.logEncoding with
    | .error e => .error e
    | .ok _ => .ok s

/-- The topics of an unknown help request, as they are shown: each between backquotes
when it can stand there, else quoted. -/
def topics (args : List String) : String :=
  "[" ++ " ".intercalate (args.map Quote.quoteRaw) ++ "]"

/-- Runs the host on a script: each reply, then the events it caused; at the end of the
script the endings of the sessions still running. Also the files as the host left them. -/
def serveScript (h : Host) (script : ByteArray) : String × Option String × Volume :=
  let (lines, tooLong) := scriptLines script
  let rec go (h : Host) (out : String) : List ByteArray → String × Bool × Host
    | [] => (out, false, h)
    | line :: rest =>
      let (reply, quit, h) := h.exec (Utf8.read line)
      let (heard, r) := h.registry.settle.drain
      let h := { h with registry := r }
      let out := out ++ (match reply with | some r => r.line ++ "\n" | none => "")
        ++ String.join (heard.toList.map fun d => d.notification ++ "\n")
      if quit then (out, true, h) else go h out rest
  let (out, quit, h) := go h "" lines.toList
  let (heard, r) := h.registry.stopAll.drain
  let out := out ++ String.join (heard.toList.map fun d => d.notification ++ "\n")
  (out, (if tooLong && !quit then some "reading commands: bufio.Scanner: token too long" else none),
    r.volume)

/-- The completion script of a shell, asking for completions with or without
descriptions. -/
def completionScript (shell : String) (descriptions : Bool) : String :=
  let request := if descriptions then requestName else requestNameBare
  match shell with
  | "bash" => Scripts.bash request
  | "zsh" => Scripts.zsh request
  | "fish" => Scripts.fish request
  | _ => Scripts.powershell request

/-- Whether a completion request wants descriptions: not when called by the name that
asks for none, nor when the environment turns them off. -/
def descriptionsWanted (env : Environment) (calledAs : String) : Bool :=
  let setting := (env.get? "SIMPLEIO_COMPLETION_DESCRIPTIONS").getD
    ((env.get? "COBRA_COMPLETION_DESCRIPTIONS").getD "")
  calledAs ≠ requestNameBare ∧ (parseTruth setting).toOption.getD true

/-- Runs a command whose flags and arguments were accepted. -/
def runAction (p : Process) (env : Environment) (stdin : ByteArray) (c : Command) (parsed : Parsed) :
    Process :=
  match c.action with
  | none => { p with stdout := p.stdout ++ c.help }.succeed
  | some .version => { p with stdout := p.stdout ++ versionLine }.succeed
  | some action =>
    match settingsOf env p.volume parsed with
    | .error e => p.failWith e
    | .ok s =>
      let options : TailOptions :=
        { bufferSize := s.readBufferSize.toNat, launchTimeout := s.launchTimeout }
      match action with
      | .help =>
        let (topic, _, err) := find parsed.args
        match err with
        | some _ =>
          { p with stdout := p.stdout ++ "Unknown help topic " ++ topics parsed.args ++ "\n" ++ root.usage false }.succeed
        | none => { p with stdout := p.stdout ++ topic.help }.succeed
      | .host =>
        let h : Host := { registry := { volume := p.volume, options := { options with dispatch := .queue } },
                          sandbox := s.sandboxDir }
        let (out, err, v) := serveScript h stdin
        let p := { p with stdout := p.stdout ++ out, volume := v }
        match err with
        | some e => p.failWith e
        | none => p.succeed
      | .completion shell =>
        let descriptions := parsed.values.lookup "no-descriptions" != some (.truth true)
        { p with stdout := p.stdout ++ completionScript shell descriptions }.succeed
      | .tail =>
        let fromStart := parsed.values.lookup "from-start" == some (.truth true)
        let src : FileSource := { patterns := parsed.args, fromStart,
                                  registry := { volume := p.volume, options } }
        match src.start with
        | (.error e, _, src) => { p with volume := src.registry.volume }.failWith e
        | (.ok (), _, src) =>
          let rows : RowConfig := { showIds := src.paths.length > 1 }
          { p with activity := .tailing src rows src.paths.length [] }.pump
      | _ => p.succeed

/-- Answers a shell's request for completions, once its arguments are checked and the
settings loaded; `calledAs` is the name the request was called by. -/
def answerRequest (p : Process) (env : Environment) (calledAs : String) (rest : List String) :
    Process :=
  match requestCommand.checkArgs rest with
  | .error e => p.failWith e
  | .ok () =>
    match settingsOf env p.volume {} with
    | .error e => p.failWith e
    | .ok _ =>
      let answer := complete rest
      { p with stdout := answer.output (descriptionsWanted env calledAs), stderr := answer.report }.succeed

/-- Runs the command a command line names, other than the completion request. -/
def runCommand (p : Process) (env : Environment) (stdin : ByteArray) (args : List String) : Process :=
  let (c, rest, err) := find args
  match err with
  | some e =>
    { p with stderr := "Error: " ++ e ++ "\nRun '" ++ c.commandPath ++ " --help' for usage.\n",
             activity := .exited 1 }
  | none =>
    match parseFlags c.allFlags rest with
    | .error e => p.failWith e
    | .ok parsed =>
      if parsed.values.lookup "help" == some (.truth true) then { p with stdout := c.help }.succeed
      else if c.action.isNone then { p with stdout := c.help }.succeed
      else match c.checkArgs parsed.args with
        | .error e => p.failWith e
        | .ok () => runAction p env stdin c parsed

/-- Starts the program on a command line, with an environment, a file system and what
stdin holds. A command line that names the completion request is answered by it; the
request command exists only in such runs. -/
def start (env : Environment) (v : Volume) (stdin : ByteArray) (args : List String) : Process :=
  let p : Process := { volume := v, activity := .exited 0 }
  match find args true with
  | (c, rest, none) =>
    if c.path = requestCommand.path then answerRequest p env ((stripFlags root.findFlags args).headD "") rest
    else runCommand p env stdin args
  | _ => runCommand p env stdin args

end LiveTail.Cli
