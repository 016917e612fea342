import LiveTail.Cli.Flags
import LiveTail.Text.Case
/-!
# Commands

The program's commands form a tree under the root command. A command line is read in two
passes. The first finds the command: words that are not flags (nor values of flags that
take one) name subcommands, one level at a time, and the name is taken out of the
arguments. The second reads the flags of the command found, its own and the persistent
ones of the commands above it.

Every command has a help flag. Help text is the command's long description (or its short
one), then how to call it, its subcommands, its flags and the flags it inherits, each list
in name order with its columns aligned.
-/
namespace LiveTail.Cli

/-- How a command checks the arguments left after its flags. -/
inductive ArgRule where
  /-- A command with subcommands refuses arguments at the root, any other takes them. -/
  | loose
  | empty
  | atLeast (n : Nat)
  deriving DecidableEq, Repr

/-- What a command does when it runs. -/
inductive Action where
  | version
  | host
  | tail
  | help
  | completion (shell : String)
  /-- Answers a shell's request for completions. -/
  | complete
  deriving DecidableEq, Repr

/-- How a command's arguments are completed, beyond the names of its subcommands. -/
inductive ArgCompletion where
  /-- Nothing is offered, and the shell may offer file names. -/
  | files
  /-- Nothing is offered, and the shell offers no file names either. -/
  | noFiles
  /-- The subcommands of the command the arguments name. -/
  | commands
  deriving DecidableEq, Repr

/-- A command of the program. -/
structure Command where
  /-- The names leading to it from the root, the root having none. -/
  path : List String
  use : String
  short : String
  long : String := ""
  /-- Flags of this command alone. -/
  flags : List FlagSpec := []
  /-- Flags of this command and every command below it. -/
  persistent : List FlagSpec := []
  rule : ArgRule := .loose
  /-- What it does; a command without an action only shows its help. -/
  action : Option Action := none
  /-- Whether running it reads the settings first. -/
  readsSettings : Bool := true
  /-- Hidden from lists of commands and from suggestions. -/
  hidden : Bool := false
  /-- Whether the use line ends with a note that flags may follow. -/
  flagsInUseLine : Bool := true
  /-- Other names the command answers to. -/
  aliases : List String := []
  /-- Whether its flags are read; a command that reads none takes its arguments as typed. -/
  readsFlags : Bool := true
  /-- How its arguments are completed. -/
  completesArgs : ArgCompletion := .files
  deriving Repr

namespace Command

/-- The command's name: the first word of its use line. -/
def name (c : Command) : String := (c.use.splitOn " ").headD ""

/-- Whether a word names the command, by its name or one of its aliases. -/
def named (c : Command) (word : String) : Bool := c.name == word || c.aliases.contains word

/-- The help flag of a command. -/
def helpFlag (c : Command) : FlagSpec :=
  { name := "help", short := some 'h', kind := .truth, default := "false", usage := "help for " ++ c.name }

end Command

/-- The name of the program. -/
def programName : String := "simpleio"

/-- The settings flags every command inherits from the root. -/
def rootFlags : List FlagSpec := [
  { name := "config", kind := .text, default := "", usage := "config file (yaml, json or toml)" },
  { name := "log-level", kind := .text, default := "info", usage := "log level: debug, info, warn or error" },
  { name := "log-encoding", kind := .text, default := "console", usage := "log encoding: console or json" },
  { name := "poll-interval", kind := .duration, default := "100ms", usage := "wait between reads when a file is idle" },
  { name := "read-buffer-size", kind := .integer, default := "2097152", usage := "bytes read per poll" },
  { name := "watch", kind := .truth, default := "true",
    usage := "wake sessions on file system events instead of polling only" },
  { name := "sandbox-dir", kind := .text, default := "", usage := "directory writeLocalAppDataFile writes into" }]

/-- The long description of the host command. -/
def hostLong : String :=
  "Reads one shell-quoted command per line from stdin:\n\n" ++
  "  listenOnFile <id> <path> <skipToEnd>\n" ++
  "  stopFileListen <id>\n" ++
  "  getTextFile <path>\n" ++
  "  fileExists <path>\n" ++
  "  isDirectory <path>\n" ++
  "  writeLocalAppDataFile <name> <content>\n" ++
  "  shutdown\n\n" ++
  "Every command gets a \x7b\"cmd\",\"status\",\"data\"\x7d reply. Tail sessions report\n" ++
  "\x7b\"event\":\"line\"\x7d and \x7b\"event\":\"terminal\"\x7d objects as they happen."

/-- How to load the completion script of a shell, as its command's help says. -/
def completionLong (shell : String) : String :=
  let p := programName
  match shell with
  | "bash" =>
    "Generate the autocompletion script for the bash shell.\n\n"
      ++ "This script depends on the 'bash-completion' package.\n"
      ++ "If it is not installed already, you can install it via your OS's package manager.\n\n"
      ++ "To load completions in your current shell session:\n\n"
      ++ "\tsource <(" ++ p ++ " completion bash)\n\n"
      ++ "To load completions for every new session, execute once:\n\n"
      ++ "#### Linux:\n\n"
      ++ "\t" ++ p ++ " completion bash > /etc/bash_completion.d/" ++ p ++ "\n\n"
      ++ "#### macOS:\n\n"
      ++ "\t" ++ p ++ " completion bash > $(brew --prefix)/etc/bash_completion.d/" ++ p ++ "\n\n"
      ++ "You will need to start a new shell for this setup to take effect.\n"
  | "zsh" =>
    "Generate the autocompletion script for the zsh shell.\n\n"
      ++ "If shell completion is not already enabled in your environment you will need\n"
      ++ "to enable it.  You can execute the following once:\n\n"
      ++ "\techo \"autoload -U compinit; compinit\" >> ~/.zshrc\n\n"
      ++ "To load completions in your current shell session:\n\n"
      ++ "\tsource <(" ++ p ++ " completion zsh)\n\n"
      ++ "To load completions for every new session, execute once:\n\n"
      ++ "#### Linux:\n\n"
      ++ "\t" ++ p ++ " completion zsh > \"$\x7bfpath[1]\x7d/_" ++ p ++ "\"\n\n"
      ++ "#### macOS:\n\n"
      ++ "\t" ++ p ++ " completion zsh > $(brew --prefix)/share/zsh/site-functions/_" ++ p ++ "\n\n"
      ++ "You will need to start a new shell for this setup to take effect.\n"
  | "fish" =>
    "Generate the autocompletion script for the fish shell.\n\n"
      ++ "To load completions in your current shell session:\n\n"
      ++ "\t" ++ p ++ " completion fish | source\n\n"
      ++ "To load completions for every new session, execute once:\n\n"
      ++ "\t" ++ p ++ " completion fish > ~/.config/fish/completions/" ++ p ++ ".fish\n\n"
      ++ "You will need to start a new shell for this setup to take effect.\n"
  | _ =>
    "Generate the autocompletion script for powershell.\n\n"
      ++ "To load completions in your current shell session:\n\n"
      ++ "\t" ++ p ++ " completion powershell | Out-String | Invoke-Expression\n\n"
      ++ "To load completions for every new session, add the output of the above command\n"
      ++ "to your powershell profile.\n"

/-- A shell completion command. -/
def completionFor (shell : String) : Command :=
  { path := ["completion", shell], use := shell,
    short := "Generate the autocompletion script for " ++ shell,
    long := completionLong shell,
    flags := [{ name := "no-descriptions", kind := .truth, default := "false",
                usage := "disable completion descriptions" }],
    rule := .empty, action := some (.completion shell), flagsInUseLine := shell != "bash",
    completesArgs := .noFiles }

/-- Every command, in the order they were added: each parent's list of subcommands keeps
this order. -/
def commands : List Command := [
  { path := [], use := programName, short := "Live file tailing and file helpers for scripts",
    persistent := rootFlags },
  { path := ["tail"], use := "tail <file|glob>...",
    short := "Follow files and print lines as they are appended",
    flags := [{ name := "from-start", kind := .truth, default := "false",
                usage := "print existing content before new lines" },
              { name := "plain", kind := .truth, default := "false",
                usage := "print plain lines even when stdout is a terminal" }],
    rule := .atLeast 1, action := some .tail },
  { path := ["host"], use := "host",
    short := "Serve file commands on stdin, one JSON reply or event per stdout line",
    long := hostLong, rule := .empty, action := some .host },
  { path := ["version"], use := "version", short := "Print version information",
    rule := .empty, action := some .version, readsSettings := false },
  { path := ["help"], use := "help [command]", short := "Help about any command",
    long := "Help provides help for any command in the application.\nSimply type "
      ++ programName ++ " help [path to command] for full details.",
    action := some .help, completesArgs := .commands },
  { path := ["completion"], use := "completion",
    short := "Generate the autocompletion script for the specified shell",
    long := "Generate the autocompletion script for " ++ programName ++ " for the specified shell.\n"
      ++ "See each sub-command's help for details on how to use the generated script.\n",
    rule := .empty, completesArgs := .noFiles },
  completionFor "bash", completionFor "zsh", completionFor "fish", completionFor "powershell"]

/-- The name of the request for completions with descriptions. -/
def requestName : String := "__complete"

/-- The name of the request for completions without descriptions. -/
def requestNameBare : String := "__completeNoDesc"

/-- The hidden command a shell's completion script calls with the words typed so far. It
is under the root only in a run that calls it. -/
def requestCommand : Command :=
  { path := [requestName], use := requestName ++ " [command-line]", aliases := [requestNameBare],
    short := "Request shell completion choices for the specified command-line",
    long := requestName ++ " is a special command that is used by the shell completion logic\n"
      ++ "to request completion choices for the specified command-line.",
    rule := .atLeast 1, action := some .complete, hidden := true, flagsInUseLine := false,
    readsFlags := false }

/-- The root command. -/
def root : Command := (commands.find? (·.path.isEmpty)).getD { path := [], use := programName, short := "" }

/-- The subcommands of a command, in the order they were added. -/
def children (c : Command) : List Command :=
  commands.filter fun d => d.path.length = c.path.length + 1 ∧ c.path.isPrefixOf d.path

/-- The commands from the root down to a command. -/
def lineage (c : Command) : List Command :=
  (List.range (c.path.length + 1)).filterMap fun i =>
    commands.find? (·.path == c.path.take i)

/-- The command's path as typed: the program and the names below it. -/
def Command.commandPath (c : Command) : String := " ".intercalate (programName :: c.path)

/-- The persistent flags a command inherits from the commands above it. -/
def Command.inherited (c : Command) : List FlagSpec :=
  ((lineage c).filter (·.path.length < c.path.length)).flatMap (·.persistent)

/-- The flags a command is called with: its own, its persistent ones, the help flag and
the inherited ones. -/
def Command.allFlags (c : Command) : List FlagSpec :=
  c.flags ++ c.persistent ++ [c.helpFlag] ++ c.inherited

/-- The flags known while the command is looked for, before help flags exist. -/
def Command.findFlags (c : Command) : List FlagSpec := c.flags ++ c.persistent ++ c.inherited

/-- Whether a flag is known and set to true when written alone. -/
def takesNoValue : Option FlagSpec → Bool
  | some f => f.kind = .truth
  | none => false

/-- Whether an argument is a flag whose value is the next argument; an unknown flag is
taken to have one. -/
def takesNext (flags : List FlagSpec) (s : String) : Bool :=
  (s.startsWith "--" ∧ !s.contains '=' ∧ !takesNoValue (flags.find? (·.name == (s.drop 2).toString)))
  ∨ (s.startsWith "-" ∧ !s.contains '=' ∧ s.length = 2
      ∧ !takesNoValue (flags.find? (·.short == (s.toList.drop 1).head?)))

/-- The words of a command line that are neither flags nor flag values. A flag that takes
the next argument ends the scan when at most one argument follows it. -/
def stripFlags (flags : List FlagSpec) : List String → List String
  | [] => []
  | s :: rest =>
    if s = "--" then []
    else if takesNext flags s then
      match rest with
      | _ :: next :: more => stripFlags flags (next :: more)
      | _ => []
    else if s ≠ "" ∧ !s.startsWith "-" then s :: stripFlags flags rest
    else stripFlags flags rest

/-- The arguments with the first word `x` that is not a flag or a flag value removed. -/
def withoutFirst (flags : List FlagSpec) (x : String) : List String → List String
  | [] => []
  | s :: rest =>
    if s = "--" then s :: rest
    else if takesNext flags s then
      match rest with
      | v :: more => s :: v :: withoutFirst flags x more
      | [] => [s]
    else if !s.startsWith "-" ∧ s = x then rest
    else s :: withoutFirst flags x rest

/-- The subcommands a command line can name below a command; in a run that calls for
completions the root also has the request command. -/
def reachable (request : Bool) (c : Command) : List Command :=
  if request ∧ c.path.isEmpty then children c ++ [requestCommand] else children c

/-- Finds the command a command line names, one level at a time: the command and the
arguments left for it. -/
def findFrom (request : Bool) (c : Command) (args : List String) : Nat → Command × List String
  | 0 => (c, args)
  | fuel + 1 =>
    match stripFlags c.findFlags args with
    | [] => (c, args)
    | next :: _ =>
      match (reachable request c).find? (·.named next) with
      | some d => findFrom request d (withoutFirst c.findFlags next args) fuel
      | none => (c, args)

/-- The edit distance between two texts, counted in bytes of their UTF-8 forms, letters
compared in lower case. Rows run over the bytes of `t`; each holds the distances from the
prefixes of `s`. -/
def editDistance (s t : String) : Nat :=
  let a := (Case.lower s).toUTF8.toList
  let b := (Case.lower t).toUTF8.toList
  let step (prev : List Nat) (cb : UInt8) : List Nat :=
    let first := prev.headD 0 + 1
    let (row, _) := (a.zip (prev.zip prev.tail)).foldl (fun (acc : List Nat × Nat) (ca, diag, up) =>
      let v := if ca = cb then diag else min up (min acc.2 diag) + 1
      (acc.1 ++ [v], v)) ([first], first)
    row
  (b.foldl step (List.range (a.length + 1))).getLast?.getD 0

/-- Commands that can be listed: not hidden, not the help command, and either runnable or
with listable subcommands. -/
def Command.listable (c : Command) (fuel : Nat := 4) : Bool :=
  match fuel with
  | 0 => false
  | fuel + 1 =>
    !c.hidden ∧ c.path ≠ ["help"] ∧ (c.action.isSome ∨ (children c).any (·.listable fuel))

/-- The commands suggested for a mistyped name: within two edits, or starting with it. -/
def suggestions (c : Command) (typed : String) : List String :=
  ((children c).filter fun d =>
    d.listable ∧ (editDistance typed d.name ≤ 2 ∨ (Case.lower d.name).startsWith (Case.lower typed))).map (·.name)

/-- The failure of a root called with words that name no command. -/
def unknownCommand (c : Command) (word : String) : String :=
  "unknown command " ++ Quote.quote word ++ " for " ++ Quote.quote c.commandPath
    ++ match suggestions c word with
      | [] => ""
      | ss => "\n\nDid you mean this?\n" ++ String.join (ss.map fun s => "\t" ++ s ++ "\n")

/-- Finds the command a command line names, with the request command under the root when
`request` is set; a loose command with subcommands refuses words at the root. -/
def find (args : List String) (request : Bool := false) : Command × List String × Option String :=
  let (c, rest) := findFrom request root args (args.length + 1)
  if c.rule = .loose ∧ !(children c).isEmpty ∧ c.path.isEmpty then
    match stripFlags c.findFlags rest with
    | word :: _ => (c, rest, some (unknownCommand c word))
    | [] => (c, rest, none)
  else (c, rest, none)

/-- Checks the arguments a command was given. -/
def Command.checkArgs (c : Command) (args : List String) : Except String Unit :=
  match c.rule with
  | .loose => .ok ()
  | .empty =>
    match args with
    | [] => .ok ()
    | a :: _ => .error ("unknown command " ++ Quote.quote a ++ " for " ++ Quote.quote c.commandPath)
  | .atLeast n =>
    if args.length < n then
      .error ("requires at least " ++ toString n ++ " arg(s), only received " ++ toString args.length)
    else .ok ()

/-! ## Help text -/

/-- Whether a flag's default is the zero value of its kind, which help leaves unsaid. -/
def FlagSpec.defaultIsZero (f : FlagSpec) : Bool :=
  match f.kind with
  | .text => f.default = ""
  | .truth => f.default = "false"
  | .integer => f.default = "0"
  | .duration => f.default = "0" ∨ f.default = "0s"

/-- The name of the value a flag takes, as help shows it. -/
def FlagKind.valueName : FlagKind → String
  | .text => "string"
  | .truth => ""
  | .integer => "int"
  | .duration => "duration"

/-- The lines describing flags, in name order, descriptions aligned one column past the
longest flag. -/
def flagUsages (flags : List FlagSpec) : String :=
  let sorted := flags.mergeSort fun a b => decide (a.name ≤ b.name)
  let heads := sorted.map fun f =>
    let names := match f.short with
      | some c => "  -" ++ c.toString ++ ", --" ++ f.name
      | none => "      --" ++ f.name
    let value := f.kind.valueName
    (if value = "" then names else names ++ " " ++ value)
  let width := (heads.map String.length).foldl max 0 + 1
  let lines := (sorted.zip heads).map fun (f, head) =>
    let default := if f.defaultIsZero then ""
      else if f.kind = .text then " (default " ++ Quote.quote f.default ++ ")"
      else " (default " ++ f.default ++ ")"
    head ++ " " ++ String.ofList (List.replicate (width - head.length) ' ') ++ " " ++ f.usage ++ default
  String.join (lines.map (· ++ "\n"))

/-- A text with its trailing blanks and line breaks removed. -/
def trimEnd (s : String) : String :=
  String.ofList (s.toList.reverse.dropWhile (fun c => c = ' ' ∨ c = '\n' ∨ c = '\t' ∨ c = '\r')).reverse

/-- The line that shows how to call a command, ending in a flags mark. -/
def Command.useLine (c : Command) : String :=
  let line := if c.path.isEmpty then c.use
    else " ".intercalate (programName :: c.path.dropLast) ++ " " ++ c.use
  if !c.flagsInUseLine ∨ (line.splitOn "[flags]").length > 1 then line else line ++ " [flags]"

/-- The usage text of a command; its help flag shows only once it is given one, which a
command gets when it runs or has its help shown. -/
def Command.usage (c : Command) (withHelp : Bool := true) : String :=
  let subs := (children c).filter fun d => d.listable ∨ d.path = ["help"]
  let sorted := subs.mergeSort fun a b => decide (a.name ≤ b.name)
  let hasSubs := (children c).any (·.listable)
  let pad := max 11 ((((children c).map (·.name.length)).max?).getD 0)
  let own := c.flags ++ c.persistent ++ (if withHelp then [c.helpFlag] else [])
  let inherited := c.inherited
  "Usage:"
    ++ (if c.action.isSome then "\n  " ++ c.useLine else "")
    ++ (if hasSubs then "\n  " ++ c.commandPath ++ " [command]" else "")
    ++ (if hasSubs then
          "\n\nAvailable Commands:" ++ String.join (sorted.map fun d =>
            "\n  " ++ d.name ++ String.ofList (List.replicate (pad - d.name.length) ' ') ++ " " ++ d.short)
        else "")
    ++ (if own.isEmpty then "" else "\n\nFlags:\n" ++ trimEnd (flagUsages own))
    ++ (if inherited.isEmpty then "" else "\n\nGlobal Flags:\n" ++ trimEnd (flagUsages inherited))
    ++ (if hasSubs then
          "\n\nUse \"" ++ c.commandPath ++ " [command] --help\" for more information about a command."
        else "")
    ++ "\n"

/-- The help text of a command. -/
def Command.help (c : Command) : String :=
  let about := trimEnd (if c.long = "" then c.short else c.long)
  (if about = "" then "" else about ++ "\n\n")
    ++ (if c.action.isSome ∨ !(children c).isEmpty then c.usage else "")

end LiveTail.Cli
