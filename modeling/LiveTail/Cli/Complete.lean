import LiveTail.Cli.Commands
/-!
# Completing command lines

A shell asks for completions by calling the request command with the words typed so far,
the last one being the word to complete (often empty). The answer is a list of
completions, each a word and a description after a tab, and a directive telling the shell
what else to do.

The words before the last name a command, found as for a run. Then:

* the last word may be a flag's value, after `=` in the word itself or after a flag in the
  word before that takes a value; there is nothing to offer for values, and the shell may
  offer file names. A flag the command does not know is a problem;
* the words before the last are read as the command's flags and arguments; a problem there
  ends the request, and a help flag among them leaves nothing to offer;
* a last word starting with `-` asks for flag names: those not already given, inherited
  ones first, each list in name order, long and short forms that start with the word;
* otherwise, with no arguments yet and none of the command's own flags given, the
  subcommands whose names start with the word are offered, the help command among them;
  then the command's own way of completing arguments adds to them.

Nothing after a `--` is completed as a flag.
-/
namespace LiveTail.Cli

/-- What the shell is told to do besides offering the completions. -/
inductive Directive where
  /-- Nothing more: the shell may offer file names as well. -/
  | default
  /-- No space after the completion. -/
  | noSpace
  /-- No file names. -/
  | noFiles
  deriving DecidableEq, Repr

namespace Directive

/-- The number the directive is sent as. -/
def code : Directive → Nat
  | .default => 0
  | .noSpace => 2
  | .noFiles => 4

/-- The directive's name, as reported to the user. -/
def name : Directive → String
  | .default => "ShellCompDirectiveDefault"
  | .noSpace => "ShellCompDirectiveNoSpace"
  | .noFiles => "ShellCompDirectiveNoFileComp"

end Directive

/-- The answer to a completion request: the completions, the directive, and the problem
met on the way, if any. -/
structure Answer where
  completions : List String := []
  directive : Directive := .default
  problem : Option String := none
  deriving Repr

/-- A list of words as it is shown in messages: in brackets, separated by spaces. -/
def bracketed (ws : List String) : String := "[" ++ " ".intercalate ws ++ "]"

/-- Whether an argument is a whole flag: a long one with a name, or a short one. -/
def isFlagArg (s : String) : Bool :=
  (s.utf8ByteSize ≥ 3 && s.startsWith "--") || (s.utf8ByteSize ≥ 2 && s.startsWith "-" && !s.startsWith "--")

/-- The last letter of a word, as a word. -/
def lastLetter (s : String) : String := (s.toList.getLast?.map Char.toString).getD ""

/-- The flag a name means: a one-letter name is a short form. -/
def lookupFlag (flags : List FlagSpec) (name : String) : Option FlagSpec :=
  if name.utf8ByteSize = 1 then flags.find? (·.short == name.toList.head?)
  else flags.find? (·.name == name)

/-- The flag named in a word being completed before its `=`: the long name after `--`, or
else the letter before the `=`; also the text after the `=`. -/
def namedBeforeEqual (word : String) : Option (String × String) :=
  match word.splitOn "=" with
  | before :: after@(_ :: _) =>
    some (if before.startsWith "--" then (before.drop 2).toString else lastLetter before,
          "=".intercalate after)
  | _ => none

/-- Where a completion falls: the flag whose value is being completed, if any, the
arguments before the word, and the text to complete. -/
structure Target where
  flag : Option FlagSpec
  args : List String
  word : String
  deriving Repr

/-- Finds whether the word being completed is a flag's value. A flag the command does not
know is a problem, with the arguments and word as they were; a flag that takes no value,
named in the word before, is no target. -/
def flagTarget (c : Command) (args : List String) (word : String) : Target × Option String :=
  let plain : Target := { flag := none, args, word }
  if !c.readsFlags then (plain, none)
  else
    let start : Option (String × String × Bool) :=
      if word.startsWith "-" then (namedBeforeEqual word).map fun (n, rest) => (n, rest, true)
      else some ("", word, false)
    match start with
    | none => (plain, none)
    | some (name, rest, withEqual) =>
      let (name, before) : String × List String :=
        match name, args.getLast? with
        | "", some prev =>
          if isFlagArg prev && !prev.contains '=' then
            (if prev.startsWith "--" then (prev.drop 2).toString else lastLetter prev, args.dropLast)
          else ("", args)
        | _, _ => (name, args)
      if name = "" then ({ flag := none, args := before, word := rest }, none)
      else
        match lookupFlag c.allFlags name with
        | none => (plain, some ("Subcommand '" ++ c.name ++ "' does not support flag '" ++ name ++ "'"))
        | some f =>
          if !withEqual && f.kind = .truth then ({ flag := none, args, word := rest }, none)
          else ({ flag := some f, args := before, word := rest }, none)

/-- The completions of a flag's names that start with a word, the long form first. -/
def flagNames (f : FlagSpec) (word : String) : List String :=
  let long := "--" ++ f.name
  (if long.startsWith word then [long ++ "\t" ++ f.usage] else [])
    ++ match f.short with
      | some s =>
        let short := "-" ++ s.toString
        if short.startsWith word then [short ++ "\t" ++ f.usage] else []
      | none => []

/-- Flags in name order. -/
def byName (flags : List FlagSpec) : List FlagSpec := flags.mergeSort fun a b => decide (a.name ≤ b.name)

/-- The subcommands offered below a command: those listed in its help and the help command. -/
def offered (c : Command) : List Command :=
  ((children c).filter fun d => d.listable ∨ d.path = ["help"]).mergeSort fun a b => decide (a.name ≤ b.name)

/-- The completions of the subcommands of a command that start with a word. -/
def commandNames (c : Command) (word : String) : List String :=
  ((offered c).filter (·.name.startsWith word)).map fun d => d.name ++ "\t" ++ d.short

/-- What a command's own way of completing arguments adds, and the directive after it. -/
def completeArgs (c : Command) (args : List String) (word : String) (directive : Directive) :
    List String × Directive :=
  match c.completesArgs with
  | .files => ([], directive)
  | .noFiles => ([], .noFiles)
  | .commands =>
    match find args true with
    | (_, _, some _) => ([], .noFiles)
    | (d, _, none) => (commandNames d word, .noFiles)

/-- Completes the last of the words typed, those before it naming the command. -/
def complete (typed : List String) : Answer :=
  let word := typed.getLast?.getD ""
  let before := typed.dropLast
  match find before true with
  | (_, _, some _) =>
    { problem := some ("unable to find a command for arguments: " ++ bracketed before) }
  | (c, rest, none) =>
    let (target, flagProblem) := flagTarget c rest word
    let flags := c.allFlags
    let parse (args : List String) : Except String Parsed :=
      if c.readsFlags then parseFlags flags args else .ok { args := [] }
    let closed := ((parse (target.args ++ ["--"])).toOption.map (·.args.length)).getD 0
    match parse target.args with
    | .error e =>
      { problem := some ("Error while parsing flags from args " ++ bracketed target.args ++ ": " ++ e) }
    | .ok parsed =>
      let flagCompletion := closed ≤ parsed.args.length
      match flagProblem with
      | some e =>
        if flagCompletion then { problem := some e }
        else completeParsed c target parsed flagCompletion
      | none => completeParsed c target parsed flagCompletion
where
  /-- Completes once the words before the last were read. -/
  completeParsed (c : Command) (target : Target) (parsed : Parsed) (flagCompletion : Bool) : Answer :=
    if parsed.changed "help" then { directive := .noFiles }
    else
      let args := if c.readsFlags then parsed.args else target.args
      let word := target.word
      if target.flag.isNone && word.startsWith "-" && !word.contains '=' && flagCompletion then
        let offer (f : FlagSpec) : List String := if parsed.changed f.name then [] else flagNames f word
        let comps := (byName c.inherited).flatMap offer
          ++ (byName (c.flags ++ c.persistent ++ [c.helpFlag])).flatMap offer
        let directive : Directive := match comps with
          | [one] => if one.endsWith "=" then .noSpace else .noFiles
          | _ => .noFiles
        if c.readsFlags then { completions := comps, directive }
        else
          let (more, directive) := completeArgs c args word directive
          { completions := comps ++ more, directive }
      else
        let (comps, directive) : List String × Directive :=
          if target.flag.isSome then ([], .default)
          else if args.isEmpty && !c.flags.any (parsed.changed ·.name) then
            (commandNames c word, if (offered c).isEmpty then .default else .noFiles)
          else ([], .default)
        if target.flag.isSome && flagCompletion then { completions := comps, directive }
        else
          let (more, directive) := completeArgs c args word directive
          { completions := comps ++ more, directive }

/-- A completion as the shell reads it: without its description when descriptions are not
wanted, only its first line, and without surrounding blanks. -/
def shownCompletion (descriptions : Bool) (comp : String) : String :=
  let comp := if descriptions then comp else ((comp.splitOn "\t").headD "")
  let comp := (comp.splitOn "\n").headD ""
  let blank (ch : Char) : Bool := ch = ' ' ∨ ch = '\t' ∨ ch = '\n' ∨ ch = '\r' ∨ ch = '\x0b' ∨ ch = '\x0c'
  String.ofList ((comp.toList.dropWhile blank).reverse.dropWhile blank).reverse

/-- The standard output of a completion request: one completion a line, then the
directive's number after a colon. -/
def Answer.output (a : Answer) (descriptions : Bool) : String :=
  String.join (a.completions.map fun comp => shownCompletion descriptions comp ++ "\n")
    ++ ":" ++ toString a.directive.code ++ "\n"

/-- What a completion request reports on standard error: its problem, then the directive
it ended with. -/
def Answer.report (a : Answer) : String :=
  (match a.problem with
    | some p => "[Debug] [Error] " ++ p ++ "\n"
    | none => "")
    ++ "Completion ended with directive: " ++ a.directive.name ++ "\n"

end LiveTail.Cli
