import LiveTail.Settings.Duration
import LiveTail.Text.Integer
import LiveTail.Text.Truth
/-!
# Command line flags

A flag has a long name, maybe a one-letter short name, a kind and a default. Arguments are
read left to right. `--name=value` and `--name value` set a flag; a truth flag written
alone is set to true, so `--watch false` leaves `false` as an argument. `-abc` is a run of
short flags, where a flag that takes a value takes the rest of the run (`-cfile`) or the
next argument. `--` ends the flags; `-` alone and anything not starting with `-` are
arguments, and flags may stand between arguments.

A value is read by its kind: integers in any base prefix, durations with units, truth
values in their six spellings each way. The first bad argument ends the reading.
-/
namespace LiveTail.Cli

/-- What a flag holds. -/
inductive FlagKind where
  | text
  | truth
  | integer
  | duration
  deriving DecidableEq, Repr

/-- A flag a command accepts. -/
structure FlagSpec where
  name : String
  short : Option Char := none
  kind : FlagKind
  /-- The default, as it is printed. -/
  default : String
  usage : String
  deriving Repr

/-- A value a flag was set to. -/
inductive FlagValue where
  | text (s : String)
  | truth (b : Bool)
  | integer (n : Int)
  | duration (d : Duration)
  deriving DecidableEq, Repr

/-- Reads the value of a flag, as its kind asks. -/
def FlagKind.read (k : FlagKind) (s : String) : Except String FlagValue :=
  match k with
  | .text => .ok (.text s)
  | .truth => (parseTruth s).map .truth
  | .integer => ((Integer.parse s).map .integer).mapError (·.message s)
  | .duration => ((Duration.parse s).map .duration).mapError (·.message)

/-- The value as a flag prints it: a duration as its shortest text. -/
def FlagValue.printed : FlagValue → String
  | .text s => s
  | .truth b => if b then "true" else "false"
  | .integer n => toString n
  | .duration d => d.text

/-- The flags set on a command line and the arguments that are not flags. -/
structure Parsed where
  values : List (String × FlagValue) := []
  args : List String := []
  deriving Repr

/-- Records a flag's value; a later setting replaces an earlier one. -/
def Parsed.set (p : Parsed) (name : String) (v : FlagValue) : Parsed :=
  { p with values := (name, v) :: p.values.filter (·.1 ≠ name) }

/-- Whether a flag was set. -/
def Parsed.changed (p : Parsed) (name : String) : Bool := p.values.any (·.1 == name)

/-- The name a flag is shown by in a failure: both names when it has a short one. -/
def FlagSpec.shown (f : FlagSpec) : String :=
  match f.short with
  | some c => "-" ++ c.toString ++ ", --" ++ f.name
  | none => "--" ++ f.name

/-- Sets a flag from a value text. -/
def setFlag (p : Parsed) (f : FlagSpec) (value : String) : Except String Parsed :=
  match f.kind.read value with
  | .ok v => .ok (p.set f.name v)
  | .error e => .error ("invalid argument " ++ Quote.quote value ++ " for " ++ Quote.quote f.shown
      ++ " flag: " ++ e)

/-- Reads a `--name` or `--name=value` argument: the flags then, and the remaining
arguments. -/
def longFlag (flags : List FlagSpec) (p : Parsed) (arg : String) (rest : List String) :
    Except String (Parsed × List String) :=
  let body := arg.drop 2 |>.toString
  if body.isEmpty ∨ body.startsWith "-" ∨ body.startsWith "=" then
    .error ("bad flag syntax: " ++ arg)
  else
    let name := (body.splitOn "=").headD ""
    let inline := if body.contains '=' then some (body.drop (name.length + 1)).toString else none
    match flags.find? (·.name == name) with
    | none => .error ("unknown flag: --" ++ name)
    | some f =>
      match inline with
      | some v => (setFlag p f v).map (·, rest)
      | none =>
        if f.kind = .truth then (setFlag p f "true").map (·, rest)
        else match rest with
          | v :: more => (setFlag p f v).map (·, more)
          | [] => .error ("flag needs an argument: " ++ arg)

/-- The quoted form of a short flag letter. -/
def quoteLetter (c : Char) : String := "'" ++ c.toString ++ "'"

/-- Reads a run of short flags: the flags then, and the remaining arguments. -/
def shortFlags (flags : List FlagSpec) (p : Parsed) (run : List Char) (rest : List String) :
    Except String (Parsed × List String) :=
  match run with
  | [] => .ok (p, rest)
  | c :: more =>
    match flags.find? (·.short == some c) with
    | none => .error ("unknown shorthand flag: " ++ quoteLetter c ++ " in -" ++ String.ofList run)
    | some f =>
      match more with
      | '=' :: v :: vs => (setFlag p f (String.ofList (v :: vs))).map (·, rest)
      | _ =>
        if f.kind = .truth then
          (setFlag p f "true").bind fun p => shortFlags flags p more rest
        else if !more.isEmpty then (setFlag p f (String.ofList more)).map (·, rest)
        else match rest with
          | v :: after => (setFlag p f v).map (·, after)
          | [] => .error ("flag needs an argument: " ++ quoteLetter c ++ " in -" ++ String.ofList run)

/-- Reads the arguments of a command line against the flags it accepts. -/
def parseFlags (flags : List FlagSpec) (args : List String) : Except String Parsed :=
  go {} args (args.length + 1)
where
  /-- Reads the arguments from the front, at most `fuel` of them. -/
  go (p : Parsed) (args : List String) : Nat → Except String Parsed
    | 0 => .ok p
    | fuel + 1 =>
      match args with
      | [] => .ok p
      | arg :: rest =>
        if arg.length < 2 ∨ !arg.startsWith "-" then go { p with args := p.args ++ [arg] } rest fuel
        else if arg = "--" then .ok { p with args := p.args ++ rest }
        else if arg.startsWith "--" then
          match longFlag flags p arg rest with
          | .ok (p, rest) => go p rest fuel
          | .error e => .error e
        else
          match shortFlags flags p (arg.toList.drop 1) rest with
          | .ok (p, rest) => go p rest fuel
          | .error e => .error e

end LiveTail.Cli
