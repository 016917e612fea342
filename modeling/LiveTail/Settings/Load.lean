import LiveTail.Bytes.Utf8
import LiveTail.Document.Dotenv
import LiveTail.Document.Hcl.Read
import LiveTail.Document.Ini
import LiveTail.Document.Json
import LiveTail.Document.Properties
import LiveTail.Document.Toml
import LiveTail.Document.Yaml.Read
import LiveTail.Settings.Layers
import LiveTail.Volume.Change
/-!
# Loading settings

Settings are loaded from the defaults, an optional configuration file and the
environment. The file's format is named by its extension; an extension that names no
format is refused before the file is read. The file is read whole, parsed by its format,
its keys put in lower case, and the layers are read into settings and checked.
-/
namespace LiveTail

/-- The formats a configuration file can be written in. -/
inductive Format where
  | yaml
  | json
  | toml
  | properties
  | hcl
  | dotenv
  | ini
  deriving DecidableEq, Repr

namespace Format

/-- The format an extension names; the match is exact, case included. -/
def ofExtension : String → Option Format
  | "yaml" | "yml" => some .yaml
  | "json" => some .json
  | "toml" => some .toml
  | "properties" | "props" | "prop" => some .properties
  | "hcl" | "tfvars" => some .hcl
  | "dotenv" | "env" => some .dotenv
  | "ini" => some .ini
  | _ => none

/-- Parses a document of the format from its bytes into table entries; `lookup` reads the
environment variables a document may refer to. The YAML, JSON, TOML, HCL, INI and
dotenv readers read the octets themselves; the other formats read them as UTF-8, each octet that starts no
well-formed sequence replaced. Only the HCL reader can crash; the others refuse a document
with a problem. -/
def parse (lookup : String → Option String) : Format → ByteArray → Except Refusal (List (String × Value))
  | .yaml, data => (Document.Yaml.read data).mapError .problem
  | .json, data => (Document.Json.read data).mapError (.problem ·.message)
  | .toml, data => (Document.Toml.read data).mapError .problem
  | .dotenv, data => (Document.Dotenv.read lookup data).mapError .problem
  | .properties, data => (Document.Properties.read lookup (Utf8.read data)).mapError .problem
  | .ini, data => (Document.Ini.read data).mapError .problem
  | .hcl, data => Document.Hcl.read data

end Format

/-- The extension of a path: what follows the last dot of its last name, or the empty
text when there is no dot or nothing follows it. -/
def Path.extension (p : String) : String :=
  let last := (p.splitOn "/").getLast?.getD ""
  match last.splitOn "." with
  | [] | [_] => ""
  | parts => parts.getLast?.getD ""

/-- Reads the settings file at a path into table entries with lower-case keys. -/
def readSettingsFile (env : Environment) (v : Volume) (file : String) : Except Failure (List (String × Value)) :=
  let ext := Path.extension file
  let context := "reading config " ++ file
  match Format.ofExtension ext with
  | none => .error (.plain (context ++ ": Unsupported Config Type " ++ Quote.quote ext))
  | some format =>
    match (v.readAll file).1 with
    | .error e => .error (e.toFailure.wrap context)
    | .ok data =>
      match format.parse (fun n => List.lookup n env) data with
      | .error (.problem m) => .error (.plain (context ++ ": While parsing config: " ++ m))
      | .error (.crash why) => .error ⟨.crash, why⟩
      | .ok entries =>
        match (Value.table entries).lowerKeys with
        | .table es => .ok es
        | _ => .ok []

/-- Loads the settings: the file when one is named, then the layers read and checked.
`flagKeys` are the keys bound to command line flags and `flags` the values of those set. -/
def loadSettings (env : Environment) (v : Volume) (file : Option String)
    (flagKeys : List String) (flags : List (String × Value)) : Except Failure Settings := do
  let entries ← match file with
    | some f => if f = "" then pure [] else readSettingsFile env v f
    | none => pure []
  let layers : Layers := { env, flagKeys, flags, file := .table entries, defaults := defaultLayer env }
  layers.settings.mapError Failure.plain

end LiveTail
