/-
# Loading a configuration

A text is read in its format and must then be allowed. The format of a file is
known by what follows the last dot of its name, in capitals or not.

Key definitions: `Config.load`, `FileContent`, `extension?`,
`ConfigFormat.ofExtension?`, `Config.loadFile`.
-/
import SensorBroker.Config.Json.Reading
import SensorBroker.Config.Toml.Reading
import SensorBroker.Config.Validation
import SensorBroker.Config.Writing
import SensorBroker.Text.Utf8

namespace SensorBroker

/-- Reads a configuration without looking whether it is allowed; says what is
wrong with a text that is none. -/
def Config.read : ConfigFormat → String → Except String Config
  | .toml => Toml.config?
  | .json => Json.config?

/-- Reads a configuration. -/
def Config.load (format : ConfigFormat) (text : String) : Except Fault Config := do
  let c ← (Config.read format text).mapError fun reason =>
    Fault.configMalformed (format.name ++ " parse error: " ++ reason)
  c.validate
  return c

/-- Writes a configuration. -/
def Config.write (format : ConfigFormat) (c : Config) : String :=
  match format with
  | .toml => c.toToml
  | .json => c.toJson

/-! ## Files -/

/-- The name of a file without the directories before it. -/
def fileName? (path : String) : Option String :=
  ((path.splitOn "/").filter fun part => part ≠ "" && part ≠ ".").getLast?.filter (· ≠ "..")

/-- The part of a file's name behind its last dot, if something stands before
the dot. -/
def extension? (path : String) : Option String := do
  match (← fileName? path).toList.reverse.span (· ≠ '.') with
  | (back, '.' :: front) => if front.isEmpty then none else some (String.ofList back.reverse)
  | _ => none

/-- The format that an extension stands for. -/
def ConfigFormat.ofExtension? (s : String) : Option ConfigFormat :=
  match s.toLower with
  | "toml" => some .toml
  | "json" => some .json
  | _ => none

/-- The format of a file. -/
def ConfigFormat.ofFileName (name : String) : Except Fault ConfigFormat :=
  match extension? name with
  | none => .error (.configMalformed "cannot determine file format from extension")
  | some s =>
    match ConfigFormat.ofExtension? s with
    | some format => .ok format
    | none => .error (.configMalformed ("unsupported config format: ." ++ s))

/-- What is found under the name of a file. -/
inductive FileContent
  | missing
  /-- Something is there that cannot be read. -/
  | unreadable (reason : String)
  | bytes (bs : Bytes)
deriving DecidableEq, Inhabited

/-- Whether nothing is there. -/
def FileContent.isMissing : FileContent → Bool
  | .missing => true
  | _ => false

/-- Reads a configuration file, of which the name and the content is given. -/
def Config.loadFile (name : String) (content : FileContent) : Except Fault Config :=
  match ConfigFormat.ofFileName name with
  | .error f => .error f
  | .ok format =>
    match content with
    | .missing => .error (.io "no such file")
    | .unreadable reason => .error (.io reason)
    | .bytes bs =>
      match Utf8.decode? bs with
      | some text => Config.load format text
      | none => .error (.io "stream did not contain valid UTF-8")

end SensorBroker
