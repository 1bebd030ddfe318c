/-
# Writing a configuration

JSON is written as a tree of sections and settings. TOML has a header for each
section with an empty line between sections; a list of two or more numbers is
written over several lines.

Key definitions: `Kind.tree`, `Config.tree`, `Config.toJson`, `Kind.toml`,
`Config.toToml`.
-/
import SensorBroker.Config.Schema
import SensorBroker.Text.JsonTree

namespace SensorBroker

/-! ## JSON -/

/-- A value of a kind as a tree. -/
def Kind.tree : (k : Kind) → k.Value → Json.Tree
  | .whole _, n => .number n
  | .sensors, ids => .list (ids.map fun s => .number s.toInt)
  | .backend, b => .text b.name

/-- A configuration as a tree. -/
def Config.tree (c : Config) : Json.Tree :=
  .object (c.outline.map fun s => (s.1, .object (s.2.map fun e => (e.name, e.kind.tree e.value))))

/-- A configuration in JSON. -/
def Config.toJson (c : Config) : String :=
  c.tree.render

/-! ## TOML -/

/-- A list of numbers in TOML. -/
def Toml.numbers (ns : List Int) : String :=
  match ns with
  | [] => "[]"
  | [n] => "[" ++ toString n ++ "]"
  | ns => "[\n" ++ String.join (ns.map fun n => "    " ++ toString n ++ ",\n") ++ "]"

/-- A value of a kind in TOML. The names of backends need no escapes. -/
def Kind.toml : (k : Kind) → k.Value → String
  | .whole _, n => toString (n : Int)
  | .sensors, ids => Toml.numbers (ids.map SensorId.toInt)
  | .backend, b => "\"" ++ b.name ++ "\""

/-- A section in TOML: its header and its settings. -/
def Toml.block (s : String × List Setting) : String :=
  "[" ++ s.1 ++ "]\n"
    ++ String.join (s.2.map fun e => e.name ++ " = " ++ e.kind.toml e.value ++ "\n")

/-- A configuration in TOML. -/
def Config.toToml (c : Config) : String :=
  "\n".intercalate (c.outline.map Toml.block)

end SensorBroker
