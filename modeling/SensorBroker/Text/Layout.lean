/-
# Laying out reports

A report is a list of lines. It may open with a title in a frame; a list within
it stands on branches, of which the last is drawn as the last.

Key definitions: `unlines`, `branches`, `bracketed`, `alignRight`, `framed`.
-/

namespace SensorBroker.Text

/-- Lines, each with its end. -/
def unlines (lines : List String) : String :=
  String.join (lines.map (· ++ "\n"))

/-- The entries of a list, each on a branch. -/
def branches : List String → List String
  | [] => []
  | [entry] => ["   └─ " ++ entry]
  | entry :: rest => ("   ├─ " ++ entry) :: branches rest

/-- The entries of a list between brackets. -/
def bracketed (entries : List String) : String :=
  "[" ++ ", ".intercalate entries ++ "]"

/-- So many blanks. -/
def spaces (n : Nat) : String :=
  String.ofList (List.replicate n ' ')

/-- A text moved to the right end of a column. -/
def alignRight (width : Nat) (s : String) : String :=
  spaces (width - s.length) ++ s

/-- The width within a frame. -/
def frameWidth : Nat := 62

/-- A title in a frame, so many blanks from its left side, and an empty
line. -/
def framed (indent : Nat) (title : String) : List String :=
  let bar := String.ofList (List.replicate frameWidth '═')
  ["╔" ++ bar ++ "╗",
    "║" ++ spaces indent ++ title ++ spaces (frameWidth - indent - title.length) ++ "║",
    "╚" ++ bar ++ "╝",
    ""]

end SensorBroker.Text
