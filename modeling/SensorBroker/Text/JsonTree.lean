/-
# Writing JSON

A tree of values is written over several lines, two blanks further in for each
level; an empty list or object stays on its line. A text is written with the
short escapes where there are some, and with four hexadecimal digits for the
other control characters.

Key definitions: `Json.Tree`, `Json.escape`, `Json.Tree.chars`,
`Json.Tree.render`.
-/

namespace SensorBroker.Json

/-- A value to be written. -/
inductive Tree
  | truth (value : Bool)
  | number (n : Int)
  | text (s : String)
  | list (items : List Tree)
  | object (members : List (String × Tree))
deriving Inhabited

/-- A hexadecimal digit. -/
def hexDigit (n : Nat) : Char :=
  if n < 10 then Char.ofNat ('0'.toNat + n) else Char.ofNat ('a'.toNat + (n - 10))

/-- A character of a text as it is written. -/
def escape (c : Char) : List Char :=
  if c = '"' then ['\\', '"']
  else if c = '\\' then ['\\', '\\']
  else if c = '\x08' then ['\\', 'b']
  else if c = '\t' then ['\\', 't']
  else if c = '\n' then ['\\', 'n']
  else if c = '\x0c' then ['\\', 'f']
  else if c = '\r' then ['\\', 'r']
  else if c < ' ' then ['\\', 'u', '0', '0', hexDigit (c.toNat / 16), hexDigit (c.toNat % 16)]
  else [c]

/-- A text as it is written. -/
def quote (s : String) : List Char :=
  '"' :: s.toList.flatMap escape ++ ['"']

/-- So many blanks. -/
def blanks (n : Nat) : List Char :=
  List.replicate n ' '

namespace Tree

mutual

/-- A value whose lines after the first stand behind so many blanks. -/
def chars (indent : Nat) : Tree → List Char
  | .truth true => "true".toList
  | .truth false => "false".toList
  | .number n => (toString n).toList
  | .text s => quote s
  | .list [] => ['[', ']']
  | .list (t :: ts) =>
    '[' :: '\n' :: blanks (indent + 2) ++ chars (indent + 2) t ++ itemsChars (indent + 2) ts
      ++ '\n' :: blanks indent ++ [']']
  | .object [] => ['\x7b', '\x7d']
  | .object ((name, t) :: ms) =>
    '\x7b' :: '\n' :: blanks (indent + 2) ++ quote name ++ ':' :: ' ' :: chars (indent + 2) t
      ++ membersChars (indent + 2) ms ++ '\n' :: blanks indent ++ ['\x7d']

/-- Further items of a list. -/
def itemsChars (indent : Nat) : List Tree → List Char
  | [] => []
  | t :: ts => ',' :: '\n' :: blanks indent ++ chars indent t ++ itemsChars indent ts

/-- Further members of an object. -/
def membersChars (indent : Nat) : List (String × Tree) → List Char
  | [] => []
  | (name, t) :: ms =>
    ',' :: '\n' :: blanks indent ++ quote name ++ ':' :: ' ' :: chars indent t
      ++ membersChars indent ms

end

/-- A value as it is written. -/
def render (t : Tree) : String :=
  String.ofList (t.chars 0)

end Tree
end SensorBroker.Json
