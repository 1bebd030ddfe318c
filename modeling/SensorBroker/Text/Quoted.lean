/-
# Texts in quotes within a message

A text that is quoted in a message shows every character: quotes, backslashes
and what leaves no mark of its own are escaped.

Key definitions: `showChar`, `quoted`.
-/
import SensorBroker.Text.Unmarked

namespace SensorBroker.Text

/-- A character as it is shown in quotes. -/
def showChar (c : Char) : List Char :=
  if c = '"' then ['\\', '"']
  else if c = '\\' then ['\\', '\\']
  else if c = '\n' then ['\\', 'n']
  else if c = '\r' then ['\\', 'r']
  else if c = '\t' then ['\\', 't']
  else if c = '\x00' then ['\\', '0']
  else if isUnmarked c then '\\' :: 'u' :: '\x7b' :: Nat.toDigits 16 c.toNat ++ ['\x7d']
  else [c]

/-- A text in quotes. -/
def quoted (s : String) : String :=
  "\"" ++ String.ofList (s.toList.flatMap showChar) ++ "\""

end SensorBroker.Text
