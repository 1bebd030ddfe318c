/-
# Flaws in JSON

A flaw has a cause and a place. The place is told by line and column; lines are
counted from one, and the column is the number of bytes of the line up to the
place. A flaw that lies in the character at hand includes its first byte.

Key definitions: `Cause`, `Cause.message`, `Flaw`, `Reader`, `flaw`, `flawIn`,
`Flaw.message`.
-/
import SensorBroker.Config.Mismatch
import SensorBroker.Text.Position

namespace SensorBroker.Json

open SensorBroker.Text

/-- What is wrong with a text. -/
inductive Cause
  | endInList
  | endInObject
  | endInText
  | endInValue
  | colonExpected
  | listEndExpected
  | objectEndExpected
  | wordExpected
  | valueExpected
  | nameExpected
  | unknownEscape
  | badNumber
  | hugeNumber
  | controlCharacter
  /-- Half of a pair of surrogates, without the other half. -/
  | loneHalf
  /-- No escape follows the first half of a pair. -/
  | cutPair
  | trailingComma
  | trailingText
  /-- A name was given before. -/
  | repeated (name : String)
  | mismatch (m : Mismatch)
deriving DecidableEq, Inhabited

/-- The wording of a cause. -/
def Cause.message : Cause → String
  | .endInList => "EOF while parsing a list"
  | .endInObject => "EOF while parsing an object"
  | .endInText => "EOF while parsing a string"
  | .endInValue => "EOF while parsing a value"
  | .colonExpected => "expected `:`"
  | .listEndExpected => "expected `,` or `]`"
  | .objectEndExpected => "expected `,` or `\x7d`"
  | .wordExpected => "expected ident"
  | .valueExpected => "expected value"
  | .nameExpected => "key must be a string"
  | .unknownEscape => "invalid escape"
  | .badNumber => "invalid number"
  | .hugeNumber => "number out of range"
  | .controlCharacter =>
    "control character (\\u0000-\\u001F) found while parsing a string"
  | .loneHalf => "lone leading surrogate in hex escape"
  | .cutPair => "unexpected end of hex escape"
  | .trailingComma => "trailing comma"
  | .trailingText => "trailing characters"
  | .repeated name => "duplicate field `" ++ name ++ "`"
  | .mismatch m => m.message

/-- A cause and its place, given by the number of bytes behind it. -/
structure Flaw where
  cause : Cause
  left : Nat
deriving DecidableEq, Inhabited

/-- Takes a value from the front of a text; answers it and the rest. -/
abbrev Reader (α : Type) := List Char → Except Flaw (α × List Char)

/-- A flaw in front of these characters. -/
def flaw (cause : Cause) (cs : List Char) : Flaw :=
  ⟨cause, byteCount cs⟩

/-- A flaw in the first of these characters. -/
def flawIn (cause : Cause) (cs : List Char) : Flaw :=
  ⟨cause, byteCount cs - 1⟩

/-- Line and column of the place behind so many bytes, where lines begin behind
a line break. -/
def locate : Nat → Nat → Nat → List Char → Nat × Nat
  | bytes, line, column, c :: cs =>
    if bytes < c.utf8Size then (line, column + bytes)
    else if c = '\n' then locate (bytes - 1) (line + 1) 0 cs
    else locate (bytes - c.utf8Size) line (column + c.utf8Size) cs
  | _, line, column, [] => (line, column)

/-- The wording of a flaw in a text. -/
def Flaw.message (f : Flaw) (text : List Char) : String :=
  let (line, column) := locate (byteCount text - f.left) 1 0 text
  f.cause.message ++ " at line " ++ toString line ++ " column " ++ toString column

end SensorBroker.Json
