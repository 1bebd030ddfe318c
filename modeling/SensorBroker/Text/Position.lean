/-
# Places in a text

A place is given by the number of characters before it. A reader finds it by
its line and its column; lines are counted from one. A place at the end of the
text belongs to the line of the last character, also where that ends its line.

Key definitions: `Span`, `byteCount`, `lastLine`, `lineCount`, `Sight`,
`Sight.ofPlace`.
-/

namespace SensorBroker.Text

/-- The stretch of a text from one place to another. -/
structure Span where
  start : Nat
  stop : Nat
deriving DecidableEq, Inhabited

/-- The stretch of no characters at a place. -/
def Span.point (place : Nat) : Span :=
  ⟨place, place⟩

/-- The number of bytes of characters in UTF-8. -/
def byteCount (cs : List Char) : Nat :=
  cs.foldl (fun n c => n + c.utf8Size) 0

/-- The characters behind the last line break. -/
def lastLine (cs : List Char) : List Char :=
  (cs.reverse.takeWhile (· ≠ '\n')).reverse

/-- The number of line breaks. -/
def lineCount (cs : List Char) : Nat :=
  cs.count '\n'

/-- What is seen of a place: its line, how far into the line it is, and the
line itself. -/
structure Sight where
  line : Nat
  column : Nat
  content : List Char
deriving DecidableEq, Inhabited

/-- Finds a place. The column counts characters, but bytes where the character
at the place has several. -/
def Sight.ofPlace (text : List Char) (place : Nat) : Sight :=
  let before := text.take (min place (text.length - 1))
  let line := lastLine before
  let rest := text.drop before.length
  let column :=
    match text.drop place with
    | c :: _ => if 1 < c.utf8Size then byteCount line else line.length
    | [] => line.length + (place - before.length)
  ⟨lineCount before + 1, column, line ++ rest.takeWhile (· ≠ '\n')⟩

end SensorBroker.Text
