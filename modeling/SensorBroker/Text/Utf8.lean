/-
# Where a byte sequence stops being UTF-8

A text on the wire is checked before it is taken. When it is not UTF-8 the
report names the place: how many bytes before it are sound, and how many bytes
the unsound sequence has, or that the bytes ended inside a character. The
sequences are those of the Unicode standard, table 3-7: no surrogate, nothing
above U+10FFFF, no overlong form.

Key definitions: `Utf8.Flaw`, `Utf8.flaw?`, `Utf8.decode?`, `Utf8.encode`.
-/
import SensorBroker.Sensor.Basic

namespace SensorBroker
namespace Utf8

/-- Why bytes are not UTF-8. -/
inductive Flaw
  /-- `length` bytes from `start` on begin no character. -/
  | unsound (start length : Nat)
  /-- The bytes end inside the character that begins at `start`. -/
  | cut (start : Nat)
deriving DecidableEq

/-- The wording of a flaw. -/
def Flaw.message : Flaw → String
  | .unsound start length =>
    "invalid utf-8 sequence of " ++ toString length ++ " bytes from index " ++ toString start
  | .cut start => "incomplete utf-8 byte sequence from index " ++ toString start

/-- The least and the greatest second byte that may follow a first byte, and
the number of bytes of its character; nothing for a byte that is no first
byte. -/
def lead (b : UInt8) : Option (UInt8 × UInt8 × Nat) :=
  if b < 0x80 then some (0, 0, 1)
  else if 0xC2 ≤ b && b ≤ 0xDF then some (0x80, 0xBF, 2)
  else if b == 0xE0 then some (0xA0, 0xBF, 3)
  else if b == 0xED then some (0x80, 0x9F, 3)
  else if 0xE1 ≤ b && b ≤ 0xEF then some (0x80, 0xBF, 3)
  else if b == 0xF0 then some (0x90, 0xBF, 4)
  else if 0xF1 ≤ b && b ≤ 0xF3 then some (0x80, 0xBF, 4)
  else if b == 0xF4 then some (0x80, 0x8F, 4)
  else none

/-- Looks for the first flaw. `start` is where the character at hand began,
`seen` how many of its bytes were read, `owed` how many are still to come, and
the next of them lies between `low` and `high`. -/
def scan (start seen owed : Nat) (low high : UInt8) : Bytes → Option Flaw
  | [] => if owed = 0 then none else some (.cut start)
  | b :: rest =>
    if owed = 0 then
      let start := start + seen
      match lead b with
      | none => some (.unsound start 1)
      | some (low, high, width) => scan start 1 (width - 1) low high rest
    else if low ≤ b && b ≤ high then scan start (seen + 1) (owed - 1) 0x80 0xBF rest
    else some (.unsound start seen)

/-- The first flaw of the bytes, if they are not UTF-8. -/
def flaw? (bs : Bytes) : Option Flaw :=
  scan 0 0 0 0 0 bs

/-- The bytes of a text. -/
def encode (s : String) : Bytes :=
  s.toByteArray.toList

/-- The text with these bytes, if there is one. -/
def decode? (bs : Bytes) : Option String :=
  String.fromUTF8? ⟨bs.toArray⟩

end Utf8
end SensorBroker
