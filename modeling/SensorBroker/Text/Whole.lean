/-
# Whole numbers on the command line

A whole number is written in ASCII digits with a sign in front; a minus only
where negative numbers are meant. Digits are looked at from the left, so the
first that makes the number too large or is none decides what is wrong.

Key definitions: `WholeFlaw`, `whole?`, `isSpace`, `trim`.
-/
import SensorBroker.Text.Digits

namespace SensorBroker.Text

/-- Why a text is no whole number of a range. -/
inductive WholeFlaw
  | empty
  | invalidDigit
  | tooLarge
  | tooSmall
deriving DecidableEq, Inhabited

/-- The wording of a flaw. -/
def WholeFlaw.message : WholeFlaw → String
  | .empty => "cannot parse integer from empty string"
  | .invalidDigit => "invalid digit found in string"
  | .tooLarge => "number too large to fit in target type"
  | .tooSmall => "number too small to fit in target type"

/-- Reads digits behind those read already, up to a limit. -/
def wholeUpTo (limit : Nat) (beyond : WholeFlaw) : List Char → Nat → Except WholeFlaw Nat
  | [], n => .ok n
  | c :: cs, n =>
    if !isDigit c then .error .invalidDigit
    else if limit < n * 10 + digitValue c then .error beyond
    else wholeUpTo limit beyond cs (n * 10 + digitValue c)

/-- Reads at least one digit. -/
def wholeDigits (limit : Nat) (beyond : WholeFlaw) : List Char → Except WholeFlaw Nat
  | [] => .error .invalidDigit
  | cs => wholeUpTo limit beyond cs 0

/-- The whole number that a text is, between two bounds around zero. -/
def whole? (low high : Int) (s : String) : Except WholeFlaw Int :=
  match s.toList with
  | [] => .error .empty
  | '+' :: cs => (wholeDigits high.toNat .tooLarge cs).map Int.ofNat
  | '-' :: cs =>
    if low = 0 then .error .invalidDigit
    else (wholeDigits (-low).toNat .tooSmall cs).map fun n => -(n : Int)
  | cs => (wholeDigits high.toNat .tooLarge cs).map Int.ofNat

/-- Whether a character is white space, by the Unicode property. -/
def isSpace (c : Char) : Bool :=
  let n := c.toNat
  (9 ≤ n && n ≤ 13) || n = 0x20 || n = 0x85 || n = 0xA0 || n = 0x1680
    || (0x2000 ≤ n && n ≤ 0x200A) || n = 0x2028 || n = 0x2029 || n = 0x202F || n = 0x205F
    || n = 0x3000

/-- A text without the white space around it. -/
def trim (s : String) : String :=
  let front := s.toList.dropWhile isSpace
  String.ofList (front.reverse.dropWhile isSpace).reverse

end SensorBroker.Text
