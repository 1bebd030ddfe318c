/-
# Passing over JSON that nobody asked for

What stands under an unknown name is passed over. It must be JSON, but its texts
need not stand for characters, nor its numbers be in range, and it may nest as
deep as it likes: brackets that are open are kept in a list.

Key definitions: `skipNumber`, `skipString`, `Bracket`, `skipFuel`, `skip`.
-/
import SensorBroker.Config.Json.Scalar

namespace SensorBroker.Json

open SensorBroker.Text

/-- Passes over an exponent, of which the letter is taken. -/
def skipExponent (cs : List Char) : Except Flaw (List Char) :=
  let cs := if cs.head? = some '-' || cs.head? = some '+' then cs.tail else cs
  match digitsOf cs with
  | ([], rest) => .error (flawIn .badNumber rest)
  | (_, rest) => .ok rest

/-- Passes over what follows the digits before the point. -/
def skipAfterDigits (cs : List Char) : Except Flaw (List Char) :=
  let afterFraction (cs : List Char) : Except Flaw (List Char) :=
    match cs with
    | 'e' :: cs => skipExponent cs
    | 'E' :: cs => skipExponent cs
    | cs => .ok cs
  match cs with
  | '.' :: cs =>
    match digitsOf cs with
    | ([], rest) => .error (flawIn .badNumber rest)
    | (_, rest) => afterFraction rest
  | cs => afterFraction cs

/-- Passes over a number, of which the sign is taken. -/
def skipNumber (cs : List Char) : Except Flaw (List Char) :=
  match digitsOf cs with
  | ([], rest) => .error (flawIn .badNumber rest)
  | ('0' :: d :: ds, rest) => .error (flawIn .badNumber (d :: ds ++ rest))
  | (_, rest) => skipAfterDigits rest

/-- Passes over a text up to its closing quote. -/
def skipStringFuel : Nat → List Char → Except Flaw (List Char)
  | 0, cs => .error (flaw .endInText cs)
  | fuel + 1, cs =>
    match cs with
    | [] => .error (flaw .endInText [])
    | '"' :: cs => .ok cs
    | '\\' :: [] => .error (flaw .endInText [])
    | '\\' :: 'u' :: cs => do
      let (_, cs) ← hex cs
      skipStringFuel fuel cs
    | '\\' :: e :: cs =>
      if (escaped? e).isSome then skipStringFuel fuel cs
      else .error (flawIn .unknownEscape (e :: cs))
    | c :: cs =>
      if c < ' ' then .error (flaw .controlCharacter (c :: cs)) else skipStringFuel fuel cs

/-- Passes over a text, of which the opening quote is taken. -/
def skipString (cs : List Char) : Except Flaw (List Char) :=
  skipStringFuel (cs.length + 1) cs

/-- A bracket that is open. -/
inductive Bracket
  | list
  | object
deriving DecidableEq

/-- The flaw of a text that ends within a bracket. -/
def Bracket.cut : Bracket → Flaw
  | .list => flawIn .endInList []
  | .object => flawIn .endInObject []

/-- What closes a bracket. -/
def Bracket.close : Bracket → Char
  | .list => ']'
  | .object => '\x7d'

/-- What is wrong where a bracket is neither closed nor goes on. -/
def Bracket.endExpected : Bracket → Cause
  | .list => .listEndExpected
  | .object => .objectEndExpected

/-- Passes over the name and the colon of a member. -/
def skipName (cs : List Char) : Except Flaw (List Char) :=
  match skipBlank cs with
  | [] => .error (flawIn .endInObject [])
  | '"' :: cs => do
    let cs ← skipString cs
    match skipBlank cs with
    | [] => .error (flawIn .endInObject [])
    | ':' :: cs => .ok cs
    | cs => .error (flawIn .colonExpected cs)
  | cs => .error (flawIn .nameExpected cs)

/-- Passes over what stands in front of the next value within a bracket. -/
def Bracket.enter : Bracket → List Char → Except Flaw (List Char)
  | .list, cs => .ok cs
  | .object, cs => skipName cs

/-- Passes over a value that is no list and no object. -/
def skipScalar (cs : List Char) : Except Flaw (List Char) :=
  let rest (w : String) (cs : List Char) : Except Flaw (List Char) :=
    (word w.toList cs).map Prod.snd
  match cs with
  | [] => .error (flawIn .endInValue [])
  | 'n' :: cs => rest "ull" cs
  | 't' :: cs => rest "rue" cs
  | 'f' :: cs => rest "alse" cs
  | '"' :: cs => skipString cs
  | '-' :: cs => skipNumber cs
  | c :: cs => if isDigit c then skipNumber (c :: cs) else .error (flawIn .valueExpected (c :: cs))

/-- Passes over a value, or over what follows one if `done`, up to the end of
the last bracket that is open. -/
def skipFuel : Nat → Bool → List Bracket → List Char → Except Flaw (List Char)
  | 0, _, _, cs => .error (flaw .endInValue cs)
  | _ + 1, true, [], cs => .ok cs
  | fuel + 1, true, b :: bs, cs =>
    match skipBlank cs with
    | [] => .error b.cut
    | ',' :: cs => do skipFuel fuel false (b :: bs) (← b.enter cs)
    | c :: cs =>
      if c = b.close then skipFuel fuel true bs cs
      else .error (flawIn b.endExpected (c :: cs))
  | fuel + 1, false, bs, cs =>
    let opened (b : Bracket) (cs : List Char) : Except Flaw (List Char) :=
      match skipBlank cs with
      | [] => .error b.cut
      | c :: cs =>
        if c = b.close then skipFuel fuel true bs cs
        else do skipFuel fuel false (b :: bs) (← b.enter (c :: cs))
    match skipBlank cs with
    | '[' :: cs => opened .list cs
    | '\x7b' :: cs => opened .object cs
    | cs => do skipFuel fuel true bs (← skipScalar cs)

/-- Passes over a value. Every two steps take a character. -/
def skip (cs : List Char) : Except Flaw (List Char) :=
  skipFuel (2 * cs.length + 2) false [] cs

end SensorBroker.Json
