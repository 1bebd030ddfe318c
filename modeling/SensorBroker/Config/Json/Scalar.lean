/-
# Texts, numbers and words of JSON

A number is whole if it is written without fraction and exponent, is not minus
zero and fits into 64 bits; every other one is kept in double precision, from
as many of its digits as fit into 64 bits. Escapes of surrogates must come in
pairs to stand for a character.

Key definitions: `skipBlank`, `word`, `Number`, `number`, `numberText`,
`unescape`, `string`.
-/
import SensorBroker.Config.Json.Flaw
import SensorBroker.Decimal.Shortest
import SensorBroker.Text.Digits

namespace SensorBroker.Json

open SensorBroker.Text SensorBroker.Decimal

/-- Whether a character may stand between tokens. -/
def isBlank (c : Char) : Bool :=
  c = ' ' || c = '\t' || c = '\n' || c = '\r'

/-- Passes over blanks. -/
def skipBlank (cs : List Char) : List Char :=
  cs.dropWhile isBlank

/-- Takes the rest of a word. -/
def word : List Char → Reader Unit
  | [], cs => .ok ((), cs)
  | _ :: _, [] => .error (flaw .endInValue [])
  | w :: ws, c :: cs => if w = c then word ws cs else .error (flawIn .wordExpected (c :: cs))

/-! ## Numbers -/

/-- A number as it is read. -/
inductive Number
  | whole (n : Int)
  | double (x : Float)

/-- Adds digits to a number as long as it fits into 64 bits; answers how many
were added. -/
def absorb (n : Nat) : List Char → Nat × Nat
  | [] => (n, 0)
  | d :: ds =>
    let m := n * 10 + digitValue d
    if UInt64.size ≤ m then (n, 0)
    else
      let (m, k) := absorb m ds
      (m, k + 1)

/-- A number times a power of ten, if it is in range. Each step takes at most
308 places off. -/
def scaled : Nat → Float → Int → Option Float
  | 0, x, _ => some x
  | fuel + 1, x, power =>
    let ten (n : Nat) : Float := Float.ofScientific 1 false n
    if power.natAbs ≤ 308 then
      if power < 0 then some (x / ten power.natAbs)
      else if (x * ten power.natAbs).isInf then none
      else some (x * ten power.natAbs)
    else if x == 0 then some x
    else if power < 0 then scaled fuel (x / ten 308) (power + 308)
    else none

/-- A number in double precision. -/
def double (negative : Bool) (digits : Nat) (power : Int) : Reader Number := fun cs =>
  match scaled 8 digits.toFloat power with
  | none => .error (flaw .hugeNumber cs)
  | some x => .ok (.double (if negative then -x else x), cs)

/-- Takes the digits of an exponent, the first of which was looked at. -/
def exponentDigits (negative : Bool) (digits : Nat) (power : Int) (minus : Bool) :
    Nat → Reader Number
  | e, c :: cs =>
    if isDigit c then
      let e := e * 10 + digitValue c
      if Nat.pow 2 31 ≤ e then
        if digits ≠ 0 && !minus then .error (flaw .hugeNumber cs)
        else .ok (.double (if negative then -0.0 else 0.0), cs.dropWhile isDigit)
      else exponentDigits negative digits power minus e cs
    else double negative digits (if minus then power - e else power + e) (c :: cs)
  | e, [] => double negative digits (if minus then power - e else power + e) []

/-- Takes an exponent, of which the letter is taken. -/
def exponent (negative : Bool) (digits : Nat) (power : Int) : Reader Number := fun cs =>
  let minus := cs.head? = some '-'
  let cs := if minus || cs.head? = some '+' then cs.tail else cs
  match cs with
  | [] => .error (flaw .endInValue [])
  | c :: rest =>
    if isDigit c then exponentDigits negative digits power minus 0 (c :: rest)
    else .error (flawIn .badNumber (c :: rest))

/-- Takes a fraction, of which the point is taken. -/
def fraction (negative : Bool) (digits : Nat) (power : Int) : Reader Number := fun cs =>
  match digitsOf cs with
  | ([], []) => .error (flawIn .endInValue [])
  | ([], rest) => .error (flawIn .badNumber rest)
  | (ds, rest) =>
    let (digits, places) := absorb digits ds
    let power := power - places
    match rest with
    | 'e' :: rest => exponent negative digits power rest
    | 'E' :: rest => exponent negative digits power rest
    | rest => double negative digits power rest

/-- Takes what follows the digits before the point, of which as many were kept
as fit; `dropped` were not. -/
def afterDigits (negative : Bool) (digits dropped : Nat) : Reader Number := fun cs =>
  match cs with
  | '.' :: rest => fraction negative digits dropped rest
  | 'e' :: rest => exponent negative digits dropped rest
  | 'E' :: rest => exponent negative digits dropped rest
  | rest =>
    if dropped ≠ 0 then double negative digits dropped rest
    else if !negative then .ok (.whole digits, rest)
    else if 1 ≤ digits && digits ≤ Nat.pow 2 63 then .ok (.whole (-digits), rest)
    else .ok (.double (-digits.toFloat), rest)

/-- Takes a number, of which the sign is taken. -/
def number (negative : Bool) : Reader Number := fun cs =>
  match digitsOf cs with
  | ([], []) => .error (flaw .endInValue [])
  | ([], rest) => .error (flawIn .badNumber rest)
  | ('0' :: d :: ds, rest) => .error (flawIn .badNumber (d :: ds ++ rest))
  | (ds, rest) =>
    let (digits, kept) := absorb 0 ds
    afterDigits negative digits (ds.length - kept) rest

/-- A number in double precision as it is shown: without exponent up to sixteen
digits before the point and five zeros behind it. An exponent has a sign. -/
def numberText (x : Float) : String :=
  match Binary.ofBits x.toBits with
  | .finite negative m e =>
    let sign := if negative then "-" else ""
    if m = 0 then sign ++ "0.0"
    else
      let (digits, power) := shortest .even m e
      let width := (toString digits).length
      let point := width + power
      if 0 ≤ power && point ≤ 16 then sign ++ positional digits power ++ ".0"
      else if -5 < point && point ≤ 16 then sign ++ positional digits power
      else
        let front := if width = 1 then toString digits else positional digits (1 - width)
        let power := point - 1
        sign ++ front ++ (if power < 0 then "e-" else "e+") ++ toString power.natAbs
  | _ => shortestText x

/-- What a number turned out to be. -/
def Number.found : Number → Found
  | .whole n => .whole n
  | .double x => .decimal (numberText x)

/-! ## Texts -/

/-- Takes four hexadecimal digits. -/
def hex : Reader Nat := fun cs =>
  let ds := cs.take 4
  if byteCount ds < 4 then .error ⟨.endInText, 0⟩
  else if ds.all isHexDigit then .ok (ofDigits 16 ds, cs.drop 4)
  else .error ⟨.unknownEscape, byteCount cs - 4⟩

/-- Takes the second half of a pair of surrogates. -/
def secondHalf (first : Nat) : Reader Char := fun cs =>
  match cs with
  | [] => .error (flaw .endInText [])
  | '\\' :: [] => .error (flaw .endInText [])
  | '\\' :: 'u' :: cs => do
    let (second, cs) ← hex cs
    match charOf? (0x10000 + (first - 0xD800) * 0x400 + (second - 0xDC00)) with
    | some c =>
      if 0xDC00 ≤ second && second < 0xE000 then .ok (c, cs) else .error (flaw .loneHalf cs)
    | none => .error (flaw .loneHalf cs)
  | '\\' :: cs => .error (flawIn .cutPair cs)
  | cs => .error (flawIn .cutPair cs)

/-- What a short escape stands for. -/
def escaped? : Char → Option Char
  | '"' => some '"'
  | '\\' => some '\\'
  | '/' => some '/'
  | 'b' => some '\x08'
  | 'f' => some '\x0c'
  | 'n' => some '\n'
  | 'r' => some '\r'
  | 't' => some '\t'
  | _ => none

/-- Takes an escape, of which the backslash is taken. -/
def unescape : Reader Char := fun cs =>
  match cs with
  | [] => .error (flaw .endInText [])
  | 'u' :: cs => do
    let (n, cs) ← hex cs
    match charOf? n with
    | some c => .ok (c, cs)
    | none => if n < 0xDC00 then secondHalf n cs else .error (flaw .loneHalf cs)
  | e :: rest =>
    match escaped? e with
    | some c => .ok (c, rest)
    | none => .error (flawIn .unknownEscape (e :: rest))

/-- Takes the characters of a text up to its closing quote. -/
def textFuel : Nat → Reader (List Char)
  | 0, cs => .error (flaw .endInText cs)
  | fuel + 1, cs =>
    match cs with
    | [] => .error (flaw .endInText [])
    | '"' :: cs => .ok ([], cs)
    | '\\' :: cs => do
      let (c, cs) ← unescape cs
      let (t, cs) ← textFuel fuel cs
      .ok (c :: t, cs)
    | c :: cs =>
      if c < ' ' then .error (flaw .controlCharacter cs)
      else do
        let (t, cs) ← textFuel fuel cs
        .ok (c :: t, cs)

/-- Takes a text, of which the opening quote is taken. -/
def string : Reader String := fun cs => do
  let (t, cs) ← textFuel (cs.length + 1) cs
  .ok (String.ofList t, cs)

end SensorBroker.Json
