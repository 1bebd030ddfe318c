/-
# Numbers, truth values and dates of TOML

A scalar that is not in quotes is told by its first character. Digits may be
grouped by single underscores, each between two digits; between those of a whole
number the letters of hexadecimal digits pass for digits, and then there is no
number with them. A decimal number has no leading zero. How large a number may
be is decided where it is used.

Key definitions: `Scalar`, `Piece`, `checkGroups`, `Radix`, `wholeNumber`,
`floatNumber`, `Token.scalar`.
-/
import SensorBroker.Config.Toml.Moment
import SensorBroker.Config.Toml.Statement

namespace SensorBroker.Toml

open SensorBroker.Text

/-- What a scalar stands for. -/
inductive Scalar
  | truth (value : Bool)
  /-- A whole number, if there is one with these digits. -/
  | whole (n : Option Int)
  /-- A number in double precision. -/
  | decimal (x : Float)
  /-- A number that is not infinite and too large for double precision. -/
  | hugeDecimal
  | moment

/-- Characters of a token, from the front or behind others. -/
structure Piece where
  token : Token
  chars : List Char

namespace Piece

/-- The place of the first character. -/
def start (p : Piece) : Nat :=
  p.token.stop - p.chars.length

/-- All characters of a token. -/
def ofToken (t : Token) : Piece :=
  ⟨t, t.chars⟩

/-- The whole token of a piece. -/
def all (p : Piece) : Piece :=
  ofToken p.token

/-- Whether there is a blank in the token. -/
def isBroken (p : Piece) : Bool :=
  p.token.chars.contains ' '

/-- The characters behind the first ones. -/
def drop (p : Piece) (n : Nat) : Piece :=
  ⟨p.token, p.chars.drop n⟩

/-- A flaw in the first characters. -/
def flaw {α : Type} (p : Piece) (cause : Cause) (width : Nat) : Except Flaw α :=
  .error (flawIn cause ⟨p.start, p.start + width⟩)

/-- A flaw in the whole token. -/
def wrong {α : Type} (p : Piece) (cause : Cause) : Except Flaw α :=
  .error (flawIn cause p.token.span)

/-- The flaw of a word that should stand in quotes, or lacks the quotes in
front of it. -/
def unquoted {α : Type} (p : Piece) : Except Flaw α :=
  let cs := p.token.chars.reverse
  let missing (quotes : String) : Except Flaw α :=
    .error (flawAt (.quoteNotOpened quotes) p.token.start)
  if cs.take 3 = ['\'', '\'', '\''] then missing "'''"
  else if cs.take 3 = ['"', '"', '"'] then missing "\"\"\""
  else if cs.head? = some '\'' then missing "'"
  else if cs.head? = some '"' then missing "\""
  else p.wrong .notQuoted

end Piece

/-! ## Digits -/

/-- The groups that underscores separate. -/
def groupsOf : List Char → List (List Char)
  | [] => [[]]
  | c :: cs =>
    if c = '_' then [] :: groupsOf cs
    else
      match groupsOf cs with
      | group :: groups => (c :: group) :: groups
      | [] => [[c]]

/-- Where an underscore stands next to no digit, between the groups that
underscores separate. `offset` is how far into the token the first group stands,
of `width` characters. A sign alone is let pass as a group. -/
def strayBetween? (digit : Char → Bool) (width : Nat) : Nat → List (List Char) → Option Nat
  | _, [] => none
  | offset, group :: groups =>
    let stop := offset + group.length
    if 0 < offset && !(group.head?.all digit) then some (offset - 1)
    else if 1 < group.length && stop < width && !(group.getLast?.all digit) then some stop
    else if group.isEmpty && offset ≠ 0 && stop ≠ width then some offset
    else strayBetween? digit width (stop + 1) groups

/-- Where an underscore stands next to no digit: in front, at the end, or in
between. -/
def strayUnderscore? (digit : Char → Bool) (p : Piece) : Option Nat :=
  let offset := p.start - p.token.start
  if p.chars.head? = some '_' then some offset
  else if p.chars.getLast? = some '_' then some (offset + p.chars.length - 1)
  else strayBetween? digit p.token.chars.length offset (groupsOf p.chars)

/-- Looks whether every underscore stands between digits. -/
def checkGroups (digit : Char → Bool) (p : Piece) : Except Flaw Unit :=
  match strayUnderscore? digit p with
  | some offset =>
    let place := p.token.start + offset
    .error (flawIn .strayUnderscore ⟨place, place + 1⟩)
  | none => .ok ()

/-- The characters of a number less its underscores. -/
def Piece.ungrouped (p : Piece) : List Char :=
  p.chars.filter (· ≠ '_')

/-- Looks whether a decimal number has no leading zero. -/
def noLeadingZero (p : Piece) : Except Flaw Unit :=
  if p.chars.head? = some '0' then p.flaw .leadingZero 1 else .ok ()

/-- The number that a sign and digits stand for. -/
def signedNumber (negative : Bool) (n : Nat) : Int :=
  if negative then -(n : Int) else n

/-! ## Whole numbers -/

/-- A way to write whole numbers. -/
structure Radix where
  base : Nat
  name : String
  letter : Char
  digit : Char → Bool

/-- The ways to write whole numbers behind a zero and a letter. -/
def radices : List Radix :=
  [⟨16, "hexadecimal", 'x', isHexDigit⟩,
    ⟨8, "octal", 'o', fun c => '0' ≤ c && c ≤ '7'⟩,
    ⟨2, "binary", 'b', fun c => c = '0' || c = '1'⟩]

/-- Reads a number behind its zero and its letter. -/
def inRadix (r : Radix) (p : Piece) : Except Flaw Scalar :=
  if p.chars.head? = some '+' || p.chars.head? = some '-' then p.flaw .signInBase 1
  else
    match p.chars.findIdx? fun c => !(r.digit c) && c ≠ '_' with
    | some i => (p.drop i).flaw (.badDigit r.name) 0
    | none => do
      checkGroups isHexDigit p
      let ds := p.ungrouped
      .ok (.whole (if ds.isEmpty then none else some (ofDigits r.base ds)))

/-- Reads a decimal number. -/
def wholeNumber (negative : Bool) (p : Piece) : Except Flaw Scalar := do
  if 1 < p.chars.length then noLeadingZero p
  checkGroups isHexDigit p.all
  let ds := p.ungrouped
  .ok (.whole (if ds.all isDigit then some (signedNumber negative (ofDigits 10 ds)) else none))

/-! ## Broken numbers -/

/-- Passes over digits and underscores, with at least one digit. -/
def digitPart (part : String) (zeros : Bool) (p : Piece) : Except Flaw Piece :=
  let run := p.chars.takeWhile fun c => isDigit c || c = '_'
  let count := (run.filter isDigit).length
  if count = 0 then p.flaw (.digitsMissing part) 0
  else do
    if 1 < count && !zeros then noLeadingZero p
    .ok (p.drop run.length)

/-- Passes over a fraction, if there is one. -/
def fractionPart (p : Piece) : Except Flaw Piece :=
  if p.chars.head? = some '.' then digitPart "fraction" true (p.drop 1) else .ok p

/-- Passes over an exponent, if there is one. -/
def exponentPart (p : Piece) : Except Flaw Piece :=
  match p.chars with
  | c :: s :: _ =>
    if c = 'e' || c = 'E' then
      digitPart "exponent" true (p.drop (if s = '+' || s = '-' then 2 else 1))
    else .ok p
  | c :: _ => if c = 'e' || c = 'E' then digitPart "exponent" true (p.drop 1) else .ok p
  | [] => .ok p

/-- The double that a decimal number is rounded to. -/
def rounded (negative : Bool) (cs : List Char) : Scalar :=
  let (whole, cs) := digitsOf cs
  let (fraction, cs) := if cs.head? = some '.' then digitsOf cs.tail else ([], cs)
  let power : Int :=
    match cs with
    | _ :: '-' :: ds => -(ofDigits 10 ds : Int)
    | _ :: '+' :: ds => ofDigits 10 ds
    | _ :: ds => ofDigits 10 ds
    | [] => 0
  let digits := (whole ++ fraction).dropWhile (· = '0')
  let power := power - fraction.length
  let sign (x : Float) : Float := if negative then -x else x
  if digits.isEmpty || digits.length + power < -400 then .decimal (sign 0.0)
  else if 400 < digits.length + power then .hugeDecimal
  else
    let x := Float.ofScientific (ofDigits 10 digits * Nat.pow 10 power.toNat) true (-power).toNat
    if x.isInf then .hugeDecimal else .decimal (sign x)

/-- Reads a number with a fraction, an exponent or both. -/
def floatNumber (negative : Bool) (p : Piece) : Except Flaw Scalar := do
  let rest ← exponentPart (← fractionPart (← digitPart "mantissa" false p))
  if !rest.chars.isEmpty then rest.flaw .badFloat rest.chars.length
  checkGroups isDigit p.all
  .ok (rounded negative p.ungrouped)

/-! ## Scalars -/

/-- Reads a number, a date or a time. -/
def numeric (negative : Bool) (p : Piece) : Except Flaw Scalar :=
  match p.chars.dropWhile isDigit with
  | [] => wholeNumber negative p
  | c :: cs =>
    if c = '-' || c = ':' then
      match Moment.check p.token.chars with
      | .ok _ => .ok .moment
      | .error cause => p.wrong cause
    else if (c :: cs).contains ' ' then p.unquoted
    else if (c :: cs).any fun c => c = '.' || c = 'e' || c = 'E' then floatNumber negative p
    else if c = '_' then wholeNumber negative p
    else p.unquoted

/-- Reads a number that begins with a zero. -/
def afterZero (isSigned negative : Bool) (p : Piece) : Except Flaw Scalar :=
  match p.chars with
  | _ :: c :: _ =>
    match radices.find? fun r => r.letter = c.toLower with
    | some r =>
      if p.isBroken then p.unquoted
      else if isSigned then .error (flawIn .signedBase ⟨p.token.start, p.token.start + 1⟩)
      else if c ≠ r.letter then p.flaw (.capitalBase (String.ofList ['0', r.letter])) 2
      else inRadix r (p.drop 2)
    | none =>
      if c = 'd' || c = 'D' then
        if p.isBroken then p.unquoted
        else if isSigned then .error (flawIn .signedBase ⟨p.token.start, p.token.start + 1⟩)
        else p.flaw .decimalBase 2
      else numeric negative p
  | _ => wholeNumber negative p

/-- Reads a word that has one spelling. -/
def spelled (kind word : String) (meaning : Scalar) (p : Piece) : Except Flaw Scalar :=
  if p.chars = word.toList then .ok meaning
  else if p.isBroken then p.unquoted
  else p.flaw (.badWord kind word) p.chars.length

/-- The infinite number. -/
def infinite : Float := 1.0 / 0.0

/-- What is no number. -/
def noNumber : Float := 0.0 / 0.0

/-- Reads what follows a sign. A point may not. -/
def afterSign (negative : Bool) (p : Piece) : Except Flaw Scalar :=
  match p.chars with
  | [] => p.unquoted
  | c :: _ =>
    if p.isBroken then p.unquoted
    else if c = '+' || c = '-' then p.flaw .extraSign 1
    else if c = '0' then afterZero true negative p
    else if isDigit c || c = '_' then numeric negative p
    else if c = '.' then floatNumber negative p.all
    else if c = 'i' || c = 'I' then
      spelled "float" "inf" (.decimal (if negative then -infinite else infinite)) p
    else if c = 'n' || c = 'N' then spelled "float" "nan" (.decimal noNumber) p
    else p.unquoted

/-- What a scalar stands for. -/
def Token.scalar (t : Token) : Except Flaw Scalar :=
  let p := Piece.ofToken t
  match t.chars with
  | [] => p.unquoted
  | c :: _ =>
    if c = '+' || c = '-' then afterSign (c = '-') (p.drop 1)
    else if c = '0' then afterZero false false p
    else if isDigit c || c = '_' then numeric false p
    else if c = '.' then if p.isBroken then p.unquoted else floatNumber false p
    else if c = 't' || c = 'T' then spelled "boolean" "true" (.truth true) p
    else if c = 'f' || c = 'F' then spelled "boolean" "false" (.truth false) p
    else if c = 'i' || c = 'I' then spelled "float" "inf" (.decimal infinite) p
    else if c = 'n' || c = 'N' then spelled "float" "nan" (.decimal noNumber) p
    else p.unquoted

end SensorBroker.Toml
