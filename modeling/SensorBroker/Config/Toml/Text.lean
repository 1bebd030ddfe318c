/-
# Texts and names of TOML

What stands between the quotes of a text is itself, but for escapes between
double quotes; a backslash before the end of a line joins the line with the
next. No control character may stand in a text but a tab. A name is a text on
one line, or is made of ASCII letters, digits, underscores and dashes.

Key definitions: `escape`, `unescape`, `Token.content`, `Token.name`,
`Name`, `names`.
-/
import SensorBroker.Config.Toml.Statement
import SensorBroker.Text.Digits

namespace SensorBroker.Toml

open SensorBroker.Text

/-! ## Texts -/

/-- Takes the character with a number of so many digits, the first of which
stands at a place. -/
def numbered (width : Nat) (place : Nat) (cs : List Char) : Except Flaw (Char × List Char) :=
  let ds := (cs.take width).takeWhile isHexDigit
  if ds.length < width then .error (flawAt .shortEscape (place + ds.length))
  else
    match charOf? (ofDigits 16 ds) with
    | some c => .ok (c, cs.drop width)
    | none => .error (flawAt .noCharacter place)

/-- Takes an escape, of which the backslash is taken and which stands at a
place. -/
def escape (place : Nat) (cs : List Char) : Except Flaw (Char × List Char) :=
  match cs with
  | 'b' :: cs => .ok ('\x08', cs)
  | 'e' :: cs => .ok ('\x1b', cs)
  | 'f' :: cs => .ok ('\x0c', cs)
  | 'n' :: cs => .ok ('\n', cs)
  | 'r' :: cs => .ok ('\r', cs)
  | 't' :: cs => .ok ('\t', cs)
  | '"' :: cs => .ok ('"', cs)
  | '\\' :: cs => .ok ('\\', cs)
  | 'x' :: cs => numbered 2 (place + 1) cs
  | 'u' :: cs => numbered 4 (place + 1) cs
  | 'U' :: cs => numbered 8 (place + 1) cs
  | _ => .error (flawAt .unknownEscape place)

/-- Whether a backslash before these characters joins lines. -/
def joinsLine : List Char → Bool
  | [] => false
  | c :: _ => isBlank c || c = '\n' || c = '\r'

/-- Passes over blanks and ends of lines. -/
def joinLine : Nat → List Char → Except Flaw (List Char)
  | place, '\r' :: '\n' :: cs => joinLine (place + 2) cs
  | place, '\r' :: _ => .error (flawAt .loneReturn (place + 1))
  | place, c :: cs => if isBlank c || c = '\n' then joinLine (place + 1) cs else .ok (c :: cs)
  | _, [] => .ok []

/-- What characters between quotes stand for, of which the first stands at a
place. -/
def unescape (q : Quotes) : Nat → Nat → List Char → Except Flaw (List Char)
  | 0, _, _ => .ok []
  | _, _, [] => .ok []
  | fuel + 1, place, c :: cs =>
    let after (rest : List Char) : Nat := place + 1 + (cs.length - rest.length)
    if c = '\\' && q.escapes then
      if q.isLong && joinsLine cs then do
        let blanks := (cs.takeWhile isBlank).length
        if (cs.drop blanks).head? ≠ some '\n' && (cs.drop blanks).head? ≠ some '\r' then
          .error (flawAt .joinWithinLine (place + 1 + blanks))
        let rest ← joinLine (place + 1) cs
        unescape q fuel (after rest) rest
      else do
        let (c, rest) ← escape (place + 1) cs
        return c :: (← unescape q fuel (after rest) rest)
    else if q.isLong && c = '\n' then return c :: (← unescape q fuel (place + 1) cs)
    else if q.isLong && c = '\r' then
      if cs.head? = some '\n' then return c :: (← unescape q fuel (place + 1) cs)
      else .error (flawAt .loneReturn (place + 1))
    else if isControl c then
      let run := cs.takeWhile fun c => isControl c && !(q.isLong && (c = '\n' || c = '\r'))
      let run := if q.escapes then run.length else 0
      .error (flawIn (.controlInText q) ⟨place, place + 1 + run⟩)
    else return c :: (← unescape q fuel (place + 1) cs)

/-- What a text in quotes stands for. -/
def Token.content (q : Quotes) (t : Token) : Except Flaw String :=
  let width := if q.isLong then 3 else 1
  let body := t.chars.drop width
  let body :=
    match q.isLong, body with
    | true, '\n' :: cs => cs
    | true, '\r' :: '\n' :: cs => cs
    | _, cs => cs
  if body.drop (body.length - width) ≠ List.replicate width q.mark then
    .error (flawAt (.textNotClosed q) t.stop)
  else
    let inner := body.take (body.length - width)
    (unescape q (inner.length + 1) (t.stop - body.length) inner).map String.ofList

/-! ## Names -/

/-- A name, and where it stands. -/
structure Name where
  text : String
  span : Span
deriving DecidableEq, Inhabited

/-- Whether a character may stand in a name without quotes. -/
def isNameChar (c : Char) : Bool :=
  isDigit c || ('a' ≤ c && c ≤ 'z') || ('A' ≤ c && c ≤ 'Z') || c = '_' || c = '-'

/-- The name that a token is. -/
def Token.name (t : Token) : Except Flaw Name :=
  match t.mark with
  | .text q =>
    if q.isLong then .error (flawIn (.longName q) t.span)
    else (t.content q).map fun s => ⟨s, t.span⟩
  | _ =>
    if t.chars.isEmpty then .error (flawAt .emptyName t.start)
    else
      let good := t.chars.takeWhile isNameChar
      let bad := (t.chars.drop good.length).takeWhile fun c => !isNameChar c
      if bad.isEmpty then .ok ⟨String.ofList t.chars, t.span⟩
      else
        let place := t.start + good.length
        .error (flawIn .badName ⟨place, place + bad.length⟩)

/-- The most names that dots may join. -/
def maxNames : Nat := 80

/-- The names of a path. -/
def names (p : Path) : Except Flaw (List Name) := do
  let ns ← p.mapM Token.name
  if maxNames < ns.length then .error ⟨.longPath, none⟩ else .ok ns

end SensorBroker.Toml
