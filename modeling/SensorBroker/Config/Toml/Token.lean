/-
# The tokens of TOML

A text falls into tokens whatever it says: marks, blanks, ends of lines,
comments, texts in quotes, and words, which are all the rest. A text in quotes
that is not closed ends with its line or, if it may have several lines, with
everything. No character is lost (`scan` cuts the text into pieces), and behind
the last token stands one that marks the end.

Key definitions: `Mark`, `Token`, `shape`, `scan`, `Token.ofText`.
-/
import SensorBroker.Config.Toml.Flaw

namespace SensorBroker.Toml

open SensorBroker.Text

/-- The kinds of tokens. -/
inductive Mark
  | dot
  | equals
  | comma
  | openList
  | closeList
  | openTable
  | closeTable
  | blank
  | lineEnd
  | comment
  | word
  | text (quotes : Quotes)
  /-- Nothing follows. -/
  | finish
deriving DecidableEq, Inhabited

/-- A piece of a text, and how many characters stand before it. -/
structure Token where
  mark : Mark
  start : Nat
  chars : List Char
deriving DecidableEq, Inhabited

namespace Token

/-- The place behind a token. -/
def stop (t : Token) : Nat :=
  t.start + t.chars.length

/-- Where a token stands. -/
def span (t : Token) : Span :=
  ⟨t.start, t.stop⟩

/-- A word of no characters in front of a token. -/
def absent (t : Token) : Token :=
  ⟨.word, t.start, []⟩

end Token

/-- Whether a character is a blank. -/
def isBlank (c : Char) : Bool :=
  c = ' ' || c = '\t'

/-- Whether a character ends a word. -/
def endsWord (c : Char) : Bool :=
  ['.', '=', ',', '[', ']', '\x7b', '\x7d', ' ', '\t', '#', '\r', '\n'].contains c

/-- The length of a text behind its opening quote, on one line. -/
def shortWidth (q : Quotes) : List Char → Nat
  | [] => 0
  | '\n' :: _ => 0
  | ['\\'] => 1
  | '\\' :: c :: cs =>
    if q.escapes && (c = '\\' || c = q.mark) then 2 + shortWidth q cs
    else 1 + shortWidth q (c :: cs)
  | c :: cs => if c = q.mark then 1 else 1 + shortWidth q cs

/-- The length of a text behind its opening quotes, on several lines. Up to two
quotes before the closing ones belong to it. -/
def longWidth (q : Quotes) : List Char → Nat
  | [] => 0
  | ['\\'] => 1
  | '\\' :: c :: cs =>
    if q.escapes && (c = '\\' || c = q.mark) then 2 + longWidth q cs
    else 1 + longWidth q (c :: cs)
  | c :: cs =>
    if (c :: cs).take 3 = [q.mark, q.mark, q.mark] then
      3 + (((c :: cs).drop 3).take 2 |>.takeWhile (· = q.mark)).length
    else 1 + longWidth q cs

/-- The kind of the token that begins with a character, and how many of the
characters behind it belong to it. -/
def shape (c : Char) (cs : List Char) : Mark × Nat :=
  let quoted (short long : Quotes) : Mark × Nat :=
    if cs.take 2 = [c, c] then (.text long, 2 + longWidth long (cs.drop 2))
    else (.text short, shortWidth short cs)
  if c = '.' then (.dot, 0)
  else if c = '=' then (.equals, 0)
  else if c = ',' then (.comma, 0)
  else if c = '[' then (.openList, 0)
  else if c = ']' then (.closeList, 0)
  else if c = '\x7b' then (.openTable, 0)
  else if c = '\x7d' then (.closeTable, 0)
  else if isBlank c then (.blank, (cs.takeWhile isBlank).length)
  else if c = '#' then (.comment, (cs.takeWhile fun c => c ≠ '\n' && c ≠ '\r').length)
  else if c = '\n' then (.lineEnd, 0)
  else if c = '\r' then (.lineEnd, if cs.head? = some '\n' then 1 else 0)
  else if c = '\'' then quoted .literal .longLiteral
  else if c = '"' then quoted .basic .longBasic
  else (.word, (cs.takeWhile fun c => !endsWord c).length)

/-- The tokens of characters, of which the first stands at a place. -/
def scan (start : Nat) : List Char → List Token
  | [] => [⟨.finish, start, []⟩]
  | c :: cs =>
    let (mark, width) := shape c cs
    ⟨mark, start, c :: cs.take width⟩
      :: scan (start + 1 + (cs.take width).length) (cs.drop width)
termination_by cs => cs.length
decreasing_by
  simp only [List.length_drop, List.length_cons]
  omega

/-- The tokens of a text, in front of which a byte order mark may stand. -/
def Token.ofText : List Char → List Token
  | '\uFEFF' :: cs => scan 1 cs
  | cs => scan 0 cs

end SensorBroker.Toml
