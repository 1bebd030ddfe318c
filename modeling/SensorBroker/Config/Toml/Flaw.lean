/-
# Flaws in TOML

A flaw has a cause and, mostly, a stretch of the text where it lies. It is shown
with the line it is in and marks below the stretch; the marks go by bytes and
never past the end of the line.

Key definitions: `Quotes`, `Awaited`, `Cause`, `Cause.message`, `Flaw`,
`Flaw.message`.
-/
import SensorBroker.Config.Mismatch
import SensorBroker.Text.Position

namespace SensorBroker.Toml

open SensorBroker.Text

/-- How a text is quoted. -/
inductive Quotes
  /-- Between single quotes; nothing is escaped. -/
  | literal
  /-- Between double quotes, with escapes. -/
  | basic
  /-- Between three single quotes, on several lines. -/
  | longLiteral
  /-- Between three double quotes, on several lines, with escapes. -/
  | longBasic
deriving DecidableEq, Inhabited

namespace Quotes

/-- Whether a text may run over several lines. -/
def isLong : Quotes → Bool
  | .longLiteral => true
  | .longBasic => true
  | _ => false

/-- Whether a backslash escapes. -/
def escapes : Quotes → Bool
  | .basic => true
  | .longBasic => true
  | _ => false

/-- The character that quotes are made of. -/
def mark (q : Quotes) : Char :=
  if q.escapes then '"' else '\''

/-- What such a text is called. -/
def label : Quotes → String
  | .literal => "literal string"
  | .basic => "basic string"
  | .longLiteral => "multi-line literal string"
  | .longBasic => "multi-line basic string"

/-- What the characters of such a text are called. -/
def characters : Quotes → List String
  | .literal => ["non-single-quote visible characters"]
  | .basic => ["non-double-quote visible characters", "`\\`"]
  | .longLiteral => ["non-single-quote characters"]
  | .longBasic => ["`\\`", "characters"]

end Quotes

/-- What comes next between the braces of a table. -/
inductive Awaited
  | name
  | equals
  | value
  | comma
deriving DecidableEq, Inhabited

/-- What is awaited, in words. -/
def Awaited.label : Awaited → String
  | .name => "key"
  | .equals => "`=`"
  | .value => "value"
  | .comma => "`,`"

/-- What is wrong with a text. -/
inductive Cause
  -- statements
  | headerNotOpened
  | headerNotClosed
  | elementNotClosed (missing : String)
  | nameExpected
  | equalsExpected
  /-- Dots stand where a name and its value should. -/
  | valueForDots
  | lineEndExpected
  | controlInComment
  | loneReturn
  -- values
  | extraEquals
  | listNotOpened
  | listNotClosed
  | extraCommaInList
  | equalsInList
  | commaMissingInList
  | tableNotOpened
  | tableNotClosed
  | extraComma (awaited : Awaited)
  | extraAssignment (awaited : Awaited)
  | nameMissing (awaited : Awaited)
  | equalsMissing
  | commaMissing
  | badElement (awaited : Awaited)
  | tooDeep
  -- names
  | emptyName
  | badName
  | longName (quotes : Quotes)
  | longPath
  | repeated
  /-- A value that is no open table has no further names within. -/
  | notExtensible (kind : String)
  -- texts
  | textNotClosed (quotes : Quotes)
  | controlInText (quotes : Quotes)
  /-- A backslash before blanks that do not end the line. -/
  | joinWithinLine
  | unknownEscape
  | shortEscape
  | noCharacter
  -- scalars
  | notQuoted
  | quoteNotOpened (quotes : String)
  | badWord (kind word : String)
  | extraSign
  | signedBase
  | capitalBase (meant : String)
  | decimalBase
  | signInBase
  | badDigit (kind : String)
  | leadingZero
  | strayUnderscore
  | digitsMissing (part : String)
  | badFloat
  /-- What of a date or a time is wrong, and what was expected. -/
  | badMoment (part : Option String) (expected : Option String)
  -- meaning
  | mismatch (m : Mismatch)
  | wholeTooLarge
  | floatTooLarge
  | nameOrTableExpected
  | nameInTableExpected
  | oneNameExpected
  | emptyListExpected
  | emptyTableExpected
  | tableExpected (kind : String)
deriving DecidableEq, Inhabited

/-- The wording of a cause: what is wrong, and what was expected instead. -/
def Cause.message : Cause → String
  | .headerNotOpened => wanted "missing table open" ["`[`"]
  | .headerNotClosed => wanted "unclosed table" ["`]`"]
  | .elementNotClosed missing => wanted "unclosed array table" ["`" ++ missing ++ "`"]
  | .nameExpected => wanted "invalid key-value pair" ["key"]
  | .equalsExpected => wanted "key with no value" ["`=`"]
  | .valueForDots => wanted "missing value for key" ["`=`"]
  | .lineEndExpected => wanted "unexpected key or value" ["newline", "`#`"]
  | .controlInComment => wanted "invalid comment character" ["printable characters"]
  | .loneReturn => wanted "carriage return must be followed by newline" ["newline"]
  | .extraEquals => wanted "extra `=`" ["nothing"]
  | .listNotOpened => wanted "missing array opening" ["`[`"]
  | .listNotClosed => wanted "unclosed array" ["`]`"]
  | .extraCommaInList => wanted "extra comma in array" ["value"]
  | .equalsInList => wanted "unexpected `=` in array" ["value", "`]`"]
  | .commaMissingInList => wanted "missing comma between array elements" ["`,`"]
  | .tableNotOpened => wanted "missing inline table opening" ["`\x7b`"]
  | .tableNotClosed => wanted "unclosed inline table" ["`\x7d`"]
  | .extraComma awaited => wanted "extra comma in inline table" [awaited.label]
  | .extraAssignment awaited =>
    wanted "extra assignment between key-value pairs" [awaited.label]
  | .nameMissing awaited => wanted "missing key for inline table element" [awaited.label]
  | .equalsMissing => wanted "missing assignment between key-value pairs" ["`=`"]
  | .commaMissing => wanted "missing comma between key-value pairs" ["`,`"]
  | .badElement awaited => wanted "invalid inline table element" [awaited.label]
  | .tooDeep => "cannot recurse further; max recursion depth met"
  | .emptyName => wanted "unquoted keys cannot be empty" nameParts
  | .badName => wanted "invalid unquoted key" nameParts
  | .longName quotes =>
    wanted ("keys cannot be " ++ quotes.label ++ "s") ["basic string", "literal string"]
  | .longPath => "recursion limit"
  | .repeated => "duplicate key"
  | .notExtensible kind => "cannot extend value of type " ++ kind ++ " with a dotted key"
  | .textNotClosed quotes =>
    wanted ("invalid " ++ quotes.label) ["`" ++ quotes.mark.toString ++ "`"]
  | .controlInText quotes => wanted ("invalid " ++ quotes.label) quotes.characters
  | .joinWithinLine => wanted "invalid multi-line basic string" ["newline"]
  | .unknownEscape =>
    wanted "missing escaped value"
      ["`b`", "`e`", "`f`", "`n`", "`r`", "`\\`", "`\"`", "`x`", "`u`", "`U`"]
  | .shortEscape => wanted "too few unicode value digits" ["unicode hexadecimal value"]
  | .noCharacter => wanted "invalid value" ["unicode hexadecimal value"]
  | .notQuoted => wanted "string values must be quoted" ["literal string"]
  | .quoteNotOpened quotes => wanted "missing opening quote" ["`" ++ quotes ++ "`"]
  | .badWord kind word => wanted ("invalid " ++ kind) ["`" ++ word ++ "`"]
  | .extraSign => wanted "redundant numeric sign" ["nothing"]
  | .signedBase => wanted "integers with a radix cannot be signed" ["nothing"]
  | .capitalBase meant => wanted "radix must be lowercase" ["`" ++ meant ++ "`"]
  | .decimalBase => wanted "redundant integer number prefix" ["nothing"]
  | .signInBase => wanted "unexpected sign" ["nothing"]
  | .badDigit kind => "invalid " ++ kind ++ " number"
  | .leadingZero => wanted "unexpected leading zero" ["nothing"]
  | .strayUnderscore => wanted "`_` may only go between digits" ["nothing"]
  | .digitsMissing part => wanted ("invalid " ++ part) ["digits"]
  | .badFloat => wanted "invalid float" ["nothing"]
  | .badMoment part expected =>
    let what := "invalid " ++ part.getD "datetime"
    match expected with
    | some e => wanted what [e]
    | none => what
  | .mismatch m => m.message
  | .wholeTooLarge => "integer number overflowed"
  | .floatTooLarge => "floating-point number overflowed"
  | .nameOrTableExpected => "wanted string or table"
  | .nameInTableExpected => "wanted exactly 1 element, found 0 elements"
  | .oneNameExpected => "wanted exactly 1 element, more than 1 element"
  | .emptyListExpected => "expected empty array"
  | .emptyTableExpected => "expected empty table"
  | .tableExpected kind => "expected table, found " ++ kind
where
  wanted (what : String) (instead : List String) : String :=
    what ++ ", expected " ++ ", ".intercalate instead
  nameParts : List String := ["letters", "numbers", "`-`", "`_`"]

/-- A cause, and where it lies if it lies somewhere. -/
structure Flaw where
  cause : Cause
  span : Option Span
deriving DecidableEq, Inhabited

/-- A flaw in a stretch. -/
def flawIn (cause : Cause) (span : Span) : Flaw :=
  ⟨cause, some span⟩

/-- A flaw at a place. -/
def flawAt (cause : Cause) (place : Nat) : Flaw :=
  flawIn cause (.point place)

/-- The line that a stretch begins in, with marks below it. -/
def excerpt (text : List Char) (span : Span) : String :=
  let sight := Sight.ofPlace text span.start
  let number := toString sight.line
  let gutter := String.ofList (List.replicate (number.length + 1) ' ')
  let width := byteCount ((text.take span.stop).drop span.start)
  let marks := max 1 (min width (byteCount sight.content - sight.column))
  "TOML parse error at line " ++ number ++ ", column " ++ toString (sight.column + 1) ++ "\n"
    ++ gutter ++ "|\n"
    ++ number ++ " | " ++ String.ofList sight.content ++ "\n"
    ++ gutter ++ "|" ++ String.ofList (List.replicate (sight.column + 1) ' ')
    ++ String.ofList (List.replicate marks '^') ++ "\n"

/-- The wording of a flaw in a text. -/
def Flaw.message (f : Flaw) (text : List Char) : String :=
  (match f.span with
    | some span => excerpt text span
    | none => "") ++ f.cause.message ++ "\n"

end SensorBroker.Toml
