/-
# The statements of TOML

A document is a sequence of statements, one on a line: a header, a header of an
element of a list of tables, or a name with its value. Here only their order of
tokens is looked at: names and values stay as they are written, and what is
missing between two tokens counts as written with no characters.

Between brackets and braces a value may run over lines, with comments, and may
end with a comma; they nest no deeper than eighty.

Key definitions: `Path`, `Written`, `Statement`, `path`, `value`, `statements`.
-/
import SensorBroker.Config.Toml.Token

namespace SensorBroker.Toml

open SensorBroker.Text

/-- Names with dots between them. -/
abbrev Path := List Token

/-- A value as it is written. -/
inductive Written
  | text (quotes : Quotes) (token : Token)
  | scalar (token : Token)
  | list (span : Span) (items : List Written)
  | table (span : Span) (entries : List (Path × Written))
deriving Inhabited

/-- A statement of a document. -/
inductive Statement
  | header (span : Span) (path : Path)
  | element (span : Span) (path : Path)
  | assign (path : Path) (value : Written)
deriving Inhabited

/-- Takes something from the front of tokens; answers it and the rest. -/
abbrev Reader (α : Type) := List Token → Except Flaw (α × List Token)

/-! ## Between the statements -/

/-- Whether a character may stand in no comment. -/
def isControl (c : Char) : Bool :=
  (c < ' ' && c ≠ '\t') || c = '\x7f'

/-- Looks whether what is passed over is allowed: no control character may
stand in a comment, and a carriage return only before a line feed. -/
def Token.check (t : Token) : Except Flaw Unit :=
  match t.mark with
  | .comment =>
    match t.chars.findIdx? isControl with
    | some i => .error (flawAt .controlInComment (t.start + i))
    | none => .ok ()
  | .lineEnd =>
    if t.chars = ['\r'] then .error (flawAt .loneReturn t.stop) else .ok ()
  | _ => .ok ()

/-- Passes over a blank. -/
def skipBlank : List Token → List Token
  | t :: ts => if t.mark = .blank then ts else t :: ts
  | [] => []

/-- Passes over the end of a line, with blanks and a comment before it. -/
def endLine : List Token → Except Flaw (List Token)
  | [] => .ok []
  | t :: ts =>
    match t.mark with
    | .blank => endLine ts
    | .comment => do
      t.check
      endLine ts
    | .lineEnd => do
      t.check
      .ok ts
    | .finish => .ok (t :: ts)
    | _ => .error (flawAt .lineEndExpected t.start)

/-- Passes over the rest of a line. -/
def skipLine : List Token → Except Flaw (List Token)
  | [] => .ok []
  | t :: ts =>
    match t.mark with
    | .lineEnd => do
      t.check
      .ok ts
    | .finish => .ok (t :: ts)
    | _ => do
      t.check
      skipLine ts

/-! ## Names -/

/-- Takes what follows a name, or a dot if `dotted`: further names. Answers also
whether every dot has a name behind it. -/
def pathRest : Bool → List Token → Path × Bool × List Token
  | _, [] => ([], true, [])
  | dotted, t :: ts =>
    let named : Path × Bool × List Token :=
      if dotted then
        let (p, complete, ts) := pathRest false ts
        (t :: p, complete, ts)
      else ([], true, t :: ts)
    match t.mark with
    | .blank => pathRest dotted ts
    | .dot =>
      let (p, complete, ts) := pathRest true ts
      (if dotted then t.absent :: p else p, complete, ts)
    | .word => named
    | .text _ => named
    | _ => if dotted then ([t.absent], false, t :: ts) else ([], true, t :: ts)

/-- Takes names. -/
def path (ts : List Token) : Path × Bool × List Token :=
  pathRest true ts

/-! ## Values -/

/-- Takes a word with the words, dots and blanks that belong to it: of blanks
those with a word behind them. -/
def scalarRest : List Token → List Char × List Token
  | t :: u :: ts =>
    if t.mark = .dot || t.mark = .word then
      let (cs, ts) := scalarRest (u :: ts)
      (t.chars ++ cs, ts)
    else if t.mark = .blank && u.mark = .word then
      let (cs, ts) := scalarRest (u :: ts)
      (t.chars ++ cs, ts)
    else ([], t :: u :: ts)
  | ts => ([], ts)

/-- Takes the items of a list, and its end. `free` says whether a value may come
next; a list that is not closed should have been at `last`. -/
def items (value : Reader Written) (last : Nat) : Nat → Bool → Reader (List Written × Nat)
  | 0, _, _ => .error (flawAt .listNotClosed last)
  | _, _, [] => .error (flawAt .listNotClosed last)
  | fuel + 1, free, t :: ts =>
    match t.mark with
    | .blank => items value last fuel free ts
    | .lineEnd => do
      t.check
      items value last fuel free ts
    | .comment => do
      t.check
      items value last fuel free ts
    | .finish => .error (flawAt .listNotClosed last)
    | .comma =>
      if free then .error (flawIn .extraCommaInList t.span) else items value last fuel true ts
    | .equals => .error (flawIn .equalsInList t.span)
    | .closeList => .ok (([], t.stop), ts)
    | _ =>
      if free then do
        let (v, ts) ← value (t :: ts)
        let ((vs, stop), ts) ← items value last fuel false ts
        .ok ((v :: vs, stop), ts)
      else .error (flawAt .commaMissingInList t.start)

/-- Takes the entries of a table between braces, and its end. `names` are those
of the entry at hand; where the table ends before its value, the value is a text
in quotes of no characters. A table that is not closed should have been at
`last`. -/
def entries (value : Reader Written) (last : Nat) :
    Nat → Awaited → Path → Reader (List (Path × Written) × Nat)
  | 0, _, _, _ => .error (flawAt .tableNotClosed last)
  | _, _, _, [] => .error (flawAt .tableNotClosed last)
  | fuel + 1, awaited, names, t :: ts =>
    let entry : Except Flaw ((List (Path × Written) × Nat) × List Token) := do
      let (v, ts) ← value (t :: ts)
      let ((es, stop), ts) ← entries value last fuel .comma [] ts
      .ok (((names, v) :: es, stop), ts)
    match t.mark with
    | .blank => entries value last fuel awaited names ts
    | .lineEnd => do
      t.check
      entries value last fuel awaited names ts
    | .comment => do
      t.check
      entries value last fuel awaited names ts
    | .finish => .error (flawAt .tableNotClosed last)
    | .comma =>
      if awaited = .comma then entries value last fuel .name [] ts
      else .error (flawAt (.extraComma awaited) t.start)
    | .equals =>
      match awaited with
      | .name => entries value last fuel .value [t.absent] ts
      | .equals => entries value last fuel .value names ts
      | _ => .error (flawAt (.extraAssignment awaited) t.start)
    | .closeTable =>
      if awaited = .equals || awaited = .value then
        .ok (([(names, .text .literal t.absent)], t.stop), ts)
      else .ok (([], t.stop), ts)
    | .closeList =>
      if awaited = .value then entry else .error (flawAt (.badElement awaited) t.start)
    | mark =>
      match awaited with
      | .value => entry
      | .equals => .error (flawAt .equalsMissing t.start)
      | _ =>
        if mark = .openList || mark = .openTable then
          .error (flawAt (.nameMissing awaited) t.start)
        else if awaited = .comma then .error (flawAt .commaMissing t.start)
        else
          let (p, _, ts) := path (t :: ts)
          entries value last fuel .equals p ts

/-- Takes a value whose brackets nest at most `depth` deep, and should be closed
at `last` at the latest. -/
def value (last : Nat) (depth : Nat) : Reader Written := fun ts =>
  match ts with
  | [] => .error ⟨.notQuoted, none⟩
  | t :: ts =>
    match t.mark with
    | .text q => .ok (.text q t, ts)
    | .openList =>
      match depth with
      | 0 => .error (flawIn .tooDeep t.span)
      | depth + 1 => do
        let ((vs, stop), ts) ← items (value last depth) last (ts.length + 1) true ts
        .ok (.list ⟨t.start, stop⟩ vs, ts)
    | .openTable =>
      match depth with
      | 0 => .error (flawIn .tooDeep t.span)
      | depth + 1 => do
        let ((es, stop), ts) ← entries (value last depth) last (ts.length + 1) .name [] ts
        .ok (.table ⟨t.start, stop⟩ es, ts)
    | .closeList => .error (flawAt .listNotOpened t.start)
    | .closeTable => .error (flawAt .tableNotOpened t.start)
    | .equals => .error (flawIn .extraEquals t.span)
    | .word =>
      let (cs, ts) := scalarRest (t :: ts)
      .ok (.scalar ⟨.word, t.start, cs⟩, ts)
    | .dot =>
      let (cs, ts) := scalarRest (t :: ts)
      .ok (.scalar ⟨.word, t.start, cs⟩, ts)
    | _ => .ok (.scalar t.absent, t :: ts)

/-- The deepest that brackets may nest. -/
def maxDepth : Nat := 80

/-! ## Statements -/

/-- Takes a header, of which the opening brackets are taken. -/
def header (opened : Token) (isElement : Bool) : Reader Statement := fun ts => do
  let (p, complete, ts) := path (skipBlank ts)
  let stop := (p.getLast?.map Token.stop).getD opened.stop
  let read (close : Nat) : Statement :=
    if isElement then .element ⟨opened.start, close⟩ p else .header ⟨opened.start, close⟩ p
  match skipBlank ts with
  | t :: u :: ts =>
    if t.mark = .closeList then
      if !isElement then return (read t.stop, ← endLine (u :: ts))
      else if u.mark = .closeList then return (read u.stop, ← endLine ts)
      else .error (flawAt (.elementNotClosed "]") t.stop)
    else if !complete then return (read stop, ← skipLine (t :: u :: ts))
    else if isElement then .error (flawAt (.elementNotClosed "]]") stop)
    else .error (flawAt .headerNotClosed stop)
  | ts =>
    if !complete then return (read stop, ts)
    else if isElement then .error (flawAt (.elementNotClosed "]]") stop)
    else .error (flawAt .headerNotClosed stop)

/-- Takes an assignment. -/
def assignment (last : Nat) : Reader Statement := fun ts => do
  let missing : Cause :=
    if (ts.head?.map Token.mark) = some .dot then .valueForDots else .equalsExpected
  let (p, _, ts) := path ts
  match ts with
  | [] => .error ⟨missing, none⟩
  | t :: ts =>
    if t.mark = .equals then do
      let (v, ts) ← value last maxDepth (skipBlank ts)
      return (.assign p v, ← endLine ts)
    else .error (flawAt missing t.start)

/-- The statements of at most `fuel` lines. -/
def statementsFuel (last : Nat) : Nat → List Token → Except Flaw (List Statement)
  | 0, _ => .ok []
  | _, [] => .ok []
  | fuel + 1, t :: ts =>
    let followed (r : Except Flaw (Statement × List Token)) : Except Flaw (List Statement) := do
      let (s, ts) ← r
      return s :: (← statementsFuel last fuel ts)
    match t.mark with
    | .finish => .ok []
    | .blank => statementsFuel last fuel ts
    | .lineEnd => do
      t.check
      statementsFuel last fuel ts
    | .comment => do
      t.check
      statementsFuel last fuel ts
    | .openList =>
      match ts with
      | u :: us =>
        if u.mark = .openList then
          followed (header ⟨.openList, t.start, t.chars ++ u.chars⟩ true us)
        else followed (header t false ts)
      | [] => followed (header t false [])
    | .closeList => .error (flawAt .headerNotOpened t.start)
    | .openTable => .error (flawAt .nameExpected t.start)
    | .closeTable => .error (flawAt .nameExpected t.start)
    | .comma => .error (flawAt .nameExpected t.start)
    | _ => followed (assignment last (t :: ts))

/-- Whether a token says something. -/
def Token.speaks (t : Token) : Bool :=
  match t.mark with
  | .blank => false
  | .lineEnd => false
  | .comment => false
  | .finish => false
  | _ => true

/-- The statements of tokens. What is not closed should have been behind the
last token that says something. -/
def statements (ts : List Token) : Except Flaw (List Statement) :=
  let last := ((ts.reverse.find? Token.speaks).map Token.stop).getD 0
  statementsFuel last (ts.length + 1) ts

end SensorBroker.Toml
