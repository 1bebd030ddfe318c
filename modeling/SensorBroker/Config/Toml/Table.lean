/-
# Putting TOML tables together

Statements add to a tree of tables from its root. A header leads through
tables, making those that are missing, and into the last table where there is a
list of them; the table it names must be new, or implied by an earlier header
only. A dotted name leads through tables that dotted names have made. Nothing
can be added to a table that was written out, and no name stands for two values.

The entries of a table stand in the order of their names.

Key definitions: `Value`, `Placed`, `Entries`, `alter`, `within`, `addValue`,
`Written.value`, `Block`, `Block.add`, `document`.
-/
import SensorBroker.Config.Toml.Scalar
import SensorBroker.Config.Toml.Text

namespace SensorBroker.Toml

open SensorBroker.Text

/-- How a table came to be, which decides what may still be added to it. -/
inductive Origin
  /-- It was written out and is complete. -/
  | closed
  /-- It has a header of its own. -/
  | headed
  /-- Only the header of a table within it was seen. -/
  | implied
  /-- A dotted name made it. -/
  | dotted
deriving DecidableEq, Inhabited

/-- Something, and where it stands. -/
structure Placed (α : Type) where
  span : Span
  it : α

/-- A value. -/
inductive Value
  | text (s : String)
  | scalar (s : Scalar)
  | list (items : List (Placed Value))
  /-- Tables under one name, each with a header. -/
  | tables (items : List (Placed Value))
  | table (origin : Origin) (entries : List (Name × Placed Value))

/-- The entries of a table. -/
abbrev Entries := List (Name × Placed Value)

/-- What a value is called. -/
def Value.kind : Value → String
  | .text _ => "string"
  | .scalar (.truth _) => "boolean"
  | .scalar (.whole _) => "integer"
  | .scalar (.decimal _) => "float"
  | .scalar .hugeDecimal => "float"
  | .scalar .moment => "datetime"
  | .list _ => "array"
  | .tables _ => "array"
  | .table .closed _ => "inline table"
  | .table _ _ => "table"

/-- The flaw of a name that stands for something else already. -/
def Name.repeated (key : Name) : Flaw :=
  flawIn .repeated key.span

/-- The flaw of a name with names behind it that its value cannot have. -/
def Name.notExtensible (key : Name) (v : Value) : Flaw :=
  flawIn (.notExtensible v.kind) key.span

/-- Changes the value of a name, or gives it one. -/
def alter (key : Name) (f : Option (Placed Value) → Except Flaw (Placed Value)) :
    Entries → Except Flaw Entries
  | [] => do return [(key, ← f none)]
  | (k, v) :: es =>
    if k.text = key.text then do return (k, ← f (some v)) :: es
    else if key.text < k.text then do return (key, ← f none) :: (k, v) :: es
    else do return (k, v) :: (← alter key f es)

/-- Changes the last table of a list of tables. -/
def alterLast (f : Entries → Except Flaw Entries) :
    List (Placed Value) → Except Flaw (List (Placed Value))
  | [] => .ok []
  | [⟨span, .table origin es⟩] => do return [⟨span, .table origin (← f es)⟩]
  | v :: vs => do return v :: (← alterLast f vs)

/-- Changes the table that the names of a header lead to. -/
def within : List Name → (Entries → Except Flaw Entries) → Entries → Except Flaw Entries
  | [], f, es => f es
  | key :: keys, f, es =>
    alter key (fun
      | none => do return ⟨key.span, .table .implied (← within keys f [])⟩
      | some ⟨span, v⟩ =>
        match v with
        | .table .closed _ => .error (key.notExtensible v)
        | .table origin es => do return ⟨span, .table origin (← within keys f es)⟩
        | .tables items => do return ⟨span, .tables (← alterLast (within keys f) items)⟩
        | _ => .error (key.notExtensible v)) es

/-- Gives the last of some names a value; `inBraces` says whether the names
stand between braces. -/
def addValue (inBraces : Bool) (value : Placed Value) : List Name → Entries → Except Flaw Entries
  | [], es => .ok es
  | [key], es =>
    alter key (fun
      | none => .ok value
      | some _ => .error key.repeated) es
  | key :: next :: keys, es =>
    let last := (next :: keys).getLast?.getD next
    alter key (fun
      | none => do
        return ⟨key.span, .table .dotted (← addValue inBraces value (next :: keys) [])⟩
      | some ⟨span, v⟩ =>
        match v with
        | .table .dotted es => do
          return ⟨span, .table .dotted (← addValue inBraces value (next :: keys) es)⟩
        | .table .implied es =>
          if keys.isEmpty then .error last.repeated
          else do return ⟨span, .table .implied (← addValue inBraces value (next :: keys) es)⟩
        | .tables items =>
          if keys.isEmpty then .error last.repeated
          else do
            return ⟨span, .tables (← alterLast (addValue inBraces value (next :: keys)) items)⟩
        | .table .headed _ => .error key.repeated
        | .table .closed _ =>
          .error (if inBraces then key.repeated else key.notExtensible v)
        | _ => .error (key.notExtensible v)) es

/-! ## Values as they are written -/

mutual

/-- The value that is written. -/
def Written.value : Written → Except Flaw (Placed Value)
  | .text q t => do return ⟨t.span, .text (← t.content q)⟩
  | .scalar t => do return ⟨t.span, .scalar (← t.scalar)⟩
  | .list span ws => do return ⟨span, .list (← Written.values ws)⟩
  | .table span es => do return ⟨span, .table .closed (← Written.fill true es [])⟩

/-- The values that are written. -/
def Written.values : List Written → Except Flaw (List (Placed Value))
  | [] => .ok []
  | w :: ws => do
    let v ← w.value
    return v :: (← Written.values ws)

/-- Adds entries to a table one by one. -/
def Written.fill (inBraces : Bool) : List (Path × Written) → Entries → Except Flaw Entries
  | [], es => .ok es
  | (p, w) :: rest, es => do
    let keys ← names p
    let v ← w.value
    Written.fill inBraces rest (← addValue inBraces v keys es)

end

/-! ## Documents -/

/-- A header and what stands below it. -/
structure Block where
  isElement : Bool
  span : Span
  path : Path
  body : List (Path × Written)

/-- The assignments in front of the first header, and the blocks behind. -/
def blocks : List Statement → List (Path × Written) × List Block
  | [] => ([], [])
  | .assign p w :: rest =>
    let (body, bs) := blocks rest
    ((p, w) :: body, bs)
  | .header span p :: rest =>
    let (body, bs) := blocks rest
    ([], ⟨false, span, p, body⟩ :: bs)
  | .element span p :: rest =>
    let (body, bs) := blocks rest
    ([], ⟨true, span, p, body⟩ :: bs)

/-- Adds a block to a document. A table with a header must be allowed where it
stands before its entries are looked at, an element of a list only behind them. -/
def Block.add (b : Block) (es : Entries) : Except Flaw Entries := do
  let keys ← names b.path
  match keys.getLast? with
  | none => .ok es
  | some key =>
    if b.isElement then do
      let element : Placed Value := ⟨b.span, .table .headed (← Written.fill false b.body [])⟩
      within keys.dropLast (alter key fun
        | none => .ok ⟨b.span, .tables [element]⟩
        | some ⟨span, .tables items⟩ => .ok ⟨span, .tables (items ++ [element])⟩
        | some _ => .error key.repeated) es
    else
      let table (es : Entries) : Except Flaw (Placed Value) := do
        return ⟨b.span, .table .headed (← Written.fill false b.body es)⟩
      within keys.dropLast (alter key fun
        | none => table []
        | some ⟨_, .table .implied es⟩ => table es
        | some _ => .error key.repeated) es

/-- Adds blocks to a document. -/
def addBlocks : List Block → Entries → Except Flaw Entries
  | [], es => .ok es
  | b :: bs, es => do addBlocks bs (← b.add es)

/-- The entries of the root of a document. -/
def document (text : List Char) : Except Flaw Entries := do
  let (body, bs) := blocks (← statements (Token.ofText text))
  addBlocks bs (← Written.fill false body [])

end SensorBroker.Toml
