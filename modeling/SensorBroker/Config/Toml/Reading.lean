/-
# Reading a configuration from TOML

A section is a table of settings, or a list of them in their order. A backend is
its name, or a table with an empty table under its name. What has an unknown
name is passed over, but its numbers must be in range.

Key definitions: `found`, `whole`, `sensors`, `backend`, `ofKind`, `ignore`,
`Slot`, `record`, `config?`.
-/
import SensorBroker.Config.Schema
import SensorBroker.Config.Toml.Table
import SensorBroker.Decimal.Shortest

namespace SensorBroker.Toml

open SensorBroker.Text

/-- Makes something of a value. -/
abbrev Decoder (α : Type) := Placed Value → Except Flaw α

/-- Says of a mismatch where it lies. -/
def placed {α : Type} (span : Span) : Except Mismatch α → Except Flaw α
  | .ok a => .ok a
  | .error m => .error (flawIn (.mismatch m) span)

/-- A number in double precision as it is shown: one that is whole has a point
with a zero. -/
def decimalText (x : Float) : String :=
  let s := Decimal.shortestText x
  if x.isFinite && !s.contains '.' then s ++ ".0" else s

/-- What a value turned out to be. -/
def Value.found : Value → Except Cause Found
  | .text s => .ok (.words s)
  | .scalar (.truth b) => .ok (.truth b)
  | .scalar (.whole none) => .error .wholeTooLarge
  | .scalar (.whole (some n)) =>
    if Int64.minValue.toInt ≤ n && n < UInt64.size then .ok (.whole n)
    else if -(Int.pow 2 127) ≤ n && n < Int.pow 2 128 then .ok (.wide n)
    else .error .wholeTooLarge
  | .scalar (.decimal x) => .ok (.decimal (decimalText x))
  | .scalar .hugeDecimal => .error .floatTooLarge
  | .scalar .moment => .ok .table
  | .list _ => .ok .list
  | .tables _ => .ok .list
  | .table _ _ => .ok .table

/-- The flaw of a value that is of another kind. -/
def foreign (expected : String) (v : Placed Value) : Flaw :=
  match v.it.found with
  | .ok found => flawIn (.mismatch (.kind found expected)) v.span
  | .error cause => flawIn cause v.span

/-! ## Settings -/

/-- A whole number. -/
def whole (t : WholeType) : Decoder Int := fun v =>
  match v.it.found with
  | .ok (.whole n) => placed v.span (t.check n)
  | _ => .error (foreign t.name v)

/-- A list of sensors. -/
def sensors : Decoder (List SensorId) := fun v =>
  let ofItems (items : List (Placed Value)) : Except Flaw (List SensorId) := do
    return (← items.mapM (whole .signed32)).map SensorId.ofInt
  match v.it with
  | .list items => ofItems items
  | .tables items => ofItems items
  | _ => .error (foreign "a sequence" v)

/-- A value that says nothing. -/
def nothing : Decoder Unit := fun v =>
  match v.it with
  | .list [] => .ok ()
  | .table _ [] => .ok ()
  | .list _ => .error (flawIn .emptyListExpected v.span)
  | .tables _ => .error (flawIn .emptyListExpected v.span)
  | .table _ _ => .error (flawIn .emptyTableExpected v.span)
  | other => .error (flawIn (.tableExpected other.kind) v.span)

/-- A backend. -/
def backend : Decoder BackendKind := fun v =>
  match v.it with
  | .text s => placed v.span (BackendKind.named s)
  | .table _ [] => .error (flawIn .nameInTableExpected v.span)
  | .table _ [(key, v)] => do
    let b ← placed key.span (BackendKind.named key.text)
    nothing v
    return b
  | .table _ _ => .error (flawIn .oneNameExpected v.span)
  | _ => .error (flawIn .nameOrTableExpected v.span)

/-- A value of a kind. -/
def ofKind : (k : Kind) → Decoder k.Value
  | .whole t => whole t
  | .sensors => sensors
  | .backend => backend

/-! ## Values that nobody asked for -/

mutual

/-- Passes over a value, of which every number must be in range. -/
def ignore (span : Span) : Value → Except Flaw Unit
  | .list items => ignoreItems items
  | .tables items => ignoreItems items
  | .table _ es => ignoreEntries es
  | v =>
    match v.found with
    | .ok _ => .ok ()
    | .error cause => .error (flawIn cause span)

/-- Passes over the items of a list. -/
def ignoreItems : List (Placed Value) → Except Flaw Unit
  | [] => .ok ()
  | ⟨span, v⟩ :: vs => do
    ignore span v
    ignoreItems vs

/-- Passes over the entries of a table. -/
def ignoreEntries : List (Name × Placed Value) → Except Flaw Unit
  | [] => .ok ()
  | (_, ⟨span, v⟩) :: es => do
    ignore span v
    ignoreEntries es

end

/-! ## Sections -/

/-- A named value within a record. -/
structure Slot (σ : Type) where
  name : String
  /-- What a value makes of the record. -/
  read : Decoder (σ → σ)

/-- Reads the entries of a record. -/
def members {σ : Type} (slots : List (Slot σ)) : Entries → σ → Except Flaw σ
  | [], s => .ok s
  | (key, v) :: es, s =>
    match slots.find? fun slot => slot.name = key.text with
    | none => do
      ignore v.span v.it
      members slots es s
    | some slot => do members slots es ((← slot.read v) s)

/-- Reads the values of a record in order. -/
def inOrder {σ : Type} : List (Slot σ) → List (Placed Value) → σ → Except Flaw σ
  | slot :: slots, v :: vs, s => do inOrder slots vs ((← slot.read v) s)
  | _, _, s => .ok s

/-- Reads a record. A date or a time has nothing that a record asks for. -/
def record {σ : Type} (title : String) (slots : List (Slot σ)) (default : σ) : Decoder σ := fun v =>
  match v.it with
  | .table _ es => members slots es default
  | .list vs => inOrder slots vs default
  | .tables vs => inOrder slots vs default
  | .scalar .moment => .ok default
  | _ => .error (foreign title v)

/-- A setting as a slot of its section. -/
def slotOf {σ : Type} (f : Field σ) : Slot σ :=
  ⟨f.name, fun v => (ofKind f.kind v).map f.put⟩

/-- A section as a slot of the configuration. -/
def sectionOf (p : Part) : Slot Config :=
  ⟨p.name, fun v =>
    (record p.layout.title (p.layout.fields.map slotOf) p.default v).map p.put⟩

/-- The configuration in the entries of a document. -/
def config (es : Entries) : Except Flaw Config :=
  members (Config.parts.map sectionOf) es {}

/-- The configuration that a text is. -/
def config? (text : String) : Except String Config :=
  (document text.toList >>= config).mapError fun f => f.message text.toList

end SensorBroker.Toml
