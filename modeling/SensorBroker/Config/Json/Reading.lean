/-
# Reading a configuration from JSON

A section is an object of settings, or a list of them in their order. It is
read from front to back, so of several flaws the first is found. A name that is
known may not be given twice. A backend is its name, or an object with nothing
under its name.

Key definitions: `whole`, `sensors`, `backend`, `ofKind`, `Slot`, `record`,
`config?`.
-/
import SensorBroker.Config.Json.Skipping
import SensorBroker.Config.Schema

namespace SensorBroker.Json

open SensorBroker.Text

/-- The flaw of a value that is of another kind. -/
def foreign (expected : String) (cs : List Char) : Flaw :=
  let after {α : Type} (found : α → Found) (r : Except Flaw (α × List Char)) : Flaw :=
    match r with
    | .ok (a, rest) => flaw (.mismatch (.kind (found a) expected)) rest
    | .error f => f
  match cs with
  | 'n' :: cs => after (fun _ => .nothing) (word "ull".toList cs)
  | 't' :: cs => after (fun _ => .truth true) (word "rue".toList cs)
  | 'f' :: cs => after (fun _ => .truth false) (word "alse".toList cs)
  | '"' :: cs => after .words (string cs)
  | '-' :: cs => after Number.found (number true cs)
  | '[' :: _ => flaw (.mismatch (.kind .list expected)) cs
  | '\x7b' :: _ => flaw (.mismatch (.kind .table expected)) cs
  | c :: _ =>
    if isDigit c then after Number.found (number false cs) else flawIn .valueExpected cs
  | [] => flawIn .endInValue []

/-- Says of a flaw where it lies. -/
def placed {α : Type} (cs : List Char) : Except Mismatch α → Except Flaw (α × List Char)
  | .ok a => .ok (a, cs)
  | .error m => .error (flaw (.mismatch m) cs)

/-! ## Settings -/

/-- Takes a whole number. -/
def whole (t : WholeType) : Reader Int := fun cs =>
  let checked (r : Number × List Char) : Except Flaw (Int × List Char) :=
    match r with
    | (.whole n, cs) => placed cs (t.check n)
    | (x, cs) => .error (flaw (.mismatch (.kind x.found t.name)) cs)
  match skipBlank cs with
  | '-' :: cs => number true cs >>= checked
  | c :: cs =>
    if isDigit c then number false (c :: cs) >>= checked else .error (foreign t.name (c :: cs))
  | [] => .error (flawIn .endInValue [])

/-- Looks for a further item of a list; answers where it begins, and nothing at
the end of the list. -/
def nextItem (first : Bool) (cs : List Char) : Except Flaw (Option (List Char)) :=
  match skipBlank cs with
  | [] => .error (flawIn .endInList [])
  | ']' :: _ => .ok none
  | c :: cs =>
    if first then .ok (some (c :: cs))
    else if c = ',' then
      match skipBlank cs with
      | [] => .error (flawIn .endInValue [])
      | ']' :: cs => .error (flawIn .trailingComma (']' :: cs))
      | cs => .ok (some cs)
    else .error (flawIn .listEndExpected (c :: cs))

/-- Takes the end of a list. -/
def endList (cs : List Char) : Except Flaw (List Char) :=
  match skipBlank cs with
  | [] => .error (flawIn .endInList [])
  | ']' :: cs => .ok cs
  | ',' :: cs =>
    match skipBlank cs with
    | ']' :: cs => .error (flawIn .trailingComma (']' :: cs))
    | cs => .error (flawIn .trailingText cs)
  | cs => .error (flawIn .trailingText cs)

/-- Takes the items of a list and its end, at most `fuel` items. -/
def items {α : Type} (item : Reader α) : Nat → Bool → Reader (List α)
  | 0, _, cs => .error (flaw .endInList cs)
  | fuel + 1, first, cs => do
    match ← nextItem first cs with
    | none => (endList cs).map fun cs => ([], cs)
    | some cs => do
      let (a, cs) ← item cs
      let (as, cs) ← items item fuel false cs
      .ok (a :: as, cs)

/-- Takes a list of sensors. -/
def sensors : Reader (List SensorId) := fun cs =>
  match skipBlank cs with
  | [] => .error (flawIn .endInValue [])
  | '[' :: cs => do
    let (ns, cs) ← items (whole .signed32) (cs.length + 1) true cs
    .ok (ns.map SensorId.ofInt, cs)
  | cs => .error (foreign "a sequence" cs)

/-- Takes the name of a backend. -/
def backendName : Reader BackendKind := fun cs => do
  let (s, cs) ← string cs
  placed cs (BackendKind.named s)

/-- Takes the colon of a member. -/
def colon (cs : List Char) : Except Flaw (List Char) :=
  match skipBlank cs with
  | [] => .error (flawIn .endInObject [])
  | ':' :: cs => .ok cs
  | cs => .error (flawIn .colonExpected cs)

/-- Takes a value that says nothing. -/
def nothing (cs : List Char) : Except Flaw (List Char) :=
  match skipBlank cs with
  | [] => .error (flawIn .endInValue [])
  | 'n' :: cs => (word "ull".toList cs).map Prod.snd
  | cs => .error (foreign "unit" cs)

/-- Takes a backend. -/
def backend : Reader BackendKind := fun cs =>
  match skipBlank cs with
  | [] => .error (flawIn .endInValue [])
  | '"' :: cs => backendName cs
  | '\x7b' :: cs => do
    let (b, cs) ← match skipBlank cs with
      | [] => .error (flawIn .endInObject [])
      | '"' :: cs => backendName cs
      | '\x7d' :: cs => .error (flawIn .valueExpected ('\x7d' :: cs))
      | cs => .error (flawIn .nameExpected cs)
    match skipBlank (← nothing (← colon cs)) with
    | [] => .error (flaw .endInObject [])
    | '\x7d' :: cs => .ok (b, cs)
    | cs => .error (flaw .valueExpected cs)
  | cs => .error (flawIn .valueExpected cs)

/-- Takes a value of a kind. -/
def ofKind : (k : Kind) → Reader k.Value
  | .whole t => whole t
  | .sensors => sensors
  | .backend => backend

/-! ## Sections -/

/-- A named value within a record. -/
structure Slot (σ : Type) where
  name : String
  /-- Takes the value; answers what becomes of the record. -/
  read : Reader (σ → σ)

/-- Looks for a further member of an object; answers where its name begins, and
nothing at the end of the object. -/
def nextName (first : Bool) (cs : List Char) : Except Flaw (Option (List Char)) :=
  match skipBlank cs with
  | [] => .error (flawIn .endInObject [])
  | '\x7d' :: _ => .ok none
  | c :: cs =>
    if first then
      if c = '"' then .ok (some cs) else .error (flawIn .nameExpected (c :: cs))
    else if c = ',' then
      match skipBlank cs with
      | [] => .error (flawIn .endInValue [])
      | '"' :: cs => .ok (some cs)
      | '\x7d' :: cs => .error (flawIn .trailingComma ('\x7d' :: cs))
      | cs => .error (flawIn .nameExpected cs)
    else .error (flawIn .objectEndExpected (c :: cs))

/-- The flaw of a name given twice, which is found where the value should
begin. -/
def repeated (name : String) (cs : List Char) : Flaw :=
  match skipBlank cs with
  | '\x7d' :: cs => flaw (.repeated name) cs
  | cs => flaw (.repeated name) cs

/-- Takes the members of a record and its end. `seen` holds the names so far. -/
def members {σ : Type} (slots : List (Slot σ)) : Nat → List String → Bool → σ → Reader σ
  | 0, _, _, _, cs => .error (flaw .endInObject cs)
  | fuel + 1, seen, first, s, cs => do
    match ← nextName first cs with
    | none => .ok (s, (skipBlank cs).tail)
    | some cs => do
      let (name, cs) ← string cs
      match slots.find? fun slot => slot.name = name with
      | none => do
        let cs ← skip (← colon cs)
        members slots fuel seen false s cs
      | some slot =>
        if seen.contains name then .error (repeated name cs)
        else do
          let (change, cs) ← slot.read (← colon cs)
          members slots fuel (name :: seen) false (change s) cs

/-- Takes the values of a record in order, and the end of the list. -/
def inOrder {σ : Type} : List (Slot σ) → Bool → σ → Reader σ
  | [], _, s, cs => (endList cs).map fun cs => (s, cs)
  | slot :: slots, first, s, cs => do
    match ← nextItem first cs with
    | none => (endList cs).map fun cs => (s, cs)
    | some cs => do
      let (change, cs) ← slot.read cs
      inOrder slots false (change s) cs

/-- Takes a record. -/
def record {σ : Type} (title : String) (slots : List (Slot σ)) (default : σ) : Reader σ := fun cs =>
  match skipBlank cs with
  | [] => .error (flawIn .endInValue [])
  | '[' :: cs => inOrder slots true default cs
  | '\x7b' :: cs => members slots (cs.length + 1) [] true default cs
  | cs => .error (foreign title cs)

/-- A setting as a slot of its section. -/
def slotOf {σ : Type} (f : Field σ) : Slot σ :=
  ⟨f.name, fun cs => (ofKind f.kind cs).map fun (v, cs) => (f.put v, cs)⟩

/-- A section as a slot of the configuration. -/
def sectionOf (p : Part) : Slot Config :=
  ⟨p.name, fun cs =>
    (record p.layout.title (p.layout.fields.map slotOf) p.default cs).map fun (s, cs) =>
      (p.put s, cs)⟩

/-- Takes a configuration. -/
def config : Reader Config :=
  record Config.title (Config.parts.map sectionOf) {}

/-- The configuration that a text is. -/
def config? (text : String) : Except String Config :=
  let read : Except Flaw Config := do
    let (c, cs) ← config text.toList
    match skipBlank cs with
    | [] => .ok c
    | cs => .error (flawIn .trailingText cs)
  read.mapError fun f => f.message text.toList

end SensorBroker.Json
