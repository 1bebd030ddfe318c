/-
# Values that are not what was asked for

A setting asks for a value of some kind. What was found instead, and why it does
not do, is told the same way in every format.

Key definitions: `Found`, `Mismatch`, `Mismatch.message`.
-/
import SensorBroker.Text.Quoted

namespace SensorBroker

/-- What a value turned out to be. -/
inductive Found
  | nothing
  | truth (value : Bool)
  | whole (n : Int)
  /-- A whole number of more than 64 bits. -/
  | wide (n : Int)
  /-- A number that is not whole, as it is shown. -/
  | decimal (shown : String)
  | words (s : String)
  | list
  | table
deriving DecidableEq, Inhabited

/-- What a value is called. -/
def Found.label : Found → String
  | .nothing => "null"
  | .truth value => "boolean `" ++ toString value ++ "`"
  | .whole n => "integer `" ++ toString n ++ "`"
  | .wide n =>
    "integer `" ++ toString n ++ "` as " ++ if n < Int.pow 2 127 then "i128" else "u128"
  | .decimal shown => "floating point `" ++ shown ++ "`"
  | .words s => "string " ++ Text.quoted s
  | .list => "sequence"
  | .table => "map"

/-- Why a value does not do. -/
inductive Mismatch
  /-- It is of another kind. -/
  | kind (found : Found) (expected : String)
  /-- It is out of range. -/
  | range (found : Found) (expected : String)
  /-- It is none of the names that may stand there. -/
  | unknownName (name : String) (known : List String)
deriving DecidableEq, Inhabited

/-- The wording of a mismatch. -/
def Mismatch.message : Mismatch → String
  | .kind found expected => "invalid type: " ++ found.label ++ ", expected " ++ expected
  | .range found expected => "invalid value: " ++ found.label ++ ", expected " ++ expected
  | .unknownName name known =>
    "unknown variant `" ++ name ++ "`, expected "
      ++ " or ".intercalate (known.map fun k => "`" ++ k ++ "`")

end SensorBroker
