/-
# The kinds of message

The header of a frame names the kind of its payload by a number. Three kinds
are known; a header may carry any number, so a packet keeps the number and
`Message.ofId?` says what it means.

Key definitions: `Message`, `Message.id`, `Message.ofId?`.
Key theorems: `Message.ofId?_eq_ok_iff`.
-/
import SensorBroker.Fault

namespace SensorBroker

/-- What the payload of a frame is. -/
inductive Message
  /-- An event of a sensor. -/
  | sensorEvent
  /-- The event that ends a flush. -/
  | flushComplete
  /-- A subscription or a change of one, for listeners. -/
  | activeInfo
deriving DecidableEq, Inhabited

namespace Message

/-- The number of a kind. -/
def id : Message → UInt32
  | .sensorEvent => 1
  | .flushComplete => 2
  | .activeInfo => 3

/-- The name of a kind. -/
def name : Message → String
  | .sensorEvent => "SensorEvent"
  | .flushComplete => "FlushComplete"
  | .activeInfo => "ActiveInfo"

/-- The kind with this number. -/
def ofId? (n : UInt32) : Except Fault Message :=
  if n = 1 then .ok .sensorEvent
  else if n = 2 then .ok .flushComplete
  else if n = 3 then .ok .activeInfo
  else .error (.unknownMessage n)

/-- A number means a kind exactly when it is the number of that kind. -/
theorem ofId?_eq_ok_iff {n : UInt32} {m : Message} : ofId? n = .ok m ↔ m.id = n := by
  unfold ofId? id
  constructor
  · intro h
    split at h
    · cases h; simp_all
    · split at h
      · cases h; simp_all
      · split at h
        · cases h; simp_all
        · cases h
  · intro h
    cases m <;> subst h <;> rfl

end Message
end SensorBroker
