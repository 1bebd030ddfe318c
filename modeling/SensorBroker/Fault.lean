/-
# Faults common to all layers

The causes that any layer can meet: a configuration that cannot be read or is
not allowed, a payload that is no record, a message nobody knows, a file or
socket that failed. Each layer has its own errors beside these and wraps them;
the wording of each cause is here and nowhere else.

Key definitions: `Fault`, `Fault.message`.
-/

namespace SensorBroker

/-- A cause of failure that every layer knows. -/
inductive Fault
  /-- The text is no configuration. -/
  | configMalformed (detail : String)
  /-- A configured value is not allowed. -/
  | configInvalid (field : String) (detail : String)
  /-- A payload is not the record its message carries. -/
  | payloadMalformed (message : UInt32) (detail : String)
  /-- No message has this id. -/
  | unknownMessage (message : UInt32)
  /-- A file or a socket failed. -/
  | io (detail : String)
  /-- Anything else, in words. -/
  | other (detail : String)
deriving DecidableEq, Inhabited

/-- The short name of a cause. -/
def Fault.kind : Fault → String
  | .configMalformed _ => "ConfigParse"
  | .configInvalid .. => "ConfigValidation"
  | .payloadMalformed .. => "PayloadParse"
  | .unknownMessage _ => "UnknownMessage"
  | .io _ => "Io"
  | .other _ => "Other"

/-- The wording of a cause. -/
def Fault.message : Fault → String
  | .configMalformed detail => "config parse error: " ++ detail
  | .configInvalid field detail => "config validation error at '" ++ field ++ "': " ++ detail
  | .payloadMalformed id detail =>
    "payload parse error for message " ++ toString id.toNat ++ ": " ++ detail
  | .unknownMessage id => "unknown message id: " ++ toString id.toNat
  | .io detail => "io error: " ++ detail
  | .other detail => detail

end SensorBroker
