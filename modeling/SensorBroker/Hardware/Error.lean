/-
# What can go wrong with the hardware

Key definitions: `HardwareError`, `HardwareError.message`.
-/
import SensorBroker.Fault
import SensorBroker.Sensor.Basic

namespace SensorBroker

/-- Why the hardware did not do what it was asked. -/
inductive HardwareError
  /-- A backend cannot be opened. -/
  | connectFailed (backend detail : String)
  /-- No backend is open for the sensor. -/
  | notConnected (sensor : SensorId)
  /-- A backend refused an operation on a sensor. -/
  | refused (backend operation : String) (sensor : SensorId) (detail : String)
  /-- No backend serves the sensor. -/
  | sensorNotFound (sensor : SensorId)
  /-- A mock of a sensor that is there already. -/
  | alreadyPresent (sensor : SensorId)
  /-- A mock of a sensor that cannot be mocked. -/
  | unsupported (sensor : SensorId)
  /-- The sensor is not mocked. -/
  | mockNotFound (sensor : SensorId)
  /-- A fault of another layer. -/
  | fault (f : Fault)
deriving DecidableEq, Inhabited

/-- The short name of an error. -/
def HardwareError.kind : HardwareError → String
  | .connectFailed .. => "ConnectFailed"
  | .notConnected _ => "NotConnected"
  | .refused .. => "DeviceOp"
  | .sensorNotFound _ => "SensorNotFound"
  | .alreadyPresent _ => "AlreadyPresent"
  | .unsupported _ => "Unsupported"
  | .mockNotFound _ => "MockNotFound"
  | .fault f => f.kind

/-- The wording of an error. -/
def HardwareError.message : HardwareError → String
  | .connectFailed backend detail => "failed to connect backend '" ++ backend ++ "': " ++ detail
  | .notConnected sensor => "no backend connected for sensor " ++ sensor.text
  | .refused backend operation sensor detail =>
    "backend '" ++ backend ++ "' failed " ++ operation ++ " on sensor " ++ sensor.text ++ ": "
      ++ detail
  | .sensorNotFound sensor => "sensor " ++ sensor.text ++ " not found"
  | .alreadyPresent sensor => "sensor " ++ sensor.text ++ " already present"
  | .unsupported sensor => "sensor " ++ sensor.text ++ " cannot be mocked"
  | .mockNotFound sensor => "sensor " ++ sensor.text ++ " is not mocked"
  | .fault f => f.message

end SensorBroker
