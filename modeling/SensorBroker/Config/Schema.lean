/-
# What a configuration file may say

A configuration has sections, a section has settings, each under its name and
of a kind: a whole number of some type, a list of sensors, or a backend. What is
missing has its default, what has an unknown name is passed over.

Every format reads and writes by this one description.

Key definitions: `ConfigFormat`, `WholeType`, `Kind`, `Field`, `Layout`,
`Part`, `Config.parts`, `Setting`, `Config.outline`.
-/
import SensorBroker.Config.Basic
import SensorBroker.Config.Mismatch

namespace SensorBroker

/-- The formats of configuration files. -/
inductive ConfigFormat
  | toml
  | json
deriving DecidableEq, Inhabited

/-- The name of a format. -/
def ConfigFormat.name : ConfigFormat → String
  | .toml => "TOML"
  | .json => "JSON"

/-! ## Kinds of settings -/

/-- The whole numbers between two bounds. -/
structure WholeType where
  name : String
  low : Int
  high : Int
deriving DecidableEq, Inhabited

namespace WholeType

def signed32 : WholeType := ⟨"i32", Int32.minValue.toInt, Int32.maxValue.toInt⟩

def unsigned32 : WholeType := ⟨"u32", 0, UInt32.size - 1⟩

def signed64 : WholeType := ⟨"i64", Int64.minValue.toInt, Int64.maxValue.toInt⟩

def unsigned64 : WholeType := ⟨"u64", 0, UInt64.size - 1⟩

/-- The numbers that count something in memory. -/
def size : WholeType := ⟨"usize", 0, UInt64.size - 1⟩

/-- A number, if it is of the type. -/
def check (t : WholeType) (n : Int) : Except Mismatch Int :=
  if t.low ≤ n && n ≤ t.high then .ok n else .error (.range (.whole n) t.name)

end WholeType

/-- The name of a backend. -/
def BackendKind.name : BackendKind → String
  | .vendor => "real"
  | .software => "compatible"

/-- The backend with a name. -/
def BackendKind.ofName? (s : String) : Option BackendKind :=
  if s = BackendKind.vendor.name then some .vendor
  else if s = BackendKind.software.name then some .software
  else none

/-- The backend with a name, if there is one. -/
def BackendKind.named (s : String) : Except Mismatch BackendKind :=
  match BackendKind.ofName? s with
  | some b => .ok b
  | none => .error (.unknownName s [BackendKind.vendor.name, BackendKind.software.name])

/-- The kinds of values that settings have. -/
inductive Kind
  | whole (type : WholeType)
  | sensors
  | backend

/-- The values of a kind. -/
abbrev Kind.Value : Kind → Type
  | .whole _ => Int
  | .sensors => List SensorId
  | .backend => BackendKind

/-! ## Sections -/

/-- A setting within a section. -/
structure Field (σ : Type) where
  name : String
  kind : Kind
  get : σ → kind.Value
  put : kind.Value → σ → σ

/-- What a section holds. Where a format lets a section be written as a list,
the settings stand in this order. -/
structure Layout (σ : Type) where
  title : String
  fields : List (Field σ)

/-- The settings of a service. -/
def ServiceSettings.layout : Layout ServiceSettings where
  title := "struct ServiceConfig"
  fields :=
    [⟨"default_sampling_period_ns", .whole .signed64, fun s => s.defaultPeriod.toInt, fun n s =>
        { s with defaultPeriod := .ofInt n }⟩,
      ⟨"max_event_count", .whole .signed64, fun s => s.maxEventCount.toInt, fun n s =>
        { s with maxEventCount := .ofInt n }⟩,
      ⟨"event_queue_capacity", .whole .size, fun s => s.eventQueueCapacity.toNat, fun n s =>
        { s with eventQueueCapacity := .ofNat n.toNat }⟩,
      ⟨"freezing_exempt", .sensors, fun s => s.freezingExempt, fun ids s =>
        { s with freezingExempt := ids }⟩]

/-- The settings of channels. -/
def TransportSettings.layout : Layout TransportSettings where
  title := "struct TransportConfig"
  fields :=
    [⟨"max_packet_size", .whole .unsigned32, fun s => s.maxPacketSize.toNat, fun n s =>
        { s with maxPacketSize := .ofNat n.toNat }⟩,
      ⟨"once_process_limit", .whole .size, fun s => s.passLimit.toNat, fun n s =>
        { s with passLimit := .ofNat n.toNat }⟩,
      ⟨"poll_timeout_ms", .whole .unsigned64, fun s => s.pollTimeout.toNat, fun n s =>
        { s with pollTimeout := .ofNat n.toNat }⟩,
      ⟨"send_retry_limit", .whole .size, fun s => s.retryLimit.toNat, fun n s =>
        { s with retryLimit := .ofNat n.toNat }⟩,
      ⟨"pending_queue_capacity", .whole .size, fun s => s.pendingCapacity.toNat, fun n s =>
        { s with pendingCapacity := .ofNat n.toNat }⟩,
      ⟨"read_chunk", .whole .size, fun s => s.readChunk.toNat, fun n s =>
        { s with readChunk := .ofNat n.toNat }⟩]

/-- The settings of the hardware. -/
def HardwareSettings.layout : Layout HardwareSettings where
  title := "struct HdiConfig"
  fields :=
    [⟨"backend", .backend, fun s => s.backend, fun b s => { s with backend := b }⟩,
      ⟨"supported_mock_sensors", .sensors, fun s => s.mockable, fun ids s =>
        { s with mockable := ids }⟩,
      ⟨"inject_on_start", .sensors, fun s => s.injectOnStart, fun ids s =>
        { s with injectOnStart := ids }⟩]

/-- A section of a configuration. -/
structure Part where
  {σ : Type}
  name : String
  layout : Layout σ
  default : σ
  get : Config → σ
  put : σ → Config → Config

/-- What a configuration is called where something else stands in its place. -/
def Config.title : String := "struct BrokerConfig"

/-- The sections of a configuration. -/
def Config.parts : List Part :=
  [⟨"service", ServiceSettings.layout, {}, Config.service, fun s c => { c with service := s }⟩,
    ⟨"transport", TransportSettings.layout, {}, Config.transport, fun s c =>
      { c with transport := s }⟩,
    ⟨"hdi", HardwareSettings.layout, {}, Config.hardware, fun s c => { c with hardware := s }⟩]

/-! ## What is written -/

/-- A setting with its name. -/
structure Setting where
  name : String
  kind : Kind
  value : kind.Value

/-- The settings of a section. -/
def Layout.settings {σ : Type} (l : Layout σ) (s : σ) : List Setting :=
  l.fields.map fun f => ⟨f.name, f.kind, f.get s⟩

/-- What is written of a configuration: its sections with their settings. -/
def Config.outline (c : Config) : List (String × List Setting) :=
  Config.parts.map fun p => (p.name, p.layout.settings (p.get c))

end SensorBroker
