/-
# Which configurations are allowed

Every number has a least value; sensor ids are not negative and not given twice
in one list; what is mocked from the start must be mockable; and the largest
payload must fit into the queue of a channel. The first flaw found is reported:
of several numbers out of range the one whose path comes first in the order of
the alphabet, then the lists, then the mocks, then the queue.

Key definitions: `RangeRule`, `Config.rangeRules`, `Config.outOfRange?`,
`idFlaw?`, `Config.validate`.
-/
import SensorBroker.Config.Basic
import SensorBroker.Fault

namespace SensorBroker

/-- A number and the least value it may have. -/
structure RangeRule where
  path : String
  value : Int
  least : Int
deriving DecidableEq, Inhabited

/-- Whether a number is at least what it must be. -/
def RangeRule.holds (r : RangeRule) : Bool :=
  r.least ≤ r.value

/-- The numbers of a configuration, by path. -/
def Config.rangeRules (c : Config) : List RangeRule :=
  [⟨"service.default_sampling_period_ns", c.service.defaultPeriod.toInt, 1⟩,
    ⟨"service.event_queue_capacity", c.service.eventQueueCapacity.toNat, 1⟩,
    ⟨"service.max_event_count", c.service.maxEventCount.toInt, 1⟩,
    ⟨"transport.max_packet_size", c.transport.maxPacketSize.toNat, 1⟩,
    ⟨"transport.once_process_limit", c.transport.passLimit.toNat, 1⟩,
    ⟨"transport.pending_queue_capacity", c.transport.pendingCapacity.toNat, 64⟩,
    ⟨"transport.poll_timeout_ms", c.transport.pollTimeout.toNat, 1⟩,
    ⟨"transport.read_chunk", c.transport.readChunk.toNat, 16⟩,
    ⟨"transport.send_retry_limit", c.transport.retryLimit.toNat, 1⟩]

/-- The first number that is out of range. -/
def Config.outOfRange? (c : Config) : Option String :=
  (c.rangeRules.find? fun r => !r.holds).map RangeRule.path

/-- What is wrong with the first sensor id that may not be where it is. -/
def idFlaw? : List SensorId → List SensorId → Option String
  | _, [] => none
  | seen, s :: rest =>
    if !s.isValid then some ("invalid sensor id " ++ s.text)
    else if seen.contains s then some ("duplicate sensor id " ++ s.text)
    else idFlaw? (s :: seen) rest

/-- The lists of sensor ids of a configuration, by path, in the order they are
looked at. -/
def Config.idLists (c : Config) : List (String × List SensorId) :=
  [("service.freezing_exempt", c.service.freezingExempt),
    ("hdi.supported_mock_sensors", c.hardware.mockable),
    ("hdi.inject_on_start", c.hardware.injectOnStart)]

/-- The first list with an id that may not be there, and what is wrong. -/
def Config.listFlaw? (c : Config) : Option (String × String) :=
  c.idLists.findSome? fun l => (idFlaw? [] l.2).map fun flaw => (l.1, flaw)

/-- The first sensor that is to be mocked and cannot be. -/
def Config.unmockable? (c : Config) : Option SensorId :=
  c.hardware.injectOnStart.find? fun s => !c.hardware.mockable.contains s

/-- Whether a frame with the largest payload fits into the queue of a
channel. -/
def TransportSettings.payloadFits (t : TransportSettings) : Bool :=
  t.maxPacketSize.toNat ≤ t.pendingCapacity.toNat

/-- Finds the first flaw of a configuration. -/
def Config.validate (c : Config) : Except Fault Unit :=
  match c.outOfRange? with
  | some path => .error (.configInvalid path "failed rule 'range'")
  | none =>
    match c.listFlaw? with
    | some (path, flaw) => .error (.configInvalid path flaw)
    | none =>
      match c.unmockable? with
      | some s =>
        .error (.configInvalid "hdi.inject_on_start"
          ("sensor " ++ s.text ++ " is not in supported_mock_sensors"))
      | none =>
        if c.transport.payloadFits then .ok ()
        else
          .error (.configInvalid "transport.max_packet_size / transport.pending_queue_capacity"
            ("max_packet_size (" ++ toString c.transport.maxPacketSize.toNat
              ++ ") must be <= pending_queue_capacity ("
              ++ toString c.transport.pendingCapacity.toNat ++ ")"))

end SensorBroker
