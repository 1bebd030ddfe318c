import SensorBroker.Main
import SensorBroker.Stats.Telemetry
import SensorBroker.Proofs.Wire.Codec
import SensorBroker.Proofs.Wire.Frame
import SensorBroker.Proofs.Wire.Reassembly
import SensorBroker.Proofs.Channel.Peer
import SensorBroker.Proofs.Channel.Receiving
import SensorBroker.Proofs.Channel.Outgoing
import SensorBroker.Proofs.Channel.Traffic
import SensorBroker.Proofs.Hardware.Home
import SensorBroker.Proofs.Service.Records
import SensorBroker.Proofs.Service.Arbitration
import SensorBroker.Proofs.Service.Settled
import SensorBroker.Proofs.Service.Moves
import SensorBroker.Proofs.Service.Operation
import SensorBroker.Proofs.Service.Consistency
import SensorBroker.Proofs.Service.Unsubscribing
import SensorBroker.Proofs.Service.Snapshots
import SensorBroker.Proofs.Service.Suspending
import SensorBroker.Proofs.Service.Kept
import SensorBroker.Proofs.Service.Shifts
import SensorBroker.Proofs.Service.Orderly
import SensorBroker.Proofs.Service.Dying
import SensorBroker.Proofs.Service.HangingUp
import SensorBroker.Proofs.Wire.Records
import SensorBroker.Proofs.Service.Lifetime
import SensorBroker.Proofs.Service.Queueing
import SensorBroker.Proofs.Service.Carrying
import SensorBroker.Proofs.Service.Delivery
import SensorBroker.Proofs.Service.Flushing
import SensorBroker.Proofs.Wire.PassLimit
import SensorBroker.Proofs.Service.Withdrawing
import SensorBroker.Proofs.Service.Reporting
import SensorBroker.Proofs.Service.Mirroring
import SensorBroker.Proofs.Channel.Capacity
import SensorBroker.Proofs.Service.Doubling
import SensorBroker.Proofs.Service.Tokens
import SensorBroker.Proofs.Hardware.Journal
import SensorBroker.Proofs.Service.Switching
import SensorBroker.Proofs.Service.Admission
import SensorBroker.Proofs.Service.Obliging
import SensorBroker.Proofs.Service.Asking
import SensorBroker.Proofs.Service.Account
import SensorBroker.Proofs.Service.Answering
import SensorBroker.Proofs.Service.Isolation
import SensorBroker.Proofs.Service.Replaying
import SensorBroker.Proofs.Service.Restoring
import SensorBroker.Proofs.Wire.Exactness
import SensorBroker.Proofs.Channel.Listing
import SensorBroker.Proofs.Hardware.Routing
import SensorBroker.Proofs.Service.Tallying
import SensorBroker.Proofs.Service.Attending
import SensorBroker.Proofs.Channel.Stages
import SensorBroker.Proofs.Service.Pairs
import SensorBroker.Proofs.Channel.Ending
import SensorBroker.Proofs.Service.Stopping
import SensorBroker.Proofs.Wire.Parsing
import SensorBroker.Proofs.Service.Refusing
import SensorBroker.Proofs.Service.Offering
import SensorBroker.Proofs.Config.RoundTrip
import SensorBroker.Proofs.Service.Dating
import SensorBroker.Proofs.Service.Hollowing
import SensorBroker.Proofs.Config.Acceptance
import SensorBroker.Proofs.Wire.Disposal
import SensorBroker.Proofs.Channel.Following
import SensorBroker.Proofs.Channel.Looking
import SensorBroker.Proofs.Channel.Listening
import SensorBroker.Proofs.Channel.Multicast
import SensorBroker.Proofs.Wire.Draining
import SensorBroker.Proofs.CommandLine.Spans
