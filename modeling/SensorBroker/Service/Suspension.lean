/-
# Suspending and resuming a process

To suspend a process is to end its subscriptions, save those of sensors that
are never suspended, and to keep what they were in a snapshot; to resume it is
to subscribe it again as the snapshot says. Both go sensor by sensor, in order
of id, and what fails stays where it was: a sensor that cannot be disabled
stays subscribed, one that cannot be enabled stays in the snapshot. Other
processes that share a sensor keep it.

Key definitions: `Snapshot`, `Suspension`, `Suspension.suspend`,
`Suspension.resume`, `Suspension.resumeAll`, `Suspension.discard`,
`Suspension.forget`.
-/
import SensorBroker.Service.Arbitration

namespace SensorBroker

/-- What a suspended process had asked of its sensors. -/
abbrev Snapshot := Table SensorId Request

/-- Arbitration, with the snapshots of suspended processes. -/
structure Suspension where
  arbitration : Arbitration
  snapshots : Table Pid Snapshot
deriving Inhabited

namespace Suspension

/-- Nobody is suspended. -/
def ofArbitration (a : Arbitration) : Suspension :=
  ⟨a, ∅⟩

/-- Whether a sensor is never suspended. -/
def isExempt (x : Suspension) (s : SensorId) : Bool :=
  x.arbitration.settings.freezingExempt.contains s

/-- The sensors of a process that suspending it would end. -/
def suspendable (x : Suspension) (pid : Pid) : List SensorId :=
  (x.arbitration.registry.sensorsOf pid).filter fun s => !x.isExempt s

/-- Whether a process is suspended. -/
def isSuspended (x : Suspension) (pid : Pid) : Bool :=
  x.snapshots.contains pid

/-- Ends the subscriptions of a process to each of some sensors, and adds those
that ended to a snapshot. -/
def disableEach (pid : Pid) : List SensorId → Arbitration → Snapshot →
    BulkOutcome SensorId × Arbitration × Snapshot
  | [], a, saved => (.empty, a, saved)
  | s :: rest, a, saved =>
    match a.disable pid s with
    | (.ok disabled, a) =>
      let (outcome, a, saved) := disableEach pid rest a (saved.insert s disabled.request)
      (.done s ++ outcome, a, saved)
    | (.error e, a) =>
      let (outcome, a, saved) := disableEach pid rest a saved
      (.failure s e ++ outcome, a, saved)

/-- Suspends a process. One that is suspended already only has the rest of its
sensors tried again. -/
def suspend (x : Suspension) (pid : Pid) : BulkOutcome SensorId × Suspension :=
  match x.suspendable pid with
  | [] => (.empty, x)
  | sensors =>
    let (outcome, a, saved) := disableEach pid sensors x.arbitration (x.snapshots.getD pid ∅)
    (outcome, ⟨a, x.snapshots.insert pid saved⟩)

/-- Subscribes a process again as each of some entries says, and takes those
that worked out of a snapshot. -/
def enableEach (pid : Pid) : List (SensorId × Request) → Arbitration → Snapshot →
    BulkOutcome SensorId × Arbitration × Snapshot
  | [], a, saved => (.empty, a, saved)
  | (s, request) :: rest, a, saved =>
    match a.enable pid s request with
    | (.ok _, a) =>
      let (outcome, a, saved) := enableEach pid rest a (saved.erase s)
      (.done s ++ outcome, a, saved)
    | (.error e, a) =>
      let (outcome, a, saved) := enableEach pid rest a saved
      (.failure s e ++ outcome, a, saved)

/-- The snapshots with that of a process replaced, or dropped once it is
empty. -/
def keep (snapshots : Table Pid Snapshot) (pid : Pid) (saved : Snapshot) : Table Pid Snapshot :=
  if saved.isEmpty then snapshots.erase pid else snapshots.insert pid saved

/-- Resumes a process. -/
def resume (x : Suspension) (pid : Pid) :
    Except ServiceError (BulkOutcome SensorId) × Suspension :=
  match x.snapshots.get? pid with
  | none => (.error (.notSuspended pid), x)
  | some saved =>
    let (outcome, a, saved) := enableEach pid saved.entries x.arbitration saved
    (.ok outcome, ⟨a, keep x.snapshots pid saved⟩)

/-- Resumes each of some processes. -/
def resumeEach : List Pid → Suspension → BulkOutcome (Pid × SensorId) × Suspension
  | [], x => (.empty, x)
  | pid :: rest, x =>
    match x.resume pid with
    | (.ok outcome, x) =>
      let (later, x) := resumeEach rest x
      (outcome.map (fun s => (pid, s)) ++ later, x)
    | (.error _, x) => resumeEach rest x

/-- Resumes every suspended process. -/
def resumeAll (x : Suspension) : BulkOutcome (Pid × SensorId) × Suspension :=
  resumeEach x.snapshots.keys x

/-- Takes a sensor out of the snapshot of a process, so that resuming leaves it
off; answers what was saved of it. -/
def discard (x : Suspension) (pid : Pid) (s : SensorId) : Option Request × Suspension :=
  match x.snapshots.get? pid with
  | none => (none, x)
  | some saved => (saved.get? s, { x with snapshots := keep x.snapshots pid (saved.erase s) })

/-- Drops the snapshot of a process; answers what it was. -/
def forget (x : Suspension) (pid : Pid) : Option Snapshot × Suspension :=
  (x.snapshots.get? pid, { x with snapshots := x.snapshots.erase pid })

end Suspension
end SensorBroker
