/-
# The moves that every operation is made of

Whatever a broker is asked, its hardware, records and snapshots go through a
sequence of a few kinds of moves (`Suspension.Move`): a sensor is enabled or
disabled for a process, a process is suspended or resumed, something is taken
out of a snapshot, a call goes to the hardware that switches nothing, a mock
comes or goes, events are raised or collected, records change that are no
subscriptions. What every move preserves, every run does.

A move that enables carries which process may subscribe to which sensor, one
that suspends which process may be suspended, and one that ends a mock which
mock may end, so that what happens without a certain request can be spoken of
too.

Arbitration sees of a move only single requests and what goes on around them
(`Arbitration.Step`): suspending is disabling one sensor after the other, and
resuming is enabling.

Key definitions: `Arbitration.Step`, `Arbitration.Steps`, `Suspension.Move`,
`Suspension.Moves`.
Key theorems: `Arbitration.Step.consistent`, `Suspension.disableEach_induction`,
`Suspension.enableEach_induction`, `Suspension.Move.steps`,
`Suspension.Moves.consistent`.
-/
import Mathlib.Logic.Relation
import SensorBroker.Proofs.Service.Settled
import SensorBroker.Service.Suspension

namespace SensorBroker

/-! ### Steps of arbitration -/

namespace Arbitration

/-- One thing that happens to arbitration: a request of a process about a
sensor, or a call that switches nothing, a mock that comes or goes, events, and
records that are no subscriptions. -/
inductive Step : Arbitration → Arbitration → Prop
  | enable {a} (pid : Pid) (s : SensorId) (request : Request) : Step a (a.enable pid s request).2
  | disable {a} (pid : Pid) (s : SensorId) : Step a (a.disable pid s).2
  | call {a c} (passing : Passing c) : Step a (a.perform c).2
  | inject {a} (s : SensorId) : Step a { a with hardware := (a.hardware.inject s).2 }
  | withdraw {a} (s : SensorId) : Step a { a with hardware := (a.hardware.withdraw s).2 }
  | raise {a} (es : List Event) : Step a { a with hardware := { a.hardware with raised := es } }
  | record {a} {r : Registry} (same : ∀ s, r.subscriptionsOf s = a.registry.subscriptionsOf s) :
    Step a { a with registry := r }

/-- Steps one after the other. -/
abbrev Steps : Arbitration → Arbitration → Prop :=
  Relation.ReflTransGen Step

/-- **Every step keeps every sensor settled.** -/
theorem Step.consistent {a a' : Arbitration} (m : Step a a') (h : a.Consistent) :
    a'.Consistent := by
  cases m with
  | enable pid s request => exact h.enable pid s request
  | disable pid s => exact h.disable pid s
  | call passing => exact h.perform passing
  | inject s =>
    exact h.congr (h.sound.inject s) rfl rfl fun s' =>
      ⟨rfl, Hardware.runs_inject .., Hardware.told_inject ..⟩
  | withdraw s =>
    exact h.congr (h.sound.withdraw s) rfl rfl fun s' =>
      ⟨rfl, Hardware.runs_withdraw .., Hardware.told_withdraw ..⟩
  | raise es => exact h.congr (h.sound.setRaised es) rfl rfl fun _ => ⟨rfl, rfl, rfl⟩
  | record same => exact h.congr h.sound rfl rfl fun s => ⟨same s, rfl, rfl⟩

theorem Steps.consistent {a a' : Arbitration} (m : Steps a a') (h : a.Consistent) :
    a'.Consistent := by
  induction m with
  | refl => exact h
  | tail _ step ih => exact step.consistent ih

end Arbitration

namespace Suspension

/-! ### Sensor by sensor -/

/-- Suspending preserves what disabling one sensor after the other does. -/
theorem disableEach_induction {P : Arbitration → Snapshot → Prop} (pid : Pid)
    (done : ∀ {s a a' saved outcome}, P a saved → a.disable pid s = (.ok outcome, a') →
      P a' (saved.insert s outcome.request))
    (failed : ∀ {s a a' saved e}, P a saved → a.disable pid s = (.error e, a') → P a' saved) :
    ∀ (sensors : List SensorId) {a : Arbitration} {saved : Snapshot}, P a saved →
      P (disableEach pid sensors a saved).2.1 (disableEach pid sensors a saved).2.2
  | [], _, _, h => h
  | s :: rest, a, saved, h => by
    rw [disableEach]
    rcases hd : a.disable pid s with ⟨e | outcome, a'⟩
    · exact disableEach_induction (P := P) pid done failed rest (failed h hd)
    · exact disableEach_induction (P := P) pid done failed rest (done h hd)

/-- Resuming preserves what enabling each sensor of a snapshot does. -/
theorem enableEach_induction {P : Arbitration → Snapshot → Prop} (pid : Pid) :
    ∀ (entries : List (SensorId × Request)) {a : Arbitration} {saved : Snapshot}
      (_done : ∀ {s request a a' saved outcome}, (s, request) ∈ entries → P a saved →
        a.enable pid s request = (.ok outcome, a') → P a' (saved.erase s))
      (_failed : ∀ {s request a a' saved e}, (s, request) ∈ entries → P a saved →
        a.enable pid s request = (.error e, a') → P a' saved), P a saved →
      P (enableEach pid entries a saved).2.1 (enableEach pid entries a saved).2.2
  | [], _, _, _, _, h => h
  | (s, request) :: rest, a, saved, done, failed, h => by
    rw [enableEach]
    have hhead : (s, request) ∈ (s, request) :: rest := List.mem_cons_self
    rcases hd : a.enable pid s request with ⟨e | outcome, a'⟩
    · exact enableEach_induction (P := P) pid rest (fun hmem => done (List.mem_cons_of_mem _ hmem))
        (fun hmem => failed (List.mem_cons_of_mem _ hmem)) (failed hhead h hd)
    · exact enableEach_induction (P := P) pid rest (fun hmem => done (List.mem_cons_of_mem _ hmem))
        (fun hmem => failed (List.mem_cons_of_mem _ hmem)) (done hhead h hd)

/-! ### Moves -/

/-- The same snapshots over another state of arbitration. -/
def setArbitration (x : Suspension) (a : Arbitration) : Suspension :=
  { x with arbitration := a }

/-- The same over other hardware. -/
def setHardware (x : Suspension) (h : Hardware) : Suspension :=
  x.setArbitration { x.arbitration with hardware := h }

/-- The same over other records. -/
def setRegistry (x : Suspension) (r : Registry) : Suspension :=
  x.setArbitration { x.arbitration with registry := r }

/-- One thing that happens to hardware, records and snapshots, where `grants`
says which process may subscribe to which sensor, `freezes` which process may
be suspended, and `drops` which mock may end. -/
inductive Move (grants : Pid → SensorId → Prop) (freezes : Pid → Prop)
    (drops : SensorId → Prop) :
    Suspension → Suspension → Prop
  | enable {x pid s} (request : Request) (granted : grants pid s) :
    Move grants freezes drops x (x.setArbitration (x.arbitration.enable pid s request).2)
  | disable {x} (pid : Pid) (s : SensorId) :
    Move grants freezes drops x (x.setArbitration (x.arbitration.disable pid s).2)
  | suspend {x pid} (frozen : freezes pid) : Move grants freezes drops x (x.suspend pid).2
  | resume {x} (pid : Pid) : Move grants freezes drops x (x.resume pid).2
  | discard {x} (pid : Pid) (s : SensorId) : Move grants freezes drops x (x.discard pid s).2
  | forget {x} (pid : Pid) : Move grants freezes drops x (x.forget pid).2
  | call {x c} (passing : Arbitration.Passing c) :
    Move grants freezes drops x (x.setArbitration (x.arbitration.perform c).2)
  | inject {x} (s : SensorId) :
    Move grants freezes drops x (x.setHardware (x.arbitration.hardware.inject s).2)
  | withdraw {x s} (dropped : drops s) :
    Move grants freezes drops x (x.setHardware (x.arbitration.hardware.withdraw s).2)
  | raise {x} (es : List Event) :
    Move grants freezes drops x (x.setHardware { x.arbitration.hardware with raised := es })
  | record {x} {r : Registry}
    (same : ∀ s, r.subscriptionsOf s = x.arbitration.registry.subscriptionsOf s) :
    Move grants freezes drops x (x.setRegistry r)

/-- Moves one after the other. -/
abbrev Moves (grants : Pid → SensorId → Prop) (freezes : Pid → Prop)
    (drops : SensorId → Prop) :
    Suspension → Suspension → Prop :=
  Relation.ReflTransGen (Move grants freezes drops)

theorem arbitration_discard (x : Suspension) (pid : Pid) (s : SensorId) :
    (x.discard pid s).2.arbitration = x.arbitration := by
  unfold discard
  split <;> rfl

/-- A move is steps of arbitration. -/
theorem Move.steps {grants : Pid → SensorId → Prop} {freezes : Pid → Prop}
    {drops : SensorId → Prop} {x y : Suspension} (m : Move grants freezes drops x y) :
    Arbitration.Steps x.arbitration y.arbitration := by
  cases m with
  | enable request _ => exact .single (.enable _ _ request)
  | disable pid s => exact .single (.disable pid s)
  | @suspend pid _ =>
    unfold Suspension.suspend
    split
    · exact .refl
    · exact disableEach_induction (P := fun a _ => Arbitration.Steps x.arbitration a) pid
        (fun {s _ _ _ _} ha hd => by simpa only [hd] using ha.tail (.disable pid s))
        (fun {s _ _ _ _} ha hd => by simpa only [hd] using ha.tail (.disable pid s)) _ .refl
  | resume pid =>
    unfold Suspension.resume
    split
    · exact .refl
    · exact enableEach_induction (P := fun a _ => Arbitration.Steps x.arbitration a) pid _
        (fun {s request _ _ _ _} _ ha he => by
          simpa only [he] using ha.tail (.enable pid s request))
        (fun {s request _ _ _ _} _ ha he => by
          simpa only [he] using ha.tail (.enable pid s request)) .refl
  | discard pid s => rw [arbitration_discard]
  | forget pid => exact .refl
  | call passing => exact .single (.call passing)
  | inject s => exact .single (.inject s)
  | @withdraw s _ => exact .single (.withdraw s)
  | raise es => exact .single (.raise es)
  | record same => exact .single (.record same)

theorem Moves.steps {grants : Pid → SensorId → Prop} {freezes : Pid → Prop}
    {drops : SensorId → Prop} {x y : Suspension} (m : Moves grants freezes drops x y) :
    Arbitration.Steps x.arbitration y.arbitration := by
  induction m with
  | refl => exact .refl
  | tail _ move ih => exact ih.trans move.steps

/-- **Moves keep every sensor settled.** -/
theorem Moves.consistent {grants : Pid → SensorId → Prop} {freezes : Pid → Prop}
    {drops : SensorId → Prop} {x y : Suspension} (m : Moves grants freezes drops x y)
    (h : x.arbitration.Consistent) : y.arbitration.Consistent :=
  m.steps.consistent h

end Suspension
end SensorBroker
