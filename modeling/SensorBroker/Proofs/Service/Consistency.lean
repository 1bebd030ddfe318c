/-
# Backends do what the subscribers of a sensor want

In every broker that any run leads to, whatever was refused on the way, three
records of a sensor agree: a backend has it reporting exactly when somebody
subscribes to it, and exactly then arbitration has noted that it runs. And a
sensor that somebody subscribes to was last told the least period and the
least delay that any of its subscribers asks for.

Key theorems: `Broker.Reachable.reports_iff_subscribed`.
-/
import Mathlib.Order.Bounds.Basic
import SensorBroker.Proofs.Service.Operation

namespace SensorBroker

/-! ### The least of what is asked -/

theorem isLeast_leastOf (default : Nanos) {values : List Nanos} (h : values ≠ []) :
    IsLeast {x | x ∈ values} (leastOf default values) := by
  cases values with
  | nil => exact absurd rfl h
  | cons x rest =>
    have hmin : (x :: rest).min? = some (leastOf default (x :: rest)) := rfl
    obtain ⟨hmem, hle⟩ := List.min?_eq_some_iff.1 hmin
    exact ⟨hmem, fun y hy => hle y hy⟩

namespace Registry

/-- What the subscribers of a sensor ask of it. -/
def requests (r : Registry) (s : SensorId) : Set Request :=
  {request | ∃ pid, r.subscription pid s = some request}

theorem mem_values_iff (r : Registry) (s : SensorId) {request : Request} :
    request ∈ (r.subscriptionsOf s).values ↔ request ∈ r.requests s := by
  simp only [Table.values, List.mem_map, requests, Set.mem_ofPred_eq, subscription,
    ← Table.mem_entries_iff]
  constructor
  · rintro ⟨⟨pid, _⟩, hmem, rfl⟩
    exact ⟨pid, hmem⟩
  · rintro ⟨pid, hmem⟩
    exact ⟨(pid, request), hmem, rfl⟩

/-- The merged parameters are the least of those asked for. -/
theorem isLeast_merged (r : Registry) (settings : ServiceSettings) {s : SensorId}
    (h : r.subscriptionsOf s ≠ ∅) :
    IsLeast (Request.period '' r.requests s) (r.merged settings s).period ∧
      IsLeast (Request.delay '' r.requests s) (r.merged settings s).delay := by
  have hne : (r.subscriptionsOf s).values ≠ [] := fun hnil => by
    have hentries : (r.subscriptionsOf s).entries = [] := List.map_eq_nil_iff.1 hnil
    exact h (Table.isEmpty_iff_eq.1 (List.isEmpty_iff.2 hentries))
  have himage (f : Request → Nanos) :
      f '' r.requests s = {x | x ∈ (r.subscriptionsOf s).values.map f} := by
    ext x
    simp only [Set.mem_image, ← mem_values_iff, Set.mem_ofPred_eq, List.mem_map]
  rw [himage, himage]
  exact ⟨isLeast_leastOf _ (by simpa using hne), isLeast_leastOf _ (by simpa using hne)⟩

end Registry

namespace Broker

/-- **Backends, subscriptions and notes agree**, and a sensor that has
subscribers was last told the least period and delay any of them asks for. -/
theorem Reachable.reports_iff_subscribed {b : Broker} (hb : b.Reachable) (s : SensorId) :
    ((∃ d ∈ b.hardware.devices, d.reports s = true) ↔ b.registry.subscribers s ≠ []) ∧
      (b.registry.subscribers s ≠ [] ↔ b.arbitration.active.contains s = true) ∧
      (b.registry.subscribers s ≠ [] → ∃ r : Request,
        (∃ d ∈ b.hardware.devices, d.reports s = true ∧ d.programmed s = some r) ∧
        (∀ d ∈ b.hardware.devices, ∀ r', d.programmed s = some r' → r' = r) ∧
        IsLeast (Request.period '' b.registry.requests s) r.period ∧
        IsLeast (Request.delay '' b.registry.requests s) r.delay) := by
  have hc := hb.consistent
  have hsound : b.hardware.Sound := hc.sound
  rw [hsound.reports_iff s, ne_eq, b.registry.subscribers_eq_nil_iff s]
  cases hc.settled s with
  | idle unwanted unnoted stopped =>
    have hsub : b.registry.subscriptionsOf s = ∅ := unwanted
    have hstop : b.hardware.runs s = false := stopped
    simp [hsub, hstop, Table.contains, unnoted]
  | running subscribed noted _ _ runs told =>
    have hruns : b.hardware.runs s = true := runs
    have htold : b.hardware.told s = some (b.arbitration.wanted s) := told
    refine ⟨iff_of_true hruns subscribed, iff_of_true subscribed (by simp [Table.contains, noted]),
      fun _ => ⟨b.arbitration.wanted s, ?_, fun d hd r' hr' => ?_, ?_⟩⟩
    · obtain ⟨slot, hhome, hreports⟩ := Hardware.runs_iff.1 hruns
      obtain ⟨slot', hhome', hprogrammed⟩ := Hardware.told_eq_some_iff.1 htold
      have heq : slot' = slot := Option.some.inj (hhome'.symm.trans hhome)
      exact ⟨_, Hardware.mem_devices_iff.2 ⟨slot, hsound.home_holds hhome, rfl⟩, hreports,
        heq ▸ hprogrammed⟩
    · exact Option.some.inj ((hsound.programmed_eq hd hr').symm.trans htold)
    · exact b.registry.isLeast_merged _ subscribed

/-- Two processes share the accelerometer; one of them is suspended later, and
what the other asks is what counts. -/
theorem reports_shared :
    let b := trial.run [.enable ⟨100, 1000, 7⟩ .accelerometer ⟨1000000, 5⟩,
      .enable ⟨200, 1000, 8⟩ .accelerometer ⟨2000000, 9⟩, .suspend 100]
    b.registry.subscribers .accelerometer = [200] ∧ ∃ r : Request,
      (∃ d ∈ b.hardware.devices, d.reports .accelerometer = true ∧
        d.programmed .accelerometer = some r) ∧
      IsLeast (Request.period '' b.registry.requests .accelerometer) r.period := by
  have hreach := reachable_trial.run [.enable ⟨100, 1000, 7⟩ .accelerometer ⟨1000000, 5⟩,
    .enable ⟨200, 1000, 8⟩ .accelerometer ⟨2000000, 9⟩, .suspend 100]
  obtain ⟨-, -, hrun⟩ := hreach.reports_iff_subscribed .accelerometer
  have hsub : (trial.run [.enable ⟨100, 1000, 7⟩ .accelerometer ⟨1000000, 5⟩,
    .enable ⟨200, 1000, 8⟩ .accelerometer ⟨2000000, 9⟩, .suspend 100]).registry.subscribers
      .accelerometer = [200] := by decide
  obtain ⟨r, hdevice, -, hleast, -⟩ := hrun (by rw [hsub]; decide)
  exact ⟨hsub, r, hdevice, hleast⟩

end Broker
end SensorBroker
