/-
# What arbitration leaves alone

Enabling and disabling a sensor, suspending and resuming a process change who
subscribes to what, and nothing else that is recorded of a process: its data
channel, its identity, its tokens and whether it listens stay. The last event
of a sensor may be forgotten, and is when the sensor is switched off; none is
put in its place. No call to the hardware adds or takes a sensor, none is struck
from the log of a backend, and none raises a sample: what is raised in the
course of a call is the end of a flush at most.

Key definitions: `samples`, `Hardware.Equipped`, `Arbitration.Kept`.
Key theorems: `Arbitration.kept_enable`, `Arbitration.kept_disable`,
`Suspension.kept_suspend`, `Suspension.kept_resume`.
-/
import SensorBroker.Proofs.Service.Snapshots

namespace SensorBroker

/-- The events that carry samples. -/
def samples (es : List Event) : List Event :=
  es.filter fun e => !e.isFlushComplete

theorem samples_append (es fs : List Event) : samples (es ++ fs) = samples es ++ samples fs :=
  List.filter_append ..

namespace Hardware

/-- The same sensors are served by the same backends, and the logs of these have
only gone on. -/
structure Equipped (h h' : Hardware) : Prop where
  has : ∀ s, h'.has s = h.has s
  route : ∀ s, h'.route s = h.route s
  holds : ∀ slot, h'.Holds slot ↔ h.Holds slot
  logs : ∀ slot, h.Holds slot → (h.device slot).log <:+ (h'.device slot).log

theorem Equipped.refl (h : Hardware) : Equipped h h :=
  ⟨fun _ => rfl, fun _ => rfl, fun _ => .rfl, fun _ _ => List.suffix_rfl⟩

theorem Equipped.trans {h h' h'' : Hardware} (first : Equipped h h') (second : Equipped h' h'') :
    Equipped h h'' where
  has s := (second.has s).trans (first.has s)
  route s := (second.route s).trans (first.route s)
  holds slot := (second.holds slot).trans (first.holds slot)
  logs slot hslot := (first.logs slot hslot).trans
    (second.logs slot ((first.holds slot).2 hslot))

/-- What a call to the hardware does not change: which sensors there are and who
serves them, and the samples that were raised. -/
structure Kept (h h' : Hardware) : Prop extends Equipped h h' where
  samples : samples h'.raised = samples h.raised
  sensors : h'.sensors = h.sensors

theorem Kept.refl (h : Hardware) : Kept h h := ⟨.refl h, rfl, rfl⟩

theorem Kept.trans {h h' h'' : Hardware} (first : Kept h h') (second : Kept h' h'') :
    Kept h h'' where
  toEquipped := first.toEquipped.trans second.toEquipped
  samples := second.samples.trans first.samples
  sensors := second.sensors.trans first.sensors

theorem samples_eventsOf (d : Device) (c : DeviceCall) :
    SensorBroker.samples (d.eventsOf c) = [] := by
  unfold Device.eventsOf
  split
  · split_ifs
    · simp [SensorBroker.samples]
    · rfl
  · rfl

theorem samples_perform_device (d : Device) (c : DeviceCall) :
    SensorBroker.samples (d.perform c).raised = [] := by
  unfold Device.perform
  split
  · rfl
  · exact samples_eventsOf d c

/-- A backend may take the place of another if it goes on with its log. -/
theorem equipped_setDevice {h : Hardware} {d : Device} {slot : Slot}
    (hlog : (h.device slot).log <:+ d.log) : Equipped h (h.setDevice d slot) := by
  refine ⟨fun _ => ?_, fun _ => ?_, fun slot' => h.holds_setDevice d slot slot',
    fun slot' hslot' => ?_⟩
  · cases slot <;> rfl
  · cases slot <;> rfl
  · by_cases heq : slot' = slot
    · subst heq
      rwa [device_setDevice_self hslot']
    · have hsame := device_setDevice_of_ne (d := d) hslot' heq
      exact hsame ▸ List.suffix_rfl

theorem kept_perform (h : Hardware) (c : DeviceCall) : Kept h (h.perform c).2 := by
  unfold perform
  split
  · exact .refl h
  · next slot _ =>
    have hlog : (h.device slot).log <:+ ((h.device slot).perform c).device.log := by
      rw [Device.log_perform]
      exact List.suffix_cons _ _
    have hset := equipped_setDevice hlog
    refine ⟨⟨hset.has, hset.route, hset.holds, hset.logs⟩, ?_, ?_⟩
    · simp only [samples_append, samples_perform_device, List.append_nil]
    · cases slot <;> rfl

theorem kept_of_perform {h h' : Hardware} {c : DeviceCall} {r : Except HardwareError Unit}
    (hp : h.perform c = (r, h')) : Kept h h' := by
  have hkept := h.kept_perform c
  rwa [hp] at hkept

end Hardware

namespace Arbitration

/-- What arbitration does not change. -/
structure Kept (a a' : Arbitration) : Prop where
  channels : a'.registry.channels = a.registry.channels
  apps : a'.registry.apps = a.registry.apps
  tokens : a'.registry.tokens = a.registry.tokens
  listeners : a'.registry.listeners = a.registry.listeners
  lastEvents : ∀ {s e}, a'.registry.lastEvents.get? s = some e →
    a.registry.lastEvents.get? s = some e
  /-- The last event of a sensor that was switched off is forgotten. -/
  forgotten : ∀ {s}, a.isRunning s = true → a'.isRunning s = false →
    a'.registry.lastEvents.get? s = none
  hardware : a.hardware.Kept a'.hardware

/-- Nothing is switched off. -/
theorem Kept.of_isRunning {a a' : Arbitration} (channels : a'.registry.channels = a.registry.channels)
    (apps : a'.registry.apps = a.registry.apps) (tokens : a'.registry.tokens = a.registry.tokens)
    (listeners : a'.registry.listeners = a.registry.listeners)
    (lastEvents : a'.registry.lastEvents = a.registry.lastEvents)
    (running : ∀ s, a.isRunning s = true → a'.isRunning s = true)
    (hardware : a.hardware.Kept a'.hardware) : Kept a a' where
  channels := channels
  apps := apps
  tokens := tokens
  listeners := listeners
  lastEvents he := lastEvents ▸ he
  forgotten {s} hon hoff := by
    rw [running s hon] at hoff
    cases hoff
  hardware := hardware

theorem Kept.refl (a : Arbitration) : Kept a a :=
  .of_isRunning rfl rfl rfl rfl rfl (fun _ => id) (.refl _)

theorem Kept.trans {a a' a'' : Arbitration} (first : Kept a a') (second : Kept a' a'') :
    Kept a a'' where
  channels := second.channels.trans first.channels
  apps := second.apps.trans first.apps
  tokens := second.tokens.trans first.tokens
  listeners := second.listeners.trans first.listeners
  lastEvents h := first.lastEvents (second.lastEvents h)
  forgotten {s} hon hoff := by
    cases hbetween : a'.isRunning s with
    | true => exact second.forgotten hbetween hoff
    | false =>
      refine Option.eq_none_iff_forall_ne_some.2 fun e he => ?_
      have hbefore := second.lastEvents he
      rw [first.forgotten hon hbetween] at hbefore
      cases hbefore
  hardware := first.hardware.trans second.hardware

theorem Unmoved.kept {a a' : Arbitration} (h : a.Unmoved a') (hw : a.hardware.Kept a'.hardware) :
    Kept a a' := by
  refine .of_isRunning h.registry.channels h.registry.apps h.registry.tokens h.registry.listeners
    h.registry.lastEvents (fun s hon => ?_) hw
  rwa [isRunning, h.active]

/-- Noting that a sensor runs switches none off. -/
theorem isRunning_store {a : Arbitration} {s s' : SensorId} (h : a.isRunning s' = true) :
    (a.store s).isRunning s' = true := by
  unfold isRunning store
  rw [Table.get?_insert]
  split_ifs
  · rfl
  · exact h

/-! ### The hardware along a request -/

theorem Programs.kept {a : Arbitration} {s : SensorId} {h : Hardware} (hp : a.Programs s h) :
    a.hardware.Kept h := by
  rcases hp with ⟨-, rfl⟩ | ⟨-, hb⟩
  · exact .refl _
  · exact Hardware.kept_of_perform hb

theorem SwitchesOn.kept {a : Arbitration} {s : SensorId} {h : Hardware} (hp : a.SwitchesOn s h) :
    a.hardware.Kept h := by
  rcases hp with ⟨-, rfl⟩ | ⟨-, hb⟩
  · exact .refl _
  · exact Hardware.kept_of_perform hb

theorem EnableFailure.kept {a : Arbitration} {s : SensorId} {h : Hardware}
    (hf : a.EnableFailure s h) : a.hardware.Kept h := by
  cases hf with
  | notTold hb => exact Hardware.kept_of_perform hb
  | notOn hb _ he => exact hb.kept.trans (Hardware.kept_of_perform he)

theorem DisableFailure.kept {a : Arbitration} {s : SensorId} {h : Hardware}
    (hf : a.DisableFailure s h) : a.hardware.Kept h := by
  obtain ⟨c, e, hc⟩ := hf.perform_error
  exact Hardware.kept_of_perform hc

theorem DisableSuccess.kept {a a' : Arbitration} {s : SensorId} {off : Bool}
    (h : a.DisableSuccess s off a') : Kept a a' := by
  cases h with
  | shared _ hb => exact .of_isRunning rfl rfl rfl rfl rfl (fun _ => isRunning_store) hb.kept
  | last _ hd =>
    refine ⟨rfl, rfl, rfl, rfl, fun {s' e} he => ?_, fun {s'} hon hoff => ?_,
      Hardware.kept_of_perform hd⟩
    · have hget : (a.registry.lastEvents.erase s).get? s' = some e := he
      rw [Table.get?_erase] at hget
      split_ifs at hget
      exact hget
    · by_cases hs : s' = s
      · exact hs ▸ Table.get?_erase_self ..
      · have hsame : (a.active.erase s).get? s' = a.active.get? s' := Table.get?_erase_of_ne _ hs
        unfold isRunning at hon
        unfold isRunning Arbitration.off at hoff
        rw [hsame, hon] at hoff
        cases hoff

/-! ### Requests -/

theorem kept_enable (a : Arbitration) (pid : Pid) (s : SensorId) (request : Request) :
    Kept a (a.enable pid s request).2 := by
  rcases he : a.enable pid s request with ⟨e | outcome, a'⟩
  · rcases enable_error he with ⟨-, rfl⟩ | ⟨_, -, hu, hfail, -⟩
    · exact .refl _
    · exact hu.kept hfail.kept
  · obtain ⟨_, hw, hw', -, hb, hon, rfl, -, -⟩ := enable_ok he
    exact .of_isRunning rfl rfl rfl rfl rfl (fun _ hr => isRunning_store hr) (hb.kept.trans hon.kept)

theorem kept_disable (a : Arbitration) (pid : Pid) (s : SensorId) :
    Kept a (a.disable pid s).2 := by
  rcases hd : a.disable pid s with ⟨e | outcome, a'⟩
  · rcases disable_error hd with ⟨-, -, rfl⟩ | ⟨-, -, hu, hfail⟩
    · exact .refl _
    · exact hu.kept hfail.kept
  · have hwithout : Kept a (a.without pid s) :=
      .of_isRunning rfl rfl rfl rfl rfl (fun _ => id) (.refl _)
    exact hwithout.trans (disable_ok hd).2.kept

theorem kept_perform (a : Arbitration) (c : DeviceCall) : Kept a (a.perform c).2 := by
  rw [perform_snd]
  exact .of_isRunning rfl rfl rfl rfl rfl (fun _ => id) (a.hardware.kept_perform c)

theorem Kept.of_enable {a a' : Arbitration} {pid : Pid} {s : SensorId} {request : Request}
    {r : Except ServiceError EnableOutcome} (he : a.enable pid s request = (r, a')) :
    Kept a a' := by
  have hkept := a.kept_enable pid s request
  rwa [he] at hkept

theorem Kept.of_disable {a a' : Arbitration} {pid : Pid} {s : SensorId}
    {r : Except ServiceError DisableOutcome} (hd : a.disable pid s = (r, a')) : Kept a a' := by
  have hkept := a.kept_disable pid s
  rwa [hd] at hkept

end Arbitration

namespace Suspension

theorem kept_disableEach (pid : Pid) (sensors : List SensorId) (a : Arbitration)
    (saved : Snapshot) : a.Kept (disableEach pid sensors a saved).2.1 :=
  disableEach_induction (P := fun a' _ => a.Kept a') pid
    (fun ha hd => ha.trans (.of_disable hd)) (fun ha hd => ha.trans (.of_disable hd)) _ (.refl _)

theorem kept_enableEach (pid : Pid) (entries : List (SensorId × Request)) (a : Arbitration)
    (saved : Snapshot) : a.Kept (enableEach pid entries a saved).2.1 :=
  enableEach_induction (P := fun a' _ => a.Kept a') pid _
    (fun _ ha he => ha.trans (.of_enable he)) (fun _ ha he => ha.trans (.of_enable he)) (.refl _)

theorem kept_suspend (x : Suspension) (pid : Pid) :
    x.arbitration.Kept (x.suspend pid).2.arbitration := by
  unfold suspend
  split
  · exact .refl _
  · exact kept_disableEach ..

theorem kept_resume (x : Suspension) (pid : Pid) :
    x.arbitration.Kept (x.resume pid).2.arbitration := by
  unfold resume
  split
  · exact .refl _
  · exact kept_enableEach ..

theorem kept_resumeEach : ∀ (pids : List Pid) (x : Suspension),
    x.arbitration.Kept (resumeEach pids x).2.arbitration
  | [], x => .refl _
  | pid :: rest, x => by
    have hhead := x.kept_resume pid
    rw [resumeEach]
    split
    · next h =>
      rw [h] at hhead
      exact hhead.trans (kept_resumeEach rest _)
    · next h =>
      rw [h] at hhead
      exact hhead.trans (kept_resumeEach rest _)

end Suspension
end SensorBroker
