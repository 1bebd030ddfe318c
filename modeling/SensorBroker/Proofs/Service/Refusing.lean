/-
# A request that is refused leaves no trace that counts

A request about a sensor is refused because it makes no sense, because there is
nothing to end, or because a backend would not do one of the calls it takes.
By then the records may have been changed and the sensor may have been told new
parameters. What is left of all that is this: the records and the notes of
running sensors are what they were, and the backends have logged some calls.

Which calls those are matters for one sensor only. A refused call does nothing
at its backend, so what is to be looked at are the parameters that were taken
before a later call was refused. That later call switches on, and so the sensor
they are for did not run (`Arbitration.Refused.onlyLogged`). No running sensor was
told anything.

Key definitions: `Hardware.OnlyLogged`, `Arbitration.Refused`.
Key theorems: `Hardware.onlyLogged_of_perform_error`, `Arbitration.Refused.unmoved`,
`Arbitration.Refused.onlyLogged`, `Arbitration.Refused.undone`.
-/
import SensorBroker.Proofs.Service.Moves
import SensorBroker.Proofs.Service.Pairs

namespace SensorBroker

/-! ### What backends have logged -/

namespace Hardware

variable {h h' h'' : Hardware} {p q : SensorId → Prop} {slot : Slot} {c : DeviceCall}

/-- At every backend just the log differs, and of the sensors in question none
took parameters since. -/
structure OnlyLogged (p : SensorId → Prop) (h h' : Hardware) : Prop where
  frame : h' = { h with vendor := h'.vendor, built := h'.built }
  holds : ∀ slot, h'.Holds slot ↔ h.Holds slot
  device : ∀ {slot}, h.Holds slot →
    h'.device slot = { h.device slot with log := (h'.device slot).log }
  programmed : ∀ {slot}, h.Holds slot → ∀ s, p s →
    (h'.device slot).programmed s = (h.device slot).programmed s

theorem OnlyLogged.refl (p : SensorId → Prop) (h : Hardware) : OnlyLogged p h h :=
  ⟨rfl, fun _ => Iff.rfl, fun _ => rfl, fun _ _ _ => rfl⟩

theorem OnlyLogged.mono (hl : OnlyLogged p h h') (hqp : ∀ s, q s → p s) : OnlyLogged q h h' :=
  ⟨hl.frame, hl.holds, hl.device, fun hslot s hs => hl.programmed hslot s (hqp s hs)⟩

theorem OnlyLogged.trans (hl : OnlyLogged p h h') (hl' : OnlyLogged p h' h'') :
    OnlyLogged p h h'' where
  frame := by
    rw [hl'.frame, hl.frame]
  holds slot := (hl'.holds slot).trans (hl.holds slot)
  device hslot := by
    rw [hl'.device ((hl.holds _).2 hslot), hl.device hslot]
  programmed hslot s hs :=
    (hl'.programmed ((hl.holds _).2 hslot) s hs).trans (hl.programmed hslot s hs)

theorem OnlyLogged.reports (hl : OnlyLogged p h h') (hslot : h.Holds slot) (s : SensorId) :
    (h'.device slot).reports s = (h.device slot).reports s := by
  rw [hl.device hslot]
  rfl

/-- A call that some backend only logs is only logged there. -/
theorem OnlyLogged.setDevice {d : Device} (hd : d = { h.device slot with log := d.log })
    (htold : ∀ s, p s → d.programmed s = (h.device slot).programmed s) :
    OnlyLogged p h (h.setDevice d slot) where
  frame := by cases slot <;> rfl
  holds := h.holds_setDevice d slot
  device {slot'} hslot := by
    by_cases heq : slot' = slot
    · subst heq
      rw [device_setDevice_self hslot]
      exact hd
    · rw [device_setDevice_of_ne hslot heq]
  programmed {slot'} hslot s hs := by
    by_cases heq : slot' = slot
    · subst heq
      rw [device_setDevice_self hslot]
      exact htold s hs
    · rw [device_setDevice_of_ne hslot heq]

/-- A call is only logged where that is all its backend does about it. -/
theorem OnlyLogged.perform
    (hd : ∀ slot, h.route c.sensor = .ok slot →
      ((h.device slot).perform c).device.enabled = (h.device slot).enabled ∧
        ((h.device slot).perform c).raised = [] ∧
        ∀ s, p s →
          ((h.device slot).perform c).device.programmed s = (h.device slot).programmed s) :
    OnlyLogged p h (h.perform c).2 := by
  unfold Hardware.perform
  cases hroute : h.route c.sensor with
  | error e => exact .refl p h
  | ok slot =>
    obtain ⟨henabled, hraised, htold⟩ := hd slot hroute
    simp only [hraised, List.append_nil]
    have hdevice : ((h.device slot).perform c).device =
        { h.device slot with log := ((h.device slot).perform c).device.log } := by
      cases hv : (h.device slot).verdict c with
      | some e => rw [Device.perform_refused hv]
      | none =>
        rw [Device.perform_accepted hv] at henabled ⊢
        simp only at henabled
        simp only [henabled]
    have hset := OnlyLogged.setDevice hdevice htold
    have hsame : (h.setDevice ((h.device slot).perform c).device slot).raised = h.raised := by
      cases slot <;> rfl
    rw [← hsame]
    exact hset

/-- A call that is refused is only logged. -/
theorem onlyLogged_of_perform_error {e : HardwareError} (hp : h.perform c = (.error e, h'))
    (p : SensorId → Prop) : OnlyLogged p h h' := by
  have hlogged : OnlyLogged p h (h.perform c).2 := by
    apply OnlyLogged.perform
    intro slot hroute
    have hresult : ((h.device slot).perform c).result = .error e := by
      have hfst := congrArg Prod.fst hp
      simpa only [Hardware.perform, hroute] using hfst
    cases hv : (h.device slot).verdict c with
    | some e' =>
      refine ⟨?_, ?_, fun s _ => (Device.perform_error hresult s).2⟩
      · rw [Device.perform_refused hv]
      · rw [Device.perform_refused hv]
    | none =>
      rw [Device.perform_accepted hv] at hresult
      cases hresult
  rwa [hp] at hlogged

/-- A sensor that takes parameters does nothing else, and no other sensor does
anything. -/
theorem onlyLogged_of_setBatch {s : SensorId} {r : Request}
    (hp : h.perform (.setBatch s r) = (.ok (), h')) : OnlyLogged (· ≠ s) h h' := by
  have hlogged : OnlyLogged (· ≠ s) h (h.perform (.setBatch s r)).2 := by
    apply OnlyLogged.perform
    intro slot hroute
    have hresult : ((h.device slot).perform (.setBatch s r)).result = .ok () := by
      have hfst := congrArg Prod.fst hp
      simpa only [Hardware.perform, hroute] using hfst
    cases hv : (h.device slot).verdict (.setBatch s r) with
    | some e' =>
      rw [Device.perform_refused hv] at hresult
      cases hresult
    | none =>
      refine ⟨?_, ?_, fun s' hne => ?_⟩
      · rw [Device.perform_accepted hv]
        rfl
      · rw [Device.perform_accepted hv]
        rfl
      · rw [(Device.perform_ok hresult s').2]
        exact DeviceCall.programmedAfter_of_ne (Ne.symm hne) _
  rwa [hp] at hlogged

end Hardware

namespace Arbitration

variable {a a' : Arbitration} {pid : Pid} {s : SensorId}

/-! ### Requests that are refused -/

/-- A process asks to enable or to disable a sensor, and is refused. -/
inductive Refused (a : Arbitration) (pid : Pid) (s : SensorId) : Arbitration → Prop
  | enable {request : Request} {e : ServiceError} {a' : Arbitration}
    (failed : a.enable pid s request = (.error e, a')) : Refused a pid s a'
  | disable {e : ServiceError} {a' : Arbitration}
    (failed : a.disable pid s = (.error e, a')) : Refused a pid s a'

theorem Unmoved.refl (a : Arbitration) : a.Unmoved a :=
  ⟨rfl, rfl, fun _ => rfl, rfl, rfl, rfl, rfl, rfl⟩

/-- What was recorded and noted is as it was. -/
theorem Refused.unmoved (refused : a.Refused pid s a') : a.Unmoved a' := by
  cases refused with
  | enable failed =>
    rcases enable_error failed with ⟨-, rfl⟩ | ⟨_, -, hunmoved, -⟩
    · exact .refl _
    · exact hunmoved
  | disable failed =>
    rcases disable_error failed with ⟨-, -, rfl⟩ | ⟨-, -, hunmoved, -⟩
    · exact .refl _
    · exact hunmoved

/-- What a sensor was told on the way to be switched on is told to no other
sensor. -/
theorem Programs.onlyLogged {hw : Hardware} (hp : a.Programs s hw) :
    a.hardware.OnlyLogged (· ≠ s) hw := by
  rcases hp with ⟨-, rfl⟩ | ⟨-, hb⟩
  · exact .refl _ _
  · exact Hardware.onlyLogged_of_setBatch hb

/-- The backends have only logged what was asked of them, and no running sensor
was told anything. -/
theorem Refused.onlyLogged (refused : a.Refused pid s a') :
    a.hardware.OnlyLogged (fun s' => s' ≠ s ∨ a.isRunning s' = true) a'.hardware := by
  cases refused with
  | enable failed =>
    rcases enable_error failed with ⟨-, rfl⟩ | ⟨period, -, -, hfailure, -⟩
    · exact .refl _ _
    · cases hfailure with
      | notTold hb => exact Hardware.onlyLogged_of_perform_error hb _
      | notOn hb hr hon =>
        -- parameters were taken, but by a sensor that did not run
        have htold := hb.onlyLogged
        have hoff : a.isRunning s = false := hr
        refine (htold.trans (Hardware.onlyLogged_of_perform_error hon _)).mono ?_
        rintro s' (hne | hrunning) rfl
        · exact hne rfl
        · rw [hoff] at hrunning
          cases hrunning
  | disable failed =>
    rcases disable_error failed with ⟨-, -, rfl⟩ | ⟨-, -, -, hfailure⟩
    · exact .refl _ _
    · obtain ⟨c, e', hc⟩ := hfailure.perform_error
      exact Hardware.onlyLogged_of_perform_error hc _

/-! ### Generations of other sensors -/

theorem generation_setSubscribers_of_ne (r : Registry) {s' : SensorId} (t : Table Pid Request)
    (hne : s' ≠ s) : (r.setSubscribers s t).generation s' = r.generation s' := by
  rw [Registry.generation_setSubscribers, if_neg fun heq => hne (Option.some.inj heq).symm,
    Nat.add_zero]

theorem generation_rollBack_of_ne (a : Arbitration) (pid : Pid) {s' : SensorId}
    (previous : Option Request) (hne : s' ≠ s) :
    (a.rollBack pid s previous).registry.generation s' = a.registry.generation s' := by
  unfold rollBack
  cases previous with
  | some request => exact generation_setSubscribers_of_ne _ _ hne
  | none =>
    simp only [Registry.remove]
    cases a.registry.subscription pid s with
    | some old => exact generation_setSubscribers_of_ne _ _ hne
    | none => rfl

/-- The records of a request that is refused are changed for its sensor only,
and back again. -/
theorem Refused.generation_of_ne (refused : a.Refused pid s a') {s' : SensorId} (hne : s' ≠ s) :
    a'.registry.generation s' = a.registry.generation s' := by
  cases refused with
  | @enable request e _ failed =>
    cases hp : a.effectivePeriod s request with
    | error e' =>
      simp only [Arbitration.enable, hp] at failed
      cases failed
      rfl
    | ok period =>
      have hasking : (a.asking pid s ⟨period, request.delay⟩).registry.generation s' =
          a.registry.generation s' := generation_setSubscribers_of_ne _ _ hne
      rw [enable_of_effectivePeriod hp] at failed
      rcases hprog : (a.asking pid s ⟨period, request.delay⟩).program s with ⟨e' | told, a₁⟩
      · obtain ⟨_, hw, -, -, -, rfl⟩ := program_error hprog
        rw [hprog] at failed
        cases failed
        exact (generation_rollBack_of_ne _ pid _ hne).trans hasking
      · obtain ⟨hw, -, rfl, -⟩ := program_ok hprog
        simp only [hprog] at failed
        rcases hon : switchOn { a.asking pid s ⟨period, request.delay⟩ with hardware := hw } s
          with ⟨e' | _, a₂⟩
        · obtain ⟨_, hw', -, -, -, rfl⟩ := switchOn_error hon
          rw [hon] at failed
          cases failed
          exact (generation_rollBack_of_ne _ pid _ hne).trans hasking
        · rw [hon] at failed
          cases failed
  | disable failed =>
    cases hp : a.registry.subscription pid s with
    | none =>
      rw [disable_of_not_subscribed hp] at failed
      cases failed
      rfl
    | some request =>
      have hwithout : (a.without pid s).registry.generation s' = a.registry.generation s' :=
        generation_setSubscribers_of_ne _ _ hne
      rw [disable_of_subscription hp] at failed
      split at failed
      · rcases hprog : (a.without pid s).program s with ⟨e' | told, a₁⟩
        · obtain ⟨_, hw, -, -, -, rfl⟩ := program_error hprog
          rw [hprog] at failed
          cases failed
          exact (generation_rollBack_of_ne _ pid _ hne).trans hwithout
        · rw [hprog] at failed
          cases failed
      · rcases hoff : (a.without pid s).switchOff s with ⟨e' | _, a₁⟩
        · obtain ⟨_, hw, -, -, rfl⟩ := switchOff_error hoff
          rw [hoff] at failed
          cases failed
          exact (generation_rollBack_of_ne _ pid _ hne).trans hwithout
        · rw [hoff] at failed
          cases failed

/-! ### What is left of a request that was refused -/

/-- Of a request about a sensor nothing is left but what backends have logged,
and how often the subscribers of the sensor have changed. -/
structure Undone (s : SensorId) (a a' : Arbitration) : Prop where
  /-- Every process subscribes to what it did, with the same parameters. -/
  subscription : ∀ pid s', a'.registry.subscription pid s' = a.registry.subscription pid s'
  /-- All else that is recorded is the same, the last events included. -/
  records : a'.registry = { a.registry with
    subscriptions := a'.registry.subscriptions, generations := a'.registry.generations }
  generation : ∀ s', s' ≠ s → a'.registry.generation s' = a.registry.generation s'
  /-- So is what is noted of sensors: the parameters they were told, and that
  they run. -/
  active : a'.active = a.active
  settings : a'.settings = a.settings
  /-- Every backend reports what it did, and no running sensor was told
  anything. -/
  hardware : a.hardware.OnlyLogged (fun s' => s' ≠ s ∨ a.isRunning s' = true) a'.hardware

/-- A sensor runs at the backend in a slot, which took last what is noted. -/
structure RunsAt (a : Arbitration) (s : SensorId) (slot : Slot) (r : Request) : Prop where
  holds : a.hardware.Holds slot
  reports : (a.hardware.device slot).reports s = true
  programmed : (a.hardware.device slot).programmed s = some r
  running : a.isRunning s = true
  noted : a.programmed s = some r

/-- A sensor that runs goes on as it did. -/
theorem Undone.runsAt (h : Undone s a a') {s' : SensorId} {slot : Slot} {r : Request}
    (hruns : a.RunsAt s' slot r) : a'.RunsAt s' slot r where
  holds := (h.hardware.holds slot).2 hruns.holds
  reports := (h.hardware.reports hruns.holds s').trans hruns.reports
  programmed :=
    (h.hardware.programmed hruns.holds s' (.inr hruns.running)).trans hruns.programmed
  running := by
    rw [isRunning, h.active]
    exact hruns.running
  noted := by
    rw [Arbitration.programmed, h.active]
    exact hruns.noted

/-- A sensor that is noted as running does run. -/
theorem Consistent.exists_runsAt (h : a.Consistent) (hrunning : a.isRunning s = true) :
    ∃ slot r, a.RunsAt s slot r := by
  cases h.settled s with
  | idle _ unnoted _ =>
    rw [isRunning, unnoted] at hrunning
    cases hrunning
  | running _ noted _ merged runs told =>
    obtain ⟨slot, hhome, hreports⟩ := Hardware.runs_iff.1 runs
    obtain ⟨slot', hhome', hprogrammed⟩ := Hardware.told_eq_some_iff.1 told
    obtain rfl : slot' = slot := Option.some.inj (hhome'.symm.trans hhome)
    refine ⟨slot', a.wanted s, h.sound.home_holds hhome, hreports, hprogrammed, hrunning, ?_⟩
    rw [programmed, noted, Option.map_some, merged]

/-- What some backend reports is noted as running. -/
theorem Consistent.isRunning_of_reports (h : a.Consistent) {d : Device}
    (hd : d ∈ a.hardware.devices) (hreports : d.reports s = true) : a.isRunning s = true := by
  have hruns : a.hardware.runs s = true := (h.sound.reports_iff s).1 ⟨d, hd, hreports⟩
  cases h.settled s with
  | idle _ _ stopped =>
    rw [stopped] at hruns
    cases hruns
  | running _ noted enabled _ _ _ =>
    rw [isRunning, noted]
    exact enabled

/-- **A request that is refused is undone**, for whatever reason and at whatever
call. In whatever state requests, calls, mocks and events have brought
arbitration to (`Broker.Reachable.steps`), a sensor runs just if some backend
reports it, and after the refusal it runs where it did, with the parameters that
this backend took last and that are noted. -/
theorem Refused.undone (refused : a.Refused pid s a') :
    Undone s a a' ∧
      ∀ settings hw, Hardware.Unused hw → Steps (ofSettings settings hw) a → ∀ s',
        ((∃ d ∈ a.hardware.devices, d.reports s' = true) ↔ a.isRunning s' = true) ∧
        (a.isRunning s' = true → ∃ slot r, a.RunsAt s' slot r ∧ a'.RunsAt s' slot r) := by
  have hundone : Undone s a a' :=
    { subscription := refused.unmoved.registry.subscription
      records := by
        obtain ⟨-, hchannels, happs, htokens, hlisteners, hevents⟩ := refused.unmoved.registry
        simp only [← hchannels, ← happs, ← htokens, ← hlisteners, ← hevents]
      generation := fun _ => refused.generation_of_ne
      active := refused.unmoved.active
      settings := refused.unmoved.settings
      hardware := refused.onlyLogged }
  refine ⟨hundone, fun settings hw hunused hsteps s' => ?_⟩
  have hc : a.Consistent := hsteps.consistent (consistent_ofSettings settings hunused)
  refine ⟨⟨fun ⟨d, hd, hreports⟩ => hc.isRunning_of_reports hd hreports, fun hrunning => ?_⟩,
    fun hrunning => ?_⟩
  · obtain ⟨slot, r, hruns⟩ := hc.exists_runsAt hrunning
    exact ⟨_, Hardware.mem_devices_iff.2 ⟨slot, hruns.holds, rfl⟩, hruns.reports⟩
  · obtain ⟨slot, r, hruns⟩ := hc.exists_runsAt hrunning
    exact ⟨slot, r, hruns, hundone.runsAt hruns⟩

/-- Arbitration over a backend that has an accelerometer and refuses the third
call to it. -/
def reluctant : Arbitration :=
  ofSettings {} (Hardware.ofSettings {} (.scripted "real"
    [Device.scriptedDescriptor .accelerometer] (fun past _ => past.length == 2) false true)
    fun _ => .software).connect.2

/-- A second process asks a running sensor for more, and the backend does not
take the parameters: the process is no subscriber, the sensor runs on with the
parameters of the first, and only the generation has moved. -/
theorem undone_reluctant :
    let a := (reluctant.enable 100 .accelerometer ⟨1000000, 5⟩).2
    let a' := (a.enable 200 .accelerometer ⟨500000, 9⟩).2
    a.Refused 200 .accelerometer a' ∧
      a'.registry.subscription 100 .accelerometer = some ⟨1000000, 5⟩ ∧
      a'.registry.subscription 200 .accelerometer = none ∧
      (∃ slot, a'.RunsAt .accelerometer slot ⟨1000000, 5⟩) ∧
      a'.registry.generation .accelerometer = a.registry.generation .accelerometer + 2 := by
  intro a a'
  have hfailed : a.enable 200 .accelerometer ⟨500000, 9⟩ = (.error (.hardware .accelerometer
      (.refused "real" "set_batch" .accelerometer "scripted failure")), a') :=
    Prod.ext (by decide +kernel) rfl
  have hrefused : a.Refused 200 .accelerometer a' := .enable hfailed
  obtain ⟨hundone, hrunning⟩ := hrefused.undone
  have hu : reluctant.hardware.Unused :=
    (Hardware.unused_ofSettings {} ⟨rfl, rfl⟩ fun _ => ⟨rfl, rfl⟩).connect
  have hsteps : Steps reluctant a := Relation.ReflTransGen.refl.tail (.enable 100 _ _)
  obtain ⟨slot, r, -, hruns⟩ := (hrunning _ _ hu hsteps .accelerometer).2 (by decide +kernel)
  have hr : r = ⟨1000000, 5⟩ := by
    have hnoted : a'.programmed .accelerometer = some ⟨1000000, 5⟩ := by decide +kernel
    exact Option.some.inj (hruns.noted.symm.trans hnoted)
  refine ⟨hrefused, ?_, ?_, ⟨slot, hr ▸ hruns⟩, by decide +kernel⟩
  · rw [hundone.subscription]
    decide +kernel
  · rw [hundone.subscription]
    decide +kernel

end Arbitration
end SensorBroker
