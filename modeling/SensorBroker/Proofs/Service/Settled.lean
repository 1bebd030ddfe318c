/-
# Every sensor does what its subscribers want

A sensor is settled if nobody subscribes to it and it is off, or somebody does
and it runs with the merged parameters of its subscribers, as the hardware
took them last and as arbitration noted them (`Arbitration.Settled`). Enabling
and disabling keep every sensor settled wherever the hardware refuses, and so
does all else that arbitration asks of the hardware.

That a request which fails half-way leaves the sensor settled has a reason for
each point of failure. Before the hardware took anything nothing has changed;
a sensor that took parameters but would not switch on was off before, and what
a sensor that is off was told does not count.

Key definitions: `Arbitration.Settled`, `Arbitration.Consistent`.
Key theorems: `Arbitration.Consistent.enable`, `Arbitration.Consistent.disable`,
`Arbitration.Consistent.perform`.
-/
import SensorBroker.Proofs.Hardware.Home
import SensorBroker.Proofs.Service.Arbitration

namespace SensorBroker
namespace Arbitration

/-- A sensor is off and unwanted, or runs as its subscribers want. -/
inductive Settled (a : Arbitration) (s : SensorId) : Prop
  | idle (unwanted : a.registry.subscriptionsOf s = ∅) (unnoted : a.active.get? s = none)
    (stopped : a.hardware.runs s = false)
  | running {state : ActiveState} (subscribed : a.registry.subscriptionsOf s ≠ ∅)
    (noted : a.active.get? s = some state) (enabled : state.isEnabled = true)
    (merged : state.merged = a.wanted s) (runs : a.hardware.runs s = true)
    (told : a.hardware.told s = some (a.wanted s))

/-- The hardware keeps sensors apart, and every sensor is settled. -/
structure Consistent (a : Arbitration) : Prop where
  sound : a.hardware.Sound
  settled : ∀ s, a.Settled s

/-- Over hardware that nothing was asked of yet, every sensor is idle. -/
theorem consistent_ofSettings (settings : ServiceSettings) {hw : Hardware} (hu : hw.Unused) :
    (ofSettings settings hw).Consistent :=
  ⟨hu.sound, fun s => .idle rfl rfl (hu.runs s)⟩

theorem wanted_congr {a a' : Arbitration} {s : SensorId} (hset : a'.settings = a.settings)
    (hsub : a'.registry.subscriptionsOf s = a.registry.subscriptionsOf s) :
    a'.wanted s = a.wanted s := by
  simp only [wanted, Registry.merged, hset, hsub]

/-- Whether a sensor is settled depends on its subscribers, its note and what
it does. -/
theorem Settled.congr {a a' : Arbitration} {s : SensorId} (h : a.Settled s)
    (hset : a'.settings = a.settings)
    (hsub : a'.registry.subscriptionsOf s = a.registry.subscriptionsOf s)
    (hact : a'.active.get? s = a.active.get? s)
    (hrun : a'.hardware.runs s = a.hardware.runs s)
    (htold : a'.hardware.told s = a.hardware.told s) : a'.Settled s := by
  have hw := wanted_congr hset hsub
  cases h with
  | idle unwanted unnoted stopped =>
    exact .idle (hsub.trans unwanted) (hact.trans unnoted) (hrun.trans stopped)
  | running subscribed noted enabled merged runs told =>
    exact .running (hsub ▸ subscribed) (hact.trans noted) enabled (merged.trans hw.symm)
      (hrun.trans runs) (by rw [htold, hw, told])

/-- A sensor that is off is settled whatever it was told. -/
theorem Settled.congr_of_unwanted {a a' : Arbitration} {s : SensorId} (h : a.Settled s)
    (hno : a.isRunning s = false)
    (hsub : a'.registry.subscriptionsOf s = a.registry.subscriptionsOf s)
    (hact : a'.active.get? s = a.active.get? s)
    (hrun : a'.hardware.runs s = a.hardware.runs s) : a'.Settled s := by
  cases h with
  | idle unwanted unnoted stopped =>
    exact .idle (hsub.trans unwanted) (hact.trans unnoted) (hrun.trans stopped)
  | running _ noted enabled =>
    simp [isRunning, noted, enabled] at hno

theorem Settled.runs_of_isRunning {a : Arbitration} {s : SensorId} (h : a.Settled s)
    (hr : a.isRunning s = true) : a.hardware.runs s = true := by
  cases h with
  | idle _ unnoted _ => simp [isRunning, unnoted] at hr
  | running _ _ _ _ runs _ => exact runs

theorem Settled.runs_of_subscription {a : Arbitration} {pid : Pid} {s : SensorId} {r : Request}
    (h : a.Settled s) (hp : a.registry.subscription pid s = some r) :
    a.hardware.runs s = true := by
  cases h with
  | idle unwanted _ _ =>
    rw [Registry.subscription, unwanted] at hp
    cases hp
  | running _ _ _ _ runs _ => exact runs

theorem Settled.told_of_programmed {a : Arbitration} {s : SensorId} {r : Request}
    (h : a.Settled s) (hp : a.programmed s = some r) : a.hardware.told s = some r := by
  cases h with
  | idle _ unnoted _ => simp [programmed, unnoted] at hp
  | running _ noted _ merged _ told =>
    rw [programmed, noted, Option.map_some, merged] at hp
    rw [told, hp]

/-! ### The hardware along a request -/

/-- After its parameters were passed on, a sensor has taken them; whether it
runs, and every other sensor, is as before. -/
theorem Programs.spec {a : Arbitration} {s : SensorId} {h : Hardware} (hp : a.Programs s h)
    (hs : a.hardware.Sound)
    (hnoted : ∀ r, a.programmed s = some r → a.hardware.told s = some r) :
    h.Sound ∧ h.told s = some (a.wanted s) ∧ (∀ s', h.runs s' = a.hardware.runs s') ∧
      ∀ s', s' ≠ s → h.told s' = a.hardware.told s' := by
  rcases hp with ⟨hsame, rfl⟩ | ⟨-, hb⟩
  · exact ⟨hs, hnoted _ hsame, fun _ => rfl, fun _ _ => rfl⟩
  · obtain ⟨hs', hall⟩ := hs.perform_ok hb
    refine ⟨hs', ?_, fun s' => (hall s').1, fun s' hne => ?_⟩
    · rw [(hall s).2]
      simp [DeviceCall.programmedAfter]
    · rw [(hall s').2, DeviceCall.programmedAfter_of_ne (Ne.symm hne)]

/-- After it was switched on, a sensor runs; every other sensor, and what any
was told, is as before. -/
theorem SwitchesOn.spec {a : Arbitration} {s : SensorId} {h : Hardware} (hp : a.SwitchesOn s h)
    (hs : a.hardware.Sound) (hrun : a.isRunning s = true → a.hardware.runs s = true) :
    h.Sound ∧ h.runs s = true ∧ (∀ s', h.told s' = a.hardware.told s') ∧
      ∀ s', s' ≠ s → h.runs s' = a.hardware.runs s' := by
  rcases hp with ⟨hr, rfl⟩ | ⟨-, hb⟩
  · exact ⟨hs, hrun hr, fun _ => rfl, fun _ _ => rfl⟩
  · obtain ⟨hs', hall⟩ := hs.perform_ok hb
    refine ⟨hs', ?_, fun s' => (hall s').2, fun s' hne => ?_⟩
    · rw [(hall s).1]
      simp [DeviceCall.reportsAfter]
    · rw [(hall s').1, DeviceCall.reportsAfter_of_ne (Ne.symm hne)]

/-! ### Requests -/

/-- What is noted of a sensor is the wish of its subscribers. -/
theorem settled_store {a : Arbitration} {s : SensorId} (hsub : a.registry.subscriptionsOf s ≠ ∅)
    (hrun : a.hardware.runs s = true) (htold : a.hardware.told s = some (a.wanted s)) :
    (a.store s).Settled s :=
  .running hsub (Table.get?_insert_self ..) rfl rfl hrun htold

theorem active_store_of_ne (a : Arbitration) {s s' : SensorId} (h : s' ≠ s) :
    (a.store s).active.get? s' = a.active.get? s' :=
  Table.get?_insert_of_ne _ _ h

/-- What leaves the notes and the subscriptions alone and switches nothing may
tell a sensor something only while it is off. -/
theorem Consistent.unmoved {a a' : Arbitration} (h : a.Consistent) (hu : a.Unmoved a')
    (hs : a'.hardware.Sound)
    (hall : ∀ s, a'.hardware.runs s = a.hardware.runs s ∧
      (a'.hardware.told s = a.hardware.told s ∨ a.isRunning s = false)) : a'.Consistent := by
  refine ⟨hs, fun s => ?_⟩
  have hsub := hu.registry.subscriptionsOf s
  have hact : a'.active.get? s = a.active.get? s := by rw [hu.active]
  rcases (hall s).2 with htold | hno
  · exact (h.settled s).congr hu.settings hsub hact (hall s).1 htold
  · exact (h.settled s).congr_of_unwanted hno hsub hact (hall s).1

/-- A request to enable that the hardware refuses changes nothing that counts. -/
theorem Consistent.enable_error {a a' : Arbitration} (h : a.Consistent) {pid : Pid} {s : SensorId}
    {request : Request} {e : ServiceError} (he : a.enable pid s request = (.error e, a')) :
    a'.Consistent := by
  rcases Arbitration.enable_error he with ⟨-, rfl⟩ | ⟨period, -, hu, hfail, -⟩
  · exact h
  · cases hfail with
    | notTold hb =>
      obtain ⟨hs, hall⟩ := Hardware.Sound.perform_error (h := a.hardware) h.sound hb
      exact h.unmoved hu hs fun s' => ⟨(hall s').1, .inl (hall s').2⟩
    | notOn hb hr hon =>
      -- the sensor took parameters, but it was off and stays off
      obtain ⟨hs₁, -, hruns, htold⟩ := hb.spec h.sound fun r hp =>
        (h.settled s).told_of_programmed hp
      obtain ⟨hs, hall⟩ := hs₁.perform_error hon
      refine h.unmoved hu hs fun s' => ⟨(hall s').1.trans (hruns s'), ?_⟩
      by_cases hss : s' = s
      · exact .inr (hss ▸ hr)
      · exact .inl ((hall s').2.trans (htold s' hss))

/-- A request to enable that succeeds leaves its sensor running as it should,
and every other as it was. -/
theorem Consistent.enable_ok {a a' : Arbitration} (h : a.Consistent) {pid : Pid} {s : SensorId}
    {request : Request} {outcome : EnableOutcome}
    (he : a.enable pid s request = (.ok outcome, a')) : a'.Consistent := by
  obtain ⟨period, hw, hw', -, hb, hon, rfl, -, -⟩ := Arbitration.enable_ok he
  obtain ⟨hs₁, htold₁, hruns₁, hother₁⟩ := hb.spec h.sound fun r hp =>
    (h.settled s).told_of_programmed hp
  obtain ⟨hs₂, hruns₂, htold₂, hother₂⟩ := hon.spec hs₁ fun hr =>
    (hruns₁ s).trans ((h.settled s).runs_of_isRunning hr)
  refine ⟨hs₂, fun s' => ?_⟩
  by_cases hss : s' = s
  · subst hss
    exact settled_store (a.registry.subscriptionsOf_put_ne_empty pid s' _) hruns₂
      ((htold₂ s').trans htold₁)
  · refine (h.settled s').congr rfl ?_ (active_store_of_ne _ hss) ?_ ?_
    · exact (Registry.subscriptionsOf_put ..).trans (if_neg hss)
    · exact (hother₂ s' hss).trans (hruns₁ s')
    · exact (htold₂ s').trans (hother₁ s' hss)

/-- **Enabling keeps every sensor settled**, wherever it fails. -/
theorem Consistent.enable {a : Arbitration} (h : a.Consistent) (pid : Pid) (s : SensorId)
    (request : Request) : (a.enable pid s request).2.Consistent := by
  rcases he : a.enable pid s request with ⟨e | outcome, a'⟩
  · exact h.enable_error he
  · exact h.enable_ok he

/-- Whichever call the hardware refuses, a request to disable that fails has
only made that one. -/
theorem DisableFailure.perform_error {a : Arbitration} {s : SensorId} {hw : Hardware}
    (h : a.DisableFailure s hw) : ∃ c e, a.hardware.perform c = (.error e, hw) := by
  cases h with
  | shared _ hb => exact ⟨_, _, hb⟩
  | last _ hd => exact ⟨_, _, hd⟩

/-- A request to disable that the hardware refuses changes nothing that counts. -/
theorem Consistent.disable_error {a a' : Arbitration} (h : a.Consistent) {pid : Pid}
    {s : SensorId} {e : ServiceError} (he : a.disable pid s = (.error e, a')) :
    a'.Consistent := by
  rcases Arbitration.disable_error he with ⟨-, -, rfl⟩ | ⟨-, -, hu, hfail⟩
  · exact h
  · obtain ⟨c, e', hc⟩ := hfail.perform_error
    obtain ⟨hs, hall⟩ := Hardware.Sound.perform_error (h := a.hardware) h.sound hc
    exact h.unmoved hu hs fun s' => ⟨(hall s').1, .inl (hall s').2⟩

/-- A subscription that was ended leaves its sensor running for those who are
left, or off if nobody is, and every other sensor as it was. -/
theorem Consistent.disable_ok {a a' : Arbitration} (h : a.Consistent) {pid : Pid} {s : SensorId}
    {outcome : DisableOutcome} (he : a.disable pid s = (.ok outcome, a')) : a'.Consistent := by
  obtain ⟨hp, hok⟩ := Arbitration.disable_ok he
  generalize houtcome : outcome.switchedOff = off at hok
  cases hok with
  | @shared hw hsub hb =>
    obtain ⟨hs, htold, hruns, hother⟩ := hb.spec h.sound fun r hp =>
      (h.settled s).told_of_programmed hp
    refine ⟨hs, fun s' => ?_⟩
    by_cases hss : s' = s
    · subst hss
      exact settled_store ((Registry.isSubscribed_iff ..).1 hsub)
        ((hruns s').trans ((h.settled s').runs_of_subscription hp)) htold
    · refine (h.settled s').congr rfl ?_ (active_store_of_ne _ hss) (hruns s') (hother s' hss)
      exact (Registry.subscriptionsOf_drop ..).trans (if_neg hss)
  | @last hw hsub hd =>
    obtain ⟨hs, hall⟩ := Hardware.Sound.perform_ok (h := a.hardware) h.sound hd
    refine ⟨hs, fun s' => ?_⟩
    by_cases hss : s' = s
    · subst hss
      refine .idle ?_ (Table.get?_erase_self ..) ?_
      · exact (Registry.not_isSubscribed_iff ..).1 hsub
      · exact (hall s').1.trans (by simp [DeviceCall.reportsAfter])
    · refine (h.settled s').congr rfl ?_ (Table.get?_erase_of_ne _ hss) ?_ (hall s').2
      · exact (Registry.subscriptionsOf_drop ..).trans (if_neg hss)
      · exact (hall s').1.trans (DeviceCall.reportsAfter_of_ne (Ne.symm hss) _)

/-- **Disabling keeps every sensor settled**, wherever it fails. -/
theorem Consistent.disable {a : Arbitration} (h : a.Consistent) (pid : Pid) (s : SensorId) :
    (a.disable pid s).2.Consistent := by
  rcases he : a.disable pid s with ⟨e | outcome, a'⟩
  · exact h.disable_error he
  · exact h.disable_ok he

/-- A call that neither switches a sensor nor tells it parameters. -/
def Passing (c : DeviceCall) : Prop :=
  ∀ s, (∀ b, c.reportsAfter s b = b) ∧ ∀ r, c.programmedAfter s r = r

theorem passing_setMode (s : SensorId) (mode : Int32) : Passing (.setMode s mode) :=
  fun _ => ⟨fun _ => rfl, fun _ => rfl⟩

theorem passing_command (s : SensorId) (command : DeviceCommand) : Passing (.command s command) :=
  fun _ => ⟨fun _ => rfl, fun _ => rfl⟩

/-- Any other call to the hardware keeps every sensor settled. -/
theorem Consistent.perform {a : Arbitration} (h : a.Consistent) {c : DeviceCall}
    (hc : Passing c) : (a.perform c).2.Consistent := by
  rcases he : a.perform c with ⟨e | _, a'⟩
  · obtain ⟨e', hw, hhw, -, rfl⟩ := perform_error he
    obtain ⟨hs, hall⟩ := h.sound.perform_error hhw
    exact ⟨hs, fun s => (h.settled s).congr rfl rfl rfl (hall s).1 (hall s).2⟩
  · obtain ⟨hw, hhw, rfl⟩ := perform_ok he
    obtain ⟨hs, hall⟩ := h.sound.perform_ok hhw
    exact ⟨hs, fun s => (h.settled s).congr rfl rfl rfl ((hall s).1.trans ((hc s).1 _))
      ((hall s).2.trans ((hc s).2 _))⟩

/-- So does replacing hardware by some that does the same, and records by some
with the same subscriptions. -/
theorem Consistent.congr {a a' : Arbitration} (h : a.Consistent) (hs : a'.hardware.Sound)
    (hset : a'.settings = a.settings) (hact : a'.active = a.active)
    (hall : ∀ s, a'.registry.subscriptionsOf s = a.registry.subscriptionsOf s ∧
      a'.hardware.runs s = a.hardware.runs s ∧ a'.hardware.told s = a.hardware.told s) :
    a'.Consistent :=
  ⟨hs, fun s => (h.settled s).congr hset (hall s).1 (by rw [hact]) (hall s).2.1 (hall s).2.2⟩

end Arbitration
end SensorBroker
