/-
# The one backend that serves a sensor

A sensor of the primary backend is always served there, and every other
sensor, mocked or not at the moment, by the compatible one or by none. So
each sensor has one backend for good (`Hardware.home`): mocking a sensor or
ending its mock changes whether calls get through, never where they go. What
a backend does for a sensor can then be read off its home alone
(`Hardware.runs`, `Hardware.told`), and a call changes just that
(`Hardware.Sound.perform_ok`, `Hardware.Sound.perform_error`).

Key definitions: `Hardware.home`, `Hardware.runs`, `Hardware.told`,
`Hardware.Sound`, `Hardware.Unused`.
Key theorems: `Hardware.Sound.reports_iff`, `Hardware.Sound.perform_ok`,
`Hardware.Sound.perform_error`, `Hardware.Unused.connect`,
`Hardware.Unused.sound`.
-/
import Mathlib.Tactic.SplitIfs
import SensorBroker.Hardware.Connection

namespace SensorBroker

/-! ### One call to one backend -/

/-- Whether a sensor reports once a call was done. -/
def DeviceCall.reportsAfter (s : SensorId) (before : Bool) : DeviceCall → Bool
  | .enable s' => if s' = s then true else before
  | .disable s' => if s' = s then false else before
  | _ => before

/-- The parameters a sensor took last, once a call was done. -/
def DeviceCall.programmedAfter (s : SensorId) (before : Option Request) :
    DeviceCall → Option Request
  | .setBatch s' r => if s' = s then some r else before
  | _ => before

theorem DeviceCall.reportsAfter_of_ne {c : DeviceCall} {s : SensorId} (h : c.sensor ≠ s)
    (before : Bool) : c.reportsAfter s before = before := by
  cases c <;> simp_all [DeviceCall.reportsAfter, DeviceCall.sensor]

theorem DeviceCall.programmedAfter_of_ne {c : DeviceCall} {s : SensorId} (h : c.sensor ≠ s)
    (before : Option Request) : c.programmedAfter s before = before := by
  cases c <;> simp_all [DeviceCall.programmedAfter, DeviceCall.sensor]

namespace Device

/-- Nothing reports and nothing was asked yet. -/
def IsIdle (d : Device) : Prop :=
  d.enabled = ∅ ∧ d.log = []

theorem IsIdle.reports {d : Device} (h : d.IsIdle) (s : SensorId) : d.reports s = false := by
  simp [Device.reports, h.1, Table.contains]

theorem IsIdle.programmed {d : Device} (h : d.IsIdle) (s : SensorId) : d.programmed s = none := by
  simp [Device.programmed, h.2]

theorem isIdle_connect {d : Device} (h : d.IsIdle) : d.connect.2.IsIdle := by
  unfold connect
  split
  · exact h
  · exact h

theorem isIdle_listen {d : Device} (h : d.IsIdle) : d.listen.IsIdle := h

theorem reports_enabledAfter (d : Device) (c : DeviceCall) (s : SensorId) :
    (d.enabledAfter c).contains s = c.reportsAfter s (d.reports s) := by
  cases c with
  | enable s' =>
    by_cases h : s' = s
    · simp [enabledAfter, DeviceCall.reportsAfter, Table.contains, h]
    · simp [enabledAfter, DeviceCall.reportsAfter, Table.contains, reports, h,
        Table.get?_insert_of_ne _ _ (Ne.symm h)]
  | disable s' =>
    by_cases h : s' = s
    · simp [enabledAfter, DeviceCall.reportsAfter, Table.contains, h]
    · simp [enabledAfter, DeviceCall.reportsAfter, Table.contains, reports, h,
        Table.get?_erase_of_ne _ (Ne.symm h)]
  | setBatch _ _ => rfl
  | setMode _ _ => rfl
  | command _ _ => rfl

/-- A call is logged with its outcome. -/
theorem log_perform (d : Device) (c : DeviceCall) :
    (d.perform c).device.log = ⟨c, (d.perform c).result.isOk⟩ :: d.log := by
  cases hv : d.verdict c with
  | some _ => rw [perform_refused hv]; rfl
  | none => rw [perform_accepted hv]; rfl

/-- A call that is refused changes neither what reports nor what was told. -/
theorem perform_error {d : Device} {c : DeviceCall} {e : HardwareError}
    (h : (d.perform c).result = .error e) (s : SensorId) :
    (d.perform c).device.reports s = d.reports s ∧
      (d.perform c).device.programmed s = d.programmed s := by
  cases hv : d.verdict c with
  | some _ => simp [perform_refused hv, reports, programmed]
  | none => simp [perform_accepted hv] at h

/-- What a call does once it is done. -/
theorem perform_ok {d : Device} {c : DeviceCall} (h : (d.perform c).result = .ok ())
    (s : SensorId) :
    (d.perform c).device.reports s = c.reportsAfter s (d.reports s) ∧
      (d.perform c).device.programmed s = c.programmedAfter s (d.programmed s) := by
  cases hv : d.verdict c with
  | some _ => simp [perform_refused hv] at h
  | none =>
    rw [perform_accepted hv]
    refine ⟨d.reports_enabledAfter c s, ?_⟩
    cases c with
    | setBatch s' r =>
      by_cases h : s' = s
      · simp [programmed, DeviceCall.programmedAfter, h]
      · simp [programmed, DeviceCall.programmedAfter, h]
    | enable _ => rfl
    | disable _ => rfl
    | setMode _ _ => rfl
    | command _ _ => rfl

end Device

namespace Hardware

/-! ### Backends and their slots -/

/-- Every backend there is, opened or not. -/
def devices (h : Hardware) : List Device :=
  h.vendor :: h.built

/-- Whether there is a backend in a slot. -/
def Holds (h : Hardware) : Slot → Prop
  | .vendor => True
  | .built n => n < h.built.length

theorem mem_devices_iff {h : Hardware} {d : Device} :
    d ∈ h.devices ↔ ∃ slot, h.Holds slot ∧ h.device slot = d := by
  rw [devices, List.mem_cons]
  constructor
  · rintro (rfl | hd)
    · exact ⟨.vendor, trivial, rfl⟩
    · obtain ⟨n, hn, rfl⟩ := List.getElem_of_mem hd
      exact ⟨.built n, hn, by simp [device, hn]⟩
  · rintro ⟨slot, hslot, rfl⟩
    cases slot with
    | vendor => exact .inl rfl
    | built n =>
      have hn : n < h.built.length := hslot
      exact .inr (List.mem_iff_getElem.2 ⟨n, hn, by simp [device, hn]⟩)

@[simp] theorem holds_setDevice (h : Hardware) (d : Device) (slot slot' : Slot) :
    (h.setDevice d slot).Holds slot' ↔ h.Holds slot' := by
  cases slot <;> cases slot' <;> simp [setDevice, Holds]

theorem device_setDevice_self {h : Hardware} {slot : Slot} (hslot : h.Holds slot) (d : Device) :
    (h.setDevice d slot).device slot = d := by
  cases slot with
  | vendor => rfl
  | built n =>
    have hn : n < h.built.length := hslot
    simp [setDevice, device, hn]

theorem device_setDevice_of_ne {h : Hardware} {slot slot' : Slot} (hslot : h.Holds slot')
    (hne : slot' ≠ slot) (d : Device) : (h.setDevice d slot).device slot' = h.device slot' := by
  cases slot' with
  | vendor =>
    cases slot with
    | vendor => exact absurd rfl hne
    | built n => rfl
  | built n =>
    have hn : n < h.built.length := hslot
    cases slot with
    | vendor => simp [setDevice, device, hn]
    | built m =>
      have hmn : m ≠ n := fun h => hne (h ▸ rfl)
      simp [setDevice, device, hn, hmn]

/-! ### The home of a sensor -/

/-- The backend that serves a sensor when any does. -/
def home (h : Hardware) (s : SensorId) : Option Slot :=
  if h.lists s then h.primary else h.compatible

/-- Whether a sensor reports at its home. -/
def runs (h : Hardware) (s : SensorId) : Bool :=
  (h.home s).any fun slot => (h.device slot).reports s

/-- The parameters a sensor took last at its home. -/
def told (h : Hardware) (s : SensorId) : Option Request :=
  (h.home s).bind fun slot => (h.device slot).programmed s

theorem runs_iff {h : Hardware} {s : SensorId} :
    h.runs s = true ↔ ∃ slot, h.home s = some slot ∧ (h.device slot).reports s = true := by
  simp [runs, Option.any_eq_true]

theorem told_eq_some_iff {h : Hardware} {s : SensorId} {r : Request} :
    h.told s = some r ↔
      ∃ slot, h.home s = some slot ∧ (h.device slot).programmed s = some r := by
  simp [told, Option.bind_eq_some_iff]

/-- What keeps sensors apart: homes are there, nothing that the primary backend
has is mocked, and no backend but its home ever did anything for a sensor. -/
structure Sound (h : Hardware) : Prop where
  home_holds : ∀ {s slot}, h.home s = some slot → h.Holds slot
  not_lists_of_isMocked : ∀ {s}, h.isMocked s = true → h.lists s = false
  apart : ∀ {s slot}, h.Holds slot → h.home s ≠ some slot →
    (h.device slot).reports s = false ∧ (h.device slot).programmed s = none

/-- Some backend has a sensor reporting exactly when its home has. -/
theorem Sound.reports_iff {h : Hardware} (hs : h.Sound) (s : SensorId) :
    (∃ d ∈ h.devices, d.reports s = true) ↔ h.runs s = true := by
  constructor
  · rintro ⟨d, hd, hr⟩
    obtain ⟨slot, hslot, rfl⟩ := mem_devices_iff.1 hd
    by_cases hhome : h.home s = some slot
    · simp [runs, hhome, hr]
    · simp [(hs.apart hslot hhome).1] at hr
  · intro hr
    obtain ⟨slot, hhome, hr⟩ := runs_iff.1 hr
    exact ⟨_, mem_devices_iff.2 ⟨slot, hs.home_holds hhome, rfl⟩, hr⟩

/-- Whatever parameters some backend last took for a sensor, its home did. -/
theorem Sound.programmed_eq {h : Hardware} (hs : h.Sound) {s : SensorId} {d : Device} {r : Request}
    (hd : d ∈ h.devices) (hr : d.programmed s = some r) : h.told s = some r := by
  obtain ⟨slot, hslot, rfl⟩ := mem_devices_iff.1 hd
  by_cases hhome : h.home s = some slot
  · simp [told, hhome, hr]
  · simp [(hs.apart hslot hhome).2] at hr

/-! ### Calls -/

theorem Sound.home_of_route {h : Hardware} (hs : h.Sound) {s : SensorId} {slot : Slot}
    (hr : h.route s = .ok slot) : h.home s = some slot := by
  unfold route at hr
  simp only at hr
  split at hr
  · next hm =>
    rw [home, hs.not_lists_of_isMocked hm]
    cases hc : h.compatible with
    | none => simp [hc] at hr
    | some slot' => simpa [hc] using hr
  · split at hr
    · next hl =>
      rw [home, hl]
      cases hp : h.primary with
      | none => simp [hp] at hr
      | some slot' => simpa [hp] using hr
    · cases hr

@[simp] theorem home_setDevice (h : Hardware) (d : Device) (slot : Slot) (s : SensorId) :
    (h.setDevice d slot).home s = h.home s := by
  cases slot <;> rfl

/-- Replacing a backend replaces it for the sensors that have it as their
home, and for no other. -/
theorem map_device_setDevice {h : Hardware} (hs : h.Sound) {slot : Slot} (hslot : h.Holds slot)
    (d : Device) (s : SensorId) :
    (h.home s).map (h.setDevice d slot).device =
      if h.home s = some slot then some d else (h.home s).map h.device := by
  by_cases hhome : h.home s = some slot
  · rw [if_pos hhome, hhome, Option.map_some, device_setDevice_self hslot]
  · rw [if_neg hhome]
    cases hh : h.home s with
    | none => rfl
    | some slot' =>
      have hne : slot' ≠ slot := fun heq => hhome (heq ▸ hh)
      rw [Option.map_some, Option.map_some, device_setDevice_of_ne (hs.home_holds hh) hne]

theorem runs_eq (h : Hardware) (s : SensorId) :
    h.runs s = ((h.home s).map h.device).any fun d => d.reports s := by
  rw [Option.any_map]
  rfl

theorem told_eq (h : Hardware) (s : SensorId) :
    h.told s = ((h.home s).map h.device).bind fun d => d.programmed s := by
  rw [Option.bind_map]
  rfl

theorem runs_setDevice {h : Hardware} (hs : h.Sound) {slot : Slot} (hslot : h.Holds slot)
    (d : Device) (s : SensorId) :
    (h.setDevice d slot).runs s = if h.home s = some slot then d.reports s else h.runs s := by
  rw [runs_eq, home_setDevice, map_device_setDevice hs hslot, runs_eq]
  split_ifs
  · rfl
  · rfl

theorem told_setDevice {h : Hardware} (hs : h.Sound) {slot : Slot} (hslot : h.Holds slot)
    (d : Device) (s : SensorId) :
    (h.setDevice d slot).told s = if h.home s = some slot then d.programmed s else h.told s := by
  rw [told_eq, home_setDevice, map_device_setDevice hs hslot, told_eq]
  split_ifs
  · rfl
  · rfl

/-- Replacing a backend keeps sensors apart if it does nothing new for sensors
that live elsewhere. -/
theorem Sound.setDevice {h : Hardware} (hs : h.Sound) {slot : Slot} (hslot : h.Holds slot)
    {d : Device} (hd : ∀ s, h.home s ≠ some slot → d.reports s = (h.device slot).reports s ∧
      d.programmed s = (h.device slot).programmed s) : (h.setDevice d slot).Sound where
  home_holds hhome := by
    rw [holds_setDevice]
    exact hs.home_holds (by rwa [home_setDevice] at hhome)
  not_lists_of_isMocked hm := by
    have hlists : ∀ s, (h.setDevice d slot).lists s = h.lists s := fun s => by cases slot <;> rfl
    have hmocked : ∀ s, (h.setDevice d slot).isMocked s = h.isMocked s :=
      fun s => by cases slot <;> rfl
    rw [hlists]
    exact hs.not_lists_of_isMocked (by rwa [hmocked] at hm)
  apart {s slot'} hslot' hhome := by
    rw [holds_setDevice] at hslot'
    rw [home_setDevice] at hhome
    by_cases heq : slot' = slot
    · subst heq
      rw [device_setDevice_self hslot, (hd s hhome).1, (hd s hhome).2]
      exact hs.apart hslot' hhome
    · rw [device_setDevice_of_ne hslot' heq]
      exact hs.apart hslot' hhome

/-- What was raised keeps no sensors apart. -/
theorem Sound.setRaised {h : Hardware} (hs : h.Sound) (es : List Event) :
    Sound { h with raised := es } :=
  ⟨hs.home_holds, hs.not_lists_of_isMocked, hs.apart⟩

/-- A call that fails leaves every sensor as it was. -/
theorem Sound.perform_error {h h' : Hardware} (hs : h.Sound) {c : DeviceCall} {e : HardwareError}
    (hp : h.perform c = (.error e, h')) :
    h'.Sound ∧ ∀ s, h'.runs s = h.runs s ∧ h'.told s = h.told s := by
  unfold Hardware.perform at hp
  split at hp
  · cases hp
    exact ⟨hs, fun _ => ⟨rfl, rfl⟩⟩
  · next slot hroute =>
    simp only [Prod.mk.injEq] at hp
    obtain ⟨hr, rfl⟩ := hp
    have hhome := hs.home_of_route hroute
    have hslot := hs.home_holds hhome
    refine ⟨(hs.setDevice hslot fun s _ => Device.perform_error hr s).setRaised _, fun s => ⟨?_, ?_⟩⟩
    · refine (runs_setDevice hs hslot _ s).trans ?_
      rw [(Device.perform_error hr s).1]
      split_ifs with hs'
      · simp [runs, hs']
      · rfl
    · refine (told_setDevice hs hslot _ s).trans ?_
      rw [(Device.perform_error hr s).2]
      split_ifs with hs'
      · simp [told, hs']
      · rfl

/-- A call that is done changes its own sensor, and no other. -/
theorem Sound.perform_ok {h h' : Hardware} (hs : h.Sound) {c : DeviceCall}
    (hp : h.perform c = (.ok (), h')) :
    h'.Sound ∧ ∀ s, h'.runs s = c.reportsAfter s (h.runs s) ∧
      h'.told s = c.programmedAfter s (h.told s) := by
  unfold Hardware.perform at hp
  split at hp
  · cases hp
  · next slot hroute =>
    simp only [Prod.mk.injEq] at hp
    obtain ⟨hr, rfl⟩ := hp
    have hhome := hs.home_of_route hroute
    have hslot := hs.home_holds hhome
    have hother : ∀ s, h.home s ≠ some slot → c.sensor ≠ s := fun s hs' heq => hs' (heq ▸ hhome)
    refine ⟨(hs.setDevice hslot fun s hs' => ?_).setRaised _, fun s => ⟨?_, ?_⟩⟩
    · have hok := Device.perform_ok hr s
      rwa [DeviceCall.reportsAfter_of_ne (hother s hs'),
        DeviceCall.programmedAfter_of_ne (hother s hs')] at hok
    · refine (runs_setDevice hs hslot _ s).trans ?_
      rw [(Device.perform_ok hr s).1]
      split_ifs with hs'
      · simp [runs, hs']
      · rw [DeviceCall.reportsAfter_of_ne (hother s hs')]
    · refine (told_setDevice hs hslot _ s).trans ?_
      rw [(Device.perform_ok hr s).2]
      split_ifs with hs'
      · simp [told, hs']
      · rw [DeviceCall.programmedAfter_of_ne (hother s hs')]

/-! ### Mocks and events -/

theorem Sound.inject {h : Hardware} (hs : h.Sound) (s : SensorId) : (h.inject s).2.Sound := by
  unfold Hardware.inject
  split_ifs with hl
  all_goals try exact hs
  refine ⟨hs.home_holds, fun {s'} hm => ?_, hs.apart⟩
  by_cases heq : s' = s
  · subst heq
    exact Bool.eq_false_iff.2 hl
  · refine hs.not_lists_of_isMocked ?_
    simpa [isMocked, Table.contains, Table.get?_insert_of_ne _ _ heq] using hm

theorem Sound.withdraw {h : Hardware} (hs : h.Sound) (s : SensorId) : (h.withdraw s).2.Sound := by
  unfold Hardware.withdraw
  split_ifs
  · refine ⟨hs.home_holds, fun {s'} hm => hs.not_lists_of_isMocked ?_, hs.apart⟩
    by_cases heq : s' = s
    · simp [isMocked, Table.contains, heq] at hm
    · simpa [isMocked, Table.contains, Table.get?_erase_of_ne _ heq] using hm
  · exact hs

theorem runs_inject (h : Hardware) (s s' : SensorId) : (h.inject s).2.runs s' = h.runs s' := by
  unfold inject
  split_ifs <;> rfl

theorem told_inject (h : Hardware) (s s' : SensorId) : (h.inject s).2.told s' = h.told s' := by
  unfold inject
  split_ifs <;> rfl

theorem runs_withdraw (h : Hardware) (s s' : SensorId) : (h.withdraw s).2.runs s' = h.runs s' := by
  unfold withdraw
  split_ifs <;> rfl

theorem told_withdraw (h : Hardware) (s s' : SensorId) : (h.withdraw s).2.told s' = h.told s' := by
  unfold withdraw
  split_ifs <;> rfl

/-! ### Opening -/

theorem device_setDevice (h : Hardware) (d : Device) (slot slot' : Slot) :
    (h.setDevice d slot).device slot' = d ∨ (h.setDevice d slot).device slot' = h.device slot' := by
  cases slot with
  | vendor =>
    cases slot' with
    | vendor => exact .inl rfl
    | built n =>
      by_cases hn : n < h.built.length
      · exact .inr (by simp [setDevice, device, hn])
      · exact .inl (by simp [setDevice, device, hn])
  | built m =>
    cases slot' with
    | vendor => exact .inr rfl
    | built n =>
      by_cases hn : n < h.built.length
      · by_cases hmn : m = n
        · exact .inl (by simp [setDevice, device, hmn, hn])
        · exact .inr (by simp [setDevice, device, hmn, hn])
      · exact .inr (by simp [setDevice, device, hn])

/-- Hardware that nothing was asked of yet: no backend has done anything, nor
will one that is still to be built have, and no event was raised. -/
structure Unused (h : Hardware) : Prop where
  silent : h.raised = []
  idle : ∀ slot, (h.device slot).IsIdle
  blueprint : ∀ n, (h.blueprint n).IsIdle
  mocks : h.mocks = ∅
  primary_holds : ∀ {slot}, h.primary = some slot → h.Holds slot
  compatible_holds : ∀ {slot}, h.compatible = some slot → h.Holds slot

theorem unused_ofSettings (settings : HardwareSettings) {vendor : Device} {blueprint : Nat → Device}
    (hv : vendor.IsIdle) (hb : ∀ n, (blueprint n).IsIdle) :
    (ofSettings settings vendor blueprint).Unused where
  silent := rfl
  idle slot := by cases slot <;> exact hv
  blueprint := hb
  mocks := rfl
  primary_holds hp := by cases hp
  compatible_holds hc := by cases hc

theorem Unused.setDevice {h : Hardware} (hu : h.Unused) {d : Device} (hd : d.IsIdle) (slot : Slot) :
    (h.setDevice d slot).Unused where
  silent := by cases slot <;> exact hu.silent
  idle slot' := by
    rcases h.device_setDevice d slot slot' with heq | heq
    · rwa [heq]
    · rw [heq]; exact hu.idle slot'
  blueprint := by cases slot <;> exact hu.blueprint
  mocks := by cases slot <;> exact hu.mocks
  primary_holds hp := by
    rw [holds_setDevice]
    exact hu.primary_holds (by cases slot <;> exact hp)
  compatible_holds hc := by
    rw [holds_setDevice]
    exact hu.compatible_holds (by cases slot <;> exact hc)

theorem Unused.openSlot {h : Hardware} (hu : h.Unused) (slot : Slot) : (h.openSlot slot).2.Unused :=
  hu.setDevice (Device.isIdle_connect (hu.idle slot)) slot

theorem Unused.listen {h : Hardware} (hu : h.Unused) (slot : Slot) : (h.listen slot).Unused :=
  hu.setDevice (Device.isIdle_listen (hu.idle slot)) slot

theorem Unused.build {h : Hardware} (hu : h.Unused) :
    Unused { h with built := h.built ++ [h.blueprint h.built.length] } where
  silent := hu.silent
  idle slot := by
    cases slot with
    | vendor => exact hu.idle .vendor
    | built n =>
      by_cases hn : n < h.built.length
      · have := hu.idle (.built n)
        simpa [device, List.getElem?_append_left hn] using this
      · by_cases hn' : n = h.built.length
        · simpa [device, hn'] using hu.blueprint h.built.length
        · have : h.built.length + 1 ≤ n := by omega
          have hnone : (h.built ++ [h.blueprint h.built.length])[n]? = none :=
            List.getElem?_eq_none (by simpa using this)
          simpa [device, hnone] using hu.idle .vendor
  blueprint := hu.blueprint
  mocks := hu.mocks
  primary_holds {slot} hp := by
    have hold := hu.primary_holds hp
    cases slot with
    | vendor => trivial
    | built n => exact Nat.lt_of_lt_of_le hold (by simp)
  compatible_holds {slot} hc := by
    have hold := hu.compatible_holds hc
    cases slot with
    | vendor => trivial
    | built n => exact Nat.lt_of_lt_of_le hold (by simp)

theorem holds_openSlot (h : Hardware) (slot slot' : Slot) :
    (h.openSlot slot).2.Holds slot' ↔ h.Holds slot' :=
  holds_setDevice ..

theorem Unused.openBuilt {h h' : Hardware} {r : Except HardwareError Slot} (hu : h.Unused)
    (ho : h.openBuilt = (r, h')) : h'.Unused ∧ ∀ slot, r = .ok slot → h'.Holds slot := by
  have hb := hu.build.openSlot (.built h.built.length)
  have hlast := (holds_openSlot { h with built := h.built ++ [h.blueprint h.built.length] }
    (.built h.built.length) (.built h.built.length)).2 (by simp [Holds])
  unfold Hardware.openBuilt at ho
  simp only at ho
  split at ho
  · next heq =>
    rw [heq] at hb hlast
    cases ho
    exact ⟨hb, fun slot hslot => by cases hslot; exact hlast⟩
  · next heq =>
    rw [heq] at hb
    cases ho
    exact ⟨hb, fun slot hslot => by cases hslot⟩

theorem Unused.openPrimary {h h' : Hardware} {r : Except HardwareError Slot} (hu : h.Unused)
    (ho : h.openPrimary = (r, h')) : h'.Unused ∧ ∀ slot, r = .ok slot → h'.Holds slot := by
  unfold Hardware.openPrimary at ho
  split at ho
  · exact hu.openBuilt ho
  · have hv := hu.openSlot .vendor
    split at ho
    · next heq =>
      rw [heq] at hv
      cases ho
      exact ⟨hv, fun slot hslot => by cases hslot; trivial⟩
    · next heq =>
      rw [heq] at hv
      exact hv.openBuilt ho

theorem Unused.connect {h : Hardware} (hu : h.Unused) : h.connect.2.Unused := by
  unfold Hardware.connect
  rcases hp : h.openPrimary with ⟨_ | slot, h₁⟩
  · exact (hu.openPrimary hp).1
  · obtain ⟨hu₁, hslot⟩ := hu.openPrimary hp
    have hl := hu₁.listen slot
    have hu₂ : Unused { h₁.listen slot with
        listed := (h₁.device slot).listed, primary := some slot } :=
      ⟨hl.silent, hl.idle, hl.blueprint, hl.mocks, fun hs => by
        cases hs; exact (holds_setDevice ..).2 (hslot _ rfl), hl.compatible_holds⟩
    simp only
    split
    · exact hu₂
    · split
      · next hb => exact (hu₂.openBuilt hb).1
      · next slot' h₃ hb =>
        obtain ⟨hu₃, hslot'⟩ := hu₂.openBuilt hb
        have hl' := hu₃.listen slot'
        exact ⟨hl'.silent, hl'.idle, hl'.blueprint, hl'.mocks, hl'.primary_holds, fun hs => by
          cases hs; exact (holds_setDevice ..).2 (hslot' _ rfl)⟩

theorem Unused.sound {h : Hardware} (hu : h.Unused) : h.Sound where
  home_holds {s slot} hhome := by
    unfold home at hhome
    split at hhome
    · exact hu.primary_holds hhome
    · exact hu.compatible_holds hhome
  not_lists_of_isMocked hm := by simp [isMocked, hu.mocks, Table.contains] at hm
  apart _ _ := ⟨(hu.idle _).reports _, (hu.idle _).programmed _⟩

theorem Unused.runs {h : Hardware} (hu : h.Unused) (s : SensorId) : h.runs s = false := by
  rw [Bool.eq_false_iff]
  intro hr
  obtain ⟨slot, -, hr⟩ := runs_iff.1 hr
  rw [(hu.idle slot).reports s] at hr
  cases hr

end Hardware
end SensorBroker
