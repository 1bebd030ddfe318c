/-
# Mocks and routing stay in step

What is listed, what is served and where a call goes are read off different
records: the sensors the primary backend listed when it was opened, the mocks,
and the two slots. Once the connection is open these agree, and go on agreeing
while mocks come and go and calls are made (`Hardware.Routed`): no sensor of
the primary backend is mocked, every mock has a descriptor, and there is a
compatible backend, other than the primary, wherever there is a mock.

Then each sensor that is served is listed once, and a call about it is made at
one backend only (`Hardware.InStep`). That a call was made at a backend is read
off the log of the backend, whatever came of the call.

Key definitions: `Hardware.Op`, `Hardware.after`, `Hardware.Unopened`,
`Hardware.Routed`, `Hardware.Reached`, `Hardware.InStep`.
Key theorems: `Hardware.Unopened.routed`, `Hardware.Routed.step`,
`Hardware.Routed.reached_iff`, `Hardware.Unopened.inStep_after`.
-/
import Mathlib.Data.List.Count
import Mathlib.Data.List.Nodup
import SensorBroker.Proofs.Hardware.Home

namespace SensorBroker

/-- A mock is listed as the sensor it stands for. -/
theorem sensor_of_mockDescriptor {s : SensorId} {d : Descriptor} (h : mockDescriptor s = some d) :
    d.sensor = s := by
  unfold mockDescriptor at h
  simp only at h
  split_ifs at h <;> cases h <;> rfl

namespace Hardware

variable {h h' : Hardware}

/-! ### What is done with a connection -/

/-- Something that is done with a connection. -/
inductive Op
  | inject (s : SensorId)
  | withdraw (s : SensorId)
  | call (c : DeviceCall)

/-- The connection after something was done. -/
def step (h : Hardware) : Op → Hardware
  | .inject s => (h.inject s).2
  | .withdraw s => (h.withdraw s).2
  | .call c => (h.perform c).2

/-- The connection after a run. -/
def after (h : Hardware) (ops : List Op) : Hardware :=
  ops.foldl step h

/-- A connection that has not been opened yet, whatever was tried. -/
inductive Unopened : Hardware → Prop
  | ofSettings (settings : HardwareSettings) (vendor : Device) (blueprint : Nat → Device) :
    Unopened (ofSettings settings vendor blueprint)
  | fails {h h' : Hardware} {e : HardwareError} (before : Unopened h)
    (fails : h.connect = (.error e, h')) : Unopened h'
  | step {h : Hardware} (before : Unopened h) (op : Op) : Unopened (h.step op)
  | disconnect {h : Hardware} (before : Unopened h) : Unopened h.disconnect

/-! ### Backends change, the records do not -/

/-- Nothing but the backends, and what they raised, has changed; no backend has
gone. -/
structure SameRecords (h h' : Hardware) : Prop where
  primary : h'.primary = h.primary
  compatible : h'.compatible = h.compatible
  listed : h'.listed = h.listed
  mocks : h'.mocks = h.mocks
  holds : ∀ {slot}, h.Holds slot → h'.Holds slot

theorem SameRecords.refl (h : Hardware) : h.SameRecords h :=
  ⟨rfl, rfl, rfl, rfl, id⟩

theorem SameRecords.trans {h'' : Hardware} (a : h.SameRecords h') (b : h'.SameRecords h'') :
    h.SameRecords h'' :=
  ⟨b.primary.trans a.primary, b.compatible.trans a.compatible, b.listed.trans a.listed,
    b.mocks.trans a.mocks, b.holds ∘ a.holds⟩

theorem sameRecords_setDevice (h : Hardware) (d : Device) (slot : Slot) :
    h.SameRecords (h.setDevice d slot) := by
  refine ⟨?_, ?_, ?_, ?_, (holds_setDevice ..).2⟩ <;> cases slot <;> rfl

theorem sameRecords_build (h : Hardware) :
    h.SameRecords { h with built := h.built ++ [h.blueprint h.built.length] } := by
  refine ⟨rfl, rfl, rfl, rfl, fun {slot} hslot => ?_⟩
  cases slot with
  | vendor => trivial
  | built n =>
    have hn : n < h.built.length := hslot
    show n < (h.built ++ [h.blueprint h.built.length]).length
    rw [List.length_append]
    omega

theorem sameRecords_openSlot (h : Hardware) (slot : Slot) :
    h.SameRecords (h.openSlot slot).2 :=
  h.sameRecords_setDevice ..

/-- A backend that is built has a slot of its own. -/
theorem openBuilt_spec {r : Except HardwareError Slot} (ho : h.openBuilt = (r, h')) :
    h.SameRecords h' ∧ ∀ slot, r = .ok slot → h'.Holds slot ∧ ¬ h.Holds slot := by
  have hopen := h.sameRecords_build.trans (sameRecords_openSlot _ (.built h.built.length))
  have hlast := (holds_openSlot { h with built := h.built ++ [h.blueprint h.built.length] }
    (.built h.built.length) (.built h.built.length)).2 (by simp [Holds])
  unfold openBuilt at ho
  simp only at ho
  split at ho
  · next hslot =>
    rw [hslot] at hopen hlast
    cases ho
    refine ⟨hopen, fun slot heq => ?_⟩
    cases heq
    exact ⟨hlast, Nat.lt_irrefl _⟩
  · next hslot =>
    rw [hslot] at hopen
    cases ho
    exact ⟨hopen, fun slot heq => by cases heq⟩

theorem openPrimary_spec {r : Except HardwareError Slot} (ho : h.openPrimary = (r, h')) :
    h.SameRecords h' ∧ ∀ slot, r = .ok slot → h'.Holds slot := by
  have hvendor := h.sameRecords_openSlot .vendor
  unfold openPrimary at ho
  split at ho
  · obtain ⟨hsame, hslot⟩ := openBuilt_spec ho
    exact ⟨hsame, fun slot heq => (hslot slot heq).1⟩
  · split at ho
    · next hopen =>
      rw [hopen] at hvendor
      cases ho
      exact ⟨hvendor, fun slot heq => by cases heq; trivial⟩
    · next hopen =>
      rw [hopen] at hvendor
      obtain ⟨hsame, hslot⟩ := openBuilt_spec ho
      exact ⟨hvendor.trans hsame, fun slot heq => (hslot slot heq).1⟩

/-- The connection once its primary backend is open and has said which sensors
it has. -/
def withPrimary (h : Hardware) (p : Slot) : Hardware :=
  { h.listen p with listed := (h.device p).listed, primary := some p }

/-- Where connecting may end. -/
theorem connect_cases {r : Except HardwareError Unit} (hc : h.connect = (r, h')) :
    (∃ e, h.openPrimary = (.error e, h') ∧ r = .error e) ∨
      ∃ p h₁, h.openPrimary = (.ok p, h₁) ∧
        ((r = .ok () ∧ h' = h₁.withPrimary p) ∨
          (∃ e, (h₁.withPrimary p).openBuilt = (.error e, h') ∧ r = .error e) ∨
          ∃ c h₂, (h₁.withPrimary p).openBuilt = (.ok c, h₂) ∧ r = .ok () ∧
            h' = { h₂.listen c with compatible := some c }) := by
  unfold connect at hc
  rcases hp : h.openPrimary with ⟨e | p, h₁⟩
  · rw [hp] at hc
    cases hc
    exact .inl ⟨e, rfl, rfl⟩
  · rw [hp] at hc
    refine .inr ⟨p, h₁, rfl, ?_⟩
    simp only at hc
    split_ifs at hc
    · cases hc
      exact .inl ⟨rfl, rfl⟩
    · rcases hb : (h₁.withPrimary p).openBuilt with ⟨e | c, h₂⟩
      · rw [withPrimary] at hb
        rw [hb] at hc
        cases hc
        exact .inr (.inl ⟨e, rfl, rfl⟩)
      · rw [withPrimary] at hb
        rw [hb] at hc
        cases hc
        exact .inr (.inr ⟨c, h₂, rfl, rfl, rfl⟩)

/-- Opening the primary backend fills its slot, and touches no mock. -/
theorem withPrimary_spec {p : Slot} {h₁ : Hardware} (hp : h.openPrimary = (.ok p, h₁)) :
    (h₁.withPrimary p).primary = some p ∧ (h₁.withPrimary p).Holds p ∧
      (h₁.withPrimary p).compatible = h.compatible ∧ (h₁.withPrimary p).mocks = h.mocks := by
  obtain ⟨hopened, hheld⟩ := openPrimary_spec hp
  have hlisten := h₁.sameRecords_setDevice (h₁.device p).listen p
  exact ⟨rfl, hlisten.holds (hheld p rfl), hlisten.compatible.trans hopened.compatible,
    hlisten.mocks.trans hopened.mocks⟩

/-- A connection that did not open has no new compatible backend. -/
theorem connect_error {e : HardwareError} (hc : h.connect = (.error e, h')) :
    h'.compatible = h.compatible ∧ h'.mocks = h.mocks := by
  rcases connect_cases hc with ⟨e', hp, -⟩ | ⟨p, h₁, hp, hrest⟩
  · obtain ⟨hsame, -⟩ := openPrimary_spec hp
    exact ⟨hsame.compatible, hsame.mocks⟩
  · obtain ⟨-, -, hcompatible, hmocks⟩ := withPrimary_spec hp
    rcases hrest with ⟨hr, -⟩ | ⟨e', hb, -⟩ | ⟨c, h₂, -, hr, -⟩
    · cases hr
    · obtain ⟨hsame, -⟩ := openBuilt_spec hb
      exact ⟨hsame.compatible.trans hcompatible, hsame.mocks.trans hmocks⟩
    · cases hr

/-- A connection that opened has a primary backend, and a compatible one that is
another, if it has a new one. -/
theorem connect_ok (hc : h.connect = (.ok (), h')) :
    h'.mocks = h.mocks ∧ ∃ p, h'.primary = some p ∧ h'.Holds p ∧
      (h'.compatible = h.compatible ∨ ∃ c, h'.compatible = some c ∧ h'.Holds c ∧ c ≠ p) := by
  rcases connect_cases hc with ⟨e, -, hr⟩ | ⟨p, h₁, hp, hrest⟩
  · cases hr
  · obtain ⟨hprimary, hholds, hcompatible, hmocks⟩ := withPrimary_spec hp
    rcases hrest with ⟨-, rfl⟩ | ⟨e, -, hr⟩ | ⟨c, h₂, hb, -, rfl⟩
    · exact ⟨hmocks, p, hprimary, hholds, .inl hcompatible⟩
    · cases hr
    · obtain ⟨hbuilt, hnew⟩ := openBuilt_spec hb
      obtain ⟨hheld, hfresh⟩ := hnew c rfl
      have hsame := hbuilt.trans (h₂.sameRecords_setDevice (h₂.device c).listen c)
      refine ⟨hsame.mocks.trans hmocks, p, hsame.primary.trans hprimary, hsame.holds hholds,
        .inr ⟨c, rfl, (holds_setDevice ..).2 hheld, ?_⟩⟩
      rintro rfl
      exact hfresh hholds

/-! ### Before the connection is open -/

/-- A call changes no record. -/
theorem sameRecords_perform (h : Hardware) (c : DeviceCall) : h.SameRecords (h.perform c).2 := by
  unfold perform
  split
  · exact .refl h
  · next slot _ =>
    have hset := h.sameRecords_setDevice ((h.device slot).perform c).device slot
    exact ⟨hset.primary, hset.compatible, hset.listed, hset.mocks, hset.holds⟩

theorem sameRecords_closeSlot (h : Hardware) (slot : Option Slot) :
    h.SameRecords (h.closeSlot slot) := by
  cases slot with
  | none => exact .refl h
  | some slot => exact h.sameRecords_setDevice ..

/-- Before the connection is open nothing can be mocked. -/
theorem Unopened.mockless (hu : h.Unopened) : h.compatible = none ∧ h.mocks = ∅ := by
  induction hu with
  | ofSettings => exact ⟨rfl, rfl⟩
  | fails _ hc ih =>
    obtain ⟨hcompatible, hmocks⟩ := connect_error hc
    exact ⟨hcompatible.trans ih.1, hmocks.trans ih.2⟩
  | @step h _ op ih =>
    cases op with
    | inject s =>
      simp only [Hardware.step, inject, ih.1, Option.isNone_none, if_true]
      split_ifs <;> exact ih
    | withdraw s =>
      have hnone : h.isMocked s = false := by simp [isMocked, Table.contains, ih.2]
      simpa [Hardware.step, withdraw, hnone] using ih
    | call c =>
      have hsame := h.sameRecords_perform c
      exact ⟨hsame.compatible.trans ih.1, hsame.mocks.trans ih.2⟩
  | @disconnect h _ ih =>
    have hfirst := h.sameRecords_closeSlot h.compatible
    have hsecond := sameRecords_closeSlot { h.closeSlot h.compatible with compatible := none }
      (h.closeSlot h.compatible).primary
    exact ⟨hsecond.compatible, hsecond.mocks.trans (hfirst.mocks.trans ih.2)⟩

/-! ### The records agree -/

/-- The records of an open connection agree. -/
structure Routed (h : Hardware) : Prop where
  primary : ∃ p, h.primary = some p ∧ h.Holds p
  compatible : ∀ {c}, h.compatible = some c → h.Holds c ∧ h.primary ≠ some c
  /-- A mock is no sensor of the primary backend, has a descriptor and has a
  backend. -/
  mocked : ∀ {s}, h.isMocked s = true →
    h.lists s = false ∧ (mockDescriptor s).isSome = true ∧ h.compatible.isSome = true
  /-- The primary backend lists no sensor twice. -/
  distinct : (h.listed.map Descriptor.sensor).Nodup

theorem Unopened.routed (hu : h.Unopened) (hc : h.connect = (.ok (), h'))
    (distinct : (h'.listed.map Descriptor.sensor).Nodup) : h'.Routed := by
  obtain ⟨hcompatible, hnone⟩ := hu.mockless
  obtain ⟨hmocks, p, hprimary, hholds, hsecond⟩ := connect_ok hc
  refine ⟨⟨p, hprimary, hholds⟩, fun {c} hcomp => ?_, fun {s} hm => ?_, distinct⟩
  · rcases hsecond with hsame | ⟨c', hc', hholds', hne⟩
    · rw [hsame, hcompatible] at hcomp
      cases hcomp
    · rw [hc'] at hcomp
      cases hcomp
      refine ⟨hholds', fun heq => hne ?_⟩
      rw [hprimary] at heq
      exact (Option.some.inj heq).symm
  · simp [isMocked, Table.contains, hmocks, hnone] at hm

namespace Routed

theorem of_sameRecords (hr : h.Routed) (same : h.SameRecords h') : h'.Routed where
  primary := by
    obtain ⟨p, hp, hholds⟩ := hr.primary
    exact ⟨p, same.primary.trans hp, same.holds hholds⟩
  compatible hc := by
    obtain ⟨hholds, hne⟩ := hr.compatible (same.compatible.symm.trans hc)
    exact ⟨same.holds hholds, same.primary ▸ hne⟩
  mocked {s} hm := by
    have hlists : h'.lists s = h.lists s := by rw [lists, lists, same.listed]
    rw [hlists, same.compatible]
    refine hr.mocked ?_
    rwa [isMocked, same.mocks] at hm
  distinct := same.listed ▸ hr.distinct

theorem inject (hr : h.Routed) (s : SensorId) : (h.inject s).2.Routed := by
  unfold Hardware.inject
  split_ifs with hl hsupported hc
  all_goals try exact hr
  simp only [Bool.or_eq_true, not_or, Option.isNone_iff_eq_none] at hsupported hc
  refine ⟨hr.primary, hr.compatible, fun {s'} hm => ?_, hr.distinct⟩
  by_cases hs : s' = s
  · subst hs
    exact ⟨Bool.eq_false_iff.2 hl, Option.isSome_iff_ne_none.2 hsupported.2,
      Option.isSome_iff_ne_none.2 hc⟩
  · refine hr.mocked ?_
    simpa [isMocked, Table.contains, Table.get?_insert_of_ne _ _ hs] using hm

theorem withdraw (hr : h.Routed) (s : SensorId) : (h.withdraw s).2.Routed := by
  unfold Hardware.withdraw
  split_ifs
  · refine ⟨hr.primary, hr.compatible, fun {s'} hm => hr.mocked ?_, hr.distinct⟩
    by_cases hs : s' = s
    · simp [isMocked, Table.contains, hs] at hm
    · simpa [isMocked, Table.contains, Table.get?_erase_of_ne _ hs] using hm
  · exact hr

/-- **Nothing that is done with an open connection sets its records at odds.** -/
theorem step (hr : h.Routed) (op : Op) : (h.step op).Routed := by
  cases op with
  | inject s => exact hr.inject s
  | withdraw s => exact hr.withdraw s
  | call c => exact hr.of_sameRecords (h.sameRecords_perform c)

theorem after (hr : h.Routed) (ops : List Op) : (h.after ops).Routed := by
  induction ops generalizing h with
  | nil => exact hr
  | cons op ops ih => exact ih (hr.step op)

end Routed

/-! ### What is listed -/

theorem isMocked_iff {s : SensorId} : h.isMocked s = true ↔ s ∈ h.mocks.keys :=
  h.mocks.contains_iff

theorem lists_iff {s : SensorId} : h.lists s = true ↔ s ∈ h.listed.map Descriptor.sensor := by
  simp [lists]

/-- The sensors that are listed are those of the primary backend, then the
mocks. -/
theorem Routed.map_sensor_sensors (hr : h.Routed) :
    h.sensors.map Descriptor.sensor = h.listed.map Descriptor.sensor ++ h.mocks.keys := by
  have hmocks : ∀ ids : List SensorId, (∀ s ∈ ids, (mockDescriptor s).isSome = true) →
      (ids.filterMap mockDescriptor).map Descriptor.sensor = ids := by
    intro ids hids
    induction ids with
    | nil => rfl
    | cons s rest ih =>
      obtain ⟨d, hd⟩ := Option.isSome_iff_exists.1 (hids s List.mem_cons_self)
      rw [List.filterMap_cons_some hd, List.map_cons, sensor_of_mockDescriptor hd,
        ih fun s' hs' => hids s' (List.mem_cons_of_mem s hs')]
  rw [sensors, List.map_append, hmocks]
  intro s hs
  exact (hr.mocked (isMocked_iff.2 hs)).2.1

/-- No sensor is listed twice. -/
theorem Routed.nodup_sensors (hr : h.Routed) : (h.sensors.map Descriptor.sensor).Nodup := by
  rw [hr.map_sensor_sensors, List.nodup_append]
  refine ⟨hr.distinct, h.mocks.nodup_keys, ?_⟩
  rintro s hlisted s' hmock rfl
  have hnot := (hr.mocked (isMocked_iff.2 hmock)).1
  rw [lists_iff.2 hlisted] at hnot
  cases hnot

/-- A sensor is listed once if it is served, and not at all if it is not. -/
theorem Routed.countP_sensors (hr : h.Routed) (s : SensorId) :
    (h.sensors.countP fun d => d.sensor = s) = if h.has s then 1 else 0 := by
  have hhas : h.has s = true ↔ s ∈ h.sensors.map Descriptor.sensor := by
    rw [hr.map_sensor_sensors, List.mem_append, has, Bool.or_eq_true, lists_iff, isMocked_iff]
  calc (h.sensors.countP fun d => d.sensor = s)
      = (h.sensors.map Descriptor.sensor).count s := by
        rw [List.count, List.countP_map]
        rfl
    _ = if s ∈ h.sensors.map Descriptor.sensor then 1 else 0 := hr.nodup_sensors.count
    _ = if h.has s then 1 else 0 := by simp only [hhas]

/-! ### Where a call is made -/

/-- A call was made at the backend in a slot: it is the latest of its log. -/
def Reached (h : Hardware) (c : DeviceCall) (slot : Slot) : Prop :=
  ((h.perform c).2.device slot).log = ⟨c, (h.perform c).1.isOk⟩ :: (h.device slot).log

/-- A call is made at the backend it is routed to, and is nothing to the
others. -/
theorem perform_of_route {c : DeviceCall} {slot : Slot} (hroute : h.route c.sensor = .ok slot)
    (hslot : h.Holds slot) :
    (h.perform c).1 = ((h.device slot).perform c).result ∧
      (h.perform c).2.device slot = ((h.device slot).perform c).device ∧
      ∀ other, h.Holds other → other ≠ slot → (h.perform c).2.device other = h.device other := by
  have hperform : h.perform c = (((h.device slot).perform c).result,
      { h.setDevice ((h.device slot).perform c).device slot with
        raised := h.raised ++ ((h.device slot).perform c).raised }) := by
    simp only [perform, hroute]
  rw [hperform]
  refine ⟨rfl, ?_, fun other hother hne => ?_⟩
  · exact device_setDevice_self hslot _
  · exact device_setDevice_of_ne hother hne _

theorem route_of_not_has {s : SensorId} (hhas : h.has s = false) :
    h.route s = .error (.sensorNotFound s) := by
  rw [has, Bool.or_eq_false_iff] at hhas
  simp [route, hhas.1, hhas.2]

/-- A call about a sensor that is not served reaches no backend. -/
theorem perform_of_not_has {c : DeviceCall} (hhas : h.has c.sensor = false) :
    h.perform c = (.error (.sensorNotFound c.sensor), h) :=
  perform_of_route_error (route_of_not_has hhas)

namespace Routed

/-- Mocks are served by the compatible backend, the other sensors that there
are by the primary. -/
theorem route_eq_ok_iff (hr : h.Routed) {s : SensorId} {slot : Slot} :
    h.route s = .ok slot ↔ (h.isMocked s = true ∧ h.compatible = some slot) ∨
      (h.lists s = true ∧ h.primary = some slot) := by
  obtain ⟨p, hp, -⟩ := hr.primary
  simp only [route, hp]
  by_cases hm : h.isMocked s = true
  · obtain ⟨hl, -, hc⟩ := hr.mocked hm
    obtain ⟨c, hc⟩ := Option.isSome_iff_exists.1 hc
    simp [hm, hl, hc]
  · by_cases hl : h.lists s = true
    · simp [hm, hl]
    · simp [hm, hl]

theorem holds_of_route (hr : h.Routed) {s : SensorId} {slot : Slot}
    (hroute : h.route s = .ok slot) : h.Holds slot := by
  rcases hr.route_eq_ok_iff.1 hroute with ⟨-, hc⟩ | ⟨-, hp⟩
  · exact (hr.compatible hc).1
  · obtain ⟨p, hp', hholds⟩ := hr.primary
    rw [hp'] at hp
    cases hp
    exact hholds

theorem exists_route (hr : h.Routed) {s : SensorId} (hhas : h.has s = true) :
    ∃ slot, h.route s = .ok slot := by
  by_cases hm : h.isMocked s = true
  · obtain ⟨c, hc⟩ := Option.isSome_iff_exists.1 (hr.mocked hm).2.2
    exact ⟨c, hr.route_eq_ok_iff.2 (.inl ⟨hm, hc⟩)⟩
  · obtain ⟨p, hp, -⟩ := hr.primary
    have hl : h.lists s = true := by simpa [has, hm] using hhas
    exact ⟨p, hr.route_eq_ok_iff.2 (.inr ⟨hl, hp⟩)⟩

/-- **A call reaches the backend it is routed to, and no other.** -/
theorem reached_iff (hr : h.Routed) {c : DeviceCall} {slot : Slot} (hslot : h.Holds slot) :
    h.Reached c slot ↔ h.route c.sensor = .ok slot := by
  have hunlogged : (h.perform c).2.device slot = h.device slot → ¬ h.Reached c slot := by
    intro hsame hreached
    rw [Reached, hsame] at hreached
    exact List.cons_ne_self _ _ hreached.symm
  cases hhas : h.has c.sensor with
  | false =>
    refine iff_of_false (hunlogged ?_) ?_
    · rw [perform_of_not_has hhas]
    · rw [route_of_not_has hhas]
      nofun
  | true =>
    obtain ⟨target, hroute⟩ := hr.exists_route hhas
    obtain ⟨hresult, hdone, hothers⟩ := perform_of_route hroute (hr.holds_of_route hroute)
    rw [hroute]
    by_cases heq : slot = target
    · subst heq
      refine iff_of_true ?_ rfl
      rw [Reached, hdone, hresult, Device.log_perform]
    · refine iff_of_false (hunlogged (hothers slot hslot heq)) fun hsame => heq ?_
      exact (Except.ok.inj hsame).symm

end Routed

/-! ### Mocks and routing agree -/

/-- What is mocked, what is listed, what is served and where calls are made
agree. -/
structure InStep (h : Hardware) : Prop where
  apart : ∀ s, h.isMocked s = true → h.lists s = false
  listed : ∀ s, (h.sensors.countP fun d => d.sensor = s) = if h.has s then 1 else 0
  /-- A call about a sensor that is served is made at one backend, which decides
  what comes of it, and changes no other. -/
  once : ∀ c, h.has c.sensor = true → ∃ slot,
    (h.compatible = some slot ∨ h.primary = some slot) ∧ h.Holds slot ∧ h.Reached c slot ∧
      (h.perform c).1 = ((h.device slot).perform c).result ∧
      (h.perform c).2.device slot = ((h.device slot).perform c).device ∧
      ∀ other, h.Holds other → other ≠ slot → (h.perform c).2.device other = h.device other
  compatible : ∀ c slot, h.compatible = some slot →
    (h.Reached c slot ↔ h.isMocked c.sensor = true)
  primary : ∀ c slot, h.primary = some slot → (h.Reached c slot ↔ h.lists c.sensor = true)
  nowhere : ∀ c, h.has c.sensor = false → h.perform c = (.error (.sensorNotFound c.sensor), h)
  inject : ∀ s e, (h.inject s).1 = .error e → (h.inject s).2 = h
  withdraw : ∀ s e, (h.withdraw s).1 = .error e → (h.withdraw s).2 = h

theorem Routed.inStep (hr : h.Routed) : h.InStep where
  apart s hm := (hr.mocked hm).1
  listed := hr.countP_sensors
  once c hhas := by
    obtain ⟨slot, hroute⟩ := hr.exists_route hhas
    have hslot := hr.holds_of_route hroute
    refine ⟨slot, ?_, hslot, (hr.reached_iff hslot).2 hroute, perform_of_route hroute hslot⟩
    exact (hr.route_eq_ok_iff.1 hroute).imp And.right And.right
  compatible c slot hslot := by
    obtain ⟨hholds, hne⟩ := hr.compatible hslot
    rw [hr.reached_iff hholds, hr.route_eq_ok_iff]
    simp [hslot, hne]
  primary c slot hslot := by
    have hne : h.compatible ≠ some slot := fun hc => (hr.compatible hc).2 hslot
    obtain ⟨p, hp, hholds⟩ := hr.primary
    rw [hslot] at hp
    cases hp
    rw [hr.reached_iff hholds, hr.route_eq_ok_iff]
    simp [hslot, hne]
  nowhere c := perform_of_not_has
  inject s e he := by
    unfold Hardware.inject at he ⊢
    split_ifs at he ⊢ <;> rfl
  withdraw s e he := by
    unfold Hardware.withdraw at he ⊢
    split_ifs at he ⊢
    rfl

/-- **Mocks and routing stay in step.** Once a connection has been opened, with
any backends and any sensors that may be mocked, its mocks, its list and the
backends that calls are made at agree, whatever is mocked, withdrawn and called
from then on; all that is asked of the backends is that the primary one lists no
sensor twice. -/
theorem Unopened.inStep_after (hu : h.Unopened) (hc : h.connect = (.ok (), h'))
    (distinct : (h'.listed.map Descriptor.sensor).Nodup) (ops : List Op) :
    (h'.after ops).InStep :=
  ((hu.routed hc distinct).after ops).inStep

/-- A vendor's backend that has one sensor, and software ones beside it. -/
def lone : Hardware :=
  .ofSettings {} (.scripted "vendor" [Device.scriptedDescriptor .accelerometer]
    (fun _ _ => false) false false) fun _ => .software

/-- A mock comes, is called and goes. -/
theorem lone_inStep :
    (lone.connect.2.after [.inject .color, .call (.enable .color)]).InStep ∧
      (lone.connect.2.after [.inject .color, .call (.enable .color)]).isMocked .color = true ∧
      (lone.connect.2.after [.inject .color, .withdraw .color, .inject .pedometer]).InStep := by
  have hconnect : lone.connect = (.ok (), lone.connect.2) := rfl
  have hstart : lone.Unopened := .ofSettings ..
  exact ⟨hstart.inStep_after hconnect (by decide) _, by decide +kernel,
    hstart.inStep_after hconnect (by decide) _⟩

end Hardware
end SensorBroker
