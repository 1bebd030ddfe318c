/-
# Backends that refuse nothing

While no backend refuses a call (`Hardware.Obliges`), a request is only turned
down for what it asks: enabling a sensor works if the request passes the check,
and ending a subscription works if the sensor is still served. For that a call
has to reach a backend, and every call about a sensor that is served does, in
every broker that is running (`Hardware.Linked`).

That nothing was refused along a run can be told from its two ends, because the
logs of backends only go on: what is refused once stays in the log.

Key definitions: `Device.refusals`, `Hardware.Obliges`, `Hardware.Reaches`,
`Hardware.Linked`.
Key theorems: `Hardware.Obliges.between`, `Arbitration.exists_enable_ok`,
`Arbitration.exists_disable_ok`, `Broker.Shifts.equipped`,
`Broker.Reachable.linked`.
-/
import SensorBroker.Proofs.Service.Orderly
import SensorBroker.Proofs.Service.Withdrawing

namespace SensorBroker

/-- The calls a backend has refused, latest first. -/
def Device.refusals (d : Device) : List LoggedCall :=
  d.log.filter fun c => !c.accepted

namespace Hardware

variable {h h' : Hardware} {s : SensorId}

/-- No backend has refused a call since. -/
def Obliges (h h' : Hardware) : Prop :=
  ∀ slot, h.Holds slot → (h'.device slot).refusals = (h.device slot).refusals

/-- It shows in the vendor's backend and in each one that was built. -/
theorem obliges_iff : h.Obliges h' ↔ h'.vendor.refusals = h.vendor.refusals ∧
    ∀ n < h.built.length, (h'.device (.built n)).refusals = (h.device (.built n)).refusals := by
  constructor
  · exact fun ho => ⟨ho .vendor trivial, fun n hn => ho (.built n) hn⟩
  · rintro ⟨hvendor, hbuilt⟩ (_ | n) hslot
    · exact hvendor
    · exact hbuilt n hslot

/-- Calls about a sensor reach a backend. -/
def Reaches (h : Hardware) (s : SensorId) : Prop :=
  ∃ slot, h.Holds slot ∧ h.route s = .ok slot

/-- Calls about whatever sensor is served reach a backend. -/
def Linked (h : Hardware) : Prop :=
  ∀ s, h.has s = true → h.Reaches s

theorem Equipped.refusals_le (he : h.Equipped h') {slot : Slot} (hslot : h.Holds slot) :
    (h.device slot).refusals.length ≤ (h'.device slot).refusals.length :=
  ((he.logs slot hslot).filter _).length_le

/-- If nothing was refused along a way, nothing was refused on a part of it. -/
theorem Obliges.between {h₁ h₂ : Hardware} (ho : h.Obliges h') (first : h.Equipped h₁)
    (part : h₁.Equipped h₂) (last : h₂.Equipped h') : h₁.Obliges h₂ := by
  intro slot hslot
  have hheld : h.Holds slot := (first.holds slot).1 hslot
  have hbefore := first.refusals_le hheld
  have hafter := last.refusals_le ((part.holds slot).2 hslot)
  have hpart := part.refusals_le hslot
  rw [ho slot hheld] at hafter
  have hsuffix : (h₁.device slot).refusals <:+ (h₂.device slot).refusals :=
    (part.logs slot hslot).filter _
  exact (hsuffix.eq_of_length (by omega)).symm

theorem Reaches.of_equipped (hr : h.Reaches s) (he : h.Equipped h') : h'.Reaches s := by
  obtain ⟨slot, hslot, hroute⟩ := hr
  exact ⟨slot, (he.holds slot).2 hslot, (he.route s).trans hroute⟩

theorem Linked.of_equipped (hl : h.Linked) (he : h.Equipped h') : h'.Linked :=
  fun s hhas => (hl s ((he.has s).symm.trans hhas)).of_equipped he

/-- **A call that reaches a backend is done** if nothing is refused. -/
theorem Obliges.perform_ok {c : DeviceCall} {result : Except HardwareError Unit}
    (hr : h.Reaches c.sensor) (hp : h.perform c = (result, h')) (ho : h.Obliges h') :
    result = .ok () := by
  obtain ⟨slot, hslot, hroute⟩ := hr
  simp only [Hardware.perform, hroute, Prod.mk.injEq] at hp
  obtain ⟨rfl, rfl⟩ := hp
  have hdevice : (h.setDevice ((h.device slot).perform c).device slot).device slot
      = ((h.device slot).perform c).device := device_setDevice_self hslot _
  have hsame : ((h.device slot).perform c).device.refusals = (h.device slot).refusals := by
    rw [← ho slot hslot]
    exact congrArg Device.refusals hdevice.symm
  cases hresult : ((h.device slot).perform c).result with
  | ok => rfl
  | error e =>
    -- a call that was refused would stand first among the refusals
    have hmore : ((h.device slot).perform c).device.refusals
        = ⟨c, false⟩ :: (h.device slot).refusals := by
      rw [Device.refusals, Device.log_perform, hresult]
      rfl
    rw [hmore] at hsame
    exact absurd hsame (List.cons_ne_self _ _)

/-! ### Mocks and opening -/

/-- What is served is reached if it has a home, and only then. -/
theorem Sound.reaches_iff (hs : h.Sound) (hhas : h.has s = true) :
    h.Reaches s ↔ (h.home s).isSome = true := by
  constructor
  · rintro ⟨slot, -, hroute⟩
    rw [hs.home_of_route hroute]
    rfl
  · intro hsome
    obtain ⟨slot, hhome⟩ := Option.isSome_iff_exists.1 hsome
    exact ⟨slot, hs.home_holds hhome, hs.route_of_has hhas hhome⟩

theorem home_inject (h : Hardware) (s s' : SensorId) : (h.inject s).2.home s' = h.home s' := by
  unfold inject
  split_ifs <;> rfl

theorem home_withdraw (h : Hardware) (s s' : SensorId) :
    (h.withdraw s).2.home s' = h.home s' := by
  unfold withdraw
  split_ifs <;> rfl

/-- A sensor is mocked by a backend that is open; the others are served as before. -/
theorem home_or_has_of_has_inject {s' : SensorId} (hhas : (h.inject s).2.has s' = true) :
    h.has s' = true ∨ (h.home s').isSome = true := by
  unfold inject at hhas
  split_ifs at hhas with hlists _ hnone
  all_goals try exact .inl hhas
  by_cases heq : s' = s
  · right
    rw [heq, home, if_neg hlists]
    exact Option.isSome_iff_ne_none.2 fun hno => hnone (Option.isNone_iff_eq_none.2 hno)
  · left
    unfold has isMocked Table.contains at hhas
    rwa [Table.get?_insert_of_ne _ _ heq] at hhas

theorem Linked.inject (hl : h.Linked) (hs : h.Sound) (s : SensorId) :
    (h.inject s).2.Linked := by
  intro s' hhas
  rw [(hs.inject s).reaches_iff hhas, home_inject]
  rcases home_or_has_of_has_inject hhas with hbefore | hhome
  · exact (hs.reaches_iff hbefore).1 (hl s' hbefore)
  · exact hhome

theorem Linked.withdraw (hl : h.Linked) (hs : h.Sound) (s : SensorId) :
    (h.withdraw s).2.Linked := by
  rcases hw : h.withdraw s with ⟨e | _, h'⟩
  · rw [withdraw_error hw]
    exact hl
  · have hsound : h'.Sound := by simpa [hw] using hs.withdraw s
    obtain ⟨hgone, hothers⟩ := has_withdraw hs hw
    intro s' hhas
    have hne : s' ≠ s := fun heq => by
      rw [heq, hgone] at hhas
      cases hhas
    have hbefore : h.has s' = true := (hothers s' hne).symm.trans hhas
    have hhome : h'.home s' = h.home s' := by simpa [hw] using h.home_withdraw s s'
    rw [hsound.reaches_iff hhas, hhome]
    exact (hs.reaches_iff hbefore).1 (hl s' hbefore)

theorem primary_openBuilt (h : Hardware) : h.openBuilt.2.primary = h.primary := by
  unfold openBuilt
  simp only
  split
  all_goals
    next hopen =>
    exact congrArg (fun p => p.2.primary) hopen.symm

/-- A connection that is open has a primary backend. -/
theorem isSome_primary_connect (hc : h.connect = (.ok (), h')) : h'.primary.isSome = true := by
  unfold connect at hc
  split at hc
  · cases hc
  · next slot h₁ _ =>
    simp only at hc
    split at hc
    · cases hc
      rfl
    · have hkept := primary_openBuilt
        { h₁.listen slot with listed := (h₁.device slot).listed, primary := some slot }
      split at hc
      · cases hc
      · next slot' h₂ hopen =>
        cases hc
        rw [hopen] at hkept
        have hlisten : (h₂.listen slot').primary = h₂.primary := by cases slot' <;> rfl
        show (h₂.listen slot').primary.isSome = true
        rw [hlisten, hkept]
        rfl

theorem Unused.linked (hu : h.Unused) (hprimary : h.primary.isSome = true) : h.Linked := by
  intro s hhas
  have hno : h.isMocked s = false := by simp [isMocked, hu.mocks, Table.contains]
  have hlists : h.lists s = true := by
    rw [has, hno, Bool.or_false] at hhas
    exact hhas
  obtain ⟨slot, hslot⟩ := Option.isSome_iff_exists.1 hprimary
  refine ⟨slot, hu.primary_holds hslot, ?_⟩
  simp only [route, hno, hlists, hslot, if_true]
  rfl

end Hardware

/-! ### Requests -/

namespace Arbitration

variable {a a' : Arbitration} {pid : Pid} {s : SensorId} {request : Request}

/-- The check of a request depends on the settings and on what is served. -/
theorem effectivePeriod_congr (hset : a'.settings = a.settings)
    (hhas : ∀ s, a'.hardware.has s = a.hardware.has s) (s : SensorId) (request : Request) :
    a'.effectivePeriod s request = a.effectivePeriod s request := by
  unfold effectivePeriod
  rw [hset, hhas]

/-- **A request that passes the check is met** if nothing is refused. -/
theorem exists_enable_ok (hr : a.hardware.Reaches s) {period : Nanos}
    (hperiod : a.effectivePeriod s request = .ok period)
    (ho : a.hardware.Obliges (a.enable pid s request).2.hardware) :
    ∃ outcome a', a.enable pid s request = (.ok outcome, a') := by
  have hkept := a.kept_enable pid s request
  rcases he : a.enable pid s request with ⟨e | outcome, a'⟩
  · rw [he] at ho hkept
    rcases enable_error he with ⟨hno, -⟩ | ⟨period', hperiod', -, hfail, -⟩
    · cases hno.symm.trans hperiod
    · have ho' : a.hardware.Obliges a'.hardware := ho
      generalize a'.hardware = hw at hfail ho'
      cases hfail with
      | notTold hb => cases Hardware.Obliges.perform_ok (c := .setBatch s _) hr hb ho'
      | notOn hb _ hon =>
        have htold := hb.kept.toEquipped
        have hpart := ho'.between htold (Hardware.kept_of_perform hon).toEquipped (.refl _)
        cases Hardware.Obliges.perform_ok (c := .enable s) (hr.of_equipped htold) hon hpart
  · exact ⟨outcome, a', rfl⟩

/-- **A subscription to a sensor that is served can be ended** if nothing is
refused. -/
theorem exists_disable_ok (hr : a.hardware.Reaches s) {old : Request}
    (hsub : a.registry.subscription pid s = some old)
    (ho : a.hardware.Obliges (a.disable pid s).2.hardware) :
    ∃ outcome a', a.disable pid s = (.ok outcome, a') := by
  rcases hd : a.disable pid s with ⟨e | outcome, a'⟩
  · rw [hd] at ho
    rcases disable_error hd with ⟨hnone, -, -⟩ | ⟨-, -, -, hfail⟩
    · cases hnone.symm.trans hsub
    · have ho' : a.hardware.Obliges a'.hardware := ho
      generalize a'.hardware = hw at hfail ho'
      cases hfail with
      | shared _ hb => cases Hardware.Obliges.perform_ok (c := .setBatch s _) hr hb ho'
      | last _ hoff => cases Hardware.Obliges.perform_ok (c := .disable s) hr hoff ho'
  · exact ⟨outcome, a', rfl⟩

end Arbitration

/-! ### Runs -/

theorem Suspension.Moves.linked {grants : Pid → SensorId → Prop} {freezes : Pid → Prop}
    {drops : SensorId → Prop} {x y : Suspension} (m : Moves grants freezes drops x y)
    (hx : x.arbitration.Consistent) (hl : x.arbitration.hardware.Linked) :
    y.arbitration.hardware.Linked := by
  induction m with
  | refl => exact hl
  | @tail y z before move ih =>
    have hsound := (Moves.consistent before hx).sound
    cases move with
    | enable request _ =>
      exact ih.of_equipped (y.arbitration.kept_enable _ _ request).hardware.toEquipped
    | disable pid s =>
      exact ih.of_equipped (y.arbitration.kept_disable pid s).hardware.toEquipped
    | suspend _ => exact ih.of_equipped (y.kept_suspend _).hardware.toEquipped
    | resume pid => exact ih.of_equipped (y.kept_resume pid).hardware.toEquipped
    | discard pid s => rwa [arbitration_discard]
    | forget pid => exact ih
    | call _ => exact ih.of_equipped (y.arbitration.kept_perform _).hardware.toEquipped
    | inject s => exact ih.inject hsound s
    | withdraw _ => exact ih.withdraw hsound _
    | raise es => exact ih
    | record _ => exact ih

namespace Broker

variable {op : Op} {b b' : Broker}

/-- **What makes no mock and ends none leaves the sensors as they are.** -/
theorem Shift.equipped (shift : Shift op b b') (hno : ¬ op.Mocks) :
    b.hardware.Equipped b'.hardware := by
  rcases shift.clerical_or with h | ⟨x, kept, rfl⟩ | ⟨_, now, -⟩ | rfl | ⟨_, _, -, rfl⟩ |
    ⟨_, _, -, -, rfl⟩ | ⟨_, -, -, rfl⟩
  · rw [h.hardware]
    exact .refl _
  · exact kept.hardware.toEquipped
  · exact absurd now hno
  · obtain ⟨queue, dropped, heq⟩ := b.exists_collect
    rw [heq]
    exact ⟨fun _ => rfl, fun _ => rfl, fun slot => by cases slot <;> rfl,
      fun slot _ => by cases slot <;> exact List.suffix_rfl⟩
  · exact ⟨fun _ => rfl, fun _ => rfl, fun slot => by cases slot <;> rfl,
      fun slot _ => by cases slot <;> exact List.suffix_rfl⟩
  · exact .refl _
  · exact .refl _

theorem Shifts.equipped (shifts : Shifts op b b') (hno : ¬ op.Mocks) :
    b.hardware.Equipped b'.hardware := by
  induction shifts with
  | refl => exact .refl _
  | tail _ shift ih => exact ih.trans (shift.equipped hno)

theorem linked_injectEach : ∀ (sensors : List SensorId) {h : Hardware}, h.Sound → h.Linked →
    (injectEach sensors h).Linked
  | [], _, _, hl => hl
  | s :: rest, _, hs, hl => linked_injectEach rest (hs.inject s) (hl.inject hs s)

/-- **Whatever is served can be called.** -/
theorem Reachable.linked (h : b.Reachable) : b.hardware.Linked := by
  induction h with
  | @start config vendor blueprint rule watching b vendor_idle built_idle started =>
    obtain ⟨hw, hconnect, rfl⟩ := start_ok started
    have hu := (Hardware.unused_ofSettings config.hardware vendor_idle built_idle).connect
    have hconnected : (Hardware.ofSettings config.hardware vendor blueprint).connect.2 = hw :=
      congrArg Prod.snd hconnect
    rw [hconnected] at hu
    have hlinked := hu.linked (Hardware.isSome_primary_connect hconnect)
    exact linked_injectEach config.hardware.injectOnStart hu.sound hlinked
  | @step b before op ih =>
    exact (b.moves_step op).linked before.consistent ih

end Broker
end SensorBroker
