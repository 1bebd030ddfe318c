/-
# Nothing is told that may not be asked

Every request is checked before it is recorded, and is recorded with the period
it stands for. What is recorded would pass the check again, as it is
(`ServiceSettings.Vets`), unless the default period is negative; that holds of
whatever is subscribed or saved in a snapshot (`Suspension.Vetted`).

From an allowed configuration what is recorded is admitted: its period is at
least one, its delay is not negative and no more periods long than a sensor may
keep samples (`ServiceSettings.Admits`). What a sensor is told was never checked:
it has the period of one subscriber and the delay of another. It is admitted all
the same, because its delay is at most that of the subscriber whose period it
has, and a shorter delay is fewer periods long. So in every life, whatever is
refused on the way, no backend is ever told anything that may not be asked.

Key definitions: `ServiceSettings.Vets`, `ServiceSettings.Admits`,
`Arbitration.divisor`, `Hardware.Logged`, `Hardware.OnlyTold`,
`Arbitration.Vetted`, `Arbitration.Admitted`, `Suspension.Vetted`.
Key theorems: `Registry.admits_merged`, `Arbitration.vets_of_effectivePeriod`,
`Arbitration.effectivePeriod_of_vets`, `Arbitration.Step.vetted`,
`Arbitration.Step.admitted`, `Suspension.Move.vetted`,
`Broker.Reachable.vetted`, `Broker.Lived.admitted`, `Broker.Lived.tells_admitted`.
-/
import SensorBroker.Config.Validation
import SensorBroker.Proofs.Service.Consistency
import SensorBroker.Proofs.Service.Delivery

namespace SensorBroker

/-! ### Which requests are admitted -/

/-- A request that passes the check as it is, and is recorded so. -/
structure ServiceSettings.Vets (settings : ServiceSettings) (s : SensorId) (r : Request) :
    Prop where
  valid : s.isValid = true
  period_nonneg : 0 ≤ r.period.toInt
  delay_nonneg : 0 ≤ r.delay.toInt
  zero : r.period = 0 → settings.defaultPeriod = 0
  few : ¬ settings.maxEventCount < r.delay / r.period

/-- A request in range: its numbers are, and its delay is not too many periods
long. -/
structure ServiceSettings.Admits (settings : ServiceSettings) (r : Request) : Prop where
  period_pos : 1 ≤ r.period.toInt
  delay_nonneg : 0 ≤ r.delay.toInt
  quotient_le : r.delay.toInt / r.period.toInt ≤ settings.maxEventCount.toInt

/-- By a positive number, division is that of the integers. -/
theorem toInt_div_of_pos {delay period : Nanos} (hdelay : 0 ≤ delay.toInt)
    (hpos : 0 < period.toInt) : (delay / period).toInt = delay.toInt / period.toInt := by
  have hne : period ≠ -1 := fun hminus => by
    rw [hminus] at hpos
    exact absurd hpos (by decide)
  rw [Int64.toInt_div_of_ne_right _ _ hne, Int.tdiv_eq_ediv_of_nonneg hdelay]

/-- Where the default period is positive, what passes the check is in range. -/
theorem ServiceSettings.Vets.admits {settings : ServiceSettings} {s : SensorId} {r : Request}
    (h : settings.Vets s r) (hdefault : 1 ≤ settings.defaultPeriod.toInt) :
    settings.Admits r := by
  have hne : r.period.toInt ≠ 0 := fun hzero => by
    rw [h.zero (Int64.toInt_inj.1 (hzero.trans Int64.toInt_zero.symm))] at hdefault
    exact absurd hdefault (by decide)
  have hpos : 0 < r.period.toInt := by
    have hnonneg := h.period_nonneg
    omega
  refine ⟨hpos, h.delay_nonneg, ?_⟩
  rw [← toInt_div_of_pos h.delay_nonneg hpos]
  exact Int.not_lt.1 fun hmany => h.few (Int64.lt_iff_toInt_lt.2 hmany)

/-- An admitted request may be shortened in its delay. -/
theorem ServiceSettings.Admits.of_delay_le {settings : ServiceSettings} {q r : Request}
    (h : settings.Admits q) (hperiod : r.period = q.period) (hdelay : r.delay ≤ q.delay)
    (hnonneg : 0 ≤ r.delay.toInt) : settings.Admits r := by
  have hle : r.delay.toInt ≤ q.delay.toInt := Int64.le_iff_toInt_le.1 hdelay
  refine ⟨hperiod ▸ h.period_pos, hnonneg, ?_⟩
  rw [hperiod]
  exact Int.le_trans (Int.ediv_le_ediv h.period_pos hle) h.quotient_le

/-- **The least period and the least delay are admitted together** if every
subscriber's request is, whoever the two come from. -/
theorem Registry.admits_merged {r : Registry} {settings : ServiceSettings} {s : SensorId}
    (hne : r.subscriptionsOf s ≠ ∅) (hall : ∀ q ∈ r.requests s, settings.Admits q) :
    settings.Admits (r.merged settings s) := by
  obtain ⟨⟨⟨fastest, hfastest, hperiod⟩, -⟩, ⟨shortest, hshortest, hdelay⟩, hleast⟩ :=
    r.isLeast_merged settings hne
  have hnonneg : 0 ≤ (r.merged settings s).delay.toInt :=
    hdelay ▸ (hall shortest hshortest).delay_nonneg
  exact (hall fastest hfastest).of_delay_le hperiod.symm (hleast ⟨fastest, hfastest, rfl⟩) hnonneg

/-- An allowed configuration has a positive default period. -/
theorem Config.defaultPeriod_pos_of_validate {c : Config} (h : c.validate = .ok ()) :
    1 ≤ c.service.defaultPeriod.toInt := by
  unfold validate at h
  split at h
  · cases h
  · next hrange =>
    rw [outOfRange?, Option.map_eq_none_iff, List.find?_eq_none] at hrange
    have hholds := hrange _ List.mem_cons_self
    rw [Bool.not_eq_true', Bool.not_eq_false] at hholds
    exact of_decide_eq_true hholds

namespace Arbitration

variable {a a' : Arbitration} {settings : ServiceSettings} {pid : Pid} {s : SensorId}
  {request : Request}

/-- What the delay of a request is divided by: the period it names, or the
default if it names none. -/
def divisor (a : Arbitration) (request : Request) : Nanos :=
  if request.period = 0 then a.settings.defaultPeriod else request.period

theorem divisor_ne_zero (hdefault : 1 ≤ a.settings.defaultPeriod.toInt) (request : Request) :
    a.divisor request ≠ 0 := by
  intro hzero
  unfold divisor at hzero
  split_ifs at hzero with hperiod
  · rw [hzero] at hdefault
    exact absurd hdefault (by decide)
  · exact hperiod hzero

theorem divisor_pos (hdefault : 1 ≤ a.settings.defaultPeriod.toInt)
    (hperiod : 0 ≤ request.period.toInt) : 0 < (a.divisor request).toInt := by
  have hne : (a.divisor request).toInt ≠ 0 := fun hzero =>
    divisor_ne_zero hdefault request (Int64.toInt_inj.1 (hzero.trans Int64.toInt_zero.symm))
  have hnonneg : 0 ≤ (a.divisor request).toInt := by
    unfold divisor
    split_ifs
    · omega
    · exact hperiod
  omega

/-- How a request that some backend could meet is checked. -/
theorem effectivePeriod_of_nonneg (hs : s.isValid = true) (hhas : a.hardware.has s = true)
    (hperiod : 0 ≤ request.period.toInt) (hdelay : 0 ≤ request.delay.toInt) :
    a.effectivePeriod s request =
      if a.settings.maxEventCount < request.delay / a.divisor request then
        .error (.invalidArgument
          (.tooManyEvents request.delay (a.divisor request) a.settings.maxEventCount))
      else .ok (a.divisor request) := by
  have hsigns : (request.period < 0 || request.delay < 0) = false := by
    simp only [Bool.or_eq_false_iff, decide_eq_false_iff_not, Int64.lt_iff_toInt_lt,
      Int64.toInt_zero]
    omega
  simp only [effectivePeriod, hs, hhas, hsigns]
  rfl

/-- A request that passes the check is about a sensor that is served, and names
no negative number. -/
theorem checked_of_effectivePeriod {period : Nanos}
    (h : a.effectivePeriod s request = .ok period) :
    s.isValid = true ∧ a.hardware.has s = true ∧
      0 ≤ request.period.toInt ∧ 0 ≤ request.delay.toInt := by
  unfold effectivePeriod at h
  split at h
  · cases h
  · next hserved =>
    split at h
    · cases h
    · next hsigns =>
      simp only [Bool.not_eq_true, Bool.not_eq_false', Bool.and_eq_true] at hserved
      simp only [Bool.not_eq_true, Bool.or_eq_false_iff, decide_eq_false_iff_not,
        Int64.lt_iff_toInt_lt, Int64.toInt_zero, Int.not_lt] at hsigns
      exact ⟨hserved.1, hserved.2, hsigns⟩

/-- **What a request is recorded as would pass the check.** -/
theorem vets_of_effectivePeriod (hdefault : 0 ≤ a.settings.defaultPeriod.toInt) {period : Nanos}
    (h : a.effectivePeriod s request = .ok period) :
    a.settings.Vets s ⟨period, request.delay⟩ := by
  obtain ⟨hs, hhas, hperiod, hdelay⟩ := checked_of_effectivePeriod h
  have hzero : period = 0 → a.settings.defaultPeriod = 0 := eq_zero_of_effectivePeriod h
  rw [effectivePeriod_of_nonneg hs hhas hperiod hdelay] at h
  split_ifs at h with hmany
  obtain rfl : a.divisor request = period := Except.ok.inj h
  refine ⟨hs, ?_, hdelay, hzero, hmany⟩
  show 0 ≤ (a.divisor request).toInt
  unfold divisor
  split_ifs
  · exact hdefault
  · exact hperiod

/-- **What was recorded may be asked again**, as long as a backend serves it. -/
theorem effectivePeriod_of_vets (hhas : a.hardware.has s = true) (h : a.settings.Vets s request) :
    a.effectivePeriod s request = .ok request.period := by
  have hsame : a.divisor request = request.period := by
    unfold divisor
    split_ifs with hzero
    · rw [hzero, h.zero hzero]
    · rfl
  rw [effectivePeriod_of_nonneg h.valid hhas h.period_nonneg h.delay_nonneg, hsame, if_neg h.few]

end Arbitration

/-! ### What backends were told -/

/-- A backend that was asked something logs that, after what it had logged. -/
theorem Device.mem_log_perform {d : Device} {c : DeviceCall} {l : LoggedCall}
    (hl : l ∈ (d.perform c).device.log) : l.call = c ∨ l ∈ d.log := by
  rw [log_perform] at hl
  exact (List.mem_cons.1 hl).imp_left (congrArg LoggedCall.call)

namespace Hardware

variable {h h' : Hardware} {P : Request → Prop}

/-- Some backend was asked to do something, and did it or refused. -/
def Logged (h : Hardware) (c : LoggedCall) : Prop :=
  ∃ d ∈ h.devices, c ∈ d.log

/-- Whatever parameters any backend was ever told, taken or not, are of one
kind. -/
def OnlyTold (P : Request → Prop) (h : Hardware) : Prop :=
  ∀ s r done, h.Logged ⟨.setBatch s r, done⟩ → P r

theorem device_mem_devices (h : Hardware) (slot : Slot) : h.device slot ∈ h.devices := by
  cases slot with
  | vendor => exact List.mem_cons_self
  | built n =>
    rw [device, devices, List.getD_eq_getElem?_getD]
    cases hn : h.built[n]? with
    | none => exact List.mem_cons_self
    | some d => exact List.mem_cons_of_mem _ (List.mem_of_getElem? hn)

/-- A backend that takes the place of another brings its own log only. -/
theorem logged_setDevice {d : Device} {slot : Slot} {c : LoggedCall}
    (hc : (h.setDevice d slot).Logged c) : c ∈ d.log ∨ h.Logged c := by
  obtain ⟨d', hd', hlog⟩ := hc
  cases slot with
  | vendor =>
    rcases List.mem_cons.1 hd' with rfl | hbuilt
    · exact .inl hlog
    · exact .inr ⟨d', List.mem_cons_of_mem _ hbuilt, hlog⟩
  | built n =>
    rcases List.mem_cons.1 hd' with rfl | hbuilt
    · exact .inr ⟨h.vendor, List.mem_cons_self, hlog⟩
    · rcases List.mem_or_eq_of_mem_set hbuilt with hbefore | rfl
      · exact .inr ⟨d', List.mem_cons_of_mem _ hbefore, hlog⟩
      · exact .inl hlog

/-- A call is all that asking adds to the logs. -/
theorem logged_perform {c : DeviceCall} {result : Except HardwareError Unit}
    (hp : h.perform c = (result, h')) {l : LoggedCall} (hl : h'.Logged l) :
    l.call = c ∨ h.Logged l := by
  unfold Hardware.perform at hp
  split at hp
  · cases hp
    exact .inr hl
  · next slot _ =>
    simp only [Prod.mk.injEq] at hp
    obtain ⟨-, rfl⟩ := hp
    have hset : (h.setDevice ((h.device slot).perform c).device slot).Logged l := hl
    rcases logged_setDevice hset with hlog | hbefore
    · exact (Device.mem_log_perform hlog).imp_right fun hmem =>
        ⟨_, h.device_mem_devices slot, hmem⟩
    · exact .inr hbefore

/-- A call tells what it says, and no other tells anything. -/
theorem OnlyTold.perform (h₀ : h.OnlyTold P) {c : DeviceCall}
    {result : Except HardwareError Unit} (hp : h.perform c = (result, h'))
    (hc : ∀ s r, c = .setBatch s r → P r) : h'.OnlyTold P := by
  intro s r done hl
  rcases logged_perform hp hl with hcall | hbefore
  · exact hc s r hcall.symm
  · exact h₀ s r done hbefore

theorem OnlyTold.inject (h₀ : h.OnlyTold P) (s : SensorId) : (h.inject s).2.OnlyTold P := by
  unfold Hardware.inject
  split_ifs <;> exact h₀

theorem OnlyTold.withdraw (h₀ : h.OnlyTold P) (s : SensorId) : (h.withdraw s).2.OnlyTold P := by
  unfold Hardware.withdraw
  split_ifs <;> exact h₀

theorem OnlyTold.closeSlot (h₀ : h.OnlyTold P) (slot : Option Slot) :
    (h.closeSlot slot).OnlyTold P := by
  cases slot with
  | none => exact h₀
  | some slot =>
    intro s r done hl
    rcases logged_setDevice hl with hlog | hbefore
    · exact h₀ s r done ⟨_, h.device_mem_devices slot, hlog⟩
    · exact h₀ s r done hbefore

theorem OnlyTold.disconnect (h₀ : h.OnlyTold P) : h.disconnect.OnlyTold P :=
  OnlyTold.closeSlot (h := { h.closeSlot h.compatible with compatible := none })
    (h₀.closeSlot h.compatible) _

theorem Unused.onlyTold (hu : h.Unused) : h.OnlyTold P := by
  rintro s r done ⟨d, hd, hlog⟩
  obtain ⟨slot, -, rfl⟩ := mem_devices_iff.1 hd
  rw [(hu.idle slot).2] at hlog
  cases hlog

end Hardware

/-! ### Requests -/

namespace Arbitration

variable {a a' : Arbitration} {settings : ServiceSettings} {pid : Pid} {s : SensorId}
  {request : Request}

/-- All that is subscribed would pass the check. -/
structure Vetted (settings : ServiceSettings) (a : Arbitration) : Prop where
  settings_eq : a.settings = settings
  subscribed : ∀ {pid s request}, a.registry.subscription pid s = some request →
    settings.Vets s request

/-- No subscription comes about. -/
theorem Vetted.mono (h : a.Vetted settings) (hset : a'.settings = a.settings)
    (hsub : ∀ {pid s request}, a'.registry.subscription pid s = some request →
      a.registry.subscription pid s = some request) : a'.Vetted settings :=
  ⟨hset.trans h.settings_eq, fun hrequest => h.subscribed (hsub hrequest)⟩

theorem Vetted.asking (h : a.Vetted settings) (hvets : settings.Vets s request) (pid : Pid) :
    (a.asking pid s request).Vetted settings := by
  refine ⟨h.settings_eq, fun {pid' s' request'} hsub => ?_⟩
  by_cases hps : pid' = pid ∧ s' = s
  · obtain ⟨rfl, rfl⟩ := hps
    rw [Arbitration.asking, Registry.subscription_put_self] at hsub
    cases hsub
    exact hvets
  · have hother := a.registry.subscription_put_of_ne request
      (Classical.not_and_iff_not_or_not.1 hps)
    exact h.subscribed (hother.symm.trans hsub)

/-- What a request to enable is recorded as is vetted with the rest. -/
theorem Vetted.asking_of_effectivePeriod (h : a.Vetted settings)
    (hdefault : 0 ≤ settings.defaultPeriod.toInt) {period : Nanos}
    (hperiod : a.effectivePeriod s request = .ok period) (pid : Pid) :
    (a.asking pid s ⟨period, request.delay⟩).Vetted settings := by
  have hvets := vets_of_effectivePeriod (h.settings_eq ▸ hdefault) hperiod
  exact h.asking (h.settings_eq ▸ hvets) pid

theorem Vetted.without (h : a.Vetted settings) (pid : Pid) (s : SensorId) :
    (a.without pid s).Vetted settings := by
  refine h.mono rfl fun {pid' s' request'} hsub => ?_
  by_cases hps : pid' = pid ∧ s' = s
  · obtain ⟨rfl, rfl⟩ := hps
    rw [Arbitration.without, Registry.subscription_drop_self] at hsub
    cases hsub
  · have hother := a.registry.subscription_drop_of_ne (Classical.not_and_iff_not_or_not.1 hps)
    exact hother.symm.trans hsub

theorem Vetted.enable (h : a.Vetted settings) (hdefault : 0 ≤ settings.defaultPeriod.toInt)
    (pid : Pid) (s : SensorId) (request : Request) :
    (a.enable pid s request).2.Vetted settings := by
  rcases he : a.enable pid s request with ⟨e | outcome, a'⟩
  · exact h.mono (settings_enable he) fun hsub =>
      (subscription_of_enable_error he _ _).symm.trans hsub
  · obtain ⟨period, hw, hw', hperiod, -, -, rfl, -, -⟩ := enable_ok he
    have hasked := h.asking_of_effectivePeriod hdefault hperiod pid
    exact ⟨hasked.settings_eq, hasked.subscribed⟩

/-- **Every step records only what would pass the check.** -/
theorem Step.vetted (m : Step a a') (hdefault : 0 ≤ settings.defaultPeriod.toInt)
    (h : a.Vetted settings) : a'.Vetted settings := by
  cases m with
  | enable pid s request => exact h.enable hdefault pid s request
  | disable pid s =>
    exact h.mono (settings_disable rfl) (subscription_of_subscription_disable rfl)
  | @call c _ =>
    refine h.mono (settings_perform ..) fun hsub => ?_
    rwa [registry_perform] at hsub
  | inject s => exact h.mono rfl id
  | withdraw s => exact h.mono rfl id
  | raise es => exact h.mono rfl id
  | record same =>
    refine h.mono rfl fun hsub => ?_
    rwa [Registry.subscription, ← same]

theorem Steps.vetted (m : Steps a a') (hdefault : 0 ≤ settings.defaultPeriod.toInt)
    (h : a.Vetted settings) : a'.Vetted settings := by
  induction m with
  | refl => exact h
  | tail _ step ih => exact step.vetted hdefault ih

/-- What subscribers want together is admitted. -/
theorem Vetted.admits_wanted (h : a.Vetted settings) (hdefault : 1 ≤ settings.defaultPeriod.toInt)
    (hne : a.registry.subscriptionsOf s ≠ ∅) : settings.Admits (a.wanted s) := by
  rw [wanted, h.settings_eq]
  refine Registry.admits_merged hne fun request hasked => ?_
  obtain ⟨pid, hsub⟩ := hasked
  exact (h.subscribed hsub).admits hdefault

/-- All that is subscribed would pass the check, and all that was ever told is
admitted. -/
structure Admitted (settings : ServiceSettings) (a : Arbitration) : Prop extends
    Vetted settings a where
  told : a.hardware.OnlyTold settings.Admits

theorem Admitted.onlyTold_setBatch (h : a.Admitted settings)
    (hdefault : 1 ≤ settings.defaultPeriod.toInt) (hne : a.registry.subscriptionsOf s ≠ ∅)
    {result : Except HardwareError Unit} {hw : Hardware}
    (hp : a.hardware.perform (.setBatch s (a.wanted s)) = (result, hw)) :
    hw.OnlyTold settings.Admits := by
  refine h.told.perform hp fun s' r heq => ?_
  cases heq
  exact h.admits_wanted hdefault hne

theorem Admitted.onlyTold_programs (h : a.Admitted settings)
    (hdefault : 1 ≤ settings.defaultPeriod.toInt) (hne : a.registry.subscriptionsOf s ≠ ∅)
    {hw : Hardware} (hp : a.Programs s hw) : hw.OnlyTold settings.Admits := by
  rcases hp with ⟨-, rfl⟩ | ⟨-, hb⟩
  · exact h.told
  · exact h.onlyTold_setBatch hdefault hne hb

theorem Admitted.onlyTold_enable (h : a.Admitted settings)
    (hdefault : 1 ≤ settings.defaultPeriod.toInt) (pid : Pid) (s : SensorId)
    (request : Request) : (a.enable pid s request).2.hardware.OnlyTold settings.Admits := by
  have hasking {period : Nanos} (hperiod : a.effectivePeriod s request = .ok period) :
      (a.asking pid s ⟨period, request.delay⟩).Admitted settings :=
    ⟨h.asking_of_effectivePeriod (by omega) hperiod pid, h.told⟩
  have hne (period : Nanos) :
      (a.asking pid s ⟨period, request.delay⟩).registry.subscriptionsOf s ≠ ∅ :=
    a.registry.subscriptionsOf_put_ne_empty pid s _
  rcases he : a.enable pid s request with ⟨e | outcome, a'⟩
  · rcases enable_error he with ⟨-, rfl⟩ | ⟨period, hperiod, -, hfail, -⟩
    · exact h.told
    · have hasked := hasking hperiod
      show a'.hardware.OnlyTold settings.Admits
      generalize a'.hardware = hw at hfail
      cases hfail with
      | notTold hb => exact hasked.onlyTold_setBatch hdefault (hne period) hb
      | notOn hb _ hon =>
        have htold := hasked.onlyTold_programs hdefault (hne period) hb
        exact htold.perform hon fun _ _ heq => nomatch heq
  · obtain ⟨period, hw, hw', hperiod, hb, hon, rfl, -, -⟩ := enable_ok he
    have htold := (hasking hperiod).onlyTold_programs hdefault (hne period) hb
    rcases hon with ⟨-, rfl⟩ | ⟨-, hon⟩
    · exact htold
    · exact htold.perform hon fun _ _ heq => nomatch heq

theorem Admitted.onlyTold_disable (h : a.Admitted settings)
    (hdefault : 1 ≤ settings.defaultPeriod.toInt) (pid : Pid) (s : SensorId) :
    (a.disable pid s).2.hardware.OnlyTold settings.Admits := by
  have hleft : (a.without pid s).Admitted settings := ⟨h.toVetted.without pid s, h.told⟩
  have hne (hsub : (a.without pid s).registry.isSubscribed s = true) :
      (a.without pid s).registry.subscriptionsOf s ≠ ∅ := (Registry.isSubscribed_iff ..).1 hsub
  rcases hd : a.disable pid s with ⟨e | outcome, a'⟩
  · rcases disable_error hd with ⟨-, -, rfl⟩ | ⟨-, -, -, hfail⟩
    · exact h.told
    · show a'.hardware.OnlyTold settings.Admits
      generalize a'.hardware = hw at hfail
      cases hfail with
      | shared hsub hb => exact hleft.onlyTold_setBatch hdefault (hne hsub) hb
      | last _ hoff => exact hleft.told.perform hoff fun _ _ heq => nomatch heq
  · obtain ⟨-, hok⟩ := disable_ok hd
    generalize outcome.switchedOff = off at hok
    cases hok with
    | shared hsub hb => exact hleft.onlyTold_programs hdefault (hne hsub) hb
    | last _ hoff => exact hleft.told.perform hoff fun _ _ heq => nomatch heq

/-- **Every step tells backends only what is admitted.** -/
theorem Step.admitted (m : Step a a') (hdefault : 1 ≤ settings.defaultPeriod.toInt)
    (h : a.Admitted settings) : a'.Admitted settings := by
  refine ⟨m.vetted (by omega) h.toVetted, ?_⟩
  cases m with
  | enable pid s request => exact h.onlyTold_enable hdefault pid s request
  | disable pid s => exact h.onlyTold_disable hdefault pid s
  | @call c passing =>
    have htells (s : SensorId) (r : Request) (heq : c = .setBatch s r) : settings.Admits r := by
      have hsame := (passing s).2 none
      rw [heq] at hsame
      simp [DeviceCall.programmedAfter] at hsame
    rcases he : a.perform c with ⟨e | _, a'⟩
    · obtain ⟨e', hw, hhw, -, rfl⟩ := perform_error he
      exact h.told.perform hhw htells
    · obtain ⟨hw, hhw, rfl⟩ := perform_ok he
      exact h.told.perform hhw htells
  | inject s => exact h.told.inject s
  | withdraw s => exact h.told.withdraw s
  | raise es => exact h.told
  | record same => exact h.told

theorem Steps.admitted (m : Steps a a') (hdefault : 1 ≤ settings.defaultPeriod.toInt)
    (h : a.Admitted settings) : a'.Admitted settings := by
  induction m with
  | refl => exact h
  | tail _ step ih => exact step.admitted hdefault ih

end Arbitration

/-! ### Snapshots -/

namespace Suspension

variable {x y : Suspension} {settings : ServiceSettings} {grants : Pid → SensorId → Prop}
  {freezes : Pid → Prop} {drops : SensorId → Prop}

/-- All that is subscribed or saved would pass the check. -/
structure Vetted (settings : ServiceSettings) (x : Suspension) : Prop where
  arbitration : x.arbitration.Vetted settings
  saved : ∀ {pid s request}, x.saved pid s = some request → settings.Vets s request

/-- What is saved of a process that is suspended or resumed was saved before, or
was subscribed. -/
theorem Vetted.of_moved (h : x.Vetted settings) {pid : Pid}
    (hothers : ∀ other, other ≠ pid → y.snapshots.get? other = x.snapshots.get? other)
    (hself : ∀ {s request}, y.saved pid s = some request →
      x.arbitration.registry.subscription pid s = some request ∨ x.saved pid s = some request)
    {pid' : Pid} {s : SensorId} {request : Request} (hsaved : y.saved pid' s = some request) :
    settings.Vets s request := by
  by_cases hpid : pid' = pid
  · subst hpid
    exact (hself hsaved).elim h.arbitration.subscribed h.saved
  · rw [saved_eq_of_get?_eq (hothers pid' hpid)] at hsaved
    exact h.saved hsaved

/-- **Every move records and saves only what would pass the check.** -/
theorem Move.vetted (m : Move grants freezes drops x y)
    (hdefault : 0 ≤ settings.defaultPeriod.toInt) (h : x.Vetted settings) :
    y.Vetted settings := by
  refine ⟨m.steps.vetted hdefault h.arbitration, fun {pid' s request} hsaved => ?_⟩
  cases m with
  | @suspend pid _ =>
    rcases hr : x.suspend pid with ⟨outcome, x'⟩
    rw [hr] at hsaved
    obtain ⟨-, hmoved, hothers⟩ := suspend_spec hr
    exact h.of_moved (fun other hne => (hothers other hne).1)
      (fun hsaved => hmoved.eq_some_or (.inr hsaved)) hsaved
  | resume pid =>
    rcases hr : x.resume pid with ⟨e | outcome, x'⟩
    · obtain rfl : x' = x := eq_of_resume_error hr
      rw [hr] at hsaved
      exact h.saved hsaved
    · rw [hr] at hsaved
      have hzero : ∀ s request, x.saved pid s = some request → request.period = 0 →
          x.arbitration.settings.defaultPeriod = 0 := fun s request hbefore =>
        h.arbitration.settings_eq ▸ (h.saved hbefore).zero
      obtain ⟨_, -, -, hmoved, hothers⟩ := resume_spec hzero hr
      exact h.of_moved (fun other hne => (hothers other hne).1)
        (fun hsaved => (hmoved.eq_some_or (.inl hsaved)).symm) hsaved
  | discard pid s => exact h.saved (saved_of_saved_discard hsaved)
  | forget pid => exact h.saved (saved_of_saved_forget hsaved)
  | enable request _ => exact h.saved hsaved
  | disable pid s => exact h.saved hsaved
  | call _ => exact h.saved hsaved
  | inject s => exact h.saved hsaved
  | withdraw _ => exact h.saved hsaved
  | raise es => exact h.saved hsaved
  | record _ => exact h.saved hsaved

theorem Moves.vetted (m : Moves grants freezes drops x y)
    (hdefault : 0 ≤ settings.defaultPeriod.toInt) (h : x.Vetted settings) :
    y.Vetted settings := by
  induction m with
  | refl => exact h
  | tail _ move ih => exact move.vetted hdefault ih

end Suspension

/-! ### Lives -/

namespace Arbitration

theorem steps_releaseSensors (sensors : List SensorId) (a : Arbitration) :
    Steps a (Broker.releaseSensors sensors a) :=
  Broker.releaseSensors_induction (P := Steps a) (fun pid s before => before.tail (.disable pid s))
    sensors .refl

end Arbitration

namespace Broker

variable {b : Broker} {settings : ServiceSettings}

/-- **Nothing is recorded or saved that would not pass the check again**, unless
the default period is negative. -/
theorem Reachable.vetted (h : b.Reachable) (hdefault : 0 ≤ b.config.service.defaultPeriod.toInt) :
    b.suspension.Vetted b.config.service := by
  induction h with
  | @start config vendor blueprint rule watching b _ _ started =>
    obtain ⟨hw, -, rfl⟩ := start_ok started
    exact ⟨⟨rfl, fun hsub => nomatch hsub⟩, fun hsaved => nomatch hsaved⟩
  | @step b before op ih =>
    have hconfig : (b.step op).config = b.config := before.regular.config_act (.op op)
    rw [hconfig] at hdefault ⊢
    exact (b.moves_step op).vetted hdefault (ih hdefault)

/-- All that is recorded or saved would pass the check, and all that was ever
told is admitted. -/
structure Admitted (settings : ServiceSettings) (b : Broker) : Prop where
  vetted : b.suspension.Vetted settings
  told : b.hardware.OnlyTold settings.Admits

theorem Admitted.of_moves {g : Pid → SensorId → Prop} {f : Pid → Prop} {d : SensorId → Prop}
    {b' : Broker} (h : b.Admitted settings) (hdefault : 1 ≤ settings.defaultPeriod.toInt)
    (moves : Suspension.Moves g f d b.suspension b'.suspension) : b'.Admitted settings where
  vetted := moves.vetted (by omega) h.vetted
  told := (moves.steps.admitted hdefault ⟨h.vetted.arbitration, h.told⟩).told

/-- The end of a broker tells backends only what is admitted, too. -/
theorem Admitted.stop (h : b.Admitted settings) (hdefault : 1 ≤ settings.defaultPeriod.toInt) :
    b.stop.Admitted settings := by
  have hreleased := (Arbitration.steps_releaseSensors b.arbitration.running
    b.arbitration).admitted hdefault ⟨h.vetted.arbitration, h.told⟩
  have hclosed : b.shutDown.Admitted settings :=
    ⟨⟨hreleased.mono rfl id, h.vetted.saved⟩, hreleased.told.disconnect⟩
  have hcollected : b.windDown.Admitted settings :=
    hclosed.of_moves (g := fun _ _ => False) (f := fun _ => False) (d := fun _ => False) hdefault
      b.shutDown.moves_collect
  exact hcollected.of_moves (g := fun _ _ => False) (f := fun _ => False) (d := fun _ => False)
    hdefault (moves_foldl_route b.windDown.queue { b.windDown with queue := [] })

theorem Reachable.admitted (h : b.Reachable)
    (hdefault : 1 ≤ b.config.service.defaultPeriod.toInt) : b.Admitted b.config.service := by
  refine ⟨h.vetted (by omega), ?_⟩
  induction h with
  | @start config vendor blueprint rule watching b vendor_idle built_idle started =>
    obtain ⟨hw, hconnect, rfl⟩ := start_ok started
    have hu := (Hardware.unused_ofSettings config.hardware vendor_idle built_idle).connect
    have hconnected : (Hardware.ofSettings config.hardware vendor blueprint).connect.2 = hw :=
      congrArg Prod.snd hconnect
    rw [hconnected] at hu
    have hfresh : (Arbitration.ofSettings config.service hw).Admitted config.service :=
      ⟨⟨rfl, fun hsub => nomatch hsub⟩, hu.onlyTold⟩
    exact ((steps_injectEach config.hardware.injectOnStart _).admitted hdefault hfresh).told
  | @step b before op ih =>
    have hconfig : (b.step op).config = b.config := before.regular.config_act (.op op)
    rw [hconfig] at hdefault ⊢
    have hbefore : b.Admitted b.config.service := ⟨before.vetted (by omega), ih hdefault⟩
    exact (hbefore.of_moves hdefault (b.moves_step op)).told

/-- **From a positive default period, backends are told only what is admitted**,
at every moment of every life. -/
theorem Lived.admitted (h : b.Lived) (hdefault : 1 ≤ b.config.service.defaultPeriod.toInt) :
    b.Admitted b.config.service := by
  induction h with
  | start reachable => exact reachable.admitted hdefault
  | @act b before act ih =>
    have hconfig : (b.act act).config = b.config := before.regular.config_act act
    rw [hconfig] at hdefault ⊢
    cases act with
    | op op => exact (ih hdefault).of_moves hdefault (b.moves_step op)
    | stop => exact (ih hdefault).stop hdefault

/-- **Backends are told nothing but what is admitted.** In every life from an
allowed configuration, whatever is asked and refused: what is subscribed and
what is saved is admitted; the check of a request never divides by zero, and
compares the true quotient; and whatever parameters a backend was ever told,
and took or not, are admitted, although they mix those of several processes. -/
theorem Lived.tells_admitted (h : b.Lived) (hvalid : b.config.validate = .ok ()) :
    (∀ pid s request, b.registry.subscription pid s = some request ∨
      b.suspension.saved pid s = some request → b.config.service.Admits request) ∧
    (∀ s request, b.arbitration.divisor request ≠ 0 ∧
      (s.isValid = true → b.hardware.has s = true →
        0 ≤ request.period.toInt → 0 ≤ request.delay.toInt →
        0 < (b.arbitration.divisor request).toInt ∧
        b.arbitration.effectivePeriod s request =
          if b.config.service.maxEventCount.toInt <
              request.delay.toInt / (b.arbitration.divisor request).toInt then
            .error (.invalidArgument (.tooManyEvents request.delay
              (b.arbitration.divisor request) b.config.service.maxEventCount))
          else .ok (b.arbitration.divisor request))) ∧
    ∀ d ∈ b.hardware.devices, ∀ s request done,
      ⟨.setBatch s request, done⟩ ∈ d.log → b.config.service.Admits request := by
  have hdefault := Config.defaultPeriod_pos_of_validate hvalid
  have hadmitted := h.admitted hdefault
  have hsettings : b.arbitration.settings = b.config.service :=
    hadmitted.vetted.arbitration.settings_eq
  refine ⟨fun pid s request hrequest => ?_, fun s request => ⟨?_, ?_⟩, ?_⟩
  · have hvets := hrequest.elim hadmitted.vetted.arbitration.subscribed hadmitted.vetted.saved
    exact hvets.admits hdefault
  · exact Arbitration.divisor_ne_zero (hsettings ▸ hdefault) request
  · intro hs hhas hperiod hdelay
    have hpos := Arbitration.divisor_pos (hsettings ▸ hdefault) hperiod
    refine ⟨hpos, ?_⟩
    rw [Arbitration.effectivePeriod_of_nonneg hs hhas hperiod hdelay, hsettings]
    simp only [Int64.lt_iff_toInt_lt, toInt_div_of_pos hdelay hpos]
  · intro d hd s request done hlog
    exact hadmitted.told s request done ⟨d, hd, hlog⟩

/-- One process asks for a short period and a long delay, the other for the
reverse; the backend is told the short period with the short delay. -/
theorem mixed_request_admitted :
    let b := trial.run [.enable ⟨100, 1000, 7⟩ .accelerometer ⟨1000000, 900000000⟩,
      .enable ⟨200, 1000, 8⟩ .accelerometer ⟨2000000, 9⟩]
    b.config.validate = .ok () ∧
      (∃ d ∈ b.hardware.devices, ⟨.setBatch .accelerometer ⟨1000000, 9⟩, true⟩ ∈ d.log) ∧
      b.config.service.Admits ⟨1000000, 9⟩ := by
  intro b
  have hlived : b.Lived := .start (reachable_trial.run _)
  have hvalid : b.config.validate = .ok () := by decide +kernel
  obtain ⟨-, -, htold⟩ := hlived.tells_admitted hvalid
  have hlogged : ⟨.setBatch .accelerometer ⟨1000000, 9⟩, true⟩ ∈ b.hardware.vendor.log := by
    decide +kernel
  exact ⟨hvalid, ⟨_, List.mem_cons_self, hlogged⟩, htold _ List.mem_cons_self _ _ _ hlogged⟩

end Broker
end SensorBroker
