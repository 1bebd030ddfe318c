/-
# The journal of a sensor

What a backend has logged about one sensor, oldest call first, is the journal
of that sensor. All of it stands at the sensor's home (`Hardware.Recorded`),
and whether the sensor reports and what it took last can be read off it.

A journal is lawful if every call in it was permitted after those before it: a
sensor may be switched on when it is off and has just taken parameters, and
switched off when it is on, and while it is on it may be told parameters that
differ from the last. A lawful journal switches on and off in turn, and while
the sensor is on, nothing is told twice in a row.

Key definitions: `Journal`, `Journal.Permits`, `Journal.Lawful`,
`Journal.IsStretch`, `Hardware.journal`, `Hardware.Recorded`.
Key theorems: `Journal.Lawful.alternates`, `Journal.Lawful.permits`,
`Journal.Lawful.told_anew`, `Hardware.Recorded.perform_ok`,
`Hardware.Recorded.perform_error`.
-/
import Mathlib.Data.List.Chain
import SensorBroker.Proofs.Hardware.Home

namespace SensorBroker

/-- Whether a call that was done switched its sensor on, or off. -/
def LoggedCall.switch : LoggedCall → Option Bool
  | ⟨.enable _, true⟩ => some true
  | ⟨.disable _, true⟩ => some false
  | _ => none

/-- The parameters that a call which was done told its sensor. -/
def LoggedCall.batch : LoggedCall → Option Request
  | ⟨.setBatch _ r, true⟩ => some r
  | _ => none

/-- Calls about one sensor, oldest first. -/
abbrev Journal := List LoggedCall

namespace Journal

/-- The switchings on and off that were done. -/
def switches (j : Journal) : List Bool :=
  j.filterMap LoggedCall.switch

/-- The parameters that were taken. -/
def batches (j : Journal) : List Request :=
  j.filterMap LoggedCall.batch

/-- Whether the sensor is on in the end. -/
def isOn (j : Journal) : Bool :=
  j.switches.getLast?.getD false

/-- The parameters taken last. -/
def lastBatch (j : Journal) : Option Request :=
  j.batches.getLast?

@[simp] theorem switches_append (j j' : Journal) :
    switches (j ++ j') = switches j ++ switches j' :=
  List.filterMap_append

@[simp] theorem batches_append (j j' : Journal) :
    batches (j ++ j') = batches j ++ batches j' :=
  List.filterMap_append

/-! ### Laws -/

/-- Whether a call may come after those of a journal. -/
def Permits (j : Journal) : LoggedCall → Prop
  | ⟨.enable s, _⟩ => j.isOn = false ∧ ∃ r, j.getLast? = some ⟨.setBatch s r, true⟩
  | ⟨.disable _, true⟩ => j.isOn = true
  | ⟨.setBatch _ r, true⟩ => j.isOn = true → j.lastBatch ≠ some r
  | _ => True

/-- Every call was permitted after those before it. -/
inductive Lawful : Journal → Prop
  | nil : Lawful []
  | snoc {j : Journal} {c : LoggedCall} (before : Lawful j) (permitted : j.Permits c) :
    Lawful (j ++ [c])

variable {j j' : Journal} {c : LoggedCall} {s : SensorId}

/-- A sensor is switched on while it is off, and off while it is on. -/
theorem Permits.switch_ne (h : j.Permits c) {b : Bool} (hb : c.switch = some b) :
    j.isOn ≠ b := by
  obtain ⟨call, ok⟩ := c
  cases call with
  | enable s =>
    cases ok with
    | false => cases hb
    | true =>
      cases hb
      rw [h.1]
      exact Bool.false_ne_true
  | disable s =>
    cases ok with
    | false => cases hb
    | true =>
      cases hb
      have hon : j.isOn = true := h
      rw [hon]
      exact Bool.false_ne_true.symm
  | setBatch s r => cases ok <;> cases hb
  | setMode s mode => cases hb
  | command s command => cases hb

/-- While it is on, a sensor is told something new. -/
theorem Permits.batch_ne (h : j.Permits c) {r : Request} (hr : c.batch = some r)
    (hon : j.isOn = true) : j.lastBatch ≠ some r := by
  obtain ⟨call, ok⟩ := c
  cases call with
  | setBatch s r' =>
    cases ok with
    | false => cases hr
    | true =>
      cases hr
      exact h hon
  | enable s => cases hr
  | disable s => cases hr
  | setMode s mode => cases hr
  | command s command => cases hr

/-- **A sensor is switched on first, then off and on in turn.** -/
theorem Lawful.alternates (h : j.Lawful) : (false :: j.switches).IsChain (· ≠ ·) := by
  induction h with
  | nil => exact List.isChain_singleton false
  | @snoc j c _ permitted ih =>
    rw [switches_append]
    cases hc : c.switch with
    | none => simpa [switches, hc] using ih
    | some b =>
      have hb : switches [c] = [b] := by simp [switches, hc]
      rw [hb, ← List.cons_append]
      refine List.isChain_append.2 ⟨ih, List.isChain_singleton b, ?_⟩
      simpa [List.getLast?_cons, isOn] using permitted.switch_ne hc

/-- Every call of a lawful journal was permitted when it was made. -/
theorem Lawful.permits (h : j.Lawful) :
    ∀ {before after : Journal}, j = before ++ c :: after → before.Permits c := by
  induction h with
  | nil => simp
  | @snoc j c' _ permitted ih =>
    intro before after heq
    rcases List.eq_nil_or_concat after with rfl | ⟨after', last, rfl⟩
    · obtain ⟨rfl, hc⟩ := List.append_inj' heq rfl
      cases hc
      exact permitted
    · rw [List.concat_eq_append, ← List.cons_append, ← List.append_assoc] at heq
      exact ih (List.append_inj' heq rfl).1

/-- The calls from the telling that a sensor is switched on after, up to where
it is switched off or the journal ends. -/
def IsStretch (s : SensorId) (j : Journal) : Prop :=
  ∃ r rest, j = ⟨.setBatch s r, true⟩ :: ⟨.enable s, true⟩ :: rest ∧ false ∉ switches rest

/-- A sensor is on at the end of a stretch. -/
theorem IsStretch.isOn_append (h : IsStretch s j') (j : Journal) : isOn (j ++ j') = true := by
  obtain ⟨r, rest, rfl, hno⟩ := h
  have hswitches : switches (⟨.setBatch s r, true⟩ :: ⟨.enable s, true⟩ :: rest)
      = true :: switches rest := rfl
  rw [isOn, switches_append, hswitches, List.getLast?_append, List.getLast?_cons]
  cases hrest : (switches rest).getLast? with
  | none => rfl
  | some b =>
    cases b with
    | true => rfl
    | false => exact absurd (List.mem_of_getLast? hrest) hno

/-- What was taken last in a stretch was taken last. -/
theorem IsStretch.lastBatch_append (h : IsStretch s j') (j : Journal) :
    lastBatch (j ++ j') = lastBatch j' := by
  obtain ⟨r, rest, rfl, -⟩ := h
  have hbatches : batches (⟨.setBatch s r, true⟩ :: ⟨.enable s, true⟩ :: rest)
      = r :: batches rest := rfl
  rw [lastBatch, lastBatch, batches_append, hbatches, List.getLast?_append, List.getLast?_cons]
  rfl

/-- **While a sensor is on, it is never told twice in a row what it knows**,
counting what it took just before it was switched on. -/
theorem Lawful.told_anew (h : j.Lawful) (hwithin : j' <:+: j) (hstretch : IsStretch s j') :
    j'.batches.IsChain (· ≠ ·) := by
  obtain ⟨before, after, rfl⟩ := hwithin
  obtain ⟨r, rest, rfl, hno⟩ := hstretch
  induction rest using List.reverseRecOn generalizing after with
  | nil => exact List.isChain_singleton r
  | append_singleton rest c ih =>
    have hno' : false ∉ switches rest := fun hmem => hno (by simp [hmem])
    have hstretch : IsStretch s (⟨.setBatch s r, true⟩ :: ⟨.enable s, true⟩ :: rest) :=
      ⟨r, rest, rfl, hno'⟩
    have hsplit : Lawful (before ++ ⟨.setBatch s r, true⟩ :: ⟨.enable s, true⟩ :: rest
        ++ c :: after) := by
      simpa using h
    have ih := ih (c :: after) hno' hsplit
    have hpermits := hsplit.permits rfl
    rw [← List.cons_append, ← List.cons_append, batches_append]
    cases hc : c.batch with
    | none => simpa [batches, hc] using ih
    | some r' =>
      have hr' : batches [c] = [r'] := by simp [batches, hc]
      have hne := hpermits.batch_ne hc (hstretch.isOn_append before)
      rw [hstretch.lastBatch_append before] at hne
      rw [hr']
      refine List.isChain_append.2 ⟨ih, List.isChain_singleton r', fun x hx y hy heq => hne ?_⟩
      cases hy
      exact heq ▸ hx

/-! ### One more call -/

/-- What a call adds to the journal of a sensor. -/
def entry (s : SensorId) (c : DeviceCall) (done : Bool) : Journal :=
  if c.sensor = s then [⟨c, done⟩] else []

theorem isOn_append_done (j : Journal) (s : SensorId) (c : DeviceCall) :
    isOn (j ++ entry s c true) = c.reportsAfter s j.isOn := by
  unfold entry
  split_ifs with hs
  · cases c <;>
      simp_all [isOn, switches, LoggedCall.switch, DeviceCall.reportsAfter, DeviceCall.sensor]
  · rw [List.append_nil, DeviceCall.reportsAfter_of_ne hs]

theorem isOn_append_refused (j : Journal) (s : SensorId) (c : DeviceCall) :
    isOn (j ++ entry s c false) = j.isOn := by
  unfold entry
  split_ifs
  · cases c <;> simp [isOn, switches, LoggedCall.switch]
  · rw [List.append_nil]

end Journal

/-! ### Backends -/

namespace Device

/-- What a backend has logged about a sensor. -/
def journal (d : Device) (s : SensorId) : Journal :=
  (d.log.filter fun c => c.call.sensor = s).reverse

theorem IsIdle.journal {d : Device} (h : d.IsIdle) (s : SensorId) : d.journal s = [] := by
  simp [Device.journal, h.2]

/-- What a sensor took last can be read off its journal. -/
theorem programmed_eq_lastBatch (d : Device) (s : SensorId) :
    d.programmed s = (d.journal s).lastBatch := by
  rw [Journal.lastBatch, Journal.batches, journal, List.filterMap_reverse, List.getLast?_reverse,
    List.filterMap_filter, List.head?_filterMap, programmed]
  congr 1
  funext c
  obtain ⟨call, ok⟩ := c
  by_cases hs : call.sensor = s
  · cases call <;> cases ok <;> simp_all [LoggedCall.batch, DeviceCall.sensor]
  · cases call <;> cases ok <;> simp_all [DeviceCall.sensor]

/-- A call goes into the journal of its sensor with its outcome. -/
theorem journal_perform (d : Device) (c : DeviceCall) (s : SensorId) :
    (d.perform c).device.journal s
      = d.journal s ++ Journal.entry s c (d.perform c).result.isOk := by
  rw [journal, log_perform, Journal.entry]
  split_ifs with hs
  · simp [hs, journal]
  · simp [hs, journal]

/-- What reports is what is on in the journal, also after a call. -/
theorem reports_perform {d : Device} {s : SensorId} (h : d.reports s = (d.journal s).isOn)
    (c : DeviceCall) : (d.perform c).device.reports s = ((d.perform c).device.journal s).isOn := by
  rw [journal_perform]
  cases hr : (d.perform c).result with
  | ok _ => rw [(perform_ok hr s).1, h]; exact (Journal.isOn_append_done ..).symm
  | error _ => rw [(perform_error hr s).1, h]; exact (Journal.isOn_append_refused ..).symm

end Device

namespace Hardware

/-- The journal of a sensor, as its home has it. -/
def journal (h : Hardware) (s : SensorId) : Journal :=
  ((h.home s).map h.device).elim [] fun d => d.journal s

theorem journal_setDevice {h : Hardware} (hs : h.Sound) {slot : Slot} (hslot : h.Holds slot)
    (d : Device) (s : SensorId) :
    (h.setDevice d slot).journal s = if h.home s = some slot then d.journal s else h.journal s := by
  rw [journal, home_setDevice, map_device_setDevice hs hslot, journal]
  split_ifs
  · rfl
  · rfl

/-- Journals tell the truth: what reports is what is on in the journal, and
nothing was asked about a sensor anywhere but at its home. -/
structure Recorded (h : Hardware) : Prop extends h.Sound where
  reports_eq_isOn : ∀ {slot}, h.Holds slot → ∀ s,
    (h.device slot).reports s = ((h.device slot).journal s).isOn
  journal_eq_nil : ∀ {s slot}, h.Holds slot → h.home s ≠ some slot →
    (h.device slot).journal s = []

theorem told_eq_lastBatch (h : Hardware) (s : SensorId) :
    h.told s = (h.journal s).lastBatch := by
  rw [told_eq, journal]
  cases (h.home s).map h.device with
  | none => rfl
  | some d => exact d.programmed_eq_lastBatch s

theorem Recorded.runs_eq_isOn {h : Hardware} (hr : h.Recorded) (s : SensorId) :
    h.runs s = (h.journal s).isOn := by
  rw [runs_eq, journal]
  cases hhome : h.home s with
  | none => rfl
  | some slot => exact hr.reports_eq_isOn (hr.home_holds hhome) s

/-- Hardware has gone through some calls about a sensor, and none about any
other. -/
structure Called (h : Hardware) (s : SensorId) (calls : Journal) (h' : Hardware) : Prop where
  recorded : h'.Recorded
  journal_self : h'.journal s = h.journal s ++ calls
  journal_of_ne : ∀ s', s' ≠ s → h'.journal s' = h.journal s'

theorem Recorded.called_nil {h : Hardware} (hr : h.Recorded) (s : SensorId) : h.Called s [] h :=
  ⟨hr, (List.append_nil _).symm, fun _ _ => rfl⟩

theorem Called.trans {h h₁ h₂ : Hardware} {s : SensorId} {calls calls' : Journal}
    (hc : h.Called s calls h₁) (hc' : h₁.Called s calls' h₂) : h.Called s (calls ++ calls') h₂ where
  recorded := hc'.recorded
  journal_self := by rw [hc'.journal_self, hc.journal_self, List.append_assoc]
  journal_of_ne s' hne := (hc'.journal_of_ne s' hne).trans (hc.journal_of_ne s' hne)

/-- A backend that a call was made to keeps its journals true, and those of
the sensors that live elsewhere as they are. -/
theorem Recorded.setDevice {h : Hardware} (hr : h.Recorded) {slot : Slot} (hslot : h.Holds slot)
    {c : DeviceCall} (hhome : h.home c.sensor = some slot)
    (hs : (h.setDevice ((h.device slot).perform c).device slot).Sound) :
    (h.setDevice ((h.device slot).perform c).device slot).Recorded := by
  refine ⟨hs, fun {slot'} hslot' s => ?_, fun {s slot'} hslot' hhome' => ?_⟩
  · rw [holds_setDevice] at hslot'
    by_cases heq : slot' = slot
    · subst heq
      rw [device_setDevice_self hslot]
      exact Device.reports_perform (hr.reports_eq_isOn hslot s) c
    · rw [device_setDevice_of_ne hslot' heq, hr.reports_eq_isOn hslot']
  · rw [holds_setDevice] at hslot'
    rw [home_setDevice] at hhome'
    by_cases heq : slot' = slot
    · subst heq
      have hne : c.sensor ≠ s := fun heq => hhome' (heq ▸ hhome)
      rw [device_setDevice_self hslot, Device.journal_perform, Journal.entry, if_neg hne,
        hr.journal_eq_nil hslot hhome', List.append_nil]
    · rw [device_setDevice_of_ne hslot' heq, hr.journal_eq_nil hslot' hhome']

/-- A call that some backend serves is noted in the journal of its sensor. -/
theorem Recorded.perform {h h' : Hardware} (hr : h.Recorded) {c : DeviceCall}
    {result : Except HardwareError Unit} (hp : h.perform c = (result, h')) :
    (∃ e, result = .error e ∧ h' = h) ∨ h.Called c.sensor [⟨c, result.isOk⟩] h' := by
  have hs' : h'.Sound := by
    cases result with
    | ok _ => exact (hr.toSound.perform_ok hp).1
    | error _ => exact (hr.toSound.perform_error hp).1
  unfold Hardware.perform at hp
  split at hp
  · next e _ =>
    cases hp
    exact .inl ⟨e, rfl, rfl⟩
  · next slot hroute =>
    simp only [Prod.mk.injEq] at hp
    obtain ⟨rfl, rfl⟩ := hp
    have hhome := hr.home_of_route hroute
    have hslot := hr.home_holds hhome
    have hset := hr.setDevice hslot hhome
      ⟨hs'.home_holds, hs'.not_lists_of_isMocked, hs'.apart⟩
    refine .inr ⟨⟨hs', hset.reports_eq_isOn, hset.journal_eq_nil⟩, ?_, fun s hne => ?_⟩
    · refine (journal_setDevice hr.toSound hslot _ c.sensor).trans ?_
      rw [if_pos hhome, Device.journal_perform, Journal.entry, if_pos rfl, journal, hhome]
      rfl
    · refine (journal_setDevice hr.toSound hslot _ s).trans ?_
      split_ifs with hhome'
      · rw [Device.journal_perform, Journal.entry, if_neg hne.symm, List.append_nil, journal,
          hhome']
        rfl
      · rfl

/-- A call that is done is noted as done. -/
theorem Recorded.perform_ok {h h' : Hardware} (hr : h.Recorded) {c : DeviceCall}
    (hp : h.perform c = (.ok (), h')) : h.Called c.sensor [⟨c, true⟩] h' := by
  rcases hr.perform hp with ⟨e, he, -⟩ | hcalled
  · cases he
  · exact hcalled

/-- A call that failed: a backend has refused it, or none was there. -/
inductive Failed (c : DeviceCall) : Journal → Prop
  | unserved : Failed c []
  | refused : Failed c [⟨c, false⟩]

/-- A call that fails is noted as refused, or by nobody. -/
theorem Recorded.perform_error {h h' : Hardware} (hr : h.Recorded) {c : DeviceCall}
    {e : HardwareError} (hp : h.perform c = (.error e, h')) :
    ∃ calls, Failed c calls ∧ h.Called c.sensor calls h' := by
  rcases hr.perform hp with ⟨_, -, rfl⟩ | hcalled
  · exact ⟨[], .unserved, hr.called_nil _⟩
  · exact ⟨_, .refused, hcalled⟩

/-! ### Mocks, events and the start -/

theorem journal_inject (h : Hardware) (s s' : SensorId) :
    (h.inject s).2.journal s' = h.journal s' := by
  unfold inject
  split_ifs <;> rfl

theorem journal_withdraw (h : Hardware) (s s' : SensorId) :
    (h.withdraw s).2.journal s' = h.journal s' := by
  unfold withdraw
  split_ifs <;> rfl

theorem Recorded.inject {h : Hardware} (hr : h.Recorded) (s : SensorId) :
    (h.inject s).2.Recorded := by
  have hs := hr.toSound.inject s
  unfold Hardware.inject at hs ⊢
  split_ifs at hs ⊢
  all_goals exact ⟨hs, hr.reports_eq_isOn, hr.journal_eq_nil⟩

theorem Recorded.withdraw {h : Hardware} (hr : h.Recorded) (s : SensorId) :
    (h.withdraw s).2.Recorded := by
  have hs := hr.toSound.withdraw s
  unfold Hardware.withdraw at hs ⊢
  split_ifs at hs ⊢
  all_goals exact ⟨hs, hr.reports_eq_isOn, hr.journal_eq_nil⟩

theorem Recorded.setRaised {h : Hardware} (hr : h.Recorded) (es : List Event) :
    Recorded { h with raised := es } :=
  ⟨hr.toSound.setRaised es, hr.reports_eq_isOn, hr.journal_eq_nil⟩

theorem Unused.recorded {h : Hardware} (hu : h.Unused) : h.Recorded where
  toSound := hu.sound
  reports_eq_isOn {slot} _ s := by rw [(hu.idle slot).reports, (hu.idle slot).journal]; rfl
  journal_eq_nil {s slot} _ _ := (hu.idle slot).journal s

theorem Unused.journal {h : Hardware} (hu : h.Unused) (s : SensorId) : h.journal s = [] := by
  unfold Hardware.journal
  cases h.home s with
  | none => rfl
  | some slot => exact (hu.idle slot).journal s

end Hardware
end SensorBroker
