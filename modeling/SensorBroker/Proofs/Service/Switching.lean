/-
# Which calls a request makes

Enabling a sensor tells it what its subscribers want, unless that was noted as
told, and then switches it on, unless it runs; disabling it tells it what those
who are left want, or switches it off. Where a call fails the request makes no
other. So the journal of a sensor goes on by very few calls at a time
(`Arbitration.Issued`), and each of them is permitted after those before it
because what arbitration has noted of a sensor is what its journal says
(`Arbitration.Noted`).

From there, for every run of requests and whatever is refused on the way: a
sensor is switched on and off in turn, every switching on directly follows a
telling of the least that its subscribers ask for at that moment, while the
sensor is on nothing is told twice in a row, and what a request answers is what
it did.

Key definitions: `Arbitration.telling`, `Arbitration.switching`,
`Arbitration.EnableCalls`, `Arbitration.DisableCalls`, `Arbitration.Noted`,
`Arbitration.Audited`, `Arbitration.EnabledAt`, `EnableOutcome.calls`,
`DisableOutcome.calls`.
Key theorems: `Arbitration.enable_called`, `Arbitration.disable_called`,
`Arbitration.Step.issued`, `Arbitration.Step.audited`,
`Arbitration.Steps.enabled_at`, `Arbitration.Steps.switched_in_turn`,
`Broker.Reachable.audited`.
-/
import SensorBroker.Proofs.Hardware.Journal
import SensorBroker.Proofs.Service.Consistency

namespace SensorBroker

/-- The calls that the answer to a request to enable says were made: `r` was
told, and the sensor was switched on. -/
def EnableOutcome.calls (outcome : EnableOutcome) (s : SensorId) (r : Request) : Journal :=
  (if outcome.reprogrammed then [⟨.setBatch s r, true⟩] else []) ++
    if outcome.wasRunning then [] else [⟨.enable s, true⟩]

/-- The calls that the answer to a request to disable says were made. -/
def DisableOutcome.calls (outcome : DisableOutcome) (s : SensorId) (r : Request) : Journal :=
  (if outcome.reprogrammed then [⟨.setBatch s r, true⟩] else []) ++
    if outcome.switchedOff then [⟨.disable s, true⟩] else []

namespace Arbitration

variable {a a' : Arbitration} {pid : Pid} {s : SensorId} {request : Request} {calls : Journal}

/-! ### The calls of one request -/

/-- Passing on what subscribers want, unless it is noted as told. -/
def telling (a : Arbitration) (s : SensorId) : Journal :=
  if a.programmed s = some (a.wanted s) then [] else [⟨.setBatch s (a.wanted s), true⟩]

/-- Switching on, unless the sensor runs. -/
def switching (a : Arbitration) (s : SensorId) : Journal :=
  if a.isRunning s then [] else [⟨.enable s, true⟩]

/-- Parameters are told exactly if the answer says so. -/
theorem telling_eq (a : Arbitration) (s : SensorId) :
    (if !decide (a.programmed s = some (a.wanted s)) then
      [(⟨.setBatch s (a.wanted s), true⟩ : LoggedCall)] else []) = a.telling s := by
  rw [telling]
  by_cases hsame : a.programmed s = some (a.wanted s)
  · rw [if_pos hsame, decide_eq_true hsame]
    rfl
  · rw [if_neg hsame, decide_eq_false hsame]
    rfl

theorem Programs.called {hw : Hardware} (h : a.Programs s hw) (hr : a.hardware.Recorded) :
    a.hardware.Called s (a.telling s) hw := by
  rcases h with ⟨hsame, rfl⟩ | ⟨hother, hb⟩
  · rw [telling, if_pos hsame]
    exact hr.called_nil s
  · rw [telling, if_neg hother]
    exact hr.perform_ok hb

theorem SwitchesOn.called {hw : Hardware} (h : a.SwitchesOn s hw) (hr : a.hardware.Recorded) :
    a.hardware.Called s (a.switching s) hw := by
  rcases h with ⟨hrun, rfl⟩ | ⟨hoff, he⟩
  · rw [switching, if_pos hrun]
    exact hr.called_nil s
  · rw [switching, if_neg (Bool.eq_false_iff.1 hoff)]
    exact hr.perform_ok he

/-- The calls that enabling a sensor makes, once the request is recorded. -/
inductive EnableCalls (a : Arbitration) (s : SensorId) : Journal → Prop
  | done : EnableCalls a s (a.telling s ++ a.switching s)
  | notTold {calls : Journal} (failed : Hardware.Failed (.setBatch s (a.wanted s)) calls) :
    EnableCalls a s calls
  | notOn {calls : Journal} (off : a.isRunning s = false)
    (failed : Hardware.Failed (.enable s) calls) : EnableCalls a s (a.telling s ++ calls)

/-- The calls that disabling a sensor makes, once the subscription is gone. -/
inductive DisableCalls (a : Arbitration) (s : SensorId) : Journal → Prop
  | shared : DisableCalls a s (a.telling s)
  | last : DisableCalls a s [⟨.disable s, true⟩]
  | notTold {calls : Journal} (failed : Hardware.Failed (.setBatch s (a.wanted s)) calls) :
    DisableCalls a s calls
  | notOff {calls : Journal} (failed : Hardware.Failed (.disable s) calls) :
    DisableCalls a s calls

/-- A request to enable makes the calls it answers. -/
theorem called_of_enable_ok {outcome : EnableOutcome} (hr : a.hardware.Recorded)
    (he : a.enable pid s request = (.ok outcome, a')) :
    ∃ period, a.effectivePeriod s request = .ok period ∧
      a.hardware.Called s (outcome.calls s (a'.wanted s)) a'.hardware ∧
      outcome.calls s (a'.wanted s) = (a.asking pid s ⟨period, request.delay⟩).telling s ++
        (a.asking pid s ⟨period, request.delay⟩).switching s := by
  obtain ⟨period, hw, hw', hperiod, htold, hon, rfl, hrunning, -, hreprogrammed⟩ := enable_ok he
  have hcalls : outcome.calls s ((a.asking pid s ⟨period, request.delay⟩).wanted s)
      = (a.asking pid s ⟨period, request.delay⟩).telling s ++
        (a.asking pid s ⟨period, request.delay⟩).switching s := by
    rw [EnableOutcome.calls, hreprogrammed, hrunning, telling_eq]
    rfl
  have htold' := htold.called hr
  exact ⟨period, hperiod, hcalls ▸ htold'.trans (hon.called htold'.recorded), hcalls⟩

/-- **What enabling a sensor asks of the hardware**, answered or not. -/
theorem enable_called (hr : a.hardware.Recorded) {period : Nanos}
    (hperiod : a.effectivePeriod s request = .ok period) (pid : Pid) :
    ∃ calls, (a.asking pid s ⟨period, request.delay⟩).EnableCalls s calls ∧
      a.hardware.Called s calls (a.enable pid s request).2.hardware := by
  rcases he : a.enable pid s request with ⟨e | outcome, a'⟩
  · rcases enable_error he with ⟨hno, -⟩ | ⟨period', hperiod', -, hfail, -⟩
    · cases hno.symm.trans hperiod
    · obtain rfl : period' = period := Except.ok.inj (hperiod'.symm.trans hperiod)
      generalize a'.hardware = hw at hfail
      cases hfail with
      | notTold hb =>
        obtain ⟨calls, hfailed, hcalled⟩ := Hardware.Recorded.perform_error (h := a.hardware) hr hb
        exact ⟨calls, .notTold hfailed, hcalled⟩
      | notOn hb hoff hon =>
        have htold := hb.called hr
        obtain ⟨calls, hfailed, hcalled⟩ := htold.recorded.perform_error hon
        exact ⟨_, .notOn hoff hfailed, htold.trans hcalled⟩
  · obtain ⟨period', hperiod', hcalled, hcalls⟩ := called_of_enable_ok hr he
    obtain rfl : period' = period := Except.ok.inj (hperiod'.symm.trans hperiod)
    exact ⟨_, .done, hcalls ▸ hcalled⟩

/-- A request to disable makes the calls it answers. -/
theorem called_of_disable_ok {outcome : DisableOutcome} (hr : a.hardware.Recorded)
    (hd : a.disable pid s = (.ok outcome, a')) :
    a.hardware.Called s (outcome.calls s (a'.wanted s)) a'.hardware ∧
      (a.without pid s).DisableCalls s (outcome.calls s (a'.wanted s)) := by
  have hreprogrammed := reprogrammed_of_disable_ok hd
  obtain ⟨-, hok⟩ := disable_ok hd
  generalize hoff : outcome.switchedOff = off at hok
  rw [hoff] at hreprogrammed
  cases hok with
  | @shared hw hsub hb =>
    have hcalls : outcome.calls s ((a.without pid s).wanted s) = (a.without pid s).telling s := by
      rw [DisableOutcome.calls, hreprogrammed, hoff, Bool.not_false, Bool.true_and, telling_eq]
      exact List.append_nil _
    exact ⟨hcalls ▸ hb.called hr, hcalls ▸ .shared⟩
  | @last hw hsub hdone =>
    have hcalls (r : Request) : outcome.calls s r = [⟨.disable s, true⟩] := by
      rw [DisableOutcome.calls, hreprogrammed, hoff]
      rfl
    rw [hcalls]
    exact ⟨Hardware.Recorded.perform_ok (h := a.hardware) hr hdone, .last⟩

/-- **What disabling a sensor asks of the hardware**, answered or not. -/
theorem disable_called (hr : a.hardware.Recorded) {old : Request}
    (hp : a.registry.subscription pid s = some old) :
    ∃ calls, (a.without pid s).DisableCalls s calls ∧
      a.hardware.Called s calls (a.disable pid s).2.hardware := by
  rcases hd : a.disable pid s with ⟨e | outcome, a'⟩
  · rcases disable_error hd with ⟨hno, -, -⟩ | ⟨-, -, -, hfail⟩
    · cases hno.symm.trans hp
    · generalize a'.hardware = hw at hfail
      cases hfail with
      | shared _ hb =>
        obtain ⟨calls, hfailed, hcalled⟩ := Hardware.Recorded.perform_error (h := a.hardware) hr hb
        exact ⟨calls, .notTold hfailed, hcalled⟩
      | last _ hoff =>
        obtain ⟨calls, hfailed, hcalled⟩ :=
          Hardware.Recorded.perform_error (h := a.hardware) hr hoff
        exact ⟨calls, .notOff hfailed, hcalled⟩
  · obtain ⟨hcalled, hcalls⟩ := called_of_disable_ok hr hd
    exact ⟨_, hcalls, hcalled⟩

/-! ### Every call is permitted -/

/-- What is noted of a sensor is what its journal says. -/
structure Noted (a : Arbitration) (s : SensorId) : Prop where
  lawful : (a.hardware.journal s).Lawful
  isOn_eq : (a.hardware.journal s).isOn = a.isRunning s
  told : a.isRunning s = true → (a.hardware.journal s).lastBatch = a.programmed s
  stopped : a.isRunning s = false → a.programmed s = none

/-- In a settled state notes and journals agree. -/
theorem Consistent.noted (h : a.Consistent) (hr : a.hardware.Recorded)
    (hl : (a.hardware.journal s).Lawful) : a.Noted s := by
  have hon := hr.runs_eq_isOn s
  have hlast := a.hardware.told_eq_lastBatch s
  cases h.settled s with
  | idle _ unnoted stopped =>
    have hoff : a.isRunning s = false := by rw [isRunning, unnoted]; rfl
    have hnone : a.programmed s = none := by rw [programmed, unnoted]; rfl
    refine ⟨hl, by rw [← hon, stopped, hoff], fun hrun => ?_, fun _ => hnone⟩
    cases hrun.symm.trans hoff
  | running _ noted enabled merged runs told =>
    have hrun : a.isRunning s = true := by rw [isRunning, noted]; exact enabled
    have hprogrammed : a.programmed s = some (a.wanted s) := by
      rw [programmed, noted, Option.map_some, merged]
    refine ⟨hl, by rw [← hon, runs, hrun], fun _ => by rw [← hlast, told, hprogrammed],
      fun hoff => ?_⟩
    cases hoff.symm.trans hrun

/-- Notes and journal do not depend on the records. -/
theorem Noted.congr (h : a.Noted s) (hhw : a'.hardware = a.hardware) (hact : a'.active = a.active) :
    a'.Noted s := by
  have hrun : a'.isRunning s = a.isRunning s := by rw [isRunning, isRunning, hact]
  have hprog : a'.programmed s = a.programmed s := by rw [programmed, programmed, hact]
  refine ⟨?_, ?_, ?_, ?_⟩
  · rw [hhw]
    exact h.lawful
  · rw [hhw, hrun]
    exact h.isOn_eq
  · rw [hhw, hrun, hprog]
    exact h.told
  · rw [hrun, hprog]
    exact h.stopped

/-- What is not noted as told may be told. -/
theorem Noted.lawful_telling (h : a.Noted s) : (a.hardware.journal s ++ a.telling s).Lawful := by
  unfold telling
  by_cases hsame : a.programmed s = some (a.wanted s)
  · rw [if_pos hsame, List.append_nil]
    exact h.lawful
  · rw [if_neg hsame]
    refine .snoc h.lawful fun hon => ?_
    rw [h.told (h.isOn_eq ▸ hon)]
    exact hsame

/-- A sensor that is off is told parameters before it is switched on. -/
theorem Noted.telling_of_off (h : a.Noted s) (hoff : a.isRunning s = false) :
    a.telling s = [⟨.setBatch s (a.wanted s), true⟩] := by
  have hother : a.programmed s ≠ some (a.wanted s) := by
    rw [h.stopped hoff]
    exact (Option.some_ne_none _).symm
  rw [telling, if_neg hother]

/-- A sensor that is off may be switched on once it was told. -/
theorem Noted.lawful_on (h : a.Noted s) (hoff : a.isRunning s = false) (done : Bool) :
    Journal.Lawful (a.hardware.journal s ++ a.telling s ++ [⟨.enable s, done⟩]) := by
  have htelling := h.telling_of_off hoff
  have hstill : Journal.isOn (a.hardware.journal s ++ a.telling s)
      = (a.hardware.journal s).isOn := by
    rw [Journal.isOn, Journal.switches_append, htelling]
    simp [Journal.switches, LoggedCall.switch, Journal.isOn]
  have hlast : (a.hardware.journal s ++ a.telling s).getLast?
      = some ⟨.setBatch s (a.wanted s), true⟩ := by
    rw [htelling, List.getLast?_concat]
  exact .snoc h.lawful_telling ⟨hstill.trans (h.isOn_eq.trans hoff), a.wanted s, hlast⟩

/-- A call that failed was permitted, or it was not even noted. -/
theorem lawful_failed {j : Journal} {c : DeviceCall} (hl : j.Lawful)
    (h : Hardware.Failed c calls) (hc : j.Permits ⟨c, false⟩) : (j ++ calls).Lawful := by
  cases h with
  | unserved => rwa [List.append_nil]
  | refused => exact .snoc hl hc

/-- **The calls of a request to enable are permitted.** -/
theorem EnableCalls.lawful (h : a.EnableCalls s calls) (hn : a.Noted s) :
    (a.hardware.journal s ++ calls).Lawful := by
  cases h with
  | done =>
    rw [← List.append_assoc]
    cases hrun : a.isRunning s with
    | true =>
      rw [switching, hrun, if_pos rfl, List.append_nil]
      exact hn.lawful_telling
    | false =>
      rw [switching, hrun, if_neg Bool.false_ne_true]
      exact hn.lawful_on hrun true
  | notTold failed => exact lawful_failed hn.lawful failed trivial
  | notOn off failed =>
    rw [← List.append_assoc]
    cases failed with
    | unserved =>
      rw [List.append_nil]
      exact hn.lawful_telling
    | refused => exact hn.lawful_on off false

/-- **The calls of a request to disable are permitted** if the sensor runs. -/
theorem DisableCalls.lawful (h : a.DisableCalls s calls) (hn : a.Noted s)
    (hrun : a.isRunning s = true) : (a.hardware.journal s ++ calls).Lawful := by
  cases h with
  | shared => exact hn.lawful_telling
  | last => exact .snoc hn.lawful (hn.isOn_eq.trans hrun)
  | notTold failed => exact lawful_failed hn.lawful failed trivial
  | notOff failed => exact lawful_failed hn.lawful failed trivial

/-- A call that switches nothing and tells nothing is permitted at any time. -/
theorem permits_of_passing {c : DeviceCall} (hc : Passing c) (j : Journal) (done : Bool) :
    j.Permits ⟨c, done⟩ := by
  cases c with
  | enable s =>
    have hswitched := (hc s).1 false
    simp [DeviceCall.reportsAfter] at hswitched
  | disable s =>
    have hswitched := (hc s).1 true
    simp [DeviceCall.reportsAfter] at hswitched
  | setBatch s r =>
    have htold := (hc s).2 none
    simp [DeviceCall.programmedAfter] at htold
  | setMode s mode => trivial
  | command s command => trivial

/-! ### Runs -/

/-- The calls about a sensor that a step has made. -/
inductive Issued (a a' : Arbitration) (s : SensorId) : Journal → Prop
  | nothing : Issued a a' s []
  | enable {pid : Pid} {request : Request} {period : Nanos} {calls : Journal}
    (answered : a' = (a.enable pid s request).2)
    (wanted : a.effectivePeriod s request = .ok period)
    (made : (a.asking pid s ⟨period, request.delay⟩).EnableCalls s calls) : Issued a a' s calls
  | disable {pid : Pid} {old : Request} {calls : Journal}
    (subscribed : a.registry.subscription pid s = some old)
    (made : (a.without pid s).DisableCalls s calls) : Issued a a' s calls
  | passing {c : DeviceCall} {done : Bool} (passing : Passing c) : Issued a a' s [⟨c, done⟩]

/-- Only the sensor that calls were made about can tell. -/
theorem issued_of_called {s' : SensorId} (h : a.hardware.Called s' calls a'.hardware)
    (hissued : s' = s → Issued a a' s calls) :
    ∃ calls, Issued a a' s calls ∧ a'.hardware.journal s = a.hardware.journal s ++ calls := by
  by_cases hs : s' = s
  · exact ⟨calls, hissued hs, hs ▸ h.journal_self⟩
  · exact ⟨[], .nothing, by rw [h.journal_of_ne s (Ne.symm hs), List.append_nil]⟩

/-- **The calls that one step makes.** -/
theorem Step.issued (m : Step a a') (hr : a.hardware.Recorded) :
    a'.hardware.Recorded ∧ ∀ s, ∃ calls, Issued a a' s calls ∧
      a'.hardware.journal s = a.hardware.journal s ++ calls := by
  have hnothing {a' : Arbitration} (hsame : ∀ s, a'.hardware.journal s = a.hardware.journal s)
      (s : SensorId) : ∃ calls, Issued a a' s calls ∧
        a'.hardware.journal s = a.hardware.journal s ++ calls :=
    ⟨[], .nothing, by rw [hsame, List.append_nil]⟩
  cases m with
  | enable pid s' request =>
    cases hperiod : a.effectivePeriod s' request with
    | error e =>
      have hrefused : a.enable pid s' request = (.error e, a) := by
        simp only [Arbitration.enable, hperiod]
      rw [hrefused]
      exact ⟨hr, hnothing fun _ => rfl⟩
    | ok period =>
      obtain ⟨calls, hmade, hcalled⟩ := enable_called hr hperiod pid
      refine ⟨hcalled.recorded, fun s => issued_of_called hcalled fun hs => ?_⟩
      subst hs
      exact .enable rfl hperiod hmade
  | disable pid s' =>
    cases hp : a.registry.subscription pid s' with
    | none =>
      rw [disable_of_not_subscribed hp]
      exact ⟨hr, hnothing fun _ => rfl⟩
    | some old =>
      obtain ⟨calls, hmade, hcalled⟩ := disable_called hr hp
      refine ⟨hcalled.recorded, fun s => issued_of_called hcalled fun hs => ?_⟩
      subst hs
      exact .disable hp hmade
  | @call c passing =>
    rcases he : a.perform c with ⟨e | _, a'⟩
    · obtain ⟨e', hw, hhw, -, rfl⟩ := perform_error he
      obtain ⟨calls, hfailed, hcalled⟩ := hr.perform_error hhw
      refine ⟨hcalled.recorded, fun s => issued_of_called hcalled fun _ => ?_⟩
      cases hfailed with
      | unserved => exact .nothing
      | refused => exact .passing passing
    · obtain ⟨hw, hhw, rfl⟩ := perform_ok he
      have hcalled := hr.perform_ok hhw
      exact ⟨hcalled.recorded, fun s => issued_of_called hcalled fun _ => .passing passing⟩
  | inject s' => exact ⟨hr.inject s', hnothing fun _ => Hardware.journal_inject ..⟩
  | withdraw s' => exact ⟨hr.withdraw s', hnothing fun _ => Hardware.journal_withdraw ..⟩
  | raise es => exact ⟨hr.setRaised es, hnothing fun _ => rfl⟩
  | record same => exact ⟨hr, hnothing fun _ => rfl⟩

/-- Every sensor is settled, and every call that was ever made was permitted. -/
structure Audited (a : Arbitration) : Prop where
  consistent : a.Consistent
  recorded : a.hardware.Recorded
  lawful : ∀ s, (a.hardware.journal s).Lawful

theorem Audited.noted (h : a.Audited) (s : SensorId) : a.Noted s :=
  h.consistent.noted h.recorded (h.lawful s)

theorem Audited.noted_asking (h : a.Audited) (pid : Pid) (s : SensorId) (request : Request) :
    (a.asking pid s request).Noted s :=
  (h.noted s).congr rfl rfl

theorem Audited.isRunning_of_subscription (h : a.Audited) {old : Request}
    (hp : a.registry.subscription pid s = some old) : a.isRunning s = true := by
  have hruns := (h.consistent.settled s).runs_of_subscription hp
  rw [← (h.noted s).isOn_eq, ← h.recorded.runs_eq_isOn, hruns]

/-- **Every step makes only calls that are permitted.** -/
theorem Step.audited (m : Step a a') (h : a.Audited) : a'.Audited := by
  obtain ⟨hr, hissued⟩ := m.issued h.recorded
  refine ⟨m.consistent h.consistent, hr, fun s => ?_⟩
  obtain ⟨calls, hcalls, heq⟩ := hissued s
  rw [heq]
  cases hcalls with
  | nothing =>
    rw [List.append_nil]
    exact h.lawful s
  | enable _ _ made => exact made.lawful (h.noted_asking _ s _)
  | @disable pid old calls subscribed made =>
    have hn : (a.without pid s).Noted s := (h.noted s).congr rfl rfl
    exact made.lawful hn (h.isRunning_of_subscription subscribed)
  | passing passing => exact .snoc (h.lawful s) (permits_of_passing passing _ _)

theorem Steps.audited (m : Steps a a') (h : a.Audited) : a'.Audited := by
  induction m with
  | refl => exact h
  | tail _ step ih => exact step.audited ih

/-- Arbitration over hardware that nothing was asked of yet. -/
theorem audited_ofSettings (settings : ServiceSettings) {hw : Hardware} (hu : hw.Unused) :
    (ofSettings settings hw).Audited where
  consistent := consistent_ofSettings settings hu
  recorded := hu.recorded
  lawful s := by
    have hempty : (ofSettings settings hw).hardware.journal s = [] := hu.journal s
    rw [hempty]
    exact .nil

/-- A sensor is switched on by a request that has just told it what its
subscribers want. -/
theorem EnableCalls.told_before (h : a.EnableCalls s calls) (hn : a.Noted s)
    {before after : Journal} {done : Bool} (heq : calls = before ++ ⟨.enable s, done⟩ :: after) :
    before = [⟨.setBatch s (a.wanted s), true⟩] := by
  have hmem : ⟨.enable s, done⟩ ∈ calls := by rw [heq]; simp
  have htelling : ⟨.enable s, done⟩ ∉ a.telling s := by
    unfold telling
    split_ifs
    · exact List.not_mem_nil
    · simp
  -- so it is the second call of two
  have hsecond {c : LoggedCall} (htwo : calls = a.telling s ++ [c]) (hoff : a.isRunning s = false) :
      before = [⟨.setBatch s (a.wanted s), true⟩] := by
    rw [hn.telling_of_off hoff, heq] at htwo
    rcases before with _ | ⟨first, _ | ⟨second, rest⟩⟩
    · simp at htwo
    · simp_all
    · simp at htwo
  cases h with
  | done =>
    cases hrun : a.isRunning s with
    | true =>
      rw [switching, hrun, if_pos rfl, List.append_nil] at hmem
      exact absurd hmem htelling
    | false => exact hsecond (by rw [switching, hrun]; rfl) hrun
  | notTold failed =>
    cases failed with
    | unserved => exact absurd hmem List.not_mem_nil
    | refused => simp at hmem
  | notOn off failed =>
    cases failed with
    | unserved =>
      rw [List.append_nil] at hmem
      exact absurd hmem htelling
    | refused => exact hsecond rfl off

/-- Disabling switches nothing on. -/
theorem DisableCalls.enable_notMem (h : a.DisableCalls s calls) (done : Bool) :
    ⟨.enable s, done⟩ ∉ calls := by
  cases h with
  | shared =>
    unfold telling
    split_ifs
    · exact List.not_mem_nil
    · simp
  | last => simp
  | notTold failed => cases failed <;> simp
  | notOff failed => cases failed <;> simp

/-- The only step that switches a sensor on is a request to enable it. -/
theorem Issued.told_before (h : Issued a a' s calls) (ha : a.Audited) {before after : Journal}
    {done : Bool} (heq : calls = before ++ ⟨.enable s, done⟩ :: after) :
    ∃ pid request period, a' = (a.enable pid s request).2 ∧
      a.effectivePeriod s request = .ok period ∧
      before = [⟨.setBatch s ((a.asking pid s ⟨period, request.delay⟩).wanted s), true⟩] := by
  have hmem : ⟨.enable s, done⟩ ∈ calls := by rw [heq]; simp
  cases h with
  | nothing => exact absurd hmem List.not_mem_nil
  | @enable pid request period _ answered wanted made =>
    exact ⟨pid, request, period, answered, wanted,
      made.told_before (ha.noted_asking pid s _) heq⟩
  | disable _ made => exact absurd hmem (made.enable_notMem done)
  | @passing c _ passing =>
    obtain rfl : DeviceCall.enable s = c := congrArg LoggedCall.call (List.mem_singleton.1 hmem)
    have hswitched := (passing s).1 false
    simp [DeviceCall.reportsAfter] at hswitched

/-- In a run from `start` to `a` there was a moment when a process asked to
enable the sensor; `before` is the journal of that moment, and then the telling
of what subscribers wanted with that request. -/
def EnabledAt (start a : Arbitration) (s : SensorId) (before : Journal) : Prop :=
  ∃ b pid request period, Steps start b ∧ Steps (b.enable pid s request).2 a ∧
    b.effectivePeriod s request = .ok period ∧
    before = b.hardware.journal s ++
      [⟨.setBatch s ((b.asking pid s ⟨period, request.delay⟩).wanted s), true⟩]

theorem EnabledAt.tail {start : Arbitration} {before : Journal} (h : EnabledAt start a s before)
    (step : Step a a') : EnabledAt start a' s before := by
  obtain ⟨b, pid, request, period, hto, hfrom, hrest⟩ := h
  exact ⟨b, pid, request, period, hto, hfrom.tail step, hrest⟩

/-- **Every switching on was asked for at some moment of the run**, and what
subscribers wanted at that moment was told just before. -/
theorem Steps.enabled_at {start : Arbitration} (m : Steps start a) (hstart : start.Audited)
    (hempty : start.hardware.journal s = []) {before : Journal} {done : Bool} :
    ∀ {after : Journal}, a.hardware.journal s = before ++ ⟨.enable s, done⟩ :: after →
      EnabledAt start a s before := by
  induction m with
  | refl =>
    intro after heq
    rw [hempty] at heq
    simp at heq
  | @tail b a m step ih =>
    intro after heq
    have haudited : b.Audited := Steps.audited m hstart
    obtain ⟨calls, hissued, hjournal⟩ := (step.issued haudited.recorded).2 s
    -- this step has switched the sensor on
    have hnow (new : Journal) (hbefore : before = b.hardware.journal s ++ new)
        (hcalls : calls = new ++ ⟨.enable s, done⟩ :: after) : EnabledAt start a s before := by
      obtain ⟨pid, request, period, rfl, hperiod, rfl⟩ := hissued.told_before haudited hcalls
      exact ⟨b, pid, request, period, m, .refl, hperiod, hbefore⟩
    rw [hjournal] at heq
    rcases List.append_eq_append_iff.1 heq with ⟨new, hbefore, hcalls⟩ | ⟨old, hold, hafter⟩
    · exact hnow new hbefore hcalls
    · cases old with
      | nil => exact hnow [] (by simpa using hold.symm) hafter.symm
      | cons first rest =>
        -- it was on the record before this step
        obtain ⟨rfl, -⟩ := List.cons_eq_cons.1 hafter
        exact (ih hold).tail step

/-- **A sensor is switched on and off in turn, and told what it does not know.**
Whatever is asked and refused in a run from the start, only the home of a
sensor is called about it; the calls that are done switch it on first, then off
and on in turn; right before each call to switch it on it took the least period
and delay that its subscribers at that moment asked for; while it is on, nothing
is told twice in a row; and a request that succeeds has made exactly the calls
it answers, about its own sensor and no other. -/
theorem Steps.switched_in_turn {settings : ServiceSettings} {hw : Hardware} (hu : hw.Unused)
    {a : Arbitration} (run : Steps (ofSettings settings hw) a) (s : SensorId) :
    (∀ slot, a.hardware.Holds slot → a.hardware.home s ≠ some slot →
      (a.hardware.device slot).journal s = []) ∧
    (false :: (a.hardware.journal s).switches).IsChain (· ≠ ·) ∧
    (∀ before done after, a.hardware.journal s = before ++ ⟨.enable s, done⟩ :: after →
      ∃ b pid request period r, Steps (ofSettings settings hw) b ∧
        Steps (b.enable pid s request).2 a ∧ b.effectivePeriod s request = .ok period ∧
        before = b.hardware.journal s ++ [⟨.setBatch s r, true⟩] ∧
        IsLeast (Request.period '' (b.registry.put pid s ⟨period, request.delay⟩).requests s)
          r.period ∧
        IsLeast (Request.delay '' (b.registry.put pid s ⟨period, request.delay⟩).requests s)
          r.delay) ∧
    (∀ stretch : Journal, stretch <:+: a.hardware.journal s → Journal.IsStretch s stretch →
      stretch.batches.IsChain (· ≠ ·)) ∧
    (∀ pid request outcome a', a.enable pid s request = (.ok outcome, a') →
      a.hardware.Called s (outcome.calls s (a'.wanted s)) a'.hardware) ∧
    ∀ pid outcome a', a.disable pid s = (.ok outcome, a') →
      a.hardware.Called s (outcome.calls s (a'.wanted s)) a'.hardware := by
  have hstart := audited_ofSettings settings hu
  have haudited := run.audited hstart
  have hlawful := haudited.lawful s
  refine ⟨fun slot hslot hhome => haudited.recorded.journal_eq_nil hslot hhome,
    hlawful.alternates, fun before done after heq => ?_,
    fun stretch hwithin hstretch => hlawful.told_anew hwithin hstretch,
    fun pid request outcome a' he => ?_,
    fun pid outcome a' hd => (called_of_disable_ok haudited.recorded hd).1⟩
  · obtain ⟨b, pid, request, period, hto, hfrom, hperiod, hbefore⟩ :=
      run.enabled_at hstart (hu.journal s) heq
    obtain ⟨hleast, hleast'⟩ := (b.registry.put pid s ⟨period, request.delay⟩).isLeast_merged
      b.settings (b.registry.subscriptionsOf_put_ne_empty pid s ⟨period, request.delay⟩)
    exact ⟨b, pid, request, period, _, hto, hfrom, hperiod, hbefore, hleast, hleast'⟩
  · obtain ⟨_, -, hcalled, -⟩ := called_of_enable_ok haudited.recorded he
    exact hcalled

/-- Arbitration over a backend that has an accelerometer and refuses the second
call to it. -/
def faulty : Arbitration :=
  ofSettings {} (Hardware.ofSettings {} (.scripted "real"
    [Device.scriptedDescriptor .accelerometer] (fun past _ => past.length == 1) false true)
    fun _ => .software).connect.2

/-- Switching on fails at first; later a second process asks for more, leaves
again, and the first one follows. -/
theorem switched_in_turn_faulty :
    let a := (((((faulty.enable 100 .accelerometer ⟨1000000, 5⟩).2.enable 100 .accelerometer
      ⟨1000000, 5⟩).2.enable 200 .accelerometer ⟨500000, 9⟩).2.disable 200 .accelerometer).2.disable
        100 .accelerometer).2
    a.hardware.journal .accelerometer =
      [⟨.setBatch .accelerometer ⟨1000000, 5⟩, true⟩, ⟨.enable .accelerometer, false⟩,
        ⟨.setBatch .accelerometer ⟨1000000, 5⟩, true⟩, ⟨.enable .accelerometer, true⟩,
        ⟨.setBatch .accelerometer ⟨500000, 5⟩, true⟩,
        ⟨.setBatch .accelerometer ⟨1000000, 5⟩, true⟩, ⟨.disable .accelerometer, true⟩] ∧
      (false :: (a.hardware.journal .accelerometer).switches).IsChain (· ≠ ·) := by
  intro a
  have hu : faulty.hardware.Unused :=
    (Hardware.unused_ofSettings {} ⟨rfl, rfl⟩ fun _ => ⟨rfl, rfl⟩).connect
  have run : Steps faulty a :=
    ((((Relation.ReflTransGen.refl.tail (.enable 100 _ _)).tail (.enable 100 _ _)).tail
      (.enable 200 _ _)).tail (.disable 200 _)).tail (.disable 100 _)
  exact ⟨by decide +kernel, (Steps.switched_in_turn hu run .accelerometer).2.1⟩

end Arbitration

/-! ### The whole service -/

namespace Broker

/-- **Whatever a broker is asked, every call that was made about a sensor was
permitted after those before it.** -/
theorem Reachable.audited {b : Broker} (h : b.Reachable) : b.arbitration.Audited := by
  obtain ⟨settings, hw, hu, hsteps⟩ := h.steps
  exact hsteps.audited (Arbitration.audited_ofSettings settings hu)

end Broker
end SensorBroker
