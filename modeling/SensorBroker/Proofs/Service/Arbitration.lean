/-
# What a request to arbitration can do

Enabling and disabling a sensor are each a few calls to the hardware between
two changes of the records. Here is said once, exactly, what each of them has
done when it succeeds and when it fails, so that no invariant needs to take
them apart again. A request that fails has undone its change of the records
and left the notes of running sensors alone (`Arbitration.Unmoved`).

Key definitions: `Arbitration.asking`, `Arbitration.without`,
`Arbitration.Programs`, `Arbitration.SwitchesOn`, `Arbitration.Unmoved`.
Key theorems: `Arbitration.enable_ok`, `Arbitration.enable_error`,
`Arbitration.disable_ok`, `Arbitration.disable_error`.
-/
import SensorBroker.Proofs.Service.Records
import SensorBroker.Service.Arbitration

namespace SensorBroker
namespace Arbitration

/-! ### The stages of a request -/

/-- The records hold what a process asks; nothing was done about it yet. -/
def asking (a : Arbitration) (pid : Pid) (s : SensorId) (request : Request) : Arbitration :=
  { a with registry := a.registry.put pid s request }

/-- The records no longer hold what a process asked; nothing was done about it
yet. -/
def without (a : Arbitration) (pid : Pid) (s : SensorId) : Arbitration :=
  { a with registry := a.registry.drop pid s }

/-- What the subscribers of a sensor want of it. -/
def wanted (a : Arbitration) (s : SensorId) : Request :=
  a.registry.merged a.settings s

/-- A sensor is told what its subscribers want, unless that was noted as told
already; `h` is the hardware then. -/
def Programs (a : Arbitration) (s : SensorId) (h : Hardware) : Prop :=
  (a.programmed s = some (a.wanted s) ∧ h = a.hardware) ∨
    (a.programmed s ≠ some (a.wanted s) ∧
      a.hardware.perform (.setBatch s (a.wanted s)) = (.ok (), h))

/-- A sensor is switched on, unless it runs; `h` is the hardware then. -/
def SwitchesOn (a : Arbitration) (s : SensorId) (h : Hardware) : Prop :=
  (a.isRunning s = true ∧ h = a.hardware) ∨
    (a.isRunning s = false ∧ a.hardware.perform (.enable s) = (.ok (), h))

/-- Only the hardware, and how often subscribers have changed, may differ. -/
structure Unmoved (a a' : Arbitration) : Prop where
  settings : a'.settings = a.settings
  active : a'.active = a.active
  registry : a.registry.Restored a'.registry

@[simp] theorem registry_perform (a : Arbitration) (c : DeviceCall) :
    (a.perform c).2.registry = a.registry := by
  unfold perform
  split <;> rfl

/-- A call changes the hardware only. -/
theorem perform_snd (a : Arbitration) (c : DeviceCall) :
    (a.perform c).2 = { a with hardware := (a.hardware.perform c).2 } := by
  unfold perform
  rcases a.hardware.perform c with ⟨_ | _, hw⟩
  · rfl
  · rfl

theorem perform_ok {a a' : Arbitration} {c : DeviceCall} (h : a.perform c = (.ok (), a')) :
    ∃ hw, a.hardware.perform c = (.ok (), hw) ∧ a' = { a with hardware := hw } := by
  unfold perform at h
  rcases hp : a.hardware.perform c with ⟨_ | _, hw⟩
  · rw [hp] at h
    cases h
  · rw [hp] at h
    cases h
    exact ⟨hw, rfl, rfl⟩

theorem perform_error {a a' : Arbitration} {c : DeviceCall} {e : ServiceError}
    (h : a.perform c = (.error e, a')) :
    ∃ e' hw, a.hardware.perform c = (.error e', hw) ∧ e = .hardware c.sensor e' ∧
      a' = { a with hardware := hw } := by
  unfold perform at h
  rcases hp : a.hardware.perform c with ⟨e' | _, hw⟩
  · rw [hp] at h
    cases h
    exact ⟨e', hw, rfl, rfl, rfl⟩
  · rw [hp] at h
    cases h

theorem program_ok {a a' : Arbitration} {s : SensorId} {told : Bool}
    (h : a.program s = (.ok told, a')) :
    ∃ hw, a.Programs s hw ∧ a' = { a with hardware := hw } ∧
      told = !decide (a.programmed s = some (a.wanted s)) := by
  unfold program at h
  simp only at h
  split at h
  · next hsame =>
    cases h
    exact ⟨_, .inl ⟨hsame, rfl⟩, rfl, by simp [wanted, hsame]⟩
  · next hother =>
    rcases hp : a.perform (.setBatch s (a.registry.merged a.settings s)) with ⟨_ | _, a₁⟩
    · rw [hp] at h
      cases h
    · rw [hp] at h
      cases h
      obtain ⟨hw, hhw, rfl⟩ := perform_ok hp
      exact ⟨hw, .inr ⟨hother, hhw⟩, rfl, by simp [wanted, hother]⟩

theorem program_error {a a' : Arbitration} {s : SensorId} {e : ServiceError}
    (h : a.program s = (.error e, a')) :
    ∃ e' hw, a.hardware.perform (.setBatch s (a.wanted s)) = (.error e', hw) ∧
      e = .hardware s e' ∧ a.programmed s ≠ some (a.wanted s) ∧ a' = { a with hardware := hw } := by
  unfold program at h
  simp only at h
  split at h
  · cases h
  · next hother =>
    rcases hp : a.perform (.setBatch s (a.registry.merged a.settings s)) with ⟨_ | _, a₁⟩
    · rw [hp] at h
      cases h
      obtain ⟨e', hw, hhw, rfl, rfl⟩ := perform_error hp
      exact ⟨e', hw, hhw, rfl, hother, rfl⟩
    · rw [hp] at h
      cases h

theorem switchOn_ok {a a' : Arbitration} {s : SensorId} (h : a.switchOn s = (.ok (), a')) :
    ∃ hw, a.SwitchesOn s hw ∧ a' = { a with hardware := hw } := by
  unfold switchOn at h
  split at h
  · next hr =>
    cases h
    exact ⟨_, .inl ⟨hr, rfl⟩, rfl⟩
  · next hr =>
    obtain ⟨hw, hhw, rfl⟩ := perform_ok h
    exact ⟨hw, .inr ⟨Bool.eq_false_iff.2 hr, hhw⟩, rfl⟩

theorem switchOn_error {a a' : Arbitration} {s : SensorId} {e : ServiceError}
    (h : a.switchOn s = (.error e, a')) :
    ∃ e' hw, a.hardware.perform (.enable s) = (.error e', hw) ∧ e = .hardware s e' ∧
      a.isRunning s = false ∧ a' = { a with hardware := hw } := by
  unfold switchOn at h
  split at h
  · cases h
  · next hr =>
    obtain ⟨e', hw, hhw, rfl, rfl⟩ := perform_error h
    exact ⟨e', hw, hhw, rfl, Bool.eq_false_iff.2 hr, rfl⟩

/-! ### Enabling -/

theorem enable_of_effectivePeriod {a : Arbitration} {pid : Pid} {s : SensorId} {request : Request}
    {period : Nanos} (hp : a.effectivePeriod s request = .ok period) :
    a.enable pid s request =
      match (a.asking pid s ⟨period, request.delay⟩).program s with
      | (.error e, a') => (.error e, a'.rollBack pid s (a.registry.subscription pid s))
      | (.ok reprogrammed, a') =>
        match a'.switchOn s with
        | (.error e, a') => (.error e, a'.rollBack pid s (a.registry.subscription pid s))
        | (.ok _, a') =>
          (.ok ⟨a.isRunning s, (a.registry.subscription pid s).isNone, reprogrammed⟩,
            a'.store s) := by
  simp only [enable, hp]
  rfl

/-- What enabling a sensor has done when it succeeds. -/
theorem enable_ok {a a' : Arbitration} {pid : Pid} {s : SensorId} {request : Request}
    {outcome : EnableOutcome} (h : a.enable pid s request = (.ok outcome, a')) :
    ∃ period hw hw', a.effectivePeriod s request = .ok period ∧
      (a.asking pid s ⟨period, request.delay⟩).Programs s hw ∧
      SwitchesOn { a.asking pid s ⟨period, request.delay⟩ with hardware := hw } s hw' ∧
      a' = store { a.asking pid s ⟨period, request.delay⟩ with hardware := hw' } s ∧
      outcome.wasRunning = a.isRunning s ∧
      outcome.isNew = (a.registry.subscription pid s).isNone ∧
      outcome.reprogrammed = !decide ((a.asking pid s ⟨period, request.delay⟩).programmed s
        = some ((a.asking pid s ⟨period, request.delay⟩).wanted s)) := by
  cases hp : a.effectivePeriod s request with
  | error e =>
    simp only [enable, hp] at h
    cases h
  | ok period =>
    rw [enable_of_effectivePeriod hp] at h
    rcases hprog : (a.asking pid s ⟨period, request.delay⟩).program s with ⟨_ | told, a₁⟩
    · rw [hprog] at h
      cases h
    · obtain ⟨hw, hhw, rfl, htold⟩ := program_ok hprog
      simp only [hprog] at h
      rcases hon : switchOn { a.asking pid s ⟨period, request.delay⟩ with hardware := hw } s
        with ⟨_ | _, a₂⟩
      · rw [hon] at h
        cases h
      · obtain ⟨hw', hhw', rfl⟩ := switchOn_ok hon
        rw [hon] at h
        cases h
        exact ⟨period, hw, hw', rfl, hhw, hhw', rfl, rfl, rfl, htold⟩

theorem rollBack_asking (a : Arbitration) (pid : Pid) (s : SensorId) (request : Request)
    (hw : Hardware) :
    Unmoved a (rollBack { a.asking pid s request with hardware := hw } pid s
      (a.registry.subscription pid s)) := by
  unfold rollBack
  cases hp : a.registry.subscription pid s with
  | some old => exact ⟨rfl, rfl, Registry.restored_put hp request⟩
  | none =>
    refine ⟨rfl, rfl, ?_⟩
    have hr : (a.registry.put pid s request).remove pid s
        = (.ok request, (a.registry.put pid s request).drop pid s) :=
      Registry.remove_eq_ok_iff.2 ⟨a.registry.subscription_put_self pid s request, rfl⟩
    simp only [asking, hr]
    exact Registry.restored_drop hp request

@[simp] theorem hardware_rollBack (a : Arbitration) (pid : Pid) (s : SensorId)
    (previous : Option Request) : (a.rollBack pid s previous).hardware = a.hardware := by
  cases previous <;> rfl

/-- What the hardware has gone through when a request that was recorded is
not met: it refused the parameters, or refused to switch on. -/
inductive EnableFailure (a : Arbitration) (s : SensorId) : Hardware → Prop
  | notTold {e h} (hb : a.hardware.perform (.setBatch s (a.wanted s)) = (.error e, h)) :
    EnableFailure a s h
  | notOn {e h h'} (hb : a.Programs s h) (hr : a.isRunning s = false)
    (he : h.perform (.enable s) = (.error e, h')) : EnableFailure a s h'

/-- What enabling a sensor has done when it fails. -/
theorem enable_error {a a' : Arbitration} {pid : Pid} {s : SensorId} {request : Request}
    {e : ServiceError} (h : a.enable pid s request = (.error e, a')) :
    (a.effectivePeriod s request = .error e ∧ a' = a) ∨
      ∃ period, a.effectivePeriod s request = .ok period ∧ a.Unmoved a' ∧
        (a.asking pid s ⟨period, request.delay⟩).EnableFailure s a'.hardware ∧
        ∃ e', e = .hardware s e' := by
  cases hp : a.effectivePeriod s request with
  | error e =>
    simp only [enable, hp] at h
    cases h
    exact .inl ⟨rfl, rfl⟩
  | ok period =>
    refine .inr ⟨period, rfl, ?_⟩
    rw [enable_of_effectivePeriod hp] at h
    rcases hprog : (a.asking pid s ⟨period, request.delay⟩).program s with ⟨_ | told, a₁⟩
    · obtain ⟨e', hw, hhw, rfl, -, rfl⟩ := program_error hprog
      simp only [hprog] at h
      cases h
      exact ⟨rollBack_asking a pid s _ hw, by simpa using .notTold hhw, e', rfl⟩
    · obtain ⟨hw, hhw, rfl, -⟩ := program_ok hprog
      simp only [hprog] at h
      rcases hon : switchOn { a.asking pid s ⟨period, request.delay⟩ with hardware := hw } s
        with ⟨_ | _, a₂⟩
      · obtain ⟨e', hw', hhw', rfl, hr, rfl⟩ := switchOn_error hon
        simp only [hon] at h
        cases h
        exact ⟨rollBack_asking a pid s _ hw', by simpa using .notOn hhw hr hhw', e', rfl⟩
      · rw [hon] at h
        cases h

/-! ### Disabling -/

theorem disable_of_subscription {a : Arbitration} {pid : Pid} {s : SensorId} {request : Request}
    (hp : a.registry.subscription pid s = some request) :
    a.disable pid s =
      if (a.without pid s).registry.isSubscribed s then
        match (a.without pid s).program s with
        | (.error e, a') => (.error e, a'.rollBack pid s (some request))
        | (.ok reprogrammed, a') => (.ok ⟨request, false, reprogrammed⟩, a'.store s)
      else
        match (a.without pid s).switchOff s with
        | (.error e, a') => (.error e, a'.rollBack pid s (some request))
        | (.ok _, a') => (.ok ⟨request, true, false⟩, a') := by
  simp only [disable, Registry.remove, hp]
  rfl

theorem disable_of_not_subscribed {a : Arbitration} {pid : Pid} {s : SensorId}
    (hp : a.registry.subscription pid s = none) :
    a.disable pid s = (.error (.notSubscribed pid s), a) := by
  simp only [disable, Registry.remove, hp]

/-- A sensor is off and forgotten. -/
def off (a : Arbitration) (s : SensorId) (hw : Hardware) : Arbitration :=
  { a with hardware := hw, active := a.active.erase s, registry := a.registry.clearEvent s }

theorem switchOff_ok {a a' : Arbitration} {s : SensorId} (h : a.switchOff s = (.ok (), a')) :
    ∃ hw, a.hardware.perform (.disable s) = (.ok (), hw) ∧ a' = a.off s hw := by
  unfold switchOff at h
  rcases hp : a.perform (.disable s) with ⟨_ | _, a₁⟩
  · rw [hp] at h
    cases h
  · obtain ⟨hw, hhw, rfl⟩ := perform_ok hp
    rw [hp] at h
    cases h
    exact ⟨hw, hhw, rfl⟩

theorem switchOff_error {a a' : Arbitration} {s : SensorId} {e : ServiceError}
    (h : a.switchOff s = (.error e, a')) :
    ∃ e' hw, a.hardware.perform (.disable s) = (.error e', hw) ∧ e = .hardware s e' ∧
      a' = { a with hardware := hw } := by
  unfold switchOff at h
  rcases hp : a.perform (.disable s) with ⟨_ | _, a₁⟩
  · obtain ⟨e', hw, hhw, rfl, rfl⟩ := perform_error hp
    rw [hp] at h
    cases h
    exact ⟨e', hw, hhw, rfl, rfl⟩
  · rw [hp] at h
    cases h

/-- What disabling a sensor has done when it succeeds: the others' wishes were
passed on, or nobody is left and the sensor is off. -/
inductive DisableSuccess (a : Arbitration) (s : SensorId) : Bool → Arbitration → Prop
  | shared {h} (hsub : a.registry.isSubscribed s = true) (hb : a.Programs s h) :
    DisableSuccess a s false (store { a with hardware := h } s)
  | last {h} (hsub : a.registry.isSubscribed s = false)
    (hd : a.hardware.perform (.disable s) = (.ok (), h)) : DisableSuccess a s true (a.off s h)

theorem disable_ok {a a' : Arbitration} {pid : Pid} {s : SensorId} {outcome : DisableOutcome}
    (h : a.disable pid s = (.ok outcome, a')) :
    a.registry.subscription pid s = some outcome.request ∧
      (a.without pid s).DisableSuccess s outcome.switchedOff a' := by
  cases hp : a.registry.subscription pid s with
  | none =>
    rw [disable_of_not_subscribed hp] at h
    cases h
  | some request =>
    rw [disable_of_subscription hp] at h
    split at h
    · next hsub =>
      rcases hprog : (a.without pid s).program s with ⟨_ | told, a₁⟩
      · rw [hprog] at h
        cases h
      · obtain ⟨hw, hhw, rfl, -⟩ := program_ok hprog
        rw [hprog] at h
        cases h
        exact ⟨rfl, .shared hsub hhw⟩
    · next hsub =>
      rcases hoff : (a.without pid s).switchOff s with ⟨_ | _, a₁⟩
      · rw [hoff] at h
        cases h
      · obtain ⟨hw, hhw, rfl⟩ := switchOff_ok hoff
        rw [hoff] at h
        cases h
        exact ⟨rfl, .last (Bool.eq_false_iff.2 hsub) hhw⟩

/-- What ending a subscription says of the parameters: they were told anew
unless nobody is left, or what was noted is what the others want. -/
theorem reprogrammed_of_disable_ok {a a' : Arbitration} {pid : Pid} {s : SensorId}
    {outcome : DisableOutcome} (h : a.disable pid s = (.ok outcome, a')) :
    outcome.reprogrammed = (!outcome.switchedOff &&
      !decide ((a.without pid s).programmed s = some ((a.without pid s).wanted s))) := by
  obtain ⟨request, hp⟩ : ∃ request, a.registry.subscription pid s = some request :=
    ⟨_, (disable_ok h).1⟩
  rw [disable_of_subscription hp] at h
  split at h
  · rcases hprog : (a.without pid s).program s with ⟨_ | told, a₁⟩
    · rw [hprog] at h
      cases h
    · obtain ⟨_, -, -, htold⟩ := program_ok hprog
      rw [hprog] at h
      cases h
      exact htold.trans (Bool.true_and _).symm
  · rcases hoff : (a.without pid s).switchOff s with ⟨_ | _, a₁⟩
    · rw [hoff] at h
      cases h
    · rw [hoff] at h
      cases h
      rfl

/-- What the hardware has gone through when a subscription cannot be ended: it
refused the parameters of those who are left, or refused to switch off. -/
inductive DisableFailure (a : Arbitration) (s : SensorId) : Hardware → Prop
  | shared {e h} (hsub : a.registry.isSubscribed s = true)
    (hb : a.hardware.perform (.setBatch s (a.wanted s)) = (.error e, h)) : DisableFailure a s h
  | last {e h} (hsub : a.registry.isSubscribed s = false)
    (hd : a.hardware.perform (.disable s) = (.error e, h)) : DisableFailure a s h

theorem rollBack_without {a : Arbitration} {pid : Pid} {s : SensorId} {request : Request}
    (hp : a.registry.subscription pid s = some request) (hw : Hardware) :
    Unmoved a (rollBack { a.without pid s with hardware := hw } pid s (some request)) :=
  ⟨rfl, rfl, Registry.restored_put_drop hp⟩

/-- What disabling a sensor has done when it fails. -/
theorem disable_error {a a' : Arbitration} {pid : Pid} {s : SensorId} {e : ServiceError}
    (h : a.disable pid s = (.error e, a')) :
    (a.registry.subscription pid s = none ∧ e = .notSubscribed pid s ∧ a' = a) ∨
      ((∃ e', e = .hardware s e') ∧ (∃ old, a.registry.subscription pid s = some old) ∧
        a.Unmoved a' ∧ (a.without pid s).DisableFailure s a'.hardware) := by
  cases hp : a.registry.subscription pid s with
  | none =>
    rw [disable_of_not_subscribed hp] at h
    cases h
    exact .inl ⟨rfl, rfl, rfl⟩
  | some request =>
    refine .inr ?_
    rw [disable_of_subscription hp] at h
    split at h
    · next hsub =>
      rcases hprog : (a.without pid s).program s with ⟨_ | told, a₁⟩
      · obtain ⟨e', hw, hhw, rfl, -, rfl⟩ := program_error hprog
        rw [hprog] at h
        cases h
        exact ⟨⟨e', rfl⟩, ⟨request, rfl⟩, rollBack_without hp hw, .shared hsub hhw⟩
      · rw [hprog] at h
        cases h
    · next hsub =>
      rcases hoff : (a.without pid s).switchOff s with ⟨_ | _, a₁⟩
      · obtain ⟨e', hw, hhw, rfl, rfl⟩ := switchOff_error hoff
        rw [hoff] at h
        cases h
        exact ⟨⟨e', rfl⟩, ⟨request, rfl⟩, rollBack_without hp hw,
          .last (Bool.eq_false_iff.2 hsub) hhw⟩
      · rw [hoff] at h
        cases h

/-! ### Subscriptions along a request -/

/-- Enabling a sensor for a process changes no other subscription. -/
theorem subscription_enable_of_ne {a a' : Arbitration} {pid other : Pid} {s s' : SensorId}
    {request : Request} {r : Except ServiceError EnableOutcome}
    (he : a.enable pid s request = (r, a')) (h : other ≠ pid ∨ s' ≠ s) :
    a'.registry.subscription other s' = a.registry.subscription other s' := by
  cases r with
  | error e =>
    rcases enable_error he with ⟨-, rfl⟩ | ⟨_, -, hu, -⟩
    · rfl
    · exact hu.registry.subscription other s'
  | ok outcome =>
    obtain ⟨period, _, _, -, -, -, rfl, -, -⟩ := enable_ok he
    exact a.registry.subscription_put_of_ne _ h

theorem DisableSuccess.subscription {a a' : Arbitration} {s : SensorId} {off : Bool}
    (h : a.DisableSuccess s off a') (pid : Pid) (s' : SensorId) :
    a'.registry.subscription pid s' = a.registry.subscription pid s' := by
  cases h <;> rfl

/-- Where ending a subscription fails, every subscription stays. -/
theorem subscription_of_disable_error {a a' : Arbitration} {pid : Pid} {s : SensorId}
    {e : ServiceError} (hd : a.disable pid s = (.error e, a')) (other : Pid) (s' : SensorId) :
    a'.registry.subscription other s' = a.registry.subscription other s' := by
  rcases disable_error hd with ⟨-, -, rfl⟩ | ⟨-, -, hu, -⟩
  · rfl
  · exact hu.registry.subscription other s'

/-- A subscription that was ended is gone. -/
theorem subscription_of_disable_ok {a a' : Arbitration} {pid : Pid} {s : SensorId}
    {outcome : DisableOutcome} (hd : a.disable pid s = (.ok outcome, a')) :
    a'.registry.subscription pid s = none :=
  ((disable_ok hd).2.subscription pid s).trans (a.registry.subscription_drop_self pid s)

/-- Ending a subscription ends no other. -/
theorem subscription_disable_of_ne {a a' : Arbitration} {pid other : Pid} {s s' : SensorId}
    {r : Except ServiceError DisableOutcome} (hd : a.disable pid s = (r, a'))
    (h : other ≠ pid ∨ s' ≠ s) :
    a'.registry.subscription other s' = a.registry.subscription other s' := by
  cases r with
  | error e => exact subscription_of_disable_error hd other s'
  | ok outcome =>
    exact ((disable_ok hd).2.subscription other s').trans (a.registry.subscription_drop_of_ne h)

/-- Disabling never subscribes anybody. -/
theorem subscription_disable_eq_none {a a' : Arbitration} {pid other : Pid} {s s' : SensorId}
    {r : Except ServiceError DisableOutcome} (hd : a.disable pid s = (r, a'))
    (h : a.registry.subscription other s' = none) :
    a'.registry.subscription other s' = none := by
  cases r with
  | error e => exact (subscription_of_disable_error hd other s').trans h
  | ok outcome =>
    by_cases hps : other = pid ∧ s' = s
    · obtain ⟨rfl, rfl⟩ := hps
      exact subscription_of_disable_ok hd
    · exact (subscription_disable_of_ne hd (Classical.not_and_iff_not_or_not.1 hps)).trans h

end Arbitration
end SensorBroker
