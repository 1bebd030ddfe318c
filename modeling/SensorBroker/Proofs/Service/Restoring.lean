/-
# Suspending and resuming restores a process

A process that is suspended and later resumed has again what it had, whatever
other processes ask for in between, as long as no backend refuses a call: the
outcome names each sensor that may be suspended as done, the subscriptions are
what they were, and each of them is served at the rate that its subscribers
then want.

What was saved has to pass the check once more, with the period that was
recorded: where the process named none, that is the default. It passes, because
the default period of an allowed configuration is positive.

Key definitions: `Broker.Restores`.
Key theorems: `Broker.Reachable.resume_restores`.
-/
import SensorBroker.Proofs.Service.Admission
import SensorBroker.Proofs.Service.Answering

namespace SensorBroker
namespace Broker

variable {b b' : Broker} {pid : Pid}

/-- What resuming a process restored, if this was its outcome: it is complete
and names what may be suspended, by id; the process subscribes to what it did
and is not suspended, and each of its sensors reports, with the least period and
the least delay that anybody asks of it. -/
structure Restores (b : Broker) (pid : Pid) (outcome : BulkOutcome SensorId) (b' : Broker) :
    Prop where
  complete : outcome.isComplete = true
  ascending : outcome.succeeded.Pairwise fun s s' => s.toInt < s'.toInt
  named : ∀ s, s ∈ outcome.succeeded ↔
    (b.registry.subscription pid s).isSome = true ∧ b.suspension.isExempt s = false
  subscriptions : ∀ s, b'.registry.subscription pid s = b.registry.subscription pid s
  awake : b'.suspension.isSuspended pid = false
  reporting : ∀ s, b.registry.subscription pid s ≠ none → ∃ d ∈ b'.hardware.devices,
    d.reports s = true ∧ ∃ r, d.programmed s = some r ∧
      IsLeast (Request.period '' b'.registry.requests s) r.period ∧
      IsLeast (Request.delay '' b'.registry.requests s) r.delay

/-- A number that is no process id has neither subscriptions nor a snapshot. -/
theorem Reachable.absent_of_neg (h : b.Reachable) (hpid : pid < 0) (s : SensorId) :
    b.suspension.Absent pid s := by
  induction h with
  | @start config vendor blueprint rule watching b _ _ started =>
    obtain ⟨hw, -, rfl⟩ := start_ok started
    exact ⟨rfl, rfl⟩
  | @step b _ op ih =>
    by_cases hgrants : op.Grants pid s
    · cases op with
      | enable caller s' request =>
        obtain ⟨rfl, -⟩ := hgrants
        have hrefused : b.step (.enable caller s' request) = b := by
          show (b.enable caller s' request).2 = b
          unfold enable forPid
          rw [if_pos hpid]
        rwa [hrefused]
      | _ => exact hgrants.elim
    · exact (b.moves_step op).absent hgrants ih

/-- **A sensor that somebody subscribes to reports as its subscribers want.** -/
theorem Reachable.exists_reports (h : b.Reachable) {s : SensorId}
    (hsub : b.registry.subscription pid s ≠ none) : ∃ d ∈ b.hardware.devices,
      d.reports s = true ∧ ∃ r, d.programmed s = some r ∧
        IsLeast (Request.period '' b.registry.requests s) r.period ∧
        IsLeast (Request.delay '' b.registry.requests s) r.delay := by
  have hc := h.consistent
  have hsound : b.hardware.Sound := hc.sound
  cases hc.settled s with
  | idle unwanted _ _ =>
    refine absurd ?_ hsub
    have hempty : b.registry.subscriptionsOf s = ∅ := unwanted
    rw [Registry.subscription, hempty]
    rfl
  | running subscribed _ _ _ runs told =>
    obtain ⟨slot, hhome, hreports⟩ := Hardware.runs_iff.1 (show b.hardware.runs s = true from runs)
    obtain ⟨slot', hhome', hprogrammed⟩ := Hardware.told_eq_some_iff.1
      (show b.hardware.told s = some (b.arbitration.wanted s) from told)
    have heq : slot' = slot := Option.some.inj (hhome'.symm.trans hhome)
    exact ⟨_, Hardware.mem_devices_iff.2 ⟨slot, hsound.home_holds hhome, rfl⟩, hreports, _,
      heq ▸ hprogrammed, b.registry.isLeast_merged _ subscribed⟩

theorem has_of_sensorsOf (h : ∀ s ∈ b.registry.sensorsOf pid, b.hardware.has s = true)
    (s : SensorId) (hs : b.registry.subscription pid s ≠ none) : b.hardware.has s = true :=
  h s ((Registry.mem_sensorsOf_iff _).2 (Option.isSome_iff_ne_none.2 hs))

/-- A process may ask again for all that it subscribes to, while it is served. -/
theorem Reachable.check_live (h : b.Reachable)
    (hdefault : 0 ≤ b.config.service.defaultPeriod.toInt)
    (hknown : ∀ s, b.registry.subscription pid s ≠ none → b.hardware.has s = true)
    (s : SensorId) (request : Request) (hlive : (b.account pid).live.get? s = some request) :
    b.terms.check s request = .ok request.period := by
  have hsub : b.registry.subscription pid s = some request :=
    (b.registry.get?_requestsOf pid s).symm.trans hlive
  have hvetted := (h.vetted hdefault).arbitration
  refine Arbitration.effectivePeriod_of_vets (hknown s (by simp [hsub])) ?_
  rw [hvetted.settings_eq]
  exact hvetted.subscribed hsub

/-- While nothing is refused, a process is suspended as its account says. -/
theorem Reachable.account_suspend (h : b.Reachable) (hpid : ¬ pid < 0)
    (hknown : ∀ s, b.registry.subscription pid s ≠ none → b.hardware.has s = true)
    (ho : b.hardware.Obliges (b.suspend pid).2.hardware) :
    (b.suspend pid).2.account pid = ((b.account pid).suspend b.terms).2 := by
  have hmeets : b.Meets (.suspend pid) := h.meets hknown ho
  unfold Meets at hmeets
  rw [show (Ask.suspend pid).pid = pid from rfl, Account.answer_suspend hpid] at hmeets
  exact congrArg Prod.snd hmeets

/-- While nothing is refused, a process is resumed as its account says. -/
theorem Reachable.resume_eq (h : b.Reachable) (hpid : ¬ pid < 0)
    (hknown : ∀ s, b.registry.subscription pid s ≠ none → b.hardware.has s = true)
    (ho : b.hardware.Obliges (b.resume pid).2.hardware) :
    ((b.resume pid).1, (b.resume pid).2.account pid) = (b.account pid).resume b.terms pid := by
  have hmeets : b.Meets (.resume pid) := h.meets hknown ho
  unfold Meets at hmeets
  rw [show (Ask.resume pid).pid = pid from rfl, Account.answer_resume hpid] at hmeets
  exact Prod.ext (Answer.bulk.inj (congrArg Prod.fst hmeets))
    (show (b.resume pid).2.account pid = _ from congrArg Prod.snd hmeets)

/-- What a process has restored is its account. -/
theorem Reachable.restores_of_account (h : b'.Reachable) {t : Terms}
    (hterms : t.exempt = b.suspension.isExempt)
    (hawake : b.suspension.snapshots.get? pid = none) (haccount : b'.account pid = b.account pid) :
    b.Restores pid ⟨(b.account pid).live.keys.filter fun s => !t.exempt s, []⟩ b' := by
  have hsub : ∀ s, b'.registry.subscription pid s = b.registry.subscription pid s := by
    intro s
    rw [← Registry.get?_requestsOf, ← Registry.get?_requestsOf]
    exact congrArg (fun x : Account => x.live.get? s) haccount
  have hsuspendable : (b.account pid).live.keys.filter (fun s => !t.exempt s)
      = b.suspension.suspendable pid := by
    rw [hterms, b.suspension.suspendable_eq]
    rfl
  refine ⟨rfl, ?_, fun s => ?_, hsub, ?_, fun s hs => h.exists_reports (by rwa [hsub])⟩
  · have hsorted : (b.account pid).live.keys.Pairwise fun s s' => s.toInt < s'.toInt :=
      List.pairwise_map.2 (b.account pid).live.sorted
    exact hsorted.filter _
  · show s ∈ (b.account pid).live.keys.filter (fun s => !t.exempt s) ↔ _
    rw [hsuspendable]
    exact b.suspension.mem_suspendable_iff
  · have hsnapshot : b'.suspension.snapshots.get? pid = none :=
      (congrArg Account.snapshot haccount).trans hawake
    rw [Suspension.isSuspended, Table.contains, hsnapshot]
    rfl

/-- A process whose account is as suspending left it gets back what it had. -/
theorem Reachable.resume_of_account {later : Broker} (h : later.Reachable) (hpid : ¬ pid < 0)
    (hterms : later.terms = b.terms) (hhas : ∀ s, later.hardware.has s = b.hardware.has s)
    (hknown : ∀ s, b.registry.subscription pid s ≠ none → b.hardware.has s = true)
    (hawake : b.suspension.snapshots.get? pid = none)
    (hsensors : (b.account pid).live.keys.filter (fun s => !b.terms.exempt s) ≠ [])
    (hcheck : ∀ s request, (b.account pid).live.get? s = some request →
      b.terms.check s request = .ok request.period)
    (haccount : later.account pid = ((b.account pid).suspend b.terms).2)
    (ho : later.hardware.Obliges (later.resume pid).2.hardware) :
    ((later.resume pid).1, (later.resume pid).2.account pid)
      = (.ok ⟨(b.account pid).live.keys.filter fun s => !b.terms.exempt s, []⟩,
        b.account pid) := by
  -- what the process was left with is served still
  have hserved : ∀ s, later.registry.subscription pid s ≠ none →
      later.hardware.has s = true := by
    intro s hs
    rw [hhas s]
    refine hknown s fun hnone => hs ?_
    have hlive : (later.account pid).live
        = (b.account pid).live.filter fun s _ => b.terms.exempt s := by
      rw [haccount, Account.suspend_of_ne_nil hawake hsensors]
    have hbefore : (b.account pid).live.get? s = none :=
      (b.registry.get?_requestsOf pid s).trans hnone
    rw [← Registry.get?_requestsOf]
    refine (congrArg (fun t : Table SensorId Request => t.get? s) hlive).trans ?_
    rw [Table.get?_filter, hbefore]
    rfl
  rw [h.resume_eq hpid hserved ho, haccount, hterms]
  exact Account.resume_suspend pid hawake hsensors hcheck

/-- **Suspending and resuming restores a process** of a broker with an allowed
configuration, whatever others ask for in between, if no backend refuses a call,
all its sensors are served, and at least one of them may be suspended. -/
theorem Reachable.resume_restores (h : b.Reachable) (hvalid : b.config.validate = .ok ())
    (hawake : b.suspension.snapshots.get? pid = none)
    (hsome : ∃ s, b.registry.subscription pid s ≠ none ∧ b.suspension.isExempt s = false)
    (hknown : ∀ s, b.registry.subscription pid s ≠ none → b.hardware.has s = true)
    {others : List Ask} (hothers : ∀ q ∈ others, q.pid ≠ pid)
    (hobliges : b.hardware.Obliges (((b.suspend pid).2.asked others).resume pid).2.hardware) :
    ∃ outcome b', ((b.suspend pid).2.asked others).resume pid = (.ok outcome, b') ∧
      b.Restores pid outcome b' := by
  obtain ⟨s₀, hsub₀, hexempt₀⟩ := hsome
  have hdefault : 0 ≤ b.config.service.defaultPeriod.toInt :=
    Int.le_of_lt (Config.defaultPeriod_pos_of_validate hvalid)
  have hpid : ¬ pid < 0 := fun hneg => hsub₀ (h.absent_of_neg hneg s₀).subscription
  have hsensors : (b.account pid).live.keys.filter (fun s => !b.terms.exempt s) ≠ [] := by
    have hmem := b.suspension.mem_suspendable_iff.2 ⟨Option.isSome_iff_ne_none.2 hsub₀, hexempt₀⟩
    rw [b.suspension.suspendable_eq] at hmem
    exact List.ne_nil_of_mem hmem
  -- nothing is refused on any part of the way
  have hsuspended : (b.suspend pid).2.Reachable := h.ask (.suspend pid)
  have hlater := hsuspended.asked others
  have hfirst : b.hardware.Equipped (b.suspend pid).2.hardware := h.equipped_ask (.suspend pid)
  have hbetween := hsuspended.equipped_asked others
  have hlast : ((b.suspend pid).2.asked others).hardware.Equipped
      (((b.suspend pid).2.asked others).resume pid).2.hardware := hlater.equipped_ask (.resume pid)
  have haccount : ((b.suspend pid).2.asked others).account pid
      = ((b.account pid).suspend b.terms).2 :=
    (account_asked_of_ne _ hothers).trans (h.account_suspend hpid hknown
      (hobliges.between (.refl _) hfirst (hbetween.trans hlast)))
  have hresume := hlater.resume_of_account hpid
    ((hsuspended.terms_asked others).trans (h.terms_ask (.suspend pid)))
    (hfirst.trans hbetween).has hknown hawake hsensors (h.check_live hdefault hknown) haccount
    (hobliges.between (hfirst.trans hbetween) hlast (.refl _))
  have houtcome := congrArg Prod.fst hresume
  exact ⟨_, _, Prod.ext houtcome rfl, (hlater.ask (.resume pid)).restores_of_account rfl hawake
    (congrArg Prod.snd hresume)⟩

/-- A broker whose backend serves three sensors, of which the pedometer is never
suspended, to one process. -/
def lent : Broker :=
  (ofConfig {} (.ofSettings {} (.scripted "real"
    ([.accelerometer, ⟨2⟩, .pedometer].map Device.scriptedDescriptor) (fun _ _ => false) false
      true) fun _ => .software) default false).start.2.run
    [.enable ⟨100, 1000, 7⟩ .accelerometer ⟨1000000, 5⟩, .enable ⟨100, 1000, 7⟩ ⟨2⟩ ⟨0, 5⟩,
      .enable ⟨100, 1000, 7⟩ .pedometer ⟨2000000, 0⟩]

theorem reachable_lent : lent.Reachable :=
  (reachable_start ⟨rfl, rfl⟩ (fun _ => ⟨rfl, rfl⟩) rfl).run _

/-- A process is resumed while another one has taken over one of its sensors, and
a third one another, which it has died on since. -/
theorem restores_lent : ∃ outcome b', ((lent.suspend 100).2.asked
      [.enable ⟨200, 1000, 8⟩ .accelerometer ⟨500000, 0⟩, .enable ⟨300, 1000, 9⟩ ⟨2⟩ ⟨300000, 0⟩,
        .suspend 200, .resume 200, .processDeath 300]).resume 100 = (.ok outcome, b') ∧
    lent.Restores 100 outcome b' :=
  reachable_lent.resume_restores (by decide +kernel) (by decide) ⟨.accelerometer, by decide, by decide⟩
    (has_of_sensorsOf (by decide)) (by decide) (Hardware.obliges_iff.2 (by decide))

end Broker
end SensorBroker
