/-
# What is left of a mock that was withdrawn

Before a mock ends, the sensor is disabled for each of its subscribers, as far
as that works. It does not work for two kinds of them: a process that has the
sensor in its snapshot too, for whom only the snapshot is changed, and one for
whom a backend refuses. These stay subscribed (`Broker.leftBehind`), and the
mock ends all the same.

A sensor that nobody serves cannot be enabled. So as long as no mock that ends
leaves anybody behind, whoever subscribes to a sensor subscribes to one that is
served (`Broker.Tended.served`), and a request to disable it reaches the backend
where it runs. Whoever is left behind subscribes to a sensor that is not.

Key definitions: `Suspension.Served`, `Broker.leftBehind`, `Broker.Tended`.
Key theorems: `Suspension.Moves.served`, `Broker.subscription_disableEach`,
`Broker.Reachable.withdraw_unsubscribes`.
-/
import SensorBroker.Proofs.Service.Consistency
import SensorBroker.Proofs.Service.Kept
import SensorBroker.Proofs.Service.Unsubscribing

namespace SensorBroker

namespace Hardware

/-- A mock that comes takes no sensor away. -/
theorem has_inject {h : Hardware} (s : SensorId) {s' : SensorId} (hhas : h.has s' = true) :
    (h.inject s).2.has s' = true := by
  unfold inject
  split_ifs
  all_goals try exact hhas
  unfold has isMocked Table.contains at hhas ⊢
  rw [Table.get?_insert]
  split_ifs
  · simp
  · exact hhas

/-- A mock that has ended is served no more, and every other sensor is as
before. -/
theorem has_withdraw {h h' : Hardware} (hs : h.Sound) {s : SensorId}
    (hw : h.withdraw s = (.ok (), h')) :
    h'.has s = false ∧ ∀ s', s' ≠ s → h'.has s' = h.has s' := by
  unfold withdraw at hw
  split_ifs at hw with hmocked
  · cases hw
    unfold has isMocked Table.contains
    refine ⟨?_, fun s' hne => ?_⟩
    · rw [Table.get?_erase_self]
      exact (Bool.or_false _).trans (hs.not_lists_of_isMocked hmocked)
    · rw [Table.get?_erase_of_ne _ hne]
      rfl
  · cases hw

theorem withdraw_error {h h' : Hardware} {s : SensorId} {e : HardwareError}
    (hw : h.withdraw s = (.error e, h')) : h' = h := by
  unfold withdraw at hw
  split_ifs at hw
  · cases hw
  · cases hw
    rfl

/-- A call about a sensor that is served reaches its home, if it has one. -/
theorem Sound.route_of_has {h : Hardware} (hs : h.Sound) {s : SensorId} {slot : Slot}
    (hhas : h.has s = true) (hhome : h.home s = some slot) : h.route s = .ok slot := by
  unfold home at hhome
  unfold route
  simp only
  by_cases hmocked : h.isMocked s = true
  · rw [hs.not_lists_of_isMocked hmocked, if_neg Bool.false_ne_true] at hhome
    rw [if_pos hmocked, hhome]
  · have hlists : h.lists s = true := (Bool.or_eq_true_iff.1 hhas).resolve_right hmocked
    rw [if_pos hlists] at hhome
    rw [if_neg hmocked, if_pos hlists, hhome]

end Hardware

namespace Arbitration

/-- Whoever subscribes to a sensor subscribes to one that is served. -/
def Served (a : Arbitration) : Prop :=
  ∀ pid s, a.registry.subscription pid s ≠ none → a.hardware.has s = true

theorem has_of_effectivePeriod {a : Arbitration} {s : SensorId} {request : Request}
    {period : Nanos} (h : a.effectivePeriod s request = .ok period) : a.hardware.has s = true := by
  unfold effectivePeriod at h
  split at h
  · cases h
  · next hvalid =>
    simp only [Bool.not_eq_true', Bool.not_eq_false, Bool.and_eq_true] at hvalid
    exact hvalid.2

/-- Who did not subscribe before subscribes to a sensor that is served. -/
theorem Served.of_kept {a a' : Arbitration} (h : a.Served) (kept : a.Kept a')
    (new : ∀ pid s, a'.registry.subscription pid s ≠ none →
      a.registry.subscription pid s ≠ none ∨ a.hardware.has s = true) : a'.Served := by
  intro pid s hsub
  rw [kept.hardware.has]
  rcases new pid s hsub with hold | hhas
  · exact h pid s hold
  · exact hhas

theorem Served.enable {a : Arbitration} (h : a.Served) (pid : Pid) (s : SensorId)
    (request : Request) : (a.enable pid s request).2.Served := by
  refine h.of_kept (a.kept_enable pid s request) fun other s' hsub => ?_
  rcases he : a.enable pid s request with ⟨e | outcome, a'⟩
  · rw [he] at hsub
    rcases enable_error he with ⟨-, rfl⟩ | ⟨_, -, hu, -⟩
    · exact .inl hsub
    · exact .inl (hu.registry.subscription other s' ▸ hsub)
  · rw [he] at hsub
    by_cases hps : other = pid ∧ s' = s
    · obtain ⟨_, _, _, hperiod, -⟩ := enable_ok he
      exact .inr (hps.2 ▸ has_of_effectivePeriod hperiod)
    · exact .inl (subscription_enable_of_ne he (Classical.not_and_iff_not_or_not.1 hps) ▸ hsub)

theorem Served.disable {a : Arbitration} (h : a.Served) (pid : Pid) (s : SensorId) :
    (a.disable pid s).2.Served :=
  h.of_kept (a.kept_disable pid s) fun _ _ hsub =>
    .inl fun hnone => hsub (subscription_disable_eq_none rfl hnone)

end Arbitration

namespace Suspension

open Arbitration (Served)

variable {grants : Pid → SensorId → Prop} {freezes : Pid → Prop} {drops : SensorId → Prop}
  {x y : Suspension}

/-- **Where no mock ends, subscribers stay with sensors that are served.** -/
theorem Move.served (m : Move grants freezes drops x y) (hno : ∀ s, ¬ drops s)
    (h : x.arbitration.Served) : y.arbitration.Served := by
  cases m with
  | @enable pid s request _ => exact h.enable pid s request
  | disable pid s => exact h.disable pid s
  | @suspend pid _ =>
    unfold Suspension.suspend
    split
    · exact h
    · exact disableEach_induction (P := fun a _ => a.Served) pid
        (fun {s _ _ _ _} ha hd => by simpa only [hd] using ha.disable pid s)
        (fun {s _ _ _ _} ha hd => by simpa only [hd] using ha.disable pid s) _ h
  | resume pid =>
    unfold Suspension.resume
    split
    · exact h
    · exact enableEach_induction (P := fun a _ => a.Served) pid _
        (fun {s request _ _ _ _} _ ha he => by simpa only [he] using ha.enable pid s request)
        (fun {s request _ _ _ _} _ ha he => by simpa only [he] using ha.enable pid s request) h
  | discard pid s => rwa [arbitration_discard]
  | forget _ => exact h
  | @call c _ =>
    refine h.of_kept (x.arbitration.kept_perform c) fun pid s hsub => .inl ?_
    have hsame := x.arbitration.registry_perform c
    show x.arbitration.registry.subscription pid s ≠ none
    rw [← hsame]
    exact hsub
  | inject s =>
    intro pid s' hsub
    exact Hardware.has_inject s (h pid s' hsub)
  | @withdraw s dropped => exact absurd dropped (hno s)
  | raise _ => exact h
  | @record r same =>
    intro pid s hsub
    exact h pid s (by rwa [Registry.subscription, ← same])

theorem Moves.served (m : Moves grants freezes drops x y) (hno : ∀ s, ¬ drops s)
    (h : x.arbitration.Served) : y.arbitration.Served := by
  induction m with
  | refl => exact h
  | tail _ move ih => exact move.served hno ih

end Suspension

namespace Broker

/-! ### Who is left behind -/

/-- Of some processes, those for whom disabling a sensor, for one after the
other, changes a snapshot only, or fails. -/
def staying (s : SensorId) : List Pid → Broker → List Pid
  | [], _ => []
  | pid :: rest, b =>
    if (b.suspension.saved pid s).isNone && (b.disableFor pid s).1.isOk then
      staying s rest (b.disableFor pid s).2
    else pid :: staying s rest (b.disableFor pid s).2

/-- Who still subscribes to a sensor once its mock was withdrawn. -/
def leftBehind (b : Broker) (s : SensorId) : List Pid :=
  if b.hardware.isMocked s then staying s (b.registry.subscribers s) b else []

/-- The brokers that any start leads to, and any run in which no mock that ends
leaves anybody behind. -/
inductive Tended : Broker → Prop
  | start {config : Config} {vendor : Device} {blueprint : Nat → Device} {rule : SocketRule}
    {watching : Bool} {b : Broker} (vendor_idle : vendor.IsIdle)
    (built_idle : ∀ n, (blueprint n).IsIdle)
    (started : (ofConfig config (.ofSettings config.hardware vendor blueprint) rule
      watching).start = (.ok (), b)) : Tended b
  | step {b : Broker} (before : Tended b) (op : Op)
    (nobody : ∀ s, op = .withdraw s → b.leftBehind s = []) : Tended (b.step op)

variable {b b' : Broker} {pid : Pid} {s : SensorId}

theorem Tended.reachable (h : b.Tended) : b.Reachable := by
  induction h with
  | start vendor_idle built_idle started => exact .start vendor_idle built_idle started
  | step _ op _ ih => exact ih.step op

theorem mem_of_mem_staying : ∀ {pids : List Pid} {b : Broker}, pid ∈ staying s pids b → pid ∈ pids
  | [], _, h => h
  | other :: rest, b, h => by
    unfold staying at h
    split_ifs at h
    · exact List.mem_cons_of_mem _ (mem_of_mem_staying h)
    · rcases List.mem_cons.1 h with rfl | h
      · exact List.mem_cons_self
      · exact List.mem_cons_of_mem _ (mem_of_mem_staying h)

/-! ### Disabling for a process -/

/-- What disabling a sensor for a process comes to: a request that is none is
refused; an entry of the snapshot is discarded, and the subscription, if there
is one too, is let be; else the subscription ends, or it stays. -/
inductive DisablesFor (b : Broker) (pid : Pid) (s : SensorId) :
    Except ServiceError Unit → Broker → Prop
  | refused (e : ServiceError) : DisablesFor b pid s (.error e) b
  | discarded {saved x} (found : b.suspension.discard pid s = (some saved, x)) :
    DisablesFor b pid s (.ok ()) ({ b with suspension := x }.report pid s false saved)
  | ended {x outcome a} (none_saved : b.suspension.discard pid s = (none, x))
    (done : b.arbitration.disable pid s = (.ok outcome, a)) :
    DisablesFor b pid s (.ok ())
      (({ b with suspension := x }.setArbitration a).report pid s false outcome.request)
  | failed {x e a} (none_saved : b.suspension.discard pid s = (none, x))
    (failure : b.arbitration.disable pid s = (.error e, a)) :
    DisablesFor b pid s (.error e) ({ b with suspension := x }.setArbitration a)

theorem disablesFor (b : Broker) (pid : Pid) (s : SensorId) :
    DisablesFor b pid s (b.disableFor pid s).1 (b.disableFor pid s).2 := by
  have hsame := b.suspension.arbitration_discard pid s
  unfold disableFor forPid
  split_ifs
  · exact .refused _
  · exact .refused _
  · split
    · next hd => exact .discarded hd
    · next x hd =>
      rw [hd] at hsame
      have harbitration : ({ b with suspension := x } : Broker).arbitration = b.arbitration := hsame
      simp only [harbitration]
      split
      · next ha => exact .ended hd ha
      · next ha => exact .failed hd ha

variable {r : Except ServiceError Unit}

/-- Disabling a sensor for a process ends no other subscription. -/
theorem DisablesFor.subscription_of_ne (h : DisablesFor b pid s r b') {other : Pid}
    {s' : SensorId} (hne : other ≠ pid ∨ s' ≠ s) :
    b'.registry.subscription other s' = b.registry.subscription other s' := by
  cases h with
  | refused => rfl
  | discarded found =>
    have hsame := b.suspension.arbitration_discard pid s
    rw [found] at hsame
    rw [registry, arbitration, suspension_report]
    exact congrArg (fun a : Arbitration => a.registry.subscription other s') hsame
  | ended _ done =>
    rw [registry, arbitration, suspension_report]
    exact Arbitration.subscription_disable_of_ne done hne
  | failed _ failure => exact Arbitration.subscription_disable_of_ne failure hne

/-- It ends this one exactly if it is done and the snapshot has nothing of it. -/
theorem DisablesFor.subscription_self (h : DisablesFor b pid s r b') :
    b'.registry.subscription pid s =
      if (b.suspension.saved pid s).isNone && r.isOk then none
      else b.registry.subscription pid s := by
  have hfound := b.suspension.discard_fst pid s
  cases h with
  | refused e => rw [show (Except.error e).isOk = false from rfl, Bool.and_false]; rfl
  | discarded found =>
    have hsame := b.suspension.arbitration_discard pid s
    rw [found] at hsame hfound
    rw [← hfound, registry, arbitration, suspension_report]
    exact congrArg (fun a : Arbitration => a.registry.subscription pid s) hsame
  | ended none_saved done =>
    rw [none_saved] at hfound
    rw [← hfound, registry, arbitration, suspension_report]
    exact Arbitration.subscription_of_disable_ok done
  | @failed x e a none_saved failure =>
    rw [show (Except.error e : Except ServiceError Unit).isOk = false from rfl, Bool.and_false]
    exact Arbitration.subscription_of_disable_error failure pid s

/-- **When a sensor was disabled for some processes, those stay that stay.** -/
theorem subscription_disableEach (s : SensorId) : ∀ {pids : List Pid} (b : Broker), pids.Nodup →
    ∀ pid, (disableEach s pids b).registry.subscription pid s =
      if pid ∈ pids ∧ pid ∉ staying s pids b then none else b.registry.subscription pid s
  | [], b, _, pid => by simp [disableEach]
  | first :: rest, b, hnodup, pid => by
    obtain ⟨hfresh, hrest⟩ := List.nodup_cons.1 hnodup
    have hcases := b.disablesFor first s
    rw [disableEach, subscription_disableEach s _ hrest pid]
    by_cases hpid : pid = first
    · subst hpid
      have hnot : pid ∉ staying s rest (b.disableFor pid s).2 :=
        fun hmem => hfresh (mem_of_mem_staying hmem)
      rw [if_neg fun h => hfresh h.1, hcases.subscription_self, staying]
      by_cases hends : ((b.suspension.saved pid s).isNone && (b.disableFor pid s).1.isOk) = true
      · rw [if_pos hends, if_pos hends, if_pos ⟨List.mem_cons_self, hnot⟩]
      · rw [if_neg hends, if_neg hends, if_neg fun h => h.2 List.mem_cons_self]
    · have hmem : pid ∈ first :: rest ↔ pid ∈ rest := by simp [hpid]
      have hstays : pid ∈ staying s (first :: rest) b ↔
          pid ∈ staying s rest (b.disableFor first s).2 := by
        rw [staying]
        split_ifs
        · rfl
        · simp [hpid]
      simp only [hcases.subscription_of_ne (.inl hpid), hmem, hstays]

/-! ### The end of a mock -/

/-- A mock that was withdrawn was one, and is none any more. -/
theorem withdraw_ok (h : b.withdraw s = (.ok (), b')) :
    b.hardware.isMocked s = true ∧
      ∃ hw, (disableEach s (b.registry.subscribers s) b).hardware.withdraw s = (.ok (), hw) ∧
        b' = (disableEach s (b.registry.subscribers s) b).setHardware hw := by
  unfold withdraw at h
  split_ifs at h with hmocked
  · refine ⟨hmocked, ?_⟩
    simp only at h
    split at h
    · next hw heq =>
      cases h
      exact ⟨hw, heq, rfl⟩
    · cases h
  · cases h

/-- **A mock that ends leaves those subscribed whom it leaves behind.** -/
theorem subscription_withdraw (h : b.withdraw s = (.ok (), b')) (pid : Pid) :
    b'.registry.subscription pid s =
      if pid ∈ b.leftBehind s then b.registry.subscription pid s else none := by
  obtain ⟨hmocked, hw, -, rfl⟩ := withdraw_ok h
  have heach := subscription_disableEach s b (Table.nodup_keys (b.registry.subscriptionsOf s)) pid
  rw [leftBehind, if_pos hmocked]
  show (disableEach s (b.registry.subscribers s) b).registry.subscription pid s = _
  refine heach.trans ?_
  by_cases hleft : pid ∈ staying s (b.registry.subscribers s) b
  · rw [if_neg fun hboth => hboth.2 hleft, if_pos hleft]
  · rw [if_neg hleft]
    split_ifs with hboth
    · rfl
    · have hnot : pid ∉ b.registry.subscribers s := fun hmem => hboth ⟨hmem, hleft⟩
      rw [b.registry.mem_subscribers_iff] at hnot
      exact Option.eq_none_iff_forall_ne_some.2 fun request heq => hnot ⟨request, heq⟩

/-- Nobody is left behind exactly if nobody subscribes any more. -/
theorem leftBehind_eq_nil_iff (h : b.withdraw s = (.ok (), b')) :
    b.leftBehind s = [] ↔ ∀ pid, b'.registry.subscription pid s = none := by
  constructor
  · intro hnobody pid
    rw [subscription_withdraw h, hnobody]
    exact if_neg List.not_mem_nil
  · intro hnone
    refine List.eq_nil_iff_forall_not_mem.2 fun pid hleft => ?_
    have hkept := hnone pid
    rw [subscription_withdraw h, if_pos hleft] at hkept
    rw [leftBehind, if_pos (withdraw_ok h).1] at hleft
    obtain ⟨request, hrequest⟩ := b.registry.mem_subscribers_iff.1 (mem_of_mem_staying hleft)
    rw [hkept] at hrequest
    cases hrequest

/-- A sensor that nobody subscribes to reports nowhere and stands at nothing. -/
theorem Reachable.still_of_unsubscribed (hb : b.Reachable)
    (hnone : ∀ pid, b.registry.subscription pid s = none) :
    (∀ d ∈ b.hardware.devices, d.reports s = false) ∧ b.arbitration.activeState s = none := by
  have hempty : b.registry.subscriptionsOf s = ∅ := Table.eq_empty_iff.2 hnone
  cases hb.consistent.settled s with
  | idle unwanted unnoted stopped =>
    refine ⟨fun d hd => Bool.eq_false_iff.2 fun hr => ?_, ?_⟩
    · have hruns : b.hardware.runs s = true := (hb.consistent.sound.reports_iff s).1 ⟨d, hd, hr⟩
      have hstop : b.hardware.runs s = false := stopped
      rw [hstop] at hruns
      cases hruns
    · rw [Arbitration.activeState, unnoted]
      rfl
  | running subscribed => exact absurd hempty subscribed

/-- A mock that has ended is no sensor any more, and no other sensor is lost. -/
theorem Reachable.has_withdraw (hb : b.Reachable) (h : b.withdraw s = (.ok (), b')) :
    b'.hardware.has s = false ∧ ∀ s', s' ≠ s → b'.hardware.has s' =
      (disableEach s (b.registry.subscribers s) b).hardware.has s' := by
  obtain ⟨-, hw, hwithdraw, rfl⟩ := withdraw_ok h
  have hmoves : Suspension.Moves (fun _ _ => False) (fun _ => False) (fun _ => False)
      b.suspension (disableEach s (b.registry.subscribers s) b).suspension :=
    moves_disableEach s (b.registry.subscribers s) b
  exact Hardware.has_withdraw (hmoves.consistent hb.consistent).sound hwithdraw

/-! ### Runs that leave nobody behind -/

/-- Subscribers stay with sensors that are served if nobody is left behind. -/
theorem Reachable.served_withdraw (hb : b.Reachable) (h : b.arbitration.Served)
    (nobody : b.leftBehind s = []) : (b.withdraw s).2.arbitration.Served := by
  have hmoves : Suspension.Moves (fun _ _ => False) (fun _ => False) (fun _ => False)
      b.suspension (disableEach s (b.registry.subscribers s) b).suspension :=
    moves_disableEach s (b.registry.subscribers s) b
  have heach := hmoves.served (fun _ => id) h
  by_cases hok : (b.withdraw s).1 = .ok ()
  · have hw : b.withdraw s = (.ok (), (b.withdraw s).2) := Prod.ext hok rfl
    obtain ⟨-, hothers⟩ := hb.has_withdraw hw
    obtain ⟨-, hardware, -, hafter⟩ := withdraw_ok hw
    intro pid s' hsub
    have hne : s' ≠ s := fun heq =>
      hsub (heq ▸ (leftBehind_eq_nil_iff hw).1 nobody pid)
    refine (hothers s' hne).trans (heach pid s' ?_)
    rw [hafter] at hsub
    exact hsub
  · -- a mock that is none does not end, and whoever it serves stays
    unfold withdraw at hok ⊢
    split_ifs at hok ⊢
    · simp only at hok ⊢
      split at hok
      · exact absurd rfl hok
      · next e hw heq =>
        simp only
        rw [Hardware.withdraw_error heq]
        exact heach
    · exact h

/-- **Where no mock that ended has left anybody behind, whoever subscribes to a
sensor subscribes to one that is served.** -/
theorem Tended.served (h : b.Tended) : b.arbitration.Served := by
  induction h with
  | start _ _ started =>
    intro pid s hsub
    obtain ⟨hw, -, rfl⟩ := start_ok started
    exact absurd rfl hsub
  | @step b before op nobody ih =>
    by_cases hwithdraw : ∃ s, op = .withdraw s
    · obtain ⟨s, rfl⟩ := hwithdraw
      exact before.reachable.served_withdraw ih (nobody s rfl)
    · refine (b.moves_step op).served (fun s hdrops => ?_) ih
      cases op with
      | withdraw s' => exact hwithdraw ⟨s', rfl⟩
      | _ => exact hdrops

/-- A backend serves a sensor that somebody subscribes to, if any has it. -/
theorem Reachable.route_of_has (hb : b.Reachable)
    (hsub : b.registry.subscription pid s ≠ none) (hhas : b.hardware.has s = true) :
    ∃ slot, b.hardware.route s = .ok slot := by
  obtain ⟨request, hrequest⟩ := Option.ne_none_iff_exists'.1 hsub
  have hruns := (hb.consistent.settled s).runs_of_subscription hrequest
  obtain ⟨slot, hhome, -⟩ := Hardware.runs_iff.1 hruns
  exact ⟨slot, hb.consistent.sound.route_of_has hhas hhome⟩

/-- **What is left of a mock that was withdrawn.** Exactly those still subscribe
whom the mock left behind; if there are none, no backend has the sensor reporting
and it stands at nothing; the sensor is served no more. And as long as no mock
that ended has left anybody behind, whoever subscribes to a sensor subscribes to
one that is served, and calls about it reach a backend. -/
theorem Reachable.withdraw_unsubscribes (hb : b.Reachable) :
    (∀ s b', b.withdraw s = (.ok (), b') →
      (∀ pid, b'.registry.subscription pid s =
        if pid ∈ b.leftBehind s then b.registry.subscription pid s else none) ∧
      (b.leftBehind s = [] ↔ ∀ pid, b'.registry.subscription pid s = none) ∧
      (b.leftBehind s = [] → (∀ d ∈ b'.hardware.devices, d.reports s = false) ∧
        b'.arbitration.activeState s = none) ∧
      b'.hardware.has s = false) ∧
    (b.Tended → ∀ pid s, b.registry.subscription pid s ≠ none →
      b.hardware.has s = true ∧ ∃ slot, b.hardware.route s = .ok slot) := by
  constructor
  · intro s b' h
    have hb' : b'.Reachable := by
      have hstep := hb.step (.withdraw s)
      rwa [Broker.step, h] at hstep
    refine ⟨subscription_withdraw h, leftBehind_eq_nil_iff h, fun hnobody => ?_,
      (hb.has_withdraw h).1⟩
    exact hb'.still_of_unsubscribed ((leftBehind_eq_nil_iff h).1 hnobody)
  · intro htended pid s hsub
    have hhas := htended.served pid s hsub
    exact ⟨hhas, hb.route_of_has hsub hhas⟩

theorem tended_trial : trial.Tended :=
  .start ⟨rfl, rfl⟩ (fun _ => ⟨rfl, rfl⟩) (Prod.ext rfl rfl)

/-- A process subscribes to a mock, which is served then, and the mock ends. -/
theorem unsubscribed_after_withdraw :
    ∃ b b' : Broker, b.Reachable ∧ b.registry.subscription 100 .color ≠ none ∧
      (∃ slot, b.hardware.route .color = .ok slot) ∧
      b.withdraw .color = (.ok (), b') ∧ b.leftBehind .color = [] ∧
      b'.arbitration.activeState .color = none := by
  have htended : (trial.run [.inject .color,
      .enable ⟨100, 1000, 7⟩ .color ⟨1000000, 0⟩]).Tended :=
    .step (.step tended_trial (.inject .color) nofun) (.enable _ _ _) nofun
  have hsub : (trial.run [.inject .color,
      .enable ⟨100, 1000, 7⟩ .color ⟨1000000, 0⟩]).registry.subscription 100 .color ≠ none := by
    decide +kernel
  have hnobody : (trial.run [.inject .color,
      .enable ⟨100, 1000, 7⟩ .color ⟨1000000, 0⟩]).leftBehind .color = [] := by decide +kernel
  have hok : (withdraw _ .color) = (.ok (), _) :=
    Prod.ext (x := (trial.run [.inject .color,
      .enable ⟨100, 1000, 7⟩ .color ⟨1000000, 0⟩]).withdraw .color) (by decide +kernel) rfl
  obtain ⟨hends, hserved⟩ := htended.reachable.withdraw_unsubscribes
  exact ⟨_, _, htended.reachable, hsub, (hserved htended 100 .color hsub).2, hok, hnobody,
    ((hends .color _ hok).2.2.1 hnobody).2⟩

/-- A broker like the trial one, whose mocks refuse to be switched off. -/
def grudging : Broker :=
  (ofConfig {} (.ofSettings {} (.scripted "real" [Device.scriptedDescriptor .accelerometer]
    (fun _ _ => false) false true) fun _ => .scripted "mock" []
      (fun _ c => c.operation = "disable") false true) default false).start.2

/-- A process that enabled a mock again while it was suspended goes on
subscribing to it after it has ended, and so does one for whom the mock refused
to be switched off. -/
theorem subscribed_after_withdraw :
    (∃ b b' : Broker, b.Reachable ∧ b.withdraw .color = (.ok (), b') ∧
      b'.registry.subscription 100 .color = some ⟨2000000, 0⟩ ∧
      b'.hardware.has .color = false ∧ (b'.arbitration.activeState .color).isSome = true) ∧
    ∃ b b' : Broker, b.Reachable ∧ b.withdraw .color = (.ok (), b') ∧
      b'.registry.subscription 100 .color = some ⟨1000000, 0⟩ ∧
      b'.hardware.has .color = false ∧ (b'.arbitration.activeState .color).isSome = true := by
  constructor
  · exact ⟨_, _, reachable_trial.run [.inject .color, .enable ⟨100, 1000, 7⟩ .color ⟨1000000, 0⟩,
        .suspend 100, .enable ⟨100, 1000, 7⟩ .color ⟨2000000, 0⟩],
      Prod.ext (by decide +kernel) rfl, by decide +kernel, by decide +kernel, by decide +kernel⟩
  · have hgrudging : grudging.Reachable :=
      reachable_start ⟨rfl, rfl⟩ (fun _ => ⟨rfl, rfl⟩) rfl
    exact ⟨_, _, hgrudging.run [.inject .color, .enable ⟨100, 1000, 7⟩ .color ⟨1000000, 0⟩],
      Prod.ext (by decide +kernel) rfl, by decide +kernel, by decide +kernel, by decide +kernel⟩

end Broker
end SensorBroker
