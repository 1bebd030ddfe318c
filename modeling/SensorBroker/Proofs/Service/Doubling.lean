/-
# A sensor that a process holds to twice

A process holds to a sensor by a subscription or by an entry of its snapshot.
Suspending and resuming take it from the one place to the other, and nothing
that happens to a broker brings it into both (`Broker.Doubled`) but one thing:
a process that enables a sensor which is in its snapshot subscribes to it anew,
and the entry stays (`Broker.Op.Doubles`). Without that, no sensor is ever held
to twice.

What resuming brings back is put in the place of what is there. So it changes
no subscription to a sensor that is held to once, and one to a sensor that is
held to twice it makes what was saved, whatever the process has asked for since.

Key definitions: `Suspension.Doubled`, `Broker.EnablesFor`, `Broker.Op.Doubles`,
`Broker.Heedful`.
Key theorems: `Suspension.Moves.doubled`, `Broker.Reachable.doubled_only_by_enable`.
-/
import SensorBroker.Proofs.Service.Mirroring

namespace SensorBroker

/-- What is in both places has not been moved. -/
theorem Moved.kept_of_ne_none {sensors : List SensorId}
    {source target source' target' : SensorId → Option Request}
    (h : Moved sensors source target source' target') {s : SensorId} (hs : source' s ≠ none) :
    source' s = source s ∧ target' s = target s :=
  h.kept s fun hmem => hs (h.gone s hmem).1

theorem Registry.Restored.refl (r : Registry) : r.Restored r :=
  ⟨fun _ => rfl, rfl, rfl, rfl, rfl, rfl⟩

/-- Whoever has enabled a sensor subscribes to it. -/
theorem Arbitration.subscription_ne_none_of_enable {a a' : Arbitration} {pid : Pid} {s : SensorId}
    {request : Request} {outcome : EnableOutcome}
    (he : a.enable pid s request = (.ok outcome, a')) :
    a'.registry.subscription pid s ≠ none := by
  obtain ⟨period, _, _, -, -, -, rfl, -, -⟩ := enable_ok he
  show (a.registry.put pid s ⟨period, request.delay⟩).subscription pid s ≠ none
  rw [Registry.subscription_put_self]
  exact Option.some_ne_none _

namespace Suspension

/-- A process subscribes to a sensor and has it in its snapshot too. -/
def Doubled (x : Suspension) (pid : Pid) (s : SensorId) : Prop :=
  x.arbitration.registry.subscription pid s ≠ none ∧ x.saved pid s ≠ none

variable {x y : Suspension} {pid : Pid} {s : SensorId}

/-- Over equal subscriptions, and with nothing more saved, nothing more is held
to twice. -/
theorem Doubled.of_saved (h : y.Doubled pid s)
    (hsub : y.arbitration.registry.subscription pid s = x.arbitration.registry.subscription pid s)
    (hsaved : ∀ request, y.saved pid s = some request → x.saved pid s = some request) :
    x.Doubled pid s := by
  obtain ⟨request, hrequest⟩ := Option.ne_none_iff_exists'.1 h.2
  refine ⟨hsub ▸ h.1, ?_⟩
  rw [hsaved request hrequest]
  exact Option.some_ne_none request

theorem Doubled.of_suspend {other : Pid} (h : (x.suspend other).2.Doubled pid s) :
    x.Doubled pid s := by
  rcases hr : x.suspend other with ⟨outcome, x'⟩
  rw [hr] at h
  obtain ⟨-, hmoved, hothers⟩ := suspend_spec hr
  by_cases hpid : pid = other
  · subst hpid
    obtain ⟨hsub, hsaved⟩ := hmoved.kept_of_ne_none h.1
    exact ⟨hsub ▸ h.1, hsaved ▸ h.2⟩
  · obtain ⟨hsnapshots, hsub⟩ := hothers pid hpid
    exact ⟨hsub s ▸ h.1, saved_eq_of_get?_eq hsnapshots ▸ h.2⟩

theorem Doubled.of_resume (hx : x.Restorable) {other : Pid}
    (h : (x.resume other).2.Doubled pid s) : x.Doubled pid s := by
  rcases hr : x.resume other with ⟨e | outcome, x'⟩
  · rw [hr, eq_of_resume_error hr] at h
    exact h
  · rw [hr] at h
    obtain ⟨_, -, -, hmoved, hothers⟩ :=
      resume_spec (fun s request hsaved => hx.zero (.inr hsaved)) hr
    by_cases hpid : pid = other
    · subst hpid
      obtain ⟨hsaved, hsub⟩ := hmoved.kept_of_ne_none h.2
      exact ⟨hsub ▸ h.1, hsaved ▸ h.2⟩
    · obtain ⟨hsnapshots, hsub⟩ := hothers pid hpid
      exact ⟨hsub s ▸ h.1, saved_eq_of_get?_eq hsnapshots ▸ h.2⟩

/-- **No move makes a process hold to a sensor twice**, but one that enables the
sensor for it. -/
theorem Move.doubled {grants : Pid → SensorId → Prop} {freezes : Pid → Prop}
    {drops : SensorId → Prop} (m : Move grants freezes drops x y) (hno : ¬ grants pid s)
    (hx : x.Restorable) (h : y.Doubled pid s) : x.Doubled pid s := by
  cases m with
  | @enable pid' s' request granted =>
    have hne : pid ≠ pid' ∨ s ≠ s' := by
      refine Classical.not_and_iff_not_or_not.1 ?_
      rintro ⟨rfl, rfl⟩
      exact hno granted
    refine h.of_saved ?_ fun _ hsaved => hsaved
    rcases he : x.arbitration.enable pid' s' request with ⟨e | outcome, a⟩
    · exact Arbitration.subscription_of_enable_error he pid s
    · exact Arbitration.subscription_enable_of_ne he hne
  | disable pid' s' =>
    rcases hd : x.arbitration.disable pid' s' with ⟨result, a⟩
    rw [hd] at h
    obtain ⟨request, hrequest⟩ := Option.ne_none_iff_exists'.1 h.1
    refine ⟨?_, h.2⟩
    rw [Arbitration.subscription_of_subscription_disable hd hrequest]
    exact Option.some_ne_none request
  | suspend _ => exact h.of_suspend
  | resume _ => exact h.of_resume hx
  | discard pid' s' =>
    refine h.of_saved ?_ fun _ => saved_of_saved_discard
    rw [arbitration_discard]
  | forget pid' => exact h.of_saved rfl fun _ => saved_of_saved_forget
  | @call c _ =>
    exact h.of_saved (congrArg (·.subscription pid s) (x.arbitration.registry_perform c))
      fun _ hsaved => hsaved
  | inject s' => exact h
  | withdraw _ => exact h
  | raise es => exact h
  | record same =>
    refine h.of_saved ?_ fun _ hsaved => hsaved
    exact congrArg (·.get? pid) (same s)

theorem Moves.doubled {grants : Pid → SensorId → Prop} {freezes : Pid → Prop}
    {drops : SensorId → Prop} (m : Moves grants freezes drops x y) (hno : ¬ grants pid s)
    (hx : x.Restorable) (h : y.Doubled pid s) : x.Doubled pid s := by
  induction m with
  | refl => exact h
  | tail before move ih => exact ih (move.doubled hno (Moves.restorable before hx) h)

/-! ### What resuming leaves alone -/

/-- Resuming a process changes no subscription to a sensor that is not in the
snapshot of its subscriber. -/
theorem live_resume (hx : x.Restorable) {live : Request}
    (hlive : x.arbitration.registry.subscription pid s = some live) (hsaved : x.saved pid s = none)
    (other : Pid) :
    (x.resume other).2.arbitration.registry.subscription pid s = some live ∧
      (x.resume other).2.saved pid s = none := by
  rcases hr : x.resume other with ⟨e | outcome, x'⟩
  · rw [eq_of_resume_error hr]
    exact ⟨hlive, hsaved⟩
  · obtain ⟨snapshot, hsnapshot, hperm, hmoved, hothers⟩ :=
      resume_spec (fun s request hsaved => hx.zero (.inr hsaved)) hr
    by_cases hpid : pid = other
    · subst hpid
      have hnot : s ∉ outcome.succeeded := fun hmem => by
        have hkey := hperm.subset (BulkOutcome.mem_items_of_succeeded hmem)
        obtain ⟨request, hrequest⟩ := snapshot.mem_keys_iff.1 hkey
        rw [saved, hsnapshot, Option.bind_some, hrequest] at hsaved
        cases hsaved
      obtain ⟨hkept, hsub⟩ := hmoved.kept s hnot
      exact ⟨hsub.trans hlive, hkept.trans hsaved⟩
    · obtain ⟨hsnapshots, hsub⟩ := hothers pid hpid
      refine ⟨(hsub s).trans hlive, ?_⟩
      rw [saved_eq_of_get?_eq hsnapshots]
      exact hsaved

theorem live_resumeEach {live : Request} : ∀ (pids : List Pid) {x : Suspension}, x.Restorable →
    x.arbitration.registry.subscription pid s = some live → x.saved pid s = none →
    (resumeEach pids x).2.arbitration.registry.subscription pid s = some live
  | [], _, _, hlive, _ => hlive
  | other :: rest, x, hx, hlive, hsaved => by
    obtain ⟨hlive', hsaved'⟩ := live_resume hx hlive hsaved other
    have hrest := live_resumeEach rest (hx.resume other) hlive' hsaved'
    rw [resumeEach]
    rcases hr : x.resume other with ⟨e | outcome, x'⟩
    · rwa [hr] at hrest
    · rwa [hr] at hrest

end Suspension

namespace Broker

variable {b b' : Broker} {pid : Pid} {s : SensorId}

/-! ### Enabling for a process -/

/-- What a request to enable a sensor comes to: it changes no snapshot, and
subscribes its caller, or nobody where it fails. -/
inductive EnablesFor (b : Broker) (caller : Identity) (s : SensorId) (request : Request) :
    Except ServiceError Unit → Broker → Prop
  | refused {b' : Broker} (e : ServiceError)
    (restored : b.registry.Restored b'.registry)
    (snapshots : b'.suspension.snapshots = b.suspension.snapshots) :
    EnablesFor b caller s request (.error e) b'
  | subscribed {b' : Broker} {outcome a} (done : b.arbitration.enable caller.pid s request = (.ok outcome, a))
    (registry : b'.registry = a.registry)
    (snapshots : b'.suspension.snapshots = b.suspension.snapshots) :
    EnablesFor b caller s request (.ok ()) b'

theorem enablesFor (b : Broker) (caller : Identity) (s : SensorId) (request : Request) :
    EnablesFor b caller s request (b.enable caller s request).1 (b.enable caller s request).2 := by
  unfold enable forPid
  split_ifs
  · exact .refused _ (.refl _) rfl
  · rcases he : b.arbitration.enable caller.pid s request with ⟨e | outcome, a⟩
    · refine .refused _ ?_ rfl
      rcases Arbitration.enable_error he with ⟨-, rfl⟩ | ⟨_, -, hu, -⟩
      · exact .refl _
      · exact hu.registry
    · simp only
      split_ifs
      · obtain ⟨hw, flushes, queue, dropped, -, hflush⟩ :=
          (b.setArbitration a).exists_flushOnJoin caller.pid s
        obtain ⟨cs, hreplay⟩ :=
          ((b.setArbitration a).flushOnJoin caller.pid s).exists_replay caller.pid s
        rw [hreplay, hflush]
        refine .subscribed he ?_ ?_
        · rw [registry, arbitration, suspension_reportActive]
          rfl
        · rw [suspension_reportActive]
          rfl
      · refine .subscribed he ?_ ?_
        · rw [registry, arbitration, suspension_reportActive]
          rfl
        · rw [suspension_reportActive]
          rfl

theorem EnablesFor.saved {caller : Identity} {request : Request} {r : Except ServiceError Unit}
    (h : b.EnablesFor caller s request r b') (s' : SensorId) :
    b'.suspension.saved pid s' = b.suspension.saved pid s' := by
  have hsnapshots : b'.suspension.snapshots = b.suspension.snapshots := by
    cases h with
    | refused e restored snapshots => exact snapshots
    | subscribed done registry snapshots => exact snapshots
  rw [Suspension.saved, hsnapshots, Suspension.saved]

/-- **Who holds to a sensor twice once it was enabled**: who did before, and its
caller, if it is done and the sensor is in the caller's snapshot. -/
theorem EnablesFor.doubled_iff {caller : Identity} {request : Request}
    {r : Except ServiceError Unit} (h : b.EnablesFor caller s request r b') {s' : SensorId} :
    b'.Doubled pid s' ↔ b.Doubled pid s' ∨
      (caller.pid = pid ∧ s = s' ∧ r = .ok () ∧ b.suspension.saved pid s' ≠ none) := by
  rw [Doubled, Doubled, h.saved]
  cases h with
  | refused e restored _ =>
    rw [restored.subscription]
    simp
  | subscribed done registry _ =>
    rw [registry]
    by_cases hself : pid = caller.pid ∧ s' = s
    · obtain ⟨rfl, rfl⟩ := hself
      have hlive := Arbitration.subscription_ne_none_of_enable done
      simp only [true_and]
      constructor
      · exact fun hboth => .inr hboth.2
      · rintro (hboth | hsaved)
        · exact ⟨hlive, hboth.2⟩
        · exact ⟨hlive, hsaved⟩
    · rw [Arbitration.subscription_enable_of_ne done (Classical.not_and_iff_not_or_not.1 hself)]
      constructor
      · exact .inl
      · rintro (hboth | ⟨rfl, rfl, -⟩)
        · exact hboth
        · exact absurd ⟨rfl, rfl⟩ hself

/-! ### Runs -/

/-- An operation that makes a process hold to a sensor twice: its request to
enable the sensor, which is in its snapshot, is done. -/
def Op.Doubles (b : Broker) : Op → Pid → SensorId → Prop
  | .enable caller s' request, pid, s =>
    caller.pid = pid ∧ s' = s ∧ (b.enable caller s' request).1 = .ok () ∧
      b.suspension.saved pid s ≠ none
  | _, _, _ => False

/-- The brokers that any start leads to, and any run in which a process enables a
sensor at no time when it is in the snapshot of the process. -/
inductive Heedful (pid : Pid) (s : SensorId) : Broker → Prop
  | start {config : Config} {vendor : Device} {blueprint : Nat → Device} {rule : SocketRule}
    {watching : Bool} {b : Broker} (vendor_idle : vendor.IsIdle)
    (built_idle : ∀ n, (blueprint n).IsIdle)
    (started : (ofConfig config (.ofSettings config.hardware vendor blueprint) rule
      watching).start = (.ok (), b)) : Heedful pid s b
  | step {b : Broker} (before : Heedful pid s b) (op : Op) (heeds : ¬ op.Doubles b pid s) :
    Heedful pid s (b.step op)

theorem Heedful.reachable (h : b.Heedful pid s) : b.Reachable := by
  induction h with
  | start vendor_idle built_idle started => exact .start vendor_idle built_idle started
  | step _ op _ ih => exact ih.step op

/-- **One operation makes a process hold to a sensor twice exactly if it did, or
the operation doubles it**; it may also end that. -/
theorem Reachable.doubled_of_step (hb : b.Reachable) {op : Op} (h : (b.step op).Doubled pid s) :
    b.Doubled pid s ∨ op.Doubles b pid s := by
  have hmoves := b.moves_step op
  cases op with
  | enable caller s' request => exact (b.enablesFor caller s' request).doubled_iff.1 h
  | _ => exact .inl (hmoves.doubled id hb.restorable h)

theorem doubled_of_doubles {op : Op} (h : op.Doubles b pid s) : (b.step op).Doubled pid s := by
  cases op with
  | enable caller s' request => exact (b.enablesFor caller s' request).doubled_iff.2 (.inr h)
  | _ => exact h.elim

theorem Heedful.not_doubled (h : b.Heedful pid s) : ¬ b.Doubled pid s := by
  induction h with
  | start _ _ started =>
    obtain ⟨hw, -, rfl⟩ := start_ok started
    exact fun hdoubled => hdoubled.1 rfl
  | step before op heeds ih =>
    intro hdoubled
    rcases before.reachable.doubled_of_step hdoubled with hbefore | hdoubles
    · exact ih hbefore
    · exact heeds hdoubles

/-- Resuming, one process or all, changes no subscription to a sensor that its
subscriber holds to once. -/
theorem Reachable.live_of_resume (hb : b.Reachable) {live : Request}
    (hlive : b.registry.subscription pid s = some live) (hno : ¬ b.Doubled pid s) :
    (∀ other, (b.resume other).2.registry.subscription pid s = some live) ∧
      b.resumeAll.2.registry.subscription pid s = some live := by
  have hsaved : b.suspension.saved pid s = none := by
    by_contra hsaved
    refine hno ⟨?_, hsaved⟩
    rw [hlive]
    exact Option.some_ne_none live
  refine ⟨fun other => ?_, Suspension.live_resumeEach _ hb.restorable hlive hsaved⟩
  have hkept := (Suspension.live_resume hb.restorable hlive hsaved other).1
  unfold resume forPid
  split_ifs
  · exact hlive
  · rcases hr : b.suspension.resume other with ⟨e | outcome, x⟩
    · rwa [hr] at hkept
    · rw [hr] at hkept
      rw [registry, arbitration, suspension_foldl_reportActive]
      exact hkept

/-- **When a process holds to a sensor twice.** It does not as long as it enables
the sensor at no time when it is in its snapshot; one operation makes it do so
only by such a request, and every such request that is done does. Resuming
changes no subscription to a sensor that is held to once; where it is held to
twice, and resuming it succeeds, the subscription is what was saved. -/
theorem Reachable.doubled_only_by_enable (hb : b.Reachable) :
    (∀ pid s, b.Heedful pid s → ¬ b.Doubled pid s) ∧
    (∀ op pid s, (b.step op).Doubled pid s → b.Doubled pid s ∨ op.Doubles b pid s) ∧
    (∀ op pid s, op.Doubles b pid s → (b.step op).Doubled pid s) ∧
    (∀ pid s live, b.registry.subscription pid s = some live → ¬ b.Doubled pid s →
      (∀ other, (b.resume other).2.registry.subscription pid s = some live) ∧
        b.resumeAll.2.registry.subscription pid s = some live) ∧
    ∀ pid s outcome b', b.resume pid = (.ok outcome, b') → b.Doubled pid s →
      s ∈ outcome.succeeded → b'.registry.subscription pid s = b.suspension.saved pid s := by
  refine ⟨fun _ _ h => h.not_doubled, fun _ _ _ => hb.doubled_of_step,
    fun _ _ _ => doubled_of_doubles, fun _ _ _ => hb.live_of_resume, ?_⟩
  intro pid s outcome b' hresume _ hmem
  exact ((hb.resumes_of_resume hresume).moved.gone s hmem).2

/-- A process that was suspended holds to its sensor once; enabling it doubles
it. -/
theorem doubled_after_enable :
    let b := trial.run [.enable ⟨100, 1000, 7⟩ .accelerometer ⟨1000000, 0⟩, .suspend 100]
    ¬ b.Doubled 100 .accelerometer ∧
      (b.step (.enable ⟨100, 1000, 7⟩ .accelerometer ⟨2000000, 0⟩)).Doubled 100 .accelerometer := by
  intro b
  have hb : b.Reachable := reachable_trial.run _
  have hstart : trial.Heedful 100 .accelerometer :=
    .start ⟨rfl, rfl⟩ (fun _ => ⟨rfl, rfl⟩) (Prod.ext rfl rfl)
  have hfirst : ¬ (Op.enable ⟨100, 1000, 7⟩ .accelerometer ⟨1000000, 0⟩).Doubles trial 100
      .accelerometer := fun h => h.2.2.2 rfl
  have hheedful : b.Heedful 100 .accelerometer :=
    (hstart.step _ hfirst).step (.suspend 100) id
  obtain ⟨hnever, -, hdoubles, -⟩ := hb.doubled_only_by_enable
  exact ⟨hnever _ _ hheedful, hdoubles _ _ _ ⟨rfl, rfl, by decide +kernel, by decide +kernel⟩⟩

/-- A process that enabled a sensor again while it was suspended holds to it
twice, and resuming it brings back what it had asked for first. -/
theorem overwritten_by_resume :
    ∃ b : Broker, b.Reachable ∧ b.Doubled 100 .accelerometer ∧
      b.registry.subscription 100 .accelerometer = some ⟨2000000, 0⟩ ∧
      (b.resume 100).2.registry.subscription 100 .accelerometer = some ⟨1000000, 0⟩ ∧
      b.resumeAll.2.registry.subscription 100 .accelerometer = some ⟨1000000, 0⟩ := by
  refine ⟨_, reachable_trial.run [.enable ⟨100, 1000, 7⟩ .accelerometer ⟨1000000, 0⟩,
    .suspend 100, .enable ⟨100, 1000, 7⟩ .accelerometer ⟨2000000, 0⟩], ⟨?_, ?_⟩, ?_, ?_, ?_⟩
  all_goals decide +kernel

end Broker
end SensorBroker
