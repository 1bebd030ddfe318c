/-
# Each process is answered from its own account

As far as no backend fails, a broker answers a request from the account of its
process alone, as that account says, and changes no other account
(`Broker.meets_or_fails`, `Broker.account_ask_of_ne`). So every process has the
service to itself (`Broker.Reachable.account_asked`). What else decides, the
terms, is the same for all and stays as long as no mock is made or ended.

A backend that fails may get in the way, and then the answer says so. If all
sensors of the process are served, that backend has refused a call.

Key definitions: `Broker.account`, `Broker.Meets`, `Broker.Fails`.
Key theorems: `Broker.meets_or_fails`, `Broker.account_ask_of_ne`,
`Broker.Reachable.meets`, `Broker.Reachable.account_asked`.
-/
import SensorBroker.Proofs.Service.Account
import SensorBroker.Proofs.Service.Doubling
import SensorBroker.Proofs.Service.Dying

namespace SensorBroker
namespace Broker

open Arbitration (Resists)

/-- What a broker holds of a process. -/
def account (b : Broker) (pid : Pid) : Account :=
  b.suspension.account pid

/-- The terms of requests. -/
def terms (b : Broker) : Terms :=
  b.suspension.terms

/-- A request is answered as the account of its process is, and leaves that
account as it says. -/
def Meets (b : Broker) (q : Ask) : Prop :=
  ((b.answer q).1, (b.ask q).account q.pid) = (b.account q.pid).answer b.terms q

/-- A request is not done for a backend that fails: the answer says so, and if
calls reach a backend, one has refused a call. -/
def Fails (b : Broker) (q : Ask) : Prop :=
  (b.answer q).1.Failed ∧ Resists q.pid b.arbitration (b.ask q).arbitration

variable {b : Broker}

theorem account_eq {b' : Broker} {pid : Pid}
    (live : ∀ s, b'.registry.subscription pid s = b.registry.subscription pid s)
    (snapshot : b'.suspension.snapshots.get? pid = b.suspension.snapshots.get? pid) :
    b'.account pid = b.account pid := by
  refine Account.ext (Table.ext_get? fun s => ?_) snapshot
  show (b'.registry.requestsOf pid).get? s = (b.registry.requestsOf pid).get? s
  rw [Registry.get?_requestsOf, Registry.get?_requestsOf, live]

/-! ### Requests -/

theorem enable_of_ok {caller : Identity} {s : SensorId} {request : Request} {outcome a}
    (hpid : ¬ caller.pid < 0)
    (he : b.arbitration.enable caller.pid s request = (.ok outcome, a)) :
    (b.enable caller s request).1 = .ok () ∧
      (b.enable caller s request).2.registry = a.registry ∧
      (b.enable caller s request).2.suspension.snapshots = b.suspension.snapshots := by
  have hok : (b.enable caller s request).1 = .ok () := by
    unfold enable forPid
    rw [if_neg hpid, he]
  have hfor := b.enablesFor caller s request
  rw [hok] at hfor
  refine ⟨hok, ?_⟩
  generalize (b.enable caller s request).2 = b' at hfor
  cases hfor with
  | subscribed done registry snapshots =>
    cases done.symm.trans he
    exact ⟨registry, snapshots⟩

theorem enable_of_error {caller : Identity} {s : SensorId} {request : Request} {e a}
    (hpid : ¬ caller.pid < 0)
    (he : b.arbitration.enable caller.pid s request = (.error e, a)) :
    b.enable caller s request = (.error e, b.setArbitration a) := by
  unfold enable forPid
  rw [if_neg hpid, he]

theorem meets_or_fails_enable (b : Broker) (caller : Identity) (s : SensorId)
    (request : Request) :
    b.Meets (.enable caller s request) ∨ b.Fails (.enable caller s request) := by
  have hresult := b.arbitration.enableResult caller.pid s request
  unfold Meets Fails ask answer Account.answer Account.forPid Account.enable
  simp only [Ask.pid]
  by_cases hpid : caller.pid < 0
  · left
    unfold enable forPid
    rw [if_pos hpid, if_pos hpid]
    rfl
  · rw [if_neg hpid]
    rcases he : b.arbitration.enable caller.pid s request with ⟨r, a⟩
    rw [he] at hresult
    cases hresult with
    | turnedDown checked =>
      left
      have hcheck : b.terms.check s request = .error _ := checked
      rw [enable_of_error hpid he, hcheck]
      rfl
    | met checked live =>
      left
      obtain ⟨hok, hregistry, hsnapshots⟩ := enable_of_ok hpid he
      have hcheck : b.terms.check s request = .ok _ := checked
      rw [hcheck]
      refine Prod.ext (congrArg Answer.done hok) (Account.ext ?_ ?_)
      · show (b.enable caller s request).2.registry.requestsOf caller.pid = _
        rw [hregistry, live]
        rfl
      · show (b.enable caller s request).2.suspension.snapshots.get? caller.pid = _
        rw [hsnapshots]
        rfl
    | failed live resists =>
      right
      rw [enable_of_error hpid he]
      exact ⟨⟨s, _, List.mem_cons_self⟩, resists⟩

/-- Ending a subscription does so, or a backend fails. -/
theorem meets_or_fails_disableFor (b : Broker) (pid : Pid) (s : SensorId) :
    b.Meets (.disableFor pid s) ∨ b.Fails (.disableFor pid s) := by
  have hresult := b.arbitration.disableResult pid s
  have hdiscard := b.suspension.account_discard pid s
  have hsame := b.suspension.arbitration_discard pid s
  unfold Meets Fails ask answer Account.answer Account.forPid Account.disable
  simp only [Ask.pid]
  unfold disableFor forPid
  by_cases hpid : pid < 0
  · left
    rw [if_pos hpid, if_pos hpid]
    rfl
  · rw [if_neg hpid, if_neg hpid]
    by_cases hvalid : (!s.isValid) = true
    · left
      rw [if_pos hvalid, if_pos hvalid]
      rfl
    · rw [if_neg hvalid, if_neg hvalid]
      have haccount : (b.account pid).discard s = _ := hdiscard.symm
      rw [haccount]
      rcases hd : b.suspension.discard pid s with ⟨found, x⟩
      rw [hd] at hsame
      cases found with
      | some saved =>
        left
        exact Prod.ext rfl (congrArg (fun x : Suspension => x.account pid)
          (suspension_report _ pid s false saved))
      | none =>
        have harbitration : ({ b with suspension := x } : Broker).arbitration = b.arbitration :=
          hsame
        have hlive : (x.account pid).live = b.registry.requestsOf pid :=
          congrArg (fun a : Arbitration => a.registry.requestsOf pid) hsame
        simp only [harbitration]
        rcases hdis : b.arbitration.disable pid s with ⟨r, a⟩
        rw [hdis] at hresult
        cases hresult with
        | absent hnone =>
          left
          unfold Account.cancel
          rw [hlive, Registry.get?_requestsOf, show b.registry.subscription pid s = none from hnone]
          exact Prod.ext rfl (Account.ext hlive.symm rfl)
        | ended subscribed live =>
          left
          unfold Account.cancel
          rw [hlive, Registry.get?_requestsOf,
            show b.registry.subscription pid s = some _ from subscribed]
          exact Prod.ext rfl ((congrArg (fun x : Suspension => x.account pid)
            (suspension_report _ pid s false _)).trans (Account.ext live rfl))
        | failed live resists =>
          right
          exact ⟨⟨s, _, List.mem_cons_self⟩, resists⟩

theorem meets_or_fails_suspend (b : Broker) (pid : Pid) :
    b.Meets (.suspend pid) ∨ b.Fails (.suspend pid) := by
  have hcases := b.suspension.suspend_cases pid
  unfold Meets Fails ask answer Account.answer Account.forPid
  simp only [Ask.pid]
  unfold suspend forPid
  by_cases hpid : pid < 0
  · left
    rw [if_pos hpid, if_pos hpid]
    rfl
  · rw [if_neg hpid, if_neg hpid]
    rcases hx : b.suspension.suspend pid with ⟨outcome, x⟩
    rw [hx] at hcases
    have hafter : (reportSuspended pid (x.snapshots.getD pid ∅) outcome.succeeded
        { b with suspension := x }).suspension = x := suspension_reportSuspended ..
    rcases hcases with hmet | ⟨hfailed, hresists⟩
    · left
      have haccount : (b.account pid).suspend b.terms = (outcome, x.account pid) := hmet.symm
      rw [haccount]
      exact Prod.ext rfl (congrArg (fun x : Suspension => x.account pid) hafter)
    · right
      refine ⟨hfailed, fun hreach => ?_⟩
      show ¬ b.hardware.Obliges (Broker.suspension (reportSuspended ..)).arbitration.hardware
      rw [hafter]
      exact hresists hreach

theorem meets_or_fails_resume (b : Broker) (pid : Pid) :
    b.Meets (.resume pid) ∨ b.Fails (.resume pid) := by
  have hcases := b.suspension.resume_cases pid
  unfold Meets Fails ask answer Account.answer Account.forPid
  simp only [Ask.pid]
  unfold resume forPid
  by_cases hpid : pid < 0
  · left
    rw [if_pos hpid, if_pos hpid]
    rfl
  · rw [if_neg hpid, if_neg hpid]
    rcases hx : b.suspension.resume pid with ⟨r, x⟩
    rw [hx] at hcases
    rcases hcases with hmet | ⟨⟨outcome, hok, hfailed⟩, hresists⟩
    · left
      have haccount : (b.account pid).resume b.terms pid = (r, x.account pid) := hmet.symm
      rw [haccount]
      cases r with
      | error e => rfl
      | ok outcome =>
        exact Prod.ext rfl (congrArg (fun x : Suspension => x.account pid)
          (suspension_foldl_reportActive pid outcome.succeeded _))
    · right
      cases hok
      have hafter : (outcome.succeeded.foldl (fun b s => reportActive b pid s)
          { b with suspension := x }).suspension = x := suspension_foldl_reportActive ..
      refine ⟨hfailed, fun hreach => ?_⟩
      show ¬ b.hardware.Obliges (Broker.suspension (List.foldl ..)).arbitration.hardware
      rw [hafter]
      exact hresists hreach

/-- **A death ends every subscription that it goes through**, or a backend
fails. -/
theorem releaseEach_cases (pid : Pid) : ∀ (sensors : List SensorId) (b : Broker) {outcome b'},
    sensors.Nodup → (∀ s ∈ sensors, b.registry.subscription pid s ≠ none) →
      releaseEach pid sensors b = (outcome, b') →
      outcome = ⟨sensors, []⟩ ∨
        outcome.HardwareFailed ∧ Resists pid b.arbitration b'.arbitration
  | [], _, _, _, _, _, h => by
    cases h
    exact .inl rfl
  | s :: rest, b, outcome, b', hnodup, hsub, h => by
    obtain ⟨hs, hrest⟩ := List.nodup_cons.1 hnodup
    have hstep := b.arbitration.disableResult pid s
    have hkept := b.arbitration.kept_disable pid s
    have hreach := fun h : b.arbitration.Reaching pid => h.disable s
    rw [releaseEach] at h
    rcases hd : b.arbitration.disable pid s with ⟨r, a⟩
    rw [hd] at hstep hkept hreach h
    have hothers := Arbitration.subscribed_of_disable hs hsub hd
    cases hstep with
    | absent hnone => exact absurd hnone (hsub s List.mem_cons_self)
    | @ended disabled _ _ live =>
      obtain ⟨cs, hreport⟩ := (b.setArbitration a).exists_report pid s false disabled.request
      rcases hloop : releaseEach pid rest ((b.setArbitration a).report pid s false
        disabled.request) with ⟨later, b₁⟩
      simp only [hloop] at h
      cases h
      rw [hreport] at hloop
      obtain ⟨-, -, -, a', cs', hlast, rfl⟩ := releaseEach_spec pid rest _ hrest hloop
      rcases releaseEach_cases pid rest { b.setArbitration a with channels := cs } hrest hothers
        hloop with rfl | ⟨hfailed, hresists⟩
      · exact .inl rfl
      · exact .inr ⟨hfailed.append_right, hresists.between hkept hreach hlast (.refl _)⟩
    | failed live resists =>
      rcases hloop : releaseEach pid rest (b.setArbitration a) with ⟨later, b₁⟩
      simp only [hloop] at h
      cases h
      obtain ⟨-, -, -, a', cs', hlast, rfl⟩ := releaseEach_spec pid rest _ hrest hloop
      exact .inr ⟨BulkOutcome.hardwareFailed_failure .., resists.between (.refl _) id hkept hlast⟩

theorem hardware_dropRecords (b : Broker) (pid : Pid) :
    (b.dropRecords pid).hardware = b.hardware := by
  unfold dropRecords
  simp only
  split <;> rfl

/-- A death asks nothing of the hardware but to end subscriptions. -/
theorem hardware_processDeath (b : Broker) (pid : Pid) :
    (b.processDeath pid).2.hardware = (releaseEach pid (b.registry.sensorsOf pid)
      { b with suspension := (b.suspension.forget pid).2 }).2.hardware := by
  unfold processDeath
  exact (hardware_dropRecords _ pid).trans (congrArg
    (fun x : Suspension => x.arbitration.hardware) (suspension_dropSocketChannel _ pid))

theorem meets_or_fails_processDeath (b : Broker) (pid : Pid) :
    b.Meets (.processDeath pid) ∨ b.Fails (.processDeath pid) := by
  have hsnapshot : (b.processDeath pid).2.suspension.snapshots.get? pid = none := by
    rw [b.records_processDeath pid |>.2.2.2.2.2]
    exact Table.get?_erase_self ..
  have hends := (b.subscriptions_processDeath pid).2.1
  have hsensors : b.registry.sensorsOf pid = (b.account pid).live.keys :=
    b.registry.sensorsOf_eq pid
  have hsub : ∀ s ∈ b.registry.sensorsOf pid, b.registry.subscription pid s ≠ none :=
    fun s hs => Option.isSome_iff_ne_none.1 (b.registry.mem_sensorsOf_iff.1 hs)
  have houtcome : (b.processDeath pid).1 = (releaseEach pid (b.registry.sensorsOf pid)
    { b with suspension := (b.suspension.forget pid).2 }).1 := rfl
  have hhardware := b.hardware_processDeath pid
  rcases hloop : releaseEach pid (b.registry.sensorsOf pid)
    { b with suspension := (b.suspension.forget pid).2 } with ⟨outcome, b₁⟩
  rcases hdeath : b.processDeath pid with ⟨outcome', b'⟩
  rw [hdeath] at hsnapshot hends houtcome hhardware
  rw [hloop] at houtcome hhardware
  obtain rfl : outcome' = outcome := houtcome
  unfold Meets Fails ask answer Account.answer
  simp only [Ask.pid, hdeath]
  rcases releaseEach_cases pid (b.registry.sensorsOf pid)
    { b with suspension := (b.suspension.forget pid).2 } (Table.nodup_keys _) hsub hloop
    with rfl | ⟨hfailed, hresists⟩
  · left
    refine Prod.ext ?_ (Account.ext (Table.ext_get? fun s => ?_) hsnapshot)
    · rw [← hsensors]
      rfl
    · show (b'.registry.requestsOf pid).get? s = none
      rw [Registry.get?_requestsOf]
      by_cases hs : s ∈ b.registry.sensorsOf pid
      · exact hends.gone s hs
      · rw [hends.kept s hs]
        rw [Registry.mem_sensorsOf_iff] at hs
        exact Option.not_isSome_iff_eq_none.1 hs
  · right
    refine ⟨hfailed, fun hreach => ?_⟩
    show ¬ b.hardware.Obliges b'.hardware
    rw [hhardware]
    exact hresists hreach

/-- **Every request is met as the account of its process says, or fails for a
backend.** -/
theorem meets_or_fails (b : Broker) (q : Ask) : b.Meets q ∨ b.Fails q := by
  cases q with
  | enable caller s request => exact b.meets_or_fails_enable caller s request
  | disable caller s => exact b.meets_or_fails_disableFor caller.pid s
  | disableFor pid s => exact b.meets_or_fails_disableFor pid s
  | suspend pid => exact b.meets_or_fails_suspend pid
  | resume pid => exact b.meets_or_fails_resume pid
  | activeInfo pid =>
    left
    unfold Meets ask answer Account.answer Account.forPid activeInfo
    simp only [Ask.pid]
    rw [Registry.activeInfo_eq]
    split_ifs <;> rfl
  | processDeath pid => exact b.meets_or_fails_processDeath pid

/-- **A request is met as the account of its process says** while the sensors of
the process are served and no backend refuses a call. -/
theorem Reachable.meets (h : b.Reachable) {q : Ask}
    (hserved : ∀ s, b.registry.subscription q.pid s ≠ none → b.hardware.has s = true)
    (ho : b.hardware.Obliges (b.ask q).hardware) : b.Meets q :=
  (b.meets_or_fails q).resolve_right fun hfails => hfails.2 ⟨h.linked, hserved⟩ ho

theorem Meets.not_failed {q : Ask} (h : b.Meets q) : ¬ (b.answer q).1.Failed := by
  have hanswer : (b.answer q).1 = ((b.account q.pid).answer b.terms q).1 := congrArg Prod.fst h
  rw [hanswer]
  exact Account.not_failed
    (fun s request _ _ => b.arbitration.effectivePeriod_ne_hardware s request) _ q

/-! ### Requests of others -/

theorem EnablesFor.account_of_ne {b' : Broker} {caller : Identity} {s : SensorId}
    {request : Request} {r : Except ServiceError Unit} (h : b.EnablesFor caller s request r b')
    {pid : Pid} (hne : pid ≠ caller.pid) : b'.account pid = b.account pid := by
  cases h with
  | refused e restored snapshots =>
    exact account_eq (restored.subscription pid) (by rw [snapshots])
  | subscribed done registry snapshots =>
    refine account_eq (fun s' => ?_) (by rw [snapshots])
    rw [registry]
    exact Arbitration.subscription_enable_of_ne done (.inl hne)

theorem DisablesFor.account_of_ne {b' : Broker} {pid other : Pid} {s : SensorId}
    {r : Except ServiceError Unit} (h : b.DisablesFor pid s r b') (hne : other ≠ pid) :
    b'.account other = b.account other := by
  have hsnapshot := b.suspension.snapshots_discard_of_ne s hne
  refine account_eq (fun s' => h.subscription_of_ne (.inl hne)) ?_
  cases h with
  | refused => rfl
  | discarded found =>
    rw [found] at hsnapshot
    rwa [suspension_report]
  | ended none_saved done =>
    rw [none_saved] at hsnapshot
    rwa [suspension_report]
  | failed none_saved _ =>
    rw [none_saved] at hsnapshot
    exact hsnapshot

theorem account_suspend_of_ne (b : Broker) {pid other : Pid} (hne : other ≠ pid) :
    (b.suspend pid).2.account other = b.account other := by
  by_cases hpid : pid < 0
  · unfold suspend forPid
    rw [if_pos hpid]
  · obtain ⟨outcome, b', hsuspend, hspec⟩ := b.suspends_suspend hpid
    obtain ⟨hsnapshot, hsub⟩ := hspec.others other hne
    rw [hsuspend]
    exact account_eq hsub hsnapshot

theorem account_resume_of_ne (b : Broker) {pid other : Pid} (hne : other ≠ pid) :
    (b.resume pid).2.account other = b.account other := by
  have hsub := b.suspension.subscription_resume_of_ne hne
  have hsnapshot := b.suspension.snapshots_resume_of_ne hne
  unfold resume forPid
  split_ifs
  · rfl
  · rcases hx : b.suspension.resume pid with ⟨e | outcome, x⟩
    · rw [hx] at hsub hsnapshot
      exact account_eq hsub hsnapshot
    · rw [hx] at hsub hsnapshot
      have hafter : (outcome.succeeded.foldl (fun b s => reportActive b pid s)
          { b with suspension := x }).suspension = x := suspension_foldl_reportActive ..
      refine account_eq (fun s => ?_) ?_
      · rw [registry, arbitration, hafter]
        exact hsub s
      · rw [hafter]
        exact hsnapshot

/-- **A request leaves the accounts of other processes as they are**, whether a
backend fails or not. -/
theorem account_ask_of_ne (b : Broker) {q : Ask} {pid : Pid} (h : pid ≠ q.pid) :
    (b.ask q).account pid = b.account pid := by
  cases q with
  | enable caller s request => exact (b.enablesFor caller s request).account_of_ne h
  | disable caller s => exact (b.disablesFor caller.pid s).account_of_ne h
  | disableFor pid' s => exact (b.disablesFor pid' s).account_of_ne h
  | suspend pid' => exact b.account_suspend_of_ne h
  | resume pid' => exact b.account_resume_of_ne h
  | activeInfo pid' => rfl
  | processDeath pid' =>
    refine account_eq ((b.subscriptions_processDeath pid').2.2 pid h) ?_
    show (b.processDeath pid').2.suspension.snapshots.get? pid = _
    rw [b.records_processDeath pid' |>.2.2.2.2.2]
    exact Table.get?_erase_of_ne _ h

/-! ### Runs -/

/-- The terms stay as long as no mock is made or ended. -/
theorem Reachable.terms_ask (h : b.Reachable) (q : Ask) : (b.ask q).terms = b.terms :=
  Arbitration.terms_congr (b.settings_ask q) (h.equipped_ask q).has

theorem Reachable.terms_asked (h : b.Reachable) (run : List Ask) :
    (b.asked run).terms = b.terms :=
  Arbitration.terms_congr (b.settings_asked run) (h.equipped_asked run).has

/-- A run of requests of others leaves the account of a process as it is. -/
theorem account_asked_of_ne {pid : Pid} : ∀ {run : List Ask} (b : Broker),
    (∀ q ∈ run, q.pid ≠ pid) → (b.asked run).account pid = b.account pid
  | [], _, _ => rfl
  | q :: _, b, h =>
    (account_asked_of_ne (b.ask q) fun q' hq' => h q' (List.mem_cons_of_mem _ hq')).trans
      (b.account_ask_of_ne (h q List.mem_cons_self).symm)

/-- **A process has the service to itself**: in a run in which no answer to it
tells of a backend that failed, it is answered as its account is for its own
requests alone, and its account becomes what they make of it. -/
theorem Reachable.account_asked {b : Broker} (h : b.Reachable) (pid : Pid) :
    ∀ run : List Ask, (∀ x ∈ answers pid run b, ¬ x.Failed) →
      answers pid run b
          = Account.answers b.terms (run.filter fun q => q.pid = pid) (b.account pid) ∧
        (b.asked run).account pid
          = (b.account pid).asked b.terms (run.filter fun q => q.pid = pid)
  | [], _ => ⟨rfl, rfl⟩
  | q :: rest, hquiet => by
    rw [answers] at hquiet ⊢
    have hrun : b.asked (q :: rest) = (b.ask q).asked rest := rfl
    by_cases hq : q.pid = pid
    · rw [if_pos hq] at hquiet ⊢
      have hmeets := (b.meets_or_fails q).resolve_right fun hfails =>
        hquiet _ List.mem_cons_self hfails.1
      obtain ⟨hanswers, haccount⟩ := (h.ask q).account_asked pid rest fun x hx =>
        hquiet x (List.mem_cons_of_mem _ hx)
      have hnow : (b.answer q).1 = ((b.account pid).answer b.terms q).1 := by
        rw [← hq]
        exact congrArg Prod.fst hmeets
      have hthen : (b.ask q).account pid = ((b.account pid).answer b.terms q).2 := by
        rw [← hq]
        exact congrArg Prod.snd hmeets
      rw [h.terms_ask q, hthen] at hanswers haccount
      have hown : (q :: rest).filter (fun q => q.pid = pid)
          = q :: rest.filter fun q => q.pid = pid := List.filter_cons_of_pos (by simpa using hq)
      rw [hown, hrun, hanswers, haccount, hnow]
      exact ⟨rfl, rfl⟩
    · rw [if_neg hq] at hquiet ⊢
      obtain ⟨hanswers, haccount⟩ := (h.ask q).account_asked pid rest hquiet
      have hother := b.account_ask_of_ne (q := q) fun heq => hq heq.symm
      rw [h.terms_ask q, hother] at hanswers haccount
      have hown : (q :: rest).filter (fun q => q.pid = pid)
          = rest.filter fun q => q.pid = pid := List.filter_cons_of_neg (by simpa using hq)
      rw [hown, hrun]
      exact ⟨hanswers, haccount⟩

/-- In a run in which no backend refuses a call, none fails, if whoever
subscribes to a sensor when it begins subscribes to one that is served. -/
theorem Reachable.answers_not_failed {b : Broker} (h : b.Reachable) (pid : Pid) :
    ∀ run : List Ask, b.arbitration.Served → b.hardware.Obliges (b.asked run).hardware →
      ∀ x ∈ answers pid run b, ¬ x.Failed
  | [], _, _, _, hx => (List.not_mem_nil hx).elim
  | q :: rest, hserved, ho, x, hx => by
    have hfirst := h.equipped_ask q
    have hlast := (h.ask q).equipped_asked rest
    have hhead : (b.answer q).1.Failed → False :=
      (h.meets (hserved q.pid) (ho.between (.refl _) hfirst hlast)).not_failed
    have htail := (h.ask q).answers_not_failed pid rest (served_ask hserved q)
      (ho.between hfirst hlast (.refl _))
    rw [answers] at hx
    split_ifs at hx
    · rcases List.mem_cons.1 hx with rfl | hx
      · exact hhead
      · exact htail x hx
    · exact htail x hx

end Broker
end SensorBroker
