/-
# What a listener knows of the subscriptions

A listener that enters every report it gets into what it knew when it began to
listen (`Ledger.read`) knows the parameters of every subscription, as long as
each change is reported as it happens. Most operations do that: what they report
makes of the subscriptions before them those after (`Broker.Reflects`). Two
things go unreported (`Broker.Unreported`). Resuming all processes at once tells
listeners nothing. And where a process has a sensor in its snapshot and
subscribes to it too, disabling the sensor changes the snapshot only, but is
reported as the end of the subscription.

Key definitions: `Ledger`, `Ledger.read`, `Broker.Reflects`,
`Broker.Unreported`, `Broker.Missed`, `Broker.Attends`.
Key theorems: `Broker.Hears.reflects_step`, `Broker.reflects_run`,
`Broker.Reachable.reports_mirror`.
-/
import SensorBroker.Proofs.Service.Reporting
import SensorBroker.Proofs.Service.Withdrawing

namespace SensorBroker

open SubscriptionReport (about frames)

/-! ### Entering reports -/

/-- What is known of subscriptions: what each process asked of each sensor. -/
abbrev Ledger := Pid → SensorId → Option Request

namespace Ledger

variable {l l' : Ledger} {pid other : Pid} {s s' : SensorId} {request : Request}

/-- A report that a subscription stands sets its parameters, one that it has
ended removes it. -/
def enter (l : Ledger) (r : SubscriptionReport) : Ledger := fun pid s =>
  if pid = r.pid ∧ s = r.sensor then
    if r.isActive then some ⟨r.period, r.delay⟩ else none
  else l pid s

/-- What is known after some reports. -/
def read (l : Ledger) (reports : List SubscriptionReport) : Ledger :=
  reports.foldl enter l

theorem enter_about_self (l : Ledger) (pid : Pid) (s : SensorId) (isActive : Bool)
    (request : Request) :
    l.enter (about pid s isActive request) pid s = if isActive then some request else none :=
  if_pos ⟨rfl, rfl⟩

theorem enter_about_of_ne (l : Ledger) (isActive : Bool) (request : Request)
    (h : other ≠ pid ∨ s' ≠ s) : l.enter (about pid s isActive request) other s' = l other s' :=
  if_neg (Classical.not_and_iff_not_or_not.2 h)

theorem read_append (l : Ledger) (reports later : List SubscriptionReport) :
    l.read (reports ++ later) = (l.read reports).read later :=
  List.foldl_append

/-- What is known of a subscription after some reports depends on what was known
of this one only. -/
theorem read_congr (h : l pid s = l' pid s) (reports : List SubscriptionReport) :
    l.read reports pid s = l'.read reports pid s := by
  induction reports generalizing l l' with
  | nil => exact h
  | cons r rest ih =>
    have hentered : l.enter r pid s = l'.enter r pid s := by
      unfold enter
      rw [h]
    exact ih hentered

end Ledger

/-- Reports on some subscriptions of one process. -/
def batch (pid : Pid) (isActive : Bool) (asked : SensorId → Option Request)
    (sensors : List SensorId) : List SubscriptionReport :=
  sensors.filterMap fun s => (asked s).map (about pid s isActive)

theorem batch_cons (pid : Pid) (isActive : Bool) (asked : SensorId → Option Request)
    (s : SensorId) (sensors : List SensorId) : batch pid isActive asked (s :: sensors) =
      ((asked s).map (about pid s isActive)).toList ++ batch pid isActive asked sensors := by
  unfold batch
  cases h : asked s with
  | none => simp [h]
  | some request => simp [h]

theorem Ledger.read_batch_of_ne {pid other : Pid} {s : SensorId} (isActive : Bool)
    (asked : SensorId → Option Request) : ∀ (sensors : List SensorId) (l : Ledger),
    other ≠ pid ∨ s ∉ sensors → l.read (batch pid isActive asked sensors) other s = l other s
  | [], _, _ => rfl
  | first :: rest, l, h => by
    have hrest : other ≠ pid ∨ s ∉ rest := h.imp_right fun hmem hin =>
      hmem (List.mem_cons_of_mem _ hin)
    have hne : other ≠ pid ∨ s ≠ first := h.imp_right fun hmem heq =>
      hmem (heq ▸ List.mem_cons_self)
    rw [batch_cons, read_append, read_batch_of_ne isActive asked rest _ hrest]
    cases asked first with
    | none => rfl
    | some request => exact l.enter_about_of_ne isActive request hne

theorem Ledger.read_batch_of_mem {pid : Pid} {s : SensorId} {isActive : Bool}
    {asked : SensorId → Option Request} {request : Request} (hasked : asked s = some request) :
    ∀ {sensors : List SensorId} (l : Ledger), s ∈ sensors →
      l.read (batch pid isActive asked sensors) pid s = if isActive then some request else none
  | [], _, h => (List.not_mem_nil h).elim
  | first :: rest, l, h => by
    rw [batch_cons, read_append]
    by_cases hrest : s ∈ rest
    · exact read_batch_of_mem hasked _ hrest
    · have heq : s = first := (List.mem_cons.1 h).resolve_right hrest
      subst heq
      rw [read_batch_of_ne isActive asked rest _ (.inr hrest), hasked]
      exact l.enter_about_self pid s isActive request

/-! ### Resuming all processes -/

/-- Resuming processes one after the other subscribes those that it names as
done. -/
theorem Suspension.subscription_resumeEach {pid : Pid} {s : SensorId} : ∀ (pids : List Pid)
    {x : Suspension}, x.Restorable → (pid, s) ∉ (resumeEach pids x).1.succeeded →
      (resumeEach pids x).2.arbitration.registry.subscription pid s =
        x.arbitration.registry.subscription pid s
  | [], _, _, _ => rfl
  | first :: rest, x, h, hmem => by
    have hafter := h.resume first
    rw [resumeEach] at hmem ⊢
    rcases hx : x.resume first with ⟨e | outcome, y⟩
    · rw [hx] at hafter hmem
      exact (subscription_resumeEach rest hafter hmem).trans (by rw [eq_of_resume_error hx])
    · rw [hx] at hafter hmem
      obtain ⟨hhere, hlater⟩ : (pid, s) ∉ outcome.succeeded.map (fun s => (first, s)) ∧
          (pid, s) ∉ (resumeEach rest y).1.succeeded :=
        not_or.1 fun hor => hmem (List.mem_append.2 hor)
      obtain ⟨_, -, -, hmoved, hothers⟩ := resume_spec
        (fun s request hsaved => h.zero (.inr hsaved)) hx
      refine (subscription_resumeEach rest hafter hlater).trans ?_
      by_cases hpid : pid = first
      · subst hpid
        exact (hmoved.kept s fun hin => hhere (List.mem_map_of_mem hin)).2
      · exact (hothers pid hpid).2 s

namespace Broker

open Channels (Carries OnlyReads)

variable {b b' b'' : Broker} {listener : Pid} {id : ChannelId} {got got' : Bytes}
  {missed : Pid → SensorId → Prop}

/-! ### What a listener is told -/

/-- The client of a channel got `got` and was sent reports that make of the
subscriptions before those after, but of those that are `missed`. -/
def Reflects (id : ChannelId) (got : Bytes) (missed : Pid → SensorId → Prop) (b b' : Broker) :
    Prop :=
  ∃ reports, Carries id got (frames reports) b.channels b'.channels ∧
    ∀ pid s, ¬ missed pid s →
      Ledger.read b.registry.subscription reports pid s = b'.registry.subscription pid s

theorem Reflects.trans (first : Reflects id got missed b b')
    (second : Reflects id got' missed b' b'') : Reflects id (got ++ got') missed b b'' := by
  obtain ⟨reports, hcarries, hread⟩ := first
  obtain ⟨later, hcarries', hread'⟩ := second
  refine ⟨reports ++ later, ?_, fun pid s hpair => ?_⟩
  · rw [SubscriptionReport.frames_append]
    exact hcarries.trans hcarries'
  · rw [Ledger.read_append, ← hread' pid s hpair]
    exact Ledger.read_congr (hread pid s hpair) later

theorem Reflects.mono {more : Pid → SensorId → Prop} (h : Reflects id got missed b b')
    (hsub : ∀ pid s, missed pid s → more pid s) : Reflects id got more b b' := by
  obtain ⟨reports, hcarries, hread⟩ := h
  exact ⟨reports, hcarries, fun pid s hpair => hread pid s fun hin => hpair (hsub pid s hin)⟩

/-- Nothing is reported, and no subscription has changed that is not missed. -/
theorem reflects_of_onlyReads (reads : OnlyReads id got b.channels b'.channels)
    (same : ∀ pid s, ¬ missed pid s →
      b'.registry.subscription pid s = b.registry.subscription pid s) :
    Reflects id got missed b b' :=
  ⟨[], reads.carries, fun pid s hpair => (same pid s hpair).symm⟩

theorem reflects_of_eq (flow : b'.channels.flow? id = b.channels.flow? id)
    (same : ∀ pid s, b'.registry.subscription pid s = b.registry.subscription pid s) :
    Reflects id [] missed b b' :=
  reflects_of_onlyReads (Channels.onlyReads_of_eq flow) fun pid s _ => same pid s

theorem registry_report (b : Broker) (pid : Pid) (s : SensorId) (isActive : Bool)
    (request : Request) : (b.report pid s isActive request).registry = b.registry :=
  congrArg (fun x : Suspension => x.arbitration.registry)
    (b.suspension_report pid s isActive request)

namespace Hears

/-! ### One subscription -/

/-- A change of one subscription, and the report on it. -/
theorem reflects_report (h : b'.Hears listener id)
    (flow : b'.channels.flow? id = b.channels.flow? id) (pid : Pid) (s : SensorId)
    (isActive : Bool) (request : Request)
    (told : ¬ missed pid s →
      b'.registry.subscription pid s = if isActive then some request else none)
    (others : ∀ other s', other ≠ pid ∨ s' ≠ s →
      b'.registry.subscription other s' = b.registry.subscription other s') :
    Reflects id [] missed b (b'.report pid s isActive request) := by
  refine ⟨[about pid s isActive request],
    (Channels.carries_of_eq flow).trans (h.carries_report pid s isActive request),
    fun other s' hpair => ?_⟩
  rw [registry_report]
  by_cases hself : other = pid ∧ s' = s
  · obtain ⟨rfl, rfl⟩ := hself
    rw [told hpair]
    exact Ledger.enter_about_self _ other s' isActive request
  · have hne := Classical.not_and_iff_not_or_not.1 hself
    rw [others other s' hne]
    exact Ledger.enter_about_of_ne _ isActive request hne

/-- The flush and the last event for a process that joins a sensor are nothing
to listeners. -/
theorem join (h : b.Hears listener id) (pid : Pid) (s : SensorId) :
    ((b.flushOnJoin pid s).replay pid s).Hears listener id ∧
      ((b.flushOnJoin pid s).replay pid s).channels.flow? id = b.channels.flow? id ∧
      ((b.flushOnJoin pid s).replay pid s).registry = b.registry := by
  have hwrites : Op.dispatch.Writes := trivial
  have hshifts : Shifts .dispatch b ((b.flushOnJoin pid s).replay pid s) :=
    (b.shifts_flushOnJoin pid s).trans (shifts_replay _ hwrites pid s)
  have horderly := hshifts.orderly h.orderly
  have hne : b.registry.channels.get? pid ≠ some id := fun hcurrent => by
    have hlisted := h.orderly.contains_iff.2 ⟨listener, h.listed⟩
    rw [h.orderly.apart hcurrent] at hlisted
    cases hlisted
  obtain ⟨hw, flushes, queue, dropped, -, hflush⟩ := b.exists_flushOnJoin pid s
  obtain ⟨cs, hreplay⟩ := (b.flushOnJoin pid s).exists_replay pid s
  have hflow : ((b.flushOnJoin pid s).replay pid s).channels.flow? id = b.channels.flow? id := by
    have hflush' : (b.flushOnJoin pid s).registry.channels.get? pid ≠ some id := by
      rw [hflush]
      exact hne
    rw [flow?_replay_of_ne hflush', hflush]
    rfl
  have hboth : (b.flushOnJoin pid s).replay pid s =
      { b.setHardware hw with flushes, queue, dropped, channels := cs } := by
    rw [hreplay, hflush]
  rw [hboth] at horderly hflow ⊢
  exact ⟨⟨horderly, h.listens, h.listed, h.fits⟩, hflow, rfl⟩

theorem reflects_enable (h : b.Hears listener id) (caller : Identity) (s : SensorId)
    (request : Request) : Reflects id [] missed b (b.enable caller s request).2 := by
  have hkept := b.arbitration.kept_enable caller.pid s request
  unfold enable forPid
  split_ifs
  · exact reflects_of_eq rfl fun _ _ => rfl
  · rcases he : b.arbitration.enable caller.pid s request with ⟨e | outcome, a⟩
    · exact reflects_of_eq rfl fun pid s' => Arbitration.subscription_of_enable_error he pid s'
    · rw [he] at hkept
      have hset : (b.setArbitration a).Hears listener id := h.suspension hkept
      obtain ⟨period, _, _, -, -, -, ha, -, -⟩ := Arbitration.enable_ok he
      have hstands : a.registry.subscription caller.pid s = some ⟨period, request.delay⟩ := by
        rw [ha]
        exact b.registry.subscription_put_self caller.pid s _
      -- whether the process has joined the sensor or not, the same is reported
      have hreport : ∀ {c : Broker}, c.Hears listener id →
          c.channels.flow? id = b.channels.flow? id → c.registry = a.registry →
            Reflects id [] missed b (c.reportActive caller.pid s) := by
        intro c hc hflow hregistry
        have hfound : c.registry.subscription caller.pid s = some ⟨period, request.delay⟩ := by
          rw [hregistry, hstands]
        unfold reportActive
        rw [hfound]
        refine hc.reflects_report hflow caller.pid s true _ (fun _ => hfound) fun other s' hne => ?_
        rw [hregistry]
        exact Arbitration.subscription_enable_of_ne he hne
      simp only
      split_ifs
      · obtain ⟨hjoined, hflow, hregistry⟩ := hset.join caller.pid s
        exact hreport hjoined hflow hregistry
      · exact hreport hset rfl rfl

end Hears

/-- A process has a sensor in its snapshot and subscribes to it too. -/
def Doubled (b : Broker) (pid : Pid) (s : SensorId) : Prop :=
  b.registry.subscription pid s ≠ none ∧ b.suspension.saved pid s ≠ none

namespace DisablesFor

variable {pid : Pid} {s : SensorId} {r : Except ServiceError Unit}

theorem hears (hd : DisablesFor b pid s r b') (h : b.Hears listener id) :
    b'.Hears listener id := by
  have hsame := b.suspension.arbitration_discard pid s
  have hdisable := b.arbitration.kept_disable pid s
  cases hd with
  | refused e => exact h
  | discarded found =>
    rw [found] at hsame
    exact (h.suspension (hsame ▸ .refl b.arbitration)).report ..
  | @ended x outcome a none_saved done =>
    rw [done] at hdisable
    exact (h.suspension (x := ⟨a, x.snapshots⟩) hdisable).report ..
  | @failed x e a none_saved failure =>
    rw [failure] at hdisable
    exact h.suspension (x := ⟨a, x.snapshots⟩) hdisable

/-- Disabling a sensor for a process puts nothing into a snapshot. -/
theorem doubled (hd : DisablesFor b pid s r b') {other : Pid} {s' : SensorId}
    (h : b'.Doubled other s') : b.Doubled other s' := by
  obtain ⟨hsub, hsaved⟩ := h
  constructor
  · by_cases hself : other = pid ∧ s' = s
    · obtain ⟨rfl, rfl⟩ := hself
      rw [hd.subscription_self] at hsub
      split_ifs at hsub
      · exact absurd rfl hsub
      · exact hsub
    · rwa [hd.subscription_of_ne (Classical.not_and_iff_not_or_not.1 hself)] at hsub
  · obtain ⟨request, hrequest⟩ := Option.ne_none_iff_exists'.1 hsaved
    have hdiscard : ∀ {x : Suspension}, (b.suspension.discard pid s).2 = x →
        x.saved other s' = some request → b.suspension.saved other s' ≠ none := by
      rintro x rfl hx
      rw [Suspension.saved_of_saved_discard hx]
      exact Option.some_ne_none request
    cases hd with
    | refused e => exact hsaved
    | discarded found =>
      rw [suspension_report] at hrequest
      exact hdiscard (congrArg Prod.snd found) hrequest
    | ended none_saved _ =>
      rw [suspension_report] at hrequest
      exact hdiscard (congrArg Prod.snd none_saved) hrequest
    | failed none_saved _ => exact hdiscard (congrArg Prod.snd none_saved) hrequest

/-- **Disabling a sensor for a process is reported**, unless the process has it
in its snapshot and subscribes to it too. -/
theorem reflects (hd : DisablesFor b pid s r b') (h : b.Hears listener id)
    (hdoubled : b.Doubled pid s → missed pid s) : Reflects id [] missed b b' := by
  have hfound := b.suspension.discard_fst pid s
  have hsame := b.suspension.arbitration_discard pid s
  have hdisable := b.arbitration.kept_disable pid s
  cases hd with
  | refused e => exact reflects_of_eq rfl fun _ _ => rfl
  | @discarded saved x found =>
    rw [found] at hfound hsame
    have hx : ({ b with suspension := x } : Broker).Hears listener id :=
      h.suspension (hsame ▸ .refl b.arbitration)
    have hregistry : ({ b with suspension := x } : Broker).registry = b.registry :=
      congrArg Arbitration.registry hsame
    refine hx.reflects_report (b := b) rfl pid s false saved (fun hpair => ?_)
      fun _ _ _ => by rw [hregistry]
    rw [hregistry]
    by_contra hsub
    exact hpair (hdoubled ⟨hsub, by rw [← hfound]; exact Option.some_ne_none saved⟩)
  | @ended x outcome a none_saved done =>
    rw [done] at hdisable
    have hx : (({ b with suspension := x } : Broker).setArbitration a).Hears listener id :=
      h.suspension (x := ⟨a, x.snapshots⟩) hdisable
    exact hx.reflects_report (b := b) rfl pid s false outcome.request
      (fun _ => Arbitration.subscription_of_disable_ok done)
      fun other s' hne => Arbitration.subscription_disable_of_ne done hne
  | failed none_saved failure =>
    exact reflects_of_eq rfl fun other s' =>
      Arbitration.subscription_of_disable_error failure other s'

end DisablesFor

namespace Hears

/-! ### Many subscriptions -/

theorem reflects_disableEach (s : SensorId) : ∀ (pids : List Pid) {b : Broker},
    b.Hears listener id → (∀ pid, b.Doubled pid s → missed pid s) →
      Reflects id [] missed b (disableEach s pids b)
  | [], _, _, _ => reflects_of_eq rfl fun _ _ => rfl
  | pid :: rest, b, h, hdoubled => by
    have hd := b.disablesFor pid s
    exact (hd.reflects h (hdoubled pid)).trans
      (reflects_disableEach s rest (hd.hears h) fun other hother =>
        hdoubled other (hd.doubled hother))

theorem reflects_withdraw (h : b.Hears listener id) (s : SensorId)
    (hdoubled : b.hardware.isMocked s = true → ∀ pid, b.Doubled pid s → missed pid s) :
    Reflects id [] missed b (b.withdraw s).2 := by
  unfold withdraw
  split_ifs with hmocked
  · have heach := reflects_disableEach s (b.registry.subscribers s) h (hdoubled hmocked)
    simp only
    split
    · exact heach.trans (reflects_of_eq rfl fun _ _ => rfl)
    · exact heach.trans (reflects_of_eq rfl fun _ _ => rfl)
  · exact reflects_of_eq rfl fun _ _ => rfl

theorem reflects_releaseEach (pid : Pid) : ∀ (sensors : List SensorId) {b : Broker},
    b.Hears listener id → Reflects id [] missed b (releaseEach pid sensors b).2
  | [], _, _ => reflects_of_eq rfl fun _ _ => rfl
  | s :: rest, b, h => by
    have hkept := b.arbitration.kept_disable pid s
    rcases hd : b.arbitration.disable pid s with ⟨e | disabled, a⟩
    · rw [hd] at hkept
      have hhead : Reflects id [] missed b (b.setArbitration a) :=
        reflects_of_eq rfl fun other s' => Arbitration.subscription_of_disable_error hd other s'
      have hrest := hhead.trans (reflects_releaseEach pid rest (h.suspension hkept))
      rw [releaseEach, hd]
      cases e <;> exact hrest
    · rw [hd] at hkept
      have hset : (b.setArbitration a).Hears listener id := h.suspension hkept
      have hhead : Reflects id [] missed b
          ((b.setArbitration a).report pid s false disabled.request) :=
        hset.reflects_report (b := b) rfl pid s false disabled.request
          (fun _ => Arbitration.subscription_of_disable_ok hd)
          fun other s' hne => Arbitration.subscription_disable_of_ne hd hne
      rw [releaseEach, hd]
      exact hhead.trans (reflects_releaseEach pid rest (hset.report ..))

theorem reflects_processDeath (h : b.Hears listener id) (pid : Pid) :
    Reflects id [] missed b (b.processDeath pid).2 := by
  have hforget : ({ b with suspension := (b.suspension.forget pid).2 } : Broker).Hears
      listener id := h.suspension (.refl b.arbitration)
  have hreleased : Reflects id [] missed b (releaseEach pid
      (b.registry.sensorsOf pid) { b with suspension := (b.suspension.forget pid).2 }).2 :=
    reflects_releaseEach pid _ hforget
  unfold processDeath
  refine hreleased.trans (reflects_of_eq ?_ fun other s => ?_)
  · exact (flow?_dropRecords _ pid id).trans (flow?_dropSocketChannel _ pid id)
  · simp only [registry_dropRecords, registry_dropSocketChannel]
    rfl

theorem reflects_clientDied (h : b.Hears listener id) (token : Token) :
    Reflects id [] missed b (b.clientDied token).2 := by
  unfold clientDied
  split
  · exact reflects_of_eq rfl fun _ _ => rfl
  · next pid r heq =>
    have hr : (b.registry.dropToken token).2 = r := congrArg Prod.snd heq
    have hforget : (b.setRegistry (b.registry.dropToken token).2).Hears listener id :=
      h.congr rfl rfl rfl (fun _ => rfl) rfl rfl
    rw [hr] at hforget
    have hsame : ∀ other s, (b.setRegistry r).registry.subscription other s =
        b.registry.subscription other s := fun _ _ => by rw [← hr]; rfl
    have hhead : Reflects id [] missed b (b.setRegistry r) := reflects_of_eq rfl hsame
    have hdied : Reflects id [] missed b ((b.setRegistry r).processDeath pid).2 :=
      hhead.trans (hforget.reflects_processDeath pid)
    exact hdied

theorem reflects_hangUp (h : b.Hears listener id) (other : ChannelId) :
    Reflects id [] missed b (b.hangUp other) := by
  unfold hangUp
  split
  · exact reflects_of_eq rfl fun _ _ => rfl
  · next s _ =>
    split_ifs
    · exact h.reflects_processDeath s.pid
    · exact reflects_of_eq (flow?_remove b.directory b.channels s.pid id) fun _ _ => rfl
    · exact reflects_of_eq rfl fun _ _ => rfl

theorem reflects_poll (h : b.Hears listener id) (other : ChannelId) :
    Reflects id [] missed b (b.poll other) := by
  unfold poll
  split
  · exact reflects_of_eq rfl fun _ _ => rfl
  · next ws _ =>
    have hread : ({ b with
        watchers := some (ws.poll b.channels other).2.2.1
        channels := (ws.poll b.channels other).2.2.2 } : Broker).Hears listener id :=
      h.congr rfl rfl rfl (ws.traits?_poll b.channels other) rfl rfl
    have hhead : Reflects id [] missed b { b with
        watchers := some (ws.poll b.channels other).2.2.1
        channels := (ws.poll b.channels other).2.2.2 } :=
      reflects_of_eq (ws.flow?_poll b.channels other id) fun _ _ => rfl
    simp only
    split_ifs
    · exact hhead.trans (hread.reflects_hangUp other)
    · exact hhead

/-! ### Suspending and resuming -/

theorem carries_reportSuspended (pid : Pid) (saved : Snapshot) : ∀ (sensors : List SensorId)
    {b : Broker}, b.Hears listener id →
      Carries id [] (frames (batch pid false saved.get? sensors)) b.channels
        (reportSuspended pid saved sensors b).channels
  | [], _, _ => Channels.carries_of_eq rfl
  | s :: rest, b, h => by
    rw [reportSuspended, batch_cons, SubscriptionReport.frames_append]
    cases saved.get? s with
    | none => exact carries_reportSuspended pid saved rest h
    | some request =>
      exact (h.carries_report pid s false request).trans
        (carries_reportSuspended pid saved rest (h.report pid s false request))

theorem carries_foldl_reportActive (pid : Pid) : ∀ (sensors : List SensorId) {b : Broker},
    b.Hears listener id →
      Carries id [] (frames (batch pid true (b.registry.subscription pid) sensors)) b.channels
        (sensors.foldl (fun b s => b.reportActive pid s) b).channels
  | [], _, _ => Channels.carries_of_eq rfl
  | s :: rest, b, h => by
    rw [List.foldl_cons, batch_cons, SubscriptionReport.frames_append]
    have hhead : Carries id [] (frames
        ((b.registry.subscription pid s).map (about pid s true)).toList) b.channels
          (b.reportActive pid s).channels ∧ (b.reportActive pid s).Hears listener id := by
      unfold reportActive
      cases b.registry.subscription pid s with
      | none => exact ⟨Channels.carries_of_eq rfl, h⟩
      | some request => exact ⟨h.carries_report pid s true request, h.report pid s true request⟩
    have hrest := carries_foldl_reportActive pid rest hhead.2
    rw [registry_reportActive] at hrest
    exact hhead.1.trans hrest

theorem reflects_suspend (h : b.Hears listener id) (pid : Pid) :
    Reflects id [] missed b (b.suspend pid).2 := by
  have hkept := b.suspension.kept_suspend pid
  unfold suspend forPid
  split_ifs
  · exact reflects_of_eq rfl fun _ _ => rfl
  · rcases hx : b.suspension.suspend pid with ⟨outcome, x⟩
    rw [hx] at hkept
    obtain ⟨hperm, hmoved, hothers⟩ := Suspension.suspend_spec hx
    have hset : ({ b with suspension := x } : Broker).Hears listener id := h.suspension hkept
    refine ⟨batch pid false (x.snapshots.getD pid ∅).get? outcome.succeeded,
      carries_reportSuspended pid _ _ hset, fun other s _ => ?_⟩
    rw [show (reportSuspended pid (x.snapshots.getD pid ∅) outcome.succeeded
      { b with suspension := x }).registry = x.arbitration.registry from
        congrArg (fun x : Suspension => x.arbitration.registry)
          (suspension_reportSuspended pid _ _ _), Suspension.getD_get?_eq_saved]
    by_cases hother : other = pid
    · subst hother
      by_cases hmem : s ∈ outcome.succeeded
      · obtain ⟨hgone, hsaved⟩ := hmoved.gone s hmem
        have hwas := (b.suspension.mem_suspendable_iff.1
          (hperm.mem_iff.1 (BulkOutcome.mem_items_of_succeeded hmem))).1
        obtain ⟨request, hrequest⟩ := Option.isSome_iff_exists.1 hwas
        rw [hgone]
        exact Ledger.read_batch_of_mem (hsaved.trans hrequest) _ hmem
      · rw [(hmoved.kept s hmem).1]
        exact Ledger.read_batch_of_ne false _ _ _ (.inr hmem)
    · rw [(hothers other hother).2 s]
      exact Ledger.read_batch_of_ne false _ _ _ (.inl hother)

theorem reflects_resume (h : b.Hears listener id) (hrestorable : b.suspension.Restorable)
    (pid : Pid) : Reflects id [] missed b (b.resume pid).2 := by
  have hkept := b.suspension.kept_resume pid
  unfold resume forPid
  split_ifs
  · exact reflects_of_eq rfl fun _ _ => rfl
  · rcases hx : b.suspension.resume pid with ⟨e | outcome, x⟩
    · exact reflects_of_eq rfl fun _ _ => by rw [Suspension.eq_of_resume_error hx]
    · rw [hx] at hkept
      obtain ⟨snapshot, hsnapshot, hperm, hmoved, hothers⟩ := Suspension.resume_spec
        (fun s request hsaved => hrestorable.zero (.inr hsaved)) hx
      have hset : ({ b with suspension := x } : Broker).Hears listener id := h.suspension hkept
      refine ⟨batch pid true (x.arbitration.registry.subscription pid) outcome.succeeded,
        carries_foldl_reportActive pid _ hset, fun other s _ => ?_⟩
      rw [show (outcome.succeeded.foldl (fun (b : Broker) s => b.reportActive pid s)
        { b with suspension := x }).registry = x.arbitration.registry from
          congrArg (fun x : Suspension => x.arbitration.registry)
            (suspension_foldl_reportActive pid _ _)]
      by_cases hother : other = pid
      · subst hother
        by_cases hmem : s ∈ outcome.succeeded
        · obtain ⟨-, hback⟩ := hmoved.gone s hmem
          obtain ⟨request, hrequest⟩ := (Table.mem_keys_iff _).1
            (hperm.mem_iff.1 (BulkOutcome.mem_items_of_succeeded hmem))
          have hstands : x.arbitration.registry.subscription other s = some request := by
            rw [hback, Suspension.saved, hsnapshot, Option.bind_some, hrequest]
          rw [hstands]
          exact Ledger.read_batch_of_mem hstands _ hmem
        · rw [(hmoved.kept s hmem).2]
          exact Ledger.read_batch_of_ne true _ _ _ (.inr hmem)
      · rw [(hothers other hother).2 s]
        exact Ledger.read_batch_of_ne true _ _ _ (.inl hother)

end Hears

/-! ### Every operation -/

/-- A change of a subscription that an operation does not report, or an end that
it reports and that is none. -/
def Unreported (b : Broker) : Op → Pid → SensorId → Prop
  | .disable caller s', pid, s => caller.pid = pid ∧ s' = s ∧ b.Doubled pid s
  | .disableFor pid' s', pid, s => pid' = pid ∧ s' = s ∧ b.Doubled pid s
  | .withdraw s', pid, s => s' = s ∧ b.hardware.isMocked s = true ∧ b.Doubled pid s
  | .resumeAll, pid, s => (pid, s) ∈ b.resumeAll.1.succeeded
  | _, _, _ => False

/-- **What an operation reports makes of the subscriptions before it those
after**, but of those that it leaves unreported. -/
theorem Hears.reflects_step (h : b.Hears listener id) (hrestorable : b.suspension.Restorable)
    (op : Op) : Reflects id (b.received id (.op op)) (b.Unreported op) b (b.step op) := by
  by_cases hchanges : op.Changes
  · cases op with
    | enable caller s request => exact h.reflects_enable caller s request
    | disable caller s =>
      exact (b.disablesFor caller.pid s).reflects h fun hdoubled => ⟨rfl, rfl, hdoubled⟩
    | disableFor pid s =>
      exact (b.disablesFor pid s).reflects h fun hdoubled => ⟨rfl, rfl, hdoubled⟩
    | suspend pid => exact h.reflects_suspend pid
    | resume pid => exact h.reflects_resume hrestorable pid
    | resumeAll =>
      exact reflects_of_onlyReads (Channels.onlyReads_of_eq rfl) fun pid s hpair =>
        Suspension.subscription_resumeEach _ hrestorable hpair
    | withdraw s =>
      exact h.reflects_withdraw s fun hmocked _ hdoubled => ⟨rfl, hmocked, hdoubled⟩
    | processDeath pid => exact h.reflects_processDeath pid
    | clientDied token => exact h.reflects_clientDied token
    | poll other => exact h.reflects_poll other
    | _ => exact hchanges.elim
  · have hunnoticed := h.unnoticed_step hchanges
    exact reflects_of_onlyReads hunnoticed.reads fun pid s _ => hunnoticed.subscription pid s

/-! ### Runs -/

/-- A process listens before each operation of a run, and a channel is its socket
channel. -/
def Attends (listener : Pid) (id : ChannelId) : List Op → Broker → Prop
  | [], _ => True
  | op :: rest, b => (b.registry.listeners.contains listener = true ∧
      b.directory.byPid.get? listener = some id) ∧ Attends listener id rest (b.step op)

instance decidableAttends (listener : Pid) (id : ChannelId) : ∀ (ops : List Op) (b : Broker),
    Decidable (Attends listener id ops b)
  | [], _ => .isTrue trivial
  | op :: rest, b => @instDecidableAnd _ _ _ (decidableAttends listener id rest (b.step op))

/-- A subscription that an operation of a run leaves unreported. -/
def Missed : List Op → Broker → Pid → SensorId → Prop
  | [], _, _, _ => False
  | op :: rest, b, pid, s => b.Unreported op pid s ∨ Missed rest (b.step op) pid s

theorem config_step (h : b.Orderly) (op : Op) : (b.step op).config = b.config :=
  (b.shifts_step op h.serves_apart).config

/-- **What is reported in a run makes of the subscriptions before it those
after**, but of those that are missed. -/
theorem reflects_run : ∀ (ops : List Op) {b : Broker}, b.Reachable → Attends listener id ops b →
    (∀ r : SubscriptionReport, r.packet.Fits b.config.transport.maxPacketSize) →
    Reflects id (b.along (received id) (ops.map .op)) (Missed ops b) b (b.run ops)
  | [], _, _, _, _ => reflects_of_eq rfl fun _ _ => rfl
  | op :: rest, b, h, ⟨⟨hlistens, hlisted⟩, hattends⟩, hfits => by
    have hhears : b.Hears listener id := ⟨h.orderly, hlistens, hlisted, hfits⟩
    have hhead := (hhears.reflects_step h.restorable op).mono fun pid s hpair =>
      (.inl hpair : Missed (op :: rest) b pid s)
    have hrest := (reflects_run rest (h.step op) hattends (by
      rw [config_step h.orderly op]
      exact hfits)).mono fun pid s hpair => (.inr hpair : Missed (op :: rest) b pid s)
    exact hhead.trans hrest

/-- **What a listener knows of the subscriptions.** Let a process listen throughout
a run, on one socket channel that takes frames as long as those of reports. If no
send on the channel fails, its client has been sent the frames of reports and
nothing else; and entered into what was subscribed when the run began, these give
what is subscribed now, but for what the run has left unreported. As every
beginning of a run is a run, that is so after each of its operations. -/
theorem Reachable.reports_mirror (h : b.Reachable) {ops : List Op}
    (hattends : Attends listener id ops b)
    (hfits : ∀ r : SubscriptionReport, r.packet.Fits b.config.transport.maxPacketSize)
    {s : Session} (hs : b.channels.get? id = some s) :
    ∃ s', (b.run ops).channels.get? id = some s' ∧
      (s'.counters.sendFailures = s.counters.sendFailures → ∃ sent : Bytes,
        b.along (received id) (ops.map .op) ++ s'.outgoing = s.outgoing ++ sent ∧
        sent = frames (reportsIn b.config.transport.maxPacketSize sent) ∧
        ∀ pid sensor, ¬ Missed ops b pid sensor →
          Ledger.read b.registry.subscription
            (reportsIn b.config.transport.maxPacketSize sent) pid sensor =
              (b.run ops).registry.subscription pid sensor) := by
  obtain ⟨reports, hcarries, hread⟩ := reflects_run ops h hattends hfits
  have hflow : b.channels.flow? id = some s.flow := congrArg (Option.map Session.flow) hs
  obtain ⟨f', hf', -, hstream⟩ := hcarries s.flow hflow
  obtain ⟨s', hs', rfl⟩ := Option.map_eq_some_iff.1 hf'
  refine ⟨s', hs', fun hnone => ⟨frames reports, hstream hnone, ?_, ?_⟩⟩
  · rw [reportsIn_frames hfits]
  · rw [reportsIn_frames hfits]
    exact hread

/-- The trial broker, with a process that listens on its socket channel. -/
def listening : Broker :=
  trial.run [.openSocketChannel ⟨300, 1000, 9⟩, .listen ⟨300, 1000, 9⟩]

theorem reachable_listening : listening.Reachable :=
  reachable_trial.run _

/-- A process subscribes, is suspended and resumed, and the listener, which has
read a little, knows what it subscribes to. -/
theorem mirrored_after_resume :
    let ops : List Op := [.enable ⟨100, 1000, 7⟩ .accelerometer ⟨1000000, 0⟩,
      .atClient 0 (.read 40), .suspend 100, .resume 100]
    ∃ sent : Bytes, (∃ s', (listening.run ops).channels.get? 0 = some s' ∧
        listening.along (received 0) (ops.map .op) ++ s'.outgoing = sent) ∧
      Ledger.read listening.registry.subscription
        (reportsIn listening.config.transport.maxPacketSize sent) 100 .accelerometer =
          some ⟨1000000, 0⟩ := by
  intro ops
  have hattends : Attends 300 0 ops listening := by decide +kernel
  have hfits : ∀ r : SubscriptionReport,
      r.packet.Fits listening.config.transport.maxPacketSize :=
    SubscriptionReport.fits_packet (by decide +kernel)
  have hbefore : listening.channels.flow? 0 = some ([], 0) := by decide +kernel
  have hafter : ((listening.run ops).channels.flow? 0).map Prod.snd = some 0 := by decide +kernel
  have hmissed : ¬ Missed ops listening 100 .accelerometer := by
    simp [ops, Missed, Unreported]
  obtain ⟨s, hs, hflow⟩ := Option.map_eq_some_iff.1 hbefore
  obtain ⟨s', hs', hsent⟩ := reachable_listening.reports_mirror hattends hfits hs
  rw [Channels.flow?, hs'] at hafter
  have hnone : s'.counters.sendFailures = s.counters.sendFailures :=
    (Option.some.inj hafter).trans (congrArg Prod.snd hflow).symm
  obtain ⟨sent, hstream, -, hread⟩ := hsent hnone
  have hempty : s.outgoing = [] := congrArg Prod.fst hflow
  rw [hempty, List.nil_append] at hstream
  refine ⟨sent, ⟨s', hs', hstream⟩, (hread 100 .accelerometer hmissed).trans ?_⟩
  decide +kernel

/-- A listener is sent all that is reported and still does not know that a
process subscribes which was resumed with all others, or which enabled a sensor
again while it was suspended and then asked for its end. -/
theorem not_mirrored_after_resumeAll : listening.Reachable ∧
    (∃ ops sent, Attends 300 0 ops listening ∧ listening.along (received 0) (ops.map .op) = [] ∧
      listening.channels.flow? 0 = some ([], 0) ∧
      (listening.run ops).channels.flow? 0 = some (sent, 0) ∧
      Ledger.read listening.registry.subscription
        (reportsIn listening.config.transport.maxPacketSize sent) 100 .accelerometer = none ∧
      (listening.run ops).registry.subscription 100 .accelerometer = some ⟨1000000, 0⟩) ∧
    ∃ ops sent, Attends 300 0 ops listening ∧ listening.along (received 0) (ops.map .op) = [] ∧
      listening.channels.flow? 0 = some ([], 0) ∧
      (listening.run ops).channels.flow? 0 = some (sent, 0) ∧
      Ledger.read listening.registry.subscription
        (reportsIn listening.config.transport.maxPacketSize sent) 100 .accelerometer = none ∧
      (listening.run ops).registry.subscription 100 .accelerometer = some ⟨2000000, 0⟩ := by
  have hfits : ∀ r : SubscriptionReport,
      r.packet.Fits listening.config.transport.maxPacketSize :=
    SubscriptionReport.fits_packet (by decide +kernel)
  refine ⟨reachable_listening, ?_, ?_⟩
  · refine ⟨[.enable ⟨100, 1000, 7⟩ .accelerometer ⟨1000000, 0⟩, .suspend 100, .resumeAll],
      frames [about 100 .accelerometer true ⟨1000000, 0⟩,
        about 100 .accelerometer false ⟨1000000, 0⟩],
      by decide +kernel, rfl, by decide +kernel, by decide +kernel, ?_, by decide +kernel⟩
    rw [reportsIn_frames hfits]
    decide +kernel
  · refine ⟨[.enable ⟨100, 1000, 7⟩ .accelerometer ⟨1000000, 0⟩, .suspend 100,
        .enable ⟨100, 1000, 7⟩ .accelerometer ⟨2000000, 0⟩, .disable ⟨100, 1000, 7⟩ .accelerometer],
      frames [about 100 .accelerometer true ⟨1000000, 0⟩,
        about 100 .accelerometer false ⟨1000000, 0⟩, about 100 .accelerometer true ⟨2000000, 0⟩,
        about 100 .accelerometer false ⟨1000000, 0⟩],
      by decide +kernel, rfl, by decide +kernel, by decide +kernel, ?_, by decide +kernel⟩
    rw [reportsIn_frames hfits]
    decide +kernel

end Broker
end SensorBroker
