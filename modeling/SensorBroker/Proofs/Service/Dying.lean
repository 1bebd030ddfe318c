/-
# The death of a process unwinds all it had

Whatever the hardware refuses, a process that has died has no snapshot, no
channel, no identity, no token left, listens to nothing, and every session it
ever had is closed (`Broker.Unwound`). The subscriptions that the hardware
would not end are the ones the outcome names as failed, and they are as they
were; nobody else loses anything (`Broker.Dies`). It stays out of reach of
resuming until it is suspended again, and dying twice is dying once.

That its sessions are closed holds of all it ever opened, because an open
session is in one of the two records that are swept (`Broker.Orderly`).

Key definitions: `Broker.Unwound`, `Broker.Dies`.
Key theorems: `Broker.releaseEach_spec`, `Broker.dies_processDeath`,
`Broker.Reachable.processDeath_unwinds`.
-/
import SensorBroker.Proofs.Service.Orderly
import SensorBroker.Proofs.Service.Suspending

namespace SensorBroker

namespace Table

variable {κ ν : Type} [Key κ]

/-- Taking away what is not there changes nothing. -/
theorem erase_eq_self {t : Table κ ν} {k : κ} (h : t.get? k = none) : t.erase k = t := by
  refine ext_get? fun j => ?_
  by_cases hj : j = k
  · rw [hj, get?_erase_self, h]
  · rw [get?_erase_of_ne _ hj]

/-- A test that every entry passes keeps all. -/
theorem filter_eq_self {t : Table κ ν} {p : κ → ν → Bool}
    (h : ∀ k v, t.get? k = some v → p k v = true) : t.filter p = t := by
  refine ext_get? fun j => ?_
  rw [get?_filter]
  cases hj : t.get? j with
  | none => rfl
  | some v => rw [Option.filter_some, h j v hj, if_pos rfl]

end Table

theorem BulkOutcome.mem_items_append {α : Type} {o p : BulkOutcome α} {a : α} :
    a ∈ (o ++ p).items ↔ a ∈ o.items ∨ a ∈ p.items := by
  show a ∈ (o.succeeded ++ p.succeeded) ++ ((o.failed ++ p.failed).map Prod.fst) ↔ _
  unfold items failedItems
  rw [List.map_append]
  simp only [List.mem_append]
  tauto

theorem BulkOutcome.exists_of_mem_items_map {α β : Type} {f : α → β} {o : BulkOutcome α} {a : β}
    (h : a ∈ (o.map f).items) : ∃ a', a = f a' := by
  unfold items failedItems BulkOutcome.map at h
  simp only [List.map_map, List.mem_append, List.mem_map] at h
  rcases h with ⟨a', -, rfl⟩ | ⟨x, -, rfl⟩
  · exact ⟨a', rfl⟩
  · exact ⟨x.1, rfl⟩

/-! ### Without a snapshot -/

namespace Suspension

theorem subscription_resume_of_ne (x : Suspension) {pid other : Pid} (h : other ≠ pid)
    (s : SensorId) : (x.resume pid).2.arbitration.registry.subscription other s
      = x.arbitration.registry.subscription other s := by
  unfold resume
  split
  · rfl
  · exact enableEach_induction
      (P := fun a _ => a.registry.subscription other s
        = x.arbitration.registry.subscription other s) pid _
      (fun _ ha he => (Arbitration.subscription_enable_of_ne he (.inl h)).trans ha)
      (fun _ ha he => (Arbitration.subscription_enable_of_ne he (.inl h)).trans ha) rfl

/-- Resuming some processes neither changes nor names another. -/
theorem resumeEach_of_not_mem {pid : Pid} : ∀ (pids : List Pid) (x : Suspension), pid ∉ pids →
    (∀ s, (resumeEach pids x).2.arbitration.registry.subscription pid s
      = x.arbitration.registry.subscription pid s) ∧
      ∀ item ∈ (resumeEach pids x).1.items, item.1 ≠ pid
  | [], x, _ => ⟨fun _ => rfl, fun _ h => (List.not_mem_nil h).elim⟩
  | pid' :: rest, x, h => by
    obtain ⟨hne, hrest⟩ := not_or.1 fun h' => h (List.mem_cons.2 h')
    have hsame := x.subscription_resume_of_ne hne
    rw [resumeEach]
    split
    · next outcome x' hr =>
      rw [hr] at hsame
      obtain ⟨hsub, hnamed⟩ := resumeEach_of_not_mem rest x' hrest
      refine ⟨fun s => (hsub s).trans (hsame s), fun item hitem => ?_⟩
      rcases BulkOutcome.mem_items_append.1 hitem with hitem | hitem
      · obtain ⟨s, rfl⟩ := BulkOutcome.exists_of_mem_items_map hitem
        exact fun heq => hne heq.symm
      · exact hnamed item hitem
    · next hr =>
      rw [hr] at hsame
      obtain ⟨hsub, hnamed⟩ := resumeEach_of_not_mem rest _ hrest
      exact ⟨fun s => (hsub s).trans (hsame s), hnamed⟩

/-- **Only being suspended gives a process a snapshot.** -/
theorem Move.snapshot_none {grants : Pid → SensorId → Prop} {freezes : Pid → Prop}
    {drops : SensorId → Prop} {x y : Suspension} {pid : Pid}
    (m : Move grants freezes drops x y) (hno : ¬ freezes pid)
    (h : x.snapshots.get? pid = none) : y.snapshots.get? pid = none := by
  cases m with
  | @suspend pid' frozen =>
    have hne : pid ≠ pid' := fun heq => hno (heq ▸ frozen)
    unfold Suspension.suspend
    split
    · exact h
    · exact (Table.get?_insert_of_ne _ _ hne).trans h
  | resume pid' =>
    unfold Suspension.resume
    split
    · exact h
    · next saved hsaved =>
      have hne : pid ≠ pid' := fun heq => by
        rw [← heq, h] at hsaved
        cases hsaved
      exact (get?_keep_of_ne _ _ hne).trans h
  | discard pid' s =>
    unfold Suspension.discard
    split
    · exact h
    · next saved hsaved =>
      have hne : pid ≠ pid' := fun heq => by
        rw [← heq, h] at hsaved
        cases hsaved
      exact (get?_keep_of_ne _ _ hne).trans h
  | forget pid' =>
    show (x.snapshots.erase pid').get? pid = none
    rw [Table.get?_erase]
    split_ifs
    · rfl
    · exact h
  | enable _ _ | disable _ _ | call _ | inject _ | withdraw _ | raise _ | record _ => exact h

theorem Moves.snapshot_none {grants : Pid → SensorId → Prop} {freezes : Pid → Prop}
    {drops : SensorId → Prop} {x y : Suspension} {pid : Pid}
    (m : Moves grants freezes drops x y) (hno : ¬ freezes pid)
    (h : x.snapshots.get? pid = none) : y.snapshots.get? pid = none := by
  induction m with
  | refl => exact h
  | tail _ move ih => exact move.snapshot_none hno ih

end Suspension

namespace Broker

theorem snapshot_none_run {b : Broker} {pid : Pid} (h : b.suspension.snapshots.get? pid = none) :
    ∀ {ops : List Op}, (∀ op ∈ ops, ¬ op.Freezes pid) →
      (b.run ops).suspension.snapshots.get? pid = none
  | [], _ => h
  | op :: _, hno =>
    snapshot_none_run ((b.moves_step op).snapshot_none (hno op List.mem_cons_self) h)
      fun op' hop' => hno op' (List.mem_cons_of_mem _ hop')

variable {b b' : Broker} {pid : Pid}

/-- A process without a snapshot cannot be resumed. -/
theorem resume_of_snapshot_none (hpid : ¬ pid < 0) (h : b.suspension.snapshots.get? pid = none) :
    b.resume pid = (.error (.notSuspended pid), b) := by
  unfold resume forPid Suspension.resume
  rw [if_neg hpid, h]

/-! ### What a death takes away -/

/-- Nothing but subscriptions is left of a process. -/
structure Unwound (b : Broker) (pid : Pid) : Prop where
  snapshot : b.suspension.snapshots.get? pid = none
  dataChannel : b.registry.channels.get? pid = none
  socketChannel : b.directory.byPid.get? pid = none
  owner : ∀ id, b.directory.byChannel.get? id ≠ some pid
  app : b.registry.apps.get? pid = none
  listener : b.registry.listeners.get? pid = none
  token : ∀ token, b.registry.tokens.get? token ≠ some pid
  /-- Every session that the process ever had is closed. -/
  sessions : ∀ id s, b.channels.get? id = some s → s.pid = pid → s.isClosed = true

/-- A process that has neither a data channel nor a socket channel has no open
session. -/
theorem Orderly.unwound (h : b.Orderly) (snapshot : b.suspension.snapshots.get? pid = none)
    (dataChannel : b.registry.channels.get? pid = none)
    (socketChannel : b.directory.byPid.get? pid = none)
    (app : b.registry.apps.get? pid = none) (listener : b.registry.listeners.get? pid = none)
    (token : ∀ token, b.registry.tokens.get? token ≠ some pid) : b.Unwound pid where
  snapshot := snapshot
  dataChannel := dataChannel
  socketChannel := socketChannel
  owner id hid := by
    rw [h.inverse.2 hid] at socketChannel
    cases socketChannel
  app := app
  listener := listener
  token := token
  sessions id s hs hpid := by
    by_contra hopen
    have htraits : b.channels.traits? id = some (pid, false, s.maxPacketSize) := by
      rw [Channels.traits?, hs, Option.map_some, Session.traits, hpid, Bool.eq_false_iff.2 hopen]
    rcases h.held htraits with hcurrent | hlisted
    · rw [dataChannel] at hcurrent
      cases hcurrent
    · rw [socketChannel] at hlisted
      cases hlisted

/-- What the death of a process did, if this was its outcome: the process is
unwound; the outcome names each sensor once that the process subscribed to,
and those that are named as failed are the ones it still subscribes to, as it
did; all that others have is as before. -/
structure Dies (b : Broker) (pid : Pid) (outcome : BulkOutcome SensorId) (b' : Broker) :
    Prop where
  unwound : b'.Unwound pid
  once : outcome.items.Nodup
  named : ∀ s, s ∈ outcome.items ↔ (b.registry.subscription pid s).isSome = true
  left : ∀ s, b'.registry.subscription pid s =
    if s ∈ outcome.failedItems then b.registry.subscription pid s else none
  subscriptions : ∀ other, other ≠ pid → ∀ s,
    b'.registry.subscription other s = b.registry.subscription other s
  snapshots : ∀ other, other ≠ pid →
    b'.suspension.snapshots.get? other = b.suspension.snapshots.get? other
  tokens : ∀ token, b'.registry.tokens.get? token
    = (b.registry.tokens.get? token).filter fun owner => owner ≠ pid
  apps : ∀ other, other ≠ pid → b'.registry.apps.get? other = b.registry.apps.get? other
  listeners : ∀ other, other ≠ pid →
    b'.registry.listeners.get? other = b.registry.listeners.get? other
  dataChannels : ∀ other, other ≠ pid →
    b'.registry.channels.get? other = b.registry.channels.get? other
  socketChannels : ∀ other, other ≠ pid →
    b'.directory.byPid.get? other = b.directory.byPid.get? other

theorem exists_report (b : Broker) (pid : Pid) (s : SensorId) (isActive : Bool)
    (request : Request) : ∃ cs, b.report pid s isActive request = { b with channels := cs } := by
  unfold report
  split
  · exact ⟨b.channels, rfl⟩
  · exact ⟨_, rfl⟩

/-- Of what a process subscribes to, some has ended and nothing else has
changed. -/
structure Ends (sensors : List SensorId) (before after : SensorId → Option Request) : Prop where
  gone : ∀ s ∈ sensors, after s = none
  kept : ∀ s, s ∉ sensors → after s = before s

theorem Ends.nil (before : SensorId → Option Request) : Ends [] before before :=
  ⟨fun _ h => (List.not_mem_nil h).elim, fun _ _ => rfl⟩

/-- One subscription ends first, then others. -/
theorem Ends.cons {s : SensorId} {sensors : List SensorId}
    {before between after : SensorId → Option Request} (first : Ends [s] before between)
    (rest : Ends sensors between after) : Ends (s :: sensors) before after := by
  have hstays : ∀ {s'}, between s' = none → after s' = none := by
    intro s' hnone
    by_cases hmem : s' ∈ sensors
    · exact rest.gone s' hmem
    · exact (rest.kept s' hmem).trans hnone
  constructor
  · intro s' hs'
    rcases List.mem_cons.1 hs' with rfl | hmem
    · exact hstays (first.gone s' List.mem_cons_self)
    · exact rest.gone s' hmem
  · intro s' hs'
    obtain ⟨hne, hmem⟩ := not_or.1 fun h => hs' (List.mem_cons.2 h)
    exact (rest.kept s' hmem).trans (first.kept s' fun h => hne (List.mem_singleton.1 h))

theorem ends_of_disable_ok {a a' : Arbitration} {s : SensorId} {outcome : DisableOutcome}
    (hd : a.disable pid s = (.ok outcome, a')) :
    Ends [s] (a.registry.subscription pid) (a'.registry.subscription pid) := by
  refine ⟨fun s' hs' => ?_, fun s' hs' => ?_⟩
  · rw [List.mem_singleton.1 hs']
    exact Arbitration.subscription_of_disable_ok hd
  · exact Arbitration.subscription_disable_of_ne hd (.inr fun h => hs' (List.mem_singleton.2 h))

/-- **A death goes through the sensors of its process once**: the subscriptions
named as done have ended, the others are as before; and apart from arbitration
only what is on its way to listeners has changed. -/
theorem releaseEach_spec (pid : Pid) : ∀ (sensors : List SensorId) (b : Broker),
    sensors.Nodup → ∀ {outcome b'}, releaseEach pid sensors b = (outcome, b') →
      outcome.items.Perm sensors ∧
        Ends outcome.succeeded (b.registry.subscription pid) (b'.registry.subscription pid) ∧
        (∀ other, other ≠ pid → ∀ s,
          b'.registry.subscription other s = b.registry.subscription other s) ∧
        ∃ a cs, b.arbitration.Kept a ∧ b' = { b.setArbitration a with channels := cs }
  | [], b, _, _, _, h => by
    cases h
    exact ⟨.nil, .nil _, fun _ _ _ => rfl, b.arbitration, b.channels, .refl _, rfl⟩
  | s :: rest, b, hnodup, outcome, b', h => by
    obtain ⟨-, hrest⟩ := List.nodup_cons.1 hnodup
    rw [releaseEach] at h
    rcases hd : b.arbitration.disable pid s with ⟨e | disabled, a⟩
    · have hkept := Arbitration.Kept.of_disable hd
      have hsame := Arbitration.subscription_of_disable_error hd
      have hsub : a.registry.subscription pid = b.registry.subscription pid :=
        funext fun s' => hsame pid s'
      rcases hloop : releaseEach pid rest (b.setArbitration a) with ⟨later, b₁⟩
      obtain ⟨hperm, hends, hothers, a', cs, hkept', rfl⟩ :=
        releaseEach_spec pid rest (b.setArbitration a) hrest hloop
      have hothers' := fun other hne s' => (hothers other hne s').trans (hsame other s')
      have hends' : Ends later.succeeded (b.registry.subscription pid) _ := hsub ▸ hends
      rcases Arbitration.disable_error hd with ⟨hnone, rfl, -⟩ | ⟨⟨e', rfl⟩, -, -, -⟩
      · simp only [hd, hloop] at h
        cases h
        -- a subscription that had ended before counts as ended
        have hfirst : Ends [s] (b.registry.subscription pid) (b.registry.subscription pid) :=
          ⟨fun s' hs' => by rw [List.mem_singleton.1 hs']; exact hnone, fun _ _ => rfl⟩
        exact ⟨hperm.cons s, hfirst.cons hends', hothers', a', cs, hkept.trans hkept', rfl⟩
      · simp only [hd, hloop] at h
        cases h
        exact ⟨(BulkOutcome.items_failure s _ later).trans (hperm.cons s), hends', hothers', a', cs,
          hkept.trans hkept', rfl⟩
    · have hkept := Arbitration.Kept.of_disable hd
      obtain ⟨cs₀, hreport⟩ := (b.setArbitration a).exists_report pid s false disabled.request
      rcases hloop : releaseEach pid rest ((b.setArbitration a).report pid s false
        disabled.request) with ⟨later, b₁⟩
      simp only [hd, hloop] at h
      cases h
      rw [hreport] at hloop
      obtain ⟨hperm, hends, hothers, a', cs, hkept', rfl⟩ := releaseEach_spec pid rest _ hrest hloop
      refine ⟨hperm.cons s, (ends_of_disable_ok hd).cons hends, fun other hne s' => ?_, a', cs,
        hkept.trans hkept', rfl⟩
      exact (hothers other hne s').trans (Arbitration.subscription_disable_of_ne hd (.inl hne))

/-! ### A death -/

theorem registry_dropRecords (b : Broker) (pid : Pid) : (b.dropRecords pid).registry =
    { b.registry with
      channels := b.registry.channels.erase pid
      tokens := b.registry.tokens.filter fun _ owner => owner ≠ pid
      apps := b.registry.apps.erase pid
      listeners := b.registry.listeners.erase pid } := by
  unfold dropRecords Registry.destroyClient Registry.destroyChannel
  cases hold : b.registry.channels.get? pid with
  | none =>
    rw [Table.erase_eq_self hold]
    rfl
  | some id => rfl

@[simp] theorem directory_dropRecords (b : Broker) (pid : Pid) :
    (b.dropRecords pid).directory = b.directory := by
  unfold dropRecords
  simp only
  split <;> rfl

@[simp] theorem snapshots_dropRecords (b : Broker) (pid : Pid) :
    (b.dropRecords pid).suspension.snapshots = b.suspension.snapshots := by
  unfold dropRecords
  simp only
  split <;> rfl

@[simp] theorem byPid_dropSocketChannel (b : Broker) (pid : Pid) :
    (b.dropSocketChannel pid).directory.byPid = b.directory.byPid.erase pid := by
  unfold dropSocketChannel Directory.remove
  cases hold : b.directory.byPid.get? pid with
  | none =>
    rw [Table.erase_eq_self hold]
  | some id =>
    simp only
    cases b.directory.byChannel.contains id <;> rfl

@[simp] theorem registry_dropSocketChannel (b : Broker) (pid : Pid) :
    (b.dropSocketChannel pid).registry = b.registry :=
  congrArg (fun x : Suspension => x.arbitration.registry) (b.suspension_dropSocketChannel pid)

/-- What the records are after a death, but for the subscriptions. -/
theorem records_processDeath (b : Broker) (pid : Pid) :
    (b.processDeath pid).2.registry.channels = b.registry.channels.erase pid ∧
      (b.processDeath pid).2.registry.apps = b.registry.apps.erase pid ∧
      (b.processDeath pid).2.registry.listeners = b.registry.listeners.erase pid ∧
      (b.processDeath pid).2.registry.tokens
        = b.registry.tokens.filter (fun _ owner => owner ≠ pid) ∧
      (b.processDeath pid).2.directory.byPid = b.directory.byPid.erase pid ∧
      (b.processDeath pid).2.suspension.snapshots = b.suspension.snapshots.erase pid := by
  unfold processDeath
  rcases hloop : releaseEach pid
    (({ b with suspension := (b.suspension.forget pid).2 } : Broker).registry.sensorsOf pid)
    { b with suspension := (b.suspension.forget pid).2 } with ⟨outcome, b₁⟩
  obtain ⟨-, -, -, a, cs, hkept, rfl⟩ := releaseEach_spec pid _ _ (Table.nodup_keys _) hloop
  simp only [hloop, registry_dropRecords, registry_dropSocketChannel, directory_dropRecords,
    byPid_dropSocketChannel, snapshots_dropRecords, suspension_dropSocketChannel]
  have hchannels : a.registry.channels = b.registry.channels := hkept.channels
  have happs : a.registry.apps = b.registry.apps := hkept.apps
  have hlisteners : a.registry.listeners = b.registry.listeners := hkept.listeners
  have htokens : a.registry.tokens = b.registry.tokens := hkept.tokens
  refine ⟨?_, ?_, ?_, ?_, rfl, rfl⟩
  · show a.registry.channels.erase pid = _
    rw [hchannels]
  · show a.registry.apps.erase pid = _
    rw [happs]
  · show a.registry.listeners.erase pid = _
    rw [hlisteners]
  · show a.registry.tokens.filter _ = _
    rw [htokens]

/-- What the subscriptions are after a death. -/
theorem subscriptions_processDeath (b : Broker) (pid : Pid) :
    (b.processDeath pid).1.items.Perm (b.registry.sensorsOf pid) ∧
      Ends (b.processDeath pid).1.succeeded (b.registry.subscription pid)
        ((b.processDeath pid).2.registry.subscription pid) ∧
      ∀ other, other ≠ pid → ∀ s, (b.processDeath pid).2.registry.subscription other s
        = b.registry.subscription other s := by
  unfold processDeath
  rcases hloop : releaseEach pid
    (({ b with suspension := (b.suspension.forget pid).2 } : Broker).registry.sensorsOf pid)
    { b with suspension := (b.suspension.forget pid).2 } with ⟨outcome, b₁⟩
  obtain ⟨hperm, hends, hothers, -⟩ := releaseEach_spec pid _ _ (Table.nodup_keys _) hloop
  simp only [hloop, registry_dropRecords, registry_dropSocketChannel]
  exact ⟨hperm, hends, hothers⟩

/-- **A death unwinds its process**, and does nothing to others. -/
theorem Orderly.dies_processDeath (h : b.Orderly) (pid : Pid) :
    b.Dies pid (b.processDeath pid).1 (b.processDeath pid).2 := by
  have horderly : (b.processDeath pid).2.Orderly := h.step (.processDeath pid)
  obtain ⟨hchannels, happs, hlisteners, htokens, hbyPid, hsnapshots⟩ := b.records_processDeath pid
  obtain ⟨hperm, hends, hothers⟩ := b.subscriptions_processDeath pid
  have hnodup : (b.processDeath pid).1.items.Nodup := hperm.nodup_iff.2 (Table.nodup_keys _)
  have hdata : (b.processDeath pid).2.registry.channels.get? pid = none := by
    rw [hchannels, Table.get?_erase_self]
  have hsocket : (b.processDeath pid).2.directory.byPid.get? pid = none := by
    rw [hbyPid, Table.get?_erase_self]
  have hunwound : (b.processDeath pid).2.Unwound pid := by
    refine horderly.unwound ?_ hdata hsocket ?_ ?_ fun token htoken => ?_
    · rw [hsnapshots, Table.get?_erase_self]
    · rw [happs, Table.get?_erase_self]
    · rw [hlisteners, Table.get?_erase_self]
    · rw [htokens, Table.get?_filter, Option.filter_eq_some_iff] at htoken
      simp at htoken
  refine ⟨hunwound, hnodup, fun s => ?_, fun s => ?_, hothers, fun other hne => ?_,
    fun token => ?_, fun other hne => ?_, fun other hne => ?_, fun other hne => ?_,
    fun other hne => ?_⟩
  · rw [hperm.mem_iff, Registry.mem_sensorsOf_iff]
  · by_cases hdone : s ∈ (b.processDeath pid).1.succeeded
    · have hnot : s ∉ (b.processDeath pid).1.failedItems :=
        fun hfailed => (List.nodup_append.1 hnodup).2.2 s hdone s hfailed rfl
      rw [if_neg hnot, hends.gone s hdone]
    · rw [hends.kept s hdone]
      split_ifs with hfailed
      · rfl
      · have hitem : s ∉ (b.processDeath pid).1.items := fun hmem =>
          (List.mem_append.1 hmem).elim hdone hfailed
        rw [hperm.mem_iff, Registry.mem_sensorsOf_iff] at hitem
        exact Option.not_isSome_iff_eq_none.1 hitem
  · rw [hsnapshots, Table.get?_erase_of_ne _ hne]
  · rw [htokens, Table.get?_filter]
  · rw [happs, Table.get?_erase_of_ne _ hne]
  · rw [hlisteners, Table.get?_erase_of_ne _ hne]
  · rw [hchannels, Table.get?_erase_of_ne _ hne]
  · rw [hbyPid, Table.get?_erase_of_ne _ hne]

/-- Of a process that is unwound and subscribes to nothing, a death finds
nothing to do. -/
theorem Unwound.processDeath_eq (h : b.Unwound pid)
    (hsub : ∀ s, b.registry.subscription pid s = none) : b.processDeath pid = (.empty, b) := by
  have hsensors : b.registry.sensorsOf pid = [] := by
    refine List.eq_nil_iff_forall_not_mem.2 fun s hs => ?_
    rw [Registry.mem_sensorsOf_iff, hsub s] at hs
    cases hs
  have hforget : (b.suspension.forget pid).2 = b.suspension := by
    show Suspension.mk _ (b.suspension.snapshots.erase pid) = _
    rw [Table.erase_eq_self h.snapshot]
  have hsocket : b.dropSocketChannel pid = b := by
    unfold dropSocketChannel Directory.remove
    rw [h.socketChannel]
  have htokens : b.registry.tokens.filter (fun _ owner => owner ≠ pid) = b.registry.tokens := by
    refine Table.filter_eq_self fun token owner htoken => ?_
    exact decide_eq_true fun heq => h.token token (heq ▸ htoken)
  have hrecords : b.dropRecords pid = b := by
    unfold dropRecords Registry.destroyClient Registry.destroyChannel
    rw [h.dataChannel]
    simp only [htokens, Table.erase_eq_self h.app, Table.erase_eq_self h.listener]
    rfl
  unfold processDeath
  rw [hforget]
  show (BulkOutcome.mk _ _, _) = _
  simp only [hsensors, releaseEach, hsocket, hrecords]

/-- **A death unwinds all that its process had**, whatever the hardware
refuses. The process is not resumed until it is suspended again, and if the
hardware refused nothing, dying once more changes nothing. -/
theorem Reachable.processDeath_unwinds (hb : b.Reachable) (hpid : ¬ pid < 0) :
    b.Dies pid (b.processDeath pid).1 (b.processDeath pid).2 ∧
      (∀ ops : List Op, (∀ op ∈ ops, ¬ op.Freezes pid) →
        ((b.processDeath pid).2.run ops).resume pid
            = (.error (.notSuspended pid), (b.processDeath pid).2.run ops) ∧
          (∀ item ∈ ((b.processDeath pid).2.run ops).resumeAll.1.items, item.1 ≠ pid) ∧
          ∀ s, ((b.processDeath pid).2.run ops).resumeAll.2.registry.subscription pid s
            = ((b.processDeath pid).2.run ops).registry.subscription pid s) ∧
      ((b.processDeath pid).1.failed = [] →
        (b.processDeath pid).2.processDeath pid = (.empty, (b.processDeath pid).2)) := by
  have hdies := hb.orderly.dies_processDeath pid
  refine ⟨hdies, fun ops hno => ?_, fun hcomplete => ?_⟩
  · have hnone := snapshot_none_run hdies.unwound.snapshot hno
    have habsent : pid ∉ ((b.processDeath pid).2.run ops).suspension.snapshots.keys := by
      intro hmem
      obtain ⟨saved, hsaved⟩ := (Table.mem_keys_iff _).1 hmem
      rw [hnone] at hsaved
      cases hsaved
    obtain ⟨hsub, hnamed⟩ := Suspension.resumeEach_of_not_mem _ _ habsent
    exact ⟨resume_of_snapshot_none hpid hnone, hnamed, hsub⟩
  · refine hdies.unwound.processDeath_eq fun s => ?_
    have hnot : s ∉ (b.processDeath pid).1.failedItems := by
      unfold BulkOutcome.failedItems
      rw [hcomplete]
      exact List.not_mem_nil
    rw [hdies.left s, if_neg hnot]

/-- Of two processes with channels, one keeps the sensor that cannot be switched
off, and both lose everything else. -/
theorem death_keeps_one_of_two :
    ∃ b : Broker, b.Reachable ∧ b.registry.channels.get? 100 = some 0 ∧
      b.directory.byPid.get? 100 = some 1 ∧ (b.processDeath 100).2.Unwound 100 ∧
      (b.processDeath 100).1.failedItems = [⟨2⟩] ∧
      (b.processDeath 100).2.registry.subscription 100 ⟨2⟩ = some ⟨1000000, 5⟩ ∧
      (b.processDeath 100).2.registry.subscription 100 .accelerometer = none ∧
      (((b.processDeath 100).2.run [.disable ⟨100, 1000, 7⟩ ⟨2⟩, .processDeath 200]).resume 100).1
        = .error (.notSuspended 100) ∧
      (b.processDeath 200).2.processDeath 200 = (.empty, (b.processDeath 200).2) := by
  have hb := reachable_stubborn.run [.openDataChannel ⟨100, 1000, 7⟩,
    .openSocketChannel ⟨100, 1000, 7⟩, .listen ⟨100, 1000, 7⟩,
    .enable ⟨100, 1000, 7⟩ .accelerometer ⟨1000000, 5⟩, .enable ⟨100, 1000, 7⟩ ⟨2⟩ ⟨1000000, 5⟩,
    .openDataChannel ⟨200, 1000, 8⟩, .enable ⟨200, 1000, 8⟩ .accelerometer ⟨2000000, 0⟩]
  have hfirst : ¬ (100 : Pid) < 0 := by decide
  have hsecond : ¬ (200 : Pid) < 0 := by decide
  obtain ⟨hdies, hlater, -⟩ := hb.processDeath_unwinds hfirst
  obtain ⟨-, -, hagain⟩ := hb.processDeath_unwinds hsecond
  have hno : ∀ op ∈ [Op.disable ⟨100, 1000, 7⟩ ⟨2⟩, .processDeath 200], ¬ op.Freezes 100 := by
    intro op hop
    rcases List.mem_cons.1 hop with rfl | hop
    · exact id
    · rw [List.mem_singleton.1 hop]
      exact id
  refine ⟨_, hb, by decide, by decide, hdies.unwound, by decide, ?_, ?_, ?_, hagain (by decide)⟩
  · rw [hdies.left]
    decide
  · rw [hdies.left]
    decide
  · rw [(hlater _ hno).1]

end Broker
end SensorBroker
