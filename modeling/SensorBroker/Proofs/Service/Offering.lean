/-
# A channel that fails affects nobody else

An event is offered, as one frame, to some channels in turn: a sample to the
data channels of the subscribers, in order of process, the end of a flush to the
channel that the oldest request for it names (`Broker.receivers`). An offer does
something to its own channel only. If it fails for good, the channel is closed;
and if it is then the data channel of its process, it is taken away from it.

Whether an offer fails depends on the session it is made to, and on no other.
So which channels fail can be said of the state before the first offer, and what
an event does to a session, and to the data channel of a process, is one formula
in that state (`Broker.Offers`). All that is claimed of healthy channels, and of
channels that were replaced, can be read off it.

Key definitions: `Session.offered`, `Session.fails`, `Broker.Assigned`,
`Broker.receivers`, `Broker.Offers`, `Broker.Agree`.
Key theorems: `Broker.Assigned.offers_sendOn`, `Broker.Assigned.offers_sendEach`,
`Broker.Assigned.offers_route`, `Broker.Assigned.route_spares_healthy`.
-/
import SensorBroker.Proofs.Service.Routing

namespace SensorBroker

/-! ### One session -/

namespace Session

/-- Whether a session that is offered a frame fails for good. -/
def fails (s : Session) (frame : Bytes) : Bool :=
  match (s.sendFrame frame).1 with
  | .ok _ => false
  | .error e => e.isFatal

/-- A session that was offered a frame: it has sent it, or was closed if it
failed for good. -/
def offered (s : Session) (frame : Bytes) : Session :=
  if s.fails frame then (s.sendFrame frame).2.close else (s.sendFrame frame).2

@[simp] theorem pid_offered (s : Session) (frame : Bytes) : (s.offered frame).pid = s.pid := by
  have hpid : (s.sendFrame frame).2.pid = s.pid := congrArg Prod.fst (s.traits_sendFrame frame)
  unfold offered
  split_ifs
  · exact hpid
  · exact hpid

theorem isClosed_offered {s : Session} {frame : Bytes} (h : s.fails frame = true) :
    (s.offered frame).isClosed = true := by
  rw [offered, if_pos h, isClosed_close]

end Session

namespace Broker

variable {b b' b'' : Broker} {frame : Bytes} {id : ChannelId} {ids : List ChannelId} {e : Event}

/-- Whether a channel that is offered a frame fails for good. -/
def FailsOn (b : Broker) (frame : Bytes) (id : ChannelId) : Bool :=
  (b.channels.get? id).any fun s => s.fails frame

/-- The data channel of a process is a session of that process. -/
def Assigned (b : Broker) : Prop :=
  ∀ pid id, b.registry.channels.get? pid = some id →
    ∃ s, b.channels.get? id = some s ∧ s.pid = pid

/-- What offering a frame to some channels has done. -/
structure Offers (frame : Bytes) (ids : List ChannelId) (b b' : Broker) : Prop where
  /-- Each of them was offered it once, and no other session was touched. -/
  session : ∀ id, b'.channels.get? id =
    (b.channels.get? id).map fun s => if id ∈ ids then s.offered frame else s
  /-- A data channel was taken away if it is one of them and failed itself. -/
  current : ∀ pid id, b'.registry.channels.get? pid = some id ↔
    b.registry.channels.get? pid = some id ∧ ¬ (id ∈ ids ∧ b.FailsOn frame id = true)
  /-- Nothing else that is recorded has changed. -/
  registry : b'.registry = { b.registry with channels := b'.registry.channels }

/-! ### One offer -/

theorem sendOn_of_none (hnone : b.channels.get? id = none) (frame : Bytes) :
    (b.sendOn frame id).2 = b := by
  simp only [sendOn, Channels.sendFrame, Channels.act, hnone]
  rfl

theorem sendOn_of_healthy {s : Session} (hs : b.channels.get? id = some s)
    (hhealthy : s.fails frame = false) :
    (b.sendOn frame id).2 =
      { b with channels := b.channels.update id fun _ => s.offered frame } := by
  have hoffered : s.offered frame = (s.sendFrame frame).2 := by
    rw [Session.offered, if_neg (Bool.eq_false_iff.1 hhealthy)]
  rw [hoffered]
  simp only [sendOn, Channels.sendFrame, Channels.act, hs]
  rcases hsend : s.sendFrame frame with ⟨error | _, s'⟩
  · have hfatal : error.isFatal = false := by
      rw [Session.fails, hsend] at hhealthy
      exact hhealthy
    simp only [hfatal]
    rfl
  · rfl

theorem sendOn_of_fails {s : Session} (hs : b.channels.get? id = some s)
    (hfails : s.fails frame = true) :
    (b.sendOn frame id).2 =
      b.setRecords
        (if b.registry.channels.get? s.pid = some id then
          { b.registry with channels := b.registry.channels.erase s.pid } else b.registry)
        (b.channels.update id fun _ => s.offered frame) := by
  have hoffered : s.offered frame = (s.sendFrame frame).2.close := by
    rw [Session.offered, if_pos hfails]
  have hpid : (s.sendFrame frame).2.pid = s.pid := congrArg Prod.fst (s.traits_sendFrame frame)
  have hget : (b.channels.update id fun _ => (s.sendFrame frame).2).get? id =
      some (s.sendFrame frame).2 := by
    rw [Channels.get?_update_self, hs, Option.map_some]
  have hclose : (b.channels.update id fun _ => (s.sendFrame frame).2).close id =
      b.channels.update id fun _ => (s.sendFrame frame).2.close := by
    rw [Channels.close]
    cases id with
    | ofNat n => simp only [Channels.update, List.modify_modify_eq]; rfl
    | negSucc n => rfl
  rw [hoffered]
  simp only [sendOn, Channels.sendFrame, Channels.act, hs]
  rcases hsend : s.sendFrame frame with ⟨error | _, s'⟩
  · have hfatal : error.isFatal = true := by
      rw [Session.fails, hsend] at hfails
      exact hfails
    simp only [hsend] at hget hclose hpid
    simp only [hfatal, if_true, Registry.releaseIfCurrent, hget, hclose, hpid]
    split_ifs
    · rfl
    · rfl
  · rw [Session.fails, hsend] at hfails
    cases hfails

theorem Assigned.eq_of_current (h : b.Assigned) {pid pid' : Pid}
    (hid : b.registry.channels.get? pid = some id)
    (hid' : b.registry.channels.get? pid' = some id) : pid' = pid := by
  obtain ⟨s, hs, rfl⟩ := h pid id hid
  obtain ⟨s', hs', rfl⟩ := h pid' id hid'
  rw [hs] at hs'
  rw [Option.some.inj hs']

/-- An offer that does not fail for good takes no data channel away. -/
theorem current_of_healthy (hhealthy : b.FailsOn frame id = false) (pid : Pid) (other : ChannelId) :
    b.registry.channels.get? pid = some other ↔
      b.registry.channels.get? pid = some other ∧
        ¬ (other ∈ [id] ∧ b.FailsOn frame other = true) := by
  refine (and_iff_left_of_imp fun _ hboth => ?_).symm
  rw [List.mem_singleton.1 hboth.1, hhealthy] at hboth
  exact Bool.false_ne_true hboth.2

/-- What one offer does. -/
theorem Assigned.offers_sendOn (h : b.Assigned) (frame : Bytes) (id : ChannelId) :
    Offers frame [id] b (b.sendOn frame id).2 := by
  cases hs : b.channels.get? id with
  | none =>
    -- where there is no session there is nothing to do
    have hhealthy : b.FailsOn frame id = false := by rw [FailsOn, hs, Option.any_none]
    rw [sendOn_of_none hs]
    refine ⟨fun other => ?_, current_of_healthy hhealthy, rfl⟩
    by_cases hid : other = id
    · rw [hid, hs, Option.map_none]
    · simp [hid]
  | some s =>
    have hsession : ∀ other, (b.channels.update id fun _ => s.offered frame).get? other =
        (b.channels.get? other).map fun s => if other ∈ [id] then s.offered frame else s := by
      intro other
      by_cases hid : other = id
      · rw [hid, Channels.get?_update_self, hs]
        simp
      · rw [Channels.get?_update_of_ne _ _ hid]
        simp [hid]
    have hfails : b.FailsOn frame id = s.fails frame := by rw [FailsOn, hs, Option.any_some]
    cases hcase : s.fails frame with
    | false =>
      rw [sendOn_of_healthy hs hcase]
      exact ⟨hsession, current_of_healthy (hfails.trans hcase), rfl⟩
    | true =>
      rw [sendOn_of_fails hs hcase]
      have howner : ∀ {pid}, b.registry.channels.get? pid = some id → pid = s.pid := by
        intro pid hid
        obtain ⟨s', hs', rfl⟩ := h pid id hid
        rw [hs] at hs'
        rw [Option.some.inj hs']
      split_ifs with hcurrent
      · refine ⟨hsession, fun pid other => ?_, rfl⟩
        show (b.registry.channels.erase s.pid).get? pid = some other ↔ _
        by_cases hpid : pid = s.pid
        · rw [hpid, Table.get?_erase_self, hcurrent]
          refine iff_of_false nofun ?_
          rintro ⟨heq, hkept⟩
          cases heq
          exact hkept ⟨List.mem_singleton_self id, hfails.trans hcase⟩
        · rw [Table.get?_erase_of_ne _ hpid]
          refine (and_iff_left_of_imp fun hother hboth => hpid ?_).symm
          exact howner (List.mem_singleton.1 hboth.1 ▸ hother)
      · refine ⟨hsession, fun pid other => ?_, rfl⟩
        refine (and_iff_left_of_imp fun hother hboth => hcurrent ?_).symm
        have hid := List.mem_singleton.1 hboth.1 ▸ hother
        rwa [← howner hid]

/-! ### One offer after the other -/

/-- Offers leave the data channels that are left with their processes. -/
theorem Offers.assigned (hoffers : Offers frame ids b b') (h : b.Assigned) : b'.Assigned := by
  intro pid id hid
  obtain ⟨s, hs, hpid⟩ := h pid id ((hoffers.current pid id).1 hid).1
  refine ⟨_, by rw [hoffers.session, hs, Option.map_some], ?_⟩
  split_ifs
  · rw [Session.pid_offered, hpid]
  · exact hpid

/-- Whether a channel fails does not depend on what was offered to others. -/
theorem Offers.fails_of_not_mem (hoffers : Offers frame ids b b') (hid : id ∉ ids) :
    b'.FailsOn frame id = b.FailsOn frame id := by
  simp only [FailsOn, hoffers.session, hid, if_false, Option.map_id']

theorem Offers.cons (hhead : Offers frame [id] b b') (hrest : Offers frame ids b' b'')
    (hid : id ∉ ids) : Offers frame (id :: ids) b b'' where
  session other := by
    rw [hrest.session, hhead.session, Option.map_map]
    refine congrArg (Option.map · (b.channels.get? other)) (funext fun s => ?_)
    by_cases hother : other = id
    · subst hother
      simp [hid]
    · simp [hother]
  current pid other := by
    rw [hrest.current, hhead.current]
    by_cases hother : other = id
    · subst hother
      simp [hid]
    · rw [hhead.fails_of_not_mem (by simpa using hother)]
      simp [hother]
  registry := by
    rw [hrest.registry, hhead.registry]

/-- What offers to different channels do. -/
theorem Assigned.offers_sendEach (frame : Bytes) : ∀ {ids : List ChannelId} {b : Broker},
    b.Assigned → ids.Nodup → Offers frame ids b (sendEach frame ids b).2.2
  | [], b, _, _ => ⟨fun _ => by simp [sendEach], fun _ _ => by simp [sendEach], rfl⟩
  | id :: ids, b, h, hnodup => by
    obtain ⟨hid, hnodup'⟩ := List.nodup_cons.1 hnodup
    have hhead := h.offers_sendOn frame id
    have hrest := offers_sendEach frame (hhead.assigned h) hnodup'
    have hall := hhead.cons hrest hid
    rw [sendEach]
    simp only
    split
    · exact hall
    · exact hall

/-! ### One event -/

/-- An event as what clients are told of it. -/
def Notice.ofEvent (e : Event) : Notice :=
  ⟨if e.isFlushComplete then .flushComplete else .sensorEvent, e⟩

/-- The channels an event is offered to, in turn. -/
def receivers (b : Broker) (e : Event) : List ChannelId :=
  if e.isFlushComplete then ((b.flushes.of e.sensor).head?.map FlushEntry.channel).toList
  else b.registry.activeChannels e.sensor

/-- The broker before the first offer: a sample is kept, of the requests for a
flush the oldest is taken. -/
def readied (b : Broker) (e : Event) : Broker :=
  if e.isFlushComplete then { b with flushes := (b.flushes.complete e.sensor).2 }
  else b.setRegistry (b.registry.storeEvent e)

/-- To pass an event on is to offer its frame to its receivers, in turn, and to
count what came of it. -/
theorem route_eq_sendEach
    (hfits : (Notice.ofEvent e).packet.Fits b.config.transport.maxPacketSize) :
    ∃ totals, b.route e =
      { (sendEach (Notice.ofEvent e).packet.bytes (b.receivers e) (b.readied e)).2.2 with
        totals } := by
  have hframe : b.frame? (Notice.ofEvent e).message e = some (Notice.ofEvent e).packet.bytes :=
    frame?_of_fits hfits
  unfold route receivers readied
  unfold Notice.ofEvent at hframe ⊢
  split_ifs with hflush
  · rw [if_pos hflush] at hframe
    unfold deliverFlush FlushQueues.complete
    cases b.flushes.of e.sensor with
    | nil => exact ⟨_, rfl⟩
    | cons entry rest =>
      have hframe' : frame? { b with flushes := b.flushes.set e.sensor rest } .flushComplete e =
          some _ := hframe
      simp only [hframe', List.head?_cons, Option.map_some, Option.toList_some, sendEach]
      split
      · exact ⟨_, rfl⟩
      · exact ⟨_, rfl⟩
  · rw [if_neg hflush] at hframe
    unfold deliverSample
    have hframe' : (b.setRegistry (b.registry.storeEvent e)).frame? .sensorEvent e = some _ :=
      hframe
    simp only [hframe']
    exact ⟨_, rfl⟩

/-- The receivers of a sample are found by going through its subscribers in
order. -/
theorem exists_subscribers (r : Registry) (s : SensorId) :
    ∃ pids : List Pid, pids.Pairwise (fun p q => p.toInt < q.toInt) ∧
      (∀ pid, pid ∈ pids ↔ (r.subscription pid s).isSome = true) ∧
      r.activeChannels s = pids.filterMap r.channels.get? := by
  refine ⟨r.subscribers s, List.pairwise_map.2 (r.subscriptionsOf s).sorted, fun pid => ?_, rfl⟩
  rw [Registry.mem_subscribers_iff, Option.isSome_iff_exists]

/-- No channel is offered an event twice. -/
theorem Assigned.nodup_receivers (h : b.Assigned) (e : Event) : (b.receivers e).Nodup := by
  unfold receivers
  split_ifs
  · cases (b.flushes.of e.sensor).head? with
    | none => exact List.nodup_nil
    | some entry => exact List.nodup_singleton _
  · refine List.Nodup.filterMap (fun pid pid' id hid hid' => ?_) (Table.nodup_keys _)
    exact h.eq_of_current (Option.mem_def.1 hid') (Option.mem_def.1 hid)

theorem channels_readied (b : Broker) (e : Event) : (b.readied e).channels = b.channels := by
  unfold readied
  split_ifs
  · rfl
  · rfl

theorem registry_readied (b : Broker) (e : Event) :
    (b.readied e).registry =
      { b.registry with lastEvents := (b.readied e).registry.lastEvents } := by
  unfold readied
  split_ifs
  · rfl
  · rfl

/-- What an event does to the channels of a broker. -/
theorem Assigned.offers_route (h : b.Assigned)
    (hfits : (Notice.ofEvent e).packet.Fits b.config.transport.maxPacketSize) :
    Offers (Notice.ofEvent e).packet.bytes (b.receivers e) (b.readied e) (b.route e) := by
  have hcurrent : (b.readied e).registry.channels = b.registry.channels := by
    rw [registry_readied]
  have hassigned : (b.readied e).Assigned := by
    intro pid id hid
    rw [channels_readied]
    rw [hcurrent] at hid
    exact h pid id hid
  obtain ⟨totals, hroute⟩ := route_eq_sendEach hfits
  have hoffers := hassigned.offers_sendEach (Notice.ofEvent e).packet.bytes (h.nodup_receivers e)
  rw [hroute]
  exact ⟨hoffers.session, hoffers.current, hoffers.registry⟩

theorem Assigned.session_route (h : b.Assigned)
    (hfits : (Notice.ofEvent e).packet.Fits b.config.transport.maxPacketSize) (id : ChannelId) :
    (b.route e).channels.get? id = (b.channels.get? id).map fun s =>
      if id ∈ b.receivers e then s.offered (Notice.ofEvent e).packet.bytes else s := by
  rw [(h.offers_route hfits).session, channels_readied]

theorem Assigned.current_route (h : b.Assigned)
    (hfits : (Notice.ofEvent e).packet.Fits b.config.transport.maxPacketSize) (pid : Pid)
    (id : ChannelId) :
    (b.route e).registry.channels.get? pid = some id ↔
      b.registry.channels.get? pid = some id ∧
        ¬ (id ∈ b.receivers e ∧ b.FailsOn (Notice.ofEvent e).packet.bytes id = true) := by
  rw [(h.offers_route hfits).current, registry_readied, FailsOn, channels_readied]
  rfl

/-- A second broker has the same healthy channels, as data channels of the same
processes; those that fail may be in any state, or be no data channels at
all. -/
structure Agree (frame : Bytes) (b b' : Broker) : Prop where
  config : b'.config = b.config
  flushes : b'.flushes = b.flushes
  subscriptions : b'.registry.subscriptions = b.registry.subscriptions
  session : ∀ id, b.FailsOn frame id = false → b'.channels.get? id = b.channels.get? id
  current : ∀ pid id, b.FailsOn frame id = false →
    (b'.registry.channels.get? pid = some id ↔ b.registry.channels.get? pid = some id)

theorem Agree.mem_receivers_iff (hagree : Agree frame b b')
    (hhealthy : b.FailsOn frame id = false) : id ∈ b'.receivers e ↔ id ∈ b.receivers e := by
  unfold receivers
  split_ifs
  · rw [hagree.flushes]
  · have hsubscribers : b'.registry.subscribers e.sensor = b.registry.subscribers e.sensor := by
      rw [Registry.subscribers, Registry.subscriptionsOf, hagree.subscriptions]
      rfl
    simp only [Registry.activeChannels, hsubscribers, List.mem_filterMap,
      hagree.current _ id hhealthy]

/-- **A channel that fails affects nobody else.** An event is offered, as one
frame, to its receivers in turn, and to none of them twice: a sample to the
current data channels of the subscribers, by ascending process, the end of a
flush to the channel that the oldest request names. Each receiver is offered it
once, and no other session is touched. Of the data channels just those are taken
away that are receivers and failed themselves, and these are closed; so a
channel that has replaced another stays, whatever a flush that waits for the old
one meets with. No subscription changes. And a channel that does not fail is in
the same state afterwards in every broker that differs only in channels that
do. -/
theorem Assigned.route_spares_healthy (h : b.Assigned)
    (hfits : (Notice.ofEvent e).packet.Fits b.config.transport.maxPacketSize) :
    (∃ totals, b.route e =
      { (sendEach (Notice.ofEvent e).packet.bytes (b.receivers e) (b.readied e)).2.2 with
        totals }) ∧
    (b.receivers e).Nodup ∧
    (e.isFlushComplete = true →
      b.receivers e = ((b.flushes.of e.sensor).head?.map FlushEntry.channel).toList) ∧
    (e.isFlushComplete = false → ∃ pids : List Pid,
      pids.Pairwise (fun p q => p.toInt < q.toInt) ∧
      (∀ pid, pid ∈ pids ↔ (b.registry.subscription pid e.sensor).isSome = true) ∧
      b.receivers e = pids.filterMap b.registry.channels.get?) ∧
    (∀ id, (b.route e).channels.get? id = (b.channels.get? id).map fun s =>
      if id ∈ b.receivers e then s.offered (Notice.ofEvent e).packet.bytes else s) ∧
    (∀ pid id, (b.route e).registry.channels.get? pid = some id ↔
      b.registry.channels.get? pid = some id ∧
        ¬ (id ∈ b.receivers e ∧ b.FailsOn (Notice.ofEvent e).packet.bytes id = true)) ∧
    (∀ pid id, b.registry.channels.get? pid = some id →
      (b.route e).registry.channels.get? pid ≠ some id →
        (b.route e).channels.isClosed id = true) ∧
    (b.route e).registry.subscriptions = b.registry.subscriptions ∧
    ∀ b' : Broker, b'.Assigned → Agree (Notice.ofEvent e).packet.bytes b b' → ∀ id,
      b.FailsOn (Notice.ofEvent e).packet.bytes id = false →
        (b'.route e).channels.get? id = (b.route e).channels.get? id ∧
        ∀ pid, (b'.route e).registry.channels.get? pid = some id ↔
          (b.route e).registry.channels.get? pid = some id := by
  refine ⟨route_eq_sendEach hfits, h.nodup_receivers e, fun hflush => if_pos hflush, ?_,
    h.session_route hfits, h.current_route hfits, ?_, ?_, ?_⟩
  · intro hsample
    rw [receivers, if_neg (Bool.eq_false_iff.1 hsample)]
    exact exists_subscribers b.registry e.sensor
  · intro pid id hid hgone
    have hfailed : id ∈ b.receivers e ∧ b.FailsOn (Notice.ofEvent e).packet.bytes id = true := by
      by_contra hkept
      exact hgone ((h.current_route hfits pid id).2 ⟨hid, hkept⟩)
    obtain ⟨s, hs, -⟩ := h pid id hid
    have hfails : s.fails (Notice.ofEvent e).packet.bytes = true := by
      rw [← hfailed.2, FailsOn, hs, Option.any_some]
    rw [Channels.isClosed, h.session_route hfits, hs, Option.map_some, if_pos hfailed.1]
    exact Session.isClosed_offered hfails
  · rw [(h.offers_route hfits).registry, registry_readied]
  · intro b' h' hagree id hhealthy
    have hfits' : (Notice.ofEvent e).packet.Fits b'.config.transport.maxPacketSize := by
      rw [hagree.config]
      exact hfits
    have hmem : id ∈ b'.receivers e ↔ id ∈ b.receivers e := hagree.mem_receivers_iff hhealthy
    have hhealthy' : b'.FailsOn (Notice.ofEvent e).packet.bytes id = false := by
      rw [← hhealthy, FailsOn, FailsOn, hagree.session id hhealthy]
    refine ⟨?_, fun pid => ?_⟩
    · rw [h'.session_route hfits', h.session_route hfits, hagree.session id hhealthy]
      simp only [hmem]
    · rw [h'.current_route hfits', h.current_route hfits, hagree.current pid id hhealthy, hhealthy,
        hhealthy']
      simp

theorem Reachable.assigned (h : b.Reachable) : b.Assigned := by
  intro pid id hid
  have htraits := h.orderly.current hid
  rw [Channels.traits?] at htraits
  obtain ⟨s, hs, hsame⟩ := Option.map_eq_some_iff.1 htraits
  exact ⟨s, hs, congrArg Prod.fst hsame⟩

/-- Two processes subscribe, and the client of the first has left: its channel is
closed and taken away, and the second is told of the sample as if the first had
no channel. -/
theorem route_spares_listening :
    let b := trial.run [.enable ⟨100, 1000, 7⟩ .accelerometer ⟨1000000, 0⟩,
      .enable ⟨200, 1000, 8⟩ .accelerometer ⟨1000000, 0⟩, .openDataChannel ⟨100, 1000, 7⟩,
      .openDataChannel ⟨200, 1000, 8⟩, .atClient 0 .leave]
    let alone := b.setRegistry
      { b.registry with channels := b.registry.channels.erase 100 }
    let e := Event.sample .accelerometer 42 [1, 2, 3, 4]
    b.receivers e = [0, 1] ∧ b.FailsOn (Notice.ofEvent e).packet.bytes 0 = true ∧
      (b.route e).registry.channels.get? 100 = none ∧ (b.route e).channels.isClosed 0 = true ∧
      (b.route e).registry.channels.get? 200 = some 1 ∧
      (alone.route e).channels.get? 1 = (b.route e).channels.get? 1 := by
  intro b alone e
  have hassigned : b.Assigned := (reachable_trial.run _).assigned
  have hfits : (Notice.ofEvent e).packet.Fits b.config.transport.maxPacketSize := by
    decide +kernel
  have hfails : b.FailsOn (Notice.ofEvent e).packet.bytes 0 = true := by decide +kernel
  have hhealthy : b.FailsOn (Notice.ofEvent e).packet.bytes 1 = false := by decide +kernel
  have hfirst : b.registry.channels.get? 100 = some 0 := by decide +kernel
  have halone : ∀ pid id, alone.registry.channels.get? pid = some id →
      b.registry.channels.get? pid = some id := by
    intro pid id hid
    have hget : (b.registry.channels.erase 100).get? pid = some id := hid
    rw [Table.get?_erase] at hget
    split_ifs at hget
    exact hget
  have hagree : Agree (Notice.ofEvent e).packet.bytes b alone := by
    refine ⟨rfl, rfl, rfl, fun _ _ => rfl, fun pid id hid => ⟨halone pid id, fun hcurrent => ?_⟩⟩
    have hpid : pid ≠ 100 := by
      rintro rfl
      rw [hfirst] at hcurrent
      rw [← Option.some.inj hcurrent, hfails] at hid
      cases hid
    exact (Table.get?_erase_of_ne _ hpid).trans hcurrent
  obtain ⟨-, -, -, -, -, hcurrent, hclosed, -, hsame⟩ := hassigned.route_spares_healthy hfits
  have hgone : (b.route e).registry.channels.get? 100 ≠ some 0 := fun hkept =>
    ((hcurrent 100 0).1 hkept).2 ⟨by decide +kernel, hfails⟩
  have hnone : (b.route e).registry.channels.get? 100 = none := by
    cases hkept : (b.route e).registry.channels.get? 100 with
    | none => rfl
    | some id =>
      have hid := ((hcurrent 100 id).1 hkept).1
      rw [hfirst] at hid
      rw [← Option.some.inj hid] at hkept
      exact absurd hkept hgone
  refine ⟨by decide +kernel, hfails, hnone, hclosed 100 0 hfirst hgone, ?_, ?_⟩
  · exact (hcurrent 200 1).2 ⟨by decide +kernel, fun hboth => by simp [hhealthy] at hboth⟩
  · exact (hsame alone (fun pid id hid => hassigned pid id (halone pid id hid)) hagree 1 hhealthy).1

end Broker
end SensorBroker
