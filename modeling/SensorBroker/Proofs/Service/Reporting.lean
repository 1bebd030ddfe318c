/-
# What a listener is sent

A listener with a socket channel is sent the frame of every report once, as no
two processes have one socket channel (`Broker.Hears.carries_report`). What its
client can take out of the bytes it was sent are the reports (`reportsIn`).

Nothing else is written on a socket channel: events go to data channels, and
opening and closing channels adds to the flow of none. So an operation that
changes no subscription leaves what is on its way to a listener alone
(`Broker.Hears.unnoticed_step`).

Key definitions: `reportsIn`, `Broker.Hears`, `Broker.Op.Changes`,
`Broker.Unnoticed`.
Key theorems: `reportsIn_frames`, `Broker.Hears.carries_report`,
`Broker.Hears.unnoticed_step`.
-/
import SensorBroker.Proofs.Service.Joining
import SensorBroker.Proofs.Wire.PassLimit

namespace SensorBroker

/-! ### The reports in some bytes -/

namespace SubscriptionReport

/-- A report on a subscription with some parameters. -/
def about (pid : Pid) (s : SensorId) (isActive : Bool) (request : Request) : SubscriptionReport :=
  ⟨pid, s, isActive, request.period, request.delay⟩

/-- The frames of reports, one after the other. -/
def frames (reports : List SubscriptionReport) : Bytes :=
  stream (reports.map packet)

theorem frames_append (reports later : List SubscriptionReport) :
    frames (reports ++ later) = frames reports ++ frames later := by
  rw [frames, List.map_append, stream_append]
  rfl

theorem frames_singleton (r : SubscriptionReport) : frames [r] = r.packet.bytes :=
  List.append_nil r.packet.bytes

end SubscriptionReport

/-- The reports among the whole frames that some bytes begin with. -/
def reportsIn (max : UInt32) (bs : Bytes) : List SubscriptionReport :=
  (divide max bs).1.filterMap SubscriptionReport.ofPacket?

/-- **The frames of reports hold just these reports.** -/
theorem reportsIn_frames {max : UInt32} (fits : ∀ r : SubscriptionReport, r.packet.Fits max)
    (reports : List SubscriptionReport) :
    reportsIn max (SubscriptionReport.frames reports) = reports := by
  have hnone : ∀ p rest, Front.of max [] ≠ .whole p rest := fun p rest h => by
    rw [(unfinished_nil max).front] at h
    cases h
  have hfits : ∀ p ∈ reports.map SubscriptionReport.packet, p.Fits max := fun p hp => by
    obtain ⟨r, -, rfl⟩ := List.mem_map.1 hp
    exact fits r
  have hdivide := divide_stream_append hnone hfits
  rw [List.append_nil] at hdivide
  have hback : SubscriptionReport.ofPacket? ∘ SubscriptionReport.packet = some :=
    funext SubscriptionReport.ofPacket?_packet
  rw [reportsIn, SubscriptionReport.frames, hdivide, List.filterMap_map, hback, List.filterMap_some]

/-! ### To many channels -/

namespace Directory

open Channels (Carries)

variable {d : Directory} {id : ChannelId}

/-- A frame is sent to the first channel, then to the others. -/
theorem sendEach_cons (d : Directory) (frame : Bytes) (first : ChannelId) (rest : List ChannelId)
    (cs : Channels) : (d.sendEach frame (first :: rest) cs).2 =
      (d.sendEach frame rest (d.sendFrame cs first frame).2).2 := by
  rw [sendEach]
  split
  · next h => rw [h]
  · next h => rw [h]

theorem sendFrame_of_ne (d : Directory) (cs : Channels) (frame : Bytes) {first : ChannelId}
    (hne : id ≠ first) : (d.sendFrame cs first frame).2.flow? id = cs.flow? id ∧
      (d.sendFrame cs first frame).2.traits? id = cs.traits? id := by
  unfold sendFrame
  split_ifs
  · exact ⟨cs.flow?_act_of_ne _ hne, cs.traits?_sendFrame first frame id⟩
  · exact ⟨rfl, rfl⟩

theorem flow?_sendEach_of_not_mem (d : Directory) (frame : Bytes) : ∀ (ids : List ChannelId)
    (cs : Channels), id ∉ ids → (d.sendEach frame ids cs).2.flow? id = cs.flow? id
  | [], _, _ => rfl
  | first :: rest, cs, h => by
    obtain ⟨hne, hmem⟩ := not_or.1 fun h' => h (List.mem_cons.2 h')
    rw [sendEach_cons, flow?_sendEach_of_not_mem d frame rest _ hmem]
    exact (d.sendFrame_of_ne cs frame hne).1

/-- **Of channels that are all different, each socket channel is sent the frame
once.** -/
theorem carries_sendEach {pid : Pid} {max : UInt32} (frame : Bytes)
    (hlisted : d.contains id = true) : ∀ (ids : List ChannelId) {cs : Channels}, ids.Nodup →
      id ∈ ids → cs.traits? id = some (pid, false, max) →
        Carries id [] frame cs (d.sendEach frame ids cs).2
  | [], _, _, hmem, _ => (List.not_mem_nil hmem).elim
  | first :: rest, cs, hnodup, hmem, hopen => by
    obtain ⟨hfresh, hnodup'⟩ := List.nodup_cons.1 hnodup
    rw [sendEach_cons]
    by_cases hid : id = first
    · subst hid
      have hhead : Carries id [] frame cs (d.sendFrame cs id frame).2 := by
        rw [sendFrame, if_pos hlisted]
        exact Channels.carries_sendFrame hopen frame
      have hrest := Channels.carries_of_eq
        (flow?_sendEach_of_not_mem d frame rest (d.sendFrame cs id frame).2 hfresh)
      simpa only [List.append_nil] using hhead.trans hrest
    · obtain ⟨hflow, htraits⟩ := d.sendFrame_of_ne cs frame hid
      have hin : id ∈ rest := (List.mem_cons.1 hmem).resolve_left hid
      exact (Channels.carries_of_eq hflow).trans
        (carries_sendEach frame hlisted rest hnodup' hin (htraits.trans hopen))

end Directory

namespace Broker

open Channels (Carries OnlyReads)

variable {b b' : Broker} {listener : Pid} {id : ChannelId}

/-! ### A listener -/

/-- A process that listens, and its socket channel, which takes frames as long as
those of reports. -/
structure Hears (listener : Pid) (id : ChannelId) (b : Broker) : Prop where
  orderly : b.Orderly
  listens : b.registry.listeners.contains listener = true
  listed : b.directory.byPid.get? listener = some id
  fits : ∀ r : SubscriptionReport, r.packet.Fits b.config.transport.maxPacketSize

/-- No two listeners have one channel. -/
theorem Orderly.nodup_listenerChannels (h : b.Orderly) : b.listenerChannels.Nodup := by
  refine List.Nodup.filterMap (fun pid pid' id hid hid' => ?_) (Table.nodup_keys _)
  have howner := h.inverse.1 (Option.mem_def.1 hid)
  rw [h.inverse.1 (Option.mem_def.1 hid')] at howner
  exact (Option.some.inj howner).symm

namespace Hears

theorem mem_listenerChannels (h : b.Hears listener id) : id ∈ b.listenerChannels :=
  List.mem_filterMap.2 ⟨listener, (Table.contains_iff _).1 h.listens, h.listed⟩

/-- What changes no record of a channel and no listener. -/
theorem congr (h : b.Hears listener id) (config : b'.config = b.config)
    (channels : b'.registry.channels = b.registry.channels)
    (listeners : b'.registry.listeners = b.registry.listeners)
    (traits : ∀ other, b'.channels.traits? other = b.channels.traits? other)
    (directory : b'.directory = b.directory) (flushes : b'.flushes = b.flushes) :
    b'.Hears listener id where
  orderly := h.orderly.congr config channels traits directory (by rw [flushes]; exact .inl)
  listens := by
    rw [listeners]
    exact h.listens
  listed := by
    rw [directory]
    exact h.listed
  fits := by
    rw [config]
    exact h.fits

theorem suspension (h : b.Hears listener id) {x : Suspension}
    (kept : b.arbitration.Kept x.arbitration) : { b with suspension := x }.Hears listener id :=
  h.congr rfl kept.channels kept.listeners (fun _ => rfl) rfl rfl

theorem report (h : b.Hears listener id) (pid : Pid) (s : SensorId) (isActive : Bool)
    (request : Request) : (b.report pid s isActive request).Hears listener id := by
  have hshifts : Shifts .resumeAll b (b.report pid s isActive request) := b.shift_report ..
  have horderly := hshifts.orderly h.orderly
  obtain ⟨cs, heq⟩ := b.exists_report pid s isActive request
  rw [heq] at horderly ⊢
  exact ⟨horderly, h.listens, h.listed, h.fits⟩

/-- **A listener is sent the frame of a report, or the send fails.** -/
theorem carries_report (h : b.Hears listener id) (pid : Pid) (s : SensorId) (isActive : Bool)
    (request : Request) :
    Carries id [] (SubscriptionReport.frames [.about pid s isActive request]) b.channels
      (b.report pid s isActive request).channels := by
  have hmem := h.mem_listenerChannels
  have hframe : (SubscriptionReport.about pid s isActive request).packet.frame
      b.config.transport.maxPacketSize = .ok _ := Packet.frame_of_fits (h.fits _)
  have hsent := Directory.carries_sendEach
    (SubscriptionReport.about pid s isActive request).packet.bytes
    (h.orderly.contains_iff.2 ⟨listener, h.listed⟩) b.listenerChannels
    h.orderly.nodup_listenerChannels hmem (h.orderly.listed h.listed)
  rw [SubscriptionReport.frames_singleton]
  unfold Broker.report
  split
  · next hnone =>
    rw [hnone] at hmem
    cases hmem
  · show Carries id [] _ b.channels
      (b.directory.multicast b.channels b.listenerChannels
        (SubscriptionReport.about pid s isActive request).packet _).2
    unfold Directory.multicast Packet.frame?
    rw [hframe]
    exact hsent

end Hears

/-! ### What listeners do not notice -/

/-- An operation that may change subscriptions. -/
def Op.Changes : Op → Prop
  | .enable .. | .disable .. | .disableFor .. | .suspend _ | .resume _ | .resumeAll
  | .withdraw _ | .processDeath _ | .clientDied _ | .poll _ => True
  | _ => False

/-- The client of a channel got `got`, nothing was sent to it, and no subscription
has changed. -/
structure Unnoticed (id : ChannelId) (got : Bytes) (b b' : Broker) : Prop where
  reads : OnlyReads id got b.channels b'.channels
  subscription : ∀ pid s, b'.registry.subscription pid s = b.registry.subscription pid s

theorem Unnoticed.of_eq (flow : b'.channels.flow? id = b.channels.flow? id)
    (subscriptions : b'.registry.subscriptions = b.registry.subscriptions) :
    Unnoticed id [] b b' where
  reads := Channels.onlyReads_of_eq flow
  subscription pid s := by
    unfold Registry.subscription Registry.subscriptionsOf
    rw [subscriptions]

theorem Unnoticed.refl (id : ChannelId) (b : Broker) : Unnoticed id [] b b :=
  .of_eq rfl rfl

/-- What may not be asked by a process with this number leaves all as it is. -/
theorem Unnoticed.forPid {α : Type} {pid : Pid} {answer : Except ServiceError α × Broker}
    (h : Unnoticed id [] b answer.2) : Unnoticed id [] b (b.forPid pid answer).2 := by
  unfold Broker.forPid
  split
  · exact .refl id b
  · exact h

theorem flow?_dropSocketChannel (b : Broker) (pid : Pid) (id : ChannelId) :
    (b.dropSocketChannel pid).channels.flow? id = b.channels.flow? id := by
  have hremove := flow?_remove b.directory b.channels pid id
  unfold dropSocketChannel
  simp only
  split
  · exact hremove
  · exact hremove

/-- Events are passed on to data channels, and to those that a flush waits for. -/
theorem Orderly.flow?_route_of_listed (h : b.Orderly) (hlisted : b.directory.contains id = true)
    (e : Event) : (b.route e).channels.flow? id = b.channels.flow? id := by
  have hapart : ∀ other, b.Serves other → id ≠ other := fun other hserves heq => by
    rw [heq, h.serves_apart other hserves] at hlisted
    cases hlisted
  unfold route
  split
  · unfold deliverFlush
    split
    · rfl
    · next entry flushes hcomplete =>
      simp only
      split
      · rfl
      · exact (sendOn_of_ne { b with flushes } _ (hapart _ (serves_of_complete hcomplete))).1
  · unfold deliverSample
    simp only
    split
    · rfl
    · refine (sendEach_of_not_mem _ _ (b.setRegistry (b.registry.storeEvent e)) fun hmem => ?_).1
      exact hapart id (serves_of_mem_activeChannels (b := b) hmem) rfl

theorem Hears.unnoticed_dispatch (h : b.Hears listener id) : Unnoticed id [] b b.dispatch where
  reads := by
    have hlisted := h.orderly.contains_iff.2 ⟨listener, h.listed⟩
    refine Channels.onlyReads_of_eq ?_
    unfold dispatch
    split
    · rfl
    · next e rest _ =>
      have htaken : ({ b with queue := rest } : Broker).Orderly :=
        h.orderly.congr rfl rfl (fun _ => rfl) rfl .inl
      exact htaken.flow?_route_of_listed hlisted e
  subscription _ s := congrFun b.spares_dispatch.subscription s

/-- **What changes no subscription writes nothing to a listener.** -/
theorem Hears.unnoticed_step (h : b.Hears listener id) {op : Op} (hno : ¬ op.Changes) :
    Unnoticed id (b.received id (.op op)) b (b.step op) := by
  have hne : id ≠ b.channels.next := h.orderly.ne_next_of_listed h.listed
  cases op with
  | enable | disable | disableFor | suspend | resume | resumeAll | withdraw | processDeath
  | clientDied | poll => exact absurd trivial hno
  | setMode caller s mode =>
    have hset := b.arbitration.registry_perform (.setMode s mode)
    refine .forPid ?_
    split
    · exact .of_eq rfl (congrArg Registry.subscriptions hset)
    · exact .refl id b
  | flush caller s =>
    refine .forPid ?_
    split_ifs
    · exact .refl id b
    · split
      · exact .refl id b
      · next channel _ =>
        obtain ⟨hw, flushes, queue, dropped, -, heq⟩ :=
          b.exists_requestFlush s caller.pid channel false
        rw [heq]
        exact .of_eq rfl rfl
  | openDataChannel caller =>
    refine .of_eq (flow?_openDataChannel caller hne).1 ?_
    show (b.openDataChannel caller).2.registry.subscriptions = _
    unfold openDataChannel forPid
    split
    · rfl
    · simp only
      split <;> rfl
  | closeDataChannel caller =>
    refine .of_eq (b.flow?_closeDataChannel caller id).1 ?_
    show (b.closeDataChannel caller).2.registry.subscriptions = _
    unfold closeDataChannel forPid Registry.destroyChannel
    split
    · rfl
    · cases b.registry.channels.get? caller.pid <;> rfl
  | openSocketChannel caller =>
    refine .of_eq (flow?_openSocketChannel caller hne) ?_
    show (b.openSocketChannel caller).2.registry.subscriptions = _
    unfold openSocketChannel forPid
    split
    · rfl
    · cases b.directory.byPid.get? caller.pid <;> rfl
  | closeSocketChannel caller =>
    refine .forPid (.of_eq (b.flow?_dropSocketChannel caller.pid id) ?_)
    exact congrArg Registry.subscriptions (b.registry_dropSocketChannel caller.pid)
  | inject s =>
    show Unnoticed id [] b (b.inject s).2
    unfold inject
    split <;> exact .of_eq rfl rfl
  | listen caller => exact .forPid (.of_eq rfl rfl)
  | unlisten caller => exact .forPid (.of_eq rfl rfl)
  | emit slot e =>
    obtain ⟨queue, dropped, heq⟩ := (b.setHardware (b.hardware.emit slot e)).exists_collect
    show Unnoticed id [] b (b.setHardware (b.hardware.emit slot e)).collect
    rw [heq]
    exact .of_eq rfl rfl
  | dispatch => exact h.unnoticed_dispatch
  | idle other =>
    show Unnoticed id [] b (b.idle other)
    unfold idle
    split
    · exact .refl id b
    · next ws _ => exact .of_eq (ws.flow?_idle b.channels other id) rfl
  | atClient other a => exact ⟨b.onlyReads_atClient id other a, fun _ _ => rfl⟩

end Broker
end SensorBroker
