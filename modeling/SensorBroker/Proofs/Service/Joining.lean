/-
# What is told when a process joins a running sensor

A process that joins a running sensor which reports only changes is told the
last event of the sensor, if it has a data channel and there is such an event
(`Broker.replayed`). Other requests to enable a sensor tell nobody anything.

Key definitions: `Broker.lastChange`, `Broker.joins`, `Broker.replayed`,
`Broker.Untold`.
Key theorems: `Broker.enable_cases`, `Broker.Orderly.carries_enable`,
`Broker.Regular.sample_of_mem_replayed`.
-/
import SensorBroker.Proofs.Service.Routing

namespace SensorBroker
namespace Broker

/-- The last event of a sensor that reports only changes. -/
def lastChange (b : Broker) (s : SensorId) : List Notice :=
  if b.isOnChange s then ((b.registry.lastEvents.get? s).map (Notice.mk .sensorEvent)).toList
  else []

/-- Whether a request subscribes its caller to a sensor that runs already. -/
def joins (b : Broker) (caller : Identity) (s : SensorId) (request : Request) : Bool :=
  (b.enable caller s request).1.isOk && b.arbitration.isRunning s &&
    (b.registry.subscription caller.pid s).isNone

/-- What the data channel of a process is told when somebody asks for a sensor:
the last event of a sensor that reports only changes, if it is the process
itself that joins the sensor. -/
def replayed (pid : Pid) (b : Broker) (caller : Identity) (s : SensorId) (request : Request) :
    List Notice :=
  if caller.pid = pid ∧ b.joins caller s request then b.lastChange s else []

open Channels (Carries)

variable {b b' : Broker} {pid : Pid} {id : ChannelId}

/-! ### The last event of a running sensor -/

theorem lastChange_congr {s : SensorId} (sensors : b'.hardware.sensors = b.hardware.sensors)
    (lastEvents : b'.registry.lastEvents = b.registry.lastEvents) :
    b'.lastChange s = b.lastChange s := by
  unfold lastChange isOnChange
  rw [sensors, lastEvents]

/-- Asking for a flush changes what waits for one, the hardware and the queue. -/
theorem exists_requestFlush (b : Broker) (s : SensorId) (pid : Pid) (channel : ChannelId)
    (isFirst : Bool) : ∃ hw flushes queue dropped, hw.sensors = b.hardware.sensors ∧
      (b.requestFlush s pid channel isFirst).2 =
        { b.setHardware hw with flushes, queue, dropped } := by
  let act : FlushQueues.Act := .request b.arbitration s pid channel isFirst []
  let hw : Hardware := (b.hardware.perform (.command s .flush)).2
  have hsensors : hw.sensors = b.hardware.sensors := (b.hardware.kept_perform _).sensors
  obtain ⟨queue, dropped, hcollect⟩ :=
    exists_collect (({ b with flushes := b.flushes.step act } : Broker).setHardware hw)
  rw [requestFlush_eq, Arbitration.runCommand, Arbitration.perform_snd]
  exact ⟨{ hw with raised := [] }, b.flushes.step act, queue, dropped, hsensors, hcollect⟩

theorem exists_flushOnJoin (b : Broker) (pid : Pid) (s : SensorId) :
    ∃ hw flushes queue dropped, hw.sensors = b.hardware.sensors ∧
      b.flushOnJoin pid s = { b.setHardware hw with flushes, queue, dropped } := by
  unfold flushOnJoin
  split
  · next channel _ => exact b.exists_requestFlush s pid channel true
  · exact ⟨b.hardware, b.flushes, b.queue, b.dropped, rfl, rfl⟩

/-- Sending the last event of a sensor to the client of a channel, if it has
one. -/
theorem replay_of_isOnChange {s : SensorId} (hchange : b.isOnChange s = true)
    (hcurrent : b.registry.channels.get? pid = some id) :
    (b.replay pid s).channels = match b.registry.lastEvents.get? s with
      | some e => (b.channels.send id (Notice.mk .sensorEvent e).packet).2
      | none => b.channels := by
  unfold replay
  rw [if_pos hchange, hcurrent]
  cases b.registry.lastEvents.get? s <;> rfl

/-- **The last event of a sensor that reports only changes is told to the data
channel of a process.** -/
theorem Orderly.carries_replay (h : b.Orderly) (hcurrent : b.registry.channels.get? pid = some id)
    (s : SensorId)
    (hfits : ∀ n ∈ b.lastChange s, n.packet.Fits b.config.transport.maxPacketSize) :
    Carries id [] (framesOf (b.lastChange s)) b.channels (b.replay pid s).channels := by
  have hopen := h.current hcurrent
  unfold lastChange at hfits ⊢
  by_cases hchange : b.isOnChange s = true
  · rw [if_pos hchange] at hfits ⊢
    rw [replay_of_isOnChange hchange hcurrent]
    cases hlast : b.registry.lastEvents.get? s with
    | none => exact Channels.carries_of_eq rfl
    | some e =>
      have hfit : (Notice.mk .sensorEvent e).packet.Fits b.config.transport.maxPacketSize :=
        hfits _ (by rw [hlast]; exact List.mem_cons_self)
      show Carries id [] (framesOf [_]) _ (b.channels.send id _).2
      rw [framesOf_singleton, Channels.send_of_fits hopen hfit]
      exact Channels.carries_sendFrame hopen _
  · rw [if_neg hchange]
    unfold replay
    rw [if_neg hchange]
    exact Channels.carries_of_eq rfl

/-- The last event of a sensor goes to the data channel of the process only. -/
theorem flow?_replay_of_ne (hne : b.registry.channels.get? pid ≠ some id) (s : SensorId) :
    (b.replay pid s).channels.flow? id = b.channels.flow? id := by
  unfold replay
  split
  · split
    · next channel _ hcurrent =>
      refine b.channels.flow?_act_of_ne _ fun heq => hne ?_
      rw [heq]
      exact hcurrent
    · rfl
  · rfl

theorem exists_replay (b : Broker) (pid : Pid) (s : SensorId) :
    ∃ cs, b.replay pid s = { b with channels := cs } := by
  unfold replay
  split
  · split
    · exact ⟨_, rfl⟩
    · exact ⟨b.channels, rfl⟩
  · exact ⟨b.channels, rfl⟩

theorem flow?_reportActive (pid : Pid) (s : SensorId) (h : b.directory.contains id = false) :
    (b.reportActive pid s).channels.flow? id = b.channels.flow? id := by
  unfold reportActive
  split
  · unfold report
    split
    · rfl
    · exact b.directory.flow?_multicast _ _ _ _ h
  · rfl

theorem registry_reportActive (b : Broker) (pid : Pid) (s : SensorId) :
    (b.reportActive pid s).registry = b.registry := by
  unfold reportActive report
  split
  · split <;> rfl
  · rfl

/-! ### Before anybody is told -/

/-- Requests were recorded and the hardware was called, and nobody was told
anything. -/
structure Untold (b b' : Broker) : Prop where
  channels : b'.channels = b.channels
  current : b'.registry.channels = b.registry.channels
  directory : b'.directory = b.directory
  config : b'.config = b.config
  sensors : b'.hardware.sensors = b.hardware.sensors
  orderly : b.Orderly → b'.Orderly

theorem untold_setArbitration {a : Arbitration} (h : b.arbitration.Kept a) :
    b.Untold (b.setArbitration a) :=
  ⟨rfl, h.channels, rfl, rfl, h.hardware.sensors,
    fun horderly => horderly.congr rfl h.channels (fun _ => rfl) rfl .inl⟩

theorem Untold.flushOnJoin (h : b.Untold b') (pid : Pid) (s : SensorId) :
    b.Untold (b'.flushOnJoin pid s) ∧ (b'.flushOnJoin pid s).registry = b'.registry := by
  have hshifts : Shifts .resumeAll b' (b'.flushOnJoin pid s) := b'.shifts_flushOnJoin pid s
  obtain ⟨hw, flushes, queue, dropped, hsensors, hflush⟩ := b'.exists_flushOnJoin pid s
  have hregistry : (b'.flushOnJoin pid s).registry = b'.registry := by
    rw [hflush]
    rfl
  refine ⟨⟨?_, ?_, ?_, ?_, ?_, fun horderly => hshifts.orderly (h.orderly horderly)⟩, hregistry⟩
  · rw [hflush]
    exact h.channels
  · rw [hregistry]
    exact h.current
  · rw [hflush]
    exact h.directory
  · rw [hflush]
    exact h.config
  · rw [hflush]
    exact hsensors.trans h.sensors

/-- **A request to enable a sensor is nothing to data channels, unless its
caller joins the sensor**; then the last event is told, and the listeners. -/
theorem enable_cases (b : Broker) (caller : Identity) (s : SensorId) (request : Request) :
    (b.joins caller s request = false ∧ ∀ {id}, b.directory.contains id = false →
      (b.enable caller s request).2.channels.flow? id = b.channels.flow? id) ∨
    (b.joins caller s request = true ∧ ∃ b', b.Untold b' ∧
      b'.registry.lastEvents = b.registry.lastEvents ∧
      (b'.registry.subscription caller.pid s).isSome = true ∧
      (b.enable caller s request).2 = (b'.replay caller.pid s).reportActive caller.pid s) := by
  have hkept := b.arbitration.kept_enable caller.pid s request
  by_cases hpid : caller.pid < 0
  · have heq : b.enable caller s request = (.error (.invalidPid caller.pid), b) := if_pos hpid
    unfold joins
    rw [heq]
    exact .inl ⟨rfl, fun _ => rfl⟩
  · rcases he : b.arbitration.enable caller.pid s request with ⟨e | outcome, a⟩
    · have heq : b.enable caller s request = (.error e, b.setArbitration a) := by
        unfold enable forPid
        rw [if_neg hpid, he]
      unfold joins
      rw [heq]
      exact .inl ⟨rfl, fun _ => rfl⟩
    · rw [he] at hkept
      obtain ⟨_, _, _, -, -, -, ha, hrunning, hnew, -⟩ := Arbitration.enable_ok he
      have heq : b.enable caller s request = (.ok (),
          (if outcome.wasRunning && outcome.isNew then
            ((b.setArbitration a).flushOnJoin caller.pid s).replay caller.pid s
          else b.setArbitration a).reportActive caller.pid s) := by
        unfold enable forPid
        rw [if_neg hpid, he]
      have hjoins : b.joins caller s request = (outcome.wasRunning && outcome.isNew) := by
        unfold joins
        rw [heq, hrunning, hnew]
        rfl
      rw [hjoins, heq]
      cases hjoin : outcome.wasRunning && outcome.isNew with
      | true =>
        obtain ⟨huntold, hregistry⟩ := (untold_setArbitration hkept).flushOnJoin caller.pid s
        refine .inr ⟨rfl, _, huntold, ?_, ?_, rfl⟩
        · rw [hregistry, ha]
          rfl
        · rw [hregistry, ha]
          exact Option.isSome_of_eq_some (b.registry.subscription_put_self caller.pid s _)
      | false =>
        have hunchanged {id : ChannelId} (hid : b.directory.contains id = false) :
            ((b.setArbitration a).reportActive caller.pid s).channels.flow? id =
              b.channels.flow? id := flow?_reportActive (b := b.setArbitration a) caller.pid s hid
        exact .inl ⟨rfl, hunchanged⟩

/-- Telling the listeners changes nothing for a data channel. -/
theorem Untold.flow?_reportActive (h : b.Untold b') (pid : Pid) (s : SensorId)
    (hid : b.directory.contains id = false) :
    ((b'.replay pid s).reportActive pid s).channels.flow? id =
      (b'.replay pid s).channels.flow? id := by
  refine Broker.flow?_reportActive pid s ?_
  obtain ⟨cs, hreplay⟩ := b'.exists_replay pid s
  rw [hreplay]
  show b'.directory.contains id = false
  rw [h.directory]
  exact hid

/-- A process that is told the last event of a sensor is the only one. -/
theorem Untold.flow?_of_ne (h : b.Untold b') (s : SensorId)
    (hid : b.directory.contains id = false) (hne : b.registry.channels.get? pid ≠ some id) :
    ((b'.replay pid s).reportActive pid s).channels.flow? id = b.channels.flow? id := by
  have hne' : b'.registry.channels.get? pid ≠ some id := by
    rw [h.current]
    exact hne
  rw [h.flow?_reportActive pid s hid, flow?_replay_of_ne hne' s, h.channels]

/-- **A process that joins a running sensor which reports only changes is told
the last event, and nobody else is told anything.** -/
theorem Orderly.carries_enable (h : b.Orderly) (hcurrent : b.registry.channels.get? pid = some id)
    (caller : Identity) (s : SensorId) (request : Request)
    (hfits : ∀ n ∈ replayed pid b caller s request,
      n.packet.Fits b.config.transport.maxPacketSize) :
    Carries id [] (framesOf (replayed pid b caller s request)) b.channels
      (b.enable caller s request).2.channels := by
  have hapart := h.apart hcurrent
  unfold replayed at hfits ⊢
  rcases b.enable_cases caller s request with ⟨hjoins, hunchanged⟩ |
    ⟨hjoins, b', huntold, hlast, -, hafter⟩
  · have hnot : ¬ (caller.pid = pid ∧ b.joins caller s request = true) := by
      rw [hjoins]
      exact fun hboth => Bool.false_ne_true hboth.2
    rw [if_neg hnot]
    exact Channels.carries_of_eq (hunchanged hapart)
  · rw [hjoins] at hfits ⊢
    rw [hafter]
    by_cases hpid : caller.pid = pid
    · rw [if_pos ⟨hpid, rfl⟩] at hfits ⊢
      have hchange : b'.lastChange s = b.lastChange s := lastChange_congr huntold.sensors hlast
      have hstill : b'.registry.channels.get? pid = some id := by
        rw [huntold.current]
        exact hcurrent
      have hreplay := (huntold.orderly h).carries_replay hstill s (by
        rw [hchange, huntold.config]
        exact hfits)
      rw [hchange, huntold.channels] at hreplay
      rw [hpid]
      have hreport := Channels.carries_of_eq (huntold.flow?_reportActive pid s hapart)
      simpa only [List.append_nil] using hreplay.trans hreport
    · rw [if_neg fun hboth => hpid hboth.1]
      refine Channels.carries_of_eq (huntold.flow?_of_ne s hapart fun hother => hpid ?_)
      exact h.eq_of_current hcurrent hother

theorem Regular.sample_of_mem_replayed (h : b.Regular) {caller : Identity} {s : SensorId}
    {request : Request} {n : Notice} (hn : n ∈ replayed pid b caller s request) :
    n.event.isFlushComplete = false ∧
      ((b.enable caller s request).2.registry.subscription pid n.event.sensor).isSome = true := by
  unfold replayed lastChange at hn
  split_ifs at hn with hjoin hchange
  · obtain ⟨rfl, hjoins⟩ := hjoin
    obtain ⟨e, hstored, rfl⟩ := Option.map_eq_some_iff.1 (Option.mem_toList.1 hn)
    obtain ⟨hsensor, hsample⟩ := h.stored hstored
    refine ⟨hsample, ?_⟩
    rcases b.enable_cases caller s request with ⟨hnot, -⟩ | ⟨-, b', -, -, hsub, hafter⟩
    · rw [hjoins] at hnot
      cases hnot
    · obtain ⟨cs, hreplay⟩ := b'.exists_replay caller.pid s
      rw [hafter, registry_reportActive, hreplay, hsensor]
      exact hsub
  · cases hn
  · cases hn

end Broker
end SensorBroker
