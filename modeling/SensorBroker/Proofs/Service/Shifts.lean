/-
# The shifts that every operation is made of

What an operation does to the channels, the queue and the watchers of a broker
is a sequence of a few kinds of shifts (`Broker.Shift`), as what it does to
subscriptions is a sequence of moves. Most shifts are small: a record, a
counter, one send. Opening and closing a channel touch several tables at once
and are one shift each, so that no state in between needs to make sense.

A few things happen in the course of certain operations only: data channels
are written to by `enable` and `dispatch` (`Op.Writes`), mocks come and go by
`inject` and `withdraw` (`Op.Mocks`), samples arrive by `emit` and are taken and
counted by `dispatch`, and only `poll` takes a watcher away from a channel that
is still in use. The flush queues change only as their history says
(`FlushQueues.Act`), and only data channels wait for the end of a flush. The
shifts say so, and what every shift preserves, every run does.

Key definitions: `Broker.Op.Writes`, `Broker.Op.Mocks`, `Broker.Serves`,
`Broker.Shift`, `Broker.Shifts`, `Broker.Clerical`, `Broker.Uneventful`.
Key theorems: `Broker.shifts_step`, `Broker.Shift.clerical_or`,
`Broker.Shift.uneventful_or`.
-/
import SensorBroker.Proofs.Channel.Traffic
import SensorBroker.Proofs.Service.Kept

namespace SensorBroker
namespace Broker

/-- An operation that may write to data channels, or in which a client reads. -/
def Op.Writes : Op → Prop
  | .enable .. | .dispatch | .atClient .. => True
  | _ => False

/-- An operation that makes a mock or ends one. -/
def Op.Mocks : Op → Prop
  | .inject _ | .withdraw _ => True
  | _ => False

/-- Events may be sent on a channel: it is a data channel, or was one when a
flush was asked for. -/
def Serves (b : Broker) (id : ChannelId) : Prop :=
  (∃ pid, b.registry.channels.get? pid = some id) ∨
    ∃ s, ∃ entry ∈ b.flushes.of s, entry.channel = id

/-- One thing that happens to the channels, the queue or the watchers in the
course of an operation. -/
inductive Shift (op : Op) : Broker → Broker → Prop
  /-- Subscriptions and snapshots change, and calls go to the hardware. -/
  | arbitrate {b x} (kept : b.arbitration.Kept x.arbitration) :
    Shift op b { b with suspension := x }
  /-- A mock comes or goes. -/
  | mock {b h} (now : op.Mocks) (raised : h.raised = b.hardware.raised) :
    Shift op b (b.setHardware h)
  | raise {b slot e} (now : op = .emit slot e) :
    Shift op b (b.setHardware (b.hardware.emit slot e))
  | collect {b} : Shift op b b.collect
  | take {b e rest} (now : op = .dispatch) (oldest : b.queue = e :: rest) :
    Shift op b { b with queue := rest }
  | keep {b} {e : Event} (now : op = .dispatch) (sample : e.isFlushComplete = false) :
    Shift op b (b.setRegistry (b.registry.storeEvent e))
  | count {b} (now : op = .dispatch) (totals : DispatchTotals) : Shift op b { b with totals }
  /-- A flush is asked for, on a data channel, or is complete. -/
  | flushes {b} (act : FlushQueues.Act) (owned : ∀ channel, act.channel? = some channel →
      ∃ pid, b.registry.channels.get? pid = some channel) :
    Shift op b { b with flushes := b.flushes.step act }
  | listeners {b} (listeners : Table Pid Unit) :
    Shift op b (b.setRegistry { b.registry with listeners })
  | forgetToken {b} (token : Token) : Shift op b (b.setRegistry (b.registry.dropToken token).2)
  /-- Sessions are written to and read from. -/
  | traffic {b cs} (traits : ∀ id, Channels.traits? cs id = b.channels.traits? id)
    (flow : ¬ op.Writes → ∀ id, b.directory.contains id = false → cs.flow? id = b.channels.flow? id) :
    Shift op b { b with channels := cs }
  | watchers {b} {ws ws' : Watchers} (attached : b.watchers = some ws)
    (others : ∀ id, ws'.contains id = ws.contains id ∨ op = .poll id) :
    Shift op b { b with watchers := some ws' }
  | openData {b} (caller : Identity) : Shift op b (b.openDataChannel caller).2
  | closeData {b} (caller : Identity) : Shift op b (b.closeDataChannel caller).2
  | openSocket {b} (caller : Identity) : Shift op b (b.openSocketChannel caller).2
  | dropSocket {b} (pid : Pid) : Shift op b (b.dropSocketChannel pid)
  /-- A socket channel is closed and taken out of the directory. -/
  | depart {b} (pid : Pid) : Shift op b { b with
      directory := (b.directory.remove b.channels pid).2.1
      channels := (b.directory.remove b.channels pid).2.2 }
  | dropRecords {b} (pid : Pid) : Shift op b (b.dropRecords pid)
  /-- A channel that is no socket channel is closed, and given up if it is a data
  channel. -/
  | giveUp {b} {id : ChannelId} (now : op = .dispatch) (apart : b.directory.contains id = false) :
    Shift op b (b.setRecords
      (b.registry.releaseIfCurrent b.channels id).2.1 (b.registry.releaseIfCurrent b.channels id).2.2)

/-- Shifts one after the other. -/
abbrev Shifts (op : Op) : Broker → Broker → Prop :=
  Relation.ReflTransGen (Shift op)

/-! ### Operations as shifts -/

section

variable {op : Op}

theorem shifts_forPid {α : Type} (b : Broker) (pid : Pid)
    {answer : Except ServiceError α × Broker} (ha : Shifts op b answer.2) :
    Shifts op b (b.forPid pid answer).2 := by
  unfold forPid
  split
  · exact .refl
  · exact ha

theorem shift_report (b : Broker) (pid : Pid) (s : SensorId) (isActive : Bool)
    (request : Request) : Shifts op b (b.report pid s isActive request) := by
  unfold report
  split
  · exact .refl
  · refine .single (.traffic (fun id => ?_) fun _ id hid => ?_)
    · exact b.directory.traits?_multicast ..
    · exact b.directory.flow?_multicast _ _ _ _ hid

theorem shifts_reportActive (b : Broker) (pid : Pid) (s : SensorId) :
    Shifts op b (b.reportActive pid s) := by
  unfold reportActive
  split
  · exact b.shift_report ..
  · exact .refl

theorem shifts_foldl_reportActive (pid : Pid) : ∀ (sensors : List SensorId) (b : Broker),
    Shifts op b (sensors.foldl (fun b s => b.reportActive pid s) b)
  | [], _ => .refl
  | s :: rest, b => (b.shifts_reportActive pid s).trans (shifts_foldl_reportActive pid rest _)

theorem shifts_reportSuspended (pid : Pid) (saved : Snapshot) :
    ∀ (sensors : List SensorId) (b : Broker), Shifts op b (reportSuspended pid saved sensors b)
  | [], _ => .refl
  | s :: rest, b => by
    rw [reportSuspended]
    refine .trans ?_ (shifts_reportSuspended pid saved rest _)
    split
    · exact b.shift_report ..
    · exact .refl

theorem shift_setArbitration (b : Broker) {a : Arbitration} (h : b.arbitration.Kept a) :
    Shift op b (b.setArbitration a) :=
  .arbitrate h

theorem shifts_requestFlush (b : Broker) (s : SensorId) (pid : Pid) {channel : ChannelId}
    (isFirst : Bool) (hcurrent : b.registry.channels.get? pid = some channel) :
    Shifts op b (b.requestFlush s pid channel isFirst).2 := by
  let act : FlushQueues.Act := .request b.arbitration s pid channel isFirst []
  have hqueue : Shifts op b { b with flushes := b.flushes.step act } :=
    .single (.flushes act fun _ hchannel => ⟨pid, Option.some.inj hchannel ▸ hcurrent⟩)
  have hkept := b.arbitration.kept_perform (.command s .flush)
  rw [requestFlush_eq]
  exact (hqueue.tail (shift_setArbitration _ hkept)).tail .collect

theorem shifts_flushOnJoin (b : Broker) (pid : Pid) (s : SensorId) :
    Shifts op b (b.flushOnJoin pid s) := by
  unfold flushOnJoin
  split
  · next h => exact b.shifts_requestFlush s pid true h
  · exact .refl

theorem shifts_replay (b : Broker) (hw : op.Writes) (pid : Pid) (s : SensorId) :
    Shifts op b (b.replay pid s) := by
  unfold replay
  split
  · split
    · next e channel _ _ =>
      refine .single (.traffic (fun id => ?_) fun hno => absurd hw hno)
      exact b.channels.traits?_send channel _ id
    · exact .refl
  · exact .refl

theorem shifts_enable (b : Broker) (hw : op.Writes) (caller : Identity) (s : SensorId)
    (request : Request) : Shifts op b (b.enable caller s request).2 := by
  refine b.shifts_forPid caller.pid ?_
  have hkept := b.arbitration.kept_enable caller.pid s request
  split
  · next h =>
    rw [h] at hkept
    exact .single (b.shift_setArbitration hkept)
  · next h =>
    rw [h] at hkept
    have hset : Shifts op b _ := .single (b.shift_setArbitration hkept)
    simp only
    split_ifs
    · exact ((hset.trans (shifts_flushOnJoin _ caller.pid s)).trans
        (shifts_replay _ hw caller.pid s)).trans (shifts_reportActive _ caller.pid s)
    · exact hset.trans (shifts_reportActive _ caller.pid s)

theorem shifts_disable (b : Broker) (pid : Pid) (s : SensorId) :
    Shifts op b (b.setArbitration (b.arbitration.disable pid s).2) :=
  .single (b.shift_setArbitration (b.arbitration.kept_disable pid s))

theorem shifts_disableFor (b : Broker) (pid : Pid) (s : SensorId) :
    Shifts op b (b.disableFor pid s).2 := by
  refine b.shifts_forPid pid ?_
  split
  · exact .refl
  · have hsame := b.suspension.arbitration_discard pid s
    split
    · next x h =>
      rw [h] at hsame
      have hkept : b.arbitration.Kept x.arbitration := by
        rw [show x.arbitration = b.arbitration from hsame]
        exact .refl _
      exact (Relation.ReflTransGen.single (.arbitrate hkept)).trans (shift_report _ ..)
    · next x h =>
      rw [h] at hsame
      have hkept : b.arbitration.Kept x.arbitration := by
        rw [show x.arbitration = b.arbitration from hsame]
        exact .refl _
      have hdiscard : Shifts op b { b with suspension := x } := .single (.arbitrate hkept)
      have hdisable := hdiscard.trans (({ b with suspension := x } : Broker).shifts_disable pid s)
      simp only
      split
      · next hd =>
        rw [hd] at hdisable
        exact hdisable.trans (shift_report _ ..)
      · next hd =>
        rw [hd] at hdisable
        exact hdisable

theorem shifts_setMode (b : Broker) (caller : Identity) (s : SensorId) (mode : Int32) :
    Shifts op b (b.setMode caller s mode).2 := by
  refine b.shifts_forPid caller.pid ?_
  split
  · exact .single (b.shift_setArbitration (b.arbitration.kept_perform (.setMode s mode)))
  · exact .refl

theorem shifts_flush (b : Broker) (caller : Identity) (s : SensorId) :
    Shifts op b (b.flush caller s).2 := by
  refine b.shifts_forPid caller.pid ?_
  split
  · exact .refl
  · split
    · exact .refl
    · next h => exact b.shifts_requestFlush s caller.pid false h

theorem shifts_suspend (b : Broker) (pid : Pid) : Shifts op b (b.suspend pid).2 := by
  refine b.shifts_forPid pid ?_
  exact (Relation.ReflTransGen.single (.arbitrate (b.suspension.kept_suspend pid))).trans
    (shifts_reportSuspended pid _ _ _)

theorem shifts_resume (b : Broker) (pid : Pid) : Shifts op b (b.resume pid).2 := by
  refine b.shifts_forPid pid ?_
  have hkept := b.suspension.kept_resume pid
  split
  · next h =>
    rw [h] at hkept
    exact .single (.arbitrate hkept)
  · next h =>
    rw [h] at hkept
    exact (Relation.ReflTransGen.single (.arbitrate hkept)).trans
      (shifts_foldl_reportActive pid _ _)

theorem shifts_inject (b : Broker) (hm : op.Mocks) (s : SensorId) :
    Shifts op b (b.inject s).2 := by
  have hraised : (b.hardware.inject s).2.raised = b.hardware.raised := by
    unfold Hardware.inject
    split_ifs <;> rfl
  unfold inject
  split
  · next h =>
    rw [h] at hraised
    exact .single (.mock hm hraised)
  · next h =>
    rw [h] at hraised
    exact .single (.mock hm hraised)

theorem shifts_disableEach (s : SensorId) : ∀ (pids : List Pid) (b : Broker),
    Shifts op b (disableEach s pids b)
  | [], _ => .refl
  | pid :: rest, b => (b.shifts_disableFor pid s).trans (shifts_disableEach s rest _)

theorem shifts_withdraw (b : Broker) (hm : op.Mocks) (s : SensorId) :
    Shifts op b (b.withdraw s).2 := by
  have hraised (h : Hardware) : (h.withdraw s).2.raised = h.raised := by
    unfold Hardware.withdraw
    split_ifs <;> rfl
  unfold withdraw
  split
  · have hdisabled : Shifts op b _ := shifts_disableEach s (b.registry.subscribers s) b
    have hmocks := hraised (disableEach s (b.registry.subscribers s) b).hardware
    simp only
    split
    · next h =>
      rw [h] at hmocks
      exact hdisabled.tail (.mock hm hmocks)
    · next h =>
      rw [h] at hmocks
      exact hdisabled.tail (.mock hm hmocks)
  · exact .refl

theorem shifts_releaseEach (pid : Pid) : ∀ (sensors : List SensorId) (b : Broker),
    Shifts op b (releaseEach pid sensors b).2
  | [], _ => .refl
  | s :: rest, b => by
    have hdisable : Shifts op b _ := b.shifts_disable pid s
    rw [releaseEach]
    split
    · next h =>
      rw [h] at hdisable
      exact (hdisable.trans (shift_report _ ..)).trans (shifts_releaseEach pid rest _)
    · next h =>
      rw [h] at hdisable
      exact hdisable.trans (shifts_releaseEach pid rest _)
    · next h =>
      rw [h] at hdisable
      exact hdisable.trans (shifts_releaseEach pid rest _)

theorem shifts_processDeath (b : Broker) (pid : Pid) : Shifts op b (b.processDeath pid).2 := by
  have hforget : Shifts op b { b with suspension := (b.suspension.forget pid).2 } :=
    .single (.arbitrate (.refl b.arbitration))
  have hrelease := hforget.trans (shifts_releaseEach pid
    (({ b with suspension := (b.suspension.forget pid).2 } : Broker).registry.sensorsOf pid) _)
  exact (hrelease.tail (.dropSocket pid)).tail (.dropRecords pid)

theorem shifts_clientDied (b : Broker) (token : Token) : Shifts op b (b.clientDied token).2 := by
  have hforget : Shifts op b (b.setRegistry (b.registry.dropToken token).2) :=
    .single (.forgetToken token)
  unfold clientDied
  split
  · exact .refl
  · next pid r h =>
    rw [h] at hforget
    exact hforget.trans ((b.setRegistry r).shifts_processDeath pid)

@[simp] theorem directory_sendOn (b : Broker) (frame : Bytes) (id : ChannelId) :
    (b.sendOn frame id).2.directory = b.directory := by
  unfold sendOn
  split
  · rfl
  · split_ifs <;> rfl

theorem shifts_sendOn (b : Broker) (now : op = .dispatch) (frame : Bytes) {id : ChannelId}
    (apart : b.directory.contains id = false) : Shifts op b (b.sendOn frame id).2 := by
  have hw : op.Writes := now ▸ trivial
  have htraits := b.channels.traits?_sendFrame id frame
  unfold sendOn
  split
  · next h =>
    rw [h] at htraits
    exact .single (.traffic htraits fun hno => absurd hw hno)
  · next e cs h =>
    rw [h] at htraits
    have hsend : Shifts op b { b with channels := cs } :=
      .single (.traffic htraits fun hno => absurd hw hno)
    split_ifs
    · exact hsend.tail (.giveUp now apart)
    · exact hsend

theorem shifts_sendEach (now : op = .dispatch) (frame : Bytes) : ∀ (ids : List ChannelId)
    (b : Broker), (∀ id ∈ ids, b.directory.contains id = false) →
      Shifts op b (sendEach frame ids b).2.2
  | [], _, _ => .refl
  | id :: rest, b, apart => by
    have hhead := b.shifts_sendOn now frame (apart id List.mem_cons_self)
    have hrest := hhead.trans (shifts_sendEach now frame rest _ fun id' hid' => by
      rw [directory_sendOn]
      exact apart id' (List.mem_cons_of_mem _ hid'))
    rw [sendEach]
    simp only
    split
    · exact hrest
    · exact hrest

theorem serves_of_mem_activeChannels {b : Broker} {s : SensorId} {id : ChannelId}
    (h : id ∈ b.registry.activeChannels s) : b.Serves id := by
  obtain ⟨pid, -, hpid⟩ := List.mem_filterMap.1 h
  exact .inl ⟨pid, hpid⟩

theorem shifts_deliverSample (b : Broker) (now : op = .dispatch) {e : Event}
    (sample : e.isFlushComplete = false)
    (apart : ∀ id, b.Serves id → b.directory.contains id = false) :
    Shifts op b (b.deliverSample e) := by
  have hkeep : Shifts op b (b.setRegistry (b.registry.storeEvent e)) := .single (.keep now sample)
  unfold deliverSample
  simp only
  split
  · exact hkeep
  · refine (hkeep.trans (shifts_sendEach now _ _ _ fun id hid => ?_)).tail (.count now _)
    exact apart id (serves_of_mem_activeChannels (b := b) hid)

theorem serves_of_complete {b : Broker} {q : FlushQueues} {s : SensorId} {entry : FlushEntry}
    (h : b.flushes.complete s = (some entry, q)) : b.Serves entry.channel := by
  refine .inr ⟨s, entry, ?_, rfl⟩
  cases hq : b.flushes.of s with
  | nil =>
    rw [FlushQueues.complete_of_nil hq] at h
    cases h
  | cons oldest rest =>
    rw [FlushQueues.complete_of_cons hq] at h
    cases h
    exact List.mem_cons_self

theorem shifts_deliverFlush (b : Broker) (now : op = .dispatch) (e : Event)
    (apart : ∀ id, b.Serves id → b.directory.contains id = false) :
    Shifts op b (b.deliverFlush e) := by
  unfold deliverFlush
  split
  · exact .single (.count now _)
  · next entry flushes h =>
    have hpop : Shifts op b { b with flushes } := by
      rw [← show b.flushes.step (.complete e.sensor) = flushes from congrArg Prod.snd h]
      exact .single (.flushes (.complete e.sensor) nofun)
    have hentry := apart _ (serves_of_complete h)
    simp only
    split
    · exact hpop.tail (.count now _)
    · exact (hpop.trans (shifts_sendOn _ now _ hentry)).tail (.count now _)

theorem shifts_route (b : Broker) (now : op = .dispatch) (e : Event)
    (apart : ∀ id, b.Serves id → b.directory.contains id = false) : Shifts op b (b.route e) := by
  unfold route
  split
  · exact b.shifts_deliverFlush now e apart
  · next hsample => exact b.shifts_deliverSample now (Bool.eq_false_iff.2 hsample) apart

theorem shifts_dispatch (b : Broker) (now : op = .dispatch)
    (apart : ∀ id, b.Serves id → b.directory.contains id = false) : Shifts op b b.dispatch := by
  unfold dispatch
  split
  · exact .refl
  · next e rest hqueue =>
    have htake : Shifts op b { b with queue := rest } := .single (.take now hqueue)
    exact htake.trans (shifts_route _ now e apart)

theorem shifts_emit (b : Broker) {slot : Slot} {e : Event} (now : op = .emit slot e) :
    Shifts op b (b.emit slot e) :=
  (Relation.ReflTransGen.single (.raise now)).tail .collect

theorem shifts_hangUp (b : Broker) (id : ChannelId) : Shifts op b (b.hangUp id) := by
  unfold hangUp
  split
  · exact .refl
  · next s _ =>
    split_ifs
    · exact b.shifts_processDeath s.pid
    · exact .single (.depart s.pid)
    · exact .refl

theorem contains_poll_of_ne (ws : Watchers) (cs : Channels) {id other : ChannelId}
    (h : other ≠ id) : (ws.poll cs id).2.2.1.contains other = ws.contains other := by
  unfold Watchers.poll
  split
  · simp only
    split_ifs
    · rw [Table.contains, Table.contains, Table.get?_insert_of_ne _ _ h]
    · rw [Table.contains, Table.contains, Table.get?_erase_of_ne _ h]
  · rw [Table.contains, Table.contains, Table.get?_erase_of_ne _ h]

theorem shifts_poll (b : Broker) {id : ChannelId} (now : op = .poll id) :
    Shifts op b (b.poll id) := by
  unfold poll
  split
  · exact .refl
  · next ws hws =>
    have hwatch : Shifts op b { b with watchers := some (ws.poll b.channels id).2.2.1 } := by
      refine .single (.watchers hws fun other => ?_)
      by_cases hid : other = id
      · exact .inr (by rw [now, hid])
      · exact .inl (contains_poll_of_ne ws b.channels hid)
    have hread : Shifts op b { b with
        watchers := some (ws.poll b.channels id).2.2.1
        channels := (ws.poll b.channels id).2.2.2 } := by
      refine hwatch.tail (.traffic (fun other => ?_) fun _ other _ => ?_)
      · exact ws.traits?_poll b.channels id other
      · exact ws.flow?_poll b.channels id other
    simp only
    split_ifs
    · exact hread.trans (shifts_hangUp _ id)
    · exact hread

theorem shifts_idle (b : Broker) (id : ChannelId) : Shifts op b (b.idle id) := by
  unfold idle
  split
  · exact .refl
  · next ws _ =>
    refine .single (.traffic (fun other => ?_) fun _ other _ => ?_)
    · exact ws.traits?_idle b.channels id other
    · exact ws.flow?_idle b.channels id other

theorem shifts_atClient (b : Broker) (hw : op.Writes) (id : ChannelId) (a : ClientAct) :
    Shifts op b (b.atClient id a) := by
  refine .single (.traffic (fun other => ?_) fun hno => absurd hw hno)
  exact b.channels.traits?_update id (f := fun s => { s with link := s.link.act a })
    (fun _ _ => rfl) other

/-- **Every operation is a sequence of shifts**, if events are sent on socket
channels never. -/
theorem shifts_step (b : Broker) (op : Op)
    (apart : ∀ id, b.Serves id → b.directory.contains id = false) : Shifts op b (b.step op) := by
  cases op with
  | enable caller s request => exact b.shifts_enable (by trivial) caller s request
  | disable caller s => exact b.shifts_disableFor caller.pid s
  | disableFor pid s => exact b.shifts_disableFor pid s
  | setMode caller s mode => exact b.shifts_setMode caller s mode
  | flush caller s => exact b.shifts_flush caller s
  | openDataChannel caller => exact .single (.openData caller)
  | closeDataChannel caller => exact .single (.closeData caller)
  | openSocketChannel caller => exact .single (.openSocket caller)
  | closeSocketChannel caller => exact b.shifts_forPid caller.pid (.single (.dropSocket _))
  | suspend pid => exact b.shifts_suspend pid
  | resume pid => exact b.shifts_resume pid
  | resumeAll => exact .single (.arbitrate (Suspension.kept_resumeEach _ b.suspension))
  | inject s => exact b.shifts_inject (by trivial) s
  | withdraw s => exact b.shifts_withdraw (by trivial) s
  | listen caller => exact b.shifts_forPid caller.pid (.single (.listeners _))
  | unlisten caller => exact b.shifts_forPid caller.pid (.single (.listeners _))
  | processDeath pid => exact b.shifts_processDeath pid
  | clientDied token => exact b.shifts_clientDied token
  | emit slot e => exact b.shifts_emit rfl
  | dispatch => exact b.shifts_dispatch rfl apart
  | poll id => exact b.shifts_poll rfl
  | idle id => exact b.shifts_idle id
  | atClient id a => exact b.shifts_atClient (by trivial) id a

/-! ### Shifts that have nothing to do with events -/

/-- Nothing is raised but the ends of flushes, and nothing queued, taken or
kept; what was settled at the start stays. -/
structure Uneventful (b b' : Broker) : Prop where
  raised : samples b'.hardware.raised = samples b.hardware.raised
  lastEvents : ∀ {s e}, b'.registry.lastEvents.get? s = some e →
    b.registry.lastEvents.get? s = some e
  queue : b'.queue = b.queue
  dropped : b'.dropped = b.dropped
  config : b'.config = b.config
  accepting : b'.accepting = b.accepting
  watching : b'.watchers.isSome = b.watchers.isSome

/-- Nothing changes but records of processes, channels, watchers and counts. -/
structure Clerical (b b' : Broker) : Prop where
  hardware : b'.hardware = b.hardware
  active : b'.arbitration.active = b.arbitration.active
  lastEvents : b'.registry.lastEvents = b.registry.lastEvents
  queue : b'.queue = b.queue
  dropped : b'.dropped = b.dropped
  config : b'.config = b.config
  accepting : b'.accepting = b.accepting
  watching : b'.watchers.isSome = b.watchers.isSome

theorem Clerical.refl (b : Broker) : Clerical b b :=
  ⟨rfl, rfl, rfl, rfl, rfl, rfl, rfl, rfl⟩

theorem Clerical.uneventful {b b' : Broker} (h : Clerical b b') : Uneventful b b' where
  raised := by rw [h.hardware]
  lastEvents hget := h.lastEvents ▸ hget
  queue := h.queue
  dropped := h.dropped
  config := h.config
  accepting := h.accepting
  watching := h.watching

theorem clerical_openDataChannel (b : Broker) (caller : Identity) :
    Clerical b (b.openDataChannel caller).2 := by
  unfold openDataChannel forPid
  split
  · exact .refl b
  · simp only
    split
    · refine .mk rfl rfl rfl rfl rfl rfl rfl ?_
      simp only [watch, Option.isSome_map]
      exact Option.isSome_map
    · refine .mk rfl rfl rfl rfl rfl rfl rfl ?_
      exact Option.isSome_map

theorem clerical_closeDataChannel (b : Broker) (caller : Identity) :
    Clerical b (b.closeDataChannel caller).2 := by
  unfold closeDataChannel forPid Registry.destroyChannel
  split
  · exact .refl b
  · cases b.registry.channels.get? caller.pid with
    | none => exact .refl b
    | some id => exact .mk rfl rfl rfl rfl rfl rfl rfl Option.isSome_map

theorem clerical_openSocketChannel (b : Broker) (caller : Identity) :
    Clerical b (b.openSocketChannel caller).2 := by
  unfold openSocketChannel forPid
  split
  · exact .refl b
  · cases b.directory.byPid.get? caller.pid with
    | none => exact .mk rfl rfl rfl rfl rfl rfl rfl Option.isSome_map
    | some id =>
      refine .mk rfl rfl rfl rfl rfl rfl rfl ?_
      simp only [watch, Option.isSome_map]
      exact Option.isSome_map

theorem clerical_dropSocketChannel (b : Broker) (pid : Pid) :
    Clerical b (b.dropSocketChannel pid) := by
  unfold dropSocketChannel
  simp only
  split
  · exact .mk rfl rfl rfl rfl rfl rfl rfl Option.isSome_map
  · exact .mk rfl rfl rfl rfl rfl rfl rfl rfl

theorem clerical_dropRecords (b : Broker) (pid : Pid) : Clerical b (b.dropRecords pid) := by
  unfold dropRecords Registry.destroyClient Registry.destroyChannel
  cases b.registry.channels.get? pid with
  | none => exact .mk rfl rfl rfl rfl rfl rfl rfl rfl
  | some id => exact .mk rfl rfl rfl rfl rfl rfl rfl Option.isSome_map

theorem clerical_giveUp (b : Broker) (id : ChannelId) : Clerical b (b.setRecords
    (b.registry.releaseIfCurrent b.channels id).2.1
    (b.registry.releaseIfCurrent b.channels id).2.2) := by
  refine .mk rfl rfl ?_ rfl rfl rfl rfl rfl
  show (b.registry.releaseIfCurrent b.channels id).2.1.lastEvents = _
  unfold Registry.releaseIfCurrent
  split
  · rfl
  · split_ifs <;> rfl

/-- **A shift is clerical, or one of six that are not.** -/
theorem Shift.clerical_or {b b' : Broker} (shift : Shift op b b') :
    Clerical b b' ∨
      (∃ x, b.arbitration.Kept x.arbitration ∧ b' = { b with suspension := x }) ∨
      (∃ h, op.Mocks ∧ h.raised = b.hardware.raised ∧ b' = b.setHardware h) ∨
      b' = b.collect ∨
      (∃ slot e, op = .emit slot e ∧ b' = b.setHardware (b.hardware.emit slot e)) ∨
      (∃ e rest, op = .dispatch ∧ b.queue = e :: rest ∧ b' = { b with queue := rest }) ∨
      ∃ e, op = .dispatch ∧ e.isFlushComplete = false ∧
        b' = b.setRegistry (b.registry.storeEvent e) := by
  cases shift with
  | @arbitrate x kept => exact .inr (.inl ⟨x, kept, rfl⟩)
  | mock now raised => exact .inr (.inr (.inl ⟨_, now, raised, rfl⟩))
  | collect => exact .inr (.inr (.inr (.inl rfl)))
  | @raise slot e now => exact .inr (.inr (.inr (.inr (.inl ⟨slot, e, now, rfl⟩))))
  | @take e rest now oldest =>
    exact .inr (.inr (.inr (.inr (.inr (.inl ⟨e, rest, now, oldest, rfl⟩)))))
  | @keep e now sample => exact .inr (.inr (.inr (.inr (.inr (.inr ⟨e, now, sample, rfl⟩)))))
  | watchers attached _ =>
    exact .inl ⟨rfl, rfl, rfl, rfl, rfl, rfl, rfl, by rw [attached]; rfl⟩
  | openData caller => exact .inl (b.clerical_openDataChannel caller)
  | closeData caller => exact .inl (b.clerical_closeDataChannel caller)
  | openSocket caller => exact .inl (b.clerical_openSocketChannel caller)
  | dropSocket pid => exact .inl (b.clerical_dropSocketChannel pid)
  | dropRecords pid => exact .inl (b.clerical_dropRecords pid)
  | giveUp _ _ => exact .inl (b.clerical_giveUp _)
  | count _ _ | flushes _ _ | listeners _ | forgetToken _ | traffic _ _ | depart _ =>
    exact .inl ⟨rfl, rfl, rfl, rfl, rfl, rfl, rfl, rfl⟩

/-- **A shift has nothing to do with events, or is one of four that have.** -/
theorem Shift.uneventful_or {b b' : Broker} (shift : Shift op b b') :
    Uneventful b b' ∨ b' = b.collect ∨
      (∃ slot e, op = .emit slot e ∧ b' = b.setHardware (b.hardware.emit slot e)) ∨
      (∃ e rest, op = .dispatch ∧ b.queue = e :: rest ∧ b' = { b with queue := rest }) ∨
      ∃ e, op = .dispatch ∧ e.isFlushComplete = false ∧
        b' = b.setRegistry (b.registry.storeEvent e) := by
  rcases shift.clerical_or with h | ⟨x, kept, rfl⟩ | ⟨hw, -, raised, rfl⟩ | heventful
  · exact .inl h.uneventful
  · exact .inl ⟨kept.hardware.samples, kept.lastEvents, rfl, rfl, rfl, rfl, rfl⟩
  · exact .inl ⟨congrArg samples raised, id, rfl, rfl, rfl, rfl, rfl⟩
  · exact .inr heventful

end

end Broker
end SensorBroker
