/-
# Runs of a broker

All that can happen to a running broker, short of stopping it, is one of the
operations here: what clients ask, what backends and sockets do, and the turns
of the dispatcher and of the watchers. A broker is reachable if it was started
over backends that nothing was asked of, and operations followed in any order.

Every operation is a sequence of moves (`Broker.moves_step`); only a request
to enable a sensor subscribes anybody who was not suspended, only a request to
suspend a process suspends it, and only a request to end a mock ends it.

Key definitions: `Broker.Op`, `Broker.step`, `Broker.run`, `Broker.Reachable`,
`Broker.Op.Grants`, `Broker.Op.Freezes`, `Broker.Op.Drops`.
Key theorems: `Broker.requestFlush_eq`, `Broker.moves_step`, `Broker.start_ok`,
`Broker.Reachable.steps`, `Broker.Reachable.consistent`.
-/
import SensorBroker.Proofs.Channel.Peer
import SensorBroker.Proofs.Service.FlushHistory
import SensorBroker.Proofs.Service.Moves
import SensorBroker.Service.Lifecycle

namespace SensorBroker
namespace Broker

/-- Something that happens to a running broker. -/
inductive Op
  | enable (caller : Identity) (s : SensorId) (request : Request)
  | disable (caller : Identity) (s : SensorId)
  | disableFor (pid : Pid) (s : SensorId)
  | setMode (caller : Identity) (s : SensorId) (mode : Int32)
  | flush (caller : Identity) (s : SensorId)
  | openDataChannel (caller : Identity)
  | closeDataChannel (caller : Identity)
  | openSocketChannel (caller : Identity)
  | closeSocketChannel (caller : Identity)
  | suspend (pid : Pid)
  | resume (pid : Pid)
  | resumeAll
  | inject (s : SensorId)
  | withdraw (s : SensorId)
  | listen (caller : Identity)
  | unlisten (caller : Identity)
  | processDeath (pid : Pid)
  | clientDied (token : Token)
  /-- A backend raises an event. -/
  | emit (slot : Slot) (e : Event)
  /-- The dispatcher takes the oldest event that waits. -/
  | dispatch
  /-- The watcher of a channel reads what there is. -/
  | poll (id : ChannelId)
  /-- The watcher of a channel has waited in vain. -/
  | idle (id : ChannelId)
  /-- The client of a channel does something with its end. -/
  | atClient (id : ChannelId) (a : ClientAct)

/-- The client of a channel does something with its end. -/
def atClient (b : Broker) (id : ChannelId) (a : ClientAct) : Broker :=
  { b with channels := b.channels.update id fun s => { s with link := s.link.act a } }

/-- The broker after something has happened to it. -/
def step (b : Broker) : Op → Broker
  | .enable caller s request => (b.enable caller s request).2
  | .disable caller s => (b.disable caller s).2
  | .disableFor pid s => (b.disableFor pid s).2
  | .setMode caller s mode => (b.setMode caller s mode).2
  | .flush caller s => (b.flush caller s).2
  | .openDataChannel caller => (b.openDataChannel caller).2
  | .closeDataChannel caller => (b.closeDataChannel caller).2
  | .openSocketChannel caller => (b.openSocketChannel caller).2
  | .closeSocketChannel caller => (b.closeSocketChannel caller).2
  | .suspend pid => (b.suspend pid).2
  | .resume pid => (b.resume pid).2
  | .resumeAll => b.resumeAll.2
  | .inject s => (b.inject s).2
  | .withdraw s => (b.withdraw s).2
  | .listen caller => (b.listen caller).2
  | .unlisten caller => (b.unlisten caller).2
  | .processDeath pid => (b.processDeath pid).2
  | .clientDied token => (b.clientDied token).2
  | .emit slot e => b.emit slot e
  | .dispatch => b.dispatch
  | .poll id => b.poll id
  | .idle id => b.idle id
  | .atClient id a => b.atClient id a

/-- The broker after a run of operations. -/
def run (b : Broker) (ops : List Op) : Broker :=
  ops.foldl step b

/-- The brokers that any start and any run lead to. -/
inductive Reachable : Broker → Prop
  | start {config : Config} {vendor : Device} {blueprint : Nat → Device} {rule : SocketRule}
    {watching : Bool} {b : Broker} (vendor_idle : vendor.IsIdle)
    (built_idle : ∀ n, (blueprint n).IsIdle)
    (started : (ofConfig config (.ofSettings config.hardware vendor blueprint) rule
      watching).start = (.ok (), b)) : Reachable b
  | step {b : Broker} (before : Reachable b) (op : Op) : Reachable (b.step op)

theorem reachable_start {config : Config} {vendor : Device} {blueprint : Nat → Device}
    {rule : SocketRule} {watching : Bool} (vendor_idle : vendor.IsIdle)
    (built_idle : ∀ n, (blueprint n).IsIdle)
    (started : (ofConfig config (.ofSettings config.hardware vendor blueprint) rule
      watching).start.1 = .ok ()) :
    Reachable (ofConfig config (.ofSettings config.hardware vendor blueprint) rule
      watching).start.2 :=
  .start vendor_idle built_idle (Prod.ext started rfl)

/-- What starting has done when it succeeds: the hardware is open, and some
sensors are mocked. -/
theorem start_ok {b b' : Broker} (h : b.start = (.ok (), b')) :
    ∃ hw, b.hardware.connect = (.ok (), hw) ∧
      b' = b.setHardware (injectEach b.config.hardware.injectOnStart hw) := by
  unfold start at h
  split at h
  · cases h
  · next hw hconnect =>
    cases h
    exact ⟨hw, hconnect, rfl⟩

theorem Reachable.run {b : Broker} (h : b.Reachable) : ∀ ops : List Op, (b.run ops).Reachable
  | [] => h
  | op :: ops => Reachable.run (h.step op) ops

/-- A broker that was just started: the vendor's backend has an accelerometer
and refuses nothing, and mocks are served by the software backend. -/
def trial : Broker :=
  (ofConfig {} (.ofSettings {} (.scripted "real" [Device.scriptedDescriptor .accelerometer]
    (fun _ _ => false) false true) fun _ => .software) default false).start.2

theorem reachable_trial : trial.Reachable :=
  reachable_start ⟨rfl, rfl⟩ (fun _ => ⟨rfl, rfl⟩) rfl

/-- Which process an operation may subscribe to which sensor. -/
def Op.Grants : Op → Pid → SensorId → Prop
  | .enable caller s _, pid, s' => caller.pid = pid ∧ s = s'
  | _, _, _ => False

/-- Which process an operation may suspend. -/
def Op.Freezes : Op → Pid → Prop
  | .suspend pid, pid' => pid = pid'
  | _, _ => False

/-- Which mock an operation may end. -/
def Op.Drops : Op → SensorId → Prop
  | .withdraw s, s' => s = s'
  | _, _ => False

/-! ### What leaves hardware, records and snapshots alone -/

section

variable (b : Broker)

@[simp] theorem suspension_report (pid : Pid) (s : SensorId) (isActive : Bool)
    (request : Request) : (b.report pid s isActive request).suspension = b.suspension := by
  unfold report
  split <;> rfl

@[simp] theorem suspension_reportActive (pid : Pid) (s : SensorId) :
    (b.reportActive pid s).suspension = b.suspension := by
  unfold reportActive
  split
  · exact b.suspension_report ..
  · rfl

@[simp] theorem suspension_replay (pid : Pid) (s : SensorId) :
    (b.replay pid s).suspension = b.suspension := by
  unfold replay
  split
  · split <;> rfl
  · rfl

@[simp] theorem suspension_dropSocketChannel (pid : Pid) :
    (b.dropSocketChannel pid).suspension = b.suspension := by
  unfold dropSocketChannel
  simp only
  split <;> rfl

@[simp] theorem suspension_offer (e : Event) : (b.offer e).suspension = b.suspension := by
  unfold offer
  split_ifs <;> rfl

theorem suspension_foldl_offer : ∀ (es : List Event) (b : Broker),
    (es.foldl offer b).suspension = b.suspension
  | [], _ => rfl
  | e :: es, b => (suspension_foldl_offer es (b.offer e)).trans (b.suspension_offer e)

/-- Queueing what was raised takes it from the hardware. -/
theorem suspension_collect :
    b.collect.suspension = b.suspension.setHardware { b.hardware with raised := [] } :=
  suspension_foldl_offer ..

theorem suspension_reportSuspended (pid : Pid) (saved : Snapshot) :
    ∀ (sensors : List SensorId) (b : Broker),
      (reportSuspended pid saved sensors b).suspension = b.suspension
  | [], _ => rfl
  | s :: rest, b => by
    rw [reportSuspended, suspension_reportSuspended pid saved rest]
    split
    · exact b.suspension_report ..
    · rfl

theorem suspension_foldl_reportActive (pid : Pid) : ∀ (sensors : List SensorId) (b : Broker),
    (sensors.foldl (fun b s => b.reportActive pid s) b).suspension = b.suspension
  | [], _ => rfl
  | _ :: rest, b => (suspension_foldl_reportActive pid rest _).trans (b.suspension_reportActive ..)

end

/-! ### Operations as moves -/

section

open Suspension (Move Moves)

variable {g : Pid → SensorId → Prop} {f : Pid → Prop} {d : SensorId → Prop}

theorem moves_forPid {α : Type} {x : Suspension} (b : Broker) (pid : Pid)
    {answer : Except ServiceError α × Broker} (hb : Moves g f d x b.suspension)
    (ha : Moves g f d x answer.2.suspension) :
    Moves g f d x (b.forPid pid answer).2.suspension := by
  unfold forPid
  split
  · exact hb
  · exact ha

theorem moves_collect (b : Broker) : Moves g f d b.suspension b.collect.suspension := by
  rw [suspension_collect]
  exact .single (.raise [])

theorem moves_disable (b : Broker) (pid : Pid) (s : SensorId) :
    Moves g f d b.suspension (b.setArbitration (b.arbitration.disable pid s).2).suspension :=
  .single (.disable pid s)

theorem moves_perform (b : Broker) {c : DeviceCall} (hc : Arbitration.Passing c) :
    Moves g f d b.suspension (b.setArbitration (b.arbitration.perform c).2).suspension :=
  .single (.call hc)

theorem moves_setRegistry (b : Broker) {r : Registry}
    (h : ∀ s, r.subscriptionsOf s = b.registry.subscriptionsOf s) :
    Moves g f d b.suspension (b.setRegistry r).suspension :=
  .single (.record h)

/-- Asking for a flush is an act upon the queues; the command is given whatever
is queued, and what it raises waits in the queue of events. -/
theorem requestFlush_eq (b : Broker) (s : SensorId) (pid : Pid) (channel : ChannelId)
    (isFirst : Bool) : (b.requestFlush s pid channel isFirst).2 =
      (({ b with flushes :=
          b.flushes.step (.request b.arbitration s pid channel isFirst []) } : Broker).setArbitration
        (b.arbitration.runCommand s .flush).2).collect := by
  show (({ b with flushes := (b.flushes.request b.arbitration s pid channel isFirst).2.1 } :
    Broker).setArbitration (b.flushes.request b.arbitration s pid channel isFirst).2.2).collect = _
  rw [FlushQueues.arbitration_request, ← FlushQueues.requestAmid_nil]
  rfl

theorem moves_requestFlush (b : Broker) (s : SensorId) (pid : Pid) (channel : ChannelId)
    (isFirst : Bool) :
    Moves g f d b.suspension (b.requestFlush s pid channel isFirst).2.suspension := by
  let queued : Broker :=
    { b with flushes := b.flushes.step (.request b.arbitration s pid channel isFirst []) }
  let called := queued.setArbitration (b.arbitration.runCommand s .flush).2
  have hcall : Moves g f d b.suspension called.suspension :=
    b.moves_perform (Arbitration.passing_command s .flush)
  rw [requestFlush_eq]
  exact hcall.trans called.moves_collect

theorem moves_flushOnJoin (b : Broker) (pid : Pid) (s : SensorId) :
    Moves g f d b.suspension (b.flushOnJoin pid s).suspension := by
  unfold flushOnJoin
  split
  · exact b.moves_requestFlush ..
  · exact .refl

theorem moves_enable (b : Broker) (caller : Identity) (s : SensorId) (request : Request)
    (granted : g caller.pid s) :
    Moves g f d b.suspension (b.enable caller s request).2.suspension := by
  refine b.moves_forPid caller.pid .refl ?_
  have henable : Moves g f d b.suspension
      (b.suspension.setArbitration (b.arbitration.enable caller.pid s request).2) :=
    .single (.enable request granted)
  split
  · next h =>
    rw [h] at henable
    exact henable
  · next outcome a h =>
    rw [h] at henable
    rw [suspension_reportActive]
    split
    · rw [suspension_replay]
      exact henable.trans ((b.setArbitration a).moves_flushOnJoin ..)
    · exact henable

theorem moves_disableFor (b : Broker) (pid : Pid) (s : SensorId) :
    Moves g f d b.suspension (b.disableFor pid s).2.suspension := by
  refine b.moves_forPid pid .refl ?_
  have hdiscard : Moves g f d b.suspension (b.suspension.discard pid s).2 :=
    .single (.discard pid s)
  split
  · exact .refl
  · split
    · next h =>
      rw [h] at hdiscard
      rw [suspension_report]
      exact hdiscard
    · next x h =>
      rw [h] at hdiscard
      have hdisable := hdiscard.trans (({ b with suspension := x } : Broker).moves_disable pid s)
      simp only
      split
      · next hd =>
        rw [hd] at hdisable
        rw [suspension_report]
        exact hdisable
      · next hd =>
        rw [hd] at hdisable
        exact hdisable

theorem moves_setMode (b : Broker) (caller : Identity) (s : SensorId) (mode : Int32) :
    Moves g f d b.suspension (b.setMode caller s mode).2.suspension := by
  refine b.moves_forPid caller.pid .refl ?_
  split
  · exact b.moves_perform (Arbitration.passing_setMode s mode)
  · exact .refl

theorem moves_flush (b : Broker) (caller : Identity) (s : SensorId) :
    Moves g f d b.suspension (b.flush caller s).2.suspension := by
  refine b.moves_forPid caller.pid .refl ?_
  split
  · exact .refl
  · split
    · exact .refl
    · exact b.moves_requestFlush ..

theorem moves_openDataChannel (b : Broker) (caller : Identity) :
    Moves g f d b.suspension (b.openDataChannel caller).2.suspension := by
  refine b.moves_forPid caller.pid .refl ?_
  have hset : Moves g f d b.suspension (b.setRegistry ((b.registry.setApp caller).setChannel
      caller.pid (b.channels.add caller.pid caller.uid 0 b.config.transport b.rule).1).2).suspension :=
    b.moves_setRegistry fun _ => rfl
  simp only
  split
  · exact hset
  · exact hset

theorem moves_closeDataChannel (b : Broker) (caller : Identity) :
    Moves g f d b.suspension (b.closeDataChannel caller).2.suspension := by
  refine b.moves_forPid caller.pid .refl ?_
  unfold Registry.destroyChannel
  cases b.registry.channels.get? caller.pid with
  | none => exact .refl
  | some id => exact b.moves_setRegistry fun _ => rfl

theorem moves_openSocketChannel (b : Broker) (caller : Identity) :
    Moves g f d b.suspension (b.openSocketChannel caller).2.suspension := by
  refine b.moves_forPid caller.pid .refl ?_
  have hset : Moves g f d b.suspension
      (b.setRegistry (b.registry.setToken caller.token caller.pid)).suspension :=
    b.moves_setRegistry fun _ => rfl
  cases h : b.directory.byPid.get? caller.pid with
  | none => exact hset
  | some old => exact hset

theorem moves_closeSocketChannel (b : Broker) (caller : Identity) :
    Moves g f d b.suspension (b.closeSocketChannel caller).2.suspension := by
  refine b.moves_forPid caller.pid .refl ?_
  rw [suspension_dropSocketChannel]

theorem moves_suspend (b : Broker) {pid : Pid} (frozen : f pid) :
    Moves g f d b.suspension (b.suspend pid).2.suspension := by
  refine b.moves_forPid pid .refl ?_
  rw [suspension_reportSuspended]
  exact .single (.suspend frozen)

theorem moves_resume (b : Broker) (pid : Pid) :
    Moves g f d b.suspension (b.resume pid).2.suspension := by
  refine b.moves_forPid pid .refl ?_
  have hresume : Moves g f d b.suspension (b.suspension.resume pid).2 := .single (.resume pid)
  split
  · next h =>
    rw [h] at hresume
    exact hresume
  · next h =>
    rw [h] at hresume
    rw [suspension_foldl_reportActive]
    exact hresume

theorem moves_resumeEach : ∀ (pids : List Pid) (x : Suspension),
    Moves g f d x (Suspension.resumeEach pids x).2
  | [], _ => .refl
  | pid :: rest, x => by
    rw [Suspension.resumeEach]
    have hresume : Moves g f d x (x.resume pid).2 := .single (.resume pid)
    split
    · next h =>
      rw [h] at hresume
      exact hresume.trans (moves_resumeEach rest _)
    · next h =>
      rw [h] at hresume
      exact hresume.trans (moves_resumeEach rest _)

theorem moves_inject (b : Broker) (s : SensorId) :
    Moves g f d b.suspension (b.inject s).2.suspension := by
  have hinject : Moves g f d b.suspension
      (b.suspension.setHardware (b.hardware.inject s).2) := .single (.inject s)
  unfold inject
  split
  · next h =>
    rw [h] at hinject
    exact hinject
  · next h =>
    rw [h] at hinject
    exact hinject

theorem moves_disableEach (s : SensorId) : ∀ (pids : List Pid) (b : Broker),
    Moves g f d b.suspension (disableEach s pids b).suspension
  | [], _ => .refl
  | pid :: rest, b => (b.moves_disableFor pid s).trans (moves_disableEach s rest _)

theorem moves_withdraw (b : Broker) {s : SensorId} (dropped : d s) :
    Moves g f d b.suspension (b.withdraw s).2.suspension := by
  unfold withdraw
  split
  · have hdisabled := moves_disableEach (g := g) (f := f) (d := d) s (b.registry.subscribers s) b
    have hwithdraw : Moves g f d b.suspension
        ((disableEach s (b.registry.subscribers s) b).setHardware
          ((disableEach s (b.registry.subscribers s) b).hardware.withdraw s).2).suspension :=
      hdisabled.tail (.withdraw dropped)
    simp only
    split
    · next h =>
      rw [h] at hwithdraw
      exact hwithdraw
    · next h =>
      rw [h] at hwithdraw
      exact hwithdraw
  · exact .refl

theorem moves_releaseEach (pid : Pid) : ∀ (sensors : List SensorId) (b : Broker),
    Moves g f d b.suspension (releaseEach pid sensors b).2.suspension
  | [], _ => .refl
  | s :: rest, b => by
    have hdisable := b.moves_disable (g := g) (f := f) (d := d) pid s
    rw [releaseEach]
    split
    · next h =>
      rw [h] at hdisable
      refine hdisable.trans (.trans ?_ (moves_releaseEach pid rest _))
      rw [suspension_report]
    · next h =>
      rw [h] at hdisable
      exact hdisable.trans (moves_releaseEach pid rest _)
    · next h =>
      rw [h] at hdisable
      exact hdisable.trans (moves_releaseEach pid rest _)

theorem moves_dropRecords (b : Broker) (pid : Pid) :
    Moves g f d b.suspension (b.dropRecords pid).suspension := by
  have hset : Moves g f d b.suspension
      (b.setRegistry (b.registry.destroyClient b.channels pid).2.1).suspension :=
    b.moves_setRegistry fun s => b.registry.subscriptionsOf_destroyClient b.channels pid s
  unfold dropRecords
  simp only
  split
  · exact hset
  · exact hset

theorem moves_release (b : Broker) (pid : Pid) :
    Moves g f d b.suspension
      (((releaseEach pid (b.registry.sensorsOf pid) b).2.dropSocketChannel pid).dropRecords
        pid).suspension := by
  refine (moves_releaseEach pid (b.registry.sensorsOf pid) b).trans (.trans ?_ (moves_dropRecords _ pid))
  rw [suspension_dropSocketChannel]

theorem moves_processDeath (b : Broker) (pid : Pid) :
    Moves g f d b.suspension (b.processDeath pid).2.suspension := by
  have hforget : Moves g f d b.suspension (b.suspension.forget pid).2 := .single (.forget pid)
  exact hforget.trans (moves_release { b with suspension := (b.suspension.forget pid).2 } pid)

theorem moves_clientDied (b : Broker) (token : Token) :
    Moves g f d b.suspension (b.clientDied token).2.suspension := by
  unfold clientDied Registry.dropToken
  cases b.registry.tokens.get? token with
  | none => exact .refl
  | some pid =>
    have hset : Moves g f d b.suspension
        (b.setRegistry { b.registry with tokens := b.registry.tokens.erase token }).suspension :=
      b.moves_setRegistry fun _ => rfl
    exact hset.trans (moves_processDeath _ pid)

theorem moves_emit (b : Broker) (slot : Slot) (e : Event) :
    Moves g f d b.suspension (b.emit slot e).suspension := by
  refine .trans (.single ?_) (moves_collect _)
  exact .raise (b.hardware.raised ++ (b.hardware.device slot).emit e)

theorem moves_sendOn (b : Broker) (frame : Bytes) (id : ChannelId) :
    Moves g f d b.suspension (b.sendOn frame id).2.suspension := by
  unfold sendOn
  split
  · exact .refl
  · next e cs _ =>
    split
    · exact b.moves_setRegistry fun s => b.registry.subscriptionsOf_releaseIfCurrent cs id s
    · exact .refl

theorem moves_sendEach (frame : Bytes) : ∀ (ids : List ChannelId) (b : Broker),
    Moves g f d b.suspension (sendEach frame ids b).2.2.suspension
  | [], _ => .refl
  | id :: rest, b => by
    have hrest := (b.moves_sendOn frame id).trans (moves_sendEach frame rest (b.sendOn frame id).2)
    rw [sendEach]
    simp only
    split
    · exact hrest
    · exact hrest

theorem moves_deliverSample (b : Broker) (e : Event) :
    Moves g f d b.suspension (b.deliverSample e).suspension := by
  have hstore : Moves g f d b.suspension (b.setRegistry (b.registry.storeEvent e)).suspension :=
    b.moves_setRegistry fun _ => rfl
  unfold deliverSample
  simp only
  split
  · exact hstore
  · exact hstore.trans (moves_sendEach ..)

theorem moves_deliverFlush (b : Broker) (e : Event) :
    Moves g f d b.suspension (b.deliverFlush e).suspension := by
  unfold deliverFlush
  split
  · exact .refl
  · next entry flushes _ =>
    simp only
    split
    · exact .refl
    · exact ({ b with flushes } : Broker).moves_sendOn ..

theorem moves_route (b : Broker) (e : Event) :
    Moves g f d b.suspension (b.route e).suspension := by
  unfold route
  split
  · exact b.moves_deliverFlush e
  · exact b.moves_deliverSample e

theorem moves_foldl_route : ∀ (es : List Event) (b : Broker),
    Moves g f d b.suspension (es.foldl route b).suspension
  | [], _ => .refl
  | e :: rest, b => (b.moves_route e).trans (moves_foldl_route rest _)

theorem moves_dispatch (b : Broker) : Moves g f d b.suspension b.dispatch.suspension := by
  unfold dispatch
  split
  · exact .refl
  · next e rest _ => exact ({ b with queue := rest } : Broker).moves_route e

theorem moves_hangUp (b : Broker) (id : ChannelId) :
    Moves g f d b.suspension (b.hangUp id).suspension := by
  unfold hangUp
  split
  · exact .refl
  · split_ifs
    · exact b.moves_processDeath _
    · exact .refl
    · exact .refl

theorem moves_poll (b : Broker) (id : ChannelId) :
    Moves g f d b.suspension (b.poll id).suspension := by
  unfold poll
  split
  · exact .refl
  · next ws _ =>
    simp only
    split
    · exact ({ b with
        watchers := some (ws.poll b.channels id).2.2.1
        channels := (ws.poll b.channels id).2.2.2 } : Broker).moves_hangUp id
    · exact .refl

theorem moves_idle (b : Broker) (id : ChannelId) :
    Moves g f d b.suspension (b.idle id).suspension := by
  unfold idle
  split <;> exact .refl

/-- **Every operation is a sequence of moves**, which subscribe nobody but
those whom the operation grants it, suspend nobody but whom it names, and end
no mock but that which it names. -/
theorem moves_step (b : Broker) (op : Op) :
    Moves op.Grants op.Freezes op.Drops b.suspension (b.step op).suspension := by
  cases op with
  | enable caller s request => exact b.moves_enable caller s request ⟨rfl, rfl⟩
  | disable caller s => exact b.moves_disableFor caller.pid s
  | disableFor pid s => exact b.moves_disableFor pid s
  | setMode caller s mode => exact b.moves_setMode caller s mode
  | flush caller s => exact b.moves_flush caller s
  | openDataChannel caller => exact b.moves_openDataChannel caller
  | closeDataChannel caller => exact b.moves_closeDataChannel caller
  | openSocketChannel caller => exact b.moves_openSocketChannel caller
  | closeSocketChannel caller => exact b.moves_closeSocketChannel caller
  | suspend pid => exact b.moves_suspend rfl
  | resume pid => exact b.moves_resume pid
  | resumeAll => exact moves_resumeEach b.suspension.snapshots.keys b.suspension
  | inject s => exact b.moves_inject s
  | withdraw s => exact b.moves_withdraw rfl
  | listen caller => exact b.moves_forPid caller.pid .refl (b.moves_setRegistry fun _ => rfl)
  | unlisten caller => exact b.moves_forPid caller.pid .refl (b.moves_setRegistry fun _ => rfl)
  | processDeath pid => exact b.moves_processDeath pid
  | clientDied token => exact b.moves_clientDied token
  | emit slot e => exact b.moves_emit slot e
  | dispatch => exact b.moves_dispatch
  | poll id => exact b.moves_poll id
  | idle id => exact b.moves_idle id
  | atClient id a => exact .refl

end

/-! ### Every reachable broker -/

theorem steps_injectEach : ∀ (sensors : List SensorId) (a : Arbitration),
    Arbitration.Steps a { a with hardware := injectEach sensors a.hardware }
  | [], _ => .refl
  | s :: rest, a => (steps_injectEach rest { a with hardware := (a.hardware.inject s).2 }).head
    (.inject s)

/-- **Whatever leads to a broker, its arbitration has gone there step by step**,
over hardware that nothing was asked of at first. -/
theorem Reachable.steps {b : Broker} (h : b.Reachable) : ∃ settings hw, Hardware.Unused hw ∧
    Arbitration.Steps (.ofSettings settings hw) b.arbitration := by
  induction h with
  | @start config vendor blueprint rule watching b vendor_idle built_idle started =>
    obtain ⟨hw, hconnect, rfl⟩ := start_ok started
    have hu := (Hardware.unused_ofSettings config.hardware vendor_idle built_idle).connect
    have hconnected : (Hardware.ofSettings config.hardware vendor blueprint).connect.2 = hw :=
      congrArg Prod.snd hconnect
    rw [hconnected] at hu
    exact ⟨config.service, hw, hu, steps_injectEach config.hardware.injectOnStart _⟩
  | step before op ih =>
    obtain ⟨settings, hw, hu, hsteps⟩ := ih
    exact ⟨settings, hw, hu, hsteps.trans (moves_step _ op).steps⟩

/-- **In every reachable broker every sensor is settled.** -/
theorem Reachable.consistent {b : Broker} (h : b.Reachable) : b.arbitration.Consistent := by
  obtain ⟨settings, hw, hu, hsteps⟩ := h.steps
  exact hsteps.consistent (Arbitration.consistent_ofSettings settings hu)

end Broker
end SensorBroker
