/-
# What stopping releases, and what it leaves

Stopping ends the subscriptions to every sensor that runs, one after the other,
and while no backend refuses a call that works for every sensor that is still
served. Then the backends are closed, which silences even a sensor that could
not be switched off. The socket channels are closed, and an event that is raised
later finds nobody who takes it (`Broker.Ended`).

Two things are left. Nobody visits the data channels: those that are not given
up while the last events are passed on stay open, and stay the data channels of
their processes. And a sensor whose mock was withdrawn under its subscribers
(`Broker.Stranded`) cannot be switched off, because calls about it reach no
backend: the last of its subscribers stays, and so does what arbitration noted.

Key definitions: `Broker.Stranded`, `Broker.Ended`, `Broker.Stopped`.
Key theorems: `Hardware.Sound.reports_disconnect`,
`Arbitration.releaseSensors_ends`, `Arbitration.subscribed_releaseSensors`,
`Broker.Regular.isClosed_stop_iff`, `Broker.Ended.after`,
`Broker.Reachable.stop_releases`.
-/
import SensorBroker.Proofs.Service.Admission
import SensorBroker.Proofs.Service.Attending
import SensorBroker.Proofs.Service.Obliging
import SensorBroker.Proofs.Service.Routing

namespace SensorBroker

/-! ### Closing the backends -/

namespace Hardware

variable {h : Hardware} {slot : Slot} {s : SensorId}

theorem holds_closeSlot (h : Hardware) (closed : Option Slot) :
    (h.closeSlot closed).Holds slot ↔ h.Holds slot := by
  cases closed with
  | none => exact .rfl
  | some other => exact h.holds_setDevice _ other slot

theorem device_closeSlot (hslot : h.Holds slot) (closed : Option Slot) :
    (h.closeSlot closed).device slot =
      if closed = some slot then (h.device slot).disconnect else h.device slot := by
  cases closed with
  | none => rfl
  | some other =>
    by_cases heq : slot = other
    · rw [if_pos (congrArg some heq.symm), ← heq]
      exact device_setDevice_self hslot _
    · rw [if_neg fun h => heq (Option.some.inj h).symm]
      exact device_setDevice_of_ne hslot heq _

theorem primary_closeSlot (h : Hardware) (closed : Option Slot) :
    (h.closeSlot closed).primary = h.primary := by
  cases closed with
  | none => rfl
  | some slot => cases slot <;> rfl

theorem holds_disconnect (h : Hardware) : h.disconnect.Holds slot ↔ h.Holds slot :=
  (holds_closeSlot { h.closeSlot h.compatible with compatible := none } _).trans
    (h.holds_closeSlot h.compatible)

/-- The primary and the compatible backend are closed, and no other. -/
theorem device_disconnect (hslot : h.Holds slot) : h.disconnect.device slot =
    if h.primary = some slot ∨ h.compatible = some slot then (h.device slot).disconnect
    else h.device slot := by
  let first : Hardware := { h.closeSlot h.compatible with compatible := none }
  have hheld : first.Holds slot := (h.holds_closeSlot h.compatible).2 hslot
  have hprimary : first.primary = h.primary := h.primary_closeSlot h.compatible
  have hfirst : first.device slot =
      if h.compatible = some slot then (h.device slot).disconnect else h.device slot :=
    device_closeSlot hslot h.compatible
  have hlast : h.disconnect.device slot =
      if first.primary = some slot then (first.device slot).disconnect else first.device slot :=
    device_closeSlot hheld first.primary
  rw [hlast, hprimary, hfirst]
  by_cases hcompatible : h.compatible = some slot
  · have hclosed : h.primary = some slot ∨ h.compatible = some slot := .inr hcompatible
    rw [if_pos hcompatible, if_pos hclosed]
    -- to close a backend twice is to close it
    exact ite_self _
  · rw [if_neg hcompatible]
    simp only [hcompatible, or_false]

/-- To close a backend is no call to it. -/
theorem refusals_disconnect (hslot : h.Holds slot) :
    (h.disconnect.device slot).refusals = (h.device slot).refusals := by
  rw [device_disconnect hslot]
  split_ifs <;> rfl

/-- **Backends that are closed report nothing**, whatever could not be switched
off before. -/
theorem Sound.reports_disconnect (hs : h.Sound) {d : Device} (hd : d ∈ h.disconnect.devices)
    (s : SensorId) : d.reports s = false := by
  obtain ⟨slot, hslot, rfl⟩ := mem_devices_iff.1 hd
  have hheld : h.Holds slot := h.holds_disconnect.1 hslot
  rw [device_disconnect hheld]
  split_ifs with hclosed
  · rfl
  · -- a backend that stays open is nobody's home
    refine (hs.apart hheld fun hhome => hclosed ?_).1
    unfold home at hhome
    split_ifs at hhome
    · exact .inl hhome
    · exact .inr hhome

end Hardware

/-! ### Ending every subscription -/

namespace Arbitration

open Broker (releaseSubscribers releaseSensors releaseSubscribers_induction
  releaseSensors_induction)

variable {a : Arbitration} {pid : Pid} {s : SensorId}

/-- Whoever still subscribes asked for the same before. -/
theorem subscription_of_disable {request : Request} {other : Pid} {s' : SensorId}
    (h : (a.disable pid s).2.registry.subscription other s' = some request) :
    a.registry.subscription other s' = some request := by
  by_cases hps : other = pid ∧ s' = s
  · obtain ⟨rfl, rfl⟩ := hps
    rcases hd : a.disable other s' with ⟨e | outcome, a'⟩
    · rw [hd] at h
      exact (subscription_of_disable_error hd other s').symm.trans h
    · rw [hd] at h
      cases (subscription_of_disable_ok hd).symm.trans h
  · exact (subscription_disable_of_ne rfl (Classical.not_and_iff_not_or_not.1 hps)).symm.trans h

theorem subscription_of_releaseSensors {request : Request} (sensors : List SensorId)
    (h : (releaseSensors sensors a).registry.subscription pid s = some request) :
    a.registry.subscription pid s = some request :=
  releaseSensors_induction (P := fun a' => a'.registry.subscription pid s = some request →
      a.registry.subscription pid s = some request)
    (fun _ _ before after => before (subscription_of_disable after)) sensors id h

theorem subscription_releaseSubscribers_eq_none {s' : SensorId} (pids : List Pid)
    (h : a.registry.subscription pid s = none) :
    (releaseSubscribers s' pids a).registry.subscription pid s = none :=
  releaseSubscribers_induction (P := fun a => a.registry.subscription pid s = none) s'
    (fun _ before => subscription_disable_eq_none rfl before) pids h

theorem subscription_releaseSensors_eq_none (sensors : List SensorId)
    (h : a.registry.subscription pid s = none) :
    (releaseSensors sensors a).registry.subscription pid s = none :=
  releaseSensors_induction (P := fun a => a.registry.subscription pid s = none)
    (fun _ _ before => subscription_disable_eq_none rfl before) sensors h

/-- Where calls about the sensor reach a backend and none refuses, each of some
subscribers is gone. -/
theorem releaseSubscribers_ends : ∀ {pids : List Pid} {a : Arbitration}, a.hardware.Reaches s →
    a.hardware.Obliges (releaseSubscribers s pids a).hardware → pid ∈ pids →
    (releaseSubscribers s pids a).registry.subscription pid s = none
  | [], _, _, _, hpid => (List.not_mem_nil hpid).elim
  | first :: rest, a, hr, ho, hpid => by
    have hfirst := (a.kept_disable first s).hardware.toEquipped
    have hrest := (Broker.kept_releaseSubscribers s rest (a.disable first s).2).hardware.toEquipped
    have hone : a.hardware.Obliges (a.disable first s).2.hardware :=
      ho.between (.refl _) hfirst hrest
    have hothers : (a.disable first s).2.hardware.Obliges _ := ho.between hfirst hrest (.refl _)
    rcases List.mem_cons.1 hpid with rfl | hpid
    · have hgone : (a.disable pid s).2.registry.subscription pid s = none := by
        cases hsub : a.registry.subscription pid s with
        | none => exact subscription_disable_eq_none rfl hsub
        | some old =>
          obtain ⟨outcome, a', hok⟩ := exists_disable_ok hr hsub hone
          rw [hok]
          exact subscription_of_disable_ok hok
      exact subscription_releaseSubscribers_eq_none rest hgone
    · have hgone := releaseSubscribers_ends (hr.of_equipped hfirst) hothers hpid
      exact hgone

/-- **Nobody is left with a sensor that is served** if nothing is refused. -/
theorem releaseSensors_ends : ∀ {sensors : List SensorId} {a : Arbitration}, a.hardware.Linked →
    a.hardware.Obliges (releaseSensors sensors a).hardware → s ∈ sensors →
    a.hardware.has s = true →
    ∀ pid, (releaseSensors sensors a).registry.subscription pid s = none
  | [], _, _, _, hs, _ => (List.not_mem_nil hs).elim
  | first :: rest, a, hl, ho, hs, hhas => by
    have hfirst := (Broker.kept_releaseSubscribers first (a.registry.subscribers first)
      a).hardware.toEquipped
    have hrest := (Broker.kept_releaseSensors rest (releaseSubscribers first
      (a.registry.subscribers first) a)).hardware.toEquipped
    rcases List.mem_cons.1 hs with rfl | hs
    · intro pid
      have hone := ho.between (.refl _) hfirst hrest
      have hgone : (releaseSubscribers s (a.registry.subscribers s) a).registry.subscription pid s
          = none := by
        cases hsub : a.registry.subscription pid s with
        | none => exact subscription_releaseSubscribers_eq_none _ hsub
        | some old =>
          exact releaseSubscribers_ends (hl s hhas) hone
            (a.registry.mem_subscribers_iff.2 ⟨old, hsub⟩)
      exact subscription_releaseSensors_eq_none rest hgone
    · have hothers := ho.between hfirst hrest (.refl _)
      have hnone := releaseSensors_ends (hl.of_equipped hfirst) hothers hs
        ((hfirst.has s).trans hhas)
      exact hnone

/-- The last subscriber of a sensor that nobody serves cannot leave it. -/
theorem subscribed_disable (hhas : a.hardware.has s = false)
    (hsub : a.registry.subscriptionsOf s ≠ ∅) (pid : Pid) (s' : SensorId) :
    (a.disable pid s').2.registry.subscriptionsOf s ≠ ∅ := by
  rcases hd : a.disable pid s' with ⟨e | outcome, a'⟩
  · rcases disable_error hd with ⟨-, -, rfl⟩ | ⟨-, -, hu, -⟩
    · exact hsub
    · rw [hu.registry.subscriptionsOf s]
      exact hsub
  · obtain ⟨-, hok⟩ := disable_ok hd
    generalize outcome.switchedOff = off at hok
    by_cases hs : s = s'
    · subst hs
      cases hok with
      | shared hothers => exact (Registry.isSubscribed_iff ..).1 hothers
      | last _ hoff =>
        have hroute : a.hardware.route s = .error (.sensorNotFound s) := by
          obtain ⟨hlists, hmocked⟩ := Bool.or_eq_false_iff.1 hhas
          simp only [Hardware.route, hlists, hmocked, Bool.false_eq_true, if_false]
        have hfails : (a.without pid s).hardware.perform (.disable s) = (.error _, _) :=
          Hardware.perform_of_route_error (c := .disable s) hroute
        cases hfails.symm.trans hoff
    · have hsame : a'.registry.subscriptionsOf s = (a.without pid s').registry.subscriptionsOf s :=
        by cases hok <;> rfl
      rw [hsame, Arbitration.without, Registry.subscriptionsOf_drop, if_neg hs]
      exact hsub

/-- **Somebody is left with a sensor that nobody serves**, if anybody subscribed
to it. -/
theorem subscribed_releaseSensors (hhas : a.hardware.has s = false)
    (hsub : a.registry.subscriptionsOf s ≠ ∅) (sensors : List SensorId) :
    (releaseSensors sensors a).registry.subscriptionsOf s ≠ ∅ := by
  have hboth := releaseSensors_induction
    (P := fun a => a.hardware.has s = false ∧ a.registry.subscriptionsOf s ≠ ∅)
    (fun {a} pid s' before => ⟨((a.kept_disable pid s').hardware.has s).trans before.1,
      subscribed_disable before.1 before.2 pid s'⟩) sensors ⟨hhas, hsub⟩
  exact hboth.2

end Arbitration

namespace Broker

variable {op : Op} {b b' : Broker} {pid : Pid} {s : SensorId} {id : ChannelId}

/-! ### What stopping comes to -/

/-- Somebody subscribes to a sensor that no backend serves any more. -/
def Stranded (b : Broker) (s : SensorId) : Prop :=
  b.registry.subscriptionsOf s ≠ ∅ ∧ b.hardware.has s = false

/-- Where no mock that ended has left anybody behind, no sensor is stranded. -/
theorem Tended.not_stranded (h : b.Tended) (s : SensorId) : ¬ b.Stranded s := by
  rintro ⟨hsub, hgone⟩
  obtain ⟨pid, hpid⟩ : ∃ pid, b.registry.subscription pid s ≠ none := by
    by_contra hnone
    exact hsub (Table.eq_empty_iff.2 fun pid => not_not.1 fun hpid => hnone ⟨pid, hpid⟩)
  have hserved : b.hardware.has s = true := h.served pid s hpid
  rw [hgone] at hserved
  cases hserved

/-- Arbitration when every sensor that runs was released. -/
def released (b : Broker) : Arbitration :=
  releaseSensors b.arbitration.running b.arbitration

theorem hardware_stop (b : Broker) :
    b.stop.hardware = { b.released.hardware.disconnect with raised := [] } := by
  obtain ⟨r, cs, flushes, totals, hstop⟩ := b.exists_stop
  obtain ⟨queue, dropped, hcollect⟩ := b.shutDown.exists_collect
  rw [hstop, windDown, hcollect]
  rfl

theorem active_stop (b : Broker) : b.stop.arbitration.active = b.released.active := by
  obtain ⟨r, cs, flushes, totals, hstop⟩ := b.exists_stop
  obtain ⟨queue, dropped, hcollect⟩ := b.shutDown.exists_collect
  rw [hstop, windDown, hcollect]
  rfl

theorem directory_stop (b : Broker) : b.stop.directory = ∅ := by
  obtain ⟨r, cs, flushes, totals, hstop⟩ := b.exists_stop
  rw [hstop]
  exact b.windDown_channels.2.1

theorem spares_stop (b : Broker) (pid : Pid) : Spares pid b.windDown b.stop := by
  have htaken : Spares pid b.windDown { b.windDown with queue := [] } := .of_eq rfl rfl
  have hpassed := htaken.trans (spares_foldl_route b.windDown.queue _)
  exact hpassed.trans (.of_eq rfl rfl)

theorem registry_windDown (b : Broker) : b.windDown.registry = b.released.registry := by
  obtain ⟨queue, dropped, hcollect⟩ := b.shutDown.exists_collect
  rw [windDown, hcollect]
  rfl

theorem subscription_stop (b : Broker) (pid : Pid) (s : SensorId) :
    b.stop.registry.subscription pid s = b.released.registry.subscription pid s := by
  rw [(b.spares_stop pid).subscription, registry_windDown]

/-! ### The sensors -/

theorem obliges_released (ho : b.hardware.Obliges b.stop.hardware) :
    b.hardware.Obliges b.released.hardware := by
  have hkept := kept_releaseSensors b.arbitration.running b.arbitration
  intro slot hslot
  have hheld : b.released.hardware.Holds slot := (hkept.hardware.holds slot).2 hslot
  rw [← Hardware.refusals_disconnect hheld, ← ho slot hslot, hardware_stop]
  rfl

/-- **Those subscriptions are left that are stranded.** -/
theorem Reachable.subscriptionsOf_released (hb : b.Reachable)
    (ho : b.hardware.Obliges b.stop.hardware) (s : SensorId) :
    b.released.registry.subscriptionsOf s ≠ ∅ ↔ b.Stranded s := by
  constructor
  · intro hleft
    have hbefore : b.registry.subscriptionsOf s ≠ ∅ := fun hempty =>
      hleft (Table.eq_empty_iff.2 fun pid =>
        Arbitration.subscription_releaseSensors_eq_none _ (Table.eq_empty_iff.1 hempty pid))
    refine ⟨hbefore, Bool.eq_false_iff.2 fun hhas => hleft (Table.eq_empty_iff.2 ?_)⟩
    have hruns : s ∈ b.arbitration.running := by
      cases hb.consistent.settled s with
      | idle unwanted => exact absurd unwanted hbefore
      | running _ noted => exact (b.arbitration.active.mem_keys_iff).2 ⟨_, noted⟩
    exact Arbitration.releaseSensors_ends hb.linked (obliges_released ho) hruns hhas
  · rintro ⟨hsub, hgone⟩
    exact Arbitration.subscribed_releaseSensors hgone hsub _

/-! ### The channels -/

theorem dataChannel_of_stop (h : b.stop.registry.channels.get? pid = some id) :
    b.registry.channels.get? pid = some id := by
  rw [← b.windDown_channels.1]
  exact (b.spares_stop pid).dataChannel h

/-- **Of all sessions, those are open after the end that are still the data
channel of their process.** -/
theorem Regular.isClosed_stop_iff (h : b.Regular) (id : ChannelId) :
    b.stop.channels.isClosed id = false ↔
      ∃ pid, b.stop.registry.channels.get? pid = some id := by
  have horderly := h.stop.orderly
  constructor
  · intro hopen
    by_contra hnobody
    have hvacant : b.stop.Vacant id :=
      ⟨fun pid hid => hnobody ⟨pid, hid⟩, by rw [directory_stop]; rfl⟩
    rw [horderly.isClosed_of_vacant hvacant] at hopen
    cases hopen
  · rintro ⟨pid, hid⟩
    obtain ⟨session, hsession, -, hopen, -⟩ := Channels.get?_of_traits? (horderly.current hid)
    rw [Channels.isClosed, hsession]
    exact hopen

/-- If no event waits when the hardware is closed, no data channel goes. -/
theorem channels_stop_of_idle (hidle : b.windDown.queue = []) :
    b.stop.registry.channels = b.registry.channels := by
  rw [stop_eq, drain, hidle]
  exact b.windDown_channels.1

/-! ### After the end -/

/-- A broker that takes no event and has none left. -/
structure Ended (b : Broker) : Prop where
  accepting : b.accepting = false
  queue : b.queue = []

theorem ended_stop (b : Broker) : b.stop.Ended :=
  ⟨rfl, b.windDown.queue_drain⟩

namespace Ended

theorem collect (h : b.Ended) : b.collect = b.setHardware { b.hardware with raised := [] } :=
  foldl_offer_of_closed (b := b.setHardware { b.hardware with raised := [] }) h.accepting _

/-- **What a backend raises after the end is thrown away.** -/
theorem emit (h : b.Ended) (slot : Slot) (e : Event) :
    b.emit slot e = b.setHardware { b.hardware with raised := [] } := by
  have hraised : (b.setHardware (b.hardware.emit slot e)).Ended := ⟨h.accepting, h.queue⟩
  exact hraised.collect

theorem dispatch (h : b.Ended) : b.dispatch = b := by
  rw [Broker.dispatch, h.queue]

theorem shift (h : b.Ended) (shift : Shift op b b') : b'.Ended := by
  rcases shift.uneventful_or with haside | rfl | ⟨_, _, -, rfl⟩ | ⟨_, _, -, hqueue, -⟩ |
    ⟨_, -, -, rfl⟩
  · exact ⟨haside.accepting.trans h.accepting, haside.queue.trans h.queue⟩
  · rw [h.collect]
    exact ⟨h.accepting, h.queue⟩
  · exact ⟨h.accepting, h.queue⟩
  · cases h.queue.symm.trans hqueue
  · exact ⟨h.accepting, h.queue⟩

theorem shifts (h : b.Ended) (shifts : Shifts op b b') : b'.Ended := by
  induction shifts with
  | refl => exact h
  | tail _ next ih => exact ih.shift next

theorem act (h : b.Ended) (horderly : b.Orderly) (a : Act) : (b.act a).Ended := by
  cases a with
  | op op => exact h.shifts (b.shifts_step op horderly.serves_apart)
  | stop => exact b.ended_stop

/-- **An end is for good**, whatever is asked after it. -/
theorem after (h : b.Ended) (hregular : b.Regular) (life : List Act) : (b.after life).Ended := by
  induction life generalizing b with
  | nil => exact h
  | cons a rest ih => exact ih (h.act hregular.orderly a) (hregular.act a)

end Ended

/-! ### The end -/

/-- What is released, and what is left, where a broker has come to its end. -/
structure Stopped (b b' : Broker) : Prop where
  /-- No backend has any sensor reporting. -/
  silent : ∀ d ∈ b'.hardware.devices, ∀ s, d.reports s = false
  subscribed : ∀ s, b'.registry.isSubscribed s = true ↔ b.Stranded s
  active : ∀ s, (b'.arbitration.activeState s).isSome = true ↔ b.Stranded s
  /-- Whoever still subscribes asked for the same before. -/
  remains : ∀ {pid s request}, b'.registry.subscription pid s = some request →
    b.registry.subscription pid s = some request
  directory : b'.directory = ∅
  socketClosed : ∀ {pid id}, b.directory.byPid.get? pid = some id →
    b'.channels.isClosed id = true
  /-- Exactly those sessions are open that are still data channels. -/
  open_iff : ∀ id, b'.channels.isClosed id = false ↔
    ∃ pid, b'.registry.channels.get? pid = some id
  dataChannel : ∀ {pid id}, b'.registry.channels.get? pid = some id →
    b.registry.channels.get? pid = some id
  /-- No data channel goes if no event waits. -/
  idle : b.windDown.queue = [] → b'.registry.channels = b.registry.channels

theorem Reachable.stopped (hb : b.Reachable) (ho : b.hardware.Obliges b.stop.hardware) :
    Stopped b b.stop := by
  have hconsistent : b.released.Consistent :=
    (Arbitration.steps_releaseSensors b.arbitration.running b.arbitration).consistent hb.consistent
  have hsame (s : SensorId) :
      b.stop.registry.subscriptionsOf s = b.released.registry.subscriptionsOf s :=
    Table.ext_get? fun pid => b.subscription_stop pid s
  have hleft := hb.subscriptionsOf_released ho
  have hopen := hb.regular.isClosed_stop_iff
  refine ⟨fun d hd s => ?_, fun s => ?_, fun s => ?_, fun {pid s request} hsub => ?_,
    b.directory_stop, fun {pid id} hid => ?_, hopen, fun hid => dataChannel_of_stop hid,
    channels_stop_of_idle⟩
  · rw [hardware_stop] at hd
    exact hconsistent.sound.reports_disconnect hd s
  · rw [Registry.isSubscribed_iff, hsame]
    exact hleft s
  · rw [← hleft s, Arbitration.activeState, Option.isSome_map, active_stop]
    cases hconsistent.settled s with
    | idle unwanted unnoted =>
      have hnone : b.released.active.get? s = none := unnoted
      rw [hnone]
      exact iff_of_false Bool.false_ne_true fun hne => hne unwanted
    | running subscribed noted =>
      have hsome : b.released.active.get? s = some _ := noted
      rw [hsome]
      exact iff_of_true rfl subscribed
  · rw [subscription_stop] at hsub
    exact Arbitration.subscription_of_releaseSensors _ hsub
  · -- a socket channel was no data channel before
    by_contra hclosed
    obtain ⟨other, hdata⟩ := (hopen id).1 (Bool.eq_false_iff.2 hclosed)
    exact hb.orderly.ne_of_listed hid (dataChannel_of_stop hdata) rfl

/-- **What stopping releases, and what it leaves.** If no backend refuses a call
while a broker stops, then no sensor reports anywhere after; subscriptions and
states are left of those sensors only that were stranded, which is none where no
mock that ended had left anybody behind; every socket channel is closed, and
exactly the data channels are open that were not given up while the last events
were passed on, which is all of them if no event waited. Whatever happens later,
an event that a backend raises is thrown away, and none is passed on. -/
theorem Reachable.stop_releases (hb : b.Reachable) (ho : b.hardware.Obliges b.stop.hardware) :
    Stopped b b.stop ∧ (b.Tended → ∀ s, ¬ b.Stranded s) ∧
      ∀ life, (b.stop.after life).dispatch = b.stop.after life ∧
        ∀ slot e, (b.stop.after life).emit slot e = (b.stop.after life).setHardware
          { (b.stop.after life).hardware with raised := [] } := by
  have hregular : b.stop.Regular := hb.regular.stop
  refine ⟨hb.stopped ho, fun htended => htended.not_stranded, fun life => ?_⟩
  have hended := b.ended_stop.after hregular life
  exact ⟨hended.dispatch, hended.emit⟩

/-- A process subscribes, and has a socket channel and a data channel: the first
two are released, the last is not. -/
theorem stop_releases_socket :
    let b := trial.run [.enable ⟨100, 1000, 7⟩ .accelerometer ⟨1000000, 0⟩,
      .openSocketChannel ⟨100, 1000, 7⟩, .openDataChannel ⟨100, 1000, 7⟩]
    b.hardware.Obliges b.stop.hardware ∧ b.registry.isSubscribed .accelerometer = true ∧
      b.stop.registry.isSubscribed .accelerometer = false ∧
      b.channels.isClosed 0 = false ∧ b.stop.channels.isClosed 0 = true ∧
      b.channels.isClosed 1 = false ∧ b.stop.channels.isClosed 1 = false := by
  intro b
  have htended : b.Tended :=
    .step (.step (.step tended_trial (.enable _ _ _) nofun) (.openSocketChannel _) nofun)
      (.openDataChannel _) nofun
  have ho : b.hardware.Obliges b.stop.hardware := Hardware.obliges_iff.2 (by decide +kernel)
  obtain ⟨hstopped, hnone, -⟩ := htended.reachable.stop_releases ho
  have hlisted : b.directory.byPid.get? 100 = some 0 := by decide +kernel
  have hcurrent : b.stop.registry.channels.get? 100 = some 1 := by
    rw [hstopped.idle (by decide +kernel)]
    decide +kernel
  refine ⟨ho, by decide +kernel, Bool.eq_false_iff.2 fun hsub => ?_, by decide +kernel,
    hstopped.socketClosed hlisted, by decide +kernel, (hstopped.open_iff 1).2 ⟨100, hcurrent⟩⟩
  exact hnone htended .accelerometer ((hstopped.subscribed _).1 hsub)

/-- A data channel that was handed out outlives its broker, although nothing was
refused. So do a subscription and the state of its sensor, if the process had
enabled a mock again while it was suspended and the mock was then withdrawn. -/
theorem left_after_stop :
    (∃ b : Broker, b.Reachable ∧ b.hardware.Obliges b.stop.hardware ∧
      b.registry.channels.get? 100 = some 0 ∧ b.stop.channels.isClosed 0 = false) ∧
    ∃ b : Broker, b.Reachable ∧ b.hardware.Obliges b.stop.hardware ∧
      b.stop.registry.subscription 100 .color = some ⟨2000000, 0⟩ ∧
      (b.stop.arbitration.activeState .color).isSome = true := by
  constructor
  · exact ⟨_, reachable_trial.run [.openDataChannel ⟨100, 1000, 7⟩],
      Hardware.obliges_iff.2 (by decide +kernel), by decide +kernel, by decide +kernel⟩
  · exact ⟨_, reachable_trial.run [.inject .color, .enable ⟨100, 1000, 7⟩ .color ⟨1000000, 0⟩,
        .suspend 100, .enable ⟨100, 1000, 7⟩ .color ⟨2000000, 0⟩, .withdraw .color],
      Hardware.obliges_iff.2 (by decide +kernel), by decide +kernel, by decide +kernel⟩

end Broker
end SensorBroker
