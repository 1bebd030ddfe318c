/-
# Whole lives of a broker

A life is a list of what happens to a broker, its end included; after the end
it may still be asked for things (`Broker.Act`, `Broker.after`). What a broker
was started with and what every shift preserves holds at every moment of every
life (`Broker.Regular`): its records of channels are in order, what it keeps
as the last event of a sensor is a sample of that sensor, and no sample is
left with the hardware between two acts.

Key definitions: `Broker.Act`, `Broker.after`, `Broker.Lived`,
`Broker.windDown`, `Broker.Regular`.
Key theorems: `Broker.releaseSensors_induction`, `Broker.Orderly.closeAll`,
`Broker.Shifts.regular`, `Broker.Lived.regular`.
-/
import SensorBroker.Proofs.Service.HangingUp

namespace SensorBroker
namespace Broker

/-- Something that happens to a broker, its end included. -/
inductive Act
  | op (op : Op)
  | stop

/-- The broker after something has happened to it. -/
def act (b : Broker) : Act → Broker
  | .op op => b.step op
  | .stop => b.stop

/-- The broker after a part of its life. -/
def after (b : Broker) (life : List Act) : Broker :=
  life.foldl act b

/-- The brokers at any moment of any life. -/
inductive Lived : Broker → Prop
  | start {b : Broker} (reachable : b.Reachable) : Lived b
  | act {b : Broker} (before : Lived b) (a : Act) : Lived (b.act a)

variable {b b' : Broker} {op : Op}

/-! ### The end of a broker -/

/-- The first part of stopping: socket channels close, watching ends, sensors go
off and the hardware is closed. -/
def shutDown (b : Broker) : Broker :=
  let (directory, channels) := b.directory.closeAll b.channels
  let b := { b with watchers := none, directory, channels }
  let b := b.setArbitration (releaseSensors b.arbitration.running b.arbitration)
  b.setHardware b.hardware.disconnect

/-- What stopping does before the events that wait are passed on. -/
def windDown (b : Broker) : Broker :=
  b.shutDown.collect

theorem stop_eq (b : Broker) : b.stop = { b.windDown.drain with accepting := false } := rfl

/-- What holds before and is kept by ending a subscription, holds after. -/
theorem releaseSubscribers_induction {P : Arbitration → Prop} (s : SensorId)
    (step : ∀ {a} (pid : Pid), P a → P (a.disable pid s).2) : ∀ (pids : List Pid)
    {a : Arbitration}, P a → P (releaseSubscribers s pids a)
  | [], _, h => h
  | pid :: rest, _, h => releaseSubscribers_induction s step rest (step pid h)

theorem releaseSensors_induction {P : Arbitration → Prop}
    (step : ∀ {a} (pid : Pid) (s : SensorId), P a → P (a.disable pid s).2) :
    ∀ (sensors : List SensorId) {a : Arbitration}, P a → P (releaseSensors sensors a)
  | [], _, h => h
  | s :: rest, _, h => releaseSensors_induction step rest
      (releaseSubscribers_induction s (fun pid => step pid s) _ h)

theorem kept_releaseSubscribers (s : SensorId) (pids : List Pid) (a : Arbitration) :
    a.Kept (releaseSubscribers s pids a) :=
  releaseSubscribers_induction (P := a.Kept) s
    (fun pid before => before.trans (Arbitration.kept_disable _ pid s)) pids (.refl a)

theorem kept_releaseSensors (sensors : List SensorId) (a : Arbitration) :
    a.Kept (releaseSensors sensors a) :=
  releaseSensors_induction (P := a.Kept)
    (fun pid s before => before.trans (Arbitration.kept_disable _ pid s)) sensors (.refl a)

theorem traits?_foldl_close : ∀ (ids : List ChannelId) (cs : Channels) (other : ChannelId),
    (ids.foldl Channels.close cs).traits? other =
      if other ∈ ids then (cs.traits? other).map fun (pid, _, max) => (pid, true, max)
      else cs.traits? other
  | [], _, _ => rfl
  | id :: rest, cs, other => by
    rw [List.foldl_cons, traits?_foldl_close rest, Channels.traits?_close]
    by_cases hid : other = id
    · rw [hid, if_pos List.mem_cons_self, if_pos rfl, Option.map_map]
      split_ifs <;> rfl
    · simp only [List.mem_cons, hid, false_or, if_false]

theorem flow?_foldl_close : ∀ (ids : List ChannelId) (cs : Channels) (other : ChannelId),
    (ids.foldl Channels.close cs).flow? other = cs.flow? other
  | [], _, _ => rfl
  | id :: rest, cs, other => (flow?_foldl_close rest _ other).trans (cs.flow?_close id other)

/-- Winding down takes no data channel away and sends nothing. -/
theorem windDown_channels (b : Broker) :
    b.windDown.registry.channels = b.registry.channels ∧ b.windDown.directory = ∅ ∧
      ∀ id, b.windDown.channels.flow? id = b.channels.flow? id := by
  have hkept := kept_releaseSensors b.arbitration.running b.arbitration
  obtain ⟨queue, dropped, heq⟩ := b.shutDown.exists_collect
  unfold windDown
  rw [heq]
  exact ⟨hkept.channels, rfl, fun id => flow?_foldl_close _ _ id⟩

theorem config_windDown (b : Broker) : b.windDown.config = b.config := by
  obtain ⟨queue, dropped, heq⟩ := b.shutDown.exists_collect
  unfold windDown
  rw [heq]
  rfl

/-- All socket channels are closed and taken out of the directory. -/
theorem Orderly.closeAll (h : b.Orderly) (config : b'.config = b.config)
    (channels : b'.registry.channels = b.registry.channels)
    (sessions : b'.channels = (b.directory.closeAll b.channels).2) (directory : b'.directory = ∅)
    (flushes : b'.flushes = b.flushes) : b'.Orderly := by
  have hkeys : ∀ {id}, id ∈ b.directory.byChannel.keys ↔ b.directory.contains id = true := by
    intro id
    unfold Directory.contains Table.contains
    rw [Table.mem_keys_iff, Option.isSome_iff_exists]
  have hopen : ∀ {id}, b.directory.contains id = false →
      b'.channels.traits? id = b.channels.traits? id := by
    intro id hid
    rw [sessions]
    refine (traits?_foldl_close _ _ _).trans (if_neg fun hmem => ?_)
    rw [hkeys.1 hmem] at hid
    cases hid
  refine ⟨fun {pid id} hid => ?_, fun {pid id} hid => ?_, fun {id pid max} hid => ?_,
    fun {pid id} hid => ?_, fun {pid id} => ?_, fun {s entry} hmem => ?_⟩
  · rw [channels] at hid
    rw [hopen (h.apart hid), config]
    exact h.current hid
  · rw [directory] at hid
    cases hid
  · rw [sessions] at hid
    have hclose : (b.directory.closeAll b.channels).2.traits? id = _ := traits?_foldl_close _ _ _
    rw [hclose] at hid
    split_ifs at hid with hmem
    · obtain ⟨t, -, ht⟩ := Option.map_eq_some_iff.1 hid
      cases ht
    · rw [channels]
      refine (h.held hid).imp_right fun hlisted => absurd ?_ hmem
      exact hkeys.2 (h.contains_iff.2 ⟨pid, hlisted⟩)
  · rw [directory]
    rfl
  · rw [directory]
    exact iff_of_false (by rintro ⟨⟩) (by rintro ⟨⟩)
  · rw [flushes] at hmem
    obtain ⟨hsome, happart⟩ := h.awaited hmem
    rw [hopen happart, directory]
    exact ⟨hsome, rfl⟩

theorem Orderly.shutDown (h : b.Orderly) : b.shutDown.Orderly := by
  have hclosed : ({ b with
      watchers := none
      directory := (b.directory.closeAll b.channels).1
      channels := (b.directory.closeAll b.channels).2 } : Broker).Orderly :=
    h.closeAll rfl rfl rfl rfl rfl
  have hkept := kept_releaseSensors b.arbitration.running b.arbitration
  exact hclosed.congr rfl hkept.channels (fun _ => rfl) rfl .inl

/-! ### What is settled at the start -/

theorem Shift.config (shift : Shift op b b') : b'.config = b.config := by
  rcases shift.uneventful_or with haside | rfl | ⟨_, _, -, rfl⟩ | ⟨_, _, -, -, rfl⟩ |
    ⟨_, -, -, rfl⟩
  · exact haside.config
  · obtain ⟨queue, dropped, heq⟩ := b.exists_collect
    rw [heq]
    rfl
  all_goals rfl

theorem Shifts.config (shifts : Shifts op b b') : b'.config = b.config := by
  induction shifts with
  | refl => rfl
  | tail _ shift ih => exact shift.config.trans ih

/-! ### What holds at every moment -/

/-- Channels are in order, last events are samples of their sensor, and the
hardware holds no sample that was not collected. -/
structure Regular (b : Broker) : Prop where
  orderly : b.Orderly
  stored : ∀ {s e}, b.registry.lastEvents.get? s = some e →
    e.sensor = s ∧ e.isFlushComplete = false
  quiet : samples b.hardware.raised = []

/-- Collecting leaves the hardware without any event. -/
theorem regular_collect (orderly : b.Orderly) (stored : ∀ {s e},
    b.registry.lastEvents.get? s = some e → e.sensor = s ∧ e.isFlushComplete = false) :
    b.collect.Regular := by
  obtain ⟨queue, dropped, heq⟩ := b.exists_collect
  rw [heq]
  exact ⟨orderly.congr rfl rfl (fun _ => rfl) rfl .inl, stored, rfl⟩

theorem Shift.regular (shift : Shift op b b') (hop : ∀ slot e, op ≠ .emit slot e)
    (h : b.Regular) : b'.Regular := by
  have horderly := shift.orderly h.orderly
  rcases shift.uneventful_or with haside | rfl | ⟨slot, e, now, -⟩ | ⟨_, _, -, -, rfl⟩ |
    ⟨e, -, hsample, rfl⟩
  · exact ⟨horderly, fun hstored => h.stored (haside.lastEvents hstored),
      haside.raised.trans h.quiet⟩
  · exact regular_collect h.orderly h.stored
  · exact absurd now (hop slot e)
  · exact ⟨horderly, h.stored, h.quiet⟩
  · refine ⟨horderly, fun {s e'} hstored => ?_, h.quiet⟩
    have hget : (b.registry.lastEvents.insert e.sensor e).get? s = some e' := hstored
    rw [Table.get?_insert] at hget
    split_ifs at hget with hsensor
    · cases hget
      exact ⟨hsensor.symm, hsample⟩
    · exact h.stored hget

theorem Shifts.regular (shifts : Shifts op b b') (hop : ∀ slot e, op ≠ .emit slot e)
    (h : b.Regular) : b'.Regular := by
  induction shifts with
  | refl => exact h
  | tail _ shift ih => exact shift.regular hop ih

namespace Regular

/-- What waits to be passed on does not matter. -/
theorem setQueue (h : b.Regular) (queue : List Event) : ({ b with queue } : Broker).Regular :=
  ⟨h.orderly.congr rfl rfl (fun _ => rfl) rfl .inl, h.stored, h.quiet⟩

theorem step (h : b.Regular) (op : Op) : (b.step op).Regular := by
  by_cases hemit : ∃ slot e, op = .emit slot e
  · obtain ⟨slot, e, rfl⟩ := hemit
    have hraised : (b.setHardware (b.hardware.emit slot e)).Orderly :=
      h.orderly.congr rfl rfl (fun _ => rfl) rfl .inl
    exact regular_collect hraised h.stored
  · have hshifts := b.shifts_step op h.orderly.serves_apart
    exact hshifts.regular (fun slot e heq => hemit ⟨slot, e, heq⟩) h

theorem route (h : b.Regular) (e : Event) : (b.route e).Regular := by
  have hshifts : Shifts .dispatch b (b.route e) := b.shifts_route rfl e h.orderly.serves_apart
  exact hshifts.regular (fun _ _ heq => Op.noConfusion heq) h

theorem foldl_route : ∀ (es : List Event) {b : Broker}, b.Regular →
    (es.foldl Broker.route b).Regular
  | [], _, h => h
  | e :: rest, _, h => foldl_route rest (h.route e)

theorem windDown (h : b.Regular) : b.windDown.Regular := by
  have hkept := kept_releaseSensors b.arbitration.running b.arbitration
  exact regular_collect h.orderly.shutDown fun hstored => h.stored (hkept.lastEvents hstored)

theorem stop (h : b.Regular) : b.stop.Regular := by
  have hdrained := foldl_route b.windDown.queue (h.windDown.setQueue [])
  rw [stop_eq]
  exact ⟨hdrained.orderly.congr rfl rfl (fun _ => rfl) rfl .inl, hdrained.stored, hdrained.quiet⟩

theorem act (h : b.Regular) (a : Act) : (b.act a).Regular := by
  cases a with
  | op op => exact h.step op
  | stop => exact h.stop

end Regular

/-- Mocking sensors raises no event. -/
theorem raised_injectEach : ∀ (sensors : List SensorId) (h : Hardware),
    (injectEach sensors h).raised = h.raised
  | [], _ => rfl
  | s :: rest, h => by
    have hinject : (h.inject s).2.raised = h.raised := by
      unfold Hardware.inject
      split_ifs <;> rfl
    exact (raised_injectEach rest _).trans hinject

theorem Reachable.regular (h : b.Reachable) : b.Regular := by
  induction h with
  | @start config vendor blueprint rule watching b vendor_idle built_idle started =>
    have hunused := (Hardware.unused_ofSettings config.hardware vendor_idle built_idle).connect
    have horderly := orderly_of_started started
    obtain ⟨hw, hconnect, rfl⟩ := start_ok started
    have hconnected : (Hardware.ofSettings config.hardware vendor blueprint).connect.2 = hw :=
      congrArg Prod.snd hconnect
    have hsilent : hw.raised = [] := by
      rw [← hconnected]
      exact hunused.silent
    refine ⟨horderly, fun {s e} hstored => ?_, ?_⟩
    · cases hstored
    · show samples (injectEach config.hardware.injectOnStart hw).raised = []
      rw [raised_injectEach, hsilent]
      rfl
  | step _ op ih => exact ih.step op

/-- **At every moment of every life the broker is regular.** -/
theorem Lived.regular (h : b.Lived) : b.Regular := by
  induction h with
  | start reachable => exact reachable.regular
  | act _ a ih => exact ih.act a

end Broker
end SensorBroker
