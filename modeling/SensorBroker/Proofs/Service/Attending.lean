/-
# The life of a broker is turns of its dispatcher

What is said of turns (`Broker.Turn`) is said of what a broker really does.
Every operation is a few of them: to dispatch is to pass an event on, the events
that the hardware has raised are handed over when they are collected, and all
else happens meanwhile. To stop is to pass on all that waits. The samples that
are handed over are those that the backends raise, so a summary that accounts
for the one accounts for the other.

Key definitions: `Broker.collecting`.
Key theorems: `Broker.Regular.exists_turns`, `Broker.attend_replicate`,
`Broker.Regular.exists_turns_stop`, `Broker.Started.exists_turns`,
`Broker.Started.accounted`.
-/
import SensorBroker.Proofs.Service.Tallying
import SensorBroker.Proofs.Service.Tokens

namespace SensorBroker
namespace Broker

variable {b b' : Broker}

/-! ### Operations as turns -/

theorem attend_append (b : Broker) (ts ts' : List Turn) :
    b.attend (ts ++ ts') = (b.attend ts).attend ts' :=
  List.foldl_append

theorem handed_append (ts ts' : List Turn) : handed (ts ++ ts') = handed ts ++ handed ts' :=
  List.flatMap_append

theorem attend_hand (b : Broker) (es : List Event) :
    b.attend (es.map .hand) = es.foldl offer b := by
  simp only [attend, List.foldl_map, turn]

theorem handed_hand (es : List Event) : handed (es.map .hand) = es := by
  simp only [handed, List.flatMap_map, Turn.handed, List.flatMap_singleton']

/-- The turns in which the dispatcher is handed what the hardware has raised. -/
def collecting (b : Broker) : List Turn :=
  .meanwhile (b.setHardware { b.hardware with raised := [] }) :: b.hardware.raised.map .hand

theorem attend_collecting (b : Broker) : b.attend b.collecting = b.collect :=
  attend_hand (b.setHardware { b.hardware with raised := [] }) b.hardware.raised

theorem handed_collecting (b : Broker) : handed b.collecting = b.hardware.raised :=
  handed_hand b.hardware.raised

/-- Only dispatching adds to the totals. -/
theorem Shift.totals {op : Op} (shift : Shift op b b') (hdispatch : op ≠ .dispatch) :
    b'.totals = b.totals := by
  cases shift with
  | count now _ => exact absurd now hdispatch
  | collect =>
    obtain ⟨queue, dropped, heq⟩ := b.exists_collect
    rw [heq]
    rfl
  | openData caller =>
    unfold openDataChannel forPid
    split
    · rfl
    · simp only
      split <;> rfl
  | closeData caller =>
    unfold closeDataChannel forPid Registry.destroyChannel
    split
    · rfl
    · cases b.registry.channels.get? caller.pid <;> rfl
  | openSocket caller =>
    unfold openSocketChannel forPid
    split
    · rfl
    · simp only
      split <;> rfl
  | dropSocket pid =>
    unfold dropSocketChannel
    simp only
    split <;> rfl
  | dropRecords pid =>
    unfold Broker.dropRecords Registry.destroyClient Registry.destroyChannel
    cases b.registry.channels.get? pid <;> rfl
  | _ => rfl

/-- A shift that raises no sample and passes nothing on is a few turns. -/
theorem Shift.exists_turns {op : Op} (shift : Shift op b b') (hemit : ∀ slot e, op ≠ .emit slot e)
    (hdispatch : op ≠ .dispatch) (quiet : samples b.hardware.raised = []) :
    ∃ ts, b.attend ts = b' ∧ samples (handed ts) = [] := by
  have htotals := shift.totals hdispatch
  rcases shift.uneventful_or with haside | rfl | ⟨slot, e, now, -⟩ | ⟨_, _, now, -⟩ | ⟨_, now, -⟩
  · refine ⟨[.meanwhile b'], ?_, rfl⟩
    show b.within b' = b'
    rw [within, ← haside.config, ← haside.queue, ← haside.dropped, ← htotals, ← haside.accepting]
  · exact ⟨b.collecting, b.attend_collecting, by rw [handed_collecting, quiet]⟩
  · exact absurd now (hemit slot e)
  · exact absurd now hdispatch
  · exact absurd now hdispatch

theorem Shifts.exists_turns {op : Op} (shifts : Shifts op b b')
    (hemit : ∀ slot e, op ≠ .emit slot e) (hdispatch : op ≠ .dispatch) (h : b.Regular) :
    ∃ ts, b.attend ts = b' ∧ samples (handed ts) = [] := by
  induction shifts with
  | refl => exact ⟨[], rfl, rfl⟩
  | tail before shift ih =>
    obtain ⟨ts, hattend, hnone⟩ := ih
    obtain ⟨ts', hattend', hnone'⟩ :=
      shift.exists_turns hemit hdispatch (Shifts.regular before hemit h).quiet
    refine ⟨ts ++ ts', ?_, ?_⟩
    · rw [attend_append, hattend, hattend']
    · rw [handed_append, samples_append, hnone, hnone']
      rfl

/-- **Every operation is a few turns**, in which the samples are handed over that
a backend raises. -/
theorem Regular.exists_turns (h : b.Regular) (haccepting : b.accepting = true) (op : Op) :
    ∃ ts, b.attend ts = b.step op ∧ samples (handed ts) = b.emitted (.op op) := by
  by_cases hdispatch : op = .dispatch
  · subst hdispatch
    exact ⟨[.pass], rfl, rfl⟩
  by_cases hemit : ∃ slot e, op = .emit slot e
  · obtain ⟨slot, e, rfl⟩ := hemit
    refine ⟨.meanwhile (b.setHardware (b.hardware.emit slot e)) ::
      (b.setHardware (b.hardware.emit slot e)).collecting, attend_collecting _, ?_⟩
    show samples (handed (b.setHardware (b.hardware.emit slot e)).collecting) = _
    rw [handed_collecting, emitted, if_pos haccepting]
    exact h.samples_emit slot e
  · have hemit' (slot : Slot) (e : Event) : op ≠ .emit slot e := fun heq => hemit ⟨slot, e, heq⟩
    obtain ⟨ts, hattend, hnone⟩ :=
      (b.shifts_step op h.orderly.serves_apart).exists_turns hemit' hdispatch h
    exact ⟨ts, hattend, hnone.trans (b.emitted_of_not_emit hemit').symm⟩

theorem Regular.exists_turns_run (h : b.Regular) (haccepting : b.accepting = true)
    (ops : List Op) : ∃ ts, b.attend ts = b.run ops ∧
      samples (handed ts) = b.along emitted (ops.map .op) := by
  induction ops generalizing b with
  | nil => exact ⟨[], rfl, rfl⟩
  | cons op ops ih =>
    obtain ⟨ts, hattend, hhanded⟩ := h.exists_turns haccepting op
    have hopen : (b.step op).accepting = true := by
      rw [← hattend]
      exact (balanced_attend haccepting ts).accepting.trans haccepting
    obtain ⟨ts', hattend', hhanded'⟩ := ih (h.step op) hopen
    refine ⟨ts ++ ts', ?_, ?_⟩
    · rw [attend_append, hattend, hattend']
      rfl
    · rw [handed_append, samples_append, hhanded, hhanded']
      rfl

/-! ### The end of a broker -/

theorem sendOn_setQueue (b : Broker) (queue : List Event) (frame : Bytes) (id : ChannelId) :
    sendOn { b with queue } frame id
      = ((b.sendOn frame id).1, { (b.sendOn frame id).2 with queue }) := by
  unfold sendOn
  simp only
  split
  · rfl
  · split_ifs <;> rfl

theorem sendEach_setQueue (queue : List Event) (frame : Bytes) (ids : List ChannelId)
    (b : Broker) : sendEach frame ids { b with queue } = ((sendEach frame ids b).1,
      (sendEach frame ids b).2.1, { (sendEach frame ids b).2.2 with queue }) := by
  induction ids generalizing b with
  | nil => rfl
  | cons id rest ih =>
    simp only [sendEach, sendOn_setQueue, ih]
    split <;> rfl

/-- What waits has no part in passing an event on. -/
theorem route_setQueue (b : Broker) (queue : List Event) (e : Event) :
    route { b with queue } e = { b.route e with queue } := by
  unfold route
  split_ifs
  · unfold deliverFlush
    have hframe (flushes : FlushQueues) : frame? { b with queue, flushes } .flushComplete e
        = frame? { b with flushes } .flushComplete e := rfl
    rcases b.flushes.complete e.sensor with ⟨_ | entry, flushes⟩
    · rfl
    · simp only [hframe]
      cases frame? { b with flushes } .flushComplete e with
      | none => rfl
      | some frame =>
        have hsend := sendOn_setQueue { b with flushes } queue frame entry.channel
        simp only [hsend]
  · unfold deliverSample
    have hframe (b : Broker) : (b.setRegistry (b.registry.storeEvent e)).frame? .sensorEvent e
        = b.frame? .sensorEvent e := rfl
    have hwith : frame? { b with queue } .sensorEvent e = b.frame? .sensorEvent e := rfl
    simp only [hframe, hwith]
    cases b.frame? .sensorEvent e with
    | none => rfl
    | some frame =>
      have hsend := sendEach_setQueue queue frame
        ((b.setRegistry (b.registry.storeEvent e)).registry.activeChannels e.sensor)
        (b.setRegistry (b.registry.storeEvent e))
      exact congrArg (fun r : Nat × Nat × Broker =>
        { r.2.2 with totals := r.2.2.totals.event e.sensor r.1 r.2.1 }) hsend

/-- Passing on all that waits is passing on the oldest as often. -/
theorem attend_replicate (b : Broker) :
    b.attend (.replicate b.queue.length .pass) = b.drain := by
  unfold drain
  generalize hqueue : b.queue = es
  induction es generalizing b with
  | nil =>
    show b = { b with queue := [] }
    rw [← hqueue]
  | cons e rest ih =>
    have hdispatch : b.dispatch = route { b with queue := rest } e := by
      unfold dispatch
      rw [hqueue]
    have hrest : b.dispatch.queue = rest := by
      rw [hdispatch]
      exact (keeps_route _ e).2.2.1
    calc b.attend (.replicate (rest.length + 1) .pass)
        = b.dispatch.attend (.replicate rest.length .pass) := rfl
      _ = rest.foldl route { b.dispatch with queue := [] } := ih _ hrest
      _ = rest.foldl route (route { b with queue := [] } e) := by
          rw [hdispatch, route_setQueue b rest, route_setQueue b []]

theorem handed_replicate (n : Nat) : handed (.replicate n .pass) = [] := by
  simp [handed, Turn.handed]

theorem queue_drain (b : Broker) : b.drain.queue = [] := by
  unfold drain
  obtain ⟨r, cs, flushes, totals, heq⟩ := exists_foldl_route b.queue { b with queue := [] }
  rw [heq]
  rfl

/-- **To stop is a few turns** as well, after which nothing waits. -/
theorem Regular.exists_turns_stop (h : b.Regular) : ∃ ts, (b.attend ts).queue = [] ∧
    (b.attend ts).summary = b.stop.summary ∧ samples (handed ts) = [] := by
  have hdown : b.attend (.meanwhile b.shutDown :: b.shutDown.collecting) = b.windDown :=
    b.shutDown.attend_collecting
  refine ⟨.meanwhile b.shutDown :: b.shutDown.collecting ++
    .replicate b.windDown.queue.length .pass, ?_⟩
  rw [attend_append, hdown, attend_replicate, handed_append, handed_replicate, List.append_nil]
  refine ⟨b.windDown.queue_drain, rfl, ?_⟩
  show samples (handed b.shutDown.collecting) = []
  rw [handed_collecting, h.quiet_shutDown]

/-- Starting is nothing to the dispatcher. -/
theorem Started.exists_within (h : b.Started) : ∃ hardware rule watching,
    (ofConfig b.config hardware rule watching).within b = b := by
  cases h with
  | @intro config vendor blueprint rule watching _ vendor_idle built_idle started =>
    obtain ⟨hw, -, rfl⟩ := start_ok started
    exact ⟨.ofSettings config.hardware vendor blueprint, rule, watching, rfl⟩

/-- **The life of a broker is turns**, in which the samples are handed over that
the backends raise; its summary is drawn where nothing waits. -/
theorem Started.exists_turns (h : b.Started) (ops : List Op) :
    ∃ hardware rule watching ts, let drained := (ofConfig b.config hardware rule watching).attend ts
      drained.queue = [] ∧ drained.summary = (b.run ops).stop.summary ∧
        samples (handed ts) = b.along emitted (ops.map .op) := by
  obtain ⟨hardware, rule, watching, hstart⟩ := h.exists_within
  have haccepting : b.accepting = true := by
    rw [← hstart]
    rfl
  obtain ⟨ts, hrun, hhanded⟩ := h.reachable.regular.exists_turns_run haccepting ops
  obtain ⟨ts', hdrained, hsummary, hnone⟩ := (h.reachable.run ops).regular.exists_turns_stop
  have hattend : (ofConfig b.config hardware rule watching).attend (.meanwhile b :: ts ++ ts')
      = (b.run ops).attend ts' := by
    rw [attend_append, ← hrun]
    exact congrArg (fun start => (attend start ts).attend ts') hstart
  refine ⟨hardware, rule, watching, .meanwhile b :: ts ++ ts', ?_⟩
  show _ ∧ _ ∧ samples (handed (ts ++ ts')) = _
  rw [hattend, handed_append, samples_append, hnone, List.append_nil]
  exact ⟨hdrained, hsummary, hhanded⟩

/-- **The summary that a broker leaves accounts for its whole life**: for all the
samples that its backends raised. -/
theorem Started.accounted (h : b.Started) (ops : List Op) :
    ∃ es ps, samples es = b.along emitted (ops.map .op) ∧
      Accounted b.config es ps (b.run ops).stop.summary := by
  obtain ⟨hardware, rule, watching, ts, hdrained, hsummary, hhanded⟩ := h.exists_turns ops
  have hbalanced := balanced_attend (b := ofConfig b.config hardware rule watching) rfl ts
  refine ⟨handed ts, passed ts (ofConfig b.config hardware rule watching), hhanded, ?_⟩
  rw [← hsummary]
  exact hbalanced.accounted hdrained

end Broker
end SensorBroker
