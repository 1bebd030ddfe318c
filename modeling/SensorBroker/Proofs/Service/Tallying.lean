/-
# Every event is accounted for, if it has a frame

The dispatcher is handed events, and passes on the oldest of those that wait;
in between, anything at all may happen to the rest of the broker
(`Broker.Turn`). However these turns follow one another, no event is lost from
sight: one that was handed over still waits, was dropped and counted, or was
passed on (`Broker.Balanced`). Once none waits, what the summary counts are the
events that were handed over, each once, and under the right heads
(`Broker.Accounted`) — but for one kind. A sample too long for a frame is put
on record as the last of its sensor, and then is no event of any kind: it is
neither counted nor dropped (`Broker.long_sample_uncounted`). The end of a
flush that has no frame is counted as not delivered.

Key definitions: `Broker.outcome`, `Broker.Turn`, `Broker.attend`,
`Broker.handed`, `Broker.passed`, `Broker.Balanced`, `Broker.Accounted`.
Key theorems: `Broker.totals_route`, `Broker.balanced_turn`,
`Broker.balanced_attend`, `Broker.Balanced.accounted`,
`Broker.accounted_of_drained`.
-/
import SensorBroker.Proofs.Service.Queueing
import SensorBroker.Proofs.Stats.Totals
import SensorBroker.Proofs.Wire.Exactness

namespace SensorBroker

/-- The event that was passed on. -/
def Passing.event : Passing → Event
  | sample e _ => e
  | completion e _ => e

namespace Broker

variable {b b' : Broker}

/-! ### What comes of an event -/

/-- Whether each channel took a frame, sent to one after the other. -/
def sendResults (frame : Bytes) : List ChannelId → Broker → List Bool
  | [], _ => []
  | id :: rest, b => (b.sendOn frame id).1 :: sendResults frame rest (b.sendOn frame id).2

/-- Whether the end of a flush reaches who asked for it. -/
def reaches (b : Broker) (e : Event) : Bool :=
  match b.flushes.complete e.sensor with
  | (none, _) => false
  | (some entry, flushes) =>
    match b.frame? .flushComplete e with
    | none => false
    | some frame => (sendOn { b with flushes } frame entry.channel).1

/-- What comes of an event that is passed on. -/
def outcome (b : Broker) (e : Event) : Passing :=
  if e.isFlushComplete then .completion e (b.reaches e)
  else
    let kept := b.setRegistry (b.registry.storeEvent e)
    .sample e ((b.frame? .sensorEvent e).map fun frame =>
      sendResults frame (kept.registry.activeChannels e.sensor) kept)

theorem event_outcome (b : Broker) (e : Event) : (b.outcome e).event = e := by
  unfold outcome
  split_ifs <;> rfl

theorem isSample_outcome (b : Broker) (e : Event) :
    (b.outcome e).isSample = !e.isFlushComplete := by
  unfold outcome
  split_ifs with h <;> simp [Passing.isSample, h]

/-- Sending counts what it does. -/
theorem sendEach_eq (frame : Bytes) (ids : List ChannelId) (b : Broker) :
    (sendEach frame ids b).1 = (sendResults frame ids b).count true ∧
      (sendEach frame ids b).2.1 = (sendResults frame ids b).count false := by
  induction ids generalizing b with
  | nil => exact ⟨rfl, rfl⟩
  | cons id rest ih =>
    obtain ⟨htaken, hfailed⟩ := ih (b.sendOn frame id).2
    simp only [sendEach, sendResults]
    cases h : (b.sendOn frame id).1 <;> simp [htaken, hfailed]

theorem totals_sendOn (b : Broker) (frame : Bytes) (id : ChannelId) :
    (b.sendOn frame id).2.totals = b.totals := by
  obtain ⟨r, cs, heq⟩ := b.exists_sendOn frame id
  rw [heq]
  rfl

theorem totals_sendEach (frame : Bytes) (ids : List ChannelId) (b : Broker) :
    (sendEach frame ids b).2.2.totals = b.totals := by
  obtain ⟨r, cs, heq⟩ := exists_sendEach frame ids b
  rw [heq]
  rfl

/-- **What comes of an event is what is added to the totals.** -/
theorem totals_route (b : Broker) (e : Event) :
    (b.route e).totals = b.totals.record (b.outcome e) := by
  unfold route outcome
  split_ifs with h
  · unfold deliverFlush reaches
    rcases hc : b.flushes.complete e.sensor with ⟨_ | entry, flushes⟩
    · rfl
    · have hframe : frame? { b with flushes } .flushComplete e = b.frame? .flushComplete e := rfl
      simp only [hframe]
      cases b.frame? .flushComplete e with
      | none => rfl
      | some frame =>
        have htotals := totals_sendOn { b with flushes } frame entry.channel
        simp only [DispatchTotals.record, htotals]
  · unfold deliverSample
    have hframe : (b.setRegistry (b.registry.storeEvent e)).frame? .sensorEvent e
        = b.frame? .sensorEvent e := rfl
    simp only [hframe]
    cases b.frame? .sensorEvent e with
    | none => rfl
    | some frame =>
      obtain ⟨htaken, hfailed⟩ := sendEach_eq frame
        ((b.setRegistry (b.registry.storeEvent e)).registry.activeChannels e.sensor)
        (b.setRegistry (b.registry.storeEvent e))
      have htotals := totals_sendEach frame
        ((b.setRegistry (b.registry.storeEvent e)).registry.activeChannels e.sensor)
        (b.setRegistry (b.registry.storeEvent e))
      simp only [Option.map_some, DispatchTotals.record, htaken, hfailed, htotals]
      rfl

/-- The payload of a sample is no longer than a frame may carry. -/
def Frames (config : Config) (e : Event) : Prop :=
  (Packet.ofRecord .event .sensorEvent e).Fits config.transport.maxPacketSize

instance (config : Config) (e : Event) : Decidable (Frames config e) :=
  inferInstanceAs (Decidable (Packet.Fits _ _))

/-- A sample has a frame if it is not too long for one. -/
theorem frame?_eq_none_iff (b : Broker) (e : Event) :
    b.frame? .sensorEvent e = none ↔ ¬ Frames b.config e := by
  rw [Frames, ← Packet.exists_frame?_iff, frame?]
  cases (Packet.ofRecord .event .sensorEvent e).frame? b.config.transport.maxPacketSize with
  | ok frame => simp [Except.toOption]
  | error e => simp [Except.toOption]

/-! ### Turns -/

/-- Something that happens to the dispatcher, or to the rest of the broker. -/
inductive Turn
  /-- The dispatcher is handed an event. -/
  | hand (e : Event)
  /-- The dispatcher passes on the oldest event that waits. -/
  | pass
  /-- The rest of the broker becomes that of another. -/
  | meanwhile (other : Broker)

/-- A broker with this dispatcher in it. -/
def within (b other : Broker) : Broker :=
  { other with
    config := b.config
    queue := b.queue
    dropped := b.dropped
    totals := b.totals
    accepting := b.accepting }

/-- The broker after a turn. -/
def turn (b : Broker) : Turn → Broker
  | .hand e => b.offer e
  | .pass => b.dispatch
  | .meanwhile other => b.within other

/-- The broker after some turns. -/
def attend (b : Broker) (ts : List Turn) : Broker :=
  ts.foldl turn b

/-- The events that are handed over in a turn. -/
def Turn.handed : Turn → List Event
  | hand e => [e]
  | _ => []

/-- The events that are handed over in some turns. -/
def handed (ts : List Turn) : List Event :=
  ts.flatMap Turn.handed

/-- The events that are passed on in a turn. -/
def passedIn (b : Broker) : Turn → List Passing
  | .pass =>
    match b.queue with
    | [] => []
    | e :: rest => [outcome { b with queue := rest } e]
  | _ => []

/-- The events that are passed on in some turns, in order. -/
def passed : List Turn → Broker → List Passing
  | [], _ => []
  | t :: ts, b => b.passedIn t ++ passed ts (b.turn t)

/-! ### No event is lost from sight -/

/-- Of the events that waited and those that were handed over since, each waits
still, was dropped or was passed on. -/
structure Balanced (handed : List Event) (passed : List Passing) (b b' : Broker) : Prop where
  config : b'.config = b.config
  accepting : b'.accepting = b.accepting
  totals : b'.totals = passed.foldl DispatchTotals.record b.totals
  /-- First in, first out. -/
  order : (passed.map Passing.event ++ b'.queue).Sublist (b.queue ++ handed)
  kept : (samples b'.queue).length + b'.dropped + passed.countP Passing.isSample
    = (samples b.queue).length + b.dropped + (samples handed).length
  /-- The end of a flush is never dropped. -/
  completions : b'.queue.countP Event.isFlushComplete + (passed.countP fun p => !p.isSample)
    = b.queue.countP Event.isFlushComplete + handed.countP Event.isFlushComplete
  kinds : ∀ p ∈ passed, p.isSample = !p.event.isFlushComplete
  framed : ∀ e sends, .sample e sends ∈ passed → (sends = none ↔ ¬ Frames b.config e)

theorem Balanced.refl (b : Broker) : Balanced [] [] b b where
  config := rfl
  accepting := rfl
  totals := rfl
  order := by simp
  kept := rfl
  completions := rfl
  kinds p h := by simp at h
  framed e sends h := by simp at h

theorem Balanced.trans {b'' : Broker} {es es' : List Event} {ps ps' : List Passing}
    (first : Balanced es ps b b') (second : Balanced es' ps' b' b'') :
    Balanced (es ++ es') (ps ++ ps') b b'' where
  config := second.config.trans first.config
  accepting := second.accepting.trans first.accepting
  totals := by rw [List.foldl_append, ← first.totals, second.totals]
  order := by
    have hlater := second.order.append_left (ps.map Passing.event)
    have hearlier := first.order.append_right es'
    simp only [List.map_append, List.append_assoc] at hlater hearlier ⊢
    exact hlater.trans hearlier
  kept := by
    have h := first.kept
    have h' := second.kept
    simp only [List.countP_append, samples_append, List.length_append]
    omega
  completions := by
    have h := first.completions
    have h' := second.completions
    simp only [List.countP_append]
    omega
  kinds p hmem := (List.mem_append.1 hmem).elim (first.kinds p) (second.kinds p)
  framed e sends hmem := by
    rcases List.mem_append.1 hmem with hmem | hmem
    · exact first.framed e sends hmem
    · rw [← first.config]
      exact second.framed e sends hmem

/-- An event that is handed over waits, or is dropped if it is a sample. -/
theorem balanced_offer (h : b.accepting = true) (e : Event) : Balanced [e] [] b (b.offer e) := by
  have hopen : ¬ (!b.accepting) = true := by simp [h]
  unfold offer
  rw [if_neg hopen]
  split_ifs with hroom
  · refine ⟨rfl, rfl, rfl, by simp, ?_, by simp, by simp, by simp⟩
    rw [samples_append, List.length_append]
    simp only [List.countP_nil]
    omega
  · have hsample : e.isFlushComplete = false := by
      simp only [Bool.or_eq_true, not_or, Bool.not_eq_true] at hroom
      exact hroom.1
    refine ⟨rfl, rfl, rfl, by simp, ?_, by simp [hsample], by simp, by simp⟩
    simp only [samples, List.filter_cons, hsample, Bool.not_false, if_true, List.filter_nil,
      List.length_singleton, List.countP_nil]
    omega

/-- Passing an event on leaves the queue alone, and what was dropped. -/
theorem keeps_route (b : Broker) (e : Event) :
    (b.route e).config = b.config ∧ (b.route e).accepting = b.accepting ∧
      (b.route e).queue = b.queue ∧ (b.route e).dropped = b.dropped := by
  obtain ⟨r, cs, flushes, totals, heq⟩ := b.exists_route e
  rw [heq]
  exact ⟨rfl, rfl, rfl, rfl⟩

theorem framed_outcome {e e' : Event} {sends : Option (List Bool)}
    (h : .sample e' sends = b.outcome e) : sends = none ↔ ¬ Frames b.config e' := by
  unfold outcome at h
  split_ifs at h
  cases h
  rw [Option.map_eq_none_iff, frame?_eq_none_iff]

/-- The oldest event that waits is passed on. -/
theorem balanced_take {e : Event} {rest : List Event} (hqueue : b.queue = e :: rest) :
    Balanced [] [outcome { b with queue := rest } e] b (route { b with queue := rest } e) := by
  obtain ⟨hconfig, haccepting, hrest, hdropped⟩ := keeps_route { b with queue := rest } e
  have hkind := isSample_outcome { b with queue := rest } e
  refine ⟨hconfig, haccepting, totals_route { b with queue := rest } e, ?_, ?_, ?_, ?_,
    fun e' sends hmem => framed_outcome (b := { b with queue := rest }) (List.mem_singleton.1 hmem)⟩
  · rw [hrest, hqueue, List.map_singleton, event_outcome]
    simp
  · rw [hrest, hdropped, hqueue, List.countP_singleton, hkind]
    cases he : e.isFlushComplete with
    | true => simp [samples, he]
    | false =>
      simp only [samples, List.filter_cons, he, Bool.not_false, if_true, List.length_cons,
        List.filter_nil, List.length_nil]
      omega
  · rw [hrest, hqueue, List.countP_singleton, hkind]
    cases he : e.isFlushComplete <;> simp [he]
  · intro p hp
    rw [List.mem_singleton.1 hp, hkind, event_outcome]

/-- **No turn loses an event from sight.** -/
theorem balanced_turn (h : b.accepting = true) (t : Turn) :
    Balanced t.handed (b.passedIn t) b (b.turn t) := by
  cases t with
  | hand e => exact balanced_offer h e
  | pass =>
    show Balanced [] (b.passedIn .pass) b b.dispatch
    unfold dispatch passedIn
    cases hqueue : b.queue with
    | nil => exact .refl b
    | cons e rest => exact balanced_take hqueue
  | meanwhile other =>
    exact ⟨rfl, rfl, rfl, by simp [turn, within, passedIn], rfl, rfl, by simp [passedIn],
      by simp [passedIn]⟩

/-- **However turns follow one another, no event is lost from sight.** -/
theorem balanced_attend (h : b.accepting = true) (ts : List Turn) :
    Balanced (handed ts) (passed ts b) b (b.attend ts) := by
  induction ts generalizing b with
  | nil => exact .refl b
  | cons t ts ih =>
    have hturn := balanced_turn h t
    exact hturn.trans (ih (hturn.accepting.trans h))

/-! ### The summary -/

/-- What a summary says of the events that were handed over and of those that
were passed on. -/
structure Accounted (config : Config) (handed : List Event) (passed : List Passing)
    (summary : DispatchSummary) : Prop where
  /-- The totals are those of the events that were passed on. -/
  tallies : summary.totals.Tallies passed
  /-- The events that were passed on were handed over, in this order. -/
  order : (passed.map Passing.event).Sublist handed
  /-- A sample was counted or dropped, unless it had no frame. -/
  samples : summary.totals.events + summary.dropped + passed.countP Passing.isUnframed
    = (samples handed).length
  completions : summary.totals.flushesDelivered + summary.totals.flushesDropped
    = handed.countP Event.isFlushComplete
  kinds : ∀ p ∈ passed, p.isSample = !p.event.isFlushComplete
  /-- A sample has no frame if it is too long for one, and then only. -/
  framed : ∀ e sends, .sample e sends ∈ passed → (sends = none ↔ ¬ Frames config e)
  /-- Where no sample is too long for a frame, each was counted or dropped. -/
  complete : (∀ e ∈ SensorBroker.samples handed, Frames config e) →
    summary.totals.events + summary.dropped = (SensorBroker.samples handed).length

/-- Where no sample is too long for a frame, none lacks one. -/
theorem countP_isUnframed_eq_zero {config : Config} {es : List Event} {ps : List Passing}
    (order : (ps.map Passing.event).Sublist es)
    (kinds : ∀ p ∈ ps, p.isSample = !p.event.isFlushComplete)
    (framed : ∀ e sends, .sample e sends ∈ ps → (sends = none ↔ ¬ Frames config e))
    (fit : ∀ e ∈ samples es, Frames config e) : ps.countP Passing.isUnframed = 0 := by
  rw [List.countP_eq_zero]
  intro p hp hunframed
  rcases p with ⟨e, _ | sends⟩ | ⟨e, delivered⟩
  · have hmem : e ∈ es := order.subset (List.mem_map_of_mem hp)
    have hsample : true = !e.isFlushComplete := kinds _ hp
    exact (framed e none hp).1 rfl (fit e (List.mem_filter.2 ⟨hmem, hsample.symm⟩))
  · cases hunframed
  · cases hunframed

variable {config : Config} {hardware : Hardware} {rule : SocketRule} {watching : Bool}

/-- Where nothing was lost from sight since the beginning and nothing waits, the
summary accounts for all events. -/
theorem Balanced.accounted {es : List Event} {ps : List Passing}
    (h : Balanced es ps (ofConfig config hardware rule watching) b) (drained : b.queue = []) :
    Accounted config es ps b.summary := by
  have htallies : b.totals.Tallies ps := by
    rw [h.totals]
    exact DispatchTotals.tallies_foldl DispatchTotals.tallies_nil ps
  have hsublist : (ps.map Passing.event).Sublist es := by
    simpa [drained, ofConfig] using h.order
  have hsamples : b.totals.events + b.dropped + ps.countP Passing.isUnframed
      = (samples es).length := by
    have hsplit := countP_isSample ps
    have hevents := htallies.events
    have hkept := h.kept
    rw [drained] at hkept
    simp only [ofConfig, samples, List.filter_nil, List.length_nil] at hkept
    simp only [samples]
    omega
  have hends : b.totals.flushesDelivered + b.totals.flushesDropped
      = es.countP Event.isFlushComplete := by
    have hsplit := countP_not_isSample ps
    have hcompletions := h.completions
    rw [drained] at hcompletions
    simp only [ofConfig, List.countP_nil] at hcompletions
    rw [htallies.delivered, htallies.undelivered]
    omega
  refine ⟨htallies, hsublist, hsamples, hends, h.kinds, h.framed, fun hfit => ?_⟩
  have hnone := countP_isUnframed_eq_zero hsublist h.kinds h.framed hfit
  rw [hnone] at hsamples
  exact hsamples

/-- **Once no event waits, the summary accounts for all that were handed over**,
but for the samples that have no frame. -/
theorem accounted_of_drained {ts : List Turn}
    (drained : ((ofConfig config hardware rule watching).attend ts).queue = []) :
    Accounted config (handed ts) (passed ts (ofConfig config hardware rule watching))
      ((ofConfig config hardware rule watching).attend ts).summary :=
  (balanced_attend rfl ts).accounted drained

/-- A broker whose hardware is not opened yet. -/
def spare : Broker :=
  ofConfig {} default default false

/-- A broker with two processes that subscribe to the accelerometer. The second
has asked for it to be flushed; the client of the first has left. -/
def attended : Broker :=
  trial.run [.enable ⟨100, 1000, 7⟩ .accelerometer ⟨1000000, 0⟩,
    .enable ⟨200, 1000, 8⟩ .accelerometer ⟨1000000, 0⟩, .openDataChannel ⟨100, 1000, 7⟩,
    .openDataChannel ⟨200, 1000, 8⟩, .flush ⟨200, 1000, 8⟩ .accelerometer, .atClient 0 .leave]

/-- A sample that one channel fails to take and another one takes, the end of the
flush that was asked for and that of one that was not, and a sample nobody
subscribes to. -/
theorem accounted_on_spare :
    let sample := Event.sample .accelerometer 42 [1, 2, 3, 4]
    let ts : List Turn := [.hand sample, .meanwhile attended, .pass,
      .hand (.flushComplete .accelerometer 43), .hand (.flushComplete .accelerometer 44), .pass,
      .pass, .hand (.sample .color 45 [1, 2]), .pass]
    (spare.attend ts).queue = [] ∧
      (passed ts spare).head? = some (.sample sample (some [false, true])) ∧
      (spare.attend ts).totals.events = 2 ∧ (spare.attend ts).totals.unrouted = 1 ∧
      (spare.attend ts).totals.channelErrors = 1 ∧
      (spare.attend ts).totals.flushesDelivered = 1 ∧
      (spare.attend ts).totals.flushesDropped = 1 ∧
      Accounted {} (handed ts) (passed ts spare) (spare.attend ts).summary := by
  intro sample ts
  have hdrained : (spare.attend ts).queue = [] := by decide +kernel
  exact ⟨hdrained, by decide +kernel, by decide +kernel, by decide +kernel, by decide +kernel,
    by decide +kernel, by decide +kernel, accounted_of_drained hdrained⟩

/-- **A sample too long for a frame is neither counted nor dropped.** -/
theorem long_sample_uncounted :
    let ts : List Turn := [.hand (.sample .accelerometer 5 (List.replicate 300 0)), .pass]
    (spare.attend ts).queue = [] ∧ (samples (handed ts)).length = 1 ∧
      (spare.attend ts).summary.totals.events + (spare.attend ts).summary.dropped = 0 := by
  decide +kernel

end Broker
end SensorBroker
