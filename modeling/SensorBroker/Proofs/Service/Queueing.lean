/-
# Events are passed on in the order they were raised

The queue of events is first in, first out. If none was dropped in a part of a
life, the events that waited and those that arrived since, one after the
other, are those that were passed on, in order, and then those that still
wait; and the samples among the arrivals are exactly the samples that backends
raised while the broker took events (`Broker.InOrder`).

Key definitions: `Broker.emitted`, `Broker.routed`, `Broker.along`,
`Broker.InOrder`.
Key theorems: `Broker.exists_route`, `Broker.inOrder_collect`,
`Broker.Lived.inOrder_after`.
-/
import SensorBroker.Proofs.Service.Lifetime

namespace SensorBroker
namespace Broker

/-! ### What routing changes -/

theorem exists_sendOn (b : Broker) (frame : Bytes) (id : ChannelId) :
    ∃ r cs, (b.sendOn frame id).2 = b.setRecords r cs := by
  unfold sendOn
  split
  · next cs _ => exact ⟨b.registry, cs, rfl⟩
  · next cs _ =>
    split_ifs
    · exact ⟨_, _, rfl⟩
    · exact ⟨b.registry, cs, rfl⟩

theorem exists_sendEach (frame : Bytes) : ∀ (ids : List ChannelId) (b : Broker),
    ∃ r cs, (sendEach frame ids b).2.2 = b.setRecords r cs
  | [], b => ⟨b.registry, b.channels, rfl⟩
  | id :: rest, b => by
    obtain ⟨r, cs, hhead⟩ := b.exists_sendOn frame id
    obtain ⟨r', cs', hrest⟩ := exists_sendEach frame rest (b.sendOn frame id).2
    refine ⟨r', cs', ?_⟩
    rw [sendEach]
    simp only
    split
    · exact hrest.trans (by rw [hhead]; rfl)
    · exact hrest.trans (by rw [hhead]; rfl)

/-- Routing an event changes records, channels, what waits for the end of a
flush, and the totals. -/
theorem exists_route (b : Broker) (e : Event) :
    ∃ r cs flushes totals, b.route e = { b.setRecords r cs with flushes, totals } := by
  unfold route
  split
  · unfold deliverFlush
    split
    · exact ⟨b.registry, b.channels, b.flushes, _, rfl⟩
    · next entry flushes _ =>
      simp only
      split
      · exact ⟨b.registry, b.channels, flushes, _, rfl⟩
      · next frame _ =>
        obtain ⟨r, cs, hsend⟩ := exists_sendOn { b with flushes } frame entry.channel
        exact ⟨r, cs, flushes, _, by rw [hsend]; rfl⟩
  · unfold deliverSample
    simp only
    split
    · exact ⟨b.registry.storeEvent e, b.channels, b.flushes, b.totals, rfl⟩
    · next frame _ =>
      obtain ⟨r, cs, hsend⟩ := exists_sendEach frame
        ((b.setRegistry (b.registry.storeEvent e)).registry.activeChannels e.sensor)
        (b.setRegistry (b.registry.storeEvent e))
      exact ⟨r, cs, b.flushes, _, by rw [hsend]; rfl⟩

theorem exists_foldl_route : ∀ (es : List Event) (b : Broker),
    ∃ r cs flushes totals, es.foldl route b = { b.setRecords r cs with flushes, totals }
  | [], b => ⟨b.registry, b.channels, b.flushes, b.totals, rfl⟩
  | e :: rest, b => by
    obtain ⟨r, cs, flushes, totals, hhead⟩ := b.exists_route e
    obtain ⟨r', cs', flushes', totals', hrest⟩ := exists_foldl_route rest (b.route e)
    refine ⟨r', cs', flushes', totals', hrest.trans ?_⟩
    rw [hhead]
    rfl

/-- After the backends are closed, stopping changes only what passing events on
changes. -/
theorem exists_stop (b : Broker) : ∃ r cs flushes totals, b.stop =
    { b.windDown.setRecords r cs with flushes, totals, queue := [], accepting := false } := by
  obtain ⟨r, cs, flushes, totals, hroute⟩ :=
    exists_foldl_route b.windDown.queue { b.windDown with queue := [] }
  exact ⟨r, cs, flushes, totals, by rw [stop_eq, drain, hroute]; rfl⟩

/-! ### Along a life -/

/-- The samples that a backend raises for a broker that takes events. -/
def emitted (b : Broker) : Act → List Event
  | .op (.emit slot e) => if b.accepting then samples ((b.hardware.device slot).emit e) else []
  | _ => []

/-- The events that are passed on, in order. -/
def routed (b : Broker) : Act → List Event
  | .op .dispatch => b.queue.take 1
  | .stop => b.windDown.queue
  | _ => []

/-- What something gives along a part of a life. -/
def along {α : Type} (f : Broker → Act → List α) : List Act → Broker → List α
  | [], _ => []
  | a :: rest, b => f b a ++ along f rest (b.act a)

/-- In between, `taken` was passed on and the samples `raised` arrived, in
order, unless one was dropped. -/
structure InOrder (taken raised : List Event) (b b' : Broker) : Prop where
  dropped : b.dropped ≤ b'.dropped
  order : b'.dropped = b.dropped →
    ∃ arrived, samples arrived = raised ∧ b.queue ++ arrived = taken ++ b'.queue

variable {b b' : Broker} {op : Op}

theorem InOrder.of_eq (queue : b'.queue = b.queue) (dropped : b'.dropped = b.dropped) :
    InOrder [] [] b b' where
  dropped := Nat.le_of_eq dropped.symm
  order _ := ⟨[], rfl, by rw [queue, List.append_nil, List.nil_append]⟩

theorem InOrder.trans {taken raised taken' raised' : List Event} {b'' : Broker}
    (first : InOrder taken raised b b') (second : InOrder taken' raised' b' b'') :
    InOrder (taken ++ taken') (raised ++ raised') b b'' where
  dropped := Nat.le_trans first.dropped second.dropped
  order hnone := by
    have hfirst : b'.dropped = b.dropped :=
      Nat.le_antisymm (Nat.le_trans second.dropped (Nat.le_of_eq hnone)) first.dropped
    obtain ⟨arrived, hraised, hqueue⟩ := first.order hfirst
    obtain ⟨arrived', hraised', hqueue'⟩ := second.order (hnone.trans hfirst.symm)
    refine ⟨arrived ++ arrived', ?_, ?_⟩
    · rw [samples_append, hraised, hraised']
    · calc b.queue ++ (arrived ++ arrived')
          = (b.queue ++ arrived) ++ arrived' := (List.append_assoc ..).symm
        _ = (taken ++ b'.queue) ++ arrived' := by rw [hqueue]
        _ = taken ++ (b'.queue ++ arrived') := List.append_assoc ..
        _ = taken ++ (taken' ++ b''.queue) := by rw [hqueue']
        _ = (taken ++ taken') ++ b''.queue := (List.append_assoc ..).symm

/-! ### Arrivals -/

theorem dropped_le_offer (b : Broker) (e : Event) : b.dropped ≤ (b.offer e).dropped := by
  unfold offer
  split_ifs
  · exact Nat.le_refl _
  · exact Nat.le_refl _
  · exact Nat.le_succ _

theorem dropped_le_foldl_offer : ∀ (es : List Event) (b : Broker),
    b.dropped ≤ (es.foldl offer b).dropped
  | [], _ => Nat.le_refl _
  | e :: rest, b => Nat.le_trans (b.dropped_le_offer e) (dropped_le_foldl_offer rest _)

theorem offer_of_closed (h : b.accepting = false) (e : Event) : b.offer e = b := by
  unfold offer
  rw [h]
  rfl

theorem foldl_offer_of_closed (h : b.accepting = false) : ∀ es : List Event, es.foldl offer b = b
  | [] => rfl
  | e :: rest => by
    rw [List.foldl_cons, offer_of_closed h]
    exact foldl_offer_of_closed h rest

/-- An event that is not dropped is put behind those that wait. -/
theorem offer_of_kept (h : b.accepting = true) {e : Event}
    (kept : (b.offer e).dropped = b.dropped) : b.offer e = { b with queue := b.queue ++ [e] } := by
  have hopen : ¬ (!b.accepting) = true := by rw [h]; exact Bool.false_ne_true
  by_cases hroom : (e.isFlushComplete || decide (b.queue.length < b.capacity)) = true
  · exact (if_neg hopen).trans (if_pos hroom)
  · have hfull : b.offer e = { b with dropped := b.dropped + 1 } :=
      (if_neg hopen).trans (if_neg hroom)
    rw [hfull] at kept
    exact absurd kept (Nat.succ_ne_self b.dropped)

theorem queue_foldl_offer {b : Broker} (h : b.accepting = true) : ∀ {es : List Event},
    (es.foldl offer b).dropped = b.dropped → (es.foldl offer b).queue = b.queue ++ es
  | [], _ => (List.append_nil _).symm
  | e :: rest, kept => by
    have hhead : (b.offer e).dropped = b.dropped := by
      refine Nat.le_antisymm ?_ (b.dropped_le_offer e)
      exact Nat.le_trans (dropped_le_foldl_offer rest _) (Nat.le_of_eq kept)
    have hoffer := offer_of_kept h hhead
    rw [List.foldl_cons, hoffer] at kept ⊢
    have hopen : ({ b with queue := b.queue ++ [e] } : Broker).accepting = true := h
    rw [queue_foldl_offer hopen kept, List.append_assoc]
    rfl

/-- What was raised is put behind what waits. -/
theorem inOrder_collect (b : Broker) :
    InOrder [] (if b.accepting then samples b.hardware.raised else []) b b.collect := by
  have hfold : b.collect =
      b.hardware.raised.foldl offer (b.setHardware { b.hardware with raised := [] }) := rfl
  cases haccepting : b.accepting with
  | true =>
    rw [if_pos rfl]
    constructor
    · rw [hfold]
      exact dropped_le_foldl_offer _ (b.setHardware { b.hardware with raised := [] })
    · intro hkept
      rw [hfold] at hkept ⊢
      refine ⟨b.hardware.raised, rfl, ?_⟩
      rw [queue_foldl_offer (b := b.setHardware { b.hardware with raised := [] }) haccepting hkept]
      rfl
  | false =>
    rw [if_neg Bool.false_ne_true, hfold,
      foldl_offer_of_closed (b := b.setHardware { b.hardware with raised := [] }) haccepting]
    exact .of_eq rfl rfl

/-- Where only the ends of flushes were raised, no sample arrives. -/
theorem inOrder_collect_of_quiet (quiet : samples b.hardware.raised = []) :
    InOrder [] [] b b.collect := by
  have hcollect := b.inOrder_collect
  rwa [quiet, ite_self] at hcollect

/-! ### Every act -/

theorem Shift.inOrder (shift : Shift op b b') (hemit : ∀ slot e, op ≠ .emit slot e)
    (hdispatch : op ≠ .dispatch) (quiet : samples b.hardware.raised = []) :
    InOrder [] [] b b' := by
  rcases shift.uneventful_or with haside | rfl | ⟨slot, e, now, -⟩ | ⟨_, _, now, -⟩ | ⟨_, now, -⟩
  · exact .of_eq haside.queue haside.dropped
  · exact inOrder_collect_of_quiet quiet
  · exact absurd now (hemit slot e)
  · exact absurd now hdispatch
  · exact absurd now hdispatch

theorem Shifts.inOrder (shifts : Shifts op b b') (hemit : ∀ slot e, op ≠ .emit slot e)
    (hdispatch : op ≠ .dispatch) (h : b.Regular) : InOrder [] [] b b' := by
  induction shifts with
  | refl => exact .of_eq rfl rfl
  | tail before shift ih =>
    have hbetween := Shifts.regular before hemit h
    exact ih.trans (shift.inOrder hemit hdispatch hbetween.quiet)

theorem inOrder_dispatch (b : Broker) : InOrder (b.queue.take 1) [] b b.dispatch := by
  unfold dispatch
  cases hqueue : b.queue with
  | nil => exact .of_eq rfl rfl
  | cons e rest =>
    obtain ⟨r, cs, flushes, totals, hroute⟩ := exists_route { b with queue := rest } e
    simp only [hroute]
    refine ⟨Nat.le_refl _, fun _ => ⟨[], rfl, ?_⟩⟩
    rw [hqueue, List.append_nil]
    rfl

/-- No samples wait in the hardware but those of the backend. -/
theorem Regular.samples_emit (h : b.Regular) (slot : Slot) (e : Event) :
    samples (b.hardware.emit slot e).raised = samples ((b.hardware.device slot).emit e) := by
  show samples (b.hardware.raised ++ _) = _
  rw [samples_append, h.quiet, List.nil_append]

theorem emitted_of_not_emit (b : Broker) (hemit : ∀ slot e, op ≠ .emit slot e) :
    b.emitted (.op op) = [] := by
  cases op with
  | emit slot e => exact absurd rfl (hemit slot e)
  | _ => rfl

theorem Regular.inOrder_emit (h : b.Regular) (slot : Slot) (e : Event) :
    InOrder [] (b.emitted (.op (.emit slot e))) b (b.emit slot e) := by
  have hcollect := (b.setHardware (b.hardware.emit slot e)).inOrder_collect
  rw [hardware_setHardware, h.samples_emit] at hcollect
  exact ⟨hcollect.dropped, hcollect.order⟩

theorem raised_disconnect (h : Hardware) : h.disconnect.raised = h.raised := by
  have hclose (h : Hardware) (slot : Option Slot) : (h.closeSlot slot).raised = h.raised := by
    unfold Hardware.closeSlot
    cases slot with
    | none => rfl
    | some slot => cases slot <;> rfl
  exact (hclose _ _).trans (hclose h _)

/-- No sample is raised when the sensors go off. -/
theorem Regular.quiet_shutDown (h : b.Regular) : samples b.shutDown.hardware.raised = [] := by
  have hkept := kept_releaseSensors b.arbitration.running b.arbitration
  show samples (Hardware.disconnect _).raised = []
  rw [raised_disconnect]
  exact hkept.hardware.samples.trans h.quiet

theorem Regular.inOrder_windDown (h : b.Regular) : InOrder [] [] b b.windDown := by
  have hdown := inOrder_collect_of_quiet h.quiet_shutDown
  exact ⟨hdown.dropped, hdown.order⟩

theorem Regular.inOrder_stop (h : b.Regular) : InOrder b.windDown.queue [] b b.stop := by
  have hdrain : InOrder b.windDown.queue [] b.windDown b.stop := by
    obtain ⟨r, cs, flushes, totals, hstop⟩ := b.exists_stop
    rw [hstop]
    exact ⟨Nat.le_refl _, fun _ => ⟨[], rfl, rfl⟩⟩
  exact h.inOrder_windDown.trans hdrain

/-- **Every act keeps the order of events.** -/
theorem Regular.inOrder_act (h : b.Regular) (a : Act) :
    InOrder (b.routed a) (b.emitted a) b (b.act a) := by
  cases a with
  | stop => exact h.inOrder_stop
  | op op =>
    by_cases hdispatch : op = .dispatch
    · rw [hdispatch]
      exact b.inOrder_dispatch
    · by_cases hemit : ∃ slot e, op = .emit slot e
      · obtain ⟨slot, e, rfl⟩ := hemit
        exact h.inOrder_emit slot e
      · have hemit' (slot : Slot) (e : Event) : op ≠ .emit slot e := fun heq =>
          hemit ⟨slot, e, heq⟩
        have hshifts := b.shifts_step op h.orderly.serves_apart
        have hquiet := hshifts.inOrder hemit' hdispatch h
        have hrouted : b.routed (.op op) = [] := by
          cases op <;> first | rfl | exact absurd rfl hdispatch
        rw [hrouted, b.emitted_of_not_emit hemit']
        exact hquiet

/-- **Every part of a life keeps the order of events.** -/
theorem Lived.inOrder_after {b : Broker} (h : b.Lived) : ∀ life : List Act,
    InOrder (b.along routed life) (b.along emitted life) b (b.after life)
  | [] => .of_eq rfl rfl
  | a :: rest => (h.regular.inOrder_act a).trans ((h.act a).inOrder_after rest)

end Broker
end SensorBroker
