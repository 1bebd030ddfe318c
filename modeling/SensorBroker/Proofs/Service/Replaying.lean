/-
# How old the last event of a sensor may be

The last event of a sensor is one of its samples that was passed on, has been
its last event ever since, and the sensor was not switched off since: switching
a sensor off makes its last event forgotten (`Broker.LastSince`).

It need not be a sample of the time that the sensor is on. Events wait in a
queue before they are passed on, and a backend may raise one late; a sample that
is passed on after the last subscriber has left is kept all the same, and told
to a process that joins once the sensor is on again. Only of a sample that found
its sensor on when it was passed on can it be said that the sensor has been on
ever since.

Key definitions: `Broker.passing`, `Broker.Renews`, `Broker.LastSince`.
Key theorems: `Broker.Orderly.renews_act`, `Broker.Started.last_since`.
-/
import Mathlib.Data.List.Induction
import SensorBroker.Proofs.Service.Delivery
import SensorBroker.Proofs.Service.Tokens

namespace SensorBroker
namespace Broker

/-- The broker as the events of an act are passed on; when it stops, that is after
its sensors were switched off. -/
def passing (b : Broker) : Act → Broker
  | .op _ => b
  | .stop => b.windDown

/-- A last event is a sample among the events `es`, or was one before and its
sensor was not switched off. -/
def Renews (es : List Event) (b b' : Broker) : Prop :=
  ∀ s e, b'.registry.lastEvents.get? s = some e →
    (b.registry.lastEvents.get? s = some e ∧
      (b.arbitration.isRunning s = true → b'.arbitration.isRunning s = true)) ∨
    (e ∈ es ∧ e.sensor = s ∧ e.isFlushComplete = false)

/-- An event was passed on in an act as a sample of a sensor, and after that act
and all that followed it was its last event; once on, the sensor stayed on. -/
structure LastSince (b : Broker) (s : SensorId) (e : Event) (before : List Act) (a : Act)
    (after : List Act) : Prop where
  passed : e ∈ (b.after before).routed a
  sensor : e.sensor = s
  sample : e.isFlushComplete = false
  stands : ∀ part, part <+: after →
    (b.after (before ++ a :: part)).registry.lastEvents.get? s = some e
  on : ∀ part part', part <+: part' → part' <+: after →
    (b.after (before ++ a :: part)).arbitration.isRunning s = true →
    (b.after (before ++ a :: part')).arbitration.isRunning s = true

variable {b b' b'' : Broker} {op : Op} {s : SensorId} {e : Event} {es es' : List Event}

namespace Renews

theorem refl (b : Broker) : Renews [] b b :=
  fun _ _ hlast => .inl ⟨hlast, id⟩

theorem trans (first : Renews es b b') (second : Renews es' b' b'') :
    Renews (es ++ es') b b'' := fun s e hlast => by
  rcases second s e hlast with ⟨hbetween, hon'⟩ | ⟨hmem, hsample⟩
  · rcases first s e hbetween with ⟨hbefore, hon⟩ | ⟨hmem, hsample⟩
    · exact .inl ⟨hbefore, fun h => hon' (hon h)⟩
    · exact .inr ⟨List.mem_append_left _ hmem, hsample⟩
  · exact .inr ⟨List.mem_append_right _ hmem, hsample⟩

/-- What arbitration does: a sensor that is switched off is forgotten. -/
theorem of_kept (h : b.arbitration.Kept b'.arbitration) : Renews [] b b' := fun s e hlast => by
  refine .inl ⟨h.lastEvents hlast, fun hon => ?_⟩
  by_contra hoff
  have hforgotten : b'.registry.lastEvents.get? s = none :=
    h.forgotten hon (Bool.eq_false_iff.2 hoff)
  rw [hforgotten] at hlast
  cases hlast

theorem of_eq (active : b'.arbitration.active = b.arbitration.active)
    (lastEvents : b'.registry.lastEvents = b.registry.lastEvents) : Renews [] b b' :=
  fun s e hlast => by
    refine .inl ⟨lastEvents ▸ hlast, fun hon => ?_⟩
    rwa [Arbitration.isRunning, active]

theorem of_clerical (h : Clerical b b') : Renews [] b b' :=
  .of_eq h.active h.lastEvents

/-- A sample that is kept takes the place of the last one of its sensor. -/
theorem storeEvent (b : Broker) (hsample : e.isFlushComplete = false) :
    Renews [e] b (b.setRegistry (b.registry.storeEvent e)) := fun s e' hlast => by
  have hget : (b.registry.lastEvents.insert e.sensor e).get? s = some e' := hlast
  rw [Table.get?_insert] at hget
  split_ifs at hget with hs
  · cases hget
    exact .inr ⟨List.mem_cons_self, hs.symm, hsample⟩
  · exact .inl ⟨hget, id⟩

end Renews

/-! ### What one act does -/

/-- Before the dispatcher comes, no last event is new. -/
theorem Shift.renews (shift : Shift op b b') (hop : op ≠ .dispatch) : Renews [] b b' := by
  rcases shift.clerical_or with h | ⟨x, kept, rfl⟩ | ⟨_, -, -, rfl⟩ | rfl | ⟨_, _, -, rfl⟩ |
    ⟨_, _, now, -⟩ | ⟨_, now, -⟩
  · exact .of_clerical h
  · exact .of_kept kept
  · exact .of_eq rfl rfl
  · obtain ⟨queue, dropped, heq⟩ := b.exists_collect
    rw [heq]
    exact .of_eq rfl rfl
  · exact .of_eq rfl rfl
  · exact absurd now hop
  · exact absurd now hop

theorem Shifts.renews (shifts : Shifts op b b') (hop : op ≠ .dispatch) : Renews [] b b' := by
  induction shifts with
  | refl => exact .refl b
  | tail _ shift ih => exact ih.trans (shift.renews hop)

theorem renews_sendOn (b : Broker) (frame : Bytes) (id : ChannelId) :
    Renews [] b (b.sendOn frame id).2 := by
  unfold sendOn
  split
  · exact .of_eq rfl rfl
  · next cs _ =>
    have hsend : Renews [] b { b with channels := cs } := .of_eq rfl rfl
    split_ifs
    · exact hsend.trans (.of_clerical (clerical_giveUp _ id))
    · exact hsend

theorem renews_sendEach (frame : Bytes) : ∀ (ids : List ChannelId) (b : Broker),
    Renews [] b (sendEach frame ids b).2.2
  | [], b => .refl b
  | id :: rest, b => by
    have hboth := (b.renews_sendOn frame id).trans (renews_sendEach frame rest _)
    rw [sendEach]
    simp only
    split
    · exact hboth
    · exact hboth

theorem renews_deliverFlush (b : Broker) (e : Event) : Renews [] b (b.deliverFlush e) := by
  unfold deliverFlush
  split
  · exact .of_eq rfl rfl
  · next entry flushes _ =>
    simp only
    split
    · exact .of_eq rfl rfl
    · next frame _ =>
      exact ({ b with flushes } : Broker).renews_sendOn frame entry.channel

theorem renews_deliverSample (b : Broker) (hsample : e.isFlushComplete = false) :
    Renews [e] b (b.deliverSample e) := by
  have hstore := Renews.storeEvent b hsample
  unfold deliverSample
  simp only
  split
  · exact hstore
  · next frame _ => exact hstore.trans (renews_sendEach frame _ _)

/-- **Passing an event on** renews the last event of its sensor at most. -/
theorem renews_route (b : Broker) (e : Event) : Renews [e] b (b.route e) := by
  unfold route
  split_ifs with hflush
  · exact fun s e' hlast => (b.renews_deliverFlush e s e' hlast).imp_right fun h => nomatch h.1
  · exact b.renews_deliverSample (Bool.eq_false_iff.2 hflush)

theorem renews_foldl_route : ∀ (es : List Event) (b : Broker), Renews es b (es.foldl route b)
  | [], b => .refl b
  | e :: rest, b => (b.renews_route e).trans (renews_foldl_route rest (b.route e))

theorem renews_windDown (b : Broker) : Renews [] b b.windDown := by
  have hkept := kept_releaseSensors b.arbitration.running b.arbitration
  have hoff : Renews [] b (b.setArbitration _) := .of_kept hkept
  obtain ⟨queue, dropped, heq⟩ := b.shutDown.exists_collect
  unfold windDown
  rw [heq]
  exact hoff.trans (.of_eq rfl rfl)

/-- **In every act** a last event is a sample that is passed on in it, or was one
before and its sensor is not switched off. -/
theorem Orderly.renews_act (h : b.Orderly) (a : Act) : Renews (b.routed a) b (b.act a) := by
  cases a with
  | stop =>
    exact b.renews_windDown.trans
      (renews_foldl_route b.windDown.queue { b.windDown with queue := [] })
  | op op =>
    have hshifts := b.shifts_step op h.serves_apart
    cases op with
    | dispatch =>
      show Renews (b.queue.take 1) b b.dispatch
      unfold dispatch
      cases b.queue with
      | nil => exact .refl b
      | cons e rest => exact ({ b with queue := rest } : Broker).renews_route e
    | _ => exact hshifts.renews nofun

/-- Passing events on switches no sensor on or off. -/
theorem isRunning_act_of_routed {a : Act} (hpassed : e ∈ b.routed a) :
    (b.act a).arbitration.isRunning s = (b.passing a).arbitration.isRunning s := by
  cases a with
  | stop =>
    obtain ⟨_, _, _, _, hstop⟩ := b.exists_stop
    show b.stop.arbitration.isRunning s = b.windDown.arbitration.isRunning s
    rw [hstop]
    rfl
  | op op =>
    cases op with
    | dispatch =>
      show b.dispatch.arbitration.isRunning s = b.arbitration.isRunning s
      unfold dispatch
      cases b.queue with
      | nil => rfl
      | cons e rest =>
        obtain ⟨_, _, _, _, heq⟩ := exists_route { b with queue := rest } e
        show (Broker.route _ e).arbitration.isRunning s = _
        rw [heq]
        rfl
    | _ => exact (List.not_mem_nil hpassed).elim

/-! ### Along a life -/

theorem after_append (b : Broker) (before later : List Act) :
    b.after (before ++ later) = (b.after before).after later :=
  List.foldl_append ..

/-- A sensor is on when its event is passed on exactly if it is on after that act. -/
theorem LastSince.isRunning_passing {before after : List Act} {a : Act}
    (h : b.LastSince s e before a after) :
    ((b.after before).passing a).arbitration.isRunning s =
      (b.after (before ++ [a])).arbitration.isRunning s := by
  rw [after_append]
  exact (isRunning_act_of_routed h.passed).symm

/-- The last event of a sensor is still the one it was. -/
theorem LastSince.extend {before after : List Act} {a next : Act}
    (h : b.LastSince s e before a after)
    (hlast : (b.after (before ++ a :: (after ++ [next]))).registry.lastEvents.get? s = some e)
    (hon : (b.after (before ++ a :: after)).arbitration.isRunning s = true →
      (b.after (before ++ a :: (after ++ [next]))).arbitration.isRunning s = true) :
    b.LastSince s e before a (after ++ [next]) where
  passed := h.passed
  sensor := h.sensor
  sample := h.sample
  stands part hpart := by
    rcases List.prefix_concat_iff.1 hpart with rfl | hpart
    · exact hlast
    · exact h.stands part hpart
  on part part' hbetween hpart' hrunning := by
    rcases List.prefix_concat_iff.1 hpart' with rfl | hpart'
    · rcases List.prefix_concat_iff.1 hbetween with rfl | hpart
      · exact hrunning
      · exact hon (h.on part after hpart List.prefix_rfl hrunning)
    · exact h.on part part' hbetween hpart' hrunning

/-- **A last event was passed on some time, and stands since.** -/
theorem Lived.exists_lastSince (h : b.Lived) (hnone : b.registry.lastEvents.get? s = none)
    {life : List Act} (hlast : (b.after life).registry.lastEvents.get? s = some e) :
    ∃ before a after, life = before ++ a :: after ∧ b.LastSince s e before a after := by
  induction life using List.reverseRecOn with
  | nil =>
    rw [show (b.after []).registry.lastEvents.get? s = none from hnone] at hlast
    cases hlast
  | append_singleton life a ih =>
    have hact : b.after (life ++ [a]) = (b.after life).act a := b.after_append life [a]
    rw [hact] at hlast
    rcases (h.after life).regular.orderly.renews_act a s e hlast with ⟨hbefore, hon⟩ |
      ⟨hpassed, hsensor, hsample⟩
    · obtain ⟨before, first, after, rfl, hsince⟩ := ih hbefore
      have hsplit : before ++ first :: (after ++ [a]) = (before ++ first :: after) ++ [a] := by
        rw [List.append_assoc, List.cons_append]
      refine ⟨before, first, after ++ [a], hsplit.symm, hsince.extend ?_ fun hrunning => ?_⟩
      · rw [hsplit, hact]
        exact hlast
      · rw [hsplit, hact]
        exact hon hrunning
    · refine ⟨life, a, [], rfl, ⟨hpassed, hsensor, hsample, fun part hpart => ?_,
        fun part part' hbetween hpart' hrunning => ?_⟩⟩
      · rw [List.prefix_nil.1 hpart, hact]
        exact hlast
      · obtain rfl := List.prefix_nil.1 hpart'
        rwa [List.prefix_nil.1 hbetween] at hrunning

theorem Started.lastEvents (h : b.Started) : b.registry.lastEvents = ∅ := by
  cases h with
  | intro _ _ started =>
    obtain ⟨hw, -, rfl⟩ := start_ok started
    rfl

/-- **How old the last event of a sensor is.** At every moment of every life from
the start, the last event of a sensor is one of its samples that was passed on
in an act and stands since; and the sensor has been on ever since exactly if it
was on then. Nothing else is told to a process that joins the sensor. -/
theorem Started.last_since (h : b.Started) (life : List Act) (s : SensorId) :
    (∀ e, (b.after life).registry.lastEvents.get? s = some e →
      ∃ before a after, life = before ++ a :: after ∧ b.LastSince s e before a after ∧
        ((∀ part, part <+: after →
            (b.after (before ++ a :: part)).arbitration.isRunning s = true) ↔
          ((b.after before).passing a).arbitration.isRunning s = true)) ∧
    ∀ caller request, ∀ n ∈ replayed caller.pid (b.after life) caller s request,
      ∃ e, (b.after life).registry.lastEvents.get? s = some e ∧ n = ⟨.sensorEvent, e⟩ := by
  constructor
  · intro e hlast
    have hnone : b.registry.lastEvents.get? s = none := by
      rw [h.lastEvents]
      rfl
    obtain ⟨before, a, after, hlife, hsince⟩ :=
      (Lived.start h.reachable).exists_lastSince hnone hlast
    refine ⟨before, a, after, hlife, hsince, ?_⟩
    rw [hsince.isRunning_passing]
    exact ⟨fun hall => hall [] List.nil_prefix,
      fun hon part hpart => hsince.on [] part List.nil_prefix hpart hon⟩
  · intro caller request n hn
    unfold replayed lastChange at hn
    split_ifs at hn
    · obtain ⟨e, hlast, rfl⟩ := Option.map_eq_some_iff.1 (Option.mem_toList.1 hn)
      exact ⟨e, hlast, rfl⟩
    · cases hn
    · cases hn

/-- A broker that was just started, whose only sensor reports only changes. -/
def changing : Broker :=
  (ofConfig {} (.ofSettings {} (.scripted "real"
    [{ Device.scriptedDescriptor .color with flags := Descriptor.onChangeFlag }]
    (fun _ _ => false) false true) fun _ => .software) default false).start.2

theorem started_changing : changing.Started :=
  .intro ⟨rfl, rfl⟩ (fun _ => ⟨rfl, rfl⟩) (Prod.ext rfl rfl)

/-- A sample that finds its sensor on: the second process, which joins later, is
told it, and the sensor has been on since it was passed on. -/
theorem punctual_sample_replayed :
    let life : List Act := [.op (.enable ⟨100, 1000, 7⟩ .color ⟨1000000, 0⟩),
      .op (.emit .vendor (.sample .color 5 [])), .op .dispatch,
      .op (.openDataChannel ⟨200, 1000, 8⟩)]
    ⟨.sensorEvent, .sample .color 5 []⟩ ∈
        replayed 200 (changing.after life) ⟨200, 1000, 8⟩ .color ⟨1000000, 0⟩ ∧
      ∃ before a after, life = before ++ a :: after ∧
        changing.LastSince .color (.sample .color 5 []) before a after ∧
        ∀ part, part <+: after →
          (changing.after (before ++ a :: part)).arbitration.isRunning .color = true := by
  intro life
  obtain ⟨hsince, htold⟩ := started_changing.last_since life .color
  have hreplayed : ⟨.sensorEvent, .sample .color 5 []⟩ ∈
      replayed 200 (changing.after life) ⟨200, 1000, 8⟩ .color ⟨1000000, 0⟩ := by decide +kernel
  have hon : ∀ n < 4, (changing.after (life.take (n + 1))).arbitration.isRunning .color = true := by
    decide +kernel
  obtain ⟨e, hlast, heq⟩ := htold ⟨200, 1000, 8⟩ ⟨1000000, 0⟩ _ hreplayed
  obtain rfl : Event.sample .color 5 [] = e := congrArg Notice.event heq
  obtain ⟨before, a, after, hlife, hstands, hiff⟩ := hsince _ hlast
  refine ⟨hreplayed, before, a, after, hlife, hstands, hiff.2 ?_⟩
  have hlength : before.length < 4 := by
    have hall := congrArg List.length hlife
    simp only [List.length_append, List.length_cons] at hall
    change 4 = _ at hall
    omega
  have htake : life.take (before.length + 1) = before ++ [a] := by
    rw [hlife, List.take_length_add_append]
    rfl
  rw [hstands.isRunning_passing, ← htake]
  exact hon _ hlength

/-- **A sample that comes late is replayed**: it is passed on after the last
subscriber has left, stays while the sensor is off, and is told to a process that
joins once the sensor is on again. -/
theorem late_sample_replayed :
    let off := changing.after [.op (.enable ⟨100, 1000, 7⟩ .color ⟨1000000, 0⟩),
      .op (.disable ⟨100, 1000, 7⟩ .color), .op (.emit .vendor (.sample .color 5 [])),
      .op .dispatch]
    let on := off.after [.op (.enable ⟨100, 1000, 7⟩ .color ⟨1000000, 0⟩),
      .op (.openDataChannel ⟨200, 1000, 8⟩)]
    changing.Started ∧ off.arbitration.isRunning .color = false ∧
      off.registry.lastEvents.get? .color = some (.sample .color 5 []) ∧
      on.arbitration.isRunning .color = true ∧ on.isOnChange .color = true ∧
      on.joins ⟨200, 1000, 8⟩ .color ⟨1000000, 0⟩ = true ∧
      (on.enable ⟨200, 1000, 8⟩ .color ⟨1000000, 0⟩).2.channels.flow? 0 =
        some (framesOf [⟨.sensorEvent, .sample .color 5 []⟩], 0) := by
  refine ⟨started_changing, ?_⟩
  decide +kernel

end Broker
end SensorBroker
