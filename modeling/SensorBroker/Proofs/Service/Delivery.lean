/-
# What a client is told

Over any part of its life throughout which a channel is the data channel of a
process, and no send on it fails, exactly these frames go out on it, in this
order (`Broker.notices`): for every event that is passed on, the sample, if the
process subscribes to its sensor then, or the end of the flush, if the oldest
request for one named this channel; and when the process joins a running
sensor that reports only changes, the last event of that sensor, if there is
one. Each frame reads back as the event it was made of.

Key definitions: `Broker.notices`, `Broker.Keeps`.
Key theorems: `Broker.Regular.carries_act`, `Broker.Regular.carries_after`,
`Broker.Lived.delivers`.
-/
import SensorBroker.Proofs.Service.Vacancy

namespace SensorBroker
namespace Broker

/-- What the data channel `id` of a process is told in an act: of the events that
are passed on in it, and of what it joins. -/
def notices (pid : Pid) (id : ChannelId) (b : Broker) : Act → List Notice
  | .op .dispatch => noticesOfEach pid id (b.queue.take 1) b
  | .op (.enable caller s request) => replayed pid b caller s request
  | .stop => noticesOfEach pid id b.windDown.queue { b.windDown with queue := [] }
  | _ => []

/-- A channel is the data channel of a process before each act of a life. -/
def Keeps (pid : Pid) (id : ChannelId) : List Act → Broker → Prop
  | [], _ => True
  | a :: rest, b => b.registry.channels.get? pid = some id ∧ Keeps pid id rest (b.act a)

instance decidableKeeps (pid : Pid) (id : ChannelId) : ∀ (life : List Act) (b : Broker),
    Decidable (Keeps pid id life b)
  | [], _ => .isTrue trivial
  | a :: rest, b => @instDecidableAnd _ _ _ (decidableKeeps pid id rest (b.act a))

open Channels (Carries OnlyReads)

variable {b b' : Broker} {pid : Pid} {id : ChannelId}

/-! ### Along a life -/

theorem Orderly.outside (h : b.Orderly) (hcurrent : b.registry.channels.get? pid = some id) :
    b.Outside id := by
  obtain ⟨s, hs, -⟩ := Channels.get?_of_traits? (h.current hcurrent)
  refine ⟨?_, h.apart hcurrent⟩
  rw [Channels.flow?, hs]
  rfl

theorem Regular.config_act (h : b.Regular) (a : Act) : (b.act a).config = b.config := by
  cases a with
  | op op => exact (b.shifts_step op h.orderly.serves_apart).config
  | stop =>
    obtain ⟨r, cs, flushes, totals, hstop⟩ := b.exists_stop
    show b.stop.config = b.config
    rw [hstop]
    exact b.config_windDown

theorem Regular.carries_stop (h : b.Regular) (hcurrent : b.registry.channels.get? pid = some id)
    (hfits : ∀ n ∈ b.notices pid id .stop, n.packet.Fits b.config.transport.maxPacketSize) :
    Carries id [] (framesOf (b.notices pid id .stop)) b.channels b.stop.channels := by
  obtain ⟨hchannels, -, hflow⟩ := b.windDown_channels
  have hstill : b.windDown.registry.channels.get? pid = some id := by
    rw [hchannels]
    exact hcurrent
  rw [← b.config_windDown] at hfits
  have hdrained := (h.windDown.setQueue []).relays_foldl_route b.windDown.queue hstill hfits
  exact (Channels.carries_of_eq (hflow id)).trans hdrained.carries

theorem Regular.carries_dispatch (h : b.Regular)
    (hcurrent : b.registry.channels.get? pid = some id)
    (hfits : ∀ n ∈ b.notices pid id (.op .dispatch),
      n.packet.Fits b.config.transport.maxPacketSize) :
    Carries id [] (framesOf (b.notices pid id (.op .dispatch))) b.channels b.dispatch.channels := by
  unfold notices at hfits ⊢
  unfold dispatch
  cases hqueue : b.queue with
  | nil => exact Channels.carries_of_eq rfl
  | cons e rest =>
    rw [hqueue] at hfits
    have hnotices : noticesOfEach pid id ((e :: rest).take 1) b =
        noticesOf pid id { b with queue := rest } e := List.append_nil _
    rw [hnotices] at hfits ⊢
    exact ((h.setQueue rest).orderly.relays_route hcurrent hfits).carries

/-- **In every act a data channel gets the frames of its notices.** -/
theorem Regular.carries_act (h : b.Regular) (hcurrent : b.registry.channels.get? pid = some id)
    (a : Act) (hfits : ∀ n ∈ b.notices pid id a, n.packet.Fits b.config.transport.maxPacketSize) :
    Carries id (b.received id a) (framesOf (b.notices pid id a)) b.channels
      (b.act a).channels := by
  cases a with
  | stop => exact h.carries_stop hcurrent hfits
  | op op =>
    have hshifts := b.shifts_step op h.orderly.serves_apart
    cases op with
    | dispatch => exact h.carries_dispatch hcurrent hfits
    | enable caller s request => exact h.orderly.carries_enable hcurrent caller s request hfits
    | atClient other a => exact (b.onlyReads_atClient id other a).carries
    | _ =>
      exact Channels.carries_of_eq (hshifts.flow? not_false (h.orderly.outside hcurrent)).1

/-- **Along a life a data channel gets the frames of its notices.** -/
theorem Regular.carries_after : ∀ (life : List Act) {b : Broker}, b.Regular → Keeps pid id life b →
    (∀ n ∈ b.along (notices pid id) life, n.packet.Fits b.config.transport.maxPacketSize) →
    Carries id (b.along (received id) life) (framesOf (b.along (notices pid id) life)) b.channels
      (b.after life).channels
  | [], _, _, _, _ => Channels.carries_of_eq rfl
  | a :: rest, b, h, ⟨hcurrent, hkeeps⟩, hfits => by
    have hhead := h.carries_act hcurrent a fun n hn => hfits n (List.mem_append_left _ hn)
    have hrest := carries_after rest (h.act a) hkeeps fun n hn => by
      rw [h.config_act a]
      exact hfits n (List.mem_append_right _ hn)
    have hboth := hhead.trans hrest
    rw [← framesOf_append] at hboth
    exact hboth

/-- **A sample is told to subscribers only.** -/
theorem Regular.sample_of_mem_notices (h : b.Regular) {a : Act} {n : Notice}
    (hn : n ∈ b.notices pid id a) (hdata : n.message = .sensorEvent) :
    n.event.isFlushComplete = false ∧
      ((b.act a).registry.subscription pid n.event.sensor).isSome = true := by
  cases a with
  | stop =>
    obtain ⟨hsample, hsub⟩ := sample_of_mem_noticesOfEach hn hdata
    have hdrained : Spares pid { b.windDown with queue := [] } _ :=
      spares_foldl_route b.windDown.queue { b.windDown with queue := [] }
    rw [← hdrained.subscription] at hsub
    exact ⟨hsample, hsub⟩
  | op op =>
    cases op with
    | dispatch =>
      obtain ⟨hsample, hsub⟩ := sample_of_mem_noticesOfEach hn hdata
      rw [← b.spares_dispatch.subscription] at hsub
      exact ⟨hsample, hsub⟩
    | enable caller s request => exact h.sample_of_mem_replayed hn
    | _ => exact (List.not_mem_nil hn).elim

theorem Lived.after (h : b.Lived) : ∀ life : List Act, (b.after life).Lived := by
  intro life
  induction life generalizing b with
  | nil => exact h
  | cons a rest ih => exact ih (h.act a)

/-- **What a client is told.** Let a channel be the data channel of a process
throughout a part of a life, and what there is to tell fit. If no send on it
fails, its client has been sent exactly the frames of its notices, one after the
other; each of them reads back as its event; a sample is told to a subscriber
only; and if no event is dropped, events are passed on in the order in which
they were raised. On a channel that is nobody's nothing is sent. -/
theorem Lived.delivers (h : b.Lived) {life : List Act} (hkeeps : Keeps pid id life b)
    (hfits : ∀ n ∈ b.along (notices pid id) life, n.packet.Fits b.config.transport.maxPacketSize)
    {s : Session} (hs : b.channels.get? id = some s) :
    (∃ s', (b.after life).channels.get? id = some s' ∧
      (s'.counters.sendFailures = s.counters.sendFailures →
        b.along (received id) life ++ s'.outgoing =
          s.outgoing ++ framesOf (b.along (notices pid id) life))) ∧
      (∀ n ∈ b.along (notices pid id) life, ∀ rest,
        Front.of b.config.transport.maxPacketSize (n.packet.bytes ++ rest) = .whole n.packet rest ∧
          n.packet.kind = .ok n.message ∧ n.packet.record .event = .ok n.event) ∧
      (∀ before a later, life = before ++ a :: later →
        ∀ n ∈ (b.after before).notices pid id a, n.message = .sensorEvent →
          n.event.isFlushComplete = false ∧
            (((b.after before).act a).registry.subscription pid n.event.sensor).isSome = true) ∧
      (∀ before a later, life = before ++ a :: later → ∀ other, (b.after before).Vacant other →
        OnlyReads other ((b.after before).received other a) (b.after before).channels
          ((b.after before).act a).channels) ∧
      ((b.after life).dropped = b.dropped → ∃ arrived, samples arrived = b.along emitted life ∧
        b.queue ++ arrived = b.along routed life ++ (b.after life).queue) := by
  refine ⟨?_, fun n hn => Notice.read_back (hfits n hn), ?_, ?_, (h.inOrder_after life).order⟩
  · have hflow : b.channels.flow? id = some s.flow := congrArg (Option.map Session.flow) hs
    obtain ⟨f', hf', -, hstream⟩ := h.regular.carries_after life hkeeps hfits s.flow hflow
    obtain ⟨s', hs', rfl⟩ := Option.map_eq_some_iff.1 hf'
    exact ⟨s', hs', hstream⟩
  · intro before a later _ n hn hdata
    exact (h.after before).regular.sample_of_mem_notices hn hdata
  · intro before a later _ other hvacant
    exact (h.after before).regular.onlyReads_of_vacant hvacant a

/-- A broker whose only sensor reports only changes; two processes have a data
channel, and the second subscribes. -/
def changeTrial : Broker :=
  (ofConfig {} (.ofSettings {} (.scripted "real"
    [{ Device.scriptedDescriptor .color with flags := Descriptor.onChangeFlag }]
    (fun _ _ => false) false true) fun _ => .software) default false).start.2.run
    [.openDataChannel ⟨100, 1000, 7⟩, .openDataChannel ⟨200, 1000, 8⟩,
      .enable ⟨200, 1000, 8⟩ .color ⟨1000000, 0⟩]

/-- The first process joins after one sample, reads a little, is suspended after
another, and the broker ends. -/
def changeLife : List Act :=
  [.op (.emit .vendor (.sample .color 5 [])), .op .dispatch,
    .op (.enable ⟨100, 1000, 7⟩ .color ⟨1000000, 0⟩),
    .op (.emit .vendor (.sample .color 6 [9])), .op .dispatch, .op (.atClient 0 (.read 40)),
    .op .dispatch, .op (.suspend 100), .op (.emit .vendor (.sample .color 7 [])), .op .dispatch,
    .op (.emit .vendor (.sample .color 8 [])), .stop]

/-- The first process is told of the sample before it joined, that its flush is
complete, and of the one sample while it subscribed. -/
theorem changeTrial_delivers :
    ∃ s, (changeTrial.after changeLife).channels.get? 0 = some s ∧
      changeTrial.along (received 0) changeLife ++ s.outgoing =
        framesOf [⟨.sensorEvent, .sample .color 5 []⟩, ⟨.flushComplete, .flushComplete .color 0⟩,
          ⟨.sensorEvent, .sample .color 6 [9]⟩] := by
  have hlived : changeTrial.Lived :=
    .start (Reachable.run (reachable_start ⟨rfl, rfl⟩ (fun _ => ⟨rfl, rfl⟩) rfl) _)
  have hkeeps : Keeps 100 0 changeLife changeTrial := by decide +kernel
  have hfits : ∀ n ∈ changeTrial.along (notices 100 0) changeLife,
      n.packet.Fits changeTrial.config.transport.maxPacketSize := by decide +kernel
  have hflow : changeTrial.channels.flow? 0 = some ([], 0) := by decide +kernel
  have hfailures : ((changeTrial.after changeLife).channels.flow? 0).map Prod.snd = some 0 := by
    decide +kernel
  have hnotices : changeTrial.along (notices 100 0) changeLife =
      [⟨.sensorEvent, .sample .color 5 []⟩, ⟨.flushComplete, .flushComplete .color 0⟩,
        ⟨.sensorEvent, .sample .color 6 [9]⟩] := by decide +kernel
  obtain ⟨s, hs, hbefore⟩ := Option.map_eq_some_iff.1 hflow
  obtain ⟨⟨s', hs', hsent⟩, -⟩ := hlived.delivers hkeeps hfits hs
  rw [Channels.flow?, hs'] at hfailures
  have hnone : s'.counters.sendFailures = s.counters.sendFailures :=
    (Option.some.inj hfailures).trans (congrArg Prod.snd hbefore).symm
  have hempty : s.outgoing = [] := congrArg Prod.fst hbefore
  rw [hempty, hnotices] at hsent
  exact ⟨s', hs', hsent hnone⟩

end Broker
end SensorBroker
