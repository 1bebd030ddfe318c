/-
# A channel that is nobody's is written no more

A channel that was replaced or taken away is closed, and stays what it is: the
end of a flush that still names it is lost, and its client can read what was on
its way, and no more (`Broker.Regular.onlyReads_of_vacant`).

Key theorems: `Channels.flow?_sendFrame_of_closed`,
`Broker.Orderly.flow?_route_of_vacant`, `Broker.Regular.onlyReads_of_vacant`.
-/
import SensorBroker.Proofs.Service.Joining

namespace SensorBroker

/-- Nothing is sent on a closed session. -/
theorem Channels.flow?_sendFrame_of_closed {cs : Channels} {id : ChannelId}
    (h : cs.isClosed id = true) (other : ChannelId) (frame : Bytes) :
    (cs.sendFrame other frame).2.flow? id = cs.flow? id := by
  by_cases hid : id = other
  · subst hid
    unfold isClosed at h
    cases hs : cs.get? id with
    | none =>
      unfold sendFrame act
      rw [hs]
    | some s =>
      rw [hs] at h
      have hsend := flow?_act_self hs (·.sendFrame frame)
      rw [Session.sendFrame_closed h] at hsend
      exact hsend.trans (congrArg (Option.map Session.flow) hs).symm
  · exact cs.flow?_act_of_ne _ hid

namespace Broker

open Channels (OnlyReads)

variable {b b' : Broker} {pid : Pid} {id : ChannelId}

theorem Vacant.of_eq (h : b.Vacant id) (channels : b'.registry.channels = b.registry.channels)
    (directory : b'.directory = b.directory) : b'.Vacant id := by
  refine ⟨fun pid => ?_, ?_⟩
  · rw [channels]
    exact h.unowned pid
  · rw [directory]
    exact h.unlisted

/-! ### The dispatcher -/

theorem Orderly.flow?_route_of_vacant (h : b.Orderly) (hvacant : b.Vacant id) (e : Event) :
    (b.route e).channels.flow? id = b.channels.flow? id := by
  have hclosed := h.isClosed_of_vacant hvacant
  unfold route
  split
  · unfold deliverFlush
    split
    · rfl
    · next entry flushes _ =>
      simp only
      split
      · rfl
      -- the oldest request may well name this channel
      · next frame _ =>
        exact (flow?_sendOn { b with flushes } frame entry.channel id).trans
          (Channels.flow?_sendFrame_of_closed hclosed _ frame)
  · unfold deliverSample
    simp only
    split
    · rfl
    · next frame _ =>
      have hapart : id ∉ (b.registry.storeEvent e).activeChannels e.sensor := by
        intro hmem
        obtain ⟨pid, -, hpid⟩ := List.mem_filterMap.1 hmem
        exact hvacant.unowned pid hpid
      exact (sendEach_of_not_mem frame _ (b.setRegistry (b.registry.storeEvent e)) hapart).1

theorem vacant_route (hvacant : b.Vacant id) (e : Event) : (b.route e).Vacant id := by
  obtain ⟨r, cs, flushes, totals, heq⟩ := b.exists_route e
  refine ⟨fun pid hpid => hvacant.unowned pid ((b.spares_route e).dataChannel hpid), ?_⟩
  rw [heq]
  exact hvacant.unlisted

theorem Regular.flow?_foldl_route_of_vacant : ∀ (es : List Event) {b : Broker}, b.Regular →
    b.Vacant id → (es.foldl Broker.route b).channels.flow? id = b.channels.flow? id
  | [], _, _, _ => rfl
  | e :: rest, _, h, hvacant =>
    (flow?_foldl_route_of_vacant rest (h.route e) (vacant_route hvacant e)).trans
      (h.orderly.flow?_route_of_vacant hvacant e)

theorem Regular.flow?_stop_of_vacant (h : b.Regular) (hvacant : b.Vacant id) :
    b.stop.channels.flow? id = b.channels.flow? id := by
  obtain ⟨hchannels, hdirectory, hflow⟩ := b.windDown_channels
  have hdown : ({ b.windDown with queue := [] } : Broker).Vacant id := by
    refine ⟨fun pid hpid => hvacant.unowned pid ?_, ?_⟩
    · rw [← hchannels]
      exact hpid
    · show b.windDown.directory.contains id = false
      rw [hdirectory]
      rfl
  have hdrained := flow?_foldl_route_of_vacant b.windDown.queue (h.windDown.setQueue []) hdown
  exact hdrained.trans (hflow id)

theorem Regular.flow?_dispatch_of_vacant (h : b.Regular) (hvacant : b.Vacant id) :
    b.dispatch.channels.flow? id = b.channels.flow? id := by
  unfold dispatch
  split
  · rfl
  · next e rest _ =>
    have htaken : ({ b with queue := rest } : Broker).Vacant id := hvacant.of_eq rfl rfl
    exact (h.setQueue rest).orderly.flow?_route_of_vacant htaken e

/-! ### Every act -/

theorem flow?_enable_of_vacant (hvacant : b.Vacant id) (caller : Identity) (s : SensorId)
    (request : Request) :
    (b.enable caller s request).2.channels.flow? id = b.channels.flow? id := by
  rcases b.enable_cases caller s request with ⟨-, hunchanged⟩ | ⟨-, b', huntold, -, -, hafter⟩
  · exact hunchanged hvacant.unlisted
  · rw [hafter]
    exact huntold.flow?_of_ne s hvacant.unlisted (hvacant.unowned caller.pid)

/-- **In no act is anything sent on a channel that is nobody's.** -/
theorem Regular.onlyReads_of_vacant (h : b.Regular) (hvacant : b.Vacant id) (a : Act) :
    OnlyReads id (b.received id a) b.channels (b.act a).channels := by
  cases a with
  | stop => exact Channels.onlyReads_of_eq (h.flow?_stop_of_vacant hvacant)
  | op op =>
    have hshifts := b.shifts_step op h.orderly.serves_apart
    cases op with
    | dispatch => exact Channels.onlyReads_of_eq (h.flow?_dispatch_of_vacant hvacant)
    | enable caller s request =>
      exact Channels.onlyReads_of_eq (flow?_enable_of_vacant hvacant caller s request)
    | atClient other a => exact b.onlyReads_atClient id other a
    | _ =>
      intro f hf
      have houtside : b.Outside id := ⟨by rw [hf]; rfl, hvacant.unlisted⟩
      exact Channels.onlyReads_of_eq (hshifts.flow? not_false houtside).1 f hf

end Broker
end SensorBroker
