/-
# What a session is to the rest of a broker

Whose a session is, whether it is closed and what its frames may carry: these
are its traits, and of all that happens to a session only closing it changes
one. What is on its way to its client, and how many sends have failed, is its
flow; only a send on that very session, or its client reading, changes it.
Watching a channel, and writing what is queued, change neither.

A send on an open session adds its frame to the flow, or is counted as failed.

Key definitions: `Session.traits`, `Session.flow`, `Channels.traits?`,
`Channels.flow?`.
Key theorems: `Session.sendFrame_of_open`, `Channels.traits?_update`,
`Directory.traits?_multicast`, `Directory.flow?_multicast`.
-/
import SensorBroker.Channel.Directory
import SensorBroker.Channel.Watcher
import SensorBroker.Proofs.Channel.Outgoing
import SensorBroker.Proofs.Wire.Frame

namespace SensorBroker
namespace Session

/-- Whose a session is, whether it is closed, and what its frames may carry. -/
def traits (s : Session) : Pid × Bool × UInt32 :=
  (s.pid, s.isClosed, s.maxPacketSize)

/-- What is on its way to the client, and how many sends have failed. -/
def flow (s : Session) : Bytes × Nat :=
  (s.outgoing, s.counters.sendFailures)

/-! ### Writing, queueing and sending -/

theorem untouched_traits : Untouched traits where
  drainRun s := by
    unfold drainRun
    split <;> rfl
  written _ _ _ := rfl
  enqueue s run := by
    unfold enqueue
    split <;> rfl

theorem untouched_sendFailures : Untouched (·.counters.sendFailures) where
  drainRun s := by
    unfold drainRun
    split <;> rfl
  written _ _ _ := rfl
  enqueue s run := by
    unfold enqueue
    split <;> rfl

theorem traits_flushPending (s : Session) : s.flushPending.2.traits = s.traits :=
  untouched_traits.flushPending (fun _ _ => rfl) s

theorem flow_flushPending (s : Session) : s.flushPending.2.flow = s.flow := by
  have hfailures := untouched_sendFailures.drain s
  refine Prod.ext s.outgoing_flushPending ?_
  unfold flushPending
  split_ifs
  · rfl
  · rcases hd : s.drain with ⟨e | _, s'⟩
    · rw [hd] at hfailures
      exact hfailures
    · rw [hd] at hfailures
      exact hfailures

theorem isClosed_sent (state : SessionState) : (state.sent = .closed) = (state = .closed) := by
  cases state <;> simp [SessionState.sent]

theorem traits_sendFrame (s : Session) (frame : Bytes) :
    (s.sendFrame frame).2.traits = s.traits := by
  refine untouched_traits.sendFrame (fun s counters => ?_) (fun _ _ => rfl) s frame
  simp only [traits, isClosed, isClosed_sent]

theorem traits_send (s : Session) (p : Packet) : (s.send p).2.traits = s.traits := by
  unfold send
  split
  · rfl
  · exact s.traits_sendFrame _

/-- **A send on an open session adds its frame to the flow, or counts as
failed.** -/
theorem sendFrame_of_open {s : Session} (h : s.isClosed = false) (frame : Bytes) :
    (∃ s', s.sendFrame frame = (.ok (), s') ∧
        s'.flow = (s.outgoing ++ frame, s.counters.sendFailures)) ∨
      ∃ e s', s.sendFrame frame = (.error e, s') ∧
        s'.counters.sendFailures = s.counters.sendFailures + 1 := by
  obtain ⟨part, hadds, hout⟩ := s.outgoing_sendFrame frame
  have hfailures := untouched_sendFailures.sendInOrder s frame
  unfold sendFrame at hadds hout ⊢
  rw [h, if_neg Bool.false_ne_true] at hadds hout ⊢
  rcases hd : s.sendInOrder frame with ⟨e | _, s'⟩
  · rw [hd] at hfailures
    exact .inr ⟨e, _, rfl, congrArg (· + 1) hfailures⟩
  · rw [hd] at hadds hout hfailures
    simp only at hadds hout
    cases hadds
    exact .inl ⟨_, rfl, Prod.ext hout hfailures⟩

/-- No send takes a failure back. -/
theorem sendFailures_le_sendFrame (s : Session) (frame : Bytes) :
    s.counters.sendFailures ≤ (s.sendFrame frame).2.counters.sendFailures := by
  cases h : s.isClosed with
  | true =>
    have hsame : (s.sendFrame frame).2 = s := congrArg Prod.snd (sendFrame_closed h frame)
    exact Nat.le_of_eq (congrArg (·.counters.sendFailures) hsame).symm
  | false =>
    rcases sendFrame_of_open h frame with ⟨s', hsend, hflow⟩ | ⟨e, s', hsend, hfailures⟩
    · rw [hsend]
      exact Nat.le_of_eq (congrArg Prod.snd hflow).symm
    · rw [hsend, hfailures]
      exact Nat.le_succ _

/-- A packet that fits is sent as its frame. -/
theorem send_of_fits {s : Session} {p : Packet} (h : p.Fits s.maxPacketSize) :
    s.send p = s.sendFrame p.bytes := by
  unfold send Packet.frame?
  rw [Packet.frame_of_fits h]

theorem traits_bind (s : Session) : s.bind.2.traits = s.traits := by
  unfold Session.bind
  split
  · rfl
  · next h => simp [Session.traits, Session.isClosed, h]
  all_goals rfl

theorem flow_bind (s : Session) : s.bind.2.flow = s.flow := by
  unfold Session.bind
  split <;> rfl

end Session

/-! ### All sessions -/

namespace Channels

/-- The traits of the session with a number. -/
def traits? (cs : Channels) (id : ChannelId) : Option (Pid × Bool × UInt32) :=
  (cs.get? id).map Session.traits

/-- The flow of the session with a number. -/
def flow? (cs : Channels) (id : ChannelId) : Option (Bytes × Nat) :=
  (cs.get? id).map Session.flow

theorem traits?_update (cs : Channels) (id : ChannelId) {f : Session → Session}
    (h : ∀ s, cs.get? id = some s → (f s).traits = s.traits) (other : ChannelId) :
    (cs.update id f).traits? other = cs.traits? other := by
  by_cases hid : other = id
  · subst hid
    rw [traits?, traits?, get?_update_self]
    cases hs : cs.get? other with
    | none => rfl
    | some s => exact congrArg some (h s hs)
  · rw [traits?, traits?, get?_update_of_ne _ _ hid]

theorem flow?_update_of_ne (cs : Channels) {id other : ChannelId} (f : Session → Session)
    (h : other ≠ id) : (cs.update id f).flow? other = cs.flow? other := by
  rw [flow?, flow?, get?_update_of_ne _ _ h]

theorem flow?_update (cs : Channels) (id : ChannelId) {f : Session → Session}
    (h : ∀ s, cs.get? id = some s → (f s).flow = s.flow) (other : ChannelId) :
    (cs.update id f).flow? other = cs.flow? other := by
  by_cases hid : other = id
  · subst hid
    rw [flow?, flow?, get?_update_self]
    cases hs : cs.get? other with
    | none => rfl
    | some s => exact congrArg some (h s hs)
  · exact cs.flow?_update_of_ne f hid

theorem get?_next (cs : Channels) : cs.get? cs.next = none := by
  simp [get?, next]

theorem get?_add_of_ne (cs : Channels) {pid : Pid} {uid : Uid} {tokenType : Int32}
    {settings : TransportSettings} {rule : SocketRule} {id : ChannelId} (h : id ≠ cs.next) :
    (cs.add pid uid tokenType settings rule).2.get? id = cs.get? id := by
  cases id with
  | negSucc n => rfl
  | ofNat n =>
    have hn : n ≠ cs.sessions.length := fun heq => h (heq ▸ rfl)
    simp only [add, get?]
    by_cases hlt : n < cs.sessions.length
    · rw [List.getElem?_append_left hlt]
    · rw [List.getElem?_eq_none (by simp; omega), List.getElem?_eq_none (by omega)]

theorem flow?_close (cs : Channels) (id other : ChannelId) :
    (cs.close id).flow? other = cs.flow? other :=
  cs.flow?_update id (f := Session.close) (fun _ _ => rfl) other

/-- Closing a session changes that it is open, and no other session. -/
theorem traits?_close (cs : Channels) (id other : ChannelId) :
    (cs.close id).traits? other =
      if other = id then (cs.traits? id).map fun (pid, _, max) => (pid, true, max)
      else cs.traits? other := by
  unfold traits? close
  split_ifs with hid
  · rw [hid, get?_update_self, Option.map_map, Option.map_map]
    rfl
  · rw [get?_update_of_ne _ _ hid]

/-- A session that was opened is bound and open, and no other changes. -/
theorem traits?_bind_add (cs : Channels) (pid : Pid) (uid : Uid) (tokenType : Int32)
    (settings : TransportSettings) (rule : SocketRule) (other : ChannelId) :
    ((cs.add pid uid tokenType settings rule).2.bind cs.next).traits? other =
      if other = cs.next then some (pid, false, settings.maxPacketSize) else cs.traits? other := by
  unfold bind
  rw [traits?_update _ _ (fun s _ => s.traits_bind)]
  unfold traits?
  split_ifs with hid
  · rw [hid, get?_add_self]
    rfl
  · rw [get?_add_of_ne _ hid]

theorem flow?_bind_add (cs : Channels) (pid : Pid) (uid : Uid) (tokenType : Int32)
    (settings : TransportSettings) (rule : SocketRule) {other : ChannelId} (h : other ≠ cs.next) :
    ((cs.add pid uid tokenType settings rule).2.bind cs.next).flow? other = cs.flow? other := by
  unfold bind
  rw [flow?_update _ _ (fun s _ => s.flow_bind)]
  unfold flow?
  rw [get?_add_of_ne _ h]

/-- Whatever is done with one session is done with no other. -/
theorem flow?_act_of_ne {α : Type} (cs : Channels) {id other : ChannelId}
    (f : Session → Except ChannelError α × Session) (h : other ≠ id) :
    (cs.act id f).2.flow? other = cs.flow? other := by
  unfold act
  split
  · rfl
  · exact cs.flow?_update_of_ne _ h

theorem traits?_act {α : Type} (cs : Channels) (id : ChannelId)
    {f : Session → Except ChannelError α × Session} (h : ∀ s, (f s).2.traits = s.traits)
    (other : ChannelId) : (cs.act id f).2.traits? other = cs.traits? other := by
  unfold act
  split
  · rfl
  · next s hs =>
    refine cs.traits?_update id (fun s' hs' => ?_) other
    rw [hs] at hs'
    cases hs'
    exact h s

theorem traits?_sendFrame (cs : Channels) (id : ChannelId) (frame : Bytes) (other : ChannelId) :
    (cs.sendFrame id frame).2.traits? other = cs.traits? other :=
  cs.traits?_act id (fun s => s.traits_sendFrame frame) other

theorem traits?_send (cs : Channels) (id : ChannelId) (p : Packet) (other : ChannelId) :
    (cs.send id p).2.traits? other = cs.traits? other :=
  cs.traits?_act id (fun s => s.traits_send p) other

end Channels

/-! ### Socket channels -/

namespace Directory

theorem traits?_sendEach (d : Directory) (frame : Bytes) : ∀ (ids : List ChannelId) (cs : Channels)
    (other : ChannelId), (d.sendEach frame ids cs).2.traits? other = cs.traits? other
  | [], _, _ => rfl
  | id :: rest, cs, other => by
    have hhead : (d.sendFrame cs id frame).2.traits? other = cs.traits? other := by
      unfold sendFrame
      split_ifs
      · exact cs.traits?_sendFrame id frame other
      · rfl
    rw [sendEach]
    split
    · next h =>
      rw [h] at hhead
      exact (traits?_sendEach d frame rest _ other).trans hhead
    · next h =>
      rw [h] at hhead
      exact (traits?_sendEach d frame rest _ other).trans hhead

/-- Sending to socket channels is nothing to the others. -/
theorem flow?_sendEach (d : Directory) (frame : Bytes) {other : ChannelId}
    (hother : d.contains other = false) : ∀ (ids : List ChannelId) (cs : Channels),
    (d.sendEach frame ids cs).2.flow? other = cs.flow? other
  | [], _ => rfl
  | id :: rest, cs => by
    have hhead : (d.sendFrame cs id frame).2.flow? other = cs.flow? other := by
      unfold sendFrame
      split_ifs with hid
      · refine cs.flow?_act_of_ne _ fun heq => ?_
        rw [heq, hid] at hother
        cases hother
      · rfl
    rw [sendEach]
    split
    · next h =>
      rw [h] at hhead
      exact (flow?_sendEach d frame hother rest _).trans hhead
    · next h =>
      rw [h] at hhead
      exact (flow?_sendEach d frame hother rest _).trans hhead

theorem traits?_multicast (d : Directory) (cs : Channels) (ids : List ChannelId) (p : Packet)
    (max : UInt32) (other : ChannelId) :
    (d.multicast cs ids p max).2.traits? other = cs.traits? other := by
  unfold multicast
  split
  · rfl
  · exact d.traits?_sendEach _ ids cs other

theorem flow?_multicast (d : Directory) (cs : Channels) (ids : List ChannelId) (p : Packet)
    (max : UInt32) {other : ChannelId} (hother : d.contains other = false) :
    (d.multicast cs ids p max).2.flow? other = cs.flow? other := by
  unfold multicast
  split
  · rfl
  · exact d.flow?_sendEach _ hother ids cs

end Directory

/-! ### Watching -/

theorem Watcher.traits_run (w : Watcher) (s : Session) : (w.run s).session.traits = s.traits := by
  fun_induction Watcher.run w s with
  | case1 => rfl
  | case2 => rfl
  | case3 => rfl
  | case4 w s _ chunk l _ absorbed later ih => exact ih

theorem Watcher.flow_run (w : Watcher) (s : Session) : (w.run s).session.flow = s.flow := by
  fun_induction Watcher.run w s with
  | case1 => rfl
  | case2 => rfl
  | case3 => rfl
  | case4 w s _ chunk l hread absorbed later ih =>
    refine ih.trans (Prod.ext ?_ rfl)
    -- what the broker's end reads is not what is on its way to the client
    have hl : l.toClient = s.link.toClient := by
      unfold Link.readAtBroker at hread
      split_ifs at hread <;> cases hread
      rfl
    show l.toClient.toList ++ _ = s.link.toClient.toList ++ _
    rw [hl]
    rfl

/-- Only a session that is closed stops its watcher in silence. -/
theorem Watcher.status_run_ne_closed {w : Watcher} {s : Session} (h : s.isClosed = false) :
    (w.run s).status ≠ .closed := by
  fun_induction Watcher.run w s with
  | case1 w s hclosed => exact absurd hclosed (Bool.eq_false_iff.1 h)
  | case2 => exact WatchStatus.noConfusion
  | case3 => exact WatchStatus.noConfusion
  | case4 w s _ chunk l _ absorbed later ih => exact ih h

/-- A watcher of an open session whose client is gone hangs up. -/
theorem Watcher.status_run_of_gone {w : Watcher} {s : Session} (h : s.isClosed = false)
    (gone : s.link.clientGone = true) : (w.run s).status = .hungUp := by
  fun_induction Watcher.run w s with
  | case1 w s hclosed => exact absurd hclosed (Bool.eq_false_iff.1 h)
  | case2 w s _ l hread =>
    unfold Link.readAtBroker at hread
    rw [gone, if_pos rfl] at hread
    split_ifs at hread <;> cases hread
  | case3 => rfl
  | case4 w s _ chunk l hread absorbed later ih =>
    refine ih h ?_
    unfold Link.readAtBroker at hread
    split_ifs at hread <;> cases hread
    exact gone

namespace Watchers

theorem traits?_poll (ws : Watchers) (cs : Channels) (id other : ChannelId) :
    (ws.poll cs id).2.2.2.traits? other = cs.traits? other := by
  unfold poll
  split
  · next w s _ hs =>
    refine cs.traits?_update id (fun s' hs' => ?_) other
    rw [hs] at hs'
    cases hs'
    exact w.traits_run s
  · rfl

theorem flow?_poll (ws : Watchers) (cs : Channels) (id other : ChannelId) :
    (ws.poll cs id).2.2.2.flow? other = cs.flow? other := by
  unfold poll
  split
  · next w s _ hs =>
    refine cs.flow?_update id (fun s' hs' => ?_) other
    rw [hs] at hs'
    cases hs'
    exact w.flow_run s
  · rfl

theorem traits?_idle (ws : Watchers) (cs : Channels) (id other : ChannelId) :
    (ws.idle cs id).traits? other = cs.traits? other := by
  unfold idle
  split_ifs
  · refine cs.traits?_update id (fun s _ => ?_) other
    split_ifs
    · exact s.traits_flushPending
    · rfl
  · rfl

theorem flow?_idle (ws : Watchers) (cs : Channels) (id other : ChannelId) :
    (ws.idle cs id).flow? other = cs.flow? other := by
  unfold idle
  split_ifs
  · refine cs.flow?_update id (fun s _ => ?_) other
    split_ifs
    · exact s.flow_flushPending
    · rfl
  · rfl

end Watchers
end SensorBroker
