/-
# The table of socket channels

Processes come for socket channels, replace the ones they have, give them up
and are sent to, in any order, until all channels are closed at once. Whatever
happened, the two ways to find a channel are inverse to each other, a process
has at most one, and a channel that is no longer in the table is closed
(`Listing.Paired.step`, `Listing.LeftClosed.step`).

A session is told from others by the number it was opened with, which no other
session ever gets. A client knows it by the number of its socket instead, and
such a number is given out again once its socket is gone. The table is
therefore looked at through a naming of the sockets, of which no more is
asked than that a session is opened under a name that none of those in the
table has (`Listing.Fresh`).

Key definitions: `Session.Ages`, `Listing`, `Listing.Op`, `Listing.step`,
`Listing.Fresh`, `Listing.Consistent`.
Key theorems: `Session.ages_step`, `Listing.ages_step`, `Listing.Paired.step`,
`Listing.NamedApart.step`, `Listing.consistent_after`.
-/
import Mathlib.Data.List.Nodup
import Mathlib.Data.Set.Function
import SensorBroker.Proofs.Channel.Traffic

namespace SensorBroker

/-! ### A session ages -/

namespace Session

/-- What a session becomes: it keeps its number and its process, and once
closed it stays closed. -/
structure Ages (s s' : Session) : Prop where
  channel : s'.channel = s.channel
  pid : s'.pid = s.pid
  closed : s.isClosed = true → s'.isClosed = true

theorem Ages.refl (s : Session) : s.Ages s :=
  ⟨rfl, rfl, id⟩

theorem Ages.trans {s s' s'' : Session} (h : s.Ages s') (h' : s'.Ages s'') : s.Ages s'' :=
  ⟨h'.channel.trans h.channel, h'.pid.trans h.pid, h'.closed ∘ h.closed⟩

/-- What changes neither the number nor a trait is aging. -/
theorem Ages.of_traits {s s' : Session} (channel : s'.channel = s.channel)
    (traits : s'.traits = s.traits) : s.Ages s' := by
  obtain ⟨hpid, hclosed, -⟩ : s'.pid = s.pid ∧ s'.isClosed = s.isClosed ∧
      s'.maxPacketSize = s.maxPacketSize := by
    simpa only [Session.traits, Prod.mk.injEq] using traits
  exact ⟨channel, hpid, fun h => by rw [hclosed, h]⟩

theorem untouched_channel : Untouched Session.channel where
  drainRun s := by
    unfold drainRun
    split <;> rfl
  written _ _ _ := rfl
  enqueue s run := by
    unfold enqueue
    split <;> rfl

theorem channel_sendFrame (s : Session) (frame : Bytes) :
    (s.sendFrame frame).2.channel = s.channel :=
  untouched_channel.sendFrame (fun _ _ => rfl) (fun _ _ => rfl) s frame

theorem ages_sendFrame (s : Session) (frame : Bytes) : s.Ages (s.sendFrame frame).2 :=
  .of_traits (s.channel_sendFrame frame) (s.traits_sendFrame frame)

theorem ages_send (s : Session) (p : Packet) : s.Ages (s.send p).2 := by
  unfold send
  split
  · exact .refl s
  · exact s.ages_sendFrame _

theorem ages_flushPending (s : Session) : s.Ages s.flushPending.2 :=
  .of_traits (untouched_channel.flushPending (fun _ _ => rfl) s) s.traits_flushPending

theorem ages_bind (s : Session) : s.Ages s.bind.2 := by
  refine .of_traits ?_ s.traits_bind
  unfold Session.bind
  split <;> rfl

theorem ages_close (s : Session) : s.Ages s.close :=
  ⟨rfl, rfl, fun _ => s.isClosed_close⟩

/-- **Whatever happens to a session, it only ages.** -/
theorem ages_step (s : Session) (op : Op) : s.Ages (s.step op) := by
  cases op with
  | bind => exact s.ages_bind
  | send p => exact s.ages_send p
  | sendFrame frame => exact s.ages_sendFrame frame
  | flushPending => exact s.ages_flushPending
  | close => exact s.ages_close
  | atClient a => exact ⟨rfl, rfl, id⟩

end Session

/-! ### All sessions age -/

namespace Channels

/-- Every session is still there, and has only aged. -/
structure Ages (cs cs' : Channels) : Prop where
  session : ∀ {id s}, cs.get? id = some s → ∃ s', cs'.get? id = some s' ∧ s.Ages s'

theorem Ages.refl (cs : Channels) : cs.Ages cs :=
  ⟨fun {_ s} hs => ⟨s, hs, .refl s⟩⟩

theorem Ages.trans {cs cs' cs'' : Channels} (h : cs.Ages cs') (h' : cs'.Ages cs'') :
    cs.Ages cs'' := by
  refine ⟨fun hs => ?_⟩
  obtain ⟨s', hs', hages⟩ := h.session hs
  obtain ⟨s'', hs'', hages'⟩ := h'.session hs'
  exact ⟨s'', hs'', hages.trans hages'⟩

theorem ages_update (cs : Channels) (id : ChannelId) {f : Session → Session}
    (h : ∀ s, cs.get? id = some s → s.Ages (f s)) : cs.Ages (cs.update id f) := by
  refine ⟨fun {other s} hs => ?_⟩
  by_cases hid : other = id
  · subst hid
    exact ⟨f s, by rw [get?_update_self, hs, Option.map_some], h s hs⟩
  · exact ⟨s, by rw [get?_update_of_ne _ _ hid, hs], .refl s⟩

theorem ages_act {α : Type} (cs : Channels) (id : ChannelId)
    {f : Session → Except ChannelError α × Session} (h : ∀ s : Session, s.Ages (f s).2) :
    cs.Ages (cs.act id f).2 := by
  unfold act
  split
  · exact .refl cs
  · next s hs =>
    refine cs.ages_update id fun s' hs' => ?_
    rw [hs] at hs'
    cases hs'
    exact h s

theorem ages_close (cs : Channels) (id : ChannelId) : cs.Ages (cs.close id) :=
  cs.ages_update id fun s _ => s.ages_close

theorem ages_foldl_close (ids : List ChannelId) (cs : Channels) :
    cs.Ages (ids.foldl Channels.close cs) := by
  induction ids generalizing cs with
  | nil => exact .refl cs
  | cons id rest ih => exact (cs.ages_close id).trans (ih (cs.close id))

/-- A session that is opened has a number that none had before. -/
theorem ages_open (cs : Channels) (pid : Pid) (uid : Uid) (tokenType : Int32)
    (settings : TransportSettings) (rule : SocketRule) :
    cs.Ages ((cs.add pid uid tokenType settings rule).2.bind cs.next) := by
  have hadd : cs.Ages (cs.add pid uid tokenType settings rule).2 := by
    refine ⟨fun {id s} hs => ?_⟩
    have hid : id ≠ cs.next := by
      intro heq
      rw [heq, get?_next] at hs
      cases hs
    exact ⟨s, by rw [get?_add_of_ne _ hid, hs], .refl s⟩
  exact hadd.trans (ages_update _ _ fun s _ => s.ages_bind)

theorem get?_open (cs : Channels) (pid : Pid) (uid : Uid) (tokenType : Int32)
    (settings : TransportSettings) (rule : SocketRule) :
    ∃ s, ((cs.add pid uid tokenType settings rule).2.bind cs.next).get? cs.next = some s ∧
      s.channel = cs.next ∧ s.pid = pid := by
  have hages := (Session.fresh cs.next pid uid tokenType settings rule).ages_bind
  refine ⟨_, ?_, hages.channel, hages.pid⟩
  rw [bind, get?_update_self, get?_add_self, Option.map_some]

theorem isClosed_close {cs : Channels} {id : ChannelId} {s : Session}
    (hs : cs.get? id = some s) : (cs.close id).isClosed id = true := by
  rw [isClosed, close, get?_update_self, hs]
  exact s.isClosed_close

theorem Ages.isClosed {cs cs' : Channels} (h : cs.Ages cs') {id : ChannelId} {s : Session}
    (hs : cs.get? id = some s) (hclosed : cs.isClosed id = true) : cs'.isClosed id = true := by
  obtain ⟨s', hs', hages⟩ := h.session hs
  rw [Channels.isClosed, hs] at hclosed
  rw [Channels.isClosed, hs']
  exact hages.closed hclosed

/-- Closing many sessions closes each of them. -/
theorem isClosed_foldl_close {id : ChannelId} {ids : List ChannelId} {cs : Channels} {s : Session}
    (hmem : id ∈ ids) (hs : cs.get? id = some s) :
    (ids.foldl Channels.close cs).isClosed id = true := by
  induction ids generalizing cs s with
  | nil => simp at hmem
  | cons other rest ih =>
    obtain ⟨s', hs', -⟩ := (cs.ages_close other).session hs
    by_cases hid : id = other
    · subst hid
      exact (ages_foldl_close rest _).isClosed hs' (isClosed_close hs)
    · exact ih ((List.mem_cons.1 hmem).resolve_left hid) hs'

end Channels

namespace Directory

theorem ages_sendFrame (d : Directory) (cs : Channels) (id : ChannelId) (frame : Bytes) :
    cs.Ages (d.sendFrame cs id frame).2 := by
  unfold sendFrame
  split_ifs
  · exact cs.ages_act id fun s => s.ages_sendFrame frame
  · exact .refl cs

theorem ages_send (d : Directory) (cs : Channels) (id : ChannelId) (p : Packet) :
    cs.Ages (d.send cs id p).2 := by
  unfold send
  split_ifs
  · exact cs.ages_act id fun s => s.ages_send p
  · exact .refl cs

theorem ages_sendEach (d : Directory) (frame : Bytes) (ids : List ChannelId) (cs : Channels) :
    cs.Ages (d.sendEach frame ids cs).2 := by
  induction ids generalizing cs with
  | nil => exact .refl cs
  | cons id rest ih =>
    have hhead := d.ages_sendFrame cs id frame
    rw [sendEach]
    rcases h : d.sendFrame cs id frame with ⟨e | _, cs'⟩ <;> rw [h] at hhead <;>
      exact hhead.trans (ih cs')

theorem ages_multicast (d : Directory) (cs : Channels) (ids : List ChannelId) (p : Packet)
    (max : UInt32) : cs.Ages (d.multicast cs ids p max).2 := by
  unfold multicast
  split
  · exact .refl cs
  · exact d.ages_sendEach _ ids cs

end Directory

/-! ### The table and what is done with it -/

/-- The table of socket channels, and the sessions it tells of. -/
structure Listing where
  directory : Directory
  channels : Channels

namespace Listing

/-- No socket channel yet. -/
def start (cs : Channels) : Listing := ⟨∅, cs⟩

/-- Something that is done with the table, or with a session that was found in
it. -/
inductive Op
  | add (pid : Pid) (uid : Uid) (tokenType : Int32)
  | remove (pid : Pid)
  | closeAll
  | send (id : ChannelId) (p : Packet)
  | multicast (ids : List ChannelId) (p : Packet)
  /-- Whoever holds a session, in the table or not, does something with it. -/
  | onSession (id : ChannelId) (op : Session.Op)

section Steps

variable (settings : TransportSettings) (rule : SocketRule)

/-- The table after something was done. -/
def step (t : Listing) : Op → Listing
  | .add pid uid tokenType =>
    let added := t.directory.add t.channels pid uid tokenType settings rule
    ⟨added.2.1, added.2.2⟩
  | .remove pid =>
    let removed := t.directory.remove t.channels pid
    ⟨removed.2.1, removed.2.2⟩
  | .closeAll =>
    let closed := t.directory.closeAll t.channels
    ⟨closed.1, closed.2⟩
  | .send id p => { t with channels := (t.directory.send t.channels id p).2 }
  | .multicast ids p =>
    { t with channels := (t.directory.multicast t.channels ids p settings.maxPacketSize).2 }
  | .onSession id op => { t with channels := t.channels.update id (·.step op) }

/-- The table after a run. -/
def run (t : Listing) (ops : List Op) : Listing :=
  ops.foldl (step settings rule) t

end Steps

variable {t t' : Listing} {settings : TransportSettings} {rule : SocketRule} {pid : Pid}
  {id old : ChannelId}

theorem run_append (t : Listing) (before later : List Op) :
    t.run settings rule (before ++ later)
      = (t.run settings rule before).run settings rule later :=
  List.foldl_append

/-! ### Taking out and putting in -/

/-- The table without the channel of a process. -/
def without (t : Listing) (pid : Pid) (id : ChannelId) : Listing :=
  { t with directory := ⟨t.directory.byChannel.erase id, t.directory.byPid.erase pid⟩ }

/-- The table with a fresh session for a process. -/
def withFresh (settings : TransportSettings) (rule : SocketRule) (t : Listing) (pid : Pid)
    (uid : Uid) (tokenType : Int32) : Listing where
  directory := ⟨t.directory.byChannel.insert t.channels.next pid,
    t.directory.byPid.insert pid t.channels.next⟩
  channels := (t.channels.add pid uid tokenType settings rule).2.bind t.channels.next

theorem contains_without :
    (t.without pid old).directory.contains id = true ↔
      id ≠ old ∧ t.directory.contains id = true := by
  simp only [without, Directory.contains, Table.contains, Table.get?_erase]
  split_ifs with hid <;> simp [hid]

theorem contains_withFresh {uid : Uid} {tokenType : Int32} :
    (t.withFresh settings rule pid uid tokenType).directory.contains id = true ↔
      id = t.channels.next ∨ t.directory.contains id = true := by
  simp only [withFresh, Directory.contains, Table.contains, Table.get?_insert]
  split_ifs with hid <;> simp [hid]

/-- A process that has no channel gets a fresh one. -/
theorem step_add_of_none {uid : Uid} {tokenType : Int32}
    (h : t.directory.byPid.get? pid = none) :
    t.step settings rule (.add pid uid tokenType)
      = t.withFresh settings rule pid uid tokenType := by
  simp only [step, Directory.add, h]
  rfl

/-- A process that has one gets a fresh one in its place, and the old one is
closed. -/
theorem step_add_of_some {uid : Uid} {tokenType : Int32}
    (h : t.directory.byPid.get? pid = some old) (hold : t.directory.contains old = true) :
    t.step settings rule (.add pid uid tokenType)
      = let fresh := (t.without pid old).withFresh settings rule pid uid tokenType
        { fresh with channels := fresh.channels.close old } := by
  have hbyChannel : t.directory.byChannel.contains old = true := hold
  simp only [step, Directory.add, h, hbyChannel, if_true, withFresh, without,
    Table.insert_erase_self t.directory.byPid]
  rfl

theorem step_remove_of_none (h : t.directory.byPid.get? pid = none) :
    t.step settings rule (.remove pid) = t := by
  simp only [step, Directory.remove, h]

theorem step_remove_of_some (h : t.directory.byPid.get? pid = some old)
    (hold : t.directory.contains old = true) :
    t.step settings rule (.remove pid)
      = { t.without pid old with channels := t.channels.close old } := by
  have hbyChannel : t.directory.byChannel.contains old = true := hold
  simp only [step, Directory.remove, h, hbyChannel, if_true, without]

/-! ### The two ways to find a channel -/

/-- The two ways to find a channel are inverse to each other, and what is found
is a session of that number and of that process. -/
structure Paired (t : Listing) : Prop where
  inverse : ∀ {pid id},
    t.directory.byPid.get? pid = some id ↔ t.directory.byChannel.get? id = some pid
  held : ∀ {id pid}, t.directory.byChannel.get? id = some pid →
    ∃ s, t.channels.get? id = some s ∧ s.channel = id ∧ s.pid = pid

theorem contains_iff :
    t.directory.contains id = true ↔ ∃ pid, t.directory.byChannel.get? id = some pid := by
  rw [Directory.contains, Table.contains, Option.isSome_iff_exists]

theorem paired_start (cs : Channels) : (start cs).Paired :=
  ⟨iff_of_false (by rintro ⟨⟩) (by rintro ⟨⟩), by rintro _ _ ⟨⟩⟩

namespace Paired

theorem contains (h : t.Paired) (hid : t.directory.byPid.get? pid = some id) :
    t.directory.contains id = true :=
  contains_iff.2 ⟨pid, h.inverse.1 hid⟩

/-- A channel in the table has a session, so its number is not the next one. -/
theorem ne_next (h : t.Paired) (hid : t.directory.contains id = true) :
    id ≠ t.channels.next := by
  intro heq
  obtain ⟨pid, hpid⟩ := contains_iff.1 hid
  obtain ⟨s, hs, -⟩ := h.held hpid
  rw [heq, Channels.get?_next] at hs
  cases hs

theorem of_ages (h : t.Paired) (directory : t'.directory = t.directory)
    (ages : t.channels.Ages t'.channels) : t'.Paired := by
  refine ⟨fun {pid id} => by rw [directory]; exact h.inverse, fun {id pid} hid => ?_⟩
  rw [directory] at hid
  obtain ⟨s, hs, hchannel, hpid⟩ := h.held hid
  obtain ⟨s', hs', hages⟩ := ages.session hs
  exact ⟨s', hs', hages.channel.trans hchannel, hages.pid.trans hpid⟩

theorem without (h : t.Paired) (hold : t.directory.byPid.get? pid = some old) :
    (t.without pid old).Paired := by
  have hends : ∀ {other id}, t.directory.byPid.get? other = some id →
      (other = pid ↔ id = old) := by
    intro other id hid
    constructor
    · intro heq
      rw [heq, hold] at hid
      exact (Option.some.inj hid).symm
    · intro heq
      have hboth := (h.inverse.1 hold).symm.trans (h.inverse.1 (heq ▸ hid))
      exact (Option.some.inj hboth).symm
  constructor
  · intro other id
    simp only [Listing.without, Table.get?_erase]
    by_cases hid : t.directory.byPid.get? other = some id
    · simp only [hends hid, h.inverse.1 hid, hid]
      split_ifs <;> simp
    · have hnot := mt h.inverse.2 hid
      split_ifs <;> simp [hid, hnot]
  · intro id other hid
    simp only [Listing.without, Table.get?_erase] at hid
    split_ifs at hid
    exact h.held hid

theorem withFresh (h : t.Paired) (hnone : t.directory.byPid.get? pid = none) (uid : Uid)
    (tokenType : Int32) : (t.withFresh settings rule pid uid tokenType).Paired := by
  constructor
  · intro other id
    simp only [Listing.withFresh, Table.get?_insert]
    by_cases hid : t.directory.byPid.get? other = some id
    · have hother : other ≠ pid := by
        intro heq
        rw [heq, hnone] at hid
        cases hid
      simp [hother, h.ne_next (h.contains hid), hid, h.inverse.1 hid]
    · have hnot := mt h.inverse.2 hid
      split_ifs with hother hnext hnext <;> simp_all [eq_comm]
  · intro id other hid
    simp only [Listing.withFresh, Table.get?_insert] at hid
    split_ifs at hid with hnext
    · cases hid
      rw [hnext]
      exact t.channels.get?_open ..
    · obtain ⟨s, hs, hchannel, hpid⟩ := h.held hid
      obtain ⟨s', hs', hages⟩ := (t.channels.ages_open pid uid tokenType settings rule).session hs
      exact ⟨s', hs', hages.channel.trans hchannel, hages.pid.trans hpid⟩

/-- **No operation parts the two ways to find a channel.** -/
theorem step (h : t.Paired) (op : Op) : (t.step settings rule op).Paired := by
  cases op with
  | add pid uid tokenType =>
    cases hpid : t.directory.byPid.get? pid with
    | none =>
      rw [step_add_of_none hpid]
      exact h.withFresh hpid uid tokenType
    | some old =>
      have hnone : (t.without pid old).directory.byPid.get? pid = none :=
        Table.get?_erase_self _ _
      rw [step_add_of_some hpid (h.contains hpid)]
      exact ((h.without hpid).withFresh hnone uid tokenType).of_ages rfl (Channels.ages_close _ _)
  | remove pid =>
    cases hpid : t.directory.byPid.get? pid with
    | none => rwa [step_remove_of_none hpid]
    | some old =>
      rw [step_remove_of_some hpid (h.contains hpid)]
      exact (h.without hpid).of_ages rfl (Channels.ages_close _ _)
  | closeAll => exact ⟨(paired_start t.channels).inverse, by rintro _ _ ⟨⟩⟩
  | send id p => exact h.of_ages rfl (t.directory.ages_send t.channels id p)
  | multicast ids p => exact h.of_ages rfl (t.directory.ages_multicast t.channels ids p _)
  | onSession id op => exact h.of_ages rfl (t.channels.ages_update id fun s _ => s.ages_step op)

end Paired

/-- No operation does more to a session than let it age. -/
theorem ages_step (h : t.Paired) (op : Op) :
    t.channels.Ages (t.step settings rule op).channels := by
  cases op with
  | add pid uid tokenType =>
    have hopen := t.channels.ages_open pid uid tokenType settings rule
    cases hpid : t.directory.byPid.get? pid with
    | none =>
      rw [step_add_of_none hpid]
      exact hopen
    | some old =>
      rw [step_add_of_some hpid (h.contains hpid)]
      exact hopen.trans (Channels.ages_close _ old)
  | remove pid =>
    cases hpid : t.directory.byPid.get? pid with
    | none =>
      rw [step_remove_of_none hpid]
      exact .refl _
    | some old =>
      rw [step_remove_of_some hpid (h.contains hpid)]
      exact t.channels.ages_close old
  | closeAll => exact Channels.ages_foldl_close _ _
  | send id p => exact t.directory.ages_send t.channels id p
  | multicast ids p => exact t.directory.ages_multicast t.channels ids p _
  | onSession id op => exact t.channels.ages_update id fun s _ => s.ages_step op

/-! ### What leaves the table is closed -/

/-- A session is in the table or closed. -/
def LeftClosed (id : ChannelId) (t : Listing) : Prop :=
  ∃ s, t.channels.get? id = some s ∧ (t.directory.contains id = false → s.isClosed = true)

theorem Paired.leftClosed (h : t.Paired) (hid : t.directory.contains id = true) :
    t.LeftClosed id := by
  obtain ⟨pid, hpid⟩ := contains_iff.1 hid
  obtain ⟨s, hs, -⟩ := h.held hpid
  exact ⟨s, hs, fun hout => by rw [hid] at hout; cases hout⟩

namespace LeftClosed

theorem of_ages (h : t.LeftClosed id) (ages : t.channels.Ages t'.channels)
    (closes : t.directory.contains id = true → t'.directory.contains id = false →
      t'.channels.isClosed id = true) : t'.LeftClosed id := by
  obtain ⟨s, hs, hclosed⟩ := h
  obtain ⟨s', hs', hages⟩ := ages.session hs
  refine ⟨s', hs', fun hout => ?_⟩
  cases hin : t.directory.contains id with
  | false => exact hages.closed (hclosed hin)
  | true => simpa only [Channels.isClosed, hs'] using closes hin hout

/-- **A session that is in the table or closed stays so**: whatever takes it out
closes it. -/
theorem step (h : t.LeftClosed id) (paired : t.Paired) (op : Op) :
    (t.step settings rule op).LeftClosed id := by
  refine h.of_ages (ages_step paired op) fun hin hout => ?_
  obtain ⟨s, hs, -⟩ := h
  cases op with
  | add pid uid tokenType =>
    cases hpid : t.directory.byPid.get? pid with
    | none =>
      rw [step_add_of_none hpid, Bool.eq_false_iff, ne_eq, contains_withFresh, hin] at hout
      exact absurd (.inr rfl) hout
    | some old =>
      rw [step_add_of_some hpid (paired.contains hpid)] at hout ⊢
      have hold : id = old := by
        by_contra hne
        rw [Bool.eq_false_iff, ne_eq, contains_withFresh, contains_without] at hout
        exact hout (.inr ⟨hne, hin⟩)
      obtain ⟨s', hs', -⟩ :=
        (t.channels.ages_open pid uid tokenType settings rule).session hs
      subst hold
      exact Channels.isClosed_close hs'
  | remove pid =>
    cases hpid : t.directory.byPid.get? pid with
    | none =>
      rw [step_remove_of_none hpid, hin] at hout
      cases hout
    | some old =>
      rw [step_remove_of_some hpid (paired.contains hpid)] at hout ⊢
      have hold : id = old := by
        by_contra hne
        rw [Bool.eq_false_iff, ne_eq, contains_without] at hout
        exact hout ⟨hne, hin⟩
      subst hold
      exact Channels.isClosed_close hs
  | closeAll => exact Channels.isClosed_foldl_close ((Table.contains_iff _).1 hin) hs
  | send | multicast | onSession =>
    rw [show t.directory.contains id = false from hout] at hin
    cases hin

end LeftClosed

/-! ### Names of sockets -/

section Names

variable (name : ChannelId → Int32)

/-- The channel in the table whose socket has this name. -/
def named? (t : Listing) (n : Int32) : Option ChannelId :=
  t.directory.byChannel.keys.find? fun id => name id = n

/-- The name of the socket of a process. -/
def nameOf? (t : Listing) (pid : Pid) : Option Int32 :=
  (t.directory.byPid.get? pid).map name

/-- The process of the channel whose socket has this name. -/
def ownerNamed? (t : Listing) (n : Int32) : Option Pid :=
  (t.named? name n).bind t.directory.byChannel.get?

/-- A session is opened under a name that none of those in the table has. -/
def NamesApart (t : Listing) : Op → Prop
  | .add _ _ _ => ∀ id ∈ t.directory.byChannel.keys, name id ≠ name t.channels.next
  | _ => True

/-- So is every session of a run. -/
def Fresh (settings : TransportSettings) (rule : SocketRule) : Listing → List Op → Prop
  | _, [] => True
  | t, op :: ops => t.NamesApart name op ∧ Fresh settings rule (t.step settings rule op) ops

/-- So is then every session of the run's beginning. -/
theorem Fresh.of_append {before later : List Op} {t : Listing}
    (fresh : t.Fresh name settings rule (before ++ later)) :
    t.Fresh name settings rule before := by
  induction before generalizing t with
  | nil => trivial
  | cons op before ih => exact ⟨fresh.1, ih fresh.2⟩

/-- No two channels in the table have one name. -/
def Distinct (t : Listing) : Prop :=
  Set.InjOn name {id | t.directory.contains id = true}

variable {name}

theorem distinct_start (cs : Channels) : (start cs).Distinct name := by
  intro id hid
  cases hid

theorem Distinct.without (h : t.Distinct name) : (t.without pid old).Distinct name :=
  Set.InjOn.mono (fun _ hid => (contains_without.1 hid).2) h

theorem Distinct.withFresh (h : t.Distinct name) (uid : Uid) (tokenType : Int32)
    (apart : ∀ {id}, t.directory.contains id = true → name id ≠ name t.channels.next) :
    (t.withFresh settings rule pid uid tokenType).Distinct name := by
  intro id hid id' hid' hname
  rcases contains_withFresh.1 hid with rfl | hold <;>
    rcases contains_withFresh.1 hid' with rfl | hold'
  · rfl
  · exact absurd hname.symm (apart hold')
  · exact absurd hname (apart hold)
  · exact h hold hold' hname

/-- A session that is opened under a name of its own leaves the names
distinct. -/
theorem Distinct.step (h : t.Distinct name) (paired : t.Paired) {op : Op}
    (apart : t.NamesApart name op) : (t.step settings rule op).Distinct name := by
  cases op with
  | add pid uid tokenType =>
    have hapart : ∀ {id}, t.directory.contains id = true → name id ≠ name t.channels.next :=
      fun hid => apart _ ((Table.contains_iff _).1 hid)
    cases hpid : t.directory.byPid.get? pid with
    | none =>
      rw [step_add_of_none hpid]
      exact h.withFresh uid tokenType hapart
    | some old =>
      rw [step_add_of_some hpid (paired.contains hpid)]
      have hfresh : ((t.without pid old).withFresh settings rule pid uid tokenType).Distinct name :=
        h.without.withFresh uid tokenType fun hid => hapart (contains_without.1 hid).2
      exact hfresh
  | remove pid =>
    cases hpid : t.directory.byPid.get? pid with
    | none => rwa [step_remove_of_none hpid]
    | some old =>
      rw [step_remove_of_some hpid (paired.contains hpid)]
      exact h.without
  | closeAll => exact distinct_start t.channels
  | send | multicast | onSession => exact h

/-! ### Runs -/

theorem Paired.run (h : t.Paired) (ops : List Op) : (t.run settings rule ops).Paired := by
  induction ops generalizing t with
  | nil => exact h
  | cons op ops ih => exact ih (h.step op)

theorem LeftClosed.run (h : t.LeftClosed id) (paired : t.Paired) (ops : List Op) :
    (t.run settings rule ops).LeftClosed id := by
  induction ops generalizing t with
  | nil => exact h
  | cons op ops ih => exact ih (h.step paired op) (paired.step op)

theorem Distinct.run (h : t.Distinct name) (paired : t.Paired) {ops : List Op}
    (fresh : t.Fresh name settings rule ops) : (t.run settings rule ops).Distinct name := by
  induction ops generalizing t with
  | nil => exact h
  | cons op ops ih => exact ih (h.step paired fresh.1) (paired.step op) fresh.2

/-! ### What a consistent table answers -/

/-- Asked by the process or by the name of a socket, the table gives the same
answers. -/
structure Consistent (name : ChannelId → Int32) (t : Listing) : Prop where
  /-- A process is led to the name under which its session is found. -/
  listed : ∀ {pid n}, t.nameOf? name pid = some n ↔
    ∃ id s, t.named? name n = some id ∧ t.channels.get? id = some s ∧
      name s.channel = n ∧ s.pid = pid
  inverse : ∀ {pid n}, t.ownerNamed? name n = some pid ↔ t.nameOf? name pid = some n
  owner : ∀ n, t.ownerNamed? name n = ((t.named? name n).bind t.channels.get?).map Session.pid
  session : ∀ pid, t.directory.sessionOf? pid = (t.nameOf? name pid).bind (t.named? name)
  /-- A process owns one session at most. -/
  single : ∀ {id id' s s'}, t.directory.contains id = true → t.channels.get? id = some s →
    t.directory.contains id' = true → t.channels.get? id' = some s' → s.pid = s'.pid → id = id'
  /-- There are as many sessions as processes that own one. -/
  count : ∃ pids : List Pid, pids.Nodup ∧ t.directory.size = pids.length ∧
    ∀ pid, pid ∈ pids ↔ ∃ id s, t.directory.contains id = true ∧
      t.channels.get? id = some s ∧ s.pid = pid

/-- Under distinct names a channel is found just when it is in the table. -/
theorem Distinct.named?_eq_some_iff (h : t.Distinct name) {n : Int32} :
    t.named? name n = some id ↔ t.directory.contains id = true ∧ name id = n := by
  have hmem : ∀ {id}, id ∈ t.directory.byChannel.keys ↔ t.directory.contains id = true :=
    fun {_} => (Table.contains_iff _).symm
  constructor
  · intro hfind
    exact ⟨hmem.1 (List.mem_of_find?_eq_some hfind), by simpa using List.find?_some hfind⟩
  · rintro ⟨hid, hn⟩
    cases hfind : t.named? name n with
    | none =>
      have hnone := List.find?_eq_none.1 hfind id (hmem.2 hid)
      simp [hn] at hnone
    | some id' =>
      have hid' := hmem.1 (List.mem_of_find?_eq_some hfind)
      have hn' : name id' = n := by simpa using List.find?_some hfind
      rw [h hid' hid (hn'.trans hn.symm)]

namespace Paired

/-- A channel in the table is that of its session's process. -/
theorem byPid_of_session (h : t.Paired) {s : Session} (hid : t.directory.contains id = true)
    (hs : t.channels.get? id = some s) : t.directory.byPid.get? s.pid = some id := by
  obtain ⟨pid, hpid⟩ := contains_iff.1 hid
  obtain ⟨s', hs', -, hpid'⟩ := h.held hpid
  rw [hs] at hs'
  cases hs'
  rw [hpid']
  exact h.inverse.2 hpid

theorem nodup_values (h : t.Paired) : t.directory.byChannel.values.Nodup := by
  have hentries : t.directory.byChannel.entries.Nodup :=
    t.directory.byChannel.nodup_keys.of_map Prod.fst
  refine hentries.map_on fun e he e' he' hpid => ?_
  have hid := h.inverse.2 ((Table.mem_entries_iff _).1 he)
  have hid' := h.inverse.2 ((Table.mem_entries_iff _).1 he')
  rw [← hpid, hid] at hid'
  exact Prod.ext (Option.some.inj hid') hpid

theorem nameOf?_iff (h : t.Paired) (distinct : t.Distinct name) {n : Int32} :
    t.nameOf? name pid = some n ↔ t.ownerNamed? name n = some pid := by
  simp only [nameOf?, ownerNamed?, Option.map_eq_some_iff, Option.bind_eq_some_iff,
    distinct.named?_eq_some_iff]
  refine exists_congr fun id => ⟨fun hid => ?_, fun hid => ?_⟩
  · exact ⟨⟨h.contains hid.1, hid.2⟩, h.inverse.1 hid.1⟩
  · exact ⟨h.inverse.2 hid.2, hid.1.2⟩

theorem consistent (h : t.Paired) (distinct : t.Distinct name) : t.Consistent name where
  listed {pid n} := by
    rw [h.nameOf?_iff distinct, ownerNamed?, Option.bind_eq_some_iff]
    refine exists_congr fun id => ?_
    rw [distinct.named?_eq_some_iff]
    constructor
    · rintro ⟨hn, hid⟩
      obtain ⟨s, hs, hchannel, hpid⟩ := h.held hid
      exact ⟨s, hn, hs, by rw [hchannel, hn.2], hpid⟩
    · rintro ⟨s, hn, hs, -, hpid⟩
      exact ⟨hn, h.inverse.1 (hpid ▸ h.byPid_of_session hn.1 hs)⟩
  inverse := (h.nameOf?_iff distinct).symm
  owner n := by
    rw [ownerNamed?]
    cases hn : t.named? name n with
    | none => rfl
    | some id =>
      obtain ⟨pid, hpid⟩ := contains_iff.1 (distinct.named?_eq_some_iff.1 hn).1
      obtain ⟨s, hs, -, hs'⟩ := h.held hpid
      simp [hpid, hs, hs']
  session pid := by
    rw [Directory.sessionOf?, nameOf?]
    cases hpid : t.directory.byPid.get? pid with
    | none => rfl
    | some id =>
      have hid := h.contains hpid
      have hn : t.named? name (name id) = some id := distinct.named?_eq_some_iff.2 ⟨hid, rfl⟩
      simp [hid, hn]
  single hid hs hid' hs' hpid := by
    have hown := h.byPid_of_session hid hs
    rw [hpid, h.byPid_of_session hid' hs'] at hown
    exact (Option.some.inj hown).symm
  count := by
    refine ⟨t.directory.byChannel.values, h.nodup_values, (List.length_map _).symm, fun pid => ?_⟩
    have hmem : pid ∈ t.directory.byChannel.values ↔
        ∃ id, t.directory.byChannel.get? id = some pid := by
      simp [Table.values, ← Table.mem_entries_iff]
    rw [hmem]
    refine exists_congr fun id => ⟨fun hid => ?_, ?_⟩
    · obtain ⟨s, hs, -, hpid⟩ := h.held hid
      exact ⟨s, contains_iff.2 ⟨pid, hid⟩, hs, hpid⟩
    · rintro ⟨s, hid, hs, rfl⟩
      exact h.inverse.1 (h.byPid_of_session hid hs)

end Paired

/-- **The table stays consistent, and what leaves it is closed.** A server that
starts without a session is asked for anything, in any order; sockets have any
names, as long as a session is opened under a name that none of those in the
table has. Then the process, the name and the session lead to each other; and a
session that was ever in the table is there still, or is closed. -/
theorem consistent_after {name : ChannelId → Int32} {cs : Channels} {ops : List Op}
    (fresh : (start cs).Fresh name settings rule ops) :
    ((start cs).run settings rule ops).Consistent name ∧
      ∀ before later, ops = before ++ later → ∀ id,
        ((start cs).run settings rule before).directory.contains id = true →
        ((start cs).run settings rule ops).LeftClosed id := by
  have hstart := paired_start cs
  refine ⟨(hstart.run ops).consistent ((distinct_start cs).run hstart fresh), ?_⟩
  rintro before later rfl id hid
  have hbefore : ((start cs).run settings rule before).Paired := hstart.run before
  rw [run_append]
  exact (hbefore.leftClosed hid).run hbefore later

/-- One process takes a channel, is sent to and gives it up. Of two others the
first then has the socket name that went free, until it takes another channel in
the place of its own. -/
def turns : List Op :=
  [.add 7 1000 0, .send 0 ⟨1, []⟩, .remove 7, .add 8 1000 0, .add 9 1000 0, .add 8 1000 0]

/-- The names of the sockets in these turns. -/
def turnNames (id : ChannelId) : Int32 :=
  if id = 3 then 5 else if id = 2 then 4 else 3

/-- After these turns the table holds the sessions of the two processes that have
one, and finds them by process and by name; of the two sessions that had the same
name it holds neither. When all channels are closed after that, it is empty, and
all four sessions are closed. -/
theorem turns_consistent :
    (start ∅).Fresh turnNames {} default (turns ++ [.closeAll]) ∧
      ((start ∅).run {} default turns).Consistent turnNames ∧
      ((start ∅).run {} default turns).directory.size = 2 ∧
      ((start ∅).run {} default turns).ownerNamed? turnNames 5 = some 8 ∧
      ((start ∅).run {} default turns).ownerNamed? turnNames 4 = some 9 ∧
      ((start ∅).run {} default turns).ownerNamed? turnNames 3 = none ∧
      ((start ∅).run {} default (turns ++ [.closeAll])).Consistent turnNames ∧
      ∀ id ∈ [0, 1, 2, 3],
        ((start ∅).run {} default (turns ++ [.closeAll])).channels.isClosed id = true := by
  have hfresh : (start ∅).Fresh turnNames {} default (turns ++ [.closeAll]) := by
    simp only [turns, List.cons_append, List.nil_append, Fresh, NamesApart, true_and, and_true]
    decide +kernel
  exact ⟨hfresh, (consistent_after hfresh.of_append).1, by decide +kernel, by decide +kernel,
    by decide +kernel, by decide +kernel, (consistent_after hfresh).1, by decide +kernel⟩

end Names

end Listing
end SensorBroker
