/-
# What the watcher of a channel makes of its reads

A channel is opened and watched. Then its watcher looks what there is to read,
waits in vain, or is taken off, and things happen to the session: its client
writes, reads or leaves, the broker sends, and the channel may be closed. An
account of this (`Attendance`) notes the reads that the watcher makes, the
packets that it hands over, and how often it reports that the client is gone.

Whatever happens, in whatever order, the packets are those that a client is
given which makes the same reads. As many frames are counted as packets were
handed over, and as many resets as there were times that bytes were dropped. The
watcher reports once if it looks after the client has left, unless the channel
was closed or the watcher taken off before; and otherwise never. Every sequence
of reads is one that a watcher makes.

A watcher may be set to read no bytes at a time. Then it takes anything written
for the end, as a client does. So that no read is empty, nothing is written in
that case.

Key definitions: `Session.intake`, `Attendance`, `Happening`, `HangsUp`,
`Attendance.Stands`.
Key theorems: `Attendance.Stands.step`, `Attendance.Stands.run`,
`Attendance.hears_what_a_client_is_given`.
-/
import SensorBroker.Proofs.Channel.Looking
import SensorBroker.Proofs.Channel.Stages
import SensorBroker.Proofs.Wire.Disposal

namespace SensorBroker

/-! ### What a session hears -/

namespace Session

/-- What there is to hear at the broker's end, and what was counted of it: the
bytes that wait, whether the client is gone, and the frames and resets. -/
def intake (s : Session) : ByteQueue × Bool × Nat × Nat :=
  (s.link.toBroker, s.link.clientGone, s.counters.framesReceived, s.counters.protocolResets)

theorem untouched_intake : Untouched intake where
  drainRun s := by
    unfold drainRun
    split <;> rfl
  written _ _ _ := rfl
  enqueue s run := by
    unfold enqueue
    split <;> rfl

theorem intake_sendFrame (s : Session) (frame : Bytes) :
    (s.sendFrame frame).2.intake = s.intake := by
  have hsend := untouched_intake.sendInOrder s frame
  unfold sendFrame
  split_ifs
  · rfl
  · rcases hs : s.sendInOrder frame with ⟨e | _, s'⟩
    all_goals
      rw [hs] at hsend
      exact hsend

theorem intake_send (s : Session) (p : Packet) : (s.send p).2.intake = s.intake := by
  unfold send
  split
  · rfl
  · exact s.intake_sendFrame _

theorem intake_flushPending (s : Session) : s.flushPending.2.intake = s.intake := by
  have hdrain := untouched_intake.drain s
  unfold flushPending
  split_ifs
  · rfl
  · rcases hd : s.drain with ⟨e | _, s'⟩
    all_goals
      rw [hd] at hdrain
      exact hdrain

theorem intake_bind (s : Session) : s.bind.2.intake = s.intake := by
  unfold Session.bind
  split <;> rfl

/-- What the client reads is not heard at the broker's end. -/
theorem intake_read (s : Session) (n : Nat) : (s.step (.atClient (.read n))).intake = s.intake := by
  show ({ s with link := (s.link.readAtClient n).2 } : Session).intake = s.intake
  unfold Link.readAtClient
  split
  · rfl
  · split <;> rfl

end Session

/-! ### What happens, and an account of it -/

/-- What happens to a channel that is watched. -/
inductive Happening
  /-- The watcher reads what there is. -/
  | look
  /-- The watcher has waited in vain. -/
  | wait
  /-- The watcher is taken off. -/
  | unwatch
  /-- Something happens to the session. -/
  | use (op : Session.Op)

/-- The client leaves. -/
abbrev Happening.leave : Happening := .use (.atClient .leave)

/-- The channel is closed at the broker's end. -/
abbrev Happening.close : Happening := .use .close

/-- The watcher looks when the client has left, and neither was the channel
closed before nor the watcher taken off. -/
def HangsUp (past : List Happening) : Prop :=
  ∃ before after, past = before ++ .look :: after ∧
    .leave ∈ before ∧ .close ∉ before ∧ .unwatch ∉ before

theorem not_hangsUp_nil : ¬HangsUp [] := by
  rintro ⟨before, after, hsplit, -⟩
  cases before <;> cases hsplit

theorem mem_concat_iff_of_ne {past : List Happening} (now other : Happening)
    (hne : now ≠ other) : other ∈ past ++ [now] ↔ other ∈ past := by
  rw [List.mem_append, List.mem_singleton, or_iff_left hne.symm]

theorem hangsUp_concat (past : List Happening) (now : Happening) :
    HangsUp (past ++ [now]) ↔
      HangsUp past ∨ now = .look ∧ .leave ∈ past ∧ .close ∉ past ∧ .unwatch ∉ past := by
  constructor
  · rintro ⟨before, after, hsplit, hsince⟩
    rcases List.eq_nil_or_concat after with rfl | ⟨after, last, rfl⟩
    · obtain ⟨rfl, hlook⟩ := List.append_inj' hsplit rfl
      exact .inr ⟨List.singleton_inj.1 hlook, hsince⟩
    · have hsplit' : past ++ [now] = (before ++ .look :: after) ++ [last] := by
        rw [hsplit, List.concat_eq_append, List.append_assoc, List.cons_append]
      exact .inl ⟨before, after, (List.append_inj' hsplit' rfl).1, hsince⟩
  · rintro (⟨before, after, rfl, hsince⟩ | ⟨rfl, hsince⟩)
    · exact ⟨before, after ++ [now], by rw [List.append_assoc, List.cons_append], hsince⟩
    · exact ⟨past, [], rfl, hsince⟩

/-- Watchers and channels, and an account of what the watcher of one channel has
done. -/
structure Attendance where
  watchers : Watchers
  channels : Channels
  /-- The reads that it has made, in order. -/
  reads : List Bytes
  /-- The packets that it has handed over, in order. -/
  packets : List Packet
  /-- How often it has reported that the client is gone. -/
  reports : Nat

namespace Attendance

/-- A channel is opened, and watched from the start. -/
def opened (ws : Watchers) (cs : Channels) (pid : Pid) (uid : Uid) (tokenType : Int32)
    (t : TransportSettings) (rule : SocketRule) : Attendance :=
  ⟨ws.register t cs.next, (cs.add pid uid tokenType t rule).2, [], [], 0⟩

/-- The reads that the watcher of a channel makes when it looks now. -/
def readsOf (a : Attendance) (id : ChannelId) : List Bytes :=
  match a.watchers.get? id, a.channels.get? id with
  | some w, some s => if s.isClosed then [] else s.link.pieces w.framing.readChunk
  | _, _ => []

/-- What there is after something has happened to a channel. -/
def step (id : ChannelId) (a : Attendance) : Happening → Attendance
  | .look =>
    let polled := a.watchers.poll a.channels id
    { watchers := polled.2.2.1
      channels := polled.2.2.2
      reads := a.reads ++ a.readsOf id
      packets := a.packets ++ polled.1
      reports := if polled.2.1 = .hungUp then a.reports + 1 else a.reports }
  | .wait => { a with channels := a.watchers.idle a.channels id }
  | .unwatch => { a with watchers := a.watchers.erase id }
  | .use op => { a with channels := a.channels.update id (·.step op) }

/-- What there is after a run. -/
def run (id : ChannelId) (a : Attendance) (happenings : List Happening) : Attendance :=
  happenings.foldl (step id) a

/-! ### How a channel stands -/

/-- How a channel with these settings and its watcher stand after this past. -/
structure Stands (t : TransportSettings) (id : ChannelId) (past : List Happening) (a : Attendance)
    (s : Session) : Prop where
  session : a.channels.get? id = some s
  closed : s.isClosed = true ↔ .close ∈ past
  gone : s.link.clientGone = true ↔ .leave ∈ past
  /-- Where no read has room for a byte, none waits. -/
  room : 1 ≤ t.framing.readChunk ∨ s.link.toBroker.toList = []
  bounds : ∀ run ∈ a.reads, run ≠ [] ∧ run.length ≤ t.framing.readChunk
  packets : a.packets = (t.framing.absorbAll t.framing.buffer a.reads).packets
  framesReceived : s.counters.framesReceived = a.packets.length
  protocolResets :
    s.counters.protocolResets = (t.framing.absorbAll t.framing.buffer a.reads).resets
  watching : ∀ w, a.watchers.get? id = some w →
    w = ⟨t.framing, (t.framing.absorbAll t.framing.buffer a.reads).buffer⟩ ∧
      ¬HangsUp past ∧ .unwatch ∉ past
  done : a.watchers.get? id = none → HangsUp past ∨ .close ∈ past ∨ .unwatch ∈ past
  reported : HangsUp past → a.reports = 1
  silent : ¬HangsUp past → a.reports = 0

variable {t : TransportSettings} {id : ChannelId} {past : List Happening} {a : Attendance}
  {s s' : Session} {now : Happening} {cs : Channels}

theorem get?_register_self (ws : Watchers) (t : TransportSettings) (id : ChannelId) :
    (ws.register t id).get? id = some (Watcher.fresh t) :=
  Table.get?_insert_self ws id _

theorem stands_opened (ws : Watchers) (cs : Channels) (pid : Pid) (uid : Uid) (tokenType : Int32)
    (t : TransportSettings) (rule : SocketRule) :
    Stands t cs.next [] (opened ws cs pid uid tokenType t rule)
      (.fresh cs.next pid uid tokenType t rule) where
  session := cs.get?_add_self pid uid tokenType t rule
  closed := iff_of_false Bool.false_ne_true List.not_mem_nil
  gone := iff_of_false Bool.false_ne_true List.not_mem_nil
  room := .inr rfl
  bounds := nofun
  packets := rfl
  framesReceived := rfl
  protocolResets := rfl
  watching w hw := by
    cases (get?_register_self ws t cs.next).symm.trans hw
    exact ⟨rfl, not_hangsUp_nil, List.not_mem_nil⟩
  done hnone := by cases (get?_register_self ws t cs.next).symm.trans hnone
  reported hhung := absurd hhung not_hangsUp_nil
  silent _ := rfl

/-- A watcher does nothing of itself. -/
theorem Stands.unheard (h : Stands t id past a s) (hlook : now ≠ .look) (hunwatch : now ≠ .unwatch)
    (session : cs.get? id = some s')
    (closed : s'.isClosed = true ↔ s.isClosed = true ∨ .close = now)
    (gone : s'.link.clientGone = true ↔ s.link.clientGone = true ∨ .leave = now)
    (room : 1 ≤ t.framing.readChunk ∨ s'.link.toBroker.toList = [])
    (framesReceived : s'.counters.framesReceived = s.counters.framesReceived)
    (protocolResets : s'.counters.protocolResets = s.counters.protocolResets) :
    Stands t id (past ++ [now]) { a with channels := cs } s' := by
  have hsame : HangsUp (past ++ [now]) ↔ HangsUp past := by
    rw [hangsUp_concat, or_iff_left fun hnow => hlook hnow.1]
  refine
    { session
      closed := by rw [closed, h.closed, List.mem_append, List.mem_singleton]
      gone := by rw [gone, h.gone, List.mem_append, List.mem_singleton]
      room
      bounds := h.bounds
      packets := h.packets
      framesReceived := framesReceived.trans h.framesReceived
      protocolResets := protocolResets.trans h.protocolResets
      watching := fun w hw => ?_
      done := fun hnone => ?_
      reported := fun hhung => h.reported (hsame.1 hhung)
      silent := fun hhung => h.silent fun hpast => hhung (hsame.2 hpast) }
  · obtain ⟨hw, hhung, hwatched⟩ := h.watching w hw
    exact ⟨hw, hsame.not.2 hhung, (mem_concat_iff_of_ne _ _ hunwatch).not.2 hwatched⟩
  · exact (h.done hnone).imp hsame.2
      (.imp (List.mem_append_left _) (List.mem_append_left _))

/-- What changes neither the intake of a session nor its traits is not heard. -/
theorem Stands.quiet (h : Stands t id past a s) (hlook : now ≠ .look) (hunwatch : now ≠ .unwatch)
    (hclose : now ≠ .close) (hleave : now ≠ .leave) (session : cs.get? id = some s')
    (hintake : s'.intake = s.intake) (htraits : s'.traits = s.traits) :
    Stands t id (past ++ [now]) { a with channels := cs } s' := by
  have hclosed : s'.isClosed = s.isClosed := congrArg (·.2.1) htraits
  have hgone : s'.link.clientGone = s.link.clientGone := congrArg (·.2.1) hintake
  have hwaits : s'.link.toBroker = s.link.toBroker := congrArg (·.1) hintake
  refine h.unheard hlook hunwatch session ?_ ?_ (hwaits ▸ h.room) (congrArg (·.2.2.1) hintake)
    (congrArg (·.2.2.2) hintake)
  · rw [hclosed, or_iff_left hclose.symm]
  · rw [hgone, or_iff_left hleave.symm]

theorem get?_update_of_some {f : Session → Session} (h : a.channels.get? id = some s) :
    (a.channels.update id f).get? id = some (f s) := by
  rw [Channels.get?_update_self, h, Option.map_some]

/-- Whatever happens to the session while its watcher does nothing. -/
theorem Stands.use (h : Stands t id past a s) (op : Session.Op)
    (hroom : ∀ run, op = .atClient (.write run) → run ≠ [] → 1 ≤ t.framing.readChunk) :
    Stands t id (past ++ [.use op]) (a.step id (.use op)) (s.step op) := by
  have hsession := get?_update_of_some (f := (·.step op)) h.session
  cases op with
  | bind =>
    exact h.quiet nofun nofun nofun nofun hsession s.intake_bind s.traits_bind
  | send p =>
    exact h.quiet nofun nofun nofun nofun hsession (s.intake_send p) (s.traits_send p)
  | sendFrame frame =>
    exact h.quiet nofun nofun nofun nofun hsession (s.intake_sendFrame frame)
      (s.traits_sendFrame frame)
  | flushPending =>
    exact h.quiet nofun nofun nofun nofun hsession s.intake_flushPending s.traits_flushPending
  | close =>
    refine h.unheard nofun nofun hsession ?_ ?_ h.room rfl rfl
    · exact iff_of_true s.isClosed_close (.inr rfl)
    · exact (or_iff_left nofun).symm
  | atClient act =>
    cases act with
    | read n =>
      exact h.quiet nofun nofun nofun nofun hsession (s.intake_read n) rfl
    | leave =>
      refine h.unheard nofun nofun hsession ?_ ?_ h.room rfl rfl
      · exact (or_iff_left nofun).symm
      · exact iff_of_true rfl (.inr rfl)
    | write run =>
      refine h.unheard nofun nofun hsession (or_iff_left nofun).symm ?_ ?_ rfl rfl
      · rw [or_iff_left nofun]
        exact (congrArg (· = true) (s.link.clientGone_act_write run)).to_iff
      · by_cases hrun : run = []
        · rw [hrun]
          exact h.room
        · exact .inl (hroom run rfl hrun)

/-- A watcher that has waited in vain may write what is queued. -/
theorem Stands.wait (h : Stands t id past a s) :
    ∃ s', Stands t id (past ++ [.wait]) (a.step id .wait) s' := by
  by_cases hflush : a.watchers.contains id = true ∧ 0 < s.counters.pendingBytes
  · refine ⟨s.flushPending.2, h.quiet nofun nofun nofun nofun ?_ s.intake_flushPending
      s.traits_flushPending⟩
    rw [Watchers.idle, if_pos hflush.1, get?_update_of_some h.session, if_pos hflush.2]
  · refine ⟨s, h.quiet nofun nofun nofun nofun ?_ rfl rfl⟩
    rw [Watchers.idle]
    split_ifs with hwatched
    · rw [get?_update_of_some h.session, if_neg fun hpending => hflush ⟨hwatched, hpending⟩]
    · exact h.session

/-- A watcher that is done, or is taken off now, does nothing more. -/
theorem Stands.over {a' : Attendance} (h : Stands t id past a s) (hclose : now ≠ .close)
    (hleave : now ≠ .leave) (hdone : HangsUp past ∨ .close ∈ past ∨ .unwatch ∈ past ++ [now])
    (hlook : now = .look → HangsUp past ∨ .close ∈ past ∨ .unwatch ∈ past)
    (session : a'.channels.get? id = some s) (watchers : a'.watchers.get? id = none)
    (reads : a'.reads = a.reads) (packets : a'.packets = a.packets)
    (reports : a'.reports = a.reports) : Stands t id (past ++ [now]) a' s := by
  have hsame : HangsUp (past ++ [now]) ↔ HangsUp past := by
    rw [hangsUp_concat, or_iff_left_iff_imp]
    rintro ⟨hnow, -, hopen, hwatched⟩
    exact (hlook hnow).resolve_right (not_or_intro hopen hwatched)
  exact
    { session
      closed := h.closed.trans (mem_concat_iff_of_ne _ _ hclose).symm
      gone := h.gone.trans (mem_concat_iff_of_ne _ _ hleave).symm
      room := h.room
      bounds := reads ▸ h.bounds
      packets := by rw [packets, reads, h.packets]
      framesReceived := by rw [packets, h.framesReceived]
      protocolResets := by rw [reads, h.protocolResets]
      watching := fun w hw => by cases watchers.symm.trans hw
      done := fun _ => hdone.imp hsame.2 (.imp_left (List.mem_append_left _))
      reported := fun hhung => reports.trans (h.reported (hsame.1 hhung))
      silent := fun hhung => reports.trans (h.silent fun hpast => hhung (hsame.2 hpast)) }

theorem Stands.unwatch (h : Stands t id past a s) :
    Stands t id (past ++ [.unwatch]) (a.step id .unwatch) s :=
  h.over nofun nofun (.inr (.inr (List.mem_append_right _ (List.mem_singleton_self _)))) nofun
    h.session (Table.get?_erase_self a.watchers id) rfl rfl rfl

/-! ### A look -/

/-- Where no watcher is left, a look does nothing. -/
theorem Stands.look_of_none (h : Stands t id past a s) (hnone : a.watchers.get? id = none) :
    Stands t id (past ++ [.look]) (a.step id .look) s := by
  have hpoll : a.watchers.poll a.channels id = ([], .closed, a.watchers.erase id, a.channels) := by
    rw [Watchers.poll, hnone]
  have hreads : a.readsOf id = [] := by
    rw [readsOf, hnone]
  have hstep : a.step id .look = { a with watchers := a.watchers.erase id } := by
    simp only [step, hpoll, hreads, List.append_nil, reduceCtorEq, if_false]
  have hdone := h.done hnone
  rw [hstep]
  exact h.over nofun nofun (hdone.imp_right (.imp_right (List.mem_append_left _))) (fun _ => hdone)
    h.session (Table.get?_erase_self a.watchers id) rfl rfl rfl

variable {w : Watcher}

/-- What a look does where there is a watcher. -/
theorem step_look_of_some (hw : a.watchers.get? id = some w) (hs : a.channels.get? id = some s) :
    a.step id .look =
      { watchers :=
          if (w.run s).status = .watching then a.watchers.insert id (w.run s).watcher
          else a.watchers.erase id
        channels := a.channels.update id fun _ => (w.run s).session
        reads := a.reads ++ if s.isClosed then [] else s.link.pieces w.framing.readChunk
        packets := a.packets ++ (w.run s).packets
        reports := if (w.run s).status = .hungUp then a.reports + 1 else a.reports } := by
  simp only [step, Watchers.poll, readsOf, hw, hs]

/-- At a closed channel the watcher is done, in silence. -/
theorem Stands.look_of_closed (h : Stands t id past a s) (hw : a.watchers.get? id = some w)
    (hclosed : s.isClosed = true) : Stands t id (past ++ [.look]) (a.step id .look) s := by
  have hstep : a.step id .look =
      { a with watchers := a.watchers.erase id, channels := a.channels.update id fun _ => s } := by
    simp only [step_look_of_some hw h.session, Watcher.run_of_closed hclosed, hclosed, if_true,
      List.append_nil, reduceCtorEq, if_false]
  have hpast := h.closed.1 hclosed
  rw [hstep]
  exact h.over nofun nofun (.inr (.inl hpast)) (fun _ => .inr (.inl hpast))
    (get?_update_of_some h.session) (Table.get?_erase_self a.watchers id) rfl rfl rfl

/-- At an open channel a look takes in all there is, and the watcher is done if
the client is gone. -/
theorem step_look_of_open (hw : a.watchers.get? id = some w) (hs : a.channels.get? id = some s)
    (hopen : s.isClosed = false)
    (hroom : 1 ≤ w.framing.readChunk ∨ s.link.toBroker.toList = []) :
    a.step id .look =
      { watchers :=
          if s.link.clientGone then a.watchers.erase id
          else a.watchers.insert id (w.run s).watcher
        channels := a.channels.update id fun _ => (w.run s).session
        reads := a.reads ++ s.link.pieces w.framing.readChunk
        packets := a.packets ++ (w.run s).packets
        reports := if s.link.clientGone then a.reports + 1 else a.reports } := by
  rw [step_look_of_some hw hs, Watcher.status_run_of_open hopen hroom, hopen]
  cases s.link.clientGone <;> rfl

/-- **At an open channel a look takes in all there is**, and tells whether the
client is gone. -/
theorem Stands.look_of_open (h : Stands t id past a s) (hw : a.watchers.get? id = some w)
    (hopen : s.isClosed = false) :
    Stands t id (past ++ [.look]) (a.step id .look) (w.run s).session := by
  obtain ⟨hwatcher, hhung, hwatched⟩ := h.watching w hw
  have hframing : w.framing = t.framing := congrArg Watcher.framing hwatcher
  have hbuffer : w.buffer = (t.framing.absorbAll t.framing.buffer a.reads).buffer :=
    congrArg Watcher.buffer hwatcher
  have hroom : 1 ≤ w.framing.readChunk ∨ s.link.toBroker.toList = [] := hframing ▸ h.room
  -- what the look does
  obtain ⟨hkept, hgone, -⟩ := w.run_keeps s
  have hclosed : (w.run s).session.isClosed = s.isClosed := congrArg (·.2.1) (w.traits_run s)
  obtain ⟨hpackets, hleft, hresets⟩ := Watcher.run_eq_absorbAll (w := w) hopen
  rw [hframing, hbuffer] at hpackets hleft hresets
  have hall := t.framing.absorbAll_append (s.link.pieces t.framing.readChunk) a.reads
    t.framing.buffer
  -- what it reports
  have hclose : Happening.close ∉ past := fun hpast => by
    cases (h.closed.2 hpast).symm.trans hopen
  have hends : HangsUp (past ++ [.look]) ↔ s.link.clientGone = true := by
    rw [hangsUp_concat, or_iff_right hhung, h.gone]
    exact ⟨fun hnow => hnow.2.1, fun hleave => ⟨rfl, hleave, hclose, hwatched⟩⟩
  rw [step_look_of_open hw h.session hopen hroom, hframing]
  refine
    { session := get?_update_of_some h.session
      closed := by rw [hclosed, h.closed, mem_concat_iff_of_ne .look .close nofun]
      gone := by rw [hgone, h.gone, mem_concat_iff_of_ne .look .leave nofun]
      room := .inr (Watcher.run_reads_all hopen hroom).1
      bounds := List.forall_mem_append.2 ⟨h.bounds, s.link.pieces_bounds _⟩
      packets := by rw [hall, hpackets, h.packets]
      framesReceived := by rw [w.framesReceived_run, List.length_append, h.framesReceived]
      protocolResets := by rw [hall, hresets, h.protocolResets]
      watching := fun w' hw' => ?_
      done := fun hnone => ?_
      reported := fun hnow =>
        (if_pos (hends.1 hnow)).trans (congrArg (· + 1) (h.silent hhung))
      silent := fun hnever => (if_neg (mt hends.2 hnever)).trans (h.silent hhung) }
  · by_cases hthere : s.link.clientGone = true
    · rw [if_pos hthere, Table.get?_erase_self] at hw'
      cases hw'
    · rw [if_neg hthere, Table.get?_insert_self] at hw'
      obtain rfl := Option.some.inj hw'
      refine ⟨?_, mt hends.1 hthere, (mem_concat_iff_of_ne .look .unwatch nofun).not.2 hwatched⟩
      rw [hall, ← hleft, ← hframing, ← hkept]
  · by_cases hthere : s.link.clientGone = true
    · exact .inl (hends.2 hthere)
    · rw [if_neg hthere, Table.get?_insert_self] at hnone
      cases hnone

theorem Stands.look (h : Stands t id past a s) :
    ∃ s', Stands t id (past ++ [.look]) (a.step id .look) s' := by
  cases hw : a.watchers.get? id with
  | none => exact ⟨s, h.look_of_none hw⟩
  | some w =>
    cases hopen : s.isClosed with
    | true => exact ⟨s, h.look_of_closed hw hopen⟩
    | false => exact ⟨_, h.look_of_open hw hopen⟩

/-! ### Runs -/

/-- **Whatever happens, channel and watcher stand as they must.** -/
theorem Stands.step (h : Stands t id past a s) (now : Happening)
    (hroom : ∀ run, now = .use (.atClient (.write run)) → run ≠ [] → 1 ≤ t.framing.readChunk) :
    ∃ s', Stands t id (past ++ [now]) (a.step id now) s' := by
  cases now with
  | look => exact h.look
  | wait => exact h.wait
  | unwatch => exact ⟨s, h.unwatch⟩
  | use op => exact ⟨s.step op, h.use op fun run hop => hroom run (congrArg Happening.use hop)⟩

theorem Stands.run (happenings : List Happening) (h : Stands t id past a s)
    (hroom : ∀ run, .use (.atClient (.write run)) ∈ happenings → run ≠ [] →
      1 ≤ t.framing.readChunk) :
    ∃ s', Stands t id (past ++ happenings) (a.run id happenings) s' := by
  induction happenings generalizing past a s with
  | nil => exact ⟨s, by rwa [List.append_nil]⟩
  | cons now later ih =>
    obtain ⟨s₁, hnow⟩ := h.step now fun run heq => hroom run (heq ▸ List.mem_cons_self)
    obtain ⟨s₂, hlater⟩ := ih hnow fun run hmem => hroom run (List.mem_cons_of_mem _ hmem)
    rw [List.append_assoc] at hlater
    exact ⟨s₂, hlater⟩

/-! ### Every sequence of reads -/

theorem run_append (a : Attendance) (id : ChannelId) (before after : List Happening) :
    a.run id (before ++ after) = (a.run id before).run id after :=
  List.foldl_append

/-- Bytes arrive at the broker's end, and the watcher looks. -/
def heard (run : Bytes) : List Happening :=
  [.use (.atClient (.write run)), .look]

/-- A channel with these settings is open and watched, its client is there, and
these bytes wait for the watcher. -/
structure Live (t : TransportSettings) (id : ChannelId) (a : Attendance) (w : Watcher)
    (s : Session) (waiting : Bytes) : Prop where
  watcher : a.watchers.get? id = some w
  framing : w.framing = t.framing
  session : a.channels.get? id = some s
  isOpen : s.isClosed = false
  shut : s.link.shut = false
  present : s.link.clientGone = false
  waits : s.link.toBroker.toList = waiting

theorem live_opened (ws : Watchers) (cs : Channels) (pid : Pid) (uid : Uid) (tokenType : Int32)
    (t : TransportSettings) (rule : SocketRule) :
    Live t cs.next (opened ws cs pid uid tokenType t rule) (.fresh t)
      (.fresh cs.next pid uid tokenType t rule) [] where
  watcher := get?_register_self ws t cs.next
  framing := rfl
  session := cs.get?_add_self pid uid tokenType t rule
  isOpen := rfl
  shut := rfl
  present := rfl
  waits := rfl

theorem Live.write (h : Live t id a w s []) {run : Bytes} (hne : run ≠ []) :
    Live t id (a.step id (.use (.atClient (.write run)))) w
      (s.step (.atClient (.write run))) run := by
  have hlink : (s.step (.atClient (.write run))).link =
      { s.link with toBroker := s.link.toBroker.push run } :=
    Link.act_write_of_open h.shut hne
  exact
    { watcher := h.watcher
      framing := h.framing
      session := get?_update_of_some h.session
      isOpen := h.isOpen
      shut := by rw [hlink, h.shut]
      present := by rw [hlink, h.present]
      waits := by rw [hlink, ByteQueue.toList_push, h.waits, List.nil_append] }

/-- What is no longer than a read is read at one look. -/
theorem Live.look {run : Bytes} (h : Live t id a w s run) (hne : run ≠ [])
    (hlen : run.length ≤ t.framing.readChunk) :
    (a.step id .look).reads = a.reads ++ [run] ∧
      Live t id (a.step id .look) (w.run s).watcher (w.run s).session [] := by
  have hroom : 1 ≤ w.framing.readChunk := by
    have hpos := List.length_pos_iff.2 hne
    rw [h.framing]
    omega
  obtain ⟨hframing, hgone, hshut⟩ := w.run_keeps s
  have hpieces : s.link.pieces w.framing.readChunk = [run] :=
    Link.pieces_of_short h.waits hne (h.framing ▸ hlen)
  rw [step_look_of_open h.watcher h.session h.isOpen (.inl hroom), h.present, hpieces]
  exact ⟨rfl,
    { watcher := Table.get?_insert_self a.watchers id _
      framing := hframing.trans h.framing
      session := get?_update_of_some h.session
      isOpen := (congrArg (·.2.1) (w.traits_run s)).trans h.isOpen
      shut := hshut.trans h.shut
      present := hgone.trans h.present
      waits := (Watcher.run_reads_all h.isOpen (.inl hroom)).1 }⟩

/-- Run after run, all that arrives is read as it arrives. -/
theorem Live.heard : ∀ (reads : List Bytes) {a : Attendance} {w : Watcher} {s : Session},
    Live t id a w s [] → (∀ run ∈ reads, run ≠ [] ∧ run.length ≤ t.framing.readChunk) →
    (a.run id (reads.flatMap Attendance.heard)).reads = a.reads ++ reads ∧
      ∃ w' s', Live t id (a.run id (reads.flatMap Attendance.heard)) w' s' []
  | [], _, w, s, h, _ => ⟨(List.append_nil _).symm, w, s, h⟩
  | run :: reads, a, _, _, h, hreads => by
    obtain ⟨⟨hne, hlen⟩, hlater⟩ := List.forall_mem_cons.1 hreads
    obtain ⟨hnow, hlive⟩ := (h.write hne).look hne hlen
    obtain ⟨hrest, hend⟩ := heard reads hlive hlater
    refine ⟨hrest.trans ?_, hend⟩
    rw [hnow, List.append_assoc, List.singleton_append]
    rfl

/-- The end is no read. -/
theorem Live.reads_of_leave (h : Live t id a w s []) :
    (a.run id [.leave, .look]).reads = a.reads := by
  have hsession : (a.step id .leave).channels.get? id = some (s.step (.atClient .leave)) :=
    get?_update_of_some h.session
  have hwatcher : (a.step id .leave).watchers.get? id = some w := h.watcher
  have hwaits : (s.step (.atClient .leave)).link.toBroker.toList = [] := h.waits
  have hopen : (s.step (.atClient .leave)).isClosed = false := h.isOpen
  show ((a.step id .leave).step id .look).reads = a.reads
  rw [step_look_of_open hwatcher hsession hopen (.inr hwaits), Link.pieces_of_empty hwaits]
  exact List.append_nil _

/-- **A watcher hears what a client is given, and reports the end once.**
Whatever happens to a channel that is watched from the start: a client that
makes the reads that the watcher has made is given exactly the packets that the
watcher has handed over, in order, then nothing, and is told of the end when it
comes. The frames counted are these packets, and the resets are the times that
bytes were dropped. One report is made if the watcher looks after the client has
left, where the channel was not closed before nor the watcher taken off; else
none. And a watcher can make any reads that are neither empty nor too long, with
the end behind them or not. -/
theorem hears_what_a_client_is_given (t : TransportSettings) (hpass : 1 ≤ t.passLimit.toNat)
    (ws : Watchers) (cs : Channels) (pid : Pid) (uid : Uid) (tokenType : Int32)
    (rule : SocketRule) :
    let id := cs.next
    let start := opened ws cs pid uid tokenType t rule
    (∀ happenings : List Happening,
      (∀ run, .use (.atClient (.write run)) ∈ happenings → run ≠ [] →
        1 ≤ t.framing.readChunk) →
      let a := start.run id happenings
      (∀ run ∈ a.reads, run ≠ [] ∧ run.length ≤ t.framing.readChunk) ∧
      (∃ c l, Client.Follows (.fresh t) (.fresh rule) a.reads a.packets c l ∧
        (c.receive l).1 = .nothing ∧ (c.receive l.shutDown).1 = .closed) ∧
      (∃ s portions held, a.channels.get? id = some s ∧
        t.framing.Disposes [] a.reads portions held ∧
        handedOut portions = a.packets ∧
        s.counters.framesReceived = a.packets.length ∧
        s.counters.protocolResets = (droppings portions).length ∧
        ∀ w, a.watchers.get? id = some w → w.buffer.unread = held) ∧
      (HangsUp happenings → a.reports = 1) ∧ (¬HangsUp happenings → a.reports = 0)) ∧
    ∀ reads : List Bytes, (∀ run ∈ reads, run ≠ [] ∧ run.length ≤ t.framing.readChunk) →
      (start.run id (reads.flatMap heard)).reads = reads ∧
        (start.run id (reads.flatMap heard ++ [.leave, .look])).reads = reads := by
  intro id start
  constructor
  · intro happenings hroom a
    obtain ⟨s, h⟩ := (stands_opened ws cs pid uid tokenType t rule).run happenings hroom
    rw [List.nil_append] at h
    have hbounds : ∀ run ∈ a.reads, run ≠ [] ∧ run.length ≤ t.framing.readChunk := h.bounds
    obtain ⟨c, l, hfollows, hend⟩ :=
      Client.follows_absorbAll (c := .fresh t) a.reads rfl (Link.drained_fresh rule) hbounds
    obtain ⟨portions, hdisposes, hgiven, hdropped⟩ :=
      Framing.disposes_absorbAll (f := t.framing) hpass a.reads (Framing.ready_buffer _)
    have hpackets : a.packets = (t.framing.absorbAll t.framing.buffer a.reads).packets := h.packets
    refine ⟨hbounds, ⟨c, l, hpackets ▸ hfollows, hend⟩, ?_, h.reported, h.silent⟩
    refine ⟨s, portions, _, h.session, hdisposes, hgiven.trans hpackets.symm, h.framesReceived,
      h.protocolResets.trans hdropped.symm, fun w hw => ?_⟩
    rw [(h.watching w hw).1]
  · intro reads hreads
    obtain ⟨hall, w, s, hlive⟩ :=
      (live_opened ws cs pid uid tokenType t rule).heard reads hreads
    refine ⟨hall, ?_⟩
    rw [run_append, hlive.reads_of_leave]
    exact hall

/-- Little room, and one frame to a pass. -/
def narrow : TransportSettings :=
  { maxPacketSize := 4, passLimit := 1, readChunk := 16 }

/-- A frame, a header that declares too much, and a frame. -/
def threeReads : List Bytes :=
  [Packet.bytes ⟨1, [7]⟩, Header.bytes ⟨1, 100⟩, Packet.bytes ⟨2, []⟩]

/-- The three are read, then the client leaves, and the watcher looks twice. -/
def threeHeard : List Happening :=
  threeReads.flatMap heard ++ [.leave, .look, .look]

/-- Of three reads, two bring packets, and one is dropped; that the client is
gone is reported once. -/
theorem two_packets_and_one_reset :
    let a := (opened ∅ ∅ 100 1000 0 narrow default).run 0 threeHeard
    1 ≤ narrow.passLimit.toNat ∧ 1 ≤ narrow.framing.readChunk ∧
      (∀ run ∈ threeReads, run ≠ [] ∧ run.length ≤ narrow.framing.readChunk) ∧
      ((opened ∅ ∅ 100 1000 0 narrow default).run 0 (threeReads.flatMap heard)).reads
        = threeReads ∧
      HangsUp threeHeard ∧ a.reports = 1 ∧ a.packets = [⟨1, [7]⟩, ⟨2, []⟩] ∧
      (∃ c l, Client.Follows (.fresh narrow) (.fresh default) threeReads [⟨1, [7]⟩, ⟨2, []⟩] c l ∧
        (c.receive l.shutDown).1 = .closed) ∧
      ∃ s portions held, a.channels.get? 0 = some s ∧
        narrow.framing.Disposes [] threeReads portions held ∧
        s.counters.framesReceived = 2 ∧ s.counters.protocolResets = 1 ∧
        (droppings portions).length = 1 := by
  intro a
  have hpass : 1 ≤ narrow.passLimit.toNat := by decide
  have hroom : 1 ≤ narrow.framing.readChunk := by decide
  have hhung : HangsUp threeHeard :=
    ⟨threeReads.flatMap heard ++ [.leave], [.look], rfl, by simp, by simp [threeReads, heard],
      by simp [threeReads, heard]⟩
  have hbounds : ∀ run ∈ threeReads, run ≠ [] ∧ run.length ≤ narrow.framing.readChunk := by
    decide
  have hreads : a.reads = threeReads := by decide +kernel
  have hpackets : a.packets = [⟨1, [7]⟩, ⟨2, []⟩] := by decide +kernel
  have hresets : (a.channels.get? 0).map (·.counters.protocolResets) = some 1 := by
    decide +kernel
  obtain ⟨hall, hmakes⟩ := hears_what_a_client_is_given narrow hpass ∅ ∅ 100 1000 0 default
  obtain ⟨-, ⟨c, l, hfollows, -, hclosed⟩, ⟨s, portions, held, hs, hdisposes, -, hframes, hcount, -⟩,
    hreported, -⟩ := hall threeHeard fun _ _ _ => hroom
  have hs : a.channels.get? 0 = some s := hs
  rw [hs] at hresets
  have hone : s.counters.protocolResets = 1 := Option.some.inj hresets
  have hfollows : Client.Follows (.fresh narrow) (.fresh default) a.reads a.packets c l := hfollows
  have hdisposes : narrow.framing.Disposes [] a.reads portions held := hdisposes
  have hframes : s.counters.framesReceived = a.packets.length := hframes
  rw [hreads] at hfollows hdisposes
  rw [hpackets] at hfollows hframes
  exact ⟨hpass, hroom, hbounds, (hmakes threeReads hbounds).1, hhung, hreported hhung, hpackets,
    ⟨c, l, hfollows, hclosed⟩, s, portions, held, hs, hdisposes, hframes, hone,
    hcount.symm.trans hone⟩

end Attendance
end SensorBroker
