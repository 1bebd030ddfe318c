/-
# The stages of a session, and what is counted on the way

A session is created, bound, streams and is closed, and it never goes back. It
streams from the first send that succeeds until it is closed, whether or not it
was bound before. Once it is closed nothing moves any more: every request is
answered with the same error, the client gets what the socket held at that
moment and no byte more, and the counters stand still.

While a session is open, each attempt to send a frame is counted once, by what
came of it. A packet too long for a frame is no attempt, since it is turned
away before the session is asked. The number of bytes noted as waiting is right
after every operation, also after one that fails: only a client that is gone
makes writing fail, and then no byte leaves the queue.

Key definitions: `SessionState.stage`, `Session.attempts`, `Session.Over`,
`Session.Still`.
Key theorems: `Session.stage_step`, `Session.Over.run`, `Session.counted_run`,
`Session.pendingBytes_run`, `Session.life`.
-/
import SensorBroker.Proofs.Channel.Outgoing

namespace SensorBroker

/-- How far a session in a state has come. -/
def SessionState.stage : SessionState → Nat
  | .created => 0
  | .bound => 1
  | .streaming => 2
  | .closed => 3

theorem SessionState.stage_le_stage_sent (state : SessionState) :
    state.stage ≤ state.sent.stage := by
  cases state <;> decide

theorem SessionState.sent_of_ne_closed {state : SessionState} (h : state ≠ .closed) :
    state.sent = .streaming := by
  cases state with
  | created => rfl
  | bound => rfl
  | streaming => rfl
  | closed => exact absurd rfl h

namespace Session

/-- What no write to the socket changes: the number of the session, its state,
and all that is counted but the attempts cut short. -/
def standing (s : Session) : ChannelId × SessionState × ChannelCounters :=
  (s.channel, s.state, { s.counters with partialWrites := 0 })

/-- The frame that an operation asks a session to send. -/
def frameOf (s : Session) : Op → Option Bytes
  | .send p => (p.frame? s.maxPacketSize).toOption
  | .sendFrame frame => some frame
  | _ => none

/-- What came of the attempt to send that an operation makes. Only an open
session attempts anything. -/
def attempt? (s : Session) (op : Op) : Option (Except ChannelError Unit) :=
  if s.isClosed then none else (s.frameOf op).map fun frame => (s.sendFrame frame).1

/-- What came of each attempt to send in a run, in order. -/
def attempts (s : Session) : List Op → List (Except ChannelError Unit)
  | [] => []
  | op :: ops => (s.attempt? op).toList ++ (s.step op).attempts ops

/-- Every request to this session fails, because it is closed, and does
nothing. A packet that no frame can carry fails for that reason. -/
structure Over (s : Session) : Prop where
  state : s.state = .closed
  bind : s.bind = (.error (.closed s.channel), s)
  sendFrame (frame : Bytes) : s.sendFrame frame = (.error (.closed s.channel), s)
  send (p : Packet) :
    s.send p = ((p.frame? s.maxPacketSize).bind fun _ => .error (.closed s.channel), s)
  flushPending : s.flushPending = (.error (.closed s.channel), s)

/-- Between these two moments, with these operations, nothing was written,
queued or counted: the client got what the socket held before. -/
structure Still (s : Session) (ops : List Op) (s' : Session) : Prop where
  channel : s'.channel = s.channel
  pending : s'.pending = s.pending
  counters : s'.counters = s.counters
  socket : s.received ops ++ s'.link.toClient.toList = s.link.toClient.toList

/-! ### Where writing fails -/

theorem untouched_standing : Untouched standing where
  drainRun s := by
    unfold drainRun
    split <;> rfl
  written _ _ _ := rfl
  enqueue s run := by
    unfold enqueue
    split <;> rfl

/-- Writing fails only where the client is gone and bytes wait; then it does
nothing. -/
theorem eq_of_drainRun_error {s s' : Session} {e : ChannelError}
    (h : s.drainRun = (.error e, s')) : s' = s := by
  unfold drainRun at h
  split at h
  · exact ((Prod.mk.inj h).2).symm
  · cases h

/-- To a client that is gone, no run of bytes goes out: a run that did was
empty. -/
theorem size_drainRun_of_clientGone {s s' : Session} {whole : Bool}
    (hgone : s.link.clientGone = true) (h : s.drainRun = (.ok whole, s')) :
    s'.pending.size = s.pending.size := by
  have hnone : s.pending.firstRun = 0 := by
    by_contra hne
    have hrefused : s.link.offer? s.retryLimit s.pending.firstRun = none := by
      simp [Link.offer?, hgone, hne]
    simp [drainRun, hrefused] at h
  have heffort : s.link.offer? s.retryLimit 0 = some ⟨0, 0, s.link.attempt⟩ := by
    simp [Link.offer?, SocketRule.press]
  unfold drainRun at h
  rw [hnone, heffort] at h
  obtain ⟨-, rfl⟩ := Prod.mk.inj h
  show (s.pending.bytes.split 0).2.size = s.pending.bytes.size
  rw [ByteQueue.size_eq_length, ByteQueue.size_eq_length, ByteQueue.split_snd, List.drop_zero]

theorem clientGone_drainRun (s : Session) :
    s.drainRun.2.link.clientGone = s.link.clientGone := by
  unfold drainRun
  split <;> rfl

theorem clientGone_of_drainRun_error {s s' : Session} {e : ChannelError}
    (h : s.drainRun = (.error e, s')) : s.link.clientGone = true := by
  by_contra hhere
  unfold drainRun Link.offer? at h
  simp [hhere] at h

/-- **Where writing fails, no byte has left the queue.** -/
theorem size_drain_of_error {s s' : Session} {e : ChannelError} (h : s.drain = (.error e, s')) :
    s'.pending.size = s.pending.size := by
  unfold drain at h
  split at h
  · next hfirst =>
    obtain ⟨-, rfl⟩ := Prod.mk.inj h
    rw [eq_of_drainRun_error hfirst]
  · cases h
  · next s₁ hfirst =>
    split at h
    · next hsecond =>
      obtain ⟨-, rfl⟩ := Prod.mk.inj h
      have hgone : s₁.link.clientGone = true := clientGone_of_drainRun_error hsecond
      have hbefore : s.link.clientGone = true := by
        have hsame := s.clientGone_drainRun
        rw [hfirst] at hsame
        exact hsame.symm.trans hgone
      rw [eq_of_drainRun_error hsecond]
      exact size_drainRun_of_clientGone hbefore hfirst
    · cases h

/-! ### What a send does to the stage and the counters -/

/-- What an attempt to send with this result does to the stage and the
counters. -/
structure Counted (s : Session) (result : Except ChannelError Unit) (s' : Session) : Prop where
  state : s'.state = if result.isOk then s.state.sent else s.state
  framesSent : s'.counters.framesSent = s.counters.framesSent + [result].countP (·.isOk)
  sendFailures : s'.counters.sendFailures = s.counters.sendFailures + [result].countP (!·.isOk)
  pendingBytes : s'.counters.pendingBytes = s'.pending.size

/-- **An attempt to send on an open session is counted once**, by what came
of it. -/
theorem counted_sendFrame {s : Session} (hopen : s.isClosed = false) (frame : Bytes) :
    s.Counted (s.sendFrame frame).1 (s.sendFrame frame).2 := by
  have hkept := untouched_standing.sendInOrder s frame
  unfold sendFrame
  rw [if_neg (by simp [hopen])]
  rcases hs : s.sendInOrder frame with ⟨e | _, s'⟩
  all_goals
    rw [hs] at hkept
    have hstate : s'.state = s.state := congrArg (·.2.1) hkept
    have hsent : s'.counters.framesSent = s.counters.framesSent :=
      congrArg (·.2.2.framesSent) hkept
    have hfailed : s'.counters.sendFailures = s.counters.sendFailures :=
      congrArg (·.2.2.sendFailures) hkept
  · exact ⟨hstate, hsent, congrArg (· + 1) hfailed, rfl⟩
  · exact ⟨congrArg SessionState.sent hstate, congrArg (· + 1) hsent, hfailed, rfl⟩

/-- What an operation that attempts nothing does: it may bind the session, and
counts nothing. -/
structure Uncounted (s s' : Session) : Prop where
  state : s'.state = s.state ∨ s.state = .created ∧ s'.state = .bound
  framesSent : s'.counters.framesSent = s.counters.framesSent
  sendFailures : s'.counters.sendFailures = s.counters.sendFailures
  pendingBytes : s.counters.pendingBytes = s.pending.size →
    s'.counters.pendingBytes = s'.pending.size

theorem uncounted_bind (s : Session) : s.Uncounted s.bind.2 := by
  unfold Session.bind
  split
  · exact ⟨.inl rfl, rfl, rfl, id⟩
  · next hcreated => exact ⟨.inr ⟨hcreated, rfl⟩, rfl, rfl, id⟩
  · exact ⟨.inl rfl, rfl, rfl, id⟩
  · exact ⟨.inl rfl, rfl, rfl, id⟩

/-- Flushing notes how much still waits; where it fails, as much waits as
before. -/
theorem uncounted_flushPending (s : Session) : s.Uncounted s.flushPending.2 := by
  have hkept := untouched_standing.drain s
  unfold flushPending
  split_ifs
  · exact ⟨.inl rfl, rfl, rfl, id⟩
  · rcases hd : s.drain with ⟨e | _, s'⟩
    all_goals
      rw [hd] at hkept
      refine ⟨.inl (congrArg (·.2.1) hkept), congrArg (·.2.2.framesSent) hkept,
        congrArg (·.2.2.sendFailures) hkept, fun hbefore => ?_⟩
    · have hnoted : s'.counters.pendingBytes = s.counters.pendingBytes :=
        congrArg (·.2.2.pendingBytes) hkept
      exact hnoted.trans (hbefore.trans (size_drain_of_error hd).symm)
    · rfl

/-! ### One operation -/

/-- What an operation is to an open session. -/
inductive Turn (s : Session) (op : Op) : Prop
  /-- It attempts to send a frame. -/
  | attempt (frame : Bytes) (after : s.step op = (s.sendFrame frame).2)
      (attempts : s.attempt? op = some (s.sendFrame frame).1)
      (sends : s.sentBy op = some (frame, (s.sendFrame frame).1))
  /-- It closes the session. -/
  | close (closes : op = .close)
  /-- It attempts nothing, be it that a packet has no frame. -/
  | quiet (keepsOpen : op ≠ .close) (attempts : s.attempt? op = none)
      (sends : ∀ sent ∈ s.sentBy op, sent.2 ≠ .ok ()) (after : s.Uncounted (s.step op))

/-- An operation that sends nothing and does not close attempts nothing. -/
theorem Turn.of_unsent {s : Session} {op : Op} (keepsOpen : op ≠ .close)
    (attempts : s.attempt? op = none) (unsent : s.sentBy op = none)
    (after : s.Uncounted (s.step op)) : s.Turn op := by
  refine .quiet keepsOpen attempts (fun sent hsent => ?_) after
  rw [unsent] at hsent
  cases hsent

theorem turn_of_open {s : Session} (hopen : s.isClosed = false) (op : Op) : s.Turn op := by
  have hattempt : s.attempt? op = (s.frameOf op).map fun frame => (s.sendFrame frame).1 := by
    rw [attempt?, if_neg (by simp [hopen])]
  cases op with
  | bind => exact .of_unsent (by simp) hattempt rfl s.uncounted_bind
  | send p =>
    cases hf : p.frame? s.maxPacketSize with
    | ok frame =>
      have hsame : s.send p = s.sendFrame frame := by
        rw [send, hf]
      refine .attempt frame (congrArg Prod.snd hsame) ?_ ?_
      · rw [hattempt, frameOf, hf]; rfl
      · rw [sentBy, hf, hsame]; rfl
    | error e =>
      have hrefused : s.send p = (.error e, s) := by
        rw [send, hf]
      refine .quiet (by simp) ?_ (fun sent hsent => ?_) ?_
      · rw [hattempt, frameOf, hf]; rfl
      · cases hsent
        rw [hrefused]
        simp
      · show s.Uncounted (s.send p).2
        rw [hrefused]
        exact ⟨.inl rfl, rfl, rfl, id⟩
  | sendFrame frame => exact .attempt frame rfl hattempt rfl
  | flushPending => exact .of_unsent (by simp) hattempt rfl s.uncounted_flushPending
  | close => exact .close rfl
  | atClient a => exact .of_unsent (by simp) hattempt rfl ⟨.inl rfl, rfl, rfl, id⟩

/-! ### A closed session -/

theorem over_of_isClosed {s : Session} (h : s.isClosed = true) : s.Over := by
  have hstate : s.state = .closed := by simpa [isClosed] using h
  refine ⟨hstate, ?_, sendFrame_closed h, fun p => ?_, ?_⟩
  · rw [Session.bind, hstate]
  · unfold send
    cases hf : p.frame? s.maxPacketSize with
    | ok frame => exact sendFrame_closed h frame
    | error e => rfl
  · rw [flushPending, if_pos h]

/-- A closed session attempts nothing. -/
theorem Over.attempt? {s : Session} (h : s.Over) (op : Op) : s.attempt? op = none := by
  rw [Session.attempt?, if_pos (by simp [isClosed, h.state])]

/-- What leaves a session as it is, and brings its client nothing, leaves it
still. -/
theorem still_of_step_eq {s : Session} {op : Op} (hsame : s.step op = s)
    (hnothing : s.receivedBy op = []) : s.Still [op] (s.step op) := by
  rw [hsame]
  refine ⟨rfl, rfl, rfl, ?_⟩
  rw [received, hnothing]
  rfl

/-- **A closed session stays closed and still**, whatever is done with it. -/
theorem Over.step {s : Session} (h : s.Over) (op : Op) :
    (s.step op).Over ∧ s.Still [op] (s.step op) := by
  have hsame (hstep : s.step op = s) (hnothing : s.receivedBy op = []) :
      (s.step op).Over ∧ s.Still [op] (s.step op) :=
    ⟨by rwa [hstep], still_of_step_eq hstep hnothing⟩
  cases op with
  | bind => exact hsame (congrArg Prod.snd h.bind) rfl
  | send p => exact hsame (congrArg Prod.snd (h.send p)) rfl
  | sendFrame frame => exact hsame (congrArg Prod.snd (h.sendFrame frame)) rfl
  | flushPending => exact hsame (congrArg Prod.snd h.flushPending) rfl
  | close => exact ⟨over_of_isClosed rfl, rfl, rfl, rfl, rfl⟩
  | atClient a =>
    refine ⟨over_of_isClosed (decide_eq_true h.state), rfl, rfl, rfl, ?_⟩
    show s.link.received a ++ [] ++ (s.link.act a).toClient.toList = s.link.toClient.toList
    rw [List.append_nil]
    exact s.link.received_append_act a

theorem Still.trans {s s' s'' : Session} {ops later : List Op} (h : s.Still ops s')
    (h' : s'.Still later s'')
    (hreceived : s.received (ops ++ later) = s.received ops ++ s'.received later) :
    s.Still (ops ++ later) s'' := by
  refine ⟨h'.channel.trans h.channel, h'.pending.trans h.pending, h'.counters.trans h.counters, ?_⟩
  rw [hreceived, List.append_assoc, h'.socket, h.socket]

theorem Over.run {s : Session} (h : s.Over) (ops : List Op) :
    (s.run ops).Over ∧ s.Still ops (s.run ops) := by
  induction ops generalizing s with
  | nil => exact ⟨h, rfl, rfl, rfl, rfl⟩
  | cons op ops ih =>
    obtain ⟨hnow, hstill⟩ := h.step op
    obtain ⟨hend, hlater⟩ := ih hnow
    refine ⟨hend, hstill.trans hlater ?_⟩
    show s.receivedBy op ++ (s.step op).received ops
      = s.receivedBy op ++ [] ++ (s.step op).received ops
    rw [List.append_nil]

/-! ### Runs -/

theorem run_append (s : Session) (ops later : List Op) :
    s.run (ops ++ later) = (s.run ops).run later :=
  List.foldl_append

/-- **No operation takes a session back.** -/
theorem stage_step (s : Session) (op : Op) : s.state.stage ≤ (s.step op).state.stage := by
  by_cases hclosed : s.isClosed = true
  · have hover := over_of_isClosed hclosed
    have hstays : s.state = (s.step op).state := hover.state.trans (hover.step op).1.state.symm
    exact Nat.le_of_eq (congrArg SessionState.stage hstays)
  · have hopen : s.isClosed = false := by simpa using hclosed
    cases s.turn_of_open hopen op with
    | attempt frame after _ _ =>
      rw [after, (counted_sendFrame hopen frame).state]
      split
      · exact s.state.stage_le_stage_sent
      · exact Nat.le_refl _
    | close closes =>
      subst closes
      show s.state.stage ≤ SessionState.closed.stage
      cases s.state <;> decide
    | quiet _ _ _ after =>
      rcases after.state with hkept | ⟨hcreated, hbound⟩
      · exact Nat.le_of_eq (congrArg SessionState.stage hkept.symm)
      · rw [hcreated, hbound]
        decide

theorem stage_run (s : Session) (ops : List Op) : s.state.stage ≤ (s.run ops).state.stage := by
  induction ops generalizing s with
  | nil => exact Nat.le_refl _
  | cons op ops ih => exact Nat.le_trans (s.stage_step op) (ih (s.step op))

/-- A session streams if it did, or a send succeeds, and it is not closed. -/
theorem streaming_step (s : Session) (op : Op) :
    (s.step op).state = .streaming ↔ (s.step op).state ≠ .closed ∧
      (s.state = .streaming ∨ ∃ sent ∈ s.sentBy op, sent.2 = .ok ()) := by
  by_cases hclosed : s.isClosed = true
  · have hend : (s.step op).state = .closed := ((over_of_isClosed hclosed).step op).1.state
    simp [hend]
  · have hopen : s.isClosed = false := by simpa using hclosed
    have hne : s.state ≠ .closed := by simpa [isClosed] using hclosed
    cases s.turn_of_open hopen op with
    | attempt frame after _ sends =>
      have hstate := (counted_sendFrame hopen frame).state
      rw [← after] at hstate
      cases hresult : (s.sendFrame frame).1 with
      | ok =>
        have hstreams : (s.step op).state = .streaming := by
          rw [hstate, hresult]
          exact SessionState.sent_of_ne_closed hne
        simp [hstreams, sends, hresult]
      | error e =>
        have hstays : (s.step op).state = s.state := by
          rw [hstate, hresult]
          rfl
        simp only [hstays, sends, hresult, Option.mem_some_iff, exists_eq_left', reduceCtorEq,
          or_false]
        exact ⟨fun h => ⟨hne, h⟩, And.right⟩
    | close closes =>
      subst closes
      simp [step]
    | quiet _ _ sends after =>
      have hnone : ¬∃ sent ∈ s.sentBy op, sent.2 = .ok () := by
        rintro ⟨sent, hsent, hok⟩
        exact sends sent hsent hok
      rcases after.state with hkept | ⟨hcreated, hbound⟩
      · rw [hkept, or_iff_left hnone]
        exact ⟨fun h => ⟨hne, h⟩, And.right⟩
      · rw [hcreated, hbound, or_iff_left hnone]
        decide

theorem streaming_run (s : Session) (ops : List Op) :
    (s.run ops).state = .streaming ↔ (s.run ops).state ≠ .closed ∧
      (s.state = .streaming ∨ ∃ sent ∈ s.sends ops, sent.2 = .ok ()) := by
  induction ops generalizing s with
  | nil =>
    show s.state = .streaming ↔ s.state ≠ .closed ∧ _
    simp only [sends, List.not_mem_nil, false_and, exists_false, or_false]
    refine ⟨fun h => ⟨by rw [h]; decide, h⟩, And.right⟩
  | cons op ops ih =>
    have hstep := s.streaming_step op
    -- a session that is open in the end was open after its first operation
    have hopen (h : ((s.step op).run ops).state ≠ .closed) : (s.step op).state ≠ .closed := by
      intro hclosed
      exact h ((over_of_isClosed (decide_eq_true hclosed)).run ops).1.state
    have hsends : (∃ sent ∈ s.sends (op :: ops), sent.2 = .ok ()) ↔
        (∃ sent ∈ s.sentBy op, sent.2 = .ok ()) ∨
          ∃ sent ∈ (s.step op).sends ops, sent.2 = .ok () := by
      simp only [sends, List.mem_append, Option.mem_toList, Option.mem_def, or_and_right, exists_or]
    show ((s.step op).run ops).state = .streaming ↔ ((s.step op).run ops).state ≠ .closed ∧ _
    rw [ih (s.step op), hsends]
    refine and_congr_right fun h => ?_
    rw [hstep, ← or_assoc]
    exact or_congr_left (and_iff_right (hopen h))

/-- A session is closed by closing it, and in no other way. -/
theorem closed_step (s : Session) (op : Op) :
    (s.step op).state = .closed ↔ s.state = .closed ∨ .close = op := by
  by_cases hclosed : s.isClosed = true
  · have hover := over_of_isClosed hclosed
    exact iff_of_true (hover.step op).1.state (.inl hover.state)
  · have hopen : s.isClosed = false := by simpa using hclosed
    have hne : s.state ≠ .closed := by simpa [isClosed] using hclosed
    cases s.turn_of_open hopen op with
    | attempt frame after _ sends =>
      have hop : Op.close ≠ op := by
        rintro rfl
        cases sends
      refine iff_of_false ?_ (not_or_intro hne hop)
      rw [after, (counted_sendFrame hopen frame).state, SessionState.sent_of_ne_closed hne]
      split
      · decide
      · exact hne
    | close closes => exact iff_of_true (by rw [closes]; rfl) (.inr closes.symm)
    | quiet keepsOpen _ _ after =>
      refine iff_of_false ?_ (not_or_intro hne keepsOpen.symm)
      rcases after.state with hkept | ⟨-, hbound⟩
      · rwa [hkept]
      · rw [hbound]
        decide

theorem closed_run (s : Session) (ops : List Op) :
    (s.run ops).state = .closed ↔ s.state = .closed ∨ .close ∈ ops := by
  induction ops generalizing s with
  | nil => simp [run]
  | cons op ops ih =>
    show ((s.step op).run ops).state = .closed ↔ _
    rw [ih (s.step op), s.closed_step op, List.mem_cons, or_assoc]

/-- An attempt to send is counted once, by what came of it, and nothing else
is. -/
theorem counted_step (s : Session) (op : Op) :
    (s.step op).counters.framesSent
        = s.counters.framesSent + (s.attempt? op).toList.countP (·.isOk) ∧
      (s.step op).counters.sendFailures
        = s.counters.sendFailures + (s.attempt? op).toList.countP (!·.isOk) := by
  by_cases hclosed : s.isClosed = true
  · have hover := over_of_isClosed hclosed
    rw [hover.attempt? op, (hover.step op).2.counters]
    exact ⟨rfl, rfl⟩
  · have hopen : s.isClosed = false := by simpa using hclosed
    cases s.turn_of_open hopen op with
    | attempt frame after attempts _ =>
      rw [after, attempts]
      have hcounted := counted_sendFrame hopen frame
      exact ⟨hcounted.framesSent, hcounted.sendFailures⟩
    | close closes =>
      subst closes
      rw [attempt?, if_neg (by simp [hopen])]
      exact ⟨rfl, rfl⟩
    | quiet _ attempts _ after =>
      rw [attempts]
      exact ⟨after.framesSent, after.sendFailures⟩

theorem counted_run (s : Session) (ops : List Op) :
    (s.run ops).counters.framesSent
        = s.counters.framesSent + (s.attempts ops).countP (·.isOk) ∧
      (s.run ops).counters.sendFailures
        = s.counters.sendFailures + (s.attempts ops).countP (!·.isOk) := by
  induction ops generalizing s with
  | nil => exact ⟨rfl, rfl⟩
  | cons op ops ih =>
    obtain ⟨hsent, hfailed⟩ := s.counted_step op
    obtain ⟨hsent', hfailed'⟩ := ih (s.step op)
    show ((s.step op).run ops).counters.framesSent = _ ∧
      ((s.step op).run ops).counters.sendFailures = _
    simp only [attempts, List.countP_append]
    omega

/-- What is noted as waiting is what waits. -/
theorem pendingBytes_step {s : Session} (h : s.counters.pendingBytes = s.pending.size)
    (op : Op) : (s.step op).counters.pendingBytes = (s.step op).pending.size := by
  by_cases hclosed : s.isClosed = true
  · have hstill := ((over_of_isClosed hclosed).step op).2
    rw [hstill.counters, hstill.pending, h]
  · have hopen : s.isClosed = false := by simpa using hclosed
    cases s.turn_of_open hopen op with
    | attempt frame after _ _ =>
      rw [after]
      exact (counted_sendFrame hopen frame).pendingBytes
    | close closes =>
      subst closes
      exact h
    | quiet _ _ _ after => exact after.pendingBytes h

theorem pendingBytes_run {s : Session} (h : s.counters.pendingBytes = s.pending.size)
    (ops : List Op) : (s.run ops).counters.pendingBytes = (s.run ops).pending.size := by
  induction ops generalizing s with
  | nil => exact h
  | cons op ops ih => exact ih (pendingBytes_step h op)

/-- **The life of a session, and what is counted in it.** Whatever is done with
a session from its start: it never goes back a stage; it streams exactly if it
is not closed and a send has succeeded; it is closed exactly if it was closed
by a request, and then every request fails and nothing is written, queued or
counted for good; each attempt to send while it was open is counted as sent or
as failed, by its result, and no other; and what is noted as waiting is what
waits. -/
theorem life (channel : ChannelId) (pid : Pid) (uid : Uid) (tokenType : Int32)
    (settings : TransportSettings) (rule : SocketRule) (ops : List Op) :
    let start := fresh channel pid uid tokenType settings rule
    let s := start.run ops
    (∀ later, s.state.stage ≤ (start.run (ops ++ later)).state.stage) ∧
      (s.state = .streaming ↔ s.state ≠ .closed ∧ ∃ sent ∈ start.sends ops, sent.2 = .ok ()) ∧
      (s.state = .closed ↔ .close ∈ ops) ∧
      (s.state = .closed → s.Over ∧
        ∀ later, (start.run (ops ++ later)).Over ∧ s.Still later (start.run (ops ++ later))) ∧
      s.counters.framesSent = (start.attempts ops).countP (·.isOk) ∧
      s.counters.sendFailures = (start.attempts ops).countP (!·.isOk) ∧
      s.counters.framesSent + s.counters.sendFailures = (start.attempts ops).length ∧
      s.counters.pendingBytes = s.pending.size := by
  intro start s
  obtain ⟨hsent, hfailed⟩ := start.counted_run ops
  have hsent : s.counters.framesSent = (start.attempts ops).countP (·.isOk) :=
    hsent.trans (Nat.zero_add _)
  have hfailed : s.counters.sendFailures = (start.attempts ops).countP (!·.isOk) :=
    hfailed.trans (Nat.zero_add _)
  have hall : (start.attempts ops).length
      = (start.attempts ops).countP (·.isOk) + (start.attempts ops).countP (!·.isOk) := by
    simpa using (start.attempts ops).length_eq_countP_add_countP (p := (·.isOk))
  refine ⟨fun later => ?_, ?_, ?_, fun hclosed => ?_, hsent, hfailed, ?_, ?_⟩
  · rw [run_append]
    exact s.stage_run later
  · rw [start.streaming_run ops]
    exact and_congr_right fun _ => or_iff_right nofun
  · rw [start.closed_run ops]
    exact or_iff_right nofun
  · have hover : s.Over := over_of_isClosed (decide_eq_true hclosed)
    refine ⟨hover, fun later => ?_⟩
    rw [run_append]
    exact hover.run later
  · rw [hsent, hfailed, hall]
  · exact pendingBytes_run rfl ops

end Session
end SensorBroker
