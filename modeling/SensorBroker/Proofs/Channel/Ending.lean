/-
# What a client has been given when its channel ends

A broker sends packets on a session while a client takes what comes, one packet
at a time or all that is there. Whatever the two do, and however the bytes are
cut on their way, the client is given the packets in the order in which they
were sent: those given, those that the client holds ready, and those whose
frames are on their way make up all that were sent (`Dialogue.Owes`).

When the client is told that the channel has ended it holds nothing any more,
and the socket is empty. Of the frames that have reached the socket whole it has
then been given all but those that the very call collected which tells the end.
A client that asks for one packet at a time collects none, so it loses none; one
that asks for all that is there loses what it finds before the end
(`Dialogue.collected_is_lost`).

Key definitions: `Client.Awaits`, `Dialogue`, `Dialogue.Act`, `Dialogue.sent`,
`Dialogue.returned`, `Dialogue.collected`, `Reached`.
Key theorems: `Client.receive_spec`, `Client.gather_spec`, `Dialogue.owes_step`,
`Dialogue.returned_append_collected`.
-/
import SensorBroker.Proofs.Channel.Receiving
import SensorBroker.Proofs.Channel.Traffic

namespace SensorBroker

/-! ### One read -/

theorem Link.readAtClient_bytes {l l' : Link} {n : Nat} {run : Bytes}
    (h : l.readAtClient n = (.bytes run, l')) :
    run.length ≤ n ∧ run ++ l'.toClient.toList = l.toClient.toList := by
  unfold readAtClient at h
  split at h
  · split at h <;> cases h
  · split at h
    · cases h
    · cases h
      refine ⟨?_, l.toClient.toList_split n⟩
      rw [ByteQueue.split_fst]
      exact List.length_take_le _ _

/-- A read that brings no bytes has found none. -/
theorem Link.readAtClient_of_empty {l l' : Link} {n : Nat} {r : ReadResult} (hn : 1 ≤ n)
    (h : l.readAtClient n = (r, l')) (hr : ∀ run, r ≠ .bytes run) :
    l' = l ∧ l.toClient.toList = [] := by
  unfold readAtClient at h
  by_cases hempty : l.toClient.isEmpty = true
  · rw [if_pos hempty] at h
    exact ⟨((Prod.mk.inj h).2).symm, (ByteQueue.isEmpty_iff _).1 hempty⟩
  · rw [if_neg hempty, if_neg (by omega)] at h
    exact absurd ((Prod.mk.inj h).1).symm (hr _)

/-! ### What a client waits for -/

namespace Client

/-- The client holds the beginning of a stream, these packets are what it makes
up with the bytes that follow, and the client will take them. -/
def Awaits (c : Client) (following : Bytes) (packets : List Packet) : Prop :=
  ∃ held, c.buffer = c.framing.holding held ∧ Unfinished c.framing.maxPacketSize held ∧
    held ++ following = stream packets ∧ ∀ p ∈ packets, p.Fits c.framing.maxPacketSize

variable {c : Client} {packets : List Packet}

/-- Taking in a read makes the frames ready that are whole now. -/
theorem Awaits.absorb {run following : Bytes} (hpass : 1 ≤ c.framing.passLimit)
    (hrun : run.length ≤ c.framing.readChunk) (h : c.Awaits (run ++ following) packets) :
    ∃ now later, packets = now ++ later ∧ (c.absorb run).ready = c.ready ++ now ∧
      (c.absorb run).Awaits following later := by
  obtain ⟨held, hbuffer, hheld, hstream, hfit⟩ := h
  rw [← List.append_assoc] at hstream
  obtain ⟨now, later, part, rfl, hbefore, hafter, hpart⟩ := exists_cut hfit hstream
  have habsorb : c.framing.absorb c.buffer run = ⟨now, c.framing.holding part, 0⟩ := by
    rw [hbuffer]
    exact Framing.absorb_stream hpass hheld hrun
      (fun p hp => hfit p (List.mem_append_left _ hp)) hpart hbefore
  refine ⟨now, later, rfl, ?_, part, ?_, hpart, hafter, ?_⟩
  · rw [Client.absorb, habsorb]
  · rw [Client.absorb, habsorb]
  · exact fun p hp => hfit p (List.mem_append_right _ hp)

/-- A frame more on its way is a packet more to wait for. -/
theorem Awaits.push {following : Bytes} (h : c.Awaits following packets) {p : Packet}
    (hfits : p.Fits c.framing.maxPacketSize) :
    c.Awaits (following ++ p.bytes) (packets ++ [p]) := by
  obtain ⟨held, hbuffer, hheld, hstream, hfit⟩ := h
  refine ⟨held, hbuffer, hheld, ?_, fun q hq => ?_⟩
  · rw [← List.append_assoc, hstream, stream_append, stream_cons, stream_nil, List.append_nil]
  · rcases List.mem_append.1 hq with hq | hq
    · exact hfit q hq
    · exact List.mem_singleton.1 hq ▸ hfits

/-- A client and its link go on while the client is given some packets: these,
what the client then holds ready and what it still waits for are what it had
ready and waited for before. -/
structure Advances (c : Client) (l : Link) (given : List Packet) (c' : Client) (l' : Link) :
    Prop where
  framing : c'.framing = c.framing
  owed {queued : Bytes} {packets : List Packet} :
    c.Awaits (l.toClient.toList ++ queued) packets →
      ∃ later, c'.Awaits (l'.toClient.toList ++ queued) later ∧
        c.ready ++ packets = given ++ (c'.ready ++ later)

theorem Advances.refl (c : Client) (l : Link) : c.Advances l [] c l :=
  ⟨rfl, fun h => ⟨_, h, rfl⟩⟩

theorem Advances.trans {c c' c'' : Client} {l l' l'' : Link} {given given' : List Packet}
    (h : c.Advances l given c' l') (h' : c'.Advances l' given' c'' l'') :
    c.Advances l (given ++ given') c'' l'' := by
  refine ⟨h'.framing.trans h.framing, fun hawaits => ?_⟩
  obtain ⟨later, hlater, hmade⟩ := h.owed hawaits
  obtain ⟨last, hlast, hmade'⟩ := h'.owed hlater
  exact ⟨last, hlast, by rw [hmade, hmade', List.append_assoc]⟩

/-- A read only makes frames ready. -/
theorem advances_absorb {l l' : Link} {run : Bytes} (hpass : 1 ≤ c.framing.passLimit)
    (h : l.readAtClient c.framing.readChunk = (.bytes run, l')) :
    c.Advances l [] (c.absorb run) l' := by
  obtain ⟨hrun, hsplit⟩ := Link.readAtClient_bytes h
  refine ⟨rfl, fun {queued} {packets} hawaits => ?_⟩
  rw [← hsplit, List.append_assoc] at hawaits
  obtain ⟨now, later, rfl, hready, hlater⟩ := hawaits.absorb hpass hrun
  refine ⟨later, hlater, ?_⟩
  rw [hready, List.nil_append, List.append_assoc]

/-- The packets that come with a receipt. -/
def packetOf : Receipt → List Packet
  | .packet p => [p]
  | .nothing | .closed => []

/-- **A client that asks for a packet is given the next one**; where none is
there, it holds none and the socket is empty. -/
theorem receive_spec (c : Client) (l : Link) (hpass : 1 ≤ c.framing.passLimit)
    (hchunk : 1 ≤ c.framing.readChunk) :
    c.Advances l (packetOf (c.receive l).1) (c.receive l).2.1 (c.receive l).2.2 ∧
      ((c.receive l).1 = .closed →
        (c.receive l).2.1.ready = [] ∧ (c.receive l).2.2.toClient.toList = []) := by
  fun_induction Client.receive c l with
  | case1 c l p rest hready =>
    refine ⟨⟨rfl, fun {_ packets} hawaits => ⟨packets, hawaits, ?_⟩⟩, nofun⟩
    rw [hready]
    rfl
  | case2 c l hready l' hread =>
    obtain ⟨rfl, -⟩ := Link.readAtClient_of_empty hchunk hread nofun
    exact ⟨.refl c l', nofun⟩
  | case3 c l hready l' hread =>
    obtain ⟨rfl, hempty⟩ := Link.readAtClient_of_empty hchunk hread nofun
    exact ⟨.refl c l', fun _ => ⟨hready, hempty⟩⟩
  | case4 c l hready run l' hread ih =>
    obtain ⟨hlater, hend⟩ := ih hpass hchunk
    exact ⟨(advances_absorb hpass hread).trans hlater, hend⟩

/-- **Gathering makes all ready that has come** and leaves the socket empty. -/
theorem gather_spec (c : Client) (l : Link) (hpass : 1 ≤ c.framing.passLimit)
    (hchunk : 1 ≤ c.framing.readChunk) :
    c.Advances l [] (c.gather l).2.1 (c.gather l).2.2 ∧
      (c.gather l).2.2.toClient.toList = [] := by
  fun_induction Client.gather c l with
  | case1 c l l' hread =>
    obtain ⟨rfl, hempty⟩ := Link.readAtClient_of_empty hchunk hread nofun
    exact ⟨.refl c l', hempty⟩
  | case2 c l l' hread =>
    obtain ⟨rfl, hempty⟩ := Link.readAtClient_of_empty hchunk hread nofun
    exact ⟨.refl c l', hempty⟩
  | case3 c l run l' hread ih =>
    obtain ⟨hlater, hempty⟩ := ih hpass hchunk
    exact ⟨(advances_absorb hpass hread).trans hlater, hempty⟩

/-- Who takes all that is there has taken what gathering made ready. -/
theorem receiveAll_spec (c : Client) (l : Link) (channel : ChannelId)
    (hpass : 1 ≤ c.framing.passLimit) (hchunk : 1 ≤ c.framing.readChunk) :
    c.Advances l (c.gather l).2.1.ready (c.receiveAll l channel).2.1
        (c.receiveAll l channel).2.2 ∧
      (c.receiveAll l channel).2.1.ready = [] ∧
      (c.receiveAll l channel).2.2.toClient.toList = [] ∧
      ((c.receiveAll l channel).1 = .ok (c.gather l).2.1.ready ∨
        (c.receiveAll l channel).1 = .error (.closed channel)) := by
  obtain ⟨hgather, hempty⟩ := c.gather_spec l hpass hchunk
  have htake : (c.gather l).2.1.Advances (c.gather l).2.2 (c.gather l).2.1.ready
      { (c.gather l).2.1 with ready := [] } (c.gather l).2.2 :=
    ⟨rfl, fun hawaits => ⟨_, hawaits, rfl⟩⟩
  unfold receiveAll
  rcases hg : c.gather l with ⟨ended, c', l'⟩
  rw [hg] at hgather hempty htake
  cases ended with
  | true => exact ⟨hgather.trans htake, rfl, hempty, .inr rfl⟩
  | false => exact ⟨hgather.trans htake, rfl, hempty, .inl rfl⟩

end Client

/-! ### A broker that sends and a client that takes -/

/-- Only a packet that fits is sent. -/
theorem Session.fits_of_send {s : Session} {p : Packet} (h : (s.send p).1 = .ok ()) :
    p.Fits s.maxPacketSize := by
  by_contra hlong
  have hframe : p.frame s.maxPacketSize = .error ⟨p.payload.length, s.maxPacketSize⟩ :=
    if_neg hlong
  rw [Session.send, Packet.frame?, hframe] at h
  cases h

/-- A session and the client at its other end. -/
structure Dialogue where
  session : Session
  client : Client

namespace Dialogue

/-- What the two do. -/
inductive Act
  | bind
  | send (p : Packet)
  | flush
  | close
  /-- The client asks for a packet. -/
  | receive
  /-- The client asks for all packets that are there. -/
  | receiveAll
deriving DecidableEq

/-- A fresh session, and its client with the same settings. -/
def opened (channel : ChannelId) (pid : Pid) (uid : Uid) (tokenType : Int32)
    (settings : TransportSettings) (rule : SocketRule) : Dialogue :=
  ⟨.fresh channel pid uid tokenType settings rule, .fresh settings⟩

/-- The two after one of them has done something. -/
def step (d : Dialogue) : Act → Dialogue
  | .bind => { d with session := d.session.bind.2 }
  | .send p => { d with session := (d.session.send p).2 }
  | .flush => { d with session := d.session.flushPending.2 }
  | .close => { d with session := d.session.close }
  | .receive =>
    let got := d.client.receive d.session.link
    ⟨{ d.session with link := got.2.2 }, got.2.1⟩
  | .receiveAll =>
    let got := d.client.receiveAll d.session.link d.session.channel
    ⟨{ d.session with link := got.2.2 }, got.2.1⟩

def run (d : Dialogue) (acts : List Act) : Dialogue :=
  acts.foldl step d

/-- What came of sending a packet. -/
def result? (d : Dialogue) : Act → Option (Except ChannelError Unit)
  | .send p => some (d.session.send p).1
  | _ => none

/-- The packet that was sent with success. -/
def sentBy (d : Dialogue) : Act → List Packet
  | .send p => if (d.session.send p).1.isOk then [p] else []
  | _ => []

/-- What the client is told when it asks. -/
def told? (d : Dialogue) : Act → Option (Except ChannelError (List Packet))
  | .receive =>
    some (match (d.client.receive d.session.link).1 with
      | .packet p => .ok [p]
      | .nothing => .ok []
      | .closed => .error (.closed d.session.channel))
  | .receiveAll => some (d.client.receiveAll d.session.link d.session.channel).1
  | _ => none

/-- The packets that a call has collected and not yet returned when it is told
whether the stream has ended. -/
def collected (d : Dialogue) : Act → List Packet
  | .receiveAll => (d.client.gather d.session.link).2.1.ready
  | _ => []

/-- What came of each send in a run. -/
def results (d : Dialogue) : List Act → List (Except ChannelError Unit)
  | [] => []
  | a :: acts => (d.result? a).toList ++ (d.step a).results acts

/-- The packets that were sent with success in a run, in order. -/
def sent (d : Dialogue) : List Act → List Packet
  | [] => []
  | a :: acts => d.sentBy a ++ (d.step a).sent acts

/-- What the client was told in a run. -/
def told (d : Dialogue) : List Act → List (Except ChannelError (List Packet))
  | [] => []
  | a :: acts => (d.told? a).toList ++ (d.step a).told acts

/-- The packets that the client was given in a run, in order. -/
def returned (d : Dialogue) (acts : List Act) : List Packet :=
  (d.told acts).flatMap fun answer => answer.toOption.getD []

/-- Whether a send has failed and left the beginning of its frame in the
stream. -/
def isCut : Except ChannelError Unit → Bool
  | .error (.queueFull _ 0 _) => true
  | _ => false

/-- Of the packets that were sent, these have reached the socket whole, where
these bytes are queued. -/
def Reached (max : UInt32) (sent reached : List Packet) (queued : Bytes) : Prop :=
  ∃ left part, sent = reached ++ left ∧ part ++ queued = stream left ∧ Unfinished max part

/-- The settings of the two ends, and what the client is still owed: what it
holds ready, and what is on its way. -/
structure Owes (t : TransportSettings) (d : Dialogue) (owed : List Packet) : Prop where
  framing : d.client.framing = t.framing
  maxPacketSize : d.session.maxPacketSize = t.maxPacketSize
  packets : ∃ later, owed = d.client.ready ++ later ∧ d.client.Awaits d.session.outgoing later

variable {t : TransportSettings} {d : Dialogue} {owed : List Packet}

theorem owes_opened (channel : ChannelId) (pid : Pid) (uid : Uid) (tokenType : Int32)
    (rule : SocketRule) : Owes t (opened channel pid uid tokenType t rule) [] :=
  ⟨rfl, rfl, [], rfl, [], rfl, unfinished_nil _, rfl, nofun⟩

/-- What changes neither the stream nor the bound owes as much. -/
theorem Owes.of_outgoing (h : Owes t d owed) {s : Session} (hout : s.outgoing = d.session.outgoing)
    (hmax : s.maxPacketSize = d.session.maxPacketSize) : Owes t { d with session := s } owed := by
  obtain ⟨later, howed, hawaits⟩ := h.packets
  exact ⟨h.framing, hmax.trans h.maxPacketSize, later, howed, hout ▸ hawaits⟩

/-- A packet that is sent is owed, too. -/
theorem Owes.send (h : Owes t d owed) (p : Packet) (hwhole : isCut (d.session.send p).1 = false) :
    Owes t (d.step (.send p)) (owed ++ d.sentBy (.send p)) := by
  have hmax : (d.session.send p).2.maxPacketSize = d.session.maxPacketSize :=
    congrArg (·.2.2) (d.session.traits_send p)
  obtain ⟨part, hadds, hout⟩ := d.session.outgoing_send p
  cases hresult : (d.session.send p).1 with
  | error e =>
    rw [hresult] at hadds hwhole
    have hnone : d.sentBy (.send p) = [] := by
      rw [sentBy, hresult]
      rfl
    rw [hnone, List.append_nil]
    cases hadds with
    | nothing intact =>
      rw [List.append_nil] at hout
      exact h.of_outgoing hout hmax
    | cut begins overflows => cases hwhole
  | ok =>
    rw [hresult] at hadds
    have hsent : d.sentBy (.send p) = [p] := by
      rw [sentBy, hresult]
      rfl
    have hfits : p.Fits d.session.maxPacketSize := Session.fits_of_send hresult
    rw [Packet.frame?, Packet.frame_of_fits hfits] at hadds
    cases hadds
    obtain ⟨later, howed, hawaits⟩ := h.packets
    refine ⟨h.framing, hmax.trans h.maxPacketSize, later ++ [p], ?_, ?_⟩
    · rw [hsent, howed, List.append_assoc]
      rfl
    · have hclient : d.client.framing.maxPacketSize = d.session.maxPacketSize := by
        rw [h.framing, h.maxPacketSize]
        rfl
      show d.client.Awaits (d.session.send p).2.outgoing (later ++ [p])
      rw [hout]
      exact hawaits.push (hclient ▸ hfits)

/-- What the client takes is taken off what it is owed. -/
theorem Owes.advance (h : Owes t d owed) {given : List Packet} {c : Client} {l : Link}
    (hadvance : d.client.Advances d.session.link given c l) :
    ∃ owed', owed = given ++ owed' ∧ Owes t ⟨{ d.session with link := l }, c⟩ owed' := by
  obtain ⟨later, howed, hawaits⟩ := h.packets
  obtain ⟨later', hawaits', hmade⟩ := hadvance.owed hawaits
  exact ⟨c.ready ++ later', howed.trans hmade, hadvance.framing.trans h.framing, h.maxPacketSize,
    later', rfl, hawaits'⟩

/-- The packets that the client takes, whether or not it is given them. -/
def taken (d : Dialogue) : Act → List Packet
  | .receive => Client.packetOf (d.client.receive d.session.link).1
  | a => d.collected a

/-- **Whatever one of the two does, the packets sent are taken in order or
still owed.** -/
theorem owes_step (hpass : 1 ≤ t.passLimit.toNat) (hchunk : 1 ≤ t.readChunk.toNat)
    (h : Owes t d owed) (a : Act) (hwhole : ∀ result ∈ d.result? a, isCut result = false) :
    ∃ owed', owed ++ d.sentBy a = d.taken a ++ owed' ∧ Owes t (d.step a) owed' := by
  have hpass' : 1 ≤ d.client.framing.passLimit := by rwa [h.framing]
  have hchunk' : 1 ≤ d.client.framing.readChunk := by rwa [h.framing]
  have hsame : owed ++ [] = [] ++ owed := List.append_nil _
  cases a with
  | bind =>
    refine ⟨owed, hsame, h.of_outgoing ?_ (congrArg (·.2.2) d.session.traits_bind)⟩
    exact congrArg Prod.fst d.session.flow_bind
  | send p => exact ⟨_, rfl, h.send p (hwhole _ rfl)⟩
  | flush =>
    exact ⟨owed, hsame, h.of_outgoing d.session.outgoing_flushPending
      (congrArg (·.2.2) d.session.traits_flushPending)⟩
  | close => exact ⟨owed, hsame, h.of_outgoing rfl rfl⟩
  | receive =>
    obtain ⟨owed', howed, howes⟩ :=
      h.advance (d.client.receive_spec d.session.link hpass' hchunk').1
    exact ⟨owed', (List.append_nil _).trans howed, howes⟩
  | receiveAll =>
    obtain ⟨owed', howed, howes⟩ :=
      h.advance (d.client.receiveAll_spec d.session.link d.session.channel hpass' hchunk').1
    exact ⟨owed', (List.append_nil _).trans howed, howes⟩

/-- Until it is told of the end, the client is given what it takes. -/
theorem taken_eq_of_told (hpass : 1 ≤ d.client.framing.passLimit)
    (hchunk : 1 ≤ d.client.framing.readChunk) (a : Act)
    (htold : ∀ answer ∈ d.told? a, answer.isOk = true) :
    d.taken a = (d.told? a).toList.flatMap fun answer => answer.toOption.getD [] := by
  cases a with
  | receive =>
    simp only [taken, told?]
    cases (d.client.receive d.session.link).1 <;> rfl
  | receiveAll =>
    have hok := htold _ rfl
    rcases (d.client.receiveAll_spec d.session.link d.session.channel hpass hchunk).2.2.2 with
      hgiven | hended
    · simp only [taken, collected, told?, hgiven]
      exact (List.append_nil _).symm
    · rw [hended] at hok
      cases hok
  | bind => rfl
  | send p => rfl
  | flush => rfl
  | close => rfl

theorem owes_run (hpass : 1 ≤ t.passLimit.toNat) (hchunk : 1 ≤ t.readChunk.toNat) (acts : List Act)
    (h : Owes t d owed) (hwhole : ∀ result ∈ d.results acts, isCut result = false)
    (htold : ∀ answer ∈ d.told acts, answer.isOk = true) :
    ∃ owed', owed ++ d.sent acts = d.returned acts ++ owed' ∧ Owes t (d.run acts) owed' := by
  induction acts generalizing d owed with
  | nil => exact ⟨owed, List.append_nil _, h⟩
  | cons a acts ih =>
    have hwhole' (result) (hr : result ∈ d.result? a) : isCut result = false :=
      hwhole result (List.mem_append_left _ (Option.mem_toList.2 hr))
    have htold' (answer) (ha : answer ∈ d.told? a) : answer.isOk = true :=
      htold answer (List.mem_append_left _ (Option.mem_toList.2 ha))
    obtain ⟨owed₁, hnow, howes⟩ := owes_step hpass hchunk h a hwhole'
    obtain ⟨owed₂, hlater, hend⟩ := ih howes
      (fun result hr => hwhole result (List.mem_append_right _ hr))
      (fun answer ha => htold answer (List.mem_append_right _ ha))
    have htaken := taken_eq_of_told (by rwa [h.framing]) (by rwa [h.framing]) a htold'
    refine ⟨owed₂, ?_, hend⟩
    calc owed ++ (d.sentBy a ++ (d.step a).sent acts)
        = d.taken a ++ (owed₁ ++ (d.step a).sent acts) := by
          rw [← List.append_assoc, hnow, List.append_assoc]
      _ = (d.taken a ++ (d.step a).returned acts) ++ owed₂ := by
          rw [hlater, List.append_assoc]
      _ = d.returned (a :: acts) ++ owed₂ := by
          rw [htaken, returned, returned, told, List.flatMap_append]

/-! ### The end -/

/-- A client that is told of the end holds nothing, and has emptied the
socket. -/
theorem empty_of_told_end (hpass : 1 ≤ d.client.framing.passLimit)
    (hchunk : 1 ≤ d.client.framing.readChunk) {call : Act} {e : ChannelError}
    (hend : d.told? call = some (.error e)) :
    (d.step call).client.ready = [] ∧ (d.step call).session.link.toClient.toList = [] ∧
      d.taken call = d.collected call ∧ d.sentBy call = [] ∧ d.result? call = none ∧
      (d.step call).session.pending = d.session.pending := by
  cases call with
  | receive =>
    have hclosed : (d.client.receive d.session.link).1 = .closed := by
      cases hr : (d.client.receive d.session.link).1 with
      | closed => rfl
      | packet p => simp [told?, hr] at hend
      | nothing => simp [told?, hr] at hend
    obtain ⟨hready, hempty⟩ := (d.client.receive_spec d.session.link hpass hchunk).2 hclosed
    refine ⟨hready, hempty, ?_, rfl, rfl, rfl⟩
    rw [taken, hclosed]
    rfl
  | receiveAll =>
    obtain ⟨-, hready, hempty, -⟩ :=
      d.client.receiveAll_spec d.session.link d.session.channel hpass hchunk
    exact ⟨hready, hempty, rfl, rfl, rfl, rfl⟩
  | bind => cases hend
  | send p => cases hend
  | flush => cases hend
  | close => cases hend

/-- **What a client was given when it is told of the end.** Whatever was sent,
queued, flushed and taken before, if no failed send has left a part of its
frame, and up to this call no call told of the end: the packets that have
reached the socket whole are those that the client was given, in order, and
behind them those that this last call had collected. So the client has been
given them all exactly if this call had collected none; and where nothing is
queued any more, all that were sent have reached the socket. -/
theorem returned_append_collected {t : TransportSettings} (hpass : 1 ≤ t.passLimit.toNat)
    (hchunk : 1 ≤ t.readChunk.toNat) (channel : ChannelId) (pid : Pid) (uid : Uid)
    (tokenType : Int32) (rule : SocketRule) (acts : List Act) (call : Act) (e : ChannelError)
    (hwhole : ∀ result ∈ (opened channel pid uid tokenType t rule).results acts,
      isCut result = false)
    (htold : ∀ answer ∈ (opened channel pid uid tokenType t rule).told acts, answer.isOk = true)
    (hend : ((opened channel pid uid tokenType t rule).run acts).told? call = some (.error e)) :
    let start := opened channel pid uid tokenType t rule
    let d := start.run acts
    ∃ reached, Reached t.maxPacketSize (start.sent acts) reached d.session.pending.bytes.toList ∧
      reached = start.returned acts ++ d.collected call ∧
      (start.returned acts = reached ↔ d.collected call = []) ∧
      (d.session.pending.isEmpty = true → reached = start.sent acts) := by
  intro start d
  obtain ⟨owed, hsent, howes⟩ :=
    owes_run hpass hchunk acts (owes_opened channel pid uid tokenType rule) hwhole htold
  have hpass' : 1 ≤ d.client.framing.passLimit := by rwa [howes.framing]
  have hchunk' : 1 ≤ d.client.framing.readChunk := by rwa [howes.framing]
  obtain ⟨hready, hempty, htaken, hnone, hresult, hpending⟩ :=
    empty_of_told_end hpass' hchunk' hend
  obtain ⟨owed', hmade, howes'⟩ := owes_step hpass hchunk howes call (by rw [hresult]; nofun)
  obtain ⟨later, hlater, held, -, hheld, hstream, hfit⟩ := howes'.packets
  rw [hready, List.nil_append] at hlater
  rw [Session.outgoing, hempty, List.nil_append, hpending] at hstream
  rw [howes'.framing] at hheld hfit
  rw [hnone, List.append_nil, htaken, hlater] at hmade
  have hall : start.sent acts = (start.returned acts ++ d.collected call) ++ later := by
    rw [List.append_assoc, ← hmade]
    exact hsent
  refine ⟨_, ⟨later, held, hall, hstream, hheld⟩, rfl, ?_, fun hqueue => ?_⟩
  · exact List.self_eq_append_right
  · -- what the client holds of the stream is then all of it, and no whole frame
    have hqueued : d.session.pending.bytes.toList = [] := (ByteQueue.isEmpty_iff _).1 hqueue
    rw [hqueued, List.append_nil] at hstream
    have hnothing : later = [] := eq_nil_of_unfinished_stream hfit (hstream ▸ hheld)
    rw [hall, hnothing, List.append_nil]

/-- A fresh session, whose socket takes three bytes and then none, and so on,
and a client that reads up to sixteen bytes and takes one frame to a pass. -/
def byThrees : Dialogue :=
  opened 0 100 1000 0 { retryLimit := 1, readChunk := 16, passLimit := 1 }
    ⟨fun attempt _ _ => if attempt % 2 = 0 then 3 else 0⟩

/-- Three packets are sent, and the channel is closed before the last has
reached the socket whole. -/
def threeSends : List Act :=
  [.send ⟨1, [7]⟩, .flush, .receive, .flush, .receive, .send ⟨2, []⟩, .send ⟨3, []⟩,
    .flush, .flush, .flush, .close]

/-- Of three packets the first is given, the second is lost, and the third has
not reached the socket. -/
theorem second_of_three_is_lost :
    (∀ result ∈ byThrees.results threeSends, isCut result = false) ∧
      (∀ answer ∈ byThrees.told threeSends, answer.isOk = true) ∧
      (byThrees.run threeSends).told? .receiveAll = some (.error (.closed 0)) ∧
      byThrees.sent threeSends = [⟨1, [7]⟩, ⟨2, []⟩, ⟨3, []⟩] ∧
      byThrees.returned threeSends = [⟨1, [7]⟩] ∧
      (byThrees.run threeSends).collected .receiveAll = [⟨2, []⟩] ∧
      Reached 256 (byThrees.sent threeSends) [⟨1, [7]⟩, ⟨2, []⟩] [0, 0, 0, 0] := by
  have hwhole : ∀ result ∈ byThrees.results threeSends, isCut result = false := by
    decide +kernel
  have htold : ∀ answer ∈ byThrees.told threeSends, answer.isOk = true := by decide +kernel
  have hend : (byThrees.run threeSends).told? .receiveAll = some (.error (.closed 0)) := by
    decide +kernel
  have hreturned : byThrees.returned threeSends = [⟨1, [7]⟩] := by decide +kernel
  have hcollected : (byThrees.run threeSends).collected .receiveAll = [⟨2, []⟩] := by
    decide +kernel
  have hqueued : (byThrees.run threeSends).session.pending.bytes.toList = [0, 0, 0, 0] := by
    decide +kernel
  obtain ⟨reached, hreached, hmade, -, -⟩ := returned_append_collected (by decide) (by decide)
    0 100 1000 0 _ threeSends .receiveAll _ hwhole htold hend
  have hboth : reached = [⟨1, [7]⟩, ⟨2, []⟩] :=
    hmade.trans (congrArg₂ (· ++ ·) hreturned hcollected)
  have hreached : Reached 256 (byThrees.sent threeSends) reached
      (byThrees.run threeSends).session.pending.bytes.toList := hreached
  rw [hboth, hqueued] at hreached
  exact ⟨hwhole, htold, hend, by decide +kernel, hreturned, hcollected, hreached⟩

/-- **A client that asks for all that is there loses what it finds before the
end.** -/
theorem collected_is_lost :
    let start := opened 0 100 1000 0 {} default
    let acts : List Act := [.send ⟨1, [7]⟩, .close]
    start.sent acts = [⟨1, [7]⟩] ∧ (start.run acts).session.pending.isEmpty = true ∧
      (start.run acts).told? .receiveAll = some (.error (.closed 0)) ∧
      start.returned (acts ++ [.receiveAll, .receiveAll, .receive]) = [] := by
  decide +kernel

end Dialogue
end SensorBroker
