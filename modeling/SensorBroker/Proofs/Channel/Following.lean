/-
# What a client is given of the reads that it makes

A client asks for packets until none comes, then bytes arrive, and it asks
again: so it makes a read of just these bytes (`Client.Follows`). What it is
given in all is what a receiver with its framing takes out of these reads, in
order; it is told of the end of the stream once it has been given that.

Key definitions: `Client.Answered`, `Client.Follows`, `Link.Drained`.
Key theorems: `Client.Follows.unique`, `Client.follows_absorbAll`.
-/
import SensorBroker.Channel.Client
import SensorBroker.Proofs.Wire.Reassembly

namespace SensorBroker

/-! ### The socket -/

/-- Who asks for as many bytes as there are takes them all. -/
theorem ByteQueue.split_of_length_le {q : ByteQueue} {n : Nat} (h : q.toList.length ≤ n) :
    (q.split n).1 = q.toList ∧ (q.split n).2.toList = [] := by
  rw [split_fst, split_snd]
  exact ⟨List.take_of_length_le h, List.drop_eq_nil_of_le h⟩

namespace Link

/-- The client has read everything, and the channel is open. -/
def Drained (l : Link) : Prop :=
  l.toClient.toList = [] ∧ l.shut = false

/-- The socket when bytes have arrived for the client. -/
def arrive (l : Link) (run : Bytes) : Link :=
  { l with toClient := l.toClient.push run }

theorem drained_fresh (rule : SocketRule) : (fresh rule).Drained :=
  ⟨rfl, rfl⟩

variable {l : Link} {n : Nat} {run : Bytes}

theorem Drained.readAtClient (hl : l.Drained) (n : Nat) : l.readAtClient n = (.nothing, l) := by
  rw [Link.readAtClient, if_pos ((ByteQueue.isEmpty_iff _).2 hl.1), hl.2, if_neg Bool.false_ne_true]

theorem Drained.readAtClient_shutDown (hl : l.Drained) (n : Nat) :
    l.shutDown.readAtClient n = (.ended, l.shutDown) := by
  have hempty : l.shutDown.toClient.isEmpty = true := (ByteQueue.isEmpty_iff _).2 hl.1
  rw [Link.readAtClient, if_pos hempty]
  rfl

/-- What arrives, and is no longer than a read, is read at once. -/
theorem Drained.readAtClient_arrive (hl : l.Drained) (hne : run ≠ []) (hlen : run.length ≤ n) :
    ∃ l', (l.arrive run).readAtClient n = (.bytes run, l') ∧ l'.Drained := by
  have hthere : (l.arrive run).toClient.toList = run := by
    rw [arrive, ByteQueue.toList_push, hl.1, List.nil_append]
  have hsome : ¬(l.arrive run).toClient.isEmpty = true := by
    rwa [ByteQueue.isEmpty_iff, hthere]
  have hn : n ≠ 0 := by
    have hpos := List.length_pos_iff.2 hne
    omega
  obtain ⟨hrun, hrest⟩ := ByteQueue.split_of_length_le (q := (l.arrive run).toClient)
    (hthere.symm ▸ hlen)
  refine ⟨{ l.arrive run with toClient := ((l.arrive run).toClient.split n).2 }, ?_, hrest, hl.2⟩
  rw [Link.readAtClient, if_neg hsome, if_neg hn, hrun, hthere]

end Link

namespace Client

/-! ### One request -/

theorem receive_of_ready {c : Client} {p : Packet} {rest : List Packet}
    (h : c.ready = p :: rest) (l : Link) :
    c.receive l = (.packet p, { c with ready := rest }, l) := by
  rw [Client.receive]
  split
  · next h' =>
    cases h.symm.trans h'
    rfl
  · next h' => cases h.symm.trans h'

/-- Where no packet is ready, a read decides. -/
theorem receive_of_none_ready {c : Client} (h : c.ready = []) (l : Link) :
    c.receive l =
      match l.readAtClient c.framing.readChunk with
      | (.nothing, l) => (.nothing, c, l)
      | (.ended, l) => (.closed, c, l)
      | (.bytes run, l) => (c.absorb run).receive l := by
  rw [Client.receive]
  split
  · next h' => cases h.symm.trans h'
  · split
    all_goals
      next hread => rw [hread]

/-! ### Request after request -/

/-- A client that asks for packets until none comes is given these. -/
inductive Answered : Client → Link → List Packet → Client → Link → Prop
  | none {c c' : Client} {l l' : Link} (asked : c.receive l = (.nothing, c', l')) :
    Answered c l [] c' l'
  | packet {c c' c'' : Client} {l l' l'' : Link} {p : Packet} {packets : List Packet}
    (asked : c.receive l = (.packet p, c', l')) (later : Answered c' l' packets c'' l'') :
    Answered c l (p :: packets) c'' l''

/-- A client is given these packets in all where each of some runs of bytes
arrives when it has asked in vain for more, so that it makes these reads. -/
inductive Follows : Client → Link → List Bytes → List Packet → Client → Link → Prop
  | done (c : Client) (l : Link) : Follows c l [] [] c l
  | read {c c' c'' : Client} {l l' l'' : Link} {run : Bytes} {reads : List Bytes}
    {packets packets' : List Packet} (now : Answered c (l.arrive run) packets c' l')
    (later : Follows c' l' reads packets' c'' l'') :
    Follows c l (run :: reads) (packets ++ packets') c'' l''

variable {c c₁ c₂ : Client} {l l₁ l₂ : Link} {packets packets₁ packets₂ : List Packet}
  {reads : List Bytes}

theorem Answered.unique (h₁ : Answered c l packets₁ c₁ l₁) (h₂ : Answered c l packets₂ c₂ l₂) :
    packets₁ = packets₂ ∧ c₁ = c₂ ∧ l₁ = l₂ := by
  induction h₁ generalizing packets₂ with
  | none asked =>
    cases h₂ with
    | none asked' =>
      cases asked.symm.trans asked'
      exact ⟨rfl, rfl, rfl⟩
    | packet asked' _ => cases asked.symm.trans asked'
  | packet asked _ ih =>
    cases h₂ with
    | none asked' => cases asked.symm.trans asked'
    | packet asked' later' =>
      cases asked.symm.trans asked'
      obtain ⟨rfl, rfl, rfl⟩ := ih later'
      exact ⟨rfl, rfl, rfl⟩

/-- **What a client is given is settled by the reads that it makes.** -/
theorem Follows.unique (h₁ : Follows c l reads packets₁ c₁ l₁)
    (h₂ : Follows c l reads packets₂ c₂ l₂) : packets₁ = packets₂ ∧ c₁ = c₂ ∧ l₁ = l₂ := by
  induction h₁ generalizing packets₂ with
  | done =>
    cases h₂
    exact ⟨rfl, rfl, rfl⟩
  | read now _ ih =>
    cases h₂ with
    | read now' later' =>
      obtain ⟨rfl, rfl, rfl⟩ := now.unique now'
      obtain ⟨rfl, rfl, rfl⟩ := ih later'
      exact ⟨rfl, rfl, rfl⟩

/-- Only what the first request does is seen of a client. -/
theorem Answered.of_receive_eq {c' : Client} {l' : Link} (hsame : c.receive l = c'.receive l')
    (h : Answered c' l' packets c₁ l₁) : Answered c l packets c₁ l₁ := by
  cases h with
  | none asked => exact .none (hsame.trans asked)
  | packet asked later => exact .packet (hsame.trans asked) later

/-- What is ready is handed out, one packet to a request. -/
theorem answered_ready (hl : l.Drained) : ∀ (packets : List Packet) {c : Client},
    c.ready = packets → Answered c l packets { c with ready := [] } l
  | [], c, h => by
    have hsame : { c with ready := [] } = c := by rw [← h]
    rw [hsame]
    refine .none ?_
    rw [receive_of_none_ready h, hl.readAtClient]
  | _ :: packets, _, h => .packet (receive_of_ready h l) (answered_ready hl packets rfl)

/-- One read, and the packets that it brings. -/
theorem answered_arrive {run : Bytes} (hready : c.ready = []) (hl : l.Drained) (hne : run ≠ [])
    (hlen : run.length ≤ c.framing.readChunk) :
    ∃ l', Answered c (l.arrive run) (c.framing.absorb c.buffer run).packets
        { c with buffer := (c.framing.absorb c.buffer run).buffer } l' ∧ l'.Drained := by
  obtain ⟨l', hread, hl'⟩ := hl.readAtClient_arrive hne hlen
  have hgiven : Answered (c.absorb run) l' (c.framing.absorb c.buffer run).packets
      { c.absorb run with ready := [] } l' := by
    refine answered_ready hl' _ ?_
    rw [absorb, hready, List.nil_append]
  have hafter : { c.absorb run with ready := [] }
      = { c with buffer := (c.framing.absorb c.buffer run).buffer } := by
    rw [absorb, ← hready]
  have hsame : c.receive (l.arrive run) = (c.absorb run).receive l' := by
    rw [receive_of_none_ready hready, hread]
  exact ⟨l', hafter ▸ hgiven.of_receive_eq hsame, hl'⟩

/-- **A client is given what its reads bring, in order**, then nothing, and is
told of the end when the channel ends. -/
theorem follows_absorbAll : ∀ (reads : List Bytes) {c : Client} {l : Link}, c.ready = [] →
    l.Drained → (∀ run ∈ reads, run ≠ [] ∧ run.length ≤ c.framing.readChunk) →
    ∃ c' l', Follows c l reads (c.framing.absorbAll c.buffer reads).packets c' l' ∧
      (c'.receive l').1 = .nothing ∧ (c'.receive l'.shutDown).1 = .closed
  | [], c, l, hready, hl, _ => by
    refine ⟨c, l, .done c l, ?_, ?_⟩
    · rw [receive_of_none_ready hready, hl.readAtClient]
    · rw [receive_of_none_ready hready, hl.readAtClient_shutDown]
  | run :: reads, c, l, hready, hl, hruns => by
    obtain ⟨⟨hne, hlen⟩, hlater⟩ := List.forall_mem_cons.1 hruns
    obtain ⟨l', hnow, hl'⟩ := answered_arrive hready hl hne hlen
    obtain ⟨c'', l'', hfollows, hend⟩ := follows_absorbAll reads
      (c := { c with buffer := (c.framing.absorb c.buffer run).buffer }) hready hl' hlater
    exact ⟨c'', l'', .read hnow hfollows, hend⟩

end Client
end SensorBroker
