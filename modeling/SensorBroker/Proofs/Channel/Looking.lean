/-
# One look of a watcher

A watcher that looks reads all there is, in reads that are neither empty nor
longer than they may be; what is no longer than one read is read at once. It
counts the packets that it takes. At an open channel it finds the client gone
exactly if it is, as long as a read has room for a byte.

Key theorems: `Link.pieces_bounds`, `Watcher.framesReceived_run`,
`Watcher.run_reads_all`, `Watcher.status_run_of_open`.
-/
import SensorBroker.Proofs.Channel.Following
import SensorBroker.Proofs.Channel.Peer
import SensorBroker.Proofs.Channel.Traffic
import SensorBroker.Proofs.Wire.PassLimit

namespace SensorBroker

/-! ### Reads at the broker's end -/

namespace Link
variable {l : Link} {n : Nat}

/-- A read at the broker's end only takes bytes that wait there. -/
theorem readAtBroker_keeps {l' : Link} {r : ReadResult} (h : l.readAtBroker n = (r, l')) :
    l'.clientGone = l.clientGone ∧ l'.shut = l.shut := by
  unfold readAtBroker at h
  split_ifs at h
  all_goals
    cases h
    exact ⟨rfl, rfl⟩

theorem readAtBroker_bytes {l' : Link} {run : Bytes} (h : l.readAtBroker n = (.bytes run, l')) :
    run ≠ [] ∧ run.length ≤ n ∧ run ++ l'.toBroker.toList = l.toBroker.toList := by
  unfold readAtBroker at h
  split at h
  · split at h <;> cases h
  · next hempty =>
    rw [ByteQueue.isEmpty_iff] at hempty
    split at h
    · cases h
    · next hn =>
      cases h
      refine ⟨fun hnone => ?_, ?_, l.toBroker.toList_split n⟩
      · rw [ByteQueue.split_fst] at hnone
        exact (List.take_eq_nil_iff.1 hnone).elim hn hempty
      · rw [ByteQueue.split_fst]
        exact List.length_take_le _ _

/-- A read that has room, and brings no bytes, has found none; it says whether
the client is gone. -/
theorem readAtBroker_of_empty {l' : Link} {r : ReadResult}
    (hroom : 1 ≤ n ∨ l.toBroker.toList = []) (h : l.readAtBroker n = (r, l'))
    (hr : ∀ run, r ≠ .bytes run) :
    l.toBroker.toList = [] ∧ r = if l.clientGone then .ended else .nothing := by
  unfold readAtBroker at h
  split at h
  · next hempty => exact ⟨(ByteQueue.isEmpty_iff _).1 hempty, ((Prod.mk.inj h).1).symm⟩
  · next hempty =>
    rw [ByteQueue.isEmpty_iff] at hempty
    have hn := hroom.resolve_right hempty
    rw [if_neg (by omega)] at h
    exact absurd ((Prod.mk.inj h).1).symm (hr _)

/-- No read is empty, and none is longer than it may be. -/
theorem pieces_bounds (l : Link) (n : Nat) : ∀ run ∈ l.pieces n, run ≠ [] ∧ run.length ≤ n := by
  fun_induction Link.pieces l n with
  | case1 l run l' hread ih =>
    obtain ⟨hne, hlen, -⟩ := readAtBroker_bytes hread
    exact List.forall_mem_cons.2 ⟨⟨hne, hlen⟩, ih⟩
  | case2 => nofun
  | case3 => nofun

theorem pieces_of_empty (h : l.toBroker.toList = []) (n : Nat) : l.pieces n = [] := by
  have hread : l.readAtBroker n = (if l.clientGone then .ended else .nothing, l) := by
    rw [readAtBroker, if_pos ((ByteQueue.isEmpty_iff _).2 h)]
  refine pieces_eq_nil hread ?_
  split_ifs
  · exact .inr rfl
  · exact .inl rfl

/-- What is no longer than a read is read at once. -/
theorem pieces_of_short {run : Bytes} (h : l.toBroker.toList = run) (hne : run ≠ [])
    (hlen : run.length ≤ n) : l.pieces n = [run] := by
  have hsome : ¬l.toBroker.isEmpty = true := by
    rwa [ByteQueue.isEmpty_iff, h]
  have hn : n ≠ 0 := by
    have hpos := List.length_pos_iff.2 hne
    omega
  obtain ⟨hrun, hrest⟩ := ByteQueue.split_of_length_le (q := l.toBroker) (h.symm ▸ hlen)
  have hread : l.readAtBroker n
      = (.bytes run, { l with toBroker := (l.toBroker.split n).2 }) := by
    rw [readAtBroker, if_neg hsome, if_neg hn, hrun, h]
  rw [pieces_of_bytes hread, pieces_of_empty hrest]

/-- A client that writes does not go away. -/
theorem clientGone_act_write (l : Link) (run : Bytes) :
    (l.act (.write run)).clientGone = l.clientGone := by
  simp only [act, writeAtClient]
  split_ifs <;> rfl

theorem act_write_of_open {run : Bytes} (hopen : l.shut = false) (hne : run ≠ []) :
    l.act (.write run) = { l with toBroker := l.toBroker.push run } := by
  have hwrite : l.writeAtClient run = .ok { l with toBroker := l.toBroker.push run } := by
    rw [writeAtClient, if_neg (by rwa [List.isEmpty_iff]), hopen, if_neg Bool.false_ne_true]
  simp only [act, hwrite]

end Link

/-! ### A look -/

namespace Watcher
variable {w : Watcher} {s : Session}

theorem run_of_closed (h : s.isClosed = true) (w : Watcher) : w.run s = ⟨[], w, s, .closed⟩ := by
  rw [Watcher.run, if_pos h]

/-- What a look leaves as it was. -/
theorem run_keeps (w : Watcher) (s : Session) :
    (w.run s).watcher.framing = w.framing ∧
      (w.run s).session.link.clientGone = s.link.clientGone ∧
      (w.run s).session.link.shut = s.link.shut := by
  fun_induction Watcher.run w s with
  | case1 => exact ⟨rfl, rfl, rfl⟩
  | case2 => exact ⟨rfl, rfl, rfl⟩
  | case3 => exact ⟨rfl, rfl, rfl⟩
  | case4 w s _ chunk l hread absorbed later ih =>
    obtain ⟨hgone, hshut⟩ := Link.readAtBroker_keeps hread
    exact ⟨ih.1, ih.2.1.trans hgone, ih.2.2.trans hshut⟩

/-- **Each packet that a look brings is counted.** -/
theorem framesReceived_run (w : Watcher) (s : Session) :
    (w.run s).session.counters.framesReceived
      = s.counters.framesReceived + (w.run s).packets.length := by
  fun_induction Watcher.run w s with
  | case1 => rfl
  | case2 => rfl
  | case3 => rfl
  | case4 w s _ chunk l _ absorbed later ih =>
    rw [List.length_append, ← Nat.add_assoc]
    exact ih

/-- **A look reads all there is**, and finds the client gone only if it is. -/
theorem run_reads_all (hopen : s.isClosed = false)
    (hroom : 1 ≤ w.framing.readChunk ∨ s.link.toBroker.toList = []) :
    (w.run s).session.link.toBroker.toList = [] ∧
      (s.link.clientGone = false → (w.run s).status = .watching) := by
  fun_induction Watcher.run w s with
  | case1 w s hclosed => exact absurd hclosed (Bool.eq_false_iff.1 hopen)
  | case2 w s _ l hread =>
    exact ⟨(Link.readAtBroker_of_empty hroom hread (fun _ h => by cases h)).1, fun _ => rfl⟩
  | case3 w s _ l hread =>
    obtain ⟨hempty, hsays⟩ := Link.readAtBroker_of_empty hroom hread fun _ h => by cases h
    refine ⟨hempty, fun hthere => ?_⟩
    rw [hthere] at hsays
    cases hsays
  | case4 w s _ chunk l hread absorbed later ih =>
    have hlater : 1 ≤ w.framing.readChunk ∨ l.toBroker.toList = [] := by
      obtain ⟨hne, -, hsplit⟩ := Link.readAtBroker_bytes hread
      refine hroom.imp_right fun hnothing => ?_
      rw [hnothing] at hsplit
      exact absurd (List.append_eq_nil_iff.1 hsplit).1 hne
    rw [← (Link.readAtBroker_keeps hread).1]
    exact ih hopen hlater

theorem status_run_of_open (hopen : s.isClosed = false)
    (hroom : 1 ≤ w.framing.readChunk ∨ s.link.toBroker.toList = []) :
    (w.run s).status = if s.link.clientGone then .hungUp else .watching := by
  cases hgone : s.link.clientGone with
  | true => exact status_run_of_gone hopen hgone
  | false => exact (run_reads_all hopen hroom).2 hgone

end Watcher

end SensorBroker
