/-
# Each destination of a multicast is on its own

A frame that goes to a list of channels is sent to them in turn, and each send
leaves its mark on the session that it is made to: the queue, the state and the
counters are others afterwards. But a send reads and changes no other session.
So what comes of the sends to one channel, and what becomes of its session, is
what would come of sending it the frame as often as it is listed, with nothing
sent to anybody else in between (`Directory.sendTimes`). Which other channels
are listed, where they stand and whether they fail makes no difference.

The induction is over the list. It is stated for all channels at once, since the
head of the list is the next send for one of them, and for all others a send
that they do not notice (`Directory.sendFrame_congr`,
`Directory.get?_sendFrame_of_ne`).

Key definitions: `Multicast.ofOutcomes`, `Multicast.only`, `Directory.sendTimes`.
Key theorems: `Directory.sendTimes_congr`, `Directory.sendEach_eq`,
`Directory.multicast_each_alone`.
-/
import SensorBroker.Proofs.Channel.Traffic

namespace SensorBroker

/-! ### What a report says -/

namespace Multicast

/-- The report of some sends. A send stands in just one of the two lists, each of
which is in the order of the sends. -/
def ofOutcomes (outcomes : List (ChannelId × Except ChannelError Unit)) : Multicast where
  delivered := outcomes.filterMap fun
    | (id, .ok _) => some id
    | (_, .error _) => none
  failed := outcomes.filterMap fun
    | (_, .ok _) => none
    | (id, .error e) => some (id, e)

/-- What a report says of one channel. -/
def only (m : Multicast) (id : ChannelId) : Multicast where
  delivered := m.delivered.filter (· = id)
  failed := m.failed.filter (·.1 = id)

/-- To report only the sends to one channel is to leave out what is reported of
the others. -/
theorem only_ofOutcomes (id : ChannelId) : ∀ outcomes : List (ChannelId × Except ChannelError Unit),
    (ofOutcomes outcomes).only id = ofOutcomes (outcomes.filter (·.1 = id))
  | [] => rfl
  | (other, result) :: rest => by
    have ih := only_ofOutcomes id rest
    simp only [only, ofOutcomes, Multicast.mk.injEq] at ih ⊢
    by_cases hid : other = id
    · cases result <;> simp [hid, ih.1, ih.2]
    · cases result <;> simp [hid, ih.1, ih.2]

end Multicast

namespace Directory

variable {d : Directory} {cs cs' : Channels} {id other : ChannelId}

/-! ### One send -/

/-- A send changes no session but the one that it is made to. -/
theorem get?_sendFrame_of_ne (d : Directory) (cs : Channels) (frame : Bytes) (h : other ≠ id) :
    (d.sendFrame cs id frame).2.get? other = cs.get? other := by
  unfold sendFrame Channels.sendFrame Channels.act
  split_ifs
  · split
    · rfl
    · exact Channels.get?_update_of_ne _ _ h
  · rfl

/-- A send reads no session but the one that it is made to. -/
theorem sendFrame_congr (d : Directory) (h : cs.get? id = cs'.get? id) (frame : Bytes) :
    (d.sendFrame cs id frame).1 = (d.sendFrame cs' id frame).1 ∧
      (d.sendFrame cs id frame).2.get? id = (d.sendFrame cs' id frame).2.get? id := by
  unfold sendFrame Channels.sendFrame Channels.act
  rw [← h]
  split_ifs
  · cases hs : cs.get? id with
    | none => exact ⟨rfl, h⟩
    | some s =>
      refine ⟨rfl, ?_⟩
      rw [Channels.get?_update_self, Channels.get?_update_self, h]
  · exact ⟨rfl, h⟩

/-! ### Sending to one channel -/

/-- What comes of sending a frame to one channel so many times in a row, and the
sessions afterwards. -/
def sendTimes (d : Directory) (frame : Bytes) (id : ChannelId) :
    Nat → Channels → List (Except ChannelError Unit) × Channels
  | 0, cs => ([], cs)
  | n + 1, cs =>
    let now := d.sendFrame cs id frame
    let later := sendTimes d frame id n now.2
    (now.1 :: later.1, later.2)

/-- Sends to a channel depend on its session only. -/
theorem sendTimes_congr (d : Directory) (frame : Bytes) : ∀ (n : Nat) {cs cs' : Channels},
    cs.get? id = cs'.get? id →
      (d.sendTimes frame id n cs).1 = (d.sendTimes frame id n cs').1 ∧
      (d.sendTimes frame id n cs).2.get? id = (d.sendTimes frame id n cs').2.get? id
  | 0, _, _, h => ⟨rfl, h⟩
  | n + 1, cs, cs', h => by
    obtain ⟨hresult, hsession⟩ := d.sendFrame_congr h frame
    obtain ⟨hresults, hsessions⟩ := sendTimes_congr d frame n hsession
    exact ⟨congrArg₂ List.cons hresult hresults, hsessions⟩

/-! ### Sending to a list of channels -/

/-- What comes of sending to the channels of a list, told channel by channel. -/
theorem sendEach_eq (d : Directory) (frame : Bytes) : ∀ (ids : List ChannelId) (cs : Channels),
    ∃ outcomes : List (ChannelId × Except ChannelError Unit),
      outcomes.map Prod.fst = ids ∧ (d.sendEach frame ids cs).1 = .ofOutcomes outcomes ∧
      ∀ id, outcomes.filter (·.1 = id)
          = (d.sendTimes frame id (ids.count id) cs).1.map (id, ·) ∧
        (d.sendEach frame ids cs).2.get? id
          = (d.sendTimes frame id (ids.count id) cs).2.get? id
  | [], _ => ⟨[], rfl, rfl, fun _ => ⟨rfl, rfl⟩⟩
  | first :: rest, cs => by
    rcases hsend : d.sendFrame cs first frame with ⟨result, cs'⟩
    obtain ⟨outcomes, hids, hreport, heach⟩ := sendEach_eq d frame rest cs'
    refine ⟨(first, result) :: outcomes, congrArg (first :: ·) hids, ?_, fun id => ?_⟩
    · rw [sendEach, hsend]
      cases result with
      | ok _ => simp [hreport, Multicast.ofOutcomes]
      | error e => simp [hreport, Multicast.ofOutcomes]
    · have hlater : (d.sendEach frame (first :: rest) cs).2 = (d.sendEach frame rest cs').2 := by
        rw [sendEach, hsend]
        cases result <;> rfl
      obtain ⟨hresults, hsession⟩ := heach id
      rw [hlater, hsession]
      by_cases hid : first = id
      · -- the first send is the next for this channel
        subst hid
        rw [List.count_cons_self, sendTimes, hsend]
        simp [hresults]
      · -- and none of the business of any other
        have hsame : cs'.get? id = cs.get? id := by
          have hother := d.get?_sendFrame_of_ne cs frame (Ne.symm hid)
          rwa [hsend] at hother
        obtain ⟨hresults', hsession'⟩ := d.sendTimes_congr frame (rest.count id) hsame
        rw [List.count_cons_of_ne hid, hsession', ← hresults']
        simp [hid, hresults]

/-- A channel that is in two lists equally often fares alike in both. -/
theorem sendEach_congr (d : Directory) (frame : Bytes) (cs : Channels) {ids ids' : List ChannelId}
    (h : ids'.count id = ids.count id) :
    (d.sendEach frame ids' cs).1.only id = (d.sendEach frame ids cs).1.only id ∧
      (d.sendEach frame ids' cs).2.get? id = (d.sendEach frame ids cs).2.get? id := by
  obtain ⟨outcomes, -, hreport, heach⟩ := d.sendEach_eq frame ids cs
  obtain ⟨outcomes', -, hreport', heach'⟩ := d.sendEach_eq frame ids' cs
  constructor
  · rw [hreport, hreport', Multicast.only_ofOutcomes, Multicast.only_ofOutcomes, (heach id).1,
      (heach' id).1, h]
  · rw [(heach id).2, (heach' id).2, h]

/-! ### A packet -/

theorem multicast_of_not_fits {p : Packet} {max : UInt32} (h : ¬ p.Fits max) (d : Directory)
    (cs : Channels) (ids : List ChannelId) :
    d.multicast cs ids p max = (.error (.oversize ⟨p.payload.length, max⟩), cs) := by
  have hframe : p.frame? max = .error (.oversize ⟨p.payload.length, max⟩) := by
    rw [Packet.frame?, Packet.frame]
    simp only [if_neg (show ¬ p.payload.length ≤ max.toNat from h)]
  rw [multicast, hframe]

theorem multicast_of_fits {p : Packet} {max : UInt32} (h : p.Fits max) (d : Directory)
    (cs : Channels) (ids : List ChannelId) :
    d.multicast cs ids p max
      = (.ok (d.sendEach p.bytes ids cs).1, (d.sendEach p.bytes ids cs).2) := by
  rw [multicast, Packet.frame?, Packet.frame_of_fits h]

/-- **Each destination of a multicast is on its own.** Whatever the table, the
sessions and the list are: a packet that does not fit is sent to nobody, and that
is the only error. Otherwise there is one outcome for each place of the list, in
order, and each is reported as delivered or as failed. The outcomes for one
channel, and its session afterwards, are those of sending the frame to it alone
as often as it is listed. So a session that is not listed is as it was; and in
any other list that has a channel equally often, the same is reported of that
channel and its session comes out the same. -/
theorem multicast_each_alone (d : Directory) (cs : Channels) (ids : List ChannelId) (p : Packet)
    (max : UInt32) :
    ((∃ e, (d.multicast cs ids p max).1 = .error e) ↔ max.toNat < p.payload.length) ∧
    (max.toNat < p.payload.length →
      d.multicast cs ids p max = (.error (.oversize ⟨p.payload.length, max⟩), cs)) ∧
    (p.payload.length ≤ max.toNat → ∃ outcomes : List (ChannelId × Except ChannelError Unit),
      outcomes.map Prod.fst = ids ∧
      (d.multicast cs ids p max).1 = .ok (.ofOutcomes outcomes) ∧
      ∀ id,
        outcomes.filter (·.1 = id)
          = (d.sendTimes p.bytes id (ids.count id) cs).1.map (id, ·) ∧
        (d.multicast cs ids p max).2.get? id
          = (d.sendTimes p.bytes id (ids.count id) cs).2.get? id) ∧
    (∀ id, id ∉ ids → (d.multicast cs ids p max).2.get? id = cs.get? id) ∧
    ∀ ids' id, ids'.count id = ids.count id →
      (d.multicast cs ids' p max).1.map (·.only id) = (d.multicast cs ids p max).1.map (·.only id) ∧
      (d.multicast cs ids' p max).2.get? id = (d.multicast cs ids p max).2.get? id := by
  by_cases hfits : p.Fits max
  · have hsize : p.payload.length ≤ max.toNat := hfits
    simp only [multicast_of_fits hfits, reduceCtorEq, exists_false, Nat.not_lt.2 hsize,
      false_implies, true_and, Except.ok.injEq]
    refine ⟨fun _ => d.sendEach_eq p.bytes ids cs, fun id hid => ?_, fun ids' id hcount => ?_⟩
    · obtain ⟨outcomes, -, -, heach⟩ := d.sendEach_eq p.bytes ids cs
      rw [(heach id).2, List.count_eq_zero_of_not_mem hid, sendTimes]
    · obtain ⟨hreport, hsession⟩ := d.sendEach_congr p.bytes cs hcount
      exact ⟨congrArg Except.ok hreport, hsession⟩
  · have hsize : max.toNat < p.payload.length := Nat.lt_of_not_le hfits
    rw [multicast_of_not_fits hfits]
    refine ⟨iff_of_true ⟨_, rfl⟩ hsize, fun _ => rfl, fun hle => ?_, fun _ _ => rfl,
      fun ids' _ _ => ?_⟩
    · exact absurd hle (Nat.not_le.2 hsize)
    · rw [multicast_of_not_fits hfits]
      exact ⟨rfl, rfl⟩

/-- A closed channel and one that nobody knows stand between two sends to an open
one. -/
example :
    let (a, d, cs) := (∅ : Directory).add ∅ 1 1000 0 {} default
    let (b, d, cs) := d.add cs 2 1000 0 {} default
    (d.multicast (cs.close b) [a, b, 9999, a] ⟨3, [3, 3, 3, 3]⟩ 256).1 =
      .ok ⟨[a, a], [(b, .closed b), (9999, .noSession 9999)]⟩ := by
  decide +kernel

end Directory
end SensorBroker
