/-
# What is written on a data channel

Of all operations only three put anything on its way on a data channel, or
take it off: the dispatcher, a request to enable a sensor, and the client that
reads. What the others do leaves the flow of every session alone that is no
socket channel (`Broker.Shifts.flow?`).

As long as no send fails, what a client has got from its channel and what is
still on its way is what was on its way before and what was sent
(`Channels.Carries`); and a channel on which no send failed is not given up
(`Broker.Relays`).

Key definitions: `Channels.Carries`, `Channels.OnlyReads`, `Broker.Relays`,
`Broker.Outside`, `Broker.received`.
Key theorems: `Channels.carries_sendFrame`, `Broker.relays_sendEach`,
`Broker.Shifts.flow?`, `Broker.onlyReads_atClient`.
-/
import SensorBroker.Proofs.Service.Lifetime

namespace SensorBroker
namespace Channels

/-- The client of a channel got `got` and was sent `run`, unless a send failed. -/
def Carries (id : ChannelId) (got run : Bytes) (cs cs' : Channels) : Prop :=
  ∀ f, cs.flow? id = some f → ∃ f', cs'.flow? id = some f' ∧ f.2 ≤ f'.2 ∧
    (f'.2 = f.2 → got ++ f'.1 = f.1 ++ run)

/-- The client of a channel got `got`, and nothing was sent to it. -/
def OnlyReads (id : ChannelId) (got : Bytes) (cs cs' : Channels) : Prop :=
  ∀ f, cs.flow? id = some f → ∃ rest, f.1 = got ++ rest ∧ cs'.flow? id = some (rest, f.2)

variable {cs cs' cs'' : Channels} {id other : ChannelId} {got run got' run' : Bytes}

theorem carries_of_eq (h : cs'.flow? id = cs.flow? id) : Carries id [] [] cs cs' := by
  intro f hf
  refine ⟨f, h.trans hf, Nat.le_refl _, fun _ => ?_⟩
  rw [List.nil_append, List.append_nil]

theorem onlyReads_of_eq (h : cs'.flow? id = cs.flow? id) : OnlyReads id [] cs cs' :=
  fun f hf => ⟨f.1, rfl, h.trans hf⟩

theorem OnlyReads.carries (h : OnlyReads id got cs cs') : Carries id got [] cs cs' := by
  intro f hf
  obtain ⟨rest, hread, hf'⟩ := h f hf
  refine ⟨(rest, f.2), hf', Nat.le_refl _, fun _ => ?_⟩
  rw [List.append_nil]
  exact hread.symm

theorem Carries.trans (first : Carries id got run cs cs') (second : Carries id got' run' cs' cs'') :
    Carries id (got ++ got') (run ++ run') cs cs'' := by
  intro f hf
  obtain ⟨f', hf', hle, hstream⟩ := first f hf
  obtain ⟨f'', hf'', hle', hstream'⟩ := second f' hf'
  refine ⟨f'', hf'', Nat.le_trans hle hle', fun hsame => ?_⟩
  have hfirst : f'.2 = f.2 := Nat.le_antisymm (Nat.le_trans hle' (Nat.le_of_eq hsame)) hle
  calc (got ++ got') ++ f''.1
      = got ++ (got' ++ f''.1) := List.append_assoc ..
    _ = got ++ (f'.1 ++ run') := by rw [hstream' (hsame.trans hfirst.symm)]
    _ = (got ++ f'.1) ++ run' := (List.append_assoc ..).symm
    _ = (f.1 ++ run) ++ run' := by rw [hstream hfirst]
    _ = f.1 ++ (run ++ run') := List.append_assoc ..

/-- The session with a number, by its traits. -/
theorem get?_of_traits? {pid : Pid} {max : UInt32} (h : cs.traits? id = some (pid, false, max)) :
    ∃ s, cs.get? id = some s ∧ s.pid = pid ∧ s.isClosed = false ∧ s.maxPacketSize = max := by
  obtain ⟨s, hs, htraits⟩ := Option.map_eq_some_iff.1 h
  unfold Session.traits at htraits
  simp only [Prod.mk.injEq] at htraits
  exact ⟨s, hs, htraits.1, htraits.2.1, htraits.2.2⟩

theorem flow?_act_self {α : Type} {s : Session} (hs : cs.get? id = some s)
    (f : Session → Except ChannelError α × Session) :
    (cs.act id f).2.flow? id = some (f s).2.flow := by
  unfold act
  rw [hs]
  show Option.map _ ((cs.update id _).get? id) = _
  rw [get?_update_self, hs]
  rfl

/-- No send takes a failure back. -/
theorem sendFailures_le_sendFrame (cs : Channels) (other : ChannelId) (frame : Bytes)
    {f : Bytes × Nat} (hf : cs.flow? id = some f) :
    ∃ f', (cs.sendFrame other frame).2.flow? id = some f' ∧ f.2 ≤ f'.2 := by
  by_cases hid : id = other
  · subst hid
    obtain ⟨s, hs, rfl⟩ := Option.map_eq_some_iff.1 hf
    exact ⟨_, flow?_act_self hs _, s.sendFailures_le_sendFrame frame⟩
  · exact ⟨f, (cs.flow?_act_of_ne _ hid).trans hf, Nat.le_refl _⟩

/-- A send on an open session is done, or is counted as failed. -/
theorem sendFrame_of_open {pid : Pid} {max : UInt32} {f : Bytes × Nat}
    (hopen : cs.traits? id = some (pid, false, max)) (frame : Bytes) (hf : cs.flow? id = some f) :
    (∃ cs', cs.sendFrame id frame = (.ok (), cs')) ∨
      ∃ e cs', cs.sendFrame id frame = (.error e, cs') ∧
        ∀ {f'}, cs'.flow? id = some f' → f.2 < f'.2 := by
  obtain ⟨s, hs, -, hopen, -⟩ := get?_of_traits? hopen
  have hflow := flow?_act_self hs (·.sendFrame frame)
  have hact : cs.sendFrame id frame = ((s.sendFrame frame).1, (cs.sendFrame id frame).2) := by
    unfold sendFrame act
    rw [hs]
  rcases Session.sendFrame_of_open hopen frame with ⟨s', hsend, -⟩ | ⟨e, s', hsend, hfailed⟩
  · rw [hsend] at hact
    exact .inl ⟨_, hact⟩
  · rw [hsend] at hact hflow
    refine .inr ⟨e, _, hact, fun {f'} hf' => ?_⟩
    have hbefore : f = s.flow := Option.some.inj (hf.symm.trans (congrArg (Option.map _) hs))
    have hafter : f' = s'.flow := Option.some.inj (hf'.symm.trans hflow)
    rw [hbefore, hafter]
    exact Nat.lt_of_lt_of_eq (Nat.lt_succ_self _) hfailed.symm

/-- **What is sent on an open session is on its way, or the send failed.** -/
theorem carries_sendFrame {pid : Pid} {max : UInt32}
    (hopen : cs.traits? id = some (pid, false, max)) (frame : Bytes) :
    Carries id [] frame cs (cs.sendFrame id frame).2 := by
  intro f hf
  obtain ⟨s, hs, -, hopen, -⟩ := get?_of_traits? hopen
  have hbefore : f = s.flow := Option.some.inj (hf.symm.trans (congrArg (Option.map _) hs))
  have hafter := flow?_act_self hs (·.sendFrame frame)
  rw [hbefore]
  rcases Session.sendFrame_of_open hopen frame with ⟨s', hsend, hadded⟩ | ⟨e, s', hsend, hfailed⟩
  · rw [hsend] at hafter
    refine ⟨s'.flow, hafter, ?_, fun _ => ?_⟩
    · exact Nat.le_of_eq (congrArg Prod.snd hadded).symm
    · exact congrArg Prod.fst hadded
  · rw [hsend] at hafter
    have hlt : s.flow.2 < s'.flow.2 := Nat.lt_of_lt_of_eq (Nat.lt_succ_self _) hfailed.symm
    exact ⟨s'.flow, hafter, Nat.le_of_lt hlt, fun hsame => absurd hsame (Nat.ne_of_gt hlt)⟩

/-- A packet that fits is sent as its frame. -/
theorem send_of_fits {pid : Pid} {max : UInt32} {p : Packet}
    (hopen : cs.traits? id = some (pid, false, max)) (hfits : p.Fits max) :
    cs.send id p = cs.sendFrame id p.bytes := by
  obtain ⟨s, hs, -, -, hmax⟩ := get?_of_traits? hopen
  have hsend : s.send p = s.sendFrame p.bytes := Session.send_of_fits (hmax ▸ hfits)
  unfold send sendFrame act
  simp only [hs, hsend]

end Channels

namespace Broker

open Channels (Carries OnlyReads)

variable {b b' b'' : Broker} {pid : Pid} {id other : ChannelId} {op : Op} {run run' : Bytes}

/-! ### The dispatcher -/

/-- A channel was sent `run` and is still the data channel of its process,
unless a send failed. -/
structure Relays (pid : Pid) (id : ChannelId) (run : Bytes) (b b' : Broker) : Prop where
  carries : Carries id [] run b.channels b'.channels
  current : ∀ f f', b.channels.flow? id = some f → b'.channels.flow? id = some f' → f'.2 = f.2 →
    b'.registry.channels.get? pid = some id

/-- No failure is taken back. -/
def Grows (id : ChannelId) (b b' : Broker) : Prop :=
  ∀ f, b.channels.flow? id = some f → ∃ f', b'.channels.flow? id = some f' ∧ f.2 ≤ f'.2

theorem Grows.of_eq (h : b'.channels.flow? id = b.channels.flow? id) : Grows id b b' :=
  fun f hf => ⟨f, h.trans hf, Nat.le_refl _⟩

theorem Grows.trans (first : Grows id b b') (second : Grows id b' b'') : Grows id b b'' := by
  intro f hf
  obtain ⟨f', hf', hle⟩ := first f hf
  obtain ⟨f'', hf'', hle'⟩ := second f' hf'
  exact ⟨f'', hf'', Nat.le_trans hle hle'⟩

theorem Relays.of_eq (hflow : b'.channels.flow? id = b.channels.flow? id)
    (hcurrent : b'.registry.channels.get? pid = some id) : Relays pid id [] b b' where
  carries := Channels.carries_of_eq hflow
  current _ _ _ _ _ := hcurrent

/-- The second part only matters if no send failed in the first. -/
theorem Relays.trans (first : Relays pid id run b b')
    (second : b'.registry.channels.get? pid = some id → Relays pid id run' b' b'')
    (grows : Grows id b' b'') : Relays pid id (run ++ run') b b'' := by
  have hsplit : ∀ f f' f'', b.channels.flow? id = some f → b'.channels.flow? id = some f' →
      b''.channels.flow? id = some f'' → f''.2 = f.2 → f'.2 = f.2 := by
    intro f f' f'' hf hf' hf'' hsame
    obtain ⟨g', hg', hle, -⟩ := first.carries f hf
    obtain ⟨g'', hg'', hle'⟩ := grows f' hf'
    rw [hf'] at hg'
    rw [hf''] at hg''
    cases hg'
    cases hg''
    exact Nat.le_antisymm (Nat.le_trans hle' (Nat.le_of_eq hsame)) hle
  constructor
  · intro f hf
    obtain ⟨f', hf', hle, hstream⟩ := first.carries f hf
    obtain ⟨f'', hf'', hle'⟩ := grows f' hf'
    refine ⟨f'', hf'', Nat.le_trans hle hle', fun hsame => ?_⟩
    have hfirst := hsplit f f' f'' hf hf' hf'' hsame
    obtain ⟨g'', hg'', -, hstream'⟩ := (second (first.current f f' hf hf' hfirst)).carries f' hf'
    rw [hf''] at hg''
    cases hg''
    have hlater := hstream' (hsame.trans hfirst.symm)
    rw [List.nil_append] at hlater ⊢
    have hearlier := hstream hfirst
    rw [List.nil_append] at hearlier
    rw [hlater, hearlier, List.append_assoc]
  · intro f f'' hf hf'' hsame
    obtain ⟨f', hf', -⟩ := first.carries f hf
    have hfirst := hsplit f f' f'' hf hf' hf'' hsame
    exact (second (first.current f f' hf hf' hfirst)).current f' f'' hf' hf''
      (hsame.trans hfirst.symm)

/-- Giving a channel up changes the flow of none. -/
theorem flow?_sendOn (b : Broker) (frame : Bytes) (other id : ChannelId) :
    (b.sendOn frame other).2.channels.flow? id = (b.channels.sendFrame other frame).2.flow? id := by
  unfold sendOn
  split
  · next h => rw [h]
  · next cs h =>
    rw [h]
    split_ifs
    · show (b.registry.releaseIfCurrent cs other).2.2.flow? id = _
      unfold Registry.releaseIfCurrent
      split
      · rfl
      · split_ifs
        · exact cs.flow?_close other id
        · exact cs.flow?_close other id
    · rfl

theorem grows_sendOn (b : Broker) (frame : Bytes) (other : ChannelId) :
    Grows id b (b.sendOn frame other).2 := by
  intro f hf
  rw [flow?_sendOn]
  exact b.channels.sendFailures_le_sendFrame other frame hf

theorem grows_sendEach (frame : Bytes) : ∀ (ids : List ChannelId) (b : Broker),
    Grows id b (sendEach frame ids b).2.2
  | [], _ => .of_eq rfl
  | other :: rest, b => by
    have hhead : Grows id b (b.sendOn frame other).2 := b.grows_sendOn frame other
    have hrest := hhead.trans (grows_sendEach frame rest _)
    rw [sendEach]
    simp only
    split
    · exact hrest
    · exact hrest

/-- What is sent on another channel is nothing to this one. -/
theorem sendOn_of_ne (b : Broker) (frame : Bytes) (hne : id ≠ other) :
    (b.sendOn frame other).2.channels.flow? id = b.channels.flow? id ∧
      (b.sendOn frame other).2.channels.traits? id = b.channels.traits? id ∧
      ∀ {pid}, b.registry.channels.get? pid = some id →
        (b.sendOn frame other).2.registry.channels.get? pid = some id := by
  refine ⟨?_, ?_, fun {pid} hcurrent => ?_⟩
  · rw [flow?_sendOn]
    exact b.channels.flow?_act_of_ne _ hne
  · have hsend := b.channels.traits?_sendFrame other frame id
    unfold sendOn
    split
    · next h => rwa [h] at hsend
    · next cs h =>
      rw [h] at hsend
      split_ifs
      · show (b.registry.releaseIfCurrent cs other).2.2.traits? id = _
        unfold Registry.releaseIfCurrent
        split
        · exact hsend
        · split_ifs
          · rw [Channels.traits?_close, if_neg hne, hsend]
          · rw [Channels.traits?_close, if_neg hne, hsend]
      · exact hsend
  · unfold sendOn
    split
    · exact hcurrent
    · next cs _ =>
      split_ifs
      · show (b.registry.releaseIfCurrent cs other).2.1.channels.get? pid = some id
        unfold Registry.releaseIfCurrent
        split
        · exact hcurrent
        · next s _ =>
          split_ifs with howned
          · have hpid : pid ≠ s.pid := fun heq => by
              rw [← heq, hcurrent] at howned
              exact hne (Option.some.inj howned)
            exact (Table.get?_erase_of_ne _ hpid).trans hcurrent
          · exact hcurrent
      · exact hcurrent

/-- **A frame that is sent on a data channel is on its way, or the send
failed.** -/
theorem relays_sendOn {max : UInt32} (hopen : b.channels.traits? id = some (pid, false, max))
    (hcurrent : b.registry.channels.get? pid = some id) (frame : Bytes) :
    Relays pid id frame b (b.sendOn frame id).2 := by
  constructor
  · intro f hf
    rw [flow?_sendOn]
    exact Channels.carries_sendFrame hopen frame f hf
  · intro f f' hf hf' hsame
    rw [flow?_sendOn] at hf'
    -- a channel is given up only if the send failed, which was counted
    rcases Channels.sendFrame_of_open hopen frame hf with ⟨cs, hsend⟩ | ⟨e, cs, hsend, failed⟩
    · have hkept : (b.sendOn frame id).2.registry = b.registry := by
        unfold sendOn
        rw [hsend]
        rfl
      rw [hkept]
      exact hcurrent
    · rw [hsend] at hf'
      exact absurd hsame (Nat.ne_of_gt (failed hf'))

theorem sendEach_of_not_mem (frame : Bytes) : ∀ (ids : List ChannelId) (b : Broker), id ∉ ids →
    (sendEach frame ids b).2.2.channels.flow? id = b.channels.flow? id ∧
      ∀ {pid}, b.registry.channels.get? pid = some id →
        (sendEach frame ids b).2.2.registry.channels.get? pid = some id
  | [], _, _ => ⟨rfl, fun h => h⟩
  | other :: rest, b, h => by
    obtain ⟨hne, hmem⟩ := not_or.1 fun h' => h (List.mem_cons.2 h')
    obtain ⟨hflow, -, hcurrent⟩ := b.sendOn_of_ne frame hne
    obtain ⟨hflow', hcurrent'⟩ := sendEach_of_not_mem frame rest (b.sendOn frame other).2 hmem
    rw [sendEach]
    simp only
    split
    · exact ⟨hflow'.trans hflow, fun h => hcurrent' (hcurrent h)⟩
    · exact ⟨hflow'.trans hflow, fun h => hcurrent' (hcurrent h)⟩

/-- **Of channels that are all different, each is sent the frame once.** -/
theorem relays_sendEach {max : UInt32} (frame : Bytes) : ∀ (ids : List ChannelId) {b : Broker},
    ids.Nodup → id ∈ ids → b.channels.traits? id = some (pid, false, max) →
      b.registry.channels.get? pid = some id → Relays pid id frame b (sendEach frame ids b).2.2
  | [], _, _, h, _, _ => (List.not_mem_nil h).elim
  | other :: rest, b, hnodup, hmem, hopen, hcurrent => by
    obtain ⟨hfresh, hnodup'⟩ := List.nodup_cons.1 hnodup
    have hall : Relays pid id frame b (sendEach frame rest (b.sendOn frame other).2).2.2 := by
      by_cases hid : id = other
      · subst hid
        obtain ⟨hflow, hstill⟩ :=
          sendEach_of_not_mem frame rest (b.sendOn frame id).2 hfresh
        have hrelays := (relays_sendOn hopen hcurrent frame).trans
          (fun h => .of_eq hflow (hstill h)) (.of_eq hflow)
        rwa [List.append_nil] at hrelays
      · have hrest : id ∈ rest := (List.mem_cons.1 hmem).resolve_left hid
        obtain ⟨hflow, htraits, hstill⟩ := b.sendOn_of_ne frame hid
        have hhead : Relays pid id [] b (b.sendOn frame other).2 := .of_eq hflow (hstill hcurrent)
        have hopen' := htraits.trans hopen
        exact hhead.trans (fun h => relays_sendEach frame rest hnodup' hrest hopen' h)
          (grows_sendEach frame rest _)
    rw [sendEach]
    simp only
    split
    · exact hall
    · exact hall

/-! ### What writes nothing -/

/-- A session that is no socket channel. -/
def Outside (b : Broker) (id : ChannelId) : Prop :=
  (b.channels.flow? id).isSome = true ∧ b.directory.contains id = false

theorem Outside.ne_next (h : b.Outside id) : id ≠ b.channels.next := by
  intro heq
  have hsome := h.1
  rw [heq, Channels.flow?, Channels.get?_next] at hsome
  cases hsome

theorem Outside.of_eq (h : b.Outside id) (flow : b'.channels.flow? id = b.channels.flow? id)
    (directory : b'.directory = b.directory) : b'.Outside id := by
  unfold Outside
  rw [flow, directory]
  exact h

theorem flow?_openDataChannel (caller : Identity) (hne : id ≠ b.channels.next) :
    (b.openDataChannel caller).2.channels.flow? id = b.channels.flow? id ∧
      (b.openDataChannel caller).2.directory = b.directory := by
  have hadd := b.channels.flow?_bind_add caller.pid caller.uid 0 b.config.transport b.rule hne
  unfold openDataChannel forPid
  split
  · exact ⟨rfl, rfl⟩
  · simp only
    split
    · exact ⟨(Channels.flow?_close _ _ _).trans hadd, rfl⟩
    · exact ⟨hadd, rfl⟩

theorem flow?_destroyChannel (r : Registry) (cs : Channels) (pid : Pid) (id : ChannelId) :
    (r.destroyChannel cs pid).2.2.flow? id = cs.flow? id := by
  unfold Registry.destroyChannel
  split
  · rfl
  · exact cs.flow?_close _ id

theorem flow?_closeDataChannel (b : Broker) (caller : Identity) (id : ChannelId) :
    (b.closeDataChannel caller).2.channels.flow? id = b.channels.flow? id ∧
      (b.closeDataChannel caller).2.directory = b.directory := by
  have hdestroy := flow?_destroyChannel b.registry b.channels caller.pid id
  unfold closeDataChannel forPid
  split
  · exact ⟨rfl, rfl⟩
  · split
    · exact ⟨rfl, rfl⟩
    · next h =>
      rw [h] at hdestroy
      exact ⟨hdestroy, rfl⟩

theorem flow?_dropRecords (b : Broker) (pid : Pid) (id : ChannelId) :
    (b.dropRecords pid).channels.flow? id = b.channels.flow? id := by
  have hdestroy := flow?_destroyChannel b.registry b.channels pid id
  unfold dropRecords
  simp only
  split
  · exact hdestroy
  · exact hdestroy

theorem flow?_remove (d : Directory) (cs : Channels) (pid : Pid) (id : ChannelId) :
    (d.remove cs pid).2.2.flow? id = cs.flow? id := by
  unfold Directory.remove
  split
  · rfl
  · split_ifs
    · exact cs.flow?_close _ id
    · rfl

/-- A socket channel that is taken out of the directory is no other. -/
theorem outside_remove (pid : Pid) (h : b.Outside id)
    (directory : b'.directory = (b.directory.remove b.channels pid).2.1)
    (channels : b'.channels = (b.directory.remove b.channels pid).2.2) :
    b'.channels.flow? id = b.channels.flow? id ∧ b'.Outside id := by
  have hflow : b'.channels.flow? id = b.channels.flow? id := by
    rw [channels]
    exact flow?_remove b.directory b.channels pid id
  refine ⟨hflow, by rw [hflow]; exact h.1, ?_⟩
  rw [directory]
  have hcontains := h.2
  unfold Directory.remove
  unfold Directory.contains Table.contains at hcontains ⊢
  split
  · exact hcontains
  · split_ifs
    all_goals
      simp only [Table.get?_erase]
      split_ifs
      · rfl
      · exact hcontains

/-- A fresh socket channel, and the one it replaces, are no other. -/
theorem flow?_add (d : Directory) (cs : Channels) (pid : Pid) (uid : Uid) (tokenType : Int32)
    (settings : TransportSettings) (rule : SocketRule) (hne : id ≠ cs.next) :
    (d.add cs pid uid tokenType settings rule).2.2.flow? id = cs.flow? id := by
  have hadd := cs.flow?_bind_add pid uid tokenType settings rule hne
  unfold Directory.add
  cases d.byPid.get? pid with
  | none => exact hadd
  | some old =>
    show Channels.flow? (if _ then _ else _) id = _
    split_ifs
    · exact (Channels.flow?_close _ old id).trans hadd
    · exact hadd

theorem contains_add (d : Directory) (cs : Channels) (pid : Pid) (uid : Uid) (tokenType : Int32)
    (settings : TransportSettings) (rule : SocketRule) (hne : id ≠ cs.next)
    (hcontains : d.contains id = false) :
    (d.add cs pid uid tokenType settings rule).2.1.contains id = false := by
  unfold Directory.contains Table.contains at hcontains ⊢
  unfold Directory.add
  cases d.byPid.get? pid with
  | none =>
    show ((d.byChannel.insert cs.next pid).get? id).isSome = false
    rw [Table.get?_insert_of_ne _ _ hne]
    exact hcontains
  | some old =>
    show (((d.byChannel.erase old).insert cs.next pid).get? id).isSome = false
    rw [Table.get?_insert_of_ne _ _ hne, Table.get?_erase]
    split_ifs
    · rfl
    · exact hcontains

theorem flow?_openSocketChannel (caller : Identity) (hne : id ≠ b.channels.next) :
    (b.openSocketChannel caller).2.channels.flow? id = b.channels.flow? id := by
  have hflow := flow?_add b.directory b.channels caller.pid caller.uid 0 b.config.transport b.rule
    hne
  unfold openSocketChannel forPid
  split
  · rfl
  · cases b.directory.byPid.get? caller.pid with
    | none => exact hflow
    | some old => exact hflow

theorem outside_openSocketChannel (caller : Identity) (h : b.Outside id) :
    (b.openSocketChannel caller).2.channels.flow? id = b.channels.flow? id ∧
      (b.openSocketChannel caller).2.Outside id := by
  have hflow := flow?_openSocketChannel caller h.ne_next
  have hcontains := contains_add b.directory b.channels caller.pid caller.uid 0
    b.config.transport b.rule h.ne_next h.2
  refine ⟨hflow, by rw [hflow]; exact h.1, ?_⟩
  unfold openSocketChannel forPid
  split
  · exact h.2
  · cases b.directory.byPid.get? caller.pid with
    | none => exact hcontains
    | some old => exact hcontains

theorem Shift.flow? (shift : Shift op b b') (hno : ¬ op.Writes) (h : b.Outside id) :
    b'.channels.flow? id = b.channels.flow? id ∧ b'.Outside id := by
  have hsame : b'.channels.flow? id = b.channels.flow? id → b'.directory = b.directory →
      b'.channels.flow? id = b.channels.flow? id ∧ b'.Outside id :=
    fun hflow hdirectory => ⟨hflow, h.of_eq hflow hdirectory⟩
  cases shift with
  | collect =>
    obtain ⟨queue, dropped, heq⟩ := b.exists_collect
    rw [heq]
    exact ⟨rfl, h⟩
  | traffic _ flow => exact hsame (flow hno id h.2) rfl
  | openData caller =>
    obtain ⟨hflow, hdirectory⟩ := flow?_openDataChannel caller h.ne_next
    exact hsame hflow hdirectory
  | closeData caller =>
    obtain ⟨hflow, hdirectory⟩ := b.flow?_closeDataChannel caller id
    exact hsame hflow hdirectory
  | openSocket caller => exact outside_openSocketChannel caller h
  | dropSocket pid =>
    refine outside_remove pid h ?_ ?_
    · unfold dropSocketChannel
      simp only
      split <;> rfl
    · unfold dropSocketChannel
      simp only
      split <;> rfl
  | depart pid => exact outside_remove pid h rfl rfl
  | dropRecords pid => exact hsame (b.flow?_dropRecords pid id) (b.directory_dropRecords pid)
  | giveUp now _ => exact absurd (now ▸ trivial) hno
  | arbitrate _ | mock _ _ | raise _ | take _ _ | keep _ _ | count _ _ | flushes _ _ | listeners _
  | forgetToken _ | watchers _ _ => exact ⟨rfl, h⟩

/-- **What does not write leaves the flow of every session alone that is no
socket channel.** -/
theorem Shifts.flow? (shifts : Shifts op b b') (hno : ¬ op.Writes) (h : b.Outside id) :
    b'.channels.flow? id = b.channels.flow? id ∧ b'.Outside id := by
  induction shifts with
  | refl => exact ⟨rfl, h⟩
  | tail _ shift ih =>
    obtain ⟨hflow, houtside⟩ := ih
    obtain ⟨hflow', houtside'⟩ := shift.flow? hno houtside
    exact ⟨hflow'.trans hflow, houtside'⟩

/-! ### The client -/

/-- The bytes that the client of a channel gets in an act. -/
def received (id : ChannelId) (b : Broker) : Act → Bytes
  | .op (.atClient other a) =>
    if other = id then (b.channels.get? id).elim [] fun s => s.link.received a else []
  | _ => []

/-- What a client gets was on its way to it. -/
theorem onlyReads_atClient (b : Broker) (id other : ChannelId) (a : ClientAct) :
    OnlyReads id (b.received id (.op (.atClient other a))) b.channels
      (b.atClient other a).channels := by
  by_cases hid : other = id
  · subst hid
    intro f hf
    obtain ⟨s, hs, rfl⟩ := Option.map_eq_some_iff.1 hf
    have hreceived : b.received other (.op (.atClient other a)) = s.link.received a := by
      simp only [received, if_true, hs, Option.elim_some]
    refine ⟨Session.outgoing { s with link := s.link.act a }, ?_, ?_⟩
    · rw [hreceived]
      show s.link.toClient.toList ++ s.pending.bytes.toList =
        s.link.received a ++ ((s.link.act a).toClient.toList ++ s.pending.bytes.toList)
      rw [← List.append_assoc, Link.received_append_act]
    · show Option.map _ ((b.channels.update other _).get? other) = _
      rw [Channels.get?_update_self, hs]
      rfl
  · have hreceived : b.received id (.op (.atClient other a)) = [] := if_neg hid
    rw [hreceived]
    exact Channels.onlyReads_of_eq (b.channels.flow?_update_of_ne _ (Ne.symm hid))

end Broker
end SensorBroker
