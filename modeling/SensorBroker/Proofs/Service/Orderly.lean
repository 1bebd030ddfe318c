/-
# Who owns which channel

In every reachable broker the records of channels agree with the sessions
there are (`Broker.Orderly`). A data channel, and a socket channel, is an open
session of its process; no channel is both; the two ways to find a socket
channel agree; and a session that is open is one or the other, so a process
that has neither has no open session left. A flush waits for a session that is
no socket channel, or was closed since.

Where channels are watched, every data channel is (`Broker.Attended`): no shift
takes the watcher of a channel that is still in use, but for the watcher that
has its turn.

Key definitions: `Broker.Orderly`, `Broker.Vacant`, `Broker.Attended`,
`Broker.AttendedDuring`.
Key theorems: `Broker.Orderly.isClosed_of_vacant`, `Broker.Shifts.orderly`,
`Broker.Reachable.orderly`, `Broker.Shifts.attended`.
-/
import SensorBroker.Proofs.Service.Shifts

namespace SensorBroker

namespace Broker

/-- The records of channels agree with each other and with the sessions. -/
structure Orderly (b : Broker) : Prop where
  /-- A data channel is an open session of its process. -/
  current : ∀ {pid id}, b.registry.channels.get? pid = some id →
    b.channels.traits? id = some (pid, false, b.config.transport.maxPacketSize)
  /-- A socket channel is an open session of its process. -/
  listed : ∀ {pid id}, b.directory.byPid.get? pid = some id →
    b.channels.traits? id = some (pid, false, b.config.transport.maxPacketSize)
  /-- An open session is the data channel or the socket channel of its process. -/
  held : ∀ {id pid max}, b.channels.traits? id = some (pid, false, max) →
    b.registry.channels.get? pid = some id ∨ b.directory.byPid.get? pid = some id
  apart : ∀ {pid id}, b.registry.channels.get? pid = some id → b.directory.contains id = false
  inverse : ∀ {pid id}, b.directory.byPid.get? pid = some id ↔
    b.directory.byChannel.get? id = some pid
  /-- A flush waits for a session that is no socket channel. -/
  awaited : ∀ {s entry}, entry ∈ b.flushes.of s →
    (b.channels.traits? entry.channel).isSome = true ∧ b.directory.contains entry.channel = false

/-- A channel is neither the data channel of a process nor a socket channel. -/
structure Vacant (b : Broker) (id : ChannelId) : Prop where
  unowned : ∀ pid, b.registry.channels.get? pid ≠ some id
  unlisted : b.directory.contains id = false

namespace Orderly

variable {b b' : Broker}

theorem serves_apart (h : b.Orderly) (id : ChannelId) (hid : b.Serves id) :
    b.directory.contains id = false := by
  rcases hid with ⟨pid, hpid⟩ | ⟨s, entry, hmem, rfl⟩
  · exact h.apart hpid
  · exact (h.awaited hmem).2

theorem contains_iff (h : b.Orderly) {id : ChannelId} :
    b.directory.contains id = true ↔ ∃ pid, b.directory.byPid.get? pid = some id := by
  unfold Directory.contains Table.contains
  rw [Option.isSome_iff_exists]
  exact exists_congr fun pid => h.inverse.symm

/-- A channel that is nobody's is closed, if it was ever opened. -/
theorem isClosed_of_vacant (h : b.Orderly) {id : ChannelId} (hvacant : b.Vacant id) :
    b.channels.isClosed id = true := by
  unfold Channels.isClosed
  cases hs : b.channels.get? id with
  | none => rfl
  | some s =>
    show s.isClosed = true
    by_contra hopen
    have htraits : b.channels.traits? id = some (s.pid, false, s.maxPacketSize) := by
      rw [Channels.traits?, hs, Option.map_some, Session.traits, Bool.eq_false_iff.2 hopen]
    rcases h.held htraits with hdata | hsocket
    · exact hvacant.unowned s.pid hdata
    · have hlisted := h.contains_iff.2 ⟨s.pid, hsocket⟩
      rw [hvacant.unlisted] at hlisted
      cases hlisted

theorem get?_next (_h : b.Orderly) : b.channels.traits? b.channels.next = none := by
  rw [Channels.traits?, Channels.get?_next, Option.map_none]

/-- A number without a session is in no record. -/
theorem ne_next_of_current (h : b.Orderly) {pid : Pid} {id : ChannelId}
    (hid : b.registry.channels.get? pid = some id) : id ≠ b.channels.next := by
  intro heq
  have htraits := h.current hid
  rw [heq, h.get?_next] at htraits
  cases htraits

theorem ne_next_of_listed (h : b.Orderly) {pid : Pid} {id : ChannelId}
    (hid : b.directory.byPid.get? pid = some id) : id ≠ b.channels.next := by
  intro heq
  have htraits := h.listed hid
  rw [heq, h.get?_next] at htraits
  cases htraits

/-- A channel is the data channel of one process only. -/
theorem eq_of_current (h : b.Orderly) {pid pid' : Pid} {id : ChannelId}
    (hid : b.registry.channels.get? pid = some id)
    (hid' : b.registry.channels.get? pid' = some id) : pid' = pid := by
  have hsame := (h.current hid').symm.trans (h.current hid)
  cases hsame
  rfl

/-- A channel is the socket channel of one process only. -/
theorem eq_of_listed (h : b.Orderly) {pid pid' : Pid} {id : ChannelId}
    (hid : b.directory.byPid.get? pid = some id)
    (hid' : b.directory.byPid.get? pid' = some id) : pid' = pid := by
  have hsame := (h.listed hid').symm.trans (h.listed hid)
  cases hsame
  rfl

/-- A socket channel is no data channel. -/
theorem ne_of_listed (h : b.Orderly) {pid other : Pid} {id old : ChannelId}
    (hold : b.directory.byPid.get? other = some old)
    (hid : b.registry.channels.get? pid = some id) : id ≠ old := by
  intro heq
  have hcontains := h.contains_iff.2 ⟨other, hold⟩
  rw [← heq, h.apart hid] at hcontains
  cases hcontains

/-- A channel that is awaited is there. -/
theorem ne_next_of_awaited (h : b.Orderly) {s : SensorId} {entry : FlushEntry}
    (hmem : entry ∈ b.flushes.of s) : entry.channel ≠ b.channels.next := by
  intro heq
  have hsome := (h.awaited hmem).1
  rw [heq, h.get?_next] at hsome
  cases hsome

/-- The directory stays one where a process and its channel leave it. -/
theorem inverse_erase (h : b.Orderly) {pid other : Pid} {old id : ChannelId}
    (held : b.directory.byPid.get? pid = some old) :
    (b.directory.byPid.erase pid).get? other = some id ↔
      (b.directory.byChannel.erase old).get? id = some other := by
  rw [Table.get?_erase, Table.get?_erase]
  constructor
  · intro hlisted
    split_ifs at hlisted with hother
    have hne : id ≠ old := fun heq => hother (h.eq_of_listed held (heq ▸ hlisted))
    rw [if_neg hne]
    exact h.inverse.1 hlisted
  · intro howned
    split_ifs at howned with hid
    have hlisted := h.inverse.2 howned
    have hother : other ≠ pid := fun heq => by
      rw [heq, held] at hlisted
      exact hid (Option.some.inj hlisted).symm
    rw [if_neg hother]
    exact hlisted

/-- It stays one where a process that is not in it comes with a fresh channel. -/
theorem inverse_insert (h : b.Orderly) {pid other : Pid} {id : ChannelId}
    (none : b.directory.byPid.get? pid = none) :
    (b.directory.byPid.insert pid b.channels.next).get? other = some id ↔
      (b.directory.byChannel.insert b.channels.next pid).get? id = some other := by
  rw [Table.get?_insert, Table.get?_insert]
  constructor
  · intro hlisted
    split_ifs at hlisted with hother
    · cases hlisted
      rw [if_pos rfl, hother]
    · rw [if_neg (h.ne_next_of_listed hlisted)]
      exact h.inverse.1 hlisted
  · intro howned
    split_ifs at howned with hid
    · cases howned
      rw [if_pos rfl, hid]
    · have hlisted := h.inverse.2 howned
      have hother : other ≠ pid := fun heq => by
        rw [heq, none] at hlisted
        cases hlisted
      rw [if_neg hother]
      exact hlisted

/-! ### What changes no record of a channel -/

theorem congr (h : b.Orderly) (config : b'.config = b.config)
    (channels : b'.registry.channels = b.registry.channels)
    (traits : ∀ id, b'.channels.traits? id = b.channels.traits? id)
    (directory : b'.directory = b.directory)
    (flushes : ∀ {s entry}, entry ∈ b'.flushes.of s → entry ∈ b.flushes.of s ∨
      ∃ pid, b.registry.channels.get? pid = some entry.channel) : b'.Orderly where
  current hid := by
    rw [channels] at hid
    rw [traits, config]
    exact h.current hid
  listed hid := by
    rw [directory] at hid
    rw [traits, config]
    exact h.listed hid
  held hopen := by
    rw [traits] at hopen
    rw [channels, directory]
    exact h.held hopen
  apart hid := by
    rw [channels] at hid
    rw [directory]
    exact h.apart hid
  inverse := by
    rw [directory]
    exact h.inverse
  awaited hmem := by
    rw [traits, directory]
    rcases flushes hmem with hold | ⟨pid, hid⟩
    · exact h.awaited hold
    · exact ⟨by rw [h.current hid]; rfl, h.apart hid⟩

/-! ### A data channel comes or goes -/

/-- A process gets a fresh session as its data channel; the one it had, if
any, is closed. -/
theorem replaceData (h : b.Orderly) (pid : Pid) (config : b'.config = b.config)
    (channels : b'.registry.channels = b.registry.channels.insert pid b.channels.next)
    (traits : ∀ id, b'.channels.traits? id =
      if b.registry.channels.get? pid = some id then
        some (pid, true, b.config.transport.maxPacketSize)
      else if id = b.channels.next then some (pid, false, b.config.transport.maxPacketSize)
      else b.channels.traits? id)
    (directory : b'.directory = b.directory) (flushes : b'.flushes = b.flushes) : b'.Orderly where
  current {other id} hid := by
    rw [channels, Table.get?_insert] at hid
    rw [traits, config]
    split_ifs at hid with hother
    · cases hid
      rw [if_neg fun hold => h.ne_next_of_current hold rfl, if_pos rfl, hother]
    · rw [if_neg fun hold => hother (h.eq_of_current hold hid),
        if_neg (h.ne_next_of_current hid), h.current hid]
  listed {other id} hid := by
    rw [directory] at hid
    have hapart : b.registry.channels.get? pid ≠ some id := fun hold =>
      h.ne_of_listed hid hold rfl
    rw [traits, config, if_neg hapart, if_neg (h.ne_next_of_listed hid), h.listed hid]
  held {id other max} hopen := by
    rw [traits] at hopen
    rw [channels, directory, Table.get?_insert]
    split_ifs at hopen with hold hnext
    · cases hopen
    · cases hopen
      exact .inl (by rw [if_pos rfl, hnext])
    · by_cases hother : other = pid
      · refine .inr ?_
        rcases h.held hopen with hid | hid
        · exact absurd (hother ▸ hid) hold
        · exact hid
      · rw [if_neg hother]
        exact h.held hopen
  apart {other id} hid := by
    rw [channels, Table.get?_insert] at hid
    rw [directory]
    split_ifs at hid with hother
    · cases hid
      refine Bool.eq_false_iff.2 fun hcontains => ?_
      obtain ⟨_, hlisted⟩ := h.contains_iff.1 hcontains
      exact h.ne_next_of_listed hlisted rfl
    · exact h.apart hid
  inverse := by
    rw [directory]
    exact h.inverse
  awaited hmem := by
    rw [flushes] at hmem
    obtain ⟨hsome, happart⟩ := h.awaited hmem
    rw [traits, directory]
    refine ⟨?_, happart⟩
    split_ifs
    · rfl
    · rfl
    · exact hsome

/-- A process loses its data channel, which is closed. -/
theorem dropData (h : b.Orderly) {pid : Pid} {old : ChannelId}
    (held : b.registry.channels.get? pid = some old) (config : b'.config = b.config)
    (channels : b'.registry.channels = b.registry.channels.erase pid)
    (sessions : b'.channels = b.channels.close old)
    (directory : b'.directory = b.directory) (flushes : b'.flushes = b.flushes) : b'.Orderly where
  current {other id} hid := by
    rw [channels, Table.get?_erase] at hid
    split_ifs at hid with hother
    have hne : id ≠ old := fun heq => hother (h.eq_of_current held (heq ▸ hid))
    rw [sessions, Channels.traits?_close, if_neg hne, config]
    exact h.current hid
  listed {other id} hid := by
    rw [directory] at hid
    have hne : id ≠ old := (h.ne_of_listed hid held).symm
    rw [sessions, Channels.traits?_close, if_neg hne, config]
    exact h.listed hid
  held {id other max} hopen := by
    rw [sessions, Channels.traits?_close] at hopen
    split_ifs at hopen with hid
    · rw [h.current held] at hopen
      cases hopen
    · rw [channels, directory, Table.get?_erase]
      rcases h.held hopen with hcurrent | hlisted
      · have hother : other ≠ pid := fun heq => by
          rw [heq, held] at hcurrent
          exact hid (Option.some.inj hcurrent).symm
        exact .inl (by rw [if_neg hother, hcurrent])
      · exact .inr hlisted
  apart {other id} hid := by
    rw [channels, Table.get?_erase] at hid
    split_ifs at hid
    rw [directory]
    exact h.apart hid
  inverse := by
    rw [directory]
    exact h.inverse
  awaited hmem := by
    rw [flushes] at hmem
    obtain ⟨hsome, happart⟩ := h.awaited hmem
    rw [sessions, Channels.traits?_close, directory]
    refine ⟨?_, happart⟩
    split_ifs with hid
    · rw [Option.isSome_map, ← hid]
      exact hsome
    · exact hsome

/-! ### A socket channel comes or goes -/

/-- A process loses its socket channel, which is closed. -/
theorem dropSocket (h : b.Orderly) {pid : Pid} {old : ChannelId}
    (held : b.directory.byPid.get? pid = some old) (config : b'.config = b.config)
    (channels : b'.registry.channels = b.registry.channels)
    (sessions : b'.channels = b.channels.close old)
    (directory : b'.directory = ⟨b.directory.byChannel.erase old, b.directory.byPid.erase pid⟩)
    (flushes : b'.flushes = b.flushes) : b'.Orderly := by
  have hgone : ∀ {id}, b.directory.contains id = false →
      (⟨b.directory.byChannel.erase old, b.directory.byPid.erase pid⟩ : Directory).contains id
        = false := by
    intro id hid
    unfold Directory.contains Table.contains at hid ⊢
    rw [Table.get?_erase]
    split_ifs
    · rfl
    · exact hid
  refine ⟨fun {other id} hid => ?_, fun {other id} hid => ?_, fun {id other max} hopen => ?_,
    fun {other id} hid => ?_, fun {other id} => ?_, fun {s entry} hmem => ?_⟩
  · rw [channels] at hid
    have hne : id ≠ old := h.ne_of_listed held hid
    rw [sessions, Channels.traits?_close, if_neg hne, config]
    exact h.current hid
  · rw [directory, Table.get?_erase] at hid
    split_ifs at hid with hother
    have hne : id ≠ old := fun heq => hother (h.eq_of_listed held (heq ▸ hid))
    rw [sessions, Channels.traits?_close, if_neg hne, config]
    exact h.listed hid
  · rw [sessions, Channels.traits?_close] at hopen
    split_ifs at hopen with hid
    · rw [h.listed held] at hopen
      cases hopen
    · rw [channels, directory, Table.get?_erase]
      rcases h.held hopen with hcurrent | hlisted
      · exact .inl hcurrent
      · have hother : other ≠ pid := fun heq => by
          rw [heq, held] at hlisted
          exact hid (Option.some.inj hlisted).symm
        exact .inr (by rw [if_neg hother, hlisted])
  · rw [channels] at hid
    rw [directory]
    exact hgone (h.apart hid)
  · rw [directory]
    exact h.inverse_erase held
  · rw [flushes] at hmem
    obtain ⟨hsome, happart⟩ := h.awaited hmem
    rw [sessions, Channels.traits?_close, directory]
    refine ⟨?_, hgone happart⟩
    split_ifs with hid
    · rw [Option.isSome_map, ← hid]
      exact hsome
    · exact hsome

/-- A process without a socket channel gets a fresh session as one. -/
theorem addSocket (h : b.Orderly) (pid : Pid) (none : b.directory.byPid.get? pid = none)
    (config : b'.config = b.config) (channels : b'.registry.channels = b.registry.channels)
    (traits : ∀ id, b'.channels.traits? id =
      if id = b.channels.next then some (pid, false, b.config.transport.maxPacketSize)
      else b.channels.traits? id)
    (directory : b'.directory = ⟨b.directory.byChannel.insert b.channels.next pid,
      b.directory.byPid.insert pid b.channels.next⟩)
    (flushes : b'.flushes = b.flushes) : b'.Orderly := by
  have hkept : ∀ {id}, id ≠ b.channels.next → b.directory.contains id = false →
      (⟨b.directory.byChannel.insert b.channels.next pid,
        b.directory.byPid.insert pid b.channels.next⟩ : Directory).contains id = false := by
    intro id hne hid
    unfold Directory.contains Table.contains at hid ⊢
    rw [Table.get?_insert_of_ne _ _ hne]
    exact hid
  refine ⟨fun {other id} hid => ?_, fun {other id} hid => ?_, fun {id other max} hopen => ?_,
    fun {other id} hid => ?_, fun {other id} => ?_, fun {s entry} hmem => ?_⟩
  · rw [channels] at hid
    rw [traits, if_neg (h.ne_next_of_current hid), config]
    exact h.current hid
  · rw [directory, Table.get?_insert] at hid
    rw [traits, config]
    split_ifs at hid with hother
    · cases hid
      rw [if_pos rfl, hother]
    · rw [if_neg (h.ne_next_of_listed hid), h.listed hid]
  · rw [traits] at hopen
    rw [channels, directory, Table.get?_insert]
    split_ifs at hopen with hid
    · cases hopen
      exact .inr (by rw [if_pos rfl, hid])
    · rcases h.held hopen with hcurrent | hlisted
      · exact .inl hcurrent
      · have hother : other ≠ pid := fun heq => by
          rw [heq, none] at hlisted
          cases hlisted
        exact .inr (by rw [if_neg hother, hlisted])
  · rw [channels] at hid
    rw [directory]
    exact hkept (h.ne_next_of_current hid) (h.apart hid)
  · rw [directory]
    exact h.inverse_insert none
  · rw [flushes] at hmem
    obtain ⟨hsome, happart⟩ := h.awaited hmem
    have hne := h.ne_next_of_awaited hmem
    rw [traits, if_neg hne, directory]
    exact ⟨hsome, hkept hne happart⟩

/-! ### Operations on channels -/

theorem openDataChannel (h : b.Orderly) (caller : Identity) :
    (b.openDataChannel caller).2.Orderly := by
  unfold Broker.openDataChannel forPid
  split
  · exact h
  · have hadd := b.channels.traits?_bind_add caller.pid caller.uid 0 b.config.transport b.rule
    cases hold : b.registry.channels.get? caller.pid with
    | none =>
      simp only [Registry.setChannel, Registry.setApp, hold]
      refine h.replaceData caller.pid rfl rfl (fun id => ?_) rfl rfl
      rw [hold, if_neg (by simp)]
      exact hadd id
    | some old =>
      simp only [Registry.setChannel, Registry.setApp, hold]
      refine h.replaceData caller.pid rfl rfl (fun id => ?_) rfl rfl
      have hne : old ≠ b.channels.next := h.ne_next_of_current hold
      show (Channels.close ((b.channels.add caller.pid caller.uid 0 b.config.transport
        b.rule).2.bind b.channels.next) old).traits? id = _
      rw [Channels.traits?_close, hold]
      by_cases hid : id = old
      · rw [if_pos hid, if_pos (by rw [hid]), ← hid, hadd, hid, if_neg hne, h.current hold]
        rfl
      · rw [if_neg hid, if_neg fun heq => hid (Option.some.inj heq).symm]
        exact hadd id

theorem openSocketChannel (h : b.Orderly) (caller : Identity) :
    (b.openSocketChannel caller).2.Orderly := by
  unfold Broker.openSocketChannel forPid
  split
  · exact h
  · have hadd := b.channels.traits?_bind_add caller.pid caller.uid 0 b.config.transport b.rule
    cases hold : b.directory.byPid.get? caller.pid with
    | none =>
      simp only [Directory.add, hold]
      exact h.addSocket caller.pid hold rfl rfl hadd rfl rfl
    | some old =>
      have hcontains : b.directory.byChannel.contains old = true :=
        h.contains_iff.2 ⟨caller.pid, hold⟩
      -- the channel is replaced as if it had been dropped before
      have hdropped : ({ b with
          directory := ⟨b.directory.byChannel.erase old, b.directory.byPid.erase caller.pid⟩
          channels := b.channels.close old } : Broker).Orderly :=
        h.dropSocket hold rfl rfl rfl rfl rfl
      have hnext : (b.channels.close old).next = b.channels.next := by
        unfold Channels.close Channels.update Channels.next
        split
        · rw [List.length_modify]
        · rfl
      simp only [unwatch, Directory.add, hold, hcontains, if_true]
      refine hdropped.addSocket caller.pid (Table.get?_erase_self ..) rfl rfl
        (fun id => ?_) ?_ rfl
      · show (Channels.close ((b.channels.add caller.pid caller.uid 0 b.config.transport
          b.rule).2.bind b.channels.next) old).traits? id = if id = (b.channels.close old).next then
            _ else (b.channels.close old).traits? id
        have hne : old ≠ b.channels.next := h.ne_next_of_listed hold
        rw [Channels.traits?_close, Channels.traits?_close, hnext, hadd, if_neg hne]
        by_cases hid : id = old
        · rw [if_pos hid, if_pos hid, if_neg (hid ▸ hne)]
        · rw [if_neg hid, if_neg hid]
          exact hadd id
      · show Directory.mk _ _ = Directory.mk ((b.directory.byChannel.erase old).insert
          (b.channels.close old).next caller.pid) ((b.directory.byPid.erase caller.pid).insert
            caller.pid (b.channels.close old).next)
        rw [hnext, Table.insert_erase_self]
        rfl

theorem destroyChannel (h : b.Orderly) (pid : Pid) (config : b'.config = b.config)
    (channels : b'.registry.channels = (b.registry.destroyChannel b.channels pid).2.1.channels)
    (sessions : b'.channels = (b.registry.destroyChannel b.channels pid).2.2)
    (directory : b'.directory = b.directory) (flushes : b'.flushes = b.flushes) : b'.Orderly := by
  unfold Registry.destroyChannel at channels sessions
  cases hold : b.registry.channels.get? pid with
  | none =>
    rw [hold] at channels sessions
    exact h.congr config channels (fun id => by rw [sessions]) directory
      fun hmem => .inl (flushes ▸ hmem)
  | some old =>
    rw [hold] at channels sessions
    exact h.dropData hold config channels sessions directory flushes

theorem closeDataChannel (h : b.Orderly) (caller : Identity) :
    (b.closeDataChannel caller).2.Orderly := by
  unfold Broker.closeDataChannel forPid
  split
  · exact h
  · split
    · exact h
    · next id r cs hd =>
      refine h.destroyChannel caller.pid rfl ?_ ?_ rfl rfl
      · rw [hd]
        rfl
      · rw [hd]
        rfl

theorem dropRecords (h : b.Orderly) (pid : Pid) : (b.dropRecords pid).Orderly := by
  unfold Broker.dropRecords
  simp only
  split
  · exact h.destroyChannel pid rfl rfl rfl rfl rfl
  · exact h.destroyChannel pid rfl rfl rfl rfl rfl

/-- A channel that is given up was a data channel, or was closed before. -/
theorem giveUp (h : b.Orderly) {id : ChannelId} (hid : b.directory.contains id = false) :
    (b.setRecords (b.registry.releaseIfCurrent b.channels id).2.1
      (b.registry.releaseIfCurrent b.channels id).2.2).Orderly := by
  unfold Registry.releaseIfCurrent
  cases hs : b.channels.get? id with
  | none => exact h
  | some s =>
    simp only
    split_ifs with hcurrent
    · exact h.dropData hcurrent rfl rfl rfl rfl rfl
    · have hclosed : s.isClosed = true := by
        refine Bool.not_eq_false _ ▸ fun hopen => ?_
        have htraits : b.channels.traits? id = some (s.pid, false, s.maxPacketSize) := by
          rw [Channels.traits?, hs, Option.map_some, Session.traits, hopen]
        rcases h.held htraits with hcur | hlisted
        · exact hcurrent hcur
        · have hcontains := h.contains_iff.2 ⟨s.pid, hlisted⟩
          rw [hid] at hcontains
          cases hcontains
      refine h.congr rfl rfl (fun other => ?_) rfl fun hmem => .inl hmem
      show (b.channels.close id).traits? other = _
      rw [Channels.traits?_close]
      split_ifs with heq
      · rw [heq, Channels.traits?, hs, Option.map_some, Option.map_some, Session.traits, hclosed]
      · rfl

/-- Whether or not the directory has a socket channel of the process, taking it
out leaves the records in order. -/
theorem removeSocket (h : b.Orderly) (pid : Pid) (config : b'.config = b.config)
    (channels : b'.registry.channels = b.registry.channels)
    (directory : b'.directory = (b.directory.remove b.channels pid).2.1)
    (sessions : b'.channels = (b.directory.remove b.channels pid).2.2)
    (flushes : b'.flushes = b.flushes) : b'.Orderly := by
  unfold Directory.remove at directory sessions
  cases hold : b.directory.byPid.get? pid with
  | none =>
    rw [hold] at directory sessions
    exact h.congr config channels (fun id => by rw [sessions]) directory
      fun hmem => .inl (flushes ▸ hmem)
  | some old =>
    have hcontains : b.directory.byChannel.contains old = true := h.contains_iff.2 ⟨pid, hold⟩
    rw [hold] at directory sessions
    simp only [hcontains, if_true] at directory sessions
    exact h.dropSocket hold config channels sessions directory flushes

theorem dropSocketChannel (h : b.Orderly) (pid : Pid) : (b.dropSocketChannel pid).Orderly := by
  unfold Broker.dropSocketChannel
  simp only
  split
  · exact h.removeSocket pid rfl rfl rfl rfl rfl
  · exact h.removeSocket pid rfl rfl rfl rfl rfl

end Orderly

/-! ### Shifts -/

theorem exists_foldl_offer : ∀ (es : List Event) (b : Broker),
    ∃ queue dropped, es.foldl offer b = { b with queue, dropped }
  | [], b => ⟨b.queue, b.dropped, rfl⟩
  | e :: rest, b => by
    have hoffer : ∃ queue dropped, b.offer e = { b with queue, dropped } := by
      unfold offer
      split_ifs
      · exact ⟨b.queue, b.dropped, rfl⟩
      · exact ⟨b.queue ++ [e], b.dropped, rfl⟩
      · exact ⟨b.queue, b.dropped + 1, rfl⟩
    obtain ⟨queue, dropped, hqueued⟩ := hoffer
    obtain ⟨queue', dropped', hrest⟩ := exists_foldl_offer rest (b.offer e)
    refine ⟨queue', dropped', hrest.trans ?_⟩
    rw [hqueued]

/-- Collecting events changes the queue and the hardware only. -/
theorem exists_collect (b : Broker) : ∃ queue dropped, b.collect =
    { b.setHardware { b.hardware with raised := [] } with queue, dropped } :=
  exists_foldl_offer b.hardware.raised (b.setHardware { b.hardware with raised := [] })

variable {op : Op} {b b' : Broker}

theorem Shift.orderly (shift : Shift op b b') (h : b.Orderly) : b'.Orderly := by
  cases shift with
  | arbitrate kept => exact h.congr rfl kept.channels (fun _ => rfl) rfl .inl
  | collect =>
    obtain ⟨queue, dropped, heq⟩ := b.exists_collect
    rw [heq]
    exact h.congr rfl rfl (fun _ => rfl) rfl .inl
  | flushes act owned =>
    exact h.congr rfl rfl (fun _ => rfl) rfl fun hmem =>
      (FlushQueues.mem_of_step hmem).imp_right (owned _)
  | traffic traits _ => exact h.congr rfl rfl traits rfl .inl
  | openData caller => exact h.openDataChannel caller
  | closeData caller => exact h.closeDataChannel caller
  | openSocket caller => exact h.openSocketChannel caller
  | dropSocket pid => exact h.dropSocketChannel pid
  | depart pid => exact h.removeSocket pid rfl rfl rfl rfl rfl
  | dropRecords pid => exact h.dropRecords pid
  | giveUp _ apart => exact h.giveUp apart
  | mock _ _ | raise _ | take _ _ | keep _ _ | count _ _ | listeners _ | forgetToken _ | watchers _ _ =>
    exact h.congr rfl rfl (fun _ => rfl) rfl .inl

theorem Shifts.orderly (shifts : Shifts op b b') (h : b.Orderly) : b'.Orderly := by
  induction shifts with
  | refl => exact h
  | tail _ shift ih => exact shift.orderly ih

theorem Orderly.step (h : b.Orderly) (op : Op) : (b.step op).Orderly :=
  (b.shifts_step op h.serves_apart).orderly h

/-- A broker that was just started has no channel. -/
theorem orderly_of_started {config : Config} {hardware : Hardware} {rule : SocketRule}
    {watching : Bool} (started : (ofConfig config hardware rule watching).start = (.ok (), b)) :
    b.Orderly := by
  obtain ⟨hw, -, rfl⟩ := start_ok started
  have hnone : ∀ id, (∅ : Channels).traits? id = none := fun id => by cases id <;> rfl
  refine ⟨fun {pid id} hid => ?_, fun {pid id} hid => ?_, fun {id pid max} hopen => ?_,
    fun {pid id} hid => ?_, ?_, fun {s entry} hmem => ?_⟩
  · cases hid
  · cases hid
  · have hsome := (hnone id).symm.trans hopen
    cases hsome
  · cases hid
  · exact iff_of_false (by rintro ⟨⟩) (by rintro ⟨⟩)
  · cases hmem

/-- **In every reachable broker the records of channels are in order.** -/
theorem Reachable.orderly (h : b.Reachable) : b.Orderly := by
  induction h with
  | start _ _ started => exact orderly_of_started started
  | step _ op ih => exact ih.step op

/-! ### Watching -/

/-- In the course of an operation, every data channel is watched but the one
whose watcher has its turn. -/
def AttendedDuring (op : Op) (b : Broker) : Prop :=
  ∀ ws pid id, b.watchers = some ws → b.registry.channels.get? pid = some id →
    ws.contains id = true ∨ op = .poll id

/-- Where channels are watched, every data channel is. -/
def Attended (b : Broker) : Prop :=
  ∀ ws pid id, b.watchers = some ws → b.registry.channels.get? pid = some id →
    ws.contains id = true

/-- No channel comes, and none that stays loses its watcher. -/
theorem AttendedDuring.congr (h : b.AttendedDuring op)
    (channels : ∀ {pid id}, b'.registry.channels.get? pid = some id →
      b.registry.channels.get? pid = some id)
    (watchers : ∀ {ws'}, b'.watchers = some ws' → ∃ ws, b.watchers = some ws ∧
      ∀ {pid id}, b'.registry.channels.get? pid = some id → ws.contains id = true →
        ws'.contains id = true ∨ op = .poll id) : b'.AttendedDuring op := by
  intro ws' pid id hws' hid
  obtain ⟨ws, hws, hkept⟩ := watchers hws'
  rcases h ws pid id hws (channels hid) with hwatched | hpoll
  · exact hkept hid hwatched
  · exact .inr hpoll

/-- A watcher is taken from a channel that is no data channel any more. -/
theorem AttendedDuring.unwatch {old : ChannelId} (h : b.AttendedDuring op)
    (channels : ∀ {pid id}, b'.registry.channels.get? pid = some id →
      b.registry.channels.get? pid = some id ∧ id ≠ old)
    (watchers : b'.watchers = b.watchers.map fun ws => ws.erase old) : b'.AttendedDuring op := by
  refine h.congr (fun hid => (channels hid).1) fun {ws'} hws' => ?_
  rw [watchers] at hws'
  obtain ⟨ws, hws, rfl⟩ := Option.map_eq_some_iff.1 hws'
  refine ⟨ws, hws, fun {pid id} hid hwatched => .inl ?_⟩
  have hne : id ≠ old := (channels hid).2
  unfold Table.contains at hwatched ⊢
  rwa [Table.get?_erase_of_ne _ hne]

/-- A fresh channel is watched from now on. -/
theorem AttendedDuring.watch {new : ChannelId} (h : b.AttendedDuring op)
    (channels : ∀ {pid id}, b'.registry.channels.get? pid = some id → id ≠ new →
      b.registry.channels.get? pid = some id)
    (watchers : b'.watchers = b.watchers.map fun ws => ws.register b.config.transport new) :
    b'.AttendedDuring op := by
  intro ws' pid id hws' hid
  rw [watchers] at hws'
  obtain ⟨ws, hws, rfl⟩ := Option.map_eq_some_iff.1 hws'
  unfold Watchers.register Table.contains
  by_cases hnew : id = new
  · rw [hnew, Table.get?_insert_self]
    exact .inl rfl
  · rw [Table.get?_insert_of_ne _ _ hnew]
    exact h ws pid id hws (channels hid hnew)

theorem AttendedDuring.openDataChannel (ha : b.AttendedDuring op) (h : b.Orderly)
    (caller : Identity) : (b.openDataChannel caller).2.AttendedDuring op := by
  unfold Broker.openDataChannel forPid
  split
  · exact ha
  · have hkept : ∀ {pid id}, (b.registry.channels.insert caller.pid b.channels.next).get? pid
        = some id → id ≠ b.channels.next → pid ≠ caller.pid ∧
          b.registry.channels.get? pid = some id := by
      intro pid id hid hnew
      rw [Table.get?_insert] at hid
      split_ifs at hid with hpid
      · exact absurd (Option.some.inj hid).symm hnew
      · exact ⟨hpid, hid⟩
    cases hold : b.registry.channels.get? caller.pid with
    | none =>
      simp only [Registry.setChannel, Registry.setApp, hold]
      exact ha.watch (fun hid hnew => (hkept hid hnew).2) rfl
    | some old =>
      simp only [Registry.setChannel, Registry.setApp, hold]
      -- as if the old channel had been taken away before
      have hdropped : ({ b with
          suspension := (b.setRegistry { b.registry with
            channels := b.registry.channels.erase caller.pid }).suspension
          watchers := b.watchers.map fun ws => ws.erase old } : Broker).AttendedDuring op := by
        refine ha.unwatch (fun {pid id} hid => ?_) rfl
        have hget : (b.registry.channels.erase caller.pid).get? pid = some id := hid
        rw [Table.get?_erase] at hget
        split_ifs at hget with hpid
        exact ⟨hget, fun heq => hpid (h.eq_of_current hold (heq ▸ hget))⟩
      refine hdropped.watch (fun {pid id} hid hnew => ?_) rfl
      obtain ⟨hpid, hcurrent⟩ := hkept hid hnew
      show (b.registry.channels.erase caller.pid).get? pid = some id
      rw [Table.get?_erase_of_ne _ hpid, hcurrent]

theorem AttendedDuring.destroyChannel (ha : b.AttendedDuring op) (h : b.Orderly) {pid : Pid}
    {old : ChannelId} (hold : b.registry.channels.get? pid = some old)
    (channels : b'.registry.channels = b.registry.channels.erase pid)
    (watchers : b'.watchers = b.watchers.map fun ws => ws.erase old) : b'.AttendedDuring op := by
  refine ha.unwatch (fun {other id} hid => ?_) watchers
  rw [channels, Table.get?_erase] at hid
  split_ifs at hid with hother
  exact ⟨hid, fun heq => hother (h.eq_of_current hold (heq ▸ hid))⟩

theorem AttendedDuring.closeDataChannel (ha : b.AttendedDuring op) (h : b.Orderly)
    (caller : Identity) : (b.closeDataChannel caller).2.AttendedDuring op := by
  unfold Broker.closeDataChannel forPid Registry.destroyChannel
  split
  · exact ha
  · cases hold : b.registry.channels.get? caller.pid with
    | none => exact ha
    | some old => exact ha.destroyChannel h hold rfl rfl

theorem AttendedDuring.dropRecords (ha : b.AttendedDuring op) (h : b.Orderly) (pid : Pid) :
    (b.dropRecords pid).AttendedDuring op := by
  unfold Broker.dropRecords Registry.destroyClient Registry.destroyChannel
  cases hold : b.registry.channels.get? pid with
  | none => exact ha.congr (fun hid => hid) fun hws => ⟨_, hws, fun _ hwatched => .inl hwatched⟩
  | some old => exact ha.destroyChannel h hold rfl rfl

theorem AttendedDuring.dropSocketChannel (ha : b.AttendedDuring op) (h : b.Orderly) (pid : Pid) :
    (b.dropSocketChannel pid).AttendedDuring op := by
  unfold Broker.dropSocketChannel Directory.remove
  cases hold : b.directory.byPid.get? pid with
  | none => exact ha
  | some old =>
    have hcontains : b.directory.byChannel.contains old = true := h.contains_iff.2 ⟨pid, hold⟩
    simp only [hcontains, if_true]
    exact ha.unwatch (fun hid => ⟨hid, h.ne_of_listed hold hid⟩) rfl

theorem AttendedDuring.openSocketChannel (ha : b.AttendedDuring op) (h : b.Orderly)
    (caller : Identity) : (b.openSocketChannel caller).2.AttendedDuring op := by
  unfold Broker.openSocketChannel forPid
  split
  · exact ha
  · cases hold : b.directory.byPid.get? caller.pid with
    | none => exact ha.watch (fun hid _ => hid) rfl
    | some old =>
      have hdropped : (b.unwatch old).AttendedDuring op :=
        ha.unwatch (fun hid => ⟨hid, h.ne_of_listed hold hid⟩) rfl
      exact hdropped.watch (fun hid _ => hid) rfl

theorem AttendedDuring.giveUp (ha : b.AttendedDuring op) (id : ChannelId) :
    (b.setRecords (b.registry.releaseIfCurrent b.channels id).2.1
      (b.registry.releaseIfCurrent b.channels id).2.2).AttendedDuring op := by
  refine ha.congr (fun {pid other} hid => ?_) fun hws => ⟨_, hws, fun _ hwatched => .inl hwatched⟩
  have hget : (b.registry.releaseIfCurrent b.channels id).2.1.channels.get? pid = some other := hid
  unfold Registry.releaseIfCurrent at hget
  split at hget
  · exact hget
  · split_ifs at hget
    · simp only [Table.get?_erase] at hget
      split_ifs at hget
      exact hget
    · exact hget

theorem Shift.attended (shift : Shift op b b') (ha : b.AttendedDuring op) (h : b.Orderly) :
    b'.AttendedDuring op := by
  cases shift with
  | arbitrate kept =>
    exact ha.congr (fun hid => kept.channels ▸ hid) fun hws => ⟨_, hws, fun _ hw => .inl hw⟩
  | collect =>
    obtain ⟨queue, dropped, heq⟩ := b.exists_collect
    rw [heq]
    exact ha.congr id fun hws => ⟨_, hws, fun _ hw => .inl hw⟩
  | watchers attached others =>
    refine ha.congr id fun hws => ⟨_, attached, fun {pid id} _ hw => ?_⟩
    cases hws
    exact (others id).imp (fun hsame => hsame.trans hw) fun hpoll => hpoll
  | openData caller => exact ha.openDataChannel h caller
  | closeData caller => exact ha.closeDataChannel h caller
  | openSocket caller => exact ha.openSocketChannel h caller
  | dropSocket pid => exact ha.dropSocketChannel h pid
  | dropRecords pid => exact ha.dropRecords h pid
  | giveUp _ _ => exact ha.giveUp _
  | mock _ _ | raise _ | take _ _ | keep _ _ | count _ _ | flushes _ _ | listeners _ | forgetToken _
  | traffic _ _ | depart _ =>
    exact ha.congr id fun hws => ⟨_, hws, fun _ hw => .inl hw⟩

theorem Shifts.attended (shifts : Shifts op b b') (ha : b.AttendedDuring op) (h : b.Orderly) :
    b'.AttendedDuring op := by
  induction shifts with
  | refl => exact ha
  | tail before shift ih => exact shift.attended ih (Shifts.orderly before h)

end Broker
end SensorBroker
