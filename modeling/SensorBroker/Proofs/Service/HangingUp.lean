/-
# Who notices first that a data channel is of no more use

Two parties can find out that the client of a data channel is gone: the
watcher of the channel, which reads the end of what the client wrote, and the
dispatcher, whose send fails for good. The watcher takes it as the death of the
process. The dispatcher closes the channel and takes it away, and the watcher
stops in silence at a channel that was closed on the broker's side, so nobody
unwinds the process then: it keeps every subscription it has, and sensors stay
on for it (`Broker.dispatcher_first_unwinds_nothing`). What becomes of a data
channel while nobody asks the broker for anything is one of three fates
(`Broker.Fate`), and whoever comes first decides which.

Key definitions: `Broker.Op.Unasked`, `Broker.Spares`, `Broker.Fate`.
Key theorems: `Broker.Reachable.attended`, `Broker.Orderly.poll_of_current`,
`Broker.spares_run`, `Broker.Reachable.fate_of_data_channel`.
-/
import SensorBroker.Proofs.Service.Dying

namespace SensorBroker
namespace Broker

/-- What happens without a request: backends and clients do something, and the
dispatcher and the watchers have their turns. -/
def Op.Unasked : Op → Prop
  | .emit .. | .dispatch | .poll _ | .idle _ | .atClient .. => True
  | _ => False

/-- A process loses nothing but channels, and gains nothing. -/
structure Spares (pid : Pid) (b b' : Broker) : Prop where
  subscription : b'.registry.subscription pid = b.registry.subscription pid
  snapshot : b'.suspension.snapshots.get? pid = b.suspension.snapshots.get? pid
  app : b'.registry.apps.get? pid = b.registry.apps.get? pid
  listener : b'.registry.listeners.get? pid = b.registry.listeners.get? pid
  token : ∀ token, b'.registry.tokens.get? token = some pid ↔
    b.registry.tokens.get? token = some pid
  dataChannel : ∀ {id}, b'.registry.channels.get? pid = some id →
    b.registry.channels.get? pid = some id
  socketChannel : ∀ {id}, b'.directory.byPid.get? pid = some id →
    b.directory.byPid.get? pid = some id

variable {b b' : Broker} {pid : Pid} {id : ChannelId} {op : Op}

namespace Spares

/-- Records and socket channels are the same. -/
theorem of_eq (suspension : b'.suspension = b.suspension) (directory : b'.directory = b.directory) :
    Spares pid b b' := by
  have hregistry : b'.registry = b.registry :=
    congrArg (fun x : Suspension => x.arbitration.registry) suspension
  refine ⟨?_, ?_, ?_, ?_, fun token => ?_, fun {id} hid => ?_, fun {id} hid => ?_⟩
  · rw [hregistry]
  · rw [suspension]
  · rw [hregistry]
  · rw [hregistry]
  · rw [hregistry]
  · rwa [hregistry] at hid
  · rwa [directory] at hid

theorem refl (b : Broker) : Spares pid b b :=
  of_eq rfl rfl

theorem trans {b'' : Broker} (first : Spares pid b b') (second : Spares pid b' b'') :
    Spares pid b b'' where
  subscription := second.subscription.trans first.subscription
  snapshot := second.snapshot.trans first.snapshot
  app := second.app.trans first.app
  listener := second.listener.trans first.listener
  token token := (second.token token).trans (first.token token)
  dataChannel hid := first.dataChannel (second.dataChannel hid)
  socketChannel hid := first.socketChannel (second.socketChannel hid)

theorem dataChannel_none (h : Spares pid b b') (hnone : b.registry.channels.get? pid = none) :
    b'.registry.channels.get? pid = none := by
  cases hid : b'.registry.channels.get? pid with
  | none => rfl
  | some id => rw [← h.dataChannel hid, hnone]

theorem socketChannel_none (h : Spares pid b b') (hnone : b.directory.byPid.get? pid = none) :
    b'.directory.byPid.get? pid = none := by
  cases hid : b'.directory.byPid.get? pid with
  | none => rfl
  | some id => rw [← h.socketChannel hid, hnone]

/-- A process that is unwound stays so. -/
theorem unwound (h : Spares pid b b') (horderly : b'.Orderly) (hunwound : b.Unwound pid) :
    b'.Unwound pid := by
  refine horderly.unwound ?_ (h.dataChannel_none hunwound.dataChannel)
    (h.socketChannel_none hunwound.socketChannel) ?_ ?_ fun token htoken => ?_
  · rw [h.snapshot, hunwound.snapshot]
  · rw [h.app, hunwound.app]
  · rw [h.listener, hunwound.listener]
  · exact hunwound.token token ((h.token token).1 htoken)

end Spares

/-! ### The dispatcher -/

theorem spares_releaseIfCurrent (b : Broker) (cs : Channels) (id : ChannelId) :
    Spares pid b (b.setRecords (b.registry.releaseIfCurrent cs id).2.1
      (b.registry.releaseIfCurrent cs id).2.2) := by
  unfold Registry.releaseIfCurrent
  cases cs.get? id with
  | none => exact .of_eq rfl rfl
  | some s =>
    simp only
    split_ifs
    · refine ⟨rfl, rfl, rfl, rfl, fun _ => .rfl, fun {other} hid => ?_, fun hid => hid⟩
      have hget : (b.registry.channels.erase s.pid).get? pid = some other := hid
      rw [Table.get?_erase] at hget
      split_ifs at hget
      exact hget
    · exact .of_eq rfl rfl

theorem spares_sendOn (b : Broker) (frame : Bytes) (id : ChannelId) :
    Spares pid b (b.sendOn frame id).2 := by
  unfold sendOn
  split
  · exact .of_eq rfl rfl
  · next cs _ =>
    split_ifs
    · exact b.spares_releaseIfCurrent cs id
    · exact .of_eq rfl rfl

theorem spares_sendEach (frame : Bytes) : ∀ (ids : List ChannelId) (b : Broker),
    Spares pid b (sendEach frame ids b).2.2
  | [], b => .refl b
  | id :: rest, b => by
    have hhead : Spares pid b (b.sendOn frame id).2 := b.spares_sendOn frame id
    have hrest := hhead.trans (spares_sendEach frame rest _)
    rw [sendEach]
    simp only
    split
    · exact hrest
    · exact hrest

theorem spares_deliverSample (b : Broker) (e : Event) : Spares pid b (b.deliverSample e) := by
  have hstore : Spares pid b (b.setRegistry (b.registry.storeEvent e)) :=
    ⟨rfl, rfl, rfl, rfl, fun _ => .rfl, id, id⟩
  unfold deliverSample
  simp only
  split
  · exact hstore
  · exact (hstore.trans (spares_sendEach _ _ _)).trans (.of_eq rfl rfl)

theorem spares_deliverFlush (b : Broker) (e : Event) : Spares pid b (b.deliverFlush e) := by
  unfold deliverFlush
  split
  · exact .of_eq rfl rfl
  · next entry flushes _ =>
    simp only
    split
    · exact .of_eq rfl rfl
    · next frame _ =>
      have hpop : Spares pid b { b with flushes } := .of_eq rfl rfl
      exact (hpop.trans (spares_sendOn _ frame entry.channel)).trans (.of_eq rfl rfl)

/-- The dispatcher takes nothing from a process but its data channel. -/
theorem spares_route (b : Broker) (e : Event) : Spares pid b (b.route e) := by
  unfold route
  split
  · exact b.spares_deliverFlush e
  · exact b.spares_deliverSample e

theorem spares_dispatch (b : Broker) : Spares pid b b.dispatch := by
  unfold dispatch
  split
  · exact .refl b
  · next e rest _ =>
    have htake : Spares pid b { b with queue := rest } := .of_eq rfl rfl
    exact htake.trans (spares_route _ e)

/-- A data channel that was taken away is closed. -/
theorem Orderly.isClosed_of_lost (h : b.Orderly) (h' : b'.Orderly)
    (spared : ∀ pid, Spares pid b b') (hcurrent : b.registry.channels.get? pid = some id)
    (lost : b'.registry.channels.get? pid = none) : b'.channels.isClosed id = true := by
  refine h'.isClosed_of_vacant ⟨fun other hother => ?_, ?_⟩
  · have howner : other = pid := h.eq_of_current hcurrent ((spared other).dataChannel hother)
    rw [howner, lost] at hother
    cases hother
  · refine Bool.eq_false_iff.2 fun hlisted => ?_
    obtain ⟨other, hother⟩ := h'.contains_iff.1 hlisted
    exact h.ne_of_listed ((spared other).socketChannel hother) hcurrent rfl

/-! ### Watchers -/

/-- A death spares all others. -/
theorem spares_processDeath (b : Broker) {other : Pid} (hne : pid ≠ other) :
    Spares pid b (b.processDeath other).2 := by
  obtain ⟨hchannels, happs, hlisteners, htokens, hbyPid, hsnapshots⟩ := b.records_processDeath other
  obtain ⟨-, -, hothers⟩ := b.subscriptions_processDeath other
  refine ⟨funext (hothers pid hne), ?_, ?_, ?_, fun token => ?_, fun {id} hid => ?_,
    fun {id} hid => ?_⟩
  · rw [hsnapshots, Table.get?_erase_of_ne _ hne]
  · rw [happs, Table.get?_erase_of_ne _ hne]
  · rw [hlisteners, Table.get?_erase_of_ne _ hne]
  · rw [htokens, Table.get?_filter, Option.filter_eq_some_iff]
    exact and_iff_left (decide_eq_true hne)
  · rwa [hchannels, Table.get?_erase_of_ne _ hne] at hid
  · rwa [hbyPid, Table.get?_erase_of_ne _ hne] at hid

theorem spares_remove (b : Broker) (other : Pid) : Spares pid b { b with
    directory := (b.directory.remove b.channels other).2.1
    channels := (b.directory.remove b.channels other).2.2 } := by
  refine ⟨rfl, rfl, rfl, rfl, fun _ => .rfl, fun hid => hid, fun {id} hid => ?_⟩
  have hget : (b.directory.remove b.channels other).2.1.byPid.get? pid = some id := hid
  unfold Directory.remove at hget
  split at hget
  · exact hget
  · split_ifs at hget
    all_goals
      simp only [Table.get?_erase] at hget
      split_ifs at hget
      exact hget

/-- A watcher that hangs up takes nothing from a process whose data channel is
another. -/
theorem spares_hangUp (b : Broker) (hne : b.registry.channels.get? pid ≠ some id) :
    Spares pid b (b.hangUp id) := by
  unfold hangUp
  split
  · exact .refl b
  · next s _ =>
    split_ifs with hcurrent
    · exact b.spares_processDeath fun heq => hne (heq ▸ hcurrent)
    · exact b.spares_remove s.pid
    · exact .refl b

theorem spares_poll (b : Broker) (hne : b.registry.channels.get? pid ≠ some id) :
    Spares pid b (b.poll id) := by
  unfold poll
  split
  · exact .refl b
  · next ws _ =>
    have hread : Spares pid b { b with
        watchers := some (ws.poll b.channels id).2.2.1
        channels := (ws.poll b.channels id).2.2.2 } := .of_eq rfl rfl
    simp only
    split_ifs
    · exact hread.trans (spares_hangUp _ hne)
    · exact hread

/-- A watcher that hangs up leaves the data channels of all others. -/
theorem dataChannel_poll (b : Broker) (hne : b.registry.channels.get? pid ≠ some id) :
    (b.poll id).registry.channels.get? pid = b.registry.channels.get? pid := by
  unfold poll
  split
  · rfl
  · simp only
    split_ifs
    · unfold hangUp
      split
      · rfl
      · next s _ =>
        split_ifs with hcurrent
        · rw [(records_processDeath _ s.pid).1, Table.get?_erase_of_ne]
          · rfl
          · exact fun heq => hne (heq ▸ hcurrent)
        · rfl
        · rfl
    · rfl

/-- **The watcher of a data channel either goes on, and then the client was
still there, or its process dies.** -/
theorem Orderly.poll_of_current (h : b.Orderly) (ha : b.Attended) {ws : Watchers}
    (hws : b.watchers = some ws) (hcurrent : b.registry.channels.get? pid = some id) :
    (∃ w channels, b.poll id = { b with watchers := some (ws.insert id w), channels } ∧
        ∀ s, b.channels.get? id = some s → s.link.clientGone = false) ∨
      ∃ channels, (∀ other, Channels.traits? channels other = b.channels.traits? other) ∧
        b.poll id =
          (({ b with watchers := some (ws.erase id), channels } : Broker).processDeath pid).2 := by
  have htraits := h.current hcurrent
  obtain ⟨s, hs, hsession⟩ := Option.map_eq_some_iff.1 htraits
  have howner : s.pid = pid := congrArg Prod.fst hsession
  have hopen : s.isClosed = false := congrArg (fun t => t.2.1) hsession
  obtain ⟨w, hw⟩ := Option.isSome_iff_exists.1 (ha ws pid id hws hcurrent)
  have hpoll : ws.poll b.channels id = ((w.run s).packets, (w.run s).status,
      if (w.run s).status = .watching then ws.insert id (w.run s).watcher else ws.erase id,
      b.channels.update id fun _ => (w.run s).session) := by
    unfold Watchers.poll
    rw [hw, hs]
  unfold poll
  rw [hws]
  simp only [hpoll]
  cases hstatus : (w.run s).status with
  | watching =>
    refine .inl ⟨(w.run s).watcher, b.channels.update id fun _ => (w.run s).session, rfl,
      fun s' hs' => ?_⟩
    rw [hs] at hs'
    cases hs'
    refine Bool.not_eq_true _ ▸ fun hgone => ?_
    rw [Watcher.status_run_of_gone hopen hgone] at hstatus
    cases hstatus
  | hungUp =>
    have hread := ws.traits?_poll b.channels id
    rw [hpoll] at hread
    refine .inr ⟨b.channels.update id fun _ => (w.run s).session, hread, ?_⟩
    have hget : (b.channels.update id fun _ => (w.run s).session).get? id
        = some (w.run s).session := by
      rw [Channels.get?_update_self, hs, Option.map_some]
    have hpid : (w.run s).session.pid = pid :=
      (congrArg Prod.fst (w.traits_run s)).trans howner
    simp only [if_true, reduceCtorEq, if_false]
    unfold hangUp
    simp only [hget, hpid]
    exact if_pos hcurrent
  | closed => exact absurd hstatus (Watcher.status_run_ne_closed hopen)

theorem dataChannel_processDeath (b : Broker) (pid : Pid) :
    (b.processDeath pid).2.registry.channels.get? pid = none := by
  rw [(b.records_processDeath pid).1, Table.get?_erase_self]

theorem Orderly.attended_poll (h : b.Orderly) (ha : b.Attended) (id : ChannelId) :
    (b.poll id).Attended := by
  intro ws' pid other hws' hother
  have hduring : b.AttendedDuring (.poll id) :=
    fun ws pid other hws hother => .inl (ha ws pid other hws hother)
  rcases (b.shifts_poll rfl).attended hduring h ws' pid other hws' hother with hwatched | hturn
  · exact hwatched
  · -- the channel whose watcher had its turn is still a data channel, so the watcher went on
    cases hturn
    by_cases hcurrent : b.registry.channels.get? pid = some id
    · cases hws : b.watchers with
      | none =>
        unfold poll at hws'
        rw [hws] at hws'
        simp only [hws] at hws'
        cases hws'
      | some ws =>
        rcases h.poll_of_current ha hws hcurrent with
          ⟨w, channels, hpoll, -⟩ | ⟨channels, -, hpoll⟩
        · rw [hpoll] at hws'
          cases hws'
          rw [Table.contains, Table.get?_insert_self]
          rfl
        · rw [hpoll, dataChannel_processDeath] at hother
          cases hother
    · exact absurd ((b.spares_poll hcurrent).dataChannel hother) hcurrent

/-- **Where channels are watched, every data channel is, in every reachable
broker.** -/
theorem Reachable.attended (h : b.Reachable) : b.Attended := by
  induction h with
  | start _ _ started =>
    intro ws pid id _ hid
    have hnone := (orderly_of_started started).current hid
    obtain ⟨hw, -, rfl⟩ := start_ok started
    cases hid
  | @step b before op ih =>
    have hduring : b.AttendedDuring op :=
      fun ws pid other hws hother => .inl (ih ws pid other hws hother)
    have hafter := (b.shifts_step op before.orderly.serves_apart).attended hduring before.orderly
    intro ws pid id hws hid
    rcases hafter ws pid id hws hid with hwatched | rfl
    · exact hwatched
    · exact before.orderly.attended_poll ih id ws pid id hws hid

/-- Whether channels are watched is settled at the start. -/
theorem Shift.isSome_watchers (shift : Shift op b b') :
    b'.watchers.isSome = b.watchers.isSome := by
  rcases shift.uneventful_or with haside | rfl | ⟨_, _, -, rfl⟩ | ⟨_, _, -, -, rfl⟩ | ⟨_, -, -, rfl⟩
  · exact haside.watching
  · obtain ⟨queue, dropped, heq⟩ := b.exists_collect
    rw [heq]
    rfl
  · rfl
  · rfl
  · rfl

theorem Shifts.isSome_watchers (shifts : Shifts op b b') :
    b'.watchers.isSome = b.watchers.isSome := by
  induction shifts with
  | refl => rfl
  | tail _ shift ih => exact shift.isSome_watchers.trans ih

/-! ### While nobody asks for anything -/

/-- A backend raises an event, a client does something, a watcher waits in
vain. -/
theorem exists_of_unasked (hop : op.Unasked) (hdispatch : op ≠ .dispatch)
    (hpoll : ∀ id, op ≠ .poll id) : ∃ h queue dropped channels, b.step op =
      { b.setHardware h with queue, dropped, channels } := by
  cases op with
  | emit slot e =>
    obtain ⟨queue, dropped, heq⟩ := (b.setHardware (b.hardware.emit slot e)).exists_collect
    exact ⟨_, queue, dropped, b.channels, heq⟩
  | idle id =>
    refine ⟨b.hardware, b.queue, b.dropped, (b.idle id).channels, ?_⟩
    show b.idle id = _
    unfold idle
    split <;> rfl
  | atClient id a =>
    exact ⟨b.hardware, b.queue, b.dropped, (b.atClient id a).channels, rfl⟩
  | dispatch => exact absurd rfl hdispatch
  | poll id => exact absurd rfl (hpoll id)
  | _ => exact hop.elim

/-- What is not asked for takes nothing from a process whose data channel is
not the one that is polled. -/
theorem spares_step (hop : op.Unasked)
    (hother : ∀ id, op = .poll id → b.registry.channels.get? pid ≠ some id) :
    Spares pid b (b.step op) := by
  by_cases hdispatch : op = .dispatch
  · rw [hdispatch]
    exact b.spares_dispatch
  · by_cases hpoll : ∃ id, op = .poll id
    · obtain ⟨id, rfl⟩ := hpoll
      exact b.spares_poll (hother id rfl)
    · obtain ⟨h, queue, dropped, channels, heq⟩ :=
        exists_of_unasked (b := b) hop hdispatch fun id hid => hpoll ⟨id, hid⟩
      rw [heq]
      exact ⟨rfl, rfl, rfl, rfl, fun _ => .rfl, fun hid => hid, fun hid => hid⟩

/-- Only the dispatcher takes a data channel away that is not polled. -/
theorem dataChannel_step (hop : op.Unasked) (hdispatch : op ≠ .dispatch)
    (hother : ∀ id, op = .poll id → b.registry.channels.get? pid ≠ some id) :
    (b.step op).registry.channels.get? pid = b.registry.channels.get? pid := by
  by_cases hpoll : ∃ id, op = .poll id
  · obtain ⟨id, rfl⟩ := hpoll
    exact b.dataChannel_poll (hother id rfl)
  · obtain ⟨h, queue, dropped, channels, heq⟩ :=
      exists_of_unasked (b := b) hop hdispatch fun id hid => hpoll ⟨id, hid⟩
    rw [heq]
    rfl

/-- **A process without a data channel is left alone.** -/
theorem spares_run {b : Broker} (hnone : b.registry.channels.get? pid = none) :
    ∀ {ops : List Op}, (∀ op ∈ ops, op.Unasked) → Spares pid b (b.run ops)
  | [], _ => .refl b
  | op :: ops, hops => by
    have hhead : Spares pid b (b.step op) := by
      refine spares_step (hops op List.mem_cons_self) fun id _ hid => ?_
      rw [hnone] at hid
      cases hid
    have hrest := spares_run (hhead.dataChannel_none hnone)
      fun op' hop' => hops op' (List.mem_cons_of_mem _ hop')
    exact hhead.trans hrest

/-- What became of the data channel of a process while nobody asked for
anything. -/
inductive Fate (b : Broker) (pid : Pid) (id : ChannelId) (ops : List Op) : Prop
  /-- Nobody gave it up; whenever its watcher read it, the client was there. -/
  | unnoticed (current : (b.run ops).registry.channels.get? pid = some id)
    (spared : Spares pid b (b.run ops))
    (there : ∀ before after, ops = before ++ .poll id :: after →
      ∀ s, (b.run before).channels.get? id = some s → s.link.clientGone = false)
  /-- Its watcher came first: the process died, and nobody gives it anything back. -/
  | hungUp (before after : List Op) (split : ops = before ++ .poll id :: after)
    (current : (b.run before).registry.channels.get? pid = some id)
    (spared : Spares pid b (b.run before))
    (died : ∃ watchers channels outcome,
      ({ b.run before with watchers, channels } : Broker).processDeath pid
          = (outcome, (b.run before).step (.poll id)) ∧
        (b.run before).Dies pid outcome ((b.run before).step (.poll id)))
    (later : Spares pid ((b.run before).step (.poll id)) (b.run ops))
    (unwound : (b.run ops).Unwound pid)
  /-- The dispatcher came first: the channel is closed, and the process keeps all
  that it had besides. -/
  | givenUp (before after : List Op) (split : ops = before ++ .dispatch :: after)
    (current : (b.run before).registry.channels.get? pid = some id)
    (closed : ((b.run before).step .dispatch).channels.isClosed id = true)
    (gone : (b.run ops).registry.channels.get? pid = none)
    (spared : Spares pid b (b.run ops))

/-- What a watcher reads before it hangs up is nothing to the death of the
process. -/
theorem Orderly.dies_of_read (h : b.Orderly) {channels : Channels}
    (traits : ∀ id, channels.traits? id = b.channels.traits? id) (pid : Pid)
    (watchers : Option Watchers) :
    b.Dies pid (({ b with watchers, channels } : Broker).processDeath pid).1
      (({ b with watchers, channels } : Broker).processDeath pid).2 := by
  have hread : ({ b with watchers, channels } : Broker).Orderly :=
    h.congr rfl rfl traits rfl .inl
  have hdies := hread.dies_processDeath pid
  exact ⟨hdies.unwound, hdies.once, hdies.named, hdies.left, hdies.subscriptions, hdies.snapshots,
    hdies.tokens, hdies.apps, hdies.listeners, hdies.dataChannels, hdies.socketChannels⟩

/-- What became of the channel in the course of one operation and those that
follow it. -/
theorem Fate.cons {ops : List Op} (first : Spares pid b (b.step op))
    (there : op = .poll id → ∀ s, b.channels.get? id = some s → s.link.clientGone = false)
    (rest : (b.step op).Fate pid id ops) : b.Fate pid id (op :: ops) := by
  cases rest with
  | unnoticed current spared hthere =>
    refine .unnoticed current (first.trans spared) fun before after hsplit => ?_
    cases before with
    | nil =>
      cases hsplit
      exact there rfl
    | cons op' before =>
      cases hsplit
      exact hthere before after rfl
  | hungUp before after split current spared died later unwound =>
    refine .hungUp (op :: before) after ?_ current (first.trans spared) died later unwound
    rw [split]
    rfl
  | givenUp before after split current closed gone spared =>
    refine .givenUp (op :: before) after ?_ current closed gone (first.trans spared)
    rw [split]
    rfl

/-- Where no watcher has its turn, only the dispatcher takes a data channel
away. -/
theorem kept_or_dispatched (hop : op.Unasked)
    (hother : ∀ other, op = .poll other → b.registry.channels.get? pid ≠ some other)
    (hcurrent : b.registry.channels.get? pid = some id) :
    (b.step op).registry.channels.get? pid = some id ∨
      op = .dispatch ∧ (b.step op).registry.channels.get? pid = none := by
  by_cases hdispatch : op = .dispatch
  · have hspared : Spares pid b (b.step op) := spares_step hop hother
    cases hkept : (b.step op).registry.channels.get? pid with
    | none => exact .inr ⟨hdispatch, rfl⟩
    | some other =>
      have hbefore := hspared.dataChannel hkept
      rw [hcurrent] at hbefore
      exact .inl hbefore.symm
  · have hsame := dataChannel_step hop hdispatch hother
    exact .inl (hsame.trans hcurrent)

/-- **Whoever notices first decides**: a data channel whose client is gone is
given up when its watcher reads it or the dispatcher fails to send on it. If
the watcher does, the process is unwound; if the dispatcher does, it keeps
every subscription, whatever the watcher reads later. -/
theorem Reachable.fate_of_data_channel {b : Broker} (hb : b.Reachable)
    (hwatched : b.watchers.isSome = true) (hcurrent : b.registry.channels.get? pid = some id) :
    ∀ {ops : List Op}, (∀ op ∈ ops, op.Unasked) → b.Fate pid id ops
  | [], _ => .unnoticed hcurrent (.refl b) fun before after hsplit => by
      have hlength := congrArg List.length hsplit
      simp at hlength
  | op :: ops, hops => by
    have hop : op.Unasked := hops op List.mem_cons_self
    have hrest : ∀ op' ∈ ops, op'.Unasked := fun op' hop' => hops op' (List.mem_cons_of_mem _ hop')
    have hb' : (b.step op).Reachable := hb.step op
    have hshifts := b.shifts_step op hb.orderly.serves_apart
    have hwatched' : (b.step op).watchers.isSome = true := hshifts.isSome_watchers.trans hwatched
    obtain ⟨ws, hws⟩ := Option.isSome_iff_exists.1 hwatched
    by_cases hpoll : op = .poll id
    · subst hpoll
      rcases hb.orderly.poll_of_current hb.attended hws hcurrent with
        ⟨w, channels, heq, hthere⟩ | ⟨channels, htraits, heq⟩
      · have hspared : Spares pid b (b.step (.poll id)) := by
          rw [show b.step (.poll id) = _ from heq]
          exact .of_eq rfl rfl
        have hstill : (b.step (.poll id)).registry.channels.get? pid = some id := by
          rw [show b.step (.poll id) = _ from heq]
          exact hcurrent
        exact .cons hspared (fun _ => hthere) (hb'.fate_of_data_channel hwatched' hstill hrest)
      · have hdies := hb.orderly.dies_of_read htraits pid (some (ws.erase id))
        rw [← heq] at hdies
        have hlater : Spares pid (b.step (.poll id)) (b.run (.poll id :: ops)) :=
          spares_run hdies.unwound.dataChannel hrest
        refine .hungUp [] ops rfl hcurrent (.refl b)
          ⟨some (ws.erase id), channels, _, Prod.ext rfl heq.symm, hdies⟩ hlater ?_
        exact hlater.unwound (hb'.run ops).orderly hdies.unwound
    · have hother : ∀ other, op = .poll other → b.registry.channels.get? pid ≠ some other := by
        intro other hturn hid
        rw [hcurrent] at hid
        cases hid
        exact hpoll hturn
      have hspared : Spares pid b (b.step op) := spares_step hop hother
      rcases kept_or_dispatched hop hother hcurrent with hkept | ⟨rfl, hkept⟩
      · exact .cons hspared (fun heq => absurd heq hpoll)
          (hb'.fate_of_data_channel hwatched' hkept hrest)
      · have hclosed := hb.orderly.isClosed_of_lost hb'.orderly
          (fun _ => b.spares_dispatch) hcurrent hkept
        have hlater : Spares pid (b.step .dispatch) (b.run (.dispatch :: ops)) :=
          spares_run hkept hrest
        exact .givenUp [] ops rfl hcurrent hclosed (hlater.dataChannel_none hkept)
          (hspared.trans hlater)

/-- A broker like the trial one, whose channels are watched; one process has a
data channel and subscribes to the accelerometer. -/
def watchedTrial : Broker :=
  (ofConfig {} (.ofSettings {} (.scripted "real" [Device.scriptedDescriptor .accelerometer]
    (fun _ _ => false) false true) fun _ => .software) default true).start.2.run
    [.openDataChannel ⟨100, 1000, 7⟩, .enable ⟨100, 1000, 7⟩ .accelerometer ⟨1000000, 0⟩]

theorem reachable_watchedTrial : watchedTrial.Reachable := by
  refine Reachable.run ?_ _
  exact reachable_start ⟨rfl, rfl⟩ (fun _ => ⟨rfl, rfl⟩) rfl

/-- A client leaves, and its watcher reads the channel before the dispatcher
sends on it. -/
theorem watcher_first_unwinds :
    watchedTrial.registry.channels.get? 100 = some 0 ∧
      (watchedTrial.run [.atClient 0 .leave, .emit .vendor (.sample .accelerometer 5 []), .poll 0,
        .dispatch]).Unwound 100 := by
  have hcurrent : watchedTrial.registry.channels.get? 100 = some 0 := by decide +kernel
  have hops : ∀ op ∈ [Op.atClient 0 .leave, .emit .vendor (.sample .accelerometer 5 []), .poll 0,
      .dispatch], op.Unasked := by
    intro op hop
    simp only [List.mem_cons, List.not_mem_nil, or_false] at hop
    rcases hop with rfl | rfl | rfl | rfl <;> trivial
  refine ⟨hcurrent, ?_⟩
  rcases reachable_watchedTrial.fate_of_data_channel (by decide) hcurrent hops with
    ⟨hstill, -, -⟩ | ⟨_, _, _, _, _, _, _, hunwound⟩ | ⟨_, _, _, _, _, _, hspared⟩
  · exact absurd hstill (by decide +kernel)
  · exact hunwound
  · have hkept := congrFun hspared.subscription .accelerometer
    exact absurd hkept (by decide +kernel)

/-- The same four things happen in either order of watcher and dispatcher: if
the watcher comes first, the process loses its subscription and the sensor goes
off; if the dispatcher does, both stay, though the channel is gone. -/
theorem dispatcher_first_unwinds_nothing :
    let watcherFirst := watchedTrial.run [.atClient 0 .leave,
      .emit .vendor (.sample .accelerometer 5 []), .poll 0, .dispatch]
    let dispatcherFirst := watchedTrial.run [.atClient 0 .leave,
      .emit .vendor (.sample .accelerometer 5 []), .dispatch, .poll 0]
    watchedTrial.Reachable ∧ watchedTrial.registry.channels.get? 100 = some 0 ∧
      watcherFirst.registry.subscription 100 .accelerometer = none ∧
      watcherFirst.hardware.runs .accelerometer = false ∧
      dispatcherFirst.registry.channels.get? 100 = none ∧
      dispatcherFirst.registry.subscription 100 .accelerometer = some ⟨1000000, 0⟩ ∧
      dispatcherFirst.hardware.runs .accelerometer = true :=
  ⟨reachable_watchedTrial, by decide +kernel, by decide +kernel, by decide +kernel,
    by decide +kernel, by decide +kernel, by decide +kernel⟩

end Broker
end SensorBroker
