/-
# The subscriptions as one map of pairs

The registry keeps a table of subscribers for each sensor, and half of what it
is asked goes the other way, by process. Beside it stands a smaller machine, a
`Book`: its subscriptions are one finite map from pairs of a process and a
sensor to what was asked, and with it go a map from processes to their data
channels and the set of the channels closed so far. After any history of
operations the two have given the same replies and hold the same, and every
view of the registry is a listing of the book, by ascending id and with no id
twice.

Who a process is, its death tokens, the listeners and the last events are
records of their own, and no reply given here depends on them.

Key definitions: `Registry.Op`, `Registry.Reply`, `Registry.step`, `Book`,
`Book.step`, `Lists`, `Registry.Shows`.
Key theorems: `Registry.keeps_step`, `Registry.shows_of_keeps`,
`Registry.run_meets_book`.
-/
import Mathlib.Data.Finmap
import SensorBroker.Proofs.Service.Records

namespace SensorBroker

/-! ### What the registry is asked -/

namespace Registry

/-- What is asked of the records of subscriptions and data channels. -/
inductive Op
  | add (pid : Pid) (s : SensorId) (request : Request)
  | update (pid : Pid) (s : SensorId) (request : Request)
  /-- Ends a subscription; with `teardown`, the data channel goes with the last. -/
  | remove (pid : Pid) (s : SensorId) (teardown : Bool)
  | setChannel (pid : Pid) (id : ChannelId)
  | destroyChannel (pid : Pid)
  /-- Closes a channel, and takes it away if it is current. -/
  | release (id : ChannelId)
  | destroyClient (pid : Pid)

/-- What the records reply. -/
inductive Reply
  | added
  /-- What was asked before, and the channel that was released. -/
  | was (old : Request) (released : Option ChannelId)
  /-- The data channel that a process had. -/
  | had (old : Option ChannelId)
  /-- Whether a channel was current. -/
  | current (yes : Bool)
  | refused (e : ServiceError)
deriving DecidableEq

/-- Whether an operation was refused. -/
def Reply.isRefused : Reply → Bool
  | .refused _ => true
  | _ => false

/-- The sensor whose subscribers an operation would change. -/
def Op.sensor? : Op → Option SensorId
  | .add _ s _ | .update _ s _ | .remove _ s _ => some s
  | _ => none

/-- Whether an operation with this reply has changed the subscribers of a
sensor. -/
def mutates (s : SensorId) (turn : Op × Reply) : Bool :=
  decide (turn.1.sensor? = some s) && !turn.2.isRefused

/-- The reply to an operation, and what is recorded then. -/
def step (r : Registry) (cs : Channels) : Op → Reply × Registry × Channels
  | .add pid s request =>
    match r.add pid s request with
    | (.ok _, r) => (.added, r, cs)
    | (.error e, r) => (.refused e, r, cs)
  | .update pid s request =>
    match r.update pid s request with
    | (.ok old, r) => (.was old none, r, cs)
    | (.error e, r) => (.refused e, r, cs)
  | .remove pid s teardown =>
    if teardown then
      match r.removeAndRelease cs pid s with
      | (.ok (old, released), r, cs) => (.was old released, r, cs)
      | (.error e, r, cs) => (.refused e, r, cs)
    else
      match r.remove pid s with
      | (.ok old, r) => (.was old none, r, cs)
      | (.error e, r) => (.refused e, r, cs)
  | .setChannel pid id => (.had (r.setChannel pid id).1, (r.setChannel pid id).2, cs)
  | .destroyChannel pid => (.had (r.destroyChannel cs pid).1, (r.destroyChannel cs pid).2)
  | .release id => (.current (r.releaseIfCurrent cs id).1, (r.releaseIfCurrent cs id).2)
  | .destroyClient pid => (.had (r.destroyClient cs pid).1.channel, (r.destroyClient cs pid).2)

/-- The replies to a history of operations, and what is recorded then. -/
def run (r : Registry) (cs : Channels) : List Op → List Reply × Registry × Channels
  | [] => ([], r, cs)
  | op :: ops =>
    let turn := r.step cs op
    let later := run turn.2.1 turn.2.2 ops
    (turn.1 :: later.1, later.2)

end Registry

/-! ### The book -/

/-- What the registry records, as maps. -/
structure Book where
  /-- What a process asked of a sensor. -/
  pairs : Finmap fun _ : Pid × SensorId => Request
  /-- The data channel of a process. -/
  channels : Finmap fun _ : Pid => ChannelId
  /-- The channels that were closed. -/
  closed : Finset ChannelId

namespace Book

/-- A book in which nothing is written. -/
def blank : Book := ⟨∅, ∅, ∅⟩

/-- Takes the data channel of a process away, if it has one, and closes it. -/
def dropChannel (m : Book) (pid : Pid) : Book :=
  { m with
    channels := m.channels.erase pid
    closed := m.closed ∪ (m.channels.lookup pid).toFinset }

/-- The reply to an operation, and the book then; `owner` says whose a channel
is. -/
def step (owner : ChannelId → Option Pid) (m : Book) : Registry.Op → Registry.Reply × Book
  | .add pid s request =>
    match m.pairs.lookup (pid, s) with
    | none => (.added, { m with pairs := m.pairs.insert (pid, s) request })
    | some _ => (.refused (.alreadySubscribed pid s), m)
  | .update pid s request =>
    match m.pairs.lookup (pid, s) with
    | some old => (.was old none, { m with pairs := m.pairs.insert (pid, s) request })
    | none => (.refused (.notSubscribed pid s), m)
  | .remove pid s teardown =>
    match m.pairs.lookup (pid, s) with
    | some old =>
      let m := { m with pairs := m.pairs.erase (pid, s) }
      if teardown ∧ ∀ pair ∈ m.pairs.keys, pair.1 ≠ pid then
        (.was old (m.channels.lookup pid), m.dropChannel pid)
      else (.was old none, m)
    | none => (.refused (.notSubscribed pid s), m)
  | .setChannel pid id =>
    (.had (m.channels.lookup pid), { m with channels := m.channels.insert pid id })
  | .destroyChannel pid | .destroyClient pid => (.had (m.channels.lookup pid), m.dropChannel pid)
  | .release id =>
    match owner id with
    | none => (.current false, m)
    | some pid =>
      if m.channels.lookup pid = some id then (.current true, m.dropChannel pid)
      else (.current false, { m with closed := insert id m.closed })

/-- The replies to a history of operations, and the book then. -/
def run (owner : ChannelId → Option Pid) (m : Book) : List Registry.Op → List Registry.Reply × Book
  | [] => ([], m)
  | op :: ops =>
    let turn := m.step owner op
    let later := run owner turn.2 ops
    (turn.1 :: later.1, later.2)

end Book

/-! ### What the registry shows of a book -/

/-- A list holds exactly the things with a property, by ascending key and with
no key twice. -/
structure Lists {α κ : Type} [Key κ] (xs : List α) (key : α → κ) (p : α → Prop) : Prop where
  mem_iff (x : α) : x ∈ xs ↔ p x
  ascends : xs.Pairwise fun x y => Key.rank (key x) < Key.rank (key y)

/-- Whose a channel is. -/
def Channels.owner (cs : Channels) (id : ChannelId) : Option Pid :=
  (cs.get? id).map Session.pid

/-- The session with this number, once these channels were closed. -/
def Channels.onceClosed (cs : Channels) (closed : Finset ChannelId) (id : ChannelId) :
    Option Session :=
  if id ∈ closed then (cs.get? id).map Session.close else cs.get? id

/-- Every view of a registry lists what a book says. -/
structure Registry.Shows (r : Registry) (m : Book) : Prop where
  subscription (pid : Pid) (s : SensorId) : r.subscription pid s = m.pairs.lookup (pid, s)
  sensorsOf (pid : Pid) : Lists (r.sensorsOf pid) id fun s => (pid, s) ∈ m.pairs
  subscribers (s : SensorId) : Lists (r.subscribers s) id fun pid => (pid, s) ∈ m.pairs
  subscriptionsOf (s : SensorId) : Lists (r.subscriptionsOf s).entries Prod.fst
    fun e => m.pairs.lookup (e.1, s) = some e.2
  isSubscribed (s : SensorId) : r.isSubscribed s = true ↔ ∃ pid, (pid, s) ∈ m.pairs
  activeInfo (pid : Pid) : Lists (r.activeInfo pid) ActiveInfo.sensor
    fun i => i.pid = pid ∧ m.pairs.lookup (pid, i.sensor) = some ⟨i.period, i.delay⟩
  channel (pid : Pid) : r.channels.get? pid = m.channels.lookup pid
  activeChannels (s : SensorId) :
    r.activeChannels s = (r.subscribers s).filterMap m.channels.lookup

/-- A registry and its channels hold what a book says; `cs₀` are the channels
there were at the start. -/
structure Registry.Keeps (cs₀ : Channels) (r : Registry) (cs : Channels) (m : Book) : Prop where
  subscription (pid : Pid) (s : SensorId) : r.subscription pid s = m.pairs.lookup (pid, s)
  channel (pid : Pid) : r.channels.get? pid = m.channels.lookup pid
  session (id : ChannelId) : cs.get? id = cs₀.onceClosed m.closed id

/-! ### Views -/

/-- A listing of the same things under another description. -/
theorem Lists.congr {α κ : Type} [Key κ] {xs : List α} {key : α → κ} {p q : α → Prop}
    (h : Lists xs key p) (hpq : ∀ x, p x ↔ q x) : Lists xs key q :=
  ⟨fun x => (h.mem_iff x).trans (hpq x), h.ascends⟩

namespace Registry

theorem lists_entries {κ ν : Type} [Key κ] (t : Table κ ν) :
    Lists t.entries Prod.fst fun e => t.get? e.1 = some e.2 :=
  ⟨fun _ => t.mem_entries_iff, t.sorted⟩

theorem lists_keys {κ ν : Type} [Key κ] (t : Table κ ν) :
    Lists t.keys id fun k => (t.get? k).isSome = true := by
  refine ⟨fun k => ?_, List.pairwise_map.2 t.sorted⟩
  rw [t.mem_keys_iff, Option.isSome_iff_exists]

/-- What a process asked of a sensor is found under the sensor. -/
theorem subscription_eq_some_iff (r : Registry) {pid : Pid} {s : SensorId} {request : Request} :
    r.subscription pid s = some request ↔
      ∃ t, r.subscriptions.get? s = some t ∧ t.get? pid = some request := by
  unfold subscription subscriptionsOf Table.getD
  cases r.subscriptions.get? s with
  | none => simp
  | some t => simp

theorem lists_sensorsOf (r : Registry) (pid : Pid) :
    Lists (r.sensorsOf pid) id fun s => (r.subscription pid s).isSome = true := by
  refine ⟨fun s => ?_, (lists_keys _).ascends⟩
  rw [sensorsOf, Table.mem_keys_iff, Option.isSome_iff_exists]
  simp only [Table.get?_filter, Option.filter_eq_some_iff, subscription_eq_some_iff, Table.contains,
    Option.isSome_iff_exists]
  constructor
  · rintro ⟨t, ht, request, hrequest⟩
    exact ⟨request, t, ht, hrequest⟩
  · rintro ⟨request, t, ht, hrequest⟩
    exact ⟨t, ht, request, hrequest⟩

theorem lists_activeInfo (r : Registry) (pid : Pid) :
    Lists (r.activeInfo pid) ActiveInfo.sensor
      fun i => i.pid = pid ∧ r.subscription pid i.sensor = some ⟨i.period, i.delay⟩ := by
  constructor
  · intro i
    simp only [activeInfo, List.mem_filterMap, Option.map_eq_some_iff, subscription_eq_some_iff]
    constructor
    · rintro ⟨⟨s, t⟩, hmem, request, hrequest, rfl⟩
      exact ⟨rfl, t, r.subscriptions.mem_entries_iff.1 hmem, hrequest⟩
    · rintro ⟨rfl, t, ht, hrequest⟩
      exact ⟨(i.sensor, t), r.subscriptions.mem_entries_iff.2 ht, _, hrequest, rfl⟩
  · refine r.subscriptions.sorted.filterMap _ fun e e' hlt i hi i' hi' => ?_
    obtain ⟨request, -, rfl⟩ := Option.map_eq_some_iff.1 hi
    obtain ⟨request', -, rfl⟩ := Option.map_eq_some_iff.1 hi'
    exact hlt

/-- **What holds the same as a book shows it in every view.** -/
theorem shows_of_keeps {cs₀ cs : Channels} {r : Registry} {m : Book} (h : Keeps cs₀ r cs m) :
    r.Shows m := by
  have hpair (pid : Pid) (s : SensorId) :
      (r.subscription pid s).isSome = true ↔ (pid, s) ∈ m.pairs := by
    rw [h.subscription, Finmap.lookup_isSome]
  have hsubscribers (s : SensorId) :
      Lists (r.subscribers s) id fun pid => (pid, s) ∈ m.pairs :=
    (lists_keys (r.subscriptionsOf s)).congr fun pid => hpair pid s
  refine ⟨h.subscription, fun pid => ?_, hsubscribers, fun s => ?_, fun s => ?_, fun pid => ?_,
    h.channel, fun s => ?_⟩
  · exact (r.lists_sensorsOf pid).congr (hpair pid)
  · refine (lists_entries (r.subscriptionsOf s)).congr fun e => ?_
    rw [← h.subscription]
    rfl
  · have hsome : r.isSubscribed s = true ↔ ∃ pid, pid ∈ r.subscribers s := by
      rw [isSubscribed_iff, ne_eq, ← subscribers_eq_nil_iff, List.eq_nil_iff_forall_not_mem]
      push Not
      rfl
    exact hsome.trans (exists_congr (hsubscribers s).mem_iff)
  · refine (r.lists_activeInfo pid).congr fun i => ?_
    rw [h.subscription]
  · exact List.filterMap_congr fun pid _ => h.channel pid

/-! ### One operation -/

theorem keeps_empty (cs : Channels) : Keeps cs ∅ cs .blank :=
  ⟨fun _ _ => rfl, fun _ => rfl, fun _ => rfl⟩

variable {cs₀ cs : Channels} {r : Registry} {m : Book}

theorem Keeps.owner_eq (h : Keeps cs₀ r cs m) (id : ChannelId) : cs.owner id = cs₀.owner id := by
  unfold Channels.owner
  rw [h.session, Channels.onceClosed]
  split_ifs
  · rw [Option.map_map]
    rfl
  · rfl

/-- Different pairs differ in the process or in the sensor. -/
theorem ne_or_ne_of_pair_ne {pid other : Pid} {s s' : SensorId} (h : (other, s') ≠ (pid, s)) :
    other ≠ pid ∨ s' ≠ s := by
  by_contra hboth
  rw [not_or, not_not, not_not] at hboth
  exact h (Prod.ext hboth.1 hboth.2)

theorem Keeps.put (h : Keeps cs₀ r cs m) (pid : Pid) (s : SensorId) (request : Request) :
    Keeps cs₀ (r.put pid s request) cs { m with pairs := m.pairs.insert (pid, s) request } := by
  refine ⟨fun other s' => ?_, h.channel, h.session⟩
  by_cases hsame : (other, s') = (pid, s)
  · obtain ⟨rfl, rfl⟩ := Prod.mk.inj hsame
    rw [subscription_put_self, Finmap.lookup_insert]
  · rw [subscription_put_of_ne _ _ (ne_or_ne_of_pair_ne hsame), Finmap.lookup_insert_of_ne _ hsame,
      h.subscription]

theorem Keeps.drop (h : Keeps cs₀ r cs m) (pid : Pid) (s : SensorId) :
    Keeps cs₀ (r.drop pid s) cs { m with pairs := m.pairs.erase (pid, s) } := by
  refine ⟨fun other s' => ?_, h.channel, h.session⟩
  by_cases hsame : (other, s') = (pid, s)
  · obtain ⟨rfl, rfl⟩ := Prod.mk.inj hsame
    rw [subscription_drop_self, Finmap.lookup_erase]
  · rw [subscription_drop_of_ne _ (ne_or_ne_of_pair_ne hsame), Finmap.lookup_erase_ne hsame,
      h.subscription]

/-- Closing a channel puts it among the closed ones. -/
theorem Keeps.close (h : Keeps cs₀ r cs m) (id other : ChannelId) :
    (cs.close id).get? other = cs₀.onceClosed (insert id m.closed) other := by
  unfold Channels.close Channels.onceClosed
  by_cases hid : other = id
  · subst hid
    rw [Channels.get?_update_self, h.session, Channels.onceClosed,
      if_pos (Finset.mem_insert_self ..)]
    split_ifs
    · rw [Option.map_map]
      rfl
    · rfl
  · rw [Channels.get?_update_of_ne _ _ hid, h.session, Channels.onceClosed]
    simp only [Finset.mem_insert, hid, false_or]

/-- Taking the data channel of a process away, if it has one. -/
theorem Keeps.destroyChannel (h : Keeps cs₀ r cs m) (pid : Pid) :
    (r.destroyChannel cs pid).1 = m.channels.lookup pid ∧
      Keeps cs₀ (r.destroyChannel cs pid).2.1 (r.destroyChannel cs pid).2.2
        (m.dropChannel pid) := by
  have hlookup := h.channel pid
  unfold Registry.destroyChannel
  cases hid : r.channels.get? pid with
  | none =>
    rw [hid] at hlookup
    refine ⟨hlookup, h.subscription, fun other => ?_, fun other => ?_⟩
    · show r.channels.get? other = (m.channels.erase pid).lookup other
      by_cases hother : other = pid
      · rw [hother, hid, Finmap.lookup_erase]
      · rw [Finmap.lookup_erase_ne hother, h.channel]
    · rw [h.session, Book.dropChannel, ← hlookup]
      congr 1
      exact (Finset.union_empty _).symm
  | some id =>
    rw [hid] at hlookup
    refine ⟨hlookup, h.subscription, fun other => ?_, fun other => ?_⟩
    · show (r.channels.erase pid).get? other = (m.channels.erase pid).lookup other
      by_cases hother : other = pid
      · rw [hother, Table.get?_erase_self, Finmap.lookup_erase]
      · rw [Table.get?_erase_of_ne _ hother, Finmap.lookup_erase_ne hother, h.channel]
    · rw [h.close id other, Book.dropChannel, ← hlookup]
      congr 1
      ext x
      simp

theorem Keeps.setChannel (h : Keeps cs₀ r cs m) (pid : Pid) (id : ChannelId) :
    Keeps cs₀ (r.setChannel pid id).2 cs { m with channels := m.channels.insert pid id } := by
  refine ⟨h.subscription, fun other => ?_, h.session⟩
  show (r.channels.insert pid id).get? other = (m.channels.insert pid id).lookup other
  by_cases hother : other = pid
  · rw [hother, Table.get?_insert_self, Finmap.lookup_insert]
  · rw [Table.get?_insert_of_ne _ _ hother, Finmap.lookup_insert_of_ne _ hother, h.channel]

/-- A process has no sensor left exactly if the book has no pair of it. -/
theorem Keeps.isEmpty_sensorsOf (h : Keeps cs₀ r cs m) (pid : Pid) :
    (r.sensorsOf pid).isEmpty = true ↔ ∀ pair ∈ m.pairs.keys, pair.1 ≠ pid := by
  rw [List.isEmpty_iff, List.eq_nil_iff_forall_not_mem]
  have hmem (s : SensorId) : s ∈ r.sensorsOf pid ↔ (pid, s) ∈ m.pairs.keys := by
    rw [((shows_of_keeps h).sensorsOf pid).mem_iff s, Finmap.mem_keys]
  constructor
  · rintro hnone ⟨other, s⟩ hpair rfl
    exact hnone s ((hmem s).2 hpair)
  · intro hnone s hs
    exact hnone (pid, s) ((hmem s).1 hs) rfl

theorem remove_of_some {pid : Pid} {s : SensorId} {old : Request}
    (h : r.subscription pid s = some old) : r.remove pid s = (.ok old, r.drop pid s) :=
  remove_eq_ok_iff.2 ⟨h, rfl⟩

theorem remove_of_none {pid : Pid} {s : SensorId} (h : r.subscription pid s = none) :
    r.remove pid s = (.error (.notSubscribed pid s), r) := by
  rw [remove, h]

/-- A removal that succeeds takes the data channel away with the last sensor
of the process. -/
theorem removeAndRelease_of_some {pid : Pid} {s : SensorId} {old : Request} (cs : Channels)
    (h : r.subscription pid s = some old) :
    r.removeAndRelease cs pid s =
      if ((r.drop pid s).sensorsOf pid).isEmpty then
        (.ok (old, ((r.drop pid s).destroyChannel cs pid).1),
          ((r.drop pid s).destroyChannel cs pid).2)
      else (.ok (old, none), r.drop pid s, cs) := by
  unfold removeAndRelease destroyChannel
  simp only [remove_of_some h]
  cases hid : (r.drop pid s).channels.get? pid with
  | none => simp only [ite_self]
  | some id => simp only

/-- **One operation of the registry is one line of the book.** -/
theorem keeps_step (h : Keeps cs₀ r cs m) (op : Op) :
    (r.step cs op).1 = (m.step cs₀.owner op).1 ∧
      Keeps cs₀ (r.step cs op).2.1 (r.step cs op).2.2 (m.step cs₀.owner op).2 := by
  cases op with
  | add pid s request =>
    simp only [step, add, Book.step, ← h.subscription]
    cases r.subscription pid s with
    | none => exact ⟨rfl, h.put pid s request⟩
    | some _ => exact ⟨rfl, h⟩
  | update pid s request =>
    simp only [step, update, Book.step, ← h.subscription]
    cases r.subscription pid s with
    | none => exact ⟨rfl, h⟩
    | some _ => exact ⟨rfl, h.put pid s request⟩
  | remove pid s teardown =>
    simp only [step, Book.step, ← h.subscription]
    cases hold : r.subscription pid s with
    | none =>
      have hremove := remove_of_none hold
      cases teardown with
      | true => simp [removeAndRelease, hremove, h]
      | false => simp [hremove, h]
    | some old =>
      have hdrop := h.drop pid s
      cases teardown with
      | true =>
        obtain ⟨hwas, hgone⟩ := hdrop.destroyChannel pid
        simp only [if_true, true_and, removeAndRelease_of_some cs hold, hdrop.isEmpty_sensorsOf pid]
        split_ifs
        · exact ⟨congrArg (Reply.was old) hwas, hgone⟩
        · exact ⟨rfl, hdrop⟩
      | false =>
        simp only [remove_of_some hold, Bool.false_eq_true, if_false, false_and]
        exact ⟨trivial, hdrop⟩
  | setChannel pid id => exact ⟨congrArg Reply.had (h.channel pid), h.setChannel pid id⟩
  | destroyChannel pid =>
    obtain ⟨hhad, hgone⟩ := h.destroyChannel pid
    exact ⟨congrArg Reply.had hhad, hgone⟩
  | release id =>
    obtain hnone | ⟨x, hx⟩ := Option.eq_none_or_eq_some (cs.get? id)
    · have howner : cs₀.owner id = none := by
        rw [← h.owner_eq, Channels.owner, hnone]
        rfl
      simp only [step, releaseIfCurrent, hnone, Book.step, howner]
      exact ⟨trivial, h⟩
    · have howner : cs₀.owner id = some x.pid := by
        rw [← h.owner_eq, Channels.owner, hx]
        rfl
      simp only [step, releaseIfCurrent, hx, Book.step, howner, ← h.channel]
      split_ifs with hcurrent
      · -- a current channel goes as it does when it is taken away
        have hgone := (h.destroyChannel x.pid).2
        unfold Registry.destroyChannel at hgone
        rw [hcurrent] at hgone
        exact ⟨rfl, hgone⟩
      · exact ⟨rfl, h.subscription, h.channel, h.close id⟩
  | destroyClient pid =>
    obtain ⟨hhad, hgone⟩ := h.destroyChannel pid
    exact ⟨congrArg Reply.had hhad, hgone.subscription, hgone.channel, hgone.session⟩

theorem generation_setSubscribers (r : Registry) (s s' : SensorId) (t : Table Pid Request) :
    (r.setSubscribers s t).generation s' = r.generation s' + if some s = some s' then 1 else 0 := by
  simp only [generation, setSubscribers, Table.getD, Table.get?_insert, Option.some.injEq]
  by_cases hs : s' = s
  · rw [if_pos hs, if_pos hs.symm, hs]
    rfl
  · rw [if_neg hs, if_neg (Ne.symm hs)]
    rfl

theorem generation_destroyChannel (r : Registry) (cs : Channels) (pid : Pid) (s : SensorId) :
    (r.destroyChannel cs pid).2.1.generation s = r.generation s := by
  unfold destroyChannel
  cases r.channels.get? pid <;> rfl

theorem generation_releaseIfCurrent (r : Registry) (cs : Channels) (id : ChannelId)
    (s : SensorId) : (r.releaseIfCurrent cs id).2.1.generation s = r.generation s := by
  unfold releaseIfCurrent
  split
  · rfl
  · split_ifs <;> rfl

/-- An operation is refused and changes nothing, the generations included, or
raises the generation of the sensor whose subscribers it changes. -/
theorem refused_or_generation_step (r : Registry) (cs : Channels) (op : Op) :
    ((r.step cs op).1.isRefused = true ∧ (r.step cs op).2 = (r, cs)) ∨
      ((r.step cs op).1.isRefused = false ∧ ∀ s, (r.step cs op).2.1.generation s
        = r.generation s + if op.sensor? = some s then 1 else 0) := by
  cases op with
  | add pid s request =>
    simp only [step, add]
    cases r.subscription pid s with
    | none => exact .inr ⟨rfl, fun s' => r.generation_setSubscribers s s' _⟩
    | some _ => exact .inl ⟨rfl, rfl⟩
  | update pid s request =>
    simp only [step, update]
    cases r.subscription pid s with
    | none => exact .inl ⟨rfl, rfl⟩
    | some _ => exact .inr ⟨rfl, fun s' => r.generation_setSubscribers s s' _⟩
  | remove pid s teardown =>
    cases hold : r.subscription pid s with
    | none =>
      refine .inl ?_
      cases teardown <;> simp [step, removeAndRelease, remove_of_none hold, Reply.isRefused]
    | some old =>
      refine .inr ?_
      have hdrop (s' : SensorId) :=
        r.generation_setSubscribers s s' ((r.subscriptionsOf s).erase pid)
      cases teardown with
      | true =>
        simp only [step, if_true, removeAndRelease_of_some cs hold]
        split_ifs
        · refine ⟨rfl, fun s' => ?_⟩
          exact ((r.drop pid s).generation_destroyChannel cs pid s').trans (hdrop s')
        · exact ⟨rfl, hdrop⟩
      | false =>
        simp only [step, Bool.false_eq_true, if_false, remove_of_some hold]
        exact ⟨rfl, hdrop⟩
  | setChannel pid id => exact .inr ⟨rfl, fun _ => rfl⟩
  | destroyChannel pid => exact .inr ⟨rfl, r.generation_destroyChannel cs pid⟩
  | release id => exact .inr ⟨rfl, r.generation_releaseIfCurrent cs id⟩
  | destroyClient pid => exact .inr ⟨rfl, r.generation_destroyChannel cs pid⟩

theorem generation_step (r : Registry) (cs : Channels) (op : Op) (s : SensorId) :
    (r.step cs op).2.1.generation s
      = r.generation s + [(op, (r.step cs op).1)].countP (mutates s) := by
  rcases r.refused_or_generation_step cs op with ⟨hrefused, hsame⟩ | ⟨htaken, hraised⟩
  · rw [hsame, List.countP_singleton, mutates, hrefused]
    simp
  · rw [hraised s, List.countP_singleton, mutates, htaken]
    simp

/-! ### Histories -/

theorem generation_run (r : Registry) (cs : Channels) (ops : List Op) (s : SensorId) :
    (r.run cs ops).2.1.generation s
      = r.generation s + (ops.zip (r.run cs ops).1).countP (mutates s) := by
  induction ops generalizing r cs with
  | nil => rfl
  | cons op ops ih =>
    have hnow := r.generation_step cs op s
    have hlater := ih (r.step cs op).2.1 (r.step cs op).2.2
    have hsplit : ((op :: ops).zip (r.run cs (op :: ops)).1).countP (mutates s)
        = [(op, (r.step cs op).1)].countP (mutates s)
          + (ops.zip ((r.step cs op).2.1.run (r.step cs op).2.2 ops).1).countP (mutates s) := by
      rw [← List.countP_append]
      rfl
    rw [hsplit, ← Nat.add_assoc, ← hnow]
    exact hlater

theorem keeps_run {cs₀ cs : Channels} {r : Registry} {m : Book} (h : Keeps cs₀ r cs m)
    (ops : List Op) :
    (r.run cs ops).1 = (m.run cs₀.owner ops).1 ∧
      Keeps cs₀ (r.run cs ops).2.1 (r.run cs ops).2.2 (m.run cs₀.owner ops).2 := by
  induction ops generalizing r cs m with
  | nil => exact ⟨rfl, h⟩
  | cons op ops ih =>
    obtain ⟨hreply, hnext⟩ := keeps_step h op
    obtain ⟨hreplies, hend⟩ := ih hnext
    exact ⟨congrArg₂ List.cons hreply hreplies, hend⟩

/-- **The registry is one map of pairs.** After any history of operations on an
empty registry, over any channels: it has given the replies of the book, every
view of it lists the book, the generation of a sensor counts the operations
that changed its subscribers, exactly the channels that the book says are
closed have been closed, and no other was touched. An operation that is refused
then changes nothing. -/
theorem run_meets_book (cs : Channels) (ops : List Op) :
    let r := (run ∅ cs ops).2.1
    let cs' := (run ∅ cs ops).2.2
    let book := (Book.blank.run cs.owner ops).2
    (run ∅ cs ops).1 = (Book.blank.run cs.owner ops).1 ∧
      r.Shows book ∧
      (∀ s, r.generation s = (ops.zip (run ∅ cs ops).1).countP (mutates s)) ∧
      (∀ id, cs'.get? id = cs.onceClosed book.closed id) ∧
      ∀ op, (r.step cs' op).1.isRefused = true → (r.step cs' op).2 = (r, cs') := by
  intro r cs' book
  obtain ⟨hreplies, hkeeps⟩ := keeps_run (keeps_empty cs) ops
  refine ⟨hreplies, shows_of_keeps hkeeps, fun s => ?_, hkeeps.session, fun op hrefused => ?_⟩
  · exact (generation_run ∅ cs ops s).trans (Nat.zero_add _)
  · rcases r.refused_or_generation_step cs' op with ⟨-, hsame⟩ | ⟨htaken, -⟩
    · exact hsame
    · rw [htaken] at hrefused
      cases hrefused

end Registry
end SensorBroker
