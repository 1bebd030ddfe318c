/-
# The history of the flush queues

What happens to the flush queues is that flushes are asked for and that sensors
complete them. In any such history, for each sensor, the flushes that were
granted are those that completions have taken, in order, and then those that
still wait (`FlushQueues.Attributes`).

A request is queued before its command is given, so completions may come while
the command runs and find it; a command that fails raises none, and its request
is withdrawn by its number. That takes out this request and no other because
every number is below the next one, and leaves the table as it was because no
queue in it is empty (`FlushQueues.Tidy`).

Key definitions: `FlushQueues.Tidy`, `FlushQueues.Act`, `FlushQueues.requestAmid`,
`FlushQueues.granted`, `FlushQueues.taken`, `FlushQueues.Attributes`.
Key theorems: `FlushQueues.Tidy.withdraw_push`, `FlushQueues.Tidy.attributes_step`,
`FlushQueues.Tidy.attributes_after`, `FlushQueues.mem_of_step`.
-/
import Mathlib.Tactic.SplitIfs
import SensorBroker.Service.FlushQueue

namespace SensorBroker

namespace Table

variable {κ α : Type} [Key κ]

/-! ### How many elements the lists of a table have -/

theorem length_flatten_place (k : κ) (l : List α) {es : List (κ × List α)}
    (h : es.Pairwise (fun a b => Key.rank a.1 < Key.rank b.1)) :
    ((place k l es).map Prod.snd).flatten.length + ((lookup k es).getD []).length
      = (es.map Prod.snd).flatten.length + l.length := by
  induction es with
  | nil => simp [place, lookup]
  | cons e rest ih =>
    obtain ⟨k', l'⟩ := e
    obtain ⟨hhead, hrest⟩ := List.pairwise_cons.1 h
    simp only [place, lookup]
    split_ifs with hlt heq heq
    · omega
    · have hnone : lookup k rest = none :=
        lookup_eq_none_of_lt fun e he => Int.lt_trans hlt (hhead e he)
      simp [hnone]
      omega
    · simp
      omega
    · have ih := ih hrest
      simp only [List.map_cons, List.flatten_cons, List.length_append]
      omega

theorem length_flatten_filter (k : κ) {es : List (κ × List α)}
    (h : es.Pairwise (fun a b => Key.rank a.1 < Key.rank b.1)) :
    ((es.filter fun e => Key.rank e.1 ≠ Key.rank k).map Prod.snd).flatten.length
        + ((lookup k es).getD []).length
      = (es.map Prod.snd).flatten.length := by
  induction es with
  | nil => rfl
  | cons e rest ih =>
    obtain ⟨k', l'⟩ := e
    obtain ⟨hhead, hrest⟩ := List.pairwise_cons.1 h
    by_cases heq : Key.rank k = Key.rank k'
    · have hall : rest.filter (fun e => Key.rank e.1 ≠ Key.rank k) = rest :=
        List.filter_eq_self.2 fun e he => decide_eq_true (by
          have hlt : Key.rank k' < Key.rank e.1 := hhead e he
          omega)
      rw [List.filter_cons_of_neg (by simp [heq]), hall, lookup, if_pos heq]
      simp
      omega
    · have ih := ih hrest
      rw [List.filter_cons_of_pos (by simpa using Ne.symm heq), lookup, if_neg heq]
      simp only [List.map_cons, List.flatten_cons, List.length_append]
      omega

end Table

namespace FlushQueues

variable {q q' : FlushQueues} {s s' : SensorId}

/-! ### The queues one by one -/

theorem get?_set_self (q : FlushQueues) (s : SensorId) (entries : List FlushEntry) :
    (q.set s entries).queues.get? s = if entries.isEmpty then none else some entries := by
  unfold set
  split_ifs
  · exact Table.get?_erase_self _ _
  · exact Table.get?_insert_self _ _ _

theorem get?_set_of_ne (q : FlushQueues) (entries : List FlushEntry) (h : s' ≠ s) :
    (q.set s entries).queues.get? s' = q.queues.get? s' := by
  unfold set
  split_ifs
  · exact Table.get?_erase_of_ne _ h
  · exact Table.get?_insert_of_ne _ _ h

theorem of_set_self (q : FlushQueues) (s : SensorId) (entries : List FlushEntry) :
    (q.set s entries).of s = entries := by
  unfold of Table.getD
  rw [get?_set_self]
  split_ifs with hempty
  · exact (List.isEmpty_iff.1 hempty).symm
  · rfl

theorem of_set_of_ne (q : FlushQueues) (entries : List FlushEntry) (h : s' ≠ s) :
    (q.set s entries).of s' = q.of s' := by
  unfold of Table.getD
  rw [get?_set_of_ne q entries h]

theorem eq_of_get? (queues : ∀ s, q.queues.get? s = q'.queues.get? s) (next : q.next = q'.next) :
    q = q' := by
  obtain ⟨table, number⟩ := q
  obtain ⟨table', number'⟩ := q'
  rw [show table = table' from Table.ext_get? queues, show number = number' from next]

/-- To replace a queue twice is to replace it once. -/
theorem set_set (q : FlushQueues) (s : SensorId) (entries entries' : List FlushEntry) :
    (q.set s entries).set s entries' = q.set s entries' := by
  refine eq_of_get? (fun j => ?_) rfl
  by_cases hj : j = s
  · rw [hj, get?_set_self, get?_set_self]
  · rw [get?_set_of_ne _ _ hj, get?_set_of_ne _ _ hj, get?_set_of_ne _ _ hj]

theorem pendingCount_set (q : FlushQueues) (s : SensorId) (entries : List FlushEntry) :
    (q.set s entries).pendingCount + (q.of s).length = q.pendingCount + entries.length := by
  unfold set pendingCount of
  split_ifs with hempty
  · rw [List.isEmpty_iff.1 hempty]
    exact Table.length_flatten_filter s q.queues.sorted
  · exact Table.length_flatten_place s entries q.queues.sorted

/-! ### A request that is queued -/

/-- What a request puts in the queue. -/
def entry (q : FlushQueues) (s : SensorId) (pid : Pid) (channel : ChannelId) (isFirst : Bool) :
    FlushEntry :=
  ⟨s, pid, channel, isFirst, q.next⟩

section

variable (q : FlushQueues) (pid : Pid) (channel : ChannelId) (isFirst : Bool)

theorem of_push_self (s : SensorId) :
    (q.push s pid channel isFirst).of s = q.of s ++ [q.entry s pid channel isFirst] :=
  q.of_set_self s _

theorem of_push_of_ne (h : s' ≠ s) : (q.push s pid channel isFirst).of s' = q.of s' :=
  q.of_set_of_ne _ h

theorem pendingCount_push (s : SensorId) :
    (q.push s pid channel isFirst).pendingCount = q.pendingCount + 1 := by
  have hset := q.pendingCount_set s (q.of s ++ [q.entry s pid channel isFirst])
  rw [List.length_append, List.length_singleton] at hset
  show (q.set s (q.of s ++ [q.entry s pid channel isFirst])).pendingCount = _
  omega

end

/-! ### A completion -/

theorem complete_of_nil (h : q.of s = []) : q.complete s = (none, q) := by
  unfold complete
  rw [h]

theorem complete_of_cons {e : FlushEntry} {rest : List FlushEntry} (h : q.of s = e :: rest) :
    q.complete s = (some e, q.set s rest) := by
  unfold complete
  rw [h]

theorem of_complete_of_ne (q : FlushQueues) (h : s' ≠ s) :
    (q.complete s).2.of s' = q.of s' := by
  cases hq : q.of s with
  | nil => rw [complete_of_nil hq]
  | cons e rest => rw [complete_of_cons hq, of_set_of_ne _ _ h]

/-! ### Tidy queues -/

/-- Each request in the queues has a number below the next one, and no queue is
kept that is empty. -/
structure Tidy (q : FlushQueues) : Prop where
  numbered : ∀ s, ∀ e ∈ q.of s, e.number < q.next
  inhabited : ∀ s, q.queues.get? s ≠ some []

theorem tidy_empty : Tidy ∅ where
  numbered s e he := by cases he
  inhabited s h := by cases h

theorem Tidy.set (h : q.Tidy) (s : SensorId) {entries : List FlushEntry}
    (hnumbers : ∀ e ∈ entries, e.number < q.next) : (q.set s entries).Tidy where
  numbered s' e he := by
    by_cases hs : s' = s
    · rw [hs, of_set_self] at he
      exact hnumbers e he
    · rw [of_set_of_ne _ _ hs] at he
      exact h.numbered s' e he
  inhabited s' := by
    by_cases hs : s' = s
    · rw [hs, get?_set_self]
      split_ifs with hempty
      · exact nofun
      · exact fun heq => hempty (List.isEmpty_iff.2 (Option.some.inj heq))
    · rw [get?_set_of_ne _ _ hs]
      exact h.inhabited s'

theorem Tidy.later (h : q.Tidy) {next : Nat} (hnext : q.next ≤ next) :
    ({ q with next } : FlushQueues).Tidy where
  numbered s e he := Nat.lt_of_lt_of_le (h.numbered s e he) hnext
  inhabited := h.inhabited

theorem Tidy.push (h : q.Tidy) (s : SensorId) (pid : Pid) (channel : ChannelId)
    (isFirst : Bool) : (q.push s pid channel isFirst).Tidy := by
  have hnext : ({ q with next := q.next + 1 } : FlushQueues).Tidy := h.later (Nat.le_succ _)
  refine hnext.set s fun e he => ?_
  rcases List.mem_append.1 he with he | he
  · exact hnext.numbered s e he
  · rw [List.mem_singleton.1 he]
    exact Nat.lt_succ_self _

theorem Tidy.complete (h : q.Tidy) (s : SensorId) : (q.complete s).2.Tidy := by
  cases hq : q.of s with
  | nil =>
    rw [complete_of_nil hq]
    exact h
  | cons e rest =>
    rw [complete_of_cons hq]
    refine h.set s fun e' he' => h.numbered s e' ?_
    rw [hq]
    exact List.mem_cons_of_mem e he'

/-- To replace a queue by itself changes nothing. -/
theorem Tidy.set_of (h : q.Tidy) (s : SensorId) : q.set s (q.of s) = q := by
  refine eq_of_get? (fun j => ?_) rfl
  by_cases hj : j = s
  · rw [hj, get?_set_self]
    unfold FlushQueues.of Table.getD
    cases hget : q.queues.get? s with
    | none => rfl
    | some entries =>
      have hempty : ¬ entries.isEmpty = true := fun hempty =>
        h.inhabited s (by rw [hget, List.isEmpty_iff.1 hempty])
      exact if_neg hempty
  · rw [get?_set_of_ne _ _ hj]

/-- **A request that is withdrawn leaves the queues as they were.** -/
theorem Tidy.withdraw_push (h : q.Tidy) (s : SensorId) (pid : Pid) (channel : ChannelId)
    (isFirst : Bool) :
    (q.push s pid channel isFirst).withdraw s q.next = { q with next := q.next + 1 } := by
  have hold : (q.of s).filter (fun e => e.number ≠ q.next) = q.of s :=
    List.filter_eq_self.2 fun e he => decide_eq_true (Nat.ne_of_lt (h.numbered s e he))
  have hothers : ((q.push s pid channel isFirst).of s).filter (fun e => e.number ≠ q.next)
      = q.of s := by
    rw [of_push_self, List.filter_append, hold]
    simp [entry]
  unfold withdraw
  rw [hothers]
  calc (q.push s pid channel isFirst).set s (q.of s)
      = { (q.set s (q.of s ++ [q.entry s pid channel isFirst])).set s (q.of s) with
          next := q.next + 1 } := rfl
    _ = { q with next := q.next + 1 } := by rw [set_set, h.set_of]

/-! ### Histories -/

/-- Something that happens to the queues. -/
inductive Act
  /-- A flush is asked for, of hardware in some state. If the command succeeds,
  some sensors complete a flush while it runs. -/
  | request (a : Arbitration) (s : SensorId) (pid : Pid) (channel : ChannelId) (isFirst : Bool)
      (amid : List SensorId)
  /-- A sensor completes a flush. -/
  | complete (s : SensorId)

/-- Completions of some sensors, one after the other. -/
def completeEach : List SensorId → FlushQueues → FlushQueues
  | [], q => q
  | s :: rest, q => completeEach rest (q.complete s).2

/-- The requests that these completions take, each with the sensor it was
taken for. -/
def takenEach : List SensorId → FlushQueues → List (SensorId × FlushEntry)
  | [], _ => []
  | s :: rest, q => (q.complete s).1.toList.map (Prod.mk s) ++ takenEach rest (q.complete s).2

/-- A request, with the completions that come while its command runs. A
command that fails raises none. -/
def requestAmid (q : FlushQueues) (a : Arbitration) (s : SensorId) (pid : Pid)
    (channel : ChannelId) (isFirst : Bool) (amid : List SensorId) :
    Except ServiceError Unit × FlushQueues × Arbitration :=
  let queued := q.push s pid channel isFirst
  match a.runCommand s .flush with
  | (.ok _, a) => (.ok (), completeEach amid queued, a)
  | (.error e, a) => (.error e, queued.withdraw s q.next, a)

/-- The queues after something has happened. -/
def step (q : FlushQueues) : Act → FlushQueues
  | .request a s pid channel isFirst amid => (q.requestAmid a s pid channel isFirst amid).2.1
  | .complete s => completeEach [s] q

/-- The request that is granted, if there is one, with its sensor. -/
def granted (q : FlushQueues) : Act → List (SensorId × FlushEntry)
  | .request a s pid channel isFirst amid =>
    match (q.requestAmid a s pid channel isFirst amid).1 with
    | .ok _ => [(s, q.entry s pid channel isFirst)]
    | .error _ => []
  | .complete _ => []

/-- The requests that completions take, each with the sensor it was taken
for. -/
def taken (q : FlushQueues) : Act → List (SensorId × FlushEntry)
  | .request a s pid channel isFirst amid =>
    match (q.requestAmid a s pid channel isFirst amid).1 with
    | .ok _ => takenEach amid (q.push s pid channel isFirst)
    | .error _ => []
  | .complete s => takenEach [s] q

/-- The queues after a history. -/
def after : List Act → FlushQueues → FlushQueues
  | [], q => q
  | act :: rest, q => after rest (q.step act)

/-- A history may be cut in two. -/
theorem after_append (acts later : List Act) (q : FlushQueues) :
    after (acts ++ later) q = after later (after acts q) := by
  induction acts generalizing q with
  | nil => rfl
  | cons act rest ih => exact ih (q.step act)

/-- What something gives along a history. -/
def along {α : Type} (f : FlushQueues → Act → List α) : List Act → FlushQueues → List α
  | [], _ => []
  | act :: rest, q => f q act ++ along f rest (q.step act)

/-- The sensors whose queues something may touch. -/
def Act.sensors : Act → List SensorId
  | .request _ s _ _ _ amid => s :: amid
  | .complete s => [s]

/-- The channel a flush is asked for on, if one is. -/
def Act.channel? : Act → Option ChannelId
  | .request _ _ _ channel _ _ => some channel
  | .complete _ => none

/-- The part of a list that is about one sensor. -/
def onSensor (s : SensorId) (l : List (SensorId × FlushEntry)) : List FlushEntry :=
  (l.filter fun p => p.1 = s).map Prod.snd

@[simp] theorem onSensor_append (s : SensorId) (l l' : List (SensorId × FlushEntry)) :
    onSensor s (l ++ l') = onSensor s l ++ onSensor s l' := by
  simp [onSensor]

theorem onSensor_singleton_self (s : SensorId) (e : FlushEntry) : onSensor s [(s, e)] = [e] := by
  simp [onSensor]

theorem onSensor_singleton_of_ne (e : FlushEntry) (h : s' ≠ s) : onSensor s' [(s, e)] = [] := by
  simp [onSensor, Ne.symm h]

section

variable {a : Arbitration} {pid : Pid} {channel : ChannelId} {isFirst : Bool}
  {amid : List SensorId}

/-- Without completions in between it is the request that clients make. -/
theorem requestAmid_nil (q : FlushQueues) (a : Arbitration) (s : SensorId) (pid : Pid)
    (channel : ChannelId) (isFirst : Bool) :
    q.requestAmid a s pid channel isFirst [] = q.request a s pid channel isFirst := rfl

/-- The command is given whatever is queued. -/
theorem arbitration_request (q : FlushQueues) (a : Arbitration) (s : SensorId) (pid : Pid)
    (channel : ChannelId) (isFirst : Bool) :
    (q.request a s pid channel isFirst).2.2 = (a.runCommand s .flush).2 := by
  unfold request
  split
  · next h => rw [h]
  · next h => rw [h]

theorem requestAmid_ok {u : Unit} (h : (q.requestAmid a s pid channel isFirst amid).1 = .ok u) :
    (q.requestAmid a s pid channel isFirst amid).2.1
      = completeEach amid (q.push s pid channel isFirst) := by
  unfold requestAmid at h ⊢
  simp only at h ⊢
  split
  · rfl
  · next hrun =>
    rw [hrun] at h
    cases h

/-- **A request that fails leaves the queues as they were**; only the next
number has moved on. -/
theorem Tidy.requestAmid_error (htidy : q.Tidy) {e : ServiceError}
    (h : (q.requestAmid a s pid channel isFirst amid).1 = .error e) :
    (q.requestAmid a s pid channel isFirst amid).2.1 = { q with next := q.next + 1 } := by
  unfold requestAmid at h ⊢
  simp only at h ⊢
  split
  · next hrun =>
    rw [hrun] at h
    cases h
  · exact htidy.withdraw_push s pid channel isFirst

/-- A request is granted, queued, and may be taken at once; or it fails and
nothing has happened. -/
theorem Tidy.request_cases (htidy : q.Tidy) {act : Act}
    (hact : act = .request a s pid channel isFirst amid) :
    (q.granted act = [(s, q.entry s pid channel isFirst)] ∧
      q.taken act = takenEach amid (q.push s pid channel isFirst) ∧
      q.step act = completeEach amid (q.push s pid channel isFirst)) ∨
    (q.granted act = [] ∧ q.taken act = [] ∧ q.step act = { q with next := q.next + 1 }) := by
  subst hact
  simp only [granted, taken, step]
  cases hresult : (q.requestAmid a s pid channel isFirst amid).1 with
  | ok => exact .inl ⟨rfl, rfl, requestAmid_ok hresult⟩
  | error => exact .inr ⟨rfl, rfl, htidy.requestAmid_error hresult⟩

end

/-! ### The account -/

/-- In between, `granted` was granted and `taken` was taken: sensor by sensor
in this order, and nothing besides. -/
structure Attributes (granted taken : List (SensorId × FlushEntry)) (q q' : FlushQueues) :
    Prop where
  order : ∀ s, q.of s ++ onSensor s granted = onSensor s taken ++ q'.of s
  count : q.pendingCount + granted.length = taken.length + q'.pendingCount

theorem Attributes.refl (q : FlushQueues) : Attributes [] [] q q where
  order _ := List.append_nil _
  count := Nat.add_comm _ _

theorem Attributes.trans {granted taken granted' taken' : List (SensorId × FlushEntry)}
    {q'' : FlushQueues} (first : Attributes granted taken q q')
    (second : Attributes granted' taken' q' q'') :
    Attributes (granted ++ granted') (taken ++ taken') q q'' where
  order s := by
    rw [onSensor_append, onSensor_append]
    calc q.of s ++ (onSensor s granted ++ onSensor s granted')
        = (q.of s ++ onSensor s granted) ++ onSensor s granted' := (List.append_assoc ..).symm
      _ = onSensor s taken ++ (q'.of s ++ onSensor s granted') := by
        rw [first.order s, List.append_assoc]
      _ = (onSensor s taken ++ onSensor s taken') ++ q''.of s := by
        rw [second.order s, List.append_assoc]
  count := by
    have hfirst := first.count
    have hsecond := second.count
    rw [List.length_append, List.length_append]
    omega

theorem attributes_complete (q : FlushQueues) (s : SensorId) :
    Attributes [] ((q.complete s).1.toList.map (Prod.mk s)) q (q.complete s).2 := by
  cases hq : q.of s with
  | nil =>
    rw [complete_of_nil hq]
    exact .refl q
  | cons e rest =>
    rw [complete_of_cons hq]
    refine ⟨fun s' => ?_, ?_⟩
    · show q.of s' ++ [] = onSensor s' [(s, e)] ++ (q.set s rest).of s'
      by_cases hs : s' = s
      · rw [hs, onSensor_singleton_self, of_set_self, hq, List.append_nil]
        rfl
      · rw [onSensor_singleton_of_ne e hs, of_set_of_ne _ _ hs, List.append_nil]
        rfl
    · have hset := q.pendingCount_set s rest
      rw [hq, List.length_cons] at hset
      show q.pendingCount + 0 = 1 + (q.set s rest).pendingCount
      omega

theorem attributes_completeEach : ∀ (sensors : List SensorId) (q : FlushQueues),
    Attributes [] (takenEach sensors q) q (completeEach sensors q)
  | [], q => .refl q
  | s :: rest, q => (q.attributes_complete s).trans (attributes_completeEach rest _)

theorem attributes_push (q : FlushQueues) (s : SensorId) (pid : Pid) (channel : ChannelId)
    (isFirst : Bool) :
    Attributes [(s, q.entry s pid channel isFirst)] [] q (q.push s pid channel isFirst) where
  order s' := by
    by_cases hs : s' = s
    · rw [hs, onSensor_singleton_self, of_push_self]
      rfl
    · rw [onSensor_singleton_of_ne _ hs, of_push_of_ne _ _ _ _ hs, List.append_nil]
      rfl
  count := by
    rw [pendingCount_push]
    exact (Nat.zero_add _).symm

/-- The account does not look at the next number. -/
theorem Attributes.later (q : FlushQueues) (next : Nat) : Attributes [] [] q { q with next } where
  order _ := List.append_nil _
  count := Nat.add_comm _ _

/-- **Everything that happens keeps the account.** -/
theorem Tidy.attributes_step (h : q.Tidy) (act : Act) :
    Attributes (q.granted act) (q.taken act) q (q.step act) := by
  cases hact : act with
  | complete s => exact attributes_completeEach [s] q
  | request a s pid channel isFirst amid =>
    rw [← hact]
    obtain ⟨hgranted, htaken, hstep⟩ | ⟨hgranted, htaken, hstep⟩ := h.request_cases hact
    · rw [hgranted, htaken, hstep]
      exact (q.attributes_push s pid channel isFirst).trans (attributes_completeEach amid _)
    · rw [hgranted, htaken, hstep]
      exact .later q _

theorem Tidy.completeEach {q : FlushQueues} (h : q.Tidy) : ∀ sensors : List SensorId,
    (completeEach sensors q).Tidy
  | [] => h
  | s :: rest => (h.complete s).completeEach rest

theorem Tidy.step (h : q.Tidy) (act : Act) : (q.step act).Tidy := by
  cases hact : act with
  | complete s => exact h.completeEach [s]
  | request a s pid channel isFirst amid =>
    rw [← hact]
    obtain ⟨-, -, hstep⟩ | ⟨-, -, hstep⟩ := h.request_cases hact
    · rw [hstep]
      exact (h.push s pid channel isFirst).completeEach amid
    · rw [hstep]
      exact h.later (Nat.le_succ _)

theorem Tidy.after {q : FlushQueues} (h : q.Tidy) : ∀ acts : List Act, (after acts q).Tidy
  | [] => h
  | act :: rest => (h.step act).after rest

/-- **Every history keeps the account.** -/
theorem Tidy.attributes_after {q : FlushQueues} (h : q.Tidy) : ∀ acts : List Act,
    Attributes (along granted acts q) (along taken acts q) q (FlushQueues.after acts q)
  | [] => .refl q
  | act :: rest => (h.attributes_step act).trans ((h.step act).attributes_after rest)

/-! ### Which flushes wait -/

section

variable {entry : FlushEntry}

theorem mem_of_set {entries : List FlushEntry} (hsub : entries ⊆ q.of s)
    (h : entry ∈ (q.set s entries).of s') : entry ∈ q.of s' := by
  by_cases hs : s' = s
  · rw [hs, of_set_self] at h
    rw [hs]
    exact hsub h
  · rwa [of_set_of_ne _ _ hs] at h

theorem mem_of_push {pid : Pid} {channel : ChannelId} {isFirst : Bool}
    (h : entry ∈ (q.push s pid channel isFirst).of s') :
    entry ∈ q.of s' ∨ entry.channel = channel := by
  by_cases hs : s' = s
  · rw [hs, of_push_self, List.mem_append, List.mem_singleton] at h
    rw [hs]
    exact h.imp_right fun he => congrArg FlushEntry.channel he
  · rw [of_push_of_ne _ _ _ _ hs] at h
    exact .inl h

theorem mem_of_complete (h : entry ∈ (q.complete s).2.of s') : entry ∈ q.of s' := by
  cases hq : q.of s with
  | nil => rwa [complete_of_nil hq] at h
  | cons e rest =>
    rw [complete_of_cons hq] at h
    exact mem_of_set (hq ▸ List.subset_cons_self e rest) h

theorem mem_of_completeEach : ∀ (sensors : List SensorId) {q : FlushQueues},
    entry ∈ (completeEach sensors q).of s → entry ∈ q.of s
  | [], _, h => h
  | _ :: rest, _, h => mem_of_complete (mem_of_completeEach rest h)

/-- **What waits was asked for**: it waited before, or it goes to the channel
that a flush was just asked for on. -/
theorem mem_of_step {act : Act} (h : entry ∈ (q.step act).of s) :
    entry ∈ q.of s ∨ act.channel? = some entry.channel := by
  cases act with
  | complete s' => exact .inl (mem_of_completeEach [s'] h)
  | request a s' pid channel isFirst amid =>
    have hpush : entry ∈ (q.push s' pid channel isFirst).of s := by
      unfold step requestAmid at h
      simp only at h
      split at h
      · exact mem_of_completeEach amid h
      · exact mem_of_set List.filter_sublist.subset h
    exact (mem_of_push hpush).imp_right fun hchannel => congrArg some hchannel.symm

end

end FlushQueues
end SensorBroker
