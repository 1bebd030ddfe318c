/-
# Flushes are complete in the order they were asked for

The event that ends a flush does not say who asked, so one entry too many or
too few would give every later completion of the sensor to the wrong client.
The account of the queues' history rules that out (`FlushQueues.attributed_after`):
a completion takes the oldest request of its sensor and nothing else, a request
that fails is the only one to leave, and nothing touches the queues of other
sensors.

A broker asks for flushes when a client does and when a process joins a sensor
that is running, and completes them as their events leave its queue. Whatever
else happens in between, its queues are what such a history left
(`Broker.Reachable.exists_history`).

Key definitions: `FlushQueues.TakesOldest`.
Key theorems: `FlushQueues.attributed_after`, `Broker.Shift.flushes_cases`,
`Broker.Reachable.exists_history`.
-/
import SensorBroker.Proofs.Service.Orderly

namespace SensorBroker

namespace FlushQueues

variable {q : FlushQueues} {s : SensorId}

/-! ### Queues of other sensors -/

theorem of_completeEach_of_not_mem : ∀ {sensors : List SensorId} (q : FlushQueues),
    s ∉ sensors → (completeEach sensors q).of s = q.of s
  | [], _, _ => rfl
  | s' :: rest, q, h => by
    have hne : s ≠ s' := fun hs => h (hs ▸ List.mem_cons_self)
    have hrest : s ∉ rest := fun hmem => h (List.mem_cons_of_mem _ hmem)
    rw [completeEach, of_completeEach_of_not_mem _ hrest, of_complete_of_ne q hne]

/-- Nothing touches the queues of sensors it is not about. -/
theorem Tidy.of_step_of_not_mem (htidy : q.Tidy) {act : Act} (h : s ∉ act.sensors) :
    (q.step act).of s = q.of s := by
  cases hact : act with
  | complete s' =>
    rw [hact] at h
    exact of_completeEach_of_not_mem q h
  | request a s' pid channel isFirst amid =>
    rw [hact] at h
    have hne : s ≠ s' := fun hs => h (hs ▸ List.mem_cons_self)
    have hamid : s ∉ amid := fun hmem => h (List.mem_cons_of_mem _ hmem)
    obtain ⟨-, -, hstep⟩ | ⟨-, -, hstep⟩ := htidy.request_cases hact
    · rw [← hact, hstep, of_completeEach_of_not_mem _ hamid]
      exact q.of_push_of_ne pid channel isFirst hne
    · rw [← hact, hstep]
      rfl

/-! ### Whom a completion belongs to -/

/-- What one completion does: it takes the oldest request of its sensor, if
there is one. -/
structure TakesOldest (q : FlushQueues) (s : SensorId) : Prop where
  idle : q.of s = [] → q.complete s = (none, q)
  oldest : ∀ e rest, q.of s = e :: rest →
    (q.complete s).1 = some e ∧ (q.complete s).2.of s = rest
  others : ∀ s', s' ≠ s → (q.complete s).2.of s' = q.of s'

theorem takesOldest (q : FlushQueues) (s : SensorId) : TakesOldest q s where
  idle := complete_of_nil
  oldest e rest hq := by
    rw [complete_of_cons hq]
    exact ⟨rfl, q.of_set_self s rest⟩
  others _ hs := q.of_complete_of_ne hs

/-- **Flushes are complete in the order they were asked for.** After any
history of requests, of hardware that may refuse any of them, and of
completions between and inside requests: what completions have taken of a
sensor, and then what still waits, is what was granted of it, in order; as many
flushes wait as were granted and not taken. From there, a completion takes the
oldest request of its sensor and nothing else, a request that fails has been
queued last and is the only one to leave, and nothing touches the queues of
other sensors. -/
theorem attributed_after (acts : List Act) :
    let q := after acts ∅
    (∀ s, onSensor s (along granted acts ∅) = onSensor s (along taken acts ∅) ++ q.of s) ∧
    q.pendingCount = (along granted acts ∅).length - (along taken acts ∅).length ∧
    (along taken acts ∅).length ≤ (along granted acts ∅).length ∧
    (∀ s, q.TakesOldest s) ∧
    (∀ a s pid channel isFirst amid e,
      (q.requestAmid a s pid channel isFirst amid).1 = .error e →
      (q.push s pid channel isFirst).of s = q.of s ++ [q.entry s pid channel isFirst] ∧
      (q.requestAmid a s pid channel isFirst amid).2.1 = { q with next := q.next + 1 }) ∧
    ∀ act s, s ∉ act.sensors → (q.step act).of s = q.of s := by
  have htidy := tidy_empty.after acts
  have haccount := tidy_empty.attributes_after acts
  have hcount : 0 + (along granted acts ∅).length
      = (along taken acts ∅).length + (after acts ∅).pendingCount := haccount.count
  refine ⟨haccount.order, by omega, by omega, takesOldest _, ?_,
    fun act s => htidy.of_step_of_not_mem⟩
  intro a s pid channel isFirst amid e hfailed
  exact ⟨of_push_self _ pid channel isFirst s, htidy.requestAmid_error hfailed⟩

/-- A request that is granted, one that is refused, and one that is granted and
completed twice while its command runs; then one more that is refused. -/
theorem attributed_after_refusal :
    let a := Broker.trial.arbitration
    let acts : List Act := [.request a .accelerometer 1 10 false [],
      .request default .accelerometer 2 20 false [],
      .request a .accelerometer 3 30 false [.accelerometer, .accelerometer],
      .request a .accelerometer 4 40 true []]
    let q := after acts ∅
    onSensor .accelerometer (along taken acts ∅)
        = [⟨.accelerometer, 1, 10, false, 0⟩, ⟨.accelerometer, 3, 30, false, 2⟩] ∧
      q.of .accelerometer = [⟨.accelerometer, 4, 40, true, 3⟩] ∧ q.pendingCount = 1 ∧
      (q.requestAmid default .accelerometer 5 50 false []).2.1 = { q with next := 5 } := by
  intro a acts q
  have hfailed : (q.requestAmid default .accelerometer 5 50 false []).1
      = .error (.hardware .accelerometer (.sensorNotFound .accelerometer)) := by decide +kernel
  have hnext : q.next = 4 := by decide +kernel
  have haccount := attributed_after acts
  have hrefused : (q.requestAmid default .accelerometer 5 50 false []).2.1
      = { q with next := q.next + 1 } :=
    (haccount.2.2.2.2.1 default .accelerometer 5 50 false [] _ hfailed).2
  rw [hnext] at hrefused
  exact ⟨by decide +kernel, by decide +kernel, by decide +kernel, hrefused⟩

end FlushQueues

namespace Broker

/-! ### The flushes of a broker -/

variable {op : Op} {b b' : Broker}

/-- A shift leaves the flush queues alone, or is one act upon them. -/
theorem Shift.flushes_cases (shift : Shift op b b') :
    b'.flushes = b.flushes ∨ ∃ act, b'.flushes = b.flushes.step act := by
  cases shift with
  | flushes act _ => exact .inr ⟨act, rfl⟩
  | collect =>
    obtain ⟨queue, dropped, hcollect⟩ := b.exists_collect
    rw [hcollect]
    exact .inl rfl
  | openData caller =>
    refine .inl ?_
    unfold openDataChannel forPid
    split
    · rfl
    · simp only
      split <;> rfl
  | closeData caller =>
    refine .inl ?_
    unfold closeDataChannel forPid
    split
    · rfl
    · split <;> rfl
  | openSocket caller =>
    refine .inl ?_
    unfold openSocketChannel forPid
    split
    · rfl
    · simp only
      split <;> rfl
  | dropSocket pid =>
    refine .inl ?_
    unfold dropSocketChannel
    simp only
    split <;> rfl
  | dropRecords pid =>
    refine .inl ?_
    unfold Broker.dropRecords
    simp only
    split <;> rfl
  | _ => exact .inl rfl

/-- In the course of an operation, a history happens to the flush queues. -/
theorem Shifts.exists_history (shifts : Shifts op b b') :
    ∃ acts, b'.flushes = FlushQueues.after acts b.flushes := by
  induction shifts with
  | refl => exact ⟨[], rfl⟩
  | tail _ shift ih =>
    obtain ⟨acts, hacts⟩ := ih
    obtain hsame | ⟨act, hact⟩ := shift.flushes_cases
    · exact ⟨acts, hsame.trans hacts⟩
    · refine ⟨acts ++ [act], ?_⟩
      rw [hact, hacts, FlushQueues.after_append]
      rfl

/-- **The flushes of every broker are those of a history**, and the account of it
is kept: what was granted and not taken waits, in order, each request with a
number below the next. -/
theorem Reachable.exists_history (h : b.Reachable) : ∃ acts,
    b.flushes = FlushQueues.after acts ∅ ∧ b.flushes.Tidy ∧
      FlushQueues.Attributes (FlushQueues.along FlushQueues.granted acts ∅)
        (FlushQueues.along FlushQueues.taken acts ∅) ∅ b.flushes := by
  have hhistory : ∃ acts, b.flushes = FlushQueues.after acts ∅ := by
    induction h with
    | start _ _ started =>
      obtain ⟨hw, -, rfl⟩ := start_ok started
      exact ⟨[], rfl⟩
    | @step b before op ih =>
      obtain ⟨acts, hacts⟩ := ih
      obtain ⟨later, hlater⟩ := (b.shifts_step op before.orderly.serves_apart).exists_history
      refine ⟨acts ++ later, ?_⟩
      rw [hlater, hacts, FlushQueues.after_append]
  obtain ⟨acts, hacts⟩ := hhistory
  refine ⟨acts, hacts, ?_⟩
  rw [hacts]
  exact ⟨FlushQueues.tidy_empty.after acts, FlushQueues.tidy_empty.attributes_after acts⟩

end Broker
end SensorBroker
