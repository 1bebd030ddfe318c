/-
# Processes do not interfere

Two runs from one state that have the same requests of a process in the same
order, and whatever requests of others between them, look the same to that
process: it gets the same answers, and wherever it has asked the same so far,
it has the same subscriptions, the same snapshot and the same list of active
sensors. Only a backend that fails can tell the runs apart, and then some answer
to the process says so. If no backend refuses a call, no answer does.

The runs need not end, suspend or speed up the same sensors: what the others do
shows in the hardware, and the process shares that, but not its account.

Key definitions: `Broker.Alike`.
Key theorems: `Broker.Reachable.isolated`.
-/
import SensorBroker.Proofs.Service.Answering

namespace SensorBroker
namespace Broker

/-- Two brokers look the same to a process. -/
structure Alike (pid : Pid) (b b' : Broker) : Prop where
  subscriptions : ∀ s, b.registry.subscription pid s = b'.registry.subscription pid s
  snapshot : b.suspension.snapshots.get? pid = b'.suspension.snapshots.get? pid
  activeInfo : b.activeInfo pid = b'.activeInfo pid

variable {b b' : Broker} {pid : Pid}

theorem activeInfo_account (b : Broker) (pid : Pid) :
    b.activeInfo pid = ((b.account pid).forPid pid
      (.ok ((b.account pid).activeInfo pid), b.account pid)).1 := by
  unfold activeInfo Account.forPid
  rw [Registry.activeInfo_eq]
  split_ifs <;> rfl

/-- What a process can tell of a broker is its account. -/
theorem alike_of_account (h : b.account pid = b'.account pid) : Alike pid b b' where
  subscriptions s := by
    rw [← Registry.get?_requestsOf, ← Registry.get?_requestsOf]
    exact congrArg (fun x : Account => x.live.get? s) h
  snapshot := congrArg Account.snapshot h
  activeInfo := by rw [activeInfo_account, activeInfo_account, h]

/-- The answers in a run go on in a longer one. -/
theorem answers_append (pid : Pid) : ∀ (run later : List Ask) (b : Broker),
    answers pid (run ++ later) b = answers pid run b ++ answers pid later (b.asked run)
  | [], _, _ => rfl
  | q :: rest, later, b => by
    rw [List.cons_append, answers, answers, answers_append pid rest later (b.ask q)]
    split_ifs <;> rfl

theorem answers_subset {before run : List Ask} (h : before <+: run) (b : Broker) :
    ∀ x ∈ answers pid before b, x ∈ answers pid run b := by
  obtain ⟨later, rfl⟩ := h
  intro x hx
  rw [answers_append]
  exact List.mem_append_left _ hx

/-- **Processes do not interfere.** While no backend refuses a call, no answer
tells of one that failed; and two runs with the same requests of a process, in
which no answer to it does, give it the same answers and look the same to it
wherever it has asked the same. -/
theorem Reachable.isolated (h : b.Reachable) (pid : Pid) :
    (b.arbitration.Served → ∀ run : List Ask, b.hardware.Obliges (b.asked run).hardware →
      ∀ x ∈ answers pid run b, ¬ x.Failed) ∧
    ∀ run run' : List Ask,
      run.filter (fun q => q.pid = pid) = run'.filter (fun q => q.pid = pid) →
      (∀ x ∈ answers pid run b, ¬ x.Failed) → (∀ x ∈ answers pid run' b, ¬ x.Failed) →
      answers pid run b = answers pid run' b ∧
        ∀ before before' : List Ask, before <+: run → before' <+: run' →
          before.filter (fun q => q.pid = pid) = before'.filter (fun q => q.pid = pid) →
          Alike pid (b.asked before) (b.asked before') := by
  refine ⟨fun hserved run ho => h.answers_not_failed pid run hserved ho, ?_⟩
  intro run run' hown hquiet hquiet'
  constructor
  · rw [(h.account_asked pid run hquiet).1, (h.account_asked pid run' hquiet').1, hown]
  · intro before before' hbefore hbefore' hsofar
    have hfirst := h.account_asked pid before fun x hx => hquiet x (answers_subset hbefore b x hx)
    have hsecond := h.account_asked pid before' fun x hx =>
      hquiet' x (answers_subset hbefore' b x hx)
    refine alike_of_account ?_
    rw [hfirst.2, hsecond.2, hsofar]

/-- A process that is suspended and resumed cannot tell whether it has the sensor
to itself, or another one speeds it up, keeps it running and dies. -/
theorem isolated_on_trial :
    answers 100 [.enable ⟨100, 1000, 7⟩ .accelerometer ⟨1000000, 5⟩, .suspend 100, .resume 100,
        .activeInfo 100] trial
      = answers 100 [.enable ⟨200, 1000, 8⟩ .accelerometer ⟨500000, 0⟩,
        .enable ⟨100, 1000, 7⟩ .accelerometer ⟨1000000, 5⟩, .suspend 200, .suspend 100,
        .resume 200, .resume 100, .processDeath 200, .activeInfo 100] trial ∧
    Alike 100 (trial.asked [.enable ⟨100, 1000, 7⟩ .accelerometer ⟨1000000, 5⟩, .suspend 100])
      (trial.asked [.enable ⟨200, 1000, 8⟩ .accelerometer ⟨500000, 0⟩,
        .enable ⟨100, 1000, 7⟩ .accelerometer ⟨1000000, 5⟩, .suspend 200, .suspend 100,
        .resume 200]) := by
  obtain ⟨hno, hsame⟩ := reachable_trial.isolated 100
  have hserved : trial.arbitration.Served := fun _ _ hsub => absurd rfl hsub
  have hquiet := hno hserved [.enable ⟨100, 1000, 7⟩ .accelerometer ⟨1000000, 5⟩, .suspend 100,
    .resume 100, .activeInfo 100] (Hardware.obliges_iff.2 (by decide))
  have hquiet' := hno hserved [.enable ⟨200, 1000, 8⟩ .accelerometer ⟨500000, 0⟩,
    .enable ⟨100, 1000, 7⟩ .accelerometer ⟨1000000, 5⟩, .suspend 200, .suspend 100, .resume 200,
    .resume 100, .processDeath 200, .activeInfo 100] (Hardware.obliges_iff.2 (by decide))
  obtain ⟨hanswers, halike⟩ := hsame _ _ (by rfl) hquiet hquiet'
  exact ⟨hanswers, halike _ _ ⟨_, rfl⟩ ⟨_, rfl⟩ (by rfl)⟩

end Broker
end SensorBroker
