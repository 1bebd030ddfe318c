/-
# Requests about one process each

What processes ask about their own subscriptions, and the answers they get. A
run of such requests makes no mock and ends none, so the hardware serves the
same sensors throughout, and by the same rules; its backends may refuse calls.

Key definitions: `Ask`, `Answer`, `Answer.Failed`, `Broker.answer`,
`Broker.asked`, `Broker.answers`.
Key theorems: `Broker.Reachable.equipped_asked`, `Broker.settings_asked`.
-/
import SensorBroker.Proofs.Service.Obliging

namespace SensorBroker

/-- A request about the subscriptions of one process. -/
inductive Ask
  | enable (caller : Identity) (s : SensorId) (request : Request)
  | disable (caller : Identity) (s : SensorId)
  | disableFor (pid : Pid) (s : SensorId)
  | suspend (pid : Pid)
  | resume (pid : Pid)
  | activeInfo (pid : Pid)
  | processDeath (pid : Pid)

/-- The process that a request is about. -/
def Ask.pid : Ask → Pid
  | .enable caller _ _ => caller.pid
  | .disable caller _ => caller.pid
  | .disableFor pid _ => pid
  | .suspend pid => pid
  | .resume pid => pid
  | .activeInfo pid => pid
  | .processDeath pid => pid

/-- What comes of a request. -/
inductive Answer
  | done (result : Except ServiceError Unit)
  | bulk (result : Except ServiceError (BulkOutcome SensorId))
  | info (result : Except ServiceError (List ActiveInfo))
deriving DecidableEq

/-- The errors that an answer tells of. -/
def Answer.errors : Answer → List ServiceError
  | .done (.ok _) | .info (.ok _) => []
  | .bulk (.ok outcome) => outcome.failed.map Prod.snd
  | .done (.error e) | .bulk (.error e) | .info (.error e) => [e]

theorem Answer.mem_errors_done {r : Except ServiceError Unit} {e : ServiceError} :
    e ∈ (done r).errors ↔ r = .error e := by
  cases r <;> simp [errors, eq_comm]

theorem Answer.mem_errors_bulk {r : Except ServiceError (BulkOutcome SensorId)}
    {e : ServiceError} : e ∈ (bulk r).errors ↔
      r = .error e ∨ ∃ outcome, r = .ok outcome ∧ e ∈ outcome.failed.map Prod.snd := by
  cases r <;> simp [errors, eq_comm]

theorem Answer.mem_errors_info {r : Except ServiceError (List ActiveInfo)} {e : ServiceError} :
    e ∈ (info r).errors ↔ r = .error e := by
  cases r <;> simp [errors, eq_comm]

/-- The answer tells of a backend that failed. -/
def Answer.Failed (x : Answer) : Prop :=
  ∃ s e, ServiceError.hardware s e ∈ x.errors

namespace Broker

/-- What a broker answers to a request, and the broker afterwards. -/
def answer (b : Broker) : Ask → Answer × Broker
  | .enable caller s request => (b.enable caller s request).map .done id
  | .disable caller s => (b.disable caller s).map .done id
  | .disableFor pid s => (b.disableFor pid s).map .done id
  | .suspend pid => (b.suspend pid).map .bulk id
  | .resume pid => (b.resume pid).map .bulk id
  | .activeInfo pid => (.info (b.activeInfo pid), b)
  | .processDeath pid => (b.processDeath pid).map (fun outcome => .bulk (.ok outcome)) id

/-- The broker after a request. -/
def ask (b : Broker) (q : Ask) : Broker :=
  (b.answer q).2

/-- The broker after a run of requests. -/
def asked (b : Broker) (run : List Ask) : Broker :=
  run.foldl ask b

/-- What a process is answered in a run of requests, in order. -/
def answers (pid : Pid) : List Ask → Broker → List Answer
  | [], _ => []
  | q :: rest, b =>
    if q.pid = pid then (b.answer q).1 :: answers pid rest (b.ask q)
    else answers pid rest (b.ask q)

variable {b : Broker}

/-- A request is a step that makes no mock and ends none, or changes nothing. -/
theorem ask_cases (b : Broker) (q : Ask) :
    b.ask q = b ∨ ∃ op : Op, (¬ op.Mocks ∧ ∀ s, ¬ op.Drops s) ∧ b.ask q = b.step op := by
  cases q with
  | enable caller s request => exact .inr ⟨.enable caller s request, ⟨id, fun _ => id⟩, rfl⟩
  | disable caller s => exact .inr ⟨.disable caller s, ⟨id, fun _ => id⟩, rfl⟩
  | disableFor pid s => exact .inr ⟨.disableFor pid s, ⟨id, fun _ => id⟩, rfl⟩
  | suspend pid => exact .inr ⟨.suspend pid, ⟨id, fun _ => id⟩, rfl⟩
  | resume pid => exact .inr ⟨.resume pid, ⟨id, fun _ => id⟩, rfl⟩
  | activeInfo pid => exact .inl rfl
  | processDeath pid => exact .inr ⟨.processDeath pid, ⟨id, fun _ => id⟩, rfl⟩

theorem Reachable.ask (h : b.Reachable) (q : Ask) : (b.ask q).Reachable := by
  rcases b.ask_cases q with heq | ⟨op, -, heq⟩
  · rwa [heq]
  · rw [heq]
    exact h.step op

theorem Reachable.equipped_ask (h : b.Reachable) (q : Ask) :
    b.hardware.Equipped (b.ask q).hardware := by
  rcases b.ask_cases q with heq | ⟨op, ⟨hno, -⟩, heq⟩
  · rw [heq]
    exact .refl _
  · rw [heq]
    exact (shifts_step b op h.orderly.serves_apart).equipped hno

theorem settings_ask (b : Broker) (q : Ask) :
    (b.ask q).arbitration.settings = b.arbitration.settings := by
  rcases b.ask_cases q with heq | ⟨op, -, heq⟩
  · rw [heq]
  · rw [heq]
    exact (b.moves_step op).steps.settings

theorem served_ask (h : b.arbitration.Served) (q : Ask) : (b.ask q).arbitration.Served := by
  rcases b.ask_cases q with heq | ⟨op, ⟨-, hno⟩, heq⟩
  · rwa [heq]
  · rw [heq]
    exact (b.moves_step op).served hno h

theorem Reachable.asked {b : Broker} (h : b.Reachable) : ∀ run : List Ask, (b.asked run).Reachable
  | [] => h
  | q :: rest => (h.ask q).asked rest

theorem Reachable.equipped_asked {b : Broker} (h : b.Reachable) : ∀ run : List Ask,
    b.hardware.Equipped (b.asked run).hardware
  | [] => .refl _
  | q :: rest => (h.equipped_ask q).trans ((h.ask q).equipped_asked rest)

theorem settings_asked (b : Broker) : ∀ run : List Ask,
    (b.asked run).arbitration.settings = b.arbitration.settings
  | [] => rfl
  | q :: rest => ((b.ask q).settings_asked rest).trans (b.settings_ask q)

end Broker
end SensorBroker
