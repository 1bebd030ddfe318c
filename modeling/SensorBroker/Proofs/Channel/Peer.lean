/-
# What a client does with its end of a channel

A client reads its socket, writes to it, or goes away. Reading takes bytes
off the front of what is on its way to it and changes nothing else; the other
two leave what is on its way alone.

Key definitions: `ClientAct`, `ClientAct.received`, `Link.act`.
Key theorems: `Link.received_append_act`.
-/
import Mathlib.Tactic.SplitIfs
import SensorBroker.Channel.Link

namespace SensorBroker

/-- What a client does with its end of a channel. -/
inductive ClientAct
  /-- One read of at most `n` bytes. -/
  | read (n : Nat)
  | write (run : Bytes)
  /-- The client's end goes away. -/
  | leave
deriving DecidableEq

namespace Link

/-- The sockets after a client has done something. -/
def act (l : Link) : ClientAct → Link
  | .read n => (l.readAtClient n).2
  | .write run =>
    match l.writeAtClient run with
    | .ok l => l
    | .error _ => l
  | .leave => l.dropClient

/-- The bytes a client gets by doing something. -/
def received (l : Link) : ClientAct → Bytes
  | .read n =>
    match (l.readAtClient n).1 with
    | .bytes run => run
    | .nothing | .ended => []
  | .write _ | .leave => []

/-- What a client gets is taken off what was on its way to it. -/
theorem received_append_act (l : Link) (a : ClientAct) :
    l.received a ++ (l.act a).toClient.toList = l.toClient.toList := by
  cases a with
  | read n =>
    simp only [received, act, readAtClient]
    split_ifs with hempty hshut hn
    · rfl
    · rfl
    · rfl
    · exact l.toClient.toList_split n
  | write run =>
    simp only [received, act, writeAtClient, List.nil_append]
    split_ifs <;> rfl
  | leave => rfl

end Link
end SensorBroker
