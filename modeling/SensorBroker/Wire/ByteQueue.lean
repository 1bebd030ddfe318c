/-
# Byte queues

A first-in first-out queue of bytes: what a socket holds between its two ends
and what a channel still has to send. Bytes arrive in runs at the back and
leave in runs from the front; the front is a list, the back a reversed list
turned over when the front runs out, so a run costs its own length.

A queue means its `toList`: pushing appends to it (`ByteQueue.toList_push`),
taking splits it (`ByteQueue.toList_split`), and nothing else changes it.

Key definitions: `ByteQueue`, `ByteQueue.push`, `ByteQueue.split`.
Key theorems: `ByteQueue.toList_push`, `ByteQueue.toList_split`,
`ByteQueue.size_eq_length`.
-/
import SensorBroker.Sensor.Basic

namespace SensorBroker

/-- A first-in first-out queue of bytes. -/
structure ByteQueue where
  /-- The oldest bytes, oldest first. -/
  front : Bytes
  /-- The youngest bytes, youngest first. -/
  back : Bytes
  /-- How many bytes there are. -/
  size : Nat
  /-- The count is right. -/
  size_eq : size = front.length + back.length
deriving DecidableEq

namespace ByteQueue

/-- The queue without bytes. -/
def empty : ByteQueue := ⟨[], [], 0, rfl⟩

instance : EmptyCollection ByteQueue := ⟨empty⟩

instance : Inhabited ByteQueue := ⟨empty⟩

/-- The bytes, oldest first. -/
def toList (q : ByteQueue) : Bytes :=
  q.front ++ q.back.reverse

/-- Whether there is no byte. -/
def isEmpty (q : ByteQueue) : Bool :=
  q.size == 0

/-- Adds a run of bytes at the back. -/
def push (q : ByteQueue) (run : Bytes) : ByteQueue :=
  ⟨q.front, List.reverseAux run q.back, q.size + run.length, by
    rw [q.size_eq, List.reverseAux_eq, List.length_append, List.length_reverse]
    omega⟩

/-- The `n` oldest bytes (all of them, if there are fewer) and the rest. -/
def split (q : ByteQueue) (n : Nat) : Bytes × ByteQueue :=
  let run := q.front.take n
  if h : n ≤ run.length then
    (run, ⟨q.front.drop n, q.back, q.size - run.length, by
      rw [q.size_eq, List.length_drop, List.length_take]; omega⟩)
  else
    let rest := q.back.reverse
    let more := rest.take (n - run.length)
    (run ++ more, ⟨rest.drop (n - run.length), [], q.size - (run.length + more.length), by
      simp only [run, List.length_take] at h
      simp only [run, more, rest, q.size_eq, List.length_drop, List.length_take,
        List.length_reverse, List.length_nil]
      omega⟩)

theorem size_eq_length (q : ByteQueue) : q.size = q.toList.length := by
  simp [toList, q.size_eq]

@[simp] theorem toList_push (q : ByteQueue) (run : Bytes) :
    (q.push run).toList = q.toList ++ run := by
  simp [toList, push, List.reverseAux_eq]

theorem split_fst (q : ByteQueue) (n : Nat) : (q.split n).1 = q.toList.take n := by
  unfold split toList
  by_cases h : n ≤ (q.front.take n).length
  · simp only [dif_pos h]
    rw [List.length_take] at h
    rw [List.take_append_of_le_length (by omega)]
  · simp only [dif_neg h]
    rw [List.length_take] at h
    rw [List.take_append, List.length_take, Nat.min_eq_right (by omega)]

theorem split_snd (q : ByteQueue) (n : Nat) : (q.split n).2.toList = q.toList.drop n := by
  unfold split toList
  by_cases h : n ≤ (q.front.take n).length
  · simp only [dif_pos h]
    rw [List.length_take] at h
    rw [List.drop_append_of_le_length (by omega)]
  · simp only [dif_neg h]
    rw [List.length_take] at h
    have hn : q.front.drop n = [] := List.drop_eq_nil_of_le (by omega)
    rw [List.drop_append, hn, List.length_take, Nat.min_eq_right (by omega)]
    simp

/-- Taking a run splits the bytes there are. -/
theorem toList_split (q : ByteQueue) (n : Nat) :
    (q.split n).1 ++ (q.split n).2.toList = q.toList := by
  rw [split_fst, split_snd, List.take_append_drop]

theorem isEmpty_iff (q : ByteQueue) : q.isEmpty = true ↔ q.toList = [] := by
  rw [isEmpty, beq_iff_eq, size_eq_length, List.length_eq_zero_iff]

end ByteQueue
end SensorBroker
