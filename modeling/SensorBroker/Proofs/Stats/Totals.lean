/-
# What the totals of dispatching add up to

An event that is passed on leaves one of a few traces in the totals: a sample
is an event of its sensor, sent on some channels, of which some took it; the
end of a flush reached who had asked for it, or not (`Passing`). A sample that
has no frame leaves no trace at all. The totals of a run are those of its
passings, one by one (`DispatchTotals.Tallies`), so that every event but a
sample without a frame is counted once, under its kind.

Key definitions: `Passing`, `DispatchTotals.record`, `DispatchTotals.Tallies`.
Key theorems: `Table.sum_values_insert`, `DispatchTotals.Tallies.sent`,
`DispatchTotals.tallies_foldl`, `countP_isSample`, `countP_not_isSample`.
-/
import Mathlib.Algebra.GroupWithZero.Nat
import SensorBroker.Stats.Dispatch

namespace SensorBroker

/-! ### Counters by key -/

namespace Table

variable {κ : Type} [Key κ]

theorem sum_place {k : κ} {v : Nat} : ∀ {es : List (κ × Nat)},
    es.Pairwise (fun a b => Key.rank a.1 < Key.rank b.1) →
    ((place k v es).map Prod.snd).sum + (lookup k es).getD 0 = (es.map Prod.snd).sum + v
  | [], _ => by simp [place, lookup]
  | (k', v') :: rest, h => by
    obtain ⟨hhead, hrest⟩ := List.pairwise_cons.1 h
    by_cases hlt : Key.rank k < Key.rank k'
    · have hnone : lookup k ((k', v') :: rest) = none := by
        refine lookup_eq_none_of_lt fun e he => ?_
        rcases List.mem_cons.1 he with rfl | he
        · exact hlt
        · exact Int.lt_trans hlt (hhead e he)
      simp only [place, if_pos hlt, hnone, List.map_cons, List.sum_cons, Option.getD_none]
      omega
    · by_cases heq : Key.rank k = Key.rank k'
      · simp only [place, lookup, heq, Int.lt_irrefl, if_true, if_false, List.map_cons,
          List.sum_cons, Option.getD_some]
        omega
      · have ih := sum_place (k := k) (v := v) hrest
        simp only [place, lookup, if_neg hlt, if_neg heq, List.map_cons, List.sum_cons]
        omega

/-- A new count changes the sum of all by what it adds to the old one. -/
theorem sum_values_insert (t : Table κ Nat) (k : κ) (v : Nat) :
    (t.insert k v).values.sum + t.getD k 0 = t.values.sum + v :=
  sum_place t.sorted

theorem getD_insert [DecidableEq κ] {ν : Type} (t : Table κ ν) (k j : κ) (v default : ν) :
    (t.insert k v).getD j default = if j = k then v else t.getD j default := by
  simp only [getD, get?_insert]
  by_cases h : j = k <;> simp [h]

end Table

/-! ### One event -/

/-- An event that was passed on, and what came of it. -/
inductive Passing
  /-- A sample: whether each of the channels it was sent on took it, unless it has
  no frame. -/
  | sample (e : Event) (sends : Option (List Bool))
  /-- The end of a flush: whether it reached who had asked for it. -/
  | completion (e : Event) (delivered : Bool)
deriving DecidableEq

namespace Passing

/-- Whether a sample was passed on. -/
def isSample : Passing → Bool
  | sample .. => true
  | completion .. => false

/-- Whether a sample of a sensor was passed on that had a frame. -/
def isSentOf (s : SensorId) : Passing → Bool
  | sample e (some _) => e.sensor = s
  | _ => false

/-- Whether a sample had a frame. -/
def isSent : Passing → Bool
  | sample _ (some _) => true
  | _ => false

/-- Whether a sample had none. -/
def isUnframed : Passing → Bool
  | sample _ none => true
  | _ => false

/-- Whether a sample had a frame, but no channel to send it on. -/
def isUnrouted : Passing → Bool
  | sample _ (some []) => true
  | _ => false

/-- How many sends of a sample failed. -/
def failures : Passing → Nat
  | sample _ (some sends) => sends.count false
  | _ => 0

/-- Whether the end of a flush reached who had asked for it. -/
def isDelivered : Passing → Bool
  | completion _ delivered => delivered
  | _ => false

/-- Whether the end of a flush did not. -/
def isUndelivered : Passing → Bool
  | completion _ delivered => !delivered
  | _ => false

end Passing

/-- Adds up what came of an event. -/
def DispatchTotals.record (t : DispatchTotals) : Passing → DispatchTotals
  | .sample _ none => t
  | .sample e (some sends) => t.event e.sensor (sends.count true) (sends.count false)
  | .completion _ delivered => t.flush delivered

/-- A sample has a frame or not. -/
theorem countP_isSample (ps : List Passing) :
    ps.countP Passing.isSample = ps.countP Passing.isSent + ps.countP Passing.isUnframed := by
  induction ps with
  | nil => rfl
  | cons p ps ih =>
    simp only [List.countP_cons, ih]
    rcases p with ⟨e, _ | sends⟩ | ⟨e, delivered⟩ <;>
      simp [Passing.isSample, Passing.isSent, Passing.isUnframed] <;> omega

/-- The end of a flush reaches who had asked for it or not. -/
theorem countP_not_isSample (ps : List Passing) :
    (ps.countP fun p => !p.isSample)
      = ps.countP Passing.isDelivered + ps.countP Passing.isUndelivered := by
  induction ps with
  | nil => rfl
  | cons p ps ih =>
    simp only [List.countP_cons, ih]
    rcases p with ⟨e, sends⟩ | ⟨e, _ | _⟩ <;>
      simp [Passing.isSample, Passing.isDelivered, Passing.isUndelivered] <;> omega

/-! ### A run of events -/

namespace DispatchTotals

/-- The totals are those of some events that were passed on. -/
structure Tallies (t : DispatchTotals) (ps : List Passing) : Prop where
  events : t.events = ps.countP Passing.isSent
  /-- The counts of all sensors are the count of all events. -/
  sensors : t.perSensor.values.sum = t.events
  sensor : ∀ s, t.perSensor.getD s 0 = ps.countP (Passing.isSentOf s)
  fanOut : t.fanOut.count = t.events
  unrouted : t.unrouted = ps.countP Passing.isUnrouted
  channelErrors : t.channelErrors = (ps.map Passing.failures).sum
  delivered : t.flushesDelivered = ps.countP Passing.isDelivered
  undelivered : t.flushesDropped = ps.countP Passing.isUndelivered

theorem tallies_nil : ({} : DispatchTotals).Tallies [] where
  events := rfl
  sensors := rfl
  sensor _ := rfl
  fanOut := rfl
  unrouted := rfl
  channelErrors := rfl
  delivered := rfl
  undelivered := rfl

/-- A sample that has no frame is counted nowhere. -/
theorem Tallies.unframed {t : DispatchTotals} {ps : List Passing} (h : t.Tallies ps) (e : Event) :
    t.Tallies (ps ++ [.sample e none]) := by
  constructor <;>
    simp [Passing.isSent, Passing.isSentOf, Passing.isUnrouted, Passing.failures,
      Passing.isDelivered, Passing.isUndelivered, h.events, h.sensors, h.sensor, h.fanOut,
      h.unrouted, h.channelErrors, h.delivered, h.undelivered]

/-- A sample that has a frame is an event of its sensor. -/
theorem Tallies.sent {t : DispatchTotals} {ps : List Passing} (h : t.Tallies ps) (e : Event)
    (sends : List Bool) :
    (t.event e.sensor (sends.count true) (sends.count false)).Tallies
      (ps ++ [.sample e (some sends)]) where
  events := by simp [event, Passing.isSent, h.events]
  sensors := by
    have hinsert := t.perSensor.sum_values_insert e.sensor (t.perSensor.getD e.sensor 0 + 1)
    have hsum := h.sensors
    show (t.perSensor.insert e.sensor (t.perSensor.getD e.sensor 0 + 1)).values.sum = t.events + 1
    omega
  sensor s := by
    have hs := h.sensor s
    simp only [event, Table.getD_insert, List.countP_append, List.countP_singleton,
      Passing.isSentOf]
    by_cases heq : s = e.sensor
    · subst heq
      simp [hs]
    · simp [heq, Ne.symm heq, hs]
  fanOut := by simp [event, RunningStats.count_push, h.fanOut]
  unrouted := by
    have hnil : sends.count true = 0 ∧ sends.count false = 0 ↔ sends = [] := by
      cases sends with
      | nil => simp
      | cons taken rest => cases taken <;> simp
    simp only [event, hnil, h.unrouted, List.countP_append, List.countP_singleton]
    cases sends <;> simp [Passing.isUnrouted]
  channelErrors := by simp [event, Passing.failures, h.channelErrors]
  delivered := by simp [event, Passing.isDelivered, h.delivered]
  undelivered := by simp [event, Passing.isUndelivered, h.undelivered]

/-- The end of a flush is no event of a sensor. -/
theorem Tallies.completion {t : DispatchTotals} {ps : List Passing} (h : t.Tallies ps) (e : Event)
    (delivered : Bool) : (t.flush delivered).Tallies (ps ++ [.completion e delivered]) := by
  cases delivered <;> constructor <;>
    simp [flush, Passing.isSent, Passing.isSentOf, Passing.isUnrouted, Passing.failures,
      Passing.isDelivered, Passing.isUndelivered, h.events, h.sensors, h.sensor, h.fanOut,
      h.unrouted, h.channelErrors, h.delivered, h.undelivered]

/-- **The totals of a run are those of its events, one by one.** -/
theorem tallies_foldl {t : DispatchTotals} {before : List Passing} (h : t.Tallies before)
    (ps : List Passing) : (ps.foldl record t).Tallies (before ++ ps) := by
  induction ps generalizing t before with
  | nil => rwa [List.append_nil]
  | cons p ps ih =>
    have hrecord : (t.record p).Tallies (before ++ [p]) := by
      rcases p with ⟨e, _ | sends⟩ | ⟨e, delivered⟩
      · exact h.unframed e
      · exact h.sent e sends
      · exact h.completion e delivered
    rw [List.foldl_cons, List.append_cons]
    exact ih hrecord

end DispatchTotals
end SensorBroker
