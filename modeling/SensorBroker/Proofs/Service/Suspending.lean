/-
# Suspending and resuming move subscriptions and change none

Whatever the hardware refuses, a suspended process has each of its sensors in
one of two places, with the parameters it asked for: subscribed, or in its
snapshot. Suspending takes those into the snapshot that may be suspended and
can be disabled, resuming takes those back that can be enabled, and the outcome
tells which. Other processes notice nothing of it.

Key definitions: `Broker.Suspends`, `Broker.Resumes`.
Key theorems: `Broker.Reachable.suspends_and_resumes`.
-/
import SensorBroker.Proofs.Service.Snapshots

namespace SensorBroker
namespace Broker

theorem Reachable.restorable {b : Broker} (h : b.Reachable) : b.suspension.Restorable := by
  induction h with
  | @start config vendor blueprint rule watching b _ _ started =>
    obtain ⟨hw, -, rfl⟩ := start_ok started
    exact ⟨fun _ _ _ => rfl, fun h => by rcases h with h | h <;> cases h⟩
  | step _ op ih => exact (moves_step _ op).restorable ih

/-! ### Requests -/

/-- What suspending a process did, if this was its outcome: every sensor that
may be suspended is named once; those that are named as done have gone from
the subscriptions into the snapshot as they were, everything else that the
process had in either is as before, and so is all that others have. -/
structure Suspends (b : Broker) (pid : Pid) (outcome : BulkOutcome SensorId) (b' : Broker) :
    Prop where
  once : outcome.items.Nodup
  named : ∀ s, s ∈ outcome.items ↔
    (b.registry.subscription pid s).isSome = true ∧ b.suspension.isExempt s = false
  moved : Moved outcome.succeeded (b.registry.subscription pid) (b.suspension.saved pid)
    (b'.registry.subscription pid) (b'.suspension.saved pid)
  exempt : ∀ s, b.suspension.isExempt s = true →
    b'.registry.subscription pid s = b.registry.subscription pid s
  others : ∀ other, other ≠ pid →
    b'.suspension.snapshots.get? other = b.suspension.snapshots.get? other ∧
      ∀ s, b'.registry.subscription other s = b.registry.subscription other s

/-- What resuming a process did, if this was its outcome: every sensor of the
snapshot is named once; those that are named as done have gone from the
snapshot into the subscriptions as they were, everything else that the process
had in either is as before, and so is all that others have. -/
structure Resumes (b : Broker) (pid : Pid) (outcome : BulkOutcome SensorId) (b' : Broker) :
    Prop where
  once : outcome.items.Nodup
  named : ∀ s, s ∈ outcome.items ↔ (b.suspension.saved pid s).isSome = true
  moved : Moved outcome.succeeded (b.suspension.saved pid) (b.registry.subscription pid)
    (b'.suspension.saved pid) (b'.registry.subscription pid)
  others : ∀ other, other ≠ pid →
    b'.suspension.snapshots.get? other = b.suspension.snapshots.get? other ∧
      ∀ s, b'.registry.subscription other s = b.registry.subscription other s

/-- Suspending always has an outcome. -/
theorem suspends_suspend (b : Broker) {pid : Pid} (hpid : ¬ pid < 0) :
    ∃ outcome b', b.suspend pid = (.ok outcome, b') ∧ b.Suspends pid outcome b' := by
  rcases hx : b.suspension.suspend pid with ⟨outcome, x⟩
  have hsuspend : b.suspend pid = (.ok outcome, reportSuspended pid
      (x.snapshots.getD pid ∅) outcome.succeeded { b with suspension := x }) := by
    rw [suspend, forPid, if_neg hpid, hx]
  refine ⟨outcome, _, hsuspend, ?_⟩
  obtain ⟨hperm, hmoved, hothers⟩ := Suspension.suspend_spec hx
  have hafter : (reportSuspended pid (x.snapshots.getD pid ∅) outcome.succeeded
      { b with suspension := x }).suspension = x := suspension_reportSuspended ..
  have hnamed : ∀ s, s ∈ outcome.items ↔
      (b.registry.subscription pid s).isSome = true ∧ b.suspension.isExempt s = false :=
    fun s => hperm.mem_iff.trans b.suspension.mem_suspendable_iff
  refine ⟨hperm.nodup_iff.2 (b.suspension.nodup_suspendable pid), hnamed, ?_, fun s hs => ?_, ?_⟩
  · rw [registry, registry, arbitration, arbitration, hafter]
    exact hmoved
  · have hnot : s ∉ outcome.succeeded := fun hmem => by
      have hno := ((hnamed s).1 (BulkOutcome.mem_items_of_succeeded hmem)).2
      rw [hs] at hno
      cases hno
    rw [registry, registry, arbitration, arbitration, hafter]
    exact (hmoved.kept s hnot).1
  · rw [registry, registry, arbitration, arbitration, hafter]
    exact hothers

theorem Reachable.resumes_of_resume {b b' : Broker} (hb : b.Reachable) {pid : Pid}
    {outcome : BulkOutcome SensorId} (h : b.resume pid = (.ok outcome, b')) :
    b.Resumes pid outcome b' := by
  unfold resume forPid at h
  split_ifs at h
  · cases h
  · split at h
    · cases h
    · next outcome' x hx =>
      cases h
      obtain ⟨snapshot, hsnapshot, hperm, hmoved, hothers⟩ :=
        Suspension.resume_spec (fun s request hs => hb.restorable.zero (.inr hs)) hx
      have hafter : (outcome.succeeded.foldl (fun b s => reportActive b pid s)
          { b with suspension := x }).suspension = x := suspension_foldl_reportActive ..
      refine ⟨hperm.nodup_iff.2 snapshot.nodup_keys, fun s => hperm.mem_iff.trans ?_, ?_, ?_⟩
      · rw [Suspension.saved, hsnapshot, Option.bind_some, snapshot.mem_keys_iff,
          Option.isSome_iff_exists]
      · rw [registry, registry, arbitration, arbitration, hafter]
        exact hmoved
      · rw [registry, registry, arbitration, arbitration, hafter]
        exact hothers

/-- **Suspending and resuming neither lose, invent nor alter a subscription**,
wherever the hardware refuses. -/
theorem Reachable.suspends_and_resumes {b : Broker} (hb : b.Reachable) (pid : Pid) :
    (∀ other s, b.suspension.isExempt s = true → b.suspension.saved other s = none) ∧
      (pid < 0 → b.suspend pid = (.error (.invalidPid pid), b)) ∧
      (¬ pid < 0 → ∃ outcome b', b.suspend pid = (.ok outcome, b') ∧
        b.Suspends pid outcome b') ∧
      ∀ outcome b', b.resume pid = (.ok outcome, b') → b.Resumes pid outcome b' :=
  ⟨hb.restorable.exempt, fun hpid => if_pos hpid, b.suspends_suspend,
    fun _ _ => hb.resumes_of_resume⟩

/-- A broker whose backend serves three sensors, of which the pedometer is never
suspended and the gyroscope cannot be switched off. -/
def stubborn : Broker :=
  (ofConfig {} (.ofSettings {} (.scripted "real"
    ([.accelerometer, ⟨2⟩, .pedometer].map Device.scriptedDescriptor)
    (fun _ c => c = .disable ⟨2⟩) false true) fun _ => .software) default false).start.2

theorem reachable_stubborn : stubborn.Reachable :=
  reachable_start ⟨rfl, rfl⟩ (fun _ => ⟨rfl, rfl⟩) rfl

/-- Of three sensors of a process, one goes into its snapshot, one cannot be
switched off and one is never suspended. -/
theorem suspends_one_of_three :
    ∃ b b' : Broker, b.Reachable ∧
      b.suspend 100 = (.ok ⟨[.accelerometer], [(⟨2⟩, .hardware ⟨2⟩
        (.refused "real" "disable" ⟨2⟩ "scripted failure"))]⟩, b') ∧
      b'.suspension.saved 100 .accelerometer = some ⟨1000000, 5⟩ ∧
      b'.registry.subscription 100 ⟨2⟩ = some ⟨1000000, 5⟩ ∧
      b'.registry.subscription 100 .pedometer = some ⟨2000000, 0⟩ := by
  have hb := reachable_stubborn.run [.enable ⟨100, 1000, 7⟩ .accelerometer ⟨1000000, 5⟩,
    .enable ⟨100, 1000, 7⟩ ⟨2⟩ ⟨1000000, 5⟩, .enable ⟨100, 1000, 7⟩ .pedometer ⟨2000000, 0⟩]
  obtain ⟨outcome, b', hsuspend, hspec⟩ := (hb.suspends_and_resumes 100).2.2.1 (by decide)
  have houtcome : outcome = ⟨[.accelerometer], [(⟨2⟩, .hardware ⟨2⟩
      (.refused "real" "disable" ⟨2⟩ "scripted failure"))]⟩ := by
    have hfirst := congrArg Prod.fst hsuspend
    exact (Except.ok.inj hfirst).symm
  subst houtcome
  refine ⟨_, b', hb, hsuspend, ?_, ?_, ?_⟩
  · rw [(hspec.moved.gone .accelerometer (by decide)).2]
    decide
  · rw [(hspec.moved.kept ⟨2⟩ (by decide)).1]
    decide
  · rw [hspec.exempt .pedometer (by decide)]
    decide

end Broker
end SensorBroker
