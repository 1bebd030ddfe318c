/-
# A process that is suspended and has nothing to resume

A process counts as suspended as long as it has a snapshot, and a snapshot is
kept for what is in it: whatever takes the last sensor out of one drops it. Only
suspending puts a snapshot there before anything goes in. Where every sensor of a
process refuses to be disabled, nothing does, and the process is left suspended
with all its subscriptions (`Suspension.Hollow`). Resuming it then is answered
as done, with nothing in the outcome, instead of with the error that says it is
not suspended.

That is the only way to get there (`Broker.Op.Hollows`). Until it happens, a
process is suspended exactly if one of its sensors waits to be resumed.

Key definitions: `Suspension.Hollow`, `Broker.Op.Hollows`, `Broker.Unhollowed`.
Key theorems: `Suspension.hollow_suspend_iff`, `Suspension.Moves.hollow`,
`Broker.hollow_only_by_failed_suspend`.
-/
import SensorBroker.Proofs.Service.Suspending

namespace SensorBroker
namespace Suspension

/-- A process is suspended with an empty snapshot. -/
def Hollow (x : Suspension) (pid : Pid) : Prop :=
  x.snapshots.get? pid = some ∅

variable {x y : Suspension} {pid other : Pid}

/-! ### What a snapshot is for -/

theorem isSuspended_iff :
    x.isSuspended pid = true ↔ ∃ snapshot, x.snapshots.get? pid = some snapshot :=
  Option.isSome_iff_exists

theorem hollow_iff :
    x.Hollow pid ↔ x.isSuspended pid = true ∧ ∀ s, x.saved pid s = none := by
  rw [isSuspended_iff]
  constructor
  · intro h
    refine ⟨⟨∅, h⟩, fun s => ?_⟩
    rw [saved, h, Option.bind_some]
    rfl
  · rintro ⟨⟨snapshot, hsnapshot⟩, hnone⟩
    have hempty : snapshot = ∅ := Table.eq_empty_iff.2 fun s => by
      have hs := hnone s
      rwa [saved, hsnapshot, Option.bind_some] at hs
    rw [Hollow, hsnapshot, hempty]

/-- A process without a hollow snapshot is suspended exactly if something of it
waits to be resumed. -/
theorem isSuspended_iff_of_not_hollow (h : ¬ x.Hollow pid) :
    x.isSuspended pid = true ↔ ∃ s request, x.saved pid s = some request := by
  constructor
  · refine fun hsuspended => Classical.byContradiction fun hnothing => ?_
    refine h (hollow_iff.2 ⟨hsuspended, fun s => ?_⟩)
    exact Option.eq_none_iff_forall_ne_some.2 fun request hs => hnothing ⟨s, request, hs⟩
  · rintro ⟨s, request, hs⟩
    obtain ⟨snapshot, hsnapshot, -⟩ := Option.bind_eq_some_iff.1 hs
    exact isSuspended_iff.2 ⟨snapshot, hsnapshot⟩

theorem resume_refuses_iff :
    (x.resume pid).1 = .error (.notSuspended pid) ↔ ¬ x.isSuspended pid = true := by
  rw [isSuspended_iff, resume]
  cases x.snapshots.get? pid <;> simp

/-- Resuming a process with a hollow snapshot succeeds with nothing, and drops
the snapshot. -/
theorem Hollow.resume_eq (h : x.Hollow pid) : x.resume pid = (.ok .empty, (x.forget pid).2) := by
  rw [resume, h]
  rfl

/-! ### What makes a snapshot hollow -/

theorem not_hollow_keep (a : Arbitration) (snapshots : Table Pid Snapshot) (pid : Pid)
    (snapshot : Snapshot) : ¬ Hollow ⟨a, keep snapshots pid snapshot⟩ pid := by
  unfold Hollow keep
  split_ifs with hempty
  · rw [Table.get?_erase_self]
    nofun
  · rw [Table.get?_insert_self]
    exact fun h => hempty (Table.isEmpty_iff_eq.2 (Option.some.inj h))

theorem Hollow.of_resume (h : (x.resume other).2.Hollow pid) : x.Hollow pid := by
  by_cases hpid : pid = other
  · subst hpid
    unfold resume at h
    split at h
    · exact h
    · exact (not_hollow_keep _ _ _ _ h).elim
  · rwa [Hollow, x.snapshots_resume_of_ne hpid] at h

theorem Hollow.of_discard {s : SensorId} (h : (x.discard other s).2.Hollow pid) :
    x.Hollow pid := by
  by_cases hpid : pid = other
  · subst hpid
    unfold discard at h
    split at h
    · exact h
    · exact (not_hollow_keep _ _ _ _ h).elim
  · rwa [Hollow, x.snapshots_discard_of_ne s hpid] at h

theorem Hollow.of_forget (h : (x.forget other).2.Hollow pid) : x.Hollow pid := by
  rw [Hollow, forget, Table.get?_erase] at h
  split_ifs at h
  exact h

section

variable {x' : Suspension} {outcome : BulkOutcome SensorId}

theorem isSuspended_suspend_iff (h : x.suspend pid = (outcome, x')) :
    x'.isSuspended pid = true ↔ x.isSuspended pid = true ∨ x.suspendable pid ≠ [] := by
  unfold suspend at h
  split at h
  · next hnil =>
    cases h
    simp [hnil]
  · next hsensors =>
    cases h
    rw [isSuspended_iff]
    exact ⟨fun _ => .inr hsensors, fun _ => ⟨_, Table.get?_insert_self ..⟩⟩

/-- Nothing waits to be resumed after suspending a process exactly if nothing
did, and nothing could be suspended. -/
theorem saved_suspend_eq_none_iff (h : x.suspend pid = (outcome, x')) :
    (∀ s, x'.saved pid s = none) ↔ (∀ s, x.saved pid s = none) ∧ outcome.succeeded = [] := by
  obtain ⟨hperm, hmoved, -⟩ := suspend_spec h
  have hsaved (hnil : outcome.succeeded = []) (s : SensorId) : x'.saved pid s = x.saved pid s :=
    (hmoved.kept s (hnil ▸ List.not_mem_nil)).2
  constructor
  · intro hnone
    have hnil : outcome.succeeded = [] := by
      refine List.eq_nil_iff_forall_not_mem.2 fun s hmem => ?_
      -- what was suspended was subscribed to, and is saved now
      have hsuspendable := hperm.subset (BulkOutcome.mem_items_of_succeeded hmem)
      have hlive := (x.mem_suspendable_iff.1 hsuspendable).1
      rw [← (hmoved.gone s hmem).2, hnone s] at hlive
      cases hlive
    exact ⟨fun s => (hsaved hnil s).symm.trans (hnone s), hnil⟩
  · rintro ⟨hnone, hnil⟩ s
    exact (hsaved hnil s).trans (hnone s)

/-- If nothing could be suspended, something failed unless there was nothing to
suspend. -/
theorem failed_suspend_ne_nil_iff (h : x.suspend pid = (outcome, x'))
    (hnil : outcome.succeeded = []) : outcome.failed ≠ [] ↔ x.suspendable pid ≠ [] := by
  obtain ⟨hperm, -⟩ := suspend_spec h
  have hlength := hperm.length_eq
  rw [BulkOutcome.items, hnil, List.nil_append, BulkOutcome.failedItems, List.length_map] at hlength
  rw [← List.length_pos_iff, ← List.length_pos_iff, hlength]

/-- **When suspending a process leaves it with a hollow snapshot**: nothing could
be suspended, and either the snapshot was hollow already, or nothing was saved
and something failed. -/
theorem hollow_suspend_iff (h : x.suspend pid = (outcome, x')) :
    x'.Hollow pid ↔ outcome.succeeded = [] ∧
      (x.Hollow pid ∨ (∀ s, x.saved pid s = none) ∧ outcome.failed ≠ []) := by
  rw [hollow_iff, hollow_iff, isSuspended_suspend_iff h, saved_suspend_eq_none_iff h]
  constructor
  · rintro ⟨hsuspended | hsensors, hnone, hnil⟩
    · exact ⟨hnil, .inl ⟨hsuspended, hnone⟩⟩
    · exact ⟨hnil, .inr ⟨hnone, (failed_suspend_ne_nil_iff h hnil).2 hsensors⟩⟩
  · rintro ⟨hnil, ⟨hsuspended, hnone⟩ | ⟨hnone, hfailed⟩⟩
    · exact ⟨.inl hsuspended, hnone, hnil⟩
    · exact ⟨.inr ((failed_suspend_ne_nil_iff h hnil).1 hfailed), hnone, hnil⟩

end

/-- **No move makes the snapshot of a process hollow** but one that suspends the
process. -/
theorem Move.hollow {grants : Pid → SensorId → Prop} {freezes : Pid → Prop}
    {drops : SensorId → Prop} (m : Move grants freezes drops x y) (hno : ¬ freezes pid)
    (h : y.Hollow pid) : x.Hollow pid := by
  cases m with
  | @suspend pid' frozen =>
    have hne : pid ≠ pid' := fun heq => hno (heq ▸ frozen)
    rcases hr : x.suspend pid' with ⟨outcome, x'⟩
    obtain ⟨-, -, hothers⟩ := suspend_spec hr
    rwa [hr, Hollow, (hothers pid hne).1] at h
  | resume _ => exact h.of_resume
  | discard _ _ => exact h.of_discard
  | forget _ => exact h.of_forget
  | enable _ _ | disable _ _ | call _ | inject _ | withdraw _ | raise _ | record _ => exact h

theorem Moves.hollow {grants : Pid → SensorId → Prop} {freezes : Pid → Prop}
    {drops : SensorId → Prop} (m : Moves grants freezes drops x y) (hno : ¬ freezes pid)
    (h : y.Hollow pid) : x.Hollow pid := by
  induction m with
  | refl => exact h
  | tail _ move ih => exact ih (move.hollow hno h)

end Suspension

namespace Broker

variable {b : Broker} {pid : Pid}

/-! ### Runs -/

/-- An operation that leaves a process with a hollow snapshot: it is suspended,
nothing of it was saved before, and all its sensors refuse. -/
def Op.Hollows (b : Broker) : Op → Pid → Prop
  | .suspend pid', pid =>
    pid' = pid ∧ (∀ s, b.suspension.saved pid s = none) ∧
      ∃ outcome, (b.suspend pid).1 = .ok outcome ∧ outcome.succeeded = [] ∧ outcome.failed ≠ []
  | _, _ => False

/-- The brokers that any start leads to, and any run in which suspending a
process never leaves it with a hollow snapshot. -/
inductive Unhollowed (pid : Pid) : Broker → Prop
  | start {config : Config} {vendor : Device} {blueprint : Nat → Device} {rule : SocketRule}
    {watching : Bool} {b : Broker} (vendor_idle : vendor.IsIdle)
    (built_idle : ∀ n, (blueprint n).IsIdle)
    (started : (ofConfig config (.ofSettings config.hardware vendor blueprint) rule
      watching).start = (.ok (), b)) : Unhollowed pid b
  | step {b : Broker} (before : Unhollowed pid b) (op : Op) (spares : ¬ op.Hollows b pid) :
    Unhollowed pid (b.step op)

/-- What suspending a process answers, and what it does to the snapshots. -/
theorem suspend_eq (b : Broker) (hpid : ¬ pid < 0) :
    ∃ outcome, b.suspension.suspend pid = (outcome, (b.suspend pid).2.suspension) ∧
      (b.suspend pid).1 = .ok outcome := by
  rw [suspend, forPid, if_neg hpid, suspension_reportSuspended]
  exact ⟨_, rfl, rfl⟩

theorem hollow_of_suspend (h : (b.suspend pid).2.suspension.Hollow pid) :
    b.suspension.Hollow pid ∨ (Op.suspend pid).Hollows b pid := by
  by_cases hpid : pid < 0
  · rw [suspend, forPid, if_pos hpid] at h
    exact .inl h
  · obtain ⟨outcome, hsuspend, hanswer⟩ := b.suspend_eq hpid
    obtain ⟨hnil, hbefore | ⟨hnone, hfailed⟩⟩ := (Suspension.hollow_suspend_iff hsuspend).1 h
    · exact .inl hbefore
    · exact .inr ⟨rfl, hnone, outcome, hanswer, hnil, hfailed⟩

/-- **One operation makes the snapshot of a process hollow only if it was, or the
operation hollows it.** -/
theorem hollow_of_step {op : Op} (h : (b.step op).suspension.Hollow pid) :
    b.suspension.Hollow pid ∨ op.Hollows b pid := by
  have hmoves := b.moves_step op
  cases op with
  | suspend pid' =>
    by_cases hpid : pid' = pid
    · subst hpid
      exact hollow_of_suspend h
    · exact .inl (hmoves.hollow hpid h)
  | _ => exact .inl (hmoves.hollow id h)

theorem hollow_of_hollows {op : Op} (h : op.Hollows b pid) :
    (b.step op).suspension.Hollow pid := by
  cases op with
  | suspend pid' =>
    obtain ⟨rfl, hnone, outcome, hanswer, hnil, hfailed⟩ := h
    have hpid : ¬ pid' < 0 := fun hneg => by
      rw [suspend, forPid, if_pos hneg] at hanswer
      cases hanswer
    obtain ⟨outcome', hsuspend, hanswer'⟩ := b.suspend_eq hpid
    obtain rfl := Except.ok.inj (hanswer'.symm.trans hanswer)
    exact (Suspension.hollow_suspend_iff hsuspend).2 ⟨hnil, .inr ⟨hnone, hfailed⟩⟩
  | _ => exact h.elim

theorem Unhollowed.not_hollow (h : b.Unhollowed pid) : ¬ b.suspension.Hollow pid := by
  induction h with
  | start _ _ started =>
    obtain ⟨hw, -, rfl⟩ := start_ok started
    nofun
  | step _ op spares ih =>
    intro hhollow
    rcases hollow_of_step hhollow with hbefore | hhollows
    · exact ih hbefore
    · exact spares hhollows

/-- **When a suspended process has nothing to resume.** It has something as long
as no request to suspend it, with nothing of it saved, fails for every sensor;
one operation makes its snapshot hollow only by such a request, and every such
request does. While the snapshot is not hollow, the process is suspended exactly
if one of its sensors waits to be resumed, and resuming is refused exactly if none
does. While it is hollow, the process counts as suspended although none does, and
resuming it succeeds with nothing. -/
theorem hollow_only_by_failed_suspend (b : Broker) (pid : Pid) :
    (b.Unhollowed pid → ¬ b.suspension.Hollow pid) ∧
    (∀ op, (b.step op).suspension.Hollow pid → b.suspension.Hollow pid ∨ op.Hollows b pid) ∧
    (∀ op, op.Hollows b pid → (b.step op).suspension.Hollow pid) ∧
    (¬ b.suspension.Hollow pid →
      (b.suspension.isSuspended pid = true ↔
        ∃ s request, b.suspension.saved pid s = some request) ∧
      ((b.suspension.resume pid).1 = .error (.notSuspended pid) ↔
        ∀ s, b.suspension.saved pid s = none)) ∧
    (b.suspension.Hollow pid →
      b.suspension.isSuspended pid = true ∧ (∀ s, b.suspension.saved pid s = none) ∧
        b.suspension.resume pid = (.ok .empty, (b.suspension.forget pid).2)) := by
  refine ⟨Unhollowed.not_hollow, fun _ => hollow_of_step, fun _ => hollow_of_hollows,
    fun hsolid => ?_, fun hhollow => ?_⟩
  · have hsuspended := Suspension.isSuspended_iff_of_not_hollow hsolid
    refine ⟨hsuspended, ?_⟩
    rw [Suspension.resume_refuses_iff, hsuspended]
    simp only [not_exists, Option.eq_none_iff_forall_ne_some]
  · obtain ⟨hsuspended, hnone⟩ := Suspension.hollow_iff.1 hhollow
    exact ⟨hsuspended, hnone, hhollow.resume_eq⟩

/-- A process is not suspended before its only sensor refuses to be disabled, and
it has a hollow snapshot afterwards. -/
theorem hollow_after_failed_suspend :
    let b := stubborn.run [.enable ⟨100, 1000, 7⟩ ⟨2⟩ ⟨1000000, 0⟩]
    ¬ b.suspension.Hollow 100 ∧ (b.step (.suspend 100)).suspension.Hollow 100 := by
  intro b
  have hstart : stubborn.Unhollowed 100 :=
    .start ⟨rfl, rfl⟩ (fun _ => ⟨rfl, rfl⟩) (Prod.ext rfl rfl)
  have hunhollowed : b.Unhollowed 100 := hstart.step (.enable ⟨100, 1000, 7⟩ ⟨2⟩ ⟨1000000, 0⟩) id
  obtain ⟨hnever, -, hhollows, -⟩ := hollow_only_by_failed_suspend b 100
  refine ⟨hnever hunhollowed, hhollows (.suspend 100) ⟨rfl, fun _ => rfl, ?_⟩⟩
  exact ⟨⟨[], [(⟨2⟩, .hardware ⟨2⟩ (.refused "real" "disable" ⟨2⟩ "scripted failure"))]⟩,
    rfl, rfl, List.cons_ne_nil _ _⟩

/-- A process whose only sensor refused to be disabled counts as suspended with
nothing saved, still subscribes, and is resumed without an error. -/
theorem resumed_with_nothing :
    ∃ b : Broker, b.Reachable ∧ b.suspension.isSuspended 100 = true ∧
      (∀ s, b.suspension.saved 100 s = none) ∧
      b.registry.subscription 100 ⟨2⟩ = some ⟨1000000, 0⟩ ∧
      (b.resume 100).1 = .ok .empty ∧ (b.suspension.resume 100).1 = .ok .empty := by
  refine ⟨_, reachable_stubborn.run [.enable ⟨100, 1000, 7⟩ ⟨2⟩ ⟨1000000, 0⟩, .suspend 100],
    by decide +kernel, fun _ => rfl, by decide +kernel, rfl, rfl⟩

end Broker
end SensorBroker
