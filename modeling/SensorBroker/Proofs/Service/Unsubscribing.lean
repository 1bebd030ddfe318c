/-
# What is left after a sensor was disabled for a process

A process can hold to a sensor in two ways: by a subscription, and by an entry
of its snapshot that resuming it would turn into one. Once it holds to it in
neither way (`Suspension.Absent`), nothing but a request of its own to enable
the sensor brings it back: no suspending and no resuming, of whomever.

Disabling looks into the snapshot first and into the subscriptions only if it
finds nothing there. It therefore leaves the process without the sensor
exactly if the process did not hold to it in both ways at once
(`Broker.Reachable.absent_of_disable`). A process that enables a sensor while
it is suspended does, and keeps its subscription when it disables it
(`Broker.still_subscribed_after_disable`).

Key definitions: `Suspension.saved`, `Suspension.Absent`.
Key theorems: `Suspension.Moves.absent`, `Broker.Reachable.absent_of_disable`.
-/
import SensorBroker.Proofs.Service.Operation

namespace SensorBroker
namespace Suspension

/-- What the snapshot of a process holds of a sensor. -/
def saved (x : Suspension) (pid : Pid) (s : SensorId) : Option Request :=
  (x.snapshots.get? pid).bind fun snapshot => snapshot.get? s

/-- A process neither subscribes to a sensor nor would if it were resumed. -/
structure Absent (x : Suspension) (pid : Pid) (s : SensorId) : Prop where
  subscription : x.arbitration.registry.subscription pid s = none
  saved : x.saved pid s = none

theorem saved_insert (a : Arbitration) (snapshots : Table Pid Snapshot) (pid pid' : Pid)
    (snapshot : Snapshot) (s : SensorId) :
    saved ⟨a, snapshots.insert pid snapshot⟩ pid' s =
      if pid' = pid then snapshot.get? s else saved ⟨a, snapshots⟩ pid' s := by
  simp only [saved, Table.get?_insert]
  split_ifs <;> rfl

theorem saved_erase (a : Arbitration) (snapshots : Table Pid Snapshot) (pid pid' : Pid)
    (s : SensorId) :
    saved ⟨a, snapshots.erase pid⟩ pid' s =
      if pid' = pid then none else saved ⟨a, snapshots⟩ pid' s := by
  simp only [saved, Table.get?_erase]
  split_ifs <;> rfl

/-- Dropping an empty snapshot is as good as keeping it. -/
theorem saved_keep (a : Arbitration) (snapshots : Table Pid Snapshot) (pid pid' : Pid)
    (snapshot : Snapshot) (s : SensorId) :
    saved ⟨a, keep snapshots pid snapshot⟩ pid' s =
      if pid' = pid then snapshot.get? s else saved ⟨a, snapshots⟩ pid' s := by
  unfold keep
  split_ifs with hempty hpid hpid
  · rw [saved_erase, if_pos hpid, (Table.isEmpty_iff _).1 hempty s]
  · rw [saved_erase, if_neg hpid]
  · rw [saved_insert, if_pos hpid]
  · rw [saved_insert, if_neg hpid]

theorem get?_eq_none_of_saved {x : Suspension} {pid : Pid} {s : SensorId} {snapshot : Snapshot}
    (h : x.saved pid s = none) (hp : x.snapshots.get? pid = some snapshot) :
    snapshot.get? s = none := by
  rwa [saved, hp, Option.bind_some] at h

theorem getD_get?_eq_none {x : Suspension} {pid : Pid} {s : SensorId}
    (h : x.saved pid s = none) : (x.snapshots.getD pid ∅).get? s = none := by
  rw [Table.getD]
  cases hp : x.snapshots.get? pid with
  | none => rfl
  | some snapshot => exact get?_eq_none_of_saved h hp

theorem discard_fst (x : Suspension) (pid : Pid) (s : SensorId) :
    (x.discard pid s).1 = x.saved pid s := by
  unfold discard saved
  split
  · next h => rw [h, Option.bind_none]
  · next h => rw [h, Option.bind_some]

theorem saved_discard (x : Suspension) (pid : Pid) (s : SensorId) :
    (x.discard pid s).2.saved pid s = none := by
  unfold discard
  split
  · next h => rw [saved, h, Option.bind_none]
  · simp only
    rw [saved_keep, if_pos rfl, Table.get?_erase_self]

/-! ### Staying away -/

theorem Absent.suspend {x : Suspension} {pid : Pid} {s : SensorId} (h : x.Absent pid s)
    (pid' : Pid) : (x.suspend pid').2.Absent pid s := by
  unfold Suspension.suspend
  split
  · exact h
  · have hall := disableEach_induction pid'
      (P := fun a snapshot => a.registry.subscription pid s = none ∧
        (pid = pid' → snapshot.get? s = none))
      (fun {s' a a' snapshot outcome} ha hd => by
        refine ⟨Arbitration.subscription_disable_eq_none hd ha.1, fun heq => ?_⟩
        have hne : s ≠ s' := fun hss => by
          have hsub := (Arbitration.disable_ok hd).1
          rw [← heq, ← hss, ha.1] at hsub
          cases hsub
        rw [Table.get?_insert_of_ne _ _ hne]
        exact ha.2 heq)
      (fun ha hd => ⟨Arbitration.subscription_disable_eq_none hd ha.1, ha.2⟩)
      (x.suspendable pid') ⟨h.subscription, fun heq => heq ▸ getD_get?_eq_none h.saved⟩
    refine ⟨hall.1, ?_⟩
    rw [saved_insert]
    split_ifs with heq
    · exact hall.2 heq
    · exact h.saved

theorem Absent.resume {x : Suspension} {pid : Pid} {s : SensorId} (h : x.Absent pid s)
    (pid' : Pid) : (x.resume pid').2.Absent pid s := by
  unfold Suspension.resume
  cases hsnapshot : x.snapshots.get? pid' with
  | none => exact h
  | some snapshot =>
    -- a resumed process gets back what its snapshot holds, and nothing else
    have hother : pid = pid' → snapshot.get? s = none := fun heq =>
      get?_eq_none_of_saved h.saved (heq ▸ hsnapshot)
    have hall := enableEach_induction pid'
      (P := fun a snapshot => a.registry.subscription pid s = none ∧
        (pid = pid' → snapshot.get? s = none))
      snapshot.entries
      (fun {s' request a a' later outcome} hmem ha he => by
        have hne : pid ≠ pid' ∨ s ≠ s' := by
          by_cases heq : pid = pid'
          · refine .inr fun hss => ?_
            rw [snapshot.mem_entries_iff, ← hss, hother heq] at hmem
            cases hmem
          · exact .inl heq
        refine ⟨(Arbitration.subscription_enable_of_ne he hne).trans ha.1, fun heq => ?_⟩
        rw [Table.get?_erase]
        split_ifs
        · rfl
        · exact ha.2 heq)
      (fun {s' request a a' later e} hmem ha he => by
        refine ⟨?_, ha.2⟩
        rcases Arbitration.enable_error he with ⟨-, rfl⟩ | ⟨_, -, hu, -⟩
        · exact ha.1
        · exact (hu.registry.subscription pid s).trans ha.1)
      ⟨h.subscription, hother⟩
    refine ⟨hall.1, ?_⟩
    simp only
    rw [saved_keep]
    split_ifs with heq
    · exact hall.2 heq
    · exact h.saved

theorem Absent.discard {x : Suspension} {pid : Pid} {s : SensorId} (h : x.Absent pid s)
    (pid' : Pid) (s' : SensorId) : (x.discard pid' s').2.Absent pid s := by
  refine ⟨by rw [arbitration_discard]; exact h.subscription, ?_⟩
  unfold Suspension.discard
  cases hsnapshot : x.snapshots.get? pid' with
  | none => exact h.saved
  | some snapshot =>
    simp only
    rw [saved_keep]
    split_ifs with heq
    · rw [Table.get?_erase]
      split_ifs
      · rfl
      · exact get?_eq_none_of_saved h.saved (heq ▸ hsnapshot)
    · exact h.saved

theorem Absent.forget {x : Suspension} {pid : Pid} {s : SensorId} (h : x.Absent pid s)
    (pid' : Pid) : (x.forget pid').2.Absent pid s := by
  refine ⟨h.subscription, ?_⟩
  unfold Suspension.forget
  rw [saved_erase]
  split_ifs
  · rfl
  · exact h.saved

/-- **No move brings a sensor back** to a process that does not hold to it, but
one that enables it for the process. -/
theorem Move.absent {grants : Pid → SensorId → Prop} {freezes : Pid → Prop}
    {drops : SensorId → Prop} {x y : Suspension} {pid : Pid} {s : SensorId}
    (m : Move grants freezes drops x y) (hno : ¬ grants pid s) (h : x.Absent pid s) :
    y.Absent pid s := by
  cases m with
  | @enable pid' s' request granted =>
    have hne : pid ≠ pid' ∨ s ≠ s' := by
      by_cases heq : pid = pid'
      · exact .inr fun hss => hno (by rwa [heq, hss])
      · exact .inl heq
    exact ⟨(Arbitration.subscription_enable_of_ne rfl hne).trans h.subscription, h.saved⟩
  | disable pid' s' =>
    exact ⟨Arbitration.subscription_disable_eq_none rfl h.subscription, h.saved⟩
  | @suspend pid' _ => exact h.suspend pid'
  | resume pid' => exact h.resume pid'
  | discard pid' s' => exact h.discard pid' s'
  | forget pid' => exact h.forget pid'
  | call _ =>
    refine ⟨?_, h.saved⟩
    show (Arbitration.perform _ _).2.registry.subscription pid s = none
    rw [Arbitration.registry_perform]
    exact h.subscription
  | inject s' => exact ⟨h.subscription, h.saved⟩
  | withdraw _ => exact ⟨h.subscription, h.saved⟩
  | raise es => exact ⟨h.subscription, h.saved⟩
  | record same =>
    refine ⟨?_, h.saved⟩
    have hsub := h.subscription
    rwa [Registry.subscription, ← same] at hsub

theorem Moves.absent {grants : Pid → SensorId → Prop} {freezes : Pid → Prop}
    {drops : SensorId → Prop} {x y : Suspension} {pid : Pid} {s : SensorId}
    (m : Moves grants freezes drops x y) (hno : ¬ grants pid s) (h : x.Absent pid s) :
    y.Absent pid s := by
  induction m with
  | refl => exact h
  | tail _ move ih => exact move.absent hno ih

end Suspension

namespace Broker

/-- What disabling a sensor for a process has done when it succeeds: it took
the entry of the snapshot, if there is one, and else ended the subscription. -/
theorem disableFor_ok {b b' : Broker} {pid : Pid} {s : SensorId}
    (h : b.disableFor pid s = (.ok (), b')) :
    b'.suspension.saved pid s = none ∧ b'.registry.subscription pid s =
      if (b.suspension.saved pid s).isSome then b.registry.subscription pid s else none := by
  unfold disableFor forPid at h
  split_ifs at h
  · cases h
  · cases h
  · have hfound := b.suspension.discard_fst pid s
    have hsaved := b.suspension.saved_discard pid s
    have hsame := b.suspension.arbitration_discard pid s
    split at h
    · next saved x hd =>
      cases h
      rw [hd] at hfound hsaved hsame
      rw [← hfound, registry, arbitration, suspension_report]
      exact ⟨hsaved, congrArg (fun a : Arbitration => a.registry.subscription pid s) hsame⟩
    · next x hd =>
      rw [hd] at hfound hsaved hsame
      simp only at h
      split at h
      · next outcome a ha =>
        cases h
        rw [← hfound, registry, arbitration, suspension_report]
        exact ⟨hsaved, Arbitration.subscription_of_disable_ok ha⟩
      · cases h

theorem absent_run {b : Broker} {pid : Pid} {s : SensorId} (h : b.suspension.Absent pid s) :
    ∀ {ops : List Op}, (∀ op ∈ ops, ¬ op.Grants pid s) → (b.run ops).suspension.Absent pid s
  | [], _ => h
  | op :: _, hno =>
    absent_run ((b.moves_step op).absent (hno op List.mem_cons_self) h)
      fun op' hop' => hno op' (List.mem_cons_of_mem _ hop')

/-- A sensor that a process does not subscribe to reports only for others. -/
theorem Reachable.other_of_reports {b : Broker} (hb : b.Reachable) {pid : Pid} {s : SensorId}
    (hno : b.registry.subscription pid s = none) {d : Device} (hd : d ∈ b.hardware.devices)
    (hr : d.reports s = true) :
    ∃ other, other ≠ pid ∧ ∃ request, b.registry.subscription other s = some request := by
  have hruns : b.hardware.runs s = true := (hb.consistent.sound.reports_iff s).1 ⟨d, hd, hr⟩
  cases hb.consistent.settled s with
  | idle _ _ stopped =>
    have hstop : b.hardware.runs s = false := stopped
    rw [hstop] at hruns
    cases hruns
  | running subscribed =>
    have hne : b.registry.subscribers s ≠ [] :=
      fun hnil => subscribed ((b.registry.subscribers_eq_nil_iff s).1 hnil)
    obtain ⟨other, hother⟩ := List.exists_mem_of_ne_nil _ hne
    obtain ⟨request, hrequest⟩ := b.registry.mem_subscribers_iff.1 hother
    refine ⟨other, fun heq => ?_, request, hrequest⟩
    rw [heq, hno] at hrequest
    cases hrequest

/-- **Disabling leaves a process without the sensor**, for good, exactly if the
process did not both subscribe to it and have it in its snapshot. It then
comes back only by a request of the process to enable it, and until then it
reports for other processes only. -/
theorem Reachable.absent_of_disable {b b' : Broker} (hb : b.Reachable) {pid : Pid} {s : SensorId}
    (h : b.disableFor pid s = (.ok (), b') ∨
      ∃ caller : Identity, caller.pid = pid ∧ b.disable caller s = (.ok (), b')) :
    (b'.suspension.Absent pid s ↔
        ¬ ((b.suspension.saved pid s).isSome ∧ (b.registry.subscription pid s).isSome)) ∧
      (b'.suspension.Absent pid s → ∀ ops : List Op, (∀ op ∈ ops, ¬ op.Grants pid s) →
        (b'.run ops).suspension.Absent pid s ∧
        ∀ d ∈ (b'.run ops).hardware.devices, d.reports s = true →
          ∃ other, other ≠ pid ∧
            ∃ request, (b'.run ops).registry.subscription other s = some request) := by
  have hdisable : b.disableFor pid s = (.ok (), b') := by
    rcases h with h | ⟨caller, rfl, h⟩
    · exact h
    · exact h
  have hb' : b'.Reachable := by
    have hstep := hb.step (.disableFor pid s)
    rwa [Broker.step, hdisable] at hstep
  obtain ⟨hsaved, hsub⟩ := disableFor_ok hdisable
  constructor
  · constructor
    · rintro ⟨hnone, -⟩ ⟨hsnapshot, hlive⟩
      have hkept := hsub
      rw [if_pos hsnapshot] at hkept
      rw [← hkept, show b'.registry.subscription pid s = none from hnone] at hlive
      cases hlive
    · intro hnot
      refine ⟨hsub.trans ?_, hsaved⟩
      split_ifs with hsnapshot
      · exact Option.not_isSome_iff_eq_none.1 fun hlive => hnot ⟨hsnapshot, hlive⟩
      · rfl
  · intro habsent ops hno
    have hrun := absent_run habsent hno
    exact ⟨hrun, fun d hd hr => (hb'.run ops).other_of_reports hrun.subscription hd hr⟩

/-- A process enables the accelerometer and disables it. -/
theorem absent_after_disable :
    ∃ b b' : Broker, b.Reachable ∧ b.disableFor 100 .accelerometer = (.ok (), b') ∧
      b'.suspension.Absent 100 .accelerometer := by
  have hb := reachable_trial.run [.enable ⟨100, 1000, 7⟩ .accelerometer ⟨1000000, 0⟩]
  have hok : (disableFor _ 100 .accelerometer) = (.ok (), _) :=
    Prod.ext (x := (trial.run [.enable ⟨100, 1000, 7⟩ .accelerometer ⟨1000000, 0⟩]).disableFor 100
      .accelerometer) (by rfl) rfl
  exact ⟨_, _, hb, hok, (hb.absent_of_disable (.inl hok)).1.2 (by decide)⟩

/-- A process that enables a sensor while it is suspended, and disables it,
goes on subscribing to it. -/
theorem still_subscribed_after_disable :
    ∃ b : Broker, b.Reachable ∧ ∃ b' : Broker,
      b.disableFor 100 .accelerometer = (.ok (), b') ∧
      b'.registry.subscription 100 .accelerometer = some ⟨2000000, 0⟩ :=
  ⟨_, reachable_trial.run [.enable ⟨100, 1000, 7⟩ .accelerometer ⟨1000000, 0⟩, .suspend 100,
      .enable ⟨100, 1000, 7⟩ .accelerometer ⟨2000000, 0⟩],
    _, Prod.ext (by rfl) rfl, by decide⟩

end Broker
end SensorBroker
