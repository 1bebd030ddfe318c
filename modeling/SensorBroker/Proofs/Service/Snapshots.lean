/-
# Into the snapshot and back

Suspending and resuming go through the sensors of a process one by one, and
each sensor ends in one place: where it went, with what was asked of it, or
where it was (`Moved`). The two differ in the direction alone. The outcome
names each sensor once, as done or as failed.

That a resumed subscription is the very one that was saved needs two facts
about what is ever recorded (`Suspension.Restorable`): a sensor that is never
suspended is in no snapshot, and a recorded period of zero, which asked again
would stand for the default, is the default.

Key definitions: `Moved`, `Suspension.Restorable`.
Key theorems: `Suspension.disableEach_spec`, `Suspension.enableEach_spec`,
`Suspension.suspend_spec`, `Suspension.resume_spec`,
`Suspension.Moves.restorable`.
-/
import SensorBroker.Proofs.Service.Unsubscribing

namespace SensorBroker

theorem Registry.mem_sensorsOf_iff (r : Registry) {pid : Pid} {s : SensorId} :
    s ∈ r.sensorsOf pid ↔ (r.subscription pid s).isSome = true := by
  rw [sensorsOf, Table.mem_keys_iff, subscription, subscriptionsOf, Table.getD]
  simp only [Table.get?_filter, Option.filter_eq_some_iff, Table.contains]
  cases r.subscriptions.get? s <;> simp

/-! ### One sensor -/

namespace Arbitration

theorem settings_enable {a a' : Arbitration} {pid : Pid} {s : SensorId} {request : Request}
    {r : Except ServiceError EnableOutcome} (he : a.enable pid s request = (r, a')) :
    a'.settings = a.settings := by
  cases r with
  | error e =>
    rcases enable_error he with ⟨-, rfl⟩ | ⟨_, -, hu, -⟩
    · rfl
    · exact hu.settings
  | ok outcome =>
    obtain ⟨_, _, _, -, -, -, rfl, -, -⟩ := enable_ok he
    rfl

theorem DisableSuccess.settings {a a' : Arbitration} {s : SensorId} {off : Bool}
    (h : a.DisableSuccess s off a') : a'.settings = a.settings := by
  cases h <;> rfl

theorem settings_disable {a a' : Arbitration} {pid : Pid} {s : SensorId}
    {r : Except ServiceError DisableOutcome} (hd : a.disable pid s = (r, a')) :
    a'.settings = a.settings := by
  cases r with
  | error e =>
    rcases disable_error hd with ⟨-, -, rfl⟩ | ⟨-, -, hu, -⟩
    · rfl
    · exact hu.settings
  | ok outcome => exact (disable_ok hd).2.settings

@[simp] theorem settings_perform (a : Arbitration) (c : DeviceCall) :
    (a.perform c).2.settings = a.settings := by
  unfold perform
  split <;> rfl

/-- No step changes the settings. -/
theorem Step.settings {a a' : Arbitration} (m : Step a a') : a'.settings = a.settings := by
  cases m with
  | enable pid s request => exact settings_enable rfl
  | disable pid s => exact settings_disable rfl
  | call _ => exact settings_perform ..
  | inject _ | withdraw _ | raise _ | record _ => rfl

theorem Steps.settings {a a' : Arbitration} (m : Steps a a') : a'.settings = a.settings := by
  induction m with
  | refl => rfl
  | tail _ step ih => exact step.settings.trans ih

/-- The period that is recorded is zero only if the default is. -/
theorem eq_zero_of_effectivePeriod {a : Arbitration} {s : SensorId} {request : Request}
    {period : Nanos} (hperiod : a.effectivePeriod s request = .ok period) (hzero : period = 0) :
    a.settings.defaultPeriod = 0 := by
  unfold effectivePeriod at hperiod
  simp only at hperiod
  split_ifs at hperiod with _ _ hz
  · cases hperiod
    exact hzero
  · cases hperiod
    exact absurd hzero hz

/-- A request that names its period, or whose zero is the default, is recorded
as it is. -/
theorem subscription_of_enable_ok {a a' : Arbitration} {pid : Pid} {s : SensorId}
    {request : Request} {outcome : EnableOutcome}
    (hzero : request.period = 0 → a.settings.defaultPeriod = 0)
    (he : a.enable pid s request = (.ok outcome, a')) :
    a'.registry.subscription pid s = some request := by
  obtain ⟨period, _, _, hperiod, -, -, rfl, -, -⟩ := enable_ok he
  have hsame : period = request.period := by
    unfold effectivePeriod at hperiod
    simp only at hperiod
    split_ifs at hperiod with _ _ hz
    · cases hperiod
      rw [hz, hzero hz]
    · cases hperiod
      rfl
  show (a.registry.put pid s ⟨period, request.delay⟩).subscription pid s = some request
  rw [Registry.subscription_put_self, hsame]

/-- Disabling brings no subscription about. -/
theorem subscription_of_subscription_disable {a a' : Arbitration} {pid other : Pid}
    {s s' : SensorId} {r : Except ServiceError DisableOutcome} {request : Request}
    (hd : a.disable pid s = (r, a')) (h : a'.registry.subscription other s' = some request) :
    a.registry.subscription other s' = some request := by
  cases r with
  | error e => exact (subscription_of_disable_error hd other s').symm.trans h
  | ok outcome =>
    by_cases hps : other = pid ∧ s' = s
    · obtain ⟨rfl, rfl⟩ := hps
      rw [subscription_of_disable_ok hd] at h
      cases h
    · exact (subscription_disable_of_ne hd (Classical.not_and_iff_not_or_not.1 hps)).symm.trans h

/-- Where subscribing fails, every subscription stays. -/
theorem subscription_of_enable_error {a a' : Arbitration} {pid : Pid} {s : SensorId}
    {request : Request} {e : ServiceError} (he : a.enable pid s request = (.error e, a'))
    (other : Pid) (s' : SensorId) :
    a'.registry.subscription other s' = a.registry.subscription other s' := by
  rcases enable_error he with ⟨-, rfl⟩ | ⟨_, -, hu, -⟩
  · rfl
  · exact hu.registry.subscription other s'

end Arbitration

/-! ### What moves and what stays -/

/-- Of what a process has of its sensors in one place, that of some has gone to
another place, and nothing else has changed: `source` and `target` say what was
in the two places, `source'` and `target'` what is there now. -/
structure Moved (sensors : List SensorId) (source target source' target' : SensorId → Option Request) :
    Prop where
  gone : ∀ s ∈ sensors, source' s = none ∧ target' s = source s
  kept : ∀ s, s ∉ sensors → source' s = source s ∧ target' s = target s

theorem Moved.nil (source target : SensorId → Option Request) :
    Moved [] source target source target :=
  ⟨fun _ h => (List.not_mem_nil h).elim, fun _ _ => ⟨rfl, rfl⟩⟩

/-- One sensor goes first, then others. -/
theorem Moved.cons {s : SensorId} {sensors : List SensorId}
    {source target source₁ target₁ source₂ target₂ : SensorId → Option Request}
    (first : Moved [s] source target source₁ target₁)
    (rest : Moved sensors source₁ target₁ source₂ target₂) (hs : s ∉ sensors) :
    Moved (s :: sensors) source target source₂ target₂ := by
  constructor
  · intro s' hs'
    rcases List.mem_cons.1 hs' with rfl | hmem
    · obtain ⟨hsource, htarget⟩ := rest.kept s' hs
      obtain ⟨hgone, harrived⟩ := first.gone s' List.mem_cons_self
      exact ⟨hsource.trans hgone, htarget.trans harrived⟩
    · have hne : s' ∉ [s] := fun h => hs (List.mem_singleton.1 h ▸ hmem)
      obtain ⟨hgone, harrived⟩ := rest.gone s' hmem
      exact ⟨hgone, harrived.trans (first.kept s' hne).1⟩
  · intro s' hs'
    obtain ⟨hne, hnot⟩ := not_or.1 (fun h => hs' (List.mem_cons.2 h))
    obtain ⟨hsource, htarget⟩ := rest.kept s' hnot
    obtain ⟨hsource₁, htarget₁⟩ := first.kept s' fun h => hne (List.mem_singleton.1 h)
    exact ⟨hsource.trans hsource₁, htarget.trans htarget₁⟩

/-- What is in either place was in one of them. -/
theorem Moved.eq_some_or {sensors : List SensorId}
    {source target source' target' : SensorId → Option Request}
    (h : Moved sensors source target source' target') {s : SensorId} {request : Request}
    (hs : source' s = some request ∨ target' s = some request) :
    source s = some request ∨ target s = some request := by
  by_cases hmem : s ∈ sensors
  · obtain ⟨hgone, harrived⟩ := h.gone s hmem
    rcases hs with hs | hs
    · rw [hgone] at hs
      cases hs
    · exact .inl (harrived.symm.trans hs)
  · obtain ⟨hsource, htarget⟩ := h.kept s hmem
    exact hs.imp hsource.symm.trans htarget.symm.trans

/-- The items that an outcome names, those that were done first. -/
def BulkOutcome.items {α : Type} (o : BulkOutcome α) : List α :=
  o.succeeded ++ o.failedItems

theorem BulkOutcome.items_failure {α : Type} (a : α) (e : ServiceError) (o : BulkOutcome α) :
    ((failure a e ++ o).items).Perm (a :: o.items) :=
  List.perm_middle

theorem BulkOutcome.mem_items_of_succeeded {α : Type} {o : BulkOutcome α} {a : α}
    (h : a ∈ o.succeeded) : a ∈ o.items :=
  List.mem_append_left _ h

namespace Suspension

/-! ### Sensor by sensor -/

/-- **Suspending goes through its sensors once**: the outcome names each, those
it names as done have gone into the snapshot, and nothing else has changed. -/
theorem disableEach_spec (pid : Pid) : ∀ (sensors : List SensorId) (a : Arbitration)
    (saved : Snapshot), sensors.Nodup → ∀ {outcome a' saved'},
      disableEach pid sensors a saved = (outcome, a', saved') →
      outcome.items.Perm sensors ∧
        Moved outcome.succeeded (a.registry.subscription pid) saved.get?
          (a'.registry.subscription pid) saved'.get? ∧
        ∀ other, other ≠ pid → ∀ s,
          a'.registry.subscription other s = a.registry.subscription other s
  | [], a, saved, _, _, _, _, h => by
    cases h
    exact ⟨.nil, .nil _ _, fun _ _ _ => rfl⟩
  | s :: rest, a, saved, hnodup, outcome, a', saved', h => by
    obtain ⟨hs, hrest⟩ := List.nodup_cons.1 hnodup
    rw [disableEach] at h
    rcases hd : a.disable pid s with ⟨e | disabled, a₁⟩
    · rw [hd] at h
      cases h
      obtain ⟨hperm, hmoved, hothers⟩ := disableEach_spec pid rest a₁ saved hrest rfl
      have hsame := Arbitration.subscription_of_disable_error hd
      have hsource : a₁.registry.subscription pid = a.registry.subscription pid :=
        funext fun s' => hsame pid s'
      refine ⟨(BulkOutcome.items_failure s e _).trans (hperm.cons s), hsource ▸ hmoved, ?_⟩
      intro other hne s'
      exact (hothers other hne s').trans (hsame other s')
    · rw [hd] at h
      cases h
      obtain ⟨hperm, hmoved, hothers⟩ :=
        disableEach_spec pid rest a₁ (saved.insert s disabled.request) hrest rfl
      have hsub := (Arbitration.disable_ok hd).1
      have hfirst : Moved [s] (a.registry.subscription pid) saved.get?
          (a₁.registry.subscription pid) (saved.insert s disabled.request).get? := by
        constructor
        · intro s' hs'
          obtain rfl := List.mem_singleton.1 hs'
          exact ⟨Arbitration.subscription_of_disable_ok hd, by rw [Table.get?_insert_self, hsub]⟩
        · intro s' hs'
          have hne : s' ≠ s := fun heq => hs' (List.mem_singleton.2 heq)
          exact ⟨Arbitration.subscription_disable_of_ne hd (.inr hne),
            Table.get?_insert_of_ne _ _ hne⟩
      have hnot : s ∉ (disableEach pid rest a₁ (saved.insert s disabled.request)).1.succeeded :=
        fun hmem => hs (hperm.subset (BulkOutcome.mem_items_of_succeeded hmem))
      refine ⟨hperm.cons s, hfirst.cons hmoved hnot, ?_⟩
      intro other hne s'
      exact (hothers other hne s').trans (Arbitration.subscription_disable_of_ne hd (.inl hne))

/-- **Resuming goes through the snapshot once**: the outcome names each sensor,
those it names as done are subscribed as the snapshot says and gone from it,
and nothing else has changed. -/
theorem enableEach_spec (pid : Pid) : ∀ (entries : List (SensorId × Request)) (a : Arbitration)
    (saved : Snapshot), (entries.map Prod.fst).Nodup →
      (∀ s request, (s, request) ∈ entries → saved.get? s = some request ∧
        (request.period = 0 → a.settings.defaultPeriod = 0)) → ∀ {outcome a' saved'},
      enableEach pid entries a saved = (outcome, a', saved') →
      outcome.items.Perm (entries.map Prod.fst) ∧
        Moved outcome.succeeded saved.get? (a.registry.subscription pid)
          saved'.get? (a'.registry.subscription pid) ∧
        ∀ other, other ≠ pid → ∀ s,
          a'.registry.subscription other s = a.registry.subscription other s
  | [], a, saved, _, _, _, _, _, h => by
    cases h
    exact ⟨.nil, .nil _ _, fun _ _ _ => rfl⟩
  | (s, request) :: rest, a, saved, hnodup, hsaved, outcome, a', saved', h => by
    obtain ⟨hs, hrest⟩ := List.nodup_cons.1 hnodup
    obtain ⟨hget, hzero⟩ := hsaved s request List.mem_cons_self
    have hlater : ∀ s' request', (s', request') ∈ rest → s' ≠ s ∧ saved.get? s' = some request' ∧
        (request'.period = 0 → a.settings.defaultPeriod = 0) := by
      intro s' request' hmem
      refine ⟨fun heq => hs ?_, hsaved s' request' (List.mem_cons_of_mem _ hmem)⟩
      exact List.mem_map.2 ⟨(s', request'), hmem, heq⟩
    rw [enableEach] at h
    rcases he : a.enable pid s request with ⟨e | enabled, a₁⟩
    · rw [he] at h
      cases h
      have hset := Arbitration.settings_enable he
      obtain ⟨hperm, hmoved, hothers⟩ := enableEach_spec pid rest a₁ saved hrest
        (fun s' request' hmem => hset ▸ (hlater s' request' hmem).2) rfl
      have hsame := Arbitration.subscription_of_enable_error he
      have htarget : a₁.registry.subscription pid = a.registry.subscription pid :=
        funext fun s' => hsame pid s'
      refine ⟨(BulkOutcome.items_failure s e _).trans (hperm.cons s), htarget ▸ hmoved, ?_⟩
      intro other hne s'
      exact (hothers other hne s').trans (hsame other s')
    · rw [he] at h
      cases h
      have hset := Arbitration.settings_enable he
      obtain ⟨hperm, hmoved, hothers⟩ := enableEach_spec pid rest a₁ (saved.erase s) hrest
        (fun s' request' hmem => by
          obtain ⟨hne, hget', hzero'⟩ := hlater s' request' hmem
          rw [Table.get?_erase_of_ne _ hne, hset]
          exact ⟨hget', hzero'⟩) rfl
      have hfirst : Moved [s] saved.get? (a.registry.subscription pid) (saved.erase s).get?
          (a₁.registry.subscription pid) := by
        constructor
        · intro s' hs'
          obtain rfl := List.mem_singleton.1 hs'
          refine ⟨Table.get?_erase_self .., ?_⟩
          rw [hget]
          exact Arbitration.subscription_of_enable_ok hzero he
        · intro s' hs'
          have hne : s' ≠ s := fun heq => hs' (List.mem_singleton.2 heq)
          exact ⟨Table.get?_erase_of_ne _ hne,
            Arbitration.subscription_enable_of_ne he (.inr hne)⟩
      have hnot : s ∉ (enableEach pid rest a₁ (saved.erase s)).1.succeeded :=
        fun hmem => hs (hperm.subset (BulkOutcome.mem_items_of_succeeded hmem))
      refine ⟨hperm.cons s, hfirst.cons hmoved hnot, ?_⟩
      intro other hne s'
      exact (hothers other hne s').trans (Arbitration.subscription_enable_of_ne he (.inl hne))

/-! ### A process -/

theorem nodup_suspendable (x : Suspension) (pid : Pid) : (x.suspendable pid).Nodup :=
  (Table.nodup_keys _).filter _

theorem mem_suspendable_iff (x : Suspension) {pid : Pid} {s : SensorId} :
    s ∈ x.suspendable pid ↔
      (x.arbitration.registry.subscription pid s).isSome = true ∧ x.isExempt s = false := by
  rw [suspendable, List.mem_filter, Registry.mem_sensorsOf_iff, Bool.not_eq_true']

theorem getD_get?_eq_saved (x : Suspension) (pid : Pid) :
    (x.snapshots.getD pid ∅).get? = x.saved pid := by
  funext s
  unfold saved Table.getD
  cases x.snapshots.get? pid <;> rfl

/-- What suspending a process has done. -/
theorem suspend_spec {x x' : Suspension} {pid : Pid} {outcome : BulkOutcome SensorId}
    (h : x.suspend pid = (outcome, x')) :
    outcome.items.Perm (x.suspendable pid) ∧
      Moved outcome.succeeded (x.arbitration.registry.subscription pid) (x.saved pid)
        (x'.arbitration.registry.subscription pid) (x'.saved pid) ∧
      ∀ other, other ≠ pid → x'.snapshots.get? other = x.snapshots.get? other ∧
        ∀ s, x'.arbitration.registry.subscription other s
          = x.arbitration.registry.subscription other s := by
  unfold suspend at h
  split at h
  · next hnil =>
    cases h
    rw [hnil]
    exact ⟨.nil, .nil _ _, fun _ _ => ⟨rfl, fun _ => rfl⟩⟩
  · next hsensors =>
    rcases hloop : disableEach pid (x.suspendable pid) x.arbitration (x.snapshots.getD pid ∅)
      with ⟨outcome', a', saved'⟩
    rw [hloop] at h
    cases h
    obtain ⟨hperm, hmoved, hothers⟩ := disableEach_spec pid _ _ _ (x.nodup_suspendable pid) hloop
    have hsaved : saved ⟨a', x.snapshots.insert pid saved'⟩ pid = saved'.get? := by
      funext s
      rw [saved_insert, if_pos rfl]
    rw [getD_get?_eq_saved] at hmoved
    refine ⟨hperm, hsaved ▸ hmoved, fun other hne => ⟨?_, hothers other hne⟩⟩
    exact Table.get?_insert_of_ne _ _ hne

theorem get?_keep_of_ne (snapshots : Table Pid Snapshot) {pid other : Pid} (snapshot : Snapshot)
    (h : other ≠ pid) : (keep snapshots pid snapshot).get? other = snapshots.get? other := by
  unfold keep
  split_ifs
  · exact Table.get?_erase_of_ne _ h
  · exact Table.get?_insert_of_ne _ _ h

theorem snapshots_discard_of_ne (x : Suspension) {pid other : Pid} (s : SensorId)
    (h : other ≠ pid) : (x.discard pid s).2.snapshots.get? other = x.snapshots.get? other := by
  unfold discard
  split
  · rfl
  · exact get?_keep_of_ne _ _ h

theorem snapshots_resume_of_ne (x : Suspension) {pid other : Pid} (h : other ≠ pid) :
    (x.resume pid).2.snapshots.get? other = x.snapshots.get? other := by
  unfold resume
  split
  · rfl
  · exact get?_keep_of_ne _ _ h

/-- A process that is not suspended is not resumed. -/
theorem eq_of_resume_error {x y : Suspension} {pid : Pid} {e : ServiceError}
    (h : x.resume pid = (.error e, y)) : y = x := by
  unfold resume at h
  split at h <;> cases h
  rfl

/-- What resuming a process has done, where it was suspended. -/
theorem resume_spec {x x' : Suspension} {pid : Pid} {outcome : BulkOutcome SensorId}
    (hzero : ∀ s request, x.saved pid s = some request → request.period = 0 →
      x.arbitration.settings.defaultPeriod = 0)
    (h : x.resume pid = (.ok outcome, x')) :
    ∃ snapshot, x.snapshots.get? pid = some snapshot ∧ outcome.items.Perm snapshot.keys ∧
      Moved outcome.succeeded (x.saved pid) (x.arbitration.registry.subscription pid)
        (x'.saved pid) (x'.arbitration.registry.subscription pid) ∧
      ∀ other, other ≠ pid → x'.snapshots.get? other = x.snapshots.get? other ∧
        ∀ s, x'.arbitration.registry.subscription other s
          = x.arbitration.registry.subscription other s := by
  unfold resume at h
  cases hsnapshot : x.snapshots.get? pid with
  | none =>
    rw [hsnapshot] at h
    cases h
  | some snapshot =>
    rw [hsnapshot] at h
    simp only at h
    rcases hloop : enableEach pid snapshot.entries x.arbitration snapshot
      with ⟨outcome', a', saved'⟩
    rw [hloop] at h
    cases h
    have hbefore : x.saved pid = snapshot.get? := by
      funext s
      rw [saved, hsnapshot, Option.bind_some]
    have hafter : saved ⟨a', keep x.snapshots pid saved'⟩ pid = saved'.get? := by
      funext s
      rw [saved_keep, if_pos rfl]
    obtain ⟨hperm, hmoved, hothers⟩ := enableEach_spec pid _ _ _ snapshot.nodup_keys
      (fun s request hmem => by
        have hget := snapshot.mem_entries_iff.1 hmem
        exact ⟨hget, hzero s request (hbefore ▸ hget)⟩) hloop
    rw [← hbefore, ← hafter] at hmoved
    refine ⟨snapshot, rfl, hperm, hmoved, fun other hne => ⟨?_, hothers other hne⟩⟩
    exact get?_keep_of_ne _ _ hne

/-! ### What is ever saved -/

/-- What is asked of sensors can be asked again: a sensor that is never
suspended is in no snapshot, and a recorded period of zero is the default. -/
structure Restorable (x : Suspension) : Prop where
  exempt : ∀ pid s, x.isExempt s = true → x.saved pid s = none
  zero : ∀ {pid s request}, x.arbitration.registry.subscription pid s = some request ∨
    x.saved pid s = some request → request.period = 0 →
      x.arbitration.settings.defaultPeriod = 0

theorem saved_eq_of_get?_eq {x y : Suspension} {pid : Pid}
    (h : y.snapshots.get? pid = x.snapshots.get? pid) : y.saved pid = x.saved pid := by
  funext s
  rw [saved, saved, h]

/-- Taking something out of a snapshot puts nothing in. -/
theorem saved_of_saved_discard {x : Suspension} {pid other : Pid} {s s' : SensorId}
    {request : Request} (h : (x.discard pid s).2.saved other s' = some request) :
    x.saved other s' = some request := by
  unfold discard at h
  cases hsnapshot : x.snapshots.get? pid with
  | none => rwa [hsnapshot] at h
  | some snapshot =>
    rw [hsnapshot] at h
    simp only at h
    rw [saved_keep] at h
    split_ifs at h with hother
    · rw [Table.get?_erase] at h
      split_ifs at h
      rwa [hother, saved, hsnapshot, Option.bind_some]
    · exact h

theorem saved_of_saved_forget {x : Suspension} {pid other : Pid} {s : SensorId}
    {request : Request} (h : (x.forget pid).2.saved other s = some request) :
    x.saved other s = some request := by
  unfold forget at h
  rw [saved_erase] at h
  split_ifs at h
  exact h

/-- Nothing is asked that was not, and nothing is saved that was not but of
sensors that may be suspended. -/
theorem Restorable.mono {x y : Suspension} (h : x.Restorable)
    (hset : y.arbitration.settings = x.arbitration.settings)
    (hasked : ∀ {pid s request}, y.arbitration.registry.subscription pid s = some request ∨
      y.saved pid s = some request → x.arbitration.registry.subscription pid s = some request ∨
      x.saved pid s = some request)
    (hsaved : ∀ {pid s request}, y.saved pid s = some request →
      x.saved pid s = some request ∨ x.isExempt s = false) : y.Restorable := by
  constructor
  · intro pid s hexempt
    have hexempt' : x.isExempt s = true := by rwa [isExempt, ← hset]
    cases hs : y.saved pid s with
    | none => rfl
    | some request =>
      rcases hsaved hs with hbefore | hno
      · rw [h.exempt pid s hexempt'] at hbefore
        cases hbefore
      · rw [hexempt'] at hno
        cases hno
  · intro pid s request hrequest
    rw [hset]
    exact h.zero (hasked hrequest)

theorem settings_suspend (x : Suspension) (pid : Pid) :
    (x.suspend pid).2.arbitration.settings = x.arbitration.settings := by
  unfold suspend
  split
  · rfl
  · exact disableEach_induction (P := fun a _ => a.settings = x.arbitration.settings) pid
      (fun ha hd => (Arbitration.settings_disable hd).trans ha)
      (fun ha hd => (Arbitration.settings_disable hd).trans ha) _ rfl

theorem settings_resume (x : Suspension) (pid : Pid) :
    (x.resume pid).2.arbitration.settings = x.arbitration.settings := by
  unfold resume
  split
  · rfl
  · exact enableEach_induction (P := fun a _ => a.settings = x.arbitration.settings) pid _
      (fun _ ha he => (Arbitration.settings_enable he).trans ha)
      (fun _ ha he => (Arbitration.settings_enable he).trans ha) rfl

theorem Restorable.enable {x : Suspension} (h : x.Restorable) (pid : Pid) (s : SensorId)
    (request : Request) :
    (x.setArbitration (x.arbitration.enable pid s request).2).Restorable := by
  rcases he : x.arbitration.enable pid s request with ⟨e | outcome, a⟩
  · refine h.mono (Arbitration.settings_enable he) (.imp (fun hsub => ?_) id) .inl
    exact (Arbitration.subscription_of_enable_error he _ _).symm.trans hsub
  · have hset := Arbitration.settings_enable he
    refine ⟨fun pid' s' hexempt => h.exempt pid' s' ?_, ?_⟩
    · have hsame : a.settings.freezingExempt.contains s' = true := hexempt
      rwa [hset] at hsame
    · intro pid' s' request' hrequest
      show request'.period = 0 → a.settings.defaultPeriod = 0
      rw [hset]
      rcases hrequest with hsub | hsaved
      · by_cases hps : pid' = pid ∧ s' = s
        · obtain ⟨rfl, rfl⟩ := hps
          obtain ⟨period, _, _, hperiod, -, -, rfl, -, -⟩ := Arbitration.enable_ok he
          have hnew := x.arbitration.registry.subscription_put_self pid' s'
            ⟨period, request.delay⟩
          obtain rfl : (⟨period, request.delay⟩ : Request) = request' :=
            Option.some.inj (hnew.symm.trans hsub)
          exact Arbitration.eq_zero_of_effectivePeriod hperiod
        · have hother := Arbitration.subscription_enable_of_ne he
            (Classical.not_and_iff_not_or_not.1 hps)
          exact h.zero (.inl (hother.symm.trans hsub))
      · exact h.zero (.inr hsaved)

theorem Restorable.suspend {x : Suspension} (h : x.Restorable) (pid : Pid) :
    (x.suspend pid).2.Restorable := by
  have hset := x.settings_suspend pid
  rcases hr : x.suspend pid with ⟨outcome, x'⟩
  rw [hr] at hset
  obtain ⟨hperm, hmoved, hothers⟩ := suspend_spec hr
  refine h.mono hset (fun {pid' s request} hrequest => ?_) (fun {pid' s request} hsaved => ?_)
  · by_cases hpid : pid' = pid
    · subst hpid
      exact hmoved.eq_some_or hrequest
    · obtain ⟨hsnapshots, hsub⟩ := hothers pid' hpid
      rwa [hsub s, saved_eq_of_get?_eq hsnapshots] at hrequest
  · by_cases hpid : pid' = pid
    · subst hpid
      by_cases hmem : s ∈ outcome.succeeded
      · -- only what may be suspended is tried
        have hsuspendable := hperm.subset (BulkOutcome.mem_items_of_succeeded hmem)
        exact .inr (x.mem_suspendable_iff.1 hsuspendable).2
      · exact .inl ((hmoved.kept s hmem).2.symm.trans hsaved)
    · rw [saved_eq_of_get?_eq (hothers pid' hpid).1] at hsaved
      exact .inl hsaved

theorem Restorable.resume {x : Suspension} (h : x.Restorable) (pid : Pid) :
    (x.resume pid).2.Restorable := by
  have hset := x.settings_resume pid
  rcases hr : x.resume pid with ⟨e | outcome, x'⟩
  · exact eq_of_resume_error hr ▸ h
  · rw [hr] at hset
    obtain ⟨_, -, -, hmoved, hothers⟩ :=
      resume_spec (fun s request hsaved => h.zero (.inr hsaved)) hr
    refine h.mono hset (fun {pid' s request} hrequest => ?_) (fun {pid' s request} hsaved => ?_)
    · by_cases hpid : pid' = pid
      · subst hpid
        exact (hmoved.eq_some_or hrequest.symm).symm
      · obtain ⟨hsnapshots, hsub⟩ := hothers pid' hpid
        rwa [hsub s, saved_eq_of_get?_eq hsnapshots] at hrequest
    · by_cases hpid : pid' = pid
      · subst hpid
        by_cases hmem : s ∈ outcome.succeeded
        · rw [(hmoved.gone s hmem).1] at hsaved
          cases hsaved
        · exact .inl ((hmoved.kept s hmem).1.symm.trans hsaved)
      · rw [saved_eq_of_get?_eq (hothers pid' hpid).1] at hsaved
        exact .inl hsaved

/-- **Every move keeps what is recorded restorable.** -/
theorem Move.restorable {grants : Pid → SensorId → Prop} {freezes : Pid → Prop}
    {drops : SensorId → Prop} {x y : Suspension}
    (m : Move grants freezes drops x y) (h : x.Restorable) : y.Restorable := by
  cases m with
  | enable request _ => exact h.enable _ _ request
  | disable pid s =>
    rcases hd : x.arbitration.disable pid s with ⟨result, a⟩
    exact h.mono (Arbitration.settings_disable hd)
      (.imp (Arbitration.subscription_of_subscription_disable hd) id) .inl
  | @suspend pid _ => exact h.suspend pid
  | resume pid => exact h.resume pid
  | discard pid s =>
    refine h.mono ?_ (.imp ?_ saved_of_saved_discard) fun hs => .inl (saved_of_saved_discard hs)
    · rw [arbitration_discard]
    · rw [arbitration_discard]
      exact id
  | forget pid =>
    exact h.mono rfl (.imp id saved_of_saved_forget) fun hs => .inl (saved_of_saved_forget hs)
  | @call c _ =>
    refine h.mono (Arbitration.settings_perform ..) (.imp (fun hsub => ?_) id) .inl
    have hsame := x.arbitration.registry_perform c
    exact hsame ▸ hsub
  | inject s => exact h.mono rfl id .inl
  | withdraw _ => exact h.mono rfl id .inl
  | raise es => exact h.mono rfl id .inl
  | record same =>
    refine h.mono rfl (fun {pid s request} => .imp (fun hsub => ?_) id) .inl
    rwa [Registry.subscription, ← same]

theorem Moves.restorable {grants : Pid → SensorId → Prop} {freezes : Pid → Prop}
    {drops : SensorId → Prop} {x y : Suspension} (m : Moves grants freezes drops x y)
    (h : x.Restorable) : y.Restorable := by
  induction m with
  | refl => exact h
  | tail _ move ih => exact move.restorable ih

end Suspension

end SensorBroker
