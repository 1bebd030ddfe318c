/-
# A note is dated, so that an old one is known to be old

What arbitration has noted of a running sensor was computed from the
subscribers of the sensor, and subscribers may change behind its back: the
records can be asked to add, replace or end a subscription directly. A note
therefore carries the generation of the subscribers it was computed from, and
whoever asks for the state of a sensor gets the note only if the generation is
still the same, and what follows from the records otherwise.

That this is always right rests on two facts. Every change of the subscribers
of a sensor raises its generation, a change that is taken back raising it twice,
so records never come back to a generation with other subscribers
(`Registry.Ages`). And a note is made of the records as they are at that moment,
generation and all (`Arbitration.dated_store`).

Requests and direct changes come one after the other here. A change that falls
into the middle of a request, between its look at the records and its note, is
not covered.

Key definitions: `Registry.Ages`, `Arbitration.Dated`, `Arbitration.Turn`,
`Arbitration.Current`.
Key theorems: `Registry.ages_step`, `Arbitration.ages_enable`,
`Arbitration.ages_disable`, `Arbitration.Turn.dated`,
`Arbitration.Turns.current_of_activeState`.
-/
import SensorBroker.Proofs.Service.Consistency
import SensorBroker.Proofs.Service.Pairs
import SensorBroker.Proofs.Service.Refusing
import SensorBroker.Proofs.Service.Snapshots

namespace SensorBroker

/-! ### Records and their generations -/

namespace Registry

/-- No generation has gone back, and where it is still the same, so are the
subscribers. -/
structure Ages (r r' : Registry) : Prop where
  generation_le (s : SensorId) : r.generation s ≤ r'.generation s
  subscriptionsOf (s : SensorId) (same : r'.generation s = r.generation s) :
    r'.subscriptionsOf s = r.subscriptionsOf s

variable {r r' r'' : Registry}

theorem Ages.refl (r : Registry) : r.Ages r :=
  ⟨fun _ => Nat.le_refl _, fun _ _ => rfl⟩

theorem Ages.trans (h : r.Ages r') (h' : r'.Ages r'') : r.Ages r'' where
  generation_le s := Nat.le_trans (h.generation_le s) (h'.generation_le s)
  subscriptionsOf s same := by
    -- what is the same in the end has not moved in between
    have hle := h.generation_le s
    have hle' := h'.generation_le s
    exact (h'.subscriptionsOf s (by omega)).trans (h.subscriptionsOf s (by omega))

/-- Records with the same subscriptions and generations are of one age. -/
theorem ages_of_eq (hgeneration : ∀ s, r'.generation s = r.generation s)
    (hsubscriptions : ∀ s, r'.subscriptionsOf s = r.subscriptionsOf s) : r.Ages r' :=
  ⟨fun s => Nat.le_of_eq (hgeneration s).symm, fun s _ => hsubscriptions s⟩

theorem ages_setSubscribers (r : Registry) (s : SensorId) (t : Table Pid Request) :
    r.Ages (r.setSubscribers s t) where
  generation_le s' := by
    rw [generation_setSubscribers]
    exact Nat.le_add_right _ _
  subscriptionsOf s' same := by
    rw [generation_setSubscribers] at same
    have hne : s' ≠ s := by
      rintro rfl
      rw [if_pos rfl] at same
      omega
    rw [subscriptionsOf_setSubscribers, if_neg hne]

theorem ages_put (r : Registry) (pid : Pid) (s : SensorId) (request : Request) :
    r.Ages (r.put pid s request) :=
  r.ages_setSubscribers s _

theorem ages_drop (r : Registry) (pid : Pid) (s : SensorId) : r.Ages (r.drop pid s) :=
  r.ages_setSubscribers s _

theorem ages_remove (r : Registry) (pid : Pid) (s : SensorId) : r.Ages (r.remove pid s).2 := by
  unfold remove
  split
  · exact r.ages_drop pid s
  · exact .refl r

theorem ages_destroyChannel (r : Registry) (cs : Channels) (pid : Pid) :
    r.Ages (r.destroyChannel cs pid).2.1 :=
  ages_of_eq (r.generation_destroyChannel cs pid) fun s => by
    unfold destroyChannel
    cases r.channels.get? pid <;> rfl

/-- **Whatever the records are asked directly, they age.** -/
theorem ages_step (r : Registry) (cs : Channels) (op : Op) : r.Ages (r.step cs op).2.1 := by
  cases op with
  | add pid s request =>
    simp only [step, add]
    cases r.subscription pid s with
    | none => exact r.ages_put pid s request
    | some _ => exact .refl r
  | update pid s request =>
    simp only [step, update]
    cases r.subscription pid s with
    | none => exact .refl r
    | some _ => exact r.ages_put pid s request
  | remove pid s teardown =>
    cases hold : r.subscription pid s with
    | none => cases teardown <;> simp [step, removeAndRelease, remove_of_none hold, Ages.refl]
    | some old =>
      cases teardown with
      | true =>
        simp only [step, if_true, removeAndRelease_of_some cs hold]
        split_ifs
        · exact (r.ages_drop pid s).trans (ages_destroyChannel _ cs pid)
        · exact r.ages_drop pid s
      | false =>
        simp only [step, Bool.false_eq_true, if_false, remove_of_some hold]
        exact r.ages_drop pid s
  | setChannel pid id => exact ages_of_eq (fun _ => rfl) fun _ => rfl
  | destroyChannel pid => exact r.ages_destroyChannel cs pid
  | release id =>
    exact ages_of_eq (r.generation_releaseIfCurrent cs id) (r.subscriptionsOf_releaseIfCurrent cs id)
  | destroyClient pid =>
    exact ages_of_eq (r.generation_destroyChannel cs pid) (r.subscriptionsOf_destroyClient cs pid)

end Registry

namespace Arbitration

variable {a a' : Arbitration} {s : SensorId} {state : ActiveState}

/-! ### Requests and the age of the records -/

theorem registry_program (a : Arbitration) (s : SensorId) :
    (a.program s).2.registry = a.registry := by
  have hperform := a.registry_perform (.setBatch s (a.registry.merged a.settings s))
  unfold program
  simp only
  split_ifs
  · rfl
  · split
    · next h => rwa [h] at hperform
    · next h => rwa [h] at hperform

theorem registry_switchOn (a : Arbitration) (s : SensorId) :
    (a.switchOn s).2.registry = a.registry := by
  unfold switchOn
  split_ifs
  · rfl
  · exact a.registry_perform _

theorem ages_rollBack (a : Arbitration) (pid : Pid) (s : SensorId) (previous : Option Request) :
    a.registry.Ages (a.rollBack pid s previous).registry := by
  cases previous with
  | some request => exact a.registry.ages_put pid s request
  | none => exact a.registry.ages_remove pid s

theorem ages_switchOff (a : Arbitration) (s : SensorId) :
    a.registry.Ages (a.switchOff s).2.registry := by
  have hperform := a.registry_perform (.disable s)
  unfold switchOff
  split
  · next h =>
    rw [h] at hperform
    rw [hperform]
    exact .refl _
  · next h =>
    rw [h] at hperform
    exact Registry.ages_of_eq (fun s' => congrArg (·.generation s') hperform)
      fun s' => congrArg (·.subscriptionsOf s') hperform

/-- **The records age with a request to enable**, be it met or taken back. -/
theorem ages_enable (a : Arbitration) (pid : Pid) (s : SensorId) (request : Request) :
    a.registry.Ages (a.enable pid s request).2.registry := by
  cases hp : a.effectivePeriod s request with
  | error e =>
    simp only [enable, hp]
    exact .refl _
  | ok period =>
    rw [enable_of_effectivePeriod hp]
    have hasking : a.registry.Ages (a.asking pid s ⟨period, request.delay⟩).registry :=
      a.registry.ages_put pid s _
    have hprogram := (a.asking pid s ⟨period, request.delay⟩).registry_program s
    rcases hp₁ : (a.asking pid s ⟨period, request.delay⟩).program s with ⟨e | told, a₁⟩
    all_goals
      rw [hp₁] at hprogram
      rw [← hprogram] at hasking
    · exact hasking.trans (a₁.ages_rollBack pid s _)
    · have hswitch := a₁.registry_switchOn s
      rcases hp₂ : a₁.switchOn s with ⟨e | _, a₂⟩
      all_goals
        simp only [hp₂] at hswitch ⊢
        rw [← hswitch] at hasking
      · exact hasking.trans (a₂.ages_rollBack pid s _)
      · exact hasking

/-- **The records age with a request to disable**, be it met or taken back. -/
theorem ages_disable (a : Arbitration) (pid : Pid) (s : SensorId) :
    a.registry.Ages (a.disable pid s).2.registry := by
  cases hp : a.registry.subscription pid s with
  | none =>
    rw [disable_of_not_subscribed hp]
    exact .refl _
  | some request =>
    rw [disable_of_subscription hp]
    have hwithout : a.registry.Ages (a.without pid s).registry := a.registry.ages_drop pid s
    split_ifs
    · have hprogram := (a.without pid s).registry_program s
      rcases hp₁ : (a.without pid s).program s with ⟨e | told, a₁⟩
      all_goals
        rw [hp₁] at hprogram
        rw [← hprogram] at hwithout
      · exact hwithout.trans (a₁.ages_rollBack pid s _)
      · exact hwithout
    · have hoff := hwithout.trans ((a.without pid s).ages_switchOff s)
      rcases hp₁ : (a.without pid s).switchOff s with ⟨e | _, a₁⟩
      all_goals rw [hp₁] at hoff
      · exact hoff.trans (a₁.ages_rollBack pid s _)
      · exact hoff

/-! ### Notes and their dates -/

/-- A note of a sensor is no younger than the records, and if it is as old as
they are, it says what follows from them. -/
structure Dated (a : Arbitration) (s : SensorId) (state : ActiveState) : Prop where
  generation_le : state.generation ≤ a.registry.generation s
  merged (same : state.generation = a.registry.generation s) : state.merged = a.wanted s
  subscribers (same : state.generation = a.registry.generation s) :
    state.subscribers = a.registry.subscribers s

/-- Every note is dated. -/
def AllDated (a : Arbitration) : Prop :=
  ∀ s state, a.active.get? s = some state → a.Dated s state

/-- As the records age, a note stays dated. -/
theorem Dated.of_ages (h : a.Dated s state) (hset : a'.settings = a.settings)
    (hages : a.registry.Ages a'.registry) : a'.Dated s state := by
  have hle := hages.generation_le s
  have hle' := h.generation_le
  have hunmoved (same : state.generation = a'.registry.generation s) :
      state.generation = a.registry.generation s ∧
        a'.registry.subscriptionsOf s = a.registry.subscriptionsOf s :=
    ⟨by omega, hages.subscriptionsOf s (by omega)⟩
  refine ⟨by omega, fun same => ?_, fun same => ?_⟩
  · obtain ⟨hsame, hsub⟩ := hunmoved same
    rw [h.merged hsame, wanted_congr hset hsub]
  · obtain ⟨hsame, hsub⟩ := hunmoved same
    rw [h.subscribers hsame, Registry.subscribers, Registry.subscribers, hsub]

theorem AllDated.of_ages (h : a.AllDated) (hset : a'.settings = a.settings)
    (hages : a.registry.Ages a'.registry) (hactive : a'.active = a.active) : a'.AllDated :=
  fun s state hnoted => (h s state (hactive ▸ hnoted)).of_ages hset hages

/-- A note is made of the records as they are. -/
theorem dated_store (h : a.AllDated) (s : SensorId) : (a.store s).AllDated := by
  intro s' state hnoted
  by_cases hs : s' = s
  · subst hs
    rw [store, Table.get?_insert_self] at hnoted
    cases hnoted
    exact ⟨Nat.le_refl _, fun _ => rfl, fun _ => rfl⟩
  · rw [active_store_of_ne a hs] at hnoted
    obtain ⟨hle, hmerged, hsubscribers⟩ := h s' state hnoted
    exact ⟨hle, hmerged, hsubscribers⟩

theorem AllDated.enable (h : a.AllDated) (pid : Pid) (s : SensorId) (request : Request) :
    (a.enable pid s request).2.AllDated := by
  have hages := a.ages_enable pid s request
  rcases he : a.enable pid s request with ⟨e | outcome, a'⟩
  · rw [he] at hages
    have hactive : a'.active = a.active := by
      rcases enable_error he with ⟨-, rfl⟩ | ⟨_, -, hu, -⟩
      · rfl
      · exact hu.active
    exact h.of_ages (settings_enable he) hages hactive
  · rw [he] at hages
    obtain ⟨period, -, hw', -, -, -, rfl, -⟩ := enable_ok he
    have hasking : AllDated { a.asking pid s ⟨period, request.delay⟩ with hardware := hw' } :=
      h.of_ages rfl hages rfl
    exact dated_store hasking s

theorem AllDated.disable (h : a.AllDated) (pid : Pid) (s : SensorId) :
    (a.disable pid s).2.AllDated := by
  have hages := a.ages_disable pid s
  rcases hd : a.disable pid s with ⟨e | outcome, a'⟩
  · rw [hd] at hages
    have hactive : a'.active = a.active := by
      rcases disable_error hd with ⟨-, -, rfl⟩ | ⟨-, -, hu, -⟩
      · rfl
      · exact hu.active
    exact h.of_ages (settings_disable hd) hages hactive
  · rw [hd] at hages
    obtain ⟨-, hok⟩ := disable_ok hd
    generalize outcome.switchedOff = off at hok
    cases hok with
    | @shared hw _ _ =>
      have hwithout : AllDated { a.without pid s with hardware := hw } := h.of_ages rfl hages rfl
      exact dated_store hwithout s
    | @last hw _ _ =>
      -- the note of this sensor goes, the others stay
      intro s' state hnoted
      have hne : s' ≠ s := by
        rintro rfl
        rw [off, Table.get?_erase_self] at hnoted
        cases hnoted
      rw [off, Table.get?_erase_of_ne _ hne] at hnoted
      exact (h s' state hnoted).of_ages rfl hages

/-! ### Requests and direct changes, one after the other -/

/-- Something that happens while notes are kept. -/
inductive Turn : Arbitration → Arbitration → Prop
  | enable {a : Arbitration} (pid : Pid) (s : SensorId) (request : Request) : Turn a (a.enable pid s request).2
  | disable {a : Arbitration} (pid : Pid) (s : SensorId) : Turn a (a.disable pid s).2
  /-- The records are asked directly, over some channels. -/
  | change {a : Arbitration} (cs : Channels) (op : Registry.Op) :
    Turn a { a with registry := (a.registry.step cs op).2.1 }
  /-- The hardware comes to do, and to refuse, something else. -/
  | hardware {a : Arbitration} (hw : Hardware) : Turn a { a with hardware := hw }

/-- Turns one after the other. -/
abbrev Turns : Arbitration → Arbitration → Prop :=
  Relation.ReflTransGen Turn

/-- **Every turn keeps every note dated.** -/
theorem Turn.dated (turn : Turn a a') (h : a.AllDated) : a'.AllDated := by
  cases turn with
  | enable pid s request => exact h.enable pid s request
  | disable pid s => exact h.disable pid s
  | change cs op => exact h.of_ages rfl (a.registry.ages_step cs op) rfl
  | hardware hw => exact h.of_ages rfl (.refl _) rfl

theorem Turns.dated (run : Turns a a') (h : a.AllDated) : a'.AllDated := by
  induction run with
  | refl => exact h
  | tail _ turn ih => exact turn.dated ih

/-- A state of a sensor is what the records say at this moment: it has their
generation, their subscribers, and the least period and delay that any of these
asks for; where there is none, the default period and no delay. -/
structure Current (a : Arbitration) (s : SensorId) (state : ActiveState) : Prop where
  generation : state.generation = a.registry.generation s
  subscribers : Lists state.subscribers id fun pid => ∃ r, a.registry.subscription pid s = some r
  period (wanted : (a.registry.requests s).Nonempty) :
    IsLeast (Request.period '' a.registry.requests s) state.merged.period
  delay (wanted : (a.registry.requests s).Nonempty) :
    IsLeast (Request.delay '' a.registry.requests s) state.merged.delay
  unwanted (nobody : a.registry.requests s = ∅) : state.merged = ⟨a.settings.defaultPeriod, 0⟩

/-- What is computed from the records is current. -/
theorem current_of_eq (hgeneration : state.generation = a.registry.generation s)
    (hsubscribers : state.subscribers = a.registry.subscribers s)
    (hmerged : state.merged = a.wanted s) : a.Current s state := by
  have hempty : a.registry.subscriptionsOf s = ∅ ↔ a.registry.requests s = ∅ := by
    rw [Table.eq_empty_iff, Set.eq_empty_iff_forall_notMem]
    constructor
    · rintro hnone request ⟨pid, hpid⟩
      rw [Registry.subscription, hnone pid] at hpid
      cases hpid
    · exact fun hnone pid => Option.eq_none_iff_forall_ne_some.2 fun request hpid =>
        hnone request ⟨pid, hpid⟩
  have hleast (wanted : (a.registry.requests s).Nonempty) :=
    a.registry.isLeast_merged a.settings fun hnobody => wanted.ne_empty (hempty.1 hnobody)
  refine ⟨hgeneration, ?_, fun wanted => ?_, fun wanted => ?_, fun nobody => ?_⟩
  · rw [hsubscribers]
    exact ⟨fun pid => a.registry.mem_subscribers_iff, (Registry.lists_keys _).ascends⟩
  · rw [hmerged]
    exact (hleast wanted).1
  · rw [hmerged]
    exact (hleast wanted).2
  · rw [hmerged, wanted, Registry.merged, hempty.2 nobody]
    rfl

/-- Of dated notes only those are handed out that are current; the others are
made anew. -/
theorem AllDated.current (h : a.AllDated) (hstate : a.activeState s = some state) :
    a.Current s state := by
  rw [activeState] at hstate
  obtain ⟨note, hnoted, rfl⟩ := Option.map_eq_some_iff.1 hstate
  split_ifs with hsame
  · have hdated := h s note hnoted
    exact current_of_eq hsame (hdated.subscribers hsame) (hdated.merged hsame)
  · exact current_of_eq rfl rfl rfl

/-- **The state of a sensor is never out of date.** Start with records of any
kind and no notes. Whatever was requested then, whatever backends refused, and
whatever was changed in the records directly in between: the state that is
handed out is what the records say at this moment, and whoever has just enabled
a sensor is handed one. -/
theorem Turns.current_of_activeState {settings : ServiceSettings} {hw : Hardware} {r : Registry}
    (run : Turns { ofSettings settings hw with registry := r } a) :
    (∀ s state, a.activeState s = some state → a.Current s state) ∧
      ∀ pid s request outcome a', a.enable pid s request = (.ok outcome, a') →
        ∃ state, a'.activeState s = some state ∧ a'.Current s state ∧ pid ∈ state.subscribers := by
  have hdated : a.AllDated := run.dated fun _ _ hnoted => by cases hnoted
  refine ⟨fun s state hstate => hdated.current hstate, fun pid s request outcome a' he => ?_⟩
  have hdated' : a'.AllDated := by
    have hkept := hdated.enable pid s request
    rwa [he] at hkept
  obtain ⟨period, -, hw', -, -, -, rfl, -⟩ := enable_ok he
  obtain ⟨state, hstate⟩ : ∃ state,
      (store { a.asking pid s ⟨period, request.delay⟩ with hardware := hw' } s).activeState s
        = some state := by
    rw [activeState, store, Table.get?_insert_self]
    exact ⟨_, rfl⟩
  have hcurrent := hdated'.current hstate
  refine ⟨state, hstate, hcurrent,
    (hcurrent.subscribers.mem_iff pid).2 ⟨⟨period, request.delay⟩, ?_⟩⟩
  exact a.registry.subscription_put_self pid s _

/-- A second process is refused, which moves the generation and nothing else;
then the subscription of the first is replaced in the records directly, and ended
there. The note stays as it was made, and each time the sensor stands at what the
records say. -/
theorem current_reluctant :
    let a := ((reluctant.enable 100 .accelerometer ⟨1000000, 5⟩).2.enable 200 .accelerometer
      ⟨500000, 9⟩).2
    let b := { a with registry := (a.registry.step ∅ (.update 100 .accelerometer ⟨250000, 9⟩)).2.1 }
    let c := { b with registry := (b.registry.step ∅ (.remove 100 .accelerometer false)).2.1 }
    c.active.get? .accelerometer = some ⟨⟨1000000, 5⟩, [100], true, 1⟩ ∧
      a.activeState .accelerometer = some ⟨⟨1000000, 5⟩, [100], true, 3⟩ ∧
      b.Current .accelerometer ⟨⟨250000, 9⟩, [100], true, 4⟩ ∧
      c.Current .accelerometer ⟨⟨c.settings.defaultPeriod, 0⟩, [], true, 5⟩ := by
  intro a b c
  have toA : Turns reluctant a :=
    (Relation.ReflTransGen.refl.tail (.enable 100 _ _)).tail (.enable 200 _ _)
  have toB : Turns reluctant b := toA.tail (.change ∅ (.update 100 _ _))
  have toC : Turns reluctant c := toB.tail (.change ∅ (.remove 100 _ false))
  exact ⟨by decide +kernel, by decide +kernel,
    (Turns.current_of_activeState toB).1 _ _ (by decide +kernel),
    (Turns.current_of_activeState toC).1 _ _ (by decide +kernel)⟩

end Arbitration
end SensorBroker
