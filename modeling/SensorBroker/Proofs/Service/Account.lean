/-
# The account of a process

What a broker holds of a process is its account: the subscriptions of the
process and, while it is suspended, its snapshot. An account can answer the
requests of its process all by itself (`Account.answer`), if it is given the
terms, which say what a request stands for and which sensors are never
suspended.

Arbitration does to the account of a process what the account says, or fails
for a backend, sensor by sensor (`Arbitration.enableResult`,
`Arbitration.disableResult`) and in bulk (`Suspension.suspend_cases`,
`Suspension.resume_cases`). Where all calls reach a backend, one that fails has
refused a call (`Arbitration.Resists`).

An account whose process is suspended and then resumed is what it was, if its
subscriptions may be asked for again (`Account.resume_suspend`).

Key definitions: `Registry.requestsOf`, `Terms`, `Account`, `Account.answer`,
`Arbitration.Resists`.
Key theorems: `Account.resume_suspend`, `Suspension.suspend_cases`,
`Suspension.resume_cases`.
-/
import SensorBroker.Proofs.Service.Asking
import SensorBroker.Proofs.Service.Suspending

namespace SensorBroker

namespace Table

variable {κ ν : Type} [Key κ]

/-- The entries of two tables; where both have one, that of the first. -/
def overlay (t u : Table κ ν) : Table κ ν :=
  t.entries.foldr (fun e v => v.insert e.1 e.2) u

theorem get?_overlay (t u : Table κ ν) (k : κ) :
    (t.overlay u).get? k = (t.get? k).or (u.get? k) := by
  have hentries : ∀ es : List (κ × ν), (es.foldr (fun e v => v.insert e.1 e.2) u).get? k
      = (lookup k es).or (u.get? k) := by
    intro es
    induction es with
    | nil => rfl
    | cons e rest ih =>
      rw [List.foldr_cons, lookup]
      split_ifs with hk
      · rw [Key.rank_inj hk, get?_insert_self]
        rfl
      · rw [get?_insert_of_ne _ _ fun heq => hk (congrArg Key.rank heq), ih]
  exact hentries t.entries

end Table

/-! ### The subscriptions of a process -/

namespace Registry

variable (r : Registry) (pid : Pid)

/-- What a process asked of its sensors. -/
def requestsOf : Table SensorId Request where
  entries := r.subscriptions.entries.filterMap fun e =>
    (e.2.get? pid).map fun request => (e.1, request)
  sorted := by
    refine List.Pairwise.filterMap _ (fun e e' hlt b hb b' hb' => ?_) r.subscriptions.sorted
    obtain ⟨_, -, rfl⟩ := Option.map_eq_some_iff.1 hb
    obtain ⟨_, -, rfl⟩ := Option.map_eq_some_iff.1 hb'
    exact hlt

@[simp] theorem get?_requestsOf (s : SensorId) :
    (r.requestsOf pid).get? s = r.subscription pid s := by
  apply Option.ext
  intro request
  rw [← Table.mem_entries_iff, subscription, subscriptionsOf, Table.getD, requestsOf]
  simp only [List.mem_filterMap, Option.map_eq_some_iff, Prod.mk.injEq, Prod.exists,
    Table.mem_entries_iff]
  constructor
  · rintro ⟨_, t, ht, _, hrequest, rfl, rfl⟩
    rw [ht]
    exact hrequest
  · intro h
    cases ht : r.subscriptions.get? s with
    | none =>
      rw [ht] at h
      cases h
    | some t =>
      rw [ht] at h
      exact ⟨s, t, ht, request, h, rfl, rfl⟩

/-- They are those that it asked something of. -/
theorem sensorsOf_eq : r.sensorsOf pid = (r.requestsOf pid).keys := by
  have hentries : ∀ es : List (SensorId × Table Pid Request),
      (es.filter fun e => e.2.contains pid).map Prod.fst
        = (es.filterMap fun e => (e.2.get? pid).map fun request => (e.1, request)).map Prod.fst := by
    intro es
    induction es with
    | nil => rfl
    | cons e rest ih =>
      cases he : e.2.get? pid with
      | none => simpa [Table.contains, he] using ih
      | some request => simpa [Table.contains, he] using ih
  exact hentries r.subscriptions.entries

theorem activeInfo_eq : r.activeInfo pid
    = (r.requestsOf pid).entries.map fun e => ⟨pid, e.1, e.2.period, e.2.delay⟩ := by
  unfold activeInfo requestsOf
  rw [List.map_filterMap]
  refine List.filterMap_congr fun e _ => ?_
  rw [Option.map_map]
  rfl

end Registry

/-! ### Accounts -/

/-- What decides about requests apart from accounts and backends. -/
structure Terms where
  /-- The period that a request stands for, if it may be met. -/
  check : SensorId → Request → Except ServiceError Nanos
  /-- Whether a sensor is never suspended. -/
  exempt : SensorId → Bool

/-- What a broker holds of a process. -/
@[ext] structure Account where
  /-- What it subscribes to. -/
  live : Table SensorId Request
  /-- What was saved of it, while it is suspended. -/
  snapshot : Option Snapshot

namespace Account

/-- A snapshot, unless it is empty. -/
def remnant (saved : Snapshot) : Option Snapshot :=
  if saved.isEmpty then none else some saved

/-- Does something for a process whose id can be one. -/
def forPid {α : Type} (x : Account) (pid : Pid) (f : Except ServiceError α × Account) :
    Except ServiceError α × Account :=
  if pid < 0 then (.error (.invalidPid pid), x) else f

/-- Subscribes the process to a sensor, or changes its subscription. -/
def enable (t : Terms) (x : Account) (s : SensorId) (request : Request) :
    Except ServiceError Unit × Account :=
  match t.check s request with
  | .error e => (.error e, x)
  | .ok period => (.ok (), { x with live := x.live.insert s ⟨period, request.delay⟩ })

/-- Takes a sensor out of the snapshot; answers what was saved of it. -/
def discard (x : Account) (s : SensorId) : Option Request × Account :=
  match x.snapshot with
  | none => (none, x)
  | some saved => (saved.get? s, { x with snapshot := remnant (saved.erase s) })

/-- Ends the subscription of the process to a sensor. -/
def cancel (x : Account) (pid : Pid) (s : SensorId) : Except ServiceError Unit × Account :=
  match x.live.get? s with
  | some _ => (.ok (), { x with live := x.live.erase s })
  | none => (.error (.notSubscribed pid s), x)

/-- Ends the subscription of the process to a sensor, be it live or waiting to be
resumed. -/
def disable (x : Account) (pid : Pid) (s : SensorId) : Except ServiceError Unit × Account :=
  if !s.isValid then (.error (.invalidArgument (.invalidSensor s)), x)
  else
    match x.discard s with
    | (some _, x) => (.ok (), x)
    | (none, x) => x.cancel pid s

/-- Suspends the process. -/
def suspend (t : Terms) (x : Account) : BulkOutcome SensorId × Account :=
  match x.live.keys.filter fun s => !t.exempt s with
  | [] => (.empty, x)
  | sensors =>
    (⟨sensors, []⟩,
      ⟨x.live.filter fun s _ => t.exempt s,
        some ((x.live.filter fun s _ => !t.exempt s).overlay (x.snapshot.getD ∅))⟩)

/-- Subscribes the process again as each of some entries says, where it may, and
takes those out of its snapshot. -/
def restore (t : Terms) : List (SensorId × Request) → Table SensorId Request → Snapshot →
    BulkOutcome SensorId × Table SensorId Request × Snapshot
  | [], live, saved => (.empty, live, saved)
  | (s, request) :: rest, live, saved =>
    match t.check s request with
    | .ok period =>
      let (outcome, live, saved) :=
        restore t rest (live.insert s ⟨period, request.delay⟩) (saved.erase s)
      (.done s ++ outcome, live, saved)
    | .error e =>
      let (outcome, live, saved) := restore t rest live saved
      (.failure s e ++ outcome, live, saved)

/-- Resumes the process. -/
def resume (t : Terms) (x : Account) (pid : Pid) :
    Except ServiceError (BulkOutcome SensorId) × Account :=
  match x.snapshot with
  | none => (.error (.notSuspended pid), x)
  | some saved =>
    let (outcome, live, saved) := restore t saved.entries x.live saved
    (.ok outcome, ⟨live, remnant saved⟩)

/-- The subscriptions of the process. -/
def activeInfo (x : Account) (pid : Pid) : List ActiveInfo :=
  x.live.entries.map fun e => ⟨pid, e.1, e.2.period, e.2.delay⟩

/-- What an account answers to a request of its process, and the account
afterwards. -/
def answer (t : Terms) (x : Account) : Ask → Answer × Account
  | .enable caller s request => (x.forPid caller.pid (x.enable t s request)).map .done id
  | .disable caller s => (x.forPid caller.pid (x.disable caller.pid s)).map .done id
  | .disableFor pid s => (x.forPid pid (x.disable pid s)).map .done id
  | .suspend pid => (x.forPid pid ((x.suspend t).map .ok id)).map .bulk id
  | .resume pid => (x.forPid pid (x.resume t pid)).map .bulk id
  | .activeInfo pid => ((x.forPid pid (.ok (x.activeInfo pid), x)).map .info id)
  | .processDeath _ => (.bulk (.ok ⟨x.live.keys, []⟩), ⟨∅, none⟩)

/-- The account after a run of requests. -/
def asked (t : Terms) (x : Account) (run : List Ask) : Account :=
  run.foldl (fun x q => (x.answer t q).2) x

/-- What an account answers in a run of requests, in order. -/
def answers (t : Terms) : List Ask → Account → List Answer
  | [], _ => []
  | q :: rest, x => (x.answer t q).1 :: answers t rest (x.answer t q).2

end Account

/-! ### An account by itself -/

namespace Account

variable {t : Terms}

/-- Where every entry may be asked for again, each is subscribed as it says. -/
theorem restore_of_check : ∀ {entries : List (SensorId × Request)}
    (live : Table SensorId Request) (saved : Snapshot),
    entries.Pairwise (fun e e' => Key.rank e.1 < Key.rank e'.1) →
    (∀ e ∈ entries, t.check e.1 e.2 = .ok e.2.period) →
      (restore t entries live saved).1 = ⟨entries.map Prod.fst, []⟩ ∧
        (∀ s, (restore t entries live saved).2.1.get? s
          = (Table.lookup s entries).or (live.get? s)) ∧
        ∀ s, (restore t entries live saved).2.2.get? s
          = if s ∈ entries.map Prod.fst then none else saved.get? s
  | [], _, _, _, _ => ⟨rfl, fun _ => rfl, fun _ => rfl⟩
  | (s, request) :: rest, live, saved, hsorted, hcheck => by
    obtain ⟨hhead, hrest⟩ := List.pairwise_cons.1 hsorted
    have hnow : t.check s request = .ok request.period := hcheck _ List.mem_cons_self
    obtain ⟨houtcome, hlive, hsaved⟩ :=
      restore_of_check (live.insert s ⟨request.period, request.delay⟩) (saved.erase s) hrest
        fun e he => hcheck e (List.mem_cons_of_mem _ he)
    simp only [restore, hnow]
    refine ⟨?_, fun s' => ?_, fun s' => ?_⟩
    · rw [houtcome]
      rfl
    · rw [hlive, Table.lookup]
      split_ifs with hs
      · obtain rfl := Key.rank_inj hs
        rw [Table.lookup_eq_none_of_lt hhead, Table.get?_insert_self]
        rfl
      · rw [Table.get?_insert_of_ne _ _ fun heq => hs (congrArg Key.rank heq)]
    · rw [hsaved, Table.get?_erase, List.map_cons]
      by_cases hs : s' = s
      · simp [hs]
      · simp only [List.mem_cons, hs, false_or, if_false]

theorem suspend_of_ne_nil {x : Account} (hnone : x.snapshot = none)
    (hsome : x.live.keys.filter (fun s => !t.exempt s) ≠ []) :
    x.suspend t = (⟨x.live.keys.filter fun s => !t.exempt s, []⟩,
      ⟨x.live.filter fun s _ => t.exempt s, some (x.live.filter fun s _ => !t.exempt s)⟩) := by
  have hoverlay : (x.live.filter fun s _ => !t.exempt s).overlay (x.snapshot.getD ∅)
      = x.live.filter fun s _ => !t.exempt s := by
    refine Table.ext_get? fun s => ?_
    rw [Table.get?_overlay, hnone]
    exact Option.or_none
  unfold suspend
  rw [hoverlay]
  split
  · next hnil => exact absurd hnil hsome
  · rfl

/-- **A process that is suspended and then resumed has what it had**, if it had
something to suspend and may ask for all of that again. -/
theorem resume_suspend {x : Account} (pid : Pid) (hnone : x.snapshot = none)
    (hsome : x.live.keys.filter (fun s => !t.exempt s) ≠ [])
    (hcheck : ∀ s request, x.live.get? s = some request →
      t.check s request = .ok request.period) :
    (x.suspend t).2.resume t pid = (.ok ⟨x.live.keys.filter fun s => !t.exempt s, []⟩, x) := by
  rw [suspend_of_ne_nil hnone hsome]
  obtain ⟨houtcome, hlive, hsaved⟩ := restore_of_check (t := t)
    (x.live.filter fun s _ => t.exempt s) (x.live.filter fun s _ => !t.exempt s)
    (x.live.filter fun s _ => !t.exempt s).sorted fun e he =>
      hcheck _ _ (x.live.mem_entries_iff.1 (List.mem_filter.1 he).1)
  have hkeys : (x.live.filter fun s _ => !t.exempt s).entries.map Prod.fst
      = x.live.keys.filter fun s => !t.exempt s := by
    unfold Table.filter Table.keys
    rw [List.filter_map]
    rfl
  unfold resume
  simp only
  refine Prod.ext (congrArg Except.ok (houtcome.trans (congrArg (BulkOutcome.mk · []) hkeys)))
    (Account.ext (Table.ext_get? fun s => ?_) ?_)
  · show (restore t _ _ _).2.1.get? s = x.live.get? s
    rw [hlive]
    show ((x.live.filter fun s _ => !t.exempt s).get? s).or _ = _
    rw [Table.get?_filter, Table.get?_filter]
    cases x.live.get? s with
    | none => rfl
    | some request => cases t.exempt s <;> simp
  · -- whatever was saved has been taken out again
    show remnant (restore t _ _ _).2.2 = x.snapshot
    rw [remnant, hnone, if_pos ((Table.isEmpty_iff _).2 fun s => ?_)]
    rw [hsaved]
    split_ifs with hs
    · rfl
    · exact Option.eq_none_iff_forall_ne_some.2 fun request hrequest =>
        hs ((Table.mem_keys_iff _).2 ⟨request, hrequest⟩)

theorem answer_suspend {pid : Pid} (hpid : ¬ pid < 0) (x : Account) :
    x.answer t (.suspend pid) = (.bulk (.ok (x.suspend t).1), (x.suspend t).2) := by
  unfold answer forPid
  simp only [if_neg hpid]
  rfl

theorem answer_resume {pid : Pid} (hpid : ¬ pid < 0) (x : Account) :
    x.answer t (.resume pid) = (.bulk (x.resume t pid).1, (x.resume t pid).2) := by
  unfold answer forPid
  simp only [if_neg hpid]
  rfl

/-- What cannot be subscribed again was turned down by the terms. -/
theorem exists_check_of_restore {e : ServiceError} :
    ∀ {entries : List (SensorId × Request)} {live : Table SensorId Request} {saved : Snapshot},
    e ∈ (restore t entries live saved).1.failed.map Prod.snd →
      ∃ s request, t.check s request = .error e
  | [], _, _, h => by cases h
  | (s, request) :: rest, live, saved, h => by
    rw [restore] at h
    cases hcheck : t.check s request with
    | ok period =>
      simp only [hcheck] at h
      exact exists_check_of_restore h
    | error e' =>
      simp only [hcheck] at h
      rcases List.mem_cons.1 h with rfl | h
      · exact ⟨s, request, hcheck⟩
      · exact exists_check_of_restore h

theorem error_of_forPid {α : Type} {x : Account} {pid : Pid} {f : Except ServiceError α × Account}
    {e : ServiceError} (h : (x.forPid pid f).1 = .error e) :
    e = .invalidPid pid ∨ f.1 = .error e := by
  unfold forPid at h
  split_ifs at h
  · exact .inl (Except.error.inj h).symm
  · exact .inr h

theorem ok_of_forPid {α : Type} {x : Account} {pid : Pid} {f : Except ServiceError α × Account}
    {v : α} (h : (x.forPid pid f).1 = .ok v) : f.1 = .ok v := by
  unfold forPid at h
  split_ifs at h
  exact h

theorem error_of_enable {x : Account} {s : SensorId} {request : Request} {e : ServiceError}
    (h : (x.enable t s request).1 = .error e) : t.check s request = .error e := by
  unfold enable at h
  split at h
  · next hcheck => exact hcheck.trans (congrArg Except.error (Except.error.inj h))
  · cases h

theorem error_of_disable {x : Account} {pid : Pid} {s : SensorId} {e : ServiceError}
    (h : (x.disable pid s).1 = .error e) :
    e = .invalidArgument (.invalidSensor s) ∨ e = .notSubscribed pid s := by
  unfold disable at h
  split_ifs at h
  · exact .inl (Except.error.inj h).symm
  · split at h
    · cases h
    · unfold cancel at h
      split at h
      · cases h
      · exact .inr (Except.error.inj h).symm

/-- Nothing fails to be suspended. -/
theorem failed_suspend (t : Terms) (x : Account) : (x.suspend t).1.failed = [] := by
  unfold suspend
  split <;> rfl

theorem error_of_resume {x : Account} {pid : Pid} {e : ServiceError}
    (h : (x.resume t pid).1 = .error e) : e = .notSuspended pid := by
  unfold resume at h
  split at h
  · exact (Except.error.inj h).symm
  · cases h

theorem exists_check_of_resume {x : Account} {pid : Pid} {outcome : BulkOutcome SensorId}
    {e : ServiceError} (h : (x.resume t pid).1 = .ok outcome)
    (hfailed : e ∈ outcome.failed.map Prod.snd) : ∃ s request, t.check s request = .error e := by
  unfold resume at h
  split at h
  · cases h
  · cases h
    exact exists_check_of_restore hfailed

/-- **An account never tells of a backend that failed**, if the terms do not. -/
theorem not_failed (hcheck : ∀ s request s' e, t.check s request ≠ .error (.hardware s' e))
    (x : Account) (q : Ask) : ¬ (x.answer t q).1.Failed := by
  have hdisable : ∀ pid s, ¬ Answer.Failed (.done (x.forPid pid (x.disable pid s)).1) := by
    rintro pid s ⟨s', e', h⟩
    rcases error_of_forPid (Answer.mem_errors_done.1 h) with h | h
    · cases h
    · rcases error_of_disable h with h | h <;> cases h
  cases q with
  | enable caller s request =>
    rintro ⟨s', e', h⟩
    rcases error_of_forPid (Answer.mem_errors_done.1 h) with h | h
    · cases h
    · exact hcheck s request s' e' (error_of_enable h)
  | disable caller s => exact hdisable caller.pid s
  | disableFor pid s => exact hdisable pid s
  | suspend pid =>
    rintro ⟨s', e', h⟩
    rcases Answer.mem_errors_bulk.1 h with h | ⟨outcome, h, hfailed⟩
    · rcases error_of_forPid h with h | h <;> cases h
    · obtain rfl : (x.suspend t).1 = outcome := Except.ok.inj (ok_of_forPid h)
      rw [failed_suspend] at hfailed
      cases hfailed
  | resume pid =>
    rintro ⟨s', e', h⟩
    rcases Answer.mem_errors_bulk.1 h with h | ⟨outcome, h, hfailed⟩
    · rcases error_of_forPid h with h | h
      · cases h
      · cases error_of_resume h
    · obtain ⟨s, request, hturned⟩ := exists_check_of_resume (ok_of_forPid h) hfailed
      exact hcheck s request s' e' hturned
  | activeInfo pid =>
    rintro ⟨s', e', h⟩
    rcases error_of_forPid (Answer.mem_errors_info.1 h) with h | h <;> cases h
  | processDeath pid =>
    rintro ⟨s', e', h⟩
    cases h

end Account

/-! ### One sensor -/

namespace Arbitration

variable {a a₁ a₂ a' : Arbitration} {pid : Pid} {s : SensorId} {request : Request}

/-- The terms of requests. -/
def terms (a : Arbitration) : Terms where
  check := a.effectivePeriod
  exempt s := a.settings.freezingExempt.contains s

/-- What the check says does not come from a backend. -/
theorem effectivePeriod_ne_hardware (a : Arbitration) (s : SensorId) (request : Request)
    {s' : SensorId} {e : HardwareError} :
    a.effectivePeriod s request ≠ .error (.hardware s' e) := by
  intro h
  unfold effectivePeriod at h
  simp only at h
  split_ifs at h <;> cases h

theorem terms_congr (hset : a'.settings = a.settings)
    (hhas : ∀ s, a'.hardware.has s = a.hardware.has s) : a'.terms = a.terms := by
  unfold terms
  rw [hset]
  congr 1
  funext s request
  exact effectivePeriod_congr hset hhas s request

/-- Calls about the sensors of a process reach a backend, like all calls about
sensors that are served. -/
structure Reaching (a : Arbitration) (pid : Pid) : Prop where
  linked : a.hardware.Linked
  served : ∀ s, a.registry.subscription pid s ≠ none → a.hardware.has s = true

/-- Unless calls about the sensors of a process do not reach a backend, some
backend has refused a call since. -/
def Resists (pid : Pid) (a a' : Arbitration) : Prop :=
  a.Reaching pid → ¬ a.hardware.Obliges a'.hardware

theorem Reaching.of_kept (h : a.Reaching pid) (kept : a.Kept a')
    (new : ∀ s, a'.registry.subscription pid s ≠ none →
      a.registry.subscription pid s ≠ none ∨ a.hardware.has s = true) : a'.Reaching pid where
  linked := h.linked.of_equipped kept.hardware.toEquipped
  served s hsub := by
    rw [kept.hardware.has]
    exact (new s hsub).elim (h.served s) id

/-- What was refused on a part of the way was refused on the way. -/
theorem Resists.between (h : Resists pid a₁ a₂) (first : a.Kept a₁)
    (reaching : a.Reaching pid → a₁.Reaching pid) (part : a₁.Kept a₂) (last : a₂.Kept a') :
    Resists pid a a' := fun hreach ho =>
  h (reaching hreach) (ho.between first.hardware.toEquipped part.hardware.toEquipped
    last.hardware.toEquipped)

/-- What enabling a sensor comes to for the account of its process: it is turned
down by the terms, or met, or fails for a backend. -/
inductive EnableResult (a : Arbitration) (pid : Pid) (s : SensorId) (request : Request) :
    Except ServiceError EnableOutcome → Arbitration → Prop
  | turnedDown {e} (checked : a.effectivePeriod s request = .error e) :
    EnableResult a pid s request (.error e) a
  | met {period outcome a'} (checked : a.effectivePeriod s request = .ok period)
    (live : a'.registry.requestsOf pid
      = (a.registry.requestsOf pid).insert s ⟨period, request.delay⟩) :
    EnableResult a pid s request (.ok outcome) a'
  | failed {e a'} (live : a'.registry.requestsOf pid = a.registry.requestsOf pid)
    (resists : Resists pid a a') : EnableResult a pid s request (.error (.hardware s e)) a'

theorem enableResult (a : Arbitration) (pid : Pid) (s : SensorId) (request : Request) :
    EnableResult a pid s request (a.enable pid s request).1 (a.enable pid s request).2 := by
  rcases he : a.enable pid s request with ⟨e | outcome, a'⟩
  · rcases enable_error he with ⟨hchecked, rfl⟩ | ⟨period, hchecked, hu, -, e', rfl⟩
    · exact .turnedDown hchecked
    · refine .failed (Table.ext_get? fun s' => ?_) fun hreach ho => ?_
      · rw [Registry.get?_requestsOf, Registry.get?_requestsOf, hu.registry.subscription]
      · have hr := hreach.linked s (has_of_effectivePeriod hchecked)
        have ho' : a.hardware.Obliges (a.enable pid s request).2.hardware := by rwa [he]
        obtain ⟨outcome, a'', hok⟩ := exists_enable_ok hr hchecked ho'
        cases he.symm.trans hok
  · obtain ⟨period, _, _, hchecked, -, -, rfl, -, -⟩ := enable_ok he
    refine .met hchecked (Table.ext_get? fun s' => ?_)
    rw [Table.get?_insert, Registry.get?_requestsOf, Registry.get?_requestsOf]
    split_ifs with hs
    · rw [hs]
      exact Registry.subscription_put_self ..
    · exact Registry.subscription_put_of_ne _ _ (.inr hs)

/-- What disabling a sensor comes to for the account of its process: the process
does not subscribe, or its subscription ends, or it fails for a backend. -/
inductive DisableResult (a : Arbitration) (pid : Pid) (s : SensorId) :
    Except ServiceError DisableOutcome → Arbitration → Prop
  | absent (hnone : a.registry.subscription pid s = none) :
    DisableResult a pid s (.error (.notSubscribed pid s)) a
  | ended {outcome a'} (subscribed : a.registry.subscription pid s = some outcome.request)
    (live : a'.registry.requestsOf pid = (a.registry.requestsOf pid).erase s) :
    DisableResult a pid s (.ok outcome) a'
  | failed {e a'} (live : a'.registry.requestsOf pid = a.registry.requestsOf pid)
    (resists : Resists pid a a') : DisableResult a pid s (.error (.hardware s e)) a'

theorem disableResult (a : Arbitration) (pid : Pid) (s : SensorId) :
    DisableResult a pid s (a.disable pid s).1 (a.disable pid s).2 := by
  rcases hd : a.disable pid s with ⟨e | outcome, a'⟩
  · rcases disable_error hd with ⟨hnone, rfl, rfl⟩ | ⟨⟨e', rfl⟩, ⟨old, hold⟩, hu, -⟩
    · exact .absent hnone
    · refine .failed (Table.ext_get? fun s' => ?_) fun hreach ho => ?_
      · rw [Registry.get?_requestsOf, Registry.get?_requestsOf, hu.registry.subscription]
      · have hsub : a.registry.subscription pid s ≠ none := by simp [hold]
        have hr := hreach.linked s (hreach.served s hsub)
        have ho' : a.hardware.Obliges (a.disable pid s).2.hardware := by rwa [hd]
        obtain ⟨outcome, a'', hok⟩ := exists_disable_ok hr hold ho'
        cases hd.symm.trans hok
  · refine .ended (disable_ok hd).1 (Table.ext_get? fun s' => ?_)
    rw [Table.get?_erase, Registry.get?_requestsOf, Registry.get?_requestsOf]
    split_ifs with hs
    · rw [hs]
      exact subscription_of_disable_ok hd
    · exact subscription_disable_of_ne hd (.inr hs)

theorem Reaching.enable (h : a.Reaching pid) (s : SensorId) (request : Request) :
    (a.enable pid s request).2.Reaching pid := by
  refine h.of_kept (a.kept_enable pid s request) fun s' hsub => ?_
  have hcases := a.enableResult pid s request
  have hkept := a.kept_enable pid s request
  generalize (a.enable pid s request).1 = r, (a.enable pid s request).2 = a' at *
  rw [← Registry.get?_requestsOf] at hsub
  cases hcases with
  | turnedDown _ => exact .inl (by rwa [← Registry.get?_requestsOf])
  | met checked live =>
    rw [live, Table.get?_insert] at hsub
    split_ifs at hsub with hs
    · exact .inr (hs ▸ has_of_effectivePeriod checked)
    · exact .inl (by rwa [← Registry.get?_requestsOf])
  | failed live _ => exact .inl (by rwa [← Registry.get?_requestsOf, ← live])

theorem Reaching.disable (h : a.Reaching pid) (s : SensorId) :
    (a.disable pid s).2.Reaching pid :=
  h.of_kept (a.kept_disable pid s) fun _ hsub =>
    .inl fun hnone => hsub (subscription_disable_eq_none rfl hnone)

/-- Where one sensor after another is disabled for a process, it subscribes to the
rest. -/
theorem subscribed_of_disable {rest : List SensorId} {r : Except ServiceError DisableOutcome}
    (hs : s ∉ rest) (hsub : ∀ s' ∈ s :: rest, a.registry.subscription pid s' ≠ none)
    (hd : a.disable pid s = (r, a')) : ∀ s' ∈ rest, a'.registry.subscription pid s' ≠ none := by
  intro s' hmem
  have hne : s' ≠ s := fun heq => hs (heq ▸ hmem)
  rw [subscription_disable_of_ne hd (.inr hne)]
  exact hsub s' (List.mem_cons_of_mem _ hmem)

end Arbitration

/-! ### Sensor by sensor -/

/-- Of some items, one failed for a backend. -/
def BulkOutcome.HardwareFailed {α : Type} (o : BulkOutcome α) : Prop :=
  ∃ s e, ServiceError.hardware s e ∈ o.failed.map Prod.snd

theorem BulkOutcome.HardwareFailed.append_right {α : Type} {o p : BulkOutcome α}
    (h : p.HardwareFailed) : (o ++ p).HardwareFailed := by
  obtain ⟨s, e, hmem⟩ := h
  refine ⟨s, e, ?_⟩
  show _ ∈ (o.failed ++ p.failed).map Prod.snd
  rw [List.map_append]
  exact List.mem_append_right _ hmem

theorem BulkOutcome.hardwareFailed_failure {α : Type} (x : α) (s : SensorId) (e : HardwareError)
    (o : BulkOutcome α) : (failure x (.hardware s e) ++ o).HardwareFailed :=
  ⟨s, e, List.mem_cons_self⟩

namespace Suspension

open Arbitration (Resists Kept)

/-- The terms of requests. -/
def terms (x : Suspension) : Terms :=
  x.arbitration.terms

/-- What is held of a process. -/
def account (x : Suspension) (pid : Pid) : Account :=
  ⟨x.arbitration.registry.requestsOf pid, x.snapshots.get? pid⟩

/-- **Suspending ends every subscription that it goes through**, or a backend
fails. -/
theorem disableEach_cases (pid : Pid) : ∀ (sensors : List SensorId) (a : Arbitration)
    (saved : Snapshot) {outcome a' saved'}, sensors.Nodup →
      (∀ s ∈ sensors, a.registry.subscription pid s ≠ none) →
      disableEach pid sensors a saved = (outcome, a', saved') →
      outcome = ⟨sensors, []⟩ ∨ outcome.HardwareFailed ∧ Resists pid a a'
  | [], _, _, _, _, _, _, _, h => by
    cases h
    exact .inl rfl
  | s :: rest, a, saved, outcome, a', saved', hnodup, hsub, h => by
    obtain ⟨hs, hrest⟩ := List.nodup_cons.1 hnodup
    have hstep := a.disableResult pid s
    have hkept := a.kept_disable pid s
    have hreach := fun h : a.Reaching pid => h.disable s
    rw [disableEach] at h
    rcases hd : a.disable pid s with ⟨r, a₁⟩
    rw [hd] at hstep hkept hreach h
    have hothers := Arbitration.subscribed_of_disable hs hsub hd
    cases hstep with
    | absent hnone => exact absurd hnone (hsub s List.mem_cons_self)
    | @ended disabled _ _ live =>
      rcases hloop : disableEach pid rest a₁ (saved.insert s disabled.request) with ⟨later, a₂, sv⟩
      have hlast := kept_disableEach pid rest a₁ (saved.insert s disabled.request)
      simp only [hloop] at h hlast
      cases h
      rcases disableEach_cases pid rest a₁ _ hrest hothers hloop with rfl | ⟨hfailed, hresists⟩
      · exact .inl rfl
      · exact .inr ⟨hfailed.append_right, hresists.between hkept hreach hlast (.refl _)⟩
    | failed live resists =>
      have hlast := kept_disableEach pid rest a₁ saved
      cases h
      exact .inr ⟨BulkOutcome.hardwareFailed_failure .., resists.between (.refl _) id hkept hlast⟩

/-- **Resuming subscribes a process again as its account says**, or a backend
fails. -/
theorem enableEach_cases (pid : Pid) : ∀ (entries : List (SensorId × Request)) (a : Arbitration)
    (saved : Snapshot) {outcome a' saved'},
      enableEach pid entries a saved = (outcome, a', saved') →
      (outcome, a'.registry.requestsOf pid, saved')
          = Account.restore a.terms entries (a.registry.requestsOf pid) saved ∨
        outcome.HardwareFailed ∧ Resists pid a a'
  | [], _, _, _, _, _, h => by
    cases h
    exact .inl rfl
  | (s, request) :: rest, a, saved, outcome, a', saved', h => by
    have hstep := a.enableResult pid s request
    have hkept := a.kept_enable pid s request
    have hreach := fun h : a.Reaching pid => h.enable s request
    have hset : (a.enable pid s request).2.settings = a.settings := Arbitration.settings_enable rfl
    rw [enableEach] at h
    rw [Account.restore]
    rcases he : a.enable pid s request with ⟨r, a₁⟩
    rw [he] at hstep hkept hreach hset h
    have hterms : a₁.terms = a.terms := Arbitration.terms_congr hset hkept.hardware.has
    cases hstep with
    | turnedDown checked =>
      rcases hloop : enableEach pid rest a₁ saved with ⟨later, a₂, sv⟩
      simp only [hloop] at h
      cases h
      have hcheck : a₁.terms.check s request = .error _ := checked
      rw [hcheck]
      rcases enableEach_cases pid rest a₁ saved hloop with hsame | ⟨hfailed, hresists⟩
      · left
        simp only [← hsame]
      · exact .inr ⟨hfailed.append_right, hresists⟩
    | met checked live =>
      rcases hloop : enableEach pid rest a₁ (saved.erase s) with ⟨later, a₂, sv⟩
      have hlast := kept_enableEach pid rest a₁ (saved.erase s)
      simp only [hloop] at h hlast
      cases h
      have hcheck : a.terms.check s request = .ok _ := checked
      rw [hcheck]
      rcases enableEach_cases pid rest a₁ _ hloop with hsame | ⟨hfailed, hresists⟩
      · left
        rw [hterms, live] at hsame
        simp only [← hsame]
      · exact .inr ⟨hfailed.append_right, hresists.between hkept hreach hlast (.refl _)⟩
    | failed live resists =>
      have hlast := kept_enableEach pid rest a₁ saved
      cases h
      exact .inr ⟨BulkOutcome.hardwareFailed_failure .., resists.between (.refl _) id hkept hlast⟩

/-! ### A process -/

variable (x : Suspension) (pid : Pid)

theorem get?_keep_self (snapshots : Table Pid Snapshot) (pid : Pid) (saved : Snapshot) :
    (keep snapshots pid saved).get? pid = Account.remnant saved := by
  unfold keep Account.remnant
  split_ifs
  · exact Table.get?_erase_self ..
  · exact Table.get?_insert_self ..

/-- What is waiting to be resumed is discarded as the account says. -/
theorem account_discard (s : SensorId) :
    ((x.discard pid s).1, (x.discard pid s).2.account pid) = (x.account pid).discard s := by
  unfold discard Account.discard account
  cases hsnapshot : x.snapshots.get? pid with
  | none =>
    simp only [hsnapshot]
  | some saved =>
    simp only [get?_keep_self]

theorem suspendable_eq : x.suspendable pid
    = (x.account pid).live.keys.filter fun s => !x.terms.exempt s := by
  rw [suspendable, Registry.sensorsOf_eq]
  rfl

theorem isExempt_of_not_mem_suspendable {s : SensorId} {request : Request}
    (hs : s ∉ x.suspendable pid)
    (hsub : x.arbitration.registry.subscription pid s = some request) : x.isExempt s = true := by
  by_contra hno
  exact hs (x.mem_suspendable_iff.2 ⟨by rw [hsub]; rfl, Bool.eq_false_iff.2 hno⟩)

/-- What a process that loses all that may be suspended still subscribes to. -/
theorem live_of_moved {source' target target' : SensorId → Option Request}
    (hmoved : Moved (x.suspendable pid) (x.arbitration.registry.subscription pid) target
      source' target') (s : SensorId) :
    source' s = ((x.account pid).live.filter fun s _ => x.terms.exempt s).get? s := by
  rw [Table.get?_filter]
  show source' s = Option.filter (fun _ => x.isExempt s)
    ((x.arbitration.registry.requestsOf pid).get? s)
  rw [Registry.get?_requestsOf]
  by_cases hs : s ∈ x.suspendable pid
  · rw [(hmoved.gone s hs).1, (x.mem_suspendable_iff.1 hs).2]
    cases x.arbitration.registry.subscription pid s <;> rfl
  · rw [(hmoved.kept s hs).1]
    cases hsub : x.arbitration.registry.subscription pid s with
    | none => rfl
    | some request =>
      rw [Option.filter_some, x.isExempt_of_not_mem_suspendable pid hs hsub, if_pos rfl]

/-- What its snapshot then has, if it had something before. -/
theorem saved_of_moved {saved : Snapshot} {source' target' : SensorId → Option Request}
    (hmoved : Moved (x.suspendable pid) (x.arbitration.registry.subscription pid) saved.get?
      source' target') (s : SensorId) :
    target' s =
      (((x.account pid).live.filter fun s _ => !x.terms.exempt s).overlay saved).get? s := by
  rw [Table.get?_overlay, Table.get?_filter]
  show target' s = (Option.filter (fun _ => !x.isExempt s)
    ((x.arbitration.registry.requestsOf pid).get? s)).or (saved.get? s)
  rw [Registry.get?_requestsOf]
  by_cases hs : s ∈ x.suspendable pid
  · obtain ⟨hsome, hexempt⟩ := x.mem_suspendable_iff.1 hs
    obtain ⟨request, hrequest⟩ := Option.isSome_iff_exists.1 hsome
    rw [(hmoved.gone s hs).2, hexempt, hrequest]
    rfl
  · rw [(hmoved.kept s hs).2]
    cases hsub : x.arbitration.registry.subscription pid s with
    | none => rfl
    | some request =>
      rw [x.isExempt_of_not_mem_suspendable pid hs hsub]
      rfl

/-- **A process is suspended as its account says**, or a backend fails. -/
theorem suspend_cases : ((x.suspend pid).1, (x.suspend pid).2.account pid)
      = (x.account pid).suspend x.terms ∨
    (x.suspend pid).1.HardwareFailed ∧ Resists pid x.arbitration (x.suspend pid).2.arbitration := by
  unfold suspend Account.suspend
  rw [← suspendable_eq]
  cases hsensors : x.suspendable pid with
  | nil => exact .inl rfl
  | cons first rest =>
    simp only
    rw [← hsensors]
    rcases hloop : disableEach pid (x.suspendable pid) x.arbitration (x.snapshots.getD pid ∅)
      with ⟨outcome, a', saved'⟩
    have hnodup := x.nodup_suspendable pid
    have hsub : ∀ s ∈ x.suspendable pid, x.arbitration.registry.subscription pid s ≠ none :=
      fun s hs => Option.isSome_iff_ne_none.1 (x.mem_suspendable_iff.1 hs).1
    rcases disableEach_cases pid _ _ _ hnodup hsub hloop with rfl | hfails
    · left
      obtain ⟨-, hmoved, -⟩ := disableEach_spec pid _ _ _ hnodup hloop
      refine Prod.ext rfl (Account.ext (Table.ext_get? fun s => ?_) ?_)
      · show (a'.registry.requestsOf pid).get? s = _
        rw [Registry.get?_requestsOf]
        exact x.live_of_moved pid hmoved s
      · show (x.snapshots.insert pid saved').get? pid = _
        rw [Table.get?_insert_self]
        exact congrArg some (Table.ext_get? (x.saved_of_moved pid hmoved))
    · exact .inr hfails

/-- **A process is resumed as its account says**, or a backend fails. -/
theorem resume_cases : ((x.resume pid).1, (x.resume pid).2.account pid)
      = (x.account pid).resume x.terms pid ∨
    (∃ outcome, (x.resume pid).1 = .ok outcome ∧ outcome.HardwareFailed) ∧
      Resists pid x.arbitration (x.resume pid).2.arbitration := by
  unfold resume Account.resume
  have hsnapshot : (x.account pid).snapshot = x.snapshots.get? pid := rfl
  rw [hsnapshot]
  cases hget : x.snapshots.get? pid with
  | none => exact .inl rfl
  | some saved =>
    simp only
    rcases hloop : enableEach pid saved.entries x.arbitration saved with ⟨outcome, a', saved'⟩
    rcases enableEach_cases pid _ _ _ hloop with hsame | ⟨hfailed, hresists⟩
    · left
      have hrestore : Account.restore x.terms saved.entries (x.account pid).live saved
          = (outcome, a'.registry.requestsOf pid, saved') := hsame.symm
      rw [hrestore]
      simp only [account, get?_keep_self]
    · exact .inr ⟨⟨outcome, rfl, hfailed⟩, hresists⟩

end Suspension

end SensorBroker
