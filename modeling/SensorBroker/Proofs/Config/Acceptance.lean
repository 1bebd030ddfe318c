/-
# Which configurations are accepted, and what is said of the others

A configuration is accepted exactly if it is allowed: every number is at least
what it must be, no list has a negative sensor id or one twice, everything that
is to be mocked from the start can be mocked, and the largest payload is no
longer than the queue of a channel.

Of a configuration that is not allowed one flaw is reported. There may be many,
of all kinds at once, and which one it is is settled here without going through
them one by one: of the numbers out of range the one whose path is least in the
order of the alphabet; with none, the first sensor id that may not stand where it
is, in the first list that has one; with none, the first sensor that cannot be
mocked; and with none, the queue.

Key definitions: `CleanIds`, `Config.Allowed`, `IdFlaw`, `Config.FirstFlaw`.
Key theorems: `idFlaw?_eq_none_iff`, `idFlaw?_eq_some_iff`,
`Config.outOfRange?_eq_some_iff`, `Config.validate_accepts_and_reports`.
-/
import Mathlib.Data.List.Induction
import Mathlib.Data.String.Basic
import SensorBroker.Config.Validation

namespace SensorBroker

/-! ### What is allowed -/

/-- Sensor ids that may stand in one list: none is negative, and none is there
twice. -/
structure CleanIds (ids : List SensorId) : Prop where
  nonneg : ∀ s ∈ ids, 0 ≤ s.raw
  nodup : ids.Nodup

/-- What is wrong with the first sensor id of a list that may not be where it
is: those before it are clean, and it is negative or one of them. -/
inductive IdFlaw (ids : List SensorId) : String → Prop
  | invalid {before after : List SensorId} {s : SensorId} (split : ids = before ++ s :: after)
    (clean : CleanIds before) (negative : s.raw < 0) :
    IdFlaw ids ("invalid sensor id " ++ s.text)
  | duplicate {before after : List SensorId} {s : SensorId} (split : ids = before ++ s :: after)
    (clean : CleanIds before) (nonneg : 0 ≤ s.raw) (again : s ∈ before) :
    IdFlaw ids ("duplicate sensor id " ++ s.text)

namespace Config

/-- Every number of a configuration is at least what it must be. -/
structure InRange (c : Config) : Prop where
  defaultPeriod : 1 ≤ c.service.defaultPeriod
  eventQueueCapacity : 1 ≤ c.service.eventQueueCapacity
  maxEventCount : 1 ≤ c.service.maxEventCount
  maxPacketSize : 1 ≤ c.transport.maxPacketSize
  passLimit : 1 ≤ c.transport.passLimit
  pendingCapacity : 64 ≤ c.transport.pendingCapacity
  pollTimeout : 1 ≤ c.transport.pollTimeout
  readChunk : 16 ≤ c.transport.readChunk
  retryLimit : 1 ≤ c.transport.retryLimit

/-- What a configuration must be. -/
structure Allowed (c : Config) : Prop where
  inRange : c.InRange
  freezingExempt : CleanIds c.service.freezingExempt
  mockable : CleanIds c.hardware.mockable
  injectOnStart : CleanIds c.hardware.injectOnStart
  injectable : ∀ s ∈ c.hardware.injectOnStart, s ∈ c.hardware.mockable
  payload_le : c.transport.maxPacketSize.toNat ≤ c.transport.pendingCapacity.toNat

/-- The flaw that is reported of a configuration, as a path and a text: one of
some kind only if there is none of the kinds before, and the first of its kind. -/
inductive FirstFlaw (c : Config) : String → String → Prop
  | range {r : RangeRule} (mem : r ∈ c.rangeRules) (low : r.value < r.least)
    (first : ∀ r' ∈ c.rangeRules, r'.value < r'.least → r.path ≤ r'.path) :
    FirstFlaw c r.path "failed rule 'range'"
  | ids {earlier later : List (String × List SensorId)} {path flaw : String}
    {list : List SensorId} (inRange : c.InRange)
    (split : c.idLists = earlier ++ (path, list) :: later)
    (clean : ∀ l ∈ earlier, CleanIds l.2) (flawed : IdFlaw list flaw) :
    FirstFlaw c path flaw
  | unmockable {before after : List SensorId} {s : SensorId} (inRange : c.InRange)
    (clean : ∀ l ∈ c.idLists, CleanIds l.2)
    (split : c.hardware.injectOnStart = before ++ s :: after)
    (injectable : ∀ s' ∈ before, s' ∈ c.hardware.mockable)
    (unmockable : s ∉ c.hardware.mockable) :
    FirstFlaw c "hdi.inject_on_start"
      ("sensor " ++ s.text ++ " is not in supported_mock_sensors")
  | queue (inRange : c.InRange) (clean : ∀ l ∈ c.idLists, CleanIds l.2)
    (injectable : ∀ s ∈ c.hardware.injectOnStart, s ∈ c.hardware.mockable)
    (long : c.transport.pendingCapacity.toNat < c.transport.maxPacketSize.toNat) :
    FirstFlaw c "transport.max_packet_size / transport.pending_queue_capacity"
      ("max_packet_size (" ++ toString c.transport.maxPacketSize.toNat
        ++ ") must be <= pending_queue_capacity ("
        ++ toString c.transport.pendingCapacity.toNat ++ ")")

end Config

/-! ### Numbers -/

/-- In a list that ascends by some key, what is found is the least there is. -/
theorem find?_eq_some_iff_least {α : Type} {key : α → String} {p : α → Bool} {x : α} :
    ∀ {xs : List α}, xs.Pairwise (fun y z => key y < key z) →
      (xs.find? p = some x ↔
        x ∈ xs ∧ p x = true ∧ ∀ y ∈ xs, p y = true → key x ≤ key y)
  | [], _ => by simp
  | a :: xs, h => by
    obtain ⟨hfirst, hrest⟩ := List.pairwise_cons.1 h
    have ih := find?_eq_some_iff_least (p := p) (x := x) hrest
    cases hp : p a with
    | true =>
      rw [List.find?_cons_of_pos hp]
      constructor
      · rintro ⟨rfl⟩
        refine ⟨List.mem_cons_self, hp, fun y hy _ => ?_⟩
        rcases List.mem_cons.1 hy with rfl | hy
        · exact le_refl _
        · exact le_of_lt (hfirst y hy)
      · rintro ⟨hx, -, hleast⟩
        rcases List.mem_cons.1 hx with rfl | hx
        · rfl
        · exact absurd (hleast a List.mem_cons_self hp) (not_le_of_gt (hfirst x hx))
    | false =>
      have hne {y : α} (hy : p y = true) : y ≠ a := fun heq => by
        rw [heq, hp] at hy
        cases hy
      rw [List.find?_cons_of_neg (by simp [hp]), ih]
      constructor
      · rintro ⟨hx, hpx, hleast⟩
        refine ⟨List.mem_cons_of_mem _ hx, hpx, fun y hy hpy => ?_⟩
        exact hleast y ((List.mem_cons.1 hy).resolve_left (hne hpy)) hpy
      · rintro ⟨hx, hpx, hleast⟩
        refine ⟨(List.mem_cons.1 hx).resolve_left (hne hpx), hpx, fun y hy hpy => ?_⟩
        exact hleast y (List.mem_cons_of_mem _ hy) hpy

theorem RangeRule.holds_eq_false_iff {r : RangeRule} : (!r.holds) = true ↔ r.value < r.least := by
  rw [holds, Bool.not_eq_true', decide_eq_false_iff_not, Int.not_le]

namespace Config

variable {c : Config}

/-- The rules are in the order of their paths. -/
theorem ascending_rangeRules (c : Config) :
    c.rangeRules.Pairwise fun r r' => r.path < r'.path := by
  have hpaths : (c.rangeRules.map RangeRule.path).Pairwise (· < ·) := by
    simp only [rangeRules, List.map_cons, List.map_nil]
    decide +kernel
  exact List.pairwise_map.1 hpaths

/-- **The number that is reported is the one whose path comes first.** -/
theorem outOfRange?_eq_some_iff {path : String} :
    c.outOfRange? = some path ↔ ∃ r ∈ c.rangeRules, r.value < r.least ∧
      (∀ r' ∈ c.rangeRules, r'.value < r'.least → r.path ≤ r'.path) ∧ r.path = path := by
  simp only [outOfRange?, Option.map_eq_some_iff,
    find?_eq_some_iff_least c.ascending_rangeRules, RangeRule.holds_eq_false_iff, and_assoc]

theorem inRange_iff : c.InRange ↔ ∀ r ∈ c.rangeRules, r.least ≤ r.value := by
  simp only [rangeRules, List.forall_mem_cons, List.not_mem_nil, false_implies, implies_true,
    and_true]
  constructor
  · rintro ⟨h₁, h₂, h₃, h₄, h₅, h₆, h₇, h₈, h₉⟩
    simp [Int64.le_iff_toInt_le, UInt32.le_iff_toNat_le, UInt64.le_iff_toNat_le] at *
    omega
  · rintro ⟨h₁, h₂, h₃, h₄, h₅, h₆, h₇, h₈, h₉⟩
    constructor
    all_goals
      simp [Int64.le_iff_toInt_le, UInt32.le_iff_toNat_le, UInt64.le_iff_toNat_le]
      omega

theorem outOfRange?_eq_none_iff : c.outOfRange? = none ↔ c.InRange := by
  rw [outOfRange?, Option.map_eq_none_iff, List.find?_eq_none, inRange_iff]
  simp [RangeRule.holds]

end Config

/-! ### Lists of sensor ids -/

theorem cleanIds_cons_iff {s : SensorId} {ids : List SensorId} :
    CleanIds (s :: ids) ↔ 0 ≤ s.raw ∧ s ∉ ids ∧ CleanIds ids := by
  constructor
  · rintro ⟨hnonneg, hnodup⟩
    obtain ⟨hs, hids⟩ := List.nodup_cons.1 hnodup
    exact ⟨hnonneg s List.mem_cons_self, hs,
      fun s' hs' => hnonneg s' (List.mem_cons_of_mem _ hs'), hids⟩
  · rintro ⟨hnonneg, hs, hclean⟩
    exact ⟨List.forall_mem_cons.2 ⟨hnonneg, hclean.nonneg⟩, List.nodup_cons.2 ⟨hs, hclean.nodup⟩⟩

/-- Clean ids stay clean with one more that is not negative and not among them. -/
theorem CleanIds.concat {s : SensorId} {ids : List SensorId} (h : CleanIds ids)
    (hnonneg : 0 ≤ s.raw) (hs : s ∉ ids) : CleanIds (ids ++ [s]) where
  nonneg := List.forall_mem_append.2 ⟨h.nonneg, List.forall_mem_singleton.2 hnonneg⟩
  nodup := List.nodup_append.2 ⟨h.nodup, List.nodup_cons.2 ⟨List.not_mem_nil, List.nodup_nil⟩, fun _ hs' _ ht heq =>
    hs (List.mem_singleton.1 ht ▸ heq ▸ hs')⟩

/-- What is said of the first id of a list, after those that were seen. -/
theorem idFlaw?_cons (seen : List SensorId) (s : SensorId) (rest : List SensorId) :
    idFlaw? seen (s :: rest) =
      if 0 ≤ s.raw then
        if s ∈ seen then some ("duplicate sensor id " ++ s.text) else idFlaw? (s :: seen) rest
      else some ("invalid sensor id " ++ s.text) := by
  simp only [idFlaw?, SensorId.isValid, List.contains_iff_mem]
  split_ifs <;> simp_all

/-- Ids that are clean, and not seen before, are passed over. -/
theorem idFlaw?_append {rest : List SensorId} : ∀ {before seen : List SensorId},
    CleanIds before → (∀ s ∈ before, s ∉ seen) →
      idFlaw? seen (before ++ rest) = idFlaw? (before.reverse ++ seen) rest
  | [], _, _, _ => rfl
  | s :: before, seen, hclean, hunseen => by
    obtain ⟨hnonneg, hs, hbefore⟩ := cleanIds_cons_iff.1 hclean
    obtain ⟨hfirst, hunseen⟩ := List.forall_mem_cons.1 hunseen
    have hunseen' : ∀ s' ∈ before, s' ∉ s :: seen := fun s' hs' hmem => by
      rcases List.mem_cons.1 hmem with rfl | hmem
      · exact hs hs'
      · exact hunseen s' hs' hmem
    rw [List.cons_append, idFlaw?_cons, if_pos hnonneg, if_neg hfirst,
      idFlaw?_append hbefore hunseen', List.reverse_cons, List.append_assoc]
    rfl

variable {ids : List SensorId} {flaw : String}

/-- The flaw of a list is the one that is reported. -/
theorem IdFlaw.eq_some (h : IdFlaw ids flaw) : idFlaw? [] ids = some flaw := by
  cases h with
  | @invalid before after s split clean negative =>
    rw [split, idFlaw?_append clean fun _ _ => List.not_mem_nil, idFlaw?_cons,
      if_neg (Int32.not_le.2 negative)]
  | @duplicate before after s split clean nonneg again =>
    have hseen : s ∈ before.reverse ++ [] := by
      rw [List.append_nil]
      exact List.mem_reverse.2 again
    rw [split, idFlaw?_append clean fun _ _ => List.not_mem_nil, idFlaw?_cons, if_pos nonneg,
      if_pos hseen]

theorem IdFlaw.append (h : IdFlaw ids flaw) (more : List SensorId) :
    IdFlaw (ids ++ more) flaw := by
  cases h with
  | invalid split clean negative =>
    exact .invalid (by rw [split, List.append_assoc, List.cons_append]) clean negative
  | duplicate split clean nonneg again =>
    exact .duplicate (by rw [split, List.append_assoc, List.cons_append]) clean nonneg again

/-- A list is clean, or it has a flaw. -/
theorem cleanIds_or_idFlaw (ids : List SensorId) : CleanIds ids ∨ ∃ flaw, IdFlaw ids flaw := by
  induction ids using List.reverseRecOn with
  | nil => exact .inl ⟨fun _ h => (List.not_mem_nil h).elim, List.nodup_nil⟩
  | append_singleton before s ih =>
    rcases ih with hclean | ⟨flaw, hflaw⟩
    · -- only the last id can be wrong
      by_cases hnonneg : 0 ≤ s.raw
      · by_cases hs : s ∈ before
        · exact .inr ⟨_, .duplicate rfl hclean hnonneg hs⟩
        · exact .inl (hclean.concat hnonneg hs)
      · exact .inr ⟨_, .invalid rfl hclean (Int32.not_le.1 hnonneg)⟩
    · exact .inr ⟨flaw, hflaw.append [s]⟩

/-- **A list is passed exactly if it is clean.** -/
theorem idFlaw?_eq_none_iff : idFlaw? [] ids = none ↔ CleanIds ids := by
  constructor
  · intro hnone
    refine (cleanIds_or_idFlaw ids).resolve_right fun ⟨flaw, hflaw⟩ => ?_
    rw [hflaw.eq_some] at hnone
    cases hnone
  · intro hclean
    have hpassed : idFlaw? [] (ids ++ []) = idFlaw? (ids.reverse ++ []) [] :=
      idFlaw?_append hclean fun _ _ => List.not_mem_nil
    rwa [List.append_nil] at hpassed

/-- **What is reported of a list is its flaw.** -/
theorem idFlaw?_eq_some_iff : idFlaw? [] ids = some flaw ↔ IdFlaw ids flaw := by
  constructor
  · intro hsome
    rcases cleanIds_or_idFlaw ids with hclean | ⟨flaw', hflaw⟩
    · rw [idFlaw?_eq_none_iff.2 hclean] at hsome
      cases hsome
    · obtain rfl := Option.some.inj (hflaw.eq_some.symm.trans hsome)
      exact hflaw
  · exact IdFlaw.eq_some

namespace Config

variable {c : Config}

theorem listFlaw?_eq_none_iff : c.listFlaw? = none ↔ ∀ l ∈ c.idLists, CleanIds l.2 := by
  simp only [listFlaw?, List.findSome?_eq_none_iff, Option.map_eq_none_iff, idFlaw?_eq_none_iff]

/-- **The list that is reported is the first that is not clean.** -/
theorem listFlaw?_eq_some_iff {path flaw : String} :
    c.listFlaw? = some (path, flaw) ↔ ∃ earlier list later,
      c.idLists = earlier ++ (path, list) :: later ∧ (∀ l ∈ earlier, CleanIds l.2) ∧
        IdFlaw list flaw := by
  simp only [listFlaw?, List.findSome?_eq_some_iff, Option.map_eq_none_iff, Option.map_eq_some_iff,
    idFlaw?_eq_none_iff, idFlaw?_eq_some_iff, Prod.mk.injEq]
  constructor
  · rintro ⟨earlier, ⟨_, list⟩, later, hsplit, ⟨_, hflaw, rfl, rfl⟩, hclean⟩
    exact ⟨earlier, list, later, hsplit, hclean, hflaw⟩
  · rintro ⟨earlier, list, later, hsplit, hclean, hflaw⟩
    exact ⟨earlier, (path, list), later, hsplit, ⟨flaw, hflaw, rfl, rfl⟩, hclean⟩

/-! ### Mocks and the queue -/

theorem unmockable?_eq_none_iff :
    c.unmockable? = none ↔ ∀ s ∈ c.hardware.injectOnStart, s ∈ c.hardware.mockable := by
  simp [unmockable?]

theorem unmockable?_eq_some_iff {s : SensorId} :
    c.unmockable? = some s ↔ ∃ before after, c.hardware.injectOnStart = before ++ s :: after ∧
      (∀ s' ∈ before, s' ∈ c.hardware.mockable) ∧ s ∉ c.hardware.mockable := by
  simp only [unmockable?, List.find?_eq_some_iff_append, Bool.not_eq_true', Bool.not_not,
    List.contains_iff_mem, ← Bool.not_eq_true]
  constructor
  · rintro ⟨hs, before, after, hsplit, hbefore⟩
    exact ⟨before, after, hsplit, hbefore, hs⟩
  · rintro ⟨before, after, hsplit, hbefore, hs⟩
    exact ⟨hs, before, after, hsplit, hbefore⟩

theorem payloadFits_iff (t : TransportSettings) :
    t.payloadFits = true ↔ t.maxPacketSize.toNat ≤ t.pendingCapacity.toNat :=
  decide_eq_true_iff

/-! ### Whole configurations -/

theorem cleanIds_idLists_iff : (∀ l ∈ c.idLists, CleanIds l.2) ↔
    CleanIds c.service.freezingExempt ∧ CleanIds c.hardware.mockable ∧
      CleanIds c.hardware.injectOnStart := by
  simp [idLists]

theorem Allowed.validate_eq (h : c.Allowed) : c.validate = .ok () := by
  have hclean := cleanIds_idLists_iff.2 ⟨h.freezingExempt, h.mockable, h.injectOnStart⟩
  simp only [validate, outOfRange?_eq_none_iff.2 h.inRange, listFlaw?_eq_none_iff.2 hclean,
    unmockable?_eq_none_iff.2 h.injectable, (payloadFits_iff _).2 h.payload_le, if_true]

/-- The first flaw is the one that is reported. -/
theorem FirstFlaw.validate_eq {path text : String} (h : c.FirstFlaw path text) :
    c.validate = .error (.configInvalid path text) := by
  cases h with
  | @range r mem low first =>
    have hrange := outOfRange?_eq_some_iff.2 ⟨r, mem, low, first, rfl⟩
    simp only [validate, hrange]
  | ids inRange split clean flawed =>
    have hlist := listFlaw?_eq_some_iff.2 ⟨_, _, _, split, clean, flawed⟩
    simp only [validate, outOfRange?_eq_none_iff.2 inRange, hlist]
  | unmockable inRange clean split injectable unmockable =>
    have hmock := unmockable?_eq_some_iff.2 ⟨_, _, split, injectable, unmockable⟩
    simp only [validate, outOfRange?_eq_none_iff.2 inRange, listFlaw?_eq_none_iff.2 clean, hmock]
  | queue inRange clean injectable long =>
    have hlong : ¬ c.transport.payloadFits = true := fun h =>
      Nat.not_le_of_lt long ((payloadFits_iff _).1 h)
    simp only [validate, outOfRange?_eq_none_iff.2 inRange, listFlaw?_eq_none_iff.2 clean,
      unmockable?_eq_none_iff.2 injectable, if_neg hlong]

/-- A configuration is allowed, or it has a first flaw. -/
theorem allowed_or_firstFlaw (c : Config) : c.Allowed ∨ ∃ path text, c.FirstFlaw path text := by
  cases hrange : c.outOfRange? with
  | some path =>
    obtain ⟨r, mem, low, first, -⟩ := outOfRange?_eq_some_iff.1 hrange
    exact .inr ⟨_, _, .range mem low first⟩
  | none =>
    have inRange := outOfRange?_eq_none_iff.1 hrange
    cases hlist : c.listFlaw? with
    | some flaw =>
      obtain ⟨_, _, _, split, clean, flawed⟩ := listFlaw?_eq_some_iff.1 hlist
      exact .inr ⟨_, _, .ids inRange split clean flawed⟩
    | none =>
      have clean := listFlaw?_eq_none_iff.1 hlist
      cases hmock : c.unmockable? with
      | some s =>
        obtain ⟨_, _, split, injectable, unmockable⟩ := unmockable?_eq_some_iff.1 hmock
        exact .inr ⟨_, _, .unmockable inRange clean split injectable unmockable⟩
      | none =>
        have injectable := unmockable?_eq_none_iff.1 hmock
        obtain ⟨hexempt, hmockable, hinject⟩ := cleanIds_idLists_iff.1 clean
        rcases Nat.lt_or_ge c.transport.pendingCapacity.toNat c.transport.maxPacketSize.toNat
          with long | hfits
        · exact .inr ⟨_, _, .queue inRange clean injectable long⟩
        · exact .inl ⟨inRange, hexempt, hmockable, hinject, injectable, hfits⟩

/-- **What validation accepts, and what it says of the rest.** It accepts exactly
the configurations that are allowed, and of any other it reports the first flaw,
whatever other flaws there are. -/
theorem validate_accepts_and_reports (c : Config) :
    (c.validate = .ok () ↔ c.Allowed) ∧
      ∀ e, c.validate = .error e ↔
        ∃ path text, e = .configInvalid path text ∧ c.FirstFlaw path text := by
  rcases c.allowed_or_firstFlaw with hallowed | ⟨path, text, hflaw⟩
  · have haccepted := hallowed.validate_eq
    refine ⟨⟨fun _ => hallowed, fun _ => haccepted⟩, fun e => ⟨fun herror => ?_, ?_⟩⟩
    · rw [haccepted] at herror
      cases herror
    · rintro ⟨path, text, rfl, hflaw⟩
      exact hflaw.validate_eq
  · have hreported := hflaw.validate_eq
    refine ⟨⟨fun hok => ?_, Allowed.validate_eq⟩, fun e => ⟨fun herror => ?_, ?_⟩⟩
    · rw [hreported] at hok
      cases hok
    · rw [hreported] at herror
      exact ⟨path, text, (Except.error.inj herror).symm, hflaw⟩
    · rintro ⟨path', text', rfl, hflaw'⟩
      exact hflaw'.validate_eq

example : validate
    { service := { maxEventCount := 0, freezingExempt := [⟨1⟩, ⟨1⟩] }
      transport := { passLimit := 0, maxPacketSize := 100, pendingCapacity := 64 } }
      = .error (.configInvalid "service.max_event_count" "failed rule 'range'") := by
  rfl

end Config
end SensorBroker
