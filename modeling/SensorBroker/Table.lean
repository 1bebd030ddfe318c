/-
# Finite tables in key order

Every set of records the broker keeps (subscriptions, snapshots, sessions,
tokens) is a finite map from an integer-like key to a value, and every answer
lists such a map by ascending key. `Table` is that map: its entries are a list
strictly sorted by the rank of the key, and the order is part of the type, so
no operation can break it and two tables with the same look-ups are the same
table (`Table.ext_get?`).

The view of a table is `Table.get?`; each operation has one equation through
it, and `Table.mem_entries_iff` ties the view to the listing.

Key definitions: `Key`, `Table`, `Table.get?`, `Table.insert`, `Table.erase`.
Key theorems: `Table.get?_insert`, `Table.get?_erase`, `Table.mem_entries_iff`,
`Table.ext_get?`.
-/

namespace SensorBroker

/-- A type whose values are told apart and put in order by an integer. -/
class Key (κ : Type) where
  /-- The integer a key stands for. -/
  rank : κ → Int
  /-- Different keys have different ranks. -/
  rank_inj : ∀ {a b : κ}, rank a = rank b → a = b

namespace Key

instance : Key Int := ⟨id, fun h => h⟩

instance : Key Nat := ⟨Int.ofNat, fun h => Int.ofNat.inj h⟩

instance : Key Int32 := ⟨Int32.toInt, fun h => Int32.toInt_inj.1 h⟩

instance : Key UInt64 := ⟨fun x => Int.ofNat x.toNat, fun h => UInt64.toNat_inj.1 (Int.ofNat.inj h)⟩

theorem rank_eq_iff {κ : Type} [Key κ] {a b : κ} : rank a = rank b ↔ a = b :=
  ⟨rank_inj, fun h => h ▸ rfl⟩

end Key

/-- A finite map from `κ` to `ν`, its entries in ascending key order. -/
structure Table (κ ν : Type) [Key κ] where
  /-- The entries, by ascending key. -/
  entries : List (κ × ν)
  /-- The keys ascend strictly, so no key occurs twice. -/
  sorted : entries.Pairwise fun a b => Key.rank a.1 < Key.rank b.1
deriving DecidableEq

namespace Table

variable {κ ν : Type} [Key κ]

/-- The table without entries. -/
def empty : Table κ ν := ⟨[], List.Pairwise.nil⟩

instance : EmptyCollection (Table κ ν) := ⟨empty⟩

instance : Inhabited (Table κ ν) := ⟨empty⟩

/-- The first value listed under `k`. -/
def lookup (k : κ) : List (κ × ν) → Option ν
  | [] => none
  | (k', v) :: rest => if Key.rank k = Key.rank k' then some v else lookup k rest

/-- The entries with `v` under `k`, kept in order. -/
def place (k : κ) (v : ν) : List (κ × ν) → List (κ × ν)
  | [] => [(k, v)]
  | (k', v') :: rest =>
    if Key.rank k < Key.rank k' then (k, v) :: (k', v') :: rest
    else if Key.rank k = Key.rank k' then (k, v) :: rest
    else (k', v') :: place k v rest

theorem mem_place {k : κ} {v : ν} {e : κ × ν} :
    ∀ {es : List (κ × ν)}, e ∈ place k v es → e = (k, v) ∨ e ∈ es
  | [], h => by simp [place] at h; exact .inl h
  | (k', v') :: rest, h => by
    simp only [place] at h
    split at h
    · simpa using h
    · split at h
      · rcases List.mem_cons.1 h with h | h
        · exact .inl h
        · exact .inr (List.mem_cons_of_mem _ h)
      · rcases List.mem_cons.1 h with h | h
        · exact .inr (h ▸ List.mem_cons_self)
        · exact (mem_place h).imp id (List.mem_cons_of_mem _)

theorem sorted_place {k : κ} {v : ν} : ∀ {es : List (κ × ν)},
    es.Pairwise (fun a b => Key.rank a.1 < Key.rank b.1) →
    (place k v es).Pairwise fun a b => Key.rank a.1 < Key.rank b.1
  | [], _ => by simp [place]
  | (k', v') :: rest, h => by
    have ⟨hhead, hrest⟩ := List.pairwise_cons.1 h
    simp only [place]
    split
    · next hlt =>
      refine List.pairwise_cons.2 ⟨fun e he => ?_, h⟩
      rcases List.mem_cons.1 he with rfl | he
      · exact hlt
      · exact Int.lt_trans hlt (hhead e he)
    · split
      · next heq =>
        exact List.pairwise_cons.2 ⟨fun e he => heq ▸ hhead e he, hrest⟩
      · next hlt hne =>
        refine List.pairwise_cons.2 ⟨fun e he => ?_, sorted_place hrest⟩
        rcases mem_place he with rfl | he
        · show Key.rank k' < Key.rank k
          omega
        · exact hhead e he

/-- The value under `k`. -/
def get? (t : Table κ ν) (k : κ) : Option ν :=
  lookup k t.entries

/-- Whether `k` has a value. -/
def contains (t : Table κ ν) (k : κ) : Bool :=
  (t.get? k).isSome

/-- The value under `k`, or `default` where there is none. -/
def getD (t : Table κ ν) (k : κ) (default : ν) : ν :=
  (t.get? k).getD default

/-- Puts `v` under `k`, in the place of what was there. -/
def insert (t : Table κ ν) (k : κ) (v : ν) : Table κ ν :=
  ⟨place k v t.entries, sorted_place t.sorted⟩

/-- Takes away what is under `k`. -/
def erase (t : Table κ ν) (k : κ) : Table κ ν :=
  ⟨t.entries.filter fun e => Key.rank e.1 ≠ Key.rank k, t.sorted.filter _⟩

/-- The entries that pass the test. -/
def filter (t : Table κ ν) (p : κ → ν → Bool) : Table κ ν :=
  ⟨t.entries.filter fun e => p e.1 e.2, t.sorted.filter _⟩

/-- The keys, ascending. -/
def keys (t : Table κ ν) : List κ :=
  t.entries.map Prod.fst

/-- The values, by ascending key. -/
def values (t : Table κ ν) : List ν :=
  t.entries.map Prod.snd

/-- How many keys have a value. -/
def size (t : Table κ ν) : Nat :=
  t.entries.length

/-- Whether no key has a value. -/
def isEmpty (t : Table κ ν) : Bool :=
  t.entries.isEmpty

/-- The table of a list of entries; of two with one key the later counts. -/
def ofList (es : List (κ × ν)) : Table κ ν :=
  es.foldl (fun t e => t.insert e.1 e.2) empty

/-! ## The view -/

theorem lookup_place (k j : κ) (v : ν) : ∀ es : List (κ × ν),
    lookup j (place k v es) = if Key.rank j = Key.rank k then some v else lookup j es
  | [] => rfl
  | (k', v') :: rest => by
    simp only [place]
    split
    · simp only [lookup]
    · split
      · next heq =>
        simp only [lookup]
        by_cases h : Key.rank j = Key.rank k
        · simp [h]
        · rw [if_neg h, if_neg h, if_neg (fun h' => h (h'.trans heq.symm))]
      · next hne =>
        simp only [lookup, lookup_place k j v rest]
        by_cases h : Key.rank j = Key.rank k'
        · rw [if_pos h, if_pos h, if_neg (fun h' => hne (h'.symm.trans h))]
        · rw [if_neg h, if_neg h]

@[simp] theorem get?_empty (k : κ) : (∅ : Table κ ν).get? k = none := rfl

theorem get?_insert [DecidableEq κ] (t : Table κ ν) (k j : κ) (v : ν) :
    (t.insert k v).get? j = if j = k then some v else t.get? j := by
  unfold get? insert
  rw [lookup_place]
  by_cases h : j = k
  · simp [h]
  · simp [h, Key.rank_eq_iff]

@[simp] theorem get?_insert_self (t : Table κ ν) (k : κ) (v : ν) :
    (t.insert k v).get? k = some v := by
  unfold get? insert
  rw [lookup_place, if_pos rfl]

theorem get?_insert_of_ne (t : Table κ ν) {k j : κ} (v : ν) (h : j ≠ k) :
    (t.insert k v).get? j = t.get? j := by
  unfold get? insert
  rw [lookup_place, if_neg (fun h' => h (Key.rank_inj h'))]

theorem lookup_eq_some_iff {k : κ} {v : ν} : ∀ {es : List (κ × ν)},
    es.Pairwise (fun a b => Key.rank a.1 < Key.rank b.1) →
    (lookup k es = some v ↔ (k, v) ∈ es)
  | [], _ => by simp [lookup]
  | (k', v') :: rest, h => by
    have ⟨hhead, hrest⟩ := List.pairwise_cons.1 h
    simp only [lookup, List.mem_cons, Prod.mk.injEq]
    split
    · next heq =>
      have hk : k = k' := Key.rank_inj heq
      subst hk
      constructor
      · intro hv; exact .inl ⟨rfl, (Option.some.inj hv).symm⟩
      · rintro (⟨-, rfl⟩ | hmem)
        · rfl
        · exact absurd (hhead _ hmem) (Int.lt_irrefl _)
    · next hne =>
      rw [lookup_eq_some_iff hrest]
      constructor
      · exact .inr
      · rintro (⟨rfl, -⟩ | hmem)
        · exact absurd rfl hne
        · exact hmem

/-- A table lists exactly the pairs its look-up answers. -/
theorem mem_entries_iff (t : Table κ ν) {k : κ} {v : ν} :
    (k, v) ∈ t.entries ↔ t.get? k = some v :=
  (lookup_eq_some_iff t.sorted).symm

theorem get?_erase [DecidableEq κ] (t : Table κ ν) (k j : κ) :
    (t.erase k).get? j = if j = k then none else t.get? j := by
  apply Option.ext
  intro v
  rw [← mem_entries_iff]
  by_cases h : j = k
  · simp [erase, h]
  · simp [erase, h, Key.rank_eq_iff, mem_entries_iff]

@[simp] theorem get?_erase_self (t : Table κ ν) (k : κ) : (t.erase k).get? k = none := by
  apply Option.ext
  intro v
  rw [← mem_entries_iff]
  simp [erase]

theorem get?_erase_of_ne (t : Table κ ν) {k j : κ} (h : j ≠ k) :
    (t.erase k).get? j = t.get? j := by
  apply Option.ext
  intro v
  rw [← mem_entries_iff]
  simp [erase, h, Key.rank_eq_iff, mem_entries_iff]

theorem get?_filter (t : Table κ ν) (p : κ → ν → Bool) (k : κ) :
    (t.filter p).get? k = (t.get? k).filter (p k) := by
  apply Option.ext
  intro v
  rw [← mem_entries_iff]
  simp [filter, mem_entries_iff, Option.filter_eq_some_iff]

theorem mem_keys_iff (t : Table κ ν) {k : κ} : k ∈ t.keys ↔ ∃ v, t.get? k = some v := by
  simp [keys, ← mem_entries_iff]

theorem nodup_keys (t : Table κ ν) : t.keys.Nodup := by
  refine List.pairwise_map.2 (t.sorted.imp fun h heq => ?_)
  rw [heq] at h
  exact Int.lt_irrefl _ h

theorem contains_iff (t : Table κ ν) {k : κ} : t.contains k = true ↔ k ∈ t.keys := by
  rw [mem_keys_iff, contains, Option.isSome_iff_exists]

theorem isEmpty_iff (t : Table κ ν) : t.isEmpty = true ↔ ∀ k, t.get? k = none := by
  constructor
  · intro h k
    simp only [isEmpty, List.isEmpty_iff] at h
    simp [get?, h, lookup]
  · intro h
    simp only [isEmpty, List.isEmpty_iff]
    match hes : t.entries with
    | [] => rfl
    | (k, v) :: rest =>
      have : t.get? k = some v := t.mem_entries_iff.1 (by simp [hes])
      rw [h k] at this
      contradiction

theorem lookup_eq_none_of_lt {k : κ} {es : List (κ × ν)}
    (h : ∀ e ∈ es, Key.rank k < Key.rank e.1) : lookup k es = none := by
  induction es with
  | nil => rfl
  | cons e rest ih =>
    have hlt := h e List.mem_cons_self
    simp only [lookup]
    rw [if_neg (by omega), ih fun e' he' => h e' (List.mem_cons_of_mem _ he')]

theorem eq_of_lookup_eq : ∀ {es fs : List (κ × ν)},
    es.Pairwise (fun a b => Key.rank a.1 < Key.rank b.1) →
    fs.Pairwise (fun a b => Key.rank a.1 < Key.rank b.1) →
    (∀ k, lookup k es = lookup k fs) → es = fs
  | [], [], _, _, _ => rfl
  | [], (k, v) :: _, _, _, h => by simpa [lookup] using h k
  | (k, v) :: _, [], _, _, h => by simpa [lookup] using h k
  | (k, v) :: es, (k', v') :: fs, he, hf, h => by
    have ⟨he₁, he₂⟩ := List.pairwise_cons.1 he
    have ⟨hf₁, hf₂⟩ := List.pairwise_cons.1 hf
    have hkk : k = k' := by
      apply Key.rank_inj
      rcases Int.lt_trichotomy (Key.rank k) (Key.rank k') with hlt | heq | hgt
      · have hn : lookup k ((k', v') :: fs) = none := by
          refine lookup_eq_none_of_lt fun e hmem => ?_
          rcases List.mem_cons.1 hmem with rfl | hmem
          · exact hlt
          · exact Int.lt_trans hlt (hf₁ e hmem)
        rw [← h k] at hn
        simp [lookup] at hn
      · exact heq
      · have hn : lookup k' ((k, v) :: es) = none := by
          refine lookup_eq_none_of_lt fun e hmem => ?_
          rcases List.mem_cons.1 hmem with rfl | hmem
          · exact hgt
          · exact Int.lt_trans hgt (he₁ e hmem)
        rw [h k'] at hn
        simp [lookup] at hn
    subst hkk
    have hv : v = v' := by simpa [lookup] using h k
    subst hv
    have hrest : es = fs := eq_of_lookup_eq he₂ hf₂ fun j => by
      by_cases hj : Key.rank j = Key.rank k
      · rw [lookup_eq_none_of_lt fun e hmem => by rw [hj]; exact he₁ e hmem,
          lookup_eq_none_of_lt fun e hmem => by rw [hj]; exact hf₁ e hmem]
      · simpa [lookup, hj] using h j
    rw [hrest]

/-- Tables with the same look-ups are the same table. -/
theorem ext_get? {t u : Table κ ν} (h : ∀ k, t.get? k = u.get? k) : t = u := by
  have := eq_of_lookup_eq t.sorted u.sorted h
  cases t; cases u
  simpa using this

/-! ## Changes undone -/

theorem eq_empty_iff {t : Table κ ν} : t = ∅ ↔ ∀ k, t.get? k = none :=
  ⟨fun h k => by rw [h, get?_empty], fun h => ext_get? fun k => by rw [h k, get?_empty]⟩

theorem isEmpty_iff_eq {t : Table κ ν} : t.isEmpty = true ↔ t = ∅ := by
  rw [isEmpty_iff, eq_empty_iff]

theorem keys_eq_nil_iff {t : Table κ ν} : t.keys = [] ↔ t = ∅ := by
  rw [← isEmpty_iff_eq, keys, isEmpty, List.map_eq_nil_iff, List.isEmpty_iff]

/-- Putting back what was under a key undoes a replacement. -/
theorem insert_insert_of_get? {t : Table κ ν} {k : κ} {v : ν} (h : t.get? k = some v) (w : ν) :
    (t.insert k w).insert k v = t := by
  refine ext_get? fun j => ?_
  by_cases hj : j = k
  · rw [hj, get?_insert_self, h]
  · rw [get?_insert_of_ne _ _ hj, get?_insert_of_ne _ _ hj]

/-- What is put under a key does not depend on what was there. -/
theorem insert_erase_self (t : Table κ ν) (k : κ) (v : ν) :
    (t.erase k).insert k v = t.insert k v := by
  refine ext_get? fun j => ?_
  by_cases hj : j = k
  · rw [hj, get?_insert_self, get?_insert_self]
  · rw [get?_insert_of_ne _ _ hj, get?_insert_of_ne _ _ hj, get?_erase_of_ne _ hj]

/-- Putting back what was under a key undoes its removal. -/
theorem insert_erase_of_get? {t : Table κ ν} {k : κ} {v : ν} (h : t.get? k = some v) :
    (t.erase k).insert k v = t := by
  refine ext_get? fun j => ?_
  by_cases hj : j = k
  · rw [hj, get?_insert_self, h]
  · rw [get?_insert_of_ne _ _ hj, get?_erase_of_ne _ hj]

/-- Taking a new key away again undoes its addition. -/
theorem erase_insert_of_get? {t : Table κ ν} {k : κ} (h : t.get? k = none) (v : ν) :
    (t.insert k v).erase k = t := by
  refine ext_get? fun j => ?_
  by_cases hj : j = k
  · rw [hj, get?_erase_self, h]
  · rw [get?_erase_of_ne _ hj, get?_insert_of_ne _ _ hj]

end Table
end SensorBroker
