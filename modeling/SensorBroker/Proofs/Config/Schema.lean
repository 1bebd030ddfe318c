/-
# The laws of the schema

Every format writes a configuration setting by setting and reads it by putting
setting after setting into a record. So what was written comes back if each
value is one its kind allows, no two settings share a name, and putting all
values of a record into any other, in whichever order, makes it that record. The
names need neither quotes nor escapes.

Key definitions: `Plain`, `WholeType.Fits`, `Kind.Fits`, `Restores`, `Layout.changes`,
`Layout.Lawful`, `Legible`, `Config.changes`.
Key theorems: `Restores.of_commute`, `Config.lawful_of_mem_parts`,
`Config.restores_changes`.
-/
import Mathlib.Data.List.Perm.Basic
import SensorBroker.Config.Schema
import SensorBroker.Config.Toml.Text

namespace SensorBroker

/-! ## Names and values -/

/-- A name of at least one character, each of which may stand in a name without
quotes. -/
def Plain (s : String) : Prop :=
  s.toList ≠ [] ∧ s.toList.all Toml.isNameChar = true

instance (s : String) : Decidable (Plain s) :=
  inferInstanceAs (Decidable (_ ∧ _))

theorem Plain.ne_nil {s : String} (h : Plain s) : s.toList ≠ [] :=
  h.1

theorem Plain.isNameChar {s : String} (h : Plain s) : ∀ c ∈ s.toList, Toml.isNameChar c = true :=
  List.all_eq_true.mp h.2

theorem BackendKind.plain_name : ∀ b : BackendKind, Plain b.name
  | .vendor => by decide
  | .software => by decide

/-- A backend is known by its name. -/
theorem BackendKind.named_name : ∀ b : BackendKind, BackendKind.named b.name = .ok b
  | .vendor => rfl
  | .software => rfl

/-- A number of a type that fits into 64 bits, with a sign or without. -/
structure WholeType.Fits (t : WholeType) (n : Int) : Prop where
  allowed : t.check n = .ok n
  low : Int64.minValue.toInt ≤ n
  high : n < UInt64.size

/-- A number between the bounds of a type is of the type. -/
theorem WholeType.check_of_mem {t : WholeType} {n : Int} (hlow : t.low ≤ n) (hhigh : n ≤ t.high) :
    t.check n = .ok n := by
  simp [WholeType.check, hlow, hhigh]

/-- A number between the bounds of a type that goes no further than 64 bits. -/
theorem WholeType.fits_of_mem {t : WholeType} (hmin : Int64.minValue.toInt ≤ t.low)
    (hmax : t.high < UInt64.size) {n : Int} (hlow : t.low ≤ n) (hhigh : n ≤ t.high) : t.Fits n :=
  ⟨WholeType.check_of_mem hlow hhigh, by omega, by omega⟩

theorem WholeType.fits_int64 (n : Int64) : WholeType.signed64.Fits n.toInt :=
  WholeType.fits_of_mem (by decide) (by decide) (Int64.le_toInt n) (Int64.toInt_le n)

/-- A number of 64 bits without a sign fits into every type that has all of
them. -/
theorem WholeType.fits_uint64 {t : WholeType} (hlow : t.low = 0) (hhigh : t.high = UInt64.size - 1)
    (n : UInt64) : t.Fits n.toNat := by
  have hn : n.toNat < UInt64.size := n.toNat_lt
  have hmin : Int64.minValue.toInt ≤ 0 := by decide
  apply WholeType.fits_of_mem <;> omega

theorem WholeType.fits_uint32 (n : UInt32) : WholeType.unsigned32.Fits n.toNat := by
  have hn : n.toNat < UInt32.size := n.toNat_lt
  have hhigh : WholeType.unsigned32.high = UInt32.size - 1 := rfl
  apply WholeType.fits_of_mem (by decide) (by decide) (Int.natCast_nonneg _)
  omega

/-- The number of a sensor fits into 32 bits. -/
theorem SensorId.fits_toInt (s : SensorId) : WholeType.signed32.Fits s.toInt :=
  WholeType.fits_of_mem (by decide) (by decide) (Int32.le_toInt s.raw) (Int32.toInt_le s.raw)

/-- A value that its kind allows. -/
def Kind.Fits : (k : Kind) → k.Value → Prop
  | .whole t, n => t.Fits n
  | .sensors, _ => True
  | .backend, _ => True

/-- Of things with distinct names each is found by its name. -/
theorem find?_name {α : Type} {name : α → String} {as : List α} (h : (as.map name).Nodup) {a : α}
    (ha : a ∈ as) : (as.find? fun b => name b = name a) = some a := by
  induction as with
  | nil => simp at ha
  | cons b as ih =>
    obtain ⟨hb, hrest⟩ := List.nodup_cons.mp h
    by_cases hab : name b = name a
    · have hnot : a ∉ as := fun hmem => hb (List.mem_map.mpr ⟨a, hmem, hab.symm⟩)
      obtain rfl : a = b := (List.mem_cons.mp ha).resolve_right hnot
      simp
    · have hmem : a ∈ as := (List.mem_cons.mp ha).resolve_left fun heq => hab (by rw [heq])
      simpa [hab] using ih hrest hmem

/-! ## Changes that make a record -/

variable {σ : Type}

/-- Changes that make any record the given one, in whichever order they are
made. -/
def Restores (changes : List (σ → σ)) (s : σ) : Prop :=
  ∀ order : List (σ → σ), order.Perm changes → ∀ t, order.foldl (fun t change => change t) t = s

/-- Changes that do not get into each other's way need be looked at in one order
only. -/
theorem Restores.of_commute {changes : List (σ → σ)} {s : σ}
    (hcomm : ∀ f ∈ changes, ∀ g ∈ changes, ∀ t, g (f t) = f (g t))
    (hall : ∀ t, changes.foldl (fun t change => change t) t = s) : Restores changes s := by
  intro order horder t
  calc
    order.foldl (fun t change => change t) t
      = changes.foldl (fun t change => change t) t :=
        horder.foldl_eq' (fun f hf g hg t =>
          hcomm f (horder.mem_iff.mp hf) g (horder.mem_iff.mp hg) t) t
    _ = s := hall t

/-- The changes that put the settings of a record into another. -/
def Layout.changes (l : Layout σ) (s : σ) : List (σ → σ) :=
  l.fields.map fun f => f.put (f.get s)

/-- What a layout must be for a record to come back. -/
structure Layout.Lawful (l : Layout σ) : Prop where
  distinct : (l.fields.map Field.name).Nodup
  plain : ∀ f ∈ l.fields, Plain f.name
  fits : ∀ f ∈ l.fields, ∀ s, f.kind.Fits (f.get s)
  restores : ∀ s, Restores (l.changes s) s

/-- Settings with distinct plain names and values that their kinds allow. -/
structure Legible (es : List Setting) : Prop where
  distinct : (es.map Setting.name).Nodup
  plain : ∀ e ∈ es, Plain e.name
  fits : ∀ e ∈ es, e.kind.Fits e.value

/-- What is written of a record by a lawful layout. -/
theorem Layout.Lawful.legible_settings {l : Layout σ} (h : l.Lawful) (s : σ) :
    Legible (l.settings s) where
  distinct := by simpa [Layout.settings, Function.comp_def] using h.distinct
  plain := by
    intro e he
    obtain ⟨f, hf, rfl⟩ := List.mem_map.mp he
    exact h.plain f hf
  fits := by
    intro e he
    obtain ⟨f, hf, rfl⟩ := List.mem_map.mp he
    exact h.fits f hf s

theorem ServiceSettings.lawful_layout : ServiceSettings.layout.Lawful where
  distinct := by decide
  plain := by decide
  fits := by
    simp only [ServiceSettings.layout, List.forall_mem_cons]
    exact ⟨fun s => WholeType.fits_int64 s.defaultPeriod,
      fun s => WholeType.fits_int64 s.maxEventCount,
      fun s => WholeType.fits_uint64 rfl rfl s.eventQueueCapacity, fun _ => trivial, nofun⟩
  restores s := by
    apply Restores.of_commute
    · simp [Layout.changes, ServiceSettings.layout]
    · intro t
      simp [Layout.changes, ServiceSettings.layout]

theorem TransportSettings.lawful_layout : TransportSettings.layout.Lawful where
  distinct := by decide
  plain := by decide
  fits := by
    simp only [TransportSettings.layout, List.forall_mem_cons]
    exact ⟨fun s => WholeType.fits_uint32 s.maxPacketSize,
      fun s => WholeType.fits_uint64 rfl rfl s.passLimit,
      fun s => WholeType.fits_uint64 rfl rfl s.pollTimeout,
      fun s => WholeType.fits_uint64 rfl rfl s.retryLimit,
      fun s => WholeType.fits_uint64 rfl rfl s.pendingCapacity,
      fun s => WholeType.fits_uint64 rfl rfl s.readChunk, nofun⟩
  restores s := by
    apply Restores.of_commute
    · simp [Layout.changes, TransportSettings.layout]
    · intro t
      simp [Layout.changes, TransportSettings.layout]

theorem HardwareSettings.lawful_layout : HardwareSettings.layout.Lawful where
  distinct := by decide
  plain := by decide
  fits := by
    simp only [HardwareSettings.layout, List.forall_mem_cons]
    exact ⟨fun _ => trivial, fun _ => trivial, fun _ => trivial, nofun⟩
  restores s := by
    apply Restores.of_commute
    · simp [Layout.changes, HardwareSettings.layout]
    · intro t
      simp [Layout.changes, HardwareSettings.layout]

/-! ## Sections of a configuration -/

namespace Config

/-- The changes that put the sections of a configuration into another. -/
def changes (c : Config) : List (Config → Config) :=
  parts.map fun p => p.put (p.get c)

theorem distinct_parts : (parts.map Part.name).Nodup := by
  decide

theorem plain_of_mem_parts : ∀ p ∈ parts, Plain p.name := by
  simp only [parts, List.forall_mem_cons]
  exact ⟨by decide, by decide, by decide, nofun⟩

theorem lawful_of_mem_parts : ∀ p ∈ parts, p.layout.Lawful := by
  simp only [parts, List.forall_mem_cons]
  exact ⟨ServiceSettings.lawful_layout, TransportSettings.lawful_layout,
    HardwareSettings.lawful_layout, nofun⟩

/-- A configuration comes back from its sections. -/
theorem restores_changes (c : Config) : Restores c.changes c := by
  apply Restores.of_commute
  · simp [changes, parts]
  · intro d
    simp [changes, parts]

end Config
end SensorBroker
