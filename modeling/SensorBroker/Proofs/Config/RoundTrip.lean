/-
# A written configuration is loaded as it was

Whatever is written of a configuration is read back as the same configuration,
in either format: no setting falls back to its default, and no number loses a
digit. So a configuration that is allowed is loaded from its own text, and one
that is not allowed is refused for the same reason as before.

Key theorems: `Config.read_write`, `Config.write_injective`,
`Config.load_write_eq_validate`, `Config.load_written`.
-/
import SensorBroker.Config.Load
import SensorBroker.Proofs.Config.JsonReading
import SensorBroker.Proofs.Config.TomlReading

namespace SensorBroker.Config

/-- A configuration is read back from its text, allowed or not. -/
theorem read_write (format : ConfigFormat) (c : Config) :
    Config.read format (c.write format) = .ok c :=
  match format with
  | .toml => Toml.config?_toToml c
  | .json => Json.config?_toJson c

/-- Different configurations have different texts. -/
theorem write_injective (format : ConfigFormat) : (Config.write format).Injective := by
  intro c d h
  have hc := read_write format c
  have hd := read_write format d
  rw [h, hd] at hc
  exact (Except.ok.inj hc).symm

/-- What is found wrong with the text of a configuration is what is wrong with
the configuration. -/
theorem load_write_eq_validate (format : ConfigFormat) (c : Config) :
    Config.load format (c.write format) = c.validate.map fun _ => c := by
  rw [Config.load, read_write]
  cases h : c.validate <;>
    simp [h, Except.mapError, Except.map, bind, Except.bind, pure, Except.pure]

/-- **An allowed configuration is loaded from its own text.** This holds of both
formats; each setting has the value that it had, and the text is allowed
again. -/
theorem load_written (c : Config) (h : c.validate = .ok ()) :
    Config.load .json c.toJson = .ok c ∧ Config.load .toml c.toToml = .ok c := by
  have hload (format : ConfigFormat) : Config.load format (c.write format) = .ok c := by
    rw [load_write_eq_validate, h]
    rfl
  exact ⟨hload .json, hload .toml⟩

/-- A configuration with numbers at the ends of their ranges, and with lists of
none, one and several sensors. -/
def farthest : Config where
  service :=
    { defaultPeriod := Int64.maxValue, maxEventCount := 1,
      eventQueueCapacity := 18446744073709551615, freezingExempt := [] }
  transport :=
    { maxPacketSize := 4294967295, pollTimeout := 18446744073709551615,
      pendingCapacity := 4294967295 }
  hardware :=
    { backend := .software, mockable := [.ofInt 2147483647, .ofInt 0],
      injectOnStart := [.ofInt 0] }

theorem load_farthest :
    farthest.validate = .ok () ∧ Config.load .json farthest.toJson = .ok farthest ∧
      Config.load .toml farthest.toToml = .ok farthest :=
  ⟨by rfl, load_written farthest (by rfl)⟩

end SensorBroker.Config
