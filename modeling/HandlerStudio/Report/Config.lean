import HandlerStudio.Config.Toml
import HandlerStudio.Report.Error

/-!
# Reports of settings
-/

namespace HandlerStudio.Config

def toJson (c : Config) : Json :=
  .ofEntries [
    ("preview", .ofEntries [("debounce_ms", .nat c.preview.debounce),
      ("default_language", .string c.preview.language.name),
      ("default_framework", .string c.preview.framework.name)]),
    ("autosave", .ofEntries [("enabled", .bool c.autosave.enabled),
      ("quiet_period_ms", .nat c.autosave.quietPeriod)]),
    ("logging", .ofEntries [("level", .string c.logging.level), ("json", .bool c.logging.json)])]

/-- What comes of a check, or why it fails. -/
def outcome (f : α → Json) : Except ConfigError α → Json
  | .ok a => f a
  | .error e => e.toJson

/-- Whether the written settings read back; null if they cannot be written. -/
def roundTrip (c : Config) : Json :=
  match c.toToml with
  | .ok text => outcome (fun again => .bool (decide (again = c))) (ofToml text)
  | .error _ => .null

def report (c : Config) : Json :=
  .ofEntries [("config", c.toJson), ("debounce_ms", .nat c.preview.debounce),
    ("quiet_ms", .nat c.autosave.quietPeriod), ("valid", outcome (fun _ => .null) c.validate),
    ("target", outcome (fun t => .string t.text) c.target), ("toml", outcome .string c.toToml),
    ("round_trip", c.roundTrip)]

end HandlerStudio.Config
