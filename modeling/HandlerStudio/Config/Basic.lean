import HandlerStudio.Config.Error

/-!
# Settings of an editor

Times are in milliseconds. The settings have to go together: changes settle before a preview is
made and, if work is saved by itself, longer before it is saved; and the framework belongs to the
language.
-/

namespace HandlerStudio

structure PreviewSettings where
  debounce : Nat := 300
  language : Language := .typescript
  framework : Framework := .express
deriving DecidableEq, Repr

structure AutosaveSettings where
  enabled : Bool := false
  quietPeriod : Nat := 2000
deriving DecidableEq, Repr

structure LoggingSettings where
  level : String := "info"
  json : Bool := false
deriving DecidableEq, Repr

structure Config where
  preview : PreviewSettings := {}
  autosave : AutosaveSettings := {}
  logging : LoggingSettings := {}
deriving DecidableEq, Repr

namespace Config

def withDebounce (ms : Nat) (c : Config) : Config :=
  { c with preview := { c.preview with debounce := ms } }

def withTarget (t : Target) (c : Config) : Config :=
  { c with preview := { c.preview with language := t.language, framework := t.framework } }

/-- Save by itself after a quiet period. -/
def withAutosave (quietPeriod : Nat) (c : Config) : Config :=
  { c with autosave := { enabled := true, quietPeriod } }

/-- What is previewed first. -/
def target (c : Config) : Except ConfigError Target :=
  match Target.make c.preview.language c.preview.framework with
  | .ok t => .ok t
  | .error e => .error (.target e)

/-- Whether the settings go together. -/
def validate (c : Config) : Except ConfigError Unit := do
  let debounce := c.preview.debounce
  let quiet := c.autosave.quietPeriod
  if debounce = 0 then
    throw (.invalid "preview.debounce_ms must be positive")
  if c.autosave.enabled && quiet ≤ debounce then
    throw (.invalid
      s!"autosave.quiet_period_ms ({quiet}) must exceed preview.debounce_ms ({debounce})")
  let _ ← c.target

end Config

end HandlerStudio
