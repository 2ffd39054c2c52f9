import HandlerStudio.Config.Basic
import HandlerStudio.Toml.Reader

/-!
# Settings as text

Settings are kept in three tables. All of it may be left out, and what is not known is passed
over. A table may also be given as an array of its values in order.
-/

namespace HandlerStudio

namespace Config

/-! ## Reading -/

/-- A value that may be left out. -/
def given (read : Toml.Value → Option α) (default : α) : Option Toml.Value → Option α
  | none => some default
  | some v => read v

/-- How values of a table are found: by their key, or by their place in an array. A date counts as a
table with nothing known in it. -/
def fields? : Toml.Value → Option (String → Nat → Option Toml.Value)
  | .table entries => some fun key _ => Entries.get? key entries
  | .array items => some fun _ place => items[place]?
  | .moment _ => some fun _ _ => none
  | _ => none

/-- A whole number that is not negative. -/
def natural? : Toml.Value → Option Nat
  | .integer (.ofNat n) => some n
  | _ => none

def boolean? : Toml.Value → Option Bool
  | .boolean b => some b
  | _ => none

def text? : Toml.Value → Option String
  | .text s => some s
  | _ => none

def isEmpty : Toml.Value → Bool
  | .array [] => true
  | .table [] => true
  | _ => false

/-- A name as text, or as the only key of a table that holds nothing under it. -/
def name? : Toml.Value → Option String
  | .text s => some s
  | .table [(s, v)] => if isEmpty v then some s else none
  | _ => none

def language? (v : Toml.Value) : Option Language := do
  let name ← name? v
  Language.all.find? fun l => l.name == name

def framework? (v : Toml.Value) : Option Framework := do
  let name ← name? v
  Framework.all.find? fun f => f.name == name

def preview? (v : Toml.Value) : Option PreviewSettings := do
  let field ← fields? v
  let debounce ← given natural? 300 (field "debounce_ms" 0)
  let language ← given language? .typescript (field "default_language" 1)
  let framework ← given framework? .express (field "default_framework" 2)
  return { debounce, language, framework }

def autosave? (v : Toml.Value) : Option AutosaveSettings := do
  let field ← fields? v
  let enabled ← given boolean? false (field "enabled" 0)
  let quietPeriod ← given natural? 2000 (field "quiet_period_ms" 1)
  return { enabled, quietPeriod }

def logging? (v : Toml.Value) : Option LoggingSettings := do
  let field ← fields? v
  let level ← given text? "info" (field "level" 0)
  let json ← given boolean? false (field "json" 1)
  return { level, json }

/-- The settings of a document. -/
def ofEntries? (entries : List (String × Toml.Value)) : Option Config := do
  let preview ← given preview? {} (Entries.get? "preview" entries)
  let autosave ← given autosave? {} (Entries.get? "autosave" entries)
  let logging ← given logging? {} (Entries.get? "logging" entries)
  return { preview, autosave, logging }

/-- Read settings, which have to go together. -/
def ofToml (text : String) : Except ConfigError Config := do
  match (Toml.parse? text).bind ofEntries? with
  | none => throw .malformed
  | some c =>
      c.validate
      return c

/-- The settings in a file, given its path and what was read from it. -/
def ofFile (path : String) (content : Except DiskFault String) : Except ConfigError Config :=
  match content with
  | .ok text => ofToml text
  | .error fault => .error (.unreadable path fault)

/-! ## Writing -/

def naturalText (n : Nat) : Except ConfigError String :=
  if n < signedLimit then .ok (String.ofList (Nat.toDigits 10 n))
  else .error (.invalid "out-of-range value for u64 type")

def booleanText (b : Bool) : String := if b then "true" else "false"

def quotedText (s : String) : String := String.ofList (Toml.Quoted.write s.toList)

/-- The settings as text. -/
def toToml (c : Config) : Except ConfigError String := do
  let debounce ← naturalText c.preview.debounce
  let quiet ← naturalText c.autosave.quietPeriod
  return "[preview]\n"
    ++ "debounce_ms = " ++ debounce ++ "\n"
    ++ "default_language = " ++ quotedText c.preview.language.name ++ "\n"
    ++ "default_framework = " ++ quotedText c.preview.framework.name ++ "\n"
    ++ "\n[autosave]\n"
    ++ "enabled = " ++ booleanText c.autosave.enabled ++ "\n"
    ++ "quiet_period_ms = " ++ quiet ++ "\n"
    ++ "\n[logging]\n"
    ++ "level = " ++ quotedText c.logging.level ++ "\n"
    ++ "json = " ++ booleanText c.logging.json ++ "\n"

end Config

end HandlerStudio
