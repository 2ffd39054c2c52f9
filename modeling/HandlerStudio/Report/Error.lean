import HandlerStudio.Editor.Error
import HandlerStudio.Report.Basic

/-!
# Reports of failures

A failure is reported by its name and its message, and where that makes sense also by whether the
same call may succeed later.
-/

namespace HandlerStudio

/-- A failure by its name and its message. -/
def Json.failure (name message : String) : Json :=
  ofEntries [("error", .string name), ("message", .string message)]

/-- Whether a call may succeed later, as an entry. -/
def Json.retryable (value : Bool) : String × Json := ("retryable", .bool value)

namespace NodeError

def name : NodeError → String
  | .unknownType _ => "UnknownType"
  | .invalidTier _ => "InvalidTier"
  | .malformed _ => "Malformed"

def toJson (e : NodeError) : Json := .failure e.name e.message

end NodeError

namespace TargetError

def name : TargetError → String
  | .unknownLanguage _ => "UnknownLanguage"
  | .unknownFramework _ => "UnknownFramework"
  | .unsupported _ _ => "Unsupported"
  | .malformed _ => "Malformed"

def toJson (e : TargetError) : Json := .failure e.name e.message

end TargetError

/-- A text that cannot be read. Only a fault in the data has a message of its own. -/
def Json.Fault.toJson : Json.Fault → Json
  | .malformed => .ofEntries [("error", .string "Decode"), ("category", .string "syntax")]
  | .truncated => .ofEntries [("error", .string "Decode"), ("category", .string "eof")]
  | .mismatch m =>
      .ofEntries [("error", .string "Decode"), ("category", .string "data"),
        ("message", .string m.message)]

def DocumentError.toJson : DocumentError → Json
  | .unreadable fault => fault.toJson
  | .duplicateIds ids => .failure "DuplicateIds" (DocumentError.duplicateIds ids).message

namespace GeneratorError

def name : GeneratorError → String
  | .rejected _ => "Rejected"
  | .timeout _ => "Timeout"
  | .unavailable _ => "Unavailable"
  | .unsupported _ => "Unsupported"

def toJson (e : GeneratorError) : Json :=
  (Json.failure e.name e.message).extend [Json.retryable e.isRetryable]

end GeneratorError

namespace StoreError

def name : StoreError → String
  | .notFound _ => "NotFound"
  | .corrupt _ _ => "Corrupt"
  | .rejected _ => "Rejected"
  | .unavailable _ => "Unavailable"
  | .disk _ => "Io"

def toJson (e : StoreError) : Json :=
  match e with
  | .disk _ => .ofEntries [("error", .string e.name), Json.retryable e.isRetryable]
  | .corrupt document source =>
      .ofEntries [("error", .string e.name), ("document", .string document.text),
        ("source", source.toJson), Json.retryable e.isRetryable]
  | _ => (Json.failure e.name e.message).extend [Json.retryable e.isRetryable]

end StoreError

def ConfigError.toJson (e : ConfigError) : Json :=
  match e with
  | .unreadable _ _ => .ofEntries [("error", .string "Read")]
  | .malformed => .ofEntries [("error", .string "Parse")]
  | .invalid _ => .failure "Invalid" e.message
  | .target _ => .failure "Target" e.message

namespace EditorError

def name : EditorError → String
  | .store _ => "Store"
  | .config _ => "Config"
  | .generator _ => "Generator"
  | .node _ => "Node"

/-- The failure behind it. -/
def inner : EditorError → Json
  | .store e => e.toJson
  | .config e => e.toJson
  | .generator e => e.toJson
  | .node e => e.toJson

def toJson (e : EditorError) : Json :=
  .ofEntries [("error", .string e.name), ("inner", e.inner), Json.retryable e.isRetryable]

end EditorError

end HandlerStudio
