import HandlerStudio.Config.Error
import HandlerStudio.Node.Error
import HandlerStudio.Preview.Generator
import HandlerStudio.Store.Error

/-!
# Failures of an editor
-/

namespace HandlerStudio

inductive EditorError where
  | store (error : StoreError)
  | config (error : ConfigError)
  | generator (error : GeneratorError)
  | node (error : NodeError)

namespace EditorError

def message : EditorError → String
  | .store e => "storage error: " ++ e.message
  | .config e => "configuration error: " ++ e.message
  | .generator e => "generator error: " ++ e.message
  | .node e => "node construction failed: " ++ e.message

/-- Whether the same call may succeed later. -/
def isRetryable : EditorError → Bool
  | .store e => e.isRetryable
  | .generator e => e.isRetryable
  | _ => false

end EditorError

end HandlerStudio
