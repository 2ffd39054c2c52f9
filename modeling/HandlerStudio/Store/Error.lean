import HandlerStudio.Disk.Basic
import HandlerStudio.Handler.Json

/-!
# Failures of stores
-/

namespace HandlerStudio

inductive StoreError where
  | notFound (document : DocumentId)
  | corrupt (document : DocumentId) (source : DocumentError)
  | rejected (reason : String)
  | unavailable (reason : String)
  | disk (fault : DiskFault)
deriving DecidableEq

namespace StoreError

def message : StoreError → String
  | .notFound document => "document not found: " ++ document.text
  | .corrupt document source => "corrupt document " ++ document.text ++ ": " ++ source.message
  | .rejected reason => "store rejected save: " ++ reason
  | .unavailable reason => "store unavailable: " ++ reason
  | .disk fault => "io error: " ++ fault.message

/-- Whether the same call may succeed later. -/
def isRetryable : StoreError → Bool
  | .unavailable _ => true
  | .disk _ => true
  | _ => false

end StoreError

/-- The handler that a document's text stores. -/
def Handler.ofStored (document : DocumentId) (supply : IdSupply) (text : String) :
    Except StoreError (Handler × IdSupply) :=
  match Handler.ofText supply text with
  | .ok r => .ok r
  | .error e => .error (.corrupt document e)

end HandlerStudio
