import HandlerStudio.Json.Basic
import HandlerStudio.Node.Identity

/-!
# Reports

Whatever a client of the library may want to look at can be reported as structured data. The modules
beside this one say how; here is what they share.
-/

namespace HandlerStudio

namespace Json

/-- The value made of something, or null. -/
def ofOption (f : α → Json) : Option α → Json
  | some a => f a
  | none => .null

def texts (ss : List String) : Json := .array (ss.map .string)

/-- An object with more entries. -/
def extend (more : List (String × Json)) : Json → Json
  | .object entries => ofEntries (entries ++ more)
  | j => j

end Json

def NodeId.toJson (id : NodeId) : Json := .string id.text

def NodeId.listJson (ids : List NodeId) : Json := .array (ids.map toJson)

end HandlerStudio
