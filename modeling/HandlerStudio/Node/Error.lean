/-!
# Errors of nodes

Why data is no node.
-/

namespace HandlerStudio

inductive NodeError where
  | unknownType (name : String)
  | invalidTier (tier : Nat)
  | malformed (reason : String)
deriving DecidableEq, Repr

def NodeError.message : NodeError → String
  | .unknownType name => "unknown node type: " ++ name
  | .invalidTier tier => s!"invalid tier: {tier}"
  | .malformed reason => "malformed node: " ++ reason

end HandlerStudio
