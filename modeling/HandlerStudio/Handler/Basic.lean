import HandlerStudio.Json.Basic
import HandlerStudio.Node.Basic
import HandlerStudio.Tree.Stats

/-!
# Handlers

A handler is loaded and saved whole: its name, its parameters, and the tree of its body. Entries of
a stored handler that have no meaning here are kept as they are.
-/

namespace HandlerStudio

/-- The name of a stored document. -/
structure DocumentId where
  text : String
deriving DecidableEq, Repr

structure Param where
  name : String
  typeName : String
  optional : Bool := false
deriving DecidableEq, Repr

structure Handler where
  name : String
  isAsync : Bool := false
  params : List Param := []
  returnType : Option String := none
  body : Body := []
  /-- Further entries of the stored document, in key order. -/
  extra : List (String × Json) := []

namespace Handler

/-- A handler with nothing in it yet. -/
def new (name : String) : Handler := { name, isAsync := true }

/-- Equality of handlers, with that of numbers. -/
def same (a b : Handler) : Bool :=
  a.name == b.name && a.isAsync == b.isAsync && a.params == b.params
    && a.returnType == b.returnType && Tree.same a.body b.body
    && Json.sameEntries a.extra b.extra

end Handler

end HandlerStudio
