import HandlerStudio.Tree.Basic

/-!
# Selection

At most one node of a session is selected, by its identity. The node itself is looked up when asked
for, so it may be gone.
-/

namespace HandlerStudio

structure Selection where
  selected : Option NodeId := none
deriving DecidableEq, Repr

namespace Selection

def select (id : NodeId) (_ : Selection) : Selection := ⟨some id⟩

def clear (_ : Selection) : Selection := ⟨none⟩

def isSelected (id : NodeId) (s : Selection) : Bool := s.selected == some id

/-- The selected node, if it is in the tree. -/
def node? (body : Body) (s : Selection) : Option Node :=
  s.selected.bind fun id => Tree.find? id body

/-- Whether the selected node is no longer in the tree. -/
def isStale (body : Body) (s : Selection) : Bool :=
  match s.selected with
  | some id => !Tree.contains id body
  | none => false

/-- Drop a selection that is no longer in the tree. -/
def prune (body : Body) (s : Selection) : Selection :=
  if s.isStale body then s.clear else s

end Selection

end HandlerStudio
