import HandlerStudio.Proofs.Tree.Hereditary

/-!
# Edits keep keys in order

To have keys in order is a hereditary property, so edits keep fields and objects in key order at
every depth, as long as what comes in is in order too.
-/

namespace HandlerStudio

namespace Tree

variable {body : Body}

theorem ordered_remove (ho : Tree.Ordered body) (id : NodeId) :
    Tree.Ordered (remove body id) := by
  rw [← ordered_nodes_iff] at ho ⊢
  exact Hereditary.ordered.remove ho id

theorem ordered_insert (ho : Tree.Ordered body) (parent : Option NodeId)
    {node : Node} (hn : node.Ordered) (index : Option Nat) :
    Tree.Ordered (insert body parent node index) := by
  rw [← ordered_nodes_iff] at ho ⊢
  exact Hereditary.ordered.insert ho parent (by simpa [Value.Ordered] using hn) index

theorem ordered_updateProperty (ho : Tree.Ordered body) (id : NodeId)
    (key : String) {value : Value} (hv : value.Ordered) :
    Tree.Ordered (updateProperty body id key value) := by
  rw [← ordered_nodes_iff] at ho ⊢
  exact Hereditary.ordered.updateProperty ho id key fun _ => hv

end Tree

end HandlerStudio
