import HandlerStudio.Proofs.Node.Storable
import HandlerStudio.Proofs.Tree.Hereditary

/-!
# Edits keep a tree storable

To be storable is a hereditary property, so no edit that brings in something storable takes a tree
out of what can be stored.
-/

namespace HandlerStudio

namespace Tree

/-- Every node of the body is storable. -/
def Storable (body : Body) : Prop := ∀ n ∈ body, n.Storable

theorem storable_nodes_iff (body : Body) : (Value.nodes body).Storable ↔ Storable body := by
  simp [Value.nodes, Value.storable_list_iff, Value.storable_node_iff, Storable]

section

variable {body : Body}

theorem Storable.proper (hs : Storable body) (hu : UniqueIds body) : Proper body :=
  ⟨fun n hn => (hs n hn).regular, hu, fun n hn => (hs n hn).undisguised⟩

theorem storable_insert (hs : Storable body) (parent : Option NodeId)
    {node : Node} (hn : node.Storable) (index : Option Nat) :
    Storable (insert body parent node index) := by
  rw [← storable_nodes_iff] at hs ⊢
  exact Hereditary.storable.insert hs parent ((Value.storable_node_iff node).mpr hn) index

theorem storable_updateProperty (hs : Storable body) (id : NodeId)
    (key : String) {v : Value} (hv : v.Sealed) : Storable (updateProperty body id key v) := by
  rw [← storable_nodes_iff] at hs ⊢
  exact Hereditary.storable.updateProperty hs id key hv.storable

theorem storable_remove (hs : Storable body) (id : NodeId) :
    Storable (remove body id) := by
  rw [← storable_nodes_iff] at hs ⊢
  exact Hereditary.storable.remove hs id

end

end Tree

end HandlerStudio
