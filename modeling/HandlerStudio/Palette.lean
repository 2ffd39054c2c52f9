import HandlerStudio.Node.Basic
import HandlerStudio.Node.Error

/-!
# The palette

The kinds of nodes that can be inserted, grouped by category.
-/

namespace HandlerStudio

structure Palette where
  /-- The kinds on offer, in order. -/
  kinds : List Kind

namespace Palette

/-- Every kind. -/
def standard : Palette := ⟨Kind.all⟩

/-- The kinds at or below a tier. -/
def upTo (tier : Tier) : Palette := ⟨Kind.all.filter fun k => k.tier.toNat ≤ tier.toNat⟩

/-- The kinds of a category, in order. -/
def inCategory (category : Category) (p : Palette) : List Kind :=
  p.kinds.filter fun k => k.category == category

/-- The categories in order of their first kind. -/
def groups (p : Palette) : List Category :=
  (p.kinds.map Kind.category).foldl (fun seen c => if seen.contains c then seen else seen ++ [c]) []

/-- The kind on offer with a name, in the long or the short form. -/
def find? (name : String) (p : Palette) : Option Kind :=
  p.kinds.find? fun k => k.shortName == name || k.typeName == name

/-- A new node of the kind with a name. -/
def create (id : NodeId) (name : String) (p : Palette) : Except NodeError Node :=
  match p.find? name with
  | some k => .ok (Node.new id k)
  | none => .error (.unknownType name)

end Palette

end HandlerStudio
