import HandlerStudio.Node.Basic

/-!
# Walking a tree

The nodes of a body, each before the nodes below it and those from left to right: `Tree.walk` lists
them with their depths, `Tree.ids` their identities, and `Tree.find?` stops at the first one with a
given identity. A node below another may sit in any field, in a slot, alone, or inside plain data.
-/

namespace HandlerStudio

mutual

/-- The node and all below it, with their depths. -/
def Node.walkAt (depth : Nat) : Node → List (Nat × Node)
  | .mk id kind tier fields =>
      (depth, .mk id kind tier fields) :: Value.walkEntries (depth + 1) fields
termination_by structural n => n

/-- All nodes of a value, the outermost at the given depth. -/
def Value.walkAt (depth : Nat) : Value → List (Nat × Node)
  | .node n => n.walkAt depth
  | .list items => Value.walkItems depth items
  | .object entries => Value.walkEntries depth entries
  | _ => []
termination_by structural v => v

def Value.walkItems (depth : Nat) : List Value → List (Nat × Node)
  | [] => []
  | v :: vs => v.walkAt depth ++ Value.walkItems depth vs
termination_by structural vs => vs

def Value.walkEntries (depth : Nat) : List (String × Value) → List (Nat × Node)
  | [] => []
  | (_, v) :: es => v.walkAt depth ++ Value.walkEntries depth es
termination_by structural es => es

end

mutual

/-- The first node with an identity, this one or one below it. -/
def Node.find? (id : NodeId) : Node → Option Node
  | .mk i kind tier fields =>
      if i = id then some (.mk i kind tier fields) else Value.findInEntries? id fields
termination_by structural n => n

def Value.find? (id : NodeId) : Value → Option Node
  | .node n => n.find? id
  | .list items => Value.findInItems? id items
  | .object entries => Value.findInEntries? id entries
  | _ => none
termination_by structural v => v

def Value.findInItems? (id : NodeId) : List Value → Option Node
  | [] => none
  | v :: vs =>
      match v.find? id with
      | some n => some n
      | none => Value.findInItems? id vs
termination_by structural vs => vs

def Value.findInEntries? (id : NodeId) : List (String × Value) → Option Node
  | [] => none
  | (_, v) :: es =>
      match v.find? id with
      | some n => some n
      | none => Value.findInEntries? id es
termination_by structural es => es

end

/-- The identities of all nodes of a value. -/
def Value.ids (v : Value) : List NodeId :=
  (v.walkAt 0).map fun p => p.2.id

/-- The identities of a node and all below it. -/
def Node.ids (n : Node) : List NodeId :=
  (n.walkAt 0).map fun p => p.2.id

namespace Tree

/-- All nodes with their depths, from the top. -/
def walk (body : Body) : List (Nat × Node) :=
  body.flatMap (Node.walkAt 0)

/-- The identities of all nodes. -/
def ids (body : Body) : List NodeId :=
  (walk body).map fun p => p.2.id

/-- The first node with an identity. -/
def find? (id : NodeId) (body : Body) : Option Node :=
  body.findSome? (Node.find? id)

def contains (id : NodeId) (body : Body) : Bool :=
  (find? id body).isSome

/-- Whether two bodies are equal, with the equality of numbers. -/
def same : Body → Body → Bool
  | [], [] => true
  | a :: as, b :: bs => a.same b && same as bs
  | _, _ => false

/-- No identity occurs twice. -/
def UniqueIds (body : Body) : Prop :=
  (ids body).Nodup

end Tree

end HandlerStudio
