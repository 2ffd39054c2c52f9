import HandlerStudio.Tree.Basic

/-!
# Editing a tree

Inserting a node, removing one, and setting a field, each addressed by identity. No edit fails:
one that finds no target, or that would bring an identity into the tree a second time, leaves the
tree as it is. The first node in walking order with the identity is the target, and only the path
to it is rebuilt.
-/

namespace HandlerStudio

/-! ## Collecting identities -/

/-- Identities met so far, and the first one met twice. -/
structure IdScan where
  seen : List NodeId := []
  repeated : Option NodeId := none

def IdScan.visit (s : IdScan) (id : NodeId) : IdScan :=
  if s.seen.contains id then { s with repeated := s.repeated.or (some id) }
  else { s with seen := id :: s.seen }

mutual

/-- Meet all identities of a value. -/
def Value.scanIds (s : IdScan) : Value → IdScan
  | .node n => n.scanIds s
  | .list items => Value.scanItems s items
  | .object entries => Value.scanEntries s entries
  | _ => s
termination_by structural v => v

def Node.scanIds (s : IdScan) : Node → IdScan
  | .mk id _ _ fields => Value.scanEntries (s.visit id) fields
termination_by structural n => n

def Value.scanItems (s : IdScan) : List Value → IdScan
  | [] => s
  | v :: vs => Value.scanItems (v.scanIds s) vs
termination_by structural vs => vs

def Value.scanEntries (s : IdScan) : List (String × Value) → IdScan
  | [] => s
  | (_, v) :: es => Value.scanEntries (v.scanIds s) es
termination_by structural es => es

end

/-! ## Amending -/

/-- What becomes of a node. -/
inductive Outcome where
  | unchanged
  | removed
  | replaced (node : Node)

mutual

/-- Offer the node, then those below it, to an edit until it takes one. -/
def Node.amend (edit : Node → Option Outcome) : Node → Outcome
  | .mk id kind tier fields =>
      match edit (.mk id kind tier fields) with
      | some outcome => outcome
      | none =>
          match Value.amendEntries edit fields with
          | some (key, v) => .replaced ((Node.mk id kind tier fields).withField key v)
          | none => .unchanged
termination_by structural n => n

/-- The changed value. A node that is removed leaves null. -/
def Value.amend (edit : Node → Option Outcome) : Value → Option Value
  | .node n =>
      match n.amend edit with
      | .unchanged => none
      | .removed => some .null
      | .replaced m => some (.node m)
  | .list items => (Value.amendItems edit items).map .list
  | .object entries =>
      (Value.amendEntries edit entries).map fun e => .object (Entries.insert e.1 e.2 entries)
  | _ => none
termination_by structural v => v

/-- The changed list. A node that is removed leaves no gap. -/
def Value.amendItems (edit : Node → Option Outcome) : List Value → Option (List Value)
  | [] => none
  | .node n :: vs =>
      match n.amend edit with
      | .unchanged => (Value.amendItems edit vs).map (.node n :: ·)
      | .removed => some vs
      | .replaced m => some (.node m :: vs)
  | v :: vs =>
      match v.amend edit with
      | some w => some (w :: vs)
      | none => (Value.amendItems edit vs).map (v :: ·)
termination_by structural vs => vs

/-- The first entry that changes, with its new value. -/
def Value.amendEntries (edit : Node → Option Outcome) :
    List (String × Value) → Option (String × Value)
  | [] => none
  | (key, v) :: es =>
      match v.amend edit with
      | some w => some (key, w)
      | none => Value.amendEntries edit es
termination_by structural es => es

end

namespace Tree

/-- The changed body, if the edit takes a node. -/
def amend? (edit : Node → Option Outcome) : Body → Option Body
  | [] => none
  | n :: ns =>
      match n.amend edit with
      | .unchanged => (amend? edit ns).map (n :: ·)
      | .removed => some ns
      | .replaced m => some (m :: ns)

/-- An identity that would occur twice if `incoming` came into the tree in place of `replaced`. -/
def clash? (body : Body) (incoming : Value) (replaced : Option Value) : Option NodeId :=
  let arriving := incoming.scanIds {}
  match arriving.repeated with
  | some id => some id
  | none =>
      let leaving :=
        match replaced with
        | some v => (v.scanIds {}).seen
        | none => []
      (ids body).find? fun id => arriving.seen.contains id && !leaving.contains id

/-- Put a node into the slot of its parent; a parent without one is passed by. -/
def insertAt (parent : NodeId) (node : Node) (index : Option Nat) (candidate : Node) :
    Option Outcome :=
  if candidate.id = parent then
    match candidate.insertionSlot? with
    | some slot => some (.replaced (candidate.insertChild slot node index))
    | none => some .unchanged
  else none

/-- Insert a node under a parent, or at the top, at an index or at the end. -/
def insert (body : Body) (parent : Option NodeId) (node : Node) (index : Option Nat) : Body :=
  match clash? body (.node node) none with
  | some _ => body
  | none =>
      match parent with
      | none => body.insertIdx (Node.place index body.length) node
      | some parent => (amend? (insertAt parent node index) body).getD body

/-- Take a node away. -/
def removeAt (id : NodeId) (candidate : Node) : Option Outcome :=
  if candidate.id = id then some .removed else none

/-- Remove a node and all below it. -/
def remove (body : Body) (id : NodeId) : Body :=
  (amend? (removeAt id) body).getD body

/-- Set a field of a node. -/
def updateAt (id : NodeId) (key : String) (value : Value) (candidate : Node) : Option Outcome :=
  if candidate.id = id then some (.replaced (candidate.withField key value)) else none

/-- Set a field of the node with an identity. -/
def updateProperty (body : Body) (id : NodeId) (key : String) (value : Value) : Body :=
  if Node.isReserved key then body
  else
    match find? id body with
    | none => body
    | some target =>
        match clash? body value (target.get? key) with
        | some _ => body
        | none => (amend? (updateAt id key value) body).getD body

end Tree

end HandlerStudio
