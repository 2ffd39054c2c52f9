import HandlerStudio.Entries
import HandlerStudio.Node.Identity
import HandlerStudio.Node.Kind
import HandlerStudio.Number.Basic

/-!
# Nodes and the values of their fields

A node has an identity, a kind, a tier, and fields in key order. A field's value is plain data
that may hold further nodes: directly, in a list, or in a plain object. A list of nodes only is a
slot, where more nodes can be inserted.

A plain object that carries an `id`, a `tier` and the name of a kind as its `type` would be taken
for a node when read back. `Value.holdsNodeShape` finds such objects, and `Node.withField` refuses
them.
-/

namespace HandlerStudio

mutual

/-- The value of a field. -/
inductive Value where
  | null
  | bool (value : Bool)
  | number (value : Number)
  | text (value : String)
  | node (node : Node)
  | list (items : List Value)
  | object (entries : List (String × Value))

/-- An element of a handler tree. -/
inductive Node where
  | mk (id : NodeId) (kind : Kind) (tier : Tier) (fields : List (String × Value))

end

instance : Inhabited Value := ⟨.null⟩

/-- The statements of a handler, in order. -/
abbrev Body := List Node

namespace Node

def id : Node → NodeId
  | .mk id _ _ _ => id

def kind : Node → Kind
  | .mk _ kind _ _ => kind

def tier : Node → Tier
  | .mk _ _ tier _ => tier

/-- The fields in key order. -/
def fields : Node → List (String × Value)
  | .mk _ _ _ fields => fields

@[simp] theorem eta (n : Node) : Node.mk n.id n.kind n.tier n.fields = n := by cases n; rfl

def typeName (n : Node) : String := n.kind.typeName

end Node

/-! ## Equality -/

mutual

/-- Equality of values, with that of numbers. -/
def Value.same : Value → Value → Bool
  | .null, .null => true
  | .bool a, .bool b => a == b
  | .number a, .number b => a.same b
  | .text a, .text b => a == b
  | .node a, .node b => a.same b
  | .list as, .list bs => Value.sameItems as bs
  | .object as, .object bs => Value.sameEntries as bs
  | _, _ => false
termination_by structural a => a

/-- Equality of nodes, fields included. -/
def Node.same : Node → Node → Bool
  | .mk i k t fs, .mk j l u gs => i == j && k == l && t == u && Value.sameEntries fs gs
termination_by structural a => a

def Value.sameItems : List Value → List Value → Bool
  | [], [] => true
  | a :: as, b :: bs => a.same b && Value.sameItems as bs
  | _, _ => false
termination_by structural as => as

def Value.sameEntries : List (String × Value) → List (String × Value) → Bool
  | [], [] => true
  | (k, a) :: as, (l, b) :: bs => k == l && a.same b && Value.sameEntries as bs
  | _, _ => false
termination_by structural as => as

end

instance : BEq Value := ⟨Value.same⟩

instance : BEq Node := ⟨Node.same⟩

/-! ## Values -/

namespace Value

/-- A list of nodes. -/
def nodes (ns : List Node) : Value := .list (ns.map .node)

/-- The node, or null. -/
def ofNode? : Option Node → Value
  | some n => .node n
  | none => .null

def isNull : Value → Bool
  | .null => true
  | _ => false

def asNode? : Value → Option Node
  | .node n => some n
  | _ => none

def asText? : Value → Option String
  | .text s => some s
  | _ => none

def asBool? : Value → Option Bool
  | .bool b => some b
  | _ => none

/-- A whole number that fits a signed 64-bit word. -/
def asInt? : Value → Option Int
  | .number n => n.toInt64?
  | _ => none

def asList? : Value → Option (List Value)
  | .list vs => some vs
  | _ => none

def isNode (v : Value) : Bool := v.asNode?.isSome

/-- A list that holds nodes only. The empty list is one. -/
def isNodeList : Value → Bool
  | .list vs => vs.all isNode
  | _ => false

/-- A list of at least one node and nothing else. -/
def isPopulatedNodeList : Value → Bool
  | .list [] => false
  | v => v.isNodeList

/-- Whether the entries are those of a node: a known `type`, a text or number as `id`, a `tier`. -/
def nodeShaped (entries : List (String × Value)) : Bool :=
  (match Entries.get? "type" entries with
    | some (.text name) => (Kind.ofName? name).isSome
    | _ => false)
  && (match Entries.get? "id" entries with
    | some (.text _) => true
    | some (.number _) => true
    | _ => false)
  && Entries.has "tier" entries

mutual

/-- Whether a plain object shaped like a node occurs outside of nodes. -/
def holdsNodeShape : Value → Bool
  | .object entries => nodeShaped entries || entriesHoldNodeShape entries
  | .list items => itemsHoldNodeShape items
  | _ => false
termination_by structural v => v

def itemsHoldNodeShape : List Value → Bool
  | [] => false
  | v :: vs => holdsNodeShape v || itemsHoldNodeShape vs
termination_by structural vs => vs

def entriesHoldNodeShape : List (String × Value) → Bool
  | [] => false
  | (_, v) :: es => holdsNodeShape v || entriesHoldNodeShape es
termination_by structural es => es

end

mutual

/-- The outermost nodes of a value, from left to right. -/
def children : Value → List Node
  | .node n => [n]
  | .list items => childrenOfItems items
  | .object entries => childrenOfEntries entries
  | _ => []
termination_by structural v => v

def childrenOfItems : List Value → List Node
  | [] => []
  | v :: vs => children v ++ childrenOfItems vs
termination_by structural vs => vs

def childrenOfEntries : List (String × Value) → List Node
  | [] => []
  | (_, v) :: es => children v ++ childrenOfEntries es
termination_by structural es => es

end

theorem childrenOfItems_eq (vs : List Value) : childrenOfItems vs = vs.flatMap children := by
  induction vs with
  | nil => rfl
  | cons v vs ih => simp [childrenOfItems, ih]

theorem childrenOfEntries_eq (es : List (String × Value)) :
    childrenOfEntries es = es.flatMap fun e => e.2.children := by
  induction es with
  | nil => rfl
  | cons e es ih => obtain ⟨k, v⟩ := e; simp [childrenOfEntries, ih]

end Value

/-! ## Nodes -/

/-- The fields of a new node, before it is filled in. -/
def Kind.template : Kind → List (String × Value)
  | .letStatement => [("name", .text ""), ("mutable", .bool false), ("value", .null)]
  | .ifStatement => [("condition", .null), ("body", .list []), ("elseBody", .list [])]
  | .forStatement => [("variable", .text "item"), ("iterable", .null), ("body", .list [])]
  | .whileStatement => [("condition", .null), ("body", .list [])]
  | .returnStatement => [("value", .null)]
  | .throwStatement => [("value", .null)]
  | .tryCatchStatement =>
      [("tryBody", .list []), ("catchParam", .text "error"), ("catchBody", .list [])]
  | .matchStatement => [("subject", .null), ("arms", .list [])]
  | .literal => [("value", .null)]
  | .identifier => [("name", .text "")]
  | .binaryExpression => [("operator", .text "+"), ("left", .null), ("right", .null)]
  | .callExpression => [("callee", .null), ("arguments", .list [])]
  | .memberExpression => [("object", .null), ("property", .text ""), ("computed", .bool false)]
  | .objectExpression => [("properties", .list [])]
  | .arrayExpression => [("elements", .list [])]
  | .templateLiteral => [("quasis", .list [.text ""]), ("expressions", .list [])]
  | .dbQuery => [("model", .text ""), ("operation", .text "findMany"), ("filter", .null)]
  | .dbMutate =>
      [("model", .text ""), ("operation", .text "create"), ("data", .null), ("filter", .null)]
  | .httpRespond => [("status", .number (.int 200)), ("body", .null)]
  | .ctxGet => [("source", .text "params"), ("key", .text "")]
  | .validate => [("schema", .text ""), ("input", .null)]
  | .hashPassword => [("input", .null)]
  | .signToken => [("payload", .null), ("expiresIn", .text "1h")]
  | .nativeBridge => [("language", .text "typescript"), ("code", .text "")]

namespace Node

/-- Keys of the node header, which are no fields. -/
def reservedKeys : List String := ["id", "type", "tier"]

def isReserved (key : String) : Bool := reservedKeys.contains key

/-- A node of a kind, with the kind's template. -/
def new (id : NodeId) (kind : Kind) : Node :=
  .mk id kind kind.tier (Entries.ofList kind.template)

/-- A node from its parts; header keys among the fields are dropped. -/
def ofParts (id : NodeId) (kind : Kind) (tier : Tier) (fields : List (String × Value)) : Node :=
  .mk id kind tier (Entries.ofList (fields.filter fun e => !isReserved e.1))

def get? (key : String) (n : Node) : Option Value := Entries.get? key n.fields

/-- The node that is the value of a field. -/
def child? (key : String) (n : Node) : Option Node :=
  (n.get? key).bind Value.asNode?

/-- The nodes of a slot. -/
def slot (key : String) (n : Node) : List Node :=
  match n.get? key with
  | some v => if v.isNodeList then v.children else []
  | none => []

/-- The nodes directly below, in key order of the fields they are in. -/
def children (n : Node) : List Node := Value.childrenOfEntries n.fields

/-- The fields that are slots. -/
def slots (n : Node) : List String :=
  (n.fields.filter fun e => e.2.isNodeList).map Prod.fst

/-- Slots that take a new node before any other. -/
def slotPriority : List String :=
  ["body", "tryBody", "catchBody", "elseBody", "elements", "arguments", "properties", "arms"]

/-- The slot that a new node goes to: the first by priority, else the first that is in use. -/
def insertionSlot? (n : Node) : Option String :=
  match slotPriority.find? fun key => (n.get? key).any Value.isNodeList with
  | some key => some key
  | none => (n.fields.find? fun e => e.2.isPopulatedNodeList).map Prod.fst

/-- Set a field. Header keys and values that hold an object shaped like a node are refused, and the
node stays as it is. -/
def withField (key : String) (value : Value) (n : Node) : Node :=
  if isReserved key || value.holdsNodeShape then n
  else .mk n.id n.kind n.tier (Entries.insert key value n.fields)

/-- The place for a new item in a list of the given length: the index asked for, or the end. -/
def place (index : Option Nat) (length : Nat) : Nat :=
  match index with
  | some i => min i length
  | none => length

/-- Insert a node into a slot. -/
def insertChild (n : Node) (key : String) (child : Node) (index : Option Nat) : Node :=
  let items := ((n.get? key).bind Value.asList?).getD []
  n.withField key (.list (items.insertIdx (place index items.length) (.node child)))

end Node

/-! ## Order of keys -/

mutual

/-- Fields and objects have their keys in order, at every depth. -/
def Value.Ordered : Value → Prop
  | .node n => n.Ordered
  | .list items => Value.OrderedItems items
  | .object entries => Entries.Sorted entries ∧ Value.OrderedEntries entries
  | _ => True
termination_by structural v => v

/-- Fields and objects have their keys in order, at every depth. -/
def Node.Ordered : Node → Prop
  | .mk _ _ _ fields => Entries.Sorted fields ∧ Value.OrderedEntries fields
termination_by structural n => n

def Value.OrderedItems : List Value → Prop
  | [] => True
  | v :: vs => v.Ordered ∧ Value.OrderedItems vs
termination_by structural vs => vs

def Value.OrderedEntries : List (String × Value) → Prop
  | [] => True
  | (_, v) :: es => v.Ordered ∧ Value.OrderedEntries es
termination_by structural es => es

end

end HandlerStudio
