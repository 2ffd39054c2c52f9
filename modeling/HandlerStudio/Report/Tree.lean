import HandlerStudio.Json.Printer
import HandlerStudio.Node.Json
import HandlerStudio.Outline
import HandlerStudio.Report.Basic
import HandlerStudio.Tree.Stats

/-!
# Reports of nodes and trees
-/

namespace HandlerStudio

namespace Node

/-- Where the nodes in a field are, and what the field could take. -/
def fieldReport (n : Node) (key : String) (v : Value) : Json :=
  .ofEntries [("child", .ofOption (NodeId.toJson ∘ Node.id) (n.child? key)),
    ("slot", NodeId.listJson ((n.slot key).map Node.id)), ("node_list", .bool v.isNodeList),
    ("populated", .bool v.isPopulatedNodeList)]

def report (n : Node) : Json :=
  .ofEntries [("id", n.id.toJson), ("type", .string n.typeName), ("tier", .nat n.tier.toNat),
    ("text", .string n.streamed.compactText), ("json_text", .string n.toJson.compactText),
    ("children", NodeId.listJson (n.children.map Node.id)), ("slots", .texts n.slots),
    ("insertion", .ofText? n.insertionSlot?),
    ("fields", .ofEntries (n.fields.map fun (key, v) => (key, n.fieldReport key v)))]

end Node

namespace Value

/-- What a value is. -/
def shapeName : Value → String
  | .null => "null"
  | .bool _ => "bool"
  | .number _ => "number"
  | .text _ => "string"
  | .node _ => "node"
  | .list _ => "list"
  | .object _ => "object"

end Value

/-- A kind as a palette offers it. -/
def Kind.entryJson (k : Kind) : Json :=
  .ofEntries [("kind", .string k.typeName), ("key", .string k.shortName),
    ("label", .string k.label), ("category", .string k.category.name),
    ("tier", .nat k.tier.toNat)]

/-- A kind with what a new node of it looks like. -/
def Kind.report (id : NodeId) (k : Kind) : Json :=
  let n := Node.new id k
  .ofEntries [("type", .string k.typeName), ("display", .string k.typeName),
    ("short", .string k.shortName), ("label", .string k.label), ("tier", .nat k.tier.toNat),
    ("category", .string k.category.name),
    ("template", .array (k.template.map fun (key, v) => .array [.string key, v.toJson])),
    ("slots", .texts n.slots), ("insertion", .ofText? n.insertionSlot?), ("node", n.toJson)]

namespace TreeStats

def toJson (s : TreeStats) : Json :=
  .ofEntries [("nodes", .nat s.nodes), ("max_depth", .nat s.maxDepth),
    ("by_tier", .array (s.byTier.toList.map .nat)),
    ("has_native_bridge", .bool s.hasNativeBridge)]

/-- The summary with what follows from it. -/
def report (s : TreeStats) : Json :=
  .ofEntries [("stats", s.toJson), ("worst", .ofOption (fun t => .nat t.toNat) s.worstTier?),
    ("portable", .bool s.isFullyPortable),
    ("counts", .array (Tier.all.map fun t => .nat (s.count t)))]

end TreeStats

def Row.toJson (r : Row) : Json :=
  .ofEntries [("id", r.id.toJson), ("depth", .nat r.depth), ("slot", .ofText? r.slot),
    ("label", .string r.label), ("tier", .nat r.tier.toNat)]

namespace Tree

def toJson (body : Body) : Json := .array (body.map Node.toJson)

/-- The nodes in the order of a walk. -/
def walkJson (body : Body) : Json :=
  .array ((walk body).map fun (depth, n) =>
    .array [.nat depth, .string n.typeName, n.id.toJson])

/-- The text of a body as it is stored. -/
def streamedText (body : Body) : String := (Json.array (body.map Node.streamed)).compactText

end Tree

end HandlerStudio
