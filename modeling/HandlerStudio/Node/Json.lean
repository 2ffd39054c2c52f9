import HandlerStudio.Json.Printer
import HandlerStudio.Json.Record
import HandlerStudio.Node.Basic
import HandlerStudio.Node.Error

/-!
# Nodes as structured data

A node is written as an object of its header and its fields. There are two encodings: `Node.toJson`
sorts the header keys in with the fields, and `Node.streamed` puts `id`, `type` and `tier` first.

Reading takes an object for a node if it has a known `type`, a text or number as `id`, and a `tier`;
any other object stays plain. The outermost object is always read as a node, so it may lack an `id`,
and gets a fresh one, and a `tier`, and gets that of its kind.
-/

namespace HandlerStudio

/-! ## Writing -/

mutual

/-- The value with all keys in order. -/
def Value.toJson : Value → Json
  | .null => .null
  | .bool b => .bool b
  | .number n => .number n
  | .text s => .string s
  | .node n => n.toJson
  | .list items => .array (Value.itemsToJson items)
  | .object entries => .object (Value.entriesToJson entries)
termination_by structural v => v

/-- The node with all keys in order. -/
def Node.toJson : Node → Json
  | .mk id kind tier fields =>
      .object ((Value.entriesToJson fields).foldl (fun es e => Entries.insert e.1 e.2 es)
        [("id", .string id.text), ("tier", .nat tier.toNat), ("type", .string kind.typeName)])
termination_by structural n => n

def Value.itemsToJson : List Value → List Json
  | [] => []
  | v :: vs => v.toJson :: Value.itemsToJson vs
termination_by structural vs => vs

def Value.entriesToJson : List (String × Value) → List (String × Json)
  | [] => []
  | (k, v) :: es => (k, v.toJson) :: Value.entriesToJson es
termination_by structural es => es

end

mutual

/-- The value with node headers first. -/
def Value.streamed : Value → Json
  | .null => .null
  | .bool b => .bool b
  | .number n => .number n
  | .text s => .string s
  | .node n => n.streamed
  | .list items => .array (Value.itemsStreamed items)
  | .object entries => .object (Value.entriesStreamed entries)
termination_by structural v => v

/-- The node with its header first, then the fields in key order. -/
def Node.streamed : Node → Json
  | .mk id kind tier fields =>
      .object (("id", .string id.text) :: ("type", .string kind.typeName)
        :: ("tier", .nat tier.toNat) :: Value.entriesStreamed fields)
termination_by structural n => n

def Value.itemsStreamed : List Value → List Json
  | [] => []
  | v :: vs => v.streamed :: Value.itemsStreamed vs
termination_by structural vs => vs

def Value.entriesStreamed : List (String × Value) → List (String × Json)
  | [] => []
  | (k, v) :: es => (k, v.streamed) :: Value.entriesStreamed es
termination_by structural es => es

end

/-! ## Reading -/

namespace Node

/-- The kind that the header names. -/
def headerKind (entries : List (String × Json)) : Except NodeError Kind :=
  match Entries.get? "type" entries with
  | some (.string name) =>
      match Kind.ofName? name with
      | some kind => .ok kind
      | none => .error (.unknownType name)
  | _ => .error (.malformed "missing string `type`")

/-- The identity in the header, if it has one; a number counts as its text. -/
def headerId? (entries : List (String × Json)) : Except NodeError (Option NodeId) :=
  match Entries.get? "id" entries with
  | some (.string raw) => .ok (some ⟨raw⟩)
  | some (.number n) => .ok (some ⟨String.ofList n.text⟩)
  | none => .ok none
  | some .null => .ok none
  | some other => .error (.malformed ("unsupported id: " ++ other.compactText))

/-- The tier in the header; a missing one is that of the kind. -/
def headerTier (kind : Kind) (entries : List (String × Json)) : Except NodeError Tier :=
  match Entries.get? "tier" entries with
  | none => .ok kind.tier
  | some .null => .ok kind.tier
  | some (.number n) =>
      match n.toNat64? with
      | none => .error (.malformed ("non-integer tier: " ++ String.ofList n.text))
      | some raw =>
          match Tier.ofNat? raw with
          | some tier => .ok tier
          | none => .error (.invalidTier raw)
  | some other => .error (.malformed ("unsupported tier: " ++ other.compactText))

end Node

/-- Whether an object is read as a node. -/
def Json.looksLikeNode (entries : List (String × Json)) : Bool :=
  (match Entries.get? "type" entries with
    | some (.string name) => (Kind.ofName? name).isSome
    | _ => false)
  && (match Entries.get? "id" entries with
    | some (.string _) => true
    | some (.number _) => true
    | _ => false)
  && Entries.has "tier" entries

/-- A node that may still lack its identity. -/
structure Draft where
  id? : Option NodeId
  kind : Kind
  tier : Tier
  fields : List (String × Value)

/-- The node, with the given identity if it has none of its own. -/
def Draft.complete (fresh : NodeId) (d : Draft) : Node :=
  .ofParts (d.id?.getD fresh) d.kind d.tier d.fields

/-- The node, with an identity from the supply if it has none of its own. -/
def Draft.identify (supply : IdSupply) (d : Draft) : Node × IdSupply :=
  match d.id? with
  | some id => (d.complete id, supply)
  | none => (d.complete supply.draw.1, supply.draw.2)

/-- Nodes with their identities, drawn from left to right. -/
def Draft.identifyAll (supply : IdSupply) : List Draft → List Node × IdSupply
  | [] => ([], supply)
  | d :: ds =>
      let (n, supply) := d.identify supply
      let (ns, supply) := identifyAll supply ds
      (n :: ns, supply)

/-- Kind, identity and tier, checked in this order; the fields are still to come. -/
def Draft.header (entries : List (String × Json)) : Except NodeError Draft := do
  let kind ← Node.headerKind entries
  let id? ← Node.headerId? entries
  let tier ← Node.headerTier kind entries
  return ⟨id?, kind, tier, []⟩

mutual

/-- The value that data stands for. -/
def Value.ofJson : Json → Except NodeError Value
  | .null => .ok .null
  | .bool b => .ok (.bool b)
  | .number n => .ok (.number n)
  | .string s => .ok (.text s)
  | .array items => do return .list (← Value.itemsOfJson items)
  | .object entries =>
      if Json.looksLikeNode entries then do
        -- such an object has an identity of its own, so the one given here is not used
        let header ← Draft.header entries
        return .node (({ header with fields := ← Value.fieldsOfJson entries } : Draft).complete
          ⟨""⟩)
      else do
        return .object (← Value.entriesOfJson entries)
termination_by structural j => j

def Value.itemsOfJson : List Json → Except NodeError (List Value)
  | [] => .ok []
  | j :: js => do
      let v ← Value.ofJson j
      return v :: (← Value.itemsOfJson js)
termination_by structural js => js

def Value.entriesOfJson : List (String × Json) → Except NodeError (List (String × Value))
  | [] => .ok []
  | (k, j) :: es => do
      let v ← Value.ofJson j
      return (k, v) :: (← Value.entriesOfJson es)
termination_by structural es => es

/-- The entries beside the header. -/
def Value.fieldsOfJson : List (String × Json) → Except NodeError (List (String × Value))
  | [] => .ok []
  | (k, j) :: es =>
      if Node.isReserved k then Value.fieldsOfJson es
      else do
        let v ← Value.ofJson j
        return (k, v) :: (← Value.fieldsOfJson es)
termination_by structural es => es

end

/-- What an object says of a node. -/
def Draft.ofJson : Json → Except NodeError Draft
  | .object entries => do
      let header ← Draft.header entries
      return { header with fields := ← Value.fieldsOfJson entries }
  | _ => .error (.malformed "expected an object")

/-- The node that an object stands for; `fresh` is its identity if it has none of its own. -/
def Node.ofJson (fresh : NodeId) (j : Json) : Except NodeError Node := do
  return (← Draft.ofJson j).complete fresh

/-! ## Reading texts -/

/-- A refused node is a mismatch of the text it was read from. -/
def NodeError.fault (e : NodeError) : Json.Fault :=
  .mismatch (.refused e.message)

/-- Read a value: first as plain data, as a whole. -/
def Value.read : Json.Reader Value
  | limit, cs => do
      let (j, cs) ← Json.Read.value limit cs
      match Value.ofJson j with
      | .ok v => return (v, cs)
      | .error e => throw e.fault

/-- Read a node: first as plain data, as a whole. -/
def Draft.read : Json.Reader Draft
  | limit, cs => do
      let (j, cs) ← Json.Read.value limit cs
      match Draft.ofJson j with
      | .ok d => return (d, cs)
      | .error e => throw e.fault

/-- Read a tier, a number from 0 to 3. -/
def Tier.read : Json.Reader Tier
  | _, cs => do
      let (n, cs) ← Json.Read.byte cs
      match Tier.ofNat? n with
      | some tier => return (tier, cs)
      | none => throw (NodeError.invalidTier n).fault

/-- Read a kind by its stored name. -/
def Kind.read : Json.Reader Kind :=
  Json.Read.choice (Kind.all.map fun k => (k.typeName, k))

/-- Read a category by its name. -/
def Category.read : Json.Reader Category :=
  Json.Read.choice (Category.all.map fun c => (c.name, c))

/-- Read an identity, a text. -/
def NodeId.read : Json.Reader NodeId
  | _, cs => do
      let (s, cs) ← Json.Read.text cs
      return (⟨s⟩, cs)

end HandlerStudio
