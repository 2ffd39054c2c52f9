import HandlerStudio.Handler.Basic
import HandlerStudio.Json.Ignored
import HandlerStudio.Node.Json

/-!
# Stored handlers

The text of a handler is an object: `name`, `isAsync`, `params`, `returnType` if there is one,
`body`, and then the further entries. Reading needs only the name. A stored body has to name each
node once.
-/

namespace HandlerStudio

/-! ## Writing -/

def Param.toJson (p : Param) : Json :=
  .object [("name", .string p.name), ("type", .string p.typeName), ("optional", .bool p.optional)]

namespace Handler

/-- The entry for the return type, if there is one. -/
def returnTypeEntry (h : Handler) : List (String × Json) :=
  match h.returnType with
  | some t => [("returnType", .string t)]
  | none => []

/-- The handler as data. A further entry may repeat a key of the fixed ones. -/
def toJson (h : Handler) : Json :=
  .object ([("name", .string h.name), ("isAsync", .bool h.isAsync),
      ("params", .array (h.params.map Param.toJson))] ++ h.returnTypeEntry
    ++ [("body", .array (h.body.map Node.streamed))] ++ h.extra)

/-- The text that is stored. -/
def text (h : Handler) : String := h.toJson.prettyText

end Handler

/-! ## Reading -/

namespace Param

/-- A parameter as far as it is read. -/
structure Parts where
  name? : Option String := none
  typeName? : Option String := none
  optional? : Option Bool := none

/-- Read an entry; keys that mean nothing here are passed over. -/
def Parts.entry (p : Parts) (key : String) (cs : List Char) :
    Except Json.Fault (Parts × List Char) := do
  if key = "name" then
    let (a, cs) ← Json.Read.setOnce key p.name? Json.Read.text cs
    return ({ p with name? := a }, cs)
  else if key = "type" then
    let (a, cs) ← Json.Read.setOnce key p.typeName? Json.Read.text cs
    return ({ p with typeName? := a }, cs)
  else if key = "optional" then
    let (a, cs) ← Json.Read.setOnce key p.optional? Json.Read.boolean cs
    return ({ p with optional? := a }, cs)
  else
    return (p, ← Json.Read.ignored (← Json.Read.colon cs))

/-- A parameter as an object. -/
def readEntries : Json.Reader Param
  | _, cs => do
      let (p, cs) ← Json.Read.members Parts.entry {} cs
      let name ← Json.Read.require "name" p.name?
      let typeName ← Json.Read.require "type" p.typeName?
      return (⟨name, typeName, p.optional?.getD false⟩, cs)

/-- The fault of a list with too few fields. -/
def tooShort (n : Nat) : Json.Fault :=
  .mismatch (.wrongLength n "struct Param with 3 elements")

/-- A parameter as a list; the last field may be left out. -/
def readFields : Json.Reader Param
  | _, cs => do
      match ← Json.Read.nextItem true cs with
      | .closed _ => throw (tooShort 0)
      | .another cs =>
          let (name, cs) ← Json.Read.text cs
          match ← Json.Read.nextItem false cs with
          | .closed _ => throw (tooShort 1)
          | .another cs =>
              let (typeName, cs) ← Json.Read.text cs
              match ← Json.Read.nextItem false cs with
              | .closed cs => return (⟨name, typeName, false⟩, cs)
              | .another cs =>
                  let (optional, cs) ← Json.Read.boolean cs
                  return (⟨name, typeName, optional⟩, ← Json.Read.endList cs)

def read : Json.Reader Param :=
  Json.Read.record "struct Param" readFields readEntries

end Param

/-- Why a text is no stored handler. -/
inductive DocumentError where
  | unreadable (fault : Json.Fault)
  | duplicateIds (ids : List NodeId)
deriving DecidableEq

/-- An identity as messages show it. -/
def NodeId.shown (id : NodeId) : String :=
  "NodeId(" ++ Text.quoted id.text ++ ")"

/-- What a message says of a fault. -/
def Json.Fault.message : Json.Fault → String
  | .malformed => "malformed text"
  | .truncated => "unexpected end of text"
  | .mismatch cause => cause.message

def DocumentError.message : DocumentError → String
  | .unreadable fault => "invalid handler document: " ++ fault.message
  | .duplicateIds ids =>
      "duplicate node ids in body: [" ++ ", ".intercalate (ids.map NodeId.shown) ++ "]"

namespace Handler

/-- A handler as far as it is read. -/
structure Parts where
  name? : Option String := none
  isAsync? : Option Bool := none
  params? : Option (List Param) := none
  returnType? : Option (Option String) := none
  body? : Option (List Draft) := none
  extra : List (String × Json) := []

/-- Read an entry; those with an unknown key are kept. -/
def Parts.entry (limit : Nat) (p : Parts) (key : String) (cs : List Char) :
    Except Json.Fault (Parts × List Char) := do
  if key = "name" then
    let (a, cs) ← Json.Read.setOnce key p.name? Json.Read.text cs
    return ({ p with name? := a }, cs)
  else if key = "isAsync" then
    let (a, cs) ← Json.Read.setOnce key p.isAsync? Json.Read.boolean cs
    return ({ p with isAsync? := a }, cs)
  else if key = "params" then
    let (a, cs) ← Json.Read.setOnce key p.params? (Json.Read.list Param.read limit) cs
    return ({ p with params? := a }, cs)
  else if key = "returnType" then
    let (a, cs) ← Json.Read.setOnce key p.returnType? Json.Read.optionalText cs
    return ({ p with returnType? := a }, cs)
  else if key = "body" then
    let (a, cs) ← Json.Read.setOnce key p.body? (Json.Read.list Draft.read limit) cs
    return ({ p with body? := a }, cs)
  else
    let (j, cs) ← Json.Read.value limit (← Json.Read.colon cs)
    return ({ p with extra := Entries.insert key j p.extra }, cs)

/-- Read a handler whose nodes may lack identities. -/
def readParts : Json.Reader Parts
  | limit, cs =>
      match Json.Read.skipSpace cs with
      | [] => .error .truncated
      | '\x7b' :: cs =>
          match limit with
          | 0 => .error .malformed
          | limit + 1 => do
              let (p, cs) ← Json.Read.members (Parts.entry limit) {} cs
              let _ ← Json.Read.require "name" p.name?
              return (p, cs)
      | cs => .error (Json.Read.wrongType "struct HandlerSpec" cs)

/-- The handler, with identities for the nodes that lack one. -/
def Parts.complete (supply : IdSupply) (p : Parts) : Handler × IdSupply :=
  let (body, supply) := Draft.identifyAll supply (p.body?.getD [])
  ({ name := p.name?.getD "", isAsync := p.isAsync?.getD false, params := p.params?.getD [],
      returnType := p.returnType?.getD none, body, extra := p.extra }, supply)

/-- Read a handler, with identities for the nodes that lack one. -/
def decode (supply : IdSupply) (text : String) : Except Json.Fault (Handler × IdSupply) := do
  return (← Json.parseWith readParts text).complete supply

/-- Each node of the body is named once. -/
def validate (h : Handler) : Except DocumentError Unit :=
  match Tree.duplicateIds h.body with
  | [] => .ok ()
  | ids => .error (.duplicateIds ids)

/-- The handler that a text stores. -/
def ofText (supply : IdSupply) (text : String) : Except DocumentError (Handler × IdSupply) :=
  match decode supply text with
  | .error fault => .error (.unreadable fault)
  | .ok (h, supply) => do
      h.validate
      return (h, supply)

end Handler

end HandlerStudio
