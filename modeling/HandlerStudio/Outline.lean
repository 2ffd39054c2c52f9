import HandlerStudio.Text.Quoted
import HandlerStudio.Tree.Basic

/-!
# Outlines

An outline has a row for each node of a body, with a label. Which renderer writes the label depends
on the type of the node: a `Gallery` holds renderers by type name, and one for all other types.
-/

namespace HandlerStudio

/-! ## Labels -/

/-- A way to write labels. -/
structure Renderer where
  name : String
  label : Node → String

namespace Renderer

/-- The text of a field, empty if there is none. -/
def textOf (key : String) (n : Node) : String :=
  ((n.get? key).bind Value.asText?).getD ""

/-- The text of a field, or a line to show that it is empty. -/
def filled (key : String) (n : Node) : String :=
  let s := textOf key n
  if s.isEmpty then "_" else s

/-- How many lines a text has. A line break at the end begins no further line. -/
def lineCount (s : String) : Nat :=
  let breaks := s.toList.count '\n'
  match s.toList.getLast? with
  | none | some '\n' => breaks
  | some _ => breaks + 1

def statementLabel (n : Node) : String :=
  match n.kind with
  | .letStatement =>
      let keyword :=
        if (n.get? "mutable").bind Value.asBool? == some true then "let mut" else "let"
      keyword ++ " " ++ filled "name" n
  | .forStatement => "for " ++ filled "variable" n
  | .tryCatchStatement => "try / catch " ++ filled "catchParam" n
  | .matchStatement =>
      let arms := (n.slot "arms").length
      s!"match ({arms} arms)"
  | kind => kind.label

def domainLabel (n : Node) : String :=
  match n.kind with
  | .dbQuery | .dbMutate => filled "model" n ++ "." ++ filled "operation" n
  | .httpRespond =>
      let status := ((n.get? "status").bind Value.asInt?).getD 200
      "respond " ++ String.ofList (Number.intText status)
  | .ctxGet => filled "source" n ++ "." ++ filled "key" n
  | .signToken => "sign token (" ++ filled "expiresIn" n ++ ")"
  | kind => kind.label

def bridgeLabel (n : Node) : String :=
  let lines := lineCount (textOf "code" n)
  "native " ++ filled "language" n ++ s!" ({lines} lines)"

def genericLabel (n : Node) : String :=
  match n.kind with
  | .identifier => filled "name" n
  | .binaryExpression => "binary " ++ textOf "operator" n
  | .literal =>
      match n.get? "value" with
      | some (.text s) => Text.quoted s
      | some (.number x) => String.ofList x.text
      | some (.bool true) => "true"
      | some (.bool false) => "false"
      | _ => "null"
  | kind => kind.label

/-- For control flow. -/
def statement : Renderer := ⟨"statement", statementLabel⟩

/-- For what handlers do to the world. -/
def domain : Renderer := ⟨"domain", domainLabel⟩

/-- For code in one language. -/
def bridge : Renderer := ⟨"bridge", bridgeLabel⟩

/-- For everything else. -/
def generic : Renderer := ⟨"generic", genericLabel⟩

/-- The renderer that a category has of its own. -/
def ofCategory? : Category → Option Renderer
  | .statement => some statement
  | .domain => some domain
  | .bridge => some bridge
  | .expression => none

end Renderer

/-! ## Galleries -/

/-- Renderers by type name. -/
structure Gallery where
  /-- The renderers, by type name in order. -/
  renderers : List (String × Renderer) := []
  fallback : Renderer := .generic

namespace Gallery

/-- Use a renderer for a type from now on. -/
def register (typeName : String) (r : Renderer) (g : Gallery) : Gallery :=
  { g with renderers := Entries.insert typeName r g.renderers }

/-- The renderer of each kind that has one by its category. -/
def standard : Gallery :=
  Kind.all.foldl (fun g k =>
    match Renderer.ofCategory? k.category with
    | some r => g.register k.typeName r
    | none => g) {}

def contains (typeName : String) (g : Gallery) : Bool := Entries.has typeName g.renderers

def rendererFor (typeName : String) (g : Gallery) : Renderer :=
  (Entries.get? typeName g.renderers).getD g.fallback

def label (g : Gallery) (n : Node) : String := (g.rendererFor n.typeName).label n

/-- A gallery as diagnostics show it. -/
def shown (g : Gallery) : String :=
  s!"RendererRegistry \x7b registered: {g.renderers.length}, fallback: "
    ++ Text.quoted g.fallback.name ++ " \x7d"

end Gallery

/-! ## Rows -/

/-- A line of an outline. -/
structure Row where
  id : NodeId
  depth : Nat
  /-- The field that holds the node, unless it stands at the top. -/
  slot : Option String
  label : String
  tier : Tier
deriving DecidableEq, Repr

mutual

/-- The rows of a node and all below it. -/
def Node.rowsAt (g : Gallery) (depth : Nat) (slot : Option String) : Node → List Row
  | .mk id kind tier fields =>
      ⟨id, depth, slot, g.label (.mk id kind tier fields), tier⟩ ::
        Value.rowsOfFields g (depth + 1) fields
termination_by structural n => n

/-- The rows of the nodes in a field. -/
def Value.rowsAt (g : Gallery) (depth : Nat) (slot : String) : Value → List Row
  | .node n => n.rowsAt g depth (some slot)
  | .list items => Value.rowsOfItems g depth slot items
  | .object entries => Value.rowsOfEntries g depth slot entries
  | _ => []
termination_by structural v => v

def Value.rowsOfItems (g : Gallery) (depth : Nat) (slot : String) : List Value → List Row
  | [] => []
  | v :: vs => v.rowsAt g depth slot ++ Value.rowsOfItems g depth slot vs
termination_by structural vs => vs

/-- The rows of the nodes in plain data; they belong to the field that holds the data. -/
def Value.rowsOfEntries (g : Gallery) (depth : Nat) (slot : String) :
    List (String × Value) → List Row
  | [] => []
  | (_, v) :: es => v.rowsAt g depth slot ++ Value.rowsOfEntries g depth slot es
termination_by structural es => es

def Value.rowsOfFields (g : Gallery) (depth : Nat) : List (String × Value) → List Row
  | [] => []
  | (key, v) :: fs => v.rowsAt g depth key ++ Value.rowsOfFields g depth fs
termination_by structural fs => fs

end

/-- The outline of a body. -/
def Gallery.outline (g : Gallery) (body : Body) : List Row :=
  body.flatMap (Node.rowsAt g 0 none)

end HandlerStudio
