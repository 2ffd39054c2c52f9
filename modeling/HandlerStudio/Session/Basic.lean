import HandlerStudio.Handler.Basic
import HandlerStudio.Session.Dirty
import HandlerStudio.Session.Selection
import HandlerStudio.Tree.Edit

/-!
# Editing sessions

A session holds one open handler. Every edit goes through the tree and counts as an edit, whether
or not the tree changed. A snapshot is what a save writes; it says which load and which edit it
was taken after, so that a save that comes back late is credited rightly or not at all.
-/

namespace HandlerStudio

/-- What a save writes. -/
structure Snapshot where
  document : DocumentId
  handler : Handler
  generation : Nat
  revision : Nat

/-- An open handler. -/
structure Session where
  document : DocumentId
  handler : Handler
  /-- How often another document was loaded. -/
  generation : Nat := 0
  selection : Selection := {}
  tracker : Tracker := {}

/-- A change to the open handler. -/
inductive Edit where
  | insert (parent : Option NodeId) (node : Node) (index : Option Nat)
  | remove (id : NodeId)
  | update (id : NodeId) (key : String) (value : Value)
  | rename (name : String)
  | setAsync (value : Bool)

/-- The handler after an edit. -/
def Edit.apply (h : Handler) : Edit → Handler
  | .insert parent node index => { h with body := Tree.insert h.body parent node index }
  | .remove id => { h with body := Tree.remove h.body id }
  | .update id key value => { h with body := Tree.updateProperty h.body id key value }
  | .rename name => { h with name }
  | .setAsync value => { h with isAsync := value }

namespace Session

def start (document : DocumentId) (handler : Handler) : Session := { document, handler }

/-- Open another document in place of this one. -/
def load (document : DocumentId) (handler : Handler) (s : Session) : Session :=
  { document, handler, generation := s.generation + 1 }

def body (s : Session) : Body := s.handler.body

def state (s : Session) : DirtyState := s.tracker.state

def isDirty (s : Session) : Bool := s.tracker.isDirty

def revision (s : Session) : Nat := s.tracker.revision

/-- Make an edit. Removing a node also drops a selection that went with it. -/
def edit (e : Edit) (s : Session) : Session :=
  let handler := e.apply s.handler
  let selection :=
    match e with
    | .remove _ => s.selection.prune handler.body
    | _ => s.selection
  { s with handler, selection, tracker := s.tracker.edit }

def select (id : NodeId) (s : Session) : Session :=
  { s with selection := s.selection.select id }

def clearSelection (s : Session) : Session :=
  { s with selection := s.selection.clear }

def selectedNode? (s : Session) : Option Node := s.selection.node? s.body

def snapshot (s : Session) : Snapshot where
  document := s.document
  handler := s.handler
  generation := s.generation
  revision := s.revision

/-- A snapshot was saved. One from before the latest load is ignored. -/
def markSaved (snapshot : Snapshot) (s : Session) : Session :=
  if snapshot.document ≠ s.document ∨ snapshot.generation ≠ s.generation then s
  else { s with tracker := s.tracker.saved snapshot.revision }

def markSaveFailed (s : Session) : Session :=
  { s with tracker := s.tracker.saveFailed }

end Session

end HandlerStudio
