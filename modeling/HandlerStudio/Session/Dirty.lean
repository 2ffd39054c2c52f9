import HandlerStudio.Json.Record

/-!
# Unsaved work

A session is clean or dirty. `DirtyState.transition` is the table of what an edit, a save and a
load do to that state. `Tracker` counts edits, so that a save cleans the session only if no edit
came after the state it saved.
-/

namespace HandlerStudio

inductive DirtyState where
  | clean
  | dirty
deriving DecidableEq, Repr

inductive DirtyEvent where
  | edit
  | saveSucceeded
  | saveFailed
  | load
deriving DecidableEq, Repr

namespace DirtyState

def name : DirtyState → String
  | .clean => "Clean"
  | .dirty => "Dirty"

/-- The state after an event. -/
def transition (state : DirtyState) : DirtyEvent → DirtyState
  | .edit => .dirty
  | .saveSucceeded => .clean
  | .saveFailed => state
  | .load => .clean

/-- Read a state by its name. -/
def read : Json.Reader DirtyState :=
  Json.Read.choice [("Clean", .clean), ("Dirty", .dirty)]

end DirtyState

/-- How many edits there were, and up to which of them the work is saved. -/
structure Tracker where
  state : DirtyState := .clean
  revision : Nat := 0
  savedRevision : Nat := 0
  everSaved : Bool := false
deriving DecidableEq, Repr

namespace Tracker

def isDirty (t : Tracker) : Bool := t.state == .dirty

/-- One more edit. -/
def edit (t : Tracker) : Tracker :=
  { t with revision := t.revision + 1, state := t.state.transition .edit }

/-- The work is saved up to a revision; the session is clean if that is the latest one. -/
def saved (snapshot : Nat) (t : Tracker) : Tracker :=
  let savedRevision := max t.savedRevision snapshot
  { t with
    savedRevision
    everSaved := true
    state := if t.revision ≤ savedRevision then t.state.transition .saveSucceeded else t.state }

def saveFailed (t : Tracker) : Tracker :=
  { t with state := t.state.transition .saveFailed }

/-- Start again after a load. -/
def reset (_ : Tracker) : Tracker := {}

end Tracker

end HandlerStudio
