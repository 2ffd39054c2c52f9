import HandlerStudio.Config.Basic
import HandlerStudio.Editor.Error
import HandlerStudio.Palette
import HandlerStudio.Preview.Basic
import HandlerStudio.Session.Basic
import HandlerStudio.Store.Memory

/-!
# Editors

An editor joins a session, its preview and a store. Each change of the session is passed on to the
preview, through a queue of commands that the preview takes in order, and then announced to
autosave.

Saves go through a gate, one by one. One that is asked for while the gate is held waits in line;
when its turn comes it hands the session to the store as it is then, or does nothing if that is
clean. Autosave waits until edits have been quiet for a while, and then asks for a save like any
other. Loads do not go through the gate.

Everything here happens at once. What takes time is split into its beginning and its end: the
store decides on a save and the editor takes note of that, a load reads the store and puts what it
read in place, a quiet period ends, the generator answers. These may come in any order.
-/

namespace HandlerStudio

/-- Who asked for a save, and for which of theirs. -/
inductive Requester where
  | caller (ticket : Nat)
  | autosave (round : Nat)
deriving DecidableEq, Repr

/-- A save that was handed to the store, until the editor takes note of how it ended. -/
structure Flight where
  requester : Requester
  snapshot : Snapshot
  /-- What the store decided, if it has. -/
  verdict : Option (Except StoreError Unit) := none

/-- What a save comes to. -/
inductive SaveOutcome where
  | saved (revision : Nat) (clean : Bool)
  | alreadyClean
deriving DecidableEq, Repr

abbrev SaveResult := Except StoreError SaveOutcome

/-- What autosave is doing. -/
inductive AutosavePhase where
  | parked
  | settling
  | saving
deriving DecidableEq, Repr

structure Autosave where
  phase : AutosavePhase := .parked
  /-- Whether an edit was announced that autosave has not taken note of. -/
  notified : Bool := false
  /-- How many saves it asked for. -/
  rounds : Nat := 0
  /-- What its latest save came to. -/
  lastResult : Option SaveResult := none

namespace Autosave

def notify (a : Autosave) : Autosave := { a with notified := true }

/-- Whether autosave can take note of an edit now. -/
def canWake (a : Autosave) : Bool := a.notified && a.phase != .saving

/-- Take note of an edit; the quiet period starts anew. -/
def wake (a : Autosave) : Autosave :=
  if a.canWake then { a with phase := .settling, notified := false } else a

/-- A save of autosave came to an end. -/
def finish (result : SaveResult) (a : Autosave) : Autosave :=
  { a with phase := .parked, lastResult := some result }

end Autosave

structure Editor where
  session : Session
  preview : Preview
  /-- Commands that the preview has not taken yet. -/
  commands : List Command := []
  store : MemoryStore
  /-- All that the store accepted, the oldest first. -/
  accepted : List Snapshot := []
  /-- What loads have read from the store and not put in place yet. -/
  reads : List (DocumentId × Handler) := []
  /-- The save that holds the gate. -/
  gate : Option Requester := none
  /-- The saves that are running. -/
  flights : List Flight := []
  /-- The saves that wait for the gate. -/
  waiting : List Requester := []
  /-- How many saves callers asked for. -/
  tickets : Nat := 0
  /-- What saves came to, the oldest first. -/
  results : List (Requester × SaveResult) := []
  /-- Autosave, if it is enabled. -/
  autosave : Option Autosave := none

namespace Editor

/-! ## Opening and loading -/

/-- An editor for an open document. -/
def start (config : Config) (target : Target) (store : MemoryStore) (document : DocumentId)
    (handler : Handler) : Editor where
  session := .start document handler
  preview := .new config.preview.debounce target handler.name handler.body
  store
  autosave := if config.autosave.enabled then some {} else none

/-- Open a document. -/
def openDocument (config : Config) (store : MemoryStore) (document : DocumentId)
    (supply : IdSupply) : Except EditorError (Editor × IdSupply) := do
  let target ← match config.validate with
    | .ok _ => Except.mapError EditorError.config config.target
    | .error e => throw (.config e)
  let (handler, supply) ← Except.mapError EditorError.store (store.load document supply)
  return (start config target store document handler, supply)

/-- Pass commands on to the preview. -/
def tell (commands : List Command) (e : Editor) : Editor :=
  { e with commands := e.commands ++ commands }

/-- Put a handler in place of the open one. -/
def replace (document : DocumentId) (handler : Handler) (e : Editor) : Editor :=
  { e with session := e.session.load document handler }.tell
    [.artifact handler.name, .tree handler.body]

/-- A load reads the store. -/
def read (document : DocumentId) (supply : IdSupply) (e : Editor) :
    Except EditorError (Editor × IdSupply) := do
  let (handler, supply) ← Except.mapError EditorError.store (e.store.load document supply)
  return ({ e with reads := e.reads ++ [(document, handler)] }, supply)

/-- The load that is `n`-th in line puts what it read in place. -/
def finishLoad (n : Nat) (e : Editor) : Editor :=
  match e.reads[n]? with
  | some (document, handler) => { e with reads := e.reads.eraseIdx n }.replace document handler
  | none => e

/-- Open another document. If that fails nothing changes. -/
def load (document : DocumentId) (supply : IdSupply) (e : Editor) :
    Except EditorError (Editor × IdSupply) := do
  let (after, supply) ← e.read document supply
  return (after.finishLoad e.reads.length, supply)

/-! ## Edits -/

/-- What the preview is told of an edit. -/
def commandsOf (body : Body) : Edit → List Command
  | .rename name => [.tree body, .artifact name]
  | _ => [.tree body]

/-- The first half of an edit: the session changes, and the preview is told. -/
def change (edit : Edit) (e : Editor) : Editor :=
  let session := e.session.edit edit
  { e with session }.tell (commandsOf session.body edit)

/-- The second half of an edit: autosave is told. -/
def announce (e : Editor) : Editor := { e with autosave := e.autosave.map Autosave.notify }

def edit (edit : Edit) (e : Editor) : Editor := (e.change edit).announce

/-- Insert a new node of a kind. -/
def insertKind (parent : Option NodeId) (id : NodeId) (kind : Kind) (e : Editor) : Editor :=
  e.edit (.insert parent (Node.new id kind) none)

/-- Insert a new node from the palette. -/
def insertFromPalette (parent : Option NodeId) (id : NodeId) (name : String) (e : Editor) :
    Except EditorError Editor :=
  match Palette.standard.create id name with
  | .ok node => .ok (e.edit (.insert parent node none))
  | .error err => .error (.node err)

def select (id : NodeId) (e : Editor) : Editor := { e with session := e.session.select id }

def clearSelection (e : Editor) : Editor := { e with session := e.session.clearSelection }

def setTarget (target : Target) (e : Editor) : Editor := e.tell [.target target]

def retryPreview (e : Editor) : Editor := e.tell [.retry]

/-! ## Saving -/

/-- Ask for a save, and wait in line. -/
def requestSave (e : Editor) : Editor :=
  { e with waiting := e.waiting ++ [.caller e.tickets], tickets := e.tickets + 1 }

/-- A save came to an end. -/
def finish (requester : Requester) (result : SaveResult) (e : Editor) : Editor :=
  let e := { e with results := e.results ++ [(requester, result)] }
  match requester with
  | .caller _ => e
  | .autosave _ => { e with autosave := e.autosave.map (Autosave.finish result) }

/-- The next save in line takes the gate if that is free. It hands a dirty session to the store, and
ends at once if the session is clean. -/
def beginSave (e : Editor) : Editor :=
  match e.gate, e.waiting with
  | none, requester :: waiting =>
      let e := { e with waiting }
      if e.session.isDirty then
        { e with
          gate := some requester
          flights := e.flights ++ [{ requester, snapshot := e.session.snapshot }] }
      else e.finish requester (.ok .alreadyClean)
  | _, _ => e

/-- The store accepts what a running save writes. -/
def storeAccepts (n : Nat) (e : Editor) : Editor :=
  match e.flights[n]? with
  | some ⟨requester, snapshot, none⟩ =>
      { e with
        flights := e.flights.set n ⟨requester, snapshot, some (.ok ())⟩
        store := e.store.save snapshot.document snapshot.handler
        accepted := e.accepted ++ [snapshot] }
  | _ => e

/-- The store refuses what a running save writes. -/
def storeRefuses (n : Nat) (error : StoreError) (e : Editor) : Editor :=
  match e.flights[n]? with
  | some ⟨requester, snapshot, none⟩ =>
      { e with flights := e.flights.set n ⟨requester, snapshot, some (.error error)⟩ }
  | _ => e

/-- The editor takes note of what the store decided on a save, which gives the gate back. -/
def acknowledge (n : Nat) (e : Editor) : Editor :=
  match e.flights[n]? with
  | some ⟨requester, snapshot, some verdict⟩ =>
      let e := { e with gate := none, flights := e.flights.eraseIdx n }
      match verdict with
      | .ok () =>
          let session := e.session.markSaved snapshot
          { e with session }.finish requester (.ok (.saved snapshot.revision (!session.isDirty)))
      | .error error =>
          { e with session := e.session.markSaveFailed }.finish requester (.error error)
  | _ => e

/-- What a save of a caller came to. -/
def result? (ticket : Nat) (e : Editor) : Option SaveResult := e.results.lookup (.caller ticket)

/-! ## Autosave -/

/-- Autosave takes note of an edit, if it can. -/
def wakeAutosave (e : Editor) : Editor := { e with autosave := e.autosave.map Autosave.wake }

/-- The quiet period of autosave ends: it asks for a save. -/
def endQuiet (e : Editor) : Editor :=
  match e.autosave with
  | some a =>
      if a.phase = .settling then
        { e with
          autosave := some { a with phase := .saving, rounds := a.rounds + 1 }
          waiting := e.waiting ++ [.autosave a.rounds] }
      else e
  | none => e

/-! ## The preview -/

/-- The preview takes the next command. -/
def deliver (now : Nat) (e : Editor) : Editor :=
  match e.commands with
  | [] => e
  | c :: commands => { e with commands, preview := e.preview.receive now c }

/-- The preview makes a request, if one is due. -/
def fire (now : Nat) (e : Editor) : Option Request × Editor :=
  let (request, preview) := e.preview.fire now
  (request, { e with preview })

/-- The preview gets an answer. -/
def answered (seq : Nat) (result : Except GeneratorError Output) (e : Editor) : Editor :=
  { e with preview := e.preview.answered seq result }

/-- An editor as diagnostics show it. -/
def shown (e : Editor) : String :=
  "Editor \x7b document: DocumentId(" ++ Text.quoted e.session.document.text ++ "), state: "
    ++ e.session.state.name ++ ", autosave: " ++ (if e.autosave.isSome then "true" else "false")
    ++ ", .. \x7d"

end Editor

end HandlerStudio
