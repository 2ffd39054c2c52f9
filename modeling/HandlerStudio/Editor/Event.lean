import HandlerStudio.Editor.Basic

/-!
# Runs of an editor

An `Editor.Event` is anything that may happen to an editor. Events come in any order; one that
cannot happen changes nothing.
-/

namespace HandlerStudio.Editor

inductive Event where
  | edit (change : Edit)
  /-- A change that is announced only later. -/
  | change (edit : Edit)
  | announce
  | read (document : DocumentId) (supply : IdSupply)
  | finishLoad (n : Nat)
  /-- Someone else writes a document. -/
  | overwrite (document : DocumentId) (text : String)
  | select (id : NodeId)
  | clearSelection
  | setTarget (target : Target)
  | retryPreview
  | requestSave
  | beginSave
  | storeAccepts (n : Nat)
  | storeRefuses (n : Nat) (error : StoreError)
  | acknowledge (n : Nat)
  | wakeAutosave
  | endQuiet
  | deliver (now : Nat)
  | fire (now : Nat)
  | answered (seq : Nat) (result : Except GeneratorError Output)

/-- The editor after an event. -/
def step (e : Editor) : Event → Editor
  | .edit change => e.edit change
  | .change edit => e.change edit
  | .announce => e.announce
  | .read document supply =>
      match e.read document supply with
      | .ok (e, _) => e
      | .error _ => e
  | .finishLoad n => e.finishLoad n
  | .overwrite document text => { e with store := e.store.insertText document text }
  | .select id => e.select id
  | .clearSelection => e.clearSelection
  | .setTarget target => e.setTarget target
  | .retryPreview => e.retryPreview
  | .requestSave => e.requestSave
  | .beginSave => e.beginSave
  | .storeAccepts n => e.storeAccepts n
  | .storeRefuses n error => e.storeRefuses n error
  | .acknowledge n => e.acknowledge n
  | .wakeAutosave => e.wakeAutosave
  | .endQuiet => e.endQuiet
  | .deliver now => e.deliver now
  | .fire now => (e.fire now).2
  | .answered seq result => e.answered seq result

/-- The editor after a run. -/
def run (e : Editor) (events : List Event) : Editor := events.foldl step e

end HandlerStudio.Editor
