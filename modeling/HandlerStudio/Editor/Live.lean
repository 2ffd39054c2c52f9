import HandlerStudio.Editor.Event
import HandlerStudio.Preview.Live

/-!
# Editors on a clock

An editor with a generator and a store that take their time. Time stands still but for
`LiveEditor.sleep` and while a caller waits for a save; all that falls due on the way happens in
order of time. What follows from a change at an instant has happened before the next change.
-/

namespace HandlerStudio

structure LiveEditor where
  now : Nat := 0
  editor : Editor
  generator : ScriptedGenerator
  /-- How long edits have to be quiet before autosave saves. -/
  quietPeriod : Nat := 0
  /-- When the quiet period ends. -/
  quietDue : Option Nat := none
  /-- How long the store takes for a save. -/
  storeLatency : Nat := 0
  /-- When the store answers. -/
  storeDue : Option Nat := none
  /-- How many saves the store will refuse. -/
  refusals : Nat := 0
  /-- The most saves that were ever running at once. -/
  busiest : Nat := 0

namespace LiveEditor

/-! ## What happens at an instant -/

/-- The preview takes a command. -/
def deliver? (l : LiveEditor) : Option LiveEditor :=
  if l.editor.commands.isEmpty then none else some { l with editor := l.editor.deliver l.now }

/-- Autosave takes note of an edit, and waits for the quiet period to end. -/
def wake? (l : LiveEditor) : Option LiveEditor :=
  if l.editor.autosave.any Autosave.canWake then
    some { l with editor := l.editor.wakeAutosave, quietDue := some (l.now + l.quietPeriod) }
  else none

/-- A save begins, and the store will answer. -/
def beginSave? (l : LiveEditor) : Option LiveEditor :=
  if l.editor.gate.isSome || l.editor.waiting.isEmpty then none
  else
    let editor := l.editor.beginSave
    if editor.gate.isSome then
      some { l with
        editor
        storeDue := some (l.now + l.storeLatency)
        busiest := max l.busiest editor.flights.length }
    else some { l with editor }

/-- The generator answers. -/
def answer? (l : LiveEditor) : Option LiveEditor :=
  match l.generator.deliver? l.now with
  | none => none
  | some (a, generator) => some { l with generator, editor := l.editor.answered a.seq a.result }

/-- The preview makes a request. -/
def fire? (l : LiveEditor) : Option LiveEditor :=
  match l.editor.fire l.now with
  | (none, _) => none
  | (some r, editor) => some { l with editor, generator := l.generator.ask l.now r }

/-- Whether an instant has come. -/
def isDue (l : LiveEditor) (due : Option Nat) : Bool := due.any (· ≤ l.now)

/-- The store answers, and the editor takes note at once. -/
def settleSave? (l : LiveEditor) : Option LiveEditor :=
  if l.isDue l.storeDue then
    match l.refusals with
    | 0 => some { l with storeDue := none, editor := (l.editor.storeAccepts 0).acknowledge 0 }
    | refusals + 1 =>
        some { l with
          storeDue := none
          refusals
          editor := (l.editor.storeRefuses 0 (.unavailable "injected failure")).acknowledge 0 }
  else none

/-- The quiet period ends. -/
def endQuiet? (l : LiveEditor) : Option LiveEditor :=
  if l.isDue l.quietDue then some { l with quietDue := none, editor := l.editor.endQuiet } else none

/-- What happens next at this instant. Commands and notifications come before what falls due. -/
def step? (l : LiveEditor) : Option LiveEditor :=
  l.deliver? <|> l.wake? <|> l.beginSave? <|> l.answer? <|> l.fire? <|> l.settleSave?
    <|> l.endQuiet?

/-! ## Time -/

/-- When something falls due next. -/
def nextDue? (l : LiveEditor) : Option Nat :=
  earliest? (earliest? l.generator.nextDue? l.editor.preview.scheduler.deadline)
    (earliest? l.storeDue l.quietDue)

/-- A bound on how much can happen without further changes. A command may lead to a deadline, a
deadline to a request, and a request to an answer; a notification to a quiet period, that to a save
in line, and a save in line to a running one. -/
def outstanding (l : LiveEditor) : Nat :=
  3 * l.editor.commands.length
    + 2 * l.editor.preview.scheduler.deadline.toList.length
    + l.generator.pending.length
    + 5 * (l.editor.autosave.toList.filter Autosave.notified).length
    + 4 * l.quietDue.toList.length
    + 2 * l.editor.waiting.length
    + l.storeDue.toList.length

/-- Let things happen, as long as they are due up to a limit and the run is not done, in at most so
many steps. -/
def runUntil (done : LiveEditor → Bool) (limit : Option Nat) : Nat → LiveEditor → LiveEditor
  | 0, l => l
  | fuel + 1, l =>
      if done l then l
      else
        match l.step? with
        | some l => runUntil done limit fuel l
        | none =>
            match l.nextDue? with
            | none => l
            | some due =>
                if limit.all (due ≤ ·) then
                  match { l with now := max l.now due }.step? with
                  | some l => runUntil done limit fuel l
                  | none => l
                else l

/-- Let time pass up to an instant. -/
def wait (limit : Nat) (l : LiveEditor) : LiveEditor :=
  { runUntil (fun _ => false) (some limit) l.outstanding l with now := limit }

/-- Let time pass. -/
def sleep (ms : Nat) (l : LiveEditor) : LiveEditor := l.wait (l.now + ms)

/-- All that happens at this instant. -/
def settle (l : LiveEditor) : LiveEditor := l.wait l.now

/-- Change the editor, and let all follow from that. -/
def change (f : Editor → Editor) (l : LiveEditor) : LiveEditor :=
  { l with editor := f l.editor }.settle

/-- Wait for a save to come to an end. -/
def await (ticket : Nat) (l : LiveEditor) : LiveEditor :=
  (runUntil (fun l => (l.editor.result? ticket).isSome) none l.outstanding l).settle

/-- Generate a project for the target that is shown. -/
def project (l : LiveEditor) : Except EditorError (List String) × LiveEditor :=
  let (paths, generator) := l.generator.project l.editor.preview.state.target
  (Except.mapError EditorError.generator paths, { l with generator })

/-- Start at the beginning of time. -/
def start (config : Config) (storeLatency : Nat) (generator : ScriptedGenerator) (e : Editor) :
    LiveEditor :=
  { editor := { e with preview := e.preview.start 0 }, generator, storeLatency,
    quietPeriod := config.autosave.quietPeriod : LiveEditor }.settle

end LiveEditor

end HandlerStudio
