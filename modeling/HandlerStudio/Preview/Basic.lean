import HandlerStudio.Preview.Display
import HandlerStudio.Preview.Scheduler

/-!
# Live previews

A preview follows the tree, the target and the name of a handler. Each change asks for a new
generation, once changes pause, and an answer is shown if it answers the latest request. What is
visible is published; `publications` counts how often.
-/

namespace HandlerStudio

/-- What a preview makes visible. -/
structure PreviewState where
  target : Target
  loading : Bool := false
  display : Display := .empty
  issued : Nat := 0
  applied : Nat := 0

/-- A change that a preview is told of. -/
inductive Command where
  | tree (body : Body)
  | target (target : Target)
  | artifact (name : String)
  | retry

structure Preview where
  scheduler : Scheduler
  body : Body
  target : Target
  artifact : String
  state : PreviewState
  publications : Nat := 0

namespace Preview

/-- A preview that has not begun to run. -/
def new (debounce : Nat) (target : Target) (artifact : String) (body : Body) : Preview where
  scheduler := .new debounce
  body
  target
  artifact
  state := { target }

/-- Make a change visible. -/
def publish (f : PreviewState → PreviewState) (p : Preview) : Preview :=
  { p with state := f p.state, publications := p.publications + 1 }

/-- Whether an answer is waited for or a request is due. -/
def isLoading (p : Preview) : Bool := p.scheduler.phase != .idle

def publishProgress (p : Preview) : Preview :=
  p.publish fun s => { s with loading := p.isLoading, issued := p.scheduler.issued }

/-- Something changed at an instant. -/
def changed (now : Nat) (p : Preview) : Preview :=
  { p with scheduler := p.scheduler.change now }.publishProgress

/-- The first generation is asked for at the start. -/
def start (now : Nat) (p : Preview) : Preview := p.changed now

/-- Take a command. One that changes nothing asks for nothing. -/
def receive (now : Nat) (p : Preview) : Command → Preview
  | .tree body => if Tree.same body p.body then p else { p with body }.changed now
  | .target target =>
      if target = p.target then p
      else (({ p with target } : Preview).publish fun s => { s with target }).changed now
  | .artifact artifact => if artifact = p.artifact then p else { p with artifact }.changed now
  | .retry => p.changed now

/-- Make a request if one is due. -/
def fire (now : Nat) (p : Preview) : Option Request × Preview :=
  match p.scheduler.poll now with
  | (none, _) => (none, p)
  | (some seq, scheduler) =>
      (some { seq, target := p.target, artifact := p.artifact, body := p.body },
        { p with scheduler }.publishProgress)

/-- An answer came in. -/
def answered (seq : Nat) (result : Except GeneratorError Output) (p : Preview) : Preview :=
  match p.scheduler.respond seq with
  | (.discard, _) => p
  | (.apply, scheduler) =>
      let p := { p with scheduler }
      p.publish fun s =>
        { s with display := .ofResult p.artifact result, applied := seq, loading := p.isLoading }

end Preview

end HandlerStudio
