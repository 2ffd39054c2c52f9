import HandlerStudio.Preview.Basic

/-!
# Previews on a clock

A preview together with the generator that it asks. Time stands still but for `LivePreview.sleep`;
all that falls due on the way happens in order of time, and what follows from a change at an
instant has happened before the next change.
-/

namespace HandlerStudio

/-- The earlier of two instants, of which either may be missing. -/
def earliest? : Option Nat → Option Nat → Option Nat
  | some a, some b => some (min a b)
  | a, none => a
  | none, b => b

structure LivePreview where
  now : Nat := 0
  preview : Preview
  generator : ScriptedGenerator

namespace LivePreview

/-- When something happens next. -/
def nextDue? (p : LivePreview) : Option Nat :=
  earliest? p.generator.nextDue? p.preview.scheduler.deadline

/-- What happens next at this instant: an answer comes in, or else a request is made. -/
def step? (p : LivePreview) : Option LivePreview :=
  match p.generator.deliver? p.now with
  | some (a, generator) => some { p with generator, preview := p.preview.answered a.seq a.result }
  | none =>
      match p.preview.fire p.now with
      | (some r, preview) => some { p with preview, generator := p.generator.ask p.now r }
      | (none, _) => none

/-- A bound on how much can happen without further changes: a deadline leads to a request, and a
request to an answer. -/
def outstanding (p : LivePreview) : Nat :=
  2 * p.preview.scheduler.deadline.toList.length + p.generator.pending.length

/-- All that happens up to an instant, in at most so many steps. -/
def runUntil (limit : Nat) : Nat → LivePreview → LivePreview
  | 0, p => p
  | fuel + 1, p =>
      match p.nextDue? with
      | none => p
      | some due =>
          if due ≤ limit then
            match { p with now := max p.now due }.step? with
            | some p => runUntil limit fuel p
            | none => p
          else p

/-- Let time pass up to an instant. -/
def wait (limit : Nat) (p : LivePreview) : LivePreview :=
  { runUntil limit p.outstanding p with now := limit }

/-- Let time pass. -/
def sleep (ms : Nat) (p : LivePreview) : LivePreview := p.wait (p.now + ms)

/-- All that happens at this instant. -/
def settle (p : LivePreview) : LivePreview := p.wait p.now

/-- Tell the preview of a change. -/
def command (c : Command) (p : LivePreview) : LivePreview :=
  { p with preview := p.preview.receive p.now c }.settle

/-- Start a preview at the beginning of time. -/
def start (preview : Preview) (generator : ScriptedGenerator) : LivePreview :=
  { preview := preview.start 0, generator : LivePreview }.settle

end LivePreview

end HandlerStudio
