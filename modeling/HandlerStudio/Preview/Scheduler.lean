/-!
# When to regenerate

A change asks for a new preview, but only once no further change came for a while. Requests are
numbered from one, and an answer counts only if it answers the latest request and none has
answered it before. Times are given from outside and counted in milliseconds.
-/

namespace HandlerStudio

structure Scheduler where
  /-- How long changes have to pause before a request is made. -/
  debounce : Nat
  /-- When the next request is due. -/
  deadline : Option Nat := none
  /-- The number of the latest request. -/
  issued : Nat := 0
  /-- The number of the latest request with an answer that counted. -/
  settled : Nat := 0
deriving DecidableEq, Repr

/-- What a scheduler waits for. -/
inductive Phase where
  | idle
  | scheduled (deadline : Nat)
  | inFlight (seq : Nat)
deriving DecidableEq, Repr

/-- What becomes of an answer. -/
inductive Verdict where
  | apply
  | discard
deriving DecidableEq, Repr

namespace Scheduler

def new (debounce : Nat) : Scheduler := { debounce }

/-- Whether the latest request has no answer yet. -/
def isAwaiting (s : Scheduler) : Bool := s.settled < s.issued

def phase (s : Scheduler) : Phase :=
  match s.deadline with
  | some deadline => .scheduled deadline
  | none => if s.isAwaiting then .inFlight s.issued else .idle

/-- A change at an instant moves the deadline. -/
def change (now : Nat) (s : Scheduler) : Scheduler :=
  { s with deadline := some (now + s.debounce) }

/-- Whether a request is due at an instant. -/
def isDue (now : Nat) (s : Scheduler) : Bool :=
  match s.deadline with
  | some deadline => deadline ≤ now
  | none => false

/-- Make a request if one is due, and give its number. -/
def poll (now : Nat) (s : Scheduler) : Option Nat × Scheduler :=
  if s.isDue now then (some (s.issued + 1), { s with deadline := none, issued := s.issued + 1 })
  else (none, s)

def verdict (seq : Nat) (s : Scheduler) : Verdict :=
  if seq = s.issued ∧ s.settled < seq then .apply else .discard

/-- An answer came in. -/
def respond (seq : Nat) (s : Scheduler) : Verdict × Scheduler :=
  match s.verdict seq with
  | .apply => (.apply, { s with settled := seq })
  | .discard => (.discard, s)

end Scheduler

end HandlerStudio
