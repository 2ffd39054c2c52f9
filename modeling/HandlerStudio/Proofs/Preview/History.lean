import HandlerStudio.Preview.Basic

/-!
# Histories of a preview

A running preview with a record of the requests it made and the answers that came in. Changes,
firings and answers come in any order, and an answer may take as long as it likes. No request is
answered twice: an answer to a request that was never made, or that has its answer, is none.
-/

namespace HandlerStudio

namespace Preview

/-- What can happen to a running preview. -/
inductive Event where
  | command (now : Nat) (c : Command)
  | fire (now : Nat)
  | answer (seq : Nat) (result : Except GeneratorError Output)

structure History where
  preview : Preview
  /-- All requests, oldest first. -/
  requests : List Request := []
  /-- All answers by the number of their request, oldest first. -/
  answers : List (Nat × Except GeneratorError Output) := []
  /-- The numbers of the answers that made something visible, oldest first. -/
  applied : List Nat := []

namespace History

/-- The request of this number was made and has no answer yet. -/
def Outstanding (h : History) (seq : Nat) : Prop :=
  seq ∈ h.requests.map Request.seq ∧ seq ∉ h.answers.map Prod.fst

instance (h : History) (seq : Nat) : Decidable (h.Outstanding seq) :=
  inferInstanceAs (Decidable (_ ∧ _))

/-- A preview that begins to run. -/
def start (debounce : Nat) (target : Target) (artifact : String) (body : Body) (now : Nat) :
    History where
  preview := (Preview.new debounce target artifact body).start now

def step (h : History) : Event → History
  | .command now c => { h with preview := h.preview.receive now c }
  | .fire now =>
      { h with
        preview := (h.preview.fire now).2
        requests := h.requests ++ (h.preview.fire now).1.toList }
  | .answer seq result =>
      if h.Outstanding seq then
        let preview := h.preview.answered seq result
        { h with
          preview
          answers := h.answers ++ [(seq, result)]
          applied :=
            if preview.publications = h.preview.publications then h.applied
            else h.applied ++ [seq] }
      else h

def run (h : History) (events : List Event) : History := events.foldl step h

/-- What holds at the start and is kept by every event holds after every run. -/
theorem run_induction {P : History → Prop} {h : History} (hstart : P h)
    (hstep : ∀ h event, P h → P (h.step event)) (events : List Event) : P (h.run events) := by
  induction events generalizing h with
  | nil => exact hstart
  | cons event events ih => exact ih (hstep h event hstart)

end History

/-! ## What the parts of a preview do -/

variable (now : Nat) (p : Preview)

@[simp] theorem changed_scheduler : (p.changed now).scheduler = p.scheduler.change now := rfl

@[simp] theorem changed_applied : (p.changed now).state.applied = p.state.applied := rfl

/-- A command is ignored, or it counts as a change. -/
theorem receive_cases (c : Command) :
    p.receive now c = p ∨
      ∃ q : Preview, p.receive now c = q.changed now ∧ q.scheduler = p.scheduler ∧
        q.state.applied = p.state.applied := by
  cases c with
  | tree body =>
      by_cases hsame : Tree.same body p.body
      · exact Or.inl (by simp [receive, hsame])
      · exact Or.inr ⟨{ p with body }, by simp [receive, hsame], rfl, rfl⟩
  | target target =>
      by_cases hsame : target = p.target
      · exact Or.inl (by simp [receive, hsame])
      · exact Or.inr ⟨({ p with target } : Preview).publish fun s => { s with target },
          by simp [receive, hsame], rfl, rfl⟩
  | artifact artifact =>
      by_cases hsame : artifact = p.artifact
      · exact Or.inl (by simp [receive, hsame])
      · exact Or.inr ⟨{ p with artifact }, by simp [receive, hsame], rfl, rfl⟩
  | retry => exact Or.inr ⟨p, rfl, rfl, rfl⟩

/-- The request that a preview makes next. -/
def nextRequest : Request where
  seq := p.scheduler.issued + 1
  target := p.target
  artifact := p.artifact
  body := p.body

/-- Firing makes no request and changes nothing, or it makes the next request. -/
theorem fire_cases :
    p.fire now = (none, p) ∨
      p.fire now = (some p.nextRequest,
        { p with
          scheduler := { p.scheduler with deadline := none, issued := p.scheduler.issued + 1 }
          : Preview }.publishProgress) := by
  by_cases hdue : p.scheduler.isDue now
  · exact Or.inr (by simp [fire, Scheduler.poll, hdue, nextRequest])
  · exact Or.inl (by simp [fire, Scheduler.poll, hdue])

variable {p} {seq : Nat} (result : Except GeneratorError Output)

/-- An answer to a request that is not the latest one changes nothing. -/
theorem answered_of_ne_issued (hne : seq ≠ p.scheduler.issued) : p.answered seq result = p := by
  simp [answered, Scheduler.respond, Scheduler.verdict, hne]

/-- The first answer to the latest request is shown. -/
theorem answered_issued (hlt : p.scheduler.settled < p.scheduler.issued) :
    p.answered p.scheduler.issued result =
      { p with scheduler := { p.scheduler with settled := p.scheduler.issued } : Preview }.publish
        fun s => { s with
          display := .ofResult p.artifact result
          applied := p.scheduler.issued
          loading := p.scheduler.deadline.isSome } := by
  have hloading : ({ p with scheduler := { p.scheduler with settled := p.scheduler.issued } }
      : Preview).isLoading = p.scheduler.deadline.isSome := by
    cases hdeadline : p.scheduler.deadline <;>
      simp [isLoading, Scheduler.phase, Scheduler.isAwaiting, hdeadline]
  simp [answered, Scheduler.respond, Scheduler.verdict, hlt, hloading]

end Preview

end HandlerStudio
