import HandlerStudio.Session.Basic

/-!
# Histories of a session

A session with a record of what was done to it: the handler it was opened with or loaded last, how
many edits came after that, the snapshots taken, and those that were reported as saved. Snapshots
are reported by their place among all that were taken, so a report may come late, more than once,
out of order, or for a snapshot from before a load.
-/

namespace HandlerStudio

namespace Session

/-- What can happen to an open session. -/
inductive Action where
  | edit (e : Edit)
  | select (id : NodeId)
  | clearSelection
  | load (document : DocumentId) (handler : Handler)
  | snapshot
  /-- The snapshot that was taken as the `n`-th is reported as saved. -/
  | markSaved (n : Nat)
  | markSaveFailed

structure History where
  session : Session
  /-- The handler as it was opened or last loaded. -/
  loaded : Handler
  /-- How many edits came after that. -/
  edits : Nat := 0
  /-- All snapshots, oldest first. -/
  taken : List Snapshot := []
  /-- The snapshots reported as saved, latest report first. -/
  saved : List Snapshot := []

namespace History

def start (document : DocumentId) (handler : Handler) : History where
  session := Session.start document handler
  loaded := handler

/-- One more action. A report of a snapshot that was never taken is none. -/
def step (h : History) : Action → History
  | .edit e => { h with session := h.session.edit e, edits := h.edits + 1 }
  | .select id => { h with session := h.session.select id }
  | .clearSelection => { h with session := h.session.clearSelection }
  | .load document handler =>
      { h with session := h.session.load document handler, loaded := handler, edits := 0 }
  | .snapshot => { h with taken := h.taken ++ [h.session.snapshot] }
  | .markSaved n =>
      match h.taken[n]? with
      | some s => { h with session := h.session.markSaved s, saved := s :: h.saved }
      | none => h
  | .markSaveFailed => { h with session := h.session.markSaveFailed }

def run (h : History) (actions : List Action) : History := actions.foldl step h

@[simp] theorem run_nil (h : History) : h.run [] = h := rfl

@[simp] theorem run_cons (h : History) (a : Action) (actions : List Action) :
    h.run (a :: actions) = (h.step a).run actions := rfl

/-- What holds at the start and is kept by every admissible action holds after every run of them. -/
theorem run_induction {P : History → Prop} {Admissible : Action → Prop} {h : History} (hstart : P h)
    (hstep : ∀ h a, P h → Admissible a → P (h.step a)) {actions : List Action}
    (hactions : ∀ a ∈ actions, Admissible a) : P (h.run actions) := by
  induction actions generalizing h with
  | nil => exact hstart
  | cons a actions ih =>
      obtain ⟨ha, hrest⟩ := List.forall_mem_cons.mp hactions
      exact ih (hstep h a hstart ha) hrest

end History

end Session

end HandlerStudio
