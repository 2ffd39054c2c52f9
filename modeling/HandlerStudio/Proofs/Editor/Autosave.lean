import HandlerStudio.Proofs.Editor.Requests
import Mathlib.Data.List.Induction

/-!
# What autosave leaves unsaved

Autosave is parked and has taken note of all that was announced. Then the session is clean, or the
latest save of autosave failed: no edit is forgotten, whether it comes while autosave waits for
quiet, as the quiet ends, or while a save of autosave is running. `Editor.Attentive` is the
invariant. As long as nothing is announced that autosave has not noted, a save of autosave that runs
has the session as it is.
-/

namespace HandlerStudio

def Requester.isAutosave : Requester → Bool
  | .caller _ => false
  | .autosave _ => true

/-- The save writes the session as it is. -/
structure Flight.Current (f : Flight) (s : Session) : Prop where
  document_eq : f.snapshot.document = s.document
  generation_eq : f.snapshot.generation = s.generation
  revision_eq : f.snapshot.revision = s.revision

/-! ## Sessions that stay dirty -/

namespace Session

theorem isDirty_load (s : Session) (document : DocumentId) (handler : Handler) :
    (s.load document handler).isDirty = false := rfl

/-- No decision of the store makes a session dirty. -/
theorem isDirty_of_noted (s : Session) (snapshot : Snapshot) (verdict : Except StoreError Unit)
    (h : (Editor.noted s snapshot verdict).isDirty = true) : s.isDirty = true := by
  cases verdict with
  | error error => exact h
  | ok _ =>
      simp only [Editor.noted, markSaved] at h
      split at h
      · exact h
      · simp only [isDirty, Tracker.isDirty, Tracker.saved] at h ⊢
        split at h
        · cases h
        · exact h

/-- A session is clean once it is saved as it is. -/
theorem isDirty_markSaved {s : Session} {f : Flight} (hf : f.Current s) :
    (s.markSaved f.snapshot).isDirty = false := by
  have hle : s.tracker.revision ≤ max s.tracker.savedRevision f.snapshot.revision := by
    rw [hf.revision_eq]
    exact Nat.le_max_right _ _
  simp [markSaved, hf.document_eq, hf.generation_eq, isDirty, Tracker.isDirty, Tracker.saved, hle,
    DirtyState.transition]

end Session

namespace Editor

/-! ## Announcements -/

/-- The event tells autosave of an edit. -/
def Event.Announces (event : Event) : Prop := event = .announce ∨ ∃ edit, event = .edit edit

/-- Every change of the run was announced after it was made. -/
def Announced (events : List Event) : Prop :=
  ∀ edit after, .change edit :: after <:+ events → ∃ event ∈ after, event.Announces

theorem not_announced_change (events : List Event) (edit : Edit) :
    ¬ Announced (events ++ [.change edit]) := by
  intro h
  obtain ⟨event, hmem, -⟩ := h edit [] (List.suffix_append _ _)
  cases hmem

theorem Announced.of_concat {events : List Event} {event : Event}
    (h : Announced (events ++ [event])) (hevent : ¬ event.Announces) : Announced events := by
  rintro edit after ⟨before, rfl⟩
  obtain ⟨other, hmem, hother⟩ := h edit (after ++ [event]) ⟨before, by simp⟩
  rcases List.mem_append.mp hmem with hafter | hlast
  · exact ⟨other, hafter, hother⟩
  · obtain rfl := List.mem_singleton.mp hlast
    exact absurd hother hevent

/-! ## The invariant -/

/-- How many saves autosave is waiting for. -/
def pending (e : Editor) : Nat := (e.gate.toList ++ e.waiting).countP Requester.isAutosave

/-- What the latest save of autosave came to. -/
def latestAutosave? (e : Editor) : Option SaveResult :=
  (e.results.filter fun r => r.1.isAutosave).getLast?.map Prod.snd

/-- The latest save of autosave failed. -/
def AutosaveFailed (e : Editor) : Prop := ∃ error, e.latestAutosave? = some (.error error)

/-- Autosave waits for a save only if it asked for one. If all changes are announced and it has
taken note of that, then a dirty session is being saved as it is if autosave is saving, and is left
dirty by a failed save if autosave is parked. -/
structure Attentive (announced : Prop) (e : Editor) (a : Autosave) : Prop where
  autosave_eq : e.autosave = some a
  pending_le : e.pending ≤ if a.phase = .saving then 1 else 0
  current : announced → a.notified = false → e.session.isDirty = true →
    ∀ f ∈ e.flights, f.requester.isAutosave = true → f.Current e.session
  parked : announced → a.notified = false → e.session.isDirty = true → a.phase = .parked →
    e.AutosaveFailed

section

variable {p q : Prop} {e e' : Editor} {a : Autosave} {hist : Session.History}

theorem Attentive.mono (h : Attentive p e a) (hq : q → p) : Attentive q e a :=
  ⟨h.autosave_eq, h.pending_le, fun hp => h.current (hq hp), fun hp => h.parked (hq hp)⟩

/-- Nothing that autosave looks at has changed, but that the session may be clean now. -/
theorem Attentive.congr (h : Attentive p e a) (hautosave : e'.autosave = e.autosave)
    (hpending : e'.pending = e.pending) (hlatest : e'.latestAutosave? = e.latestAutosave?)
    (hdirty : e'.session.isDirty = true → e.session.isDirty = true)
    (hflights : e'.session.isDirty = true → ∀ f ∈ e'.flights, ∃ g ∈ e.flights,
      g.requester = f.requester ∧ (g.Current e.session → f.Current e'.session)) :
    Attentive p e' a := by
  refine ⟨hautosave.trans h.autosave_eq, hpending ▸ h.pending_le, ?_, ?_⟩
  · intro hp hnoted hd f hf hauto
    obtain ⟨g, hg, hrequester, hcurrent⟩ := hflights hd f hf
    exact hcurrent (h.current hp hnoted (hdirty hd) g hg (hrequester ▸ hauto))
  · intro hp hnoted hd hphase
    obtain ⟨error, hfailed⟩ := h.parked hp hnoted (hdirty hd) hphase
    exact ⟨error, hlatest.trans hfailed⟩

/-- The case of events that have nothing to do with saves and edits. -/
theorem Attentive.aside (h : Attentive p e a) (selection : Selection) (commands : List Command)
    (preview : Preview) (store : MemoryStore) (reads : List (DocumentId × Handler)) :
    Attentive p
      { e with session := { e.session with selection }, commands, preview, store, reads } a :=
  h.congr rfl rfl rfl id fun _ f hf => ⟨f, hf, rfl, fun hc => ⟨hc.1, hc.2, hc.3⟩⟩

/-! ## Edits, loads and announcements -/

/-- What is announced is for autosave to note, whatever has happened. -/
theorem Attentive.notify (h : Attentive p e a) (session : Session) (commands : List Command) :
    Attentive q { e with session, commands, autosave := e.autosave.map Autosave.notify }
      a.notify := by
  refine ⟨by rw [h.autosave_eq]; rfl, h.pending_le, ?_, ?_⟩
  · intro _ hnoted
    cases hnoted
  · intro _ hnoted
    cases hnoted

/-- Before its announcement nothing is said of a change. -/
theorem Attentive.change (h : Attentive p e a) (edit : Edit) (hq : ¬ q) :
    Attentive q (e.change edit) a :=
  ⟨h.autosave_eq, h.pending_le, fun hp => absurd hp hq, fun hp => absurd hp hq⟩

theorem Attentive.finishLoad (h : Attentive p e a) (n : Nat) : Attentive p (e.finishLoad n) a := by
  unfold Editor.finishLoad
  cases e.reads[n]? with
  | none => exact h
  | some read =>
      have hclean : (e.session.load read.1 read.2).isDirty ≠ true := by
        rw [Session.isDirty_load]
        exact Bool.false_ne_true
      exact h.congr rfl rfl rfl (fun hd => absurd hd hclean) fun hd => absurd hd hclean

/-! ## The rounds of autosave -/

theorem not_isAutosave_of_pending (ho : e.Orderly hist) (hpending : e.pending = 0) :
    ∀ f ∈ e.flights, f.requester.isAutosave = false := by
  intro f hf
  rw [pending, List.countP_eq_zero] at hpending
  have hgate : f.requester ∈ e.gate.toList := by
    rw [← ho.gated]
    exact List.mem_map_of_mem hf
  exact Bool.not_eq_true _ ▸ hpending _ (List.mem_append_left _ hgate)

theorem Attentive.wake (h : Attentive p e a) (ho : e.Orderly hist) :
    Attentive p e.wakeAutosave a.wake := by
  have hautosave : e.wakeAutosave.autosave = some a.wake := by
    rw [wakeAutosave, h.autosave_eq]
    rfl
  cases hwake : a.canWake with
  | false =>
      have hstill : a.wake = a := by simp [Autosave.wake, hwake]
      have heq : e.wakeAutosave = e := by
        rw [wakeAutosave, h.autosave_eq, Option.map_some, hstill, ← h.autosave_eq]
      rw [heq, hstill]
      exact h
  | true =>
      have hsettling : a.wake = { a with phase := .settling, notified := false } := by
        simp [Autosave.wake, hwake]
      -- autosave wakes only between its saves
      have hphase : a.phase ≠ .saving := by
        simp only [Autosave.canWake, Bool.and_eq_true, bne_iff_ne] at hwake
        exact hwake.2
      have hpending : e.pending = 0 := by
        have hle := h.pending_le
        rw [if_neg hphase] at hle
        exact Nat.le_zero.mp hle
      rw [hsettling] at hautosave ⊢
      refine ⟨hautosave, ?_, ?_, ?_⟩
      · exact Nat.le_of_eq hpending
      · intro _ _ _ f hf hauto
        rw [not_isAutosave_of_pending ho hpending f hf] at hauto
        cases hauto
      · intro _ _ _ hparked
        cases hparked

theorem Attentive.endQuiet (h : Attentive p e a) : ∃ b, Attentive p e.endQuiet b := by
  by_cases hphase : a.phase = .settling
  · have hpending : e.pending = 0 := by
      have hle := h.pending_le
      rw [hphase, if_neg (by decide)] at hle
      exact Nat.le_zero.mp hle
    have hask : e.endQuiet =
        { e with
          autosave := some { a with phase := .saving, rounds := a.rounds + 1 }
          waiting := e.waiting ++ [.autosave a.rounds] } := by
      simp [Editor.endQuiet, h.autosave_eq, hphase]
    rw [hask]
    refine ⟨_, rfl, ?_, h.current, ?_⟩
    · rw [pending] at hpending ⊢
      simp only [if_true]
      rw [← List.append_assoc, List.countP_append, hpending]
      exact Nat.le_refl _
    · intro _ _ _ hparked
      cases hparked
  · have hstill : e.endQuiet = e := by simp [Editor.endQuiet, h.autosave_eq, hphase]
    rw [hstill]
    exact ⟨a, h⟩

/-! ## Saves -/

theorem Attentive.requestSave (h : Attentive p e a) : Attentive p e.requestSave a := by
  refine h.congr rfl ?_ rfl id fun _ f hf => ⟨f, hf, rfl, id⟩
  simp [pending, Editor.requestSave, Requester.isAutosave]

/-- A save that was in the hands of autosave is no longer, and autosave asked for no other. -/
theorem Attentive.pending_rest (h : Attentive p e a) {round : Nat} {rest : List Requester}
    (hpending : e.gate.toList ++ e.waiting = .autosave round :: rest) :
    rest.countP Requester.isAutosave = 0 := by
  have hle := h.pending_le
  rw [pending, hpending, List.countP_cons] at hle
  simp only [Requester.isAutosave, if_true] at hle
  split at hle <;> omega

/-- The end of a save. If it was one of autosave that did not fail, it left the session clean. -/
theorem Attentive.finish (h : Attentive p e a) {requester : Requester} {rest : List Requester}
    (hpending : e.gate.toList ++ e.waiting = requester :: rest) (e' : Editor)
    (hgate : e'.gate = none) (hwaiting : e'.waiting = rest) (hflights : e'.flights = [])
    (hautosave : e'.autosave = e.autosave) (hresults : e'.results = e.results)
    (hdirty : e'.session.isDirty = true → e.session.isDirty = true) {result : SaveResult}
    (hclean : requester.isAutosave = true → p → a.notified = false →
      e'.session.isDirty = true → ∃ error, result = .error error) :
    ∃ b, Attentive p (e'.finish requester result) b := by
  cases requester with
  | caller ticket =>
      refine ⟨a, h.congr hautosave ?_ ?_ hdirty ?_⟩
      · simp [pending, Editor.finish, hgate, hwaiting, hpending, Requester.isAutosave]
      · simp [latestAutosave?, Editor.finish, hresults, Requester.isAutosave]
      · intro _ f hf
        have hf : f ∈ e'.flights := hf
        rw [hflights] at hf
        cases hf
  | autosave round =>
      refine ⟨a.finish result, ?_, ?_, ?_, ?_⟩
      · simp [Editor.finish, hautosave, h.autosave_eq]
      · have hrest := h.pending_rest hpending
        simp [pending, Editor.finish, hgate, hwaiting, hrest]
      · intro _ _ _ f hf
        have hf : f ∈ e'.flights := hf
        rw [hflights] at hf
        cases hf
      · intro hp hnoted hd _
        obtain ⟨error, rfl⟩ := hclean rfl hp hnoted hd
        exact ⟨error, by simp [latestAutosave?, Editor.finish, Requester.isAutosave]⟩

theorem Attentive.beginSave (h : Attentive p e a) (ho : e.Orderly hist) :
    ∃ b, Attentive p e.beginSave b := by
  unfold Editor.beginSave
  split
  · next requester waiting hgate hwaiting =>
    have hnil := ho.flights_eq_nil hgate
    have hpending : e.gate.toList ++ e.waiting = requester :: waiting := by
      rw [hgate, hwaiting]
      rfl
    cases hdirty : e.session.isDirty with
    | true =>
        simp only [hdirty, if_true]
        refine ⟨a, h.autosave_eq, ?_, ?_, h.parked⟩
        · have hle := h.pending_le
          rw [pending, hpending] at hle
          exact hle
        · -- the save that begins takes the session as it is
          intro _ _ _ f hf _
          rw [hnil] at hf
          obtain rfl := List.mem_singleton.mp hf
          exact ⟨rfl, rfl, rfl⟩
    | false =>
        simp only [hdirty, Bool.false_eq_true, if_false]
        refine h.finish hpending { e with waiting } hgate rfl hnil rfl rfl id ?_
        intro _ _ _ hd
        exact absurd hd (Bool.eq_false_iff.mp hdirty)
  · exact ⟨a, h⟩

/-- What the store decides on a running save is not yet known to the session. -/
theorem Attentive.decided (h : Attentive p e a) {n : Nat} {requester : Requester}
    {snapshot : Snapshot} (hflight : e.flights[n]? = some ⟨requester, snapshot, none⟩)
    (verdict : Except StoreError Unit) (store : MemoryStore) (accepted : List Snapshot) :
    Attentive p
      { e with
        flights := e.flights.set n ⟨requester, snapshot, some verdict⟩
        store
        accepted } a := by
  refine h.congr rfl rfl rfl id ?_
  intro _ f hf
  obtain ⟨g, hg, hrequester, hsnapshot⟩ := exists_mem_of_mem_set hflight hf rfl rfl
  refine ⟨g, hg, hrequester, fun hc => ?_⟩
  obtain ⟨hdocument, hgeneration, hrevision⟩ := hc
  rw [hsnapshot] at hdocument hgeneration hrevision
  exact ⟨hdocument, hgeneration, hrevision⟩

theorem Attentive.storeAccepts (h : Attentive p e a) (n : Nat) :
    Attentive p (e.storeAccepts n) a := by
  unfold Editor.storeAccepts
  split
  · next requester snapshot hflight => exact h.decided hflight (.ok ()) _ _
  · exact h

theorem Attentive.storeRefuses (h : Attentive p e a) (n : Nat) (error : StoreError) :
    Attentive p (e.storeRefuses n error) a := by
  unfold Editor.storeRefuses
  split
  · next requester snapshot hflight => exact h.decided hflight (.error error) e.store e.accepted
  · exact h

theorem Attentive.acknowledge (h : Attentive p e a) (ho : e.Orderly hist) (n : Nat) :
    ∃ b, Attentive p (e.acknowledge n) b := by
  unfold Editor.acknowledge
  split
  · next requester snapshot verdict hflight =>
    obtain ⟨rfl, hflights, hgate⟩ := ho.flights_eq_singleton hflight
    have hpending : e.gate.toList ++ e.waiting = requester :: e.waiting := by
      rw [hgate]
      rfl
    have hnil : e.flights.eraseIdx 0 = [] := by rw [hflights, List.eraseIdx_cons_zero]
    have hdirty := e.session.isDirty_of_noted snapshot verdict
    cases verdict with
    | ok _ =>
        refine h.finish hpending
          { e with
            gate := none
            flights := e.flights.eraseIdx 0
            session := e.session.markSaved snapshot }
          rfl rfl hnil rfl rfl hdirty ?_
        -- autosave wrote the session as it is, so that is clean now
        intro hauto hp hnoted hd
        have hcurrent := h.current hp hnoted (hdirty hd) _ (List.mem_of_getElem? hflight) hauto
        exact absurd hd (Bool.eq_false_iff.mp (Session.isDirty_markSaved hcurrent))
    | error error =>
        exact h.finish hpending
          { e with
            gate := none
            flights := e.flights.eraseIdx 0
            session := e.session.markSaveFailed }
          rfl rfl hnil rfl rfl hdirty fun _ _ _ _ => ⟨error, rfl⟩
  · exact ⟨a, h⟩

/-! ## Steps and runs -/

theorem Attentive.step (h : Attentive p e a) (ho : e.Orderly hist) (event : Event)
    (hchange : ∀ edit, event = .change edit → ¬ q) (hkeep : ¬ event.Announces → q → p) :
    ∃ b, Attentive q (e.step event) b := by
  by_cases hannounces : event.Announces
  · rcases hannounces with rfl | ⟨edit, rfl⟩
    · exact ⟨_, h.notify e.session e.commands⟩
    · exact ⟨_, h.notify _ _⟩
  have h := h.mono (hkeep hannounces)
  cases event with
  | edit edit => exact absurd (Or.inr ⟨edit, rfl⟩) hannounces
  | announce => exact absurd (Or.inl rfl) hannounces
  | change edit => exact ⟨a, h.change edit (hchange edit rfl)⟩
  | read document supply =>
      simp only [Editor.step, Editor.read]
      cases e.store.load document supply with
      | error err => exact ⟨a, h⟩
      | ok loaded => exact ⟨a, h.aside e.session.selection e.commands e.preview e.store _⟩
  | finishLoad n => exact ⟨a, h.finishLoad n⟩
  | overwrite document text =>
      exact ⟨a, h.aside e.session.selection e.commands e.preview _ e.reads⟩
  | select id => exact ⟨a, h.aside _ e.commands e.preview e.store e.reads⟩
  | clearSelection => exact ⟨a, h.aside _ e.commands e.preview e.store e.reads⟩
  | setTarget _ | retryPreview | fire _ | answered _ _ =>
      exact ⟨a, h.aside e.session.selection _ _ e.store e.reads⟩
  | deliver now =>
      simp only [Editor.step, Editor.deliver]
      split
      · exact ⟨a, h⟩
      · exact ⟨a, h.aside e.session.selection _ _ e.store e.reads⟩
  | requestSave => exact ⟨a, h.requestSave⟩
  | beginSave => exact h.beginSave ho
  | storeAccepts n => exact ⟨a, h.storeAccepts n⟩
  | storeRefuses n error => exact ⟨a, h.storeRefuses n error⟩
  | acknowledge n => exact h.acknowledge ho n
  | wakeAutosave => exact ⟨a.wake, h.wake ho⟩
  | endQuiet => exact h.endQuiet

end

section

variable (config : Config) (target : Target) (store : MemoryStore) (document : DocumentId)
  (handler : Handler)

theorem exists_attentive_run (henabled : config.autosave.enabled = true) (events : List Event) :
    ∃ a, Attentive (Announced events)
      ((start config target store document handler).run events) a := by
  induction events using List.reverseRecOn with
  | nil =>
      refine ⟨{}, by simp [run, start, henabled], Nat.le_refl _, ?_, ?_⟩
      · intro _ _ _ f hf
        cases hf
      · intro _ _ hdirty
        cases hdirty
  | append_singleton events event ih =>
      obtain ⟨a, ha⟩ := ih
      obtain ⟨hist, ho⟩ := exists_orderly_run config target store document handler events
      have hrun : (start config target store document handler).run (events ++ [event]) =
          ((start config target store document handler).run events).step event := by
        simp [run]
      rw [hrun]
      apply ha.step ho event
      · rintro edit rfl
        exact not_announced_change events edit
      · intro hevent hall
        exact hall.of_concat hevent

/-- Whenever autosave is parked and has taken note of every announcement, the session is clean or
the latest save of autosave failed. -/
theorem parked_clean_or_failed (henabled : config.autosave.enabled = true) (events : List Event)
    (hevents : Announced events) :
    ∃ a, ((start config target store document handler).run events).autosave = some a ∧
      (a.phase = .parked → a.notified = false →
        ((start config target store document handler).run events).session.state = .clean ∨
          ((start config target store document handler).run events).AutosaveFailed) := by
  obtain ⟨a, ha⟩ := exists_attentive_run config target store document handler henabled events
  refine ⟨a, ha.autosave_eq, ?_⟩
  intro hparked hnoted
  by_cases hdirty : ((start config target store document handler).run events).session.isDirty = true
  · exact Or.inr (ha.parked hevents hnoted hdirty hparked)
  · left
    rw [Session.isDirty, Tracker.isDirty, beq_iff_eq] at hdirty
    rw [Session.state]
    generalize Tracker.state _ = state at hdirty ⊢
    cases state with
    | clean => rfl
    | dirty => exact absurd rfl hdirty

end

/-- A change is made while autosave is saving, and announced after that save; the store refuses the
next one. -/
def sampleLateEdit : List Event :=
  [.change (.rename "first"), .announce, .wakeAutosave, .endQuiet, .beginSave,
    .change (.rename "second"), .storeAccepts 0, .acknowledge 0, .announce, .wakeAutosave,
    .endQuiet, .beginSave, .storeRefuses 0 (.unavailable "offline"), .acknowledge 0]

/-- Autosave is parked again with nothing to note, and the session is dirty after its failure. -/
theorem failed_sampleLateEdit :
    Announced sampleLateEdit ∧
      ((start { autosave := { enabled := true } } default {} ⟨"a"⟩ (Handler.new "new")).run
        sampleLateEdit).session.state = .dirty ∧
      ((start { autosave := { enabled := true } } default {} ⟨"a"⟩ (Handler.new "new")).run
        sampleLateEdit).AutosaveFailed := by
  have hannounced : Announced sampleLateEdit := by
    intro edit after hsuffix
    have hafter : Event.announce ∈ after := by
      simp only [sampleLateEdit, List.suffix_cons_iff, List.cons.injEq, reduceCtorEq, false_and,
        false_or, List.suffix_nil, or_false] at hsuffix
      rcases hsuffix with ⟨-, rfl⟩ | ⟨-, rfl⟩ <;> simp
    exact ⟨_, hafter, Or.inl rfl⟩
  obtain ⟨a, ha, hresult⟩ := parked_clean_or_failed { autosave := { enabled := true } } default {}
    ⟨"a"⟩ (Handler.new "new") rfl sampleLateEdit hannounced
  have hdirty : ((start { autosave := { enabled := true } } default {} ⟨"a"⟩
      (Handler.new "new")).run sampleLateEdit).session.state = .dirty := rfl
  have hrest : a.phase = .parked ∧ a.notified = false := by
    obtain rfl := Option.some.inj ha
    exact ⟨rfl, rfl⟩
  refine ⟨hannounced, hdirty, (hresult hrest.1 hrest.2).resolve_left ?_⟩
  rw [hdirty]
  decide

end Editor

end HandlerStudio
