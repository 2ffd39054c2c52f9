import HandlerStudio.Editor.Event

/-!
# What an editor does in one step

`Editor.Move` lists all that an event can come to as far as saves and loads are concerned, with the
editor after it written out and the conditions under which it happens. Every step is such a move, so
what all moves keep is kept by every run.
-/

namespace HandlerStudio

namespace Editor

/-- How many saves autosave asked for. -/
def rounds (e : Editor) : Nat := e.autosave.elim 0 Autosave.rounds

/-- The request was made at some time. -/
def Issued (e : Editor) : Requester → Prop
  | .caller ticket => ticket < e.tickets
  | .autosave round => round < e.rounds

/-- The edits that an event makes. -/
def Event.edits : Event → List Edit
  | .edit c | .change c => [c]
  | _ => []

/-- The edits of a run, in their order. -/
def editsOf (events : List Event) : List Edit := events.flatMap Event.edits

/-- How a session takes the decision of the store on a snapshot. -/
def noted (session : Session) (snapshot : Snapshot) : Except StoreError Unit → Session
  | .ok _ => session.markSaved snapshot
  | .error _ => session.markSaveFailed

inductive Move (e : Editor) (event : Event) : Editor → Prop where
  /-- Only the preview, the selection or the mood of autosave is concerned, or nothing at all. -/
  | aside (selection : Selection) (commands : List Command) (preview : Preview)
      (autosave : Option Autosave)
      (hrounds : autosave.elim 0 Autosave.rounds = e.rounds)
      (hevent : ∀ n, event = .finishLoad n → e.reads[n]? = none) (hquiet : event.edits = []) :
      Move e event
        { e with session := { e.session with selection }, commands, preview, autosave }
  | edited (change : Edit) (commands : List Command) (autosave : Option Autosave)
      (hrounds : autosave.elim 0 Autosave.rounds = e.rounds) (hevent : event.edits = [change]) :
      Move e event { e with session := e.session.edit change, commands, autosave }
  | overwritten (document : DocumentId) (text : String)
      (hevent : event = .overwrite document text) :
      Move e event { e with store := e.store.insertText document text }
  | read (document : DocumentId) (supply rest : IdSupply) (handler : Handler)
      (hevent : event = .read document supply)
      (hload : e.store.load document supply = .ok (handler, rest)) :
      Move e event { e with reads := e.reads ++ [(document, handler)] }
  | loaded (n : Nat) (document : DocumentId) (handler : Handler) (commands : List Command)
      (hevent : event = .finishLoad n) (hread : e.reads[n]? = some (document, handler)) :
      Move e event
        { e with
          reads := e.reads.eraseIdx n
          session := e.session.load document handler
          commands }
  | asked (requester : Requester) (tickets : Nat) (autosave : Option Autosave)
      (htickets : e.tickets ≤ tickets) (hrounds : e.rounds ≤ autosave.elim 0 Autosave.rounds)
      (hnew : ¬ e.Issued requester)
      (hissued : Issued { e with tickets, autosave } requester) (hquiet : event.edits = []) :
      Move e event { e with waiting := e.waiting ++ [requester], tickets, autosave }
  | spared (requester : Requester) (waiting : List Requester) (autosave : Option Autosave)
      (hwaiting : e.waiting = requester :: waiting) (hgate : e.gate = none)
      (hclean : e.session.isDirty = false)
      (hrounds : autosave.elim 0 Autosave.rounds = e.rounds) (hquiet : event.edits = []) :
      Move e event
        { e with
          waiting
          results := e.results ++ [(requester, .ok .alreadyClean)]
          autosave }
  | begun (requester : Requester) (waiting : List Requester)
      (hwaiting : e.waiting = requester :: waiting) (hgate : e.gate = none)
      (hdirty : e.session.isDirty = true) (hquiet : event.edits = []) :
      Move e event
        { e with
          waiting
          gate := some requester
          flights := e.flights ++ [⟨requester, e.session.snapshot, none⟩] }
  | accepted (n : Nat) (requester : Requester) (snapshot : Snapshot)
      (hflight : e.flights[n]? = some ⟨requester, snapshot, none⟩) (hquiet : event.edits = []) :
      Move e event
        { e with
          flights := e.flights.set n ⟨requester, snapshot, some (.ok ())⟩
          store := e.store.save snapshot.document snapshot.handler
          accepted := e.accepted ++ [snapshot] }
  | refused (n : Nat) (requester : Requester) (snapshot : Snapshot) (error : StoreError)
      (hflight : e.flights[n]? = some ⟨requester, snapshot, none⟩) (hquiet : event.edits = []) :
      Move e event
        { e with flights := e.flights.set n ⟨requester, snapshot, some (.error error)⟩ }
  | ended (n : Nat) (requester : Requester) (snapshot : Snapshot)
      (verdict : Except StoreError Unit) (result : SaveResult) (autosave : Option Autosave)
      (hflight : e.flights[n]? = some ⟨requester, snapshot, some verdict⟩)
      (hresult : ∀ outcome, result = .ok outcome → verdict = .ok ())
      (hrounds : autosave.elim 0 Autosave.rounds = e.rounds) (hquiet : event.edits = []) :
      Move e event
        { e with
          gate := none
          flights := e.flights.eraseIdx n
          session := noted e.session snapshot verdict
          results := e.results ++ [(requester, result)]
          autosave }

section

variable (e : Editor) (event : Event)

theorem Move.still (hevent : ∀ n, event = .finishLoad n → e.reads[n]? = none)
    (hquiet : event.edits = []) : e.Move event e :=
  .aside e.session.selection e.commands e.preview e.autosave rfl hevent hquiet

theorem rounds_map {f : Autosave → Autosave} (hf : ∀ a, (f a).rounds = a.rounds) :
    (e.autosave.map f).elim 0 Autosave.rounds = e.rounds := by
  unfold rounds
  cases e.autosave with
  | none => rfl
  | some a => exact hf a

theorem rounds_wake (a : Autosave) : a.wake.rounds = a.rounds := by
  unfold Autosave.wake
  split <;> rfl

theorem finish_eq (requester : Requester) (result : SaveResult) :
    ∃ autosave : Option Autosave, autosave.elim 0 Autosave.rounds = e.rounds ∧
      e.finish requester result =
        { e with results := e.results ++ [(requester, result)], autosave } := by
  cases requester with
  | caller ticket => exact ⟨e.autosave, rfl, rfl⟩
  | autosave round =>
      exact ⟨e.autosave.map (Autosave.finish result), e.rounds_map fun _ => rfl, rfl⟩

theorem move_read (document : DocumentId) (supply : IdSupply) :
    e.Move (.read document supply) (e.step (.read document supply)) := by
  simp only [step, Editor.read]
  cases hload : e.store.load document supply with
  | error err => exact .still e _ (fun _ h => by cases h) rfl
  | ok loaded => exact .read document supply loaded.2 loaded.1 rfl hload

theorem move_finishLoad (n : Nat) : e.Move (.finishLoad n) (e.finishLoad n) := by
  unfold finishLoad
  cases hread : e.reads[n]? with
  | none =>
      refine .still e _ (fun m hm => ?_) rfl
      cases hm
      exact hread
  | some read => exact .loaded n read.1 read.2 _ rfl hread

theorem move_requestSave : e.Move .requestSave e.requestSave :=
  .asked (.caller e.tickets) (e.tickets + 1) e.autosave (Nat.le_succ _) (Nat.le_refl _)
    (Nat.lt_irrefl _) (Nat.lt_succ_self _) rfl

theorem move_endQuiet : e.Move .endQuiet e.endQuiet := by
  unfold endQuiet
  split
  · next a hauto =>
    split
    · have hrounds : e.rounds = a.rounds := by rw [rounds, hauto, Option.elim_some]
      have hnext : ∀ b : Autosave, b.rounds = a.rounds + 1 →
          (some b).elim 0 Autosave.rounds = e.rounds + 1 := by
        intro b hb
        rw [hrounds, Option.elim_some, hb]
      rw [← hrounds]
      refine .asked (.autosave e.rounds) e.tickets _ (Nat.le_refl _) ?_ (Nat.lt_irrefl _) ?_ rfl
      · rw [hnext _ (by rw [hrounds])]
        exact Nat.le_succ _
      · change e.rounds < (some _).elim 0 Autosave.rounds
        rw [hnext _ (by rw [hrounds])]
        exact Nat.lt_succ_self _
    · exact .still e _ (fun _ h => by cases h) rfl
  · exact .still e _ (fun _ h => by cases h) rfl

theorem move_beginSave : e.Move .beginSave e.beginSave := by
  unfold beginSave
  split
  · next requester waiting hgate hwaiting =>
    cases hdirty : e.session.isDirty with
    | true =>
        simp only [hdirty, if_true]
        exact .begun requester waiting hwaiting hgate hdirty rfl
    | false =>
        obtain ⟨autosave, hrounds, hfinish⟩ :=
          finish_eq { e with waiting } requester (.ok .alreadyClean)
        simp only [hdirty, Bool.false_eq_true, if_false]
        rw [hfinish]
        exact .spared requester waiting autosave hwaiting hgate hdirty hrounds rfl
  · exact .still e _ (fun _ h => by cases h) rfl

theorem move_storeAccepts (n : Nat) : e.Move (.storeAccepts n) (e.storeAccepts n) := by
  unfold storeAccepts
  split
  · next requester snapshot hflight => exact .accepted n requester snapshot hflight rfl
  · exact .still e _ (fun _ h => by cases h) rfl

theorem move_storeRefuses (n : Nat) (error : StoreError) :
    e.Move (.storeRefuses n error) (e.storeRefuses n error) := by
  unfold storeRefuses
  split
  · next requester snapshot hflight => exact .refused n requester snapshot error hflight rfl
  · exact .still e _ (fun _ h => by cases h) rfl

theorem move_acknowledge (n : Nat) : e.Move (.acknowledge n) (e.acknowledge n) := by
  unfold acknowledge
  split
  · next requester snapshot verdict hflight =>
    cases verdict with
    | ok _ =>
        simp only
        obtain ⟨autosave, hrounds, hfinish⟩ := finish_eq
          { e with
            gate := none
            flights := e.flights.eraseIdx n
            session := e.session.markSaved snapshot }
          requester (.ok (.saved snapshot.revision (!(e.session.markSaved snapshot).isDirty)))
        rw [hfinish]
        exact .ended n requester snapshot _ _ autosave hflight (fun _ _ => rfl) hrounds
          rfl
    | error error =>
        simp only
        obtain ⟨autosave, hrounds, hfinish⟩ := finish_eq
          { e with
            gate := none
            flights := e.flights.eraseIdx n
            session := e.session.markSaveFailed }
          requester (.error error)
        rw [hfinish]
        exact .ended n requester snapshot _ _ autosave hflight (fun _ h => by cases h)
          hrounds rfl
  · exact .still e _ (fun _ h => by cases h) rfl

theorem move_deliver (now : Nat) : e.Move (.deliver now) (e.deliver now) := by
  unfold deliver
  split
  · exact .still e _ (fun _ h => by cases h) rfl
  · exact .aside e.session.selection _ _ e.autosave rfl (fun _ h => by cases h) rfl

theorem step_move : e.Move event (e.step event) := by
  cases event with
  | edit change => exact .edited change _ _ (e.rounds_map fun _ => rfl) rfl
  | change edit => exact .edited edit _ e.autosave rfl rfl
  | announce =>
      exact .aside e.session.selection e.commands e.preview _ (e.rounds_map fun _ => rfl)
        (fun _ h => by cases h) rfl
  | read document supply => exact e.move_read document supply
  | finishLoad n => exact e.move_finishLoad n
  | overwrite document text => exact .overwritten document text rfl
  | requestSave => exact e.move_requestSave
  | beginSave => exact e.move_beginSave
  | storeAccepts n => exact e.move_storeAccepts n
  | storeRefuses n error => exact e.move_storeRefuses n error
  | acknowledge n => exact e.move_acknowledge n
  | endQuiet => exact e.move_endQuiet
  | deliver now => exact e.move_deliver now
  | wakeAutosave =>
      exact .aside e.session.selection e.commands e.preview _ (e.rounds_map rounds_wake)
        (fun _ h => by cases h) rfl
  | select id =>
      exact .aside (e.session.selection.select id) e.commands e.preview e.autosave rfl
        (fun _ h => by cases h) rfl
  | clearSelection =>
      exact .aside e.session.selection.clear e.commands e.preview e.autosave rfl
        (fun _ h => by cases h) rfl
  | setTarget _ | retryPreview | fire _ | answered _ _ =>
      exact .aside e.session.selection _ _ e.autosave rfl (fun _ h => by cases h) rfl

end

/-! ## Runs -/

/-- What every move keeps is kept by every run. -/
theorem run_induction {P : Editor → Prop} {e : Editor} (hstart : P e)
    (hmove : ∀ e event e', P e → e.Move event e' → P e') (events : List Event) :
    P (e.run events) := by
  induction events generalizing e with
  | nil => exact hstart
  | cons event events ih => exact ih (hmove e event _ hstart (e.step_move event))

/-- Opening another document is a read and a replacement with nothing in between. -/
theorem load_eq_run (e : Editor) {document : DocumentId} {supply rest : IdSupply} {after : Editor}
    (hload : e.load document supply = .ok (after, rest)) :
    after = e.run [.read document supply, .finishLoad e.reads.length] := by
  simp only [load] at hload
  simp only [run, List.foldl_cons, List.foldl_nil, step]
  cases hread : e.read document supply with
  | error err =>
      rw [hread] at hload
      cases hload
  | ok r =>
      rw [hread] at hload
      cases hload
      rfl

end Editor

end HandlerStudio
