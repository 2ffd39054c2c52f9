import HandlerStudio.Proofs.Editor.Steps
import HandlerStudio.Proofs.Session.Dirty

/-!
# Saves one by one

The session of an editor runs through a history of its own, in which a snapshot is taken when a save
takes the gate and reported when the editor takes note that the store accepted it. `Editor.Orderly`
ties the gate, the running save and all that the store accepted to that history. Every move keeps
it.
-/

namespace HandlerStudio

/-- From an earlier load, or from the same load after fewer edits. -/
def Snapshot.Before (s t : Snapshot) : Prop :=
  s.generation < t.generation ∨ s.generation = t.generation ∧ s.revision < t.revision

/-! ## How sessions go on -/

namespace Session

/-- The session `t` comes later than `s`: after another load, or with these edits made since. -/
def Follows (s : Session) (edits : List Edit) (t : Session) : Prop :=
  s.generation < t.generation ∨
    t.generation = s.generation ∧ t.document = s.document ∧
      t.handler = edits.foldl Edit.apply s.handler ∧ t.revision = s.revision + edits.length

theorem follows_of_same {s t : Session} (hgeneration : t.generation = s.generation)
    (hdocument : t.document = s.document) (hhandler : t.handler = s.handler)
    (hrevision : t.revision = s.revision) : s.Follows [] t :=
  Or.inr ⟨hgeneration, hdocument, hhandler, hrevision⟩

theorem Follows.refl (s : Session) : s.Follows [] s := follows_of_same rfl rfl rfl rfl

theorem Follows.generation_le {s t : Session} {edits : List Edit} (hst : s.Follows edits t) :
    s.generation ≤ t.generation := by
  rcases hst with hlt | ⟨hgen, -⟩
  · exact Nat.le_of_lt hlt
  · exact Nat.le_of_eq hgen.symm

/-- Within one load nothing but the edits makes the difference. -/
theorem Follows.of_generation_eq {s t : Session} {edits : List Edit} (hst : s.Follows edits t)
    (hgen : t.generation = s.generation) :
    t.document = s.document ∧ t.handler = edits.foldl Edit.apply s.handler ∧
      t.tracker.revision = s.tracker.revision + edits.length := by
  rcases hst with hlt | ⟨-, hsame⟩
  · omega
  · exact hsame

theorem Follows.trans {s t u : Session} {edits edits' : List Edit} (hst : s.Follows edits t)
    (htu : t.Follows edits' u) : s.Follows (edits ++ edits') u := by
  rcases hst with hlt | ⟨hgen, hdoc, hhandler, hrev⟩
  · left
    exact Nat.lt_of_lt_of_le hlt htu.generation_le
  · rcases htu with hlt' | ⟨hgen', hdoc', hhandler', hrev'⟩
    · left
      rwa [hgen] at hlt'
    · right
      refine ⟨hgen'.trans hgen, hdoc'.trans hdoc, ?_, ?_⟩
      · rw [hhandler', hhandler, List.foldl_append]
      · rw [hrev', hrev, List.length_append, Nat.add_assoc]

theorem follows_edit (s : Session) (change : Edit) : s.Follows [change] (s.edit change) :=
  Or.inr ⟨rfl, rfl, rfl, rfl⟩

theorem follows_load (s : Session) (document : DocumentId) (handler : Handler)
    (edits : List Edit) : s.Follows edits (s.load document handler) :=
  Or.inl (Nat.lt_succ_self _)

/-- The decision of the store bears on nothing but the tracker, and not on its count of edits. -/
theorem noted_eq (s : Session) (snapshot : Snapshot) (verdict : Except StoreError Unit) :
    ∃ tracker : Tracker, tracker.revision = s.tracker.revision ∧
      Editor.noted s snapshot verdict = { s with tracker } := by
  cases verdict with
  | error error => exact ⟨s.tracker.saveFailed, rfl, rfl⟩
  | ok _ =>
      simp only [Editor.noted, markSaved]
      split
      · exact ⟨s.tracker, rfl, rfl⟩
      · exact ⟨s.tracker.saved snapshot.revision, rfl, rfl⟩

theorem follows_noted (s : Session) (snapshot : Snapshot) (verdict : Except StoreError Unit) :
    s.Follows [] (Editor.noted s snapshot verdict) := by
  obtain ⟨tracker, hrevision, heq⟩ := s.noted_eq snapshot verdict
  rw [heq]
  exact follows_of_same rfl rfl rfl hrevision

theorem History.revision_le_savedRevision {h : History} {s : Snapshot} (hs : s ∈ h.saved)
    (hgen : s.generation = h.session.generation) : s.revision ≤ h.savedRevision := by
  have hmem : s.revision ∈
      (h.saved.filter fun s => s.generation = h.session.generation).map Snapshot.revision :=
    List.mem_map.mpr ⟨s, List.mem_filter.mpr ⟨hs, by simpa using hgen⟩, rfl⟩
  unfold savedRevision
  generalize (h.saved.filter fun s => s.generation = h.session.generation).map Snapshot.revision
    = revisions at hmem ⊢
  induction revisions with
  | nil => cases hmem
  | cons r revisions ih =>
      rw [List.foldr_cons]
      rcases List.mem_cons.mp hmem with hhead | htail
      · omega
      · have hle := ih htail
        omega

end Session

namespace Editor

/-! ## The invariant -/

/-- What ties saves to the history of the session. -/
structure Orderly (e : Editor) (h : Session.History) : Prop where
  faithful : h.Faithful
  session_eq : h.session = e.session
  gated : e.flights.map Flight.requester = e.gate.toList
  flight_taken : ∀ f ∈ e.flights, f.snapshot ∈ h.taken ∧ 0 < f.snapshot.revision
  flight_accepted : ∀ f ∈ e.flights, f.verdict = some (.ok ()) → f.snapshot ∈ e.accepted
  flight_latest : ∀ f ∈ e.flights, f.verdict = none → ∀ s ∈ e.accepted, s.Before f.snapshot
  accepted_taken : ∀ s ∈ e.accepted, s ∈ h.taken ∧ 0 < s.revision
  accepted_saved : ∀ s ∈ e.accepted,
    s ∈ h.saved ∨ ∃ f ∈ e.flights, f.verdict = some (.ok ()) ∧ f.snapshot = s
  saved_accepted : ∀ s ∈ h.saved, s ∈ e.accepted
  accepted_before : e.accepted.Pairwise Snapshot.Before

theorem orderly_start (config : Config) (target : Target) (store : MemoryStore)
    (document : DocumentId) (handler : Handler) :
    (start config target store document handler).Orderly
      (Session.History.start document handler) where
  faithful := Session.History.faithful_start document handler
  session_eq := rfl
  gated := rfl
  flight_taken := fun _ hf => absurd hf List.not_mem_nil
  flight_accepted := fun _ hf => absurd hf List.not_mem_nil
  flight_latest := fun _ hf => absurd hf List.not_mem_nil
  accepted_taken := fun _ hs => absurd hs List.not_mem_nil
  accepted_saved := fun _ hs => absurd hs List.not_mem_nil
  saved_accepted := fun _ hs => absurd hs List.not_mem_nil
  accepted_before := List.Pairwise.nil

section

variable {e : Editor} {h : Session.History}

theorem Orderly.flights_length_le (ho : e.Orderly h) : e.flights.length ≤ 1 := by
  have hlength := congrArg List.length ho.gated
  have hgate : e.gate.toList.length ≤ 1 := by cases e.gate <;> simp
  rw [List.length_map] at hlength
  omega

theorem Orderly.flights_eq_nil (ho : e.Orderly h) (hgate : e.gate = none) : e.flights = [] := by
  have hgated := ho.gated
  rw [hgate] at hgated
  exact List.map_eq_nil_iff.mp hgated

theorem Orderly.flights_eq_singleton (ho : e.Orderly h) {n : Nat} {f : Flight}
    (hget : e.flights[n]? = some f) : n = 0 ∧ e.flights = [f] ∧ e.gate = some f.requester := by
  have hlength := ho.flights_length_le
  obtain ⟨hlt, -⟩ := List.getElem?_eq_some_iff.mp hget
  have hzero : n = 0 := by omega
  subst hzero
  obtain ⟨g, hg⟩ : ∃ g, e.flights = [g] := List.length_eq_one_iff.mp (by omega)
  have hfg : g = f := by simpa [hg] using hget
  subst hfg
  have hgated := ho.gated
  rw [hg] at hgated
  refine ⟨rfl, hg, ?_⟩
  cases hgate : e.gate with
  | none => simp [hgate] at hgated
  | some q => simpa [hgate] using hgated.symm

/-- A session that is dirty saw more edits than anything the store accepted of this load. -/
theorem Orderly.before_snapshot (ho : e.Orderly h) (hgate : e.gate = none)
    (hdirty : e.session.isDirty = true) {s : Snapshot} (hs : s ∈ e.accepted) :
    s.Before e.session.snapshot := by
  have hsaved : s ∈ h.saved := by
    rcases ho.accepted_saved s hs with hsaved | ⟨f, hf, -⟩
    · exact hsaved
    · simp [ho.flights_eq_nil hgate] at hf
  have hle : s.generation ≤ h.session.generation :=
    ho.faithful.generation_le s (ho.accepted_taken s hs).1
  rw [← ho.session_eq] at hdirty ⊢
  rcases Nat.lt_or_eq_of_le hle with hlt | heq
  · exact Or.inl hlt
  · -- dirty means that edits came after the latest one that was reported
    right
    refine ⟨heq, ?_⟩
    have hrev := Session.History.revision_le_savedRevision hsaved heq
    have hlt := ho.faithful.dirty_iff.mp (by simpa [Session.isDirty, Tracker.isDirty] using hdirty)
    have hedits := ho.faithful.revision_eq
    simp only [Session.snapshot, Session.revision]
    omega

theorem Orderly.revision_pos (ho : e.Orderly h) (hdirty : e.session.isDirty = true) :
    0 < e.session.revision := by
  rw [← ho.session_eq] at hdirty ⊢
  have hlt := ho.faithful.dirty_iff.mp (by simpa [Session.isDirty, Tracker.isDirty] using hdirty)
  have hedits := ho.faithful.revision_eq
  simp only [Session.revision]
  omega

/-- A clean session with edits was accepted as it is. -/
theorem Orderly.accepted_of_clean (ho : e.Orderly h) (hclean : e.session.isDirty = false)
    (hpos : 0 < e.session.revision) :
    ∃ s ∈ e.accepted, s.generation = e.session.generation ∧ s.document = e.session.document ∧
      s.revision = e.session.revision ∧ s.handler = e.session.handler := by
  rw [← ho.session_eq] at hclean hpos ⊢
  have hedits := ho.faithful.revision_eq
  have hnot : ¬ h.savedRevision < h.edits := by
    rw [← ho.faithful.dirty_iff]
    simpa [Session.isDirty, Tracker.isDirty] using hclean
  simp only [Session.revision] at hpos ⊢
  rcases h.savedRevision_eq_zero_or with hzero | ⟨s, hs, hgen, hrev⟩
  · omega
  · obtain ⟨hdoc, hle, hhandler⟩ :=
      ho.faithful.records s (ho.faithful.taken_of_saved s hs) hgen
    have hlatest : s.revision = h.edits := Nat.le_antisymm hle (by omega)
    exact ⟨s, ho.saved_accepted s hs, hgen, hdoc, hlatest.trans hedits.symm, hhandler hlatest⟩

/-! ## One move -/

theorem Orderly.congr (ho : e.Orderly h) {e' : Editor} {h' : Session.History}
    (hfaithful : h'.Faithful) (hsession : h'.session = e'.session) (htaken : h'.taken = h.taken)
    (hsaved : h'.saved = h.saved) (hgate : e'.gate = e.gate) (hflights : e'.flights = e.flights)
    (haccepted : e'.accepted = e.accepted) : e'.Orderly h' := by
  refine ⟨hfaithful, hsession, ?_, ?_, ?_, ?_, ?_, ?_, ?_, ?_⟩
  · rw [hflights, hgate]
    exact ho.gated
  · rw [hflights, htaken]
    exact ho.flight_taken
  · rw [hflights, haccepted]
    exact ho.flight_accepted
  · rw [hflights, haccepted]
    exact ho.flight_latest
  · rw [haccepted, htaken]
    exact ho.accepted_taken
  · rw [haccepted, hflights, hsaved]
    exact ho.accepted_saved
  · rw [haccepted, hsaved]
    exact ho.saved_accepted
  · rw [haccepted]
    exact ho.accepted_before

theorem Orderly.begun (ho : e.Orderly h) (hgate : e.gate = none)
    (hdirty : e.session.isDirty = true) (requester : Requester) (waiting : List Requester) :
    Orderly
      { e with
        waiting
        gate := some requester
        flights := e.flights ++ [⟨requester, e.session.snapshot, none⟩] }
      (h.step .snapshot) := by
  have hnil := ho.flights_eq_nil hgate
  rw [hnil]
  refine ⟨ho.faithful.snapshot, ho.session_eq, rfl, ?_, ?_, ?_, ?_, ?_, ho.saved_accepted,
    ho.accepted_before⟩
  · intro f hf
    obtain rfl := List.mem_singleton.mp hf
    refine ⟨List.mem_append_right _ ?_, ho.revision_pos hdirty⟩
    rw [ho.session_eq]
    exact List.mem_singleton_self _
  · intro f hf hverdict
    obtain rfl := List.mem_singleton.mp hf
    cases hverdict
  · intro f hf _ s hs
    obtain rfl := List.mem_singleton.mp hf
    exact ho.before_snapshot hgate hdirty hs
  · intro s hs
    exact ⟨List.mem_append_left _ (ho.accepted_taken s hs).1, (ho.accepted_taken s hs).2⟩
  · intro s hs
    refine (ho.accepted_saved s hs).imp_right ?_
    rw [hnil]
    rintro ⟨f, hf, -⟩
    cases hf

/-- While the running save is undecided or refused, all that the store accepted was reported. -/
theorem Orderly.saved_of_accepted (ho : e.Orderly h) {f : Flight} (hflights : e.flights = [f])
    (hverdict : f.verdict ≠ some (.ok ())) {s : Snapshot} (hs : s ∈ e.accepted) : s ∈ h.saved := by
  rcases ho.accepted_saved s hs with hsaved | ⟨g, hg, hok, -⟩
  · exact hsaved
  · rw [hflights] at hg
    obtain rfl := List.mem_singleton.mp hg
    exact absurd hok hverdict

section

variable {n : Nat} {requester : Requester} {snapshot : Snapshot}

theorem Orderly.accepted (ho : e.Orderly h)
    (hflight : e.flights[n]? = some ⟨requester, snapshot, none⟩) (store : MemoryStore) :
    Orderly
      { e with
        flights := e.flights.set n ⟨requester, snapshot, some (.ok ())⟩
        store
        accepted := e.accepted ++ [snapshot] } h := by
  obtain ⟨rfl, hflights, hgate⟩ := ho.flights_eq_singleton hflight
  have hmem : (⟨requester, snapshot, none⟩ : Flight) ∈ e.flights := by simp [hflights]
  have htaken := ho.flight_taken _ hmem
  rw [hflights, List.set_cons_zero]
  refine ⟨ho.faithful, ho.session_eq, by simp [hgate], ?_, ?_, ?_, ?_, ?_, ?_, ?_⟩
  · intro f hf
    obtain rfl := List.mem_singleton.mp hf
    exact htaken
  · intro f hf _
    obtain rfl := List.mem_singleton.mp hf
    exact List.mem_append_right _ (List.mem_singleton_self _)
  · intro f hf hverdict
    obtain rfl := List.mem_singleton.mp hf
    cases hverdict
  · intro s hs
    rcases List.mem_append.mp hs with hold | hnew
    · exact ho.accepted_taken s hold
    · obtain rfl := List.mem_singleton.mp hnew
      exact htaken
  · intro s hs
    rcases List.mem_append.mp hs with hold | hnew
    · exact Or.inl (ho.saved_of_accepted hflights (by simp) hold)
    · obtain rfl := List.mem_singleton.mp hnew
      exact Or.inr ⟨_, List.mem_singleton_self _, rfl, rfl⟩
  · intro s hs
    exact List.mem_append_left _ (ho.saved_accepted s hs)
  · refine List.pairwise_append.mpr ⟨ho.accepted_before, List.pairwise_singleton _ _, ?_⟩
    intro s hs t ht
    obtain rfl := List.mem_singleton.mp ht
    exact ho.flight_latest _ hmem rfl s hs

theorem Orderly.refused (ho : e.Orderly h)
    (hflight : e.flights[n]? = some ⟨requester, snapshot, none⟩) (error : StoreError) :
    Orderly { e with flights := e.flights.set n ⟨requester, snapshot, some (.error error)⟩ } h := by
  obtain ⟨rfl, hflights, hgate⟩ := ho.flights_eq_singleton hflight
  have htaken := ho.flight_taken ⟨requester, snapshot, none⟩ (by simp [hflights])
  rw [hflights, List.set_cons_zero]
  refine ⟨ho.faithful, ho.session_eq, by simp [hgate], ?_, ?_, ?_, ho.accepted_taken, ?_,
    ho.saved_accepted, ho.accepted_before⟩
  · intro f hf
    obtain rfl := List.mem_singleton.mp hf
    exact htaken
  · intro f hf hverdict
    obtain rfl := List.mem_singleton.mp hf
    cases hverdict
  · intro f hf hverdict
    obtain rfl := List.mem_singleton.mp hf
    cases hverdict
  · intro s hs
    exact Or.inl (ho.saved_of_accepted hflights (by simp) hs)

theorem Orderly.ended (ho : e.Orderly h) {verdict : Except StoreError Unit}
    (hflight : e.flights[n]? = some ⟨requester, snapshot, some verdict⟩)
    (results : List (Requester × SaveResult)) (autosave : Option Autosave) :
    ∃ h', Orderly
      { e with
        gate := none
        flights := e.flights.eraseIdx n
        session := noted e.session snapshot verdict
        results
        autosave } h' := by
  obtain ⟨rfl, hflights, -⟩ := ho.flights_eq_singleton hflight
  have hmem : (⟨requester, snapshot, some verdict⟩ : Flight) ∈ e.flights := by simp [hflights]
  rw [hflights, List.eraseIdx_cons_zero]
  cases verdict with
  | ok _ =>
      obtain ⟨k, hk⟩ := List.mem_iff_getElem?.mp (ho.flight_taken _ hmem).1
      have hfaithful := ho.faithful.step (.markSaved k)
      simp only [Session.History.step, hk] at hfaithful
      refine ⟨_, hfaithful, congrArg (Session.markSaved snapshot) ho.session_eq, rfl,
        fun _ hf => absurd hf List.not_mem_nil, fun _ hf => absurd hf List.not_mem_nil,
        fun _ hf => absurd hf List.not_mem_nil, ho.accepted_taken, ?_, ?_, ho.accepted_before⟩
      · intro s hs
        left
        rcases ho.accepted_saved s hs with hsaved | ⟨f, hf, -, rfl⟩
        · exact List.mem_cons_of_mem _ hsaved
        · rw [hflights] at hf
          obtain rfl := List.mem_singleton.mp hf
          exact List.mem_cons_self
      · exact List.forall_mem_cons.mpr ⟨ho.flight_accepted _ hmem rfl, ho.saved_accepted⟩
  | error error =>
      refine ⟨h.step .markSaveFailed, ho.faithful.step _,
        congrArg Session.markSaveFailed ho.session_eq, rfl,
        fun _ hf => absurd hf List.not_mem_nil, fun _ hf => absurd hf List.not_mem_nil,
        fun _ hf => absurd hf List.not_mem_nil, ho.accepted_taken, ?_, ho.saved_accepted,
        ho.accepted_before⟩
      intro s hs
      exact Or.inl (ho.saved_of_accepted hflights (by simp) hs)

end

theorem Orderly.move (ho : e.Orderly h) {event : Event} {e' : Editor} (hm : e.Move event e') :
    ∃ h', e'.Orderly h' := by
  cases hm with
  | aside selection =>
      have hfaithful : Session.History.Faithful
          { h with session := { h.session with selection } } :=
        ⟨ho.faithful.revision_eq, ho.faithful.savedRevision_eq, ho.faithful.dirty_iff,
          ho.faithful.taken_of_saved, ho.faithful.generation_le, ho.faithful.records,
          ho.faithful.loaded_eq⟩
      exact ⟨_, ho.congr hfaithful (by rw [ho.session_eq]) rfl rfl rfl rfl rfl⟩
  | edited change =>
      exact ⟨_, ho.congr (ho.faithful.edit change) (congrArg (Session.edit change) ho.session_eq)
        rfl rfl rfl rfl rfl⟩
  | loaded n document handler =>
      exact ⟨_, ho.congr (ho.faithful.load document handler)
        (congrArg (Session.load document handler) ho.session_eq) rfl rfl rfl rfl rfl⟩
  | overwritten | read | asked | spared =>
      exact ⟨h, ho.congr ho.faithful ho.session_eq rfl rfl rfl rfl rfl⟩
  | begun requester waiting _ hgate hdirty => exact ⟨_, ho.begun hgate hdirty requester waiting⟩
  | accepted n requester snapshot hflight => exact ⟨h, ho.accepted hflight _⟩
  | refused n requester snapshot error hflight => exact ⟨h, ho.refused hflight error⟩
  | ended n requester snapshot verdict result autosave hflight =>
      exact ho.ended hflight _ autosave

theorem Orderly.run (ho : e.Orderly h) (events : List Event) : ∃ h', (e.run events).Orderly h' :=
  run_induction (P := fun e => ∃ h, e.Orderly h) ⟨h, ho⟩ (fun _ _ _ ⟨_, ho⟩ hm => ho.move hm) events

end

/-- After every run saves and the history of the session agree. -/
theorem exists_orderly_run (config : Config) (target : Target) (store : MemoryStore)
    (document : DocumentId) (handler : Handler) (events : List Event) :
    ∃ h, ((start config target store document handler).run events).Orderly h :=
  (orderly_start config target store document handler).run events

end Editor

end HandlerStudio
