import HandlerStudio.Proofs.Session.History

/-!
# When a session is dirty

A session is dirty exactly when it saw more edits since the latest load than the best of its saved
snapshots had seen. Hence the handler of a clean session is the one that was loaded, or the one in
a saved snapshot. Both follow from what ties the tracker of a session to its history.
-/

namespace HandlerStudio

namespace Session.History

/-- The greatest revision among the saved snapshots of the current generation; zero if there is
none. -/
def savedRevision (h : History) : Nat :=
  ((h.saved.filter fun s => s.generation = h.session.generation).map Snapshot.revision).foldr max 0

/-- A snapshot of a document that has seen a number of edits by now. -/
structure Records (document : DocumentId) (handler : Handler) (edits : Nat) (s : Snapshot) :
    Prop where
  document_eq : s.document = document
  revision_le : s.revision ≤ edits
  handler_eq : s.revision = edits → s.handler = handler

/-- What ties a session to its history. -/
structure Faithful (h : History) : Prop where
  revision_eq : h.session.tracker.revision = h.edits
  savedRevision_eq : h.session.tracker.savedRevision = h.savedRevision
  dirty_iff : h.session.tracker.state = .dirty ↔ h.savedRevision < h.edits
  taken_of_saved : ∀ s ∈ h.saved, s ∈ h.taken
  generation_le : ∀ s ∈ h.taken, s.generation ≤ h.session.generation
  records : ∀ s ∈ h.taken, s.generation = h.session.generation →
    Records h.session.document h.session.handler h.edits s
  loaded_eq : h.edits = 0 → h.session.handler = h.loaded

theorem foldr_max_eq_zero_or_mem (xs : List Nat) :
    xs.foldr max 0 = 0 ∨ xs.foldr max 0 ∈ xs := by
  induction xs with
  | nil => exact Or.inl rfl
  | cons x xs ih =>
      rw [List.foldr_cons]
      rcases Nat.le_total x (xs.foldr max 0) with hle | hle
      · rw [Nat.max_eq_right hle]
        exact ih.imp_right (List.mem_cons_of_mem _)
      · rw [Nat.max_eq_left hle]
        exact Or.inr List.mem_cons_self

/-- The greatest saved revision is zero, or that of a saved snapshot. -/
theorem savedRevision_eq_zero_or (h : History) :
    h.savedRevision = 0 ∨
      ∃ s ∈ h.saved, s.generation = h.session.generation ∧ s.revision = h.savedRevision := by
  rcases foldr_max_eq_zero_or_mem ((h.saved.filter fun s =>
    s.generation = h.session.generation).map Snapshot.revision) with hzero | hmem
  · exact Or.inl hzero
  · obtain ⟨s, hs, hrev⟩ := List.mem_map.mp hmem
    obtain ⟨hsaved, hgen⟩ := List.mem_filter.mp hs
    exact Or.inr ⟨s, hsaved, by simpa using hgen, hrev⟩

theorem Faithful.savedRevision_le {h : History} (hf : h.Faithful) :
    h.savedRevision ≤ h.edits := by
  rcases h.savedRevision_eq_zero_or with hzero | ⟨s, hs, hgen, hrev⟩
  · omega
  · rw [← hrev]
    exact (hf.records s (hf.taken_of_saved s hs) hgen).revision_le

theorem faithful_start (document : DocumentId) (handler : Handler) :
    (start document handler).Faithful where
  revision_eq := rfl
  savedRevision_eq := rfl
  dirty_iff := by simp [start, Session.start, savedRevision]
  taken_of_saved := by simp [start]
  generation_le := by simp [start]
  records := by simp [start]
  loaded_eq := fun _ => rfl

/-! ## One action -/

theorem Faithful.edit {h : History} (hf : h.Faithful) (e : Edit) :
    (h.step (.edit e)).Faithful where
  revision_eq := congrArg (· + 1) hf.revision_eq
  savedRevision_eq := hf.savedRevision_eq
  dirty_iff := by
    have hle := hf.savedRevision_le
    have hsame : (h.step (.edit e)).savedRevision = h.savedRevision := rfl
    rw [hsame]
    exact ⟨fun _ => Nat.lt_succ_of_le hle, fun _ => rfl⟩
  taken_of_saved := hf.taken_of_saved
  generation_le := hf.generation_le
  records := by
    intro s hs hgen
    obtain ⟨hdoc, hle, -⟩ := hf.records s hs hgen
    have hlt : s.revision < h.edits + 1 := Nat.lt_succ_of_le hle
    exact ⟨hdoc, Nat.le_of_lt hlt, fun heq => absurd heq (Nat.ne_of_lt hlt)⟩
  loaded_eq := fun hzero => absurd hzero (Nat.succ_ne_zero _)

theorem Faithful.load {h : History} (hf : h.Faithful) (document : DocumentId)
    (handler : Handler) : (h.step (.load document handler)).Faithful := by
  -- no snapshot is of the new generation yet
  have hold : ∀ s ∈ h.taken, s.generation ≠ h.session.generation + 1 := by
    intro s hs
    have hle := hf.generation_le s hs
    omega
  have hzero : (h.step (.load document handler)).savedRevision = 0 := by
    rcases savedRevision_eq_zero_or (h.step (.load document handler)) with hzero | ⟨s, hs, hgen, -⟩
    · exact hzero
    · exact absurd hgen (hold s (hf.taken_of_saved s hs))
  refine ⟨rfl, hzero.symm, ?_, hf.taken_of_saved, ?_, ?_, fun _ => rfl⟩
  · rw [hzero]
    simp [step, Session.load]
  · exact fun s hs => Nat.le_succ_of_le (hf.generation_le s hs)
  · exact fun s hs hgen => absurd hgen (hold s hs)

theorem Faithful.snapshot {h : History} (hf : h.Faithful) : (h.step .snapshot).Faithful where
  revision_eq := hf.revision_eq
  savedRevision_eq := hf.savedRevision_eq
  dirty_iff := hf.dirty_iff
  taken_of_saved := fun s hs => List.mem_append_left _ (hf.taken_of_saved s hs)
  generation_le := by
    intro s hs
    rcases List.mem_append.mp hs with hold | hnew
    · exact hf.generation_le s hold
    · obtain rfl := List.mem_singleton.mp hnew
      exact Nat.le_refl _
  records := by
    intro s hs hgen
    rcases List.mem_append.mp hs with hold | hnew
    · exact hf.records s hold hgen
    · obtain rfl := List.mem_singleton.mp hnew
      exact ⟨rfl, Nat.le_of_eq hf.revision_eq, fun _ => rfl⟩
  loaded_eq := hf.loaded_eq

/-- A report of a snapshot of another generation changes nothing but the record. -/
theorem Faithful.reportOld {h : History} (hf : h.Faithful) {s : Snapshot} (htaken : s ∈ h.taken)
    (hgen : s.generation ≠ h.session.generation) :
    Faithful { h with session := h.session.markSaved s, saved := s :: h.saved } := by
  have hsession : h.session.markSaved s = h.session := by simp [Session.markSaved, hgen]
  have hsame : savedRevision { h with session := h.session, saved := s :: h.saved } =
      h.savedRevision := by
    simp [savedRevision, hgen]
  rw [hsession]
  exact ⟨hf.revision_eq, by rw [hsame, hf.savedRevision_eq], by rw [hsame, hf.dirty_iff],
    List.forall_mem_cons.mpr ⟨htaken, hf.taken_of_saved⟩, hf.generation_le, hf.records,
    hf.loaded_eq⟩

/-- A report of a snapshot of the current generation raises the saved revision to the snapshot's. -/
theorem Faithful.reportCurrent {h : History} (hf : h.Faithful) {s : Snapshot}
    (htaken : s ∈ h.taken) (hgen : s.generation = h.session.generation) :
    Faithful { h with session := h.session.markSaved s, saved := s :: h.saved } := by
  have hsession : h.session.markSaved s =
      { h.session with tracker := h.session.tracker.saved s.revision } := by
    simp [Session.markSaved, hgen, (hf.records s htaken hgen).document_eq]
  have hmax : savedRevision { h with
      session := { h.session with tracker := h.session.tracker.saved s.revision },
      saved := s :: h.saved } = max s.revision h.savedRevision := by
    simp [savedRevision, hgen]
  rw [hsession]
  refine ⟨hf.revision_eq, ?_, ?_, List.forall_mem_cons.mpr ⟨htaken, hf.taken_of_saved⟩,
    hf.generation_le, hf.records, hf.loaded_eq⟩
  · rw [hmax, Nat.max_comm, ← hf.savedRevision_eq]
    rfl
  · rw [hmax]
    have hrev := hf.revision_eq
    have hdirty := hf.dirty_iff
    simp only [Tracker.saved, hf.savedRevision_eq, hrev]
    split
    · next hle =>
      simp only [DirtyState.transition]
      constructor
      · intro hclean
        cases hclean
      · omega
    · next hlt =>
      rw [hdirty]
      omega

theorem Faithful.step {h : History} (hf : h.Faithful) (a : Action) : (h.step a).Faithful := by
  cases a with
  | edit e => exact hf.edit e
  | load document handler => exact hf.load document handler
  | snapshot => exact hf.snapshot
  | markSaved n =>
      simp only [History.step]
      cases hget : h.taken[n]? with
      | none => exact hf
      | some s =>
          have htaken : s ∈ h.taken := List.mem_of_getElem? hget
          by_cases hgen : s.generation = h.session.generation
          · exact hf.reportCurrent htaken hgen
          · exact hf.reportOld htaken hgen
  | select id | clearSelection | markSaveFailed =>
      exact ⟨hf.revision_eq, hf.savedRevision_eq, hf.dirty_iff, hf.taken_of_saved,
        hf.generation_le, hf.records, hf.loaded_eq⟩

/-! ## Whole runs -/

theorem faithful_run (document : DocumentId) (handler : Handler) (actions : List Action) :
    ((start document handler).run actions).Faithful :=
  run_induction (faithful_start document handler) (fun _ a hf (_ : True) => hf.step a)
    fun _ _ => trivial

/-- The handler of a session without unsaved edits is the loaded one or a saved one. -/
theorem Faithful.handler_eq {h : History} (hf : h.Faithful) (hle : h.edits ≤ h.savedRevision) :
    h.session.handler = h.loaded ∨
      ∃ s ∈ h.saved, s.generation = h.session.generation ∧ s.handler = h.session.handler := by
  rcases h.savedRevision_eq_zero_or with hzero | ⟨s, hs, hgen, hrev⟩
  · exact Or.inl (hf.loaded_eq (by omega))
  · have hrecords := hf.records s (hf.taken_of_saved s hs) hgen
    have hlatest : s.revision = h.edits :=
      Nat.le_antisymm hrecords.revision_le (by omega)
    exact Or.inr ⟨s, hs, hgen, hrecords.handler_eq hlatest⟩

/-- After every run, the session is dirty exactly when it saw more edits since the latest load than
the best of its saved snapshots had seen; a clean session holds what was loaded or saved. -/
theorem dirty_iff_savedRevision_lt (document : DocumentId) (handler : Handler)
    (actions : List Action) :
    let h := (start document handler).run actions
    (h.session.state = .dirty ↔ h.savedRevision < h.edits) ∧
      (h.session.state = .clean →
        h.session.handler = h.loaded ∨
          ∃ s ∈ h.saved, s.generation = h.session.generation ∧
            s.handler = h.session.handler) := by
  intro h
  have hf : h.Faithful := faithful_run document handler actions
  refine ⟨hf.dirty_iff, fun hclean => hf.handler_eq ?_⟩
  have hnot : ¬ h.savedRevision < h.edits := by
    rw [← hf.dirty_iff]
    intro hdirty
    simp [Session.state, hdirty] at hclean
  omega

end Session.History

end HandlerStudio
