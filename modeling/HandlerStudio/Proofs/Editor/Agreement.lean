import HandlerStudio.Proofs.Editor.Saving
import HandlerStudio.Proofs.Handler.RoundTrip

/-!
# When memory and storage agree

A clean session holds what the store has for its document, for it wrote that text or was read from
it. There is one way out: loads do not wait for saves, so a save that was begun before a load may
reach the store after that load has read it. Then the session is clean and the store has something
else.

A `History` says, for every load, how many saves the store had accepted when the load read it.
-/

namespace HandlerStudio

/-! ## Texts and handlers -/

namespace Handler

/-- The handler is what reading the text gives. -/
def StoredAs (h : Handler) (text : String) : Prop :=
  ∃ supply rest, ofText supply text = .ok (h, rest)

/-- Nothing of the handler is lost in its text, save by its depth. -/
structure Representable (h : Handler) : Prop where
  regular : h.Regular
  uniqueIds : Tree.UniqueIds h.body
  undisguised : ∀ n ∈ h.body, n.Undisguised
  extra : ∀ e ∈ h.extra, e.1 ∉ fixedKeys
  doubles : ∀ x, Number.float x ∈ h.toJson.numbers → (Number.float x).Legible

theorem Representable.eq_of_storedAs {h g : Handler} (hr : h.Representable)
    (hg : g.StoredAs h.text) : g = h := by
  obtain ⟨supply, rest, hread⟩ := hg
  rw [ofText_text hr.regular hr.undisguised hr.extra (hr.regular.legible hr.doubles) hr.uniqueIds]
    at hread
  split at hread
  · cases hread
    rfl
  · cases hread

theorem representable_sampleNested (depth : Nat) : (sampleNested depth).Representable :=
  ⟨regular_sampleNested depth, uniqueIds_sampleNested depth, undisguised_sampleNested depth,
    extra_sampleNested depth, doubles_sampleNested depth⟩

end Handler

namespace MemoryStore

def text? (document : DocumentId) (s : MemoryStore) : Option String :=
  Entries.get? document.text s.documents

theorem text?_save (s : MemoryStore) (document other : DocumentId) (h : Handler) :
    (s.save document h).text? other =
      if other = document then some h.text else s.text? other := by
  unfold text? save insertText
  split
  · next heq =>
    rw [heq]
    exact Entries.get?_insert_self _ _ _
  · next hne =>
    refine Entries.get?_insert_of_ne (fun htext => hne ?_) _ _
    cases other
    cases document
    exact congrArg DocumentId.mk htext

/-- What was saved is loaded again unless it is too deep. -/
theorem load_save_eq {h : Handler} (hr : h.Representable) (s : MemoryStore)
    (document : DocumentId) (supply : IdSupply) :
    (s.save document h).load document supply =
      if h.toJson.nesting ≤ Json.nestingLimit then .ok (h, supply)
      else .error (.corrupt document (.unreadable .malformed)) := by
  have hread := Handler.ofText_text hr.regular hr.undisguised hr.extra
    (hr.regular.legible hr.doubles) hr.uniqueIds supply
  have htext : (s.save document h).text? document = some h.text := by
    rw [text?_save, if_pos rfl]
  unfold text? at htext
  rw [load, htext]
  simp only [Handler.ofStored, hread]
  by_cases hdepth : h.toJson.nesting ≤ Json.nestingLimit
  · simp only [if_pos hdepth]
  · simp only [if_neg hdepth]

theorem load_save {h : Handler} (hr : h.Representable)
    (hdepth : h.toJson.nesting ≤ Json.nestingLimit) (s : MemoryStore) (document : DocumentId)
    (supply : IdSupply) : (s.save document h).load document supply = .ok (h, supply) := by
  rw [load_save_eq hr, if_pos hdepth]

theorem exists_of_load {s : MemoryStore} {document : DocumentId} {supply rest : IdSupply}
    {h : Handler} (hload : s.load document supply = .ok (h, rest)) :
    ∃ text, s.text? document = some text ∧ h.StoredAs text := by
  unfold load at hload
  split at hload
  · cases hload
  · next text htext =>
    refine ⟨text, htext, supply, rest, ?_⟩
    unfold Handler.ofStored at hload
    split at hload
    · next r hread =>
      cases hload
      exact hread
    · cases hload

end MemoryStore

namespace Editor

/-! ## What the store has -/

def lastOf (document : DocumentId) (snapshots : List Snapshot) : Option Snapshot :=
  (snapshots.filter fun s => s.document = document).getLast?

theorem lastOf_append (document : DocumentId) (xs ys : List Snapshot) :
    lastOf document (xs ++ ys) = (lastOf document ys).or (lastOf document xs) := by
  simp only [lastOf, List.filter_append, List.getLast?_append]

theorem mem_of_lastOf {document : DocumentId} {snapshots : List Snapshot} {s : Snapshot}
    (hs : lastOf document snapshots = some s) : s ∈ snapshots ∧ s.document = document := by
  have hmem := List.mem_of_getLast? hs
  simpa using hmem

theorem lastOf_eq_some {document : DocumentId} {snapshots : List Snapshot} {s : Snapshot}
    (hs : s ∈ snapshots) (hdocument : s.document = document)
    (hbefore : snapshots.Pairwise Snapshot.Before) (hlast : ∀ t ∈ snapshots, ¬ s.Before t) :
    lastOf document snapshots = some s := by
  obtain ⟨pre, post, rfl⟩ := List.append_of_mem hs
  -- what comes after `s` in the list would have `s` before it
  have hpost : post = [] := by
    cases post with
    | nil => rfl
    | cons t post =>
        have hst := (List.pairwise_cons.mp (List.pairwise_append.mp hbefore).2.1).1 t
          List.mem_cons_self
        exact absurd hst (hlast t (by simp))
  rw [hpost, lastOf_append]
  simp [lastOf, hdocument]

/-- The text of a document after some saves were accepted. -/
def content (initial : MemoryStore) (accepted : List Snapshot) (document : DocumentId) :
    Option String :=
  ((lastOf document accepted).map fun s => s.handler.text).or (initial.text? document)

theorem content_concat (initial : MemoryStore) (accepted : List Snapshot) (s : Snapshot)
    (document : DocumentId) :
    content initial (accepted ++ [s]) document =
      if document = s.document then some s.handler.text
      else content initial accepted document := by
  unfold content
  rw [lastOf_append]
  by_cases heq : document = s.document
  · simp [lastOf, heq]
  · have hne : s.document ≠ document := fun h => heq h.symm
    simp [lastOf, heq, hne]

/-! ## Histories -/

/-- An editor with a record of when its loads read the store. -/
structure History where
  editor : Editor
  /-- How many saves the store had accepted when each unfinished load read it. -/
  readAfter : List Nat := []
  /-- The same for the load that opened the document. -/
  openedAfter : Nat := 0

namespace History

def step (h : History) (event : Event) : History :=
  match event with
  | .finishLoad n =>
      { editor := h.editor.step event
        readAfter := h.readAfter.eraseIdx n
        openedAfter := h.readAfter.getD n h.openedAfter }
  | _ =>
      { h with
        editor := h.editor.step event
        readAfter := h.readAfter ++
          ((h.editor.step event).reads.drop h.editor.reads.length).map fun _ =>
            h.editor.accepted.length }

def run (h : History) (events : List Event) : History := events.foldl step h

theorem step_editor (h : History) (event : Event) :
    (h.step event).editor = h.editor.step event := by
  cases event <;> rfl

theorem run_editor (h : History) (events : List Event) :
    (h.run events).editor = h.editor.run events := by
  induction events generalizing h with
  | nil => rfl
  | cons event events ih =>
      exact (ih (h.step event)).trans (by rw [step_editor]; rfl)

/-- The last save of the open document that the store accepted was begun before the load that opened
the document, and reached the store after that load had read it. -/
def Overtaken (h : History) : Prop :=
  ∃ s ∈ h.editor.accepted.drop h.openedAfter,
    lastOf h.editor.session.document h.editor.accepted = some s ∧
      s.generation < h.editor.session.generation

/-- Loads wait for saves: in the run, none is put in place while a save is running or after the
store has accepted something that the load has not seen. -/
def LoadsWait (h : History) : List Event → Prop
  | [] => True
  | event :: events =>
      (∀ n, event = .finishLoad n → h.editor.flights = [] ∧
        ∀ k, h.readAfter[n]? = some k → k = h.editor.accepted.length) ∧
      (h.step event).LoadsWait events

/-! ## Where the session comes from -/

/-- Reading the document after the first `k` of the accepted saves gives the handler. -/
def ReadAfter (initial : MemoryStore) (accepted : List Snapshot) (k : Nat)
    (document : DocumentId) (handler : Handler) : Prop :=
  k ≤ accepted.length ∧
    ∃ text, content initial (accepted.take k) document = some text ∧ handler.StoredAs text

theorem ReadAfter.concat {initial : MemoryStore} {accepted : List Snapshot} {k : Nat}
    {document : DocumentId} {handler : Handler} (hr : ReadAfter initial accepted k document handler)
    (s : Snapshot) : ReadAfter initial (accepted ++ [s]) k document handler := by
  obtain ⟨hle, hread⟩ := hr
  refine ⟨?_, ?_⟩
  · rw [List.length_append]
    exact Nat.le_add_right_of_le hle
  · rwa [List.take_append_of_le_length hle]

/-- The store has what it accepted, and loads have what they read. -/
structure Sourced (initial : MemoryStore) (h : History) : Prop where
  store_eq : ∀ document,
    h.editor.store.text? document = content initial h.editor.accepted document
  length_eq : h.readAfter.length = h.editor.reads.length
  reads : ∀ (n k : Nat) (document : DocumentId) (handler : Handler),
    h.editor.reads[n]? = some (document, handler) → h.readAfter[n]? = some k →
      ReadAfter initial h.editor.accepted k document handler
  opened : h.editor.session.revision = 0 →
    ReadAfter initial h.editor.accepted h.openedAfter h.editor.session.document
      h.editor.session.handler

section

variable {initial : MemoryStore} {h : History} {event : Event} {e' : Editor}

theorem Sourced.congr (hs : Sourced initial h) (hstore : e'.store = h.editor.store)
    (haccepted : e'.accepted = h.editor.accepted) (hreads : e'.reads = h.editor.reads)
    (hsession : e'.session.revision = 0 → h.editor.session.revision = 0 ∧
      e'.session.document = h.editor.session.document ∧
      e'.session.handler = h.editor.session.handler) :
    Sourced initial { h with editor := e' } := by
  refine ⟨?_, ?_, ?_, ?_⟩
  · rw [hstore, haccepted]
    exact hs.store_eq
  · rw [hreads]
    exact hs.length_eq
  · rw [hreads, haccepted]
    exact hs.reads
  · intro hzero
    obtain ⟨hzero, hdocument, hhandler⟩ := hsession hzero
    rw [haccepted, hdocument, hhandler]
    exact hs.opened hzero

theorem Sourced.read (hs : Sourced initial h) {document : DocumentId} {supply rest : IdSupply}
    {handler : Handler} (hload : h.editor.store.load document supply = .ok (handler, rest)) :
    Sourced initial
      { h with
        editor := { h.editor with reads := h.editor.reads ++ [(document, handler)] }
        readAfter := h.readAfter ++ [h.editor.accepted.length] } := by
  refine ⟨hs.store_eq, ?_, ?_, hs.opened⟩
  · simp [hs.length_eq]
  · -- only the last of the reads is new, and it has seen all that was accepted
    intro n k other handler' hread hk
    rw [List.getElem?_append] at hread hk
    rw [hs.length_eq] at hk
    split at hread
    · next hlt =>
      rw [if_pos hlt] at hk
      exact hs.reads n k other handler' hread hk
    · next hge =>
      rw [if_neg hge] at hk
      obtain ⟨text, htext, hstored⟩ := MemoryStore.exists_of_load hload
      cases List.mem_singleton.mp (List.mem_of_getElem? hread)
      obtain rfl := List.mem_singleton.mp (List.mem_of_getElem? hk)
      refine ⟨Nat.le_refl _, text, ?_, hstored⟩
      rw [List.take_length, ← hs.store_eq]
      exact htext

theorem Sourced.accepted (hs : Sourced initial h) (snapshot : Snapshot) (flights : List Flight) :
    Sourced initial
      { h with
        editor :=
          { h.editor with
            flights
            store := h.editor.store.save snapshot.document snapshot.handler
            accepted := h.editor.accepted ++ [snapshot] } } := by
  refine ⟨?_, hs.length_eq, ?_, ?_⟩
  · intro document
    rw [MemoryStore.text?_save, content_concat, hs.store_eq]
  · intro n k document handler hread hk
    exact (hs.reads n k document handler hread hk).concat snapshot
  · intro hzero
    exact (hs.opened hzero).concat snapshot

theorem Sourced.finishLoad (hs : Sourced initial h) (n : Nat) :
    Sourced initial (h.step (.finishLoad n)) := by
  simp only [History.step, Editor.step, Editor.finishLoad]
  cases hread : h.editor.reads[n]? with
  | none =>
      -- there is no such load, and nothing happens
      have hnone : h.readAfter[n]? = none := by
        rw [List.getElem?_eq_none_iff] at hread ⊢
        rwa [hs.length_eq]
      have herase : h.readAfter.eraseIdx n = h.readAfter :=
        List.eraseIdx_of_length_le (List.getElem?_eq_none_iff.mp hnone)
      rw [herase, List.getD_eq_getElem?_getD, hnone]
      exact hs
  | some read =>
      obtain ⟨document, handler⟩ := read
      obtain ⟨hlt, -⟩ := List.getElem?_eq_some_iff.mp hread
      have hk : h.readAfter[n]? = some (h.readAfter.getD n h.openedAfter) := by
        rw [List.getD_eq_getElem?_getD, List.getElem?_eq_getElem (hs.length_eq ▸ hlt)]
        rfl
      -- the session is now the one that the load read
      refine ⟨hs.store_eq, ?_, ?_, fun _ => hs.reads n _ document handler hread hk⟩
      · simp only [replace, tell, List.length_eraseIdx, hs.length_eq]
      · intro m k other handler' hother hm
        simp only [replace, tell, List.getElem?_eraseIdx] at hother hm
        split at hother
        · next hmn =>
          rw [if_pos hmn] at hm
          exact hs.reads m k other handler' hother hm
        · next hmn =>
          rw [if_neg hmn] at hm
          exact hs.reads (m + 1) k other handler' hother hm

variable (h event) in
/-- A load ends, or the record goes on in one way. -/
theorem step_cases :
    (∃ n, event = .finishLoad n) ∨
      (∀ n, event ≠ .finishLoad n) ∧ h.step event =
        { h with
          editor := h.editor.step event
          readAfter := h.readAfter ++
            ((h.editor.step event).reads.drop h.editor.reads.length).map fun _ =>
              h.editor.accepted.length } := by
  cases event with
  | finishLoad n => exact Or.inl ⟨n, rfl⟩
  | _ => exact Or.inr ⟨fun _ hevent => (by cases hevent), rfl⟩

theorem Sourced.move (hs : Sourced initial h) (hm : h.editor.Move event e')
    (hload : ∀ n, event ≠ .finishLoad n)
    (halone : ∀ document text, event ≠ .overwrite document text) :
    Sourced initial
      { h with
        editor := e'
        readAfter := h.readAfter ++
          (e'.reads.drop h.editor.reads.length).map fun _ => h.editor.accepted.length } := by
  cases hm with
  | overwritten document text hevent => exact absurd hevent (halone document text)
  | loaded n document handler commands hevent => exact absurd hevent (hload n)
  | read document supply rest handler _ hread =>
      simp only [List.drop_left, List.map_cons, List.map_nil]
      exact hs.read hread
  | accepted n requester snapshot =>
      simp only [List.drop_length, List.map_nil, List.append_nil]
      exact hs.accepted snapshot _
  | edited change =>
      simp only [List.drop_length, List.map_nil, List.append_nil]
      exact hs.congr rfl rfl rfl (fun hzero => absurd hzero (Nat.succ_ne_zero _))
  | ended n requester snapshot verdict =>
      simp only [List.drop_length, List.map_nil, List.append_nil]
      obtain ⟨tracker, hrevision, heq⟩ := h.editor.session.noted_eq snapshot verdict
      rw [heq]
      exact hs.congr rfl rfl rfl (fun hzero => ⟨hrevision.symm.trans hzero, rfl, rfl⟩)
  | aside | asked | spared | begun | refused =>
      simp only [List.drop_length, List.map_nil, List.append_nil]
      exact hs.congr rfl rfl rfl (fun hzero => ⟨hzero, rfl, rfl⟩)

theorem Sourced.step (hs : Sourced initial h)
    (halone : ∀ document text, event ≠ .overwrite document text) :
    Sourced initial (h.step event) := by
  rcases step_cases h event with ⟨n, rfl⟩ | ⟨hload, hstep⟩
  · exact hs.finishLoad n
  · rw [hstep]
    exact hs.move (h.editor.step_move event) hload halone

theorem Sourced.run (hs : Sourced initial h) {events : List Event}
    (halone : ∀ event ∈ events, ∀ document text, event ≠ .overwrite document text) :
    Sourced initial (h.run events) := by
  induction events generalizing h with
  | nil => exact hs
  | cons event events ih =>
      obtain ⟨hevent, halone⟩ := List.forall_mem_cons.mp halone
      exact ih (hs.step hevent) halone

/-! ## Loads that wait -/

/-- Every save that is running, or that the store accepted since the open document was read, is one
of this session. -/
structure Abreast (h : History) : Prop where
  flights : ∀ f ∈ h.editor.flights, f.snapshot.generation = h.editor.session.generation
  accepted : ∀ s ∈ h.editor.accepted.drop h.openedAfter,
    s.generation = h.editor.session.generation

theorem Abreast.move (ha : h.Abreast) (hm : h.editor.Move event e')
    (hload : ∀ n, event ≠ .finishLoad n) (readAfter : List Nat) :
    Abreast { h with editor := e', readAfter } := by
  cases hm with
  | loaded n document handler commands hevent => exact absurd hevent (hload n)
  | begun requester waiting =>
      refine ⟨?_, ha.accepted⟩
      intro f hf
      rcases List.mem_append.mp hf with hold | hnew
      · exact ha.flights f hold
      · obtain rfl := List.mem_singleton.mp hnew
        rfl
  | accepted n requester snapshot hflight =>
      have hgen := ha.flights _ (List.mem_of_getElem? hflight)
      constructor
      · intro f hf
        rcases List.mem_or_eq_of_mem_set hf with hold | rfl
        · exact ha.flights f hold
        · exact hgen
      · intro s hs
        rw [List.drop_append] at hs
        rcases List.mem_append.mp hs with hold | hnew
        · exact ha.accepted s hold
        · obtain rfl := List.mem_singleton.mp (List.mem_of_mem_drop hnew)
          exact hgen
  | refused n requester snapshot error hflight =>
      refine ⟨?_, ha.accepted⟩
      intro f hf
      rcases List.mem_or_eq_of_mem_set hf with hold | rfl
      · exact ha.flights f hold
      · exact ha.flights ⟨requester, snapshot, none⟩ (List.mem_of_getElem? hflight)
  | ended n requester snapshot verdict =>
      obtain ⟨tracker, -, heq⟩ := h.editor.session.noted_eq snapshot verdict
      rw [heq]
      exact ⟨fun f hf => ha.flights f (List.mem_of_mem_eraseIdx hf), ha.accepted⟩
  | aside | edited | overwritten | read | asked | spared => exact ⟨ha.flights, ha.accepted⟩

theorem Abreast.finishLoad (ha : h.Abreast) {n : Nat}
    (hlength : h.readAfter.length = h.editor.reads.length) (hflights : h.editor.flights = [])
    (hlatest : ∀ k, h.readAfter[n]? = some k → k = h.editor.accepted.length) :
    (h.step (.finishLoad n)).Abreast := by
  simp only [History.step, Editor.step, Editor.finishLoad, List.getD_eq_getElem?_getD]
  cases hk : h.readAfter[n]? with
  | none =>
      have hnone : h.editor.reads[n]? = none := by
        rw [List.getElem?_eq_none_iff] at hk ⊢
        rwa [← hlength]
      rw [hnone]
      exact ⟨ha.flights, ha.accepted⟩
  | some k =>
      rw [hlatest k hk, Option.getD_some]
      split
      · constructor
        · intro f hf
          simp [replace, tell, hflights] at hf
        · intro s hs
          simp [replace, tell] at hs
      · refine ⟨ha.flights, ?_⟩
        intro s hs
        rw [List.drop_length] at hs
        cases hs

theorem Abreast.run (ha : h.Abreast) (hs : Sourced initial h) {events : List Event}
    (halone : ∀ event ∈ events, ∀ document text, event ≠ .overwrite document text)
    (hwait : h.LoadsWait events) : (h.run events).Abreast := by
  induction events generalizing h with
  | nil => exact ha
  | cons event events ih =>
      obtain ⟨hevent, halone⟩ := List.forall_mem_cons.mp halone
      obtain ⟨hfirst, hwait⟩ := hwait
      refine ih ?_ (hs.step hevent) halone hwait
      rcases step_cases h event with ⟨n, rfl⟩ | ⟨hload, hstep⟩
      · obtain ⟨hflights, hlatest⟩ := hfirst n rfl
        exact ha.finishLoad hs.length_eq hflights hlatest
      · rw [hstep]
        exact ha.move (h.editor.step_move event) hload _

theorem Abreast.not_overtaken (ha : h.Abreast) : ¬ h.Overtaken := by
  rintro ⟨s, hs, -, hlt⟩
  exact Nat.ne_of_lt hlt (ha.accepted s hs)

end

end History

/-! ## Agreement -/

section

variable {e : Editor} {g : Session.History}

theorem Orderly.generation_lt_or_revision_le (ho : e.Orderly g) {s : Snapshot}
    (hs : s ∈ e.accepted) :
    s.generation < e.session.generation ∨
      s.generation = e.session.generation ∧ s.revision ≤ e.session.revision := by
  have htaken := (ho.accepted_taken s hs).1
  have hedits := ho.faithful.revision_eq
  rw [← ho.session_eq]
  refine (Nat.lt_or_eq_of_le (ho.faithful.generation_le s htaken)).imp_right fun hgen => ⟨hgen, ?_⟩
  rw [Session.revision, hedits]
  exact (ho.faithful.records s htaken hgen).revision_le

theorem Orderly.lastOf_of_clean (ho : e.Orderly g) (hclean : e.session.isDirty = false)
    (hpos : 0 < e.session.revision) :
    ∃ s, lastOf e.session.document e.accepted = some s ∧ s.handler = e.session.handler := by
  obtain ⟨s, hs, hgen, hdocument, hrev, hhandler⟩ := ho.accepted_of_clean hclean hpos
  refine ⟨s, lastOf_eq_some hs hdocument ho.accepted_before ?_, hhandler⟩
  intro t ht hbefore
  have hle := ho.generation_lt_or_revision_le ht
  unfold Snapshot.Before at hbefore
  omega

end

/-- Memory and storage agree on the open document: the session has what the store accepted last, or
what was there from the start. Where a handler is more than its text says, the session may have what
the text says. -/
structure Agrees (initial : MemoryStore) (e : Editor) : Prop where
  accepted : ∀ s, lastOf e.session.document e.accepted = some s →
    e.store.text? e.session.document = some s.handler.text ∧
      (s.handler = e.session.handler ∨
        ¬ s.handler.Representable ∧ e.session.handler.StoredAs s.handler.text)
  untouched : lastOf e.session.document e.accepted = none →
    ∃ text, initial.text? e.session.document = some text ∧
      e.store.text? e.session.document = some text ∧ e.session.handler.StoredAs text

theorem Agrees.of_read {initial : MemoryStore} {e : Editor} {text : String}
    (hcontent : content initial e.accepted e.session.document = some text)
    (hstore : e.store.text? e.session.document = some text)
    (hstored : e.session.handler.StoredAs text) : e.Agrees initial := by
  unfold content at hcontent
  constructor
  · intro s hs
    rw [hs, Option.map_some, Option.some_or] at hcontent
    cases hcontent
    refine ⟨hstore, ?_⟩
    by_cases hr : s.handler.Representable
    · exact Or.inl (hr.eq_of_storedAs hstored).symm
    · exact Or.inr ⟨hr, hstored⟩
  · intro hnone
    rw [hnone, Option.map_none, Option.none_or] at hcontent
    exact ⟨text, hcontent, hstore, hstored⟩

theorem exists_start_of_openDocument {config : Config} {store : MemoryStore}
    {document : DocumentId} {supply rest : IdSupply} {e : Editor}
    (hopen : openDocument config store document supply = .ok (e, rest)) :
    ∃ target handler, config.target = .ok target ∧
      store.load document supply = .ok (handler, rest) ∧
      e = start config target store document handler := by
  unfold openDocument at hopen
  split at hopen
  · obtain ⟨target, htarget, hopen⟩ := Except.bind_eq_ok_iff.mp hopen
    obtain ⟨⟨handler, after⟩, hload, hopen⟩ := Except.bind_eq_ok_iff.mp hopen
    cases hopen
    exact ⟨target, handler, Except.mapError_eq_ok_iff.mp htarget,
      Except.mapError_eq_ok_iff.mp hload, rfl⟩
  · cases hopen

theorem exists_of_openDocument {config : Config} {store : MemoryStore} {document : DocumentId}
    {supply rest : IdSupply} {e : Editor}
    (hopen : openDocument config store document supply = .ok (e, rest)) :
    ∃ target handler, store.load document supply = .ok (handler, rest) ∧
      e = start config target store document handler := by
  obtain ⟨target, handler, -, hload, he⟩ := exists_start_of_openDocument hopen
  exact ⟨target, handler, hload, he⟩

theorem History.sourced_start (config : Config) (target : Target) {initial : MemoryStore}
    {document : DocumentId} {supply rest : IdSupply} {handler : Handler}
    (hload : initial.load document supply = .ok (handler, rest)) :
    Sourced initial { editor := start config target initial document handler } where
  store_eq _ := rfl
  length_eq := rfl
  reads _ _ _ _ hread := by cases hread
  opened _ := by
    obtain ⟨text, htext, hstored⟩ := MemoryStore.exists_of_load hload
    exact ⟨Nat.le_refl _, text, htext, hstored⟩

theorem History.agrees_or_overtaken {initial : MemoryStore} {h : History} {g : Session.History}
    (hs : Sourced initial h) (ho : h.editor.Orderly g)
    (hclean : h.editor.session.isDirty = false) : h.editor.Agrees initial ∨ h.Overtaken := by
  have hstore := hs.store_eq h.editor.session.document
  rcases Nat.eq_zero_or_pos h.editor.session.revision with hzero | hpos
  · obtain ⟨-, text, htext, hstored⟩ := hs.opened hzero
    have hsplit : lastOf h.editor.session.document h.editor.accepted =
        (lastOf h.editor.session.document (h.editor.accepted.drop h.openedAfter)).or
          (lastOf h.editor.session.document (h.editor.accepted.take h.openedAfter)) := by
      rw [← lastOf_append, List.take_append_drop]
    cases hlate : lastOf h.editor.session.document (h.editor.accepted.drop h.openedAfter) with
    | none =>
        -- the store has still what the load read
        left
        have hcontent :
            content initial h.editor.accepted h.editor.session.document = some text := by
          rw [← htext, content, content, hsplit, hlate, Option.none_or]
        exact .of_read hcontent (hstore.trans hcontent) hstored
    | some s =>
        -- saves of this session follow an edit, and it has seen none
        right
        have hmem := (mem_of_lastOf hlate).1
        have haccepted := List.mem_of_mem_drop hmem
        have hrev := (ho.accepted_taken s haccepted).2
        refine ⟨s, hmem, by rw [hsplit, hlate, Option.some_or], ?_⟩
        rcases ho.generation_lt_or_revision_le haccepted with hlt | ⟨-, hle⟩
        · exact hlt
        · omega
  · left
    obtain ⟨s, hlast, hhandler⟩ := ho.lastOf_of_clean hclean hpos
    constructor
    · intro t ht
      rw [hlast] at ht
      cases ht
      refine ⟨?_, Or.inl hhandler⟩
      rw [hstore, content, hlast]
      rfl
    · intro hnone
      rw [hlast] at hnone
      cases hnone

/-- A clean session agrees with the store, if nobody else writes to that, unless a load has
overtaken a save. None has if loads wait for saves. -/
theorem clean_agrees_unless_overtaken (config : Config) (initial : MemoryStore)
    (document : DocumentId) (supply rest : IdSupply) (e : Editor)
    (hopen : openDocument config initial document supply = .ok (e, rest)) (events : List Event)
    (halone : ∀ event ∈ events, ∀ document text, event ≠ .overwrite document text)
    (hclean : (e.run events).session.isDirty = false) :
    (e.run events).Agrees initial ∨
      (History.run { editor := e } events).Overtaken ∧
        ¬ History.LoadsWait { editor := e } events := by
  obtain ⟨target, handler, hload, rfl⟩ := exists_of_openDocument hopen
  obtain ⟨g, ho⟩ := exists_orderly_run config target initial document handler events
  have hstart := History.sourced_start config target hload
  have hrun := History.run_editor { editor := start config target initial document handler } events
  rw [← hrun] at ho hclean ⊢
  refine (History.agrees_or_overtaken (hstart.run halone) ho hclean).imp_right fun hover => ?_
  refine ⟨hover, fun hwait => ?_⟩
  have habreast : History.Abreast { editor := start config target initial document handler } :=
    ⟨fun _ hf => absurd hf List.not_mem_nil, fun _ hs => absurd hs List.not_mem_nil⟩
  exact (habreast.run hstart halone hwait).not_overtaken hover

/-! ## Two runs -/

def sampleDocument : DocumentId := ⟨"on-save"⟩

def sampleStore : MemoryStore := MemoryStore.save sampleDocument (Handler.sampleNested 0) {}

def sampleEditor : Editor :=
  start {} default sampleStore sampleDocument (Handler.sampleNested 0)

theorem load_sampleStore (supply : IdSupply) :
    sampleStore.load sampleDocument supply = .ok (Handler.sampleNested 0, supply) :=
  MemoryStore.load_save (Handler.representable_sampleNested 0)
    (by rw [Handler.nesting_sampleNested]; decide) _ _ supply

theorem openDocument_sampleStore :
    openDocument {} sampleStore sampleDocument {} = .ok (sampleEditor, {}) := by
  simp only [openDocument, load_sampleStore]
  rfl

theorem read_sampleStore {e : Editor} (hstore : e.store = sampleStore) :
    e.step (.read sampleDocument {}) =
      { e with reads := e.reads ++ [(sampleDocument, Handler.sampleNested 0)] } := by
  simp only [step, Editor.read, hstore, load_sampleStore]
  rfl

/-- The document is loaded again, edited and saved, one after the other. -/
def sampleTurns : List Event :=
  [.read sampleDocument {}, .finishLoad 0, .edit (.rename "saved"), .requestSave, .beginSave,
    .storeAccepts 0, .acknowledge 0]

/-- The document is loaded again while it is being saved. -/
def sampleRace : List Event :=
  [.edit (.rename "saved"), .requestSave, .beginSave, .read sampleDocument {}, .finishLoad 0,
    .storeAccepts 0, .acknowledge 0]

theorem agrees_sampleTurns :
    (sampleEditor.run sampleTurns).session.isDirty = false ∧
      (sampleEditor.run sampleTurns).Agrees sampleStore := by
  have hread := read_sampleStore (e := sampleEditor) rfl
  have hclean : (sampleEditor.run sampleTurns).session.isDirty = false := by
    simp only [run, sampleTurns, List.foldl_cons, hread]
    rfl
  have hwait : History.LoadsWait { editor := sampleEditor } sampleTurns := by
    simp only [History.LoadsWait, sampleTurns, History.step, hread, reduceCtorEq, false_implies,
      implies_true, true_and, Event.finishLoad.injEq, forall_eq']
    refine ⟨⟨rfl, ?_⟩, trivial⟩
    intro k hk
    exact (Option.some.inj hk).symm
  refine ⟨hclean, ?_⟩
  refine (clean_agrees_unless_overtaken {} sampleStore sampleDocument {} {} sampleEditor
    openDocument_sampleStore sampleTurns (by simp [sampleTurns]) hclean).resolve_right ?_
  exact fun hover => hover.2 hwait

/-- Nothing is being saved, the session is clean, and the store has something else. -/
theorem clean_disagrees_sampleRace :
    openDocument {} sampleStore sampleDocument {} = .ok (sampleEditor, {}) ∧
      (∀ event ∈ sampleRace, ∀ document text, event ≠ .overwrite document text) ∧
      (sampleEditor.run sampleRace).flights = [] ∧ (sampleEditor.run sampleRace).gate = none ∧
      (sampleEditor.run sampleRace).session.isDirty = false ∧
      ∃ s, lastOf (sampleEditor.run sampleRace).session.document
          (sampleEditor.run sampleRace).accepted = some s ∧
        s.handler ≠ (sampleEditor.run sampleRace).session.handler := by
  have hread := read_sampleStore
    (e := ((sampleEditor.step (.edit (.rename "saved"))).step .requestSave).step .beginSave) rfl
  refine ⟨openDocument_sampleStore, by simp [sampleRace], ?_⟩
  simp only [run, sampleRace, List.foldl_cons, List.foldl_nil, hread]
  refine ⟨rfl, rfl, rfl, _, rfl, ?_⟩
  intro heq
  exact absurd (congrArg Handler.name heq) (by decide)

end Editor

end HandlerStudio
