import HandlerStudio.Proofs.Editor.Saving
import Mathlib.Data.List.Induction

/-!
# What a save promises

A save that ends well while its document is still open has written every edit that came before it
was asked for. The argument follows one request from the moment it is asked for, `Editor.Owed`: the
save that is begun for it catches the session at a later point of the run, `Editor.Caught`, and if
none is begun the session was clean, so that an earlier save had written as much.
-/

namespace HandlerStudio

namespace Editor

/-! ## What a move leaves behind -/

section

variable {e e' : Editor} {event : Event}

theorem Move.follows (hm : e.Move event e') : e.session.Follows event.edits e'.session := by
  cases hm with
  | edited change _ _ _ hevent =>
      rw [hevent]
      exact e.session.follows_edit change
  | loaded n document handler => exact e.session.follows_load document handler _
  | ended n requester snapshot verdict _ _ _ _ _ hquiet =>
      rw [hquiet]
      exact e.session.follows_noted snapshot verdict
  | aside _ _ _ _ _ _ hquiet =>
      rw [hquiet]
      exact Session.follows_of_same rfl rfl rfl rfl
  | overwritten _ _ hevent | read _ _ _ _ hevent =>
      rw [hevent]
      exact .refl _
  | asked _ _ _ _ _ _ _ hquiet | spared _ _ _ _ _ _ _ hquiet | begun _ _ _ _ _ hquiet
  | accepted _ _ _ _ hquiet | refused _ _ _ _ _ hquiet =>
      rw [hquiet]
      exact .refl _

theorem Move.mem_accepted (hm : e.Move event e') {s : Snapshot} (hs : s ∈ e.accepted) :
    s ∈ e'.accepted := by
  cases hm with
  | accepted => exact List.mem_append_left _ hs
  | aside | edited | overwritten | read | loaded | asked | spared | begun | refused | ended =>
      exact hs

theorem Move.accepted_cases (hm : e.Move event e') {s : Snapshot} (hs : s ∈ e'.accepted) :
    s ∈ e.accepted ∨ ∃ f ∈ e.flights, f.snapshot = s := by
  cases hm with
  | accepted n requester snapshot hflight =>
      refine (List.mem_append.mp hs).imp_right fun hnew => ?_
      exact ⟨_, List.mem_of_getElem? hflight, (List.mem_singleton.mp hnew).symm⟩
  | aside | edited | overwritten | read | loaded | asked | spared | begun | refused | ended =>
      exact Or.inl hs

/-- The store only accepts a snapshot by saving its handler under the name of its document. -/
theorem Move.accepted_or_saved (hm : e.Move event e') :
    e'.accepted = e.accepted ∨
      ∃ s, e'.accepted = e.accepted ++ [s] ∧ e'.store = e.store.save s.document s.handler := by
  cases hm with
  | accepted n requester snapshot => exact Or.inr ⟨snapshot, rfl, rfl⟩
  | aside | edited | overwritten | read | loaded | asked | spared | begun | refused | ended =>
      exact Or.inl rfl

theorem exists_mem_of_mem_set {flights : List Flight} {n : Nat} {f g : Flight}
    (hget : flights[n]? = some f) {k : Flight} (hk : k ∈ flights.set n g)
    (hrequester : g.requester = f.requester) (hsnapshot : g.snapshot = f.snapshot) :
    ∃ f ∈ flights, f.requester = k.requester ∧ f.snapshot = k.snapshot := by
  rcases List.mem_or_eq_of_mem_set hk with hold | rfl
  · exact ⟨k, hold, rfl, rfl⟩
  · exact ⟨f, List.mem_of_getElem? hget, hrequester.symm, hsnapshot.symm⟩

/-- A save that runs was running before, or it was the next in line and has just taken the gate. -/
theorem Move.flight_cases (hm : e.Move event e') {f : Flight} (hf : f ∈ e'.flights) :
    (∃ g ∈ e.flights, g.requester = f.requester ∧ g.snapshot = f.snapshot) ∨
      f.requester ∈ e.waiting ∧ f.snapshot = e.session.snapshot ∧
        e'.flights = e.flights ++ [f] := by
  cases hm with
  | begun requester waiting hwaiting =>
      rcases List.mem_append.mp hf with hold | hnew
      · exact Or.inl ⟨f, hold, rfl, rfl⟩
      · obtain rfl := List.mem_singleton.mp hnew
        exact Or.inr ⟨by simp [hwaiting], rfl, rfl⟩
  | accepted n requester snapshot hflight =>
      exact Or.inl (exists_mem_of_mem_set hflight hf rfl rfl)
  | refused n requester snapshot error hflight =>
      exact Or.inl (exists_mem_of_mem_set hflight hf rfl rfl)
  | ended n => exact Or.inl ⟨f, List.mem_of_mem_eraseIdx hf, rfl, rfl⟩
  | aside | edited | overwritten | read | loaded | asked | spared =>
      exact Or.inl ⟨f, hf, rfl, rfl⟩

/-- A result was there before, or the next in line found the session clean, or a running save came
to its end. -/
theorem Move.result_cases (hm : e.Move event e') {r : Requester × SaveResult}
    (hr : r ∈ e'.results) :
    r ∈ e.results ∨ (r.1 ∈ e.waiting ∧ e.session.isDirty = false) ∨
      ∃ f ∈ e.flights, f.requester = r.1 ∧
        ∀ outcome, r.2 = .ok outcome → f.verdict = some (.ok ()) := by
  cases hm with
  | spared requester waiting autosave hwaiting hgate hclean =>
      rcases List.mem_append.mp hr with hold | hnew
      · exact Or.inl hold
      · obtain rfl := List.mem_singleton.mp hnew
        exact Or.inr (Or.inl ⟨by simp [hwaiting], hclean⟩)
  | ended n requester snapshot verdict result autosave hflight hresult =>
      rcases List.mem_append.mp hr with hold | hnew
      · exact Or.inl hold
      · obtain rfl := List.mem_singleton.mp hnew
        exact Or.inr (Or.inr ⟨_, List.mem_of_getElem? hflight, rfl,
          fun outcome hok => congrArg some (hresult outcome hok)⟩)
  | aside | edited | overwritten | read | loaded | asked | begun | accepted | refused =>
      exact Or.inl hr

end

/-! ## Points of a run -/

theorem run_follows (e : Editor) (events : List Event) :
    e.session.Follows (editsOf events) (e.run events).session := by
  induction events generalizing e with
  | nil => exact .refl _
  | cons event events ih => exact (e.step_move event).follows.trans (ih _)

/-- The snapshot shows the session as it was at some point of the run. -/
def Caught (e : Editor) (events : List Event) (s : Snapshot) : Prop :=
  ∃ before, before <+: events ∧ s = (e.run before).session.snapshot

theorem caught_last (e : Editor) (events : List Event) :
    e.Caught events (e.run events).session.snapshot :=
  ⟨events, List.prefix_rfl, rfl⟩

namespace Caught

variable {e : Editor} {event : Event} {events : List Event} {s : Snapshot}

theorem concat (hs : e.Caught events s) : e.Caught (events ++ [event]) s := by
  obtain ⟨before, hle, heq⟩ := hs
  exact ⟨before, hle.trans (List.prefix_append _ _), heq⟩

theorem cons (hs : (e.step event).Caught events s) : e.Caught (event :: events) s := by
  obtain ⟨before, hle, heq⟩ := hs
  exact ⟨event :: before, List.cons_prefix_cons.mpr ⟨rfl, hle⟩, heq⟩

theorem generation_le (hs : e.Caught events s) : e.session.generation ≤ s.generation := by
  obtain ⟨before, -, rfl⟩ := hs
  exact (e.run_follows before).generation_le

theorem revision_le (hs : e.Caught events s) (hgen : s.generation = e.session.generation) :
    e.session.revision ≤ s.revision := by
  obtain ⟨before, -, rfl⟩ := hs
  obtain ⟨-, -, hrev⟩ := (e.run_follows before).of_generation_eq hgen
  exact Nat.le_trans (Nat.le_add_right _ _) (Nat.le_of_eq hrev.symm)

end Caught

/-! ## What the store is handed -/

/-- What an event hands to the store: the snapshots of the saves that run only after it. -/
def handedBy (e : Editor) (event : Event) : List Snapshot :=
  ((e.step event).flights.drop e.flights.length).map Flight.snapshot

/-- All that a run hands to the store, the oldest first. -/
def handed (e : Editor) : List Event → List Snapshot
  | [] => []
  | event :: events => e.handedBy event ++ (e.step event).handed events

/-- Only a request that takes the free gate hands something to the store, and that is the session as
it is at that moment. -/
theorem handedBy_cases (e : Editor) (event : Event) :
    e.handedBy event = [] ∨
      ∃ requester waiting, e.gate = none ∧ e.waiting = requester :: waiting ∧
        (e.step event).gate = some requester ∧
        e.handedBy event =
          [{ document := e.session.document
             handler := e.session.handler
             generation := e.session.generation
             revision := e.session.tracker.revision }] := by
  have hm := e.step_move event
  unfold handedBy
  generalize e.step event = e' at hm
  cases hm with
  | begun requester waiting hwaiting hgate =>
      exact Or.inr ⟨requester, waiting, hgate, hwaiting, rfl, by
        simp [Session.snapshot, Session.revision]⟩
  | ended n =>
      left
      have hle : (e.flights.eraseIdx n).length ≤ e.flights.length := List.length_eraseIdx_le _ _
      simp [List.drop_eq_nil_of_le hle]
  | aside | edited | overwritten | read | loaded | asked | spared | accepted | refused =>
      exact Or.inl (by simp)

theorem caught_of_mem_handed {e : Editor} {events : List Event} {s : Snapshot}
    (hs : s ∈ e.handed events) : e.Caught events s := by
  induction events generalizing e with
  | nil => cases hs
  | cons event events ih =>
      rcases List.mem_append.mp hs with hnow | hlater
      · rcases e.handedBy_cases event with hnil | ⟨requester, waiting, -, -, -, heq⟩
        · rw [hnil] at hnow
          cases hnow
        · rw [heq] at hnow
          exact ⟨[], List.nil_prefix, List.mem_singleton.mp hnow⟩
      · exact (ih hlater).cons

theorem handed_pairwise (e : Editor) (events : List Event) :
    (e.handed events).Pairwise fun s t =>
      s.generation = t.generation → s.revision ≤ t.revision := by
  induction events generalizing e with
  | nil => exact List.Pairwise.nil
  | cons event events ih =>
      rw [handed, List.pairwise_append]
      rcases e.handedBy_cases event with hnil | ⟨requester, waiting, -, -, -, heq⟩
      · rw [hnil]
        exact ⟨List.Pairwise.nil, ih _, fun s hs => absurd hs List.not_mem_nil⟩
      · rw [heq]
        refine ⟨List.pairwise_singleton _ _, ih _, ?_⟩
        intro s hs t ht hgen
        obtain rfl := List.mem_singleton.mp hs
        have hcaught : e.Caught (event :: events) t := (caught_of_mem_handed ht).cons
        exact hcaught.revision_le hgen.symm

/-- The store has accepted the snapshot, or works on it. -/
def Entrusted (e : Editor) (s : Snapshot) : Prop :=
  s ∈ e.accepted ∨ ∃ f ∈ e.flights, f.snapshot = s

theorem Move.entrusted_cases {e e' : Editor} {event : Event} (hm : e.Move event e') {s : Snapshot}
    (hs : e'.Entrusted s) :
    e.Entrusted s ∨ s = e.session.snapshot ∧
      (e'.flights.drop e.flights.length).map Flight.snapshot = [s] := by
  rcases hs with haccepted | ⟨f, hf, rfl⟩
  · exact Or.inl (hm.accepted_cases haccepted)
  · rcases hm.flight_cases hf with ⟨g, hg, -, hsnapshot⟩ | ⟨-, hsnapshot, hflights⟩
    · exact Or.inl (Or.inr ⟨g, hg, hsnapshot⟩)
    · exact Or.inr ⟨hsnapshot, by simp [hflights]⟩

theorem mem_handed_of_entrusted {e : Editor} {events : List Event} {s : Snapshot}
    (hs : (e.run events).Entrusted s) : e.Entrusted s ∨ s ∈ e.handed events := by
  induction events generalizing e with
  | nil => exact Or.inl hs
  | cons event events ih =>
      rw [handed, List.mem_append]
      rcases ih hs with hbefore | hlater
      · refine ((e.step_move event).entrusted_cases hbefore).imp_right ?_
        rintro ⟨-, hnow⟩
        left
        rw [handedBy, hnow]
        exact List.mem_singleton_self s
      · exact Or.inr (Or.inr hlater)

/-! ## Requests have numbers of their own -/

/-- The request waits, or its save runs, or it has its result. -/
def Known (e : Editor) (requester : Requester) : Prop :=
  requester ∈ e.waiting ∨ (∃ f ∈ e.flights, f.requester = requester) ∨
    ∃ r ∈ e.results, r.1 = requester

theorem Issued.mono {e e' : Editor} {requester : Requester} (hissued : e.Issued requester)
    (htickets : e.tickets ≤ e'.tickets) (hrounds : e.rounds ≤ e'.rounds) :
    e'.Issued requester := by
  cases requester with
  | caller ticket => exact Nat.lt_of_lt_of_le hissued htickets
  | autosave round => exact Nat.lt_of_lt_of_le hissued hrounds

theorem Move.issued {e e' : Editor} {event : Event} (hm : e.Move event e')
    {requester : Requester} (hissued : e.Issued requester) : e'.Issued requester := by
  cases hm with
  | asked _ tickets autosave htickets hrounds => exact hissued.mono htickets hrounds
  | aside _ _ _ autosave hrounds => exact hissued.mono (Nat.le_refl _) (Nat.le_of_eq hrounds.symm)
  | edited _ _ autosave hrounds => exact hissued.mono (Nat.le_refl _) (Nat.le_of_eq hrounds.symm)
  | spared _ _ autosave _ _ _ hrounds =>
      exact hissued.mono (Nat.le_refl _) (Nat.le_of_eq hrounds.symm)
  | ended _ _ _ _ _ autosave _ _ hrounds =>
      exact hissued.mono (Nat.le_refl _) (Nat.le_of_eq hrounds.symm)
  | overwritten | read | loaded | begun | accepted | refused =>
      exact hissued.mono (Nat.le_refl _) (Nat.le_refl _)

theorem Move.waiting_cases {e e' : Editor} {event : Event} (hm : e.Move event e')
    {requester : Requester} (hwaits : requester ∈ e'.waiting) :
    requester ∈ e.waiting ∨ e'.Issued requester := by
  cases hm with
  | asked requester tickets autosave htickets hrounds hnew hissued =>
      refine (List.mem_append.mp hwaits).imp_right fun hlast => ?_
      obtain rfl := List.mem_singleton.mp hlast
      exact hissued.mono (Nat.le_refl _) (Nat.le_refl _)
  | spared requester waiting autosave hwaiting =>
      rw [hwaiting]
      exact Or.inl (List.mem_cons_of_mem _ hwaits)
  | begun requester waiting hwaiting =>
      rw [hwaiting]
      exact Or.inl (List.mem_cons_of_mem _ hwaits)
  | aside | edited | overwritten | read | loaded | accepted | refused | ended => exact Or.inl hwaits

theorem Move.known {e e' : Editor} {event : Event} (hm : e.Move event e')
    (hknown : ∀ q, e.Known q → e.Issued q) : ∀ q, e'.Known q → e'.Issued q := by
  rintro q (hwaits | ⟨f, hf, rfl⟩ | ⟨r, hr, rfl⟩)
  · rcases hm.waiting_cases hwaits with hold | hissued
    · exact hm.issued (hknown q (Or.inl hold))
    · exact hissued
  · rcases hm.flight_cases hf with ⟨g, hg, hrequester, -⟩ | ⟨hwaits, -⟩
    · exact hm.issued (hknown _ (Or.inr (Or.inl ⟨g, hg, hrequester⟩)))
    · exact hm.issued (hknown _ (Or.inl hwaits))
  · rcases hm.result_cases hr with hold | ⟨hwaits, -⟩ | ⟨f, hf, hrequester, -⟩
    · exact hm.issued (hknown _ (Or.inr (Or.inr ⟨r, hold, rfl⟩)))
    · exact hm.issued (hknown _ (Or.inl hwaits))
    · exact hm.issued (hknown _ (Or.inr (Or.inl ⟨f, hf, hrequester⟩)))

theorem issued_of_known_run (config : Config) (target : Target) (store : MemoryStore)
    (document : DocumentId) (handler : Handler) (events : List Event) (requester : Requester) :
    ((start config target store document handler).run events).Known requester →
      ((start config target store document handler).run events).Issued requester := by
  refine run_induction (P := fun e => ∀ q, e.Known q → e.Issued q) ?_
    (fun _ _ _ hknown hm => hm.known hknown) events requester
  rintro q (hwaits | ⟨f, hf, -⟩ | ⟨r, hr, -⟩)
  · cases hwaits
  · cases hf
  · cases hr

/-- The line of waiting saves only grows by a new request, and that is all that happens then. -/
theorem Move.asked_of_waiting_eq {e e' : Editor} {event : Event} (hm : e.Move event e')
    {requester : Requester} (hwaiting : e'.waiting = e.waiting ++ [requester]) :
    ¬ e.Issued requester ∧ e'.session = e.session ∧ e'.flights = e.flights ∧
      e'.accepted = e.accepted ∧ e'.results = e.results := by
  have hlength : e'.waiting.length = e.waiting.length + 1 := by simp [hwaiting]
  cases hm with
  | asked q tickets autosave htickets hrounds hnew hissued =>
      have hq : q = requester := by simpa using hwaiting
      rw [← hq]
      exact ⟨hnew, rfl, rfl, rfl, rfl⟩
  | spared q waiting autosave hbefore =>
      simp only [hbefore, List.length_cons] at hlength
      omega
  | begun q waiting hbefore =>
      simp only [hbefore, List.length_cons] at hlength
      omega
  | aside | edited | overwritten | read | loaded | accepted | refused | ended =>
      simp only at hlength
      omega

/-! ## From the request to its result -/

/-- What holds of a request after these events, counted from the moment it was asked for. -/
structure Owed (e : Editor) (requester : Requester) (events : List Event) : Prop where
  caught : ∀ t, (e.run events).Entrusted t → t.generation = e.session.generation →
    e.session.revision ≤ t.revision → e.Caught events t
  flight_caught : ∀ f ∈ (e.run events).flights, f.requester = requester →
    e.Caught events f.snapshot
  written : ∀ outcome, (requester, .ok outcome) ∈ (e.run events).results →
    (e.run events).session.generation = e.session.generation → 0 < e.session.revision →
      ∃ t ∈ (e.run events).accepted,
        t.generation = e.session.generation ∧ e.session.revision ≤ t.revision

theorem Orderly.taken_of_entrusted {e : Editor} {h : Session.History} (ho : e.Orderly h)
    {s : Snapshot} (hs : e.Entrusted s) : s ∈ h.taken := by
  rcases hs with haccepted | ⟨f, hf, rfl⟩
  · exact (ho.accepted_taken s haccepted).1
  · exact (ho.flight_taken f hf).1

theorem Orderly.eq_snapshot_of_entrusted {e : Editor} {h : Session.History} (ho : e.Orderly h)
    {s : Snapshot} (hs : e.Entrusted s) (hgen : s.generation = e.session.generation)
    (hrev : e.session.revision ≤ s.revision) : s = e.session.snapshot := by
  rw [← ho.session_eq] at hgen hrev ⊢
  obtain ⟨hdoc, hle, hhandler⟩ := ho.faithful.records s (ho.taken_of_entrusted hs) hgen
  have hedits : h.session.revision = h.edits := ho.faithful.revision_eq
  have hlatest : s.revision = h.edits := by omega
  obtain ⟨document, handler, generation, revision⟩ := s
  simp only at hdoc hgen hlatest hhandler
  rw [Session.snapshot, hdoc, hhandler hlatest, hgen, hlatest, hedits]

theorem Orderly.owed {e e' : Editor} {h : Session.History} (ho : e'.Orderly h) {event : Event}
    (hm : e.Move event e') (hknown : ∀ q, e.Known q → e.Issued q) {requester : Requester}
    (hwaiting : e'.waiting = e.waiting ++ [requester]) : e'.Owed requester [] := by
  obtain ⟨hnew, -, hflights, -, hresults⟩ := hm.asked_of_waiting_eq hwaiting
  refine ⟨?_, ?_, ?_⟩
  · intro t ht hgen hrev
    exact ⟨[], List.prefix_rfl, ho.eq_snapshot_of_entrusted ht hgen hrev⟩
  · -- the number is new, so no save runs for it and no result is there
    intro f hf hrequester
    have hf : f ∈ e.flights := hflights ▸ hf
    exact absurd (hknown requester (Or.inr (Or.inl ⟨f, hf, hrequester⟩))) hnew
  · intro outcome hr
    have hr : (requester, .ok outcome) ∈ e.results := hresults ▸ hr
    exact absurd (hknown requester (Or.inr (Or.inr ⟨_, hr, rfl⟩))) hnew

section

variable {e : Editor} {requester : Requester} {events : List Event} {h : Session.History}

/-- Once the store has accepted what was handed to it for the request, it has accepted enough. -/
theorem Owed.accepted_of_flight (hw : e.Owed requester events) (ho : (e.run events).Orderly h)
    (hgen : (e.run events).session.generation = e.session.generation) {f : Flight}
    (hf : f ∈ (e.run events).flights) (hrequester : f.requester = requester)
    (hverdict : f.verdict = some (.ok ())) :
    ∃ t ∈ (e.run events).accepted,
      t.generation = e.session.generation ∧ e.session.revision ≤ t.revision := by
  have hcaught := hw.flight_caught f hf hrequester
  have hle : f.snapshot.generation ≤ (e.run events).session.generation := by
    rw [← ho.session_eq]
    exact ho.faithful.generation_le _ (ho.flight_taken f hf).1
  have hge := hcaught.generation_le
  have hfgen : f.snapshot.generation = e.session.generation := by omega
  exact ⟨f.snapshot, ho.flight_accepted f hf hverdict, hfgen, hcaught.revision_le hfgen⟩

theorem Owed.concat (hw : e.Owed requester events) (ho : (e.run events).Orderly h)
    (event : Event) : e.Owed requester (events ++ [event]) := by
  have hm := (e.run events).step_move event
  have hnow := e.caught_last events
  have hrun : e.run (events ++ [event]) = (e.run events).step event := by
    simp only [Editor.run, List.foldl_append, List.foldl_cons, List.foldl_nil]
  refine ⟨?_, ?_, ?_⟩ <;> rw [hrun]
  · intro t ht hgen hrev
    rcases hm.entrusted_cases ht with hold | ⟨rfl, -⟩
    · exact (hw.caught t hold hgen hrev).concat
    · exact hnow.concat
  · intro f hf hrequester
    rcases hm.flight_cases hf with ⟨g, hg, hsame, hsnapshot⟩ | ⟨-, hsnapshot, -⟩
    · rw [← hsnapshot]
      exact (hw.flight_caught g hg (hsame.trans hrequester)).concat
    · rw [hsnapshot]
      exact hnow.concat
  · intro outcome hr hgen hpos
    -- the load is still the one of the request, so it was before the event
    have hbefore : (e.run events).session.generation = e.session.generation := by
      have hfirst := (e.run_follows events).generation_le
      have hsecond := hm.follows.generation_le
      omega
    have hwritten : ∃ t ∈ (e.run events).accepted,
        t.generation = e.session.generation ∧ e.session.revision ≤ t.revision := by
      rcases hm.result_cases hr with hold | ⟨-, hclean⟩ | ⟨f, hf, hrequester, hverdict⟩
      · exact hw.written outcome hold hbefore hpos
      · -- nothing to save: an earlier save has written the session as it is
        have hrev : e.session.revision ≤ (e.run events).session.revision :=
          hnow.revision_le hbefore
        obtain ⟨t, ht, htgen, -, htrev, -⟩ := ho.accepted_of_clean hclean (by omega)
        exact ⟨t, ht, htgen.trans hbefore, by omega⟩
      · -- its own save: the snapshot was taken later than the request
        exact hw.accepted_of_flight ho hbefore hf hrequester (hverdict outcome rfl)
    obtain ⟨t, ht, htgen, htrev⟩ := hwritten
    exact ⟨t, hm.mem_accepted ht, htgen, htrev⟩

theorem Owed.run (hw : e.Owed requester []) (ho : e.Orderly h) (events : List Event) :
    e.Owed requester events := by
  induction events using List.reverseRecOn with
  | nil => exact hw
  | append_singleton events event ih =>
      obtain ⟨h', ho'⟩ := ho.run events
      exact ih.concat ho' event

end

/-! ## Whole runs -/

/-- At every point of a run at most one save is running. What an event hands to the store is the
session at the moment that a request takes the free gate. Of one load, the revisions handed over
never decrease and those accepted increase. The store accepts by saving. As long as no other
document is loaded, the session is what the edits make of it. Once a request ends well with its load
still open, the store has accepted the session as it was at some point after the request, so with
all the edits that came before the request and those up to that point. -/
theorem saves_keep_edits (config : Config) (target : Target) (store : MemoryStore)
    (document : DocumentId) (handler : Handler) (events : List Event) :
    let first := start config target store document handler
    let e := first.run events
    e.flights.length ≤ 1 ∧
      (∀ event, e.handedBy event = [] ∨
        ∃ requester waiting, e.gate = none ∧ e.waiting = requester :: waiting ∧
          (e.step event).gate = some requester ∧
          e.handedBy event =
            [{ document := e.session.document
               handler := e.session.handler
               generation := e.session.generation
               revision := e.session.tracker.revision }]) ∧
      (∀ s ∈ e.accepted, s ∈ first.handed events) ∧
      (∀ event, (e.step event).accepted = e.accepted ∨
        ∃ s, (e.step event).accepted = e.accepted ++ [s] ∧
          (e.step event).store = e.store.save s.document s.handler) ∧
      ((first.handed events).Pairwise fun s t =>
        s.generation = t.generation → s.revision ≤ t.revision) ∧
      (e.accepted.Pairwise fun s t => s.generation = t.generation → s.revision < t.revision) ∧
      (∀ more, (e.run more).session.generation = e.session.generation →
        (e.run more).session.document = e.session.document ∧
          (e.run more).session.handler = (editsOf more).foldl Edit.apply e.session.handler ∧
          (e.run more).session.tracker.revision =
            e.session.tracker.revision + (editsOf more).length) ∧
      ∀ event requester more outcome, (e.step event).waiting = e.waiting ++ [requester] →
        let last := (e.step event).run more
        (requester, .ok outcome) ∈ last.results →
          last.session.generation = e.session.generation → 0 < e.session.tracker.revision →
            ∃ s ∈ last.accepted, ∃ before t,
              before <+: more ∧ t = ((e.step event).run before).session ∧
              s = { document := t.document
                    handler := t.handler
                    generation := t.generation
                    revision := t.tracker.revision } ∧
              t.generation = e.session.generation ∧ t.document = e.session.document ∧
              t.handler = (editsOf before).foldl Edit.apply e.session.handler ∧
              t.tracker.revision = e.session.tracker.revision + (editsOf before).length := by
  intro first e
  obtain ⟨h, ho⟩ := exists_orderly_run config target store document handler events
  refine ⟨ho.flights_length_le, e.handedBy_cases, ?_,
    fun event => (e.step_move event).accepted_or_saved, first.handed_pairwise events, ?_,
    fun more hgen => (e.run_follows more).of_generation_eq hgen, ?_⟩
  · intro s hs
    have hentrusted : (first.run events).Entrusted s := Or.inl hs
    rcases mem_handed_of_entrusted hentrusted with (hold | ⟨f, hf, -⟩) | hhanded
    · cases hold
    · cases hf
    · exact hhanded
  · refine ho.accepted_before.imp ?_
    rintro s t (hlt | ⟨-, hrev⟩) hgen
    · omega
    · exact hrev
  · intro event requester more outcome hwaiting last hr hgen hpos
    have hm := e.step_move event
    have hknown := issued_of_known_run config target store document handler events
    obtain ⟨h', ho'⟩ := ho.move hm
    have hw : (e.step event).Owed requester more := (ho'.owed hm hknown hwaiting).run ho' more
    obtain ⟨-, hsession, -⟩ := hm.asked_of_waiting_eq hwaiting
    obtain ⟨s, hs, hsgen, hsrev⟩ := hw.written outcome hr (hsession ▸ hgen) (hsession ▸ hpos)
    obtain ⟨before, hle, rfl⟩ := hw.caught s (Or.inl hs) hsgen hsrev
    have hsame := ((e.step event).run_follows before).of_generation_eq hsgen
    rw [hsession] at hsame
    exact ⟨_, hs, before, _, hle, rfl, rfl, hsgen.trans (congrArg _ hsession), hsame⟩

/-- An edit and its save, and another edit while that save runs. -/
def sampleBusy : List Event :=
  [.edit (.rename "first"), .requestSave, .beginSave, .edit (.setAsync false)]

/-- The running save ends, and the one that waits behind it runs while an edit comes too late. -/
def sampleNextSave : List Event :=
  [.storeAccepts 0, .acknowledge 0, .beginSave, .edit (.rename "late"), .storeAccepts 0,
    .acknowledge 0]

theorem runs_sampleNextSave :
    let e := (start {} default {} ⟨"a"⟩ (Handler.new "new")).run sampleBusy
    let last := (e.step .requestSave).run sampleNextSave
    e.flights.length = 1 ∧ e.session.tracker.revision = 2 ∧
      last.session.generation = e.session.generation ∧ last.session.isDirty = true ∧
      last.results = [(.caller 0, .ok (.saved 1 false)), (.caller 1, .ok (.saved 2 false))] ∧
      last.accepted.map (fun s => (s.handler.name, s.handler.isAsync, s.revision)) =
        [("first", true, 1), ("first", false, 2)] :=
  ⟨rfl, rfl, rfl, rfl, rfl, rfl⟩

/-- The save asked for while another one runs is not dropped: it writes the edit that the running
one missed. -/
theorem saved_sampleNextSave :
    let e := (start {} default {} ⟨"a"⟩ (Handler.new "new")).run sampleBusy
    let last := (e.step .requestSave).run sampleNextSave
    (.caller 1, .ok (.saved 2 false)) ∈ last.results ∧
      last.session.generation = e.session.generation ∧ e.session.tracker.revision = 2 ∧
      ∃ s ∈ last.accepted, s.document = ⟨"a"⟩ ∧ s.generation = 0 ∧ 2 ≤ s.revision := by
  intro e last
  obtain ⟨-, hedits, hload, -, hresults, -⟩ := runs_sampleNextSave
  have hresult : (.caller 1, .ok (.saved 2 false)) ∈ last.results := by
    rw [hresults]
    simp
  obtain ⟨-, -, -, -, -, -, -, hkept⟩ :=
    saves_keep_edits {} default {} ⟨"a"⟩ (Handler.new "new") sampleBusy
  obtain ⟨s, hs, before, t, -, -, rfl, hgeneration, hdocument, -, hrevision⟩ :=
    hkept .requestSave (.caller 1) sampleNextSave (.saved 2 false) rfl hresult hload (by decide)
  exact ⟨hresult, hload, hedits, _, hs, hdocument, hgeneration, hrevision ▸ Nat.le_add_right 2 _⟩

end Editor

end HandlerStudio
