import HandlerStudio.Proofs.Preview.LatestWins

/-!
# A settled preview is up to date

As long as no request is due, the latest request was made for the tree, the target and the name that
the preview has now. Hence what a preview shows that is not loading is the answer for these.
-/

namespace HandlerStudio

theorem Scheduler.phase_eq_idle_iff (s : Scheduler) :
    s.phase = .idle ↔ s.deadline = none ∧ s.issued ≤ s.settled := by
  unfold phase isAwaiting
  cases s.deadline with
  | none => simp
  | some deadline => simp

namespace Preview

theorem isLoading_eq_false_iff (p : Preview) : p.isLoading = false ↔ p.scheduler.phase = .idle := by
  simp [isLoading]

/-- The request asks for what the preview has now. -/
def Matches (p : Preview) (r : Request) : Prop :=
  r.body = p.body ∧ r.target = p.target ∧ r.artifact = p.artifact

namespace History

/-- What no pending change means for the latest request and for what is shown. -/
structure Current (h : History) : Prop where
  loading_eq : h.preview.state.loading = h.preview.isLoading
  latest : h.preview.scheduler.deadline = none →
    ∃ r, h.requests.getLast? = some r ∧ r.seq = h.preview.scheduler.issued ∧ h.preview.Matches r
  shown : h.preview.scheduler.deadline = none →
    h.preview.scheduler.settled = h.preview.scheduler.issued →
      ∃ result, h.answers.lookup h.preview.scheduler.issued = some result ∧
        h.preview.state.display = .ofResult h.preview.artifact result

theorem current_start (debounce : Nat) (target : Target) (artifact : String) (body : Body)
    (now : Nat) : (start debounce target artifact body now).Current where
  loading_eq := rfl
  latest := fun hnone => by cases hnone
  shown := fun hnone => by cases hnone

/-! ## One event -/

theorem Current.command {h : History} (hc : h.Current) (now : Nat) (c : Command) :
    (h.step (.command now c)).Current := by
  simp only [step]
  rcases receive_cases now h.preview c with hsame | ⟨q, hq, -, -⟩
  · rw [hsame]
    exact hc
  · -- after a change a request is due
    rw [hq]
    exact ⟨rfl, fun hnone => (by cases hnone), fun hnone => (by cases hnone)⟩

theorem Current.fire {h : History} (hcurrent : h.Current) (hc : h.Consistent) (now : Nat) :
    (h.step (.fire now)).Current := by
  simp only [step]
  rcases fire_cases now h.preview with hfire | hfire
  · rw [hfire]
    simpa using hcurrent
  · rw [hfire]
    refine ⟨rfl, ?_, ?_⟩
    · intro _
      exact ⟨h.preview.nextRequest, by simp, rfl, rfl, rfl, rfl⟩
    · -- the new request has no answer yet
      intro _ heq
      have hle := hc.settled_le
      simp only [publishProgress, publish] at heq
      omega

theorem Current.answer {h : History} (hcurrent : h.Current) (hc : h.Consistent) (seq : Nat)
    (result : Except GeneratorError Output) : (h.step (.answer seq result)).Current := by
  simp only [step]
  split
  · next hseq =>
    by_cases hlatest : seq = h.preview.scheduler.issued
    · subst hlatest
      have hnew : h.answers.lookup h.preview.scheduler.issued = none := by
        rw [List.lookup_eq_none_iff]
        intro a ha
        rw [bne_iff_ne]
        intro heq
        exact hseq.2 (List.mem_map.mpr ⟨a, ha, heq.symm⟩)
      rw [answered_issued result (hc.settled_lt_of_outstanding hseq)]
      refine ⟨?_, hcurrent.latest, fun _ _ => ⟨result, ?_, rfl⟩⟩
      · cases hdeadline : h.preview.scheduler.deadline <;>
          simp [publish, isLoading, Scheduler.phase, Scheduler.isAwaiting, hdeadline]
      · simp [publish, List.lookup_append, hnew]
    · rw [answered_of_ne_issued result hlatest]
      refine ⟨hcurrent.loading_eq, hcurrent.latest, ?_⟩
      intro hnone heq
      obtain ⟨shown, hlookup, hdisplay⟩ := hcurrent.shown hnone heq
      exact ⟨shown, by simp [List.lookup_append, hlookup], hdisplay⟩
  · exact hcurrent

theorem Current.step {h : History} (hcurrent : h.Current) (hc : h.Consistent) (event : Event) :
    (h.step event).Current := by
  cases event with
  | command now c => exact hcurrent.command now c
  | fire now => exact hcurrent.fire hc now
  | answer seq result => exact hcurrent.answer hc seq result

/-! ## Whole runs -/

/-- At every point of a run the preview counts as loading exactly while its scheduler waits for
something. While it does not, it shows the answer to the latest request, a failure by its message,
and that request was made for the tree, the target and the name that the preview has now. -/
theorem settled_shows_current (debounce : Nat) (target : Target) (artifact : String) (body : Body)
    (now : Nat) (events : List Event) :
    let h := (start debounce target artifact body now).run events
    let p := h.preview
    (p.state.loading = false ↔ p.scheduler.phase = .idle) ∧
      (p.state.loading = false →
        ∃ r result, h.requests.getLast? = some r ∧ r.seq = p.state.issued ∧
          r.body = p.body ∧ r.target = p.target ∧ r.artifact = p.artifact ∧
          h.answers.lookup r.seq = some result ∧
          (∀ output, result = .ok output → p.state.display = .ofOutput r.artifact output) ∧
          (∀ error, result = .error error → p.state.display = .error error.message)) := by
  intro h p
  have hboth : h.Consistent ∧ h.Current := by
    refine run_induction (P := fun h => h.Consistent ∧ h.Current) ⟨?_, ?_⟩ ?_ events
    · exact consistent_start debounce target artifact body now
    · exact current_start debounce target artifact body now
    · exact fun h event hboth => ⟨hboth.1.step event, hboth.2.step hboth.1 event⟩
  obtain ⟨hc, hcurrent⟩ := hboth
  have hidle : p.state.loading = false ↔ p.scheduler.phase = .idle := by
    rw [← isLoading_eq_false_iff]
    exact hcurrent.loading_eq ▸ Iff.rfl
  refine ⟨hidle, fun hloading => ?_⟩
  obtain ⟨hnone, hle⟩ := (Scheduler.phase_eq_idle_iff _).mp (hidle.mp hloading)
  obtain ⟨r, hlast, hseq, hbody, htarget, hartifact⟩ := hcurrent.latest hnone
  obtain ⟨result, hlookup, hdisplay⟩ := hcurrent.shown hnone (Nat.le_antisymm hc.settled_le hle)
  rw [← hartifact] at hdisplay
  refine ⟨r, result, hlast, hseq.trans hc.published_issued.symm, hbody, htarget, hartifact, ?_, ?_,
    ?_⟩
  · rw [hseq]
    exact hlookup
  · rintro output rfl
    exact hdisplay
  · rintro error rfl
    exact hdisplay

/-- Both requests have their answers: the first came too late, and the second is a failure. -/
def sampleAnswers : List Event :=
  sampleRequests ++
    [.answer 1 (.ok (.source "first")), .answer 2 (.error (.rejected "no such name"))]

/-- The preview is settled on the failure of the second request, made for the name given last. -/
theorem settled_sampleAnswers :
    let h := (start 10 default "a" [] 0).run sampleAnswers
    h.preview.state.loading = false ∧ h.preview.artifact = "b" ∧
      ∃ r, h.requests.getLast? = some r ∧ r.artifact = "b" ∧
        h.preview.state.display = .error "generator rejected request: no such name" := by
  intro h
  obtain ⟨-, hsettled⟩ := settled_shows_current 10 default "a" [] 0 sampleAnswers
  have hloading : h.preview.state.loading = false := rfl
  obtain ⟨r, result, hlast, hseq, -, -, hartifact, hlookup, -, herror⟩ := hsettled hloading
  have hresult : some result = some (.error (.rejected "no such name")) := by
    rw [← hlookup, hseq]
    rfl
  exact ⟨hloading, rfl, r, hlast, hartifact, herror _ (Option.some.inj hresult)⟩

end History

end Preview

end HandlerStudio
