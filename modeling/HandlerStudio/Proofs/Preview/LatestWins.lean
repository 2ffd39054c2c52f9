import HandlerStudio.Proofs.Preview.History

/-!
# The latest request wins

Requests are numbered in turn, and what is published agrees with the scheduler. So an answer is
shown exactly when it answers the latest request; one that was overtaken is dropped whenever it
comes.
-/

namespace HandlerStudio

namespace Preview.History

/-- What ties a preview to its history. -/
structure Consistent (h : History) : Prop where
  numbers_eq : h.requests.map Request.seq = List.range' 1 h.requests.length
  issued_eq : h.preview.scheduler.issued = h.requests.length
  published_issued : h.preview.state.issued = h.preview.scheduler.issued
  published_applied : h.preview.state.applied = h.preview.scheduler.settled
  settled_le : h.preview.scheduler.settled ≤ h.preview.scheduler.issued
  answered_settled : 0 < h.preview.scheduler.settled →
    h.preview.scheduler.settled ∈ h.answers.map Prod.fst
  applied_lt : h.applied.Pairwise (· < ·)
  applied_le : ∀ seq ∈ h.applied, seq ≤ h.preview.scheduler.settled

theorem consistent_start (debounce : Nat) (target : Target) (artifact : String) (body : Body)
    (now : Nat) : (start debounce target artifact body now).Consistent where
  numbers_eq := rfl
  issued_eq := rfl
  published_issued := rfl
  published_applied := rfl
  settled_le := Nat.le_refl _
  answered_settled := fun hpos => absurd hpos (Nat.lt_irrefl 0)
  applied_lt := List.Pairwise.nil
  applied_le := fun _ hseq => absurd hseq List.not_mem_nil

/-- A number that awaits its answer is one of those given out so far. -/
theorem Consistent.outstanding_pos {h : History} (hc : h.Consistent) {seq : Nat}
    (hseq : h.Outstanding seq) : 0 < seq := by
  have hmem := hseq.1
  rw [hc.numbers_eq, List.mem_range'_1] at hmem
  omega

/-- The latest request was not answered to any effect while it awaits its answer. -/
theorem Consistent.settled_lt_of_outstanding {h : History} (hc : h.Consistent)
    (hseq : h.Outstanding h.preview.scheduler.issued) :
    h.preview.scheduler.settled < h.preview.scheduler.issued := by
  refine Nat.lt_of_le_of_ne hc.settled_le fun heq => hseq.2 ?_
  rw [← heq]
  refine hc.answered_settled ?_
  rw [heq]
  exact hc.outstanding_pos hseq

/-! ## One event -/

theorem Consistent.command {h : History} (hc : h.Consistent) (now : Nat) (c : Command) :
    (h.step (.command now c)).Consistent := by
  simp only [step]
  rcases receive_cases now h.preview c with hsame | ⟨q, hq, hscheduler, happlied⟩
  · rw [hsame]
    exact hc
  · -- a change moves the deadline, and no number
    rw [hq]
    have hissued : (q.changed now).scheduler.issued = h.preview.scheduler.issued := by
      rw [changed_scheduler, hscheduler, Scheduler.change]
    have hsettled : (q.changed now).scheduler.settled = h.preview.scheduler.settled := by
      rw [changed_scheduler, hscheduler, Scheduler.change]
    refine ⟨hc.numbers_eq, hissued.trans hc.issued_eq, rfl, ?_, ?_, ?_, hc.applied_lt, ?_⟩
    · rw [changed_applied, happlied, hsettled]
      exact hc.published_applied
    · rw [hsettled, hissued]
      exact hc.settled_le
    · rw [hsettled]
      exact hc.answered_settled
    · rw [hsettled]
      exact hc.applied_le

theorem Consistent.fire {h : History} (hc : h.Consistent) (now : Nat) :
    (h.step (.fire now)).Consistent := by
  simp only [step]
  rcases fire_cases now h.preview with hfire | hfire
  · rw [hfire]
    simpa using hc
  · rw [hfire]
    refine ⟨?_, ?_, rfl, hc.published_applied, Nat.le_succ_of_le hc.settled_le,
      hc.answered_settled, hc.applied_lt, hc.applied_le⟩
    · simp [hc.numbers_eq, hc.issued_eq, nextRequest, List.range'_concat, Nat.add_comm]
    · simpa [publishProgress, publish] using hc.issued_eq

theorem Consistent.answer {h : History} (hc : h.Consistent) (seq : Nat)
    (result : Except GeneratorError Output) : (h.step (.answer seq result)).Consistent := by
  simp only [step]
  split
  · next hseq =>
    by_cases hlatest : seq = h.preview.scheduler.issued
    · subst hlatest
      have hlt := hc.settled_lt_of_outstanding hseq
      rw [answered_issued result hlt]
      refine ⟨hc.numbers_eq, hc.issued_eq, hc.published_issued, rfl, Nat.le_refl _, ?_, ?_, ?_⟩
      · simp [publish]
      · -- all earlier ones were answered while the number was smaller
        have hbelow : ∀ seq ∈ h.applied, seq < h.preview.scheduler.issued :=
          fun seq hmem => Nat.lt_of_le_of_lt (hc.applied_le seq hmem) hlt
        simpa [publish, List.pairwise_append] using ⟨hc.applied_lt, hbelow⟩
      · have hbelow : ∀ seq ∈ h.applied, seq ≤ h.preview.scheduler.issued :=
          fun seq hmem => Nat.le_trans (hc.applied_le seq hmem) hc.settled_le
        simpa [publish, or_imp, forall_and] using hbelow
    · rw [answered_of_ne_issued result hlatest]
      refine ⟨hc.numbers_eq, hc.issued_eq, hc.published_issued, hc.published_applied,
        hc.settled_le, ?_, ?_, ?_⟩
      · intro hpos
        simpa using Or.inl (by simpa using hc.answered_settled hpos)
      · simpa using hc.applied_lt
      · simpa using hc.applied_le
  · exact hc

theorem Consistent.step {h : History} (hc : h.Consistent) (event : Event) :
    (h.step event).Consistent := by
  cases event with
  | command now c => exact hc.command now c
  | fire now => exact hc.fire now
  | answer seq result => exact hc.answer seq result

/-- No event takes back an answer that was shown for a later one. -/
theorem Consistent.applied_le_step {h : History} (hc : h.Consistent) (event : Event) :
    h.preview.state.applied ≤ (h.step event).preview.state.applied := by
  cases event with
  | command now c =>
      simp only [History.step]
      rcases receive_cases now h.preview c with hsame | ⟨q, hq, -, happlied⟩
      · exact Nat.le_of_eq (by rw [hsame])
      · exact Nat.le_of_eq (by rw [hq, changed_applied, happlied])
  | fire now =>
      simp only [History.step]
      rcases fire_cases now h.preview with hfire | hfire
      · exact Nat.le_of_eq (by rw [hfire])
      · rw [hfire]
        exact Nat.le_of_eq rfl
  | answer seq result =>
      simp only [History.step]
      split
      · next hseq =>
        by_cases hlatest : seq = h.preview.scheduler.issued
        · subst hlatest
          rw [answered_issued result (hc.settled_lt_of_outstanding hseq), hc.published_applied]
          exact hc.settled_le
        · exact Nat.le_of_eq (by rw [answered_of_ne_issued result hlatest])
      · exact Nat.le_refl _

/-! ## Whole runs -/

theorem Consistent.run {h : History} (hc : h.Consistent) (events : List Event) :
    (h.run events).Consistent :=
  run_induction hc (fun _ event hc => hc.step event) events

theorem Consistent.applied_le_run {h : History} (hc : h.Consistent) (events : List Event) :
    h.preview.state.applied ≤ (h.run events).preview.state.applied := by
  induction events generalizing h with
  | nil => exact Nat.le_refl _
  | cons event events ih => exact Nat.le_trans (hc.applied_le_step event) (ih (hc.step event))

/-- After every run the requests are numbered from one on, and the numbers published are those of
the scheduler. An answer to any but the latest request changes nothing. The answer to the latest
request is shown as the artifact of that moment has it, a failure by its message, and it is the
first one shown for its number. The numbers shown only ever grow. -/
theorem answer_shown_iff_latest (debounce : Nat) (target : Target) (artifact : String)
    (body : Body) (now : Nat) (events : List Event) :
    let h := (start debounce target artifact body now).run events
    let p := h.preview
    h.requests.map Request.seq = List.range' 1 h.requests.length ∧
      p.state.issued = h.requests.length ∧
      (p.state.applied = p.scheduler.settled ∧ p.scheduler.settled ≤ p.state.issued ∧
        p.state.issued = p.scheduler.issued) ∧
      (∀ seq result, seq ≠ p.state.issued → p.answered seq result = p) ∧
      (∀ result, h.Outstanding p.state.issued →
        p.state.applied < p.state.issued ∧
          ∃ display,
            (p.answered p.state.issued result).state =
              { target := p.state.target
                loading := p.scheduler.deadline.isSome
                display
                issued := p.state.issued
                applied := p.state.issued } ∧
            (∀ output, result = .ok output → display = .ofOutput p.artifact output) ∧
            (∀ error, result = .error error → display = .error error.message)) ∧
      h.applied.Pairwise (· < ·) ∧
      ∀ more, p.state.applied ≤ (h.run more).preview.state.applied := by
  intro h p
  have hc : h.Consistent := (consistent_start debounce target artifact body now).run events
  have hissued : p.state.issued = p.scheduler.issued := hc.published_issued
  have happlied : p.state.applied = p.scheduler.settled := hc.published_applied
  have hle : p.scheduler.settled ≤ p.scheduler.issued := hc.settled_le
  refine ⟨hc.numbers_eq, hissued.trans hc.issued_eq, ⟨happlied, by omega, hissued⟩, ?_, ?_,
    hc.applied_lt, hc.applied_le_run⟩
  · intro seq result hne
    rw [hissued] at hne
    exact answered_of_ne_issued result hne
  · intro result hseq
    rw [hissued] at hseq ⊢
    have hlt : p.scheduler.settled < p.scheduler.issued := hc.settled_lt_of_outstanding hseq
    refine ⟨by omega, .ofResult p.artifact result, ?_, ?_, ?_⟩
    · rw [answered_issued result hlt, ← hissued]
      rfl
    · rintro output rfl
      rfl
    · rintro error rfl
      rfl

/-- A request, a change of name, and another request before the first has its answer. -/
def sampleRequests : List Event := [.fire 10, .command 20 (.artifact "b"), .fire 30]

/-- The answer to the first request comes when the second was made and is dropped. The answer to the
second is shown. -/
theorem second_shown_sampleRequests :
    let h := (start 10 default "a" [] 0).run sampleRequests
    let late := h.step (.answer 1 (.ok (.source "first")))
    h.Outstanding 1 ∧ late.preview = h.preview ∧ late.Outstanding 2 ∧
      (late.preview.answered 2 (.ok (.source "second"))).state.display =
        .source none [] "second" := by
  intro h late
  obtain ⟨-, -, -, hdropped, -⟩ := answer_shown_iff_latest 10 default "a" [] 0 sampleRequests
  obtain ⟨-, -, -, -, hshown, -⟩ := answer_shown_iff_latest 10 default "a" [] 0
    (sampleRequests ++ [.answer 1 (.ok (.source "first"))])
  have hfirst : h.Outstanding 1 := by decide
  have hsecond : late.Outstanding 2 := by decide
  obtain ⟨-, display, hstate, hok, -⟩ := hshown (.ok (.source "second")) hsecond
  refine ⟨hfirst, hdropped 1 (.ok (.source "first")) (by decide), hsecond, ?_⟩
  exact (congrArg PreviewState.display hstate).trans (hok _ rfl)

end Preview.History

end HandlerStudio
