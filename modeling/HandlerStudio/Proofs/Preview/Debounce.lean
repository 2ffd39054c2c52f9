import HandlerStudio.Preview.Scheduler
import Mathlib.Data.List.Chain

/-!
# Requests wait for a pause

A scheduler is called to record changes, to poll for a request and to take answers, in any order.
The log of its calls says what each of them came to. The one deadline that a scheduler keeps says as
much as the whole log: which change is the last one since the latest request. Hence a poll makes a
request exactly when such a change is there and long enough ago.
-/

namespace HandlerStudio

namespace Scheduler

inductive Call where
  | change (now : Nat)
  | poll (now : Nat)
  | respond (seq : Nat)

namespace Call

/-- When the call was made; an answer is not dated. -/
def instant? : Call → Option Nat
  | change now => some now
  | poll now => some now
  | respond _ => none

def changedAt? : Call → Option Nat
  | change now => some now
  | _ => none

def polledAt? : Call → Option Nat
  | poll now => some now
  | _ => none

def isResponse : Call → Bool
  | respond _ => true
  | _ => false

end Call

/-- What a call came to. -/
inductive Note where
  | changed (now : Nat)
  | issued (now seq : Nat)
  | waited (now : Nat)
  | answered (seq : Nat) (verdict : Verdict)

namespace Note

def issuedAt? : Note → Option Nat
  | issued now _ => some now
  | _ => none

def isAnswer : Note → Bool
  | answered _ _ => true
  | _ => false

/-- The change that waits for a request, after this note. -/
def awaited (held : Option Nat) : Note → Option Nat
  | changed now => some now
  | issued _ _ => none
  | waited _ => held
  | answered _ _ => held

end Note

def note (s : Scheduler) : Call → Note
  | .change now => .changed now
  | .poll now => (s.poll now).1.elim (.waited now) (.issued now)
  | .respond seq => .answered seq (s.respond seq).1

def step (s : Scheduler) : Call → Scheduler
  | .change now => s.change now
  | .poll now => (s.poll now).2
  | .respond seq => (s.respond seq).2

def run (s : Scheduler) (calls : List Call) : Scheduler := calls.foldl step s

/-- The calls with what they came to, oldest first. -/
def log (s : Scheduler) : List Call → List Note
  | [] => []
  | call :: calls => s.note call :: (s.step call).log calls

/-- When requests were issued. -/
def issues (notes : List Note) : List Nat := notes.filterMap Note.issuedAt?

/-- A change came at this instant, and after it neither another one nor a request. -/
def Pending (notes : List Note) (c : Nat) : Prop :=
  ∃ before after, notes = before ++ .changed c :: after ∧
    (∀ now, .changed now ∉ after) ∧ ∀ now seq, .issued now seq ∉ after

/-! ## One call -/

theorem poll_cases (s : Scheduler) (now : Nat) :
    (∃ due, s.deadline = some due ∧ due ≤ now ∧
      s.poll now = (some (s.issued + 1), { s with deadline := none, issued := s.issued + 1 })) ∨
    (∀ due, s.deadline = some due → now < due) ∧ s.poll now = (none, s) := by
  cases hdeadline : s.deadline with
  | none =>
      right
      exact ⟨fun due hdue => (by cases hdue), by simp [poll, isDue, hdeadline]⟩
  | some due =>
      by_cases hle : due ≤ now
      · left
        exact ⟨due, rfl, hle, by simp [poll, isDue, hdeadline, hle]⟩
      · right
        refine ⟨?_, by simp [poll, isDue, hdeadline, hle]⟩
        intro other hother
        obtain rfl := Option.some.inj hother
        omega

/-- An answer may settle the latest request and does nothing else. -/
theorem exists_respond_eq (s : Scheduler) (seq : Nat) :
    ∃ settled, (s.respond seq).2 = { s with settled } := by
  unfold respond
  cases s.verdict seq with
  | apply => exact ⟨seq, rfl⟩
  | discard => exact ⟨s.settled, rfl⟩

@[simp] theorem debounce_step (s : Scheduler) (call : Call) :
    (s.step call).debounce = s.debounce := by
  cases call with
  | change now => rfl
  | poll now => rcases s.poll_cases now with ⟨_, _, _, h⟩ | ⟨_, h⟩ <;> rw [step, h]
  | respond seq =>
      obtain ⟨settled, h⟩ := s.exists_respond_eq seq
      rw [step, h]

/-- The deadline keeps up with the change that waits for a request. -/
theorem deadline_step {s : Scheduler} {held : Option Nat}
    (h : s.deadline = held.map (· + s.debounce)) (call : Call) :
    (s.step call).deadline = ((s.note call).awaited held).map (· + s.debounce) := by
  cases call with
  | change now => rfl
  | poll now =>
      rcases s.poll_cases now with ⟨due, -, -, hpoll⟩ | ⟨-, hpoll⟩
      · simp [step, note, hpoll, Note.awaited]
      · simp [step, note, hpoll, Note.awaited, h]
  | respond seq =>
      obtain ⟨settled, hrespond⟩ := s.exists_respond_eq seq
      rw [step, hrespond]
      exact h

/-! ## Whole runs -/

@[simp] theorem debounce_run (s : Scheduler) (calls : List Call) :
    (s.run calls).debounce = s.debounce := by
  induction calls generalizing s with
  | nil => rfl
  | cons call calls ih => exact (ih (s.step call)).trans (s.debounce_step call)

theorem deadline_run {s : Scheduler} {held : Option Nat}
    (h : s.deadline = held.map (· + s.debounce)) (calls : List Call) :
    (s.run calls).deadline = ((s.log calls).foldl Note.awaited held).map (· + s.debounce) := by
  induction calls generalizing s held with
  | nil => exact h
  | cons call calls ih =>
      have hstep := deadline_step h call
      rw [← s.debounce_step call] at hstep ⊢
      exact ih hstep

theorem pending_concat_iff (notes : List Note) (n : Note) (c : Nat) :
    Pending (notes ++ [n]) c ↔ n = .changed c ∨
      Pending notes c ∧ (∀ now, n ≠ .changed now) ∧ ∀ now seq, n ≠ .issued now seq := by
  constructor
  · rintro ⟨before, after, hsplit, hchanged, hissued⟩
    rcases List.eq_nil_or_concat' after with rfl | ⟨after, m, rfl⟩
    · left
      exact List.singleton_inj.mp (List.append_inj' hsplit rfl).2
    · right
      rw [← List.cons_append, ← List.append_assoc] at hsplit
      obtain ⟨hnotes, hlast⟩ := List.append_inj' hsplit rfl
      obtain rfl := List.singleton_inj.mp hlast
      refine ⟨⟨before, after, hnotes, ?_, ?_⟩, ?_, ?_⟩
      · exact fun now hmem => hchanged now (List.mem_append_left _ hmem)
      · exact fun now seq hmem => hissued now seq (List.mem_append_left _ hmem)
      · rintro now rfl
        exact hchanged now (by simp)
      · rintro now seq rfl
        exact hissued now seq (by simp)
  · rintro (rfl | ⟨⟨before, after, rfl, hchanged, hissued⟩, hnotChanged, hnotIssued⟩)
    · exact ⟨notes, [], rfl, by simp, by simp⟩
    · refine ⟨before, after ++ [n], by simp, ?_, ?_⟩
      · intro now hmem
        rcases List.mem_append.mp hmem with hmem | hmem
        · exact hchanged now hmem
        · exact hnotChanged now (List.mem_singleton.mp hmem).symm
      · intro now seq hmem
        rcases List.mem_append.mp hmem with hmem | hmem
        · exact hissued now seq hmem
        · exact hnotIssued now seq (List.mem_singleton.mp hmem).symm

theorem foldl_awaited_eq_some_iff (notes : List Note) (c : Nat) :
    notes.foldl Note.awaited none = some c ↔ Pending notes c := by
  induction notes using List.reverseRecOn with
  | nil => simp [Pending]
  | append_singleton notes n ih =>
      rw [List.foldl_append, List.foldl_cons, List.foldl_nil, pending_concat_iff, ← ih]
      cases n <;> simp [Note.awaited]

theorem poll_isSome_iff (d : Nat) (calls : List Call) (now : Nat) :
    (((new d).run calls).poll now).1.isSome ↔
      ∃ c, Pending ((new d).log calls) c ∧ c + d ≤ now := by
  have hdeadline : ((new d).run calls).deadline =
      (((new d).log calls).foldl Note.awaited none).map (· + d) := deadline_run rfl calls
  simp only [← foldl_awaited_eq_some_iff]
  rcases ((new d).run calls).poll_cases now with ⟨due, hdue, hle, hpoll⟩ | ⟨hnot, hpoll⟩
  · rw [hdeadline] at hdue
    obtain ⟨c, hc, rfl⟩ := Option.map_eq_some_iff.mp hdue
    rw [hpoll]
    exact ⟨fun _ => ⟨c, hc, hle⟩, fun _ => rfl⟩
  · rw [hpoll]
    constructor
    · intro h
      cases h
    · rintro ⟨c, hc, hle⟩
      have hlt : now < c + d := by
        apply hnot
        rw [hdeadline, hc]
        rfl
      omega

/-! ## Requests one after another -/

/-- A note in the log is what some call came to after those before it. -/
theorem exists_of_log_eq {s : Scheduler} {calls : List Call} {pre post : List Note} {n : Note}
    (h : s.log calls = pre ++ n :: post) :
    ∃ past call, pre = s.log past ∧ n = (s.run past).note call := by
  induction pre generalizing s calls with
  | nil =>
      cases calls with
      | nil => cases h
      | cons call calls => exact ⟨[], call, rfl, (List.cons.inj h).1.symm⟩
  | cons m pre ih =>
      cases calls with
      | nil => cases h
      | cons first calls =>
          obtain ⟨rfl, hrest⟩ := List.cons.inj h
          obtain ⟨past, call, rfl, hn⟩ := ih hrest
          exact ⟨first :: past, call, rfl, hn⟩

theorem poll_isSome_of_note {s : Scheduler} {call : Call} {now seq : Nat}
    (h : s.note call = .issued now seq) : (s.poll now).1.isSome := by
  cases call with
  | change _ => cases h
  | respond _ => cases h
  | poll other =>
      rw [note] at h
      cases hpoll : (s.poll other).1 with
      | none => simp [hpoll] at h
      | some n =>
          rw [hpoll] at h
          obtain ⟨rfl, -⟩ := Note.issued.inj h
          simp [hpoll]

/-- Between two requests there is a change. -/
theorem exists_changed_between {d : Nat} {calls : List Call} {before between after : List Note}
    {t₁ n₁ t₂ n₂ : Nat}
    (h : (new d).log calls =
      before ++ .issued t₁ n₁ :: (between ++ .issued t₂ n₂ :: after)) :
    ∃ c, .changed c ∈ between := by
  rw [← List.cons_append, ← List.append_assoc] at h
  obtain ⟨past, call, hpast, hcall⟩ := exists_of_log_eq h
  obtain ⟨c, hpending, -⟩ :=
    (poll_isSome_iff d past t₂).mp (poll_isSome_of_note hcall.symm)
  -- after the first request no change waits, so the pending one came later
  rw [← hpast, ← foldl_awaited_eq_some_iff, List.foldl_append, List.foldl_cons, Note.awaited,
    foldl_awaited_eq_some_iff] at hpending
  obtain ⟨pre, post, rfl, -, -⟩ := hpending
  exact ⟨c, by simp⟩

/-! ## Answers -/

/-- What a call comes to does not hang on the answers that came in. -/
theorem filter_log (s : Scheduler) (settled : Nat) (calls : List Call) :
    (s.log calls).filter (fun n => !n.isAnswer) =
      ({ s with settled } : Scheduler).log (calls.filter fun call => !call.isResponse) := by
  induction calls generalizing s settled with
  | nil => rfl
  | cons call calls ih =>
      cases call with
      | change now =>
          have htail := ih (s.change now) settled
          simpa [log, note, step, Note.isAnswer, Call.isResponse, change] using htail
      | respond seq =>
          obtain ⟨other, hrespond⟩ := s.exists_respond_eq seq
          have htail := ih (s.respond seq).2 settled
          rw [hrespond] at htail
          simpa [log, note, step, Note.isAnswer, Call.isResponse, hrespond] using htail
      | poll now =>
          have htail := ih (s.poll now).2 settled
          have hsame : ({ s with settled } : Scheduler).isDue now = s.isDue now := rfl
          cases hdue : s.isDue now <;>
            simpa [log, note, step, poll, Note.isAnswer, Call.isResponse, hsame, hdue] using htail

/-! ## Bursts -/

/-- Calls that begin with a change, in the order of time, whose changes follow one another in less
than the pause; the last of them is at `last`. Polls and answers may come in between and after. -/
structure Burst (d : Nat) (calls : List Call) (last : Nat) : Prop where
  begins : ∃ first rest, calls = .change first :: rest
  ordered : (calls.filterMap Call.instant?).Pairwise (· ≤ ·)
  close : (calls.filterMap Call.changedAt?).IsChain fun a b => b < a + d
  last_eq : (calls.filterMap Call.changedAt?).getLast? = some last

theorem issues_log_eq_nil {s : Scheduler} (hs : s.deadline = none) {calls : List Call}
    (hcalls : calls.filterMap Call.changedAt? = []) : issues (s.log calls) = [] := by
  induction calls generalizing s with
  | nil => rfl
  | cons call calls ih =>
      cases call with
      | change now => cases hcalls
      | poll now =>
          have hpoll : s.poll now = (none, s) := by simp [poll, isDue, hs]
          have htail := ih hs hcalls
          simpa [issues, log, note, step, hpoll, Note.issuedAt?] using htail
      | respond seq =>
          obtain ⟨settled, hrespond⟩ := s.exists_respond_eq seq
          have htail := ih (s := (s.respond seq).2) (by rw [hrespond]; exact hs) hcalls
          simpa [issues, log, note, step, Note.issuedAt?] using htail

theorem mem_instants_of_mem_changes {calls : List Call} {c : Nat}
    (h : c ∈ calls.filterMap Call.changedAt?) : c ∈ calls.filterMap Call.instant? := by
  obtain ⟨call, hmem, hc⟩ := List.mem_filterMap.mp h
  refine List.mem_filterMap.mpr ⟨call, hmem, ?_⟩
  cases call with
  | change now => exact hc
  | poll now => cases hc
  | respond seq => cases hc

/-- A change after a poll that is late enough would come too late for the burst. -/
theorem changes_eq_nil_of_due {d c now : Nat} (hdue : c + d ≤ now) {calls : List Call}
    (hordered : (now :: calls.filterMap Call.instant?).Pairwise (· ≤ ·))
    (hclose : (c :: calls.filterMap Call.changedAt?).IsChain fun a b => b < a + d) :
    calls.filterMap Call.changedAt? = [] := by
  cases hchanges : calls.filterMap Call.changedAt? with
  | nil => rfl
  | cons next others =>
      have hge : now ≤ next := by
        apply (List.pairwise_cons.mp hordered).1
        apply mem_instants_of_mem_changes
        simp [hchanges]
      rw [hchanges] at hclose
      have hlt := (List.isChain_cons_cons.mp hclose).1
      omega

theorem le_of_getLast?_changes {c last : Nat} {calls : List Call}
    (hordered : (c :: calls.filterMap Call.instant?).Pairwise (· ≤ ·))
    (hlast : (c :: calls.filterMap Call.changedAt?).getLast? = some last) : c ≤ last := by
  rcases List.mem_cons.mp (List.mem_of_getLast? hlast) with rfl | hmem
  · exact Nat.le_refl _
  · apply (List.pairwise_cons.mp hordered).1
    exact mem_instants_of_mem_changes hmem

/-- While a change at `c` waits for its request, a poll at or after `c` that comes too early waits,
and the first one that does not is after all changes. -/
theorem issues_log_of_pending {s : Scheduler} {c : Nat}
    (hs : s.deadline = some (c + s.debounce)) {calls : List Call}
    (hordered : (c :: calls.filterMap Call.instant?).Pairwise (· ≤ ·))
    (hclose : (c :: calls.filterMap Call.changedAt?).IsChain fun a b => b < a + s.debounce)
    {last : Nat} (hlast : (c :: calls.filterMap Call.changedAt?).getLast? = some last) :
    issues (s.log calls) =
      ((calls.filterMap Call.polledAt?).find? fun now => last + s.debounce ≤ now).toList := by
  induction calls generalizing s c with
  | nil => rfl
  | cons call calls ih =>
      cases call with
      | change now =>
          rw [List.filterMap_cons_some (by rfl)] at hordered hclose hlast
          have htail := ih (s := s.change now) rfl (List.pairwise_cons.mp hordered).2
            (List.isChain_cons_cons.mp hclose).2 hlast
          exact htail
      | respond seq =>
          obtain ⟨settled, hrespond⟩ := s.exists_respond_eq seq
          have htail := ih (s := { s with settled }) hs hordered hclose hlast
          rw [log, step, hrespond]
          exact htail
      | poll now =>
          have hordered' : (c :: now :: calls.filterMap Call.instant?).Pairwise (· ≤ ·) := hordered
          have hpolls : (Call.poll now :: calls).filterMap Call.polledAt? =
              now :: calls.filterMap Call.polledAt? := rfl
          have hclose' : (c :: calls.filterMap Call.changedAt?).IsChain
              fun a b => b < a + s.debounce := hclose
          have hlast' : (c :: calls.filterMap Call.changedAt?).getLast? = some last := hlast
          rcases s.poll_cases now with ⟨due, hdue, hle, hpoll⟩ | ⟨hnot, hpoll⟩
          · obtain rfl := Option.some.inj (hs.symm.trans hdue)
            have hnone := changes_eq_nil_of_due hle (List.pairwise_cons.mp hordered').2 hclose'
            obtain rfl : c = last := by simpa [hnone] using hlast'
            have htail := issues_log_eq_nil (s := (s.poll now).2) (by rw [hpoll]) hnone
            rw [hpolls, List.find?_cons_of_pos (by simpa using hle)]
            rw [hpoll] at htail
            simpa [issues, log, note, step, hpoll, Note.issuedAt?] using htail
          · have hlt := hnot _ hs
            have hsub : (c :: calls.filterMap Call.instant?).Pairwise (· ≤ ·) :=
              hordered'.sublist ((List.sublist_cons_self _ _).cons_cons c)
            have htail := ih hs hsub hclose' hlast'
            have hle := le_of_getLast?_changes hsub hlast'
            have hearly : ¬ last + s.debounce ≤ now := by omega
            rw [hpolls, List.find?_cons_of_neg (by simpa using hearly), log, note, step, hpoll]
            exact htail

theorem Burst.issues_log {d : Nat} {calls : List Call} {last : Nat} (h : Burst d calls last)
    {s : Scheduler} (hs : s.debounce = d) :
    issues (s.log calls) =
      ((calls.filterMap Call.polledAt?).find? fun now => last + d ≤ now).toList := by
  subst hs
  obtain ⟨first, rest, rfl⟩ := h.begins
  exact issues_log_of_pending (s := s.change first) rfl h.ordered h.close h.last_eq

/-- A poll makes a request exactly when a change waits for one and was long enough ago. In a burst
the first poll that comes late enough after the last change makes the one request, between two
requests there is a change, and without the answers all else is the same. -/
theorem requests_wait_for_pause (d : Nat) :
    (∀ calls now, (((new d).run calls).poll now).1.isSome ↔
      ∃ c, Pending ((new d).log calls) c ∧ c + d ≤ now) ∧
    (∀ past burst last, Burst d burst last →
      issues (((new d).run past).log burst) =
        ((burst.filterMap Call.polledAt?).find? fun now => last + d ≤ now).toList) ∧
    (∀ calls before between after t₁ n₁ t₂ n₂,
      (new d).log calls = before ++ .issued t₁ n₁ :: (between ++ .issued t₂ n₂ :: after) →
        ∃ c, Note.changed c ∈ between) ∧
    ∀ calls, ((new d).log calls).filter (fun n => !n.isAnswer) =
      (new d).log (calls.filter fun call => !call.isResponse) := by
  refine ⟨poll_isSome_iff d, ?_, ?_, ?_⟩
  · intro past burst last hburst
    exact hburst.issues_log ((new d).debounce_run past)
  · intro calls before between after t₁ n₁ t₂ n₂ hlog
    exact exists_changed_between hlog
  · intro calls
    exact filter_log (new d) 0 calls

/-- Two changes with a poll and an answer in between, and polls just before and after the pause. -/
def sampleBurst : List Call :=
  [.change 1000, .poll 1050, .respond 1, .change 1100, .poll 1399, .poll 1400, .poll 2000]

/-- After an earlier request, the burst makes its request when the pause is over, and a later poll
makes none. -/
theorem requests_sampleBurst :
    Burst 300 sampleBurst 1100 ∧
      issues (((new 300).run [.change 0, .poll 300]).log sampleBurst) = [1400] := by
  have hburst : Burst 300 sampleBurst 1100 := ⟨⟨_, _, rfl⟩, by decide, by decide, rfl⟩
  obtain ⟨-, hissues, -, -⟩ := requests_wait_for_pause 300
  exact ⟨hburst, hissues _ _ _ hburst⟩

end Scheduler

end HandlerStudio
