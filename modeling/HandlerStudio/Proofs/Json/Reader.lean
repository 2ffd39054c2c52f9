import HandlerStudio.Json.Reader
import HandlerStudio.Proofs.Entries

/-!
# What readers give

A reader of lists gives only what its reader of items gives, and a reader of objects keeps every
property that its step keeps. So a property of all values that are read is shown by induction, with
objects in key order.
-/

namespace HandlerStudio

/-! ## Computations that may fail -/

namespace Except

variable {ε ε' α β : Type}

theorem ok_bind (a : α) (f : α → Except ε β) : Except.ok a >>= f = f a := rfl

theorem error_bind (e : ε) (f : α → Except ε β) : Except.error e >>= f = .error e := rfl

theorem bind_eq_ok_iff {x : Except ε α} {f : α → Except ε β} {b : β} :
    x >>= f = .ok b ↔ ∃ a, x = .ok a ∧ f a = .ok b := by
  cases x <;> simp [bind, Except.bind]

theorem mapError_eq_ok_iff {f : ε → ε'} {x : Except ε α} {a : α} :
    x.mapError f = .ok a ↔ x = .ok a := by
  cases x <;> simp [Except.mapError]

end Except

/-! ## Readers -/

namespace Json

theorem orderedItems_iff (items : List Json) : OrderedItems items ↔ ∀ j ∈ items, Ordered j := by
  induction items with
  | nil => simp [OrderedItems]
  | cons j js ih => simp [OrderedItems, ih]

theorem orderedEntries_iff (entries : List (String × Json)) :
    OrderedEntries entries ↔ ∀ e ∈ entries, Ordered e.2 := by
  induction entries with
  | nil => simp [OrderedEntries]
  | cons e es ih => obtain ⟨k, j⟩ := e; simp [OrderedEntries, ih]

theorem ordered_of_nesting_eq_zero {j : Json} (h : nesting j = 0) : Ordered j := by
  cases j <;> simp_all [nesting, Ordered]

namespace Read

variable {α : Type}

theorem itemsFrom_forall {item : List Char → Except Fault (α × List Char)} {P : α → Prop}
    (hitem : ∀ cs a rest, item cs = .ok (a, rest) → P a) {fuel : List Char} {first : Bool}
    {cs rest : List Char} {as : List α} (h : itemsFrom item fuel first cs = .ok (as, rest)) :
    ∀ a ∈ as, P a := by
  induction fuel generalizing first cs as with
  | nil => simp [itemsFrom] at h
  | cons c fuel ih =>
      obtain ⟨ahead, -, h⟩ := Except.bind_eq_ok_iff.mp (by simpa only [itemsFrom] using h)
      cases ahead with
      | closed ds =>
          cases h
          simp
      | another ds =>
          obtain ⟨⟨a, es⟩, ha, h⟩ := Except.bind_eq_ok_iff.mp h
          obtain ⟨⟨bs, fs⟩, hbs, h⟩ := Except.bind_eq_ok_iff.mp h
          cases h
          exact List.forall_mem_cons.mpr ⟨hitem ds a es ha, ih hbs⟩

theorem membersFrom_keeps {step : α → String → List Char → Except Fault (α × List Char)}
    {P : α → Prop}
    (hstep : ∀ acc key cs new rest, P acc → step acc key cs = .ok (new, rest) → P new)
    {fuel : List Char} {first : Bool} {acc new : α} {cs rest : List Char} (hacc : P acc)
    (h : membersFrom step fuel first acc cs = .ok (new, rest)) : P new := by
  induction fuel generalizing first acc cs with
  | nil => simp [membersFrom] at h
  | cons c fuel ih =>
      obtain ⟨ahead, -, h⟩ := Except.bind_eq_ok_iff.mp (by simpa only [membersFrom] using h)
      cases ahead with
      | closed ds =>
          cases h
          exact hacc
      | another ds =>
          obtain ⟨⟨key, es⟩, -, h⟩ := Except.bind_eq_ok_iff.mp h
          obtain ⟨⟨next, fs⟩, hnext, h⟩ := Except.bind_eq_ok_iff.mp h
          exact ih (hstep acc key es next fs hacc hnext) h

/-- A value that is read is a number that is read, another scalar, or what one of the two bracket
readers gives. -/
theorem valueWith_cases {list object : List Char → Except Fault (Json × List Char)}
    {cs rest : List Char} {j : Json} (h : valueWith list object cs = .ok (j, rest)) :
    (∃ n ds, number ds = .ok (n, rest) ∧ j = .number n) ∨
      (nesting j = 0 ∧ ∀ n, j ≠ .number n) ∨
      (∃ ds, list ds = .ok (j, rest)) ∨ ∃ ds, object ds = .ok (j, rest) := by
  have hword : ∀ {x : Except Fault (List Char)} {k : Json},
      (x >>= fun ds => pure (k, ds)) = Except.ok (j, rest) → (nesting k = 0 ∧ ∀ n, k ≠ .number n) →
        nesting j = 0 ∧ ∀ n, j ≠ .number n := by
    intro x k hx hk
    obtain ⟨ds, -, hb⟩ := Except.bind_eq_ok_iff.mp hx
    cases hb
    exact hk
  unfold valueWith at h
  split at h
  · cases h
  · exact Or.inr (Or.inl (hword h (by simp [nesting])))
  · exact Or.inr (Or.inl (hword h (by simp [nesting])))
  · exact Or.inr (Or.inl (hword h (by simp [nesting])))
  · obtain ⟨⟨s, ds⟩, -, hb⟩ := Except.bind_eq_ok_iff.mp h
    cases hb
    exact Or.inr (Or.inl (by simp [nesting]))
  · exact Or.inr (Or.inr (Or.inl ⟨_, h⟩))
  · exact Or.inr (Or.inr (Or.inr ⟨_, h⟩))
  · split at h
    · obtain ⟨⟨n, ds⟩, hn, hb⟩ := Except.bind_eq_ok_iff.mp h
      cases hb
      exact Or.inl ⟨n, _, hn, rfl⟩
    · cases h

/-- What holds of numbers that are read and of other scalars, and of lists and of objects in key
order if it holds of all that is in them, holds of every value that is read. -/
theorem value_induction {P : Json → Prop}
    (hnumber : ∀ n cs rest, number cs = .ok (n, rest) → P (.number n))
    (hscalar : ∀ j, nesting j = 0 → (∀ n, j ≠ .number n) → P j)
    (harray : ∀ js, (∀ j ∈ js, P j) → P (.array js))
    (hobject : ∀ es, Entries.Sorted es → (∀ e ∈ es, P e.2) → P (.object es))
    {limit : Nat} {cs rest : List Char} {j : Json} (h : value limit cs = .ok (j, rest)) : P j := by
  induction limit generalizing cs rest j with
  | zero =>
      rcases valueWith_cases h with ⟨n, ds, hn, rfl⟩ | ⟨hzero, hne⟩ | ⟨ds, hlist⟩ | ⟨ds, hmembers⟩
      · exact hnumber n ds rest hn
      · exact hscalar j hzero hne
      · cases hlist
      · cases hmembers
  | succ limit ih =>
      rcases valueWith_cases h with ⟨n, ds, hn, rfl⟩ | ⟨hzero, hne⟩ | ⟨ds, hlist⟩ | ⟨ds, hmembers⟩
      · exact hnumber n ds rest hn
      · exact hscalar j hzero hne
      · obtain ⟨⟨js, es⟩, hitems, hj⟩ := Except.bind_eq_ok_iff.mp hlist
        cases hj
        exact harray js (itemsFrom_forall (fun _ _ _ hitem => ih hitem) hitems)
      · obtain ⟨⟨entries, es⟩, hmembers, hj⟩ := Except.bind_eq_ok_iff.mp hmembers
        cases hj
        have hkept : Entries.Sorted entries ∧ ∀ e ∈ entries, P e.2 := by
          refine membersFrom_keeps (P := fun entries => Entries.Sorted entries ∧
            ∀ e ∈ entries, P e.2) ?_ ⟨by simp [Entries.Sorted], by simp⟩ hmembers
          intro acc key es' new rest' hacc hstep
          obtain ⟨fs, -, hstep⟩ := Except.bind_eq_ok_iff.mp hstep
          obtain ⟨⟨k, gs⟩, hk, hstep⟩ := Except.bind_eq_ok_iff.mp hstep
          cases hstep
          refine ⟨Entries.sorted_insert hacc.1 key k, ?_⟩
          intro e he
          rcases Entries.mem_insert he with rfl | hmem
          · exact ih hk
          · exact hacc.2 e hmem
        exact hobject entries hkept.1 hkept.2

end Read

end Json

end HandlerStudio
