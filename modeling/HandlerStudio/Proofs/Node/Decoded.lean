import HandlerStudio.Node.Json
import HandlerStudio.Proofs.Json.Reader

/-!
# What decoding gives

Decoding keeps the keys of a plain object and what a node is recognised by: a text comes from a
text, a number from a number, and so a plain object has the shape of the data it comes from.
-/

namespace HandlerStudio

namespace Value

theorem keys_entriesOfJson {es : List (String × Json)} {vs : List (String × Value)}
    (h : entriesOfJson es = .ok vs) : Entries.keys vs = Entries.keys es := by
  induction es generalizing vs with
  | nil => cases h; rfl
  | cons e es ih =>
      obtain ⟨k, j⟩ := e
      obtain ⟨v, -, h⟩ := Except.bind_eq_ok_iff.mp (by simpa only [entriesOfJson] using h)
      obtain ⟨us, hus, h⟩ := Except.bind_eq_ok_iff.mp h
      cases h
      simp [ih hus]

/-- A text comes from a text and a number from a number. -/
theorem ofJson_cases {j : Json} {v : Value} (h : ofJson j = .ok v) :
    (∃ s, j = .string s ∧ v = .text s) ∨ (∃ n, j = .number n ∧ v = .number n) ∨
      (∀ s, j ≠ .string s) ∧ (∀ n, j ≠ .number n) ∧ (∀ s, v ≠ .text s) ∧ ∀ n, v ≠ .number n := by
  cases j with
  | string s =>
      cases h
      exact Or.inl ⟨s, rfl, rfl⟩
  | number n =>
      cases h
      exact Or.inr (Or.inl ⟨n, rfl, rfl⟩)
  | null | bool _ =>
      cases h
      simp
  | array items =>
      obtain ⟨vs, -, h⟩ := Except.bind_eq_ok_iff.mp (by simpa only [ofJson] using h)
      cases h
      simp
  | object entries =>
      simp only [ofJson] at h
      split at h
      · obtain ⟨header, -, h⟩ := Except.bind_eq_ok_iff.mp h
        obtain ⟨fields, -, h⟩ := Except.bind_eq_ok_iff.mp h
        cases h
        simp
      · obtain ⟨vs, -, h⟩ := Except.bind_eq_ok_iff.mp h
        cases h
        simp

theorem get?_entriesOfJson {es : List (String × Json)} {vs : List (String × Value)}
    (h : entriesOfJson es = .ok vs) (key : String) :
    (Entries.get? key es = none ∧ Entries.get? key vs = none) ∨
      ∃ j v, Entries.get? key es = some j ∧ Entries.get? key vs = some v ∧ ofJson j = .ok v := by
  induction es generalizing vs with
  | nil =>
      cases h
      exact Or.inl ⟨rfl, rfl⟩
  | cons e es ih =>
      obtain ⟨k, j⟩ := e
      obtain ⟨v, hv, h⟩ := Except.bind_eq_ok_iff.mp (by simpa only [entriesOfJson] using h)
      obtain ⟨us, hus, h⟩ := Except.bind_eq_ok_iff.mp h
      cases h
      by_cases hk : k = key
      · exact Or.inr ⟨j, v, by simp [Entries.get?, hk], by simp [Entries.get?, hk], hv⟩
      · simpa [Entries.get?, hk] using ih hus

/-- Decoding keeps the shape of a plain object. -/
theorem nodeShaped_entriesOfJson {es : List (String × Json)} {vs : List (String × Value)}
    (h : entriesOfJson es = .ok vs) : nodeShaped vs = Json.looksLikeNode es := by
  rw [Json.looksLikeNode, nodeShaped]
  refine congrArg₂ and (congrArg₂ and ?_ ?_) ?_
  · rcases get?_entriesOfJson h "type" with ⟨hj, hv⟩ | ⟨j, v, hj, hv, hof⟩
    · rw [hj, hv]
    · rw [hj, hv]
      rcases ofJson_cases hof with ⟨s, rfl, rfl⟩ | ⟨n, rfl, rfl⟩ | ⟨hs, -, ht, -⟩
      · rfl
      · rfl
      · cases v with
        | text s => exact absurd rfl (ht s)
        | null | bool _ | number _ | node _ | list _ | object _ =>
            cases j with
            | string s => exact absurd rfl (hs s)
            | null | bool _ | number _ | array _ | object _ => rfl
  · rcases get?_entriesOfJson h "id" with ⟨hj, hv⟩ | ⟨j, v, hj, hv, hof⟩
    · rw [hj, hv]
    · rw [hj, hv]
      rcases ofJson_cases hof with ⟨s, rfl, rfl⟩ | ⟨n, rfl, rfl⟩ | ⟨hs, hn, ht, hm⟩
      · rfl
      · rfl
      · cases v with
        | text s => exact absurd rfl (ht s)
        | number n => exact absurd rfl (hm n)
        | null | bool _ | node _ | list _ | object _ =>
            cases j with
            | string s => exact absurd rfl (hs s)
            | number n => exact absurd rfl (hn n)
            | null | bool _ | array _ | object _ => rfl
  · rcases get?_entriesOfJson h "tier" with ⟨hj, hv⟩ | ⟨j, v, hj, hv, -⟩ <;>
      simp [Entries.has, hj, hv]

end Value

end HandlerStudio
