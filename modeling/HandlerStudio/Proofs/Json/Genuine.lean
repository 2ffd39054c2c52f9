import HandlerStudio.Proofs.Json.Layout

/-!
# What texts can hold

A whole number that is read fits 64 bits, since digits that no longer fit make it a double. So all
data that is read is genuine: its keys are in order, and its whole numbers fit.
-/

namespace HandlerStudio

/-- A whole number of 64 bits, or a double. -/
def Number.Fits : Number → Prop
  | .int z => Number.inRange z = true
  | .float _ => True

namespace Json

/-- Data as texts can hold it: keys in order, and whole numbers of 64 bits. -/
structure Genuine (j : Json) : Prop where
  ordered : j.Ordered
  fits : ∀ n ∈ j.numbers, n.Fits

theorem genuine_array_iff (items : List Json) :
    (array items).Genuine ↔ ∀ j ∈ items, j.Genuine := by
  constructor
  · rintro ⟨ho, hf⟩ j hj
    rw [Ordered, orderedItems_iff] at ho
    refine ⟨ho j hj, fun n hn => hf n ?_⟩
    rw [numbers, numbersOfItems_eq]
    exact List.mem_flatMap_of_mem hj hn
  · intro h
    refine ⟨?_, ?_⟩
    · rw [Ordered, orderedItems_iff]
      exact fun j hj => (h j hj).ordered
    · intro n hn
      rw [numbers, numbersOfItems_eq] at hn
      obtain ⟨j, hj, hnj⟩ := List.mem_flatMap.mp hn
      exact (h j hj).fits n hnj

theorem genuine_object_iff (entries : List (String × Json)) :
    (object entries).Genuine ↔ Entries.Sorted entries ∧ ∀ e ∈ entries, e.2.Genuine := by
  constructor
  · rintro ⟨ho, hf⟩
    rw [Ordered, orderedEntries_iff] at ho
    refine ⟨ho.1, fun e he => ⟨ho.2 e he, fun n hn => hf n ?_⟩⟩
    rw [numbers, numbersOfEntries_eq]
    exact List.mem_flatMap.mpr ⟨e, he, hn⟩
  · rintro ⟨hs, h⟩
    refine ⟨?_, ?_⟩
    · rw [Ordered, orderedEntries_iff]
      exact ⟨hs, fun e he => (h e he).ordered⟩
    · intro n hn
      rw [numbers, numbersOfEntries_eq] at hn
      obtain ⟨e, he, hne⟩ := List.mem_flatMap.mp hn
      exact (h e he).fits n hne

theorem genuine_number_iff (n : Number) : (number n).Genuine ↔ n.Fits := by
  constructor
  · intro h
    exact h.fits n (by simp [numbers])
  · intro h
    exact ⟨by simp [Ordered], by simpa [numbers] using h⟩

namespace Read

/-! ## Numbers that are read -/

section

variable {n : Number} {cs rest : List Char}

namespace Decimal

variable {d : Decimal}

theorem fits_finish (h : d.finish cs = .ok (n, rest)) : n.Fits := by
  unfold finish at h
  generalize Double.scaled? d.negative d.significand d.exponent = x? at h
  cases x? with
  | none => cases h
  | some x =>
      cases h
      trivial

theorem fits_exponentFrom {down : Bool} (h : d.exponentFrom down cs = .ok (n, rest)) : n.Fits := by
  unfold exponentFrom at h
  split at h
  · cases h
  · split at h
    · cases h
    · split at h
      · exact fits_finish h
      · split at h
        · cases h
        · cases h
          trivial

theorem fits_exponentPart (h : d.exponentPart cs = .ok (n, rest)) : n.Fits := by
  cases cs with
  | nil => cases h
  | cons c cs =>
      by_cases hp : c = '+'
      · subst hp
        exact fits_exponentFrom h
      by_cases hm : c = '-'
      · subst hm
        exact fits_exponentFrom h
      rw [exponentPart_unsigned d hp hm] at h
      exact fits_exponentFrom h

theorem fits_afterDigits (h : d.afterDigits cs = .ok (n, rest)) : n.Fits := by
  unfold afterDigits at h
  split at h
  · exact fits_exponentPart h
  · exact fits_exponentPart h
  · exact fits_finish h

theorem fits_fraction (h : d.fraction cs = .ok (n, rest)) : n.Fits := by
  unfold fraction at h
  split at h
  · cases h
  · split at h
    · exact fits_afterDigits h
    · cases h

theorem fits_longDigits (h : d.longDigits cs = .ok (n, rest)) : n.Fits := by
  fun_induction longDigits d cs with
  | case1 => exact fits_finish h
  | case2 => exact fits_fraction h
  | case3 => exact fits_exponentPart h
  | case4 => exact fits_exponentPart h
  | case5 _ _ _ _ _ _ _ ih => exact ih h
  | case6 => exact fits_finish h

end Decimal

variable {negative : Bool} {k : Nat}

theorem fits_wholeNumber (hk : k < unsignedLimit) (h : wholeNumber negative k cs = .ok (n, rest)) :
    n.Fits := by
  unfold wholeNumber at h
  split at h
  · cases h
    simp only [Number.Fits, Number.inRange, Bool.and_eq_true, decide_eq_true_eq]
    omega
  · split at h
    · next hfits =>
      cases h
      simp only [Number.Fits, Number.inRange, Bool.and_eq_true, decide_eq_true_eq]
      omega
    · exact Decimal.fits_finish h

theorem fits_afterWhole (hk : k < unsignedLimit) (h : afterWhole negative k cs = .ok (n, rest)) :
    n.Fits := by
  unfold afterWhole at h
  split at h
  · exact Decimal.fits_fraction h
  · exact Decimal.fits_exponentPart h
  · exact Decimal.fits_exponentPart h
  · exact fits_wholeNumber hk h

theorem fits_wholeDigits (hk : k < unsignedLimit) (h : wholeDigits negative k cs = .ok (n, rest)) :
    n.Fits := by
  induction cs generalizing k with
  | nil => exact fits_afterWhole hk h
  | cons c cs ih =>
      simp only [wholeDigits] at h
      split at h
      · exact fits_afterWhole hk h
      · split at h
        · next m hm =>
          -- a digit is taken only if the number still fits
          unfold push? at hm
          split at hm
          · next hfits =>
            obtain rfl := Option.some.inj hm
            exact ih hfits h
          · cases hm
        · exact Decimal.fits_longDigits h

theorem digit?_lt {c : Char} (h : digit? c = some k) : k < unsignedLimit := by
  unfold digit? at h
  split at h
  · next hc =>
    obtain rfl := Option.some.inj h
    simp only [Char.isDigit, Bool.and_eq_true, decide_eq_true_eq, UInt32.le_iff_toNat_le] at hc
    have hle : c.toNat ≤ 57 := hc.2
    have hlimit : 57 < unsignedLimit := by decide
    omega
  · cases h

theorem fits_unsigned (h : unsigned negative cs = .ok (n, rest)) : n.Fits := by
  have hzero : 0 < unsignedLimit := by decide
  unfold unsigned at h
  split at h
  · cases h
  · split at h
    · split at h
      · cases h
      · exact fits_afterWhole hzero h
    · exact fits_afterWhole hzero h
  · split at h
    · next hdigit => exact fits_wholeDigits (digit?_lt hdigit) h
    · cases h

theorem fits_number (h : number cs = .ok (n, rest)) : n.Fits := by
  unfold number at h
  split at h
  · exact fits_unsigned h
  · exact fits_unsigned h

end

/-- All data that is read is genuine. -/
theorem genuine_of_value {limit : Nat} {cs rest : List Char} {j : Json}
    (h : value limit cs = .ok (j, rest)) : j.Genuine := by
  refine value_induction (P := Genuine) ?_ ?_ ?_ ?_ h
  · intro n cs rest hn
    exact (genuine_number_iff n).mpr (fits_number hn)
  · intro j hzero hne
    refine ⟨ordered_of_nesting_eq_zero hzero, ?_⟩
    cases j with
    | number n => exact absurd rfl (hne n)
    | null | bool _ | string _ => simp [numbers]
    | array _ | object _ => simp [nesting] at hzero
  · intro js hjs
    exact (genuine_array_iff js).mpr hjs
  · intro es hsorted hes
    exact (genuine_object_iff es).mpr ⟨hsorted, hes⟩

end Read

end Json

end HandlerStudio
