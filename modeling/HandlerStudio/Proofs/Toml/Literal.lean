import HandlerStudio.Proofs.Json.Numerals
import HandlerStudio.Toml.Literal
import Mathlib.Data.Option.Basic

/-!
# Whole numbers are read back

A whole number at the end of a line is read from its digits: they make up no date and no time, and
nothing follows that would make them a float.
-/

namespace HandlerStudio.Toml.Literal

theorem fixedDigits_of_pair {low high n : Nat} {cs rest : List Char}
    (h : pair low high cs = some (n, rest)) : fixedDigits 2 cs = some (n, rest) := by
  unfold pair at h
  obtain ⟨r, hr, h⟩ := Option.bind_eq_some_iff.mp h
  obtain ⟨-, -, h⟩ := Option.bind_eq_some_iff.mp h
  cases h
  exact hr

theorem fixedDigits_append {count n : Nat} {ds cs rest : List Char}
    (h : fixedDigits count (ds ++ '\n' :: rest) = some (n, cs)) :
    cs = ds.drop count ++ '\n' :: rest := by
  simp only [fixedDigits] at h
  split at h
  · next hall =>
      have hle : count ≤ ds.length := by
        apply Nat.le_of_not_lt
        intro hlt
        have hmem : '\n' ∈ (ds ++ '\n' :: rest).take count := by
          rw [List.take_append, List.mem_append]
          right
          obtain ⟨k, hk⟩ : ∃ k, count - ds.length = k + 1 := ⟨count - ds.length - 1, by omega⟩
          rw [hk, List.take_succ_cons]
          exact List.mem_cons_self
        exact absurd (List.all_eq_true.mp hall.2 '\n' hmem) (by decide)
      cases h
      exact List.drop_append_of_le_length hle
  · cases h

theorem integer_of_decimal {cs ds rest : List Char} {z : Int}
    (hbase : ∀ c tail, cs = '0' :: c :: tail → c = '\n') (hdecimal : decimal cs = some (ds, rest))
    (hvalue : Double.signedValue? ds = some z) (hrange : inRange z = true) :
    integer cs = some (.integer z, rest) := by
  unfold integer
  split
  · exact absurd (hbase 'x' _ rfl) (by decide)
  · exact absurd (hbase 'o' _ rfl) (by decide)
  · exact absurd (hbase 'b' _ rfl) (by decide)
  · have hguard : guard (inRange z = true) = some () := (Option.guard_eq_some' _).mpr hrange
    rw [hdecimal]
    change (Double.signedValue? ds).bind _ = _
    rw [hvalue]
    change Option.bind (guard (inRange z = true)) _ = _
    rw [hguard]
    rfl

section

variable {ds : List Char} (hdigits : ∀ c ∈ ds, c.isDigit = true)

include hdigits

theorem moreDigits_append (rest : List Char) :
    moreDigits Char.isDigit (ds ++ '\n' :: rest) = some (ds, '\n' :: rest) := by
  induction ds with
  | nil => rfl
  | cons c ds ih =>
      rw [List.forall_mem_cons] at hdigits
      have hc : c ≠ '_' := by
        rintro rfl
        exact absurd hdigits.1 (by decide)
      rw [List.cons_append, moreDigits.eq_def]
      split <;> simp_all

theorem mark_append {c : Char} (hdigit : c.isDigit = false) (hline : c ≠ '\n') (rest : List Char) :
    mark c (ds ++ '\n' :: rest) = none := by
  cases ds with
  | nil => exact if_neg hline
  | cons d ds =>
      have hne : c ≠ d := by
        rintro rfl
        exact absurd (hdigits c List.mem_cons_self) (by simp [hdigit])
      exact if_neg hne

theorem mark_of_fixedDigits {count n : Nat} {cs rest : List Char}
    (h : fixedDigits count (ds ++ '\n' :: rest) = some (n, cs)) {c : Char}
    (hdigit : c.isDigit = false) (hline : c ≠ '\n') : mark c cs = none := by
  rw [fixedDigits_append h]
  apply mark_append _ hdigit hline
  intro d hd
  exact hdigits d (List.mem_of_mem_drop hd)

theorem date_append (rest : List Char) : date (ds ++ '\n' :: rest) = none := by
  unfold date
  cases h : fixedDigits 4 (ds ++ '\n' :: rest) with
  | none => rfl
  | some r =>
      have hmark : mark '-' r.2 = none :=
        mark_of_fixedDigits hdigits h (by decide) (by decide)
      simp [hmark]

theorem time_append (rest : List Char) : time (ds ++ '\n' :: rest) = none := by
  unfold time
  cases h : pair 0 23 (ds ++ '\n' :: rest) with
  | none => rfl
  | some r =>
      have hmark : mark ':' r.2 = none :=
        mark_of_fixedDigits hdigits (fixedDigits_of_pair h) (by decide) (by decide)
      simp [hmark]

theorem moment_append (rest : List Char) : moment (ds ++ '\n' :: rest) = none := by
  rw [moment, momentEnd, date_append hdigits, time_append hdigits]
  rfl

theorem digits_append (hne : ds ≠ []) (rest : List Char) :
    digits Char.isDigit (ds ++ '\n' :: rest) = some (ds, '\n' :: rest) := by
  obtain ⟨c, ds, rfl⟩ := List.exists_cons_of_ne_nil hne
  rw [List.forall_mem_cons] at hdigits
  rw [List.cons_append, digits, if_pos hdigits.1, moreDigits_append hdigits.2]
  rfl

theorem sign_append (hne : ds ≠ []) (rest : List Char) : sign (ds ++ rest) = ([], ds ++ rest) := by
  obtain ⟨c, ds, rfl⟩ := List.exists_cons_of_ne_nil hne
  have hc : c.isDigit = true := hdigits c List.mem_cons_self
  rw [List.cons_append]
  unfold sign
  split
  · next hcs =>
      cases hcs
      exact absurd hc (by decide)
  · next hcs =>
      cases hcs
      exact absurd hc (by decide)
  · rfl

/-- Digits without a zero in front make up a whole number. -/
theorem decimal_append (hne : ds ≠ []) (hzero : ds.head? ≠ some '0') (rest : List Char) :
    decimal (ds ++ '\n' :: rest) = some (ds, '\n' :: rest) := by
  have hread := digits_append hdigits hne rest
  have hsign := sign_append hdigits hne ('\n' :: rest)
  obtain ⟨c, ds, rfl⟩ := List.exists_cons_of_ne_nil hne
  have hc : c ≠ '0' := by simpa using hzero
  rw [List.cons_append] at hread hsign ⊢
  simp only [decimal, hsign]
  split
  · next hcs => exact absurd (List.cons_eq_cons.mp hcs).1 hc
  · rw [hread]
    rfl

theorem float_append (hne : ds ≠ []) (hzero : ds.head? ≠ some '0') (rest : List Char) :
    float (ds ++ '\n' :: rest) = none := by
  have hdecimal := decimal_append hdigits hne hzero rest
  have hsign := sign_append hdigits hne ('\n' :: rest)
  have hpart : floatPart ('\n' :: rest) = none := rfl
  obtain ⟨c, ds, rfl⟩ := List.exists_cons_of_ne_nil hne
  have hc : c.isDigit = true := hdigits c List.mem_cons_self
  rw [List.cons_append] at hdecimal hsign ⊢
  rw [float, hsign]
  split
  · next hcs =>
      rw [(List.cons_eq_cons.mp (Prod.mk.inj hcs).2).1] at hc
      exact absurd hc (by decide)
  · next hcs =>
      rw [(List.cons_eq_cons.mp (Prod.mk.inj hcs).2).1] at hc
      exact absurd hc (by decide)
  · rw [hdecimal]
    simp [hpart]

theorem signedValue?_digits (hne : ds ≠ []) :
    Double.signedValue? ds = some (Double.digitsValue ds : Int) := by
  obtain ⟨c, cs, rfl⟩ := List.exists_cons_of_ne_nil hne
  have hc : c.isDigit = true := hdigits c List.mem_cons_self
  have hsplit : Double.splitSign (c :: cs) = (false, c :: cs) := by
    unfold Double.splitSign
    split
    · next hcs =>
        rw [(List.cons_eq_cons.mp hcs).1] at hc
        exact absurd hc (by decide)
    · next hcs =>
        rw [(List.cons_eq_cons.mp hcs).1] at hc
        exact absurd hc (by decide)
    · rfl
  have hall : (c :: cs).all Char.isDigit = true := List.all_eq_true.mpr hdigits
  simp only [Double.signedValue?, hsplit, hall]
  rfl

end

theorem inRange_natCast {n : Nat} (hn : n < signedLimit) : inRange (n : Int) = true := by
  simp only [inRange, Bool.and_eq_true, decide_eq_true_eq]
  omega

theorem digitsValue_toDigits (n : Nat) : Double.digitsValue (Nat.toDigits 10 n) = n := by
  have hvalue := Nat.ofDigitChars_ten_toDigits (n := n)
  simp only [Nat.ofDigitChars, Nat.mul_comm 10] at hvalue
  exact hvalue

/-- A whole number is read back from its digits at the end of a line. -/
theorem read_toDigits {n : Nat} (hn : n < signedLimit) (rest : List Char) :
    read (Nat.toDigits 10 n ++ '\n' :: rest) = some (.integer n, '\n' :: rest) := by
  by_cases hzero : n = 0
  · subst hzero
    have hmoment : moment ('0' :: '\n' :: rest) = none := by
      have hall : ∀ c ∈ ['0'], c.isDigit = true := List.forall_mem_singleton.mpr (by decide)
      exact moment_append hall rest
    have hfloat : float ('0' :: '\n' :: rest) = none := rfl
    have hinteger : integer ('0' :: '\n' :: rest) = some (.integer 0, '\n' :: rest) := by
      apply integer_of_decimal _ rfl rfl (by decide)
      intro c tail hcs
      cases hcs
      rfl
    change read ('0' :: '\n' :: rest) = _
    rw [read, hmoment, hfloat, hinteger]
    rfl
  · obtain ⟨c, cs, hcs, hc⟩ := Json.Read.toDigits_pos n (by omega)
    have hdigits : ∀ d ∈ c :: cs, d.isDigit = true := by
      intro d hd
      rw [← hcs] at hd
      exact Nat.isDigit_of_mem_toDigits (by decide) (by decide) hd
    have hhead : (c :: cs).head? ≠ some '0' := by simpa using hc
    have hvalue : Double.signedValue? (c :: cs) = some (n : Int) := by
      rw [signedValue?_digits hdigits (by simp), ← hcs, digitsValue_toDigits]
    have hinteger : integer (c :: cs ++ '\n' :: rest) = some (.integer n, '\n' :: rest) := by
      apply integer_of_decimal _ (decimal_append hdigits (by simp) hhead rest) hvalue
        (inRange_natCast hn)
      intro d tail htail
      exact absurd (List.cons_eq_cons.mp htail).1 hc
    rw [hcs, read, moment_append hdigits, float_append hdigits (by simp) hhead, hinteger]
    rfl

end HandlerStudio.Toml.Literal
