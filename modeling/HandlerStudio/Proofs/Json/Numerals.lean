import HandlerStudio.Json.Reader

/-!
# Numbers inside a text

A number that is read gives the same number when more text follows that cannot belong to it. Whole
numbers of 64 bits are read back from their digits.
-/

namespace HandlerStudio

namespace Json.Read

/-- What comes next cannot belong to a number. -/
def EndsNumber (rest : List Char) : Prop :=
  ∀ c ∈ rest.head?, c.isDigit = false ∧ c ≠ '.' ∧ c ≠ 'e' ∧ c ≠ 'E'

theorem endsNumber_cons_iff {c : Char} {cs : List Char} :
    EndsNumber (c :: cs) ↔ c.isDigit = false ∧ c ≠ '.' ∧ c ≠ 'e' ∧ c ≠ 'E' := by
  simp [EndsNumber]

theorem digit?_eq_none_iff {c : Char} : digit? c = none ↔ c.isDigit = false := by
  cases h : c.isDigit <;> simp [digit?, h]

/-! ## More text behind a number -/

section

variable {rest : List Char} (hrest : EndsNumber rest)

include hrest

theorem skipDigits_of_ends : skipDigits rest = rest := by
  cases rest with
  | nil => rfl
  | cons c cs => simp [skipDigits, (endsNumber_cons_iff.mp hrest).1]

theorem skipDigits_append (cs : List Char) : skipDigits (cs ++ rest) = skipDigits cs ++ rest := by
  induction cs with
  | nil => exact skipDigits_of_ends hrest
  | cons c cs ih =>
      by_cases hc : c.isDigit
      · simpa [skipDigits, hc] using ih
      · simp [skipDigits, hc]

theorem exponentDigits_append (cs : List Char) (e : Nat) :
    exponentDigits e (cs ++ rest) = ((exponentDigits e cs).1, (exponentDigits e cs).2 ++ rest) := by
  induction cs generalizing e with
  | nil =>
      cases rest with
      | nil => rfl
      | cons c cs =>
          simp [exponentDigits, digit?_eq_none_iff.mpr (endsNumber_cons_iff.mp hrest).1]
  | cons c cs ih =>
      cases hc : digit? c with
      | none => simp [exponentDigits, hc]
      | some n =>
          by_cases hn : e * 10 + n ≤ exponentLimit
          · simp [exponentDigits, hc, hn, ih]
          · simp [exponentDigits, hc, hn, skipDigits_append hrest]

namespace Decimal

omit hrest in
theorem finish_append {d : Decimal} {cs s : List Char} {n : Number}
    (h : d.finish cs = .ok (n, s)) (rest : List Char) :
    d.finish (cs ++ rest) = .ok (n, s ++ rest) := by
  unfold finish at h ⊢
  generalize Double.scaled? d.negative d.significand d.exponent = x? at h ⊢
  cases x? with
  | none => cases h
  | some x => cases h; rfl

omit hrest in
/-- The exponent after its sign. -/
def exponentFrom (d : Decimal) (down : Bool) : List Char → Except Fault (Number × List Char)
  | [] => .error .truncated
  | c :: rest =>
      match digit? c with
      | none => .error .malformed
      | some n =>
          match exponentDigits n rest with
          | (some e, rest) =>
              ({ d with exponent := if down then d.exponent - e else d.exponent + e } :
                Decimal).finish rest
          | (none, rest) =>
              if d.significand ≠ 0 ∧ !down then .error .malformed
              else .ok (.float (Double.zero d.negative), rest)

omit hrest in
theorem exponentPart_plus (d : Decimal) (cs : List Char) :
    d.exponentPart ('+' :: cs) = d.exponentFrom false cs := by
  cases cs <;> rfl

omit hrest in
theorem exponentPart_minus (d : Decimal) (cs : List Char) :
    d.exponentPart ('-' :: cs) = d.exponentFrom true cs := by
  cases cs <;> rfl

omit hrest in
theorem exponentPart_unsigned (d : Decimal) {c : Char} (hp : c ≠ '+') (hm : c ≠ '-')
    (cs : List Char) : d.exponentPart (c :: cs) = d.exponentFrom false (c :: cs) := by
  unfold exponentPart
  split
  rename_i down cs' hsplit
  have hsign : false = down ∧ c :: cs = cs' := by simpa [hp, hm] using hsplit
  obtain ⟨rfl, rfl⟩ := hsign
  rfl

theorem exponentFrom_append {d : Decimal} {down : Bool} {cs s : List Char} {n : Number}
    (h : d.exponentFrom down cs = .ok (n, s)) :
    d.exponentFrom down (cs ++ rest) = .ok (n, s ++ rest) := by
  cases cs with
  | nil => cases h
  | cons c cs =>
      cases hc : digit? c with
      | none => simp [exponentFrom, hc] at h
      | some k =>
          simp only [exponentFrom, hc, List.cons_append, exponentDigits_append hrest] at h ⊢
          cases he : (exponentDigits k cs).1 with
          | some e =>
              rw [← Prod.eta (exponentDigits k cs), he] at h
              exact finish_append h rest
          | none =>
              rw [← Prod.eta (exponentDigits k cs), he] at h
              simp only at h ⊢
              split at h
              · cases h
              · rename_i hcond
                cases h
                rw [if_neg hcond]

theorem exponentPart_append {d : Decimal} {cs s : List Char} {n : Number}
    (h : d.exponentPart cs = .ok (n, s)) :
    d.exponentPart (cs ++ rest) = .ok (n, s ++ rest) := by
  cases cs with
  | nil => cases h
  | cons c cs =>
      rw [List.cons_append]
      by_cases hp : c = '+'
      · subst hp
        rw [exponentPart_plus] at h ⊢
        exact exponentFrom_append hrest h
      · by_cases hm : c = '-'
        · subst hm
          rw [exponentPart_minus] at h ⊢
          exact exponentFrom_append hrest h
        · rw [exponentPart_unsigned d hp hm] at h ⊢
          exact exponentFrom_append hrest h

omit hrest in
theorem afterDigits_other (d : Decimal) {c : Char} (he : c ≠ 'e') (hE : c ≠ 'E')
    (cs : List Char) : d.afterDigits (c :: cs) = d.finish (c :: cs) := by
  unfold afterDigits
  split <;> simp_all

theorem afterDigits_append {d : Decimal} {cs s : List Char} {n : Number}
    (h : d.afterDigits cs = .ok (n, s)) :
    d.afterDigits (cs ++ rest) = .ok (n, s ++ rest) := by
  cases cs with
  | nil =>
      have hend : d.afterDigits rest = d.finish rest := by
        cases rest with
        | nil => rfl
        | cons c cs =>
            obtain ⟨-, -, he, hE⟩ := endsNumber_cons_iff.mp hrest
            exact d.afterDigits_other he hE cs
      rw [List.nil_append, hend]
      exact finish_append h rest
  | cons c cs =>
      rw [List.cons_append]
      by_cases he : c = 'e'
      · subst he
        exact exponentPart_append hrest h
      · by_cases hE : c = 'E'
        · subst hE
          exact exponentPart_append hrest h
        · rw [d.afterDigits_other he hE] at h ⊢
          exact finish_append h rest

theorem fractionDigits_append (d : Decimal) (cs : List Char) :
    d.fractionDigits (cs ++ rest) = ((d.fractionDigits cs).1, (d.fractionDigits cs).2 ++ rest) := by
  induction cs generalizing d with
  | nil =>
      cases rest with
      | nil => rfl
      | cons c cs =>
          simp [fractionDigits, digit?_eq_none_iff.mpr (endsNumber_cons_iff.mp hrest).1]
  | cons c cs ih =>
      cases hc : digit? c with
      | none => simp [fractionDigits, hc]
      | some n =>
          cases hn : push? d.significand n with
          | some k => simp [fractionDigits, hc, hn, ih]
          | none => simp [fractionDigits, hc, hn, skipDigits_append hrest]

theorem fraction_append {d : Decimal} {cs s : List Char} {n : Number}
    (h : d.fraction cs = .ok (n, s)) : d.fraction (cs ++ rest) = .ok (n, s ++ rest) := by
  cases cs with
  | nil => cases h
  | cons c cs =>
      simp only [fraction, List.cons_append] at h ⊢
      split at h
      · rename_i hc
        rw [if_pos hc, ← List.cons_append, fractionDigits_append hrest]
        exact afterDigits_append hrest h
      · cases h

omit hrest in
theorem longDigits_digit (d : Decimal) {c : Char} (hc : c.isDigit = true) (cs : List Char) :
    d.longDigits (c :: cs) = ({ d with exponent := d.exponent + 1 } : Decimal).longDigits cs := by
  rw [longDigits.eq_def]
  split <;> simp_all

omit hrest in
theorem longDigits_ended (d : Decimal) {c : Char} {cs : List Char}
    (hc : EndsNumber (c :: cs)) : d.longDigits (c :: cs) = d.finish (c :: cs) := by
  obtain ⟨hdigit, hpoint, he, hE⟩ := endsNumber_cons_iff.mp hc
  rw [longDigits.eq_def]
  split <;> simp_all

theorem longDigits_append {d : Decimal} {cs s : List Char} {n : Number}
    (h : d.longDigits cs = .ok (n, s)) :
    d.longDigits (cs ++ rest) = .ok (n, s ++ rest) := by
  induction cs generalizing d with
  | nil =>
      have hend : d.longDigits rest = d.finish rest := by
        cases rest with
        | nil => rfl
        | cons c cs => exact d.longDigits_ended hrest
      rw [List.nil_append, hend]
      exact finish_append h rest
  | cons c cs ih =>
      rw [List.cons_append]
      by_cases hpoint : c = '.'
      · subst hpoint
        exact fraction_append hrest h
      by_cases he : c = 'e'
      · subst he
        exact exponentPart_append hrest h
      by_cases hE : c = 'E'
      · subst hE
        exact exponentPart_append hrest h
      by_cases hc : c.isDigit = true
      · rw [d.longDigits_digit hc] at h ⊢
        exact ih h
      · have hend : ∀ cs, EndsNumber (c :: cs) := fun cs =>
          endsNumber_cons_iff.mpr ⟨by simpa using hc, hpoint, he, hE⟩
        rw [d.longDigits_ended (hend _)] at h ⊢
        exact finish_append h rest

end Decimal

omit hrest in
theorem afterWhole_ended {c : Char} {cs : List Char} (hpoint : c ≠ '.') (he : c ≠ 'e')
    (hE : c ≠ 'E') (negative : Bool) (n : Nat) :
    afterWhole negative n (c :: cs) = wholeNumber negative n (c :: cs) := by
  unfold afterWhole
  split <;> simp_all

omit hrest in
theorem wholeNumber_append {negative : Bool} {k : Nat} {cs s : List Char} {n : Number}
    (h : wholeNumber negative k cs = .ok (n, s)) (rest : List Char) :
    wholeNumber negative k (cs ++ rest) = .ok (n, s ++ rest) := by
  unfold wholeNumber at h ⊢
  split at h
  · rename_i hneg
    cases h
    rw [if_pos hneg]
  · rename_i hneg
    rw [if_neg hneg]
    split at h
    · rename_i hfits
      cases h
      rw [if_pos hfits]
    · rename_i hfits
      rw [if_neg hfits]
      exact Decimal.finish_append h rest

theorem afterWhole_append {negative : Bool} {k : Nat} {cs s : List Char} {n : Number}
    (h : afterWhole negative k cs = .ok (n, s)) :
    afterWhole negative k (cs ++ rest) = .ok (n, s ++ rest) := by
  cases cs with
  | nil =>
      have hend : afterWhole negative k rest = wholeNumber negative k rest := by
        cases rest with
        | nil => rfl
        | cons c cs =>
            obtain ⟨-, hpoint, he, hE⟩ := endsNumber_cons_iff.mp hrest
            exact afterWhole_ended hpoint he hE negative k
      rw [List.nil_append, hend]
      exact wholeNumber_append h rest
  | cons c cs =>
      rw [List.cons_append]
      by_cases hpoint : c = '.'
      · subst hpoint
        exact Decimal.fraction_append hrest h
      by_cases he : c = 'e'
      · subst he
        exact Decimal.exponentPart_append hrest h
      by_cases hE : c = 'E'
      · subst hE
        exact Decimal.exponentPart_append hrest h
      rw [afterWhole_ended hpoint he hE] at h ⊢
      exact wholeNumber_append h rest

-- Once a digit no longer fits, all that follow only raise the power of ten.
theorem wholeDigits_append {negative : Bool} {k : Nat} {cs s : List Char} {n : Number}
    (h : wholeDigits negative k cs = .ok (n, s)) :
    wholeDigits negative k (cs ++ rest) = .ok (n, s ++ rest) := by
  induction cs generalizing k with
  | nil =>
      have hend : wholeDigits negative k rest = afterWhole negative k rest := by
        cases rest with
        | nil => rfl
        | cons c cs =>
            simp [wholeDigits, digit?_eq_none_iff.mpr (endsNumber_cons_iff.mp hrest).1]
      rw [List.nil_append, hend]
      exact afterWhole_append hrest h
  | cons c cs ih =>
      cases hc : digit? c with
      | none =>
          simp only [wholeDigits, hc, List.cons_append] at h ⊢
          exact afterWhole_append hrest h
      | some d =>
          cases hk : push? k d with
          | some m =>
              simp only [wholeDigits, hc, hk, List.cons_append] at h ⊢
              exact ih h
          | none =>
              simp only [wholeDigits, hc, hk, List.cons_append] at h ⊢
              exact Decimal.longDigits_append hrest h

omit hrest in
theorem unsigned_of_ne_zero (negative : Bool) {c : Char} (hc : c ≠ '0') (cs : List Char) :
    unsigned negative (c :: cs) =
      (digit? c).elim (.error .malformed) fun n => wholeDigits negative n cs := by
  unfold unsigned
  split
  · simp_all
  · simp_all
  · rename_i hcs
    cases hcs
    cases digit? c <;> rfl

theorem unsigned_append {negative : Bool} {cs s : List Char} {n : Number}
    (h : unsigned negative cs = .ok (n, s)) :
    unsigned negative (cs ++ rest) = .ok (n, s ++ rest) := by
  cases cs with
  | nil => cases h
  | cons c cs =>
      by_cases hzero : c = '0'
      · subst hzero
        cases cs with
        | nil =>
            have hend : unsigned negative ('0' :: rest) = afterWhole negative 0 rest := by
              cases rest with
              | nil => rfl
              | cons c cs => simp [unsigned, (endsNumber_cons_iff.mp hrest).1]
            have hwhole : afterWhole negative 0 [] = .ok (n, s) := h
            exact hend.trans (afterWhole_append hrest hwhole)
        | cons c cs =>
            simp only [unsigned, List.cons_append] at h ⊢
            split at h
            · cases h
            · rename_i hc
              rw [if_neg hc]
              exact afterWhole_append hrest h
      · rw [List.cons_append]
        rw [unsigned_of_ne_zero negative hzero] at h ⊢
        cases hc : digit? c with
        | none => simp [hc] at h
        | some d =>
            simp only [hc, Option.elim_some] at h ⊢
            exact wholeDigits_append hrest h

/-- A number that is read is read all the same when it is followed by what cannot belong to it. -/
theorem number_append {cs s : List Char} {n : Number} (h : number cs = .ok (n, s)) :
    number (cs ++ rest) = .ok (n, s ++ rest) := by
  cases cs with
  | nil => cases h
  | cons c cs =>
      rw [List.cons_append]
      unfold number at h ⊢
      split at h
      · rename_i hcs
        cases hcs
        exact unsigned_append hrest h
      · rename_i hsign
        split
        · rename_i hcs
          cases hcs
          exact absurd rfl (hsign cs)
        · exact unsigned_append hrest h

end

theorem startsNumber_of_number {c : Char} {cs s : List Char} {n : Number}
    (h : number (c :: cs) = .ok (n, s)) : startsNumber c = true := by
  by_cases hminus : c = '-'
  · subst hminus
    rfl
  · cases hc : c.isDigit with
    | true => simp [startsNumber, hc]
    | false =>
        have hzero : c ≠ '0' := by
          rintro rfl
          exact absurd hc (by decide)
        have hread : number (c :: cs) = unsigned false (c :: cs) := by
          unfold number
          split
          · simp_all
          · rfl
        rw [hread, unsigned_of_ne_zero false hzero, digit?_eq_none_iff.mpr hc] at h
        cases h

/-! ## Whole numbers -/

theorem digit?_of_isDigit {c : Char} (h : c.isDigit = true) :
    digit? c = some (c.toNat - '0'.toNat) := by simp [digit?, h]

theorem le_ofDigitChars (cs : List Char) (n : Nat) : n ≤ Nat.ofDigitChars 10 cs n := by
  induction cs generalizing n with
  | nil => exact Nat.le_refl n
  | cons c cs ih =>
      rw [Nat.ofDigitChars_cons]
      have hle := ih (10 * n + (c.toNat - '0'.toNat))
      omega

theorem wholeDigits_digits (negative : Bool) {cs : List Char} (hdigits : ∀ c ∈ cs, c.isDigit = true)
    {n : Nat} (hfits : Nat.ofDigitChars 10 cs n < unsignedLimit) :
    wholeDigits negative n cs = wholeNumber negative (Nat.ofDigitChars 10 cs n) [] := by
  induction cs generalizing n with
  | nil => rfl
  | cons c cs ih =>
      rw [List.forall_mem_cons] at hdigits
      rw [Nat.ofDigitChars_cons, Nat.mul_comm] at hfits ⊢
      -- the digits read so far make up no more than the whole number
      have hpush : push? n (c.toNat - '0'.toNat) = some (n * 10 + (c.toNat - '0'.toNat)) :=
        if_pos (Nat.lt_of_le_of_lt (le_ofDigitChars cs _) hfits)
      simp only [wholeDigits, digit?_of_isDigit hdigits.1, hpush]
      exact ih hdigits.2 hfits

/-- The first digit of a positive number is not zero. -/
theorem toDigits_pos (n : Nat) (hpos : 0 < n) :
    ∃ c cs, Nat.toDigits 10 n = c :: cs ∧ c ≠ '0' := by
  induction n using Nat.strongRecOn with
  | ind n ih =>
      by_cases hn : n < 10
      · refine ⟨n.digitChar, [], Nat.toDigits_of_lt_base hn, ?_⟩
        have hall : ∀ d < 10, 0 < d → d.digitChar ≠ '0' := by decide
        exact hall n hn hpos
      · obtain ⟨c, cs, hcs, hc⟩ := ih (n / 10) (by omega) (by omega)
        refine ⟨c, cs ++ [(n % 10).digitChar], ?_, hc⟩
        rw [Nat.toDigits_of_base_le (by omega) (by omega), hcs, List.cons_append]

theorem unsigned_toDigits (negative : Bool) {n : Nat} (hfits : n < unsignedLimit) :
    unsigned negative (Nat.toDigits 10 n) = wholeNumber negative n [] := by
  by_cases hzero : n = 0
  · subst hzero
    rfl
  · obtain ⟨c, cs, hcs, hc⟩ := toDigits_pos n (by omega)
    have hdigits : ∀ d ∈ c :: cs, d.isDigit = true := by
      intro d hd
      rw [← hcs] at hd
      exact Nat.isDigit_of_mem_toDigits (by decide) (by decide) hd
    rw [List.forall_mem_cons] at hdigits
    have hvalue : Nat.ofDigitChars 10 cs (c.toNat - '0'.toNat) = n := by
      have hall := Nat.ofDigitChars_ten_toDigits (n := n)
      rw [hcs, Nat.ofDigitChars_cons] at hall
      simpa using hall
    rw [hcs, unsigned_of_ne_zero negative hc, digit?_of_isDigit hdigits.1, Option.elim_some,
      wholeDigits_digits negative hdigits.2 (by rw [hvalue]; exact hfits), hvalue]

/-- A whole number of 64 bits is read back from its digits. -/
theorem number_intText {z : Int} (h : Number.inRange z = true) :
    number (Number.intText z) = .ok (.int z, []) := by
  simp only [Number.inRange, Bool.and_eq_true, decide_eq_true_eq] at h
  cases z with
  | ofNat n =>
      have hn : n < unsignedLimit := Int.ofNat_lt.mp h.2
      have hsign : number (Nat.toDigits 10 n) = unsigned false (Nat.toDigits 10 n) := by
        unfold number
        split
        · rename_i hcs
          have hdigit : ('-' : Char).isDigit = true :=
            Nat.isDigit_of_mem_toDigits (b := 10) (n := n) (by decide) (by decide)
              (by rw [hcs]; simp)
          exact absurd hdigit (by decide)
        · rfl
      rw [Number.intText, hsign, unsigned_toDigits false hn]
      rfl
  | negSucc n =>
      have hn : n + 1 ≤ signedLimit := by omega
      have hlimit : signedLimit < unsignedLimit := by decide
      have hread : number (Number.intText (.negSucc n)) = wholeNumber true (n + 1) [] :=
        unsigned_toDigits true (by omega)
      rw [hread, wholeNumber, if_neg (by decide), if_pos ⟨by omega, hn⟩]
      rfl

end Json.Read

end HandlerStudio
