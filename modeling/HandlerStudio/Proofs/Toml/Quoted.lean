import HandlerStudio.Toml.Quoted
import Mathlib.Data.List.TakeWhile
import Mathlib.Data.Option.Basic

/-!
# Quoted texts are read back

Whatever kind of quotes a text is written in, reading takes them off again: `Quoted.read_write`. A
character is written as itself or as one escape, and either takes one step to read. Between three
quotes a run of quotes takes one step as a whole; written texts have no run of more than two, so
only the closing quotes end the text.
-/

namespace HandlerStudio

/-! ## Characters -/

theorem Text.hexDigit?_upper : ∀ d < 16,
    hexDigit? (if d < 10 then Char.ofNat (d + 48) else Char.ofNat (d + 55)) = some d := by decide

namespace Toml.Quoted

theorem toNat_lt_of_needsEscape {c : Char} (h : needsEscape c = true) : c.toNat < 128 := by
  simp only [needsEscape, isControl, Bool.and_eq_true, Bool.or_eq_true, decide_eq_true_eq,
    beq_iff_eq] at h
  rcases h.1 with ⟨hlt, -⟩ | rfl
  · have hspace : c.toNat < 32 := hlt
    omega
  · decide

theorem codePoint_hexPair {c : Char} (hc : c.toNat < 128) (rest : List Char) :
    codePoint 4 ('0' :: '0' :: (hexPair c ++ rest)) = some (c, rest) := by
  have hzero : Text.hexDigit? '0' = some 0 := by decide
  have hhigh := Text.hexDigit?_upper (c.toNat / 16) (by omega)
  have hlow := Text.hexDigit?_upper (c.toNat % 16) (by omega)
  have hvalue : c.toNat / 16 * 16 + c.toNat % 16 = c.toNat := by omega
  have hvalid : guard c.toNat.isValidChar = some () := (Option.guard_eq_some' _).mpr c.valid
  have hnumber : ('0' :: '0' :: hexPair c).foldlM
      (fun n c => do return n * 16 + (← Text.hexDigit? c)) 0 = some c.toNat := by
    simp [hexPair, hzero, hhigh, hlow, hvalue]
  change Option.bind (List.foldlM _ 0 ('0' :: '0' :: hexPair c)) (fun n =>
    Option.bind (guard n.isValidChar) fun _ => some (Char.ofNat n, rest)) = some (c, rest)
  rw [hnumber, Option.bind_some, hvalid, Option.bind_some, Char.ofNat_toNat]

/-- A character is written as an escape that is read as the character, or as itself. -/
theorem escaped_cases (c : Char) :
    (∃ d ds, escaped c = '\\' :: d :: ds ∧ d ≠ '\n' ∧ d ≠ '\r' ∧ isSpace d = false ∧
      ∀ rest, escape (d :: (ds ++ rest)) = some (c, rest)) ∨
    escaped c = [c] ∧ c ≠ '\\' ∧ needsEscape c = false := by
  by_cases hslash : c = '\\'
  · subst hslash
    exact Or.inl ⟨'\\', [], rfl, by decide, by decide, rfl, fun _ => rfl⟩
  by_cases hback : c = '\x08'
  · subst hback
    exact Or.inl ⟨'b', [], rfl, by decide, by decide, rfl, fun _ => rfl⟩
  by_cases htab : c = '\t'
  · subst htab
    exact Or.inl ⟨'t', [], rfl, by decide, by decide, rfl, fun _ => rfl⟩
  by_cases hfeed : c = '\x0c'
  · subst hfeed
    exact Or.inl ⟨'f', [], rfl, by decide, by decide, rfl, fun _ => rfl⟩
  by_cases hreturn : c = '\r'
  · subst hreturn
    exact Or.inl ⟨'r', [], rfl, by decide, by decide, rfl, fun _ => rfl⟩
  by_cases hneeds : needsEscape c = true
  · have hwritten : escaped c = '\\' :: 'u' :: ('0' :: '0' :: hexPair c) := by
      simp [escaped, hslash, hback, htab, hfeed, hreturn, hneeds]
    refine Or.inl ⟨'u', '0' :: '0' :: hexPair c, hwritten, by decide, by decide, rfl, ?_⟩
    intro rest
    exact codePoint_hexPair (toNat_lt_of_needsEscape hneeds) rest
  · have hplain : needsEscape c = false := by simpa using hneeds
    refine Or.inr ⟨?_, hslash, hplain⟩
    simp [escaped, hslash, hback, htab, hfeed, hreturn, hplain]

theorem isControl_eq_false {c : Char} (hneeds : needsEscape c = false) (hline : c ≠ '\n') :
    isControl c = false := by
  simpa [needsEscape, hline] using hneeds

theorem isPlain_eq_true {c : Char} (hneeds : needsEscape c = false) (hline : c ≠ '\n')
    (hslash : c ≠ '\\') (hquote : c ≠ '"') : isPlain c = true := by
  simp [isPlain, isControl_eq_false hneeds hline, hslash, hquote]

/-! ## One line between double quotes -/

/-- A character as it stands on one line between double quotes. -/
def escapedInLine (c : Char) : List Char :=
  if c = '"' then ['\\', '"'] else if c = '\n' then ['\\', 'n'] else escaped c

theorem escapedLine_eq_flatMap (cs : List Char) : escapedLine cs = cs.flatMap escapedInLine := rfl

theorem escapedInLine_cases (c : Char) :
    (∃ d ds, escapedInLine c = '\\' :: d :: ds ∧
      ∀ rest, escape (d :: (ds ++ rest)) = some (c, rest)) ∨
    escapedInLine c = [c] ∧ c ≠ '\\' ∧ c ≠ '"' ∧ isPlain c = true := by
  unfold escapedInLine
  split
  · next hquote =>
      subst hquote
      exact Or.inl ⟨'"', [], rfl, fun _ => rfl⟩
  · next hquote =>
      split
      · next hline =>
          subst hline
          exact Or.inl ⟨'n', [], rfl, fun _ => rfl⟩
      · next hline =>
          rcases escaped_cases c with ⟨d, ds, hwritten, -, -, -, hread⟩ | ⟨hwritten, hslash, hneeds⟩
          · exact Or.inl ⟨d, ds, hwritten, hread⟩
          · exact Or.inr ⟨hwritten, hslash, hquote, isPlain_eq_true hneeds hline hslash hquote⟩

theorem basicFrom_escapedInLine (c b : Char) (fuel cs : List Char) :
    basicFrom (b :: fuel) (escapedInLine c ++ cs) =
      (basicFrom fuel cs).map fun p => (c :: p.1, p.2) := by
  rcases escapedInLine_cases c with ⟨d, ds, hwritten, hread⟩ | ⟨hwritten, hslash, hquote, hplain⟩
  · rw [hwritten, List.cons_append, List.cons_append, basicFrom, if_neg (by decide), if_pos rfl,
      hread cs, Option.map_eq_bind]
    rfl
  · rw [hwritten, List.singleton_append, basicFrom, if_neg hquote, if_neg hslash, if_pos hplain,
      Option.map_eq_bind]
    rfl

theorem basicFrom_escapedLine (cs rest : List Char) {fuel : List Char}
    (hfuel : cs.length < fuel.length) :
    basicFrom fuel (escapedLine cs ++ '"' :: rest) = some (cs, rest) := by
  rw [escapedLine_eq_flatMap]
  induction cs generalizing fuel with
  | nil =>
      cases fuel with
      | nil => simp at hfuel
      | cons b fuel => rfl
  | cons c cs ih =>
      cases fuel with
      | nil => simp at hfuel
      | cons b fuel =>
          rw [List.flatMap_cons, List.append_assoc, basicFrom_escapedInLine,
            ih (by simpa using hfuel)]
          rfl

/-! ## One line between single quotes -/

theorem literal_append {cs : List Char} (hcs : ∀ c ∈ cs, isLiteral c = true) (rest : List Char) :
    literal (cs ++ '\'' :: rest) = some (cs, rest) := by
  induction cs with
  | nil => rfl
  | cons c cs ih =>
      rw [List.forall_mem_cons] at hcs
      have hquote : c ≠ '\'' := by
        rintro rfl
        exact absurd hcs.1 (by decide)
      rw [List.cons_append, literal, if_neg hquote, if_pos hcs.1, ih hcs.2]
      rfl

/-! ## Runs of quotes -/

section

variable {quote : Char} {run cs : List Char}

theorem takeWhile_run (hrun : ∀ c ∈ run, c = quote) (hcs : cs.head? ≠ some quote) :
    (run ++ cs).takeWhile (· == quote) = run := by
  rw [List.takeWhile_append_of_pos (by simpa using hrun)]
  cases cs with
  | nil => simp
  | cons c cs =>
      have hc : (c == quote) = false := by simpa using hcs
      simp [hc]

theorem closing_inner (hrun : ∀ c ∈ run, c = quote) (hlength : run.length < 3)
    (hcs : cs.head? ≠ some quote) : closing quote (run ++ cs) = (false, run, cs) := by
  simp only [closing, takeWhile_run hrun hcs, if_pos hlength, List.drop_left]

theorem closing_end (hrun : ∀ c ∈ run, c = quote) (hlength : run.length < 3)
    (hcs : cs.head? ≠ some quote) :
    closing quote (run ++ quote :: quote :: quote :: cs) = (true, run, cs) := by
  have hall : ∀ c ∈ run ++ [quote, quote, quote], c = quote := by
    intro c hc
    rcases List.mem_append.mp hc with hc | hc
    · exact hrun c hc
    · simpa using hc
  have hsplit : run ++ quote :: quote :: quote :: cs = (run ++ [quote, quote, quote]) ++ cs := by
    simp
  have hwhole : (run ++ [quote, quote, quote]).length = run.length + 3 := by simp
  have hinner : min (run.length + 3 - 3) 2 = run.length := by omega
  have hdrop : (run ++ [quote, quote, quote] ++ cs).drop (run.length + 3) = cs := by
    rw [← hwhole, List.drop_left]
  simp only [hsplit, closing, takeWhile_run hall hcs, hwhole,
    if_neg (show ¬ run.length + 3 < 3 by omega), hinner, hdrop, List.take_left]

/-- The reader takes a run of quotes as `closing` says. -/
def TakesRuns (quote : Char) (reader : List Char → List Char → Option (List Char × List Char)) :
    Prop :=
  ∀ b fuel cs,
    (∀ run rest, closing quote (quote :: cs) = (true, run, rest) →
      reader (b :: fuel) (quote :: cs) = some (run, rest)) ∧
    ∀ run rest, closing quote (quote :: cs) = (false, run, rest) →
      reader (b :: fuel) (quote :: cs) = (reader fuel rest).map fun p => (run ++ p.1, p.2)

variable {reader : List Char → List Char → Option (List Char × List Char)}

theorem TakesRuns.inner (h : TakesRuns quote reader) (hrun : ∀ c ∈ run, c = quote) (hne : run ≠ [])
    (hlength : run.length < 3) (hcs : cs.head? ≠ some quote) (b : Char) (fuel : List Char) :
    reader (b :: fuel) (run ++ cs) = (reader fuel cs).map fun p => (run ++ p.1, p.2) := by
  have hclosing := closing_inner hrun hlength hcs
  obtain ⟨c, run, rfl⟩ := List.exists_cons_of_ne_nil hne
  cases hrun c List.mem_cons_self
  exact (h b fuel (run ++ cs)).2 _ _ hclosing

theorem TakesRuns.last (h : TakesRuns quote reader) (hrun : ∀ c ∈ run, c = quote)
    (hlength : run.length < 3) (hcs : cs.head? ≠ some quote) (b : Char) (fuel : List Char) :
    reader (b :: fuel) (run ++ quote :: quote :: quote :: cs) = some (run, cs) := by
  have hclosing := closing_end hrun hlength hcs
  cases run with
  | nil => exact (h b fuel _).1 _ _ hclosing
  | cons c run =>
      cases hrun c List.mem_cons_self
      exact (h b fuel _).1 _ _ hclosing

end

/-! ## Several lines between double quotes -/

theorem lineBreak?_eq_none {c : Char} (hline : c ≠ '\n') (hreturn : c ≠ '\r') (cs : List Char) :
    lineBreak? (c :: cs) = none := by
  unfold lineBreak?
  split <;> simp_all

theorem foldedBreak?_eq_none {c : Char} (hspace : isSpace c = false) (hline : c ≠ '\n')
    (hreturn : c ≠ '\r') (cs : List Char) : foldedBreak? (c :: cs) = none := by
  have hdrop : (c :: cs).dropWhile isSpace = c :: cs := by simp [hspace]
  rw [foldedBreak?, hdrop, lineBreak?_eq_none hline hreturn]
  rfl

theorem ne_return_of_not_needsEscape {c : Char} (h : needsEscape c = false) : c ≠ '\r' := by
  rintro rfl
  exact absurd h (by decide)

theorem multilineBasicFrom_escaped {c : Char} (hquote : c ≠ '"') (b : Char) (fuel cs : List Char) :
    multilineBasicFrom (b :: fuel) (escaped c ++ cs) =
      (multilineBasicFrom fuel cs).map fun p => (c :: p.1, p.2) := by
  rw [Option.map_eq_bind]
  rcases escaped_cases c with
    ⟨d, ds, hwritten, hline, hreturn, hspace, hread⟩ | ⟨hwritten, hslash, hneeds⟩
  · rw [hwritten, List.cons_append, List.cons_append, multilineBasicFrom, if_neg (by decide),
      lineBreak?_eq_none (by decide) (by decide)]
    simp only [if_true, foldedBreak?_eq_none hspace hline hreturn, hread cs]
    rfl
  · rw [hwritten, List.singleton_append, multilineBasicFrom, if_neg hquote]
    by_cases hline : c = '\n'
    · subst hline
      rfl
    · rw [lineBreak?_eq_none hline (ne_return_of_not_needsEscape hneeds)]
      simp only [if_neg hslash, if_pos (isPlain_eq_true hneeds hline hslash hquote)]
      rfl

theorem takesRuns_multilineBasicFrom : TakesRuns '"' multilineBasicFrom := by
  intro b fuel cs
  constructor
  · intro run rest hclosing
    rw [multilineBasicFrom, if_pos rfl, hclosing]
  · intro run rest hclosing
    rw [multilineBasicFrom, if_pos rfl, hclosing, Option.map_eq_bind]
    rfl

theorem multilineBasicFrom_escapedQuote (b : Char) (fuel cs : List Char) :
    multilineBasicFrom (b :: fuel) ('\\' :: '"' :: cs) =
      (multilineBasicFrom fuel cs).map fun p => ('"' :: p.1, p.2) := by
  rw [Option.map_eq_bind]
  rfl

theorem head?_escaped_append {c : Char} (hquote : c ≠ '"') (cs : List Char) :
    (escaped c ++ cs).head? ≠ some '"' := by
  rcases escaped_cases c with ⟨d, ds, hwritten, -⟩ | ⟨hwritten, -⟩
  · simp [hwritten]
  · simpa [hwritten] using hquote

/-- At most two quotes are written as they are before something else is. -/
theorem escapedLines_cases (cs : List Char) :
    (∀ c ∈ cs, c = '"') ∧ cs.length < 3 ∧ escapedLines 0 cs = cs ∨
    (∃ run c tail, (∀ d ∈ run, d = '"') ∧ run.length < 3 ∧ c ≠ '"' ∧ cs = run ++ c :: tail ∧
      escapedLines 0 cs = run ++ (escaped c ++ escapedLines 0 tail)) ∨
    ∃ tail, cs = '"' :: '"' :: '"' :: tail ∧
      escapedLines 0 cs = '"' :: '"' :: '\\' :: '"' :: escapedLines 0 tail := by
  match cs with
  | [] => exact Or.inl ⟨by simp, by simp, rfl⟩
  | c :: tail =>
      by_cases hc : c = '"'
      · subst hc
        match tail with
        | [] => exact Or.inl ⟨by simp, by simp, rfl⟩
        | c :: tail =>
            by_cases hc : c = '"'
            · subst hc
              match tail with
              | [] => exact Or.inl ⟨by simp, by simp, rfl⟩
              | c :: tail =>
                  by_cases hc : c = '"'
                  · subst hc
                    exact Or.inr (Or.inr ⟨tail, rfl, rfl⟩)
                  · refine Or.inr (Or.inl ⟨['"', '"'], c, tail, by simp, by simp, hc, rfl, ?_⟩)
                    simp [escapedLines, hc]
            · refine Or.inr (Or.inl ⟨['"'], c, tail, by simp, by simp, hc, rfl, ?_⟩)
              simp [escapedLines, hc]
      · refine Or.inr (Or.inl ⟨[], c, tail, by simp, by simp, hc, rfl, ?_⟩)
        simp [escapedLines, hc]

theorem multilineBasicFrom_escapedLines {rest : List Char} (hrest : rest.head? ≠ some '"')
    (cs : List Char) {fuel : List Char} (hfuel : cs.length < fuel.length) :
    multilineBasicFrom fuel (escapedLines 0 cs ++ '"' :: '"' :: '"' :: rest) = some (cs, rest) := by
  -- each step of reading takes one character of the fuel and at least one of the text
  induction hn : cs.length using Nat.strong_induction_on generalizing cs fuel with
  | _ n ih =>
      obtain ⟨b, fuel, rfl⟩ := List.exists_cons_of_length_pos (Nat.zero_lt_of_lt hfuel)
      rw [List.length_cons] at hfuel
      rcases escapedLines_cases cs with
        ⟨hall, hlength, hwritten⟩ | ⟨run, c, tail, hrun, hlength, hc, rfl, hwritten⟩ |
        ⟨tail, rfl, hwritten⟩
      · rw [hwritten]
        exact takesRuns_multilineBasicFrom.last hall hlength hrest b fuel
      · rw [List.length_append, List.length_cons] at hn hfuel
        rw [hwritten, List.append_assoc, List.append_assoc]
        cases run with
        | nil =>
            rw [List.length_nil] at hn hfuel
            rw [List.nil_append, List.nil_append, multilineBasicFrom_escaped hc,
              ih tail.length (by omega) tail (by omega) rfl]
            rfl
        | cons d run =>
            rw [List.length_cons] at hn hfuel
            obtain ⟨b', fuel, rfl⟩ := List.exists_cons_of_length_pos (by omega : 0 < fuel.length)
            rw [List.length_cons] at hfuel
            rw [takesRuns_multilineBasicFrom.inner hrun (by simp) hlength
              (head?_escaped_append hc _), multilineBasicFrom_escaped hc,
              ih tail.length (by omega) tail (by omega) rfl]
            rfl
      · simp only [List.length_cons] at hn hfuel
        obtain ⟨b', fuel, rfl⟩ := List.exists_cons_of_length_pos (by omega : 0 < fuel.length)
        rw [List.length_cons] at hfuel
        have hpair : ∀ cs, multilineBasicFrom (b :: b' :: fuel) (['"', '"'] ++ '\\' :: cs) =
            (multilineBasicFrom (b' :: fuel) ('\\' :: cs)).map
              fun p => (['"', '"'] ++ p.1, p.2) := by
          intro cs
          exact takesRuns_multilineBasicFrom.inner (by simp) (by simp) (by simp) (by simp) b
            (b' :: fuel)
        have hstep := ih tail.length (by omega) tail (by omega : tail.length < fuel.length) rfl
        rw [hwritten]
        refine (hpair ('"' :: (escapedLines 0 tail ++ '"' :: '"' :: '"' :: rest))).trans ?_
        rw [multilineBasicFrom_escapedQuote, hstep]
        rfl

/-! ## Several lines between single quotes -/

/-- Where no quote stands three times in a row, at most two stand before something else. -/
theorem threeInARow_cases {quote : Char} {cs : List Char} (h : threeInARow quote 0 cs = false) :
    (∀ c ∈ cs, c = quote) ∧ cs.length < 3 ∨
    ∃ run c tail, (∀ d ∈ run, d = quote) ∧ run.length < 3 ∧ c ≠ quote ∧ cs = run ++ c :: tail ∧
      threeInARow quote 0 tail = false := by
  match cs with
  | [] => exact Or.inl ⟨by simp, by simp⟩
  | c :: tail =>
      by_cases hc : c = quote
      · subst hc
        match tail with
        | [] => exact Or.inl ⟨by simp, by simp⟩
        | d :: tail =>
            by_cases hd : d = c
            · subst hd
              match tail with
              | [] => exact Or.inl ⟨by simp, by simp⟩
              | e :: tail =>
                  have he : e ≠ d := by
                    rintro rfl
                    simp [threeInARow] at h
                  refine Or.inr ⟨[d, d], e, tail, by simp, by simp, he, rfl, ?_⟩
                  simpa [threeInARow, he] using h
            · refine Or.inr ⟨[c], d, tail, by simp, by simp, hd, rfl, ?_⟩
              simpa [threeInARow, hd] using h
      · refine Or.inr ⟨[], c, tail, by simp, by simp, hc, rfl, ?_⟩
        simpa [threeInARow, hc] using h

theorem multilineLiteralFrom_char {c : Char} (hquote : c ≠ '\'') (hneeds : needsEscape c = false)
    (b : Char) (fuel cs : List Char) :
    multilineLiteralFrom (b :: fuel) (c :: cs) =
      (multilineLiteralFrom fuel cs).map fun p => (c :: p.1, p.2) := by
  rw [multilineLiteralFrom, if_neg hquote, Option.map_eq_bind]
  by_cases hline : c = '\n'
  · subst hline
    rfl
  · have hliteral : isLiteral c = true := by
      simp [isLiteral, isControl_eq_false hneeds hline, hquote]
    rw [lineBreak?_eq_none hline (ne_return_of_not_needsEscape hneeds)]
    simp only [if_pos hliteral]
    rfl

theorem takesRuns_multilineLiteralFrom : TakesRuns '\'' multilineLiteralFrom := by
  intro b fuel cs
  constructor
  · intro run rest hclosing
    rw [multilineLiteralFrom, if_pos rfl, hclosing]
  · intro run rest hclosing
    rw [multilineLiteralFrom, if_pos rfl, hclosing, Option.map_eq_bind]
    rfl

theorem multilineLiteralFrom_append {rest : List Char} (hrest : rest.head? ≠ some '\'')
    {cs : List Char} (hneeds : ∀ c ∈ cs, needsEscape c = false)
    (hthree : threeInARow '\'' 0 cs = false) {fuel : List Char} (hfuel : cs.length < fuel.length) :
    multilineLiteralFrom fuel (cs ++ '\'' :: '\'' :: '\'' :: rest) = some (cs, rest) := by
  induction hn : cs.length using Nat.strong_induction_on generalizing cs fuel with
  | _ n ih =>
      obtain ⟨b, fuel, rfl⟩ := List.exists_cons_of_length_pos (Nat.zero_lt_of_lt hfuel)
      rw [List.length_cons] at hfuel
      rcases threeInARow_cases hthree with
        ⟨hall, hlength⟩ | ⟨run, c, tail, hrun, hlength, hc, rfl, htail⟩
      · exact takesRuns_multilineLiteralFrom.last hall hlength hrest b fuel
      · rw [List.length_append, List.length_cons] at hn hfuel
        have hneedsC : needsEscape c = false := hneeds c (by simp)
        have hneedsTail : ∀ d ∈ tail, needsEscape d = false := by
          intro d hd
          exact hneeds d (by simp [hd])
        rw [List.append_assoc, List.cons_append]
        cases run with
        | nil =>
            rw [List.length_nil] at hn hfuel
            rw [List.nil_append, multilineLiteralFrom_char hc hneedsC,
              ih tail.length (by omega) hneedsTail htail (by omega) rfl]
            rfl
        | cons d run =>
            rw [List.length_cons] at hn hfuel
            obtain ⟨b', fuel, rfl⟩ :=
              List.exists_cons_of_length_pos (by omega : 0 < fuel.length)
            rw [List.length_cons] at hfuel
            rw [takesRuns_multilineLiteralFrom.inner hrun (by simp) hlength (by simpa using hc),
              multilineLiteralFrom_char hc hneedsC,
              ih tail.length (by omega) hneedsTail htail (by omega) rfl]
            rfl

/-! ## Whole texts -/

theorem read_eq_basic {cs : List Char} (h : ∀ ds, cs ≠ '"' :: '"' :: ds) :
    read ('"' :: cs) = basic cs := by
  unfold read
  split
  · next ds hds =>
      cases hds
      exact absurd rfl (h ds)
  · next hds => cases hds
  · rfl

theorem read_eq_literal {cs : List Char} (h : ∀ ds, cs ≠ '\'' :: '\'' :: ds) :
    read ('\'' :: cs) = literal cs := by
  unfold read
  split
  · next hds => cases hds
  · next ds hds =>
      cases hds
      exact absurd rfl (h ds)
  · rfl

theorem head?_escapedInLine_append (c : Char) (cs : List Char) :
    (escapedInLine c ++ cs).head? ≠ some '"' := by
  rcases escapedInLine_cases c with ⟨d, ds, hwritten, -⟩ | ⟨hwritten, -, hquote, -⟩
  · simp [hwritten]
  · simpa [hwritten] using hquote

theorem length_le_escapedLine (cs : List Char) : cs.length ≤ (escapedLine cs).length := by
  rw [escapedLine_eq_flatMap]
  induction cs with
  | nil => exact Nat.le_refl 0
  | cons c cs ih =>
      have hone : 1 ≤ (escapedInLine c).length := by
        rcases escapedInLine_cases c with ⟨d, ds, hwritten, -⟩ | ⟨hwritten, -⟩ <;> simp [hwritten]
      rw [List.flatMap_cons, List.length_append, List.length_cons]
      omega

theorem read_escapedLine (cs rest : List Char) :
    read ('"' :: (escapedLine cs ++ '"' :: '\n' :: rest)) = some (cs, '\n' :: rest) := by
  rw [read_eq_basic]
  · apply basicFrom_escapedLine
    have hle := length_le_escapedLine cs
    rw [List.length_append, List.length_cons]
    omega
  · intro ds hds
    cases cs with
    | nil => simp [escapedLine] at hds
    | cons c cs =>
        apply head?_escapedInLine_append c (escapedLine cs ++ '"' :: '\n' :: rest)
        rw [escapedLine_eq_flatMap, List.flatMap_cons, List.append_assoc] at hds
        rw [escapedLine_eq_flatMap, hds]
        rfl

theorem read_literal {cs : List Char} (hcs : ∀ c ∈ cs, isLiteral c = true) (rest : List Char) :
    read ('\'' :: (cs ++ '\'' :: '\n' :: rest)) = some (cs, '\n' :: rest) := by
  rw [read_eq_literal]
  · exact literal_append hcs ('\n' :: rest)
  · intro ds hds
    cases cs with
    | nil => simp at hds
    | cons c cs =>
        obtain ⟨rfl, -⟩ := List.cons_eq_cons.mp hds
        exact absurd (hcs '\'' List.mem_cons_self) (by decide)

/-- The break after opening quotes belongs to the text only if it has no other. -/
theorem skipFirstBreak_written {cs inner : List Char}
    (hhead : ∀ c, inner.head? = some c → c ≠ '\r' ∧ (c = '\n' → '\n' ∈ cs)) :
    skipFirstBreak ((if cs.contains '\n' then ['\n'] else []) ++ inner) = inner := by
  split
  · rfl
  · next hline =>
      have hline : '\n' ∉ cs := by simpa using hline
      cases inner with
      | nil => rfl
      | cons c inner =>
          obtain ⟨hreturn, hmem⟩ := hhead c rfl
          rw [List.nil_append, skipFirstBreak, lineBreak?_eq_none (mt hmem hline) hreturn]
          rfl

theorem head?_escapedLines {cs rest : List Char} {c : Char}
    (hc : (escapedLines 0 cs ++ '"' :: rest).head? = some c) :
    c ≠ '\r' ∧ (c = '\n' → '\n' ∈ cs) := by
  cases cs with
  | nil =>
      cases hc
      decide
  | cons d cs =>
      by_cases hd : d = '"'
      · subst hd
        cases hc
        exact ⟨by decide, fun hline => absurd hline (by decide)⟩
      · rw [escapedLines, if_neg hd, List.append_assoc] at hc
        rcases escaped_cases d with ⟨e, es, hwritten, -⟩ | ⟨hwritten, -, hneeds⟩
        · rw [hwritten] at hc
          cases hc
          exact ⟨by decide, fun hline => absurd hline (by decide)⟩
        · rw [hwritten] at hc
          cases hc
          exact ⟨ne_return_of_not_needsEscape hneeds, fun hline => hline ▸ List.mem_cons_self⟩

theorem length_le_escapedLines (cs : List Char) (seen : Nat) :
    cs.length ≤ (escapedLines seen cs).length := by
  fun_induction escapedLines seen cs with
  | case1 => exact Nat.le_refl 0
  | case2 cs ih =>
      simp only [List.length_cons]
      omega
  | case3 seen cs _ ih =>
      simp only [List.length_cons]
      omega
  | case4 seen c cs _ ih =>
      have hone : 1 ≤ (escaped c).length := by
        rcases escaped_cases c with ⟨d, ds, hwritten, -⟩ | ⟨hwritten, -⟩ <;> simp [hwritten]
      rw [List.length_append, List.length_cons]
      omega

theorem read_escapedLines (cs rest : List Char) :
    read (multiline '"' cs (escapedLines 0 cs) ++ '\n' :: rest) = some (cs, '\n' :: rest) := by
  let inner := escapedLines 0 cs ++ '"' :: '"' :: '"' :: '\n' :: rest
  have htext : multiline '"' cs (escapedLines 0 cs) ++ '\n' :: rest =
      '"' :: '"' :: '"' :: ((if cs.contains '\n' then ['\n'] else []) ++ inner) := by
    simp [multiline, inner]
  have hskip : skipFirstBreak ((if cs.contains '\n' then ['\n'] else []) ++ inner) = inner := by
    apply skipFirstBreak_written
    intro c hc
    exact head?_escapedLines hc
  have hlength : cs.length < inner.length := by
    have hle := length_le_escapedLines cs 0
    rw [List.length_append, List.length_cons]
    omega
  rw [htext, read, multilineBasic, hskip]
  exact multilineBasicFrom_escapedLines (by simp) cs hlength

theorem read_multilineLiteral {cs : List Char} (hneeds : ∀ c ∈ cs, needsEscape c = false)
    (hthree : threeInARow '\'' 0 cs = false) (rest : List Char) :
    read (multiline '\'' cs cs ++ '\n' :: rest) = some (cs, '\n' :: rest) := by
  let inner := cs ++ '\'' :: '\'' :: '\'' :: '\n' :: rest
  have htext : multiline '\'' cs cs ++ '\n' :: rest =
      '\'' :: '\'' :: '\'' :: ((if cs.contains '\n' then ['\n'] else []) ++ inner) := by
    simp [multiline, inner]
  have hskip : skipFirstBreak ((if cs.contains '\n' then ['\n'] else []) ++ inner) = inner := by
    apply skipFirstBreak_written
    intro c hc
    cases cs with
    | nil =>
        cases hc
        decide
    | cons d cs =>
        cases hc
        refine ⟨ne_return_of_not_needsEscape (hneeds c List.mem_cons_self), ?_⟩
        rintro rfl
        exact List.mem_cons_self
  have hlength : cs.length < inner.length := by
    rw [List.length_append, List.length_cons]
    omega
  rw [htext, read, multilineLiteral, hskip]
  exact multilineLiteralFrom_append (by simp) hneeds hthree hlength

theorem exists_write_eq_cons (cs : List Char) :
    ∃ quote inner, write cs = quote :: inner ∧ (quote = '"' ∨ quote = '\'') := by
  simp only [write]
  split
  · exact ⟨_, _, rfl, Or.inl rfl⟩
  split
  · exact ⟨_, _, rfl, Or.inr rfl⟩
  split
  · exact ⟨_, _, rfl, Or.inl rfl⟩
  split
  · exact ⟨_, _, rfl, Or.inr rfl⟩
  split
  · exact ⟨_, _, rfl, Or.inl rfl⟩
  · exact ⟨_, _, rfl, Or.inl rfl⟩

/-- A text is read back from the way it is written at the end of a line. -/
theorem read_write (cs rest : List Char) :
    read (write cs ++ '\n' :: rest) = some (cs, '\n' :: rest) := by
  have hline : read ('"' :: escapedLine cs ++ ['"'] ++ '\n' :: rest) = some (cs, '\n' :: rest) := by
    simpa using read_escapedLine cs rest
  simp only [write, Bool.and_eq_true, Bool.not_eq_true', List.any_eq_false, Bool.not_eq_true,
    List.contains_eq_mem, decide_eq_false_iff_not]
  split
  · exact hline
  split
  · next h =>
      obtain ⟨⟨hneeds, hbreak⟩, hquote⟩ := h
      have hliteral : ∀ c ∈ cs, isLiteral c = true := by
        intro c hc
        have hcontrol := isControl_eq_false (hneeds c hc) (ne_of_mem_of_not_mem hc hbreak)
        simp [isLiteral, hcontrol, ne_of_mem_of_not_mem hc hquote]
      simpa using read_literal hliteral rest
  split
  · exact read_escapedLines cs rest
  split
  · next h => exact read_multilineLiteral h.1 h.2 rest
  split
  · exact hline
  · exact read_escapedLines cs rest

end Toml.Quoted

end HandlerStudio
