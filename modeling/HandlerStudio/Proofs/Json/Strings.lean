import HandlerStudio.Json.Printer
import HandlerStudio.Proofs.Json.Reader

/-!
# Strings inside a text

Every string is read back from the characters that it is written with: each character is written as
one escape or as itself, and reading takes one step for it.
-/

namespace HandlerStudio

theorem Text.hexDigit?_digitChar : ∀ d < 16, hexDigit? (Nat.digitChar d) = some d := by decide

namespace Json.Read

/-- A control character is read back from its number. -/
theorem unicodeEscape_hexPair {c : Char} (hc : c < ' ') (rest : List Char) :
    unicodeEscape ('0' :: '0' :: (hexPair c.toNat ++ rest)) = .ok (c, rest) := by
  have hlt : c.toNat < 32 := hc
  have hquad : hexQuad ('0' :: '0' :: (hexPair c.toNat ++ rest)) = .ok (c.toNat, rest) := by
    have hzero : Text.hexDigit? '0' = some 0 := by decide
    have hvalue : ((0 * 16 + 0) * 16 + c.toNat / 16) * 16 + c.toNat % 16 = c.toNat := by omega
    simp only [hexPair, List.cons_append, List.nil_append, hexQuad, hzero,
      Text.hexDigit?_digitChar (c.toNat / 16) (by omega),
      Text.hexDigit?_digitChar (c.toNat % 16) (by omega), hvalue]
  have htrailing : isTrailingSurrogate c.toNat = false := by
    simp [isTrailingSurrogate]
    omega
  have hleading : isLeadingSurrogate c.toNat = false := by
    simp [isLeadingSurrogate]
    omega
  rw [unicodeEscape, hquad, Except.ok_bind]
  simp [htrailing, hleading]
  rfl

/-- Reading takes one step for each written character. -/
theorem stringChars_escapeChar (c b : Char) (fuel cs : List Char) :
    stringChars (b :: fuel) (escapeChar c ++ cs) =
      (stringChars fuel cs).map fun p => (c :: p.1, p.2) := by
  have hescape : ∀ d rest, escape rest = .ok (d, cs) →
      stringChars (b :: fuel) ('\\' :: rest) =
        (stringChars fuel cs).map fun p => (d :: p.1, p.2) := by
    intro d rest h
    rw [stringChars, if_neg (by decide), if_pos rfl, h]
    rfl
  by_cases hquote : c = '"'
  · subst hquote
    exact hescape '"' ('"' :: cs) rfl
  by_cases hslash : c = '\\'
  · subst hslash
    exact hescape '\\' ('\\' :: cs) rfl
  by_cases hback : c = '\x08'
  · subst hback
    exact hescape '\x08' ('b' :: cs) rfl
  by_cases hfeed : c = '\x0c'
  · subst hfeed
    exact hescape '\x0c' ('f' :: cs) rfl
  by_cases hline : c = '\n'
  · subst hline
    exact hescape '\n' ('n' :: cs) rfl
  by_cases hreturn : c = '\r'
  · subst hreturn
    exact hescape '\r' ('r' :: cs) rfl
  by_cases htab : c = '\t'
  · subst htab
    exact hescape '\t' ('t' :: cs) rfl
  by_cases hcontrol : c < ' '
  · have hwritten : escapeChar c = '\\' :: 'u' :: '0' :: '0' :: hexPair c.toNat := by
      simp [escapeChar, hquote, hslash, hback, hfeed, hline, hreturn, htab, hcontrol]
    rw [hwritten]
    exact hescape c _ (unicodeEscape_hexPair hcontrol cs)
  · have hwritten : escapeChar c = [c] := by
      simp [escapeChar, hquote, hslash, hback, hfeed, hline, hreturn, htab, hcontrol]
    rw [hwritten, List.singleton_append, stringChars, if_neg hquote, if_neg hslash, if_neg hcontrol]
    rfl

theorem stringChars_written (chars rest : List Char) {fuel : List Char}
    (hfuel : chars.length < fuel.length) :
    stringChars fuel (chars.flatMap escapeChar ++ '"' :: rest) = .ok (chars, rest) := by
  induction chars generalizing fuel with
  | nil =>
      cases fuel with
      | nil => simp at hfuel
      | cons b fuel => simp [stringChars]
  | cons c chars ih =>
      cases fuel with
      | nil => simp at hfuel
      | cons b fuel =>
          rw [List.flatMap_cons, List.append_assoc, stringChars_escapeChar,
            ih (by simpa using hfuel)]
          rfl

theorem length_le_flatMap_escapeChar (chars : List Char) :
    chars.length ≤ (chars.flatMap escapeChar).length := by
  induction chars with
  | nil => simp
  | cons c chars ih =>
      have hone : 1 ≤ (escapeChar c).length := by
        unfold escapeChar
        repeat' split
        all_goals simp
      rw [List.flatMap_cons, List.length_append, List.length_cons]
      omega

/-- A written string is read back, from behind its opening quote. -/
theorem string_written (s : String) (rest : List Char) :
    string (s.toList.flatMap escapeChar ++ '"' :: rest) = .ok (s, rest) := by
  have hfuel : s.toList.length < (s.toList.flatMap escapeChar ++ '"' :: rest).length := by
    have hle := length_le_flatMap_escapeChar s.toList
    rw [List.length_append, List.length_cons]
    omega
  rw [string, stringChars_written s.toList rest hfuel]
  exact congrArg (fun t => Except.ok (t, rest)) String.ofList_toList

end Json.Read

end HandlerStudio
