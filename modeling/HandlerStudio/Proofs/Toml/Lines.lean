import HandlerStudio.Toml.Reader
import Mathlib.Data.List.TakeWhile
import Mathlib.Data.Option.Basic

/-!
# Documents of plain lines

A plain document has empty lines, headers and entries with bare keys, and values that end where
their line ends. What the reader makes of it is said by `Line.apply`, line after line.
-/

namespace HandlerStudio.Toml

open Read

/-- A key that needs no quotes. -/
structure BareKey where
  text : String
  ne_nil : text.toList ≠ []
  all_isKeyChar : text.toList.all isKeyChar = true

theorem BareKey.exists_cons (k : BareKey) :
    ∃ c cs, k.text.toList = c :: cs ∧ isKeyChar c = true := by
  obtain ⟨c, cs, hcs⟩ := List.exists_cons_of_ne_nil k.ne_nil
  have hall := k.all_isKeyChar
  rw [hcs, List.all_cons, Bool.and_eq_true] at hall
  exact ⟨c, cs, hcs, hall.1⟩

/-- A value with a text that it is read from at the end of a line. -/
structure Written where
  text : List Char
  value : Value
  reads : ∀ rest, Read.value nestingLimit (skipSpace (text ++ '\n' :: rest)) =
    some (value, '\n' :: rest)

inductive Line where
  | blank
  | header (key : BareKey)
  | entry (key : BareKey) (written : Written)

namespace Line

def text : Line → List Char
  | blank => []
  | header key => '[' :: key.text.toList ++ [']']
  | entry key written => key.text.toList ++ ' ' :: '=' :: ' ' :: written.text

/-- The text of a document, every line with its break. -/
def render (ls : List Line) : List Char := ls.flatMap fun l => l.text ++ ['\n']

/-- What a line adds to a document. -/
def apply (s : State) : Line → Option State
  | blank => some s
  | header key => do return { root := ← s.root.beginTable key.text, path := [key.text] }
  | entry key written => do
      let root ← s.root.change false (Draft.addValue false key.text written.value) s.path
      return { s with root }

end Line

namespace Read

theorem ne_of_test {p : Char → Bool} {c d : Char} (hc : p c = true) (hd : p d = false) :
    c ≠ d := by
  rintro rfl
  rw [hc] at hd
  cases hd

theorem skipSpace_of_isKeyChar {c : Char} (hc : isKeyChar c = true) (cs : List Char) :
    skipSpace (c :: cs) = c :: cs := by
  have hspace : c ≠ ' ' := ne_of_test hc (by decide)
  have htab : c ≠ '\t' := ne_of_test hc (by decide)
  simp [skipSpace, Quoted.isSpace, hspace, htab]

theorem keyPart_bareKey (k : BareKey) {d : Char} (hd : isKeyChar d = false) (tail : List Char) :
    keyPart (k.text.toList ++ d :: tail) = some (k.text, d :: tail) := by
  have hall := List.all_eq_true.mp k.all_isKeyChar
  have hstop : ¬ isKeyChar d = true := by simp [hd]
  have htake : (k.text.toList ++ d :: tail).takeWhile isKeyChar = k.text.toList := by
    rw [List.takeWhile_append_of_pos hall, List.takeWhile_cons_of_neg hstop, List.append_nil]
  have hdrop : (k.text.toList ++ d :: tail).dropWhile isKeyChar = d :: tail := by
    rw [List.dropWhile_append_of_pos hall, List.dropWhile_cons_of_neg hstop]
  obtain ⟨c, cs, hcs, hc⟩ := k.exists_cons
  have hquote : ¬ (c = '"' ∨ c = '\'') := by
    rintro (rfl | rfl)
    · exact absurd hc (by decide)
    · exact absurd hc (by decide)
  rw [hcs, List.cons_append] at htake hdrop ⊢
  rw [keyPart, if_neg hquote, if_pos hc, htake, hdrop, ← hcs, String.ofList_toList]

/-- A bare key is read up to the mark that follows it. -/
theorem key_bareKey (k : BareKey) {d e : Char} (hd : isKeyChar d = false) {tail tail' : List Char}
    (hskip : skipSpace (d :: tail) = e :: tail') (he : e ≠ '.') :
    key (k.text.toList ++ d :: tail) = some ([], k.text, e :: tail') := by
  have hpart := keyPart_bareKey k hd tail
  have hparts : keyParts (k.text.toList ++ d :: tail) (k.text.toList ++ d :: tail) =
      some ([k.text], e :: tail') := by
    obtain ⟨c, cs, hcs, hc⟩ := k.exists_cons
    rw [hcs, List.cons_append] at hpart ⊢
    simp only [keyParts, skipSpace_of_isKeyChar hc, hpart, Option.bind_eq_bind, Option.bind_some,
      hskip]
    split
    · next heq => exact absurd (List.cons_eq_cons.mp heq).1 he
    · rfl
  simp only [key, hparts]
  rfl

theorem header_bareKey (s : State) (k : BareKey) (rest : List Char) :
    header s (k.text.toList ++ ']' :: '\n' :: rest) =
      ((Line.header k).apply s).map fun t => (t, rest) := by
  have hkey : key (k.text.toList ++ ']' :: '\n' :: rest) =
      some ([], k.text, ']' :: '\n' :: rest) :=
    key_bareKey k (by decide) rfl (by decide)
  simp only [header, hkey, Option.bind_eq_bind, Option.bind_some]
  change (s.root.beginTable k.text).bind _ = _
  cases h : s.root.beginTable k.text with
  | none => simp [Line.apply, h]
  | some root => simp [Line.apply, h]

theorem entry_bareKey (s : State) (k : BareKey) (w : Written) (rest : List Char) :
    entry s (k.text.toList ++ ' ' :: '=' :: ' ' :: (w.text ++ '\n' :: rest)) =
      ((Line.entry k w).apply s).map fun t => (t, rest) := by
  have hkey : key (k.text.toList ++ ' ' :: '=' :: ' ' :: (w.text ++ '\n' :: rest)) =
      some ([], k.text, '=' :: ' ' :: (w.text ++ '\n' :: rest)) :=
    key_bareKey k (by decide) rfl (by decide)
  have hvalue : value nestingLimit (skipSpace (' ' :: (w.text ++ '\n' :: rest))) =
      some (w.value, '\n' :: rest) := w.reads rest
  simp only [entry, hkey, Literal.mark, if_true, Option.bind_eq_bind, Option.bind_some, hvalue]
  change (s.root.change false (Draft.addValue false k.text w.value) s.path).bind _ = _
  cases h : s.root.change false (Draft.addValue false k.text w.value) s.path with
  | none => simp [Line.apply, h]
  | some root => simp [Line.apply, h]

theorem line_eq_entry {c : Char} (hc : isKeyChar c = true) (s : State) (cs : List Char) :
    line s (c :: cs) = entry s (c :: cs) := by
  have hcomment : c ≠ '#' := ne_of_test hc (by decide)
  have hbreak : c ≠ '\n' := ne_of_test hc (by decide)
  have hreturn : c ≠ '\r' := ne_of_test hc (by decide)
  have hbracket : c ≠ '[' := ne_of_test hc (by decide)
  rw [line.eq_def]
  split <;> simp_all

theorem line_text (s : State) (l : Line) (rest : List Char) :
    line s (skipSpace (l.text ++ '\n' :: rest)) = (l.apply s).map fun t => (t, rest) := by
  cases l with
  | blank => rfl
  | header k =>
      have htext : (Line.header k).text ++ '\n' :: rest =
          '[' :: (k.text.toList ++ ']' :: '\n' :: rest) := by simp [Line.text]
      rw [htext]
      change line s ('[' :: (k.text.toList ++ ']' :: '\n' :: rest)) = _
      rw [← header_bareKey]
      obtain ⟨c, cs, hcs, hc⟩ := k.exists_cons
      have hbracket : c ≠ '[' := ne_of_test hc (by decide)
      rw [hcs, List.cons_append, line.eq_def]
      split <;> simp_all
  | entry k w =>
      have htext : (Line.entry k w).text ++ '\n' :: rest =
          k.text.toList ++ ' ' :: '=' :: ' ' :: (w.text ++ '\n' :: rest) := by simp [Line.text]
      rw [htext, ← entry_bareKey]
      obtain ⟨c, cs, hcs, hc⟩ := k.exists_cons
      rw [hcs, List.cons_append, skipSpace_of_isKeyChar hc, line_eq_entry hc]

theorem skipSpace_append_break (cs rest : List Char) : skipSpace (cs ++ '\n' :: rest) ≠ [] := by
  intro h
  have hmem : '\n' ∈ cs ++ '\n' :: rest := List.mem_append_right cs List.mem_cons_self
  exact absurd (List.dropWhile_eq_nil_iff.mp h '\n' hmem) (by decide)

/-- A plain document is read line after line. -/
theorem lines_render (ls : List Line) {fuel : Nat} (hfuel : ls.length < fuel) (s : State) :
    lines fuel s (Line.render ls) = ls.foldlM Line.apply s := by
  induction ls generalizing fuel s with
  | nil =>
      obtain ⟨fuel, rfl⟩ : ∃ n, fuel = n + 1 := ⟨fuel - 1, by omega⟩
      rfl
  | cons l ls ih =>
      obtain ⟨fuel, rfl⟩ : ∃ n, fuel = n + 1 := ⟨fuel - 1, by omega⟩
      have hrender : Line.render (l :: ls) = l.text ++ '\n' :: Line.render ls := by
        simp [Line.render]
      rw [List.length_cons] at hfuel
      rw [hrender, lines]
      split
      · next hnil => exact absurd hnil (skipSpace_append_break _ _)
      · rw [line_text, List.foldlM_cons]
        cases l.apply s with
        | none => rfl
        | some t => exact ih (by omega) t

end Read

theorem Line.length_le_render (ls : List Line) : ls.length ≤ (render ls).length := by
  induction ls with
  | nil => simp
  | cons l ls ih =>
      simp only [render, List.flatMap_cons, List.length_append, List.length_cons] at ih ⊢
      omega

theorem Line.skipByteOrderMark_render (ls : List Line) :
    skipByteOrderMark (render ls) = render ls := by
  have hhead : (render ls).head? ≠ some '\ufeff' := by
    cases ls with
    | nil => simp [render]
    | cons l ls =>
        cases l with
        | blank => simp [render, text]
        | header k => simp [render, text]
        | entry k w =>
            obtain ⟨c, cs, hcs, hc⟩ := k.exists_cons
            have hmark : c ≠ '\ufeff' := ne_of_test hc (by decide)
            simp [render, text, hcs, hmark]
  unfold skipByteOrderMark
  split
  · next heq => exact absurd (by rw [heq]; rfl) hhead
  · rfl

theorem parse?_render (ls : List Line) :
    parse? (String.ofList (Line.render ls)) =
      (ls.foldlM Line.apply {}).map fun s => s.root.toEntries := by
  have hfuel : ls.length < (Line.render ls).length + 1 := by
    have hle := Line.length_le_render ls
    omega
  rw [parse?, String.toList_ofList, Line.skipByteOrderMark_render, Option.map_eq_bind,
    ← lines_render ls hfuel]
  rfl

end HandlerStudio.Toml
