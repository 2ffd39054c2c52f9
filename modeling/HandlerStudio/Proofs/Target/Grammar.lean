import HandlerStudio.Target.Basic
import Mathlib.Data.List.TakeWhile

/-!
# The texts that are read as targets

A text spells a name if it is the name in letters of either case with blanks around it. A text
denotes a target in one of two ways: it spells a language, or it spells a language and one of its
frameworks on the two sides of a slash. Every other text is refused for the first thing that is
wrong with it. `Target.parse_follows_grammar` says that reading follows these rules.
-/

namespace HandlerStudio

namespace Text

/-- The text is the name in letters of either case, with blanks around it. -/
def Spells (text name : String) : Prop :=
  ∃ before word after : List Char, text.toList = before ++ word ++ after ∧
    (∀ c ∈ before, isBlank c = true) ∧ (∀ c ∈ after, isBlank c = true) ∧
    word.map Char.toLower = name.toList

/-- A text of nothing but blanks. -/
def Blank (text : String) : Prop := ∀ c ∈ text.toList, isBlank c = true

theorem toNat_toLower (c : Char) :
    c.toLower.toNat = if 65 ≤ c.toNat ∧ c.toNat ≤ 90 then c.toNat + 32 else c.toNat := by
  have hupper : (c.val ≥ 'A'.val ∧ c.val ≤ 'Z'.val) ↔ (65 ≤ c.toNat ∧ c.toNat ≤ 90) := Iff.rfl
  unfold Char.toLower
  split
  · next h =>
      rw [if_pos (hupper.mp h)]
      have hhigh : c.val.toNat ≤ 90 := (hupper.mp h).2
      change (c.val + 32).toNat = c.val.toNat + 32
      rw [UInt32.toNat_add]
      change (c.val.toNat + 32) % 2 ^ 32 = c.val.toNat + 32
      omega
  · next h => rw [if_neg (mt hupper.mpr h)]

theorem isBlank_toLower (c : Char) : isBlank c.toLower = isBlank c := by
  unfold isBlank
  rw [toNat_toLower]
  split
  · simp only [inRanges, blankRanges, List.any_cons, List.any_nil]
    grind
  · rfl

theorem dropWhile_isBlank_of_not_blank {word : List Char} (hne : word ≠ [])
    (hword : ∀ c ∈ word, isBlank c = false) (rest : List Char) :
    (word ++ rest).dropWhile isBlank = word ++ rest := by
  obtain ⟨c, cs, rfl⟩ := List.exists_cons_of_ne_nil hne
  simp [hword c]

/-- Blanks are cut off and nothing else. -/
theorem trimChars_append {before word after : List Char} (hbefore : ∀ c ∈ before, isBlank c = true)
    (hword : ∀ c ∈ word, isBlank c = false) (hafter : ∀ c ∈ after, isBlank c = true) :
    trimChars (before ++ word ++ after) = word := by
  have hafter' : ∀ c ∈ after.reverse, isBlank c = true := by simpa using hafter
  unfold trimChars
  rw [List.append_assoc, List.dropWhile_append_of_pos hbefore]
  by_cases hne : word = []
  · rw [hne, List.nil_append, List.dropWhile_eq_nil_iff.mpr hafter]
    rfl
  · have hne' : word.reverse ≠ [] := by simpa using hne
    have hword' : ∀ c ∈ word.reverse, isBlank c = false := by simpa using hword
    have hfront := dropWhile_isBlank_of_not_blank hne' hword' []
    rw [dropWhile_isBlank_of_not_blank hne hword after, List.reverse_append,
      List.dropWhile_append_of_pos hafter', ← List.append_nil word.reverse, hfront]
    simp

theorem exists_trimChars (cs : List Char) : ∃ before after : List Char,
    cs = before ++ trimChars cs ++ after ∧
      (∀ c ∈ before, isBlank c = true) ∧ (∀ c ∈ after, isBlank c = true) := by
  let front := cs.dropWhile isBlank
  refine ⟨cs.takeWhile isBlank, (front.reverse.takeWhile isBlank).reverse, ?_, ?_, ?_⟩
  · have hfront : trimChars cs ++ (front.reverse.takeWhile isBlank).reverse = front := by
      unfold trimChars
      rw [← List.reverse_append, List.takeWhile_append_dropWhile, List.reverse_reverse]
    rw [List.append_assoc, hfront, List.takeWhile_append_dropWhile]
  · intro c hc
    exact List.mem_takeWhile_imp hc
  · intro c hc
    exact List.mem_takeWhile_imp (List.mem_reverse.mp hc)

theorem asciiLower_trim_eq_iff {name : String} (hname : ∀ c ∈ name.toList, isBlank c = false)
    (text : String) : asciiLower (trim text) = name ↔ Spells text name := by
  have hchars : asciiLower (trim text) = name ↔
      (trimChars text.toList).map Char.toLower = name.toList := by
    rw [← String.toList_inj]
    simp [asciiLower, trim]
  rw [hchars]
  constructor
  · intro hlower
    obtain ⟨before, after, hcs, hbefore, hafter⟩ := exists_trimChars text.toList
    exact ⟨before, trimChars text.toList, after, hcs, hbefore, hafter, hlower⟩
  · rintro ⟨before, word, after, hcs, hbefore, hafter, hlower⟩
    have hword : ∀ c ∈ word, isBlank c = false := by
      intro c hc
      rw [← isBlank_toLower]
      apply hname
      rw [← hlower]
      exact List.mem_map_of_mem hc
    rw [hcs, trimChars_append hbefore hword hafter, hlower]

theorem isEmpty_trimChars_iff (text : String) :
    (trimChars text.toList).isEmpty = true ↔ Blank text := by
  rw [List.isEmpty_iff]
  constructor
  · intro hnil
    obtain ⟨before, after, hcs, hbefore, hafter⟩ := exists_trimChars text.toList
    rw [hnil, List.append_nil] at hcs
    intro c hc
    rw [hcs, List.mem_append] at hc
    exact hc.elim (hbefore c) (hafter c)
  · intro hblank
    have htrim : trimChars (text.toList ++ [] ++ []) = [] :=
      trimChars_append hblank (by simp) (by simp)
    simpa using htrim

theorem spells_self {name : String} (hlower : name.toList.map Char.toLower = name.toList) :
    Spells name name :=
  ⟨[], name.toList, [], by simp, by simp, by simp, hlower⟩

end Text

/-! ## Names -/

/-- The names of a language: its own, and shorter ones. -/
def Language.names : Language → List String
  | .typescript => ["typescript", "ts"]
  | .python => ["python", "py"]
  | .rust => ["rust"]
  | .go => ["go"]
  | .java => ["java"]
  | .csharp => ["csharp", "cs", "c#"]

def Language.Spelled (l : Language) (text : String) : Prop :=
  ∃ name ∈ l.names, Text.Spells text name

def Framework.Spelled (f : Framework) (text : String) : Prop := Text.Spells text f.name

namespace Language

theorem ofName?_eq_some_iff (name : String) (l : Language) :
    ofName? name = some l ↔ name ∈ l.names := by
  unfold ofName? alias?
  cases l <;> simp [names, all, Language.name] <;> grind

theorem not_blank_of_mem_names (l : Language) :
    ∀ name ∈ l.names, ∀ c ∈ name.toList, Text.isBlank c = false := by
  have hall : (l.names.all fun name => !name.toList.any Text.isBlank) = true := by
    cases l <;> decide
  simpa using hall

theorem ofName?_trim_eq_some_iff (text : String) (l : Language) :
    ofName? (Text.asciiLower (Text.trim text)) = some l ↔ l.Spelled text := by
  rw [ofName?_eq_some_iff]
  constructor
  · intro hmem
    exact ⟨_, hmem, (Text.asciiLower_trim_eq_iff (not_blank_of_mem_names l _ hmem) text).mp rfl⟩
  · rintro ⟨name, hmem, hspells⟩
    rwa [(Text.asciiLower_trim_eq_iff (not_blank_of_mem_names l _ hmem) text).mpr hspells]

theorem parse_eq_ok_iff (text : String) (l : Language) : parse text = .ok l ↔ l.Spelled text := by
  rw [← ofName?_trim_eq_some_iff, parse]
  split <;> simp_all

theorem parse_of_not_spelled {text : String} (h : ∀ l : Language, ¬ l.Spelled text) :
    parse text = .error (.unknownLanguage text) := by
  cases hname : ofName? (Text.asciiLower (Text.trim text)) with
  | none => rw [parse, hname]
  | some l => exact (h l ((ofName?_trim_eq_some_iff text l).mp hname)).elim

theorem Spelled.not_blank {l : Language} {text : String} (h : l.Spelled text) :
    ¬ Text.Blank text := by
  intro hblank
  have hnil := List.isEmpty_iff.mp ((Text.isEmpty_trimChars_iff text).mpr hblank)
  have hname := (ofName?_trim_eq_some_iff text l).mpr h
  rw [Text.trim, hnil, ofName?_eq_some_iff] at hname
  revert hname
  cases l <;> decide

theorem spelled_name (l : Language) : l.Spelled l.name := by
  refine ⟨l.name, ?_, Text.spells_self ?_⟩ <;> cases l <;> decide

theorem slash_notMem_name (l : Language) : '/' ∉ l.name.toList := by cases l <;> decide

end Language

namespace Framework

theorem ofName?_eq_some_iff (name : String) (f : Framework) :
    ofName? name = some f ↔ name = f.name := by
  constructor
  · intro h
    unfold ofName? at h
    have hname := List.find?_some h
    exact (beq_iff_eq.mp hname).symm
  · rintro rfl
    cases f <;> decide

theorem not_blank_name (f : Framework) : ∀ c ∈ f.name.toList, Text.isBlank c = false := by
  have hany : f.name.toList.any Text.isBlank = false := by cases f <;> decide
  simpa using hany

theorem ofName?_trim_eq_some_iff (text : String) (f : Framework) :
    ofName? (Text.asciiLower (Text.trim text)) = some f ↔ f.Spelled text := by
  rw [ofName?_eq_some_iff]
  exact Text.asciiLower_trim_eq_iff f.not_blank_name text

theorem parse_eq_ok_iff (text : String) (f : Framework) :
    parse text = .ok f ↔ f.Spelled text := by
  rw [← ofName?_trim_eq_some_iff, parse]
  split <;> simp_all

theorem parse_of_not_spelled {text : String} (h : ∀ f : Framework, ¬ f.Spelled text) :
    parse text = .error (.unknownFramework text) := by
  cases hname : ofName? (Text.asciiLower (Text.trim text)) with
  | none => rw [parse, hname]
  | some f => exact (h f ((ofName?_trim_eq_some_iff text f).mp hname)).elim

theorem spelled_name (f : Framework) : f.Spelled f.name := by
  apply Text.spells_self
  cases f <;> decide

theorem slash_notMem_name (f : Framework) : '/' ∉ f.name.toList := by cases f <;> decide

end Framework

namespace Target

/-! ## The grammar -/

/-- The texts of a target. -/
inductive Denotes : String → Target → Prop
  | bare {text : String} {l : Language} (hslash : '/' ∉ text.toList) (hl : l.Spelled text) :
      Denotes text (ofLanguage l)
  | pair {left right : String} {t : Target} (hleft : '/' ∉ left.toList)
      (hright : '/' ∉ right.toList) (hl : t.language.Spelled left)
      (hf : t.framework.Spelled right) :
      Denotes (left ++ "/" ++ right) t

/-- A text without the form of a target: it has more than one slash, or none and only blanks. -/
def Malformed (text : String) : Prop :=
  2 ≤ text.toList.count '/' ∨ '/' ∉ text.toList ∧ Text.Blank text

/-- The texts of no target, with what is wrong. A language that is none counts before a framework
that is none. -/
inductive Refuses : String → TargetError → Prop
  | form {text : String} (h : Malformed text) : Refuses text (.malformed text)
  | bare {text : String} (hslash : '/' ∉ text.toList) (hblank : ¬ Text.Blank text)
      (hl : ∀ l : Language, ¬ l.Spelled text) : Refuses text (.unknownLanguage text)
  | language {left right : String} (hleft : '/' ∉ left.toList) (hright : '/' ∉ right.toList)
      (hl : ∀ l : Language, ¬ l.Spelled left) :
      Refuses (left ++ "/" ++ right) (.unknownLanguage left)
  | framework {left right : String} {l : Language} (hleft : '/' ∉ left.toList)
      (hright : '/' ∉ right.toList) (hl : l.Spelled left)
      (hf : ∀ f : Framework, ¬ f.Spelled right) :
      Refuses (left ++ "/" ++ right) (.unknownFramework right)
  | pair {left right : String} {l : Language} {f : Framework} (hleft : '/' ∉ left.toList)
      (hright : '/' ∉ right.toList) (hl : l.Spelled left) (hf : f.Spelled right)
      (hne : f.language ≠ l) : Refuses (left ++ "/" ++ right) (.unsupported l f)

/-! ## Reading, by the number of slashes -/

theorem parse_bare {text : String} (hslash : '/' ∉ text.toList) (hblank : ¬ Text.Blank text) :
    parse text = (Language.parse text).map ofLanguage := by
  have hpieces : pieces text = [text.toList] := List.splitOn_eq_singleton hslash
  have hne : ¬ (Text.trimChars text.toList).isEmpty = true :=
    mt (Text.isEmpty_trimChars_iff text).mp hblank
  simp only [parse, hpieces, if_neg hne, String.ofList_toList]
  cases Language.parse text <;> rfl

theorem parse_pair {left right : String} (hleft : '/' ∉ left.toList) (hright : '/' ∉ right.toList) :
    parse (left ++ "/" ++ right) =
      Language.parse left >>= fun l => Framework.parse right >>= fun f => make l f := by
  have hpieces : pieces (left ++ "/" ++ right) = [left.toList, right.toList] := by
    have htext : (left ++ "/" ++ right).toList = left.toList ++ '/' :: right.toList := by simp
    rw [pieces, htext, List.splitOn_append_cons_self_of_not_mem hleft,
      List.splitOn_eq_singleton hright]
  simp only [parse, hpieces, String.ofList_toList]

/-- The slashes of a text divide it into a bare text, a pair or something longer. -/
theorem slash_cases (text : String) :
    '/' ∉ text.toList ∨
    (∃ left right : String, '/' ∉ left.toList ∧ '/' ∉ right.toList ∧ text = left ++ "/" ++ right) ∨
    2 ≤ text.toList.count '/' := by
  by_cases hslash : '/' ∈ text.toList
  · obtain ⟨left, right, htext, hleft⟩ := List.eq_append_cons_of_mem hslash
    by_cases hright : '/' ∈ right
    · right; right
      have hcount : 1 ≤ right.count '/' := List.one_le_count_iff.mpr hright
      rw [htext, List.count_append, List.count_cons_self]
      omega
    · right; left
      refine ⟨String.ofList left, String.ofList right, by simpa, by simpa, ?_⟩
      apply String.toList_inj.mp
      simp [htext]
  · exact Or.inl hslash

theorem parse_of_malformed {text : String} (h : Malformed text) :
    parse text = .error (.malformed text) := by
  rcases h with hcount | ⟨hslash, hblank⟩
  · have hmem : '/' ∈ text.toList := List.count_pos_iff.mp (by omega)
    obtain ⟨left, rest, htext, hleft⟩ := List.eq_append_cons_of_mem hmem
    have hrest : '/' ∈ rest := by
      apply List.count_pos_iff.mp
      rw [htext, List.count_append, List.count_cons_self, List.count_eq_zero.mpr hleft] at hcount
      omega
    obtain ⟨middle, right, rfl, hmiddle⟩ := List.eq_append_cons_of_mem hrest
    obtain ⟨last, more, hlast⟩ := List.exists_cons_of_ne_nil (List.splitOn_ne_nil '/' right)
    have hpieces : pieces text = left :: middle :: last :: more := by
      rw [pieces, htext, List.splitOn_append_cons_self_of_not_mem hleft,
        List.splitOn_append_cons_self_of_not_mem hmiddle, hlast]
    simp only [parse, hpieces]
  · have hpieces : pieces text = [text.toList] := List.splitOn_eq_singleton hslash
    simp only [parse, hpieces, if_pos ((Text.isEmpty_trimChars_iff text).mpr hblank)]

/-! ## Reading follows the grammar -/

theorem parse_of_denotes {text : String} {t : Target} (h : Denotes text t) :
    parse text = .ok t := by
  cases h with
  | @bare _ l hslash hl =>
      rw [parse_bare hslash hl.not_blank, (Language.parse_eq_ok_iff text l).mpr hl]
      rfl
  | pair hleft hright hl hf =>
      rw [parse_pair hleft hright, (Language.parse_eq_ok_iff _ _).mpr hl,
        (Framework.parse_eq_ok_iff _ _).mpr hf]
      exact dif_pos t.supported

theorem parse_of_refuses {text : String} {e : TargetError} (h : Refuses text e) :
    parse text = .error e := by
  cases h with
  | form h => exact parse_of_malformed h
  | bare hslash hblank hl =>
      rw [parse_bare hslash hblank, Language.parse_of_not_spelled hl]
      rfl
  | language hleft hright hl =>
      rw [parse_pair hleft hright, Language.parse_of_not_spelled hl]
      rfl
  | framework hleft hright hl hf =>
      rw [parse_pair hleft hright, (Language.parse_eq_ok_iff _ _).mpr hl,
        Framework.parse_of_not_spelled hf]
      rfl
  | @pair left right l f hleft hright hl hf hne =>
      rw [parse_pair hleft hright, (Language.parse_eq_ok_iff _ _).mpr hl,
        (Framework.parse_eq_ok_iff _ _).mpr hf]
      exact dif_neg (mt (Framework.supports_iff_language l f).mp hne)

/-- Every text is one or the other. -/
theorem denotes_or_refuses (text : String) :
    (∃ t, Denotes text t) ∨ ∃ e, Refuses text e := by
  rcases slash_cases text with hslash | ⟨left, right, hleft, hright, rfl⟩ | hcount
  · by_cases hblank : Text.Blank text
    · exact Or.inr ⟨_, .form (Or.inr ⟨hslash, hblank⟩)⟩
    · by_cases hl : ∃ l : Language, l.Spelled text
      · obtain ⟨l, hl⟩ := hl
        exact Or.inl ⟨_, .bare hslash hl⟩
      · exact Or.inr ⟨_, .bare hslash hblank (not_exists.mp hl)⟩
  · by_cases hl : ∃ l : Language, l.Spelled left
    · obtain ⟨l, hl⟩ := hl
      by_cases hf : ∃ f : Framework, f.Spelled right
      · obtain ⟨f, hf⟩ := hf
        by_cases hown : f.language = l
        · let t : Target := ⟨l, f, (Framework.supports_iff_language l f).mpr hown⟩
          exact Or.inl ⟨t, .pair hleft hright hl hf⟩
        · exact Or.inr ⟨_, .pair hleft hright hl hf hown⟩
      · exact Or.inr ⟨_, .framework hleft hright hl (not_exists.mp hf)⟩
    · exact Or.inr ⟨_, .language hleft hright (not_exists.mp hl)⟩
  · exact Or.inr ⟨_, .form (Or.inl hcount)⟩

theorem parse_eq_ok_iff (text : String) (t : Target) : parse text = .ok t ↔ Denotes text t := by
  constructor
  · intro hparse
    rcases denotes_or_refuses text with ⟨u, hu⟩ | ⟨e, he⟩
    · rw [parse_of_denotes hu] at hparse
      cases hparse
      exact hu
    · rw [parse_of_refuses he] at hparse
      cases hparse
  · exact parse_of_denotes

theorem parse_eq_error_iff (text : String) (e : TargetError) :
    parse text = .error e ↔ Refuses text e := by
  constructor
  · intro hparse
    rcases denotes_or_refuses text with ⟨t, ht⟩ | ⟨e', he⟩
    · rw [parse_of_denotes ht] at hparse
      cases hparse
    · rw [parse_of_refuses he] at hparse
      cases hparse
      exact he
  · exact parse_of_refuses

/-! ## Targets as texts -/

theorem mem_catalog (t : Target) : t ∈ catalog := by
  have hl : t.language ∈ Language.all := by cases t.language <;> decide
  have hf : t.framework ∈ t.language.frameworks := List.contains_iff_mem.mp t.supported
  refine List.mem_flatMap.mpr ⟨t.language, hl, List.mem_filterMap.mpr ⟨t.framework, hf, ?_⟩⟩
  exact dif_pos t.supported

theorem denotes_text (t : Target) : Denotes t.text t :=
  .pair t.language.slash_notMem_name t.framework.slash_notMem_name t.language.spelled_name
    t.framework.spelled_name

/-- The error says that the form is wrong for the texts without the form of a target, and only for
these. -/
theorem refuses_malformed_iff (text shown : String) :
    Refuses text (.malformed shown) ↔ Malformed text ∧ shown = text := by
  constructor
  · intro h
    cases h with
    | form h => exact ⟨h, rfl⟩
  · rintro ⟨h, rfl⟩
    exact .form h

/-- A text is read exactly as the target that it denotes, and fails exactly for what is wrong with
it. Every target is in the catalog and is read again from its own text. -/
theorem parse_follows_grammar (text : String) :
    (∀ t, parse text = .ok t ↔ Denotes text t) ∧
    (∀ e, parse text = .error e ↔ Refuses text e) ∧
    (∀ shown, parse text = .error (.malformed shown) ↔ Malformed text ∧ shown = text) ∧
    ∀ t : Target, t ∈ catalog ∧ parse t.text = .ok t := by
  refine ⟨parse_eq_ok_iff text, parse_eq_error_iff text, ?_, ?_⟩
  · intro shown
    rw [parse_eq_error_iff, refuses_malformed_iff]
  · intro t
    exact ⟨mem_catalog t, parse_of_denotes (denotes_text t)⟩

example : parse " C# " = .ok (ofLanguage .csharp) := by decide

example : parse "cobol/rocket" = .error (.unknownLanguage "cobol") := by decide

end Target

end HandlerStudio
