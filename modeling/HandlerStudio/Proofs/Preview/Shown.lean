import HandlerStudio.Preview.Display
import Mathlib.Data.List.Induction
import Mathlib.Data.List.Nodup

/-!
# What a preview shows of an output

A set of files keeps each name once, where the generator gives it first, with the text that it gives
last. The preview shows one of them. The place that `Display.pick` gives is in range, and the file
there is the first with the name of the artifact in its own, or the first of all if there is none;
so the text shown is the one that the set holds under the name shown.
-/

namespace HandlerStudio

theorem Text.occursIn_iff_infix (needle cs : List Char) :
    Text.occursIn needle cs = true ↔ needle <:+: cs := by
  induction cs with
  | nil => rw [Text.occursIn, List.isEmpty_iff, List.infix_nil]
  | cons c cs ih =>
      rw [Text.occursIn, Bool.or_eq_true, List.isPrefixOf_iff_prefix, ih, List.infix_cons_iff]

/-! ## Sets of files -/

namespace Files

theorem lookup_cons (f : String × String) (files : List (String × String)) (asked : String) :
    (f :: files).lookup asked = if asked = f.1 then some f.2 else files.lookup asked := by
  rw [List.lookup_cons]
  by_cases h : asked = f.1
  · simp [h]
  · simp [beq_eq_false_iff_ne.mpr h, h]

theorem names_insert (name text : String) (files : List (String × String)) :
    (insert name text files).map Prod.fst =
      if name ∈ files.map Prod.fst then files.map Prod.fst else files.map Prod.fst ++ [name] := by
  induction files with
  | nil => simp [insert]
  | cons f files ih =>
      obtain ⟨n, t⟩ := f
      by_cases hn : n = name
      · simp [insert, hn]
      · simp only [insert, hn, Ne.symm hn, if_false, List.map_cons, ih, List.mem_cons, false_or]
        split <;> rfl

theorem lookup_insert (name text : String) (files : List (String × String)) (asked : String) :
    (insert name text files).lookup asked =
      if asked = name then some text else files.lookup asked := by
  induction files with
  | nil => rw [insert, lookup_cons]
  | cons f files ih =>
      obtain ⟨n, t⟩ := f
      by_cases hn : n = name
      · subst hn
        by_cases h : asked = n <;> simp [insert, lookup_cons, h]
      · by_cases h : asked = n
        · subst h
          simp [insert, hn]
        · simp [insert, lookup_cons, hn, h, ih]

theorem ofList_concat (given : List (String × String)) (f : String × String) :
    ofList (given ++ [f]) = insert f.1 f.2 (ofList given) := by
  simp [ofList]

/-- Names stand where they are given first. -/
theorem names_ofList (given : List (String × String)) :
    (ofList given).map Prod.fst = (given.map Prod.fst).eraseDups := by
  induction given using List.reverseRecOn with
  | nil => rfl
  | append_singleton given f ih =>
      rw [ofList_concat, names_insert, ih, List.map_append, List.eraseDups_append]
      by_cases hmem : f.1 ∈ given.map Prod.fst
      · simp [List.removeAll, hmem]
      · simp [List.removeAll, hmem, List.eraseDups_cons]

/-- Texts are those given last. -/
theorem lookup_ofList (given : List (String × String)) (asked : String) :
    (ofList given).lookup asked = given.reverse.lookup asked := by
  induction given using List.reverseRecOn with
  | nil => rfl
  | append_singleton given f ih =>
      rw [ofList_concat, lookup_insert, ih, List.reverse_append, List.reverse_singleton,
        List.singleton_append, lookup_cons]

theorem nodup_names_ofList (given : List (String × String)) :
    ((ofList given).map Prod.fst).Nodup := by
  induction given using List.reverseRecOn with
  | nil => exact List.nodup_nil
  | append_singleton given f ih =>
      rw [ofList_concat, names_insert]
      split
      · exact ih
      · next hnew => simpa using ih.concat hnew

/-- In a set that names each file once, a file is what is found under its name. -/
theorem lookup_of_mem {files : List (String × String)} (hnames : (files.map Prod.fst).Nodup)
    {name text : String} (h : (name, text) ∈ files) : files.lookup name = some text := by
  induction files with
  | nil => cases h
  | cons f files ih =>
      rw [List.map_cons, List.nodup_cons] at hnames
      rw [lookup_cons]
      rcases List.mem_cons.mp h with rfl | hmem
      · exact if_pos rfl
      · have hname : name ∈ files.map Prod.fst := List.mem_map_of_mem hmem
        have hne : name ≠ f.1 := fun heq => hnames.1 (heq ▸ hname)
        rw [if_neg hne, ih hnames.2 hmem]

end Files

/-! ## The file that is shown -/

namespace Display

/-- In lower case, the name of the file contains that of the artifact, which is not empty. -/
def NamedFor (artifact name : String) : Prop :=
  Text.lowercase artifact ≠ "" ∧
    (Text.lowercase artifact).toList <:+: (Text.lowercase name).toList

theorem nameMatches_iff (artifact name : String) :
    nameMatches (Text.lowercase artifact).toList name = true ↔ NamedFor artifact name := by
  rw [nameMatches, Bool.and_eq_true, Text.occursIn_iff_infix]
  simp [NamedFor]

/-- The place of the first file named for the artifact, or the first of all if there is none. -/
def Chosen (artifact : String) (names : List String) (i : Nat) : Prop :=
  (∃ name, names[i]? = some name ∧ NamedFor artifact name ∧
    ∀ earlier ∈ names.take i, ¬ NamedFor artifact earlier) ∨
  (i = 0 ∧ ∀ name ∈ names, ¬ NamedFor artifact name)

/-- Of any files one is picked. -/
theorem exists_pick (artifact : String) {names : List String} (hne : names ≠ []) :
    ∃ i, pick names artifact = some i ∧ i < names.length ∧ Chosen artifact names i := by
  unfold pick
  cases hfind : names.findIdx? (nameMatches (Text.lowercase artifact).toList) with
  | some i =>
      obtain ⟨hi, hmatch, hearlier⟩ := List.findIdx?_eq_some_iff_getElem.mp hfind
      refine ⟨i, rfl, hi, Or.inl ⟨names[i], List.getElem?_eq_getElem hi, ?_, ?_⟩⟩
      · exact (nameMatches_iff artifact _).mp hmatch
      · intro earlier hmem
        obtain ⟨j, hj, rfl⟩ := List.mem_take_iff_getElem.mp hmem
        rw [← nameMatches_iff]
        exact hearlier j (by omega)
  | none =>
      refine ⟨0, by simp [hne], List.length_pos_of_ne_nil hne, Or.inr ⟨rfl, ?_⟩⟩
      intro name hname
      rw [← nameMatches_iff, List.findIdx?_eq_none_iff.mp hfind name hname]
      exact Bool.false_ne_true

theorem ofOutput_files {artifact : String} {files : List (String × String)} {i : Nat}
    {f : String × String} (hpick : pick (files.map Prod.fst) artifact = some i)
    (hf : files[i]? = some f) :
    ofOutput artifact (.files files) = .source (some f.1) (files.map Prod.fst) f.2 := by
  simp [ofOutput, hpick, hf]

/-- A preview shows what the generator gave. A single source is shown without a file, and a set
without files as nothing. Of a set that has files the chosen one is there, and it is shown with all
names of the set, in their order. In a set made of files given one by one, the text is the one held
under the name shown, which is the one given last, and names stand where they were given first. -/
theorem shows_generator_data (artifact : String) :
    (∀ text, ofOutput artifact (.source text) = .source none [] text) ∧
    ofOutput artifact (.files []) = .empty ∧
    ∀ files : List (String × String), files ≠ [] →
      ∃ i name text,
        pick (files.map Prod.fst) artifact = some i ∧
        Chosen artifact (files.map Prod.fst) i ∧
        files[i]? = some (name, text) ∧
        ofOutput artifact (.files files) = .source (some name) (files.map Prod.fst) text ∧
        ∀ given, files = Files.ofList given →
          files.lookup name = some text ∧ given.reverse.lookup name = some text ∧
            files.map Prod.fst = (given.map Prod.fst).eraseDups := by
  refine ⟨fun text => rfl, rfl, ?_⟩
  intro files hfiles
  have hnames : files.map Prod.fst ≠ [] := by simpa using hfiles
  obtain ⟨i, hpick, hlt, hchosen⟩ := exists_pick artifact hnames
  rw [List.length_map] at hlt
  -- a file stands at the place picked, so the empty one in its stead is never shown
  have hshown := List.getElem?_eq_getElem hlt
  refine ⟨i, files[i].1, files[i].2, hpick, hchosen, hshown, ofOutput_files hpick hshown, ?_⟩
  rintro given rfl
  have htext := Files.lookup_of_mem (Files.nodup_names_ofList given) (List.mem_of_getElem? hshown)
  refine ⟨htext, ?_, Files.names_ofList given⟩
  rw [← Files.lookup_ofList]
  exact htext

/-- A name that is given twice, and two names that contain that of the handler. -/
def sampleFiles : List (String × String) :=
  [("app.ts", "// start"), ("routes/LogIn.ts", "// draft"), ("routes/login_test.ts", "// test"),
    ("routes/LogIn.ts", "// log in")]

theorem shows_generator_data_sampleFiles :
    Files.ofList sampleFiles ≠ [] ∧
      Chosen "Login" ["app.ts", "routes/LogIn.ts", "routes/login_test.ts"] 1 ∧
      (Files.ofList sampleFiles).lookup "routes/LogIn.ts" = some "// log in" ∧
      ofOutput "Login" (.files (Files.ofList sampleFiles)) =
        .source (some "routes/LogIn.ts") ["app.ts", "routes/LogIn.ts", "routes/login_test.ts"]
          "// log in" := by
  have hne : Files.ofList sampleFiles ≠ [] := by decide
  have hone : pick ((Files.ofList sampleFiles).map Prod.fst) "Login" = some 1 := by decide
  obtain ⟨-, -, hset⟩ := shows_generator_data "Login"
  obtain ⟨i, name, text, hpick, hchosen, hshown, hdisplay, hgiven⟩ := hset _ hne
  obtain rfl : 1 = i := Option.some.inj (hone.symm.trans hpick)
  have hfile : (Files.ofList sampleFiles)[1]? = some ("routes/LogIn.ts", "// log in") := by decide
  obtain ⟨rfl, rfl⟩ := Prod.mk.inj (Option.some.inj (hfile.symm.trans hshown))
  exact ⟨hne, hchosen, (hgiven _ rfl).1, hdisplay⟩

end Display

end HandlerStudio
