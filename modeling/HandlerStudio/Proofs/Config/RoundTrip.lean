import HandlerStudio.Config.Toml
import HandlerStudio.Proofs.Entries
import HandlerStudio.Proofs.Toml.Bounded
import HandlerStudio.Proofs.Toml.Lines
import HandlerStudio.Proofs.Toml.Literal
import HandlerStudio.Proofs.Toml.Quoted

/-!
# Settings are read back

Settings are written as a plain document, so what is read from it is known once each value is.
Numbers that were read from a text are small enough to be written.
-/

namespace HandlerStudio

open Toml Toml.Read

/-! ## Written values -/

namespace Toml.Written

/-- A value that is no array and no table is read from its first character on. -/
theorem value_eq_scalar {c : Char} (hspace : Quoted.isSpace c = false) (harray : c ≠ '[')
    (htable : c ≠ '\x7b') (cs : List Char) :
    Read.value nestingLimit (skipSpace (c :: cs)) = scalar (c :: cs) := by
  have hskip : skipSpace (c :: cs) = c :: cs := by simp [skipSpace, hspace]
  rw [hskip]
  unfold Read.value
  split <;> simp_all

theorem scalar_of_isDigit {c : Char} (hc : c.isDigit = true) (cs : List Char) :
    scalar (c :: cs) = Literal.read (c :: cs) := by
  have hdouble : c ≠ '"' := ne_of_test hc (by decide)
  have hsingle : c ≠ '\'' := ne_of_test hc (by decide)
  have htrue : c ≠ 't' := ne_of_test hc (by decide)
  have hfalse : c ≠ 'f' := ne_of_test hc (by decide)
  unfold scalar
  split <;> simp_all

def natural (n : Nat) (hn : n < signedLimit) : Written where
  text := Nat.toDigits 10 n
  value := .integer n
  reads := by
    intro rest
    have hread := Literal.read_toDigits hn rest
    have hdigits : ∀ c ∈ Nat.toDigits 10 n, c.isDigit = true := by
      intro c hc
      exact Nat.isDigit_of_mem_toDigits (by decide) (by decide) hc
    obtain ⟨c, cs, hcs⟩ := List.exists_cons_of_ne_nil (Nat.toDigits_ne_nil (b := 10) (n := n))
    rw [hcs] at hread hdigits ⊢
    have hc : c.isDigit = true := hdigits c List.mem_cons_self
    have hspace : Quoted.isSpace c = false := by
      simp [Quoted.isSpace, ne_of_test hc]
    rw [List.cons_append] at hread ⊢
    rw [value_eq_scalar hspace (ne_of_test hc (by decide)) (ne_of_test hc (by decide)),
      scalar_of_isDigit hc, hread]

def boolean (b : Bool) : Written where
  text := (Config.booleanText b).toList
  value := .boolean b
  reads := by
    intro rest
    cases b with
    | false => rfl
    | true => rfl

def quoted (s : String) : Written where
  text := Quoted.write s.toList
  value := .text s
  reads := by
    intro rest
    have hread := Quoted.read_write s.toList rest
    obtain ⟨quote, inner, hwrite, hquote⟩ := Quoted.exists_write_eq_cons s.toList
    rw [hwrite, List.cons_append] at hread ⊢
    rcases hquote with rfl | rfl
    · rw [value_eq_scalar (by decide) (by decide) (by decide), scalar, hread]
      simp
    · rw [value_eq_scalar (by decide) (by decide) (by decide), scalar, hread]
      simp

end Toml.Written

namespace Config

/-! ## The document -/

/-- Settings whose numbers can be written. -/
structure Storable (c : Config) : Prop where
  debounce_lt : c.preview.debounce < signedLimit
  quietPeriod_lt : c.autosave.quietPeriod < signedLimit

/-- The lines of the settings. -/
def document (c : Config) (h : c.Storable) : List Line :=
  [.header ⟨"preview", by decide, by decide⟩,
    .entry ⟨"debounce_ms", by decide, by decide⟩ (.natural c.preview.debounce h.debounce_lt),
    .entry ⟨"default_language", by decide, by decide⟩ (.quoted c.preview.language.name),
    .entry ⟨"default_framework", by decide, by decide⟩ (.quoted c.preview.framework.name),
    .blank,
    .header ⟨"autosave", by decide, by decide⟩,
    .entry ⟨"enabled", by decide, by decide⟩ (.boolean c.autosave.enabled),
    .entry ⟨"quiet_period_ms", by decide, by decide⟩
      (.natural c.autosave.quietPeriod h.quietPeriod_lt),
    .blank,
    .header ⟨"logging", by decide, by decide⟩,
    .entry ⟨"level", by decide, by decide⟩ (.quoted c.logging.level),
    .entry ⟨"json", by decide, by decide⟩ (.boolean c.logging.json)]

theorem toToml_eq {c : Config} (h : c.Storable) :
    c.toToml = .ok (String.ofList (Line.render (c.document h))) := by
  simp only [toToml, naturalText, if_pos h.debounce_lt, if_pos h.quietPeriod_lt]
  apply congrArg Except.ok
  apply String.toList_injective
  simp only [String.toList_append, String.toList_ofList, quotedText, Line.render, document,
    Line.text, List.flatMap_cons, List.flatMap_nil, Written.natural, Written.boolean,
    Written.quoted, List.append_assoc, List.cons_append, List.nil_append, List.append_nil]
  rfl

/-- The entries of the settings. -/
def entries (c : Config) : List (String × Toml.Value) :=
  [("autosave", .table
      [("enabled", .boolean c.autosave.enabled),
        ("quiet_period_ms", .integer c.autosave.quietPeriod)]),
    ("logging", .table [("json", .boolean c.logging.json), ("level", .text c.logging.level)]),
    ("preview", .table
      [("debounce_ms", .integer c.preview.debounce),
        ("default_framework", .text c.preview.framework.name),
        ("default_language", .text c.preview.language.name)])]

theorem parse?_document {c : Config} (h : c.Storable) :
    parse? (String.ofList (Line.render (c.document h))) = some c.entries := by
  rw [parse?_render]
  rfl

theorem language?_name (l : Language) : language? (.text l.name) = some l := by
  cases l <;> decide

theorem framework?_name (f : Framework) : framework? (.text f.name) = some f := by
  cases f <;> decide

theorem preview?_entries (p : PreviewSettings) :
    preview? (.table
      [("debounce_ms", .integer p.debounce), ("default_framework", .text p.framework.name),
        ("default_language", .text p.language.name)]) = some p := by
  change (do
    let language ← language? (.text p.language.name)
    let framework ← framework? (.text p.framework.name)
    some { p with language, framework }) = some p
  rw [language?_name, framework?_name]
  rfl

theorem ofEntries?_entries (c : Config) : ofEntries? c.entries = some c := by
  change (preview? _).bind (fun preview => some { c with preview }) = some c
  rw [preview?_entries]
  rfl

/-! ## What is read can be written -/

theorem natural?_lt {v : Toml.Value} (hv : v.Bounded) {n : Nat} (h : natural? v = some n) :
    n < signedLimit := by
  unfold natural? at h
  split at h
  · cases h
    cases hv with
    | integer hrange =>
        simp only [Literal.inRange, Bool.and_eq_true, decide_eq_true_eq] at hrange
        exact Int.ofNat_lt.mp hrange.2
  · cases h

theorem bounded_fields? {v w : Toml.Value} (hv : v.Bounded)
    {field : String → Nat → Option Toml.Value} (h : fields? v = some field) {key : String}
    {place : Nat} (hw : field key place = some w) : w.Bounded := by
  unfold fields? at h
  split at h
  · cases h
    cases hv with
    | table hentries => exact hentries _ (Entries.mem_of_get?_eq_some hw)
  · cases h
    cases hv with
    | array hitems => exact hitems w (List.mem_of_getElem? hw)
  · cases h
    cases hw
  · cases h

theorem given_natural?_lt {default n : Nat} (hdefault : default < signedLimit)
    {v : Option Toml.Value} (hv : ∀ w, v = some w → w.Bounded)
    (h : given natural? default v = some n) : n < signedLimit := by
  cases v with
  | none =>
      cases h
      exact hdefault
  | some w => exact natural?_lt (hv w rfl) h

theorem preview?_lt {v : Toml.Value} (hv : v.Bounded) {p : PreviewSettings}
    (h : preview? v = some p) : p.debounce < signedLimit := by
  obtain ⟨field, hfield, h⟩ := Option.bind_eq_some_iff.mp h
  obtain ⟨debounce, hdebounce, h⟩ := Option.bind_eq_some_iff.mp h
  obtain ⟨language, -, h⟩ := Option.bind_eq_some_iff.mp h
  obtain ⟨framework, -, h⟩ := Option.bind_eq_some_iff.mp h
  cases h
  exact given_natural?_lt (by decide) (fun w hw => bounded_fields? hv hfield hw) hdebounce

theorem autosave?_lt {v : Toml.Value} (hv : v.Bounded) {a : AutosaveSettings}
    (h : autosave? v = some a) : a.quietPeriod < signedLimit := by
  obtain ⟨field, hfield, h⟩ := Option.bind_eq_some_iff.mp h
  obtain ⟨enabled, -, h⟩ := Option.bind_eq_some_iff.mp h
  obtain ⟨quietPeriod, hquiet, h⟩ := Option.bind_eq_some_iff.mp h
  cases h
  exact given_natural?_lt (by decide) (fun w hw => bounded_fields? hv hfield hw) hquiet

theorem storable_of_ofEntries? {entries : List (String × Toml.Value)} {c : Config}
    (hentries : ∀ e ∈ entries, e.2.Bounded) (h : ofEntries? entries = some c) : c.Storable := by
  have hget : ∀ {key : String} {v : Toml.Value}, Entries.get? key entries = some v → v.Bounded :=
    fun hv => hentries _ (Entries.mem_of_get?_eq_some hv)
  obtain ⟨preview, hpreview, h⟩ := Option.bind_eq_some_iff.mp h
  obtain ⟨autosave, hautosave, h⟩ := Option.bind_eq_some_iff.mp h
  obtain ⟨logging, -, h⟩ := Option.bind_eq_some_iff.mp h
  cases h
  constructor
  · cases hv : Entries.get? "preview" entries with
    | none =>
        rw [hv] at hpreview
        cases hpreview
        change 300 < signedLimit
        decide
    | some v =>
        rw [hv] at hpreview
        exact preview?_lt (hget hv) hpreview
  · cases hv : Entries.get? "autosave" entries with
    | none =>
        rw [hv] at hautosave
        cases hautosave
        change 2000 < signedLimit
        decide
    | some v =>
        rw [hv] at hautosave
        exact autosave?_lt (hget hv) hautosave

theorem ofToml_eq_ok_iff {text : String} {c : Config} :
    ofToml text = .ok c ↔ (parse? text).bind ofEntries? = some c ∧ c.validate = .ok () := by
  unfold ofToml
  cases (parse? text).bind ofEntries? with
  | none =>
      constructor
      · intro h
        cases h
      · rintro ⟨h, -⟩
        cases h
  | some d =>
      change (d.validate >>= fun _ => Except.ok d) = .ok c ↔ _
      cases hvalid : d.validate with
      | error e =>
          constructor
          · intro h
            cases h
          · rintro ⟨h, hc⟩
            cases h
            rw [hvalid] at hc
            cases hc
      | ok u =>
          constructor
          · intro h
            cases h
            exact ⟨rfl, hvalid⟩
          · rintro ⟨h, -⟩
            cases h
            rfl

/-- Settings that were read can be written, and are read back from what is written. -/
theorem ofToml_toToml {text : String} {c : Config} (h : ofToml text = .ok c) :
    ∃ written, c.toToml = .ok written ∧ ofToml written = .ok c := by
  obtain ⟨hread, hvalid⟩ := ofToml_eq_ok_iff.mp h
  obtain ⟨entries, hparse, hentries⟩ := Option.bind_eq_some_iff.mp hread
  have hstorable : c.Storable := storable_of_ofEntries? (bounded_parse? hparse) hentries
  refine ⟨_, toToml_eq hstorable, ofToml_eq_ok_iff.mpr ⟨?_, hvalid⟩⟩
  rw [parse?_document hstorable]
  exact ofEntries?_entries c

/-- Settings with a level that fits between no quotes as it is. -/
def sampleNoisy : Config where
  preview := { debounce := 300, language := .go, framework := .gin }
  logging := { level := "\"it's\" \\ \x07\n" }

theorem ofToml_toToml_sampleNoisy :
    ∃ written, sampleNoisy.toToml = .ok written ∧ ofToml written = .ok sampleNoisy := by
  have hread : ofToml ("preview = \x7b debounce_ms = 0x12C, default_language = 'go', "
      ++ "default_framework = 'gin' \x7d\n"
      ++ "logging.level = \"\\\"it's\\\" \\\\ \\u0007\\n\"\n") = .ok sampleNoisy := by
    decide +kernel
  exact ofToml_toToml hread

end Config

end HandlerStudio
