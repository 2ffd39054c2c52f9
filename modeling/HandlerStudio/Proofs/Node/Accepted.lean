import HandlerStudio.Proofs.Node.Decoded
import HandlerStudio.Proofs.Node.Shape

/-!
# Which data is a node

Data is a node if it is an object whose `type` names a kind, whose `id` and `tier` are of the right
sort as far as it has them, and if every object in its fields that is taken for a node has a proper
`tier`. Reading makes these checks one after the other: type, identity and tier of the object, then
its fields in key order. What it refuses, it refuses for the first check that fails.
-/

namespace HandlerStudio

namespace Json

/-! ## The language -/

/-- A text that names a kind, by its stored or its short name. -/
def NamesKind (j : Json) : Prop :=
  ∃ kind : Kind, j = .string kind.typeName ∨ j = .string kind.shortName

def IsIdentity (j : Json) : Prop := (∃ s, j = .string s) ∨ ∃ n, j = .number n

/-- Null, or a whole number from 0 to 3. -/
def IsTier (j : Json) : Prop := j = .null ∨ ∃ n : Nat, n ≤ 3 ∧ j = .nat n

/-- An object that is taken for a node wherever it stands in a field. -/
structure NodeLike (entries : List (String × Json)) : Prop where
  type : ∃ j, Entries.get? "type" entries = some j ∧ j.NamesKind
  id : ∃ j, Entries.get? "id" entries = some j ∧ j.IsIdentity
  tier : "tier" ∈ Entries.keys entries

/-- The object stands somewhere in the data. In an object that is taken for a node, only the fields
are looked at. -/
inductive Holds : Json → List (String × Json) → Prop where
  | self (entries : List (String × Json)) : Holds (.object entries) entries
  | item {items : List Json} {j : Json} {o : List (String × Json)} (hj : j ∈ items)
      (h : Holds j o) : Holds (.array items) o
  | entry {entries o : List (String × Json)} {key : String} {j : Json}
      (hplain : ¬ NodeLike entries) (hj : (key, j) ∈ entries) (h : Holds j o) :
      Holds (.object entries) o
  | field {entries o : List (String × Json)} {key : String} {j : Json} (hlike : NodeLike entries)
      (hj : (key, j) ∈ entries) (hkey : Node.isReserved key = false) (h : Holds j o) :
      Holds (.object entries) o

def TierFits (entries : List (String × Json)) : Prop :=
  ∀ j, Entries.get? "tier" entries = some j → j.IsTier

/-- The data that is a node. -/
inductive IsNode : Json → Prop where
  | object {entries : List (String × Json)}
      (type : ∃ j, Entries.get? "type" entries = some j ∧ j.NamesKind)
      (id : ∀ j, Entries.get? "id" entries = some j → j = .null ∨ j.IsIdentity)
      (tier : TierFits entries)
      (nested : ∀ key j, (key, j) ∈ entries → Node.isReserved key = false →
        ∀ o, j.Holds o → NodeLike o → TierFits o) : IsNode (.object entries)

/-! ## The checks -/

inductive Check where
  | object (j : Json)
  | type (entries : List (String × Json))
  | id (entries : List (String × Json))
  | tier (entries : List (String × Json))

/-- The check fails with an error. -/
inductive Check.Fails : Check → NodeError → Prop where
  | noObject {j : Json} (h : ∀ entries, j ≠ .object entries) :
      Fails (.object j) (.malformed "expected an object")
  | noType {entries : List (String × Json)}
      (h : ∀ s, Entries.get? "type" entries ≠ some (.string s)) :
      Fails (.type entries) (.malformed "missing string `type`")
  | unknownType {entries : List (String × Json)} {name : String}
      (h : Entries.get? "type" entries = some (.string name)) (hname : ¬ NamesKind (.string name)) :
      Fails (.type entries) (.unknownType name)
  | id {entries : List (String × Json)} {j : Json} (h : Entries.get? "id" entries = some j)
      (hnull : j ≠ .null) (hid : ¬ j.IsIdentity) :
      Fails (.id entries) (.malformed ("unsupported id: " ++ j.compactText))
  | fractionalTier {entries : List (String × Json)} {n : Number}
      (h : Entries.get? "tier" entries = some (.number n)) (hn : ∀ k : Nat, n ≠ .int k) :
      Fails (.tier entries) (.malformed ("non-integer tier: " ++ String.ofList n.text))
  | tierRange {entries : List (String × Json)} {n : Nat}
      (h : Entries.get? "tier" entries = some (.nat n)) (hn : 3 < n) :
      Fails (.tier entries) (.invalidTier n)
  | tier {entries : List (String × Json)} {j : Json} (h : Entries.get? "tier" entries = some j)
      (hnull : j ≠ .null) (hn : ∀ n, j ≠ .number n) :
      Fails (.tier entries) (.malformed ("unsupported tier: " ++ j.compactText))

def Check.Passes (c : Check) : Prop := ∀ e, ¬ c.Fails e

/-- Of the checks, made in this order, the first that fails does so with the error. -/
inductive FirstFails : List Check → NodeError → Prop where
  | here {c : Check} {cs : List Check} {e : NodeError} (h : c.Fails e) : FirstFails (c :: cs) e
  | later {c : Check} {cs : List Check} {e : NodeError} (hc : c.Passes) (h : FirstFails cs e) :
      FirstFails (c :: cs) e

theorem passes_tier_iff (entries : List (String × Json)) :
    (Check.tier entries).Passes ↔ TierFits entries := by
  constructor
  · intro h j hj
    cases j with
    | null => exact Or.inl rfl
    | number n =>
        right
        by_cases hn : ∃ k : Nat, n = .int k
        · obtain ⟨k, rfl⟩ := hn
          refine ⟨k, ?_, rfl⟩
          by_contra hk
          exact h _ (.tierRange hj (by omega))
        · exact absurd (.fractionalTier hj (not_exists.mp hn)) (h _)
    | bool _ | string _ | array _ | object _ => exact absurd (.tier hj (by simp) (by simp)) (h _)
  · intro h e he
    cases he with
    | fractionalTier hj hn =>
        rcases h _ hj with hnull | ⟨k, -, hk⟩
        · cases hnull
        · exact hn k (Json.number.inj hk)
    | @tierRange _ n hj hn =>
        rcases h _ hj with hnull | ⟨k, hle, hk⟩
        · cases hnull
        · have hkn : (n : Int) = k := by simpa [nat] using hk
          omega
    | tier hj hnull hn =>
        rcases h _ hj with heq | ⟨k, -, hk⟩
        · exact hnull heq
        · exact hn _ hk

theorem passes_type_iff (entries : List (String × Json)) :
    (Check.type entries).Passes ↔ ∃ j, Entries.get? "type" entries = some j ∧ j.NamesKind := by
  constructor
  · intro h
    by_cases htext : ∃ s, Entries.get? "type" entries = some (.string s)
    · obtain ⟨s, hs⟩ := htext
      refine ⟨_, hs, ?_⟩
      by_contra hnot
      exact h _ (.unknownType hs hnot)
    · exact absurd (.noType (not_exists.mp htext)) (h _)
  · rintro ⟨j, hj, hkind⟩ e he
    cases he with
    | noType hnone =>
        obtain ⟨kind, rfl | rfl⟩ := hkind
        · exact hnone _ hj
        · exact hnone _ hj
    | unknownType hname hunknown =>
        rw [hj] at hname
        rw [← Option.some.inj hname] at hunknown
        exact hunknown hkind

theorem passes_id_iff (entries : List (String × Json)) :
    (Check.id entries).Passes ↔
      ∀ j, Entries.get? "id" entries = some j → j = .null ∨ j.IsIdentity := by
  constructor
  · intro h j hj
    by_contra hnot
    rw [not_or] at hnot
    exact h _ (.id hj hnot.1 hnot.2)
  · intro h e he
    cases he with
    | id hj hnull hid => exact (h _ hj).elim hnull hid

theorem looksLikeNode_eq_true_iff (entries : List (String × Json)) :
    looksLikeNode entries = true ↔ NodeLike entries := by
  have htier : Entries.has "tier" entries = true ↔ "tier" ∈ Entries.keys entries := by
    rw [Entries.has, Option.isSome_iff_ne_none, Ne, Entries.get?_eq_none_iff, not_not]
  constructor
  · intro h
    simp only [looksLikeNode, Bool.and_eq_true] at h
    obtain ⟨⟨htype, hid⟩, ht⟩ := h
    refine ⟨?_, ?_, htier.mp ht⟩
    · split at htype
      · next name hname =>
        obtain ⟨kind, hkind⟩ := (Kind.isSome_ofName?_iff name).mp htype
        exact ⟨_, hname, kind, by simpa using hkind⟩
      · cases htype
    · split at hid
      · next s hs => exact ⟨_, hs, Or.inl ⟨s, rfl⟩⟩
      · next n hn => exact ⟨_, hn, Or.inr ⟨n, rfl⟩⟩
      · cases hid
  · rintro ⟨⟨_, htype, kind, rfl | rfl⟩, ⟨_, hid, ⟨s, rfl⟩ | ⟨n, rfl⟩⟩, ht⟩ <;>
      simp [looksLikeNode, htype, hid, htier.mpr ht]

instance (entries : List (String × Json)) : Decidable (NodeLike entries) :=
  decidable_of_iff (looksLikeNode entries = true) (looksLikeNode_eq_true_iff entries)

mutual

/-- The checks that data in a field is put to: of each object that is taken for a node, its tier,
then its fields. -/
def checks : Json → List Check
  | .array items => checksOfItems items
  | .object entries =>
      if NodeLike entries then .tier entries :: checksOfFields entries
      else checksOfEntries entries
  | _ => []
termination_by structural j => j

def checksOfItems : List Json → List Check
  | [] => []
  | j :: js => checks j ++ checksOfItems js
termination_by structural js => js

def checksOfEntries : List (String × Json) → List Check
  | [] => []
  | (_, j) :: es => checks j ++ checksOfEntries es
termination_by structural es => es

def checksOfFields : List (String × Json) → List Check
  | [] => []
  | (key, j) :: es =>
      if Node.isReserved key then checksOfFields es else checks j ++ checksOfFields es
termination_by structural es => es

end

/-- The checks that data is put to as a node, in order. -/
def nodeChecks : Json → List Check
  | .object entries => .type entries :: .id entries :: .tier entries :: checksOfFields entries
  | j => [.object j]

/-! ## The first check that fails -/

theorem exists_firstFails_or_passes (cs : List Check) :
    (∃ e, FirstFails cs e) ∨ ∀ c ∈ cs, c.Passes := by
  induction cs with
  | nil => exact Or.inr (by simp)
  | cons c cs ih =>
      by_cases hc : c.Passes
      · rcases ih with ⟨e, he⟩ | hcs
        · exact Or.inl ⟨e, .later hc he⟩
        · exact Or.inr (List.forall_mem_cons.mpr ⟨hc, hcs⟩)
      · simp only [Check.Passes, not_forall, not_not] at hc
        obtain ⟨e, he⟩ := hc
        exact Or.inl ⟨e, .here he⟩

theorem FirstFails.exists_mem {cs : List Check} {e : NodeError} (h : FirstFails cs e) :
    ∃ c ∈ cs, c.Fails e := by
  induction h with
  | here h => exact ⟨_, List.mem_cons_self, h⟩
  | later _ _ ih =>
      obtain ⟨c, hc, hfails⟩ := ih
      exact ⟨c, List.mem_cons_of_mem _ hc, hfails⟩

theorem not_firstFails_of_passes {cs : List Check} (h : ∀ c ∈ cs, c.Passes) (e : NodeError) :
    ¬ FirstFails cs e := by
  intro hfirst
  obtain ⟨c, hc, hfails⟩ := hfirst.exists_mem
  exact h c hc e hfails

theorem firstFails_cons_iff {c : Check} {cs : List Check} {e : NodeError} :
    FirstFails (c :: cs) e ↔ c.Fails e ∨ c.Passes ∧ FirstFails cs e := by
  constructor
  · rintro (hfails | ⟨hc, hrest⟩)
    · exact Or.inl hfails
    · exact Or.inr ⟨hc, hrest⟩
  · rintro (hfails | ⟨hc, hrest⟩)
    · exact .here hfails
    · exact .later hc hrest

theorem firstFails_append_iff {cs ds : List Check} {e : NodeError} :
    FirstFails (cs ++ ds) e ↔ FirstFails cs e ∨ (∀ c ∈ cs, c.Passes) ∧ FirstFails ds e := by
  induction cs with
  | nil =>
      have hnil : ¬ FirstFails [] e := not_firstFails_of_passes (by simp) e
      simp [hnil]
  | cons c cs ih =>
      rw [List.cons_append, firstFails_cons_iff, firstFails_cons_iff, ih, List.forall_mem_cons]
      tauto

/-- Reading ends as the checks say: with the error of the first that fails, or with a result. -/
def Obeys {α : Type} (x : Except NodeError α) (cs : List Check) : Prop :=
  ∀ e, x = .error e ↔ FirstFails cs e

namespace Obeys

variable {α β : Type} {x : Except NodeError α} {cs ds : List Check}

theorem ok (a : α) : Obeys (.ok a) [] := by
  intro e
  refine iff_of_false (by simp) ?_
  exact not_firstFails_of_passes (by simp) e

theorem single {c : Check} (h : ∀ e, x = .error e ↔ c.Fails e) : Obeys x [c] := by
  intro e
  rw [h e]
  constructor
  · exact FirstFails.here
  · intro hfirst
    obtain ⟨c', hc', hfails⟩ := hfirst.exists_mem
    rwa [List.mem_singleton.mp hc'] at hfails

theorem exists_ok_iff (h : Obeys x cs) : (∃ a, x = .ok a) ↔ ∀ c ∈ cs, c.Passes := by
  cases x with
  | ok a =>
      refine iff_of_true ⟨a, rfl⟩ ?_
      rcases exists_firstFails_or_passes cs with ⟨e, he⟩ | hcs
      · exact absurd ((h e).mpr he) (by simp)
      · exact hcs
  | error e =>
      refine iff_of_false (by simp) ?_
      intro hcs
      exact not_firstFails_of_passes hcs e ((h e).mp rfl)

theorem bind {f : α → Except NodeError β} (hx : Obeys x cs) (hf : ∀ a, Obeys (f a) ds) :
    Obeys (x >>= f) (cs ++ ds) := by
  intro e
  cases x with
  | ok a =>
      have hcs := hx.exists_ok_iff.mp ⟨a, rfl⟩
      have hnone := not_firstFails_of_passes hcs e
      rw [Except.ok_bind, hf a e, firstFails_append_iff]
      exact ⟨fun h => Or.inr ⟨hcs, h⟩, fun h => (h.resolve_left hnone).2⟩
  | error e' =>
      have hcs : ¬ ∀ c ∈ cs, c.Passes := fun hcs => by simpa using hx.exists_ok_iff.mpr hcs
      rw [Except.error_bind, firstFails_append_iff, ← hx e, Except.error.injEq, Except.error.injEq]
      exact ⟨Or.inl, fun h => h.resolve_right fun hds => hcs hds.1⟩

theorem of_cons {c : Check} (hx : Obeys x (c :: cs)) (hc : c.Passes) : Obeys x cs := by
  intro e
  rw [hx e, firstFails_cons_iff]
  exact ⟨fun h => (h.resolve_left (hc e)).2, fun h => Or.inr ⟨hc, h⟩⟩

theorem map (hx : Obeys x cs) (f : α → β) : Obeys (x >>= fun a => .ok (f a)) cs := by
  rw [← List.append_nil cs]
  exact hx.bind fun a => ok (f a)

end Obeys

end Json

/-! ## The header -/

theorem Kind.ofName?_eq_none_iff (name : String) :
    ofName? name = none ↔ ¬ Json.NamesKind (.string name) := by
  rw [← Option.not_isSome_iff_eq_none, Kind.isSome_ofName?_iff]
  simp [Json.NamesKind]

theorem Tier.ofNat?_eq_none_iff (n : Nat) : ofNat? n = none ↔ 3 < n := by
  rcases n with _ | _ | _ | _ | n <;> simp [ofNat?]

theorem Number.eq_int_of_toNat64? {n : Number} {k : Nat} (h : n.toNat64? = some k) :
    n = .int k := by
  unfold toNat64? at h
  split at h
  · rw [Option.some.inj h]
    rfl
  · cases h

namespace Node

variable (entries : List (String × Json)) (e : NodeError)

theorem headerKind_eq_error_iff :
    headerKind entries = .error e ↔ (Json.Check.type entries).Fails e := by
  unfold headerKind
  constructor
  · intro h
    split at h
    · next name hname =>
      split at h
      · cases h
      · next hnone =>
        cases h
        exact .unknownType hname ((Kind.ofName?_eq_none_iff name).mp hnone)
    · next hother =>
      cases h
      exact .noType hother
  · intro h
    cases h with
    | noType h =>
        split
        · next name hname => exact absurd hname (h name)
        · rfl
    | unknownType h hname => simp [h, (Kind.ofName?_eq_none_iff _).mpr hname]

theorem headerId?_eq_error_iff :
    headerId? entries = .error e ↔ (Json.Check.id entries).Fails e := by
  unfold headerId?
  constructor
  · intro h
    split at h
    · cases h
    · cases h
    · cases h
    · cases h
    · next j hs hn hnull hj =>
      cases h
      refine .id hj hnull ?_
      rintro (⟨s, rfl⟩ | ⟨n, rfl⟩)
      · exact hs s rfl
      · exact hn n rfl
  · intro h
    cases h with
    | @id _ j hj hnull hid =>
        cases j with
        | null => exact absurd rfl hnull
        | string s => exact absurd (Or.inl ⟨s, rfl⟩) hid
        | number n => exact absurd (Or.inr ⟨n, rfl⟩) hid
        | bool _ | array _ | object _ => simp [hj]

theorem headerTier_eq_error_iff (kind : Kind) :
    headerTier kind entries = .error e ↔ (Json.Check.tier entries).Fails e := by
  unfold headerTier
  constructor
  · intro h
    split at h
    · cases h
    · cases h
    · next n hn =>
      split at h
      · next hnone =>
        cases h
        refine .fractionalTier hn ?_
        rintro k rfl
        cases hnone
      · next raw hraw =>
        split at h
        · cases h
        · next hrange =>
          cases h
          rw [Number.eq_int_of_toNat64? hraw] at hn
          exact .tierRange hn ((Tier.ofNat?_eq_none_iff raw).mp hrange)
    · next j hnull hn hj =>
      cases h
      exact .tier hj hnull hn
  · intro h
    cases h with
    | @fractionalTier _ n hn hfraction =>
        have hnone : n.toNat64? = none := by
          unfold Number.toNat64?
          split
          · next k => exact absurd rfl (hfraction k)
          · rfl
        simp [hn, hnone]
    | @tierRange _ n hn hrange =>
        simp [hn, Json.nat, Number.toNat64?, (Tier.ofNat?_eq_none_iff n).mpr hrange]
    | @tier _ j hj hnull hn =>
        cases j with
        | null => exact absurd rfl hnull
        | number n => exact absurd rfl (hn n)
        | bool _ | string _ | array _ | object _ => simp [hj]

end Node

/-! ## Reading obeys the checks -/

namespace Json

variable {entries : List (String × Json)}

theorem obeys_header (entries : List (String × Json)) :
    Obeys (Draft.header entries) [.type entries, .id entries, .tier entries] := by
  have hkind := Obeys.single (Node.headerKind_eq_error_iff entries)
  have hid := Obeys.single (Node.headerId?_eq_error_iff entries)
  have htier := fun kind => Obeys.single fun e => Node.headerTier_eq_error_iff entries e kind
  exact hkind.bind fun kind => hid.bind fun _ => (htier kind).map _

theorem obeys_header_of_nodeLike (h : NodeLike entries) :
    Obeys (Draft.header entries) [.tier entries] := by
  have htype := (passes_type_iff entries).mpr h.type
  have hid : (Check.id entries).Passes := by
    obtain ⟨i, hi, hidentity⟩ := h.id
    rw [passes_id_iff]
    intro j hj
    rw [hi] at hj
    exact Or.inr (Option.some.inj hj ▸ hidentity)
  exact ((obeys_header entries).of_cons htype).of_cons hid

mutual

theorem obeys_value (j : Json) : Obeys (Value.ofJson j) j.checks := by
  match j with
  | .null | .bool _ | .number _ | .string _ => exact Obeys.ok _
  | .array items => exact (obeys_items items).map _
  | .object entries =>
      rw [Value.ofJson, checks]
      by_cases hlike : NodeLike entries
      · rw [if_pos ((looksLikeNode_eq_true_iff entries).mpr hlike), if_pos hlike]
        exact (obeys_header_of_nodeLike hlike).bind fun header => (obeys_fields entries).map _
      · rw [if_neg (mt (looksLikeNode_eq_true_iff entries).mp hlike), if_neg hlike]
        exact (obeys_entries entries).map _

theorem obeys_items (items : List Json) :
    Obeys (Value.itemsOfJson items) (checksOfItems items) := by
  match items with
  | [] => exact Obeys.ok _
  | j :: js => exact (obeys_value j).bind fun v => (obeys_items js).map _

theorem obeys_entries (entries : List (String × Json)) :
    Obeys (Value.entriesOfJson entries) (checksOfEntries entries) := by
  match entries with
  | [] => exact Obeys.ok _
  | (key, j) :: es => exact (obeys_value j).bind fun v => (obeys_entries es).map _

theorem obeys_fields (entries : List (String × Json)) :
    Obeys (Value.fieldsOfJson entries) (checksOfFields entries) := by
  match entries with
  | [] => exact Obeys.ok _
  | (key, j) :: es =>
      rw [Value.fieldsOfJson, checksOfFields]
      split
      · exact obeys_fields es
      · exact (obeys_value j).bind fun v => (obeys_fields es).map _

end

theorem obeys_node (fresh : NodeId) (j : Json) : Obeys (Node.ofJson fresh j) j.nodeChecks := by
  cases j with
  | object entries =>
      exact ((obeys_header entries).bind fun header => (obeys_fields entries).map _).map _
  | null | bool _ | number _ | string _ | array _ =>
      refine Obeys.single fun e => ?_
      constructor
      · intro h
        cases h
        exact .noObject (by simp)
      · intro h
        cases h
        rfl

/-! ## What is checked -/

mutual

/-- In a field nothing is checked but the tiers of objects that are taken for nodes. -/
theorem exists_of_mem_checks (j : Json) {c : Check} (h : c ∈ j.checks) :
    ∃ o, c = .tier o ∧ j.Holds o ∧ NodeLike o := by
  match j with
  | .null | .bool _ | .number _ | .string _ => cases h
  | .array items =>
      obtain ⟨j, hj, o, rfl, ho, hlike⟩ := exists_of_mem_checksOfItems items h
      exact ⟨o, rfl, .item hj ho, hlike⟩
  | .object entries =>
      rw [checks] at h
      split at h
      · next hentries =>
        rcases List.mem_cons.mp h with rfl | h
        · exact ⟨entries, rfl, .self entries, hentries⟩
        · obtain ⟨key, j, hj, hkey, o, rfl, ho, hlike⟩ := exists_of_mem_checksOfFields entries h
          exact ⟨o, rfl, .field hentries hj hkey ho, hlike⟩
      · next hentries =>
        obtain ⟨key, j, hj, o, rfl, ho, hlike⟩ := exists_of_mem_checksOfEntries entries h
        exact ⟨o, rfl, .entry hentries hj ho, hlike⟩

theorem exists_of_mem_checksOfItems (items : List Json) {c : Check} (h : c ∈ checksOfItems items) :
    ∃ j ∈ items, ∃ o, c = .tier o ∧ j.Holds o ∧ NodeLike o := by
  match items with
  | [] => cases h
  | j :: js =>
      rw [checksOfItems] at h
      rcases List.mem_append.mp h with h | h
      · exact ⟨j, List.mem_cons_self, exists_of_mem_checks j h⟩
      · obtain ⟨j', hj', ho⟩ := exists_of_mem_checksOfItems js h
        exact ⟨j', List.mem_cons_of_mem _ hj', ho⟩

theorem exists_of_mem_checksOfEntries (entries : List (String × Json)) {c : Check}
    (h : c ∈ checksOfEntries entries) :
    ∃ key j, (key, j) ∈ entries ∧ ∃ o, c = .tier o ∧ j.Holds o ∧ NodeLike o := by
  match entries with
  | [] => cases h
  | (key, j) :: es =>
      rw [checksOfEntries] at h
      rcases List.mem_append.mp h with h | h
      · exact ⟨key, j, List.mem_cons_self, exists_of_mem_checks j h⟩
      · obtain ⟨key', j', hj', ho⟩ := exists_of_mem_checksOfEntries es h
        exact ⟨key', j', List.mem_cons_of_mem _ hj', ho⟩

theorem exists_of_mem_checksOfFields (entries : List (String × Json)) {c : Check}
    (h : c ∈ checksOfFields entries) :
    ∃ key j, (key, j) ∈ entries ∧ Node.isReserved key = false ∧
      ∃ o, c = .tier o ∧ j.Holds o ∧ NodeLike o := by
  match entries with
  | [] => cases h
  | (key, j) :: es =>
      have hrest : c ∈ checksOfFields es → ∃ key' j', (key', j') ∈ (key, j) :: es ∧
          Node.isReserved key' = false ∧ ∃ o, c = .tier o ∧ j'.Holds o ∧ NodeLike o := by
        intro h
        obtain ⟨key', j', hj', ho⟩ := exists_of_mem_checksOfFields es h
        exact ⟨key', j', List.mem_cons_of_mem _ hj', ho⟩
      rw [checksOfFields] at h
      split at h
      · exact hrest h
      · next hkey =>
        rcases List.mem_append.mp h with h | h
        · exact ⟨key, j, List.mem_cons_self, Bool.not_eq_true _ ▸ hkey, exists_of_mem_checks j h⟩
        · exact hrest h

end

theorem mem_checksOfItems {items : List Json} {j : Json} (hj : j ∈ items) {c : Check}
    (h : c ∈ j.checks) : c ∈ checksOfItems items := by
  induction items with
  | nil => cases hj
  | cons k js ih =>
      rw [checksOfItems, List.mem_append]
      rcases List.mem_cons.mp hj with rfl | hj
      · exact Or.inl h
      · exact Or.inr (ih hj)

theorem mem_checksOfEntries {entries : List (String × Json)} {key : String} {j : Json}
    (hj : (key, j) ∈ entries) {c : Check} (h : c ∈ j.checks) : c ∈ checksOfEntries entries := by
  induction entries with
  | nil => cases hj
  | cons e es ih =>
      obtain ⟨k, i⟩ := e
      rw [checksOfEntries, List.mem_append]
      rcases List.mem_cons.mp hj with heq | hj
      · cases heq
        exact Or.inl h
      · exact Or.inr (ih hj)

theorem mem_checksOfFields {entries : List (String × Json)} {key : String} {j : Json}
    (hj : (key, j) ∈ entries) (hkey : Node.isReserved key = false) {c : Check}
    (h : c ∈ j.checks) : c ∈ checksOfFields entries := by
  induction entries with
  | nil => cases hj
  | cons e es ih =>
      obtain ⟨k, i⟩ := e
      rw [checksOfFields]
      rcases List.mem_cons.mp hj with heq | hj
      · cases heq
        rw [if_neg (by simp [hkey])]
        exact List.mem_append_left _ h
      · split
        · exact ih hj
        · exact List.mem_append_right _ (ih hj)

theorem Holds.mem_checks {j : Json} {o : List (String × Json)} (h : j.Holds o)
    (ho : NodeLike o) : Check.tier o ∈ j.checks := by
  induction h with
  | self entries =>
      rw [checks, if_pos ho]
      exact List.mem_cons_self
  | item hj _ ih =>
      rw [checks]
      exact mem_checksOfItems hj (ih ho)
  | entry hplain hj _ ih =>
      rw [checks, if_neg hplain]
      exact mem_checksOfEntries hj (ih ho)
  | field hlike hj hkey _ ih =>
      rw [checks, if_pos hlike]
      exact List.mem_cons_of_mem _ (mem_checksOfFields hj hkey (ih ho))

theorem isNode_iff_passes (j : Json) : j.IsNode ↔ ∀ c ∈ j.nodeChecks, c.Passes := by
  cases j with
  | object entries =>
      simp only [nodeChecks, List.forall_mem_cons, passes_type_iff, passes_id_iff, passes_tier_iff]
      constructor
      · rintro ⟨htype, hid, htier, hnested⟩
        refine ⟨htype, hid, htier, ?_⟩
        intro c hc
        obtain ⟨key, j, hj, hkey, o, rfl, ho, hlike⟩ := exists_of_mem_checksOfFields entries hc
        exact (passes_tier_iff o).mpr (hnested key j hj hkey o ho hlike)
      · rintro ⟨htype, hid, htier, hfields⟩
        refine ⟨htype, hid, htier, ?_⟩
        intro key j hj hkey o ho hlike
        exact (passes_tier_iff o).mp (hfields _ (mem_checksOfFields hj hkey (ho.mem_checks hlike)))
  | null | bool _ | number _ | string _ | array _ =>
      refine iff_of_false (fun h => by cases h) ?_
      intro h
      exact h _ List.mem_cons_self _ (.noObject (by simp))

theorem FirstFails.exists_fails {entries : List (String × Json)} {e : NodeError}
    (h : FirstFails (nodeChecks (.object entries)) e) :
    (Check.type entries).Fails e ∨ (Check.id entries).Fails e ∨ (Check.tier entries).Fails e ∨
      ∃ key field o, (key, field) ∈ entries ∧ Node.isReserved key = false ∧
        field.Holds o ∧ NodeLike o ∧ (Check.tier o).Fails e := by
  obtain ⟨c, hc, hfails⟩ := h.exists_mem
  simp only [nodeChecks, List.mem_cons] at hc
  rcases hc with rfl | rfl | rfl | hc
  · exact Or.inl hfails
  · exact Or.inr (Or.inl hfails)
  · exact Or.inr (Or.inr (Or.inl hfails))
  · obtain ⟨key, field, hmem, hkey, o, rfl, ho, hlike⟩ := exists_of_mem_checksOfFields entries hc
    exact Or.inr (Or.inr (Or.inr ⟨key, field, o, hmem, hkey, ho, hlike, hfails⟩))

end Json

/-- Data is read as a node exactly if it is one, and what is refused is refused for the first check
that fails. Only the data itself can be of an unknown kind: inside it, nothing but the tier of an
object that is taken for a node is ever at fault. -/
theorem Node.ofJson_accepts_or_first_fails (fresh : NodeId) (j : Json) :
    ((∃ n, Node.ofJson fresh j = .ok n) ↔ j.IsNode) ∧
    (∀ e, Node.ofJson fresh j = .error e ↔ Json.FirstFails j.nodeChecks e) ∧
    (∀ name, Node.ofJson fresh j = .error (.unknownType name) ↔
      j.get? "type" = some (.string name) ∧ ¬ Json.NamesKind (.string name)) ∧
    ∀ entries e, j = .object entries → Node.ofJson fresh j = .error e →
      (Json.Check.type entries).Fails e ∨ (Json.Check.id entries).Fails e ∨
        (Json.Check.tier entries).Fails e ∨
        ∃ key field o, (key, field) ∈ entries ∧ Node.isReserved key = false ∧
          field.Holds o ∧ Json.NodeLike o ∧ (Json.Check.tier o).Fails e := by
  have hobeys := Json.obeys_node fresh j
  refine ⟨hobeys.exists_ok_iff.trans (Json.isNode_iff_passes j).symm, hobeys, ?_, ?_⟩
  · intro name
    rw [hobeys]
    cases j with
    | object entries =>
        constructor
        · intro hfirst
          rcases hfirst.exists_fails with h | h | h | ⟨_, _, o, -, -, -, -, h⟩
          · cases h with
            | unknownType htype hname => exact ⟨htype, hname⟩
          · cases h
          · cases h
          · cases h
        · rintro ⟨htype, hname⟩
          exact .here (.unknownType htype hname)
    | null | bool _ | number _ | string _ | array _ =>
        refine iff_of_false ?_ (fun h => by cases h.1)
        intro hfirst
        obtain ⟨c, hc, hfails⟩ := hfirst.exists_mem
        rw [List.mem_singleton.mp hc] at hfails
        cases hfails
  · rintro entries e rfl herror
    exact ((hobeys e).mp herror).exists_fails

/-- A branch with two faults: a statement of a tier that is too high, and after it one whose tier is
no number. The object between them is of no known kind. -/
def Json.sampleFaults : Json :=
  .object [
    ("body", .array [.object [("id", .int 1), ("tier", .int 9), ("type", .string "return")]]),
    ("note", .object [("id", .int 2), ("tier", .bool true), ("type", .string "x")]),
    ("other", .object [("id", .int 3), ("tier", .bool true), ("type", .string "if")]),
    ("type", .string "if")]

theorem Node.first_fault_sampleFaults :
    Node.ofJson ⟨"b1"⟩ Json.sampleFaults = .error (.invalidTier 9) ∧
      Json.FirstFails Json.sampleFaults.nodeChecks (.invalidTier 9) ∧
      ¬ Json.sampleFaults.IsNode := by
  have hread : Node.ofJson ⟨"b1"⟩ Json.sampleFaults = .error (.invalidTier 9) := rfl
  obtain ⟨haccepts, herror, -⟩ := Node.ofJson_accepts_or_first_fails ⟨"b1"⟩ Json.sampleFaults
  refine ⟨hread, (herror _).mp hread, ?_⟩
  intro hnode
  obtain ⟨n, hn⟩ := haccepts.mpr hnode
  rw [hread] at hn
  cases hn

end HandlerStudio
