import HandlerStudio.Proofs.Node.Accepted
import HandlerStudio.Proofs.Node.Hereditary

/-!
# Decoding loses nothing but spelling

A node that was decoded is encoded as the data it comes from, but for the spelling of headers: the
identity is a text, the type is the stored name of the kind, and the tier is a number. The outermost
object may lack its identity and its tier, and then gets them. All else stays as it was, at every
depth.
-/

namespace HandlerStudio

namespace Json

/-! ## The spelling of headers -/

def spelledId : Json → Json
  | .number n => .string (String.ofList n.text)
  | j => j

def spelledTier (kind : Kind) : Json → Json
  | .null => .nat kind.tier.toNat
  | j => j

/-- What stands under a key of a node, in the spelling of the encoder. -/
def spelled (kind : Kind) (key : String) (j : Json) : Json :=
  if key = "id" then j.spelledId
  else if key = "tier" then j.spelledTier kind
  else if key = "type" then .string kind.typeName
  else j

/-- The kind that the type of an object names. -/
def namedKind? (entries : List (String × Json)) : Option Kind :=
  ((Entries.get? "type" entries).bind asString?).bind Kind.ofName?

/-- The entries of an object that stands for a node of the kind, or for none. -/
def spellHeader (kind? : Option Kind) (entries : List (String × Json)) : List (String × Json) :=
  match kind? with
  | some kind => entries.map fun e => (e.1, spelled kind e.1 e.2)
  | none => entries

/-- An identity that is missing or null is the fresh one. -/
def filledId (fresh : NodeId) : Option Json → Json
  | none | some .null => .string fresh.text
  | some j => j

/-- The header has an identity, and a tier that may be null. -/
def fillHeader (fresh : NodeId) (entries : List (String × Json)) : List (String × Json) :=
  Entries.insert "id" (filledId fresh (Entries.get? "id" entries))
    (Entries.insert "tier" ((Entries.get? "tier" entries).getD .null) entries)

mutual

/-- The data with the headers of all nodes in it in the spelling of the encoder. -/
def respelled : Json → Json
  | .array items => .array (respelledItems items)
  | .object entries =>
      .object (spellHeader (if NodeLike entries then namedKind? entries else none)
        (respelledEntries entries))
  | j => j
termination_by structural j => j

def respelledItems : List Json → List Json
  | [] => []
  | j :: js => respelled j :: respelledItems js
termination_by structural js => js

def respelledEntries : List (String × Json) → List (String × Json)
  | [] => []
  | (key, j) :: es => (key, respelled j) :: respelledEntries es
termination_by structural es => es

end

/-- The data of a node, whose own header may lack an identity and a tier. -/
def respelledNode (fresh : NodeId) : Json → Json
  | .object entries =>
      .object (spellHeader (namedKind? entries) (fillHeader fresh (respelledEntries entries)))
  | j => j

theorem respelledEntries_eq_map (entries : List (String × Json)) :
    respelledEntries entries = entries.map fun e => (e.1, respelled e.2) := by
  induction entries with
  | nil => rfl
  | cons e es ih =>
      obtain ⟨key, j⟩ := e
      rw [respelledEntries, ih, List.map_cons]

theorem get?_respelledEntries (key : String) (entries : List (String × Json)) :
    Entries.get? key (respelledEntries entries) = (Entries.get? key entries).map respelled := by
  rw [respelledEntries_eq_map, Entries.get?_map]

theorem sorted_respelledEntries {entries : List (String × Json)} (h : Entries.Sorted entries) :
    Entries.Sorted (respelledEntries entries) := by
  have hkeys : Entries.keys (respelledEntries entries) = Entries.keys entries := by
    simp [respelledEntries_eq_map, Entries.keys]
  rw [Entries.Sorted, hkeys]
  exact h

theorem get?_spellHeader (kind : Kind) (key : String) (entries : List (String × Json)) :
    Entries.get? key (spellHeader (some kind) entries) =
      (Entries.get? key entries).map (spelled kind key) := by
  induction entries with
  | nil => rfl
  | cons e es ih =>
      rw [spellHeader] at ih ⊢
      by_cases hkey : e.1 = key
      · simp [Entries.get?, hkey]
      · simp [Entries.get?, hkey, ih]

theorem spelled_of_free (kind : Kind) {key : String} (hkey : Node.isReserved key = false) :
    spelled kind key = fun j => j := by
  obtain ⟨hid, htier, htype⟩ := (Node.isReserved_eq_false_iff key).mp hkey
  funext j
  rw [spelled, if_neg hid, if_neg htier, if_neg htype]

theorem sorted_spellHeader {entries : List (String × Json)} (h : Entries.Sorted entries)
    (kind : Kind) : Entries.Sorted (spellHeader (some kind) entries) := by
  have hkeys : Entries.keys (spellHeader (some kind) entries) = Entries.keys entries := by
    simp [spellHeader, Entries.keys]
  rw [Entries.Sorted, hkeys]
  exact h

theorem sorted_fillHeader {entries : List (String × Json)} (h : Entries.Sorted entries)
    (fresh : NodeId) : Entries.Sorted (fillHeader fresh entries) :=
  Entries.sorted_insert (Entries.sorted_insert h _ _) _ _

/-- An object that is taken for a node has an identity and a tier of its own. -/
theorem fillHeader_respelledEntries {entries : List (String × Json)} (hs : Entries.Sorted entries)
    (h : NodeLike entries) (fresh : NodeId) :
    fillHeader fresh (respelledEntries entries) = respelledEntries entries := by
  have hsorted := sorted_respelledEntries hs
  obtain ⟨i, hi, hidentity⟩ := h.id
  have hid : filledId fresh ((Entries.get? "id" entries).map respelled) = i.respelled := by
    rw [hi]
    rcases hidentity with ⟨s, rfl⟩ | ⟨n, rfl⟩ <;> rfl
  obtain ⟨t, ht⟩ : ∃ t, Entries.get? "tier" entries = some t := by
    rw [← Option.ne_none_iff_exists', Ne, Entries.get?_eq_none_iff, not_not]
    exact h.tier
  apply Entries.ext_of_sorted (sorted_fillHeader hsorted fresh) hsorted
  intro key
  rw [fillHeader, get?_respelledEntries, get?_respelledEntries, hid, ht]
  by_cases hkeyId : key = "id"
  · rw [hkeyId, Entries.get?_insert_self, get?_respelledEntries, hi, Option.map_some]
  rw [Entries.get?_insert_of_ne hkeyId]
  by_cases hkeyTier : key = "tier"
  · rw [hkeyTier, Entries.get?_insert_self, get?_respelledEntries, ht]
    rfl
  · rw [Entries.get?_insert_of_ne hkeyTier]

/-- Beside the header every key keeps its place and what stands under it. -/
theorem get?_respelledNode {entries : List (String × Json)} {kind : Kind}
    (hkind : namedKind? entries = some kind) (fresh : NodeId) {key : String}
    (hkey : Node.isReserved key = false) :
    (respelledNode fresh (.object entries)).get? key =
      (Entries.get? key entries).map respelled := by
  obtain ⟨hid, htier, -⟩ := (Node.isReserved_eq_false_iff key).mp hkey
  rw [respelledNode, get?, hkind, get?_spellHeader, spelled_of_free kind hkey, Option.map_id',
    fillHeader, Entries.get?_insert_of_ne hid, Entries.get?_insert_of_ne htier,
    get?_respelledEntries]

end Json

/-! ## The header that is written -/

namespace Node

variable {entries : List (String × Json)}

theorem namedKind?_of_headerKind {kind : Kind} (h : headerKind entries = .ok kind) :
    Json.namedKind? entries = some kind ∧
      ∃ name, Entries.get? "type" entries = some (.string name) := by
  unfold headerKind at h
  split at h
  · next name hname =>
    split at h
    · next k hk =>
      cases h
      exact ⟨by simp [Json.namedKind?, hname, Json.asString?, hk], name, hname⟩
    · cases h
  · cases h

theorem spelledId_of_headerId? {id? : Option NodeId} (h : headerId? entries = .ok id?)
    (fresh : NodeId) :
    (Json.filledId fresh ((Entries.get? "id" entries).map Json.respelled)).spelledId =
      .string (id?.getD fresh).text := by
  unfold headerId? at h
  split at h
  · next raw hraw =>
    cases h
    rw [hraw]
    rfl
  · next n hn =>
    cases h
    rw [hn]
    rfl
  · next hnone =>
    cases h
    rw [hnone]
    rfl
  · next hnull =>
    cases h
    rw [hnull]
    rfl
  · cases h

theorem spelledTier_of_headerTier {kind : Kind} {tier : Tier}
    (h : headerTier kind entries = .ok tier) :
    (((Entries.get? "tier" entries).map Json.respelled).getD .null).spelledTier kind =
      .nat tier.toNat := by
  unfold headerTier at h
  split at h
  · next hnone =>
    cases h
    rw [hnone]
    rfl
  · next hnull =>
    cases h
    rw [hnull]
    rfl
  · next n hn =>
    split at h
    · cases h
    · next raw hraw =>
      split at h
      · next t ht =>
        cases h
        rw [hn, Tier.toNat_of_ofNat? ht, Number.eq_int_of_toNat64? hraw]
        rfl
      · cases h
  · cases h

/-- A node with this header is written as the object, with the header spelled out, if its fields are
written as the other entries. -/
theorem entries_eq_spellHeader {n : Node} {id? : Option NodeId} {fresh : NodeId}
    (hs : Entries.Sorted entries) (hsorted : Entries.Sorted n.fields)
    (hfree : ∀ e ∈ n.fields, isReserved e.1 = false)
    (hkind : headerKind entries = .ok n.kind) (hid : headerId? entries = .ok id?)
    (hfresh : n.id = id?.getD fresh) (htier : headerTier n.kind entries = .ok n.tier)
    (hwritten : Value.entriesToJson n.fields =
      Json.respelledEntries (entries.filter fun e => !isReserved e.1)) :
    n.entries = Json.spellHeader (some n.kind)
      (Json.fillHeader fresh (Json.respelledEntries entries)) := by
  apply Entries.ext_of_sorted n.sorted_entries
    (Json.sorted_spellHeader (Json.sorted_fillHeader (Json.sorted_respelledEntries hs) fresh) _)
  intro key
  rw [Json.get?_spellHeader, Json.fillHeader, Json.get?_respelledEntries,
    Json.get?_respelledEntries]
  by_cases hkeyId : key = "id"
  · subst hkeyId
    rw [get?_entries_id hsorted hfree, Entries.get?_insert_self, hfresh]
    exact congrArg some (spelledId_of_headerId? hid fresh).symm
  rw [Entries.get?_insert_of_ne hkeyId]
  by_cases hkeyTier : key = "tier"
  · subst hkeyTier
    rw [get?_entries_tier hsorted hfree, Entries.get?_insert_self]
    exact congrArg some (spelledTier_of_headerTier htier).symm
  rw [Entries.get?_insert_of_ne hkeyTier]
  by_cases hkeyType : key = "type"
  · subst hkeyType
    obtain ⟨-, name, hname⟩ := namedKind?_of_headerKind hkind
    rw [get?_entries_type hsorted hfree, Json.get?_respelledEntries, hname]
    rfl
  · -- any other key is one of a field
    have hkey := (isReserved_eq_false_iff key).mpr ⟨hkeyId, hkeyTier, hkeyType⟩
    have hfield := congrArg (Entries.get? key) ((filter_entries hsorted hfree).trans hwritten)
    rw [Entries.get?_filter (fun k => !isReserved k), Json.get?_respelledEntries,
      Entries.get?_filter (fun k => !isReserved k), hkey] at hfield
    rw [Json.spelled_of_free n.kind hkey, Option.map_id', Json.get?_respelledEntries]
    exact hfield

theorem entries_complete (hs : Entries.Sorted entries) {header : Draft}
    (hheader : Draft.header entries = .ok header) {fields : List (String × Value)}
    (hfields : Value.fieldsOfJson entries = .ok fields)
    (hwritten : Value.entriesToJson fields =
      Json.respelledEntries (entries.filter fun e => !isReserved e.1)) (fresh : NodeId) :
    (({ header with fields := fields } : Draft).complete fresh).entries =
      Json.spellHeader (Json.namedKind? entries)
        (Json.fillHeader fresh (Json.respelledEntries entries)) := by
  obtain ⟨kind, hkind, hheader⟩ := Except.bind_eq_ok_iff.mp hheader
  obtain ⟨id?, hid, hheader⟩ := Except.bind_eq_ok_iff.mp hheader
  obtain ⟨tier, htier, hheader⟩ := Except.bind_eq_ok_iff.mp hheader
  cases hheader
  -- the fields are the other entries, so they are in order and free of the header
  rw [Value.fieldsOfJson_eq] at hfields
  have hkeys := Value.keys_entriesOfJson hfields
  have hsorted : Entries.Sorted fields := by
    rw [Entries.Sorted, hkeys]
    exact Entries.sorted_filter hs _
  have hfree : ∀ e ∈ fields, isReserved e.1 = false := by
    intro e he
    have hmem : e.1 ∈ Entries.keys fields := List.mem_map_of_mem he
    rw [hkeys] at hmem
    obtain ⟨f, hf, hfe⟩ := List.mem_map.mp hmem
    simpa [hfe] using (List.mem_filter.mp hf).2
  rw [Draft.complete, ofParts_eq_mk _ _ _ hsorted hfree, (namedKind?_of_headerKind hkind).1]
  exact entries_eq_spellHeader (n := .mk _ kind tier fields) hs hsorted hfree hkind hid rfl htier
    hwritten

end Node

/-! ## All that is written -/

mutual

theorem Value.toJson_of_ofJson (j : Json) (ho : j.Ordered) {v : Value}
    (h : Value.ofJson j = .ok v) : v.toJson = j.respelled := by
  match j with
  | .null | .bool _ | .number _ | .string _ =>
      cases h
      rfl
  | .array items =>
      rw [Json.Ordered] at ho
      obtain ⟨vs, hvs, h⟩ := Except.bind_eq_ok_iff.mp (by simpa only [Value.ofJson] using h)
      cases h
      rw [Value.toJson, Json.respelled, Value.itemsToJson_of_itemsOfJson items ho hvs]
  | .object entries =>
      rw [Json.Ordered] at ho
      rw [Json.respelled]
      simp only [Value.ofJson] at h
      split at h
      · next hlike =>
        obtain ⟨header, hheader, h⟩ := Except.bind_eq_ok_iff.mp h
        obtain ⟨fields, hfields, h⟩ := Except.bind_eq_ok_iff.mp h
        cases h
        have hwritten := Value.entriesToJson_of_fieldsOfJson entries ho.2 hfields
        rw [Json.looksLikeNode_eq_true_iff] at hlike
        rw [Value.toJson, Node.toJson_eq, Node.entries_complete ho.1 hheader hfields hwritten,
          Json.fillHeader_respelledEntries ho.1 hlike, if_pos hlike]
      · next hplain =>
        obtain ⟨vs, hvs, h⟩ := Except.bind_eq_ok_iff.mp h
        cases h
        rw [Json.looksLikeNode_eq_true_iff] at hplain
        rw [Value.toJson, Value.entriesToJson_of_entriesOfJson entries ho.2 hvs, if_neg hplain]
        rfl

theorem Value.itemsToJson_of_itemsOfJson (items : List Json) (ho : Json.OrderedItems items)
    {vs : List Value} (h : Value.itemsOfJson items = .ok vs) :
    Value.itemsToJson vs = Json.respelledItems items := by
  match items with
  | [] =>
      cases h
      rfl
  | j :: js =>
      rw [Json.OrderedItems] at ho
      obtain ⟨v, hv, h⟩ := Except.bind_eq_ok_iff.mp (by simpa only [Value.itemsOfJson] using h)
      obtain ⟨us, hus, h⟩ := Except.bind_eq_ok_iff.mp h
      cases h
      rw [Value.itemsToJson, Json.respelledItems, Value.toJson_of_ofJson j ho.1 hv,
        Value.itemsToJson_of_itemsOfJson js ho.2 hus]

theorem Value.entriesToJson_of_entriesOfJson (entries : List (String × Json))
    (ho : Json.OrderedEntries entries) {vs : List (String × Value)}
    (h : Value.entriesOfJson entries = .ok vs) :
    Value.entriesToJson vs = Json.respelledEntries entries := by
  match entries with
  | [] =>
      cases h
      rfl
  | (key, j) :: es =>
      rw [Json.OrderedEntries] at ho
      obtain ⟨v, hv, h⟩ := Except.bind_eq_ok_iff.mp (by simpa only [Value.entriesOfJson] using h)
      obtain ⟨us, hus, h⟩ := Except.bind_eq_ok_iff.mp h
      cases h
      rw [Value.entriesToJson, Json.respelledEntries, Value.toJson_of_ofJson j ho.1 hv,
        Value.entriesToJson_of_entriesOfJson es ho.2 hus]

theorem Value.entriesToJson_of_fieldsOfJson (entries : List (String × Json))
    (ho : Json.OrderedEntries entries) {fields : List (String × Value)}
    (h : Value.fieldsOfJson entries = .ok fields) :
    Value.entriesToJson fields =
      Json.respelledEntries (entries.filter fun e => !Node.isReserved e.1) := by
  match entries with
  | [] =>
      cases h
      rfl
  | (key, j) :: es =>
      rw [Json.OrderedEntries] at ho
      rw [List.filter_cons]
      simp only [Value.fieldsOfJson] at h
      split at h
      · next hkey =>
        rw [if_neg (by simp [hkey])]
        exact Value.entriesToJson_of_fieldsOfJson es ho.2 h
      · next hkey =>
        obtain ⟨v, hv, h⟩ := Except.bind_eq_ok_iff.mp h
        obtain ⟨us, hus, h⟩ := Except.bind_eq_ok_iff.mp h
        cases h
        rw [if_pos (by simp [hkey]), Value.entriesToJson, Json.respelledEntries,
          Value.toJson_of_ofJson j ho.1 hv, Value.entriesToJson_of_fieldsOfJson es ho.2 hus]

end

/-- A decoded node is encoded as its data with the headers respelled and nothing else changed, and
what is written so is decoded as the node again. -/
theorem Node.toJson_eq_respelledNode {j : Json} (ho : j.Ordered) {fresh : NodeId} {n : Node}
    (h : Node.ofJson fresh j = .ok n) :
    n.toJson = j.respelledNode fresh ∧
      (∀ key, Node.isReserved key = false →
        n.toJson.get? key = (j.get? key).map Json.respelled) ∧
      ∀ other, Node.ofJson other n.toJson = .ok n := by
  obtain ⟨hregular, hundisguised⟩ := Hereditary.sound.node_ofJson ho
    (fun m _ => ⟨Value.regular_number m, Value.undisguised_scalar rfl⟩) h
  rw [Value.regular_node_iff] at hregular
  have hagain := n.ofJson_toJson hregular hundisguised
  obtain ⟨d, hd, h⟩ := Except.bind_eq_ok_iff.mp h
  cases h
  cases j with
  | object entries =>
      rw [Json.Ordered] at ho
      obtain ⟨header, hheader, hd⟩ :=
        Except.bind_eq_ok_iff.mp (by simpa only [Draft.ofJson] using hd)
      obtain ⟨fields, hfields, hd⟩ := Except.bind_eq_ok_iff.mp hd
      cases hd
      have hwritten := Value.entriesToJson_of_fieldsOfJson entries ho.2 hfields
      have hrespelled : (({ header with fields := fields } : Draft).complete fresh).toJson =
          (Json.object entries).respelledNode fresh := by
        rw [Node.toJson_eq, Node.entries_complete ho.1 hheader hfields hwritten fresh]
        rfl
      obtain ⟨kind, hkind, -⟩ := Except.bind_eq_ok_iff.mp hheader
      refine ⟨hrespelled, ?_, hagain⟩
      intro key hkey
      rw [hrespelled, Json.get?_respelledNode (Node.namedKind?_of_headerKind hkind).1 fresh hkey]
      rfl
  | null | bool _ | number _ | string _ | array _ => cases hd

/-- A branch without an identity and a tier, by its short name. In its field, a statement has a
number for an identity and null for a tier, and the object in it is of no known kind. -/
def Json.sampleSpelling : Json :=
  .object [("then", .array [.object [("id", .int 7),
    ("note", .object [("id", .int 8), ("tier", .null), ("type", .string "x")]),
    ("tier", .null), ("type", .string "return")]]), ("type", .string "if")]

def Node.sampleSpelling : Node :=
  .mk ⟨"b1"⟩ .ifStatement Kind.ifStatement.tier [("then", .list [.node (.mk ⟨"7"⟩ .returnStatement
    Kind.returnStatement.tier [("note", .object [("id", .number (.int 8)), ("tier", .null),
      ("type", .text "x")])])])]

theorem Node.toJson_sampleSpelling :
    Json.sampleSpelling.Ordered ∧
      Node.ofJson ⟨"b1"⟩ Json.sampleSpelling = .ok Node.sampleSpelling ∧
      Node.sampleSpelling.toJson = Json.sampleSpelling.respelledNode ⟨"b1"⟩ ∧
      Node.ofJson ⟨"b2"⟩ Node.sampleSpelling.toJson = .ok Node.sampleSpelling := by
  have hbranch : ["then", "type"].Pairwise (· < ·) := by decide
  have hitem : ["id", "note", "tier", "type"].Pairwise (· < ·) := by decide
  have hnote : ["id", "tier", "type"].Pairwise (· < ·) := by decide
  have ho : Json.sampleSpelling.Ordered :=
    ⟨hbranch, ⟨⟨⟨hitem, trivial, ⟨hnote, trivial, trivial, trivial, trivial⟩, trivial, trivial,
      trivial⟩, trivial⟩, trivial, trivial⟩⟩
  have hread : Node.ofJson ⟨"b1"⟩ Json.sampleSpelling = .ok Node.sampleSpelling := by
    rfl
  obtain ⟨hwritten, -, hagain⟩ := Node.toJson_eq_respelledNode ho hread
  exact ⟨ho, hread, hwritten, hagain ⟨"b2"⟩⟩

example : Json.sampleSpelling.respelledNode ⟨"b1"⟩ =
    .object [("id", .string "b1"), ("then", .array [.object [("id", .string "7"),
      ("note", .object [("id", .int 8), ("tier", .null), ("type", .string "x")]),
      ("tier", .int 0), ("type", .string "ReturnStatement")]]),
      ("tier", .int 0), ("type", .string "IfStatement")] := rfl

end HandlerStudio
