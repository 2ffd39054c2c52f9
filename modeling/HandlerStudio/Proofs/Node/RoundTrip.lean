import HandlerStudio.Proofs.Node.Decoded
import HandlerStudio.Proofs.Node.Same
import HandlerStudio.Proofs.Node.Shape

/-!
# Decoding what was encoded

Values and nodes that are encoded and decoded again come back as they were exactly when they hold no
plain object shaped like a node. The decoder goes by shape alone, so such an object comes back as a
node or is refused; everything else keeps its kind.
-/

namespace HandlerStudio

/-! ## Regular values

Every value built by the constructors has its keys in order and no field named like a part of the
header. -/

/-- Keys are in order, and no field of a node is named like a part of the header. -/
structure Value.Regular (v : Value) : Prop where
  ordered : v.Ordered
  headerFree : ∀ m ∈ v.subtree, ∀ e ∈ m.fields, Node.isReserved e.1 = false

structure Node.Regular (n : Node) : Prop where
  ordered : n.Ordered
  headerFree : ∀ m ∈ n.subtree, ∀ e ∈ m.fields, Node.isReserved e.1 = false

@[simp] theorem Value.regular_null : Value.null.Regular := ⟨by simp [Value.Ordered], by simp⟩

@[simp] theorem Value.regular_bool (b : Bool) : (Value.bool b).Regular :=
  ⟨by simp [Value.Ordered], by simp⟩

@[simp] theorem Value.regular_number (n : Number) : (Value.number n).Regular :=
  ⟨by simp [Value.Ordered], by simp⟩

@[simp] theorem Value.regular_text (s : String) : (Value.text s).Regular :=
  ⟨by simp [Value.Ordered], by simp⟩

theorem Value.regular_node_iff (n : Node) : (Value.node n).Regular ↔ n.Regular := by
  constructor
  · rintro ⟨ho, hh⟩
    exact ⟨by simpa [Value.Ordered] using ho, hh⟩
  · rintro ⟨ho, hh⟩
    exact ⟨by simpa [Value.Ordered] using ho, hh⟩

theorem Value.regular_list_iff (items : List Value) :
    (Value.list items).Regular ↔ ∀ v ∈ items, v.Regular := by
  constructor
  · rintro ⟨ho, hh⟩ v hv
    rw [Value.Ordered, Value.orderedItems_iff] at ho
    refine ⟨ho v hv, fun m hm => hh m ?_⟩
    rw [Value.subtree_list]
    exact List.mem_flatMap_of_mem hv hm
  · intro h
    refine ⟨?_, ?_⟩
    · rw [Value.Ordered, Value.orderedItems_iff]
      exact fun v hv => (h v hv).ordered
    · intro m hm
      rw [Value.subtree_list] at hm
      obtain ⟨v, hv, hmv⟩ := List.mem_flatMap.mp hm
      exact (h v hv).headerFree m hmv

theorem Value.regular_object_iff (entries : List (String × Value)) :
    (Value.object entries).Regular ↔
      Entries.Sorted entries ∧ ∀ e ∈ entries, e.2.Regular := by
  constructor
  · rintro ⟨ho, hh⟩
    rw [Value.Ordered, Value.orderedEntries_iff] at ho
    refine ⟨ho.1, fun e he => ⟨ho.2 e he, fun m hm => hh m ?_⟩⟩
    rw [Value.subtree_object]
    exact List.mem_flatMap.mpr ⟨e, he, hm⟩
  · rintro ⟨hs, h⟩
    refine ⟨?_, ?_⟩
    · rw [Value.Ordered, Value.orderedEntries_iff]
      exact ⟨hs, fun e he => (h e he).ordered⟩
    · intro m hm
      rw [Value.subtree_object] at hm
      obtain ⟨e, he, hme⟩ := List.mem_flatMap.mp hm
      exact (h e he).headerFree m hme

theorem Node.regular_iff (n : Node) :
    n.Regular ↔ Entries.Sorted n.fields ∧ (∀ e ∈ n.fields, Node.isReserved e.1 = false) ∧
      ∀ e ∈ n.fields, e.2.Regular := by
  obtain ⟨id, kind, tier, fields⟩ := n
  constructor
  · rintro ⟨ho, hh⟩
    rw [Node.ordered_iff] at ho
    rw [Node.subtree_mk, List.forall_mem_cons] at hh
    refine ⟨ho.1, hh.1, fun e he => ⟨ho.2 e he, fun m hm => hh.2 m ?_⟩⟩
    exact List.mem_flatMap.mpr ⟨e, he, hm⟩
  · rintro ⟨hs, hfree, h⟩
    refine ⟨?_, ?_⟩
    · rw [Node.ordered_iff]
      exact ⟨hs, fun e he => (h e he).ordered⟩
    · rw [Node.subtree_mk, List.forall_mem_cons]
      refine ⟨hfree, fun m hm => ?_⟩
      obtain ⟨e, he, hme⟩ := List.mem_flatMap.mp hm
      exact (h e he).headerFree m hme

/-! ## The encoded node -/

namespace Value

theorem entriesToJson_eq_map (entries : List (String × Value)) :
    entriesToJson entries = entries.map fun e => (e.1, e.2.toJson) := by
  induction entries with
  | nil => rfl
  | cons e es ih => obtain ⟨k, v⟩ := e; simp [entriesToJson, ih]

theorem sorted_entriesToJson {entries : List (String × Value)} (h : Entries.Sorted entries) :
    Entries.Sorted (entriesToJson entries) := by
  have hkeys : Entries.keys (entriesToJson entries) = Entries.keys entries := by
    simp [entriesToJson_eq_map, Entries.keys]
  rw [Entries.Sorted, hkeys]
  exact h

theorem get?_entriesToJson (key : String) (entries : List (String × Value)) :
    Entries.get? key (entriesToJson entries) = (Entries.get? key entries).map toJson := by
  rw [entriesToJson_eq_map, Entries.get?_map]

/-- The two tests for the shape of a node agree. -/
theorem looksLikeNode_entriesToJson (entries : List (String × Value)) :
    Json.looksLikeNode (entriesToJson entries) = nodeShaped entries := by
  -- a text stays a text and a number a number, and nothing else becomes one
  rw [Json.looksLikeNode, nodeShaped]
  refine congrArg₂ and (congrArg₂ and ?_ ?_) ?_
  · rw [get?_entriesToJson]
    cases Entries.get? "type" entries with
    | none => rfl
    | some v => cases v with
      | node n => cases n; rfl
      | null | bool _ | number _ | text _ | list _ | object _ => rfl
  · rw [get?_entriesToJson]
    cases Entries.get? "id" entries with
    | none => rfl
    | some v => cases v with
      | node n => cases n; rfl
      | null | bool _ | number _ | text _ | list _ | object _ => rfl
  · simp [Entries.has, get?_entriesToJson]

/-- Passing over the header is reading the other entries. -/
theorem fieldsOfJson_eq (entries : List (String × Json)) :
    fieldsOfJson entries = entriesOfJson (entries.filter fun e => !Node.isReserved e.1) := by
  induction entries with
  | nil => rfl
  | cons e es ih =>
      obtain ⟨k, j⟩ := e
      cases hk : Node.isReserved k with
      | true => simp [fieldsOfJson, hk, ih]
      | false => simp [fieldsOfJson, entriesOfJson, hk, ih]

end Value

namespace Node

/-- The entries that a node is encoded as. -/
def entries (n : Node) : List (String × Json) :=
  (Value.entriesToJson n.fields).foldl (fun es e => Entries.insert e.1 e.2 es)
    [("id", .string n.id.text), ("tier", .nat n.tier.toNat), ("type", .string n.kind.typeName)]

theorem toJson_eq (n : Node) : n.toJson = .object n.entries := by
  cases n
  rfl

theorem isReserved_eq_false_iff (key : String) :
    isReserved key = false ↔ key ≠ "id" ∧ key ≠ "tier" ∧ key ≠ "type" := by
  simp only [isReserved, reservedKeys, List.contains_eq_mem, List.mem_cons, List.not_mem_nil,
    or_false, decide_eq_false_iff_not, not_or]
  tauto

theorem sorted_entries (n : Node) : Entries.Sorted n.entries := by
  have hheader : ["id", "tier", "type"].Pairwise (· < ·) := by decide
  apply Entries.sorted_foldl_insert
  exact hheader

section

variable {n : Node} (hs : Entries.Sorted n.fields)
  (hfree : ∀ e ∈ n.fields, isReserved e.1 = false)

include hfree in
theorem get?_fields_of_reserved {key : String} (h : isReserved key = true) :
    Entries.get? key n.fields = none := by
  rw [Entries.get?_eq_none_iff]
  intro hmem
  obtain ⟨e, he, rfl⟩ := List.mem_map.mp hmem
  simp [hfree e he] at h

include hs

theorem get?_entries (key : String) :
    Entries.get? key n.entries = ((Entries.get? key n.fields).map Value.toJson).or
      (Entries.get? key [("id", .string n.id.text), ("tier", .nat n.tier.toNat),
        ("type", .string n.kind.typeName)]) := by
  rw [entries, Entries.get?_foldl_insert (Value.sorted_entriesToJson hs),
    Value.get?_entriesToJson]

include hfree

theorem get?_entries_id : Entries.get? "id" n.entries = some (.string n.id.text) := by
  rw [get?_entries hs, get?_fields_of_reserved hfree (by decide)]
  rfl

theorem get?_entries_tier : Entries.get? "tier" n.entries = some (.nat n.tier.toNat) := by
  rw [get?_entries hs, get?_fields_of_reserved hfree (by decide)]
  rfl

theorem get?_entries_type : Entries.get? "type" n.entries = some (.string n.kind.typeName) := by
  rw [get?_entries hs, get?_fields_of_reserved hfree (by decide)]
  rfl

/-- Beside the header, the entries are the encoded fields. -/
theorem filter_entries :
    (n.entries.filter fun e => !isReserved e.1) = Value.entriesToJson n.fields := by
  -- lists in key order are told apart by looking keys up
  refine Entries.ext_of_sorted (Entries.sorted_filter n.sorted_entries _)
    (Value.sorted_entriesToJson hs) ?_
  intro key
  rw [Entries.get?_filter (fun k => !isReserved k), get?_entries hs, Value.get?_entriesToJson]
  cases hkey : isReserved key with
  | true => simp [get?_fields_of_reserved hfree hkey]
  | false =>
      have hnot := (isReserved_eq_false_iff key).mp hkey
      simp [Entries.get?, hnot.1.symm, hnot.2.1.symm, hnot.2.2.symm]

theorem looksLikeNode_entries : Json.looksLikeNode n.entries = true := by
  simp [Json.looksLikeNode, get?_entries_type hs hfree, get?_entries_id hs hfree, Entries.has,
    get?_entries_tier hs hfree]

theorem header_entries : Draft.header n.entries = .ok ⟨some n.id, n.kind, n.tier, []⟩ := by
  simp [Draft.header, headerKind, headerId?, headerTier, get?_entries_type hs hfree,
    get?_entries_id hs hfree, get?_entries_tier hs hfree, Json.nat, Number.toNat64?]
  rfl

/-- Decoding an encoded node decodes its fields one by one and keeps the header. -/
theorem draft_ofJson_toJson :
    Draft.ofJson n.toJson =
      (Value.entriesOfJson (Value.entriesToJson n.fields)).map
        fun fields => ⟨some n.id, n.kind, n.tier, fields⟩ := by
  rw [toJson_eq, Draft.ofJson, header_entries hs hfree, Value.fieldsOfJson_eq,
    filter_entries hs hfree]
  rfl

theorem value_ofJson_toJson :
    Value.ofJson n.toJson = (Draft.ofJson n.toJson).map fun d => .node (d.complete ⟨""⟩) := by
  rw [toJson_eq, Value.ofJson, if_pos (looksLikeNode_entries hs hfree), Draft.ofJson,
    header_entries hs hfree]
  cases Value.fieldsOfJson n.entries <;> rfl

end

theorem ofParts_eq_mk (id : NodeId) (kind : Kind) (tier : Tier) {fields : List (String × Value)}
    (hs : Entries.Sorted fields) (hfree : ∀ e ∈ fields, isReserved e.1 = false) :
    ofParts id kind tier fields = .mk id kind tier fields := by
  have hall : (fields.filter fun e => !isReserved e.1) = fields :=
    List.filter_eq_self.mpr fun e he => by simp [hfree e he]
  rw [ofParts, hall, Entries.ofList_eq_self hs]

end Node

/-! ## What comes back -/

mutual

theorem Value.ofJson_toJson (v : Value) (hr : v.Regular) (hu : v.Undisguised) :
    Value.ofJson v.toJson = .ok v := by
  match v with
  | .null | .bool _ | .number _ | .text _ => rfl
  | .node n =>
      rw [Value.regular_node_iff] at hr
      obtain ⟨hs, hfree, -⟩ := n.regular_iff.mp hr
      rw [Value.toJson, Node.value_ofJson_toJson hs hfree, Node.draft_of_toJson n hr hu]
      simp [Except.map, Draft.complete, Node.ofParts_eq_mk _ _ _ hs hfree]
  | .list items =>
      rw [Value.toJson, Value.ofJson, Value.itemsOfJson_itemsToJson items
        ((Value.regular_list_iff items).mp hr) ((Value.undisguised_list_iff items).mp hu)]
      rfl
  | .object entries =>
      rw [Value.regular_object_iff] at hr
      rw [Value.undisguised_object_iff] at hu
      rw [Value.toJson, Value.ofJson, Value.looksLikeNode_entriesToJson, hu.1,
        Value.entriesOfJson_entriesToJson entries hr.2 hu.2]
      rfl

theorem Node.draft_of_toJson (n : Node) (hr : n.Regular) (hu : n.Undisguised) :
    Draft.ofJson n.toJson = .ok ⟨some n.id, n.kind, n.tier, n.fields⟩ := by
  match n with
  | .mk id kind tier fields =>
      obtain ⟨hs, hfree, hfields⟩ := (Node.regular_iff _).mp hr
      rw [Node.undisguised_mk_iff] at hu
      rw [Node.draft_ofJson_toJson hs hfree, Node.fields,
        Value.entriesOfJson_entriesToJson fields hfields hu]
      rfl

theorem Value.itemsOfJson_itemsToJson (items : List Value) (hr : ∀ v ∈ items, v.Regular)
    (hu : ∀ v ∈ items, v.Undisguised) :
    Value.itemsOfJson (Value.itemsToJson items) = .ok items := by
  match items with
  | [] => rfl
  | v :: vs =>
      rw [List.forall_mem_cons] at hr hu
      rw [Value.itemsToJson, Value.itemsOfJson, Value.ofJson_toJson v hr.1 hu.1,
        Value.itemsOfJson_itemsToJson vs hr.2 hu.2]
      rfl

theorem Value.entriesOfJson_entriesToJson (entries : List (String × Value))
    (hr : ∀ e ∈ entries, e.2.Regular) (hu : ∀ e ∈ entries, e.2.Undisguised) :
    Value.entriesOfJson (Value.entriesToJson entries) = .ok entries := by
  match entries with
  | [] => rfl
  | (k, v) :: es =>
      rw [List.forall_mem_cons] at hr hu
      rw [Value.entriesToJson, Value.entriesOfJson, Value.ofJson_toJson v hr.1 hu.1,
        Value.entriesOfJson_entriesToJson es hr.2 hu.2]
      rfl

end

/-! ## What must have been there

The decoder takes an object shaped like a node for a node. So where a plain object comes back plain,
it had another shape. -/

mutual

theorem Value.undisguised_of_ofJson (v : Value) (hr : v.Regular) {w : Value}
    (h : Value.ofJson v.toJson = .ok w) (hsame : w.same v = true) : v.Undisguised := by
  match v with
  | .null | .bool _ | .number _ | .text _ => exact Value.undisguised_scalar rfl
  | .node n =>
      rw [Value.regular_node_iff] at hr
      obtain ⟨hs, hfree, -⟩ := n.regular_iff.mp hr
      rw [Value.toJson, Node.value_ofJson_toJson hs hfree] at h
      cases hd : Draft.ofJson n.toJson with
      | error e => simp [hd, Except.map] at h
      | ok d =>
          simp only [hd, Except.map] at h
          cases h
          exact Node.undisguised_of_draft n hr hd (by simpa only [Value.same] using hsame)
  | .list items =>
      obtain ⟨ws, hws, h⟩ := Except.bind_eq_ok_iff.mp
        (by simpa only [Value.toJson, Value.ofJson] using h)
      cases h
      rw [Value.undisguised_list_iff]
      exact Value.undisguised_of_itemsOfJson items ((Value.regular_list_iff items).mp hr) hws
        (by simpa only [Value.same] using hsame)
  | .object entries =>
      rw [Value.regular_object_iff] at hr
      rw [Value.undisguised_object_iff]
      simp only [Value.toJson, Value.ofJson, Value.looksLikeNode_entriesToJson] at h
      split at h
      · -- a node came back, and no node is a plain object
        obtain ⟨header, -, h⟩ := Except.bind_eq_ok_iff.mp h
        obtain ⟨fields, -, h⟩ := Except.bind_eq_ok_iff.mp h
        cases h
        simp [Value.same] at hsame
      · rename_i hshape
        obtain ⟨ws, hws, h⟩ := Except.bind_eq_ok_iff.mp h
        cases h
        exact ⟨by simpa using hshape, Value.undisguised_of_entriesOfJson entries hr.2 hws
          (by simpa only [Value.same] using hsame)⟩

theorem Node.undisguised_of_draft (n : Node) (hr : n.Regular) {d : Draft} {fresh : NodeId}
    (h : Draft.ofJson n.toJson = .ok d) (hsame : (d.complete fresh).same n = true) :
    n.Undisguised := by
  match n with
  | .mk id kind tier fields =>
      obtain ⟨hs, hfree, hfields⟩ := (Node.regular_iff _).mp hr
      rw [Node.draft_ofJson_toJson hs hfree] at h
      cases hes : Value.entriesOfJson (Value.entriesToJson fields) with
      | error e => simp [Node.fields, hes, Except.map] at h
      | ok es =>
          simp only [Node.fields, hes, Except.map] at h
          cases h
          -- decoding keeps the keys, so completing the draft leaves its fields as they are
          have hkeys : Entries.keys es = Entries.keys fields := by
            rw [Value.keys_entriesOfJson hes, Value.entriesToJson_eq_map]
            simp [Entries.keys]
          have hsorted : Entries.Sorted es := by rw [Entries.Sorted, hkeys]; exact hs
          have hclear : ∀ e ∈ es, Node.isReserved e.1 = false := by
            intro e he
            have hk : e.1 ∈ Entries.keys fields := hkeys ▸ List.mem_map_of_mem he
            obtain ⟨f, hf, hfe⟩ := List.mem_map.mp hk
            exact hfe ▸ hfree f hf
          rw [Draft.complete, Node.ofParts_eq_mk _ _ _ hsorted hclear] at hsame
          simp only [Node.same, Bool.and_eq_true] at hsame
          rw [Node.undisguised_mk_iff]
          exact Value.undisguised_of_entriesOfJson fields hfields hes hsame.2

theorem Value.undisguised_of_itemsOfJson (items : List Value) (hr : ∀ v ∈ items, v.Regular)
    {ws : List Value} (h : Value.itemsOfJson (Value.itemsToJson items) = .ok ws)
    (hsame : Value.sameItems ws items = true) : ∀ v ∈ items, v.Undisguised := by
  match items with
  | [] => simp
  | v :: vs =>
      rw [List.forall_mem_cons] at hr
      obtain ⟨w, hw, h⟩ := Except.bind_eq_ok_iff.mp
        (by simpa only [Value.itemsToJson, Value.itemsOfJson] using h)
      obtain ⟨us, hus, h⟩ := Except.bind_eq_ok_iff.mp h
      cases h
      simp only [Value.sameItems, Bool.and_eq_true] at hsame
      exact List.forall_mem_cons.mpr ⟨Value.undisguised_of_ofJson v hr.1 hw hsame.1,
        Value.undisguised_of_itemsOfJson vs hr.2 hus hsame.2⟩

theorem Value.undisguised_of_entriesOfJson (entries : List (String × Value))
    (hr : ∀ e ∈ entries, e.2.Regular) {ws : List (String × Value)}
    (h : Value.entriesOfJson (Value.entriesToJson entries) = .ok ws)
    (hsame : Value.sameEntries ws entries = true) : ∀ e ∈ entries, e.2.Undisguised := by
  match entries with
  | [] => simp
  | (k, v) :: es =>
      rw [List.forall_mem_cons] at hr
      obtain ⟨w, hw, h⟩ := Except.bind_eq_ok_iff.mp
        (by simpa only [Value.entriesToJson, Value.entriesOfJson] using h)
      obtain ⟨us, hus, h⟩ := Except.bind_eq_ok_iff.mp h
      cases h
      simp only [Value.sameEntries, Bool.and_eq_true] at hsame
      exact List.forall_mem_cons.mpr ⟨Value.undisguised_of_ofJson v hr.1 hw hsame.1.2,
        Value.undisguised_of_entriesOfJson es hr.2 hus hsame.2⟩

end

/-! ## The exact condition -/

theorem Node.ofJson_toJson (n : Node) (hr : n.Regular) (hu : n.Undisguised) (fresh : NodeId) :
    Node.ofJson fresh n.toJson = .ok n := by
  obtain ⟨hs, hfree, -⟩ := n.regular_iff.mp hr
  rw [Node.ofJson, Node.draft_of_toJson n hr hu]
  exact congrArg Except.ok ((Node.ofParts_eq_mk _ _ _ hs hfree).trans n.eta)

theorem Node.undisguised_of_ofJson (n : Node) (hr : n.Regular) {fresh : NodeId} {m : Node}
    (h : Node.ofJson fresh n.toJson = .ok m) (hsame : m.same n = true) : n.Undisguised := by
  obtain ⟨d, hd, h⟩ := Except.bind_eq_ok_iff.mp h
  cases h
  exact Node.undisguised_of_draft n hr hd hsame

/-- A value or a node comes back from its encoding, exactly or up to the sign of zero, if and only
if it holds no plain object shaped like a node, and this is what the guard finds, asked at every
node. -/
theorem Node.decoded_eq_iff_undisguised :
    (∀ v : Value, v.Regular →
      (Value.ofJson v.toJson = .ok v ↔ v.Undisguised) ∧
      ((∃ w, Value.ofJson v.toJson = .ok w ∧ (w == v) = true) ↔ v.Undisguised) ∧
      (v.Undisguised ↔ v.holdsNodeShape = false ∧ ∀ m ∈ v.subtree, m.Guarded)) ∧
    ∀ n : Node, n.Regular → ∀ fresh : NodeId,
      (Node.ofJson fresh n.toJson = .ok n ↔ n.Undisguised) ∧
      ((∃ m, Node.ofJson fresh n.toJson = .ok m ∧ (m == n) = true) ↔ n.Undisguised) ∧
      (n.Undisguised ↔ ∀ m ∈ n.subtree, m.Guarded) := by
  constructor
  · intro v hr
    refine ⟨⟨fun h => v.undisguised_of_ofJson hr h v.same_refl, v.ofJson_toJson hr⟩, ⟨?_, ?_⟩,
      v.undisguised_iff_guarded⟩
    · rintro ⟨w, hw, hsame⟩
      exact v.undisguised_of_ofJson hr hw hsame
    · intro hu
      exact ⟨v, v.ofJson_toJson hr hu, v.same_refl⟩
  · intro n hr fresh
    refine ⟨⟨fun h => n.undisguised_of_ofJson hr h n.same_refl,
      fun hu => n.ofJson_toJson hr hu fresh⟩, ⟨?_, ?_⟩, n.undisguised_iff_guarded⟩
    · rintro ⟨m, hm, hsame⟩
      exact n.undisguised_of_ofJson hr hm hsame
    · intro hu
      exact ⟨n, n.ofJson_toJson hr hu fresh, n.same_refl⟩

/-- A branch at a tier that is not that of its kind, with an item in a list in an object. -/
def Node.sampleBranch (item : Value) : Node :=
  .mk ⟨"b1"⟩ .ifStatement .native
    [("note", .object [("seen", .list [item, .null])]), ("then", .list [])]

theorem Node.regular_sampleBranch {item : Value} (h : item.Regular) :
    (Node.sampleBranch item).Regular := by
  have hnote : (Value.object [("seen", .list [item, .null])]).Regular := by
    rw [Value.regular_object_iff]
    exact ⟨List.pairwise_singleton _ _, by simp [Value.regular_list_iff, h]⟩
  have hkeys : ["note", "then"].Pairwise (· < ·) := by decide
  refine (Node.regular_iff _).mpr ⟨hkeys, ?_, ?_⟩
  · simp [sampleBranch, Node.fields, isReserved, reservedKeys]
  · simp [sampleBranch, Node.fields, Value.regular_list_iff, hnote]

theorem Node.undisguised_sampleBranch_iff (item : Value) :
    (Node.sampleBranch item).Undisguised ↔ item.Undisguised := by
  have hnull : Value.null.Undisguised := Value.undisguised_scalar rfl
  have hshape : Value.nodeShaped [("seen", .list [item, .null])] = false := rfl
  simp [sampleBranch, Node.undisguised_mk_iff, Value.undisguised_list_iff,
    Value.undisguised_object_iff, hnull, hshape]

/-- The branch keeps its tier and a statement deep in it, but not a plain object in its place that
goes by the short name of a kind. -/
theorem Node.decoded_sampleBranch :
    Value.ofJson
        (Value.node (sampleBranch (.node (.mk ⟨"b2"⟩ .returnStatement .domain [])))).toJson =
        .ok (.node (sampleBranch (.node (.mk ⟨"b2"⟩ .returnStatement .domain [])))) ∧
      Node.ofJson ⟨"b3"⟩ (sampleBranch (.object [("id", .text "b2"), ("tier", .null),
        ("type", .text "return")])).toJson ≠
        .ok (sampleBranch (.object [("id", .text "b2"), ("tier", .null),
          ("type", .text "return")])) := by
  constructor
  · have hitem : (Value.node (.mk ⟨"b2"⟩ .returnStatement .domain [])).Regular := by
      rw [Value.regular_node_iff, Node.regular_iff]
      exact ⟨List.Pairwise.nil, nofun, nofun⟩
    have hr := (Value.regular_node_iff _).mpr (regular_sampleBranch hitem)
    refine (decoded_eq_iff_undisguised.1 _ hr).1.mpr ?_
    rw [Value.undisguised_node_iff, undisguised_sampleBranch_iff]
    exact Value.undisguised_scalar rfl
  · have hitem : (Value.object [("id", .text "b2"), ("tier", .null),
        ("type", .text "return")]).Regular := by
      have hkeys : ["id", "tier", "type"].Pairwise (· < ·) := by decide
      exact (Value.regular_object_iff _).mpr ⟨hkeys, by simp⟩
    rw [Ne, (decoded_eq_iff_undisguised.2 _ (regular_sampleBranch hitem) _).1,
      undisguised_sampleBranch_iff, Value.undisguised_object_iff]
    intro h
    exact absurd h.1 (by decide)

end HandlerStudio
