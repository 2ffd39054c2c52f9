import HandlerStudio.Proofs.Json.Genuine
import HandlerStudio.Proofs.Node.RoundTrip

/-!
# Properties of all parts

A hereditary property is decided part by part. It wants keys in order, and it may forbid fields
named like a part of the header and plain objects shaped like a node, but no other names and shapes.
Such a property stays with a node when a field is set. What is decoded has it, since decoding leaves
no header among the fields and no plain object shaped like a node.
-/

namespace HandlerStudio

/-- The property holds of a whole exactly if the keys are in order and as asked for, and it holds of
the parts. -/
structure Hereditary (header shape : Bool → Prop) (P : Value → Prop) : Prop where
  header_false : header false
  shape_false : shape false
  null : P .null
  bool : ∀ b, P (.bool b)
  text : ∀ s, P (.text s)
  node_iff : ∀ n : Node, P (.node n) ↔ Entries.Sorted n.fields ∧
    (∀ e ∈ n.fields, header (Node.isReserved e.1)) ∧ ∀ e ∈ n.fields, P e.2
  list_iff : ∀ items : List Value, P (.list items) ↔ ∀ v ∈ items, P v
  object_iff : ∀ entries : List (String × Value), P (.object entries) ↔
    Entries.Sorted entries ∧ shape (Value.nodeShaped entries) ∧ ∀ e ∈ entries, P e.2

namespace Hereditary

theorem ordered : Hereditary (fun _ => True) (fun _ => True) Value.Ordered where
  header_false := trivial
  shape_false := trivial
  null := by simp [Value.Ordered]
  bool b := by simp [Value.Ordered]
  text s := by simp [Value.Ordered]
  node_iff n := by simp [Value.Ordered, Node.ordered_iff]
  list_iff items := by rw [Value.Ordered, Value.orderedItems_iff]
  object_iff entries := by simp [Value.Ordered, Value.orderedEntries_iff]

theorem regular : Hereditary (· = false) (fun _ => True) Value.Regular where
  header_false := rfl
  shape_false := trivial
  null := Value.regular_null
  bool := Value.regular_bool
  text := Value.regular_text
  node_iff n := (Value.regular_node_iff n).trans n.regular_iff
  list_iff := Value.regular_list_iff
  object_iff entries := by simp [Value.regular_object_iff]

theorem sound : Hereditary (· = false) (· = false) fun v => v.Regular ∧ v.Undisguised where
  header_false := rfl
  shape_false := rfl
  null := ⟨Value.regular_null, Value.undisguised_scalar rfl⟩
  bool b := ⟨Value.regular_bool b, Value.undisguised_scalar rfl⟩
  text s := ⟨Value.regular_text s, Value.undisguised_scalar rfl⟩
  node_iff := by
    rintro ⟨id, kind, tier, fields⟩
    rw [Value.regular_node_iff, Node.regular_iff, Value.undisguised_node_iff,
      Node.undisguised_mk_iff]
    simp only [Node.fields, forall_and, and_assoc]
  list_iff items := by
    rw [Value.regular_list_iff, Value.undisguised_list_iff]
    simp only [forall_and]
  object_iff entries := by
    rw [Value.regular_object_iff, Value.undisguised_object_iff]
    simp only [forall_and]
    tauto

variable {header shape : Bool → Prop} {P : Value → Prop}

mutual

theorem ordered_of (hP : Hereditary header shape P) (v : Value) (h : P v) : v.Ordered := by
  match v with
  | .null | .bool _ | .number _ | .text _ => simp [Value.Ordered]
  | .node (.mk id kind tier fields) =>
      obtain ⟨hs, -, hfields⟩ := (hP.node_iff _).mp h
      rw [Value.Ordered, Node.Ordered]
      exact ⟨hs, ordered_of_entries hP fields hfields⟩
  | .list items =>
      rw [Value.Ordered]
      exact ordered_of_items hP items ((hP.list_iff items).mp h)
  | .object entries =>
      obtain ⟨hs, -, hentries⟩ := (hP.object_iff entries).mp h
      rw [Value.Ordered]
      exact ⟨hs, ordered_of_entries hP entries hentries⟩

theorem ordered_of_items (hP : Hereditary header shape P) (items : List Value)
    (h : ∀ v ∈ items, P v) : Value.OrderedItems items := by
  match items with
  | [] => trivial
  | v :: vs =>
      rw [List.forall_mem_cons] at h
      exact ⟨ordered_of hP v h.1, ordered_of_items hP vs h.2⟩

theorem ordered_of_entries (hP : Hereditary header shape P) (entries : List (String × Value))
    (h : ∀ e ∈ entries, P e.2) : Value.OrderedEntries entries := by
  match entries with
  | [] => trivial
  | (k, v) :: es =>
      rw [List.forall_mem_cons] at h
      exact ⟨ordered_of hP v h.1, ordered_of_entries hP es h.2⟩

end

mutual

theorem of_mem_subtree (hP : Hereditary header shape P) (v : Value) (h : P v) {m : Node}
    (hm : m ∈ v.subtree) : P (.node m) := by
  match v with
  | .null | .bool _ | .number _ | .text _ => simp at hm
  | .node (.mk id kind tier fields) =>
      rw [Value.subtree_node, Node.subtree_mk] at hm
      rcases List.mem_cons.mp hm with rfl | hm
      · exact h
      · exact of_mem_subtree_entries hP fields ((hP.node_iff _).mp h).2.2 hm
  | .list items =>
      rw [Value.subtree_list] at hm
      exact of_mem_subtree_items hP items ((hP.list_iff items).mp h) hm
  | .object entries =>
      rw [Value.subtree_object] at hm
      exact of_mem_subtree_entries hP entries ((hP.object_iff entries).mp h).2.2 hm

theorem of_mem_subtree_items (hP : Hereditary header shape P) (items : List Value)
    (h : ∀ v ∈ items, P v) {m : Node} (hm : m ∈ items.flatMap Value.subtree) : P (.node m) := by
  match items with
  | [] => cases hm
  | v :: vs =>
      rw [List.forall_mem_cons] at h
      rcases List.mem_append.mp hm with hm | hm
      · exact of_mem_subtree hP v h.1 hm
      · exact of_mem_subtree_items hP vs h.2 hm

theorem of_mem_subtree_entries (hP : Hereditary header shape P) (entries : List (String × Value))
    (h : ∀ e ∈ entries, P e.2) {m : Node} (hm : m ∈ entries.flatMap fun e => e.2.subtree) :
    P (.node m) := by
  match entries with
  | [] => cases hm
  | (k, v) :: es =>
      rw [List.forall_mem_cons] at h
      rcases List.mem_append.mp hm with hm | hm
      · exact of_mem_subtree hP v h.1 hm
      · exact of_mem_subtree_entries hP es h.2 hm

end

section

variable (hP : Hereditary header shape P)

include hP

/-! ## Nodes that are built -/

/-- A field is refused, or its value passes the guard. -/
theorem withField {n : Node} (hn : P (.node n)) (key : String) {v : Value}
    (hv : v.holdsNodeShape = false → P v) : P (.node (n.withField key v)) := by
  unfold Node.withField
  split
  · exact hn
  · next hrefused =>
    rw [Bool.or_eq_true, not_or, Bool.not_eq_true, Bool.not_eq_true] at hrefused
    obtain ⟨hs, hfree, hfields⟩ := (hP.node_iff n).mp hn
    refine (hP.node_iff _).mpr ⟨Entries.sorted_insert hs key v, ?_, ?_⟩
    · intro e he
      rcases Entries.mem_insert he with rfl | hold
      · exact hrefused.1 ▸ hP.header_false
      · exact hfree e hold
    · intro e he
      rcases Entries.mem_insert he with rfl | hold
      · exact hv hrefused.2
      · exact hfields e hold

theorem ofParts (id : NodeId) (kind : Kind) (tier : Tier) {fields : List (String × Value)}
    (h : ∀ e ∈ fields, P e.2) : P (.node (Node.ofParts id kind tier fields)) := by
  refine (hP.node_iff _).mpr ⟨Entries.sorted_ofList _, ?_, ?_⟩
  · intro e he
    have hkept := List.mem_filter.mp (Entries.mem_of_mem_ofList he)
    have hfree : Node.isReserved e.1 = false := by simpa using hkept.2
    exact hfree ▸ hP.header_false
  · intro e he
    exact h e (List.mem_of_mem_filter (Entries.mem_of_mem_ofList he))

end

/-! ## What is decoded -/

mutual

theorem ofJson (hP : Hereditary header shape P) (j : Json) (ho : j.Ordered)
    (hn : ∀ n ∈ j.numbers, P (.number n)) {v : Value} (h : Value.ofJson j = .ok v) : P v := by
  match j with
  | .null =>
      cases h
      exact hP.null
  | .bool b =>
      cases h
      exact hP.bool b
  | .string s =>
      cases h
      exact hP.text s
  | .number n =>
      cases h
      exact hn n (by simp [Json.numbers])
  | .array items =>
      obtain ⟨vs, hvs, h⟩ := Except.bind_eq_ok_iff.mp (by simpa only [Value.ofJson] using h)
      cases h
      rw [Json.Ordered] at ho
      rw [Json.numbers] at hn
      exact (hP.list_iff vs).mpr (itemsOfJson hP items ho hn hvs)
  | .object entries =>
      rw [Json.Ordered] at ho
      rw [Json.numbers] at hn
      simp only [Value.ofJson] at h
      split at h
      · obtain ⟨head, -, h⟩ := Except.bind_eq_ok_iff.mp h
        obtain ⟨fields, hfields, h⟩ := Except.bind_eq_ok_iff.mp h
        cases h
        exact hP.ofParts _ _ _ (fieldsOfJson hP entries ho.2 hn hfields)
      · next hshape =>
        obtain ⟨vs, hvs, h⟩ := Except.bind_eq_ok_iff.mp h
        cases h
        refine (hP.object_iff vs).mpr ⟨?_, ?_, entriesOfJson hP entries ho.2 hn hvs⟩
        · rw [Entries.Sorted, Value.keys_entriesOfJson hvs]
          exact ho.1
        · rw [Value.nodeShaped_entriesOfJson hvs, eq_false_of_ne_true hshape]
          exact hP.shape_false

theorem itemsOfJson (hP : Hereditary header shape P) (items : List Json)
    (ho : Json.OrderedItems items) (hn : ∀ n ∈ Json.numbersOfItems items, P (.number n))
    {vs : List Value} (h : Value.itemsOfJson items = .ok vs) : ∀ v ∈ vs, P v := by
  match items with
  | [] =>
      cases h
      simp
  | j :: js =>
      rw [Json.OrderedItems] at ho
      rw [Json.numbersOfItems, List.forall_mem_append] at hn
      obtain ⟨v, hv, h⟩ := Except.bind_eq_ok_iff.mp (by simpa only [Value.itemsOfJson] using h)
      obtain ⟨us, hus, h⟩ := Except.bind_eq_ok_iff.mp h
      cases h
      exact List.forall_mem_cons.mpr ⟨ofJson hP j ho.1 hn.1 hv, itemsOfJson hP js ho.2 hn.2 hus⟩

theorem entriesOfJson (hP : Hereditary header shape P) (entries : List (String × Json))
    (ho : Json.OrderedEntries entries)
    (hn : ∀ n ∈ Json.numbersOfEntries entries, P (.number n)) {vs : List (String × Value)}
    (h : Value.entriesOfJson entries = .ok vs) : ∀ e ∈ vs, P e.2 := by
  match entries with
  | [] =>
      cases h
      simp
  | (k, j) :: es =>
      rw [Json.OrderedEntries] at ho
      rw [Json.numbersOfEntries, List.forall_mem_append] at hn
      obtain ⟨v, hv, h⟩ := Except.bind_eq_ok_iff.mp (by simpa only [Value.entriesOfJson] using h)
      obtain ⟨us, hus, h⟩ := Except.bind_eq_ok_iff.mp h
      cases h
      exact List.forall_mem_cons.mpr ⟨ofJson hP j ho.1 hn.1 hv, entriesOfJson hP es ho.2 hn.2 hus⟩

theorem fieldsOfJson (hP : Hereditary header shape P) (entries : List (String × Json))
    (ho : Json.OrderedEntries entries)
    (hn : ∀ n ∈ Json.numbersOfEntries entries, P (.number n)) {vs : List (String × Value)}
    (h : Value.fieldsOfJson entries = .ok vs) : ∀ e ∈ vs, P e.2 := by
  match entries with
  | [] =>
      cases h
      simp
  | (k, j) :: es =>
      rw [Json.OrderedEntries] at ho
      rw [Json.numbersOfEntries, List.forall_mem_append] at hn
      simp only [Value.fieldsOfJson] at h
      split at h
      · exact fieldsOfJson hP es ho.2 hn.2 h
      · obtain ⟨v, hv, h⟩ := Except.bind_eq_ok_iff.mp h
        obtain ⟨us, hus, h⟩ := Except.bind_eq_ok_iff.mp h
        cases h
        exact List.forall_mem_cons.mpr ⟨ofJson hP j ho.1 hn.1 hv, fieldsOfJson hP es ho.2 hn.2 hus⟩

end

section

variable (hP : Hereditary header shape P)

include hP

theorem draft_ofJson {j : Json} (ho : j.Ordered) (hn : ∀ n ∈ j.numbers, P (.number n)) {d : Draft}
    (h : Draft.ofJson j = .ok d) : ∀ e ∈ d.fields, P e.2 := by
  cases j with
  | object entries =>
      rw [Json.Ordered] at ho
      rw [Json.numbers] at hn
      obtain ⟨head, -, h⟩ := Except.bind_eq_ok_iff.mp (by simpa only [Draft.ofJson] using h)
      obtain ⟨fields, hfields, h⟩ := Except.bind_eq_ok_iff.mp h
      cases h
      exact hP.fieldsOfJson entries ho.2 hn hfields
  | null | bool _ | number _ | string _ | array _ => cases h

theorem node_ofJson {j : Json} (ho : j.Ordered) (hn : ∀ n ∈ j.numbers, P (.number n))
    {fresh : NodeId} {n : Node} (h : Node.ofJson fresh j = .ok n) : P (.node n) := by
  obtain ⟨d, hd, h⟩ := Except.bind_eq_ok_iff.mp h
  cases h
  exact hP.ofParts _ _ _ (hP.draft_ofJson ho hn hd)

theorem draft_read (hn : ∀ n : Number, n.Fits → P (.number n)) {limit : Nat} {cs rest : List Char}
    {d : Draft} (h : Draft.read limit cs = .ok (d, rest)) : ∀ e ∈ d.fields, P e.2 := by
  obtain ⟨⟨j, ds⟩, hj, h⟩ := Except.bind_eq_ok_iff.mp h
  obtain ⟨ho, hfits⟩ := Json.Read.genuine_of_value hj
  cases hd : Draft.ofJson j with
  | error e => simp [hd] at h
  | ok d' =>
      simp only [hd] at h
      cases h
      exact hP.draft_ofJson ho (fun n hmem => hn n (hfits n hmem)) hd

theorem identifyAll {ds : List Draft} (h : ∀ d ∈ ds, ∀ e ∈ d.fields, P e.2) (supply : IdSupply) :
    ∀ n ∈ (Draft.identifyAll supply ds).1, P (.node n) := by
  induction ds generalizing supply with
  | nil => simp [Draft.identifyAll]
  | cons d ds ih =>
      rw [List.forall_mem_cons] at h
      have hd : P (.node (d.identify supply).1) := by
        unfold Draft.identify
        split <;> exact hP.ofParts _ _ _ h.1
      exact List.forall_mem_cons.mpr ⟨hd, ih h.2 _⟩

end

end Hereditary

/-! ## Drafts in order -/

/-- The fields are in order, each within. -/
def Draft.Ordered (d : Draft) : Prop := ∀ e ∈ d.fields, e.2.Ordered

theorem Draft.ordered_read {limit : Nat} {cs rest : List Char} {d : Draft}
    (h : Draft.read limit cs = .ok (d, rest)) : d.Ordered :=
  Hereditary.ordered.draft_read (fun _ _ => by simp [Value.Ordered]) h

theorem Draft.ordered_identifyAll {ds : List Draft} (h : ∀ d ∈ ds, d.Ordered)
    (supply : IdSupply) : Tree.Ordered (Draft.identifyAll supply ds).1 := by
  intro n hn
  simpa [Value.Ordered] using Hereditary.ordered.identifyAll h supply n hn

end HandlerStudio
