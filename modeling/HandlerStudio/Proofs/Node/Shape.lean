import HandlerStudio.Proofs.Tree.Amend

/-!
# Plain objects shaped like nodes

A plain object anywhere in a value, also in the fields of nodes, may have the shape of a node.
The guard that refuses such objects looks at one field and stops at nodes, so a value has none of
them exactly when the guard passes it and every field of every node in it.
-/

namespace HandlerStudio

mutual

/-- All plain objects of a value, at every depth. -/
def Value.objects : Value → List (List (String × Value))
  | .node n => n.objects
  | .list items => Value.objectsOfItems items
  | .object entries => entries :: Value.objectsOfEntries entries
  | _ => []
termination_by structural v => v

/-- All plain objects in the fields of a node, at every depth. -/
def Node.objects : Node → List (List (String × Value))
  | .mk _ _ _ fields => Value.objectsOfEntries fields
termination_by structural n => n

def Value.objectsOfItems : List Value → List (List (String × Value))
  | [] => []
  | v :: vs => v.objects ++ Value.objectsOfItems vs
termination_by structural vs => vs

def Value.objectsOfEntries : List (String × Value) → List (List (String × Value))
  | [] => []
  | (_, v) :: es => v.objects ++ Value.objectsOfEntries es
termination_by structural es => es

end

/-- An object that names a kind, by its stored or its short name, and has a text or a number as
`id`, and a `tier` of any sort. -/
structure Value.NodeLike (entries : List (String × Value)) : Prop where
  type : ∃ kind : Kind, Entries.get? "type" entries = some (.text kind.typeName) ∨
    Entries.get? "type" entries = some (.text kind.shortName)
  id : (∃ s, Entries.get? "id" entries = some (.text s)) ∨
    ∃ n, Entries.get? "id" entries = some (.number n)
  tier : "tier" ∈ Entries.keys entries

/-- No plain object of the value has the shape of a node. -/
def Value.Undisguised (v : Value) : Prop := ∀ o ∈ v.objects, ¬ Value.NodeLike o

/-- No plain object in the node has the shape of a node. -/
def Node.Undisguised (n : Node) : Prop := ∀ o ∈ n.objects, ¬ Value.NodeLike o

theorem Kind.isSome_ofName?_iff (name : String) :
    (ofName? name).isSome = true ↔ ∃ k : Kind, name = k.typeName ∨ name = k.shortName := by
  constructor
  · intro h
    obtain ⟨k, hk⟩ := Option.isSome_iff_exists.mp h
    have hname : k.typeName = name ∨ k.shortName = name := by
      simpa using List.find?_some hk
    exact ⟨k, hname.imp Eq.symm Eq.symm⟩
  · rintro ⟨k, rfl | rfl⟩ <;> simp

namespace Value

theorem nodeShaped_eq_true_iff (entries : List (String × Value)) :
    nodeShaped entries = true ↔ NodeLike entries := by
  have htier : Entries.has "tier" entries = true ↔ "tier" ∈ Entries.keys entries := by
    rw [Entries.has, ← Option.not_isNone, Bool.not_eq_true', ← Bool.not_eq_true,
      Option.isNone_iff_eq_none, Entries.get?_eq_none_iff, not_not]
  constructor
  · intro h
    simp only [nodeShaped, Bool.and_eq_true] at h
    obtain ⟨⟨htype, hid⟩, ht⟩ := h
    refine ⟨?_, ?_, htier.mp ht⟩
    · split at htype
      · rename_i name hname
        obtain ⟨k, hk⟩ := (Kind.isSome_ofName?_iff name).mp htype
        rcases hk with rfl | rfl
        · exact ⟨k, Or.inl hname⟩
        · exact ⟨k, Or.inr hname⟩
      · cases htype
    · split at hid
      · exact Or.inl ⟨_, ‹_›⟩
      · exact Or.inr ⟨_, ‹_›⟩
      · cases hid
  · rintro ⟨⟨k, htype⟩, hid, ht⟩
    simp only [nodeShaped, Bool.and_eq_true]
    refine ⟨⟨?_, ?_⟩, htier.mpr ht⟩
    · rcases htype with h | h <;> simp [h]
    · rcases hid with ⟨s, h⟩ | ⟨n, h⟩ <;> simp [h]

theorem not_nodeLike_iff (entries : List (String × Value)) :
    ¬ NodeLike entries ↔ nodeShaped entries = false := by
  rw [← nodeShaped_eq_true_iff, Bool.not_eq_true]

theorem objectsOfItems_eq (items : List Value) : objectsOfItems items = items.flatMap objects := by
  induction items with
  | nil => rfl
  | cons v vs ih => simp [objectsOfItems, ih]

theorem objectsOfEntries_eq (entries : List (String × Value)) :
    objectsOfEntries entries = entries.flatMap fun e => e.2.objects := by
  induction entries with
  | nil => rfl
  | cons e es ih => obtain ⟨k, v⟩ := e; simp [objectsOfEntries, ih]

theorem undisguised_scalar {v : Value} (h : v.objects = []) : v.Undisguised := by
  simp [Undisguised, h]

theorem undisguised_node_iff (n : Node) : (Value.node n).Undisguised ↔ n.Undisguised := Iff.rfl

theorem undisguised_list_iff (items : List Value) :
    (Value.list items).Undisguised ↔ ∀ v ∈ items, v.Undisguised := by
  simp only [Undisguised, objects, objectsOfItems_eq, List.mem_flatMap, forall_exists_index,
    and_imp]
  exact ⟨fun h v hv o ho => h o v hv ho, fun h o v hv ho => h v hv o ho⟩

theorem undisguised_object_iff (entries : List (String × Value)) :
    (Value.object entries).Undisguised ↔
      nodeShaped entries = false ∧ ∀ e ∈ entries, e.2.Undisguised := by
  simp only [Undisguised, objects, objectsOfEntries_eq, List.forall_mem_cons, List.mem_flatMap,
    forall_exists_index, and_imp, ← not_nodeLike_iff]
  exact and_congr_right fun _ =>
    ⟨fun h e he o ho => h o e he ho, fun h o e he ho => h e he o ho⟩

theorem itemsHoldNodeShape_eq_false_iff (items : List Value) :
    itemsHoldNodeShape items = false ↔ ∀ v ∈ items, v.holdsNodeShape = false := by
  induction items with
  | nil => simp [itemsHoldNodeShape]
  | cons v vs ih => simp [itemsHoldNodeShape, ih]

theorem entriesHoldNodeShape_eq_false_iff (entries : List (String × Value)) :
    entriesHoldNodeShape entries = false ↔ ∀ e ∈ entries, e.2.holdsNodeShape = false := by
  induction entries with
  | nil => simp [entriesHoldNodeShape]
  | cons e es ih => obtain ⟨k, v⟩ := e; simp [entriesHoldNodeShape, ih]

end Value

theorem Node.undisguised_mk_iff (id : NodeId) (kind : Kind) (tier : Tier)
    (fields : List (String × Value)) :
    (Node.mk id kind tier fields).Undisguised ↔ ∀ e ∈ fields, e.2.Undisguised := by
  simp only [Node.Undisguised, Node.objects, Value.objectsOfEntries_eq, List.mem_flatMap,
    forall_exists_index, and_imp]
  exact ⟨fun h e he o ho => h o e he ho, fun h o e he ho => h e he o ho⟩

/-- The guard passes every field of the node. -/
def Node.Guarded (n : Node) : Prop := ∀ e ∈ n.fields, e.2.holdsNodeShape = false

mutual

/-- A value has no object shaped like a node exactly when the guard passes it and every field of
every node in it. -/
theorem Value.undisguised_iff_guarded (v : Value) :
    v.Undisguised ↔ v.holdsNodeShape = false ∧ ∀ m ∈ v.subtree, m.Guarded := by
  match v with
  | .null | .bool _ | .number _ | .text _ =>
      simp [Value.Undisguised, Value.objects, Value.holdsNodeShape]
  | .node n =>
      rw [Value.undisguised_node_iff, Node.undisguised_iff_guarded n]
      simp [Value.holdsNodeShape]
  | .list items =>
      rw [Value.undisguised_list_iff, Value.undisguised_items_iff items, Value.holdsNodeShape,
        Value.itemsHoldNodeShape_eq_false_iff, Value.subtree_list]
  | .object entries =>
      rw [Value.undisguised_object_iff, Value.undisguised_entries_iff entries,
        Value.holdsNodeShape, Bool.or_eq_false_iff, Value.entriesHoldNodeShape_eq_false_iff,
        Value.subtree_object, and_assoc]

theorem Node.undisguised_iff_guarded (n : Node) :
    n.Undisguised ↔ ∀ m ∈ n.subtree, m.Guarded := by
  match n with
  | .mk id kind tier fields =>
      rw [Node.undisguised_mk_iff, Value.undisguised_entries_iff fields, Node.subtree_mk,
        List.forall_mem_cons]
      rfl

theorem Value.undisguised_items_iff (items : List Value) :
    (∀ v ∈ items, v.Undisguised) ↔ (∀ v ∈ items, v.holdsNodeShape = false) ∧
      ∀ m ∈ items.flatMap Value.subtree, m.Guarded := by
  match items with
  | [] => simp
  | v :: vs =>
      rw [List.forall_mem_cons, Value.undisguised_iff_guarded v, Value.undisguised_items_iff vs,
        List.forall_mem_cons, List.flatMap_cons, List.forall_mem_append]
      tauto

theorem Value.undisguised_entries_iff (entries : List (String × Value)) :
    (∀ e ∈ entries, e.2.Undisguised) ↔ (∀ e ∈ entries, e.2.holdsNodeShape = false) ∧
      ∀ m ∈ (entries.flatMap fun e => e.2.subtree), m.Guarded := by
  match entries with
  | [] => simp
  | (k, v) :: es =>
      rw [List.forall_mem_cons, Value.undisguised_iff_guarded v, Value.undisguised_entries_iff es,
        List.forall_mem_cons, List.flatMap_cons, List.forall_mem_append]
      tauto

end

end HandlerStudio
