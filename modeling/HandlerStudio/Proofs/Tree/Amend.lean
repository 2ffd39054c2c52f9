import HandlerStudio.Proofs.Entries
import HandlerStudio.Proofs.Tree.Repeats

/-!
# Where an edit takes a node

In a list or among entries, an edit changes one part and leaves the others. Each kind of edit takes
the nodes of one identity. Keys are in order in a whole if they are in order in its parts.
-/

namespace HandlerStudio

/-! ## Order of keys as a property of all members -/

namespace Value

theorem orderedItems_iff (items : List Value) : OrderedItems items ↔ ∀ v ∈ items, v.Ordered := by
  induction items with
  | nil => simp [OrderedItems]
  | cons v vs ih => simp [OrderedItems, ih]

theorem orderedEntries_iff (entries : List (String × Value)) :
    OrderedEntries entries ↔ ∀ e ∈ entries, e.2.Ordered := by
  induction entries with
  | nil => simp [OrderedEntries]
  | cons e es ih => obtain ⟨k, v⟩ := e; simp [OrderedEntries, ih]

end Value

theorem Node.ordered_iff (n : Node) :
    n.Ordered ↔ Entries.Sorted n.fields ∧ ∀ e ∈ n.fields, e.2.Ordered := by
  cases n
  simp [Node.Ordered, Node.fields, Value.orderedEntries_iff]

/-- Every node of the body has its fields and objects in key order, at every depth. -/
def Tree.Ordered (body : Body) : Prop := ∀ n ∈ body, n.Ordered

/-! ## Where an edit takes a node -/

namespace Value

variable {edit : Node → Option Outcome}

/-- The three ways in which a list changes: it loses a node, its first item changes, or a later one
does. -/
theorem amendItems_cons_cases {v : Value} {vs ws : List Value}
    (h : amendItems edit (v :: vs) = some ws) :
    (∃ n, v = .node n ∧ n.amend edit = .removed ∧ ws = vs) ∨
      (∃ w, v.amend edit = some w ∧ ws = w :: vs) ∨
      (v.amend edit = none ∧ ∃ us, amendItems edit vs = some us ∧ ws = v :: us) := by
  cases v with
  | node n =>
      simp only [amendItems] at h
      cases hn : n.amend edit with
      | unchanged =>
          rw [hn] at h
          obtain ⟨us, hus, rfl⟩ := Option.map_eq_some_iff.mp h
          exact Or.inr (Or.inr ⟨by simp [amend, hn], us, hus, rfl⟩)
      | removed =>
          rw [hn] at h
          exact Or.inl ⟨n, rfl, hn, (Option.some.inj h).symm⟩
      | replaced m =>
          rw [hn] at h
          exact Or.inr (Or.inl ⟨.node m, by simp [amend, hn], (Option.some.inj h).symm⟩)
  | null | bool _ | number _ | text _ | list _ | object _ =>
      simp only [amendItems] at h
      split at h
      · next w hw => exact Or.inr (Or.inl ⟨w, hw, (Option.some.inj h).symm⟩)
      · next hw =>
        obtain ⟨us, hus, rfl⟩ := Option.map_eq_some_iff.mp h
        exact Or.inr (Or.inr ⟨hw, us, hus, rfl⟩)

/-- The entry that changes has a value that changes. -/
theorem exists_of_amendEntries {entries : List (String × Value)} {key : String} {w : Value}
    (h : amendEntries edit entries = some (key, w)) :
    ∃ pre v post, entries = pre ++ (key, v) :: post ∧ v.amend edit = some w := by
  induction entries with
  | nil => simp [amendEntries] at h
  | cons e es ih =>
      obtain ⟨k, v⟩ := e
      simp only [amendEntries] at h
      split at h
      · next u hu =>
        obtain ⟨rfl, rfl⟩ := Prod.mk.inj (Option.some.inj h)
        exact ⟨[], v, es, rfl, hu⟩
      · obtain ⟨pre, v', post, rfl, hv⟩ := ih h
        exact ⟨(k, v) :: pre, v', post, rfl, hv⟩

end Value

/-- A node with a field set is the node itself, or differs from it in that field. -/
theorem Node.withField_eq_or (key : String) (v : Value) (n : Node) :
    n.withField key v = n ∨
      n.withField key v = .mk n.id n.kind n.tier (Entries.insert key v n.fields) := by
  unfold Node.withField
  split
  · exact Or.inl rfl
  · exact Or.inr rfl

namespace Tree

theorem removeAt_eq_some {id : NodeId} {t : Node} {outcome : Outcome}
    (h : removeAt id t = some outcome) : t.id = id ∧ outcome = .removed := by
  unfold removeAt at h
  split at h
  · next hid => exact ⟨hid, (Option.some.inj h).symm⟩
  · cases h

theorem insertAt_eq_some {parent : NodeId} {node t : Node} {index : Option Nat}
    {outcome : Outcome} (h : insertAt parent node index t = some outcome) :
    t.id = parent ∧
      (outcome = .unchanged ∨ ∃ slot, t.insertionSlot? = some slot ∧
        outcome = .replaced (t.insertChild slot node index)) := by
  unfold insertAt at h
  split at h
  · next hid =>
    split at h
    · next slot hslot => exact ⟨hid, Or.inr ⟨slot, hslot, (Option.some.inj h).symm⟩⟩
    · exact ⟨hid, Or.inl (Option.some.inj h).symm⟩
  · cases h

theorem updateAt_eq_some {id : NodeId} {key : String} {value : Value} {t : Node}
    {outcome : Outcome} (h : updateAt id key value t = some outcome) :
    t.id = id ∧ outcome = .replaced (t.withField key value) := by
  unfold updateAt at h
  split at h
  · next hid => exact ⟨hid, (Option.some.inj h).symm⟩
  · cases h

end Tree

end HandlerStudio
