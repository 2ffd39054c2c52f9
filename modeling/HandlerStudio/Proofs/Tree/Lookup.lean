import HandlerStudio.Proofs.Tree.Undo

/-!
# Lookups and the walk

A walk meets a node and then all below its children, one child after the other. A search stops at
the first node of the walk with the identity, so it finds nothing exactly where the identity does
not occur. There an edit finds nothing either and leaves the tree as it is. None of this needs
distinct identities.
-/

namespace HandlerStudio

/-! ## The walk goes through the children -/

mutual

theorem Value.walkAt_eq_flatMap_children (v : Value) (d : Nat) :
    v.walkAt d = v.children.flatMap (Node.walkAt d) := by
  match v with
  | .null | .bool _ | .number _ | .text _ => rfl
  | .node n => simp [Value.walkAt, Value.children]
  | .list items =>
      rw [Value.walkAt, Value.children]
      exact Value.walkItems_eq_flatMap_children items d
  | .object entries =>
      rw [Value.walkAt, Value.children]
      exact Value.walkEntries_eq_flatMap_children entries d

theorem Value.walkItems_eq_flatMap_children (items : List Value) (d : Nat) :
    Value.walkItems d items = (Value.childrenOfItems items).flatMap (Node.walkAt d) := by
  match items with
  | [] => rfl
  | v :: vs =>
      rw [Value.walkItems, Value.childrenOfItems, List.flatMap_append,
        Value.walkAt_eq_flatMap_children v d, Value.walkItems_eq_flatMap_children vs d]

theorem Value.walkEntries_eq_flatMap_children (entries : List (String × Value)) (d : Nat) :
    Value.walkEntries d entries = (Value.childrenOfEntries entries).flatMap (Node.walkAt d) := by
  match entries with
  | [] => rfl
  | (k, v) :: es =>
      rw [Value.walkEntries, Value.childrenOfEntries, List.flatMap_append,
        Value.walkAt_eq_flatMap_children v d, Value.walkEntries_eq_flatMap_children es d]

end

theorem Node.walkAt_eq_cons (n : Node) (d : Nat) :
    n.walkAt d = (d, n) :: n.children.flatMap (Node.walkAt (d + 1)) := by
  cases n
  rw [Node.walkAt, Value.walkEntries_eq_flatMap_children]
  rfl

namespace Tree

variable {body : Body} {id : NodeId}

theorem nodes_eq_map_walk (body : Body) : nodes body = (walk body).map Prod.snd := by
  rw [nodes, walk, List.map_flatMap]
  rfl

theorem contains_iff : contains id body = true ↔ id ∈ ids body := by
  rw [contains, Option.isSome_iff_ne_none, Ne, find?_eq_none_iff, not_not]

/-! ## Misses -/

theorem insert_eq_self_of_absent (habsent : id ∉ ids body) (node : Node) (index : Option Nat) :
    insert body (some id) node index = body := by
  cases hclash : clash? body (.node node) none with
  | some _ => simp [insert, hclash]
  | none =>
      have hpass : ∀ n : Node, n.id ≠ id → insertAt id node index n = none := by
        intro n hne
        simp [insertAt, hne]
      rw [insert_under hclash, amend?_eq_none_of_absent habsent hpass]
      rfl

theorem updateProperty_eq_self_of_absent (habsent : id ∉ ids body) (key : String) (v : Value) :
    updateProperty body id key v = body := by
  unfold updateProperty
  rw [find?_eq_none_iff.mpr habsent]
  exact ite_self body

/-- The walk is depth-first, a search finds the first node of the walk with its identity, and an
identity that the walk does not meet is found by no search and by no edit. -/
theorem lookups_follow_walk (body : Body) (id : NodeId) :
    (∀ n depth, Node.walkAt depth n =
      (depth, n) :: n.children.flatMap (Node.walkAt (depth + 1))) ∧
    find? id body = ((walk body).map Prod.snd).find? (fun n => n.id = id) ∧
    (contains id body = true ↔ id ∈ ids body) ∧
    (id ∉ ids body →
      find? id body = none ∧ remove body id = body ∧
        (∀ key v, updateProperty body id key v = body) ∧
        ∀ node index, insert body (some id) node index = body) := by
  refine ⟨Node.walkAt_eq_cons, ?_, contains_iff, ?_⟩
  · rw [← nodes_eq_map_walk]
    exact find?_eq_find?_nodes id body
  · intro habsent
    refine ⟨find?_eq_none_iff.mpr habsent, remove_eq_self habsent, ?_, ?_⟩
    · exact updateProperty_eq_self_of_absent habsent
    · exact insert_eq_self_of_absent habsent

/-- Of two nodes of one identity the first is found, and the loop inside the object shaped like a
node is met. What is not there is not edited. -/
theorem lookups_sampleTangle :
    find? ⟨"a"⟩ sampleTangle = some (.mk ⟨"a"⟩ .literal .universal []) ∧
      contains ⟨"b"⟩ sampleTangle = true ∧
      (⟨"n"⟩ : NodeId) ∉ ids sampleTangle ∧
      remove sampleTangle ⟨"n"⟩ = sampleTangle ∧
      updateProperty sampleTangle ⟨"n"⟩ "body" .null = sampleTangle ∧
      insert sampleTangle (some ⟨"n"⟩) (.mk ⟨"m"⟩ .literal .universal []) none = sampleTangle := by
  have hids : ids sampleTangle = [⟨"a"⟩, ⟨"a"⟩, ⟨"b"⟩] := by decide
  have habsent : (⟨"n"⟩ : NodeId) ∉ ids sampleTangle := by
    rw [hids]
    decide
  obtain ⟨-, hfirst, -, -⟩ := lookups_follow_walk sampleTangle ⟨"a"⟩
  obtain ⟨-, -, hcontains, -⟩ := lookups_follow_walk sampleTangle ⟨"b"⟩
  obtain ⟨-, -, -, hmiss⟩ := lookups_follow_walk sampleTangle ⟨"n"⟩
  obtain ⟨-, hremove, hupdate, hinsert⟩ := hmiss habsent
  refine ⟨?_, hcontains.mpr (by simp [hids]), habsent, hremove, hupdate _ _, hinsert _ _⟩
  rw [hfirst]
  rfl

end Tree

end HandlerStudio
