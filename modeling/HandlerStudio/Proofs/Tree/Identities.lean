import HandlerStudio.Tree.Basic
import Mathlib.Data.List.Nodup

/-!
# Identities of a tree

The walk of a tree, without depths, splits at every node, list and object. A search by identity goes
through the nodes in walking order, so it finds nothing exactly where the identity does not occur.
-/

namespace HandlerStudio

/-! ## Subtrees -/

/-- The node and all below it, in walking order. -/
def Node.subtree (n : Node) : List Node := (n.walkAt 0).map Prod.snd

/-- All nodes of a value, in walking order. -/
def Value.subtree (v : Value) : List Node := (v.walkAt 0).map Prod.snd

/-- All nodes of a body, in walking order. -/
def Tree.nodes (body : Body) : List Node := body.flatMap Node.subtree

mutual

/-- The depth that a walk starts with does not matter to the nodes it meets. -/
theorem Value.map_snd_walkAt (v : Value) (d : Nat) : (v.walkAt d).map Prod.snd = v.subtree := by
  match v with
  | .null | .bool _ | .number _ | .text _ => simp [Value.subtree, Value.walkAt]
  | .node n =>
      simp only [Value.subtree, Value.walkAt]
      rw [Node.map_snd_walkAt n d, Node.map_snd_walkAt n 0]
  | .list items =>
      simp only [Value.subtree, Value.walkAt]
      rw [Value.map_snd_walkItems items d, Value.map_snd_walkItems items 0]
  | .object entries =>
      simp only [Value.subtree, Value.walkAt]
      rw [Value.map_snd_walkEntries entries d, Value.map_snd_walkEntries entries 0]

theorem Node.map_snd_walkAt (n : Node) (d : Nat) : (n.walkAt d).map Prod.snd = n.subtree := by
  match n with
  | .mk id kind tier fields =>
      simp only [Node.subtree, Node.walkAt, List.map_cons]
      rw [Value.map_snd_walkEntries fields (d + 1), Value.map_snd_walkEntries fields (0 + 1)]

theorem Value.map_snd_walkItems (items : List Value) (d : Nat) :
    (Value.walkItems d items).map Prod.snd = items.flatMap Value.subtree := by
  match items with
  | [] => simp [Value.walkItems]
  | v :: vs =>
      simp only [Value.walkItems, List.map_append, List.flatMap_cons]
      rw [Value.map_snd_walkAt v d, Value.map_snd_walkItems vs d]

theorem Value.map_snd_walkEntries (entries : List (String × Value)) (d : Nat) :
    (Value.walkEntries d entries).map Prod.snd = entries.flatMap fun e => e.2.subtree := by
  match entries with
  | [] => simp [Value.walkEntries]
  | (k, v) :: es =>
      simp only [Value.walkEntries, List.map_append, List.flatMap_cons]
      rw [Value.map_snd_walkAt v d, Value.map_snd_walkEntries es d]

end

@[simp] theorem Node.subtree_mk (id : NodeId) (kind : Kind) (tier : Tier)
    (fields : List (String × Value)) :
    (Node.mk id kind tier fields).subtree =
      .mk id kind tier fields :: fields.flatMap fun e => e.2.subtree := by
  simp [Node.subtree, Node.walkAt, Value.map_snd_walkEntries]

theorem Node.self_mem_subtree (n : Node) : n ∈ n.subtree := by cases n; simp

namespace Value

@[simp] theorem subtree_null : Value.null.subtree = [] := rfl

@[simp] theorem subtree_bool (b : Bool) : (Value.bool b).subtree = [] := rfl

@[simp] theorem subtree_number (n : Number) : (Value.number n).subtree = [] := rfl

@[simp] theorem subtree_text (s : String) : (Value.text s).subtree = [] := rfl

@[simp] theorem subtree_node (n : Node) : (Value.node n).subtree = n.subtree := rfl

@[simp] theorem subtree_list (items : List Value) :
    (Value.list items).subtree = items.flatMap Value.subtree := map_snd_walkItems items 0

@[simp] theorem subtree_object (entries : List (String × Value)) :
    (Value.object entries).subtree = entries.flatMap fun e => e.2.subtree :=
  map_snd_walkEntries entries 0

/-! ## Identities in walking order -/

theorem ids_eq_map_subtree (v : Value) : v.ids = v.subtree.map Node.id := by
  simp [ids, subtree]

@[simp] theorem ids_null : Value.null.ids = [] := rfl

@[simp] theorem ids_node (n : Node) : (Value.node n).ids = n.ids := rfl

@[simp] theorem ids_list (items : List Value) :
    (Value.list items).ids = items.flatMap Value.ids := by
  rw [ids_eq_map_subtree, subtree_list, List.map_flatMap]
  simp only [← ids_eq_map_subtree]

@[simp] theorem ids_object (entries : List (String × Value)) :
    (Value.object entries).ids = entries.flatMap fun e => e.2.ids := by
  simp [ids_eq_map_subtree, List.map_flatMap]

end Value

theorem Node.ids_eq_map_subtree (n : Node) : n.ids = n.subtree.map Node.id := by
  simp [Node.ids, Node.subtree]

@[simp] theorem Node.ids_mk (id : NodeId) (kind : Kind) (tier : Tier)
    (fields : List (String × Value)) :
    (Node.mk id kind tier fields).ids = id :: fields.flatMap fun e => e.2.ids := by
  simp [Node.ids_eq_map_subtree, Value.ids_eq_map_subtree, List.map_flatMap, Node.id]

theorem Tree.ids_eq_map_nodes (body : Body) : Tree.ids body = (Tree.nodes body).map Node.id := by
  rw [Tree.ids, Tree.walk, Tree.nodes, List.map_flatMap, List.map_flatMap]
  simp only [Node.subtree, List.map_map, Function.comp_def]

theorem Tree.ids_eq_flatMap (body : Body) : Tree.ids body = body.flatMap Node.ids := by
  rw [Tree.ids_eq_map_nodes, Tree.nodes, List.map_flatMap]
  simp only [← Node.ids_eq_map_subtree]

/-! ## The first node with an identity -/

section Search

variable (id : NodeId)

mutual

/-- A search goes through the nodes in walking order. -/
theorem Value.find?_eq_find?_subtree (v : Value) :
    v.find? id = v.subtree.find? fun n => n.id = id := by
  match v with
  | .null | .bool _ | .number _ | .text _ => rfl
  | .node n => exact Node.find?_eq_find?_subtree n
  | .list items =>
      rw [Value.find?, Value.subtree_list]
      exact Value.findInItems?_eq_find? items
  | .object entries =>
      rw [Value.find?, Value.subtree_object]
      exact Value.findInEntries?_eq_find? entries

theorem Node.find?_eq_find?_subtree (n : Node) :
    n.find? id = n.subtree.find? fun m => m.id = id := by
  match n with
  | .mk i kind tier fields =>
      rw [Node.find?, Node.subtree_mk, List.find?_cons, Value.findInEntries?_eq_find? fields]
      by_cases hi : i = id <;> simp [Node.id, hi]

theorem Value.findInItems?_eq_find? (items : List Value) :
    Value.findInItems? id items = (items.flatMap Value.subtree).find? fun n => n.id = id := by
  match items with
  | [] => rfl
  | v :: vs =>
      rw [Value.findInItems?, List.flatMap_cons, List.find?_append,
        ← Value.find?_eq_find?_subtree v, ← Value.findInItems?_eq_find? vs]
      cases v.find? id <;> rfl

theorem Value.findInEntries?_eq_find? (entries : List (String × Value)) :
    Value.findInEntries? id entries =
      (entries.flatMap fun e => e.2.subtree).find? fun n => n.id = id := by
  match entries with
  | [] => rfl
  | (k, v) :: es =>
      rw [Value.findInEntries?, List.flatMap_cons, List.find?_append,
        ← Value.find?_eq_find?_subtree v, ← Value.findInEntries?_eq_find? es]
      cases v.find? id <;> rfl

end

/-- What a search finds is a node of the value with the identity asked for. -/
theorem Value.mem_of_find? (v : Value) {n : Node} (h : v.find? id = some n) :
    n ∈ v.subtree ∧ n.id = id := by
  rw [Value.find?_eq_find?_subtree] at h
  exact ⟨List.mem_of_find?_eq_some h, by simpa using List.find?_some h⟩

/-- A search finds nothing exactly where the identity does not occur. -/
theorem Value.find?_eq_none_iff (v : Value) : v.find? id = none ↔ id ∉ v.ids := by
  simp [Value.find?_eq_find?_subtree, Value.ids_eq_map_subtree]

end Search

theorem Tree.find?_eq_find?_nodes (id : NodeId) (body : Body) :
    Tree.find? id body = (Tree.nodes body).find? fun n => n.id = id := by
  rw [Tree.find?, Tree.nodes]
  induction body with
  | nil => rfl
  | cons n body ih =>
      rw [List.findSome?_cons, List.flatMap_cons, List.find?_append,
        ← Node.find?_eq_find?_subtree, ih]
      cases n.find? id <;> rfl

theorem Tree.mem_of_find? {id : NodeId} {body : Body} {n : Node}
    (h : Tree.find? id body = some n) : n ∈ Tree.nodes body ∧ n.id = id := by
  rw [Tree.find?_eq_find?_nodes] at h
  exact ⟨List.mem_of_find?_eq_some h, by simpa using List.find?_some h⟩

theorem Tree.find?_eq_none_iff {id : NodeId} {body : Body} :
    Tree.find? id body = none ↔ id ∉ Tree.ids body := by
  simp [Tree.find?_eq_find?_nodes, Tree.ids_eq_map_nodes]

/-- In a tree that names each node once, a node is known by its identity. -/
theorem Tree.UniqueIds.eq_of_id_eq {body : Body} (h : Tree.UniqueIds body) {m n : Node}
    (hm : m ∈ Tree.nodes body) (hn : n ∈ Tree.nodes body) (hid : m.id = n.id) : m = n := by
  rw [Tree.UniqueIds, Tree.ids_eq_map_nodes] at h
  exact List.inj_on_of_nodup_map h hm hn hid

end HandlerStudio
