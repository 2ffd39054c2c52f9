import HandlerStudio.Proofs.Tree.Rebuild
import HandlerStudio.Proofs.Tree.UniqueIds

/-!
# Inserting a node

A node that may come in stands where it was asked for: among the nodes of the body, or in the slot
of its parent, at the index or at the end, and the identities of the tree get those of the node in
one place. A node that repeats an identity, or whose parent is not there or has no slot, is refused,
and then nothing changes.
-/

namespace HandlerStudio

/-! ## Slots -/

namespace Value

theorem exists_nodes_of_isNodeList {v : Value} (h : v.isNodeList = true) :
    ∃ ns : List Node, v = .nodes ns := by
  cases v with
  | null | bool _ | number _ | text _ | node _ | object _ => cases h
  | list items =>
      have hall : ∀ u ∈ items, u.isNode = true := List.all_eq_true.mp h
      have hmap : ∃ ns : List Node, items = ns.map .node := by
        clear h
        induction items with
        | nil => exact ⟨[], rfl⟩
        | cons u us ih =>
            rw [List.forall_mem_cons] at hall
            obtain ⟨n, rfl⟩ := exists_of_isNode hall.1
            obtain ⟨ns, rfl⟩ := ih hall.2
            exact ⟨n :: ns, rfl⟩
      obtain ⟨ns, rfl⟩ := hmap
      exact ⟨ns, rfl⟩

theorem isNodeList_of_isPopulatedNodeList {v : Value} (h : v.isPopulatedNodeList = true) :
    v.isNodeList = true := by
  unfold isPopulatedNodeList at h
  split at h
  · cases h
  · exact h

theorem holdsNodeShape_nodes (ns : List Node) : (nodes ns).holdsNodeShape = false := by
  simp [nodes, holdsNodeShape, itemsHoldNodeShape_eq_any]

end Value

namespace Node

/-- The slot for new nodes is a field that holds nodes only. -/
theorem get?_of_insertionSlot? {t : Node} (hs : Entries.Sorted t.fields) {slot : String}
    (h : t.insertionSlot? = some slot) : ∃ ns : List Node, t.get? slot = some (.nodes ns) := by
  have hfield : ∃ v, t.get? slot = some v ∧ v.isNodeList = true := by
    unfold insertionSlot? at h
    split at h
    · next key hkey =>
      obtain rfl := Option.some.inj h
      have hany := List.find?_some hkey
      cases hget : t.get? key with
      | none => simp [hget] at hany
      | some v => exact ⟨v, rfl, by simpa [hget] using hany⟩
    · obtain ⟨e, he, rfl⟩ := Option.map_eq_some_iff.mp h
      have hpopulated := List.find?_some he
      exact ⟨e.2, Entries.get?_eq_some_of_mem hs (List.mem_of_find?_eq_some he),
        Value.isNodeList_of_isPopulatedNodeList hpopulated⟩
  obtain ⟨v, hget, hlist⟩ := hfield
  obtain ⟨ns, rfl⟩ := Value.exists_nodes_of_isNodeList hlist
  exact ⟨ns, hget⟩

theorem exists_insertChild_eq {t : Node} {slot : String} {ns : List Node}
    (hget : t.get? slot = some (.nodes ns)) (index : Option Nat) :
    ∃ before after, ns = before ++ after ∧
      before.length = min (index.getD ns.length) ns.length ∧
      ∀ child, t.insertChild slot child index =
        t.withField slot (.nodes (before ++ child :: after)) := by
  obtain ⟨before, after, hsplit, hlen, hinsert⟩ := exists_insertIdx_place ns index
  refine ⟨before, after, hsplit, hlen, ?_⟩
  intro child
  have hitems : ((t.get? slot).bind Value.asList?).getD [] = ns.map .node := by
    rw [hget]
    rfl
  rw [insertChild, hitems, List.length_map, ← List.map_insertIdx, hinsert]
  rfl

end Node

namespace Tree

/-! ## Refusals -/

/-- The node brings an identity twice or one that the tree has, or its parent is not in the tree or
has no slot. -/
def RefusesNode (body : Body) (parent : Option NodeId) (node : Node) : Prop :=
  ¬ node.ids.Nodup ∨ (∃ id ∈ node.ids, id ∈ ids body) ∨
    ∃ id, parent = some id ∧
      (id ∉ ids body ∨ ∃ t, find? id body = some t ∧ t.insertionSlot? = none)

theorem clash?_node_eq_none_iff (body : Body) (node : Node) :
    clash? body (.node node) none = none ↔ node.ids.Nodup ∧ ∀ id ∈ node.ids, id ∉ ids body := by
  rw [clash?_eq_none_iff, Value.ids_node]
  refine and_congr_right fun _ => ⟨fun h id hid hmem => ?_, fun h id hmem hid => ?_⟩
  · obtain ⟨v, hv, -⟩ := h id hmem hid
    cases hv
  · exact absurd hmem (h id hid)

section

variable {body : Body} {node : Node} (hclash : clash? body (.node node) none = none)
  (index : Option Nat)

include hclash

theorem insert_top : insert body none node index =
    body.insertIdx (Node.place index body.length) node := by
  simp [insert, hclash]

theorem insert_under (id : NodeId) :
    insert body (some id) node index = (amend? (insertAt id node index) body).getD body := by
  simp [insert, hclash]

end

/-- A parent that is not there or has no slot takes nothing. -/
theorem passes_insertAt {body : Body} (hu : UniqueIds body) {parent : NodeId} {node : Node}
    {index : Option Nat}
    (h : parent ∉ ids body ∨ ∃ t, find? parent body = some t ∧ t.insertionSlot? = none) :
    ∀ n ∈ nodes body, Passes (insertAt parent node index) n := by
  intro n hn
  by_cases hid : n.id = parent
  · right
    rcases h with habsent | ⟨t, hfind, hslot⟩
    · rw [ids_eq_map_nodes, ← hid] at habsent
      exact absurd (List.mem_map_of_mem hn) habsent
    · have hself := hu.find?_eq_some hn
      rw [hid, hfind] at hself
      obtain rfl := Option.some.inj hself
      simp [insertAt, hid, hslot]
  · left
    simp [insertAt, hid]

theorem insert_eq_self {body : Body} (hu : UniqueIds body) {parent : Option NodeId} {node : Node}
    (h : RefusesNode body parent node) (index : Option Nat) :
    insert body parent node index = body := by
  cases hclash : clash? body (.node node) none with
  | some id => simp [insert, hclash]
  | none =>
      obtain ⟨hnodup, hfresh⟩ := (clash?_node_eq_none_iff body node).mp hclash
      rcases h with hrepeat | ⟨id, hid, hmem⟩ | ⟨id, rfl, hparent⟩
      · exact absurd hnodup hrepeat
      · exact absurd hmem (hfresh id hid)
      · rw [insert_under hclash, amend?_eq_none (passes_insertAt hu hparent)]
        rfl

/-- A node that is not refused has a place: at the top, or in the slot of its parent. -/
theorem exists_place_of_not_refuses {body : Body} {parent : Option NodeId} {node : Node}
    (h : ¬ RefusesNode body parent node) :
    clash? body (.node node) none = none ∧
      (parent = none ∨ ∃ id t slot, parent = some id ∧ find? id body = some t ∧
        t.insertionSlot? = some slot) := by
  rw [RefusesNode, not_or, not_not, not_or] at h
  obtain ⟨hnodup, hfresh, hparent⟩ := h
  refine ⟨(clash?_node_eq_none_iff body node).mpr
    ⟨hnodup, fun id hid hmem => hfresh ⟨id, hid, hmem⟩⟩, ?_⟩
  cases parent with
  | none => exact Or.inl rfl
  | some id =>
      cases hfind : find? id body with
      | none => exact absurd ⟨id, rfl, Or.inl (find?_eq_none_iff.mp hfind)⟩ hparent
      | some t =>
          cases hslot : t.insertionSlot? with
          | none => exact absurd ⟨id, rfl, Or.inr ⟨t, hfind, hslot⟩⟩ hparent
          | some slot => exact Or.inr ⟨id, t, slot, rfl, hfind, hslot⟩

/-! ## Insertions -/

/-- On an open way to the parent, the tree stays around the parent, and the parent gets the node in
its slot. -/
theorem exists_insert_of_open {t : Node} (hs : Entries.Sorted t.fields) {slot : String}
    (hslot : t.insertionSlot? = some slot) (index : Option Nat) :
    ∃ before after : List Node, t.get? slot = some (.nodes (before ++ after)) ∧
      before.length = min (index.getD (before ++ after).length) (before ++ after).length ∧
      ∀ {body : Body} {node : Node} {p : Spine}, clash? body (.node node) none = none →
        p.fill (some (.node t)) = some (.nodes body) → p.Open → t.id ∉ p.idsBefore →
        p.fill (some (.node (t.withField slot (.nodes (before ++ node :: after))))) =
          some (.nodes (insert body (some t.id) node index)) := by
  obtain ⟨ns, hget⟩ := Node.get?_of_insertionSlot? hs hslot
  obtain ⟨before, after, rfl, hlen, hchild⟩ := Node.exists_insertChild_eq hget index
  refine ⟨before, after, hget, hlen, ?_⟩
  intro body node p hclash hfill hopen hfirst
  have htake : insertAt t.id node index t = some (.replaced (t.insertChild slot node index)) := by
    simp [insertAt, hslot]
  have hpass : ∀ m : Node, m.id ∈ p.idsBefore → insertAt t.id node index m = none := by
    intro m hm
    have hne : m.id ≠ t.id := fun hid => hfirst (hid ▸ hm)
    simp [insertAt, hne]
  obtain ⟨new, hnew, hfilled⟩ := amend?_of_open hfill hopen hpass htake rfl
  rw [insert_under hclash, hnew, ← hchild]
  exact hfilled

theorem Proper.exists_insert_under {body : Body} (hb : Proper body) {node : Node}
    (hclash : clash? body (.node node) none = none) {id : NodeId} {t : Node}
    (hfind : find? id body = some t) {slot : String} (hslot : t.insertionSlot? = some slot)
    (index : Option Nat) :
    ∃ before after : List Node, t.get? slot = some (.nodes (before ++ after)) ∧
      before.length = min (index.getD (before ++ after).length) (before ++ after).length ∧
      Node.isReserved slot = false ∧
      ∀ p : Spine, p.fill (some (.node t)) = some (.nodes body) →
        p.fill (some (.node (t.withField slot (.nodes (before ++ node :: after))))) =
          some (.nodes (insert body (some id) node index)) := by
  obtain ⟨hsorted, hkeys, -⟩ := t.regular_iff.mp (hb.regular_of_find? hfind)
  obtain ⟨-, rfl⟩ := mem_of_find? hfind
  obtain ⟨before, after, hget, hlen, hinsert⟩ := exists_insert_of_open hsorted hslot index
  refine ⟨before, after, hget, hlen, hkeys _ (Entries.mem_of_get?_eq_some hget), ?_⟩
  intro p hfill
  exact hinsert hclash hfill (hb.open_of_fill hfill) (hb.uniqueIds.self_notMem_of_fill hfill)

/-- The identities of the tree get those of the new node in one place. -/
theorem exists_ids_of_fill {t node : Node} (hs : Entries.Sorted t.fields) {slot : String}
    (hfree : Node.isReserved slot = false) {before after : List Node}
    (hget : t.get? slot = some (.nodes (before ++ after))) {p : Spine} {body new : Body}
    (hold : p.fill (some (.node t)) = some (.nodes body))
    (hnew : p.fill (some (.node (t.withField slot (.nodes (before ++ node :: after))))) =
      some (.nodes new)) :
    ∃ pre post, ids body = pre ++ post ∧ ids new = pre ++ node.ids ++ post := by
  obtain ⟨pre, post, hids, hset⟩ := Node.exists_ids_insert hs slot
  have hold' := Spine.ids_fill hold
  have hnew' := Spine.ids_fill hnew
  rw [Value.ids_nodes, Option.elim_some, Value.ids_node] at hold' hnew'
  refine ⟨p.idsBefore ++ pre ++ ids before, ids after ++ post ++ p.idsAfter, ?_, ?_⟩
  · rw [hold', hids, hget, Option.elim_some, Value.ids_nodes]
    simp [ids_eq_flatMap]
  · rw [hnew', Node.withField_of_accepted hfree (Value.holdsNodeShape_nodes _), hset,
      Value.ids_nodes]
    simp [ids_eq_flatMap]

/-- What it means that a node was inserted: it is found, its identities stand together among those
of the tree, and it is where it was asked for, in the body or in the slot of its parent, of which
nothing else changed. -/
structure Inserted (body : Body) (parent : Option NodeId) (node : Node) (index : Option Nat)
    (result : Body) : Prop where
  found : find? node.id result = some node
  ids_eq : ∃ pre post, ids body = pre ++ post ∧ ids result = pre ++ node.ids ++ post
  top : parent = none → ∃ before after, body = before ++ after ∧
    before.length = min (index.getD body.length) body.length ∧ result = before ++ node :: after
  under : ∀ id, parent = some id → ∃ t slot before after t',
    find? id body = some t ∧ t.insertionSlot? = some slot ∧
    t.get? slot = some (.nodes (before ++ after)) ∧
    before.length = min (index.getD (before ++ after).length) (before ++ after).length ∧
    find? id result = some t' ∧ t.SetsField slot (.nodes (before ++ node :: after)) t'

theorem inserted_top {body : Body} (hb : Proper body) {node : Node}
    (hclash : clash? body (.node node) none = none) (index : Option Nat) :
    Inserted body none node index (insert body none node index) := by
  have hunique := uniqueIds_insert hb.ordered hb.uniqueIds none node index
  obtain ⟨before, after, hsplit, hlen, hinsert⟩ := exists_insertIdx_place body index
  rw [insert_top hclash, hinsert] at hunique ⊢
  refine ⟨?_, ⟨ids before, ids after, ?_, ?_⟩, fun _ => ⟨before, after, hsplit, hlen, rfl⟩, ?_⟩
  · apply hunique.find?_eq_some
    exact List.mem_flatMap.mpr ⟨node, by simp, node.self_mem_subtree⟩
  · simp [hsplit, ids_eq_flatMap]
  · simp [ids_eq_flatMap]
  · intro id hid
    cases hid

theorem inserted_under {body : Body} (hb : Proper body) {node : Node}
    (hclash : clash? body (.node node) none = none) {id : NodeId} {t : Node}
    (hfind : find? id body = some t) {slot : String} (hslot : t.insertionSlot? = some slot)
    (index : Option Nat) :
    Inserted body (some id) node index (insert body (some id) node index) := by
  have hunique := uniqueIds_insert hb.ordered hb.uniqueIds (some id) node index
  obtain ⟨before, after, hget, hlen, hfree, hinsert⟩ :=
    hb.exists_insert_under hclash hfind hslot index
  obtain ⟨p, hold⟩ := exists_spine hfind
  have hnew := hinsert p hold
  have hguard := Value.holdsNodeShape_nodes (before ++ node :: after)
  have hset : t.SetsField slot (.nodes (before ++ node :: after)) _ :=
    Node.setsField_withField hfree hguard
  -- the parent is in the new tree, and the node is below it
  have hbelow := fun m => hunique.find?_of_fill (m := m) hnew
  have hnode : node ∈ (Value.nodes (before ++ node :: after)).subtree := by
    rw [Value.subtree_nodes]
    exact List.mem_flatMap.mpr ⟨node, by simp, node.self_mem_subtree⟩
  have hsorted : Entries.Sorted t.fields := (t.regular_iff.mp (hb.regular_of_find? hfind)).1
  refine ⟨hbelow node (Node.mem_subtree_of_get? hset.get?_key hnode),
    exists_ids_of_fill hsorted hfree hget hold hnew, ?_, ?_⟩
  · intro h
    cases h
  · intro other hother
    obtain rfl := Option.some.inj hother
    have hparent := hbelow _ (Node.self_mem_subtree _)
    rw [hset.id_eq, (mem_of_find? hfind).2] at hparent
    exact ⟨t, slot, before, after, _, hfind, hslot, hget, hlen, hparent, hset⟩

/-- Every insertion is refused and leaves the tree as it is, or puts the node where it was asked
for. -/
theorem insert_refused_or_placed {body : Body} (hb : Proper body) (parent : Option NodeId)
    (node : Node) (index : Option Nat) :
    (RefusesNode body parent node → insert body parent node index = body) ∧
      (¬ RefusesNode body parent node →
        Inserted body parent node index (insert body parent node index)) := by
  refine ⟨fun h => insert_eq_self hb.uniqueIds h index, fun h => ?_⟩
  obtain ⟨hclash, rfl | ⟨id, t, slot, rfl, hfind, hslot⟩⟩ := exists_place_of_not_refuses h
  · exact inserted_top hb hclash index
  · exact inserted_under hb hclash hfind hslot index

/-- A new node comes in under the loop, far beyond the end of its slot; one that is there already
does not. -/
theorem insert_sampleBody :
    Inserted sampleBody (some ⟨"b2"⟩) (.mk ⟨"b4"⟩ .literal .universal []) (some 7)
        (insert sampleBody (some ⟨"b2"⟩) (.mk ⟨"b4"⟩ .literal .universal []) (some 7)) ∧
      insert sampleBody (some ⟨"b2"⟩) (.mk ⟨"b3"⟩ .literal .universal []) none = sampleBody := by
  have hids : ids sampleBody = [⟨"b1"⟩, ⟨"b2"⟩, ⟨"b3"⟩] := by decide
  constructor
  · refine (insert_refused_or_placed proper_sampleBody _ _ _).2 ?_
    rintro (hrepeat | ⟨id, hid, hmem⟩ | ⟨id, hid, habsent | ⟨t, hfind, hslot⟩⟩)
    · exact hrepeat (by simp)
    · rw [hids] at hmem
      simp at hid hmem
      simp [hid] at hmem
    · obtain rfl := Option.some.inj hid
      rw [hids] at habsent
      exact habsent (by decide)
    · obtain rfl := Option.some.inj hid
      obtain rfl := Option.some.inj hfind
      cases hslot
  · refine (insert_refused_or_placed proper_sampleBody _ _ _).1 (Or.inr (Or.inl ⟨⟨"b3"⟩, ?_, ?_⟩))
    · simp
    · rw [hids]
      decide

end Tree

end HandlerStudio
