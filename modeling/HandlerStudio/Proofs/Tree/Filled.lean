import HandlerStudio.Proofs.Tree.Insert

/-!
# Filling a slot

Nodes that are inserted under one parent, each at the end, stand in one slot in the order in which
they came. The slot is chosen anew for every insertion, by the shapes of the parent's fields; an
insertion makes the chosen slot neither worse nor another one better, so the choice stays. The new
nodes may hold whatever they like, and the tree around the parent is not asked again: the way to the
parent was open at the first insertion and stays open.
-/

namespace HandlerStudio

namespace Value

@[simp] theorem isNodeList_nodes (ns : List Node) : (nodes ns).isNodeList = true := by
  simp [nodes, isNodeList, isNode, asNode?]

theorem isPopulatedNodeList_nodes {ns : List Node} (hne : ns ≠ []) :
    (nodes ns).isPopulatedNodeList = true := by
  cases ns with
  | nil => exact absurd rfl hne
  | cons n ns => exact isNodeList_nodes (n :: ns)

end Value

namespace Node

variable {t : Node} {slot : String}

theorem slot_of_get? {ns : List Node} (hget : t.get? slot = some (.nodes ns)) :
    t.slot slot = ns := by
  have hchildren : (Value.nodes ns).children = ns := by
    simp [Value.nodes, Value.children, Value.childrenOfItems_eq, List.flatMap_map]
  simp [Node.slot, hget, hchildren]

/-- The slot for new nodes is still that one when it holds other nodes. -/
theorem insertionSlot?_withField (hs : Entries.Sorted t.fields)
    (hslot : t.insertionSlot? = some slot) (hfree : isReserved slot = false) {ns : List Node}
    (hne : ns ≠ []) : (t.withField slot (.nodes ns)).insertionSlot? = some slot := by
  obtain ⟨old, hget⟩ := get?_of_insertionSlot? hs hslot
  have hguard := Value.holdsNodeShape_nodes ns
  have hset : t.SetsField slot (.nodes ns) _ := setsField_withField hfree hguard
  -- the fields that are slots are the same as before
  have hlists : ∀ key, ((t.withField slot (.nodes ns)).get? key).any Value.isNodeList =
      (t.get? key).any Value.isNodeList := by
    intro key
    by_cases hkey : key = slot
    · rw [hkey, hset.get?_key, hget]
      simp
    · rw [hset.get?_other key hkey]
  unfold insertionSlot? at hslot ⊢
  simp only [hlists]
  cases hpriority : slotPriority.find? fun key => (t.get? key).any Value.isNodeList with
  | some key => simpa only [hpriority] using hslot
  | none =>
      -- the slot is the first one in use, and what stands before it did not change
      simp only [hpriority] at hslot ⊢
      obtain ⟨⟨key, v⟩, hfirst, rfl⟩ := Option.map_eq_some_iff.mp hslot
      obtain ⟨-, before, after, hfields, hbefore⟩ := List.find?_eq_some_iff_append.mp hfirst
      rw [withField_of_accepted hfree hguard, Node.fields, hfields,
        Entries.insert_append_cons (hfields ▸ hs)]
      have hnone : before.find? (fun e => e.2.isPopulatedNodeList) = none := by
        simpa using hbefore
      simp [List.find?_append, hnone, Value.isPopulatedNodeList_nodes hne]

theorem SetsField.trans {n m k : Node} {v w : Value} (h : n.SetsField slot v m)
    (h' : m.SetsField slot w k) : n.SetsField slot w k where
  id_eq := h'.id_eq.trans h.id_eq
  kind_eq := h'.kind_eq.trans h.kind_eq
  tier_eq := h'.tier_eq.trans h.tier_eq
  get?_key := h'.get?_key
  get?_other := fun other hne => (h'.get?_other other hne).trans (h.get?_other other hne)

end Node

namespace Tree

/-- Insert nodes one after another under a parent, each at the end. -/
def insertAll (body : Body) (parent : NodeId) (added : List Node) : Body :=
  added.foldl (fun body node => insert body (some parent) node none) body

/-- The node stands at the end of an open way down a tree that names each node once, and new nodes
go to the slot. -/
structure Seated (p : Spine) (slot : String) (body : Body) (t : Node) : Prop where
  fill_eq : p.fill (some (.node t)) = some (.nodes body)
  isOpen : p.Open
  uniqueIds : UniqueIds body
  sorted : Entries.Sorted t.fields
  slot_eq : t.insertionSlot? = some slot
  free : Node.isReserved slot = false

theorem Proper.exists_seated {body : Body} (hb : Proper body) {t : Node} (ht : t ∈ nodes body)
    {slot : String} (hslot : t.insertionSlot? = some slot) : ∃ p, Seated p slot body t := by
  have hfind := hb.uniqueIds.find?_eq_some ht
  obtain ⟨p, hfill⟩ := exists_spine hfind
  obtain ⟨hsorted, hkeys, -⟩ := t.regular_iff.mp (hb.regular_of_find? hfind)
  obtain ⟨ns, hget⟩ := Node.get?_of_insertionSlot? hsorted hslot
  exact ⟨p, hfill, hb.open_of_fill hfill, hb.uniqueIds, hsorted, hslot,
    hkeys _ (Entries.mem_of_get?_eq_some hget)⟩

namespace Seated

variable {p : Spine} {slot : String} {body : Body} {t : Node}

theorem get?_slot (h : Seated p slot body t) : t.get? slot = some (.nodes (t.slot slot)) := by
  obtain ⟨ns, hget⟩ := Node.get?_of_insertionSlot? h.sorted h.slot_eq
  rw [Node.slot_of_get? hget, hget]

theorem find?_eq (h : Seated p slot body t) : find? t.id body = some t :=
  h.uniqueIds.find?_of_fill h.fill_eq t.self_mem_subtree

/-- One insertion: the parent keeps its place and its slot, and the node comes last in it. -/
theorem insert (h : Seated p slot body t) {node : Node} (hnodup : node.ids.Nodup)
    (hfresh : ∀ id ∈ node.ids, id ∉ ids body) :
    ∃ t', Seated p slot (Tree.insert body (some t.id) node none) t' ∧
      t.SetsField slot (.nodes (t.slot slot ++ [node])) t' ∧
      ∀ id ∈ ids (Tree.insert body (some t.id) node none), id ∈ node.ids ∨ id ∈ ids body := by
  obtain ⟨before, after, hget, hlen, hinsert⟩ := exists_insert_of_open h.sorted h.slot_eq none
  -- without an index the place is the end
  obtain rfl : after = [] := by
    rw [Option.getD_none, Nat.min_self, List.length_append] at hlen
    exact List.eq_nil_of_length_eq_zero (by omega)
  obtain rfl : t.slot slot = before := by simpa using Node.slot_of_get? hget
  have hclash : clash? body (.node node) none = none :=
    (clash?_node_eq_none_iff body node).mpr ⟨hnodup, hfresh⟩
  have hnew := hinsert hclash h.fill_eq h.isOpen (h.uniqueIds.self_notMem_of_fill h.fill_eq)
  have hguard := Value.holdsNodeShape_nodes (t.slot slot ++ [node])
  obtain ⟨pre, post, hold, hids⟩ := exists_ids_of_fill h.sorted h.free hget h.fill_eq hnew
  refine ⟨_, ⟨hnew, h.isOpen, ?_, ?_, ?_, h.free⟩, Node.setsField_withField h.free hguard, ?_⟩
  · rw [UniqueIds, hids]
    refine nodup_append_block_iff.mpr ⟨hnodup, hold ▸ h.uniqueIds, ?_⟩
    rwa [hold] at hfresh
  · rw [Node.withField_of_accepted h.free hguard]
    exact Entries.sorted_insert h.sorted _ _
  · exact Node.insertionSlot?_withField h.sorted h.slot_eq h.free (by simp)
  · intro id hid
    rw [hids, List.append_assoc, List.mem_append, List.mem_append] at hid
    rw [hold, List.mem_append]
    tauto

/-- All insertions: each finds the parent in its place and its slot as the one before left it. -/
theorem insertAll (h : Seated p slot body t) {added : List Node} (hunique : UniqueIds added)
    (hfresh : ∀ id ∈ ids added, id ∉ ids body) :
    ∃ t', Seated p slot (Tree.insertAll body t.id added) t' ∧
      t.SetsField slot (.nodes (t.slot slot ++ added)) t' := by
  induction added generalizing body t with
  | nil =>
      refine ⟨t, h, rfl, rfl, rfl, ?_, fun _ _ => rfl⟩
      rw [List.append_nil]
      exact h.get?_slot
  | cons node added ih =>
      rw [UniqueIds, ids_eq_flatMap, List.flatMap_cons, ← ids_eq_flatMap, List.nodup_append]
        at hunique
      obtain ⟨hnodup, hrest, happart⟩ := hunique
      rw [ids_eq_flatMap, List.flatMap_cons, ← ids_eq_flatMap, List.forall_mem_append] at hfresh
      obtain ⟨next, hseated, hset, hids⟩ := h.insert hnodup hfresh.1
      have hfresh' : ∀ id ∈ ids added, id ∉ ids (Tree.insert body (some t.id) node none) := by
        intro id hid hmem
        rcases hids id hmem with hnode | hold
        · exact happart id hnode id hid rfl
        · exact hfresh.2 id hid hold
      obtain ⟨last, hlast, hsets⟩ := ih hseated hrest hfresh'
      have hslot : next.slot slot = t.slot slot ++ [node] := Node.slot_of_get? hset.get?_key
      rw [hslot, List.append_assoc, List.singleton_append] at hsets
      rw [hset.id_eq] at hlast
      exact ⟨last, hlast, hset.trans hsets⟩

end Seated

/-- Nodes with identities of their own, inserted one after another under a parent that has a slot
for them, stand in that slot after what it held, in the order in which they came. The slot for new
nodes is still that one, and all else about the parent is as it was. -/
theorem slot_filled_in_order {body : Body} (hb : Proper body) {t : Node} (ht : t ∈ nodes body)
    {slot : String} (hslot : t.insertionSlot? = some slot) {added : List Node}
    (hnodup : ∀ n ∈ added, n.ids.Nodup)
    (hdisjoint : added.Pairwise fun m n => ∀ id ∈ m.ids, id ∉ n.ids)
    (hfresh : ∀ n ∈ added, ∀ id ∈ n.ids, id ∉ ids body) :
    ∃ t', find? t.id (insertAll body t.id added) = some t' ∧
      t'.insertionSlot? = some slot ∧ t'.slot slot = t.slot slot ++ added ∧
      (∀ key, key ≠ slot → t'.get? key = t.get? key) ∧
      t'.kind = t.kind ∧ t'.tier = t.tier := by
  obtain ⟨p, hseated⟩ := hb.exists_seated ht hslot
  have hunique : UniqueIds added := by
    rw [UniqueIds, ids_eq_flatMap, List.nodup_flatMap]
    exact ⟨hnodup, hdisjoint.imp fun hapart id hid => hapart id hid⟩
  have hapart : ∀ id ∈ ids added, id ∉ ids body := by
    intro id hid
    rw [ids_eq_flatMap, List.mem_flatMap] at hid
    obtain ⟨n, hn, hmem⟩ := hid
    exact hfresh n hn id hmem
  obtain ⟨t', hfilled, hset⟩ := hseated.insertAll hunique hapart
  refine ⟨t', ?_, hfilled.slot_eq, Node.slot_of_get? hset.get?_key, hset.get?_other, hset.kind_eq,
    hset.tier_eq⟩
  have hfind := hfilled.find?_eq
  rwa [hset.id_eq] at hfind

/-- A node with two lists, of which only the second is in use. -/
def sampleSteps : Node :=
  .mk ⟨"p"⟩ .nativeBridge .native
    [("drafts", .list []), ("steps", .nodes [.mk ⟨"a"⟩ .literal .universal []])]

/-- A node that holds an object shaped like one, and a loop. -/
def sampleAdded : List Node :=
  [.mk ⟨"b"⟩ .literal .universal
      [("value", .object [("id", .text "x"), ("tier", .null), ("type", .text "return")])],
    .mk ⟨"c"⟩ .whileStatement .universal [("body", .nodes [.mk ⟨"d"⟩ .literal .universal []])]]

theorem proper_sampleSteps : Proper [sampleSteps] := by
  have hsorted : ["drafts", "steps"].Pairwise (· < ·) := by decide
  refine ⟨?_, ?_, ?_⟩
  · rw [List.forall_mem_singleton, Node.regular_iff]
    refine ⟨hsorted, by decide, ?_⟩
    simp [sampleSteps, Node.fields, Value.nodes, Value.regular_list_iff, Value.regular_node_iff,
      Node.regular_iff, Entries.Sorted]
  · have hids : duplicateIds [sampleSteps] = [] := by decide
    exact (duplicateIds_eq_nil_iff _).mp hids
  · simp [sampleSteps, Node.undisguised_mk_iff, Value.nodes, Value.undisguised_list_iff,
      Value.undisguised_node_iff]

/-- The new nodes go to the list in use, in their order. -/
theorem slot_filled_sampleSteps :
    ∃ t', find? ⟨"p"⟩ (insertAll [sampleSteps] ⟨"p"⟩ sampleAdded) = some t' ∧
      t'.insertionSlot? = some "steps" ∧
      (t'.slot "steps").map Node.id = [⟨"a"⟩, ⟨"b"⟩, ⟨"c"⟩] ∧
      t'.get? "drafts" = some (.list []) := by
  have hmem : sampleSteps ∈ nodes [sampleSteps] :=
    List.mem_flatMap.mpr ⟨_, List.mem_singleton_self _, sampleSteps.self_mem_subtree⟩
  have hslot : sampleSteps.insertionSlot? = some "steps" := by decide
  have hnodup : ∀ n ∈ sampleAdded, n.ids.Nodup := by decide
  have hdisjoint : sampleAdded.Pairwise fun m n => ∀ id ∈ m.ids, id ∉ n.ids := by decide
  have hfresh : ∀ n ∈ sampleAdded, ∀ id ∈ n.ids, id ∉ ids [sampleSteps] := by decide
  obtain ⟨t', hfind, hkept, hfilled, hother, -, -⟩ :=
    slot_filled_in_order proper_sampleSteps hmem hslot hnodup hdisjoint hfresh
  refine ⟨t', hfind, hkept, ?_, hother "drafts" (by decide)⟩
  rw [hfilled]
  decide

end Tree

end HandlerStudio
