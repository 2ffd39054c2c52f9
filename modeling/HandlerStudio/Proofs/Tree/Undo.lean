import HandlerStudio.Proofs.Tree.Insert
import HandlerStudio.Proofs.Tree.Remove
import HandlerStudio.Proofs.Tree.Taken

/-!
# Removing what was inserted

Removing a node that was just inserted gives the tree back. The tree may name nodes twice and hold
objects shaped like nodes: the insertion went down some way and was not refused on it, the new node
is the first one with its identity, and the removal goes the same way down and up again.
-/

namespace HandlerStudio

theorem Spine.open_append {p r : Spine} (hp : p.Open) (hr : r.Open)
    (hnode : ∀ u ∈ r.fill none, u.isNode = true) : Spine.Open (p ++ r) := by
  induction p with
  | nil => exact hr
  | cons f p ih =>
      cases f with
      | field id kind tier before key after =>
          obtain ⟨hsorted, hkey, hguard, hopen⟩ := hp
          have hsame := any_holdsNodeShape_fill p hnode (w := none) (by simp)
          rw [← fill_append] at hsame
          exact ⟨hsorted, hkey, hsame.trans hguard, ih hopen⟩
      | entry before key after => exact ⟨hp.1, ih hp.2⟩
      | item before after => exact ih hp

/-- The way from a node into its slot, where a child comes in. -/
theorem Node.exists_spine_insertChild {t : Node} (hs : Entries.Sorted t.fields) {slot : String}
    (hslot : t.insertionSlot? = some slot) (hfree : isReserved slot = false)
    (index : Option Nat) :
    ∃ r : Spine, r.Open ∧ r.fill none = some (.node t) ∧
      ∀ child, r.fill (some (.node child)) = some (.node (t.insertChild slot child index)) := by
  obtain ⟨ns, hget⟩ := get?_of_insertionSlot? hs hslot
  obtain ⟨before, after, rfl, -, hchild⟩ := exists_insertChild_eq hget index
  obtain ⟨pre, post, hsplit, hinsert⟩ := Entries.exists_insert_eq slot hs
  have hlookup : Entries.get? slot t.fields = some (.nodes (before ++ after)) := hget
  have hfields : t.fields = pre ++ (slot, .nodes (before ++ after)) :: post := by
    simpa [hlookup] using hsplit
  have hitems : (Frame.item (before.map .node) (after.map .node)).fill none =
      .nodes (before ++ after) := by
    simp [Frame.fill, Value.nodes]
  refine ⟨[.field t.id t.kind t.tier pre slot post,
    .item (before.map .node) (after.map .node)], ⟨?_, hfree, ?_, trivial⟩, ?_, ?_⟩
  · rw [hfields] at hs
    exact Entries.sorted_append_cons_congr hs _
  · rw [Spine.fill_cons, Spine.fill_nil, hitems]
    exact Value.holdsNodeShape_nodes _
  · rw [Spine.fill_cons, Spine.fill_cons, Spine.fill_nil, hitems]
    simp only [Frame.fill, Option.getD_some]
    rw [← hfields, t.eta]
  · intro child
    have hnew : (Frame.item (before.map .node) (after.map .node)).fill (some (.node child)) =
        .nodes (before ++ child :: after) := by
      simp [Frame.fill, Value.nodes]
    rw [Spine.fill_cons, Spine.fill_cons, Spine.fill_nil, hnew, hchild,
      withField_of_accepted hfree (Value.holdsNodeShape_nodes _), hinsert]
    rfl

namespace Tree

variable {body new : Body} {node : Node}

/-- A node that came in on an open way, where its identity was not in the tree, goes out again. -/
theorem remove_of_open {p : Spine} (hold : p.fill none = some (.nodes body))
    (hnew : p.fill (some (.node node)) = some (.nodes new)) (hopen : p.Open)
    (hfresh : node.id ∉ ids body) : remove new node.id = body := by
  have hids := Spine.ids_fill hold
  rw [Value.ids_nodes, Option.elim_none, List.append_nil] at hids
  have hpass : ∀ n : Node, n.id ∈ p.idsBefore → removeAt node.id n = none := by
    intro n hn
    apply removeAt_of_ne
    intro heq
    rw [heq] at hn
    exact hfresh (hids ▸ List.mem_append_left _ hn)
  have htake : removeAt node.id node = some .removed := by simp [removeAt]
  obtain ⟨back, hback, hfilled⟩ := amend?_of_open hnew hopen hpass htake rfl
  rw [remove, hback, Option.getD_some]
  exact Value.nodes_injective (Option.some.inj (hfilled.symm.trans hold))

theorem remove_insert_top (hclash : clash? body (.node node) none = none)
    (hfresh : node.id ∉ ids body) (index : Option Nat) :
    remove (insert body none node index) node.id = body := by
  obtain ⟨before, after, rfl, -, hinsert⟩ := exists_insertIdx_place body index
  rw [insert_top hclash, hinsert]
  apply remove_of_open (p := [.item (before.map .node) (after.map .node)]) _ _ trivial hfresh
  · simp [Frame.fill, Value.nodes]
  · simp [Frame.fill, Value.nodes]

theorem remove_insert_under (ho : Tree.Ordered body)
    (hclash : clash? body (.node node) none = none) (hfresh : node.id ∉ ids body) (parent : NodeId)
    (index : Option Nat) : remove (insert body (some parent) node index) node.id = body := by
  rw [insert_under hclash]
  cases hamend : amend? (insertAt parent node index) body with
  | none => exact remove_eq_self hfresh
  | some new =>
      rw [Option.getD_some]
      obtain ⟨p, t, o, x, hfill, htake, hx, hnew⟩ := exists_of_amend? ho hamend
      rcases hnew with ⟨-, rfl⟩ | ⟨hopen, hnew⟩
      · -- a node above the parent kept its field
        exact remove_eq_self hfresh
      obtain ⟨-, rfl | ⟨slot, hslot, rfl⟩⟩ := insertAt_eq_some htake
      · cases hx
      obtain rfl := Option.some.inj hx
      cases hfree : Node.isReserved slot with
      | true =>
          -- the parent itself keeps its field
          have hkeeps : t.insertChild slot node index = t := by
            simp [Node.insertChild, Node.withField, hfree]
          rw [hkeeps, hfill] at hnew
          obtain rfl := Value.nodes_injective (Option.some.inj hnew)
          exact remove_eq_self hfresh
      | false =>
          have ht : t ∈ nodes body := by
            rw [← Value.subtree_nodes]
            exact Spine.mem_subtree_fill hfill t.self_mem_subtree
          obtain ⟨r, hr, hrold, hrnew⟩ := Node.exists_spine_insertChild
            (sorted_fields_of_mem ho ht) hslot hfree index
          have hspine : Spine.Open (p ++ r) := by
            apply Spine.open_append hopen hr
            simp [hrold, Value.isNode, Value.asNode?]
          apply remove_of_open (p := p ++ r) _ _ hspine hfresh
          · rw [Spine.fill_append, hrold, hfill]
          · rw [Spine.fill_append, hrnew, hnew]

/-- Whatever the tree holds and wherever the node was to go, removing the node again gives the tree
back. -/
theorem remove_insert {body : Body} (ho : Tree.Ordered body) {node : Node}
    (hfresh : node.id ∉ ids body) (parent : Option NodeId) (index : Option Nat) :
    remove (insert body parent node index) node.id = body := by
  cases hclash : clash? body (.node node) none with
  | some _ =>
      have hrefused : insert body parent node index = body := by simp [insert, hclash]
      rw [hrefused]
      exact remove_eq_self hfresh
  | none =>
      cases parent with
      | none => exact remove_insert_top hclash hfresh index
      | some parent => exact remove_insert_under ho hclash hfresh parent index

/-- Two nodes of one identity, the first without a slot, and a loop inside an object shaped like a
node. -/
def sampleTangle : Body :=
  [.mk ⟨"a"⟩ .literal .universal [],
    .mk ⟨"a"⟩ .nativeBridge .universal [("body", .list []),
      ("held", .object [("id", .text "x"),
        ("in", .node (.mk ⟨"b"⟩ .whileStatement .universal [("body", .list [])])),
        ("tier", .null), ("type", .text "return")])]]

theorem ordered_sampleTangle : Tree.Ordered sampleTangle := by
  have hfields : ["body", "held"].Pairwise (· < ·) := by decide
  have hheld : ["id", "in", "tier", "type"].Pairwise (· < ·) := by decide
  have hloop : (Node.mk ⟨"b"⟩ .whileStatement .universal [("body", .list [])]).Ordered := by
    simp [Node.Ordered, Value.OrderedEntries, Value.Ordered, Value.OrderedItems, Entries.Sorted]
  have hobject : (Value.object [("id", .text "x"),
      ("in", .node (.mk ⟨"b"⟩ .whileStatement .universal [("body", .list [])])),
      ("tier", .null), ("type", .text "return")]).Ordered := by
    simp only [Value.Ordered, Value.orderedEntries_iff]
    exact ⟨hheld, by simp [hloop, Value.Ordered]⟩
  intro n hn
  rw [Node.ordered_iff]
  rcases List.mem_pair.mp hn with rfl | rfl
  · exact ⟨List.Pairwise.nil, by simp [Node.fields]⟩
  · refine ⟨hfields, ?_⟩
    rw [Node.fields, List.forall_mem_cons, List.forall_mem_singleton]
    exact ⟨by simp [Value.Ordered, Value.OrderedItems], hobject⟩

/-- A node comes in under the second of the two nodes and goes out again. Under the loop it does not
come in. -/
theorem remove_insert_sampleTangle :
    (⟨"n"⟩ : NodeId) ∈
        ids (insert sampleTangle (some ⟨"a"⟩) (.mk ⟨"n"⟩ .literal .universal []) none) ∧
      remove (insert sampleTangle (some ⟨"a"⟩) (.mk ⟨"n"⟩ .literal .universal []) none) ⟨"n"⟩ =
        sampleTangle ∧
      (⟨"n"⟩ : NodeId) ∉
        ids (insert sampleTangle (some ⟨"b"⟩) (.mk ⟨"n"⟩ .literal .universal []) none) ∧
      remove (insert sampleTangle (some ⟨"b"⟩) (.mk ⟨"n"⟩ .literal .universal []) none) ⟨"n"⟩ =
        sampleTangle := by
  have hfresh : (Node.mk ⟨"n"⟩ .literal .universal []).id ∉ ids sampleTangle := by decide
  refine ⟨by decide, ?_, by decide, ?_⟩
  · exact remove_insert ordered_sampleTangle hfresh _ _
  · exact remove_insert ordered_sampleTangle hfresh _ _

end Tree

end HandlerStudio
