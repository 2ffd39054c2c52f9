import HandlerStudio.Proofs.Tree.Rebuild

/-!
# Removing a node

A removal takes a node with all below it, and nothing else. The identities of the tree, in walking
order, lose the block of that node. What held the node stays: a list closes up, and a field or an
entry whose value the node was becomes null.
-/

namespace HandlerStudio

namespace Tree

variable {body : Body} {id : NodeId} {t : Node}

theorem removeAt_of_ne {n : Node} (h : n.id ≠ id) : removeAt id n = none := by
  simp [removeAt, h]

theorem remove_eq_self (h : id ∉ ids body) : remove body id = body := by
  rw [remove, amend?_eq_none_of_absent h fun _ => removeAt_of_ne]
  rfl

/-- Whatever way leads to the node, the tree stays around it, with nothing in its place. -/
theorem Proper.remove_of_fill (hb : Proper body) {p : Spine}
    (hfill : p.fill (some (.node t)) = some (.nodes body)) :
    p.fill none = some (.nodes (remove body t.id)) := by
  have htake : removeAt t.id t = some .removed := by simp [removeAt]
  obtain ⟨new, hnew, hfilled⟩ := hb.amend?_of_fill hfill (fun _ => removeAt_of_ne) htake rfl
  rw [remove, hnew]
  exact hfilled

/-- What it means that a node was removed. Its holder, at the end of a spine, is a node, an object
or a list, and the body is one of those lists. -/
structure Removed (body : Body) (t : Node) (result : Body) : Prop where
  ids_eq : ∃ pre post, ids body = pre ++ t.ids ++ post ∧ ids result = pre ++ post
  gone : ∀ m ∈ t.subtree, find? m.id result = none
  kept : ∀ m ∈ nodes body, m ∉ t.subtree → ∃ m', find? m.id result = some m'
  held : ∃ (p : Spine) (f : Frame), p.fill (some (f.fill (some (.node t)))) = some (.nodes body)
  field : ∀ (p : Spine) (id : NodeId) (kind : Kind) (tier : Tier)
      (before : List (String × Value)) (key : String) (after : List (String × Value)),
    p.fill (some (.node (.mk id kind tier (before ++ (key, .node t) :: after)))) =
        some (.nodes body) →
      p.fill (some (.node (.mk id kind tier (before ++ (key, .null) :: after)))) =
        some (.nodes result)
  entry : ∀ (p : Spine) (before : List (String × Value)) (key : String)
      (after : List (String × Value)),
    p.fill (some (.object (before ++ (key, .node t) :: after))) = some (.nodes body) →
      p.fill (some (.object (before ++ (key, .null) :: after))) = some (.nodes result)
  item : ∀ (p : Spine) (before after : List Value),
    p.fill (some (.list (before ++ .node t :: after))) = some (.nodes body) →
      p.fill (some (.list (before ++ after))) = some (.nodes result)
  top : ∀ before after : Body, body = before ++ t :: after → result = before ++ after

theorem exists_holder {p : Spine} (hfill : p.fill (some (.node t)) = some (.nodes body)) :
    ∃ (q : Spine) (f : Frame), q.fill (some (f.fill (some (.node t)))) = some (.nodes body) := by
  rcases List.eq_nil_or_concat' p with rfl | ⟨q, f, rfl⟩
  · -- a body is a list, and no node
    cases hfill
  · rw [Spine.fill_append] at hfill
    exact ⟨q, f, hfill⟩

theorem Proper.removed (hb : Proper body) {p : Spine}
    (hfill : p.fill (some (.node t)) = some (.nodes body)) :
    Removed body t (remove body t.id) := by
  have hold := Spine.ids_fill hfill
  have hnew := Spine.ids_fill (hb.remove_of_fill hfill)
  rw [Value.ids_nodes, Option.elim_some, Value.ids_node] at hold
  rw [Value.ids_nodes, Option.elim_none, List.append_nil] at hnew
  have hplace : ∀ (q : Spine) (f : Frame),
      q.fill (some (f.fill (some (.node t)))) = some (.nodes body) →
        q.fill (some (f.fill none)) = some (.nodes (remove body t.id)) := by
    intro q f hq
    have hremove := hb.remove_of_fill (p := q ++ [f]) (by rw [Spine.fill_append]; exact hq)
    rw [Spine.fill_append] at hremove
    exact hremove
  have hitem : ∀ (q : Spine) (before after : List Value),
      q.fill (some (.list (before ++ .node t :: after))) = some (.nodes body) →
        q.fill (some (.list (before ++ after))) = some (.nodes (remove body t.id)) := by
    intro q before after hq
    have hlist := hplace q (.item before after)
    simp only [Frame.fill, Option.toList_some, Option.toList_none, List.append_assoc,
      List.singleton_append, List.nil_append] at hlist
    exact hlist hq
  refine ⟨⟨_, _, hold, hnew⟩, ?_, ?_, exists_holder hfill, ?_, ?_, hitem, ?_⟩
  · intro m hm
    have hmt : m.id ∈ t.ids := Value.id_mem_ids (v := .node t) hm
    obtain ⟨hbefore, hafter⟩ := hb.uniqueIds.notMem_of_fill hfill hmt
    rw [find?_eq_none_iff, hnew, List.mem_append, not_or]
    exact ⟨hbefore, hafter⟩
  · intro m hm hout
    have hmem : m.id ∈ ids body := by
      rw [ids_eq_map_nodes]
      exact List.mem_map_of_mem hm
    have hmt : m.id ∉ t.ids := by
      intro hmt
      rw [Node.ids_eq_map_subtree] at hmt
      obtain ⟨m', hm', hid⟩ := List.mem_map.mp hmt
      have hbody : m' ∈ nodes body := by
        rw [← Value.subtree_nodes]
        exact Spine.mem_subtree_fill hfill hm'
      exact hout (hb.uniqueIds.eq_of_id_eq hbody hm hid ▸ hm')
    have hstays : m.id ∈ ids (remove body t.id) := by
      rw [hold, List.append_assoc, List.mem_append, List.mem_append] at hmem
      rw [hnew, List.mem_append]
      exact hmem.imp_right fun h => h.resolve_left hmt
    cases hfind : find? m.id (remove body t.id) with
    | none => exact absurd hstays (find?_eq_none_iff.mp hfind)
    | some m' => exact ⟨m', rfl⟩
  · intro q i kind tier before key after
    exact hplace q (.field i kind tier before key after)
  · intro q before key after
    exact hplace q (.entry before key after)
  · intro before after hsplit
    have htop := hitem [] (before.map .node) (after.map .node) (by simp [hsplit, Value.nodes])
    rw [Spine.fill_nil, ← List.map_append] at htop
    exact (Value.nodes_injective (Option.some.inj htop)).symm

/-- A node that is in the tree is removed with all below it, and removing it again changes
nothing. -/
theorem removed_once {body : Body} (hb : Proper body) {id : NodeId} (hid : id ∈ ids body) :
    ∃ t, find? id body = some t ∧ Removed body t (remove body id) ∧
      remove (remove body id) id = remove body id := by
  cases hfind : find? id body with
  | none => exact absurd hid (find?_eq_none_iff.mp hfind)
  | some t =>
      obtain ⟨p, hfill⟩ := exists_spine hfind
      obtain ⟨-, rfl⟩ := mem_of_find? hfind
      have hremoved := hb.removed hfill
      refine ⟨t, rfl, hremoved, remove_eq_self ?_⟩
      exact find?_eq_none_iff.mp (hremoved.gone t t.self_mem_subtree)

/-- The loop goes with its statement, from the list in the object of the branch. -/
theorem removed_sampleBody :
    ∃ t, find? ⟨"b2"⟩ sampleBody = some t ∧ Removed sampleBody t (remove sampleBody ⟨"b2"⟩) ∧
      remove (remove sampleBody ⟨"b2"⟩) ⟨"b2"⟩ = remove sampleBody ⟨"b2"⟩ :=
  removed_once proper_sampleBody (by decide)

end Tree

end HandlerStudio
