import HandlerStudio.Proofs.Tree.Insert
import HandlerStudio.Proofs.Tree.Remove
import HandlerStudio.Proofs.Tree.Update

/-!
# Edits are local

An edit changes one node and what is below it. A node apart from it is found as it was. A node above
it keeps its header, its keys and every field but the one that leads down to the edit. So nothing is
lost but the subtree of a removed node, or the old value of a field that was set.
-/

namespace HandlerStudio

theorem Node.SetsField.mem_subtree {n m q : Node} {key : String} {v : Value}
    (h : n.SetsField key v m) (hs : Entries.Sorted n.fields) (hq : q ∈ n.subtree) (hne : q ≠ n)
    (hkeep : ∀ u, n.get? key = some u → q ∈ u.subtree → q ∈ v.subtree) : q ∈ m.subtree := by
  rw [← n.eta, Node.subtree_mk, n.eta, List.mem_cons] at hq
  obtain ⟨⟨k, u⟩, hfield, hmem⟩ := List.mem_flatMap.mp (hq.resolve_left hne)
  have hget : n.get? k = some u := Entries.get?_eq_some_of_mem hs hfield
  by_cases hk : k = key
  · subst hk
    exact Node.mem_subtree_of_get? h.get?_key (hkeep u hget hmem)
  · exact Node.mem_subtree_of_get? ((h.get?_other k hk).trans hget) hmem

namespace Tree

variable {body result : Body} {id : NodeId} {t q : Node}

/-- In a tree that names each node once, a node that has another below it is on the way to it. -/
theorem UniqueIds.exists_spine_through (hu : UniqueIds body) (hq : q ∈ nodes body)
    (ht : t ∈ nodes body) (hid : t.id ∈ q.ids) :
    ∃ p r : Spine, p.fill (some (.node q)) = some (.nodes body) ∧
      r.fill (some (.node t)) = some (.node q) := by
  obtain ⟨p, hp⟩ := exists_spine (hu.find?_eq_some hq)
  cases hfind : (Value.node q).find? t.id with
  | none => exact absurd hid ((Value.find?_eq_none_iff t.id _).mp hfind)
  | some m =>
      obtain ⟨hm, hmid⟩ := Value.mem_of_find? t.id _ hfind
      have hbody : m ∈ nodes body := by
        rw [← Value.subtree_nodes]
        exact Spine.mem_subtree_fill hp hm
      obtain rfl := hu.eq_of_id_eq hbody ht hmid
      obtain ⟨r, hr, -⟩ := Value.exists_spine _ _ hfind
      exact ⟨p, r, hp, hr⟩

/-- What stays as it was when the node of an identity is edited and the nodes `lost` go. -/
structure LocalAt (body : Body) (id : NodeId) (lost : Node → Prop) (result : Body) : Prop where
  absent : id ∉ ids body → result = body
  kept : ∀ q ∈ nodes body, ¬ lost q →
    ∃ q', find? q.id result = some q' ∧ q'.id = q.id ∧ q'.kind = q.kind ∧ q'.tier = q.tier
  apart : ∀ q ∈ nodes body, ¬ lost q → id ∉ q.ids → find? q.id result = find? q.id body
  above : ∀ q ∈ nodes body, q.id ≠ id → id ∈ q.ids →
    ∃ q' key u v, find? q.id result = some q' ∧ q.get? key = some u ∧ id ∈ u.ids ∧
      q.SetsField key v q' ∧ Entries.keys q'.fields = Entries.keys q.fields

section

variable {w : Option Value} (hb : Proper body) (hu : UniqueIds result) (ht : t ∈ nodes body)
  (hnew : ∀ p : Spine, p.fill (some (.node t)) = some (.nodes body) →
    p.fill w = some (.nodes result))

include hb hu ht hnew

/-- Above the place where something else has come in, one field changes. -/
theorem Proper.exists_above (hq : q ∈ nodes body) (hne : q ≠ t) (hid : t.id ∈ q.ids) :
    ∃ q' key u v, find? q.id result = some q' ∧ q.get? key = some u ∧ t.id ∈ u.ids ∧
      q.SetsField key v q' ∧ Entries.keys q'.fields = Entries.keys q.fields := by
  obtain ⟨p, r, hp, hr⟩ := hb.uniqueIds.exists_spine_through hq ht hid
  cases r with
  | nil =>
      obtain rfl : t = q := Value.node.inj (Option.some.inj hr)
      exact absurd rfl hne
  | cons f r =>
      have hspine := hnew (p ++ f :: r) (by rw [Spine.fill_append, hr, hp])
      rw [Spine.fill_append, Spine.fill_cons] at hspine
      obtain ⟨u, hinner⟩ := Spine.exists_fill r (.node t)
      rw [Spine.fill_cons, hinner] at hr
      cases f with
      | entry | item => cases hr
      | field i kind tier before key after =>
          obtain rfl := Value.node.inj (Option.some.inj hr)
          have hsorted : Entries.Sorted (before ++ (key, u) :: after) :=
            sorted_fields_of_mem hb.ordered hq
          have hset := Node.setsField_insert (.mk i kind tier (before ++ (key, u) :: after)) key
            ((Spine.fill r w).getD .null)
          simp only [Node.id, Node.kind, Node.tier, Node.fields,
            Entries.insert_append_cons hsorted] at hset
          have hfind := hu.find?_of_fill hspine (Node.self_mem_subtree _)
          have htu : t ∈ u.subtree := Spine.mem_subtree_fill hinner t.self_mem_subtree
          refine ⟨_, key, u, _, hfind, ?_, Value.id_mem_ids htu, hset, ?_⟩
          · exact Entries.get?_eq_some_of_mem hsorted (by simp [Node.fields])
          · simp [Node.fields, Entries.keys]

omit hu in
theorem Proper.mem_nodes_of_apart (hq : q ∈ nodes body) (hid : t.id ∉ q.ids)
    (hbelow : q ∈ t.subtree → ∃ u ∈ w, q ∈ u.subtree) : q ∈ nodes result := by
  obtain ⟨p, hp⟩ := exists_spine (hb.uniqueIds.find?_eq_some ht)
  have hfilled := hnew p hp
  rw [← Value.subtree_nodes] at hq ⊢
  rcases Spine.mem_subtree_cases hp hq with habove | hmem | hapart
  · exact absurd (Value.id_mem_ids (v := .node q) habove) hid
  · obtain ⟨u, hw, hqu⟩ := hbelow hmem
    rw [Option.mem_def.mp hw] at hfilled
    exact Spine.mem_subtree_fill hfilled hqu
  · obtain ⟨u, hw, hqu⟩ := hapart w
    obtain rfl := Option.some.inj (hfilled.symm.trans (Option.mem_def.mp hw))
    exact hqu

/-- Whatever comes in place of a node, the edit is local if the node keeps its header and what is
below it stays, except for what is lost. -/
theorem Proper.localAt {lost : Node → Prop}
    (hself : ¬ lost t →
      ∃ t', w = some (.node t') ∧ t'.id = t.id ∧ t'.kind = t.kind ∧ t'.tier = t.tier)
    (hbelow : ∀ q ∈ t.subtree, q ≠ t → ¬ lost q → ∃ u ∈ w, q ∈ u.subtree) :
    LocalAt body t.id lost result := by
  have hsame : ∀ q ∈ nodes body, ¬ lost q → t.id ∉ q.ids → q ∈ nodes result := by
    intro q hq hlost hid
    apply hb.mem_nodes_of_apart ht hnew hq hid
    intro hmem
    apply hbelow q hmem _ hlost
    rintro rfl
    exact hid (Value.id_mem_ids (v := .node q) q.self_mem_subtree)
  refine ⟨?_, ?_, ?_, ?_⟩
  · intro habsent
    rw [ids_eq_map_nodes] at habsent
    exact absurd (List.mem_map_of_mem ht) habsent
  · intro q hq hlost
    by_cases hqt : q = t
    · subst hqt
      obtain ⟨t', rfl, hid, hkind, htier⟩ := hself hlost
      obtain ⟨p, hp⟩ := exists_spine (hb.uniqueIds.find?_eq_some ht)
      have hfind := hu.find?_of_fill (hnew p hp) t'.self_mem_subtree
      exact ⟨t', hid ▸ hfind, hid, hkind, htier⟩
    · by_cases hid : t.id ∈ q.ids
      · obtain ⟨q', _, _, _, hfind, -, -, hset, -⟩ := hb.exists_above hu ht hnew hq hqt hid
        exact ⟨q', hfind, hset.id_eq, hset.kind_eq, hset.tier_eq⟩
      · exact ⟨q, hu.find?_eq_some (hsame q hq hlost hid), rfl, rfl, rfl⟩
  · intro q hq hlost hid
    rw [hu.find?_eq_some (hsame q hq hlost hid), hb.uniqueIds.find?_eq_some hq]
  · intro q hq hne hid
    apply hb.exists_above hu ht hnew hq _ hid
    rintro rfl
    exact hne rfl

end

theorem Proper.localAt_self (hb : Proper body) (id : NodeId) (lost : Node → Prop) :
    LocalAt body id lost body := by
  cases hfind : find? id body with
  | some t =>
      obtain ⟨ht, rfl⟩ := mem_of_find? hfind
      apply hb.localAt hb.uniqueIds ht (fun _ hp => hp)
      · intro _
        exact ⟨t, rfl, rfl, rfl, rfl⟩
      · intro q hq _ _
        exact ⟨_, rfl, hq⟩
  | none =>
      have habsent := find?_eq_none_iff.mp hfind
      refine ⟨fun _ => rfl, fun q hq _ => ⟨q, hb.uniqueIds.find?_eq_some hq, rfl, rfl, rfl⟩,
        fun _ _ _ _ => rfl, ?_⟩
      -- no node is above one that is not there
      intro q hq _ hid
      obtain ⟨p, hp⟩ := exists_spine (hb.uniqueIds.find?_eq_some hq)
      have hids := Spine.ids_fill hp
      rw [Value.ids_nodes, Option.elim_some, Value.ids_node] at hids
      rw [hids] at habsent
      exact absurd (List.mem_append_left _ (List.mem_append_right _ hid)) habsent

/-- A field that is set loses the nodes of its old value that the new one does not have. -/
theorem Proper.localAt_setsField (hb : Proper body) (hu : UniqueIds result)
    (hfind : find? id body = some t) {key : String} {v : Value} {t' : Node}
    (hnew : ∀ p : Spine, p.fill (some (.node t)) = some (.nodes body) →
      p.fill (some (.node t')) = some (.nodes result))
    (hset : t.SetsField key v t') {lost : Node → Prop}
    (hlost : ∀ u, t.get? key = some u → ∀ q ∈ u.subtree, ¬ lost q → q ∈ v.subtree) :
    LocalAt body id lost result := by
  obtain ⟨ht, rfl⟩ := mem_of_find? hfind
  apply hb.localAt hu ht hnew
  · intro _
    exact ⟨t', rfl, hset.id_eq, hset.kind_eq, hset.tier_eq⟩
  · intro q hq hne hkeep
    refine ⟨_, rfl, hset.mem_subtree (sorted_fields_of_mem hb.ordered ht) hq hne ?_⟩
    intro u hget hqu
    exact hlost u hget q hqu hkeep

theorem Proper.localAt_insert (hb : Proper body) (id : NodeId) (node : Node)
    (index : Option Nat) :
    LocalAt body id (fun _ => False) (insert body (some id) node index) := by
  by_cases hrefuses : RefusesNode body (some id) node
  · rw [insert_eq_self hb.uniqueIds hrefuses]
    exact hb.localAt_self id _
  obtain ⟨hclash, hnone | ⟨_, t, slot, hid, hfind, hslot⟩⟩ := exists_place_of_not_refuses hrefuses
  · cases hnone
  obtain rfl := Option.some.inj hid
  obtain ⟨before, after, hget, -, hfree, hnew⟩ :=
    hb.exists_insert_under hclash hfind hslot index
  have hset := Node.setsField_withField (n := t) hfree
    (Value.holdsNodeShape_nodes (before ++ node :: after))
  apply hb.localAt_setsField (uniqueIds_insert hb.ordered hb.uniqueIds _ node index) hfind hnew hset
  -- the nodes of the slot are all still there
  intro u hu q hq _
  obtain rfl := Option.some.inj (hget.symm.trans hu)
  rw [Value.subtree_nodes] at hq ⊢
  simp only [nodes, List.flatMap_append, List.flatMap_cons, List.mem_append] at hq ⊢
  exact hq.imp_right Or.inr

theorem Proper.localAt_remove (hb : Proper body) (id : NodeId) :
    LocalAt body id (fun q => ∃ t, find? id body = some t ∧ q ∈ t.subtree) (remove body id) := by
  cases hfind : find? id body with
  | none =>
      rw [remove_eq_self (find?_eq_none_iff.mp hfind)]
      exact hb.localAt_self id _
  | some t =>
      obtain ⟨ht, rfl⟩ := mem_of_find? hfind
      apply hb.localAt (uniqueIds_remove hb.ordered hb.uniqueIds t.id) ht
        (fun _ hp => hb.remove_of_fill hp)
      · intro hlost
        exact absurd ⟨t, rfl, t.self_mem_subtree⟩ hlost
      · intro q hq _ hlost
        exact absurd ⟨t, rfl, hq⟩ hlost

theorem Proper.localAt_updateProperty (hb : Proper body) (id : NodeId) (key : String) (v : Value) :
    LocalAt body id (fun q => ¬ RefusesField body id key v ∧ ∃ t u, find? id body = some t ∧
      t.get? key = some u ∧ q ∈ u.subtree) (updateProperty body id key v) := by
  by_cases hrefuses : RefusesField body id key v
  · rw [hb.updateProperty_eq_self hrefuses]
    exact hb.localAt_self id _
  rcases hb.updateProperty_cases id key v with hself | ⟨t, hkey, hfind, -, hnew⟩
  · rw [hself]
    exact hb.localAt_self id _
  have hshape : v.holdsNodeShape = false := by
    rw [← Bool.not_eq_true, Value.holdsNodeShape_eq_true_iff]
    exact fun h => hrefuses (Or.inr (Or.inr (Or.inl h)))
  have hunique := uniqueIds_updateProperty hb.ordered hb.uniqueIds id key v
  apply hb.localAt_setsField hunique hfind hnew (Node.setsField_withField hkey hshape)
  intro u hget q hq hlost
  exact absurd ⟨hrefuses, t, u, hfind, hget, hq⟩ hlost

/-- Every edit of a node under a parent, of a node that is removed or of a field is local: at most
the nodes of the removed subtree, or of the value that was replaced, are lost. -/
theorem edits_local {body : Body} (hb : Proper body) :
    (∀ (id : NodeId) (node : Node) (index : Option Nat),
      LocalAt body id (fun _ => False) (insert body (some id) node index)) ∧
    (∀ id : NodeId, LocalAt body id (fun q => ∃ t, find? id body = some t ∧ q ∈ t.subtree)
      (remove body id)) ∧
    ∀ (id : NodeId) (key : String) (v : Value),
      LocalAt body id (fun q => ¬ RefusesField body id key v ∧ ∃ t u, find? id body = some t ∧
        t.get? key = some u ∧ q ∈ u.subtree) (updateProperty body id key v) :=
  ⟨hb.localAt_insert, hb.localAt_remove, hb.localAt_updateProperty⟩

/-- The loop is found as it was when another field of the branch around it is set. -/
theorem edits_local_sampleBody :
    LocalAt sampleBody ⟨"b2"⟩ (fun _ => False)
        (insert sampleBody (some ⟨"b2"⟩) (.mk ⟨"b4"⟩ .literal .universal []) none) ∧
      LocalAt sampleBody ⟨"b3"⟩ (fun q => ∃ t, find? ⟨"b3"⟩ sampleBody = some t ∧ q ∈ t.subtree)
        (remove sampleBody ⟨"b3"⟩) ∧
      find? ⟨"b2"⟩ (updateProperty sampleBody ⟨"b1"⟩ "then" .null) = find? ⟨"b2"⟩ sampleBody := by
  obtain ⟨hinsert, hremove, hupdate⟩ := edits_local proper_sampleBody
  refine ⟨hinsert _ _ _, hremove _, ?_⟩
  obtain ⟨loop, hloop⟩ : ∃ n, find? ⟨"b2"⟩ sampleBody = some n := ⟨_, rfl⟩
  obtain ⟨hmem, hid⟩ := mem_of_find? hloop
  have hids : (⟨"b1"⟩ : NodeId) ∉ loop.ids := by
    obtain rfl := Option.some.inj hloop
    simp
  have hlocal := (hupdate ⟨"b1"⟩ "then" .null).apart loop hmem ?_ hids
  · rwa [hid] at hlocal
  · rintro ⟨-, t, u, hfind, hget, hq⟩
    obtain rfl := Option.some.inj hfind
    obtain rfl := Option.some.inj hget
    simp at hq

end Tree

end HandlerStudio
