import HandlerStudio.Proofs.Tree.Ordered

/-!
# Edits keep identities unique

Inserting, removing and setting a field leave a tree that names each node once such a tree, whatever
comes in: a node or a value that would bring an identity in a second time is refused. The identities
of the tree, in walking order, change in one place. An insertion adds one block and a removal takes
one away; a field that is set exchanges the block of its old value for that of the new one.
-/

namespace HandlerStudio

/-- A list with a block in it is distinct exactly when both are and share nothing. -/
theorem nodup_append_block_iff {pre block post : List NodeId} :
    (pre ++ block ++ post).Nodup ↔
      block.Nodup ∧ (pre ++ post).Nodup ∧ ∀ x ∈ block, x ∉ pre ++ post := by
  have hperm : List.Perm (pre ++ block ++ post) (block ++ (pre ++ post)) := by
    rw [← List.append_assoc]
    exact List.perm_append_comm.append_right post
  rw [hperm.nodup_iff, List.nodup_append]
  constructor
  · rintro ⟨hblock, hrest, hne⟩
    exact ⟨hblock, hrest, fun x hx hmem => hne x hx x hmem rfl⟩
  · rintro ⟨hblock, hrest, hnew⟩
    exact ⟨hblock, hrest, fun x hx y hy hxy => hnew x hx (hxy ▸ hy)⟩

/-- A block gives way to another one: the list stays distinct if whatever the new block shares with
it goes away. -/
theorem nodup_exchange {pre leaving post incoming : List NodeId}
    (h : (pre ++ leaving ++ post).Nodup) (hincoming : incoming.Nodup)
    (hleave : ∀ x ∈ incoming, x ∈ pre ++ leaving ++ post → x ∈ leaving) :
    (pre ++ incoming ++ post).Nodup := by
  obtain ⟨-, hrest, hapart⟩ := nodup_append_block_iff.mp h
  refine nodup_append_block_iff.mpr ⟨hincoming, hrest, fun x hx hmem => ?_⟩
  have hold : x ∈ pre ++ leaving ++ post := by
    simp only [List.mem_append] at hmem ⊢
    tauto
  exact hapart x (hleave x hx hold) hmem

/-- An index asked for splits a list, and a new item stands at the split. -/
theorem exists_insertIdx_place {α : Type} (items : List α) (index : Option Nat) :
    ∃ before after, items = before ++ after ∧
      before.length = min (index.getD items.length) items.length ∧
      ∀ x, items.insertIdx (Node.place index items.length) x = before ++ x :: after := by
  have hplace : Node.place index items.length = min (index.getD items.length) items.length := by
    cases index <;> simp [Node.place]
  have hle : Node.place index items.length ≤ items.length := by omega
  refine ⟨items.take (Node.place index items.length), items.drop (Node.place index items.length),
    (List.take_append_drop _ _).symm, ?_, ?_⟩
  · rw [List.length_take_of_le hle, hplace]
  · intro x
    obtain ⟨before, after, hsplit, hlen, hmodify⟩ :=
      List.exists_of_modifyTailIdx (List.cons x) hle
    rw [List.insertIdx, hmodify, ← hlen, hsplit, List.take_left, List.drop_left]

/-! ## Identities of a changed node -/

namespace Node

/-- The identities around a field stay when its value is another one. -/
theorem exists_ids_insert {n : Node} (hs : Entries.Sorted n.fields) (key : String) :
    ∃ pre post, n.ids = pre ++ (n.get? key).elim [] Value.ids ++ post ∧
      ∀ v, (Node.mk n.id n.kind n.tier (Entries.insert key v n.fields)).ids =
        pre ++ v.ids ++ post := by
  obtain ⟨pre, post, hsplit, hinsert⟩ := Entries.exists_insert_eq key hs
  refine ⟨n.id :: pre.flatMap fun e => e.2.ids, post.flatMap fun e => e.2.ids, ?_, ?_⟩
  · have hids : n.ids = n.id :: n.fields.flatMap fun e => e.2.ids := by
      cases n
      simp [Node.id, Node.fields]
    have hold : (Option.map (fun u => (key, u)) (Entries.get? key n.fields)).toList.flatMap
        (fun e => e.2.ids) = (n.get? key).elim [] Value.ids := by
      rw [Node.get?]
      cases Entries.get? key n.fields <;> simp
    rw [hids, hsplit, List.flatMap_append, List.flatMap_append, hold]
    simp
  · intro v
    rw [hinsert v]
    simp

/-- Setting a field exchanges the identities of its old value for those of the new one. -/
theorem ids_withField {n : Node} (hs : Entries.Sorted n.fields) (key : String) (v : Value) :
    n.withField key v = n ∨
      ∃ pre post, n.ids = pre ++ (n.get? key).elim [] Value.ids ++ post ∧
        (n.withField key v).ids = pre ++ v.ids ++ post := by
  rcases withField_eq_or key v n with heq | heq
  · exact Or.inl heq
  · obtain ⟨pre, post, hold, hnew⟩ := exists_ids_insert hs key
    exact Or.inr ⟨pre, post, hold, by rw [heq, hnew v]⟩

/-- An inserted child adds its identities in one place. -/
theorem ids_insertChild {n : Node} (hs : Entries.Sorted n.fields) (key : String) (child : Node)
    (index : Option Nat) :
    n.insertChild key child index = n ∨
      ∃ pre post, (pre ++ post).Sublist n.ids ∧
        (n.insertChild key child index).ids = pre ++ child.ids ++ post := by
  unfold insertChild
  generalize hitems : ((n.get? key).bind Value.asList?).getD [] = items
  rcases ids_withField hs key
      (.list (items.insertIdx (place index items.length) (.node child))) with heq | h
  · exact Or.inl heq
  · obtain ⟨pre, post, hold, hnew⟩ := h
    obtain ⟨before, after, hsplit, -, hinsert⟩ := exists_insertIdx_place items index
    -- what stood under the key holds at least the identities of its items
    have hitemIds : (items.flatMap Value.ids).Sublist ((n.get? key).elim [] Value.ids) := by
      subst hitems
      cases hget : n.get? key with
      | none => simp
      | some u => cases u <;> simp [Value.asList?]
    rw [hsplit, List.flatMap_append] at hitemIds
    refine Or.inr ⟨pre ++ before.flatMap Value.ids, after.flatMap Value.ids ++ post, ?_, ?_⟩
    · rw [hold]
      simpa [List.append_assoc] using
        ((List.Sublist.refl pre).append hitemIds).append (List.Sublist.refl post)
    · rw [hnew, hinsert]
      simp

end Node

/-! ## Exchanged blocks -/

/-- The identities that take the place of those of a node. -/
def Outcome.ids (n : Node) : Outcome → List NodeId
  | .unchanged => n.ids
  | .removed => []
  | .replaced m => m.ids

theorem Outcome.ids_of_value? {o : Outcome} {x : Option Value} (h : o.value? = some x) (t : Node) :
    o.ids t = x.elim [] Value.ids := by
  cases o with
  | unchanged => cases h
  | removed | replaced _ =>
      obtain rfl := Option.some.inj h
      simp [Outcome.ids]

namespace Tree

/-- The identities `new` are those of the nodes, or those with the block of one node that the edit
took exchanged for the block of its outcome. -/
def Exchange (edit : Node → Option Outcome) (nodes : List Node) (new : List NodeId) : Prop :=
  new = nodes.map Node.id ∨
    ∃ t ∈ nodes, ∃ outcome pre post, edit t = some outcome ∧
      nodes.map Node.id = pre ++ t.ids ++ post ∧ new = pre ++ outcome.ids t ++ post

/-- The identities of a changed body. -/
theorem exchange_amend? {edit : Node → Option Outcome} {body new : Body} (ho : Tree.Ordered body)
    (h : amend? edit body = some new) : Exchange edit (nodes body) (ids new) := by
  obtain ⟨p, t, o, x, hfill, htake, hx, ⟨-, rfl⟩ | ⟨-, hfilled⟩⟩ := exists_of_amend? ho h
  · exact Or.inl (ids_eq_map_nodes new)
  · have ht : t ∈ nodes body := by
      rw [← Value.subtree_nodes]
      exact Spine.mem_subtree_fill hfill t.self_mem_subtree
    have hold := Spine.ids_fill hfill
    have hnew := Spine.ids_fill hfilled
    rw [Value.ids_nodes] at hold hnew
    refine Or.inr ⟨t, ht, o, p.idsBefore, p.idsAfter, htake, ?_, ?_⟩
    · rw [← ids_eq_map_nodes, hold]
      simp
    · rw [hnew, Outcome.ids_of_value? hx]

/-! ## Bodies -/

/-- An edit keeps identities unique if the exchange of a block that it makes does. -/
theorem UniqueIds.amend {edit : Node → Option Outcome} {body : Body} (ho : Tree.Ordered body)
    (hu : UniqueIds body)
    (hexch : ∀ t ∈ nodes body, ∀ outcome pre post, edit t = some outcome →
      ids body = pre ++ t.ids ++ post → (pre ++ outcome.ids t ++ post).Nodup) :
    UniqueIds ((amend? edit body).getD body) := by
  cases h : amend? edit body with
  | none => exact hu
  | some new =>
      rw [Option.getD_some, UniqueIds]
      rcases exchange_amend? ho h with hsame | ⟨t, ht, outcome, pre, post, htake, hold, hnew⟩
      · rw [hsame, ← ids_eq_map_nodes]
        exact hu
      · rw [hnew]
        exact hexch t ht outcome pre post htake (by rw [ids_eq_map_nodes, hold])

theorem sorted_fields_of_mem {body : Body} (ho : Tree.Ordered body) {t : Node}
    (ht : t ∈ nodes body) : Entries.Sorted t.fields := by
  rw [← Value.subtree_nodes] at ht
  have hnode := Hereditary.ordered.of_mem_subtree _ ((ordered_nodes_iff body).mpr ho) ht
  exact ((Hereditary.ordered.node_iff t).mp hnode).1

theorem uniqueIds_remove {body : Body} (ho : Tree.Ordered body) (hu : UniqueIds body)
    (id : NodeId) : UniqueIds (remove body id) := by
  refine UniqueIds.amend ho hu ?_
  intro t _ outcome pre post htake hids
  obtain ⟨-, rfl⟩ := removeAt_eq_some htake
  rw [UniqueIds, hids] at hu
  exact nodup_exchange hu List.nodup_nil fun x hx => absurd hx List.not_mem_nil

theorem uniqueIds_insert {body : Body} (ho : Tree.Ordered body) (hu : UniqueIds body)
    (parent : Option NodeId) (node : Node) (index : Option Nat) :
    UniqueIds (insert body parent node index) := by
  unfold insert
  split
  · exact hu
  · next hclash =>
    obtain ⟨hnodup, hfresh⟩ := (clash?_eq_none_iff _ _ _).mp hclash
    have hnew : ∀ id ∈ node.ids, id ∉ ids body := by
      intro id hid hmem
      simpa using hfresh id hmem hid
    split
    · obtain ⟨before, after, hsplit, -, hinsert⟩ := exists_insertIdx_place body index
      rw [ids_eq_flatMap, hsplit, List.flatMap_append] at hnew
      rw [UniqueIds, ids_eq_flatMap, hsplit, List.flatMap_append] at hu
      rw [hinsert, UniqueIds, ids_eq_flatMap, List.flatMap_append, List.flatMap_cons,
        ← List.append_assoc]
      exact nodup_append_block_iff.mpr ⟨hnodup, hu, hnew⟩
    · refine UniqueIds.amend ho hu ?_
      intro t ht outcome pre post htake hids
      rw [UniqueIds, hids] at hu
      rw [hids] at hnew
      obtain ⟨-, rfl | ⟨slot, -, rfl⟩⟩ := insertAt_eq_some htake
      · exact hu
      · rcases Node.ids_insertChild (sorted_fields_of_mem ho ht) slot node index with
          heq | ⟨a, c, hsub, hnewIds⟩
        · simpa [Outcome.ids, heq] using hu
        · have hold : (pre ++ a ++ (c ++ post)).Sublist (pre ++ t.ids ++ post) := by
            simpa [List.append_assoc] using
              ((List.Sublist.refl pre).append hsub).append (List.Sublist.refl post)
          have hblock := nodup_append_block_iff.mpr ⟨hnodup, hu.sublist hold,
            fun x hx hmem => hnew x hx (hold.subset hmem)⟩
          simpa [Outcome.ids, hnewIds, List.append_assoc] using hblock

theorem uniqueIds_updateProperty {body : Body} (ho : Tree.Ordered body) (hu : UniqueIds body)
    (id : NodeId) (key : String) (value : Value) :
    UniqueIds (updateProperty body id key value) := by
  unfold updateProperty
  split
  · exact hu
  · split
    · exact hu
    · next target hfind =>
      split
      · exact hu
      · next hclash =>
        obtain ⟨hnodup, hleave⟩ := (clash?_eq_none_iff _ _ _).mp hclash
        obtain ⟨hmem, hid⟩ := mem_of_find? hfind
        refine UniqueIds.amend ho hu ?_
        intro t ht outcome pre post htake hids
        obtain ⟨htid, rfl⟩ := updateAt_eq_some htake
        -- the node that is taken is the one whose field was checked
        obtain rfl : t = target := hu.eq_of_id_eq ht hmem (htid.trans hid.symm)
        rw [UniqueIds, hids] at hu
        rw [hids] at hleave
        rcases Node.ids_withField (sorted_fields_of_mem ho ht) key value with
          heq | ⟨a, c, hold, hnewIds⟩
        · simpa [Outcome.ids, heq] using hu
        · have hsplit : pre ++ t.ids ++ post =
              pre ++ a ++ (t.get? key).elim [] Value.ids ++ (c ++ post) := by
            simp [hold, List.append_assoc]
          rw [hsplit] at hu hleave
          have hexch : (pre ++ a ++ value.ids ++ (c ++ post)).Nodup := by
            refine nodup_exchange hu hnodup fun x hx hmem => ?_
            obtain ⟨v, hv, hxv⟩ := hleave x hmem hx
            rw [Option.mem_def.mp hv]
            exact hxv
          simpa [Outcome.ids, hnewIds, List.append_assoc] using hexch

end Tree

end HandlerStudio
