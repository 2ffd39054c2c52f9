import HandlerStudio.Proofs.Tree.Rebuild
import HandlerStudio.Proofs.Tree.UniqueIds

/-!
# Setting a field

A field is set unless its key belongs to the header, the node is not there, the value holds a plain
object shaped like a node, or an identity would occur twice. Which of the two happens is decided by
what the value and the tree hold, not by the way to the node: the tree stays as it is, or the node
with its new field stands where the node was.
-/

namespace HandlerStudio

mutual

/-- The plain objects of a value that are not inside a node. -/
def Value.outerObjects : Value → List (List (String × Value))
  | .object entries => entries :: Value.outerObjectsOfEntries entries
  | .list items => Value.outerObjectsOfItems items
  | _ => []
termination_by structural v => v

def Value.outerObjectsOfItems : List Value → List (List (String × Value))
  | [] => []
  | v :: vs => v.outerObjects ++ Value.outerObjectsOfItems vs
termination_by structural vs => vs

def Value.outerObjectsOfEntries : List (String × Value) → List (List (String × Value))
  | [] => []
  | (_, v) :: es => v.outerObjects ++ Value.outerObjectsOfEntries es
termination_by structural es => es

end

mutual

theorem Value.holdsNodeShape_eq_any (v : Value) :
    v.holdsNodeShape = v.outerObjects.any Value.nodeShaped := by
  match v with
  | .null | .bool _ | .number _ | .text _ | .node _ => rfl
  | .list items =>
      simp only [Value.holdsNodeShape, Value.outerObjects]
      exact Value.itemsHoldNodeShape_eq_any_outer items
  | .object entries =>
      simp only [Value.holdsNodeShape, Value.outerObjects, List.any_cons]
      rw [Value.entriesHoldNodeShape_eq_any_outer entries]

theorem Value.itemsHoldNodeShape_eq_any_outer (items : List Value) :
    Value.itemsHoldNodeShape items = (Value.outerObjectsOfItems items).any Value.nodeShaped := by
  match items with
  | [] => rfl
  | v :: vs =>
      rw [Value.itemsHoldNodeShape, Value.outerObjectsOfItems, List.any_append,
        Value.holdsNodeShape_eq_any v, Value.itemsHoldNodeShape_eq_any_outer vs]

theorem Value.entriesHoldNodeShape_eq_any_outer (entries : List (String × Value)) :
    Value.entriesHoldNodeShape entries =
      (Value.outerObjectsOfEntries entries).any Value.nodeShaped := by
  match entries with
  | [] => rfl
  | (_, v) :: es =>
      rw [Value.entriesHoldNodeShape, Value.outerObjectsOfEntries, List.any_append,
        Value.holdsNodeShape_eq_any v, Value.entriesHoldNodeShape_eq_any_outer es]

end

theorem Value.holdsNodeShape_eq_true_iff (v : Value) :
    v.holdsNodeShape = true ↔ ∃ o ∈ v.outerObjects, Value.NodeLike o := by
  rw [Value.holdsNodeShape_eq_any, List.any_eq_true]
  simp only [Value.nodeShaped_eq_true_iff]

theorem Node.isReserved_eq_true_iff (key : String) :
    isReserved key = true ↔ key ∈ ["id", "type", "tier"] := by
  rw [isReserved, List.contains_iff_mem]
  rfl

namespace Tree

/-- Some node of the tree has an identity of the value, and is not in the field of the node `t` that
the value is to replace. -/
def UsedElsewhere (body : Body) (t : Node) (key : String) (v : Value) : Prop :=
  ∃ m ∈ nodes body, m.id ∈ v.ids ∧ ∀ u, t.get? key = some u → m ∉ u.subtree

/-- The field cannot be set: its key belongs to the header, there is no such node, a plain object of
the value is shaped like a node, or an identity of the value would occur twice. -/
def RefusesField (body : Body) (id : NodeId) (key : String) (v : Value) : Prop :=
  key ∈ ["id", "type", "tier"] ∨ id ∉ ids body ∨ (∃ o ∈ v.outerObjects, Value.NodeLike o) ∨
    ¬ v.ids.Nodup ∨ ∃ t, find? id body = some t ∧ UsedElsewhere body t key v

theorem mem_nodes_of_get? {body : Body} {id : NodeId} {t : Node} (hfind : find? id body = some t)
    {key : String} {u : Value} (hget : t.get? key = some u) {m : Node} (hm : m ∈ u.subtree) :
    m ∈ nodes body := by
  obtain ⟨p, hfill⟩ := exists_spine hfind
  rw [← Value.subtree_nodes]
  exact Spine.mem_subtree_fill hfill (Node.mem_subtree_of_get? hget hm)

/-- The search for an identity that would occur twice finds one exactly when there is one. -/
theorem Proper.clash?_field_eq_none_iff {body : Body} (hb : Proper body) {id : NodeId} {t : Node}
    (hfind : find? id body = some t) (key : String) (v : Value) :
    clash? body v (t.get? key) = none ↔ v.ids.Nodup ∧ ¬ UsedElsewhere body t key v := by
  rw [clash?_eq_none_iff]
  refine and_congr_right fun _ => ⟨?_, ?_⟩
  · rintro hleave ⟨m, hm, hid, hout⟩
    have hids : m.id ∈ ids body := by
      rw [ids_eq_map_nodes]
      exact List.mem_map_of_mem hm
    obtain ⟨u, hu, hmem⟩ := hleave m.id hids hid
    rw [Value.ids_eq_map_subtree] at hmem
    obtain ⟨m', hm', heq⟩ := List.mem_map.mp hmem
    obtain rfl := hb.uniqueIds.eq_of_id_eq (mem_nodes_of_get? hfind hu hm') hm heq
    exact hout u hu hm'
  · intro hnone x hx hxv
    rw [ids_eq_map_nodes] at hx
    obtain ⟨m, hm, rfl⟩ := List.mem_map.mp hx
    by_contra hno
    refine hnone ⟨m, hm, hxv, ?_⟩
    intro u hu hmem
    exact hno ⟨u, hu, Value.id_mem_ids hmem⟩

/-- The tree stays around the node, which is asked to set the field. -/
theorem Proper.updateProperty_of_fill {body : Body} (hb : Proper body) {id : NodeId} {t : Node}
    (hfind : find? id body = some t) {key : String} (hkey : Node.isReserved key = false) {v : Value}
    (hclash : clash? body v (t.get? key) = none) {p : Spine}
    (hfill : p.fill (some (.node t)) = some (.nodes body)) :
    p.fill (some (.node (t.withField key v))) = some (.nodes (updateProperty body id key v)) := by
  obtain ⟨-, rfl⟩ := mem_of_find? hfind
  have htake : updateAt t.id key v t = some (.replaced (t.withField key v)) := by
    simp [updateAt]
  have hpass : ∀ m : Node, m.id ≠ t.id → updateAt t.id key v m = none := by
    intro m hne
    simp [updateAt, hne]
  obtain ⟨new, hnew, hfilled⟩ := hb.amend?_of_fill hfill hpass htake rfl
  have hresult : updateProperty body t.id key v = new := by
    simp [updateProperty, hkey, hfind, hclash, hnew]
  rw [hresult]
  exact hfilled

/-- Nothing happens, or the node that was found is asked to set the field. -/
theorem Proper.updateProperty_cases {body : Body} (hb : Proper body) (id : NodeId) (key : String)
    (v : Value) :
    updateProperty body id key v = body ∨
      ∃ t : Node, Node.isReserved key = false ∧ find? id body = some t ∧
        clash? body v (t.get? key) = none ∧
        ∀ p : Spine, p.fill (some (.node t)) = some (.nodes body) →
          p.fill (some (.node (t.withField key v))) =
            some (.nodes (updateProperty body id key v)) := by
  cases hkey : Node.isReserved key with
  | true => exact Or.inl (by simp [updateProperty, hkey])
  | false =>
      cases hfind : find? id body with
      | none => exact Or.inl (by simp [updateProperty, hfind])
      | some t =>
          cases hclash : clash? body v (t.get? key) with
          | some _ => exact Or.inl (by simp [updateProperty, hfind, hclash])
          | none =>
              exact Or.inr ⟨t, rfl, rfl, hclash,
                fun p hfill => hb.updateProperty_of_fill hfind hkey hclash hfill⟩

theorem Proper.updateProperty_eq_self {body : Body} (hb : Proper body) {id : NodeId}
    {key : String} {v : Value} (h : RefusesField body id key v) :
    updateProperty body id key v = body := by
  rcases hb.updateProperty_cases id key v with hself | ⟨t, hkey, hfind, hclash, hset⟩
  · exact hself
  obtain ⟨hnodup, hused⟩ := (hb.clash?_field_eq_none_iff hfind key v).mp hclash
  rcases h with hhead | habsent | hshape | hrepeat | ⟨t', hfind', hused'⟩
  · rw [← Node.isReserved_eq_true_iff, hkey] at hhead
    cases hhead
  · rw [find?_eq_none_iff.mpr habsent] at hfind
    cases hfind
  · -- the node is offered the value, but keeps its field
    have hkeeps : t.withField key v = t := by
      simp [Node.withField, (Value.holdsNodeShape_eq_true_iff v).mpr hshape]
    obtain ⟨p, hold⟩ := exists_spine hfind
    have hnew := hset p hold
    rw [hkeeps, hold] at hnew
    exact (Value.nodes_injective (Option.some.inj hnew)).symm
  · exact absurd hnodup hrepeat
  · rw [hfind] at hfind'
    obtain rfl := Option.some.inj hfind'
    exact absurd hused' hused

/-- The node is found with the field set, all else of it unchanged, and so is each node of the
value. -/
structure FieldSet (body : Body) (id : NodeId) (key : String) (v : Value) (result : Body) :
    Prop where
  target : ∃ t t', find? id body = some t ∧ find? id result = some t' ∧ t.SetsField key v t'
  found : ∀ m ∈ v.subtree, find? m.id result = some m

theorem Proper.fieldSet_updateProperty {body : Body} (hb : Proper body) {id : NodeId}
    {key : String} {v : Value} (h : ¬ RefusesField body id key v) :
    FieldSet body id key v (updateProperty body id key v) := by
  simp only [RefusesField, not_or, not_not] at h
  obtain ⟨hkey, hmem, hshape, hnodup, hused⟩ := h
  rw [← Node.isReserved_eq_true_iff, Bool.not_eq_true] at hkey
  rw [← Value.holdsNodeShape_eq_true_iff, Bool.not_eq_true] at hshape
  cases hfind : find? id body with
  | none => exact absurd hmem (find?_eq_none_iff.mp hfind)
  | some t =>
      have hclash : clash? body v (t.get? key) = none :=
        (hb.clash?_field_eq_none_iff hfind key v).mpr ⟨hnodup, fun hu => hused ⟨t, hfind, hu⟩⟩
      obtain ⟨p, hold⟩ := exists_spine hfind
      have hnew := hb.updateProperty_of_fill hfind hkey hclash hold
      have hunique := uniqueIds_updateProperty hb.ordered hb.uniqueIds id key v
      have hset := Node.setsField_withField (n := t) hkey hshape
      have hself := hunique.find?_of_fill hnew (Node.self_mem_subtree _)
      rw [hset.id_eq, (mem_of_find? hfind).2] at hself
      refine ⟨⟨t, _, hfind, hself, hset⟩, ?_⟩
      intro m hm
      exact hunique.find?_of_fill hnew (Node.mem_subtree_of_get? hset.get?_key hm)

/-- Setting a field is refused and leaves the tree as it is, or sets that field and no other. -/
theorem updateProperty_refused_or_set {body : Body} (hb : Proper body) (id : NodeId)
    (key : String) (v : Value) :
    (RefusesField body id key v → updateProperty body id key v = body) ∧
      (¬ RefusesField body id key v →
        FieldSet body id key v (updateProperty body id key v)) :=
  ⟨hb.updateProperty_eq_self, hb.fieldSet_updateProperty⟩

/-- The statement of the loop may come back inside a new one, but the branch above the loop may
not. -/
theorem updateProperty_sampleBody :
    FieldSet sampleBody ⟨"b2"⟩ "body"
        (.list [.node (.mk ⟨"b5"⟩ .ifStatement .universal
          [("then", .list [.node (.mk ⟨"b3"⟩ .literal .universal [])])])])
        (updateProperty sampleBody ⟨"b2"⟩ "body"
          (.list [.node (.mk ⟨"b5"⟩ .ifStatement .universal
            [("then", .list [.node (.mk ⟨"b3"⟩ .literal .universal [])])])])) ∧
      updateProperty sampleBody ⟨"b2"⟩ "body" (.node (.mk ⟨"b1"⟩ .literal .universal [])) =
        sampleBody := by
  have hids : ids sampleBody = [⟨"b1"⟩, ⟨"b2"⟩, ⟨"b3"⟩] := by decide
  have hfind : find? ⟨"b2"⟩ sampleBody = some (.mk ⟨"b2"⟩ .whileStatement .universal
      [("body", .list [.node (.mk ⟨"b3"⟩ .literal .universal [])])]) := rfl
  constructor
  · refine (updateProperty_refused_or_set proper_sampleBody _ _ _).2 ?_
    rintro (hhead | habsent | ⟨o, ho, -⟩ | hrepeat | ⟨t, ht, m, hm, hid, hout⟩)
    · revert hhead
      decide
    · rw [hids] at habsent
      exact habsent (by decide)
    · cases ho
    · exact hrepeat (by simp)
    · obtain rfl := Option.some.inj (hfind.symm.trans ht)
      have hself := proper_sampleBody.uniqueIds.find?_eq_some hm
      have hnew : m.id = ⟨"b5"⟩ ∨ m.id = ⟨"b3"⟩ := by simpa using hid
      rcases hnew with heq | heq
      · rw [heq] at hself
        cases hself
      · -- the only other node that the value names is the statement, which is in the field
        rw [heq] at hself
        obtain rfl : Node.mk ⟨"b3"⟩ .literal .universal [] = m := Option.some.inj hself
        exact hout _ rfl (by simp)
  · refine (updateProperty_refused_or_set proper_sampleBody _ _ _).1 ?_
    obtain ⟨branch, hbranch⟩ : ∃ n, find? ⟨"b1"⟩ sampleBody = some n := ⟨_, rfl⟩
    obtain ⟨hmem, hid⟩ := mem_of_find? hbranch
    refine Or.inr (Or.inr (Or.inr (Or.inr ⟨_, hfind, branch, hmem, by simp [hid], ?_⟩)))
    intro u hu hbelow
    obtain rfl := Option.some.inj hu
    have heq : branch.id = ⟨"b3"⟩ := by
      simp only [Value.subtree_list, List.flatMap_cons, List.flatMap_nil, List.append_nil,
        Value.subtree_node, Node.subtree_mk, List.mem_singleton] at hbelow
      rw [hbelow]
      rfl
    rw [hid] at heq
    revert heq
    decide

end Tree

end HandlerStudio
