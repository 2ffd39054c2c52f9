import HandlerStudio.Proofs.Tree.Hereditary
import HandlerStudio.Proofs.Tree.Remove
import HandlerStudio.Proofs.Tree.Sweep
import HandlerStudio.Proofs.Tree.Update

/-!
# Edits in either order

Two changes may be made in either order if neither looks below the node it changes and, at one node,
their actions may be swapped. Taking nodes away and setting fields to values without nodes are such
changes, wherever in the tree their nodes are: beside each other, one below the other, in a part
that the other takes away, or not there at all.
-/

namespace HandlerStudio

/-- The node with a change made in all its fields. -/
def Node.descend (c : Change) (n : Node) : Node :=
  .mk n.id n.kind n.tier (Value.sweepEntries c n.fields)

theorem Node.sweep_of_ne {c : Change} {n : Node} (h : n.id ≠ c.id) :
    n.sweep c = some (n.descend c) := by
  cases n
  exact if_neg h

namespace Change

/-- The change passes over what another change does below the node. -/
def Ignores (c d : Change) : Prop := ∀ n, (c.act n).map (Node.descend d) = c.act (n.descend d)

/-- Neither change looks at what the other does below its node, and at the same node they may be
swapped. -/
structure Commutes (c d : Change) : Prop where
  left : c.Ignores d
  right : d.Ignores c
  same : c.id = d.id → ∀ n, (c.act n).bind d.act = (d.act n).bind c.act

/-- At a node of the first change only, the second is left to what is below. -/
theorem Ignores.swap {c d : Change} (h : c.Ignores d) {n : Node} (hc : n.id = c.id)
    (hd : n.id ≠ d.id) : (n.sweep c).bind (Node.sweep d) = (n.sweep d).bind (Node.sweep c) := by
  have hkept : (c.act n).bind (Node.sweep d) = (c.act n).map (Node.descend d) := by
    cases hact : c.act n with
    | none => rfl
    | some m => exact Node.sweep_of_ne (c.keepsId n m hact ▸ hd)
  rw [Node.sweep_of_eq hc, hkept, h n, Node.sweep_of_ne hd]
  exact (Node.sweep_of_eq (n := n.descend d) hc).symm

/-- At a node of both, the second acts on what the first has left. -/
theorem bind_sweep_of_eq (c d : Change) {n : Node} (hc : n.id = c.id) (hd : n.id = d.id) :
    (n.sweep c).bind (Node.sweep d) = (c.act n).bind d.act := by
  rw [Node.sweep_of_eq hc]
  cases hact : c.act n with
  | none => rfl
  | some m => exact Node.sweep_of_eq ((c.keepsId n m hact).trans hd)

/-- The changes may be swapped at a node if they may be swapped below it. -/
theorem Commutes.swap {c d : Change} (h : c.Commutes d) (n : Node)
    (hbelow : Value.sweepEntries d (Value.sweepEntries c n.fields) =
      Value.sweepEntries c (Value.sweepEntries d n.fields)) :
    (n.sweep c).bind (Node.sweep d) = (n.sweep d).bind (Node.sweep c) := by
  by_cases hc : n.id = c.id
  · by_cases hd : n.id = d.id
    · rw [bind_sweep_of_eq c d hc hd, bind_sweep_of_eq d c hd hc]
      exact h.same (hc.symm.trans hd) n
    · exact h.left.swap hc hd
  · by_cases hd : n.id = d.id
    · exact (h.right.swap hd hc).symm
    · have hthen : ∀ a b : Change, n.id ≠ a.id → n.id ≠ b.id →
          (n.sweep a).bind (Node.sweep b) = some ((n.descend a).descend b) := by
        intro a b ha hb
        rw [Node.sweep_of_ne ha]
        exact Node.sweep_of_ne (n := n.descend a) hb
      rw [hthen c d hc hd, hthen d c hd hc]
      exact congrArg (fun fields => some (Node.mk n.id n.kind n.tier fields)) hbelow

end Change

section

variable {c d : Change}

mutual

theorem Value.sweep_comm (h : c.Commutes d) (v : Value) :
    (v.sweep c).bind (Value.sweep d) = (v.sweep d).bind (Value.sweep c) := by
  match v with
  | .null | .bool _ | .number _ | .text _ => rfl
  | .node n =>
      have hn := Node.sweep_comm h n
      have hlift : ∀ a b : Change, ((Value.node n).sweep a).bind (Value.sweep b) =
          ((n.sweep a).bind (Node.sweep b)).map .node := by
        intro a b
        rw [Value.sweep]
        cases n.sweep a <;> rfl
      rw [hlift, hlift, hn]
  | .list items =>
      have hitems := Value.sweepItems_comm h items
      simp only [Value.sweep, Option.bind_some, hitems]
  | .object entries =>
      have hentries := Value.sweepEntries_comm h entries
      simp only [Value.sweep, Option.bind_some, hentries]

theorem Node.sweep_comm (h : c.Commutes d) (n : Node) :
    (n.sweep c).bind (Node.sweep d) = (n.sweep d).bind (Node.sweep c) := by
  match n with
  | .mk id kind tier fields =>
      exact h.swap (.mk id kind tier fields) (Value.sweepEntries_comm h fields)

theorem Value.sweepItems_comm (h : c.Commutes d) (items : List Value) :
    Value.sweepItems d (Value.sweepItems c items) =
      Value.sweepItems c (Value.sweepItems d items) := by
  match items with
  | [] => rfl
  | v :: vs =>
      have hv := Value.sweep_comm h v
      have hvs := Value.sweepItems_comm h vs
      have hcons : ∀ a b : Change, Value.sweepItems b (Value.sweepItems a (v :: vs)) =
          ((v.sweep a).bind (Value.sweep b)).toList ++
            Value.sweepItems b (Value.sweepItems a vs) := by
        intro a b
        rw [Value.sweepItems]
        cases v.sweep a <;> rfl
      rw [hcons, hcons, hv, hvs]

theorem Value.sweepEntries_comm (h : c.Commutes d) (entries : List (String × Value)) :
    Value.sweepEntries d (Value.sweepEntries c entries) =
      Value.sweepEntries c (Value.sweepEntries d entries) := by
  match entries with
  | [] => rfl
  | (key, v) :: es =>
      have hv := Value.sweep_comm h v
      have hes := Value.sweepEntries_comm h es
      have hcons : ∀ a b : Change, Value.sweepEntries b (Value.sweepEntries a ((key, v) :: es)) =
          (key, ((v.sweep a).bind (Value.sweep b)).getD .null) ::
            Value.sweepEntries b (Value.sweepEntries a es) := by
        intro a b
        rw [Value.sweepEntries]
        cases v.sweep a <;> rfl
      rw [hcons, hcons, hv, hes]

end

theorem Tree.sweep_comm (h : c.Commutes d) (body : Body) :
    Tree.sweep d (Tree.sweep c body) = Tree.sweep c (Tree.sweep d body) := by
  simp only [Tree.sweep, List.filterMap_filterMap]
  apply List.filterMap_congr
  intro n _
  exact Node.sweep_comm h n

end

/-! ## Changes that commute -/

namespace Node

theorem descend_withField {c : Change} {v : Value} (hv : c.id ∉ v.ids) (key : String) (n : Node) :
    (n.withField key v).descend c = (n.descend c).withField key v := by
  unfold withField
  split
  · rfl
  · have hinsert : Value.sweepEntries c (Entries.insert key v n.fields) =
        Entries.insert key v (Value.sweepEntries c n.fields) := by
      rw [Value.sweepEntries_eq, Entries.map_insert fun w : Value => (w.sweep c).getD .null,
        Value.sweep_eq_self v hv, Value.sweepEntries_eq]
      rfl
    exact congrArg (Node.mk n.id n.kind n.tier) hinsert

theorem withField_comm {k l : String} (hne : k ≠ l) (v w : Value) (n : Node) :
    (n.withField k v).withField l w = (n.withField l w).withField k v := by
  unfold withField
  by_cases hk : (isReserved k || v.holdsNodeShape) = true
  · simp only [hk, if_true]
  · by_cases hl : (isReserved l || w.holdsNodeShape) = true
    · simp only [hl, if_true]
    · simp only [hk, hl, Bool.false_eq_true, if_false, Node.id, Node.kind, Node.tier, Node.fields,
        Entries.insert_comm hne]

end Node

namespace Change

theorem ignores_drop (id : NodeId) (d : Change) : (drop id).Ignores d := fun _ => rfl

theorem ignores_put {v : Value} {d : Change} (hv : d.id ∉ v.ids) (id : NodeId) (key : String) :
    (put id key v).Ignores d :=
  fun n => congrArg some (Node.descend_withField hv key n)

theorem drop_commutes_drop (i j : NodeId) : (drop i).Commutes (drop j) :=
  ⟨ignores_drop i _, ignores_drop j _, fun _ _ => rfl⟩

theorem drop_commutes_put {v : Value} (hv : v.ids = []) (i j : NodeId) (key : String) :
    (drop j).Commutes (put i key v) :=
  ⟨ignores_drop j _, ignores_put (by simp [hv]) i key, fun _ _ => rfl⟩

theorem put_commutes_put {v w : Value} (hv : v.ids = []) (hw : w.ids = []) {i j : NodeId}
    {k l : String} (hne : (i, k) ≠ (j, l)) : (put i k v).Commutes (put j l w) := by
  refine ⟨ignores_put (by simp [hv]) i k, ignores_put (by simp [hw]) j l, ?_⟩
  intro hid n
  have hkey : k ≠ l := by
    rintro rfl
    exact hne (Prod.ext hid rfl)
  exact congrArg some (Node.withField_comm hkey v w n)

end Change

/-! ## Edits of a proper tree -/

/-- A value without nodes, as the constructors build it. -/
structure Value.Plain (v : Value) : Prop where
  regular : v.Regular
  nodeless : v.subtree = []

theorem Value.Plain.ids_eq_nil {v : Value} (hv : v.Plain) : v.ids = [] := by
  rw [Value.ids_eq_map_subtree, hv.nodeless, List.map_nil]

namespace Tree

variable {body : Body}

theorem Proper.remove_eq_sweep (hb : Proper body) (id : NodeId) :
    remove body id = sweep (.drop id) body := by
  cases hfind : find? id body with
  | none =>
      have habsent := find?_eq_none_iff.mp hfind
      rw [remove_eq_self habsent, sweep_eq_self habsent]
  | some t =>
      obtain ⟨-, rfl⟩ := mem_of_find? hfind
      obtain ⟨p, hfill⟩ := exists_spine hfind
      have hsweep := hb.uniqueIds.fill_sweep hfill (c := .drop t.id) rfl
      have hremove := hb.remove_of_fill hfill
      exact Value.nodes_injective (Option.some.inj (hremove.symm.trans hsweep))

/-- A value without nodes names nothing twice, so only the key or the node itself can refuse it. -/
theorem Proper.updateProperty_eq_sweep (hb : Proper body) (id : NodeId) (key : String) {v : Value}
    (hv : v.ids = []) : updateProperty body id key v = sweep (.put id key v) body := by
  cases hfind : find? id body with
  | none =>
      rw [sweep_eq_self (c := .put id key v) (find?_eq_none_iff.mp hfind)]
      simp [updateProperty, hfind]
  | some t =>
      obtain ⟨p, hfill⟩ := exists_spine hfind
      have hsweep := hb.uniqueIds.fill_sweep hfill (c := .put id key v) (mem_of_find? hfind).2
      have hupdate : p.fill (some (.node (t.withField key v))) =
          some (.nodes (updateProperty body id key v)) := by
        cases hkey : Node.isReserved key with
        | true =>
            -- the node itself would refuse the key as well, so the sweep changes nothing
            have hkeeps : t.withField key v = t := by simp [Node.withField, hkey]
            have hself : updateProperty body id key v = body := by
              simp [updateProperty, hkey]
            rw [hkeeps, hself]
            exact hfill
        | false =>
            have hclash : clash? body v (t.get? key) = none := by
              rw [clash?_eq_none_iff, hv]
              simp
            exact hb.updateProperty_of_fill hfind hkey hclash hfill
      exact Value.nodes_injective (Option.some.inj (hupdate.symm.trans hsweep))

theorem proper_iff : Proper body ↔
    UniqueIds body ∧ (Value.nodes body).Regular ∧ (Value.nodes body).Undisguised := by
  rw [Value.regular_nodes_iff, Value.undisguised_nodes_iff]
  exact ⟨fun hb => ⟨hb.uniqueIds, hb.regular, hb.undisguised⟩, fun h => ⟨h.2.1, h.1, h.2.2⟩⟩

theorem proper_remove (hb : Proper body) (id : NodeId) : Proper (remove body id) :=
  proper_iff.mpr ⟨uniqueIds_remove hb.ordered hb.uniqueIds id,
    Hereditary.sound.remove (proper_iff.mp hb).2 id⟩

theorem proper_updateProperty (hb : Proper body) (id : NodeId) (key : String) {v : Value}
    (hr : v.Regular) (hg : ∀ m ∈ v.subtree, m.Guarded) : Proper (updateProperty body id key v) :=
  proper_iff.mpr ⟨uniqueIds_updateProperty hb.ordered hb.uniqueIds id key v,
    Hereditary.sound.updateProperty (proper_iff.mp hb).2 id key fun hshape =>
      ⟨hr, (Value.undisguised_iff_guarded v).mpr ⟨hshape, hg⟩⟩⟩

theorem proper_updateProperty_plain (hb : Proper body) (id : NodeId) (key : String) {v : Value}
    (hv : v.Plain) : Proper (updateProperty body id key v) :=
  proper_updateProperty hb id key hv.regular (by simp [hv.nodeless])

/-- Edits that bring in no nodes may be made in either order, whatever their nodes are to each
other. -/
theorem edits_commute (hb : Proper body) :
    (∀ i j, remove (remove body i) j = remove (remove body j) i) ∧
      (∀ i j k l v w, Value.Plain v → Value.Plain w → (i, k) ≠ (j, l) →
        updateProperty (updateProperty body i k v) j l w =
          updateProperty (updateProperty body j l w) i k v) ∧
      ∀ i j k v, Value.Plain v →
        updateProperty (remove body j) i k v = remove (updateProperty body i k v) j := by
  refine ⟨?_, ?_, ?_⟩
  · intro i j
    rw [(proper_remove hb i).remove_eq_sweep, (proper_remove hb j).remove_eq_sweep,
      hb.remove_eq_sweep, hb.remove_eq_sweep]
    exact sweep_comm (Change.drop_commutes_drop i j) body
  · intro i j k l v w hv hw hne
    rw [(proper_updateProperty_plain hb i k hv).updateProperty_eq_sweep j l hw.ids_eq_nil,
      (proper_updateProperty_plain hb j l hw).updateProperty_eq_sweep i k hv.ids_eq_nil,
      hb.updateProperty_eq_sweep i k hv.ids_eq_nil, hb.updateProperty_eq_sweep j l hw.ids_eq_nil]
    exact sweep_comm (Change.put_commutes_put hv.ids_eq_nil hw.ids_eq_nil hne) body
  · intro i j k v hv
    rw [(proper_remove hb j).updateProperty_eq_sweep i k hv.ids_eq_nil,
      (proper_updateProperty_plain hb i k hv).remove_eq_sweep, hb.remove_eq_sweep,
      hb.updateProperty_eq_sweep i k hv.ids_eq_nil]
    exact sweep_comm (Change.drop_commutes_put hv.ids_eq_nil i j k) body

/-- The statement is inside the loop, and the loop is in the field of the branch. -/
theorem edits_commute_sampleBody :
    remove (remove sampleBody ⟨"b2"⟩) ⟨"b3"⟩ = remove (remove sampleBody ⟨"b3"⟩) ⟨"b2"⟩ ∧
      updateProperty (updateProperty sampleBody ⟨"b1"⟩ "note" .null) ⟨"b3"⟩ "value" (.bool true) =
        updateProperty (updateProperty sampleBody ⟨"b3"⟩ "value" (.bool true)) ⟨"b1"⟩ "note"
          .null ∧
      updateProperty (remove sampleBody ⟨"b2"⟩) ⟨"b3"⟩ "value" (.bool true) =
        remove (updateProperty sampleBody ⟨"b3"⟩ "value" (.bool true)) ⟨"b2"⟩ := by
  have hnull : Value.Plain .null := ⟨Value.regular_null, rfl⟩
  have htrue : Value.Plain (.bool true) := ⟨Value.regular_bool true, rfl⟩
  obtain ⟨hremove, hupdate, hboth⟩ := edits_commute proper_sampleBody
  exact ⟨hremove _ _, hupdate _ _ _ _ _ _ hnull htrue (by decide), hboth _ _ _ _ htrue⟩

end Tree

end HandlerStudio
