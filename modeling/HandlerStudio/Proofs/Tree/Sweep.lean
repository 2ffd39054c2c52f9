import HandlerStudio.Proofs.Tree.Rebuild

/-!
# Changes made everywhere

An edit looks for one node and rebuilds the way down to it. A sweep goes through the whole tree and
changes every node of the identity that it meets. It has no order of search and no way up, so two
sweeps can be compared node by node. Where each node is named once, a sweep too changes only what is
at the end of the way to its node.
-/

namespace HandlerStudio

theorem Node.id_withField (key : String) (v : Value) (n : Node) :
    (n.withField key v).id = n.id := by
  rcases Node.withField_eq_or key v n with heq | heq <;> rw [heq]
  rfl

/-- What becomes of the node of an identity: a node of the same identity, or nothing. -/
structure Change where
  id : NodeId
  act : Node → Option Node
  keepsId : ∀ n m, act n = some m → m.id = n.id

namespace Change

def drop (id : NodeId) : Change where
  id := id
  act _ := none
  keepsId _ _ h := by cases h

def put (id : NodeId) (key : String) (v : Value) : Change where
  id := id
  act n := some (n.withField key v)
  keepsId n _ h := by
    rw [← Option.some.inj h]
    exact n.id_withField key v

end Change

mutual

/-- The value with the change made at every node of the identity; nothing is left of a node that
goes. What is below a changed node is not looked at. -/
def Value.sweep (c : Change) : Value → Option Value
  | .node n => (n.sweep c).map .node
  | .list items => some (.list (Value.sweepItems c items))
  | .object entries => some (.object (Value.sweepEntries c entries))
  | v => some v
termination_by structural v => v

def Node.sweep (c : Change) : Node → Option Node
  | .mk id kind tier fields =>
      if id = c.id then c.act (.mk id kind tier fields)
      else some (.mk id kind tier (Value.sweepEntries c fields))
termination_by structural n => n

def Value.sweepItems (c : Change) : List Value → List Value
  | [] => []
  | v :: vs => (v.sweep c).toList ++ Value.sweepItems c vs
termination_by structural vs => vs

def Value.sweepEntries (c : Change) : List (String × Value) → List (String × Value)
  | [] => []
  | (key, v) :: es => (key, (v.sweep c).getD .null) :: Value.sweepEntries c es
termination_by structural es => es

end

namespace Value

theorem sweepItems_eq (c : Change) (items : List Value) :
    sweepItems c items = items.flatMap fun v => (v.sweep c).toList := by
  induction items with
  | nil => rfl
  | cons v vs ih => rw [sweepItems, ih, List.flatMap_cons]

theorem sweepEntries_eq (c : Change) (entries : List (String × Value)) :
    sweepEntries c entries = entries.map fun e => (e.1, (e.2.sweep c).getD .null) := by
  induction entries with
  | nil => rfl
  | cons e es ih =>
      obtain ⟨k, v⟩ := e
      rw [sweepEntries, ih, List.map_cons]

end Value

theorem Node.sweep_of_eq {c : Change} {n : Node} (h : n.id = c.id) : n.sweep c = c.act n := by
  cases n
  exact if_pos h

/-! ## Sweeps along a spine -/

section

variable {c : Change}

mutual

theorem Value.sweep_eq_self (v : Value) (h : c.id ∉ v.ids) : v.sweep c = some v := by
  match v with
  | .null | .bool _ | .number _ | .text _ => rfl
  | .node n =>
      have hn := Node.sweep_eq_self n h
      rw [Value.sweep, hn]
      rfl
  | .list items =>
      rw [Value.ids_list] at h
      rw [Value.sweep, Value.sweepItems_eq_self items h]
  | .object entries =>
      rw [Value.ids_object] at h
      rw [Value.sweep, Value.sweepEntries_eq_self entries h]

theorem Node.sweep_eq_self (n : Node) (h : c.id ∉ n.ids) : n.sweep c = some n := by
  match n with
  | .mk id kind tier fields =>
      rw [Node.ids_mk, List.mem_cons, not_or] at h
      rw [Node.sweep, if_neg (Ne.symm h.1), Value.sweepEntries_eq_self fields h.2]

theorem Value.sweepItems_eq_self (items : List Value) (h : c.id ∉ items.flatMap Value.ids) :
    Value.sweepItems c items = items := by
  match items with
  | [] => rfl
  | v :: vs =>
      rw [List.flatMap_cons, List.mem_append, not_or] at h
      rw [Value.sweepItems, Value.sweep_eq_self v h.1, Value.sweepItems_eq_self vs h.2]
      rfl

theorem Value.sweepEntries_eq_self (entries : List (String × Value))
    (h : c.id ∉ entries.flatMap fun e => e.2.ids) : Value.sweepEntries c entries = entries := by
  match entries with
  | [] => rfl
  | (key, v) :: es =>
      rw [List.flatMap_cons, List.mem_append, not_or] at h
      rw [Value.sweepEntries, Value.sweep_eq_self v h.1, Value.sweepEntries_eq_self es h.2]
      rfl

end

theorem Frame.sweep_fill {f : Frame} (hbefore : c.id ∉ f.idsBefore) (hafter : c.id ∉ f.idsAfter)
    (u : Value) : (f.fill (some u)).sweep c = some (f.fill (u.sweep c)) := by
  cases f with
  | field id kind tier before key after =>
      rw [Frame.idsBefore, List.mem_cons, not_or] at hbefore
      have hpre := Value.sweepEntries_eq_self before hbefore.2
      have hpost := Value.sweepEntries_eq_self after hafter
      rw [Value.sweepEntries_eq] at hpre hpost
      simp [Frame.fill, Value.sweep, Node.sweep, Ne.symm hbefore.1, Value.sweepEntries_eq, hpre,
        hpost]
  | entry before key after =>
      have hpre := Value.sweepEntries_eq_self before hbefore
      have hpost := Value.sweepEntries_eq_self after hafter
      rw [Value.sweepEntries_eq] at hpre hpost
      simp [Frame.fill, Value.sweep, Value.sweepEntries_eq, hpre, hpost]
  | item before after =>
      have hpre := Value.sweepItems_eq_self before hbefore
      have hpost := Value.sweepItems_eq_self after hafter
      rw [Value.sweepItems_eq] at hpre hpost
      simp [Frame.fill, Value.sweep, Value.sweepItems_eq, hpre, hpost]

/-- A sweep that meets the identity only at the end of a spine rebuilds the spine. -/
theorem Spine.sweep_fill {p : Spine} {t : Node} {v : Value}
    (hfill : p.fill (some (.node t)) = some v) (hbefore : c.id ∉ p.idsBefore)
    (hafter : c.id ∉ p.idsAfter) : v.sweep c = p.fill ((t.sweep c).map .node) := by
  induction p generalizing v with
  | nil =>
      obtain rfl : Value.node t = v := Option.some.inj hfill
      rw [Value.sweep, fill_nil]
  | cons f p ih =>
      obtain ⟨u, hinner⟩ := exists_fill p (.node t)
      rw [fill_cons, hinner] at hfill
      obtain rfl := Option.some.inj hfill
      rw [idsBefore_cons, List.mem_append, not_or] at hbefore
      rw [idsAfter, List.mem_append, not_or] at hafter
      rw [Frame.sweep_fill hbefore.1 hafter.2, ih hinner hbefore.2 hafter.1, fill_cons]

end

namespace Tree

variable {body : Body}

/-- The body with a change made at every node of the identity. -/
def sweep (c : Change) (body : Body) : Body := body.filterMap (Node.sweep c)

theorem sweep_nodes (c : Change) (body : Body) :
    (Value.nodes body).sweep c = some (.nodes (sweep c body)) := by
  have hitems : Value.sweepItems c (body.map .node) = (sweep c body).map .node := by
    induction body with
    | nil => rfl
    | cons n ns ih =>
        rw [List.map_cons, Value.sweepItems, ih, Value.sweep, sweep, sweep, List.filterMap_cons]
        cases n.sweep c <;> rfl
  rw [Value.nodes, Value.sweep, hitems, Value.nodes]

theorem sweep_eq_self {c : Change} (h : c.id ∉ ids body) : sweep c body = body := by
  have hsweep := sweep_nodes c body
  rw [Value.sweep_eq_self _ (by rwa [Value.ids_nodes])] at hsweep
  exact (Value.nodes_injective (Option.some.inj hsweep)).symm

/-- In a tree that names each node once, a sweep changes what is at the end of the way to its
node. -/
theorem UniqueIds.fill_sweep (hu : UniqueIds body) {p : Spine} {t : Node}
    (hfill : p.fill (some (.node t)) = some (.nodes body)) {c : Change} (hid : t.id = c.id) :
    p.fill ((c.act t).map .node) = some (.nodes (sweep c body)) := by
  have hself : t.id ∈ t.ids := Value.id_mem_ids (v := .node t) t.self_mem_subtree
  obtain ⟨hbefore, hafter⟩ := hu.notMem_of_fill hfill hself
  rw [hid] at hbefore hafter
  rw [← sweep_nodes, Spine.sweep_fill hfill hbefore hafter, Node.sweep_of_eq hid]

end Tree

end HandlerStudio
