import HandlerStudio.Proofs.Node.Hereditary
import HandlerStudio.Proofs.Tree.Spine

/-!
# Rebuilding the spine

An edit that takes no node leaves a value alone. One that takes a node gives the value around what
becomes of that node, provided that no node on the way up refuses its new field. A node refuses
header keys and objects shaped like nodes; a value gets no such shape by a change to the nodes in
it, so in a tree without such objects the way up is open.
-/

namespace HandlerStudio

variable {edit : Node → Option Outcome}

/-! ## Edits that take nothing -/

/-- The edit does not change the node, and does not look below it or finds nothing there. -/
def Passes (edit : Node → Option Outcome) (n : Node) : Prop :=
  edit n = none ∨ edit n = some .unchanged

mutual

theorem Value.amend_eq_none (v : Value) (h : ∀ n ∈ v.subtree, Passes edit n) :
    v.amend edit = none := by
  match v with
  | .null | .bool _ | .number _ | .text _ => rfl
  | .node n =>
      have hn := Node.amend_eq_unchanged n h
      simp [Value.amend, hn]
  | .list items =>
      rw [Value.subtree_list] at h
      simp [Value.amend, Value.amendItems_eq_none items h]
  | .object entries =>
      rw [Value.subtree_object] at h
      simp [Value.amend, Value.amendEntries_eq_none entries h]

theorem Node.amend_eq_unchanged (n : Node) (h : ∀ m ∈ n.subtree, Passes edit m) :
    n.amend edit = .unchanged := by
  match n with
  | .mk id kind tier fields =>
      rw [Node.subtree_mk, List.forall_mem_cons] at h
      have hfields := Value.amendEntries_eq_none fields h.2
      rcases h.1 with hnone | hsome
      · simp [Node.amend, hnone, hfields]
      · simp [Node.amend, hsome]

theorem Value.amendItems_eq_none (items : List Value)
    (h : ∀ n ∈ items.flatMap Value.subtree, Passes edit n) :
    Value.amendItems edit items = none := by
  match items with
  | [] => rfl
  | v :: vs =>
      rw [List.flatMap_cons, List.forall_mem_append] at h
      have hv := Value.amend_eq_none v h.1
      have hvs := Value.amendItems_eq_none vs h.2
      cases hws : Value.amendItems edit (v :: vs) with
      | none => rfl
      | some ws =>
          rcases Value.amendItems_cons_cases hws with ⟨n, rfl, hn, -⟩ | ⟨w, hw, -⟩ | ⟨-, us, hus, -⟩
          · simp [Value.amend, hn] at hv
          · simp [hv] at hw
          · simp [hvs] at hus

theorem Value.amendEntries_eq_none (entries : List (String × Value))
    (h : ∀ n ∈ entries.flatMap fun e => e.2.subtree, Passes edit n) :
    Value.amendEntries edit entries = none := by
  match entries with
  | [] => rfl
  | (k, v) :: es =>
      rw [List.flatMap_cons, List.forall_mem_append] at h
      have hv := Value.amend_eq_none v h.1
      have hes := Value.amendEntries_eq_none es h.2
      simp [Value.amendEntries, hv, hes]

end

/-! ## What becomes of a value -/

/-- What takes the place of a node, if it changes. -/
def Outcome.value? : Outcome → Option (Option Value)
  | .unchanged => none
  | .removed => some none
  | .replaced m => some (some (.node m))

/-- What takes the place of a value, if it changes. Only a node may leave nothing. -/
def Value.outcome (edit : Node → Option Outcome) : Value → Option (Option Value)
  | .node n => (n.amend edit).value?
  | v => (v.amend edit).map some

namespace Value

theorem id_mem_ids {v : Value} {n : Node} (h : n ∈ v.subtree) : n.id ∈ v.ids := by
  rw [ids_eq_map_subtree]
  exact List.mem_map_of_mem h

theorem amend_eq_map_outcome (v : Value) :
    v.amend edit = (v.outcome edit).map fun w => w.getD .null := by
  cases v with
  | node n =>
      simp only [amend, outcome]
      cases n.amend edit <;> rfl
  | null | bool _ | number _ | text _ => rfl
  | list items =>
      simp only [outcome]
      cases (Value.list items).amend edit <;> rfl
  | object entries =>
      simp only [outcome]
      cases (Value.object entries).amend edit <;> rfl

theorem amendItems_cons_of_outcome {v : Value} {w : Option Value} (h : v.outcome edit = some w)
    (vs : List Value) : amendItems edit (v :: vs) = some (w.toList ++ vs) := by
  cases v with
  | node n =>
      simp only [outcome] at h
      simp only [amendItems]
      cases hn : n.amend edit with
      | unchanged => simp [hn, Outcome.value?] at h
      | removed =>
          obtain rfl : none = w := by simpa [hn, Outcome.value?] using h
          rfl
      | replaced m =>
          obtain rfl : some (.node m) = w := by simpa [hn, Outcome.value?] using h
          rfl
  | null | bool _ | number _ | text _ => cases h
  | list _ | object _ =>
      obtain ⟨u, hu, rfl⟩ := Option.map_eq_some_iff.mp h
      simp [amendItems, hu]

theorem amendItems_cons_of_none {v : Value} (h : v.amend edit = none) (vs : List Value) :
    amendItems edit (v :: vs) = (amendItems edit vs).map (v :: ·) := by
  cases v with
  | node n =>
      simp only [amendItems]
      cases hn : n.amend edit with
      | unchanged => rfl
      | removed | replaced _ => simp [amend, hn] at h
  | null | bool _ | number _ | text _ => rfl
  | list _ | object _ => simp [amendItems, h]

theorem amendItems_append {before : List Value}
    (h : ∀ n : Node, n.id ∈ before.flatMap ids → edit n = none) (vs : List Value) :
    amendItems edit (before ++ vs) = (amendItems edit vs).map (before ++ ·) := by
  induction before with
  | nil => simp
  | cons v before ih =>
      have hv : v.amend edit = none := by
        apply v.amend_eq_none
        intro n hn
        exact Or.inl (h n (by simp [id_mem_ids hn]))
      have hbefore : ∀ n : Node, n.id ∈ before.flatMap ids → edit n = none := by
        intro n hn
        exact h n (List.mem_append_right _ hn)
      rw [List.cons_append, amendItems_cons_of_none hv, ih hbefore, Option.map_map]
      rfl

/-- The first entry that changes is the one whose value does. -/
theorem amendEntries_append_cons {before : List (String × Value)}
    (h : ∀ n : Node, n.id ∈ before.flatMap (fun e => e.2.ids) → edit n = none) {v : Value}
    {w : Option Value} (hv : v.outcome edit = some w) (key : String)
    (after : List (String × Value)) :
    amendEntries edit (before ++ (key, v) :: after) = some (key, w.getD .null) := by
  induction before with
  | nil =>
      have hamend : v.amend edit = some (w.getD .null) := by
        rw [amend_eq_map_outcome, hv]
        rfl
      simp [amendEntries, hamend]
  | cons e before ih =>
      obtain ⟨k, u⟩ := e
      have hu : u.amend edit = none := by
        apply u.amend_eq_none
        intro n hn
        exact Or.inl (h n (by simp [id_mem_ids hn]))
      have hbefore : ∀ n : Node, n.id ∈ before.flatMap (fun e => e.2.ids) → edit n = none := by
        intro n hn
        exact h n (List.mem_append_right _ hn)
      rw [List.cons_append, amendEntries]
      simp only [hu]
      exact ih hbefore

end Value

/-! ## The guard on the way up -/

namespace Value

/-- Neither a text nor a number, and so no part of a header. -/
def Mute (v : Value) : Prop := (∀ s, v ≠ .text s) ∧ ∀ n, v ≠ .number n

/-- An object has or has not the shape of a node, whatever is put in place of something mute. -/
theorem nodeShaped_eq_of_mute {v w : Value} (hv : v.Mute) (hw : w.Mute)
    (before : List (String × Value)) (key : String) (after : List (String × Value)) :
    nodeShaped (before ++ (key, v) :: after) = nodeShaped (before ++ (key, w) :: after) := by
  have htext : ∀ k s, Entries.get? k (before ++ (key, v) :: after) = some (.text s) ↔
      Entries.get? k (before ++ (key, w) :: after) = some (.text s) :=
    fun k s => Entries.get?_eq_some_congr (hv.1 s) (hw.1 s) before key after k
  have hnumber : ∀ k n, Entries.get? k (before ++ (key, v) :: after) = some (.number n) ↔
      Entries.get? k (before ++ (key, w) :: after) = some (.number n) :=
    fun k n => Entries.get?_eq_some_congr (hv.2 n) (hw.2 n) before key after k
  have hkeys : Entries.keys (before ++ (key, v) :: after) =
      Entries.keys (before ++ (key, w) :: after) := by
    simp [Entries.keys]
  rw [Bool.eq_iff_iff, nodeShaped_eq_true_iff, nodeShaped_eq_true_iff]
  constructor
  · rintro ⟨htype, hid, htier⟩
    simp only [htext, hnumber, hkeys] at htype hid htier
    exact ⟨htype, hid, htier⟩
  · rintro ⟨htype, hid, htier⟩
    simp only [← htext, ← hnumber, ← hkeys] at htype hid htier
    exact ⟨htype, hid, htier⟩

theorem itemsHoldNodeShape_eq_any (items : List Value) :
    itemsHoldNodeShape items = items.any holdsNodeShape := by
  induction items with
  | nil => rfl
  | cons v vs ih => rw [itemsHoldNodeShape, ih, List.any_cons]

theorem entriesHoldNodeShape_eq_any (entries : List (String × Value)) :
    entriesHoldNodeShape entries = entries.any fun e => e.2.holdsNodeShape := by
  induction entries with
  | nil => rfl
  | cons e es ih =>
      obtain ⟨k, v⟩ := e
      rw [entriesHoldNodeShape, ih, List.any_cons]

theorem holdsNodeShape_getD (v : Option Value) :
    (v.getD .null).holdsNodeShape = v.any holdsNodeShape := by
  cases v <;> rfl

theorem exists_of_isNode {v : Value} (h : v.isNode = true) : ∃ n, v = .node n := by
  cases v with
  | node n => exact ⟨n, rfl⟩
  | null | bool _ | number _ | text _ | list _ | object _ => cases h

end Value

theorem Frame.mute_fill (f : Frame) (v : Option Value) : (f.fill v).Mute := by
  cases f <;> simp [Frame.fill, Value.Mute]

namespace Spine

variable {v w : Option Value}

theorem mute_fill (p : Spine) (hv : ∀ u ∈ v, u.isNode = true) : ((p.fill v).getD .null).Mute := by
  cases p with
  | cons f p => exact f.mute_fill _
  | nil =>
      cases v with
      | none => simp [Value.Mute]
      | some u =>
          obtain ⟨n, rfl⟩ := Value.exists_of_isNode (hv u rfl)
          simp [Value.Mute]

/-- Nodes come and go without a change to the shapes of plain objects around them. -/
theorem any_holdsNodeShape_fill (p : Spine) (hv : ∀ u ∈ v, u.isNode = true)
    (hw : ∀ u ∈ w, u.isNode = true) :
    (p.fill v).any Value.holdsNodeShape = (p.fill w).any Value.holdsNodeShape := by
  induction p with
  | nil =>
      have hnone : ∀ x : Option Value, (∀ u ∈ x, u.isNode = true) →
          x.any Value.holdsNodeShape = false := by
        intro x hx
        cases x with
        | none => rfl
        | some u =>
            obtain ⟨n, rfl⟩ := Value.exists_of_isNode (hx u rfl)
            rfl
      rw [fill_nil, fill_nil, hnone v hv, hnone w hw]
  | cons f p ih =>
      rw [fill_cons, fill_cons, Option.any_some, Option.any_some]
      cases f with
      | field => rfl
      | entry before key after =>
          have hshape :=
            Value.nodeShaped_eq_of_mute (mute_fill p hv) (mute_fill p hw) before key after
          simp only [Frame.fill, Value.holdsNodeShape, Value.entriesHoldNodeShape_eq_any,
            List.any_append, List.any_cons, Value.holdsNodeShape_getD, ih, hshape]
      | item before after =>
          have htoList : ∀ x : Option Value,
              x.toList.any Value.holdsNodeShape = x.any Value.holdsNodeShape := by
            intro x
            cases x <;> simp
          simp only [Frame.fill, Value.holdsNodeShape, Value.itemsHoldNodeShape_eq_any,
            List.any_append, htoList, ih]

/-- No node on the way up refuses its new field, and keys are in order along the way. -/
def Open : Spine → Prop
  | [] => True
  | .field _ _ _ before key after :: p =>
      Entries.Sorted (before ++ (key, Value.null) :: after) ∧ Node.isReserved key = false ∧
        (Spine.fill p none).any Value.holdsNodeShape = false ∧ Open p
  | .entry before key after :: p =>
      Entries.Sorted (before ++ (key, Value.null) :: after) ∧ Open p
  | .item _ _ :: p => Open p

theorem open_of_fill {p : Spine} {t : Node} {v : Value} (h : p.fill (some (.node t)) = some v)
    (hr : v.Regular) (hu : v.Undisguised) : p.Open := by
  induction p generalizing v with
  | nil => trivial
  | cons f p ih =>
      obtain ⟨u, hfill⟩ := exists_fill p (.node t)
      rw [fill_cons, hfill] at h
      obtain rfl := Option.some.inj h
      cases f with
      | field id kind tier before key after =>
          obtain ⟨hsorted, hfree, hfields⟩ :=
            (Node.regular_iff _).mp ((Value.regular_node_iff _).mp hr)
          rw [Frame.fill, Value.undisguised_node_iff, Node.undisguised_mk_iff] at hu
          have hmem : (key, u) ∈ before ++ (key, u) :: after := by simp
          have hguard : u.holdsNodeShape = false :=
            ((Value.undisguised_iff_guarded u).mp (hu _ hmem)).1
          have hsame : (Spine.fill p none).any Value.holdsNodeShape =
              (Spine.fill p (some (.node t))).any Value.holdsNodeShape :=
            any_holdsNodeShape_fill p (by simp) (by simp [Value.isNode, Value.asNode?])
          refine ⟨Entries.sorted_append_cons_congr hsorted _, hfree _ hmem, ?_,
            ih hfill (hfields _ hmem) (hu _ hmem)⟩
          rw [hsame, hfill]
          exact hguard
      | entry before key after =>
          obtain ⟨hsorted, hentries⟩ := (Value.regular_object_iff _).mp hr
          obtain ⟨-, hplain⟩ := (Value.undisguised_object_iff _).mp hu
          have hmem : (key, u) ∈ before ++ (key, u) :: after := by simp
          exact ⟨Entries.sorted_append_cons_congr hsorted _,
            ih hfill (hentries _ hmem) (hplain _ hmem)⟩
      | item before after =>
          have hmem : u ∈ before ++ (some u).toList ++ after := by simp
          exact ih hfill ((Value.regular_list_iff _).mp hr _ hmem)
            ((Value.undisguised_list_iff _).mp hu _ hmem)

end Spine

/-! ## The way up -/

theorem Outcome.isNode_of_value? {o : Outcome} {w : Option Value} (h : o.value? = some w) :
    ∀ u ∈ w, u.isNode = true := by
  cases o with
  | unchanged => cases h
  | removed =>
      cases h
      simp
  | replaced m =>
      cases h
      simp [Value.isNode, Value.asNode?]

namespace Node

theorem withField_of_accepted {n : Node} {key : String} {v : Value}
    (hkey : isReserved key = false) (hv : v.holdsNodeShape = false) :
    n.withField key v = .mk n.id n.kind n.tier (Entries.insert key v n.fields) := by
  simp [withField, hkey, hv]

/-- The second node is the first one with a field set, and nothing else changed. -/
structure SetsField (n : Node) (key : String) (v : Value) (m : Node) : Prop where
  id_eq : m.id = n.id
  kind_eq : m.kind = n.kind
  tier_eq : m.tier = n.tier
  get?_key : m.get? key = some v
  get?_other : ∀ other, other ≠ key → m.get? other = n.get? other

theorem setsField_insert (n : Node) (key : String) (v : Value) :
    n.SetsField key v (.mk n.id n.kind n.tier (Entries.insert key v n.fields)) :=
  ⟨rfl, rfl, rfl, Entries.get?_insert_self _ _ _,
    fun _ hne => Entries.get?_insert_of_ne hne _ _⟩

theorem setsField_withField {n : Node} {key : String} {v : Value}
    (hkey : isReserved key = false) (hv : v.holdsNodeShape = false) :
    n.SetsField key v (n.withField key v) := by
  rw [withField_of_accepted hkey hv]
  exact n.setsField_insert key v

theorem mem_subtree_of_get? {n : Node} {key : String} {v : Value} (h : n.get? key = some v)
    {m : Node} (hm : m ∈ v.subtree) : m ∈ n.subtree := by
  have hfield : (key, v) ∈ n.fields := Entries.mem_of_get?_eq_some h
  rw [← n.eta, subtree_mk]
  exact List.mem_cons_of_mem _ (List.mem_flatMap.mpr ⟨_, hfield, hm⟩)

end Node

namespace Frame

/-- The keys beside the part are in order, and a node does not refuse the new part. -/
def Accepts : Frame → Option Value → Prop
  | .field _ _ _ before key after, w =>
      Entries.Sorted (before ++ (key, Value.null) :: after) ∧ Node.isReserved key = false ∧
        w.any Value.holdsNodeShape = false
  | .entry before key after, _ => Entries.Sorted (before ++ (key, Value.null) :: after)
  | .item _ _, _ => True

/-- One step up: what becomes of a part becomes of the whole around it. -/
theorem outcome_fill {f : Frame} {u : Value} {w : Option Value} (hu : u.outcome edit = some w)
    (hpass : ∀ n : Node, n.id ∈ f.idsBefore → edit n = none) (haccepts : f.Accepts w) :
    (f.fill (some u)).outcome edit = some (some (f.fill w)) := by
  cases f with
  | field id kind tier before key after =>
      obtain ⟨hsorted, hkey, hguard⟩ := haccepts
      rw [← Value.holdsNodeShape_getD] at hguard
      have hself : edit (.mk id kind tier (before ++ (key, u) :: after)) = none :=
        hpass _ List.mem_cons_self
      have hentries := Value.amendEntries_append_cons
        (fun n hn => hpass n (List.mem_cons_of_mem _ hn)) hu key after
      have hnew := Entries.insert_append_cons (Entries.sorted_append_cons_congr hsorted u)
        (w.getD .null)
      have hamend : Node.amend edit (.mk id kind tier (before ++ (key, u) :: after)) =
          .replaced (.mk id kind tier (before ++ (key, w.getD .null) :: after)) := by
        simp only [Node.amend, hself, hentries]
        rw [Node.withField_of_accepted hkey hguard]
        simp only [Node.id, Node.kind, Node.tier, Node.fields, hnew]
      simp only [fill, Option.getD_some, Value.outcome, hamend, Outcome.value?]
  | entry before key after =>
      have hentries := Value.amendEntries_append_cons hpass hu key after
      have hnew := Entries.insert_append_cons (Entries.sorted_append_cons_congr haccepts u)
        (w.getD .null)
      simp only [fill, Option.getD_some, Value.outcome, Value.amend, hentries, Option.map_some,
        hnew]
  | item before after =>
      have hitems : Value.amendItems edit (before ++ u :: after) =
          some (before ++ (w.toList ++ after)) := by
        rw [Value.amendItems_append hpass, Value.amendItems_cons_of_outcome hu]
        rfl
      simp only [fill, Option.toList_some, List.append_assoc, List.singleton_append, Value.outcome,
        Value.amend, hitems, Option.map_some]

end Frame

namespace Spine

theorem Open.accepts {f : Frame} {p : Spine} (h : Spine.Open (f :: p)) {w : Option Value}
    (hw : ∀ u ∈ w, u.isNode = true) : f.Accepts (fill p w) ∧ Spine.Open p := by
  cases f with
  | field id kind tier before key after =>
      obtain ⟨hsorted, hkey, hguard, hopen⟩ := h
      have hsame := any_holdsNodeShape_fill p hw (w := none) (by simp)
      exact ⟨⟨hsorted, hkey, hsame.trans hguard⟩, hopen⟩
  | entry before key after => exact h
  | item before after => exact ⟨trivial, h⟩

/-- An edit that takes the node at the end of an open spine, and nothing that comes before it, gives
the value around what becomes of that node. -/
theorem outcome_fill {p : Spine} {t : Node} {v : Value} {o : Outcome} {w : Option Value}
    (hfill : p.fill (some (.node t)) = some v) (hopen : p.Open)
    (hpass : ∀ n : Node, n.id ∈ p.idsBefore → edit n = none) (htake : edit t = some o)
    (hw : o.value? = some w) : v.outcome edit = some (p.fill w) := by
  induction p generalizing v with
  | nil =>
      obtain rfl : Value.node t = v := Option.some.inj hfill
      have hamend : t.amend edit = o := by
        cases t
        simp [Node.amend, htake]
      rw [Value.outcome, hamend, hw]
      rfl
  | cons f p ih =>
      obtain ⟨u, hinner⟩ := exists_fill p (.node t)
      rw [fill_cons, hinner] at hfill
      obtain rfl := Option.some.inj hfill
      obtain ⟨haccepts, hopen⟩ := hopen.accepts (Outcome.isNode_of_value? hw)
      have hpart : u.outcome edit = some (fill p w) := by
        apply ih hinner hopen
        intro n hn
        exact hpass n (List.mem_append_right _ hn)
      apply Frame.outcome_fill hpart _ haccepts
      intro n hn
      exact hpass n (List.mem_append_left _ hn)

end Spine

/-! ## Bodies

A body is a list of nodes, and what holds of the list as a value holds of the body. -/

namespace Value

theorem ids_nodes (body : Body) : (nodes body).ids = Tree.ids body := by
  simp [nodes, Tree.ids_eq_flatMap, List.flatMap_map]

theorem subtree_nodes (body : Body) : (nodes body).subtree = Tree.nodes body := by
  simp [nodes, Tree.nodes, List.flatMap_map]

theorem find?_nodes (id : NodeId) (body : Body) : (nodes body).find? id = Tree.find? id body := by
  rw [nodes, Value.find?, Tree.find?]
  induction body with
  | nil => rfl
  | cons n body ih =>
      have hn : (Value.node n).find? id = n.find? id := by rw [Value.find?]
      rw [List.map_cons, findInItems?, ih, List.findSome?_cons, hn]
      cases n.find? id <;> rfl

theorem regular_nodes_iff (body : Body) : (nodes body).Regular ↔ ∀ n ∈ body, n.Regular := by
  simp [nodes, regular_list_iff, regular_node_iff]

theorem nodes_injective {body new : Body} (h : nodes body = nodes new) : body = new := by
  have hmap : body.map Value.node = new.map Value.node := Value.list.inj h
  exact List.map_injective_iff.mpr (fun _ _ hn => Value.node.inj hn) hmap

theorem undisguised_nodes_iff (body : Body) :
    (nodes body).Undisguised ↔ ∀ n ∈ body, n.Undisguised := by
  simp [nodes, undisguised_list_iff, undisguised_node_iff]

theorem amend_nodes (body : Body) :
    (nodes body).amend edit = (Tree.amend? edit body).map nodes := by
  have hitems : amendItems edit (body.map .node) =
      (Tree.amend? edit body).map (List.map .node) := by
    induction body with
    | nil => rfl
    | cons n body ih =>
        simp only [List.map_cons, amendItems, Tree.amend?, ih]
        cases n.amend edit with
        | unchanged => cases Tree.amend? edit body <;> rfl
        | removed | replaced _ => rfl
  rw [nodes, amend, hitems, Option.map_map]
  rfl

end Value

namespace Tree

/-- In a tree that names each node once, every node is found by its identity. -/
theorem UniqueIds.find?_eq_some {body : Body} (hu : UniqueIds body) {n : Node}
    (hn : n ∈ nodes body) : find? n.id body = some n := by
  cases hfind : find? n.id body with
  | none =>
      rw [find?_eq_none_iff, ids_eq_map_nodes] at hfind
      exact absurd (List.mem_map_of_mem hn) hfind
  | some m =>
      obtain ⟨hm, hid⟩ := mem_of_find? hfind
      rw [hu.eq_of_id_eq hm hn hid]

theorem UniqueIds.find?_of_fill {body : Body} (hu : UniqueIds body) {p : Spine} {t m : Node}
    (hfill : p.fill (some (.node t)) = some (.nodes body)) (hm : m ∈ t.subtree) :
    find? m.id body = some m := by
  apply hu.find?_eq_some
  rw [← Value.subtree_nodes]
  exact Spine.mem_subtree_fill hfill hm

theorem amend?_eq_none {body : Body} (h : ∀ n ∈ nodes body, Passes edit n) :
    amend? edit body = none := by
  have hamend : (Value.nodes body).amend edit = none :=
    Value.amend_eq_none _ (by rwa [Value.subtree_nodes])
  rw [Value.amend_nodes] at hamend
  exact Option.map_eq_none_iff.mp hamend

/-- An edit at an identity that is not there takes nothing. -/
theorem amend?_eq_none_of_absent {body : Body} {id : NodeId} (h : id ∉ ids body)
    (hpass : ∀ n : Node, n.id ≠ id → edit n = none) : amend? edit body = none := by
  apply amend?_eq_none
  intro n hn
  left
  apply hpass
  rintro rfl
  rw [ids_eq_map_nodes] at h
  exact h (List.mem_map_of_mem hn)

/-- Nodes as the constructors build them, each named once, and no plain object shaped like one. -/
structure Proper (body : Body) : Prop where
  regular : ∀ n ∈ body, n.Regular
  uniqueIds : UniqueIds body
  undisguised : ∀ n ∈ body, n.Undisguised

theorem Proper.ordered {body : Body} (hb : Proper body) : Tree.Ordered body :=
  fun n hn => (hb.regular n hn).ordered

theorem exists_spine {body : Body} {id : NodeId} {t : Node} (hfind : find? id body = some t) :
    ∃ p : Spine, p.fill (some (.node t)) = some (.nodes body) := by
  rw [← Value.find?_nodes] at hfind
  obtain ⟨p, hfill, -⟩ := Value.exists_spine id _ hfind
  exact ⟨p, hfill⟩

theorem Proper.regular_of_find? {body : Body} (hb : Proper body) {id : NodeId} {t : Node}
    (hfind : find? id body = some t) : t.Regular := by
  obtain ⟨hmem, -⟩ := mem_of_find? hfind
  rw [← Value.subtree_nodes] at hmem
  have hbody := (Value.regular_nodes_iff body).mpr hb.regular
  exact (Value.regular_node_iff t).mp (Hereditary.regular.of_mem_subtree _ hbody hmem)

/-- In a tree that names each node once, the identities of a node occur nowhere beside its spine. -/
theorem UniqueIds.notMem_of_fill {body : Body} (hu : UniqueIds body) {p : Spine} {t : Node}
    (hfill : p.fill (some (.node t)) = some (.nodes body)) {x : NodeId} (hx : x ∈ t.ids) :
    x ∉ p.idsBefore ∧ x ∉ p.idsAfter := by
  have hids := Spine.ids_fill hfill
  rw [Value.ids_nodes, Option.elim_some, Value.ids_node] at hids
  rw [UniqueIds, hids, List.append_assoc, List.nodup_append, List.nodup_append] at hu
  obtain ⟨-, ⟨-, -, hafter⟩, hbefore⟩ := hu
  refine ⟨fun hmem => ?_, fun hmem => hafter x hx x hmem rfl⟩
  exact hbefore x hmem x (List.mem_append_left _ hx) rfl

/-- An edit that takes the node at the end of an open spine, and nothing that comes before it, gives
the body around what becomes of that node. -/
theorem amend?_of_open {body : Body} {p : Spine} {t : Node}
    (hfill : p.fill (some (.node t)) = some (.nodes body)) (hopen : p.Open)
    (hpass : ∀ n : Node, n.id ∈ p.idsBefore → edit n = none) {o : Outcome} (htake : edit t = some o)
    {w : Option Value} (hw : o.value? = some w) :
    ∃ new : Body, amend? edit body = some new ∧ p.fill w = some (.nodes new) := by
  have hout : ((Value.nodes body).amend edit).map some = some (p.fill w) :=
    Spine.outcome_fill hfill hopen hpass htake hw
  rw [Value.amend_nodes] at hout
  obtain ⟨v, hv, hfilled⟩ := Option.map_eq_some_iff.mp hout
  obtain ⟨new, hnew, rfl⟩ := Option.map_eq_some_iff.mp hv
  exact ⟨new, hnew, hfilled.symm⟩

theorem UniqueIds.self_notMem_of_fill {body : Body} (hu : UniqueIds body) {p : Spine} {t : Node}
    (hfill : p.fill (some (.node t)) = some (.nodes body)) : t.id ∉ p.idsBefore :=
  (hu.notMem_of_fill hfill (Value.id_mem_ids (v := .node t) t.self_mem_subtree)).1

theorem Proper.open_of_fill {body : Body} (hb : Proper body) {p : Spine} {t : Node}
    (hfill : p.fill (some (.node t)) = some (.nodes body)) : p.Open :=
  Spine.open_of_fill hfill ((Value.regular_nodes_iff body).mpr hb.regular)
    ((Value.undisguised_nodes_iff body).mpr hb.undisguised)

theorem Proper.amend?_of_fill {body : Body} (hb : Proper body) {p : Spine} {t : Node}
    (hfill : p.fill (some (.node t)) = some (.nodes body))
    (hpass : ∀ n : Node, n.id ≠ t.id → edit n = none) {o : Outcome} (htake : edit t = some o)
    {w : Option Value} (hw : o.value? = some w) :
    ∃ new : Body, amend? edit body = some new ∧ p.fill w = some (.nodes new) := by
  apply amend?_of_open hfill (hb.open_of_fill hfill) _ htake hw
  intro n hn
  apply hpass
  intro hid
  exact hb.uniqueIds.self_notMem_of_fill hfill (hid ▸ hn)

/-- A loop in a list in an object of a branch. -/
def sampleBody : Body :=
  [Node.sampleBranch (.node (.mk ⟨"b2"⟩ .whileStatement .universal
    [("body", .list [.node (.mk ⟨"b3"⟩ .literal .universal [])])]))]

theorem proper_sampleBody : Proper sampleBody := by
  have hitem : (Value.node (.mk ⟨"b2"⟩ .whileStatement .universal
      [("body", .list [.node (.mk ⟨"b3"⟩ .literal .universal [])])])).Regular := by
    rw [Value.regular_node_iff, Node.regular_iff]
    refine ⟨List.pairwise_singleton _ _, ?_, ?_⟩
    · simp [Node.fields, Node.isReserved, Node.reservedKeys]
    · simp [Node.fields, Value.regular_list_iff, Value.regular_node_iff, Node.regular_iff,
        Entries.Sorted]
  refine ⟨?_, ?_, ?_⟩
  · simpa [sampleBody] using Node.regular_sampleBranch hitem
  · have hids : duplicateIds sampleBody = [] := by decide
    exact (duplicateIds_eq_nil_iff _).mp hids
  · intro n hn
    rw [List.mem_singleton.mp hn, Node.undisguised_sampleBranch_iff]
    exact Value.undisguised_scalar rfl

end Tree

end HandlerStudio
