import HandlerStudio.Outline
import HandlerStudio.Proofs.Tree.Lookup
import HandlerStudio.Proofs.Tree.Summary

/-!
# Outlines and the walk

An outline has a row for each node that the walk meets, in the same order and with the same depth. A
row below the top names the field it hangs from: a field of the nearest row before it that is one
level up. The summary of a body counts the rows of its outline.
-/

namespace HandlerStudio

/-! ## Induction over children -/

mutual

theorem Value.forall_children {P : Node → Prop} (step : ∀ n : Node, (∀ m ∈ n.children, P m) → P n)
    (v : Value) : ∀ m ∈ v.children, P m := by
  match v with
  | .null | .bool _ | .number _ | .text _ => simp [Value.children]
  | .node n =>
      rw [Value.children]
      intro m hm
      cases List.mem_singleton.mp hm
      exact Node.children_induction step n
  | .list items => exact Value.forall_childrenOfItems step items
  | .object entries => exact Value.forall_childrenOfEntries step entries

/-- What holds of a node if it holds of its children holds of every node. -/
theorem Node.children_induction {P : Node → Prop}
    (step : ∀ n : Node, (∀ m ∈ n.children, P m) → P n) (n : Node) : P n := by
  match n with
  | .mk id kind tier fields =>
      apply step
      exact Value.forall_childrenOfEntries step fields

theorem Value.forall_childrenOfItems {P : Node → Prop}
    (step : ∀ n : Node, (∀ m ∈ n.children, P m) → P n) (items : List Value) :
    ∀ m ∈ Value.childrenOfItems items, P m := by
  match items with
  | [] => simp [Value.childrenOfItems]
  | v :: vs =>
      rw [Value.childrenOfItems]
      intro m hm
      rcases List.mem_append.mp hm with hm | hm
      · exact Value.forall_children step v m hm
      · exact Value.forall_childrenOfItems step vs m hm

theorem Value.forall_childrenOfEntries {P : Node → Prop}
    (step : ∀ n : Node, (∀ m ∈ n.children, P m) → P n) (entries : List (String × Value)) :
    ∀ m ∈ Value.childrenOfEntries entries, P m := by
  match entries with
  | [] => simp [Value.childrenOfEntries]
  | (k, v) :: es =>
      rw [Value.childrenOfEntries]
      intro m hm
      rcases List.mem_append.mp hm with hm | hm
      · exact Value.forall_children step v m hm
      · exact Value.forall_childrenOfEntries step es m hm

end

/-! ## Rows go through the children -/

section

variable (g : Gallery)

mutual

theorem Value.rowsAt_eq_flatMap_children (v : Value) (depth : Nat) (slot : String) :
    v.rowsAt g depth slot = v.children.flatMap (Node.rowsAt g depth (some slot)) := by
  match v with
  | .null | .bool _ | .number _ | .text _ => rfl
  | .node n => simp [Value.rowsAt, Value.children]
  | .list items =>
      rw [Value.rowsAt, Value.children]
      exact Value.rowsOfItems_eq_flatMap_children items depth slot
  | .object entries =>
      rw [Value.rowsAt, Value.children]
      exact Value.rowsOfEntries_eq_flatMap_children entries depth slot

theorem Value.rowsOfItems_eq_flatMap_children (items : List Value) (depth : Nat) (slot : String) :
    Value.rowsOfItems g depth slot items =
      (Value.childrenOfItems items).flatMap (Node.rowsAt g depth (some slot)) := by
  match items with
  | [] => rfl
  | v :: vs =>
      rw [Value.rowsOfItems, Value.childrenOfItems, List.flatMap_append,
        Value.rowsAt_eq_flatMap_children v, Value.rowsOfItems_eq_flatMap_children vs]

theorem Value.rowsOfEntries_eq_flatMap_children (entries : List (String × Value)) (depth : Nat)
    (slot : String) :
    Value.rowsOfEntries g depth slot entries =
      (Value.childrenOfEntries entries).flatMap (Node.rowsAt g depth (some slot)) := by
  match entries with
  | [] => rfl
  | (k, v) :: es =>
      rw [Value.rowsOfEntries, Value.childrenOfEntries, List.flatMap_append,
        Value.rowsAt_eq_flatMap_children v, Value.rowsOfEntries_eq_flatMap_children es]

end

theorem Value.rowsOfFields_eq_flatMap (fields : List (String × Value)) (depth : Nat) :
    Value.rowsOfFields g depth fields =
      fields.flatMap fun e => e.2.children.flatMap (Node.rowsAt g depth (some e.1)) := by
  induction fields with
  | nil => rfl
  | cons e fields ih =>
      rw [Value.rowsOfFields, ih, Value.rowsAt_eq_flatMap_children, List.flatMap_cons]

theorem Node.rowsAt_eq_cons (n : Node) (depth : Nat) (slot : Option String) :
    n.rowsAt g depth slot = ⟨n.id, depth, slot, g.label n, n.tier⟩ ::
      n.fields.flatMap fun e => e.2.children.flatMap (Node.rowsAt g (depth + 1) (some e.1)) := by
  cases n
  rw [Node.rowsAt, Value.rowsOfFields_eq_flatMap]
  rfl

end

theorem Node.children_eq_flatMap (n : Node) :
    n.children = n.fields.flatMap fun e => e.2.children :=
  Value.childrenOfEntries_eq n.fields

theorem Node.mem_children {n m : Node} {e : String × Value} (he : e ∈ n.fields)
    (hm : m ∈ e.2.children) : m ∈ n.children := by
  rw [n.children_eq_flatMap]
  exact List.mem_flatMap_of_mem he hm

/-! ## Rows and visits -/

/-- A row without its slot. -/
def Row.visit (r : Row) : NodeId × Nat × Tier × String := (r.id, r.depth, r.tier, r.label)

/-- What the row of a visited node says, its slot apart. -/
def Gallery.visit (g : Gallery) (p : Nat × Node) : NodeId × Nat × Tier × String :=
  (p.2.id, p.1, p.2.tier, g.label p.2)

theorem Node.map_visit_rowsAt (g : Gallery) (n : Node) : ∀ (depth : Nat) (slot : Option String),
    (n.rowsAt g depth slot).map Row.visit = (n.walkAt depth).map g.visit := by
  induction n using Node.children_induction with
  | step n ih =>
      intro depth slot
      rw [n.rowsAt_eq_cons, n.walkAt_eq_cons, n.children_eq_flatMap, List.flatMap_assoc,
        List.map_cons, List.map_cons, List.map_flatMap, List.map_flatMap]
      congr 1
      apply List.flatMap_congr
      intro e he
      rw [List.map_flatMap, List.map_flatMap]
      apply List.flatMap_congr
      intro m hm
      exact ih m (Node.mem_children he hm) (depth + 1) (some e.1)

theorem Gallery.map_visit_outline (g : Gallery) (body : Body) :
    (g.outline body).map Row.visit = (Tree.walk body).map g.visit := by
  rw [Gallery.outline, Tree.walk, List.map_flatMap, List.map_flatMap]
  apply List.flatMap_congr
  intro n _
  exact n.map_visit_rowsAt g 0 none

theorem Gallery.map_depth_outline (g : Gallery) (body : Body) :
    (g.outline body).map Row.depth = (Tree.walk body).map Prod.fst := by
  have hvisits := congrArg (List.map fun v => v.2.1) (g.map_visit_outline body)
  rwa [List.map_map, List.map_map] at hvisits

theorem Gallery.map_tier_outline (g : Gallery) (body : Body) :
    (g.outline body).map Row.tier = (Tree.walk body).map fun p => p.2.tier := by
  have hvisits := congrArg (List.map fun v => v.2.2.1) (g.map_visit_outline body)
  rwa [List.map_map, List.map_map] at hvisits

/-! ## Where rows hang -/

/-- The node is in the field of the holder that the slot names. -/
def Node.Holds (holder : Node) (slot : Option String) (node : Node) : Prop :=
  ∃ key v, slot = some key ∧ (key, v) ∈ holder.fields ∧ node ∈ v.children

/-- Of rows with their nodes, the one after `before` hangs from the nearest one a level up. -/
def Row.Hangs (before : List (Row × Node)) (row : Row) (node : Node) : Prop :=
  ∃ above holder between, before = above ++ holder :: between ∧ holder.1.depth + 1 = row.depth ∧
    (∀ p ∈ between, row.depth ≤ p.1.depth) ∧ holder.2.Holds row.slot node

/-- Rows with their nodes, where those that hang from none of the others are at one depth. -/
def Forest (depth : Nat) (top : Option String → Node → Prop) (rows : List (Row × Node)) : Prop :=
  ∀ before row node after, rows = before ++ (row, node) :: after →
    row.depth = depth ∧ top row.slot node ∨ depth < row.depth ∧ row.Hangs before node

namespace Forest

variable {depth : Nat} {top : Option String → Node → Prop} {rows others : List (Row × Node)}

theorem le_depth (h : Forest depth top rows) : ∀ p ∈ rows, depth ≤ p.1.depth := by
  intro p hp
  obtain ⟨before, after, hrows⟩ := List.append_of_mem hp
  rcases h before p.1 p.2 after hrows with ⟨heq, -⟩ | ⟨hlt, -⟩
  · exact Nat.le_of_eq heq.symm
  · exact Nat.le_of_lt hlt

theorem nil : Forest depth top [] := by
  intro before row node after h
  simp at h

theorem append (h : Forest depth top rows) (h' : Forest depth top others) :
    Forest depth top (rows ++ others) := by
  intro before row node after hsplit
  rcases List.append_eq_append_iff.mp hsplit with ⟨front, hbefore, hothers⟩ | ⟨back, hrows, hback⟩
  · rcases h' front row node after hothers with htop | ⟨hlt, above, holder, between, hfront, hrest⟩
    · exact Or.inl htop
    · refine Or.inr ⟨hlt, rows ++ above, holder, between, ?_, hrest⟩
      rw [hbefore, hfront, List.append_assoc]
  · cases back with
    | nil =>
        rw [List.append_nil] at hrows
        subst hrows
        rcases h' [] row node after hback.symm with htop | ⟨-, above, holder, between, hnil, -⟩
        · exact Or.inl htop
        · simp at hnil
    | cons p back =>
        obtain ⟨rfl, -⟩ := List.cons_eq_cons.mp hback
        exact h before row node back hrows

theorem flatMap {α : Type} {items : List α} {f : α → List (Row × Node)}
    (h : ∀ a ∈ items, Forest depth top (f a)) : Forest depth top (items.flatMap f) := by
  induction items with
  | nil => exact nil
  | cons a items ih =>
      rw [List.flatMap_cons]
      apply append
      · exact h a List.mem_cons_self
      · exact ih fun b hb => h b (List.mem_cons_of_mem a hb)

theorem mono {top' : Option String → Node → Prop} (h : Forest depth top rows)
    (hmono : ∀ slot node, top slot node → top' slot node) : Forest depth top' rows := by
  intro before row node after hsplit
  rcases h before row node after hsplit with ⟨hdepth, htop⟩ | hhangs
  · exact Or.inl ⟨hdepth, hmono _ _ htop⟩
  · exact Or.inr hhangs

/-- Rows one level down that hang from a row may follow it. -/
theorem cons {holder : Row × Node} (hdepth : holder.1.depth = depth)
    (htop : top holder.1.slot holder.2) (h : Forest (depth + 1) holder.2.Holds rows) :
    Forest depth top (holder :: rows) := by
  intro before row node after hsplit
  cases before with
  | nil =>
      obtain ⟨rfl, -⟩ := List.cons_eq_cons.mp hsplit
      exact Or.inl ⟨hdepth, htop⟩
  | cons p before =>
      obtain ⟨rfl, hrows⟩ := List.cons_eq_cons.mp hsplit
      right
      rcases h before row node after hrows with
        ⟨hrow, hholds⟩ | ⟨hlt, above, near, between, hbefore, hrest⟩
      · refine ⟨by omega, [], holder, before, rfl, by omega, ?_, hholds⟩
        intro p hp
        rw [hrow]
        apply h.le_depth
        rw [hrows]
        exact List.mem_append_left _ hp
      · refine ⟨by omega, holder :: above, near, between, ?_, hrest⟩
        rw [hbefore, List.cons_append]

end Forest

theorem zip_flatMap {α β γ : Type} {items : List α} {f : α → List β} {f' : α → List γ}
    (h : ∀ a ∈ items, (f a).length = (f' a).length) :
    (items.flatMap f).zip (items.flatMap f') = items.flatMap fun a => (f a).zip (f' a) := by
  induction items with
  | nil => rfl
  | cons a items ih =>
      rw [List.flatMap_cons, List.flatMap_cons, List.flatMap_cons,
        List.zip_append (h a List.mem_cons_self), ih fun b hb => h b (List.mem_cons_of_mem a hb)]

theorem Node.length_rowsAt (g : Gallery) (n : Node) (depth : Nat) (slot : Option String) :
    (n.rowsAt g depth slot).length = n.subtree.length := by
  have hlength := congrArg List.length (n.map_visit_rowsAt g depth slot)
  rw [List.length_map, List.length_map] at hlength
  rw [hlength, ← n.map_snd_walkAt depth, List.length_map]

theorem Node.subtree_eq_cons (n : Node) :
    n.subtree = n :: n.fields.flatMap fun e => e.2.children.flatMap Node.subtree := by
  rw [← n.map_snd_walkAt 0, n.walkAt_eq_cons, n.children_eq_flatMap, List.flatMap_assoc,
    List.map_cons]
  simp only [List.map_flatMap, Node.map_snd_walkAt]

theorem Node.forest_rowsAt (g : Gallery) (n : Node) : ∀ (depth : Nat) (slot : Option String),
    Forest depth (fun s m => s = slot ∧ m = n) ((n.rowsAt g depth slot).zip n.subtree) := by
  induction n using Node.children_induction with
  | step n ih =>
      intro depth slot
      rw [n.rowsAt_eq_cons, n.subtree_eq_cons, List.zip_cons_cons, zip_flatMap]
      · refine Forest.cons rfl ⟨rfl, rfl⟩ ?_
        apply Forest.flatMap
        intro e he
        rw [zip_flatMap fun m _ => m.length_rowsAt g (depth + 1) (some e.1)]
        apply Forest.flatMap
        intro m hm
        apply (ih m (Node.mem_children he hm) (depth + 1) (some e.1)).mono
        rintro _ _ ⟨rfl, rfl⟩
        exact ⟨e.1, e.2, rfl, he, hm⟩
      · intro e _
        rw [List.length_flatMap, List.length_flatMap]
        simp only [Node.length_rowsAt]

theorem Gallery.forest_outline (g : Gallery) (body : Body) :
    Forest 0 (fun slot node => slot = none ∧ node ∈ body)
      ((g.outline body).zip (Tree.nodes body)) := by
  rw [Gallery.outline, Tree.nodes, zip_flatMap fun n _ => n.length_rowsAt g 0 none]
  apply Forest.flatMap
  intro n hn
  apply (n.forest_rowsAt g 0 none).mono
  rintro _ _ ⟨rfl, rfl⟩
  exact ⟨rfl, hn⟩

/-! ## The summary counts the rows -/

/-- The summary is that of the rows of an outline. -/
structure TreeStats.Describes (s : TreeStats) (rows : List Row) : Prop where
  nodes : s.nodes = rows.length
  count : ∀ t, s.count t = rows.countP fun r => r.tier = t
  total : s.count .universal + s.count .domain + s.count .specialized + s.count .native = s.nodes
  maxDepth : s.maxDepth = (rows.map Row.depth).max?.elim 0 (1 + ·)
  worstTier : s.worstTier?.map Tier.toNat = (rows.map fun r => r.tier.toNat).max?
  isFullyPortable : s.isFullyPortable = true ↔ ∀ r ∈ rows, r.tier = .universal

theorem Gallery.collect_describes_outline (g : Gallery) (body : Body) :
    (TreeStats.collect body).Describes (g.outline body) := by
  have hsums := TreeStats.sums_collect body
  have htiers := g.map_tier_outline body
  constructor
  · have hlength := congrArg List.length htiers
    rw [List.length_map, List.length_map] at hlength
    rw [hsums.nodes, hlength]
  · intro t
    have hcount := congrArg (List.countP fun u => u = t) htiers
    rw [List.countP_map, List.countP_map] at hcount
    rw [hsums.count t]
    exact hcount.symm
  · exact hsums.total.trans hsums.nodes.symm
  · rw [hsums.maxDepth_eq, g.map_depth_outline]
  · have hnumbers := congrArg (List.map Tier.toNat) htiers
    rw [List.map_map, List.map_map] at hnumbers
    rw [hsums.worstTier?_eq]
    exact congrArg List.max? hnumbers.symm
  · have hall : (∀ t ∈ (g.outline body).map Row.tier, t = .universal) ↔
        ∀ t ∈ (Tree.walk body).map (fun p => p.2.tier), t = .universal := by rw [htiers]
    rw [List.forall_mem_map, List.forall_mem_map] at hall
    rw [hsums.isFullyPortable_iff, hall]

/-- The outline of a body is its walk: the rows are the visits in order, a row below the top hangs
from the nearest row before it that is one level up, and the summary is that of the rows. -/
theorem Gallery.outline_describes_walk (g : Gallery) (body : Body) :
    (g.outline body).map (fun r => (r.id, r.depth, r.tier, r.label)) =
      (Tree.walk body).map (fun p => (p.2.id, p.1, p.2.tier, g.label p.2)) ∧
    (∀ before row node after,
      (g.outline body).zip ((Tree.walk body).map Prod.snd) = before ++ (row, node) :: after →
        row.depth = 0 ∧ row.slot = none ∧ node ∈ body ∨ 0 < row.depth ∧ row.Hangs before node) ∧
    (TreeStats.collect body).Describes (g.outline body) ∧
    ((TreeStats.collect body).hasNativeBridge = true ↔
      ∃ p ∈ Tree.walk body, p.2.kind = .nativeBridge) := by
  refine ⟨g.map_visit_outline body, ?_, g.collect_describes_outline body, ?_⟩
  · rw [← Tree.nodes_eq_map_walk]
    exact g.forest_outline body
  · rw [(TreeStats.sums_collect body).hasNativeBridge, List.any_eq_true]
    simp only [beq_iff_eq]

/-- The loop inside the object hangs from the second node of the identity, and that one, though
every tier is universal, is code of one language. -/
theorem Gallery.outline_sampleTangle :
    ∃ first second row node,
      (standard.outline Tree.sampleTangle).zip ((Tree.walk Tree.sampleTangle).map Prod.snd) =
        [first, second] ++ [(row, node)] ∧
      (row.id, row.depth, row.slot) = (⟨"b"⟩, 1, some "held") ∧ row.Hangs [first, second] node ∧
      (TreeStats.collect Tree.sampleTangle).maxDepth = 2 ∧
      (TreeStats.collect Tree.sampleTangle).isFullyPortable = true ∧
      (TreeStats.collect Tree.sampleTangle).hasNativeBridge = true := by
  obtain ⟨-, hhangs, hsummary, hbridge⟩ := standard.outline_describes_walk Tree.sampleTangle
  have hwalk : ∃ a b c, Tree.walk Tree.sampleTangle = [(0, a), (0, b), (1, c)] ∧
      b.kind = .nativeBridge := ⟨_, _, _, rfl, rfl⟩
  have hrows : ∃ a b c, standard.outline Tree.sampleTangle =
      [⟨⟨"a"⟩, 0, none, a, .universal⟩, ⟨⟨"a"⟩, 0, none, b, .universal⟩,
        ⟨⟨"b"⟩, 1, some "held", c, .universal⟩] := ⟨_, _, _, rfl⟩
  obtain ⟨a, b, c, hwalk, hkind⟩ := hwalk
  obtain ⟨la, lb, lc, hrows⟩ := hrows
  rw [hwalk, hrows] at hhangs
  rw [hwalk] at hbridge
  rw [hrows] at hsummary
  refine ⟨_, _, _, _, by rw [hwalk, hrows]; rfl, rfl, ?_, ?_, ?_, ?_⟩
  · rcases hhangs [_, _] _ _ [] rfl with ⟨hdepth, -⟩ | ⟨-, hrow⟩
    · cases hdepth
    · exact hrow
  · rw [hsummary.maxDepth]
    rfl
  · apply hsummary.isFullyPortable.mpr
    simp
  · apply hbridge.mpr
    simp [hkind]

end HandlerStudio
