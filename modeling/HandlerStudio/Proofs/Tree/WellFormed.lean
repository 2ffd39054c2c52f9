import HandlerStudio.Proofs.Node.Storable
import HandlerStudio.Proofs.Tree.Insert
import HandlerStudio.Proofs.Tree.Remove

/-!
# Well-formed trees take every edit

A node is well-formed if no field is named like a part of the header, and no plain object is shaped
like a node. New and decoded nodes are well-formed, and setting fields and editing trees keep them
so. In a well-formed tree no node refuses its new field when the way up from a change is rebuilt, so
whatever is changed at a node is changed in the tree. Identities may repeat.
-/

namespace HandlerStudio

/-- No field of the node or of a node below it is named like a part of the header, and no plain
object in these fields is shaped like a node. -/
structure Node.WellFormed (n : Node) : Prop where
  headerFree : ∀ m ∈ n.subtree, ∀ e ∈ m.fields, Node.isReserved e.1 = false
  undisguised : n.Undisguised

/-- Every node of the body is well-formed. -/
def Tree.WellFormed (body : Body) : Prop := ∀ n ∈ body, n.WellFormed

/-! ## Nodes and values -/

theorem Node.wellFormed_iff {n : Node} (ho : n.Ordered) :
    n.WellFormed ↔ (Value.node n).Regular ∧ (Value.node n).Undisguised := by
  rw [Value.regular_node_iff, Value.undisguised_node_iff]
  exact ⟨fun h => ⟨⟨ho, h.headerFree⟩, h.undisguised⟩, fun h => ⟨h.1.headerFree, h.2⟩⟩

theorem Node.wellFormed_of_sound {n : Node}
    (h : (Value.node n).Regular ∧ (Value.node n).Undisguised) : n.WellFormed :=
  (Node.wellFormed_iff ((Value.regular_node_iff n).mp h.1).ordered).mpr h

/-- Beside well-formed nodes, the guard of a field leaves nothing to be wrong with a value. -/
theorem Value.sound_of_wellFormed {v : Value} (ho : v.Ordered) (h : ∀ m ∈ v.subtree, m.WellFormed)
    (hshape : v.holdsNodeShape = false) : v.Regular ∧ v.Undisguised := by
  refine ⟨⟨ho, ?_⟩, (Value.undisguised_iff_guarded v).mpr ⟨hshape, ?_⟩⟩
  · intro m hm
    exact (h m hm).headerFree m m.self_mem_subtree
  · intro m hm
    exact (Node.undisguised_iff_guarded m).mp (h m hm).undisguised m m.self_mem_subtree

theorem Node.wellFormed_new (id : NodeId) (kind : Kind) : (Node.new id kind).WellFormed := by
  have h := Node.storable_new id kind
  exact ⟨h.regular.headerFree, h.undisguised⟩

theorem Node.wellFormed_ofJson {j : Json} (ho : j.Ordered) {fresh : NodeId} {n : Node}
    (h : Node.ofJson fresh j = .ok n) : n.WellFormed := by
  apply Node.wellFormed_of_sound
  apply Hereditary.sound.node_ofJson ho _ h
  intro m _
  exact ⟨Value.regular_number m, Value.undisguised_scalar rfl⟩

theorem Node.wellFormed_withField {n : Node} (ho : n.Ordered) (hn : n.WellFormed) (key : String)
    {v : Value} (hv : v.Ordered) (hnodes : ∀ m ∈ v.subtree, m.WellFormed) :
    (n.withField key v).WellFormed := by
  apply Node.wellFormed_of_sound
  apply Hereditary.sound.withField ((Node.wellFormed_iff ho).mp hn)
  exact Value.sound_of_wellFormed hv hnodes

/-- Building a node from parts makes no such check: an object shaped like a node stays in it. -/
theorem Node.exists_ofParts_not_wellFormed (id : NodeId) (kind : Kind) (tier : Tier) :
    ∃ fields : List (String × Value),
      (∀ e ∈ fields, e.2.Ordered ∧ ∀ m ∈ e.2.subtree, m.WellFormed) ∧
        ¬ (Node.ofParts id kind tier fields).WellFormed := by
  have hkeys : ["id", "tier", "type"].Pairwise (· < ·) := by decide
  refine ⟨[("value", .object [("id", .text "b1"), ("tier", .null), ("type", .text "if")])], ?_, ?_⟩
  · rw [List.forall_mem_singleton]
    refine ⟨⟨hkeys, trivial, trivial, trivial, trivial⟩, ?_⟩
    intro m hm
    cases hm
  · intro h
    have hvalue := (Node.undisguised_mk_iff _ _ _ _).mp h.undisguised ("value", _)
      (List.mem_singleton_self _)
    obtain ⟨hshape, -⟩ := (Value.undisguised_object_iff _).mp hvalue
    cases hshape

namespace Tree

variable {body : Body}

/-! ## Edits -/

theorem wellFormed_iff (ho : Tree.Ordered body) :
    WellFormed body ↔ (Value.nodes body).Regular ∧ (Value.nodes body).Undisguised := by
  rw [Hereditary.sound.nodes_iff]
  exact forall₂_congr fun n hn => Node.wellFormed_iff (ho n hn)

theorem wellFormed_of_sound (h : (Value.nodes body).Regular ∧ (Value.nodes body).Undisguised) :
    WellFormed body :=
  fun n hn => Node.wellFormed_of_sound ((Hereditary.sound.nodes_iff body).mp h n hn)

section Body

variable (ho : Tree.Ordered body) (hb : WellFormed body)

include ho hb

theorem wellFormed_remove (id : NodeId) : WellFormed (remove body id) :=
  wellFormed_of_sound (Hereditary.sound.remove ((wellFormed_iff ho).mp hb) id)

theorem wellFormed_insert (parent : Option NodeId) {node : Node} (hnode : node.Ordered)
    (hn : node.WellFormed) (index : Option Nat) : WellFormed (insert body parent node index) := by
  apply wellFormed_of_sound
  exact Hereditary.sound.insert ((wellFormed_iff ho).mp hb) parent
    ((Node.wellFormed_iff hnode).mp hn) index

theorem wellFormed_updateProperty (id : NodeId) (key : String) {v : Value} (hv : v.Ordered)
    (hnodes : ∀ m ∈ v.subtree, m.WellFormed) : WellFormed (updateProperty body id key v) := by
  apply wellFormed_of_sound
  apply Hereditary.sound.updateProperty ((wellFormed_iff ho).mp hb)
  exact Value.sound_of_wellFormed hv hnodes

/-! ## The way up -/

theorem WellFormed.open_of_fill {p : Spine} {t : Node}
    (hfill : p.fill (some (.node t)) = some (.nodes body)) : p.Open := by
  obtain ⟨hr, hu⟩ := (wellFormed_iff ho).mp hb
  exact Spine.open_of_fill hfill hr hu

/-- A change at the first node with an identity is a change of the body. -/
theorem WellFormed.amend?_of_find? {edit : Node → Option Outcome} {id : NodeId} {t : Node}
    (hfind : find? id body = some t) (hpass : ∀ n : Node, n.id ≠ id → edit n = none) {o : Outcome}
    (htake : edit t = some o) {x : Option Value} (hx : o.value? = some x) :
    ∃ p : Spine, p.fill (some (.node t)) = some (.nodes body) ∧
      p.fill x = some (.nodes ((amend? edit body).getD body)) := by
  rw [← Value.find?_nodes] at hfind
  obtain ⟨p, hfill, hbefore⟩ := Value.exists_spine id _ hfind
  have hskip : ∀ n : Node, n.id ∈ p.idsBefore → edit n = none := by
    intro n hn
    apply hpass
    rintro rfl
    exact hbefore hn
  obtain ⟨new, hnew, hfilled⟩ :=
    amend?_of_open hfill (hb.open_of_fill ho hfill) hskip htake hx
  rw [hnew]
  exact ⟨p, hfill, hfilled⟩

/-- On the way up from a node, every node around it takes its new field. -/
theorem WellFormed.withField_of_fill {p q r : Spine} {t : Node} {id : NodeId} {kind : Kind}
    {tier : Tier} {before after : List (String × Value)} {key : String}
    (hfill : p.fill (some (.node t)) = some (.nodes body))
    (hsplit : p = q ++ .field id kind tier before key after :: r) {x : Option Value}
    (hx : ∀ u ∈ x, u.isNode = true) :
    (Node.mk id kind tier
        (before ++ (key, (r.fill (some (.node t))).getD .null) :: after)).withField
        key ((r.fill x).getD .null) =
      .mk id kind tier (before ++ (key, (r.fill x).getD .null) :: after) := by
  have hopen := hb.open_of_fill ho hfill
  rw [hsplit] at hopen
  obtain ⟨⟨hsorted, hkey, hguard⟩, -⟩ := hopen.of_append.accepts hx
  rw [← Value.holdsNodeShape_getD] at hguard
  rw [Node.withField_of_accepted hkey hguard]
  simp only [Node.id, Node.kind, Node.tier, Node.fields,
    Entries.insert_append_cons (Entries.sorted_append_cons_congr hsorted _)]

end Body

/-- Nothing that is changed at a node of the body is lost on the way up. -/
structure TakesEdits (body : Body) : Prop where
  /-- No node above a node refuses the field with what becomes of it, another node or nothing. -/
  step : ∀ (p q r : Spine) (t : Node) (id : NodeId) (kind : Kind) (tier : Tier)
      (before : List (String × Value)) (key : String) (after : List (String × Value)),
    p.fill (some (.node t)) = some (.nodes body) →
    p = q ++ .field id kind tier before key after :: r →
    ∀ x : Option Value, (∀ u ∈ x, u.isNode = true) →
      (Node.mk id kind tier
          (before ++ (key, (r.fill (some (.node t))).getD .null) :: after)).withField
          key ((r.fill x).getD .null) =
        .mk id kind tier (before ++ (key, (r.fill x).getD .null) :: after)
  /-- The body changes by what becomes of the node that an edit takes, and by nothing else. -/
  amend : ∀ (edit : Node → Option Outcome) (new : Body), amend? edit body = some new →
    ∃ (p : Spine) (t : Node) (o : Outcome) (x : Option Value),
      p.fill (some (.node t)) = some (.nodes body) ∧ edit t = some o ∧ o.value? = some x ∧
        p.fill x = some (.nodes new)
  remove : ∀ (id : NodeId) (t : Node), find? id body = some t →
    ∃ p : Spine, p.fill (some (.node t)) = some (.nodes body) ∧
      p.fill none = some (.nodes (Tree.remove body id))
  insert : ∀ (parent : NodeId) (node t : Node) (slot : String) (index : Option Nat),
    clash? body (.node node) none = none → find? parent body = some t →
    t.insertionSlot? = some slot →
    ∃ p : Spine, p.fill (some (.node t)) = some (.nodes body) ∧
      p.fill (some (.node (t.insertChild slot node index))) =
        some (.nodes (Tree.insert body (some parent) node index))
  update : ∀ (id : NodeId) (t : Node) (key : String) (v : Value), Node.isReserved key = false →
    find? id body = some t → clash? body v (t.get? key) = none →
    ∃ p : Spine, p.fill (some (.node t)) = some (.nodes body) ∧
      p.fill (some (.node (t.withField key v))) =
        some (.nodes (Tree.updateProperty body id key v))

theorem WellFormed.takesEdits (ho : Tree.Ordered body) (hb : WellFormed body) :
    TakesEdits body where
  step _ _ _ _ _ _ _ _ _ _ hfill hsplit _ hx := hb.withField_of_fill ho hfill hsplit hx
  amend edit new hamend := by
    obtain ⟨p, t, o, x, hfill, htake, hx, ⟨hclosed, -⟩ | ⟨-, hnew⟩⟩ := exists_of_amend? ho hamend
    · exact absurd (hb.open_of_fill ho hfill) hclosed
    · exact ⟨p, t, o, x, hfill, htake, hx, hnew⟩
  remove id t hfind := by
    obtain ⟨-, hid⟩ := mem_of_find? hfind
    exact hb.amend?_of_find? ho hfind (fun _ => removeAt_of_ne) (if_pos hid) rfl
  insert parent node t slot index hclash hfind hslot := by
    obtain ⟨-, hid⟩ := mem_of_find? hfind
    have htake : insertAt parent node index t =
        some (.replaced (t.insertChild slot node index)) := by
      simp [insertAt, hid, hslot]
    rw [insert_under hclash]
    apply hb.amend?_of_find? ho hfind _ htake rfl
    intro n hn
    simp [insertAt, hn]
  update id t key v hkey hfind hclash := by
    obtain ⟨-, hid⟩ := mem_of_find? hfind
    have htake : updateAt id key v t = some (.replaced (t.withField key v)) := if_pos hid
    have hupdate : updateProperty body id key v =
        (amend? (updateAt id key v) body).getD body := by
      simp [updateProperty, hkey, hfind, hclash]
    have hpass : ∀ n : Node, n.id ≠ id → updateAt id key v n = none := fun _ hn => if_neg hn
    rw [hupdate]
    exact hb.amend?_of_find? ho hfind hpass htake rfl

end Tree

/-- New and decoded nodes are well-formed, setting a field and all edits keep nodes so, and in a
well-formed tree no change of a node is lost on the way up. Only a node built from parts may be
otherwise. -/
theorem Tree.wellFormed_closed :
    (∀ (id : NodeId) (kind : Kind), (Node.new id kind).WellFormed) ∧
    (∀ (fresh : NodeId) (j : Json) (n : Node), j.Ordered → Node.ofJson fresh j = .ok n →
      n.WellFormed) ∧
    (∀ (n : Node) (key : String) (v : Value), n.Ordered → v.Ordered → n.WellFormed →
      (∀ m ∈ v.subtree, m.WellFormed) → (n.withField key v).WellFormed) ∧
    (∀ (id : NodeId) (kind : Kind) (tier : Tier), ∃ fields : List (String × Value),
      (∀ e ∈ fields, e.2.Ordered ∧ ∀ m ∈ e.2.subtree, m.WellFormed) ∧
        ¬ (Node.ofParts id kind tier fields).WellFormed) ∧
    ∀ body : Body, Tree.Ordered body → Tree.WellFormed body →
      (∀ id, Tree.WellFormed (Tree.remove body id)) ∧
      (∀ (parent : Option NodeId) (node : Node) (index : Option Nat), node.Ordered →
        node.WellFormed → Tree.WellFormed (Tree.insert body parent node index)) ∧
      (∀ (id : NodeId) (key : String) (v : Value), v.Ordered → (∀ m ∈ v.subtree, m.WellFormed) →
        Tree.WellFormed (Tree.updateProperty body id key v)) ∧
      Tree.TakesEdits body := by
  refine ⟨Node.wellFormed_new, ?_, ?_, Node.exists_ofParts_not_wellFormed, ?_⟩
  · intro fresh j n ho h
    exact Node.wellFormed_ofJson ho h
  · intro n key v ho hv hn hnodes
    exact Node.wellFormed_withField ho hn key hv hnodes
  · intro body ho hb
    refine ⟨Tree.wellFormed_remove ho hb, ?_, ?_, hb.takesEdits ho⟩
    · intro parent node index hnode hn
      exact Tree.wellFormed_insert ho hb parent hnode hn index
    · intro id key v hv hnodes
      exact Tree.wellFormed_updateProperty ho hb id key hv hnodes

/-- A branch that comes twice, so that every identity in it does. -/
def Tree.sampleTwins : Body := Tree.sampleBody ++ Tree.sampleBody

theorem Tree.wellFormed_closed_sampleTwins :
    ¬ Tree.UniqueIds Tree.sampleTwins ∧ Tree.Ordered Tree.sampleTwins ∧
      Tree.WellFormed Tree.sampleTwins ∧
      Tree.WellFormed (Tree.remove Tree.sampleTwins ⟨"b2"⟩) ∧
      Tree.WellFormed (Tree.insert Tree.sampleTwins (some ⟨"b2"⟩) (Node.new ⟨"b4"⟩ .literal) none) ∧
      Tree.WellFormed
        (Tree.updateProperty Tree.sampleTwins ⟨"b1"⟩ "note" (.node (Node.new ⟨"b4"⟩ .literal))) ∧
      Tree.TakesEdits Tree.sampleTwins := by
  have htwice : Tree.duplicateIds Tree.sampleTwins ≠ [] := by decide
  have hproper := Tree.proper_sampleBody
  have hcases : ∀ n ∈ Tree.sampleTwins, n ∈ Tree.sampleBody := by simp [Tree.sampleTwins]
  have ho : Tree.Ordered Tree.sampleTwins := fun n hn => hproper.ordered n (hcases n hn)
  have hb : Tree.WellFormed Tree.sampleTwins := by
    intro n hn
    exact ⟨(hproper.regular n (hcases n hn)).headerFree, hproper.undisguised n (hcases n hn)⟩
  have hnew : (Node.new ⟨"b4"⟩ .literal).Ordered := (Node.storable_new _ _).regular.ordered
  obtain ⟨hwell, -, -, -, hedits⟩ := Tree.wellFormed_closed
  obtain ⟨hremove, hinsert, hupdate, htakes⟩ := hedits _ ho hb
  refine ⟨?_, ho, hb, hremove _, hinsert _ _ _ hnew (hwell _ _), hupdate _ _ _ ?_ ?_, htakes⟩
  · exact fun hu => htwice ((Tree.duplicateIds_eq_nil_iff _).mpr hu)
  · simpa [Value.Ordered] using hnew
  · have hsubtree : (Value.node (Node.new ⟨"b4"⟩ .literal)).subtree =
        [Node.new ⟨"b4"⟩ .literal] := rfl
    simpa [hsubtree] using hwell ⟨"b4"⟩ .literal

end HandlerStudio
