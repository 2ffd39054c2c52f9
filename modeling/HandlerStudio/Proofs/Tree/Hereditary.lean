import HandlerStudio.Proofs.Node.Hereditary
import HandlerStudio.Proofs.Tree.Taken
import Mathlib.Data.List.InsertIdx

/-!
# Edits keep hereditary properties

A hereditary property of a value stays when a node with the property, or nothing, comes in place of
a node inside it: the keys around it stay in order, and plain objects keep their shapes. So an edit
takes no tree out of a hereditary property, as long as what comes in has it. Ids may repeat.
-/

namespace HandlerStudio

namespace Hereditary

variable {header shape : Bool → Prop} {P : Value → Prop} (hP : Hereditary header shape P)

include hP

/-! ## Values around a node -/

theorem of_frame {f : Frame} {u : Value} (h : P (f.fill (some u))) : P u := by
  cases f with
  | field id kind tier before key after =>
      obtain ⟨-, -, hfields⟩ := (hP.node_iff _).mp h
      exact hfields (key, u) (by simp [Node.fields])
  | entry before key after =>
      obtain ⟨-, -, hentries⟩ := (hP.object_iff _).mp h
      exact hentries (key, u) (by simp)
  | item before after => exact (hP.list_iff _).mp h u (by simp)

/-- What stands around a part keeps the property with another part in its place. -/
theorem frame {f : Frame} {v w : Option Value} (h : P (f.fill v)) (hv : (v.getD .null).Mute)
    (hw : (w.getD .null).Mute) (hpart : ∀ u ∈ w, P u) : P (f.fill w) := by
  have hvalue : P (w.getD .null) := by
    cases w with
    | none => exact hP.null
    | some u => exact hpart u rfl
  cases f with
  | field id kind tier before key after =>
      obtain ⟨hs, hfree, hfields⟩ := (hP.node_iff _).mp h
      refine (hP.node_iff _).mpr ⟨Entries.sorted_append_cons_congr hs _, ?_, ?_⟩
      · simp only [Node.fields, List.forall_mem_append, List.forall_mem_cons] at hfree ⊢
        exact hfree
      · simp only [Node.fields, List.forall_mem_append, List.forall_mem_cons] at hfields ⊢
        exact ⟨hfields.1, hvalue, hfields.2.2⟩
  | entry before key after =>
      obtain ⟨hs, hshape, hentries⟩ := (hP.object_iff _).mp h
      refine (hP.object_iff _).mpr ⟨Entries.sorted_append_cons_congr hs _, ?_, ?_⟩
      · rw [Value.nodeShaped_eq_of_mute hw hv]
        exact hshape
      · rw [List.forall_mem_append, List.forall_mem_cons] at hentries ⊢
        exact ⟨hentries.1, hvalue, hentries.2.2⟩
  | item before after =>
      have hitems := (hP.list_iff _).mp h
      refine (hP.list_iff _).mpr ?_
      rw [List.forall_mem_append, List.forall_mem_append] at hitems ⊢
      exact ⟨⟨hitems.1.1, fun u hu => hpart u (Option.mem_toList.mp hu)⟩, hitems.2⟩

section Spine

variable {p : Spine} {t : Node} {v : Value} (hfill : p.fill (some (.node t)) = some v) (hv : P v)

include hfill hv

theorem of_spine : P (.node t) := by
  induction p generalizing v with
  | nil =>
      obtain rfl : Value.node t = v := Option.some.inj hfill
      exact hv
  | cons f p ih =>
      obtain ⟨u, hinner⟩ := Spine.exists_fill p (.node t)
      rw [Spine.fill_cons, hinner] at hfill
      obtain rfl := Option.some.inj hfill
      exact ih hinner (hP.of_frame hv)

/-- A node with the property, or nothing, in place of a node. -/
theorem spine {w : Option Value} (hnode : ∀ u ∈ w, u.isNode = true) (hw : ∀ u ∈ w, P u) :
    ∀ u ∈ p.fill w, P u := by
  induction p generalizing v with
  | nil => exact hw
  | cons f p ih =>
      obtain ⟨u, hinner⟩ := Spine.exists_fill p (.node t)
      have hold : P (f.fill (Spine.fill p (some (.node t)))) := by
        rw [Spine.fill_cons] at hfill
        rw [Option.some.inj hfill]
        exact hv
      have hrest := ih hinner (hP.of_frame (hinner ▸ hold))
      have hmute := Spine.mute_fill p (v := some (.node t)) (by simp [Value.isNode, Value.asNode?])
      intro x hx
      rw [Spine.fill_cons] at hx
      obtain rfl := Option.some.inj hx
      exact hP.frame hold hmute (Spine.mute_fill p hnode) hrest

end Spine

/-! ## Bodies -/

theorem nodes_iff (body : Body) : P (.nodes body) ↔ ∀ n ∈ body, P (.node n) := by
  rw [Value.nodes, hP.list_iff, List.forall_mem_map]

section Body

variable {body : Body} (hs : P (.nodes body))

include hs

/-- An edit takes one node, whose place goes to what the edit makes of it. -/
theorem amend? {edit : Node → Option Outcome} {new : Body}
    (hedit : ∀ t m, P (.node t) → edit t = some (.replaced m) → P (.node m))
    (h : Tree.amend? edit body = some new) : P (.nodes new) := by
  have ho := (Tree.ordered_nodes_iff body).mp (hP.ordered_of _ hs)
  obtain ⟨p, t, o, x, hold, htake, hx, ⟨-, rfl⟩ | ⟨-, hnew⟩⟩ := Tree.exists_of_amend? ho h
  · exact hs
  · apply hP.spine hold hs (Outcome.isNode_of_value? hx) _ _ hnew
    cases o with
    | unchanged => cases hx
    | removed =>
        obtain rfl := Option.some.inj hx
        simp
    | replaced m =>
        obtain rfl := Option.some.inj hx
        simpa using hedit t m (hP.of_spine hold hs) htake

theorem getD_amend? {edit : Node → Option Outcome}
    (hedit : ∀ t m, P (.node t) → edit t = some (.replaced m) → P (.node m)) :
    P (.nodes ((Tree.amend? edit body).getD body)) := by
  cases h : Tree.amend? edit body with
  | none => exact hs
  | some new => exact hP.amend? hs hedit h

theorem remove (id : NodeId) : P (.nodes (Tree.remove body id)) := by
  apply hP.getD_amend? hs
  intro t m _ htake
  obtain ⟨-, hremoved⟩ := Tree.removeAt_eq_some htake
  cases hremoved

theorem updateProperty (id : NodeId) (key : String) {v : Value}
    (hv : v.holdsNodeShape = false → P v) :
    P (.nodes (Tree.updateProperty body id key v)) := by
  have hamend : P (.nodes ((Tree.amend? (Tree.updateAt id key v) body).getD body)) := by
    apply hP.getD_amend? hs
    intro t m ht htake
    obtain ⟨-, hset⟩ := Tree.updateAt_eq_some htake
    obtain rfl := Outcome.replaced.inj hset
    exact hP.withField ht key hv
  unfold Tree.updateProperty
  split
  · exact hs
  · split
    · exact hs
    · split
      · exact hs
      · exact hamend

omit hs in
/-- The children that a node has already are parts of it. -/
theorem insertChild {n child : Node} (hn : P (.node n)) (hc : P (.node child)) (key : String)
    (index : Option Nat) : P (.node (n.insertChild key child index)) := by
  apply hP.withField hn
  intro _
  rw [hP.list_iff]
  intro v hv
  rcases List.eq_or_mem_of_mem_insertIdx hv with rfl | hmem
  · exact hc
  · cases hget : n.get? key with
    | none => simp [hget] at hmem
    | some u =>
        have hu := ((hP.node_iff n).mp hn).2.2 (key, u) (Entries.mem_of_get?_eq_some hget)
        cases u with
        | list items =>
            have hitem : v ∈ items := by simpa [hget, Value.asList?] using hmem
            exact (hP.list_iff items).mp hu v hitem
        | null | bool _ | number _ | text _ | node _ | object _ =>
            simp [hget, Value.asList?] at hmem

theorem insert (parent : Option NodeId) {node : Node} (hn : P (.node node))
    (index : Option Nat) : P (.nodes (Tree.insert body parent node index)) := by
  unfold Tree.insert
  split
  · exact hs
  · split
    · rw [hP.nodes_iff] at hs ⊢
      intro m hm
      rcases List.eq_or_mem_of_mem_insertIdx hm with rfl | hmem
      · exact hn
      · exact hs m hmem
    · apply hP.getD_amend? hs
      intro t m ht htake
      obtain ⟨-, hset | ⟨slot, -, hset⟩⟩ := Tree.insertAt_eq_some htake
      · cases hset
      · obtain rfl := Outcome.replaced.inj hset
        exact hP.insertChild ht hn slot index

end Body

end Hereditary

end HandlerStudio
