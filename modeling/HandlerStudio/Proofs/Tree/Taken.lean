import HandlerStudio.Proofs.Tree.Rebuild

/-!
# What an edit can do

An edit that changes a value took one node of it. Then the value stands around what became of that
node if the way up is open; else a node on it refused its new field, and the value is as before.
Nothing else can happen, whatever the value holds: only its keys have to be in order.
-/

namespace HandlerStudio

variable {edit : Node → Option Outcome}

/-- The edit took a node of the value, and the outcome is the value around what became of the node,
or the value itself if the way up is not open. -/
def Value.Taken (edit : Node → Option Outcome) (v : Value) (w : Option Value) : Prop :=
  ∃ (p : Spine) (t : Node) (o : Outcome) (x : Option Value),
    p.fill (some (.node t)) = some v ∧ edit t = some o ∧ o.value? = some x ∧
      (¬ p.Open ∧ w = some v ∨ p.Open ∧ w = p.fill x)

theorem Spine.open_cons {f : Frame} {p : Spine} {x : Option Value} (hf : f.Accepts (p.fill x))
    (hp : p.Open) (hx : ∀ u ∈ x, u.isNode = true) : Spine.Open (f :: p) := by
  cases f with
  | field id kind tier before key after =>
      obtain ⟨hsorted, hkey, hguard⟩ := hf
      have hsame := any_holdsNodeShape_fill p hx (w := none) (by simp)
      exact ⟨hsorted, hkey, hsame.symm.trans hguard, hp⟩
  | entry before key after => exact ⟨hf, hp⟩
  | item before after => exact hp

theorem Spine.Open.of_cons {f : Frame} {p : Spine} (h : Spine.Open (f :: p)) : p.Open :=
  (h.accepts (w := none) (by simp)).2

theorem Spine.Open.of_append {q p : Spine} (h : Spine.Open (q ++ p)) : p.Open := by
  induction q with
  | nil => exact h
  | cons f q ih => exact ih h.of_cons

/-- One step up: the frame takes what became of the part, or stays as it was. -/
theorem Frame.taken_fill {f : Frame} {u : Value} {y w : Option Value} (hu : u.Taken edit y)
    (hw : ¬ f.Accepts y ∧ w = some (f.fill (some u)) ∨ f.Accepts y ∧ w = some (f.fill y)) :
    (f.fill (some u)).Taken edit w := by
  obtain ⟨p, t, o, x, hfill, htake, hx, hy⟩ := hu
  have hnode := Outcome.isNode_of_value? hx
  refine ⟨f :: p, t, o, x, by rw [Spine.fill_cons, hfill], htake, hx, ?_⟩
  rcases hy with ⟨hclosed, rfl⟩ | ⟨hopen, rfl⟩
  · -- the part is as before, so the frame is too
    refine Or.inl ⟨fun h => hclosed h.of_cons, ?_⟩
    rcases hw with ⟨-, hw⟩ | ⟨-, hw⟩ <;> exact hw
  · rcases hw with ⟨hrefuses, hw⟩ | ⟨haccepts, rfl⟩
    · exact Or.inl ⟨fun h => hrefuses (h.accepts hnode).1, hw⟩
    · exact Or.inr ⟨Spine.open_cons haccepts hopen hnode, rfl⟩

namespace Value

theorem exists_of_amendItems {items ws : List Value} (h : amendItems edit items = some ws) :
    ∃ pre v post w, items = pre ++ v :: post ∧ v.outcome edit = some w ∧
      ws = pre ++ w.toList ++ post := by
  induction items generalizing ws with
  | nil => cases h
  | cons v vs ih =>
      cases hv : v.outcome edit with
      | some w =>
          rw [amendItems_cons_of_outcome hv] at h
          exact ⟨[], v, vs, w, rfl, hv, (Option.some.inj h).symm⟩
      | none =>
          have hamend : v.amend edit = none := by
            rw [amend_eq_map_outcome, hv]
            rfl
          rw [amendItems_cons_of_none hamend] at h
          obtain ⟨us, hus, rfl⟩ := Option.map_eq_some_iff.mp h
          obtain ⟨pre, u, post, w, rfl, hu, rfl⟩ := ih hus
          exact ⟨v :: pre, u, post, w, rfl, hu, rfl⟩

theorem exists_outcome_of_amendEntries {entries : List (String × Value)} {key : String} {w : Value}
    (h : amendEntries edit entries = some (key, w)) :
    ∃ pre v post y, entries = pre ++ (key, v) :: post ∧ v.outcome edit = some y ∧
      w = y.getD .null := by
  obtain ⟨pre, v, post, hsplit, hv⟩ := exists_of_amendEntries h
  rw [amend_eq_map_outcome] at hv
  obtain ⟨y, hy, rfl⟩ := Option.map_eq_some_iff.mp hv
  exact ⟨pre, v, post, y, hsplit, hy, rfl⟩

end Value

mutual

theorem Value.taken_of_outcome (v : Value) (ho : v.Ordered) {w : Option Value}
    (h : v.outcome edit = some w) : v.Taken edit w := by
  match v with
  | .null | .bool _ | .number _ | .text _ => cases h
  | .node n => exact Node.taken_of_amend n (by simpa [Value.Ordered] using ho) h
  | .list items =>
      obtain ⟨u, hu, rfl⟩ := Option.map_eq_some_iff.mp h
      obtain ⟨ws, hws, rfl⟩ := Option.map_eq_some_iff.mp (by simpa only [Value.amend] using hu)
      obtain ⟨pre, x, post, y, hsplit, hx, rfl⟩ := Value.exists_of_amendItems hws
      have hpart := Value.taken_of_mem_items items (by simpa [Value.Ordered] using ho)
        (by simp [hsplit]) hx
      have hstep := Frame.taken_fill (f := .item pre post) hpart (Or.inr ⟨trivial, rfl⟩)
      simpa [Frame.fill, hsplit] using hstep
  | .object entries =>
      simp only [Value.Ordered] at ho
      obtain ⟨u, hu, rfl⟩ := Option.map_eq_some_iff.mp h
      obtain ⟨⟨key, x'⟩, hx', rfl⟩ :=
        Option.map_eq_some_iff.mp (by simpa only [Value.amend] using hu)
      obtain ⟨pre, x, post, y, hsplit, hx, rfl⟩ := Value.exists_outcome_of_amendEntries hx'
      have hmem : (key, x) ∈ entries := by simp [hsplit]
      have hpart := Value.taken_of_mem_entries entries ho.2 hmem hx
      obtain ⟨hsorted, -⟩ := ho
      rw [hsplit] at hsorted
      have hstep := Frame.taken_fill (f := .entry pre key post) hpart
        (Or.inr ⟨Entries.sorted_append_cons_congr hsorted _, rfl⟩)
      simpa [Frame.fill, hsplit, Entries.insert_append_cons hsorted] using hstep

theorem Node.taken_of_amend (n : Node) (ho : n.Ordered) {w : Option Value}
    (h : (n.amend edit).value? = some w) : (Value.node n).Taken edit w := by
  match n with
  | .mk id kind tier fields =>
      simp only [Node.Ordered] at ho
      cases htake : edit (.mk id kind tier fields) with
      | some o =>
          simp only [Node.amend, htake] at h
          exact ⟨[], _, o, w, rfl, htake, h, Or.inr ⟨trivial, rfl⟩⟩
      | none =>
          cases hentries : Value.amendEntries edit fields with
          | none => simp [Node.amend, htake, hentries, Outcome.value?] at h
          | some e =>
              obtain ⟨key, x'⟩ := e
              simp only [Node.amend, htake, hentries, Outcome.value?] at h
              obtain rfl := Option.some.inj h
              obtain ⟨pre, x, post, y, hsplit, hx, rfl⟩ :=
                Value.exists_outcome_of_amendEntries hentries
              have hmem : (key, x) ∈ fields := by simp [hsplit]
              have hpart := Value.taken_of_mem_entries fields ho.2 hmem hx
              obtain ⟨hsorted, -⟩ := ho
              subst hsplit
              refine Frame.taken_fill (f := .field id kind tier pre key post) hpart ?_
              by_cases hguard : Node.isReserved key = false ∧ (y.getD .null).holdsNodeShape = false
              · obtain ⟨hkey, hshape⟩ := hguard
                right
                refine ⟨⟨Entries.sorted_append_cons_congr hsorted _, hkey, ?_⟩, ?_⟩
                · rw [← Value.holdsNodeShape_getD]
                  exact hshape
                · rw [Node.withField_of_accepted hkey hshape]
                  simp only [Node.id, Node.kind, Node.tier, Node.fields, Frame.fill,
                    Entries.insert_append_cons hsorted]
              · -- the node refuses its new field
                left
                refine ⟨?_, ?_⟩
                · rintro ⟨-, hkey, hshape⟩
                  rw [← Value.holdsNodeShape_getD] at hshape
                  exact hguard ⟨hkey, hshape⟩
                · rw [← Bool.or_eq_false_iff, Bool.not_eq_false] at hguard
                  rw [Node.withField, if_pos hguard]
                  rfl

theorem Value.taken_of_mem_items (items : List Value) (ho : Value.OrderedItems items) {v : Value}
    (hv : v ∈ items) {w : Option Value} (h : v.outcome edit = some w) : v.Taken edit w := by
  match items with
  | [] => cases hv
  | u :: us =>
      simp only [Value.OrderedItems] at ho
      rcases List.mem_cons.mp hv with heq | hmem
      · rw [heq] at h ⊢
        exact Value.taken_of_outcome u ho.1 h
      · exact Value.taken_of_mem_items us ho.2 hmem h

theorem Value.taken_of_mem_entries (entries : List (String × Value))
    (ho : Value.OrderedEntries entries) {key : String} {v : Value} (hv : (key, v) ∈ entries)
    {w : Option Value} (h : v.outcome edit = some w) : v.Taken edit w := by
  match entries with
  | [] => cases hv
  | (k, u) :: es =>
      simp only [Value.OrderedEntries] at ho
      rcases List.mem_cons.mp hv with heq | hmem
      · rw [(Prod.mk.inj heq).2] at h ⊢
        exact Value.taken_of_outcome u ho.1 h
      · exact Value.taken_of_mem_entries es ho.2 hmem h

end

namespace Tree

theorem ordered_nodes_iff (body : Body) : (Value.nodes body).Ordered ↔ Tree.Ordered body := by
  simp [Value.nodes, Value.Ordered, Value.orderedItems_iff, Tree.Ordered]

/-- What an edit can do to a body: put what became of one node in its place, or nothing if the way
up is not open. -/
theorem exists_of_amend? {body new : Body} (ho : Tree.Ordered body)
    (h : amend? edit body = some new) :
    ∃ (p : Spine) (t : Node) (o : Outcome) (x : Option Value),
      p.fill (some (.node t)) = some (.nodes body) ∧ edit t = some o ∧ o.value? = some x ∧
        (¬ p.Open ∧ new = body ∨ p.Open ∧ p.fill x = some (.nodes new)) := by
  have houtcome : (Value.nodes body).outcome edit = some (some (.nodes new)) := by
    have hamend : (Value.nodes body).amend edit = some (.nodes new) := by
      rw [Value.amend_nodes, h]
      rfl
    exact congrArg (Option.map some) hamend
  obtain ⟨p, t, o, x, hfill, htake, hx, hnew⟩ :=
    Value.taken_of_outcome _ ((ordered_nodes_iff body).mpr ho) houtcome
  refine ⟨p, t, o, x, hfill, htake, hx, hnew.imp ?_ ?_⟩
  · rintro ⟨hclosed, hsame⟩
    exact ⟨hclosed, Value.nodes_injective (Option.some.inj hsame)⟩
  · rintro ⟨hopen, hfilled⟩
    exact ⟨hopen, hfilled.symm⟩

end Tree

end HandlerStudio
