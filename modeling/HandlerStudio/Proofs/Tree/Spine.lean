import HandlerStudio.Proofs.Node.RoundTrip

/-!
# The spine above a node

The spine of a node is the way from the top of a value down to it. For every node, object and list
that is entered it keeps what stands before and after the part that is entered next, so that the
whole can be put together again around anything else. An edit that takes the node does just that:
the rest of the tree stays, and what becomes of the node stands in its place.
-/

namespace HandlerStudio

/-- A node, object or list without one of its parts. -/
inductive Frame where
  | field (id : NodeId) (kind : Kind) (tier : Tier) (before : List (String × Value)) (key : String)
      (after : List (String × Value))
  | entry (before : List (String × Value)) (key : String) (after : List (String × Value))
  | item (before after : List Value)

/-- The whole around a part. Without a part, a field or an entry is null and a list closes up. -/
def Frame.fill : Frame → Option Value → Value
  | .field id kind tier before key after, v =>
      .node (.mk id kind tier (before ++ (key, v.getD .null) :: after))
  | .entry before key after, v => .object (before ++ (key, v.getD .null) :: after)
  | .item before after, v => .list (before ++ v.toList ++ after)

/-- The identities that a walk meets before it enters the part. -/
def Frame.idsBefore : Frame → List NodeId
  | .field id _ _ before _ _ => id :: before.flatMap fun e => e.2.ids
  | .entry before _ _ => before.flatMap fun e => e.2.ids
  | .item before _ => before.flatMap Value.ids

def Frame.idsAfter : Frame → List NodeId
  | .field _ _ _ _ _ after => after.flatMap fun e => e.2.ids
  | .entry _ _ after => after.flatMap fun e => e.2.ids
  | .item _ after => after.flatMap Value.ids

/-- The frames on the way down, the outermost first. -/
abbrev Spine := List Frame

namespace Spine

def fill : Spine → Option Value → Option Value
  | [], v => v
  | f :: p, v => some (f.fill (fill p v))

def idsBefore (p : Spine) : List NodeId := p.flatMap Frame.idsBefore

def idsAfter : Spine → List NodeId
  | [] => []
  | f :: p => idsAfter p ++ f.idsAfter

@[simp] theorem fill_nil (v : Option Value) : fill [] v = v := rfl

@[simp] theorem fill_cons (f : Frame) (p : Spine) (v : Option Value) :
    fill (f :: p) v = some (f.fill (fill p v)) := rfl

theorem fill_append (p q : Spine) (v : Option Value) : fill (p ++ q) v = fill p (fill q v) := by
  induction p with
  | nil => rfl
  | cons f p ih => rw [List.cons_append, fill_cons, fill_cons, ih]

@[simp] theorem idsBefore_cons (f : Frame) (p : Spine) :
    idsBefore (f :: p) = f.idsBefore ++ idsBefore p := rfl

theorem exists_fill (p : Spine) (v : Value) : ∃ w, p.fill (some v) = some w := by
  cases p with
  | nil => exact ⟨v, rfl⟩
  | cons f p => exact ⟨_, rfl⟩

end Spine

/-! ## What the whole has -/

theorem Frame.ids_fill (f : Frame) (v : Option Value) :
    (f.fill v).ids = f.idsBefore ++ v.elim [] Value.ids ++ f.idsAfter := by
  cases f <;> cases v <;> simp [Frame.fill, Frame.idsBefore, Frame.idsAfter]

/-- The identities of the whole are those along the spine and those of the part at its end. -/
theorem Spine.ids_fill {p : Spine} {v : Option Value} {w : Value} (h : p.fill v = some w) :
    w.ids = p.idsBefore ++ v.elim [] Value.ids ++ p.idsAfter := by
  induction p generalizing w with
  | nil =>
      obtain rfl : v = some w := h
      simp [idsBefore, idsAfter]
  | cons f p ih =>
      obtain rfl : f.fill (fill p v) = w := Option.some.inj h
      rw [Frame.ids_fill]
      cases hinner : fill p v with
      | some u => simp [ih hinner, idsAfter]
      | none =>
          -- a frame is filled in any case, so the spine is empty
          cases p with
          | nil =>
              obtain rfl : v = none := hinner
              simp [idsBefore, idsAfter]
          | cons g q => cases hinner

/-- The nodes of the parts beside the one that is entered. -/
def Frame.beside : Frame → List Node
  | .field _ _ _ before _ after => (before ++ after).flatMap fun e => e.2.subtree
  | .entry before _ after => (before ++ after).flatMap fun e => e.2.subtree
  | .item before after => (before ++ after).flatMap Value.subtree

/-- A node of the whole is the whole itself, or stands in the part or beside it. -/
theorem Frame.mem_subtree_fill_iff (f : Frame) (v : Option Value) (m : Node) :
    m ∈ (f.fill v).subtree ↔ f.fill v = .node m ∨ (∃ u ∈ v, m ∈ u.subtree) ∨ m ∈ f.beside := by
  cases f <;> cases v <;> simp [Frame.fill, Frame.beside, eq_comm, or_left_comm]

theorem Frame.mem_subtree_fill (f : Frame) {v : Value} {m : Node} (hm : m ∈ v.subtree) :
    m ∈ (f.fill (some v)).subtree :=
  (f.mem_subtree_fill_iff (some v) m).mpr (Or.inr (Or.inl ⟨v, rfl, hm⟩))

theorem Spine.mem_subtree_fill {p : Spine} {v w : Value} (h : p.fill (some v) = some w) {m : Node}
    (hm : m ∈ v.subtree) : m ∈ w.subtree := by
  induction p generalizing w with
  | nil =>
      obtain rfl : v = w := Option.some.inj h
      exact hm
  | cons f p ih =>
      obtain ⟨u, hu⟩ := exists_fill p v
      obtain rfl : f.fill (fill p (some v)) = w := Option.some.inj h
      rw [hu]
      exact f.mem_subtree_fill (ih hu)

/-- A node of the whole is above the node at the end of the spine, below it, or apart from it, and
then it is also in the whole around anything else. -/
theorem Spine.mem_subtree_cases {p : Spine} {t : Node} {w : Value}
    (h : p.fill (some (.node t)) = some w) {q : Node} (hq : q ∈ w.subtree) :
    t ∈ q.subtree ∨ q ∈ t.subtree ∨ ∀ v : Option Value, ∃ u ∈ p.fill v, q ∈ u.subtree := by
  induction p generalizing w with
  | nil =>
      obtain rfl : Value.node t = w := Option.some.inj h
      exact Or.inr (Or.inl hq)
  | cons f p ih =>
      obtain ⟨u, hu⟩ := exists_fill p (.node t)
      rw [fill_cons, hu] at h
      obtain rfl := Option.some.inj h
      rcases (f.mem_subtree_fill_iff (some u) q).mp hq with hself | ⟨x, hx, hinner⟩ | hbeside
      · left
        have ht : t ∈ u.subtree := mem_subtree_fill hu t.self_mem_subtree
        have hwhole : t ∈ (f.fill (some u)).subtree := f.mem_subtree_fill ht
        rwa [hself] at hwhole
      · obtain rfl := Option.some.inj hx
        rcases ih hu hinner with habove | hbelow | hapart
        · exact Or.inl habove
        · exact Or.inr (Or.inl hbelow)
        · right; right
          intro v
          exact ⟨_, rfl, (f.mem_subtree_fill_iff _ q).mpr (Or.inr (Or.inl (hapart v)))⟩
      · right; right
        intro v
        exact ⟨_, rfl, (f.mem_subtree_fill_iff _ q).mpr (Or.inr (Or.inr hbeside))⟩

/-! ## Where a search ends -/

section Search

variable (id : NodeId)

mutual

/-- What a search finds stands at the end of a spine, and the identity does not occur before it. -/
theorem Value.exists_spine (v : Value) {t : Node} (h : v.find? id = some t) :
    ∃ p : Spine, p.fill (some (.node t)) = some v ∧ id ∉ p.idsBefore := by
  match v with
  | .null | .bool _ | .number _ | .text _ => simp [Value.find?] at h
  | .node n => exact Node.exists_spine n (by simpa only [Value.find?] using h)
  | .list items =>
      obtain ⟨before, v, after, p, rfl, hfill, hbefore, hp⟩ :=
        Value.exists_spine_items items (by simpa only [Value.find?] using h)
      refine ⟨.item before after :: p, by simp [Frame.fill, hfill], ?_⟩
      simpa [Frame.idsBefore] using And.intro (by simpa using hbefore) hp
  | .object entries =>
      obtain ⟨before, key, v, after, p, rfl, hfill, hbefore, hp⟩ :=
        Value.exists_spine_entries entries (by simpa only [Value.find?] using h)
      refine ⟨.entry before key after :: p, by simp [Frame.fill, hfill], ?_⟩
      simpa [Frame.idsBefore] using And.intro (by simpa using hbefore) hp

theorem Node.exists_spine (n : Node) {t : Node} (h : n.find? id = some t) :
    ∃ p : Spine, p.fill (some (.node t)) = some (.node n) ∧ id ∉ p.idsBefore := by
  match n with
  | .mk i kind tier fields =>
      rw [Node.find?] at h
      by_cases hi : i = id
      · rw [if_pos hi] at h
        obtain rfl := Option.some.inj h
        exact ⟨[], rfl, by simp [Spine.idsBefore]⟩
      · rw [if_neg hi] at h
        obtain ⟨before, key, v, after, p, rfl, hfill, hbefore, hp⟩ :=
          Value.exists_spine_entries fields h
        refine ⟨.field i kind tier before key after :: p, by simp [Frame.fill, hfill], ?_⟩
        rw [Spine.idsBefore_cons, List.mem_append, not_or]
        refine ⟨?_, hp⟩
        rw [Frame.idsBefore, List.mem_cons, not_or]
        exact ⟨Ne.symm hi, hbefore⟩

theorem Value.exists_spine_items (items : List Value) {t : Node}
    (h : Value.findInItems? id items = some t) :
    ∃ before v after, ∃ p : Spine, items = before ++ v :: after ∧
      p.fill (some (.node t)) = some v ∧ id ∉ before.flatMap Value.ids ∧ id ∉ p.idsBefore := by
  match items with
  | [] => simp [Value.findInItems?] at h
  | v :: vs =>
      rw [Value.findInItems?] at h
      cases hv : v.find? id with
      | some m =>
          obtain rfl : m = t := by simpa [hv] using h
          obtain ⟨p, hfill, hp⟩ := Value.exists_spine v hv
          exact ⟨[], v, vs, p, rfl, hfill, by simp, hp⟩
      | none =>
          obtain ⟨before, u, after, p, rfl, hfill, hbefore, hp⟩ :=
            Value.exists_spine_items vs (by simpa [hv] using h)
          have hfirst := (Value.find?_eq_none_iff id v).mp hv
          refine ⟨v :: before, u, after, p, rfl, hfill, ?_, hp⟩
          rw [List.flatMap_cons, List.mem_append, not_or]
          exact ⟨hfirst, hbefore⟩

theorem Value.exists_spine_entries (entries : List (String × Value)) {t : Node}
    (h : Value.findInEntries? id entries = some t) :
    ∃ before key v after, ∃ p : Spine, entries = before ++ (key, v) :: after ∧
      p.fill (some (.node t)) = some v ∧ (id ∉ before.flatMap fun e => e.2.ids) ∧
        id ∉ p.idsBefore := by
  match entries with
  | [] => simp [Value.findInEntries?] at h
  | (k, v) :: es =>
      rw [Value.findInEntries?] at h
      cases hv : v.find? id with
      | some m =>
          obtain rfl : m = t := by simpa [hv] using h
          obtain ⟨p, hfill, hp⟩ := Value.exists_spine v hv
          exact ⟨[], k, v, es, p, rfl, hfill, by simp, hp⟩
      | none =>
          obtain ⟨before, key, u, after, p, rfl, hfill, hbefore, hp⟩ :=
            Value.exists_spine_entries es (by simpa [hv] using h)
          have hfirst := (Value.find?_eq_none_iff id v).mp hv
          refine ⟨(k, v) :: before, key, u, after, p, rfl, hfill, ?_, hp⟩
          rw [List.flatMap_cons, List.mem_append, not_or]
          exact ⟨hfirst, hbefore⟩

end

end Search

end HandlerStudio
