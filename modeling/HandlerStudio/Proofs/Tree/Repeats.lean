import HandlerStudio.Proofs.Tree.Identities
import HandlerStudio.Tree.Edit
import HandlerStudio.Tree.Stats
import Mathlib.Data.List.Induction

/-!
# Repeated identities

Two scans look for identities that occur more than once. One lists them all, for a tree; the other
keeps the first, for a value that comes in. Both are folds over the identities in walking order,
and what the second keeps is the head of what the first lists (`RepeatScan.first`).

An identity is listed at the place where it is met for the second time (`SecondAt`).
`RepeatScan.Lists` says what a scan holds after a number of identities; each visit keeps it, so it
holds of the whole walk.
-/

namespace HandlerStudio

/-! ## Second occurrences -/

/-- At this place an identity is met for the second time. -/
def SecondAt (ids : List NodeId) (id : NodeId) (place : Nat) : Prop :=
  ids[place]? = some id ∧ (ids.take place).count id = 1

namespace SecondAt

variable {ids : List NodeId} {id : NodeId} {i j : Nat}

theorem lt_length (h : SecondAt ids id i) : i < ids.length :=
  (List.getElem?_eq_some_iff.mp h.1).1

theorem append (h : SecondAt ids id i) (later : List NodeId) : SecondAt (ids ++ later) id i := by
  have hi := h.lt_length
  rw [SecondAt, List.getElem?_append_left hi, List.take_append_of_le_length (Nat.le_of_lt hi)]
  exact h

theorem take (h : SecondAt ids id i) (hij : i < j) : SecondAt (ids.take j) id i := by
  rw [SecondAt, List.getElem?_take_of_lt hij, List.take_take, Nat.min_eq_left (Nat.le_of_lt hij)]
  exact h

theorem concat (h : ids.count id = 1) : SecondAt (ids ++ [id]) id ids.length := by
  refine ⟨by simp, ?_⟩
  rw [List.take_left]
  exact h

theorem two_le_count (h : SecondAt ids id i) : 2 ≤ ids.count id := by
  obtain ⟨hi, hid⟩ := List.getElem?_eq_some_iff.mp h.1
  have hsplit : ids = ids.take i ++ id :: ids.drop (i + 1) := by
    rw [← hid, ← List.drop_eq_getElem_cons hi, List.take_append_drop]
  rw [hsplit, List.count_append, h.2, List.count_cons_self]
  omega

/-- There is one place where an identity is met for the second time. -/
theorem place_eq (hi : SecondAt ids id i) (hj : SecondAt ids id j) : i = j := by
  -- before the later of two such places the identity would be met twice
  by_contra hne
  rcases Nat.lt_or_gt_of_ne hne with hlt | hgt
  · have htwo := (hi.take hlt).two_le_count
    have hone := hj.2
    omega
  · have htwo := (hj.take hgt).two_le_count
    have hone := hi.2
    omega

end SecondAt

theorem exists_secondAt_iff {ids : List NodeId} {id : NodeId} :
    (∃ i, SecondAt ids id i) ↔ 2 ≤ ids.count id := by
  refine ⟨fun ⟨i, hi⟩ => hi.two_le_count, ?_⟩
  induction ids using List.reverseRecOn with
  | nil => simp
  | append_singleton ids last ih =>
      intro htwo
      rw [List.count_append, List.count_singleton] at htwo
      by_cases hbefore : 2 ≤ ids.count id
      · obtain ⟨i, hi⟩ := ih hbefore
        exact ⟨i, hi.append [last]⟩
      · have hlast : last = id := by
          by_contra hne
          simp only [beq_iff_eq, hne, if_false] at htwo
          omega
        subst hlast
        simp only [beq_self_eq_true, if_true] at htwo
        exact ⟨ids.length, SecondAt.concat (by omega)⟩

/-- One identity is met for the second time before another one is. -/
def RepeatsBefore (ids : List NodeId) (a b : NodeId) : Prop :=
  ∃ i j, SecondAt ids a i ∧ SecondAt ids b j ∧ i < j

theorem RepeatsBefore.append {ids : List NodeId} {a b : NodeId} (h : RepeatsBefore ids a b)
    (later : List NodeId) : RepeatsBefore (ids ++ later) a b := by
  obtain ⟨i, j, hi, hj, hlt⟩ := h
  exact ⟨i, j, hi.append later, hj.append later, hlt⟩

theorem RepeatsBefore.ne {ids : List NodeId} {a b : NodeId} (h : RepeatsBefore ids a b) :
    a ≠ b := by
  rintro rfl
  obtain ⟨i, j, hi, hj, hlt⟩ := h
  exact absurd (hi.place_eq hj) (Nat.ne_of_lt hlt)

/-! ## The scan that lists -/

namespace RepeatScan

theorem mem_seen_visit (s : RepeatScan) (id x : NodeId) :
    x ∈ (s.visit id).seen ↔ x ∈ s.seen ∨ x = id := by
  by_cases hs : id ∈ s.seen
  · have hseen : (s.visit id).seen = s.seen := by
      simp only [visit, List.contains_iff_mem.mpr hs, if_true]
      split <;> rfl
    rw [hseen]
    exact ⟨Or.inl, fun h => h.elim (fun h => h) fun h => h ▸ hs⟩
  · simp [visit, hs, or_comm]

/-- An identity is listed when it was seen before and is not listed yet. -/
theorem repeated_visit (s : RepeatScan) (id : NodeId) :
    (s.visit id).repeated =
      if id ∈ s.seen ∧ id ∉ s.repeated then s.repeated ++ [id] else s.repeated := by
  by_cases hs : id ∈ s.seen <;> by_cases hr : id ∈ s.repeated <;> simp [visit, hs, hr]

theorem mem_repeated_visit (s : RepeatScan) (id x : NodeId) :
    x ∈ (s.visit id).repeated ↔ x ∈ s.repeated ∨ (x = id ∧ id ∈ s.seen) := by
  rw [repeated_visit]
  split
  · next hsecond => simp [hsecond.1]
  · next hother =>
    refine ⟨Or.inl, fun h => h.elim (fun h => h) ?_⟩
    rintro ⟨rfl, hseen⟩
    by_contra hnew
    exact hother ⟨hseen, hnew⟩

/-- The scan has met these identities and lists those that occur in them again. -/
structure Lists (s : RepeatScan) (met : List NodeId) : Prop where
  mem_seen : ∀ id, id ∈ s.seen ↔ id ∈ met
  mem_repeated : ∀ id, id ∈ s.repeated ↔ 2 ≤ met.count id
  inOrder : s.repeated.Pairwise (RepeatsBefore met)

namespace Lists

variable {s : RepeatScan} {met : List NodeId}

theorem count_eq_one (h : s.Lists met) {id : NodeId} (hseen : id ∈ s.seen)
    (hnew : id ∉ s.repeated) : met.count id = 1 := by
  have hpos := List.count_pos_iff.mpr ((h.mem_seen id).mp hseen)
  have hlt := mt (h.mem_repeated id).mpr hnew
  omega

theorem visit (h : s.Lists met) (id : NodeId) : (s.visit id).Lists (met ++ [id]) where
  mem_seen := by
    intro x
    rw [mem_seen_visit, h.mem_seen, List.mem_append, List.mem_singleton]
  mem_repeated := by
    intro x
    rw [mem_repeated_visit, h.mem_repeated, h.mem_seen, ← List.count_pos_iff, List.count_append,
      List.count_singleton]
    by_cases hx : x = id
    · subst hx
      simp only [true_and, beq_self_eq_true, if_true]
      omega
    · simp [hx, Ne.symm hx]
  inOrder := by
    have hkeep : s.repeated.Pairwise (RepeatsBefore (met ++ [id])) :=
      h.inOrder.imp fun hbefore => hbefore.append [id]
    rw [repeated_visit]
    split
    · next hsecond =>
      -- the place of the new one is the last, after all those listed before
      refine List.pairwise_append.mpr ⟨hkeep, List.pairwise_singleton _ _, ?_⟩
      intro a ha b hb
      obtain rfl := List.mem_singleton.mp hb
      obtain ⟨i, hi⟩ := exists_secondAt_iff.mpr ((h.mem_repeated a).mp ha)
      have hlast := SecondAt.concat (h.count_eq_one hsecond.1 hsecond.2)
      exact ⟨i, met.length, hi.append _, hlast, hi.lt_length⟩
    · exact hkeep

theorem foldl_visit (h : s.Lists met) (ids : List NodeId) :
    (ids.foldl RepeatScan.visit s).Lists (met ++ ids) := by
  induction ids generalizing s met with
  | nil => simpa using h
  | cons id ids ih => simpa using ih (h.visit id)

theorem nodup_repeated (h : s.Lists met) : s.repeated.Nodup :=
  h.inOrder.imp fun hbefore => hbefore.ne

theorem repeated_eq_nil_iff (h : s.Lists met) : s.repeated = [] ↔ met.Nodup := by
  rw [List.eq_nil_iff_forall_not_mem, List.nodup_iff_count_le_one]
  refine forall_congr' fun id => ?_
  rw [h.mem_repeated]
  omega

/-- The first identity listed is the first that is met again. -/
theorem exists_first (h : s.Lists met) {id : NodeId} (hid : id ∈ s.repeated.head?) :
    ∃ i, SecondAt met id i ∧ ∀ x j, SecondAt met x j → i ≤ j := by
  obtain ⟨rest, hlist⟩ := List.head?_eq_some_iff.mp (Option.mem_def.mp hid)
  obtain ⟨i, hi⟩ := exists_secondAt_iff.mpr ((h.mem_repeated id).mp (by simp [hlist]))
  refine ⟨i, hi, ?_⟩
  intro x j hj
  have hx := (h.mem_repeated x).mpr hj.two_le_count
  have horder := h.inOrder
  rw [hlist, List.pairwise_cons] at horder
  rw [hlist] at hx
  rcases List.mem_cons.mp hx with rfl | hx
  · exact Nat.le_of_eq (hi.place_eq hj)
  · obtain ⟨i', j', hi', hj', hlt⟩ := horder.1 x hx
    rw [hi.place_eq hi', hj.place_eq hj']
    exact Nat.le_of_lt hlt

end Lists

theorem lists_foldl (ids : List NodeId) : (ids.foldl visit {}).Lists ids := by
  have hstart : ({} : RepeatScan).Lists [] := ⟨by simp, by simp, List.Pairwise.nil⟩
  simpa using hstart.foldl_visit ids

/-! ## The scan that keeps the first -/

/-- The scan that has seen the same identities and keeps the first of those listed. -/
def first (s : RepeatScan) : IdScan where
  seen := s.seen
  repeated := s.repeated.head?

theorem first_visit (s : RepeatScan) (id : NodeId) : s.first.visit id = (s.visit id).first := by
  by_cases hs : id ∈ s.seen
  · by_cases hr : id ∈ s.repeated
    · have hkeep : s.repeated.head?.or (some id) = s.repeated.head? := by
        cases hlist : s.repeated with
        | nil => simp [hlist] at hr
        | cons x rest => rfl
      simp [IdScan.visit, visit, first, hs, hr, hkeep]
    · simp [IdScan.visit, visit, first, hs, hr, List.head?_append]
  · simp [IdScan.visit, visit, first, hs]

end RepeatScan

mutual

/-- Meeting all identities of a value is meeting them one by one in walking order. -/
theorem Value.scanIds_eq_foldl (v : Value) (s : IdScan) :
    v.scanIds s = v.ids.foldl IdScan.visit s := by
  match v with
  | .null | .bool _ | .number _ | .text _ => rfl
  | .node n => simpa only [Value.scanIds, Value.ids_node] using Node.scanIds_eq_foldl n s
  | .list items =>
      simpa only [Value.scanIds, Value.ids_list] using Value.scanItems_eq_foldl items s
  | .object entries =>
      simpa only [Value.scanIds, Value.ids_object] using Value.scanEntries_eq_foldl entries s

theorem Node.scanIds_eq_foldl (n : Node) (s : IdScan) :
    n.scanIds s = n.ids.foldl IdScan.visit s := by
  match n with
  | .mk id kind tier fields =>
      simp only [Node.scanIds, Node.ids_mk, List.foldl_cons]
      exact Value.scanEntries_eq_foldl fields (s.visit id)

theorem Value.scanItems_eq_foldl (items : List Value) (s : IdScan) :
    Value.scanItems s items = (items.flatMap Value.ids).foldl IdScan.visit s := by
  match items with
  | [] => rfl
  | v :: vs =>
      simp only [Value.scanItems, List.flatMap_cons, List.foldl_append]
      rw [Value.scanIds_eq_foldl v s]
      exact Value.scanItems_eq_foldl vs _

theorem Value.scanEntries_eq_foldl (entries : List (String × Value)) (s : IdScan) :
    Value.scanEntries s entries = (entries.flatMap fun e => e.2.ids).foldl IdScan.visit s := by
  match entries with
  | [] => rfl
  | (k, v) :: es =>
      simp only [Value.scanEntries, List.flatMap_cons, List.foldl_append]
      rw [Value.scanIds_eq_foldl v s]
      exact Value.scanEntries_eq_foldl es _

end

namespace Value

theorem scanIds_eq_first (v : Value) :
    v.scanIds {} = (v.ids.foldl RepeatScan.visit {}).first := by
  have hstart : ({} : IdScan) = RepeatScan.first {} := rfl
  rw [scanIds_eq_foldl, hstart]
  exact List.foldl_hom RepeatScan.first RepeatScan.first_visit

theorem mem_seen_scanIds (v : Value) (id : NodeId) : id ∈ (v.scanIds {}).seen ↔ id ∈ v.ids := by
  rw [scanIds_eq_first]
  exact (RepeatScan.lists_foldl v.ids).mem_seen id

theorem repeated_scanIds_eq_none_iff (v : Value) :
    (v.scanIds {}).repeated = none ↔ v.ids.Nodup := by
  rw [scanIds_eq_first, ← (RepeatScan.lists_foldl v.ids).repeated_eq_nil_iff]
  exact List.head?_eq_none_iff

end Value

namespace Tree

/-- The list of repeated identities is empty exactly for trees that name each node once. -/
theorem duplicateIds_eq_nil_iff (body : Body) : duplicateIds body = [] ↔ UniqueIds body :=
  (RepeatScan.lists_foldl (ids body)).repeated_eq_nil_iff

/-- Nothing clashes exactly when the incoming identities are distinct and those that the tree has
already go away with the replaced value. -/
theorem clash?_eq_none_iff (body : Body) (incoming : Value) (replaced : Option Value) :
    clash? body incoming replaced = none ↔
      incoming.ids.Nodup ∧
        ∀ id ∈ ids body, id ∈ incoming.ids → ∃ v ∈ replaced, id ∈ v.ids := by
  have hrepeat := incoming.repeated_scanIds_eq_none_iff
  unfold clash?
  cases hr : (incoming.scanIds {}).repeated with
  | some id =>
      have hdup : ¬ incoming.ids.Nodup := fun h => by simp [hrepeat.mpr h] at hr
      simp [hr, hdup]
  | none =>
      cases replaced <;> simp [hr, hrepeat.mp hr, Value.mem_seen_scanIds]

/-- The list of repeated identities of a tree is exact: it names those that occur at least twice,
each once, by the places of their second occurrences. The scan of a value sees all identities in it,
keeps nothing exactly when they are distinct, and else keeps the first that is met again. -/
theorem repeats_found_in_order (body : Body) (v : Value) :
    ((∀ id, id ∈ duplicateIds body ↔ 2 ≤ (ids body).count id) ∧
      (duplicateIds body).Nodup ∧
      (duplicateIds body).Pairwise (RepeatsBefore (ids body))) ∧
    ((v.scanIds {}).repeated = none ↔ v.ids.Nodup) ∧
    (∀ id, id ∈ (v.scanIds {}).seen ↔ id ∈ v.ids) ∧
    ∀ id ∈ (v.scanIds {}).repeated,
      ∃ i, SecondAt v.ids id i ∧ ∀ x j, SecondAt v.ids x j → i ≤ j := by
  have hlists := RepeatScan.lists_foldl (ids body)
  refine ⟨⟨hlists.mem_repeated, hlists.nodup_repeated, hlists.inOrder⟩,
    v.repeated_scanIds_eq_none_iff, v.mem_seen_scanIds, ?_⟩
  intro id hid
  rw [Value.scanIds_eq_first] at hid
  exact (RepeatScan.lists_foldl v.ids).exists_first hid

/-- Two identities that come twice, the one inside the other. -/
def sampleRepeats : Body :=
  let inner : Value := .node (.mk ⟨"b"⟩ .literal .universal [])
  [.mk ⟨"a"⟩ .arrayExpression .universal [("elements", .list [inner, .object [("spare", inner)]])],
    .mk ⟨"a"⟩ .literal .universal []]

theorem repeats_found_sampleRepeats :
    duplicateIds sampleRepeats = [⟨"b"⟩, ⟨"a"⟩] ∧
      RepeatsBefore (ids sampleRepeats) ⟨"b"⟩ ⟨"a"⟩ ∧
      (Value.list (sampleRepeats.map .node)).scanIds {} = ⟨[⟨"b"⟩, ⟨"a"⟩], some ⟨"b"⟩⟩ ∧
      ∃ i, SecondAt (Value.list (sampleRepeats.map .node)).ids ⟨"b"⟩ i ∧
        ∀ x j, SecondAt (Value.list (sampleRepeats.map .node)).ids x j → i ≤ j := by
  have hlist : duplicateIds sampleRepeats = [⟨"b"⟩, ⟨"a"⟩] := by decide
  have hscan : (Value.list (sampleRepeats.map .node)).scanIds {} =
      ⟨[⟨"b"⟩, ⟨"a"⟩], some ⟨"b"⟩⟩ := by rfl
  obtain ⟨⟨-, -, horder⟩, -, -, hfirst⟩ :=
    repeats_found_in_order sampleRepeats (.list (sampleRepeats.map .node))
  rw [hlist, List.pairwise_cons] at horder
  exact ⟨hlist, horder.1 _ (by simp), hscan, hfirst _ (by simp [hscan])⟩

end Tree

end HandlerStudio
