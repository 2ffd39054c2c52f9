import HandlerStudio.Tree.Stats
import Mathlib.Data.List.Basic

/-!
# What a summary counts

A summary is filled while the tree is walked, one node after the other. `TreeStats.Sums` says what
it holds after a number of visits; each visit keeps it, so it holds of the whole walk.
-/

namespace HandlerStudio

namespace TierCounts

def total (c : TierCounts) : Nat := c.universal + c.domain + c.specialized + c.native

theorem total_add (c : TierCounts) (t : Tier) : (c.add t).total = c.total + 1 := by
  cases t <;> simp only [total, add] <;> omega

end TierCounts

namespace TreeStats

/-- The summary is that of the nodes visited, which are given with their depths. -/
structure Sums (s : TreeStats) (visits : List (Nat × Node)) : Prop where
  nodes : s.nodes = visits.length
  depth_lt : ∀ p ∈ visits, p.1 < s.maxDepth
  exists_depth : s.maxDepth = 0 ∨ ∃ p ∈ visits, s.maxDepth = 1 + p.1
  count : ∀ t, s.count t = visits.countP fun p => p.2.tier = t
  total : s.byTier.total = visits.length
  hasNativeBridge : s.hasNativeBridge = visits.any fun p => p.2.kind == .nativeBridge

theorem Sums.visit {s : TreeStats} {visits : List (Nat × Node)} (h : s.Sums visits) (depth : Nat)
    (n : Node) : (s.visit depth n).Sums (visits ++ [(depth, n)]) where
  nodes := by simp [TreeStats.visit, h.nodes]
  depth_lt := by
    intro p hp
    have hmax : (s.visit depth n).maxDepth = max s.maxDepth (depth + 1) := rfl
    rcases List.mem_append.mp hp with hp | hp
    · have hlt := h.depth_lt p hp
      omega
    · cases List.mem_singleton.mp hp
      omega
  exists_depth := by
    have hmax : (s.visit depth n).maxDepth = max s.maxDepth (depth + 1) := rfl
    right
    rcases Nat.lt_or_ge depth s.maxDepth with hlt | hge
    · obtain ⟨p, hp, hdepth⟩ := h.exists_depth.resolve_left (by omega)
      exact ⟨p, List.mem_append_left _ hp, by omega⟩
    · exact ⟨(depth, n), by simp, by omega⟩
  count := by
    intro t
    have hcount : (s.visit depth n).count t = s.count t + if n.tier = t then 1 else 0 :=
      TierCounts.get_add s.byTier n.tier t
    rw [hcount, h.count t, List.countP_append]
    simp
  total := by
    have htotal : (s.visit depth n).byTier.total = s.byTier.total + 1 :=
      TierCounts.total_add s.byTier n.tier
    simp [htotal, h.total]
  hasNativeBridge := by simp [TreeStats.visit, h.hasNativeBridge]

theorem Sums.foldl_visit {s : TreeStats} {before : List (Nat × Node)} (h : s.Sums before)
    (visits : List (Nat × Node)) :
    (visits.foldl (fun s p => s.visit p.1 p.2) s).Sums (before ++ visits) := by
  induction visits generalizing s before with
  | nil => simpa using h
  | cons p visits ih => simpa using ih (h.visit p.1 p.2)

theorem sums_collect (body : Body) : (collect body).Sums (Tree.walk body) := by
  have hstart : ({} : TreeStats).Sums [] := by
    refine ⟨rfl, by simp, Or.inl rfl, ?_, rfl, rfl⟩
    intro t
    cases t <;> rfl
  exact hstart.foldl_visit (Tree.walk body)

theorem Sums.maxDepth_eq {s : TreeStats} {visits : List (Nat × Node)} (h : s.Sums visits) :
    s.maxDepth = ((visits.map Prod.fst).max?).elim 0 (1 + ·) := by
  rcases h.exists_depth with hzero | ⟨p, hp, hdepth⟩
  · have hnil : visits = [] := by
      apply List.eq_nil_iff_forall_not_mem.mpr
      intro p hp
      have hlt := h.depth_lt p hp
      omega
    rw [hzero, hnil]
    rfl
  · have hmax : (visits.map Prod.fst).max? = some p.1 := by
      apply List.max?_eq_some_iff.mpr
      refine ⟨List.mem_map_of_mem hp, ?_⟩
      intro d hd
      obtain ⟨q, hq, rfl⟩ := List.mem_map.mp hd
      have hlt := h.depth_lt q hq
      omega
    rw [hdepth, hmax]
    rfl

/-! ## Portability -/

theorem of_worstTier?_eq_some {s : TreeStats} {t : Tier} (h : s.worstTier? = some t) :
    0 < s.count t ∧ ∀ u, 0 < s.count u → u.toNat ≤ t.toNat := by
  obtain ⟨hcount, before, after, hall, hbefore⟩ := List.find?_eq_some_iff_append.mp h
  refine ⟨by simpa using hcount, ?_⟩
  intro u hu
  have hmem : u ∈ before ++ t :: after := by
    rw [← hall]
    cases u <;> decide
  -- tiers are tried from the largest down, so the ones after `t` are smaller
  have hdown : (Tier.all.reverse).Pairwise fun a b => b.toNat ≤ a.toNat := by decide
  rw [hall, List.pairwise_append, List.pairwise_cons] at hdown
  rcases List.mem_append.mp hmem with hmem | hmem
  · have hzero := hbefore u hmem
    simp at hzero
    omega
  · rcases List.mem_cons.mp hmem with rfl | hmem
    · exact Nat.le_refl _
    · exact hdown.2.1.1 u hmem

theorem worstTier?_eq_none_iff (s : TreeStats) :
    s.worstTier? = none ↔ ∀ t, s.count t = 0 := by
  rw [worstTier?, List.find?_eq_none]
  constructor
  · intro h t
    have ht : t ∈ Tier.all.reverse := by cases t <;> decide
    have hzero := h t ht
    simpa using hzero
  · intro h t _
    simp [h t]

/-- The least portable tier is the largest of those visited. -/
theorem Sums.worstTier?_eq {s : TreeStats} {visits : List (Nat × Node)} (h : s.Sums visits) :
    s.worstTier?.map Tier.toNat = (visits.map fun p => p.2.tier.toNat).max? := by
  have hpos : ∀ t, 0 < s.count t ↔ ∃ p ∈ visits, p.2.tier = t := by
    intro t
    rw [h.count t, List.countP_pos_iff]
    simp
  cases hworst : s.worstTier? with
  | none =>
      have hnil : visits = [] := by
        apply List.eq_nil_iff_forall_not_mem.mpr
        intro p hp
        have hzero := (worstTier?_eq_none_iff s).mp hworst p.2.tier
        have hcount := (hpos p.2.tier).mpr ⟨p, hp, rfl⟩
        omega
      rw [hnil]
      rfl
  | some t =>
      obtain ⟨hcount, hgreatest⟩ := of_worstTier?_eq_some hworst
      obtain ⟨p, hp, rfl⟩ := (hpos t).mp hcount
      symm
      apply List.max?_eq_some_iff.mpr
      refine ⟨List.mem_map_of_mem (f := fun p => p.2.tier.toNat) hp, ?_⟩
      intro m hm
      obtain ⟨q, hq, rfl⟩ := List.mem_map.mp hm
      exact hgreatest q.2.tier ((hpos q.2.tier).mpr ⟨q, hq, rfl⟩)

theorem Sums.isFullyPortable_iff {s : TreeStats} {visits : List (Nat × Node)} (h : s.Sums visits) :
    s.isFullyPortable = true ↔ ∀ p ∈ visits, p.2.tier = .universal := by
  rw [isFullyPortable, beq_iff_eq, h.nodes, h.count, eq_comm, List.countP_eq_length]
  simp

end TreeStats

end HandlerStudio
